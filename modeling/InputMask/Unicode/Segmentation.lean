import InputMask.Unicode.Property

/-!
# Boundaries of characters, words and sentences

Three properties sort characters by their part in the rules that divide a text into what
readers see as characters, into words and into sentences. Characters without such a part
have no value here.

## Main definitions

* `graphemeClusterBreak?`, `wordBreak?`, `sentenceBreak?`: the characters with a value of
  the property, by the normal name of the value
-/

namespace InputMask.Unicode

/-- The parts in what readers see as characters, but for the syllables of Hangul. -/
def graphemeClusterBreakTable : String := "
  CR: d.
  LF: a.
  CN Control: Zl Zp Cc Cf 2065 fff0-fff8 e0000-e001f e0080-e00ff e01f0-e0fff ;
    Prepended_Concatenation_Mark Join_Control a d e0020-e007f.
  EX Extend: Mn Me Other_Grapheme_Extend Emoji_Modifier.
  ZWJ: 200d.
  RI Regional_Indicator: 1f1e6-1f1ff.
  PP Prepend: Prepended_Concatenation_Mark d4e 111c2-111c3 113d1 1193f 11941 11a3a 11a84-11a89
    11d46 11f02.
  SM SpacingMark: Mc e33 eb3 ; Other_Grapheme_Extend 102b-102c 1038 1062-1083 1087-109c 1a61-1a64
    aa7b-aa7d 11720-11721.
  L: 1100-115f a960-a97c.
  V: 1160-11a7 d7b0-d7c6 16d63 16d67-16d6a.
  T: 11a8-11ff d7cb-d7fb"

/-- The parts in words. -/
def wordBreakTable : String := "
  CR: d.
  LF: a.
  NL Newline: b-c 85 2028-2029.
  Extend: Mn Mc Me Other_Grapheme_Extend Emoji_Modifier.
  ZWJ: 200d.
  FO Format: Cf ; Prepended_Concatenation_Mark 200b-200d e0020-e007f.
  RI Regional_Indicator: 1f1e6-1f1ff.
  KA Katakana: 3031-3035 309b-309c 30a0-30fa 30fc-30ff 31f0-31ff 32d0-32fe 3300-3357 ff66-ff9d
    1aff0-1aff3 1aff5-1affb 1affd-1affe 1b000 1b120-1b122 1b155 1b164-1b167.
  HL Hebrew_Letter: 5d0-5ea 5ef-5f2 fb1d fb1f-fb28 fb2a-fb36 fb38-fb3c fb3e fb40-fb41 fb43-fb44
    fb46-fb4f.
  LE ALetter: Lu Ll Lt Lm Lo Nl Other_Alphabetic 2c2-2d7 2de-2ff 55a-55c 55e 58a 5f3 70f a708-a78a
    ab5b ; Ideographic Mn Mc 5d0-5f2 e01-edf 1000-108e 1780-17dc 1950-19c9 1a20-1aa7 3031-3035
    3041-30ff 31f0-31ff a9e0-a9fe aa60-aadd fb1d-fb4f ff66-ff9f 11700-11746 1aff0-1b167.
  SQ Single_Quote: 27.
  DQ Double_Quote: 22.
  MB MidNumLet: 2e 2018-2019 2024 fe52 ff07 ff0e.
  ML MidLetter: 3a b7 387 55f 5f4 2027 fe13 fe55 ff1a.
  MN MidNum: 2c 3b 37e 589 60c-60d 66c 7f8 2044 fe50 fe54 ff0c ff1b.
  NU Numeric: Nd Prepended_Concatenation_Mark 66b 19da ; 70f.
  EX ExtendNumLet: Pc 202f.
  WSegSpace: Zs ; a0 2007 202f"

/-- The parts in sentences. -/
def sentenceBreakTable : String := "
  CR: d.
  LF: a.
  SE Sep: 85 2028-2029.
  EX Extend: Mn Mc Me Other_Grapheme_Extend 200d.
  FO Format: Cf ; 600-605 6dd 890-8e2 200c-200d 110bd-110cd e0020-e007f.
  SP Sp: Zs 9 b-c.
  LO Lower: Ll Other_Lowercase ; Mn 10d0-10fa 10fd-10ff.
  UP Upper: Lu Lt Other_Uppercase ; 1c90-1cbf.
  LE OLetter: Lm Lo Nl 5f3 10d0-10fa 10fd-10ff 1c90-1cba 1cbd-1cbf ; Other_Lowercase 2160-216f
    ff9e-ff9f.
  NU Numeric: Nd Prepended_Concatenation_Mark 66b-66c 19da ; 70f.
  AT ATerm: 2e 2024 fe52 ff0e.
  SC SContinue: 2c-2d 3a-3b 37e 55d 60c-60d 7f8 1802 1808 2013-2014 3001 fe10-fe11 fe13-fe14
    fe31-fe32 fe50-fe51 fe54-fe55 fe58 fe63 ff0c-ff0d ff1a-ff1b ff64.
  ST STerm: 21 3f 589 61d-61f 6d4 700-702 7f9 837 839 83d-83e 964-965 104a-104b 1362 1367-1368 166e
    1735-1736 17d4-17d5 1803 1809 1944-1945 1aa8-1aab 1b4e-1b4f 1b5a-1b5b 1b5e-1b5f 1b7d-1b7f
    1c3b-1c3c 1c7e-1c7f 203c-203d 2047-2049 2cf9-2cfb 2e2e 2e3c 2e53-2e54 3002 a4ff a60e-a60f a6f3
    a6f7 a876-a877 a8ce-a8cf a92f a9c8-a9c9 aa5d-aa5f aaf0-aaf1 abeb fe12 fe15-fe16 fe56-fe57 ff01
    ff1f ff61 10a56-10a57 10f55-10f59 10f86-10f89 11047-11048 110be-110c1 11141-11143 111c5-111c6
    111cd 111de-111df 11238-11239 1123b-1123c 112a9 113d4-113d5 1144b-1144c 115c2-115c3 115c9-115d7
    11641-11642 1173c-1173e 11944 11946 11a42-11a43 11a9b-11a9c 11c41-11c42 11ef7-11ef8 11f43-11f44
    16a6e-16a6f 16af5 16b37-16b38 16b44 16d6e-16d6f 16e98 1bc9f 1da88.
  CL Close: 22 27-29 5b 5d 7b 7d ab bb f3a-f3d 169b-169c 2018-201f 2039-203a 2045-2046 207d-207e
    208d-208e 2308-230b 2329-232a 275b-2760 2768-2775 27c5-27c6 27e6-27ef 2983-2998 29d8-29db
    29fc-29fd 2e00-2e0d 2e1c-2e1d 2e20-2e29 2e42 2e55-2e5c 3008-3011 3014-301b 301d-301f fd3e-fd3f
    fe17-fe18 fe35-fe44 fe47-fe48 fe59-fe5e ff08-ff09 ff3b ff3d ff5b ff5d ff5f-ff60 ff62-ff63
    1f676-1f678"

/-- The first code points of the blocks of syllables of Hangul. A block holds a syllable
without a final consonant and then the 27 syllables that add one to it. -/
def hangulBlocks : List Nat :=
  (List.range 399).map (0xac00 + 28 * ·)

/-- The characters with a part in what readers see as characters. -/
def graphemeClusterBreak? (normal : List Char) : Option CharSet :=
  if normal = "lv".toList then
    some (.ofRanges (hangulBlocks.map fun first => (first, first)))
  else if normal = "lvt".toList then
    some (.ofRanges (hangulBlocks.map fun first => (first + 1, first + 27)))
  else Row.setNamed? (Row.parseAll graphemeClusterBreakTable) normal

/-- The characters with a part in words. -/
def wordBreak? (normal : List Char) : Option CharSet :=
  Row.setNamed? (Row.parseAll wordBreakTable) normal

/-- The characters with a part in sentences. -/
def sentenceBreak? (normal : List Char) : Option CharSet :=
  Row.setNamed? (Row.parseAll sentenceBreakTable) normal

end InputMask.Unicode
