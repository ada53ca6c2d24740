import InputMask.Unicode.Age
import InputMask.Unicode.Script
import InputMask.Unicode.Segmentation

/-!
# Properties with values

Properties that are not binary are asked for by a name and a value. Of seven of them the
values are known. Others are known by their names only, so that asking for one of their
values can be told from asking for a property that does not exist.

## Main definitions

* `ValuedProperty.ofName?`: the property with a name
* `ValuedProperty.value?`: the characters with a value of a property
* `isPropertyName`: whether a name is that of any property
-/

namespace InputMask.Unicode

/-- The properties whose values are known. -/
inductive ValuedProperty where
  | age
  | category
  | graphemeClusterBreak
  | script
  | scriptExtension
  | sentenceBreak
  | wordBreak
  deriving DecidableEq, Repr

namespace ValuedProperty

/-- All of them. -/
def all : List ValuedProperty :=
  [age, category, graphemeClusterBreak, script, scriptExtension, sentenceBreak, wordBreak]

@[simp] theorem mem_all (property : ValuedProperty) : property ∈ all := by
  cases property <;> simp [all]

/-- The names of a property. -/
def names : ValuedProperty → List String
  | age => ["Age"]
  | category => ["General_Category", "gc"]
  | graphemeClusterBreak => ["Grapheme_Cluster_Break", "GCB"]
  | script => ["Script", "sc"]
  | scriptExtension => ["Script_Extensions", "scx"]
  | sentenceBreak => ["Sentence_Break", "SB"]
  | wordBreak => ["Word_Break", "WB"]

/-- The property with a normal name. -/
def ofName? (normal : List Char) : Option ValuedProperty :=
  all.find? fun property => property.names.any (normalName ·.toList = normal)

/-- The characters with a value of the property, by the normal name of the value. -/
def value? : ValuedProperty → List Char → Option CharSet
  | age => age?
  | category => category?
  | graphemeClusterBreak => graphemeClusterBreak?
  | script => script?
  | scriptExtension => scriptExtension?
  | sentenceBreak => sentenceBreak?
  | wordBreak => wordBreak?

end ValuedProperty

/-- The names of the properties that are known by name only. -/
def otherPropertyNames : String := "
  Bidi_Class bc Bidi_Mirroring_Glyph bmg Bidi_Paired_Bracket bpb Bidi_Paired_Bracket_Type bpt Block
  blk Canonical_Combining_Class ccc Case_Folding cf Changes_When_NFKC_Casefolded CWKCF
  Composition_Exclusion CE Decomposition_Mapping dm Decomposition_Type dt East_Asian_Width ea
  Equivalent_Unified_Ideograph EqUIdeo Expands_On_NFC XO_NFC Expands_On_NFD XO_NFD Expands_On_NFKC
  XO_NFKC Expands_On_NFKD XO_NFKD FC_NFKC_Closure FC_NFKC Full_Composition_Exclusion Comp_Ex
  Hangul_Syllable_Type hst ISO_Comment isc Indic_Conjunct_Break InCB Indic_Positional_Category InPC
  Indic_Syllabic_Category InSC Jamo_Short_Name JSN Joining_Group jg Joining_Type jt Line_Break lb
  Lowercase_Mapping lc NFC_Quick_Check NFC_QC NFD_Quick_Check NFD_QC NFKC_Casefold NFKC_CF
  NFKC_Quick_Check NFKC_QC NFKC_Simple_Casefold NFKC_SCF NFKD_Quick_Check NFKD_QC Name na
  Name_Alias Numeric_Type nt Numeric_Value nv Simple_Case_Folding scf sfc Simple_Lowercase_Mapping
  slc Simple_Titlecase_Mapping stc Simple_Uppercase_Mapping suc Titlecase_Mapping tc Unicode_1_Name
  na1 Uppercase_Mapping uc Vertical_Orientation vo kAccountingNumeric cjkAccountingNumeric
  kCompatibilityVariant cjkCompatibilityVariant kEH_Cat kEH_Desc kEH_HG kEH_IFAO kEH_JSesh
  kEH_NoMirror kEH_NoRotate kIICore cjkIICore kIRG_GSource cjkIRG_GSource kIRG_HSource
  cjkIRG_HSource kIRG_JSource cjkIRG_JSource kIRG_KPSource cjkIRG_KPSource kIRG_KSource
  cjkIRG_KSource kIRG_MSource cjkIRG_MSource kIRG_SSource cjkIRG_SSource kIRG_TSource
  cjkIRG_TSource kIRG_UKSource cjkIRG_UKSource kIRG_USource cjkIRG_USource kIRG_VSource
  cjkIRG_VSource kOtherNumeric cjkOtherNumeric kPrimaryNumeric cjkPrimaryNumeric kRSUnicode
  cjkRSUnicode Unicode_Radical_Stroke URS"

/-- Whether a normal name is that of a property. -/
def isPropertyName (normal : List Char) : Bool :=
  (ValuedProperty.ofName? normal).isSome || propertyRows.any (·.isNamed normal)
    || (words otherPropertyNames.toList).any (normalName · = normal)

end InputMask.Unicode
