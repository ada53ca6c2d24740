import InputMask.Field
import InputMask.Main
import InputMask.Numeric.Reader
import InputMask.Proofs.Fill
import InputMask.Proofs.Greedy
import InputMask.Proofs.Walk
import InputMask.Proofs.CountGuard
import InputMask.Proofs.Starvation
import InputMask.Proofs.Passages
import InputMask.Proofs.Written
import InputMask.Proofs.Gapless
import InputMask.Proofs.Noise
import InputMask.Proofs.FixedGroups
import InputMask.Proofs.Growth
import InputMask.Proofs.Typing
import InputMask.Proofs.Ranking
import InputMask.Proofs.Capacity
import InputMask.Proofs.Snug
import InputMask.Proofs.Admission
import InputMask.Proofs.ExactText
import InputMask.Proofs.Numeral
import InputMask.Proofs.NumericTyping
import InputMask.Proofs.NumericReformat
import InputMask.Proofs.Rerun
import InputMask.Proofs.Remasking
import InputMask.Proofs.GroupTyping
import InputMask.Proofs.JsonNumbers
import InputMask.Proofs.SettingGrammar
import InputMask.Proofs.ShapeGrammar
import InputMask.Proofs.TemplateText
import InputMask.Proofs.MaskedValue
import InputMask.Proofs.InputLines
import InputMask.Proofs.JsonRoundTrip
import InputMask.Proofs.Loading
import InputMask.Proofs.TemplateOptions
import InputMask.Proofs.Skeleton
import InputMask.Proofs.ResultLines
import InputMask.Proofs.SettingRoundTrip
import InputMask.Proofs.Checked.Masking
import InputMask.Proofs.Concatenation
import InputMask.Proofs.Counts
import InputMask.Proofs.Deletion
import InputMask.Proofs.NumericLayout
import InputMask.Proofs.EventLog
import InputMask.Proofs.ListLoading
import InputMask.Proofs.Matching
import InputMask.Proofs.PatternSource
