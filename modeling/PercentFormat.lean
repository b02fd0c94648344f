import PercentFormat.Directive.Grammar
import PercentFormat.Message
import PercentFormat.Session
import PercentFormat.Template.WellFormed
import PercentFormat.Proofs.LongestPrefix
import PercentFormat.Proofs.Reading
import PercentFormat.Proofs.Demand
import PercentFormat.Proofs.Faults
import PercentFormat.Proofs.Truncation
import PercentFormat.Proofs.Concatenation
import PercentFormat.Proofs.Causes
import PercentFormat.Proofs.Numerals
import PercentFormat.Proofs.Spelling
import PercentFormat.Proofs.Interruption
import PercentFormat.Proofs.LiteralParameters
import PercentFormat.Proofs.Pattern
import PercentFormat.Proofs.DirectivePattern
import PercentFormat.Proofs.PatternReading
import PercentFormat.Proofs.ReadBack
import PercentFormat.Proofs.Entries
import PercentFormat.Proofs.NestedBindings
import PercentFormat.Proofs.VariableViews
import PercentFormat.Proofs.InterleavedBindings
import PercentFormat.Proofs.Overlong
import PercentFormat.Proofs.StepChanges
import PercentFormat.Proofs.StreamHistory
import PercentFormat.Proofs.Agreement
import PercentFormat.Proofs.HandedOut
import PercentFormat.Proofs.DemandedValues
import PercentFormat.Proofs.DefaultPrecisions
import PercentFormat.Proofs.EquivalentSpellings
import PercentFormat.Proofs.ExactValues
import PercentFormat.Proofs.ConvertedPieces
import PercentFormat.Proofs.WholeNotation
import PercentFormat.Proofs.NearestEven
import PercentFormat.Proofs.SignificantDigits
import PercentFormat.Proofs.FixedNotation
import PercentFormat.Proofs.ExponentNotation
import PercentFormat.Proofs.HugeNumbers
import PercentFormat.Proofs.TrimmedNumerals
import PercentFormat.Proofs.GeneralNotation
import PercentFormat.Proofs.NearestMagnitude
import PercentFormat.Proofs.DigitRuns
import PercentFormat.Proofs.DoubleReading
import PercentFormat.Proofs.SpelledNumbers
import PercentFormat.Proofs.ShortestDecimals
import PercentFormat.Proofs.PositionalDoubles
import PercentFormat.Proofs.RepeatedFormatting
import PercentFormat.Proofs.WellShapedPieces
import PercentFormat.Proofs.FieldLayout
import PercentFormat.Proofs.DoubledPercents
import PercentFormat.Proofs.ErrorMessages
import PercentFormat.Proofs.StopReasons
import PercentFormat.Proofs.FormattingFrame
