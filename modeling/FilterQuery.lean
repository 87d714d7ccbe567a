import FilterQuery.Main
import FilterQuery.Proofs.Results
import FilterQuery.Proofs.Walk
import FilterQuery.Proofs.Grammar
import FilterQuery.Proofs.ScanText
import FilterQuery.Proofs.OperandText
import FilterQuery.Proofs.ReaderText
import FilterQuery.Proofs.BodyText
import FilterQuery.Proofs.Language
import FilterQuery.Proofs.Spelling
import FilterQuery.Proofs.Raised
import FilterQuery.Proofs.Failures
import FilterQuery.Proofs.Argument
import FilterQuery.Proofs.Gap
import FilterQuery.Proofs.Faultless
import FilterQuery.Proofs.Numbering
import FilterQuery.Proofs.Evidence
import FilterQuery.Proofs.Lasting
import FilterQuery.Proofs.ScanSimulation
import FilterQuery.Proofs.ReaderSimulation
import FilterQuery.Proofs.Decided
import FilterQuery.Proofs.Reported
import FilterQuery.Proofs.Inert
import FilterQuery.Proofs.Chain
import FilterQuery.Proofs.Lookup
import FilterQuery.Proofs.Untouched
import FilterQuery.Proofs.Nameable
import FilterQuery.Proofs.Brackets
import FilterQuery.Proofs.Nesting
import FilterQuery.Proofs.EndOfText
import FilterQuery.Proofs.Indented
import FilterQuery.Proofs.Turns
import FilterQuery.Proofs.Unjoined
import FilterQuery.Proofs.Rerouted
import FilterQuery.Proofs.Respelled
import FilterQuery.Proofs.NewFile
import FilterQuery.Proofs.NewSettings
import FilterQuery.Proofs.Bytes
import FilterQuery.Proofs.Edits
import FilterQuery.Proofs.Suggestion
import FilterQuery.Proofs.FilterRows
import FilterQuery.Proofs.FollowedSuggestion
import FilterQuery.Proofs.Changes
import FilterQuery.Proofs.PrefixFree
import FilterQuery.Proofs.DocumentText
import FilterQuery.Proofs.TreeText
import FilterQuery.Proofs.Printed
import FilterQuery.Proofs.Colours
import FilterQuery.Proofs.Expression
import FilterQuery.Proofs.TableColumns
import FilterQuery.Proofs.TreeLines
import FilterQuery.Proofs.Switches
import FilterQuery.Proofs.Presentation
import FilterQuery.Proofs.Sections
import FilterQuery.Proofs.Notes
import FilterQuery.Proofs.Steps
import FilterQuery.Proofs.Handover
