import CommitGate.Main
import CommitGate.Proofs.Reporter
import CommitGate.Proofs.Graph
import CommitGate.Proofs.Walk
import CommitGate.Proofs.Repository
import CommitGate.Proofs.Reviewed
import CommitGate.Proofs.SharedHistory
import CommitGate.Proofs.Blank
import CommitGate.Proofs.Rules
import CommitGate.Proofs.Conformity
import CommitGate.Proofs.Codes
import CommitGate.Proofs.Highlights
import CommitGate.Proofs.Grouping
import CommitGate.Proofs.Decoration
import CommitGate.Proofs.Formats
import CommitGate.Proofs.Hook
import CommitGate.Proofs.Capacity
import CommitGate.Proofs.JsonReader
import CommitGate.Proofs.LineEndings
import CommitGate.Proofs.Streams
import CommitGate.Proofs.Documents
import CommitGate.Proofs.HelpText
import CommitGate.Proofs.Body
import CommitGate.Proofs.CleanSpacing
import CommitGate.Proofs.Order
import CommitGate.Proofs.LinearBranch
import CommitGate.Proofs.Carets
import CommitGate.Proofs.Columns
import CommitGate.Proofs.Settings
import CommitGate.Proofs.ExitStatus
import CommitGate.Proofs.CaseMappings
import CommitGate.Proofs.Sentence
import CommitGate.Proofs.Words
import CommitGate.Proofs.Suggestions
import CommitGate.Proofs.Pronoun
import CommitGate.Proofs.EmptyLines
import CommitGate.Proofs.CleanMessages
import CommitGate.Proofs.QuotedSpans
import CommitGate.Proofs.Verdicts
import CommitGate.Proofs.UpToCase
import CommitGate.Proofs.SeparatorLine
import CommitGate.Proofs.SubjectEnding
import CommitGate.Proofs.HighlightedBlanks
import CommitGate.Proofs.TableKeys
import CommitGate.Proofs.Resolution
import CommitGate.Proofs.Columns
import CommitGate.Proofs.HelpText
