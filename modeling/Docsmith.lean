import Docsmith.Battle.Tracker
import Docsmith.Main
import Docsmith.Measure.Run
import Docsmith.Proofs.Battle.Exactness
import Docsmith.Proofs.Docs.Faithful
import Docsmith.Proofs.Docs.Rerun
import Docsmith.Proofs.Text.Search
import Docsmith.Workload.Basic
import Docsmith.Proofs.Docs.Section
import Docsmith.Proofs.Docs.Course
import Docsmith.Proofs.Docs.Writing
import Docsmith.Proofs.FileTree.Way
import Docsmith.Proofs.Docs.Links
import Docsmith.Proofs.Docs.Ignored
import Docsmith.Proofs.Docs.Relocation
import Docsmith.Proofs.Battle.Reachable
import Docsmith.Proofs.Battle.Narrowing
import Docsmith.Proofs.Battle.Emptiness
import Docsmith.Proofs.Docs.Failure
import Docsmith.Proofs.Battle.Shape
import Docsmith.Proofs.Binary64.Rounding
import Docsmith.Proofs.Binary64.Nonnegative
import Docsmith.Proofs.Value.Arithmetic
import Docsmith.Proofs.Value.Amount
import Docsmith.Proofs.Battle.Training
import Docsmith.Proofs.Battle.Speed
import Docsmith.Proofs.Battle.SpeedRange
import Docsmith.Proofs.Battle.Order
import Docsmith.Proofs.Battle.Notebook
import Docsmith.Proofs.Battle.Isolation
import Docsmith.Proofs.Battle.Moves
import Docsmith.Proofs.Battle.Switch
import Docsmith.Proofs.Battle.Rereading
import Docsmith.Proofs.Docs.Entries
import Docsmith.Proofs.Text.Pieces
import Docsmith.Proofs.Docs.Angles
import Docsmith.Proofs.Docs.Redraft
import Docsmith.Proofs.Json.Numeral
import Docsmith.Proofs.Json.Roundtrip
import Docsmith.Proofs.Json.Content
import Docsmith.Proofs.Measure.Report
import Docsmith.Proofs.Measure.Counts
import Docsmith.Proofs.Measure.History
import Docsmith.Proofs.Text.Trim
import Docsmith.Proofs.Docs.Argument
import Docsmith.Proofs.Docs.Listing
import Docsmith.Proofs.Docs.Spacing
import Docsmith.Proofs.Battle.Stake
import Docsmith.Proofs.Battle.Retraining
import Docsmith.Proofs.Battle.Boost
import Docsmith.Proofs.Battle.Fighter
import Docsmith.Proofs.Battle.Damage
import Docsmith.Proofs.Battle.Formula
import Docsmith.Proofs.Battle.Nearest
import Docsmith.Proofs.Binary64.Signed
import Docsmith.Proofs.Value.Error
import Docsmith.Proofs.Battle.Growth
import Docsmith.Proofs.Value.Sign
import Docsmith.Proofs.Battle.Range
import Docsmith.Proofs.Measure.Plateau
import Docsmith.Proofs.Battle.Condition
import Docsmith.Proofs.Battle.Lookup
import Docsmith.Proofs.Measure.Verdicts
import Docsmith.Proofs.Value.Total
import Docsmith.Proofs.Battle.Sparring
import Docsmith.Proofs.Text.Marks
import Docsmith.Proofs.Docs.Unescape
