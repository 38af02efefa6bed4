import TaskQuery.Token.Cursor
import TaskQuery.Predicate
import TaskQuery.Main
import TaskQuery.Proofs.Sql.Grammar
import TaskQuery.Proofs.Sql.Reading
import TaskQuery.Proofs.Sql.Fragment
import TaskQuery.Proofs.Sql.Inversion
import TaskQuery.Proofs.Sql.Meaning
import TaskQuery.Proofs.Sql.Selection
import TaskQuery.Proofs.Sql.Outline
import TaskQuery.Proofs.Sql.Quoting
import TaskQuery.Proofs.Sql.Shape
import TaskQuery.Proofs.Saved.Chain
import TaskQuery.Proofs.Saved.Indirection
import TaskQuery.Proofs.Saved.Course
import TaskQuery.Proofs.Saved.Session
import TaskQuery.Proofs.Query.Concatenation
import TaskQuery.Proofs.Token.Replay
import TaskQuery.Proofs.Token.Covering
import TaskQuery.Proofs.Token.Rules
import TaskQuery.Proofs.Query.WellFormed
import TaskQuery.Proofs.Query.Writing
import TaskQuery.Proofs.Query.Rules
import TaskQuery.Proofs.Sql.Leaves
import TaskQuery.Proofs.Query.Fields
import TaskQuery.Proofs.Plan
import TaskQuery.Proofs.Query.Escape
import TaskQuery.Proofs.Query.FreeText
import TaskQuery.Proofs.Query.Signs
import TaskQuery.Proofs.Narrowing
import TaskQuery.Proofs.DoubleNegation
import TaskQuery.Proofs.Query.Settled
import TaskQuery.Proofs.Calendar.Yearless
import TaskQuery.Proofs.Cli.Dialogue
import TaskQuery.Proofs.Calendar.StampOrder
import TaskQuery.Proofs.Calendar.Nearest
import TaskQuery.Proofs.Calendar.Shift
import TaskQuery.Proofs.Calendar.Layouts
import TaskQuery.Proofs.Frequency
import TaskQuery.Proofs.Query.DateShorthand
import TaskQuery.Proofs.Query.Words
import TaskQuery.Proofs.Sql.Literal
import TaskQuery.Proofs.Sql.OneLine
import TaskQuery.Proofs.Cli.Printed
