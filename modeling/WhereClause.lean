import WhereClause.Text.Blank
import WhereClause.Text.Quoted
import WhereClause.Literal.Display
import WhereClause.Main
import WhereClause.Proofs.Quoting
import WhereClause.Proofs.Placeholders
import WhereClause.Proofs.Grammar
import WhereClause.Proofs.Building
import WhereClause.Proofs.Condition
import WhereClause.Proofs.Rendering
import WhereClause.Proofs.Meaning
import WhereClause.Proofs.Places
import WhereClause.Proofs.Faults
import WhereClause.Proofs.Threshold
import WhereClause.Proofs.Image
import WhereClause.Proofs.Parameters
import WhereClause.Proofs.Growth
import WhereClause.Proofs.Height
import WhereClause.Proofs.Parentheses
import WhereClause.Proofs.Wrapping
import WhereClause.Proofs.Columns
import WhereClause.Proofs.KeyOrder
import WhereClause.Proofs.Calls
import WhereClause.Proofs.Stamps
import WhereClause.Proofs.Storage
import WhereClause.Proofs.Layout
import WhereClause.Proofs.Reading
import WhereClause.Proofs.TooDeep
import WhereClause.Proofs.Readback
import WhereClause.Proofs.Denotation
import WhereClause.Proofs.Escaping
import WhereClause.Proofs.ByteOrder
import WhereClause.Proofs.ColumnList
import WhereClause.Proofs.Conversion
import WhereClause.Proofs.Operands
import WhereClause.Proofs.FileLines
import WhereClause.Proofs.Assignments
import WhereClause.Proofs.QuotedValues
import WhereClause.Proofs.Resolution
import WhereClause.Proofs.OutputModes
