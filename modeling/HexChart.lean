import HexChart.Direction
import HexChart.Offset
import HexChart.Offset.Word
import HexChart.Kind
import HexChart.Shape
import HexChart.CellRef
import HexChart.Grid
import HexChart.Chart.Lines
import HexChart.Chart.Mark
import HexChart.Chart.Sketch
import HexChart.Grid.Word
import HexChart.Board
import HexChart.Board.Word
import HexChart.Link
import HexChart.Decimal.Binary64
import HexChart.Decimal.Shortest
import HexChart.Decimal.Spelling
import HexChart.Text.Split
import HexChart.Text.Printable
import HexChart.Text.Quoted
import HexChart.Text.Category
import HexChart.Text.Hexadecimal
import HexChart.Text.Bytes
import HexChart.Text.Lines
import HexChart.Text.Control
import HexChart.Json.Fault
import HexChart.Json.Number
import HexChart.Json.Quoted
import HexChart.Json.Datum
import HexChart.Json.Skip
import HexChart.Json.Reader
import HexChart.Json.Form
import HexChart.Graph
import HexChart.Graph.Header
import HexChart.Graph.Document
import HexChart.Files.Path
import HexChart.Files.Tree
import HexChart.Files.Access
import HexChart.Pattern.Mode
import HexChart.Pattern.Gap
import HexChart.Pattern.Atom
import HexChart.Pattern.CharSet
import HexChart.Pattern.Bracket
import HexChart.Pattern
import HexChart.Pattern.Reader
import HexChart.Log
import HexChart.Log.Filter
import HexChart.Job
import HexChart.CommandLine
import HexChart.Program
import HexChart.Main
import HexChart.Proofs.Reading
import HexChart.Proofs.Drawn
import HexChart.Proofs.Sight
import HexChart.Proofs.Sizing
import HexChart.Proofs.Links
import HexChart.Proofs.Audit
import HexChart.Proofs.Lattice
import HexChart.Proofs.Reciprocity
import HexChart.Proofs.Reach
import HexChart.Proofs.Drawing
import HexChart.Proofs.Canvas
import HexChart.Proofs.Linkage
import HexChart.Proofs.Alphabet
import HexChart.Proofs.Views
import HexChart.Proofs.Translation
import HexChart.Proofs.Growth
import HexChart.Proofs.Naming
import HexChart.Proofs.Delivery
import HexChart.Proofs.Strictness
import HexChart.Proofs.Remaking
import HexChart.Proofs.Batch
import HexChart.Proofs.Phrasing
import HexChart.Proofs.Stacking
import HexChart.Proofs.Insertion
import HexChart.Proofs.Numeral
import HexChart.Proofs.Spelling
import HexChart.Proofs.Deciphering
import HexChart.Proofs.Truncation
import HexChart.Proofs.Roundtrip
import HexChart.Proofs.Fragments
import HexChart.Proofs.Continuation
import HexChart.Proofs.Carrying
import HexChart.Proofs.Literal
import HexChart.Proofs.Passing
import HexChart.Proofs.Answering
import HexChart.Proofs.Members
import HexChart.Proofs.Rounding
import HexChart.Proofs.Magnitude
import HexChart.Proofs.Frames
import HexChart.Proofs.Counting
import HexChart.Proofs.Telling
import HexChart.Proofs.Outputs
import HexChart.Proofs.Recount
import HexChart.Proofs.Symmetry
import HexChart.Proofs.Capacity
import HexChart.Proofs.Machine
