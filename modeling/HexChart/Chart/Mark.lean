import HexChart.Chart.Lines
import HexChart.CellRef
import HexChart.Shape
import HexChart.Text.Quoted

/-!
# From characters to marks

Every character of a chart has a row and a column.  A character that is not
blank is a mark: the drawing of one cell.  Marks are numbered per kind in
reading order.  A character outside the chart alphabet stops the reading, and
the first one is reported with its position.
-/

namespace HexChart.Chart

/-- A character and the position at which it stands. -/
structure Glyph where
  character : Char
  row : Nat
  col : Nat
  deriving DecidableEq, Repr

/-- The sentence that reports a character without a meaning. -/
def Glyph.complaint (glyph : Glyph) : String :=
  "Unrecognized symbol " ++ Text.quoteChar glyph.character ++ " at row " ++
    toString glyph.row ++ ", column " ++ toString glyph.col

def glyphs (text : List Char) : List Glyph :=
  (lines text).zipIdx.flatMap fun (line, row) =>
    line.zipIdx.map fun (character, col) => ⟨character, row, col⟩

/-- The shape that a character draws, and where. -/
structure Stroke where
  shape : Shape
  row : Nat
  col : Nat
  deriving DecidableEq, Repr

/-- The strokes among some characters, or the first character that has no
meaning. -/
def strokes : List Glyph → Except Glyph (List Stroke)
  | [] => .ok []
  | glyph :: rest =>
    match Symbol.classify glyph.character with
    | none => .error glyph
    | some .blank => strokes rest
    | some (.cell shape) =>
      (strokes rest).map (⟨shape, glyph.row, glyph.col⟩ :: ·)

/-- A stroke with its number among the strokes of its kind. -/
structure Mark where
  shape : Shape
  row : Nat
  col : Nat
  index : Nat
  deriving DecidableEq, Repr

/-- The reference of the cell that a mark draws. -/
def Mark.ref (mark : Mark) : CellRef :=
  ⟨mark.shape.kind, mark.index⟩

/-- Numbers strokes per kind, from the given tally of the strokes before. -/
def numbered : Census → List Stroke → List Mark
  | _, [] => []
  | tally, stroke :: rest =>
    ⟨stroke.shape, stroke.row, stroke.col, tally.get stroke.shape.kind⟩ ::
      numbered (tally.modify stroke.shape.kind (· + 1)) rest

/-- The marks of a text in reading order, or its first character outside the
alphabet. -/
def marks (text : List Char) : Except Glyph (List Mark) :=
  (strokes (glyphs text)).map (numbered (PerKind.ofFn fun _ => 0))

end HexChart.Chart
