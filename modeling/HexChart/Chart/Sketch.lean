import HexChart.Chart.Mark
import HexChart.Grid

/-!
# Sketches

A sketch is a chart that has been read but not yet linked: its marks, and the
grid on which they stand.
-/

namespace HexChart.Chart

/-- A grid as high and as wide as a text, with every slot blank. -/
def blankGrid (text : List Char) : Grid :=
  Grid.blank (height text) (width text)

/-- The writing of the reference by which the cell of a mark is known. -/
def Mark.placement (mark : Mark) : Grid.Placement :=
  ⟨mark.row, mark.col, mark.ref⟩

/-- The marks of a chart and the grid on which they stand. -/
structure Sketch where
  grid : Grid
  marks : List Mark

namespace Sketch

def onGrid (grid : Grid) (marks : List Mark) : Sketch :=
  ⟨marks.foldl (fun placed mark => placed.place mark.row mark.col mark.ref) grid, marks⟩

/-- Reads a text, or reports its first character outside the alphabet. -/
def ofText (text : List Char) : Except Glyph Sketch :=
  (Chart.marks text).map (onGrid (blankGrid text))

/-- The marks of one kind, in reading order. -/
def ofKind (sketch : Sketch) (kind : Kind) : List Mark :=
  sketch.marks.filter fun mark => mark.shape.kind = kind

def census (sketch : Sketch) : Census :=
  PerKind.ofFn fun kind => (sketch.ofKind kind).length

/-- How often looking out from a mark, at all of its offsets, finds a cell. -/
def sightings (sketch : Sketch) : Nat :=
  (sketch.marks.map fun mark =>
    mark.shape.offsets.countP fun offset =>
      (sketch.grid.look mark.row mark.col offset).isSome).foldr (· + ·) 0

end Sketch

end HexChart.Chart
