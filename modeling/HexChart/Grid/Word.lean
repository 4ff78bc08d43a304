import HexChart.Chart.Sketch
import HexChart.Offset.Word

/-!
# Grids in words of 64 bits

A machine keeps the size of a grid as two words.  It multiplies and adds modulo `2 ^ 64`,
so nothing ties the number of slots to the size, and a position may have a slot number
that no slot has.  The machine stops there.
-/

namespace HexChart

/-- A rectangle of slots as a machine keeps it. -/
structure WordGrid where
  height : UInt64
  width : UInt64
  slots : Array (Option CellRef)
  deriving DecidableEq, Repr

namespace WordGrid

/-- A grid of blank slots, as many as the product of the words says.  There is always
room for them. -/
def blank (height width : UInt64) : WordGrid :=
  ⟨height, width, Array.replicate (height * width).toNat none⟩

/-- The slot number of a position. -/
def slot (words : WordGrid) (row col : UInt64) : UInt64 :=
  row * words.width + col

/-- What `(row, col)` shows, which is nothing outside the grid; no answer at all if the
machine stops. -/
def get? (words : WordGrid) (row col : UInt64) : Option (Option CellRef) :=
  if row < words.height ∧ col < words.width then
    words.slots[(words.slot row col).toNat]?
  else
    some none

/-- The grid with `ref` in the slot of `(row, col)`, or no grid if the machine stops.  The
position is not compared with the size of the grid. -/
def place? (words : WordGrid) (row col : UInt64) (ref : CellRef) : Option WordGrid :=
  if hslot : (words.slot row col).toNat < words.slots.size then
    some { words with slots := words.slots.set (words.slot row col).toNat (some ref) hslot }
  else
    none

/-- The grid after some placements, or no grid if the machine stops at one of them. -/
def placeAll? (words : WordGrid) (placements : List Grid.Placement) : Option WordGrid :=
  placements.foldlM
    (fun placed placement =>
      placed.place? (.ofNat placement.row) (.ofNat placement.col) placement.ref) words

/-- What is drawn at an offset from `(row, col)`, which is nothing where the offset leads
out of the grid; no answer at all if the machine stops. -/
def look? (words : WordGrid) (row col : UInt64) (offset : Offset) : Option (Option CellRef) :=
  match offset.applyWords row col words.height words.width with
  | some (targetRow, targetCol) => words.get? targetRow targetCol
  | none => some none

/-- A grid with its size in words. -/
def ofGrid (grid : Grid) : WordGrid :=
  ⟨.ofNat grid.height, .ofNat grid.width, grid.slots⟩

end WordGrid

namespace Chart

/-- The height and the width of a text, counted in words. -/
def sizeWords (text : List Char) : UInt64 × UInt64 :=
  (lines text).foldl
    (fun (height, width) line => (height + 1, max width (.ofNat line.length))) (0, 0)

/-- A grid as high and as wide as a text, with every slot blank. -/
def blankWords (text : List Char) : WordGrid :=
  .blank (sizeWords text).1 (sizeWords text).2

/-- The grid with the marks of a text, drawn in words. -/
def drawnWords? (text : List Char) (marks : List Mark) : Option WordGrid :=
  (blankWords text).placeAll? (marks.map Mark.placement)

end Chart

end HexChart
