import HexChart.Chart.Sketch

/-!
# Boards

A board is a chart whose cells know their neighbors.  It owns the cells, kind by
kind and in the order of their numbers, and keeps the grid on which they stand.
Cells refer to each other only through references.
-/

namespace HexChart

/-- A drawn cell: its shape and position, its number within its kind, and what
it found at each offset of its shape. -/
structure Cell where
  shape : Shape
  row : Nat
  col : Nat
  index : Nat
  /-- One entry for each of the offsets of the shape, in their order. -/
  neighbors : List (Option CellRef)
  deriving DecidableEq, Repr

namespace Cell

def kind (cell : Cell) : Kind :=
  cell.shape.kind

/-- The reference by which other cells know a cell. -/
def ref (cell : Cell) : CellRef :=
  ⟨cell.kind, cell.index⟩

/-- The neighbors that were found, each with the direction in which it lies. -/
def links (cell : Cell) : List (Direction × CellRef) :=
  (cell.shape.offsets.zip cell.neighbors).filterMap fun (offset, neighbor) =>
    neighbor.map (offset.direction, ·)

/-- How many neighbors were found. -/
def neighborCount (cell : Cell) : Nat :=
  cell.neighbors.countP Option.isSome

def label (cell : Cell) : String :=
  cell.ref.label ++ " at (" ++ toString cell.row ++ ", " ++ toString cell.col ++ ")"

/-- The cell of a mark, with what it sees on the grid. -/
def ofMark (grid : Grid) (mark : Chart.Mark) : Cell where
  shape := mark.shape
  row := mark.row
  col := mark.col
  index := mark.index
  neighbors := mark.shape.offsets.map (grid.look mark.row mark.col)

end Cell

/-- Cells stored per kind, and the grid on which they stand. -/
structure Board where
  grid : Grid
  cells : PerKind (Array Cell)

namespace Board

/-- The board of a sketch: every mark becomes a cell that knows its neighbors. -/
def ofSketch (sketch : Chart.Sketch) : Board where
  grid := sketch.grid
  cells := PerKind.ofFn fun kind =>
    ((sketch.ofKind kind).map (Cell.ofMark sketch.grid)).toArray

/-- The board of a chart, or the first character outside the alphabet. -/
def parse (text : List Char) : Except Chart.Glyph Board :=
  (Chart.Sketch.ofText text).map ofSketch

/-- The cells of one kind, by number. -/
def cellsOf (board : Board) (kind : Kind) : List Cell :=
  (board.cells.get kind).toList

/-- Every cell, kind by kind and by number within a kind. -/
def allCells (board : Board) : List Cell :=
  Kind.all.flatMap board.cellsOf

def cell? (board : Board) (ref : CellRef) : Option Cell :=
  (board.cells.get ref.kind)[ref.index]?

/-- The cell drawn at a position. -/
def cellAt? (board : Board) (row col : Nat) : Option Cell :=
  (board.grid.get row col).bind board.cell?

def census (board : Board) : Census :=
  board.cells.map Array.size

/-- How many neighbors the cells found, all together. -/
def linkCount (board : Board) : Nat :=
  (board.allCells.map Cell.neighborCount).foldr (· + ·) 0

end Board

end HexChart
