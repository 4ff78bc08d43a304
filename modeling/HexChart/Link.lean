import HexChart.Board

/-!
# Links

A link leads from a cell to one of its neighbors along a direction.  Every
output of the library is made from the one ordered list of links of a board.  A
link is one-way when its target has no link that leads back along the opposite
direction; on charts drawn on the hex lattice there are none.
-/

namespace HexChart

/-- A directed link between two cells. -/
structure Link where
  source : CellRef
  direction : Direction
  target : CellRef
  deriving DecidableEq, Repr

namespace Link

/-- The link that leads back. -/
def reverse (link : Link) : Link :=
  ⟨link.target, link.direction.opposite, link.source⟩

/-- The statement that adds a link in generated code. -/
def statement (link : Link) : String :=
  "m_graph->" ++ link.source.label ++ "->add_edge(" ++ link.direction.constant ++
    ", m_graph->" ++ link.target.label ++ ");"

def complaint (link : Link) : String :=
  link.source.label ++ " links " ++ link.target.label ++ " along " ++
    link.direction.constant ++ " but nothing links back"

end Link

/-- The links that lead out of a cell, in the order of its offsets. -/
def Cell.outgoing (cell : Cell) : List Link :=
  cell.links.map fun (direction, target) => ⟨cell.ref, direction, target⟩

namespace Board

/-- Every link of a board: kind by kind, by number within a kind, and in the
order of the offsets within a cell. -/
def links (board : Board) : List Link :=
  board.allCells.flatMap Cell.outgoing

/-- Whether the target of a link has a link that leads back. -/
def answers (board : Board) (link : Link) : Bool :=
  match board.cell? link.target with
  | some target => target.links.contains (link.direction.opposite, link.source)
  | none => false

/-- The links that nothing answers. -/
def oneWayLinks (board : Board) : List Link :=
  board.links.filter fun link => !board.answers link

end Board

end HexChart
