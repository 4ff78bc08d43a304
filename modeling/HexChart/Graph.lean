import HexChart.Link

/-!
# Graphs

A graph is what the outputs of the library say about a board: a name, how many
cells there are of each kind, and the links between them.
-/

namespace HexChart

/-- The counts and the links of a board, under a name. -/
structure Graph where
  name : String
  census : Census
  links : List Link
  deriving DecidableEq, Repr

def Board.graph (board : Board) (name : String) : Graph where
  name := name
  census := board.census
  links := board.links

end HexChart
