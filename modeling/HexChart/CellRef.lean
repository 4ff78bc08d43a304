import HexChart.Kind

/-!
# References to cells

A cell is referred to by its kind and its number among the cells of that kind.
References are ordered by kind first and number second.
-/

namespace HexChart

/-- The identity of a cell: its kind, and its number among cells of the kind
in reading order, from zero. -/
structure CellRef where
  kind : Kind
  index : Nat
  deriving DecidableEq, Repr, Inhabited

namespace CellRef

/-- The text of a reference in generated code and messages. -/
def label (ref : CellRef) : String :=
  ref.kind.accessor ++ "(" ++ toString ref.index ++ ")"

/-- References are sorted by kind, and by number within a kind. -/
def le (left right : CellRef) : Bool :=
  left.kind.rank < right.kind.rank ||
    (left.kind.rank == right.kind.rank && left.index ≤ right.index)

end CellRef

end HexChart
