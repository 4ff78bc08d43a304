import HexChart.Direction

/-!
# Offsets between drawn cells

Two cells that belong together are drawn at a fixed displacement.  A hex and
its corner junctions are far apart: three rows up or down, or one row and four
columns.  A junction and a road that ends in it are near: one row apart.  The
two tables below are the only displacements in the library, and each entry is
the negation of the entry of the opposite direction.
-/

namespace HexChart

/-- A direction together with the displacement, in rows and columns, at which
the neighbor in that direction is drawn. -/
structure Offset where
  direction : Direction
  /-- Rows downward. -/
  down : Int
  /-- Columns to the right. -/
  right : Int
  deriving DecidableEq, Repr

namespace Offset

/-- The place that lies at this offset from `(row, col)`, if it is inside a
rectangle of `height` rows and `width` columns.  The sums are taken over the
integers, so no place is reached by wrapping around an edge. -/
def apply (offset : Offset) (row col height width : Nat) : Option (Nat × Nat) :=
  let targetRow := (row : Int) + offset.down
  let targetCol := (col : Int) + offset.right
  if 0 ≤ targetRow ∧ targetRow < height ∧ 0 ≤ targetCol ∧ targetCol < width then
    some (targetRow.toNat, targetCol.toNat)
  else
    none

/-- A place is reached exactly when the integer sums give it and it is inside. -/
theorem apply_eq_some_iff (offset : Offset)
    (row col height width targetRow targetCol : Nat) :
    offset.apply row col height width = some (targetRow, targetCol) ↔
      (targetRow : Int) = row + offset.down ∧ (targetCol : Int) = col + offset.right ∧
        targetRow < height ∧ targetCol < width := by
  unfold apply
  simp only
  split
  · simp only [Option.some.injEq, Prod.mk.injEq]
    omega
  · simp only [reduceCtorEq, false_iff]
    omega

/-- From a hex to its corner junctions, and back, clockwise. -/
def far : List Offset :=
  [⟨.clock12, -3, 0⟩, ⟨.clock2, -1, 4⟩, ⟨.clock4, 1, 4⟩,
    ⟨.clock6, 3, 0⟩, ⟨.clock8, 1, -4⟩, ⟨.clock10, -1, -4⟩]

/-- The two offsets along a `|` road. -/
def nearVertical : List Offset :=
  [⟨.clock12, -1, 0⟩, ⟨.clock6, 1, 0⟩]

/-- The two offsets along a `/` road. -/
def nearForward : List Offset :=
  [⟨.clock2, -1, 2⟩, ⟨.clock8, 1, -2⟩]

/-- The two offsets along a `\` road. -/
def nearBackward : List Offset :=
  [⟨.clock4, 1, 2⟩, ⟨.clock10, -1, -2⟩]

/-- From a junction to the roads that meet in it, and back, grouped by the
slant of the road. -/
def near : List Offset :=
  nearVertical ++ nearForward ++ nearBackward

end Offset

end HexChart
