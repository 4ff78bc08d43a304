import HexChart.CellRef
import HexChart.Offset

/-!
# Grids of cell references

A grid is a rectangle of slots, each blank or holding the reference of the cell
drawn there.  The slots are stored row after row in one array, whose size is
part of the type, so a position inside the rectangle always has a slot.  Writing
one slot changes no other position (`get_place`), so after any number of writings a
position shows the last one that was made there (`get_placeAll`).

Sizes and slot numbers are natural numbers here, so none of them wraps.  `WordGrid` is
the grid as a machine keeps it, and the two agree as long as one word can hold the
number of slots.
-/

namespace HexChart

/-- The slot number of a position inside a rectangle lies inside the array. -/
theorem slot_lt {row col height width : Nat} (hrow : row < height)
    (hcol : col < width) : row * width + col < height * width := by
  have hnext : (row + 1) * width ≤ height * width := Nat.mul_le_mul_right width hrow
  rw [Nat.succ_mul] at hnext
  omega

/-- Positions inside a rectangle have different slot numbers. -/
theorem slot_injective {row col otherRow otherCol width : Nat} (hcol : col < width)
    (hother : otherCol < width)
    (hslot : row * width + col = otherRow * width + otherCol) :
    row = otherRow ∧ col = otherCol := by
  have hpositive : 0 < width := by omega
  have hrow : row = otherRow := by
    have hdiv := congrArg (· / width) hslot
    simpa [Nat.mul_comm _ width, Nat.mul_add_div hpositive, Nat.div_eq_of_lt hcol,
      Nat.div_eq_of_lt hother] using hdiv
  subst hrow
  omega

/-- A rectangle of slots, each blank or holding a cell reference. -/
structure Grid where
  height : Nat
  width : Nat
  slots : Array (Option CellRef)
  size_slots : slots.size = height * width

namespace Grid

def blank (height width : Nat) : Grid :=
  ⟨height, width, Array.replicate (height * width) none, by simp⟩

/-- The reference at `(row, col)`; nothing for a blank slot or a position
outside the grid. -/
def get (grid : Grid) (row col : Nat) : Option CellRef :=
  if hinside : row < grid.height ∧ col < grid.width then
    have hslot : row * grid.width + col < grid.slots.size := by
      rw [grid.size_slots]
      exact slot_lt hinside.1 hinside.2
    grid.slots[row * grid.width + col]
  else
    none

/-- The grid with `ref` at `(row, col)`.  A position outside the grid has no
slot, and nothing is written for it; reading a chart never asks for that. -/
def place (grid : Grid) (row col : Nat) (ref : CellRef) : Grid :=
  if hinside : row < grid.height ∧ col < grid.width then
    { grid with
      slots := grid.slots.set (row * grid.width + col) (some ref) (by
        rw [grid.size_slots]
        exact slot_lt hinside.1 hinside.2)
      size_slots := by simp [grid.size_slots] }
  else
    grid

/-- The writing of one reference. -/
structure Placement where
  row : Nat
  col : Nat
  ref : CellRef
  deriving DecidableEq, Repr

/-- The grid after some placements, made one after another. -/
def placeAll (grid : Grid) (placements : List Placement) : Grid :=
  placements.foldl
    (fun placed placement => placed.place placement.row placement.col placement.ref) grid

/-- What is drawn at an offset from a position. -/
def look (grid : Grid) (row col : Nat) (offset : Offset) : Option CellRef :=
  match offset.apply row col grid.height grid.width with
  | some (targetRow, targetCol) => grid.get targetRow targetCol
  | none => none

/-- Grids are compared by their size and their slots. -/
instance : DecidableEq Grid := fun left right =>
  decidable_of_iff
    (left.height = right.height ∧ left.width = right.width ∧ left.slots = right.slots) (by
      cases left
      cases right
      simp)

@[simp]
theorem height_place (grid : Grid) (row col : Nat) (ref : CellRef) :
    (grid.place row col ref).height = grid.height := by
  unfold place
  split <;> rfl

@[simp]
theorem width_place (grid : Grid) (row col : Nat) (ref : CellRef) :
    (grid.place row col ref).width = grid.width := by
  unfold place
  split <;> rfl

/-- Writing a slot changes what is read at its own position and nowhere else. -/
theorem get_place (grid : Grid) {row col : Nat} (hrow : row < grid.height)
    (hcol : col < grid.width) (ref : CellRef) (otherRow otherCol : Nat) :
    (grid.place row col ref).get otherRow otherCol =
      if otherRow = row ∧ otherCol = col then some ref else grid.get otherRow otherCol := by
  have hplace : grid.place row col ref =
      { grid with
        slots := grid.slots.set (row * grid.width + col) (some ref) (by
          rw [grid.size_slots]
          exact slot_lt hrow hcol)
        size_slots := by simp [grid.size_slots] } := by
    rw [place, dif_pos ⟨hrow, hcol⟩]
  rw [hplace]
  unfold get
  by_cases hinside : otherRow < grid.height ∧ otherCol < grid.width
  · simp only [dif_pos hinside, Array.getElem_set]
    by_cases hsame : otherRow = row ∧ otherCol = col
    · simp [hsame]
    · rw [if_neg hsame, if_neg]
      intro hslot
      have hposition := slot_injective hcol hinside.2 hslot
      exact hsame ⟨hposition.1.symm, hposition.2.symm⟩
  · simp only [dif_neg hinside]
    rw [if_neg]
    rintro ⟨rfl, rfl⟩
    exact hinside ⟨hrow, hcol⟩

@[simp]
theorem get_blank (height width row col : Nat) : (blank height width).get row col = none := by
  unfold get
  split
  · simp [blank]
  · rfl

@[simp]
theorem height_placeAll (grid : Grid) (placements : List Placement) :
    (grid.placeAll placements).height = grid.height := by
  induction placements generalizing grid with
  | nil => rfl
  | cons placement others ih => exact (ih _).trans (height_place ..)

@[simp]
theorem width_placeAll (grid : Grid) (placements : List Placement) :
    (grid.placeAll placements).width = grid.width := by
  induction placements generalizing grid with
  | nil => rfl
  | cons placement others ih => exact (ih _).trans (width_place ..)

/-- After some placements a position shows the last one that was made there, and what it
showed before where there is none. -/
theorem get_placeAll (grid : Grid) (placements : List Placement)
    (hinside : ∀ placement ∈ placements,
      placement.row < grid.height ∧ placement.col < grid.width) (row col : Nat) :
    (grid.placeAll placements).get row col =
      ((placements.reverse.find? fun placement =>
          placement.row = row ∧ placement.col = col).map Placement.ref).or
        (grid.get row col) := by
  induction placements generalizing grid with
  | nil => rfl
  | cons placement others ih =>
    obtain ⟨hrow, hcol⟩ := hinside placement List.mem_cons_self
    have hothers : ∀ other ∈ others,
        other.row < (grid.place placement.row placement.col placement.ref).height ∧
          other.col < (grid.place placement.row placement.col placement.ref).width := by
      intro other hmem
      simpa using hinside other (List.mem_cons_of_mem placement hmem)
    rw [placeAll, List.foldl_cons, ← placeAll, ih _ hothers, grid.get_place hrow hcol,
      List.reverse_cons, List.find?_append, Option.map_or, Option.or_assoc]
    congr 1
    by_cases hplace : placement.row = row ∧ placement.col = col
    · simp [hplace.1, hplace.2]
    · have hother : ¬(row = placement.row ∧ col = placement.col) := by omega
      rw [if_neg hother, List.find?_cons_of_neg (by simpa using hplace)]
      rfl

end Grid

end HexChart
