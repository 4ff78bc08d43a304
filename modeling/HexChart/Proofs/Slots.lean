import HexChart.Grid.Word
import HexChart.Offset.Word

/-!
# Slots in words

The slot number of a position inside a grid is smaller than the number of slots.  Where one
word can hold that number, no slot number wraps, and a machine that calculates modulo
`2 ^ 64` keeps the grid as it is over the integers: it never stops at a placement inside
the grid, and every position shows what it shows there (`StandsFor`).  There a grid is a
map of two dimensions, although its slots lie in one row.  Beyond, the number of slots
wraps, and two positions of a grid can share one (`shared_slot_of_wrapped_area`).
-/

namespace HexChart

/-! ## The last placement -/

namespace Grid

section Placing

variable {height width : Nat} {placements : List Placement}
  (hinside : ∀ placement ∈ placements, placement.row < height ∧ placement.col < width)

include hinside

theorem get_placeAll_blank (row col : Nat) :
    ((blank height width).placeAll placements).get row col =
      (placements.reverse.find? fun placement =>
        placement.row = row ∧ placement.col = col).map Placement.ref := by
  rw [get_placeAll _ _ hinside, get_blank, Option.or_none]

/-- A position shows a reference when it was placed there and none was placed there later. -/
theorem get_placeAll_blank_eq_some_iff (row col : Nat) (ref : CellRef) :
    ((blank height width).placeAll placements).get row col = some ref ↔
      ∃ front back, placements = front ++ ⟨row, col, ref⟩ :: back ∧
        ∀ later ∈ back, ¬(later.row = row ∧ later.col = col) := by
  rw [get_placeAll_blank hinside, Option.map_eq_some_iff]
  constructor
  · rintro ⟨⟨placedRow, placedCol, placedRef⟩, hfind, rfl⟩
    obtain ⟨hplace, later, earlier, hsplit, hlater⟩ := List.find?_eq_some_iff_append.mp hfind
    obtain ⟨rfl, rfl⟩ := of_decide_eq_true hplace
    refine ⟨earlier.reverse, later.reverse, ?_, ?_⟩
    · rw [List.reverse_eq_iff] at hsplit
      simp [hsplit]
    · intro other hmem
      simpa only [Bool.not_eq_true', decide_eq_false_iff_not] using
        hlater other (List.mem_reverse.mp hmem)
  · rintro ⟨front, back, rfl, hback⟩
    refine ⟨⟨row, col, ref⟩, List.find?_eq_some_iff_append.mpr ⟨by simp, ?_⟩, rfl⟩
    refine ⟨back.reverse, front.reverse, by simp, fun other hmem => ?_⟩
    simpa only [Bool.not_eq_true', decide_eq_false_iff_not] using
      hback other (List.mem_reverse.mp hmem)

theorem get_placeAll_blank_eq_none_iff (row col : Nat) :
    ((blank height width).placeAll placements).get row col = none ↔
      ∀ placement ∈ placements, ¬(placement.row = row ∧ placement.col = col) := by
  rw [get_placeAll_blank hinside, Option.map_eq_none_iff, List.find?_eq_none]
  simp

end Placing

end Grid

/-! ## Grids in words -/

namespace WordGrid

/-- A word grid has the size and the slots of a grid, and one word can hold their number. -/
structure StandsFor (words : WordGrid) (grid : Grid) : Prop where
  height_eq : words.height.toNat = grid.height
  width_eq : words.width.toNat = grid.width
  slots_eq : words.slots = grid.slots
  area_lt : grid.height * grid.width < UInt64.size

theorem StandsFor.eq_ofGrid {words : WordGrid} {grid : Grid} (hstands : words.StandsFor grid) :
    words = ofGrid grid := by
  rw [ofGrid, ← hstands.height_eq, ← hstands.width_eq, ← hstands.slots_eq, UInt64.ofNat_toNat,
    UInt64.ofNat_toNat]

/-- A position is one in words, lies inside the grid and has a slot. -/
structure HasSlot (words : WordGrid) (row col : Nat) : Prop where
  toNat_row : (UInt64.ofNat row).toNat = row
  toNat_col : (UInt64.ofNat col).toNat = col
  row_lt : UInt64.ofNat row < words.height
  col_lt : UInt64.ofNat col < words.width
  slot_lt : (words.slot (.ofNat row) (.ofNat col)).toNat < words.slots.size

theorem toNat_area {height width : UInt64} (harea : height.toNat * width.toNat < UInt64.size) :
    (height * width).toNat = height.toNat * width.toNat := by
  rw [UInt64.toNat_mul]
  exact Nat.mod_eq_of_lt harea

theorem standsFor_blank {height width : UInt64}
    (harea : height.toNat * width.toNat < UInt64.size) :
    (blank height width).StandsFor (Grid.blank height.toNat width.toNat) where
  height_eq := rfl
  width_eq := rfl
  slots_eq := by rw [blank, toNat_area harea, Grid.blank]
  area_lt := harea

namespace StandsFor

variable {words : WordGrid} {grid : Grid} (hstands : words.StandsFor grid)

include hstands

section Inside

variable {row col : UInt64} (hrow : row < words.height) (hcol : col < words.width)

include hrow hcol

theorem inside : row.toNat < grid.height ∧ col.toNat < grid.width := by
  rw [← hstands.height_eq, ← hstands.width_eq]
  exact ⟨UInt64.lt_iff_toNat_lt.mp hrow, UInt64.lt_iff_toNat_lt.mp hcol⟩

/-- Neither the product nor the sum of a slot number wraps. -/
theorem toNat_slot :
    (row * words.width).toNat = row.toNat * grid.width ∧
      (words.slot row col).toNat = row.toNat * grid.width + col.toNat ∧
      (words.slot row col).toNat < grid.height * grid.width := by
  obtain ⟨hinsideRow, hinsideCol⟩ := hstands.inside hrow hcol
  have hslot := slot_lt hinsideRow hinsideCol
  have hword := Nat.lt_trans hslot hstands.area_lt
  have hproduct : (row * words.width).toNat = row.toNat * grid.width := by
    rw [← hstands.width_eq] at hword ⊢
    exact toNat_area (Nat.lt_of_le_of_lt (Nat.le_add_right ..) hword)
  have hsum : (words.slot row col).toNat = row.toNat * grid.width + col.toNat := by
    rw [slot, UInt64.toNat_add, hproduct]
    exact Nat.mod_eq_of_lt hword
  exact ⟨hproduct, hsum, hsum ▸ hslot⟩

theorem slot_lt_size : (words.slot row col).toNat < words.slots.size := by
  rw [hstands.slots_eq, grid.size_slots]
  exact (hstands.toNat_slot hrow hcol).2.2

end Inside

/-- A machine shows at every position what the grid shows there. -/
theorem get?_eq (row col : UInt64) :
    words.get? row col = some (grid.get row.toNat col.toNat) := by
  have hinside : row < words.height ∧ col < words.width ↔
      row.toNat < grid.height ∧ col.toNat < grid.width := by
    rw [← hstands.height_eq, ← hstands.width_eq, UInt64.lt_iff_toNat_lt,
      UInt64.lt_iff_toNat_lt]
  rw [get?, Grid.get]
  by_cases hposition : row < words.height ∧ col < words.width
  · obtain ⟨hrow, hcol⟩ := hposition
    rw [if_pos ⟨hrow, hcol⟩, dif_pos (hinside.mp ⟨hrow, hcol⟩),
      Array.getElem?_eq_getElem (hstands.slot_lt_size hrow hcol)]
    simp only [hstands.slots_eq, (hstands.toNat_slot hrow hcol).2.1]
  · rw [if_neg hposition, dif_neg (mt hinside.mpr hposition)]

/-- Every position of the grid has a slot in words. -/
theorem hasSlot {row col : Nat} (hrow : row < grid.height) (hcol : col < grid.width) :
    words.HasSlot row col := by
  rw [← hstands.height_eq] at hrow
  rw [← hstands.width_eq] at hcol
  exact {
    toNat_row := toNat_ofNat_of_lt hrow
    toNat_col := toNat_ofNat_of_lt hcol
    row_lt := ofNat_lt hrow
    col_lt := ofNat_lt hcol
    slot_lt := hstands.slot_lt_size (ofNat_lt hrow) (ofNat_lt hcol) }

/-- A machine does not stop at a placement inside the grid, and goes on with the grid on
which it was made. -/
theorem exists_place {row col : Nat} (hrow : row < grid.height) (hcol : col < grid.width)
    (ref : CellRef) :
    ∃ placed, words.place? (.ofNat row) (.ofNat col) ref = some placed ∧
      placed.StandsFor (grid.place row col ref) := by
  have hhas := hstands.hasSlot hrow hcol
  have hslot := (hstands.toNat_slot hhas.row_lt hhas.col_lt).2.1
  rw [hhas.toNat_row, hhas.toNat_col] at hslot
  rw [place?, dif_pos hhas.slot_lt]
  refine ⟨_, rfl, ?_⟩
  rw [Grid.place, dif_pos ⟨hrow, hcol⟩]
  exact {
    height_eq := hstands.height_eq
    width_eq := hstands.width_eq
    slots_eq := by simp only [hstands.slots_eq, hslot]
    area_lt := hstands.area_lt }

theorem exists_placeAll {placements : List Grid.Placement}
    (hinside : ∀ placement ∈ placements,
      placement.row < grid.height ∧ placement.col < grid.width) :
    ∃ placed, words.placeAll? placements = some placed ∧
      placed.StandsFor (grid.placeAll placements) := by
  induction placements generalizing words grid with
  | nil => exact ⟨words, rfl, hstands⟩
  | cons placement others ih =>
    obtain ⟨hrow, hcol⟩ := hinside placement List.mem_cons_self
    obtain ⟨placed, hplaced, hstandsPlaced⟩ := hstands.exists_place hrow hcol placement.ref
    rw [placeAll?, List.foldlM_cons, hplaced]
    refine ih hstandsPlaced fun other hmem => ?_
    simpa using hinside other (List.mem_cons_of_mem placement hmem)

end StandsFor

/-! ## What a machine shows -/

/-- A placement changes neither the size nor the number of slots, wherever it is made. -/
theorem size_of_place? {words placed : WordGrid} {row col : UInt64} {ref : CellRef}
    (hplace : words.place? row col ref = some placed) :
    placed.height = words.height ∧ placed.width = words.width ∧
      placed.slots.size = words.slots.size := by
  unfold place? at hplace
  split at hplace
  · next hslot =>
    cases hplace
    exact ⟨rfl, rfl, Array.size_set hslot⟩
  · cases hplace

theorem size_of_placeAll? {words placed : WordGrid} {placements : List Grid.Placement}
    (hplace : words.placeAll? placements = some placed) :
    placed.height = words.height ∧ placed.width = words.width ∧
      placed.slots.size = words.slots.size := by
  induction placements generalizing words with
  | nil =>
    cases hplace
    exact ⟨rfl, rfl, rfl⟩
  | cons placement others ih =>
    rw [placeAll?, List.foldlM_cons] at hplace
    obtain ⟨middle, hfirst, hothers⟩ := Option.bind_eq_some_iff.mp hplace
    obtain ⟨hheight, hwidth, hsize⟩ := size_of_place? hfirst
    obtain ⟨hheightOthers, hwidthOthers, hsizeOthers⟩ := ih hothers
    exact ⟨hheightOthers.trans hheight, hwidthOthers.trans hwidth, hsizeOthers.trans hsize⟩

theorem get?_outside {words : WordGrid} {row col : UInt64}
    (houtside : ¬(row < words.height ∧ col < words.width)) : words.get? row col = some none := by
  rw [get?, if_neg houtside]

/-- Placements change neither the size of a grid nor its number of slots, and a position
outside the grid shows nothing, whatever slot number it has.  Where one word can hold
height times width, this is the number of slots, no placement inside the grid stops the
machine, and a position shows the last reference that was placed there, or nothing if none
was: the machine has the grid that the placements leave over the integers. -/
theorem shows_last_placement (height width : UInt64) (placements : List Grid.Placement) :
    (∀ words, (blank height width).placeAll? placements = some words →
      words.height = height ∧ words.width = width ∧
        words.slots.size = (height * width).toNat ∧
        ∀ row col, ¬(row < height ∧ col < width) → words.get? row col = some none) ∧
      (height.toNat * width.toNat < UInt64.size →
        (∀ placement ∈ placements,
          placement.row < height.toNat ∧ placement.col < width.toNat) →
        ∃ words, (blank height width).placeAll? placements = some words ∧
          words.slots.size = height.toNat * width.toNat ∧
          (∀ row col ref, words.get? row col = some (some ref) ↔
            ∃ front back, placements = front ++ ⟨row.toNat, col.toNat, ref⟩ :: back ∧
              ∀ later ∈ back, ¬(later.row = row.toNat ∧ later.col = col.toNat)) ∧
          (∀ row col, words.get? row col = some none ↔
            ∀ placement ∈ placements,
              ¬(placement.row = row.toNat ∧ placement.col = col.toNat)) ∧
          words.StandsFor ((Grid.blank height.toNat width.toNat).placeAll placements)) := by
  refine ⟨fun words hwords => ?_, fun harea hinside => ?_⟩
  · obtain ⟨hheight, hwidth, hsize⟩ := size_of_placeAll? hwords
    refine ⟨hheight, hwidth, hsize.trans Array.size_replicate, fun row col houtside => ?_⟩
    apply get?_outside
    rw [hheight, hwidth]
    exact houtside
  · obtain ⟨words, hwords, hstands⟩ := (standsFor_blank harea).exists_placeAll hinside
    have hsize := (size_of_placeAll? hwords).2.2.trans Array.size_replicate
    refine ⟨words, hwords, hsize.trans (toNat_area harea), ?_, ?_, hstands⟩
    · intro row col ref
      rw [hstands.get?_eq, Option.some_inj, Grid.get_placeAll_blank_eq_some_iff hinside]
    · intro row col
      rw [hstands.get?_eq, Option.some_inj, Grid.get_placeAll_blank_eq_none_iff hinside]

/-- Two placements at one position, and a position that is too far right although its slot
number is that of another one. -/
theorem shows_last_placement_of_repeated_corner :
    let placements : List Grid.Placement :=
      [⟨0, 2, ⟨.road, 0⟩⟩, ⟨1, 0, ⟨.tile, 0⟩⟩, ⟨0, 2, ⟨.junction, 5⟩⟩]
    ∃ words, (blank 2 3).placeAll? placements = some words ∧ words.slots.size = 6 ∧
      words.get? 0 2 = some (some ⟨.junction, 5⟩) ∧ words.get? 1 0 = some (some ⟨.tile, 0⟩) ∧
      words.slot 0 3 = words.slot 1 0 ∧ words.get? 0 3 = some none ∧
      words.get? 1 2 = some none := by
  intro placements
  obtain ⟨hsize, hshows⟩ := shows_last_placement 2 3 placements
  obtain ⟨words, hwords, hslots, hsome, hnone, _⟩ := hshows (by decide) (by decide)
  obtain ⟨_, hwidth, _, houtside⟩ := hsize words hwords
  refine ⟨words, hwords, hslots, ?_, ?_, ?_, houtside 0 3 (by decide), ?_⟩
  · exact (hsome 0 2 ⟨.junction, 5⟩).mpr
      ⟨[⟨0, 2, ⟨.road, 0⟩⟩, ⟨1, 0, ⟨.tile, 0⟩⟩], [], rfl, by decide⟩
  · exact (hsome 1 0 ⟨.tile, 0⟩).mpr
      ⟨[⟨0, 2, ⟨.road, 0⟩⟩], [⟨0, 2, ⟨.junction, 5⟩⟩], rfl, by decide⟩
  · rw [slot, slot, hwidth]
    decide
  · exact (hnone 1 2).mpr (by decide)

/-- A grid of `2 ^ 64 + 2` positions has two slots.  Of two placements inside of it, at
different positions, the later one replaces the earlier one, and a position inside of it
that is blank stops the machine. -/
theorem shared_slot_of_wrapped_area :
    let grid := blank 0x8000000000000001 2
    let placements : List Grid.Placement :=
      [⟨0, 0, ⟨.road, 0⟩⟩, ⟨0x8000000000000000, 0, ⟨.tile, 0⟩⟩]
    (∀ placement ∈ placements,
        placement.row < grid.height.toNat ∧ placement.col < grid.width.toNat) ∧
      (∃ words, grid.placeAll? placements = some words ∧
        words.get? 0 0 = some (some ⟨.tile, 0⟩) ∧ words.get? 0 0 ≠ some (some ⟨.road, 0⟩) ∧
        words.slots.size = 2 ∧ words.height.toNat * words.width.toNat = UInt64.size + 2) ∧
      grid.placeAll? [] = some grid ∧ (5 < grid.height ∧ 0 < grid.width) ∧
      grid.get? 5 0 = none := by
  refine ⟨by decide, ⟨_, rfl, rfl, by decide, rfl, by decide⟩, rfl, by decide, rfl⟩

end WordGrid

end HexChart
