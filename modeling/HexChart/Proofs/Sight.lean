import HexChart.Chart.Sketch
import HexChart.Proofs.Drawn

/-!
# What is seen on the grid

The grid of an accepted text shows at every position the mark that the text draws
there, and nothing else (`get_sketch`).  Looking out along an offset therefore
finds the mark at the integer sums of the coordinates (`look_sketch`): the size of
the grid, the length of a line and the slot number never decide what is seen.
-/

namespace HexChart.Chart

/-- A fold with `max` exceeds its start and every length that it meets. -/
theorem le_foldl_max_length (found : List (List Char)) (start : Nat) :
    start ≤ found.foldl (fun longest line => max longest line.length) start ∧
      ∀ line ∈ found,
        line.length ≤ found.foldl (fun longest line => max longest line.length) start := by
  induction found generalizing start with
  | nil => simp
  | cons line others ih =>
    obtain ⟨hstart, hothers⟩ := ih (max start line.length)
    rw [List.foldl_cons]
    refine ⟨by omega, fun other hmem => ?_⟩
    rcases List.mem_cons.mp hmem with rfl | hmem
    · omega
    · exact hothers other hmem

/-- A text has its characters inside the rectangle that is as large as the text. -/
theorem inside_of_characterAt? {text : List Char} {row col : Nat} {character : Char}
    (hcharacter : characterAt? text row col = some character) :
    row < height text ∧ col < width text := by
  obtain ⟨line, hline, hcol⟩ := Option.bind_eq_some_iff.mp hcharacter
  obtain ⟨hrow, _⟩ := List.getElem?_eq_some_iff.mp hline
  obtain ⟨hlength, _⟩ := List.getElem?_eq_some_iff.mp hcol
  have hwidth : line.length ≤ width text :=
    (le_foldl_max_length (lines text) 0).2 line (List.mem_of_getElem? hline)
  exact ⟨hrow, Nat.lt_of_lt_of_le hlength hwidth⟩

/-- Every mark stands inside the rectangle that is as large as the text. -/
theorem drawn_inside {text : List Char} {mark : Mark} (hmem : mark ∈ drawn text) :
    mark.row < height text ∧ mark.col < width text :=
  inside_of_characterAt?
    ((exists_mem_drawn_iff text mark.shape mark.row mark.col).mp ⟨mark, hmem, rfl, rfl, rfl⟩)

/-- Putting marks on a grid is making their placements. -/
theorem foldl_place_eq (marks : List Mark) (grid : Grid) :
    marks.foldl (fun placed mark => placed.place mark.row mark.col mark.ref) grid =
      grid.placeAll (marks.map Mark.placement) := by
  rw [Grid.placeAll, List.foldl_map]
  rfl

/-- Marks that are put on a grid one after another leave at each position the last
one that was put there. -/
theorem get_placeAll_marks (marks : List Mark) (grid : Grid)
    (hinside : ∀ mark ∈ marks, mark.row < grid.height ∧ mark.col < grid.width)
    (row col : Nat) :
    (grid.placeAll (marks.map Mark.placement)).get row col =
      ((marks.reverse.find? fun mark => mark.row = row ∧ mark.col = col).map Mark.ref).or
        (grid.get row col) := by
  rw [grid.get_placeAll _ (List.forall_mem_map.mpr hinside), ← List.map_reverse,
    List.find?_map, Option.map_map]
  rfl

namespace Sketch

variable {text : List Char} {sketch : Sketch}

theorem eq_onGrid (hsketch : ofText text = .ok sketch) :
    sketch = onGrid (blankGrid text) (drawn text) := by
  cases hmarks : Chart.marks text with
  | error glyph => simp [ofText, hmarks, Except.map] at hsketch
  | ok marks =>
    simp only [ofText, hmarks, Except.map, Except.ok.injEq] at hsketch
    rw [← hsketch, marks_eq_drawn hmarks]

theorem marks_sketch (hsketch : ofText text = .ok sketch) : sketch.marks = drawn text := by
  rw [eq_onGrid hsketch]
  rfl

theorem grid_sketch (hsketch : ofText text = .ok sketch) :
    sketch.grid = (blankGrid text).placeAll ((drawn text).map Mark.placement) := by
  rw [eq_onGrid hsketch]
  exact foldl_place_eq (drawn text) (blankGrid text)

theorem size_sketch (hsketch : ofText text = .ok sketch) :
    sketch.grid.height = height text ∧ sketch.grid.width = width text := by
  rw [grid_sketch hsketch]
  exact ⟨Grid.height_placeAll .., Grid.width_placeAll ..⟩

/-- The grid shows at every position the mark that the text draws there. -/
theorem get_sketch (hsketch : ofText text = .ok sketch) (row col : Nat) :
    sketch.grid.get row col = (sighted text row col).map Mark.ref := by
  have hblank : (blankGrid text).get row col = none := Grid.get_blank ..
  rw [grid_sketch hsketch, get_placeAll_marks _ _ fun mark hmem => drawn_inside hmem, hblank,
    Option.or_none]
  congr 1
  ext mark
  rw [sighted_eq_some_iff, find?_eq_some_iff_of_unique, List.mem_reverse, decide_eq_true_eq]
  · apply and_congr_right
    intro _
    omega
  · intro left hleft right hright hleftPlace hrightPlace
    rw [List.mem_reverse] at hleft hright
    simp only [decide_eq_true_eq] at hleftPlace hrightPlace
    exact eq_of_place_eq hleft hright (by omega) (by omega)

/-- Looking out finds what the text draws at the integer sums of the coordinates. -/
theorem look_sketch (hsketch : ofText text = .ok sketch) (row col : Nat) (offset : Offset) :
    sketch.grid.look row col offset =
      (sighted text (row + offset.down) (col + offset.right)).map Mark.ref := by
  obtain ⟨hheight, hwidth⟩ := size_sketch hsketch
  rw [Grid.look, hheight, hwidth]
  cases happly : offset.apply row col (height text) (width text) with
  | some target =>
    obtain ⟨hrow, hcol, _⟩ := (Offset.apply_eq_some_iff ..).mp happly
    simp only [get_sketch hsketch, hrow, hcol]
  | none =>
    -- outside the grid nothing is drawn
    cases hsighted : sighted text (row + offset.down) (col + offset.right) with
    | none => rfl
    | some mark =>
      obtain ⟨hmem, hrow, hcol⟩ := (sighted_eq_some_iff ..).mp hsighted
      obtain ⟨hinsideRow, hinsideCol⟩ := drawn_inside hmem
      have hreached := (Offset.apply_eq_some_iff offset row col (height text) (width text)
        mark.row mark.col).mpr ⟨hrow, hcol, hinsideRow, hinsideCol⟩
      simp [happly] at hreached

end Sketch

end HexChart.Chart
