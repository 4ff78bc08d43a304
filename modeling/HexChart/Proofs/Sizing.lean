import HexChart.Proofs.Sight

/-!
# The size of a chart

A text falls into lines in one way only: a break ends its line, and nothing else does.
Cutting finds these lines (`cuts_iff`), so the grid of a chart has a row for each of them
and a column for each character of the longest, and no character of the text stands
outside of it.
-/

namespace HexChart.Chart

/-- The pieces of a text are its lines: none of them is empty, a break stands at the end of
a piece or nowhere in it, and every piece but the last one ends with a break. -/
structure Cuts (text : List Char) (pieces : List (List Char)) : Prop where
  flatten_eq : pieces.flatten = text
  ne_nil : ∀ piece ∈ pieces, piece ≠ []
  not_mem_dropLast : ∀ piece ∈ pieces, '\n' ∉ piece.dropLast
  getLast?_eq : ∀ piece ∈ pieces.dropLast, piece.getLast? = some '\n'

theorem lines_eq_nil_iff (text : List Char) : lines text = [] ↔ text = [] := by
  constructor
  · intro hlines
    rw [← flatten_lines text, hlines, List.flatten_nil]
  · rintro rfl
    rfl

theorem lines_of_not_mem {text : List Char} (hbreak : '\n' ∉ text) (hne : text ≠ []) :
    lines text = [text] := by
  induction text with
  | nil => exact absurd rfl hne
  | cons character rest ih =>
    rw [List.mem_cons, not_or] at hbreak
    have hcharacter : character ≠ '\n' := fun heq => hbreak.1 heq.symm
    rw [lines, if_neg hcharacter]
    by_cases hrest : rest = []
    · rw [hrest]
      rfl
    · rw [ih hbreak.2 hrest]

/-- What ends with its only break is the first line of every text that goes on from there. -/
theorem lines_append {piece : List Char} (hbreak : '\n' ∉ piece.dropLast)
    (hlast : piece.getLast? = some '\n') (rest : List Char) :
    lines (piece ++ rest) = piece :: lines rest := by
  obtain ⟨body, rfl⟩ := List.getLast?_eq_some_iff.mp hlast
  rw [List.dropLast_concat] at hbreak
  rw [List.append_assoc, List.singleton_append, lines_append_break hbreak]

theorem Cuts.eq_lines {text : List Char} {pieces : List (List Char)} (hcuts : Cuts text pieces) :
    pieces = lines text := by
  obtain ⟨rfl, hne, hbreak, hlast⟩ := hcuts
  induction pieces with
  | nil => rfl
  | cons piece others ih =>
    rw [List.forall_mem_cons] at hne hbreak
    cases others with
    | nil =>
      rw [List.flatten_singleton]
      by_cases hends : piece.getLast? = some '\n'
      · have hlines := lines_append hbreak.1 hends []
        rw [List.append_nil] at hlines
        exact hlines.symm
      · -- without a break at its end the last line has none at all
        have hnone : '\n' ∉ piece := by
          intro hmem
          rw [← List.dropLast_append_getLast hne.1, List.mem_append, List.mem_singleton] at hmem
          rcases hmem with hmem | hmem
          · exact hbreak.1 hmem
          · exact hends (by rw [List.getLast?_eq_some_getLast hne.1, ← hmem])
        exact (lines_of_not_mem hnone hne.1).symm
    | cons next others =>
      rw [List.dropLast_cons_cons, List.forall_mem_cons] at hlast
      rw [List.flatten_cons, lines_append hbreak.1 hlast.1, ← ih hne.2 hbreak.2 hlast.2]

namespace Cuts

variable {rest line : List Char} {pieces : List (List Char)}

/-- A break is a line of its own in front of the others. -/
theorem cons_break (hrest : Cuts rest pieces) : Cuts ('\n' :: rest) (['\n'] :: pieces) where
  flatten_eq := by rw [List.flatten_cons, hrest.flatten_eq, List.singleton_append]
  ne_nil := List.forall_mem_cons.mpr ⟨List.cons_ne_nil _ _, hrest.ne_nil⟩
  not_mem_dropLast := List.forall_mem_cons.mpr ⟨List.not_mem_nil, hrest.not_mem_dropLast⟩
  getLast?_eq := by
    cases pieces with
    | nil => simp
    | cons line others =>
      rw [List.dropLast_cons_cons]
      exact List.forall_mem_cons.mpr ⟨rfl, hrest.getLast?_eq⟩

/-- Any other character joins the line behind it. -/
theorem cons_character (hrest : Cuts rest (line :: pieces)) {character : Char}
    (hcharacter : character ≠ '\n') : Cuts (character :: rest) ((character :: line) :: pieces) := by
  obtain ⟨hflatten, hne, hbreak, hlast⟩ := hrest
  rw [List.forall_mem_cons] at hne hbreak
  refine ⟨?_, ?_, ?_, ?_⟩
  · rw [← hflatten, List.flatten_cons, List.flatten_cons, List.cons_append]
  · exact List.forall_mem_cons.mpr ⟨List.cons_ne_nil _ _, hne.2⟩
  · refine List.forall_mem_cons.mpr ⟨?_, hbreak.2⟩
    rw [List.dropLast_cons_of_ne_nil hne.1, List.mem_cons, not_or]
    exact ⟨hcharacter.symm, hbreak.1⟩
  · cases pieces with
    | nil => simp
    | cons next others =>
      rw [List.dropLast_cons_cons, List.forall_mem_cons] at hlast ⊢
      refine ⟨?_, hlast.2⟩
      rw [List.getLast?_cons_of_ne_nil hne.1]
      exact hlast.1

end Cuts

theorem cuts_lines (text : List Char) : Cuts text (lines text) := by
  induction text with
  | nil => exact ⟨rfl, by simp [lines], by simp [lines], by simp [lines]⟩
  | cons character rest ih =>
    by_cases hcharacter : character = '\n'
    · rw [lines, if_pos hcharacter, hcharacter]
      exact ih.cons_break
    · rw [lines, if_neg hcharacter]
      cases hlines : lines rest with
      | nil =>
        obtain rfl := (lines_eq_nil_iff rest).mp hlines
        exact ⟨rfl, by simp, by simp, by simp⟩
      | cons line others =>
        rw [hlines] at ih
        exact ih.cons_character hcharacter

theorem cuts_iff (text : List Char) (pieces : List (List Char)) :
    Cuts text pieces ↔ pieces = lines text :=
  ⟨Cuts.eq_lines, fun heq => heq ▸ cuts_lines text⟩

theorem width_eq_max? (text : List Char) :
    width text = ((lines text).map List.length).max?.getD 0 := by
  rw [width]
  cases lines text with
  | nil => rfl
  | cons line others =>
    rw [List.map_cons, List.max?_cons', Option.getD_some, List.foldl_cons, Nat.zero_max,
      List.foldl_map]

theorem width_eq_zero_iff (text : List Char) : width text = 0 ↔ text = [] := by
  constructor
  · intro hwidth
    rw [← lines_eq_nil_iff, List.eq_nil_iff_forall_not_mem]
    intro line hmem
    have hlength : line.length ≤ width text := (le_foldl_max_length (lines text) 0).2 line hmem
    have hempty : line = [] := List.eq_nil_of_length_eq_zero (by omega)
    exact (cuts_lines text).ne_nil line hmem hempty
  · rintro rfl
    rfl

/-- The place that the text before a character gives lies inside the rectangle. -/
theorem place_inside (front : List Char) (character : Char) (back : List Char) :
    rowAfter front < height (front ++ character :: back) ∧
      colAfter front < width (front ++ character :: back) := by
  have hcharacter : characterAt? (front ++ character :: back) (rowAfter front) (colAfter front) =
      some character :=
    (characterAt?_eq_some_iff ..).mpr ⟨front.length, by simp, by simp, by simp⟩
  exact inside_of_characterAt? hcharacter

/-- A chart is cut into the only list of lines there is, and its grid is blank, as high as
this list is long and as wide as its longest line, so that it has room for each character
at the place that the text before it gives. -/
theorem blankGrid_fits_lines (text : List Char) :
    (∀ pieces, Cuts text pieces ↔ pieces = lines text) ∧
      (blankGrid text).height = (lines text).length ∧
      (blankGrid text).width = ((lines text).map List.length).max?.getD 0 ∧
      ((blankGrid text).height = 0 ↔ text = []) ∧ ((blankGrid text).width = 0 ↔ text = []) ∧
      (blankGrid text).slots =
        Array.replicate ((blankGrid text).height * (blankGrid text).width) none ∧
      ∀ front character back, text = front ++ character :: back →
        rowAfter front < (blankGrid text).height ∧ colAfter front < (blankGrid text).width := by
  refine ⟨cuts_iff text, rfl, width_eq_max? text, ?_, width_eq_zero_iff text, rfl, ?_⟩
  · exact List.length_eq_zero_iff.trans (lines_eq_nil_iff text)
  · rintro front character back rfl
    exact place_inside front character back

/-- An empty line between two others, the last of which has no break. -/
theorem blankGrid_fits_lines_of_unended_chart :
    lines ['h', '\n', '\n', '|', ' '] = [['h', '\n'], ['\n'], ['|', ' ']] ∧
      (blankGrid ['h', '\n', '\n', '|', ' ']).height = 3 ∧
      (blankGrid ['h', '\n', '\n', '|', ' ']).width = 2 ∧
      rowAfter ['h', '\n', '\n', '|'] < (blankGrid ['h', '\n', '\n', '|', ' ']).height ∧
      colAfter ['h', '\n', '\n', '|'] < (blankGrid ['h', '\n', '\n', '|', ' ']).width := by
  obtain ⟨hcuts, hheight, hwidth, _, _, _, hinside⟩ :=
    blankGrid_fits_lines ['h', '\n', '\n', '|', ' ']
  have hlines : [['h', '\n'], ['\n'], ['|', ' ']] = lines ['h', '\n', '\n', '|', ' '] :=
    (hcuts _).mp ⟨rfl, by decide, by decide, by decide⟩
  refine ⟨hlines.symm, ?_, ?_, hinside _ ' ' [] rfl⟩
  · rw [hheight, ← hlines]
    rfl
  · rw [hwidth, ← hlines]
    rfl

end HexChart.Chart
