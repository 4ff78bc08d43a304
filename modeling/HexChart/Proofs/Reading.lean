import HexChart.Chart.Mark
import Mathlib.Data.List.Induction

/-!
# Reading a chart off its text

A text alone says where each of its characters stands: the row is the number of
line breaks before it, and the column is the number of characters since the last
of them.  It also says what is drawn: the number of a cell is how many characters
of its kind come before it.  This module writes these readings down without
lines, grids or tallies and proves that reading the text line by line gives the
same characters at the same places (`getElem?_glyphs`, `characterAt?_eq_some_iff`).
-/

namespace HexChart.Chart

/-- The row of the character that follows a front part of a text. -/
def rowAfter (front : List Char) : Nat :=
  front.count '\n'

/-- The column of the character that follows a front part of a text. -/
def colAfter (front : List Char) : Nat :=
  (front.reverse.takeWhile (· ≠ '\n')).length

@[simp]
theorem rowAfter_nil : rowAfter [] = 0 := rfl

@[simp]
theorem colAfter_nil : colAfter [] = 0 := rfl

theorem rowAfter_append (front back : List Char) :
    rowAfter (front ++ back) = rowAfter front + rowAfter back := by
  simp [rowAfter]

theorem rowAfter_concat (front : List Char) (character : Char) :
    rowAfter (front ++ [character]) =
      if character = '\n' then rowAfter front + 1 else rowAfter front := by
  by_cases hbreak : character = '\n' <;> simp [rowAfter, hbreak]

theorem colAfter_concat (front : List Char) (character : Char) :
    colAfter (front ++ [character]) =
      if character = '\n' then 0 else colAfter front + 1 := by
  by_cases hbreak : character = '\n' <;> simp [colAfter, hbreak]

/-- As long as no line ends, the column grows with the text. -/
theorem colAfter_append {front back : List Char} (hback : rowAfter back = 0) :
    colAfter (front ++ back) = colAfter front + back.length := by
  induction back using List.reverseRecOn with
  | nil => simp
  | append_singleton back character ih =>
    rw [rowAfter_concat] at hback
    split at hback
    · simp at hback
    · next hbreak =>
      rw [← List.append_assoc, colAfter_concat, if_neg hbreak, ih hback,
        List.length_append, List.length_singleton, Nat.add_assoc]

/-- A character stands before every later one in reading order. -/
theorem place_lt (front : List Char) {back : List Char} (hback : back ≠ []) :
    rowAfter front < rowAfter (front ++ back) ∨
      rowAfter front = rowAfter (front ++ back) ∧
        colAfter front < colAfter (front ++ back) := by
  rw [rowAfter_append]
  rcases Nat.eq_zero_or_pos (rowAfter back) with hsame | hlater
  · right
    have hlength : 0 < back.length := List.length_pos_iff.mpr hback
    rw [colAfter_append hsame]
    omega
  · left
    omega

/-! ## Reading line by line -/

/-- The characters of a text whose first one stands at `(row, col)`. -/
def glyphsFrom : Nat → Nat → List Char → List Glyph
  | _, _, [] => []
  | row, col, character :: rest =>
    ⟨character, row, col⟩ ::
      if character = '\n' then glyphsFrom (row + 1) 0 rest
      else glyphsFrom row (col + 1) rest

/-- Lines that are numbered from `row` on, the first of them from column `col` on,
hold the characters that reading on from `(row, col)` meets. -/
theorem glyphsFrom_eq_lines (text : List Char) (row col : Nat) :
    glyphsFrom row col text =
      match lines text with
      | [] => []
      | line :: others =>
        (line.zipIdx col).map (fun (character, col) => ⟨character, row, col⟩) ++
          (others.zipIdx (row + 1)).flatMap fun (line, row) =>
            line.zipIdx.map fun (character, col) => ⟨character, row, col⟩ := by
  induction text generalizing row col with
  | nil => rfl
  | cons character rest ih =>
    by_cases hbreak : character = '\n'
    · rw [glyphsFrom, if_pos hbreak, ih (row + 1) 0, lines, if_pos hbreak]
      cases lines rest <;> simp
    · rw [glyphsFrom, if_neg hbreak, ih row (col + 1), lines, if_neg hbreak]
      cases lines rest <;> simp

theorem glyphs_eq_glyphsFrom (text : List Char) : glyphs text = glyphsFrom 0 0 text := by
  rw [glyphsFrom_eq_lines, glyphs]
  cases lines text <;> simp

/-- Reading on after a front part meets the rest of the text at its places. -/
theorem getElem?_glyphsFrom (front rest : List Char) (i : Nat) :
    (glyphsFrom (rowAfter front) (colAfter front) rest)[i]? =
      rest[i]?.map fun character =>
        ⟨character, rowAfter (front ++ rest.take i), colAfter (front ++ rest.take i)⟩ := by
  induction rest generalizing front i with
  | nil => rfl
  | cons character rest ih =>
    cases i with
    | zero => simp [glyphsFrom]
    | succ i =>
      have hnext := ih (front ++ [character]) i
      rw [rowAfter_concat, colAfter_concat] at hnext
      rw [glyphsFrom]
      by_cases hbreak : character = '\n'
      · simpa [hbreak] using hnext
      · simpa [hbreak] using hnext

/-- The characters of a text, read line by line, stand at the places that the text
before them gives. -/
theorem getElem?_glyphs (text : List Char) (i : Nat) :
    (glyphs text)[i]? =
      text[i]?.map fun character =>
        ⟨character, rowAfter (text.take i), colAfter (text.take i)⟩ := by
  rw [glyphs_eq_glyphsFrom]
  exact getElem?_glyphsFrom [] text i

/-- The `col`-th character of the `row`-th line. -/
def characterAt? (text : List Char) (row col : Nat) : Option Char :=
  (lines text)[row]?.bind fun characters => characters[col]?

theorem mem_glyphs_iff (text : List Char) (glyph : Glyph) :
    glyph ∈ glyphs text ↔ characterAt? text glyph.row glyph.col = some glyph.character := by
  obtain ⟨character, row, col⟩ := glyph
  simp only [glyphs, characterAt?, List.mem_flatMap, List.mem_map, Prod.exists, Option.bind_eq_some_iff,
    List.mem_zipIdx_iff_getElem?, Glyph.mk.injEq]
  constructor
  · rintro ⟨line, lineRow, hline, symbol, symbolCol, hsymbol, rfl, rfl, rfl⟩
    exact ⟨line, hline, hsymbol⟩
  · rintro ⟨line, hline, hsymbol⟩
    exact ⟨line, row, hline, character, col, hsymbol, rfl, rfl, rfl⟩

/-- The `col`-th character of the `row`-th line is the character of the text before
which `row` lines end and `col` characters of its own line stand. -/
theorem characterAt?_eq_some_iff (text : List Char) (row col : Nat) (character : Char) :
    characterAt? text row col = some character ↔
      ∃ i, text[i]? = some character ∧ rowAfter (text.take i) = row ∧
        colAfter (text.take i) = col := by
  rw [← mem_glyphs_iff text ⟨character, row, col⟩, List.mem_iff_getElem?]
  apply exists_congr
  intro i
  rw [getElem?_glyphs]
  cases text[i]? <;> simp

/-! ## Texts that are given line by line -/

theorem lines_append_break {front : List Char} (hfront : '\n' ∉ front) (rest : List Char) :
    lines (front ++ '\n' :: rest) = (front ++ ['\n']) :: lines rest := by
  induction front with
  | nil => simp [lines]
  | cons character front ih =>
    rw [List.mem_cons, not_or] at hfront
    have hbreak : character ≠ '\n' := fun heq => hfront.1 heq.symm
    rw [List.cons_append, lines, if_neg hbreak, ih hfront.2]
    rfl

/-- Rows without breaks, each ended by one, are the lines of the text that they make. -/
theorem lines_flatMap_break {rows : List (List Char)} (hrows : ∀ row ∈ rows, '\n' ∉ row) :
    lines (rows.flatMap fun row => row ++ ['\n']) = rows.map fun row => row ++ ['\n'] := by
  induction rows with
  | nil => rfl
  | cons row others ih =>
    have hothers : ∀ other ∈ others, '\n' ∉ other := fun other hmem =>
      hrows other (List.mem_cons_of_mem row hmem)
    rw [List.flatMap_cons, List.append_assoc, List.singleton_append,
      lines_append_break (hrows row List.mem_cons_self), ih hothers, List.map_cons]

end HexChart.Chart
