import HexChart.Proofs.Links

/-!
# The alphabet of charts

Charts are written with twelve characters: five blanks and the symbols of the seven
shapes.  Reading a text stops at its first character outside this alphabet and
reports that character where it stands (`strokes_eq_error_iff`), so a text is accepted
exactly when it has no such character.
-/

namespace HexChart

open Chart

namespace Chart

/-- The characters with which charts are written. -/
def alphabet : List Char :=
  [' ', '\t', '\n', '\r', '\x0c', '.', 'o', 'h', '?', '|', '/', '\\']

/-- The alphabet is made of the blanks and the symbols of the shapes. -/
theorem mem_alphabet_iff (character : Char) :
    character ∈ alphabet ↔
      Symbol.isBlank character = true ∨ ∃ shape : Shape, character = shape.symbol := by
  have hsymbols : (∃ shape : Shape, character = shape.symbol) ↔
      character ∈ Shape.all.map Shape.symbol := by
    simp only [List.mem_map, Shape.mem_all, true_and, eq_comm]
  rw [hsymbols]
  simp only [alphabet, Symbol.isBlank, Shape.all, Slant.all, Shape.symbol, List.map_cons,
    List.map_nil, List.cons_append, List.nil_append, List.mem_cons, List.not_mem_nil,
    or_false, Bool.or_eq_true, beq_iff_eq]
  grind

theorem classify_eq_blank_iff (character : Char) :
    Symbol.classify character = some .blank ↔ Symbol.isBlank character = true := by
  unfold Symbol.classify
  split
  · next hblank => simp [hblank]
  · next hblank =>
    split <;> simp [hblank]

/-- Exactly the characters of the alphabet have a meaning. -/
theorem classify_eq_none_iff (character : Char) :
    Symbol.classify character = none ↔ character ∉ alphabet := by
  rw [mem_alphabet_iff, ← classify_eq_blank_iff]
  simp only [← Symbol.classify_eq_cell_iff]
  cases hclassify : Symbol.classify character with
  | none => simp
  | some symbol => cases symbol <;> simp

theorem isSome_classify_iff (character : Char) :
    (Symbol.classify character).isSome = true ↔ character ∈ alphabet := by
  rw [← not_iff_not, ← classify_eq_none_iff, Option.not_isSome_iff_eq_none]

/-- Reading fails with the first character outside the alphabet, if there is one. -/
theorem strokes_eq_error_iff (found : List Glyph) (glyph : Glyph) :
    strokes found = .error glyph ↔
      found.find? (fun other => other.character ∉ alphabet) = some glyph := by
  induction found with
  | nil => simp [strokes]
  | cons head rest ih =>
    rw [strokes, List.find?_cons]
    cases hclassify : Symbol.classify head.character with
    | none =>
      rw [classify_eq_none_iff] at hclassify
      simp [hclassify]
    | some symbol =>
      have hmeaning : head.character ∈ alphabet :=
        (isSome_classify_iff _).mp (by rw [hclassify]; rfl)
      simp only [hmeaning, not_true_eq_false, decide_false, ← ih]
      cases symbol with
      | blank => rfl
      | cell shape => cases strokes rest <;> simp [Except.map]

theorem map_character_glyphs (text : List Char) :
    (glyphs text).map Glyph.character = text := by
  apply List.ext_getElem?
  intro i
  rw [List.getElem?_map, getElem?_glyphs, Option.map_map]
  exact Option.map_id'

/-- Reading a text goes on after each front part of it. -/
theorem glyphs_append (front back : List Char) :
    glyphs (front ++ back) =
      glyphs front ++ glyphsFrom (rowAfter front) (colAfter front) back := by
  induction front using List.reverseRecOn generalizing back with
  | nil => exact glyphs_eq_glyphsFrom back
  | append_singleton front character ih =>
    rw [List.append_assoc, ih, ih, List.append_assoc, rowAfter_concat, colAfter_concat]
    congr 1
    by_cases hbreak : character = '\n' <;> simp [glyphsFrom, hbreak]

/-- A glyph is the first character of a text outside the alphabet, at the place that
the text before it gives. -/
def IsFirstStray (text : List Char) (glyph : Glyph) : Prop :=
  ∃ front back, text = front ++ glyph.character :: back ∧
    (∀ character ∈ front, character ∈ alphabet) ∧ glyph.character ∉ alphabet ∧
      glyph.row = rowAfter front ∧ glyph.col = colAfter front

theorem strokes_glyphs_eq_error_iff (text : List Char) (glyph : Glyph) :
    strokes (glyphs text) = .error glyph ↔ IsFirstStray text glyph := by
  rw [strokes_eq_error_iff, List.find?_eq_some_iff_append]
  constructor
  · rintro ⟨hstray, before, after, hsplit, hbefore⟩
    have htext := map_character_glyphs text
    rw [hsplit, List.map_append, List.map_cons] at htext
    refine ⟨_, _, htext.symm, by simpa using hbefore, by simpa using hstray, ?_⟩
    have hlength : before.length = (glyphs (before.map Glyph.character)).length := by
      rw [← List.length_map Glyph.character, ← List.length_map Glyph.character,
        map_character_glyphs]
    rw [← htext, glyphs_append, glyphsFrom] at hsplit
    obtain ⟨_, htail⟩ := List.append_inj hsplit hlength.symm
    obtain ⟨hglyph, _⟩ := List.cons.inj htail
    rw [← hglyph]
    exact ⟨rfl, rfl⟩
  · rintro ⟨front, back, rfl, hfront, hstray, hrow, hcol⟩
    refine ⟨by simpa using hstray, glyphs front,
      (glyphsFrom glyph.row glyph.col (glyph.character :: back)).tail, ?_, ?_⟩
    · rw [glyphs_append, ← hrow, ← hcol]
      rfl
    · intro other hmem
      have hother : other.character ∈ front := by
        rw [← map_character_glyphs front]
        exact List.mem_map_of_mem hmem
      simpa using hfront _ hother

/-- A text has a first character outside the alphabet if it has any. -/
theorem forall_not_isFirstStray_iff (text : List Char) :
    (∀ glyph, ¬IsFirstStray text glyph) ↔ ∀ character ∈ text, character ∈ alphabet := by
  constructor
  · intro hfirst
    cases hfind : text.find? (· ∉ alphabet) with
    | none => simpa using hfind
    | some character =>
      obtain ⟨hstray, front, back, hsplit, hfront⟩ := List.find?_eq_some_iff_append.mp hfind
      exact absurd ⟨front, back, hsplit, by simpa using hfront, by simpa using hstray, rfl, rfl⟩
        (hfirst ⟨character, rowAfter front, colAfter front⟩)
  · rintro hmem glyph ⟨front, back, rfl, _, hstray, _⟩
    exact hstray (hmem glyph.character (by simp))

/-- What a front part of a text draws, the whole text draws as well. -/
theorem mem_drawn_append {front : List Char} {mark : Mark} (hmem : mark ∈ drawn front)
    (back : List Char) : mark ∈ drawn (front ++ back) := by
  obtain ⟨i, hmark⟩ := (mem_drawn_iff front mark).mp hmem
  have hcharacter := ((markAt?_eq_some_iff front i mark).mp hmark).1
  obtain ⟨hlength, _⟩ := List.getElem?_eq_some_iff.mp hcharacter
  exact (mem_drawn_iff (front ++ back) mark).mpr ⟨i, by rw [markAt?_append back hlength, hmark]⟩

end Chart

namespace Board

theorem parse_eq_error_iff (text : List Char) (glyph : Glyph) :
    parse text = .error glyph ↔ IsFirstStray text glyph := by
  rw [← strokes_glyphs_eq_error_iff, parse, Sketch.ofText, marks]
  cases strokes (glyphs text) <;> simp [Except.map]

theorem exists_parse_iff (text : List Char) :
    (∃ board, parse text = .ok board) ↔ ∀ glyph, ¬IsFirstStray text glyph := by
  simp only [← parse_eq_error_iff]
  cases parse text <;> simp

/-- An accepted text is written in the alphabet. -/
theorem mem_alphabet_of_parse {text : List Char} {board : Board}
    (hparse : parse text = .ok board) : ∀ character ∈ text, character ∈ alphabet :=
  (forall_not_isFirstStray_iff text).mp ((exists_parse_iff text).mp ⟨board, hparse⟩)

/-- A tab and a letter of two bytes take one column each, and a carriage return does
not end a line. -/
example : parse ['\t', '.', '\r', '\n', ' ', 'é', '#'] = .error ⟨'é', 1, 1⟩ := rfl

end Board

end HexChart
