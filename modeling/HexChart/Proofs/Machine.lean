import HexChart.Board.Word
import HexChart.Proofs.Alphabet
import HexChart.Proofs.Capacity
import HexChart.Proofs.Reach

/-!
# Reading a chart in words

A machine that calculates in words of 64 bits reads a text as it is read over the integers
wherever one word can hold height times width (`WordBoard.parse_eq`): it has the same
board, or reports the same character.  What is proved of the boards of such texts is
therefore true of its boards.  On a larger text it may also stop, and one of `2 ^ 33 - 1`
characters makes it stop (`parse_stops_at_ledge`).
-/

namespace HexChart

open Chart

/-! ## Looking out -/

/-- Where every item has an answer, the answers are those of the items in their order. -/
theorem mapM_eq_some_map {α β : Type} {f : α → Option β} {g : α → β} {items : List α}
    (hitems : ∀ item ∈ items, f item = some (g item)) : items.mapM f = some (items.map g) := by
  induction items with
  | nil => rfl
  | cons item others ih =>
    rw [List.forall_mem_cons] at hitems
    rw [List.mapM_cons, hitems.1, ih hitems.2]
    rfl

theorem Offset.inWords_of_mem_offsets {shape : Shape} {offset : Offset}
    (hoffset : offset ∈ shape.offsets) : offset.InWords := by
  rcases Shape.far_or_near shape (Shape.mem_all shape) offset hoffset with hfar | hnear
  · exact inWords_of_mem far (by decide) offset hfar
  · exact inWords_of_mem near (by decide) offset hnear

/-- A machine sees at every offset of a shape what is seen there over the integers. -/
theorem WordGrid.StandsFor.look?_eq {words : WordGrid} {grid : Grid}
    (hstands : words.StandsFor grid) {offset : Offset} (hwords : offset.InWords)
    (row col : UInt64) :
    words.look? row col offset = some (grid.look row.toNat col.toNat offset) := by
  have hreach := Offset.map_applyWords hwords row col words.height words.width
  rw [hstands.height_eq, hstands.width_eq] at hreach
  rw [look?, Grid.look, ← hreach]
  cases offset.applyWords row col words.height words.width with
  | none => rfl
  | some target => exact hstands.get?_eq target.1 target.2

theorem Cell.ofMarkWords?_eq {words : WordGrid} {grid : Grid} (hstands : words.StandsFor grid)
    {mark : Mark} (hrow : mark.row < grid.height) (hcol : mark.col < grid.width) :
    ofMarkWords? words mark = some (ofMark grid mark) := by
  have hhas := hstands.hasSlot hrow hcol
  have hlook : ∀ offset ∈ mark.shape.offsets,
      words.look? (.ofNat mark.row) (.ofNat mark.col) offset =
        some (grid.look mark.row mark.col offset) := by
    intro offset hoffset
    rw [hstands.look?_eq (Offset.inWords_of_mem_offsets hoffset), hhas.toNat_row, hhas.toNat_col]
  rw [ofMarkWords?, mapM_eq_some_map hlook]
  rfl

/-! ## Placing -/

namespace Chart

/-- On a grid that stands for one over the integers, the machine places what is drawn. -/
theorem placeGlyphs_eq {words : WordGrid} {grid : Grid} (hstands : words.StandsFor grid)
    {found : List Glyph}
    (hinside : ∀ glyph ∈ found, glyph.row < grid.height ∧ glyph.col < grid.width)
    (tally : Census) :
    placeGlyphs found tally words =
      ((strokes found).map fun drawn =>
        let sketch := Sketch.onGrid grid (numbered tally drawn)
        (WordGrid.ofGrid sketch.grid, sketch.marks)).mapError .stray := by
  induction found generalizing words grid tally with
  | nil =>
    rw [hstands.eq_ofGrid]
    rfl
  | cons glyph rest ih =>
    rw [List.forall_mem_cons] at hinside
    obtain ⟨⟨hrow, hcol⟩, hrest⟩ := hinside
    rw [placeGlyphs, strokes]
    cases hclassify : Symbol.classify glyph.character with
    | none => rfl
    | some symbol =>
      cases symbol with
      | blank => exact ih hstands hrest tally
      | cell shape =>
        -- the placed grid stands for the one on which the mark was placed, so the rest goes on
        obtain ⟨placed, hplaced, hstandsPlaced⟩ :=
          hstands.exists_place hrow hcol ⟨shape.kind, tally.get shape.kind⟩
        have hothers := ih hstandsPlaced (by simpa using hrest)
          (tally.modify shape.kind (· + 1))
        simp only [Mark.ref, hplaced, hothers]
        cases strokes rest <;> rfl

theorem placeGlyphs_glyphs_eq {text : List Char}
    (harea : height text * width text < UInt64.size) :
    placeGlyphs (glyphs text) (PerKind.ofFn fun _ => 0) (blankWords text) =
      ((Sketch.ofText text).map fun sketch =>
        (WordGrid.ofGrid sketch.grid, sketch.marks)).mapError .stray := by
  have hinside : ∀ glyph ∈ glyphs text, glyph.row < height text ∧ glyph.col < width text :=
    fun glyph hmem => inside_of_characterAt? ((mem_glyphs_iff text glyph).mp hmem)
  rw [placeGlyphs_eq (standsFor_blankWords harea) hinside, Sketch.ofText, marks]
  cases strokes (glyphs text) <;> rfl

/-- A machine that does not stop has gone through the characters as they are read. -/
theorem placeGlyphs_cases (found : List Glyph) (tally : Census) (words : WordGrid) :
    placeGlyphs found tally words = .error .stopped ∨
      (∃ glyph, strokes found = .error glyph ∧
        placeGlyphs found tally words = .error (.stray glyph)) ∨
      ∃ drawn placed, strokes found = .ok drawn ∧
        placeGlyphs found tally words = .ok placed := by
  induction found generalizing tally words with
  | nil => exact .inr (.inr ⟨_, _, rfl, rfl⟩)
  | cons glyph rest ih =>
    rw [placeGlyphs, strokes]
    cases hclassify : Symbol.classify glyph.character with
    | none => exact .inr (.inl ⟨_, rfl, rfl⟩)
    | some symbol =>
      cases symbol with
      | blank => exact ih tally words
      | cell shape =>
        simp only
        cases words.place? (.ofNat glyph.row) (.ofNat glyph.col)
            (Mark.ref ⟨shape, glyph.row, glyph.col, tally.get shape.kind⟩) with
        | none => exact .inl rfl
        | some placed =>
          rcases ih (tally.modify shape.kind (· + 1)) placed with
            hstopped | ⟨stray, hstrokes, hplaced⟩ | ⟨drawn, after, hstrokes, hplaced⟩
          · simp [hstopped, Except.map]
          · simp [hstrokes, hplaced, Except.map]
          · simp [hstrokes, hplaced, Except.map]

/-- A grid without slots has none for the first mark. -/
theorem placeGlyphs_eq_stopped {words : WordGrid} (hslots : words.slots.size = 0)
    {found : List Glyph} (halphabet : ∀ glyph ∈ found, glyph.character ∈ alphabet)
    (hmark : ∃ glyph ∈ found, Symbol.isBlank glyph.character = false) (tally : Census) :
    placeGlyphs found tally words = .error .stopped := by
  induction found generalizing tally with
  | nil => simp at hmark
  | cons glyph rest ih =>
    rw [List.forall_mem_cons] at halphabet
    rw [placeGlyphs]
    cases hclassify : Symbol.classify glyph.character with
    | none => exact absurd halphabet.1 ((classify_eq_none_iff _).mp hclassify)
    | some symbol =>
      cases symbol with
      | blank =>
        have hblank := (classify_eq_blank_iff _).mp hclassify
        simp only [List.mem_cons, exists_eq_or_imp, hblank, Bool.true_eq_false, false_or] at hmark
        exact ih halphabet.2 hmark tally
      | cell shape =>
        -- every slot number is too large
        simp [WordGrid.place?, hslots]

end Chart

/-! ## Boards -/

namespace WordBoard

theorem ofMarks?_eq {words : WordGrid} {sketch : Sketch} (hstands : words.StandsFor sketch.grid)
    (hinside : ∀ mark ∈ sketch.marks,
      mark.row < sketch.grid.height ∧ mark.col < sketch.grid.width) :
    ofMarks? words sketch.marks = some (ofBoard (Board.ofSketch sketch)) := by
  have hcells : ∀ mark ∈ sketch.marks,
      Cell.ofMarkWords? words mark = some (Cell.ofMark sketch.grid mark) := fun mark hmem =>
    Cell.ofMarkWords?_eq hstands (hinside mark hmem).1 (hinside mark hmem).2
  rw [ofMarks?, mapM_eq_some_map hcells, hstands.eq_ofGrid]
  simp only [Option.map_some, List.filter_map]
  rfl

/-- Where one word can hold height times width, a machine has the board of a text, or
reports the character that has no meaning. -/
theorem parse_eq {text : List Char} (harea : height text * width text < UInt64.size) :
    parse text = ((Board.parse text).map ofBoard).mapError .stray := by
  rw [parse, placeGlyphs_glyphs_eq harea, Board.parse]
  cases hsketch : Sketch.ofText text with
  | error glyph => rfl
  | ok sketch =>
    obtain ⟨words, _, hstands⟩ := exists_drawnWords harea hsketch
    obtain ⟨hheight, hwidth⟩ := Sketch.size_sketch hsketch
    have hinside : ∀ mark ∈ sketch.marks,
        mark.row < sketch.grid.height ∧ mark.col < sketch.grid.width := by
      rw [hheight, hwidth, Sketch.marks_sketch hsketch]
      exact fun mark hmem => drawn_inside hmem
    -- placing has left the grid of the sketch in words, on which the machine looks out
    simp only [Except.map, Except.mapError]
    rw [← hstands.eq_ofGrid, ofMarks?_eq hstands hinside]

/-- A machine stops, or it reports the first character outside the alphabet, or it has a
board and there is no such character. -/
theorem parse_cases (text : List Char) :
    parse text = .error .stopped ∨
      (∃ glyph, IsFirstStray text glyph ∧ parse text = .error (.stray glyph)) ∨
      ∃ board, (∀ glyph, ¬IsFirstStray text glyph) ∧ parse text = .ok board := by
  rw [parse]
  simp only [← strokes_glyphs_eq_error_iff]
  rcases placeGlyphs_cases (glyphs text) (PerKind.ofFn fun _ => 0) (blankWords text) with
    hstopped | ⟨glyph, hstrokes, hplaced⟩ | ⟨drawn, ⟨words, marks⟩, hstrokes, hplaced⟩
  · exact .inl (by rw [hstopped])
  · exact .inr (.inl ⟨glyph, hstrokes, by rw [hplaced]⟩)
  · cases hboard : ofMarks? words marks with
    | none => exact .inl (by simp only [hplaced, hboard])
    | some board => exact .inr (.inr ⟨board, by simp [hstrokes], by simp only [hplaced, hboard]⟩)

/-! ## The alphabet -/

/-- A machine that reports a character reports the first one outside the alphabet, and it
has no board for a text with such a character.  Where one word can hold height times width,
it reports that character if there is one, has a board if there is none, and never
stops: all that a front part of the text draws has a slot on the grid for the whole text,
whether that text is accepted or not.  This is so for every text of fewer than `2 ^ 33 - 1`
characters. -/
theorem parse_accepts_alphabet (text : List Char) :
    (∀ glyph, parse text = .error (.stray glyph) → IsFirstStray text glyph) ∧
      (∀ board, parse text = .ok board → ∀ glyph, ¬IsFirstStray text glyph) ∧
      (height text * width text < UInt64.size →
        (∀ glyph, parse text = .error (.stray glyph) ↔ IsFirstStray text glyph) ∧
          ((∃ board, parse text = .ok board) ↔ ∀ glyph, ¬IsFirstStray text glyph) ∧
          parse text ≠ .error .stopped ∧
          ∀ front back, text = front ++ back → ∀ mark ∈ drawn front,
            (blankWords text).HasSlot mark.row mark.col) ∧
      (text.length < 2 ^ 33 - 1 → height text * width text < UInt64.size) := by
  refine ⟨?_, ?_, fun harea => ?_, area_lt⟩
  · intro glyph hreported
    rcases parse_cases text with hstopped | ⟨stray, hfirst, hparse⟩ | ⟨board, _, hparse⟩
    · simp [hreported] at hstopped
    · simp only [hreported, Except.error.injEq, Halt.stray.injEq] at hparse
      rwa [hparse]
    · simp [hreported] at hparse
  · intro board haccepted
    rcases parse_cases text with hstopped | ⟨stray, _, hparse⟩ | ⟨_, hnone, _⟩
    · simp [haccepted] at hstopped
    · simp [haccepted] at hparse
    · exact hnone
  · have hparse := parse_eq harea
    refine ⟨fun glyph => ?_, ?_, ?_, ?_⟩
    · rw [← Board.parse_eq_error_iff, hparse]
      cases Board.parse text <;> simp [Except.map, Except.mapError]
    · rw [← Board.exists_parse_iff, hparse]
      cases Board.parse text <;> simp [Except.map, Except.mapError]
    · rw [hparse]
      cases Board.parse text <;> simp [Except.map, Except.mapError]
    · rintro front back rfl mark hmem
      obtain ⟨hrow, hcol⟩ := drawn_inside (mem_drawn_append hmem back)
      exact (standsFor_blankWords harea).hasSlot hrow hcol

/-- A tab and a letter of two bytes take one column each, and a carriage return does not
end a line. -/
theorem parse_accepts_alphabet_of_accented_letter :
    let text := ['\t', '.', '\r', '\n', ' ', 'é', '#']
    height text * width text < UInt64.size ∧ IsFirstStray text ⟨'é', 1, 1⟩ ∧
      parse text = .error (.stray ⟨'é', 1, 1⟩) ∧ (¬∃ board, parse text = .ok board) ∧
      (blankWords text).HasSlot 0 1 := by
  intro text
  obtain ⟨_, _, hsmall, hlength⟩ := parse_accepts_alphabet text
  have harea := hlength (by decide)
  obtain ⟨hreports, haccepts, _, hslots⟩ := hsmall harea
  have hfirst : IsFirstStray text ⟨'é', 1, 1⟩ :=
    ⟨['\t', '.', '\r', '\n', ' '], ['#'], rfl, by simp [alphabet], by decide, rfl, rfl⟩
  have hslot :=
    hslots ['\t', '.'] ['\r', '\n', ' ', 'é', '#'] rfl ⟨.junction, 0, 1, 0⟩ (by decide)
  exact ⟨harea, hfirst, (hreports _).mpr hfirst, fun hboard => haccepts.mp hboard _ hfirst, hslot⟩

/-! ## A text that stops the machine -/

theorem parse_eq_stopped {text : List Char} (hslots : (blankWords text).slots.size = 0)
    (halphabet : ∀ character ∈ text, character ∈ alphabet)
    (hmark : ∃ character ∈ text, Symbol.isBlank character = false) :
    parse text = .error .stopped := by
  have hfound : ∀ glyph ∈ glyphs text, glyph.character ∈ text := fun glyph hmem => by
    rw [← map_character_glyphs text]
    exact List.mem_map_of_mem hmem
  obtain ⟨character, hcharacter, hvisible⟩ := hmark
  rw [← map_character_glyphs text] at hcharacter
  obtain ⟨glyph, hglyph, rfl⟩ := List.mem_map.mp hcharacter
  rw [parse, placeGlyphs_eq_stopped hslots (fun other hmem => halphabet _ (hfound other hmem))
    ⟨glyph, hglyph, hvisible⟩]

/-- A junction at the end of a ledge has no slot if the area of the ledge wraps to zero. -/
theorem parse_ledge_eq_stopped (breaks blanks : Nat) (hbreaks : breaks + 1 < UInt64.size)
    (hblanks : blanks + 1 < UInt64.size) (harea : (breaks + 1) * (blanks + 1) = UInt64.size) :
    let text := ledge breaks (List.replicate blanks ' ' ++ ['.'])
    text.length = breaks + (blanks + 1) ∧ (∀ glyph, ¬IsFirstStray text glyph) ∧
      parse text = .error .stopped := by
  intro text
  have hunended : '\n' ∉ List.replicate blanks ' ' ++ ['.'] := by simp
  have hlength : (List.replicate blanks ' ' ++ ['.']).length = blanks + 1 := by simp
  obtain ⟨hheight, hwidth⟩ := size_ledge hunended (by simp) breaks
  rw [hlength] at hwidth
  have halphabet : ∀ character ∈ text, character ∈ alphabet := by
    intro character hmem
    simp only [text, ledge, List.mem_append, List.mem_replicate, List.mem_singleton] at hmem
    rcases hmem with ⟨_, rfl⟩ | ⟨_, rfl⟩ | rfl <;> decide
  have hslots : (blankWords text).slots.size = 0 := by
    rw [(size_slots_blankWords (hheight.trans_lt hbreaks) (hwidth.trans_lt hblanks)).2, hheight,
      hwidth, harea, Nat.mod_self]
  refine ⟨?_, (forall_not_isFirstStray_iff text).mpr halphabet, ?_⟩
  · rw [length_ledge, hlength]
  · exact parse_eq_stopped hslots halphabet ⟨'.', by simp [text, ledge], rfl⟩

/-- A text of `2 ^ 33 - 1` characters of the alphabet, with `2 ^ 32` rows and columns, for
which the machine makes no slots. -/
theorem parse_stops_at_ledge :
    let text := ledge (2 ^ 32 - 1) (List.replicate (2 ^ 32 - 1) ' ' ++ ['.'])
    text.length = 2 ^ 33 - 1 ∧ (∀ glyph, ¬IsFirstStray text glyph) ∧
      parse text = .error .stopped ∧
      ¬((∃ board, parse text = .ok board) ↔ ∀ glyph, ¬IsFirstStray text glyph) := by
  intro text
  obtain ⟨hlength, hnone, hstopped⟩ :=
    parse_ledge_eq_stopped (2 ^ 32 - 1) (2 ^ 32 - 1) (by decide) (by decide) (by decide)
  refine ⟨hlength, hnone, hstopped, fun hiff => ?_⟩
  obtain ⟨board, hboard⟩ := hiff.mpr hnone
  rw [hstopped] at hboard
  cases hboard

end WordBoard

end HexChart
