import HexChart.Proofs.Reading
import Mathlib.Data.List.Basic
import Mathlib.Data.List.Pairwise

/-!
# What a text draws

The cells of a chart can be read off its text character by character: each
character that draws a shape is a mark at its own place, and its number is how
many characters of the same kind stand before it.  Reading the chart gives
exactly these marks (`marks_eq_drawn`), and they are numbered and placed in
reading order (`map_index_drawnOf`, `pairwise_precedes_drawn`).
-/

namespace HexChart

namespace Shape

/-- Every shape. -/
def all : List Shape :=
  Slant.all.map road ++ [junction, tile, flippable, ocean]

theorem mem_all (shape : Shape) : shape ∈ all := by
  rcases shape with ⟨_ | _ | _⟩ | _ | _ | _ | _ <;> decide

/-- The shape that a character draws. -/
def ofSymbol? (character : Char) : Option Shape :=
  all.find? fun shape => shape.symbol = character

@[simp]
theorem ofSymbol?_symbol (shape : Shape) : ofSymbol? shape.symbol = some shape := by
  rcases shape with ⟨_ | _ | _⟩ | _ | _ | _ | _ <;> rfl

theorem symbol_injective {left right : Shape} (hsymbol : left.symbol = right.symbol) :
    left = right := by
  have hshape := ofSymbol?_symbol left
  rw [hsymbol, ofSymbol?_symbol, Option.some.injEq] at hshape
  exact hshape.symm

theorem ofSymbol?_eq_some_iff (character : Char) (shape : Shape) :
    ofSymbol? character = some shape ↔ character = shape.symbol := by
  constructor
  · intro hshape
    simpa [eq_comm] using List.find?_some hshape
  · rintro rfl
    exact ofSymbol?_symbol shape

end Shape

namespace Symbol

theorem classify_eq_cell_iff (character : Char) (shape : Shape) :
    classify character = some (.cell shape) ↔ character = shape.symbol := by
  constructor
  · intro hcell
    unfold classify at hcell
    split at hcell
    · simp at hcell
    · split at hcell <;> simp at hcell <;> subst hcell <;> rfl
  · rintro rfl
    exact classify_symbol shape

/-- The shape that a symbol stands for. -/
def shape? : Symbol → Option Shape
  | blank => none
  | cell shape => some shape

/-- Reading a character as a symbol and looking it up among the shapes agree. -/
theorem ofSymbol?_of_classify {character : Char} {symbol : Symbol}
    (hclassify : classify character = some symbol) :
    Shape.ofSymbol? character = symbol.shape? := by
  cases symbol with
  | blank =>
    rw [shape?, Option.eq_none_iff_forall_ne_some]
    intro shape hshape
    rw [Shape.ofSymbol?_eq_some_iff, ← classify_eq_cell_iff, hclassify] at hshape
    simp at hshape
  | cell shape =>
    rw [classify_eq_cell_iff] at hclassify
    rw [hclassify, Shape.ofSymbol?_symbol, shape?]

end Symbol

namespace Chart

/-- How many cells of a kind a text draws. -/
def tally (text : List Char) (kind : Kind) : Nat :=
  text.countP fun character =>
    (Shape.ofSymbol? character).any fun shape => shape.kind = kind

/-- The mark that the character with number `i` leaves, read off the text before it. -/
def markAt? (text : List Char) (i : Nat) : Option Mark :=
  (text[i]?.bind Shape.ofSymbol?).map fun shape =>
    ⟨shape, rowAfter (text.take i), colAfter (text.take i), tally (text.take i) shape.kind⟩

/-- The marks of a text in reading order. -/
def drawn (text : List Char) : List Mark :=
  (List.range text.length).filterMap (markAt? text)

@[simp]
theorem drawn_nil : drawn [] = [] := rfl

theorem tally_concat (front : List Char) (character : Char) (kind : Kind) :
    tally (front ++ [character]) kind =
      match Shape.ofSymbol? character with
      | some shape => if shape.kind = kind then tally front kind + 1 else tally front kind
      | none => tally front kind := by
  rw [tally, tally, List.countP_append, List.countP_singleton]
  cases Shape.ofSymbol? character with
  | none => rfl
  | some shape => by_cases hkind : shape.kind = kind <;> simp [hkind]

theorem markAt?_append {front : List Char} (back : List Char) {i : Nat}
    (hi : i < front.length) : markAt? (front ++ back) i = markAt? front i := by
  rw [markAt?, markAt?, List.getElem?_append_left hi,
    List.take_append_of_le_length (Nat.le_of_lt hi)]

/-- A further character leaves its mark after all the others. -/
theorem drawn_concat (front : List Char) (character : Char) :
    drawn (front ++ [character]) = drawn front ++
      ((Shape.ofSymbol? character).map fun shape => (⟨shape, rowAfter front,
        colAfter front, tally front shape.kind⟩ : Mark)).toList := by
  have hfront : (List.range front.length).filterMap (markAt? (front ++ [character])) =
      drawn front := by
    apply List.filterMap_congr
    intro i hi
    exact markAt?_append [character] (List.mem_range.mp hi)
  have hlast : markAt? (front ++ [character]) front.length =
      (Shape.ofSymbol? character).map fun shape =>
        ⟨shape, rowAfter front, colAfter front, tally front shape.kind⟩ := by
    simp [markAt?]
  rw [drawn, List.length_append, List.length_singleton, List.range_succ,
    List.filterMap_append, hfront, List.filterMap_cons, hlast]
  cases Shape.ofSymbol? character <;> rfl

theorem tallies_concat_blank (front : List Char) {character : Char}
    (hblank : Symbol.classify character = some .blank) :
    PerKind.ofFn (tally (front ++ [character])) = PerKind.ofFn (tally front) := by
  have hshape : Shape.ofSymbol? character = none := Symbol.ofSymbol?_of_classify hblank
  apply PerKind.ext_get
  intro kind
  rw [PerKind.get_ofFn, PerKind.get_ofFn, tally_concat, hshape]

theorem tallies_concat_cell (front : List Char) {character : Char} {shape : Shape}
    (hcell : Symbol.classify character = some (.cell shape)) :
    PerKind.ofFn (tally (front ++ [character])) =
      (PerKind.ofFn (tally front)).modify shape.kind (· + 1) := by
  have hshape : Shape.ofSymbol? character = some shape := Symbol.ofSymbol?_of_classify hcell
  apply PerKind.ext_get
  intro kind
  rw [PerKind.get_modify, PerKind.get_ofFn, PerKind.get_ofFn, tally_concat, hshape]
  simp only [eq_comm]

/-- Reading on after a front part adds the marks of the rest to those of the front. -/
theorem drawn_append_of_strokes {front rest : List Char} {found : List Stroke}
    (hfound : strokes (glyphsFrom (rowAfter front) (colAfter front) rest) = .ok found) :
    drawn (front ++ rest) =
      drawn front ++ numbered (PerKind.ofFn (tally front)) found := by
  -- the front grows with every character, and its tallies are the numbers to give next
  induction rest generalizing front found with
  | nil =>
    simp only [glyphsFrom, strokes, Except.ok.injEq] at hfound
    simp [← hfound, numbered]
  | cons character rest ih =>
    have hnext := @ih (front ++ [character])
    have hplace : glyphsFrom (rowAfter (front ++ [character]))
        (colAfter (front ++ [character])) rest =
          if character = '\n' then glyphsFrom (rowAfter front + 1) 0 rest
          else glyphsFrom (rowAfter front) (colAfter front + 1) rest := by
      rw [rowAfter_concat, colAfter_concat]
      split <;> rfl
    rw [hplace, List.append_assoc, List.singleton_append, drawn_concat] at hnext
    rw [glyphsFrom, strokes] at hfound
    cases hclassify : Symbol.classify character with
    | none => simp [hclassify] at hfound
    | some symbol =>
      have hshape := Symbol.ofSymbol?_of_classify hclassify
      cases symbol with
      | blank =>
        simp only [hclassify] at hfound
        rw [hnext hfound, tallies_concat_blank front hclassify]
        simp [hshape, Symbol.shape?]
      | cell shape =>
        simp only [hclassify] at hfound
        cases hrest : strokes (if character = '\n' then glyphsFrom (rowAfter front + 1) 0 rest
            else glyphsFrom (rowAfter front) (colAfter front + 1) rest) with
        | error glyph => simp [hrest, Except.map] at hfound
        | ok others =>
          simp only [hrest, Except.map, Except.ok.injEq] at hfound
          rw [hnext hrest, tallies_concat_cell front hclassify, ← hfound]
          simp [hshape, Symbol.shape?, numbered]

/-- An accepted text has the marks that can be read off it. -/
theorem marks_eq_drawn {text : List Char} {found : List Mark}
    (hmarks : marks text = .ok found) : found = drawn text := by
  rw [marks, glyphs_eq_glyphsFrom] at hmarks
  cases hstrokes : strokes (glyphsFrom 0 0 text) with
  | error glyph => simp [hstrokes, Except.map] at hmarks
  | ok strokes =>
    simp only [hstrokes, Except.map, Except.ok.injEq] at hmarks
    have hdrawn := @drawn_append_of_strokes [] text strokes hstrokes
    rw [List.nil_append, drawn_nil, List.nil_append] at hdrawn
    rw [← hmarks, hdrawn]
    rfl

/-- A text of characters that all have a meaning is read to its end. -/
theorem exists_marks {text : List Char}
    (hmeaning : ∀ character ∈ text, (Symbol.classify character).isSome) :
    ∃ found, marks text = .ok found := by
  have hstrokes : ∀ row col, ∃ found, strokes (glyphsFrom row col text) = .ok found := by
    induction text with
    | nil => exact fun _ _ => ⟨[], rfl⟩
    | cons character rest ih =>
      intro row col
      have hrest := ih fun other hmem => hmeaning other (List.mem_cons_of_mem character hmem)
      obtain ⟨found, hfound⟩ : ∃ found, strokes (if character = '\n' then
          glyphsFrom (row + 1) 0 rest else glyphsFrom row (col + 1) rest) = .ok found := by
        split
        · exact hrest (row + 1) 0
        · exact hrest row (col + 1)
      obtain ⟨symbol, hsymbol⟩ :=
        Option.isSome_iff_exists.mp (hmeaning character List.mem_cons_self)
      rw [glyphsFrom, strokes]
      cases symbol <;> simp [hsymbol, hfound, Except.map]
  obtain ⟨found, hfound⟩ := hstrokes 0 0
  rw [marks, glyphs_eq_glyphsFrom, hfound]
  exact ⟨_, rfl⟩

/-! ## Places and numbers -/

theorem markAt?_eq_some_iff (text : List Char) (i : Nat) (mark : Mark) :
    markAt? text i = some mark ↔
      text[i]? = some mark.shape.symbol ∧ mark.row = rowAfter (text.take i) ∧
        mark.col = colAfter (text.take i) ∧
          mark.index = tally (text.take i) mark.shape.kind := by
  obtain ⟨shape, row, col, index⟩ := mark
  simp only [markAt?, Option.map_eq_some_iff, Option.bind_eq_some_iff,
    Shape.ofSymbol?_eq_some_iff, Mark.mk.injEq]
  constructor
  · rintro ⟨_, ⟨_, hcharacter, rfl⟩, rfl, rfl, rfl, rfl⟩
    exact ⟨hcharacter, rfl, rfl, rfl⟩
  · rintro ⟨hcharacter, hrow, hcol, hindex⟩
    exact ⟨shape, ⟨_, hcharacter, rfl⟩, rfl, hrow.symm, hcol.symm, hindex.symm⟩

theorem mem_drawn_iff (text : List Char) (mark : Mark) :
    mark ∈ drawn text ↔ ∃ i, markAt? text i = some mark := by
  rw [drawn, List.mem_filterMap]
  constructor
  · rintro ⟨i, _, hmark⟩
    exact ⟨i, hmark⟩
  · rintro ⟨i, hmark⟩
    have hcharacter := ((markAt?_eq_some_iff text i mark).mp hmark).1
    obtain ⟨hlength, _⟩ := List.getElem?_eq_some_iff.mp hcharacter
    exact ⟨i, List.mem_range.mpr hlength, hmark⟩

/-- There is a mark at a place exactly when its line has the character that draws
the shape there. -/
theorem exists_mem_drawn_iff (text : List Char) (shape : Shape) (row col : Nat) :
    (∃ mark ∈ drawn text, mark.shape = shape ∧ mark.row = row ∧ mark.col = col) ↔
      characterAt? text row col = some shape.symbol := by
  rw [characterAt?_eq_some_iff]
  constructor
  · rintro ⟨mark, hmem, rfl, rfl, rfl⟩
    obtain ⟨i, hmark⟩ := (mem_drawn_iff text mark).mp hmem
    obtain ⟨hcharacter, hrow, hcol, _⟩ := (markAt?_eq_some_iff text i mark).mp hmark
    exact ⟨i, hcharacter, hrow.symm, hcol.symm⟩
  · rintro ⟨i, hcharacter, hrow, hcol⟩
    let mark : Mark := ⟨shape, row, col, tally (text.take i) shape.kind⟩
    have hmark : markAt? text i = some mark :=
      (markAt?_eq_some_iff text i mark).mpr ⟨hcharacter, hrow.symm, hcol.symm, rfl⟩
    exact ⟨mark, (mem_drawn_iff text mark).mpr ⟨i, hmark⟩, rfl, rfl, rfl⟩

/-- One mark stands before another in reading order. -/
def Mark.Precedes (left right : Mark) : Prop :=
  left.row < right.row ∨ left.row = right.row ∧ left.col < right.col

/-- Marks are listed in reading order, so no two of them share a place. -/
theorem pairwise_precedes_drawn (text : List Char) :
    (drawn text).Pairwise Mark.Precedes := by
  apply List.Pairwise.filterMap (markAt? text) _ List.pairwise_lt_range
  intro i j hlt left hleft right hright
  obtain ⟨hcharacter, hleftRow, hleftCol, _⟩ := (markAt?_eq_some_iff text i left).mp hleft
  obtain ⟨_, hrightRow, hrightCol, _⟩ := (markAt?_eq_some_iff text j right).mp hright
  obtain ⟨hlength, _⟩ := List.getElem?_eq_some_iff.mp hcharacter
  have hsplit : text.take i ++ (text.take j).drop i = text.take j := by
    have htake : text.take i = (text.take j).take i := by
      rw [List.take_take, Nat.min_eq_left (Nat.le_of_lt hlt)]
    rw [htake, List.take_append_drop]
  have hbetween : (text.take j).drop i ≠ [] := by
    apply List.ne_nil_of_length_pos
    rw [List.length_drop, List.length_take]
    omega
  have hplace := place_lt (text.take i) hbetween
  rw [hsplit, ← hleftRow, ← hleftCol, ← hrightRow, ← hrightCol] at hplace
  exact hplace

/-- The marks of one kind. -/
def drawnOf (text : List Char) (kind : Kind) : List Mark :=
  (drawn text).filter fun mark => mark.shape.kind = kind

/-- The marks of a kind are numbered without gaps in reading order. -/
theorem map_index_drawnOf (text : List Char) (kind : Kind) :
    (drawnOf text kind).map Mark.index = List.range (tally text kind) := by
  induction text using List.reverseRecOn with
  | nil => rfl
  | append_singleton front character ih =>
    rw [drawnOf, drawn_concat, List.filter_append, List.map_append, ← drawnOf, ih, tally_concat]
    cases Shape.ofSymbol? character with
    | none => simp
    | some shape =>
      by_cases hkind : shape.kind = kind
      · simp [hkind, List.range_succ]
      · simp [hkind]

theorem pairwise_index_drawnOf (text : List Char) (kind : Kind) :
    (drawnOf text kind).Pairwise fun left right => left.index < right.index := by
  rw [← List.pairwise_map, map_index_drawnOf]
  exact List.pairwise_lt_range

theorem mem_drawnOf_iff (text : List Char) (kind : Kind) (mark : Mark) :
    mark ∈ drawnOf text kind ↔ mark ∈ drawn text ∧ mark.shape.kind = kind := by
  simp [drawnOf]

@[simp]
theorem length_drawnOf (text : List Char) (kind : Kind) :
    (drawnOf text kind).length = tally text kind := by
  rw [← List.length_map Mark.index, map_index_drawnOf, List.length_range]

/-- The mark with a given reference is found at its number among those of its kind. -/
theorem getElem?_drawnOf_eq_some_iff (text : List Char) (kind : Kind) (index : Nat)
    (mark : Mark) :
    (drawnOf text kind)[index]? = some mark ↔
      mark ∈ drawn text ∧ mark.ref = ⟨kind, index⟩ := by
  have hindex : ∀ {i : Nat}, (drawnOf text kind)[i]? = some mark → mark.index = i := by
    intro i hi
    have hmap := congrArg (fun marks => marks[i]?) (map_index_drawnOf text kind)
    simp only [List.getElem?_map, hi, Option.map_some] at hmap
    obtain ⟨_, hnumber⟩ := List.getElem?_eq_some_iff.mp hmap.symm
    rw [List.getElem_range] at hnumber
    exact hnumber.symm
  constructor
  · intro hi
    obtain ⟨hmem, hkind⟩ := (mem_drawnOf_iff text kind mark).mp (List.mem_of_getElem? hi)
    exact ⟨hmem, by rw [Mark.ref, hkind, hindex hi]⟩
  · rintro ⟨hmem, href⟩
    obtain ⟨hkind, rfl⟩ := CellRef.mk.inj href
    obtain ⟨i, hi⟩ := List.mem_iff_getElem?.mp ((mem_drawnOf_iff text kind mark).mpr ⟨hmem, hkind⟩)
    rw [hindex hi, hi]

/-- A mark with a given reference is found at its number, so no other mark bears it. -/
theorem eq_of_ref_eq {text : List Char} {left right : Mark} (hleft : left ∈ drawn text)
    (hright : right ∈ drawn text) (href : left.ref = right.ref) : left = right := by
  have hleftFound := (getElem?_drawnOf_eq_some_iff text left.shape.kind left.index left).mpr
    ⟨hleft, rfl⟩
  have hrightFound := (getElem?_drawnOf_eq_some_iff text left.shape.kind left.index right).mpr
    ⟨hright, href.symm⟩
  rw [hleftFound, Option.some.injEq] at hrightFound
  exact hrightFound

/-- The number of a mark is below the count of its kind. -/
theorem index_lt_tally {text : List Char} {mark : Mark} (hmem : mark ∈ drawn text) :
    mark.index < tally text mark.shape.kind := by
  have hfound := (getElem?_drawnOf_eq_some_iff text mark.shape.kind mark.index mark).mpr
    ⟨hmem, rfl⟩
  obtain ⟨hlength, _⟩ := List.getElem?_eq_some_iff.mp hfound
  rwa [length_drawnOf] at hlength

/-- Different marks stand at different places. -/
theorem eq_of_place_eq {text : List Char} {left right : Mark} (hleft : left ∈ drawn text)
    (hright : right ∈ drawn text) (hrow : left.row = right.row)
    (hcol : left.col = right.col) : left = right := by
  by_contra hne
  have hdistinct : (drawn text).Pairwise fun left right =>
      ¬(left.row = right.row ∧ left.col = right.col) := by
    apply (pairwise_precedes_drawn text).imp
    intro left right hprecedes
    rw [Mark.Precedes] at hprecedes
    omega
  have hsymmetric : Std.Symm fun left right : Mark =>
      ¬(left.row = right.row ∧ left.col = right.col) :=
    ⟨fun left right hplace => by omega⟩
  exact hdistinct.forall hleft hright hne ⟨hrow, hcol⟩

/-- Where at most one member of a list passes a test, searching finds it. -/
theorem find?_eq_some_iff_of_unique {α : Type} {items : List α} {test : α → Bool}
    (hunique : ∀ left ∈ items, ∀ right ∈ items, test left → test right → left = right)
    (item : α) : items.find? test = some item ↔ item ∈ items ∧ test item := by
  constructor
  · intro hfound
    exact ⟨List.mem_of_find?_eq_some hfound, List.find?_some hfound⟩
  · rintro ⟨hmem, htest⟩
    cases hfound : items.find? test with
    | none => exact absurd htest (List.find?_eq_none.mp hfound item hmem)
    | some found =>
      rw [hunique found (List.mem_of_find?_eq_some hfound) item hmem
        (List.find?_some hfound) htest]

/-- The mark at a place whose coordinates are integers. -/
def sighted (text : List Char) (row col : Int) : Option Mark :=
  (drawn text).find? fun mark => (mark.row : Int) = row ∧ (mark.col : Int) = col

theorem sighted_eq_some_iff (text : List Char) (row col : Int) (mark : Mark) :
    sighted text row col = some mark ↔
      mark ∈ drawn text ∧ (mark.row : Int) = row ∧ (mark.col : Int) = col := by
  rw [sighted, find?_eq_some_iff_of_unique, decide_eq_true_eq]
  intro left hleft right hright hleftPlace hrightPlace
  simp only [decide_eq_true_eq] at hleftPlace hrightPlace
  exact eq_of_place_eq hleft hright (by omega) (by omega)

end Chart

end HexChart
