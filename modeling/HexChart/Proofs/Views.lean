import HexChart.Proofs.Alphabet

/-!
# Three views of a board

A board can be looked at through its text, through its grid and through its lists of
cells.  The three views show the same cells: each character that draws a shape has one
slot and one entry in the list of its kind, at the number that its reference gives, and
nothing else is in the grid or in the lists (`represents_of_parse`).
-/

namespace HexChart

open Chart

/-- One cell stands before another in reading order. -/
def Cell.Precedes (left right : Cell) : Prop :=
  left.row < right.row ∨ left.row = right.row ∧ left.col < right.col

namespace Board

/-- What a board says about its cells agrees with the text that it was read from. -/
structure Represents (board : Board) (text : List Char) : Prop where
  /-- Cells stand in the list of their kind, at their number. -/
  kind_index_of_getElem? : ∀ (kind : Kind) (index : Nat) (cell : Cell),
    (board.cellsOf kind)[index]? = some cell → cell.kind = kind ∧ cell.index = index
  /-- The cells of a kind are in reading order. -/
  pairwise_precedes : ∀ kind : Kind, (board.cellsOf kind).Pairwise Cell.Precedes
  /-- A character that draws a shape is found through its slot. -/
  cell_of_symbol : ∀ (row col : Nat) (shape : Shape),
    characterAt? text row col = some shape.symbol → ∃ cell : Cell,
      board.grid.get row col = some cell.ref ∧ board.cell? cell.ref = some cell ∧
        board.cellAt? row col = some cell ∧ cell.row = row ∧ cell.col = col ∧ cell.shape = shape
  /-- There is nothing at any other position, inside the grid or outside of it. -/
  none_of_no_symbol : ∀ row col : Nat,
    (∀ shape : Shape, characterAt? text row col ≠ some shape.symbol) →
      board.grid.get row col = none ∧ board.cellAt? row col = none
  /-- The slots that are not blank and the cells in the lists are the same. -/
  get_eq_some_iff : ∀ (row col : Nat) (ref : CellRef), board.grid.get row col = some ref ↔
    ∃ cell : Cell, board.cell? ref = some cell ∧ cell.row = row ∧ cell.col = col
  /-- The references that have a cell are those below the count of their kind. -/
  isSome_cell?_iff : ∀ ref : CellRef,
    (board.cell? ref).isSome = true ↔ ref.index < board.census.get ref.kind
  /-- The cell of a reference bears it and is found at its own position. -/
  cellAt?_of_cell? : ∀ (ref : CellRef) (cell : Cell), board.cell? ref = some cell →
    cell.ref = ref ∧ board.cellAt? cell.row cell.col = some cell
  /-- The counts are those of the characters of each kind. -/
  get_census : ∀ kind : Kind, board.census.get kind = tally text kind
  /-- Every character that is not blank is counted once. -/
  total_census : board.census.road + board.census.junction + board.census.tile +
    board.census.flippable + board.census.ocean =
      text.countP fun character => !Symbol.isBlank character

end Board

namespace Chart

theorem sighted_of_mem {text : List Char} {mark : Mark} (hmem : mark ∈ drawn text) :
    sighted text mark.row mark.col = some mark :=
  (sighted_eq_some_iff ..).mpr ⟨hmem, rfl, rfl⟩

theorem sighted_isSome_iff (text : List Char) (row col : Nat) :
    (∃ mark, sighted text row col = some mark) ↔
      ∃ shape : Shape, characterAt? text row col = some shape.symbol := by
  simp only [sighted_eq_some_iff, Int.natCast_inj, ← exists_mem_drawn_iff]
  constructor
  · rintro ⟨mark, hmem, hrow, hcol⟩
    exact ⟨mark.shape, mark, hmem, rfl, hrow, hcol⟩
  · rintro ⟨_, mark, hmem, _, hrow, hcol⟩
    exact ⟨mark, hmem, hrow, hcol⟩

/-- A text in the alphabet draws as many cells as it has characters that are not blank. -/
theorem sum_tally {text : List Char} (htext : ∀ character ∈ text, character ∈ alphabet) :
    tally text .road + tally text .junction + tally text .tile + tally text .flippable +
        tally text .ocean = text.countP fun character => !Symbol.isBlank character := by
  induction text using List.reverseRecOn with
  | nil => rfl
  | append_singleton front character ih =>
    have hfront := ih fun other hmem => htext other (List.mem_append_left _ hmem)
    obtain ⟨symbol, hsymbol⟩ := Option.isSome_iff_exists.mp
      ((isSome_classify_iff character).mpr (htext character (by simp)))
    have hshape := Symbol.ofSymbol?_of_classify hsymbol
    have hblank := classify_eq_blank_iff character
    rw [hsymbol] at hblank
    rw [List.countP_append, ← hfront, List.countP_singleton]
    cases symbol with
    | blank => simp [tally_concat, hshape, Symbol.shape?, hblank.mp rfl]
    | cell shape =>
      have hdrawn : Symbol.isBlank character = false := by simpa using hblank
      have hgrown : ∀ kind, tally (front ++ [character]) kind =
          tally front kind + if shape.kind = kind then 1 else 0 := by
        intro kind
        rw [tally_concat, hshape]
        by_cases hkind : shape.kind = kind <;> simp [Symbol.shape?, hkind]
      rw [hdrawn]
      -- of the five counts only that of the kind of the shape grows
      cases shape <;> simp [hgrown, Shape.kind] <;> omega

end Chart

namespace Board

variable {text : List Char} {board : Board}

theorem get_grid (hparse : parse text = .ok board) (row col : Nat) :
    board.grid.get row col = (sighted text row col).map Mark.ref := by
  obtain ⟨sketch, hsketch, rfl⟩ := parse_eq_ok_iff.mp hparse
  exact Sketch.get_sketch hsketch row col

theorem cell?_ref (hparse : parse text = .ok board) {mark : Mark} (hmem : mark ∈ drawn text) :
    board.cell? mark.ref = some (cellDrawn text mark) :=
  (cell?_eq_some_iff hparse ..).mpr ⟨(mem_allCells_iff hparse _).mpr ⟨mark, hmem, rfl⟩, rfl⟩

/-- The cell at a position is that of the mark which the text has there. -/
theorem cellAt?_eq (hparse : parse text = .ok board) (row col : Nat) :
    board.cellAt? row col = (sighted text row col).map (cellDrawn text) := by
  rw [cellAt?, get_grid hparse]
  cases hsighted : sighted text row col with
  | none => rfl
  | some mark => exact cell?_ref hparse ((sighted_eq_some_iff ..).mp hsighted).1

theorem kind_index_of_getElem? (hparse : parse text = .ok board) {kind : Kind} {index : Nat}
    {cell : Cell} (hcell : (board.cellsOf kind)[index]? = some cell) :
    cell.kind = kind ∧ cell.index = index := by
  rw [cellsOf_eq_map_cellDrawn hparse, List.getElem?_map, Option.map_eq_some_iff] at hcell
  obtain ⟨mark, hmark, rfl⟩ := hcell
  obtain ⟨_, href⟩ := (getElem?_drawnOf_eq_some_iff text kind index mark).mp hmark
  exact CellRef.mk.inj href

theorem pairwise_precedes_cellsOf (hparse : parse text = .ok board) (kind : Kind) :
    (board.cellsOf kind).Pairwise Cell.Precedes := by
  rw [cellsOf_eq_map_cellDrawn hparse, List.pairwise_map]
  exact (pairwise_precedes_drawn text).filter _

theorem cell_of_symbol (hparse : parse text = .ok board) {row col : Nat} {shape : Shape}
    (hsymbol : characterAt? text row col = some shape.symbol) :
    ∃ cell, board.grid.get row col = some cell.ref ∧ board.cell? cell.ref = some cell ∧
      board.cellAt? row col = some cell ∧ cell.row = row ∧ cell.col = col ∧
        cell.shape = shape := by
  obtain ⟨mark, hmem, rfl, rfl, rfl⟩ := (exists_mem_drawn_iff text shape row col).mpr hsymbol
  have hsighted := sighted_of_mem hmem
  refine ⟨cellDrawn text mark, ?_, cell?_ref hparse hmem, ?_, rfl, rfl, rfl⟩
  · rw [get_grid hparse, hsighted]
    rfl
  · rw [cellAt?_eq hparse, hsighted]
    rfl

theorem none_of_no_symbol (hparse : parse text = .ok board) {row col : Nat}
    (hblank : ∀ shape : Shape, characterAt? text row col ≠ some shape.symbol) :
    board.grid.get row col = none ∧ board.cellAt? row col = none := by
  have hsighted : sighted text row col = none := by
    rw [Option.eq_none_iff_forall_ne_some]
    intro mark hmark
    obtain ⟨shape, hshape⟩ := (sighted_isSome_iff text row col).mp ⟨mark, hmark⟩
    exact hblank shape hshape
  rw [get_grid hparse, cellAt?_eq hparse, hsighted]
  exact ⟨rfl, rfl⟩

/-- A slot holds a reference exactly when the cell of this reference stands there. -/
theorem get_eq_some_iff (hparse : parse text = .ok board) (row col : Nat) (ref : CellRef) :
    board.grid.get row col = some ref ↔
      ∃ cell, board.cell? ref = some cell ∧ cell.row = row ∧ cell.col = col := by
  rw [get_grid hparse, Option.map_eq_some_iff]
  constructor
  · rintro ⟨mark, hsighted, rfl⟩
    obtain ⟨hmem, hrow, hcol⟩ := (sighted_eq_some_iff ..).mp hsighted
    exact ⟨_, cell?_ref hparse hmem, Int.natCast_inj.mp hrow, Int.natCast_inj.mp hcol⟩
  · rintro ⟨cell, hcell, rfl, rfl⟩
    obtain ⟨hmem, rfl⟩ := (cell?_eq_some_iff hparse ref cell).mp hcell
    obtain ⟨mark, hmark, rfl⟩ := (mem_allCells_iff hparse cell).mp hmem
    exact ⟨mark, sighted_of_mem hmark, rfl⟩

theorem isSome_cell?_iff (board : Board) (ref : CellRef) :
    (board.cell? ref).isSome = true ↔ ref.index < board.census.get ref.kind := by
  rw [cell?, census, PerKind.get_map]
  simp

theorem cellAt?_of_cell? (hparse : parse text = .ok board) {ref : CellRef} {cell : Cell}
    (hcell : board.cell? ref = some cell) :
    cell.ref = ref ∧ board.cellAt? cell.row cell.col = some cell := by
  obtain ⟨hmem, href⟩ := (cell?_eq_some_iff hparse ref cell).mp hcell
  obtain ⟨mark, hmark, rfl⟩ := (mem_allCells_iff hparse cell).mp hmem
  refine ⟨href, ?_⟩
  rw [cellAt?_eq hparse]
  exact congrArg (Option.map (cellDrawn text)) (sighted_of_mem hmark)

end Board

end HexChart
