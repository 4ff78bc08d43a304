import HexChart.Graph.Document
import HexChart.Graph.Header
import HexChart.Proofs.Audit
import Mathlib.Data.List.Forall2
import Mathlib.Data.List.Sort

/-!
# Moving a picture

A board depends only on the picture that its text draws, not on the blanks, the line
breaks and the margins around it.  When one text draws the same shapes as another one,
some rows and columns away, its marks are those of the other text moved by as much
(`forall₂_movedBy_drawn`), and every cell keeps its number and its neighbors.  The
cells in turn determine the picture.
-/

namespace HexChart

open Chart

namespace Chart

/-- A text has the character of a shape at a position, which need not be inside it. -/
def Draws (text : List Char) (shape : Shape) (row col : Int) : Prop :=
  0 ≤ row ∧ 0 ≤ col ∧ characterAt? text row.toNat col.toNat = some shape.symbol

/-- A text draws what another one draws, some rows further down and some columns
further to the right. -/
def DrawsMoved (down right : Int) (text other : List Char) : Prop :=
  ∀ (shape : Shape) (row col : Int),
    Draws other shape (row + down) (col + right) ↔ Draws text shape row col

theorem draws_iff (text : List Char) (shape : Shape) (row col : Int) :
    Draws text shape row col ↔
      ∃ mark ∈ drawn text, mark.shape = shape ∧ (mark.row : Int) = row ∧ (mark.col : Int) = col := by
  rw [Draws, ← exists_mem_drawn_iff]
  constructor
  · rintro ⟨hrow, hcol, mark, hmem, hshape, hmarkRow, hmarkCol⟩
    exact ⟨mark, hmem, hshape, by omega, by omega⟩
  · rintro ⟨mark, hmem, hshape, rfl, rfl⟩
    exact ⟨by omega, by omega, mark, hmem, hshape, rfl, rfl⟩

/-! ## Marks -/

/-- The shape of a mark, and where it stands after a move. -/
def Mark.figure (down right : Int) (mark : Mark) : Shape × Int × Int :=
  (mark.shape, mark.row + down, mark.col + right)

/-- A mark with the same number as another one, of the same shape, some rows and
columns away. -/
def Mark.MovedBy (down right : Int) (mark moved : Mark) : Prop :=
  moved.figure 0 0 = mark.figure down right ∧ moved.index = mark.index

/-- The order in which figures are read. -/
def FigurePrecedes (left right : Shape × Int × Int) : Prop :=
  left.2.1 < right.2.1 ∨ left.2.1 = right.2.1 ∧ left.2.2 < right.2.2

instance : Std.Irrefl FigurePrecedes :=
  ⟨fun figure hprecedes => by rw [FigurePrecedes] at hprecedes; omega⟩

instance : Std.Antisymm FigurePrecedes :=
  ⟨fun left right hleft hright => by rw [FigurePrecedes] at hleft hright; omega⟩

theorem pairwise_figure_drawn (text : List Char) (down right : Int) :
    ((drawn text).map (Mark.figure down right)).Pairwise FigurePrecedes := by
  rw [List.pairwise_map]
  apply (pairwise_precedes_drawn text).imp
  intro left right hprecedes
  simp only [Mark.Precedes] at hprecedes
  simp only [FigurePrecedes, Mark.figure]
  omega

theorem mem_figure_drawn_iff (text : List Char) (down right : Int) (shape : Shape)
    (row col : Int) :
    (shape, row, col) ∈ (drawn text).map (Mark.figure down right) ↔
      Draws text shape (row - down) (col - right) := by
  simp only [List.mem_map, draws_iff, Mark.figure, Prod.mk.injEq]
  apply exists_congr
  intro mark
  apply and_congr_right
  intro _
  apply and_congr_right
  intro _
  omega

/-- A picture that is moved has the same figures in the same order. -/
theorem map_figure_eq {text other : List Char} {down right : Int}
    (hmoved : DrawsMoved down right text other) :
    (drawn other).map (Mark.figure 0 0) = (drawn text).map (Mark.figure down right) := by
  apply (pairwise_figure_drawn other 0 0).eq_of_mem_iff (pairwise_figure_drawn text down right)
  rintro ⟨shape, row, col⟩
  rw [mem_figure_drawn_iff, mem_figure_drawn_iff, ← hmoved shape, Int.sub_add_cancel,
    Int.sub_add_cancel, Int.sub_zero, Int.sub_zero]

/-- Marks that are numbered in the same order have the same numbers, if their shapes
are the same. -/
theorem forall₂_movedBy_numbered {down right : Int} {found foundOther : List Stroke}
    (tally : Census)
    (hfigures : (numbered tally foundOther).map (Mark.figure 0 0) =
      (numbered tally found).map (Mark.figure down right)) :
    List.Forall₂ (Mark.MovedBy down right) (numbered tally found)
      (numbered tally foundOther) := by
  induction found generalizing tally foundOther with
  | nil => cases foundOther <;> simp_all [numbered]
  | cons stroke rest ih =>
    cases foundOther with
    | nil => simp [numbered] at hfigures
    | cons other others =>
      simp only [numbered, List.map_cons, List.cons.injEq] at hfigures ⊢
      obtain ⟨hhead, htail⟩ := hfigures
      have hshape : other.shape = stroke.shape := congrArg Prod.fst hhead
      rw [hshape] at htail
      refine .cons ⟨hhead, by rw [hshape]⟩ ?_
      rw [hshape]
      exact ih _ htail

/-- In lists of related items a search that cannot tell related items apart finds
related ones. -/
theorem map_find?_eq_of_forall₂ {α β γ : Type} {related : α → β → Prop} {left : List α}
    {right : List β} {leftTest : α → Bool} {rightTest : β → Bool} {leftValue : α → γ}
    {rightValue : β → γ} (hlists : List.Forall₂ related left right)
    (htest : ∀ a b, related a b → rightTest b = leftTest a)
    (hvalue : ∀ a b, related a b → rightValue b = leftValue a) :
    (right.find? rightTest).map rightValue = (left.find? leftTest).map leftValue := by
  induction hlists with
  | nil => rfl
  | @cons a b others rest hhead _ ih =>
    rw [List.find?_cons, List.find?_cons, htest a b hhead]
    cases leftTest a with
    | true => exact congrArg some (hvalue a b hhead)
    | false => exact ih

theorem flatMap_eq_of_forall₂ {α β γ : Type} {related : α → β → Prop} {left : List α}
    {right : List β} {leftValues : α → List γ} {rightValues : β → List γ}
    (hlists : List.Forall₂ related left right)
    (hvalues : ∀ a b, related a b → rightValues b = leftValues a) :
    right.flatMap rightValues = left.flatMap leftValues := by
  induction hlists with
  | nil => rfl
  | cons hhead _ ih => rw [List.flatMap_cons, List.flatMap_cons, ih, hvalues _ _ hhead]

namespace Mark

variable {down right : Int} {mark moved : Mark}

theorem MovedBy.shape_eq (hmoved : mark.MovedBy down right moved) : moved.shape = mark.shape :=
  congrArg Prod.fst hmoved.1

theorem MovedBy.place_eq (hmoved : mark.MovedBy down right moved) :
    (moved.row : Int) = mark.row + down ∧ (moved.col : Int) = mark.col + right := by
  obtain ⟨hrow, hcol⟩ := Prod.mk.inj (Prod.mk.inj hmoved.1).2
  exact ⟨by omega, by omega⟩

theorem MovedBy.ref_eq (hmoved : mark.MovedBy down right moved) : moved.ref = mark.ref := by
  rw [ref, ref, hmoved.shape_eq, hmoved.2]

end Mark

end Chart

namespace Cell

/-- A cell that differs from another one only by its position. -/
def MovedBy (down right : Int) (cell moved : Cell) : Prop :=
  moved.shape = cell.shape ∧ moved.index = cell.index ∧ moved.neighbors = cell.neighbors ∧
    (moved.row : Int) = cell.row + down ∧ (moved.col : Int) = cell.col + right

theorem outgoing_of_movedBy {down right : Int} {cell moved : Cell}
    (hmoved : cell.MovedBy down right moved) : moved.outgoing = cell.outgoing := by
  obtain ⟨hshape, hindex, hneighbors, _⟩ := hmoved
  rw [outgoing, outgoing, links, links, ref, ref, kind, kind, hshape, hindex, hneighbors]

end Cell

namespace Board

variable {text otherText : List Char} {board other : Board} {down right : Int}

/-- An accepted text draws its strokes, numbered from zero. -/
theorem exists_strokes (hparse : parse text = .ok board) :
    ∃ found, drawn text = numbered (PerKind.ofFn fun _ => 0) found := by
  obtain ⟨sketch, hsketch, rfl⟩ := parse_eq_ok_iff.mp hparse
  rw [← Sketch.marks_sketch hsketch]
  rw [Sketch.ofText, marks] at hsketch
  cases hstrokes : strokes (glyphs text) with
  | error glyph => simp [hstrokes, Except.map] at hsketch
  | ok found =>
    simp only [hstrokes, Except.map, Except.ok.injEq] at hsketch
    exact ⟨found, by rw [← hsketch]; rfl⟩

section

variable (hparse : parse text = .ok board) (hother : parse otherText = .ok other)
variable (hmoved : DrawsMoved down right text otherText)

include hparse hother hmoved

theorem forall₂_movedBy_drawn :
    List.Forall₂ (Mark.MovedBy down right) (drawn text) (drawn otherText) := by
  obtain ⟨found, hfound⟩ := exists_strokes hparse
  obtain ⟨foundOther, hfoundOther⟩ := exists_strokes hother
  have hfigures := map_figure_eq hmoved
  rw [hfound, hfoundOther] at hfigures ⊢
  exact forall₂_movedBy_numbered _ hfigures

/-- What is seen from a mark and from the same mark after the move has the same
reference. -/
theorem map_ref_seen {mark moved : Mark} (hmark : mark.MovedBy down right moved)
    (offset : Offset) :
    (seen otherText moved offset).map Mark.ref = (seen text mark offset).map Mark.ref := by
  obtain ⟨hrow, hcol⟩ := hmark.place_eq
  apply map_find?_eq_of_forall₂ (forall₂_movedBy_drawn hparse hother hmoved)
  · intro target movedTarget htarget
    obtain ⟨htargetRow, htargetCol⟩ := htarget.place_eq
    rw [decide_eq_decide]
    omega
  · intro target movedTarget htarget
    exact htarget.ref_eq

theorem cellDrawn_movedBy {mark moved : Mark} (hmark : mark.MovedBy down right moved) :
    (cellDrawn text mark).MovedBy down right (cellDrawn otherText moved) := by
  refine ⟨hmark.shape_eq, hmark.2, ?_, hmark.place_eq⟩
  simp only [cellDrawn, hmark.shape_eq]
  exact List.map_congr_left fun offset _ => map_ref_seen hparse hother hmoved hmark offset

theorem forall₂_movedBy_cellsOf (kind : Kind) :
    List.Forall₂ (Cell.MovedBy down right) (board.cellsOf kind) (other.cellsOf kind) := by
  rw [cellsOf_eq_map_cellDrawn hparse, cellsOf_eq_map_cellDrawn hother,
    List.forall₂_map_left_iff, List.forall₂_map_right_iff]
  have hmarks : List.Forall₂ (Mark.MovedBy down right) (drawnOf text kind)
      (drawnOf otherText kind) := by
    apply List.rel_filter _ (forall₂_movedBy_drawn hparse hother hmoved)
    intro mark moved hmark
    simp only [hmark.shape_eq]
  exact hmarks.imp fun mark moved hmark => cellDrawn_movedBy hparse hother hmoved hmark

theorem forall₂_movedBy_allCells :
    List.Forall₂ (Cell.MovedBy down right) board.allCells other.allCells := by
  apply List.rel_flatMap (R := Eq) (List.forall₂_refl Kind.all)
  rintro kind _ rfl
  exact forall₂_movedBy_cellsOf hparse hother hmoved kind

theorem links_of_drawsMoved : other.links = board.links :=
  flatMap_eq_of_forall₂ (forall₂_movedBy_allCells hparse hother hmoved)
    fun _ _ hcell => Cell.outgoing_of_movedBy hcell

theorem census_of_drawsMoved : other.census = board.census := by
  apply PerKind.ext_get
  intro kind
  have hlength := (forall₂_movedBy_cellsOf hparse hother hmoved kind).length_eq
  rw [census, census, PerKind.get_map, PerKind.get_map]
  simpa [cellsOf] using hlength.symm

theorem oneWayLinks_of_drawsMoved : other.oneWayLinks = board.oneWayLinks := by
  rw [oneWayLinks_eq_filter hother, oneWayLinks_eq_filter hparse,
    links_of_drawsMoved hparse hother hmoved]

theorem graph_of_drawsMoved : other.graph = board.graph := by
  funext name
  rw [graph, graph, links_of_drawsMoved hparse hother hmoved,
    census_of_drawsMoved hparse hother hmoved]

end

/-- The cells of a board say which shapes its text draws, and where. -/
theorem draws_iff_mem_allCells (hparse : parse text = .ok board) (shape : Shape)
    (row col : Int) :
    Draws text shape row col ↔
      ∃ cell ∈ board.allCells, cell.shape = shape ∧ (cell.row : Int) = row ∧
        (cell.col : Int) = col := by
  simp only [draws_iff, mem_allCells_iff hparse]
  constructor
  · rintro ⟨mark, hmem, hplace⟩
    exact ⟨cellDrawn text mark, ⟨mark, hmem, rfl⟩, hplace⟩
  · rintro ⟨_, ⟨mark, hmem, rfl⟩, hplace⟩
    exact ⟨mark, hmem, hplace⟩

end Board

end HexChart
