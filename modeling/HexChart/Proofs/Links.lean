import HexChart.Link
import HexChart.Proofs.Sight

/-!
# The links of a text

A text alone says which links its board has: every mark, kind by kind and in
reading order, looks out along the offsets of its shape, and each time a mark
stands at the integer sums of the coordinates there is one link.  The links of an
accepted text are exactly these, in this order (`links_read_off_text`), and every
cell of the board is the one that its mark describes (`cellsOf_eq_map_cellDrawn`).
-/

namespace HexChart

open Chart

namespace Chart

/-- What the text draws at an offset from a mark. -/
def seen (text : List Char) (mark : Mark) (offset : Offset) : Option Mark :=
  sighted text (mark.row + offset.down) (mark.col + offset.right)

theorem seen_eq_some_iff (text : List Char) (mark : Mark) (offset : Offset) (target : Mark) :
    seen text mark offset = some target ↔
      target ∈ drawn text ∧ (target.row : Int) = mark.row + offset.down ∧
        (target.col : Int) = mark.col + offset.right :=
  sighted_eq_some_iff ..

/-- The cell of a mark, with the neighbors that the text draws around it. -/
def cellDrawn (text : List Char) (mark : Mark) : Cell where
  shape := mark.shape
  row := mark.row
  col := mark.col
  index := mark.index
  neighbors := mark.shape.offsets.map fun offset => (seen text mark offset).map Mark.ref

/-- The links of a mark, in the order of its offsets. -/
def linksFrom (text : List Char) (mark : Mark) : List Link :=
  mark.shape.offsets.filterMap fun offset =>
    (seen text mark offset).map fun target => ⟨mark.ref, offset.direction, target.ref⟩

/-- The links of a text: kind by kind, mark by mark and offset by offset. -/
def linksDrawn (text : List Char) : List Link :=
  Kind.all.flatMap fun kind => (drawnOf text kind).flatMap (linksFrom text)

@[simp]
theorem ref_cellDrawn (text : List Char) (mark : Mark) : (cellDrawn text mark).ref = mark.ref :=
  rfl

/-- Every offset of a cell stands beside what was seen there. -/
theorem zip_neighbors_cellDrawn (text : List Char) (mark : Mark) :
    (cellDrawn text mark).shape.offsets.zip (cellDrawn text mark).neighbors =
      mark.shape.offsets.map fun offset => (offset, (seen text mark offset).map Mark.ref) := by
  let look : Offset → Option CellRef := fun offset => (seen text mark offset).map Mark.ref
  have hzip : (mark.shape.offsets.map id).zip (mark.shape.offsets.map look) =
      mark.shape.offsets.map fun offset => (offset, look offset) := List.zip_map'
  rw [List.map_id] at hzip
  exact hzip

theorem links_cellDrawn (text : List Char) (mark : Mark) :
    (cellDrawn text mark).links = mark.shape.offsets.filterMap fun offset =>
      (seen text mark offset).map fun target => (offset.direction, target.ref) := by
  rw [Cell.links, zip_neighbors_cellDrawn, List.filterMap_map]
  apply List.filterMap_congr
  intro offset _
  simp [Function.comp_def]

theorem outgoing_cellDrawn (text : List Char) (mark : Mark) :
    (cellDrawn text mark).outgoing = linksFrom text mark := by
  rw [Cell.outgoing, links_cellDrawn, List.map_filterMap]
  simp [linksFrom, Function.comp_def]

theorem source_of_mem_linksFrom {text : List Char} {mark : Mark} {link : Link}
    (hmem : link ∈ linksFrom text mark) : link.source = mark.ref := by
  obtain ⟨offset, _, hlink⟩ := List.mem_filterMap.mp hmem
  obtain ⟨target, _, rfl⟩ := Option.map_eq_some_iff.mp hlink
  rfl

theorem mem_linksDrawn_iff (text : List Char) (link : Link) :
    link ∈ linksDrawn text ↔
      ∃ source ∈ drawn text, ∃ offset ∈ source.shape.offsets, ∃ target,
        seen text source offset = some target ∧
          link = ⟨source.ref, offset.direction, target.ref⟩ := by
  simp only [linksDrawn, linksFrom, List.mem_flatMap, List.mem_filterMap, Option.map_eq_some_iff,
    mem_drawnOf_iff]
  constructor
  · rintro ⟨kind, _, source, ⟨hsource, _⟩, offset, hoffset, target, htarget, rfl⟩
    exact ⟨source, hsource, offset, hoffset, target, htarget, rfl⟩
  · rintro ⟨source, hsource, offset, hoffset, target, htarget, rfl⟩
    exact ⟨_, Kind.mem_all _, source, ⟨hsource, rfl⟩, offset, hoffset, target, htarget, rfl⟩

/-- A relation between links that holds whenever their sources differ holds along the
whole list as soon as it holds along the links of each mark. -/
theorem pairwise_linksDrawn {text : List Char} {related : Link → Link → Prop}
    (hsources : ∀ left right : Link, left.source ≠ right.source → related left right)
    (hfrom : ∀ mark ∈ drawn text, (linksFrom text mark).Pairwise related) :
    (linksDrawn text).Pairwise related := by
  have hmarks : ∀ leftMark rightMark : Mark, leftMark.ref ≠ rightMark.ref →
      ∀ left ∈ linksFrom text leftMark, ∀ right ∈ linksFrom text rightMark,
        related left right := by
    intro leftMark rightMark hrefs left hleft right hright
    apply hsources
    rwa [source_of_mem_linksFrom hleft, source_of_mem_linksFrom hright]
  rw [linksDrawn, List.pairwise_flatMap]
  constructor
  · intro kind _
    rw [List.pairwise_flatMap]
    constructor
    · intro mark hmem
      exact hfrom mark ((mem_drawnOf_iff text kind mark).mp hmem).1
    · -- marks of one kind differ in their numbers
      apply (pairwise_index_drawnOf text kind).imp
      intro leftMark rightMark hindex
      exact hmarks leftMark rightMark fun href => Nat.ne_of_lt hindex (CellRef.mk.inj href).2
  · have hkinds : Kind.all.Pairwise (· ≠ ·) := by decide
    apply hkinds.imp
    intro leftKind rightKind hkind left hleft right hright
    obtain ⟨leftMark, hleftMark, hleft⟩ := List.mem_flatMap.mp hleft
    obtain ⟨rightMark, hrightMark, hright⟩ := List.mem_flatMap.mp hright
    apply hmarks leftMark rightMark _ left hleft right hright
    intro href
    apply hkind
    rw [← ((mem_drawnOf_iff ..).mp hleftMark).2, ← ((mem_drawnOf_iff ..).mp hrightMark).2]
    exact (CellRef.mk.inj href).1

end Chart

namespace Board

variable {text : List Char} {board : Board}

theorem parse_eq_ok_iff :
    parse text = .ok board ↔
      ∃ sketch, Sketch.ofText text = .ok sketch ∧ ofSketch sketch = board := by
  rw [parse]
  cases Sketch.ofText text <;> simp [Except.map]

theorem exists_parse {text : List Char}
    (hmeaning : ∀ character ∈ text, (Symbol.classify character).isSome) :
    ∃ board, parse text = .ok board := by
  obtain ⟨found, hfound⟩ := exists_marks hmeaning
  rw [parse, Sketch.ofText, hfound]
  exact ⟨_, rfl⟩

/-- The cells of a kind are those of the marks of the kind. -/
theorem cellsOf_eq_map_cellDrawn (hparse : parse text = .ok board) (kind : Kind) :
    board.cellsOf kind = (drawnOf text kind).map (cellDrawn text) := by
  obtain ⟨sketch, hsketch, rfl⟩ := parse_eq_ok_iff.mp hparse
  have hcell : Cell.ofMark sketch.grid = cellDrawn text := by
    funext mark
    simp only [Cell.ofMark, cellDrawn, seen, Cell.mk.injEq, true_and]
    exact List.map_congr_left fun offset _ => Sketch.look_sketch hsketch _ _ offset
  simp only [cellsOf, ofSketch, PerKind.get_ofFn, hcell, Sketch.ofKind,
    Sketch.marks_sketch hsketch, drawnOf]

theorem mem_cellsOf_iff (hparse : parse text = .ok board) (kind : Kind) (cell : Cell) :
    cell ∈ board.cellsOf kind ↔
      ∃ mark ∈ drawn text, mark.shape.kind = kind ∧ cellDrawn text mark = cell := by
  simp only [cellsOf_eq_map_cellDrawn hparse, List.mem_map, mem_drawnOf_iff, and_assoc]

theorem get_census (hparse : parse text = .ok board) (kind : Kind) :
    board.census.get kind = tally text kind := by
  have hcells := congrArg List.length (cellsOf_eq_map_cellDrawn hparse kind)
  rw [List.length_map, length_drawnOf] at hcells
  rw [census, PerKind.get_map, ← hcells, cellsOf, Array.length_toList]

theorem mem_allCells_iff (hparse : parse text = .ok board) (cell : Cell) :
    cell ∈ board.allCells ↔ ∃ mark ∈ drawn text, cellDrawn text mark = cell := by
  simp only [allCells, List.mem_flatMap, cellsOf_eq_map_cellDrawn hparse, List.mem_map,
    mem_drawnOf_iff]
  constructor
  · rintro ⟨kind, _, mark, ⟨hmem, _⟩, hcell⟩
    exact ⟨mark, hmem, hcell⟩
  · rintro ⟨mark, hmem, hcell⟩
    exact ⟨_, Kind.mem_all _, mark, ⟨hmem, rfl⟩, hcell⟩

/-- A reference finds the one cell that bears it, whatever its kind. -/
theorem cell?_eq_some_iff (hparse : parse text = .ok board) (ref : CellRef) (cell : Cell) :
    board.cell? ref = some cell ↔ cell ∈ board.allCells ∧ cell.ref = ref := by
  have hfind : board.cell? ref = (drawnOf text ref.kind)[ref.index]?.map (cellDrawn text) := by
    rw [← List.getElem?_map, ← cellsOf_eq_map_cellDrawn hparse, cellsOf, cell?,
      Array.getElem?_toList]
  rw [hfind, Option.map_eq_some_iff, mem_allCells_iff hparse]
  simp only [getElem?_drawnOf_eq_some_iff]
  constructor
  · rintro ⟨mark, ⟨hmem, href⟩, rfl⟩
    exact ⟨⟨mark, hmem, rfl⟩, href⟩
  · rintro ⟨⟨mark, hmem, rfl⟩, href⟩
    exact ⟨mark, ⟨hmem, href⟩, rfl⟩

theorem links_eq_linksDrawn (hparse : parse text = .ok board) :
    board.links = linksDrawn text := by
  rw [links, allCells, List.flatMap_assoc, linksDrawn]
  congr 1
  funext kind
  rw [cellsOf_eq_map_cellDrawn hparse, List.flatMap_map]
  congr 1
  funext mark
  exact outgoing_cellDrawn text mark

end Board

end HexChart
