import HexChart.Graph
import HexChart.Proofs.Links

/-!
# Links that can be inserted

The links of a graph are inserted one by one into a store that has as many nodes of each
kind as the graph counts.  Every link of a board then finds both of its nodes, none leads
from a node to itself, no two join the same nodes in the same order, and the links come
in the order of their sources (`graph_insertable`).  The last two rest on the offsets: the
offsets of a shape lead to different places, and none of them stays where it is.
-/

namespace HexChart

open Chart

/-- One reference stands before another in the order of references. -/
def CellRef.Precedes (left right : CellRef) : Prop :=
  left.le right = true ∧ left ≠ right

/-- What a store needs of a graph whose links are inserted one by one. -/
structure Graph.Safe (graph : Graph) : Prop where
  /-- The sources of links are among the nodes that are counted. -/
  source_lt : ∀ link ∈ graph.links, link.source.index < graph.census.get link.source.kind
  /-- The targets of links are among the nodes that are counted. -/
  target_lt : ∀ link ∈ graph.links, link.target.index < graph.census.get link.target.kind
  /-- No link leads from a node to itself. -/
  source_ne_target : ∀ link ∈ graph.links, link.source ≠ link.target
  /-- No two links have the same source and the same target, whatever their directions. -/
  nodup_ends : (graph.links.map fun link => (link.source, link.target)).Nodup
  /-- The links come in the order of their sources. -/
  pairwise_le : graph.links.Pairwise fun left right => left.source.le right.source = true

/-! ## Displacements -/

/-- The offsets of a shape lead to different places. -/
theorem Shape.pairwise_displacement (shape : Shape) :
    shape.offsets.Pairwise fun left right => ¬(left.down = right.down ∧ left.right = right.right) := by
  have hshape : ∀ shape ∈ all, shape.offsets.Pairwise fun left right =>
      ¬(left.down = right.down ∧ left.right = right.right) := by decide
  exact hshape shape (mem_all shape)

/-- No offset of a shape stays where it is. -/
theorem Shape.displacement_ne_zero {shape : Shape} {offset : Offset}
    (hmem : offset ∈ shape.offsets) : ¬(offset.down = 0 ∧ offset.right = 0) := by
  have hshape : ∀ shape ∈ all, ∀ offset ∈ shape.offsets,
      ¬(offset.down = 0 ∧ offset.right = 0) := by decide
  exact hshape shape (mem_all shape) offset hmem

namespace Chart

theorem source_ne_target_of_mem_linksDrawn {text : List Char} {link : Link}
    (hmem : link ∈ linksDrawn text) : link.source ≠ link.target := by
  obtain ⟨source, hsource, offset, hoffset, target, hseen, rfl⟩ :=
    (mem_linksDrawn_iff text link).mp hmem
  intro href
  obtain ⟨htarget, hrow, hcol⟩ := (seen_eq_some_iff ..).mp hseen
  obtain rfl := eq_of_ref_eq hsource htarget href
  exact Shape.displacement_ne_zero hoffset ⟨by omega, by omega⟩

/-- The links of one mark have different targets. -/
theorem pairwise_target_linksFrom (text : List Char) (mark : Mark) :
    (linksFrom text mark).Pairwise fun left right => left.target ≠ right.target := by
  apply mark.shape.pairwise_displacement.filterMap
  intro left right hplaces leftLink hleft rightLink hright href
  obtain ⟨leftTarget, hleftSeen, rfl⟩ := Option.map_eq_some_iff.mp hleft
  obtain ⟨rightTarget, hrightSeen, rfl⟩ := Option.map_eq_some_iff.mp hright
  obtain ⟨hleftMem, hleftRow, hleftCol⟩ := (seen_eq_some_iff ..).mp hleftSeen
  obtain ⟨hrightMem, hrightRow, hrightCol⟩ := (seen_eq_some_iff ..).mp hrightSeen
  obtain rfl := eq_of_ref_eq hleftMem hrightMem href
  exact hplaces ⟨by omega, by omega⟩

theorem nodup_ends_linksDrawn (text : List Char) :
    ((linksDrawn text).map fun link => (link.source, link.target)).Nodup := by
  rw [List.Nodup, List.pairwise_map]
  apply pairwise_linksDrawn
  · intro left right hsources hends
    exact hsources (Prod.mk.inj hends).1
  · intro mark _
    apply (pairwise_target_linksFrom text mark).imp
    intro left right htargets hends
    exact htargets (Prod.mk.inj hends).2

/-! ## Order -/

/-- Kind by kind and in reading order, the marks stand in the order of their references. -/
theorem pairwise_precedes_ref (text : List Char) :
    (Kind.all.flatMap (drawnOf text)).Pairwise fun left right =>
      left.ref.Precedes right.ref := by
  rw [List.pairwise_flatMap]
  constructor
  · intro kind _
    apply (pairwise_index_drawnOf text kind).imp_of_mem
    intro left right hleft hright hindex
    have hkinds : left.shape.kind = right.shape.kind := by
      rw [((mem_drawnOf_iff ..).mp hleft).2, ((mem_drawnOf_iff ..).mp hright).2]
    constructor
    · simp [CellRef.le, Mark.ref, hkinds, Nat.le_of_lt hindex]
    · intro href
      exact Nat.ne_of_lt hindex (CellRef.mk.inj href).2
  · have hkinds : Kind.all.Pairwise fun left right => left.rank < right.rank := by decide
    apply hkinds.imp
    intro leftKind rightKind hrank left hleft right hright
    rw [← ((mem_drawnOf_iff ..).mp hleft).2, ← ((mem_drawnOf_iff ..).mp hright).2] at hrank
    constructor
    · simp [CellRef.le, Mark.ref, hrank]
    · intro href
      rw [(CellRef.mk.inj href).1] at hrank
      exact Nat.lt_irrefl _ hrank

theorem pairwise_le_linksDrawn (text : List Char) :
    (linksDrawn text).Pairwise fun left right => left.source.le right.source = true := by
  rw [linksDrawn, ← List.flatMap_assoc, List.pairwise_flatMap]
  constructor
  · intro mark _
    apply List.pairwise_of_forall_mem_list
    intro left hleft right hright
    rw [source_of_mem_linksFrom hleft, source_of_mem_linksFrom hright]
    simp [CellRef.le]
  · apply (pairwise_precedes_ref text).imp
    intro leftMark rightMark hprecedes left hleft right hright
    rw [source_of_mem_linksFrom hleft, source_of_mem_linksFrom hright]
    exact hprecedes.1

end Chart

namespace Board

variable {text : List Char} {board : Board}

theorem ends_lt_census (hparse : parse text = .ok board) {link : Link}
    (hmem : link ∈ board.links) :
    link.source.index < board.census.get link.source.kind ∧
      link.target.index < board.census.get link.target.kind := by
  rw [links_eq_linksDrawn hparse] at hmem
  obtain ⟨source, hsource, offset, _, target, hseen, rfl⟩ :=
    (mem_linksDrawn_iff text link).mp hmem
  rw [get_census hparse, get_census hparse]
  exact ⟨index_lt_tally hsource, index_lt_tally ((seen_eq_some_iff ..).mp hseen).1⟩

theorem map_ref_allCells (hparse : parse text = .ok board) :
    board.allCells.map Cell.ref = (Kind.all.flatMap (drawnOf text)).map Mark.ref := by
  rw [allCells, List.map_flatMap, List.map_flatMap]
  congr 1
  funext kind
  rw [cellsOf_eq_map_cellDrawn hparse, List.map_map]
  rfl

theorem safe_graph (hparse : parse text = .ok board) (name : String) :
    (board.graph name).Safe where
  source_lt _ hmem := (ends_lt_census hparse hmem).1
  target_lt _ hmem := (ends_lt_census hparse hmem).2
  source_ne_target link hmem := by
    rw [graph, links_eq_linksDrawn hparse] at hmem
    exact source_ne_target_of_mem_linksDrawn hmem
  nodup_ends := by
    rw [graph, links_eq_linksDrawn hparse]
    exact nodup_ends_linksDrawn text
  pairwise_le := by
    rw [graph, links_eq_linksDrawn hparse]
    exact pairwise_le_linksDrawn text

/-- The graph of an accepted chart, which every output is written from, can be inserted
link by link, and its cells are listed in the order of their references, each once. -/
theorem graph_insertable (hparse : parse text = .ok board) :
    (∀ name, (board.graph name).Safe) ∧
      (board.allCells.map Cell.ref).Pairwise CellRef.Precedes := by
  refine ⟨safe_graph hparse, ?_⟩
  rw [map_ref_allCells hparse, List.pairwise_map]
  exact pairwise_precedes_ref text

/-- The junction sees the hex at a far offset and the road at a near one, both along the
same direction. -/
theorem graph_insertable_of_hex_and_road :
    ∃ board, parse ['h', '\n', '\n', '|', '\n', '.'] = .ok board ∧
      (board.graph "Corner").Safe ∧
        board.links = [⟨⟨.road, 0⟩, .clock6, ⟨.junction, 0⟩⟩,
          ⟨⟨.junction, 0⟩, .clock12, ⟨.tile, 0⟩⟩, ⟨⟨.junction, 0⟩, .clock12, ⟨.road, 0⟩⟩,
          ⟨⟨.tile, 0⟩, .clock6, ⟨.junction, 0⟩⟩] := by
  have hboard : ∃ board, parse ['h', '\n', '\n', '|', '\n', '.'] = .ok board := ⟨_, rfl⟩
  obtain ⟨board, hparse⟩ := hboard
  refine ⟨board, hparse, (graph_insertable hparse).1 "Corner", ?_⟩
  rw [links_eq_linksDrawn hparse]
  decide

end Board

end HexChart
