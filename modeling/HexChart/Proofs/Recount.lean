import HexChart.Proofs.Outputs
import HexChart.Proofs.Strictness
import Mathlib.Algebra.GroupWithZero.Nat

/-!
# How many links there are

The number of links is counted in many places: when the marks of a chart look out over the
grid, when the neighbors of the cells are summed up, when the links are listed, and when a
header or a document is written.  All of them agree (`link_counts_agree`), because each cell
has one neighbor slot for each of its offsets and because a header says that an edge is
added nowhere but in the statement of a link.
-/

namespace HexChart

open Chart HexChart.Json

/-- At how many places of a text a marker stands. -/
def occurrences (marker text : List Char) : Nat :=
  text.tails.countP fun rest => marker.isPrefixOf rest

/-! ## Cells -/

/-- As long as a cell has one slot for each of its offsets, every neighbor is a link. -/
theorem Cell.neighborCount_eq_length_links {cell : Cell}
    (hslots : cell.shape.offsets.length = cell.neighbors.length) :
    cell.neighborCount = cell.links.length := by
  have hsecond : (cell.shape.offsets.zip cell.neighbors).map Prod.snd = cell.neighbors :=
    List.map_snd_zip (Nat.le_of_eq hslots.symm)
  rw [neighborCount, links, List.length_filterMap_eq_countP, ← hsecond, List.countP_map]
  simp only [Function.comp_def, hsecond, Option.isSome_map]

theorem Cell.length_outgoing (cell : Cell) : cell.outgoing.length = cell.links.length := by
  rw [outgoing, List.length_map]

namespace Chart

/-- Marks that are gone through kind by kind are all gone through once. -/
theorem sum_flatMap_kinds (weight : Mark → Nat) (marks : List Mark) :
    ((Kind.all.flatMap fun kind => marks.filter fun mark => mark.shape.kind = kind).map
      weight).sum = (marks.map weight).sum := by
  induction marks with
  | nil => rfl
  | cons mark marks ih =>
    simp only [Kind.all, List.flatMap_cons, List.flatMap_nil, List.append_nil, List.map_append,
      List.sum_append, List.map_cons, List.sum_cons] at ih ⊢
    rw [← ih]
    cases hkind : mark.shape.kind <;> simp [hkind] <;> omega

end Chart

/-! ## Statements -/

/-- What the statement of a link says and nothing else in a header. -/
def edgeMarker : List Char :=
  ['-', '>', 'a', 'd', 'd', '_', 'e', 'd', 'g', 'e', '(']

theorem occurrences_cons (marker : List Char) (character : Char) (rest : List Char) :
    occurrences marker (character :: rest) =
      occurrences marker rest + if marker.isPrefixOf (character :: rest) then 1 else 0 := by
  rw [occurrences, List.tails_cons, List.countP_cons, occurrences]

/-- A front part without hyphens does not count. -/
theorem occurrences_append {front : List Char} (hfront : '-' ∉ front) (rest : List Char) :
    occurrences edgeMarker (front ++ rest) = occurrences edgeMarker rest := by
  induction front with
  | nil => rfl
  | cons character front ih =>
    rw [List.mem_cons, not_or] at hfront
    rw [List.cons_append, occurrences_cons, ih hfront.2]
    simp [edgeMarker, List.isPrefixOf, hfront.1]

/-- The hyphen in front of a reference does not begin the marker. -/
theorem not_isPrefixOf_label (ref : CellRef) (rest : List Char) :
    edgeMarker.isPrefixOf ('-' :: '>' :: (ref.label.toList ++ rest)) = false := by
  obtain ⟨kind, index⟩ := ref
  cases kind <;> simp [edgeMarker, CellRef.toList_label, Kind.accessor, List.isPrefixOf]

/-- The arrow in front of a reference and the reference itself do not count. -/
theorem occurrences_label (ref : CellRef) (rest : List Char) :
    occurrences edgeMarker ('-' :: '>' :: (ref.label.toList ++ rest)) =
      occurrences edgeMarker rest := by
  have hhyphen : '-' ∈ Graph.dividers := by decide
  have hlabel : '-' ∉ '>' :: ref.label.toList := by
    simp [Graph.not_mem_label hhyphen ref]
  rw [occurrences_cons, not_isPrefixOf_label ref rest]
  exact occurrences_append hlabel rest

/-- The statement of a link adds one edge. -/
theorem occurrences_statement (link : Link) (rest : List Char) :
    occurrences edgeMarker (link.statement.toList ++ rest) = occurrences edgeMarker rest + 1 := by
  have hhyphen : '-' ∈ Graph.dividers := by decide
  have hgraph : '-' ∉ "m_graph".toList := by decide
  have hcall : '-' ∉ ">add_edge(".toList ++ link.direction.constant.toList ++
      ", m_graph".toList := by
    simp [Graph.not_mem_constant hhyphen link.direction]
  have hend : '-' ∉ ");".toList := by decide
  calc
    occurrences edgeMarker (link.statement.toList ++ rest)
      = occurrences edgeMarker ("m_graph".toList ++ '-' :: '>' :: (link.source.label.toList ++
          ('-' :: (">add_edge(".toList ++ link.direction.constant.toList ++ ", m_graph".toList ++
            '-' :: '>' :: (link.target.label.toList ++ (");".toList ++ rest)))))) := by
          simp [Link.statement]
    _ = occurrences edgeMarker ('-' :: (">add_edge(".toList ++ link.direction.constant.toList ++
          ", m_graph".toList ++ '-' :: '>' :: (link.target.label.toList ++
            (");".toList ++ rest)))) := by
          rw [occurrences_append hgraph, occurrences_label]
    _ = occurrences edgeMarker ('-' :: '>' :: (link.target.label.toList ++
          (");".toList ++ rest))) + 1 := by
          rw [occurrences_cons, occurrences_append hcall]
          simp [edgeMarker, List.isPrefixOf]
    _ = occurrences edgeMarker rest + 1 := by
          rw [occurrences_label, occurrences_append hend]

theorem occurrences_statements (links : List Link) (rest : List Char) :
    occurrences edgeMarker
        ((links.map ("        " ++ ·.statement ++ "\n")).flatMap String.toList ++ rest) =
      occurrences edgeMarker rest + links.length := by
  have hindent : '-' ∉ "        ".toList := by decide
  have hbreak : '-' ∉ "\n".toList := by decide
  induction links with
  | nil => rfl
  | cons link links ih =>
    simp only [List.map_cons, List.flatMap_cons, String.toList_append, List.append_assoc]
    rw [occurrences_append hindent, occurrences_statement, occurrences_append hbreak, ih,
      List.length_cons]
    omega

/-- A header adds an edge for each link of its graph. -/
theorem Graph.occurrences_header {graph : Graph} (hname : '-' ∉ graph.name.toList) :
    occurrences edgeMarker graph.header.toList = graph.links.length := by
  have hhyphen : '-' ∈ dividers := by decide
  have hopening : '-' ∉ (graph.headerOpening.map (· ++ "\n")).flatMap String.toList := by
    simpa using fun line hmem => not_mem_headerOpening hhyphen hname line hmem
  have hclosing : '-' ∉ (headerClosing.map (· ++ "\n")).flatMap String.toList := by
    simpa using fun line hmem => not_mem_headerClosing hhyphen line hmem
  have hheader : graph.header.toList =
      (graph.headerOpening.map (· ++ "\n")).flatMap String.toList ++
        ((graph.links.map ("        " ++ ·.statement ++ "\n")).flatMap String.toList ++
          (headerClosing.map (· ++ "\n")).flatMap String.toList) := by
    simp [header, headerLines, String.toList_join, Function.comp_def]
  calc
    occurrences edgeMarker graph.header.toList
      = occurrences edgeMarker ((graph.links.map ("        " ++ ·.statement ++ "\n")).flatMap
          String.toList ++ (headerClosing.map (· ++ "\n")).flatMap String.toList) := by
          rw [hheader, occurrences_append hopening]
    _ = occurrences edgeMarker ((headerClosing.map (· ++ "\n")).flatMap String.toList) +
          graph.links.length := occurrences_statements _ _
    _ = occurrences edgeMarker [] + graph.links.length := by
          rw [← List.append_nil (List.flatMap _ _), occurrences_append hclosing]
    _ = graph.links.length := Nat.zero_add _

/-! ## Boards -/

namespace Board

variable {text : List Char} {board : Board}

theorem length_neighbors (hparse : parse text = .ok board) {cell : Cell}
    (hmem : cell ∈ board.allCells) : cell.shape.offsets.length = cell.neighbors.length := by
  obtain ⟨mark, _, rfl⟩ := (mem_allCells_iff hparse cell).mp hmem
  simp [cellDrawn]

theorem sum_length_links (board : Board) :
    (board.allCells.map fun cell => cell.links.length).sum = board.links.length := by
  rw [links, List.length_flatMap]
  simp only [Cell.length_outgoing]

theorem linkCount_eq (hparse : parse text = .ok board) :
    board.linkCount = board.links.length := by
  calc
    board.linkCount = (board.allCells.map Cell.neighborCount).sum := List.sum_eq_foldr.symm
    _ = (board.allCells.map fun cell => cell.links.length).sum := by
        congr 1
        exact List.map_congr_left fun cell hmem =>
          Cell.neighborCount_eq_length_links (length_neighbors hparse hmem)
    _ = board.links.length := board.sum_length_links

/-- Looking out from the marks finds what their cells remember. -/
theorem sightings_eq (sketch : Sketch) : sketch.sightings = (ofSketch sketch).linkCount := by
  have hcells : (ofSketch sketch).allCells =
      (Kind.all.flatMap sketch.ofKind).map (Cell.ofMark sketch.grid) := by
    rw [allCells, List.map_flatMap]
    congr 1
    funext kind
    simp [cellsOf, ofSketch]
  calc
    sketch.sightings = (sketch.marks.map (Cell.neighborCount ∘ Cell.ofMark sketch.grid)).sum := by
        simp [Sketch.sightings, List.sum_eq_foldr, Cell.neighborCount, Cell.ofMark,
          List.countP_map, Function.comp_def]
    _ = ((Kind.all.flatMap sketch.ofKind).map (Cell.neighborCount ∘ Cell.ofMark sketch.grid)).sum :=
        (sum_flatMap_kinds _ sketch.marks).symm
    _ = (ofSketch sketch).linkCount := by
        rw [linkCount, hcells, List.map_map, List.sum_eq_foldr]

end Board

/-- A job that has read its chart reports how many links were found and how many the board
has. -/
theorem Job.mem_events_run_iff {job : Job} {files : Files} {board : Board}
    (hloads : job.Loads files board) :
    (∀ links, .resolved links ∈ (job.run files).events ↔ links = board.linkCount) ∧
      ∀ path census links, .loaded path census links ∈ (job.run files).events ↔
        path = job.inputPath ∧ census = board.census ∧ links = board.linkCount := by
  obtain ⟨hname, text, hread, hparse⟩ := hloads
  obtain ⟨sketch, hsketch, rfl⟩ := Board.parse_eq_ok_iff.mp hparse
  have hload : job.load (files.read job.inputPath) =
      ([.read text.utf8ByteSize job.inputPath,
        .sized (height text.toList) (width text.toList), .classified sketch.census,
          .resolved (Board.ofSketch sketch).linkCount], .ok (Board.ofSketch sketch)) := by
    rw [← Board.sightings_eq]
    simp only [load, (job.reads_iff files text).mp hread, hsketch]
    rfl
  rw [job.run_events hname, compile_events, hload]
  constructor
  · intro links
    simp
  · intro path census links
    simp

namespace Board

/-- The number of links of an accepted chart is the same however it is found: by looking out
from the marks, as the sum of what the cells have found or of what leads out of them, as the
length of the list, as the number of edges that a header adds or a document lists, and in
the two reports of every job that has this board. -/
theorem link_counts_agree {text : List Char} {board : Board} (hparse : parse text = .ok board) :
    (∃ sketch, Sketch.ofText text = .ok sketch ∧ sketch.sightings = board.links.length) ∧
    board.linkCount = board.links.length ∧
    (board.allCells.map fun cell => cell.links.length).sum = board.links.length ∧
    (∀ name, isIdentifier name →
      occurrences edgeMarker (board.graph name).header.toList = board.links.length) ∧
    (text.length < Number.limit → board.census.Fits) ∧
    (board.census.Fits → ∀ name, ∃ graph,
      Graph.form.decode (board.graph name).document = .ok graph ∧
        graph.links.length = board.links.length) ∧
    ∀ (job : Job) (files : Files), job.Loads files board →
      (∀ links, .resolved links ∈ (job.run files).events ↔ links = board.links.length) ∧
        ∀ path census links, .loaded path census links ∈ (job.run files).events ↔
          path = job.inputPath ∧ census = board.census ∧ links = board.links.length := by
  obtain ⟨sketch, hsketch, hboard⟩ := parse_eq_ok_iff.mp hparse
  have hcount := linkCount_eq hparse
  refine ⟨⟨sketch, hsketch, ?_⟩, hcount, board.sum_length_links, ?_, fits_census hparse, ?_, ?_⟩
  · rw [sightings_eq, hboard, hcount]
  · intro name hname
    exact Graph.occurrences_header (not_mem_of_isIdentifier (by decide) hname)
  · intro hfits name
    exact ⟨board.graph name, Graph.decode_document (fits_graph hparse hfits name), rfl⟩
  · intro job files hloads
    rw [← hcount]
    exact Job.mem_events_run_iff hloads

/-- The junction finds a hex and a road towards twelve o'clock, and only the hex finds the
junction. -/
theorem link_counts_agree_of_road_below_hex :
    ∃ (board : Board) (job : Job) (files : Files),
      parse ['h', '\n', '\n', '/', '\n', '.', '\n'] = .ok board ∧
        job = ⟨"bent", "charts", "out", .header, true⟩ ∧
        files = ⟨[(["charts"], .directory),
          (["charts", "bent.txt"], .file "h\n\n/\n.\n".toUTF8)], []⟩ ∧
        board.links.length = 3 ∧ board.linkCount = 3 ∧
        occurrences edgeMarker (board.graph "bent").header.toList = 3 ∧
        (∃ graph, Graph.form.decode (board.graph "bent").document = .ok graph ∧
          graph.links.length = 3) ∧
        job.Loads files board ∧ .resolved 3 ∈ (job.run files).events ∧
        .loaded "charts/bent.txt" ⟨1, 1, 1, 0, 0⟩ 3 ∈ (job.run files).events := by
  have hboard : ∃ board, parse ['h', '\n', '\n', '/', '\n', '.', '\n'] = .ok board ∧
      board.links.length = 3 ∧ board.census = ⟨1, 1, 1, 0, 0⟩ := ⟨_, rfl, rfl, rfl⟩
  obtain ⟨board, hparse, hlength, hcensus⟩ := hboard
  have hloads : Job.Loads ⟨"bent", "charts", "out", .header, true⟩
      ⟨[(["charts"], .directory),
        (["charts", "bent.txt"], .file "h\n\n/\n.\n".toUTF8)], []⟩ board :=
    ⟨(isIdentifier_iff _).mp rfl, "h\n\n/\n.\n", rfl, hparse⟩
  obtain ⟨_, hcount, _, hheader, hfits, hdecode, hevents⟩ := link_counts_agree hparse
  obtain ⟨hresolved, hloaded⟩ := hevents _ _ hloads
  refine ⟨board, _, _, hparse, rfl, rfl, hlength, hcount.trans hlength,
    (hheader "bent" rfl).trans hlength, ?_, hloads, ?_, ?_⟩
  · obtain ⟨graph, hgraph, hlinks⟩ := hdecode (hfits (by decide)) "bent"
    exact ⟨graph, hgraph, hlinks.trans hlength⟩
  · exact (hresolved 3).mpr hlength.symm
  · exact (hloaded _ _ 3).mpr ⟨by decide, hcensus.symm, hlength.symm⟩

end Board

end HexChart
