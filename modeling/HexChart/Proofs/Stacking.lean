import HexChart.Proofs.Alphabet

/-!
# Charts below one another

A chart may be continued below another one.  The upper chart keeps its marks, and the
marks of the lower one move down by the rows above them and count on from the numbers
that the upper chart has given (`drawn_append`).  No offset spans more than three rows,
so with three blank rows between the charts no cell sees across the gap, and the board
of both is the boards of the two put together (`parse_stacked`).
-/

namespace HexChart

open Chart

/-- A reference to the same cell when other cells of its kind are counted first. -/
def CellRef.after (before : Census) (ref : CellRef) : CellRef :=
  ⟨ref.kind, ref.index + before.get ref.kind⟩

/-- A cell that stands some rows further down, after the cells that are counted first. -/
def Cell.below (down : Nat) (before : Census) (cell : Cell) : Cell where
  shape := cell.shape
  row := cell.row + down
  col := cell.col
  index := cell.index + before.get cell.kind
  neighbors := cell.neighbors.map (Option.map (CellRef.after before))

namespace Chart

/-- A mark that stands some rows further down, after the marks that are counted first. -/
def Mark.below (down : Nat) (before : Census) (mark : Mark) : Mark where
  shape := mark.shape
  row := mark.row + down
  col := mark.col
  index := mark.index + before.get mark.shape.kind

/-- The three line breaks that keep two charts apart. -/
def gap : List Char := ['\n', '\n', '\n']

@[simp]
theorem ref_below (down : Nat) (before : Census) (mark : Mark) :
    (mark.below down before).ref = mark.ref.after before := rfl

/-! ## Reading on below a chart -/

/-- Below a text that ends its line, columns are counted from the left again. -/
theorem colAfter_append_of_eq_zero {front : List Char} (hfront : colAfter front = 0)
    (back : List Char) : colAfter (front ++ back) = colAfter back := by
  induction back using List.reverseRecOn with
  | nil => simpa using hfront
  | append_singleton back character ih =>
    rw [← List.append_assoc, colAfter_concat, colAfter_concat, ih]

theorem tally_append (front back : List Char) (kind : Kind) :
    tally (front ++ back) kind = tally front kind + tally back kind :=
  List.countP_append

/-- Below a text that ends its line, a text draws its marks further down, with numbers
that go on from those above. -/
theorem drawn_append {front : List Char} (hfront : colAfter front = 0) (back : List Char) :
    drawn (front ++ back) = drawn front ++
      (drawn back).map (Mark.below (rowAfter front) (PerKind.ofFn (tally front))) := by
  induction back using List.reverseRecOn with
  | nil => simp
  | append_singleton back character ih =>
    rw [← List.append_assoc, drawn_concat, drawn_concat, ih, List.map_append,
      List.append_assoc, rowAfter_append, colAfter_append_of_eq_zero hfront]
    cases Shape.ofSymbol? character with
    | none => rfl
    | some shape =>
      simp [Mark.below, tally_append, Nat.add_comm]

theorem height_concat_break (body : List Char) :
    height (body ++ ['\n']) = rowAfter body + 1 := by
  induction body with
  | nil => rfl
  | cons character rest ih =>
    rw [height] at ih
    rw [height, List.cons_append, lines]
    by_cases hbreak : character = '\n'
    · simp [hbreak, ih, rowAfter]
    · cases hlines : lines (rest ++ ['\n']) with
      | nil => simp [hlines] at ih
      | cons line others =>
        rw [hlines] at ih
        simpa [hbreak, rowAfter] using ih

/-- A text that ends its last line has as many lines as line breaks. -/
theorem height_eq_rowAfter {text : List Char}
    (hends : text = [] ∨ text.getLast? = some '\n') : height text = rowAfter text := by
  rcases hends with rfl | hlast
  · rfl
  · obtain ⟨body, rfl⟩ := List.getLast?_eq_some_iff.mp hlast
    rw [height_concat_break, rowAfter_concat, if_pos rfl]

theorem colAfter_append_gap (text : List Char) : colAfter (text ++ gap) = 0 := by
  simp [colAfter, gap]

theorem drawn_append_gap (text : List Char) : drawn (text ++ gap) = drawn text := by
  have hblank : Shape.ofSymbol? '\n' = none := rfl
  have hgap : text ++ gap = ((text ++ ['\n']) ++ ['\n']) ++ ['\n'] := by simp [gap]
  rw [hgap, drawn_concat, drawn_concat, drawn_concat, hblank]
  simp

theorem tally_append_gap (text : List Char) (kind : Kind) :
    tally (text ++ gap) kind = tally text kind := by
  rw [tally_append]
  rfl

end Chart

/-! ## Locality -/

/-- No offset spans more than three rows. -/
theorem Shape.reach {shape : Shape} {offset : Offset} (hmem : offset ∈ shape.offsets) :
    -3 ≤ offset.down ∧ offset.down ≤ 3 := by
  have hshape : ∀ shape ∈ all, ∀ offset ∈ shape.offsets,
      -3 ≤ offset.down ∧ offset.down ≤ 3 := by decide
  exact hshape shape (mem_all shape) offset hmem

namespace Chart

variable {upper : List Char} (hends : upper = [] ∨ upper.getLast? = some '\n')

include hends

theorem drawn_stacked (lower : List Char) :
    drawn (upper ++ gap ++ lower) = drawn upper ++
      (drawn lower).map (Mark.below (height upper + 3) (PerKind.ofFn (tally upper))) := by
  have htally : tally (upper ++ gap) = tally upper := funext (tally_append_gap upper)
  have hrows : rowAfter (upper ++ gap) = height upper + 3 := by
    rw [height_eq_rowAfter hends, rowAfter_append]
    rfl
  rw [drawn_append (colAfter_append_gap upper), drawn_append_gap, htally, hrows]

theorem drawnOf_stacked (lower : List Char) (kind : Kind) :
    drawnOf (upper ++ gap ++ lower) kind = drawnOf upper kind ++
      (drawnOf lower kind).map
        (Mark.below (height upper + 3) (PerKind.ofFn (tally upper))) := by
  rw [drawnOf, drawn_stacked hends, List.filter_append, List.filter_map]
  rfl

theorem mem_drawn_stacked_iff (lower : List Char) (mark : Mark) :
    mark ∈ drawn (upper ++ gap ++ lower) ↔
      mark ∈ drawn upper ∨ ∃ source ∈ drawn lower,
        source.below (height upper + 3) (PerKind.ofFn (tally upper)) = mark := by
  rw [drawn_stacked hends, List.mem_append, List.mem_map]

/-- From a mark of the upper chart nothing of the lower chart is seen. -/
theorem seen_stacked_above (lower : List Char) {mark : Mark} (hmem : mark ∈ drawn upper)
    {offset : Offset} (hoffset : offset ∈ mark.shape.offsets) :
    seen (upper ++ gap ++ lower) mark offset = seen upper mark offset := by
  have hrow := (drawn_inside hmem).1
  have hreach := Shape.reach hoffset
  ext target
  rw [seen_eq_some_iff, seen_eq_some_iff, mem_drawn_stacked_iff hends]
  constructor
  · rintro ⟨htarget | ⟨source, _, rfl⟩, hplace⟩
    · exact ⟨htarget, hplace⟩
    · simp only [Mark.below] at hplace
      omega
  · rintro ⟨htarget, hplace⟩
    exact ⟨.inl htarget, hplace⟩

/-- From a mark of the lower chart the lower chart is seen, and nothing of the upper. -/
theorem seen_stacked_below (lower : List Char) (mark : Mark) {offset : Offset}
    (hoffset : offset ∈ mark.shape.offsets) :
    seen (upper ++ gap ++ lower)
        (mark.below (height upper + 3) (PerKind.ofFn (tally upper))) offset =
      (seen lower mark offset).map
        (Mark.below (height upper + 3) (PerKind.ofFn (tally upper))) := by
  have hreach := Shape.reach hoffset
  ext target
  rw [seen_eq_some_iff, mem_drawn_stacked_iff hends, Option.map_eq_some_iff]
  simp only [seen_eq_some_iff]
  constructor
  · rintro ⟨htarget | ⟨source, hsource, rfl⟩, hplace⟩
    · have hrow := (drawn_inside htarget).1
      simp only [Mark.below] at hplace
      omega
    · simp only [Mark.below] at hplace
      exact ⟨source, ⟨hsource, by omega, by omega⟩, rfl⟩
  · rintro ⟨source, ⟨hsource, hplace⟩, rfl⟩
    simp only [Mark.below]
    exact ⟨.inr ⟨source, hsource, rfl⟩, by omega, by omega⟩

theorem cellDrawn_stacked_above (lower : List Char) {mark : Mark} (hmem : mark ∈ drawn upper) :
    cellDrawn (upper ++ gap ++ lower) mark = cellDrawn upper mark := by
  simp only [cellDrawn, Cell.mk.injEq, true_and]
  apply List.map_congr_left
  intro offset hoffset
  rw [seen_stacked_above hends lower hmem hoffset]

theorem cellDrawn_stacked_below (lower : List Char) (mark : Mark) :
    cellDrawn (upper ++ gap ++ lower)
        (mark.below (height upper + 3) (PerKind.ofFn (tally upper))) =
      (cellDrawn lower mark).below (height upper + 3) (PerKind.ofFn (tally upper)) := by
  have hneighbors : ∀ offset ∈ mark.shape.offsets,
      (seen (upper ++ gap ++ lower)
          (mark.below (height upper + 3) (PerKind.ofFn (tally upper))) offset).map Mark.ref =
        ((seen lower mark offset).map Mark.ref).map
          (CellRef.after (PerKind.ofFn (tally upper))) := by
    intro offset hoffset
    rw [seen_stacked_below hends lower mark hoffset, Option.map_map, Option.map_map]
    rfl
  simp only [cellDrawn, Cell.below, Cell.mk.injEq, Mark.below, true_and, List.map_map]
  exact ⟨rfl, List.map_congr_left hneighbors⟩

end Chart

namespace Board

variable {upper lower : List Char} {above below whole : Board}

theorem height_grid {text : List Char} {board : Board} (hparse : parse text = .ok board) :
    board.grid.height = height text := by
  obtain ⟨sketch, hsketch, rfl⟩ := parse_eq_ok_iff.mp hparse
  exact (Sketch.size_sketch hsketch).1

theorem census_eq_tallies {text : List Char} {board : Board} (hparse : parse text = .ok board) :
    board.census = PerKind.ofFn (tally text) := by
  apply PerKind.ext_get
  intro kind
  rw [get_census hparse, PerKind.get_ofFn]

section

variable (hends : upper = [] ∨ upper.getLast? = some '\n')
variable (habove : parse upper = .ok above)
variable (hwhole : parse (upper ++ gap ++ lower) = .ok whole)

include hends habove hwhole

/-- The cells of both charts are those of the upper one, as they were, and then those of
the lower one, further down and with later numbers. -/
theorem cellsOf_stacked (hbelow : parse lower = .ok below) (kind : Kind) :
    whole.cellsOf kind = above.cellsOf kind ++
      (below.cellsOf kind).map (Cell.below (above.grid.height + 3) above.census) := by
  rw [cellsOf_eq_map_cellDrawn hwhole, cellsOf_eq_map_cellDrawn habove,
    cellsOf_eq_map_cellDrawn hbelow, drawnOf_stacked hends, height_grid habove,
    census_eq_tallies habove, List.map_append, List.map_map, List.map_map]
  congr 1
  · apply List.map_congr_left
    intro mark hmem
    exact cellDrawn_stacked_above hends lower ((mem_drawnOf_iff ..).mp hmem).1
  · apply List.map_congr_left
    intro mark _
    exact cellDrawn_stacked_below hends lower mark

/-- A link stays on its side of the gap. -/
theorem target_of_mem_links_stacked {link : Link} (hmem : link ∈ whole.links) :
    link.source.index < above.census.get link.source.kind ↔
      link.target.index < above.census.get link.target.kind := by
  rw [links_eq_linksDrawn hwhole] at hmem
  obtain ⟨source, hsource, offset, hoffset, target, hseen, rfl⟩ :=
    (mem_linksDrawn_iff ..).mp hmem
  rw [get_census habove, get_census habove]
  rcases (mem_drawn_stacked_iff hends lower source).mp hsource with hsource | ⟨origin, _, rfl⟩
  · rw [seen_stacked_above hends lower hsource hoffset] at hseen
    have htarget := ((seen_eq_some_iff ..).mp hseen).1
    exact iff_of_true (index_lt_tally hsource) (index_lt_tally htarget)
  · rw [seen_stacked_below hends lower origin hoffset] at hseen
    obtain ⟨found, _, rfl⟩ := Option.map_eq_some_iff.mp hseen
    simp only [ref_below, CellRef.after, PerKind.get_ofFn]
    omega

end

end Board

end HexChart
