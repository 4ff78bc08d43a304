import HexChart.Proofs.Drawing

/-!
# The text of a drawing

Cells that are added to their rows in reading order come to stand at exactly their
columns: a row is never longer than the column of its next cell.  The text of a
drawing therefore shows at every place the cell that the drawing has there
(`exists_mem_drawn_draw_iff`), and it is accepted (`exists_parse_draw`).
-/

namespace HexChart.Drawing

open Chart

/-- What a row may hold. -/
def Plain (character : Char) : Prop :=
  character = ' ' ∨ ∃ shape : Shape, character = shape.symbol

theorem symbol_ne (shape : Shape) : shape.symbol ≠ ' ' ∧ shape.symbol ≠ '\n' := by
  rcases shape with ⟨_ | _ | _⟩ | _ | _ | _ | _ <;> decide

/-! ## Rows -/

theorem length_extend {row : List Char} {col : Nat} (hcol : row.length ≤ col) (shape : Shape) :
    (extend row col shape).length = col + 1 := by
  rw [extend, List.length_append, List.length_rightpad, List.length_singleton,
    Nat.max_eq_left hcol]

theorem getElem?_extend_eq_symbol_iff {row : List Char} {col : Nat} (hcol : row.length ≤ col)
    (shape : Shape) (other : Nat) (target : Shape) :
    (extend row col shape)[other]? = some target.symbol ↔
      row[other]? = some target.symbol ∨ col = other ∧ shape = target := by
  have hpadded : (row.rightpad col ' ').length = col := by
    rw [List.length_rightpad, Nat.max_eq_left hcol]
  rcases Nat.lt_trichotomy other col with hlt | rfl | hgt
  · rw [extend, List.getElem?_append_left (by omega), List.rightpad, List.getElem?_append]
    split
    · simp [Nat.ne_of_gt hlt]
    · next hlength =>
      have hblank := (symbol_ne target).1
      rw [List.getElem?_replicate, List.getElem?_eq_none (Nat.not_lt.mp hlength)]
      simp [Nat.ne_of_gt hlt, hblank.symm]
  · rw [extend, List.getElem?_append_right (by omega), hpadded, Nat.sub_self,
      List.getElem?_eq_none hcol]
    constructor
    · intro hsymbol
      exact Or.inr ⟨rfl, Shape.symbol_injective (Option.some.inj hsymbol)⟩
    · rintro (hsymbol | ⟨_, rfl⟩)
      · simp at hsymbol
      · rfl
  · have hbeyond : other ≥ row.length := by omega
    rw [List.getElem?_eq_none (by rw [length_extend hcol]; omega),
      List.getElem?_eq_none hbeyond]
    simp [Nat.ne_of_lt hgt]

/-- Cells that are added from left to right stand at their columns. -/
theorem getElem?_foldl_extend {entries : List ((Nat × Nat) × Shape)} {row : List Char}
    (hsorted : entries.Pairwise fun left right => left.1.2 < right.1.2)
    (hlength : ∀ entry ∈ entries, row.length ≤ entry.1.2) (col : Nat) (shape : Shape) :
    (entries.foldl (fun row entry => extend row entry.1.2 entry.2) row)[col]? =
        some shape.symbol ↔
      row[col]? = some shape.symbol ∨ ∃ entry ∈ entries, entry.1.2 = col ∧ entry.2 = shape := by
  induction entries generalizing row with
  | nil => simp
  | cons entry others ih =>
    obtain ⟨hfirst, hothers⟩ := List.pairwise_cons.mp hsorted
    have hcol := hlength entry List.mem_cons_self
    have hnext : ∀ other ∈ others,
        (extend row entry.1.2 entry.2).length ≤ other.1.2 := by
      intro other hmem
      rw [length_extend hcol]
      exact hfirst other hmem
    rw [List.foldl_cons, ih hothers hnext, getElem?_extend_eq_symbol_iff hcol, or_assoc]
    simp only [List.mem_cons, exists_eq_or_imp]

theorem plain_of_mem_foldl_extend {entries : List ((Nat × Nat) × Shape)} {row : List Char}
    (hrow : ∀ character ∈ row, Plain character) :
    ∀ character ∈ entries.foldl (fun row entry => extend row entry.1.2 entry.2) row,
      Plain character := by
  induction entries generalizing row with
  | nil => exact hrow
  | cons entry others ih =>
    apply ih
    intro character hmem
    simp only [extend, List.rightpad, List.mem_append, List.mem_singleton] at hmem
    rcases hmem with (hmem | hmem) | rfl
    · exact hrow character hmem
    · exact Or.inl (List.eq_of_mem_replicate hmem)
    · exact Or.inr ⟨entry.2, rfl⟩

/-- Extending rows one cell at a time extends each row by its own cells. -/
theorem getElem?_foldl_modify (entries : List ((Nat × Nat) × Shape)) (start : List (List Char))
    (i : Nat) :
    (entries.foldl (fun rows entry =>
        rows.modify entry.1.1 fun row => extend row entry.1.2 entry.2) start)[i]? =
      start[i]?.map fun row =>
        (entries.filter fun entry => entry.1.1 = i).foldl
          (fun row entry => extend row entry.1.2 entry.2) row := by
  induction entries generalizing start with
  | nil => simp
  | cons entry others ih =>
    rw [List.foldl_cons, ih]
    by_cases hrow : entry.1.1 = i
    · rw [List.filter_cons_of_pos (by simpa using hrow), hrow, List.getElem?_modify_eq,
        Option.map_eq_map, Option.map_map]
      rfl
    · rw [List.filter_cons_of_neg (by simpa using hrow), List.getElem?_modify_ne _ _ hrow]

/-- The cells of one row of a drawing, from left to right. -/
def rowOf (cells : Layout Shape) (row : Nat) : List ((Nat × Nat) × Shape) :=
  cells.toList.filter fun entry => entry.1.1 = row

theorem mem_rowOf_iff (cells : Layout Shape) (row : Nat) (entry : (Nat × Nat) × Shape) :
    entry ∈ rowOf cells row ↔ cells[entry.1]? = some entry.2 ∧ entry.1.1 = row := by
  rw [rowOf, List.mem_filter, ← Std.TreeMap.mem_toList_iff_getElem?_eq_some, decide_eq_true_eq]

theorem pairwise_rowOf (cells : Layout Shape) (row : Nat) :
    (rowOf cells row).Pairwise fun left right => left.1.2 < right.1.2 := by
  have hordered : (rowOf cells row).Pairwise fun left right =>
      lexOrd.compare left.1 right.1 = .lt :=
    List.Pairwise.filter _ Std.TreeMap.ordered_keys_toList
  apply hordered.imp_of_mem
  intro left right hleft hright hcompare
  have hleftRow := ((mem_rowOf_iff ..).mp hleft).2
  have hrightRow := ((mem_rowOf_iff ..).mp hright).2
  have hless : (compare left.1.1 right.1.1).then (compare left.1.2 right.1.2) = .lt := hcompare
  rw [Ordering.then_eq_lt, Nat.compare_eq_lt, Nat.compare_eq_eq, Nat.compare_eq_lt] at hless
  omega

theorem lt_rowCount {cells : Layout Shape} {place : Nat × Nat} {shape : Shape}
    (hcell : cells[place]? = some shape) : place.1 < rowCount cells := by
  have hkey : place.1 + 1 ∈ cells.keys.map fun place => place.1 + 1 := by
    rw [← Std.TreeMap.map_fst_toList_eq_keys]
    exact List.mem_map_of_mem
      (List.mem_map_of_mem (Std.TreeMap.mem_toList_iff_getElem?_eq_some.mpr hcell))
  cases hmax : (cells.keys.map fun place => place.1 + 1).max? with
  | none =>
    rw [List.max?_eq_none_iff] at hmax
    simp [hmax] at hkey
  | some count =>
    have hle := (List.max?_le_iff hmax).mp (Nat.le_refl count) _ hkey
    rw [rowCount, hmax, Option.getD_some]
    omega

theorem getElem?_rows (cells : Layout Shape) (row : Nat) :
    (rows cells)[row]? = if row < rowCount cells then
      some ((rowOf cells row).foldl (fun row entry => extend row entry.1.2 entry.2) [])
    else none := by
  rw [rows, Std.TreeMap.foldl_eq_foldl_toList, getElem?_foldl_modify, List.getElem?_replicate]
  split <;> rfl

/-- A row shows the cells of the drawing at their columns and no others. -/
theorem getElem?_rows_eq_symbol_iff (cells : Layout Shape) (row col : Nat) (shape : Shape) :
    ((rows cells)[row]?.bind fun characters => characters[col]?) = some shape.symbol ↔
      cells[(row, col)]? = some shape := by
  have hline := @getElem?_foldl_extend (rowOf cells row) [] (pairwise_rowOf cells row)
    (fun entry _ => Nat.zero_le entry.1.2) col shape
  rw [getElem?_rows]
  split
  · rw [Option.bind_some, hline]
    constructor
    · rintro (hnil | ⟨entry, hmem, rfl, rfl⟩)
      · simp at hnil
      · obtain ⟨hcell, rfl⟩ := (mem_rowOf_iff ..).mp hmem
        exact hcell
    · intro hcell
      exact Or.inr ⟨((row, col), shape), (mem_rowOf_iff ..).mpr ⟨hcell, rfl⟩, rfl, rfl⟩
  · next hrow =>
    constructor
    · simp
    · intro hcell
      exact absurd (lt_rowCount hcell) hrow

theorem plain_of_mem_rows {cells : Layout Shape} {line : List Char} (hline : line ∈ rows cells) :
    ∀ character ∈ line, Plain character := by
  obtain ⟨row, hrow⟩ := List.mem_iff_getElem?.mp hline
  rw [getElem?_rows] at hrow
  split at hrow
  · rw [← Option.some.inj hrow]
    exact plain_of_mem_foldl_extend (by simp)
  · simp at hrow

/-! ## The text -/

theorem lines_draw (hexes : Layout Hex) :
    lines (draw hexes) = (rows (cells hexes)).map fun row => row ++ ['\n'] := by
  apply lines_flatMap_break
  intro row hrow hbreak
  rcases plain_of_mem_rows hrow '\n' hbreak with hblank | ⟨shape, hsymbol⟩
  · simp at hblank
  · exact (symbol_ne shape).2 hsymbol.symm

/-- The text of a drawing shows a cell at a place exactly when one of the hexes puts it
there. -/
theorem exists_mem_drawn_draw_iff (hexes : Layout Hex) (shape : Shape) (row col : Nat) :
    (∃ mark ∈ drawn (draw hexes), mark.shape = shape ∧ mark.row = row ∧ mark.col = col) ↔
      ∃ position hex, hexes[position]? = some hex ∧
        ((row, col), shape) ∈ strokesOf position hex := by
  have hbreak : ∀ row : List Char, (row ++ ['\n'])[col]? = some shape.symbol ↔
      row[col]? = some shape.symbol := by
    intro row
    rw [List.getElem?_append]
    split
    · rfl
    · next hlength =>
      rw [List.getElem?_eq_none (Nat.not_lt.mp hlength), List.getElem?_singleton]
      split
      · simp [(symbol_ne shape).2.symm]
      · rfl
  rw [exists_mem_drawn_iff, characterAt?, lines_draw, ← getElem?_cells_eq_some_iff,
    ← getElem?_rows_eq_symbol_iff, List.getElem?_map]
  cases (rows (cells hexes))[row]? with
  | none => rfl
  | some line => exact hbreak line

example : draw ((∅ : Layout Hex).insert (0, 0) .tile) =
    ("\n      .\n    /   \\\n  .       .\n  |   h   |\n" ++
      "  .       .\n    \\   /\n      .\n").toList := by
  decide

theorem exists_parse_draw (hexes : Layout Hex) : ∃ board, Board.parse (draw hexes) = .ok board := by
  apply Board.exists_parse
  intro character hmem
  obtain ⟨row, hrow, hcharacter⟩ := List.mem_flatMap.mp hmem
  rcases List.mem_append.mp hcharacter with hcharacter | hcharacter
  · rcases plain_of_mem_rows hrow character hcharacter with rfl | ⟨shape, rfl⟩
    · rfl
    · rw [Symbol.classify_symbol]
      rfl
  · rw [List.mem_singleton.mp hcharacter]
    rfl

/-- The cells of a drawing stand on the lattice. -/
theorem fits_of_mem_drawn_draw {hexes : Layout Hex} {mark : Mark}
    (hmem : mark ∈ drawn (draw hexes)) : Lattice.Fits 4 6 mark.shape mark.row mark.col := by
  obtain ⟨position, hex, _, hstroke⟩ :=
    (exists_mem_drawn_draw_iff hexes mark.shape mark.row mark.col).mp ⟨mark, hmem, rfl, rfl, rfl⟩
  exact fits_of_mem_strokesOf hstroke

end HexChart.Drawing
