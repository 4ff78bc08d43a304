import HexChart.Proofs.Sizing
import HexChart.Proofs.Slots
import Mathlib.Algebra.Order.Ring.Unbundled.Basic
import Mathlib.Tactic.Ring

/-!
# The capacity of a chart

Every line of a chart costs a character, and the longest line costs as many as it is long,
so height and width share the characters of the text (`height_add_width_le`).  Their
product is largest where they share them evenly, and some text of each length attains this
(`exists_area_eq`).  A text of fewer than `2 ^ 33 - 1` characters therefore has a grid whose
slots one word can count, and there is a text of just that length for which one word does
not suffice.
-/

namespace HexChart.Chart

/-! ## How large a grid a text can have -/

/-- The longest line pays for itself, and each other line for one row. -/
theorem length_add_foldl_le {found : List (List Char)} (hne : ∀ line ∈ found, line ≠ [])
    (start : Nat) :
    found.length + found.foldl (fun longest line => max longest line.length) start ≤
      found.flatten.length + max 1 start := by
  induction found generalizing start with
  | nil => simp
  | cons line others ih =>
    -- a line that becomes the longest pays for its excess, any other has a character to spare
    rw [List.forall_mem_cons] at hne
    have hline : 0 < line.length := List.length_pos_of_ne_nil hne.1
    have hothers := ih hne.2 (max start line.length)
    rw [List.foldl_cons, List.length_cons, List.flatten_cons, List.length_append]
    omega

theorem height_add_width_le (text : List Char) :
    height text + width text ≤ text.length + 1 := by
  have hlines := length_add_foldl_le (cuts_lines text).ne_nil 0
  rwa [flatten_lines, Nat.max_zero] at hlines

theorem area_le (text : List Char) :
    height text * width text ≤ (text.length + 1) ^ 2 / 4 := by
  rw [Nat.le_div_iff_mul_le (Nat.succ_pos 3)]
  calc height text * width text * 4 = 4 * height text * width text := by ring
    _ ≤ (height text + width text) ^ 2 := four_mul_le_sq_add _ _
    _ ≤ (text.length + 1) ^ 2 := Nat.pow_le_pow_left (height_add_width_le text) 2

/-! ## Texts that attain it -/

/-- Empty lines, and below them a line that no break ends. -/
def ledge (breaks : Nat) (line : List Char) : List Char :=
  List.replicate breaks '\n' ++ line

theorem length_ledge (breaks : Nat) (line : List Char) :
    (ledge breaks line).length = breaks + line.length := by
  rw [ledge, List.length_append, List.length_replicate]

section Ledge

variable {line : List Char} (hline : '\n' ∉ line) (hne : line ≠ [])

include hline hne

theorem lines_ledge (breaks : Nat) :
    lines (ledge breaks line) = List.replicate breaks ['\n'] ++ [line] := by
  induction breaks with
  | zero => exact lines_of_not_mem hline hne
  | succ breaks ih =>
    rw [ledge, List.replicate_succ, List.cons_append, ← ledge]
    exact (lines_append_break List.not_mem_nil _).trans (congrArg (['\n'] :: ·) ih)

theorem size_ledge (breaks : Nat) :
    height (ledge breaks line) = breaks + 1 ∧ width (ledge breaks line) = line.length := by
  have hheight : height (ledge breaks line) = breaks + 1 := by
    rw [height, lines_ledge hline hne, List.length_append, List.length_replicate]
    rfl
  have hlongest := (le_foldl_max_length (lines (ledge breaks line)) 0).2 line
    (by simp [lines_ledge hline hne])
  -- no line can be longer, since height and width share the characters
  have hshared := height_add_width_le (ledge breaks line)
  rw [length_ledge, hheight] at hshared
  exact ⟨hheight, Nat.le_antisymm (by omega) hlongest⟩

end Ledge

theorem half_mul_other_half (total : Nat) : total / 2 * (total - total / 2) = total ^ 2 / 4 := by
  obtain ⟨half, rfl | rfl⟩ := Nat.even_or_odd' total
  · have hhalf : 2 * half / 2 = half := by omega
    have hsquare : (2 * half) ^ 2 = 4 * (half * half) := by ring
    rw [hhalf, hsquare, Nat.mul_div_cancel_left _ (Nat.succ_pos 3)]
    congr 1
    omega
  · have hhalf : (2 * half + 1) / 2 = half := by omega
    have hother : 2 * half + 1 - half = half + 1 := by omega
    have hsquare : (2 * half + 1) ^ 2 = 4 * (half * (half + 1)) + 1 := by ring
    rw [hhalf, hother, hsquare]
    omega

/-- Half of the characters are breaks and the others stand in one line. -/
theorem exists_area_eq (length : Nat) :
    ∃ text : List Char, text.length = length ∧
      height text * width text = (length + 1) ^ 2 / 4 := by
  by_cases hlength : length = 0
  · exact ⟨[], hlength.symm, by rw [hlength]; rfl⟩
  · have hblanks : '\n' ∉ List.replicate (length + 1 - (length + 1) / 2) ' ' := by simp
    have hne : List.replicate (length + 1 - (length + 1) / 2) ' ' ≠ [] := by simp; omega
    refine ⟨ledge ((length + 1) / 2 - 1) (List.replicate (length + 1 - (length + 1) / 2) ' '),
      ?_, ?_⟩
    · rw [length_ledge, List.length_replicate]
      omega
    · obtain ⟨hheight, hwidth⟩ := size_ledge hblanks hne ((length + 1) / 2 - 1)
      have hbreaks : (length + 1) / 2 - 1 + 1 = (length + 1) / 2 := by omega
      rw [hheight, hwidth, hbreaks, List.length_replicate, half_mul_other_half]

/-! ## Sizes counted in words -/

/-- Counting in words is counting modulo their number, and comparing lengths that fit is
comparing them. -/
theorem foldl_sizeWords {found : List (List Char)}
    (hshort : ∀ line ∈ found, line.length < UInt64.size) (size : UInt64 × UInt64) :
    let counted := found.foldl
      (fun (height, width) line => (height + 1, max width (.ofNat line.length))) size
    counted.1 = size.1 + .ofNat found.length ∧
      counted.2.toNat =
        found.foldl (fun longest line => max longest line.length) size.2.toNat := by
  induction found generalizing size with
  | nil => simp
  | cons line others ih =>
    rw [List.forall_mem_cons] at hshort
    obtain ⟨hcount, hlongest⟩ := ih hshort.2 (size.1 + 1, max size.2 (.ofNat line.length))
    refine ⟨hcount.trans ?_, hlongest.trans ?_⟩
    · rw [List.length_cons, Nat.add_comm others.length, UInt64.ofNat_add, UInt64.add_assoc]
      rfl
    · rw [List.foldl_cons, UInt64.toNat_max, UInt64.toNat_ofNat_of_lt' hshort.1]

/-- The size of a text in words is its size, if words can hold that. -/
theorem toNat_sizeWords {text : List Char} (hheight : height text < UInt64.size)
    (hwidth : width text < UInt64.size) :
    (blankWords text).height.toNat = height text ∧
      (blankWords text).width.toNat = width text := by
  have hshort : ∀ line ∈ lines text, line.length < UInt64.size := fun line hmem =>
    Nat.lt_of_le_of_lt ((le_foldl_max_length (lines text) 0).2 line hmem) hwidth
  obtain ⟨hcount, hlongest⟩ := foldl_sizeWords hshort (0, 0)
  refine ⟨?_, hlongest⟩
  rw [show (blankWords text).height = 0 + .ofNat (lines text).length from hcount, UInt64.zero_add]
  exact UInt64.toNat_ofNat_of_lt' hheight

/-- The product in words is the area modulo the number of words, and a machine makes that
many slots. -/
theorem size_slots_blankWords {text : List Char} (hheight : height text < UInt64.size)
    (hwidth : width text < UInt64.size) :
    ((blankWords text).height * (blankWords text).width).toNat =
        height text * width text % UInt64.size ∧
      (blankWords text).slots.size = height text * width text % UInt64.size := by
  obtain ⟨hheightWord, hwidthWord⟩ := toNat_sizeWords hheight hwidth
  have hproduct : ((blankWords text).height * (blankWords text).width).toNat =
      height text * width text % UInt64.size := by
    rw [UInt64.toNat_mul, hheightWord, hwidthWord]
  exact ⟨hproduct, Array.size_replicate.trans hproduct⟩

section Fitting

variable {text : List Char} (harea : height text * width text < UInt64.size)

include harea

/-- Neither side of a text is longer than its area, since a text with a line has a column. -/
theorem size_lt_of_area_lt : height text < UInt64.size ∧ width text < UInt64.size := by
  by_cases hempty : text = []
  · subst hempty
    decide
  · have hwidth : width text ≠ 0 := (width_eq_zero_iff text).not.mpr hempty
    have hheight : height text ≠ 0 := by
      rw [height, Ne, List.length_eq_zero_iff]
      exact (lines_eq_nil_iff text).not.mpr hempty
    exact ⟨Nat.lt_of_le_of_lt (Nat.le_mul_of_pos_right _ (Nat.pos_of_ne_zero hwidth)) harea,
      Nat.lt_of_le_of_lt (Nat.le_mul_of_pos_left _ (Nat.pos_of_ne_zero hheight)) harea⟩

theorem standsFor_blankWords : (blankWords text).StandsFor (blankGrid text) := by
  obtain ⟨hheight, hwidth⟩ := size_lt_of_area_lt harea
  obtain ⟨hheightWord, hwidthWord⟩ := toNat_sizeWords hheight hwidth
  rw [← hheightWord, ← hwidthWord] at harea
  have hstands := WordGrid.standsFor_blank harea
  rwa [hheightWord, hwidthWord] at hstands

end Fitting

/-! ## The limit -/

theorem area_lt {text : List Char} (htext : text.length < 2 ^ 33 - 1) :
    height text * width text < UInt64.size := by
  calc height text * width text ≤ (text.length + 1) ^ 2 / 4 := area_le text
    _ ≤ (2 ^ 33 - 1) ^ 2 / 4 := Nat.div_le_div_right (Nat.pow_le_pow_left (by omega) 2)
    _ < UInt64.size := by decide

/-- Every mark of a chart that is small enough finds its slot in words. -/
theorem exists_drawnWords {text : List Char} (harea : height text * width text < UInt64.size)
    {sketch : Sketch} (hsketch : Sketch.ofText text = .ok sketch) :
    ∃ words, drawnWords? text sketch.marks = some words ∧ words.StandsFor sketch.grid := by
  rw [Sketch.grid_sketch hsketch, Sketch.marks_sketch hsketch]
  exact (standsFor_blankWords harea).exists_placeAll
    (List.forall_mem_map.mpr fun mark hmem => drawn_inside hmem)

/-- Height and width of a text exceed its length together by one at most, which bounds
their product.  Below `2 ^ 33 - 1` characters the product and all slot numbers are the same
in words as over the integers, and a machine draws the chart without stopping.  The bound
is attained at every length, so `2 ^ 33 - 1` characters can need as many slots as there are
words, and their number is zero in words. -/
theorem area_fits_word_below_limit :
    (∀ text : List Char, height text + width text ≤ text.length + 1 ∧
        height text * width text ≤ (text.length + 1) ^ 2 / 4) ∧
      (∀ text : List Char, text.length < 2 ^ 33 - 1 →
        let words := blankWords text
        (words.height.toNat = height text ∧ words.width.toNat = width text) ∧
          (words.height * words.width).toNat = height text * width text ∧
          words.slots.size = height text * width text ∧
          (∀ row col, row < words.height → col < words.width →
            (row * words.width).toNat = row.toNat * width text ∧
              (words.slot row col).toNat = row.toNat * width text + col.toNat ∧
              (words.slot row col).toNat < height text * width text) ∧
          ∀ sketch, Sketch.ofText text = .ok sketch →
            ∃ drawn, drawnWords? text sketch.marks = some drawn ∧
              ∀ row col, drawn.get? row col = some (sketch.grid.get row.toNat col.toNat)) ∧
      (∀ length, ∃ text : List Char, text.length = length ∧
        height text * width text = (length + 1) ^ 2 / 4) ∧
      ∃ text : List Char, text.length = 2 ^ 33 - 1 ∧ height text * width text = 2 ^ 64 ∧
        (blankWords text).slots.size = 0 := by
  refine ⟨fun text => ⟨height_add_width_le text, area_le text⟩, ?_, exists_area_eq, ?_⟩
  · intro text htext words
    have harea := area_lt htext
    have hstands := standsFor_blankWords harea
    obtain ⟨hheight, hwidth⟩ := size_lt_of_area_lt harea
    obtain ⟨hproduct, hslots⟩ := size_slots_blankWords hheight hwidth
    rw [Nat.mod_eq_of_lt harea] at hproduct hslots
    refine ⟨⟨hstands.height_eq, hstands.width_eq⟩, hproduct, hslots, ?_, ?_⟩
    · exact fun row col hrow hcol => hstands.toNat_slot hrow hcol
    · intro sketch hsketch
      obtain ⟨drawn, hdrawn, hshown⟩ := exists_drawnWords harea hsketch
      exact ⟨drawn, hdrawn, hshown.get?_eq⟩
  · obtain ⟨text, htext, harea⟩ := exists_area_eq (2 ^ 33 - 1)
    have hlimit : height text * width text = 2 ^ 64 := harea.trans (by decide)
    have hshared := height_add_width_le text
    have hwords : 2 ^ 33 < UInt64.size := by decide
    have hheight : height text < UInt64.size := by omega
    have hwidth : width text < UInt64.size := by omega
    obtain ⟨_, hslots⟩ := size_slots_blankWords hheight hwidth
    refine ⟨text, htext, hlimit, ?_⟩
    rw [hslots, hlimit]
    decide

/-- A chart of two lines, in which the hex has the second slot of three in its row. -/
theorem area_fits_word_below_limit_of_two_lines :
    let text := ['|', 'h', '\n', '?']
    (height text + width text ≤ 5 ∧ height text * width text ≤ 6) ∧
      (blankWords text).slots.size = height text * width text ∧
      ((blankWords text).slot 1 2).toNat = 5 ∧
      ∃ drawn, drawnWords? text [⟨.road .vertical, 0, 0, 0⟩, ⟨.tile, 0, 1, 0⟩,
          ⟨.flippable, 1, 0, 0⟩] = some drawn ∧
        drawn.get? 0 1 = some (some ⟨.tile, 0⟩) ∧ drawn.get? 0 3 = some none := by
  intro text
  obtain ⟨hbound, hwords, _, _⟩ := area_fits_word_below_limit
  obtain ⟨_, _, hsize, hslots, hdrawn⟩ := hwords text (by decide)
  obtain ⟨_, hslot, _⟩ := hslots 1 2 (by decide) (by decide)
  obtain ⟨drawn, hsome, hget⟩ := hdrawn _ rfl
  obtain ⟨hshared, harea⟩ := hbound text
  refine ⟨⟨hshared, harea.trans (by decide)⟩, hsize, hslot, drawn, hsome, ?_, ?_⟩
  · exact (hget 0 1).trans rfl
  · exact (hget 0 3).trans rfl

end HexChart.Chart
