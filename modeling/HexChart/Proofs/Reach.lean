import HexChart.Offset.Word
import HexChart.Proofs.Reciprocity

/-!
# How far words reach

A machine adds words modulo `2 ^ 64`, so a place could be reached by running over an edge
of the numbers.  The carry rules this out: a step from a word leads to a word exactly when
the sum of the integers is one (`stepped_eq_some_iff`).  In words, an offset therefore
reaches what it reaches over the integers, and the offset that leads back undoes it.
-/

namespace HexChart

/-! ## Words -/

/-- A signed word below zero is the word that is its complement. -/
theorem toNat_toUInt64 (step : Int64) :
    (step.toUInt64.toNat : Int) =
      if step.toInt < 0 then step.toInt + UInt64.size else step.toInt := by
  have hword : step.toUInt64.toNat = step.toBitVec.toNat := rfl
  have hstep : step.toInt = step.toBitVec.toInt := rfl
  have hbound : step.toBitVec.toNat < 2 ^ 64 := step.toBitVec.isLt
  rw [hword, hstep, BitVec.toInt_eq_toNat_cond, UInt64.size]
  split <;> omega

theorem carries_iff (word step : UInt64) :
    word + step < word ↔ UInt64.size ≤ word.toNat + step.toNat := by
  have hword := word.toNat_lt
  have hstep := step.toNat_lt
  rw [UInt64.lt_iff_toNat_lt, UInt64.toNat_add, UInt64.size]
  omega

/-- A step leads to a word exactly when that word is the sum of the integers. -/
theorem stepped_eq_some_iff (word : UInt64) (step : Int64) (target : UInt64) :
    stepped word step = some target ↔ (target.toNat : Int) = word.toNat + step.toInt := by
  have hword := word.toNat_lt
  have htarget := target.toNat_lt
  have hlow := step.le_toInt
  have hhigh := step.toInt_lt
  have hsum := UInt64.toNat_add word step.toUInt64
  have hstep := toNat_toUInt64 step
  have hbackward : step < 0 ↔ step.toInt < 0 := Int64.lt_iff_toInt_lt
  rw [UInt64.size] at hstep
  simp only [stepped, decide_eq_decide, carries_iff, hbackward, UInt64.size]
  split
  · rw [Option.some_inj, ← UInt64.toNat_inj]
    split at hstep <;> omega
  · simp only [reduceCtorEq, false_iff]
    split at hstep <;> omega

/-! ## Offsets -/

namespace Offset

/-- Both displacements of an offset are signed words. -/
def InWords (offset : Offset) : Prop :=
  (Int64.ofInt offset.down).toInt = offset.down ∧
    (Int64.ofInt offset.right).toInt = offset.right
  deriving Decidable

theorem inWords_toInt (direction : Direction) (down right : Int64) :
    InWords ⟨direction, down.toInt, right.toInt⟩ := by
  simp [InWords]

theorem inWords_of_mem : ∀ table ∈ [far, near], ∀ offset ∈ table, offset.InWords := by
  decide

section Reaching

variable {offset : Offset} (hwords : offset.InWords)

include hwords

theorem applyWords_eq_some_iff (row col height width targetRow targetCol : UInt64) :
    offset.applyWords row col height width = some (targetRow, targetCol) ↔
      (targetRow.toNat : Int) = row.toNat + offset.down ∧
        (targetCol.toNat : Int) = col.toNat + offset.right ∧
          targetRow < height ∧ targetCol < width := by
  obtain ⟨hdown, hright⟩ := hwords
  have hrow := stepped_eq_some_iff row (.ofInt offset.down) targetRow
  have hcol := stepped_eq_some_iff col (.ofInt offset.right) targetCol
  rw [hdown] at hrow
  rw [hright] at hcol
  rw [← hrow, ← hcol, applyWords]
  split
  · next reachedRow reachedCol hreachedRow hreachedCol =>
    rw [hreachedRow, hreachedCol, Option.some_inj, Option.some_inj]
    split
    · next hinside =>
      rw [Option.some_inj, Prod.mk.injEq]
      constructor
      · rintro ⟨rfl, rfl⟩
        exact ⟨rfl, rfl, hinside⟩
      · rintro ⟨rfl, rfl, _⟩
        exact ⟨rfl, rfl⟩
    · next houtside =>
      simp only [reduceCtorEq, false_iff]
      rintro ⟨rfl, rfl, hinside⟩
      exact houtside hinside
  · next hnone =>
    simp only [reduceCtorEq, false_iff]
    rintro ⟨hreachedRow, hreachedCol, _⟩
    exact hnone targetRow targetCol hreachedRow hreachedCol

/-- In words the same place is reached as over the integers. -/
theorem map_applyWords (row col height width : UInt64) :
    (offset.applyWords row col height width).map (fun place => (place.1.toNat, place.2.toNat)) =
      offset.apply row.toNat col.toNat height.toNat width.toNat := by
  apply Option.ext
  rintro ⟨targetRow, targetCol⟩
  rw [apply_eq_some_iff, Option.map_eq_some_iff]
  constructor
  · rintro ⟨⟨reachedRow, reachedCol⟩, hreached, heq⟩
    cases heq
    exact (applyWords_eq_some_iff hwords ..).mp hreached
  · rintro ⟨hrow, hcol, hheight, hwidth⟩
    have htargetRow := toNat_ofNat_of_lt hheight
    have htargetCol := toNat_ofNat_of_lt hwidth
    refine ⟨(.ofNat targetRow, .ofNat targetCol), ?_, by simp [htargetRow, htargetCol]⟩
    rw [applyWords_eq_some_iff hwords, UInt64.lt_iff_toNat_lt, UInt64.lt_iff_toNat_lt,
      htargetRow, htargetCol]
    exact ⟨hrow, hcol, hheight, hwidth⟩

theorem isSome_applyWords_iff (row col height width : UInt64) :
    (offset.applyWords row col height width).isSome ↔
      (0 ≤ row.toNat + offset.down ∧ row.toNat + offset.down < height.toNat) ∧
        0 ≤ col.toNat + offset.right ∧ col.toNat + offset.right < width.toNat := by
  have hmap := congrArg Option.isSome (map_applyWords hwords row col height width)
  rw [Option.isSome_map, apply] at hmap
  rw [hmap]
  split
  · next hinside =>
    simp only [Option.isSome_some, true_iff]
    omega
  · next houtside =>
    simp only [Option.isSome_none, Bool.false_eq_true, false_iff]
    omega

end Reaching

/-- From every place of a rectangle, what the one offset reaches inside of it the other
takes back. -/
def Undoes (back offset : Offset) : Prop :=
  ∀ row col height width targetRow targetCol : UInt64, row < height → col < width →
    offset.applyWords row col height width = some (targetRow, targetCol) →
      back.applyWords targetRow targetCol height width = some (row, col)

theorem undoes_back {offset : Offset} (hwords : offset.InWords) (hback : offset.back.InWords) :
    offset.back.Undoes offset := by
  intro row col height width targetRow targetCol hrow hcol hreached
  obtain ⟨htargetRow, htargetCol, _⟩ := (applyWords_eq_some_iff hwords ..).mp hreached
  rw [applyWords_eq_some_iff hback]
  refine ⟨?_, ?_, hrow, hcol⟩
  · rw [htargetRow, back, Int.add_neg_cancel_right]
  · rw [htargetCol, back, Int.add_neg_cancel_right]

theorem back_mem_table : ∀ table ∈ [far, near], ∀ offset ∈ table, offset.back ∈ table := by
  decide

theorem eq_of_direction_eq : ∀ table ∈ [far, near], ∀ left ∈ table, ∀ right ∈ table,
    left.direction = right.direction → left = right := by
  decide

/-- In words of 64 bits an offset reaches a place exactly when the sums of the integers lie
inside the rectangle, and then these are the place.  Every offset of a shape stands in one
of the two tables, whose only offset of the opposite direction undoes it. -/
theorem applyWords_exact :
    (∀ (direction : Direction) (down right : Int64) (row col height width : UInt64),
      let reached := applyWords ⟨direction, down.toInt, right.toInt⟩ row col height width
      (reached.isSome ↔
        (0 ≤ row.toNat + down.toInt ∧ row.toNat + down.toInt < height.toNat) ∧
          0 ≤ col.toNat + right.toInt ∧ col.toNat + right.toInt < width.toNat) ∧
      (∀ targetRow targetCol, reached = some (targetRow, targetCol) →
        (targetRow.toNat : Int) = row.toNat + down.toInt ∧
          (targetCol.toNat : Int) = col.toNat + right.toInt) ∧
      reached.map (fun place => (place.1.toNat, place.2.toNat)) =
        apply ⟨direction, down.toInt, right.toInt⟩ row.toNat col.toNat height.toNat
          width.toNat) ∧
    ∀ (shape : Shape), ∀ offset ∈ shape.offsets, (offset ∈ far ∨ offset ∈ near) ∧
      ∀ table ∈ [far, near], offset ∈ table →
        ∃ back ∈ table, back.direction = offset.direction.opposite ∧ back.Undoes offset ∧
          ∀ other ∈ table, other.direction = offset.direction.opposite → other = back := by
  constructor
  · intro direction down right row col height width
    have hwords := inWords_toInt direction down right
    refine ⟨isSome_applyWords_iff hwords .., ?_, map_applyWords hwords ..⟩
    intro targetRow targetCol hreached
    obtain ⟨hrow, hcol, _⟩ := (applyWords_eq_some_iff hwords ..).mp hreached
    exact ⟨hrow, hcol⟩
  · intro shape offset hoffset
    refine ⟨Shape.far_or_near shape (Shape.mem_all shape) offset hoffset, ?_⟩
    intro table htable hmem
    have hback := back_mem_table table htable offset hmem
    refine ⟨offset.back, hback, rfl, ?_, ?_⟩
    · exact undoes_back (inWords_of_mem table htable offset hmem)
        (inWords_of_mem table htable offset.back hback)
    · exact fun other hother => eq_of_direction_eq table htable other hother offset.back hback

/-- Steps to and from the ends of the words, and a corner that looks back at its hex. -/
theorem applyWords_exact_at_ends :
    applyWords ⟨.clock10, -0x8000000000000000, 0x7fffffffffffffff⟩ 0xffffffffffffffff 0
        0xffffffffffffffff 0xffffffffffffffff =
      some (0x7fffffffffffffff, 0x7fffffffffffffff) ∧
    applyWords ⟨.clock4, 1, -1⟩ 0xffffffffffffffff 0 0xffffffffffffffff 1 = none ∧
    ∃ back ∈ far, back.direction = .clock6 ∧
      back.applyWords 0 7 0xffffffffffffffff 8 = some (3, 7) := by
  obtain ⟨hexact, hshapes⟩ := applyWords_exact
  refine ⟨?_, ?_, ?_⟩
  · obtain ⟨hsome, hsum, _⟩ := hexact .clock10 (-0x8000000000000000) 0x7fffffffffffffff
      0xffffffffffffffff 0 0xffffffffffffffff 0xffffffffffffffff
    obtain ⟨⟨targetRow, targetCol⟩, hreached⟩ := Option.isSome_iff_exists.mp (hsome.mpr (by decide))
    obtain ⟨hrow, hcol⟩ := hsum targetRow targetCol hreached
    have htargetRow : targetRow = 0x7fffffffffffffff :=
      UInt64.toNat_inj.mp (Int.ofNat.inj (hrow.trans (by decide)))
    have htargetCol : targetCol = 0x7fffffffffffffff :=
      UInt64.toNat_inj.mp (Int.ofNat.inj (hcol.trans (by decide)))
    rw [htargetRow, htargetCol] at hreached
    exact hreached
  · obtain ⟨hsome, _⟩ := hexact .clock4 1 (-1) 0xffffffffffffffff 0 0xffffffffffffffff 1
    exact Option.not_isSome_iff_eq_none.mp (mt hsome.mp (by decide))
  · obtain ⟨_, hback⟩ := hshapes .tile ⟨.clock12, -3, 0⟩ (by decide)
    obtain ⟨back, hmem, hdirection, hundoes, _⟩ := hback far (by decide) (by decide)
    exact ⟨back, hmem, hdirection, hundoes 3 7 _ 8 0 7 (by decide) (by decide) (by decide)⟩

end Offset

end HexChart
