import HexChart.Offset

/-!
# Offsets between words of 64 bits

A machine keeps rows, columns and sizes as words of 64 bits, and an offset as two
signed words.  It adds modulo `2 ^ 64`, and the carry tells whether the sum is the
true one: a step forward must not carry, and a step backward must.
-/

namespace HexChart

/-- A number below a word is a word itself. -/
theorem toNat_ofNat_of_lt {number : Nat} {bound : UInt64} (hnumber : number < bound.toNat) :
    (UInt64.ofNat number).toNat = number :=
  UInt64.toNat_ofNat_of_lt' (Nat.lt_trans hnumber bound.toNat_lt)

theorem ofNat_lt {number : Nat} {bound : UInt64} (hnumber : number < bound.toNat) :
    UInt64.ofNat number < bound := by
  rwa [UInt64.lt_iff_toNat_lt, toNat_ofNat_of_lt hnumber]

/-- A word after a signed step, if that is a word. -/
def stepped (word : UInt64) (step : Int64) : Option UInt64 :=
  let sum := word + step.toUInt64
  let carries : Bool := sum < word
  let backward : Bool := step < 0
  if carries = backward then some sum else none

/-- The place at an offset from `(row, col)` inside a rectangle, all in words. -/
def Offset.applyWords (offset : Offset) (row col height width : UInt64) :
    Option (UInt64 × UInt64) :=
  match stepped row (.ofInt offset.down), stepped col (.ofInt offset.right) with
  | some targetRow, some targetCol =>
    if targetRow < height ∧ targetCol < width then some (targetRow, targetCol) else none
  | _, _ => none

end HexChart
