/-!
# Hexadecimal digits

The letters of a hexadecimal digit may be capital or small.  Every number below
sixteen is the value of its digit (`hexValue?_digitChar`).
-/

namespace HexChart.Text

def hexValue? (digit : Char) : Option Nat :=
  if '0' ≤ digit ∧ digit ≤ '9' then some (digit.toNat - '0'.toNat)
  else if 'a' ≤ digit ∧ digit ≤ 'f' then some (digit.toNat - 'a'.toNat + 10)
  else if 'A' ≤ digit ∧ digit ≤ 'F' then some (digit.toNat - 'A'.toNat + 10)
  else none

theorem hexValue?_digitChar (digit : Fin 16) :
    hexValue? (Nat.digitChar digit) = some digit.val := by
  revert digit
  decide

end HexChart.Text
