import HexChart.Decimal.Binary64

/-!
# Shortest decimal text

A floating-point number is written with the fewest digits that read back as the
same number, and of those with the nearest.  The digits are found on the
coarsest decimal grid that has a point between the two midpoints to the
neighboring numbers.
-/

namespace HexChart.Decimal

/-- The decimal number `digits * 10 ^ power`. -/
structure Scientific where
  digits : Nat
  power : Int
  deriving DecidableEq, Repr

/-- The point of the grid `10 ^ power` that reads back as a number, if there
is one.  All distances are compared as whole multiples of one small unit. -/
def gridPoint? (number : Binary64) (power : Int) : Option Scientific :=
  let (unitNumer, unitDenom) := Binary64.scaled 1 1 (2 - number.exponent)
  let step := Nat.pow 10 power.toNat * unitDenom
  let unit := Nat.pow 10 (-power).toNat * unitNumer
  let value := 4 * number.mantissa * unit
  let below :=
    if number.mantissa = Binary64.leastMantissa ∧ number.exponent > Binary64.minExponent then unit
    else 2 * unit
  let low := value - below
  let high := value + 2 * unit
  let reads (point : Nat) : Bool :=
    let place := point * step
    if number.mantissa % 2 = 0 then low ≤ place ∧ place ≤ high else low < place ∧ place < high
  let floor := value / step
  let ceiling := floor + 1
  let nearerFloor : Bool :=
    let toFloor := value - floor * step
    let toCeiling := ceiling * step - value
    toFloor < toCeiling ∨ (toFloor = toCeiling ∧ floor % 2 = 0)
  match reads floor, reads ceiling with
  | true, true => some ⟨if nearerFloor then floor else ceiling, power⟩
  | true, false => some ⟨floor, power⟩
  | false, true => some ⟨ceiling, power⟩
  | false, false => none

/-- The fewest digits that read back as a number. -/
def shortest (number : Binary64) : Scientific :=
  ((List.range 660).findSome? fun (step : Nat) =>
    gridPoint? number (310 - (step : Int))).getD ⟨0, 0⟩

/-- How a decimal number is laid out. -/
structure Layout where
  /-- The least exponent of a first digit that is written positionally. -/
  leastPositional : Int
  /-- The greatest exponent of a first digit that is written positionally. -/
  greatestPositional : Int

/-- Floating-point numbers in messages are positional from `1e-5` to below
`1e16`. -/
def Layout.message : Layout := ⟨-5, 15⟩

/-- The text of a decimal number.  An exponent has a sign and as many digits as
it needs. -/
def Scientific.toText (layout : Layout) (number : Scientific) : String :=
  let digits := (toString number.digits).toList
  let exponent := number.power + digits.length - 1
  let zeros (count : Int) : List Char := List.replicate count.toNat '0'
  let text :=
    if number.digits = 0 then
      ['0', '.', '0']
    else if exponent < layout.leastPositional ∨ layout.greatestPositional < exponent then
      let tail := digits.drop 1
      digits.take 1 ++ (if tail.isEmpty then [] else '.' :: tail) ++
        ['e', if exponent < 0 then '-' else '+'] ++ (toString exponent.natAbs).toList
    else if exponent < 0 then
      ['0', '.'] ++ zeros (-exponent - 1) ++ digits
    else if 0 ≤ number.power then
      digits ++ zeros number.power ++ ['.', '0']
    else
      digits.take (exponent.toNat + 1) ++ '.' :: digits.drop (exponent.toNat + 1)
  String.ofList text

/-- The text of a signed floating-point number in a message. -/
def signedText (negative : Bool) (magnitude : Binary64) : String :=
  let digits := if magnitude.mantissa = 0 then ⟨0, 0⟩ else shortest magnitude
  (if negative then "-" else "") ++ digits.toText .message

end HexChart.Decimal
