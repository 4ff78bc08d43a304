/-!
# Binary floating-point numbers of 53 bits

A number is kept as a mantissa and a power of two, so that rounding is exact
arithmetic on natural numbers.  Every operation rounds its exact result to the
nearest number, and a tie goes to the even mantissa.
-/

namespace HexChart.Decimal

/-- The quotient rounded to the nearest whole number, ties to even. -/
def roundHalfEven (numerator denominator : Nat) : Nat :=
  let quotient := numerator / denominator
  let twice := 2 * (numerator % denominator)
  if twice > denominator ∨ (twice = denominator ∧ quotient % 2 = 1) then
    quotient + 1
  else
    quotient

/-- A finite number that is not negative: `mantissa * 2 ^ exponent`.  The
mantissa has 53 bits unless the exponent is the least one. -/
structure Binary64 where
  mantissa : Nat
  exponent : Int
  deriving DecidableEq, Repr

namespace Binary64

def minExponent : Int := -1074

def maxExponent : Int := 971

/-- The least mantissa of 53 bits. -/
def leastMantissa : Nat := 0x10000000000000

def zero : Binary64 := ⟨0, minExponent⟩

/-- The fraction `numerator / denominator / 2 ^ exponent`. -/
def scaled (numerator denominator : Nat) (exponent : Int) : Nat × Nat :=
  if exponent < 0 then
    (numerator <<< exponent.natAbs, denominator)
  else
    (numerator, denominator <<< exponent.natAbs)

/-- The number nearest to a fraction, or nothing if that is out of range. -/
def nearest (numerator denominator : Nat) : Option Binary64 :=
  if numerator = 0 then
    some zero
  else
    -- The quotient by `2 ^ guess` lies between `2 ^ 51` and `2 ^ 53`.
    let guess : Int := (Nat.log2 numerator : Int) - Nat.log2 denominator - 52
    let (numer, denom) := scaled numerator denominator guess
    let exponent := max minExponent (if numer < leastMantissa * denom then guess - 1 else guess)
    let (numer, denom) := scaled numerator denominator exponent
    let mantissa := roundHalfEven numer denom
    let rounded : Binary64 :=
      if mantissa = 2 * leastMantissa then ⟨leastMantissa, exponent + 1⟩
      else ⟨mantissa, exponent⟩
    if rounded.exponent > maxExponent then none else some rounded

def toFraction (number : Binary64) : Nat × Nat :=
  if number.exponent < 0 then
    (number.mantissa, 1 <<< number.exponent.natAbs)
  else
    (number.mantissa <<< number.exponent.natAbs, 1)

def mul (left right : Binary64) : Option Binary64 :=
  let (numer, denom) := left.toFraction
  let (numer', denom') := right.toFraction
  nearest (numer * numer') (denom * denom')

def div (left right : Binary64) : Option Binary64 :=
  let (numer, denom) := left.toFraction
  let (numer', denom') := right.toFraction
  nearest (numer * denom') (denom * numer')

/-- The greatest power of ten that is taken in one step. -/
def maxPower : Nat := 308

def powerOfTen (power : Nat) : Option Binary64 :=
  nearest (Nat.pow 10 power) 1

theorem natAbs_add_maxPower_lt {power : Int} (hlarge : ¬power.natAbs ≤ maxPower)
    (hnegative : ¬0 < power) : (power + maxPower).natAbs < power.natAbs := by
  simp only [maxPower] at *
  omega

/-- A number times a power of ten, rounded after each step: one factor or
divisor `10 ^ e` with `e` at most `maxPower`, after as many divisions by
`10 ^ maxPower` as that takes. -/
def timesPowerOfTen (number : Binary64) (power : Int) : Option Binary64 :=
  if power.natAbs ≤ maxPower then
    (powerOfTen power.natAbs).bind fun factor =>
      if power < 0 then number.div factor else number.mul factor
  else if number.mantissa = 0 then
    some number
  else if 0 < power then
    none
  else
    ((powerOfTen maxPower).bind number.div).bind fun smaller =>
      smaller.timesPowerOfTen (power + maxPower)
termination_by power.natAbs
decreasing_by exact natAbs_add_maxPower_lt ‹_› ‹_›

end Binary64

end HexChart.Decimal
