import HexChart.Json.Fault

/-!
# JSON numbers

A number literal is first cut into its parts and then given a value.  A literal
of digits alone is a natural number while it fits into 64 bits; with a minus
sign it is a negative integer while it fits into 64 bits.  Every other literal
is a floating-point number, and one beyond the floating-point range is no
number at all.
-/

namespace HexChart.Json

/-- The parts of a number literal. -/
structure Literal where
  negative : Bool
  /-- The digits before the point. -/
  whole : List Char
  /-- The digits after the point, if there is one. -/
  fraction : Option (List Char)
  /-- The sign and the digits of the exponent, if there is one. -/
  exponent : Option (Bool × List Char)
  deriving DecidableEq, Repr

namespace Literal

/-- Takes the digits at the front of a text; there must be one. -/
def readDigits (text : List Char) : Except Fault (List Char × List Char) :=
  match text.takeWhile Char.isDigit, text.dropWhile Char.isDigit with
  | [], [] => .error .truncated
  | [], _ => .error .malformed
  | digits, rest => .ok (digits, rest)

/-- The digits before the point.  A zero stands alone. -/
def readWhole (text : List Char) : Except Fault (List Char × List Char) :=
  match readDigits text with
  | .ok ('0' :: _ :: _, _) => .error .malformed
  | other => other

/-- The fraction, if there is one. -/
def readFraction : List Char → Except Fault (Option (List Char) × List Char)
  | '.' :: rest => (readDigits rest).map fun (digits, rest) => (some digits, rest)
  | rest => .ok (none, rest)

/-- The sign of an exponent; true for a minus sign. -/
def readSign : List Char → Bool × List Char
  | '+' :: rest => (false, rest)
  | '-' :: rest => (true, rest)
  | rest => (false, rest)

/-- The exponent, if there is one. -/
def readExponent : List Char → Except Fault (Option (Bool × List Char) × List Char)
  | [] => .ok (none, [])
  | character :: rest =>
    if character = 'e' ∨ character = 'E' then
      let (negative, rest) := readSign rest
      (readDigits rest).map fun (digits, rest) => (some (negative, digits), rest)
    else
      .ok (none, character :: rest)

/-- Takes a literal from the front of a text. -/
def read (text : List Char) : Except Fault (Literal × List Char) := do
  let (negative, text) := match text with
    | '-' :: rest => (true, rest)
    | text => (false, text)
  let (whole, text) ← readWhole text
  let (fraction, text) ← readFraction text
  let (exponent, text) ← readExponent text
  return (⟨negative, whole, fraction, exponent⟩, text)

def startsWith (character : Char) : Bool :=
  character == '-' || character.isDigit

end Literal

/-- The value of a number literal. -/
inductive Number where
  | natural (value : Nat)
  /-- A negative integer, by its absolute value. -/
  | negative (magnitude : Nat)
  | floating (negative : Bool) (magnitude : Decimal.Binary64)
  deriving DecidableEq, Repr

namespace Number

/-- One more than the greatest natural number that is read: two to the power
of 64. -/
def limit : Nat := 0x10000000000000000

/-- Takes digits into a significand as long as it stays below the limit, and
returns it with the digits that are left over. -/
def absorb (significand : Nat) : List Char → Nat × List Char
  | [] => (significand, [])
  | digit :: rest =>
    let next := 10 * significand + (digit.toNat - '0'.toNat)
    if next < limit then absorb next rest else (significand, digit :: rest)

/-- The value of an exponent; zero when there is none. -/
def exponentValue : Option (Bool × List Char) → Int
  | none => 0
  | some (minus, digits) =>
    let size : Int := Nat.ofDigitChars 10 digits 0
    if minus then -size else size

/-- The floating-point value of a literal.  Digits of the whole part that do not
fit into the significand count as powers of ten; digits of the fraction that do
not fit are dropped. -/
def floatingValue (literal : Literal) : Except Fault Number :=
  let (significand, dropped) := absorb 0 literal.whole
  let fraction := literal.fraction.getD []
  let (significand, unused) := absorb significand fraction
  let power : Int := dropped.length - (fraction.length - unused.length : Nat) +
    exponentValue literal.exponent
  match (Decimal.Binary64.nearest significand 1).bind (·.timesPowerOfTen power) with
  | some magnitude => .ok (.floating literal.negative magnitude)
  | none => .error .malformed

def ofLiteral (literal : Literal) : Except Fault Number :=
  match literal.fraction, literal.exponent, absorb 0 literal.whole with
  | none, none, (value, []) =>
    if !literal.negative then .ok (.natural value)
    else if 0 < value ∧ value ≤ limit / 2 then .ok (.negative value)
    else floatingValue literal
  | _, _, _ => floatingValue literal

def found : Number → Found
  | natural value => .integer value
  | negative magnitude => .integer (-magnitude)
  | floating minus magnitude => .floating minus magnitude

end Number

/-- Reads a number from the front of a text. -/
def readNumber (text : List Char) : Except Fault (Number × List Char) := do
  let (literal, rest) ← Literal.read text
  let number ← Number.ofLiteral literal
  return (number, rest)

end HexChart.Json
