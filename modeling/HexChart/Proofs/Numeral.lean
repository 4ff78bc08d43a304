import HexChart.Json.Number
import Mathlib.Data.List.Basic

/-!
# Numerals

A natural number is written with its decimal digits, the first of which is zero only
for zero itself.  Reading takes all digits up to the first character that cannot go on
with a number, so the end of a numeral is where its digits end
(`toDigits_append_injective`), and it gives the number back exactly as long as that fits
into 64 bits (`readNumber_toDigits`).
-/

namespace HexChart.Json

/-- A text that does not go on with a number. -/
def Ends (rest : List Char) : Prop :=
  ∀ character ∈ rest.head?,
    character.isDigit = false ∧ character ≠ '.' ∧ character ≠ 'e' ∧ character ≠ 'E'

theorem ends_nil : Ends [] := by
  simp [Ends]

theorem ends_cons {character : Char} {rest : List Char} :
    Ends (character :: rest) ↔ character.isDigit = false ∧ character ≠ '.' ∧
      character ≠ 'e' ∧ character ≠ 'E' := by
  simp [Ends]

/-- A text that does not go on with a digit. -/
def Stops (rest : List Char) : Prop :=
  ∀ character ∈ rest.head?, character.isDigit = false

theorem stops_cons {character : Char} {rest : List Char} :
    Stops (character :: rest) ↔ character.isDigit = false := by
  simp [Stops]

theorem Ends.stops {rest : List Char} (hrest : Ends rest) : Stops rest :=
  fun character hmem => (hrest character hmem).1

section Digits

variable {digits rest : List Char} (hdigits : ∀ digit ∈ digits, digit.isDigit = true)

include hdigits

theorem takeWhile_digits_append (hrest : Stops rest) :
    (digits ++ rest).takeWhile Char.isDigit = digits := by
  rw [List.takeWhile_append_of_pos hdigits]
  cases rest with
  | nil => simp
  | cons character rest => simp [stops_cons.mp hrest]

theorem dropWhile_digits_append (hrest : Stops rest) :
    (digits ++ rest).dropWhile Char.isDigit = rest := by
  rw [List.dropWhile_append_of_pos hdigits]
  cases rest with
  | nil => rfl
  | cons character rest => simp [stops_cons.mp hrest]

end Digits

theorem isDigit_of_mem_toDigits {value : Nat} :
    ∀ digit ∈ Nat.toDigits 10 value, digit.isDigit = true :=
  fun _ hmem => Nat.isDigit_of_mem_toDigits (by decide) (by decide) hmem

theorem exists_toDigits_eq_cons (value : Nat) :
    ∃ digit digits, Nat.toDigits 10 value = digit :: digits ∧ digit.isDigit = true := by
  obtain ⟨digit, digits, hdigits⟩ :=
    List.exists_cons_of_ne_nil (Nat.toDigits_ne_nil (n := value) (b := 10))
  have hmem : digit ∈ Nat.toDigits 10 value := by
    rw [hdigits]
    exact List.mem_cons_self
  exact ⟨digit, digits, hdigits, isDigit_of_mem_toDigits digit hmem⟩

/-- The digits of a number, read from the front of a text, tell the number and where it
ends. -/
theorem toDigits_append_injective {left right : Nat} {rest other : List Char}
    (hrest : Ends rest) (hother : Ends other)
    (heq : Nat.toDigits 10 left ++ rest = Nat.toDigits 10 right ++ other) :
    left = right ∧ rest = other := by
  have hdigits := congrArg (List.takeWhile Char.isDigit) heq
  rw [takeWhile_digits_append isDigit_of_mem_toDigits hrest.stops,
    takeWhile_digits_append isDigit_of_mem_toDigits hother.stops] at hdigits
  have hvalue : left = right := by
    calc
      left = Nat.ofDigitChars 10 (Nat.toDigits 10 left) 0 := Nat.ofDigitChars_ten_toDigits.symm
      _ = Nat.ofDigitChars 10 (Nat.toDigits 10 right) 0 := by rw [hdigits]
      _ = right := Nat.ofDigitChars_ten_toDigits
  rw [hvalue] at heq
  exact ⟨hvalue, List.append_cancel_left heq⟩

/-- Only zero is written with a zero in front. -/
theorem toDigits_ne_zero_cons_cons (value : Nat) (digit : Char) (digits : List Char) :
    Nat.toDigits 10 value ≠ '0' :: digit :: digits := by
  have hfirst : ∀ value, 0 < value → (Nat.toDigits 10 value).head? ≠ some '0' := by
    intro value
    induction value using Nat.strongRecOn with
    | ind value ih =>
      intro hpositive
      rw [Nat.toDigits_eq_if (by decide)]
      split
      · simp
        omega
      · rw [List.head?_append_of_ne_nil _ Nat.toDigits_ne_nil]
        exact ih (value / 10) (by omega) (by omega)
  intro heq
  rcases Nat.eq_zero_or_pos value with rfl | hpositive
  · simp at heq
  · apply hfirst value hpositive
    rw [heq]
    rfl

namespace Literal

theorem readDigits_append {digits rest : List Char}
    (hdigits : ∀ digit ∈ digits, digit.isDigit = true) (hne : digits ≠ [])
    (hrest : Stops rest) : readDigits (digits ++ rest) = .ok (digits, rest) := by
  rw [readDigits, takeWhile_digits_append hdigits hrest, dropWhile_digits_append hdigits hrest]
  cases digits with
  | nil => exact absurd rfl hne
  | cons digit digits => rfl

theorem readFraction_of_ends {rest : List Char} (hrest : Ends rest) :
    readFraction rest = .ok (none, rest) := by
  cases rest with
  | nil => rfl
  | cons character rest =>
    have hpoint := (ends_cons.mp hrest).2.1
    simp [readFraction, hpoint]

theorem readExponent_of_ends {rest : List Char} (hrest : Ends rest) :
    readExponent rest = .ok (none, rest) := by
  cases rest with
  | nil => rfl
  | cons character rest =>
    obtain ⟨_, _, hsmall, hcapital⟩ := ends_cons.mp hrest
    simp [readExponent, hsmall, hcapital]

/-- The digits of a number are read as a literal without sign, point or exponent. -/
theorem read_toDigits (value : Nat) {rest : List Char} (hrest : Ends rest) :
    read (Nat.toDigits 10 value ++ rest) =
      .ok (⟨false, Nat.toDigits 10 value, none, none⟩, rest) := by
  have hwhole : readWhole (Nat.toDigits 10 value ++ rest) =
      .ok (Nat.toDigits 10 value, rest) := by
    rw [readWhole, readDigits_append isDigit_of_mem_toDigits Nat.toDigits_ne_nil hrest.stops]
    split
    · next heq =>
      rw [Except.ok.injEq, Prod.mk.injEq] at heq
      exact absurd heq.1 (toDigits_ne_zero_cons_cons value _ _)
    · rfl
  rw [read]
  · simp only [hwhole, readFraction_of_ends hrest, readExponent_of_ends hrest, bind, Except.bind,
      pure, Except.pure]
  · -- a numeral does not begin with a minus sign
    intro others hminus
    obtain ⟨digit, digits, hdigits, hdigit⟩ := exists_toDigits_eq_cons value
    rw [hdigits, List.cons_append, List.cons.injEq] at hminus
    rw [hminus.1] at hdigit
    exact absurd hdigit (by decide)

end Literal

namespace Number

/-- Digits whose value stays below the limit are all taken into the significand. -/
theorem absorb_of_lt {digits : List Char} {significand : Nat}
    (hlt : Nat.ofDigitChars 10 digits significand < limit) :
    absorb significand digits = (Nat.ofDigitChars 10 digits significand, []) := by
  induction digits generalizing significand with
  | nil => rfl
  | cons digit digits ih =>
    rw [Nat.ofDigitChars_cons] at hlt ⊢
    have hnext : 10 * significand + (digit.toNat - '0'.toNat) < limit := by
      rw [Nat.ofDigitChars_eq_ofDigitChars_zero] at hlt
      have hpower : 0 < 10 ^ digits.length := Nat.pow_pos (by decide)
      have hle := Nat.le_mul_of_pos_left (10 * significand + (digit.toNat - '0'.toNat)) hpower
      omega
    rw [absorb, if_pos hnext, ih hlt]

end Number

/-- A number below the limit reads back from its digits. -/
theorem readNumber_toDigits {value : Nat} (hvalue : value < Number.limit) {rest : List Char}
    (hrest : Ends rest) :
    readNumber (Nat.toDigits 10 value ++ rest) = .ok (.natural value, rest) := by
  have habsorb : Number.absorb 0 (Nat.toDigits 10 value) = (value, []) := by
    have hdigits : Nat.ofDigitChars 10 (Nat.toDigits 10 value) 0 = value :=
      Nat.ofDigitChars_ten_toDigits
    rw [Number.absorb_of_lt (by rwa [hdigits]), hdigits]
  simp [readNumber, Literal.read_toDigits value hrest, Number.ofLiteral, habsorb, bind,
    Except.bind, pure, Except.pure]

end HexChart.Json
