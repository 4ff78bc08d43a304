import HexChart.Proofs.Literal
import HexChart.Proofs.Rounding

/-!
# The size of a literal

The value of a literal, with all of its digits, against the floating-point number that it is
read as.  Digits are left out only behind a significand of nearly 64 bits, so what is
rounded differs from the value by less than one in two to the power of 60
(`Number.Within`), and the literals that count as out of range are those beyond it
(`Number.floatingValue_of_le`, `Number.floatingValue_of_ge`).
-/

namespace HexChart.Json

/-- The absolute value of a literal. -/
def Literal.magnitude (literal : Literal) : ℚ :=
  Nat.ofDigitChars 10 (literal.whole ++ literal.fraction.getD []) 0 *
    10 ^ (Number.exponentValue literal.exponent - (literal.fraction.getD []).length)

namespace Number

open Decimal

/-! ## Digits that are left over -/

/-- The digits of a value that are known: they are followed by others. -/
structure Within (known : Nat) (power : Int) (value : ℚ) : Prop where
  le : known * 10 ^ power ≤ value
  lt : value < (known + 1) * 10 ^ power

theorem sub_zero_le_nine {digit : Char} (hdigit : digit.isDigit = true) :
    digit.toNat - '0'.toNat ≤ 9 := by
  have hnine : digit.toNat ≤ '9'.toNat := by
    rw [Char.isDigit, Bool.and_eq_true, decide_eq_true_eq, decide_eq_true_eq] at hdigit
    exact hdigit.2
  exact Nat.sub_le_sub_right hnine _

theorem ofDigitChars_bounds {digits : List Char} (hdigits : ∀ digit ∈ digits, digit.isDigit = true)
    (known : Nat) : known * 10 ^ digits.length ≤ Nat.ofDigitChars 10 digits known ∧
      Nat.ofDigitChars 10 digits known < (known + 1) * 10 ^ digits.length := by
  induction digits generalizing known with
  | nil => simp
  | cons digit digits ih =>
    obtain ⟨hdigit, hdigits⟩ := List.forall_mem_cons.mp hdigits
    obtain ⟨hle, hlt⟩ := ih hdigits (10 * known + (digit.toNat - '0'.toNat))
    have hnine := sub_zero_le_nine hdigit
    rw [Nat.ofDigitChars_cons, List.length_cons, pow_succ]
    constructor
    · calc
        known * (10 ^ digits.length * 10)
        _ = 10 * known * 10 ^ digits.length := by ring
        _ ≤ (10 * known + (digit.toNat - '0'.toNat)) * 10 ^ digits.length := by
          gcongr
          exact Nat.le_add_right _ _
        _ ≤ _ := hle
    · calc
        Nat.ofDigitChars 10 digits (10 * known + (digit.toNat - '0'.toNat))
        _ < (10 * known + (digit.toNat - '0'.toNat) + 1) * 10 ^ digits.length := hlt
        _ ≤ (10 * known + 9 + 1) * 10 ^ digits.length := by gcongr
        _ = (known + 1) * (10 ^ digits.length * 10) := by ring

theorem within_ofDigitChars {digits : List Char}
    (hdigits : ∀ digit ∈ digits, digit.isDigit = true) (known : Nat) (power : Int) :
    Within known power (Nat.ofDigitChars 10 digits known * 10 ^ (power - digits.length)) := by
  obtain ⟨hle, hlt⟩ := ofDigitChars_bounds hdigits known
  have hle' : (known : ℚ) * 10 ^ digits.length ≤ Nat.ofDigitChars 10 digits known := by
    exact_mod_cast hle
  have hlt' : (Nat.ofDigitChars 10 digits known : ℚ) < (known + 1) * 10 ^ digits.length := by
    exact_mod_cast hlt
  have hpower : (10 : ℚ) ^ power = 10 ^ digits.length * 10 ^ (power - digits.length) := by
    rw [← zpow_natCast, ← zpow_add₀ (by norm_num)]
    congr 1
    omega
  constructor
  · rw [hpower, ← mul_assoc]
    gcongr
  · rw [hpower, ← mul_assoc]
    gcongr

/-- What is taken in is a front part of the digits, and only a digit that leads beyond the
limit is left over. -/
theorem absorb_spec (significand : Nat) (digits : List Char) :
    ∃ taken, digits = taken ++ (absorb significand digits).2 ∧
      (absorb significand digits).1 = Nat.ofDigitChars 10 taken significand ∧
      ∀ digit rest, (absorb significand digits).2 = digit :: rest →
        limit ≤ 10 * (absorb significand digits).1 + (digit.toNat - '0'.toNat) := by
  induction digits generalizing significand with
  | nil => exact ⟨[], rfl, rfl, fun digit rest hrest => absurd hrest (List.cons_ne_nil _ _).symm⟩
  | cons digit digits ih =>
    rw [absorb]
    split
    · obtain ⟨taken, hdigits, hvalue, hrest⟩ := ih (10 * significand + (digit.toNat - '0'.toNat))
      refine ⟨digit :: taken, ?_, ?_, hrest⟩
      · rw [List.cons_append, ← hdigits]
      · rw [Nat.ofDigitChars_cons, hvalue]
    · next hlarge =>
      refine ⟨[], rfl, rfl, ?_⟩
      rintro _ _ ⟨⟩
      exact not_lt.mp hlarge

theorem absorb_lt {significand : Nat} (hlt : significand < limit) (digits : List Char) :
    (absorb significand digits).1 < limit := by
  induction digits generalizing significand with
  | nil => exact hlt
  | cons digit digits ih =>
    rw [absorb]
    split
    · next hsmall => exact ih hsmall
    · exact hlt

/-- Where no digit is left over, the value of the digits stays below the limit. -/
theorem eq_of_absorb_eq {digits : List Char} {value : Nat}
    (habsorb : absorb 0 digits = (value, [])) :
    value = Nat.ofDigitChars 10 digits 0 ∧ value < limit := by
  obtain ⟨taken, hdigits, hvalue, _⟩ := absorb_spec 0 digits
  have hlt := absorb_lt (show 0 < limit by decide) digits
  rw [habsorb] at hdigits hvalue hlt
  rw [List.append_nil] at hdigits
  rw [hdigits]
  exact ⟨hvalue, hlt⟩

/-! ## What is rounded -/

/-- The digits of a literal that are not left out, as a number. -/
def significand (literal : Literal) : Nat :=
  (absorb (absorb 0 literal.whole).1 (literal.fraction.getD [])).1

/-- The power of ten that belongs to the significand. -/
def power (literal : Literal) : Int :=
  (absorb 0 literal.whole).2.length -
    ((literal.fraction.getD []).length -
      (absorb (absorb 0 literal.whole).1 (literal.fraction.getD [])).2.length : Nat) +
    exponentValue literal.exponent

theorem floatingValue_eq (literal : Literal) :
    floatingValue literal =
      match (Binary64.nearest (significand literal) 1).bind
        (·.timesPowerOfTen (power literal)) with
      | some magnitude => .ok (.floating literal.negative magnitude)
      | none => .error .malformed := rfl

theorem floatingValue_eq_ok_or (literal : Literal) :
    (∃ magnitude, floatingValue literal = .ok (.floating literal.negative magnitude)) ∨
      floatingValue literal = .error .malformed := by
  rw [floatingValue_eq]
  split
  · exact .inl ⟨_, rfl⟩
  · exact .inr rfl

theorem significand_lt (literal : Literal) : significand literal < limit :=
  absorb_lt (absorb_lt (by decide) _) _

/-- The value of a literal, from the digits of the whole part that are taken in. -/
theorem magnitude_eq (literal : Literal) :
    literal.magnitude =
      Nat.ofDigitChars 10 ((absorb 0 literal.whole).2 ++ literal.fraction.getD [])
          (absorb 0 literal.whole).1 *
        10 ^ ((absorb 0 literal.whole).2.length + exponentValue literal.exponent -
          ((absorb 0 literal.whole).2 ++ literal.fraction.getD []).length) := by
  obtain ⟨taken, hwhole, hknown, _⟩ := absorb_spec 0 literal.whole
  rw [Literal.magnitude, hknown, ← Nat.ofDigitChars_append, ← List.append_assoc, ← hwhole,
    List.length_append]
  congr 2
  omega

/-- What is rounded, from the digits of the fraction that are taken in. -/
theorem exists_taken (literal : Literal) :
    ∃ taken, literal.fraction.getD [] = taken ++
        (absorb (absorb 0 literal.whole).1 (literal.fraction.getD [])).2 ∧
      significand literal = Nat.ofDigitChars 10 taken (absorb 0 literal.whole).1 ∧
      power literal =
        (absorb 0 literal.whole).2.length + exponentValue literal.exponent - taken.length := by
  obtain ⟨taken, hfraction, hsignificand, _⟩ :=
    absorb_spec (absorb 0 literal.whole).1 (literal.fraction.getD [])
  have hlength := congrArg List.length hfraction
  rw [List.length_append] at hlength
  refine ⟨taken, hfraction, hsignificand, ?_⟩
  rw [power]
  omega

/-- What is rounded is the value of a literal, or agrees with it in nearly 64 bits. -/
theorem magnitude_eq_or_within {literal : Literal}
    (hwhole : ∀ digit ∈ literal.whole, digit.isDigit = true)
    (hfraction : ∀ digit ∈ literal.fraction.getD [], digit.isDigit = true) :
    literal.magnitude = significand literal * 10 ^ power literal ∨
      ∃ known shift, limit ≤ 10 * known + 9 ∧ Within known shift literal.magnitude ∧
        Within known shift (significand literal * 10 ^ power literal) := by
  obtain ⟨front, hfront, _, hdropped⟩ := absorb_spec 0 literal.whole
  obtain ⟨_, _, _, hunused⟩ := absorb_spec (absorb 0 literal.whole).1 (literal.fraction.getD [])
  obtain ⟨taken, htaken, hsignificand, hpower⟩ := exists_taken literal
  rw [magnitude_eq, hsignificand, hpower]
  rw [significand] at hsignificand
  rw [hfront, List.forall_mem_append] at hwhole
  rw [htaken, List.forall_mem_append] at hfraction
  generalize absorb 0 literal.whole = first at *
  cases hrest : first.2 with
  | cons digit rest =>
    -- the whole part does not fit, so its front part is what both have in common
    have hlarge := hdropped digit rest hrest
    have hnine := sub_zero_le_nine (hwhole.2 digit (by rw [hrest]; exact List.mem_cons_self))
    refine .inr ⟨first.1, _, by omega, within_ofDigitChars ?_ _ _,
      within_ofDigitChars hfraction.1 _ _⟩
    rw [← hrest, htaken, List.forall_mem_append, List.forall_mem_append]
    exact ⟨hwhole.2, hfraction⟩
  | nil =>
    rw [List.nil_append]
    cases hleft : (absorb first.1 (literal.fraction.getD [])).2 with
    | nil =>
      left
      rw [hleft, List.append_nil] at htaken
      rw [htaken]
    | cons digit rest =>
      have hlarge := hunused digit rest hleft
      have hnine := sub_zero_le_nine (hfraction.2 digit (by rw [hleft]; exact List.mem_cons_self))
      -- the digits of the fraction that fit, too, are what both have in common
      have hwithin := within_ofDigitChars hfraction.2 (Nat.ofDigitChars 10 taken first.1)
        (([] : List Char).length + exponentValue literal.exponent - taken.length)
      rw [← Nat.ofDigitChars_append, ← htaken, sub_sub, ← Nat.cast_add, ← List.length_append,
        ← htaken] at hwithin
      refine .inr ⟨_, _, by omega, hwithin, ?_⟩
      simpa using within_ofDigitChars (List.forall_mem_nil _) (Nat.ofDigitChars 10 taken first.1)
        (exponentValue literal.exponent - taken.length)

/-- Values that agree in nearly 64 bits differ by less than one in two to the power of 60. -/
theorem Within.le_of_within {known : Nat} {shift : Int} (hknown : limit ≤ 10 * known + 9)
    {left right : ℚ} (hleft : Within known shift left) (hright : Within known shift right) :
    left ≤ (1 + 1 / 2 ^ 60) * right := by
  have hlarge : (2 : ℚ) ^ 60 ≤ known := by
    have hlarge : 2 ^ 60 ≤ known := by
      rw [limit] at hknown
      omega
    exact_mod_cast hlarge
  have hunit : (2 : ℚ) ^ 60 * 10 ^ shift ≤ known * 10 ^ shift := by gcongr
  have hlt := hleft.lt
  have hle := hright.le
  linarith

/-- The value of a literal and what is rounded in its place. -/
theorem magnitude_near {literal : Literal}
    (hwhole : ∀ digit ∈ literal.whole, digit.isDigit = true)
    (hfraction : ∀ digit ∈ literal.fraction.getD [], digit.isDigit = true) :
    literal.magnitude ≤ (1 + 1 / 2 ^ 60) * (significand literal * 10 ^ power literal) ∧
      significand literal * 10 ^ power literal ≤ (1 + 1 / 2 ^ 60) * literal.magnitude := by
  rcases magnitude_eq_or_within hwhole hfraction with heq | ⟨known, shift, hknown, hleft, hright⟩
  · have hnonneg : 0 ≤ literal.magnitude := by
      rw [Literal.magnitude]
      positivity
    rw [← heq]
    constructor <;> linarith
  · exact ⟨hleft.le_of_within hknown hright, hright.le_of_within hknown hleft⟩

/-! ## The range of floating-point numbers -/

section Range

variable {literal : Literal} (hwhole : ∀ digit ∈ literal.whole, digit.isDigit = true)
  (hfraction : ∀ digit ∈ literal.fraction.getD [], digit.isDigit = true)

include hwhole hfraction

/-- A literal below the bound counts as floating point. -/
theorem floatingValue_of_le (hle : literal.magnitude ≤ (1 - 1 / 2 ^ 49) * Binary64.bound) :
    ∃ magnitude, floatingValue literal = .ok (.floating literal.negative magnitude) := by
  have hranges := Binary64.ranges_timesPowerOfTen (significand_lt literal) (power literal)
  have hnear := (magnitude_near hwhole hfraction).2
  have hbound := Binary64.bound_pos
  obtain ⟨magnitude, hmagnitude⟩ := hranges.exists_of_le (by linarith)
  exact ⟨magnitude, by rw [floatingValue_eq, hmagnitude]⟩

/-- A literal beyond the bound is no number. -/
theorem floatingValue_of_ge (hle : (1 + 1 / 2 ^ 49) * Binary64.bound ≤ literal.magnitude) :
    floatingValue literal = .error .malformed := by
  have hranges := Binary64.ranges_timesPowerOfTen (significand_lt literal) (power literal)
  have hnear := (magnitude_near hwhole hfraction).1
  have hbound := Binary64.bound_pos
  have hnone := hranges.eq_none_of_le (by linarith)
  rw [floatingValue_eq, hnone]

end Range

end Number

end HexChart.Json
