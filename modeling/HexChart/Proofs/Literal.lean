import HexChart.Proofs.Continuation

/-!
# Number literals

The texts of a number literal: a sign, the digits before the point, of which a zero stands
alone, the digits behind it and an exponent.  A literal is read from each of its texts up to
where it ends, with all of its digits (`Literal.read_spelled`).
-/

namespace HexChart.Json

/-- One digit or more. -/
def Digits (text : List Char) : Prop :=
  text ≠ [] ∧ ∀ digit ∈ text, digit.isDigit = true

namespace Literal

inductive SpelledFraction : Option (List Char) → List Char → Prop
  | none : SpelledFraction none []
  | some {digits : List Char} (hdigits : Digits digits) :
    SpelledFraction (some digits) ('.' :: digits)

/-- The sign of an exponent; no sign means plus. -/
inductive SpelledSign : Bool → List Char → Prop
  | none : SpelledSign false []
  | plus : SpelledSign false ['+']
  | minus : SpelledSign true ['-']

inductive SpelledExponent : Option (Bool × List Char) → List Char → Prop
  | none : SpelledExponent none []
  | some {letter : Char} {minus : Bool} {sign digits : List Char}
    (hletter : letter = 'e' ∨ letter = 'E') (hsign : SpelledSign minus sign)
    (hdigits : Digits digits) : SpelledExponent (some (minus, digits)) (letter :: (sign ++ digits))

/-- The sign of a literal. -/
def sign (literal : Literal) : List Char :=
  if literal.negative then ['-'] else []

/-- The texts of a literal. -/
inductive Spelled (literal : Literal) : List Char → Prop
  | mk {fraction exponent : List Char} (hwhole : Digits literal.whole)
    (hzero : ∀ next more, literal.whole ≠ '0' :: next :: more)
    (hfraction : SpelledFraction literal.fraction fraction)
    (hexponent : SpelledExponent literal.exponent exponent) :
    Spelled literal (literal.sign ++ (literal.whole ++ (fraction ++ exponent)))

/-! ## How a literal begins -/

theorem Spelled.exists_cons {literal : Literal} {text : List Char} (htext : literal.Spelled text) :
    ∃ character rest, text = character :: rest ∧ startsWith character = true := by
  cases htext with
  | mk hwhole =>
    obtain ⟨digit, digits, hdigits⟩ := List.exists_cons_of_ne_nil hwhole.1
    have hdigit : digit.isDigit = true := by
      apply hwhole.2
      rw [hdigits]
      exact List.mem_cons_self
    rw [sign, hdigits]
    split
    · exact ⟨'-', _, rfl, rfl⟩
    · exact ⟨digit, _, rfl, by simp [startsWith, hdigit]⟩

theorem isSpace_of_startsWith {character : Char} (hstarts : startsWith character = true) :
    isSpace character = false := by
  rw [startsWith, Bool.or_eq_true, beq_iff_eq] at hstarts
  rcases hstarts with rfl | hdigit
  · rfl
  · exact isSpace_of_isDigit hdigit

theorem Spelled.opens {literal : Literal} {text : List Char} (htext : literal.Spelled text) :
    Opens text := by
  obtain ⟨character, rest, rfl, hstarts⟩ := htext.exists_cons
  rw [startsWith, Bool.or_eq_true, beq_iff_eq] at hstarts
  rcases hstarts with rfl | hdigit
  · exact ⟨'-', rest, rfl, rfl, by decide, by decide⟩
  · exact opens_of_isDigit hdigit rest

/-! ## Digits alone -/

theorem SpelledFraction.isDigit_of_mem {fraction : Option (List Char)} {text : List Char}
    (htext : SpelledFraction fraction text) : ∀ digit ∈ fraction.getD [], digit.isDigit = true := by
  cases htext with
  | none => exact fun digit hmem => absurd hmem List.not_mem_nil
  | some hdigits => exact hdigits.2

theorem SpelledFraction.digits_iff {fraction : Option (List Char)} {text : List Char}
    (htext : SpelledFraction fraction text) :
    (∀ character ∈ text, character.isDigit = true) ↔ fraction = .none := by
  cases htext with
  | none => simp
  | some => simp

theorem SpelledExponent.digits_iff {exponent : Option (Bool × List Char)} {text : List Char}
    (htext : SpelledExponent exponent text) :
    (∀ character ∈ text, character.isDigit = true) ↔ exponent = .none := by
  cases htext with
  | none => simp
  | some hletter => rcases hletter with rfl | rfl <;> simp

theorem sign_digits_iff (literal : Literal) :
    (∀ character ∈ literal.sign, character.isDigit = true) ↔ literal.negative = false := by
  rw [sign]
  split <;> simp_all

section Spelled

variable {literal : Literal} {text : List Char} (htext : literal.Spelled text)

include htext

theorem Spelled.isDigit_of_mem_whole : ∀ digit ∈ literal.whole, digit.isDigit = true := by
  cases htext with
  | mk hwhole => exact hwhole.2

theorem Spelled.isDigit_of_mem_fraction :
    ∀ digit ∈ literal.fraction.getD [], digit.isDigit = true := by
  cases htext with
  | mk _ _ hfraction => exact hfraction.isDigit_of_mem

/-- Digits alone have no sign, no point and no exponent. -/
theorem Spelled.digits_iff :
    (∀ character ∈ text, character.isDigit = true) ↔
      literal.negative = false ∧ literal.fraction = none ∧ literal.exponent = none := by
  cases htext with
  | mk hwhole _ hfraction hexponent =>
    rw [List.forall_mem_append, List.forall_mem_append, List.forall_mem_append, sign_digits_iff,
      hfraction.digits_iff, hexponent.digits_iff]
    exact and_congr_right fun _ => and_iff_right hwhole.2

theorem Spelled.eq_whole (hdigits : ∀ character ∈ text, character.isDigit = true) :
    text = literal.whole := by
  obtain ⟨hnegative, hfraction, hexponent⟩ := htext.digits_iff.mp hdigits
  cases htext with
  | mk _ _ hfraction' hexponent' =>
    rw [hfraction] at hfraction'
    rw [hexponent] at hexponent'
    cases hfraction'
    cases hexponent'
    rw [sign, hnegative]
    simp

end Spelled

/-! ## Reading -/

variable {rest : List Char}

theorem SpelledExponent.stops {exponent : Option (Bool × List Char)} {text : List Char}
    (htext : SpelledExponent exponent text) (hrest : Ends rest) : Stops (text ++ rest) := by
  cases htext with
  | none => exact hrest.stops
  | some hletter =>
    apply stops_cons.mpr
    rcases hletter with rfl | rfl <;> rfl

theorem SpelledFraction.stops {fraction : Option (List Char)} {text : List Char}
    (htext : SpelledFraction fraction text) (hrest : Stops rest) : Stops (text ++ rest) := by
  cases htext with
  | none => exact hrest
  | some => exact stops_cons.mpr rfl

theorem readSign_spelled {minus : Bool} {sign digits : List Char} (hsign : SpelledSign minus sign)
    (hdigits : Digits digits) :
    readSign (sign ++ (digits ++ rest)) = (minus, digits ++ rest) := by
  cases hsign with
  | none =>
    obtain ⟨digit, digits, rfl⟩ := List.exists_cons_of_ne_nil hdigits.1
    have hdigit := hdigits.2 digit List.mem_cons_self
    rw [List.nil_append, List.cons_append, readSign]
    · rintro _ ⟨⟩
      exact absurd hdigit (by decide)
    · rintro _ ⟨⟩
      exact absurd hdigit (by decide)
  | plus => rfl
  | minus => rfl

theorem readExponent_spelled {exponent : Option (Bool × List Char)} {text : List Char}
    (htext : SpelledExponent exponent text) (hrest : Ends rest) :
    readExponent (text ++ rest) = .ok (exponent, rest) := by
  cases htext with
  | none => exact readExponent_of_ends hrest
  | some hletter hsign hdigits =>
    have hread := readDigits_append hdigits.2 hdigits.1 hrest.stops
    rw [List.cons_append, readExponent, if_pos hletter, List.append_assoc,
      readSign_spelled hsign hdigits]
    simp only [hread, Except.map]

theorem readFraction_spelled {fraction : Option (List Char)} {text : List Char}
    (htext : SpelledFraction fraction text) {exponent : Option (Bool × List Char)}
    {behind : List Char} (hbehind : SpelledExponent exponent behind) (hrest : Ends rest) :
    readFraction (text ++ (behind ++ rest)) = .ok (fraction, behind ++ rest) := by
  cases htext with
  | none =>
    cases hbehind with
    | none => exact readFraction_of_ends hrest
    | some hletter => rcases hletter with rfl | rfl <;> rfl
  | some hdigits =>
    have hread := readDigits_append hdigits.2 hdigits.1 (hbehind.stops hrest)
    rw [List.cons_append, readFraction, hread]
    rfl

/-- A literal is read from its text, whatever follows that does not go on with a number. -/
theorem read_spelled {literal : Literal} {text : List Char} (htext : literal.Spelled text)
    (hrest : Ends rest) : read (text ++ rest) = .ok (literal, rest) := by
  cases htext with
  | @mk fraction exponent hwhole hzero hfraction hexponent =>
    have hstops := hfraction.stops (hexponent.stops hrest)
    have hread : readWhole (literal.whole ++ (fraction ++ (exponent ++ rest))) =
        .ok (literal.whole, fraction ++ (exponent ++ rest)) :=
      readWhole_eq_ok.mpr ⟨readDigits_append hwhole.2 hwhole.1 hstops, hzero⟩
    have hunsigned : ∀ negative,
        readUnsigned negative (literal.whole ++ (fraction ++ (exponent ++ rest))) =
          .ok (⟨negative, literal.whole, literal.fraction, literal.exponent⟩, rest) := by
      intro negative
      rw [readUnsigned, hread]
      simp [readFraction_spelled hfraction hexponent hrest, readExponent_spelled hexponent hrest,
        bind, Except.bind, pure, Except.pure]
    obtain ⟨negative, whole, broken, power⟩ := literal
    simp only [sign, List.append_assoc]
    cases negative with
    | true => exact hunsigned true
    | false =>
      rw [if_neg Bool.false_ne_true, List.nil_append, read_of_ne_minus, hunsigned]
      -- the first character is a digit
      obtain ⟨digit, digits, rfl⟩ := List.exists_cons_of_ne_nil hwhole.1
      have hdigit := hwhole.2 digit List.mem_cons_self
      rintro unsigned ⟨⟩
      exact absurd hdigit (by decide)

end Literal

end HexChart.Json
