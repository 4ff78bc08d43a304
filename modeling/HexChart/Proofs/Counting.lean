import HexChart.Proofs.Frames
import HexChart.Proofs.Magnitude

/-!
# Counts are read exactly

A count is a natural number below the limit that is written in digits alone, and then it is
read as that number; every other literal is refused, negative integers and numbers that
count as floating point by what they are, and those out of range as no numbers at all
(`Literal.Refuses`).  This holds wherever a count may stand, so no literal is ever taken for
the number of another cell (`Form.ReadsNumbers`).
-/

namespace HexChart

open HexChart.Json

namespace Json

/-- A natural number below the limit, in digits alone. -/
structure Natural (text : List Char) : Prop where
  digits : ∀ character ∈ text, character.isDigit = true
  lt : Nat.ofDigitChars 10 text 0 < Number.limit

namespace Literal

/-- A negative integer that fits into 64 bits. -/
structure IsNegative (literal : Literal) : Prop where
  negative : literal.negative = true
  fraction : literal.fraction = none
  exponent : literal.exponent = none
  pos : 0 < Nat.ofDigitChars 10 literal.whole 0
  le : Nat.ofDigitChars 10 literal.whole 0 ≤ Number.limit / 2

/-- Why a literal that is no natural number below the limit is refused as a count.  The range
of floating-point numbers ends at its bound, up to the error of a few roundings. -/
inductive Refuses (literal : Literal) : Fault → Prop
  | negative (hnegative : literal.IsNegative) :
    Refuses literal (.mismatch
      (.wrongValue (.integer (-(Nat.ofDigitChars 10 literal.whole 0 : Nat))) "usize"))
  | floating {magnitude : Decimal.Binary64} (hnegative : ¬literal.IsNegative)
    (hvalue : Number.floatingValue literal = .ok (.floating literal.negative magnitude))
    (hlt : literal.magnitude < (1 + 1 / 2 ^ 49) * Decimal.Binary64.bound) :
    Refuses literal (.mismatch (.wrongType (.floating literal.negative magnitude) "usize"))
  | outOfRange (hvalue : Number.floatingValue literal = .error .malformed)
    (hlt : (1 - 1 / 2 ^ 49) * Decimal.Binary64.bound < literal.magnitude) :
    Refuses literal .malformed

theorem IsNegative.magnitude_lt {literal : Literal} (hnegative : literal.IsNegative) :
    literal.magnitude < (1 - 1 / 2 ^ 49) * Decimal.Binary64.bound := by
  have hle : (Nat.ofDigitChars 10 literal.whole 0 : ℚ) ≤ 10 ^ 20 := by
    have hle := hnegative.le
    rw [Number.limit] at hle
    exact_mod_cast hle.trans (by norm_num)
  have hbound := Decimal.Binary64.bound_pos
  have hten := Decimal.Binary64.ten_pow_lt (show 21 ≤ Decimal.Binary64.maxPower by decide)
  rw [magnitude, hnegative.fraction, hnegative.exponent]
  simp only [Option.getD_none, List.append_nil, Number.exponentValue, List.length_nil,
    Nat.cast_zero, sub_zero, zpow_zero, mul_one]
  linarith

namespace Refuses

variable {literal : Literal} {fault : Fault} (hrefuses : literal.Refuses fault)

include hrefuses

theorem eq_wrongValue (hnegative : literal.IsNegative) :
    fault = .mismatch
      (.wrongValue (.integer (-(Nat.ofDigitChars 10 literal.whole 0 : Nat))) "usize") := by
  cases hrefuses with
  | negative => rfl
  | floating hother => exact absurd hnegative hother
  | outOfRange _ hlt => exact absurd hlt hnegative.magnitude_lt.not_gt

/-- In range, a literal that is no integer of 64 bits counts as floating point. -/
theorem exists_wrongType (hnegative : ¬literal.IsNegative)
    (hle : literal.magnitude ≤ (1 - 1 / 2 ^ 49) * Decimal.Binary64.bound) :
    ∃ magnitude,
      fault = .mismatch (.wrongType (.floating literal.negative magnitude) "usize") := by
  cases hrefuses with
  | negative hother => exact absurd hother hnegative
  | @floating magnitude => exact ⟨magnitude, rfl⟩
  | outOfRange _ hlt => exact absurd hlt (not_lt.mpr hle)

theorem eq_malformed (hle : (1 + 1 / 2 ^ 49) * Decimal.Binary64.bound ≤ literal.magnitude) :
    fault = .malformed := by
  cases hrefuses with
  | negative hnegative =>
    have hlt := hnegative.magnitude_lt
    have hbound := Decimal.Binary64.bound_pos
    exact absurd hle (by linarith)
  | floating _ _ hlt => exact absurd hlt (not_lt.mpr hle)
  | outOfRange => rfl

end Refuses

/-- A literal is taken as a count if it is a natural number. -/
def count (literal : Literal) : Except Fault Nat :=
  match Number.ofLiteral literal with
  | .ok (.natural value) => .ok value
  | .ok (.negative magnitude) =>
    .error (.mismatch (.wrongValue (.integer (-magnitude)) "usize"))
  | .ok (.floating negative magnitude) =>
    .error (.mismatch (.wrongType (.floating negative magnitude) "usize"))
  | .error fault => .error fault

section Counts

variable {literal : Literal} {text : List Char} (htext : literal.Spelled text)

include htext

theorem takes_count : Reader.Takes Reader.count text (literal.count.map .count) := by
  intro gap rest hgap hrest
  have hread := read_spelled htext hrest
  obtain ⟨character, more, rfl, hstarts⟩ := htext.exists_cons
  have hspace := isSpace_of_startsWith hstarts
  rw [Reader.count, skipSpace_append hgap, List.cons_append, skipSpace_cons hspace]
  rw [List.cons_append] at hread
  simp only [hstarts, if_true, readNumber, hread, count, bind, Except.bind]
  cases Number.ofLiteral literal with
  | error fault => rfl
  | ok number => cases number <;> rfl

/-- A natural number below the limit is taken exactly. -/
theorem count_natural (hnatural : Natural text) :
    literal.count = .ok (Nat.ofDigitChars 10 text 0) := by
  obtain ⟨hnegative, hfraction, hexponent⟩ := htext.digits_iff.mp hnatural.digits
  have hlt := hnatural.lt
  rw [htext.eq_whole hnatural.digits] at hlt ⊢
  rw [count, Number.ofLiteral, hfraction, hexponent, Number.absorb_of_lt hlt]
  simp [hnegative]

theorem ofLiteral_floating (hnatural : ¬Natural text) (hnegative : ¬literal.IsNegative) :
    Number.ofLiteral literal = Number.floatingValue literal := by
  unfold Number.ofLiteral
  split
  · next value hfraction hexponent habsorb =>
    obtain ⟨hvalue, hlt⟩ := Number.eq_of_absorb_eq habsorb
    split
    · next hplain =>
      -- digits alone, whose value stays below the limit
      have hdigits := htext.digits_iff.mpr ⟨by simpa using hplain, hfraction, hexponent⟩
      refine absurd ⟨hdigits, ?_⟩ hnatural
      rwa [htext.eq_whole hdigits, ← hvalue]
    · next hminus =>
      split
      · next hrange =>
        rw [hvalue] at hrange
        exact absurd ⟨by simpa using hminus, hfraction, hexponent, hrange.1, hrange.2⟩ hnegative
      · rfl
  · rfl

theorem count_refused (hnatural : ¬Natural text) :
    ∃ fault, literal.Refuses fault ∧ literal.count = .error fault := by
  by_cases hnegative : literal.IsNegative
  · refine ⟨_, .negative hnegative, ?_⟩
    have hlt : Nat.ofDigitChars 10 literal.whole 0 < Number.limit := by
      have hle := hnegative.le
      rw [Number.limit] at hle ⊢
      omega
    rw [count, Number.ofLiteral, hnegative.fraction, hnegative.exponent, Number.absorb_of_lt hlt]
    simp [hnegative.negative, hnegative.pos, hnegative.le]
  · have hfloating := ofLiteral_floating htext hnatural hnegative
    have hwhole := htext.isDigit_of_mem_whole
    have hfraction := htext.isDigit_of_mem_fraction
    rcases Number.floatingValue_eq_ok_or literal with ⟨magnitude, hvalue⟩ | hvalue
    · refine ⟨_, .floating hnegative hvalue ?_, by rw [count, hfloating, hvalue]⟩
      by_contra hlarge
      rw [Number.floatingValue_of_ge hwhole hfraction (not_lt.mp hlarge)] at hvalue
      cases hvalue
    · refine ⟨_, .outOfRange hvalue ?_, by rw [count, hfloating, hvalue]⟩
      by_contra hsmall
      obtain ⟨magnitude, hnumber⟩ :=
        Number.floatingValue_of_le hwhole hfraction (not_lt.mp hsmall)
      rw [hnumber] at hvalue
      cases hvalue

end Counts

end Literal

theorem Reader.Takes.whole_eq {reader : Reader Datum} {text : List Char}
    {outcome : Except Fault Datum} (htakes : reader.Takes text outcome) {before after : List Char}
    (hbefore : Blank before) (hafter : Blank after) :
    reader.whole (before ++ (text ++ after)) = outcome := by
  have hends : Ends after := by simpa using ends_append hafter ends_nil
  rw [whole, htakes before after hbefore hends]
  cases outcome with
  | error fault => rfl
  | ok datum => simp [skipSpace_blank hafter, Except.map, bind, Except.bind]

namespace Form

variable {α : Type}

/-- How a form decodes a text with a number literal in the place of a count. -/
structure ReadsNumbers (form : Form α) : Prop where
  /-- A natural number below the limit is decoded to exactly that number. -/
  exact : ∀ {fill front back}, Reader.Frame form.reader fill front back →
    ∀ {literal : Literal} {text}, literal.Spelled text → ∀ {before after}, Blank before →
      Blank after → Natural text →
        ∃ value, form.toDatum value = fill (Nat.ofDigitChars 10 text 0) ∧
          form.decode (String.ofList (before ++ front ++ text ++ back ++ after)) = .ok value
  /-- Every other literal is refused, for what it is. -/
  refused : ∀ {fill front back}, Reader.Frame form.reader fill front back →
    ∀ {literal : Literal} {text}, literal.Spelled text → ∀ {before after}, Blank before →
      Blank after → ¬Natural text →
        ∃ fault, literal.Refuses fault ∧
          form.decode (String.ofList (before ++ front ++ text ++ back ++ after)) = .error fault

theorem IsRecord.regular {form : Form α} {name : String} {fields : List Reader.Field}
    (hrecord : form.IsRecord name fields) : Reader.Regular fields :=
  ⟨hrecord.nodup, hrecord.steady⟩

theorem whole_frame {reader : Reader Datum} {fill : Nat → Datum} {front back : List Char}
    (hframe : reader.Frame fill front back) {literal : Literal} {text : List Char}
    (htext : literal.Spelled text) {before after : List Char} (hbefore : Blank before)
    (hafter : Blank after) :
    reader.whole (before ++ front ++ text ++ back ++ after) = literal.count.map fill := by
  have htakes := hframe.takes htext.opens (Literal.takes_count htext)
  simpa only [List.append_assoc] using htakes.whole_eq hbefore hafter

theorem Total.readsNumbers {form : Form α} (htotal : form.Total) : form.ReadsNumbers where
  exact {fill front back} hframe {literal text} htext {before after} hbefore hafter hnatural := by
    have hwhole := whole_frame hframe htext hbefore hafter
    rw [Literal.count_natural htext hnatural] at hwhole
    obtain ⟨value, hvalue, hdatum⟩ := htotal _ (Reader.answers_of_whole hwhole)
    refine ⟨value, hdatum, ?_⟩
    rw [decode, String.toList_ofList, hwhole]
    simp only [Except.map, Except.bind, ofDatum, hvalue]
  refused {fill front back} hframe {literal text} htext {before after} hbefore hafter hnatural := by
    have hwhole := whole_frame hframe htext hbefore hafter
    obtain ⟨fault, hrefuses, hfault⟩ := Literal.count_refused htext hnatural
    refine ⟨fault, hrefuses, ?_⟩
    rw [decode, String.toList_ofList, hwhole, hfault]
    rfl

end Form

end Json

/-- Numbers of cells and counts are read exactly or refused, wherever they stand in a text
that can be decoded otherwise. -/
theorem numbers_exact_or_refused :
    CellRef.form.ReadsNumbers ∧ Census.form.ReadsNumbers ∧ Link.edgeForm.ReadsNumbers ∧
      Link.oneWayForm.ReadsNumbers ∧ Graph.form.ReadsNumbers :=
  ⟨CellRef.isRecord_form.total.readsNumbers, Census.isRecord_form.total.readsNumbers,
    (Link.isRecord_form "EdgeStatement").total.readsNumbers,
    (Link.isRecord_form "OneWayLink").total.readsNumbers, Graph.isRecord_form.total.readsNumbers⟩

/-! ## Numbers of cells in arrays -/

/-- The number of a reference that is an array. -/
theorem CellRef.frame_index {kind : Kind} {text : List Char}
    (htext : (Kind.form.toDatum kind).Spelled text) :
    Reader.Frame form.reader (fun value => form.toDatum ⟨kind, value⟩) ('[' :: (text ++ [',']))
      [']'] := by
  have hkind := (Kind.readsBack_form kind).reads.tells htext
  have haround : Around ']' [text] [] (text ++ [',']) [']'] := by
    intro part
    simpa using Enclosed.part (.first blank_nil)
      (Enclosed.part (.next blank_nil blank_nil) (.close blank_nil))
  have hframe := @Reader.Frame.element "CellRef" [("kind", Kind.form.reader)] [] ("index", .count)
    .count _ _ _ _ [("kind", Kind.form.toDatum kind)] [] [text] [] isRecord_form.regular .count
    (.cons hkind .nil) .nil haround
  rw [List.append_nil] at hframe
  exact hframe

/-- The number of the source of a link, when both are arrays. -/
theorem Link.frame_source (name : String) {kind : Kind} {direction : Direction} {target : CellRef}
    (hfits : target.Fits) {first second third : List Char}
    (hfirst : (Kind.form.toDatum kind).Spelled first)
    (hsecond : (Direction.form.toDatum direction).Spelled second)
    (hthird : (CellRef.form.toDatum target).Spelled third) :
    Reader.Frame (form name).reader
      (fun value => (form name).toDatum ⟨⟨kind, value⟩, direction, target⟩)
      ('[' :: '[' :: (first ++ [','])) (']' :: ',' :: (second ++ ',' :: (third ++ [']']))) := by
  have hdirection := (Direction.readsBack_form direction).reads.tells hsecond
  have htarget := (CellRef.readsBack_form hfits).reads.tells hthird
  have haround : Around ']' [] [second, third] [] (',' :: (second ++ ',' :: (third ++ [']']))) :=
    fun part => .part (.first blank_nil) (.part (.next blank_nil blank_nil)
      (.part (.next blank_nil blank_nil) (.close blank_nil)))
  exact @Reader.Frame.element name []
    [("direction", Direction.form.reader), ("to", CellRef.form.reader)]
    ("from", CellRef.form.reader) _ _ _ _ _ []
    [("direction", Direction.form.toDatum direction), ("to", CellRef.form.toDatum target)] [] _
    (isRecord_form name).regular (CellRef.frame_index hfirst) .nil
    (.cons hdirection (.cons htarget .nil)) haround

/-- The number of the source of an edge: the greatest that fits, the next one, a negative one
and one that is out of range. -/
theorem numbers_exact_or_refused_of_edge :
    Link.edgeForm.decode "[[\"road\",18446744073709551615],\"Clock2\",[\"tile\",0]]" =
        .ok ⟨⟨.road, 18446744073709551615⟩, .clock2, ⟨.tile, 0⟩⟩ ∧
      (∃ magnitude,
        Link.edgeForm.decode "[[\"road\",18446744073709551616],\"Clock2\",[\"tile\",0]]" =
          .error (.mismatch (.wrongType (.floating false magnitude) "usize"))) ∧
      Link.edgeForm.decode "[[\"road\",-1],\"Clock2\",[\"tile\",0]]" =
        .error (.mismatch (.wrongValue (.integer (-1)) "usize")) ∧
      Link.edgeForm.decode "[[\"road\",1e400],\"Clock2\",[\"tile\",0]]" = .error .malformed := by
  have hnumbers := numbers_exact_or_refused.2.2.1
  have htile : (CellRef.form.toDatum ⟨.tile, 0⟩).Spelled
      ('[' :: (quoted "tile" ++ [',', '0', ']'])) :=
    .array (.cons (.choice (spelledString_quoted "tile")) (.cons (.count 0) .nil))
      (.part (.first blank_nil) (.part (.next blank_nil blank_nil) (.close blank_nil)))
  have hroad : (Kind.form.toDatum .road).Spelled (quoted "road") :=
    .choice (spelledString_quoted "road")
  have hclock : (Direction.form.toDatum .clock2).Spelled (quoted "Clock2") :=
    .choice (spelledString_quoted "Clock2")
  have hframe := Link.frame_source "EdgeStatement" (by decide) hroad hclock htile
  have hten := Decimal.Binary64.ten_pow_lt (show 20 ≤ Decimal.Binary64.maxPower by decide)
  refine ⟨?_, ?_, ?_, ?_⟩
  · have hliteral : Literal.Spelled ⟨false, ['1', '8', '4', '4', '6', '7', '4', '4', '0', '7',
      '3', '7', '0', '9', '5', '5', '1', '6', '1', '5'], none, none⟩ _ :=
      .mk ⟨by decide, List.all_eq_true.mp rfl⟩ (by simp) .none .none
    obtain ⟨value, hvalue, hdecode⟩ := hnumbers.exact hframe hliteral blank_nil blank_nil
      ⟨List.all_eq_true.mp rfl, by decide⟩
    have hlink : value = ⟨⟨.road, 18446744073709551615⟩, .clock2, ⟨.tile, 0⟩⟩ := by
      apply Option.some.inj
      rw [← Link.ofDatum?_toDatum "EdgeStatement", ← Link.ofDatum?_toDatum "EdgeStatement"]
      exact congrArg _ hvalue
    rw [hlink] at hdecode
    exact hdecode
  · have hliteral : Literal.Spelled ⟨false, ['1', '8', '4', '4', '6', '7', '4', '4', '0', '7',
      '3', '7', '0', '9', '5', '5', '1', '6', '1', '6'], none, none⟩ _ :=
      .mk ⟨by decide, List.all_eq_true.mp rfl⟩ (by simp) .none .none
    obtain ⟨fault, hrefuses, hdecode⟩ := hnumbers.refused hframe hliteral blank_nil blank_nil
      fun hnatural => absurd hnatural.lt (by decide)
    have hvalue : Nat.ofDigitChars 10 ['1', '8', '4', '4', '6', '7', '4', '4', '0', '7',
      '3', '7', '0', '9', '5', '5', '1', '6', '1', '6'] 0 =
      18446744073709551616 := by decide
    obtain ⟨magnitude, rfl⟩ := hrefuses.exists_wrongType
      (fun hnegative => nomatch hnegative.negative) (by
        norm_num [Literal.magnitude, Number.exponentValue, hvalue]
        linarith)
    exact ⟨magnitude, hdecode⟩
  · have hliteral : Literal.Spelled ⟨true, ['1'], none, none⟩ _ :=
      .mk ⟨by decide, List.all_eq_true.mp rfl⟩ (by simp) .none .none
    obtain ⟨fault, hrefuses, hdecode⟩ := hnumbers.refused hframe hliteral blank_nil blank_nil
      fun hnatural => absurd (hnatural.digits '-' (by decide)) (by decide)
    rw [hrefuses.eq_wrongValue ⟨rfl, rfl, rfl, by decide, by decide⟩] at hdecode
    exact hdecode
  · have hliteral : Literal.Spelled ⟨false, ['1'], none, some (false, ['4', '0', '0'])⟩ _ :=
      .mk ⟨by decide, List.all_eq_true.mp rfl⟩ (by simp) .none
        (.some (.inl rfl) .none ⟨by decide, List.all_eq_true.mp rfl⟩)
    obtain ⟨fault, hrefuses, hdecode⟩ := hnumbers.refused hframe hliteral blank_nil blank_nil
      fun hnatural => absurd (hnatural.digits 'e' (by decide)) (by decide)
    have hlarge := Decimal.Binary64.bound_le_ten_pow
      (show Decimal.Binary64.maxPower < 399 by decide)
    have hvalue : Nat.ofDigitChars 10 ['1'] 0 = 1 := rfl
    have hexponent : Nat.ofDigitChars 10 ['4', '0', '0'] 0 = 399 + 1 := rfl
    rw [hrefuses.eq_malformed] at hdecode
    · exact hdecode
    · simp only [Literal.magnitude, Number.exponentValue, Option.getD_none, List.append_nil,
        hvalue, hexponent, Bool.false_eq_true, if_false, List.length_nil, Nat.cast_zero, sub_zero,
        zpow_natCast, pow_succ (10 : ℚ) 399, Nat.cast_one]
      have hbound := Decimal.Binary64.bound_pos
      generalize (10 : ℚ) ^ 399 = large at hlarge ⊢
      linarith

end HexChart
