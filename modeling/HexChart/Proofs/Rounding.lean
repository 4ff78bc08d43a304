import HexChart.Decimal.Binary64
import Mathlib.Algebra.Order.Field.Power
import Mathlib.Data.Rat.Cast.Order
import Mathlib.Tactic.FieldSimp
import Mathlib.Tactic.Linarith
import Mathlib.Tactic.Positivity
import Mathlib.Tactic.Ring

/-!
# Rounding to the nearest number

Every operation rounds the exact quotient of two natural numbers.  What it gives differs
from the quotient by half a unit of the last place at most, and it gives nothing exactly
where the quotient leaves the range (`Binary64.Rounds`).  The error of a product or of a
quotient is bounded by that alone, and so is the error of the few steps that multiply by a
power of ten (`Binary64.ranges_timesPowerOfTen`).
-/

namespace HexChart.Decimal

/-- Rounding moves a quotient by half a whole at most. -/
theorem roundHalfEven_bounds (numerator : Nat) {denominator : Nat} (hpositive : 0 < denominator) :
    2 * (denominator * roundHalfEven numerator denominator) ≤ 2 * numerator + denominator ∧
      2 * numerator ≤ 2 * (denominator * roundHalfEven numerator denominator) + denominator := by
  have hdivision := Nat.div_add_mod numerator denominator
  have hremainder := Nat.mod_lt numerator hpositive
  rw [roundHalfEven]
  split
  · rw [Nat.mul_add]
    omega
  · omega

theorem abs_roundHalfEven_sub_le (numerator : Nat) {denominator : Nat}
    (hpositive : 0 < denominator) :
    |(roundHalfEven numerator denominator : ℚ) - numerator / denominator| ≤ 1 / 2 := by
  obtain ⟨hupper, hlower⟩ := roundHalfEven_bounds numerator hpositive
  have hdenominator : (0 : ℚ) < denominator := Nat.cast_pos.mpr hpositive
  have hupper' : 2 * ((denominator : ℚ) * roundHalfEven numerator denominator) ≤
      2 * numerator + denominator := by exact_mod_cast hupper
  have hlower' : 2 * (numerator : ℚ) ≤
      2 * (denominator * roundHalfEven numerator denominator) + denominator := by
    exact_mod_cast hlower
  have hquotient : (numerator : ℚ) = numerator / denominator * denominator := by field_simp
  rw [hquotient] at hupper' hlower'
  rw [abs_le]
  constructor
  · by_contra hless
    nlinarith
  · by_contra hmore
    nlinarith

namespace Binary64

/-- The value of a number. -/
def toRat (number : Binary64) : ℚ :=
  number.mantissa * 2 ^ number.exponent

theorem toRat_nonneg (number : Binary64) : 0 ≤ number.toRat := by
  rw [toRat]
  positivity

/-- The least power of two that is out of range. -/
@[irreducible]
def bound : ℚ := 2 ^ 1024

theorem bound_pos : 0 < bound := by
  rw [bound]
  positivity

theorem bound_eq : bound = 2 ^ 53 * 2 ^ maxExponent := by
  rw [bound, maxExponent, ← zpow_natCast, ← zpow_natCast, ← zpow_add₀ (by norm_num)]
  norm_num

theorem scaled_ratio (numerator : Nat) {denominator : Nat} (hpositive : 0 < denominator)
    (exponent : Int) :
    0 < (scaled numerator denominator exponent).2 ∧
      ((scaled numerator denominator exponent).1 : ℚ) / (scaled numerator denominator exponent).2 =
        numerator / denominator / 2 ^ exponent := by
  have hdenominator : (denominator : ℚ) ≠ 0 := by positivity
  rcases lt_or_ge exponent 0 with hnegative | hnonneg
  · obtain ⟨size, rfl⟩ : ∃ size : Nat, exponent = -size := ⟨exponent.natAbs, by omega⟩
    rw [scaled, if_pos hnegative]
    refine ⟨hpositive, ?_⟩
    rw [Int.natAbs_neg, Int.natAbs_natCast, Nat.shiftLeft_eq, zpow_neg, zpow_natCast]
    push_cast
    field_simp
  · obtain ⟨size, rfl⟩ := Int.eq_ofNat_of_zero_le hnonneg
    rw [scaled, if_neg (by omega)]
    rw [Int.natAbs_natCast, Nat.shiftLeft_eq, zpow_natCast]
    refine ⟨by positivity, ?_⟩
    push_cast
    field_simp

/-- A mantissa that has been rounded up to 54 bits is taken to the next exponent. -/
def carry (mantissa : Nat) (exponent : Int) : Binary64 :=
  if mantissa = 2 * leastMantissa then ⟨leastMantissa, exponent + 1⟩ else ⟨mantissa, exponent⟩

theorem toRat_carry (mantissa : Nat) (exponent : Int) :
    (carry mantissa exponent).toRat = mantissa * 2 ^ exponent := by
  rw [carry]
  split
  · next hcarry =>
    rw [hcarry, toRat, zpow_add_one₀ (by norm_num)]
    push_cast
    ring
  · rfl

/-- A value between two powers of two is rounded to a whole multiple of the unit between
them; below the least exponent the unit stays the same. -/
structure Rounds (exact : ℚ) (mantissa : Nat) (exponent : Int) : Prop where
  least : minExponent ≤ exponent
  lt : exact < 2 ^ 53 * 2 ^ exponent
  le : minExponent < exponent → 2 ^ 52 * 2 ^ exponent ≤ exact
  near : |mantissa * 2 ^ exponent - exact| ≤ 2 ^ exponent / 2

/-- The quotient of two numbers lies between the powers of two that their sizes tell. -/
theorem log2_ratio {numerator denominator : Nat} (hnumerator : numerator ≠ 0)
    (hdenominator : denominator ≠ 0) :
    2 ^ ((Nat.log2 numerator : Int) - Nat.log2 denominator - 1) < (numerator : ℚ) / denominator ∧
      (numerator : ℚ) / denominator <
        2 ^ ((Nat.log2 numerator : Int) - Nat.log2 denominator + 1) := by
  have hlow : (2 : ℚ) ^ Nat.log2 numerator ≤ numerator := by
    exact_mod_cast Nat.log2_self_le hnumerator
  have hhigh : (numerator : ℚ) < 2 ^ (Nat.log2 numerator + 1) := by
    exact_mod_cast Nat.lt_log2_self
  have hlow' : (2 : ℚ) ^ Nat.log2 denominator ≤ denominator := by
    exact_mod_cast Nat.log2_self_le hdenominator
  have hhigh' : (denominator : ℚ) < 2 ^ (Nat.log2 denominator + 1) := by
    exact_mod_cast Nat.lt_log2_self
  have hpositive : (0 : ℚ) < denominator := by positivity
  have hpower : (0 : ℚ) < 2 ^ Nat.log2 denominator := by positivity
  have htwo : (2 : ℚ) ≠ 0 := by norm_num
  constructor
  · rw [zpow_sub_one₀ htwo, zpow_sub₀ htwo, zpow_natCast, zpow_natCast, lt_div_iff₀ hpositive]
    calc
      (2 : ℚ) ^ Nat.log2 numerator / 2 ^ Nat.log2 denominator * 2⁻¹ * denominator
      _ < 2 ^ Nat.log2 numerator / 2 ^ Nat.log2 denominator * 2⁻¹ *
          2 ^ (Nat.log2 denominator + 1) := by gcongr
      _ = 2 ^ Nat.log2 numerator := by
        rw [pow_succ]
        field_simp
      _ ≤ numerator := hlow
  · rw [zpow_add_one₀ htwo, zpow_sub₀ htwo, zpow_natCast, zpow_natCast, div_lt_iff₀ hpositive]
    calc
      (numerator : ℚ)
      _ < 2 ^ (Nat.log2 numerator + 1) := hhigh
      _ = 2 ^ Nat.log2 numerator / 2 ^ Nat.log2 denominator * 2 * 2 ^ Nat.log2 denominator := by
        rw [pow_succ]
        field_simp
      _ ≤ 2 ^ Nat.log2 numerator / 2 ^ Nat.log2 denominator * 2 * denominator := by gcongr

/-- The exponent of the unit that leaves 53 bits of a quotient. -/
def fullExponent (numerator denominator : Nat) : Int :=
  let guess : Int := (Nat.log2 numerator : Int) - Nat.log2 denominator - 52
  let (numer, denom) := scaled numerator denominator guess
  if numer < leastMantissa * denom then guess - 1 else guess

/-- In its unit, a quotient has 53 bits before the point. -/
theorem fullExponent_bounds {numerator denominator : Nat} (hnumerator : numerator ≠ 0)
    (hdenominator : denominator ≠ 0) :
    2 ^ 52 * 2 ^ fullExponent numerator denominator ≤ (numerator : ℚ) / denominator ∧
      (numerator : ℚ) / denominator < 2 ^ 53 * 2 ^ fullExponent numerator denominator := by
  obtain ⟨hlow, hhigh⟩ := log2_ratio hnumerator hdenominator
  obtain ⟨guess, hguess⟩ :
    ∃ guess : Int, guess = (Nat.log2 numerator : Int) - Nat.log2 denominator - 52 := ⟨_, rfl⟩
  obtain ⟨hpositive, hratio⟩ := scaled_ratio numerator (Nat.pos_of_ne_zero hdenominator) guess
  have hdenom : (0 : ℚ) < (scaled numerator denominator guess).2 := Nat.cast_pos.mpr hpositive
  have hpower : (0 : ℚ) < 2 ^ guess := by positivity
  -- the comparison of the scaled quotient with the least mantissa, in terms of the value
  have hsmall : (scaled numerator denominator guess).1 <
      leastMantissa * (scaled numerator denominator guess).2 ↔
        (numerator : ℚ) / denominator < 2 ^ 52 * 2 ^ guess := by
    rw [← div_lt_iff₀ hpower, ← hratio, div_lt_iff₀ hdenom, leastMantissa]
    norm_cast
  have hexponents : (Nat.log2 numerator : Int) - Nat.log2 denominator = 52 + guess := by omega
  have hfull : fullExponent numerator denominator =
      if (scaled numerator denominator guess).1 <
        leastMantissa * (scaled numerator denominator guess).2 then guess - 1 else guess := by
    rw [hguess]
    rfl
  have htwo : (2 : ℚ) ≠ 0 := by norm_num
  rw [hexponents, zpow_sub_one₀ htwo, zpow_add₀ htwo] at hlow
  rw [hexponents, zpow_add_one₀ htwo, zpow_add₀ htwo] at hhigh
  rw [hfull]
  split
  · next hless =>
    have hless' := hsmall.mp hless
    rw [zpow_sub_one₀ htwo]
    constructor <;> linarith
  · next hmore =>
    have hmore' := not_lt.mp (mt hsmall.mpr hmore)
    constructor <;> linarith

/-- The exponent of the unit to which a quotient is rounded. -/
def unitExponent (numerator denominator : Nat) : Int :=
  max minExponent (fullExponent numerator denominator)

/-- The number of units to which a quotient is rounded. -/
def unitMantissa (numerator denominator : Nat) : Nat :=
  roundHalfEven (scaled numerator denominator (unitExponent numerator denominator)).1
    (scaled numerator denominator (unitExponent numerator denominator)).2

theorem rounds_unit {numerator denominator : Nat} (hnumerator : numerator ≠ 0)
    (hdenominator : denominator ≠ 0) :
    Rounds (numerator / denominator) (unitMantissa numerator denominator)
      (unitExponent numerator denominator) := by
  obtain ⟨hlow, hhigh⟩ := fullExponent_bounds hnumerator hdenominator
  have hpower : (0 : ℚ) < 2 ^ unitExponent numerator denominator := by positivity
  refine ⟨le_max_left _ _, ?_, ?_, ?_⟩
  · calc
      (numerator : ℚ) / denominator
      _ < 2 ^ 53 * 2 ^ fullExponent numerator denominator := hhigh
      _ ≤ 2 ^ 53 * 2 ^ unitExponent numerator denominator := by
        have hle : fullExponent numerator denominator ≤ unitExponent numerator denominator :=
          le_max_right _ _
        gcongr
        norm_num
  · intro hmore
    have hfull : unitExponent numerator denominator = fullExponent numerator denominator := by
      rw [unitExponent] at hmore ⊢
      omega
    rwa [hfull]
  · obtain ⟨hpositive, hratio⟩ := scaled_ratio numerator (Nat.pos_of_ne_zero hdenominator)
      (unitExponent numerator denominator)
    have hnear := abs_roundHalfEven_sub_le
      (scaled numerator denominator (unitExponent numerator denominator)).1 hpositive
    rw [hratio] at hnear
    calc
      |unitMantissa numerator denominator * (2 : ℚ) ^ unitExponent numerator denominator -
          numerator / denominator|
      _ = |unitMantissa numerator denominator -
            (numerator : ℚ) / denominator / 2 ^ unitExponent numerator denominator| *
          2 ^ unitExponent numerator denominator := by
        rw [← abs_of_pos hpower, ← abs_mul, abs_of_pos hpower, sub_mul,
          div_mul_cancel₀ _ hpower.ne']
      _ ≤ 1 / 2 * 2 ^ unitExponent numerator denominator := by gcongr; exact hnear
      _ = 2 ^ unitExponent numerator denominator / 2 := by ring

theorem nearest_eq {numerator : Nat} (hnumerator : numerator ≠ 0) (denominator : Nat) :
    nearest numerator denominator =
      if maxExponent <
          (carry (unitMantissa numerator denominator) (unitExponent numerator denominator)).exponent
      then none
      else
        some (carry (unitMantissa numerator denominator) (unitExponent numerator denominator)) := by
  rw [nearest, if_neg hnumerator]
  rfl

theorem exponent_le_carry (mantissa : Nat) (exponent : Int) :
    exponent ≤ (carry mantissa exponent).exponent := by
  rw [carry]
  split
  · exact Int.le_add_one (le_refl _)
  · exact le_refl _

namespace Rounds

variable {exact : ℚ} {mantissa : Nat} {exponent : Int}

/-- A value that is rounded out of range is at most half a unit below the bound. -/
theorem le_of_carry_exponent (hrounds : Rounds exact mantissa exponent)
    (hcarry : maxExponent < (carry mantissa exponent).exponent) :
    (1 - 1 / 2 ^ 54) * bound ≤ exact := by
  rw [bound_eq]
  rw [carry] at hcarry
  split at hcarry
  · next hmantissa =>
    have hexponent : maxExponent ≤ exponent := Int.le_of_lt_add_one hcarry
    have hpower : (2 : ℚ) ^ maxExponent ≤ 2 ^ exponent :=
      zpow_le_zpow_right₀ (by norm_num) hexponent
    have hnear := (abs_le.mp hrounds.near).2
    rw [hmantissa, leastMantissa] at hnear
    push_cast at hnear
    linarith
  · have hexponent : maxExponent + 1 ≤ exponent := hcarry
    have hpower : (2 : ℚ) ^ maxExponent * 2 ≤ 2 ^ exponent := by
      rw [← zpow_add_one₀ (by norm_num)]
      exact zpow_le_zpow_right₀ (by norm_num) hexponent
    have hpositive : (0 : ℚ) < 2 ^ maxExponent := by positivity
    have hle := hrounds.le (lt_of_lt_of_le (by decide) hexponent)
    linarith

theorem lt_carry_exponent (hrounds : Rounds exact mantissa exponent) (hle : bound ≤ exact) :
    maxExponent < (carry mantissa exponent).exponent := by
  refine lt_of_lt_of_le ?_ (exponent_le_carry mantissa exponent)
  have hlt := lt_of_le_of_lt hle hrounds.lt
  rw [bound_eq, mul_lt_mul_iff_right₀ (by norm_num)] at hlt
  exact (zpow_lt_zpow_iff_right₀ (by norm_num)).mp hlt

theorem unit_le (hrounds : Rounds exact mantissa exponent) (hnonneg : 0 ≤ exact) :
    (2 : ℚ) ^ exponent / 2 ≤ (exact + 1) / 2 ^ 53 := by
  rcases hrounds.least.lt_or_eq with hmore | heq
  · have hle := hrounds.le hmore
    linarith
  · calc
      (2 : ℚ) ^ exponent / 2
      _ ≤ 2 ^ (-52 : Int) / 2 := by
        rw [← heq]
        gcongr
        · norm_num
        · decide
      _ = (0 + 1) / 2 ^ 53 := by norm_num
      _ ≤ (exact + 1) / 2 ^ 53 := by gcongr

end Rounds

/-- What rounding makes of a value: a number that is near, or nothing out of range. -/
structure Approximates (exact : ℚ) (outcome : Option Binary64) : Prop where
  exists_of_lt : exact < (1 - 1 / 2 ^ 54) * bound → ∃ number, outcome = some number
  eq_none_of_le : bound ≤ exact → outcome = none
  near : ∀ {number}, outcome = some number → |number.toRat - exact| ≤ (exact + 1) / 2 ^ 53

theorem approximates_nearest (numerator : Nat) {denominator : Nat} (hpositive : 0 < denominator) :
    Approximates (numerator / denominator) (nearest numerator denominator) := by
  rcases eq_or_ne numerator 0 with rfl | hnumerator
  · have hzero : ((0 : Nat) : ℚ) / denominator = 0 := by simp
    rw [hzero, nearest, if_pos rfl]
    refine ⟨fun _ => ⟨zero, rfl⟩, fun hle => ?_, ?_⟩
    · exact absurd hle (by norm_num [bound])
    · rintro number ⟨⟩
      norm_num [toRat, zero]
  · have hrounds := rounds_unit hnumerator hpositive.ne'
    have hnonneg : (0 : ℚ) ≤ numerator / denominator := by positivity
    rw [nearest_eq hnumerator]
    refine ⟨fun hlt => ?_, fun hle => ?_, ?_⟩
    · rw [if_neg fun hcarry => absurd (hrounds.le_of_carry_exponent hcarry) (not_le.mpr hlt)]
      exact ⟨_, rfl⟩
    · rw [if_pos (hrounds.lt_carry_exponent hle)]
    · intro number hnumber
      split at hnumber
      · cases hnumber
      · cases hnumber
        rw [toRat_carry]
        exact hrounds.near.trans (hrounds.unit_le hnonneg)

/-! ## Products and quotients -/

theorem toFraction_ratio (number : Binary64) :
    0 < number.toFraction.2 ∧
      (number.toFraction.1 : ℚ) / number.toFraction.2 = number.toRat := by
  obtain ⟨mantissa, exponent⟩ := number
  rw [toFraction, toRat]
  dsimp only
  split
  · obtain ⟨size, rfl⟩ : ∃ size : Nat, exponent = -size := ⟨exponent.natAbs, by omega⟩
    rw [Int.natAbs_neg, Int.natAbs_natCast, Nat.shiftLeft_eq, zpow_neg, zpow_natCast]
    refine ⟨by positivity, ?_⟩
    push_cast
    rw [one_mul, div_eq_mul_inv]
  · obtain ⟨size, rfl⟩ := Int.eq_ofNat_of_zero_le (not_lt.mp ‹_›)
    rw [Int.natAbs_natCast, Nat.shiftLeft_eq, zpow_natCast]
    refine ⟨Nat.one_pos, ?_⟩
    push_cast
    rw [div_one]

theorem approximates_mul (left right : Binary64) :
    Approximates (left.toRat * right.toRat) (left.mul right) := by
  obtain ⟨hleft, hleft'⟩ := left.toFraction_ratio
  obtain ⟨hright, hright'⟩ := right.toFraction_ratio
  have hnearest := approximates_nearest (left.toFraction.1 * right.toFraction.1)
    (Nat.mul_pos hleft hright)
  rw [Nat.cast_mul, Nat.cast_mul, mul_div_mul_comm, hleft', hright'] at hnearest
  exact hnearest

theorem approximates_div (left : Binary64) {right : Binary64} (hright : 0 < right.toRat) :
    Approximates (left.toRat / right.toRat) (left.div right) := by
  obtain ⟨hleft, hleft'⟩ := left.toFraction_ratio
  obtain ⟨hdenominator, hright'⟩ := right.toFraction_ratio
  have hnumerator : 0 < right.toFraction.1 := by
    rw [← hright'] at hright
    by_contra hzero
    rw [Nat.eq_zero_of_not_pos hzero, Nat.cast_zero, zero_div] at hright
    exact lt_irrefl _ hright
  have hnearest := approximates_nearest (left.toFraction.1 * right.toFraction.2)
    (Nat.mul_pos hleft hnumerator)
  rw [Nat.cast_mul, Nat.cast_mul, mul_div_mul_comm, hleft', ← inv_div (right.toFraction.1 : ℚ),
    hright', ← div_eq_mul_inv] at hnearest
  exact hnearest

/-! ## Powers of ten -/

theorem ten_pow_lt {power : Nat} (hpower : power ≤ maxPower) :
    (10 : ℚ) ^ power < (1 - 1 / 2 ^ 54) * bound := by
  calc
    (10 : ℚ) ^ power
    _ ≤ 10 ^ (154 * 2) := pow_le_pow_right₀ (by norm_num) hpower
    _ = (10 ^ 154) ^ 2 := pow_mul 10 154 2
    _ < (1 - 1 / 2 ^ 54) * (2 ^ 256) ^ 4 := by norm_num
    _ = (1 - 1 / 2 ^ 54) * bound := by rw [bound, ← pow_mul]

theorem bound_le_ten_pow {power : Nat} (hpower : maxPower < power) : bound ≤ 10 ^ power := by
  calc
    bound
    _ = (2 ^ 256) ^ 4 := by rw [bound, ← pow_mul]
    _ ≤ (10 ^ 103) ^ 3 := by norm_num
    _ = 10 ^ (103 * 3) := (pow_mul 10 103 3).symm
    _ ≤ 10 ^ power := pow_le_pow_right₀ (by norm_num) hpower

/-- Of a value that is no smaller than one, rounding changes but the last of 53 bits. -/
theorem Approximates.near_of_one_le {exact : ℚ} {number : Binary64}
    (happroximates : Approximates exact (some number)) (hle : 1 ≤ exact) :
    |number.toRat - exact| ≤ exact / 2 ^ 52 := by
  have hnear := happroximates.near rfl
  linarith

theorem exists_nearest {value : Nat} (hlt : (value : ℚ) < (1 - 1 / 2 ^ 54) * bound)
    (hpositive : 0 < value) :
    ∃ number, nearest value 1 = some number ∧ |number.toRat - value| ≤ value / 2 ^ 52 := by
  have happroximates := approximates_nearest value Nat.one_pos
  rw [Nat.cast_one, div_one] at happroximates
  obtain ⟨number, hnumber⟩ := happroximates.exists_of_lt hlt
  rw [hnumber] at happroximates
  exact ⟨number, hnumber, happroximates.near_of_one_le (by exact_mod_cast hpositive)⟩

theorem exists_powerOfTen {power : Nat} (hpower : power ≤ maxPower) :
    ∃ factor, powerOfTen power = some factor ∧
      |factor.toRat - 10 ^ power| ≤ 10 ^ power / 2 ^ 52 := by
  have hlt : ((Nat.pow 10 power : Nat) : ℚ) < (1 - 1 / 2 ^ 54) * bound := by
    rw [Nat.pow_eq, Nat.cast_pow]
    exact ten_pow_lt hpower
  obtain ⟨factor, hfactor, hnear⟩ := exists_nearest hlt (Nat.pow_pos (by decide))
  rw [Nat.pow_eq, Nat.cast_pow] at hnear
  exact ⟨factor, hfactor, hnear⟩

/-- Dividing by a power of ten never leads out of range. -/
theorem exists_div_powerOfTen {number : Binary64} (hnumber : number.toRat ≤ 2 ^ 65) {power : Nat}
    (hpower : power ≤ maxPower) :
    ∃ factor quotient, powerOfTen power = some factor ∧ number.div factor = some quotient ∧
      (0 < power → quotient.toRat ≤ 2 ^ 65) := by
  obtain ⟨factor, hfactor, hnear⟩ := exists_powerOfTen hpower
  have hone : (1 : ℚ) ≤ 10 ^ power := one_le_pow₀ (by norm_num)
  have hlow := (abs_le.mp hnear).1
  have hpositive : 0 < factor.toRat := by linarith
  have hnonneg := number.toRat_nonneg
  have happroximates := number.approximates_div hpositive
  have hhalf : number.toRat / factor.toRat ≤ 2 * number.toRat := by
    rw [div_le_iff₀ hpositive]
    nlinarith
  have hlt : number.toRat / factor.toRat < (1 - 1 / 2 ^ 54) * bound := by
    calc
      number.toRat / factor.toRat
      _ ≤ 2 * number.toRat := hhalf
      _ ≤ 2 * 2 ^ 65 := by gcongr
      _ ≤ 10 ^ 20 := by norm_num
      _ < (1 - 1 / 2 ^ 54) * bound := ten_pow_lt (by decide)
  obtain ⟨quotient, hquotient⟩ := happroximates.exists_of_lt hlt
  refine ⟨factor, quotient, hfactor, hquotient, fun hpower => ?_⟩
  have hten : (10 : ℚ) ≤ 10 ^ power := by
    calc
      (10 : ℚ)
      _ = 10 ^ 1 := (pow_one 10).symm
      _ ≤ 10 ^ power := pow_le_pow_right₀ (by norm_num) hpower
  have hfifth : number.toRat / factor.toRat ≤ number.toRat / 5 := by
    gcongr
    linarith
  have hquotient' := (abs_le.mp (happroximates.near hquotient)).2
  linarith

/-- A number that is divided by powers of ten stays in range. -/
theorem exists_timesPowerOfTen_of_neg {number : Binary64} (hnumber : number.toRat ≤ 2 ^ 65)
    {power : Int} (hpower : power < 0) : ∃ result, number.timesPowerOfTen power = some result := by
  obtain ⟨size, hsize⟩ : ∃ size, power.natAbs = size := ⟨_, rfl⟩
  induction size using Nat.strongRecOn generalizing number power with
  | ind size ih =>
    rw [timesPowerOfTen]
    split
    · next hsmall =>
      obtain ⟨factor, quotient, hfactor, hquotient, _⟩ := exists_div_powerOfTen hnumber hsmall
      exact ⟨quotient, by rw [hfactor, Option.bind_some, hquotient]⟩
    · next hlarge =>
      split
      · exact ⟨number, rfl⟩
      · rw [if_neg (by omega)]
        obtain ⟨factor, quotient, hfactor, hquotient, hsmaller⟩ :=
          exists_div_powerOfTen hnumber (le_refl maxPower)
        have hdecrease := natAbs_add_maxPower_lt hlarge (by omega)
        rw [hfactor, Option.bind_some, hquotient, Option.bind_some]
        exact ih _ (hsize ▸ hdecrease) (hsmaller (by decide)) (by rw [maxPower] at *; omega) rfl

theorem exists_zero_timesPowerOfTen (power : Int) :
    ∃ result, zero.timesPowerOfTen power = some result := by
  have hzero : zero.toRat = 0 := by norm_num [toRat, zero]
  rcases lt_or_ge power 0 with hnegative | hnonneg
  · exact exists_timesPowerOfTen_of_neg (by norm_num [hzero]) hnegative
  · rw [timesPowerOfTen]
    split
    · next hsmall =>
      obtain ⟨factor, hfactor, _⟩ := exists_powerOfTen hsmall
      have happroximates := zero.approximates_mul factor
      rw [hzero, zero_mul] at happroximates
      obtain ⟨product, hproduct⟩ := happroximates.exists_of_lt (by norm_num [bound])
      exact ⟨product, by rw [hfactor, Option.bind_some, if_neg (by omega), hproduct]⟩
    · exact ⟨zero, rfl⟩

/-- Whether a value is in range is told up to the error of a few roundings. -/
structure Ranges (exact : ℚ) (outcome : Option Binary64) : Prop where
  exists_of_le : exact ≤ (1 - 1 / 2 ^ 50) * bound → ∃ number, outcome = some number
  eq_none_of_le : (1 + 1 / 2 ^ 50) * bound ≤ exact → outcome = none

/-- The error of a product whose factors were rounded before. -/
theorem ranges_mul {left right : Binary64} {first second : ℚ}
    (hleft : |left.toRat - first| ≤ first / 2 ^ 52)
    (hright : |right.toRat - second| ≤ second / 2 ^ 52) (hfirst : 0 ≤ first)
    (hsecond : 0 ≤ second) : Ranges (first * second) (left.mul right) := by
  have happroximates := left.approximates_mul right
  have hbound := bound_pos
  obtain ⟨hlow, hhigh⟩ := abs_le.mp hleft
  obtain ⟨hlow', hhigh'⟩ := abs_le.mp hright
  constructor
  · intro hle
    apply happroximates.exists_of_lt
    calc
      left.toRat * right.toRat
      _ ≤ ((1 + 1 / 2 ^ 52) * first) * ((1 + 1 / 2 ^ 52) * second) := by
        have hnonneg := right.toRat_nonneg
        gcongr <;> linarith
      _ = (1 + 1 / 2 ^ 52) ^ 2 * (first * second) := by ring
      _ ≤ (1 + 1 / 2 ^ 52) ^ 2 * ((1 - 1 / 2 ^ 50) * bound) := by gcongr
      _ < (1 - 1 / 2 ^ 54) * bound := by
        rw [← mul_assoc]
        gcongr
        norm_num
  · intro hle
    apply happroximates.eq_none_of_le
    calc
      bound
      _ ≤ (1 - 1 / 2 ^ 52) ^ 2 * ((1 + 1 / 2 ^ 50) * bound) := by
        rw [← mul_assoc]
        apply le_mul_of_one_le_left hbound.le
        norm_num
      _ ≤ (1 - 1 / 2 ^ 52) ^ 2 * (first * second) := by gcongr
      _ = ((1 - 1 / 2 ^ 52) * first) * ((1 - 1 / 2 ^ 52) * second) := by ring
      _ ≤ left.toRat * right.toRat := by
        have hnonneg := left.toRat_nonneg
        gcongr <;> linarith

/-- The floating-point value of a significand of 64 bits and a power of ten. -/
theorem ranges_timesPowerOfTen {significand : Nat} (hlt : significand < 2 ^ 64) (power : Int) :
    Ranges (significand * 10 ^ power)
      ((nearest significand 1).bind (·.timesPowerOfTen power)) := by
  have hbound := bound_pos
  rcases Nat.eq_zero_or_pos significand with rfl | hpositive
  · have hzero : nearest 0 1 = some zero := rfl
    rw [hzero, Option.bind_some, Nat.cast_zero, zero_mul]
    refine ⟨fun _ => exists_zero_timesPowerOfTen power, fun hle => ?_⟩
    exact absurd hle (by linarith)
  have hsize : (significand : ℚ) < 2 ^ 64 := by exact_mod_cast hlt
  have hten : (2 : ℚ) ^ 64 ≤ 10 ^ 20 := by norm_num
  have hsmall : (10 : ℚ) ^ 20 < (1 - 1 / 2 ^ 54) * bound := ten_pow_lt (by decide)
  obtain ⟨number, hnumber, hnear⟩ :=
    exists_nearest (lt_trans hsize (lt_of_le_of_lt hten hsmall)) hpositive
  have hone : (1 : ℚ) ≤ significand := by exact_mod_cast hpositive
  obtain ⟨hlow, hhigh⟩ := abs_le.mp hnear
  rw [hnumber, Option.bind_some]
  rcases lt_or_ge power 0 with hnegative | hnonneg
  · refine ⟨fun _ => exists_timesPowerOfTen_of_neg (by linarith) hnegative, fun hle => ?_⟩
    have hless : (10 : ℚ) ^ power ≤ 1 := zpow_le_one_of_nonpos₀ (by norm_num) hnegative.le
    have hproduct : significand * (10 : ℚ) ^ power ≤ significand :=
      mul_le_of_le_one_right (by linarith) hless
    exact absurd hle (by linarith)
  · obtain ⟨size, rfl⟩ := Int.eq_ofNat_of_zero_le hnonneg
    rw [timesPowerOfTen, Int.natAbs_natCast, zpow_natCast]
    split
    · next hsmall =>
      obtain ⟨factor, hfactor, hnear'⟩ := exists_powerOfTen hsmall
      rw [hfactor, Option.bind_some, if_neg (by omega)]
      exact ranges_mul hnear hnear' (by linarith) (by positivity)
    · next hlarge =>
      have hmantissa : number.mantissa ≠ 0 := by
        intro hzero
        rw [toRat, hzero, Nat.cast_zero, zero_mul] at hlow
        linarith
      rw [if_neg hmantissa, if_pos (by rw [maxPower] at hlarge; omega)]
      refine ⟨fun hle => ?_, fun _ => rfl⟩
      have hpower := bound_le_ten_pow (not_le.mp hlarge)
      have hproduct : (10 : ℚ) ^ size ≤ significand * 10 ^ size :=
        le_mul_of_one_le_left (by positivity) hone
      exact absurd hle (by linarith)

end Binary64

end HexChart.Decimal
