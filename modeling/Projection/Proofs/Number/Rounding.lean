import Mathlib.Algebra.Order.Field.Power
import Mathlib.Data.Rat.Cast.Order
import Mathlib.Tactic.FieldSimp
import Mathlib.Tactic.Linarith
import Mathlib.Tactic.Positivity
import Mathlib.Tactic.Ring
import Projection.Number.Double

/-! How far rounding is from the exact result. A fraction that stays clear of the end of a format by
half a unit of the last place is rounded to a number of the format, at most half a unit of its own
last place away. -/

set_option autoImplicit false

namespace Projection

namespace Ratio

def value (ratio : Ratio) : ℚ := ratio.numerator / ratio.denominator

theorem value_scale {base : Nat} (positive : 0 < base) (ratio : Ratio) (power : Int) :
    (ratio.scale base power).value = ratio.value * (base : ℚ) ^ power := by
  have nonzero : (base : ℚ) ≠ 0 := by exact_mod_cast positive.ne'
  unfold scale
  split
  · next upward =>
    obtain ⟨n, rfl⟩ := Int.eq_ofNat_of_zero_le upward
    simp only [value, Int.toNat_natCast, zpow_natCast, Nat.pow_eq, Nat.cast_mul, Nat.cast_pow]
    ring
  · next downward =>
    obtain ⟨n, same⟩ := Int.eq_ofNat_of_zero_le (show 0 ≤ -power by omega)
    obtain rfl : power = -(n : Int) := by omega
    simp only [value, neg_neg, Int.toNat_natCast, zpow_neg, zpow_natCast, Nat.pow_eq, Nat.cast_mul,
      Nat.cast_pow]
    field_simp

theorem denominator_scale_pos {base : Nat} (positive : 0 < base) {ratio : Ratio}
    (proper : 0 < ratio.denominator) (power : Int) : 0 < (ratio.scale base power).denominator := by
  unfold scale
  split
  · exact proper
  · exact Nat.mul_pos proper (Nat.pow_pos positive)

theorem one_le_value_iff {ratio : Ratio} (proper : 0 < ratio.denominator) :
    1 ≤ ratio.value ↔ ratio.denominator ≤ ratio.numerator := by
  rw [value, le_div_iff₀ (by exact_mod_cast proper), one_mul, Nat.cast_le]

theorem abs_round_sub_le {ratio : Ratio} (proper : 0 < ratio.denominator) :
    |(ratio.round : ℚ) - ratio.value| ≤ 1 / 2 := by
  obtain ⟨n, d⟩ := ratio
  change 0 < d at proper
  have positive : (0 : ℚ) < d := by exact_mod_cast proper
  have split_off : (n : ℚ) = d * (n / d : ℕ) + (n % d : ℕ) := by
    exact_mod_cast (Nat.div_add_mod n d).symm
  have below : n % d < d := Nat.mod_lt n proper
  have apart : value ⟨n, d⟩ = (n / d : ℕ) + (n % d : ℕ) / d := by
    rw [value, split_off]
    field_simp
  rw [apart, round]
  split
  · next down =>
    change 2 * (n % d) < d ∨ 2 * (n % d) = d ∧ _ at down
    have half : ((n % d : ℕ) : ℚ) / d ≤ 1 / 2 := by
      rw [div_le_iff₀ positive]
      have twice : 2 * (n % d) ≤ d := by rcases down with down | down <;> omega
      have twice : (2 : ℚ) * (n % d : ℕ) ≤ d := by exact_mod_cast twice
      linarith
    have nonneg : (0 : ℚ) ≤ ((n % d : ℕ) : ℚ) / d := by positivity
    rw [abs_le]
    constructor <;> linarith
  · next up =>
    have half : 1 / 2 ≤ ((n % d : ℕ) : ℚ) / d := by
      rw [le_div_iff₀ positive]
      have twice : d ≤ 2 * (n % d) := not_lt.mp fun small => up (.inl small)
      have twice : (d : ℚ) ≤ 2 * (n % d : ℕ) := by exact_mod_cast twice
      linarith
    have part : ((n % d : ℕ) : ℚ) / d ≤ 1 := by
      rw [div_le_one positive]
      exact_mod_cast below.le
    push_cast
    rw [abs_le]
    constructor <;> linarith

theorem log2_bounds {ratio : Ratio} (proper : 0 < ratio.denominator)
    (positive : 0 < ratio.numerator) :
    (2 : ℚ) ^ ((ratio.numerator.log2 : Int) - ratio.denominator.log2 - 1) ≤ ratio.value ∧
      ratio.value < (2 : ℚ) ^ ((ratio.numerator.log2 : Int) - ratio.denominator.log2 + 1) := by
  obtain ⟨n, d⟩ := ratio
  have above : (2 : ℚ) ^ n.log2 ≤ n := by exact_mod_cast Nat.log2_self_le positive.ne'
  have below : (n : ℚ) < 2 ^ (n.log2 + 1) := by exact_mod_cast Nat.lt_log2_self
  have above' : (2 : ℚ) ^ d.log2 ≤ d := by exact_mod_cast Nat.log2_self_le proper.ne'
  have below' : (d : ℚ) < 2 ^ (d.log2 + 1) := by exact_mod_cast Nat.lt_log2_self
  have denominator : (0 : ℚ) < d := by exact_mod_cast proper
  have power (k : Nat) : (0 : ℚ) < 2 ^ k := by positivity
  have low : (2 : ℚ) ^ ((n.log2 : Int) - d.log2 - 1) = 2 ^ n.log2 / 2 ^ (d.log2 + 1) := by
    rw [sub_sub, zpow_sub₀ two_ne_zero, zpow_natCast, ← Nat.cast_succ, zpow_natCast]
  have high : (2 : ℚ) ^ ((n.log2 : Int) - d.log2 + 1) = 2 ^ (n.log2 + 1) / 2 ^ d.log2 := by
    rw [sub_add_eq_add_sub, zpow_sub₀ two_ne_zero, zpow_natCast, ← Nat.cast_succ, zpow_natCast]
  rw [low, high]
  constructor
  · calc (2 : ℚ) ^ n.log2 / 2 ^ (d.log2 + 1) ≤ n / 2 ^ (d.log2 + 1) := by gcongr
      _ ≤ n / d := by gcongr
  · calc (n : ℚ) / d ≤ n / 2 ^ d.log2 := by gcongr
      _ < 2 ^ (n.log2 + 1) / 2 ^ d.log2 := by gcongr

theorem floorLog2_bounds {ratio : Ratio} (proper : 0 < ratio.denominator)
    (positive : 0 < ratio.numerator) :
    (2 : ℚ) ^ ratio.floorLog2 ≤ ratio.value ∧ ratio.value < (2 : ℚ) ^ (ratio.floorLog2 + 1) := by
  obtain ⟨low, high⟩ := log2_bounds proper positive
  have shifted : ∀ guess : Int,
      (ratio.scale 2 (-guess)).denominator ≤ (ratio.scale 2 (-guess)).numerator ↔
        (2 : ℚ) ^ guess ≤ ratio.value := by
    intro guess
    rw [← one_le_value_iff (denominator_scale_pos two_pos proper _), value_scale two_pos, zpow_neg,
      ← div_eq_mul_inv, one_le_div (by positivity), Nat.cast_ofNat]
  unfold floorLog2
  dsimp only
  split
  · next reached => exact ⟨(shifted _).mp reached, high⟩
  · next missed =>
    rw [shifted, not_le] at missed
    exact ⟨low, by rwa [sub_add_cancel]⟩

theorem abs_round_scale_sub_le {ratio : Ratio} (proper : 0 < ratio.denominator) (exponent : Int) :
    |((ratio.scale 2 (-exponent)).round : ℚ) * 2 ^ exponent - ratio.value| ≤ 2 ^ exponent / 2 := by
  have unit : (0 : ℚ) < 2 ^ exponent := by positivity
  have near := abs_round_sub_le (denominator_scale_pos two_pos proper (-exponent))
  rw [value_scale two_pos, zpow_neg, Nat.cast_ofNat, ← div_eq_mul_inv] at near
  generalize ((ratio.scale 2 (-exponent)).round : ℚ) = rounded at near ⊢
  have apart : rounded * 2 ^ exponent - ratio.value =
      (rounded - ratio.value / 2 ^ exponent) * 2 ^ exponent := by field_simp
  rw [apart, abs_mul, abs_of_pos unit]
  linarith [mul_le_mul_of_nonneg_right near unit.le]

end Ratio

def Double.value (x : Double) : ℚ := x.significand * (2 : ℚ) ^ x.exponent

theorem Double.value_nonneg (x : Double) : 0 ≤ x.value := by
  unfold value
  positivity

namespace BinaryFormat

variable {format : BinaryFormat} {ratio : Ratio}

def bound (format : BinaryFormat) : ℚ :=
  (2 ^ format.precision - 1 / 2) * (2 : ℚ) ^ format.maxExponent

def tolerance (format : BinaryFormat) (exact : ℚ) : ℚ :=
  exact / 2 ^ format.precision + (2 : ℚ) ^ format.minExponent / 2

def place (format : BinaryFormat) (ratio : Ratio) : Int :=
  max (ratio.floorLog2 + 1 - format.precision) format.minExponent

theorem place_le (ordered : format.minExponent ≤ format.maxExponent)
    (reached : (2 : ℚ) ^ ratio.floorLog2 ≤ ratio.value) (below : ratio.value < format.bound) :
    format.place ratio ≤ format.maxExponent := by
  have in_reach : ratio.floorLog2 < format.precision + format.maxExponent := by
    rw [← zpow_lt_zpow_iff_right₀ (one_lt_two (α := ℚ))]
    calc (2 : ℚ) ^ ratio.floorLog2 ≤ ratio.value := reached
      _ < (2 ^ format.precision - 1 / 2) * 2 ^ format.maxExponent := below
      _ ≤ 2 ^ format.precision * 2 ^ format.maxExponent := by gcongr; linarith
      _ = 2 ^ ((format.precision : Int) + format.maxExponent) := by
        rw [zpow_add₀ two_ne_zero, zpow_natCast]
  unfold place
  omega

theorem half_place_le (reached : (2 : ℚ) ^ ratio.floorLog2 ≤ ratio.value) :
    (2 : ℚ) ^ format.place ratio / 2 ≤ format.tolerance ratio.value := by
  have positive (k : Int) : (0 : ℚ) < 2 ^ k := by positivity
  have relative : (2 : ℚ) ^ (ratio.floorLog2 + 1 - format.precision) / 2 ≤
      ratio.value / 2 ^ format.precision := by
    calc (2 : ℚ) ^ (ratio.floorLog2 + 1 - format.precision) / 2
        = 2 ^ ratio.floorLog2 / 2 ^ format.precision := by
          rw [zpow_sub₀ two_ne_zero, zpow_add_one₀ two_ne_zero, zpow_natCast]
          ring
      _ ≤ ratio.value / 2 ^ format.precision := by gcongr
  unfold tolerance place
  rcases max_choice (ratio.floorLog2 + 1 - format.precision) format.minExponent with left | right
  · rw [left]
    linarith [positive format.minExponent]
  · rw [right]
    linarith [positive (ratio.floorLog2 + 1 - format.precision)]

theorem halved_mul (wide : 0 < format.precision) (exponent : Int) :
    ((Nat.pow 2 format.precision / 2 : ℕ) : ℚ) * 2 ^ (exponent + 1) =
      (Nat.pow 2 format.precision : ℕ) * 2 ^ exponent := by
  obtain ⟨k, precision⟩ := Nat.exists_eq_succ_of_ne_zero wide.ne'
  have halved : Nat.pow 2 format.precision / 2 = Nat.pow 2 k := by
    rw [precision, Nat.pow_eq, Nat.pow_eq, Nat.pow_succ, Nat.mul_div_cancel _ two_pos]
  rw [halved, precision, Nat.pow_eq, Nat.pow_eq, Nat.pow_succ, Nat.cast_mul, Nat.cast_ofNat,
    zpow_add_one₀ two_ne_zero]
  ring

theorem ne_maxExponent {exponent : Int} (below : ratio.value < format.bound)
    (near : |((Nat.pow 2 format.precision : ℕ) : ℚ) * 2 ^ exponent - ratio.value| ≤
      2 ^ exponent / 2) :
    exponent ≠ format.maxExponent := by
  rintro rfl
  have high := (abs_le.mp near).2
  unfold bound at below
  rw [Nat.pow_eq, Nat.cast_pow, Nat.cast_ofNat] at high
  linarith

/-- Rounding stays in the format up to half a unit beyond its largest number, and moves by at most
half a unit of the last place, be it of the number or of the smallest ones. -/
theorem round?_near (wide : 0 < format.precision) (ordered : format.minExponent ≤ format.maxExponent)
    (negative : Bool) (proper : 0 < ratio.denominator) (below : ratio.value < format.bound) :
    ∃ x, format.round? negative ratio = some x ∧
      |x.value - ratio.value| ≤ format.tolerance ratio.value := by
  unfold round?
  by_cases zero : ratio.numerator = 0
  · rw [if_pos zero]
    refine ⟨_, rfl, ?_⟩
    have nothing : ratio.value = 0 := by rw [Ratio.value, zero, Nat.cast_zero, zero_div]
    rw [nothing, Double.value, Nat.cast_zero, zero_mul, sub_zero, abs_zero, tolerance]
    positivity
  · rw [if_neg zero]
    obtain ⟨reached, _⟩ := Ratio.floorLog2_bounds proper (Nat.pos_of_ne_zero zero)
    have fits := place_le ordered reached below
    have small := @half_place_le format _ reached
    have near := Ratio.abs_round_scale_sub_le proper (format.place ratio)
    dsimp only
    rw [← place]
    generalize format.place ratio = exponent at *
    generalize (ratio.scale 2 (-exponent)).round = significand at near ⊢
    -- A carry gives a significand with one digit too many, which is written one place further up.
    by_cases carry : significand = Nat.pow 2 format.precision
    · rw [carry] at near
      have room := ne_maxExponent below near
      rw [if_pos carry, if_pos (by omega)]
      refine ⟨_, rfl, le_trans ?_ small⟩
      rw [Double.value, carry, halved_mul wide]
      exact near
    · rw [if_neg carry, if_pos fits]
      exact ⟨_, rfl, near.trans small⟩

end BinaryFormat

namespace Double

def halfUnit : ℚ := 1 / 2 ^ 53

def lastUnit : ℚ := 2 ^ 971

theorem lastUnit_pos : 0 < lastUnit := by
  unfold lastUnit
  positivity

def limit : ℚ := (2 ^ 53 - 1 / 2) * lastUnit

/-- The relative error is half a unit, but for the smallest numbers. -/
theorem ofRatio?_near (negative : Bool) {ratio : Ratio} (proper : 0 < ratio.denominator)
    (below : ratio.value < limit) :
    ∃ x, ofRatio? negative ratio = some x ∧
      |x.value - ratio.value| ≤ ratio.value * halfUnit + halfUnit ^ 2 := by
  have below' : ratio.value < BinaryFormat.double.bound := below
  obtain ⟨x, rounded, near⟩ := BinaryFormat.round?_near (by decide) (by decide) negative proper below'
  refine ⟨x, rounded, near.trans ?_⟩
  have tiny : (2 : ℚ) ^ BinaryFormat.double.minExponent / 2 ≤ halfUnit ^ 2 := by
    have smaller : (2 : ℚ) ^ BinaryFormat.double.minExponent ≤ 2 ^ (-105 : Int) :=
      zpow_le_zpow_right₀ one_le_two (by decide)
    calc (2 : ℚ) ^ BinaryFormat.double.minExponent / 2 ≤ 2 ^ (-105 : Int) / 2 := by gcongr
      _ = halfUnit ^ 2 := by norm_num [halfUnit]
  have relative : ratio.value / 2 ^ BinaryFormat.double.precision = ratio.value * halfUnit := by
    rw [halfUnit, mul_one_div]
    rfl
  rw [BinaryFormat.tolerance, relative]
  linarith

theorem mul?_near {x y : Double} (below : x.value * y.value < limit) :
    ∃ z, x.mul? y = some z ∧
      |z.value - x.value * y.value| ≤ x.value * y.value * halfUnit + halfUnit ^ 2 := by
  have significands : Ratio.value ⟨x.significand * y.significand, 1⟩ =
      (x.significand : ℚ) * y.significand := by
    rw [Ratio.value, Nat.cast_mul, Nat.cast_one, div_one]
  have product : (Ratio.scale 2 ⟨x.significand * y.significand, 1⟩ (x.exponent + y.exponent)).value =
      x.value * y.value := by
    rw [Ratio.value_scale two_pos, significands, value, value, Nat.cast_ofNat,
      zpow_add₀ (two_ne_zero' ℚ)]
    ring
  have proper : 0 < (Ratio.scale 2 ⟨x.significand * y.significand, 1⟩
      (x.exponent + y.exponent)).denominator :=
    Ratio.denominator_scale_pos two_pos Nat.one_pos _
  rw [← product] at below ⊢
  exact ofRatio?_near _ proper below

theorem div?_near {x y : Double} (divisor : 0 < y.value) (below : x.value / y.value < limit) :
    ∃ z, x.div? y = some z ∧
      |z.value - x.value / y.value| ≤ x.value / y.value * halfUnit + halfUnit ^ 2 := by
  have positive : 0 < y.significand := by
    rcases Nat.eq_zero_or_pos y.significand with zero | positive
    · rw [value, zero, Nat.cast_zero, zero_mul] at divisor
      exact absurd divisor (lt_irrefl 0)
    · exact positive
  have significands : Ratio.value ⟨x.significand, y.significand⟩ =
      (x.significand : ℚ) / y.significand := rfl
  have quotient : (Ratio.scale 2 ⟨x.significand, y.significand⟩ (x.exponent - y.exponent)).value =
      x.value / y.value := by
    rw [Ratio.value_scale two_pos, significands, value, value, Nat.cast_ofNat,
      zpow_sub₀ (two_ne_zero' ℚ), div_mul_div_comm]
  have proper : 0 < (Ratio.scale 2 ⟨x.significand, y.significand⟩
      (x.exponent - y.exponent)).denominator :=
    Ratio.denominator_scale_pos two_pos positive _
  have not_zero : y.isZero = false := beq_false_of_ne positive.ne'
  rw [← quotient] at below ⊢
  rw [div?, not_zero]
  exact ofRatio?_near _ proper below

theorem ofRatio?_natCast (negative : Bool) {n : Nat} (below : (n : ℚ) < limit) :
    ∃ x, ofRatio? negative ⟨n, 1⟩ = some x ∧ |x.value - n| ≤ n * halfUnit + halfUnit ^ 2 := by
  have whole : Ratio.value ⟨n, 1⟩ = n := by rw [Ratio.value, Nat.cast_one, div_one]
  have near := ofRatio?_near negative (show 0 < (⟨n, 1⟩ : Ratio).denominator from Nat.one_pos)
    (whole ▸ below)
  rwa [whole] at near

def growth : ℚ := 1 + halfUnit + halfUnit ^ 2

theorem growth_nonneg : 0 ≤ growth := by
  unfold growth halfUnit
  positivity

theorem le_mul_growth {rounded exact : ℚ} (ordinary : 1 ≤ exact)
    (near : |rounded - exact| ≤ exact * halfUnit + halfUnit ^ 2) : rounded ≤ exact * growth := by
  have absolute : halfUnit ^ 2 ≤ exact * halfUnit ^ 2 := le_mul_of_one_le_left (sq_nonneg _) ordinary
  unfold growth
  linarith [(abs_le.mp near).2]

end Double

end Projection
