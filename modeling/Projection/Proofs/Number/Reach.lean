import Projection.Json.Numeral
import Projection.Proofs.Number.Rounding

/-! Which numerals are read as numbers. The digits that are gathered never make more than the numeral
does, and the power of ten is reached in two roundings, so every numeral that is clear of the end of
the doubles by a few units of the last place is one. -/

set_option autoImplicit false

namespace Projection.Json

namespace Numeral

def magnitude (numeral : Numeral) : Ratio :=
  Decimal.toRatio ⟨Digits.toNat (numeral.whole ++ numeral.fraction.getD []),
    numeral.exponent.getD 0 - (numeral.fraction.getD []).length⟩

section Gathering

def continued (n : Nat) (digits : List Char) : Nat :=
  digits.foldl (fun n c => 10 * n + Digits.value c) n

theorem le_continued (n : Nat) (digits : List Char) : n * 10 ^ digits.length ≤ continued n digits := by
  induction digits generalizing n with
  | nil => simp [continued]
  | cons c digits ih =>
    calc n * 10 ^ (c :: digits).length = (10 * n) * 10 ^ digits.length := by
          rw [List.length_cons, Nat.pow_succ]; ring
      _ ≤ (10 * n + Digits.value c) * 10 ^ digits.length := by gcongr; omega
      _ ≤ continued n (c :: digits) := ih _

theorem continued_append (n : Nat) (digits others : List Char) :
    continued n (digits ++ others) = continued (continued n digits) others :=
  List.foldl_append

/-- What has been gathered, with zeros for the digits left out. -/
def Gathered.padded (gathered : Gathered) : Nat :=
  gathered.significand * 10 ^ gathered.left.length

theorem padded_le (n : Nat) (digits : List Char) : (gather n digits).padded ≤ continued n digits := by
  induction digits generalizing n with
  | nil => simp [gather, Gathered.padded, continued]
  | cons c digits ih =>
    rw [gather]
    split
    · exact ih _
    · exact le_continued n (c :: digits)

theorem significand_lt {n : Nat} (small : n < 18446744073709551616) (digits : List Char) :
    (gather n digits).significand < 18446744073709551616 := by
  induction digits generalizing n with
  | nil => exact small
  | cons c digits ih =>
    rw [gather]
    split
    · next fits => exact ih fits
    · exact small

theorem length_left_le (n : Nat) (digits : List Char) :
    (gather n digits).left.length ≤ digits.length := by
  induction digits generalizing n with
  | nil => exact Nat.le_refl _
  | cons c digits ih =>
    rw [gather]
    split
    · exact (ih _).trans (Nat.le_succ _)
    · exact Nat.le_refl _

theorem full_of_left {n : Nat} {digits left : List Char} {c : Char}
    (out : (gather n digits).left = c :: left) :
    18446744073709551616 * 10 ^ left.length ≤ continued n digits := by
  induction digits generalizing n with
  | nil => cases out
  | cons d digits ih =>
    rw [gather] at out
    split at out
    · exact ih out
    · next full =>
      obtain ⟨_, rfl⟩ := List.cons.inj out
      calc 18446744073709551616 * 10 ^ digits.length
          ≤ (10 * n + Digits.value d) * 10 ^ digits.length := by gcongr; omega
        _ ≤ continued n (d :: digits) := le_continued _ digits

theorem significand_eq_of_left_nil {n : Nat} {digits : List Char}
    (all : (gather n digits).left = []) : (gather n digits).significand = continued n digits := by
  induction digits generalizing n with
  | nil => rfl
  | cons c digits ih =>
    rw [gather] at all ⊢
    split at all
    · next fits =>
      rw [if_pos fits]
      exact ih all
    · cases all

/-- The digits of the fraction are gathered behind those of the whole part, even if some of these
have been left out; still they make no more than the numeral. -/
theorem gathered_le (whole fraction : List Char) :
    (gather (gather 0 whole).significand fraction).padded * 10 ^ (gather 0 whole).left.length ≤
      Digits.toNat (whole ++ fraction) := by
  have total : Digits.toNat (whole ++ fraction) = continued (continued 0 whole) fraction :=
    continued_append 0 whole fraction
  rw [total]
  have first := padded_le 0 whole
  have small := significand_lt (show 0 < 18446744073709551616 by decide) whole
  cases out : (gather 0 whole).left with
  | nil =>
    rw [significand_eq_of_left_nil out, List.length_nil, Nat.pow_zero, Nat.mul_one]
    exact padded_le _ fraction
  | cons c left =>
    have full := full_of_left out
    rw [Gathered.padded, out, List.length_cons] at first
    rw [List.length_cons]
    refine le_trans ?_ (le_continued (continued 0 whole) fraction)
    have untouched (fraction : List Char) :
        Gathered.padded ⟨(gather 0 whole).significand, fraction⟩ * 10 ^ (left.length + 1) ≤
          continued 0 whole * 10 ^ fraction.length := by
      rw [Gathered.padded, Nat.mul_right_comm]
      exact Nat.mul_le_mul_right _ first
    -- What is gathered of the fraction fits into 64 bits, unlike the whole part with its first digit
    -- left out; so it weighs less, even where it stands further up than in the numeral.
    cases fraction with
    | nil => exact untouched []
    | cons d fraction =>
      rw [gather]
      split
      · next fits =>
        have below := significand_lt fits fraction
        have shorter := length_left_le (10 * (gather 0 whole).significand + Digits.value d) fraction
        generalize gather (10 * (gather 0 whole).significand + Digits.value d) fraction = gathered at *
        calc gathered.padded * 10 ^ (left.length + 1)
            ≤ 18446744073709551616 * 10 ^ fraction.length * 10 ^ (left.length + 1) := by
              unfold Gathered.padded
              gcongr
              decide
          _ = 18446744073709551616 * 10 ^ left.length * 10 ^ (d :: fraction).length := by
              rw [List.length_cons, Nat.pow_succ, Nat.pow_succ]
              ring
          _ ≤ continued 0 whole * 10 ^ (d :: fraction).length := Nat.mul_le_mul_right _ full
      · exact untouched (d :: fraction)

end Gathering

section Scaling

open Double

theorem small_lt_limit : (2 : ℚ) ^ 65 < limit := by
  have large : (2 : ℚ) ^ 20 ≤ lastUnit := pow_le_pow_right₀ one_le_two (by decide)
  unfold limit
  linarith

theorem ten_pow_lt_limit : (10 : ℚ) ^ 308 < limit := by
  have largest : 10 ^ 308 + 2 ^ 971 < 2 ^ 53 * 2 ^ 971 := by decide +kernel
  have largest : ((10 ^ 308 + 2 ^ 971 : ℕ) : ℚ) < (2 ^ 53 * 2 ^ 971 : ℕ) := Nat.cast_lt.mpr largest
  simp only [Nat.cast_add, Nat.cast_mul, Nat.cast_pow, Nat.cast_ofNat] at largest
  have largest : (10 : ℚ) ^ 308 + lastUnit < 2 ^ 53 * lastUnit := largest
  have positive := lastUnit_pos
  unfold limit
  generalize (10 : ℚ) ^ 308 = ten at largest ⊢
  linarith

theorem lt_ten_pow : 2 ^ 53 * lastUnit < 10 ^ 309 / 2 := by
  have beyond : 2 * (2 ^ 53 * 2 ^ 971) < 10 ^ 309 := by decide +kernel
  have beyond : ((2 * (2 ^ 53 * 2 ^ 971) : ℕ) : ℚ) < (10 ^ 309 : ℕ) := Nat.cast_lt.mpr beyond
  simp only [Nat.cast_mul, Nat.cast_pow, Nat.cast_ofNat] at beyond
  have beyond : 2 * (2 ^ 53 * lastUnit) < 10 ^ 309 := beyond
  generalize (10 : ℚ) ^ 309 = ten at beyond ⊢
  linarith

theorem ten_near {power : Nat} (used : power ≤ 308) :
    |((ofRatio? false ⟨Nat.pow 10 power, 1⟩).getD (zero false)).value - 10 ^ power| ≤
      10 ^ power * halfUnit + halfUnit ^ 2 := by
  have below : ((Nat.pow 10 power : ℕ) : ℚ) < limit := by
    rw [Nat.pow_eq, Nat.cast_pow, Nat.cast_ofNat]
    exact (pow_le_pow_right₀ (by norm_num) used).trans_lt ten_pow_lt_limit
  obtain ⟨x, rounded, near⟩ := ofRatio?_natCast false below
  rw [rounded, Option.getD_some]
  simpa using near

theorem div?_ten {x : Double} (small : x.value ≤ 2 ^ 65) {power : Nat} (some_power : 1 ≤ power)
    (used : power ≤ 308) :
    ∃ z, x.div? ((ofRatio? false ⟨Nat.pow 10 power, 1⟩).getD (zero false)) = some z ∧
      z.value ≤ 2 ^ 65 := by
  have near := ten_near used
  generalize (ofRatio? false ⟨Nat.pow 10 power, 1⟩).getD (zero false) = y at near ⊢
  have power_ge : (10 : ℚ) ≤ 10 ^ power := by
    calc (10 : ℚ) = 10 ^ 1 := (pow_one _).symm
      _ ≤ 10 ^ power := pow_le_pow_right₀ (by norm_num) some_power
  have y_ge : 9 ≤ y.value := by
    have low := (abs_le.mp near).1
    norm_num [halfUnit] at low
    linarith
  have quotient : x.value / y.value ≤ 2 ^ 62 := by
    rw [div_le_iff₀ (by linarith)]
    linarith
  have below : x.value / y.value < limit := by linarith [small_lt_limit]
  obtain ⟨z, divided, close⟩ := div?_near (by linarith) below
  refine ⟨z, divided, ?_⟩
  have high := (abs_le.mp close).2
  norm_num [halfUnit] at high
  linarith

theorem isSome_scaleTen?_of_neg {x : Double} {power : Int} (small : x.value ≤ 2 ^ 65)
    (negative : power < 0) : (scaleTen? x power).isSome := by
  -- Far powers are divided out 308 at a time, and what is left stays as small as it was.
  induction steps : (-power).toNat using Nat.strongRecOn generalizing x power with
  | ind n ih =>
    rw [scaleTen?]
    by_cases far : power < -308
    · rw [if_pos far]
      split
      · rfl
      · obtain ⟨z, divided, small⟩ := div?_ten small (by decide) (Nat.le_refl 308)
        rw [divided]
        exact ih _ (by omega) small (by omega) rfl
    · rw [if_neg far, if_pos negative]
      obtain ⟨z, divided, _⟩ := div?_ten small (show 1 ≤ (-power).toNat by omega) (by omega)
      rw [divided]
      rfl

theorem mul_growth_le {exact units grown : ℚ} (bounded : exact ≤ units * lastUnit)
    (fits : units * growth ≤ grown) : exact * growth ≤ grown * lastUnit := by
  calc exact * growth ≤ units * lastUnit * growth := mul_le_mul_of_nonneg_right bounded growth_nonneg
    _ = units * growth * lastUnit := by ring
    _ ≤ grown * lastUnit := mul_le_mul_of_nonneg_right fits lastUnit_pos.le

theorem mul?_ten {x : Double} {power : Nat} (used : power ≤ 308)
    (reached : x.value * 10 ^ power ≤ (2 ^ 53 - 2) * lastUnit) :
    ∃ z, x.mul? ((ofRatio? false ⟨Nat.pow 10 power, 1⟩).getD (zero false)) = some z := by
  have near := ten_near used
  generalize (ofRatio? false ⟨Nat.pow 10 power, 1⟩).getD (zero false) = y at near ⊢
  have y_le := le_mul_growth (one_le_pow₀ (by norm_num)) near
  have fits : (2 ^ 53 - 2) * growth ≤ 2 ^ 53 - 1 + halfUnit := by norm_num [growth, halfUnit]
  have below : x.value * y.value < limit := by
    calc x.value * y.value ≤ x.value * (10 ^ power * growth) :=
          mul_le_mul_of_nonneg_left y_le x.value_nonneg
      _ = x.value * 10 ^ power * growth := by ring
      _ ≤ (2 ^ 53 - 1 + halfUnit) * lastUnit := mul_growth_le reached fits
      _ < (2 ^ 53 - 1 / 2) * lastUnit := mul_lt_mul_of_pos_right (by norm_num [halfUnit]) lastUnit_pos
  obtain ⟨z, product, _⟩ := mul?_near below
  exact ⟨z, product⟩

theorem power_used {x : Double} {power : Nat} (part : 1 / 2 ≤ x.value)
    (reached : x.value * 10 ^ power ≤ (2 ^ 53 - 2) * lastUnit) : power ≤ 308 := by
  refine not_lt.mp fun far => not_le.mpr lt_ten_pow ?_
  calc (10 : ℚ) ^ 309 / 2 ≤ 10 ^ power / 2 := by
        gcongr
        · norm_num
        · exact far
    _ = 1 / 2 * 10 ^ power := by ring
    _ ≤ x.value * 10 ^ power := mul_le_mul_of_nonneg_right part (by positivity)
    _ ≤ (2 ^ 53 - 2) * lastUnit := reached
    _ ≤ 2 ^ 53 * lastUnit := mul_le_mul_of_nonneg_right (by norm_num) lastUnit_pos.le

theorem isSome_scaleTen? {x : Double} {power : Int} (upward : 0 ≤ power)
    (part : x.isZero = true ∨ 1 / 2 ≤ x.value)
    (reached : x.value * 10 ^ power ≤ (2 ^ 53 - 2) * lastUnit) : (scaleTen? x power).isSome := by
  obtain ⟨n, rfl⟩ := Int.eq_ofNat_of_zero_le upward
  rw [zpow_natCast] at reached
  rw [scaleTen?, if_neg (by omega), if_neg (by omega)]
  by_cases used : n ≤ 308
  · obtain ⟨z, product⟩ := mul?_ten used reached
    rw [if_pos (by omega), Int.toNat_natCast, product]
    rfl
  · rcases part with zero | part
    · rw [if_neg (by omega), if_pos zero]
      rfl
    · exact absurd (power_used part reached) used

theorem ofInt_near {n : Nat} (small : n < 18446744073709551616) :
    |(ofInt n).value - n| ≤ n * halfUnit + halfUnit ^ 2 := by
  have below : (n : ℚ) < limit := by
    calc (n : ℚ) ≤ 18446744073709551616 := by exact_mod_cast small.le
      _ ≤ 2 ^ 65 := by norm_num
      _ < limit := small_lt_limit
  obtain ⟨x, rounded, near⟩ := ofRatio?_natCast (decide ((n : Int) < 0)) below
  rw [ofInt, Int.natAbs_natCast, rounded, Option.getD_some]
  exact near

theorem isSome_scaleTen?_ofInt {n : Nat} {power : Int} (small : n < 18446744073709551616)
    (reached : n * (10 : ℚ) ^ power ≤ (2 ^ 53 - 4) * lastUnit) :
    (scaleTen? (ofInt n) power).isSome := by
  have near := ofInt_near small
  rcases lt_or_ge power 0 with downward | upward
  · have value_le : (ofInt n).value ≤ 2 ^ 65 := by
      have small : (n : ℚ) ≤ 18446744073709551616 := by exact_mod_cast small.le
      have high := (abs_le.mp near).2
      norm_num [halfUnit] at high ⊢
      linarith
    exact isSome_scaleTen?_of_neg value_le downward
  · rcases Nat.eq_zero_or_pos n with rfl | positive
    · have zero : (ofInt ((0 : Nat) : Int)).isZero = true := by decide
      have nothing : (ofInt ((0 : Nat) : Int)).value = 0 := by
        rw [Double.value, beq_iff_eq.mp zero, Nat.cast_zero, zero_mul]
      refine isSome_scaleTen? upward (.inl zero) ?_
      rw [nothing, zero_mul]
      exact mul_nonneg (by norm_num) lastUnit_pos.le
    · have one_le : (1 : ℚ) ≤ n := by exact_mod_cast positive
      have half : 1 / 2 ≤ (ofInt n).value := by
        have low := (abs_le.mp near).1
        norm_num [halfUnit] at low ⊢
        linarith
      have fits : (2 ^ 53 - 4) * growth ≤ 2 ^ 53 - 2 := by norm_num [growth, halfUnit]
      refine isSome_scaleTen? upward (.inr half) ?_
      calc (ofInt n).value * 10 ^ power ≤ n * growth * 10 ^ power :=
            mul_le_mul_of_nonneg_right (le_mul_growth one_le near) (by positivity)
        _ = n * 10 ^ power * growth := by ring
        _ ≤ (2 ^ 53 - 2) * lastUnit := mul_growth_le reached fits

/-- A numeral up to this size is a number for the reader. -/
def reach : Ratio := ⟨(Nat.pow 2 53 - 4) * Nat.pow 2 971, 1⟩

theorem value_reach : reach.value = (2 ^ 53 - 4) * lastUnit := by
  simp only [Ratio.value, reach, lastUnit, Nat.pow_eq, Nat.cast_one, div_one, Nat.cast_mul,
    Nat.cast_pow, Nat.cast_ofNat, Nat.cast_sub (show 4 ≤ 2 ^ 53 by decide)]

theorem value_magnitude (numeral : Numeral) : numeral.magnitude.value =
    (Digits.toNat (numeral.whole ++ numeral.fraction.getD []) : ℚ) *
      10 ^ (numeral.exponent.getD 0 - (numeral.fraction.getD []).length) := by
  rw [magnitude, Decimal.toRatio, Ratio.value_scale (by decide), Ratio.value, Nat.cast_one, div_one,
    Nat.cast_ofNat]

theorem value_magnitude_le {numeral : Numeral} (reached : numeral.magnitude.le reach = true) :
    numeral.magnitude.value ≤ reach.value := by
  have proper : 0 < numeral.magnitude.denominator :=
    Ratio.denominator_scale_pos (by decide) Nat.one_pos _
  have proper : (0 : ℚ) < numeral.magnitude.denominator := Nat.cast_pos.mpr proper
  have proper' : (0 : ℚ) < reach.denominator := Nat.cast_pos.mpr Nat.one_pos
  have le : numeral.magnitude.numerator * reach.denominator ≤
      reach.numerator * numeral.magnitude.denominator := of_decide_eq_true reached
  rw [Ratio.value, Ratio.value, div_le_div_iff₀ proper proper', ← Nat.cast_mul, ← Nat.cast_mul]
  exact Nat.cast_le.mpr le

theorem isSome_toDouble? {numeral : Numeral} (reached : numeral.magnitude.le reach = true) :
    numeral.toDouble?.isSome := by
  obtain ⟨negative, whole, fraction, exponent⟩ := numeral
  have sum := gathered_le whole (fraction.getD [])
  have small := significand_lt (significand_lt (show 0 < 18446744073709551616 by decide) whole)
    (fraction.getD [])
  rw [toDouble?]
  dsimp only
  rw [Option.isSome_map]
  generalize gather (gather 0 whole).significand (fraction.getD []) = all at sum small ⊢
  generalize (gather 0 whole).left.length = skipped at sum ⊢
  apply isSome_scaleTen?_ofInt small
  have bounded := value_magnitude_le reached
  rw [value_magnitude, value_reach] at bounded
  refine le_trans ?_ bounded
  generalize (fraction.getD []).length = places
  have sum : (all.significand : ℚ) * 10 ^ all.left.length * 10 ^ skipped ≤
      (Digits.toNat (whole ++ fraction.getD []) : ℚ) := by exact_mod_cast sum
  have split_off : (skipped - (places - all.left.length : Int) + exponent.getD 0 : Int) =
      all.left.length + skipped + (exponent.getD 0 - places) := by ring
  rw [split_off, zpow_add₀ (by norm_num), zpow_add₀ (by norm_num), zpow_natCast, zpow_natCast,
    ← mul_assoc, ← mul_assoc]
  exact mul_le_mul_of_nonneg_right sum (by positivity)

theorem isSome_toNumber? {numeral : Numeral} (reached : numeral.magnitude.le reach = true) :
    numeral.toNumber?.isSome := by
  have double := isSome_toDouble? reached
  unfold toNumber?
  dsimp only
  split
  · rfl
  · split
    · rfl
    · rw [Option.isSome_map]
      exact double

end Scaling

end Numeral

end Projection.Json
