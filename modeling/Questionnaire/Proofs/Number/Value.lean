import Mathlib.Algebra.Order.Field.Power
import Mathlib.Data.Rat.Cast.Order
import Mathlib.Order.WithBotTop
import Mathlib.Tactic.FieldSimp
import Mathlib.Tactic.Linarith
import Mathlib.Tactic.Positivity
import Mathlib.Tactic.Ring
import Questionnaire.Number.Basic

/-!
# The values of numbers

A finite number is kept as a sign and a rank; what it is worth is `FiniteNumber.value`, the rational
number `± m * 2 ^ q`. Ranks are made to ascend with the values: the magnitude of the next rank is
greater (`magnitude_lt_succ`), within a binade because its significand is, and from the last of a
binade to the first of the next because one unit more there is a power of two. With the infinities
at the ends of the rational numbers and no value for NaN (`Number.value?`), comparing places is
comparing values (`Number.lt_iff`), and a number is whole exactly when its value is
(`Number.whole?_eq_some_iff`).
-/

namespace Questionnaire

namespace FiniteNumber

/-! ## Magnitudes -/

/-- The rational number that the magnitude of a rank is worth; ranks go on past the finite ones. -/
def magnitude (rank : ℕ) : ℚ :=
  if rank < binadeSize then rank * (2 : ℚ) ^ (-1074 : ℤ)
  else (binadeSize + rank % binadeSize : ℕ) * (2 : ℚ) ^ ((rank / binadeSize : ℕ) - 1075 : ℤ)

/-- The rational number that a finite number is worth. -/
def value (x : FiniteNumber) : ℚ :=
  if x.negative then -magnitude x.rank else magnitude x.rank

/-- The magnitude is the significand times two to the exponent. -/
theorem magnitude_rank (x : FiniteNumber) :
    magnitude x.rank = x.significand * (2 : ℚ) ^ x.exponent := by
  unfold magnitude significand exponent
  split <;> rfl

/-- The next rank has a greater magnitude. -/
theorem magnitude_lt_succ (rank : ℕ) : magnitude rank < magnitude (rank + 1) := by
  have hunit : ∀ q : ℤ, (0 : ℚ) < 2 ^ q := fun q => by positivity
  by_cases hlow : rank + 1 < binadeSize
  · -- Below the least normal magnitude the unit is one and the same.
    have hlow' : rank < binadeSize := Nat.lt_of_succ_lt hlow
    simp only [magnitude, if_pos hlow, if_pos hlow']
    exact mul_lt_mul_of_pos_right (by exact_mod_cast Nat.lt_succ_self rank) (hunit _)
  by_cases hedge : rank + 1 = binadeSize
  · have hlow' : rank < binadeSize := by omega
    have hmod : (rank + 1) % binadeSize = 0 := by rw [hedge, Nat.mod_self]
    have hdiv : (rank + 1) / binadeSize = 1 := by rw [hedge]; rfl
    simp only [magnitude, if_neg hlow, if_pos hlow', hmod, hdiv]
    exact mul_lt_mul_of_pos_right (by exact_mod_cast (by omega : rank < binadeSize + 0)) (hunit _)
  have hhigh : ¬ rank < binadeSize := by omega
  simp only [magnitude, if_neg hlow, if_neg hhigh]
  by_cases hlast : rank % binadeSize + 1 = binadeSize
  · -- The last of a binade: the next unit is twice as large and the significand falls back.
    have hmod : (rank + 1) % binadeSize = 0 := by unfold binadeSize at *; omega
    have hdiv : (rank + 1) / binadeSize = rank / binadeSize + 1 := by
      unfold binadeSize at *; omega
    have hexponent : ((rank / binadeSize + 1 : ℕ) : ℤ) - 1075 =
        ((rank / binadeSize : ℕ) - 1075 : ℤ) + 1 := by push_cast; ring
    rw [hmod, hdiv, hexponent, zpow_add_one₀ (by norm_num)]
    have hsignificand : ((binadeSize + rank % binadeSize : ℕ) : ℚ) <
        (binadeSize + 0 : ℕ) * 2 := by
      exact_mod_cast (by omega : binadeSize + rank % binadeSize < (binadeSize + 0) * 2)
    calc ((binadeSize + rank % binadeSize : ℕ) : ℚ) * 2 ^ ((rank / binadeSize : ℕ) - 1075 : ℤ)
        < ((binadeSize + 0 : ℕ) * 2) * 2 ^ ((rank / binadeSize : ℕ) - 1075 : ℤ) :=
          mul_lt_mul_of_pos_right hsignificand (hunit _)
      _ = (binadeSize + 0 : ℕ) * (2 ^ ((rank / binadeSize : ℕ) - 1075 : ℤ) * 2) := by ring
  · have hmod : (rank + 1) % binadeSize = rank % binadeSize + 1 := by
      unfold binadeSize at *; omega
    have hdiv : (rank + 1) / binadeSize = rank / binadeSize := by unfold binadeSize at *; omega
    rw [hmod, hdiv]
    refine mul_lt_mul_of_pos_right ?_ (hunit _)
    exact_mod_cast
      (by omega : binadeSize + rank % binadeSize < binadeSize + (rank % binadeSize + 1))

/-- Magnitudes ascend with the ranks. -/
theorem magnitude_strictMono : StrictMono magnitude :=
  strictMono_nat_of_lt_succ magnitude_lt_succ

/-- The magnitude of rank zero is zero. -/
theorem magnitude_zero : magnitude 0 = 0 := by
  simp [magnitude]

/-- No magnitude is below zero. -/
theorem magnitude_nonneg (rank : ℕ) : 0 ≤ magnitude rank := by
  rw [← magnitude_zero]
  exact magnitude_strictMono.monotone (Nat.zero_le rank)

/-! ## Order -/

/-- A magnitude with a minus sign is below one without exactly when not both are zero. -/
theorem neg_magnitude_lt_magnitude_iff (m n : ℕ) : -magnitude m < magnitude n ↔ 0 < m + n := by
  have hm := magnitude_nonneg m
  have hn := magnitude_nonneg n
  constructor
  · intro h
    by_contra hzero
    obtain ⟨rfl, rfl⟩ : m = 0 ∧ n = 0 := by omega
    rw [magnitude_zero, neg_zero] at h
    exact lt_irrefl 0 h
  · intro h
    rcases Nat.eq_zero_or_pos m with rfl | hpos
    · have hlt := magnitude_strictMono (by omega : 0 < n)
      rw [magnitude_zero] at hlt ⊢
      linarith
    · have hlt := magnitude_strictMono hpos
      rw [magnitude_zero] at hlt
      linarith

/-- The place of a finite number is before that of another exactly when its value is less. -/
theorem ordinal_lt_iff {x y : FiniteNumber} : x.ordinal < y.ordinal ↔ x.value < y.value := by
  have hx := magnitude_nonneg x.rank
  have hy := magnitude_nonneg y.rank
  unfold ordinal value
  cases x.negative <;> cases y.negative <;> simp only [Bool.false_eq_true, if_true, if_false]
  case false.false => rw [magnitude_strictMono.lt_iff_lt, Int.ofNat_lt]
  case false.true => exact iff_of_false (by omega) (by linarith)
  case true.false =>
    rw [neg_magnitude_lt_magnitude_iff]
    omega
  case true.true =>
    rw [neg_lt_neg_iff, neg_lt_neg_iff, magnitude_strictMono.lt_iff_lt, Int.ofNat_lt]

/-- The places of the finite numbers lie between those of the infinities. -/
theorem ordinal_bounds (x : FiniteNumber) :
    -(infiniteRank : ℤ) < x.ordinal ∧ x.ordinal < infiniteRank := by
  have hrank := x.rank_lt
  unfold ordinal
  split <;> omega

/-! ## Whole numbers -/

/-- A fraction of whole numbers is a whole number exactly when the lower one goes into the upper
one, and then it is their quotient. -/
theorem div_eq_natCast_iff {m d k : ℕ} (hd : 0 < d) : (m : ℚ) / d = k ↔ m % d = 0 ∧ m / d = k := by
  have hd' : (d : ℚ) ≠ 0 := by exact_mod_cast hd.ne'
  rw [div_eq_iff hd']
  constructor
  · intro h
    have hnat : m = k * d := by exact_mod_cast h
    rw [hnat]
    exact ⟨Nat.mul_mod_left k d, Nat.mul_div_cancel k hd⟩
  · rintro ⟨hmod, rfl⟩
    exact_mod_cast (Nat.div_mul_cancel (Nat.dvd_of_mod_eq_zero hmod)).symm

/-- The whole number that a magnitude is, unless it has a fraction. -/
theorem magnitude_eq_natCast_iff {x : FiniteNumber} {k : ℕ} :
    (if 0 ≤ x.exponent then some (x.significand * Nat.pow 2 x.exponent.toNat)
      else if x.significand % Nat.pow 2 (-x.exponent).toNat = 0 then
        some (x.significand / Nat.pow 2 (-x.exponent).toNat)
      else none) = some k ↔ magnitude x.rank = k := by
  rw [magnitude_rank]
  split
  next hnonneg =>
    have hpower : (2 : ℚ) ^ x.exponent = (Nat.pow 2 x.exponent.toNat : ℕ) := by
      conv_lhs => rw [← Int.toNat_of_nonneg hnonneg]
      rw [zpow_natCast, Nat.pow_eq]
      push_cast
      rfl
    rw [hpower, Option.some_inj]
    exact_mod_cast Iff.rfl
  next hneg =>
    -- Below the unit the magnitude is a quotient, and whole if nothing remains of the division.
    have hpower : (2 : ℚ) ^ x.exponent = ((Nat.pow 2 (-x.exponent).toNat : ℕ) : ℚ)⁻¹ := by
      have hexponent : x.exponent = -((-x.exponent).toNat : ℤ) := by omega
      conv_lhs => rw [hexponent]
      rw [zpow_neg, zpow_natCast, Nat.pow_eq]
      push_cast
      rfl
    have hpos : 0 < Nat.pow 2 (-x.exponent).toNat := Nat.pow_pos (by norm_num)
    rw [hpower, ← div_eq_mul_inv, div_eq_natCast_iff hpos]
    split
    next hmod => rw [Option.some_inj, and_iff_right hmod]
    next hmod => exact iff_of_false (by simp) fun h => hmod h.1

/-- A finite number is an integer exactly when its value is. -/
theorem whole?_eq_some_iff {x : FiniteNumber} {n : ℤ} : x.whole? = some n ↔ x.value = n := by
  have hsplit : x.whole? = some n ↔
      ∃ k : ℕ, magnitude x.rank = k ∧ (if x.negative then -(k : ℤ) else k) = n := by
    simp only [whole?, Option.map_eq_some_iff, Option.bind_eq_bind, Option.bind_eq_some_iff,
      magnitude_eq_natCast_iff, Option.pure_def, Option.some_inj, exists_exists_and_eq_and]
  have hnonneg := magnitude_nonneg x.rank
  rw [hsplit]
  unfold value
  -- The sign of the number is that of the integer, as a magnitude is never negative.
  cases x.negative with
  | false =>
    simp only [Bool.false_eq_true, if_false]
    constructor
    · rintro ⟨k, hk, rfl⟩
      exact_mod_cast hk
    · intro h
      have hn : 0 ≤ n := by rw [h] at hnonneg; exact_mod_cast hnonneg
      exact ⟨n.toNat, by rw [h]; exact_mod_cast (Int.toNat_of_nonneg hn).symm,
        Int.toNat_of_nonneg hn⟩
  | true =>
    simp only [if_true]
    constructor
    · rintro ⟨k, hk, rfl⟩
      rw [hk]
      push_cast
      rfl
    · intro h
      have hvalue : magnitude x.rank = -n := by rw [← h, neg_neg]
      have hn : 0 ≤ -n := by rw [hvalue] at hnonneg; exact_mod_cast hnonneg
      refine ⟨(-n).toNat, ?_, by omega⟩
      rw [hvalue]
      exact_mod_cast (Int.toNat_of_nonneg hn).symm

end FiniteNumber

/-- The rational numbers with an end on either side. -/
abbrev ExtendedRat := WithBotTop ℚ

namespace Number

/-- What a number is worth: a rational number, or one of the ends for an infinity. NaN is worth
nothing. -/
def value? : Number → Option ExtendedRat
  | finite x => some (x.value : ExtendedRat)
  | infinite negative => some (if negative then ⊥ else ⊤)
  | nan => none

/-- A finite number is worth its value. -/
@[simp] theorem value?_finite (x : FiniteNumber) :
    (finite x).value? = some (x.value : ExtendedRat) :=
  rfl

/-- Comparing places is comparing values. -/
theorem places_lt_iff {x y : Number} {m n : ℤ} {v w : ExtendedRat}
    (hm : x.ordinal? = some m) (hn : y.ordinal? = some n) (hv : x.value? = some v)
    (hw : y.value? = some w) : m < n ↔ v < w := by
  -- An infinity is beyond every finite number by its place and by its value.
  cases x with
  | nan => cases hm
  | finite x =>
    cases hm
    cases hv
    cases y with
    | nan => cases hn
    | finite y =>
      cases hn
      cases hw
      rw [WithBotTop.coe_lt_coe, FiniteNumber.ordinal_lt_iff]
    | infinite negative =>
      cases hn
      cases hw
      have hbounds := x.ordinal_bounds
      cases negative with
      | false => exact iff_of_true hbounds.2 (lt_top_iff_ne_top.2 (WithBotTop.coe_ne_top x.value))
      | true => exact iff_of_false (lt_asymm hbounds.1) not_lt_bot
  | infinite negative =>
    cases hm
    cases hv
    cases y with
    | nan => cases hn
    | finite y =>
      cases hn
      cases hw
      have hbounds := y.ordinal_bounds
      cases negative with
      | false =>
        exact iff_of_false (lt_asymm hbounds.2)
          (lt_asymm (lt_top_iff_ne_top.2 (WithBotTop.coe_ne_top y.value)))
      | true => exact iff_of_true hbounds.1 (bot_lt_iff_ne_bot.2 (WithBotTop.coe_ne_bot y.value))
    | infinite other =>
      cases hn
      cases hw
      revert negative other
      decide

/-- All numbers but NaN have a place and a value. -/
theorem exists_place_and_value {x : Number} (h : x ≠ nan) :
    ∃ m v, x.ordinal? = some m ∧ x.value? = some v := by
  cases x with
  | finite x => exact ⟨_, _, rfl, rfl⟩
  | infinite negative => exact ⟨_, _, rfl, rfl⟩
  | nan => exact absurd rfl h

/-- A number is less than another exactly when both have a value and that of the first is less. -/
theorem lt_iff {x y : Number} :
    x < y ↔ ∃ v w, x.value? = some v ∧ y.value? = some w ∧ v < w := by
  have hless : x < y ↔ x.isLess y = true := Iff.rfl
  by_cases hx : x = nan
  · subst hx
    simp [hless, isLess, ordinal?, value?]
  by_cases hy : y = nan
  · subst hy
    simp [hless, isLess, ordinal?, value?]
  obtain ⟨m, v, hm, hv⟩ := exists_place_and_value hx
  obtain ⟨n, w, hn, hw⟩ := exists_place_and_value hy
  simp only [hless, isLess, hm, hn, decide_eq_true_iff, places_lt_iff hm hn hv hw, hv, hw,
    Option.some_inj, exists_eq_left', exists_and_left]

/-- A finite number is not less than another exactly when its value is not, if the other has one. -/
theorem not_finite_lt_iff {x : FiniteNumber} {y : Number} :
    ¬ finite x < y ↔ ∀ w, y.value? = some w → w ≤ x.value := by
  simp [lt_iff]

/-- A finite number is not greater than another exactly when its value is not, if the other has
one. -/
theorem not_lt_finite_iff {x : FiniteNumber} {y : Number} :
    ¬ y < finite x ↔ ∀ w, y.value? = some w → x.value ≤ w := by
  simp [lt_iff]

/-- A number is an integer exactly when its value is. -/
theorem whole?_eq_some_iff {x : Number} {n : ℤ} :
    x.whole? = some n ↔ x.value? = some ((n : ℚ) : ExtendedRat) := by
  cases x with
  | finite x =>
    rw [whole?, FiniteNumber.whole?_eq_some_iff, value?_finite, Option.some_inj,
      WithBotTop.coe_injective.eq_iff]
  | infinite negative =>
    refine iff_of_false (by simp [whole?]) fun h => ?_
    cases negative with
    | false => exact WithBotTop.coe_ne_top _ (Option.some_inj.1 h).symm
    | true => exact WithBotTop.coe_ne_bot _ (Option.some_inj.1 h).symm
  | nan => simp [whole?, value?]

end Number

end Questionnaire
