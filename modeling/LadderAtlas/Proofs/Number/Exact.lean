import LadderAtlas.Number.Exact
import Mathlib.Data.Rat.Floor
import Mathlib.Tactic.Linarith

/-! # Exact numbers

The operations that rational numbers have as a scalar are the usual ones: the larger and the smaller
of two numbers, the integer part of an integer, the nearest integer. What a number is rounded to is
half away from it at most, also where decimals are rounded, unless it is cut off to 64 bits.
-/

namespace LadderAtlas

namespace Scalar

theorem max_eq (a b : Rat) : Scalar.max a b = Max.max a b := by
  have number : isNaN a = false := rfl
  rw [Scalar.max, number, max_def]
  rcases lt_trichotomy a b with less | rfl | more
  · simp [less, less.le]
  · simp
  · simp [more.not_gt, more.not_ge]

theorem min_eq (a b : Rat) : Scalar.min a b = Min.min a b := by
  have number : isNaN a = false := rfl
  rw [Scalar.min, number, min_def]
  rcases lt_trichotomy a b with less | rfl | more
  · simp [less.not_gt, less.le]
  · simp
  · simp [more, more.not_ge]

/-- What is held between two bounds is between them, if they do not cross. -/
theorem clamp_bounds {low high : Rat} (le : low ≤ high) (value : Rat) :
    low ≤ clamp low value high ∧ clamp low value high ≤ high := by
  rw [clamp, max_eq, min_eq]
  exact ⟨le_max_right _ _, max_le (min_le_right _ _) le⟩

end Scalar

namespace Exact

theorem integerPart_intCast (n : Int) : integerPart n = n := by
  unfold integerPart
  split
  · exact Rat.floor_intCast n
  · rw [← Int.cast_neg, Rat.floor_intCast, Int.neg_neg]

theorem floor_natCast_div (a b : Nat) : ((a : Rat) / b).floor = (a / b : Nat) := by
  have quotient := Rat.floor_intCast_div_natCast (a : Int) b
  rw [Int.cast_natCast] at quotient
  exact quotient.trans (Int.natCast_div a b).symm

/-- The integer part is towards zero on both sides. -/
theorem integerPart_neg (r : Rat) : integerPart (-r) = -integerPart r := by
  unfold integerPart
  rcases lt_trichotomy r 0 with negative | rfl | positive
  · rw [if_pos (by linarith), if_neg (by linarith), Int.neg_neg]
  · rfl
  · rw [if_neg (by linarith), if_pos positive.le, neg_neg]

/-- Halves go away from zero on both sides. -/
theorem nearest_neg (r : Rat) : nearest (-r) = -nearest r := by
  unfold nearest
  rcases lt_trichotomy r 0 with negative | rfl | positive
  · rw [if_pos (by linarith), if_neg (by linarith), Int.neg_neg]
  · decide +kernel
  · rw [if_neg (by linarith), if_pos positive.le, neg_neg]

theorem integerPart_natCast_div (a b : Nat) : integerPart ((a : Rat) / b) = (a / b : Nat) := by
  rw [integerPart, if_pos (by positivity), floor_natCast_div]

/-- Halfway between two whole numbers the upper one is taken. -/
theorem nearest_natCast_div (a : Nat) {b : Nat} (some : 0 < b) :
    nearest ((a : Rat) / b) = ((2 * a + b) / (2 * b) : Nat) := by
  have unit : (b : Rat) ≠ 0 := by exact_mod_cast some.ne'
  have shifted : (a : Rat) / b + 1 / 2 = ((2 * a + b : Nat) : Rat) / (2 * b : Nat) := by
    push_cast
    field_simp
  rw [nearest, if_pos (by positivity), shifted, floor_natCast_div]

theorem nearest_natCast (n : Nat) : nearest n = n := by
  have quotient := nearest_natCast_div n one_pos
  rw [Nat.cast_one, div_one] at quotient
  rw [quotient]
  omega

/-- Half above the nearest whole number there is nothing that is nearer to it. -/
theorem le_nearest_add_half (r : Rat) : r ≤ nearest r + 1 / 2 := by
  unfold nearest
  split
  · have above : r + 1 / 2 - 1 < (r + 1 / 2).floor := Rat.lt_floor
    linarith
  · have below : ((-r + 1 / 2).floor : Rat) ≤ -r + 1 / 2 := Rat.floor_le (-r + 1 / 2)
    push_cast
    linarith

theorem abs_nearest_sub_le (r : Rat) : |(nearest r : Rat) - r| ≤ 1 / 2 := by
  have above := le_nearest_add_half r
  have below := le_nearest_add_half (-r)
  rw [nearest_neg, Int.cast_neg] at below
  rw [abs_le]
  constructor <;> linarith

theorem nearest_nonneg {r : Rat} (nonneg : 0 ≤ r) : 0 ≤ nearest r := by
  rw [nearest, if_pos nonneg, Rat.le_floor_iff, Int.cast_zero]
  linarith

/-- Numbers on both sides of zero have zero between what they are rounded to. -/
theorem nearest_le_nearest {r s : Rat} (le : r ≤ s) : nearest r ≤ nearest s := by
  have upwards {r s : Rat} (nonneg : 0 ≤ r) (le : r ≤ s) : nearest r ≤ nearest s := by
    rw [nearest, nearest, if_pos nonneg, if_pos (nonneg.trans le), Rat.le_floor_iff]
    have below := Rat.floor_le (r + 1 / 2)
    linarith
  rcases le_total 0 r with low | low
  · exact upwards low le
  rcases le_total 0 s with high | high
  · have mirrored := nearest_nonneg (neg_nonneg.mpr low)
    rw [nearest_neg] at mirrored
    exact (neg_nonneg.mp mirrored).trans (nearest_nonneg high)
  · have mirrored := upwards (neg_nonneg.mpr high) (neg_le_neg le)
    rw [nearest_neg, nearest_neg] at mirrored
    exact Int.neg_le_neg_iff.mp mirrored

end Exact

/-! ## Rounding to 64 bits -/

theorem Scalar.nearestInt64_eq (r : Rat) : nearestInt64 r =
    Max.max (-0x8000_0000_0000_0000) (Min.min 0x7FFF_FFFF_FFFF_FFFF (Exact.nearest r)) := by
  change Max.max _ (Min.min _ (Exact.integerPart (Exact.nearest r))) = _
  rw [Exact.integerPart_intCast]

namespace Exact

/-- A whole number of 64 bits that a number is rounded to: the nearest one, or the greatest one if
    the nearest one is past it. -/
structure Rounded (n : Int) (r : Rat) : Prop where
  near : |r| ≤ 2 ^ 63 - 1 / 2 → |(n : Rat) - r| ≤ 1 / 2
  held : |r| < 2 ^ 63 → |(n : Rat) - r| < 1

theorem Rounded.of_near {n : Int} {r : Rat} (near : |(n : Rat) - r| ≤ 1 / 2) : Rounded n r :=
  ⟨fun _ => near, fun _ => near.trans_lt one_half_lt_one⟩

theorem rounded_nearestInt64 (r : Rat) : Rounded (Scalar.nearestInt64 r) r := by
  have near := abs_nearest_sub_le r
  rw [Scalar.nearestInt64_eq]
  generalize nearest r = n at near
  have bounds := abs_le.mp near
  by_cases fits : -0x8000_0000_0000_0000 ≤ n ∧ n ≤ 0x7FFF_FFFF_FFFF_FFFF
  · rw [min_eq_right fits.2, max_eq_right fits.1]
    exact .of_near near
  -- Of what is nearest to a number of that size, only 2 ^ 63 itself does not fit.
  have past (small : |r| < 2 ^ 63) : n = 0x8000_0000_0000_0000 := by
    obtain ⟨low, high⟩ := abs_lt.mp small
    have least : ((-0x8000_0000_0000_0001 : Int) : Rat) < n := by
      push_cast
      linarith
    have most : (n : Rat) < (0x8000_0000_0000_0001 : Int) := by
      push_cast
      linarith
    have least' := Int.cast_lt.mp least
    have most' := Int.cast_lt.mp most
    omega
  have cut (small : |r| < 2 ^ 63) :
      max (-0x8000_0000_0000_0000) (min 0x7FFF_FFFF_FFFF_FFFF n) = 0x7FFF_FFFF_FFFF_FFFF := by
    rw [past small]
    decide
  constructor
  · intro small
    have less : |r| < 2 ^ 63 := small.trans_lt (by norm_num)
    have high := (abs_le.mp small).2
    rw [past less] at bounds
    rw [cut less, abs_le]
    push_cast at bounds ⊢
    constructor <;> linarith
  · intro less
    have high := (abs_lt.mp less).2
    rw [past less] at bounds
    rw [cut less, abs_lt]
    push_cast at bounds ⊢
    constructor <;> linarith

/-- A whole number is rounded to itself. -/
theorem Rounded.eq_of_intCast {n m : Int} (rounded : Rounded n (m : Rat))
    (fits : |(m : Rat)| ≤ 2 ^ 63 - 1 / 2) :
    n = m := by
  have near : ((|n - m| : Int) : Rat) < (1 : Int) := by
    push_cast
    exact (rounded.near fits).trans_lt one_half_lt_one
  exact Int.sub_eq_zero.mp (Int.abs_lt_one_iff.mp (Int.cast_lt.mp near))

/-- Multiples of a step are told apart after they were rounded, if the step is one at least: with a
    step of exactly one nothing is rounded, and with a longer one two of them keep more than the
    halves apart by which they may move. -/
theorem Rounded.lt_of_multiples {step : Rat} (wide : 1 ≤ step) (high : 10 * step < 2 ^ 63)
    {n : Nat → Int} (rounded : ∀ k, Rounded (n k) (k * step)) {j k : Nat} (less : j < k)
    (le : k ≤ 10) : n j < n k := by
  have apart : (j : Rat) * step + step ≤ k * step := by
    have next : (j : Rat) + 1 ≤ k := by exact_mod_cast less
    nlinarith
  have size {i : Nat} (le : i ≤ 10) : |(i : Rat) * step| ≤ 10 * step := by
    have few : (i : Rat) ≤ 10 := by exact_mod_cast le
    rw [abs_of_nonneg (by positivity)]
    exact mul_le_mul_of_nonneg_right few (by linarith)
  have before : j ≤ 10 := less.le.trans le
  by_cases fits : 10 * step ≤ 2 ^ 63 - 1 / 2
  · rcases wide.eq_or_lt with rfl | wider
    · have whole {i : Nat} (le : i ≤ 10) : n i = i := by
        have multiple := rounded i
        have bound := (size le).trans fits
        rw [mul_one] at multiple bound
        exact Rounded.eq_of_intCast (by exact_mod_cast multiple) (by exact_mod_cast bound)
      rw [whole before, whole le]
      exact_mod_cast less
    · have lower := abs_le.mp ((rounded j).near ((size before).trans fits))
      have upper := abs_le.mp ((rounded k).near ((size le).trans fits))
      have order : (n j : Rat) < n k := by linarith
      exact Int.cast_lt.mp order
  · have lower := abs_lt.mp ((rounded j).held ((size before).trans_lt high))
    have upper := abs_lt.mp ((rounded k).held ((size le).trans_lt high))
    have order : (n j : Rat) < n k := by linarith
    exact Int.cast_lt.mp order

end Exact

/-! ## Rounding of decimals -/

theorem Decimal.abs_nearestEven_sub_le (a : Nat) {b : Nat} (some : 0 < b) :
    |(nearestEven a b : Rat) - (a : Rat) / b| ≤ 1 / 2 := by
  have unit : (0 : Rat) < b := by exact_mod_cast some
  have division : (a : Rat) = b * (a / b : Nat) + (a % b : Nat) := by
    exact_mod_cast (Nat.div_add_mod a b).symm
  have rest : (a : Rat) / b = (a / b : Nat) + (a % b : Nat) / b := by
    rw [division]
    field_simp
  have down (small : 2 * (a % b) ≤ b) : |((a / b : Nat) : Rat) - a / b| ≤ 1 / 2 := by
    have half : ((a % b : Nat) : Rat) / b ≤ 1 / 2 := by
      rw [div_le_div_iff₀ unit two_pos]
      exact_mod_cast (by omega : a % b * 2 ≤ 1 * b)
    have nonneg : (0 : Rat) ≤ (a % b : Nat) / b := by positivity
    rw [rest, abs_le]
    constructor <;> linarith
  have up (large : b ≤ 2 * (a % b)) : |((a / b + 1 : Nat) : Rat) - a / b| ≤ 1 / 2 := by
    have half : 1 / 2 ≤ ((a % b : Nat) : Rat) / b := by
      rw [div_le_div_iff₀ two_pos unit]
      exact_mod_cast (by omega : 1 * b ≤ a % b * 2)
    have less : ((a % b : Nat) : Rat) / b < 1 := by
      rw [div_lt_one unit]
      exact_mod_cast Nat.mod_lt a some
    rw [rest, abs_le]
    push_cast
    constructor <;> linarith
  unfold nearestEven
  dsimp only
  split
  · exact down (by omega)
  split
  · exact up (by omega)
  split
  · exact down (by omega)
  · exact up (by omega)

end LadderAtlas
