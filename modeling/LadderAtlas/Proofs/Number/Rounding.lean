import Mathlib

/-! # Rounding to nearest

An operation on doubles computes the exact result to enough bits and cuts off the rest, keeping one
bit that was cut off and whether anything else was. This module follows the bits: nothing that
rounding depends on is lost, the mantissa and the exponent that come out are as they are stored, and
no number that can be stored is nearer to the exact result. Exponents are not bounded here; what is
too large becomes an infinity only when it is packed.
-/

namespace LadderAtlas.Binary64

open Float.Model (Format UnpackedFloat totalExponent)
open Float.Model.UnpackedFloat

/-! ## Storable numbers -/

/-- A number that a double would have room for if there were no greatest exponent. -/
def Storable (x : Rat) : Prop := ∃ m e : Int, |m| ≤ 2 ^ 53 ∧ -1074 ≤ e ∧ x = m * 2 ^ e

theorem Storable.neg {x : Rat} (h : Storable x) : Storable (-x) := by
  obtain ⟨m, e, fits, least, rfl⟩ := h
  exact ⟨-m, e, by rwa [abs_neg], least, by push_cast; ring⟩

theorem Storable.abs {x : Rat} (h : Storable x) : Storable |x| := by
  rcases abs_choice x with same | negated
  · rwa [same]
  · rw [negated]
    exact h.neg

theorem storable_zero : Storable 0 := ⟨0, 0, by norm_num, by norm_num, by norm_num⟩

theorem storable_two_zpow {e : Int} (least : -1074 ≤ e) : Storable (2 ^ e) :=
  ⟨1, e, by norm_num, least, by simp⟩

theorem storable_one : Storable 1 := storable_two_zpow (e := 0) (by norm_num)

/-- Numbers that can be stored do not come closer to one another than the least of them to zero. -/
theorem Storable.le_sub {x y : Rat} (hx : Storable x) (hy : Storable y) (lt : x < y) :
    (2 : Rat) ^ (-1074 : Int) ≤ y - x := by
  have whole {z : Rat} (h : Storable z) : ∃ k : Int, z = k * 2 ^ (-1074 : Int) := by
    obtain ⟨m, e, -, least, rfl⟩ := h
    obtain ⟨shift, rfl⟩ := Int.le.dest least
    refine ⟨m * 2 ^ shift, ?_⟩
    rw [zpow_add₀ two_ne_zero, zpow_natCast, mul_comm (2 ^ (-1074 : Int)), ← mul_assoc,
      Int.cast_mul, Int.cast_pow, Int.cast_ofNat]
  obtain ⟨j, rfl⟩ := whole hx
  obtain ⟨k, rfl⟩ := whole hy
  have unit : (0 : Rat) < 2 ^ (-1074 : Int) := by positivity
  have less : j + 1 ≤ k := Int.cast_lt.mp (lt_of_mul_lt_mul_right lt unit.le)
  have apart : (1 : Rat) ≤ k - j := by
    have : ((j + 1 : Int) : Rat) ≤ k := by exact_mod_cast less
    push_cast at this
    linarith
  calc (2 : Rat) ^ (-1074 : Int)
    _ ≤ (k - j) * 2 ^ (-1074 : Int) := le_mul_of_one_le_left unit.le apart
    _ = k * 2 ^ (-1074 : Int) - j * 2 ^ (-1074 : Int) := sub_mul _ _ _

/-- There is nothing to store between two mantissas next to one another. -/
theorem Storable.le_or_ge {x : Rat} (h : Storable x) {m : Nat} {e : Int}
    (full : 2 ^ 52 ≤ m ∨ e = -1074) :
    x ≤ m * 2 ^ e ∨ (m + 1 : Nat) * 2 ^ e ≤ x := by
  obtain ⟨k, f, fits, least, rfl⟩ := h
  have unit : (0 : Rat) < 2 ^ e := by positivity
  by_cases coarser : e ≤ f
  · -- The number is a multiple of the last place.
    obtain ⟨shift, rfl⟩ := Int.le.dest coarser
    have whole : (k : Rat) * 2 ^ (e + shift) = (k * 2 ^ shift : Int) * 2 ^ e := by
      rw [zpow_add₀ two_ne_zero, zpow_natCast]
      push_cast
      ring
    rw [whole]
    rcases le_or_gt (k * 2 ^ shift) m with below | above
    · exact .inl (mul_le_mul_of_nonneg_right (by exact_mod_cast below) unit.le)
    · exact .inr (mul_le_mul_of_nonneg_right (by exact_mod_cast above) unit.le)
  · -- The number has a finer last place, so it is no larger than the least full mantissa.
    have large : 2 ^ 52 ≤ m := full.resolve_right (by omega)
    left
    calc (k : Rat) * 2 ^ f ≤ 2 ^ 53 * 2 ^ f := by
          gcongr
          exact_mod_cast (le_abs_self k).trans fits
      _ = 2 ^ 52 * 2 ^ (f + 1) := by
          rw [zpow_add₀ two_ne_zero]
          ring
      _ ≤ m * 2 ^ e := by
          gcongr
          · exact_mod_cast large
          · norm_num
          · omega

/-! ## Nearest storable numbers -/

/-- The number `r` can be stored, and no number that can is nearer to `x`. -/
structure Nearest (x r : Rat) : Prop where
  storable : Storable r
  least : ∀ y, Storable y → |x - r| ≤ |x - y|

theorem Nearest.neg {x r : Rat} (h : Nearest x r) : Nearest (-x) (-r) := by
  refine ⟨h.storable.neg, fun y storable => ?_⟩
  calc |-x - -r| = |x - r| := by rw [← neg_sub', abs_neg]
    _ ≤ |x - -y| := h.least (-y) storable.neg
    _ = |-x - y| := by rw [← abs_neg, neg_sub', neg_neg]

theorem Storable.nearest {x : Rat} (h : Storable x) : Nearest x x := by
  refine ⟨h, fun y _ => ?_⟩
  rw [sub_self, abs_zero]
  exact abs_nonneg _

theorem Nearest.eq {x r : Rat} (h : Nearest x r) (storable : Storable x) : r = x := by
  have none : |x - r| ≤ |x - x| := h.least x storable
  rw [sub_self, abs_zero] at none
  exact (sub_eq_zero.mp (abs_eq_zero.mp (le_antisymm none (abs_nonneg _)))).symm

/-- Rounding keeps the order of different numbers. -/
theorem Nearest.le_of_lt {x y r q : Rat} (hx : Nearest x r) (hy : Nearest y q)
    (lt : x < y) : r ≤ q := by
  by_contra above
  -- Then `x` is past the middle between the two, and `y` is not.
  have past := hx.least q hy.storable
  have before := hy.least r hx.storable
  rcases abs_cases (x - r) with ⟨h₁, _⟩ | ⟨h₁, _⟩ <;> rcases abs_cases (x - q) with
    ⟨h₂, _⟩ | ⟨h₂, _⟩ <;>
    rcases abs_cases (y - r) with ⟨h₃, _⟩ | ⟨h₃, _⟩ <;>
    rcases abs_cases (y - q) with
      ⟨h₄, _⟩ | ⟨h₄, _⟩ <;> rw [h₁, h₂] at past <;> rw [h₃, h₄] at before <;>
    linarith

theorem Nearest.le {x r y : Rat} (h : Nearest x r) (storable : Storable y)
    (le : x ≤ y) : r ≤ y := by
  rcases le.lt_or_eq with lt | rfl
  · exact h.le_of_lt storable.nearest lt
  · exact (h.eq storable).le

theorem Nearest.ge {x r y : Rat} (h : Nearest x r) (storable : Storable y)
    (le : y ≤ x) : y ≤ r := by
  rcases le.lt_or_eq with lt | rfl
  · exact storable.nearest.le_of_lt h lt
  · exact (h.eq storable).ge

theorem Nearest.abs_bounded {x r y : Rat} (h : Nearest x r) (storable : Storable y) (le : |x| ≤ y) :
    |r| ≤ y := by
  obtain ⟨low, high⟩ := abs_le.mp le
  exact abs_le.mpr ⟨h.ge storable.neg low, h.le storable high⟩

/-- Where there is nothing to store between two numbers, the nearer one of the two is nearest. -/
theorem nearest_of_gap {x r low high : Rat} (gap : ∀ y, Storable y → y ≤ low ∨ high ≤ y)
    (storable : Storable r) (below : |x - r| ≤ x - low) (above : |x - r| ≤ high - x) :
    Nearest x r := by
  refine ⟨storable, fun y other => ?_⟩
  rcases gap y other with le | ge
  · exact le_abs.mpr (.inl (by linarith))
  · exact le_abs.mpr (.inr (by linarith))

/-! ## Mantissas that are cut off -/

/-- What is known of a number when its fraction is cut off and leaves the mantissa `m`. -/
def Cut (m : Nat) : Accuracy → Rat → Prop
  | .exact, y => y = m
  | .inexact .lt, y => m < y ∧ y < m + 1 / 2
  | .inexact .eq, y => y = m + 1 / 2
  | .inexact .gt, y => m + 1 / 2 < y ∧ y < m + 1

theorem cut_ofMantissaAndAccuracy (m : Nat) (a : Accuracy) :
    (ExtendedMantissa.ofMantissaAndAccuracy m a).mantissa = m ∧
      (ExtendedMantissa.ofMantissaAndAccuracy m a).accuracy = a := by
  rcases a with _ | ⟨_ | _ | _⟩ <;> exact ⟨rfl, rfl⟩

/-- The bit that is cut off with a shift becomes the first bit of the fraction. -/
theorem Cut.shiftRightOne {em : ExtendedMantissa} {y : Rat} (h : Cut em.mantissa em.accuracy y) :
    Cut em.shiftRightOne.mantissa em.shiftRightOne.accuracy (y / 2) := by
  obtain ⟨m, r, s⟩ := em
  have split : ((m / 2 : Nat) : Rat) * 2 + (m % 2 : Nat) = m := by
    exact_mod_cast Nat.div_add_mod' m 2
  rcases Nat.mod_two_eq_zero_or_one m with parity | parity <;> rw [parity] at split <;> cases r <;>
    cases s <;> simp_all only [ExtendedMantissa.shiftRightOne, ExtendedMantissa.accuracy, Cut] <;>
    grind

theorem Cut.shiftRight {em : ExtendedMantissa} {y : Rat}
    (h : Cut em.mantissa em.accuracy y) (k : Nat) :
    Cut (em >>> k).mantissa (em >>> k).accuracy (y / 2 ^ k) := by
  change Cut (Nat.repeat ExtendedMantissa.shiftRightOne k em).mantissa
    (Nat.repeat ExtendedMantissa.shiftRightOne k em).accuracy _
  induction k with
  | zero => simpa [Nat.repeat] using h
  | succ k ih =>
      rw [pow_succ, ← div_div]
      exact ih.shiftRightOne

theorem Cut.bounds {m : Nat} {a : Accuracy} {y : Rat} (h : Cut m a y) :
    (m : Rat) ≤ y ∧ y < m + 1 := by
  rcases a with _ | ⟨_ | _ | _⟩ <;> simp only [Cut] at h <;> constructor <;> linarith

/-- A fraction is rounded down up to the middle, and up from the middle on. -/
theorem Cut.rounded {m : Nat} {a : Accuracy} {y : Rat} (h : Cut m a y) :
    a.roundToNearestEven m = m ∧ y ≤ m + 1 / 2 ∨ a.roundToNearestEven m = m + 1 ∧
      m + 1 / 2 ≤ y := by
  rcases a with _ | ⟨_ | _ | _⟩
  · exact .inl ⟨rfl, by simp only [Cut] at h; linarith⟩
  · exact .inl ⟨rfl, h.2.le⟩
  · rcases Nat.mod_two_eq_zero_or_one m with even | odd
    · exact .inl ⟨by simp [Accuracy.roundToNearestEven, even], h.le⟩
    · exact .inr ⟨by simp [Accuracy.roundToNearestEven, odd], h.ge⟩
  · exact .inr ⟨rfl, h.1.le⟩

theorem cut_accuracyOfFraction (q : Nat) {num den : Nat} (less : num < den) :
    Cut q (accuracyOfFraction num den) (q + num / den) := by
  have pos : (0 : Rat) < den := by exact_mod_cast Nat.zero_lt_of_lt less
  rw [accuracyOfFraction]
  split
  · next none => simp [Cut, none]
  · next some =>
      have some' : (0 : Rat) < num := by exact_mod_cast Nat.pos_of_ne_zero some
      have less' : (num : Rat) < den := by exact_mod_cast less
      cases order : compare (2 * num) den with
      | lt =>
          have half : (2 * num : Rat) < den := by exact_mod_cast Nat.compare_eq_lt.mp order
          refine ⟨?_, ?_⟩
          · have := div_pos some' pos
            linarith
          · have := (div_lt_iff₀ pos).mpr (show (num : Rat) < 1 / 2 * den by linarith)
            linarith
      | eq =>
          have half : (2 * num : Rat) = den := by exact_mod_cast Nat.compare_eq_eq.mp order
          have := (div_eq_iff pos.ne').mpr (show (num : Rat) = 1 / 2 * den by linarith)
          simp only [Cut]
          linarith
      | gt =>
          have half : (den : Rat) < 2 * num := by exact_mod_cast Nat.compare_eq_gt.mp order
          refine ⟨?_, ?_⟩
          · have := (lt_div_iff₀ pos).mpr (show 1 / 2 * den < (num : Rat) by linarith)
            linarith
          · have := (div_lt_one pos).mpr less'
            linarith

/-! ## Rounding -/

/-- A mantissa and an exponent as they are stored: the leading bit is there unless the exponent is
    the least. -/
structure Canonical (m : Nat) (e : Int) : Prop where
  fits : m < 2 ^ 53
  least : -1074 ≤ e
  full : 2 ^ 52 ≤ m ∨ e = -1074

/-- The number that is unpacked to a sign, a mantissa and an exponent; zero for what is no
    number. -/
def value : UnpackedFloat → Rat
  | .finite s m e _ => (s.apply m : Int) * 2 ^ e
  | _ => 0

/-- Zero, or a number in canonical form. -/
def Stored : UnpackedFloat → Prop
  | .finite _ m e _ => Canonical m e
  | .zero _ => True
  | _ => False

theorem Stored.cases {u : UnpackedFloat} (h : Stored u) :
    (∃ s, u = .zero s) ∨ ∃ s m e pos, u = .finite s m e pos ∧ Canonical m e := by
  cases u with
  | notANumber => cases h
  | infinity s => cases h
  | zero s => exact .inl ⟨s, rfl⟩
  | finite s m e pos => exact .inr ⟨s, m, e, pos, rfl, h⟩

/-- What rounding makes of `x`, for an exponent as large as it may be. -/
structure Rounded (x : Rat) (u : UnpackedFloat) : Prop where
  stored : Stored u
  nearest : Nearest x (value u)

theorem apply_eq (s : Sign) (n : Int) : s.apply n = s.apply 1 * n := by
  cases s <;> simp [Sign.apply]

theorem Stored.storable {u : UnpackedFloat} (h : Stored u) : Storable (value u) := by
  obtain ⟨s, rfl⟩ | ⟨s, m, e, pos, rfl, canonical⟩ := h.cases
  · exact storable_zero
  · refine ⟨s.apply m, e, ?_, canonical.least, rfl⟩
    have fits := canonical.fits
    cases s <;> simp only [Sign.apply, abs_neg, Nat.abs_cast] <;> omega

/-- What is stored needs no rounding. -/
theorem Stored.rounded {u : UnpackedFloat} (h : Stored u) : Rounded (value u) u :=
  ⟨h, h.storable.nearest⟩

theorem rounded_zero (s : Sign) : Rounded 0 (.zero s) :=
  Stored.rounded (u := .zero s) trivial

theorem targetExponent_eq (m : Nat) (e : Int) :
    Format.binary64.targetExponent (totalExponent m e) = max (m.log2 + e - 52) (-1074) := by
  change max ((m.log2 : Int) + 1 + e - (53 : Nat)) (3 - 2 ^ 10 - (53 : Nat)) = _
  omega

theorem shiftRight_mantissa (em : ExtendedMantissa) (k : Nat) :
    (em >>> k).mantissa = em.mantissa / 2 ^ k := by
  change (Nat.repeat ExtendedMantissa.shiftRightOne k em).mantissa = _
  induction k with
  | zero => simp [Nat.repeat]
  | succ k ih =>
      change (Nat.repeat ExtendedMantissa.shiftRightOne k em).mantissa / 2 = _
      rw [ih, Nat.div_div_eq_div_mul, pow_succ]

/-- A mantissa with enough bits is shifted into canonical form. -/
theorem canonical_shifted {m k : Nat} {e : Int} (enough : 2 ^ 52 ≤ m ∨ e ≤ -1074)
    (target : max (m.log2 + e - 52) (-1074) = e + k) : Canonical (m / 2 ^ k) (e + k) := by
  refine ⟨?_, by omega, ?_⟩
  · rw [Nat.div_lt_iff_lt_mul (by positivity), ← pow_add]
    exact Nat.lt_log2_self.trans_le (Nat.pow_le_pow_right two_pos (by omega))
  · by_cases least : e + k = -1074
    · exact .inr least
    · left
      have some : m ≠ 0 := by
        rintro rfl
        rw [Nat.log2_zero] at target
        omega
      rw [Nat.le_div_iff_mul_le (by positivity), ← pow_add]
      exact (Nat.pow_le_pow_right two_pos (by omega)).trans (Nat.log2_self_le some)

/-- Nothing that rounding depends on is lost with the bits that are shifted out. -/
theorem shiftToTargetExponent_spec {m : Nat} {e : Int} {a : Accuracy} {y : Rat} (cut : Cut m a y)
    (enough : 2 ^ 52 ≤ m ∨ e ≤ -1074) :
    let shifted := shiftToTargetExponent Format.binary64 m e a
    Canonical shifted.1.mantissa shifted.2 ∧
      ∃ z, Cut shifted.1.mantissa shifted.1.accuracy z ∧ z * 2 ^ shifted.2 = y * 2 ^ e := by
  intro shifted
  have bits (large : 2 ^ 52 ≤ m) : 52 ≤ m.log2 := (Nat.le_log2 (by omega)).mpr large
  obtain ⟨k, target⟩ : ∃ k : Nat, max (m.log2 + e - 52) (-1074) = e + k := by
    refine ⟨(max (m.log2 + e - 52) (-1074) - e).toNat, ?_⟩
    rcases enough with large | small
    · have := bits large
      omega
    · omega
  have parts : shifted = (ExtendedMantissa.ofMantissaAndAccuracy m a >>> k, e + k) := by
    have amount : (e + k - e).toNat = k := by omega
    simp only [shifted, shiftToTargetExponent, shiftToExponent, targetExponent_eq, target, amount]
  obtain ⟨start, accuracy⟩ := cut_ofMantissaAndAccuracy m a
  rw [parts]
  refine ⟨?_, y / 2 ^ k, Cut.shiftRight (by rwa [start, accuracy]) k, ?_⟩
  · rw [shiftRight_mantissa, start]
    exact canonical_shifted enough target
  · rw [zpow_add₀ two_ne_zero, zpow_natCast]
    field_simp

/-- A number that can be stored has no fraction to cut off. -/
theorem Canonical.eq_of_cut {m : Nat} {e : Int} {a : Accuracy} {z : Rat} (h : Canonical m e)
    (cut : Cut m a z) (storable : Storable (z * 2 ^ e)) : z = m := by
  have unit : (0 : Rat) < 2 ^ e := by positivity
  obtain ⟨low, high⟩ := cut.bounds
  rcases storable.le_or_ge h.full with le | ge
  · exact le_antisymm (le_of_mul_le_mul_right le unit) low
  · have above : ((m + 1 : Nat) : Rat) ≤ z := le_of_mul_le_mul_right ge unit
    push_cast at above
    linarith

/-- Cutting off and rounding gives a nearest number. -/
theorem Canonical.nearest {m : Nat} {e : Int} {a : Accuracy} {z : Rat} (h : Canonical m e)
    (cut : Cut m a z) : Nearest (z * 2 ^ e) (a.roundToNearestEven m * 2 ^ e) := by
  have unit : (0 : Rat) < 2 ^ e := by positivity
  have scaled {p q : Rat} (le : p ≤ q) : p * 2 ^ e ≤ q * 2 ^ e :=
    mul_le_mul_of_nonneg_right le unit.le
  obtain ⟨low, high⟩ := cut.bounds
  have low' := scaled low
  have high' := scaled high.le
  have fits := h.fits
  have gap (y : Rat) (other : Storable y) : y ≤ m * 2 ^ e ∨ (m + 1 : Rat) * 2 ^ e ≤ y := by
    exact_mod_cast other.le_or_ge h.full
  have storable (k : Nat) (le : k ≤ m + 1) : Storable (k * 2 ^ e) := by
    refine ⟨k, e, ?_, h.least, by push_cast; rfl⟩
    rw [Nat.abs_cast]
    omega
  rcases cut.rounded with ⟨down, half⟩ | ⟨up, half⟩
  · have half' := scaled half
    have same : |z * 2 ^ e - m * 2 ^ e| = z * 2 ^ e - m * 2 ^ e := abs_of_nonneg (by linarith)
    rw [down]
    exact nearest_of_gap gap (storable m (by omega)) same.le (by rw [same]; linarith)
  · have half' := scaled half
    have same : |z * 2 ^ e - (m + 1 : Nat) * 2 ^ e| = (m + 1 : Rat) * 2 ^ e - z * 2 ^ e := by
      push_cast
      rw [abs_of_nonpos (by linarith)]
      ring
    rw [up]
    exact nearest_of_gap gap (storable (m + 1) le_rfl) (by rw [same]; linarith) same.le

theorem Nearest.apply {x r : Rat} (h : Nearest x r) (s : Sign) :
    Nearest ((s.apply 1 : Int) * x) ((s.apply 1 : Int) * r) := by
  cases s
  · simpa [Sign.apply] using h.neg
  · simpa [Sign.apply] using h

/-- Rounding leaves a nearest number in canonical form. -/
theorem rounded_roundWithAccuracy (s : Sign) {m : Nat} {e : Int} {a : Accuracy} {y : Rat}
    (cut : Cut m a y) (enough : 2 ^ 52 ≤ m ∨ e ≤ -1074) :
    Rounded ((s.apply 1 : Int) * (y * 2 ^ e)) (roundWithAccuracy Format.binary64 s m e a) := by
  obtain ⟨first, z, cut₁, same⟩ := shiftToTargetExponent_spec cut enough
  unfold roundWithAccuracy
  generalize shiftToTargetExponent Format.binary64 m e a = shifted at *
  obtain ⟨em, e₁⟩ := shifted
  dsimp only at *
  have nearest : Nearest (y * 2 ^ e) (em.roundedMantissa * 2 ^ e₁) := same ▸ first.nearest cut₁
  -- The mantissa may have been rounded up to one bit more, so it is shifted again.
  have enough₁ : 2 ^ 52 ≤ em.roundedMantissa ∨ e₁ ≤ -1074 := by
    rcases first.full with large | least
    · left
      rcases cut₁.rounded with ⟨down, _⟩ | ⟨up, _⟩
      · exact large.trans down.ge
      · exact (large.trans (Nat.le_succ _)).trans up.ge
    · exact .inr least.le
  obtain ⟨second, z', cut₂, same₂⟩ := shiftToTargetExponent_spec (a := .exact) rfl enough₁
  generalize shiftToTargetExponent Format.binary64 em.roundedMantissa e₁ .exact = shifted at *
  obtain ⟨em', e₂⟩ := shifted
  dsimp only at *
  have whole : z' = em'.mantissa := second.eq_of_cut cut₂ (same₂ ▸ nearest.storable)
  rw [← same₂, whole] at nearest
  split
  · next none =>
      refine ⟨trivial, ?_⟩
      have zero := nearest.apply s
      rw [none, Nat.cast_zero, zero_mul, mul_zero] at zero
      exact zero
  · refine ⟨second, ?_⟩
    rw [value, apply_eq s em'.mantissa]
    push_cast
    rw [mul_assoc]
    exact nearest.apply s

theorem decreaseExponent_eq {m : Nat} {e t : Int} (le : t ≤ e) :
    (decreaseExponent m e t).2 = t ∧
      ((decreaseExponent m e t).1 : Rat) * 2 ^ t = m * 2 ^ e := by
  obtain ⟨k, rfl⟩ := Int.le.dest le
  have shift : (t + k - t).toNat = k := by omega
  simp only [decreaseExponent, shift, Nat.shiftLeft_eq]
  refine ⟨by omega, ?_⟩
  rw [zpow_add₀ two_ne_zero, zpow_natCast]
  push_cast
  ring

theorem rounded_round (s : Sign) {m : Nat} (some : m ≠ 0) (e : Int) :
    Rounded ((s.apply 1 : Int) * (m * 2 ^ e)) (UnpackedFloat.round Format.binary64 s m e) := by
  unfold UnpackedFloat.round
  simp only [targetExponent_eq]
  generalize target : max (m.log2 + e - 52) (-1074) = t
  rcases le_or_gt t e with le | gt
  · -- Zeros are appended up to the last place, so no bits are cut off.
    obtain ⟨exponent, value⟩ := decreaseExponent_eq (m := m) le
    rw [← value, exponent]
    refine rounded_roundWithAccuracy s rfl ?_
    rcases eq_or_ne t (-1074) with least | greater
    · exact .inr least.le
    · left
      have shift : (e - t).toNat = 52 - m.log2 := by omega
      simp only [decreaseExponent, shift, Nat.shiftLeft_eq]
      calc 2 ^ 52 = 2 ^ m.log2 * 2 ^ (52 - m.log2) := by rw [← pow_add]; congr 1; omega
        _ ≤ m * 2 ^ (52 - m.log2) := Nat.mul_le_mul_right _ (Nat.log2_self_le some)
  · have same : decreaseExponent m e t = (m, e) := by
      have none : (e - t).toNat = 0 := by omega
      simp [decreaseExponent, none]
    rw [same]
    refine rounded_roundWithAccuracy s rfl ?_
    rcases le_or_gt 52 m.log2 with large | small
    · exact .inl ((Nat.le_log2 some).mp large)
    · exact .inr (by omega)

theorem rounded_normalize (n e : Int) :
    Rounded (n * 2 ^ e) (UnpackedFloat.normalize Format.binary64 n e .positive) := by
  unfold UnpackedFloat.normalize
  rcases lt_trichotomy n 0 with negative | rfl | positive
  · have result := rounded_round .negative (m := (-n).toNat) (by omega) e
    have magnitude : ((-n).toNat : Rat) = -n := by
      exact_mod_cast Int.toNat_of_nonneg (show 0 ≤ -n by omega)
    rw [magnitude] at result
    rw [Int.compare_eq_lt.mpr negative]
    simpa [Sign.apply] using result
  · simpa using rounded_zero .positive
  · have result := rounded_round .positive (m := n.toNat) (by omega) e
    have magnitude : (n.toNat : Rat) = n := by
      exact_mod_cast Int.toNat_of_nonneg positive.le
    rw [magnitude] at result
    rw [Int.compare_eq_gt.mpr positive]
    simpa [Sign.apply] using result

end LadderAtlas.Binary64
