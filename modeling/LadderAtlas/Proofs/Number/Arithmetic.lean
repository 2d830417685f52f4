import LadderAtlas.Number.Scalar
import LadderAtlas.Proofs.Number.Packing

/-! # Arithmetic of doubles

Differences, products, quotients and the doubles of integers are nearest to the exact rational
results, unless these are beyond the largest double. So results can be bounded with rational
numbers: what is between two doubles is not rounded to anything outside of them.
-/

namespace LadderAtlas.Binary64

open Float.Model (Format UnpackedFloat totalExponent)
open Float.Model.UnpackedFloat

/-! ## Operations on what is unpacked -/

theorem Stored.neg {u : UnpackedFloat} (h : Stored u) : Stored u.neg ∧ value u.neg = -value u := by
  obtain ⟨s, rfl⟩ | ⟨s, m, e, pos, rfl, canonical⟩ := h.cases
  · exact ⟨trivial, neg_zero.symm⟩
  · exact ⟨canonical, by cases s <;> simp [UnpackedFloat.neg, value, Sign.apply]⟩

theorem rounded_sub {u v : UnpackedFloat} (hu : Stored u) (hv : Stored v) :
    Rounded (value u - value v) (UnpackedFloat.sub Format.binary64 u v) := by
  obtain ⟨s, rfl⟩ | ⟨s, m, e, pos, rfl, canonical⟩ := hu.cases
  · obtain ⟨s', rfl⟩ | ⟨s', m', e', pos', rfl, canonical'⟩ := hv.cases
    · have none : value (.zero s) - value (.zero s') = 0 := sub_self 0
      rw [none, UnpackedFloat.sub]
      split <;> exact rounded_zero _
    · obtain ⟨stored, negated⟩ := hv.neg
      have difference : value (.zero s) - value (.finite s' m' e' pos') =
          value (.finite s' m' e' pos' : UnpackedFloat).neg := by
        rw [negated]
        exact zero_sub _
      rw [difference]
      exact stored.rounded
  · obtain ⟨s', rfl⟩ | ⟨s', m', e', pos', rfl, canonical'⟩ := hv.cases
    · have difference : value (.finite s m e pos) - value (.zero s') = value (.finite s m e pos) :=
        sub_zero _
      rw [difference]
      exact hu.rounded
    · obtain ⟨-, left⟩ := decreaseExponent_eq (m := m) (min_le_left e e')
      obtain ⟨-, right⟩ := decreaseExponent_eq (m := m') (min_le_right e e')
      have difference : value (.finite s m e pos) - value (.finite s' m' e' pos') =
          (s.apply (decreaseExponent m e (min e e')).1 -
            s'.apply (decreaseExponent m' e' (min e e')).1 : Int) * 2 ^ min e e' := by
        rw [value, value, apply_eq s, apply_eq s', apply_eq s (decreaseExponent _ _ _).1,
          apply_eq s' (decreaseExponent _ _ _).1]
        push_cast
        rw [mul_assoc, mul_assoc, ← left, ← right]
        ring
      rw [difference]
      exact rounded_normalize _ _

theorem rounded_mul {u v : UnpackedFloat} (hu : Stored u) (hv : Stored v) :
    Rounded (value u * value v) (UnpackedFloat.mul Format.binary64 u v) := by
  obtain ⟨s, rfl⟩ | ⟨s, m, e, pos, rfl, canonical⟩ := hu.cases
  · have none : value (.zero s) * value v = 0 := zero_mul _
    rw [none]
    obtain ⟨s', rfl⟩ | ⟨s', m', e', pos', rfl, canonical'⟩ := hv.cases <;> exact rounded_zero _
  · obtain ⟨s', rfl⟩ | ⟨s', m', e', pos', rfl, canonical'⟩ := hv.cases
    · have none : value (.finite s m e pos) * value (.zero s') = 0 := mul_zero _
      rw [none]
      exact rounded_zero _
    · have enough : 2 ^ 52 ≤ m * m' ∨ e + e' ≤ -1074 := by
        rcases canonical.full with large | least
        · exact .inl (large.trans (Nat.le_mul_of_pos_right m pos'))
        · rcases canonical'.full with large | least'
          · exact .inl (large.trans (Nat.le_mul_of_pos_left m' pos))
          · exact .inr (by omega)
      have signs : (s * s').apply 1 = s.apply 1 * s'.apply 1 := by cases s <;> cases s' <;> rfl
      have product : value (.finite s m e pos) * value (.finite s' m' e' pos') =
          ((s * s').apply 1 : Int) * ((m * m' : Nat) * 2 ^ (e + e')) := by
        rw [value, value, apply_eq s, apply_eq s', signs, zpow_add₀ two_ne_zero]
        push_cast
        ring
      rw [product]
      exact rounded_roundWithAccuracy (s * s') rfl enough

/-- A quotient is computed to bits enough, and what is left is told by its fraction. -/
theorem divCore_spec {m m' : Nat} (pos : 0 < m) (pos' : 0 < m') (e e' : Int) :
    let quotient := divCore Format.binary64 m e m' e'
    (2 ^ 52 ≤ quotient.1 ∨ quotient.2.1 ≤ -1074) ∧
      ∃ y, Cut quotient.1 quotient.2.2 y ∧ y * 2 ^ quotient.2.1 = m * 2 ^ e / (m' * 2 ^ e') := by
  intro quotient
  have target : Format.binary64.targetExponent (totalExponent m e - totalExponent m' e') =
      max (m.log2 + e - (m'.log2 + e') - 53) (-1074) := by
    change max (((m.log2 : Int) + 1 + e) - (m'.log2 + 1 + e') - (53 : Nat))
      (3 - 2 ^ 10 - (53 : Nat)) = _
    omega
  generalize place : min (e - e')
    (Format.binary64.targetExponent (totalExponent m e - totalExponent m' e')) = t
  obtain ⟨k, shift⟩ : ∃ k : Nat, e - e' = t + k := ⟨(e - e' - t).toNat, by omega⟩
  have parts : quotient = (m * 2 ^ k / m', t, accuracyOfFraction (m * 2 ^ k % m') m') := by
    have amount : (e - e' - t).toNat = k := by omega
    simp only [quotient, divCore, place, amount, Nat.shiftLeft_eq]
  rw [parts]
  refine ⟨?_, _, cut_accuracyOfFraction _ (Nat.mod_lt _ pos'), ?_⟩
  · by_cases least : t ≤ -1074
    · exact .inr least
    · left
      have bits : 52 + (m'.log2 + 1) ≤ m.log2 + k := by omega
      rw [Nat.le_div_iff_mul_le pos']
      calc 2 ^ 52 * m' ≤ 2 ^ 52 * 2 ^ (m'.log2 + 1) := by gcongr; exact Nat.lt_log2_self.le
        _ ≤ 2 ^ m.log2 * 2 ^ k := by
            rw [← pow_add, ← pow_add]
            exact Nat.pow_le_pow_right two_pos bits
        _ ≤ m * 2 ^ k := Nat.mul_le_mul_right _ (Nat.log2_self_le pos.ne')
  · have some : (m' : Rat) ≠ 0 := by exact_mod_cast pos'.ne'
    have whole : ((m * 2 ^ k / m' : Nat) : Rat) * m' + (m * 2 ^ k % m' : Nat) = m * 2 ^ k := by
      exact_mod_cast Nat.div_add_mod' (m * 2 ^ k) m'
    have ratio : ((m * 2 ^ k / m' : Nat) : Rat) + (m * 2 ^ k % m' : Nat) / m' = m * 2 ^ k / m' := by
      rw [← whole]
      field_simp
    have units : (2 : Rat) ^ e / 2 ^ e' = 2 ^ k * 2 ^ t := by
      rw [← zpow_sub₀ two_ne_zero, shift, zpow_add₀ two_ne_zero, zpow_natCast, mul_comm]
    rw [ratio, mul_div_mul_comm, units]
    ring

theorem rounded_div {u v : UnpackedFloat} (hu : Stored u) (hv : Stored v) (some : value v ≠ 0) :
    Rounded (value u / value v) (UnpackedFloat.div Format.binary64 u v) := by
  obtain ⟨s', rfl⟩ | ⟨s', m', e', pos', rfl, canonical'⟩ := hv.cases
  · exact absurd rfl some
  · obtain ⟨s, rfl⟩ | ⟨s, m, e, pos, rfl, canonical⟩ := hu.cases
    · have none : value (.zero s) / value (.finite s' m' e' pos') = 0 := zero_div _
      rw [none]
      exact rounded_zero _
    · obtain ⟨enough, y, cut, same⟩ := divCore_spec pos pos' e e'
      have signs : (s / s').apply 1 = s.apply 1 * s'.apply 1 := by cases s <;> cases s' <;> rfl
      have ratio : value (.finite s m e pos) / value (.finite s' m' e' pos') =
          ((s / s').apply 1 : Int) * (m * 2 ^ e / (m' * 2 ^ e')) := by
        rw [value, value, apply_eq s, apply_eq s', signs]
        cases s' <;> simp [Sign.apply] <;> ring
      rw [ratio, ← same]
      exact rounded_roundWithAccuracy (s / s') cut enough

/-! ## Doubles -/

/-- The rational number that a finite double is; zero for the others. -/
def rational (x : Float) : Rat := value x.toModel.unpack

theorem stored_of_finite {x : Float} (finite : x.isFinite = true) : Stored x.toModel.unpack :=
  (stored_unpack finite).1

theorem storable_rational {x : Float} (finite : x.isFinite = true) : Storable (rational x) :=
  (stored_of_finite finite).storable

theorem abs_rational_lt {x : Float} (finite : x.isFinite = true) : |rational x| < limit :=
  (stored_unpack finite).2

theorem unpack_of_rational_eq_zero {x : Float} (finite : x.isFinite = true)
    (zero : rational x = 0) :
    ∃ s, x.toModel.unpack = .zero s := by
  obtain none | ⟨s, m, e, pos, unpacked, -⟩ := (stored_of_finite finite).cases
  · exact none
  · have positive : 0 < |rational x| := by
      rw [rational, unpacked, abs_value]
      positivity
    exact absurd zero (abs_pos.mp positive)

theorem eq_of_rational_eq {x y : Float} (hx : x.isFinite = true) (hy : y.isFinite = true)
    (same : rational x = rational y) (some : rational x ≠ 0) : x = y := by
  have unpacked : x.toModel.unpack = y.toModel.unpack :=
    (stored_of_finite hx).eq_of_value_eq (stored_of_finite hy) same some
  rw [← Float.toBits_inj, ← UInt64.toBitVec_inj]
  exact (unpack_inj_of_valid x.toModel.valid y.toModel.valid).mp unpacked

/-- The double `x` is nearest to `q`, unless that is beyond the largest double. -/
def Near (q : Rat) (x : Float) : Prop :=
  ∃ r, Nearest q r ∧ (|r| < limit → x.isFinite = true ∧ rational x = r)

theorem Near.nearest {q b : Rat} {x : Float} (h : Near q x) (storable : Storable b)
    (small : b < limit) (le : |q| ≤ b) : x.isFinite = true ∧ Nearest q (rational x) := by
  obtain ⟨r, nearest, exact⟩ := h
  obtain ⟨finite, same⟩ := exact ((nearest.abs_bounded storable le).trans_lt small)
  exact ⟨finite, same ▸ nearest⟩

theorem Rounded.near {q : Rat} {u : UnpackedFloat} {x : Float} (h : Rounded q u)
    (packed : x.toModel = .pack u) : Near q x := by
  refine ⟨value u, h.nearest, fun small => ?_⟩
  have same : x.toModel.unpack = u := by
    rw [packed]
    exact unpack_pack h.stored small
  refine ⟨?_, by rw [rational, same]⟩
  change x.toModel.unpack.isFinite = true
  rw [same]
  obtain ⟨s, rfl⟩ | ⟨s, m, e, pos, rfl, -⟩ := h.stored.cases <;> rfl

theorem near_neg {x : Float} (hx : x.isFinite = true) : Near (-rational x) (-x) := by
  obtain ⟨stored, negated⟩ := (stored_of_finite hx).neg
  have result := stored.rounded
  rw [negated] at result
  exact result.near rfl

theorem near_sub {x y : Float} (hx : x.isFinite = true) (hy : y.isFinite = true) :
    Near (rational x - rational y) (x - y) :=
  (rounded_sub (stored_of_finite hx) (stored_of_finite hy)).near rfl

theorem near_mul {x y : Float} (hx : x.isFinite = true) (hy : y.isFinite = true) :
    Near (rational x * rational y) (x * y) :=
  (rounded_mul (stored_of_finite hx) (stored_of_finite hy)).near rfl

theorem near_div {x y : Float} (hx : x.isFinite = true) (hy : y.isFinite = true)
    (some : rational y ≠ 0) : Near (rational x / rational y) (x / y) :=
  (rounded_div (stored_of_finite hx) (stored_of_finite hy) some).near rfl

/-- A part of a number is not larger than one such number. -/
theorem isFinite_div {x y : Float} (hx : x.isFinite = true) (hy : y.isFinite = true)
    (some : rational y ≠ 0) (le : |rational x| ≤ |rational y|) :
    (x / y).isFinite = true ∧ |rational (x / y)| ≤ 1 := by
  have small : (1 : Rat) < limit := two_zpow_lt_limit (e := 0) (by norm_num)
  have bound : |rational x / rational y| ≤ 1 := by
    rw [abs_div]
    exact div_le_one_of_le₀ le (abs_nonneg _)
  obtain ⟨finite, nearest⟩ := (near_div hx hy some).nearest storable_one small bound
  exact ⟨finite, nearest.abs_bounded storable_one bound⟩

/-- Nothing overflows where a number is made smaller. -/
theorem isFinite_mul {x y : Float} (hx : x.isFinite = true) (hy : y.isFinite = true)
    (part : |rational x| ≤ 1) : (x * y).isFinite = true := by
  have bound : |rational x * rational y| ≤ |rational y| := by
    rw [abs_mul]
    exact mul_le_of_le_one_left (abs_nonneg _) part
  exact ((near_mul hx hy).nearest (storable_rational hy).abs (abs_rational_lt hy) bound).1

/-- A zero has no share of a zero, and no part of that is a number. -/
theorem isNaN_zero_share {x w : Float} {s : Sign} (zero : x.toModel.unpack = .zero s) :
    (x / x * w).isNaN = true := by
  have share : (x / x).toModel =
      .pack (UnpackedFloat.div Format.binary64 x.toModel.unpack x.toModel.unpack) := rfl
  have product : (x / x * w).toModel =
      .pack (UnpackedFloat.mul Format.binary64 (x / x).toModel.unpack w.toModel.unpack) := rfl
  have nan : (Float.Model.pack .notANumber).unpack = .notANumber := unpack_packedNaN
  rw [zero, UnpackedFloat.div] at share
  rw [share, nan, UnpackedFloat.mul] at product
  change (x / x * w).toModel.unpack.isNaN = true
  rw [product, nan]
  rfl

/-! ## Integers -/

theorem near_ofNat {n : Nat} (fits : n < 2 ^ 64) : Near n (ofNat n) := by
  have result := rounded_normalize n 0
  rw [zpow_zero, mul_one] at result
  refine result.near ?_
  have same : (UInt64.ofNat n).toNat = n := UInt64.toNat_ofNat_of_lt' fits
  change Float.Model.pack (UnpackedFloat.normalize _ ((UInt64.ofNat n).toNat : Int) 0 .positive) = _
  rw [same]

theorem nearest_ofInt {n : Int} (fits : |n| < 2 ^ 64) :
    (ofInt n).isFinite = true ∧ Nearest n (rational (ofInt n)) := by
  have storable : Storable (2 ^ (64 : Int)) := storable_two_zpow (by norm_num)
  have small : (2 : Rat) ^ (64 : Int) < limit := two_zpow_lt_limit (by norm_num)
  have natural {k : Nat} (less : k < 2 ^ 64) :
      (ofNat k).isFinite = true ∧ Nearest k (rational (ofNat k)) := by
    refine (near_ofNat less).nearest storable small ?_
    rw [Nat.abs_cast]
    exact_mod_cast less.le
  unfold ofInt
  split
  · next nonneg =>
      obtain ⟨k, rfl⟩ := Int.eq_ofNat_of_zero_le nonneg
      rw [Nat.abs_cast] at fits
      exact natural (k := k) (by exact_mod_cast fits)
  · next negative =>
      obtain ⟨k, rfl⟩ : ∃ k : Nat, n = -k := ⟨(-n).toNat, by omega⟩
      rw [abs_neg, Nat.abs_cast] at fits
      have toNat : (- -(k : Int)).toNat = k := by omega
      obtain ⟨finite, nearest⟩ := natural (k := k) (by exact_mod_cast fits)
      obtain ⟨finite', nearest'⟩ := (near_neg finite).nearest (storable_rational finite).abs
        (abs_rational_lt finite) (abs_neg _).le
      rw [toNat]
      refine ⟨finite', ?_⟩
      rw [nearest'.eq nearest.neg.storable]
      push_cast
      exact nearest.neg

/-- Different integers may be one double, and then they are the same number as doubles. -/
theorem ofInt_eq_iff {m n : Int} (hm : |m| < 2 ^ 64) (hn : |n| < 2 ^ 64) :
    ofInt m = ofInt n ↔ rational (ofInt m) = rational (ofInt n) := by
  refine ⟨congrArg rational, fun same => ?_⟩
  obtain ⟨finite, nearest⟩ := nearest_ofInt hm
  obtain ⟨finite', nearest'⟩ := nearest_ofInt hn
  by_cases some : rational (ofInt m) = 0
  · -- Only the integer zero is rounded to zero, since one can be stored.
    have zero {k : Int} (h : Nearest k 0) : k = 0 := by
      by_contra other
      rcases lt_or_gt_of_ne other with negative | positive
      · have := h.le storable_one.neg (by exact_mod_cast Int.le_sub_one_of_lt negative)
        norm_num at this
      · have := h.ge storable_one (by exact_mod_cast positive)
        norm_num at this
    rw [some] at nearest same
    rw [← same] at nearest'
    rw [zero nearest, zero nearest']
  · exact eq_of_rational_eq finite finite' same some

theorem rational_ofInt_le {m n : Int} (hm : |m| < 2 ^ 64) (hn : |n| < 2 ^ 64) (le : m ≤ n) :
    rational (ofInt m) ≤ rational (ofInt n) := by
  rcases le.lt_or_eq with lt | rfl
  · exact (nearest_ofInt hm).2.le_of_lt (nearest_ofInt hn).2 (by exact_mod_cast lt)
  · exact le_rfl

end LadderAtlas.Binary64
