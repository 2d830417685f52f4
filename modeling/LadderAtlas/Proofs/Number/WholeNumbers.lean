import LadderAtlas.Proofs.Number.Exact
import LadderAtlas.Proofs.Number.Specials

/-! # Whole numbers of doubles

What is read off the bits of a double is what the model of doubles unpacks. So the whole number that
a finite double is rounded to is the one nearest to the rational number it is, and the integer that
a double is turned into is that number's integer part, held between the bounds.
-/

namespace LadderAtlas.Binary64

open Float.Model (Format UnpackedFloat)
open Float.Model.UnpackedFloat

variable {x : Float}

/-! ## What is read off the bits -/

def isMinus : Sign → Bool
  | .negative => true
  | .positive => false

theorem toNat_unpackMantissa (x : Float) :
    (@unpackMantissa Format.binary64 x.toModel.toBits.toBitVec).toNat =
      x.toBits.toNat % (1 <<< 52) := by
  rw [unpackMantissa_def, BitVec.extractLsb'_toNat]
  rfl

/-- The first bit tells the sign. -/
theorem isMinus_unpackSign (x : Float) :
    isMinus (Sign.ofBitVec (@unpackSign Format.binary64 x.toModel.toBits.toBitVec)) =
      decide (x.toBits.toNat >>> 63 = 1) := by
  have bit : (@unpackSign Format.binary64 x.toModel.toBits.toBitVec).toNat =
      x.toBits.toNat >>> 63 := by
    have small : x.toBits.toNat < 2 ^ 64 := x.toBits.toNat_lt
    rw [unpackSign_def, BitVec.extractLsb'_toNat]
    change x.toBits.toNat >>> 63 % 2 ^ 1 = _
    rw [Nat.shiftRight_eq_div_pow]
    omega
  rw [← bit]
  rcases BitVec.eq_zero_or_eq_one (@unpackSign Format.binary64 x.toModel.toBits.toBitVec) with
    zero | one
  · rw [zero]
    rfl
  · rw [one]
    rfl

/-- What is read off the bits is what is unpacked, a zero with the least exponent. -/
theorem parts_eq (x : Float) : parts x =
    match x.toModel.unpack with
    | .notANumber => .nan
    | .infinity s => .infinite (isMinus s)
    | .zero s => .finite (isMinus s) 0 (-1074)
    | .finite s m e _ => .finite (isMinus s) m e := by
  have mantissa := toNat_leading (@unpackMantissa Format.binary64 x.toModel.toBits.toBitVec)
  have exponent := toNat_unpackExponent x
  have fraction := toNat_unpackMantissa x
  have sign := isMinus_unpackSign x
  have zero : @unpackMantissa Format.binary64 x.toModel.toBits.toBitVec = 0#52 ↔
      x.toBits.toNat % (1 <<< 52) = 0 := by
    rw [← fraction, ← BitVec.toNat_inj]
    rfl
  have full : @unpackExponent Format.binary64 x.toModel.toBits.toBitVec = -1#11 ↔
      x.toBits.toNat >>> 52 % 0x800 = 2047 := by
    rw [← exponent, ← BitVec.toNat_inj]
    rfl
  have least : @unpackExponent Format.binary64 x.toModel.toBits.toBitVec = 0#11 ↔
      x.toBits.toNat >>> 52 % 0x800 = 0 := by
    rw [← exponent, ← BitVec.toNat_inj]
    rfl
  change _ = match UnpackedFloat.unpack Format.binary64 x.toModel.toBits.toBitVec with
    | .notANumber => _
    | .infinity s => _
    | .zero s => _
    | .finite s m e _ => _
  unfold parts UnpackedFloat.unpack
  simp only [zero, full, least, exponent]
  by_cases isFull : x.toBits.toNat >>> 52 % 0x800 = 2047
  · simp only [if_pos isFull]
    by_cases isZero : x.toBits.toNat % (1 <<< 52) = 0
    · simp only [if_pos isZero, sign]
    · simp only [if_neg isZero]
  · simp only [if_neg isFull]
    by_cases isLeast : x.toBits.toNat >>> 52 % 0x800 = 0
    · simp only [if_pos isLeast]
      by_cases isZero : x.toBits.toNat % (1 <<< 52) = 0
      · rw [dif_pos isZero, isZero]
        simp only [sign]
      · simp only [dif_neg isZero, sign, fraction, isLeast]
        rfl
    · have leading : 1 <<< 52 = 2 ^ 52 := rfl
      simp only [if_neg isLeast, sign, mantissa, fraction, leading, Nat.add_comm (2 ^ 52)]
      rfl

/-- A number with a sign of its own. -/
def withSign (minus : Bool) (q : Rat) : Rat := if minus then -q else q

theorem rational_of_parts {minus : Bool} {m : Nat} {e : Int} (read : parts x = .finite minus m e) :
    rational x = withSign minus (m * 2 ^ e) := by
  rw [parts_eq] at read
  unfold rational
  cases unpacked : x.toModel.unpack with
  | notANumber => rw [unpacked] at read; cases read
  | infinity s => rw [unpacked] at read; cases read
  | zero s =>
      rw [unpacked] at read
      cases read
      simp [value, withSign]
  | finite s m' e' pos =>
      rw [unpacked] at read
      cases read
      cases s <;> simp [value, Sign.apply, isMinus, withSign]

/-- A mantissa with an exponent is a whole number or a quotient by a power of two. -/
theorem exists_shift (m : Nat) (e : Int) :
    (∃ k : Nat, e = k ∧ (m : Rat) * (2 : Rat) ^ e = (m <<< k : Nat)) ∨
      ∃ k : Nat, 0 < k ∧ e = -k ∧ (m : Rat) * (2 : Rat) ^ e = (m : Rat) / (1 <<< k : Nat) := by
  rcases lt_or_ge e 0 with negative | nonneg
  · obtain ⟨k, rfl⟩ := Int.exists_eq_neg_ofNat negative.le
    refine .inr ⟨k, by omega, rfl, ?_⟩
    rw [Nat.shiftLeft_eq, one_mul, zpow_neg, zpow_natCast, Nat.cast_pow, Nat.cast_ofNat,
      div_eq_mul_inv]
  · obtain ⟨k, rfl⟩ := Int.eq_ofNat_of_zero_le nonneg
    refine .inl ⟨k, rfl, ?_⟩
    rw [Nat.shiftLeft_eq, zpow_natCast, Nat.cast_mul, Nat.cast_pow, Nat.cast_ofNat]

/-! ## Integer parts -/

theorem integerPart?_of_finite (finite : x.isFinite = true) :
    integerPart? x = some (Exact.integerPart (rational x)) := by
  obtain ⟨minus, m, e, read, -⟩ := exists_parts_of_finite finite
  have magnitude : Exact.integerPart (m * 2 ^ e) =
      ((if 0 ≤ e then m <<< e.toNat else m >>> (-e).toNat : Nat) : Int) := by
    obtain ⟨k, rfl, whole⟩ | ⟨k, some, rfl, quotient⟩ := exists_shift m e
    · rw [whole, if_pos (Int.natCast_nonneg k), Int.toNat_natCast]
      exact_mod_cast Exact.integerPart_intCast ((m <<< k : Nat) : Int)
    · rw [quotient, Exact.integerPart_natCast_div, if_neg (by omega), Int.neg_neg,
        Int.toNat_natCast, Nat.shiftRight_eq_div_pow, Nat.shiftLeft_eq, one_mul]
  rw [rational_of_parts read]
  unfold integerPart?
  simp only [read]
  cases minus with
  | false => simp [withSign, magnitude]
  | true => simp [withSign, magnitude, Exact.integerPart_neg]

/-- An integer of a finite double is its integer part, as far as the bounds let it. -/
theorem clampInt_of_finite (finite : x.isFinite = true) (low high : Int) :
    clampInt low high x = max low (min high (Exact.integerPart (rational x))) := by
  obtain ⟨minus, m, e, read, -⟩ := exists_parts_of_finite finite
  unfold clampInt
  simp only [read]
  rw [integerPart?_of_finite finite, Option.getD_some]

/-! ## Rounding to whole numbers -/

theorem rational_ofNat {n : Nat} (fits : n ≤ 2 ^ 53) : rational (ofNat n) = n := by
  have storable : Storable n :=
    ⟨n, 0, by rw [Nat.abs_cast]; exact_mod_cast fits, by norm_num, by simp⟩
  have bound : |(n : Rat)| < limit := by
    have small : (2 : Rat) ^ (53 : Int) < limit := two_zpow_lt_limit (by norm_num)
    refine lt_of_le_of_lt ?_ small
    rw [Nat.abs_cast]
    exact_mod_cast fits
  obtain ⟨r, nearest, exact⟩ := near_ofNat (n := n) (by omega)
  rw [nearest.eq storable] at exact
  exact (exact bound).2

theorem rational_neg (finite : x.isFinite = true) : rational (-x) = -rational x := by
  have size : |-rational x| ≤ |rational x| := (abs_neg _).le
  obtain ⟨-, nearest⟩ :=
    (near_neg finite).nearest (storable_rational finite).abs (abs_rational_lt finite) size
  exact nearest.eq (storable_rational finite).neg

theorem rational_signed {n : Nat} (fits : n ≤ 2 ^ 53) (minus : Bool) :
    rational (signed minus n) = withSign minus n := by
  cases minus with
  | false => exact rational_ofNat fits
  | true =>
      have finite : (ofNat n).isFinite = true := isFinite_signed (n := n) (by omega) false
      exact (rational_neg finite).trans (congrArg Neg.neg (rational_ofNat fits))

theorem nearest_withSign (minus : Bool) (q : Rat) :
    (Exact.nearest (withSign minus q) : Rat) = withSign minus (Exact.nearest q) := by
  cases minus with
  | false => rfl
  | true => simp [withSign, Exact.nearest_neg]

/-- Rounding a finite double is exact. -/
theorem rational_round (finite : x.isFinite = true) :
    rational (round x) = Exact.nearest (rational x) := by
  obtain ⟨minus, m, e, read, fits⟩ := exists_parts_of_finite finite
  have size := rational_of_parts read
  unfold round toWhole
  simp only [read]
  rw [size, nearest_withSign]
  obtain ⟨k, rfl, whole⟩ | ⟨k, some, rfl, quotient⟩ := exists_shift m e
  · rw [if_pos (Int.natCast_nonneg k), size, whole, Exact.nearest_natCast, Int.cast_natCast]
  · have unit : 0 < 1 <<< k := by
      rw [Nat.shiftLeft_eq]
      positivity
    have small : (2 * m + 1 <<< k) / (2 * 1 <<< k) ≤ 2 ^ 53 := by
      have below : (2 * m + 1 <<< k) / (2 * 1 <<< k) < 2 ^ 53 + 1 := by
        rw [Nat.div_lt_iff_lt_mul (by omega)]
        nlinarith
      omega
    rw [if_neg (by omega), Int.neg_neg, Int.toNat_natCast, rational_signed small, quotient,
      Exact.nearest_natCast_div _ unit, Int.cast_natCast]

/-! ## Integers of 64 bits -/

theorem nearestInt64_of_finite (finite : x.isFinite = true) : Scalar.nearestInt64 x =
    max (-0x8000_0000_0000_0000) (min 0x7FFF_FFFF_FFFF_FFFF (Exact.nearest (rational x))) := by
  have rounded : (round x).isFinite = true := isFinite_round.trans finite
  have integer := clampInt_of_finite rounded (-0x8000_0000_0000_0000) 0x7FFF_FFFF_FFFF_FFFF
  rw [rational_round finite, Exact.integerPart_intCast] at integer
  exact integer

/-- Infinities go to the bounds, and what is no number to zero. -/
theorem nearestInt64_of_not_finite (infinite : x.isFinite = false) : Scalar.nearestInt64 x =
    if 0 < x then 0x7FFF_FFFF_FFFF_FFFF else if x < 0 then -0x8000_0000_0000_0000 else 0 := by
  have zero : (0 : Float).toModel.unpack = .zero .positive := rfl
  have same : round x = x := toWhole_of_not_finite infinite _
  change clampInt _ _ (round x) = _
  rw [same]
  unfold clampInt
  simp only [parts_eq, lt_iff, zero]
  cases unpacked : x.toModel.unpack with
  | notANumber => rfl
  | infinity s => cases s <;> rfl
  | zero s =>
      change x.toModel.unpack.isFinite = false at infinite
      rw [unpacked] at infinite
      cases infinite
  | finite s m e pos =>
      change x.toModel.unpack.isFinite = false at infinite
      rw [unpacked] at infinite
      cases infinite

end LadderAtlas.Binary64
