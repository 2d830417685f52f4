import LadderAtlas.Proofs.Number.Rounding

/-! # Packing doubles

A number in canonical form that is not beyond the largest double is unpacked from the bits that it
is packed to, and what is unpacked from bits is in that form. A number other than zero has only one
such form.
-/

namespace LadderAtlas.Binary64

open Float.Model (Format UnpackedFloat)
open Float.Model.UnpackedFloat

/-! ## Canonical forms -/

theorem abs_value (s : Sign) (m : Nat) (e : Int) (pos : 0 < m) :
    |value (.finite s m e pos)| = m * 2 ^ e := by
  have unit : (0 : Rat) < 2 ^ e := by positivity
  cases s <;> simp [value, Sign.apply, abs_mul]

theorem Canonical.lt {m m' : Nat} {e e' : Int} (h : Canonical m e) (h' : Canonical m' e')
    (lt : e < e') : (m * 2 ^ e : Rat) < m' * 2 ^ e' := by
  have least := h.least
  have fits := h.fits
  have full : 2 ^ 52 ≤ m' := h'.full.resolve_right (by omega)
  calc (m * 2 ^ e : Rat) < 2 ^ 53 * 2 ^ e := by
        gcongr
        exact_mod_cast fits
    _ = 2 ^ 52 * 2 ^ (e + 1) := by
        rw [zpow_add₀ two_ne_zero]
        ring
    _ ≤ m' * 2 ^ e' := by
        gcongr
        · exact_mod_cast full
        · norm_num
        · omega

theorem Canonical.eq_of_eq {m m' : Nat} {e e' : Int} (h : Canonical m e) (h' : Canonical m' e')
    (same : (m * 2 ^ e : Rat) = m' * 2 ^ e') : m = m' ∧ e = e' := by
  rcases lt_trichotomy e e' with lt | rfl | gt
  · exact absurd same (h.lt h' lt).ne
  · have unit : (2 : Rat) ^ e ≠ 0 := by positivity
    exact ⟨by exact_mod_cast mul_right_cancel₀ unit same, rfl⟩
  · exact absurd same (h'.lt h gt).ne'

/-- A number other than zero is stored in one way. -/
theorem Stored.eq_of_value_eq {u v : UnpackedFloat} (hu : Stored u) (hv : Stored v)
    (same : value u = value v) (some : value u ≠ 0) : u = v := by
  obtain ⟨s, rfl⟩ | ⟨s, m, e, pos, rfl, canonical⟩ := hu.cases
  · exact absurd rfl some
  · obtain ⟨s', rfl⟩ | ⟨s', m', e', pos', rfl, canonical'⟩ := hv.cases
    · exact absurd same some
    · have magnitudes : (m * 2 ^ e : Rat) = m' * 2 ^ e' := by
        rw [← abs_value s m e pos, ← abs_value s' m' e' pos', same]
      obtain ⟨rfl, rfl⟩ := canonical.eq_of_eq canonical' magnitudes
      have positive : (0 : Rat) < m * 2 ^ e := by positivity
      cases s <;> cases s' <;> simp [value, Sign.apply] at same ⊢ <;> linarith

/-! ## The largest double -/

/-- The power of two past the largest double. -/
def limit : Rat := 2 ^ 1024

theorem limit_eq {k : Nat} {e : Int} (sum : k + e = 1024) : limit = 2 ^ k * 2 ^ e := by
  rw [limit, ← zpow_natCast, ← zpow_natCast, ← zpow_add₀ two_ne_zero, sum]
  rfl

theorem two_zpow_lt_limit {e : Int} (low : e < 1024) : (2 : Rat) ^ e < limit := by
  rw [limit, ← zpow_natCast]
  exact zpow_lt_zpow_right₀ one_lt_two low

/-- The exponents of doubles go up to 971. -/
theorem Canonical.lt_limit_iff {m : Nat} {e : Int} (h : Canonical m e) :
    (m * 2 ^ e : Rat) < limit ↔ e ≤ 971 := by
  constructor
  · intro small
    by_contra high
    have full : 2 ^ 52 ≤ m := h.full.resolve_right (by omega)
    have large : limit ≤ m * 2 ^ e := by
      calc limit = 2 ^ 52 * 2 ^ (972 : Int) := limit_eq (by norm_num)
        _ ≤ m * 2 ^ e := by
          gcongr
          · exact_mod_cast full
          · norm_num
          · omega
    exact absurd small (not_lt.mpr large)
  · intro low
    have fits := h.fits
    calc (m * 2 ^ e : Rat) < 2 ^ 53 * 2 ^ e := by
          gcongr
          exact_mod_cast fits
      _ ≤ 2 ^ 53 * 2 ^ (971 : Int) := by
          gcongr
          norm_num
      _ = limit := (limit_eq (by norm_num)).symm

/-! ## Bits -/

/-- A mantissa with the leading bit that is not stored. -/
theorem toNat_leading (f : BitVec 52) : (1#1 ++ f).toNat = 2 ^ 52 + f.toNat := by
  rw [BitVec.toNat_append, ← Nat.shiftLeft_add_eq_or_of_lt f.isLt, Nat.shiftLeft_eq]
  simp

theorem stored_unpack {bits : BitVec Format.binary64.numBits}
    (finite : (UnpackedFloat.unpack Format.binary64 bits).isFinite = true) :
    Stored (UnpackedFloat.unpack Format.binary64 bits) ∧
      |value (UnpackedFloat.unpack Format.binary64 bits)| < limit := by
  have size {s : Sign} {m : Nat} {e : Int} {pos : 0 < m} (canonical : Canonical m e)
      (high : e ≤ 971) :
      Stored (.finite s m e pos) ∧ |value (.finite s m e pos)| < limit := by
    rw [abs_value]
    exact ⟨canonical, canonical.lt_limit_iff.mpr high⟩
  unfold UnpackedFloat.unpack at finite ⊢
  simp only at finite ⊢
  split at finite
  · split at finite <;> cases finite
  · next notFull =>
      rw [if_neg notFull]
      split
      · next least =>
          split
          · exact ⟨trivial, by simp [value, limit]⟩
          · have exponent : ((unpackExponent bits).toNat : Int) -
                ((Format.binary64.exponentBias : Nat) + (52 : Nat)) + 1 = -1074 := by
              rw [least]
              rfl
            have below : (unpackMantissa bits).toNat < 2 ^ 52 := (unpackMantissa bits).isLt
            exact size ⟨by omega, exponent.ge, .inr exponent⟩ (exponent.le.trans (by norm_num))
      · next notLeast =>
          have below : (unpackMantissa bits).toNat < 2 ^ 52 := (unpackMantissa bits).isLt
          have mantissa := toNat_leading (unpackMantissa bits)
          have fits : (unpackExponent bits).toNat < 2048 := (unpackExponent bits).isLt
          have positive : (unpackExponent bits).toNat ≠ 0 := fun zero =>
            notLeast (BitVec.eq_of_toNat_eq zero)
          have other : (unpackExponent bits).toNat ≠ 2047 := fun full =>
            notFull (BitVec.eq_of_toNat_eq full)
          have bias : ((Format.binary64.exponentBias : Nat) + (52 : Nat) : Int) = 1075 := rfl
          rw [bias]
          exact size ⟨mantissa.trans_lt (by omega), by omega,
            .inl ((Nat.le_add_right _ _).trans mantissa.ge)⟩
            (by omega)

/-- A mantissa with its leading bit is packed without it. -/
theorem unpack_pack_leading (s : Sign) {m : Nat} {e : Int} (pos : 0 < m) (leading : m.log2 = 52)
    (low : -1074 ≤ e) (high : e ≤ 971) :
    UnpackedFloat.unpack Format.binary64 (UnpackedFloat.pack Format.binary64 (.finite s m e pos)) =
      .finite s m e pos := by
  have stored : (e + (Format.binary64.exponentBias : Nat) +
      (Format.binary64.mantissaBitsWithoutImplicit : Nat)).toNat = (e + 1075).toNat := by
    change (e + 1023 + 52).toNat = _
    omega
  have bounds : 2 ^ 52 ≤ m ∧ m < 2 ^ 53 := (Nat.log2_eq_iff pos.ne').mp leading
  have exponent : (BitVec.ofNat 11 (e + 1075).toNat).toNat = (e + 1075).toNat := by
    rw [BitVec.toNat_ofNat]
    omega
  have mantissa : (1#1 ++ BitVec.ofNat 52 m).toNat = m := by
    rw [toNat_leading, BitVec.toNat_ofNat]
    omega
  have notFull : BitVec.ofNat 11 (e + 1075).toNat ≠ -1#11 := by
    intro full
    have : (2047 : Nat) = _ := (congrArg BitVec.toNat full).symm.trans exponent
    omega
  have notLeast : BitVec.ofNat 11 (e + 1075).toNat ≠ 0#11 := by
    intro least
    have : (0 : Nat) = _ := (congrArg BitVec.toNat least).symm.trans exponent
    omega
  simp only [UnpackedFloat.pack, stored]
  rw [if_neg (by change ¬ 2048 ≤ _; omega), if_pos (by rw [leading]; rfl)]
  simp only [UnpackedFloat.unpack, unpackExponent_packComponents, unpackMantissa_packComponents,
    unpackSign_packComponents, Sign.ofBitVec_toBitVec]
  rw [if_neg notFull, if_neg notLeast]
  congr 1
  rw [exponent]
  change ((e + 1075).toNat : Int) - 1075 = e
  omega

theorem unpack_pack_short (s : Sign) {m : Nat} (pos : 0 < m) (short : m < 2 ^ 52) :
    UnpackedFloat.unpack Format.binary64
      (UnpackedFloat.pack Format.binary64 (.finite s m (-1074) pos)) =
      .finite s m (-1074) pos := by
  have noLeading : ¬ m.log2 + 1 = Format.binary64.mantissaBits := by
    have := (Nat.log2_lt pos.ne').mpr short
    change ¬ m.log2 + 1 = 53
    omega
  have some : BitVec.ofNat 52 m ≠ 0#52 := by
    intro zero
    have : m % 2 ^ 52 = 0 := congrArg BitVec.toNat zero
    omega
  simp only [UnpackedFloat.pack]
  rw [if_neg (by decide), if_neg noLeading]
  simp only [UnpackedFloat.unpack, unpackExponent_packComponents, unpackMantissa_packComponents,
    unpackSign_packComponents, Sign.ofBitVec_toBitVec]
  rw [if_neg (by decide), if_pos trivial, dif_neg some]
  congr 1
  rw [BitVec.toNat_ofNat]
  omega

theorem unpack_pack {u : UnpackedFloat} (stored : Stored u) (small : |value u| < limit) :
    UnpackedFloat.unpack Format.binary64 (UnpackedFloat.pack Format.binary64 u) = u := by
  obtain ⟨s, rfl⟩ | ⟨s, m, e, pos, rfl, canonical⟩ := stored.cases
  · exact unpack_packedZero
  · rw [abs_value] at small
    have high : e ≤ 971 := canonical.lt_limit_iff.mp small
    have fits := canonical.fits
    by_cases full : 2 ^ 52 ≤ m
    · have leading : m.log2 = 52 := (Nat.log2_eq_iff pos.ne').mpr ⟨full, fits⟩
      exact unpack_pack_leading s pos leading canonical.least high
    · obtain rfl : e = -1074 := canonical.full.resolve_left full
      exact unpack_pack_short s pos (by omega)

end LadderAtlas.Binary64
