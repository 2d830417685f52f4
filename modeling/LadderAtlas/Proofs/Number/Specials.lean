import LadderAtlas.Proofs.Number.Arithmetic
import LadderAtlas.Proofs.Number.DoubleOrder

/-! # Infinities, NaN and signs

What the operations make of doubles that are no rational numbers. Rounding to whole numbers leaves
them as they are and keeps finite doubles finite; a number is above zero or not, and nothing above a
number that is above zero is below it; and a product of numbers that are not below zero is never an
infinity below zero.
-/

namespace LadderAtlas.Binary64

open Float.Model (Format UnpackedFloat)
open Float.Model.UnpackedFloat

/-! ## Rounding to whole numbers -/

/-- The exponent that is read off the bits is the one that is unpacked. -/
theorem toNat_unpackExponent (x : Float) :
    (@unpackExponent Format.binary64 x.toModel.toBits.toBitVec).toNat =
      x.toBits.toNat >>> 52 % 0x800 := by
  rw [unpackExponent_def, BitVec.extractLsb'_toNat]
  rfl

theorem isFinite_iff (x : Float) : x.isFinite = true ↔ x.toBits.toNat >>> 52 % 0x800 ≠ 2047 := by
  have full : (-1#11 : BitVec 11).toNat = 2047 := by decide
  rw [← toNat_unpackExponent, ← full, ne_eq, BitVec.toNat_inj]
  change (UnpackedFloat.unpack Format.binary64 x.toModel.toBits.toBitVec).isFinite = true ↔ _
  unfold UnpackedFloat.unpack
  simp only
  split
  · next infinite =>
      simp only [infinite, not_true_eq_false, iff_false]
      split <;> simp [UnpackedFloat.isFinite]
  · next finite =>
      simp only [finite, not_false_eq_true, iff_true]
      split
      · split <;> rfl
      · rfl

theorem exists_parts_of_finite {x : Float} (finite : x.isFinite = true) :
    ∃ negative m e, parts x = .finite negative m e ∧ m < 2 ^ 53 := by
  have notFull := (isFinite_iff x).mp finite
  have fraction : x.toBits.toNat % (1 <<< 52) < 2 ^ 52 := Nat.mod_lt _ (by decide)
  unfold parts
  simp only [if_neg notFull]
  split
  · exact ⟨_, _, _, rfl, fraction.trans (by decide)⟩
  · refine ⟨_, _, _, rfl, ?_⟩
    have leading : 1 <<< 52 = 2 ^ 52 := rfl
    omega

/-- What is not finite stays as it is. -/
theorem toWhole_of_not_finite {x : Float} (infinite : x.isFinite = false)
    (whole : Bool → Nat → Nat → Nat) :
    toWhole whole x = x := by
  have full : x.toBits.toNat >>> 52 % 0x800 = 2047 := by
    by_contra other
    rw [(isFinite_iff x).mpr other] at infinite
    cases infinite
  unfold toWhole parts
  simp only [if_pos full]
  by_cases none : x.toBits.toNat % (1 <<< 52) = 0
  · rw [if_pos none]
  · rw [if_neg none]

theorem isFinite_signed {n : Nat} (fits : n < 2 ^ 64) (negative : Bool) :
    (signed negative n).isFinite = true := by
  have small : (2 : Rat) ^ (64 : Int) < limit := two_zpow_lt_limit (by norm_num)
  have bound : |(n : Rat)| ≤ 2 ^ (64 : Int) := by
    rw [Nat.abs_cast]
    exact_mod_cast fits.le
  have finite := ((near_ofNat fits).nearest (storable_two_zpow (by norm_num)) small bound).1
  cases negative with
  | false => exact finite
  | true => exact ((near_neg finite).nearest (storable_rational finite).abs (abs_rational_lt finite)
    (abs_neg _).le).1

theorem isFinite_round {x : Float} : (round x).isFinite = x.isFinite := by
  cases finite : x.isFinite with
  | false => rw [round, toWhole_of_not_finite finite, finite]
  | true =>
      obtain ⟨negative, m, e, read, fits⟩ := exists_parts_of_finite finite
      unfold round toWhole
      simp only [read]
      split
      · exact finite
      · refine isFinite_signed ?_ negative
        have unit : 0 < 1 <<< (-e).toNat := by
          rw [Nat.shiftLeft_eq]
          positivity
        rw [Nat.div_lt_iff_lt_mul (by omega)]
        nlinarith

/-! ## Order -/

theorem isNaN_of_isFinite {x : Float} (finite : x.isFinite = true) : x.isNaN = false := by
  change x.toModel.unpack.isNaN = false
  rcases (stored_of_finite finite).cases with ⟨s, unpacked⟩ | ⟨s, m, e, pos, unpacked, -⟩
  · rw [unpacked]
    rfl
  · rw [unpacked]
    rfl

theorem lt_iff (x y : Float) : x < y ↔ x.toModel.unpack.compare y.toModel.unpack = some .lt := by
  change (decide (x.toModel.lt y.toModel = true) = true) ↔ _
  rw [decide_eq_true_eq]
  change (x.toModel.unpack.compare y.toModel.unpack == some .lt) = true ↔ _
  rw [beq_iff_eq]

/-- The infinity above zero, and the numbers with a positive sign. -/
inductive Positive : UnpackedFloat → Prop where
  | infinity : Positive (.infinity .positive)
  | finite (m : Nat) (e : Int) (pos : 0 < m) : Positive (.finite .positive m e pos)

theorem zero_lt_iff (x : Float) : 0 < x ↔ Positive x.toModel.unpack := by
  have zero : (0 : Float).toModel.unpack = .zero .positive := rfl
  rw [lt_iff, zero]
  constructor
  · intro less
    cases unpacked : x.toModel.unpack with
    | notANumber => rw [unpacked] at less; cases less
    | zero s => rw [unpacked] at less; cases less
    | infinity s =>
        rw [unpacked] at less
        cases s with
        | negative => cases less
        | positive => exact .infinity
    | finite s m e pos =>
        rw [unpacked] at less
        cases s with
        | negative => cases less
        | positive => exact .finite m e pos
  · intro positive
    generalize x.toModel.unpack = u at positive ⊢
    cases positive <;> rfl

/-- What is not up to zero is above it, or no number. -/
theorem nan_or_positive_of_not_le {x : Float} (above : ¬ x ≤ 0) :
    x.toModel.unpack = .notANumber ∨ Positive x.toModel.unpack := by
  have zero : (0 : Float).toModel.unpack = .zero .positive := rfl
  rw [le_iff, zero] at above
  generalize x.toModel.unpack = u at above ⊢
  cases u with
  | notANumber => exact .inl rfl
  | zero s => exact absurd rfl above
  | infinity s =>
      cases s with
      | negative => exact absurd rfl above
      | positive => exact .inr .infinity
  | finite s m e pos =>
      cases s with
      | negative => exact absurd rfl above
      | positive => exact .inr (.finite m e pos)

theorem zero_lt_of_not_le {x : Float} (number : x.isNaN = false) (above : ¬ x ≤ 0) : 0 < x := by
  rw [zero_lt_iff]
  refine (nan_or_positive_of_not_le above).resolve_left fun none => ?_
  change x.toModel.unpack.isNaN = false at number
  rw [none] at number
  cases number

/-- What is above a number that is above zero is above zero. -/
theorem Positive.of_compare {u v : UnpackedFloat} (positive : Positive u)
    (less : u.compare v = some .lt) :
    Positive v := by
  cases v with
  | notANumber => cases positive <;> cases less
  | zero s => cases positive <;> cases less
  | infinity s =>
      cases s with
      | negative => cases positive <;> cases less
      | positive => exact .infinity
  | finite s m e pos =>
      cases s with
      | negative => cases positive <;> cases less
      | positive => exact .finite m e pos

theorem zero_lt_of_lt {x y : Float} (positive : 0 < x) (less : x < y) : 0 < y :=
  (zero_lt_iff y).mpr (((zero_lt_iff x).mp positive).of_compare ((lt_iff x y).mp less))

theorem le_of_lt {x y : Float} (less : x < y) : x ≤ y := by
  rw [le_iff, UnpackedFloat.le, (lt_iff x y).mp less]
  rfl

theorem isFinite_of_lt {x y : Float} (finite : y.isFinite = true) (positive : 0 < x)
    (less : x < y) :
    x.isFinite = true := by
  rw [zero_lt_iff] at positive
  rw [lt_iff] at less
  change y.toModel.unpack.isFinite = true at finite
  change x.toModel.unpack.isFinite = true
  generalize x.toModel.unpack = u at positive less ⊢
  generalize y.toModel.unpack = v at less finite
  cases positive with
  | finite m e pos => rfl
  | infinity =>
      cases v with
      | notANumber => cases finite
      | infinity s => cases finite
      | zero s => cases less
      | finite s m e pos => cases less

/-- Every finite number is below the infinity above zero. -/
theorem lt_of_infinity {x y : Float} (finite : x.isFinite = true)
    (infinite : y.toModel.unpack = .infinity .positive) :
    x < y := by
  change x.toModel.unpack.isFinite = true at finite
  rw [lt_iff, infinite]
  cases unpacked : x.toModel.unpack with
  | notANumber => rw [unpacked] at finite; cases finite
  | infinity s => rw [unpacked] at finite; cases finite
  | zero s => rfl
  | finite s m e pos => rfl

theorem not_lt_of_isNaN {x y : Float} (nan : y.isNaN = true) : ¬ x < y := by
  change y.toModel.unpack.isNaN = true at nan
  rw [lt_iff]
  cases unpacked : y.toModel.unpack with
  | notANumber => cases x.toModel.unpack <;> simp [UnpackedFloat.compare]
  | infinity s => rw [unpacked] at nan; cases nan
  | zero s => rw [unpacked] at nan; cases nan
  | finite s m e pos => rw [unpacked] at nan; cases nan

theorem zero_le_rational {x : Float} (finite : x.isFinite = true) (nonneg : 0 ≤ x) :
    0 ≤ rational x := by
  have zero : (0 : Float).toModel.unpack = .zero .positive := rfl
  rw [le_iff, zero] at nonneg
  rw [rational]
  obtain ⟨s, unpacked⟩ | ⟨s, m, e, pos, unpacked, -⟩ := (stored_of_finite finite).cases
  · rw [unpacked]
    exact le_rfl
  · rw [unpacked] at nonneg ⊢
    cases s with
    | negative => cases nonneg
    | positive =>
        simp only [value, Sign.apply]
        positivity

/-! ## Products -/

/-- A canonical number is packed as it is, or it is too large and overflows on its own side. -/
theorem unpack_pack_or_infinity (s : Sign) {m : Nat} {e : Int} (pos : 0 < m)
    (canonical : Canonical m e) :
    UnpackedFloat.unpack Format.binary64 (UnpackedFloat.pack Format.binary64 (.finite s m e pos)) =
        .finite s m e pos ∨
      UnpackedFloat.unpack Format.binary64
        (UnpackedFloat.pack Format.binary64 (.finite s m e pos)) =
        .infinity s := by
  by_cases high : e ≤ 971
  · left
    refine unpack_pack canonical ?_
    rw [abs_value]
    exact canonical.lt_limit_iff.mpr high
  · right
    have full : 2 ^ Format.binary64.exponentBits ≤ (e + (Format.binary64.exponentBias : Nat) +
        (Format.binary64.mantissaBitsWithoutImplicit : Nat)).toNat + 1 := by
      change 2048 ≤ (e + 1023 + 52).toNat + 1
      omega
    simp only [UnpackedFloat.pack]
    rw [if_pos full]
    cases s <;> rfl

/-- Rounding keeps the sign. -/
theorem roundWithAccuracy_cases (s : Sign) (m : Nat) (e : Int) (a : Accuracy) :
    roundWithAccuracy Format.binary64 s m e a = .zero s ∨
      ∃ m' e' pos, roundWithAccuracy Format.binary64 s m e a = .finite s m' e' pos := by
  unfold roundWithAccuracy
  dsimp only
  split
  · exact .inl rfl
  · next some => exact .inr ⟨_, _, Nat.pos_of_ne_zero some, rfl⟩

/-- What is computed of factors none of which is below zero, before it is packed. -/
theorem mul_unpacked_cases {u v : UnpackedFloat} (stored : Stored u)
    (nonneg : (UnpackedFloat.zero .positive).le u = true) (factor : v = .notANumber ∨ Positive v)
    (stored' : v.isFinite = true → Stored v) :
    UnpackedFloat.mul Format.binary64 u v = .notANumber ∨
    UnpackedFloat.mul Format.binary64 u v = .infinity .positive ∨
      (∃ s, UnpackedFloat.mul Format.binary64 u v = .zero s) ∨
        ∃ m e pos, UnpackedFloat.mul Format.binary64 u v = .finite .positive m e pos ∧
          Canonical m e := by
  obtain ⟨s, rfl⟩ | ⟨s, m, e, pos, rfl, canonical⟩ := stored.cases
  · rcases factor with rfl | positive
    · exact .inl rfl
    · cases positive with
      | infinity => exact .inl rfl
      | finite m' e' pos' => exact .inr (.inr (.inl ⟨s * .positive, rfl⟩))
  · cases s with
    | negative => cases nonneg
    | positive =>
        rcases factor with rfl | positive
        · exact .inl rfl
        · cases positive with
          | infinity => exact .inr (.inl rfl)
          | finite m' e' pos' =>
              have rounded := (rounded_mul stored (stored' rfl)).stored
              rcases roundWithAccuracy_cases .positive (m * m') (e + e') .exact with
                none | ⟨n, f, some, same⟩
              · exact .inr (.inr (.inl ⟨.positive, none⟩))
              · have product : UnpackedFloat.mul Format.binary64 (.finite .positive m e pos)
                    (.finite .positive m' e' pos') = .finite .positive n f some := same
                rw [product] at rounded
                exact .inr (.inr (.inr ⟨n, f, some, product, rounded⟩))

/-- A product of numbers that are not below zero is finite, NaN, or the infinity above zero. -/
theorem mul_cases {x y : Float} (finite : x.isFinite = true) (nonneg : 0 ≤ x) (above : ¬ y ≤ 0) :
    (x * y).isFinite = true ∨ (x * y).isNaN = true ∨
    (x * y).toModel.unpack = .infinity .positive := by
  have zero : (0 : Float).toModel.unpack = .zero .positive := rfl
  have product : (x * y).toModel.unpack = UnpackedFloat.unpack Format.binary64
      (UnpackedFloat.pack Format.binary64
        (UnpackedFloat.mul Format.binary64 x.toModel.unpack y.toModel.unpack)) := rfl
  rw [le_iff, zero] at nonneg
  change (x * y).toModel.unpack.isFinite = true ∨ (x * y).toModel.unpack.isNaN = true ∨ _
  rw [product]
  rcases mul_unpacked_cases (stored_of_finite finite) nonneg (nan_or_positive_of_not_le above)
    stored_of_finite with
    nan | infinite | ⟨s, none⟩ | ⟨m, e, pos, rounded, canonical⟩
  · rw [nan]
    exact .inr (.inl rfl)
  · rw [infinite]
    exact .inr (.inr rfl)
  · rw [none, UnpackedFloat.pack, unpack_packedZero]
    exact .inl rfl
  · rw [rounded]
    rcases unpack_pack_or_infinity .positive pos canonical with same | large
    · rw [same]
      exact .inl rfl
    · exact .inr (.inr large)

/-- What is nearer to a number that can be stored than to a larger one is not rounded to the larger
    one. -/
theorem Nearest.abs_lt {q r low high : Rat} (h : Nearest q r) (storable : Storable low)
    (less : low < high) (small : |q| < (low + high) / 2) : |r| < high := by
  rcases le_total |q| low with le | ge
  · exact (h.abs_bounded storable le).trans_lt less
  · by_contra large
    have apart : |r| - |q| ≤ |q - r| := by
      rw [abs_sub_comm]
      exact abs_sub_abs_le_abs_sub r q
    rcases abs_cases q with ⟨same, _⟩ | ⟨same, _⟩
    · have near : |q - r| ≤ |q - low| := h.least low storable
      rw [abs_of_nonneg (a := q - low) (by linarith)] at near
      linarith
    · have near : |q - r| ≤ |q - -low| := h.least (-low) storable.neg
      rw [abs_of_nonpos (a := q - -low) (by linarith)] at near
      linarith

/-- Half a last place past the largest double. -/
def overflow : Rat := limit - 2 ^ (970 : Int)

/-- A product does not overflow that is nearer to the largest double than to the power of two past
    it. -/
theorem isFinite_mul_of_abs_lt {x y : Float} (hx : x.isFinite = true) (hy : y.isFinite = true)
    (small : |rational x * rational y| < overflow) : (x * y).isFinite = true := by
  obtain ⟨r, nearest, exact⟩ := near_mul hx hy
  have largest : Storable (limit - 2 ^ (971 : Int)) := by
    refine ⟨2 ^ 53 - 1, 971, by norm_num, by norm_num, ?_⟩
    rw [limit_eq (k := 53) (e := 971) (by norm_num), ← sub_one_mul]
    congr 1
    norm_num
  have unit : (0 : Rat) < 2 ^ (971 : Int) := by positivity
  have middle : overflow = (limit - 2 ^ (971 : Int) + limit) / 2 := by
    rw [overflow, show (971 : Int) = 1 + 970 from rfl, zpow_add₀ two_ne_zero, zpow_one]
    ring
  exact (exact (nearest.abs_lt largest (sub_lt_self limit unit) (middle ▸ small))).1

end LadderAtlas.Binary64
