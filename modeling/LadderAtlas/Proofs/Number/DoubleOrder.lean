import LadderAtlas.Number.Scalar
import Mathlib

/-! # The order of doubles

What the bits of a double are unpacked to packs to the same bits again. So a number that is not NaN
is not above itself, and adding it to zero takes nothing off it.
-/

namespace LadderAtlas.Binary64

open Float.Model (Format UnpackedFloat)
open Float.Model.UnpackedFloat

theorem pack_unpack (x : Float.Model) : Float.Model.pack x.unpack = x := by
  cases x with
  | mk bits valid => simp only [Float.Model.pack, Float.Model.unpack, pack_unpack_of_valid valid]

theorem le_iff (x y : Float) : x ≤ y ↔ x.toModel.unpack.le y.toModel.unpack = true := by
  change decide (x.toModel.le y.toModel = true) = true ↔ _
  rw [decide_eq_true_eq]
  rfl

theorem compare_self {u : UnpackedFloat} (number : u.isNaN = false) : u.compare u = some .eq := by
  cases u with
  | notANumber => cases number
  | infinity s => cases s <;> rfl
  | zero s => rfl
  | finite s m e pos =>
      cases s <;> simp [UnpackedFloat.compare]

theorem le_self {x : Float} (number : x.isNaN = false) : x ≤ x := by
  have same : x.toModel.unpack.compare x.toModel.unpack = some .eq := compare_self number
  rw [le_iff, UnpackedFloat.le, same]
  rfl

/-- Adding a number to zero takes nothing off it. -/
theorem le_zero_add {x : Float} (number : x.isNaN = false) : x ≤ 0 + x := by
  have sum : (0 + x).toModel = .pack (.add Format.binary64 (.zero .positive) x.toModel.unpack) :=
    rfl
  -- Everything but a zero is its own sum.
  have own (same : UnpackedFloat.add Format.binary64 (.zero .positive) x.toModel.unpack =
      x.toModel.unpack) : x ≤ 0 + x := by
    rw [same, pack_unpack] at sum
    rw [le_iff, sum, ← le_iff]
    exact le_self number
  cases unpacked : x.toModel.unpack with
  | notANumber =>
      have nan : x.toModel.unpack.isNaN = false := number
      rw [unpacked] at nan
      cases nan
  | infinity s => exact own (by rw [unpacked]; rfl)
  | finite s m e pos => exact own (by rw [unpacked]; rfl)
  | zero s =>
      have zero : UnpackedFloat.add Format.binary64 (.zero .positive) (.zero s) =
          .zero .positive := by
        cases s <;> rfl
      rw [unpacked, zero] at sum
      rw [le_iff, sum, unpacked]
      cases s <;> rfl

end LadderAtlas.Binary64
