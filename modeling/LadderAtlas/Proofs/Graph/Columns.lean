import LadderAtlas.Chart.Source
import LadderAtlas.Proofs.Number.Arithmetic

/-! # Columns of a time chart

Times are placed by the fraction of the way from the first time to the last. At double precision
that works out for every time in between, as long as the first time and the last are different
doubles. If they are the same double, every column is no number.
-/

namespace LadderAtlas

namespace Binary64

/-- A time in seconds, as a double. -/
def ofTime (t : Int64) : Float := ofInt t.toInt

theorem abs_toInt_le (t : Int64) : |t.toInt| ≤ 2 ^ 63 := by
  have low := t.le_toInt
  have high := t.toInt_lt
  exact abs_le.mpr ⟨low, high.le⟩

theorem abs_toInt_lt (t : Int64) : |t.toInt| < 2 ^ 64 := (abs_toInt_le t).trans_lt (by norm_num)

theorem isFinite_ofTime (t : Int64) :
    (ofTime t).isFinite = true ∧ |rational (ofTime t)| ≤ 2 ^ (63 : Int) := by
  obtain ⟨finite, nearest⟩ := nearest_ofInt (abs_toInt_lt t)
  refine ⟨finite, nearest.abs_bounded (storable_two_zpow (by norm_num)) ?_⟩
  exact_mod_cast abs_toInt_le t

theorem rational_ofTime_le {s t : Int64} (le : s ≤ t) : rational (ofTime s) ≤ rational (ofTime t) :=
  rational_ofInt_le (abs_toInt_lt s) (abs_toInt_lt t) (Int64.le_iff_toInt_le.mp le)

theorem ofTime_eq_iff {s t : Int64} :
    ofTime s = ofTime t ↔ rational (ofTime s) = rational (ofTime t) :=
  ofInt_eq_iff (abs_toInt_lt s) (abs_toInt_lt t)

/-- Times are not so far apart that their distance overflows. -/
theorem nearest_sub_ofTime (s t : Int64) : (ofTime t - ofTime s).isFinite = true ∧
    Nearest (rational (ofTime t) - rational (ofTime s)) (rational (ofTime t - ofTime s)) := by
  obtain ⟨finiteS, boundS⟩ := isFinite_ofTime s
  obtain ⟨finiteT, boundT⟩ := isFinite_ofTime t
  have small : (2 : Rat) ^ (64 : Int) < limit := two_zpow_lt_limit (by norm_num)
  refine (near_sub finiteT finiteS).nearest (storable_two_zpow (e := 64) (by norm_num)) small ?_
  calc |rational (ofTime t) - rational (ofTime s)|
      ≤ |rational (ofTime t)| + |rational (ofTime s)| := abs_sub _ _
    _ ≤ 2 ^ (63 : Int) + 2 ^ (63 : Int) := by gcongr
    _ = 2 ^ (64 : Int) := by norm_num

/-- The distance of a time to itself. -/
theorem unpack_sub_self (t : Int64) : ∃ s, (ofTime t - ofTime t).toModel.unpack = .zero s := by
  obtain ⟨finite, nearest⟩ := nearest_sub_ofTime t t
  rw [sub_self] at nearest
  exact unpack_of_rational_eq_zero finite (nearest.eq storable_zero)

end Binary64

namespace Frame

open Binary64

variable {f : Frame Float} {first last t : Int64} {top : Float}

theorem column_isFinite (after : first ≤ t) (before : t ≤ last) (apart : ofTime first ≠ ofTime last)
    (wide : f.width.isFinite = true) :
    ((f.timeViewport first last top).column (Scalar.ofInt t.toInt)).isFinite = true := by
  change ((ofTime t - ofTime first) / (ofTime last - ofTime first) * f.width).isFinite = true
  obtain ⟨finiteT, nearestT⟩ := nearest_sub_ofTime first t
  obtain ⟨finite, nearest⟩ := nearest_sub_ofTime first last
  have start := rational_ofTime_le after
  have stop := rational_ofTime_le before
  have less : rational (ofTime first) < rational (ofTime last) :=
    lt_of_le_of_ne (start.trans stop) fun same => apart (ofTime_eq_iff.mpr same)
  -- Numbers that can be stored are apart by something that can be stored.
  have positive : 0 < rational (ofTime last - ofTime first) := by
    have gap := (storable_rational (isFinite_ofTime first).1).le_sub
      (storable_rational (isFinite_ofTime last).1) less
    have unit : (0 : Rat) < 2 ^ (-1074 : Int) := by positivity
    exact unit.trans_le (nearest.ge (storable_two_zpow le_rfl) gap)
  have nonneg : 0 ≤ rational (ofTime t - ofTime first) :=
    nearestT.ge storable_zero (sub_nonneg.mpr start)
  have le : rational (ofTime t - ofTime first) ≤ rational (ofTime last - ofTime first) := by
    rcases stop.lt_or_eq with lt | same
    · exact nearestT.le_of_lt nearest (by linarith)
    · rw [ofTime_eq_iff.mpr same]
  obtain ⟨finite', part⟩ := isFinite_div finiteT finite positive.ne'
    (by rwa [abs_of_nonneg nonneg, abs_of_pos positive])
  exact isFinite_mul finite' wide part

theorem column_isNaN (after : first ≤ t) (before : t ≤ last) (flat : ofTime first = ofTime last) :
    ((f.timeViewport first last top).column (Scalar.ofInt t.toInt)).isNaN = true := by
  change ((ofTime t - ofTime first) / (ofTime last - ofTime first) * f.width).isNaN = true
  have same : ofTime t = ofTime first := by
    refine ofTime_eq_iff.mpr (le_antisymm ?_ (rational_ofTime_le after))
    rw [flat]
    exact rational_ofTime_le before
  obtain ⟨s, zero⟩ := unpack_sub_self first
  rw [same, ← flat]
  exact isNaN_zero_share zero

end Frame

end LadderAtlas
