import LadderAtlas.Proofs.Chart.Points
import LadderAtlas.Proofs.Stats.Counts
import Mathlib.Data.List.GetD
import Mathlib.Tactic.Linarith
import Mathlib.Tactic.Ring

/-! # Shares

The shares of a snapshot are the percentages of its total, league after league. Over exact numbers
they add up to the share of the sum of the counts, so where the counts are of different leagues no
sum of shares is above a hundred, and where all leagues are ranked the sum of all shares is a
hundred.
-/

namespace LadderAtlas

/-! ## Percentages -/

namespace Format

variable {part total : Rat}

theorem share_eq (part total : Rat) :
    share part total = if total = 0 then 0 else part * 100 / total := by
  simp only [share, beq_iff_eq]

theorem share_nonneg (nonneg : 0 ≤ part) (positive : 0 ≤ total) : 0 ≤ share part total := by
  rw [share_eq]
  split
  · exact le_refl 0
  · exact div_nonneg (by linarith) positive

theorem share_le (within : part ≤ total) (positive : 0 ≤ total) : share part total ≤ 100 := by
  rw [share_eq]
  split
  · norm_num
  · exact div_le_of_le_mul₀ positive (by norm_num) (by linarith)

theorem sum_share (counts : List Rat) (total : Rat) :
    (counts.map fun count => share count total).sum = share counts.sum total := by
  induction counts with
  | nil => simp [share_eq]
  | cons count counts ih =>
      rw [List.map_cons, List.sum_cons, List.sum_cons, ih]
      simp only [share_eq]
      split
      · exact zero_add 0
      · ring

end Format

/-! ## Heights of borders -/

section Heights

variable {values : List Rat} {k : Nat}

namespace LeagueChart

/-- Each entry is the sum of the values up to its own. -/
theorem getD_stack (base : Rat) (inside : k < values.length) :
    (stack base values).getD k 0 = base + (values.take (k + 1)).sum := by
  induction values generalizing base k with
  | nil => cases inside
  | cons value rest ih =>
      cases k with
      | zero => simp [stack]
      | succ k =>
          rw [stack, List.getD_cons_succ, ih _ (Nat.lt_of_succ_lt_succ inside), List.take_succ_cons,
            List.sum_cons]
          exact add_assoc _ _ _

variable {p : SharePoint Rat}

theorem height_eq (inside : k < p.counts.length) : height k p = (p.shares.take (k + 1)).sum := by
  have inside' : k < p.shares.length := by rwa [SharePoint.shares, List.length_map]
  exact (getD_stack 0 inside').trans (zero_add _)

/-- The percentage of the teams before a position of the ranking. -/
def heightBelow : Nat → SharePoint Rat → Rat
  | 0, _ => 0
  | k + 1, p => height k p

theorem heightBelow_eq (inside : k < p.counts.length) :
    heightBelow k p = (p.shares.take k).sum := by
  cases k with
  | zero => rfl
  | succ k => exact height_eq (Nat.lt_of_succ_lt inside)

/-- Each league comes on top of those before it. -/
theorem height_eq_add (inside : k < p.counts.length) :
    height k p = heightBelow k p + p.share k := by
  have inside' : k < p.shares.length := by rwa [SharePoint.shares, List.length_map]
  rw [height_eq inside, heightBelow_eq inside, List.sum_take_succ _ _ inside', SharePoint.share,
    List.getD_eq_getElem _ _ inside']

theorem height_last (some : 0 < p.counts.length) :
    height (p.counts.length - 1) p = Format.share p.counts.sum p.total := by
  have whole : p.counts.length - 1 + 1 = p.shares.length := by
    rw [SharePoint.shares, List.length_map]
    omega
  rw [height_eq (by omega), whole, List.take_length]
  exact Format.sum_share p.counts p.total

end LeagueChart

namespace SharePoint

variable {p : SharePoint Rat}

theorem mem_shares_iff {x : Rat} : x ∈ p.shares ↔ ∃ k < p.counts.length, x = p.share k := by
  have length : p.shares.length = p.counts.length := by rw [shares, List.length_map]
  rw [← length, List.mem_iff_getElem]
  constructor
  · rintro ⟨k, inside, rfl⟩
    exact ⟨k, inside, (List.getD_eq_getElem _ _ inside).symm⟩
  · rintro ⟨k, inside, rfl⟩
    exact ⟨k, inside, (List.getD_eq_getElem _ _ inside).symm⟩

theorem shares_nonneg (nonneg : ∀ count ∈ p.counts, 0 ≤ count) (positive : 0 ≤ p.total) :
    ∀ share ∈ p.shares, 0 ≤ share := by
  intro share listed
  obtain ⟨count, counted, rfl⟩ := List.mem_map.mp listed
  exact Format.share_nonneg (nonneg count counted) positive

/-- Where there is no count there is no share either, so this holds at every position. -/
theorem share_nonneg (nonneg : ∀ count ∈ p.counts, 0 ≤ count) (positive : 0 ≤ p.total) (k : Nat) :
    0 ≤ p.share k := by
  rw [share, List.getD_eq_getElem?_getD]
  cases there : p.shares[k]? with
  | none => exact le_refl 0
  | some share => exact shares_nonneg nonneg positive share (List.mem_of_getElem? there)

end SharePoint

/-- Counts of parts that share nothing, and the count of the whole. -/
structure SharePoint.Divides (p : SharePoint Rat) : Prop where
  nonneg : ∀ count ∈ p.counts, 0 ≤ count
  within : p.counts.sum ≤ p.total

namespace SharePoint.Divides

variable {p : SharePoint Rat} (h : p.Divides)
include h

theorem total_nonneg : 0 ≤ p.total := (List.sum_nonneg h.nonneg).trans h.within

theorem shares_nonneg : ∀ share ∈ p.shares, 0 ≤ share :=
  SharePoint.shares_nonneg h.nonneg h.total_nonneg

theorem share_nonneg (k : Nat) : 0 ≤ p.share k := SharePoint.share_nonneg h.nonneg h.total_nonneg k

theorem sum_take_mem_Icc (k : Nat) : 0 ≤ (p.shares.take k).sum ∧ (p.shares.take k).sum ≤ 100 := by
  constructor
  · exact List.sum_nonneg fun share taken => h.shares_nonneg share (List.mem_of_mem_take taken)
  · calc
      (p.shares.take k).sum ≤ p.shares.sum := (List.take_sublist k _).sum_le_sum h.shares_nonneg
      _ = Format.share p.counts.sum p.total := Format.sum_share p.counts p.total
      _ ≤ 100 := Format.share_le h.within h.total_nonneg

/-- The borders stay inside of the graph. -/
theorem height_mem_Icc (inside : k < p.counts.length) :
    0 ≤ LeagueChart.height k p ∧ LeagueChart.height k p ≤ 100 := by
  rw [LeagueChart.height_eq inside]
  exact h.sum_take_mem_Icc (k + 1)

/-- A border is never below that of the league before. -/
theorem height_le_succ (inside : k + 1 < p.counts.length) :
    LeagueChart.height k p ≤ LeagueChart.height (k + 1) p := by
  rw [LeagueChart.height_eq_add inside]
  exact le_add_of_nonneg_right (h.share_nonneg (k + 1))

theorem height_mono {j : Nat} (order : j ≤ k) (inside : k < p.counts.length) :
    LeagueChart.height j p ≤ LeagueChart.height k p := by
  induction order with
  | refl => exact le_refl _
  | step _ ih => exact (ih (Nat.lt_of_succ_lt inside)).trans (h.height_le_succ inside)

end SharePoint.Divides

end Heights

/-! ## Counts of a snapshot -/

section Counts

variable {stat : Stat Rat} {f : Filter} {d : Dimension} {ranking : List Id} {p : SharePoint Rat}

/-- A point has the counts of ids that the layout lists, and the count of all that it lists. -/
theorem SharePoint.counts_of_ofStat (h : ofStat stat f d ranking = .ok p) (free : f.get? d = none) :
    (∀ id ∈ ranking, id ∈ stat.layout.ids d) ∧ stat.Counts f p.total ∧
      p.counts = ranking.map (stat.partCount f d) := by
  obtain ⟨-, -, a, aggregated, reads⟩ := ofStat_eq_ok h
  have listed : ∀ id ∈ ranking, id ∈ stat.layout.ids d := by
    intro id ranked
    obtain ⟨count, -, read⟩ := exists_mem_of_forall₂ reads.counts.flip ranked
    exact Stat.listed_of_get_below aggregated free read
  obtain ⟨ofTotal, ofCounts⟩ := Stat.counts_of_reads aggregated free listed reads
  exact ⟨listed, ofTotal, Stat.map_partCount_of_forall₂ ofCounts⟩

theorem SharePoint.counts_nonneg (h : ofStat stat f d ranking = .ok p) (free : f.get? d = none)
    (nonneg : stat.CountsNonneg) : ∀ count ∈ p.counts, 0 ≤ count := by
  obtain ⟨-, -, counts⟩ := counts_of_ofStat h free
  intro count counted
  rw [counts] at counted
  obtain ⟨id, -, rfl⟩ := List.mem_map.mp counted
  exact nonneg.partCount_nonneg f d id

theorem SharePoint.divides_of_ofStat (h : ofStat stat f d ranking = .ok p) (free : f.get? d = none)
    (nonneg : stat.CountsNonneg) (distinct : ranking.Nodup) : p.Divides := by
  obtain ⟨listed, ofTotal, counts⟩ := counts_of_ofStat h free
  refine ⟨counts_nonneg h free nonneg, ?_⟩
  rw [counts]
  exact ofTotal.sum_partCount_le free nonneg distinct listed

/-- Where every listed id is ranked once, the counts come to the total. -/
theorem SharePoint.sum_counts_of_perm (h : ofStat stat f d ranking = .ok p) (free : f.get? d = none)
    (all : ranking.Perm (stat.layout.ids d)) : p.counts.sum = p.total := by
  obtain ⟨-, ofTotal, counts⟩ := counts_of_ofStat h free
  rw [counts, ofTotal.eq_sum_partCount free, (all.map _).sum_eq]

end Counts

end LadderAtlas
