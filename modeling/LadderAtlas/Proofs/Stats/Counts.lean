import LadderAtlas.Proofs.Results
import LadderAtlas.Proofs.Stats.Influence
import LadderAtlas.Proofs.Stats.Paths
import Mathlib.Algebra.Order.BigOperators.Group.List
import Mathlib.Algebra.Order.Field.Rat
import Mathlib.Data.List.Nodup

/-! # Counts of filters

How many teams a filter lets through, over exact numbers. Breaking a filter out by a dimension that
it leaves open counts the same cells part by part, so the counts of the parts add up to the count of
the whole. Some of the parts add up to no more than that, as long as no part is taken twice and no
cell counts less than nothing.
-/

namespace LadderAtlas

/-! ## Numbers that are not negative -/

theorem Layout.mem_of_cell? {α : Type} {l : Layout} {data : Array α} {c : Coordinate}
    {cell : List α} (found : l.cell? data c = some cell) {number : α} (member : number ∈ cell) :
    number ∈ data := by
  simp only [cell?, Option.bind_eq_bind, Option.bind_eq_some_iff] at found
  obtain ⟨start, -, stop, -, found⟩ := found
  split at found
  · rw [← Option.some.inj found, Array.toList_extract, List.extract_eq_take_drop] at member
    exact Array.mem_toList_iff.mp (List.mem_of_mem_drop (List.mem_of_mem_take member))
  · cases found

theorem Tally.get_addCell_nonneg {cell : List Rat} (nonneg : ∀ number ∈ cell, 0 ≤ number)
    (field : Field) :
    0 ≤ (addCell 0 cell).get field := by
  rcases cell with - | ⟨c, - | ⟨w, - | ⟨l, - | ⟨p, rest⟩⟩⟩⟩ <;> cases field <;>
    simp_all [addCell, get, zero_def]

theorem exactSum_get_nonneg {l : Layout} {data : Array Rat} {field : Field}
    (cells : ∀ c, 0 ≤ (cellTally l data c).get field) (sel : Selection) :
    0 ≤ (exactSum l data sel).get field := by
  rw [exactSum, Tally.get_sum]
  refine List.sum_nonneg fun number listed => ?_
  obtain ⟨tally, ofCell, rfl⟩ := List.mem_map.mp listed
  obtain ⟨c, -, rfl⟩ := List.mem_map.mp ofCell
  exact cells c

theorem cellTally_get_nonneg {l : Layout} {data : Array Rat} (nonneg : ∀ number ∈ data, 0 ≤ number)
    (c : Coordinate) (field : Field) : 0 ≤ (cellTally l data c).get field := by
  refine Tally.get_addCell_nonneg (fun number member => ?_) field
  cases found : l.cell? data c with
  | none =>
      rw [found] at member
      cases member
  | some cell =>
      rw [found] at member
      exact nonneg number (Layout.mem_of_cell? found member)

namespace Stat

variable {s : Stat Rat} {f : Filter} {d : Dimension} {n : Rat} {id : Id} {ids : List Id}
  {counts : List Rat}

theorem Counts.eq_exactSum (h : s.Counts f n) :
    n = (exactSum s.layout s.snapshot.data (f.resolve s.layout)).count ∧
      (f.resolve s.layout).Placed s.layout s.snapshot.data := by
  simp only [Counts, sum] at h
  split at h
  · next tally summed =>
      have placed := sumCells_isSome_iff.mp (Option.isSome_of_eq_some summed)
      rw [sumCells_eq_exactSum placed] at summed
      cases summed
      exact ⟨(Except.ok.inj h).symm, placed⟩
  · cases h

/-! ## Parts -/

/-- The count of what a filter lets through of one id. -/
def partCount (s : Stat Rat) (f : Filter) (d : Dimension) (id : Id) : Rat :=
  (exactSum s.layout s.snapshot.data ((f.resolve s.layout).narrowed d id)).count

theorem map_partCount_of_forall₂
    (parts : List.Forall₂ (fun id count => s.Counts (f.set d [id]) count) ids counts) :
    counts = ids.map (s.partCount f d) := by
  have same := map_eq_of_forall₂ parts (s.partCount f d) (fun count => count)
    fun id count ofPart => by
    rw [ofPart.eq_exactSum.1, Filter.resolve_set, partCount]
  rwa [List.map_id'] at same

theorem Counts.eq_sum_partCount (h : s.Counts f n) (free : f.get? d = none) :
    n = ((s.layout.ids d).map (s.partCount f d)).sum := by
  calc
    n = (exactSum s.layout s.snapshot.data (f.resolve s.layout)).get .count := h.eq_exactSum.1
    _ = ((s.layout.ids d).map (s.partCount f d)).sum := by
        rw [exactSum_eq_sum_narrowed _ _ _ d, Tally.get_sum, List.map_map,
          Filter.ids_resolve_of_free free]
        rfl

/-- The count of a filter is the sum of the counts of its parts by a dimension that it leaves
    open. -/
theorem Counts.eq_sum (h : s.Counts f n) (free : f.get? d = none)
    (parts : List.Forall₂ (fun id count => s.Counts (f.set d [id]) count) (s.layout.ids d) counts) :
    n = counts.sum := by
  rw [h.eq_sum_partCount free, map_partCount_of_forall₂ parts]

/-- What is read at the root and right below it counts what the filter lets through, in all and of
    each id. -/
theorem counts_of_reads {a : Aggregate Rat} (aggregated : s.aggregate f [d] = .ok a)
    (free : f.get? d = none) (listed : ∀ id ∈ ids, id ∈ s.layout.ids d)
    (reads : Reads a [] ids n counts) :
    s.Counts f n ∧ List.Forall₂ (fun id count => s.Counts (f.set d [id]) count) ids counts := by
  refine ⟨counts_of_aggregate aggregated reads.total, ?_⟩
  refine ((List.forall₂_and_left _ _).mpr ⟨listed, reads.counts⟩).imp fun id count ⟨here, read⟩ =>
    ?_
  obtain ⟨b, part, same⟩ := exists_part aggregated ((ids_of_aggregate aggregated free).symm ▸ here)
  exact counts_of_aggregate part ((same [] (Nat.le_refl 0)).symm.trans read)

/-! ## Counts that are not negative -/

/-- What is read of a snapshot without negative numbers is not negative. -/
theorem get_nil_nonneg {groupBy : List Dimension} {a : Aggregate Rat}
    (aggregated : s.aggregate f groupBy = .ok a) (nonneg : ∀ number ∈ s.snapshot.data, 0 ≤ number)
    {field : Field} {x : Rat} (read : a.get field [] = .ok x) :
    0 ≤ x := by
  obtain ⟨tree, broken, rfl⟩ := aggregate_eq_ok aggregated
  rw [Aggregate.get_nil, broken.total_eq broken.placed] at read
  rw [← Except.ok.inj read]
  exact exactSum_get_nonneg (fun c => cellTally_get_nonneg nonneg c field) _

/-- No cell of the snapshot counts less than nothing. -/
def CountsNonneg (s : Stat Rat) : Prop :=
  ∀ c count rest, s.cell? c = some (count :: rest) → 0 ≤ count

theorem countsNonneg_of_data (h : ∀ number ∈ s.snapshot.data, 0 ≤ number) : s.CountsNonneg :=
  fun _ count _ found => h count (Layout.mem_of_cell? found List.mem_cons_self)

theorem CountsNonneg.cellTally_nonneg (h : s.CountsNonneg) (c : Coordinate) :
    0 ≤ (cellTally s.layout s.snapshot.data c).get .count := by
  cases found : s.layout.cell? s.snapshot.data c with
  | none => simp [cellTally, found, Tally.addCell, Tally.get, Tally.zero_def]
  | some cell =>
      cases cell with
      | nil => simp [cellTally, found, Tally.addCell, Tally.get, Tally.zero_def]
      | cons count rest =>
          have counted : (cellTally s.layout s.snapshot.data c).get .count = 0 + count := by
            rw [cellTally, found]
            rcases rest with _ | ⟨_, _ | ⟨_, _ | _⟩⟩ <;> rfl
          rw [counted, zero_add]
          exact h c count rest found

theorem CountsNonneg.partCount_nonneg (h : s.CountsNonneg) (f : Filter) (d : Dimension) (id : Id) :
    0 ≤ s.partCount f d id :=
  exactSum_get_nonneg h.cellTally_nonneg _

theorem Counts.nonneg (h : s.Counts f n) (nonneg : s.CountsNonneg) : 0 ≤ n := by
  rw [h.eq_exactSum.1]
  exact exactSum_get_nonneg nonneg.cellTally_nonneg _

/-- Parts by different ids come to no more than the whole. -/
theorem Counts.sum_partCount_le (h : s.Counts f n) (free : f.get? d = none)
    (nonneg : s.CountsNonneg) (distinct : ids.Nodup) (listed : ∀ id ∈ ids, id ∈ s.layout.ids d) :
    (ids.map (s.partCount f d)).sum ≤ n := by
  rw [h.eq_sum_partCount free]
  obtain ⟨some, perm, sublist⟩ := distinct.subperm listed
  rw [← (perm.map _).sum_eq]
  refine (sublist.map _).sum_le_sum fun count member => ?_
  obtain ⟨id, -, rfl⟩ := List.mem_map.mp member
  exact nonneg.partCount_nonneg f d id

end Stat

end LadderAtlas
