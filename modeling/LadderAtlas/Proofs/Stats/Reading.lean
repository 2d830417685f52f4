import LadderAtlas.Proofs.Stats.Totals
import LadderAtlas.Stats.Mode
import Mathlib.Data.List.Forall2

/-! # Reading aggregates

Below an id, an aggregate is the aggregate of the filter that lists nothing but the id in its
dimension. What is read there is the same to the last bit, since the same cells are added in the
same order. Over exact numbers what is read does not depend on the grouping either: it is the sum of
the cells that the filter lets through.
-/

namespace LadderAtlas

open AggregateTree

theorem Filter.resolve_set (f : Filter) (l : Layout) (d : Dimension) (id : Id) :
    (f.set d [id]).resolve l = (f.resolve l).narrowed d id := by
  cases d <;> rfl

theorem Filter.ids_resolve_of_free {f : Filter} {d : Dimension} (free : f.get? d = none)
    (l : Layout) :
    (f.resolve l).ids d = l.ids d := by
  rw [resolve, Selection.ids, ByDimension.get_ofFn, free]
  rfl

theorem exists_getElem?_of_forall₂ {β γ : Type} {R : β → γ → Prop} {xs : List β} {ys : List γ}
    (h : List.Forall₂ R xs ys) {i : Nat} {x : β} (here : xs[i]? = some x) :
    ∃ y, ys[i]? = some y ∧ R x y := by
  obtain ⟨inside, rfl⟩ := List.getElem?_eq_some_iff.mp here
  have inside' : i < ys.length := h.length_eq ▸ inside
  exact ⟨ys[i], List.getElem?_eq_getElem inside', h.get inside inside'⟩

section Reads

variable {α : Type} {a b : Aggregate α} {path ids : List Id} {total : α} {counts : List α}

/-- The count at a path of an aggregate, and the counts of some ids right below. -/
structure Reads (a : Aggregate α) (path ids : List Id) (total : α) (counts : List α) : Prop where
  total : a.count path = .ok total
  counts : List.Forall₂ (fun id count => a.count (path ++ [id]) = .ok count) ids counts

/-- What is read twice at one path is read alike, wherever an id stands in the two lists. -/
theorem Reads.agree {ids' : List Id} {total' : α} {counts' : List α}
    (h : Reads a path ids total counts) (h' : Reads a path ids' total' counts') : total = total' ∧
      ∀ (k j : Nat) (id : Id), ids[k]? = some id → ids'[j]? = some id →
        ∃ count, counts[k]? = some count ∧ counts'[j]? = some count := by
  refine ⟨Except.ok.inj (h.total.symm.trans h'.total), fun k j id here there => ?_⟩
  obtain ⟨count, found, read⟩ := exists_getElem?_of_forall₂ h.counts here
  obtain ⟨count', found', read'⟩ := exists_getElem?_of_forall₂ h'.counts there
  obtain rfl : count = count' := Except.ok.inj (read.symm.trans read')
  exact ⟨count, found, found'⟩

theorem Reads.imp {path' : List Id} (h : Reads a path ids total counts)
    (below : ∀ rest : List Id, rest.length ≤ 1 → a.count (path ++ rest) = b.count (path' ++ rest)) :
    Reads b path' ids total counts := by
  have here := below [] (Nat.zero_le 1)
  rw [List.append_nil, List.append_nil] at here
  refine ⟨here ▸ h.total, h.counts.imp fun id count read => ?_⟩
  rw [← below [id] (Nat.le_refl 1)]
  exact read

end Reads

theorem Aggregate.get_nil {α : Type} (a : Aggregate α) (field : Field) :
    a.get field [] = .ok (a.root.total.get field) := by
  simp [get, walk, bind, Except.bind, pure, Except.pure]

namespace Stat

section Parts

variable [Build] {α : Type} [Scalar α] {s : Stat α} {f : Filter} {groupBy rest : List Dimension}
  {d : Dimension} {a : Aggregate α} {id : Id}

theorem aggregate_eq_ok (h : s.aggregate f groupBy = .ok a) :
    ∃ tree, BreaksOut s.layout s.snapshot.data (f.resolve s.layout) groupBy tree ∧
      a = ⟨f.resolve s.layout, groupBy, tree⟩ := by
  simp only [aggregate] at h
  split at h
  · next tree broken =>
      cases h
      exact ⟨tree, aggregate_eq_some_iff.mp broken, rfl⟩
  · cases h

theorem ids_of_aggregate (h : s.aggregate f groupBy = .ok a) (free : f.get? d = none) :
    a.ids d = s.layout.ids d := by
  obtain ⟨tree, -, rfl⟩ := aggregate_eq_ok h
  exact Filter.ids_resolve_of_free free s.layout

/-- Below a listed id there is the aggregate of that id alone. -/
theorem exists_part (whole : s.aggregate f (d :: rest) = .ok a) (listed : id ∈ a.ids d) :
    ∃ b, s.aggregate (f.set d [id]) rest = .ok b ∧
      ∀ path : List Id, path.length ≤ rest.length → a.count (id :: path) = b.count path := by
  obtain ⟨_, ⟨child, below, rfl⟩, rfl⟩ := aggregate_eq_ok whole
  change id ∈ (f.resolve s.layout).ids d at listed
  refine ⟨⟨(f.resolve s.layout).narrowed d id, rest, child id⟩, ?_, fun path short => ?_⟩
  · simp only [aggregate, Filter.resolve_set, aggregate_eq_some_iff.mpr (below id listed)]
  · have found := child?_branch child ((f.resolve s.layout).ids d)
      (((f.resolve s.layout).ids d).foldl (fun t id => t.add (child id).total) Tally.zero) id
    rw [if_pos listed] at found
    simp only [Aggregate.count, Aggregate.get, List.length_cons, Nat.add_lt_add_iff_right,
      List.zip_cons_cons, Aggregate.walk, found]
    rw [if_neg (Nat.not_lt.mpr short), if_neg (Nat.not_lt.mpr short)]

end Parts

section Exact

variable [Build] {s : Stat Rat} {f : Filter} {groupBy : List Dimension} {a : Aggregate Rat}

/-- `n` is the count of all cells that a filter lets through. -/
def Counts (s : Stat Rat) (f : Filter) (n : Rat) : Prop := (s.sum f).map Tally.count = .ok n

theorem counts_of_aggregate (h : s.aggregate f groupBy = .ok a) {n : Rat}
    (read : a.count [] = .ok n) :
    s.Counts f n := by
  obtain ⟨tree, broken, rfl⟩ := aggregate_eq_ok h
  have placed := broken.placed
  rw [Counts, sum, sumCells_eq_exactSum placed, ← broken.total_eq placed]
  exact read

end Exact

end Stat

end LadderAtlas
