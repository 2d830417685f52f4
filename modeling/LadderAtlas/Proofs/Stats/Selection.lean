import LadderAtlas.Stats.Aggregate
import Mathlib.Data.Multiset.Bind

/-! # Cells of a selection

A selection names the product of its four lists of ids. Narrowing it to one id of a dimension leaves
the part of the product with that id, and all the parts together are the whole: every cell as often
as it was named, in another order. Nothing here depends on the ids being distinct or known.
-/

namespace LadderAtlas.Selection

theorem mem_coordinates {s : Selection} {c : Coordinate} :
    c ∈ s.coordinates ↔ ∀ d, c.get d ∈ s.ids d := by
  obtain ⟨v, r, l, a⟩ := c
  simp only [coordinates, List.mem_flatMap, List.mem_map, ByDimension.mk.injEq]
  constructor
  · rintro ⟨v, hv, r, hr, l, hl, a, ha, rfl, rfl, rfl, rfl⟩ d
    cases d <;> assumption
  · intro h
    exact ⟨v, h .version, r, h .region, l, h .league, a, h .race, rfl, rfl, rfl, rfl⟩

/-- Two loops inside one another visit the same in either order. -/
private theorem flatMap_swap {α β γ : Type} (as : List α) (bs : List β) (f : α → β → List γ) :
    (as.flatMap fun a => bs.flatMap fun b => f a b).Perm
      (bs.flatMap fun b => as.flatMap fun a => f a b) := by
  apply Multiset.coe_eq_coe.mp
  simp only [← Multiset.coe_bind]
  exact Multiset.bind_bind (as : Multiset α) (bs : Multiset β)

/-- A selection is made of its narrowings to the ids listed for any one dimension. An id listed
    twice contributes its part twice. -/
theorem coordinates_perm_narrowed (s : Selection) (d : Dimension) :
    s.coordinates.Perm ((s.ids d).flatMap fun id => (s.narrowed d id).coordinates) := by
  obtain ⟨⟨vs, rs, ls, as⟩⟩ := s
  -- The loop over `d` is brought to the outside, past the loops that stand around it.
  cases d with
  | version => simp [coordinates, ids, narrowed, ByDimension.get, ByDimension.set]
  | region =>
      simp only [coordinates, ids, narrowed, ByDimension.get, ByDimension.set,
        List.flatMap_cons, List.flatMap_nil, List.append_nil]
      exact flatMap_swap vs rs _
  | league =>
      simp only [coordinates, ids, narrowed, ByDimension.get, ByDimension.set,
        List.flatMap_cons, List.flatMap_nil, List.append_nil]
      refine .trans (List.Perm.flatMap_left vs fun v _ => ?_) (flatMap_swap vs ls _)
      exact flatMap_swap rs ls _
  | race =>
      simp only [coordinates, ids, narrowed, ByDimension.get, ByDimension.set,
        List.map_eq_flatMap, List.flatMap_cons, List.flatMap_nil, List.append_nil]
      refine .trans (List.Perm.flatMap_left vs fun v _ => ?_) (flatMap_swap vs as _)
      refine .trans (List.Perm.flatMap_left rs fun r _ => ?_) (flatMap_swap rs as _)
      exact flatMap_swap ls as _

theorem mem_coordinates_of_narrowed {s : Selection} {d : Dimension} {id : Id} {c : Coordinate}
    (listed : id ∈ s.ids d) (hc : c ∈ (s.narrowed d id).coordinates) : c ∈ s.coordinates :=
  (s.coordinates_perm_narrowed d).mem_iff.mpr (List.mem_flatMap.mpr ⟨id, listed, hc⟩)

/-- The selection narrowed to the ids of a path, which belong to the dimensions in order. -/
def narrowedAlong (s : Selection) : List Dimension → List Id → Selection
  | d :: rest, id :: path => (s.narrowed d id).narrowedAlong rest path
  | _, _ => s

section Placed

variable [Build] {α : Type}

/-- Every selected cell has its numbers in the array. -/
def Placed (s : Selection) (l : Layout) (data : Array α) : Prop :=
  ∀ c ∈ s.coordinates, (l.cell? data c).isSome

instance (s : Selection) (l : Layout) (data : Array α) : Decidable (s.Placed l data) :=
  inferInstanceAs (Decidable (∀ c ∈ s.coordinates, (l.cell? data c).isSome))

theorem Placed.narrowed {s : Selection} {l : Layout} {data : Array α} (h : s.Placed l data)
    {d : Dimension} {id : Id} (listed : id ∈ s.ids d) : (s.narrowed d id).Placed l data :=
  fun c hc => h c (mem_coordinates_of_narrowed listed hc)

end Placed

end LadderAtlas.Selection
