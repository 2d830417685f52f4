import LadderAtlas.Json.Decode
import LadderAtlas.Proofs.Json.Scanning

/-! # Records are read back field by field

A record that names each member once gives every field that is asked for its value, whether other
members stand before or after it, and leaves a field without a member blank.
-/

namespace LadderAtlas.Json

/-- The names of fields, in order. -/
def Fields.names (fields : Fields) : List String := fields.map Prod.fst

theorem Fields.value?_cons (field : String × Option Json) (rest : Fields) (name : String) :
    Fields.value? (field :: rest) name =
      if field.1 = name then field.2 else Fields.value? rest name := by
  unfold Fields.value?
  by_cases same : field.1 = name <;> simp [same]

/-- A member goes where its name is, and the other fields keep what they have. -/
theorem placeMember_of_blank {name : String} (value : Json) {fields : Fields}
    (blank : fields.value? name = none) :
    ∃ placed, placeMember name value fields = some placed ∧ placed.names = fields.names ∧
      (name ∈ fields.names → placed.value? name = some value) ∧
      ∀ other, other ≠ name → placed.value? other = fields.value? other := by
  induction fields with
  | nil => exact ⟨[], rfl, rfl, nofun, fun _ _ => rfl⟩
  | cons field rest ih =>
      obtain ⟨key, found⟩ := field
      rw [Fields.value?_cons] at blank
      by_cases same : key = name
      · obtain rfl : found = none := (if_pos same).symm.trans blank
        refine ⟨(key, some value) :: rest, ?_, rfl, fun _ => ?_, fun other apart => ?_⟩
        · simp [placeMember, same]
        · rw [Fields.value?_cons, if_pos same]
        · have elsewhere : key ≠ other := fun h => apart (h.symm.trans same)
          rw [Fields.value?_cons, Fields.value?_cons, if_neg elsewhere, if_neg elsewhere]
      · rw [if_neg same] at blank
        obtain ⟨placed, hplaced, names, own, others⟩ := ih blank
        refine ⟨(key, found) :: placed, ?_, congrArg (key :: ·) names, fun asked => ?_,
          fun other apart => ?_⟩
        · simp [placeMember, same, hplaced]
        · have later : name ∈ Fields.names rest :=
            (List.mem_cons.mp asked).resolve_left (Ne.symm same)
          rw [Fields.value?_cons, if_neg same, own later]
        · rw [Fields.value?_cons, Fields.value?_cons, others other apart]

/-- Members of different names that are blank so far are all placed. -/
theorem foldlM_placeMember {members : List (String × Json)} {fields : Fields}
    (once : (members.map Prod.fst).Nodup) (blank : ∀ m ∈ members, fields.value? m.1 = none) :
    ∃ placed, members.foldlM (fun fields m => placeMember m.1 m.2 fields) fields = some placed ∧
      ∀ name ∈ fields.names,
        placed.value? name = (members.lookup name).or (fields.value? name) := by
  induction members generalizing fields with
  | nil => exact ⟨fields, rfl, fun _ _ => rfl⟩
  | cons m members ih =>
      obtain ⟨fresh, once⟩ := List.nodup_cons.mp once
      have apart : ∀ other ∈ members, other.1 ≠ m.1 := fun other member same =>
        fresh (same ▸ List.mem_map_of_mem member)
      obtain ⟨first, hfirst, names, own, others⟩ :=
        placeMember_of_blank m.2 (blank m List.mem_cons_self)
      obtain ⟨placed, hplaced, values⟩ := ih once fun other member =>
        (others other.1 (apart other member)).trans (blank other (List.mem_cons_of_mem m member))
      refine ⟨placed, by rw [List.foldlM_cons, hfirst]; exact hplaced, fun name asked => ?_⟩
      rw [values name (names.symm ▸ asked), List.lookup_cons]
      by_cases here : name = m.1
      · subst here
        have gone : members.lookup m.1 = none := by
          rw [List.lookup_eq_none_iff]
          intro other member
          simpa using (apart other member).symm
        rw [gone, own asked, beq_self_eq_true]
        rfl
      · rw [others name here, beq_eq_false_iff_ne.mpr here]

/-- A record with each member once is read as a field for each name that is asked for. -/
theorem fields?_record (names : List String) {members : List (String × Json)}
    (once : (members.map Prod.fst).Nodup) :
    ∃ fields, (record members).fields? names = some fields ∧
      ∀ name ∈ names, fields.value? name = members.lookup name := by
  let blank : Fields := names.map fun name => (name, none)
  have blankNames : blank.names = names := by
    rw [Fields.names, List.map_map]
    exact List.map_id names
  have nothing (name : String) : blank.value? name = none := by
    unfold Fields.value?
    split
    next found =>
      obtain ⟨_, _, given⟩ := List.mem_map.mp (List.mem_of_find?_eq_some found)
      cases given
      rfl
    next => rfl
  obtain ⟨fields, placed, values⟩ := foldlM_placeMember once fun m _ => nothing m.1
  refine ⟨fields, ?_, fun name asked => ?_⟩
  · rw [← placed]
    simp only [fields?, record, List.foldlM_map, decode?_encode]
    simp [blank]
  · rw [values name (blankNames.symm ▸ asked), nothing, Option.or_none]

/-- A list is read back from the array of what its entries are read from. -/
theorem list?_map {β : Type} {item? : Json → Option β} {write : β → Json}
    (read : ∀ x, item? (write x) = some x) (xs : List β) :
    list? item? (.array (xs.map write)) = some xs := by
  have readers : item? ∘ write = fun x => some x := funext read
  rw [list?, List.mapM_map, readers]
  exact List.mapM_pure.trans (congrArg some (List.map_id xs))

end LadderAtlas.Json
