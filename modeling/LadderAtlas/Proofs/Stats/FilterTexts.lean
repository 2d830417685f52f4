import LadderAtlas.Stats.Filter
import LadderAtlas.Proofs.Json.Records
import LadderAtlas.Proofs.Json.Rendering
import Mathlib.Data.List.Nodup

/-! # Filters survive being written

The text of a filter has a member for each dimension that the filter lists ids for, and none for the
others. Reading it gives every dimension its list back and leaves the others without one, so a
dimension that is left out never turns into one with no id.
-/

namespace LadderAtlas

namespace Dimension

theorem plural_injective : Function.Injective plural := by
  intro d e same
  cases d <;> cases e <;> first | rfl | exact absurd same (by decide)

/-- No plural needs an escape. -/
theorem encode_plural (d : Dimension) : String.ofList (Json.encode d.plural.toList) = d.plural := by
  cases d <;> decide

theorem mem_inOrder (d : Dimension) : d ∈ inOrder := by
  cases d <;> decide

/-- Of the dimensions listed, each is found under its plural where it has a value. -/
theorem lookup_plural {β : Type} (value? : Dimension → Option β) (ds : List Dimension)
    (d : Dimension) :
    (ds.filterMap fun e => (value? e).map fun v => (e.plural, v)).lookup d.plural =
      if d ∈ ds then value? d else none := by
  induction ds with
  | nil => rfl
  | cons e ds ih =>
      rw [List.filterMap_cons]
      cases given : value? e with
      | none =>
          simp only [Option.map_none, ih, List.mem_cons]
          by_cases same : d = e <;> simp_all
      | some v =>
          simp only [Option.map_some, List.lookup_cons, ih, List.mem_cons]
          by_cases same : d = e
          · simp [same, given]
          · have apart : (d.plural == e.plural) = false :=
              beq_eq_false_iff_ne.mpr fun h => same (plural_injective h)
            simp [same, apart]

end Dimension

namespace Filter

/-- The members that a filter is written as. -/
def members (f : Filter) : List (String × Json) :=
  Dimension.inOrder.filterMap fun d =>
    (f.get? d).map fun ids => (d.plural, .array (ids.map fun id => Json.ofInt id.toInt))

theorem nodup_members (f : Filter) : (f.members.map Prod.fst).Nodup := by
  rw [members, List.map_filterMap]
  refine List.Nodup.filterMap ?_ (by decide)
  intro d e name ofD ofE
  simp only [Option.map_map, Option.mem_def, Option.map_eq_some_iff, Function.comp_apply] at ofD ofE
  obtain ⟨_, _, rfl⟩ := ofD
  obtain ⟨_, _, same⟩ := ofE
  exact Dimension.plural_injective same.symm

theorem proper_toJson (f : Filter) : f.toJson.Proper := by
  refine Json.proper_record ?_
  intro m member
  obtain ⟨d, _, given⟩ := List.mem_filterMap.mp member
  obtain ⟨ids, _, rfl⟩ := Option.map_eq_some_iff.mp given
  refine .array ?_
  intro item listed
  obtain ⟨id, _, rfl⟩ := List.mem_map.mp listed
  exact Json.proper_ofInt id.toInt

/-- A filter is read back from its JSON value. -/
theorem ofJson?_toJson (f : Filter) : ofJson? f.toJson = some f := by
  obtain ⟨fields, read, values⟩ := Json.fields?_record fieldNames f.nodup_members
  have asked (d : Dimension) : d.plural ∈ fieldNames := List.mem_map_of_mem d.mem_inOrder
  have value (d : Dimension) : fields.value? d.plural =
      (f.get? d).map fun ids => .array (ids.map fun id => Json.ofInt id.toInt) := by
    rw [values d.plural (asked d), members]
    have found := Dimension.lookup_plural (fun d =>
      (f.get? d).map fun ids => Json.array (ids.map fun id => Json.ofInt id.toInt))
        Dimension.inOrder d
    rw [if_pos d.mem_inOrder] at found
    simpa only [Option.map_map, Function.comp_def] using found
  have field (d : Dimension) :
      fields.optional d.plural (Json.nullable? (Json.list? Json.int32?)) none =
        some (f.get? d) := by
    rw [Json.Fields.optional, value d]
    cases f.get? d with
    | none => rfl
    | some ids =>
        change (Json.list? Json.int32? (.array (ids.map fun id => Json.ofInt id.toInt))).map some =
          _
        rw [Json.list?_map Json.int32?_ofInt ids]
        rfl
  unfold ofJson?
  rw [show f.toJson.fields? fieldNames = some fields from read]
  simp only [Option.bind_eq_bind, Option.bind_some, ByDimension.ofFnM?, field]
  rfl

/-- The text of a filter lists the dimensions that are given, in order, and the ids of each. -/
theorem text_eq (f : Filter) :
    f.text = "\x7b" ++
      ",".intercalate (Dimension.inOrder.filterMap fun d => (f.get? d).map fun ids =>
      "\"" ++ d.plural ++ "\":[" ++ ",".intercalate (ids.map fun id => Numeral.text id.toInt) ++
        "]") ++ "\x7d" := by
  have dimension (d : Dimension) (ids : List Id) :
      "\"" ++ String.ofList (Json.encode d.plural.toList) ++ "\":" ++
          (Json.array (ids.map fun id => Json.ofInt id.toInt)).render =
        "\"" ++ d.plural ++ "\":[" ++ ",".intercalate (ids.map fun id => Numeral.text id.toInt) ++
          "]" := by
    have opened : "\":[" = "\":" ++ "[" := by decide
    rw [d.encode_plural, Json.render_array, List.map_map, opened]
    simp only [Function.comp_def, Json.render_ofInt, String.append_assoc]
  rw [text, toJson, Json.render_record, List.map_filterMap]
  simp only [Option.map_map, Function.comp_def, dimension]

/-- Reading undoes writing. -/
theorem parse?_text (f : Filter) : parse? f.text = some f := by
  rw [parse?, text, Json.parse?_render f.proper_toJson]
  exact f.ofJson?_toJson

theorem text_injective : Function.Injective text := by
  intro f g same
  have read := parse?_text f
  rw [same, parse?_text g] at read
  exact (Option.some.inj read).symm

/-- A filter that is written and read is the filter it was, whichever lists it has. Its text has a
    member for each dimension that has a list, in order, be the list empty, and none for the others:
    so a dimension without a list and one with an empty list give different texts. -/
theorem text_round_trip (f : Filter) :
    parse? f.text = some f ∧
      f.text = "\x7b" ++
      ",".intercalate ([Dimension.version, .region, .league, .race].filterMap fun d =>
        (f.get? d).map fun ids =>
          "\"" ++ d.plural ++ "\":[" ++ ",".intercalate (ids.map fun id => Numeral.text id.toInt) ++
            "]") ++ "\x7d" ∧
      ∀ d, f.get? d = none → f.text ≠ (f.set d []).text := by
  refine ⟨f.parse?_text, f.text_eq, fun d absent same => ?_⟩
  have given : (f.set d []).get? d = some [] := (f.listed.get_set d d (some [])).trans (if_pos rfl)
  rw [← text_injective same, absent] at given
  cases given

end Filter

end LadderAtlas
