import LadderAtlas.Proofs.Chart.Points
import LadderAtlas.Proofs.Number.Numerals
import Mathlib.Data.List.TakeWhile

/-! # What controls select

A control selects an id if its text is a decimal numeral of that id with nothing but blanks around
it, and selects nothing otherwise. So an id that is stored as its numeral is selected again. The
filter of a chart or table lists the version that is selected, or the one to fall back to, and the
region unless all of them are meant.
-/

namespace LadderAtlas

namespace Text

/-! ## Blanks around a text -/

/-- Characters with nothing but blanks on both sides. -/
def Surrounded (cs inner : List Char) : Prop := ∃ front back, cs = front ++ inner ++ back ∧
  (∀ c ∈ front, isBlank c = true) ∧ ∀ c ∈ back, isBlank c = true

theorem Surrounded.trim_eq {cs inner : List Char} (surrounded : Surrounded cs inner)
    (filled : ∀ c ∈ inner, isBlank c = false) : trim cs = inner := by
  obtain ⟨front, back, rfl, blankFront, blankBack⟩ := surrounded
  have blankEnd : ∀ c ∈ back.reverse, isBlank c = true :=
    fun c member => blankBack c (List.mem_reverse.mp member)
  cases inner with
  | nil =>
      have nothing : (front ++ back).dropWhile isBlank = [] := by
        rw [List.dropWhile_append_of_pos blankFront, ← List.append_nil back,
          List.dropWhile_append_of_pos blankBack]
        rfl
      rw [trim, trimWhere, List.append_nil, nothing]
      rfl
  | cons first rest =>
      have kept : (first :: rest ++ back).dropWhile isBlank = first :: rest ++ back :=
        List.dropWhile_cons_of_neg (by rw [filled first List.mem_cons_self]; decide)
      have keptEnd : (first :: rest).reverse.dropWhile isBlank = (first :: rest).reverse := by
        rw [List.dropWhile_eq_self_iff]
        intro some
        rw [filled _ (List.mem_reverse.mp (List.getElem_mem some))]
        decide
      rw [trim, trimWhere, List.append_assoc, List.dropWhile_append_of_pos blankFront, kept,
        List.reverse_append, List.dropWhile_append_of_pos blankEnd, keptEnd, List.reverse_reverse]

theorem surrounded_trim (cs : List Char) : Surrounded cs (trim cs) := by
  let inner := cs.dropWhile isBlank
  refine ⟨cs.takeWhile isBlank, (inner.reverse.takeWhile isBlank).reverse, ?_, fun c =>
    List.mem_takeWhile_imp, fun c member => List.mem_takeWhile_imp (List.mem_reverse.mp member)⟩
  have split : trim cs ++ (inner.reverse.takeWhile isBlank).reverse = inner := by
    rw [trim, trimWhere, ← List.reverse_append, List.takeWhile_append_dropWhile,
      List.reverse_reverse]
  rw [List.append_assoc, split, List.takeWhile_append_dropWhile]

theorem isBlank_of_isDigit {c : Char} (digit : c.isDigit = true) : isBlank c = false := by
  have bounds : 48 ≤ c.toNat ∧ c.toNat ≤ 57 := by
    simp only [Char.isDigit, Bool.and_eq_true, decide_eq_true_eq] at digit
    exact digit
  simp only [isBlank, Bool.or_eq_false_iff, Bool.and_eq_false_iff, decide_eq_false_iff_not,
    beq_eq_false_iff_ne]
  omega

end Text

namespace Settings

variable {s : Settings} {name : String} {id : Id}

/-! ## Texts of controls -/

/-- A text that is the numeral of an id, blanks around it aside. -/
def Spells (text : String) (id : Id) : Prop :=
  Text.Surrounded text.toList (toString id.toInt).toList

/-- A text that is some decimal numeral of an id, blanks around it aside. -/
def Denotes (text : String) (id : Id) : Prop :=
  ∃ numeral, Text.Surrounded text.toList numeral ∧ Numeral.IsDecimal numeral id.toInt

/-- A control with a text that denotes an id. -/
def Holds (s : Settings) (name : String) (id : Id) : Prop :=
  ∃ text, s.get? name = some text ∧ Denotes text id

theorem Spells.denotes {text : String} (spells : Spells text id) : Denotes text id := by
  refine ⟨_, spells, ?_⟩
  rw [← Numeral.chars_eq_toString]
  exact Numeral.isDecimal_chars id.toInt

/-- No part of a numeral is trimmed off. -/
theorem denotes_iff {text : String} :
    Denotes text id ↔ Numeral.int32? (Text.trim text.toList) = some id := by
  rw [Numeral.int32?_eq_some_iff]
  constructor
  · rintro ⟨numeral, surrounded, decimal⟩
    have filled : ∀ c ∈ numeral, Text.isBlank c = false := by
      intro c member
      rcases decimal.mem member with rfl | rfl | digit
      · rfl
      · rfl
      · exact Text.isBlank_of_isDigit digit
    rwa [surrounded.trim_eq filled]
  · intro decimal
    exact ⟨_, Text.surrounded_trim text.toList, decimal⟩

theorem id?_eq_some_iff : s.id? name = some id ↔ s.Holds name id := by
  rw [id?, Option.bind_eq_bind, Option.bind_eq_some_iff]
  exact exists_congr fun text => and_congr_right fun _ => denotes_iff.symm

theorem id?_eq_none_iff : s.id? name = none ↔ ∀ id, ¬s.Holds name id := by
  simp only [Option.eq_none_iff_forall_ne_some, ne_eq, id?_eq_some_iff]

theorem get?_set (s : Settings) (name value other : String) :
    (s.set name value).get? other = if name = other then some value else s.get? other :=
  s.values.get?_insert name other value

theorem id?_set_of_denotes {text : String} (denotes : Denotes text id) (s : Settings)
    (name : String) :
    (s.set name text).id? name = some id := by
  rw [id?_eq_some_iff]
  exact ⟨text, by rw [get?_set, if_pos rfl], denotes⟩

theorem get?_set_of_ne {other : String} (different : other ≠ name) (s : Settings) (text : String) :
    (s.set name text).get? other = s.get? other := by
  rw [get?_set, if_neg different.symm]

theorem id?_set_of_ne {other : String} (different : other ≠ name) (s : Settings) (text : String) :
    (s.set name text).id? other = s.id? other := by
  rw [id?, id?, get?_set_of_ne different]

/-! ## The filter of the controls -/

/-- A filter for one version and one region, or for all of them. -/
structure FiltersBy (f : Filter) (version region : Id) : Prop where
  version : f.get? .version = some [version]
  region : f.get? .region = if region = -2 then none else some [region]
  leagues : f.get? .league = none
  races : f.get? .race = none

theorem filtersBy_ofControls (s : Settings) (defaultVersion : Id) :
    FiltersBy (Filter.ofControls s defaultVersion) (s.version defaultVersion)
      (s.idOrAll Control.region) where
  version := by
    rw [Filter.ofControls, Filter.get?_choose_of_ne _ (by decide)]
    rfl
  region := by
    rw [Filter.ofControls, Filter.choose]
    split
    · next all => exact (if_pos all).symm
    · next single => exact (if_neg single).symm
  leagues := Filter.get?_ofControls s defaultVersion (by decide) (by decide)
  races := Filter.get?_ofControls s defaultVersion (by decide) (by decide)

theorem filtersBy_of_id? {version region : Id} (selected : s.id? Control.version = some version)
    (selectedRegion : s.id? Control.region = some region) (defaultVersion : Id) :
    s.version defaultVersion = version ∧
      FiltersBy (Filter.ofControls s defaultVersion) version region := by
  have found : s.version defaultVersion = version := by
    rw [Settings.version, selected, Option.getD_some]
  have filters := filtersBy_ofControls s defaultVersion
  rw [found, idOrAll, selectedRegion, Option.getD_some] at filters
  exact ⟨found, filters⟩

/-- What the controls select, whatever is in them and whatever is stored in them. -/
structure ControlsSelect (s : Settings) (defaultVersion : Id) : Prop where
  stored : ∀ name text id, Spells text id → (s.set name text).id? name = some id
  others : ∀ name text other, other ≠ name → (s.set name text).get? other = s.get? other
  /-- The controls may be set in either order. -/
  filters : ∀ version region versionText regionText, Spells versionText version →
    Spells regionText region →
    ∀ t ∈ [(s.set Control.version versionText).set Control.region regionText,
        (s.set Control.region regionText).set Control.version versionText],
      t.version defaultVersion = version ∧
        FiltersBy (Filter.ofControls t defaultVersion) version region
  selected : ∀ name id, s.id? name = some id ↔ s.Holds name id
  versionFallsBack : (∀ id, ¬s.Holds Control.version id) →
    s.version defaultVersion = defaultVersion ∧
      FiltersBy (Filter.ofControls s defaultVersion) defaultVersion (s.idOrAll Control.region)
  regionFallsBack : (∀ id, ¬s.Holds Control.region id) →
    s.idOrAll Control.region = -2 ∧
    FiltersBy (Filter.ofControls s defaultVersion) (s.version defaultVersion) (-2)

/-- Every id is read back from its numeral, by which it gets into the filter; what is no numeral of
    an id counts as nothing selected. -/
theorem controls_select (s : Settings) (defaultVersion : Id) : ControlsSelect s defaultVersion where
  stored name text id spells := id?_set_of_denotes spells.denotes s name
  others name text other different := get?_set_of_ne different s text
  filters version region versionText regionText spells spellsRegion t either := by
    have different : Control.version ≠ Control.region := by decide
    rcases List.mem_pair.mp either with rfl | rfl
    · refine filtersBy_of_id? ?_ (id?_set_of_denotes spellsRegion.denotes _ _) defaultVersion
      rw [id?_set_of_ne different, id?_set_of_denotes spells.denotes]
    · refine filtersBy_of_id? (id?_set_of_denotes spells.denotes _ _) ?_ defaultVersion
      rw [id?_set_of_ne different.symm, id?_set_of_denotes spellsRegion.denotes]
  selected name id := id?_eq_some_iff
  versionFallsBack none := by
    have version : s.version defaultVersion = defaultVersion := by
      rw [Settings.version, id?_eq_none_iff.mpr none, Option.getD_none]
    have filters := filtersBy_ofControls s defaultVersion
    rw [version] at filters
    exact ⟨version, filters⟩
  regionFallsBack none := by
    have region : s.idOrAll Control.region = -2 := by
      rw [idOrAll, id?_eq_none_iff.mpr none, Option.getD_none]
      rfl
    have filters := filtersBy_ofControls s defaultVersion
    rw [region] at filters
    exact ⟨region, filters⟩

/-- The least id of all is written with blanks around it, and the version before it is past the
    greatest one. -/
theorem controls_select_least :
    let s := (Settings.empty.set Control.xAxis "sl").set Control.version "2147483648"
    let t := (s.set Control.version "\t-2147483648 ").set Control.region "-2\u00a0"
    Spells "\t-2147483648 " (-2147483648) ∧ Spells "-2\u00a0" (-2) ∧ s.version 2 = 2 ∧
      t.version 2 = -2147483648 ∧
      FiltersBy (Filter.ofControls t 2) (-2147483648) (-2) ∧
      (s.set Control.version "\t-2147483648 ").get? Control.xAxis = some "sl" := by
  intro s t
  have spells : Spells "\t-2147483648 " (-2147483648) :=
    ⟨['\t'], [' '], by decide, List.forall_mem_singleton.mpr rfl, List.forall_mem_singleton.mpr rfl⟩
  have spellsRegion : Spells "-2\u00a0" (-2) :=
    ⟨[], ['\u00a0'], by decide, List.forall_mem_nil _, List.forall_mem_singleton.mpr rfl⟩
  have select := controls_select s 2
  obtain ⟨version, filters⟩ := select.filters _ _ _ _ spells spellsRegion t List.mem_cons_self
  have past : s.id? Control.version = none := by decide
  have fallsBack := select.versionFallsBack fun id held => by
    cases past.symm.trans ((select.selected _ _).mpr held)
  refine ⟨spells, spellsRegion, fallsBack.1, version, filters, ?_⟩
  rw [select.others _ _ _ (by decide)]
  decide

end Settings

end LadderAtlas
