import LadderAtlas.Table.Latest
import Mathlib.Data.List.Induction

/-! # The table in view

`Change` lists all that an event can do to a table view, and whether it succeeds. A view shows a
table from when it has a source, and it is the one that the source gave at the last event that
succeeded. Events that fail may change the value of a control, never the source and the table.
-/

namespace LadderAtlas

namespace TableView

variable {v v' : TableView} {e : Event} {outcome : Except GraphError Unit}

/-- What an event can do to a table view. -/
inductive Change (v : TableView) : Event → TableView → Except GraphError Unit → Prop where
  | refuseSource {source : TableSource} {problem : GraphError}
      (refused : source v.settings = .error problem) :
      Change v (.init source) v (.error problem)
  | install {source : TableSource} {table : Table} (accepted : source v.settings = .ok table) :
      Change v (.init source) { v with source := some source, table := some table } (.ok ())
  | store {name value : String} (empty : v.source = none) :
      Change v (.setControl name value) { v with settings := v.settings.set name value } (.ok ())
  | refuseControl {name value : String} {source : TableSource} {problem : GraphError}
      (installed : v.source = some source)
        (refused : source (v.settings.set name value) = .error problem) :
      Change v (.setControl name value) { v with settings := v.settings.set name value }
        (.error problem)
  | recompute {name value : String} {source : TableSource} {table : Table}
      (installed : v.source = some source)
        (accepted : source (v.settings.set name value) = .ok table) :
      Change v (.setControl name value)
        { v with settings := v.settings.set name value, table := some table } (.ok ())

/-- Every event does one of the listed things. -/
theorem change (v : TableView) (e : Event) : Change v e (v.step e).1 (v.step e).2 := by
  cases e with
  | init source =>
      simp only [step, init]
      split
      · next accepted => exact .install accepted
      · next refused => exact .refuseSource refused
  | setControl name value =>
      simp only [step, setControl]
      split
      · next empty => exact .store empty
      · next source installed =>
          split
          · next accepted => exact .recompute installed accepted
          · next refused => exact .refuseControl installed refused

/-! ## One event -/

theorem Change.unchanged {problem : GraphError} (h : Change v e v' (.error problem)) :
    v'.source = v.source ∧ v'.table = v.table := by
  cases h with
  | refuseSource refused => exact ⟨rfl, rfl⟩
  | refuseControl installed refused => exact ⟨rfl, rfl⟩

/-- After an event that succeeds the table is the one for the settings. -/
theorem Change.upToDate (h : Change v e v' (.ok ())) {source : TableSource}
    (installed : v'.source = some source) :
    ∃ table, v'.table = some table ∧ source v'.settings = .ok table := by
  cases h with
  | install accepted =>
      cases installed
      exact ⟨_, rfl, accepted⟩
  | store empty =>
      rw [empty] at installed
      cases installed
  | recompute there accepted =>
      rw [there] at installed
      cases installed
      exact ⟨_, rfl, accepted⟩

theorem Change.present (h : Change v e v' outcome) (before : v.table.isSome = v.source.isSome) :
    v'.table.isSome = v'.source.isSome := by
  cases h with
  | refuseSource refused => exact before
  | install accepted => rfl
  | store empty => exact before
  | refuseControl installed refused => exact before
  | recompute installed accepted =>
      rw [installed]
      rfl

/-! ## Runs -/

theorem after_append (v : TableView) (first second : List Event) :
    v.after (first ++ second) = (v.after first).after second :=
  List.foldl_append

theorem after_concat (v : TableView) (events : List Event) (e : Event) :
    v.after (events ++ [e]) = ((v.after events).step e).1 :=
  v.after_append events [e]

/-- Every event of a run fails. -/
def AllFail (v : TableView) : List Event → Prop
  | [] => True
  | e :: rest => (∃ problem, (v.step e).2 = .error problem) ∧ (v.step e).1.AllFail rest

theorem AllFail.concat {events : List Event} (h : v.AllFail events) {problem : GraphError}
    (failed : ((v.after events).step e).2 = .error problem) : v.AllFail (events ++ [e]) := by
  induction events generalizing v with
  | nil => exact ⟨⟨problem, failed⟩, trivial⟩
  | cons first rest ih => exact ⟨h.1, ih h.2 failed⟩

theorem present_after {start : TableView} (waiting : start.table.isSome = start.source.isSome)
    (events : List Event) :
    (start.after events).table.isSome = (start.after events).source.isSome := by
  induction events using List.reverseRecOn with
  | nil => exact waiting
  | append_singleton events e ih =>
      rw [after_concat]
      exact (change _ e).present ih

/-- A table in view comes from the last event that succeeded. -/
theorem exists_last_success {start : TableView} (waiting : start.source = none)
    {events : List Event} {source : TableSource}
    (installed : (start.after events).source = some source) :
    ∃ before e since table, events = before ++ e :: since ∧
      ((start.after before).step e).2 = .ok () ∧ (start.after (before ++ [e])).AllFail since ∧
      source (start.after (before ++ [e])).settings = .ok table ∧
      (start.after events).table = some table := by
  induction events using List.reverseRecOn with
  | nil =>
      have none : some source = none := installed.symm.trans waiting
      cases none
  | append_singleton events e ih =>
      have last := change (start.after events) e
      rw [after_concat] at installed ⊢
      cases outcome : ((start.after events).step e).2 with
      | ok =>
          rw [outcome] at last
          obtain ⟨table, shown, current⟩ := last.upToDate installed
          exact ⟨events, e, [], table, rfl, outcome, trivial,
            after_concat start events e ▸ current, shown⟩
      | error problem =>
          rw [outcome] at last
          obtain ⟨sameSource, sameTable⟩ := last.unchanged
          obtain ⟨before, e', since, table, rfl, accepted, failed, given, shown⟩ :=
            ih (sameSource.symm.trans installed)
          refine ⟨before, e', since ++ [e], table, by simp, accepted, ?_, given,
            sameTable.trans shown⟩
          rw [List.append_cons, after_append] at outcome
          exact failed.concat outcome

/-- However a table view has come to its state: it has a table exactly when it has a source, and the
    table is the one that the source gave for the settings at the last event that succeeded. An
    event that fails next leaves source and table as they are; after one that succeeds the table is
    that for the settings. -/
theorem table_after (settings : Settings) (events : List Event) :
    let start := new settings
    let v := start.after events
    (v.isWaiting = false ↔ v.table.isSome = true) ∧
    (∀ table, v.table = some table → ∃ source before e since, v.source = some source ∧
      events = before ++ e :: since ∧ ((start.after before).step e).2 = .ok () ∧
      (start.after (before ++ [e])).AllFail since ∧
      source (start.after (before ++ [e])).settings = .ok table) ∧
    (∀ e problem, (v.step e).2 = .error problem →
      (v.step e).1.source = v.source ∧ (v.step e).1.table = v.table) ∧
    ∀ e source, (v.step e).2 = .ok () → (v.step e).1.source = some source →
      ∃ table, (v.step e).1.table = some table ∧ source (v.step e).1.settings = .ok table := by
  intro start v
  have present : v.table.isSome = v.source.isSome := present_after rfl events
  refine ⟨?_, fun table shown => ?_, fun e problem failed => ?_,
    fun e source succeeded installed => ?_⟩
  · rw [isWaiting, present]
    cases v.source <;> simp
  · rw [shown] at present
    obtain ⟨source, installed⟩ := Option.isSome_iff_exists.mp present.symm
    obtain ⟨before, e, since, table', split, success, failed, given, shown'⟩ :=
      exists_last_success rfl installed
    obtain rfl : table = table' := Option.some.inj (shown.symm.trans shown')
    exact ⟨source, before, e, since, installed, split, success, failed, given⟩
  · have last := change v e
    rw [failed] at last
    exact last.unchanged
  · have last := change v e
    rw [succeeded] at last
    exact last.upToDate installed

/-- A version without numbers is selected before the source comes, and so it is refused; one that
    has numbers lets it in, and then the first is refused again. -/
theorem table_after_refused :
    let l := Layout.ofIds 4 ⟨[0], [0, 1], [0], [0]⟩
    let tables : LatestTables Float :=
      ⟨⟨201, ⟨[⟨l, ⟨1, 201, 28, 0, 1, 0, #[10, 6, 4, 0, 20, 9, 11, 0]⟩⟩]⟩⟩, Catalog.empty, 0⟩
    let events : List Event :=
      [.setControl Control.version "2", .init tables.population, .setControl Control.version "0",
        .init tables.population, .setControl Control.version "2"]
    let start := new .empty
    let v := start.after events
    v.isWaiting = false ∧ ∃ table, v.table = some table ∧
      table.rows = [["0", "10"], ["1", "20"], ["-2", "30"]] ∧
      (∃ source before e since, v.source = some source ∧
        events = before ++ e :: since ∧ ((start.after before).step e).2 = .ok () ∧
        (start.after (before ++ [e])).AllFail since ∧
        source (start.after (before ++ [e])).settings = .ok table) ∧
      (v.step (.init tables.race)).2 = .error (.stats (.unknownId .version 2)) ∧
      (v.step (.init tables.race)).1.source = v.source ∧
      (v.step (.init tables.race)).1.table = v.table := by
  intro l tables events start v
  obtain ⟨present, last, -⟩ := table_after .empty events
  -- Stated of `v` itself, so that no run is evaluated where its sources are compared.
  have unchanged : ∀ e problem, (v.step e).2 = .error problem →
      (v.step e).1.source = v.source ∧ (v.step e).1.table = v.table :=
    (table_after .empty events).2.2.1
  have rows : v.table.map Table.rows = some [["0", "10"], ["1", "20"], ["-2", "30"]] := by
    decide +kernel
  obtain ⟨table, shown, same⟩ := Option.map_eq_some_iff.mp rows
  have refused : (v.step (.init tables.race)).2 = .error (.stats (.unknownId .version 2)) := by
    decide +kernel
  have installed : v.isWaiting = false := present.mpr (Option.isSome_of_eq_some shown)
  exact ⟨installed, table, shown, same, last table shown, refused, unchanged _ _ refused⟩

end TableView

end LadderAtlas
