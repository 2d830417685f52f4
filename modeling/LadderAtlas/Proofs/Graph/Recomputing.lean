import LadderAtlas.Proofs.Chart.Points
import LadderAtlas.Proofs.Graph.Changes

/-! # Computing charts anew

A chart is computed as a whole or not at all, and from what it is made of, not from the data that it
has. So after any settings in a row it is what the last accepted ones make of the fresh chart, and a
graph whose chart refuses the value of a control has stored the value and is otherwise as before.
-/

namespace LadderAtlas

/-! ## Charts -/

namespace Chart

section Given

variable {κ α : Type} [Chart κ α]

/-- A chart that was given settings, and the settings that it accepted last. -/
structure Given (κ : Type) where
  chart : κ
  accepted : Option Settings

/-- Settings are given to a chart in place: whatever the chart then is, refusing or not, it goes on
    as that. -/
def Given.next (r : Given κ) (s : Settings) : Given κ :=
  match (newSettings s).on r.chart with
  | (.ok (), left) => ⟨left, some s⟩
  | (.error _, left) => ⟨left, r.accepted⟩

/-- A fresh chart after settings in a row. -/
def given (fresh : κ) (history : List Settings) : Given κ := history.foldl Given.next ⟨fresh, none⟩

/-- Nothing is left of what a chart was given before the settings that it accepted last. -/
structure AsFresh (fresh : κ) (r : Given κ) : Prop where
  data : (r.accepted.elim (.ok fresh) fun s => withSettings fresh s) = .ok r.chart
  outcome : ∀ s, withSettings r.chart s = withSettings fresh s

variable [AtomicChart κ]

theorem AsFresh.next {fresh : κ} {r : Given κ} (h : AsFresh fresh r) (s : Settings)
    (forgets : ∀ ready, withSettings fresh s = .ok ready →
      ∀ s', withSettings ready s' = withSettings fresh s') : AsFresh fresh (r.next s) := by
  have same := h.outcome s
  unfold Given.next
  split
  · next ready accepted =>
      have first : withSettings fresh s = .ok ready :=
        same.symm.trans (withSettings_eq_ok_iff.mpr accepted)
      exact ⟨first, forgets ready first⟩
  · next left refused =>
      obtain rfl := AtomicChart.left refused
      exact h

/-- A chart that forgets its data when it is computed anew is as a fresh one, whatever it was
    given. -/
theorem asFresh_given {fresh : κ} (forgets : ∀ s ready, withSettings fresh s = .ok ready →
      ∀ s', withSettings ready s' = withSettings fresh s') (history : List Settings) :
    AsFresh fresh (given fresh history) := by
  have start : AsFresh fresh ⟨fresh, none⟩ := ⟨rfl, fun _ => rfl⟩
  suffices ∀ r, AsFresh fresh r → AsFresh fresh (history.foldl Given.next r) from this _ start
  intro r h
  induction history generalizing r with
  | nil => exact h
  | cons s rest ih => exact ih _ (h.next s (forgets s))

end Given

end Chart

section Forgets

variable {α : Type} [Scalar α] {s : Settings}

theorem RaceChart.forgets {c ready : RaceChart α} (h : c.withSettings s = .ok ready)
    (s' : Settings) :
    ready.withSettings s' = c.withSettings s' := by
  obtain ⟨points, -, rfl⟩ := withSettings_eq_ok h
  rw [withSettings_eq, withSettings_eq]
  rfl

theorem LeagueChart.forgets {c ready : LeagueChart α} (h : c.withSettings s = .ok ready)
    (s' : Settings) :
    ready.withSettings s' = c.withSettings s' := by
  obtain ⟨points, -, rfl⟩ := withSettings_eq_ok h
  rw [withSettings_eq, withSettings_eq]
  rfl

theorem PopulationChart.forgets {c ready : PopulationChart α} (h : c.withSettings s = .ok ready)
    (s' : Settings) : ready.withSettings s' = c.withSettings s' := by
  obtain ⟨points, -, rfl⟩ := withSettings_eq_ok h
  rw [withSettings_eq, withSettings_eq]
  rfl

end Forgets

/-! ## Graphs -/

namespace Graph

variable {κ α : Type} [Scalar α] [Chart κ α]

/-- The control that an event writes, and the value. -/
def Event.written? : Event κ α → Option (String × String)
  | .setControl name value => some (name, value)
  | .init _ | .resize _ | .moveMouse _ => none

theorem redraw_settings (g : Graph κ α) : g.redraw.1.settings = g.settings := by
  unfold redraw
  split
  · rfl
  · dsimp only
    split <;> rfl

theorem step_settings (g : Graph κ α) (e : Event κ α) :
    (g.step e).1.settings.values = g.settings.values.insertAll e.written?.toList := by
  cases e with
  | init chart =>
      simp only [step, init]
      split
      · rfl
      · rw [redraw_settings]
        rfl
  | resize width =>
      simp only [step, resize]
      split
      · rfl
      · rw [redraw_settings]
        rfl
  | setControl name value =>
      simp only [step, setControl]
      split
      · rfl
      · split
        · rfl
        · rw [redraw_settings]
          rfl
  | moveMouse place =>
      simp only [step, moveMouse]
      split
      · rfl
      · split
        · rw [Graph.hover, redraw_settings]
          rfl
        · rw [Graph.leave, redraw_settings]
          rfl

/-- A graph stores every value that is written, whatever its chart says. -/
theorem settings_after (g : Graph κ α) (events : List (Event κ α)) :
    (g.after events).settings.values =
      g.settings.values.insertAll (events.filterMap Event.written?) := by
  induction events generalizing g with
  | nil => rfl
  | cons e events ih =>
      have first := g.step_settings e
      have rest := ih (g.step e).1
      rw [first] at rest
      refine rest.trans ?_
      cases written : e.written? with
      | none => rw [List.filterMap_cons_none written]; rfl
      | some entry => rw [List.filterMap_cons_some written]; rfl

theorem setControl_of_refused [AtomicChart κ] {g : Graph κ α} {chart left : κ} {name value : String}
    {e : GraphError} (installed : g.chart = some chart)
    (refused : (Chart.newSettings (g.settings.set name value)).on chart = (.error e, left)) :
    g.setControl name value = ({ g with settings := g.settings.set name value }, .error e) := by
  obtain rfl := AtomicChart.left refused
  have outcome : Chart.withSettings left (g.settings.set name value) = .error e := by
    rw [Chart.withSettings, refused]
  rw [setControl_of_installed installed, outcome]

end Graph

/-- Charts are computed anew atomically and free of history, and a graph whose chart refuses the
    value of a control has stored the value and is otherwise as before. -/
theorem recomputing_is_atomic {α : Type} [Scalar α] :
    (∀ (fresh : RaceChart α) (history : List Settings),
      Chart.AsFresh fresh (Chart.given fresh history)) ∧
    (∀ (fresh : LeagueChart α) (history : List Settings),
      Chart.AsFresh fresh (Chart.given fresh history)) ∧
    (∀ (fresh : PopulationChart α) (history : List Settings),
      Chart.AsFresh fresh (Chart.given fresh history)) ∧
    (AtomicChart (RaceChart α) ∧ AtomicChart (LeagueChart α) ∧ AtomicChart (PopulationChart α)) ∧
    (∀ {κ : Type} [Chart κ α] [AtomicChart κ] (g : Graph κ α) (chart left : κ) (name value : String)
      (e : GraphError), g.chart = some chart →
      (Chart.newSettings (g.settings.set name value)).on chart = (.error e, left) →
      g.setControl name value = ({ g with settings := g.settings.set name value }, .error e)) ∧
    (∀ {κ : Type} [Chart κ α] (g : Graph κ α) (events : List (Graph.Event κ α)) (name : String),
      (g.after events).settings.get? name =
        (((events.filterMap Graph.Event.written?).reverse.find? fun entry => entry.1 = name).map
          (·.2)).or (g.settings.get? name)) := by
  refine ⟨?_, ?_, ?_, ⟨inferInstance, inferInstance, inferInstance⟩, ?_, ?_⟩
  · intro fresh history
    exact Chart.asFresh_given (fun s ready accepted => RaceChart.forgets accepted) history
  · intro fresh history
    exact Chart.asFresh_given (fun s ready accepted => LeagueChart.forgets accepted) history
  · intro fresh history
    exact Chart.asFresh_given (fun s ready accepted => PopulationChart.forgets accepted) history
  · intro κ _ _ g chart left name value e installed refused
    exact Graph.setControl_of_refused installed refused
  · intro κ _ g events name
    rw [Settings.get?, Graph.settings_after, Keyed.get?_insertAll]
    rfl

/-- A region that the first snapshot knows and the second does not: it is refused in the middle of
    the visit, and stored. -/
theorem recomputing_is_atomic_unknown_region :
    let wide : Stat Float :=
      ⟨.ofIds 4 ⟨[0], [0, 7], [0], [0]⟩, ⟨1, 201, 28, 0, 1, 86400, #[10, 6, 4, 0, 1, 0, 1, 0]⟩⟩
    let narrow : Stat Float :=
      ⟨.ofIds 4 ⟨[0], [0], [0], [0]⟩, ⟨2, 201, 28, 0, 2, 172800, #[8, 4, 4, 0]⟩⟩
    let catalog := { Catalog.empty with ranked := ⟨[0], [0], [0], [0]⟩ }
    let fresh := RaceChart.new ⟨⟨201, ⟨[wide, narrow]⟩⟩, catalog, .ofList [], 0⟩
    let known := Settings.empty.set Control.region "0"
    let unknown := Settings.empty.set Control.region "7"
    let given := (Chart.given fresh [known, unknown]).chart
    let waiting : Graph (RaceChart Float) Float := .new .standard (.ofWidth 1000) known
    let g := { waiting with chart := some given }
    fresh.withSettings known = .ok given ∧ given.points.map (·.total) = [10, 8] ∧
      (SharePoint.ofStat wide (RaceChart.filter unknown 0) .race [0]).isOk = true ∧
      g.setControl Control.region "7" = ({ g with settings := g.settings.set Control.region "7" },
        .error (.stats (.unknownId .region 7))) ∧
      (g.after [.setControl Control.region "7", .moveMouse ⟨0, 0⟩]).settings.get? Control.region =
        some "7" := by
  intro wide narrow catalog fresh known unknown given waiting g
  obtain ⟨race, -, -, -, refuses, stores⟩ := @recomputing_is_atomic Float _
  have last : (Chart.given fresh [known, unknown]).accepted = some known := by decide +kernel
  let answer := (Chart.newSettings (g.settings.set Control.region "7")).on given
  have outcome : answer.1 = .error (.stats (.unknownId .region 7)) := by decide +kernel
  have refused : answer = (.error (.stats (.unknownId .region 7)), answer.2) := by rw [← outcome]
  refine ⟨?_, by decide +kernel, by decide +kernel, ?_, ?_⟩
  · have data := (race fresh [known, unknown]).data
    rw [last] at data
    exact data
  · exact refuses g given answer.2 Control.region "7" _ rfl refused
  · rw [stores]
    rfl

end LadderAtlas
