import LadderAtlas.Graph.Event

/-! # What events do

`Change` lists all that an event can do to a graph, with the conditions under which it does.
Everything that is drawn is drawn by `redraw`, of a graph that differs from the one before in a few
fields. What holds of runs is proved by going through this list once, and by induction over the
events. The list is of charts that refuse controls atomically: what has been computed when such a
chart fails has not touched it yet.
-/

namespace LadderAtlas

/-- A chart that refuses its controls is as it was before. -/
class AtomicChart (κ : Type) {α : Type} [Chart κ α] : Prop where
  left : ∀ {s : Settings} {chart left : κ} {e : GraphError},
    (Chart.newSettings s).on chart = (.error e, left) → left = chart

theorem Chart.withSettings_eq_ok_iff {κ α : Type} [Chart κ α] {chart ready : κ} {s : Settings} :
    withSettings chart s = .ok ready ↔ (newSettings s).on chart = (.ok (), ready) := by
  unfold withSettings
  split <;> simp_all

theorem Chart.on_eq_of_refused {κ α : Type} [Chart κ α] [AtomicChart κ] {chart : κ} {s : Settings}
    {e : GraphError} (refused : withSettings chart s = .error e) :
    (newSettings s).on chart = (.error e, chart) := by
  unfold withSettings at refused
  split at refused
  · cases refused
  · next left failed =>
      cases refused
      rw [failed, AtomicChart.left failed]

namespace Graph

variable {κ α : Type} [Scalar α] [Chart κ α]

/-- A graph whose page has changed its width. -/
def widen (g : Graph κ α) (width : α) : Graph κ α :=
  { g with page := { g.page with width := width } }.fitCanvas

/-- A chart told the size of the graph area. -/
def sized (g : Graph κ α) (chart : κ) : κ :=
  Chart.withSize chart g.plot.frame.width g.plot.frame.height

/-- The point under the mouse at a place of the canvas. -/
def under? (g : Graph κ α) (place : Point α) : Option (HoverPoint α) :=
  g.hit? ⟨place.x - g.plot.frame.edges.left, place.y - g.plot.frame.edges.top⟩

/-- The data of a chart are computed before it is installed, or it is not. -/
theorem init_eq (g : Graph κ α) (chart : κ) : g.init chart =
    match Chart.withSettings (g.sized chart) g.settings with
    | .error e => (g, .error e)
    | .ok ready => ({ g with chart := some ready }.tell .ready).redraw := by
  rw [init, Chart.withSettings, sized]
  split <;> split <;> simp_all

theorem setControl_of_empty {g : Graph κ α} (empty : g.chart = none) (name value : String) :
    g.setControl name value = ({ g with settings := g.settings.set name value }, .ok ()) := by
  simp only [setControl]
  split
  · rfl
  · next installed =>
      rw [empty] at installed
      cases installed

theorem setControl_of_installed [AtomicChart κ] {g : Graph κ α} {chart : κ}
    (installed : g.chart = some chart) (name value : String) : g.setControl name value =
      match Chart.withSettings chart (g.settings.set name value) with
      | .error e => ({ g with settings := g.settings.set name value }, .error e)
      | .ok ready =>
        redraw { g with settings := g.settings.set name value, chart := some ready } := by
  cases outcome : Chart.withSettings chart (g.settings.set name value) with
  | error e =>
      simp only [setControl, installed, Chart.on_eq_of_refused outcome]
  | ok ready =>
      simp only [setControl, installed, Chart.withSettings_eq_ok_iff.mp outcome]

/-- What an event can do to a graph. -/
inductive Change (g : Graph κ α) : Event κ α → Graph κ α → Prop where
  | refuseChart {chart : κ} {e : GraphError}
      (refused : Chart.withSettings (g.sized chart) g.settings = .error e) :
      Change g (.init chart) g
  | install {chart ready : κ}
      (accepted : Chart.withSettings (g.sized chart) g.settings = .ok ready) :
      Change g (.init chart) ({ g with chart := some ready }.tell .ready).redraw.1
  | fit {width : α} (empty : g.chart = none) : Change g (.resize width) (g.widen width)
  | refit {width : α} {chart : κ} (installed : g.chart = some chart) :
      Change g (.resize width)
        { g.widen width with chart := some ((g.widen width).sized chart) }.redraw.1
  | store {name value : String} (empty : g.chart = none) :
      Change g (.setControl name value) { g with settings := g.settings.set name value }
  | refuseControl {name value : String} {chart : κ} {e : GraphError}
      (installed : g.chart = some chart)
      (refused : Chart.withSettings chart (g.settings.set name value) = .error e) :
      Change g (.setControl name value) { g with settings := g.settings.set name value }
  | recompute {name value : String} {chart ready : κ} (installed : g.chart = some chart)
      (accepted : Chart.withSettings chart (g.settings.set name value) = .ok ready) :
      Change g (.setControl name value)
        { g with settings := g.settings.set name value, chart := some ready }.redraw.1
  | ignore {place : Point α} (empty : g.chart = none) : Change g (.moveMouse place) g
  | hover {place : Point α} {chart : κ} {point : HoverPoint α} (installed : g.chart = some chart)
      (under : g.under? place = some point) :
      Change g (.moveMouse place) (g.hover chart point).1
  | leave {place : Point α} {chart : κ} (installed : g.chart = some chart)
      (nothing : g.under? place = none) : Change g (.moveMouse place) g.leave.1

variable [AtomicChart κ]

/-- Every event does one of the listed things. -/
theorem change (g : Graph κ α) (e : Event κ α) : Change g e (g.step e).1 := by
  cases e with
  | init chart =>
      rw [step, init_eq]
      split
      · next refused => exact .refuseChart refused
      · next accepted => exact .install accepted
  | resize width =>
      simp only [step, resize]
      split
      · next empty => exact .fit empty
      · next chart installed => exact .refit installed
  | setControl name value =>
      rw [step]
      cases installed : g.chart with
      | none =>
          rw [setControl_of_empty installed]
          exact .store installed
      | some chart =>
          rw [setControl_of_installed installed]
          split
          · next refused => exact .refuseControl installed refused
          · next accepted => exact .recompute installed accepted
  | moveMouse place =>
      simp only [step, moveMouse]
      split
      · next empty => exact .ignore empty
      · next chart installed =>
          split
          · next point under => exact .hover installed under
          · next nothing => exact .leave installed nothing

/-- What holds of a graph and is kept by each of the events holds after them. -/
theorem after_induction {P : Graph κ α → Prop} {g : Graph κ α} {events : List (Event κ α)}
    (start : P g) (step : ∀ g e g', e ∈ events → P g → Change g e g' → P g') :
    P (g.after events) := by
  induction events generalizing g with
  | nil => exact start
  | cons e events ih =>
      have next : P (g.step e).1 := step g e _ List.mem_cons_self start (change g e)
      exact ih next fun h d h' member => step h d h' (List.mem_cons_of_mem e member)

end Graph

end LadderAtlas
