import LadderAtlas.Chart.League
import LadderAtlas.Chart.Population
import LadderAtlas.Chart.Race
import LadderAtlas.Proofs.Graph.Changes

/-! # Computing the data of charts

The charts visit their snapshots one after another, and a visit that fails ends the computation.
What a chart has is touched only after the last visit, so that it is all computed anew or all as it
was.
-/

namespace LadderAtlas

/-! ## Methods -/

namespace ChartMethod

variable {κ β γ : Type}

theorem on_bind (method : ChartMethod κ β) (next : β → ChartMethod κ γ) (chart : κ) :
    (method >>= next).on chart =
      match method.on chart with
      | (.ok b, left) => (next b).on left
      | (.error e, left) => (.error e, left) := by
  change (ExceptT.bindCont next (method.run.run chart).1).run (method.run.run chart).2 = _
  rw [on]
  rcases method.run.run chart with ⟨- | b, left⟩ <;> rfl

theorem on_get (next : κ → ChartMethod κ β) (chart : κ) :
    ((get : ChartMethod κ κ) >>= next).on chart = (next chart).on chart := rfl

theorem on_modify (f : κ → κ) (chart : κ) :
    (modify f : ChartMethod κ PUnit).on chart = (.ok (), f chart) := rfl

/-- Visits that leave the chart as it is leave it so in a row, too: the loop gives the answers of
    its visits up to the first that fails. -/
theorem on_mapM {visit : γ → ChartMethod κ β} {answer : γ → Except GraphError β} {chart : κ}
    (each : ∀ x, (visit x).on chart = (answer x, chart)) (xs : List γ) :
    (xs.mapM visit).on chart = (xs.mapM answer, chart) := by
  induction xs with
  | nil => rfl
  | cons x xs ih =>
      rw [List.mapM_cons, List.mapM_cons, on_bind, each]
      cases answer x with
      | error e => rfl
      | ok b =>
          change ((xs.mapM visit) >>= fun bs => pure (b :: bs)).on chart = _
          rw [on_bind, ih]
          cases xs.mapM answer <;> rfl

end ChartMethod

/-! ## Charts -/

section Charts

variable [Build] {α : Type} [Scalar α]

theorem RaceChart.visit_on (c : RaceChart α) (f : Filter) (stat : Stat α) :
    (visit f stat).on c = (GraphError.ofStats (SharePoint.ofStat stat f .race c.races), c) := rfl

/-- The points of the race chart for some controls. -/
def RaceChart.computed (c : RaceChart α) (s : Settings) : Except GraphError (List (SharePoint α)) :=
  (c.source.mode.oldestFirst (some (s.version c.source.defaultVersion))).mapM fun stat =>
    GraphError.ofStats (SharePoint.ofStat stat (filter s c.source.defaultVersion) .race c.races)

theorem RaceChart.newSettings_on (c : RaceChart α) (s : Settings) :
    (Chart.newSettings s).on c =
      match c.computed s with
      | .ok points =>
        (.ok (), { c with points := points, top := Scalar.max (points.foldl highest 0) 0.001 })
      | .error e => (.error e, c) := by
  change (newSettings s).on c = _
  rw [newSettings, ChartMethod.on_get]
  simp only [ChartMethod.on_bind, ChartMethod.on_mapM (c.visit_on _), ChartMethod.on_modify]
  rw [← computed]
  cases c.computed s <;> rfl

theorem LeagueChart.visit_on (c : LeagueChart α) (f : Filter) (stat : Stat α) :
    (visit f stat).on c = (GraphError.ofStats (SharePoint.ofStat stat f .league c.leagues), c) :=
  rfl

/-- The points of the league chart for some controls, newest first and before some are selected. -/
def LeagueChart.computed (c : LeagueChart α) (s : Settings) :
    Except GraphError (List (SharePoint α)) :=
  (c.source.mode.newestFirst (some (s.version c.source.defaultVersion))).mapM fun stat =>
    GraphError.ofStats
      (SharePoint.ofStat stat (Filter.ofControls s c.source.defaultVersion) .league c.leagues)

theorem LeagueChart.newSettings_on (c : LeagueChart α) (s : Settings) :
    (Chart.newSettings s).on c =
      match c.computed s with
      | .ok newestFirst =>
        (.ok (),
          { c with points := (TimeSelection.ofControls s).apply SharePoint.season newestFirst })
      | .error e => (.error e, c) := by
  change (newSettings s).on c = _
  rw [newSettings, ChartMethod.on_get]
  simp only [ChartMethod.on_bind, ChartMethod.on_mapM (c.visit_on _), ChartMethod.on_modify]
  rw [← computed]
  cases c.computed s <;> rfl

theorem PopulationChart.visit_on (c : PopulationChart α) (f : Filter) (measure : PopulationMeasure)
    (stat : Stat α) :
    (visit f measure stat).on c = (point c.source.seasons f measure stat, c) := rfl

/-- The points of the population chart for some controls, newest first and before some are
    selected. -/
def PopulationChart.computed (c : PopulationChart α) (s : Settings) :
    Except GraphError (List (PopulationPoint α)) :=
  (c.source.mode.newestFirst (some (s.version c.source.defaultVersion))).mapM
    (point c.source.seasons (Filter.ofControls s c.source.defaultVersion)
      (PopulationMeasure.ofControls s))

theorem PopulationChart.newSettings_on (c : PopulationChart α) (s : Settings) :
    (Chart.newSettings s).on c =
      match c.computed s with
      | .ok newestFirst =>
        let points := (TimeSelection.ofControls s).apply PopulationPoint.season newestFirst
        (.ok (), { c with
          points := points
          top := points.foldl (fun top p => Scalar.max top p.value) 0.001 })
      | .error e => (.error e, c) := by
  change (newSettings s).on c = _
  rw [newSettings, ChartMethod.on_get]
  simp only [ChartMethod.on_bind, ChartMethod.on_mapM (c.visit_on _ _), ChartMethod.on_modify]
  rw [← computed]
  cases c.computed s <;> rfl

/-! What a chart comes to is a matter of its points. -/

theorem RaceChart.withSettings_eq (c : RaceChart α) (s : Settings) :
    c.withSettings s = (c.computed s).map fun points =>
      { c with points := points, top := Scalar.max (points.foldl highest 0) 0.001 } := by
  rw [withSettings, Chart.withSettings, newSettings_on]
  cases c.computed s <;> rfl

theorem LeagueChart.withSettings_eq (c : LeagueChart α) (s : Settings) :
    c.withSettings s = (c.computed s).map fun newestFirst =>
      { c with points := (TimeSelection.ofControls s).apply SharePoint.season newestFirst } := by
  rw [withSettings, Chart.withSettings, newSettings_on]
  cases c.computed s <;> rfl

theorem PopulationChart.withSettings_eq (c : PopulationChart α) (s : Settings) :
    c.withSettings s = (c.computed s).map fun newestFirst =>
      let points := (TimeSelection.ofControls s).apply PopulationPoint.season newestFirst
      { c with
        points := points
        top := points.foldl (fun top p => Scalar.max top p.value) 0.001 } := by
  rw [withSettings, Chart.withSettings, newSettings_on]
  cases c.computed s <;> rfl

/-! A chart that fails has visited snapshots, and nothing else. -/

instance : AtomicChart (RaceChart α) where
  left {s chart left e} failed := by
    rw [RaceChart.newSettings_on] at failed
    split at failed <;> cases failed
    rfl

instance : AtomicChart (LeagueChart α) where
  left {s chart left e} failed := by
    rw [LeagueChart.newSettings_on] at failed
    split at failed <;> cases failed
    rfl

instance : AtomicChart (PopulationChart α) where
  left {s chart left e} failed := by
    rw [PopulationChart.newSettings_on] at failed
    split at failed <;> cases failed
    rfl

end Charts

end LadderAtlas
