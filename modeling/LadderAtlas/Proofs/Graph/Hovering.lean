import LadderAtlas.Proofs.Graph.Redraw

/-! # What is hovered over

The points that answer to the mouse are always those that the chart would draw now, and what the
page shows agrees with what the graph keeps: it waits while there is no chart, and it has a tooltip
while there is a crosshair. The crosshair itself is a place and not a point. It is on a point when
the mouse has moved, and then it stays where it is, wherever later events move the points.
-/

namespace LadderAtlas

/-! ## The nearest point -/

section Nearest

variable {α : Type} [Scalar α]

theorem HoverPoint.nearestFrom_mem {q : Point α} {position : Nat} {best : Option (Nearest α)}
    {points : List (HoverPoint α)} {n : Nearest α}
    (found : nearestFrom q position best points = some n) : n.point ∈ points ∨ best = some n := by
  induction points generalizing position best with
  | nil => exact .inr found
  | cons p rest ih =>
      rw [nearestFrom] at found
      rcases ih found with later | kept
      · exact .inl (List.mem_cons_of_mem p later)
      · split at kept
        · cases kept
          exact .inl List.mem_cons_self
        · exact .inr kept

theorem HoverPoint.nearest?_mem {q : Point α} {points : List (HoverPoint α)} {n : Nearest α}
    (found : nearest? points q = some n) : n.point ∈ points := by
  rcases nearestFrom_mem found with listed | none
  · exact listed
  · cases none

end Nearest

namespace Graph

variable {κ α : Type} [Scalar α]

/-- The point under the mouse is one of those kept. -/
theorem under?_mem {g : Graph κ α} {place : Point α} {point : HoverPoint α}
    (under : g.under? place = some point) : point ∈ g.points := by
  rw [under?, hit?] at under
  split at under
  · cases under
  · split at under
    · next n nearest =>
        split at under
        · cases under
          exact HoverPoint.nearest?_mem nearest
        · cases under
    · cases under

/-! ## Redrawing -/

section Redraw

variable [Chart κ α]

theorem redraw_of_drawn {g : Graph κ α} {chart : κ} {d : Drawing α}
    (installed : g.chart = some chart) (drawn : Chart.draw chart g.plot.frame = .ok d) :
    g.redraw = (g.cleared.put d, .ok ()) := by
  have same : Chart.draw chart g.cleared.plot.frame = .ok d := drawn
  simp only [redraw, installed, same]

theorem redraw_of_failed {g : Graph κ α} {chart : κ} {e : GraphError}
    (installed : g.chart = some chart) (failed : Chart.draw chart g.plot.frame = .error e) :
    g.redraw = ({ g.cleared with crosshair := none }.tell .hideTip, .error e) := by
  have same : Chart.draw chart g.cleared.plot.frame = .error e := failed
  simp only [redraw, installed, same]

theorem redraw_frame (g : Graph κ α) : g.redraw.1.plot.frame = g.plot.frame := by
  obtain ⟨ms, drawn⟩ := g.redraw_draws
  rw [drawn]
  rfl

/-- Where a crosshair is seen after a redrawing, it was there before. -/
theorem crosshair_of_redraw {g : Graph κ α} {place : Point α}
    (pinned : g.redraw.1.crosshair = some place) : g.crosshair = some place := by
  unfold redraw at pinned
  split at pinned
  · exact pinned
  · dsimp only at pinned
    split at pinned
    · exact pinned
    · cases pinned

/-- Where a tooltip is seen after a redrawing, it was there before. -/
theorem shown_of_redraw {g : Graph κ α} {callout : Callout α}
    (shown : g.redraw.1.page.shown = some callout) : g.page.shown = some callout := by
  unfold redraw at shown
  split at shown
  · exact shown
  · dsimp only at shown
    split at shown
    · exact shown
    · cases shown

/-- The points that the chart would draw. -/
def drawnPoints (g : Graph κ α) : List (HoverPoint α) :=
  match g.chart with
  | none => []
  | some chart =>
    match Chart.draw chart g.plot.frame with
    | .ok drawing => drawing.points
    | .error _ => []

omit [Scalar α] in
theorem drawnPoints_congr {g g' : Graph κ α} (chart : g'.chart = g.chart)
    (frame : g'.plot.frame = g.plot.frame) : g'.drawnPoints = g.drawnPoints := by
  rw [drawnPoints, drawnPoints, chart, frame]

/-- The points that are kept are those that would be drawn, and without a chart nothing is
    pinned. -/
structure Tracks (g : Graph κ α) : Prop where
  points : g.points = g.drawnPoints
  idle : g.chart = none → g.crosshair = none

omit [Scalar α] in
theorem Tracks.points_congr {g g' : Graph κ α} (h : Tracks g) (h' : Tracks g')
    (chart : g'.chart = g.chart) (frame : g'.plot.frame = g.plot.frame) : g'.points = g.points := by
  rw [h.points, h'.points, drawnPoints_congr chart frame]

theorem tracks_redraw {g : Graph κ α} {chart : κ} (installed : g.chart = some chart) :
    Tracks g.redraw.1 := by
  obtain ⟨-, -, keptChart⟩ := g.redraw_keeps
  refine ⟨?_, fun none => ?_⟩
  · rw [drawnPoints_congr keptChart g.redraw_frame, drawnPoints]
    cases drawn : Chart.draw chart g.plot.frame with
    | ok drawing => simp only [redraw_of_drawn installed drawn, installed, drawn, put]
    | error e => simp only [redraw_of_failed installed drawn, installed, drawn, tell, cleared]
  · rw [keptChart, installed] at none
    cases none

theorem Tracks.change {g g' : Graph κ α} {e : Event κ α} (h : Tracks g) (change : Change g e g') :
    Tracks g' := by
  have idle (empty : g.chart = none) : g.points = [] := by rw [h.points, drawnPoints, empty]
  cases change with
  | refuseChart refused => exact h
  | install accepted => exact tracks_redraw rfl
  | @fit width empty =>
      have empty' : (g.widen width).chart = none := empty
      refine ⟨?_, fun _ => h.idle empty⟩
      rw [drawnPoints, empty']
      exact idle empty
  | refit installed => exact tracks_redraw rfl
  | store empty => exact ⟨h.points, h.idle⟩
  | refuseControl installed refused => exact ⟨h.points, h.idle⟩
  | recompute installed accepted => exact tracks_redraw rfl
  | ignore empty => exact h
  | hover installed under => exact tracks_redraw installed
  | leave installed nothing => exact tracks_redraw installed

theorem tracks_after [AtomicChart κ] (options : GraphOptions α) (page : Page α)
    (settings : Settings) (events : List (Event κ α)) :
    Tracks ((new options page settings : Graph κ α).after events) :=
  after_induction ⟨rfl, fun _ => rfl⟩ fun _ _ _ _ h change => h.change change

/-- The chart is drawn in the same frame when it is hovered over, so it has the same points. -/
theorem hover_points {g : Graph κ α} (tracks : Tracks g) {chart : κ}
    (installed : g.chart = some chart) (point : HoverPoint α) :
    (g.hover chart point).1.points = g.points := by
  have tracks' : Tracks (g.hover chart point).1 := tracks_redraw installed
  obtain ⟨-, -, keptChart⟩ :=
    redraw_keeps { g.tell (.showTip _) with crosshair := some point.place }
  exact tracks.points_congr tracks' keptChart (redraw_frame _)

/-! ## The crosshair -/

/-- Some point that is kept is at a place. -/
def On (g : Graph κ α) (place : Point α) : Prop := ∃ point ∈ g.points, point.place = place

/-- A place that is pinned after an event is on a point if the mouse has moved, and was pinned
    before if not. -/
theorem Change.pinned {g g' : Graph κ α} {e : Event κ α} (change : Change g e g')
    (tracks : Tracks g) {place : Point α} (pinned : g'.crosshair = some place) :
    (∃ mouse, e = .moveMouse mouse) ∧ g'.On place ∨
      (∀ mouse, e ≠ .moveMouse mouse) ∧ g.crosshair = some place := by
  cases change with
  | refuseChart refused => exact .inr ⟨nofun, pinned⟩
  | install accepted => exact .inr ⟨nofun, (crosshair_of_redraw pinned :)⟩
  | fit empty => exact .inr ⟨nofun, pinned⟩
  | refit installed => exact .inr ⟨nofun, (crosshair_of_redraw pinned :)⟩
  | store empty => exact .inr ⟨nofun, pinned⟩
  | refuseControl installed refused => exact .inr ⟨nofun, pinned⟩
  | recompute installed accepted => exact .inr ⟨nofun, (crosshair_of_redraw pinned :)⟩
  | ignore empty =>
      rw [tracks.idle empty] at pinned
      cases pinned
  | @hover mouse chart point installed under =>
      have there : some point.place = some place := crosshair_of_redraw pinned
      refine .inl ⟨⟨mouse, rfl⟩, point, ?_, Option.some.inj there⟩
      rw [hover_points tracks installed]
      exact under?_mem under
  | leave installed nothing =>
      have none : (none : Option (Point α)) = some place := crosshair_of_redraw pinned
      cases none

theorem after_concat (g : Graph κ α) (events : List (Event κ α)) (e : Event κ α) :
    g.after (events ++ [e]) = ((g.after events).step e).1 := by
  rw [after, after, List.foldl_concat]

theorem change_concat [AtomicChart κ] (g : Graph κ α) (events : List (Event κ α)) (e : Event κ α) :
    Change (g.after events) e (g.after (events ++ [e])) := by
  rw [after_concat]
  exact change _ e

/-- What only moves of the mouse bring about was brought about by the last one. -/
theorem exists_last_move_of (start : Graph κ α) {Q : Graph κ α → Prop} (unseen : ¬ Q start)
    (kept : ∀ events e, (∀ mouse, e ≠ .moveMouse mouse) → Q (start.after (events ++ [e])) →
      Q (start.after events))
    {events : List (Event κ α)} (holds : Q (start.after events)) :
    ∃ before mouse since, events = before ++ .moveMouse mouse :: since ∧
      (∀ e ∈ since, ∀ mouse, e ≠ .moveMouse mouse) ∧
        Q (start.after (before ++ [.moveMouse mouse])) := by
  induction events using List.reverseRecOn with
  | nil => exact absurd holds unseen
  | append_singleton events e ih =>
      by_cases moves : ∃ mouse, e = .moveMouse mouse
      · obtain ⟨mouse, rfl⟩ := moves
        exact ⟨events, mouse, [], rfl, fun _ none => absurd none List.not_mem_nil, holds⟩
      · have still : ∀ mouse, e ≠ .moveMouse mouse := not_exists.mp moves
        obtain ⟨earlier, mouse, since, rfl, rest, then_⟩ := ih (kept events e still holds)
        refine ⟨earlier, mouse, since ++ [e], by simp, ?_, then_⟩
        intro e' member
        rcases List.mem_append.mp member with old | new
        · exact rest e' old
        · rw [List.mem_singleton.mp new]
          exact still

/-- A place that is pinned was pinned by the last move of the mouse, on a point. -/
theorem exists_last_move [AtomicChart κ] {start : Graph κ α}
    (tracks : ∀ events, Tracks (start.after events)) (unpinned : start.crosshair = none)
    {events : List (Event κ α)} {place : Point α}
    (pinned : (start.after events).crosshair = some place) :
    ∃ before mouse since, events = before ++ .moveMouse mouse :: since ∧
      (∀ e ∈ since, ∀ mouse, e ≠ .moveMouse mouse) ∧
      (start.after (before ++ [.moveMouse mouse])).crosshair = some place ∧
      (start.after (before ++ [.moveMouse mouse])).On place := by
  have unseen : ¬ start.crosshair = some place := by
    rw [unpinned]
    nofun
  have pinnedBefore : ∀ events e, (∀ mouse, e ≠ .moveMouse mouse) →
      (start.after (events ++ [e])).crosshair = some place →
      (start.after events).crosshair = some place := by
    intro events e still now
    rcases (start.change_concat events e).pinned (tracks events) now with
      ⟨⟨mouse, moved⟩, -⟩ | ⟨-, before⟩
    · exact absurd moved (still mouse)
    · exact before
  obtain ⟨before, mouse, since, split, still, then_⟩ :=
    start.exists_last_move_of (Q := fun g => g.crosshair = some place) unseen pinnedBefore pinned
  refine ⟨before, mouse, since, split, still, then_, ?_⟩
  rcases (start.change_concat before _).pinned (tracks before) then_ with ⟨-, on⟩ | ⟨never, -⟩
  · exact on
  · exact absurd rfl (never mouse)

end Redraw

/-- The crosshair was pinned by the last move of the mouse, to the place of a point that there was
    then. Later events leave it there, and it is on a point still if the chart and the graph area
    are what they were. -/
theorem crosshair_on_points {κ : Type} [Chart κ Float] [AtomicChart κ]
    (options : GraphOptions Float) (page : Page Float) (settings : Settings)
    (events : List (Event κ Float)) {place : Point Float}
    (pinned : ((new options page settings : Graph κ Float).after events).crosshair = some place) :
    ∃ before mouse since, events = before ++ .moveMouse mouse :: since ∧
      (∀ e ∈ since, ∀ mouse, e ≠ .moveMouse mouse) ∧
      let moved := (new options page settings : Graph κ Float).after (before ++ [.moveMouse mouse])
      let now := (new options page settings : Graph κ Float).after events
      moved.crosshair = some place ∧ moved.On place ∧
      (now.chart = moved.chart → now.plot.frame = moved.plot.frame → now.On place) := by
  have tracks := tracks_after (κ := κ) options page settings
  obtain ⟨before, mouse, since, split, still, then_, on⟩ := exists_last_move tracks rfl pinned
  refine ⟨before, mouse, since, split, still, then_, on, ?_⟩
  intro chart frame
  obtain ⟨point, kept, there⟩ := on
  refine ⟨point, ?_, there⟩
  rw [(tracks events).points, drawnPoints_congr chart frame, ← (tracks _).points]
  exact kept

/-- Two snapshots of one race, a day apart. -/
def twoDays : ChartSource Float :=
  let snapshot (id : Int64) : Stat Float :=
    ⟨.ofIds 4 ⟨[0], [0], [0], [0]⟩, ⟨id, 201, 28, 0, 1, id * 86400, #[10, 6, 4, 0]⟩⟩
  ⟨⟨201, ⟨[snapshot 1, snapshot 2]⟩⟩, { Catalog.empty with ranked := ⟨[0], [0], [0], [0]⟩ },
    .ofList [], 0⟩

/-- The mouse is on the second point when the page becomes narrower, and the point moves away from
    under the crosshair. -/
theorem crosshair_on_no_point :
    let g : Graph (RaceChart Float) Float := (new .standard (.ofWidth 1000) .empty).after
      [.init (.new twoDays), .moveMouse ⟨960, 20⟩, .resize 500]
    g.crosshair = some ⟨896, 0⟩ ∧ ¬ g.On ⟨896, 0⟩ := by
  intro g
  have pinned : g.crosshair = some ⟨896, 0⟩ := by decide +kernel
  have elsewhere : ∀ point ∈ g.points, point.place ≠ ⟨896, 0⟩ := by decide +kernel
  exact ⟨pinned, fun ⟨point, kept, there⟩ => elsewhere point kept there⟩

/-- A control that the chart refuses leaves the crosshair on its point. -/
theorem crosshair_on_points_refused :
    let events : List (Event (RaceChart Float) Float) :=
      [.init (.new twoDays), .moveMouse ⟨960, 20⟩, .setControl Control.region "7"]
    ((new .standard (.ofWidth 1000) .empty : Graph (RaceChart Float) Float).after
      events).crosshair =
        some ⟨896, 0⟩ ∧
      ∃ before mouse since, events = before ++ .moveMouse mouse :: since ∧
        (∀ e ∈ since, ∀ mouse, e ≠ .moveMouse mouse) ∧
        let moved := (new .standard (.ofWidth 1000) .empty : Graph (RaceChart Float) Float).after
          (before ++ [.moveMouse mouse])
        let now :=
          (new .standard (.ofWidth 1000) .empty : Graph (RaceChart Float) Float).after events
        moved.crosshair = some ⟨896, 0⟩ ∧ moved.On ⟨896, 0⟩ ∧
        (now.chart = moved.chart → now.plot.frame = moved.plot.frame → now.On ⟨896, 0⟩) := by
  intro events
  have pinned : ((new .standard (.ofWidth 1000) .empty : Graph (RaceChart Float) Float).after
      events).crosshair = some ⟨896, 0⟩ := by decide +kernel
  exact ⟨pinned, crosshair_on_points .standard (.ofWidth 1000) .empty events pinned⟩

/-! ## What the page shows -/

section Page

variable {κ α : Type} [Scalar α]

/-- The page waits while there is no chart, and shows a tooltip while there is a crosshair. -/
structure Tells (g : Graph κ α) : Prop where
  waiting : g.page.waiting = g.chart.isNone
  shown : g.page.shown.isSome = g.crosshair.isSome

variable [Chart κ α]

theorem tells_redraw {g : Graph κ α} {chart : κ} (installed : g.chart = some chart) (h : Tells g) :
    Tells g.redraw.1 := by
  cases drawn : Chart.draw chart g.plot.frame with
  | ok drawing =>
      rw [redraw_of_drawn installed drawn]
      exact ⟨h.waiting, h.shown⟩
  | error e =>
      rw [redraw_of_failed installed drawn]
      exact ⟨h.waiting, rfl⟩

theorem Tells.change {g g' : Graph κ α} {e : Event κ α} (h : Tells g) (change : Change g e g') :
    Tells g' := by
  have ready (chart : κ) (installed : g.chart = some chart) : g.page.waiting = false := by
    rw [h.waiting, installed]
    rfl
  cases change with
  | refuseChart refused => exact h
  | install accepted => exact tells_redraw rfl ⟨rfl, h.shown⟩
  | fit empty => exact ⟨h.waiting, h.shown⟩
  | refit installed => exact tells_redraw rfl ⟨ready _ installed, h.shown⟩
  | store empty => exact ⟨h.waiting, h.shown⟩
  | refuseControl installed refused => exact ⟨h.waiting, h.shown⟩
  | recompute installed accepted => exact tells_redraw rfl ⟨ready _ installed, h.shown⟩
  | ignore empty => exact h
  | hover installed under => exact tells_redraw installed ⟨h.waiting, rfl⟩
  | leave installed nothing => exact tells_redraw installed ⟨h.waiting, rfl⟩

theorem tells_after [AtomicChart κ] (options : GraphOptions α) {page : Page α}
    (hidden : page.shown = none) (settings : Settings) (events : List (Event κ α)) :
    Tells ((new options page settings : Graph κ α).after events) :=
  after_induction ⟨rfl, congrArg Option.isSome hidden⟩ fun _ _ _ _ h change => h.change change

/-! ## Failed drawings -/

/-- Whether a chart refuses its controls, so that nothing is drawn. -/
def refuses (g : Graph κ α) : Event κ α → Bool
  | .init chart => !(Chart.withSettings (g.sized chart) g.settings).isOk
  | .setControl name value =>
    match g.chart with
    | some chart => !(Chart.withSettings chart (g.settings.set name value)).isOk
    | none => false
  | _ => false

/-- An event whose controls are not refused fails only where it redraws a graph with a chart. -/
theorem exists_redraw_of_failed {g : Graph κ α} {e : Event κ α} {error : GraphError}
    (accepted : g.refuses e = false) (failed : (g.step e).2 = .error error) :
    ∃ (ready : Graph κ α) (chart : κ), g.step e = ready.redraw ∧ ready.chart = some chart ∧
      (Fitted g → Fitted ready) := by
  generalize outcome : g.step e = result at failed ⊢
  cases e with
  | init chart =>
      rw [step, init_eq] at outcome
      split at outcome
      · next refused =>
          rw [refuses, refused] at accepted
          cases accepted
      · exact ⟨_, _, outcome.symm, rfl, fun h => h.congr rfl rfl⟩
  | resize width =>
      simp only [step, resize] at outcome
      split at outcome
      · subst outcome
        cases failed
      · exact ⟨_, _, outcome.symm, rfl, fun h => (h.widen width).congr rfl rfl⟩
  | setControl name value =>
      simp only [step, setControl] at outcome
      split at outcome
      · subst outcome
        cases failed
      · next chart installed =>
          split at outcome
          · next e failed =>
              have refused : Chart.withSettings chart (g.settings.set name value) = .error e := by
                rw [Chart.withSettings, ← Prod.mk.eta (p := (Chart.newSettings _).on chart), failed]
              simp only [refuses, installed, refused] at accepted
              cases accepted
          · exact ⟨_, _, outcome.symm, rfl, fun h => h.congr rfl rfl⟩
  | moveMouse place =>
      simp only [step, moveMouse] at outcome
      split at outcome
      · subst outcome
        cases failed
      · next chart installed =>
          split at outcome
          · exact ⟨_, chart, outcome.symm, installed, fun h => h.congr rfl rfl⟩
          · exact ⟨_, chart, outcome.symm, installed, fun h => h.congr rfl rfl⟩

end Page

variable {κ : Type}

/-- Nothing is seen but black, and there is nothing to hover over. -/
structure Blank (g : Graph κ Float) : Prop where
  points : g.points = []
  crosshair : g.crosshair = none
  shown : g.page.shown = none
  canvas : Drawable g.options g.page.width →
    g.plot.canvas = ⟨g.page.width, canvasHeight g.options g.page.width, #[],
      #[⟨.rect ⟨0, 0, g.page.width, canvasHeight g.options g.page.width⟩ (.color Palette.black) 1,
        0⟩]⟩

variable [Chart κ Float]

theorem Fitted.blank_redraw {g : Graph κ Float} (h : Fitted g) {chart : κ}
    (installed : g.chart = some chart) {error : GraphError} (failed : g.redraw.2 = .error error) :
    Blank g.redraw.1 := by
  cases drawn : Chart.draw chart g.plot.frame with
  | ok drawing =>
      rw [redraw_of_drawn installed drawn] at failed
      cases failed
  | error e =>
      rw [redraw_of_failed installed drawn]
      refine ⟨rfl, rfl, rfl, fun drawable => ?_⟩
      have size : Drawable g.options g.page.width := drawable
      change (g.plot.clear 1).canvas = _
      rw [h.clear_eq_fresh size, clear_fresh size]
      rfl

/-- However a graph on a new page has come to its state: the page waits exactly while there is no
    chart, it shows a tooltip exactly while a crosshair is pinned, without a chart there is nothing
    to hover over, and a drawing that fails next leaves the canvas blank. -/
theorem hover_state_after [AtomicChart κ] (options : GraphOptions Float) (page : Page Float)
    (settings : Settings) (events : List (Event κ Float)) (hidden : page.shown = none) :
    let g := (new options page settings : Graph κ Float).after events
    (g.page.waiting = true ↔ g.chart = none) ∧
    (g.page.shown.isSome = true ↔ g.crosshair.isSome = true) ∧
    (g.chart = none → g.points = [] ∧ g.crosshair = none) ∧
    ∀ e error, g.refuses e = false → (g.step e).2 = .error error → Blank (g.step e).1 := by
  intro g
  have tells : Tells g := by
    refine after_induction (P := Tells) ⟨rfl, ?_⟩ fun _ _ _ _ h change => h.change change
    exact congrArg Option.isSome hidden
  have tracks : Tracks g := tracks_after options page settings events
  have fitted : Fitted g :=
    after_induction (P := Fitted) (fitted_fitCanvas _ rfl rfl) fun _ _ _ _ h change =>
      h.change change
  refine ⟨?_, ?_, ?_, ?_⟩
  · rw [tells.waiting, Option.isNone_iff_eq_none]
  · rw [tells.shown]
  · intro empty
    refine ⟨?_, tracks.idle empty⟩
    rw [tracks.points, drawnPoints, empty]
  · intro e error accepted failed
    obtain ⟨ready, chart, redrawn, installed, fits⟩ := exists_redraw_of_failed accepted failed
    rw [redrawn] at failed ⊢
    exact (fits fitted).blank_redraw installed failed

/-- The mouse is on a point when a version is selected of which there are no snapshots. -/
theorem hover_state_after_nothing_selected :
    let events : List (Event (RaceChart Float) Float) :=
      [.init (.new twoDays), .moveMouse ⟨960, 20⟩]
    let e : Event (RaceChart Float) Float := .setControl Control.version "1"
    let g : Graph (RaceChart Float) Float := (new .standard (.ofWidth 1000) .empty).after events
    (Page.ofWidth (1000 : Float)).shown = none ∧ g.crosshair.isSome = true ∧ g.refuses e = false ∧
      (g.step e).2 = .error .noData ∧
      Drawable (g.step e).1.options (g.step e).1.page.width ∧ Blank (g.step e).1 := by
  intro events e g
  have before : g.crosshair.isSome = true ∧ g.refuses e = false := by decide +kernel
  have failed : (g.step e).2 = .error .noData := by decide +kernel
  have drawable : Drawable (g.step e).1.options (g.step e).1.page.width :=
    ⟨by decide +kernel, by decide +kernel⟩
  obtain ⟨-, -, -, blank⟩ := hover_state_after .standard (.ofWidth 1000) .empty events rfl
  exact ⟨rfl, before.1, before.2, failed, drawable, blank e _ before.2 failed⟩

/-- On a page whose width is no number nothing covers the canvas, and each failed drawing adds its
    black. A tooltip that a page shows already is not the graph's, and stays. -/
theorem black_twice_of_nan :
    (let empty : ChartSource Float := ⟨⟨201, ⟨[]⟩⟩, Catalog.empty, .ofList [], 0⟩
      let e : Event (RaceChart Float) Float := .init (.new empty)
      let g : Graph (RaceChart Float) Float := (new .standard (.ofWidth (0 / 0)) .empty).after [e]
      g.refuses e = false ∧ (g.step e).2 = .error .noData ∧
        (g.step e).1.plot.canvas.marks.size = 2) ∧
    let page : Page Float := { Page.ofWidth 1000 with shown := some ⟨⟨[], 188⟩, 0, 0⟩ }
    let g : Graph (RaceChart Float) Float := new .standard page .empty
    g.page.shown.isSome = true ∧ g.crosshair.isSome = false := by
  decide +kernel

end Graph

end LadderAtlas
