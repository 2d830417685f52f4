import LadderAtlas.Proofs.Chart.Span
import LadderAtlas.Proofs.Graph.Hovering

/-! # What hover points stand for

A hover point carries a position in the data of its chart and nothing of the data itself. It is
drawn with the data, so the position is always that of a data point that the chart has now, and the
column is that of its time. A tooltip is made when the mouse moves, from the data that there is
then. Like the crosshair it stays as it is when later events change the data.
-/

namespace LadderAtlas

/-! ## Data points over time -/

section Series

variable {κ α β : Type} [Scalar α]

/-- The column of a time in a frame that reaches from a first time to a last one. -/
def Frame.columnOf (f : Frame α) (first last t : Int64) : α :=
  (f.timeViewport first last 0).column (Scalar.ofInt t.toInt)

/-- A hover point stands for a data point that there is, in the column of its time. -/
structure HoverPoint.Addresses (f : Frame α) (time : β → Int64) (data : List β) (p : HoverPoint α) :
    Prop where
  index : p.index < data.length
  column : ∃ first last, data.head? = some first ∧ data.getLast? = some last ∧
    p.place.x = f.columnOf (time first) (time last) (time data[p.index])

/-- The data points of a chart, which it places by their times and names by tooltips. -/
structure TimeSeries (κ β : Type) {α : Type} [Scalar α] [Chart κ α] where
  points : κ → List β
  time : β → Int64
  /-- What is shown beside a data point, or where there is none. -/
  tooltip : κ → Option β → Tooltip α
  asked : ∀ chart index, Chart.tooltip chart index = tooltip chart (points chart)[index]?
  drawn : ∀ chart (f : Frame α), DrawnOver f ((points chart).map time) (Chart.draw chart f)

def RaceChart.series : TimeSeries (RaceChart α) (SharePoint α) where
  points := points
  time := SharePoint.time
  tooltip chart := chart.source.shareTooltip .race chart.races
  asked _ _ := rfl
  drawn := drawnOver

def LeagueChart.series : TimeSeries (LeagueChart α) (SharePoint α) where
  points := points
  time := SharePoint.time
  tooltip chart := chart.source.shareTooltip .league chart.leagues
  asked _ _ := rfl
  drawn := drawnOver

def PopulationChart.series : TimeSeries (PopulationChart α) (PopulationPoint α) where
  points := points
  time := PopulationPoint.time
  tooltip := tooltip
  asked _ _ := rfl
  drawn := drawnOver

theorem DrawnOver.addresses {f : Frame α} {time : β → Int64} {data : List β} {drawing : Drawing α}
    (h : DrawnOver f (data.map time) (.ok drawing)) {p : HoverPoint α}
    (member : p ∈ drawing.points) :
    p.Addresses f time data := by
  cases h with
  | drawn many starts ends columns =>
      obtain ⟨t, listed, column⟩ := columns p member
      rw [List.head?_map] at starts
      rw [List.getLast?_map] at ends
      rw [List.getElem?_map] at listed
      obtain ⟨first, oldest, rfl⟩ := Option.map_eq_some_iff.mp starts
      obtain ⟨last, newest, rfl⟩ := Option.map_eq_some_iff.mp ends
      obtain ⟨datum, there, rfl⟩ := Option.map_eq_some_iff.mp listed
      obtain ⟨index, rfl⟩ := List.getElem?_eq_some_iff.mp there
      exact ⟨index, first, last, oldest, newest, column⟩

end Series

namespace Graph

section Pointing

variable {κ α β : Type} [Scalar α] [Chart κ α] (s : TimeSeries κ β)

/-! ## Positions -/

variable {s} in
theorem Tracks.addresses {g : Graph κ α} (h : Tracks g) {p : HoverPoint α} (member : p ∈ g.points) :
    ∃ chart, g.chart = some chart ∧ p.Addresses g.plot.frame s.time (s.points chart) := by
  rw [h.points, drawnPoints] at member
  split at member
  · cases member
  · next chart installed =>
      split at member
      · next drawing drawn =>
          have placed := s.drawn chart g.plot.frame
          rw [drawn] at placed
          exact ⟨chart, installed, placed.addresses member⟩
      · cases member

/-- What is shown beside a point that is kept is the tooltip of a data point. -/
theorem Tracks.tooltip {g : Graph κ α} (h : Tracks g) {chart : κ} (installed : g.chart = some chart)
    {p : HoverPoint α} (member : p ∈ g.points) :
    ∃ datum, (s.points chart)[p.index]? = some datum ∧
      Chart.tooltip chart p.index = s.tooltip chart (some datum) := by
  obtain ⟨chart', installed', addresses⟩ := h.addresses (s := s) member
  obtain rfl : chart = chart' := Option.some.inj (installed.symm.trans installed')
  have there : (s.points chart)[p.index]? = some _ := List.getElem?_eq_getElem addresses.index
  exact ⟨_, there, by rw [s.asked, there]⟩

/-! ## Tooltips -/

/-- A tooltip is the one of a data point under the crosshair. -/
def Names (g : Graph κ α) (tooltip : Tooltip α) : Prop :=
  ∃ chart, g.chart = some chart ∧ ∃ point ∈ g.points, g.crosshair = some point.place ∧
    ∃ datum, (s.points chart)[point.index]? = some datum ∧ tooltip = s.tooltip chart (some datum)

variable {s} in
theorem Names.congr {g g' : Graph κ α} {tooltip : Tooltip α} (h : g.Names s tooltip)
    (chart : g'.chart = g.chart) (points : g'.points = g.points)
    (crosshair : g'.crosshair = g.crosshair) :
    g'.Names s tooltip := by
  obtain ⟨there, installed, point, kept, pinned, named⟩ := h
  exact ⟨there, chart.trans installed, point, points ▸ kept, crosshair.trans pinned, named⟩

/-- A tooltip that is shown after an event was shown before if the mouse has not moved. If it has,
    the tooltip is the one of a data point under the crosshair. -/
theorem Change.shown {g g' : Graph κ α} {e : Event κ α} (change : Change g e g') (tracks : Tracks g)
    (tells : Tells g) {callout : Callout α} (shown : g'.page.shown = some callout) :
    (∃ mouse, e = .moveMouse mouse) ∧ g'.Names s callout.tooltip ∨
      (∀ mouse, e ≠ .moveMouse mouse) ∧ g.page.shown = some callout := by
  cases change with
  | refuseChart refused => exact .inr ⟨nofun, shown⟩
  | install accepted => exact .inr ⟨nofun, (shown_of_redraw shown :)⟩
  | fit empty => exact .inr ⟨nofun, shown⟩
  | refit installed => exact .inr ⟨nofun, (shown_of_redraw shown :)⟩
  | store empty => exact .inr ⟨nofun, shown⟩
  | refuseControl installed refused => exact .inr ⟨nofun, shown⟩
  | recompute installed accepted => exact .inr ⟨nofun, (shown_of_redraw shown :)⟩
  | ignore empty =>
      have hidden := tells.shown
      rw [tracks.idle empty, shown] at hidden
      cases hidden
  | @hover mouse chart point installed under =>
      -- The drawing has not failed, or the tooltip would be gone, and so the crosshair is where it
      -- was put.
      have tells' : Tells (g.hover chart point).1 := tells.change (.hover installed under)
      have pinned : (g.hover chart point).1.crosshair.isSome = true := by
        rw [← tells'.shown, shown]; rfl
      obtain ⟨place, pinned⟩ := Option.isSome_iff_exists.mp pinned
      have there : some point.place = some place := crosshair_of_redraw pinned
      have kept : point ∈ g.points := under?_mem under
      obtain ⟨datum, listed, told⟩ := tracks.tooltip s installed kept
      obtain ⟨-, -, keptChart⟩ :=
        redraw_keeps { g.tell (.showTip _) with crosshair := some point.place }
      refine .inl ⟨⟨mouse, rfl⟩, chart, keptChart.trans installed, point, ?_,
        pinned.trans there.symm, datum, listed, ?_⟩
      · rw [hover_points tracks installed]
        exact kept
      · rw [← told]
        exact (congrArg Callout.tooltip (Option.some.inj (shown_of_redraw shown))).symm
  | leave installed nothing =>
      have none : (none : Option (Callout α)) = some callout := shown_of_redraw shown
      cases none

/-! ## Runs -/

/-- What the hover points of a graph stand for after events, and of what its page shows a
    tooltip. -/
structure Pointing (start : Graph κ α) (events : List (Event κ α)) : Prop where
  /-- Every hover point stands for a data point that the chart has now. -/
  live : ∀ point ∈ (start.after events).points, ∃ chart, (start.after events).chart = some chart ∧
    point.Addresses (start.after events).plot.frame s.time (s.points chart)
  /-- Wherever the mouse meets a point, there is a data point to show the tooltip of. -/
  asked : ∀ chart mouse point, (start.after events).chart = some chart →
    (start.after events).under? mouse = some point → ∃ datum,
      (s.points chart)[point.index]? = some datum ∧
      Chart.tooltip chart point.index = s.tooltip chart (some datum)
  /-- A tooltip that is shown, and was not from the start, has been shown since the last move of the
      mouse, and it was the one of a data point under the crosshair then. The crosshair is where it
      was, and the tooltip is right as long as the chart and the graph area are what they were. -/
  shown : start.page.shown = none → ∀ callout, (start.after events).page.shown = some callout →
    ∃ before mouse since, events = before ++ .moveMouse mouse :: since ∧
      (∀ e ∈ since, ∀ mouse, e ≠ .moveMouse mouse) ∧
      let moved := start.after (before ++ [.moveMouse mouse])
      let now := start.after events
      moved.page.shown = some callout ∧ moved.Names s callout.tooltip ∧
        now.crosshair = moved.crosshair ∧
      (now.chart = moved.chart → now.plot.frame = moved.plot.frame → now.Names s callout.tooltip)

theorem pointing_after [AtomicChart κ] (options : GraphOptions α) (page : Page α)
    (settings : Settings) (events : List (Event κ α)) :
    Pointing s (new options page settings) events := by
  let start : Graph κ α := new options page settings
  have tracks (events) : Tracks (start.after events) := tracks_after options page settings events
  refine ⟨fun point member => (tracks events).addresses member,
    fun chart mouse point installed under =>
    (tracks events).tooltip s installed (under?_mem under), fun hidden callout shown => ?_⟩
  have bare : page.shown = none := hidden
  have tells (events) : Tells (start.after events) := tells_after options bare settings events
  have pinned : (start.after events).crosshair.isSome = true := by
    rw [← (tells events).shown, shown]
    rfl
  obtain ⟨place, pinned⟩ := Option.isSome_iff_exists.mp pinned
  -- Tooltip and crosshair are followed back together, to the one event that brought both.
  have seenBefore : ∀ events e, (∀ mouse, e ≠ .moveMouse mouse) →
      (start.after (events ++ [e])).page.shown = some callout ∧
        (start.after (events ++ [e])).crosshair = some place →
      (start.after events).page.shown = some callout ∧
      (start.after events).crosshair = some place := by
    rintro events e still ⟨shown, pinned⟩
    have last := start.change_concat events e
    rcases last.shown s (tracks events) (tells events) shown with
      ⟨⟨mouse, moved⟩, -⟩ | ⟨-, shownBefore⟩
    · exact absurd moved (still mouse)
    rcases last.pinned (tracks events) pinned with ⟨⟨mouse, moved⟩, -⟩ | ⟨-, pinnedBefore⟩
    · exact absurd moved (still mouse)
    exact ⟨shownBefore, pinnedBefore⟩
  obtain ⟨before, mouse, since, split, still, shown', pinned'⟩ := start.exists_last_move_of
    (Q := fun g => g.page.shown = some callout ∧ g.crosshair = some place)
      (fun seen => nomatch seen.2)
    seenBefore ⟨shown, pinned⟩
  have names : (start.after (before ++ [.moveMouse mouse])).Names s callout.tooltip := by
    rcases (start.change_concat before _).shown s (tracks before) (tells before) shown' with
      ⟨-, names⟩ | ⟨never, -⟩
    · exact names
    · exact absurd rfl (never mouse)
  have crosshair := pinned.trans pinned'.symm
  refine ⟨before, mouse, since, split, still, shown', names, crosshair, fun chart frame => ?_⟩
  exact names.congr chart ((tracks _).points_congr (tracks events) chart frame) crosshair

end Pointing

/-- However a graph of any of the charts has come to its state, its hover points stand for data
    points that the chart has now, each in the column of its time between the first and the last,
    and no move of the mouse asks for the tooltip of a point that there is not. The tooltip that is
    shown was the one of a data point under the crosshair when the mouse moved last. -/
theorem hover_points_are_live {α : Type} [Scalar α] (options : GraphOptions α) (page : Page α)
    (settings : Settings) :
    (∀ events, Pointing RaceChart.series (new options page settings) events) ∧
    (∀ events, Pointing LeagueChart.series (new options page settings) events) ∧
    ∀ events, Pointing PopulationChart.series (new options page settings) events :=
  ⟨pointing_after _ options page settings, pointing_after _ options page settings,
    pointing_after _ options page settings⟩

/-- Two snapshots of two regions, a day apart, of 10 and 20 teams each. -/
def twoRegions : ChartSource Float :=
  let snapshot (id : Int64) : Stat Float :=
    ⟨.ofIds 4 ⟨[0], [0, 1], [0], [0]⟩,
      ⟨id, 201, 28, 0, 1, id * 86400, #[10, 6, 4, 0, 20, 9, 11, 0]⟩⟩
  ⟨⟨201, ⟨[snapshot 1, snapshot 2]⟩⟩, { Catalog.empty with ranked := ⟨[0], [0, 1], [0], [0]⟩ },
    .ofList [], 0⟩

/-- The mouse is on the second point when the second region is selected. The point stays where it
    is, under the crosshair, and stands for 20 teams now, but the tooltip goes on to say 30. -/
theorem stale_tooltip_under_crosshair :
    let g : Graph (RaceChart Float) Float := (new .standard (.ofWidth 1000) .empty).after
      [.init (.new twoRegions), .moveMouse ⟨960, 20⟩, .setControl Control.region "1"]
    (∃ point ∈ g.points, g.crosshair = some point.place) ∧
      ∃ callout, g.page.shown = some callout ∧ callout.tooltip.get? "Population" = some "30" ∧
        ¬ g.Names RaceChart.series callout.tooltip := by
  intro g
  have under : ∃ point ∈ g.points, g.crosshair = some point.place := by decide +kernel
  have shown : g.page.shown.bind (fun callout => callout.tooltip.get? "Population") =
      some "30" := by
    decide +kernel
  have now : ∀ chart ∈ g.chart, ∀ point ∈ g.points, g.crosshair = some point.place →
      (RaceChart.series.tooltip chart chart.points[point.index]?).get? "Population" =
        some "20" := by
    decide +kernel
  obtain ⟨callout, there, thirty⟩ := Option.bind_eq_some_iff.mp shown
  refine ⟨under, callout, there, thirty, ?_⟩
  rintro ⟨chart, installed, point, kept, pinned, datum, listed, named⟩
  have twenty := now chart installed point kept pinned
  rw [show chart.points[point.index]? = some datum from listed, ← named, thirty] at twenty
  exact absurd twenty (by decide)

/-- The second region is selected before the mouse moves, and one that no snapshot knows is refused
    after. -/
theorem hover_points_are_live_refused :
    let events : List (Event (RaceChart Float) Float) := [.init (.new twoRegions),
      .setControl Control.region "1", .moveMouse ⟨960, 20⟩, .setControl Control.region "7"]
    let start : Graph (RaceChart Float) Float := new .standard (.ofWidth 1000) .empty
    let g := start.after events
    start.page.shown = none ∧
      (∃ point ∈ g.points, ∃ chart, g.chart = some chart ∧
        point.Addresses g.plot.frame RaceChart.series.time (RaceChart.series.points chart)) ∧
      ∃ callout, g.page.shown = some callout ∧ callout.tooltip.get? "Population" = some "20" ∧
        ∃ before mouse, (start.after (before ++ [.moveMouse mouse])).Names RaceChart.series
          callout.tooltip := by
  intro events start g
  have drawn : 0 < g.points.length := by decide +kernel
  have shown : g.page.shown.bind (fun callout => callout.tooltip.get? "Population") =
      some "20" := by
    decide +kernel
  have race : Pointing RaceChart.series start events :=
    (hover_points_are_live .standard (.ofWidth (1000 : Float)) .empty).1 events
  have bare : start.page.shown = none := rfl
  -- From here on the run is not to be evaluated any more.
  clear_value start
  obtain ⟨point, kept⟩ := List.exists_mem_of_length_pos drawn
  obtain ⟨callout, there, twenty⟩ := Option.bind_eq_some_iff.mp shown
  obtain ⟨before, mouse, since, -, -, -, names, -⟩ := race.shown bare callout there
  exact ⟨bare, ⟨point, kept, race.live point kept⟩, callout, there, twenty, before, mouse, names⟩

end Graph

end LadderAtlas
