import LadderAtlas.Proofs.Chart.Shares
import LadderAtlas.Proofs.Chart.Span
import LadderAtlas.Proofs.Graph.Viewports

/-! # Tops of graphs

The graphs of the race chart and of the population chart reach up to their largest value, or to a
thousandth where no value is larger than that. Nothing that is shown is below zero if no number of
the data is, so the lines stay inside of the graph, and they touch its upper edge where a value is
at the top.

The race chart finds its top while it computes its points, by other operations than it draws the
lines with and without the snapshots that have no teams. Over exact numbers that comes to the same.
-/

namespace LadderAtlas

/-! ## Largest values -/

theorem isGreatest_foldl_max (base : Rat) (values : List Rat) :
    IsGreatest {x | x = base ∨ x ∈ values} (values.foldl Scalar.max base) := by
  induction values generalizing base with
  | nil => exact ⟨.inl rfl, fun x member => (member.resolve_right List.not_mem_nil).le⟩
  | cons value rest ih =>
      obtain ⟨reached, bound⟩ := ih (Scalar.max base value)
      have above : Scalar.max base value ≤ (value :: rest).foldl Scalar.max base := bound (.inl rfl)
      constructor
      · cases reached with
        | inr later => exact .inr (List.mem_cons_of_mem value later)
        | inl same =>
            rw [List.foldl_cons, same, Scalar.max_eq]
            rcases max_choice base value with left | right
            · exact .inl left
            · rw [right]
              exact .inr List.mem_cons_self
      · intro x member
        rw [Scalar.max_eq] at above
        rcases member with rfl | listed
        · exact (le_max_left x value).trans above
        · rcases List.mem_cons.mp listed with rfl | later
          · exact (le_max_right base x).trans above
          · exact bound (.inr later)

theorem isGreatest_max {base base' top : Rat} {values : Set Rat} (lower : base ≤ base')
    (h : IsGreatest {x | x = base ∨ x ∈ values} top) :
    IsGreatest {x | x = base' ∨ x ∈ values} (Scalar.max top base') := by
  obtain ⟨reached, bound⟩ := h
  rw [Scalar.max_eq]
  constructor
  · rcases max_choice top base' with left | right
    · rw [left]
      rcases reached with rfl | listed
      · exact .inl (le_antisymm lower (left ▸ le_max_right top base'))
      · exact .inr listed
    · exact .inl right
  · intro x member
    rcases member with rfl | listed
    · exact le_max_right top x
    · exact (bound (.inr listed)).trans (le_max_left top base')

namespace RaceChart

variable {top : Rat}

/-- The highest percentage is searched among the shares that the lines go through. -/
theorem highest_eq (low : 0 ≤ top) (p : SharePoint Rat) :
    highest top p = p.shares.foldl Scalar.max top := by
  rw [highest, SharePoint.shares, List.foldl_map]
  by_cases none : p.total = 0
  · have shares : ∀ count, Scalar.max top (Format.share count p.total) = top := by
      intro count
      rw [Format.share_eq, if_pos none, Scalar.max_eq, max_eq_left low]
    rw [if_neg (by simpa using none), List.foldl_fixed' shares]
  · have shares : ∀ count, count / p.total * 100 = Format.share count p.total := by
      intro count
      rw [Format.share_eq, if_neg none, div_mul_eq_mul_div]
    rw [if_pos (by simpa using none)]
    simp only [shares]

theorem foldl_highest (low : 0 ≤ top) (points : List (SharePoint Rat)) :
    points.foldl highest top = (points.flatMap SharePoint.shares).foldl Scalar.max top := by
  induction points generalizing top with
  | nil => rfl
  | cons p rest ih =>
      have higher : top ≤ p.shares.foldl Scalar.max top :=
        (isGreatest_foldl_max top p.shares).2 (.inl rfl)
      rw [List.foldl_cons, List.flatMap_cons, List.foldl_append, highest_eq low,
        ih (low.trans higher)]

end RaceChart

/-! ## Tops -/

section Points

variable {s : Settings}

namespace RaceChart

variable {c ready : RaceChart Rat}

theorem races_of_accepted (accepted : c.withSettings s = .ok ready) : ready.races = c.races := by
  obtain ⟨points, -, rfl⟩ := withSettings_eq_ok accepted
  rfl

/-- The controls leave races open, also where they let no league through. -/
theorem free_filter (s : Settings) (defaultVersion : Id) :
    (filter s defaultVersion).get? .race = none := by
  have free := Filter.get?_ofControls s defaultVersion (d := .race) (by decide) (by decide)
  rw [filter]
  split
  · rwa [Filter.get?_set_of_ne _ (by decide)]
  · rwa [Filter.get?_choose_of_ne _ (by decide)]

theorem length_counts (accepted : c.withSettings s = .ok ready) {p : SharePoint Rat}
    (listed : p ∈ ready.points) :
    p.counts.length = ready.races.length := by
  obtain ⟨stat, -, ofStat⟩ := exists_snapshot accepted listed
  obtain ⟨-, -, counts⟩ := SharePoint.counts_of_ofStat ofStat (free_filter s _)
  rw [counts, List.length_map, races_of_accepted accepted]

/-- The top is the largest share of the lines. -/
theorem isGreatest_top (accepted : c.withSettings s = .ok ready) :
    IsGreatest {x | x = 0.001 ∨ ∃ p ∈ ready.points, ∃ k < ready.races.length, x = p.share k}
      ready.top := by
  have shown (x : Rat) : (∃ p ∈ ready.points, ∃ k < ready.races.length, x = p.share k) ↔
      x ∈ ready.points.flatMap SharePoint.shares := by
    rw [List.mem_flatMap]
    refine exists_congr fun p => and_congr_right fun listed => ?_
    rw [SharePoint.mem_shares_iff, length_counts accepted listed]
  simp only [shown]
  obtain ⟨points, -, rfl⟩ := withSettings_eq_ok accepted
  simp only [foldl_highest (le_refl 0)]
  exact isGreatest_max (by norm_num) (isGreatest_foldl_max 0 _)

end RaceChart

/-- The top is the largest value of the line. -/
theorem PopulationChart.isGreatest_top {c ready : PopulationChart Rat}
    (accepted : c.withSettings s = .ok ready) :
    IsGreatest {x | x = 0.001 ∨ ∃ p ∈ ready.points, x = p.value} ready.top := by
  obtain ⟨newestFirst, -, rfl⟩ := withSettings_eq_ok accepted
  simp only [eq_comm (b := PopulationPoint.value _), ← List.mem_map]
  rw [← List.foldl_map]
  exact isGreatest_foldl_max 0.001 _

/-! ## Nothing below zero -/

theorem PopulationChart.IsPoint.value_nonneg {seasons : Seasons} {filter : Filter}
    {measure : PopulationMeasure} {stat : Stat Rat} {season : Season} {a : Aggregate Rat}
    {p : PopulationPoint Rat} (is : IsPoint seasons filter measure stat season a p)
    (nonneg : ∀ number ∈ stat.snapshot.data, 0 ≤ number) :
    0 ≤ p.value := by
  have count : 0 ≤ p.count := Stat.get_nil_nonneg is.aggregated nonneg is.count
  have games : 0 ≤ p.games := by
    obtain ⟨wins, losses, readWins, readLosses, sum⟩ := is.games
    rw [sum]
    exact add_nonneg (Stat.get_nil_nonneg is.aggregated nonneg readWins)
      (Stat.get_nil_nonneg is.aggregated nonneg readLosses)
  have perDay : 0 ≤ p.gamesPerDay := by
    rw [is.gamesPerDay]
    split
    · next old => exact div_nonneg games old.le
    · exact le_refl 0
  rw [is.value]
  cases measure with
  | teams => exact count
  | gamesPerDay => exact perDay

/-- A season that has not begun at the time of a snapshot has no age. -/
theorem PopulationChart.IsPoint.age_nonpos {seasons : Seasons} {filter : Filter}
    {measure : PopulationMeasure} {stat : Stat Rat} {season : Season} {a : Aggregate Rat}
    {p : PopulationPoint Rat} (is : IsPoint seasons filter measure stat season a p)
    (before : stat.time ≤ season.start) : p.age ≤ 0 := by
  obtain ⟨difference, had, age⟩ := Option.bind_eq_some_iff.mp is.age
  have seconds : (difference.toInt : Rat) ≤ 0 := by
    rw [Word.toInt_of_minus? rfl had]
    exact_mod_cast Int.sub_nonpos_of_le (Int64.le_iff_toInt_le.mp before)
  rw [← Option.some.inj age]
  exact div_nonpos_of_nonpos_of_nonneg seconds (by norm_num)

theorem PopulationChart.IsPoint.gamesPerDay_eq_zero {seasons : Seasons} {filter : Filter}
    {measure : PopulationMeasure} {stat : Stat Rat} {season : Season} {a : Aggregate Rat}
    {p : PopulationPoint Rat} (is : IsPoint seasons filter measure stat season a p)
    (before : stat.time ≤ season.start) : p.gamesPerDay = 0 := by
  rw [is.gamesPerDay, if_neg (is.age_nonpos before).not_gt]

end Points

/-! ## Lines -/

section Lines

variable {β : Type} {f : Frame Rat} {top : Rat} {first last : Int64} {time : β → Int64}
  {points : List β} {values : List (β → Rat)} {q : HoverPoint Rat}

theorem Frame.row_zero_to_top (f : Frame Rat) (first last : Int64) (top value : Rat) :
    (f.timeViewport first last top).row value = f.height - value / top * f.height := by
  simp only [Viewport.row, timeViewport, Scale.place]
  ring

theorem mem_timeLines_iff {v : Viewport Rat} :
    q ∈ (values.map fun value => timeLine v time value points).flatten ↔
    ∃ value ∈ values, ∃ p i, points[i]? = some p ∧
      q = ⟨⟨v.column (Scalar.ofInt (time p).toInt), v.row (value p)⟩, i⟩ := by
  simp only [List.mem_flatten, List.mem_map, exists_exists_and_eq_and, mem_timeLine_iff]

/-- Lines over points of values that are not negative, in a graph that reaches from zero up to the
    largest of them. -/
structure Topped (values : List (β → Rat)) (points : List β) (top : Rat) : Prop where
  nonneg : ∀ p ∈ points, ∀ value ∈ values, 0 ≤ value p
  greatest : IsGreatest {x | x = 0.001 ∨ ∃ p ∈ points, ∃ value ∈ values, x = value p} top

/-- The points of a drawing are in the rows of the values that it shows of the points that they
    stand for, all of them inside of the graph, and some at its upper edge if the top is any higher
    than it has to be. -/
structure ShownInside (f : Frame Rat) (values : List (β → Rat)) (points : List β) (top : Rat)
    (drawing : Drawing Rat) : Prop where
  rows : ∀ (i : Nat) y, (∃ q ∈ drawing.points, q.index = i ∧ q.place.y = y) ↔
    ∃ p, points[i]? = some p ∧ ∃ value ∈ values, y = f.height - value p / top * f.height
  bounds : ∀ q ∈ drawing.points, 0 ≤ q.place.y ∧ q.place.y ≤ f.height
  reaches : 0.001 < top → ∃ q ∈ drawing.points, q.place.y = 0

/-- What becomes of points in a frame: fewer than two are not drawn, and more are shown inside of
    the graph. -/
structure LinesInside (f : Frame Rat) (values : List (β → Rat)) (points : List β) (top : Rat)
    (outcome : Except GraphError (Drawing Rat)) : Prop where
  noData : points.length < 2 → outcome = .error .noData
  drawn : 2 ≤ points.length → ∃ drawing,
    outcome = .ok drawing ∧ ShownInside f values points top drawing

namespace Topped

variable (h : Topped values points top) (tall : 0 < f.height)
include h

theorem positive : 0 < top := lt_of_lt_of_le (by norm_num) (h.greatest.2 (.inl rfl))

include tall

theorem proper : (f.timeViewport first last top).upward.Proper := ⟨h.positive, tall⟩

theorem shownInside {drawing : Drawing Rat}
    (lines : drawing.points =
      (values.map fun value =>
        timeLine (f.timeViewport first last top) time value points).flatten) :
    ShownInside f values points top drawing := by
  have rows : ∀ (i : Nat) y, (∃ q ∈ drawing.points, q.index = i ∧ q.place.y = y) ↔
      ∃ p, points[i]? = some p ∧ ∃ value ∈ values,
        y = (f.timeViewport first last top).row (value p) := by
    intro i y
    rw [lines]
    constructor
    · rintro ⟨q, member, rfl, rfl⟩
      obtain ⟨value, drawn, p, i, indexed, rfl⟩ := mem_timeLines_iff.mp member
      exact ⟨p, indexed, value, drawn, rfl⟩
    · rintro ⟨p, indexed, value, drawn, rfl⟩
      exact ⟨_, mem_timeLines_iff.mpr ⟨value, drawn, p, i, indexed, rfl⟩, rfl, rfl⟩
  constructor
  · simpa only [Frame.row_zero_to_top] using rows
  · intro q member
    obtain ⟨p, indexed, value, drawn, row⟩ := (rows q.index q.place.y).mp ⟨q, member, rfl, rfl⟩
    have listed := List.mem_of_getElem? indexed
    rw [row]
    exact Viewport.row_mem_Icc (h.proper tall) (h.nonneg p listed value drawn)
      (h.greatest.2 (.inr ⟨p, listed, value, drawn, rfl⟩))
  · intro high
    obtain ⟨p, listed, value, drawn, same⟩ := h.greatest.1.resolve_left high.ne'
    obtain ⟨i, indexed⟩ := List.mem_iff_getElem?.mp listed
    have edge : 0 = (f.timeViewport first last top).row (value p) :=
      same ▸ (Viewport.row_finish (h.proper tall).invertible).symm
    obtain ⟨q, member, -, row⟩ := (rows i 0).mpr ⟨p, indexed, value, drawn, edge⟩
    exact ⟨q, member, row⟩

theorem linesInside {outcome : Except GraphError (Drawing Rat)}
    (span : DrawnOver f (points.map time) outcome)
    (lines : ∀ drawing, outcome = .ok drawing → ∃ first last, drawing.points =
      (values.map fun value =>
        timeLine (f.timeViewport first last top) time value points).flatten) :
    LinesInside f values points top outcome := by
  cases span with
  | noData few =>
      rw [List.length_map] at few
      exact ⟨fun _ => rfl, fun many => absurd few many.not_gt⟩
  | @drawn _ _ _ drawing many =>
      rw [List.length_map] at many
      obtain ⟨first, last, points⟩ := lines drawing rfl
      exact ⟨fun few => absurd few many.not_gt, fun _ => ⟨drawing, rfl, h.shownInside tall points⟩⟩

end Topped

end Lines

/-! ## Charts -/

/-- What the lines of the chart show of a point. -/
def RaceChart.values (c : RaceChart Rat) : List (SharePoint Rat → Rat) :=
  (List.range c.races.length).map fun k p => p.share k

theorem RaceChart.points_of_draw {c : RaceChart Rat} {f : Frame Rat} {drawing : Drawing Rat}
    (drawn : c.draw f = .ok drawing) :
    ∃ first last, drawing.points = (c.values.map fun value =>
      timeLine (f.timeViewport first last c.top) SharePoint.time value c.points).flatten := by
  obtain ⟨⟨first, last⟩, -, drawn⟩ := exists_of_bind_eq_ok drawn
  obtain ⟨marks, -, drawn⟩ := exists_of_bind_eq_ok drawn
  cases drawn
  refine ⟨first.time, last.time, ?_⟩
  rw [values, List.map_map]
  rfl

theorem PopulationChart.points_of_draw {c : PopulationChart Rat} {f : Frame Rat}
    {drawing : Drawing Rat} (drawn : c.draw f = .ok drawing) :
    ∃ first last, drawing.points = ([PopulationPoint.value].map fun value =>
      timeLine (f.timeViewport first last c.top) PopulationPoint.time value c.points).flatten := by
  obtain ⟨⟨first, last⟩, -, drawn⟩ := exists_of_bind_eq_ok drawn
  obtain ⟨mark, -, drawn⟩ := exists_of_bind_eq_ok drawn
  cases drawn
  refine ⟨first.time, last.time, ?_⟩
  rw [List.map_singleton, List.flatten_singleton]
  rfl

section Charts

variable {s : Settings}

theorem RaceChart.topped {c ready : RaceChart Rat} (accepted : c.withSettings s = .ok ready)
    (nonneg : ∀ stat ∈ c.source.mode.stats.records, stat.CountsNonneg) :
    Topped ready.values ready.points ready.top := by
  constructor
  · intro p listed value drawn
    obtain ⟨stat, recorded, ofStat⟩ := exists_snapshot accepted listed
    obtain ⟨-, ofTotal, -⟩ := SharePoint.counts_of_ofStat ofStat (free_filter s _)
    obtain ⟨k, -, rfl⟩ := List.mem_map.mp drawn
    exact SharePoint.share_nonneg
      (SharePoint.counts_nonneg ofStat (free_filter s _) (nonneg stat recorded))
      (ofTotal.nonneg (nonneg stat recorded)) k
  · simpa only [values, List.mem_map, List.mem_range, exists_exists_and_eq_and] using
      isGreatest_top accepted

theorem PopulationChart.topped {c ready : PopulationChart Rat}
    (accepted : c.withSettings s = .ok ready)
    (nonneg : ∀ stat ∈ c.source.mode.stats.records, ∀ number ∈ stat.snapshot.data, 0 ≤ number) :
    Topped [PopulationPoint.value] ready.points ready.top := by
  constructor
  · intro p listed value drawn
    obtain ⟨stat, recorded, season, a, is⟩ := exists_snapshot accepted listed
    rw [List.mem_singleton.mp drawn]
    exact is.value_nonneg (nonneg stat recorded)
  · simpa only [List.mem_singleton, exists_eq_left] using isGreatest_top accepted

/-- Over data without negative numbers, both charts have the largest of their values at the top of
    the graph and their lines inside of it, whatever is selected. There are no games per day at the
    start of a season or before. -/
theorem lines_inside_graph (source : ChartSource Rat) (s : Settings)
    (nonneg : ∀ stat ∈ source.mode.stats.records, ∀ number ∈ stat.snapshot.data, 0 ≤ number)
    (f : Frame Rat) (tall : 0 < f.height) :
    (∀ c ready : RaceChart Rat, c.source = source → c.withSettings s = .ok ready →
      IsGreatest {x | x = 0.001 ∨ ∃ p ∈ ready.points, ∃ k < ready.races.length, x = p.share k}
        ready.top ∧
        0 < ready.top ∧ LinesInside f ready.values ready.points ready.top (ready.draw f)) ∧
    (∀ c ready : PopulationChart Rat, c.source = source → c.withSettings s = .ok ready →
      IsGreatest {x | x = 0.001 ∨ ∃ p ∈ ready.points, x = p.value} ready.top ∧
        0 < ready.top ∧
        LinesInside f [PopulationPoint.value] ready.points ready.top (ready.draw f) ∧
        ∀ p ∈ ready.points, ∃ stat ∈ source.mode.stats.records, ∃ season a,
          PopulationChart.IsPoint source.seasons (Filter.ofControls s source.defaultVersion)
            (PopulationMeasure.ofControls s) stat season a p ∧
          (stat.time ≤ season.start → p.gamesPerDay = 0)) := by
  constructor
  · rintro c ready rfl accepted
    have topped :=
      RaceChart.topped accepted fun stat recorded =>
        Stat.countsNonneg_of_data (nonneg stat recorded)
    have inside := topped.linesInside tall (ready.drawnOver f) fun _ => RaceChart.points_of_draw
    exact ⟨RaceChart.isGreatest_top accepted, topped.positive, inside⟩
  · rintro c ready rfl accepted
    have topped := PopulationChart.topped accepted nonneg
    have inside :=
      topped.linesInside tall (ready.drawnOver f) fun _ => PopulationChart.points_of_draw
    refine ⟨PopulationChart.isGreatest_top accepted, topped.positive, inside, fun p listed => ?_⟩
    obtain ⟨stat, recorded, season, a, is⟩ := PopulationChart.exists_snapshot accepted listed
    exact ⟨stat, recorded, season, a, is, is.gamesPerDay_eq_zero⟩

/-- Games per day of two races, the first snapshot a day before the season and the second two days
    after its start. -/
theorem lines_inside_graph_two_races :
    let stat (time : Int64) : Stat Rat :=
      ⟨.ofIds 4 ⟨[0], [0], [0], [0, 1]⟩, ⟨time, 201, 28, 0, 1, time, #[10, 6, 4, 0, 30, 7, 5, 0]⟩⟩
    let catalog := { Catalog.empty with ranked := ⟨[], [], [], [1, 0]⟩ }
    let season : Season := ⟨28, 1, 2016, 86400, 864000, "#ff6666"⟩
    let source : ChartSource Rat := ⟨⟨201, ⟨[stat 0, stat 259200]⟩⟩, catalog, .ofList [season], 0⟩
    let s := Settings.empty.set Control.yAxis "g"
    let f : Frame Rat := .ofSize .standard 20 1000 300
    (∀ stat ∈ source.mode.stats.records, ∀ number ∈ stat.snapshot.data, 0 ≤ number) ∧ 0 < f.height ∧
      (∃ ready drawing, (RaceChart.new source).withSettings s = .ok ready ∧ ready.top = 75 ∧
        ready.draw f = .ok drawing ∧ ∃ q ∈ drawing.points, q.place.y = 0) ∧
      ∃ ready drawing p, (PopulationChart.new source).withSettings s = .ok ready ∧ ready.top = 11 ∧
        ready.draw f = .ok drawing ∧ (∃ q ∈ drawing.points, q.place.y = 0) ∧
        ready.points.head? = some p ∧ p.gamesPerDay = 0 := by
  intro stat catalog season source s f
  have nonneg : ∀ stat ∈ source.mode.stats.records, ∀ number ∈ stat.snapshot.data, 0 ≤ number := by
    decide +kernel
  have tall : 0 < f.height := by decide +kernel
  obtain ⟨races, population⟩ := lines_inside_graph source s nonneg f tall
  refine ⟨nonneg, tall, ?_, ?_⟩
  · have computed : ((RaceChart.new source).withSettings s).map
        (fun ready => (ready.points.length, ready.top)) = .ok (2, 75) := by decide +kernel
    obtain ⟨ready, accepted, shown⟩ := exists_of_map_eq_ok computed
    obtain ⟨length, top⟩ := Prod.mk.inj shown
    obtain ⟨-, -, inside⟩ := races _ ready rfl accepted
    obtain ⟨drawing, drawn, shows⟩ := inside.drawn length.ge
    exact ⟨ready, drawing, accepted, top, drawn, shows.reaches (by rw [top]; norm_num)⟩
  · have computed : ((PopulationChart.new source).withSettings s).map
        (fun ready => (ready.points.map PopulationPoint.time, ready.top)) =
          .ok ([0, 259200], 11) := by decide +kernel
    have known : ∀ stat ∈ source.mode.stats.records,
        source.seasons.get? stat.season = some season := by
      decide +kernel
    obtain ⟨ready, accepted, shown⟩ := exists_of_map_eq_ok computed
    obtain ⟨times, top⟩ := Prod.mk.inj shown
    obtain ⟨-, -, inside, points⟩ := population _ ready rfl accepted
    have length : ready.points.length = 2 := by
      rw [← List.length_map, times]
      rfl
    obtain ⟨drawing, drawn, shows⟩ := inside.drawn length.ge
    obtain ⟨p, rest, split⟩ := List.exists_cons_of_length_pos (length ▸ Nat.zero_lt_two)
    have first : p.time = 0 := by
      rw [split, List.map_cons] at times
      exact (List.cons.inj times).1
    obtain ⟨stat, recorded, season', a, is, notBegun⟩ := points p (split ▸ List.mem_cons_self)
    cases (known stat recorded).symm.trans is.known
    rw [← is.time, first] at notBegun
    exact ⟨ready, drawing, p, accepted, top, drawn,
      shows.reaches (by rw [top]; norm_num), by rw [split]; rfl,
      notBegun (by decide)⟩

end Charts

end LadderAtlas
