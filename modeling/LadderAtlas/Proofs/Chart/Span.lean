import LadderAtlas.Proofs.Chart.Points
import LadderAtlas.Proofs.Graph.Columns

/-! # The time that charts span

A time chart goes from the time of its first point to that of its last, and refuses to draw fewer
points than two. That is asked before anything is drawn, and nothing fails later on. That there are
two points does not make two times of them: snapshots that were taken at one time are drawn over no
time at all, and then there is no place for any of them.
-/

namespace LadderAtlas

/-! ## Drawings -/

section Drawing

variable {α β : Type} [Scalar α]

theorem mem_timeLine_iff {v : Viewport α} {time : β → Int64} {value : β → α} {points : List β}
    {q : HoverPoint α} :
    q ∈ timeLine v time value points ↔ ∃ p i, points[i]? = some p ∧
      q = ⟨⟨v.column (Scalar.ofInt (time p).toInt), v.row (value p)⟩, i⟩ := by
  simp only [timeLine, List.mem_map, Prod.exists, List.mk_mem_zipIdx_iff_getElem?, eq_comm (a := q)]

theorem mem_timeLine {v : Viewport α} {time : β → Int64} {value : β → α} {points : List β}
    {p : HoverPoint α} (member : p ∈ timeLine v time value points) :
    ∃ t, (points.map time)[p.index]? = some t ∧ p.place.x = v.column (Scalar.ofInt t.toInt) := by
  obtain ⟨q, i, indexed, rfl⟩ := mem_timeLine_iff.mp member
  exact ⟨time q, by rw [List.getElem?_map, indexed]; rfl, rfl⟩

/-- How a time chart is drawn in a frame, by the times of its points. -/
inductive DrawnOver (f : Frame α) (times : List Int64) : Except GraphError (Drawing α) → Prop where
  | noData (few : times.length < 2) : DrawnOver f times (.error .noData)
  | drawn {first last : Int64} {top : α} {drawing : Drawing α} (many : 2 ≤ times.length)
      (starts : times.head? = some first) (ends : times.getLast? = some last)
      (columns : ∀ p ∈ drawing.points, ∃ t, times[p.index]? = some t ∧
        p.place.x = (f.timeViewport first last top).column (Scalar.ofInt t.toInt)) :
      DrawnOver f times (.ok drawing)

/-- There is a span exactly of two points or more. -/
theorem span?_cases (time : β → Int64) (points : List β) :
    span? points = .error .noData ∧ (points.map time).length < 2 ∨
      ∃ first last, span? points = .ok (first, last) ∧ points ≠ [] ∧ 2 ≤ (points.map time).length ∧
        (points.map time).head? = some (time first) ∧
        (points.map time).getLast? = some (time last) := by
  match points with
  | [] => exact .inl ⟨rfl, by simp⟩
  | [p] => exact .inl ⟨rfl, by simp⟩
  | p :: q :: rest =>
    refine .inr ⟨p, (q :: rest).getLast (by simp), rfl, by simp, by simp, rfl, ?_⟩
    rw [List.getLast?_map, List.getLast?_cons_cons, List.getLast?_eq_getLast_of_ne_nil (by simp)]
    rfl

/-- Whatever a chart draws, it asks for the span first. -/
theorem drawnOver_of_span {f : Frame α} {time : β → Int64} {points : List β}
    {draw : β × β → Except GraphError (Drawing α)}
    (drawn : points ≠ [] → ∀ first last, ∃ top drawing, draw (first, last) = .ok drawing ∧
      ∀ p ∈ drawing.points, ∃ t, (points.map time)[p.index]? = some t ∧
        p.place.x = (f.timeViewport (time first) (time last) top).column (Scalar.ofInt t.toInt)) :
    DrawnOver f (points.map time) (span? points >>= draw) := by
  rcases span?_cases time points with ⟨none, few⟩ | ⟨first, last, span, some, many, starts, ends⟩
  · rw [none]
    exact .noData few
  · obtain ⟨top, drawing, result, columns⟩ := drawn some first last
    rw [span]
    change DrawnOver f _ (draw (first, last))
    rw [result]
    exact .drawn many starts ends columns

theorem timeLine_ne_nil {v : Viewport α} {time : β → Int64} {value : β → α} {points : List β}
    (some : points ≠ []) : timeLine v time value points ≠ [] := by
  rw [timeLine, Ne, List.map_eq_nil_iff, List.zipIdx_eq_nil_iff]
  exact some

theorem path?_eq_ok {points : List (Point α)} (some : points ≠ []) (dx dy : α) :
    Point.path? points dx dy = .ok (points.map fun p => p.offset dx dy) := by
  rw [Point.path?, if_neg (by rwa [List.isEmpty_iff])]

theorem mem_lines {v : Viewport α} {time : β → Int64} {points : List β}
    {lines : List (List (HoverPoint α))}
    (are : ∀ line ∈ lines, ∃ value, line = timeLine v time value points) {p : HoverPoint α}
    (member : p ∈ lines.flatten) :
    ∃ t, (points.map time)[p.index]? = some t ∧ p.place.x = v.column (Scalar.ofInt t.toInt) := by
  obtain ⟨line, listed, inside⟩ := List.mem_flatten.mp member
  obtain ⟨value, rfl⟩ := are line listed
  exact mem_timeLine inside

end Drawing

section Charts

variable {α : Type} [Scalar α]

theorem exists_line? (f : Frame α) (style : Style α) (width : α) {line : List (HoverPoint α)}
    (some : line ≠ []) : ∃ mark, f.line? style width (line.map (·.place)) = .ok mark := by
  have path : line.map (·.place) ≠ [] := by rwa [Ne, List.map_eq_nil_iff]
  rw [Frame.line?, path?_eq_ok path]
  exact ⟨_, rfl⟩

theorem RaceChart.exists_lineMarks (c : RaceChart α) (f : Frame α) (race : Id)
    {line : List (HoverPoint α)} (some : line ≠ []) :
    ∃ marks, c.lineMarks f race line = .ok marks := by
  obtain ⟨mark, drawn⟩ := exists_line? f (.color (Format.raceColor race)) 2 some
  simp only [lineMarks, drawn, bind, Except.bind, pure, Except.pure]
  split <;> exact ⟨_, rfl⟩

theorem RaceChart.drawnOver (c : RaceChart α) (f : Frame α) :
    DrawnOver f (c.points.map SharePoint.time) (c.draw f) := by
  refine drawnOver_of_span fun some first last => ?_
  let view := f.timeViewport first.time last.time c.top
  have lines : ∀ line ∈ c.lines view, ∃ value,
      line = timeLine view SharePoint.time value c.points := by
    intro line member
    obtain ⟨k, -, rfl⟩ := List.mem_map.mp member
    exact ⟨_, rfl⟩
  have drawn : ∀ entry ∈ (c.lines view).zip c.races,
      ∃ marks, c.lineMarks f entry.2 entry.1 = .ok marks := by
    intro entry member
    obtain ⟨value, line⟩ := lines entry.1 (List.of_mem_zip member).1
    exact c.exists_lineMarks f entry.2 (line ▸ timeLine_ne_nil some)
  obtain ⟨marks, hmarks⟩ := exists_mapM_eq_ok drawn
  refine ⟨c.top, ⟨marks.flatten ++ f.yAxis view .percent ++ f.xAxis view .year c.source.seasons,
    (c.lines view).flatten⟩, ?_, fun p member => mem_lines lines member⟩
  exact bind_of_eq_ok hmarks _

theorem LeagueChart.drawnOver (c : LeagueChart α) (f : Frame α) :
    DrawnOver f (c.points.map SharePoint.time) (c.draw f) := by
  refine drawnOver_of_span fun some first last => ?_
  let view := f.timeViewport first.time last.time 100
  have lines : ∀ line ∈ c.lines view, ∃ value,
      line = timeLine view SharePoint.time value c.points := by
    intro line member
    obtain ⟨k, -, rfl⟩ := List.mem_map.mp member
    exact ⟨_, rfl⟩
  -- An area reaches down to the bottom, so its outline is never empty.
  have drawn : ∀ entry ∈ ((c.lines view).zip c.leagues).reverse,
      ∃ mark, areaMark f entry.2 entry.1 = .ok mark := by
    intro entry _
    rw [areaMark, Frame.area?, path?_eq_ok (List.cons_ne_nil _ _)]
    exact ⟨_, rfl⟩
  obtain ⟨marks, hmarks⟩ := exists_mapM_eq_ok drawn
  refine ⟨100, ⟨marks ++ f.yAxis view .percent ++ f.xAxis view .year c.source.seasons,
    (c.lines view).flatten⟩, ?_, fun p member => mem_lines lines member⟩
  exact bind_of_eq_ok hmarks _

theorem PopulationChart.drawnOver (c : PopulationChart α) (f : Frame α) :
    DrawnOver f (c.points.map PopulationPoint.time) (c.draw f) := by
  refine drawnOver_of_span fun some first last => ?_
  let view := f.timeViewport first.time last.time c.top
  have path : c.line view ≠ [] := timeLine_ne_nil some
  obtain ⟨mark, hmark⟩ := exists_line? f (.color lineColor) 2 path
  refine ⟨c.top, ⟨mark :: (f.yAxis view .int ++ f.xAxis view .year c.source.seasons), c.line view⟩,
    ?_, fun p member => mem_timeLine member⟩
  exact bind_of_eq_ok hmark _

end Charts

/-! ## Spans -/

/-- The first time and the last are one double. -/
def Flat (times : List Int64) : Prop :=
  times.head?.map Binary64.ofTime = times.getLast?.map Binary64.ofTime

/-- What becomes of points in a frame, by the times that they were taken at. -/
structure Spanned (f : Frame Float) (times : List Int64)
    (outcome : Except GraphError (Drawing Float)) :
    Prop where
  noData : ∀ e, outcome = .error e ↔ e = .noData ∧ times.length < 2
  finite : f.width.isFinite = true → ¬ Flat times → ∀ drawing, outcome = .ok drawing →
    ∀ p ∈ drawing.points, p.place.x.isFinite = true
  flat : Flat times → ∀ drawing, outcome = .ok drawing → ∀ p ∈ drawing.points,
    p.place.x.isNaN = true

theorem head?_le_of_pairwise {times : List Int64} (inOrder : times.Pairwise (· ≤ ·))
    {first t : Int64} (starts : times.head? = some first) (member : t ∈ times) : first ≤ t := by
  obtain ⟨rest, rfl⟩ := List.head?_eq_some_iff.mp starts
  rcases List.mem_cons.mp member with rfl | later
  · exact Int64.le_refl t
  · exact (List.pairwise_cons.mp inOrder).1 t later

theorem le_getLast?_of_pairwise {times : List Int64} (inOrder : times.Pairwise (· ≤ ·))
    {last t : Int64} (ends : times.getLast? = some last) (member : t ∈ times) : t ≤ last := by
  obtain ⟨before, rfl⟩ := List.getLast?_eq_some_iff.mp ends
  rcases List.mem_append.mp member with earlier | same
  · exact (List.pairwise_append.mp inOrder).2.2 t earlier last (List.mem_singleton_self last)
  · rw [List.mem_singleton.mp same]
    exact Int64.le_refl last

theorem DrawnOver.spanned {f : Frame Float} {times : List Int64}
    {outcome : Except GraphError (Drawing Float)} (h : DrawnOver f times outcome)
    (inOrder : times.Pairwise (· ≤ ·)) : Spanned f times outcome := by
  cases h with
  | noData few =>
      refine ⟨fun e => ?_, fun _ _ => nofun, fun _ => nofun⟩
      constructor
      · rintro ⟨⟩
        exact ⟨rfl, few⟩
      · rintro ⟨rfl, -⟩
        rfl
  | @drawn first last top drawing many starts ends columns =>
      have flat : Flat times ↔ Binary64.ofTime first = Binary64.ofTime last := by
        rw [Flat, starts, ends, Option.map_some, Option.map_some, Option.some_inj]
      refine ⟨fun e => ?_, ?_, ?_⟩
      · constructor
        · rintro ⟨⟩
        · rintro ⟨-, few⟩
          omega
      · rintro wide apart _ ⟨⟩ p member
        obtain ⟨t, listed, column⟩ := columns p member
        have taken := List.mem_of_getElem? listed
        rw [column]
        exact Frame.column_isFinite (head?_le_of_pairwise inOrder starts taken)
          (le_getLast?_of_pairwise inOrder ends taken) (fun same => apart (flat.mpr same)) wide
      · rintro same _ ⟨⟩ p member
        obtain ⟨t, listed, column⟩ := columns p member
        have taken := List.mem_of_getElem? listed
        rw [column]
        exact Frame.column_isNaN (head?_le_of_pairwise inOrder starts taken)
          (le_getLast?_of_pairwise inOrder ends taken) (flat.mp same)

/-- The charts of a mode whose snapshots are in order of time, whatever is selected: two points are
    enough to be drawn, and they have columns exactly if the first time and the last are different
    doubles. -/
theorem spanned_of_inOrder (source : ChartSource Float) (s : Settings) (f : Frame Float)
    (inOrder : (source.mode.stats.records.map Stat.time).Pairwise (· ≤ ·)) :
    (∀ c ready : RaceChart Float, c.source = source → c.withSettings s = .ok ready →
      Spanned f (ready.points.map SharePoint.time) (ready.draw f)) ∧
    (∀ c ready : LeagueChart Float, c.source = source → c.withSettings s = .ok ready →
      Spanned f (ready.points.map SharePoint.time) (ready.draw f)) ∧
    (∀ c ready : PopulationChart Float, c.source = source → c.withSettings s = .ok ready →
      Spanned f (ready.points.map PopulationPoint.time) (ready.draw f)) := by
  refine ⟨?_, ?_, ?_⟩
  · rintro c ready rfl accepted
    exact (ready.drawnOver f).spanned (inOrder.sublist (RaceChart.times_sublist accepted))
  · rintro c ready rfl accepted
    exact (ready.drawnOver f).spanned (inOrder.sublist (LeagueChart.times_sublist accepted))
  · rintro c ready rfl accepted
    exact (ready.drawnOver f).spanned (inOrder.sublist (PopulationChart.times_sublist accepted))

/-- Snapshots of one race, numbered from one on and taken at the given times. -/
def ChartSource.ofTimes (times : List Int64) : ChartSource Float :=
  let stat (time : Int64) (number : Nat) : Stat Float :=
    ⟨.ofIds 4 ⟨[0], [0], [0], [0]⟩, ⟨.ofNat number, 201, 28, 0, 1, time, #[10, 6, 4, 0]⟩⟩
  let stats := (times.zipIdx 1).map fun (time, number) => stat time number
  ⟨⟨201, ⟨stats⟩⟩, { Catalog.empty with ranked := ⟨[], [], [], [0]⟩ }, .ofList [], 0⟩

/-- A mode of three snapshots, the last two of one day. -/
theorem spanned_of_inOrder_days :
    let source := ChartSource.ofTimes [86400, 172800, 172800]
    let f : Frame Float := .ofSize .standard 20 1000 300
    (source.mode.stats.records.map Stat.time).Pairwise (· ≤ ·) ∧
      ∃ ready, (RaceChart.new source).withSettings .empty = .ok ready ∧
        ready.points.map SharePoint.time = [86400, 172800, 172800] ∧
        Spanned f (ready.points.map SharePoint.time) (ready.draw f) := by
  intro source f
  have inOrder : (source.mode.stats.records.map Stat.time).Pairwise (· ≤ ·) := by decide +kernel
  have times : ((RaceChart.new source).withSettings .empty).map
      (fun ready => ready.points.map SharePoint.time) = .ok [86400, 172800, 172800] := by
        decide +kernel
  refine ⟨inOrder, ?_⟩
  obtain ⟨race, -, -⟩ := spanned_of_inOrder source .empty f inOrder
  cases accepted : (RaceChart.new source).withSettings .empty with
  | error e =>
      rw [accepted] at times
      cases times
  | ok ready =>
      rw [accepted] at times
      exact ⟨ready, rfl, Except.ok.inj times, race _ ready rfl accepted⟩

/-- Two snapshots of one time are drawn, and neither has a column. -/
theorem drawn_without_columns :
    let source := ChartSource.ofTimes [86400, 86400]
    let f : Frame Float := .ofSize .standard 20 1000 300
    (source.mode.stats.records.map Stat.time).Pairwise (· ≤ ·) ∧
      (do
        let ready ← (RaceChart.new source).withSettings .empty
        let drawing ← ready.draw f
        return drawing.points.map fun p => p.place.x.isNaN) = Except.ok [true, true] := by
  decide +kernel

end LadderAtlas
