import LadderAtlas.Graph.Axes
import LadderAtlas.Proofs.Graph.Viewports

/-! # The colours of the baseline

The baseline of the time axis is painted season by season. Each stretch begins where the one before
it ends, and goes on past its own end, where the next one is painted over it. So of all the
stretches at a column the last one is to be seen there, and it is that of the season which the
column is in: those painted later begin further right.
-/

namespace LadderAtlas

/-! ## Seasons in order of time -/

theorem Season.pairwise_of_isChain {seasons : List Season}
    (spans : ∀ s ∈ seasons, s.start ≤ s.finish)
    (disjoint : seasons.IsChain fun s next => s.finish ≤ next.start) :
    seasons.Pairwise fun s later => s.finish ≤ later.start := by
  induction seasons with
  | nil => exact .nil
  | cons s rest ih =>
      have restSpans : ∀ r ∈ rest, r.start ≤ r.finish :=
        fun r member => spans r (List.mem_cons_of_mem s member)
      cases rest with
      | nil => exact List.pairwise_singleton _ s
      | cons next more =>
          obtain ⟨before, further⟩ := List.isChain_cons_cons.mp disjoint
          have ordered := ih restSpans further
          refine List.pairwise_cons.mpr ⟨fun later member => ?_, ordered⟩
          rcases List.mem_cons.mp member with rfl | beyond
          · exact before
          · have after := (List.pairwise_cons.mp ordered).1 later beyond
            have span := restSpans next List.mem_cons_self
            exact Int64.le_trans (Int64.le_trans before span) after

theorem Season.overlaps_iff {s : Season} {first last : Rat} :
    s.overlaps first last = true ↔ first ≤ s.finish.toInt ∧ (s.start.toInt : Rat) ≤ last := by
  rw [overlaps, Bool.and_eq_true, decide_eq_true_eq, decide_eq_true_eq]
  rfl

namespace Frame

variable {f : Frame Rat} {v : Viewport Rat} {kind : XAxis} {x left : Rat}

/-! ## Level lines -/

/-- Whether a mark is a level line at the bottom of the graph area that covers a column. -/
def covers (f : Frame Rat) (x : Rat) : Mark Rat → Bool
  | .stroke [p, q] _ _ =>
    decide (p.y = f.height + f.edges.top) && decide (q.y = f.height + f.edges.top)
      && decide (p.x ≤ x + f.edges.left) && decide (x + f.edges.left ≤ q.x)
  | _ => false

@[simp]
theorem covers_level (f : Frame Rat) (x : Rat) (color : String) (width left right : Rat) :
    f.covers x (f.segment color width ⟨left, f.height⟩ ⟨right, f.height⟩) =
      decide (left ≤ x ∧ x ≤ right) := by
  simp [covers, segment, locate, Point.offset]

theorem covers_upright (f : Frame Rat) (x : Rat) (color : String) (width : Rat) {p q : Point Rat}
    (upright : p.y ≠ q.y) : f.covers x (f.segment color width p q) = false := by
  simp only [covers, segment, locate, Point.offset, add_left_inj, Bool.and_eq_false_imp,
    Bool.and_eq_true, decide_eq_true_eq, and_imp]
  intro first second
  exact absurd (first.trans second.symm) upright

@[simp]
theorem covers_timeLabel (f : Frame Rat) (x : Rat) (text : String) (place : Rat) :
    f.covers x (f.timeLabel text place) = false := rfl

theorem covers_tick (f : Frame Rat) (x : Rat) (width place : Rat) {reach : Rat} (tall : reach ≠ 0) :
    f.covers x (f.tick width reach place) = false := by
  refine covers_upright f x _ width ?_
  simp only
  intro same
  exact tall (by linarith)

/-! ## What stands on the baseline -/

theorem covers_of_mem_monthMarks {year : Int} {month : Nat} {m : Mark Rat}
    (member : m ∈ f.monthMarks v kind year month) : f.covers x m = false := by
  unfold monthMarks at member
  split at member
  · simp only [List.mem_append] at member
    rcases member with tick | name
    · split at tick
      · rw [List.mem_singleton.mp tick]
        exact covers_tick f x 1 _ (by norm_num)
      · cases tick
    · split at name
      · rw [List.mem_singleton.mp name]
        exact covers_timeLabel f x _ _
      · cases name
  · cases member

theorem covers_of_mem_yearMarks {year : Int} {m : Mark Rat} (member : m ∈ f.yearMarks v kind year) :
    f.covers x m = false := by
  rw [yearMarks, List.mem_append, List.mem_append] at member
  rcases member with (tick | months) | label
  · unfold yearTick at tick
    split at tick
    · split at tick
      · rw [List.mem_singleton.mp tick]
        exact covers_tick f x 2 _ (by norm_num)
      · cases tick
    · cases tick
  · obtain ⟨k, -, inMonth⟩ := List.mem_flatMap.mp months
    exact covers_of_mem_monthMarks inMonth
  · unfold yearLabel at label
    split at label
    · rw [List.mem_singleton.mp label]
      exact covers_timeLabel f x _ _
    · cases label

theorem covers_of_mem_calendarTicks {m : Mark Rat} (member : m ∈ f.calendarTicks v kind) :
    f.covers x m = false := by
  unfold calendarTicks at member
  split at member
  · obtain ⟨year, -, inYear⟩ := List.mem_flatMap.mp member
    exact covers_of_mem_yearMarks inYear
  · cases member

theorem covers_of_mem_eventMarks {event : String × Date} {m : Mark Rat}
    (member : m ∈ f.eventMarks v event) :
    f.covers x m = false := by
  unfold eventMarks at member
  split at member
  · split at member
    · cases member
    · rcases List.mem_cons.mp member with rfl | label
      · refine covers_upright f x _ 2 ?_
        simp only
        intro same
        linarith
      · rw [List.mem_singleton.mp label]
        rfl
  · cases member

/-! ## Stretches -/

/-- The column where the stretch of a season ends, its margin apart. -/
def ending (f : Frame Rat) (v : Viewport Rat) (season : Season) : Rat :=
  Scalar.min (v.column (Scalar.ofInt season.finish.toInt)) f.width

/-- The part of the baseline that is painted for a season, from a column on. -/
def stretch (f : Frame Rat) (v : Viewport Rat) (left : Rat) (season : Season) : Mark Rat :=
  f.segment season.color 2 ⟨left, f.height⟩ ⟨f.ending v season + f.margin, f.height⟩

/-- The column up to which seasons have painted the baseline from a column on. -/
def reached (f : Frame Rat) (v : Viewport Rat) (left : Rat) : List Season → Rat
  | [] => left
  | season :: rest =>
    if season.overlaps v.across.start v.across.finish then f.reached v (f.ending v season) rest
    else f.reached v left rest

theorem baseline_append (f : Frame Rat) (v : Viewport Rat) (kind : XAxis) (left : Rat)
    (earlier later : List Season) :
    f.baseline v kind left (earlier ++ later) =
      f.baseline v kind left earlier ++ f.baseline v kind (f.reached v left earlier) later := by
  induction earlier generalizing left with
  | nil => rfl
  | cons season rest ih =>
      rw [List.cons_append, baseline, baseline, reached]
      split
      · simp only [ih, ending, List.cons_append, List.append_assoc]
      · exact ih left

theorem covers_of_mem_seasonLabel {season : Season} {right : Rat} {m : Mark Rat}
    (member : m ∈ f.seasonLabel season left right) : f.covers x m = false := by
  simp only [seasonLabel] at member
  split at member
  · rw [List.mem_singleton.mp member]
    exact covers_timeLabel f x _ _
  · cases member

/-- A season in view is painted, and then those after it. -/
theorem baseline_cons {season : Season} (rest : List Season)
    (inView : season.overlaps v.across.start v.across.finish = true) :
    f.baseline v kind left (season :: rest) =
      [f.stretch v left season] ++
      ((if kind = .season then f.seasonLabel season left (f.ending v season) else []) ++
        f.baseline v kind (f.ending v season) rest) := by
  rw [baseline, if_pos inView]
  rfl

theorem filter_covers_baseline_cons {season : Season} (rest : List Season)
    (inView : season.overlaps v.across.start v.across.finish = true) :
    (f.baseline v kind left (season :: rest)).filter (f.covers x) =
      [f.stretch v left season].filter (f.covers x) ++
        (f.baseline v kind (f.ending v season) rest).filter (f.covers x) := by
  have label :
      (if kind = .season then f.seasonLabel season left (f.ending v season) else []).filter
        (f.covers x) = [] := by
    rw [List.filter_eq_nil_iff]
    intro m member
    split at member
    · simp [covers_of_mem_seasonLabel member]
    · cases member
  rw [baseline_cons rest inView, List.filter_append, List.filter_append, label, List.nil_append]

/-- Seasons that end right of a column do not paint it, if they begin right of it. -/
theorem filter_covers_baseline_of_lt {seasons : List Season} (begun : x < left)
    (ended : ∀ s ∈ seasons, x < f.ending v s) :
    (f.baseline v kind left seasons).filter (f.covers x) = [] := by
  induction seasons generalizing left with
  | nil => rfl
  | cons season rest ih =>
      have later : ∀ s ∈ rest, x < f.ending v s :=
        fun s member => ended s (List.mem_cons_of_mem season member)
      by_cases inView : season.overlaps v.across.start v.across.finish = true
      · rw [filter_covers_baseline_cons rest inView, ih (ended season List.mem_cons_self) later]
        simp [stretch, begun.not_ge]
      · rw [baseline, if_neg inView]
        exact ih begun later

/-- Seasons that end left of a column do not reach beyond it. -/
theorem reached_le {seasons : List Season} (begun : left ≤ x)
    (ended : ∀ s ∈ seasons, f.ending v s ≤ x) :
    f.reached v left seasons ≤ x := by
  induction seasons generalizing left with
  | nil => exact begun
  | cons season rest ih =>
      have earlier : ∀ s ∈ rest, f.ending v s ≤ x :=
        fun s member => ended s (List.mem_cons_of_mem season member)
      rw [reached]
      split
      · exact ih (ended season List.mem_cons_self) earlier
      · exact ih begun earlier

/-- Where the seasons before have ended and those after have not, the last stretch is that of the
    season in between. -/
theorem getLast?_covers_baseline {season : Season} {earlier later : List Season}
    (margin : 0 ≤ f.margin) (inView : season.overlaps v.across.start v.across.finish = true)
    (begun : left ≤ x) (ended : ∀ s ∈ earlier, f.ending v s ≤ x) (lasting : x < f.ending v season)
    (unended : ∀ s ∈ later, x < f.ending v s) :
    ((f.baseline v kind left (earlier ++ season :: later)).filter (f.covers x)).getLast? =
      some (f.stretch v (f.reached v left earlier) season) := by
  -- The stretch begins where the earlier seasons have come to, which is not beyond the column, and
  -- the later ones begin where it ends.
  have start : f.reached v left earlier ≤ x := reached_le begun ended
  have covered : f.covers x (f.stretch v (f.reached v left earlier) season) = true := by
    rw [stretch, covers_level, decide_eq_true_eq]
    exact ⟨start, by linarith⟩
  rw [baseline_append, List.filter_append, filter_covers_baseline_cons later inView,
    filter_covers_baseline_of_lt lasting unended, List.append_nil, List.filter_cons_of_pos covered,
    List.filter_nil,
    List.getLast?_concat]

/-! ## Times -/

/-- The column of a time of a season is left of where its stretch ends. -/
theorem lt_ending (proper : v.across.Proper) {season : Season} {t : Rat}
    (before : t < season.finish.toInt) (inside : v.column t < f.width) :
    v.column t < f.ending v season := by
  rw [ending, Scalar.min_eq]
  exact lt_min (proper.place_lt_place_iff.mpr before) inside

theorem ending_le (proper : v.across.Proper) {season : Season} {t : Rat}
    (after : season.finish.toInt ≤ t) :
    f.ending v season ≤ v.column t := by
  rw [ending, Scalar.min_eq]
  exact (min_le_left _ _).trans (proper.place_le_place_iff.mpr after)

theorem filter_covers_xAxis (f : Frame Rat) (v : Viewport Rat) (kind : XAxis)
    (seasons : Seasons) (x : Rat) :
    (f.xAxis v kind seasons).filter (f.covers x) =
      (f.baseline v kind (-f.margin) seasons.sorted).filter (f.covers x) := by
  have ticks : (f.calendarTicks v kind).filter (f.covers x) = [] := by
    rw [List.filter_eq_nil_iff]
    intro m member
    simp [covers_of_mem_calendarTicks member]
  have markers : (events.flatMap (f.eventMarks v)).filter (f.covers x) = [] := by
    rw [List.filter_eq_nil_iff]
    intro m member
    obtain ⟨event, -, ofEvent⟩ := List.mem_flatMap.mp member
    simp [covers_of_mem_eventMarks ofEvent]
  rw [xAxis, List.filter_append, List.filter_append, ticks, markers, List.append_nil,
    List.append_nil]

/-- The season that a time is in is in view and painted, and of all the level lines that cover the
    column of the time, the one painted last is that of the season. -/
theorem season_painted_last (f : Frame Rat) (v : Viewport Rat) (kind : XAxis) (seasons : Seasons)
    (margin : 0 ≤ f.margin) (range : v.across.start < v.across.finish)
    (length : 0 < v.across.length) (spans : ∀ s ∈ seasons.sorted, s.start ≤ s.finish)
    (disjoint : seasons.sorted.IsChain fun s next => s.finish ≤ next.start)
    {season : Season} (listed : season ∈ seasons.sorted) {t : Rat} (shown : v.across.start ≤ t)
    (ends : t < v.across.finish) (begun : season.start.toInt ≤ t)
    (lasting : t < season.finish.toInt) :
    season.overlaps v.across.start v.across.finish = true ∧ 0 ≤ v.column t ∧
      v.column t < v.across.length ∧
      ∃ left,
        let painted := f.segment season.color 2 ⟨left, f.height⟩
          ⟨Scalar.min (v.column season.finish.toInt) f.width + f.margin, f.height⟩
        painted ∈ f.xAxis v kind seasons ∧
          (v.column t < f.width →
            ((f.xAxis v kind seasons).filter (f.covers (v.column t))).getLast? = some painted) := by
  have proper : v.across.Proper := ⟨range, length⟩
  have inView : season.overlaps v.across.start v.across.finish = true :=
    Season.overlaps_iff.mpr ⟨shown.trans lasting.le, begun.trans ends.le⟩
  have first : 0 ≤ v.column t := v.across.place_start ▸ proper.place_le_place_iff.mpr shown
  have last : v.column t < v.across.length :=
    proper.invertible.place_finish ▸ proper.place_lt_place_iff.mpr ends
  obtain ⟨earlier, later, sorted⟩ := List.append_of_mem listed
  refine ⟨inView, first, last, f.reached v (-f.margin) earlier, ?_, ?_⟩
  · have member : f.stretch v (f.reached v (-f.margin) earlier) season ∈
        f.baseline v kind (-f.margin) seasons.sorted := by
      rw [sorted, baseline_append, baseline_cons later inView]
      exact List.mem_append_right _ List.mem_cons_self
    exact List.mem_append_left _ (List.mem_append_left _ member)
  · intro inside
    have ordered := Season.pairwise_of_isChain spans disjoint
    rw [sorted, List.pairwise_append, List.pairwise_cons] at ordered
    obtain ⟨-, ⟨after, -⟩, before⟩ := ordered
    have ended : ∀ s ∈ earlier, f.ending v s ≤ v.column t := by
      intro s member
      have order := Int64.le_iff_toInt_le.mp (before s member season List.mem_cons_self)
      exact ending_le proper (le_trans (by exact_mod_cast order) begun)
    have unended : ∀ s ∈ later, v.column t < f.ending v s := by
      intro s member
      have span := spans s
        (sorted ▸ List.mem_append_right earlier (List.mem_cons_of_mem season member))
      have order := Int64.le_iff_toInt_le.mp (Int64.le_trans (after s member) span)
      exact lt_ending proper (lasting.trans_le (by exact_mod_cast order)) inside
    have outside : -f.margin ≤ v.column t := by linarith
    rw [filter_covers_xAxis, sorted]
    exact getLast?_covers_baseline margin inView outside ended
      (lt_ending proper lasting inside) unended

/-- Three seasons with a gap after the first one, listed in another order than that of their ids. -/
theorem season_painted_last_gap :
    let first : Season := ⟨28, 1, 2016, -500, 200, "#ff6666"⟩
    let second : Season := ⟨29, 2, 2016, 300, 600, "#6666ff"⟩
    let third : Season := ⟨30, 3, 2016, 600, 5000, "#66ff66"⟩
    let seasons : Seasons := .ofList [third, first, second]
    let f : Frame Rat := .ofSize .standard 20 204 240
    let v : Viewport Rat := ⟨⟨0, 1000, f.width⟩, ⟨0, 1, f.height⟩⟩
    (0 ≤ f.margin ∧ v.across.start < v.across.finish ∧ 0 < v.across.length ∧ 30 < f.width) ∧
      ((∀ s ∈ seasons.sorted, s.start ≤ s.finish) ∧
        seasons.sorted.IsChain (fun s next => s.finish ≤ next.start) ∧ second ∈ seasons.sorted) ∧
      second.overlaps v.across.start v.across.finish = true ∧ v.column 300 = 30 ∧
      ∃ left, ((f.xAxis v .season seasons).filter (f.covers (v.column 300))).getLast? =
        some (f.segment "#6666ff" 2 ⟨left, f.height⟩ ⟨60 + 20, f.height⟩) := by
  intro first second third seasons f v
  have sorted : seasons.sorted = [first, second, third] := by
    simp [seasons, first, second, third, Seasons.ofList, Seasons.ordered, List.mergeSort,
      List.MergeSort.Internal.splitInTwo]
  have ends : 0 ≤ f.margin ∧ v.across.start < v.across.finish ∧ 0 < v.across.length ∧
      30 < f.width := by
    decide +kernel
  have column : v.column 300 = 30 := by decide +kernel
  have right : Scalar.min (v.column second.finish.toInt) f.width + f.margin = 60 + 20 := by
    decide +kernel
  have spans : ∀ s ∈ seasons.sorted, s.start ≤ s.finish := by
    rw [sorted]
    decide
  have disjoint : seasons.sorted.IsChain fun s next => s.finish ≤ next.start := by
    rw [sorted]
    decide
  have listed : second ∈ seasons.sorted := by
    rw [sorted]
    decide
  obtain ⟨inView, -, -, left, -, last⟩ :=
    season_painted_last f v .season seasons ends.1 ends.2.1 ends.2.2.1 spans
      disjoint listed (t := 300) (by decide +kernel) (by decide +kernel) (by decide +kernel)
      (by decide +kernel)
  exact ⟨ends, ⟨spans, disjoint, listed⟩, inView, column, left, right ▸ last (column ▸ ends.2.2.2)⟩

/-- With a margin below zero the baseline has gaps at both ends, and with a viewport wider than the
    graph area it ends before the last times. -/
theorem unpainted_columns :
    let season : Season := ⟨28, 1, 2016, 0, 1000, "#ff6666"⟩
    let seasons : Seasons := .ofList [season]
    let f (margin : Rat) : Frame Rat := .ofSize .standard margin 204 240
    let v (width : Rat) : Viewport Rat := ⟨⟨0, 1000, width⟩, ⟨0, 1, 200⟩⟩
    (f (-20)).width = 100 ∧ (v 100).column 100 = 10 ∧
      ((f (-20)).xAxis (v 100) .season seasons).filter ((f (-20)).covers 10) = [] ∧
      (f 20).width = 100 ∧ (v 400).column 900 = 360 ∧
      ((f 20).xAxis (v 400) .season seasons).filter ((f 20).covers 360) = [] := by
  decide +kernel

end Frame

end LadderAtlas
