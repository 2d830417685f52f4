import LadderAtlas.Graph.Axes
import LadderAtlas.Proofs.Graph.Viewports
import Mathlib.Data.List.Basic
import Mathlib.Data.List.Pairwise

/-! # Ticks of the calendar

The ticks of the time axis are those of the years and months that begin in view, one for each and in
the order of the calendar. The years to go through are read off the moments at both ends of the
axis, cut off to whole seconds, and no year that begins in between is missed by that. Only one month
is left out wherever it is: the last one of the calendar, after which no other begins.
-/

namespace LadderAtlas

/-! ## Marks by kind -/

def Mark.isStrokeOf (width : Rat) : Mark Rat → Bool
  | .stroke _ _ w => decide (w = width)
  | _ => false

def Mark.isText : Mark Rat → Bool
  | .text .. => true
  | _ => false

/-- One for each element that fits. -/
theorem flatMap_ite {α β : Type} (p : α → Bool) (g : α → β) (xs : List α) :
    (xs.flatMap fun x => if p x then [g x] else []) = (xs.filter p).map g := by
  induction xs with
  | nil => rfl
  | cons x xs ih => by_cases fits : p x <;> simp [fits, ih]

/-! ## Years and months -/

namespace Frame

theorem mem_integersFrom {first last n : Int} :
    n ∈ integersFrom first last ↔ first ≤ n ∧ n ≤ last := by
  simp only [integersFrom, List.mem_map, List.mem_range]
  constructor
  · intro ⟨k, less, same⟩
    omega
  · intro ⟨least, most⟩
    exact ⟨(n - first).toNat, by omega, by omega⟩

theorem pairwise_integersFrom (first last : Int) : (integersFrom first last).Pairwise (· < ·) := by
  rw [integersFrom, List.pairwise_map]
  apply List.pairwise_lt_range.imp
  intro a b less
  omega

/-- The months of years, in order. -/
def monthsOf (years : List Int) : List (Int × Nat) :=
  years.flatMap fun year => (List.range 12).map fun k => (year, k + 1)

theorem mem_monthsOf {years : List Int} {year : Int} {month : Nat} :
    (year, month) ∈ monthsOf years ↔ year ∈ years ∧ 1 ≤ month ∧ month ≤ 12 := by
  simp only [monthsOf, List.mem_flatMap, List.mem_map, List.mem_range, Prod.mk.injEq]
  constructor
  · intro ⟨y, listed, k, less, same, number⟩
    subst same number
    exact ⟨listed, by omega, by omega⟩
  · intro ⟨listed, first, last⟩
    exact ⟨year, listed, month - 1, by omega, rfl, by omega⟩

theorem monthsOf_append (shown more : List Int) :
    monthsOf (shown ++ more) = monthsOf shown ++ monthsOf more :=
  List.flatMap_append

/-- A month begins before another one. -/
def Before (a b : Int × Nat) : Prop := (Date.mk a.1 a.2 1).dayNumber < (Date.mk b.1 b.2 1).dayNumber

theorem pairwise_monthsOf {years : List Int} (increasing : years.Pairwise (· < ·)) :
    (monthsOf years).Pairwise Before := by
  rw [monthsOf, List.pairwise_flatMap]
  constructor
  · intro year _
    rw [List.pairwise_map]
    apply List.pairwise_lt_range.imp_of_mem
    intro a b _ inRange less
    exact Date.dayNumber_month_lt year (Nat.le_add_left 1 a) (Nat.add_lt_add_right less 1)
      (List.mem_range.mp inRange)
  · apply increasing.imp
    intro year later less a inYear b inLater
    obtain ⟨k, early, rfl⟩ := List.mem_map.mp inYear
    obtain ⟨l, late, rfl⟩ := List.mem_map.mp inLater
    have ended := (Date.wellFormed_first year (Nat.le_add_left 1 k)
      (List.mem_range.mp early)).lt_newYear
    have begun := (Date.wellFormed_first later (Nat.le_add_left 1 l)
      (List.mem_range.mp late)).newYear_le
    have next : (Date.mk (year + 1) 1 1).dayNumber ≤ (Date.mk later 1 1).dayNumber :=
      Date.dayNumber_year_le less
    exact ended.trans_le (next.trans begun)

/-! ## The marks of a year -/

variable {f : Frame Rat} {v : Viewport Rat}

@[simp]
theorem isStrokeOf_tick (f : Frame Rat) (width reach x other : Rat) :
    (f.tick width reach x).isStrokeOf other = decide (width = other) := rfl

@[simp]
theorem isText_tick (f : Frame Rat) (width reach x : Rat) :
    (f.tick width reach x).isText = false := rfl

@[simp]
theorem isStrokeOf_timeLabel (f : Frame Rat) (text : String) (x width : Rat) :
    (f.timeLabel text x).isStrokeOf width = false := rfl

@[simp]
theorem isText_timeLabel (f : Frame Rat) (text : String) (x : Rat) :
    (f.timeLabel text x).isText = true := rfl

theorem inside_iff {x : Rat} : f.inside x = true ↔ -f.margin < x ∧ x < f.width + f.margin := by
  simp [inside]

/-- The column of the tick of a month: in the middle of a pixel, not left of where the month
    begins. -/
def monthColumn (v : Viewport Rat) (p : Int × Nat) : Rat :=
  Scalar.round (v.columnOf (Date.mk p.1 p.2 1).midnight) + 0.5

theorem columnOf_le_monthColumn (v : Viewport Rat) (p : Int × Nat) :
    v.columnOf (Date.mk p.1 p.2 1).midnight ≤ monthColumn v p := by
  have rounded := Exact.le_nearest_add_half (v.columnOf (Date.mk p.1 p.2 1).midnight)
  have half : (0.5 : Rat) = 1 / 2 := by norm_num
  rw [monthColumn, half]
  exact rounded

/-- Whether a month has a tick: it does if its tick is in view and another month follows in the
    calendar. -/
def hasTick (f : Frame Rat) (v : Viewport Rat) (p : Int × Nat) : Bool :=
  decide (p ≠ (Calendar.lastYear, 12)) && f.inside (monthColumn v p)

/-- A year that dates may have. -/
def InCalendar (year : Int) : Prop := Calendar.firstYear ≤ year ∧ year ≤ Calendar.lastYear

theorem yearTick_eq {year : Int} (known : InCalendar year) :
    f.yearTick v year =
      if f.inside (v.columnOf (Date.mk year 1 1).midnight) then
        [f.tick 2 7 (v.columnOf (Date.mk year 1 1).midnight)] else [] := by
  have there := Viewport.columnOfDate?_of_wellFormed (v := v)
    (Date.wellFormed_first year (m := 1) le_rfl (by decide)) known.1 known.2
  rw [yearTick, there]

theorem columnOfMonth?_eq {year : Int} (known : InCalendar year) {month : Nat} (first : 1 ≤ month)
    (last : month ≤ 12) :
    v.columnOfMonth? year month = some (v.columnOf (Date.mk year month 1).midnight) := by
  rw [Viewport.columnOfMonth?, if_neg (by omega)]
  exact Viewport.columnOfDate?_of_wellFormed (Date.wellFormed_first year first last) known.1 known.2

/-- After every month but the last one of the calendar another one begins. -/
theorem isSome_columnOfMonth?_next {year : Int} (known : InCalendar year) {month : Nat}
    (first : 1 ≤ month) (last : month ≤ 12) :
    (v.columnOfMonth? year (month + 1)).isSome =
      decide ((year, month) ≠ (Calendar.lastYear, 12)) := by
  rcases last.lt_or_eq with early | rfl
  · rw [columnOfMonth?_eq known (Nat.le_add_left 1 month) early]
    simp [early.ne]
  · rw [Viewport.columnOfMonth?, if_pos (by decide)]
    rcases known.2.lt_or_eq with before | rfl
    · rw [Viewport.columnOfDate?_of_wellFormed (Date.wellFormed_first (year + 1) le_rfl (by decide))
        (known.1.trans (Int.le_add_one le_rfl)) before]
      simp [before.ne]
    · rfl

/-- A month has a tick or none, and then nothing but texts, and no texts unless months are named. -/
theorem monthMarks_eq {year : Int} (known : InCalendar year) {month : Nat} (first : 1 ≤ month)
    (last : month ≤ 12) (kind : XAxis) : ∃ names, f.monthMarks v kind year month =
      (if f.hasTick v (year, month) then [f.tick 1 3 (monthColumn v (year, month))] else []) ++
      names ∧
      (∀ m ∈ names, m.isText = true) ∧ (kind ≠ .month → names = []) := by
  have next := isSome_columnOfMonth?_next (v := v) known first last
  unfold monthMarks hasTick
  rw [columnOfMonth?_eq known first last]
  cases following : v.columnOfMonth? year (month + 1) with
  | none =>
      rw [following] at next
      have final : decide ((year, month) ≠ (Calendar.lastYear, 12)) = false := next.symm
      exact ⟨[], by rw [final]; rfl, by simp, fun _ => rfl⟩
  | some finish =>
      rw [following] at next
      have more : decide ((year, month) ≠ (Calendar.lastYear, 12)) = true := next.symm
      refine ⟨_, by rw [more, Bool.true_and]; rfl, ?_, ?_⟩
      · intro m listed
        split at listed
        · rw [List.mem_singleton.mp listed]
          rfl
        · cases listed
      · intro other
        simp [other]

/-- The column of the middle of the label of a year. -/
def labelColumn (f : Frame Rat) (v : Viewport Rat) (year : Int) : Rat :=
  let halfText : Rat := Canvas.textWidth (Numeral.text year) / 2
  Scalar.clamp halfText (v.columnOf (Date.mk year 7 1).midnight) (f.width - halfText)

theorem yearLabel_eq {year : Int} (known : InCalendar year) (kind : XAxis) :
    f.yearLabel v kind year =
      if kind = .year then [f.timeLabel (Numeral.text year) (f.labelColumn v year)] else [] := by
  have there := Viewport.columnOfDate?_of_wellFormed (v := v)
    (Date.wellFormed_first year (m := 7) (by decide) (by decide)) known.1 known.2
  cases kind with
  | year => simp only [yearLabel, there, labelColumn, if_true]
  | season | month => rfl

/-- A label that is not wider than the graph area is in it. -/
theorem labelColumn_bounds {year : Int}
    (fits : (Canvas.textWidth (Numeral.text year) : Rat) ≤ f.width) :
    Canvas.textWidth (Numeral.text year) / 2 ≤ f.labelColumn v year ∧
      f.labelColumn v year ≤ f.width - Canvas.textWidth (Numeral.text year) / 2 := by
  apply Scalar.clamp_bounds
  linarith

/-! ## All marks -/

/-- The marks for some years of the calendar, by kinds: ticks of years, ticks of months, labels. -/
structure Marked (f : Frame Rat) (v : Viewport Rat) (kind : XAxis) (shown : List Int)
    (marks : List (Mark Rat)) :
    Prop where
  years : marks.filter (Mark.isStrokeOf 2) =
    (shown.filter fun y => f.inside (v.columnOf (Date.mk y 1 1).midnight)).map fun y =>
      f.tick 2 7 (v.columnOf (Date.mk y 1 1).midnight)
  months : marks.filter (Mark.isStrokeOf 1) =
    ((monthsOf shown).filter (f.hasTick v)).map fun p => f.tick 1 3 (monthColumn v p)
  labels : kind = .year →
    marks.filter Mark.isText = shown.map fun y => f.timeLabel (Numeral.text y) (f.labelColumn v y)
  kinds : ∀ m ∈ marks, m.isStrokeOf 2 = true ∨ m.isStrokeOf 1 = true ∨ m.isText = true

theorem Marked.append {kind : XAxis} {shown more : List Int} {marks others : List (Mark Rat)}
    (h : Marked f v kind shown marks) (h' : Marked f v kind more others) :
    Marked f v kind (shown ++ more) (marks ++ others) := by
  refine ⟨?_, ?_, fun named => ?_, fun m listed => ?_⟩
  · rw [List.filter_append, h.years, h'.years, List.filter_append, List.map_append]
  · rw [List.filter_append, h.months, h'.months, monthsOf_append, List.filter_append,
      List.map_append]
  · rw [List.filter_append, h.labels named, h'.labels named, List.map_append]
  · rcases List.mem_append.mp listed with here | there
    · exact h.kinds m here
    · exact h'.kinds m there

theorem isStrokeOf_of_mem {shown : Bool} {width reach x : Rat} {m : Mark Rat}
    (listed : m ∈ if shown then [f.tick width reach x] else []) : m.isStrokeOf width = true := by
  cases shown with
  | false => cases listed
  | true =>
      rw [List.mem_singleton.mp listed]
      simp

theorem filter_texts {names : List (Mark Rat)} (texts : ∀ m ∈ names, m.isText = true)
    (width : Rat) :
    names.filter (Mark.isStrokeOf width) = [] := by
  rw [List.filter_eq_nil_iff]
  intro m listed stroke
  have text := texts m listed
  cases m <;> simp [Mark.isStrokeOf, Mark.isText] at stroke text

/-- What the months of a year bring along: ticks, and texts where months are named. -/
theorem filter_months {year : Int} (known : InCalendar year) (kind : XAxis) :
    let marks := (List.range 12).flatMap fun k => f.monthMarks v kind year (k + 1)
    marks.filter (Mark.isStrokeOf 2) = [] ∧
    marks.filter (Mark.isStrokeOf 1) =
      ((monthsOf [year]).filter (f.hasTick v)).map (fun p => f.tick 1 3 (monthColumn v p)) ∧
    (kind ≠ .month → marks.filter Mark.isText = []) ∧
    ∀ m ∈ marks, m.isStrokeOf 1 = true ∨ m.isText = true := by
  intro marks
  have month (k : Nat) (listed : k ∈ List.range 12) :=
    monthMarks_eq (f := f) (v := v) known (Nat.le_add_left 1 k) (List.mem_range.mp listed) kind
  refine ⟨?_, ?_, fun other => ?_, fun m listed => ?_⟩
  · rw [List.filter_flatMap, List.flatMap_eq_nil_iff]
    intro k listed
    obtain ⟨names, eq, texts, -⟩ := month k listed
    rw [eq, List.filter_append, filter_texts texts]
    split <;> simp
  · have each : ∀ k ∈ List.range 12, (f.monthMarks v kind year (k + 1)).filter (Mark.isStrokeOf 1) =
        if f.hasTick v (year, k + 1) then [f.tick 1 3 (monthColumn v (year, k + 1))] else [] := by
      intro k listed
      obtain ⟨names, eq, texts, -⟩ := month k listed
      rw [eq, List.filter_append, filter_texts texts]
      split <;> simp
    rw [List.filter_flatMap, List.flatMap_congr each, monthsOf, List.flatMap_singleton,
      ← flatMap_ite, List.flatMap_map]
  · rw [List.filter_flatMap, List.flatMap_eq_nil_iff]
    intro k listed
    obtain ⟨names, eq, -, none⟩ := month k listed
    rw [eq, none other]
    split <;> simp
  · obtain ⟨k, inRange, there⟩ := List.mem_flatMap.mp listed
    obtain ⟨names, eq, texts, -⟩ := month k inRange
    rw [eq] at there
    rcases List.mem_append.mp there with tick | name
    · exact .inl (isStrokeOf_of_mem tick)
    · exact .inr (texts m name)

theorem marked_yearMarks {year : Int} (known : InCalendar year) (kind : XAxis) :
    Marked f v kind [year] (f.yearMarks v kind year) := by
  obtain ⟨noYears, months, noNames, kinds⟩ := filter_months (f := f) (v := v) known kind
  have label : (f.yearLabel v kind year).filter Mark.isText = f.yearLabel v kind year ∧
      ∀ m ∈ f.yearLabel v kind year, m.isText = true := by
    rw [yearLabel_eq known]
    split <;> simp
  refine ⟨?_, ?_, fun named => ?_, fun m listed => ?_⟩
  · rw [yearMarks, List.filter_append, List.filter_append, noYears, filter_texts label.2,
      yearTick_eq known, ← flatMap_ite]
    split <;> simp_all
  · rw [yearMarks, List.filter_append, List.filter_append, months, filter_texts label.2,
      yearTick_eq known]
    split <;> simp
  · have other : kind ≠ .month := by
      rw [named]
      decide
    rw [yearMarks, List.filter_append, List.filter_append, noNames other, label.1,
      yearLabel_eq known, yearTick_eq known]
    split <;> simp
  · rw [yearMarks, yearTick_eq known] at listed
    rcases List.mem_append.mp listed with front | named
    · rcases List.mem_append.mp front with tick | monthly
      · exact .inl (isStrokeOf_of_mem tick)
      · exact .inr (kinds m monthly)
    · exact .inr (.inr (label.2 m named))

/-- What holds for each of some years holds for all of them together. -/
theorem marked_flatMap {shown : List Int} (known : ∀ y ∈ shown, InCalendar y) (kind : XAxis) :
    Marked f v kind shown (shown.flatMap (f.yearMarks v kind)) := by
  induction shown with
  | nil => exact ⟨rfl, rfl, fun _ => rfl, nofun⟩
  | cons year rest ih =>
      have here := marked_yearMarks (f := f) (v := v) (known year List.mem_cons_self) kind
      exact here.append (ih fun y listed => known y (List.mem_cons_of_mem year listed))

/-- The time axis between two moments: a long tick for each year that begins in view, a short one
    for each month that does, the last month of the calendar excepted, and where years are named a
    label for each year. -/
structure CalendarAxis (f : Frame Rat) (v : Viewport Rat) (kind : XAxis)
    (first last : Instant) : Prop where
  years : ∃ shown : List Int, shown.Pairwise (· < ·) ∧
    (∀ y, y ∈ shown ↔ -f.margin < v.columnOf (Date.mk y 1 1).midnight ∧
      v.columnOf (Date.mk y 1 1).midnight < f.width + f.margin) ∧
    (f.calendarTicks v kind).filter (Mark.isStrokeOf 2) =
      shown.map fun y => f.tick 2 7 (v.columnOf (Date.mk y 1 1).midnight)
  months : ∃ shown : List (Int × Nat), shown.Pairwise Before ∧
    (∀ p ∈ shown, (1 ≤ p.2 ∧ p.2 ≤ 12) ∧ p ≠ (Calendar.lastYear, 12) ∧
      -f.margin < monthColumn v p ∧ monthColumn v p < f.width + f.margin) ∧
    (∀ y m, 1 ≤ m → m ≤ 12 → (y, m) ≠ (Calendar.lastYear, 12) →
      -f.margin < v.columnOf (Date.mk y m 1).midnight → monthColumn v (y, m) < f.width + f.margin →
      (y, m) ∈ shown) ∧
    (f.calendarTicks v kind).filter (Mark.isStrokeOf 1) = shown.map fun p =>
      f.tick 1 3 (monthColumn v p)
  labels : kind = .year → ∃ (shown : List Int) (middle : Int → Rat), shown.Pairwise (· < ·) ∧
    (∀ y, y ∈ shown ↔ first.date.year ≤ y ∧ y ≤ last.date.year) ∧
    (f.calendarTicks v kind).filter Mark.isText =
      (shown.map fun y => f.timeLabel (Numeral.text y) (middle y)) ∧
    ∀ y, (Canvas.textWidth (Numeral.text y) : Rat) ≤ f.width →
      Canvas.textWidth (Numeral.text y) / 2 ≤ middle y ∧
        middle y ≤ f.width - Canvas.textWidth (Numeral.text y) / 2
  kinds : ∀ m ∈ f.calendarTicks v kind, m.isStrokeOf 2 = true ∨ m.isStrokeOf 1 = true ∨
    m.isText = true

/-- Whatever there is in view of the calendar has its tick, once and in order, and nothing else has
    one. -/
theorem calendarAxis (f : Frame Rat) (v : Viewport Rat) (kind : XAxis) {first last : Instant}
    (range : v.across.start < v.across.finish) (length : 0 < v.across.length)
    (begins : v.instantAt? (-f.margin) = some first)
    (ends : v.instantAt? (f.width + f.margin) = some last) :
    CalendarAxis f v kind first last := by
  have proper : v.across.Proper := ⟨range, length⟩
  have known : ∀ y ∈ integersFrom first.date.year last.date.year, InCalendar y := by
    intro y listed
    obtain ⟨early, late⟩ := mem_integersFrom.mp listed
    have least := Instant.year_of_inRange (Viewport.seconds_of_instantAt? begins).1
    have most := Instant.year_of_inRange (Viewport.seconds_of_instantAt? ends).1
    exact ⟨least.1.trans early, late.trans most.2⟩
  have ticks : f.calendarTicks v kind =
      (integersFrom first.date.year last.date.year).flatMap (f.yearMarks v kind) := by
    rw [calendarTicks, begins, ends]
  have marked := marked_flatMap (f := f) (v := v) known kind
  rw [← ticks] at marked
  -- A date with its column in view is in one of the years that are gone through.
  have reached {d : Date} (wellFormed : d.WellFormed) (right : -f.margin < v.columnOf d.midnight)
      (left : v.columnOf d.midnight ≤ f.width + f.margin) :
      d.year ∈ integersFrom first.date.year last.date.year :=
    mem_integersFrom.mpr ⟨Viewport.year_le_of_lt_columnOf proper begins wellFormed right,
      Viewport.le_year_of_columnOf_le proper ends wellFormed left⟩
  refine ⟨⟨_, ?_, fun y => ?_, marked.years⟩, ⟨_, ?_, fun p listed => ?_, ?_, marked.months⟩,
    fun named => ⟨_, _, pairwise_integersFrom _ _, fun y => mem_integersFrom,
      marked.labels named, ?_⟩,
    marked.kinds⟩
  · exact (pairwise_integersFrom _ _).filter _
  · rw [List.mem_filter, inside_iff]
    constructor
    · exact fun shown => shown.2
    · intro inView
      exact ⟨reached (Date.wellFormed_first y le_rfl (by decide)) inView.1 inView.2.le, inView⟩
  · exact (pairwise_monthsOf (pairwise_integersFrom _ _)).filter _
  · obtain ⟨there, tick⟩ := List.mem_filter.mp listed
    rw [hasTick, Bool.and_eq_true, decide_eq_true_eq, inside_iff] at tick
    exact ⟨(mem_monthsOf.mp there).2, tick⟩
  · intro y m least most notLast right left
    have before := columnOf_le_monthColumn v (y, m)
    rw [List.mem_filter, mem_monthsOf, hasTick, Bool.and_eq_true, inside_iff]
    exact ⟨⟨reached (Date.wellFormed_first y least most) right (before.trans left.le), least, most⟩,
      decide_eq_true notLast, right.trans_le before, left⟩
  · exact fun y => labelColumn_bounds

/-- Almost two and a half years, a day for each pixel. Three of the four years begin in view, the
    first of them left of the graph area. -/
theorem calendarAxis_days :
    let f : Frame Rat := .ofSize .standard 20 1000 300
    let v : Viewport Rat := ⟨⟨16446 * 86400, 17342 * 86400, f.width⟩, ⟨0, 1, f.height⟩⟩
    let first : Instant := ⟨16426 * 86400, 0⟩
    let last : Instant := ⟨17362 * 86400, 0⟩
    let years := [-10, 355, 721]
    let labels := [("2014", 14), ("2015", 171), ("2016", 537), ("2017", 882)]
    (v.across.start < v.across.finish ∧ 0 < v.across.length) ∧
      (v.instantAt? (-f.margin) = some first ∧ v.instantAt? (f.width + f.margin) = some last) ∧
      CalendarAxis f v .year first last ∧
      (f.calendarTicks v .year).filter (Mark.isStrokeOf 2) = years.map (f.tick 2 7) ∧
      (f.calendarTicks v .year).filter Mark.isText = labels.map fun (label, x) =>
        f.timeLabel label x := by
  intro f v first last years labels
  have proper : v.across.start < v.across.finish ∧ 0 < v.across.length := by decide +kernel
  have moments : v.instantAt? (-f.margin) = some first ∧
      v.instantAt? (f.width + f.margin) = some last := by
    decide +kernel
  exact ⟨proper, moments, calendarAxis f v .year proper.1 proper.2 moments.1 moments.2,
    by decide +kernel, by decide +kernel⟩

/-- The last month of the calendar has no tick, though it begins in the middle of the graph area. -/
theorem no_tick_in_last_month :
    let f : Frame Rat := .ofSize .standard 20 232 200
    let v : Viewport Rat := ⟨⟨8210263149824, 8210265246976, f.width⟩, ⟨0, 1, f.height⟩⟩
    (v.across.start < v.across.finish ∧ 0 < v.across.length ∧ 0 ≤ f.margin) ∧
      ((v.instantAt? (-f.margin)).isSome = true ∧
        (v.instantAt? (f.width + f.margin)).isSome = true) ∧
      -f.margin < v.columnOf (Date.mk 262142 12 1).midnight ∧
      monthColumn v (262142, 12) < f.width + f.margin ∧ f.calendarTicks v .season = [] := by
  decide +kernel

end Frame

end LadderAtlas
