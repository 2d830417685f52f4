import LadderAtlas.Graph.Plot
import LadderAtlas.Graph.Viewport
import LadderAtlas.Season

/-! # Axes

The marks of the two axes. The vertical axis carries eleven labelled gridlines. The time axis
consists of a baseline in the colours of the seasons, ticks for years and months, labels for one of
seasons, months or years, and markers of dated events.
-/

namespace LadderAtlas

/-- How the values of the vertical axis are written. -/
inductive YAxis where
  | int
  | percent
  deriving Repr, DecidableEq

/-- What the labels of the time axis name. -/
inductive XAxis where
  | year
  | season
  | month
  deriving Repr, DecidableEq

variable {α : Type} [Scalar α]

/-! ## Labels -/

/-- A percentage with fewer places the wider the range that is shown. -/
def percentLabel (value range : α) : String :=
  if range < 1 then Scalar.fixedText 2 value ++ "%"
  else if range < 10 then Scalar.fixedText 1 value ++ "%"
  else Numeral.text (Scalar.nearestInt64 value) ++ "%"

/-- A count, in thousands on large axes; one is always written out. -/
def intLabel (value largest : α) : String :=
  if value == 1 then "1"
  else if 10000 < largest then Numeral.text (Scalar.nearestInt64 (value / 1000)) ++ "k"
  else Numeral.text (Scalar.nearestInt64 value)

def Viewport.label (v : Viewport α) (kind : YAxis) (value : α) : String :=
  match kind with
  | .percent => percentLabel value v.upward.extent
  | .int => intLabel value v.upward.largest

def monthNames : List String :=
  ["Jan", "Feb", "Mar", "Apr", "May", "Jun", "Jul", "Aug", "Sep", "Oct", "Nov", "Dec"]

/-- The dated events marked on every time axis. -/
def events : List (String × Date) :=
  [("LotV", ⟨2015, 11, 9⟩), ("MMR", ⟨2016, 7, 17⟩), ("f2p", ⟨2017, 11, 15⟩)]

def Palette.event : String := "#ffff00"

namespace Frame

/-! ## The vertical axis -/

/-- The gridline values from bottom to top, tenths of the range apart. -/
def gridValues (v : Viewport α) : List α :=
  (List.range 11).map fun (k : Nat) => v.upward.valueAtFraction (Scalar.ofInt k / 10)

/-- A line between two places of the canvas. -/
def rule (width : α) (p q : Point α) : Mark α :=
  .stroke [p.offset 0 0, q.offset 0 0] (.color Palette.white) width

/-- The label of a gridline and, except near the bottom, its tick. -/
def gridMarks (f : Frame α) (v : Viewport α) (kind : YAxis) (value : α) : List (Mark α) :=
  let x := f.edges.left - f.margin
  let y := Scalar.round (f.edges.top + v.row value + 0.5)
  let label : Mark α := .text (v.label kind value) ⟨x - 5, y⟩ .right .middle Palette.white
  if y < f.edges.top + f.height - 2 then [label, rule 1 ⟨x - 3, y⟩ ⟨x + 3, y⟩] else [label]

/-- The vertical axis: its line, then the gridlines from bottom to top. -/
def yAxis (f : Frame α) (v : Viewport α) (kind : YAxis) : List (Mark α) :=
  let x := f.edges.left - f.margin
  rule 2 ⟨x, f.edges.top⟩ ⟨x, f.edges.top + f.height⟩
    :: (gridValues v).flatMap (f.gridMarks v kind)

/-! ## The time axis -/

/-- A label under the time axis with its middle at a column of the graph area. -/
def timeLabel (f : Frame α) (text : String) (x : α) : Mark α :=
  .text text ⟨f.edges.left + x, f.edges.top + f.height + 3⟩ .center .top Palette.white

/-- The name of a season under its stretch of the baseline, where it fits. -/
def seasonLabel (f : Frame α) (season : Season) (left right : α) : List (Mark α) :=
  let label := "Season " ++ season.label
  let labelWidth : α := Canvas.textWidth label
  let span := right - left
  if labelWidth < span then
    [f.timeLabel label (Scalar.clamp (span / 2) (left + span / 2) (f.width - labelWidth / 2))]
  else []

/-- The baseline from the column `left` on, one stretch per season that is in view. A stretch goes
    on past its end by the margin and is drawn over by the next one. -/
def baseline (f : Frame α) (v : Viewport α) (kind : XAxis) (left : α) : List Season → List (Mark α)
  | [] => []
  | season :: rest =>
    if season.overlaps v.across.start v.across.finish then
      let right := Scalar.min (v.column (Scalar.ofInt season.finish.toInt)) f.width
      let label := if kind = .season then f.seasonLabel season left right else []
      f.segment season.color 2 ⟨left, f.height⟩ ⟨right + f.margin, f.height⟩
        :: (label ++ baseline f v kind right rest)
    else baseline f v kind left rest

/-- Whether a column lies strictly inside the graph area and its margins. -/
def inside (f : Frame α) (x : α) : Bool := decide (-f.margin < x) && decide (x < f.width + f.margin)

/-- A tick on the baseline, reaching so far up and down. -/
def tick (f : Frame α) (width reach x : α) : Mark α :=
  f.segment Palette.white width ⟨x, f.height - reach⟩ ⟨x, f.height + reach⟩

def yearTick (f : Frame α) (v : Viewport α) (year : Int) : List (Mark α) :=
  match v.columnOfDate? ⟨year, 1, 1⟩ with
  | some x => if f.inside x then [f.tick 2 7 x] else []
  | none => []

/-- The tick of a month, and its name where months are named and it is in view. -/
def monthMarks (f : Frame α) (v : Viewport α) (kind : XAxis) (year : Int) (month : Nat) :
    List (Mark α) :=
  match v.columnOfMonth? year month, v.columnOfMonth? year (month + 1) with
  | some start, some finish =>
    let start := Scalar.round start + 0.5
    let finish := Scalar.round finish + 0.5
    let halfText : α := Canvas.textWidth (Numeral.text year) / 2
    let mark := if f.inside start then [f.tick 1 3 start] else []
    let name :=
      if kind = .month && decide (halfText < finish) && decide (start < f.width - halfText) then
        [f.timeLabel (monthNames.getD (month - 1) "")
          (Scalar.clamp 0 ((finish - start) / 2 + start) f.width)]
      else []
    mark ++ name
  | _, _ => []

/-- The number of a year under its middle, where years are named. -/
def yearLabel (f : Frame α) (v : Viewport α) (kind : XAxis) (year : Int) : List (Mark α) :=
  match kind, v.columnOfDate? ⟨year, 7, 1⟩ with
  | .year, some middle =>
    let text := Numeral.text year
    let halfText : α := Canvas.textWidth text / 2
    [f.timeLabel text (Scalar.clamp halfText middle (f.width - halfText))]
  | _, _ => []

def yearMarks (f : Frame α) (v : Viewport α) (kind : XAxis) (year : Int) : List (Mark α) :=
  f.yearTick v year
    ++ (List.range 12).flatMap (fun k => f.monthMarks v kind year (k + 1))
    ++ f.yearLabel v kind year

def integersFrom (first last : Int) : List Int :=
  (List.range (last + 1 - first).toNat).map fun (k : Nat) => first + (k : Int)

/-- Ticks and labels for all years in view, none where the calendar does not reach that far. -/
def calendarTicks (f : Frame α) (v : Viewport α) (kind : XAxis) : List (Mark α) :=
  match v.instantAt? (-f.margin), v.instantAt? (f.width + f.margin) with
  | some first, some last =>
    (integersFrom first.date.year last.date.year).flatMap (f.yearMarks v kind)
  | _, _ => []

/-- The marker of an event, where it is on the canvas. -/
def eventMarks (f : Frame α) (v : Viewport α) (event : String × Date) : List (Mark α) :=
  match v.columnOfDate? event.2 with
  | some x =>
    if x < -f.edges.left ∨ f.width + f.edges.right < x then []
    else
      [f.segment Palette.event 2 ⟨x, f.height + 5⟩ ⟨x, f.height - 5⟩,
        .text event.1 ⟨f.edges.left + x, f.edges.top + f.height - 5⟩ .center .bottom Palette.event]
  | none => []

/-- The time axis: baseline, calendar ticks, event markers. -/
def xAxis (f : Frame α) (v : Viewport α) (kind : XAxis) (seasons : Seasons) : List (Mark α) :=
  f.baseline v kind (-f.margin) seasons.sorted
    ++ f.calendarTicks v kind
    ++ events.flatMap (f.eventMarks v)

end Frame

end LadderAtlas
