import LadderAtlas.Proofs.Chart.Shares
import LadderAtlas.Proofs.Chart.Span
import LadderAtlas.Proofs.Graph.Polygon
import LadderAtlas.Proofs.Graph.Viewports

/-! # Stacked areas

The league chart paints one area for each league, from the highest to the lowest, and each reaches
down to the bottom of the graph. What is left to see of an area is the band between its own border
and that of the league before it. Over exact numbers the borders of one snapshot are in order and
stay inside of the graph, and the band of a league is as high as its share, because the counts of
different leagues come to no more than the total.
-/

namespace LadderAtlas

/-! ## Borders -/

namespace LeagueChart

/-- Where a line of the chart has its place for a snapshot. -/
def place (view : Viewport Rat) (k : Nat) (p : SharePoint Rat) : Point Rat :=
  ⟨view.column (Scalar.ofInt p.time.toInt), view.row (height k p)⟩

/-- The border of the area of a league on the canvas. -/
def border (c : LeagueChart Rat) (f : Frame Rat) (view : Viewport Rat) (k : Nat) :
    List (Point Rat) :=
  c.points.map fun p => f.locate (place view k p)

/-- The areas as they are painted, from the last league to the first. -/
def areas (c : LeagueChart Rat) (f : Frame Rat) (view : Viewport Rat) : List (Mark Rat) :=
  ((c.lines view).zip c.leagues).reverse.map fun (line, league) =>
    .fill ((⟨f.width, f.height⟩ :: ⟨0, f.height⟩ :: line.map (·.place)).map f.locate)
      (style f league)

section Borders

variable {c : LeagueChart Rat} {f : Frame Rat} {view : Viewport Rat} {k : Nat}
  {line : List (HoverPoint Rat)}

theorem length_lines : (c.lines view).length = c.leagues.length := by
  rw [lines, List.length_map, List.length_range]

theorem getElem?_lines_eq_some_iff : (c.lines view)[k]? = some line ↔
    k < c.leagues.length ∧ line = timeLine view SharePoint.time (height k) c.points := by
  rw [lines, List.getElem?_map, Option.map_eq_some_iff]
  simp only [List.getElem?_eq_some_iff, List.length_range, List.getElem_range]
  constructor
  · rintro ⟨k, ⟨inside, rfl⟩, rfl⟩
    exact ⟨inside, rfl⟩
  · rintro ⟨inside, rfl⟩
    exact ⟨k, ⟨inside, rfl⟩, rfl⟩

theorem places_timeLine : (timeLine view SharePoint.time (height k) c.points).map (·.place) =
    c.points.map (place view k) := by
  rw [timeLine, List.map_map]
  change c.points.zipIdx.map (place view k ∘ Prod.fst) = _
  rw [← List.map_map, List.zipIdx_map_fst]

theorem draw_eq {first last : SharePoint Rat} (span : span? c.points = .ok (first, last)) :
    let view := f.timeViewport first.time last.time 100
    c.draw f = .ok ⟨c.areas f view ++ f.yAxis view .percent ++ f.xAxis view .year c.source.seasons,
      (c.lines view).flatten⟩ := by
  intro view
  have painted :
      ((c.lines view).zip c.leagues).reverse.mapM (fun (line, league) => areaMark f league line) =
        .ok (c.areas f view) := by
    refine mapM_eq_ok_map fun entry _ => ?_
    change areaMark f entry.2 entry.1 = _
    rw [areaMark, Frame.area?, path?_eq_ok (List.cons_ne_nil _ _)]
    rfl
  rw [draw, bind_of_eq_ok span]
  exact bind_of_eq_ok painted _

/-- What the mark of an area fills: everything from its border down to the bottom of the graph. -/
def Shows (c : LeagueChart Rat) (f : Frame Rat) (view : Viewport Rat) (k : Nat)
    (m : Mark Rat) : Prop :=
  ∀ p, m.Fills p ↔ Polygon.Covers (Polygon.area (0 + f.edges.left) (f.width + f.edges.left)
    (f.height + f.edges.top) (c.border f view k)) p

theorem length_areas : (c.areas f view).length = c.leagues.length := by
  simp [areas, length_lines]

/-- The area of the league at position `k` is painted when all those after it have been. -/
theorem exists_area (c : LeagueChart Rat) (f : Frame Rat) (view : Viewport Rat) {k : Nat}
    (inside : k < c.leagues.length) :
    ∃ m, (c.areas f view)[c.leagues.length - 1 - k]? = some m ∧ c.Shows f view k m := by
  have here : ((c.lines view).zip c.leagues)[k]? =
      some (timeLine view SharePoint.time (height k) c.points, c.leagues[k]) :=
    List.getElem?_zip_eq_some.mpr ⟨getElem?_lines_eq_some_iff.mpr ⟨inside, rfl⟩,
      List.getElem?_eq_getElem inside⟩
  have places : (timeLine view SharePoint.time (height k) c.points).map (f.locate ∘ (·.place)) =
      c.border f view k := by
    rw [← List.map_map, places_timeLine, List.map_map]
    rfl
  have length : ((c.lines view).zip c.leagues).length = c.leagues.length := by simp [length_lines]
  have back : c.leagues.length - 1 - (c.leagues.length - 1 - k) = k := by omega
  refine ⟨.fill (f.locate ⟨f.width, f.height⟩ :: f.locate ⟨0, f.height⟩ :: c.border f view k)
    (style f c.leagues[k]), ?_, fun p => Iff.rfl⟩
  rw [areas, List.getElem?_map, List.getElem?_reverse (by omega), length, back, here,
    Option.map_some]
  simp only [List.map_cons, List.map_map, places]

end Borders

end LeagueChart

/-! ## Viewports -/

section Viewports

variable {f : Frame Rat} {first last t u : Int64} {value value' : Rat}

theorem Frame.row_timeViewport (f : Frame Rat) (first last : Int64) (value : Rat) :
    (f.timeViewport first last 100).row value = f.height - value / 100 * f.height := by
  simp only [Viewport.row, timeViewport, Scale.place]
  ring

theorem Frame.proper_percentages (tall : 0 < f.height) :
    (f.timeViewport first last 100).upward.Proper :=
  ⟨show (0 : Rat) < 100 by decide, tall⟩

theorem Frame.row_mem_Icc (tall : 0 < f.height) (low : 0 ≤ value) (high : value ≤ 100) :
    0 ≤ (f.timeViewport first last 100).row value ∧
      (f.timeViewport first last 100).row value ≤ f.height :=
  Viewport.row_mem_Icc (proper_percentages tall) low high

/-- Greater values are further up. -/
theorem Frame.row_anti (tall : 0 < f.height) (order : value ≤ value') :
    (f.timeViewport first last 100).row value' ≤ (f.timeViewport first last 100).row value :=
  (Viewport.row_le_row_iff (proper_percentages tall)).mpr order

/-- The fraction of the time that has passed grows. -/
theorem passed_lt (span : first < last) (later : t < u) :
    ((t.toInt : Rat) - first.toInt) / (last.toInt - first.toInt) <
      ((u.toInt : Rat) - first.toInt) / (last.toInt - first.toInt) := by
  have long : (0 : Rat) < (last.toInt : Rat) - first.toInt := by
    rw [sub_pos, Int.cast_lt]
    exact Int64.lt_iff_toInt_lt.mp span
  have order : (t.toInt : Rat) < u.toInt := Int.cast_lt.mpr (Int64.lt_iff_toInt_lt.mp later)
  exact div_lt_div_of_pos_right (by linarith) long

end Viewports

/-! ## Outlines -/

theorem exists_span {β : Type} {points : List β} (many : 2 ≤ points.length) :
    ∃ first last, span? points = .ok (first, last) ∧ points.head? = some first ∧
      points.getLast? = some last := by
  match points with
  | p :: q :: rest =>
    refine ⟨p, (q :: rest).getLast (by simp), rfl, rfl, ?_⟩
    rw [List.getLast?_cons_cons, List.getLast?_eq_getLast_of_ne_nil (by simp)]

theorem first_lt_last {times : List Int64} (inOrder : times.Pairwise (· < ·))
    (many : 2 ≤ times.length) {first last : Int64} (starts : times.head? = some first)
    (ends : times.getLast? = some last) : first < last := by
  match times with
  | t :: u :: rest =>
    cases starts
    rw [List.getLast?_cons_cons] at ends
    exact (List.pairwise_cons.mp inOrder).1 last (List.mem_of_getLast? ends)

namespace LeagueChart

section Outlines

variable {c : LeagueChart Rat} {f : Frame Rat} {first last : SharePoint Rat} {k : Nat}

/-- The border of an area goes one way only, from one side of the graph to the other. -/
theorem skyline (many : 2 ≤ c.points.length) (starts : c.points.head? = some first)
    (ends : c.points.getLast? = some last)
    (inOrder : (c.points.map SharePoint.time).Pairwise (· < ·))
    (inside : ∀ p ∈ c.points,
      (f.timeViewport first.time last.time 100).row (height k p) ≤ f.height) :
    Polygon.Skyline (0 + f.edges.left) (f.width + f.edges.left) (f.height + f.edges.top)
      (c.border f (f.timeViewport first.time last.time 100) k) := by
  have span : first.time < last.time :=
    first_lt_last inOrder (by simpa using many) (by simp [starts]) (by simp [ends])
  have long : ((last.time.toInt : Rat) - first.time.toInt) ≠ 0 := by
    rw [sub_ne_zero, Ne, Int.cast_inj]
    exact (Int64.lt_iff_toInt_lt.mp span).ne'
  have passed := (List.pairwise_map.mp inOrder).imp fun later => passed_lt span later
  have column (p : SharePoint Rat) :
      (f.locate (place (f.timeViewport first.time last.time 100) k p)).x =
        ((p.time.toInt : Rat) - first.time.toInt) / (last.time.toInt - first.time.toInt) * f.width +
          f.edges.left :=
    rfl
  refine ⟨by simpa [border] using many, Polygon.OneWay.of_stretched _ passed _ _ column, ?_, ?_, ?_⟩
  · rw [border, List.head?_map, starts, Option.map_some, Option.map_some, column, sub_self,
      zero_div, zero_mul]
  · rw [border, List.getLast?_map, ends, Option.map_some, Option.map_some, column,
      div_self long, one_mul]
  · intro a member
    obtain ⟨p, listed, rfl⟩ := List.mem_map.mp member
    exact add_le_add_left (inside p listed) _

end Outlines

/-! ## Pictures -/

/-- A chart whose points have exact counts of their leagues, at different times in order. -/
structure Stackable (c : LeagueChart Rat) : Prop where
  divides : ∀ p ∈ c.points, p.Divides
  counted : ∀ p ∈ c.points, p.counts.length = c.leagues.length
  many : 2 ≤ c.points.length
  inOrder : (c.points.map SharePoint.time).Pairwise (· < ·)

/-- The picture of stacked areas. Snapshot by snapshot the borders climb from the bottom towards the
    top; the areas are painted from the last league to the first, each inside of the ones before;
    and what is left to see of an area in the column of a snapshot is a band as high as the league's
    share. -/
structure Stacked (c : LeagueChart Rat) (f : Frame Rat) (view : Viewport Rat)
    (drawing : Drawing Rat) : Prop where
  shares : ∀ p ∈ c.points, ∀ k < c.leagues.length,
    0 ≤ height k p ∧ height k p ≤ 100 ∧ heightBelow k p ≤ height k p
  points : drawing.points = (c.lines view).flatten
  rows : ∀ q ∈ drawing.points, 0 ≤ q.place.y ∧ q.place.y ≤ f.height
  lines : ∀ k line line', (c.lines view)[k]? = some line → (c.lines view)[k + 1]? = some line' →
    List.Forall₂ (fun q q' => q'.place.x = q.place.x ∧ q'.place.y ≤ q.place.y) line line'
  painted : ∃ axes, drawing.marks = c.areas f view ++ axes
  nested : ∀ (i j : Nat) (m m' : Mark Rat), i ≤ j → (c.areas f view)[i]? = some m →
    (c.areas f view)[j]? = some m' →
    ∀ p, m'.Fills p → m.Fills p
  seen : f.width ≠ 0 → ∀ p ∈ c.points, ∀ k < c.leagues.length, ∀ y,
    Mark.SeenAt (c.areas f view) (c.leagues.length - 1 - k)
        (f.locate ⟨view.column (Scalar.ofInt p.time.toInt), y⟩) ↔
      view.row (height k p) ≤ y ∧ y ≤ f.height ∧ (0 < k → y < view.row (heightBelow k p))
  bands : ∀ p ∈ c.points, ∀ k < c.leagues.length,
    view.row (heightBelow k p) - view.row (height k p) = p.share k / 100 * f.height

section Pictures

variable {c : LeagueChart Rat} {f : Frame Rat} {first last : SharePoint Rat} {k : Nat}
  {m : Mark Rat}

theorem shows_of_getElem? {view : Viewport Rat} {i : Nat} (here : (c.areas f view)[i]? = some m) :
    ∃ k < c.leagues.length, i = c.leagues.length - 1 - k ∧ c.Shows f view k m := by
  obtain ⟨inside, -⟩ := List.getElem?_eq_some_iff.mp here
  rw [length_areas] at inside
  have counted : c.leagues.length - 1 - i < c.leagues.length := by omega
  obtain ⟨m', there, shows⟩ := exists_area c f view counted
  have same : c.leagues.length - 1 - (c.leagues.length - 1 - i) = i := by omega
  rw [same, here] at there
  cases there
  exact ⟨_, counted, same.symm, shows⟩

namespace Stackable

variable (h : c.Stackable) (tall : 0 < f.height) (starts : c.points.head? = some first)
  (ends : c.points.getLast? = some last)

include h

/-- The borders climb from the bottom towards the top. -/
theorem height_mem_Icc {p : SharePoint Rat} (listed : p ∈ c.points)
    (inside : k < c.leagues.length) :
    0 ≤ height k p ∧ height k p ≤ 100 ∧ heightBelow k p ≤ height k p := by
  have counted := h.counted p listed ▸ inside
  obtain ⟨low, high⟩ := (h.divides p listed).height_mem_Icc counted
  refine ⟨low, high, ?_⟩
  rw [height_eq_add counted]
  exact le_add_of_nonneg_right ((h.divides p listed).share_nonneg k)

/-- A band is as high as the share of its league. -/
theorem band_eq {p : SharePoint Rat} (listed : p ∈ c.points) (inside : k < c.leagues.length)
    (t u : Int64) :
    (f.timeViewport t u 100).row (heightBelow k p) - (f.timeViewport t u 100).row (height k p) =
      p.share k / 100 * f.height := by
  rw [Frame.row_timeViewport, Frame.row_timeViewport, height_eq_add (h.counted p listed ▸ inside)]
  ring

include tall

theorem row_height_mem_Icc {p : SharePoint Rat} (listed : p ∈ c.points)
    (inside : k < c.leagues.length) (t u : Int64) :
    0 ≤ (f.timeViewport t u 100).row (height k p) ∧
    (f.timeViewport t u 100).row (height k p) ≤ f.height := by
  obtain ⟨low, high⟩ := (h.divides p listed).height_mem_Icc (h.counted p listed ▸ inside)
  exact Frame.row_mem_Icc tall low high

theorem row_height_anti {p : SharePoint Rat} (listed : p ∈ c.points) {j : Nat} (order : j ≤ k)
    (inside : k < c.leagues.length) (t u : Int64) :
    (f.timeViewport t u 100).row (height k p) ≤ (f.timeViewport t u 100).row (height j p) :=
  Frame.row_anti tall ((h.divides p listed).height_mono order (h.counted p listed ▸ inside))

/-- All points of the chart are inside of the graph. -/
theorem place_mem_Icc {t u : Int64} {q : HoverPoint Rat}
    (member : q ∈ (c.lines (f.timeViewport t u 100)).flatten) :
    0 ≤ q.place.y ∧ q.place.y ≤ f.height := by
  obtain ⟨line, listed, inLine⟩ := List.mem_flatten.mp member
  obtain ⟨k, here⟩ := List.mem_iff_getElem?.mp listed
  obtain ⟨inside, rfl⟩ := getElem?_lines_eq_some_iff.mp here
  obtain ⟨⟨p, i⟩, indexed, rfl⟩ := List.mem_map.mp inLine
  have point := List.mem_of_getElem? (List.mk_mem_zipIdx_iff_getElem?.mp indexed)
  exact h.row_height_mem_Icc tall point inside _ _

/-- The line of a league is nowhere below that of the league before it. -/
theorem lines_anti {t u : Int64} {line line' : List (HoverPoint Rat)}
    (here : (c.lines (f.timeViewport t u 100))[k]? = some line)
    (next : (c.lines (f.timeViewport t u 100))[k + 1]? = some line') :
    List.Forall₂ (fun q q' => q'.place.x = q.place.x ∧ q'.place.y ≤ q.place.y) line line' := by
  obtain ⟨-, rfl⟩ := getElem?_lines_eq_some_iff.mp here
  obtain ⟨inside, rfl⟩ := getElem?_lines_eq_some_iff.mp next
  rw [timeLine, timeLine, List.forall₂_map_left_iff, List.forall₂_map_right_iff, List.forall₂_same]
  rintro ⟨p, i⟩ indexed
  have point := List.mem_of_getElem? (List.mk_mem_zipIdx_iff_getElem?.mp indexed)
  exact ⟨rfl, h.row_height_anti tall point (Nat.le_succ k) inside _ _⟩

include starts ends

theorem skyline (inside : k < c.leagues.length) :
    Polygon.Skyline (0 + f.edges.left) (f.width + f.edges.left) (f.height + f.edges.top)
      (c.border f (f.timeViewport first.time last.time 100) k) :=
  LeagueChart.skyline h.many starts ends h.inOrder fun _ listed =>
    (h.row_height_mem_Icc tall listed inside _ _).2

/-- In the column of a snapshot an area fills what is from its border to the bottom. -/
theorem fills_iff (wide : f.width ≠ 0) (inside : k < c.leagues.length)
    (shows : c.Shows f (f.timeViewport first.time last.time 100) k m) {p : SharePoint Rat}
    (listed : p ∈ c.points) (y : Rat) :
    m.Fills (f.locate
      ⟨(f.timeViewport first.time last.time 100).column (Scalar.ofInt p.time.toInt), y⟩) ↔
      (f.timeViewport first.time last.time 100).row (height k p) ≤ y ∧ y ≤ f.height := by
  have apart : 0 + f.edges.left ≠ f.width + f.edges.left := by simpa using wide
  let view := f.timeViewport first.time last.time 100
  have member : f.locate (place view k p) ∈ c.border f view k := List.mem_map_of_mem listed
  have covers := (h.skyline tall starts ends inside).covers_at apart member
    (p := f.locate ⟨view.column (Scalar.ofInt p.time.toInt), y⟩) rfl
  exact (shows _).trans (covers.trans (and_congr (add_le_add_iff_right _) (add_le_add_iff_right _)))

/-- The area of a league lies inside of those of the leagues after it. -/
theorem fills_mono {j : Nat} {m' : Mark Rat} (order : j ≤ k) (inside : k < c.leagues.length)
    (shows : c.Shows f (f.timeViewport first.time last.time 100) k m)
    (shows' : c.Shows f (f.timeViewport first.time last.time 100) j m') {q : Point Rat}
    (filled : m'.Fills q) :
    m.Fills q := by
  refine (shows q).mpr ((h.skyline tall starts ends (lt_of_le_of_lt order inside)).covers_mono
    (h.skyline tall starts ends inside) ?_ ((shows' q).mp filled))
  rw [border, border, List.forall₂_map_left_iff, List.forall₂_map_right_iff, List.forall₂_same]
  exact fun p listed => ⟨rfl, add_le_add_left (h.row_height_anti tall listed order inside _ _) _⟩

/-- A later area lies inside of those that were painted before it. -/
theorem nested {i j : Nat} {m' : Mark Rat} (order : i ≤ j)
    (here : (c.areas f (f.timeViewport first.time last.time 100))[i]? = some m)
    (there : (c.areas f (f.timeViewport first.time last.time 100))[j]? = some m') {q : Point Rat}
    (filled : m'.Fills q) : m.Fills q := by
  obtain ⟨k, inside, rfl, shows⟩ := shows_of_getElem? here
  obtain ⟨k', inside', rfl, shows'⟩ := shows_of_getElem? there
  exact h.fills_mono tall starts ends (show k' ≤ k by omega) inside shows shows' filled

/-- What is left to see of an area is between its border and that of the league before it. -/
theorem seen_iff (wide : f.width ≠ 0) (inside : k < c.leagues.length) {p : SharePoint Rat}
    (listed : p ∈ c.points) (y : Rat) :
    let view := f.timeViewport first.time last.time 100
    Mark.SeenAt (c.areas f view) (c.leagues.length - 1 - k)
        (f.locate ⟨view.column (Scalar.ofInt p.time.toInt), y⟩) ↔
      view.row (height k p) ≤ y ∧ y ≤ f.height ∧ (0 < k → y < view.row (heightBelow k p)) := by
  intro view
  obtain ⟨m, here, shows⟩ := exists_area c f view inside
  have fills := h.fills_iff tall starts ends wide inside shows listed y
  constructor
  · rintro ⟨⟨m', here', filled⟩, last⟩
    cases here.symm.trans here'
    obtain ⟨low, high⟩ := fills.mp filled
    refine ⟨low, high, fun later => ?_⟩
    obtain ⟨j, rfl⟩ := Nat.exists_eq_succ_of_ne_zero later.ne'
    obtain ⟨m', there, shows'⟩ := exists_area c f view (Nat.lt_of_succ_lt inside)
    by_contra under
    refine last _ m' (by omega) there ?_
    exact (h.fills_iff tall starts ends wide (Nat.lt_of_succ_lt inside) shows' listed y).mpr
      ⟨not_lt.mp under, high⟩
  · rintro ⟨low, high, above⟩
    refine ⟨⟨m, here, fills.mpr ⟨low, high⟩⟩, fun i m' later there filled => ?_⟩
    obtain ⟨j, inside', rfl, shows'⟩ := shows_of_getElem? there
    have low' := ((h.fills_iff tall starts ends wide inside' shows' listed y).mp filled).1
    obtain ⟨k, rfl⟩ := Nat.exists_eq_succ_of_ne_zero (show k ≠ 0 by omega)
    have higher := h.row_height_anti tall listed (show j ≤ k by omega) (Nat.lt_of_succ_lt inside)
      first.time last.time
    exact absurd (above (Nat.succ_pos k)) (not_lt.mpr (higher.trans low'))

theorem stacked :
    let view := f.timeViewport first.time last.time 100
    Stacked c f view
      ⟨c.areas f view ++ f.yAxis view .percent ++ f.xAxis view .year c.source.seasons,
      (c.lines view).flatten⟩ := by
  intro view
  exact {
    shares := fun p listed k inside => h.height_mem_Icc listed inside
    points := rfl
    rows := fun q member => h.place_mem_Icc tall member
    lines := fun k line line' here next => h.lines_anti tall here next
    painted := ⟨_, List.append_assoc _ _ _⟩
    nested := fun i j m m' order here there q filled =>
      h.nested tall starts ends order here there filled
    seen := fun wide p listed k inside y => h.seen_iff tall starts ends wide inside listed y
    bands := fun p listed k inside => h.band_eq listed inside _ _
  }

end Stackable

end Pictures

/-! ## Charts of modes -/

section Charts

variable {c ready : LeagueChart Rat} {s : Settings}

theorem leagues_of_accepted (accepted : c.withSettings s = .ok ready) :
    ready.leagues = c.leagues := by
  obtain ⟨newestFirst, -, rfl⟩ := withSettings_eq_ok accepted
  rfl

theorem free_ofControls (s : Settings) (defaultVersion : Id) :
    (Filter.ofControls s defaultVersion).get? .league = none :=
  Filter.get?_ofControls s _ (by decide) (by decide)

theorem stackable (accepted : c.withSettings s = .ok ready)
    (nonneg : ∀ stat ∈ c.source.mode.stats.records, stat.CountsNonneg) (distinct : c.leagues.Nodup)
    (many : 2 ≤ ready.points.length)
    (inOrder : (ready.points.map SharePoint.time).Pairwise (· < ·)) :
    ready.Stackable := by
  refine ⟨fun p listed => ?_, fun p listed => ?_, many, inOrder⟩
  · obtain ⟨stat, recorded, ofStat⟩ := exists_snapshot accepted listed
    exact SharePoint.divides_of_ofStat ofStat (free_ofControls s _) (nonneg stat recorded) distinct
  · obtain ⟨stat, -, ofStat⟩ := exists_snapshot accepted listed
    rw [(SharePoint.counts_of_ofStat ofStat (free_ofControls s _)).2.2, List.length_map,
      leagues_of_accepted accepted]

/-- Where all leagues of a snapshot are ranked, the last border is at the top of the graph. -/
theorem row_last_eq_zero {stat : Stat Rat} {f : Filter} {ranking : List Id} {p : SharePoint Rat}
    (ofStat : SharePoint.ofStat stat f .league ranking = .ok p) (free : f.get? .league = none)
    (all : ranking.Perm (stat.layout.ids .league)) (some : 0 < p.total) (frame : Frame Rat)
    (t u : Int64) :
    0 < ranking.length ∧ (frame.timeViewport t u 100).row (height (ranking.length - 1) p) = 0 := by
  have whole := SharePoint.sum_counts_of_perm ofStat free all
  have length : p.counts.length = ranking.length := by
    rw [(SharePoint.counts_of_ofStat ofStat free).2.2, List.length_map]
  have ranked : 0 < p.counts.length := by
    refine List.length_pos_iff.mpr fun none => ?_
    rw [none] at whole
    exact absurd whole some.ne
  refine ⟨length ▸ ranked, ?_⟩
  rw [← length, height_last ranked, whole, Format.share_eq, if_neg some.ne', Frame.row_timeViewport]
  have full : p.total * 100 / p.total = 100 := mul_div_cancel_left₀ 100 some.ne'
  rw [full]
  ring

/-- The stacked areas of a chart share out the graph among the leagues. -/
theorem areas_share_out_graph {f : Frame Rat} (accepted : c.withSettings s = .ok ready)
    (nonneg : ∀ stat ∈ c.source.mode.stats.records, stat.CountsNonneg) (distinct : c.leagues.Nodup)
    (many : 2 ≤ ready.points.length) (inOrder : (ready.points.map SharePoint.time).Pairwise (· < ·))
    (tall : 0 < f.height) :
    ∃ first last drawing, ready.points.head? = some first ∧ ready.points.getLast? = some last ∧
      ready.draw f = .ok drawing ∧
      let view := f.timeViewport first.time last.time 100
      Stacked ready f view drawing ∧
      ∀ p ∈ ready.points,
        (∃ stat ∈ c.source.mode.stats.records,
          SharePoint.ofStat stat (Filter.ofControls s c.source.defaultVersion) .league c.leagues =
            .ok p) ∧
        ∀ stat,
          SharePoint.ofStat stat (Filter.ofControls s c.source.defaultVersion) .league c.leagues =
            .ok p →
          c.leagues.Perm (stat.layout.ids .league) → 0 < p.total →
          ∃ top, (ready.lines view).getLast? = some top ∧
            ∀ i : Nat, ready.points[i]? = some p → ∃ q, top[i]? = some q ∧ q.place.y = 0 := by
  have stackable := stackable accepted nonneg distinct many inOrder
  have leagues := leagues_of_accepted accepted
  obtain ⟨first, last, span, starts, ends⟩ := exists_span many
  refine ⟨first, last, _, starts, ends, draw_eq span, stackable.stacked tall starts ends,
    fun p listed => ?_⟩
  refine ⟨exists_snapshot accepted listed, fun stat ofStat all some => ?_⟩
  obtain ⟨ranked, top⟩ :=
    row_last_eq_zero ofStat (free_ofControls s _) all some f first.time last.time
  rw [← leagues] at ranked top
  refine ⟨timeLine (f.timeViewport first.time last.time 100) SharePoint.time
    (height (ready.leagues.length - 1)) ready.points, ?_, fun i here => ?_⟩
  · rw [List.getLast?_eq_getElem?, length_lines]
    exact getElem?_lines_eq_some_iff.mpr ⟨by omega, rfl⟩
  · rw [timeLine, List.getElem?_map, List.getElem?_zipIdx, here]
    exact ⟨_, rfl, top⟩

/-- Two days with all leagues ranked, there being no teams on the second. -/
theorem areas_share_out_graph_two_days :
    let stat (time : Int64) (data : Array Rat) : Stat Rat :=
      ⟨.ofIds 1 ⟨[0], [0], [0, 3, 6], [0]⟩, ⟨time, 201, 28, 0, 1, time, data⟩⟩
    let catalog := { Catalog.empty with ranked := ⟨[], [], [6, 0, 3], []⟩ }
    let c : LeagueChart Rat :=
      .new ⟨⟨201, ⟨[stat 86400 #[1, 4, 3], stat 172800 #[0, 0, 0]]⟩⟩, catalog, .ofList [], 0⟩
    let f : Frame Rat := .ofSize .standard 20 1000 300
    (∀ stat ∈ c.source.mode.stats.records, stat.CountsNonneg) ∧ c.leagues.Nodup ∧ 0 < f.height ∧
      ∃ ready, c.withSettings .empty = .ok ready ∧ 2 ≤ ready.points.length ∧
        (ready.points.map SharePoint.time).Pairwise (· < ·) ∧
        ∃ first last drawing, ready.points.head? = some first ∧ ready.points.getLast? = some last ∧
          ready.draw f = .ok drawing ∧
          let view := f.timeViewport first.time last.time 100
          Stacked ready f view drawing ∧
          ∃ top q, (ready.lines view).getLast? = some top ∧ top[0]? = some q ∧ q.place.y = 0 := by
  intro stat catalog c f
  have nonneg : ∀ stat ∈ c.source.mode.stats.records, stat.CountsNonneg := by
    intro stat recorded
    refine Stat.countsNonneg_of_data ?_
    revert stat
    decide +kernel
  have distinct : c.leagues.Nodup := by decide
  have tall : 0 < f.height := by decide +kernel
  let teams : SharePoint Rat := ⟨28, 86400, [3, 1, 4], 8⟩
  have computed : (c.withSettings .empty).map (fun ready => ready.points) =
      .ok [teams, ⟨28, 172800, [0, 0, 0], 0⟩] := by decide +kernel
  cases accepted : c.withSettings .empty with
  | error e =>
      rw [accepted] at computed
      cases computed
  | ok ready =>
      rw [accepted] at computed
      have points : ready.points = [teams, ⟨28, 172800, [0, 0, 0], 0⟩] := Except.ok.inj computed
      have many : 2 ≤ ready.points.length := by simp [points]
      have inOrder : (ready.points.map SharePoint.time).Pairwise (· < ·) := by
        rw [points]
        decide
      obtain ⟨first, last, drawing, starts, ends, drawn, stacked, made⟩ :=
        areas_share_out_graph accepted nonneg distinct many inOrder tall
      obtain ⟨-, reaches⟩ := made teams (by simp [points])
      obtain ⟨top, highest, atTop⟩ :=
        reaches (stat 86400 #[1, 4, 3]) (by decide +kernel) (by decide +kernel) (by decide +kernel)
      obtain ⟨q, here, zero⟩ := atTop 0 (by simp [points])
      exact ⟨nonneg, distinct, tall, ready, rfl, many, inOrder, first, last, drawing, starts, ends,
        drawn, stacked, top, q, highest, here, zero⟩

end Charts

end LeagueChart

end LadderAtlas
