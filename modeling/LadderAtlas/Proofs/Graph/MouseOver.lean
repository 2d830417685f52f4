import LadderAtlas.Proofs.Graph.Hovering
import LadderAtlas.Proofs.Number.Exact

/-! # What the mouse is over

With exact numbers the point under the mouse is the first of the nearest ones, if it is near enough
and the mouse not too far outside of the graph area. What a move leaves behind is a matter of where
the mouse is now: nothing of earlier moves is left in the graph but what the next one replaces.
-/

namespace LadderAtlas

/-! ## The nearest point -/

namespace HoverPoint

/-- The first of the points that are nearest to a place, with its position. -/
structure FirstNearest (points : List (HoverPoint Rat)) (q : Point Rat) (i : Nat)
    (p : HoverPoint Rat) :
    Prop where
  there : points[i]? = some p
  nearest : ∀ (j : Nat) (r : HoverPoint Rat), points[j]? = some r →
    squaredDistance p.place q ≤ squaredDistance r.place q
  first : ∀ (j : Nat) (r : HoverPoint Rat), points[j]? = some r → j < i →
    squaredDistance p.place q < squaredDistance r.place q

/-- What a search has found in the points that it has seen. -/
def Found (seen : List (HoverPoint Rat)) (q : Point Rat) : Option (Nearest Rat) → Prop
  | none => seen = []
  | some n => n.distance = squaredDistance n.point.place q ∧ FirstNearest seen q n.position n.point

/-- The point that comes next takes the place of the nearest one only if it is nearer. -/
theorem Found.next {seen : List (HoverPoint Rat)} {q : Point Rat} {best : Option (Nearest Rat)}
    (h : Found seen q best) (p : HoverPoint Rat) :
    let distance := squaredDistance p.place q
    Found (seen ++ [p]) q (if isNearer best distance then some ⟨seen.length, p, distance⟩
      else best) := by
  intro distance
  have cases {j : Nat} {r : HoverPoint Rat} (there : (seen ++ [p])[j]? = some r) :
      seen[j]? = some r ∨ j = seen.length ∧ r = p := by
    rcases Nat.lt_trichotomy j seen.length with before | same | after
    · rw [List.getElem?_append_left before] at there
      exact .inl there
    · subst same
      exact .inr ⟨rfl, by simpa using there.symm⟩
    · simp [List.getElem?_append_right after.le, Nat.sub_ne_zero_of_lt after] at there
  cases best with
  | none =>
      obtain rfl : seen = [] := h
      have alone {j : Nat} {r : HoverPoint Rat} (there : [p][j]? = some r) : r = p := by
        rcases cases there with none | ⟨-, same⟩
        · cases none
        · exact same
      refine ⟨rfl, rfl, fun j r there => ?_, fun j r there before =>
        absurd before (Nat.not_lt_zero j)⟩
      rw [alone there]
  | some n =>
      obtain ⟨told, there, nearest, first⟩ := h
      by_cases nearer : distance < n.distance
      · have less (j : Nat) (r : HoverPoint Rat) (old : seen[j]? = some r) :
            distance < squaredDistance r.place q :=
          (told ▸ nearer).trans_le (nearest j r old)
        simp only [isNearer, nearer, decide_true, if_true]
        refine ⟨rfl, by simp, fun j r there => ?_, fun j r there before => ?_⟩
        · rcases cases there with old | ⟨-, rfl⟩
          · exact (less j r old).le
          · exact le_refl distance
        · rcases cases there with old | ⟨same, -⟩
          · exact less j r old
          · exact absurd same before.ne
      · simp only [isNearer, nearer, decide_false, Bool.false_eq_true, if_false]
        have inside : n.position < seen.length := (List.getElem?_eq_some_iff.mp there).1
        refine ⟨told, ?_, fun j r found => ?_, fun j r found before => ?_⟩
        · rw [List.getElem?_append_left inside]
          exact there
        · rcases cases found with old | ⟨-, rfl⟩
          · exact nearest j r old
          · rw [← told]
            exact not_lt.mp nearer
        · rcases cases found with old | ⟨same, -⟩
          · exact first j r old before
          · omega

theorem Found.rest {q : Point Rat} (rest : List (HoverPoint Rat)) {seen : List (HoverPoint Rat)}
    {best : Option (Nearest Rat)} (h : Found seen q best) :
    Found (seen ++ rest) q (nearestFrom q seen.length best rest) := by
  induction rest generalizing seen best with
  | nil => simpa [nearestFrom] using h
  | cons p rest ih =>
      have step := ih (h.next p)
      rw [List.append_assoc, List.singleton_append, List.length_append,
        List.length_singleton] at step
      exact step

theorem found_nearest? (points : List (HoverPoint Rat)) (q : Point Rat) :
    Found points q (nearest? points q) := by
  have nothing : Found [] q none := rfl
  exact nothing.rest points

theorem FirstNearest.unique {points : List (HoverPoint Rat)} {q : Point Rat} {i j : Nat}
    {p r : HoverPoint Rat} (h : FirstNearest points q i p) (h' : FirstNearest points q j r) :
    i = j ∧ p = r := by
  have same : i = j := by
    rcases Nat.lt_trichotomy i j with before | same | after
    · exact absurd (h'.first i p h.there before) (not_lt.mpr (h.nearest j r h'.there))
    · exact same
    · exact absurd (h.first j r h'.there after) (not_lt.mpr (h'.nearest i p h.there))
  subst same
  exact ⟨rfl, Option.some.inj (h.there.symm.trans h'.there)⟩

theorem exists_firstNearest {points : List (HoverPoint Rat)} {p : HoverPoint Rat}
    (member : p ∈ points) (q : Point Rat) : ∃ i n, FirstNearest points q i n := by
  have found := found_nearest? points q
  cases search : nearest? points q with
  | none =>
      rw [search] at found
      have none : points = [] := found
      rw [none] at member
      cases member
  | some n =>
      rw [search] at found
      exact ⟨n.position, n.point, found.2⟩

end HoverPoint

/-- Whether a place is in the graph area or at most half of the edges away from it. -/
structure Frame.Reaches (f : Frame Rat) (p : Point Rat) : Prop where
  left : -f.edges.left / 2 ≤ p.x
  right : p.x ≤ f.width + f.edges.right / 2
  top : -f.edges.top / 2 ≤ p.y
  bottom : p.y ≤ f.height + f.edges.bottom / 2

namespace Graph

section Under

variable {κ : Type}

theorem isOutside_eq_false_iff {f : Frame Rat} {p : Point Rat} :
    isOutside f p = false ↔ f.Reaches p := by
  simp only [isOutside, Bool.or_eq_false_iff, decide_eq_false_iff_not, not_lt]
  exact ⟨fun ⟨⟨⟨left, right⟩, top⟩, bottom⟩ => ⟨left, right, top, bottom⟩,
    fun ⟨left, right, top, bottom⟩ => ⟨⟨⟨left, right⟩, top⟩, bottom⟩⟩

/-- The point under the mouse is the first of the nearest, within the radius and not too far out. -/
theorem hit?_eq_some_iff {g : Graph κ Rat} {mouse : Point Rat} {p : HoverPoint Rat} :
    g.hit? mouse = some p ↔ g.plot.frame.Reaches mouse ∧
      (∃ i, HoverPoint.FirstNearest g.points mouse i p) ∧
      HoverPoint.squaredDistance p.place mouse < g.options.hoverRadius * g.options.hoverRadius := by
  by_cases outside : isOutside g.plot.frame mouse = true
  · have far : ¬ g.plot.frame.Reaches mouse := by
      rw [← isOutside_eq_false_iff, outside]
      decide
    simp [hit?, outside, far]
  · have reaches : g.plot.frame.Reaches mouse := isOutside_eq_false_iff.mp (by simpa using outside)
    have found := HoverPoint.found_nearest? g.points mouse
    rw [hit?, if_neg outside]
    cases search : HoverPoint.nearest? g.points mouse with
    | none =>
        rw [search] at found
        have none : g.points = [] := found
        constructor
        · intro never
          cases never
        · rintro ⟨-, ⟨i, first⟩, -⟩
          have there := first.there
          rw [none] at there
          cases there
    | some n =>
        rw [search] at found
        obtain ⟨told, first⟩ := found
        simp only [told]
        constructor
        · intro hit
          split at hit
          · next near =>
              cases hit
              exact ⟨reaches, ⟨n.position, first⟩, near⟩
          · cases hit
        · rintro ⟨-, ⟨i, first'⟩, near⟩
          obtain ⟨-, rfl⟩ := first.unique first'
          rw [if_pos near]

/-- There is a point under the mouse wherever some point is near enough. -/
theorem isSome_hit?_iff (g : Graph κ Rat) (mouse : Point Rat) :
    (g.hit? mouse).isSome = true ↔ g.plot.frame.Reaches mouse ∧ ∃ p ∈ g.points,
      HoverPoint.squaredDistance p.place mouse < g.options.hoverRadius * g.options.hoverRadius := by
  rw [Option.isSome_iff_exists]
  constructor
  · intro ⟨p, hit⟩
    obtain ⟨reaches, ⟨i, first⟩, near⟩ := hit?_eq_some_iff.mp hit
    exact ⟨reaches, p, List.mem_of_getElem? first.there, near⟩
  · intro ⟨reaches, p, member, near⟩
    obtain ⟨j, there⟩ := List.getElem?_of_mem member
    obtain ⟨i, n, first⟩ := HoverPoint.exists_firstNearest member mouse
    exact ⟨n, hit?_eq_some_iff.mpr ⟨reaches, ⟨i, first⟩, (first.nearest j p there).trans_lt near⟩⟩

end Under

/-! ## A move of the mouse -/

section Move

variable {κ : Type} [Chart κ Rat]

/-- What a graph shows with the mouse at a place of the graph area: the crosshair through the first
    of the nearest points and its tooltip, if the mouse is over a point, and nothing if it is
    not. -/
structure Hovers (g : Graph κ Rat) (chart : κ) (mouse : Point Rat) (g' : Graph κ Rat) : Prop where
  pinned : g'.crosshair.isSome = true ↔ g.plot.frame.Reaches mouse ∧ ∃ p ∈ g.points,
    HoverPoint.squaredDistance p.place mouse < g.options.hoverRadius * g.options.hoverRadius
  nearest : ∀ place, g'.crosshair = some place → ∃ i p callout,
    HoverPoint.FirstNearest g.points mouse i p ∧ p.place = place ∧ g'.page.shown = some callout ∧
      callout.tooltip = Chart.tooltip chart p.index ∧
      callout.left + callout.tooltip.width ≤ g'.plot.width - 10
  hidden : g'.crosshair = none → g'.page.shown = none

theorem hovers_moveMouse {g : Graph κ Rat} {chart : κ} (installed : g.chart = some chart)
    {d : Drawing Rat} (drawn : Chart.draw chart g.plot.frame = .ok d) (place : Point Rat) :
    (g.moveMouse place).2 = .ok () ∧ (g.moveMouse place).1.points = d.points ∧
      g.Hovers chart ⟨place.x - g.plot.frame.edges.left, place.y - g.plot.frame.edges.top⟩
        (g.moveMouse place).1 := by
  generalize mouse :
    (⟨place.x - g.plot.frame.edges.left, place.y - g.plot.frame.edges.top⟩ : Point Rat) = q
  cases under : g.hit? q with
  | none =>
      have moved : g.moveMouse place = (({ g.tell .hideTip with crosshair := none }).cleared.put d,
          .ok ()) := by
        simp only [moveMouse, installed, mouse, under]
        exact redraw_of_drawn installed drawn
      have nothing := isSome_hit?_iff g q
      rw [under] at nothing
      rw [moved]
      refine ⟨rfl, rfl, nothing, ?_, fun _ => rfl⟩
      intro there pinned
      cases pinned
  | some p =>
      obtain ⟨-, ⟨i, first⟩, -⟩ := hit?_eq_some_iff.mp under
      have something := isSome_hit?_iff g q
      rw [under] at something
      have moved : g.moveMouse place = g.hover chart p := by
        simp only [moveMouse, installed, mouse, under]
      have hovered : ∃ callout : Callout Rat, callout.tooltip = Chart.tooltip chart p.index ∧
          callout.left + callout.tooltip.width ≤ g.plot.width - 10 ∧
          g.hover chart p =
            (({ g.tell (.showTip callout) with crosshair := some p.place }).cleared.put d,
              .ok ()) := by
        refine ⟨_, rfl, ?_, redraw_of_drawn installed drawn⟩
        have bound := min_le_right (p.place.x + g.plot.frame.edges.left + 20)
          (g.plot.width - (Chart.tooltip chart p.index).width - 10)
        rw [← Scalar.min_eq] at bound
        dsimp only
        linarith
      obtain ⟨callout, tooltip, left, outcome⟩ := hovered
      rw [moved, outcome]
      refine ⟨rfl, rfl, something, ?_, ?_⟩
      · intro there pinned
        exact ⟨i, p, callout, first, Option.some.inj pinned, rfl, tooltip, left⟩
      · intro unpinned
        cases unpinned

end Move

/-! ## Earlier moves -/

section Still

variable {κ α : Type} [Scalar α]

/-- A graph as if the mouse had never been there: nothing is pinned, shown or told, and the canvas
    is fresh. -/
def still (g : Graph κ α) : Graph κ α :=
  { g with
    crosshair := none
    page := { g.page with shown := none, told := [] }
    plot := { g.plot with canvas := .resize g.plot.width g.plot.height } }

/-- A graph without the record of what its page was told. -/
def untold (g : Graph κ α) : Graph κ α := { g with page := { g.page with told := [] } }

/-- Two outcomes of an event that differ at most in what the page was told. -/
def SameOutcome (r r' : Result κ α) : Prop := r.1.untold = r'.1.untold ∧ r.2 = r'.2

def Event.isMove : Event κ α → Bool
  | .moveMouse _ => true
  | _ => false

theorem still_put (g : Graph κ α) (d : Drawing α) :
    (g.put d).still = { g with points := d.points }.still := by
  cases pinned : g.crosshair <;> simp [put, pinned, still, Plot.drawAll]

variable [Chart κ α]

/-- Where the mouse was makes no difference to what a redrawing leaves for later. -/
theorem still_redraw (g : Graph κ α) : g.redraw.1.still = g.still.redraw.1.still := by
  cases installed : g.chart with
  | none =>
      have installed' : g.still.chart = none := installed
      simp only [redraw, installed, installed']
      rfl
  | some chart =>
      have installed' : g.still.chart = some chart := installed
      cases drawn : Chart.draw chart g.plot.frame with
      | ok d =>
          have drawn' : Chart.draw chart g.still.plot.frame = .ok d := drawn
          rw [redraw_of_drawn installed drawn, redraw_of_drawn installed' drawn',
            still_put, still_put]
          rfl
      | error e =>
          have drawn' : Chart.draw chart g.still.plot.frame = .error e := drawn
          rw [redraw_of_failed installed drawn, redraw_of_failed installed' drawn']
          rfl

theorem still_redraw_congr {g g' : Graph κ α} (same : g.still = g'.still) :
    g.redraw.1.still = g'.redraw.1.still := by
  rw [still_redraw, same, ← still_redraw]

/-- A redrawing that changes no points leaves everything for later as it was. -/
theorem still_redraw_self {g : Graph κ α} (tracks : g.points = g.drawnPoints) :
    g.redraw.1.still = g.still := by
  cases installed : g.chart with
  | none => simp only [redraw, installed]
  | some chart =>
      cases drawn : Chart.draw chart g.plot.frame with
      | ok d =>
          have points : g.points = d.points := by simp only [tracks, drawnPoints, installed, drawn]
          rw [redraw_of_drawn installed drawn, still_put, ← points]
          rfl
      | error e =>
          have points : g.points = [] := by simp only [tracks, drawnPoints, installed, drawn]
          rw [redraw_of_failed installed drawn]
          simp [still, cleared, tell, Page.tell, Plot.clear, Plot.draw, points]

theorem still_step (g : Graph κ α) {e : Event κ α} (still : e.isMove = false) :
    (g.step e).1.still = (g.still.step e).1.still := by
  cases e with
  | init chart =>
      have same : g.still.sized chart = g.sized chart := rfl
      simp only [sized] at same
      simp only [step, init, same]
      have settings : g.still.settings = g.settings := rfl
      rw [settings]
      split
      · rfl
      · exact still_redraw_congr rfl
  | resize width =>
      have chart : ({ g.still with page := { g.still.page with width := width } }.fitCanvas).chart =
        ({ g with page := { g.page with width := width } }.fitCanvas).chart := rfl
      simp only [step, resize, chart]
      split
      · rfl
      · exact still_redraw_congr rfl
  | setControl name value =>
      have chart : g.still.chart = g.chart := rfl
      have settings : g.still.settings = g.settings := rfl
      simp only [step, setControl, chart, settings]
      split
      · rfl
      · split
        · rfl
        · exact still_redraw_congr rfl
  | moveMouse place => cases still

theorem still_moveMouse {g : Graph κ α} (tracks : Tracks g) (place : Point α) :
    (g.moveMouse place).1.still = g.still := by
  unfold moveMouse
  split
  · rfl
  · dsimp only
    split
    · exact still_redraw_self tracks.points
    · exact still_redraw_self tracks.points

theorem still_after_of_still (g : Graph κ α) {events : List (Event κ α)}
    (still : ∀ e ∈ events, e.isMove = false) :
    (g.after events).still = (g.still.after events).still := by
  induction events generalizing g with
  | nil => rfl
  | cons e events ih =>
      have rest := fun g => ih g fun e' member => still e' (List.mem_cons_of_mem e member)
      have step : (g.step e).1.still = (g.still.step e).1.still :=
        g.still_step (still e List.mem_cons_self)
      calc ((g.step e).1.after events).still = ((g.step e).1.still.after events).still := rest _
        _ = ((g.still.step e).1.after events).still := by rw [step, ← rest]

/-- Moves of the mouse can be left out of a run: what they leave for later is nothing. -/
theorem still_after [AtomicChart κ] {g : Graph κ α} (tracks : Tracks g)
    (events : List (Event κ α)) :
    (g.after events).still = (g.after (events.filter fun e => !e.isMove)).still := by
  induction events generalizing g with
  | nil => rfl
  | cons e events ih =>
      have others : ∀ e ∈ events.filter fun e => !e.isMove, e.isMove = false := by simp
      have rest := ih (tracks.change (g.change e))
      cases kind : e.isMove with
      | false =>
          rw [List.filter_cons_of_pos (by simp [kind])]
          exact rest
      | true =>
          rw [List.filter_cons_of_neg (by simp [kind])]
          have moved : (g.step e).1.still = g.still := by
            cases e with
            | moveMouse place => exact still_moveMouse tracks place
            | _ => cases kind
          calc ((g.step e).1.after events).still
              = ((g.step e).1.still.after (events.filter fun e => !e.isMove)).still := by
                rw [← still_after_of_still _ others]
                exact rest
            _ = (g.after (events.filter fun e => !e.isMove)).still := by
                rw [moved, ← still_after_of_still _ others]

end Still

variable {κ : Type}

/-- A rectangle of the canvas's own size covers the canvas. -/
theorem hiddenBy_backdrop {p : Plot Rat} (width : p.canvas.width = p.width)
    (height : p.canvas.height = p.height) : p.canvas.hiddenBy (p.backdrop 1) = true := by
  simp [Canvas.hiddenBy, Plot.backdrop, Canvas.covers, width, height]

theorem Fitted.clear_still {g : Graph κ Rat} (h : Fitted g) :
    g.plot.clear 1 = g.still.plot.clear 1 := by
  have width : g.plot.canvas.width = g.plot.width := by rw [h.width, h.plot]
  have height : g.plot.canvas.height = g.plot.height := by rw [h.height, h.plot]
  have covered := hiddenBy_backdrop width height
  have covered' : g.still.plot.canvas.hiddenBy (g.still.plot.backdrop 1) = true :=
    hiddenBy_backdrop rfl rfl
  rw [Plot.clear, Plot.clear, Plot.draw, Plot.draw, Canvas.draw_of_hidden covered,
    Canvas.draw_of_hidden covered', width, height]
  rfl

variable [Chart κ Rat]

theorem sameOutcome_redraw {g g' : Graph κ Rat} (same : g.cleared.untold = g'.cleared.untold)
    {chart : κ} (installed : g.chart = some chart) : SameOutcome g.redraw g'.redraw := by
  have installed' : g'.chart = some chart := (congrArg Graph.chart same).symm.trans installed
  have frame : g.plot.frame = g'.plot.frame := congrArg (fun h => h.plot.frame) same
  have put (h : Graph κ Rat) (d : Drawing Rat) : (h.put d).untold = h.untold.put d := by
    cases pinned : h.crosshair <;> simp [Graph.put, pinned, untold]
  let hide (h : Graph κ Rat) : Graph κ Rat := ({ h with crosshair := none }.tell .hideTip).untold
  cases drawn : Chart.draw chart g.plot.frame with
  | ok d =>
      rw [redraw_of_drawn installed drawn, redraw_of_drawn installed' (frame ▸ drawn)]
      refine ⟨?_, rfl⟩
      rw [put, put, same]
  | error e =>
      rw [redraw_of_failed installed drawn, redraw_of_failed installed' (frame ▸ drawn)]
      have hidden : hide g.cleared.untold = hide g'.cleared.untold := by rw [same]
      exact ⟨hidden, rfl⟩

/-- A move makes of a graph what it would make of it if the mouse had never been there. -/
theorem Fitted.moveMouse_still {g : Graph κ Rat} (h : Fitted g) {chart : κ}
    (installed : g.chart = some chart) (place : Point Rat) :
    SameOutcome (g.moveMouse place) (g.still.moveMouse place) := by
  have installed' : g.still.chart = some chart := installed
  have frame : g.still.plot.frame = g.plot.frame := rfl
  have hit (q : Point Rat) : g.still.hit? q = g.hit? q := rfl
  have clear := h.clear_still
  -- The places before the two redrawings differ in the canvas only, which is cleared, and in what
  -- was told.
  let moved (shown : Option (Callout Rat)) (pinned : Option (Point Rat)) (plot : Plot Rat) :
      Graph κ Rat :=
    { g with
      plot := plot
      points := []
      crosshair := pinned
      page := { g.page with shown := shown, told := [] } }
  simp only [moveMouse, installed, installed', frame, hit]
  split
  · exact sameOutcome_redraw (congrArg (moved (some _) (some _)) clear) installed
  · exact sameOutcome_redraw (congrArg (moved none none) clear) installed

/-- On a new page, what came before a move makes no difference to it but for the events that are no
    moves. -/
theorem sameOutcome_moveMouse [AtomicChart κ] (options : GraphOptions Rat) (page : Page Rat)
    (settings : Settings) {events others : List (Event κ Rat)}
    (alike : (events.filter fun e => !e.isMove) = others.filter fun e => !e.isMove) {chart : κ}
    (installed : ((new options page settings : Graph κ Rat).after events).chart = some chart)
    (place : Point Rat) :
    SameOutcome (((new options page settings : Graph κ Rat).after events).moveMouse place)
      (((new options page settings : Graph κ Rat).after others).moveMouse place) := by
  have tracks : Tracks (new options page settings : Graph κ Rat) := ⟨rfl, fun _ => rfl⟩
  have fitted (events : List (Event κ Rat)) :
      Fitted ((new options page settings : Graph κ Rat).after events) :=
    after_induction (P := Fitted) (fitted_fitCanvas _ rfl rfl) fun _ _ _ _ h change =>
      h.change change
  have same : ((new options page settings : Graph κ Rat).after events).still =
      ((new options page settings : Graph κ Rat).after others).still := by
    rw [still_after tracks events, alike, ← still_after tracks others]
  have installed' : ((new options page settings : Graph κ Rat).after others).chart = some chart :=
    (congrArg Graph.chart same).symm.trans installed
  have first := (fitted events).moveMouse_still installed place
  have second := (fitted others).moveMouse_still installed' place
  rw [same] at first
  exact ⟨first.1.trans second.1.symm, first.2.trans second.2.symm⟩

/-- For a graph with a chart that can be drawn, whatever points it keeps: a move of the mouse is
    answered as `Hovers` says. In what events have made of a graph on a new page, nothing is left of
    earlier moves: a move has the outcome that it would have without them, or after others, and the
    same one again if it is repeated. -/
theorem hover_follows_mouse :
    (∀ (g : Graph κ Rat) (chart : κ) (d : Drawing Rat) (place : Point Rat), g.chart = some chart →
      Chart.draw chart g.plot.frame = .ok d →
      (g.moveMouse place).2 = .ok () ∧ (g.moveMouse place).1.points = d.points ∧
        g.Hovers chart ⟨place.x - g.plot.frame.edges.left, place.y - g.plot.frame.edges.top⟩
          (g.moveMouse place).1) ∧
    ∀ [AtomicChart κ] (options : GraphOptions Rat) (page : Page Rat) (settings : Settings)
      (events others : List (Event κ Rat)) (place : Point Rat),
      let g : Graph κ Rat := (new options page settings).after events
      let g' : Graph κ Rat := (new options page settings).after others
      g.chart.isSome = true →
      ((events.filter fun e => !e.isMove) = (others.filter fun e => !e.isMove) →
        SameOutcome (g.moveMouse place) (g'.moveMouse place)) ∧
      SameOutcome ((g.moveMouse place).1.moveMouse place) (g.moveMouse place) := by
  constructor
  · intro g chart d place installed drawn
    exact hovers_moveMouse installed drawn place
  · intro _ options page settings events others place g g' some
    obtain ⟨chart, installed⟩ := Option.isSome_iff_exists.mp some
    refine ⟨fun alike => sameOutcome_moveMouse options page settings alike installed place, ?_⟩
    have alike : (events.filter fun e => !e.isMove) =
        (events ++ [Event.moveMouse place]).filter fun e => !e.isMove := by simp [Event.isMove]
    have again := sameOutcome_moveMouse options page settings alike installed place
    rw [after_concat] at again
    exact ⟨again.1.symm, again.2.symm⟩

/-- Two snapshots of one race, a day apart. -/
def exactDays : ChartSource Rat :=
  let snapshot (id : Int64) : Stat Rat :=
    ⟨.ofIds 4 ⟨[0], [0], [0], [0]⟩, ⟨id, 201, 28, 0, 1, id * 86400, #[10, 6, 4, 0]⟩⟩
  ⟨⟨201, ⟨[snapshot 1, snapshot 2]⟩⟩, { Catalog.empty with ranked := ⟨[0], [0], [0], [0]⟩ },
    .ofList [], 0⟩

/-- The mouse comes from far outside to the second point of a race, or from the first one. -/
theorem hover_follows_mouse_exactDays :
    let start : Graph (RaceChart Rat) Rat := new .standard (.ofWidth 1000) .empty
    let events : List (Event (RaceChart Rat) Rat) := [.init (.new exactDays), .moveMouse ⟨0, 500⟩]
    let others : List (Event (RaceChart Rat) Rat) :=
      [.moveMouse ⟨64, 20⟩, .init (.new exactDays), .moveMouse ⟨64, 20⟩]
    let g := start.after events
    let g' := start.after others
    (∃ chart d, g.chart = some chart ∧ Chart.draw chart g.plot.frame = .ok d ∧
      g.Hovers chart ⟨950 - g.plot.frame.edges.left, 25 - g.plot.frame.edges.top⟩
        (g.moveMouse ⟨950, 25⟩).1) ∧
      g.chart.isSome = true ∧
      (events.filter fun e => !e.isMove) = (others.filter fun e => !e.isMove) ∧
      g'.crosshair = some ⟨0, 0⟩ ∧ (g'.moveMouse ⟨950, 25⟩).1.crosshair = some ⟨896, 0⟩ ∧
      SameOutcome (g.moveMouse ⟨950, 25⟩) (g'.moveMouse ⟨950, 25⟩) := by
  intro start events others g g'
  have there : g.chart.isSome = true := by decide +kernel
  have alike : (events.filter fun e => !e.isMove) = (others.filter fun e => !e.isMove) := rfl
  have pinned : g'.crosshair = some ⟨0, 0⟩ ∧
      (g'.moveMouse ⟨950, 25⟩).1.crosshair = some ⟨896, 0⟩ := by decide +kernel
  have drawn : (g.chart.map fun chart => (Chart.draw chart g.plot.frame).isOk) = some true := by
    decide +kernel
  obtain ⟨chart, installed⟩ := Option.isSome_iff_exists.mp there
  refine ⟨⟨chart, ?_⟩, there, alike, pinned.1, pinned.2, ?_⟩
  · rw [installed] at drawn
    cases result : Chart.draw chart g.plot.frame with
    | ok d => exact ⟨d, installed, rfl,
      (hover_follows_mouse.1 g chart d ⟨950, 25⟩ installed result).2.2⟩
    | error e =>
        rw [Option.map_some, result] at drawn
        cases drawn
  · exact (hover_follows_mouse.2 .standard (.ofWidth 1000) .empty events others ⟨950, 25⟩ there).1
      alike

end Graph

end LadderAtlas
