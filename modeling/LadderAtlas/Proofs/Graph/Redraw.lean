import LadderAtlas.Proofs.Chart.Computing
import LadderAtlas.Proofs.Number.DoubleOrder

/-! # Nothing stale is ever seen

After every event the plot is the one that a new graph would have drawn. The plot and its canvas
always have the same size, so the black rectangle that each redrawing begins with covers the canvas,
and neither a mark nor the definition of a gradient is left from before.
-/

namespace LadderAtlas

/-! ## Canvases -/

section Canvas

variable {α : Type} [Scalar α]

theorem Canvas.draw_of_hidden {c : Canvas α} {m : Mark α} (hidden : c.hiddenBy m = true) :
    c.draw m = (resize c.width c.height).paint m := by
  simp [draw, hidden]

@[simp]
theorem Canvas.draw_width (c : Canvas α) (m : Mark α) : (c.draw m).width = c.width := by
  unfold draw
  split <;> rfl

@[simp]
theorem Canvas.draw_height (c : Canvas α) (m : Mark α) : (c.draw m).height = c.height := by
  unfold draw
  split <;> rfl

theorem Canvas.drawAll_size (c : Canvas α) (ms : List (Mark α)) :
    (c.drawAll ms).width = c.width ∧ (c.drawAll ms).height = c.height := by
  induction ms generalizing c with
  | nil => exact ⟨rfl, rfl⟩
  | cons m ms ih =>
      obtain ⟨width, height⟩ := ih (c.draw m)
      exact ⟨width.trans (c.draw_width m), height.trans (c.draw_height m)⟩

/-- A crosshair is two white lines of one pixel across the whole canvas, a level one and then an
    upright one, in the middle of the pixels that the place is in. -/
theorem Plot.crosshair_eq (p : Plot α) (place : Point α) :
    p.crosshair place =
      let x := Scalar.round (place.x + p.frame.edges.left) + 0.5
      let y := Scalar.round (place.y + p.frame.edges.top) + 0.5
      [.stroke [⟨0 + 0, y + 0⟩, ⟨p.width + 0, y + 0⟩] (.color Palette.white) 1,
        .stroke [⟨x + 0, 0 + 0⟩, ⟨x + 0, p.height + 0⟩] (.color Palette.white) 1] := rfl

theorem Plot.drawAll_append (p : Plot α) (first second : List (Mark α)) :
    p.drawAll (first ++ second) = (p.drawAll first).drawAll second := by
  simp only [drawAll, Canvas.drawAll, List.foldl_append]

end Canvas

/-- A rectangle of the canvas's own size covers the canvas, if the size is one. -/
theorem Canvas.hiddenBy_own {c : Canvas Float} (width : c.width.isNaN = false)
    (height : c.height.isNaN = false) (style : Style Float) :
    c.hiddenBy (.rect ⟨0, 0, c.width, c.height⟩ style 1) = true := by
  have zero : (0 : Float) ≤ 0 := Binary64.le_self rfl
  have one : (1 : Float) ≤ 1 := Binary64.le_self rfl
  have wide : c.width ≤ 0 + c.width := Binary64.le_zero_add width
  have high : c.height ≤ 0 + c.height := Binary64.le_zero_add height
  simp only [hiddenBy, covers]
  rw [decide_eq_true zero, decide_eq_true one, decide_eq_true wide, decide_eq_true high]
  rfl

/-- A plot whose canvas has its own size is cleared to nothing but black. -/
theorem Plot.clear_eq {p : Plot Float} (sameWidth : p.canvas.width = p.width)
    (sameHeight : p.canvas.height = p.height) (width : p.width.isNaN = false)
    (height : p.height.isNaN = false) :
    p.clear 1 = { p with canvas := (Canvas.resize p.width p.height).paint (p.backdrop 1) } := by
  have hidden : p.canvas.hiddenBy (p.backdrop 1) = true := by
    rw [backdrop, ← sameWidth, ← sameHeight]
    exact Canvas.hiddenBy_own (by rw [sameWidth, width]) (by rw [sameHeight, height]) _
  rw [clear, draw, Canvas.draw_of_hidden hidden, sameWidth, sameHeight]

/-! ## Graphs -/

namespace Graph

section Size

variable {κ α : Type} [Scalar α]

/-- A plot without marks, of the size that the page gives. -/
def fresh (g : Graph κ α) : Plot α :=
  (Plot.blank g.options.edges g.options.margin).resize g.page.width
    (canvasHeight g.options g.page.width)

/-- The plot, and its canvas, have the size that the page gives. -/
structure Fitted (g : Graph κ α) : Prop where
  plot : g.plot = { g.fresh with canvas := g.plot.canvas }
  width : g.plot.canvas.width = g.fresh.width
  height : g.plot.canvas.height = g.fresh.height

theorem Fitted.drawAll {g g' : Graph κ α} (h : Fitted g) (same : g'.fresh = g.fresh)
    {ms : List (Mark α)} (drawn : g'.plot = g.plot.drawAll ms) : Fitted g' := by
  obtain ⟨width, height⟩ := g.plot.canvas.drawAll_size ms
  refine ⟨?_, ?_, ?_⟩
  · rw [drawn, same, Plot.drawAll, h.plot]
  · rw [drawn, same]
    exact width.trans h.width
  · rw [drawn, same]
    exact height.trans h.height

theorem fitted_fitCanvas (g : Graph κ α) (edges : g.plot.frame.edges = g.options.edges)
    (margin : g.plot.frame.margin = g.options.margin) : Fitted g.fitCanvas := by
  refine ⟨?_, rfl, rfl⟩
  simp [fitCanvas, fresh, Plot.resize, Plot.blank, edges, margin]

theorem Fitted.congr {g g' : Graph κ α} (h : Fitted g) (same : g'.fresh = g.fresh)
    (plot : g'.plot = g.plot) : Fitted g' := by
  refine ⟨?_, ?_, ?_⟩
  · rw [plot, same]
    exact h.plot
  · rw [plot, same]
    exact h.width
  · rw [plot, same]
    exact h.height

theorem Fitted.widen {g : Graph κ α} (h : Fitted g) (width : α) : Fitted (g.widen width) := by
  have frame : g.plot.frame = g.fresh.frame := by rw [h.plot]
  exact fitted_fitCanvas _ (congrArg Frame.edges frame) (congrArg Frame.margin frame)

theorem put_draws (g : Graph κ α) (d : Drawing α) : ∃ ms, (g.put d).plot = g.plot.drawAll ms := by
  cases pinned : g.crosshair with
  | none => exact ⟨d.marks, by simp [put, pinned]⟩
  | some place =>
      refine ⟨d.marks ++ (g.plot.drawAll d.marks).crosshair place, ?_⟩
      simp [put, pinned, Plot.drawAll_append]

/-- The lines that are drawn last: none, or a level and an upright one over the whole canvas that
    the page gives, white, one pixel wide and in the middle of pixels. -/
def lastLines (g : Graph κ α) : List (Mark α) :=
  match g.crosshair with
  | none => []
  | some place =>
    let x := Scalar.round (place.x + g.options.edges.left) + 0.5
    let y := Scalar.round (place.y + g.options.edges.top) + 0.5
    let width := g.page.width
    let height := canvasHeight g.options g.page.width
    [.stroke [⟨0 + 0, y + 0⟩, ⟨width + 0, y + 0⟩] (.color Palette.white) 1,
      .stroke [⟨x + 0, 0 + 0⟩, ⟨x + 0, height + 0⟩] (.color Palette.white) 1]

/-- What is drawn over the marks of a chart that fits the page. -/
theorem put_fresh (g : Graph κ α) (d : Drawing α) (plot : g.plot = g.fresh.clear 1) :
    (g.put d).plot = (g.fresh.clear 1).drawAll (d.marks ++ g.lastLines) := by
  rw [Plot.drawAll_append]
  cases pinned : g.crosshair with
  | none =>
      simp only [put, pinned, plot, lastLines]
      rfl
  | some place =>
      simp only [put, pinned, plot, lastLines, Plot.crosshair_eq]
      rfl

variable [Chart κ α]

/-- What a graph shows if everything is drawn on a fresh canvas: black, the chart, the crosshair.
    The points that answer to the mouse are those of the drawing. -/
def picture (g : Graph κ α) (chart : κ) : Plot α × List (HoverPoint α) :=
  let blank := g.fresh.clear 1
  match Chart.draw chart blank.frame with
  | .error _ => (blank, [])
  | .ok drawing => (blank.drawAll (drawing.marks ++ g.lastLines), drawing.points)

theorem redraw_draws (g : Graph κ α) : ∃ ms, g.redraw.1.plot = g.plot.drawAll ms := by
  unfold redraw
  split
  · exact ⟨[], rfl⟩
  · dsimp only
    split
    · next drawing _ =>
        obtain ⟨ms, drawn⟩ := g.cleared.put_draws drawing
        exact ⟨g.plot.backdrop 1 :: ms, drawn⟩
    · exact ⟨[g.plot.backdrop 1], rfl⟩

/-- What a redrawing does not touch. -/
theorem redraw_keeps (g : Graph κ α) : g.redraw.1.options = g.options ∧
    g.redraw.1.page.width = g.page.width ∧ g.redraw.1.chart = g.chart := by
  unfold redraw
  split
  · exact ⟨rfl, rfl, rfl⟩
  · dsimp only
    split <;> exact ⟨rfl, rfl, rfl⟩

theorem redraw_fresh (g : Graph κ α) : g.redraw.1.fresh = g.fresh := by
  obtain ⟨options, width, -⟩ := g.redraw_keeps
  rw [fresh, options, width]
  rfl

theorem Fitted.redrawn {g : Graph κ α} (h : Fitted g) : Fitted g.redraw.1 := by
  obtain ⟨ms, drawn⟩ := g.redraw_draws
  exact h.drawAll g.redraw_fresh drawn

theorem Fitted.change {g g' : Graph κ α} {e : Event κ α} (h : Fitted g) (change : Change g e g') :
    Fitted g' := by
  cases change with
  | refuseChart refused => exact h
  | install accepted => exact Fitted.redrawn (h.congr rfl rfl)
  | fit empty => exact h.widen _
  | refit installed => exact Fitted.redrawn ((h.widen _).congr rfl rfl)
  | store empty => exact h.congr rfl rfl
  | refuseControl installed refused => exact h.congr rfl rfl
  | recompute installed accepted => exact Fitted.redrawn (h.congr rfl rfl)
  | ignore empty => exact h
  | hover installed under => exact Fitted.redrawn (h.congr rfl rfl)
  | leave installed nothing => exact Fitted.redrawn (h.congr rfl rfl)

end Size

variable {κ : Type}

/-- The width and the height of the canvas are numbers, where a page gives so much width. -/
structure Drawable (options : GraphOptions Float) (width : Float) : Prop where
  wide : width.isNaN = false
  high : (canvasHeight options width).isNaN = false

theorem clear_fresh {g : Graph κ Float} (drawable : Drawable g.options g.page.width) :
    g.fresh.clear 1 =
      { g.fresh with
        canvas := (Canvas.resize g.fresh.width g.fresh.height).paint (g.fresh.backdrop 1) } := by
  have width : g.fresh.width.isNaN = false := drawable.wide
  have height : g.fresh.height.isNaN = false := drawable.high
  exact Plot.clear_eq rfl rfl width height

theorem Fitted.clear_eq_fresh {g : Graph κ Float} (h : Fitted g)
    (drawable : Drawable g.options g.page.width) : g.plot.clear 1 = g.fresh.clear 1 := by
  have width : g.fresh.width.isNaN = false := drawable.wide
  have height : g.fresh.height.isNaN = false := drawable.high
  obtain ⟨plot, sameWidth, sameHeight⟩ := h
  rw [plot, clear_fresh drawable]
  exact Plot.clear_eq (p := { g.fresh with canvas := g.plot.canvas }) sameWidth sameHeight
    width height

variable [Chart κ Float]

/-- A graph that has just been redrawn shows its picture. -/
theorem Fitted.redraw_picture {g : Graph κ Float} (h : Fitted g)
    (drawable : Drawable g.options g.page.width) {chart : κ} (installed : g.chart = some chart) :
    (g.redraw.1.plot, g.redraw.1.points) = g.redraw.1.picture chart := by
  have clear : g.cleared.plot = g.fresh.clear 1 := h.clear_eq_fresh drawable
  rw [picture, redraw_fresh]
  cases drawn : Chart.draw chart (g.fresh.clear 1).frame with
  | error e =>
      simp only [redraw, installed, clear, drawn]
      rfl
  | ok drawing =>
      simp only [redraw, installed, clear, drawn]
      have points : (g.cleared.put drawing).points = drawing.points := rfl
      have last : (g.cleared.put drawing).lastLines = g.cleared.lastLines := rfl
      rw [points, last, g.cleared.put_fresh drawing clear]
      rfl

/-- The invariant of the events: everything fits, and a graph with a chart shows its picture. -/
structure Shown (options : GraphOptions Float) (g : Graph κ Float) : Prop where
  options : g.options = options
  fitted : Fitted g
  drawable : Drawable g.options g.page.width
  picture : ∀ chart, g.chart = some chart → (g.plot, g.points) = g.picture chart

theorem shown_redraw {options : GraphOptions Float} {g : Graph κ Float} (same : g.options = options)
    (fitted : Fitted g) (drawable : Drawable g.options g.page.width) :
    Shown options g.redraw.1 := by
  obtain ⟨keptOptions, keptWidth, keptChart⟩ := g.redraw_keeps
  refine ⟨keptOptions.trans same, fitted.redrawn, ?_, ?_⟩
  · rw [keptOptions, keptWidth]
    exact drawable
  · intro chart installed
    exact fitted.redraw_picture drawable (keptChart.symm.trans installed)

/-- Whatever happens, everything goes on to fit and the picture is shown. -/
theorem Shown.change {options : GraphOptions Float} {g g' : Graph κ Float} {e : Event κ Float}
    (h : Shown options g) (change : Change g e g')
    (widths : ∀ width, e = .resize width → Drawable options width) : Shown options g' := by
  obtain ⟨same, fitted, drawable, picture⟩ := h
  have widened {width : Float} (resizes : e = .resize width) :
      Drawable (g.widen width).options (g.widen width).page.width := by
    rw [← same] at widths
    exact widths width resizes
  cases change with
  | refuseChart refused => exact ⟨same, fitted, drawable, picture⟩
  | install accepted =>
      exact shown_redraw same (fitted.congr rfl rfl) drawable
  | fit empty =>
      refine ⟨same, fitted.widen _, widened rfl, ?_⟩
      intro chart installed
      have none : some chart = none := installed.symm.trans empty
      cases none
  | refit installed =>
      exact shown_redraw same ((fitted.widen _).congr rfl rfl) (widened rfl)
  | store empty => exact ⟨same, fitted.congr rfl rfl, drawable, picture⟩
  | refuseControl installed refused => exact ⟨same, fitted.congr rfl rfl, drawable, picture⟩
  | recompute installed accepted => exact shown_redraw same (fitted.congr rfl rfl) drawable
  | ignore empty => exact ⟨same, fitted, drawable, picture⟩
  | hover installed under => exact shown_redraw same (fitted.congr rfl rfl) drawable
  | leave installed nothing => exact shown_redraw same (fitted.congr rfl rfl) drawable

/-- What a graph with a chart shows, and answers to the mouse with. -/
structure UpToDate (g : Graph κ Float) (chart : κ) : Prop where
  plot : g.plot = (g.picture chart).1
  points : g.points = (g.picture chart).2
  /-- Where its picture is begun there is nothing but black, and no gradient is defined. -/
  blank : (g.fresh.clear 1).canvas =
    ⟨g.page.width, canvasHeight g.options g.page.width, #[], #[⟨g.fresh.backdrop 1, 0⟩]⟩

/-- Whatever has happened to a graph, it shows what a fresh one would. -/
theorem upToDate_after [AtomicChart κ] (options : GraphOptions Float) (page : Page Float)
    (settings : Settings) (events : List (Event κ Float)) (start : Drawable options page.width)
    (widths : ∀ width, Event.resize width ∈ events → Drawable options width) {chart : κ}
    (installed : ((new options page settings : Graph κ Float).after events).chart = some chart) :
    UpToDate ((new options page settings : Graph κ Float).after events) chart := by
  have shown : Shown options ((new options page settings : Graph κ Float).after events) := by
    refine after_induction (P := Shown options) ?_ ?_
    · refine ⟨rfl, fitted_fitCanvas _ rfl rfl, start, ?_⟩
      intro chart installed
      cases installed
    · intro g e g' member h change
      exact h.change change fun width resizes => widths width (resizes ▸ member)
  have both := shown.picture chart installed
  refine ⟨congrArg Prod.fst both, congrArg Prod.snd both, ?_⟩
  rw [clear_fresh shown.drawable]
  rfl

/-- A race chart of two snapshots: the mouse is on a point of it when the page becomes narrower. The
    crosshair is the last that is drawn, over the whole of the narrow canvas. -/
theorem upToDate_after_narrowing :
    let snapshot (id : Int64) : Stat Float :=
      ⟨.ofIds 4 ⟨[0], [0], [0], [0]⟩, ⟨id, 11, 1, 0, 0, id * 86400, #[10, 6, 4, 0]⟩⟩
    let source : ChartSource Float :=
      ⟨⟨11, ⟨[snapshot 1, snapshot 2]⟩⟩, { Catalog.empty with ranked := ⟨[0], [0], [0], [0]⟩ },
        .ofList [], 0⟩
    let g : Graph (RaceChart Float) Float := (new .standard (.ofWidth 1000) .empty).after
      [.init (.new source), .moveMouse ⟨64, 20⟩, .resize 500]
    let level : Mark Float := .stroke [⟨0, 20.5⟩, ⟨500, 20.5⟩] (.color "#ffffff") 1
    let upright : Mark Float := .stroke [⟨64.5, 0⟩, ⟨64.5, 280⟩] (.color "#ffffff") 1
    g.points.length = 2 ∧ g.crosshair = some ⟨0, 0⟩ ∧
      (g.plot.canvas.marks.toList.map (·.mark)).reverse.take 2 = [upright, level] ∧
      ∃ chart, g.chart = some chart ∧ UpToDate g chart := by
  intro snapshot source g level upright
  have seen : g.points.length = 2 ∧ g.crosshair = some ⟨0, 0⟩ ∧
      (g.plot.canvas.marks.toList.map (·.mark)).reverse.take 2 = [upright, level] ∧
      g.chart.isSome = true := by decide +kernel
  obtain ⟨drawn, pinned, last, there⟩ := seen
  obtain ⟨chart, installed⟩ := Option.isSome_iff_exists.mp there
  refine ⟨drawn, pinned, last, chart, installed, ?_⟩
  refine upToDate_after .standard (.ofWidth 1000) .empty _ ⟨rfl, by decide +kernel⟩ ?_ installed
  intro width resizes
  have same : width = 500 := by simpa using resizes
  subst same
  exact ⟨rfl, by decide +kernel⟩

end Graph

end LadderAtlas
