import LadderAtlas.Graph.Svg
import LadderAtlas.Proofs.Number.Numerals
import Mathlib.Data.List.Nodup

/-! # Gradients are found by their numbers

Marks that are painted with a gradient name its definition by a number, the number of definitions
that there were when the mark was painted. Definitions are only ever added at the end, or dropped
together with all marks, so at every moment each number leads to the gradient of the mark that names
it.
-/

namespace LadderAtlas

/-! ## Identifiers in XML -/

namespace Xml

/-- What an attribute of an element says. -/
def attribute? (name : String) : Xml → Option String
  | .text _ => none
  | .empty _ attributes => attributes.lookup name
  | .element _ attributes _ => attributes.lookup name

mutual

/-- The elements with an identifier, of an element and all that is in it. -/
def identified (id : String) : Xml → List Xml
  | .text _ => []
  | .empty name attributes =>
    if attributes.lookup "id" = some id then [.empty name attributes] else []
  | .element name attributes content =>
    if attributes.lookup "id" = some id then
      .element name attributes content :: identifiedIn id content
    else identifiedIn id content

@[inherit_doc identified]
def identifiedIn (id : String) : List Xml → List Xml
  | [] => []
  | x :: rest => identified id x ++ identifiedIn id rest

end

theorem identifiedIn_append (id : String) (xs ys : List Xml) :
    identifiedIn id (xs ++ ys) = identifiedIn id xs ++ identifiedIn id ys := by
  induction xs with
  | nil => rfl
  | cons x xs ih => simp only [List.cons_append, identifiedIn, ih, List.append_assoc]

theorem identifiedIn_eq_nil {id : String} {xs : List Xml} (none : ∀ x ∈ xs, identified id x = []) :
    identifiedIn id xs = [] := by
  induction xs with
  | nil => rfl
  | cons x xs ih =>
      have rest := ih fun y member => none y (List.mem_cons_of_mem x member)
      rw [identifiedIn, none x List.mem_cons_self, rest, List.append_nil]

end Xml

/-! ## Operations -/

namespace Canvas

variable {α : Type} [Scalar α]

/-- What can be done to a canvas. -/
inductive Operation (α : Type) where
  | resize (width height : α)
  | draw (mark : Mark α)

def perform (c : Canvas α) : Operation α → Canvas α
  | .resize width height => resize width height
  | .draw mark => c.draw mark

/-- The canvas after operations in a row. -/
def performAll (c : Canvas α) (ops : List (Operation α)) : Canvas α := ops.foldl perform c

/-- What holds of a canvas and is kept by every operation holds after them. -/
theorem performAll_induction {P : Canvas α → Prop} {c : Canvas α} {ops : List (Operation α)}
    (start : P c) (step : ∀ c, ∀ op ∈ ops, P c → P (c.perform op)) : P (c.performAll ops) := by
  induction ops generalizing c with
  | nil => exact start
  | cons op ops ih =>
      apply ih (step c op List.mem_cons_self start)
      intro d other member
      exact step d other (List.mem_cons_of_mem op member)

theorem hiddenBy_iff {c : Canvas α} {m : Mark α} :
    c.hiddenBy m = true ↔
      ∃ area style alpha, m = .rect area style alpha ∧ c.covers area = true ∧ 1 ≤ alpha := by
  cases m <;> simp [hiddenBy]

/-! ## Numbers -/

/-- Every mark with a gradient has the number of this gradient's definition. -/
def Coherent (c : Canvas α) : Prop :=
  ∀ p ∈ c.marks, ∀ g, p.mark.gradient? = some g → c.definitions[p.number]? = some g

omit [Scalar α] in
theorem coherent_resize (width height : α) : Coherent (resize width height) := by
  intro p member
  simp [resize] at member

omit [Scalar α] in
/-- The new definition, if there is one, comes after those that the marks name. -/
theorem Coherent.paint {c : Canvas α} (h : Coherent c) (m : Mark α) : Coherent (c.paint m) := by
  intro p member g painted
  simp only [Canvas.paint, Array.mem_push] at member ⊢
  rcases member with old | rfl
  · have found := h p old g painted
    have inside : p.number < c.definitions.size := (Array.getElem?_eq_some_iff.mp found).1
    rw [Array.getElem?_append_left inside, found]
  · simp only at painted
    simp [painted]

theorem Coherent.perform {c : Canvas α} (h : Coherent c) (op : Operation α) :
    Coherent (c.perform op) := by
  cases op with
  | resize width height => exact coherent_resize width height
  | draw m =>
      simp only [Canvas.perform, draw]
      split
      · exact (coherent_resize c.width c.height).paint m
      · exact h.paint m

theorem coherent_performAll (ops : List (Operation α)) :
    Coherent ((empty : Canvas α).performAll ops) :=
  performAll_induction (coherent_resize 0 0) fun _ op _ h => h.perform op

end Canvas

/-! ## Definitions and elements -/

namespace Svg

variable {α : Type} [Scalar α]

open Xml

theorem gradientId_injective : Function.Injective gradientId := by
  intro m n same
  have texts : Numeral.text (m : Int) = Numeral.text (n : Int) := by simpa [gradientId] using same
  exact Int.ofNat.inj (Numeral.text_injective texts)

/-- A stop of a gradient: where it is and its colour. -/
def stop (p : α × String) : Xml := .empty "stop" [("offset", number p.1), ("stop-color", p.2)]

theorem gradient_eq (n : Nat) (g : Gradient α) :
    gradient n g = .element "linearGradient"
      [("id", gradientId n), ("gradientUnits", "userSpaceOnUse"), ("x1", number g.start.x),
        ("y1", number g.start.y), ("x2", number g.finish.x), ("y2", number g.finish.y)]
      (g.stops.map stop) := rfl

theorem definitions_eq (c : Canvas α) :
    definitions c = c.definitions.toList.zipIdx.map fun numbered =>
      gradient numbered.2 numbered.1 := rfl

/-- The definition that a mark brings along, under the given number. -/
def ownDefinitions (n : Nat) (m : Mark α) : List Xml := (m.gradient?.map (gradient n)).toList

theorem elements_paint (c : Canvas α) (m : Mark α) :
    elements (c.paint m) = elements c ++ [element c.definitions.size m] := by
  simp [elements, Canvas.paint]

theorem definitions_paint (c : Canvas α) (m : Mark α) :
    definitions (c.paint m) = definitions c ++ ownDefinitions c.definitions.size m := by
  cases painted : m.gradient? <;>
    simp [definitions_eq, ownDefinitions, Canvas.paint, painted, List.zipIdx_append]

/-- What the definitions and the elements of a canvas are after an operation. -/
inductive Recorded (c : Canvas α) : Canvas.Operation α → List Xml → List Xml → Prop where
  /-- A new size leaves nothing. -/
  | emptied (width height : α) : Recorded c (.resize width height) [] []
  /-- A full covering rectangle drops everything and brings its own. -/
  | replaced {area : Rect α} {style : Style α} {alpha : α} (covers : c.covers area = true)
      (full : 1 ≤ alpha) :
      Recorded c (.draw (.rect area style alpha)) (ownDefinitions 0 (.rect area style alpha))
        [element 0 (.rect area style alpha)]
  /-- Every other mark adds one element, and its own definition if it has a gradient. -/
  | added {m : Mark α}
      (visible : ∀ area style alpha, m = .rect area style alpha →
        ¬ (c.covers area = true ∧ 1 ≤ alpha)) :
      Recorded c (.draw m) (definitions c ++ ownDefinitions c.definitions.size m)
        (elements c ++ [element c.definitions.size m])

theorem recorded (c : Canvas α) (op : Canvas.Operation α) :
    Recorded c op (definitions (c.perform op)) (elements (c.perform op)) := by
  cases op with
  | resize width height => exact .emptied width height
  | draw m =>
      rw [Canvas.perform, Canvas.draw]
      split
      · next hidden =>
          rw [definitions_paint, elements_paint]
          obtain ⟨area, style, alpha, rfl, covers, full⟩ := Canvas.hiddenBy_iff.mp hidden
          exact .replaced covers full
      · next visible =>
          rw [definitions_paint, elements_paint]
          refine .added fun area style alpha same both => visible ?_
          exact Canvas.hiddenBy_iff.mpr ⟨area, style, alpha, same, both⟩

/-! ## References -/

theorem attribute?_gradient (n : Nat) (g : Gradient α) :
    (gradient n g).attribute? "id" = some (gradientId n) := by
  simp [gradient, attribute?]

theorem ids_definitions (c : Canvas α) :
    (definitions c).map (attribute? "id") =
      (List.range c.definitions.size).map fun n => some (gradientId n) := by
  have ids : (attribute? "id" ∘ fun numbered : Gradient α × Nat => gradient numbered.2 numbered.1) =
      (fun n => some (gradientId n)) ∘ Prod.snd := by
    funext numbered
    exact attribute?_gradient numbered.2 numbered.1
  rw [definitions_eq, List.map_map, ids, ← List.map_map, List.zipIdx_map_snd, List.range_eq_range',
    Array.length_toList]

theorem identified_gradient (id : String) (n : Nat) (g : Gradient α) :
    identified id (gradient n g) = if gradientId n = id then [gradient n g] else [] := by
  have stops : identifiedIn id (g.stops.map stop) = [] := by
    apply identifiedIn_eq_nil
    intro x member
    obtain ⟨p, -, rfl⟩ := List.mem_map.mp member
    simp [stop, identified, List.lookup_cons]
  simp [gradient_eq, identified, stops]

/-- No mark carries an identifier, whatever texts it has. -/
theorem identified_element (id : String) (n : Nat) (m : Mark α) :
    identified id (element n m) = [] := by
  cases m with
  | rect area style alpha =>
      by_cases dim : alpha < 1 <;> simp [element, identified, List.lookup_cons, dim]
  | _ => simp [element, identified, identifiedIn, List.lookup_cons]

theorem identifiedIn_lines (id indent : String) (pieces : List Xml) :
    identifiedIn id (lines indent pieces) = identifiedIn id pieces := by
  induction pieces with
  | nil => rfl
  | cons x rest ih =>
      have tail := ih
      unfold lines at tail
      simp [lines, identifiedIn, identified, tail]

/-- In a document only definitions carry identifiers. -/
theorem identified_document (id : String) (c : Canvas α) :
    identified id (document c) = identifiedIn id (definitions c) := by
  have noElement : identifiedIn id (elements c) = [] := by
    apply identifiedIn_eq_nil
    intro x member
    obtain ⟨p, -, rfl⟩ := List.mem_map.mp member
    exact identified_element id p.number p.mark
  by_cases empty : (definitions c).isEmpty
  · have none : definitions c = [] := List.isEmpty_iff.mp empty
    simp [document, identified, identifiedIn, identifiedIn_lines, List.lookup_cons, noElement, none]
  · simp [document, identified, identifiedIn, identifiedIn_append, identifiedIn_lines,
      List.lookup_cons, noElement, empty]

/-- Among definitions numbered in order there is one of each number. -/
theorem identifiedIn_numbered (n : Nat) (gs : List (Gradient α)) (start : Nat) :
    identifiedIn (gradientId n) ((gs.zipIdx start).map fun numbered =>
      gradient numbered.2 numbered.1) =
      if start ≤ n then (gs[n - start]?.map (gradient n)).toList else [] := by
  induction gs generalizing start with
  | nil => simp [identifiedIn]
  | cons g gs ih =>
      simp only [List.zipIdx_cons, List.map_cons, identifiedIn, identified_gradient, ih,
        gradientId_injective.eq_iff]
      rcases Nat.lt_trichotomy start n with before | same | after
      · have next : start + 1 ≤ n := before
        have rest : n - start = n - (start + 1) + 1 := by omega
        simp [rest, next, before.le, before.ne]
      · simp [same]
      · have later : ¬ start ≤ n := by omega
        have latest : ¬ start + 1 ≤ n := by omega
        simp [later, latest, after.ne']

theorem identified_of_definition {c : Canvas α} {n : Nat} {g : Gradient α}
    (found : c.definitions[n]? = some g) :
    identified (gradientId n) (document c) = [gradient n g] := by
  rw [identified_document, definitions_eq, identifiedIn_numbered]
  simp [found]

/-- The attribute that says what a mark is painted with. -/
def paintAttribute : Mark α → String
  | .stroke .. => "stroke"
  | _ => "fill"

theorem attribute?_element {m : Mark α} {g : Gradient α}
    (painted : m.gradient? = some g) (n : Nat) :
    (element n m).attribute? (paintAttribute m) = some ("url(#" ++ gradientId n ++ ")") := by
  have gradientOf {style : Style α} (s : m.style? = some style) : style = .gradient g := by
    rw [Mark.gradient?, s] at painted
    cases style <;> simp_all
  cases m with
  | rect area style alpha =>
      obtain rfl := gradientOf rfl
      simp [element, attribute?, paintAttribute, paint, List.lookup_cons]
  | stroke points style width =>
      obtain rfl := gradientOf rfl
      simp [element, attribute?, paintAttribute, paint, List.lookup_cons]
  | fill points style =>
      obtain rfl := gradientOf rfl
      simp [element, attribute?, paintAttribute, paint, List.lookup_cons]
  | text | image => simp [Mark.gradient?, Mark.style?] at painted

/-- A painted mark refers to a definition of the document, and that is the one of its gradient. -/
def Refers (c : Canvas α) (p : Painted α) (g : Gradient α) : Prop :=
  ∃ id, (element p.number p.mark).attribute? (paintAttribute p.mark) = some ("url(#" ++ id ++ ")") ∧
    gradient p.number g ∈ definitions c ∧ (document c).identified id = [gradient p.number g]

theorem refers {c : Canvas α} (coherent : c.Coherent) {p : Painted α} (member : p ∈ c.marks)
    {g : Gradient α} (painted : p.mark.gradient? = some g) : Refers c p g := by
  have found := coherent p member g painted
  refine ⟨gradientId p.number, attribute?_element painted p.number, ?_,
    identified_of_definition found⟩
  have listed : (g, p.number) ∈ c.definitions.toList.zipIdx := by
    simpa [List.mk_mem_zipIdx_iff_getElem?] using found
  exact List.mem_map.mpr ⟨_, listed, rfl⟩

/-- Whatever is done to a new canvas: the definitions carry the identifiers from zero on, no two the
    same, and every element that is painted with a gradient finds the definition of it under the one
    that it names. An operation leaves earlier definitions and elements as they are and adds its
    own, or drops them all. -/
theorem gradients_resolve (ops : List (Canvas.Operation α)) :
    let c := (Canvas.empty : Canvas α).performAll ops
    (∃ n, (definitions c).map (attribute? "id") =
      (List.range n).map (fun k => some (gradientId k)) ∧
      ((definitions c).map (attribute? "id")).Nodup) ∧
    (∀ p ∈ c.marks, ∀ g, p.mark.gradient? = some g → Refers c p g) ∧
    ∀ op, Recorded c op (definitions (c.perform op)) (elements (c.perform op)) := by
  intro c
  refine ⟨⟨_, ids_definitions c, ?_⟩, ?_, recorded c⟩
  · rw [ids_definitions]
    exact List.Nodup.map ((Option.some_injective _).comp gradientId_injective) List.nodup_range
  · intro p member g painted
    exact refers (Canvas.coherent_performAll ops) member painted

/-- A gradient is cleared away by one that covers the canvas, so a third one is the second
    definition. -/
theorem gradients_resolve_cleared :
    let g (color : String) : Gradient Float := ⟨⟨0, 0⟩, ⟨100, 100⟩, [(0, color), (1, "#ffffff")]⟩
    let path : List (Point Float) := [⟨0, 0⟩, ⟨10, 0⟩, ⟨10, 10⟩]
    let clearing : Mark Float := .rect ⟨0, 0, 100, 100⟩ (.gradient (g "#606060")) 1
    let line : Mark Float := .stroke path (.gradient (g "#2080c0")) 2
    let c := (Canvas.empty : Canvas Float).performAll
      [.resize 100 100, .draw (.fill path (.gradient (g "#5d3621"))), .draw clearing, .draw line]
    ((⟨line, 1⟩ : Painted Float) ∈ c.marks ∧ line.gradient? = some (g "#2080c0")) ∧
      Refers c ⟨line, 1⟩ (g "#2080c0") := by
  intro g path clearing line c
  let before : Canvas Float := (Canvas.resize 100 100).paint (.fill path (.gradient (g "#5d3621")))
  have covered : before.hiddenBy clearing = true := by decide +kernel
  have cleared : before.draw clearing = (Canvas.resize 100 100).paint clearing := if_pos covered
  have drawn : c = ((Canvas.resize 100 100).paint clearing).paint line :=
    congrArg (Canvas.draw · line) cleared
  have there : (⟨line, 1⟩ : Painted Float) ∈ c.marks := by
    rw [drawn]
    exact Array.mem_push_self
  exact ⟨⟨there, rfl⟩, (gradients_resolve _).2.1 _ there _ rfl⟩

end Svg

end LadderAtlas
