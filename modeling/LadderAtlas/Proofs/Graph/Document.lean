import LadderAtlas.Proofs.Graph.Gradients
import LadderAtlas.Proofs.Text.Markup

/-! # No text breaks a document

Whatever strings a canvas is given, each of its elements and definitions is one element of XML, and
the document holds them one after another. A reader of XML gets back what was given, because all
strings are escaped and all names and numbers consist of characters that need no escaping.
-/

namespace LadderAtlas

/-! ## Strings that are given -/

section Given

variable {α : Type}

def Style.strings : Style α → List String
  | .color name => [name]
  | .gradient g => g.stops.map Prod.snd

/-- The strings that a mark is made of: colours, a text, a source. -/
def Mark.strings : Mark α → List String
  | .rect _ style _ => style.strings
  | .stroke _ style _ => style.strings
  | .fill _ style => style.strings
  | .text content _ _ _ color => [content, color]
  | .image picture _ => [picture.source]

def Canvas.Operation.strings : Canvas.Operation α → List String
  | .resize _ _ => []
  | .draw m => m.strings

/-- The mark that an operation draws. -/
def Canvas.Operation.mark? : Canvas.Operation α → Option (Mark α)
  | .resize _ _ => none
  | .draw m => some m

/-- The string that a mark has as an attribute of its element, by the name of the attribute. -/
def Mark.given : Mark α → List (String × String)
  | .rect _ (.color color) _ => [("fill", color)]
  | .stroke _ (.color color) _ => [("stroke", color)]
  | .fill _ (.color color) => [("fill", color)]
  | .text _ _ _ _ color => [("fill", color)]
  | .image picture _ => [("href", picture.source)]
  | _ => []

/-- The string that a mark has as the content of its element. -/
def Mark.content : Mark α → String
  | .text content _ _ _ _ => content
  | _ => ""

end Given

/-! ## Proper trees -/

namespace Xml

theorem properContent_iff {xs : List Xml} : ProperContent xs ↔ ∀ x ∈ xs, x.Proper := by
  induction xs with
  | nil => simp [ProperContent]
  | cons x xs ih => simp [ProperContent, ih]

/-- A tag is proper if its literal names are, and its values. -/
theorem properTag {name : String} (keys : List String) {attributes : List (String × String)}
    (same : attributes.map Prod.fst = keys)
    (literal : isName name.toList = true ∧ (∀ key ∈ keys, isName key.toList = true) ∧ keys.Nodup)
    (values : ∀ pair ∈ attributes, Admitted pair.2) : ProperTag name attributes := by
  subst same
  obtain ⟨proper, names, distinct⟩ := literal
  exact ⟨proper, fun pair member => names _ (List.mem_map_of_mem member), distinct, values⟩

theorem admits_of_isAlphanum {c : Char} (h : c.isAlphanum = true) : admits c = true := by
  have range : 48 ≤ c.toNat ∧ c.toNat ≤ 122 := by
    have ranges : ((c.val ≥ 'A'.val ∧ c.val ≤ 'Z'.val) ∨ c.val ≥ 'a'.val ∧ c.val ≤ 'z'.val) ∨
        c.val ≥ '0'.val ∧ c.val ≤ '9'.val := by
      change (decide (c.val ≥ 'A'.val ∧ c.val ≤ 'Z'.val) ||
        (decide (c.val ≥ 'a'.val) && decide (c.val ≤ 'z'.val)) ||
          (decide (c.val ≥ '0'.val) && decide (c.val ≤ '9'.val))) = true at h
      simpa only [Bool.or_eq_true, Bool.and_eq_true, decide_eq_true_eq] using h
    simp only [ge_iff_le, UInt32.le_iff_toNat_le] at ranges
    have value : c.toNat = c.val.toNat := rfl
    simp at ranges
    omega
  have low : 0x20 ≤ c.toNat := by omega
  have high : c.toNat ≤ 0xD7FF := by omega
  simp [admits, low, high]

theorem Admitted.append {s t : String} (first : Admitted s) (second : Admitted t) :
    Admitted (s ++ t) := by
  intro c member
  rw [String.toList_append] at member
  rcases List.mem_append.mp member with left | right
  · exact first c left
  · exact second c right

theorem Admitted.intercalate {separator : String} (between : Admitted separator)
    {texts : List String} (each : ∀ t ∈ texts, Admitted t) :
    Admitted (separator.intercalate texts) := by
  intro c member
  rw [String.toList_intercalate] at member
  induction texts with
  | nil => cases member
  | cons t rest ih =>
      have inRest (later : c ∈ separator.toList.intercalate (rest.map String.toList)) :
          admits c = true :=
        ih (fun s listed => each s (List.mem_cons_of_mem t listed)) later
      cases rest with
      | nil =>
          rw [List.map_singleton, List.intercalate_singleton] at member
          exact each t List.mem_cons_self c member
      | cons u rest =>
          rw [List.map_cons, List.map_cons, List.intercalate_cons_cons] at member
          rcases List.mem_append.mp member with front | later
          · rcases List.mem_append.mp front with first | gap
            · exact each t List.mem_cons_self c first
            · exact between c gap
          · exact inRest later

end Xml

namespace Svg

open Xml

/-! ## Numbers -/

theorem admitted_text (n : Int) : Admitted (Numeral.text n) := by
  intro c member
  rw [Numeral.text, String.toList_ofList] at member
  rcases Numeral.mem_chars member with rfl | digit
  · rfl
  · exact admits_of_isAlphanum (by simp [Char.isAlphanum, digit])

theorem admitted_number (x : Float) : Admitted (number x) := by
  unfold number
  dsimp only
  split
  · exact admitted_text _
  · intro c member
    rcases Decimal.mem_shortestText member with rfl | rfl | letter
    · rfl
    · rfl
    · exact admits_of_isAlphanum letter

theorem admitted_gradientId (n : Nat) : Admitted (gradientId n) :=
  .append (by decide) (admitted_text n)

theorem admitted_pointList (points : List (Point Float)) : Admitted (pointList points) := by
  apply Admitted.intercalate
  · decide
  · intro text member
    obtain ⟨p, -, rfl⟩ := List.mem_map.mp member
    have comma : Admitted "," := by decide
    exact ((admitted_number p.x).append comma).append (admitted_number p.y)

theorem admitted_paint {style : Style Float} (given : ∀ s ∈ style.strings, Admitted s) (n : Nat) :
    Admitted (paint n style) := by
  cases style with
  | color name => exact given name List.mem_cons_self
  | gradient g =>
      have front : Admitted "url(#" := by decide
      have back : Admitted ")" := by decide
      exact (front.append (admitted_gradientId n)).append back

/-! ## Elements and definitions -/

theorem admitted_anchor (align : Align) : Admitted (anchor align) := by
  cases align <;> decide

theorem admitted_dominantBaseline (baseline : Baseline) : Admitted (dominantBaseline baseline) := by
  cases baseline <;> decide

theorem proper_element {m : Mark Float} (given : ∀ s ∈ m.strings, Admitted s) (n : Nat) :
    (element n m).Proper := by
  cases m with
  | rect area style alpha =>
      have fill : Admitted (paint n style) := admitted_paint given n
      by_cases dim : alpha < 1
      · simp only [element, dim, if_true]
        exact properTag ["x", "y", "width", "height", "fill", "fill-opacity"] rfl (by decide)
          (by simp [admitted_number, fill])
      · simp only [element, dim, if_false]
        exact properTag ["x", "y", "width", "height", "fill"] rfl (by decide)
          (by simp [admitted_number, fill])
  | stroke points style width =>
      have stroke : Admitted (paint n style) := admitted_paint given n
      have none : Admitted "none" := by decide
      exact properTag ["points", "fill", "stroke", "stroke-width"] rfl (by decide)
        (by simp [admitted_number, admitted_pointList, stroke, none])
  | fill points style =>
      have fill : Admitted (paint n style) := admitted_paint given n
      exact properTag ["points", "fill"] rfl (by decide) (by simp [admitted_pointList, fill])
  | text content place align baseline color =>
      have words : Admitted content := given content (by simp [Mark.strings])
      have fill : Admitted color := given color (by simp [Mark.strings])
      have font : Admitted "sans-serif" ∧ Admitted "13" := by decide
      have tag : ProperTag "text" [("x", number place.x), ("y", number place.y), ("fill", color),
          ("font-family", "sans-serif"), ("font-size", "13"), ("text-anchor", anchor align),
          ("dominant-baseline", dominantBaseline baseline)] :=
        properTag ["x", "y", "fill", "font-family", "font-size", "text-anchor", "dominant-baseline"]
          rfl
          (by decide) (by simp [admitted_number, admitted_anchor,
            admitted_dominantBaseline, fill, font])
      exact ⟨tag, words, trivial⟩
  | image picture place =>
      have source : Admitted picture.source := given picture.source (by simp [Mark.strings])
      exact properTag ["href", "x", "y", "width", "height"] rfl (by decide)
        (by simp [admitted_number, source])

theorem proper_gradient {g : Gradient Float} (given : ∀ stop ∈ g.stops, Admitted stop.2) (n : Nat) :
    (gradient n g).Proper := by
  have units : Admitted "userSpaceOnUse" := by decide
  have tag : ProperTag "linearGradient" [("id", gradientId n), ("gradientUnits", "userSpaceOnUse"),
      ("x1", number g.start.x), ("y1", number g.start.y), ("x2", number g.finish.x),
      ("y2", number g.finish.y)] :=
    properTag ["id", "gradientUnits", "x1", "y1", "x2", "y2"] rfl (by decide)
      (by simp [admitted_number, admitted_gradientId, units])
  refine ⟨tag, properContent_iff.mpr ?_⟩
  intro x member
  obtain ⟨p, listed, rfl⟩ := List.mem_map.mp member
  have colour : Admitted p.2 := given _ listed
  exact properTag ["offset", "stop-color"] rfl (by decide) (by simp [admitted_number, colour])

end Svg

/-! ## Canvases -/

namespace Canvas

open Xml

/-- All strings on a canvas are of characters that XML admits. -/
structure Admitted (c : Canvas Float) : Prop where
  marks : ∀ p ∈ c.marks, ∀ s ∈ p.mark.strings, Xml.Admitted s
  definitions : ∀ g ∈ c.definitions, ∀ stop ∈ g.stops, Xml.Admitted stop.2

theorem admitted_resize (width height : Float) : Admitted (resize width height) :=
  ⟨by simp [resize], by simp [resize]⟩

theorem strings_of_gradient {α : Type} {m : Mark α} {g : Gradient α}
    (painted : m.gradient? = some g) :
    m.strings = g.stops.map Prod.snd := by
  cases m with
  | rect _ style | stroke _ style | fill _ style =>
      cases style <;> simp_all [Mark.gradient?, Mark.style?, Mark.strings, Style.strings]
  | text | image => simp [Mark.gradient?, Mark.style?] at painted

theorem Admitted.paint {c : Canvas Float} (h : Admitted c) {m : Mark Float}
    (given : ∀ s ∈ m.strings, Xml.Admitted s) : Admitted (c.paint m) := by
  constructor
  · intro p member
    rcases Array.mem_push.mp member with old | rfl
    · exact h.marks p old
    · exact given
  · intro g member stop listed
    rcases Array.mem_append.mp member with old | own
    · exact h.definitions g old stop listed
    · have painted : m.gradient? = some g := by simpa using own
      apply given
      rw [strings_of_gradient painted]
      exact List.mem_map_of_mem listed

theorem Admitted.perform {c : Canvas Float} (h : Admitted c) {op : Operation Float}
    (given : ∀ s ∈ op.strings, Xml.Admitted s) : Admitted (c.perform op) := by
  cases op with
  | resize width height => exact admitted_resize width height
  | draw m =>
      simp only [Canvas.perform, draw]
      split
      · exact (admitted_resize c.width c.height).paint given
      · exact h.paint given

variable {α : Type} [Scalar α]

/-- An operation leaves a mark above those before it, or instead of them. -/
theorem marks_perform (c : Canvas α) (op : Operation α) :
    (c.perform op).marks.toList.map Painted.mark <:+ c.marks.toList.map Painted.mark ++
      op.mark?.toList := by
  cases op with
  | resize width height => simp [Canvas.perform, resize]
  | draw m =>
      simp only [Canvas.perform, draw]
      split
      · simp [paint, resize, Operation.mark?]
      · simp [paint, Operation.mark?]

theorem marks_performAll (c : Canvas α) (ops : List (Operation α)) :
    (c.performAll ops).marks.toList.map Painted.mark <:+
      c.marks.toList.map Painted.mark ++ ops.filterMap Operation.mark? := by
  induction ops generalizing c with
  | nil => simp [performAll]
  | cons op ops ih =>
      obtain ⟨dropped, first⟩ := marks_perform c op
      have both : (op :: ops).filterMap Operation.mark? =
          op.mark?.toList ++ ops.filterMap Operation.mark? := by
        cases named : op.mark? <;> simp [named]
      rw [both, ← List.append_assoc, ← first, List.append_assoc]
      exact (ih (c.perform op)).trans (List.suffix_append dropped _)

/-- The texts of the definitions on a canvas, in order. -/
def definitionTexts (c : Canvas α) : List String := (Svg.definitions c).map Xml.render

end Canvas

/-! ## Documents -/

namespace Xml

/-- A text is one element of XML with the given attributes, among others, and the given content. -/
def Spells (text : String) (given : List (String × String)) (content : List Piece) : Prop :=
  ∃ name attributes, read? text = some (.opening name attributes :: (content ++ [.closing name])) ∧
    ∀ pair ∈ given, attributes.lookup pair.1 = some pair.2

theorem contentChars_append (xs ys : List Xml) :
    contentChars (xs ++ ys) = contentChars xs ++ contentChars ys := by
  induction xs with
  | nil => rfl
  | cons x xs ih => simp only [List.cons_append, contentChars, ih, List.append_assoc]

theorem properContent_append {xs ys : List Xml} (first : ProperContent xs)
    (second : ProperContent ys) :
    ProperContent (xs ++ ys) := by
  simp only [properContent_iff] at *
  intro x member
  exact (List.mem_append.mp member).elim (first x) (second x)

end Xml

namespace Svg

open Xml

/-- A proper element that is rendered by itself is read as it is. -/
theorem read?_render {x : Xml} (element : ∀ s, x ≠ .text s) (proper : x.Proper) :
    read? x.render = some x.pieces := by
  simpa [render] using read?_chars element proper [] (by simp)

theorem spells_element {m : Mark Float} (given : ∀ s ∈ m.strings, Admitted s) (n : Nat) :
    Spells (element n m).render m.given (m.content.toList.map .char) := by
  have read := read?_render (x := element n m) (by cases m <;> simp [element])
    (proper_element given n)
  rw [Spells, read]
  cases m with
  | rect area style alpha =>
      refine ⟨_, _, rfl, ?_⟩
      cases style <;> simp [Mark.given, paint, List.lookup_cons]
  | stroke points style width =>
      refine ⟨_, _, rfl, ?_⟩
      cases style <;> simp [Mark.given, paint, List.lookup_cons]
  | fill points style =>
      refine ⟨_, _, rfl, ?_⟩
      cases style <;> simp [Mark.given, paint, List.lookup_cons]
  | text content place align baseline color =>
      have inner : contentPieces [.text content] = content.toList.map .char := by
        simp [contentPieces, pieces]
      rw [element, pieces, inner]
      exact ⟨_, _, rfl, by simp [Mark.given, List.lookup_cons]⟩
  | image picture place => exact ⟨_, _, rfl, by simp [Mark.given, List.lookup_cons]⟩

/-- The pieces of a stop of a gradient. -/
def stopPieces (p : Float × String) : List Piece :=
  [.opening "stop" [("offset", number p.1), ("stop-color", p.2)], .closing "stop"]

theorem spells_gradient {g : Gradient Float} (given : ∀ stop ∈ g.stops, Admitted stop.2) (n : Nat) :
    Spells (gradient n g).render [("id", gradientId n)] (g.stops.flatMap stopPieces) := by
  have read := read?_render (x := gradient n g) (by simp [gradient]) (proper_gradient given n)
  have stops (stops : List (Float × String)) :
      contentPieces (stops.map stop) = stops.flatMap stopPieces := by
    induction stops with
    | nil => rfl
    | cons p rest ih => simp [stop, contentPieces, pieces, stopPieces, ih]
  rw [Spells, read, gradient_eq, pieces, stops]
  exact ⟨_, _, rfl, by simp [List.lookup_cons]⟩

theorem proper_lines {indent : String} (blank : Admitted indent) {xs : List Xml}
    (proper : ∀ x ∈ xs, x.Proper) :
    ProperContent (lines indent xs) := by
  apply properContent_iff.mpr
  intro y member
  obtain ⟨x, listed, there⟩ := List.mem_flatMap.mp member
  have newline : Admitted "\n" := by decide
  simp only [List.mem_cons, List.not_mem_nil, or_false] at there
  rcases there with rfl | rfl | rfl
  · exact blank
  · exact proper _ listed
  · exact newline

theorem proper_definitions {c : Canvas Float} (h : c.Admitted) : ∀ x ∈ definitions c, x.Proper := by
  intro x member
  obtain ⟨⟨g, n⟩, numbered, rfl⟩ := List.mem_map.mp member
  have listed : g ∈ c.definitions := by simpa using List.fst_mem_of_mem_zipIdx numbered
  exact proper_gradient (h.definitions g listed) n

theorem proper_elements {c : Canvas Float} (h : c.Admitted) : ∀ x ∈ elements c, x.Proper := by
  intro x member
  obtain ⟨p, listed, rfl⟩ := List.mem_map.mp member
  exact proper_element (h.marks p (by simpa using listed)) p.number

theorem proper_document {c : Canvas Float} (h : c.Admitted) : (document c).Proper := by
  have newline : Admitted "\n" := by decide
  have two : Admitted "  " := by decide
  have four : Admitted "    " := by decide
  have namespace_ : Admitted "http://www.w3.org/2000/svg" := by decide
  have box : Admitted ("0 0 " ++ number c.width ++ " " ++ number c.height) := by
    have origin : Admitted "0 0 " := by decide
    have gap : Admitted " " := by decide
    exact ((origin.append (admitted_number c.width)).append gap).append (admitted_number c.height)
  have tag : ProperTag "svg" [("xmlns", "http://www.w3.org/2000/svg"), ("width", number c.width),
      ("height", number c.height),
      ("viewBox", "0 0 " ++ number c.width ++ " " ++ number c.height)] :=
    properTag ["xmlns", "width", "height", "viewBox"] rfl (by decide)
      (by simp [admitted_number, namespace_, box])
  have defs : ∀ x ∈
      [Xml.element "defs" [] (.text "\n" :: lines "    " (definitions c) ++ [.text "  "])],
      x.Proper := by
    simp only [List.mem_singleton, forall_eq]
    refine ⟨⟨by decide, by simp, by simp, by simp⟩, newline, ?_⟩
    exact properContent_append (proper_lines four (proper_definitions h)) ⟨two, trivial⟩
  refine ⟨tag, newline, properContent_append ?_ (proper_lines two (proper_elements h))⟩
  split
  · exact trivial
  · exact proper_lines two defs

/-- In a document each element stands on a line of its own. -/
theorem contentChars_lines (indent : String) (xs : List Xml) :
    contentChars (lines indent xs) =
      xs.flatMap fun x => escape indent.toList ++ x.chars ++ ['\n'] := by
  induction xs with
  | nil => rfl
  | cons x xs ih =>
      have newline : escape "\n".toList = ['\n'] := by decide
      rw [lines, List.flatMap_cons, ← lines, contentChars_append, ih, List.flatMap_cons]
      simp only [contentChars, chars, newline, List.append_nil, List.append_assoc]

/-- The definitions of a document, between tags of their own where there are any. -/
def definitionsText (c : Canvas Float) : String :=
  if c.definitionTexts.isEmpty then ""
  else "  <defs>\n" ++ String.join (c.definitionTexts.map fun text => "    " ++ text ++ "\n") ++
    "  </defs>\n"

/-- The tag that a document begins with. -/
def openingText (c : Canvas Float) : String :=
  String.ofList (tagChars "svg" [("xmlns", "http://www.w3.org/2000/svg"), ("width", number c.width),
    ("height", number c.height),
    ("viewBox", "0 0 " ++ number c.width ++ " " ++ number c.height)]) ++ ">\n"

/-- Texts that are written line by line. -/
theorem toList_join_lines (indent : String) (xs : List Xml) :
    (String.join ((xs.map render).map fun text => indent ++ text ++ "\n")).toList =
      xs.flatMap fun x => indent.toList ++ x.chars ++ ['\n'] := by
  induction xs with
  | nil => rfl
  | cons x xs ih =>
      rw [List.map_cons, List.map_cons, String.join_cons, String.toList_append, ih,
        List.flatMap_cons]
      simp [render]

theorem documentText_eq (c : Canvas Float) : c.documentText =
    openingText c ++ definitionsText c ++
      String.join (c.elementTexts.map fun text => "  " ++ text ++ "\n") ++ "</svg>\n" := by
  have newline : escape "\n".toList = ['\n'] := by decide
  have two : escape "  ".toList = "  ".toList := by decide
  have four : escape "    ".toList = "    ".toList := by decide
  have part : contentChars (if (definitions c).isEmpty then [] else
      lines "  " [.element "defs" []
        (.text "\n" :: lines "    " (definitions c) ++ [.text "  "])]) =
        (definitionsText c).toList := by
    unfold definitionsText Canvas.definitionTexts
    rw [List.isEmpty_map]
    split
    · rfl
    · simp only [contentChars_lines, List.flatMap_singleton, chars, contentChars,
        contentChars_append, newline, two, four, String.toList_append, toList_join_lines,
        List.cons_append]
      simp [tagChars]
  apply String.toList_inj.mp
  simp only [Canvas.documentText, render, document, openingText, Canvas.elementTexts, chars,
    contentChars, contentChars_append, contentChars_lines, List.cons_append, newline, two,
    String.toList_append,
    String.toList_ofList, toList_join_lines]
  simpa using part

/-- What is drawn on a canvas, and what defines its gradients, is read back from the document of the
    canvas. -/
structure Readable (c : Canvas Float) : Prop where
  /-- Every element says what its mark was given. -/
  elements : ∀ (k : Nat) (p : Painted Float), c.marks[k]? = some p → ∃ text,
    c.elementTexts[k]? = some text ∧
    Spells text p.mark.given (p.mark.content.toList.map .char)
  /-- Every definition carries its number and says what its gradient was given. -/
  definitions : ∀ (n : Nat) (g : Gradient Float), c.definitions[n]? = some g →
    ∃ text, c.definitionTexts[n]? = some text ∧
      Spells text [("id", gradientId n)] (g.stops.flatMap stopPieces)
  /-- The document is one element, in which all that is opened is closed. -/
  document : read? c.documentText = some (document c).pieces
  /-- It holds the definitions and then the elements, in the order of drawing. -/
  lines : c.documentText = openingText c ++ definitionsText c ++
    String.join (c.elementTexts.map fun text => "  " ++ text ++ "\n") ++ "</svg>\n"

theorem Readable.of_admitted {c : Canvas Float} (h : c.Admitted) : Readable c := by
  refine ⟨?_, ?_, ?_, documentText_eq c⟩
  · intro k p found
    refine ⟨(element p.number p.mark).render, ?_,
      spells_element (h.marks p (Array.mem_of_getElem? found)) _⟩
    simp [Canvas.elementTexts, Svg.elements, found]
  · intro n g found
    refine ⟨(gradient n g).render, ?_,
      spells_gradient (h.definitions g (Array.mem_of_getElem? found)) _⟩
    simp [Canvas.definitionTexts, Svg.definitions, found]
  · have tree := read?_chars (x := Svg.document c) (by simp [Svg.document]) (proper_document h)
      ['\n'] (by simp [isBlank])
    rw [Canvas.documentText, render, ← tree, String.ofList_append]

end Svg

/-- Escaping is to replace four characters one after another. It takes away those that could end a
    text, writes ampersands only in front of entities, and is undone by one pass from left to right.
    So whatever is done to a new canvas, with any strings of characters that XML admits: its
    elements, its definitions and its document are read as XML, and say exactly what was given, for
    the last of the marks that were drawn, in the order of drawing. -/
theorem texts_stay_texts :
    (∀ cs, Xml.escape cs = Xml.substitute '\x27' "&apos;".toList (Xml.substitute '>' "&gt;".toList
        (Xml.substitute '<' "&lt;".toList (Xml.substitute '&' "&amp;".toList cs))) ∧
      (∀ c ∈ Xml.escape cs, c ≠ '<' ∧ c ≠ '>' ∧ c ≠ '\x27') ∧
      (∀ before after, Xml.escape cs = before ++ '&' :: after →
        ∃ pair ∈ Xml.entities, pair.2 <+: '&' :: after) ∧
      Xml.unescape (Xml.escape cs) = cs) ∧
    Function.Injective Xml.escape ∧
    ∀ ops : List (Canvas.Operation Float), (∀ op ∈ ops, ∀ s ∈ op.strings, Xml.Admitted s) →
      (Canvas.empty.performAll ops).marks.toList.map Painted.mark <:+
        ops.filterMap Canvas.Operation.mark? ∧
      Svg.Readable (Canvas.empty.performAll ops) := by
  refine ⟨?_, Xml.escape_injective, ?_⟩
  · intro cs
    exact ⟨Xml.escape_eq_substitute cs, fun c member => Xml.not_mem_escape member,
      fun before after => Xml.exists_entity_of_ampersand, Xml.unescape_escape cs⟩
  · intro ops given
    constructor
    · simpa [Canvas.empty] using Canvas.marks_performAll Canvas.empty ops
    · apply Svg.Readable.of_admitted
      exact Canvas.performAll_induction (Canvas.admitted_resize 0 0)
        fun c op member h => h.perform (given op member)

/-- Markup, entities and quotes in every place that takes a string. -/
theorem texts_stay_texts_markup :
    let ops : List (Canvas.Operation Float) := [.resize 100 50,
      .draw (.stroke [⟨0, 0⟩, ⟨10, 10⟩]
        (.gradient ⟨⟨0, 0⟩, ⟨100, 0⟩, [(0, "red'/><"), (1, "&#39;")]⟩) 2),
      .draw (.text "a<b & 'c' &lt;" ⟨5, 5⟩ .left .top "url('#g0')"),
      .draw (.image ⟨"'><script>&amp;", 10, 10⟩ ⟨0, 0⟩)]
    (∀ op ∈ ops, ∀ s ∈ op.strings, Xml.Admitted s) ∧
      (Canvas.empty.performAll ops).marks.toList.map Painted.mark <:+
        ops.filterMap Canvas.Operation.mark? ∧
      Svg.Readable (Canvas.empty.performAll ops) := by
  intro ops
  have given : ∀ op ∈ ops, ∀ s ∈ op.strings, Xml.Admitted s := by decide
  exact ⟨given, texts_stay_texts.2.2 ops given⟩

end LadderAtlas
