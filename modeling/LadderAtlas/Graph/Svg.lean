import LadderAtlas.Graph.Canvas
import LadderAtlas.Number.Numeral
import LadderAtlas.Text.Xml

/-! # SVG

A canvas as an SVG document. Gradients are defined ahead of the marks, numbered in the order of
their definitions on the canvas.
-/

namespace LadderAtlas.Svg

variable {α : Type} [Scalar α]

/-- A number with at most two decimals. -/
def number (x : α) : String :=
  let rounded := Scalar.round (x * 100) / 100
  if rounded == Scalar.trunc rounded then Numeral.text (Scalar.toInt64 rounded)
  else Scalar.shortestText rounded

def gradientId (n : Nat) : String := "g" ++ Numeral.text n

def pointList (points : List (Point α)) : String :=
  " ".intercalate (points.map fun p => number p.x ++ "," ++ number p.y)

/-- The paint of a style, a gradient being the one of the given number. -/
def paint (n : Nat) : Style α → String
  | .color color => color
  | .gradient _ => "url(#" ++ gradientId n ++ ")"

/-- Which point of a text its place fixes. -/
def anchor : Align → String
  | .left => "start"
  | .center => "middle"
  | .right => "end"

/-- Which line of a text its place fixes. -/
def dominantBaseline : Baseline → String
  | .top => "hanging"
  | .middle => "middle"
  | .bottom => "text-after-edge"

def gradient (n : Nat) (g : Gradient α) : Xml :=
  .element "linearGradient"
    [("id", gradientId n), ("gradientUnits", "userSpaceOnUse"),
      ("x1", number g.start.x), ("y1", number g.start.y),
      ("x2", number g.finish.x), ("y2", number g.finish.y)]
    (g.stops.map fun (fraction, color) =>
      .empty "stop" [("offset", number fraction), ("stop-color", color)])

/-- The element of a mark whose gradient, if it has one, is the one of the given number. -/
def element (n : Nat) : Mark α → Xml
  | .rect r style alpha =>
    let opacity := if alpha < 1 then [("fill-opacity", number alpha)] else []
    .empty "rect"
      ([("x", number r.x), ("y", number r.y), ("width", number r.width),
        ("height", number r.height), ("fill", paint n style)] ++ opacity)
  | .stroke points style width =>
    .empty "polyline"
      [("points", pointList points), ("fill", "none"), ("stroke", paint n style),
        ("stroke-width", number width)]
  | .fill points style =>
    .empty "polygon" [("points", pointList points), ("fill", paint n style)]
  | .text text place align baseline color =>
    .element "text"
      [("x", number place.x), ("y", number place.y), ("fill", color), ("font-family", "sans-serif"),
        ("font-size", "13"), ("text-anchor", anchor align),
        ("dominant-baseline", dominantBaseline baseline)]
      [.text text]
  | .image image place =>
    .empty "image"
      [("href", image.source), ("x", number place.x), ("y", number place.y),
        ("width", number image.width), ("height", number image.height)]

/-- The definitions on a canvas, numbered in order. -/
def definitions (c : Canvas α) : List Xml :=
  c.definitions.toList.zipIdx.map fun (g, n) => gradient n g

/-- The elements of a canvas, the first one lowest. -/
def elements (c : Canvas α) : List Xml := c.marks.toList.map fun p => element p.number p.mark

/-- Put each piece on a line of its own behind `indent`. -/
def lines (indent : String) (pieces : List Xml) : List Xml :=
  pieces.flatMap fun piece => [.text indent, piece, .text "\n"]

def document (c : Canvas α) : Xml :=
  let definitions := definitions c
  let definitionsPart : List Xml :=
    if definitions.isEmpty then []
    else lines "  " [.element "defs" [] (.text "\n" :: lines "    " definitions ++ [.text "  "])]
  let width := number c.width
  let height := number c.height
  .element "svg"
    [("xmlns", "http://www.w3.org/2000/svg"), ("width", width), ("height", height),
      ("viewBox", "0 0 " ++ width ++ " " ++ height)]
    (.text "\n" :: definitionsPart ++ lines "  " (elements c))

end LadderAtlas.Svg

namespace LadderAtlas.Canvas

variable {α : Type} [Scalar α]

/-- The texts of the elements of a canvas, the first one lowest. -/
def elementTexts (c : Canvas α) : List String := (Svg.elements c).map Xml.render

def documentText (c : Canvas α) : String := (Svg.document c).render ++ "\n"

end LadderAtlas.Canvas
