import Toolpath.Scene.Projection

/-!
The scene as an SVG document. The edges of one kind of move form one path: the pen is moved only
where an edge does not start at the end of the one drawn before it.
-/

namespace Toolpath.Scene

open Program

inductive Pen
  | move (p : Point)
  | line (p : Point)
  deriving DecidableEq, Repr

namespace Pen

def words : Pen → List Text
  | move p => [['M'], Number.fixed p.x 2, Number.fixed p.y 2]
  | line p => [['L'], Number.fixed p.x 2, Number.fixed p.y 2]

def draw (at? : Option Point) : List Segment → List Pen
  -- Edges with an end that is not finite are left out, and lift the pen.
  | [] => []
  | s :: r =>
    if s.start.isFinite && s.finish.isFinite then
      let strokes := if at?.any (·.same s.start) then [line s.finish] else [move s.start, line s.finish]
      strokes ++ draw (some s.finish) r
    else draw none r

end Pen

def pathData (segments : List Segment) (m : Motion) : Text :=
  Text.join [' '] ((Pen.draw none (segments.filter (·.motion = m))).flatMap Pen.words)

def attr (name : String) (value : Text) : Text := ' ' :: name.toList ++ '=' :: '"' :: value ++ ['"']

def pathLine (segments : List Segment) (m : Motion) : List Text :=
  let data := pathData segments m
  if data.isEmpty then []
  else
    let dashes := if m.isDashed then attr "stroke-dasharray" "5 5".toList else []
    ["  <path".toList ++ attr "d" data ++ attr "fill" "none".toList ++
      attr "stroke" m.color ++ dashes ++ "/>".toList]

def markerLines (m : Marker) : List Text :=
  let x := m.position.x
  let y := m.position.y
  let coordinate (v : Float) := Number.fixed v 2
  let circle := "  <circle".toList ++ attr "cx" (coordinate x) ++ attr "cy" (coordinate y)
  let disc := circle ++ attr "r" ['4'] ++
    attr "fill" (if m.overlap then "#ff5500" else "red").toList ++ "/>".toList
  let ring := circle ++ attr "r" ['6'] ++ attr "fill" "none".toList ++
    attr "stroke" "#ff5500".toList ++ "/>".toList
  let text (x y : Float) := "  <text".toList ++ attr "x" (coordinate x) ++ attr "y" (coordinate y)
  let label := text x (y - Float.ofNat 10) ++ attr "font-size" "12".toList ++
    attr "text-anchor" "middle".toList ++ '>' :: m.label ++ "</text>".toList
  let badge := m.badge.map fun b =>
    text (x + Float.ofNat 10) (y - Float.ofNat 15) ++ attr "font-size" "10".toList ++
      attr "fill" "#cc0000".toList ++ '>' :: b ++ "</text>".toList
  [disc] ++ (if m.overlap then [ring] else []) ++ [label] ++ badge.toList

def svg (p : Projection) (width height : Float) : Text :=
  let w := Number.fixed width 0
  let h := Number.fixed height 0
  let head := "<svg".toList ++ attr "xmlns" "http://www.w3.org/2000/svg".toList ++
    attr "width" w ++ attr "height" h ++
    attr "viewBox" ("0 0 ".toList ++ w ++ ' ' :: h) ++ ['>']
  let body := pathLine p.segments .rapid ++ pathLine p.segments .linear ++ p.markers.flatMap markerLines
  Text.unlines ([head] ++ body ++ ["</svg>".toList]) ++ ['\n']

end Toolpath.Scene
