import Assessment.Json.Decoding
import Assessment.Number.BinaryFraction
import Assessment.Number.Word

/-!
# Shapes

Areas of the screen that points are tested against. Coordinates are whole; circles, ellipses and
polygons are tested in floating-point arithmetic.
-/

namespace Assessment

/-- An area of the screen. -/
inductive Shape where
  /-- The whole screen. -/
  | default
  /-- A rectangle, with its border; the sides may be given in either order. -/
  | rect (left top right bottom : Int64)
  /-- A circle, with its border. -/
  | circle (centerX centerY radius : Int64)
  /-- An ellipse, with its border. -/
  | ellipse (centerX centerY hRadius vRadius : Int64)
  /-- A polygon by its vertices; the last is joined to the first. -/
  | poly (points : List (Int64 × Int64))
  deriving DecidableEq

namespace Shape

/-- Whether the ray from a point to the right crosses the edge between two vertices. -/
def crosses (x y : Float) (source target : Int64 × Int64) : Bool :=
  let xi := Word.toFloat target.1
  let yi := Word.toFloat target.2
  let xj := Word.toFloat source.1
  let yj := Word.toFloat source.2
  (decide (y < yi) != decide (y < yj)) && x < (xj - xi) * (y - yi) / (yj - yi) + xi

/-- The edges of a closed outline: each vertex with the one before it. -/
def edges {α : Type} : List α → List (α × α)
  | [] => []
  | first :: rest => ((first :: rest).getLast (by simp) :: first :: rest).zip (first :: rest)

/-- Whether an odd number of the edges of an outline pass a test. -/
def oddlyMany {α : Type} (test : α → α → Bool) (outline : List α) : Bool :=
  (edges outline).foldl (fun odd edge => odd != test edge.1 edge.2) false

/-- Whether a shape contains a point. A degenerate ellipse and an outline of fewer than three
vertices contain none. -/
def contains (shape : Shape) (x y : Int64) : Bool :=
  match shape with
  | default => true
  | rect left top right bottom =>
    min left.toInt right.toInt ≤ x.toInt && x.toInt ≤ max left.toInt right.toInt &&
      min top.toInt bottom.toInt ≤ y.toInt && y.toInt ≤ max top.toInt bottom.toInt
  | circle centerX centerY radius =>
    let dx := Word.toFloat x - Word.toFloat centerX
    let dy := Word.toFloat y - Word.toFloat centerY
    let r := Word.toFloat radius
    fusedMulAdd dx dx (dy * dy) ≤ r * r
  | ellipse centerX centerY hRadius vRadius =>
    if hRadius = 0 ∨ vRadius = 0 then false
    else
      let nx := (Word.toFloat x - Word.toFloat centerX) / Word.toFloat hRadius
      let ny := (Word.toFloat y - Word.toFloat centerY) / Word.toFloat vRadius
      fusedMulAdd nx nx (ny * ny) ≤ 1.0
  | poly points =>
    if points.length < 3 then false
    else oddlyMany (crosses (Word.toFloat x) (Word.toFloat y)) points

/-- A shape as JSON. -/
def toJson : Shape → Json
  | default => .tagged "shape" "default" []
  | rect left top right bottom =>
    .tagged "shape" "rect" [("left", .int left.toInt), ("top", .int top.toInt),
      ("right", .int right.toInt), ("bottom", .int bottom.toInt)]
  | circle centerX centerY radius =>
    .tagged "shape" "circle" [("center_x", .int centerX.toInt), ("center_y", .int centerY.toInt),
      ("radius", .int radius.toInt)]
  | ellipse centerX centerY hRadius vRadius =>
    .tagged "shape" "ellipse" [("center_x", .int centerX.toInt), ("center_y", .int centerY.toInt),
      ("h_radius", .int hRadius.toInt), ("v_radius", .int vRadius.toInt)]
  | poly points =>
    .tagged "shape" "poly"
      [("points", .ofList (fun point => .arr [.int point.1.toInt, .int point.2.toInt]) points)]

/-- The shape that JSON writes. -/
def ofJson? (datum : Datum) : Option Shape := do
  let (name, body) ← datum.variant? "shape" ["default", "rect", "circle", "ellipse", "poly"]
  match name with
  | "default" => if body.noFields then some default else none
  | "rect" =>
    let fields ← body.fields? ["left", "top", "right", "bottom"]
    some (rect (← fields.required "left" Datum.word?) (← fields.required "top" Datum.word?)
      (← fields.required "right" Datum.word?) (← fields.required "bottom" Datum.word?))
  | "circle" =>
    let fields ← body.fields? ["center_x", "center_y", "radius"]
    some (circle (← fields.required "center_x" Datum.word?)
      (← fields.required "center_y" Datum.word?) (← fields.required "radius" Datum.word?))
  | "ellipse" =>
    let fields ← body.fields? ["center_x", "center_y", "h_radius", "v_radius"]
    some (ellipse (← fields.required "center_x" Datum.word?)
      (← fields.required "center_y" Datum.word?) (← fields.required "h_radius" Datum.word?)
      (← fields.required "v_radius" Datum.word?))
  | "poly" =>
    let fields ← body.fields? ["points"]
    some (poly (← fields.required "points" (Datum.list? (Datum.pair? Datum.word?))))
  | _ => none

end Shape

end Assessment
