import AutocadMcp.Lib.Plane
import AutocadMcp.Lib.Spans
import Mathlib.Algebra.Order.Field.Rat
import Mathlib.Algebra.Order.Floor.Ring
import Mathlib.Data.Prod.Lex

/-!
# Drawings and their dimensions

The DXF attributes that `dimension_intelligence` reads and its helpers on points,
segments, text boxes and chains, in exact arithmetic over an ordered field.
-/

namespace AutocadMcp.Dimension

open Plane

/-! ## Literals

The literals of lengths, angles and tolerances, as every module reads them. -/

scoped instance two_atLeastTwo : Nat.AtLeastTwo 2 := ⟨le_rfl⟩

scoped instance five_atLeastTwo : Nat.AtLeastTwo 5 := ⟨by decide⟩

scoped instance ten_atLeastTwo : Nat.AtLeastTwo 10 := ⟨by decide⟩

scoped instance thirtyFive_atLeastTwo : Nat.AtLeastTwo 35 := ⟨by decide⟩

scoped instance fortyFive_atLeastTwo : Nat.AtLeastTwo 45 := ⟨by decide⟩

scoped instance sixtyFive_atLeastTwo : Nat.AtLeastTwo 65 := ⟨by decide⟩

scoped instance ninety_atLeastTwo : Nat.AtLeastTwo 90 := ⟨by decide⟩

scoped instance hundred_atLeastTwo : Nat.AtLeastTwo 100 := ⟨by decide⟩

scoped instance halfTurn_atLeastTwo : Nat.AtLeastTwo 180 := ⟨by decide⟩

scoped instance turn_atLeastTwo : Nat.AtLeastTwo 360 := ⟨by decide⟩

scoped instance thousand_atLeastTwo : Nat.AtLeastTwo 1000 := ⟨by decide⟩

/-! ## Entities -/

/-- A `DIMENSION` entity. `measurement` is what `get_measurement` gives, when it is finite. -/
structure DimensionEntity (K : Type) where
  handle : String
  layer : String
  dimstyle : String
  dimtype : ℤ
  defpoint : Option (Point K)
  defpoint2 : Option (Point K)
  defpoint3 : Option (Point K)
  defpoint4 : Option (Point K)
  defpoint5 : Option (Point K)
  angle : K
  text : String
  textMidpoint : Option (Point K)
  measurement : Option K
  deriving DecidableEq

/-- What an entity draws; the angles of an arc are in degrees. -/
inductive Shape (K : Type) where
  | line (start stop : Point K)
  | polyline (points : List (Point K)) (closed : Bool)
  | circle (center : Point K) (radius : K)
  | arc (center : Point K) (radius startAngle endAngle : K)
  deriving DecidableEq

structure GeometryEntity (K : Type) where
  handle : String
  layer : String
  shape : Shape K
  deriving DecidableEq

/-- The entities of a modelspace; `other` is of a type that is neither measured nor measures. -/
inductive Entity (K : Type) where
  | dimension (d : DimensionEntity K)
  | geometry (g : GeometryEntity K)
  | other (dxftype handle : String)
  deriving DecidableEq

def Entity.dimension? {K : Type} : Entity K → Option (DimensionEntity K)
  | .dimension d => some d
  | _ => none

def Entity.geometry? {K : Type} : Entity K → Option (GeometryEntity K)
  | .geometry g => some g
  | _ => none

/-- What `math` gives of lengths and of an angle in degrees, and how Python writes and reads a
number and writes a string: `f"{x:g}"`, `float(text)`, `f"{text!r}"`. -/
structure MathRuntime (K : Type) where
  hypot : K → K → K
  direction : K → Point K
  general : K → String
  float : String → Option K
  repr : String → String

/-- The runtime on what is drawn along the axes in whole numbers. -/
def axisRuntime : MathRuntime ℚ where
  hypot x y := |x| + |y|
  direction angle := if angle = 90 then (0, 1) else (1, 0)
  general x := toString x.num
  float text :=
    if text ≠ "" ∧ text.toList.all Char.isDigit then some (Nat.ofDigitChars 10 text.toList 0 : ℕ)
    else none
  repr text := "'" ++ text ++ "'"

variable {K : Type} [Field K] [LinearOrder K]

/-! ## Points and segments -/

section

variable (M : MathRuntime K)

/-- `math.dist`. -/
def dist (p q : Point K) : K := M.hypot (p.1 - q.1) (p.2 - q.2)

def close (p q : Point K) (tolerance : K) : Bool := dist M p q ≤ tolerance

def Shape.lineSegments : Shape K → List (Segment K)
  | .line start stop => [(start, stop)]
  | .polyline points closed =>
      if points.length < 2 then []
      else points.zip points.tail ++
        match closed, points.getLast?, points.head? with
        | true, some last, some first => [(last, first)]
        | _, _, _ => []
  | _ => []

/-- The least box around points, by its lower and its upper corner. -/
def boxOf : List (Point K) → Option (Segment K)
  | [] => none
  | p :: ps => some (ps.foldl (fun low q => (min low.1 q.1, min low.2 q.2)) p,
      ps.foldl (fun high q => (max high.1 q.1, max high.2 q.2)) p)

def Shape.extents (s : Shape K) : Option (Segment K) :=
  match boxOf (s.lineSegments.flatMap fun segment => [segment.1, segment.2]), s with
  | some box, _ => some box
  | none, .circle center radius | none, .arc center radius _ _ =>
      some ((center.1 - radius, center.2 - radius), (center.1 + radius, center.2 + radius))
  | none, _ => none

def drawingExtents (geometry : List (GeometryEntity K)) : Option (Segment K) :=
  boxOf ((geometry.filterMap fun g => g.shape.extents).flatMap fun box => [box.1, box.2])

def defaultTolerance (geometry : List (GeometryEntity K)) : K :=
  match drawingExtents geometry with
  | none => 1 / 10 ^ 6
  | some (low, high) => max (max (high.1 - low.1) (high.2 - low.2)) 1 * (1 / 10 ^ 5)

def properIntersection (first second : Segment K) (tolerance : K) : Bool :=
  let (a, b) := first
  let (c, d) := second
  if [a, b].any fun left => [c, d].any fun right => close M left right tolerance then false
  else cross a b c * cross a b d < -tolerance ^ 2 && cross c d a * cross c d b < -tolerance ^ 2

def pointOnSegment (point : Point K) (segment : Segment K) (tolerance : K) : Bool :=
  let (start, stop) := segment
  let length := dist M start stop
  if length ≤ tolerance then close M point start tolerance
  else
    let crossDistance := |cross start stop point| / length
    let dot := (point.1 - start.1) * (stop.1 - start.1) + (point.2 - start.2) * (stop.2 - start.2)
    crossDistance ≤ tolerance && (-tolerance ≤ dot && dot ≤ length * length + tolerance)

def pointOnShape (point : Point K) (shape : Shape K) (tolerance : K) : Bool :=
  shape.lineSegments.any (fun segment => pointOnSegment M point segment tolerance) ||
    match shape with
    | .circle center radius | .arc center radius _ _ =>
        let distance := dist M point center
        distance ≤ tolerance || |distance - radius| ≤ tolerance
    | _ => false

def pointOnGeometry (point : Point K) (geometry : List (GeometryEntity K)) (tolerance : K) :
    Bool :=
  geometry.any fun g => pointOnShape M point g.shape tolerance

def collinearOverlap (first second : Segment K) (tolerance : K) : Bool :=
  let reach := tolerance * max (dist M first.1 first.2) 1
  if |cross first.1 first.2 second.1| > reach || |cross first.1 first.2 second.2| > reach then false
  else
    let along : Point K → K :=
      if |first.2.2 - first.1.2| ≤ |first.2.1 - first.1.1| then Prod.fst else Prod.snd
    let left := (min (along first.1) (along first.2), max (along first.1) (along first.2))
    let right := (min (along second.1) (along second.2), max (along second.1) (along second.2))
    tolerance < min left.2 right.2 - max left.1 right.1

end

/-! ## Dimensions -/

section

variable [FloorRing K]

/-- Python's `round`: the nearest integer, and the even one of two that are equally near. -/
def round (x : K) : ℤ :=
  let rest := x - ⌊x⌋
  if rest < 1 / 2 then ⌊x⌋
  else if 1 / 2 < rest then ⌊x⌋ + 1
  else if ⌊x⌋ % 2 = 0 then ⌊x⌋ else ⌊x⌋ + 1

def roundPoint (point : Point K) (tolerance : K) : ℤ × ℤ :=
  (round (point.1 / tolerance), round (point.2 / tolerance))

/-- `points[1:3] = sorted(points[1:3])`. -/
def sortReferences : List (ℤ × ℤ) → List (ℤ × ℤ)
  | base :: p :: q :: rest =>
      if toLex p ≤ toLex q then base :: p :: q :: rest else base :: q :: p :: rest
  | points => points

/-- `_dimension_signature`; `& 15` is the remainder by 16. -/
def signature (d : DimensionEntity K) (tolerance : K) : ℤ × List (ℤ × ℤ) × K :=
  let points := [d.defpoint, d.defpoint2, d.defpoint3, d.defpoint4, d.defpoint5].filterMap
    (Option.map fun point => roundPoint point tolerance)
  (d.dimtype % 16, sortReferences points, round (d.angle * 10 ^ 4) / 10 ^ 4)

end

inductive Orientation where
  | horizontal
  | vertical
  | aligned
  deriving DecidableEq

def orientation (d : DimensionEntity K) (tolerance : K) : Option Orientation :=
  match d.defpoint2, d.defpoint3 with
  | some first, some second =>
      if |first.2 - second.2| ≤ tolerance then some .horizontal
      else if |first.1 - second.1| ≤ tolerance then some .vertical
      else some .aligned
  | _, _ => none

def dimensionInterval (d : DimensionEntity K) (tolerance : K) : Option (Orientation × K × K) :=
  match orientation d tolerance, d.defpoint2, d.defpoint3 with
  | some .horizontal, some first, some second =>
      some (.horizontal, min first.1 second.1, max first.1 second.1)
  | some .vertical, some first, some second =>
      some (.vertical, min first.2 second.2, max first.2 second.2)
  | _, _, _ => none

section

variable (M : MathRuntime K)

def dimensionLine (d : DimensionEntity K) : Option (Segment K) :=
  match d.defpoint, d.defpoint2, d.defpoint3 with
  | some base, some first, some second =>
      let direction := M.direction d.angle
      let project (point : Point K) : Point K :=
        let distance := (point.1 - base.1) * direction.1 + (point.2 - base.2) * direction.2
        (base.1 + distance * direction.1, base.2 + distance * direction.2)
      some (project first, project second)
  | _, _, _ => none

def dimensionTextBox (d : DimensionEntity K) (textHeight : K) : Option (Segment K) :=
  d.textMidpoint.map fun center =>
    let label := if d.text ∉ ["", "<>"] then d.text else M.general (d.measurement.getD 0)
    let halfWidth := (max label.length 1 : ℕ) * textHeight * (35 / 100)
    let halfHeight := textHeight * (65 / 100)
    ((center.1 - halfWidth, center.2 - halfHeight), (center.1 + halfWidth, center.2 + halfHeight))

def boxesOverlap (left right : Segment K) : Bool :=
  !(left.2.1 < right.1.1 || right.2.1 < left.1.1 || left.2.2 < right.1.2 || right.2.2 < left.1.2)

/-- `text.replace(",", ".")`. -/
def decimalPoint (text : String) : String := text.map fun c => if c = ',' then '.' else c

def displayedMeasurement (d : DimensionEntity K) : Option K :=
  if d.text ∉ ["", "<>"] then (M.float (decimalPoint d.text)).or d.measurement else d.measurement

end

/-! ## Chains -/

/-- A candidate with its interval. -/
structure Span (K : Type) where
  left : K
  right : K
  dimension : DimensionEntity K
  deriving DecidableEq

/-- The spans of `_find_chain_for_overall`. A candidate that equals the overall dimension has its
interval and is not shorter, whether or not it is the same object. -/
def spansWithin (overall : DimensionEntity K) (candidates : List (DimensionEntity K))
    (tolerance : K) (direction : Orientation) (start stop : K) : List (Span K) :=
  candidates.filterMap fun candidate =>
    match dimensionInterval candidate tolerance with
    | none => none
    | some (candidateOrientation, left, right) =>
        if candidate ≠ overall ∧ candidateOrientation = direction ∧ left ≥ start - tolerance ∧
            right ≤ stop + tolerance ∧ right - left < stop - start - tolerance then
          some ⟨left, right, candidate⟩
        else none

def findChainForOverall [IsStrictOrderedRing K] (overall : DimensionEntity K)
    (candidates : List (DimensionEntity K)) {tolerance : K} (htol : 0 < tolerance) :
    List (DimensionEntity K) :=
  match dimensionInterval overall tolerance with
  | none => []
  | some (direction, start, stop) =>
      match Spans.walk Span.left Span.right
          (spansWithin overall candidates tolerance direction start stop) stop htol start with
      | none => []
      | some (chain, cursor) =>
          if 2 ≤ chain.length ∧ |cursor - stop| ≤ tolerance then chain.map Span.dimension else []

end AutocadMcp.Dimension
