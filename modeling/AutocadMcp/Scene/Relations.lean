import AutocadMcp.Lib.PlaneDistance
import AutocadMcp.Scene.Models

/-!
# Relations of two geometries

The relation pass of `relations.py` in exact arithmetic. Lengths and angles are those of
a field with `Hypot` and `Angles`, of which the reals are one.
-/

namespace AutocadMcp.Scene

open Plane

/-- What `math` gives on angles. -/
class Angles (K : Type) [Field K] [LinearOrder K] where
  pi : K
  pi_pos : 0 < pi
  cos : K → K
  sin : K → K
  atan2 : K → K → K

noncomputable instance : Angles ℝ where
  pi := Real.pi
  pi_pos := Real.pi_pos
  cos := Real.cos
  sin := Real.sin
  atan2 y x := Complex.arg ⟨x, y⟩

/-! ## Geometries -/

structure LineGeometry (K : Type) where
  start : Point K
  stop : Point K
  deriving DecidableEq

structure CircleGeometry (K : Type) where
  center : Point K
  radius : K
  deriving DecidableEq

structure PolylineVertex (K : Type) where
  x : K
  y : K
  bulge : K
  deriving DecidableEq

def PolylineVertex.xy {K : Type} (v : PolylineVertex K) : Point K := (v.x, v.y)

/-- A polyline has two vertices at least; its elevation is not read. -/
structure PolylineGeometry (K : Type) where
  vertices : List (PolylineVertex K)
  closed : Bool
  two_le : 2 ≤ vertices.length

structure ArcGeometry (K : Type) where
  center : Point K
  radius : K
  startAngleRadians : K
  endAngleRadians : K
  deriving DecidableEq

inductive Geometry (K : Type) where
  | line (g : LineGeometry K)
  | circle (g : CircleGeometry K)
  | polyline (g : PolylineGeometry K)
  | arc (g : ArcGeometry K)

inductive RelationType where
  | duplicateGeometry
  | connectedEndpoint
  | overlap
  | touch
  | intersect
  | parallel
  | aligned
  | perpendicular
  | concentric
  | contains
  | inside
  deriving DecidableEq, Repr

namespace PolylineGeometry

variable {K : Type} (g : PolylineGeometry K)

theorem vertices_ne_nil : g.vertices ≠ [] := by
  intro h
  have := g.two_le
  simp [h] at this

def first : PolylineVertex K := g.vertices.head g.vertices_ne_nil

def last : PolylineVertex K := g.vertices.getLast g.vertices_ne_nil

/-- Each vertex with the next, and the last with the first where the polyline is closed. -/
def pairs : List (PolylineVertex K × PolylineVertex K) :=
  g.vertices.zip g.vertices.tail ++ if g.closed then [(g.last, g.first)] else []

end PolylineGeometry

section

variable {K : Type} [Field K] [LinearOrder K]

/-- The corners of a closed polyline without bulges. -/
def straightClosedPolygon : Option (Geometry K) → Option (List (Point K))
  | some (.polyline g) =>
      if g.closed ∧ ∀ v ∈ g.vertices, v.bulge = 0 then some (g.vertices.map (·.xy)) else none
  | _ => none

def straightSegments : Geometry K → List (Segment K)
  | .line g => [(g.start, g.stop)]
  | .polyline g => (g.pairs.filter fun p => p.1.bulge = 0).map fun p => (p.1.xy, p.2.xy)
  | _ => []

def centerRadius : Geometry K → Option (Point K × K)
  | .circle g => some (g.center, g.radius)
  | .arc g => some (g.center, g.radius)
  | _ => none

def fullCircle : Geometry K → Option (Point K × K)
  | .circle g => some (g.center, g.radius)
  | _ => none

/-! ## Polylines -/

/-- A vertex as `_polyline_sequences` has it. -/
abbrev SequenceItem (K : Type) := Point K × K

def forwardSequence (g : PolylineGeometry K) : List (SequenceItem K) :=
  g.vertices.map fun v => (v.xy, v.bulge)

/-- The vertices from the last to the first, each with the bulge of the edge that it then starts:
that of the vertex before it, which `lead` gives for the first vertex. -/
def reversedSequence (lead : K) (g : PolylineGeometry K) : List (SequenceItem K) :=
  ((g.vertices.map (·.xy)).zip (lead :: g.vertices.map fun v => -v.bulge)).reverse

/-- `_polyline_sequences`. -/
def polylineSequences (g : PolylineGeometry K) : List (List (SequenceItem K)) :=
  if g.closed then
    [forwardSequence g, reversedSequence (-g.last.bulge) g].flatMap fun sequence =>
      (List.range sequence.length).map fun index => sequence.rotate index
  else [forwardSequence g, reversedSequence 0 g]

/-! ## Segments and points -/

section

variable [Hypot K]

/-- `_point_segment_distance`: the distance from the foot on the line, and its parameter. -/
def pointSegmentDistance (p : Point K) (s : Segment K) : K × K :=
  if lengthSq s = 0 then (pointDist p s.1, 0)
  else (pointDist p (pointAt s (foot p s)), foot p s)

def pointOnSegment (p : Point K) (s : Segment K) (tolerance : K) : Prop :=
  (-tolerance ≤ (pointSegmentDistance p s).2 ∧ (pointSegmentDistance p s).2 ≤ 1 + tolerance) ∧
    (pointSegmentDistance p s).1 ≤ tolerance

instance (p : Point K) (s : Segment K) (tolerance : K) : Decidable (pointOnSegment p s tolerance) :=
  inferInstanceAs (Decidable (_ ∧ _))

def length (s : Segment K) : K := pointDist s.1 s.2

/-- The `scale` of `_collinear`. -/
def scaleOf (first second : Segment K) : K := max (max (length first) (length second)) 1

def collinear (first second : Segment K) (tolerance : K) : Prop :=
  |cross first.1 first.2 second.1| ≤ tolerance * scaleOf first second ∧
    |cross first.1 first.2 second.2| ≤ tolerance * scaleOf first second

instance (first second : Segment K) (tolerance : K) : Decidable (collinear first second tolerance) :=
  inferInstanceAs (Decidable (_ ∧ _))

def lineDistance (s : Segment K) (p : Point K) : K :=
  |cross s.1 s.2 p| / max (length s) (1 / 10 ^ 300)

end

/-- The axis on which a segment is longer. -/
def axisOf (s : Segment K) (p : Point K) : K :=
  if |s.2.2 - s.1.2| ≤ |s.2.1 - s.1.1| then p.1 else p.2

/-- How far the projections of two segments overlap on the axis of the first. -/
def axisOverlap (first second : Segment K) : K :=
  let on := axisOf first
  min (max (on first.1) (on first.2)) (max (on second.1) (on second.2)) -
    max (min (on first.1) (on first.2)) (min (on second.1) (on second.2))

section

variable [Hypot K]

/-- `_segment_relation`. -/
def segmentRelation (first second : Segment K) (tolerance : K) : Option RelationType :=
  if collinear first second tolerance then
    if tolerance < axisOverlap first second then some .overlap
    else if -tolerance ≤ axisOverlap first second then some .touch
    else none
  else if cross first.1 first.2 second.1 * cross first.1 first.2 second.2 < 0 ∧
      cross second.1 second.2 first.1 * cross second.1 second.2 first.2 < 0 then some .intersect
  else if pointOnSegment second.1 first tolerance ∨ pointOnSegment second.2 first tolerance ∨
      pointOnSegment first.1 second tolerance ∨ pointOnSegment first.2 second tolerance then
    some .touch
  else none

/-- `_line_circle_relation`. -/
def lineCircleRelation (line : Segment K) (circle : Point K × K) (tolerance : K) :
    Option RelationType :=
  let (distance, parameter) := pointSegmentDistance circle.1 line
  if parameter < 0 ∨ 1 < parameter then none
  else if |distance - circle.2| ≤ tolerance then some .touch
  else if distance < circle.2 - tolerance then some .intersect
  else none

end

/-! ## Containment -/

/-- The loop of `_point_in_polygon`, with `inside` and `previous`. -/
def polygonStep (p : Point K) (state : Bool × Point K) (current : Point K) : Bool × Point K :=
  let (inside, previous) := state
  if (decide (p.2 < current.2) != decide (p.2 < previous.2)) = true then
    let crossing := (previous.1 - current.1) * (p.2 - current.2) / (previous.2 - current.2) +
      current.1
    (if p.1 < crossing then !inside else inside, current)
  else (inside, current)

/-- `_point_in_polygon`, which `relations.py` and `features.py` both have. -/
def pointInPolygon (p : Point K) (polygon : List (Point K)) : Bool :=
  match polygon.getLast? with
  | none => false
  | some last => (polygon.foldl (polygonStep p) (false, last)).1

/-- `zip(polygon, polygon[1:] + polygon[:1])`. -/
def polygonEdges (polygon : List (Point K)) : List (Segment K) :=
  polygon.zip (polygon.tail ++ polygon.take 1)

/-- `Bounds.contains`. -/
def Bounds.containsBounds (b other : Bounds K) (tolerance : K) : Prop :=
  b.minX - tolerance ≤ other.minX ∧ b.minY - tolerance ≤ other.minY ∧
    other.maxX ≤ b.maxX + tolerance ∧ other.maxY ≤ b.maxY + tolerance

instance (b other : Bounds K) (tolerance : K) : Decidable (b.containsBounds other tolerance) :=
  inferInstanceAs (Decidable (_ ∧ _ ∧ _ ∧ _))

section

variable [Hypot K] {ι : Type}

/-- `_contains`. -/
def contains (outer inner : SceneNode ι K (Geometry K)) (tolerance : K) : Bool :=
  match outer.bounds, inner.bounds with
  | some outerBounds, some innerBounds =>
      decide (outerBounds.containsBounds innerBounds tolerance) &&
        match straightClosedPolygon outer.geometry with
        | none => false
        | some polygon =>
            match inner.geometry with
            | some (.circle g) =>
                pointInPolygon g.center polygon &&
                  (polygonEdges polygon).all fun edge =>
                    g.radius - tolerance ≤ (pointSegmentDistance g.center edge).1
            | geometry =>
                match straightClosedPolygon geometry with
                | none => false
                | some nested => nested.all fun p => pointInPolygon p polygon
  | _, _ => false

/-- `_point_segment_distance` of `features.py`, which stays on the segment. -/
def clampedDistance (p : Point K) (s : Segment K) : K :=
  if lengthSq s = 0 then pointDist p s.1
  else
    let value := max 0 (min 1 (foot p s))
    pointDist p (pointAt s value)

/-- `_circle_inside` of `features.py`. -/
def circleInside (circle : CircleGeometry K) (polygon : List (Point K)) (tolerance : K) : Bool :=
  pointInPolygon circle.center polygon &&
    (polygonEdges polygon).all fun edge => circle.radius - tolerance ≤ clampedDistance circle.center edge

end

/-! ## Pairs -/

section

variable [Hypot K] [Angles K]

open Angles

def arcEndpoints (g : ArcGeometry K) : Point K × Point K :=
  ((g.center.1 + g.radius * cos g.startAngleRadians, g.center.2 + g.radius * sin g.startAngleRadians),
    (g.center.1 + g.radius * cos g.endAngleRadians, g.center.2 + g.radius * sin g.endAngleRadians))

def endpoints : Geometry K → List (Point K)
  | .line g => [g.start, g.stop]
  | .arc g => [(arcEndpoints g).1, (arcEndpoints g).2]
  | .polyline g => if g.closed then [] else [g.first.xy, g.last.xy]
  | .circle _ => []

/-- `_connected`. -/
def connected (first second : Geometry K) (tolerance : K) : Prop :=
  ∃ left ∈ endpoints first, ∃ right ∈ endpoints second, pointDist left right ≤ tolerance

instance (first second : Geometry K) (tolerance : K) : Decidable (connected first second tolerance) :=
  inferInstanceAs (Decidable (∃ _ ∈ _, _))

def sequencesEqual (tolerance : K) (first second : List (SequenceItem K)) : Prop :=
  ∀ pair ∈ first.zip second,
    pointDist pair.1.1 pair.2.1 ≤ tolerance ∧ |pair.1.2 - pair.2.2| ≤ 1 / 10 ^ 12

instance (tolerance : K) (first second : List (SequenceItem K)) :
    Decidable (sequencesEqual tolerance first second) :=
  inferInstanceAs (Decidable (∀ _ ∈ _, _))

/-- `_geometry_equal`, also where the kinds differ. -/
def geometryEqual (first second : Geometry K) (tolerance : K) : Prop :=
  match first, second with
  | .line g, .line g' =>
      (pointDist g.start g'.start ≤ tolerance ∧ pointDist g.stop g'.stop ≤ tolerance) ∨
        (pointDist g.start g'.stop ≤ tolerance ∧ pointDist g.stop g'.start ≤ tolerance)
  | .circle g, .circle g' =>
      pointDist g.center g'.center ≤ tolerance ∧ |g.radius - g'.radius| ≤ tolerance
  | .arc g, .arc g' =>
      pointDist g.center g'.center ≤ tolerance ∧ |g.radius - g'.radius| ≤ tolerance ∧
        |g.startAngleRadians - g'.startAngleRadians| ≤ 1 / 10 ^ 12 ∧
        |g.endAngleRadians - g'.endAngleRadians| ≤ 1 / 10 ^ 12
  | .polyline g, .polyline g' =>
      (g.closed = g'.closed ∧ g.vertices.length = g'.vertices.length) ∧
        ∃ sequence ∈ polylineSequences g', sequencesEqual tolerance (forwardSequence g) sequence
  | _, _ => False

instance (first second : Geometry K) (tolerance : K) :
    Decidable (geometryEqual first second tolerance) := by
  unfold geometryEqual
  split <;> infer_instance

variable [FloorRing K]

/-- `%` of floating point numbers. -/
def floatMod (x y : K) : K := x - y * ⌊x / y⌋

/-- `_angle_delta`. -/
def angleDelta (first second : Segment K) : K :=
  let a := atan2 (first.2.2 - first.1.2) (first.2.1 - first.1.1)
  let b := atan2 (second.2.2 - second.1.2) (second.2.1 - second.1.1)
  |floatMod (a - b + pi) (2 * pi) - pi|

/-- What `_pair_relations` yields: a type, its metrics and the tolerance. -/
abbrev PairRelation (K : Type) := RelationType × List (String × K) × K

/-- The relations of two straight segments. -/
def segmentRelations (tolerance : ToleranceProfile K) (a b : Segment K) : List (PairRelation K) :=
  let angle := angleDelta a b
  let delta := min angle |pi - angle|
  ((segmentRelation a b tolerance.endpoint).toList.map fun type => (type, [], tolerance.endpoint)) ++
    (if delta ≤ tolerance.angular then
      (.parallel, [("angle_delta", delta)], tolerance.angular) ::
        if collinear a b tolerance.endpoint then
          [(.aligned, [("offset", lineDistance a b.1)], tolerance.endpoint)]
        else []
    else []) ++
    if |angle - pi / 2| ≤ tolerance.angular then
      [(.perpendicular, [("angle_delta", |angle - pi / 2|)], tolerance.angular)]
    else []

/-- The relation of two circles or arcs by their centers. -/
def concentricRelations (tolerance : ToleranceProfile K) (first second : Geometry K) :
    List (PairRelation K) :=
  match centerRadius first, centerRadius second with
  | some a, some b =>
      if pointDist a.1 b.1 ≤ tolerance.endpoint then
        [(.concentric, [("center_delta", pointDist a.1 b.1)], tolerance.endpoint)]
      else []
  | _, _ => []

/-- The relation of two full circles. -/
def circleRelations (tolerance : ToleranceProfile K) (first second : Geometry K) :
    List (PairRelation K) :=
  match fullCircle first, fullCircle second with
  | some a, some b =>
      let distance := pointDist a.1 b.1
      let outer := a.2 + b.2
      let inner := |a.2 - b.2|
      if |distance - outer| ≤ tolerance.endpoint ∨ |distance - inner| ≤ tolerance.endpoint then
        [(.touch, [("center_distance", distance)], tolerance.endpoint)]
      else if inner + tolerance.endpoint < distance ∧ distance < outer - tolerance.endpoint then
        [(.intersect, [("center_distance", distance)], tolerance.endpoint)]
      else []
  | _, _ => []

/-- The relations of the straight segments of one geometry with the circle of the other. -/
def lineCircleRelations (tolerance : ToleranceProfile K) (lines : List (Segment K))
    (circle : Option (Point K × K)) : List (PairRelation K) :=
  match circle with
  | some circle =>
      (lines.filterMap fun line => lineCircleRelation line circle tolerance.endpoint).map
        fun type => (type, [], tolerance.endpoint)
  | none => []

/-- `_pair_relations`. -/
def pairRelations (first second : Geometry K) (tolerance : ToleranceProfile K) :
    List (PairRelation K) :=
  (if geometryEqual first second tolerance.duplicate then
    [(.duplicateGeometry, [], tolerance.duplicate)] else []) ++
  (if connected first second tolerance.endpoint then
    [(.connectedEndpoint, [], tolerance.endpoint)] else []) ++
  (straightSegments first).flatMap (fun a =>
    (straightSegments second).flatMap fun b => segmentRelations tolerance a b) ++
  concentricRelations tolerance first second ++
  circleRelations tolerance first second ++
  lineCircleRelations tolerance (straightSegments first) (fullCircle second) ++
  lineCircleRelations tolerance (straightSegments second) (fullCircle first)

end

end

end AutocadMcp.Scene
