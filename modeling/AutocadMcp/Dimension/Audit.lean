import AutocadMcp.Dimension.Drawing
import AutocadMcp.Lib.Groups

/-!
# The audit of a drawing's dimensions

`audit_dimensions`, with the findings in the order in which they are reported.
-/

namespace AutocadMcp.Dimension

open Plane

inductive Severity where
  | error
  | warning
  | info
  deriving DecidableEq

inductive IssueCode where
  | wrongLayer
  | wrongStyle
  | duplicateDimension
  | textOverlap
  | dimensionCrossesGeometry
  | dimensionLineOverlap
  | detachedGeometryReference
  | chainAccumulationError
  | missingOverallDimension
  | missingHoleLocation
  deriving DecidableEq

/-- The `data` of an issue. -/
inductive IssueData (K : Type) where
  | expectation (actual expected : String)
  | duplicates (keep : String) (delete : List String)
  | empty
  | detachedPoints (points : List (Point K))
  | totals (overall chainTotal : K)
  | missing (sides : List String) (width height : K)
  | holes (handles : List String)
  deriving DecidableEq

/-- An entry of `pending`, an issue without its id. -/
structure Finding (K : Type) where
  code : IssueCode
  severity : Severity
  message : String
  dimensionHandles : List String
  repairable : Bool
  suggestedAction : String
  data : IssueData K
  deriving DecidableEq

structure DimensionIssue (K : Type) extends Finding K where
  issueId : String
  deriving DecidableEq

structure DimensionAuditReport (K : Type) where
  issues : List (DimensionIssue K)
  dimensionCount : ℕ
  geometryCount : ℕ
  expectedLayer : String
  expectedStyle : Option String
  extents : Option (Segment K)

def dimensionsOf {K : Type} (source : List (Entity K)) : List (DimensionEntity K) :=
  source.filterMap Entity.dimension?

/-- The geometry on other layers than the dimensions'. -/
def auditedGeometry {K : Type} (source : List (Entity K)) (expectedLayer : String) :
    List (GeometryEntity K) :=
  (source.filterMap Entity.geometry?).filter fun g => g.layer ≠ expectedLayer

/-- The pairs `(left, right)` where `right` is behind `left` in the list. -/
def laterPairs {α : Type} : List α → List (α × α)
  | [] => []
  | x :: rest => rest.map (Prod.mk x) ++ laterPairs rest

variable {K : Type} [Field K] [LinearOrder K]

/-! ## Single dimensions -/

section

variable (expectedLayer : String) (expectedStyle : Option String)

/-- An empty style is no expectation. -/
def styleExpected : Option String := expectedStyle.filter (· ≠ "")

variable (M : MathRuntime K)

def wrongLayer (d : DimensionEntity K) : List (Finding K) :=
  if d.layer ≠ expectedLayer then
    [{ code := .wrongLayer
       severity := .warning
       message := s!"Dimension {d.handle} is on layer {M.repr d.layer}, expected " ++
         s!"{M.repr expectedLayer}."
       dimensionHandles := [d.handle]
       repairable := true
       suggestedAction := "set_layer"
       data := .expectation d.layer expectedLayer }]
  else []

def wrongStyle (d : DimensionEntity K) : List (Finding K) :=
  match styleExpected expectedStyle with
  | none => []
  | some style =>
      if d.dimstyle ≠ style then
        [{ code := .wrongStyle
           severity := .warning
           message := s!"Dimension {d.handle} uses style {M.repr d.dimstyle}, expected " ++
             s!"{M.repr style}."
           dimensionHandles := [d.handle]
           repairable := true
           suggestedAction := "set_style"
           data := .expectation d.dimstyle style }]
      else []

end

/-! ## Several dimensions -/

/-- `signatures`: the dimensions by their signature. -/
def signatureGroups [FloorRing K] (dimensions : List (DimensionEntity K)) (tol : K) :
    List ((ℤ × List (ℤ × ℤ) × K) × List (DimensionEntity K)) :=
  groupBy [] (fun group d => group ++ [d]) (fun d => signature d tol) dimensions

def duplicateFinding (duplicates : List (DimensionEntity K)) : Option (Finding K) :=
  match duplicates.map DimensionEntity.handle with
  | keep :: next :: rest =>
      some
        { code := .duplicateDimension
          severity := .error
          message := "Dimensions " ++ ", ".intercalate (keep :: next :: rest) ++
            " measure the same references."
          dimensionHandles := keep :: next :: rest
          repairable := true
          suggestedAction := "delete_duplicates"
          data := .duplicates keep (next :: rest) }
  | _ => none

section

variable (M : MathRuntime K)

def textOverlap (textHeight : K) (pair : DimensionEntity K × DimensionEntity K) :
    Option (Finding K) :=
  match dimensionTextBox M pair.1 textHeight, dimensionTextBox M pair.2 textHeight with
  | some leftBox, some rightBox =>
      if boxesOverlap leftBox rightBox then
        some
          { code := .textOverlap
            severity := .error
            message := s!"Dimension text overlaps for {pair.1.handle} and {pair.2.handle}."
            dimensionHandles := [pair.1.handle, pair.2.handle]
            repairable := true
            suggestedAction := "move_to_next_lane"
            data := .empty }
      else none
  | _, _ => none

def crossesGeometry (segments : List (Segment K)) (tol : K) (d : DimensionEntity K) :
    Option (Finding K) :=
  match dimensionLine M d with
  | none => none
  | some line =>
      if segments.any fun segment => properIntersection M line segment tol then
        some
          { code := .dimensionCrossesGeometry
            severity := .error
            message := s!"Dimension line {d.handle} crosses source geometry."
            dimensionHandles := [d.handle]
            repairable := true
            suggestedAction := "move_outside_geometry"
            data := .empty }
      else none

/-- Exact duplicates are left to their own finding. -/
def lineOverlap [FloorRing K] (tol : K) (pair : DimensionEntity K × DimensionEntity K) :
    Option (Finding K) :=
  match dimensionLine M pair.1, dimensionLine M pair.2 with
  | some leftLine, some rightLine =>
      if collinearOverlap M leftLine rightLine tol ∧ signature pair.1 tol ≠ signature pair.2 tol then
        some
          { code := .dimensionLineOverlap
            severity := .warning
            message := s!"Dimension lines overlap for {pair.1.handle} and {pair.2.handle}."
            dimensionHandles := [pair.1.handle, pair.2.handle]
            repairable := true
            suggestedAction := "move_to_next_lane"
            data := .empty }
      else none
  | _, _ => none

/-- The reference points that are on no geometry. -/
def detachedPoints (geometry : List (GeometryEntity K)) (tol : K) (d : DimensionEntity K) :
    List (Point K) :=
  ([d.defpoint2, d.defpoint3].filterMap id).filter fun point =>
    !pointOnGeometry M point geometry (tol * 5)

def detachedReference (geometry : List (GeometryEntity K)) (tol : K) (d : DimensionEntity K) :
    Option (Finding K) :=
  match dimensionInterval d tol with
  | none => none
  | some _ =>
      if detachedPoints M geometry tol d ≠ [] then
        some
          { code := .detachedGeometryReference
            severity := .error
            message := s!"Dimension {d.handle} has a reference point detached from source " ++
              "geometry."
            dimensionHandles := [d.handle]
            repairable := false
            suggestedAction := "reattach_or_recreate_dimension"
            data := .detachedPoints (detachedPoints M geometry tol d) }
      else none

/-- The displayed total of a chain against the displayed value of its overall dimension. -/
def chainMismatch (tol : K) (overall : DimensionEntity K) (chain : List (DimensionEntity K)) :
    Option (K × K) :=
  match displayedMeasurement M overall, chain.mapM (displayedMeasurement M) with
  | some overallValue, some chainValues =>
      let displayTolerance := max (tol * 5) (1 / 10 ^ 6)
      if displayTolerance < |chainValues.sum - overallValue| then
        some (overallValue, chainValues.sum)
      else none
  | _, _ => none

theorem searchTolerance_pos [IsStrictOrderedRing K] {tol : K} (htol : 0 < tol) : 0 < tol * 5 :=
  mul_pos htol (by norm_num)

def chainAccumulation [IsStrictOrderedRing K] (dimensions : List (DimensionEntity K)) {tol : K}
    (htol : 0 < tol) (overall : DimensionEntity K) : Option (Finding K) :=
  match findChainForOverall overall dimensions (searchTolerance_pos htol) with
  | [] => none
  | first :: rest =>
      (chainMismatch M tol overall (first :: rest)).map fun (overallValue, chainTotal) =>
        { code := .chainAccumulationError
          severity := .error
          message := s!"Displayed chain total {M.general chainTotal} does not match overall " ++
            s!"dimension {M.general overallValue}."
          dimensionHandles := overall.handle :: (first :: rest).map DimensionEntity.handle
          repairable := false
          suggestedAction := "use_baseline_or_ordinate_dimensions"
          data := .totals overallValue chainTotal }

/-! ## The whole drawing -/

def measures (dimensions : List (DimensionEntity K)) (tol : K) (direction : Orientation)
    (value : K) : Bool :=
  (dimensions.filter fun d => orientation d tol = some direction).any fun d =>
    match d.measurement with
    | some measurement => |measurement - value| ≤ tol * 5
    | none => false

def missingOverall (dimensions : List (DimensionEntity K)) (tol : K) :
    Option (Segment K) → List (Finding K)
  | none => []
  | some (low, high) =>
      let width := high.1 - low.1
      let height := high.2 - low.2
      let missing :=
        (if tol < width ∧ !measures dimensions tol .horizontal width then ["width"] else []) ++
          (if tol < height ∧ !measures dimensions tol .vertical height then ["height"] else [])
      if missing ≠ [] then
        [{ code := .missingOverallDimension
           severity := .warning
           message := "Missing overall " ++ " and ".intercalate missing ++ " dimension."
           dimensionHandles := []
           repairable := false
           suggestedAction := "add_overall_dimension"
           data := .missing missing width height }]
      else []

def located (dimensions : List (DimensionEntity K)) (tol : K) (center : Point K) : Bool :=
  let references (d : DimensionEntity K) := [d.defpoint2, d.defpoint3].filterMap id
  (dimensions.any fun d => orientation d tol = some .horizontal &&
      (references d).any fun point => |point.1 - center.1| ≤ tol) &&
    dimensions.any fun d => orientation d tol = some .vertical &&
      (references d).any fun point => |point.2 - center.2| ≤ tol

def missingHoles (dimensions : List (DimensionEntity K)) (geometry : List (GeometryEntity K))
    (tol : K) : List (Finding K) :=
  let unlocated := geometry.filterMap fun g =>
    match g.shape with
    | .circle center _ => if located dimensions tol center then none else some g.handle
    | _ => none
  if unlocated ≠ [] then
    [{ code := .missingHoleLocation
       severity := .warning
       message := s!"{unlocated.length} hole(s) do not have both X and Y center locations."
       dimensionHandles := []
       repairable := false
       suggestedAction := "add_center_location_dimensions"
       data := .holes unlocated }]
  else []

end

/-! ## The report -/

/-- `f"A{index:03d}"`. -/
def issueId (index : ℕ) : String :=
  let digits := Nat.toDigits 10 index
  String.ofList ('A' :: (List.replicate (3 - digits.length) '0' ++ digits))

def numbered {K : Type} (pending : List (Finding K)) : List (DimensionIssue K) :=
  pending.mapIdx fun index finding => { finding with issueId := issueId (index + 1) }

section

variable [IsStrictOrderedRing K] [FloorRing K] (M : MathRuntime K) (source : List (Entity K))
  (expectedLayer : String) (expectedStyle : Option String)

/-- What the audit finds with a tolerance, in its order. -/
def findings {tol : K} (htol : 0 < tol) (textHeight : K) : List (Finding K) :=
  let dimensions := dimensionsOf source
  let geometry := auditedGeometry source expectedLayer
  dimensions.flatMap (fun d => wrongLayer expectedLayer M d ++ wrongStyle expectedStyle M d) ++
    (signatureGroups dimensions tol).filterMap (fun group => duplicateFinding group.2) ++
    (laterPairs dimensions).filterMap (textOverlap M textHeight) ++
    dimensions.filterMap
      (crossesGeometry M (geometry.flatMap fun g => g.shape.lineSegments) tol) ++
    (laterPairs dimensions).filterMap (lineOverlap M tol) ++
    dimensions.filterMap (detachedReference M geometry tol) ++
    dimensions.filterMap (chainAccumulation M dimensions htol) ++
    missingOverall dimensions tol (drawingExtents geometry) ++
    missingHoles dimensions geometry tol

def auditTolerance (tolerance : Option K) : K :=
  tolerance.getD (defaultTolerance (auditedGeometry source expectedLayer))

def auditDimensions (tolerance : Option K) (textHeight : K) :
    Except String (DimensionAuditReport K) :=
  let tol := auditTolerance source expectedLayer tolerance
  if htol : 0 < tol then
    if 0 < textHeight then
      .ok
        { issues := numbered (findings M source expectedLayer expectedStyle htol textHeight)
          dimensionCount := (dimensionsOf source).length
          geometryCount := (auditedGeometry source expectedLayer).length
          expectedLayer := expectedLayer
          expectedStyle := expectedStyle
          extents := drawingExtents (auditedGeometry source expectedLayer) }
    else .error "text_height must be greater than zero"
  else .error "tolerance must be greater than zero"

end

end AutocadMcp.Dimension
