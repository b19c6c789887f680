import AutocadMcp.Scene.Components
import AutocadMcp.Scene.LineLoops

/-!
# Issues of a scene

The detectors of `issues.py` in exact arithmetic: geometry that is not exact or too small,
outlines that cross themselves, duplicates, open components and rows of holes with different
radii. Each issue has an id that is a hash of its code and of the hashes of its evidence, and
issues with one id are reported once. The hashes are parameters that tell their inputs apart.
-/

namespace AutocadMcp.Scene

open Plane

inductive GeometryStatus where
  | exact
  | boundedProjection
  | truncated
  | unsupported
  | unavailable
  | invalid
  deriving DecidableEq, Repr

def GeometryStatus.text : GeometryStatus → String
  | exact => "exact"
  | boundedProjection => "bounded_projection"
  | truncated => "truncated"
  | unsupported => "unsupported"
  | unavailable => "unavailable"
  | invalid => "invalid"

/-- A node with what the detectors read of its source. -/
structure SourceNode (ι K : Type) [LE K] extends SceneNode ι K (Geometry K) where
  sourceEntityId : String
  geometryStatus : GeometryStatus
  geometryReason : Option String

inductive SceneIssueCode where
  | truncatedGeometry
  | invalidGeometry
  | unsupportedGeometry
  | degenerateGeometry
  | selfIntersection
  | duplicateGeometry
  | openContour
  | inconsistentRepeatedFeature
  deriving DecidableEq, Repr

def SceneIssueCode.text : SceneIssueCode → String
  | truncatedGeometry => "truncated_geometry"
  | invalidGeometry => "invalid_geometry"
  | unsupportedGeometry => "unsupported_geometry"
  | degenerateGeometry => "degenerate_geometry"
  | selfIntersection => "self_intersection"
  | duplicateGeometry => "duplicate_geometry"
  | openContour => "open_contour"
  | inconsistentRepeatedFeature => "inconsistent_repeated_feature"

inductive IssueSeverity where
  | info
  | warning
  | error
  deriving DecidableEq, Repr

/-- The confidence of every issue is 1. -/
structure SceneIssue (ι ρ γ : Type) where
  issueId : γ
  code : SceneIssueCode
  severity : IssueSeverity
  sourceNodeIds : List ι
  sourceRelationIds : List ρ
  messageKey : String
  evidence : List String
  suggestedAction : String
  deriving DecidableEq

/-- The hashes of `_issue`: of an evidence text with the source entities, and of a code with the
evidence ids. -/
structure IssueHashes (δ γ : Type) where
  evidenceId : String → List String → δ
  issueId : SceneIssueCode → List δ → γ
  evidenceId_injective : ∀ {text text' sources sources'},
    evidenceId text sources = evidenceId text' sources' → text = text' ∧ sources = sources'
  issueId_injective : ∀ {code code' ids ids'},
    issueId code ids = issueId code' ids' → code = code' ∧ ids = ids'

/-- The arguments of `_issue`. -/
structure IssueDraft (ι ρ : Type) where
  code : SceneIssueCode
  severity : IssueSeverity
  nodeIds : List ι
  relationIds : List ρ
  evidence : String
  action : String

section

variable {ι ρ δ γ K : Type} [LinearOrder ι] [LinearOrder ρ] [LinearOrder γ]

section

variable [LE K]

/-- `{node.node_id: node for node in nodes}` -/
def sourcesById (nodes : List (SourceNode ι K)) : List (ι × SourceNode ι K) :=
  dictOf (nodes.map fun node => (node.nodeId, node))

/-- `by_id[node_id]` -/
def sourceOf (byId : List (ι × SourceNode ι K)) (nodeId : ι) :
    Except ContourFailure (SourceNode ι K) :=
  match getItem byId nodeId with
  | none => .error .lookupError
  | some node => .ok node

/-- `_issue`, of which every caller gives one evidence text. -/
def issue (H : IssueHashes δ γ) (byId : List (ι × SourceNode ι K)) (draft : IssueDraft ι ρ) :
    Except ContourFailure (SceneIssue ι ρ γ) := do
  let nodes := draft.nodeIds.toFinset.sort (· ≤ ·)
  let relations := draft.relationIds.toFinset.sort (· ≤ ·)
  let sources ← nodes.mapM fun nodeId => (sourceOf byId nodeId).map SourceNode.sourceEntityId
  return {
    issueId := H.issueId draft.code
      [H.evidenceId draft.evidence (sources.insertionSort (· ≤ ·))]
    code := draft.code
    severity := draft.severity
    sourceNodeIds := nodes
    sourceRelationIds := relations
    messageKey := "scene.issue." ++ draft.code.text
    evidence := [draft.evidence]
    suggestedAction := draft.action }

end

/-! ## Outlines that cross themselves -/

section

variable [Field K] [LinearOrder K]

/-- `_proper_intersection` -/
def properIntersection (first second : Segment K) (tolerance : K) : Prop :=
  cross first.1 first.2 second.1 * cross first.1 first.2 second.2 < -(tolerance * tolerance) ∧
    cross second.1 second.2 first.1 * cross second.1 second.2 first.2 < -(tolerance * tolerance)

instance (first second : Segment K) (tolerance : K) :
    Decidable (properIntersection first second tolerance) :=
  inferInstanceAs (Decidable (_ ∧ _))

/-- The later edges that the inner loop does not skip. -/
def comparedWith (count index : ℕ) : List ℕ :=
  (List.range' (index + 1) (count - (index + 1))).filter fun other =>
    ¬ (other = index + 1 ∨ (index = 0 ∧ other = count - 1))

/-- The pairs of edges in the order of the two loops. -/
def comparedPairs (segments : List (Segment K)) : List (Segment K × Segment K) :=
  (List.range segments.length).flatMap fun index =>
    (comparedWith segments.length index).filterMap fun other =>
      segments[index]?.bind fun first => segments[other]?.map fun second => (first, second)

/-- The body of the two loops, with `checked`. -/
def comparePairs (tolerance : K) (budget : ℕ) :
    ℕ → List (Segment K × Segment K) → Except ContourFailure Bool
  | _, [] => .ok false
  | checked, (first, second) :: rest =>
      if budget < checked + 1 then
        .error (.budgetExceeded "polyline self-intersection budget exceeded")
      else if properIntersection first second tolerance then .ok true
      else comparePairs tolerance budget (checked + 1) rest

/-- `_self_intersects` -/
def selfIntersects (g : PolylineGeometry K) (tolerance : K) (budget : ℕ) :
    Except ContourFailure Bool :=
  if ∃ v ∈ g.vertices, v.bulge ≠ 0 then .ok false
  else comparePairs tolerance budget 0 (comparedPairs (polygonEdges (g.vertices.map (·.xy))))

end

/-! ## Nodes -/

section

variable [Field K] [LinearOrder K]

def nodeDraft (node : SourceNode ι K) (code : SceneIssueCode) (severity : IssueSeverity)
    (evidence action : String) : IssueDraft ι ρ :=
  ⟨code, severity, [node.nodeId], [], evidence, action⟩

def statusDraft (node : SourceNode ι K) : IssueDraft ι ρ :=
  let code := match node.geometryStatus with
    | .truncated => .truncatedGeometry
    | .invalid => .invalidGeometry
    | _ => .unsupportedGeometry
  let severity := if node.geometryStatus ≠ .invalid then .warning else .error
  let evidence := match node.geometryReason with
    | some reason => if reason = "" then node.geometryStatus.text else reason
    | none => node.geometryStatus.text
  nodeDraft node code severity evidence "inspect_source_geometry"

variable [FloorRing K] [Hypot K] [Angles K]

/-- The evidence of a geometry that is too small. -/
def degenerateEvidence (tolerance : ToleranceProfile K) : Option (Geometry K) → Option String
  | some (.line g) =>
      if pointDist g.start g.stop ≤ tolerance.endpoint then some "zero_length_line" else none
  | some (.circle g) => if g.radius ≤ tolerance.radius then some "near_zero_radius" else none
  | some (.arc g) =>
      if floatMod (g.endAngleRadians - g.startAngleRadians) (2 * Angles.pi) ≤ tolerance.angular then
        some "near_zero_arc_sweep"
      else none
  | _ => none

/-- The first issue of a node: its geometry is not exact, or too small. -/
def geometryDrafts (tolerance : ToleranceProfile K) (node : SourceNode ι K) :
    List (IssueDraft ι ρ) :=
  if node.geometryStatus ≠ .exact then [statusDraft node]
  else
    match degenerateEvidence tolerance node.geometry with
    | none => []
    | some evidence =>
        [nodeDraft node .degenerateGeometry .error evidence "review_degenerate_entity"]

def crossingDrafts (tolerance : ToleranceProfile K) (budgets : SceneBudgets)
    (node : SourceNode ι K) : Except ContourFailure (List (IssueDraft ι ρ)) :=
  match node.geometry with
  | some (.polyline g) =>
      if g.closed then do
        let found ← selfIntersects g tolerance.endpoint budgets.maxRelationCandidates
        return if found then [nodeDraft node .selfIntersection .error
          "non_adjacent_segments_intersect" "review_contour"] else []
      else .ok []
  | _ => .ok []

/-- The body of the loop over the nodes. -/
def nodeIssues (H : IssueHashes δ γ) (byId : List (ι × SourceNode ι K))
    (tolerance : ToleranceProfile K) (budgets : SceneBudgets) (node : SourceNode ι K) :
    Except ContourFailure (List (SceneIssue ι ρ γ)) := do
  let drawn ← (geometryDrafts tolerance node).mapM (issue H byId)
  let drafts ← crossingDrafts tolerance budgets node
  let crossed ← drafts.mapM (issue H byId)
  return drawn ++ crossed

end

/-! ## Relations, components and contours -/

section

variable [Field K] [LinearOrder K]

def duplicateDrafts (relations : List (SceneRelation ι ρ)) : List (IssueDraft ι ρ) :=
  (relations.filter fun r => r.relationType = .duplicateGeometry).map fun r =>
    ⟨.duplicateGeometry, .warning, [r.sourceNodeIds.1, r.sourceNodeIds.2], [r.relationId],
      "exact_geometry_duplicate", "review_duplicate"⟩

def topologyNodes (relations : List (SceneRelation ι ρ)) : List ι :=
  (relations.filter fun r => r.relationType ∈ topologyRelations).flatMap fun r =>
    [r.sourceNodeIds.1, r.sourceNodeIds.2]

/-- The body of the loop over the components. -/
def openDrafts (byId : List (ι × SourceNode ι K)) (contourNodes topologyNodes : List ι)
    (component : SceneComponent ι γ) : Except ContourFailure (List (IssueDraft ι ρ)) := do
  let members ← component.sourceNodeIds.mapM (sourceOf byId)
  let lines := ((component.sourceNodeIds.zip members).filter fun m =>
    (lineGeometry m.2.geometry).isSome).map Prod.fst
  if lines ≠ [] ∧ (∃ id ∈ lines, id ∈ topologyNodes) ∧ ¬ ∀ id ∈ lines, id ∈ contourNodes then
    return [⟨.openContour, .warning, lines, [], "connected_line_component_is_open",
      "close_or_review_contour"⟩]
  else return []

def axisValue (axis : Fin 2) (p : Point K) : K := if axis = 0 then p.1 else p.2

/-- `max(values) - min(values)`, of a list that is not empty. -/
def spread (values : List K) : K :=
  match values with
  | [] => 0
  | first :: rest => rest.foldl max first - rest.foldl min first

/-- `min(values)`, of a list that is not empty. -/
def least (values : List K) : K :=
  match values with
  | [] => 0
  | first :: rest => rest.foldl min first

/-- The circles of a row along the axis, where their radii differ. -/
def rowMismatch (tolerance : ToleranceProfile K) (axis : Fin 2)
    (circles : List (ι × CircleGeometry K)) : Option (List (ι × CircleGeometry K)) :=
  let ordered := circles.insertionSort fun a b =>
    axisValue axis a.2.center ≤ axisValue axis b.2.center
  let along := ordered.map fun c => axisValue axis c.2.center
  let gaps := (along.zip along.tail).map fun pair => pair.2 - pair.1
  if tolerance.endpoint * (5 : ℕ) < spread (ordered.map fun c =>
      axisValue (1 - axis) c.2.center) then none
  else if least gaps ≤ tolerance.endpoint ∨ tolerance.endpoint * (5 : ℕ) < spread gaps then none
  else if tolerance.radius < spread (ordered.map fun c => c.2.radius) then some ordered
  else none

/-- `_inconsistent_row` -/
def inconsistentRow (tolerance : ToleranceProfile K) (circles : List (ι × CircleGeometry K)) :
    List (ι × CircleGeometry K) :=
  if circles.length < 3 then []
  else ((rowMismatch tolerance 0 circles).or (rowMismatch tolerance 1 circles)).getD []

variable [FloorRing K] [Hypot K] [IsStrictOrderedRing K]

def circleGeometry : Option (Geometry K) → Option (CircleGeometry K)
  | some (.circle g) => some g
  | _ => none

/-- The body of the loop over the contours. -/
def rowDrafts (nodes : List (SourceNode ι K)) (byId : List (ι × SourceNode ι K))
    (tolerance : ToleranceProfile K) (contour : SceneContour ι γ K) :
    Except ContourFailure (List (IssueDraft ι ρ)) := do
  let polygon ← contourPolygon contour (byId.map fun item => (item.1, item.2.toSceneNode))
    tolerance.endpoint
  match polygon with
  | none => return []
  | some polygon =>
      let circles := nodes.filterMap fun node => (circleGeometry node.geometry).bind fun g =>
        if pointInPolygon g.center polygon then some (node.nodeId, g) else none
      match inconsistentRow tolerance circles with
      | [] => return []
      | mismatch => return [⟨.inconsistentRepeatedFeature, .warning, mismatch.map Prod.fst, [],
          "collinear_equal_spacing_radius_mismatch", "review_repeated_feature"⟩]

variable [Angles K]

/-- All issues in the order in which they are found. -/
def foundIssues {γ' γ'' : Type} (H : IssueHashes δ γ) (nodes : List (SourceNode ι K))
    (relations : List (SceneRelation ι ρ)) (contours : List (SceneContour ι γ' K))
    (components : List (SceneComponent ι γ'')) (tolerance : ToleranceProfile K)
    (budgets : SceneBudgets) : Except ContourFailure (List (SceneIssue ι ρ γ)) := do
  let byId := sourcesById nodes
  let ofNodes ← nodes.mapM (nodeIssues H byId tolerance budgets)
  let duplicates ← (duplicateDrafts relations).mapM (issue H byId)
  let opened ← components.mapM
    (openDrafts byId (contours.flatMap SceneContour.sourceNodeIds) (topologyNodes relations))
  let ofComponents ← opened.flatten.mapM (issue H byId)
  let rows ← contours.mapM (rowDrafts nodes byId tolerance)
  let ofContours ← rows.flatten.mapM (issue H byId)
  return ofNodes.flatten ++ duplicates ++ ofComponents ++ ofContours

/-- `detect_issues`; `maxIssues` is the issue budget. -/
def detectIssues {γ' γ'' : Type} (H : IssueHashes δ γ) (nodes : List (SourceNode ι K))
    (relations : List (SceneRelation ι ρ)) (contours : List (SceneContour ι γ' K))
    (components : List (SceneComponent ι γ'')) (tolerance : ToleranceProfile K)
    (budgets : SceneBudgets) (maxIssues : ℕ) : Except ContourFailure (List (SceneIssue ι ρ γ)) := do
  let issues ← foundIssues H nodes relations contours components tolerance budgets
  let unique := dictOf (issues.map fun item => (item.issueId, item))
  if maxIssues < unique.length then
    throw (.budgetExceeded "scene exceeds issue budget")
  return (unique.map Prod.snd).insertionSort fun a b => a.issueId ≤ b.issueId

end

end

end AutocadMcp.Scene
