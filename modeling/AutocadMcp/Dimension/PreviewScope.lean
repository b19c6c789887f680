import AutocadMcp.Dimension.Records

/-!
# The scope of a dimension preview

`phase3_dimension_scope`: a preview collects the geometry that its selection asks
for, or takes it from a snapshot under a cache token, and stores with its plan the
fingerprint of a validation scope; before a commit the scope is collected again from
the drawing and its fingerprint compared.
-/

namespace AutocadMcp.Dimension

inductive Backend where
  | ezdxf
  | fileIpc
  deriving DecidableEq

/-- The active drawing. `records` are those that the exporter gives for a dimension layer and
source layers, and `currentSelection` is AutoCAD's current selection. -/
structure Drawing where
  backend : Backend
  fingerprint : String
  records : String → List String → List EntityRecord
  currentSelection : List String

/-- `_GeometryCacheEntry`. -/
structure GeometryCacheEntry where
  token : String
  drawingId : String
  dimensionLayer : String
  sourceLayers : List String
  includeDimensions : Bool
  records : List EntityRecord
  expiresAt : ℚ

/-- `_CACHE_MAX_ENTRIES`. -/
def cacheMaxEntries : Nat := 32

/-- The entry that expires first. -/
def oldest (first : GeometryCacheEntry) (rest : List GeometryCacheEntry) : GeometryCacheEntry :=
  rest.foldl (fun least e => if e.expiresAt < least.expiresAt then e else least) first

/-- Evicts the oldest entries while the cache is full. -/
def evict : Nat → List GeometryCacheEntry → List GeometryCacheEntry
  | 0, cache => cache
  | _ + 1, [] => []
  | n + 1, first :: rest =>
      if cacheMaxEntries ≤ (first :: rest).length then
        evict n ((first :: rest).filter fun e => e.token ≠ (oldest first rest).token)
      else first :: rest

/-- `_prune_cache`. -/
def pruneCache (now : ℚ) (cache : List GeometryCacheEntry) : List GeometryCacheEntry :=
  let live := cache.filter fun e => now < e.expiresAt
  evict live.length live

/-- The arguments of `collect_dimension_records_scoped`. -/
structure CollectArgs where
  dimensionLayer : String
  sourceLayers : List String
  includeDimensions : Bool := false
  useCurrentSelection : Bool := false
  entityIds : List String := []
  region : Option Bounds := none
  regionMode : RegionMode := .intersect
  geometryCacheToken : Option String := none

/-- `_load_geometry_snapshot`. -/
def loadGeometrySnapshot (cache : List GeometryCacheEntry) (now : ℚ) (d : Drawing) (token : String)
    (a : CollectArgs) : Except String (List EntityRecord) :=
  match (pruneCache now cache).find? fun e => e.token = token with
  | none =>
      .error "geometry_cache_token is unknown or expired; run annotation_detect_parts again"
  | some entry => do
      check (entry.drawingId = d.fingerprint)
        "geometry_cache_token belongs to a different active drawing"
      check (entry.dimensionLayer = a.dimensionLayer)
        "geometry_cache_token was created with a different dimension layer"
      check (entry.sourceLayers = a.sourceLayers)
        "geometry_cache_token was created with different source layers"
      check (entry.includeDimensions = a.includeDimensions)
        "geometry_cache_token is incompatible with this operation"
      return entry.records

section

variable (T : Runtime)

/-- `_filter_local_records`. -/
def filterLocalRecords (entityIds : List String) (region : Option Bounds) (regionMode : RegionMode)
    (records : List EntityRecord) : List EntityRecord :=
  let selected := if entityIds = [] then records else withHandles T entityIds records
  match region with
  | some region => selected.filter (region.selects regionMode)
  | none => selected

/-- `collect_dimension_records_scoped`, with what an exporter gives taken to be what
`_filter_local_records` returns. -/
def collectScoped (cache : List GeometryCacheEntry) (now : ℚ) (d : Drawing) (a : CollectArgs) :
    Except String (List EntityRecord) := do
  check (a.useCurrentSelection = true → a.entityIds = [] ∧ a.region = none)
    "current selection cannot be combined with entity_ids or region"
  match a.geometryCacheToken with
  | some token => loadGeometrySnapshot cache now d token a
  | none =>
      match d.backend with
      | .ezdxf => do
          check (a.useCurrentSelection = false)
            "Current AutoCAD selection is available only with the File IPC backend"
          return filterLocalRecords T a.entityIds a.region a.regionMode
            (d.records a.dimensionLayer a.sourceLayers)
      | .fileIpc => do
          check (a.entityIds = [] ∨ a.region = none) "entity_ids and region cannot be combined"
          let records := d.records a.dimensionLayer a.sourceLayers
          if a.useCurrentSelection then return withHandles T d.currentSelection records
          else return filterLocalRecords T a.entityIds a.region a.regionMode records

/-! ## The validation scope -/

inductive ValidationScope where
  | handles (entityIds : List String) (fingerprint : Nat)
  | region (region : Bounds) (regionMode : RegionMode) (fingerprint : Nat)
  | modelspace (fingerprint : Nat)

def ValidationScope.fingerprint : ValidationScope → Nat
  | .handles _ fingerprint | .region _ _ fingerprint | .modelspace fingerprint => fingerprint

/-- The margin around some bounds. -/
def margin (b : Bounds) : ℚ := max (max (b.maxX - b.minX) (b.maxY - b.minY)) 1 / 20

theorem margin_nonneg (b : Bounds) : 0 ≤ margin b := by
  have hone : (1 : ℚ) ≤ max (max (b.maxX - b.minX) (b.maxY - b.minY)) 1 := le_max_right _ _
  unfold margin
  linarith

/-- `_expanded_record_bounds`. -/
def expandedRecordBounds (records : List EntityRecord) : Except String Bounds :=
  match records with
  | [] => .error "Cannot build a validation region without geometry"
  | first :: rest =>
      let b := combinedBounds first rest
      .ok (b.expand (margin b) (margin_nonneg b))

/-- `_build_validation_scope`. -/
def buildValidationScope (records selected : List EntityRecord) (selection : GeometrySelection) :
    Except String ValidationScope :=
  if selection.entityIds ≠ [] ∨ selection.useCurrentSelection = true then
    .ok (.handles (selected.map EntityRecord.handle) (recordsFingerprint T selected))
  else
    match selection.region with
    | some region =>
        .ok (.region region selection.regionMode (recordsFingerprint T records))
    | none =>
        match selection.targetPartId with
        | some _ => do
            let region ← expandedRecordBounds selected
            let validated := filterLocalRecords T [] (some region) .intersect records
            return .region region .intersect (recordsFingerprint T validated)
        | none => .ok (.modelspace (recordsFingerprint T records))

/-! ## Preview and commit -/

/-- What `_scoped_new_plan` reads from its request, and the verdict of
`build_dimension_candidates` on the selected records. -/
structure PlanRequest where
  selection : GeometrySelection
  clearExisting : Bool
  sourceLayers : List String
  profileLayer : String
  geometryCacheToken : Option String
  partGapTolerance : Option ℚ
  candidates : List EntityRecord → Except String Unit

/-- The entry of `_plan_context` that the commit checks. -/
structure PlanContext where
  records : List EntityRecord
  profileLayer : String
  sourceLayers : List String
  drawingFingerprint : String
  recordsFingerprint : Nat
  validationScope : ValidationScope

/-- The records that a preview starts from. -/
def previewRecords (cache : List GeometryCacheEntry) (now : ℚ) (d : Drawing) (q : PlanRequest) :
    Except String (List EntityRecord) :=
  (collectScoped T cache now d
    { dimensionLayer := q.profileLayer
      sourceLayers := q.sourceLayers
      useCurrentSelection := q.selection.useCurrentSelection
      entityIds := q.selection.entityIds
      region := q.selection.region
      regionMode := q.selection.regionMode
      geometryCacheToken := q.geometryCacheToken }).map geometryOnly

/-- The requested handles that the selected records do not have, in order. -/
def unresolved (q : PlanRequest) (selected : List EntityRecord) : List String :=
  ((q.selection.entityIds.map T.upper).filter
    fun id => id ∉ selected.map fun r => T.upper r.handle).insertionSort
    fun a b => a.toList ≤ b.toList

/-- `_scoped_new_plan`, as far as the context that it stores. -/
def scopedNewPlan (cache : List GeometryCacheEntry) (now : ℚ) (d : Drawing) (q : PlanRequest) :
    Except String PlanContext := do
  check (q.clearExisting = true → q.selection.isActive = false)
    ("clear_existing cannot be combined with a part/region/entity selector; " ++
      "use audit_dimensions and repair_dimension_layout to avoid deleting another part")
  let records ← previewRecords T cache now d q
  let parts ← detectParts T records q.partGapTolerance
  let selected ← selectRecords T records q.selection parts
  check (selected ≠ []) "The requested target contains no supported geometry"
  check (unresolved T q selected = [])
    ("Requested entity_ids were not found or are unsupported: " ++
      ", ".intercalate (unresolved T q selected))
  q.candidates selected
  let scope ← buildValidationScope T records selected q.selection
  return {
    records := selected
    profileLayer := q.profileLayer
    sourceLayers := q.sourceLayers
    drawingFingerprint := d.fingerprint
    recordsFingerprint := recordsFingerprint T selected
    validationScope := scope }

/-- The arguments with which a scope is collected again. -/
def PlanContext.collectArgs (c : PlanContext) : CollectArgs :=
  match c.validationScope with
  | .handles ids _ =>
      { dimensionLayer := c.profileLayer, sourceLayers := c.sourceLayers, entityIds := ids }
  | .region region mode _ =>
      { dimensionLayer := c.profileLayer, sourceLayers := c.sourceLayers, region := some region,
        regionMode := mode }
  | .modelspace _ => { dimensionLayer := c.profileLayer, sourceLayers := c.sourceLayers }

/-- `_validate_scoped_commit_context`. -/
def validateScopedCommitContext (cache : List GeometryCacheEntry) (now : ℚ) (d : Drawing)
    (c : PlanContext) : Except String Unit := do
  check (d.fingerprint = c.drawingFingerprint)
    "The active drawing changed after preview; create and approve a new dimension plan"
  let current ← collectScoped T cache now d c.collectArgs
  check (recordsFingerprint T (geometryOnly current) = c.validationScope.fingerprint)
    "Selected geometry changed after preview; create and approve a new dimension plan"

end

end AutocadMcp.Dimension
