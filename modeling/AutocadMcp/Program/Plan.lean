import AutocadMcp.Program.Source

/-!
# Execution plans

The sealed plan of `phase8_contracts.py`. A canonical decimal text stands for its
value; the digests are taken by a codec.
-/

namespace AutocadMcp.Program

/-- `ConcretePoint3d` and `ConcreteVector3d`. -/
structure ConcretePoint where
  xMm : Rat
  yMm : Rat
  zMm : Rat
  deriving DecidableEq

/-- The fields of a kind of concrete operation. -/
inductive ConcreteBody where
  | ensureLayer (name : String) (colorIndex : Option Int)
  | createLine (layer : String) (start stop : ConcretePoint)
  | createCircle (layer : String) (center : ConcretePoint) (radiusMm : Rat)
  | createPolyline (layer : String) (vertices : List ConcretePoint) (closed : Bool)
  | createRectangle (layer : String) (firstCorner oppositeCorner : ConcretePoint)
  | createText (layer : String) (position : ConcretePoint) (text : String)
      (heightMm rotationRad : Rat)
  | createDimensionLinear (layer : String)
      (extensionLine1Point extensionLine2Point dimensionLinePoint : ConcretePoint)
      (textOverride : Option String)
  | copyEntity (targetRefId : String) (displacementMm : ConcretePoint) (outputId : String)
  | offsetEntity (targetRefId : String) (signedDistanceMm : Rat) (outputId : String)
  | moveEntity (targetRefId : String) (displacementMm : ConcretePoint)
  deriving DecidableEq

namespace ConcreteBody

def kind : ConcreteBody → OperationKind
  | .ensureLayer .. => .ensureLayer
  | .createLine .. => .createLine
  | .createCircle .. => .createCircle
  | .createPolyline .. => .createPolyline
  | .createRectangle .. => .createRectangle
  | .createText .. => .createText
  | .createDimensionLinear .. => .createDimensionLinear
  | .copyEntity .. => .copyEntity
  | .offsetEntity .. => .offsetEntity
  | .moveEntity .. => .moveEntity

def targetRefId? : ConcreteBody → Option String
  | .copyEntity id .. | .offsetEntity id .. | .moveEntity id _ => some id
  | _ => none

def outputId? : ConcreteBody → Option String
  | .copyEntity _ _ id | .offsetEntity _ _ id => some id
  | _ => none

/-- `_concrete_points`. -/
def points : ConcreteBody → List ConcretePoint
  | .createLine _ start stop => [start, stop]
  | .createCircle _ center _ => [center]
  | .createPolyline _ vertices _ => vertices
  | .createRectangle _ firstCorner oppositeCorner => [firstCorner, oppositeCorner]
  | .createText _ position .. => [position]
  | .createDimensionLinear _ p q r _ => [p, q, r]
  | _ => []

def displacement? : ConcreteBody → Option ConcretePoint
  | .copyEntity _ displacement _ | .moveEntity _ displacement => some displacement
  | _ => none

def signedDistance? : ConcreteBody → Option Rat
  | .offsetEntity _ distance _ => some distance
  | _ => none

/-- The vertices that count against the budget. -/
def vertexCount : ConcreteBody → Nat
  | .createPolyline _ vertices _ => vertices.length
  | .createRectangle .. => 4
  | _ => 0

/-- `(item.text or item.text_override or "").encode("utf-8")`. -/
def textBytes : ConcreteBody → Nat
  | .createText _ _ text .. => text.utf8ByteSize
  | .createDimensionLinear _ _ _ _ textOverride => (textOverride.getD "").utf8ByteSize
  | _ => 0

/-- `ConcreteOperation._concrete_shape_matches_kind`, the shape apart. -/
def isConcrete : ConcreteBody → Except Invalid Unit
  | .createCircle _ _ radiusMm => check (0 < radiusMm) "concrete radius must be positive"
  | .createText _ _ _ heightMm _ => check (0 < heightMm) "concrete text height must be positive"
  | .offsetEntity _ distance _ => check (distance ≠ 0) "concrete offset distance must be non-zero"
  | .copyEntity _ d _ | .moveEntity _ d =>
      check (¬ (d.xMm = 0 ∧ d.yMm = 0 ∧ d.zMm = 0)) "concrete displacement must be non-zero"
  | _ => return ()

end ConcreteBody

/-- `ConcreteOperation`. -/
structure ConcreteOperation where
  operationId : String
  sourceOperationId : String
  body : ConcreteBody
  deriving DecidableEq

inductive TargetEntityType where
  | line
  | circle
  | lwpolyline
  deriving DecidableEq, Repr

namespace TargetEntityType

def name : TargetEntityType → String
  | .line => "LINE"
  | .circle => "CIRCLE"
  | .lwpolyline => "LWPOLYLINE"

/-- `entity_type.lower()`. -/
def lower : TargetEntityType → String
  | .line => "line"
  | .circle => "circle"
  | .lwpolyline => "lwpolyline"

end TargetEntityType

structure MaterializedTargetRef where
  refId : String
  ownerId : String
  deviceId : String
  documentId : String
  snapshotId : String
  documentRevision : String
  entityId : String
  entityType : TargetEntityType
  fingerprint : String
  deriving DecidableEq

def MaterializedTargetRef.fits (r : MaterializedTargetRef) : Bool :=
  isIdentifier r.refId && isIdentifier r.ownerId && isIdentifier r.deviceId &&
    isIdentifier r.documentId && isIdentifier r.snapshotId && isRevision r.documentRevision &&
    isIdentifier r.entityId && isDigest r.fingerprint

inductive EffectClass where
  | createOnly
  | modifyInPlace
  | ensureNonEntity
  deriving DecidableEq, Repr

inductive CheckpointStrategy where
  | none
  | createdEntities
  | checkpoint2
  deriving DecidableEq, Repr

structure EffectEntry where
  operationId : String
  operationKind : OperationKind
  effectClass : EffectClass
  entityType : String
  creates : Nat
  modifies : Nat
  checkpointStrategy : CheckpointStrategy
  deriving DecidableEq

inductive RiskFloor where
  | low
  | medium
  deriving DecidableEq, Repr

structure EffectManifest where
  entries : List EffectEntry
  creates : Nat
  modifies : Nat
  ensuresNonEntity : Nat
  riskFloor : RiskFloor
  checkpointStrategy : CheckpointStrategy
  deriving DecidableEq

structure ExecutionPins where
  runtimeId : String
  hostFamily : String
  hostVersion : String
  packageId : String
  packageVersion : String
  packageHash : String
  capabilityManifestHash : String
  operationRegistryVersion : String
  operationRegistryHash : String
  policyVersion : String
  rolloutPolicyDigest : String
  deriving DecidableEq

def ExecutionPins.fits (p : ExecutionPins) : Bool :=
  isIdentifier p.runtimeId && isIdentifier p.hostFamily && isIdentifier p.hostVersion &&
    isIdentifier p.packageId && isIdentifier p.packageVersion && isDigest p.packageHash &&
    isDigest p.capabilityManifestHash && isRevision p.operationRegistryVersion &&
    isDigest p.operationRegistryHash && isRevision p.policyVersion && isDigest p.rolloutPolicyDigest

structure ExecutionPlanBudgets where
  estimatedOperations : Int
  hardMaxOperations : Int
  estimatedEntities : Int
  hardMaxEntities : Int
  estimatedVertices : Int
  hardMaxVertices : Int
  estimatedTextBytes : Int
  hardMaxTextBytes : Int
  deriving DecidableEq

/-- `CadExecutionPlanV1`; the constants of the compiler and of the schemas are left out. -/
structure CadExecutionPlanV1 where
  planId : String
  sourceRegistryVersion : RegistryVersion
  sourceProgramId : String
  sourceProgramRevision : Int
  sourceDigest : String
  compilerDigest : String
  compilerPackageHash : String
  deviceId : String
  documentId : String
  sourceSnapshotId : String
  expectedDocumentRevision : String
  operations : List ConcreteOperation
  expansionDigest : String
  effectManifest : EffectManifest
  effectManifestDigest : String
  materializedTargetRefs : List MaterializedTargetRef
  targetRefsDigest : String
  validationProfilesDigest : String
  checkpointStrategyDigest : String
  hardBudgetsDigest : String
  executionPins : ExecutionPins
  budgets : ExecutionPlanBudgets
  requiredCapabilities : List String
  validationProfiles : List String
  artifactRefs : List OpaqueArtifactRef
  componentRefs : List OpaqueComponentRef
  checkpointStrategy : CheckpointStrategy
  executionPlanDigest : String

/-- The digests of a plan, and the size of its encoding; nothing where a value is not encoded. -/
structure PlanCodec where
  canonicalCompilerDigest : String
  canonicalExpansionDigest : List ConcreteOperation → Option String
  canonicalEffectDigest : EffectManifest → Option String
  canonicalTargetRefsDigest : List MaterializedTargetRef → Option String
  canonicalValidationProfilesDigest : List String → Option String
  canonicalCheckpointStrategyDigest : CheckpointStrategy → Option String
  canonicalHardBudgetsDigest : ExecutionPlanBudgets → Option String
  /-- The digest of a plan without its own. -/
  canonicalExecutionPlanDigest : CadExecutionPlanV1 → Option String
  canonicalBytes : CadExecutionPlanV1 → Option Nat

def encoded {α : Type} : Option α → Except Invalid α
  | some value => .ok value
  | none => .error "JSON value exceeds the protocol limit"

/-! ## Effects -/

def staticEntityType : OperationKind → String
  | .ensureLayer => "LAYER"
  | .createLine => "LINE"
  | .createCircle => "CIRCLE"
  | .createPolyline => "LWPOLYLINE"
  | .createRectangle => "RECTANGLE"
  | .createText => "TEXT"
  | .createDimensionLinear => "DIMENSION_LINEAR"
  | _ => ""

def findRef (refs : List MaterializedTargetRef) (refId : String) : Option MaterializedTargetRef :=
  refs.find? fun r => r.refId = refId

def entityTypeOf (refs : List MaterializedTargetRef) (o : ConcreteOperation) : String :=
  match o.body.targetRefId? with
  | some refId => ((findRef refs refId).map (·.entityType.name)).getD ""
  | none => staticEntityType o.body.kind

/-- The entry of an operation, as `_effect_manifest` writes it and the plan expects it. -/
def effectEntry (refs : List MaterializedTargetRef) (o : ConcreteOperation) : EffectEntry :=
  let kind := o.body.kind
  { operationId := o.operationId
    operationKind := kind
    effectClass :=
      if kind = .ensureLayer then .ensureNonEntity
      else if kind = .moveEntity then .modifyInPlace
      else .createOnly
    entityType := entityTypeOf refs o
    creates := if kind = .ensureLayer ∨ kind = .moveEntity then 0 else 1
    modifies := if kind = .moveEntity then 1 else 0
    checkpointStrategy :=
      if kind = .ensureLayer then .none
      else if kind = .moveEntity then .checkpoint2
      else .createdEntities }

/-- The manifest of some entries, which `EffectManifest._totals_match_entries` asks for. -/
def manifestOf (entries : List EffectEntry) : EffectManifest :=
  let modifies := (entries.map EffectEntry.modifies).sum
  { entries := entries
    creates := (entries.map EffectEntry.creates).sum
    modifies := modifies
    ensuresNonEntity := entries.countP fun e => e.effectClass = .ensureNonEntity
    riskFloor := if modifies = 0 then .low else .medium
    checkpointStrategy := if modifies = 0 then .createdEntities else .checkpoint2 }

/-- `_effect_manifest`. -/
def effectManifest (operations : List ConcreteOperation) (refs : List MaterializedTargetRef) :
    EffectManifest :=
  manifestOf (operations.map (effectEntry refs))

/-- The capability that an operation on a reference needs. -/
def targetCapability (refs : List MaterializedTargetRef) (o : ConcreteOperation) : Option String :=
  o.body.targetRefId?.bind fun refId =>
    (findRef refs refId).map fun ref =>
      let verb := match o.body.kind with
        | .copyEntity => "copy"
        | .offsetEntity => "offset"
        | _ => "move"
      s!"cad.op.{verb}.{ref.entityType.lower}.v1"

/-- `_derived_target_capabilities`: each capability once, in the order of its first use. -/
def derivedTargetCapabilities (operations : List ConcreteOperation)
    (refs : List MaterializedTargetRef) : List String :=
  (operations.filterMap (targetCapability refs)).foldl
    (fun found capability => if capability ∈ found then found else found ++ [capability]) []

/-! ## The checks of a plan -/

def estimatedVertices (operations : List ConcreteOperation) : Nat :=
  (operations.map fun o => o.body.vertexCount).sum

def estimatedTextBytes (operations : List ConcreteOperation) : Nat :=
  (operations.map fun o => o.body.textBytes).sum

def usersOf (operations : List ConcreteOperation) (refId : String) : List OperationKind :=
  (operations.filter fun o => o.body.targetRefId? = some refId).map fun o => o.body.kind

def maxPlanBytes : Nat := 2097152

namespace CadExecutionPlanV1

/-- The materialized references of a plan. -/
def checkRefs (plan : CadExecutionPlanV1) : Except Invalid Unit := do
  let refs := plan.materializedTargetRefs
  let used := plan.operations.filterMap fun o => o.body.targetRefId?
  check (refs.map MaterializedTargetRef.refId).Nodup "materialized target ref IDs must be unique"
  check (∀ a ∈ refs, ∀ b ∈ refs, a.ownerId = b.ownerId)
    "materialized target refs must have one owner"
  check ((refs.map MaterializedTargetRef.refId).Pairwise (· ≤ ·))
    "materialized target refs must be sorted by ref_id"
  check ((∀ id ∈ used, id ∈ refs.map MaterializedTargetRef.refId) ∧
      ∀ r ∈ refs, r.refId ∈ used) "materialized target refs must exactly match operation targets"
  check (used = [] ∨ plan.sourceRegistryVersion = .phase8Core)
    "target operations require the Phase 8 core registry"
  check plan.requiredCapabilities.Nodup "required plan capabilities must be unique"
  check (∀ c ∈ derivedTargetCapabilities plan.operations refs, c ∈ plan.requiredCapabilities)
    "target operation capability is missing from sealed plan"
  check (∀ r ∈ refs, r.deviceId = plan.deviceId ∧ r.documentId = plan.documentId ∧
      r.snapshotId = plan.sourceSnapshotId ∧ r.documentRevision = plan.expectedDocumentRevision)
    "materialized target ref does not match plan context"

/-- The loop over the operations and their effects, after the references that were modified. -/
def checkEffectsFrom (refs : List MaterializedTargetRef) (modified : List String) :
    List (ConcreteOperation × EffectEntry) → Except Invalid Unit
  | [] => return ()
  | (o, effect) :: rest => do
      let expected := effectEntry refs o
      check (effect.entityType = expected.entityType)
        "effect entity type does not match materialized target"
      check (effect.effectClass = expected.effectClass)
        "effect class does not match target operation"
      check (effect.creates = expected.creates ∧ effect.modifies = expected.modifies ∧
          effect.checkpointStrategy = expected.checkpointStrategy)
        "effect counts or checkpoint do not match operation"
      let target := if o.body.kind = .moveEntity then o.body.targetRefId?.toList else []
      check (∀ id ∈ target, id ∉ modified) "a target ref cannot be modified more than once"
      checkEffectsFrom refs (modified ++ target) rest

/-- The effects of a plan and the use of its references. -/
def checkEffects (plan : CadExecutionPlanV1) : Except Invalid Unit := do
  let refs := plan.materializedTargetRefs
  checkEffectsFrom refs [] (plan.operations.zip plan.effectManifest.entries)
  check (∀ r ∈ refs, .moveEntity ∈ usersOf plan.operations r.refId →
      (usersOf plan.operations r.refId).length = 1)
    "an in-place target cannot be reused by another operation in one plan"

/-- The digests of a plan. -/
def checkDigests (P : PlanCodec) (plan : CadExecutionPlanV1) : Except Invalid Unit := do
  check (P.canonicalTargetRefsDigest plan.materializedTargetRefs = some plan.targetRefsDigest)
    "target refs digest does not match materialized refs"
  check (P.canonicalValidationProfilesDigest plan.validationProfiles =
      some plan.validationProfilesDigest) "validation profiles digest does not match plan"
  check (P.canonicalCheckpointStrategyDigest plan.checkpointStrategy =
      some plan.checkpointStrategyDigest) "checkpoint strategy digest does not match plan"
  check (P.canonicalHardBudgetsDigest plan.budgets = some plan.hardBudgetsDigest)
    "hard budgets digest does not match plan"
  check (P.canonicalExecutionPlanDigest plan = some plan.executionPlanDigest)
    "execution plan digest does not match plan"

/-- The budgets of a plan. -/
def checkBudgets (P : PlanCodec) (plan : CadExecutionPlanV1) : Except Invalid Unit := do
  let b := plan.budgets
  check (b.estimatedOperations = plan.operations.length)
    "estimated operation count does not match plan"
  check ((plan.effectManifest.creates + plan.effectManifest.modifies : Nat) = b.estimatedEntities)
    "effect entity count does not match plan budget"
  check (b.estimatedVertices = estimatedVertices plan.operations)
    "estimated vertex count does not match plan"
  check (b.estimatedTextBytes = estimatedTextBytes plan.operations)
    "estimated text bytes do not match plan"
  check (b.estimatedOperations ≤ b.hardMaxOperations ∧ b.estimatedEntities ≤ b.hardMaxEntities ∧
      b.estimatedVertices ≤ b.hardMaxVertices ∧ b.estimatedTextBytes ≤ b.hardMaxTextBytes)
    "estimated plan usage exceeds hard budget"
  check (∃ bytes ∈ P.canonicalBytes plan, bytes ≤ maxPlanBytes)
    "execution plan exceeds byte budget"

/-- `CadExecutionPlanV1._plan_digests_and_budgets_match`. -/
def isSealed (P : PlanCodec) (plan : CadExecutionPlanV1) : Except Invalid Unit := do
  check (plan.compilerDigest = P.canonicalCompilerDigest)
    "compiler digest does not match compiler contract"
  check (P.canonicalExpansionDigest plan.operations = some plan.expansionDigest)
    "expansion digest does not match operations"
  check (P.canonicalEffectDigest plan.effectManifest = some plan.effectManifestDigest)
    "effect manifest digest does not match manifest"
  check (plan.effectManifest.entries.map (fun e => (e.operationId, e.operationKind)) =
      plan.operations.map fun o => (o.operationId, o.body.kind))
    "effect entries do not match ordered operations"
  check (plan.effectManifest.checkpointStrategy = plan.checkpointStrategy)
    "plan checkpoint strategy does not match effect manifest"
  plan.checkRefs
  plan.checkEffects
  plan.checkDigests P
  plan.checkBudgets P

/-- The field validators of a plan that do not follow from those of its source, with
`EffectManifest._totals_match_entries`. -/
def fieldsFit (plan : CadExecutionPlanV1) : Bool :=
  isIdentifier plan.planId && isDigest plan.compilerPackageHash &&
    within 1 maxExpandedOperations plan.operations.length &&
    plan.operations.all (fun o => isIdentifier o.operationId && isIdentifier o.sourceOperationId &&
      o.body.isConcrete.toOption.isSome) &&
    plan.effectManifest = manifestOf plan.effectManifest.entries &&
    plan.effectManifest.ensuresNonEntity ≤ maxSourceOperations &&
    plan.materializedTargetRefs.all MaterializedTargetRef.fits &&
    plan.materializedTargetRefs.length ≤ maxExpandedOperations && plan.executionPins.fits &&
    plan.requiredCapabilities.length ≤ 64 && plan.requiredCapabilities.all isIdentifier &&
    plan.budgets.estimatedOperations ≤ maxExpandedOperations &&
    plan.budgets.estimatedEntities ≤ maxExpandedOperations &&
    plan.budgets.estimatedVertices ≤ maxVertices && plan.budgets.estimatedTextBytes ≤ maxTextBytes

end CadExecutionPlanV1

end AutocadMcp.Program
