import AutocadMcp.Phase8.Canonical
import AutocadMcp.Program.Plan
import Mathlib.Data.List.DropRight

/-!
# The JSON of execution plans

What `model_dump(mode="json", exclude_none=True)` gives for a plan and its parts, the
digests of `phase8_contracts.py` over it.
-/

namespace AutocadMcp.Phase8

open JsonText CanonicalJson Program

/-! ## Numbers -/

/-- The nine digits after the point. -/
def fractionDigits (n : Nat) : List Char :=
  [100000000, 10000000, 1000000, 100000, 10000, 1000, 100, 10, 1].map fun unit =>
    Nat.digitChar (n / unit % 10)

/-- The text that `_normalize` gives for a value. -/
def canonicalText (value : Rat) : String :=
  let n := ⌊|value| / quantum⌋.toNat
  if n = 0 then "0"
  else
    let digits := Nat.toDigits 10 (n / 1000000000) ++ '.' :: fractionDigits (n % 1000000000)
    String.ofList ((if value < 0 then ['-'] else []) ++
      (digits.rdropWhile (· = '0')).rdropWhile (· = '.'))

/-! ## Names of the constants -/

def registryName : RegistryVersion → String
  | .createCore => "cad.program/1.0-create-core"
  | .phase8Core => "cad.program/1.0-phase8-core"

def effectClassName : Program.EffectClass → String
  | .createOnly => "create_only"
  | .modifyInPlace => "modify_in_place"
  | .ensureNonEntity => "ensure_non_entity"

def checkpointName : CheckpointStrategy → String
  | .none => "none"
  | .createdEntities => "cad.rollback.checkpoint/1-created-entities"
  | .checkpoint2 => "cad.rollback.checkpoint/2"

def riskName : RiskFloor → String
  | .low => "low"
  | .medium => "medium"

/-! ## The parts of a plan -/

def numberText (value : Rat) : Value := .text (canonicalText value)

def pointJson (p : ConcretePoint) : Value :=
  .fields [("x_mm", numberText p.xMm), ("y_mm", numberText p.yMm), ("z_mm", numberText p.zMm)]

/-- A field that `exclude_none` leaves out where it has no value. -/
def optionalField {α : Type} (name : String) (encode : α → Value) : Option α → List (String × Value)
  | some value => [(name, encode value)]
  | none => []

/-- The fields of a kind of operation. -/
def bodyJson : ConcreteBody → List (String × Value)
  | .ensureLayer name colorIndex =>
      ("name", .text name) :: optionalField "color_index" Value.int colorIndex
  | .createLine layer start stop =>
      [("layer", .text layer), ("start", pointJson start), ("end", pointJson stop)]
  | .createCircle layer center radiusMm =>
      [("layer", .text layer), ("center", pointJson center), ("radius_mm", numberText radiusMm)]
  | .createPolyline layer vertices closed =>
      [("layer", .text layer), ("vertices", .list (vertices.map pointJson)),
        ("closed", .bool closed)]
  | .createRectangle layer firstCorner oppositeCorner =>
      [("layer", .text layer), ("first_corner", pointJson firstCorner),
        ("opposite_corner", pointJson oppositeCorner)]
  | .createText layer position text heightMm rotationRad =>
      [("layer", .text layer), ("position", pointJson position), ("text", .text text),
        ("height_mm", numberText heightMm), ("rotation_rad", numberText rotationRad)]
  | .createDimensionLinear layer p q r textOverride =>
      [("layer", .text layer), ("extension_line1_point", pointJson p),
        ("extension_line2_point", pointJson q), ("dimension_line_point", pointJson r)] ++
        optionalField "text_override" Value.text textOverride
  | .copyEntity targetRefId displacementMm outputId =>
      [("target_ref_id", .text targetRefId), ("displacement_mm", pointJson displacementMm),
        ("output_id", .text outputId)]
  | .offsetEntity targetRefId signedDistanceMm outputId =>
      [("target_ref_id", .text targetRefId), ("signed_distance_mm", numberText signedDistanceMm),
        ("output_id", .text outputId)]
  | .moveEntity targetRefId displacementMm =>
      [("target_ref_id", .text targetRefId), ("displacement_mm", pointJson displacementMm)]

def operationJson (o : ConcreteOperation) : Value :=
  .fields (("kind", .text o.body.kind.name) :: ("operation_version", .int 1) ::
    ("operation_id", .text o.operationId) ::
    ("source_operation_id", .text o.sourceOperationId) :: bodyJson o.body)

def entryJson (e : EffectEntry) : Value :=
  .fields [("operation_id", .text e.operationId), ("operation_kind", .text e.operationKind.name),
    ("operation_version", .int 1), ("effect_class", .text (effectClassName e.effectClass)),
    ("entity_type", .text e.entityType), ("creates", .int e.creates),
    ("modifies", .int e.modifies), ("erases", .int 0),
    ("checkpoint_strategy", .text (checkpointName e.checkpointStrategy))]

def manifestJson (m : EffectManifest) : Value :=
  .fields [("schema_version", .text "cad.effect-manifest/1"),
    ("entries", .list (m.entries.map entryJson)), ("creates", .int m.creates),
    ("modifies", .int m.modifies), ("erases", .int 0),
    ("ensures_non_entity", .int m.ensuresNonEntity), ("risk_floor", .text (riskName m.riskFloor)),
    ("checkpoint_strategy", .text (checkpointName m.checkpointStrategy))]

def targetRefJson (r : MaterializedTargetRef) : Value :=
  .fields [("ref_id", .text r.refId), ("owner_id", .text r.ownerId),
    ("device_id", .text r.deviceId), ("document_id", .text r.documentId),
    ("snapshot_id", .text r.snapshotId), ("document_revision", .text r.documentRevision),
    ("entity_id", .text r.entityId), ("entity_type", .text r.entityType.name),
    ("fingerprint", .text r.fingerprint)]

def artifactRefJson (r : OpaqueArtifactRef) : Value :=
  .fields [("artifact_id", .text r.artifactId), ("owner_id", .text r.ownerId),
    ("content_type", .text "application/vnd.autocad-mcp.cad-program+json"),
    ("byte_length", .int r.byteLength), ("artifact_digest", .text r.artifactDigest)]

def componentRefJson (r : OpaqueComponentRef) : Value :=
  .fields [("component_id", .text r.componentId), ("owner_id", .text r.ownerId),
    ("component_version", .text r.componentVersion),
    ("content_type", .text "application/vnd.autocad-mcp.component+json"),
    ("byte_length", .int r.byteLength), ("component_digest", .text r.componentDigest)]

/-- The items of `ExecutionPins`. -/
def pinItems (p : ExecutionPins) : List (String × Value) :=
  [("runtime_id", .text p.runtimeId), ("runtime_role", .text "primary"),
    ("host_family", .text p.hostFamily), ("host_version", .text p.hostVersion),
    ("package_id", .text p.packageId), ("package_version", .text p.packageVersion),
    ("package_hash", .text p.packageHash),
    ("capability_manifest_hash", .text p.capabilityManifestHash),
    ("operation_registry_version", .text p.operationRegistryVersion),
    ("operation_registry_hash", .text p.operationRegistryHash),
    ("policy_version", .text p.policyVersion),
    ("rollout_policy_digest", .text p.rolloutPolicyDigest)]

def budgetsJson (b : ExecutionPlanBudgets) : Value :=
  .fields [("estimated_operations", .int b.estimatedOperations),
    ("hard_max_operations", .int b.hardMaxOperations),
    ("estimated_entities", .int b.estimatedEntities), ("hard_max_entities", .int b.hardMaxEntities),
    ("estimated_vertices", .int b.estimatedVertices), ("hard_max_vertices", .int b.hardMaxVertices),
    ("estimated_text_bytes", .int b.estimatedTextBytes),
    ("hard_max_text_bytes", .int b.hardMaxTextBytes)]

def compilerId : String := "autocad-mcp.gateway.cad-program-v1"

def compilerVersion : String := "1.1.0"

def compilerJson (plan : CadExecutionPlanV1) : Value :=
  .fields [("compiler_id", .text compilerId), ("compiler_version", .text compilerVersion),
    ("compiler_digest", .text plan.compilerDigest),
    ("compiler_package_hash", .text plan.compilerPackageHash)]

/-- The items of `canonical_execution_plan`. -/
def planItems (plan : CadExecutionPlanV1) : List (String × Value) :=
  [("schema_version", .text "cad.execution-plan/1"), ("plan_id", .text plan.planId),
    ("source_schema_version", .text "cad.program/1.0"),
    ("source_registry_version", .text (registryName plan.sourceRegistryVersion)),
    ("source_program_id", .text plan.sourceProgramId),
    ("source_program_revision", .int plan.sourceProgramRevision),
    ("source_digest", .text plan.sourceDigest), ("compiler", compilerJson plan),
    ("device_id", .text plan.deviceId), ("document_id", .text plan.documentId),
    ("source_snapshot_id", .text plan.sourceSnapshotId),
    ("expected_document_revision", .text plan.expectedDocumentRevision),
    ("operations", .list (plan.operations.map operationJson)),
    ("expansion_digest", .text plan.expansionDigest),
    ("effect_manifest", manifestJson plan.effectManifest),
    ("effect_manifest_digest", .text plan.effectManifestDigest),
    ("materialized_target_refs", .list (plan.materializedTargetRefs.map targetRefJson)),
    ("target_refs_digest", .text plan.targetRefsDigest),
    ("validation_profiles_digest", .text plan.validationProfilesDigest),
    ("checkpoint_strategy_digest", .text plan.checkpointStrategyDigest),
    ("hard_budgets_digest", .text plan.hardBudgetsDigest),
    ("execution_pins", .fields (pinItems plan.executionPins)),
    ("budgets", budgetsJson plan.budgets),
    ("required_capabilities", .list (plan.requiredCapabilities.map Value.text)),
    ("validation_profiles", .list (plan.validationProfiles.map Value.text)),
    ("artifact_refs", .list (plan.artifactRefs.map artifactRefJson)),
    ("component_refs", .list (plan.componentRefs.map componentRefJson)),
    ("checkpoint_strategy", .text (checkpointName plan.checkpointStrategy))]

/-- `canonical_execution_plan`. -/
def canonicalExecutionPlan (plan : CadExecutionPlanV1) : Value := .fields (planItems plan)

def planJson (plan : CadExecutionPlanV1) : Value :=
  .fields (planItems plan ++ [("execution_plan_digest", .text plan.executionPlanDigest)])

/-! ## Digests -/

/-- `canonical_compiler_manifest`. -/
def compilerManifest : Value :=
  .fields [("compiler_id", .text compilerId), ("compiler_version", .text compilerVersion),
    ("expression_ast", .text "bounded-v1"),
    ("numeric_model", .text "decimal-mm-rad-1e-9-half-even"),
    ("repeat_model", .text "linear-rectangular-polar-stable-id-v1"),
    ("operation_registry_versions",
      .list [.text (registryName .createCore), .text (registryName .phase8Core)]),
    ("materialized_ref_model", .text "gateway-sealed-exact-closure-v1"),
    ("target_operation_model", .text "copy-offset-move-v1")]

/-- `canonical_hard_budgets`. -/
def hardBudgetsJson (b : ExecutionPlanBudgets) : Value :=
  .fields [("max_operations", .int b.hardMaxOperations), ("max_entities", .int b.hardMaxEntities),
    ("max_vertices", .int b.hardMaxVertices), ("max_text_bytes", .int b.hardMaxTextBytes)]

def expansionJson (operations : List ConcreteOperation) : Value :=
  .fields [("operations", .list (operations.map operationJson))]

def targetRefsJson (refs : List MaterializedTargetRef) : Value :=
  .fields [("target_refs", .list (refs.map targetRefJson))]

def profilesJson (profiles : List String) : Value :=
  .fields [("validation_profiles", .list (profiles.map Value.text))]

def checkpointJson (strategy : CheckpointStrategy) : Value :=
  .fields [("checkpoint_strategy", .text (checkpointName strategy))]

section

variable (hash : List Char → String)

/-- The digests of `phase8_contracts.py` under a hash; the manifest of the compiler is encoded
whatever the hash. -/
def planCodec : PlanCodec where
  canonicalCompilerDigest := (domainDigest hash "cad.program.compiler/1" compilerManifest).getD ""
  canonicalExpansionDigest operations :=
    domainDigest hash "cad.program.expansion/1" (expansionJson operations)
  canonicalEffectDigest manifest := domainDigest hash "cad.effect-manifest/1" (manifestJson manifest)
  canonicalTargetRefsDigest refs := domainDigest hash "cad.target-refs/1" (targetRefsJson refs)
  canonicalValidationProfilesDigest profiles :=
    domainDigest hash "cad.validation-profiles/1" (profilesJson profiles)
  canonicalCheckpointStrategyDigest strategy :=
    domainDigest hash "cad.checkpoint-strategy/1" (checkpointJson strategy)
  canonicalHardBudgetsDigest budgets :=
    domainDigest hash "cad.execution-budgets/1" (hardBudgetsJson budgets)
  canonicalExecutionPlanDigest plan :=
    domainDigest hash "cad.execution-plan/1" (canonicalExecutionPlan plan)
  canonicalBytes plan := (canonicalJson (canonicalExecutionPlan plan)).toOption.map utf8Length

end

end AutocadMcp.Phase8
