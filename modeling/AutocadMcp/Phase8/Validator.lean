import AutocadMcp.Phase8.Canonical
import AutocadMcp.Program.Numbers

/-!
# The validator of the host

`Phase8ContractValidator` of `Phase8Contracts.cs` on a parsed document: the readers of
fields, the checks of the parts of a plan, and the two entry points. The host takes the
grammar and every digest again from the text that it receives.
-/

namespace AutocadMcp.Phase8

open JsonText CanonicalJson Host Program

def invalid (message : String) : HostFailure := .rejected ⟨"program_invalid", message⟩

/-! ## Readers -/

/-- `GetProperty`. -/
def getProperty (parent : Doc) (property : String) : Verdict Doc :=
  match parent.get? property with
  | some value => .ok value
  | none => .error .unhandled

/-- `GetString()!`. -/
def getString : Doc → Verdict String
  | .string s => .ok (String.ofList s)
  | _ => .error .unhandled

/-- `EnumerateArray`. -/
def enumerateArray : Doc → Verdict (List Doc)
  | .array items => .ok items
  | _ => .error .unhandled

/-- A .NET pattern with `$`, which also stands before a line feed at the end. -/
def matchesToEnd (pattern : String → Bool) (text : String) : Bool :=
  pattern text || (text.toList.getLast? = some '\n' && pattern (String.ofList text.toList.dropLast))

def requireBoundedString (parent : Doc) (property : String) (maximum : Nat) : Verdict String :=
  match parent.get? property with
  | some (.string s) => do
      check (s ≠ [] ∧ utf16Length (String.ofList s) ≤ maximum)
        (invalid (property ++ " is not a bounded string."))
      return String.ofList s
  | _ => .error (invalid (property ++ " is not a bounded string."))

def requireIdentifier (parent : Doc) (property : String) : Verdict String := do
  let value ← requireBoundedString parent property 128
  check (matchesToEnd isIdentifier value = true) (invalid (property ++ " is not an identifier."))
  return value

/-- An identifier under each of the names. -/
def requireIdentifiers (parent : Doc) (properties : List String) : Verdict Unit :=
  properties.forM fun property => do
    let _ ← requireIdentifier parent property

def requireDigest (parent : Doc) (property : String) : Verdict String := do
  let value ← requireBoundedString parent property 71
  check (matchesToEnd Program.isDigest value = true) (invalid (property ++ " is not a SHA-256 digest."))
  return value

def requireString (parent : Doc) (property expected : String) : Verdict Unit :=
  match parent.get? property with
  | some (.string s) =>
      check (String.ofList s = expected) (invalid (property ++ " does not match the contract."))
  | _ => .error (invalid (property ++ " does not match the contract."))

/-- The integer of a text of digits, which `TryGetInt32` takes where it fits. -/
def int32? (raw : List Char) : Option Int :=
  let digits := if raw.head? = some '-' then raw.tail else raw
  let value : Int := if raw.head? = some '-' then -digitsValue digits else digitsValue digits
  if digits ≠ [] ∧ digits.all Char.isDigit ∧ -2147483648 ≤ value ∧ value ≤ 2147483647 then
    some value
  else none

/-- `TryGetProperty` and `TryGetInt32`; a value of another kind has no integer. -/
def tryGetInt32 (parent : Doc) (property : String) : Verdict (Option Int) :=
  match parent.get? property with
  | none => .ok none
  | some (.number raw) => .ok (int32? raw)
  | some _ => .error .unhandled

def requirePositiveInteger (parent : Doc) (property : String) : Verdict Int := do
  match ← tryGetInt32 parent property with
  | some parsed => do
      check (1 ≤ parsed) (invalid (property ++ " must be a positive integer."))
      return parsed
  | none => throw (invalid (property ++ " must be a positive integer."))

def requireNonNegativeInteger (parent : Doc) (property : String) : Verdict Int := do
  match ← tryGetInt32 parent property with
  | some parsed => do
      check (0 ≤ parsed) (invalid (property ++ " must be a non-negative integer."))
      return parsed
  | none => throw (invalid (property ++ " must be a non-negative integer."))

def requireInteger (parent : Doc) (property : String) (expected : Int) : Verdict Unit := do
  let parsed ← tryGetInt32 parent property
  check (parsed = some expected) (invalid (property ++ " does not match the contract."))

def requireArray (parent : Doc) (property : String) (minimum maximum : Nat) :
    Verdict (List Doc) := do
  match ← getProperty parent property with
  | .array items => do
      check (minimum ≤ items.length ∧ items.length ≤ maximum)
        (invalid (property ++ " array is outside its bound."))
      return items
  | _ => throw (invalid (property ++ " array is outside its bound."))

def ensureExact (value : Doc) (required : List String) (optional : List String) : Verdict Unit :=
  match value.names? with
  | none => .error (invalid "Contract value must be an object.")
  | some present =>
      check (present.Nodup ∧ (∀ name ∈ required, name ∈ present) ∧
          ∀ name ∈ present, name ∈ required ∨ name ∈ optional)
        (invalid "Contract object has missing or unknown fields.")

/-- `CanonicalDecimalText`, and the value that `decimal.TryParse` gives; a fraction that is longer
than a decimal holds is rounded there, and never to zero. -/
def canonicalDecimal? (text : String) : Option Rat :=
  if '.' ∈ text.toList ∧ text.toList.getLast? = some '0' then none else decimal? text

def requireCanonicalDecimal (parent : Doc) (property : String) (positive : Bool) :
    Verdict Rat := do
  let text ← requireBoundedString parent property 40
  match canonicalDecimal? text with
  | some value => do
      check (positive = true → 0 < value)
        (invalid (property ++ " is not a canonical bounded decimal."))
      return value
  | none => throw (invalid (property ++ " is not a canonical bounded decimal."))

def requireSame (left : Doc) (leftProperty : String) (right : Doc) (rightProperty : String) :
    Verdict Unit := do
  let leftValue ← requireBoundedString left leftProperty 256
  let rightValue ← requireBoundedString right rightProperty 256
  check (leftValue = rightValue) (invalid (leftProperty ++ " does not match the sealed plan."))

/-! ## Constants -/

def createOnlyKinds : List String :=
  ["ensure_layer", "create_line", "create_circle", "create_polyline", "create_rectangle",
    "create_text", "create_dimension_linear"]

def targetKinds : List String := ["copy_entity", "offset_entity", "move_entity"]

def isAllowedKind (kind : String) : Bool := kind ∈ createOnlyKinds || kind ∈ targetKinds

def phase8RegistryVersion : String := "cad.program/1.0-phase8-core"

def isAllowedRegistry (registry : String) : Bool :=
  registry = "cad.program/1.0-create-core" || registry = phase8RegistryVersion

/-- `Phase8Contract.CompilerDigest`. -/
def hostCompilerDigest : String :=
  "sha256:98732381c0674120be01bdae9b6e825a89dd2579a6c6af31e8ec4030bf1c35d9"

/-! ## Operations -/

def validateConcretePoint (point : Doc) : Verdict Unit := do
  ensureExact point ["x_mm", "y_mm", "z_mm"] []
  let _ ← requireCanonicalDecimal point "x_mm" false
  let _ ← requireCanonicalDecimal point "y_mm" false
  let _ ← requireCanonicalDecimal point "z_mm" false

/-- `ValidateConcreteVector` of a displacement that must not be zero. -/
def validateConcreteVector (vector : Doc) : Verdict Unit := do
  validateConcretePoint vector
  let x ← requireCanonicalDecimal vector "x_mm" false
  let y ← requireCanonicalDecimal vector "y_mm" false
  let z ← requireCanonicalDecimal vector "z_mm" false
  check (¬ (x = 0 ∧ y = 0 ∧ z = 0)) (invalid "Concrete displacement must be non-zero.")

def common : List String := ["kind", "operation_version", "operation_id", "source_operation_id"]

/-- The point under a name. -/
def pointAt (operation : Doc) (property : String) : Verdict Unit := do
  let point ← getProperty operation property
  validateConcretePoint point

def vectorAt (operation : Doc) (property : String) : Verdict Unit := do
  let vector ← getProperty operation property
  validateConcreteVector vector

/-- The fields of an `ensure_layer`. -/
def validateEnsureLayer (operation : Doc) : Verdict Unit := do
  ensureExact operation (common ++ ["name"]) ["color_index"]
  let _ ← requireBoundedString operation "name" 255

def validateLine (operation : Doc) : Verdict Unit := do
  ensureExact operation (common ++ ["layer", "start", "end"]) []
  let _ ← requireBoundedString operation "layer" 255
  pointAt operation "start"
  pointAt operation "end"

def validateCircle (operation : Doc) : Verdict Unit := do
  ensureExact operation (common ++ ["layer", "center", "radius_mm"]) []
  let _ ← requireBoundedString operation "layer" 255
  pointAt operation "center"
  let _ ← requireCanonicalDecimal operation "radius_mm" true

def isBoolean : Doc → Bool
  | .bool _ => true
  | _ => false

def validatePolyline (operation : Doc) : Verdict Unit := do
  ensureExact operation (common ++ ["layer", "vertices", "closed"]) []
  let _ ← requireBoundedString operation "layer" 255
  let vertices ← requireArray operation "vertices" 2 4096
  vertices.forM validateConcretePoint
  let closed ← getProperty operation "closed"
  check (isBoolean closed = true) (invalid "closed must be boolean.")

def validateRectangle (operation : Doc) : Verdict Unit := do
  ensureExact operation (common ++ ["layer", "first_corner", "opposite_corner"]) []
  let _ ← requireBoundedString operation "layer" 255
  pointAt operation "first_corner"
  pointAt operation "opposite_corner"

def validateText (operation : Doc) : Verdict Unit := do
  ensureExact operation (common ++ ["layer", "position", "text", "height_mm", "rotation_rad"]) []
  let _ ← requireBoundedString operation "layer" 255
  pointAt operation "position"
  let _ ← requireBoundedString operation "text" 65536
  let _ ← requireCanonicalDecimal operation "height_mm" true
  let _ ← requireCanonicalDecimal operation "rotation_rad" false

def validateDimension (operation : Doc) : Verdict Unit := do
  ensureExact operation (common ++
    ["layer", "extension_line1_point", "extension_line2_point", "dimension_line_point"])
    ["text_override"]
  let _ ← requireBoundedString operation "layer" 255
  pointAt operation "extension_line1_point"
  pointAt operation "extension_line2_point"
  pointAt operation "dimension_line_point"

def validateCopy (operation : Doc) : Verdict Unit := do
  ensureExact operation (common ++ ["target_ref_id", "displacement_mm", "output_id"]) []
  let _ ← requireIdentifier operation "target_ref_id"
  vectorAt operation "displacement_mm"
  let _ ← requireIdentifier operation "output_id"

def validateOffset (operation : Doc) : Verdict Unit := do
  ensureExact operation (common ++ ["target_ref_id", "signed_distance_mm", "output_id"]) []
  let _ ← requireIdentifier operation "target_ref_id"
  let distance ← requireCanonicalDecimal operation "signed_distance_mm" false
  check (distance ≠ 0) (invalid "signed_distance_mm must be non-zero.")
  let _ ← requireIdentifier operation "output_id"

def validateMove (operation : Doc) : Verdict Unit := do
  ensureExact operation (common ++ ["target_ref_id", "displacement_mm"]) []
  let _ ← requireIdentifier operation "target_ref_id"
  vectorAt operation "displacement_mm"

/-- The `switch` of `ValidateConcreteOperation`. -/
def validateKind (operation : Doc) (kind : String) : Verdict Unit :=
  if kind = "ensure_layer" then validateEnsureLayer operation
  else if kind = "create_line" then validateLine operation
  else if kind = "create_circle" then validateCircle operation
  else if kind = "create_polyline" then validatePolyline operation
  else if kind = "create_rectangle" then validateRectangle operation
  else if kind = "create_text" then validateText operation
  else if kind = "create_dimension_linear" then validateDimension operation
  else if kind = "copy_entity" then validateCopy operation
  else if kind = "offset_entity" then validateOffset operation
  else validateMove operation

/-- `ValidateConcreteOperation`, with the ids after it. -/
def validateConcreteOperation (operationIds : List String) (operation : Doc) :
    Verdict (List String) := do
  let kind ← requireBoundedString operation "kind" 64
  check (isAllowedKind kind = true)
    (invalid "Sealed plan operation is outside the allowlisted registry.")
  requireInteger operation "operation_version" 1
  let id ← requireIdentifier operation "operation_id"
  let _ ← requireIdentifier operation "source_operation_id"
  check (id ∉ operationIds) (invalid "Expanded operation IDs must be unique.")
  validateKind operation kind
  return operationIds ++ [id]

/-! ## Materialized references -/

def validateTargetRef (ids : List String) (reference : Doc) : Verdict (List String) := do
  ensureExact reference
    ["ref_id", "owner_id", "device_id", "document_id", "snapshot_id", "document_revision",
      "entity_id", "entity_type", "fingerprint"] []
  let id ← requireIdentifier reference "ref_id"
  check (id ∉ ids) (invalid "Target ref IDs must be unique.")
  requireIdentifiers reference
    ["owner_id", "device_id", "document_id", "snapshot_id", "entity_id", "entity_type"]
  let _ ← requireBoundedString reference "document_revision" 256
  let _ ← requireDigest reference "fingerprint"
  return ids ++ [id]

def validateTargetRefs (refs : List Doc) : Verdict Unit := do
  let _ ← refs.foldlM validateTargetRef []

/-- The string under a name. -/
def stringAt (value : Doc) (property : String) : Verdict String := do
  let value ← getProperty value property
  getString value

/-- `ToLowerInvariant`, on the entity types of a reference. -/
def toLowerInvariant (text : String) : String := String.ofList (text.toList.map Char.toLower)

/-- The context of a plan that its references repeat. -/
def validateRefContext (deviceId documentId snapshotId revision : String) (reference : Doc) :
    Verdict Unit := do
  let device ← stringAt reference "device_id"
  let document ← stringAt reference "document_id"
  let snapshot ← stringAt reference "snapshot_id"
  let documentRevision ← stringAt reference "document_revision"
  check (device = deviceId ∧ document = documentId ∧ snapshot = snapshotId ∧
    documentRevision = revision) (invalid "Materialized target ref does not match plan context.")

/-- `refsById[refId]`. -/
def refById (refs : List (String × Doc)) (refId : String) : Verdict Doc :=
  match refs.find? fun r => r.1 = refId with
  | some r => .ok r.2
  | none => .error .unhandled

/-- The kind of an operation and the reference it is on. -/
abbrev TargetUse := String × String

def dropSuffix (suffixLength : Nat) (text : String) : String :=
  String.ofList (text.toList.take (text.toList.length - suffixLength))

def validateCapability (required : List String) (refsById : List (String × Doc)) (use : TargetUse) :
    Verdict Unit := do
  let reference ← refById refsById use.2
  let entityType ← stringAt reference "entity_type"
  check ("cad.op." ++ dropSuffix 7 use.1 ++ "." ++ toLowerInvariant entityType ++ ".v1" ∈ required)
    (invalid "Target operation capability is missing from sealed plan.")

/-- The kind and the reference of a target operation. -/
def targetUse (operation : Doc) : Verdict TargetUse := do
  let kind ← stringAt operation "kind"
  let refId ← stringAt operation "target_ref_id"
  return (kind, refId)

def isTargetOperation (operation : Doc) : Bool :=
  match operation.get? "kind" with
  | some (.string kind) => String.ofList kind ∈ targetKinds
  | _ => false

/-- The references by their ids. -/
def keyedRef (reference : Doc) : Verdict (String × Doc) := do
  let refId ← stringAt reference "ref_id"
  return (refId, reference)

def validateTargetClosure (plan : Doc) (operations refs : List Doc)
    (sourceRegistryVersion : String) : Verdict Unit := do
  let refsById ← refs.mapM keyedRef
  let refIds := refsById.map Prod.fst
  check (refIds = refIds.insertionSort fun a b => ordinalLe a.toList b.toList = true)
    (invalid "Materialized target refs must be sorted by ref_id.")
  let owners ← refs.mapM (stringAt · "owner_id")
  check (∀ a ∈ owners, ∀ b ∈ owners, a = b)
    (invalid "Materialized target refs must have one owner.")
  let uses ← (operations.filter isTargetOperation).mapM targetUse
  let usedRefIds := uses.map Prod.snd
  check ((∀ id ∈ usedRefIds, id ∈ refIds) ∧ ∀ id ∈ refIds, id ∈ usedRefIds)
    (invalid "Materialized target refs must exactly match operation targets.")
  check (usedRefIds = [] ∨ sourceRegistryVersion = phase8RegistryVersion)
    (invalid "Target operations require the Phase 8 core registry.")
  let deviceId ← stringAt plan "device_id"
  let documentId ← stringAt plan "document_id"
  let snapshotId ← stringAt plan "source_snapshot_id"
  let revision ← stringAt plan "expected_document_revision"
  refs.forM (validateRefContext deviceId documentId snapshotId revision)
  let capabilities ← enumerateArray (← getProperty plan "required_capabilities")
  let required ← capabilities.mapM getString
  check required.Nodup (invalid "Required plan capabilities must be unique.")
  uses.forM (validateCapability required refsById)
  check (∀ use ∈ uses, ("move_entity", use.2) ∈ uses →
      (uses.filter fun other => other.2 = use.2).length = 1)
    (invalid "An in-place target cannot be reused by another operation.")

/-! ## Effects -/

def expectedCreates (kind : String) : Int :=
  if kind = "ensure_layer" ∨ kind = "move_entity" then 0 else 1

def expectedModifies (kind : String) : Int := if kind = "move_entity" then 1 else 0

def expectedEffectClass (kind : String) : String :=
  if kind = "ensure_layer" then "ensure_non_entity"
  else if kind = "move_entity" then "modify_in_place"
  else "create_only"

def expectedCheckpoint (kind : String) : String :=
  if kind = "ensure_layer" then "none"
  else if kind = "move_entity" then "cad.rollback.checkpoint/2"
  else "cad.rollback.checkpoint/1-created-entities"

def staticType (kind : String) : String :=
  if kind = "ensure_layer" then "LAYER"
  else if kind = "create_line" then "LINE"
  else if kind = "create_circle" then "CIRCLE"
  else if kind = "create_polyline" then "LWPOLYLINE"
  else if kind = "create_rectangle" then "RECTANGLE"
  else if kind = "create_text" then "TEXT"
  else "DIMENSION_LINEAR"

def expectedEntityType (refsById : List (String × Doc)) (operation : Doc) (kind : String) :
    Verdict String :=
  if kind ∈ targetKinds then do
    let refId ← stringAt operation "target_ref_id"
    let reference ← refById refsById refId
    stringAt reference "entity_type"
  else .ok (staticType kind)

/-- One entry of a manifest, with its operation; gives the kind. -/
def validateEffectEntry (refsById : List (String × Doc)) (entry operation : Doc) :
    Verdict String := do
  ensureExact entry
    ["operation_id", "operation_kind", "operation_version", "effect_class", "entity_type",
      "creates", "modifies", "erases", "checkpoint_strategy"] []
  let entryId ← requireIdentifier entry "operation_id"
  let kind ← requireBoundedString entry "operation_kind" 64
  check (isAllowedKind kind = true) (invalid "Effect operation kind is not allowlisted.")
  requireInteger entry "operation_version" 1
  requireInteger entry "erases" 0
  let operationId ← stringAt operation "operation_id"
  let operationKind ← stringAt operation "kind"
  check (entryId = operationId ∧ kind = operationKind)
    (invalid "Effect entries do not match ordered operations.")
  requireInteger entry "creates" (expectedCreates kind)
  requireInteger entry "modifies" (expectedModifies kind)
  requireString entry "effect_class" (expectedEffectClass kind)
  let entityType ← expectedEntityType refsById operation kind
  requireString entry "entity_type" entityType
  requireString entry "checkpoint_strategy" (expectedCheckpoint kind)
  return kind

/-- The loop over the entries; gives their kinds. -/
def validateEffectEntries (refsById : List (String × Doc)) :
    List (Doc × Doc) → Verdict (List String)
  | [] => return []
  | (entry, operation) :: rest => do
      let kind ← validateEffectEntry refsById entry operation
      return kind :: (← validateEffectEntries refsById rest)

def validateEffectManifest (effect : Doc) (operations refs : List Doc) : Verdict Unit := do
  ensureExact effect
    ["schema_version", "entries", "creates", "modifies", "erases", "ensures_non_entity",
      "risk_floor", "checkpoint_strategy"] []
  requireString effect "schema_version" "cad.effect-manifest/1"
  requireInteger effect "erases" 0
  let entries ← requireArray effect "entries" 1 1024
  check (entries.length = operations.length)
    (invalid "Effect entry count does not match operations.")
  let refsById ← refs.mapM keyedRef
  let kinds ← validateEffectEntries refsById (entries.zip operations)
  let modifyTotal := (kinds.map expectedModifies).sum
  let creates ← requireNonNegativeInteger effect "creates"
  check (creates = (kinds.map expectedCreates).sum) (invalid "Effect totals do not match entries.")
  let modifies ← requireNonNegativeInteger effect "modifies"
  check (modifies = modifyTotal) (invalid "Effect totals do not match entries.")
  let ensures ← requireNonNegativeInteger effect "ensures_non_entity"
  check (ensures = kinds.countP fun kind => kind = "ensure_layer")
    (invalid "Effect totals do not match entries.")
  requireString effect "risk_floor" (if 0 < modifyTotal then "medium" else "low")
  requireString effect "checkpoint_strategy"
    (if 0 < modifyTotal then "cad.rollback.checkpoint/2"
      else "cad.rollback.checkpoint/1-created-entities")

/-! ## Pins, budgets and references -/

def validateExecutionPins (binding : Doc) : Verdict Unit := do
  ensureExact binding
    ["runtime_id", "runtime_role", "host_family", "host_version", "package_id", "package_version",
      "package_hash", "capability_manifest_hash", "operation_registry_version",
      "operation_registry_hash", "policy_version", "rollout_policy_digest"] []
  requireIdentifiers binding
    ["runtime_id", "host_family", "host_version", "package_id", "package_version"]
  let _ ← requireBoundedString binding "operation_registry_version" 256
  let _ ← requireBoundedString binding "policy_version" 256
  requireString binding "runtime_role" "primary"
  let _ ← requireDigest binding "package_hash"
  let _ ← requireDigest binding "capability_manifest_hash"
  let _ ← requireDigest binding "operation_registry_hash"
  let _ ← requireDigest binding "rollout_policy_digest"

/-- What an operation adds to the vertices of a plan. -/
def operationVertices (operation : Doc) : Verdict Nat := do
  let kind ← stringAt operation "kind"
  if kind = "create_polyline" then
    let vertices ← enumerateArray (← getProperty operation "vertices")
    return vertices.length
  else return if kind = "create_rectangle" then 4 else 0

/-- What an operation adds to the bytes of text of a plan. -/
def operationTextBytes (operation : Doc) : Verdict Nat := do
  let kind ← stringAt operation "kind"
  if kind = "create_text" then
    let text ← stringAt operation "text"
    return text.utf8ByteSize
  else if kind = "create_dimension_linear" then
    match operation.get? "text_override" with
    | some textOverride => do
        let text ← getString textOverride
        return text.utf8ByteSize
    | none => return 0
  else return 0

def validatePlanBudgets (budgets : Doc) (operations : List Doc) : Verdict Unit := do
  ensureExact budgets
    ["estimated_operations", "hard_max_operations", "estimated_entities", "hard_max_entities",
      "estimated_vertices", "hard_max_vertices", "estimated_text_bytes", "hard_max_text_bytes"] []
  let kinds ← operations.mapM (stringAt · "kind")
  let entityCount := kinds.countP fun kind => kind ≠ "ensure_layer"
  let vertices ← operations.mapM operationVertices
  let textBytes ← operations.mapM operationTextBytes
  let mismatch := invalid "Estimated plan budgets do not match operations."
  let estimatedOperations ← requirePositiveInteger budgets "estimated_operations"
  check (estimatedOperations = operations.length) mismatch
  let estimatedEntities ← requireNonNegativeInteger budgets "estimated_entities"
  check (estimatedEntities = entityCount) mismatch
  let estimatedVertices ← requireNonNegativeInteger budgets "estimated_vertices"
  check (estimatedVertices = vertices.sum) mismatch
  let estimatedTextBytes ← requireNonNegativeInteger budgets "estimated_text_bytes"
  check (estimatedTextBytes = textBytes.sum) mismatch
  let excess := invalid "Estimated plan usage exceeds hard budget."
  let maxOperations ← requirePositiveInteger budgets "hard_max_operations"
  check (operations.length ≤ maxOperations) excess
  let maxEntities ← requirePositiveInteger budgets "hard_max_entities"
  check (entityCount ≤ maxEntities) excess
  let maxVertices ← requirePositiveInteger budgets "hard_max_vertices"
  check (vertices.sum ≤ maxVertices) excess
  let maxTextBytes ← requirePositiveInteger budgets "hard_max_text_bytes"
  check (textBytes.sum ≤ maxTextBytes) excess

def validateIdentifierItem (property : String) (values : List String) (item : Doc) :
    Verdict (List String) :=
  match item with
  | .string s => do
      check (matchesToEnd isIdentifier (String.ofList s) = true ∧ String.ofList s ∉ values)
        (invalid (property ++ " must contain unique identifiers."))
      return values ++ [String.ofList s]
  | _ => .error (invalid (property ++ " must contain unique identifiers."))

def validateIdentifierArray (parent : Doc) (property : String) (maximum : Nat)
    (requireOne : Bool) : Verdict Unit := do
  let items ← requireArray parent property (if requireOne then 1 else 0) maximum
  let _ ← items.foldlM (validateIdentifierItem property) []

/-- One reference of `ValidateOpaqueRefs`. -/
def validateOpaqueRef (property idProperty digestProperty : String)
    (versionProperty : Option String) (ids : List String) (reference : Doc) :
    Verdict (List String) := do
  ensureExact reference ([idProperty, "owner_id"] ++ versionProperty.toList ++
    ["content_type", "byte_length", digestProperty]) []
  let id ← requireIdentifier reference idProperty
  check (id ∉ ids) (invalid (property ++ " IDs must be unique."))
  let _ ← requireIdentifier reference "owner_id"
  let _ ← requirePositiveInteger reference "byte_length"
  requireString reference "content_type"
    (if versionProperty.isNone then "application/vnd.autocad-mcp.cad-program+json"
      else "application/vnd.autocad-mcp.component+json")
  let _ ← requireDigest reference digestProperty
  requireIdentifiers reference versionProperty.toList
  return ids ++ [id]

def validateOpaqueRefs (parent : Doc) (property idProperty digestProperty : String)
    (versionProperty : Option String) : Verdict Unit := do
  let refs ← requireArray parent property 0 32
  let _ ← refs.foldlM (validateOpaqueRef property idProperty digestProperty versionProperty) []

/-! ## Digests -/

section

variable (hash : List Char → String) (blocked : Char → Bool)

/-- The digest of a field is the one that the host takes of a value. -/
def requireHash (plan : Doc) (property : String) (actual : Verdict String) (message : String) :
    Verdict String := do
  let claimed ← requireDigest plan property
  let actual ← actual
  check (claimed = actual) (invalid message)
  return claimed

def hashWrapped (property : String) (value : Doc) (domain : String) : Verdict String :=
  hashDomain hash blocked domain (fields [(property, value)])

/-- `HashWithoutProperty`. -/
def hashWithoutProperty (value : Doc) (property domain : String) : Verdict String :=
  match value with
  | .object members =>
      hashDomain hash blocked domain
        (.object (members.filter fun m => m.1 ≠ property.toList))
  | _ => .error .unhandled

/-- `GetInt32` of a property. -/
def int32At (value : Doc) (property : String) : Verdict Int := do
  match ← tryGetInt32 value property with
  | some n => return n
  | none => throw .unhandled

def hashHardBudgets (budgets : Doc) : Verdict String := do
  let maxOperations ← int32At budgets "hard_max_operations"
  let maxEntities ← int32At budgets "hard_max_entities"
  let maxVertices ← int32At budgets "hard_max_vertices"
  let maxTextBytes ← int32At budgets "hard_max_text_bytes"
  hashDomain hash blocked "cad.execution-budgets/1"
    (fields [("max_operations", integer maxOperations), ("max_entities", integer maxEntities),
      ("max_vertices", integer maxVertices), ("max_text_bytes", integer maxTextBytes)])

/-! ## Plans -/

def planFields : List String :=
  ["schema_version", "plan_id", "source_schema_version", "source_registry_version",
    "source_program_id", "source_program_revision", "source_digest", "compiler", "device_id",
    "document_id", "source_snapshot_id", "expected_document_revision", "operations",
    "expansion_digest", "effect_manifest", "effect_manifest_digest", "materialized_target_refs",
    "target_refs_digest", "validation_profiles_digest", "checkpoint_strategy_digest",
    "hard_budgets_digest", "execution_pins", "budgets", "required_capabilities",
    "validation_profiles", "artifact_refs", "component_refs", "checkpoint_strategy",
    "execution_plan_digest"]

/-- The fields of a plan up to its checkpoint strategy; gives the registry and the strategy. -/
def validatePlanHeader (plan : Doc) : Verdict (String × String) := do
  ensureExact plan planFields []
  requireString plan "schema_version" "cad.execution-plan/1"
  requireString plan "source_schema_version" "cad.program/1.0"
  let sourceRegistryVersion ← requireBoundedString plan "source_registry_version" 256
  check (isAllowedRegistry sourceRegistryVersion = true)
    (invalid "Plan source registry version is not allowlisted.")
  let _ ← requireIdentifier plan "plan_id"
  let _ ← requireIdentifier plan "source_program_id"
  let _ ← requirePositiveInteger plan "source_program_revision"
  let _ ← requireDigest plan "source_digest"
  let _ ← requireIdentifier plan "device_id"
  let _ ← requireIdentifier plan "document_id"
  let _ ← requireIdentifier plan "source_snapshot_id"
  let _ ← requireBoundedString plan "expected_document_revision" 256
  let checkpointStrategy ← requireBoundedString plan "checkpoint_strategy" 64
  check (checkpointStrategy = "cad.rollback.checkpoint/1-created-entities" ∨
    checkpointStrategy = "cad.rollback.checkpoint/2")
    (invalid "Checkpoint strategy is not allowlisted.")
  return (sourceRegistryVersion, checkpointStrategy)

def validateCompiler (compiler : Doc) : Verdict Unit := do
  ensureExact compiler
    ["compiler_id", "compiler_version", "compiler_digest", "compiler_package_hash"] []
  requireString compiler "compiler_id" "autocad-mcp.gateway.cad-program-v1"
  requireString compiler "compiler_version" "1.1.0"
  let compilerDigest ← requireDigest compiler "compiler_digest"
  check (compilerDigest = hostCompilerDigest) (invalid "Compiler digest mismatch.")
  let _ ← requireDigest compiler "compiler_package_hash"

/-- The operations of a plan and their digest. -/
def validateOperations (plan : Doc) : Verdict (List Doc) := do
  let operations ← requireArray plan "operations" 1 1024
  let _ ← operations.foldlM validateConcreteOperation []
  let _ ← requireHash plan "expansion_digest"
    (hashWrapped hash blocked "operations" (.array operations) "cad.program.expansion/1")
    "Expansion digest mismatch."
  return operations

/-- The effects and the references of a plan. -/
def validateEffects (plan : Doc) (operations : List Doc)
    (sourceRegistryVersion checkpointStrategy : String) : Verdict Unit := do
  let effect ← getProperty plan "effect_manifest"
  let _ ← requireHash plan "effect_manifest_digest"
    (hashDomain hash blocked "cad.effect-manifest/1" effect) "Effect manifest digest mismatch."
  let targetRefs ← requireArray plan "materialized_target_refs" 0 1024
  validateTargetRefs targetRefs
  validateTargetClosure plan operations targetRefs sourceRegistryVersion
  validateEffectManifest effect operations targetRefs
  let effectStrategy ← stringAt effect "checkpoint_strategy"
  check (checkpointStrategy = effectStrategy)
    (invalid "Plan checkpoint strategy does not match effect manifest.")
  let _ ← requireHash plan "target_refs_digest"
    (hashWrapped hash blocked "target_refs" (.array targetRefs) "cad.target-refs/1")
    "Target refs digest mismatch."

/-- The digests of the profiles, the strategy and the budgets of a plan. -/
def validateDigests (plan : Doc) : Verdict Unit := do
  let profiles ← getProperty plan "validation_profiles"
  let _ ← requireHash plan "validation_profiles_digest"
    (hashWrapped hash blocked "validation_profiles" profiles "cad.validation-profiles/1")
    "Validation profiles digest mismatch."
  let strategy ← stringAt plan "checkpoint_strategy"
  let _ ← requireHash plan "checkpoint_strategy_digest"
    (hashWrapped hash blocked "checkpoint_strategy" (text strategy) "cad.checkpoint-strategy/1")
    "Checkpoint strategy digest mismatch."
  let budgets ← getProperty plan "budgets"
  let _ ← requireHash plan "hard_budgets_digest" (hashHardBudgets hash blocked budgets)
    "Hard budgets digest mismatch."

/-- `ValidateExecutionPlan`; gives the digest of the plan. -/
def validateExecutionPlan (plan : Doc) : Verdict String := do
  let (sourceRegistryVersion, checkpointStrategy) ← validatePlanHeader plan
  let compiler ← getProperty plan "compiler"
  validateCompiler compiler
  let operations ← validateOperations hash blocked plan
  validateEffects hash blocked plan operations sourceRegistryVersion checkpointStrategy
  validateDigests hash blocked plan
  let pins ← getProperty plan "execution_pins"
  validateExecutionPins pins
  let budgets ← getProperty plan "budgets"
  validatePlanBudgets budgets operations
  validateIdentifierArray plan "required_capabilities" 64 false
  validateIdentifierArray plan "validation_profiles" 16 true
  validateOpaqueRefs plan "artifact_refs" "artifact_id" "artifact_digest" none
  validateOpaqueRefs plan "component_refs" "component_id" "component_digest"
    (some "component_version")
  requireHash plan "execution_plan_digest"
    (hashWithoutProperty hash blocked plan "execution_plan_digest" "cad.execution-plan/1")
    "Execution plan digest mismatch."

/-! ## Bindings -/

def bindingFields : List String :=
  ["schema_version", "action", "source_schema_version", "source_program_id",
    "source_registry_version", "source_program_revision", "source_digest", "compiler_id",
    "compiler_version", "compiler_digest", "compiler_package_hash", "plan_schema_version",
    "execution_plan_digest", "expansion_digest", "effect_manifest_digest", "target_refs_digest",
    "validation_profiles_digest", "checkpoint_strategy_digest", "hard_budgets_digest", "runtime_id",
    "runtime_role", "host_family", "host_version", "package_id", "package_version", "package_hash",
    "capability_manifest_hash", "operation_registry_version", "operation_registry_hash",
    "policy_version", "rollout_policy_digest", "device_id", "document_id", "source_snapshot_id",
    "document_revision", "execution_binding_digest"]

/-- The fields that an action comes with. -/
def validateAction (binding : Doc) : Verdict Unit := do
  let action ← requireBoundedString binding "action" 16
  let hasPreview := (binding.get? "preview_id").isSome
  let hasExpiry := (binding.get? "preview_expires_at").isSome
  let hasReceipt := (binding.get? "receipt_id").isSome
  check (¬ (action = "compile_only" ∧ (hasPreview = true ∨ hasExpiry = true ∨ hasReceipt = true) ∨
      action = "preview" ∧ (hasPreview = false ∨ hasExpiry = false ∨ hasReceipt = true) ∨
      action = "commit" ∧ (hasPreview = false ∨ hasExpiry = false ∨ hasReceipt = false) ∨
      ¬ (action = "compile_only" ∨ action = "preview" ∨ action = "commit")))
    (invalid "Execution action fields do not match.")

/-- The names on both sides of the fields that a binding repeats. -/
def requireAllSame (left right : Doc) (properties : List (String × String)) : Verdict Unit :=
  properties.forM fun property => requireSame left property.1 right property.2

def twice (property : String) : String × String := (property, property)

/-- The fields of a binding against its plan. -/
def validateShared (binding plan : Doc) : Verdict Unit := do
  requireAllSame binding plan
    (["source_schema_version", "source_registry_version", "source_program_id"].map twice)
  let bindingRevision ← int32At binding "source_program_revision"
  let planRevision ← int32At plan "source_program_revision"
  check (bindingRevision = planRevision) (invalid "Execution binding source revision mismatch.")
  requireSame binding "source_digest" plan "source_digest"
  let compiler ← getProperty plan "compiler"
  requireAllSame binding compiler
    (["compiler_id", "compiler_version", "compiler_digest", "compiler_package_hash"].map twice)
  requireSame binding "plan_schema_version" plan "schema_version"
  requireAllSame binding plan
    (["execution_plan_digest", "expansion_digest", "effect_manifest_digest", "target_refs_digest",
      "validation_profiles_digest", "checkpoint_strategy_digest", "hard_budgets_digest"].map twice)
  let pins ← getProperty plan "execution_pins"
  requireAllSame binding pins
    (["runtime_id", "runtime_role", "host_family", "host_version", "package_id", "package_version",
      "package_hash", "capability_manifest_hash", "operation_registry_version",
      "operation_registry_hash", "policy_version", "rollout_policy_digest"].map twice)
  requireAllSame binding plan (["device_id", "document_id", "source_snapshot_id"].map twice)
  requireSame binding "document_revision" plan "expected_document_revision"

/-- `ValidateExecutionBinding`; gives the digest of the binding. -/
def validateExecutionBinding (binding plan : Doc) : Verdict String := do
  let _ ← validateExecutionPlan hash blocked plan
  ensureExact binding bindingFields ["preview_id", "preview_expires_at", "receipt_id"]
  requireString binding "schema_version" "cad.execution-binding/1"
  validateAction binding
  validateShared binding plan
  requireHash binding "execution_binding_digest"
    (hashWithoutProperty hash blocked binding "execution_binding_digest" "cad.execution-binding/1")
    "Execution binding digest mismatch."

end

end AutocadMcp.Phase8
