import AutocadMcp.Host.ManagedOperations

/-!
# Checkpoints and receipts of managed operations

What the host keeps about a committed batch: the receipt with its created outputs and
modified entities, the checkpoint of each kind that an undo starts from, and the
receipt of each undo, with the validators of what a commit writes. How a record is
hashed and how a date is read stay parameters.
-/

namespace AutocadMcp.Host

open Phase8ManagedOperationContract

/-! ## Records -/

structure CadEntityStyleV2 where
  layer : String
  linetype : String
  linetypeScale : Double
  lineWeight : Int
  visible : Bool
  colorIndex : Int
  deriving DecidableEq

structure CadLwPolylineVertexV2 where
  x : Double
  y : Double
  bulge : Double
  deriving DecidableEq

structure CadEntityRestoreDescriptorV2 where
  descriptorSchema : String
  restoreStrategy : String
  entityType : String
  style : CadEntityStyleV2
  lineStart : Option CadManagedPoint
  lineEnd : Option CadManagedPoint
  circleCenter : Option CadManagedPoint
  circleNormal : Option CadManagedVector
  circleRadius : Option Double
  polylineElevation : Option Double
  polylineClosed : Option Bool
  polylineVertices : Option (List CadLwPolylineVertexV2)
  deriving DecidableEq

structure CadDependencyRefV2 where
  kind : String
  name : String
  fingerprint : String
  deriving DecidableEq

structure CadRestoreEntryV2 where
  operationId : String
  targetBefore : CadStableEntityRef
  fingerprintAfter : String
  space : String
  snapshotId : String
  dependencies : List CadDependencyRefV2
  dependencyClosureDigest : String
  restoreDescriptor : CadEntityRestoreDescriptorV2
  descriptorDigest : String
  deriving DecidableEq

structure CadManagedRuntimePins where
  runtimeId : String
  hostFamily : String
  hostVersion : String
  packageHash : String
  operationRegistryVersion : String
  operationRegistryHash : String
  compilerHash : String
  capabilityManifestHash : String
  capabilityEvidenceHash : String
  policyDigest : String
  rolloutPolicyDigest : String
  deriving DecidableEq

structure CadRollbackCheckpointV2 where
  schemaVersion : String
  checkpointId : String
  receiptId : String
  planDigest : String
  effectDigest : String
  documentId : String
  documentRevisionBefore : String
  documentRevisionAfter : String
  restoreEntries : List CadRestoreEntryV2
  runtimePins : CadManagedRuntimePins
  ownerId : String
  deviceId : String
  snapshotId : String
  targetSetDigest : String
  restoreBudgetBytes : Int
  createdAt : String
  checkpointDigest : String
  deriving DecidableEq

structure CadManagedOutputMapping where
  operationId : String
  outputId : String
  entityId : String
  entityType : String
  layer : String
  fingerprint : String
  deriving DecidableEq

structure CadManagedModifiedEntity where
  operationId : String
  entityId : String
  entityType : String
  fingerprintBefore : String
  fingerprintAfter : String
  deriving DecidableEq

structure CadManagedOperationReceipt where
  receiptId : String
  planDigest : String
  effectDigest : String
  effectIdentityDigest : String
  targetSetDigest : String
  documentId : String
  documentRevisionBefore : String
  documentRevisionAfter : String
  createdOutputs : List CadManagedOutputMapping
  modifiedEntities : List CadManagedModifiedEntity
  checkpointV1Id : Option String
  checkpointV1Digest : Option String
  checkpointV2Id : Option String
  checkpointV2Digest : Option String
  pins : CadManagedRuntimePins
  deriving DecidableEq

structure CadManagedCommitRecord where
  schemaVersion : String
  receipt : CadManagedOperationReceipt
  createdAt : String
  receiptDigest : String
  deriving DecidableEq

structure CadCreatedOutputCheckpointV1 where
  schemaVersion : String
  checkpointId : String
  receiptId : String
  planDigest : String
  effectDigest : String
  effectIdentityDigest : String
  targetSetDigest : String
  documentId : String
  documentRevisionBefore : String
  documentRevisionAfter : String
  createdOutputs : List CadManagedOutputMapping
  pins : CadManagedRuntimePins
  createdAt : String
  checkpointDigest : String
  deriving DecidableEq

structure CadManagedRestoreReceipt where
  schemaVersion : String
  restoreReceiptId : String
  restoreIdentityDigest : String
  checkpointId : String
  checkpointDigest : String
  planDigest : String
  effectDigest : String
  targetSetDigest : String
  documentId : String
  documentRevisionBefore : String
  documentRevisionAfter : String
  restoredEntities : List CadManagedModifiedEntity
  pins : CadManagedRuntimePins
  createdAt : String
  receiptDigest : String
  deriving DecidableEq

structure CadRemovedOutputV1 where
  outputId : String
  entityId : String
  entityType : String
  fingerprint : String
  deriving DecidableEq

structure CadCreatedOutputRollbackReceiptV1 where
  schemaVersion : String
  rollbackReceiptId : String
  rollbackIdentityDigest : String
  checkpointId : String
  checkpointDigest : String
  effectIdentityDigest : String
  documentId : String
  documentRevisionBefore : String
  documentRevisionAfter : String
  removedOutputs : List CadRemovedOutputV1
  pins : CadManagedRuntimePins
  createdAt : String
  receiptDigest : String
  deriving DecidableEq

/-! ## Validators -/

def CadEntityRestoreDescriptorV2.validateStyle (d : CadEntityRestoreDescriptorV2) :
    Except ProtocolValidationException Unit := do
  check (¬ isBlank d.style.layer ∧ utf16Length d.style.layer ≤ 255 ∧
      ¬ isBlank d.style.linetype ∧ utf16Length d.style.linetype ≤ 255)
    (invalid "Restore descriptor style is invalid.")
  requireFinite d.style.linetypeScale true

def CadLwPolylineVertexV2.validate (v : CadLwPolylineVertexV2) :
    Except ProtocolValidationException Unit := do
  requireFinite v.x
  requireFinite v.y
  requireFinite v.bulge

/-- The `switch` on the entity type: a type carries its own geometry and no other. -/
def CadEntityRestoreDescriptorV2.validateGeometry (d : CadEntityRestoreDescriptorV2) :
    Except ProtocolValidationException Unit :=
  match d.entityType, d.lineStart, d.lineEnd, d.circleCenter, d.circleNormal, d.circleRadius,
      d.polylineElevation, d.polylineClosed, d.polylineVertices with
  | "LINE", some lineStart, some lineEnd, none, none, none, none, none, none => do
      lineStart.validate
      lineEnd.validate
      check (lineStart ≠ lineEnd) (invalid "Restore line endpoints must differ.")
  | "CIRCLE", none, none, some center, some normal, some radius, none, none, none => do
      center.validate
      normal.validate
      requireFinite radius true
  | "LWPOLYLINE", none, none, none, none, none, some elevation, some _, some vertices => do
      requireFinite elevation
      check (2 ≤ vertices.length ∧ vertices.length ≤ maxPolylineVertices)
        (invalid "Restore polyline vertex count is outside the bounded limit.")
      vertices.forM CadLwPolylineVertexV2.validate
  | _, _, _, _, _, _, _, _, _ =>
      .error (invalid "Restore descriptor geometry does not match its entity type.")

def CadEntityRestoreDescriptorV2.validate (d : CadEntityRestoreDescriptorV2) :
    Except ProtocolValidationException Unit := do
  check (d.descriptorSchema = "cad.restore-descriptor/2" ∧
      d.restoreStrategy = "restore_allowlisted_preimage")
    (invalid "Restore descriptor schema or strategy is unsupported.")
  check (d.entityType ∈ supportedEntityTypes)
    ⟨"capability_missing", "Restore descriptor entity type is unsupported."⟩
  d.validateStyle
  d.validateGeometry

/-- `CadManagedRuntimePinValidation.Validate`. -/
def CadManagedRuntimePins.validate (pins : CadManagedRuntimePins) :
    Except ProtocolValidationException Unit := do
  check (pins.runtimeId = "managed_dotnet" ∧ pins.hostFamily = "R25" ∧ ¬ isBlank pins.hostVersion ∧
      pins.operationRegistryVersion = registryVersion)
    ⟨"runtime_changed", "Managed R25 runtime pins are invalid."⟩
  requireDigest pins.packageHash
  requireDigest pins.operationRegistryHash
  requireDigest pins.compilerHash
  requireDigest pins.capabilityManifestHash
  requireDigest pins.capabilityEvidenceHash
  requireDigest pins.policyDigest
  requireDigest pins.rolloutPolicyDigest

def zeroDigest : String := "sha256:" ++ String.ofList (List.replicate 64 '0')

/-- How records are hashed, texts are hashed and dates are read. A record is hashed with its own
digest set to zeros. -/
structure RecordCodec where
  hashText : String → String
  parsesDate : String → Bool
  dependencies : List CadDependencyRefV2 → String
  descriptor : CadEntityRestoreDescriptorV2 → String
  commitRecord : CadManagedCommitRecord → String
  createdCheckpoint : CadCreatedOutputCheckpointV1 → String
  checkpoint : CadRollbackCheckpointV2 → String

section

variable (codec : RecordCodec)

def hash32 (text : String) : String := String.ofList ((codec.hashText text).toList.take 32)

def CadRollbackCheckpointV2.invalidCheckpoint (message : String) : ProtocolValidationException :=
  ⟨"rollback_conflict", message⟩

def CadRollbackCheckpointV2.buildCheckpointId (receiptId : String) :
    Except ProtocolValidationException String := do
  requireIdentifier receiptId 128
  return "AUTOCAD_MCP_CHECKPOINT_V2_" ++ hash32 codec receiptId

def CadDependencyRefV2.validate (dependency : CadDependencyRefV2) :
    Except ProtocolValidationException Unit := do
  check (dependency.kind ∈ ["layer", "linetype"] ∧ ¬ isBlank dependency.name ∧
      utf16Length dependency.name ≤ 255)
    (CadRollbackCheckpointV2.invalidCheckpoint "Checkpoint v2 dependency is invalid.")
  requireDigest dependency.fingerprint

/-- The body of the loop of `CadRollbackCheckpointV2.Validate`. -/
def CadRestoreEntryV2.validate (snapshotId : String) (entry : CadRestoreEntryV2) :
    Except ProtocolValidationException Unit := do
  requireIdentifier entry.operationId 128
  entry.targetBefore.validate
  requireDigest entry.fingerprintAfter
  requireIdentifier entry.space 64
  requireIdentifier entry.snapshotId 128
  requireDigest entry.dependencyClosureDigest
  requireDigest entry.descriptorDigest
  entry.restoreDescriptor.validate
  check (entry.targetBefore.entityType = entry.restoreDescriptor.entityType ∧
      entry.space = "MODEL_SPACE" ∧ entry.snapshotId = snapshotId ∧
      1 ≤ entry.dependencies.length ∧ entry.dependencies.length ≤ 16 ∧
      entry.dependencyClosureDigest = codec.dependencies entry.dependencies ∧
      entry.descriptorDigest = codec.descriptor entry.restoreDescriptor)
    (CadRollbackCheckpointV2.invalidCheckpoint
      "Checkpoint v2 descriptor provenance or dependency closure is invalid.")
  entry.dependencies.forM CadDependencyRefV2.validate

def CadRollbackCheckpointV2.computeDigest (c : CadRollbackCheckpointV2) : String :=
  codec.checkpoint { c with checkpointDigest := zeroDigest }

/-- `Validate(includeDigest: true)`. -/
def CadRollbackCheckpointV2.validate (c : CadRollbackCheckpointV2) :
    Except ProtocolValidationException Unit := do
  check (c.schemaVersion = checkpointV2Version)
    (invalidCheckpoint "Checkpoint v2 schema version is unsupported.")
  requireIdentifier c.checkpointId 64
  requireIdentifier c.receiptId 128
  requireIdentifier c.documentId 128
  requireIdentifier c.ownerId 128
  requireIdentifier c.deviceId 128
  requireIdentifier c.snapshotId 128
  requireDigest c.planDigest
  requireDigest c.effectDigest
  requireDigest c.targetSetDigest
  let checkpointId ← buildCheckpointId codec c.receiptId
  check (c.checkpointId = checkpointId ∧ 1 ≤ c.restoreEntries.length ∧
      c.restoreEntries.length ≤ maxOperations ∧ codec.parsesDate c.createdAt)
    (invalidCheckpoint "Checkpoint v2 binding is invalid.")
  c.restoreEntries.forM (CadRestoreEntryV2.validate codec c.snapshotId)
  match c.runtimePins.validate with
  | .ok () => pure ()
  | .error _ => throw (invalidCheckpoint "Checkpoint v2 runtime pins are invalid.")
  check (1 ≤ c.restoreBudgetBytes ∧ c.restoreBudgetBytes ≤ maxRestoreBytes)
    (invalidCheckpoint "Checkpoint v2 restore budget is invalid.")
  requireDigest c.checkpointDigest
  check (c.checkpointDigest = c.computeDigest codec)
    (invalidCheckpoint "Checkpoint v2 digest is invalid.")

/-- `string.IsNullOrEmpty`. -/
def isMissing (text : Option String) : Bool := text = none || text = some ""

def requireOptionalDigest : Option String → Except ProtocolValidationException Unit
  | none => .ok ()
  | some digest => requireDigest digest

def CadManagedOperationReceipt.validate (r : CadManagedOperationReceipt) :
    Except ProtocolValidationException Unit := do
  requireIdentifier r.receiptId 128
  requireIdentifier r.documentId 128
  requireDigest r.planDigest
  requireDigest r.effectDigest
  requireDigest r.effectIdentityDigest
  requireDigest r.targetSetDigest
  r.pins.validate
  check (r.createdOutputs.length ≤ maxOutputs ∧ r.modifiedEntities.length ≤ maxOperations)
    (invalid "Managed receipt exceeds bounded operation results.")
  check (r.createdOutputs = [] ∨ ¬ isMissing r.checkpointV1Id ∧ ¬ isMissing r.checkpointV1Digest)
    (invalid "Create-equivalent outputs require checkpoint v1 ownership material.")
  requireOptionalDigest r.checkpointV1Digest
  check (r.modifiedEntities = [] ∨ ¬ isMissing r.checkpointV2Id ∧ ¬ isMissing r.checkpointV2Digest)
    (invalid "Modified entities require checkpoint v2.")
  requireOptionalDigest r.checkpointV2Digest

def CadManagedCommitRecord.invalidRecord : ProtocolValidationException :=
  ⟨"ledger_corrupt", "Drawing contains an invalid Phase 8 operation receipt."⟩

def CadManagedCommitRecord.computeDigest (record : CadManagedCommitRecord) : String :=
  codec.commitRecord { record with receiptDigest := zeroDigest }

def CadManagedCommitRecord.validate (record : CadManagedCommitRecord) :
    Except ProtocolValidationException Unit := do
  check (record.schemaVersion = receiptVersion ∧ codec.parsesDate record.createdAt) invalidRecord
  record.receipt.validate
  requireDigest record.receiptDigest
  check (record.receiptDigest = record.computeDigest codec) invalidRecord

namespace CadCreatedOutputCheckpointV1

def version : String := "cad.created-output.checkpoint/1"

def invalidCheckpoint : ProtocolValidationException :=
  ⟨"rollback_conflict", "Created-output checkpoint v1 is invalid."⟩

/-- The body of the loop of `Validate`, with the two sets that it fills. -/
def visit (seen : List String × List String) (output : CadManagedOutputMapping) :
    Except ProtocolValidationException (List String × List String) := do
  requireIdentifier output.operationId 128
  requireIdentifier output.outputId 128
  requireIdentifier output.entityId 128
  requireDigest output.fingerprint
  check (output.entityType ∈ supportedEntityTypes ∧ output.outputId ∉ seen.1 ∧
    output.entityId ∉ seen.2) invalidCheckpoint
  return (output.outputId :: seen.1, output.entityId :: seen.2)

def computeDigest (c : CadCreatedOutputCheckpointV1) : String :=
  codec.createdCheckpoint { c with checkpointDigest := zeroDigest }

/-- `Validate(includeDigest: true)`; `CadRollbackCheckpointV1` builds the identifier. -/
def validate (c : CadCreatedOutputCheckpointV1) : Except ProtocolValidationException Unit := do
  check (c.schemaVersion = version ∧
      c.checkpointId = "AUTOCAD_MCP_CHECKPOINT_" ++ hash32 codec c.receiptId ∧
      1 ≤ c.createdOutputs.length ∧ c.createdOutputs.length ≤ maxOutputs ∧
      codec.parsesDate c.createdAt) invalidCheckpoint
  requireIdentifier c.receiptId 128
  requireIdentifier c.documentId 128
  requireDigest c.planDigest
  requireDigest c.effectDigest
  requireDigest c.effectIdentityDigest
  requireDigest c.targetSetDigest
  c.pins.validate
  let _ ← c.createdOutputs.foldlM visit ([], [])
  requireDigest c.checkpointDigest
  check (c.checkpointDigest = c.computeDigest codec) invalidCheckpoint

end CadCreatedOutputCheckpointV1

end

end AutocadMcp.Host
