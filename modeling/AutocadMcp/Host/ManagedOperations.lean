import AutocadMcp.Host.CanonicalJson
import AutocadMcp.Lib.Double

/-!
# Managed operations

The typed operations of a sealed plan, what each of them is checked for, and the
check of a batch: operations and outputs are named once, and an entity is the target
of one transform at most. The numbers, limits and messages are those of
`Phase8ManagedOperations.cs`.
-/

namespace AutocadMcp.Host

namespace Phase8ManagedOperationContract

def registryVersion : String := "cad.operation-registry/1"
def checkpointV2Version : String := "cad.rollback.checkpoint/2"
def receiptVersion : String := "cad.operation.receipt/1"
def maxOperations : Nat := 256
def maxOutputs : Nat := 256
def maxRestoreBytes : Nat := 64 * 1024
def maxPolylineVertices : Nat := 4096
def maxCoordinateMagnitude : ℚ := 1000000000
def supportedEntityTypes : List String := ["LINE", "CIRCLE", "LWPOLYLINE"]

end Phase8ManagedOperationContract

open Phase8ManagedOperationContract

/-- `Phase8ManagedOperationRegistry.Invalid`. -/
def invalid (message : String) : ProtocolValidationException := ⟨"program_invalid", message⟩

/-! ## Texts and numbers -/

/-- `string.Length`, in UTF-16 code units. -/
def utf16Length (text : String) : Nat := (text.toList.flatMap JsonText.utf16).length

/-- `char.IsWhiteSpace`. -/
def isWhiteSpace (c : Char) : Bool :=
  c.toNat ∈ [0x20, 0x85, 0xa0, 0x1680, 0x2028, 0x2029, 0x202f, 0x205f, 0x3000] ||
    (0x09 ≤ c.toNat && c.toNat ≤ 0x0d) || (0x2000 ≤ c.toNat && c.toNat ≤ 0x200a)

/-- `string.IsNullOrWhiteSpace`. -/
def isBlank (text : String) : Bool := text.toList.all isWhiteSpace

def requireIdentifier (value : String) (maximum : Nat) : Except ProtocolValidationException Unit :=
  check (value ≠ "" ∧ utf16Length value ≤ maximum ∧
      value.toList.all fun c => c.isAlphanum || c ∈ ['.', '_', '-'])
    (invalid "Managed operation identifier is invalid.")

def isDigest (value : String) : Bool :=
  utf16Length value = 71 && "sha256:".toList <+: value.toList &&
    (value.toList.drop 7).all fun c => c.isDigit || ('a' ≤ c && c ≤ 'f')

def requireDigest (value : String) : Except ProtocolValidationException Unit :=
  check (isDigest value) (invalid "Managed operation digest is invalid.")

def requireFinite (value : Double) (positive : Bool := false) :
    Except ProtocolValidationException Unit :=
  check (value.within maxCoordinateMagnitude ∧ (positive → value.positive))
    (invalid "Managed operation number is outside the bounded limit.")

/-- `Math.PI * 2`. -/
def twoPi : ℚ := 884279719003555 / 140737488355328

structure CadManagedPoint where
  x : Double
  y : Double
  z : Double
  deriving DecidableEq

def CadManagedPoint.validate (p : CadManagedPoint) : Except ProtocolValidationException Unit := do
  requireFinite p.x
  requireFinite p.y
  requireFinite p.z

structure CadManagedVector where
  x : Double
  y : Double
  z : Double
  deriving DecidableEq

def CadManagedVector.validate (v : CadManagedVector) (allowZero : Bool := false) :
    Except ProtocolValidationException Unit := do
  requireFinite v.x
  requireFinite v.y
  requireFinite v.z
  check (allowZero ∨ ¬ (v.x = 0 ∧ v.y = 0 ∧ v.z = 0))
    (invalid "Managed operation vector must not be zero.")

/-! ## Operations -/

structure CadStableEntityRef where
  documentId : String
  entityId : String
  entityType : String
  fingerprint : String
  deriving DecidableEq

def CadStableEntityRef.validate (ref : CadStableEntityRef) :
    Except ProtocolValidationException Unit := do
  requireIdentifier ref.documentId 128
  requireIdentifier ref.entityId 128
  requireDigest ref.fingerprint
  check (ref.entityType ∈ supportedEntityTypes)
    ⟨"capability_missing", "Entity type has no Managed R25 Phase 8 support."⟩

/-- What a `CadManagedOperation` does with its target. -/
inductive CadManagedAction where
  | copy (displacement : CadManagedVector) (outputId : String)
  | linearPattern (step : CadManagedVector) (count : Int) (stableOutputIds : List String)
  | rectangularPattern (columnStep : CadManagedVector) (columnCount : Int)
      (rowStep : CadManagedVector) (rowCount : Int) (stableOutputIds : List String)
  | polarPattern (center : CadManagedPoint) (count : Int) (totalAngleRadians : Double)
      (rotateItems : Bool) (stableOutputIds : List String)
  | offset (signedDistance : Double) (outputId : String)
  | move (displacement : CadManagedVector)
  | rotate (basePoint : CadManagedPoint) (angleRadians : Double)
  | scale (basePoint : CadManagedPoint) (uniformFactor : Double)
  deriving DecidableEq

namespace CadManagedAction

def kind : CadManagedAction → String
  | copy .. => "copy_entity"
  | linearPattern .. => "pattern_linear"
  | rectangularPattern .. => "pattern_rectangular"
  | polarPattern .. => "pattern_polar"
  | offset .. => "offset_entity"
  | move .. => "move_entity"
  | rotate .. => "rotate_entity"
  | scale .. => "scale_entity"

def outputIds : CadManagedAction → List String
  | copy _ outputId => [outputId]
  | linearPattern _ _ ids => ids
  | rectangularPattern _ _ _ _ ids => ids
  | polarPattern _ _ _ _ ids => ids
  | offset _ outputId => [outputId]
  | move .. => []
  | rotate .. => []
  | scale .. => []

/-- The part of `Validate` after that of the target. -/
def validate : CadManagedAction → Except ProtocolValidationException Unit
  | copy displacement _ => displacement.validate
  | linearPattern step count ids => do
      step.validate
      check (2 ≤ count ∧ count ≤ maxOutputs ∧ ids.length = count - 1)
        (invalid "Linear pattern count and output mapping disagree.")
  | rectangularPattern columnStep columnCount rowStep rowCount ids => do
      columnStep.validate
      rowStep.validate
      let outputs := columnCount * rowCount - 1
      check (1 ≤ columnCount ∧ columnCount ≤ maxOutputs ∧ 1 ≤ rowCount ∧ rowCount ≤ maxOutputs ∧
          1 ≤ outputs ∧ outputs ≤ maxOutputs ∧ ids.length = outputs)
        (invalid "Rectangular pattern dimensions and output mapping disagree.")
  | polarPattern center count totalAngleRadians rotateItems ids => do
      center.validate
      requireFinite totalAngleRadians
      check (2 ≤ count ∧ count ≤ maxOutputs ∧ totalAngleRadians ≠ 0 ∧
          totalAngleRadians.within twoPi ∧ rotateItems ∧ ids.length = count - 1)
        (invalid "Polar pattern parameters are unsafe or output mapping disagrees.")
  | offset signedDistance _ => do
      requireFinite signedDistance
      check (signedDistance ≠ 0) (invalid "Offset distance must not be zero.")
  | move displacement => displacement.validate
  | rotate basePoint angleRadians => do
      basePoint.validate
      requireFinite angleRadians
      check (angleRadians ≠ 0 ∧ angleRadians.within twoPi)
        (invalid "Rotation angle is outside the exact transform range.")
  | scale basePoint uniformFactor => do
      basePoint.validate
      requireFinite uniformFactor true
      check (uniformFactor ≠ 1) (invalid "Scale factor must change the target.")

/-- The action changes its target instead of adding to the drawing. -/
def transforms : CadManagedAction → Bool
  | move .. => true
  | rotate .. => true
  | scale .. => true
  | _ => false

end CadManagedAction

structure CadManagedOperation where
  operationId : String
  target : CadStableEntityRef
  action : CadManagedAction
  deriving DecidableEq

def CadManagedOperation.kind (op : CadManagedOperation) : String := op.action.kind

def CadManagedOperation.outputIds (op : CadManagedOperation) : List String := op.action.outputIds

def CadManagedOperation.validate (op : CadManagedOperation) :
    Except ProtocolValidationException Unit := do
  op.target.validate
  op.action.validate

/-! ## The registry -/

inductive CadOperationEffectClass where
  | createEquivalent
  | exactTransform
  deriving DecidableEq

inductive CadCheckpointStrategy where
  | createdOutputsV1
  | restorePreImageV2
  deriving DecidableEq

structure CadManagedOperationDescriptor where
  kind : String
  version : Nat
  effectClass : CadOperationEffectClass
  checkpointStrategy : CadCheckpointStrategy
  capabilityKey : String
  entityTypes : List String
  deriving DecidableEq

namespace Phase8ManagedOperationRegistry

def create (kind : String) (effectClass : CadOperationEffectClass)
    (checkpointStrategy : CadCheckpointStrategy) (capability : String) :
    CadManagedOperationDescriptor :=
  ⟨kind, 1, effectClass, checkpointStrategy, capability ++ ".line-circle-lwpolyline.v1",
    supportedEntityTypes⟩

def entries : List CadManagedOperationDescriptor :=
  [create "copy_entity" .createEquivalent .createdOutputsV1 "cad.op.copy",
    create "pattern_linear" .createEquivalent .createdOutputsV1 "cad.op.pattern.linear",
    create "pattern_rectangular" .createEquivalent .createdOutputsV1 "cad.op.pattern.rectangular",
    create "pattern_polar" .createEquivalent .createdOutputsV1 "cad.op.pattern.polar",
    create "offset_entity" .createEquivalent .createdOutputsV1 "cad.op.offset",
    create "move_entity" .exactTransform .restorePreImageV2 "cad.op.move",
    create "rotate_entity" .exactTransform .restorePreImageV2 "cad.op.rotate",
    create "scale_entity" .exactTransform .restorePreImageV2 "cad.op.scale"]

/-- `Require`. -/
def require (kind entityType : String) :
    Except ProtocolValidationException CadManagedOperationDescriptor :=
  match entries.find? fun entry => entry.kind = kind && entityType ∈ entry.entityTypes with
  | some descriptor => .ok descriptor
  | none => .error ⟨"capability_missing",
      "Managed R25 operation or entity type is not in the Phase 8 allowlist."⟩

/-- The sets that the loop of `ValidateBatch` fills. -/
structure Seen where
  operationIds : List String := []
  outputIds : List String := []
  modifiedEntityIds : List String := []

def visitOutput (seen : Seen) (outputId : String) : Except ProtocolValidationException Seen := do
  requireIdentifier outputId 128
  check (outputId ∉ seen.outputIds) (invalid "Managed operation output IDs must be unique.")
  return { seen with outputIds := outputId :: seen.outputIds }

def visit (seen : Seen) (op : CadManagedOperation) : Except ProtocolValidationException Seen := do
  requireIdentifier op.operationId 128
  check (op.operationId ∉ seen.operationIds) (invalid "Managed operation IDs must be unique.")
  op.validate
  let descriptor ← require op.kind op.target.entityType
  let transforms := descriptor.effectClass = .exactTransform
  check (transforms → op.target.entityId ∉ seen.modifiedEntityIds)
    (invalid "A target entity may be modified only once in a sealed operation batch.")
  op.outputIds.foldlM visitOutput
    { seen with
      operationIds := op.operationId :: seen.operationIds
      modifiedEntityIds :=
        if transforms then op.target.entityId :: seen.modifiedEntityIds
        else seen.modifiedEntityIds }

/-- `ValidateBatch`. -/
def validateBatch (operations : List CadManagedOperation) :
    Except ProtocolValidationException Unit := do
  check (1 ≤ operations.length ∧ operations.length ≤ maxOperations)
    (invalid "Managed operation count is outside the bounded limit.")
  let seen ← operations.foldlM visit {}
  check (seen.outputIds.length ≤ maxOutputs)
    (invalid "Managed operation output count exceeds the bounded limit.")

/-- The registry gives an operation the effect class of its action. -/
theorem require_effectClass {op : CadManagedOperation} {entityType : String}
    {descriptor : CadManagedOperationDescriptor} (h : require op.kind entityType = .ok descriptor) :
    descriptor.effectClass = .exactTransform ↔ op.action.transforms = true := by
  unfold require at h
  split at h
  · rename_i found hfound
    cases h
    have hmem := List.mem_of_find?_eq_some hfound
    have hkind := List.find?_some hfound
    simp only [Bool.and_eq_true, decide_eq_true_eq] at hkind
    have hname := hkind.1
    unfold CadManagedOperation.kind at hname
    cases haction : op.action <;> rw [haction] at hname
    all_goals
      fin_cases hmem <;>
        simp_all [create, CadManagedAction.kind, CadManagedAction.transforms]
  · cases h

/-- The entities that a batch transforms. -/
def targets (operations : List CadManagedOperation) : List String :=
  (operations.filter fun op => op.action.transforms).map fun op => op.target.entityId

theorem foldlM_visitOutput {seen seen' : Seen} {ids : List String}
    (h : ids.foldlM visitOutput seen = .ok seen') :
    seen'.modifiedEntityIds = seen.modifiedEntityIds := by
  refine foldlM_eq_ok_rec (fun _ t => t.modifiedEntityIds = seen.modifiedEntityIds) h rfl ?_
  intro _ id t t' ht hvisit
  obtain ⟨_, -, hvisit⟩ := bind_eq_ok.mp hvisit
  obtain ⟨_, -, hvisit⟩ := bind_eq_ok.mp hvisit
  cases hvisit
  exact ht

/-- What a visited operation adds to the modified entities, which did not hold it. -/
theorem visit_modified {seen seen' : Seen} {op : CadManagedOperation}
    (h : visit seen op = .ok seen') :
    if op.action.transforms then
      op.target.entityId ∉ seen.modifiedEntityIds ∧
        seen'.modifiedEntityIds = op.target.entityId :: seen.modifiedEntityIds
    else seen'.modifiedEntityIds = seen.modifiedEntityIds := by
  obtain ⟨_, -, h⟩ := bind_eq_ok.mp h
  obtain ⟨_, -, h⟩ := bind_eq_ok.mp h
  obtain ⟨_, -, h⟩ := bind_eq_ok.mp h
  obtain ⟨descriptor, hdescriptor, h⟩ := bind_eq_ok.mp h
  obtain ⟨_, honce, h⟩ := bind_eq_ok.mp h
  have hclass := require_effectClass hdescriptor
  have hmodified := foldlM_visitOutput h
  rw [check_eq_ok] at honce
  split_ifs with htransforms
  · have hexact := hclass.mpr htransforms
    rw [hmodified]
    exact ⟨honce hexact, if_pos hexact⟩
  · have hcreate : ¬ descriptor.effectClass = .exactTransform := fun h => htransforms (hclass.mp h)
    rw [hmodified]
    exact if_neg hcreate

/-- A valid batch transforms an entity once at most. -/
theorem validateBatch_targets_nodup {operations : List CadManagedOperation}
    (h : validateBatch operations = .ok ()) : (targets operations).Nodup := by
  obtain ⟨_, -, h⟩ := bind_eq_ok.mp h
  obtain ⟨seen, hseen, -⟩ := bind_eq_ok.mp h
  have hinv : seen.modifiedEntityIds = (targets operations).reverse ∧
      seen.modifiedEntityIds.Nodup := by
    refine foldlM_eq_ok_rec
      (fun ops t => t.modifiedEntityIds = (targets ops).reverse ∧ t.modifiedEntityIds.Nodup)
      hseen ⟨rfl, List.nodup_nil⟩ ?_
    rintro ops op t t' ⟨htargets, hnodup⟩ hvisit
    have hadded := visit_modified hvisit
    cases htransforms : op.action.transforms with
    | true =>
        simp only [htransforms, if_true] at hadded
        obtain ⟨hfresh, hadded⟩ := hadded
        rw [hadded]
        refine ⟨?_, List.nodup_cons.mpr ⟨hfresh, hnodup⟩⟩
        simp [targets, htargets, htransforms]
    | false =>
        simp only [htransforms, Bool.false_eq_true, if_false] at hadded
        rw [hadded]
        refine ⟨?_, hnodup⟩
        simp [targets, htargets, htransforms]
  exact List.nodup_reverse.mp (hinv.1 ▸ hinv.2)

end Phase8ManagedOperationRegistry

end AutocadMcp.Host
