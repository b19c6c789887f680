import AutocadMcp.Contracts.Json

/-!
# The messages of `cad.agent`

What the Gateway and the Agent send each other: commands, cancels and reconcile
requests one way; acknowledgements, progress, the three result types and
reconcile answers the other way. Identifiers and digests are numbers, as both
sides only compare them. Texts that no receiver reads (`error_message`,
`message_id`) are left out.
-/

namespace AutocadMcp

abbrev DeviceId := Nat
abbrev JobId := Nat
abbrev CommandId := Nat
abbrev SessionId := Nat
abbrev IdempotencyKey := Nat
abbrev Digest := Nat
abbrev Instant := Nat

inductive EffectClass where
  | read
  | write
  deriving DecidableEq, Repr

/-- The `kind` column. `other` is any text that no phase of the Gateway uses. -/
inductive JobKind where
  | observe
  | writeFixture
  | programPreview
  | programCommit
  | programValidate
  | receiptLookup
  | checkpointLookup
  | rollbackPreview
  | rollbackCommit
  | rollbackValidate
  | other (name : String)
  deriving DecidableEq, Repr

namespace JobKind

def name : JobKind → String
  | .observe => "observe"
  | .writeFixture => "write_fixture"
  | .programPreview => "program_preview"
  | .programCommit => "program_commit"
  | .programValidate => "program_validate"
  | .receiptLookup => "receipt_lookup"
  | .checkpointLookup => "checkpoint_lookup"
  | .rollbackPreview => "rollback_preview"
  | .rollbackCommit => "rollback_commit"
  | .rollbackValidate => "rollback_validate"
  | .other name => name

/-- `program_preview`, `program_commit` and `program_validate`. -/
def isProgram : JobKind → Bool
  | .programPreview | .programCommit | .programValidate => true
  | _ => false

/-- The rollback and lookup kinds, which share one wire type. -/
def isRollback : JobKind → Bool
  | .receiptLookup | .checkpointLookup | .rollbackPreview | .rollbackCommit
  | .rollbackValidate => true
  | _ => false

end JobKind

/-- A `deadline_at` field: an instant, or text that is not a timestamp. -/
inductive Deadline where
  | at (instant : Instant)
  | malformed
  deriving DecidableEq, Repr

/-! ## Gateway to Agent -/

/-- The three command types are told apart by their kind: the Program and rollback kinds carry a
binding, the others a payload. -/
structure CommandMessage where
  sessionId : SessionId
  deviceId : DeviceId
  jobId : JobId
  commandId : CommandId
  idempotencyKey : IdempotencyKey
  payloadHash : Digest
  kind : JobKind
  effectClass : EffectClass
  deadlineAt : Option Deadline
  binding : Json
  payload : Json
  deriving DecidableEq

structure CancelMessage where
  sessionId : SessionId
  deviceId : DeviceId
  jobId : JobId
  commandId : CommandId
  reason : String
  deriving DecidableEq, Repr

structure ReconcileCommandDescriptor where
  jobId : JobId
  commandId : CommandId
  payloadHash : Digest
  deriving DecidableEq, Repr

structure ReconcileMessage where
  sessionId : SessionId
  deviceId : DeviceId
  commands : List ReconcileCommandDescriptor
  deriving DecidableEq, Repr

inductive GatewayMessage where
  | command (message : CommandMessage)
  | cancel (message : CancelMessage)
  | reconcile (message : ReconcileMessage)
  deriving DecidableEq

/-! ## Agent to Gateway -/

/-- The fields that every message about a command carries. -/
structure Envelope where
  sessionId : SessionId
  deviceId : DeviceId
  jobId : JobId
  commandId : CommandId
  sequence : Int
  payloadHash : Digest
  deriving DecidableEq, Repr

inductive AckStatus where
  | accepted
  | duplicate
  | rejected
  | alreadyTerminal
  deriving DecidableEq, Repr

/-- The status of a result. Only the typed results of a commit may carry `outcomeUnknown`. -/
inductive ResultStatus where
  | succeeded
  | failed
  | cancelled
  | outcomeUnknown
  deriving DecidableEq, Repr

inductive ReconcileStatus where
  | notStarted
  | started
  | terminal
  deriving DecidableEq, Repr

structure AckMessage extends Envelope where
  status : AckStatus
  idempotencyKey : IdempotencyKey
  reason : Option String
  deriving DecidableEq, Repr

structure ProgressMessage extends Envelope where
  phase : String
  percent : Int
  message : String
  deriving DecidableEq, Repr

/-- The untyped result, which names no kind and no binding. -/
structure ResultMessage extends Envelope where
  status : ResultStatus
  result : Option Json
  errorCode : Option String
  deriving DecidableEq

/-- `ProgramResultMessage` and `RollbackResultMessage`, which differ in their kinds. -/
structure TypedResultMessage extends Envelope where
  kind : JobKind
  binding : Json
  status : ResultStatus
  result : Option Json
  errorCode : Option String
  deriving DecidableEq

structure ReconcileResultMessage extends Envelope where
  status : ReconcileStatus
  resultStatus : Option ResultStatus
  result : Option Json
  errorCode : Option String
  kind : Option JobKind
  binding : Option Json
  deriving DecidableEq

inductive AgentMessage where
  | ack (message : AckMessage)
  | progress (message : ProgressMessage)
  | result (message : ResultMessage)
  | programResult (message : TypedResultMessage)
  | rollbackResult (message : TypedResultMessage)
  | reconcileResult (message : ReconcileResultMessage)
  deriving DecidableEq

def AgentMessage.envelope : AgentMessage → Envelope
  | .ack m => m.toEnvelope
  | .progress m => m.toEnvelope
  | .result m => m.toEnvelope
  | .programResult m => m.toEnvelope
  | .rollbackResult m => m.toEnvelope
  | .reconcileResult m => m.toEnvelope

end AutocadMcp
