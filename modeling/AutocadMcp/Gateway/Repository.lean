import AutocadMcp.Lib.Checked
import AutocadMcp.Gateway.Store

/-!
# The repositories

The write operations of `SqliteRepository` and `ProgramRepository` on jobs,
events and document write locks, each one transaction: `Except` carries the
database after a commit, and an error leaves the caller with the one it had.
Hashes, encoded sizes and the Program materialization are a parameter.
-/

namespace AutocadMcp.Gateway

/-- What the repositories take from the contract package: hashes (`none` where the
source raises), the size of the canonical encoding and the bounds on JSON, and what
`_materialize` does to the receipts. -/
structure Codec where
  canonicalPayloadHash : Json → Option Digest
  programWirePayloadHash : JobKind → EffectClass → Json → Option Digest
  requestFingerprint : JobKind → EffectClass → Digest → Digest
  jsonBytes : Json → Option Nat
  boundedJson : Json → Bool
  materialize : List ReceiptRow → JobRow → Json → Except Failure (List ReceiptRow)

def conflict (code : String) : Failure := .repositoryConflict code

/-- The limit of `_json` where none is given. -/
def jsonLimit : Nat := 512000

def maxResultBytes : Nat := 256000

/-- A payload bound to a Phase 8 execution plan. -/
def isExecutionBinding (payload : Json) : Bool :=
  match payload.dict? "binding" with
  | some binding => binding.get? "schema_version" = some (.str "cad.execution-binding/1")
  | none => false

/-- `result.get("snapshot") if isinstance(result, dict)`. -/
def snapshotOf (result : Option Json) : Option Json :=
  result.bind (·.get? "snapshot")

/-- `release_write_lock`. -/
def releaseWriteLock (db : Db) (jobId : JobId) : Db :=
  { db with locks := Db.dropLocksOf db.locks jobId }

section

variable (C : Codec)

/-- `_json`. -/
def encode (limit : Nat) (value : Json) : Except Failure Unit :=
  match C.jsonBytes value with
  | none => .error (conflict "payload_invalid")
  | some bytes => check (bytes ≤ limit) (conflict "payload_too_large")

def encodeOption (limit : Nat) : Option Json → Except Failure Unit
  | none => .ok ()
  | some value => encode C limit value

/-- `_append_event` of the two repositories, which differ in the limit on the result. -/
def appendEvent (resultLimit : Nat) (db : Db) (jobId : JobId) (eventType : EventType)
    (state : JobState) (progress : Option Progress) (result : Option Json)
    (errorCode : Option String) : Except Failure Db := do
  encodeOption C 16384 (progress.map Progress.toJson)
  encodeOption C resultLimit result
  return db.pushEvent jobId eventType state progress errorCode result

def validated (current target : JobState) (effectClass : EffectClass) (evidence : Bool) :
    Except Failure Unit :=
  match validateTransition current target effectClass evidence with
  | .ok () => .ok ()
  | .error message => .error (.invalidJobTransition message)

/-- An `UPDATE jobs` whose row count must be one. -/
def casUpdate (db : Db) (jobId : JobId) (cond : JobRow → Bool) (set : JobRow → JobRow)
    (hset : ∀ row, (set row).jobId = row.jobId) : Except Failure Db :=
  match db.updateJob jobId cond set hset with
  | some db => .ok db
  | none => .error (conflict "cas_conflict")

/-- An `UPDATE jobs` that sets a state, and the state event that goes with it. -/
def writeState (resultLimit : Nat) (db : Db) (jobId : JobId) (cond : JobRow → Bool)
    (set : JobRow → JobRow) (hset : ∀ row, (set row).jobId = row.jobId) (target : JobState)
    (result : Option Json) (errorCode : Option String) : Except Failure Db := do
  let db ← casUpdate db jobId cond set hset
  appendEvent C resultLimit db jobId .state target none result errorCode

/-! ## Creation -/

structure CreateJob where
  owner : Owner
  deviceId : DeviceId
  kind : JobKind
  effectClass : EffectClass
  payload : Json
  idempotencyKey : IdempotencyKey
  deadlineAt : Option Deadline
  newJobId : JobId
  newCommandId : CommandId

/-- The row every creation inserts. -/
def queuedRow (jobId : JobId) (owner : Owner) (deviceId : DeviceId) (kind : JobKind)
    (effectClass : EffectClass) (deadlineAt : Option Deadline) (commandId : CommandId)
    (idempotencyKey : IdempotencyKey) (payloadHash : Digest) (payload : Json)
    (requestFingerprint : Digest) : JobRow :=
  { jobId := jobId
    ownerSubject := owner
    deviceId := deviceId
    kind := kind
    effectClass := effectClass
    state := .queued
    stateVersion := 0
    deadlineAt := deadlineAt
    commandId := commandId
    idempotencyKey := idempotencyKey
    payloadHash := payloadHash
    payload := payload
    requestFingerprint := some requestFingerprint
    progress := none
    lastAgentSequence := 0
    result := none
    errorCode := none
    errorSummary := none
    cancelRequestedAt := none }

def payloadHashOf (kind : JobKind) (effectClass : EffectClass) (payload : Json) :
    Except Failure Digest :=
  match if isExecutionBinding payload then C.programWirePayloadHash kind effectClass payload
    else C.canonicalPayloadHash payload with
  | some digest => .ok digest
  | none => .error (conflict "payload_invalid")

/-- `UPDATE jobs SET request_fingerprint = ?`. -/
def fingerprintSet (fingerprint : Digest) (row : JobRow) : JobRow :=
  { row with requestFingerprint := some fingerprint }

@[simp] theorem fingerprintSet_jobId (fingerprint : Digest) (row : JobRow) :
    (fingerprintSet fingerprint row).jobId = row.jobId := rfl

/-- `SqliteRepository.create_job`; the flag is `existing`. -/
def createJob (db : Db) (a : CreateJob) : Except Failure ((JobRow × Bool) × Db) := do
  let payloadHash ← payloadHashOf C a.kind a.effectClass a.payload
  let fingerprint := C.requestFingerprint a.kind a.effectClass payloadHash
  check ((db.getDevice a.owner a.deviceId).isSome) (conflict "not_found")
  match db.jobs.rows.find? (fun r => r.ownerSubject = a.owner ∧ r.deviceId = a.deviceId ∧
      r.idempotencyKey = a.idempotencyKey) with
  | some existing =>
      check (existing.kind = a.kind ∧ existing.effectClass = a.effectClass ∧
          existing.payloadHash = payloadHash ∧
          (existing.requestFingerprint = none ∨ existing.requestFingerprint = some fingerprint))
        (conflict "idempotency_conflict")
      if existing.requestFingerprint = none then
        let db ← casUpdate db existing.jobId (fun r => r.requestFingerprint = none)
          (fingerprintSet fingerprint) (fingerprintSet_jobId fingerprint)
        return ((fingerprintSet fingerprint existing, true), db)
      else
        return ((existing, true), db)
  | none =>
      encode C jsonLimit a.payload
      let row := queuedRow a.newJobId a.owner a.deviceId a.kind a.effectClass a.deadlineAt
        a.newCommandId a.idempotencyKey payloadHash a.payload fingerprint
      let db ← db.insertJob row
      let db ← appendEvent C jsonLimit db a.newJobId .state .queued none none none
      return ((row, false), db)

inductive ProgramAction where
  | preview
  | commit
  | validate
  deriving DecidableEq, Repr

namespace ProgramAction

def name : ProgramAction → String
  | .preview => "preview"
  | .commit => "commit"
  | .validate => "validate"

def kind : ProgramAction → JobKind
  | .preview => .programPreview
  | .commit => .programCommit
  | .validate => .programValidate

def effectClass : ProgramAction → EffectClass
  | .preview | .commit => .write
  | .validate => .read

end ProgramAction

/-- `_ACTIVE_STATES`, which counts `needs_attention` as active. -/
def isActive : JobState → Bool
  | .succeeded | .failed | .cancelled => false
  | _ => true

structure CreateActionJob where
  owner : Owner
  action : ProgramAction
  deviceId : DeviceId
  documentId : DocumentId
  payload : Json
  idempotencyKey : IdempotencyKey
  deadlineAt : Deadline
  acquireWriteLock : Bool
  idempotencyRequestHash : Option Digest
  newJobId : JobId
  newCommandId : CommandId

/-- A returned job, or the receipt of an earlier commit of the same preview. -/
inductive ActionJob where
  | job (row : JobRow)
  | priorReceipt (receipt : ReceiptRow)
  deriving DecidableEq

/-- `value[key]`. -/
def index (value : Json) (key : String) : Except Failure Json :=
  match value.get? key with
  | some field => .ok field
  | none => .error .valueError

/-- `_idempotency`. -/
def idempotencyResponse (db : Db) (owner : Owner) (action : String)
    (idempotencyKey : IdempotencyKey) (requestHash : Digest) : Except Failure (Option Nat) :=
  match db.idempotency.find? (fun r => r.ownerSubject = owner ∧ r.action = action ∧
      r.idempotencyKey = idempotencyKey) with
  | none => .ok none
  | some row => do
      check (row.requestHash = requestHash) (conflict "idempotency_conflict")
      return some row.responseId

/-- The receipt that a commit of an already committed preview returns, after the check of its
digests against the new payload. -/
def priorCommitReceipt (db : Db) (owner : Owner) (payload : Json) :
    Except Failure (Option ReceiptRow) := do
  let expected ← index payload "execution"
  let previewId ← index expected "preview_id"
  match db.receipts.find? (fun r => r.ownerSubject = owner ∧ r.previewId = previewId) with
  | none => return none
  | some receipt =>
      let programDigest ← index expected "program_digest"
      let bindingDigest ← index expected "binding_digest"
      let previewExecutionDigest ← index expected "preview_execution_digest"
      check (receipt.programDigest = programDigest ∧ receipt.bindingDigest = bindingDigest ∧
          receipt.previewExecutionDigest = previewExecutionDigest) (conflict "binding_mismatch")
      return some receipt

/-- The lock of the document, unless its job is no longer active: then the stale row goes. -/
def clearStaleLock (db : Db) (deviceId : DeviceId) (documentId : DocumentId) : LockTable :=
  match db.locks.get? (deviceId, documentId) with
  | some lock =>
      match db.job? lock.jobId with
      | some holder =>
          if isActive holder.state then db.locks
          else db.locks.deleteWhere (fun l => l.document = (deviceId, documentId) ∧
            l.jobId = lock.jobId)
      | none => db.locks
  | none => db.locks

namespace CreateActionJob

def payloadHash (a : CreateActionJob) : Except Failure Digest :=
  match C.programWirePayloadHash a.action.kind a.action.effectClass a.payload with
  | some digest => .ok digest
  | none => .error (conflict "payload_invalid")

def priorReceipt (a : CreateActionJob) (db : Db) : Except Failure (Option ReceiptRow) :=
  if a.action = .commit then priorCommitReceipt db a.owner a.payload else .ok none

/-- The lock rows once stale ones are gone, where the job is to hold a lock. -/
def clearedLocks (a : CreateActionJob) (db : Db) : LockTable :=
  if a.acquireWriteLock then clearStaleLock db a.deviceId a.documentId else db.locks

def acquire (a : CreateActionJob) (locks : LockTable) : Except Failure LockTable :=
  if a.acquireWriteLock then Db.insertLock locks ⟨a.deviceId, a.documentId, a.newJobId⟩
  else .ok locks

end CreateActionJob

/-- `ProgramRepository.create_action_job`; the flag says that the response existed. -/
def createActionJob (db : Db) (a : CreateActionJob) : Except Failure ((ActionJob × Bool) × Db) := do
  let kind := a.action.kind
  let effectClass := a.action.effectClass
  let payloadHash ← a.payloadHash C
  let requestHash := a.idempotencyRequestHash.getD payloadHash
  let fingerprint := C.requestFingerprint kind effectClass payloadHash
  let existingId ← idempotencyResponse db a.owner a.action.name a.idempotencyKey requestHash
  match existingId with
  | some existingId =>
      match db.getJob a.owner existingId with
      | some row => return ((.job row, true), db)
      | none =>
          match db.receipts.find? (fun r => r.ownerSubject = a.owner ∧ r.receiptId = existingId) with
          | some receipt => return ((.priorReceipt receipt, true), db)
          | none => throw (conflict "idempotency_state_invalid")
  | none =>
      check ((db.getDevice a.owner a.deviceId).isSome) (conflict "not_found")
      let prior ← a.priorReceipt db
      match prior with
      | some receipt =>
          let db : Db := { db with
            idempotency := db.idempotency ++
              [⟨a.owner, a.action.name, a.idempotencyKey, requestHash, receipt.receiptId⟩] }
          return ((.priorReceipt receipt, true), db)
      | none =>
          let locks := a.clearedLocks db
          check (a.acquireWriteLock = false ∨ locks.get? (a.deviceId, a.documentId) = none)
            (conflict "document_write_busy")
          encode C jsonLimit a.payload
          let row := queuedRow a.newJobId a.owner a.deviceId kind effectClass (some a.deadlineAt)
            a.newCommandId a.idempotencyKey payloadHash a.payload fingerprint
          let db ← Db.insertJob { db with locks := locks } row
          let db ← appendEvent C maxResultBytes db a.newJobId .state .queued none none none
          let locks ← a.acquire db.locks
          let db : Db := { db with
            locks := locks
            idempotency := db.idempotency ++
              [⟨a.owner, a.action.name, a.idempotencyKey, requestHash, a.newJobId⟩] }
          return ((.job row, false), db)

/-- `ExecutionIntent.action`. -/
inductive IntentAction where
  | programCommit
  | rollbackCommit
  deriving DecidableEq, Repr

def IntentAction.kind : IntentAction → JobKind
  | .programCommit => .programCommit
  | .rollbackCommit => .rollbackCommit

/-- The job that a released intent asks for; `refusal` is what the checks of the intent, its
consent and its deadlines raise. -/
structure ReleaseIntent where
  owner : Owner
  deviceId : DeviceId
  documentId : DocumentId
  action : IntentAction
  payload : Json
  payloadHash : Digest
  requestFingerprint : Digest
  deadlineAt : Deadline
  jobId : JobId
  commandId : CommandId
  idempotencyKey : IdempotencyKey
  refusal : Option Failure

/-- `Phase7Repository.release_intent`, the branch that creates the job and takes the lock. -/
def releaseIntent (db : Db) (a : ReleaseIntent) : Except Failure (JobRow × Db) := do
  match a.refusal with
  | some failure => throw failure
  | none =>
      check (db.jobs.rows.all (fun r => r.jobId ≠ a.jobId ∧ r.commandId ≠ a.commandId ∧
          ¬ (r.ownerSubject = a.owner ∧ r.deviceId = a.deviceId ∧
            r.idempotencyKey = a.idempotencyKey))) (conflict "job_preexists_release")
      let locks := clearStaleLock db a.deviceId a.documentId
      check (∀ l ∈ locks.get? (a.deviceId, a.documentId), l.jobId = a.jobId)
        (conflict "document_write_busy")
      encode C jsonLimit a.payload
      let row := queuedRow a.jobId a.owner a.deviceId a.action.kind .write (some a.deadlineAt)
        a.commandId a.idempotencyKey a.payloadHash a.payload a.requestFingerprint
      let db ← (Db.insertJob { db with locks := locks } row).mapError
        (fun _ => conflict "job_conflict")
      let db : Db := { db with
        events := db.events ++ [⟨a.jobId, 1, .state, .queued, none, none, none⟩] }
      match Db.insertLock db.locks ⟨a.deviceId, a.documentId, a.jobId⟩ with
      | .ok locks => return (row, { db with locks := locks })
      | .error _ => throw (conflict "document_write_busy")

/-! ## Claims, transitions and cancellation -/

/-- `UPDATE jobs SET …` of `claim_job`. -/
def claimSet (row : JobRow) : JobRow :=
  { row with state := .dispatched, stateVersion := row.stateVersion + 1 }

@[simp] theorem claimSet_jobId (row : JobRow) : (claimSet row).jobId = row.jobId := rfl

/-- `claim_job`. -/
def claimJob (db : Db) (jobId : JobId) : Except Failure (Option JobRow × Db) :=
  match db.job? jobId with
  | none => .ok (none, db)
  | some row =>
      if row.state = .queued then
        match db.updateJob jobId
            (fun r => r.state = .queued ∧ r.stateVersion = row.stateVersion) claimSet
            claimSet_jobId with
        | none => .ok (none, db)
        | some db => do
            let db ← appendEvent C jsonLimit db jobId .state .dispatched none none none
            return (db.job? jobId, db)
      else .ok (none, db)

/-- The keyword arguments of `transition_job` and the time of the call. -/
structure Transition where
  target : JobState
  expectedVersion : Option Nat := none
  evidence : Bool := false
  result : Option Json := none
  errorCode : Option String := none
  errorSummary : Option String := none
  now : Instant

/-- `UPDATE jobs SET …` of `transition_job`. -/
def Transition.set (a : Transition) (row : JobRow) : JobRow :=
  { row with
    state := a.target
    stateVersion := row.stateVersion + 1
    result := a.result <|> row.result
    errorCode := a.errorCode <|> row.errorCode
    errorSummary := a.errorSummary <|> row.errorSummary
    cancelRequestedAt :=
      if a.target = .cancelRequested then row.cancelRequestedAt <|> some a.now
      else row.cancelRequestedAt }

@[simp] theorem Transition.set_jobId (a : Transition) (row : JobRow) :
    (a.set row).jobId = row.jobId := rfl

/-- `transition_job`. -/
def transitionJob (db : Db) (jobId : JobId) (a : Transition) :
    Except Failure (Option JobRow × Db) := do
  check ((snapshotOf a.result).all (fun s => !s.isDict)) (conflict "atomic_finalization_required")
  match db.job? jobId with
  | none => return (none, db)
  | some row =>
      check (¬ (a.target = .succeeded ∧ row.kind = .observe))
        (conflict "atomic_finalization_required")
      validated row.state a.target row.effectClass a.evidence
      check (∀ v ∈ a.expectedVersion, row.stateVersion = v) (conflict "cas_conflict")
      encodeOption C jsonLimit a.result
      let db ← writeState C jsonLimit db jobId
        (fun r => r.stateVersion = row.stateVersion ∧ r.state = row.state) a.set a.set_jobId
        a.target a.result a.errorCode
      return (db.job? jobId, db)

/-- The state a cancel request moves a job to; recovery states stay as they are. -/
def cancelTarget (current : JobState) : Option JobState :=
  match current with
  | .queued => some .cancelled
  | .dispatched | .acknowledged | .running => some .cancelRequested
  | .cancelRequested | .reconnectPending | .outcomeUnknown => some current
  | _ => none

/-- A cancel request that leaves the state as it is crosses no edge. -/
def validatedMove (current target : JobState) (effectClass : EffectClass) :
    Except Failure Unit :=
  if target = current then .ok () else validated current target effectClass false

/-- `UPDATE jobs SET …` of `request_job_cancel`. -/
def cancelSet (target : JobState) (now : Instant) (row : JobRow) : JobRow :=
  { row with state := target, stateVersion := row.stateVersion + 1, cancelRequestedAt := some now }

@[simp] theorem cancelSet_jobId (target : JobState) (now : Instant) (row : JobRow) :
    (cancelSet target now row).jobId = row.jobId := rfl

/-- `request_job_cancel`. -/
def requestJobCancel (db : Db) (jobId : JobId) (expectedVersion : Option Nat) (now : Instant) :
    Except Failure (Option JobRow × Db) := do
  match db.job? jobId with
  | none => return (none, db)
  | some row =>
      if isTerminal row.state ∨ row.cancelRequestedAt.isSome then
        return (some row, db)
      else
        check (∀ v ∈ expectedVersion, row.stateVersion = v) (conflict "cas_conflict")
        match cancelTarget row.state with
        | none => throw (conflict "invalid_state")
        | some target =>
            validatedMove row.state target row.effectClass
            let db ← writeState C jsonLimit db jobId
              (fun r => r.state = row.state ∧ r.stateVersion = row.stateVersion ∧
                r.cancelRequestedAt = none) (cancelSet target now) (cancelSet_jobId target now)
              target (some (.obj [("cancel_requested", .bool true)])) none
            return (db.job? jobId, db)

/-- `UPDATE jobs SET …` of `append_progress`. -/
def progressSet (progress : Progress) (row : JobRow) : JobRow :=
  { row with progress := some progress, lastAgentSequence := progress.sequence }

@[simp] theorem progressSet_jobId (progress : Progress) (row : JobRow) :
    (progressSet progress row).jobId = row.jobId := rfl

/-- `append_progress`. -/
def appendProgress (db : Db) (jobId : JobId) (progress : Progress)
    (expectedVersion : Option Nat) : Except Failure (Option JobRow × Db) := do
  match db.job? jobId with
  | none => return (none, db)
  | some row =>
      check (isTerminal row.state = false) (conflict "terminal_immutable")
      check (row.state ∈ [.acknowledged, .running, .cancelRequested])
        (conflict "message_order_invalid")
      check (∀ v ∈ expectedVersion, row.stateVersion = v) (conflict "cas_conflict")
      check (row.lastAgentSequence ≤ progress.sequence) (conflict "sequence_rejected")
      if progress.sequence = row.lastAgentSequence ∧ row.progress.isSome then
        check (row.progress = some progress) (conflict "sequence_rejected")
        return (some row, db)
      else
        encode C 16384 progress.toJson
        let db ← casUpdate db jobId
          (fun r => r.state = row.state ∧ r.stateVersion = row.stateVersion)
          (progressSet progress) (progressSet_jobId progress)
        let db ← appendEvent C jsonLimit db jobId .progress row.state (some progress) none none
        return (db.job? jobId, db)

/-! ## Terminal results -/

/-- What a terminal result writes besides the job, in the same transaction: it may raise, and
it may change the write locks. -/
abbrev TerminalHook := JobRow → LockTable → Except Failure LockTable

/-- The arguments that both finalizations share. -/
structure Finalize where
  jobId : JobId
  deviceId : DeviceId
  commandId : CommandId
  payloadHash : Digest
  target : JobState
  result : Option Json := none
  errorCode : Option String := none
  errorSummary : Option String := none
  sessionId : Option SessionId := none
  agentSequence : Option Int := none
  terminalHook : Option TerminalHook := none

/-- `UPDATE jobs SET …` of the finalizations. -/
def Finalize.set (a : Finalize) (row : JobRow) : JobRow :=
  { row with
    state := a.target
    stateVersion := row.stateVersion + 1
    result := a.result
    errorCode := a.errorCode
    errorSummary := a.errorSummary
    lastAgentSequence := a.agentSequence.getD row.lastAgentSequence }

@[simp] theorem Finalize.set_jobId (a : Finalize) (row : JobRow) :
    (a.set row).jobId = row.jobId := rfl

def Finalize.runHook (a : Finalize) (row : JobRow) (db : Db) : Except Failure Db :=
  match a.terminalHook with
  | none => .ok db
  | some hook => do
      let locks ← hook row db.locks
      return { db with locks := locks }

/-- A terminal result for a job that is terminal already: an exact repeat is acknowledged
(the flag is `duplicate_terminal`), anything else is a conflict. -/
def replayTerminal (db : Db) (row : JobRow) (a : Finalize) :
    Except Failure (Option (JobRow × Bool) × Db) := do
  check (row.state = a.target ∧ row.result = a.result ∧ row.errorCode = a.errorCode ∧
    row.errorSummary = a.errorSummary) (conflict "terminal_result_conflict")
  let db ← a.runHook row db
  return (some (row, true), db)

/-- `_insert_snapshot`. -/
def insertSnapshot (db : Db) (job : JobRow) (snapshot : Json) : Except Failure Db := do
  let expectedLevel := (job.payload.get? "observation_level").getD (.str "summary")
  let level := (snapshot.get? "observation_level").getD (.str "summary")
  let drawing := (snapshot.get? "drawing").getD (.obj [])
  let entities := (snapshot.get? "entities").getD (.arr [])
  let entitySummary := (snapshot.get? "entity_summary").getD (.obj [])
  let revisionEvidence := ((snapshot.get? "revision_evidence").filter Json.truthy).getD (.obj [])
  match (snapshot.get? "snapshot_id").bind Json.str?,
      (snapshot.get? "document_revision").bind Json.str?, level with
  | some snapshotId, some documentRevision, .str levelName =>
      check (snapshotId ≠ "" ∧ snapshotId.utf8ByteSize ≤ 128 ∧
          documentRevision ≠ "" ∧ documentRevision.utf8ByteSize ≤ 256 ∧
          (levelName = "summary" ∨ levelName = "detail") ∧ level = expectedLevel ∧
          drawing.isDict ∧ entitySummary.isDict ∧ entities.isList ∧ revisionEvidence.isDict)
        (conflict "snapshot_invalid")
      check (db.snapshots.all (fun s => s.jobId ≠ job.jobId ∧ s.snapshotId ≠ snapshotId))
        (conflict "snapshot_conflict")
      encode C jsonLimit drawing
      encode C jsonLimit entitySummary
      encode C jsonLimit entities
      return { db with
        snapshots := db.snapshots ++ [⟨snapshotId, job.jobId, documentRevision, levelName⟩] }
  | _, _, _ => throw (conflict "snapshot_invalid")

def insertSnapshotOption (db : Db) (job : JobRow) : Option Json → Except Failure Db
  | some snapshot => insertSnapshot C db job snapshot
  | none => .ok db

/-- `finalize_job_result`. -/
def finalizeJobResult (db : Db) (a : Finalize) (snapshot : Option Json)
    (expectedVersion : Option Nat) (evidence : Bool) :
    Except Failure (Option (JobRow × Bool) × Db) := do
  check (isTerminal a.target) (conflict "terminal_state_required")
  check (∀ s ∈ a.agentSequence, 0 ≤ s) (conflict "sequence_rejected")
  let resultSnapshot := snapshotOf a.result
  let snapshot := snapshot <|> resultSnapshot.filter Json.isDict
  check (snapshot = none ∨ snapshot = resultSnapshot) (conflict "snapshot_result_invalid")
  check (snapshot = none ∨ a.target = .succeeded) (conflict "snapshot_result_invalid")
  match db.job? a.jobId with
  | none => return (none, db)
  | some row =>
      check (row.deviceId = a.deviceId ∧ row.commandId = a.commandId)
        (conflict "message_identity_mismatch")
      check (row.payloadHash = a.payloadHash) (conflict "payload_mismatch")
      check (∀ s ∈ a.sessionId, db.sessionActive s a.deviceId) (conflict "session_mismatch")
      if isTerminal row.state then
        replayTerminal db row a
      else
        check (∀ v ∈ expectedVersion, row.stateVersion = v) (conflict "cas_conflict")
        validated row.state a.target row.effectClass evidence
        check (∀ s ∈ a.agentSequence, row.lastAgentSequence < s ∨
            (s = row.lastAgentSequence ∧ row.lastAgentSequence = 0 ∧ row.progress = none))
          (conflict "sequence_rejected")
        check (¬ (row.kind = .observe ∧ a.target = .succeeded ∧ snapshot = none))
          (conflict "snapshot_required")
        let db ← insertSnapshotOption C db row snapshot
        let db ← a.runHook row db
        encodeOption C jsonLimit a.result
        let db ← writeState C jsonLimit db a.jobId
          (fun r => r.state = row.state ∧ r.stateVersion = row.stateVersion) a.set a.set_jobId
          a.target a.result a.errorCode
        return ((db.job? a.jobId).map (·, false), db)

/-- The checks of a succeeded Program result, and its materialization where the payload is not
bound to a Phase 8 plan. -/
def materializeSucceeded (db : Db) (row : JobRow) (result : Option Json) : Except Failure Db := do
  match result with
  | none => throw (conflict "program_result_invalid")
  | some result =>
      check result.isDict (conflict "program_result_invalid")
      check (C.boundedJson result) .valueError
      match C.jsonBytes result with
      | none => throw .valueError
      | some bytes =>
          check (bytes ≤ maxResultBytes) (conflict "program_result_invalid")
          if isExecutionBinding row.payload then
            return db
          else
            let receipts ← C.materialize db.receipts row result
            return { db with receipts := receipts }

def materializeTarget (db : Db) (row : JobRow) (a : Finalize) : Except Failure Db :=
  if a.target = .succeeded then materializeSucceeded C db row a.result else .ok db

/-- `ProgramRepository.finalize_program_job`. Its target is not checked to be terminal. -/
def finalizeProgramJob (db : Db) (a : Finalize) :
    Except Failure (Option (JobRow × Bool) × Db) := do
  match db.job? a.jobId with
  | none => return (none, db)
  | some row =>
      check (row.deviceId = a.deviceId ∧ row.commandId = a.commandId ∧
        row.payloadHash = a.payloadHash) (conflict "message_identity_mismatch")
      check (∀ s ∈ a.sessionId, db.sessionActive s a.deviceId) (conflict "session_mismatch")
      if isTerminal row.state then
        replayTerminal db row a
      else
        validated row.state a.target row.effectClass true
        let db ← materializeTarget C db row a
        let db ← a.runHook row db
        check (row.lastAgentSequence ≤ a.agentSequence.getD row.lastAgentSequence)
          (conflict "sequence_rejected")
        encodeOption C maxResultBytes a.result
        let db ← writeState C maxResultBytes db a.jobId
          (fun r => r.state = row.state ∧ r.stateVersion = row.stateVersion) a.set a.set_jobId
          a.target a.result a.errorCode
        let db := releaseWriteLock db a.jobId
        return ((db.job? a.jobId).map (·, false), db)

end

/-! ## Sessions -/

/-- The active session of a device is the given one, any other is disconnected. -/
def SessionRow.supersede (deviceId : DeviceId) (sessionId : SessionId) (s : SessionRow) :
    SessionRow :=
  { s with active := if s.deviceId = deviceId then decide (s.sessionId = sessionId) else s.active }

/-- `activate_session` once the hashes of the handshake have been checked. -/
def activateSession (db : Db) (deviceId : DeviceId) (sessionId : SessionId) :
    Except Failure (Unit × Db) := do
  check ((db.devices.get? deviceId).isSome) (conflict "not_found")
  check (∀ s ∈ db.sessions.get? sessionId, s.deviceId = deviceId) (conflict "session_mismatch")
  let sessions := db.sessions.mapRows (SessionRow.supersede deviceId sessionId) (fun _ => rfl)
  match sessions.get? sessionId with
  | some _ => return ((), { db with sessions := sessions })
  | none =>
      match sessions.insert ⟨sessionId, deviceId, true⟩ with
      | some sessions => return ((), { db with sessions := sessions })
      | none => throw .integrityError

/-- `close_session`. -/
def closeSession (db : Db) (deviceId : DeviceId) (sessionId : SessionId) :
    Except Failure (Bool × Db) := do
  match db.sessions.get? sessionId with
  | none => return (false, db)
  | some session =>
      check (session.deviceId = deviceId) (conflict "session_mismatch")
      return (session.active, { db with
        sessions := db.sessions.modify sessionId (fun s => { s with active := false })
          (fun _ => rfl) })

/-- `mark_sessions_disconnected`. -/
def markSessionsDisconnected (db : Db) : Db :=
  { db with sessions := db.sessions.mapRows (fun s => { s with active := false }) (fun _ => rfl) }

end AutocadMcp.Gateway
