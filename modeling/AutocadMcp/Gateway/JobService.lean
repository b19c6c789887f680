import AutocadMcp.Lib.Effect
import AutocadMcp.Contracts.Validation
import AutocadMcp.Gateway.Calls
import AutocadMcp.Gateway.DispatchPolicy

/-!
# The job service

`DurableJobService` and the parts of `Phase7RecoveryService` that move jobs. A
handler reads and writes the Gateway's state and may raise; each repository call
in it is a transaction of its own. No repository call suspends, so a handler
runs in one piece up to a send. The waiters of the callers are left out.
-/

namespace AutocadMcp.Gateway

/-- The settings of the service and what it takes from the contract package: the hash of a typed
command or the error of building it, the C1 checks of an observation, and the class of a
result. -/
structure Config where
  codec : Codec
  policy : Policy
  fits : PayloadFits
  hasProgramRepository : Bool
  /-- `phase7_recovery_service`, with its `cases_enabled`. -/
  phase7 : Option Bool
  programCommandHash : JobRow → Except Failure Digest
  rollbackCommandHash : JobRow → Except Failure Digest
  buildCommand : JobRow → Except Failure Unit
  validateC1Observation : Json → Json → Json → Option String
  normalizeC1Snapshot : Json → Json

/-- The state that the handlers share; `sent` records what was handed to the sockets. -/
structure GatewayState where
  db : Db
  /-- `_connections`: the newest connection of each device. -/
  registry : List Connection
  sent : List GatewayMessage

/-- What one handler meets: the clock, the freshness of a session, whether a send succeeds, where
the database is locked or the process ends, and which of the Phase 7 writes raise. -/
structure Env where
  now : Instant
  fresh : SessionId → Bool := fun _ => true
  unavailable : GatewayState → Bool := fun _ => false
  sendOk : Bool := true
  ensureCase : JobId → Option Failure := fun _ => none
  prepareEvidence : Option Failure := none
  insertEvidence : Option Failure := none
  prepareReceipt : Option Failure := none
  insertReceipt : Option Failure := none

abbrev Handler := Eff Failure GatewayState

/-- What can happen to the state: a repository call, a send, and what the sockets and the
identity service write besides. -/
inductive Action where
  | call (c : Call)
  | send (message : GatewayMessage)
  | register (registry : List Connection)
  | enrol (device : DeviceRow)

def Action.run (C : Codec) (g : GatewayState) : Action → GatewayState
  | .call c => { g with db := c.run C g.db }
  | .send message => { g with sent := g.sent ++ [message] }
  | .register registry => { g with registry := registry }
  | .enrol device => { g with db := { g.db with devices := g.db.devices.put device } }

/-- `registry.get`. -/
def GatewayState.current? (g : GatewayState) (deviceId : DeviceId) : Option Connection :=
  g.registry.find? (fun c => c.deviceId = deviceId)

/-- `registry.is_current`. -/
def GatewayState.isCurrent (g : GatewayState) (deviceId : DeviceId) (sessionId : SessionId) : Bool :=
  (g.current? deviceId).any (fun c => c.sessionId = sessionId)

/-! ## Primitives -/

def perform {α : Type} (env : Env) (op : Db → Except Failure (α × Db)) : Handler α :=
  Eff.attempt fun g =>
    if env.unavailable g then .error .operationalError
    else
      match op g.db with
      | .ok (a, db) => .ok (a, { g with db := db })
      | .error e => .error e

/-- What is handed to a socket may arrive even where the send raises. -/
def send (env : Env) (message : GatewayMessage) : Handler Unit := do
  Eff.attempt fun g => .ok ((), { g with sent := g.sent ++ [message] })
  if env.sendOk then pure () else throw .sendFailed

/-- `_get_internal_job`. -/
def getInternalJob (jobId : JobId) : Handler (Option JobRow) := do
  let g ← get
  return g.db.job? jobId

/-- `except (InvalidJobTransition, RepositoryConflict)`. -/
def Failure.isRace : Failure → Bool
  | .repositoryConflict _ | .invalidJobTransition _ => true
  | _ => false

def swallowRaces (m : Handler Unit) : Handler Unit :=
  tryCatch m fun e => if e.isRace then pure () else throw e

/-- Reports a lost race to the caller as a job error. -/
def raceAs {α : Type} (code : String) (job : JobRow) (m : Handler α) : Handler α :=
  tryCatch m fun e =>
    if e.isRace then throw (.durableJobError code job.jobId job.state) else throw e

def jobError (code : String) (job : JobRow) : Failure :=
  .durableJobError code job.jobId job.state

section

variable (cfg : Config) (env : Env)

def transition (jobId : JobId) (a : Transition) : Handler (Option JobRow) :=
  perform env fun db => transitionJob cfg.codec db jobId a

/-- A transition without further arguments. -/
def moveTo (target : JobState) : Transition := { target := target, now := env.now }

/-- `release_write_lock`. -/
def releaseLock (jobId : JobId) : Handler Unit :=
  perform env fun db => .ok ((), releaseWriteLock db jobId)

/-- `_release_program_lock_if_terminal`. -/
def releaseProgramLockIfTerminal : Option JobRow → Handler Unit
  | some row =>
      if cfg.hasProgramRepository ∧ (row.kind = .programPreview ∨ row.kind = .programCommit) ∧
          isTerminal row.state then
        releaseLock env row.jobId
      else pure ()
  | none => pure ()

/-- `ensure_recovery_case`, which writes no job: it may only raise. -/
def ensureCase (jobId : JobId) : Handler Unit :=
  match cfg.phase7, env.ensureCase jobId with
  | some true, some e => throw e
  | _, _ => pure ()

/-! ## Recovery -/

/-- A job whose command may have reached the Agent is in one of these states. -/
def isOpen : JobState → Bool
  | .dispatched | .acknowledged | .running | .cancelRequested => true
  | _ => false

/-- An open job in one of these states has been accepted by the Agent. -/
def isStarted : JobState → Bool
  | .acknowledged | .running | .cancelRequested => true
  | _ => false

/-- Where a lost session or a restart leaves an open job. -/
def lostTarget (job : JobRow) : JobState :=
  if job.effectClass = .write ∧ isStarted job.state then .outcomeUnknown else .reconnectPending

/-- `_freeze_for_conflict`, its first part: an open job becomes unknown first. -/
def freezeOpen (job : JobRow) : Handler JobRow := do
  if isOpen job.state then
    let updated ← transition cfg env job.jobId
      { moveTo env .outcomeUnknown with expectedVersion := some job.stateVersion }
    return updated.getD job
  else
    return job

/-- `_freeze_for_conflict`. -/
def freezeForConflict (job : JobRow) : Handler Unit :=
  tryCatch
    (do
      let current ← freezeOpen cfg env job
      if current.state = .reconnectPending ∨ current.state = .outcomeUnknown then
        let _ ← transition cfg env current.jobId
          { moveTo env .needsAttention with
            expectedVersion := some current.stateVersion
            evidence := true
            errorCode := some "evidence_conflict"
            errorSummary := some "Conflicting durable execution evidence requires support" }
        pure ()
      else pure ())
    (fun e => do
      if e.isRace then
        let g ← get
        match g.db.getJob job.ownerSubject job.jobId with
        | some latest => if latest.state = .needsAttention then pure () else throw e
        | none => throw e
      else throw e)

/-- `record_reconcile_outcome`; only a conflict moves the job. -/
def recordReconcileOutcome (job : JobRow) (isConflict : Bool) : Handler Unit := do
  if cfg.phase7 = some true then
    let g ← get
    match g.db.getJob job.ownerSubject job.jobId with
    | some current =>
        if isConflict then
          freezeForConflict cfg env current
        ensureCase cfg env job.jobId
    | none => pure ()
  else pure ()

/-- The conflict branch of `Phase7RecoveryService.append_evidence`. -/
def evidenceConflict (owner : Owner) (jobId : JobId) : Handler Unit := do
  let g ← get
  match g.db.getJob owner jobId with
  | some job =>
      freezeForConflict cfg env job
      ensureCase cfg env jobId
  | none => pure ()
  throw (conflict "evidence_conflict")

/-- The body of `handle_disconnect`. -/
def loseJob (job : JobRow) : Handler Unit :=
  if isOpen job.state then
    swallowRaces do
      let updated ← transition cfg env job.jobId (moveTo env (lostTarget job))
      if lostTarget job = .outcomeUnknown ∧ updated.isSome then
        ensureCase cfg env job.jobId
  else pure ()

def handleDisconnect (deviceId : DeviceId) : Handler Unit := do
  let g ← get
  Eff.forEach (g.db.jobsForDevice deviceId) (loseJob cfg env)

/-- The recovery of `initialize`. -/
def recoverJob (job : JobRow) : Handler Unit :=
  if isOpen job.state then
    swallowRaces do
      let _ ← transition cfg env job.jobId (moveTo env (lostTarget job))
      pure ()
  else pure ()

/-- The part of `initialize` that touches sessions and jobs. -/
def startupRecovery : Handler Unit := do
  perform env fun db => .ok ((), markSessionsDisconnected db)
  let g ← get
  Eff.forEach g.db.allNonterminalJobs (recoverJob cfg env)

/-! ## Deadlines -/

/-- The deadline has passed; a text that is no timestamp counts as passed. -/
def isExpired (now : Instant) : Option Deadline → Bool
  | none => false
  | some (.at instant) => instant ≤ now
  | some .malformed => true

/-- The state that an expired deadline or a mismatched payload leaves a job in. -/
def settledTarget (job : JobRow) : JobState :=
  if job.state = .outcomeUnknown then .needsAttention else .failed

/-- The body of `sweep_deadlines`. -/
def sweepJob (job : JobRow) : Handler Unit :=
  if isExpired env.now job.deadlineAt then
    if job.kind = .programCommit ∧ job.state = .outcomeUnknown then
      ensureCase cfg env job.jobId
    else
      swallowRaces do
        let _ ← transition cfg env job.jobId
          { moveTo env (settledTarget job) with
            evidence := job.state = .reconnectPending
            errorCode := some "deadline_expired"
            errorSummary := some (
              if settledTarget job = .needsAttention then
                "Job deadline expired with an unknown Agent outcome"
              else "Job deadline expired before completion") }
        pure ()
  else pure ()

def sweepDeadlines : Handler Unit := do
  let g ← get
  Eff.forEach g.db.allNonterminalJobs (sweepJob cfg env)

/-! ## Dispatch -/

/-- `_require_dispatch_capability`. -/
def requireDispatchCapability (job : JobRow) (connection : Option Connection) : Handler Unit := do
  let g ← get
  let connection := connection <|> g.current? job.deviceId
  let device := g.db.getDevice job.ownerSubject job.deviceId
  match dispatchFailure cfg.policy job connection device with
  | none => pure ()
  | some (code, summary) =>
      let updated ← raceAs code job <| transition cfg env job.jobId
        { moveTo env .failed with errorCode := some code, errorSummary := some summary }
      releaseProgramLockIfTerminal cfg env updated
      throw (jobError code (updated.getD job))

/-- `_program_result_binding`: the execution binding that the job was created with. -/
def programResultBinding (job : JobRow) : Except Failure Json :=
  match job.payload.dict? "binding" with
  | some binding =>
      if binding.get? "schema_version" = some (.str "cad.execution-binding/1") then .ok binding
      else executionBinding job.payload
  | none => executionBinding job.payload
where
  executionBinding (payload : Json) : Except Failure Json := do
    let execution ← index payload "execution"
    let pins ← index execution "pins"
    return .obj [
      ("capability_manifest_hash", ← index pins "capability_manifest_hash"),
      ("document_id", ← index execution "document_id"),
      ("document_revision", ← index execution "expected_document_revision"),
      ("execution_digest", ← index execution "execution_digest"),
      ("host_family", ← index pins "host_family"),
      ("host_version", ← index pins "host_version"),
      ("operation_registry_hash", ← index pins "operation_registry_hash"),
      ("operation_registry_version", ← index pins "registry_version"),
      ("package_hash", ← index pins "package_hash"),
      ("package_id", ← index pins "package_id"),
      ("package_version", ← index pins "package_version"),
      ("policy_version", ← index pins "policy_version"),
      ("program_digest", ← index execution "program_digest"),
      ("runtime_id", ← index pins "runtime_id"),
      ("runtime_role", ← index pins "runtime_role")]

/-- The binding that a command of the job carries. -/
def commandBinding (job : JobRow) : Except Failure Json :=
  if job.kind.isProgram then programResultBinding job
  else if job.kind.isRollback then index job.payload "binding"
  else .ok .null

def commandOf (connection : Connection) (job : JobRow) (binding : Json) : CommandMessage where
  sessionId := connection.sessionId
  deviceId := job.deviceId
  jobId := job.jobId
  commandId := job.commandId
  idempotencyKey := job.idempotencyKey
  payloadHash := job.payloadHash
  kind := job.kind
  effectClass := job.effectClass
  deadlineAt := job.deadlineAt
  binding := binding
  payload := job.payload

def fail {α : Type} (code summary : String) (job : JobRow) (release : Bool) : Handler α := do
  let updated ← transition cfg env job.jobId
    { moveTo env .failed with errorCode := some code, errorSummary := some summary }
  if release then
    releaseProgramLockIfTerminal cfg env updated
  throw (jobError code (updated.getD job))

def liftExcept {α : Type} : Except Failure α → Handler α
  | .ok a => pure a
  | .error e => throw e

/-- The typed command, whose hash must be the job's. -/
def buildCommandOf (connection : Connection) (job : JobRow) : Handler CommandMessage := do
  let binding ← liftExcept (commandBinding job)
  if job.kind.isProgram then
    let hash ← liftExcept (cfg.programCommandHash job)
    if hash ≠ job.payloadHash then
      fail cfg env "payload_mismatch" "Typed Program command hash did not match durable job" job
        true
    else return commandOf connection job binding
  else if job.kind.isRollback then
    let hash ← liftExcept (cfg.rollbackCommandHash job)
    if hash ≠ job.payloadHash then
      fail cfg env "payload_mismatch" "Typed rollback command hash did not match durable job" job
        false
    else return commandOf connection job binding
  else
    liftExcept (cfg.buildCommand job)
    return commandOf connection job binding

/-- `dispatch` after the claim, up to the send. -/
def prepareClaimed (job : JobRow) : Handler (Connection × CommandMessage) := do
  let g ← get
  match (g.current? job.deviceId).filter (fun c => env.fresh c.sessionId) with
  | none =>
      let updated ← transition cfg env job.jobId (moveTo env .reconnectPending)
      throw (jobError "device_offline" (updated.getD job))
  | some connection =>
      requireDispatchCapability cfg env job (some connection)
      let command ← buildCommandOf cfg env connection job
      return (connection, command)

/-- `dispatch` up to the send; nothing to send where it returns `False`. -/
def prepareDispatch (jobId : JobId) : Handler (Option (Connection × CommandMessage)) := do
  let raw ← getInternalJob jobId
  match raw with
  | none => return none
  | some job =>
      if isTerminal job.state then return none
      else if job.state = .outcomeUnknown then throw (jobError "outcome_unknown" job)
      else if job.state ≠ .queued then return none
      else
        requireDispatchCapability cfg env job none
        let claimed ← perform env fun db => claimJob cfg.codec db jobId
        match claimed with
        | none => return none
        | some job => return some (← prepareClaimed cfg env job)

end

end AutocadMcp.Gateway
