import AutocadMcp.Gateway.JobService

/-!
# Messages of the Agent

`handle_message` and the handlers behind it: acknowledgements, progress, the
three result types and the answers to a reconcile request, with the checks that
bind a result to the job it is for.
-/

namespace AutocadMcp.Gateway

/-! ## Results and their bindings -/

/-- `_safe_agent_error`: the codes that are passed on, with their texts. -/
def agentErrorMessages : List (String × String) :=
  [("active_document_changed", "The active AutoCAD document changed during the read"),
   ("autocad_busy", "AutoCAD is running another command"),
   ("autocad_not_running", "AutoCAD is not running"),
   ("command_routing_failed", "Agent could not route the read command to AutoCAD"),
   ("deadline_expired", "Agent reported that the job deadline expired"),
   ("capability_missing", "Agent does not support the requested capability"),
   ("dispatcher_not_loaded", "The required AutoLISP dispatcher is not loaded"),
   ("dispatcher_timeout", "The AutoLISP dispatcher did not respond in time"),
   ("ipc_result_invalid", "AutoCAD returned invalid bounded read evidence"),
   ("modal_dialog_active", "AutoCAD has a modal dialog open"),
   ("no_active_document", "AutoCAD has no active document"),
   ("payload_mismatch", "Agent rejected a mismatched command payload"),
   ("package_mismatch", "Agent package does not match Gateway policy"),
   ("paused_by_user", "The local user paused remote tasks"),
   ("agent_rejected", "Agent rejected the command")]

def safeAgentError (code : Option String) : String × String :=
  match code.bind fun code => agentErrorMessages.find? (fun entry => entry.1 = code) with
  | some entry => entry
  | none => ("backend_error", "Agent reported a bounded CAD operation failure")

/-- `_validate_program_result_binding`. -/
def validateProgramResultBinding (job : JobRow) (m : TypedResultMessage) : Except Failure Unit := do
  check (m.kind = job.kind) (jobError "binding_mismatch" job)
  let expected ← programResultBinding job
  check (m.binding = expected) (jobError "binding_mismatch" job)

/-- `_validate_rollback_result_binding`. -/
def validateRollbackResultBinding (job : JobRow) (m : TypedResultMessage) : Except Failure Unit :=
  check (job.payload.isDict ∧ m.kind = job.kind ∧ job.payload.get? "binding" = some m.binding)
    (jobError "binding_mismatch" job)

/-- The digests that a result must carry for a payload bound to a Phase 8 plan, by field. -/
def phase8Digests (payload binding : Json) : Except Failure (List (String × Json)) := do
  let plan ← index payload "execution_plan"
  return [
    ("execution_plan_digest", ← index binding "execution_plan_digest"),
    ("effect_manifest_digest", ← index binding "effect_manifest_digest"),
    ("target_refs_digest", ← index binding "target_refs_digest"),
    ("hard_budgets_digest", ← index binding "hard_budgets_digest"),
    ("rollout_policy_digest", ← index (← index plan "execution_pins") "rollout_policy_digest")]

/-- The evidence that a Phase 8 result of a kind must carry besides the digests. -/
def phase8Evidence (kind : JobKind) (binding value : Json) : Bool :=
  if kind = .programPreview then
    value.get? "transaction_aborted" = some (.bool true) &&
    value.get? "drawing_unchanged" = some (.bool true) &&
    ((value.get? "preview_digest").bind Json.str?).isSome
  else
    value.get? "receipt_id" = binding.get? "receipt_id" &&
    value.get? "milestone" = some (.str "effect_and_receipt_committed")

/-- The result of a job bound to a Phase 8 plan. -/
def normalizePhase8 (job : JobRow) (kind : JobKind) (binding value : Json) :
    Except Failure Json := do
  let expected ← phase8Digests job.payload binding
  check (∀ entry ∈ expected, value.get? entry.1 = some entry.2) (jobError "binding_mismatch" job)
  check (phase8Evidence kind binding value) (jobError "binding_mismatch" job)
  return value

/-- The stored form of a `cad.program/0.2` preview. -/
def normalizePreview (execution value : Json) : Except Failure Json := do
  return .obj [
    ("binding_digest", ← index execution "binding_digest"),
    ("document_revision_after", ← index execution "expected_document_revision"),
    ("document_revision_before", ← index execution "expected_document_revision"),
    ("execution_digest", ← index execution "execution_digest"),
    ("expires_at", ← index value "expires_at"),
    ("planned_entity_count", ← index value "planned_entity_count"),
    ("planned_layer_count", ← index value "planned_layer_count"),
    ("planned_operation_count", ← index value "planned_operation_count"),
    ("preview_digest", ← index value "preview_digest"),
    ("preview_id", ← index value "preview_id"),
    ("preview_strategy", .str "database_transaction_abort"),
    ("program_digest", ← index execution "program_digest"),
    ("validation", .obj [
      ("drawing_unchanged", ← index value "drawing_unchanged"),
      ("transaction_aborted", ← index value "transaction_aborted")])]

def normalizeCommit (execution value : Json) : Except Failure Json := do
  return .obj [
    ("binding_digest", ← index execution "binding_digest"),
    ("checkpoint", field value "checkpoint"),
    ("document_id", ← index execution "document_id"),
    ("document_revision_after", ← index value "document_revision_after"),
    ("document_revision_before", ← index value "document_revision_before"),
    ("durable_receipt", value),
    ("effect_summary", .obj [
      ("created_entities", ← index value "created_entity_count"),
      ("duplicate", ← index value "duplicate")]),
    ("execution_digest", ← index execution "execution_digest"),
    ("preview_execution_digest", ← index execution "preview_execution_digest"),
    ("program_digest", ← index execution "program_digest"),
    ("receipt_digest", ← index value "receipt_digest"),
    ("receipt_id", ← index value "receipt_id")]

def normalizeValidate (execution value : Json) : Except Failure Json := do
  return .obj [
    ("binding_digest", ← index execution "binding_digest"),
    ("document_revision", ← index value "document_revision"),
    ("execution_digest", ← index execution "execution_digest"),
    ("passed", ← index value "valid"),
    ("report", .obj [
      ("checks", ← index value "checks"),
      ("failures", ← index value "failures")]),
    ("validation_id", ← index value "validation_id")]

/-- The legacy branches of `_normalize_program_result`. -/
def normalizeLegacy (job : JobRow) (kind : JobKind) (value : Json) : Except Failure Json := do
  let execution ← index job.payload "execution"
  match kind with
  | .programPreview => normalizePreview execution value
  | .programCommit => normalizeCommit execution value
  | _ => normalizeValidate execution value

/-- `_normalize_program_result`. -/
def normalizeProgramResult (job : JobRow) (m : TypedResultMessage) :
    Except Failure (Option Json) :=
  match m.result with
  | none => .ok none
  | some value =>
      match job.payload.dict? "binding" with
      | some binding =>
          if isExecutionBinding job.payload then
            (normalizePhase8 job m.kind binding value).map some
          else (normalizeLegacy job m.kind value).map some
      | none => (normalizeLegacy job m.kind value).map some

/-! ## The three result types as one -/

/-- The fields of a result that the handler goes on with, and the state the job is to reach. -/
structure Outcome where
  envelope : Envelope
  target : JobState
  result : Option Json
  errorCode : Option String

def targetOf : ResultStatus → JobState
  | .succeeded => .succeeded
  | .failed => .failed
  | .cancelled => .cancelled
  | .outcomeUnknown => .outcomeUnknown

/-- What a result stores: its state, result, error and, for an observation, its snapshot. -/
structure Stored where
  target : JobState
  result : Option Json
  errorCode : Option String
  errorSummary : Option String
  snapshot : Option Json

section

variable (cfg : Config) (env : Env)

/-- The checks of a succeeded observation. -/
def storeObservation (job : JobRow) (result : Option Json) : Stored :=
  match snapshotOf result, result with
  | some candidate, some value =>
      if candidate.isDict = false then
        ⟨.failed, none, some "backend_error", some "Agent returned an invalid observation result",
          none⟩
      else
        match cfg.validateC1Observation value candidate (field job.payload "package") with
        | some code =>
            ⟨.failed, none, some code, some "Agent returned invalid C1 observation evidence", none⟩
        | none =>
            let snapshot := cfg.normalizeC1Snapshot candidate
            ⟨.succeeded, some (replaceSnapshot value snapshot), none, none, some snapshot⟩
  | _, _ =>
      ⟨.failed, none, some "backend_error", some "Agent returned an invalid observation result",
        none⟩
where
  /-- `{**result, "snapshot": snapshot}` -/
  replaceSnapshot : Json → Json → Json
    | .obj fields, snapshot =>
        .obj (fields.map fun f => if f.1 = "snapshot" then (f.1, snapshot) else f)
    | value, _ => value

/-- What of an outcome is stored. -/
def storedOf (job : JobRow) (o : Outcome) : Stored :=
  match o.target with
  | .succeeded =>
      if job.kind = .observe then storeObservation cfg job o.result
      else ⟨.succeeded, o.result, none, none, none⟩
  | .failed =>
      let (code, summary) := safeAgentError o.errorCode
      ⟨.failed, none, some code, some summary, none⟩
  | .cancelled =>
      ⟨.cancelled, none, some "cancelled", some "Agent confirmed cancellation", none⟩
  | target => ⟨target, o.result, none, none, none⟩

def finalizeArgs (job : JobRow) (o : Outcome) (s : Stored) (hook : Option TerminalHook) :
    Finalize where
  jobId := job.jobId
  deviceId := job.deviceId
  commandId := job.commandId
  payloadHash := job.payloadHash
  target := s.target
  result := s.result
  errorCode := s.errorCode
  errorSummary := s.errorSummary
  sessionId := some o.envelope.sessionId
  agentSequence := some o.envelope.sequence
  terminalHook := hook

def raising {α : Type} (failure : Option Failure) (a : α) : Except Failure α :=
  match failure with
  | some e => .error e
  | none => .ok a

/-- `prepare_terminal_evidence`, and the insertion of the event in the terminal transaction. -/
def evidenceHook : Handler (Option TerminalHook) :=
  match cfg.phase7 with
  | none => pure none
  | some _ => do
      liftExcept (raising env.prepareEvidence ())
      return some fun _ locks => raising env.insertEvidence locks

/-- A succeeded commit of a rollback stores a receipt. -/
def needsReceipt (job : JobRow) (s : Stored) : Bool :=
  cfg.phase7.isSome && s.target = .succeeded && job.kind = .rollbackCommit && s.result.any Json.isDict

/-- The `terminal_hook` of the rollback kinds: the evidence, the receipt, and the lock of a
commit. -/
def rollbackTerminalHook (job : JobRow) (evidence : Option TerminalHook) (receipt : Bool) :
    TerminalHook := fun row locks => do
  let locks ← evidence.elim (.ok locks) fun hook => hook row locks
  let locks ← raising (if receipt then env.insertReceipt else none) locks
  return if job.kind = .rollbackCommit then Db.dropLocksOf locks job.jobId else locks

def rollbackHook (job : JobRow) (s : Stored) : Handler (Option TerminalHook) := do
  let evidence ← evidenceHook cfg env
  liftExcept (raising (if needsReceipt cfg job s then env.prepareReceipt else none) ())
  return if evidence.isSome ∨ job.kind = .rollbackCommit then
    some (rollbackTerminalHook env job evidence (needsReceipt cfg job s)) else none

/-- A Program result that proved nothing: a commit that may have taken effect becomes unknown and
keeps its lock, anything else fails and gives its lock back. -/
def rejectProgramResult (job : JobRow) (code : String) : Handler Unit := do
  let latest ← getInternalJob job.jobId
  match latest.filter (fun row => job.kind = .programCommit ∧
      (isStarted row.state ∨ row.state = .outcomeUnknown)) with
  | some row =>
      recordUnproven (← unknownCommit row)
  | none =>
      let _ ← transition cfg env job.jobId
        { moveTo env .failed with
          errorCode := some code
          errorSummary := some "Agent returned invalid bounded CAD Program evidence" }
      releaseLock env job.jobId
where
  unknownCommit (row : JobRow) : Handler (Option JobRow) :=
    if row.state = .outcomeUnknown then pure (some row)
    else transition cfg env job.jobId
      { moveTo env .outcomeUnknown with
        errorCode := some "binding_mismatch"
        errorSummary := some "Commit result did not prove its exact execution binding" }
  recordUnproven : Option JobRow → Handler Unit
    | some row => recordReconcileOutcome cfg env row true
    | none => pure ()

/-- The refusals of `finalize_program_job` that the service answers itself. -/
def isEvidenceRefusal : Failure → Option String
  | .repositoryConflict code =>
      if code ∈ ["program_result_invalid", "binding_mismatch", "payload_too_large"] then some code
      else none
  | _ => none

def finishProgram (job : JobRow) (o : Outcome) (s : Stored) : Handler Unit := do
  if cfg.hasProgramRepository = false then
    throw (jobError "backend_error" job)
  tryCatch
    (do
      let hook ← evidenceHook cfg env
      let _ ← perform env fun db => finalizeProgramJob cfg.codec db (finalizeArgs job o s hook)
      pure ())
    answerRefusal
where
  answerRefusal (e : Failure) : Handler Unit :=
    match isEvidenceRefusal e with
    | some code => rejectProgramResult cfg env job code
    | none => throw e

def finishRollback (job : JobRow) (o : Outcome) (s : Stored) : Handler Unit :=
  tryCatch
    (do
      let hook ← rollbackHook cfg env job s
      let _ ← perform env fun db =>
        finalizeJobResult cfg.codec db (finalizeArgs job o s hook) none none true
      pure ())
    (fun e =>
      match e with
      | .repositoryConflict code => throw (jobError code job)
      | e => throw e)

def finishOther (job : JobRow) (o : Outcome) (s : Stored) : Handler Unit :=
  tryCatch
    (do
      let _ ← perform env fun db =>
        finalizeJobResult cfg.codec db (finalizeArgs job o s none) s.snapshot none true
      pure ())
    (fun e =>
      match e with
      | .repositoryConflict "terminal_result_conflict" =>
          throw (jobError "terminal_result_conflict" job)
      | .invalidJobTransition _ => throw (jobError "invalid_message" job)
      | e => throw e)

/-- `_handle_result` from the target on: the rest is the same for all three types. -/
def finishResult (job : JobRow) (o : Outcome) : Handler Unit :=
  let s := storedOf cfg job o
  if job.kind.isProgram then finishProgram cfg env job o s
  else if job.kind.isRollback then finishRollback cfg env job o s
  else finishOther cfg env job o s

/-- A typed result whose outcome is unknown. -/
def reportUnknown (job : JobRow) (summary : String) : Handler Unit := do
  let updated ← raceAs "outcome_unknown" job <| transition cfg env job.jobId
    { moveTo env .outcomeUnknown with
      errorCode := some "outcome_unknown"
      errorSummary := some summary }
  if updated.isSome then
    ensureCase cfg env job.jobId

/-- `_fail_payload`. -/
def failPayload (job : JobRow) : Handler Unit :=
  swallowRaces do
    let updated ← transition cfg env job.jobId
      { moveTo env (settledTarget job) with
        evidence := job.state = .reconnectPending
        errorCode := some "payload_mismatch"
        errorSummary := some "Agent payload hash did not match Gateway" }
    releaseProgramLockIfTerminal cfg env updated

def outcomeOf (envelope : Envelope) (status : ResultStatus) (result : Option Json)
    (errorCode : Option String) : Outcome :=
  ⟨envelope, targetOf status, result, errorCode⟩

/-- `_handle_result` for a `ResultMessage`. -/
def handleUntypedResult (job : JobRow) (m : ResultMessage) : Handler Unit :=
  if m.payloadHash ≠ job.payloadHash then failPayload cfg env job
  else finishResult cfg env job (outcomeOf m.toEnvelope m.status m.result m.errorCode)

/-- `_handle_result` for a `ProgramResultMessage`. -/
def handleProgramResult (job : JobRow) (m : TypedResultMessage) : Handler Unit := do
  if m.payloadHash ≠ job.payloadHash then failPayload cfg env job
  else
    liftExcept (validateProgramResultBinding job m)
    if m.status = .outcomeUnknown then
      reportUnknown cfg env job "Agent reported an unknown commit outcome"
    else
      let result ← liftExcept (normalizeProgramResult job m)
      finishResult cfg env job (outcomeOf m.toEnvelope m.status result m.errorCode)

/-- `_handle_result` for a `RollbackResultMessage`. -/
def handleRollbackResult (job : JobRow) (m : TypedResultMessage) : Handler Unit := do
  if m.payloadHash ≠ job.payloadHash then failPayload cfg env job
  else
    liftExcept (validateRollbackResultBinding job m)
    if m.status = .outcomeUnknown then
      reportUnknown cfg env job "Agent reported an unknown rollback outcome"
    else finishResult cfg env job (outcomeOf m.toEnvelope m.status m.result m.errorCode)

/-! ## Acknowledgements and progress -/

def descriptorOf (job : JobRow) : ReconcileCommandDescriptor :=
  ⟨job.jobId, job.commandId, job.payloadHash⟩

def reconcileMessage (connection : Connection) (jobs : List JobRow) : ReconcileMessage :=
  ⟨connection.sessionId, connection.deviceId, jobs.map descriptorOf⟩

/-- `_send_reconcile`. -/
def sendReconcile (connection : Connection) (jobs : List JobRow) : Handler Unit :=
  send env (.reconcile (reconcileMessage connection jobs))

/-- `_send_cancel`. -/
def sendCancel (connection : Connection) (job : JobRow) (reason : String) : Handler Unit :=
  send env (.cancel ⟨connection.sessionId, job.deviceId, job.jobId, job.commandId, reason⟩)

/-- The state the job of a ledger acknowledgement is reconciled from. -/
def settleAcknowledged (job : JobRow) (status : AckStatus) : Handler JobRow := do
  if job.state = .dispatched then
    let updated ← transition cfg env job.jobId (moveTo env .reconnectPending)
    return updated.getD job
  else if status = .alreadyTerminal ∧ isStarted job.state then
    let updated ← transition cfg env job.jobId (moveTo env (lostTarget job))
    return updated.getD job
  else return job

/-- `_handle_ack`. -/
def handleAck (connection : Connection) (job : JobRow) (m : AckMessage) : Handler Unit := do
  if m.payloadHash ≠ job.payloadHash then failPayload cfg env job
  else if m.idempotencyKey ≠ job.idempotencyKey then failPayload cfg env job
  else
    match m.status with
    | .accepted =>
        if job.state = .dispatched then
          let _ ← transition cfg env job.jobId (moveTo env .acknowledged)
          pure ()
        else if isStarted job.state ∨ isTerminal job.state then pure ()
        else throw (jobError "invalid_message" job)
    | .rejected =>
        if isTerminal job.state then pure ()
        else
          let (code, summary) := safeAgentError (if hasText m.reason then m.reason
            else some "agent_rejected")
          let _ ← raceAs "invalid_message" job <| transition cfg env job.jobId
            { moveTo env .failed with
              evidence := job.state = .outcomeUnknown
              errorCode := some code
              errorSummary := some summary }
          pure ()
    | status =>
        if isTerminal job.state then pure ()
        else if status = .duplicate ∧ isStarted job.state then pure ()
        else
          let settled ← settleAcknowledged cfg env job status
          sendReconcile env connection [settled]

/-- The first progress of an acknowledged job makes it run. -/
def startRunning (job : JobRow) : Handler JobRow := do
  if job.state = .acknowledged then
    let updated ← transition cfg env job.jobId (moveTo env .running)
    return updated.getD job
  else if job.state = .running ∨ job.state = .cancelRequested then return job
  else throw (jobError "invalid_message" job)

/-- `_handle_progress`. -/
def handleProgress (job : JobRow) (m : ProgressMessage) : Handler Unit := do
  if isTerminal job.state then pure ()
  else
    let job ← startRunning cfg env job
    tryCatch
      (do
        let _ ← perform env fun db => appendProgress cfg.codec db job.jobId
          ⟨m.phase, m.percent, m.message, m.sequence⟩ none
        pure ())
      (fun e =>
        match e with
        | .repositoryConflict code => throw (jobError code job)
        | e => throw e)

/-! ## Reconcile results -/

/-- The typed message that a terminal reconcile result is turned into. -/
def typedOfReconcile (connection : Connection) (job : JobRow) (m : ReconcileResultMessage)
    (kind : JobKind) (binding : Json) (status : ResultStatus) : TypedResultMessage where
  sessionId := connection.sessionId
  deviceId := connection.deviceId
  jobId := job.jobId
  commandId := job.commandId
  sequence := m.sequence
  payloadHash := m.payloadHash
  kind := kind
  binding := binding
  status := status
  result := m.result
  errorCode := m.errorCode

def untypedOfReconcile (connection : Connection) (job : JobRow) (m : ReconcileResultMessage)
    (status : ResultStatus) : ResultMessage where
  sessionId := connection.sessionId
  deviceId := connection.deviceId
  jobId := job.jobId
  commandId := job.commandId
  sequence := m.sequence
  payloadHash := m.payloadHash
  status := status
  result := m.result
  errorCode := m.errorCode

/-- The kind and the binding of a typed reconcile result, when they are the job's. -/
def provenBinding (job : JobRow) (m : ReconcileResultMessage) :
    Except Failure (Option (JobKind × Json)) :=
  match m.kind, m.binding with
  | some kind, some binding =>
      if kind ≠ job.kind then .ok none
      else if job.kind.isProgram then do
        let expected ← programResultBinding job
        return if binding = expected then some (kind, binding) else none
      else
        .ok (if job.payload.isDict ∧ job.payload.get? "binding" = some binding then
          some (kind, binding) else none)
  | _, _ => .ok none

/-- A terminal report of the Agent's ledger about a write whose outcome it does not know. -/
def stillUnknown (job : JobRow) (m : ReconcileResultMessage) : Bool :=
  (job.kind = .programCommit ∨ job.kind = .rollbackCommit) && job.state = .outcomeUnknown &&
    m.resultStatus = some .failed && m.errorCode = some "outcome_unknown"

/-- The result of a typed job, once its binding has been checked. -/
def finishTypedReconcile (connection : Connection) (job : JobRow) (m : ReconcileResultMessage)
    (status : ResultStatus) (kind : JobKind) (binding : Json) : Handler Unit := do
  let typed := typedOfReconcile connection job m kind binding status
  if job.kind.isProgram then
    liftExcept (check (typed.validProgram cfg.fits) .valueError)
    handleProgramResult cfg env job typed
  else
    liftExcept (check (typed.validRollback cfg.fits) .valueError)
    handleRollbackResult cfg env job typed

/-- The branch of `handle_reconcile_result` for a terminal answer. -/
def reconcileTerminal (connection : Connection) (job : JobRow) (m : ReconcileResultMessage)
    (status : ResultStatus) : Handler Unit := do
  if job.kind.isProgram ∨ job.kind.isRollback then
    match ← liftExcept (provenBinding job m) with
    | some (kind, binding) =>
        if stillUnknown job m then recordReconcileOutcome cfg env job false
        else finishTypedReconcile cfg env connection job m status kind binding
    | none => recordReconcileOutcome cfg env job true
  else
    let untyped := untypedOfReconcile connection job m status
    liftExcept (check untyped.valid .valueError)
    handleUntypedResult cfg env job untyped

/-- The branch for a job whose outcome the Gateway does not know. -/
def reconcileUnknown (connection : Connection) (job : JobRow) (m : ReconcileResultMessage) :
    Handler Unit := do
  if m.status = .started then
    if job.cancelRequestedAt.isSome then
      sendCancel env connection job "Durable cancellation requested before reconnect"
    recordReconcileOutcome cfg env job false
  else if m.status = .notStarted ∧ job.cancelRequestedAt.isSome then
    let updated ← transition cfg env job.jobId
      { moveTo env .needsAttention with expectedVersion := some job.stateVersion }
    if updated.isSome then
      ensureCase cfg env job.jobId
  else
    swallowRaces do
      let updated ← transition cfg env job.jobId
        { moveTo env .needsAttention with
          expectedVersion := some job.stateVersion
          evidence := true }
      if updated.isSome then
        ensureCase cfg env job.jobId

/-- `transition_job` under the version and the evidence of a reconcile answer. -/
def reconciledTo (job : JobRow) (target : JobState) : Transition :=
  { moveTo env target with expectedVersion := some job.stateVersion, evidence := true }

/-- The branch for a job that waits for a reconcile answer. A job put back in the queue is
dispatched next, which is an event of its own. -/
def reconcilePending (connection : Connection) (job : JobRow) (m : ReconcileResultMessage) :
    Handler Unit := do
  if m.status = .notStarted then
    if job.cancelRequestedAt.isSome then
      let _ ← transition cfg env job.jobId (reconciledTo env job .cancelled)
      pure ()
    else
      let _ ← transition cfg env job.jobId (reconciledTo env job .queued)
      pure ()
  else
    let target : JobState := if job.effectClass = .write then .outcomeUnknown else .running
    let updated ← transition cfg env job.jobId (reconciledTo env job target)
    tellStarted target updated
where
  tellStarted (target : JobState) (updated : Option JobRow) : Handler Unit := do
    if job.cancelRequestedAt.isSome then
      let cancelled ← cancelStarted target updated
      sendCancel env connection (cancelled.getD job)
        "Durable cancellation requested before reconnect"
    recordUnknown target updated
  cancelStarted (target : JobState) (updated : Option JobRow) : Handler (Option JobRow) :=
    if target = .running then transition cfg env job.jobId (moveTo env .cancelRequested)
    else pure updated
  recordUnknown (target : JobState) (updated : Option JobRow) : Handler Unit :=
    match updated.filter (fun _ => target = .outcomeUnknown) with
    | some row => recordReconcileOutcome cfg env row false
    | none => pure ()

/-- `handle_reconcile_result` on the row it has read. The retry of a lost compare-and-swap reads
the row again, which is the same handler on that row. -/
def handleReconcileResult (connection : Connection) (job : JobRow) (m : ReconcileResultMessage) :
    Handler Unit :=
  if m.payloadHash ≠ job.payloadHash then failPayload cfg env job
  else
    match m.status, m.resultStatus with
    | .terminal, some status => reconcileTerminal cfg env connection job m status
    | .terminal, none => throw (jobError "invalid_message" job)
    | _, _ =>
        if job.state = .outcomeUnknown then reconcileUnknown cfg env connection job m
        else if job.state = .reconnectPending then reconcilePending cfg env connection job m
        else throw (jobError "invalid_message" job)

/-! ## Dispatching on the type of a message -/

/-- `_validate_message_binding`. -/
def boundTo (connection : Connection) (job : JobRow) (e : Envelope) : Bool :=
  e.sessionId = connection.sessionId && e.deviceId = connection.deviceId &&
    job.deviceId = connection.deviceId && e.commandId = job.commandId && e.jobId = job.jobId

/-- `handle_message` on the job of the message's command. -/
def handleBound (connection : Connection) (job : JobRow) (m : AgentMessage) : Handler Unit :=
  if m.envelope.payloadHash ≠ job.payloadHash then failPayload cfg env job
  else
    match m with
    | .ack m => handleAck cfg env connection job m
    | .progress m => handleProgress cfg env job m
    | .result m => handleUntypedResult cfg env job m
    | .programResult m => handleProgramResult cfg env job m
    | .rollbackResult m => handleRollbackResult cfg env job m
    | .reconcileResult m => handleReconcileResult cfg env connection job m

/-- `handle_message`. -/
def handleMessage (connection : Connection) (m : AgentMessage) : Handler Unit := do
  let g ← get
  match g.db.getJobByCommand connection.deviceId m.envelope.commandId with
  | none => throw (.durableJobError "invalid_message" none none)
  | some job =>
      if boundTo connection job m.envelope then handleBound cfg env connection job m
      else throw (jobError "invalid_message" job)

/-! ## Cancellation -/

def requestCancel (job : JobRow) : Handler (Option JobRow) :=
  tryCatch
    (perform env fun db => requestJobCancel cfg.codec db job.jobId (some job.stateVersion) env.now)
    (fun e =>
      match e with
      | .repositoryConflict _ => throw (jobError "invalid_state" job)
      | e => throw e)

/-- `cancel`. Nothing runs between its read and its write, so a lost compare-and-swap, which it
would try again, does not occur. -/
def cancelJob (owner : Owner) (jobId : JobId) (reason : String) : Handler Unit := do
  let g ← get
  match g.db.getJob owner jobId with
  | none => throw (.durableJobError "not_found" none none)
  | some job =>
      let updated ← requestCancel cfg env job
      match updated with
      | none => throw (jobError "invalid_state" job)
      | some row =>
          if isTerminal row.state then pure ()
          else
            match (g.current? job.deviceId).filter (fun c => env.fresh c.sessionId) with
            | some connection => sendCancel env connection row reason
            | none => pure ()

end

end AutocadMcp.Gateway
