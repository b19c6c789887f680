import AutocadMcp.Workflow.Store

/-!
# The workflow repository

The operations of `Phase9Repository`, each one transaction: `Except` carries the
tables after a commit, and an error leaves the caller with the ones it had. The
time of a call and the ids it makes up are arguments.
-/

namespace AutocadMcp.Workflow

/-- `dict[key] = value`, which keeps the fields in key order. -/
def withField : List (String × Json) → String → Json → List (String × Json)
  | [], key, value => [(key, value)]
  | (k, v) :: fields, key, value =>
      if k = key then (key, value) :: fields
      else if key < k then (key, value) :: (k, v) :: fields
      else (k, v) :: withField fields key value

section

variable (C : Codec)

/-- `_json`. -/
def encode (limit : Nat) (value : Json) : Except Failure Unit :=
  match C.jsonBytes value with
  | none => .error (conflict "workflow_payload_invalid")
  | some bytes => check (bytes ≤ limit) (conflict "workflow_payload_too_large")

/-- The limit of `_json` where none is given. -/
def jsonLimit : Nat := 262144

def eventLimit : Nat := 65536

/-- A JSON column: the encoding and the `CHECK` on its length. -/
def column (value : Json) : Except Failure Unit := do
  encode C jsonLimit value
  check (C.fitsColumn value) .integrityError

def columnOption : Option Json → Except Failure Unit
  | none => .ok ()
  | some value => column C value

/-- `_append_event`. -/
def appendEvent (s : Store) (runId : RunId) (eventType : String) (payload : Json) :
    Except Failure Store := do
  encode C eventLimit payload
  return s.pushEvent runId eventType payload

/-- `_append_event` for each of some rows. -/
def appendEvents (s : Store) : List (RunId × String × Json) → Except Failure Store
  | [] => return s
  | (runId, eventType, payload) :: rest => do
      let s ← appendEvent C s runId eventType payload
      appendEvents s rest

def actionPayload (actionId : ActionId) : Json := .obj [("action_id", .str actionId)]

def requireRun (s : Store) (owner : String) (runId : RunId) : Except Failure RunRow :=
  match s.getRun owner runId with
  | some run => .ok run
  | none => .error (conflict "not_found")

def requireAction (s : Store) (actionId : ActionId) : Except Failure ActionRow :=
  match s.action? actionId with
  | some row => .ok row
  | none => .error (conflict "not_found")

/-! ## Runs -/

/-- `state_version=state_version+1` with a new state. -/
def RunRow.moved (target : RunState) (row : RunRow) : RunRow :=
  { row with state := target, stateVersion := row.stateVersion + 1 }

@[simp] theorem RunRow.moved_runId (target : RunState) (row : RunRow) :
    (row.moved target).runId = row.runId := rfl

/-- A move that also sets the current step. -/
def RunRow.movedTo (target : RunState) (stepId : Option StepId) (row : RunRow) : RunRow :=
  { row.moved target with currentStepId := stepId }

@[simp] theorem RunRow.movedTo_runId (target : RunState) (stepId : Option StepId) (row : RunRow) :
    (row.movedTo target stepId).runId = row.runId := rfl

/-- A step of the workflow that a run is created with. -/
structure StepSpec where
  stepId : StepId
  attempt : Nat
  kind : String
  inputRef : Option Json
  deriving DecidableEq

/-- The arguments of `create_run`; `insertable` is false where a constraint on the catalog tables
fails. -/
structure CreateRun where
  ownerSubject : String
  actorIssuer : String
  actorSubject : String
  runId : RunId
  idempotencyKey : String
  pins : Json
  inputs : Json
  deviceId : String
  deviceIdentityGeneration : Nat
  initialSnapshotId : Option String
  initialDocumentId : Option String
  initialDocumentRevision : Option String
  steps : Option (List StepSpec)
  firstStepId : Option StepId
  insertable : Bool

def requiredPins : List String :=
  ["skill_id", "skill_version", "skill_digest", "workflow_id", "workflow_version",
   "workflow_digest", "catalog_epoch", "policy_epoch", "planner_registry_version",
   "planner_registry_hash"]

def optionalText : Option String → Json
  | some text => .str text
  | none => .null

namespace CreateRun

/-- What the request hash is taken of. -/
def request (a : CreateRun) : Json :=
  .obj [
    ("actor_issuer", .str a.actorIssuer),
    ("actor_subject", .str a.actorSubject),
    ("device_id", .str a.deviceId),
    ("device_identity_generation", .num a.deviceIdentityGeneration),
    ("initial_document_id", optionalText a.initialDocumentId),
    ("initial_document_revision", optionalText a.initialDocumentRevision),
    ("initial_snapshot_id", optionalText a.initialSnapshotId),
    ("inputs", a.inputs),
    ("pins", a.pins)]

def validSteps (a : CreateRun) : Bool :=
  match a.steps with
  | none => true
  | some steps =>
      !steps.isEmpty && steps.length ≤ 64 && a.firstStepId.any (· ≠ "") &&
        decide ((steps.map StepSpec.stepId).Nodup)

def pin (a : CreateRun) (key : String) : String := ((a.pins.get? key).bind Json.str?).getD ""

def row (a : CreateRun) (requestHash : Digest) : RunRow where
  runId := a.runId
  ownerSubject := a.ownerSubject
  skillId := a.pin "skill_id"
  skillVersion := a.pin "skill_version"
  pins := a.pins
  inputs := a.inputs
  deviceId := a.deviceId
  initialSnapshotId := a.initialSnapshotId
  initialDocumentRevision := a.initialDocumentRevision
  state := .created
  stateVersion := 0
  currentStepId := none
  idempotencyKey := a.idempotencyKey
  requestHash := requestHash

end CreateRun

def StepRow.spec (row : StepRow) : StepSpec := ⟨row.stepId, row.attempt, row.kind, row.inputRef⟩

/-- A repeated creation returns the run it made, if it made all of it. -/
def replayRun (s : Store) (a : CreateRun) (existing : RunRow) (requestHash : Digest) :
    Except Failure ((RunRow × Bool) × Store) := do
  check (existing.requestHash = requestHash) (conflict "idempotency_conflict")
  check (∀ steps ∈ a.steps, ((s.stepsOf existing.runId).map StepRow.spec).isPerm steps ∧
      existing.state ≠ .created) (conflict "workflow_initialization_incomplete")
  return ((existing, true), s)

def pendingStep (runId : RunId) (spec : StepSpec) : StepRow :=
  ⟨runId, spec.stepId, spec.attempt, spec.kind, .pending, 0, spec.inputRef, none, none⟩

def insertStep (s : Store) (row : StepRow) : Except Failure Store := do
  columnOption C row.inputRef
  check (1 ≤ row.attempt) .integrityError
  match s.steps.insert row with
  | some steps => return { s with steps := steps }
  | none => throw .integrityError

/-- `INSERT INTO workflow_steps` with its event. -/
def addStep (s : Store) (row : StepRow) : Except Failure Store := do
  let s ← insertStep C s row
  appendEvent C s row.runId "step_created"
    (.obj [("attempt", .num row.attempt), ("step_id", .str row.stepId)])

def addSteps (s : Store) (runId : RunId) : List StepSpec → Except Failure Store
  | [] => return s
  | spec :: rest => do
      let s ← addStep C s (pendingStep runId spec)
      addSteps s runId rest

def StepRow.readied (row : StepRow) : StepRow := { row with state := .ready, stateVersion := 1 }

@[simp] theorem StepRow.readied_key (row : StepRow) : row.readied.key = row.key := rfl

/-- The steps of a new run, the first of which is ready, and its start. -/
def startRun (s : Store) (runId : RunId) (steps : List StepSpec) (firstStepId : StepId) :
    Except Failure Store := do
  let s ← addSteps C s runId steps
  check (∃ row ∈ s.step? runId firstStepId 1, row.state = .pending ∧ row.stateVersion = 0)
    (conflict "workflow_first_step_invalid")
  let s := s.setStep (runId, firstStepId, 1) StepRow.readied StepRow.readied_key
  let s ← appendEvent C s runId "step_state"
    (.obj [("from", .str "pending"), ("step_id", .str firstStepId), ("to", .str "ready")])
  let s := s.setRun runId
    (fun row => { row with state := .running, stateVersion := 1, currentStepId := firstStepId })
    (fun _ => rfl)
  appendEvent C s runId "started"
    (.obj [("from", .str "created"), ("state_version", .num 1), ("to", .str "running")])

/-- `create_run`; the flag says that the run existed. -/
def createRun (s : Store) (a : CreateRun) : Except Failure ((RunRow × Bool) × Store) := do
  check (a.ownerSubject ≠ "" ∧ a.actorIssuer ≠ "" ∧ a.actorSubject ≠ "" ∧ a.runId ≠ "" ∧
      a.idempotencyKey ≠ "" ∧ a.deviceId ≠ "" ∧ 1 ≤ a.deviceIdentityGeneration)
    (conflict "workflow_identity_invalid")
  check (∀ key ∈ requiredPins, (a.pins.get? key).isSome) (conflict "workflow_pins_invalid")
  check (a.validSteps) (conflict "workflow_steps_invalid")
  encode C jsonLimit a.pins
  encode C jsonLimit a.inputs
  encode C jsonLimit a.request
  let requestHash := C.digest a.request
  match s.runs.rows.find? (fun r => r.ownerSubject = a.ownerSubject ∧
      r.idempotencyKey = a.idempotencyKey) with
  | some existing => replayRun s a existing requestHash
  | none =>
      let row := a.row requestHash
      check (a.insertable ∧ C.fitsColumn a.pins ∧ C.fitsColumn a.inputs)
        (conflict "workflow_run_create_failed")
      match s.runs.insert row with
      | none => throw (conflict "workflow_run_create_failed")
      | some runs =>
          let s ← appendEvent C { s with runs := runs } a.runId "created"
            (.obj [("state", .str "created")])
          match a.steps, a.firstStepId with
          | some steps, some firstStepId =>
              let s ← startRun C s a.runId steps firstStepId
              return (((s.run? a.runId).getD row, false), s)
          | _, _ => return ((row, false), s)

/-- A run that is no longer to be moved, or not in the state that the caller has seen. -/
def requireFresh (run : RunRow) (expectedState : RunState) (expectedVersion : Nat) :
    Except Failure Unit :=
  check (run.state = expectedState ∧ run.stateVersion = expectedVersion)
    (conflict "stale_workflow_state")

/-- The arguments of `transition_run`. -/
structure TransitionRun where
  ownerSubject : String
  runId : RunId
  expectedState : RunState
  expectedVersion : Nat
  target : RunState
  currentStepId : Option StepId
  eventType : String

/-- `transition_run`. -/
def transitionRun (s : Store) (a : TransitionRun) : Except Failure (RunRow × Store) := do
  let run ← requireRun s a.ownerSubject a.runId
  check (isTerminalRun run.state = false) (conflict "terminal_immutable")
  requireFresh run a.expectedState a.expectedVersion
  check (runEdge a.expectedState a.target) (conflict "invalid_workflow_transition")
  let s := s.setRun a.runId (RunRow.movedTo a.target a.currentStepId)
    (RunRow.movedTo_runId a.target a.currentStepId)
  let s ← appendEvent C s a.runId a.eventType
    (.obj [("from", .str a.expectedState.name),
      ("state_version", .num (a.expectedVersion + 1 : Nat)), ("to", .str a.target.name)])
  return (run.movedTo a.target a.currentStepId, s)

/-! ## Waits -/

/-- `UPDATE workflow_waits SET resolved_at=?,resolution_json=?`. -/
def WaitRow.resolved (resolution : Json) (row : WaitRow) : WaitRow :=
  { row with resolution := some resolution }

@[simp] theorem WaitRow.resolved_waitId (resolution : Json) (row : WaitRow) :
    (row.resolved resolution).waitId = row.waitId := rfl

def systemResolution (reason : String) : Json :=
  .obj [("reason", .str reason), ("system", .bool true)]

def resolveWaits (s : Store) (runId : RunId) (reason : String) :
    List WaitRow → Except Failure Store
  | [] => return s
  | wait :: rest => do
      column C (systemResolution reason)
      let s := s.setWait wait.waitId (WaitRow.resolved (systemResolution reason))
        (WaitRow.resolved_waitId (systemResolution reason))
      let s ← appendEvent C s runId "wait_resolved"
        (.obj [("reason", .str reason), ("wait_id", .str wait.waitId)])
      resolveWaits s runId reason rest

def Store.openWaits (s : Store) (runId : RunId) : List WaitRow :=
  s.waits.rows.filter fun row => row.runId = runId ∧ row.resolution = none

/-- `_resolve_open_waits`. -/
def resolveOpenWaits (s : Store) (runId : RunId) (reason : String) : Except Failure Store :=
  resolveWaits C s runId reason (s.openWaits runId)

/-- `resolve_open_waits_system`. -/
def resolveOpenWaitsSystem (s : Store) (owner : String) (runId : RunId) (reason : String) :
    Except Failure (Nat × Store) := do
  let _ ← requireRun s owner runId
  let t ← resolveOpenWaits C s runId reason
  return ((s.openWaits runId).length, t)

/-- The arguments of `create_wait`. -/
structure CreateWait where
  ownerSubject : String
  runId : RunId
  stepId : StepId
  waitKind : WaitKind
  expectedStateVersion : Nat
  responseSchema : Json
  newWaitId : WaitId

def CreateWait.row (C : Codec) (a : CreateWait) : WaitRow where
  waitId := a.newWaitId
  runId := a.runId
  stepId := a.stepId
  waitKind := a.waitKind
  expectedStateVersion := a.expectedStateVersion
  responseSchema := a.responseSchema
  responseSchemaDigest := C.digest a.responseSchema
  resolution := none

/-- `create_wait`. -/
def createWait (s : Store) (a : CreateWait) : Except Failure (WaitRow × Store) := do
  let run ← requireRun s a.ownerSubject a.runId
  check (run.stateVersion = a.expectedStateVersion) (conflict "stale_workflow_state")
  encode C eventLimit a.responseSchema
  match ((s.openWaits a.runId).filter fun w => w.stepId = a.stepId ∧
      w.waitKind = a.waitKind).getLast? with
  | some existing =>
      check (existing.expectedStateVersion = a.expectedStateVersion ∧
          existing.responseSchemaDigest = C.digest a.responseSchema)
        (conflict "workflow_wait_conflict")
      return (existing, s)
  | none =>
      check (C.fitsColumn a.responseSchema) .integrityError
      match s.waits.insert (a.row C) with
      | none => throw .integrityError
      | some waits =>
          let s ← appendEvent C { s with waits := waits } a.runId "wait_created"
            (.obj [("expected_state_version", .num a.expectedStateVersion),
              ("wait_id", .str a.newWaitId)])
          return (a.row C, s)

/-- The arguments of `resolve_wait`. -/
structure ResolveWait where
  ownerSubject : String
  runId : RunId
  waitId : WaitId
  expectedStateVersion : Nat
  responseSchemaDigest : Digest
  response : Json
  idempotencyKey : String

def ResolveWait.resolution (a : ResolveWait) : Json :=
  .obj [("idempotency_key", .str a.idempotencyKey), ("response", a.response)]

/-- The check of a response against `type` and `required` of its schema. -/
def responseFits (schema response : Json) : Bool :=
  (schema.get? "type" ≠ some (.str "object") || response.isDict) &&
  match (schema.get? "required").getD (.arr []) with
  | .arr required => required.all fun item =>
      match item with
      | .str key => (response.get? key).isSome
      | _ => false
  | _ => false

/-- `resolve_wait`; the flag says that the response was there already. -/
def resolveWait (s : Store) (a : ResolveWait) : Except Failure ((WaitRow × Bool) × Store) := do
  match s.getRun a.ownerSubject a.runId,
      (s.waits.get? a.waitId).filter (fun w => w.runId = a.runId) with
  | some run, some wait =>
      match wait.resolution with
      | some resolution =>
          check (resolution.get? "idempotency_key" = some (.str a.idempotencyKey) ∧
            resolution.get? "response" = some a.response) (conflict "idempotency_conflict")
          return ((wait, true), s)
      | none =>
          check (run.stateVersion = a.expectedStateVersion ∧
            wait.expectedStateVersion = a.expectedStateVersion) (conflict "stale_workflow_state")
          check (wait.responseSchemaDigest = a.responseSchemaDigest)
            (conflict "wait_schema_mismatch")
          check (responseFits wait.responseSchema a.response) (conflict "wait_response_invalid")
          column C a.resolution
          let s := s.setWait a.waitId (WaitRow.resolved a.resolution)
            (WaitRow.resolved_waitId a.resolution)
          let s ← appendEvent C s a.runId "wait_resolved"
            (.obj [("state_version", .num a.expectedStateVersion), ("wait_id", .str a.waitId)])
          return ((wait.resolved a.resolution, false), s)
  | _, _ => throw (conflict "not_found")

/-! ## Steps -/

/-- `create_step`; the flag says that the step existed. -/
def createStep (s : Store) (owner : String) (runId : RunId) (spec : StepSpec) :
    Except Failure ((StepRow × Bool) × Store) := do
  let _ ← requireRun s owner runId
  match s.step? runId spec.stepId spec.attempt with
  | some row =>
      check (row.kind = spec.kind ∧ row.inputRef = spec.inputRef) (conflict "workflow_step_conflict")
      return ((row, true), s)
  | none =>
      let s ← addStep C s (pendingStep runId spec)
      return ((pendingStep runId spec, false), s)

/-- The arguments of `transition_step`. -/
structure TransitionStep where
  ownerSubject : String
  runId : RunId
  stepId : StepId
  attempt : Nat
  expectedState : StepState
  expectedVersion : Nat
  target : StepState
  outputRef : Option Json
  errorCode : Option String

/-- `UPDATE workflow_steps SET …` of `transition_step`. -/
def TransitionStep.set (a : TransitionStep) (row : StepRow) : StepRow :=
  { row with
    state := a.target
    stateVersion := row.stateVersion + 1
    outputRef := a.outputRef
    errorCode := a.errorCode }

@[simp] theorem TransitionStep.set_key (a : TransitionStep) (row : StepRow) :
    (a.set row).key = row.key := rfl

/-- `transition_step`. -/
def transitionStep (s : Store) (a : TransitionStep) : Except Failure (StepRow × Store) := do
  check (stepEdge a.expectedState a.target) (conflict "invalid_workflow_step_transition")
  let _ ← requireRun s a.ownerSubject a.runId
  match s.step? a.runId a.stepId a.attempt with
  | none => throw (conflict "not_found")
  | some row =>
      check (isTerminalStep row.state = false) (conflict "terminal_immutable")
      check (row.state = a.expectedState ∧ row.stateVersion = a.expectedVersion)
        (conflict "stale_workflow_state")
      columnOption C a.outputRef
      let s := s.setStep (a.runId, a.stepId, a.attempt) a.set a.set_key
      let s ← appendEvent C s a.runId "step_state"
        (.obj [("from", .str a.expectedState.name), ("step_id", .str a.stepId),
          ("to", .str a.target.name)])
      return (a.set row, s)

/-! ## The outbox -/

/-- The arguments of `insert_action`; `sceneKey` is the key of a scene action, for which
`child_idempotency_key` hashes its source digest. -/
structure InsertAction where
  ownerSubject : String
  runId : RunId
  stepId : StepId
  attempt : Nat
  actionKind : ActionKind
  payload : Json
  retryClass : RetryClass
  effectClass : EffectClass
  sceneKey : Option String

namespace InsertAction

def actionId (a : InsertAction) : ActionId :=
  s!"wfa:{a.runId}:{a.stepId}:{a.attempt}:{a.actionKind.name}"

/-- `child_idempotency_key`. -/
def childKey (a : InsertAction) : Except Failure String := do
  check (a.runId ≠ "" ∧ a.stepId ≠ "" ∧ 1 ≤ a.attempt) .valueError
  match a.actionKind.isScene, a.sceneKey with
  | true, some key => return key
  | false, none => return s!"wf:{a.runId}:{a.stepId}:{a.attempt}:{a.actionKind.name}"
  | _, _ => throw .valueError

def row (a : InsertAction) (key : String) : ActionRow where
  actionId := a.actionId
  runId := a.runId
  stepId := a.stepId
  attempt := a.attempt
  actionKind := a.actionKind
  payload := a.payload
  idempotencyKey := key
  retryClass := a.retryClass
  effectClass := a.effectClass
  state := .pending
  leaseOwner := none
  leaseExpiresAt := none
  dispatchStartedAt := none
  childState := none
  childRef := none
  result := none
  errorCode := none

end InsertAction

/-- `insert_action`; the flag says that the action existed. -/
def insertAction (s : Store) (a : InsertAction) : Except Failure ((ActionRow × Bool) × Store) := do
  let key ← a.childKey
  encode C jsonLimit a.payload
  let _ ← requireRun s a.ownerSubject a.runId
  match s.action? a.actionId with
  | some old =>
      check (old.payload = a.payload ∧ old.retryClass = a.retryClass ∧
        old.effectClass = a.effectClass) (conflict "workflow_action_conflict")
      return ((old, true), s)
  | none =>
      let row := a.row key
      check (C.fitsColumn a.payload ∧ (s.step? a.runId a.stepId a.attempt).isSome ∧
        ∀ r ∈ s.actions.rows, r.runId = a.runId → r.idempotencyKey ≠ key ∧
          ¬ (r.stepId = a.stepId ∧ r.attempt = a.attempt ∧ r.actionKind = a.actionKind))
        .integrityError
      match s.actions.insert row with
      | none => throw .integrityError
      | some actions =>
          let s ← appendEvent C { s with actions := actions } a.runId "action_inserted"
            (.obj [("action_id", .str a.actionId), ("step_id", .str a.stepId)])
          return ((row, false), s)

/-- `lease_expires_at < datetime('now')`; no lease is not expired. -/
def ActionRow.expired (now : Instant) (row : ActionRow) : Bool :=
  row.leaseExpiresAt.any (· < now)

/-- A lease that ran out gives the action up, unless it is a write that was started. -/
def ActionRow.reclaimable (now : Instant) (row : ActionRow) : Bool :=
  (row.state = .claimed || (row.state = .started && row.effectClass = .read)) && row.expired now

/-- The condition of `claim_action` on the action. -/
def ActionRow.claimable (now : Instant) (row : ActionRow) : Bool :=
  row.state = .pending || row.reclaimable now

/-- The action that `claim_action` takes: the first that can be claimed of a run that runs. -/
def Store.nextClaim (s : Store) (now : Instant) : Option ActionRow :=
  s.actions.rows.find? fun row =>
    (s.run? row.runId).any (fun run => run.state = .running) && row.claimable now

/-- `UPDATE workflow_actions SET …` of `claim_action`. -/
def ActionRow.claimedBy (worker : String) (until_ : Instant) (row : ActionRow) : ActionRow :=
  { row with state := .claimed, leaseOwner := some worker, leaseExpiresAt := some until_ }

@[simp] theorem ActionRow.claimedBy_actionId (worker : String) (until_ : Instant)
    (row : ActionRow) : (row.claimedBy worker until_).actionId = row.actionId := rfl

/-- `claim_action`. -/
def claimAction (s : Store) (worker : String) (leaseSeconds : Nat) (now : Instant) :
    Except Failure (Option ActionRow × Store) := do
  check (worker ≠ "" ∧ 1 ≤ leaseSeconds) (conflict "workflow_lease_invalid")
  match s.nextClaim now with
  | none => return (none, s)
  | some row =>
      let s := s.setAction row.actionId (ActionRow.claimedBy worker (now + leaseSeconds))
        (ActionRow.claimedBy_actionId worker (now + leaseSeconds))
      let s ← appendEvent C s row.runId "action_claimed" (actionPayload row.actionId)
      return (some (row.claimedBy worker (now + leaseSeconds)), s)

def ActionRow.startedRef (row : ActionRow) : Json :=
  .obj [("idempotency_key", .str row.idempotencyKey), ("payload", row.payload)]

/-- `UPDATE workflow_actions SET …` of `mark_dispatch_started`. -/
def ActionRow.startedAt (now : Instant) (row : ActionRow) : ActionRow :=
  { row with
    state := .started
    dispatchStartedAt := some now
    childState := some "started"
    childRef := some row.startedRef }

@[simp] theorem ActionRow.startedAt_actionId (now : Instant) (row : ActionRow) :
    (row.startedAt now).actionId = row.actionId := rfl

/-- `mark_dispatch_started`. A start by the same worker is not made again. -/
def markDispatchStarted (s : Store) (actionId : ActionId) (worker : String) (now : Instant) :
    Except Failure (ActionRow × Store) := do
  let row ← requireAction s actionId
  if row.state = .started then
    check (row.leaseOwner = some worker) (conflict "workflow_lease_lost")
    return (row, s)
  else
    check (row.state = .claimed ∧ row.leaseOwner = some worker) (conflict "workflow_lease_lost")
    column C row.startedRef
    let s := s.setAction actionId (ActionRow.startedAt now) (ActionRow.startedAt_actionId now)
    let s ← appendEvent C s row.runId "action_dispatch_started" (actionPayload actionId)
    return (row.startedAt now, s)

/-- The arguments that `complete_action` and `fail_action` hand to `_finish_action`. -/
structure Finish where
  state : ActionState
  result : Option Json
  errorCode : Option String
  childRef : Option Json

/-- `UPDATE workflow_actions SET …` of `_finish_action`. -/
def Finish.set (a : Finish) (row : ActionRow) : ActionRow :=
  { row with
    state := a.state
    result := a.result
    errorCode := a.errorCode
    childState := some (if a.state = .completed then "succeeded" else "failed")
    childRef := a.childRef <|> row.childRef
    leaseOwner := none
    leaseExpiresAt := none }

@[simp] theorem Finish.set_actionId (a : Finish) (row : ActionRow) :
    (a.set row).actionId = row.actionId := rfl

/-- `_finish_action`. -/
def finishAction (s : Store) (actionId : ActionId) (worker : String) (a : Finish) :
    Except Failure (ActionRow × Store) := do
  let row ← requireAction s actionId
  if row.state = .completed ∨ row.state = .failed then
    check (row.state = a.state ∧ row.result = a.result ∧ row.errorCode = a.errorCode ∧
      (a.childRef = none ∨ row.childRef = a.childRef)) (conflict "workflow_action_conflict")
    return (row, s)
  else
    check ((row.state = .claimed ∨ row.state = .started) ∧ row.leaseOwner = some worker)
      (conflict "workflow_lease_lost")
    columnOption C a.result
    columnOption C a.childRef
    let s := s.setAction actionId a.set a.set_actionId
    let s ← appendEvent C s row.runId ("action_" ++ a.state.name)
      (.obj [("action_id", .str actionId), ("error_code", optionalText a.errorCode)])
    return (a.set row, s)

/-- `complete_action`. -/
def completed (result : Json) (childRef : Json) : Finish :=
  ⟨.completed, some result, none, some childRef⟩

/-- `fail_action`. -/
def failed (errorCode : String) : Finish := ⟨.failed, none, some errorCode, none⟩

/-- `UPDATE workflow_actions SET …` of `mark_action_outcome_unknown`. -/
def ActionRow.outcomeUnknown (errorCode : String) (row : ActionRow) : ActionRow :=
  { row with
    state := .outcomeUnknown
    childState := some "outcome_unknown"
    errorCode := some errorCode
    leaseOwner := none
    leaseExpiresAt := none }

@[simp] theorem ActionRow.outcomeUnknown_actionId (errorCode : String) (row : ActionRow) :
    (row.outcomeUnknown errorCode).actionId = row.actionId := rfl

/-- The run of an action whose outcome is unknown waits for recovery, unless it is done. -/
def recoverRun (s : Store) (runId : RunId) (actionId : ActionId) : Except Failure Store := do
  match (s.run? runId).filter (fun run => !isTerminalRun run.state) with
  | none => return s
  | some run =>
      check (runEdge run.state .waitingForRecovery) (conflict "recovery_transition_invalid")
      let s := s.setRun runId (RunRow.moved .waitingForRecovery)
        (RunRow.moved_runId .waitingForRecovery)
      appendEvent C s runId "waiting_for_recovery" (actionPayload actionId)

/-- `mark_action_outcome_unknown`. -/
def markActionOutcomeUnknown (s : Store) (actionId : ActionId) (worker : String)
    (errorCode : String) : Except Failure (ActionRow × Store) := do
  let row ← requireAction s actionId
  if row.state = .completed ∨ row.state = .failed ∨ row.state = .outcomeUnknown then
    return (row, s)
  else
    check (row.state = .started ∧ row.leaseOwner = some worker) (conflict "workflow_lease_lost")
    let s := s.setAction actionId (ActionRow.outcomeUnknown errorCode)
      (ActionRow.outcomeUnknown_actionId errorCode)
    let s ← recoverRun C s row.runId actionId
    let s ← appendEvent C s row.runId "action_outcome_unknown"
      (.obj [("action_id", .str actionId), ("error_code", .str errorCode)])
    return (row.outcomeUnknown errorCode, s)

/-- `UPDATE workflow_actions SET …` of `reclaim_expired_actions`. -/
def ActionRow.reclaimed (now : Instant) (row : ActionRow) : ActionRow :=
  if row.reclaimable now then { row with state := .pending, leaseOwner := none, leaseExpiresAt := none }
  else row

@[simp] theorem ActionRow.reclaimed_actionId (now : Instant) (row : ActionRow) :
    (row.reclaimed now).actionId = row.actionId := by
  unfold ActionRow.reclaimed
  split <;> rfl

/-- `reclaim_expired_actions`. -/
def reclaimExpiredActions (s : Store) (now : Instant) : Except Failure (Nat × Store) := do
  let rows := s.actions.rows.filter fun row => row.reclaimable now
  let t := s.setActions (ActionRow.reclaimed now) (ActionRow.reclaimed_actionId now)
  let t ← appendEvents C t (rows.map fun row =>
    (row.runId, "action_reclaimed", actionPayload row.actionId))
  return (rows.length, t)

/-- The states that a reconciliation port may answer. -/
inductive ReconcileState where
  | succeeded
  | failed
  | needsAttention
  | outcomeUnknown
  deriving DecidableEq, Repr

def ReconcileState.name : ReconcileState → String
  | .succeeded => "succeeded"
  | .failed => "failed"
  | .needsAttention => "needs_attention"
  | .outcomeUnknown => "outcome_unknown"

/-- What a reconciliation port answers; no state is any other text. -/
structure ReconcileOutcome where
  state : Option ReconcileState
  result : Option Json

/-- The fields of a result that are kept as the child's identity. -/
def childKeys : List String :=
  ["program_id", "program_revision", "preview_id", "intent_id", "consent_id", "job_id",
   "receipt_id", "recovery_id", "scene_id", "scene_digest", "source_digest",
   "source_snapshot_id", "document_revision"]

/-- `child_ref[key] = result[key]` for the fields that the result has. -/
def childRefWith (result : Json) (fields : List (String × Json)) : List (String × Json) :=
  childKeys.foldl (fun fields key =>
    match result.get? key with
    | some value => if value = .null then fields else withField fields key value
    | none => fields) fields

def fieldsOf : Option Json → List (String × Json)
  | some (.obj fields) => fields
  | _ => []

namespace ReconcileOutcome

def actionState : ReconcileState → ActionState
  | .succeeded => .completed
  | .outcomeUnknown => .outcomeUnknown
  | .failed | .needsAttention => .failed

def childRef (o : ReconcileOutcome) (row : ActionRow) : Option Json :=
  match (match o.result with
    | some result => childRefWith result (fieldsOf row.childRef)
    | none => fieldsOf row.childRef) with
  | [] => none
  | fields => some (.obj fields)

/-- `UPDATE workflow_actions SET …` of `record_reconciled_outcome`. -/
def set (o : ReconcileOutcome) (state : ReconcileState) (row : ActionRow) : ActionRow :=
  { row with
    state := actionState state
    childState := some state.name
    result := o.result
    childRef := o.childRef row }

@[simp] theorem set_actionId (o : ReconcileOutcome) (state : ReconcileState) (row : ActionRow) :
    (o.set state row).actionId = row.actionId := rfl

end ReconcileOutcome

/-- `UPDATE workflow_runs SET state='needs_attention' … AND state NOT IN (…)`. -/
def RunRow.attended (row : RunRow) : RunRow :=
  if isTerminalRun row.state then row else row.moved .needsAttention

@[simp] theorem RunRow.attended_runId (row : RunRow) : row.attended.runId = row.runId := by
  unfold RunRow.attended
  split <;> rfl

/-- `record_reconciled_outcome`. -/
def recordReconciledOutcome (s : Store) (actionId : ActionId) (o : ReconcileOutcome) :
    Except Failure (ActionRow × Store) := do
  match o.state with
  | none => throw (conflict "reconcile_outcome_invalid")
  | some state =>
      check (∀ result ∈ o.result, result.isDict = true) (conflict "reconcile_outcome_invalid")
      let row ← requireAction s actionId
      if row.state = .started ∨ row.state = .outcomeUnknown then
        columnOption C o.result
        columnOption C (o.childRef row)
        let s := s.setAction actionId (o.set state) (o.set_actionId state)
        let s := if state = .failed ∨ state = .needsAttention then
            s.setRun row.runId RunRow.attended RunRow.attended_runId
          else s
        let s ← appendEvent C s row.runId "action_reconciled"
          (.obj [("action_id", .str actionId), ("child_state", .str state.name)])
        return (o.set state row, s)
      else return (row, s)

/-! ## Ending a run -/

/-- An action that has not started is cancelled. -/
def ActionRow.cancelledFor (runId : RunId) (row : ActionRow) : ActionRow :=
  if row.runId = runId ∧ (row.state = .pending ∨ row.state = .claimed) then
    { row with state := .cancelled, leaseOwner := none, leaseExpiresAt := none }
  else row

@[simp] theorem ActionRow.cancelledFor_actionId (runId : RunId) (row : ActionRow) :
    (row.cancelledFor runId).actionId = row.actionId := by
  unfold ActionRow.cancelledFor
  split <;> rfl

def cancelActions (s : Store) (runId : RunId) : Store :=
  s.setActions (ActionRow.cancelledFor runId) (ActionRow.cancelledFor_actionId runId)

/-- A write of the run that may have had its effect. -/
def Store.startedWrite (s : Store) (runId : RunId) : Bool :=
  s.actions.rows.any fun row => row.runId = runId && row.effectClass = .write &&
    (row.state = .started || row.state = .outcomeUnknown)

/-- Where `cancel_run` takes the run. -/
def Store.cancelTarget (s : Store) (runId : RunId) : RunState :=
  if s.startedWrite runId then .waitingForRecovery else .cancelled

/-- `cancel_run`. -/
def cancelRun (s : Store) (owner : String) (runId : RunId) (expectedState : RunState)
    (expectedVersion : Nat) : Except Failure (RunRow × Store) := do
  let run ← requireRun s owner runId
  let target := s.cancelTarget runId
  requireFresh run expectedState expectedVersion
  check (isTerminalRun run.state = false) (conflict "terminal_immutable")
  if target = .cancelled then
    validateRunTransition expectedState target
  let s := s.setRun runId (RunRow.moved target) (RunRow.moved_runId target)
  let s := cancelActions s runId
  let s ← appendEvent C s runId "cancel_requested" (.obj [("result", .str target.name)])
  return (run.moved target, s)

/-- `security_revoke_run` and `mark_run_needs_attention`, which differ in the reason of the waits
and in the event. -/
def endRun (s : Store) (owner : String) (runId : RunId) (reason eventType : String)
    (payload : RunRow → Json) : Except Failure (RunRow × Store) := do
  let run ← requireRun s owner runId
  if isTerminalRun run.state then
    return (run, s)
  else
    let s := cancelActions s runId
    let s ← resolveOpenWaits C s runId reason
    let s := s.setRun runId (RunRow.moved .needsAttention) (RunRow.moved_runId .needsAttention)
    let s ← appendEvent C s runId eventType (payload run)
    return (run.moved .needsAttention, s)

/-- `security_revoke_run`. -/
def securityRevokeRun (s : Store) (owner : String) (runId : RunId) :
    Except Failure (RunRow × Store) :=
  endRun C s owner runId "skill_security_revoked" "skill_security_revoked"
    fun run => .obj [("previous_state", .str run.state.name)]

/-- `mark_run_needs_attention`. -/
def markRunNeedsAttention (s : Store) (owner : String) (runId : RunId) (reason : String) :
    Except Failure (RunRow × Store) :=
  endRun C s owner runId reason "workflow_needs_attention"
    fun run => .obj [("previous_state", .str run.state.name), ("reason", .str reason)]

/-! ## Control commands -/

/-- The arguments of `begin_control_command`. -/
structure BeginControl where
  ownerSubject : String
  runId : RunId
  action : ControlAction
  expectedStateVersion : Nat
  idempotencyKey : String
  payload : Json

def BeginControl.row (C : Codec) (a : BeginControl) : CommandRow where
  ownerSubject := a.ownerSubject
  runId := a.runId
  idempotencyKey := a.idempotencyKey
  action := a.action
  expectedStateVersion := a.expectedStateVersion
  payload := a.payload
  payloadDigest := C.digest a.payload
  result := none

def controlEvent (action : ControlAction) (idempotencyKey : String) : Json :=
  .obj [("action", .str action.name), ("idempotency_key", .str idempotencyKey)]

/-- `begin_control_command`; the flag says that the command existed. -/
def beginControlCommand (s : Store) (a : BeginControl) :
    Except Failure ((CommandRow × Bool) × Store) := do
  encode C eventLimit a.payload
  let run ← requireRun s a.ownerSubject a.runId
  match s.commands.get? (a.ownerSubject, a.idempotencyKey) with
  | some old =>
      check (old.runId = a.runId ∧ old.action = a.action ∧
        old.expectedStateVersion = a.expectedStateVersion ∧
        old.payloadDigest = C.digest a.payload) (conflict "idempotency_conflict")
      return ((old, true), s)
  | none =>
      check (run.stateVersion = a.expectedStateVersion) (conflict "stale_workflow_state")
      check (C.fitsColumn a.payload) .integrityError
      match s.commands.insert (a.row C) with
      | none => throw .integrityError
      | some commands =>
          let s ← appendEvent C { s with commands := commands } a.runId "control_started"
            (controlEvent a.action a.idempotencyKey)
          return ((a.row C, false), s)

/-- `UPDATE workflow_control_commands SET state='completed',…`. -/
def CommandRow.completedWith (result : Json) (row : CommandRow) : CommandRow :=
  { row with result := some result }

@[simp] theorem CommandRow.completedWith_key (result : Json) (row : CommandRow) :
    (row.completedWith result).key = row.key := rfl

/-- `complete_control_command`. -/
def completeControlCommand (s : Store) (owner : String) (idempotencyKey : String) (result : Json) :
    Except Failure (CommandRow × Store) := do
  encode C eventLimit result
  match s.commands.get? (owner, idempotencyKey) with
  | none => throw (conflict "not_found")
  | some row =>
      match row.result with
      | some old =>
          check (old = result) (conflict "idempotency_conflict")
          return (row, s)
      | none =>
          check (C.fitsColumn result) .integrityError
          let s : Store := { s with
            commands := s.commands.modify (owner, idempotencyKey) (CommandRow.completedWith result)
              (CommandRow.completedWith_key result) }
          let s ← appendEvent C s row.runId "control_completed"
            (controlEvent row.action idempotencyKey)
          return (row.completedWith result, s)

end

end AutocadMcp.Workflow
