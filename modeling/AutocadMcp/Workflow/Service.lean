import AutocadMcp.Lib.Process
import AutocadMcp.Workflow.Runner

/-!
# The workflow service

`WorkflowApplicationService` of `workflows/service.py` with the runner it calls. Each
function is a program: its calls of the repository are transactions, and the
catalog's status table, the ports and the resolvers are asked. The validation of a
value against a schema, the support of a skill on a device and the cleanup planner
are parameters.
-/

namespace AutocadMcp.Workflow.Service

/-- What the service asks of other components. -/
inductive Query where
  | skillStatus (skillId version : String)
  | channel (skillId : String)
  | deviceContext (owner deviceId : String)
  | snapshot (owner deviceId snapshotId : String)
  | preflight (kind : ActionKind) (payload : Json)
  | dispatch (kind : ActionKind) (payload : Json) (idempotencyKey : String)
  | lookup (kind : ActionKind) (childRef : Json) (idempotencyKey : String)
  | commitStatus (owner intentId : String)
  | sourceDigest (owner deviceId : String) (snapshotId revision : Option String)
  deriving DecidableEq

/-- The time of a transaction and the id that it may give a new row. -/
structure Tick where
  now : Instant
  fresh : String

/-- What a control command is to do, under its key: to cancel or resume its run, or to answer a
wait of it with a payload. -/
structure Effect where
  ownerSubject : String
  runId : RunId
  idempotencyKey : String
  action : ControlAction
  payload : Json
  deriving DecidableEq

/-- What a control command has returned. -/
structure Reply where
  effect : Effect
  result : Json
  deriving DecidableEq

/-- What a control command may find that it takes for its own doing, or does again. -/
inductive Stray where
  /-- The command is in progress and its run has moved on, but not by the command. -/
  | changedByOthers (e : Effect)
  /-- There is an open wait, and the key has answered one before. -/
  | openedAgain (e : Effect)
  /-- A wait was found for a key that has answered none. -/
  | foundByLikeness (runId : RunId) (idempotencyKey : String)
  deriving DecidableEq

/-- The database, and a record that no code reads: what the control commands have done, what they
have found and what they returned. -/
structure State where
  store : Store
  effects : List Effect
  strays : List Stray
  replies : List Reply

abbrev signature : Signature := ⟨State, Tick, Query, Json, Failure⟩

abbrev Program := Prog signature

/-- A step of a workflow definition. -/
structure WorkflowStep where
  stepId : StepId
  kind : String
  inputRef : Json
  dependsOn : List StepId

/-- A skill of the catalog with the workflow that it refers to. -/
structure Manifest where
  skillId : String
  version : String
  manifestDigest : String
  requiredScopes : List String
  inputSchema : Json
  planned : Bool
  workflowId : String
  workflowVersion : String
  workflowDigest : String
  steps : List WorkflowStep

def writeScope : String := "autocad.write"

def Manifest.writes (m : Manifest) : Bool := writeScope ∈ m.requiredScopes

def cleanupAudit : String := "drawing.cleanup-audit"

def autoDimension : String := "mechanical.auto-dimension-overall"

/-- The service as it was put together. The cleanup audit is a skill that only reads. -/
structure Config where
  codec : Codec
  /-- The text of a JSON column. -/
  text : Json → List Char
  /-- `SkillCatalog.resolve`. -/
  resolve : String → Option String → Option Manifest
  resolves : ∀ skillId version m, resolve skillId (some version) = some m →
    m.skillId = skillId ∧ m.version = version
  auditReads : ∀ skillId version m, resolve skillId version = some m → m.writes = true →
    m.skillId ≠ cleanupAudit
  enabled : Bool
  writeEnabled : Bool
  allowlist : List String
  enabledSkills : List String
  policyEpoch : Nat
  plannerDigest : String
  templateDigest : String
  scenePort : Bool
  /-- `_validate_schema`. -/
  fitsSchema : Json → Json → Bool
  /-- The state of `_support`. -/
  support : Manifest → String → Json → String
  /-- The hexadecimal digest that a scene action's key is made of. -/
  sceneHash : List String → String
  /-- `audit_cleanup`. -/
  auditCleanup : Json → Json → Json → Except Failure Json

/-- `WorkflowServiceError`. -/
def refuse {α : Type} (code : String) : Program α := throw (.workflowServiceError code)

/-- `getattr(error, "code", "backend_error")`. -/
def serviceCode : Failure → String
  | .repositoryConflict code | .portError code => code
  | _ => "backend_error"

/-- `except RepositoryConflict as error: raise WorkflowServiceError(str(error))`. -/
def conflictsRefused {α : Type} (m : Program α) : Program α :=
  tryCatch m fun
    | .repositoryConflict code => refuse code
    | e => throw e

/-- `except Exception as error: raise WorkflowServiceError(code)`. -/
def allRefused {α : Type} (code : Failure → String) (m : Program α) : Program α :=
  tryCatch m fun e => refuse (code e)

def ask (q : Query) : Program Json := Prog.question q

/-! ## The repository -/

section

variable {α : Type}

def fetch (f : Store → Except Failure α) : Program α := Prog.read fun s => f s.store

/-- A read of a control command, and what it found that is not as it seems. -/
def observe (f : Store → Except Failure α) (strays : State → α → List Stray) : Program α :=
  .perform fun _ s => (f s.store).map fun a => (a, { s with strays := s.strays ++ strays s a })

def transact (f : Tick → Store → Except Failure (α × Store)) : Program α :=
  .perform fun tick s => (f tick s.store).map fun out => (out.1, { s with store := out.2 })

/-- A transaction that carries out a control command, unless what it returns says that there was
nothing to do. -/
def effect (e : Effect) (done : α → Bool) (f : Tick → Store → Except Failure (α × Store)) :
    Program α :=
  .perform fun tick s =>
    (f tick s.store).map fun out =>
      (out.1, { s with
        store := out.2, effects := if done out.1 then s.effects ++ [e] else s.effects })

/-- The caller of a control command has its answer. -/
def reply (r : Reply) : Program Unit :=
  .perform fun _ s => .ok ((), { s with replies := s.replies ++ [r] })

end

def getRun (owner : String) (runId : RunId) : Program (Option RunRow) :=
  fetch fun s => .ok (s.getRun owner runId)

/-- `get_run` where the caller uses the run. -/
def currentRun (owner : String) (runId : RunId) : Program RunRow :=
  fetch fun s =>
    match s.getRun owner runId with
    | some run => .ok run
    | none => .error (.portError "TypeError")

def listSteps (owner : String) (runId : RunId) : Program (List StepRow) :=
  fetch fun s => (requireRun s owner runId).map fun _ => s.stepsOf runId

def listActions (owner : String) (runId : RunId) : Program (List ActionRow) :=
  fetch fun s => (requireRun s owner runId).map fun _ => s.actionsOf runId

/-- `current_wait`. -/
def currentWait (owner : String) (runId : RunId) : Program (Option WaitRow) :=
  fetch fun s => (requireRun s owner runId).map fun _ => (s.openWaits runId).getLast?

/-- `started_control_command`. -/
def startedControlCommand (owner : String) (runId : RunId) (action : ControlAction) :
    Program (Option CommandRow) :=
  fetch fun s => (requireRun s owner runId).map fun _ =>
    s.commands.rows.find? fun row => row.ownerSubject = owner ∧ row.runId = runId ∧
      row.action = action ∧ row.result = none

/-- The wait was resolved with a response under this key. -/
def answers (idempotencyKey : String) (row : WaitRow) : Bool :=
  row.resolution.any fun value => value.get? "idempotency_key" = some (.str idempotencyKey)

/-- Some wait of the run was. -/
def answeredUnder (s : Store) (runId : RunId) (idempotencyKey : String) : Bool :=
  s.waits.rows.any fun row => row.runId = runId && answers idempotencyKey row

/-- The case folding of `LIKE`, which knows ASCII. -/
def foldAscii (c : Char) : Char := if c.isUpper then c.toLower else c

/-- `text LIKE pattern`. -/
def like : List Char → List Char → Bool
  | [], text => text.isEmpty
  | '%' :: pattern, text => text.tails.any fun rest => like pattern rest
  | '_' :: pattern, text =>
      match text with
      | [] => false
      | _ :: rest => like pattern rest
  | p :: pattern, text =>
      match text with
      | [] => false
      | c :: rest => foldAscii p = foldAscii c && like pattern rest

/-- `f'%"idempotency_key":"{idempotency_key}"%'`. -/
def commandPattern (idempotencyKey : String) : List Char :=
  "%\"idempotency_key\":\"".toList ++ idempotencyKey.toList ++ "\"%".toList

/-- The last step of that name, as in a dictionary by step id. -/
def stepNamed (steps : List StepRow) (stepId : StepId) : Option StepRow :=
  (steps.filter fun row => row.stepId = stepId).getLast?

def theStep (steps : List StepRow) (stepId : StepId) : Program StepRow :=
  match stepNamed steps stepId with
  | some row => pure row
  | none => throw (.portError "KeyError")

/-- `(step.get("output_ref") or {}).get("result")`; a `None` there is no result. -/
def resultOf (row : StepRow) : Option Json :=
  ((row.outputRef.bind fun value => value.get? "result").filter fun value => value ≠ .null)

/-- `{"result": value}`. -/
def asResult (value : Json) : Json := .obj [("result", value)]

/-- The string field of a value. -/
def textField (value : Json) (key : String) : Option String := (value.get? key).bind Json.str?

def listField (value : Json) (key : String) : List Json :=
  match value.get? key with
  | some (.arr items) => items
  | _ => []

def texts (items : List Json) : List String := items.filterMap Json.str?

section

variable (W : Config)

/-- `wait_resolved_by_command`. -/
def waitResolvedByCommand (owner : String) (runId : RunId) (idempotencyKey : String) :
    Program (Option WaitRow) :=
  observe (fun s => (requireRun s owner runId).map fun _ =>
    (s.waits.rows.filter fun row => row.runId = runId ∧
      row.resolution.any fun value => like (commandPattern idempotencyKey) (W.text value)).getLast?)
    fun s found =>
      if found ≠ none ∧ answeredUnder s.store runId idempotencyKey = false then
        [.foundByLikeness runId idempotencyKey]
      else []

def transitionStep (run : RunRow) (stepId : StepId) (row : StepRow) (target : StepState)
    (outputRef : Option Json) : Program StepRow :=
  transact fun _ s => Workflow.transitionStep W.codec s
    ⟨run.ownerSubject, run.runId, stepId, 1, row.state, row.stateVersion, target, outputRef,
      none⟩

/-- `_ready_step`. -/
def readyStep (run : RunRow) (stepId : StepId) : Program StepRow :=
  transact fun _ s => Workflow.transitionStep W.codec s
    ⟨run.ownerSubject, run.runId, stepId, 1, .pending, 0, .ready, none, none⟩

def transitionRun (run : RunRow) (target : RunState) (currentStepId : Option StepId)
    (eventType : String) : Program RunRow :=
  transact fun _ s => Workflow.transitionRun W.codec s
    ⟨run.ownerSubject, run.runId, run.state, run.stateVersion, target, currentStepId, eventType⟩

def createWait (run : RunRow) (stepId : StepId) (waitKind : WaitKind) (responseSchema : Json) :
    Program WaitRow :=
  transact fun tick s => Workflow.createWait W.codec s
    ⟨run.ownerSubject, run.runId, stepId, waitKind, run.stateVersion, responseSchema, tick.fresh⟩

def resolveOpenWaitsSystem (run : RunRow) (reason : String) : Program Nat :=
  transact fun _ s => Workflow.resolveOpenWaitsSystem W.codec s run.ownerSubject run.runId reason

def insertAction (a : InsertAction) : Program (ActionRow × Bool) :=
  transact fun _ s => Workflow.insertAction W.codec s a

def markRunNeedsAttention (run : RunRow) (reason : String) : Program RunRow :=
  transact fun _ s => Workflow.markRunNeedsAttention W.codec s run.ownerSubject run.runId reason

def securityRevokeRun (run : RunRow) : Program RunRow :=
  transact fun _ s => Workflow.securityRevokeRun W.codec s run.ownerSubject run.runId

def completeControlCommand (owner idempotencyKey : String) (result : Json) : Program CommandRow :=
  transact fun _ s => Workflow.completeControlCommand W.codec s owner idempotencyKey result

/-! ## The runner -/

def workerId : String := "phase9-gateway"

def leaseSeconds : Nat := 30

def failAction (action : ActionRow) (e : Failure) : Program Unit := do
  let _ ← transact fun _ s =>
    finishAction W.codec s action.actionId workerId (failed e.errorCode)
  return ()

/-- `run_once` up to the durable start. -/
def startDispatch (action : ActionRow) : Program ActionRow := do
  let _ ← Prog.ofExcept (validateSafeRetry action.childState action.effectClass)
  let _ ← ask (.preflight action.actionKind action.payload)
  if action.actionKind.isScene && !W.scenePort then throw .valueError
  else transact fun tick s =>
    markDispatchStarted W.codec s action.actionId workerId tick.now

/-- `run_once` after the durable start. -/
def finishDispatch (action : ActionRow) : Program Unit := do
  let result ← ask (.dispatch action.actionKind action.payload action.idempotencyKey)
  let _ ← transact fun _ s => finishAction W.codec s action.actionId workerId
    (completed result (dispatchRef action result))
  return ()

/-- The handler of `run_once` for an exception after the durable start. -/
def dispatchRaised (action : ActionRow) (e : Failure) : Program Unit :=
  if action.effectClass = .write then do
    let _ ← transact fun _ s =>
      markActionOutcomeUnknown W.codec s action.actionId workerId e.errorCode
    return ()
  else failAction W action e

def started (action : ActionRow) : Program (Except Failure ActionRow) :=
  tryCatch (do return .ok (← startDispatch W action)) fun e => return .error e

def runStarted (claimed : ActionRow) : Except Failure ActionRow → Program Unit
  | .error e => failAction W claimed e
  | .ok action => tryCatch (finishDispatch W action) fun e => dispatchRaised W action e

def runClaimed : Option ActionRow → Program Bool
  | none => return false
  | some action => do
      let outcome ← started W action
      runStarted W action outcome
      return true

/-- `run_once`. -/
def runOnce : Program Bool := do
  let claimed ← transact fun tick s => claimAction W.codec s workerId leaseSeconds tick.now
  runClaimed W claimed

/-- `outcome.get("state")` and `outcome.get("result")`. -/
def outcomeOf (value : Json) : ReconcileOutcome where
  state :=
    match textField value "state" with
    | some "succeeded" => some .succeeded
    | some "failed" => some .failed
    | some "needs_attention" => some .needsAttention
    | some "outcome_unknown" => some .outcomeUnknown
    | _ => none
  result := (value.get? "result").filter fun result => result ≠ .null

/-- One action of `WorkflowRunner.reconcile_restart`. -/
def reconcileAction (action : ActionRow) : Program Unit :=
  match action.childRef with
  | none => return ()
  | some childRef =>
      if action.actionKind.isScene && !W.scenePort then return ()
      else do
        let outcome ← tryCatch
          (ask (.lookup action.actionKind childRef action.idempotencyKey))
          fun _ => return .null
        if outcome = .null then return ()
        else do
          let _ ← transact fun _ s =>
            recordReconciledOutcome W.codec s action.actionId (outcomeOf outcome)
          return ()

/-- `WorkflowRunner.reconcile_restart`. -/
def reconcileActions : Program Unit := do
  let _ ← transact fun tick s => reclaimExpiredActions W.codec s tick.now
  let actions ← fetch fun s => .ok s.actionsForReconcile
  Prog.forEach actions (reconcileAction W)

/-! ## Steps and waits -/

def readied (run : RunRow) (stepId : StepId) (step : StepRow) : Program StepRow :=
  if step.state = .pending then readyStep W run stepId else return step

def begun (run : RunRow) (stepId : StepId) (step : StepRow) : Program StepRow :=
  if step.state = .ready then transitionStep W run stepId step .running none else return step

/-- `_complete_step_idempotently`. -/
def completeStep (run : RunRow) (stepId : StepId) (output : Json) (target : StepState) :
    Program StepRow := do
  let steps ← listSteps run.ownerSubject run.runId
  let step ← theStep steps stepId
  if step.state = target then return step
  else do
    let step ← readied W run stepId step
    let step ← begun W run stepId step
    if step.state = .running then transitionStep W run stepId step target (some output)
    else refuse "invalid_workflow_state"

/-- `_complete_step_idempotently` for some steps. -/
def completeSteps (run : RunRow) (stepIds : List StepId) (output : StepId → Json) : Program Unit :=
  Prog.forEach stepIds fun stepId => do
    let _ ← completeStep W run stepId (output stepId) .succeeded
    return ()

/-- The schema of a review. -/
def decisionSchema : Json :=
  .obj [("additionalProperties", .bool false),
    ("properties", .obj [("decision", .obj [("const", .str "continue"), ("type", .str "string")])]),
    ("required", .arr [.str "decision"]),
    ("type", .str "object")]

def emptySchema : Json :=
  .obj [("additionalProperties", .bool false), ("properties", .obj []), ("type", .str "object")]

def createReviewWait (run : RunRow) : Program Unit := do
  let _ ← createWait W run "review" .userInput decisionSchema
  return ()

def createCommitWait (run : RunRow) (waitKind : WaitKind) : Program Unit := do
  let _ ← createWait W run "commit" waitKind emptySchema
  return ()

/-- `_heal_user_input_wait`. -/
def healUserInputWait (run : RunRow) : Program Unit :=
  if run.state = .waitingForUser then do
    let steps ← listSteps run.ownerSubject run.runId
    if ((stepNamed steps "review").any fun step => step.state = .waiting) then createReviewWait W run
    else return ()
  else return ()

/-- `_require_continuation_allowed`. -/
def requireContinuationAllowed (run : RunRow) : Program Unit := do
  let status ← tryCatch (ask (.skillStatus run.skillId run.skillVersion))
    fun _ => refuse "not_found"
  if status = .str "security_revoked" then refuse "skill_security_revoked"
  else if status = .str "withdrawn" then refuse "skill_withdrawn"
  else return ()

/-- `_published_manifest`. -/
def publishedManifest (skillId version : String) : Program Manifest :=
  match W.resolve skillId (some version) with
  | none => refuse "not_found"
  | some manifest => do
      let status ← tryCatch (ask (.skillStatus skillId version))
        fun _ => refuse "not_found"
      if status = .str "withdrawn" ∨ status = .str "security_revoked" then refuse "not_found"
      else return manifest

/-- `_required_next_action(run, None)`. -/
def nextActionOfRun (state : RunState) : Json :=
  match state with
  | .running | .waitingForJob => .str "wait"
  | .waitingForUser => .str "submit_input"
  | .waitingForTrustedApproval => .str "approve_in_portal"
  | .waitingForRecovery => .str "operator_recovery"
  | .paused => .str "resume"
  | _ => .null

/-- `_required_next_action`. -/
def requiredNextAction (state : RunState) (wait : Option WaitRow) : Json :=
  if isTerminalRun state then .null
  else
    match wait with
    | none => nextActionOfRun state
    | some wait =>
        match wait.waitKind with
        | .userInput => .str "submit_input"
        | .trustedApproval => .str "approve_in_portal"
        | .job => .str "wait"
        | .recovery => .str "operator_recovery"
        | .programRevision => .null

/-- `_run_response`. -/
def runResponse (run : RunRow) (replay : Bool) : Json :=
  .obj [
    ("current_step_id", optionalText run.currentStepId),
    ("pins", run.pins),
    ("replayed", .bool replay),
    ("required_next_action", requiredNextAction run.state none),
    ("resource_uri", .str ("cad://workflows/" ++ run.runId)),
    ("run_id", .str run.runId),
    ("state", .str run.state.name),
    ("state_version", .num run.stateVersion)]

end

end AutocadMcp.Workflow.Service
