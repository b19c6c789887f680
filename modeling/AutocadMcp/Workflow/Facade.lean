import AutocadMcp.Workflow.Flows

/-!
# The facade of the workflow service

The preview and the commit of a write, what `_resume_run` does with a run, and the
calls that come from outside: `start`, `control`, `get`, the runner, the maintenance
and the reconciliation after a restart. `program` gives the program of each.
-/

namespace AutocadMcp.Workflow.Service

section

variable (W : Config)

/-! ## Previews and commits -/

/-- `_request_commit` where the commit step waits or has to be run. -/
def commitPayload (run : RunRow) (previewId : String) (scopes : List String) : Json :=
  .obj [
    ("owner_subject", .str run.ownerSubject),
    ("preview_id", .str previewId),
    ("scopes", strings scopes),
    ("skill_id", .str run.skillId),
    ("skill_version", .str run.skillVersion)]

/-- The outbox action of a commit: its intent, or nothing where it has not completed. -/
def commitIntent (run : RunRow) (previewId : String) (scopes : List String) :
    Program (Option Json) :=
  allRefused serviceCode do
    let _ ← insertAction W ⟨run.ownerSubject, run.runId, "commit", 1, .commit,
      commitPayload run previewId scopes, .notStarted, .write, none⟩
    let _ ← runOnce W
    let action ← theAction run .commit
    return completedResult action

/-- The end of `_request_commit`: the run waits for the approval of its intent. -/
def awaitApproval (run : RunRow) : Program RunRow := do
  let current ← currentRun run.ownerSubject run.runId
  if current.state = .waitingForRecovery then do
    reconcileCommitStatus W current
    currentRun run.ownerSubject run.runId
  else do
    let current ← (if current.state = .running then
        transitionRun W current .waitingForTrustedApproval (some "commit")
          "trusted_approval_required"
      else return current)
    if current.state = .waitingForTrustedApproval then do
      createCommitWait W current .trustedApproval
      return current
    else return current

/-- `_request_commit` from a commit step that is pending, ready, running or waiting. -/
def commitFrom (run : RunRow) (commit : StepRow) (previewId : String) (scopes : List String) :
    Program RunRow :=
  if commit.state = .waiting then
    if ((resultOf commit).any Json.isDict) then awaitApproval W run
    else refuse "binding_mismatch"
  else if commit.state = .running then do
    match ← commitIntent W run previewId scopes with
    | none => currentRun run.ownerSubject run.runId
    | some intent => do
        let _ ← transitionStep W run "commit" commit .waiting (some (asResult intent))
        awaitApproval W run
  else refuse "invalid_workflow_state"

/-- `_request_commit`. -/
def requestCommit (run : RunRow) (previewId : String) (scopes : List String) :
    Program RunRow := do
  requireContinuationAllowed run
  let steps ← listSteps run.ownerSubject run.runId
  let commit ← theStep steps "commit"
  let commit ← readied W run "commit" commit
  let commit ← begun W run "commit" commit
  commitFrom W run commit previewId scopes

/-- `_request_auto_dimension_commit`. -/
def requestAutoDimensionCommit (run : RunRow) (scopes : List String) : Program RunRow := do
  let steps ← listSteps run.ownerSubject run.runId
  let review ← theStep steps "review"
  match (resultOf review).bind fun preview => textField preview "preview_id" with
  | none => refuse "binding_mismatch"
  | some previewId => do
      acceptReview W run review
      let running ← currentRun run.ownerSubject run.runId
      let running ← (if running.state = .waitingForUser then
          transitionRun W running .running (some "commit") "submit_input"
        else return running)
      if running.state = .running then requestCommit W running previewId scopes
      else return running

def previewPayload (run : RunRow) (inputs : Json) (scopes : List String) : Json :=
  .obj [
    ("device_id", .str run.deviceId),
    ("inputs", inputs),
    ("owner_subject", .str run.ownerSubject),
    ("scopes", strings scopes),
    ("skill_id", .str run.skillId),
    ("skill_version", .str run.skillVersion),
    ("snapshot_id", optionalText run.initialSnapshotId)]

/-- What a preview that has not completed leaves: the run, or the output of a completed one. -/
def previewOutcome (run : RunRow) (action : ActionRow) : Program (RunRow ⊕ Json) :=
  match completedResult action with
  | some output => return .inr output
  | none =>
      if action.state = .failed then do
        let run ← markRunNeedsAttention W run ("preview_action_failed:" ++ errorCodeOr action)
        return .inl run
      else if action.errorCode = some "skill_security_revoked" ∨
          action.errorCode = some "skill_withdrawn" then do
        let run ← securityRevokeRun W run
        return .inl run
      else do
        let run ← currentRun run.ownerSubject run.runId
        return .inl run

def previewAction (run : RunRow) (inputs : Json) (scopes : List String) :
    Program (RunRow ⊕ Json) :=
  allRefused serviceCode do
    let _ ← insertAction W ⟨run.ownerSubject, run.runId, "preview", 1, .preview,
      previewPayload run inputs scopes, .read, .read, none⟩
    let _ ← runOnce W
    let action ← theAction run .preview
    previewOutcome W run action

/-- The steps that a preview completes. -/
def previewSteps (skillId : String) : List StepId :=
  if skillId = autoDimension then ["observe", "query", "pure", "prepare", "preview"]
  else ["pure", "prepare", "preview"]

/-- The review of an automatic dimensioning. -/
def reviewPreview (run : RunRow) (preview : Json) : Program RunRow := do
  let _ ← completeStep W run "review" (asResult preview) .waiting
  let waiting ← currentRun run.ownerSubject run.runId
  let waiting ← (if waiting.state = .running then
      transitionRun W waiting .waitingForUser (some "review") "preview_ready"
    else return waiting)
  healUserInputWait W waiting
  return waiting

def afterPreview (run : RunRow) (scopes : List String) : RunRow ⊕ Json → Program RunRow
  | .inl run => return run
  | .inr output => do
      completeSteps W run (previewSteps run.skillId) fun stepId =>
        asResult ((output.get? stepId).getD (.obj []))
      match output.get? "preview" with
      | none => throw (.portError "KeyError")
      | some preview =>
          if run.skillId = autoDimension then reviewPreview W run preview
          else
            match textField preview "preview_id" with
            | none => throw (.portError "KeyError")
            | some previewId => requestCommit W run previewId scopes

/-- `_advance_write_preview`. -/
def advanceWritePreview (run : RunRow) (inputs : Json) (scopes : List String) :
    Program RunRow := do
  let outcome ← previewAction W run inputs scopes
  afterPreview W run scopes outcome

/-! ## Taking a run on -/

/-- The wait that the oldest command in progress has resolved. -/
def resolvedBy (run : RunRow) : Option CommandRow → Program (Option WaitRow)
  | none => return none
  | some command => waitResolvedByCommand W run.ownerSubject run.runId command.idempotencyKey

/-- The preview of `_resume_write_run`, once its inputs are known; the flag says to go on. -/
def previewWith (run : RunRow) (scopes : List String) : Option Json → Program Bool
  | none => return false
  | some inputs => do
      let _ ← advanceWritePreview W run inputs scopes
      return true

/-- `_resume_write_run` for an automatic dimensioning after the check of its review. -/
def continueAutoDimension (run : RunRow) (manifest : Manifest) (review : StepRow)
    (scopes : List String) : Program Bool :=
  if (review.state = .waiting ∨ review.state = .succeeded) ∧
      (run.state = .waitingForUser ∨ run.state = .running) then do
    let _ ← requestAutoDimensionCommit W run scopes
    return true
  else if run.state = .running then do
    let inputs ← (if manifest.version = "1.0.0" then return some run.inputs
      else autoDimensionSceneInputs W run run.inputs)
    previewWith W run scopes inputs
  else return true

def advanceAutoDimension (run : RunRow) (manifest : Manifest) (review : StepRow)
    (command : Option CommandRow) (scopes : List String) : Program Bool :=
  if review.state = .waiting ∧ run.state = .waitingForUser then do
    match ← resolvedBy W run command with
    | none => do
        healUserInputWait W run
        return false
    | some _ => continueAutoDimension W run manifest review scopes
  else continueAutoDimension W run manifest review scopes

/-- `_resume_write_run` for the other write skills. -/
def advanceTemplate (run : RunRow) (preview commit : StepRow) (scopes : List String) :
    Program Bool :=
  if run.state = .running then
    match (resultOf preview).bind fun result => textField result "preview_id" with
    | some previewId =>
        if commit.state = .ready ∨ commit.state = .running ∨ commit.state = .waiting then do
          let _ ← requestCommit W run previewId scopes
          return true
        else do
          let _ ← advanceWritePreview W run run.inputs scopes
          return true
    | none => do
        let _ ← advanceWritePreview W run run.inputs scopes
        return true
  else return true

/-- A commit that completed while the run waited for recovery is taken up again. -/
def takeUpCommit (run : RunRow) (actions : List ActionRow) : Program RunRow :=
  match actions.find? fun action => action.actionKind = .commit ∧ action.state = .completed with
  | some action =>
      if run.state = .waitingForRecovery then
        match textField action.payload "preview_id" with
        | some previewId => requestCommit W run previewId (texts (listField action.payload "scopes"))
        | none => throw (.portError "KeyError")
      else return run
  | none => return run

/-- The end of `_resume_write_run`. -/
def settleWriteRun (before : RunRow) : Program RunRow := do
  let run ← currentRun before.ownerSubject before.runId
  let actions ← listActions before.ownerSubject before.runId
  let run ← takeUpCommit W run actions
  (if waitsForCommit before.state ∧ waitsForCommit run.state then reconcileCommitStatus W run
    else return ())
  currentRun before.ownerSubject before.runId

/-- `_resume_write_run` once the commit is known not to have succeeded; the flag says whether the
end of it is reached. -/
def advanceWriteRun (run : RunRow) (manifest : Manifest) (steps : List StepRow)
    (commit : StepRow) (scopes : List String) : Program Bool := do
  let command ← startedControlCommand run.ownerSubject run.runId .submitInput
  if manifest.skillId = autoDimension then do
    let review ← theStep steps "review"
    advanceAutoDimension W run manifest review command scopes
  else if run.state = .running then do
    let preview ← theStep steps "preview"
    advanceTemplate W run preview commit scopes
  else return true

/-- `_resume_write_run`. -/
def resumeWriteRun (run : RunRow) (manifest : Manifest) (scopes : List String) :
    Program RunRow := do
  let steps ← listSteps run.ownerSubject run.runId
  let commit ← theStep steps "commit"
  if commit.state = .succeeded then
    finishWriteAfterCommit W run ((resultOf commit).getD (.obj []))
  else do
    let settles ← advanceWriteRun W run manifest steps commit scopes
    if settles then settleWriteRun W run else currentRun run.ownerSubject run.runId

/-- The scopes that the run was started or last acted with. -/
def durableScopes (run : RunRow) (scopes : List String) (actions : List ActionRow) :
    List String :=
  if scopes ≠ [] then scopes
  else
    match actions.find? fun action =>
        ((action.payload.get? "scopes").getD .null).truthy with
    | some action => texts (listField action.payload "scopes")
    | none => texts (listField run.pins "actor_scopes")

/-- A command in progress whose wait is resolved has been carried out by the resumption. -/
def completeResumed (run : RunRow) : Program RunRow := do
  match ← startedControlCommand run.ownerSubject run.runId .submitInput with
  | none => return run
  | some command => do
      let resolved ← resolvedBy W run (some command)
      (if resolved.isSome ∧ run.state ≠ .running then do
          let _ ← completeControlCommand W run.ownerSubject command.idempotencyKey
            (runResponse run false)
          return ()
        else return ())
      return run

/-- `_resume_run` of a cleanup audit. -/
def resumeCleanupAudit (run : RunRow) (manifest : Manifest) (snapshot : Option Json) :
    Program RunRow :=
  if run.state ≠ .running ∧ run.state ≠ .waitingForUser then return run
  else if manifest.version ≠ "1.0.0" then advanceSceneCleanupAudit W run run.inputs
  else
    match snapshot, run.initialSnapshotId.filter (· ≠ "") with
    | some snapshot, _ => advanceCleanupAudit W run snapshot run.inputs
    | none, none => refuse "feature_disabled"
    | none, some snapshotId => do
        let snapshot ← ask (.snapshot run.ownerSubject run.deviceId snapshotId)
        advanceCleanupAudit W run snapshot run.inputs

/-- `_resume_run` of a write. -/
def resumeWrite (run : RunRow) (manifest : Manifest) (scopes : List String) :
    Program RunRow := do
  let actions ← listActions run.ownerSubject run.runId
  let scopes := durableScopes run scopes actions
  if writeScope ∈ scopes then do
    let run ← resumeWriteRun W run manifest scopes
    completeResumed W run
  else markRunNeedsAttention W run "write_scope_evidence_missing"

def resumeWith (run : RunRow) (manifest : Manifest) (snapshot : Option Json)
    (scopes : List String) : Program RunRow :=
  if manifest.skillId = cleanupAudit then resumeCleanupAudit W run manifest snapshot
  else if manifest.writes then resumeWrite W run manifest scopes
  else return run

/-- `_resume_run` without its keyword arguments. -/
def resumeRun (run : RunRow) : Program RunRow :=
  if isTerminalRun run.state then return run
  else do
    let manifest ← publishedManifest W run.skillId run.skillVersion
    resumeWith W run manifest none []

/-! ## Calls from outside -/

/-- `_ID.fullmatch`. -/
def isBoundedId (value : String) : Bool :=
  match value.toList with
  | [] => false
  | c :: rest => c.isAlphanum && rest.length ≤ 159 &&
      rest.all fun c => c.isAlphanum || c ∈ ['.', '_', ':', '-']

def boundedId (value field : String) : Program Unit :=
  if isBoundedId value then return () else refuse ("invalid_" ++ field)

/-- The arguments of `start`; `insertable` is false where a constraint on the catalog tables
fails. -/
structure StartArgs where
  ownerSubject : String
  actorSubject : String
  skillId : String
  version : Option String
  deviceId : String
  sourceSnapshotId : Option String
  inputs : Json
  idempotencyKey : String
  scopes : List String
  insertable : Bool

/-- `_skill_enabled`. -/
def skillEnabled (skillId : String) : Bool :=
  (W.allowlist = [] || skillId ∈ W.allowlist) && skillId ∈ W.enabledSkills

/-- The snapshot that the run is pinned to. -/
def StartArgs.pinnedSnapshot (a : StartArgs) : Option String :=
  a.sourceSnapshotId <|> textField a.inputs "source_snapshot_id"

def StartArgs.bindingMismatch (a : StartArgs) : Bool :=
  a.sourceSnapshotId ≠ none &&
    ((a.inputs.get? "source_snapshot_id").any fun value =>
      value ≠ .null && value ≠ optionalText a.sourceSnapshotId)

def resolveSnapshot (a : StartArgs) : Program (Option Json) :=
  match a.pinnedSnapshot with
  | none => return none
  | some snapshotId => do
      let snapshot ← tryCatch (ask (.snapshot a.ownerSubject a.deviceId snapshotId))
        fun _ => refuse "not_found"
      return some snapshot

/-- The pins of a run. -/
def pinsOf (m : Manifest) (epoch : Json) (scopes : List String) : Json :=
  .obj [
    ("actor_scopes", strings (sortedSet scopes)),
    ("catalog_epoch", epoch),
    ("planner_registry_hash", .str (if m.planned then W.plannerDigest else W.templateDigest)),
    ("planner_registry_version", .str "phase9-first-party/1"),
    ("policy_epoch", .num W.policyEpoch),
    ("skill_digest", .str m.manifestDigest),
    ("skill_id", .str m.skillId),
    ("skill_version", .str m.version),
    ("workflow_digest", .str m.workflowDigest),
    ("workflow_id", .str m.workflowId),
    ("workflow_version", .str m.workflowVersion)]

/-- The first step by name of those that depend on none. -/
def firstStep (m : Manifest) : Option StepId :=
  (sortedSet ((m.steps.filter fun step => step.dependsOn = []).map WorkflowStep.stepId)).head?

def snapshotText (snapshot : Option Json) (key : String) : Option String :=
  snapshot.bind fun value => textField value key

def createRunArgs (a : StartArgs) (m : Manifest) (epoch device : Json) (snapshot : Option Json)
    (fresh : String) : CreateRun where
  ownerSubject := a.ownerSubject
  actorIssuer := "opaque-owner-key/1"
  actorSubject := a.actorSubject
  runId := "wfr:" ++ fresh
  idempotencyKey := a.idempotencyKey
  pins := pinsOf W m epoch a.scopes
  inputs := a.inputs
  deviceId := a.deviceId
  deviceIdentityGeneration :=
    match device.get? "identity_generation" with
    | some (.num generation) => generation.floor.toNat
    | _ => 0
  initialSnapshotId := a.pinnedSnapshot
  initialDocumentId := (snapshotText snapshot "document_id").filter (· ≠ "")
  initialDocumentRevision := snapshotText snapshot "document_revision"
  steps := some (m.steps.map fun step => ⟨step.stepId, 1, step.kind, some step.inputRef⟩)
  firstStepId := firstStep m
  insertable := a.insertable

/-- `start` from the creation of the run on. -/
def createAndResume (a : StartArgs) (m : Manifest) (epoch device : Json)
    (snapshot : Option Json) : Program Json :=
  conflictsRefused do
    let created ← transact fun tick s =>
      Workflow.createRun W.codec s (createRunArgs W a m epoch device snapshot tick.fresh)
    let run ← (if isTerminalRun created.1.state then return created.1
      else resumeWith W created.1 m snapshot a.scopes)
    return runResponse run created.2

/-- The checks of `start` on the manifest and its status. -/
def admitted (a : StartArgs) (m : Manifest) (status : String) : Except String Unit := do
  check (skillEnabled W m.skillId ∧ status ≠ "withdrawn" ∧ status ≠ "security_revoked") "not_found"
  check (∀ scope ∈ m.requiredScopes, scope ∈ a.scopes) "insufficient_scope"
  check (¬ (m.writes = true ∧ W.writeEnabled = false)) "feature_disabled"
  check (W.fitsSchema m.inputSchema a.inputs) "invalid_request"
  check (a.bindingMismatch = false) "binding_mismatch"

def supportedStates : List String := ["dry_run", "preview_only", "lab_commit", "certified"]

def startAdmitted (a : StartArgs) (m : Manifest) (status : String) : Program Json := do
  let device ← tryCatch (ask (.deviceContext a.ownerSubject a.deviceId))
    fun _ => refuse "not_found"
  if W.support m status device ∈ supportedStates then do
    let snapshot ← resolveSnapshot a
    let epoch ← ask (.channel m.skillId)
    createAndResume W a m epoch device snapshot
  else refuse "capability_missing"

def startSkill (a : StartArgs) (m : Manifest) : Program Json := do
  let status ← tryCatch (ask (.skillStatus m.skillId m.version)) fun _ => refuse "not_found"
  match admitted W a m (status.str?.getD "") with
  | .error code => refuse code
  | .ok () => startAdmitted W a m (status.str?.getD "")

/-- `start`. -/
def start (a : StartArgs) : Program Json :=
  if !W.enabled then refuse "feature_disabled"
  else do
    boundedId a.deviceId "device_id"
    boundedId a.idempotencyKey "idempotency_key"
    match W.resolve a.skillId a.version with
    | none => refuse "not_found"
    | some m => startSkill W a m

/-- The answer of `get`. -/
structure RunView where
  run : RunRow
  steps : List StepRow
  currentWait : Option WaitRow
  requiredNextAction : Json
  events : List WorkflowEvent
  resourceUri : String

/-- `list_events`. -/
def listEvents (owner : String) (runId : RunId) (cursor limit : Nat) :
    Program (List WorkflowEvent) :=
  fetch fun s => .ok (match s.getRun owner runId with
    | none => []
    | some _ => (s.events.filter fun e => e.runId = runId ∧ cursor < e.sequence).take limit)

/-- `get`. -/
def get (owner : String) (runId : RunId) (eventCursor : Int) (eventLimit : Int) :
    Program RunView :=
  if eventCursor < 0 ∨ ¬ (1 ≤ eventLimit ∧ eventLimit ≤ 100) then refuse "invalid_request"
  else do
    match ← getRun owner runId with
    | none => refuse "not_found"
    | some run => do
        healUserInputWait W run
        let steps ← listSteps owner runId
        let wait ← currentWait owner runId
        let events ← listEvents owner runId eventCursor.toNat eventLimit.toNat
        return ⟨run, steps, wait, requiredNextAction run.state wait, events,
          "cad://workflows/" ++ runId⟩

/-- The arguments of `control`. -/
structure ControlArgs where
  ownerSubject : String
  runId : RunId
  action : ControlAction
  expectedStateVersion : Nat
  idempotencyKey : String
  payload : Json
  scopes : List String

def ControlArgs.effect (a : ControlArgs) : Effect :=
  ⟨a.ownerSubject, a.runId, a.idempotencyKey, a.action, a.payload⟩

/-- `finish`. -/
def finish (a : ControlArgs) (run : RunRow) : Program Json := do
  let _ ← completeControlCommand W a.ownerSubject a.idempotencyKey (runResponse run false)
  return runResponse run false

/-- The end of `control`: the run goes on. -/
def resumeRunning (a : ControlArgs) (run : RunRow) : Program Json := do
  let result ← effect a.effect (fun _ => true) fun _ s => Workflow.transitionRun W.codec s
    ⟨a.ownerSubject, a.runId, run.state, a.expectedStateVersion, .running, run.currentStepId,
      a.action.name⟩
  finish W a result

/-- The flow that a submitted input belongs to. -/
def continueWithInput (a : ControlArgs) (run : RunRow) : Program Json :=
  if run.skillId = cleanupAudit then do
    let result ← finishCleanupAudit W run
    finish W a result
  else if run.skillId = autoDimension then do
    let run ← currentRun a.ownerSubject a.runId
    let result ← requestAutoDimensionCommit W run a.scopes
    finish W a result
  else do
    let result ← transact fun _ s => Workflow.transitionRun W.codec s
      ⟨a.ownerSubject, a.runId, run.state, a.expectedStateVersion, .running, run.currentStepId,
        a.action.name⟩
    finish W a result

/-- The response is stored with the wait, unless it is resolved already. -/
def resolveWith (a : ControlArgs) (wait : WaitRow) : Program Unit :=
  if wait.resolution = none then do
    let _ ← effect a.effect (fun r => !r.2) fun _ s => Workflow.resolveWait W.codec s
      ⟨a.ownerSubject, a.runId, wait.waitId, a.expectedStateVersion, wait.responseSchemaDigest,
        a.payload, a.idempotencyKey⟩
    return ()
  else return ()

/-- The open wait. -/
def openWait (a : ControlArgs) : Program (Option WaitRow) :=
  observe (fun s => (requireRun s a.ownerSubject a.runId).map fun _ =>
      (s.openWaits a.runId).getLast?)
    fun s found =>
      if (found.any fun wait => wait.waitKind = .userInput) &&
          answeredUnder s.store a.runId a.idempotencyKey then
        [.openedAgain a.effect]
      else []

/-- The wait that the input is for: the open one, or the one that an earlier attempt resolved. -/
def waitForInput (a : ControlArgs) (replay : Bool) : Program (Option WaitRow) := do
  let wait ← openWait a
  if wait = none ∧ replay = true then
    waitResolvedByCommand W a.ownerSubject a.runId a.idempotencyKey
  else return wait

def submitInput (a : ControlArgs) (run : RunRow) (replay : Bool) : Program Json := do
  match (← waitForInput W a replay).filter fun wait => wait.waitKind = .userInput with
  | none => refuse "invalid_workflow_state"
  | some wait =>
      if W.fitsSchema wait.responseSchema a.payload then do
        resolveWith W a wait
        continueWithInput W a run
      else refuse "invalid_request"

/-- A cancel or resume that finds its command begun and the run at another version takes this for
its own doing. -/
def ControlArgs.overtaken (a : ControlArgs) (run : RunRow) (replay : Bool) : Bool :=
  replay && a.action ≠ .submitInput && run.stateVersion ≠ a.expectedStateVersion

/-- `control` after the command has begun. -/
def carryOut (a : ControlArgs) (run : RunRow) (replay : Bool) : Program Json :=
  if a.overtaken run replay then finish W a run
  else
    match a.action with
    | .cancel => do
        let result ← effect a.effect (fun _ => true) fun _ s =>
          Workflow.cancelRun W.codec s a.ownerSubject a.runId run.state a.expectedStateVersion
        finish W a result
    | .submitInput => submitInput W a run replay
    | .resume =>
        if run.state = .paused then resumeRunning W a run else refuse "invalid_workflow_state"

/-- `begin_control_command`. -/
def beginCommand (a : ControlArgs) (run : RunRow) : Program (CommandRow × Bool) :=
  .perform fun _ s =>
    (beginControlCommand W.codec s.store ⟨a.ownerSubject, a.runId, a.action,
      a.expectedStateVersion, a.idempotencyKey, a.payload⟩).map fun out =>
      (out.1, { s with
        store := out.2
        strays := if out.1.1.result = none ∧ a.overtaken run out.1.2 = true ∧ a.effect ∉ s.effects
          then s.strays ++ [.changedByOthers a.effect] else s.strays })

/-- `control` from the begin of its command on. -/
def command (a : ControlArgs) (run : RunRow) : Program Json :=
  conflictsRefused do
    let begun ← beginCommand W a run
    match begun.1.result with
    | some result => if begun.2 then return result else carryOut W a run begun.2
    | none => carryOut W a run begun.2

def controlAllowed (a : ControlArgs) (run : RunRow) (manifest : Manifest) : Program Json :=
  if manifest.writes ∧ a.action ≠ .cancel ∧ ¬ writeScope ∈ a.scopes then
    refuse "insufficient_scope"
  else do
    (if a.action = .submitInput then healUserInputWait W run else return ())
    command W a run

def controlRun (a : ControlArgs) (run : RunRow) : Program Json :=
  match W.resolve run.skillId (some run.skillVersion) with
  | none => refuse "not_found"
  | some manifest => do
      let status ← tryCatch (ask (.skillStatus run.skillId run.skillVersion))
        fun _ => refuse "not_found"
      if status = .str "security_revoked" ∨ status = .str "withdrawn" then do
        let _ ← securityRevokeRun W run
        refuse (if status = .str "security_revoked" then "skill_security_revoked"
          else "skill_withdrawn")
      else controlAllowed W a run manifest

/-- `control`. An action of another name is refused before anything is read. -/
def control (a : ControlArgs) : Program Json := do
  boundedId a.idempotencyKey "idempotency_key"
  match ← getRun a.ownerSubject a.runId with
  | none => refuse "not_found"
  | some run => controlRun W a run

/-- One run of `reconcile_restart`. -/
def reconcileRun (run : RunRow) : Program Unit := do
  let allowed ← tryCatch (do
      requireContinuationAllowed run
      return true) fun
    | .workflowServiceError _ => return false
    | e => throw e
  if allowed then
    tryCatch (do
      let _ ← resumeRun W run
      return ()) fun
    | .workflowServiceError _ => return ()
    | e => throw e
  else do
    let _ ← securityRevokeRun W run
    return ()

/-- `reconcile_restart`. -/
def reconcileRestart : Program Unit := do
  reconcileActions W
  let runs ← fetch fun s => .ok s.nonterminalRuns
  Prog.forEach runs (reconcileRun W)

/-- `for _ in range(n): if not await run_once(): break`. -/
def runUpTo : Nat → Program Unit
  | 0 => return ()
  | n + 1 => do
      let more ← runOnce W
      if more then runUpTo n else return ()

/-- `maintenance_once`. -/
def maintenanceOnce : Program Unit := do
  runUpTo W 64
  reconcileRestart W

/-! ## The system -/

inductive Request where
  | start (a : StartArgs)
  | control (a : ControlArgs)
  | get (owner : String) (runId : RunId) (eventCursor eventLimit : Int)
  | runOnce
  | maintenanceOnce
  | reconcileRestart

/-- A call whose answer goes to its caller. -/
def answered {α : Type} (m : Program α) : Program Unit := do
  let _ ← m
  return ()

/-- The program of a request. -/
def program : Request → Program Unit
  | .start a => answered (start W a)
  | .control a => do
      let result ← control W a
      reply ⟨a.effect, result⟩
  | .get owner runId eventCursor eventLimit => answered (get W owner runId eventCursor eventLimit)
  | .runOnce => answered (runOnce W)
  | .maintenanceOnce => maintenanceOnce W
  | .reconcileRestart => reconcileRestart W

/-- No row, no answer and no call. -/
def initial : Processes signature := ⟨⟨⟨.empty, [], [], []⟩, []⟩, []⟩

/-- What the calls and the environment have made of the database. -/
def reached (events : List (Happening signature Request)) : Processes signature :=
  runFrom (Processes.step (program W)) initial events

end

end AutocadMcp.Workflow.Service
