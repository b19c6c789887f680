import Mathlib.Data.List.Sort
import AutocadMcp.Workflow.Service

/-!
# The flows of a run

How the service takes a run on: through the scene actions, the cleanup audit, the
preview and the commit of a write, and what it does with the status of a commit. A
flow starts from whatever the database says, so that it can be called again after
any of its own steps.
-/

namespace AutocadMcp.Workflow.Service

/-! ## Scenes -/

/-- `_SCENE_DIGEST.fullmatch`. -/
def isSceneDigest (digest : String) : Bool :=
  "sha256:".toList <+: digest.toList &&
    (let rest := digest.toList.drop 7
     rest.length = 64 && rest.all fun c => c.isDigit || ('a' ≤ c && c ≤ 'f'))

/-- The keyword arguments of `_validate_scene_binding`. -/
structure SceneBinding where
  sourceDigest : String
  sceneId : Option String := none
  sceneDigest : Option String := none
  sourceSnapshotId : Option String := none
  documentRevision : Option String := none

def SceneBinding.fields (b : SceneBinding) : List (String × Option String) :=
  [("source_digest", some b.sourceDigest), ("scene_id", b.sceneId),
    ("scene_digest", b.sceneDigest), ("source_snapshot_id", b.sourceSnapshotId),
    ("document_revision", b.documentRevision)]

/-- `_validate_scene_binding`. -/
def validateSceneBinding (value : Json) (b : SceneBinding) : Except Failure Unit := do
  check (isSceneDigest b.sourceDigest) (.workflowServiceError "scene_result_invalid")
  check (∀ field ∈ b.fields, ∀ required ∈ field.2, value.get? field.1 = some (.str required))
    (.workflowServiceError "scene_binding_mismatch")
  check (b.sceneId ≠ none ∨
      ((textField value "scene_id").any fun id => "scn_".toList <+: id.toList) ∧
        (textField value "scene_digest").any isSceneDigest)
    (.workflowServiceError "scene_result_invalid")

/-- `sorted(set(values))`. -/
def sortedSet (values : List String) : List String :=
  values.eraseDups.insertionSort (· ≤ ·)

def strings (values : List String) : Json := .arr (values.map Json.str)

section

variable (W : Config)

/-- `child_idempotency_key` of a scene action. -/
def sceneKey (run : RunRow) (stepId : StepId) (kind : ActionKind) (sourceDigest : String) :
    Option String :=
  if isSceneDigest sourceDigest then
    some ("wf:scene:" ++ W.sceneHash [run.runId, stepId, "1", kind.name, sourceDigest])
  else none

def errorCodeOr (action : ActionRow) : String :=
  match action.errorCode with
  | some code => if code = "" then "backend_error" else code
  | none => "backend_error"

/-- `next(item for item in list_actions(…) if item["action_kind"] == kind)`. -/
def theAction (run : RunRow) (kind : ActionKind) : Program ActionRow := do
  let actions ← listActions run.ownerSubject run.runId
  match actions.find? fun action => action.actionKind = kind with
  | some action => return action
  | none => throw (.portError "StopIteration")

/-- The result of an action that has completed with a dictionary. -/
def completedResult (action : ActionRow) : Option Json :=
  if action.state = .completed then action.result.filter Json.isDict else none

/-- What `_run_scene_action` does with its action. -/
def sceneOutcome (run : RunRow) (stepId : StepId) (kind : ActionKind) (sourceDigest : String)
    (action : ActionRow) : Program (Option Json) :=
  if action.state = .failed then do
    let _ ← markRunNeedsAttention W run (kind.name ++ "_failed:" ++ errorCodeOr action)
    return none
  else
    match completedResult action with
    | none => return none
    | some result => do
        Prog.ofExcept (validateSceneBinding result { sourceDigest := sourceDigest })
        let _ ← completeStep W run stepId (asResult result) .succeeded
        return some result

/-- `_run_scene_action`. -/
def runSceneAction (run : RunRow) (stepId : StepId) (kind : ActionKind) (sourceDigest : String)
    (payload : Json) : Program (Option Json) := do
  let _ ← insertAction W ⟨run.ownerSubject, run.runId, stepId, 1, kind, payload, .read, .read,
    sceneKey W run stepId kind sourceDigest⟩
  let _ ← runOnce W
  let action ← theAction run kind
  sceneOutcome W run stepId kind sourceDigest action

/-- The digest of the source, and the action that builds the scene from it. -/
def buildScene (run : RunRow) (sections : List String) : Program (Option Json) := do
  let answer ← ask (.sourceDigest run.ownerSubject run.deviceId run.initialSnapshotId
    run.initialDocumentRevision)
  match answer.str?.filter isSceneDigest with
  | none => refuse "scene_source_digest_invalid"
  | some sourceDigest =>
      runSceneAction W run "build_scene" .buildScene sourceDigest (.obj [
        ("analysis_profile", .str "mechanical-2d/1"),
        ("device_id", .str run.deviceId),
        ("document_revision", optionalText run.initialDocumentRevision),
        ("include_sections", strings sections),
        ("owner_subject", .str run.ownerSubject),
        ("skill_id", .str run.skillId),
        ("skill_version", .str run.skillVersion),
        ("source_digest", .str sourceDigest),
        ("source_snapshot_id", optionalText run.initialSnapshotId),
        ("space", .str "model")])

/-- The result that a step has already, or else the one that an action gives. -/
def resultOr (step : StepRow) (produce : Program (Option Json)) : Program (Option Json) :=
  match resultOf step with
  | some result => return some result
  | none => produce

/-- The binding of what is done with a scene. -/
def sceneBinding (run : RunRow) (build : Json) : SceneBinding where
  sourceDigest := (textField build "source_digest").getD ""
  sceneId := some ((textField build "scene_id").getD "")
  sceneDigest := some ((textField build "scene_digest").getD "")
  sourceSnapshotId := run.initialSnapshotId
  documentRevision := run.initialDocumentRevision

def checkBuild (run : RunRow) (build : Json) : Program Unit :=
  Prog.ofExcept (validateSceneBinding build
    { sceneBinding run build with sceneId := none, sceneDigest := none })

/-- An item that shows where an entity of the selection comes from. -/
def isEvidence (item : Json) : Bool :=
  item.isDict &&
    (textField item "evidence_type").any (fun t => t = "contour" ∨ t = "hole") &&
    (textField item "evidence_id").isSome &&
    (textField item "evidence_strength").any
      (fun t => t = "exact_source_geometry" ∨ t = "derived_exact") &&
    (textField item "algorithm_version").isSome &&
    (item.get? "source_entity_ids").any Json.isList &&
    1 ≤ (listField item "source_entity_ids").length &&
    (listField item "source_entity_ids").length ≤ 64 &&
    (listField item "source_entity_ids").all (fun id => id.str?.isSome) &&
    ((item.get? "limitations").getD (.arr [])).isList &&
    (listField item "limitations").length ≤ 16 &&
    (listField item "limitations").all (fun limitation => limitation.str?.isSome)

def evidenceKeys : List String :=
  ["algorithm_version", "evidence_id", "evidence_strength", "evidence_type", "limitations",
    "source_entity_ids"]

def selectionEvidence (item : Json) : Json :=
  .obj (evidenceKeys.filterMap fun key => (item.get? key).map fun value => (key, value))

/-- The inputs of a preview with the evidence of its selection. -/
def withEvidence (run : RunRow) (inputs : Json) (requested : List String) (build : Json)
    (evidence : List Json) : Json :=
  let b := sceneBinding run build
  let selection : Json := .obj [
    ("document_revision", optionalText run.initialDocumentRevision),
    ("evidence", .arr (evidence.map selectionEvidence)),
    ("scene_digest", optionalText b.sceneDigest),
    ("scene_id", optionalText b.sceneId),
    ("source_digest", .str b.sourceDigest),
    ("source_snapshot_id", optionalText run.initialSnapshotId),
    ("write_authority", .bool false)]
  .obj (withField (withField (fieldsOf (some inputs)) "entity_ids" (strings requested))
    "_scene_selection_evidence" selection)

/-- The query of `_auto_dimension_scene_inputs`, once it has a result. -/
def selectEvidence (run : RunRow) (inputs : Json) (requested : List String) (build query : Json) :
    Program (Option Json) := do
  Prog.ofExcept (validateSceneBinding query (sceneBinding run build))
  let items := listField query "items"
  let evidence := items.filter isEvidence
  if ¬ ((query.get? "items").any Json.isList ∧ items.length ≤ 200 ∧
      (query.get? "next_cursor").getD .null = .null ∧
      query.get? "total" = some (.num items.length)) then do
    let _ ← markRunNeedsAttention W run "scene_selection_evidence_truncated"
    return none
  else if ¬ ∀ id ∈ requested, ∃ item ∈ evidence, id ∈ texts (listField item "source_entity_ids")
    then do
    let _ ← markRunNeedsAttention W run "scene_selection_evidence_missing"
    return none
  else return some (withEvidence run inputs requested build evidence)

def queryEvidence (run : RunRow) (requested : List String) (build : Json) :
    Program (Option Json) :=
  let b := sceneBinding run build
  runSceneAction W run "query_scene" .queryScene b.sourceDigest (.obj [
    ("document_revision", optionalText run.initialDocumentRevision),
    ("limit", .num 200),
    ("owner_subject", .str run.ownerSubject),
    ("scene_digest", optionalText b.sceneDigest),
    ("scene_id", optionalText b.sceneId),
    ("section", .str "evidence"),
    ("skill_id", .str run.skillId),
    ("skill_version", .str run.skillVersion),
    ("source_digest", .str b.sourceDigest),
    ("source_entity_ids", strings requested),
    ("source_snapshot_id", optionalText run.initialSnapshotId)])

def sceneSelection (run : RunRow) (inputs : Json) (requested : List String) (querying : StepRow) :
    Option Json → Program (Option Json)
  | none => return none
  | some build => do
      checkBuild run build
      match ← resultOr querying (queryEvidence W run requested build) with
      | none => return none
      | some query => selectEvidence W run inputs requested build query

/-- `_auto_dimension_scene_inputs`. -/
def autoDimensionSceneInputs (run : RunRow) (inputs : Json) : Program (Option Json) :=
  let requested := sortedSet (texts (listField inputs "entity_ids"))
  if !W.scenePort then refuse "feature_disabled"
  else if (inputs.get? "document_revision").getD .null ≠ optionalText run.initialDocumentRevision
    then refuse "binding_mismatch"
  else if requested = [] ∨ 64 < requested.length then refuse "invalid_request"
  else do
    let steps ← listSteps run.ownerSubject run.runId
    let building ← theStep steps "build_scene"
    let querying ← theStep steps "query_scene"
    let build ← resultOr building
      (buildScene W run ["nodes", "contours", "features", "evidence"])
    sceneSelection W run inputs requested querying build

/-! ## The cleanup audit -/

/-- The end of a review that has been accepted already. -/
def finishReviewed (run : RunRow) (recovered : String) (output : Json) : Program RunRow := do
  let current ← currentRun run.ownerSubject run.runId
  let current ← (if current.state = .waitingForUser then
      transitionRun W current .running (some "finish") recovered
    else return current)
  if current.state = .running then do
    let _ ← completeStep W run "finish" (asResult output) .succeeded
    let current ← currentRun run.ownerSubject run.runId
    transact fun _ s => Workflow.transitionRun W.codec s
      ⟨run.ownerSubject, run.runId, .running, current.stateVersion, .succeeded, none, "completed"⟩
  else return current

/-- A report is shown for review. -/
def showReport (run : RunRow) (report : Json) (eventType : String) : Program RunRow := do
  let _ ← completeStep W run "report" (asResult report) .succeeded
  let _ ← completeStep W run "review" (asResult report) .waiting
  let current ← currentRun run.ownerSubject run.runId
  let current ← (if current.state = .running then
      transitionRun W current .waitingForUser (some "review") eventType
    else return current)
  if current.state = .waitingForUser then do
    createReviewWait W current
    return current
  else return current

def querySceneIssues (run : RunRow) (inputs build : Json) : Program (Option Json) :=
  let b := sceneBinding run build
  match inputs.get? "max_candidates" with
  | some (.num candidates) =>
      runSceneAction W run "query_scene" .queryScene b.sourceDigest (.obj [
        ("document_revision", optionalText run.initialDocumentRevision),
        ("limit", .num (min candidates 128)),
        ("owner_subject", .str run.ownerSubject),
        ("scene_digest", optionalText b.sceneDigest),
        ("scene_id", optionalText b.sceneId),
        ("section", .str "issues"),
        ("skill_id", .str run.skillId),
        ("skill_version", .str run.skillVersion),
        ("source_digest", .str b.sourceDigest),
        ("source_snapshot_id", optionalText run.initialSnapshotId)])
  | _ => throw (.portError "KeyError")

def validateScene (run : RunRow) (build : Json) : Program (Option Json) :=
  let b := sceneBinding run build
  runSceneAction W run "validate_scene" .validateScene b.sourceDigest (.obj [
    ("document_revision", optionalText run.initialDocumentRevision),
    ("owner_subject", .str run.ownerSubject),
    ("scene_digest", optionalText b.sceneDigest),
    ("scene_id", optionalText b.sceneId),
    ("skill_id", .str run.skillId),
    ("skill_version", .str run.skillVersion),
    ("source_digest", .str b.sourceDigest),
    ("source_snapshot_id", optionalText run.initialSnapshotId),
    ("validation_profile", .str "cleanup-audit/1")])

def sceneReport (run : RunRow) (build : Json) (items : List Json) (valid : Bool) : Json :=
  let b := sceneBinding run build
  .obj [
    ("document_revision", optionalText run.initialDocumentRevision),
    ("issue_codes", strings (sortedSet (items.filterMap fun item => textField item "code"))),
    ("issue_count", .num items.length),
    ("scene_digest", optionalText b.sceneDigest),
    ("scene_id", optionalText b.sceneId),
    ("source_digest", .str b.sourceDigest),
    ("source_snapshot_id", optionalText run.initialSnapshotId),
    ("status", .str (if items = [] then "ok" else "issues_found")),
    ("validation_ok", .bool valid),
    ("write_authority", .bool false)]

/-- The end of `_advance_scene_cleanup_audit`, once every scene action has its result. -/
def reportScene (run : RunRow) (build query validation : Json) : Program RunRow := do
  Prog.ofExcept (validateSceneBinding validation (sceneBinding run build))
  match validation.get? "valid" with
  | some (.bool valid) =>
      let items := listField query "items"
      if ((query.get? "items").getD (.arr [])).isList ∧ items.length ≤ 128 then
        showReport W run (sceneReport run build items valid) "scene_cleanup_report_ready"
      else refuse "scene_result_invalid"
  | _ => refuse "scene_result_invalid"

def sceneValidated (run : RunRow) (build query : Json) : Option Json → Program RunRow
  | none => currentRun run.ownerSubject run.runId
  | some validation => reportScene W run build query validation

def sceneQueried (run : RunRow) (validating : StepRow) (build : Json) :
    Option Json → Program RunRow
  | none => currentRun run.ownerSubject run.runId
  | some query => do
      Prog.ofExcept (validateSceneBinding query
        { sceneBinding run build with sourceSnapshotId := none, documentRevision := none })
      let validation ← resultOr validating (validateScene W run build)
      sceneValidated W run build query validation

def sceneBuilt (run : RunRow) (inputs : Json) (querying validating : StepRow) :
    Option Json → Program RunRow
  | none => currentRun run.ownerSubject run.runId
  | some build => do
      checkBuild run build
      let query ← resultOr querying (querySceneIssues W run inputs build)
      sceneQueried W run validating build query

/-- `_advance_scene_cleanup_audit`. -/
def advanceSceneCleanupAudit (run : RunRow) (inputs : Json) : Program RunRow :=
  if !W.scenePort then refuse "feature_disabled"
  else if (inputs.get? "document_revision").getD .null ≠ optionalText run.initialDocumentRevision
    then refuse "binding_mismatch"
  else do
    let steps ← listSteps run.ownerSubject run.runId
    let review ← theStep steps "review"
    if review.state = .succeeded then
      finishReviewed W run "scene_cleanup_review_recovered"
        (.obj [("status", .str "ok"), ("write_authority", .bool false)])
    else do
      let building ← theStep steps "build_scene"
      let querying ← theStep steps "query_scene"
      let validating ← theStep steps "validate_scene"
      let build ← resultOr building (buildScene W run ["nodes", "issues", "evidence"])
      sceneBuilt W run inputs querying validating build

/-- The entities of a snapshot that a query of the audit returns. -/
def queriedEntities (snapshot inputs : Json) : Except Failure Json :=
  match snapshot.get? "entities" with
  | some (.arr entities) =>
      let layer := (inputs.get? "layer").getD .null
      let found := entities.filter fun entity =>
        !layer.truthy || (entity.get? "layer").getD .null = layer
      match inputs.get? "page_size" with
      | some (.num size) => .ok (.arr (found.take size.floor.toNat))
      | _ => .error (.portError "KeyError")
  | _ => .error (.workflowServiceError "stale_snapshot")

/-- `_advance_cleanup_audit`. -/
def advanceCleanupAudit (run : RunRow) (snapshot inputs : Json) : Program RunRow := do
  let steps ← listSteps run.ownerSubject run.runId
  let review ← theStep steps "review"
  if review.state = .succeeded then
    finishReviewed W run "cleanup_review_recovered" (.obj [("status", .str "ok")])
  else do
    let querying ← theStep steps "query"
    let entities ← (match resultOf querying with
      | some found => return found
      | none => Prog.ofExcept (queriedEntities snapshot inputs))
    let _ ← completeStep W run "query" (asResult entities) .succeeded
    let steps ← listSteps run.ownerSubject run.runId
    let planning ← theStep steps "pure"
    let report ← (match resultOf planning with
      | some report => return report
      | none => Prog.ofExcept (W.auditCleanup
          (.obj [("document_revision", optionalText run.initialDocumentRevision),
            ("source_snapshot_id", optionalText run.initialSnapshotId)])
          entities ((inputs.get? "max_candidates").getD .null)))
    let _ ← completeStep W run "pure" (asResult report) .succeeded
    showReport W run report "cleanup_report_ready"

/-- The step of a review that the user has accepted. -/
def acceptReview (run : RunRow) (review : StepRow) : Program Unit :=
  if review.state = .waiting then do
    let _ ← transitionStep W run "review" review .succeeded review.outputRef
    return ()
  else if review.state = .succeeded then return ()
  else refuse "invalid_workflow_state"

/-- `_finish_cleanup_audit`. -/
def finishCleanupAudit (run : RunRow) : Program RunRow := do
  let steps ← listSteps run.ownerSubject run.runId
  let review ← theStep steps "review"
  acceptReview W run review
  let running ← currentRun run.ownerSubject run.runId
  let running ← (if running.state = .waitingForUser then
      transitionRun W running .running (some "finish") "submit_input"
    else return running)
  if running.state = .running then do
    let _ ← completeStep W run "finish" (asResult (.obj [("status", .str "ok")])) .succeeded
    let running ← currentRun run.ownerSubject run.runId
    transact fun _ s => Workflow.transitionRun W.codec s
      ⟨run.ownerSubject, run.runId, .running, running.stateVersion, .succeeded, none, "completed"⟩
  else return running

/-! ## The status of a commit -/

/-- The steps that follow a commit. -/
def afterCommit : List StepId := ["job", "validate", "finish"]

def waitsForCommit (state : RunState) : Bool :=
  state = .waitingForTrustedApproval || state = .waitingForJob || state = .waitingForRecovery

/-- `_finish_write_after_commit`. -/
def finishWriteAfterCommit (run : RunRow) (status : Json) : Program RunRow := do
  let current ← currentRun run.ownerSubject run.runId
  let current ← (if waitsForCommit current.state then do
      let _ ← resolveOpenWaitsSystem W run "commit_succeeded"
      transitionRun W current .running (some "validate") "commit_succeeded"
    else return current)
  if current.state = .running then do
    completeSteps W run afterCommit fun _ => asResult status
    let current ← currentRun run.ownerSubject run.runId
    if current.state = .running then
      transitionRun W current .succeeded (some "finish") "workflow_succeeded"
    else return current
  else return current

/-- A commit that is still to be approved. -/
def commitAwaitsApproval (run : RunRow) : Program Unit := do
  let current ← currentRun run.ownerSubject run.runId
  let current ← (if current.state = .waitingForRecovery then do
      let _ ← resolveOpenWaitsSystem W run "approval_state_recovered"
      transitionRun W current .waitingForTrustedApproval (some "commit") "commit_approval_recovered"
    else return current)
  if current.state = .waitingForTrustedApproval then createCommitWait W current .trustedApproval
  else return ()

/-- A commit whose job has been released. -/
def commitReleased (run : RunRow) : Program Unit := do
  let current ← currentRun run.ownerSubject run.runId
  let current ← (if current.state = .waitingForTrustedApproval ∨
        current.state = .waitingForRecovery then do
      let _ ← resolveOpenWaitsSystem W run "approval_released"
      transitionRun W current .waitingForJob (some "commit") "commit_job_released"
    else return current)
  if current.state = .waitingForJob then createCommitWait W current .job else return ()

/-- A commit that an operator has to look at. -/
def commitNeedsRecovery (run : RunRow) : Program Unit := do
  (if run.state ≠ .waitingForRecovery then do
      let _ ← resolveOpenWaitsSystem W run "commit_recovery_required"
      let _ ← transitionRun W run .waitingForRecovery (some "commit") "commit_recovery_required"
      return ()
    else return ())
  let current ← currentRun run.ownerSubject run.runId
  createCommitWait W current .recovery

/-- A commit that has succeeded. -/
def commitSucceeded (run : RunRow) (commit : StepRow) (status : Json) : Program Unit := do
  let _ ← resolveOpenWaitsSystem W run "commit_succeeded"
  (if commit.state = .waiting then do
      let _ ← transitionStep W run "commit" commit .succeeded (some (asResult status))
      return ()
    else return ())
  let _ ← finishWriteAfterCommit W run status
  return ()

/-- The reason of a run that needs attention for the state of its commit. -/
def commitReason (state : Option String) : String :=
  match state with
  | some state => if state = "" then "commit_status_missing" else "commit_" ++ state
  | none => "commit_status_missing"

/-- What `_reconcile_commit_status` does with an answer. -/
def applyCommitStatus (run : RunRow) (commit : StepRow) (status : Json) : Program Unit :=
  let state := textField status "state"
  if state = some "awaiting_approval" ∨ state = some "ready" then commitAwaitsApproval W run
  else if state = some "queued" ∨ state = some "dispatched" ∨ state = some "acknowledged" ∨
      state = some "running" then commitReleased W run
  else if state = some "outcome_unknown" ∨ state = some "reconnect_pending" then
    commitNeedsRecovery W run
  else if state = some "succeeded" then commitSucceeded W run commit status
  else do
    let _ ← markRunNeedsAttention W run (commitReason state)
    return ()

/-- The intent that a commit step has stored. -/
def intentOf (commit : StepRow) : Option String :=
  (resultOf commit).bind fun intent => textField intent "intent_id"

def reconcileCommit (run : RunRow) (commit : StepRow) : Program Unit :=
  match intentOf commit with
  | none => return ()
  | some intentId => do
      let status ← ask (.commitStatus run.ownerSubject intentId)
      applyCommitStatus W run commit status

/-- `_reconcile_commit_status`. -/
def reconcileCommitStatus (run : RunRow) : Program Unit := do
  let steps ← listSteps run.ownerSubject run.runId
  match stepNamed steps "commit" with
  | none => return ()
  | some commit => reconcileCommit W run commit

end

end AutocadMcp.Workflow.Service
