import AutocadMcp.Workflow.Routine

/-!
# What the flows leave to the control commands

No flow begins, completes or carries out a control command: its calls are `Plain`,
also where it takes a commit step or a run to its end.
-/

namespace AutocadMcp.Workflow.Service

/-- A call that is not one of a control command. -/
def Plain : Call → Prop
  | .resolveWait _ | .beginControlCommand _ | .completeControlCommand .. => False
  | .createWait a => a.waitKind = .userInput → a.stepId = "review"
  | _ => True

theorem Routine.plain {c : Call} (h : Routine c) : Plain c := by
  cases c
  case createWait a => exact h
  all_goals trivial

section

variable {W : Config} {α : Type} {run : RunRow}

theorem plain_routine {m : Program α} (h : Makes W Routine m) : Makes W Plain m :=
  h.mono fun _ => Routine.plain

theorem plain_transitionStep {stepId : StepId} {row : StepRow} {target : StepState}
    {outputRef : Option Json} : Makes W Plain (transitionStep W run stepId row target outputRef) :=
  makes_transact (fun _ => .transitionStep _) (fun _ => trivial) fun _ _ => rfl

theorem plain_transitionRun {target : RunState} {currentStepId : Option StepId}
    {eventType : String} :
    Makes W Plain (transitionRun W run target currentStepId eventType) :=
  makes_transact (fun _ => .transitionRun _) (fun _ => trivial) fun _ _ => rfl

/-! ## The cleanup audit -/

theorem plain_succeedAudit {version : Nat} : Makes W Plain (transact fun _ s =>
    Workflow.transitionRun W.codec s
      ⟨run.ownerSubject, run.runId, .running, version, .succeeded, none, "completed"⟩) :=
  makes_transact (fun _ => .transitionRun _) (fun _ => trivial) fun _ _ => rfl

theorem plain_completeStep {stepId : StepId} {output : Json} {target : StepState}
    (h : stepId ≠ "commit") : Makes W Plain (completeStep W run stepId output target) :=
  plain_routine (makes_completeStep h)

theorem plain_finishReviewed {recovered : String} {output : Json} :
    Makes W Plain (finishReviewed W run recovered output) := by
  refine calm_bind makes_currentRun fun current => calm_bind ?_ fun current => ?_
  · split
    · exact plain_transitionRun
    · exact calm_pure _
  · split
    · exact calm_bind (plain_completeStep (by decide)) fun _ =>
        calm_bind makes_currentRun fun _ => plain_succeedAudit
    · exact calm_pure _

theorem plain_finishCleanupAudit : Makes W Plain (finishCleanupAudit W run) := by
  refine calm_bind makes_listSteps fun _ => calm_bind makes_theStep fun _ =>
    calm_bind (plain_routine makes_acceptReview) fun _ =>
      calm_bind makes_currentRun fun running => calm_bind ?_ fun running => ?_
  · split
    · exact plain_transitionRun
    · exact calm_pure _
  · split
    · exact calm_bind (plain_completeStep (by decide)) fun _ =>
        calm_bind makes_currentRun fun _ => plain_succeedAudit
    · exact calm_pure _

theorem plain_advanceSceneCleanupAudit {inputs : Json} :
    Makes W Plain (advanceSceneCleanupAudit W run inputs) := by
  unfold advanceSceneCleanupAudit
  split
  · exact makes_refuse _
  · split
    · exact makes_refuse _
    · refine calm_bind makes_listSteps fun _ => calm_bind makes_theStep fun review => ?_
      split
      · exact plain_finishReviewed
      · exact plain_routine (calm_bind makes_theStep fun _ => calm_bind makes_theStep fun _ =>
          calm_bind makes_theStep fun _ => calm_bind (makes_resultOr makes_buildScene) fun _ =>
            makes_sceneBuilt)

theorem plain_advanceCleanupAudit {snapshot inputs : Json} :
    Makes W Plain (advanceCleanupAudit W run snapshot inputs) := by
  refine calm_bind makes_listSteps fun _ => calm_bind makes_theStep fun review => ?_
  split
  · exact plain_finishReviewed
  · refine calm_bind makes_theStep fun querying => calm_bind ?_ fun _ =>
      calm_bind (plain_completeStep (by decide)) fun _ => calm_bind makes_listSteps fun _ =>
        calm_bind makes_theStep fun planning => calm_bind ?_ fun _ =>
          calm_bind (plain_completeStep (by decide)) fun _ => plain_routine makes_showReport
    · split
      · exact calm_pure _
      · exact makes_ofExcept _
    · split
      · exact calm_pure _
      · exact makes_ofExcept _

theorem plain_resumeCleanupAudit {manifest : Manifest} {snapshot : Option Json} :
    Makes W Plain (resumeCleanupAudit W run manifest snapshot) := by
  unfold resumeCleanupAudit
  split
  · exact calm_pure _
  · split
    · exact plain_advanceSceneCleanupAudit
    · split
      · exact plain_advanceCleanupAudit
      · exact makes_refuse _
      · exact calm_bind (makes_ask _) fun _ => plain_advanceCleanupAudit

/-! ## Commits -/

theorem plain_finishWriteAfterCommit {status : Json} :
    Makes W Plain (finishWriteAfterCommit W run status) := by
  refine calm_bind makes_currentRun fun current => calm_bind ?_ fun current => ?_
  · split
    · exact calm_bind (plain_routine makes_resolveOpenWaits) fun _ => plain_transitionRun
    · exact calm_pure _
  · split
    · refine calm_bind (plain_routine (makes_completeSteps (by decide))) fun _ =>
        calm_bind makes_currentRun fun current => ?_
      split
      · exact plain_transitionRun
      · exact calm_pure _
    · exact calm_pure _

theorem plain_commitSucceeded {commit : StepRow} {status : Json} :
    Makes W Plain (commitSucceeded W run commit status) := by
  refine calm_bind (plain_routine makes_resolveOpenWaits) fun _ => calm_bind ?_ fun _ =>
    calm_bind plain_finishWriteAfterCommit fun _ => calm_pure ()
  split
  · exact calm_bind plain_transitionStep fun _ => calm_pure ()
  · exact calm_pure ()

theorem plain_reconcileCommitStatus : Makes W Plain (reconcileCommitStatus W run) := by
  refine calm_bind makes_listSteps fun steps => ?_
  split
  · exact calm_pure ()
  · unfold reconcileCommit
    split
    · exact calm_pure ()
    · refine calm_bind (makes_ask _) fun status => ?_
      unfold applyCommitStatus
      dsimp only
      split
      · exact plain_routine makes_commitAwaitsApproval
      · split
        · exact plain_routine makes_commitReleased
        · split
          · exact plain_routine makes_commitNeedsRecovery
          · split
            · exact plain_commitSucceeded
            · exact plain_routine (calm_bind makes_markRunNeedsAttention fun _ => calm_pure ())

theorem plain_awaitApproval : Makes W Plain (awaitApproval W run) := by
  refine calm_bind makes_currentRun fun current => ?_
  split
  · exact calm_bind plain_reconcileCommitStatus fun _ => makes_currentRun
  · refine calm_bind ?_ fun current => ?_
    · split
      · exact plain_transitionRun
      · exact calm_pure _
    · split
      · exact plain_routine (calm_bind (makes_createCommitWait (by decide)) fun _ => calm_pure _)
      · exact calm_pure _

theorem plain_commitIntent {previewId : String} {scopes : List String} :
    Makes W Plain (commitIntent W run previewId scopes) :=
  plain_routine <| makes_allRefused <| calm_bind (makes_insertAction fun _ => ⟨rfl, rfl⟩) fun _ =>
    calm_bind makes_runOnce fun _ => calm_bind makes_theAction fun _ => calm_pure _

theorem plain_requestCommit {previewId : String} {scopes : List String} :
    Makes W Plain (requestCommit W run previewId scopes) := by
  refine calm_bind makes_requireContinuationAllowed fun _ => calm_bind makes_listSteps fun _ =>
    calm_bind makes_theStep fun _ => calm_bind (plain_routine makes_readied) fun _ =>
      calm_bind (plain_routine makes_begun) fun commit => ?_
  unfold commitFrom
  split
  · split
    · exact plain_awaitApproval
    · exact makes_refuse _
  · split
    · refine calm_bind plain_commitIntent fun intent => ?_
      split
      · exact makes_currentRun
      · exact calm_bind plain_transitionStep fun _ => plain_awaitApproval
    · exact makes_refuse _

/-! ## Taking a run on -/

section

variable {manifest : Manifest} {scopes : List String}

theorem plain_requestAutoDimensionCommit :
    Makes W Plain (requestAutoDimensionCommit W run scopes) := by
  refine calm_bind makes_listSteps fun _ => calm_bind makes_theStep fun review => ?_
  split
  · exact makes_refuse _
  · refine calm_bind (plain_routine makes_acceptReview) fun _ =>
      calm_bind makes_currentRun fun running => calm_bind ?_ fun running => ?_
    · split
      · exact plain_transitionRun
      · exact calm_pure _
    · split
      · exact plain_requestCommit
      · exact calm_pure _

theorem plain_advanceWritePreview {inputs : Json} :
    Makes W Plain (advanceWritePreview W run inputs scopes) := by
  refine calm_bind (plain_routine makes_previewAction) fun outcome => ?_
  cases outcome with
  | inl run => exact calm_pure run
  | inr output =>
      refine calm_bind (plain_routine (makes_completeSteps (previewSteps_commit run.skillId)))
        fun _ => ?_
      split
      · exact calm_throw _
      · split
        · exact plain_routine makes_reviewPreview
        · split
          · exact calm_throw _
          · exact plain_requestCommit

theorem plain_continueAutoDimension {review : StepRow} :
    Makes W Plain (continueAutoDimension W run manifest review scopes) := by
  unfold continueAutoDimension
  split
  · exact calm_bind plain_requestAutoDimensionCommit fun _ => calm_pure true
  · split
    · refine calm_bind ?_ fun inputs => ?_
      · split
        · exact calm_pure _
        · exact plain_routine makes_autoDimensionSceneInputs
      · cases inputs with
        | none => exact calm_pure false
        | some inputs => exact calm_bind plain_advanceWritePreview fun _ => calm_pure true
    · exact calm_pure true

theorem plain_advanceAutoDimension {review : StepRow} {command : Option CommandRow} :
    Makes W Plain (advanceAutoDimension W run manifest review command scopes) := by
  unfold advanceAutoDimension
  split
  · refine calm_bind makes_resolvedBy fun resolved => ?_
    split
    · exact calm_bind (plain_routine makes_healUserInputWait) fun _ => calm_pure false
    · exact plain_continueAutoDimension
  · exact plain_continueAutoDimension

theorem plain_advanceTemplate {preview commit : StepRow} :
    Makes W Plain (advanceTemplate W run preview commit scopes) := by
  unfold advanceTemplate
  split
  · split
    · split
      · exact calm_bind plain_requestCommit fun _ => calm_pure true
      · exact calm_bind plain_advanceWritePreview fun _ => calm_pure true
    · exact calm_bind plain_advanceWritePreview fun _ => calm_pure true
  · exact calm_pure true

theorem plain_settleWriteRun : Makes W Plain (settleWriteRun W run) := by
  refine calm_bind makes_currentRun fun _ => calm_bind makes_listActions fun actions =>
    calm_bind ?_ fun _ => calm_bind ?_ fun _ => makes_currentRun
  · unfold takeUpCommit
    split
    · split
      · split
        · exact plain_requestCommit
        · exact calm_throw _
      · exact calm_pure _
    · exact calm_pure _
  · split
    · exact plain_reconcileCommitStatus
    · exact calm_pure ()

theorem plain_resumeWriteRun : Makes W Plain (resumeWriteRun W run manifest scopes) := by
  refine calm_bind makes_listSteps fun _ => calm_bind makes_theStep fun commit => ?_
  split
  · exact plain_finishWriteAfterCommit
  · refine calm_bind ?_ fun settles => ?_
    · refine calm_bind makes_startedControlCommand fun command => ?_
      split
      · exact calm_bind makes_theStep fun _ => plain_advanceAutoDimension
      · split
        · exact calm_bind makes_theStep fun _ => plain_advanceTemplate
        · exact calm_pure true
    · split
      · exact plain_settleWriteRun
      · exact makes_currentRun

end

end

end AutocadMcp.Workflow.Service
