import AutocadMcp.Workflow.Facade

/-!
# The calls that a program makes

`Makes` says of a program that each of its transactions is a repository call of some
kind, whatever its reads and questions return. The kind `Routine` leaves out the calls
of a control command, the ones that create a run, and those that need a proof: the
output of a commit step, and the success of a run. All of the service but a few
functions is routine.
-/

namespace AutocadMcp.Workflow.Service

section

variable (W : Config) (P : Call → Prop)

/-- One call of the kind, or none. -/
structure Calls (v w : View signature) : Prop where
  asked : w.asked = v.asked
  effects : w.state.effects = v.state.effects
  replies : w.state.replies = v.state.replies
  strays : v.state.strays <+: w.state.strays
  store : w.state.store = v.state.store ∨
    ∃ c, P c ∧ w.state.store = callStep W.codec v.state.store c

/-- Every transaction of the program is a call of the kind. -/
abbrev Makes {α : Type} (m : Program α) : Prop := Calm (fun _ => True) (Calls W P) m

end

/-- A call that needs no proof. -/
def Routine : Call → Prop
  | .createRun _ | .createStep .. | .resolveWait _ | .beginControlCommand _
  | .completeControlCommand .. | .cancelRun .. => False
  | .transitionRun a => a.target ≠ .succeeded
  | .transitionStep a => a.stepId = "commit" →
      a.outputRef = none ∧ a.target ≠ .waiting ∧ a.target ≠ .succeeded
  | .insertAction a => a.actionKind = .commit → a.stepId = "commit" ∧ a.attempt = 1
  | .createWait a => a.waitKind = .userInput → a.stepId = "review"
  | _ => True

section

variable {W : Config} {P Q : Call → Prop} {α : Type}

theorem Calls.mono {v w : View signature} (h : Calls W P v w) (hPQ : ∀ c, P c → Q c) :
    Calls W Q v w := by
  obtain ⟨hasked, heffects, hreplies, hstrays, hsame | ⟨c, hc, hstore⟩⟩ := h
  · exact ⟨hasked, heffects, hreplies, hstrays, Or.inl hsame⟩
  · exact ⟨hasked, heffects, hreplies, hstrays, Or.inr ⟨c, hPQ c hc, hstore⟩⟩

theorem Makes.mono {m : Program α} (h : Makes W P m) (hPQ : ∀ c, P c → Q c) : Makes W Q m := by
  induction m with
  | pure a => trivial
  | raise e => trivial
  | call tx next ih =>
      refine ⟨fun v tick b s _ htx => ⟨trivial, ?_⟩, fun r => ih r (h.2 r)⟩
      exact (h.1 v tick b s trivial htx).2.mono hPQ
  | ask q next ih => exact fun r => ih r (h r)

/-- A program keeps what each of its calls keeps. -/
theorem Makes.calm {Inv : View signature → Prop} {Grows : View signature → View signature → Prop}
    {m : Program α} (h : Makes W P m)
    (hcall : ∀ v w, Inv v → Calls W P v w → Inv w ∧ Grows v w) : Calm Inv Grows m := by
  induction m with
  | pure a => trivial
  | raise e => trivial
  | call tx next ih =>
      refine ⟨fun v tick b s hinv htx => ?_, fun r => ih r (h.2 r)⟩
      exact hcall v _ hinv (h.1 v tick b s trivial htx).2
  | ask q next ih => exact fun r => ih r (h r)

/-! ## Reads and transactions -/

theorem calls_refl (v : View signature) : Calls W P v v :=
  ⟨rfl, rfl, rfl, List.prefix_rfl, Or.inl rfl⟩

theorem makes_fetch {f : Store → Except Failure α} : Makes W P (fetch f) := calm_read calls_refl

theorem makes_observe {f : Store → Except Failure α} {strays : State → α → List Stray} :
    Makes W P (observe f strays) := by
  refine calm_perform fun v tick b s _ htx => ⟨trivial, ?_⟩
  cases hf : f v.state.store with
  | error e =>
      rw [hf] at htx
      cases htx
  | ok out =>
      rw [hf] at htx
      cases htx
      exact ⟨rfl, rfl, rfl, List.prefix_append _ _, Or.inl rfl⟩

/-- A transaction that commits what a call of the kind does. -/
theorem makes_transact {f : Tick → Store → Except Failure (α × Store)} (c : Tick → Call)
    (hP : ∀ tick, P (c tick))
    (hc : ∀ tick s, callStep W.codec s (c tick) = committed s (f tick s)) :
    Makes W P (transact f) := by
  refine calm_perform fun v tick b s _ htx => ⟨trivial, ?_⟩
  cases hf : f tick v.state.store with
  | error e =>
      rw [hf] at htx
      cases htx
  | ok out =>
      rw [hf] at htx
      cases htx
      refine ⟨rfl, rfl, rfl, List.prefix_rfl, Or.inr ⟨c tick, hP tick, ?_⟩⟩
      rw [hc, hf]
      rfl

theorem makes_ask (q : Query) : Makes W P (ask q) := calm_question q

theorem makes_refuse (code : String) : Makes W P (refuse code : Program α) := calm_throw _

theorem makes_ofExcept (r : Except Failure α) : Makes W P (Prog.ofExcept r : Program α) := by
  cases r <;> trivial

theorem makes_allRefused {code : Failure → String} {m : Program α} (h : Makes W P m) :
    Makes W P (allRefused code m) := calm_handle h fun e => makes_refuse (code e)

theorem makes_conflictsRefused {m : Program α} (h : Makes W P m) :
    Makes W P (conflictsRefused m) := by
  refine calm_handle h fun e => ?_
  split
  · exact makes_refuse _
  · exact calm_throw e

theorem makes_theStep {steps : List StepRow} {stepId : StepId} :
    Makes W P (theStep steps stepId) := by
  unfold theStep
  split
  · exact calm_pure _
  · exact calm_throw _

theorem makes_getRun {owner : String} {runId : RunId} : Makes W P (getRun owner runId) :=
  makes_fetch

theorem makes_currentRun {owner : String} {runId : RunId} : Makes W P (currentRun owner runId) :=
  makes_fetch

theorem makes_listSteps {owner : String} {runId : RunId} : Makes W P (listSteps owner runId) :=
  makes_fetch

theorem makes_listActions {owner : String} {runId : RunId} :
    Makes W P (listActions owner runId) := makes_fetch

theorem makes_currentWait {owner : String} {runId : RunId} :
    Makes W P (currentWait owner runId) := makes_fetch

theorem makes_startedControlCommand {owner : String} {runId : RunId} {action : ControlAction} :
    Makes W P (startedControlCommand owner runId action) := makes_fetch

theorem makes_waitResolvedByCommand {owner : String} {runId : RunId} {key : String} :
    Makes W P (waitResolvedByCommand W owner runId key) := makes_observe

theorem makes_theAction {run : RunRow} {kind : ActionKind} : Makes W P (theAction run kind) := by
  refine calm_bind makes_listActions fun actions => ?_
  split
  · exact calm_pure _
  · exact calm_throw _

/-! ## Routine transactions -/

section

variable {run : RunRow} {stepId : StepId}

theorem makes_transitionStep {row : StepRow} {target : StepState} {outputRef : Option Json}
    (h : stepId = "commit" → outputRef = none ∧ target ≠ .waiting ∧ target ≠ .succeeded) :
    Makes W Routine (transitionStep W run stepId row target outputRef) :=
  makes_transact (fun _ => .transitionStep ⟨run.ownerSubject, run.runId, stepId, 1, row.state,
    row.stateVersion, target, outputRef, none⟩) (fun _ => h) fun _ _ => rfl

theorem makes_readyStep : Makes W Routine (readyStep W run stepId) :=
  makes_transact (fun _ => .transitionStep ⟨run.ownerSubject, run.runId, stepId, 1, .pending, 0,
    .ready, none, none⟩) (fun _ _ => ⟨rfl, StepState.noConfusion, StepState.noConfusion⟩)
    fun _ _ => rfl

theorem makes_transitionRun {target : RunState} {currentStepId : Option StepId}
    {eventType : String} (h : target ≠ .succeeded) :
    Makes W Routine (transitionRun W run target currentStepId eventType) :=
  makes_transact (fun _ => .transitionRun ⟨run.ownerSubject, run.runId, run.state,
    run.stateVersion, target, currentStepId, eventType⟩) (fun _ => h) fun _ _ => rfl

theorem makes_createWait {waitKind : WaitKind} {schema : Json}
    (h : waitKind = .userInput → stepId = "review") :
    Makes W Routine (createWait W run stepId waitKind schema) :=
  makes_transact (fun tick => .createWait ⟨run.ownerSubject, run.runId, stepId, waitKind,
    run.stateVersion, schema, tick.fresh⟩) (fun _ => h) fun _ _ => rfl

theorem makes_resolveOpenWaits {reason : String} :
    Makes W Routine (resolveOpenWaitsSystem W run reason) :=
  makes_transact (fun _ => .resolveOpenWaits _ _ _) (fun _ => trivial) fun _ _ => rfl

theorem makes_insertAction {a : InsertAction}
    (h : a.actionKind = .commit → a.stepId = "commit" ∧ a.attempt = 1) :
    Makes W Routine (insertAction W a) :=
  makes_transact (fun _ => .insertAction a) (fun _ => h) fun _ _ => rfl

theorem makes_markRunNeedsAttention {reason : String} :
    Makes W Routine (markRunNeedsAttention W run reason) :=
  makes_transact (fun _ => .markRunNeedsAttention _ _ _) (fun _ => trivial) fun _ _ => rfl

theorem makes_securityRevokeRun : Makes W Routine (securityRevokeRun W run) :=
  makes_transact (fun _ => .securityRevokeRun _ _) (fun _ => trivial) fun _ _ => rfl

end

/-! ## The runner -/

theorem makes_failAction {action : ActionRow} {e : Failure} :
    Makes W Routine (failAction W action e) :=
  calm_bind (makes_transact (fun _ => .failAction _ _ _) (fun _ => trivial) fun _ _ => rfl)
    fun _ => calm_pure ()

theorem makes_startDispatch {action : ActionRow} : Makes W Routine (startDispatch W action) := by
  refine calm_bind (makes_ofExcept _) fun _ => calm_bind (makes_ask _) fun _ => ?_
  split
  · exact calm_throw _
  · exact makes_transact (fun tick => .markDispatchStarted _ _ tick.now) (fun _ => trivial)
      fun _ _ => rfl

theorem makes_finishDispatch {action : ActionRow} : Makes W Routine (finishDispatch W action) := by
  refine calm_bind (makes_ask _) fun result => ?_
  refine calm_bind ?_ fun _ => calm_pure ()
  exact makes_transact (fun _ => .completeAction _ _ _ _) (fun _ => trivial) fun _ _ => rfl

theorem makes_dispatchRaised {action : ActionRow} {e : Failure} :
    Makes W Routine (dispatchRaised W action e) := by
  unfold dispatchRaised
  split
  · refine calm_bind ?_ fun _ => calm_pure ()
    exact makes_transact (fun _ => .markActionOutcomeUnknown _ _ _) (fun _ => trivial)
      fun _ _ => rfl
  · exact makes_failAction

theorem makes_runClaimed {claimed : Option ActionRow} : Makes W Routine (runClaimed W claimed) := by
  cases claimed with
  | none => exact calm_pure _
  | some action =>
      have hstarted : Makes W Routine (started W action) :=
        calm_handle (calm_bind makes_startDispatch fun _ => calm_pure _) fun _ => calm_pure _
      refine calm_bind hstarted fun outcome => calm_bind ?_ fun _ => calm_pure _
      cases outcome with
      | error e => exact makes_failAction
      | ok row => exact calm_handle makes_finishDispatch fun _ => makes_dispatchRaised

theorem makes_runOnce : Makes W Routine (runOnce W) :=
  calm_bind (makes_transact (fun tick => .claimAction _ _ tick.now) (fun _ => trivial)
    fun _ _ => rfl) fun _ => makes_runClaimed

theorem makes_reconcileAction {action : ActionRow} :
    Makes W Routine (reconcileAction W action) := by
  unfold reconcileAction
  split
  · exact calm_pure ()
  · split
    · exact calm_pure ()
    · refine calm_bind (calm_handle (makes_ask _) fun _ => calm_pure _) fun outcome => ?_
      split
      · exact calm_pure ()
      · refine calm_bind ?_ fun _ => calm_pure ()
        exact makes_transact (fun _ => .recordReconciledOutcome _ _) (fun _ => trivial)
          fun _ _ => rfl

theorem makes_reconcileActions : Makes W Routine (reconcileActions W) := by
  refine calm_bind ?_ fun _ => calm_bind makes_fetch fun actions => ?_
  · exact makes_transact (fun tick => .reclaimExpiredActions tick.now) (fun _ => trivial)
      fun _ _ => rfl
  · exact calm_forEach fun action _ => makes_reconcileAction

theorem makes_runUpTo (n : Nat) : Makes W Routine (runUpTo W n) := by
  induction n with
  | zero => exact calm_pure ()
  | succ n ih =>
      refine calm_bind makes_runOnce fun more => ?_
      split
      · exact ih
      · exact calm_pure ()

/-! ## Steps and waits -/

section

variable {run : RunRow} {stepId : StepId} {step : StepRow}

theorem makes_readied : Makes W Routine (readied W run stepId step) := by
  unfold readied
  split
  · exact makes_readyStep
  · exact calm_pure step

theorem makes_begun : Makes W Routine (begun W run stepId step) := by
  unfold begun
  split
  · exact makes_transitionStep fun _ => ⟨rfl, by decide, by decide⟩
  · exact calm_pure step

theorem makes_completeStep {output : Json} {target : StepState} (h : stepId ≠ "commit") :
    Makes W Routine (completeStep W run stepId output target) := by
  refine calm_bind makes_listSteps fun steps => calm_bind makes_theStep fun step => ?_
  split
  · exact calm_pure step
  · refine calm_bind makes_readied fun step => calm_bind makes_begun fun step => ?_
    split
    · exact makes_transitionStep fun hcommit => absurd hcommit h
    · exact makes_refuse _

theorem makes_completeSteps {stepIds : List StepId} {output : StepId → Json}
    (h : "commit" ∉ stepIds) : Makes W Routine (completeSteps W run stepIds output) := by
  refine calm_forEach fun stepId hmem => calm_bind (makes_completeStep ?_) fun _ => calm_pure ()
  rintro rfl
  exact h hmem

theorem makes_createReviewWait : Makes W Routine (createReviewWait W run) :=
  calm_bind (makes_createWait fun _ => rfl) fun _ => calm_pure ()

theorem makes_createCommitWait {waitKind : WaitKind} (h : waitKind ≠ .userInput) :
    Makes W Routine (createCommitWait W run waitKind) :=
  calm_bind (makes_createWait fun hinput => absurd hinput h) fun _ => calm_pure ()

theorem makes_healUserInputWait : Makes W Routine (healUserInputWait W run) := by
  unfold healUserInputWait
  split
  · refine calm_bind makes_listSteps fun steps => ?_
    split
    · exact makes_createReviewWait
    · exact calm_pure ()
  · exact calm_pure ()

theorem makes_requireContinuationAllowed : Makes W P (requireContinuationAllowed run) := by
  refine calm_bind (calm_handle (makes_ask _) fun _ => makes_refuse _) fun status => ?_
  split
  · exact makes_refuse _
  · split
    · exact makes_refuse _
    · exact calm_pure ()

theorem makes_publishedManifest {skillId version : String} :
    Makes W P (publishedManifest W skillId version) := by
  unfold publishedManifest
  split
  · exact makes_refuse _
  · refine calm_bind (calm_handle (makes_ask _) fun _ => makes_refuse _) fun status => ?_
    split
    · exact makes_refuse _
    · exact calm_pure _

end

/-! ## Scenes -/

section

variable {run : RunRow}

theorem makes_sceneOutcome {stepId : StepId} {kind : ActionKind} {sourceDigest : String}
    {action : ActionRow} (h : stepId ≠ "commit") :
    Makes W Routine (sceneOutcome W run stepId kind sourceDigest action) := by
  unfold sceneOutcome
  split
  · exact calm_bind makes_markRunNeedsAttention fun _ => calm_pure none
  · split
    · exact calm_pure none
    · exact calm_bind (makes_ofExcept _) fun _ =>
        calm_bind (makes_completeStep h) fun _ => calm_pure _

theorem makes_runSceneAction {stepId : StepId} {kind : ActionKind} {sourceDigest : String}
    {payload : Json} (h : stepId ≠ "commit") (hkind : kind ≠ .commit) :
    Makes W Routine (runSceneAction W run stepId kind sourceDigest payload) :=
  calm_bind (makes_insertAction fun hcommit => absurd hcommit hkind) fun _ =>
    calm_bind makes_runOnce fun _ =>
      calm_bind makes_theAction fun _ => makes_sceneOutcome h

theorem makes_buildScene {sections : List String} :
    Makes W Routine (buildScene W run sections) := by
  refine calm_bind (makes_ask _) fun answer => ?_
  split
  · exact makes_refuse _
  · exact makes_runSceneAction (by decide) (by decide)

theorem makes_resultOr {step : StepRow} {produce : Program (Option Json)}
    (h : Makes W Routine produce) : Makes W Routine (resultOr step produce) := by
  unfold resultOr
  split
  · exact calm_pure _
  · exact h

theorem makes_selectEvidence {inputs build query : Json} {requested : List String} :
    Makes W Routine (selectEvidence W run inputs requested build query) := by
  refine calm_bind (makes_ofExcept _) fun _ => ?_
  dsimp only
  split
  · exact calm_bind makes_markRunNeedsAttention fun _ => calm_pure none
  · split
    · exact calm_bind makes_markRunNeedsAttention fun _ => calm_pure none
    · exact calm_pure _

theorem makes_queryEvidence {build : Json} {requested : List String} :
    Makes W Routine (queryEvidence W run requested build) :=
  makes_runSceneAction (by decide) (by decide)

theorem makes_sceneSelection {inputs : Json} {requested : List String} {querying : StepRow}
    {build : Option Json} : Makes W Routine (sceneSelection W run inputs requested querying build) := by
  cases build with
  | none => exact calm_pure none
  | some build =>
      refine calm_bind (makes_ofExcept _) fun _ =>
        calm_bind (makes_resultOr makes_queryEvidence) fun query => ?_
      split
      · exact calm_pure none
      · exact makes_selectEvidence

theorem makes_autoDimensionSceneInputs {inputs : Json} :
    Makes W Routine (autoDimensionSceneInputs W run inputs) := by
  unfold autoDimensionSceneInputs
  dsimp only
  split
  · exact makes_refuse _
  · split
    · exact makes_refuse _
    · split
      · exact makes_refuse _
      · exact calm_bind makes_listSteps fun _ => calm_bind makes_theStep fun _ =>
          calm_bind makes_theStep fun _ => calm_bind (makes_resultOr makes_buildScene) fun _ =>
            makes_sceneSelection

theorem makes_showReport {report : Json} {eventType : String} :
    Makes W Routine (showReport W run report eventType) := by
  refine calm_bind (makes_completeStep (by decide)) fun _ =>
    calm_bind (makes_completeStep (by decide)) fun _ => calm_bind makes_currentRun fun current => ?_
  refine calm_bind ?_ fun current => ?_
  · split
    · exact makes_transitionRun (by decide)
    · exact calm_pure _
  · split
    · exact calm_bind makes_createReviewWait fun _ => calm_pure _
    · exact calm_pure _

theorem makes_querySceneIssues {inputs build : Json} :
    Makes W Routine (querySceneIssues W run inputs build) := by
  unfold querySceneIssues
  dsimp only
  split
  · exact makes_runSceneAction (by decide) (by decide)
  · exact calm_throw _

theorem makes_validateScene {build : Json} : Makes W Routine (validateScene W run build) :=
  makes_runSceneAction (by decide) (by decide)

theorem makes_reportScene {build query validation : Json} :
    Makes W Routine (reportScene W run build query validation) := by
  refine calm_bind (makes_ofExcept _) fun _ => ?_
  split
  · dsimp only
    split
    · exact makes_showReport
    · exact makes_refuse _
  · exact makes_refuse _

theorem makes_sceneQueried {validating : StepRow} {build : Json} {query : Option Json} :
    Makes W Routine (sceneQueried W run validating build query) := by
  cases query with
  | none => exact makes_currentRun
  | some query =>
      refine calm_bind (makes_ofExcept _) fun _ =>
        calm_bind (makes_resultOr makes_validateScene) fun validation => ?_
      cases validation with
      | none => exact makes_currentRun
      | some validation => exact makes_reportScene

theorem makes_sceneBuilt {inputs : Json} {querying validating : StepRow} {build : Option Json} :
    Makes W Routine (sceneBuilt W run inputs querying validating build) := by
  cases build with
  | none => exact makes_currentRun
  | some build =>
      exact calm_bind (makes_ofExcept _) fun _ =>
        calm_bind (makes_resultOr makes_querySceneIssues) fun _ => makes_sceneQueried

theorem makes_acceptReview {review : StepRow} : Makes W Routine (acceptReview W run review) := by
  unfold acceptReview
  split
  · exact calm_bind (makes_transitionStep fun hcommit => absurd hcommit (by decide)) fun _ =>
      calm_pure ()
  · split
    · exact calm_pure ()
    · exact makes_refuse _

/-! ## Commits and previews -/

theorem makes_commitAwaitsApproval : Makes W Routine (commitAwaitsApproval W run) := by
  refine calm_bind makes_currentRun fun current => calm_bind ?_ fun current => ?_
  · split
    · exact calm_bind makes_resolveOpenWaits fun _ => makes_transitionRun (by decide)
    · exact calm_pure _
  · split
    · exact makes_createCommitWait (by decide)
    · exact calm_pure ()

theorem makes_commitReleased : Makes W Routine (commitReleased W run) := by
  refine calm_bind makes_currentRun fun current => calm_bind ?_ fun current => ?_
  · split
    · exact calm_bind makes_resolveOpenWaits fun _ => makes_transitionRun (by decide)
    · exact calm_pure _
  · split
    · exact makes_createCommitWait (by decide)
    · exact calm_pure ()

theorem makes_commitNeedsRecovery : Makes W Routine (commitNeedsRecovery W run) := by
  refine calm_bind ?_ fun _ => calm_bind makes_currentRun fun _ =>
    makes_createCommitWait (by decide)
  split
  · exact calm_bind makes_resolveOpenWaits fun _ =>
      calm_bind (makes_transitionRun (by decide)) fun _ => calm_pure ()
  · exact calm_pure ()

theorem makes_previewOutcome {action : ActionRow} :
    Makes W Routine (previewOutcome W run action) := by
  unfold previewOutcome
  split
  · exact calm_pure _
  · split
    · exact calm_bind makes_markRunNeedsAttention fun _ => calm_pure _
    · split
      · exact calm_bind makes_securityRevokeRun fun _ => calm_pure _
      · exact calm_bind makes_currentRun fun _ => calm_pure _

theorem makes_previewAction {inputs : Json} {scopes : List String} :
    Makes W Routine (previewAction W run inputs scopes) :=
  makes_allRefused <| calm_bind (makes_insertAction ActionKind.noConfusion) fun _ =>
    calm_bind makes_runOnce fun _ => calm_bind makes_theAction fun _ => makes_previewOutcome

theorem previewSteps_commit (skillId : String) : "commit" ∉ previewSteps skillId := by
  unfold previewSteps
  split <;> decide

theorem makes_reviewPreview {preview : Json} : Makes W Routine (reviewPreview W run preview) := by
  refine calm_bind (makes_completeStep (by decide)) fun _ =>
    calm_bind makes_currentRun fun waiting => calm_bind ?_ fun waiting => ?_
  · split
    · exact makes_transitionRun (by decide)
    · exact calm_pure _
  · exact calm_bind makes_healUserInputWait fun _ => calm_pure _

theorem makes_resolvedBy {command : Option CommandRow} :
    Makes W P (resolvedBy W run command) := by
  cases command with
  | none => exact calm_pure none
  | some command => exact makes_waitResolvedByCommand

end

end

end AutocadMcp.Workflow.Service
