import AutocadMcp.Lib.Checked
import Mathlib

/-!
# Workflow states

`workflows/state.py`: the states of runs and steps, the edges between them, and
the retry rule of the outbox.
-/

namespace AutocadMcp.Workflow

/-- What the workflow code raises. -/
inductive Failure where
  | repositoryConflict (code : String)
  | invalidWorkflowTransition (message : String)
  | workflowServiceError (code : String)
  /-- An SQL constraint. -/
  | integrityError
  | valueError
  /-- A port or a resolver raised. -/
  | portError (code : String)
  deriving DecidableEq, Repr

def conflict (code : String) : Failure := .repositoryConflict code

inductive RunState where
  | created
  | running
  | waitingForUser
  | waitingForTrustedApproval
  | waitingForJob
  | waitingForRecovery
  | paused
  | succeeded
  | failed
  | cancelled
  | needsAttention
  deriving DecidableEq, Repr

def RunState.name : RunState → String
  | .created => "created"
  | .running => "running"
  | .waitingForUser => "waiting_for_user"
  | .waitingForTrustedApproval => "waiting_for_trusted_approval"
  | .waitingForJob => "waiting_for_job"
  | .waitingForRecovery => "waiting_for_recovery"
  | .paused => "paused"
  | .succeeded => "succeeded"
  | .failed => "failed"
  | .cancelled => "cancelled"
  | .needsAttention => "needs_attention"

inductive StepState where
  | pending
  | ready
  | dispatchPending
  | running
  | waiting
  | succeeded
  | failed
  | skipped
  | cancelled
  | needsAttention
  deriving DecidableEq, Repr

def StepState.name : StepState → String
  | .pending => "pending"
  | .ready => "ready"
  | .dispatchPending => "dispatch_pending"
  | .running => "running"
  | .waiting => "waiting"
  | .succeeded => "succeeded"
  | .failed => "failed"
  | .skipped => "skipped"
  | .cancelled => "cancelled"
  | .needsAttention => "needs_attention"

/-- `TERMINAL_RUN_STATES`. -/
def isTerminalRun : RunState → Bool
  | .succeeded | .failed | .cancelled | .needsAttention => true
  | _ => false

/-- `TERMINAL_STEP_STATES`. -/
def isTerminalStep : StepState → Bool
  | .succeeded | .failed | .skipped | .cancelled | .needsAttention => true
  | _ => false

/-- `_RUN_TRANSITIONS`. -/
def runTransitions : RunState → List RunState
  | .created => [.running, .cancelled, .failed]
  | .running =>
      [.waitingForUser, .waitingForTrustedApproval, .waitingForJob, .waitingForRecovery, .paused,
       .succeeded, .failed, .cancelled, .needsAttention]
  | .waitingForUser => [.running, .paused, .cancelled, .failed, .needsAttention]
  | .waitingForTrustedApproval =>
      [.waitingForJob, .waitingForRecovery, .running, .paused, .cancelled, .failed,
       .needsAttention]
  | .waitingForJob => [.running, .waitingForRecovery, .paused, .succeeded, .failed, .needsAttention]
  | .waitingForRecovery =>
      [.running, .waitingForTrustedApproval, .waitingForJob, .paused, .succeeded, .failed,
       .needsAttention]
  | .paused => [.running, .cancelled, .failed, .needsAttention]
  | .succeeded | .failed | .cancelled | .needsAttention => []

/-- `_STEP_TRANSITIONS`. -/
def stepTransitions : StepState → List StepState
  | .pending => [.ready, .skipped, .cancelled]
  | .ready => [.dispatchPending, .running, .skipped, .cancelled]
  | .dispatchPending => [.running, .waiting, .failed, .cancelled, .needsAttention]
  | .running => [.waiting, .succeeded, .failed, .cancelled, .needsAttention]
  | .waiting => [.running, .succeeded, .failed, .cancelled, .needsAttention]
  | .succeeded | .failed | .skipped | .cancelled | .needsAttention => []

/-- `target in _RUN_TRANSITIONS[current]`. -/
def runEdge (current target : RunState) : Bool := target ∈ runTransitions current

def stepEdge (current target : StepState) : Bool := target ∈ stepTransitions current

/-- `validate_run_transition`. The check for unknown states has no case here. -/
def validateRunTransition (current target : RunState) : Except Failure Unit :=
  check (runEdge current target)
    (.invalidWorkflowTransition s!"invalid workflow transition: {current.name} -> {target.name}")

/-- `validate_step_transition`. -/
def validateStepTransition (current target : StepState) : Except Failure Unit :=
  check (stepEdge current target)
    (.invalidWorkflowTransition
      s!"invalid workflow step transition: {current.name} -> {target.name}")

theorem runEdge_terminal {current target : RunState} (h : runEdge current target = true) :
    isTerminalRun current = false := by
  cases current <;> first | rfl | simp [runEdge, runTransitions] at h

theorem runEdge_ne {current target : RunState} (h : runEdge current target = true) :
    target ≠ current ∧ target ≠ .created := by
  cases current <;> cases target <;> first
    | exact ⟨by decide, by decide⟩
    | simp [runEdge, runTransitions] at h

theorem stepEdge_terminal {current target : StepState} (h : stepEdge current target = true) :
    isTerminalStep current = false := by
  cases current <;> first | rfl | simp [stepEdge, stepTransitions] at h

/-! ## Actions -/

/-- The kinds that `child_idempotency_key` has a key for. -/
inductive ActionKind where
  | observe
  | query
  | plan
  | prepare
  | preview
  | commit
  | validate
  | rollback
  | buildScene
  | queryScene
  | validateScene
  deriving DecidableEq, Repr

namespace ActionKind

def name : ActionKind → String
  | .observe => "observe"
  | .query => "query"
  | .plan => "plan"
  | .prepare => "prepare"
  | .preview => "preview"
  | .commit => "commit"
  | .validate => "validate"
  | .rollback => "rollback"
  | .buildScene => "build_scene"
  | .queryScene => "query_scene"
  | .validateScene => "validate_scene"

/-- `_SCENE_ACTIONS`. -/
def isScene : ActionKind → Bool
  | .buildScene | .queryScene | .validateScene => true
  | _ => false

end ActionKind

inductive RetryClass where
  | pure
  | read
  | metadata
  | notStarted
  deriving DecidableEq, Repr

inductive EffectClass where
  | read
  | write
  deriving DecidableEq, Repr

/-- The child states that a write must not be retried from. -/
def writeRetryStates : List String :=
  ["started", "running", "acknowledged", "outcome_unknown", "recovery", "released"]

/-- `validate_safe_retry`; the check of the retry class has no case here. -/
def validateSafeRetry (childState : Option String) (effectClass : EffectClass) :
    Except Failure Unit :=
  check (¬ (effectClass = .write ∧ ∃ state ∈ childState, state ∈ writeRetryStates))
    (.invalidWorkflowTransition "write_retry_requires_recovery")

end AutocadMcp.Workflow
