import AutocadMcp.Contracts.Json
import AutocadMcp.Contracts.Messages
import AutocadMcp.Lib.Table
import AutocadMcp.Workflow.State

/-!
# The workflow tables

The tables of `Phase9Repository` with the columns that its code reads. The JSON
columns keep their values, `ORDER BY created_at` is the insertion order of the
rows, and an instant counts the seconds that SQLite compares leases by.
-/

namespace AutocadMcp.Workflow

abbrev RunId := String
abbrev StepId := String
abbrev ActionId := String
abbrev WaitId := String

/-- What the repository takes from the JSON encoder: the size of the canonical encoding, whether
its text fits a column, and its digest. -/
structure Codec where
  jsonBytes : Json → Option Nat
  fitsColumn : Json → Bool
  digest : Json → Digest

/-- A row of `workflow_runs`. -/
structure RunRow where
  runId : RunId
  ownerSubject : String
  skillId : String
  skillVersion : String
  pins : Json
  inputs : Json
  deviceId : String
  initialSnapshotId : Option String
  initialDocumentRevision : Option String
  state : RunState
  stateVersion : Nat
  currentStepId : Option StepId
  idempotencyKey : String
  requestHash : Digest
  deriving DecidableEq

/-- A row of `workflow_steps`. -/
structure StepRow where
  runId : RunId
  stepId : StepId
  attempt : Nat
  kind : String
  state : StepState
  stateVersion : Nat
  inputRef : Option Json
  outputRef : Option Json
  errorCode : Option String
  deriving DecidableEq

/-- The primary key of a step row. -/
def StepRow.key (row : StepRow) : RunId × StepId × Nat := (row.runId, row.stepId, row.attempt)

inductive ActionState where
  | pending
  | claimed
  | started
  | outcomeUnknown
  | completed
  | failed
  | needsAttention
  | cancelled
  deriving DecidableEq, Repr

def ActionState.name : ActionState → String
  | .pending => "pending"
  | .claimed => "claimed"
  | .started => "started"
  | .outcomeUnknown => "outcome_unknown"
  | .completed => "completed"
  | .failed => "failed"
  | .needsAttention => "needs_attention"
  | .cancelled => "cancelled"

/-- A row of `workflow_actions`. -/
structure ActionRow where
  actionId : ActionId
  runId : RunId
  stepId : StepId
  attempt : Nat
  actionKind : ActionKind
  payload : Json
  idempotencyKey : String
  retryClass : RetryClass
  effectClass : EffectClass
  state : ActionState
  leaseOwner : Option String
  leaseExpiresAt : Option Instant
  dispatchStartedAt : Option Instant
  childState : Option String
  childRef : Option Json
  result : Option Json
  errorCode : Option String
  deriving DecidableEq

inductive WaitKind where
  | userInput
  | programRevision
  | trustedApproval
  | job
  | recovery
  deriving DecidableEq, Repr

/-- A row of `workflow_waits`; it is resolved when it has a resolution. -/
structure WaitRow where
  waitId : WaitId
  runId : RunId
  stepId : StepId
  waitKind : WaitKind
  expectedStateVersion : Nat
  responseSchema : Json
  responseSchemaDigest : Digest
  resolution : Option Json
  deriving DecidableEq

inductive ControlAction where
  | submitInput
  | resume
  | cancel
  deriving DecidableEq, Repr

def ControlAction.name : ControlAction → String
  | .submitInput => "submit_input"
  | .resume => "resume"
  | .cancel => "cancel"

/-- A row of `workflow_control_commands`; it is completed when it has a result. -/
structure CommandRow where
  ownerSubject : String
  runId : RunId
  idempotencyKey : String
  action : ControlAction
  expectedStateVersion : Nat
  payload : Json
  payloadDigest : Digest
  result : Option Json
  deriving DecidableEq

/-- The primary key of a command row. -/
def CommandRow.key (row : CommandRow) : String × String := (row.ownerSubject, row.idempotencyKey)

/-- A row of `workflow_events`. -/
structure WorkflowEvent where
  runId : RunId
  sequence : Nat
  eventType : String
  payload : Json
  deriving DecidableEq

structure Store where
  runs : Table RunRow.runId
  steps : Table StepRow.key
  actions : Table ActionRow.actionId
  waits : Table WaitRow.waitId
  commands : Table CommandRow.key
  events : List WorkflowEvent

namespace Store

/-- No row in any table. -/
def empty : Store := ⟨.empty, .empty, .empty, .empty, .empty, []⟩

/-! ## Reads -/

def run? (s : Store) (runId : RunId) : Option RunRow := s.runs.get? runId

/-- `SELECT * FROM workflow_runs WHERE owner_subject=? AND run_id=?`, which is `get_run`. -/
def getRun (s : Store) (owner : String) (runId : RunId) : Option RunRow :=
  (s.run? runId).filter fun row => row.ownerSubject = owner

def step? (s : Store) (runId : RunId) (stepId : StepId) (attempt : Nat) : Option StepRow :=
  s.steps.get? (runId, stepId, attempt)

/-- The steps of one run, `list_steps`. -/
def stepsOf (s : Store) (runId : RunId) : List StepRow :=
  s.steps.rows.filter fun row => row.runId = runId

def action? (s : Store) (actionId : ActionId) : Option ActionRow := s.actions.get? actionId

/-- The actions of one run, `list_actions`. -/
def actionsOf (s : Store) (runId : RunId) : List ActionRow :=
  s.actions.rows.filter fun row => row.runId = runId

/-- `list_nonterminal_runs`. -/
def nonterminalRuns (s : Store) : List RunRow :=
  s.runs.rows.filter fun row => !isTerminalRun row.state

/-- `list_actions_for_reconcile`. -/
def actionsForReconcile (s : Store) : List ActionRow :=
  s.actions.rows.filter fun row => row.state = .started ∨ row.state = .outcomeUnknown

/-! ## Writes -/

def setRun (s : Store) (runId : RunId) (set : RunRow → RunRow)
    (hset : ∀ row, (set row).runId = row.runId) : Store :=
  { s with runs := s.runs.modify runId set hset }

def setStep (s : Store) (key : RunId × StepId × Nat) (set : StepRow → StepRow)
    (hset : ∀ row, (set row).key = row.key) : Store :=
  { s with steps := s.steps.modify key set hset }

def setAction (s : Store) (actionId : ActionId) (set : ActionRow → ActionRow)
    (hset : ∀ row, (set row).actionId = row.actionId) : Store :=
  { s with actions := s.actions.modify actionId set hset }

/-- An `UPDATE workflow_actions` on every row. -/
def setActions (s : Store) (set : ActionRow → ActionRow)
    (hset : ∀ row, (set row).actionId = row.actionId) : Store :=
  { s with actions := s.actions.mapRows set hset }

def setWait (s : Store) (waitId : WaitId) (set : WaitRow → WaitRow)
    (hset : ∀ row, (set row).waitId = row.waitId) : Store :=
  { s with waits := s.waits.modify waitId set hset }

/-- `SELECT COALESCE(MAX(sequence),0)+1 FROM workflow_events WHERE run_id=?`. -/
def nextSequence (s : Store) (runId : RunId) : Nat :=
  ((s.events.filter fun e => e.runId = runId).map WorkflowEvent.sequence).foldr max 0 + 1

/-- `INSERT INTO workflow_events` under the next sequence of its run. -/
def pushEvent (s : Store) (runId : RunId) (eventType : String) (payload : Json) : Store :=
  { s with events := s.events ++ [⟨runId, s.nextSequence runId, eventType, payload⟩] }

/-! ## What a write leaves alone -/

section

variable {s : Store} {runId : RunId} {actionId : ActionId}

@[simp] theorem pushEvent_runs {eventType : String} {payload : Json} :
    (s.pushEvent runId eventType payload).runs = s.runs := rfl

@[simp] theorem pushEvent_steps {eventType : String} {payload : Json} :
    (s.pushEvent runId eventType payload).steps = s.steps := rfl

@[simp] theorem pushEvent_actions {eventType : String} {payload : Json} :
    (s.pushEvent runId eventType payload).actions = s.actions := rfl

@[simp] theorem pushEvent_waits {eventType : String} {payload : Json} :
    (s.pushEvent runId eventType payload).waits = s.waits := rfl

@[simp] theorem pushEvent_commands {eventType : String} {payload : Json} :
    (s.pushEvent runId eventType payload).commands = s.commands := rfl

theorem run?_some {row : RunRow} (h : s.run? runId = some row) :
    row ∈ s.runs.rows ∧ row.runId = runId := Table.get?_some h

theorem action?_some {row : ActionRow} (h : s.action? actionId = some row) :
    row ∈ s.actions.rows ∧ row.actionId = actionId := Table.get?_some h

theorem getRun_some {owner : String} {row : RunRow} (h : s.getRun owner runId = some row) :
    s.run? runId = some row ∧ row.ownerSubject = owner := by
  obtain ⟨hrow, howner⟩ := Option.filter_eq_some_iff.mp h
  exact ⟨hrow, by simpa using howner⟩

end

end Store

end AutocadMcp.Workflow
