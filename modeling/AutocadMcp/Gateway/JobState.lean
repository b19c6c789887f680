import AutocadMcp.Contracts.Messages

/-!
# The durable job state machine

`domain/jobs.py`: the states a job can be in, the edges between them, the edges
that need reconciliation evidence, and `validate_transition`, through which
every write of a state goes.
-/

namespace AutocadMcp.Gateway

inductive JobState where
  | queued
  | dispatched
  | acknowledged
  | running
  | succeeded
  | failed
  | reconnectPending
  | cancelRequested
  | cancelled
  | outcomeUnknown
  | needsAttention
  deriving DecidableEq, Repr

def JobState.name : JobState → String
  | .queued => "queued"
  | .dispatched => "dispatched"
  | .acknowledged => "acknowledged"
  | .running => "running"
  | .succeeded => "succeeded"
  | .failed => "failed"
  | .reconnectPending => "reconnect_pending"
  | .cancelRequested => "cancel_requested"
  | .cancelled => "cancelled"
  | .outcomeUnknown => "outcome_unknown"
  | .needsAttention => "needs_attention"

/-- `TERMINAL_STATES`. -/
def isTerminal : JobState → Bool
  | .succeeded | .failed | .cancelled | .needsAttention => true
  | _ => false

/-- `_TRANSITIONS`. -/
def transitions : JobState → List JobState
  | .queued => [.dispatched, .cancelled, .failed]
  | .dispatched => [.acknowledged, .cancelRequested, .reconnectPending, .outcomeUnknown, .failed]
  | .acknowledged =>
      [.running, .succeeded, .failed, .cancelRequested, .reconnectPending, .outcomeUnknown]
  | .running => [.succeeded, .failed, .cancelRequested, .outcomeUnknown, .reconnectPending]
  | .cancelRequested => [.cancelled, .succeeded, .failed, .outcomeUnknown, .reconnectPending]
  | .reconnectPending =>
      [.queued, .running, .outcomeUnknown, .succeeded, .failed, .cancelled, .needsAttention]
  | .outcomeUnknown => [.succeeded, .failed, .cancelled, .needsAttention]
  | .succeeded | .failed | .cancelled | .needsAttention => []

/-- `_RECOVERY_EVIDENCE_TRANSITIONS`. -/
def recoveryEvidenceTransitions : List (JobState × JobState) :=
  [(.reconnectPending, .queued), (.reconnectPending, .running),
   (.reconnectPending, .outcomeUnknown), (.reconnectPending, .succeeded),
   (.reconnectPending, .failed), (.reconnectPending, .cancelled),
   (.outcomeUnknown, .succeeded), (.outcomeUnknown, .failed), (.outcomeUnknown, .cancelled)]

def transitionAllowed (current target : JobState) : Bool :=
  target ∈ transitions current

/-- `validate_transition`; the error is the text of `InvalidJobTransition`. The
check for unknown states has no case here, the type has no others. -/
def validateTransition (current target : JobState) (effectClass : EffectClass)
    (evidence : Bool) : Except String Unit :=
  if isTerminal current then
    .error s!"terminal job cannot transition: {current.name} -> {target.name}"
  else if !transitionAllowed current target then
    .error s!"invalid job transition: {current.name} -> {target.name}"
  else if (current, target) ∈ recoveryEvidenceTransitions ∧ !evidence then
    .error s!"recovery transition requires reconciliation evidence: {current.name} -> {target.name}"
  else if effectClass = .write ∧ current ∈ [.acknowledged, .running, .cancelRequested] ∧
      target = .reconnectPending then
    .error "started write-like jobs must become outcome_unknown"
  else if effectClass = .write ∧ current = .reconnectPending ∧ target = .running then
    .error "reconciled started write-like jobs must become outcome_unknown"
  else
    .ok ()

/-- An edge of the state machine for a job of this effect class: some evidence
flag lets `validateTransition` pass. -/
def Edge (effectClass : EffectClass) (current target : JobState) : Prop :=
  ∃ evidence, validateTransition current target effectClass evidence = .ok ()

/-! ## What a passed validation says -/

theorem transition_passes {current target : JobState} {effectClass : EffectClass}
    {evidence : Bool} (h : validateTransition current target effectClass evidence = .ok ()) :
    isTerminal current = false ∧ transitionAllowed current target = true ∧
      ((current, target) ∈ recoveryEvidenceTransitions → evidence = true) := by
  unfold validateTransition at h
  split at h
  · cases h
  · rename_i hterm
    split at h
    · cases h
    · rename_i hallowed
      split at h
      · cases h
      · rename_i hevidence
        refine ⟨by simpa using hterm, by simpa using hallowed, fun hmem => ?_⟩
        cases evidence with
        | true => rfl
        | false => exact absurd ⟨hmem, rfl⟩ hevidence

theorem edge_of_validate {current target : JobState} {effectClass : EffectClass}
    {evidence : Bool} (h : validateTransition current target effectClass evidence = .ok ()) :
    Edge effectClass current target :=
  ⟨evidence, h⟩

theorem Edge.not_terminal {current target : JobState} {effectClass : EffectClass}
    (h : Edge effectClass current target) : isTerminal current = false := by
  obtain ⟨evidence, h⟩ := h
  exact (transition_passes h).1

/-- No edge of the table is a loop. -/
theorem transition_ne {current target : JobState} (h : transitionAllowed current target = true) :
    current ≠ target := by
  rintro rfl
  cases current <;> simp [transitionAllowed, transitions] at h

/-- A job comes back to `queued` only from `reconnect_pending`, and only on evidence. -/
theorem validate_to_queued {current : JobState} {effectClass : EffectClass} {evidence : Bool}
    (h : validateTransition current .queued effectClass evidence = .ok ()) :
    current = .reconnectPending ∧ evidence = true := by
  obtain ⟨-, hallowed, hevidence⟩ := transition_passes h
  cases current <;> simp [transitionAllowed, transitions] at hallowed
  exact ⟨rfl, hevidence (by decide)⟩

end AutocadMcp.Gateway
