import AutocadMcp.Gateway.Runs

/-!
# Started writes and the Gateway's own events

A write that the Agent has accepted may have taken effect, so only a report of
the Agent can settle it. The deadline sweep and the handling of a message with
another payload forget this for a started job; every other event of the Gateway
keeps to it.
-/

namespace AutocadMcp.Gateway

/-- A job in one of these states may have had its effect. -/
def mayHaveActed (state : JobState) : Bool :=
  isStarted state || state = .outcomeUnknown || state = .needsAttention

/-- Where the Gateway may take such a job without a report of the Agent. -/
def Undecided (before after : JobState) : Prop :=
  after = before ∨ after = .cancelRequested ∨ after = .outcomeUnknown ∨ after = .needsAttention

theorem Undecided.trans {s t u : JobState} (h : Undecided s t) (h' : Undecided t u) :
    Undecided s u := by
  rcases h' with rfl | h'
  · exact h
  · exact Or.inr h'

theorem Undecided.mayHaveActed {s t : JobState} (h : Undecided s t)
    (hs : mayHaveActed s = true) : mayHaveActed t = true := by
  rcases h with rfl | rfl | rfl | rfl
  · exact hs
  · rfl
  · rfl
  · rfl

namespace Event

/-- The time of a deadline sweep. -/
def sweepTime? : Event → Option Instant
  | .sweep env => some env.now
  | _ => none

end Event

section

variable (cfg : Config) (w : World) (e : Event)

/-- The event handles no message of the Agent, or one that names another payload. -/
def Internal : Prop :=
  ∀ m job, handled? cfg w e = some (m, job) → mismatches m job = true

/-- A started write with its deadline is not swept, and gets no message with another payload. -/
def Spares (row : JobRow) : Prop :=
  row.effectClass = .write → isStarted row.state = true →
    (∀ now ∈ e.sweepTime?, isExpired now row.deadlineAt = false) ∧
    (∀ handled ∈ handled? cfg w e, handled.2.jobId = row.jobId →
      mismatches handled.1 handled.2 = false)

/-- The event neither sweeps a started write whose deadline has passed nor handles a message with
another payload for one. -/
def SparesStarted : Prop :=
  ∀ row ∈ w.gateway.db.jobs.rows, Spares cfg w e row

/-- An internal event leaves every write that may have had its effect undecided. -/
def InventsNothing : Prop :=
  Internal cfg w e → ∀ row ∈ w.gateway.db.jobs.rows, row.effectClass = .write →
    (isStarted row.state = true ∨ row.state = .outcomeUnknown) →
      ∃ row', (World.step cfg w e).gateway.db.job? row.jobId = some row' ∧
        Undecided row.state row'.state

end

instance (cfg : Config) (w : World) (e : Event) (row : JobRow) : Decidable (Spares cfg w e row) := by
  unfold Spares
  infer_instance

instance (cfg : Config) (w : World) (e : Event) : Decidable (SparesStarted cfg w e) := by
  unfold SparesStarted
  infer_instance

section

variable {cfg : Config} {w : World} {e : Event}

/-! ## Reasons of internal events -/

/-- Where an internal event moves a job for a reason that it has. -/
theorem internal_moved (hinternal : Internal cfg w e) {env : Env} {reason : Reason} {row : JobRow}
    {a : Transition} (henv : e.env? = some env) (hgives : e.Gives cfg w row.jobId reason)
    (hallows : reason.Allows env.now row a) :
    ((row.state = .queued ∨ row.state = .dispatched) ∧ isStarted a.target = false) ∨
    (isOpen row.state = true ∧ a.target = lostTarget row) ∨
    a.target = .outcomeUnknown ∨ a.target = .needsAttention ∨
    (a.target = settledTarget row ∧
      ((∃ now ∈ e.sweepTime?, isExpired now row.deadlineAt = true) ∨
       ∃ handled ∈ handled? cfg w e, handled.2.jobId = row.jobId ∧
        mismatches handled.1 handled.2 = true)) := by
  have hfrozen : Reason.frozen.Allows env.now row a →
      a.target = .outcomeUnknown ∨ a.target = .needsAttention := by
    rintro (⟨-, htarget⟩ | ⟨-, htarget⟩)
    · exact Or.inl htarget
    · exact Or.inr htarget
  have hdispatch : ∀ r : Reason, r = .refused ∨ r = .offline ∨ r = .claimed →
      r.Allows env.now row a →
        (row.state = .queued ∨ row.state = .dispatched) ∧ isStarted a.target = false := by
    rintro _ (rfl | rfl | rfl) hallows
    · refine ⟨hallows.1, ?_⟩
      rw [hallows.2.1]
      rfl
    · refine ⟨Or.inr hallows.1, ?_⟩
      rw [hallows.2]
      rfl
    · exact hallows.elim
  cases e with
  | dispatch env' jobId => exact Or.inl (hdispatch reason hgives.2 hallows)
  | proceed env' sessionId =>
      rcases hgives with hr | hr | hr | rfl
      · exact Or.inl (hdispatch reason (Or.inl hr) hallows)
      · exact Or.inl (hdispatch reason (Or.inr (Or.inl hr)) hallows)
      · exact Or.inl (hdispatch reason (Or.inr (Or.inr hr)) hallows)
      · exact Or.inr (Or.inl hallows)
  | dispatched env' sent =>
      cases hgives
      exact Or.inr (Or.inl hallows)
  | stale env' deviceId =>
      cases hgives
      exact Or.inr (Or.inl hallows)
  | activate env' sessionId =>
      cases hgives
      exact Or.inr (Or.inl hallows)
  | reject env' sessionId =>
      cases hgives
      exact Or.inr (Or.inl hallows)
  | close env' sessionId =>
      cases hgives
      exact Or.inr (Or.inl hallows)
  | restart env' =>
      rcases hgives with rfl | rfl
      · exact Or.inr (Or.inl hallows)
      · exact hallows.elim
  | evidence env' owner jobId =>
      obtain ⟨-, rfl⟩ := hgives
      rcases hfrozen hallows with htarget | htarget
      · exact Or.inr (Or.inr (Or.inl htarget))
      · exact Or.inr (Or.inr (Or.inr (Or.inl htarget)))
  | cancel env' owner jobId text =>
      obtain ⟨-, rfl⟩ := hgives
      exact hallows.elim
  | sweep env' =>
      cases hgives
      cases henv
      exact Or.inr (Or.inr (Or.inr (Or.inr ⟨hallows.2.2, Or.inl ⟨env.now, rfl, hallows.1⟩⟩)))
  | message env' sessionId m =>
      obtain ⟨m', job, hhandled, hid, ⟨rfl, hmismatch, -⟩ | ⟨hmatches, -⟩⟩ := hgives
      swap
      · rw [hinternal m' job hhandled] at hmatches
        cases hmatches
      exact Or.inr (Or.inr (Or.inr (Or.inr
        ⟨hallows, Or.inr ⟨(m', job), hhandled, hid.symm, hmismatch⟩⟩)))
  | createJob a' => cases henv
  | createActionJob a' => cases henv
  | releaseIntent a' => cases henv
  | enrol device => cases henv
  | connect connection => cases henv
  | heartbeat connection => cases henv

theorem lostTarget_cases (row : JobRow) :
    (lostTarget row = .outcomeUnknown ∧ row.effectClass = .write ∧ isStarted row.state = true) ∨
    (lostTarget row = .reconnectPending ∧
      ¬ (row.effectClass = .write ∧ isStarted row.state = true)) := by
  unfold lostTarget
  split
  · next h => exact Or.inl ⟨rfl, h⟩
  · next h => exact Or.inr ⟨rfl, h⟩

theorem settledTarget_cases (row : JobRow) :
    (settledTarget row = .needsAttention ∧ row.state = .outcomeUnknown) ∨
    (settledTarget row = .failed ∧ row.state ≠ .outcomeUnknown) := by
  unfold settledTarget
  split
  · next h => exact Or.inl ⟨rfl, h⟩
  · next h => exact Or.inr ⟨rfl, h⟩

/-- An internal event reports no outcome. -/
theorem internal_reports_nothing (hinternal : Internal cfg w e) {row : JobRow} {o : Outcome} :
    ¬ e.Reports cfg w row o := by
  rintro ⟨m, hhandled, hreported⟩
  have hmatches := hreported.not_mismatches
  rw [hinternal m row hhandled] at hmatches
  cases hmatches

/-! ## One row under an internal event -/

/-- No internal event makes a job started that it might sweep or refuse afterwards. -/
theorem spares_step (hinternal : Internal cfg w e) {row row' : JobRow}
    (hstep : RowStep cfg w e row row') (hspares : Spares cfg w e row) : Spares cfg w e row' := by
  cases hstep with
  | kept => exact hspares
  | fingerprinted fingerprint => exact hspares
  | progressed progress => exact hspares
  | claimed hgives hqueued =>
      rintro - ⟨⟩
  | cancelled env target hgives hnone htarget =>
      cases e with
      | cancel env' owner jobId text =>
          intro _ _
          constructor
          · rintro _ ⟨⟩
          · rintro _ ⟨⟩
      | message env' sessionId m =>
          -- no message has a cancellation for its reason
          obtain ⟨m', job, hhandled, -, ⟨hreason, -⟩ | ⟨hmatches, -⟩⟩ := hgives
          · cases hreason
          · rw [hinternal m' job hhandled] at hmatches
            cases hmatches
      | _ => simp [Event.Gives] at hgives
  | finalized o hook hreports hvalid => exact absurd hreports (internal_reports_nothing hinternal)
  | moved env reason a henv hgives hallows hvalid =>
      intro hwrite hstarted
      have hnot : isStarted a.target = false := by
        rcases internal_moved hinternal henv hgives hallows with
          ⟨-, htarget⟩ | ⟨-, htarget⟩ | htarget | htarget | ⟨htarget, -⟩
        · exact htarget
        · rw [htarget]
          rcases lostTarget_cases row with ⟨hlost, -⟩ | ⟨hlost, -⟩ <;> rw [hlost] <;> rfl
        · rw [htarget]
          rfl
        · rw [htarget]
          rfl
        · rw [htarget]
          rcases settledTarget_cases row with ⟨hsettled, -⟩ | ⟨hsettled, -⟩ <;> rw [hsettled] <;> rfl
      have hsame : isStarted a.target = true := hstarted
      rw [hnot] at hsame
      cases hsame

theorem started_of_acted {state : JobState} (hacted : mayHaveActed state = true)
    (hopen : isTerminal state = false) (hknown : state ≠ .outcomeUnknown) :
    isStarted state = true := by
  unfold mayHaveActed at hacted
  rw [Bool.or_eq_true, Bool.or_eq_true, decide_eq_true_eq, decide_eq_true_eq] at hacted
  rcases hacted with (hstarted | hunknown) | hattention
  · exact hstarted
  · exact absurd hunknown hknown
  · rw [hattention] at hopen
    cases hopen

/-- What an internal event does to a write that may have had its effect. -/
theorem undecided_step (hinternal : Internal cfg w e) {row row' : JobRow}
    (hstep : RowStep cfg w e row row') (hspares : Spares cfg w e row)
    (hwrite : row.effectClass = .write) (hacted : mayHaveActed row.state = true) :
    Undecided row.state row'.state := by
  cases hstep with
  | kept => exact Or.inl rfl
  | fingerprinted fingerprint => exact Or.inl rfl
  | progressed progress => exact Or.inl rfl
  | claimed hgives hqueued =>
      rw [hqueued] at hacted
      cases hacted
  | cancelled env target hgives hnone htarget =>
      show Undecided row.state target
      cases hstate : row.state <;> rw [hstate] at htarget hacted <;> cases htarget <;>
        first
          | exact Or.inl rfl
          | exact Or.inr (Or.inl rfl)
          | cases hacted
  | finalized o hook hreports hvalid => exact absurd hreports (internal_reports_nothing hinternal)
  | moved env reason a henv hgives hallows hvalid =>
      show Undecided row.state a.target
      have hopen := (transition_passes hvalid).1
      rcases internal_moved hinternal henv hgives hallows with
        ⟨hstate, -⟩ | ⟨hlive, htarget⟩ | htarget | htarget | ⟨htarget, hcause⟩
      · rcases hstate with hstate | hstate <;> rw [hstate] at hacted <;> cases hacted
      · rcases lostTarget_cases row with ⟨hlost, -⟩ | ⟨hlost, hnot⟩
        · rw [htarget, hlost]
          exact Or.inr (Or.inr (Or.inl rfl))
        · -- of the open states only `dispatched` is not a started one
          have hstarted : isStarted row.state = true := by
            apply started_of_acted hacted hopen
            intro hunknown
            rw [hunknown] at hlive
            cases hlive
          exact absurd ⟨hwrite, hstarted⟩ hnot
      · exact Or.inr (Or.inr (Or.inl htarget))
      · exact Or.inr (Or.inr (Or.inr htarget))
      · rcases settledTarget_cases row with ⟨hsettled, -⟩ | ⟨-, hknown⟩
        · exact Or.inr (Or.inr (Or.inr (htarget.trans hsettled)))
        · obtain ⟨hdeadline, hmessage⟩ := hspares hwrite (started_of_acted hacted hopen hknown)
          rcases hcause with ⟨now, hnow, hexpired⟩ | ⟨handled, hhandled, hid, hmismatch⟩
          · rw [hdeadline now hnow] at hexpired
            cases hexpired
          · rw [hmessage handled hhandled hid] at hmismatch
            cases hmismatch

/-! ## Runs -/

/-- What the actions of an internal event keep of a row. -/
def Respects (cfg : Config) (w : World) (e : Event) (row row' : JobRow) : Prop :=
  row'.identity = row.identity ∧ (Spares cfg w e row → Spares cfg w e row' ∧
    (row.effectClass = .write → mayHaveActed row.state = true → Undecided row.state row'.state))

theorem effectClass_of_identity {row row' : JobRow} (h : row'.identity = row.identity) :
    row'.effectClass = row.effectClass := by
  simp only [JobRow.identity, Prod.mk.injEq] at h
  exact h.2.2.2.2.1

theorem step_invents_nothing (hspares : SparesStarted cfg w e) : InventsNothing cfg w e := by
  intro hinternal row hrow hwrite hstate
  have hacted : mayHaveActed row.state = true := by
    unfold mayHaveActed
    rcases hstate with hstarted | hunknown
    · rw [hstarted]
      rfl
    · rw [hunknown]
      rfl
  have hget : w.gateway.db.job? row.jobId = some row := Table.get?_of_mem hrow
  have hrefl : ∀ row, Respects cfg w e row row := fun row => ⟨rfl, fun h => ⟨h, fun _ _ => Or.inl rfl⟩⟩
  have htrans : ∀ x y z, Respects cfg w e x y → Respects cfg w e y z → Respects cfg w e x z := by
    rintro x y z ⟨hid, hxy⟩ ⟨hid', hyz⟩
    refine ⟨hid'.trans hid, fun hx => ?_⟩
    obtain ⟨hy, hundecided⟩ := hxy hx
    obtain ⟨hz, hundecided'⟩ := hyz hy
    refine ⟨hz, fun hwrite hacted => ?_⟩
    have hfirst := hundecided hwrite hacted
    exact hfirst.trans
      (hundecided' ((effectClass_of_identity hid).trans hwrite) (hfirst.mayHaveActed hacted))
  have hsingle : ∀ x y, RowStep cfg w e x y → Respects cfg w e x y := by
    intro x y hstep
    exact ⟨hstep.identity, fun hx =>
      ⟨spares_step hinternal hstep hx, undecided_step hinternal hstep hx⟩⟩
  obtain ⟨row', hrow', -, hkeeps⟩ := step_row hrefl htrans hsingle hget
  exact ⟨row', hrow', (hkeeps (hspares row hrow)).2 hwrite hacted⟩

/-- **Only a report of the Agent settles a started write**, in every run in which no deadline of
a started write is swept and no message names another payload than that of a started write. -/
theorem runs_invent_nothing (cfg : Config) (db : Db) (events : List Event)
    (h : Along (World.step cfg) (SparesStarted cfg) (World.initial db) events) :
    Along (World.step cfg) (InventsNothing cfg) (World.initial db) events :=
  h.each (fun _ => True) (fun _ _ _ _ => trivial) (fun _ _ _ => step_invents_nothing) trivial

/-- The sample commit is accepted, its session closes, and its deadline passes. -/
def sampleLoss : List Event :=
  sampleDispatch ++ [.message { now := 300 } 1 (.ack sampleAccepted), .close { now := 400 } 1,
    .sweep { now := 2000 }]

theorem runs_invent_nothing_loss :
    Along (World.step sampleConfig) (InventsNothing sampleConfig) (World.initial sampleDb)
      sampleLoss :=
  runs_invent_nothing sampleConfig sampleDb sampleLoss (by decide +kernel)

/-- The sample commit is accepted and its deadline passes while the Agent works on it. -/
def sampleOverdue : List Event :=
  sampleDispatch ++ [.message { now := 300 } 1 (.ack sampleAccepted)]

theorem sampleOverdue_swept :
    ∃ row ∈ (runEvents sampleConfig sampleDb sampleOverdue).gateway.db.jobs.rows,
      row.effectClass = .write ∧ isStarted row.state = true ∧
        ((World.step sampleConfig (runEvents sampleConfig sampleDb sampleOverdue)
          (.sweep { now := 2000 })).gateway.db.job? row.jobId).map JobRow.state = some .failed := by
  decide +kernel

/-- The sweep fails it, though the Agent has reported nothing. -/
theorem sweep_fails_started_write :
    ¬ Along (World.step sampleConfig) (InventsNothing sampleConfig) (World.initial sampleDb)
      (sampleOverdue ++ [.sweep { now := 2000 }]) := by
  intro h
  have hlast := (along_append.mp h).2.1
  have hinternal : Internal sampleConfig (runEvents sampleConfig sampleDb sampleOverdue)
      (.sweep { now := 2000 }) := by
    rintro m job ⟨⟩
  obtain ⟨row, hrow, hwrite, hstarted, hfailed⟩ := sampleOverdue_swept
  obtain ⟨row', hrow', hundecided⟩ := hlast hinternal row hrow hwrite (Or.inl hstarted)
  rw [show ((World.step sampleConfig (runEvents sampleConfig sampleDb sampleOverdue)
    (.sweep { now := 2000 })).gateway.db.job? row.jobId) = some row' from hrow'] at hfailed
  have hstate : row'.state = .failed := by simpa using hfailed
  rw [hstate] at hundecided
  rcases hundecided with hsame | h | h | h
  · rw [← hsame] at hstarted
    cases hstarted
  · cases h
  · cases h
  · cases h

end

end AutocadMcp.Gateway
