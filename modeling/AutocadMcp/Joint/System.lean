import AutocadMcp.Agent.Reports
import AutocadMcp.Gateway.SentCommands
import AutocadMcp.Gateway.ToldResults

/-!
# A Gateway and one of its Agents

The Gateway serves any number of devices; one of them is this Agent, and the others may send what
they like. Between the two a message may be lost, delivered late, or delivered twice, and both
sides may lose their sessions and restart at any time. What is delivered was sent.
-/

namespace AutocadMcp.Joint

structure System where
  world : Gateway.World
  agent : Agent.Core

inductive Event where
  | gateway (e : Gateway.Event)
  | agent (e : Agent.Event)

namespace Event

/-- The message that the Gateway takes from a socket. -/
def toGateway? : Event → Option (SessionId × AgentMessage)
  | .gateway (.message _ sessionId m) => some (sessionId, m)
  | _ => none

/-- The message that the Agent takes from its socket. -/
def toAgent? : Event → Option GatewayMessage
  | .agent (.receive message) => some message
  | _ => none

end Event

section

variable (cfg : Gateway.Config) (acfg : Agent.Config)

def step (s : System) : Event → System
  | .gateway e => { s with world := Gateway.World.step cfg s.world e }
  | .agent e => { s with agent := Agent.step acfg s.agent e }

/-- What a connection of the Agent's device receives was sent by the Agent, and what the Agent
receives was sent by the Gateway. -/
def Delivered (s : System) (e : Event) : Prop :=
  (∀ arrival ∈ e.toGateway?, ∀ endpoint ∈ s.world.endpoint? arrival.1,
    endpoint.connection.deviceId = acfg.deviceId → arrival.2 ∈ s.agent.sent) ∧
  ∀ message ∈ e.toAgent?, message ∈ s.world.gateway.sent

instance Delivered.decide (s : System) (e : Event) : Decidable (Delivered acfg s e) :=
  inferInstanceAs (Decidable (_ ∧ _))

/-- Both sides have just started, on databases without jobs and entries. -/
def initial (db : Gateway.Db) (paused writeLock : Bool) : System where
  world := Gateway.World.initial db
  agent := Agent.Core.initial paused writeLock

abbrev run (db : Gateway.Db) (paused writeLock : Bool) (es : List Event) : System :=
  runFrom (step cfg acfg) (initial db paused writeLock) es

/-- Every message of the run was sent before it was delivered. -/
abbrev Genuine (db : Gateway.Db) (paused writeLock : Bool) (es : List Event) : Prop :=
  Along (step cfg acfg) (Delivered acfg) (initial db paused writeLock) es

end

/-! ## What the two sides know of each other -/

/-- The Agent executed the payload of the job under the job's key, and recorded a success. -/
structure CarriedOut (a : Agent.Core) (row : Gateway.JobRow) (e : Agent.LedgerEntry) : Prop where
  stored : a.ledger.get? e.commandId = some e
  succeeded : e.state = .succeeded
  payload : e.payloadHash = row.payloadHash
  key : e.idempotencyKey = row.idempotencyKey
  device : e.deviceId = row.deviceId

/-- The commands that the Agent was sent are those of jobs of its device, and a job of the device
that the Gateway has as succeeded was carried out. -/
structure Consistent (acfg : Agent.Config) (s : System) : Prop where
  recorded : Gateway.Recorded s.world.gateway
  once : Agent.Inv s.agent
  honest : Agent.Honest
    (fun c => Gateway.Known s.world.gateway.db c ∧ c.deviceId = acfg.deviceId) s.agent
  carriedOut : ∀ j row, s.world.gateway.db.job? j = some row → row.deviceId = acfg.deviceId →
    row.state = .succeeded → ∃ e, CarriedOut s.agent row e

section

variable {cfg : Gateway.Config} {acfg : Agent.Config} {s : System}

theorem CarriedOut.later {a a' : Agent.Core} {row : Gateway.JobRow} {e : Agent.LedgerEntry}
    (h : CarriedOut a row e) (hgrows : a.ledger.Grows a'.ledger) : ∃ e', CarriedOut a' row e' := by
  obtain ⟨e', he', hadvances⟩ := hgrows _ e h.stored
  obtain ⟨hcommand, -, hkey, hpayload, hdevice, -, -⟩ :=
    Agent.fields_of_identity hadvances.identity
  have hterminal : e.state.isTerminal = true := by
    rw [h.succeeded]
    rfl
  have houtcome := hadvances.final hterminal
  simp only [Agent.LedgerEntry.outcome, Prod.mk.injEq] at houtcome
  refine ⟨e', ?_, houtcome.1.trans h.succeeded, hpayload.trans h.payload, hkey.trans h.key,
    hdevice.trans h.device⟩
  rw [hcommand]
  exact he'

theorem CarriedOut.of_identity {a : Agent.Core} {row row' : Gateway.JobRow}
    {e : Agent.LedgerEntry} (h : CarriedOut a row e) (hid : row'.identity = row.identity) :
    CarriedOut a row' e := by
  simp only [Gateway.JobRow.identity, Prod.mk.injEq] at hid
  obtain ⟨-, -, hdevice, -, -, -, -, hkey, hpayload, -⟩ := hid
  exact ⟨h.stored, h.succeeded, h.payload.trans hpayload.symm, h.key.trans hkey.symm,
    h.device.trans hdevice.symm⟩

theorem deviceId_of_identity {row row' : Gateway.JobRow} (h : row'.identity = row.identity) :
    row'.deviceId = row.deviceId := by
  simp only [Gateway.JobRow.identity, Prod.mk.injEq] at h
  exact h.2.2.1

/-- A message that reports a success states an entry that succeeded. -/
theorem states_succeeded {e : Agent.LedgerEntry} {m : AgentMessage} (h : Agent.States e m)
    (hstatus : Gateway.reportedStatus m = some .succeeded) :
    e.state = .succeeded ∧ e.payloadHash = m.envelope.payloadHash := by
  have hplain : Agent.plainStatus e.state = .succeeded → e.state = .succeeded := by
    cases e.state <;> simp [Agent.plainStatus, Agent.statusOf]
  have htyped : Agent.statusOf e.state = .succeeded → e.state = .succeeded := by
    cases e.state <;> simp [Agent.statusOf]
  cases m with
  | ack m => cases h
  | progress m => cases h
  | result m =>
      obtain ⟨hpayload, hstate, -⟩ := h
      have hsame : m.status = .succeeded := Option.some.inj hstatus
      rw [hsame] at hstate
      exact ⟨hplain hstate.symm, hpayload.symm⟩
  | programResult m =>
      obtain ⟨hpayload, -, -, hstate, -⟩ := h
      have hsame : m.status = .succeeded := Option.some.inj hstatus
      rw [hsame] at hstate
      exact ⟨htyped hstate.symm, hpayload.symm⟩
  | rollbackResult m =>
      obtain ⟨hpayload, -, -, hstate, -⟩ := h
      have hsame : m.status = .succeeded := Option.some.inj hstatus
      rw [hsame] at hstate
      exact ⟨htyped hstate.symm, hpayload.symm⟩
  | reconcileResult m =>
      obtain ⟨hpayload, hstate, -⟩ := h
      have hsame : m.resultStatus = some .succeeded := hstatus
      rw [hsame] at hstate
      exact ⟨hplain (Option.some.inj hstate).symm, hpayload.symm⟩

theorem isReport_of_status {m : AgentMessage} {status : ResultStatus}
    (h : Gateway.reportedStatus m = some status) : Agent.isReport m = true := by
  cases m with
  | ack m => cases h
  | progress m => cases h
  | reconcileResult m =>
      show m.resultStatus.isSome = true
      rw [show m.resultStatus = some status from h]
      rfl
  | _ => rfl

/-- The row of a job of the device whose command is known, by the job or by the command. -/
theorem known_row {db : Gateway.Db} {row : Gateway.JobRow} {c : CommandMessage}
    (hdistinct : Gateway.Distinct db) (hrow : db.job? row.jobId = some row)
    (h : Gateway.Known db c) (hsame : c.jobId = row.jobId ∨ c.commandId = row.commandId) :
    c.idempotencyKey = row.idempotencyKey ∧ c.deviceId = row.deviceId := by
  obtain ⟨row', connection, binding, hrow', hcommand⟩ := h
  have hjob : row' = row := by
    rcases hsame with hjob | hid
    · rw [hjob, hrow] at hrow'
      exact (Option.some.inj hrow').symm
    · have hcollides : Gateway.Collides row' row := by
        left
        rw [hcommand] at hid
        exact hid
      have hj := hdistinct _ _ _ _ hrow' hrow hcollides
      rw [hj, hrow] at hrow'
      exact (Option.some.inj hrow').symm
  rw [hcommand, hjob]
  exact ⟨rfl, rfl⟩

/-- The job of a report of success that the Agent sent was carried out. -/
theorem Consistent.reported (h : Consistent acfg s) {m : AgentMessage} {job : Gateway.JobRow}
    (hsent : m ∈ s.agent.sent) (hjob : s.world.gateway.db.job? job.jobId = some job)
    (hstatus : Gateway.reportedStatus m = some .succeeded)
    (hmatch : Gateway.mismatches m job = false) (hjobId : m.envelope.jobId = job.jobId)
    (hcommandId : m.envelope.commandId = job.commandId) : ∃ e, CarriedOut s.agent job e := by
  obtain ⟨e, hbacks⟩ := h.honest.sent m hsent (isReport_of_status hstatus)
  obtain ⟨hsucceeded, hpayload⟩ := states_succeeded hbacks.states hstatus
  have hsame : m.envelope.payloadHash = job.payloadHash := by
    unfold Gateway.mismatches at hmatch
    simpa using (Bool.or_eq_false_iff.mp hmatch).1
  have hfields : e.idempotencyKey = job.idempotencyKey ∧ e.deviceId = job.deviceId := by
    rcases hbacks.command with hown | ⟨c, hc, hcJob, -, hanswers⟩
    · obtain ⟨c, hc, hid, -, hanswers⟩ := h.honest.entries _ e hbacks.stored
      obtain ⟨hkey, hdevice⟩ := known_row h.recorded.distinct hjob hc.1
        (Or.inr (hid.symm.trans (hown.trans hcommandId)))
      exact ⟨hanswers.key.trans hkey, hanswers.device.trans hdevice⟩
    · obtain ⟨hkey, hdevice⟩ := known_row h.recorded.distinct hjob hc.1
        (Or.inl (hcJob.trans hjobId))
      exact ⟨hanswers.key.trans hkey, hanswers.device.trans hdevice⟩
  exact ⟨e, hbacks.stored, hsucceeded, hpayload.trans hsame, hfields.1, hfields.2⟩

/-! ## One step -/

theorem Consistent.agentStep (h : Consistent acfg s) {e : Agent.Event}
    (hdelivered : Delivered acfg s (.agent e)) :
    Consistent acfg (step cfg acfg s (.agent e)) := by
  refine ⟨h.recorded, h.once.step acfg e, ?_, ?_⟩
  · apply h.honest.step acfg e
    rintro c rfl hdevice
    exact ⟨h.recorded.known c (hdelivered.2 _ rfl), hdevice⟩
  · intro j row hrow hdevice hsucceeded
    obtain ⟨entry, hentry⟩ := h.carriedOut j row hrow hdevice hsucceeded
    exact hentry.later (Agent.step_grows acfg h.once e)

theorem Consistent.gatewayStep (h : Consistent acfg s) {e : Gateway.Event}
    (hdelivered : Delivered acfg s (.gateway e)) :
    Consistent acfg (step cfg acfg s (.gateway e)) := by
  refine ⟨h.recorded.step cfg e, h.once, ?_, ?_⟩
  · apply h.honest.mono
    rintro c ⟨hknown, hdevice⟩
    exact ⟨hknown.step cfg e, hdevice⟩
  · intro j row' hrow' hdevice hsucceeded
    have hreported : ∀ {row : Gateway.JobRow}, row.state ≠ .succeeded →
        Gateway.SucceedsOn (Gateway.ReportsSuccess cfg s.world e) row row' →
        ∃ entry, CarriedOut s.agent row' entry := by
      intro row hbefore hon
      obtain ⟨job, o, hid, ⟨m, hhandled, hstatus, hmatch⟩, -⟩ :=
        (hon.reported hsucceeded).resolve_left hbefore
      obtain ⟨env, sessionId, connection, rfl, hendpoint, -, -, haddressed⟩ :=
        Gateway.handled?_some hhandled
      obtain ⟨hjob, hjobDevice, -, hbound⟩ := Gateway.addressed_some haddressed
      simp only [Gateway.boundTo, Bool.and_eq_true, decide_eq_true_eq] at hbound
      obtain ⟨⟨-, hcommandId⟩, hjobId⟩ := hbound
      have hsame : job.deviceId = row'.deviceId := deviceId_of_identity hid
      have hsent : m ∈ s.agent.sent :=
        hdelivered.1 (sessionId, m) rfl _ hendpoint (hjobDevice.symm.trans (hsame.trans hdevice))
      obtain ⟨entry, hentry⟩ := h.reported hsent hjob hstatus hmatch hjobId hcommandId
      exact ⟨entry, hentry.of_identity hid.symm⟩
    rcases (Gateway.step_succeedsOn cfg s.world e j).origin row' hrow' with
      ⟨row, hrow, hon⟩ | ⟨-, new, hnew, hon⟩
    · by_cases hbefore : row.state = .succeeded
      · have hrowDevice : row.deviceId = acfg.deviceId := by
          rw [← deviceId_of_identity hon.identity]
          exact hdevice
        obtain ⟨entry, hentry⟩ := h.carriedOut j row hrow hrowDevice hbefore
        exact ⟨entry, hentry.of_identity hon.identity⟩
      · exact hreported hbefore hon
    · have hqueued : new.state ≠ .succeeded := by
        rw [hnew.queued]
        decide
      exact hreported hqueued hon

theorem initial_consistent (db : Gateway.Db) (paused writeLock : Bool) :
    Consistent acfg (initial db paused writeLock) := by
  refine ⟨Gateway.initial_recorded db, Agent.initial_inv paused writeLock,
    Agent.Honest.initial paused writeLock, ?_⟩
  rintro j row ⟨⟩

theorem run_consistent {db : Gateway.Db} {paused writeLock : Bool} {es : List Event}
    (h : Genuine cfg acfg db paused writeLock es) :
    Consistent acfg (run cfg acfg db paused writeLock es) := by
  refine h.invariant (Consistent acfg) ?_ (initial_consistent db paused writeLock)
  rintro s (e | e) hs hdelivered
  · exact hs.gatewayStep hdelivered
  · exact hs.agentStep hdelivered

end

end AutocadMcp.Joint
