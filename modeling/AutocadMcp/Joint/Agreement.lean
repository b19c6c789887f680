import AutocadMcp.Joint.System

/-!
# What a Gateway may say of its Agent

Whatever is lost, repeated or delivered late, and however often either side restarts: what the
Agent executes are jobs of the Gateway, each of them once, and a job that the Gateway has as
succeeded was executed.
-/

namespace AutocadMcp.Joint

section

variable {cfg : Gateway.Config} {acfg : Agent.Config} {s : System}

/-- What ran under the key of a job: its payload, once, and with success. -/
structure RanOnce (a : Agent.Core) (row : Gateway.JobRow) (c : CommandMessage) : Prop where
  executed : c ∈ a.executions
  key : c.idempotencyKey = row.idempotencyKey
  payload : c.payloadHash = row.payloadHash
  succeeded : ∃ e, a.ledger.get? c.commandId = some e ∧ e.state = .succeeded
  once : ∀ c' ∈ a.executions, c'.idempotencyKey = row.idempotencyKey → c' = c

/-- The executions of an Agent are told apart by their keys. -/
theorem Consistent.same_key (h : Consistent acfg s) {c c' : CommandMessage}
    (hc : c ∈ s.agent.executions) (hc' : c' ∈ s.agent.executions)
    (hkey : c.idempotencyKey = c'.idempotencyKey) : c = c' := by
  have hdevice := (h.honest.executed c hc).1.2
  have hdevice' := (h.honest.executed c' hc').1.2
  apply List.inj_on_of_nodup_map h.once.keys_nodup hc hc'
  show (c.deviceId, c.idempotencyKey) = (c'.deviceId, c'.idempotencyKey)
  rw [hdevice, hdevice', hkey]

theorem CarriedOut.ranOnce (h : Consistent acfg s) {row : Gateway.JobRow} {e : Agent.LedgerEntry}
    (hcarried : CarriedOut s.agent row e) : ∃ c, RanOnce s.agent row c := by
  obtain ⟨c, hc, hid⟩ := h.honest.succeeded _ e hcarried.stored hcarried.succeeded
  obtain ⟨-, e', he', hanswers⟩ := h.honest.executed c hc
  have hstored := hcarried.stored
  rw [← hid, he'] at hstored
  cases hstored
  have hkey : c.idempotencyKey = row.idempotencyKey := hanswers.key.symm.trans hcarried.key
  refine ⟨c, hc, hkey, hanswers.payload.symm.trans hcarried.payload,
    ⟨_, he', hcarried.succeeded⟩, ?_⟩
  intro c' hc' hkey'
  exact h.same_key hc' hc (hkey'.trans hkey.symm)

/-- The job of an execution is stored, and the execution is of its command. -/
theorem Consistent.executed_row (h : Consistent acfg s) {c : CommandMessage}
    (hc : c ∈ s.agent.executions) :
    ∃ row, s.world.gateway.db.job? c.jobId = some row ∧ row.deviceId = acfg.deviceId ∧
      row.commandId = c.commandId ∧ row.payloadHash = c.payloadHash ∧ row.payload = c.payload := by
  obtain ⟨⟨⟨row, connection, binding, hrow, hcommand⟩, hdevice⟩, -⟩ := h.honest.executed c hc
  rw [hcommand] at hdevice
  refine ⟨row, hrow, hdevice, ?_⟩
  rw [hcommand]
  exact ⟨rfl, rfl, rfl⟩

theorem Consistent.jobs_nodup (h : Consistent acfg s) :
    (s.agent.executions.map CommandMessage.jobId).Nodup := by
  have hexecutions : s.agent.executions.Nodup := h.once.once.of_map _
  apply hexecutions.map_on
  intro c hc c' hc' hjob
  obtain ⟨row, hrow, -, hcommand, -⟩ := h.executed_row hc
  obtain ⟨row', hrow', -, hcommand', -⟩ := h.executed_row hc'
  rw [← hjob, hrow] at hrow'
  cases hrow'
  exact List.inj_on_of_nodup_map h.once.once hc hc' (hcommand.symm.trans hcommand')

end

/-! ## A concrete run -/

/-- The Agent of device 1. -/
def sampleAgent : Agent.Config where
  deviceId := 1
  queueSize := 4
  hasProgramExecutor := true
  hasRollbackExecutor := true
  canonicalPayloadHash _ := 0

/-- The sample commit is dispatched, accepted, executed and reported. -/
def sampleRun : List Event :=
  Gateway.sampleDispatch.map .gateway ++
    [.agent (.connect 1),
     .agent (.receive (.command
      (Gateway.commandOf (Gateway.sampleConnection 1) Gateway.sampleProvenRow Gateway.sampleBinding))),
     .agent (.work {}),
     .gateway (.message { now := 300 } 1 (.ack Gateway.sampleAccepted)),
     .agent (.work {}),
     .agent (.work { execution := .result (Gateway.sampleCommitted.result.getD .null) }),
     .gateway (.message { now := 400 } 1 (.programResult Gateway.sampleCommitted))]

theorem sampleRun_there :
    ((run Gateway.sampleConfig sampleAgent Gateway.sampleDb false true
      sampleRun).world.gateway.db.job? 10).isSome = true := by
  decide +kernel

/-- The row of the sample commit after the run. -/
def sampleRow : Gateway.JobRow :=
  ((run Gateway.sampleConfig sampleAgent Gateway.sampleDb false true
    sampleRun).world.gateway.db.job? 10).get sampleRun_there

/-! ## The results -/

/-- **A success is an execution.** After any run in which every message was sent before it was
delivered, a job of the Agent's device that the Gateway has as succeeded was executed by the Agent,
with its own payload and under its own key, exactly once, and the Agent has the success on record. -/
theorem succeeded_ran_once (cfg : Gateway.Config) (acfg : Agent.Config) (db : Gateway.Db)
    (paused writeLock : Bool) (es : List Event) (hgenuine : Genuine cfg acfg db paused writeLock es)
    (j : JobId) (row : Gateway.JobRow)
    (hrow : (run cfg acfg db paused writeLock es).world.gateway.db.job? j = some row)
    (hdevice : row.deviceId = acfg.deviceId) (hsucceeded : row.state = .succeeded) :
    ∃ c, RanOnce (run cfg acfg db paused writeLock es).agent row c := by
  have h := run_consistent hgenuine
  obtain ⟨e, hcarried⟩ := h.carriedOut j row hrow hdevice hsucceeded
  exact hcarried.ranOnce h

theorem succeeded_ran_once_sample :
    ∃ c, RanOnce (run Gateway.sampleConfig sampleAgent Gateway.sampleDb false true sampleRun).agent
      sampleRow c :=
  succeeded_ran_once Gateway.sampleConfig sampleAgent Gateway.sampleDb false true sampleRun
    (by decide +kernel) 10 sampleRow (Option.some_get sampleRun_there).symm (by decide +kernel)
    (by decide +kernel)

/-- **An execution is of a stored job, and the only one of that job.** -/
theorem executions_of_stored_jobs (cfg : Gateway.Config) (acfg : Agent.Config) (db : Gateway.Db)
    (paused writeLock : Bool) (es : List Event)
    (hgenuine : Genuine cfg acfg db paused writeLock es) :
    let s := run cfg acfg db paused writeLock es
    (s.agent.executions.map CommandMessage.jobId).Nodup ∧
      ∀ c ∈ s.agent.executions, ∃ row, s.world.gateway.db.job? c.jobId = some row ∧
        row.deviceId = acfg.deviceId ∧ row.commandId = c.commandId ∧
        row.payloadHash = c.payloadHash ∧ row.payload = c.payload := by
  have h := run_consistent hgenuine
  exact ⟨h.jobs_nodup, fun c hc => h.executed_row hc⟩

theorem executions_of_stored_jobs_sample :
    let s := run Gateway.sampleConfig sampleAgent Gateway.sampleDb false true sampleRun
    (s.agent.executions.map CommandMessage.jobId).Nodup ∧
      ∀ c ∈ s.agent.executions, ∃ row, s.world.gateway.db.job? c.jobId = some row ∧
        row.deviceId = sampleAgent.deviceId ∧ row.commandId = c.commandId ∧
        row.payloadHash = c.payloadHash ∧ row.payload = c.payload :=
  executions_of_stored_jobs Gateway.sampleConfig sampleAgent Gateway.sampleDb false true sampleRun
    (by decide +kernel)

end AutocadMcp.Joint
