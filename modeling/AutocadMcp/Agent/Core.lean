import AutocadMcp.Lib.Machine
import AutocadMcp.Agent.Ledger

/-!
# The core of the Agent

`AgentCore` as a machine: one worker that takes commands from a bounded queue,
and a receiver that handles cancels and reconcile requests between any two of
the worker's awaits. The worker's position is the await it is suspended at; a
session can end at each of them, and an exception that leaves a handler ends it.
What the sockets, the executors and the clock decide is in the events.
-/

namespace AutocadMcp.Agent

/-- The configuration, and the hash that the contract package computes. -/
structure Config where
  deviceId : DeviceId
  queueSize : Nat
  hasProgramExecutor : Bool
  hasRollbackExecutor : Bool
  canonicalPayloadHash : Json → Digest

/-- Where the worker is suspended. -/
inductive Worker where
  | idle
  /-- A rejection is being sent; the entry fails afterwards when there is a code. -/
  | rejecting (command : CommandMessage) (failWith : Option String)
  /-- An acknowledgement is being sent; the terminal report of the entry follows. -/
  | reporting (command : CommandMessage) (entry : LedgerEntry)
  /-- `accepted` is being sent; `started` and the execution follow. -/
  | accepting (command : CommandMessage)
  | executing (command : CommandMessage)
  /-- The last message of the handler is being sent. -/
  | sending
  deriving DecidableEq

structure Session where
  sessionId : SessionId
  queue : List CommandMessage
  worker : Worker
  receiver : List ReconcileCommandDescriptor

/-- The state of the Agent; `executions` and `sent` only record what happened. -/
structure Core where
  ledger : Ledger
  paused : Bool
  writeLock : Bool
  sequence : Nat
  session : Option Session
  executions : List CommandMessage
  sent : List AgentMessage

/-- What an executor returns. -/
inductive Execution where
  | result (value : Json)
  | agentError (code : String)
  | otherError
  deriving DecidableEq

/-- What `validate_command` does: it passes, refuses with a code, or raises another error. -/
inductive Validation where
  | passed
  | refused (code : String)
  | raised
  deriving DecidableEq, Repr

/-- What the worker's next segment meets: the verdict on the command, the executor's outcome,
which appends of evidence raise (by source sequence, the Host's milestone being 5), and whether
the view update after a recorded result raises. -/
structure Choice where
  validation : Validation := .passed
  execution : Execution := .otherError
  evidenceRaises : Nat → Bool := fun _ => false
  viewRaises : Bool := false

/-! ## Sending -/

namespace Core

def drop (a : Core) : Core := { a with session := none }

def setWorker (a : Core) (s : Session) (w : Worker) : Core :=
  { a with session := some { s with worker := w } }

/-- `_send` under the next sequence number. -/
def send (a : Core) (message : Int → AgentMessage) : Core :=
  { a with sequence := a.sequence + 1, sent := a.sent ++ [message (a.sequence + 1)] }

end Core

def envelopeOf (cfg : Config) (s : Session) (c : CommandMessage) (payloadHash : Digest)
    (sequence : Int) : Envelope :=
  ⟨s.sessionId, cfg.deviceId, c.jobId, c.commandId, sequence, payloadHash⟩

/-- `_ack`, and `_reject` with a reason. -/
def ackMessage (cfg : Config) (s : Session) (c : CommandMessage) (status : AckStatus)
    (reason : Option String) (sequence : Int) : AgentMessage :=
  .ack { toEnvelope := envelopeOf cfg s c c.payloadHash sequence, status := status,
         idempotencyKey := c.idempotencyKey, reason := reason }

/-- `entry.error_code or "backend_error"`. -/
def LedgerEntry.reportedError (e : LedgerEntry) : String :=
  match e.errorCode with
  | none | some "" => "backend_error"
  | some code => code

/-- `_send_terminal`: every state that is neither a success nor a cancellation is a failure. -/
def terminalMessage (cfg : Config) (s : Session) (c : CommandMessage) (e : LedgerEntry)
    (sequence : Int) : AgentMessage :=
  let envelope := envelopeOf cfg s c e.payloadHash sequence
  .result <|
    match e.state with
    | .succeeded =>
        { toEnvelope := envelope, status := .succeeded, result := e.result, errorCode := none }
    | .cancelled =>
        { toEnvelope := envelope, status := .cancelled, result := none, errorCode := none }
    | _ =>
        { toEnvelope := envelope, status := .failed, result := none,
          errorCode := some e.reportedError }

/-- The status of a typed result, which names the state of a terminal entry. -/
def statusOf : LedgerState → ResultStatus
  | .succeeded => .succeeded
  | .cancelled => .cancelled
  | .outcomeUnknown => .outcomeUnknown
  | _ => .failed

/-- `_send_program_terminal` and `_send_rollback_terminal`. -/
def typedMessage (cfg : Config) (s : Session) (c : CommandMessage) (e : LedgerEntry)
    (sequence : Int) : TypedResultMessage :=
  { toEnvelope := envelopeOf cfg s c e.payloadHash sequence
    kind := c.kind
    binding := c.binding
    status := statusOf e.state
    result := if e.state = .succeeded then e.result else none
    errorCode :=
      match e.state with
      | .failed => some e.reportedError
      | .outcomeUnknown => some "outcome_unknown"
      | _ => none }

/-- The terminal report of a handler, by the type of its command. -/
def reportMessage (cfg : Config) (s : Session) (c : CommandMessage) (e : LedgerEntry)
    (sequence : Int) : AgentMessage :=
  if c.kind.isProgram then .programResult (typedMessage cfg s c e sequence)
  else if c.kind.isRollback then .rollbackResult (typedMessage cfg s c e sequence)
  else terminalMessage cfg s c e sequence

/-! ## The worker's handlers -/

def Core.reject (cfg : Config) (a : Core) (s : Session) (c : CommandMessage) (code : String)
    (failWith : Option String) : Core :=
  (a.send (ackMessage cfg s c .rejected (some code))).setWorker s (.rejecting c failWith)

/-- The answers to a command whose entry is already terminal or started. -/
def Core.acknowledge (cfg : Config) (a : Core) (s : Session) (c : CommandMessage)
    (status : AckStatus) (w : Worker) : Core :=
  (a.send (ackMessage cfg s c status none)).setWorker s w

/-- `_handle_command` up to its first await. -/
def handleCommand (cfg : Config) (o : Choice) (a : Core) (s : Session) (c : CommandMessage) :
    Core :=
  if cfg.canonicalPayloadHash c.payload ≠ c.payloadHash then
    a.reject cfg s c "payload_mismatch" none
  else if (c.payload.dict? "package").isNone then
    a.reject cfg s c "package_mismatch" none
  else
    match a.ledger.recordReceived ⟨c.commandId, c.jobId, c.idempotencyKey, c.payloadHash,
        c.deviceId, .observe, none⟩ with
    | .error _ => a.reject cfg s c "payload_mismatch" none
    | .ok ((entry, created), ledger) =>
        let a := { a with ledger := ledger }
        if created = false ∧ entry.state.isTerminal then
          a.acknowledge cfg s c .alreadyTerminal (.reporting c entry)
        else if created = false ∧ entry.state = .started then
          a.acknowledge cfg s c .duplicate .sending
        else if a.paused then
          a.reject cfg s c "paused_by_user" (some "paused_by_user")
        else
          match o.validation with
          | .raised => a.drop
          | .refused code => a.reject cfg s c code (some code)
          | .passed =>
              match ledger.transition c.commandId .accepted none none with
              | .error _ => a.drop
              | .ok (_, ledger) =>
                  { a with ledger := ledger }.acknowledge cfg s c .accepted (.accepting c)

/-- A typed handler refuses a recorded command: the entry fails before the rejection is sent. -/
def Core.refuse (cfg : Config) (a : Core) (s : Session) (c : CommandMessage) (code : String) :
    Core :=
  match a.ledger.transition c.commandId .failed none (some code) with
  | .error _ => a.drop
  | .ok (entry, ledger) =>
      ({ a with ledger := ledger }.send (ackMessage cfg s c .rejected (some code))).setWorker s
        (.reporting c entry)

/-- `_handle_program_command` and `_handle_rollback_command` up to their first await. -/
def handleTypedCommand (cfg : Config) (hasExecutor : Bool) (o : Choice) (a : Core) (s : Session)
    (c : CommandMessage) : Core :=
  if hasExecutor = false then
    a.reject cfg s c "capability_missing" none
  else
    match a.ledger.recordReceived ⟨c.commandId, c.jobId, c.idempotencyKey, c.payloadHash,
        c.deviceId, c.kind, some c.binding⟩ with
    | .error .idempotencyConflict => a.reject cfg s c "idempotency_conflict" none
    | .error _ => a.reject cfg s c "payload_mismatch" none
    | .ok ((entry, created), ledger) =>
        let a := { a with ledger := ledger }
        if created = true ∧ o.evidenceRaises 1 then
          a.drop
        else if created = false ∧ entry.state.isTerminal then
          a.acknowledge cfg s c .alreadyTerminal (.reporting c entry)
        else if created = false ∧ entry.state = .started then
          a.acknowledge cfg s c .duplicate .sending
        else if a.paused then
          a.refuse cfg s c "paused_by_user"
        else if c.effectClass = .write ∧ a.writeLock = false then
          a.refuse cfg s c "write_lock_disabled"
        else
          match o.validation with
          | .raised => a.drop
          | .refused code => a.refuse cfg s c code
          | .passed =>
              if entry.state = .received then
                match ledger.transition c.commandId .accepted none none with
                | .error _ => a.drop
                | .ok (_, ledger) =>
                    if o.evidenceRaises 2 then { a with ledger := ledger }.drop
                    else { a with ledger := ledger }.acknowledge cfg s c .accepted (.accepting c)
              else a.acknowledge cfg s c .accepted (.accepting c)

/-- `_worker`: the handler of the command type. -/
def beginCommand (cfg : Config) (o : Choice) (a : Core) (s : Session) (c : CommandMessage) :
    Core :=
  if c.kind.isRollback then handleTypedCommand cfg cfg.hasRollbackExecutor o a s c
  else if c.kind.isProgram then handleTypedCommand cfg cfg.hasProgramExecutor o a s c
  else handleCommand cfg o a s c

def isTyped (k : JobKind) : Bool := k.isProgram || k.isRollback

/-- After `accepted` was sent: the entry becomes started and the executor is invoked. -/
def startCommand (o : Choice) (a : Core) (s : Session) (c : CommandMessage) : Core :=
  match a.ledger.transition c.commandId .started none none with
  | .error _ => a.drop
  | .ok (_, ledger) =>
      if isTyped c.kind ∧ o.evidenceRaises 3 then { a with ledger := ledger }.drop
      else { a with ledger := ledger, executions := a.executions ++ [c] }.setWorker s (.executing c)

/-- The errors after which a started commit may have taken effect. -/
def uncertainCodes : List String :=
  ["managed_host_unavailable", "session_rejected", "deadline_expired", "outcome_unknown"]

/-- What the handlers record of an execution: a state, a result and an error code. -/
def executionRecord (k : JobKind) : Execution → LedgerState × Option Json × Option String
  | .result value => (.succeeded, some value, none)
  | .agentError code =>
      if (k = .programCommit ∨ k = .rollbackCommit) ∧ code ∈ uncertainCodes then
        (.outcomeUnknown, none, some "outcome_unknown")
      else (.failed, none, some code)
  | .otherError =>
      if k = .programCommit ∨ k = .rollbackCommit then
        (.outcomeUnknown, none, some "outcome_unknown")
      else (.failed, none, some "backend_error")

theorem executionRecord_terminal (k : JobKind) (x : Execution) :
    (executionRecord k x).1.isTerminal = true := by
  unfold executionRecord
  split
  · rfl
  all_goals split <;> rfl

/-- The evidence that a typed handler appends before it records a result. -/
def evidenceBeforeRecord (k : JobKind) (o : Choice) : Bool :=
  match o.execution with
  | .result _ => isTyped k && (o.evidenceRaises 4 || o.evidenceRaises 5)
  | _ => false

/-- The evidence and the view update that follow the record. -/
def raisesAfterRecord (k : JobKind) (o : Choice) : Bool :=
  match o.execution with
  | .result _ => o.viewRaises
  | _ => isTyped k && o.evidenceRaises 4

/-- The executor has returned: the outcome is recorded and then reported. -/
def finishCommand (cfg : Config) (o : Choice) (a : Core) (s : Session) (c : CommandMessage) :
    Core :=
  if evidenceBeforeRecord c.kind o then a.drop
  else
    match executionRecord c.kind o.execution with
    | (state, result, errorCode) =>
        match a.ledger.transition c.commandId state result errorCode with
        | .error _ => a.drop
        | .ok (entry, ledger) =>
            if raisesAfterRecord c.kind o then { a with ledger := ledger }.drop
            else
              ({ a with ledger := ledger }.send (reportMessage cfg s c entry)).setWorker s .sending

/-- The worker goes on to its next await. -/
def work (cfg : Config) (o : Choice) (a : Core) (s : Session) : Core :=
  match s.worker with
  | .idle =>
      match s.queue with
      | [] => a
      | c :: rest => beginCommand cfg o a { s with queue := rest } c
  | .rejecting _ none => a.setWorker s .idle
  | .rejecting c (some code) =>
      match a.ledger.transition c.commandId .failed none (some code) with
      | .error _ => a.drop
      | .ok (_, ledger) => { a with ledger := ledger }.setWorker s .idle
  | .reporting c entry => (a.send (reportMessage cfg s c entry)).setWorker s .sending
  | .accepting c => startCommand o a s c
  | .executing c => finishCommand cfg o a s c
  | .sending => a.setWorker s .idle

/-! ## The receiver's handlers -/

/-- The answer to one descriptor of a reconcile request. -/
def reconcileAnswer (cfg : Config) (s : Session) (l : Ledger) (d : ReconcileCommandDescriptor)
    (sequence : Int) : ReconcileResultMessage :=
  let envelope : Envelope :=
    ⟨s.sessionId, cfg.deviceId, d.jobId, d.commandId, sequence, d.payloadHash⟩
  match l.reconcileStatus d.commandId d.payloadHash with
  | .ok (.terminal, some e) =>
      { toEnvelope := envelope
        status := .terminal
        -- an unknown outcome is reported as a failure, told apart by its error code
        resultStatus := some (match statusOf e.state with
          | .outcomeUnknown => .failed
          | status => status)
        result := if e.state = .succeeded then e.result else none
        errorCode := if e.state = .failed ∨ e.state = .outcomeUnknown
          then some e.reportedError else none
        kind := if isTyped e.kind then some e.kind else none
        binding := if isTyped e.kind then e.binding else none }
  | .ok (status, _) =>
      { toEnvelope := envelope, status := status, resultStatus := none, result := none,
        errorCode := none, kind := none, binding := none }
  | .error _ =>
      { toEnvelope := envelope, status := .started, resultStatus := none, result := none,
        errorCode := none, kind := none, binding := none }

/-- `_handle_cancel`. -/
def handleCancel (cfg : Config) (a : Core) (s : Session) (m : CancelMessage) : Core :=
  if m.sessionId ≠ s.sessionId ∨ m.deviceId ≠ cfg.deviceId then a.drop
  else
    match a.ledger.get? m.commandId with
    | none => a
    | some e =>
        if e.jobId ≠ m.jobId ∨ e.deviceId ≠ m.deviceId then a.drop
        else
          let ledger := a.ledger.requestCancel m.commandId
          let a := { a with ledger := ledger }
          if e.state = .received ∨ e.state = .accepted then
            match ledger.transition m.commandId .cancelled none none with
            | .error _ => a.drop
            | .ok (entry, ledger) =>
                { a with ledger := ledger }.send
                  (terminalMessage cfg s
                    ⟨m.sessionId, m.deviceId, m.jobId, m.commandId, entry.idempotencyKey,
                      entry.payloadHash, .observe, .read, none, .null, .obj []⟩ entry)
          else a

/-- `_receive_loop`. -/
def receive (cfg : Config) (a : Core) (s : Session) : GatewayMessage → Core
  | .command c =>
      if c.sessionId ≠ s.sessionId ∨ c.deviceId ≠ cfg.deviceId then a.drop
      else if cfg.queueSize ≤ s.queue.length then
        a.send (ackMessage cfg s c .rejected (some "agent_busy"))
      else { a with session := some { s with queue := s.queue ++ [c] } }
  | .reconcile m =>
      if m.sessionId ≠ s.sessionId ∨ m.deviceId ≠ cfg.deviceId then a.drop
      else { a with session := some { s with receiver := s.receiver ++ m.commands } }
  | .cancel m => handleCancel cfg a s m

/-- The receiver answers the next descriptor. -/
def answer (cfg : Config) (a : Core) (s : Session) : Core :=
  match s.receiver with
  | [] => a
  | d :: rest =>
      { a with session := some { s with receiver := rest } }.send
        (fun sequence => .reconcileResult (reconcileAnswer cfg s a.ledger d sequence))

/-! ## Events -/

inductive Event where
  | connect (sessionId : SessionId)
  | receive (message : GatewayMessage)
  | work (choice : Choice)
  | answer
  /-- The session ends at the await where its tasks are. -/
  | sessionLost
  /-- The process stops and starts again on the same ledger. -/
  | restart
  | setPaused (paused : Bool)
  | setWriteLock (enabled : Bool)

/-- Start-up of `AgentCore`. -/
def Core.restart (a : Core) : Core :=
  { a with ledger := a.ledger.recoverInterruptedPrograms, session := none }

/-- Runs `f` on the session when there is one. -/
def Core.onSession (a : Core) (f : Session → Core) : Core :=
  match a.session with
  | some s => f s
  | none => a

def step (cfg : Config) (a : Core) : Event → Core
  | .connect sessionId =>
      match a.session with
      | none => { a with session := some ⟨sessionId, [], .idle, []⟩ }
      | some _ => a
  | .receive message => a.onSession fun s => receive cfg a s message
  | .work choice => a.onSession fun s => work cfg choice a s
  | .answer => a.onSession fun s => answer cfg a s
  | .sessionLost => a.drop
  | .restart => a.restart
  | .setPaused paused => { a with paused := paused }
  | .setWriteLock enabled => { a with writeLock := enabled }

/-- An Agent with an empty ledger. -/
def Core.initial (paused writeLock : Bool) : Core where
  ledger := .empty
  paused := paused
  writeLock := writeLock
  sequence := 0
  session := none
  executions := []
  sent := []

end AutocadMcp.Agent
