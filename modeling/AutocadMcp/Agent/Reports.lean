import Mathlib.Data.List.Induction
import AutocadMcp.Agent.AtMostOnce

/-!
# What the Agent reports

A terminal report leaves the Agent in four ways: after an execution, after an acknowledgement of a
command it has already settled, after a cancellation, and in answer to a reconcile request. Each
states what the ledger holds of an entry, and a terminal entry does not change any more.
-/

namespace AutocadMcp.Agent

/-! ## Reports and the entries they state -/

/-- The messages that report an outcome. -/
def isReport : AgentMessage → Bool
  | .result _ | .programResult _ | .rollbackResult _ => true
  | .reconcileResult r => r.resultStatus.isSome
  | .ack _ | .progress _ => false

/-- The status of a message that knows no unknown outcome. -/
def plainStatus (state : LedgerState) : ResultStatus :=
  match statusOf state with
  | .outcomeUnknown => .failed
  | status => status

def reportedResult (e : LedgerEntry) : Option Json :=
  if e.state = .succeeded then e.result else none

/-- The error code where an unknown outcome is reported as a failure. -/
def plainError (e : LedgerEntry) : Option String :=
  if e.state = .failed ∨ e.state = .outcomeUnknown then some e.reportedError else none

/-- The message states the payload, the outcome and, if it names them, the kind and the binding of
the entry. -/
def States (e : LedgerEntry) : AgentMessage → Prop
  | .result r =>
      r.payloadHash = e.payloadHash ∧ r.status = plainStatus e.state ∧
        r.result = reportedResult e ∧ r.errorCode = plainError e
  | .programResult r | .rollbackResult r =>
      r.payloadHash = e.payloadHash ∧ r.kind = e.kind ∧ some r.binding = e.binding ∧
        r.status = statusOf e.state ∧ r.result = reportedResult e
  | .reconcileResult r =>
      r.payloadHash = e.payloadHash ∧ r.resultStatus = some (plainStatus e.state) ∧
        r.result = reportedResult e ∧ r.errorCode = plainError e ∧
        r.kind = (if isTyped e.kind then some e.kind else none)
  | .ack _ | .progress _ => False

/-- The entry was recorded for the command, or for one that repeats its key and its payload. -/
structure Answers (c : CommandMessage) (e : LedgerEntry) : Prop where
  payload : e.payloadHash = c.payloadHash
  key : e.idempotencyKey = c.idempotencyKey
  device : e.deviceId = c.deviceId
  kind : e.kind = if isTyped c.kind then c.kind else .observe
  binding : isTyped c.kind = true → e.binding = some c.binding

/-- The entry is in the ledger, and is what the message reports: it is the entry of the command
that the message names, or it answers for that command. -/
structure Backs (P : CommandMessage → Prop) (l : Ledger) (m : AgentMessage) (e : LedgerEntry) :
    Prop where
  stored : l.get? e.commandId = some e
  terminal : e.state.isTerminal = true
  states : States e m
  command : e.commandId = m.envelope.commandId ∨
    ∃ c, P c ∧ c.jobId = m.envelope.jobId ∧ c.commandId = m.envelope.commandId ∧ Answers c e

theorem fields_of_identity {e e' : LedgerEntry} (h : e'.identity = e.identity) :
    e'.commandId = e.commandId ∧ e'.jobId = e.jobId ∧ e'.idempotencyKey = e.idempotencyKey ∧
      e'.payloadHash = e.payloadHash ∧ e'.deviceId = e.deviceId ∧ e'.kind = e.kind ∧
      e'.binding = e.binding := by
  simpa only [LedgerEntry.identity, Prod.mk.injEq] using h

theorem Answers.of_identity {c : CommandMessage} {e e' : LedgerEntry} (h : Answers c e)
    (hidentity : e'.identity = e.identity) : Answers c e' := by
  obtain ⟨-, -, hkey, hpayload, hdevice, hkind, hbinding⟩ := fields_of_identity hidentity
  exact ⟨hpayload.trans h.payload, hkey.trans h.key, hdevice.trans h.device, hkind.trans h.kind,
    fun htyped => hbinding.trans (h.binding htyped)⟩

/-- What is stated of a terminal entry is stated of it later as well. -/
theorem States.later {e e' : LedgerEntry} {m : AgentMessage} (h : States e m)
    (hadvances : Advances e e') (hterminal : e.state.isTerminal = true) : States e' m := by
  obtain ⟨-, -, -, hpayload, -, hkind, hbinding⟩ := fields_of_identity hadvances.identity
  have houtcome := hadvances.final hterminal
  simp only [LedgerEntry.outcome, Prod.mk.injEq] at houtcome
  obtain ⟨hstate, hresult, herror⟩ := houtcome
  cases m with
  | ack m => exact h
  | progress m => exact h
  | _ =>
      simpa only [States, plainStatus, plainError, reportedResult, LedgerEntry.reportedError,
        hpayload, hkind, hbinding, hstate, hresult, herror] using h

theorem Backs.later {P : CommandMessage → Prop} {l l' : Ledger} {m : AgentMessage}
    {e : LedgerEntry} (h : Backs P l m e) (hgrows : l.Grows l') : ∃ e', Backs P l' m e' := by
  obtain ⟨e', he', hadvances⟩ := hgrows _ e h.stored
  have hid : e'.commandId = e.commandId := (fields_of_identity hadvances.identity).1
  refine ⟨e', ?_, hadvances.terminal h.terminal, h.states.later hadvances h.terminal, ?_⟩
  · rw [hid]
    exact he'
  · rw [hid]
    rcases h.command with hown | ⟨c, hc, hjob, hcommand, hanswers⟩
    · exact Or.inl hown
    · exact Or.inr ⟨c, hc, hjob, hcommand, hanswers.of_identity hadvances.identity⟩

theorem states_terminalMessage (cfg : Config) (s : Session) (c : CommandMessage) {e : LedgerEntry}
    (n : Int) (hterminal : e.state.isTerminal = true) : States e (terminalMessage cfg s c e n) := by
  unfold terminalMessage
  dsimp only
  cases hstate : e.state with
  | received | accepted | started =>
      rw [hstate] at hterminal
      cases hterminal
  | _ =>
      refine ⟨rfl, ?_, ?_, ?_⟩
      · simp [plainStatus, statusOf, hstate]
      · simp [reportedResult, hstate]
      · simp [plainError, hstate]

/-- The report of a handler states the entry that answers for its command. -/
theorem states_reportMessage (cfg : Config) (s : Session) {c : CommandMessage} {e : LedgerEntry}
    (n : Int) (h : Answers c e) (hterminal : e.state.isTerminal = true) :
    States e (reportMessage cfg s c e n) := by
  have htypedMessage : isTyped c.kind = true →
      e.payloadHash = e.payloadHash ∧ c.kind = e.kind ∧ some c.binding = e.binding := by
    intro htyped
    have hkind := h.kind
    rw [if_pos htyped] at hkind
    exact ⟨rfl, hkind.symm, (h.binding htyped).symm⟩
  unfold reportMessage
  split
  · next hprogram =>
      obtain ⟨hpayload, hkind, hbinding⟩ := htypedMessage (by simp [isTyped, hprogram])
      exact ⟨hpayload, hkind, hbinding, rfl, rfl⟩
  · split
    · next hrollback =>
        obtain ⟨hpayload, hkind, hbinding⟩ := htypedMessage (by simp [isTyped, hrollback])
        exact ⟨hpayload, hkind, hbinding, rfl, rfl⟩
    · exact states_terminalMessage cfg s c n hterminal

/-- The answer to a reconcile request, where it is a report, states the entry of its command. -/
theorem states_reconcileAnswer (cfg : Config) (s : Session) {l : Ledger}
    {d : ReconcileCommandDescriptor} {n : Int}
    (h : (reconcileAnswer cfg s l d n).resultStatus.isSome) :
    ∃ e, l.get? d.commandId = some e ∧ e.state.isTerminal = true ∧
      States e (.reconcileResult (reconcileAnswer cfg s l d n)) := by
  unfold reconcileAnswer at h ⊢
  unfold Ledger.reconcileStatus at h ⊢
  rcases hget : l.get? d.commandId with _ | e
  · rw [hget] at h
    cases h
  · rw [hget] at h
    dsimp only at h ⊢
    by_cases hpayload : e.payloadHash ≠ d.payloadHash
    · rw [if_pos hpayload] at h
      cases h
    · rw [if_neg hpayload] at h ⊢
      by_cases hopen : e.state = .received ∨ e.state = .accepted
      · rw [if_pos hopen] at h
        cases h
      · rw [if_neg hopen] at h ⊢
        by_cases hstarted : e.state = .started
        · rw [if_pos hstarted] at h
          cases h
        · rw [if_neg hstarted]
          refine ⟨e, rfl, ?_, (not_not.mp hpayload).symm, rfl, rfl, rfl, rfl⟩
          cases hstate : e.state <;> simp_all [LedgerState.isTerminal]

/-! ## The ledger under an operation -/

/-- An operation that moves entries and adds none: an entry succeeds only if its command ran. -/
structure Updates (ran : List CommandMessage) (l l' : Ledger) : Prop where
  grows : l.Grows l'
  back : ∀ k e', l'.get? k = some e' → ∃ e, l.get? k = some e ∧ e'.identity = e.identity
  succeeds : ∀ k e', l'.get? k = some e' → e'.state = .succeeded →
    (∃ e, l.get? k = some e ∧ e.state = .succeeded) ∨ ∃ c ∈ ran, c.commandId = k

section

variable {ran : List CommandMessage} {l l' : Ledger} {k : CommandId}

theorem updates_modify {f : LedgerEntry → LedgerEntry} {hf : ∀ e, (f e).commandId = e.commandId}
    (hgrows : l.Grows (l.modify k f hf)) (hid : ∀ e, (f e).identity = e.identity)
    (hsucceeds : ∀ e, (f e).state = .succeeded → e.state = .succeeded ∨ ∃ c ∈ ran, c.commandId = k) :
    Updates ran l (l.modify k f hf) := by
  refine ⟨hgrows, fun k' e' he' => ?_, fun k' e' he' hstate => ?_⟩
  · rw [Table.get?_modify] at he'
    split at he'
    · obtain ⟨e, he, rfl⟩ := Option.map_eq_some_iff.mp he'
      exact ⟨e, he, hid e⟩
    · exact ⟨e', he', rfl⟩
  · rw [Table.get?_modify] at he'
    split at he'
    · next hk =>
        obtain ⟨e, he, rfl⟩ := Option.map_eq_some_iff.mp he'
        rcases hsucceeds e hstate with hbefore | ⟨c, hc, hran⟩
        · exact Or.inl ⟨e, he, hbefore⟩
        · exact Or.inr ⟨c, hc, hran.trans hk.symm⟩
    · exact Or.inl ⟨e', he', hstate⟩

theorem updates_transition {state : LedgerState} {result : Option Json}
    {errorCode : Option String} {e : LedgerEntry}
    (h : l.transition k state result errorCode = .ok (e, l'))
    (hsucceeds : state = .succeeded → ∃ c ∈ ran, c.commandId = k) : Updates ran l l' := by
  have hgrows := Ledger.transition_grows h
  rcases Ledger.transition_ok h with ⟨-, -, rfl, -⟩ | ⟨current, -, -, -, -, rfl⟩
  · exact ⟨hgrows, fun k e he => ⟨e, he, rfl⟩, fun k e he hstate => Or.inl ⟨e, he, hstate⟩⟩
  · exact updates_modify hgrows (fun _ => rfl) fun _ hstate => Or.inr (hsucceeds hstate)

theorem updates_requestCancel : Updates ran l (l.requestCancel k) :=
  updates_modify (Ledger.requestCancel_grows k) (fun _ => rfl) fun _ hstate => Or.inl hstate

theorem updates_recover : Updates ran l l.recoverInterruptedPrograms := by
  have hback : ∀ k e', l.recoverInterruptedPrograms.get? k = some e' →
      ∃ e, l.get? k = some e ∧ Ledger.recovered e = e' := by
    intro k e' he'
    rw [Ledger.get?_recover] at he'
    exact Option.map_eq_some_iff.mp he'
  refine ⟨Ledger.recover_grows, fun k e' he' => ?_, fun k e' he' hstate => ?_⟩
  · obtain ⟨e, he, rfl⟩ := hback k e' he'
    exact ⟨e, he, (Ledger.recovered_advances e).identity⟩
  · obtain ⟨e, he, rfl⟩ := hback k e' he'
    refine Or.inl ⟨e, he, ?_⟩
    unfold Ledger.recovered at hstate
    split at hstate
    · cases hstate
    · split at hstate
      · cases hstate
      · exact hstate

end

/-- A transition leaves the entry it returns in the ledger, in the state it was to take. -/
theorem transition_stored {l l' : Ledger} {k : CommandId} {state : LedgerState}
    {result : Option Json} {errorCode : Option String} {e : LedgerEntry}
    (h : l.transition k state result errorCode = .ok (e, l')) :
    l'.get? e.commandId = some e ∧ e.commandId = k ∧ e.state = state := by
  rcases Ledger.transition_ok h with ⟨hget, -, rfl, hstate, -, -⟩ | ⟨current, hget, -, -, rfl, rfl⟩
  · have hid := Ledger.get?_commandId hget
    rw [hid]
    exact ⟨hget, rfl, hstate⟩
  · have hid : current.commandId = k := Ledger.get?_commandId hget
    refine ⟨?_, hid, rfl⟩
    change Table.get? _ current.commandId = _
    rw [hid, Table.get?_modify, if_pos rfl, hget]
    rfl

/-- What a delivery finds or records answers for its command. -/
theorem answers_recordReceived {l l' : Ledger} {c : CommandMessage} {kind : JobKind}
    {binding : Option Json} {entry : LedgerEntry} {created : Bool}
    (h : l.recordReceived ⟨c.commandId, c.jobId, c.idempotencyKey, c.payloadHash, c.deviceId, kind,
      binding⟩ = .ok ((entry, created), l'))
    (hkind : kind = if isTyped c.kind then c.kind else .observe)
    (hbinding : isTyped c.kind = true → binding = some c.binding) :
    Answers c entry ∧ l'.get? entry.commandId = some entry := by
  rcases Ledger.recordReceived_ok h with ⟨-, rfl, hmatch, hmem, -⟩ | ⟨-, rfl, hinsert, -⟩
  · obtain ⟨hpayload, hkey, hdevice, hsame, hbound⟩ := hmatch
    exact ⟨⟨hpayload, hkey, hdevice, hsame.trans hkind, fun htyped => hbound.trans (hbinding htyped)⟩,
      Table.get?_of_mem hmem⟩
  · refine ⟨⟨rfl, rfl, rfl, hkind, hbinding⟩, ?_⟩
    rw [Table.get?_insert hinsert, if_pos rfl]

/-! ## The Agent -/

/-- What holds of the command the worker is at. -/
def Waiting (P : CommandMessage → Prop) (ran : List CommandMessage) (l : Ledger) : Worker → Prop
  | .idle | .sending | .rejecting _ _ => True
  | .reporting c entry =>
      P c ∧ Answers c entry ∧ entry.state.isTerminal = true ∧
        ∃ e, l.get? entry.commandId = some e ∧ Advances entry e
  | .accepting c => P c ∧ ∀ e, l.get? c.commandId = some e → Answers c e
  | .executing c => c ∈ ran ∧ ∀ e, l.get? c.commandId = some e → Answers c e

/-- `P` holds of what was delivered: every command that waits or was executed, and one for each
entry. An entry succeeds by an execution, and what was reported is backed by the ledger. -/
structure Honest (P : CommandMessage → Prop) (a : Core) : Prop where
  queued : ∀ s, a.session = some s → ∀ c ∈ s.queue, P c
  worker : ∀ s, a.session = some s → Waiting P a.executions a.ledger s.worker
  entries : ∀ k e, a.ledger.get? k = some e →
    ∃ c, P c ∧ e.commandId = c.commandId ∧ e.jobId = c.jobId ∧ Answers c e
  executed : ∀ c ∈ a.executions, P c ∧ ∃ e, a.ledger.get? c.commandId = some e ∧ Answers c e
  succeeded : ∀ k e, a.ledger.get? k = some e → e.state = .succeeded →
    ∃ c ∈ a.executions, c.commandId = k
  sent : ∀ m ∈ a.sent, isReport m = true → ∃ e, Backs P a.ledger m e

section

variable {P : CommandMessage → Prop} {cfg : Config} {a : Core} {s : Session} {l : Ledger}

theorem Waiting.later {w : Worker} (h : Waiting P a.executions a.ledger w)
    (hupdates : Updates a.executions a.ledger l) : Waiting P a.executions l w := by
  have hown : ∀ c : CommandMessage, (∀ e, a.ledger.get? c.commandId = some e → Answers c e) →
      ∀ e, l.get? c.commandId = some e → Answers c e := by
    intro c hc e' he'
    obtain ⟨e, he, hid⟩ := hupdates.back _ e' he'
    exact (hc e he).of_identity hid
  cases w with
  | idle => trivial
  | sending => trivial
  | rejecting c code => trivial
  | accepting c => exact ⟨h.1, hown c h.2⟩
  | executing c => exact ⟨h.1, hown c h.2⟩
  | reporting c entry =>
      obtain ⟨hc, hanswers, hterminal, e, he, hadvances⟩ := h
      obtain ⟨e', he', hadvances'⟩ := hupdates.grows _ e he
      exact ⟨hc, hanswers, hterminal, e', he', hadvances.trans hadvances'⟩

theorem Waiting.ran {w : Worker} {ran ran' : List CommandMessage} (h : Waiting P ran l w)
    (hran : ran ⊆ ran') : Waiting P ran' l w := by
  cases w with
  | executing c => exact ⟨hran h.1, h.2⟩
  | _ => exact h

theorem executed_later {c : CommandMessage}
    (h : ∃ e, a.ledger.get? c.commandId = some e ∧ Answers c e) (hgrows : a.ledger.Grows l) :
    ∃ e, l.get? c.commandId = some e ∧ Answers c e := by
  obtain ⟨e, he, hanswers⟩ := h
  obtain ⟨e', he', hadvances⟩ := hgrows _ e he
  exact ⟨e', he', hanswers.of_identity hadvances.identity⟩

namespace Honest

theorem drop (h : Honest P a) : Honest P a.drop :=
  ⟨by rintro s ⟨⟩, by rintro s ⟨⟩, h.entries, h.executed, h.succeeded, h.sent⟩

theorem update (h : Honest P a) (hupdates : Updates a.executions a.ledger l) :
    Honest P { a with ledger := l } := by
  refine ⟨h.queued, fun s hs => (h.worker s hs).later hupdates, fun k e' he' => ?_,
    fun c hc => ?_, fun k e' he' hstate => ?_, fun m hm hreport => ?_⟩
  · obtain ⟨e, he, hid⟩ := hupdates.back k e' he'
    obtain ⟨c, hc, hcommand, hjob, hanswers⟩ := h.entries k e he
    obtain ⟨hcommand', hjob', -⟩ := fields_of_identity hid
    exact ⟨c, hc, hcommand'.trans hcommand, hjob'.trans hjob, hanswers.of_identity hid⟩
  · obtain ⟨hdelivered, hentry⟩ := h.executed c hc
    exact ⟨hdelivered, executed_later hentry hupdates.grows⟩
  · rcases hupdates.succeeds k e' he' hstate with ⟨e, he, hbefore⟩ | hran
    · exact h.succeeded k e he hbefore
    · exact hran
  · obtain ⟨e, he⟩ := h.sent m hm hreport
    exact he.later hupdates.grows

/-- A message is sent: an acknowledgement, or a report that the ledger backs. -/
theorem send (h : Honest P a) (message : Int → AgentMessage)
    (hmessage : ∀ n, isReport (message n) = true → ∃ e, Backs P a.ledger (message n) e) :
    Honest P (a.send message) := by
  refine ⟨h.queued, h.worker, h.entries, h.executed, h.succeeded, fun m hm hreport => ?_⟩
  rcases List.mem_append.mp hm with hm | hm
  · exact h.sent m hm hreport
  · obtain rfl := List.mem_singleton.mp hm
    exact hmessage _ hreport

theorem setWorker (h : Honest P a) (hqueue : ∀ c ∈ s.queue, P c) {w : Worker}
    (hw : Waiting P a.executions a.ledger w) : Honest P (a.setWorker s w) := by
  refine ⟨?_, ?_, h.entries, h.executed, h.succeeded, h.sent⟩
  · rintro s' hs'
    obtain rfl := Option.some.inj hs'
    exact hqueue
  · rintro s' hs'
    obtain rfl := Option.some.inj hs'
    exact hw

theorem acknowledge (h : Honest P a) (hqueue : ∀ c ∈ s.queue, P c) {c : CommandMessage}
    {status : AckStatus} {reason : Option String} {w : Worker}
    (hw : Waiting P a.executions a.ledger w) :
    Honest P ((a.send (ackMessage cfg s c status reason)).setWorker s w) :=
  (h.send _ fun _ hreport => by cases hreport).setWorker hqueue hw

/-- A delivery is recorded while the worker is idle. -/
theorem receive (h : Honest P a) (hidle : ∀ s, a.session = some s → s.worker = .idle)
    {c : CommandMessage} (hc : P c) {kind : JobKind} {binding : Option Json} {entry : LedgerEntry}
    {created : Bool}
    (hrecord : a.ledger.recordReceived ⟨c.commandId, c.jobId, c.idempotencyKey, c.payloadHash,
      c.deviceId, kind, binding⟩ = .ok ((entry, created), l))
    (hkind : kind = if isTyped c.kind then c.kind else .observe)
    (hbinding : isTyped c.kind = true → binding = some c.binding) :
    Honest P { a with ledger := l } := by
  have hgrows := Ledger.recordReceived_grows hrecord
  refine ⟨h.queued, fun s hs => ?_, fun k e he => ?_, fun c' hc' => ?_, fun k e he hstate => ?_,
    fun m hm hreport => ?_⟩
  · rw [hidle s hs]
    trivial
  · rcases Ledger.recordReceived_ok hrecord with ⟨-, rfl, -⟩ | ⟨-, -, hinsert, -⟩
    · exact h.entries k e he
    · rw [Table.get?_insert hinsert] at he
      split at he
      · cases he
        exact ⟨c, hc, rfl, rfl, rfl, rfl, rfl, hkind, hbinding⟩
      · exact h.entries k e he
  · obtain ⟨hdelivered, hentry⟩ := h.executed c' hc'
    exact ⟨hdelivered, executed_later hentry hgrows⟩
  · rcases Ledger.recordReceived_ok hrecord with ⟨-, rfl, -⟩ | ⟨-, -, hinsert, -⟩
    · exact h.succeeded k e he hstate
    · rw [Table.get?_insert hinsert] at he
      split at he
      · cases he
        cases hstate
      · exact h.succeeded k e he hstate
  · obtain ⟨e, he⟩ := h.sent m hm hreport
    exact he.later hgrows

/-! ## The handlers -/

section

variable (h : Honest P a) (hqueue : ∀ c ∈ s.queue, P c) (o : Choice) {c : CommandMessage} (hc : P c)
include h hqueue

theorem reject (code : String) (failWith : Option String) :
    Honest P (a.reject cfg s c code failWith) := h.acknowledge hqueue trivial

include hc in
theorem refuse (hown : ∀ e, a.ledger.get? c.commandId = some e → Answers c e) (code : String) :
    Honest P (a.refuse cfg s c code) := by
  unfold Core.refuse
  split
  · exact h.drop
  · next entry l hl =>
      have hupdates : Updates a.executions a.ledger l := updates_transition hl nofun
      obtain ⟨hstored, hcommand, hstate⟩ := transition_stored hl
      obtain ⟨e, he, hid⟩ := hupdates.back _ entry hstored
      have hanswers : Answers c entry := by
        rw [hcommand] at he
        exact (hown e he).of_identity hid
      apply (h.update hupdates).acknowledge hqueue
      exact ⟨hc, hanswers, by rw [hstate]; rfl, entry, hstored, Advances.refl entry⟩

/-- The report of a settled entry. -/
theorem report {entry : LedgerEntry} (hanswers : Answers c entry)
    (hterminal : entry.state.isTerminal = true)
    (hstands : ∃ e, a.ledger.get? entry.commandId = some e ∧ Advances entry e)
    (hcommand : entry.commandId = c.commandId ∨ P c) :
    Honest P ((a.send (reportMessage cfg s c entry)).setWorker s .sending) := by
  refine (h.send _ fun n _ => ?_).setWorker hqueue trivial
  obtain ⟨e, he, hadvances⟩ := hstands
  have hid : e.commandId = entry.commandId := (fields_of_identity hadvances.identity).1
  have hstates := states_reportMessage cfg s n hanswers hterminal
  have henvelope : (reportMessage cfg s c entry n).envelope.commandId = c.commandId ∧
      (reportMessage cfg s c entry n).envelope.jobId = c.jobId := by
    unfold reportMessage terminalMessage
    split
    · exact ⟨rfl, rfl⟩
    · split
      · exact ⟨rfl, rfl⟩
      · dsimp only
        split <;> exact ⟨rfl, rfl⟩
  refine ⟨e, ?_, hadvances.terminal hterminal, hstates.later hadvances hterminal, ?_⟩
  · rw [hid]
    exact he
  · rw [henvelope.1, henvelope.2, hid]
    rcases hcommand with hcommand | hc
    · exact Or.inl hcommand
    · exact Or.inr ⟨c, hc, rfl, rfl, hanswers.of_identity hadvances.identity⟩

variable (hidle : ∀ s, a.session = some s → s.worker = .idle)

include hc hidle in
theorem handleCommand (hkind : isTyped c.kind = false) :
    Honest P (handleCommand cfg o a s c) := by
  unfold Agent.handleCommand
  split
  · exact h.reject hqueue _ _
  split
  · exact h.reject hqueue _ _
  split
  · exact h.reject hqueue _ _
  · next entry created l hrecord =>
      have hplain : JobKind.observe = if isTyped c.kind then c.kind else .observe := by
        rw [hkind]
        rfl
      have hnone : isTyped c.kind = true → none = some c.binding := by
        rw [hkind]
        rintro ⟨⟩
      have hrecorded := h.receive hidle hc hrecord hplain hnone
      obtain ⟨hanswers, hstored⟩ := answers_recordReceived hrecord hplain hnone
      dsimp only
      split
      · next hsettled =>
          apply hrecorded.acknowledge hqueue
          exact ⟨hc, hanswers, hsettled.2, entry, hstored, Advances.refl entry⟩
      split
      · exact hrecorded.acknowledge hqueue trivial
      split
      · exact hrecorded.reject hqueue _ _
      split
      · exact hrecorded.drop
      · exact hrecorded.reject hqueue _ _
      · split
        · exact hrecorded.drop
        · next accepted l' hl' =>
            have hupdates : Updates a.executions l l' := updates_transition hl' nofun
            apply (hrecorded.update hupdates).acknowledge hqueue
            refine ⟨hc, fun e' he' => ?_⟩
            obtain ⟨e, he, hid⟩ := hupdates.back _ e' he'
            obtain ⟨rfl, -⟩ := recordReceived_own hrecord he
            exact hanswers.of_identity hid

include hc hidle in
theorem handleTypedCommand (hasExecutor : Bool) (hkind : isTyped c.kind = true) :
    Honest P (handleTypedCommand cfg hasExecutor o a s c) := by
  unfold Agent.handleTypedCommand
  split
  · exact h.reject hqueue _ _
  split
  · exact h.reject hqueue _ _
  · exact h.reject hqueue _ _
  · next entry created l hrecord =>
      have htyped : c.kind = if isTyped c.kind then c.kind else .observe := by
        rw [if_pos hkind]
      have hrecorded := h.receive hidle hc hrecord htyped fun _ => rfl
      obtain ⟨hanswers, hstored⟩ := answers_recordReceived hrecord htyped fun _ => rfl
      have hown : ∀ e, l.get? c.commandId = some e → Answers c e := by
        intro e he
        obtain ⟨rfl, -⟩ := recordReceived_own hrecord he
        exact hanswers
      have hlater : ∀ {l' : Ledger}, Updates a.executions l l' → ∀ e, l'.get? c.commandId = some e →
          Answers c e := by
        intro l' hupdates e' he'
        obtain ⟨e, he, hid⟩ := hupdates.back _ e' he'
        exact (hown e he).of_identity hid
      dsimp only
      split
      · exact hrecorded.drop
      split
      · next hsettled =>
          apply hrecorded.acknowledge hqueue
          exact ⟨hc, hanswers, hsettled.2, entry, hstored, Advances.refl entry⟩
      split
      · exact hrecorded.acknowledge hqueue trivial
      split
      · exact hrecorded.refuse hqueue hc hown _
      split
      · exact hrecorded.refuse hqueue hc hown _
      split
      · exact hrecorded.drop
      · exact hrecorded.refuse hqueue hc hown _
      · split
        · split
          · exact hrecorded.drop
          · next accepted l' hl' =>
              have hupdates : Updates a.executions l l' := updates_transition hl' nofun
              split
              · exact (hrecorded.update hupdates).drop
              · exact (hrecorded.update hupdates).acknowledge hqueue ⟨hc, hlater hupdates⟩
        · exact hrecorded.acknowledge hqueue ⟨hc, hown⟩

include hc hidle in
theorem beginCommand : Honest P (beginCommand cfg o a s c) := by
  unfold Agent.beginCommand
  split
  · next hrollback =>
      exact h.handleTypedCommand hqueue o hc hidle _ (by simp [isTyped, hrollback])
  · split
    · next hprogram =>
        exact h.handleTypedCommand hqueue o hc hidle _ (by simp [isTyped, hprogram])
    · next hrollback hprogram =>
        exact h.handleCommand hqueue o hc hidle (by simp [isTyped, hrollback, hprogram])

include hc in
theorem startCommand (hown : ∀ e, a.ledger.get? c.commandId = some e → Answers c e) :
    Honest P (startCommand o a s c) := by
  unfold Agent.startCommand
  split
  · exact h.drop
  · next entry l hl =>
      have hupdates : Updates a.executions a.ledger l := updates_transition hl nofun
      have hupdated := h.update hupdates
      split
      · exact hupdated.drop
      · obtain ⟨hstored, hcommand, -⟩ := transition_stored hl
        have hlater : ∀ e, l.get? c.commandId = some e → Answers c e := by
          intro e' he'
          obtain ⟨e, he, hid⟩ := hupdates.back _ e' he'
          exact (hown e he).of_identity hid
        rw [hcommand] at hstored
        have hstarted : Honest P { a with
            ledger := l, executions := a.executions ++ [c] } := by
          refine ⟨h.queued, fun s' hs' => ?_, hupdated.entries, fun c' hc' => ?_,
            fun k e he hstate => ?_, hupdated.sent⟩
          · exact (hupdated.worker s' hs').ran (List.subset_append_left _ _)
          · rcases List.mem_append.mp hc' with hc' | hc'
            · exact hupdated.executed c' hc'
            · obtain rfl := List.mem_singleton.mp hc'
              exact ⟨hc, entry, hstored, hlater entry hstored⟩
          · obtain ⟨c', hc', hran⟩ := hupdated.succeeded k e he hstate
            exact ⟨c', List.mem_append_left _ hc', hran⟩
        exact hstarted.setWorker hqueue ⟨List.mem_append_right _ List.mem_cons_self, hlater⟩

theorem finishCommand (hran : c ∈ a.executions)
    (hown : ∀ e, a.ledger.get? c.commandId = some e → Answers c e) :
    Honest P (finishCommand cfg o a s c) := by
  unfold Agent.finishCommand
  split
  · exact h.drop
  rcases hrecord : executionRecord c.kind o.execution with ⟨state, result, errorCode⟩
  dsimp only
  split
  · exact h.drop
  · next entry l hl =>
      have hupdates := updates_transition hl fun _ => ⟨c, hran, rfl⟩
      obtain ⟨hstored, hcommand, hstate⟩ := transition_stored hl
      obtain ⟨e, he, hid⟩ := hupdates.back _ entry hstored
      have hanswers : Answers c entry := by
        rw [hcommand] at he
        exact (hown e he).of_identity hid
      have hterminal : entry.state.isTerminal = true := by
        rw [hstate]
        have hfinal := executionRecord_terminal c.kind o.execution
        rw [hrecord] at hfinal
        exact hfinal
      split
      · exact (h.update hupdates).drop
      · exact (h.update hupdates).report hqueue hanswers hterminal
          ⟨entry, hstored, Advances.refl entry⟩ (Or.inl hcommand)

end

/-! ## One step -/

section

variable (h : Honest P a) (hs : a.session = some s)
include h hs

theorem work (o : Choice) : Honest P (work cfg o a s) := by
  have hqueue := h.queued s hs
  have hworker := h.worker s hs
  unfold Agent.work
  split
  · next hidle =>
      split
      · exact h
      · next c rest hcommands =>
          rw [hcommands] at hqueue
          have hrest : ∀ c' ∈ ({ s with queue := rest } : Session).queue, P c' :=
            fun c' hc' => hqueue c' (List.mem_cons_of_mem c hc')
          apply h.beginCommand hrest o (hqueue c List.mem_cons_self)
          intro s' hs'
          rw [hs] at hs'
          cases hs'
          exact hidle
  · exact h.setWorker hqueue trivial
  · split
    · exact h.drop
    · next entry l hl => exact (h.update (updates_transition hl nofun)).setWorker hqueue trivial
  · next c entry hreporting =>
      rw [hreporting] at hworker
      obtain ⟨hc, hanswers, hterminal, hstands⟩ := hworker
      exact h.report hqueue hanswers hterminal hstands (Or.inr hc)
  · next c haccepting =>
      rw [haccepting] at hworker
      exact h.startCommand hqueue o hworker.1 hworker.2
  · next c hexecuting =>
      rw [hexecuting] at hworker
      exact h.finishCommand hqueue o hworker.1 hworker.2
  · exact h.setWorker hqueue trivial

/-- The receiver leaves the worker where it is. -/
theorem receiver {s' : Session} (hqueue : ∀ c ∈ s'.queue, P c) (hworker : s'.worker = s.worker) :
    Honest P { a with session := some s' } := by
  refine ⟨?_, ?_, h.entries, h.executed, h.succeeded, h.sent⟩
  · intro s'' hs''
    obtain rfl := Option.some.inj hs''
    exact hqueue
  · intro s'' hs''
    obtain rfl := Option.some.inj hs''
    rw [hworker]
    exact h.worker s hs

omit hs in
theorem handleCancel (m : CancelMessage) : Honest P (handleCancel cfg a s m) := by
  unfold Agent.handleCancel
  split
  · exact h.drop
  split
  · exact h
  split
  · exact h.drop
  · have hflagged := h.update (updates_requestCancel (k := m.commandId))
    dsimp only
    split
    · split
      · exact hflagged.drop
      · next entry l hl =>
          obtain ⟨hstored, hcommand, hstate⟩ := transition_stored hl
          have hnot : LedgerState.cancelled ≠ LedgerState.succeeded := by decide
          have hcancelled := hflagged.update
            (updates_transition hl fun hsucceeded => absurd hsucceeded hnot)
          apply hcancelled.send
          intro n _
          have hterminal : entry.state.isTerminal = true := by
            rw [hstate]
            rfl
          refine ⟨entry, hstored, hterminal, states_terminalMessage cfg s _ n hterminal, Or.inl ?_⟩
          unfold terminalMessage
          dsimp only
          split <;> exact hcommand
    · exact hflagged

theorem receiveMessage (message : GatewayMessage)
    (hdelivered : ∀ c, message = .command c → c.deviceId = cfg.deviceId → P c) :
    Honest P (Agent.receive cfg a s message) := by
  have hqueue := h.queued s hs
  unfold Agent.receive
  split
  · next c =>
      split
      · exact h.drop
      · next hbound =>
          have hc : P c := hdelivered c rfl (not_or.mp hbound |>.2 |> not_not.mp)
          split
          · exact h.send _ fun _ hreport => by cases hreport
          · apply h.receiver hs
            · intro c' hc'
              rcases List.mem_append.mp hc' with hc' | hc'
              · exact hqueue c' hc'
              · obtain rfl := List.mem_singleton.mp hc'
                exact hc
            · rfl
  · split
    · exact h.drop
    · exact h.receiver hs hqueue rfl
  · exact h.handleCancel _

theorem answer : Honest P (answer cfg a s) := by
  unfold Agent.answer
  split
  · exact h
  · next d rest _ =>
      have hrest : Honest P { a with session := some { s with receiver := rest } } :=
        h.receiver hs (h.queued s hs) rfl
      apply hrest.send
      intro n hreport
      obtain ⟨e, he, hfinal, hstates⟩ := states_reconcileAnswer cfg s hreport
      have hid := Ledger.get?_commandId he
      refine ⟨e, ?_, hfinal, hstates, Or.inl ?_⟩
      · rw [hid]
        exact he
      · have henvelope : (reconcileAnswer cfg s a.ledger d n).commandId = d.commandId := by
          unfold reconcileAnswer
          dsimp only
          split <;> rfl
        exact hid.trans henvelope.symm

end

/-- **Every step keeps the Agent honest.** -/
theorem step (h : Honest P a) (cfg : Config) (e : Event)
    (hdelivered : ∀ c, e = .receive (.command c) → c.deviceId = cfg.deviceId → P c) :
    Honest P (step cfg a e) := by
  have hsession : ∀ f : Session → Core, (∀ s, a.session = some s → Honest P (f s)) →
      Honest P (a.onSession f) := by
    intro f hf
    unfold Core.onSession
    split
    · next s hs => exact hf s hs
    · exact h
  cases e with
  | connect sessionId =>
      unfold Agent.step
      dsimp only
      split
      · refine ⟨?_, ?_, h.entries, h.executed, h.succeeded, h.sent⟩
        · rintro s hs
          obtain rfl := Option.some.inj hs
          rintro c ⟨⟩
        · rintro s hs
          obtain rfl := Option.some.inj hs
          trivial
      · exact h
  | receive message =>
      refine hsession _ fun s hs => h.receiveMessage hs message ?_
      rintro c rfl
      exact hdelivered c rfl
  | work o => exact hsession _ fun s hs => h.work hs o
  | answer => exact hsession _ fun s hs => h.answer hs
  | sessionLost => exact h.drop
  | restart => exact (h.update updates_recover).drop
  | setPaused paused => exact ⟨h.queued, h.worker, h.entries, h.executed, h.succeeded, h.sent⟩
  | setWriteLock enabled => exact ⟨h.queued, h.worker, h.entries, h.executed, h.succeeded, h.sent⟩

theorem initial (paused writeLock : Bool) : Honest P (Core.initial paused writeLock) := by
  refine ⟨?_, ?_, ?_, ?_, ?_, ?_⟩
  · rintro s ⟨⟩
  · rintro s ⟨⟩
  · rintro k e ⟨⟩
  · rintro c ⟨⟩
  · rintro k e ⟨⟩
  · rintro m ⟨⟩

theorem mono {Q : CommandMessage → Prop} (h : Honest P a) (hPQ : ∀ c, P c → Q c) :
    Honest Q a := by
  refine ⟨fun s hs c hc => hPQ c (h.queued s hs c hc), fun s hs => ?_, fun k e he => ?_,
    fun c hc => ⟨hPQ c (h.executed c hc).1, (h.executed c hc).2⟩, h.succeeded,
    fun m hm hreport => ?_⟩
  · have hworker := h.worker s hs
    cases hw : s.worker with
    | reporting c entry =>
        rw [hw] at hworker
        exact ⟨hPQ c hworker.1, hworker.2⟩
    | accepting c =>
        rw [hw] at hworker
        exact ⟨hPQ c hworker.1, hworker.2⟩
    | _ =>
        rw [hw] at hworker
        exact hworker
  · obtain ⟨c, hc, hrest⟩ := h.entries k e he
    exact ⟨c, hPQ c hc, hrest⟩
  · obtain ⟨e, he⟩ := h.sent m hm hreport
    refine ⟨e, he.stored, he.terminal, he.states, ?_⟩
    rcases he.command with hown | ⟨c, hc, hrest⟩
    · exact Or.inl hown
    · exact Or.inr ⟨c, hPQ c hc, hrest⟩

end Honest

end

/-! ## Runs -/

/-- **Whatever the Agent has reported is what its ledger holds.** After any run, every terminal
report that was ever sent states an entry of the ledger: the one of the command that it names, or
one that answers for a delivered command of that name. -/
theorem reports_state_ledger (cfg : Config) (paused writeLock : Bool) (es : List Event) :
    let a := runFrom (step cfg) (Core.initial paused writeLock) es
    ∀ m ∈ a.sent, isReport m = true →
      ∃ e, Backs (fun c => .receive (.command c) ∈ es) a.ledger m e := by
  have hhonest : Honest (fun c => .receive (.command c) ∈ es)
      (runFrom (step cfg) (Core.initial paused writeLock) es) := by
    induction es using List.reverseRecOn with
    | nil => exact Honest.initial paused writeLock
    | append_singleton es e ih =>
        rw [runFrom_append]
        apply (ih.mono fun c hc => List.mem_append_left [e] hc).step
        rintro c rfl -
        exact List.mem_append_right es List.mem_cons_self
  exact hhonest.sent

end AutocadMcp.Agent
