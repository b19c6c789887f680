import AutocadMcp.Lib.Checked
import AutocadMcp.Lib.Table
import AutocadMcp.Contracts.Messages

/-!
# The command ledger of the Agent

`CommandLedger`: the durable record of every command that the Agent received,
with the operations the core uses. `created_at` is the order of the rows. A
transition never goes back in the order `received < accepted < started <
terminal`, and a terminal entry keeps its outcome.
-/

namespace AutocadMcp.Agent

inductive LedgerState where
  | received
  | accepted
  | started
  | succeeded
  | failed
  | cancelled
  | outcomeUnknown
  deriving DecidableEq, Repr

namespace LedgerState

/-- `TERMINAL`. -/
def isTerminal : LedgerState → Bool
  | .succeeded | .failed | .cancelled | .outcomeUnknown => true
  | _ => false

def order : LedgerState → Nat
  | .received => 0
  | .accepted => 1
  | .started => 2
  | .succeeded | .failed | .cancelled | .outcomeUnknown => 3

end LedgerState

/-- A row of `commands`; the package and the session it came with are only written. -/
structure LedgerEntry where
  commandId : CommandId
  jobId : JobId
  idempotencyKey : IdempotencyKey
  payloadHash : Digest
  state : LedgerState
  result : Option Json
  errorCode : Option String
  deviceId : DeviceId
  cancelRequested : Bool
  kind : JobKind
  binding : Option Json
  deriving DecidableEq

inductive LedgerConflict where
  | replayPayloadMismatch
  | idempotencyConflict
  | commandNotFound
  | terminalResultConflict
  | invalidTransition
  deriving DecidableEq, Repr

abbrev Ledger := Table LedgerEntry.commandId

/-- The arguments of `record_received`. -/
structure Received where
  commandId : CommandId
  jobId : JobId
  idempotencyKey : IdempotencyKey
  payloadHash : Digest
  deviceId : DeviceId
  kind : JobKind
  binding : Option Json

def Received.entry (a : Received) : LedgerEntry where
  commandId := a.commandId
  jobId := a.jobId
  idempotencyKey := a.idempotencyKey
  payloadHash := a.payloadHash
  state := .received
  result := none
  errorCode := none
  deviceId := a.deviceId
  cancelRequested := false
  kind := a.kind
  binding := a.binding

/-- An entry that the delivered command repeats field by field. -/
def Received.matches (a : Received) (e : LedgerEntry) : Prop :=
  e.payloadHash = a.payloadHash ∧ e.idempotencyKey = a.idempotencyKey ∧
    e.deviceId = a.deviceId ∧ e.kind = a.kind ∧ e.binding = a.binding

instance (a : Received) (e : LedgerEntry) : Decidable (a.matches e) := by
  unfold Received.matches
  infer_instance

namespace Ledger

/-- The oldest entry with the idempotency key on the device. -/
def byKey? (l : Ledger) (deviceId : DeviceId) (key : IdempotencyKey) : Option LedgerEntry :=
  l.rows.find? (fun e => e.deviceId = deviceId ∧ e.idempotencyKey = key)

/-- `record_received`: the entry of the command, or of another command with its idempotency
key, or a new one; the flag is `created`. -/
def recordReceived (l : Ledger) (a : Received) :
    Except LedgerConflict ((LedgerEntry × Bool) × Ledger) :=
  match l.get? a.commandId with
  | some e => do
      check (a.matches e) .replayPayloadMismatch
      check (e.jobId = a.jobId) .replayPayloadMismatch
      return ((e, false), l)
  | none =>
      match l.byKey? a.deviceId a.idempotencyKey with
      | some e => do
          check (a.matches e) .idempotencyConflict
          return ((e, false), l)
      | none =>
          match l.insert a.entry with
          | some l => .ok ((a.entry, true), l)
          | none => .error .replayPayloadMismatch

/-- `UPDATE commands SET state = ?, result_json = ?, error_code = ?`. -/
def moved (state : LedgerState) (result : Option Json) (errorCode : Option String)
    (e : LedgerEntry) : LedgerEntry :=
  { e with state := state, result := result, errorCode := errorCode }

theorem moved_commandId (state : LedgerState) (result : Option Json) (errorCode : Option String)
    (e : LedgerEntry) : (moved state result errorCode e).commandId = e.commandId := rfl

/-- `transition`. -/
def transition (l : Ledger) (commandId : CommandId) (state : LedgerState)
    (result : Option Json) (errorCode : Option String) :
    Except LedgerConflict (LedgerEntry × Ledger) :=
  match l.get? commandId with
  | none => .error .commandNotFound
  | some current =>
      if current.state.isTerminal then
        if current.state = state ∧ current.result = result ∧ current.errorCode = errorCode then
          .ok (current, l)
        else .error .terminalResultConflict
      else if state.order < current.state.order then .error .invalidTransition
      else .ok (moved state result errorCode current,
        l.modify commandId (moved state result errorCode) (moved_commandId state result errorCode))

def flagged (e : LedgerEntry) : LedgerEntry := { e with cancelRequested := true }

theorem flagged_commandId (e : LedgerEntry) : (flagged e).commandId = e.commandId := rfl

/-- `request_cancel`. -/
def requestCancel (l : Ledger) (commandId : CommandId) : Ledger :=
  l.modify commandId flagged flagged_commandId

/-- `reconcile_status`. -/
def reconcileStatus (l : Ledger) (commandId : CommandId) (payloadHash : Digest) :
    Except LedgerConflict (ReconcileStatus × Option LedgerEntry) :=
  match l.get? commandId with
  | none => .ok (.notStarted, none)
  | some e =>
      if e.payloadHash ≠ payloadHash then .error .replayPayloadMismatch
      else if e.state = .received ∨ e.state = .accepted then .ok (.notStarted, some e)
      else if e.state = .started then .ok (.started, some e)
      else .ok (.terminal, some e)

/-- What a restart does to one entry: only the three Program kinds are looked at. -/
def recovered (e : LedgerEntry) : LedgerEntry :=
  if e.state = .started ∧ e.kind = .programCommit then
    { e with state := .outcomeUnknown, errorCode := some "outcome_unknown" }
  else if e.state = .started ∧ (e.kind = .programPreview ∨ e.kind = .programValidate) then
    { e with state := .failed, errorCode := some "agent_restarted" }
  else e

theorem recovered_commandId (e : LedgerEntry) : (recovered e).commandId = e.commandId := by
  unfold recovered
  split
  · rfl
  · split <;> rfl

/-- `recover_interrupted_programs`. -/
def recoverInterruptedPrograms (l : Ledger) : Ledger :=
  l.mapRows recovered recovered_commandId

end Ledger

/-! ## What an operation can do to the ledger -/

/-- The fields that identify an entry and never change. -/
def LedgerEntry.identity (e : LedgerEntry) :
    CommandId × JobId × IdempotencyKey × Digest × DeviceId × JobKind × Option Json :=
  (e.commandId, e.jobId, e.idempotencyKey, e.payloadHash, e.deviceId, e.kind, e.binding)

/-- What the Agent reports of an entry. -/
def LedgerEntry.outcome (e : LedgerEntry) : LedgerState × Option Json × Option String :=
  (e.state, e.result, e.errorCode)

/-- An entry after an operation: the same command, not further back, and with the same outcome
once that was terminal. -/
structure Advances (e e' : LedgerEntry) : Prop where
  identity : e'.identity = e.identity
  order : e.state.order ≤ e'.state.order
  final : e.state.isTerminal = true → e'.outcome = e.outcome

theorem Advances.refl (e : LedgerEntry) : Advances e e :=
  ⟨rfl, Nat.le_refl _, fun _ => rfl⟩

theorem isTerminal_iff_order (s : LedgerState) : s.isTerminal = true ↔ 3 ≤ s.order := by
  cases s <;> decide

theorem Advances.terminal {e e' : LedgerEntry} (h : Advances e e')
    (ht : e.state.isTerminal = true) : e'.state.isTerminal = true := by
  rw [isTerminal_iff_order] at ht ⊢
  exact Nat.le_trans ht h.order

theorem Advances.trans {e e' e'' : LedgerEntry} (h : Advances e e') (h' : Advances e' e'') :
    Advances e e'' :=
  ⟨h'.identity.trans h.identity, Nat.le_trans h.order h'.order,
    fun ht => (h'.final (h.terminal ht)).trans (h.final ht)⟩

/-- Every entry stays and advances. -/
def Ledger.Grows (l l' : Ledger) : Prop :=
  ∀ k e, l.get? k = some e → ∃ e', l'.get? k = some e' ∧ Advances e e'

theorem Ledger.Grows.refl (l : Ledger) : l.Grows l :=
  fun _ e he => ⟨e, he, Advances.refl e⟩

theorem Ledger.Grows.trans {l l' l'' : Ledger} (h : l.Grows l') (h' : l'.Grows l'') :
    l.Grows l'' := by
  intro k e he
  obtain ⟨e', he', hadv⟩ := h k e he
  obtain ⟨e'', he'', hadv'⟩ := h' k e' he'
  exact ⟨e'', he'', hadv.trans hadv'⟩

namespace Ledger

variable {l l' : Ledger}

theorem get?_commandId {k : CommandId} {e : LedgerEntry} (h : l.get? k = some e) :
    e.commandId = k :=
  (Table.get?_some h).2

/-- A delivery either finds an entry that it repeats, or adds the only entry with its command
and its idempotency key. -/
theorem recordReceived_ok {a : Received} {e : LedgerEntry} {created : Bool}
    (h : l.recordReceived a = .ok ((e, created), l')) :
    (created = false ∧ l' = l ∧ a.matches e ∧ e ∈ l.rows ∧
      (∀ own, l.get? a.commandId = some own → own = e)) ∨
    (created = true ∧ e = a.entry ∧ l.insert a.entry = some l' ∧
      l.byKey? a.deviceId a.idempotencyKey = none) := by
  unfold recordReceived at h
  cases hown : l.get? a.commandId with
  | some own =>
      simp only [hown, bind_eq_ok, check_eq_ok] at h
      obtain ⟨_, hmatch, _, -, h⟩ := h
      cases h
      refine Or.inl ⟨rfl, rfl, hmatch, (Table.get?_some hown).1, ?_⟩
      rintro _ ⟨⟩
      rfl
  | none =>
      simp only [hown] at h
      cases hkey : l.byKey? a.deviceId a.idempotencyKey with
      | some other =>
          simp only [hkey, bind_eq_ok, check_eq_ok] at h
          obtain ⟨_, hmatch, h⟩ := h
          cases h
          exact Or.inl ⟨rfl, rfl, hmatch, List.mem_of_find?_eq_some hkey, by simp⟩
      | none =>
          simp only [hkey] at h
          split at h
          · rename_i l1 hinsert
            cases h
            exact Or.inr ⟨rfl, rfl, hinsert, rfl⟩
          · cases h

theorem insert_grows {e : LedgerEntry} (h : l.insert e = some l') : l.Grows l' := by
  intro k old hold
  refine ⟨old, ?_, Advances.refl old⟩
  have hne : e.commandId ≠ k := by
    rintro rfl
    rw [(Table.insert_some h).2] at hold
    cases hold
  rw [Table.get?_insert h, if_neg hne]
  exact hold

theorem recordReceived_grows {a : Received} {r : LedgerEntry × Bool}
    (h : l.recordReceived a = .ok (r, l')) : l.Grows l' := by
  obtain ⟨e, created⟩ := r
  rcases recordReceived_ok h with ⟨-, rfl, -⟩ | ⟨-, -, hinsert, -⟩
  · exact Grows.refl _
  · exact insert_grows hinsert

/-- A transition repeats a terminal outcome, or moves an open entry forward. -/
theorem transition_ok {k : CommandId} {state : LedgerState} {result : Option Json}
    {errorCode : Option String} {e : LedgerEntry}
    (h : l.transition k state result errorCode = .ok (e, l')) :
    (l.get? k = some e ∧ e.state.isTerminal = true ∧ l' = l ∧ e.state = state ∧
      e.result = result ∧ e.errorCode = errorCode) ∨
    ∃ current, l.get? k = some current ∧ current.state.isTerminal = false ∧
      current.state.order ≤ state.order ∧ e = moved state result errorCode current ∧
      l' = l.modify k (moved state result errorCode) (moved_commandId state result errorCode) := by
  unfold transition at h
  cases hget : l.get? k with
  | none =>
      simp only [hget] at h
      cases h
  | some current =>
      simp only [hget] at h
      by_cases hterm : current.state.isTerminal = true
      · rw [if_pos hterm] at h
        split at h
        · rename_i hsame
          cases h
          exact Or.inl ⟨rfl, hterm, rfl, hsame⟩
        · cases h
      · rw [if_neg hterm] at h
        split at h
        · cases h
        · rename_i horder
          cases h
          exact Or.inr ⟨current, rfl, by simpa using hterm, by omega, rfl, rfl⟩

theorem modify_grows {k : CommandId} {f : LedgerEntry → LedgerEntry}
    {hf : ∀ e, (f e).commandId = e.commandId} (hadv : ∀ e, l.get? k = some e → Advances e (f e)) :
    l.Grows (l.modify k f hf) := by
  intro k' e he
  rw [Table.get?_modify]
  by_cases hk : k' = k
  · subst hk
    exact ⟨f e, by simp [he], hadv e he⟩
  · exact ⟨e, by simp [hk, he], Advances.refl e⟩

theorem transition_grows {k : CommandId} {state : LedgerState} {result : Option Json}
    {errorCode : Option String} {e : LedgerEntry}
    (h : l.transition k state result errorCode = .ok (e, l')) : l.Grows l' := by
  rcases transition_ok h with ⟨-, -, rfl, -⟩ | ⟨current, hget, hopen, horder, -, rfl⟩
  · exact Grows.refl _
  · refine modify_grows fun e he => ?_
    rw [hget] at he
    cases he
    refine ⟨rfl, horder, fun ht => ?_⟩
    rw [hopen] at ht
    cases ht

theorem requestCancel_grows (k : CommandId) : l.Grows (l.requestCancel k) :=
  modify_grows fun _ _ => ⟨rfl, Nat.le_refl _, fun _ => rfl⟩

theorem recovered_advances (e : LedgerEntry) : Advances e (recovered e) := by
  unfold recovered
  split
  · rename_i h
    refine ⟨rfl, ?_, fun ht => ?_⟩
    · rw [h.1]
      show 2 ≤ 3
      omega
    · rw [h.1] at ht
      cases ht
  · split
    · rename_i h
      refine ⟨rfl, ?_, fun ht => ?_⟩
      · rw [h.1]
        show 2 ≤ 3
        omega
      · rw [h.1] at ht
        cases ht
    · exact Advances.refl e

theorem get?_recover (k : CommandId) :
    l.recoverInterruptedPrograms.get? k = (l.get? k).map recovered := by
  unfold recoverInterruptedPrograms
  rw [Table.get?_mapRows]

theorem recover_grows : l.Grows l.recoverInterruptedPrograms := by
  intro k e he
  exact ⟨recovered e, by rw [get?_recover, he]; rfl, recovered_advances e⟩

end Ledger

end AutocadMcp.Agent
