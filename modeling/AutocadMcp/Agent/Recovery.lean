import AutocadMcp.Agent.AtMostOnce

/-!
# Start-up after a crash

What the ledger owes after a restart: an execution that was interrupted is
resolved, so that no entry says `started` when nothing executes it.
`recover_interrupted_programs` looks at the three Program kinds only, and the
debt is paid exactly when no other kind was started.
-/

namespace AutocadMcp.Agent

/-- The kinds whose execution may have changed the drawing. -/
def hasCommitEffect (k : JobKind) : Bool :=
  k = .programCommit ∨ k = .rollbackCommit

/-- A descriptor with the payload hash that the ledger recorded, as the Gateway sends it. -/
def Describes (l : Ledger) (d : ReconcileCommandDescriptor) : Prop :=
  ∀ e, l.get? d.commandId = some e → e.payloadHash = d.payloadHash

/-- Every interrupted execution is resolved: started commits are unknown, all others failed, no
entry stays started, and no reconcile request is answered `started`. -/
structure Resolved (cfg : Config) (before after : Ledger) : Prop where
  outcome : ∀ k e, before.get? k = some e → e.state = .started →
    ∃ e', after.get? k = some e' ∧
      e'.state = if hasCommitEffect e.kind then .outcomeUnknown else .failed
  stopped : ∀ k e, after.get? k = some e → e.state ≠ .started
  answers : ∀ s d sequence, Describes after d →
    (reconcileAnswer cfg s after d sequence).status ≠ .started

/-- An answer to a described command is `started` only when the entry is. -/
theorem answer_started {cfg : Config} {s : Session} {l : Ledger}
    {d : ReconcileCommandDescriptor} {sequence : Int} (hd : Describes l d)
    (h : (reconcileAnswer cfg s l d sequence).status = .started) :
    ∃ e, l.get? d.commandId = some e ∧ e.state = .started := by
  unfold reconcileAnswer Ledger.reconcileStatus at h
  cases hget : l.get? d.commandId with
  | none => simp [hget] at h
  | some e =>
      simp only [hget] at h
      rw [if_neg (by simpa using hd e hget)] at h
      by_cases hstarted : e.state = .started
      · exact ⟨e, rfl, hstarted⟩
      · by_cases hearly : e.state = .received ∨ e.state = .accepted
        · rw [if_pos hearly] at h
          cases h
        · rw [if_neg hearly, if_neg hstarted] at h
          cases h

theorem recovered_open {e : LedgerEntry} (h : e.state ≠ .started) : Ledger.recovered e = e := by
  unfold Ledger.recovered
  rw [if_neg (fun hand => h hand.1), if_neg (fun hand => h hand.1)]

theorem recovered_program {e : LedgerEntry} (hstarted : e.state = .started)
    (hkind : e.kind.isProgram = true) :
    (Ledger.recovered e).state = if hasCommitEffect e.kind then .outcomeUnknown else .failed := by
  unfold Ledger.recovered
  revert hkind
  cases e.kind <;> simp [JobKind.isProgram, hasCommitEffect, hstarted]

/-- A started entry of any other kind is left as it is. -/
theorem recovered_other {e : LedgerEntry} (hkind : e.kind.isProgram = false) :
    Ledger.recovered e = e := by
  unfold Ledger.recovered
  revert hkind
  cases e.kind <;> simp [JobKind.isProgram]

/-- **Recovery resolves every interrupted execution exactly when only Program kinds were
started.** -/
theorem recover_resolves_iff (cfg : Config) (l : Ledger) :
    Resolved cfg l l.recoverInterruptedPrograms ↔
      ∀ k e, l.get? k = some e → e.state = .started → e.kind.isProgram = true := by
  constructor
  · intro h k e he hstarted
    by_contra hkind
    have hsame : Ledger.recovered e = e := recovered_other (by simpa using hkind)
    refine h.stopped k e ?_ hstarted
    rw [Ledger.get?_recover, he, Option.map_some, hsame]
  · intro h
    have hstopped : ∀ k e, l.recoverInterruptedPrograms.get? k = some e → e.state ≠ .started := by
      intro k e' he'
      rw [Ledger.get?_recover, Option.map_eq_some_iff] at he'
      obtain ⟨e, he, rfl⟩ := he'
      by_cases hstarted : e.state = .started
      · rw [recovered_program hstarted (h k e he hstarted)]
        split <;> decide
      · rw [recovered_open hstarted]
        exact hstarted
    refine ⟨?_, hstopped, ?_⟩
    · intro k e he hstarted
      refine ⟨Ledger.recovered e, ?_, recovered_program hstarted (h k e he hstarted)⟩
      rw [Ledger.get?_recover, he]
      rfl
    · intro s d sequence hd hanswer
      obtain ⟨e, he, hstarted⟩ := answer_started hd hanswer
      exact hstopped _ e he hstarted

/-- An Agent of device 1 with both executors. -/
def labConfig : Config where
  deviceId := 1
  queueSize := 4
  hasProgramExecutor := true
  hasRollbackExecutor := true
  canonicalPayloadHash _ := 0

def rollbackCommand : CommandMessage :=
  ⟨7, 1, 2, 3, 4, 0, .rollbackCommit, .write, none, .obj [], .obj []⟩

/-- The process is killed while the rollback executor runs. -/
def interruptedRollback : List Event :=
  [.connect 7, .receive (.command rollbackCommand), .work {}, .work {}]

end AutocadMcp.Agent
