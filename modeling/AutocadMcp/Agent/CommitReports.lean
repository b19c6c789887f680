import AutocadMcp.Agent.HostOutcome
import AutocadMcp.Agent.Recovery

/-!
# Commits in the runs of the Agent

The machine of the core with the outcomes of Program executions computed by the
executor. The entry of an executed commit stays `started` until its execution ends
and then has the state that the core records for the outcome, unless an exception
or a restart came in between, after which the outcome is unknown.
-/

namespace AutocadMcp.Agent

/-- The Program command whose execution ends with the event. -/
def ending (a : Core) : Event → Option CommandMessage
  | .work _ =>
      match a.session with
      | some s =>
          match s.worker with
          | .executing c => if c.kind.isProgram then some c else none
          | _ => none
      | none => none
  | _ => none

/-- The event, with the outcome of the executor for the outcome of a Program execution. -/
def resolved (a : Core) (e : Event) (s : Surroundings) : Event :=
  match e with
  | .work choice =>
      match ending a e with
      | some c => .work { choice with execution := executionOf (execute s c) }
      | none => e
  | _ => e

/-- The core, and the Program executions that ended with what they met. -/
structure Hosted where
  core : Core
  ended : List (CommandMessage × Surroundings)

def Hosted.initial (paused writeLock : Bool) : Hosted := ⟨Core.initial paused writeLock, []⟩

def hostedStep (cfg : Config) (h : Hosted) (e : Event × Surroundings) : Hosted where
  core := step cfg h.core (resolved h.core e.1 e.2)
  ended := h.ended ++ ((ending h.core e.1).map fun c => (c, e.2)).toList

namespace Hosted

/-- No commit that the Host carried out is recorded as failed, now or after a restart, and an
executed commit is recorded as failed only when the Host was not asked or refused. -/
structure NeverFailed (h : Hosted) : Prop where
  carriedOut : ∀ x ∈ h.ended, x.1.kind = .programCommit → CarriedOut x.2 x.1 →
    ∃ e, h.core.ledger.get? x.1.commandId = some e ∧ e.state ≠ .failed ∧
      ((Ledger.recovered e).state = .succeeded ∨ (Ledger.recovered e).state = .outcomeUnknown)
  failed : ∀ c ∈ h.core.executions, c.kind = .programCommit →
    ∀ e, h.core.ledger.get? c.commandId = some e → e.state = .failed →
      ∃ s, (c, s) ∈ h.ended ∧ NotExecuted s c

end Hosted

/-! ## One step -/

theorem ending_some {a : Core} {e : Event} {c : CommandMessage} (h : ending a e = some c) :
    ∃ choice s, e = .work choice ∧ a.session = some s ∧ s.worker = .executing c ∧
      c.kind.isProgram = true := by
  unfold ending at h
  cases e with
  | work choice =>
      cases hs : a.session with
      | none => simp [hs] at h
      | some s =>
          simp only [hs] at h
          split at h
          · rename_i c' hw
            split at h
            · rename_i hkind
              cases h
              exact ⟨choice, s, rfl, rfl, hw, hkind⟩
            · cases h
          · cases h
  | _ => cases h

theorem resolved_none {a : Core} {e : Event} {s : Surroundings} (h : ending a e = none) :
    resolved a e s = e := by
  unfold resolved
  cases e with
  | work choice => simp only [h]
  | _ => rfl

section

variable {cfg : Config} {o : Choice} {a : Core} {s : Session} {c : CommandMessage}

/-- After an execution the worker sends, or the session has ended. -/
theorem finishCommand_idle :
    (finishCommand cfg o a s c).executions = a.executions ∧
      ∀ s', (finishCommand cfg o a s c).session = some s' → s'.worker = .sending := by
  unfold finishCommand
  split
  · exact ⟨rfl, by rintro _ ⟨⟩⟩
  · split
    split
    · exact ⟨rfl, by rintro _ ⟨⟩⟩
    · split
      · exact ⟨rfl, by rintro _ ⟨⟩⟩
      · refine ⟨rfl, fun s' hs' => ?_⟩
        obtain rfl := Option.some.inj hs'
        rfl

/-- The end of an execution records its outcome. -/
theorem finishCommand_records (cfg : Config) (s : Session) {e : LedgerEntry}
    (he : a.ledger.get? c.commandId = some e) (hstarted : e.state = .started)
    (hevidence : evidenceBeforeRecord c.kind o = false) :
    ∃ result errorCode, (finishCommand cfg o a s c).ledger =
      a.ledger.modify c.commandId
        (Ledger.moved (executionRecord c.kind o.execution).1 result errorCode)
        (Ledger.moved_commandId _ result errorCode) := by
  unfold finishCommand
  rw [if_neg (by simp [hevidence])]
  split
  rename_i state result errorCode hrecord
  obtain rfl : (executionRecord c.kind o.execution).1 = state := by rw [hrecord]
  have hmove : ∀ state, state.isTerminal = true →
      a.ledger.transition c.commandId state result errorCode =
        .ok (Ledger.moved state result errorCode e,
          a.ledger.modify c.commandId (Ledger.moved state result errorCode)
            (Ledger.moved_commandId state result errorCode)) := by
    intro state hstate
    unfold Ledger.transition
    rw [he]
    dsimp only
    rw [hstarted, if_neg (by decide), if_neg]
    rw [isTerminal_iff_order] at hstate
    show ¬ state.order < 2
    omega
  rw [hmove _ (executionRecord_terminal _ _)]
  refine ⟨result, errorCode, ?_⟩
  dsimp only
  split <;> rfl

/-- An append of evidence that raises before the record leaves the entry alone; it comes before a
success only. -/
theorem finishCommand_ledger (cfg : Config) (o : Choice) (s : Session) {e : LedgerEntry}
    (he : a.ledger.get? c.commandId = some e) (hstarted : e.state = .started) :
    ((finishCommand cfg o a s c).ledger = a.ledger ∧ ∃ value, o.execution = .result value) ∨
    ∃ result errorCode, (finishCommand cfg o a s c).ledger =
      a.ledger.modify c.commandId
        (Ledger.moved (executionRecord c.kind o.execution).1 result errorCode)
        (Ledger.moved_commandId _ result errorCode) := by
  cases hevidence : evidenceBeforeRecord c.kind o with
  | false => exact Or.inr (finishCommand_records cfg s he hstarted hevidence)
  | true =>
      left
      refine ⟨?_, ?_⟩
      · unfold finishCommand
        rw [if_pos hevidence]
        rfl
      · unfold evidenceBeforeRecord at hevidence
        split at hevidence
        · rename_i value hvalue
          exact ⟨value, hvalue⟩
        · cases hevidence

end

/-- A step ends an execution, restarts the Agent, or leaves the started entries alone. -/
theorem step_kinds (cfg : Config) {a : Core} (e : Event)
    (hposition : ∀ s, a.session = some s → Position a.ledger s.worker) :
    (∃ o s c, e = .work o ∧ a.session = some s ∧ s.worker = .executing c ∧
      step cfg a e = finishCommand cfg o a s c) ∨
    e = .restart ∨ Keeps a (step cfg a e) := by
  have same : ∀ a' : Core, a'.ledger = a.ledger → a'.executions = a.executions →
      (∀ s, a'.session = some s → a.session = some s ∨ s.worker = .idle) → Keeps a a' := by
    intro a' hledger hexecutions hsession
    refine ⟨by rw [hledger]; exact Steady.refl _, ?_, ?_, Or.inl hexecutions⟩
    · intro s hs
      rcases hsession s hs with hs | hidle
      · rw [hledger]
        exact hposition s hs
      · rw [hidle]
        trivial
    · intro s c hs hw
      rcases hsession s hs with hs | hidle
      · exact Or.inl ⟨s, hs, hw, hexecutions⟩
      · rw [hidle] at hw
        cases hw
  have onSession : ∀ f : Session → Core,
      (∀ s, a.session = some s → Keeps a (f s)) → Keeps a (a.onSession f) := by
    intro f hf
    unfold Core.onSession
    split
    · rename_i s hs
      exact hf s hs
    · exact same a rfl rfl fun s hs => Or.inl hs
  cases e with
  | connect sessionId =>
      refine Or.inr (Or.inr ?_)
      unfold step
      dsimp only
      split
      · refine same _ rfl rfl fun s hs => Or.inr ?_
        obtain rfl := Option.some.inj hs
        rfl
      · exact same a rfl rfl fun s hs => Or.inl hs
  | receive message =>
      exact Or.inr (Or.inr (onSession _ fun s hs => keeps_receive hs (hposition s hs) message))
  | work o =>
      cases hs : a.session with
      | none =>
          refine Or.inr (Or.inr (same _ ?_ ?_ ?_)) <;> simp [step, Core.onSession, hs]
      | some s =>
          have hstep : step cfg a (.work o) = work cfg o a s := by simp [step, Core.onSession, hs]
          by_cases hrunning : ∃ c, s.worker = .executing c
          · obtain ⟨c, hw⟩ := hrunning
            exact Or.inl ⟨o, s, c, rfl, rfl, hw, by rw [hstep, work, hw]⟩
          · rw [hstep]
            refine Or.inr (Or.inr (keeps_work hs (hposition s hs) o ?_))
            exact fun c hw => hrunning ⟨c, hw⟩
  | answer =>
      exact Or.inr (Or.inr (onSession _ fun s hs => keeps_answer hs (hposition s hs)))
  | sessionLost => exact Or.inr (Or.inr keeps_drop)
  | restart => exact Or.inr (Or.inl rfl)
  | setPaused paused => exact Or.inr (Or.inr (same _ rfl rfl fun s hs => Or.inl hs))
  | setWriteLock enabled => exact Or.inr (Or.inr (same _ rfl rfl fun s hs => Or.inl hs))

/-! ## The entry of an executed commit -/

/-- The entry of a commit that was started keeps its state, or was started and is unknown now. -/
def CommitKept (l l' : Ledger) (k : CommandId) : Prop :=
  ∀ e, l.get? k = some e → e.kind = .programCommit → 2 ≤ e.state.order →
    ∃ e', l'.get? k = some e' ∧ e'.kind = .programCommit ∧
      (e'.state = e.state ∨ e.state = .started ∧ e'.state = .outcomeUnknown)

theorem kind_of_advances {e e' : LedgerEntry} (h : Advances e e') : e'.kind = e.kind := by
  have hid := h.identity
  simp only [LedgerEntry.identity, Prod.mk.injEq] at hid
  exact hid.2.2.2.2.2.1

/-- What neither is started nor moves is kept. -/
theorem commitKept_of_grows {l l' : Ledger} {k : CommandId} (hgrows : l.Grows l')
    (hstarted : ∀ e, l.get? k = some e → e.kind = .programCommit → e.state = .started →
      ∃ e', l'.get? k = some e' ∧ (e'.state = .started ∨ e'.state = .outcomeUnknown)) :
    CommitKept l l' k := by
  intro e he hkind horder
  obtain ⟨e', he', hadv⟩ := hgrows k e he
  refine ⟨e', he', (kind_of_advances hadv).trans hkind, ?_⟩
  by_cases hs : e.state = .started
  · obtain ⟨e'', he'', hstate⟩ := hstarted e he hkind hs
    rw [he'] at he''
    cases he''
    rw [hs]
    exact hstate.imp_right fun h => ⟨rfl, h⟩
  · have hterminal : e.state.isTerminal = true := by
      revert horder hs
      cases e.state <;> simp [LedgerState.order, LedgerState.isTerminal]
    have houtcome := hadv.final hterminal
    simp only [LedgerEntry.outcome, Prod.mk.injEq] at houtcome
    exact Or.inl houtcome.1

theorem commitKept_step {cfg : Config} {a : Core} (hinv : Inv a)
    (hposition : ∀ s, a.session = some s → Position a.ledger s.worker) (e : Event)
    {k : CommandId}
    (hother : ∀ s c, (∃ o, e = .work o) → a.session = some s → s.worker = .executing c →
      c.kind = .programCommit → c.commandId ≠ k) :
    CommitKept a.ledger (step cfg a e).ledger k := by
  refine commitKept_of_grows (step_grows cfg hinv e) fun old hold hkind hs => ?_
  rcases step_kinds cfg e hposition with ⟨o, s, c, rfl, hsession, hw, hstep⟩ | rfl | hkeeps
  · -- the execution that ends is another command's, because its entry has another kind
    have hat := hposition s hsession
    rw [hw] at hat
    obtain ⟨own, hown, hstarted, hownKind⟩ := hat
    have hne : k ≠ c.commandId := by
      rintro rfl
      rw [hold] at hown
      cases hown
      rw [hkind] at hownKind
      refine hother s c ⟨o, rfl⟩ hsession hw ?_ rfl
      unfold ledgerKind at hownKind
      split at hownKind
      · exact hownKind.symm
      · cases hownKind
    rw [hstep]
    rcases finishCommand_ledger cfg o s hown hstarted with
      ⟨hledger, -⟩ | ⟨result, errorCode, hledger⟩
    · exact ⟨old, by rw [hledger]; exact hold, Or.inl hs⟩
    · refine ⟨old, ?_, Or.inl hs⟩
      rw [hledger, Table.get?_modify, if_neg hne]
      exact hold
  · refine ⟨Ledger.recovered old, ?_, Or.inr ?_⟩
    · show a.ledger.recoverInterruptedPrograms.get? k = _
      rw [Ledger.get?_recover, hold]
      rfl
    · rw [recovered_program hs (by rw [hkind]; rfl), hkind]
      rfl
  · obtain ⟨e', he', hs'⟩ := hkeeps.steady k old hold hs
    exact ⟨e', he', Or.inl hs'⟩

/-! ## Runs -/

/-- The entry of a commit while its execution goes on or was interrupted. -/
def Undecided (l : Ledger) (c : CommandMessage) : Prop :=
  ∃ e, l.get? c.commandId = some e ∧ e.kind = .programCommit ∧
    (e.state = .started ∨ e.state = .outcomeUnknown)

/-- The entry of a commit whose execution ended: the recorded state, or a success that an
exception kept from being recorded. -/
def Decided (l : Ledger) (c : CommandMessage) (s : Surroundings) : Prop :=
  ∃ e, l.get? c.commandId = some e ∧ e.kind = .programCommit ∧
    (e.state = recordedState s c ∨
      (e.state = .started ∨ e.state = .outcomeUnknown) ∧ recordedState s c = .succeeded)

theorem Undecided.kept {l l' : Ledger} {c : CommandMessage} (h : Undecided l c)
    (hkept : CommitKept l l' c.commandId) : Undecided l' c := by
  obtain ⟨e, he, hkind, hstate⟩ := h
  have horder : 2 ≤ e.state.order := by rcases hstate with h | h <;> rw [h] <;> decide
  obtain ⟨e', he', hkind', hsame | ⟨-, hunknown⟩⟩ := hkept e he hkind horder
  · exact ⟨e', he', hkind', by rw [hsame]; exact hstate⟩
  · exact ⟨e', he', hkind', Or.inr hunknown⟩

theorem recordedState_order (s : Surroundings) (c : CommandMessage) :
    (recordedState s c).order = 3 := by
  rcases recordedState_terminal s c with h | h | h <;> rw [h] <;> rfl

theorem Decided.kept {l l' : Ledger} {c : CommandMessage} {s : Surroundings}
    (h : Decided l c s) (hkept : CommitKept l l' c.commandId) : Decided l' c s := by
  obtain ⟨e, he, hkind, hstate⟩ := h
  have horder : 2 ≤ e.state.order := by
    rcases hstate with h | ⟨h | h, -⟩
    · rw [h, recordedState_order]
      decide
    · rw [h]
      decide
    · rw [h]
      decide
  obtain ⟨e', he', hkind', hsame | ⟨hstarted, hunknown⟩⟩ := hkept e he hkind horder
  · exact ⟨e', he', hkind', by rw [hsame]; exact hstate⟩
  · refine ⟨e', he', hkind', Or.inr ⟨Or.inr hunknown, ?_⟩⟩
    rcases hstate with h | ⟨-, h⟩
    · have := recordedState_order s c
      rw [← h, hstarted] at this
      cases this
    · exact h

/-- The invariant of every run of the machine. -/
structure Sound (h : Hosted) : Prop where
  inv : Inv h.core
  position : ∀ s, h.core.session = some s → Position h.core.ledger s.worker
  running : ∀ s c, h.core.session = some s → s.worker = .executing c →
    c ∈ h.core.executions ∧ ∀ x ∈ h.ended, x.1.commandId ≠ c.commandId
  invoked : ∀ x ∈ h.ended, x.1 ∈ h.core.executions
  decided : ∀ x ∈ h.ended, x.1.kind = .programCommit → Decided h.core.ledger x.1 x.2
  undecided : ∀ c ∈ h.core.executions, c.kind = .programCommit →
    (∃ s, (c, s) ∈ h.ended) ∨ Undecided h.core.ledger c

theorem Sound.initial (paused writeLock : Bool) : Sound (Hosted.initial paused writeLock) where
  inv := initial_inv paused writeLock
  position := by rintro s ⟨⟩
  running := by rintro s c ⟨⟩
  invoked := by rintro x ⟨⟩
  decided := by rintro x ⟨⟩
  undecided := by rintro c ⟨⟩

theorem ending_work {a : Core} {o : Choice} {s : Session} {c : CommandMessage}
    (hs : a.session = some s) (hw : s.worker = .executing c) (hkind : c.kind.isProgram = true) :
    ending a (.work o) = some c := by
  simp [ending, hs, hw, hkind]

theorem step_position (cfg : Config) {a : Core}
    (hposition : ∀ s, a.session = some s → Position a.ledger s.worker) (e : Event) :
    ∀ s, (step cfg a e).session = some s → Position (step cfg a e).ledger s.worker := by
  rcases step_kinds cfg e hposition with ⟨o, s, c, -, -, -, hstep⟩ | rfl | hkeeps
  · intro s' hs'
    rw [hstep] at hs'
    rw [finishCommand_idle.2 s' hs']
    trivial
  · rintro s ⟨⟩
  · exact hkeeps.position

/-- A step invokes the executor for the command at which it leaves the worker, or for none. -/
theorem step_executions {cfg : Config} {a : Core}
    (hposition : ∀ s, a.session = some s → Position a.ledger s.worker) (e : Event) :
    (step cfg a e).executions = a.executions ∨
      ∃ s c, (step cfg a e).session = some s ∧ s.worker = .executing c ∧
        (step cfg a e).executions = a.executions ++ [c] := by
  rcases step_kinds cfg e hposition with ⟨o, s, c, -, -, -, hstep⟩ | rfl | hkeeps
  · rw [hstep]
    exact Or.inl finishCommand_idle.1
  · exact Or.inl rfl
  · exact hkeeps.executions

/-- A running command goes on running, or has just been invoked. -/
theorem step_running {cfg : Config} {a : Core}
    (hposition : ∀ s, a.session = some s → Position a.ledger s.worker) (e : Event)
    {s : Session} {c : CommandMessage} (hs : (step cfg a e).session = some s)
    (hw : s.worker = .executing c) :
    (∃ s₀, a.session = some s₀ ∧ s₀.worker = .executing c ∧
      (step cfg a e).executions = a.executions) ∨
      (step cfg a e).executions = a.executions ++ [c] := by
  rcases step_kinds cfg e hposition with ⟨o, s₀, c₀, -, -, -, hstep⟩ | rfl | hkeeps
  · rw [hstep] at hs
    rw [finishCommand_idle.2 s hs] at hw
    cases hw
  · cases hs
  · exact hkeeps.running s c hs hw

/-- The entry that an ended execution leaves. -/
theorem decided_finish {cfg : Config} {o : Choice} {a : Core} {s : Session} {c : CommandMessage}
    {around : Surroundings} (hposition : Position a.ledger (.executing c))
    (hkind : c.kind = .programCommit) :
    Decided (finishCommand cfg { o with execution := executionOf (execute around c) } a s c).ledger
      c around := by
  obtain ⟨e, he, hstarted, hownKind⟩ := hposition
  have hcommit : e.kind = .programCommit := by rw [hownKind, hkind]; rfl
  rcases finishCommand_ledger cfg { o with execution := executionOf (execute around c) } s he
    hstarted with
    ⟨hledger, value, hvalue⟩ | ⟨result, errorCode, hledger⟩
  · refine ⟨e, by rw [hledger]; exact he, hcommit, Or.inr ⟨Or.inl hstarted, ?_⟩⟩
    unfold recordedState
    rw [show executionOf (execute around c) = .result value from hvalue]
    rfl
  · refine ⟨Ledger.moved (executionRecord c.kind (executionOf (execute around c))).1 result
      errorCode e, ?_, hcommit, Or.inl ?_⟩
    · rw [hledger, Table.get?_modify, if_pos rfl, he]
      rfl
    · show (executionRecord c.kind (executionOf (execute around c))).1 = recordedState around c
      rw [hkind]
      rfl

theorem Sound.next {h : Hosted} (hs : Sound h) (cfg : Config) (e : Event × Surroundings) :
    Sound (hostedStep cfg h e) := by
  obtain ⟨event, around⟩ := e
  have hposition := hs.position
  -- whether a Program execution ends decides which commit the step is about
  cases hending : ending h.core event with
  | none =>
      have hcore : (hostedStep cfg h (event, around)).core = step cfg h.core event := by
        show step cfg h.core (resolved h.core event around) = _
        rw [resolved_none hending]
      have hended : (hostedStep cfg h (event, around)).ended = h.ended := by
        simp [hostedStep, hending]
      have hkept : ∀ k, CommitKept h.core.ledger (step cfg h.core event).ledger k := by
        intro k
        refine commitKept_step hs.inv hposition event ?_
        rintro s c ⟨o, rfl⟩ hsession hw hkind
        rw [ending_work hsession hw (by rw [hkind]; rfl)] at hending
        cases hending
      have hnext := hs.inv.step cfg event
      refine ⟨?_, ?_, ?_, ?_, ?_, ?_⟩
      · rw [hcore]
        exact hnext
      · rw [hcore]
        exact step_position cfg hposition event
      · rw [hcore, hended]
        intro s c hsession hw
        rcases step_running hposition event hsession hw with ⟨s₀, hs₀, hw₀, hsame⟩ | hnew
        · rw [hsame]
          exact hs.running s₀ c hs₀ hw₀
        · have honce := hnext.once
          rw [hnew, List.map_append, List.nodup_append] at honce
          refine ⟨by rw [hnew]; simp, fun x hx hid => ?_⟩
          refine honce.2.2 _ (List.mem_map_of_mem (hs.invoked x hx)) c.commandId ?_ hid
          simp
      · rw [hcore, hended]
        intro x hx
        rcases step_executions hposition event with hsame | ⟨_, c, -, -, hnew⟩
        · rw [hsame]
          exact hs.invoked x hx
        · rw [hnew]
          exact List.mem_append_left _ (hs.invoked x hx)
      · rw [hcore, hended]
        intro x hx hkind
        exact (hs.decided x hx hkind).kept (hkept _)
      · rw [hcore, hended]
        intro c hc hkind
        rcases step_executions hposition event with hsame | ⟨s, c', hsession, hw, hnew⟩
        · rw [hsame] at hc
          exact (hs.undecided c hc hkind).imp_right fun hopen => hopen.kept (hkept _)
        · rw [hnew, List.mem_append, List.mem_singleton] at hc
          rcases hc with hc | rfl
          · exact (hs.undecided c hc hkind).imp_right fun hopen => hopen.kept (hkept _)
          · right
            have hat := step_position cfg hposition event s hsession
            rw [hw] at hat
            obtain ⟨own, hown, hstarted, hownKind⟩ := hat
            exact ⟨own, hown, by rw [hownKind, hkind]; rfl, Or.inl hstarted⟩
  | some c =>
      obtain ⟨o, s, rfl, hsession, hw, -⟩ := ending_some hending
      have hat : Position h.core.ledger (.executing c) := hw ▸ hposition s hsession
      have hresolved : resolved h.core (.work o) around =
          .work { o with execution := executionOf (execute around c) } := by
        simp [resolved, hending]
      have hcore : (hostedStep cfg h (.work o, around)).core =
          finishCommand cfg { o with execution := executionOf (execute around c) } h.core s c := by
        show step cfg h.core (resolved h.core (.work o) around) = _
        rw [hresolved]
        simp [step, Core.onSession, hsession, work, hw]
      have hended : (hostedStep cfg h (.work o, around)).ended = h.ended ++ [(c, around)] := by
        simp [hostedStep, hending]
      have hkept : ∀ k, k ≠ c.commandId →
          CommitKept h.core.ledger (hostedStep cfg h (.work o, around)).core.ledger k := by
        intro k hk
        show CommitKept h.core.ledger
          (step cfg h.core (resolved h.core (.work o) around)).ledger k
        refine commitKept_step hs.inv hposition _ ?_
        rintro s' c' - hsession' hw' -
        rw [hsession] at hsession'
        cases hsession'
        rw [hw] at hw'
        cases hw'
        exact Ne.symm hk
      obtain ⟨hinvoked, hfresh⟩ := hs.running s c hsession hw
      refine ⟨hs.inv.step cfg _, ?_, ?_, ?_, ?_, ?_⟩
      · exact step_position cfg hposition _
      · rw [hcore]
        intro s' c' hs' hw'
        rw [finishCommand_idle.2 s' hs'] at hw'
        cases hw'
      · rw [hcore, hended, finishCommand_idle.1]
        intro x hx
        rw [List.mem_append, List.mem_singleton] at hx
        rcases hx with hx | rfl
        · exact hs.invoked x hx
        · exact hinvoked
      · rw [hended]
        intro x hx hkind
        rw [List.mem_append, List.mem_singleton] at hx
        rcases hx with hx | rfl
        · exact (hs.decided x hx hkind).kept (hkept _ (hfresh x hx))
        · rw [hcore]
          exact decided_finish hat hkind
      · intro c' hc' hkind
        rw [hcore, finishCommand_idle.1] at hc'
        rw [hended]
        by_cases hid : c'.commandId = c.commandId
        · obtain rfl : c' = c := List.inj_on_of_nodup_map hs.inv.once hc' hinvoked hid
          exact Or.inl ⟨around, by simp⟩
        · rcases hs.undecided c' hc' hkind with ⟨s', hs'⟩ | hopen
          · exact Or.inl ⟨s', List.mem_append_left _ hs'⟩
          · exact Or.inr (hopen.kept (hkept _ hid))

theorem run_sound (cfg : Config) (paused writeLock : Bool) (es : List (Event × Surroundings)) :
    Sound (runFrom (hostedStep cfg) (Hosted.initial paused writeLock) es) :=
  runFrom_invariant Sound (fun _ e h => h.next cfg e) (Sound.initial paused writeLock) es

/-- **Commits that reached the drawing are never reported as failed exactly when every answer of
the Host to a commit that it carried out is recognised.** -/
theorem commits_never_failed_iff (cfg : Config) (paused writeLock : Bool)
    (es : List (Event × Surroundings)) :
    let h := runFrom (hostedStep cfg) (Hosted.initial paused writeLock) es
    h.NeverFailed ↔
      ∀ x ∈ h.ended, x.1.kind = .programCommit → CarriedOut x.2 x.1 → Recognised x.2 := by
  intro h
  have hsound : Sound h := run_sound cfg paused writeLock es
  constructor
  · intro hnever x hx hkind hdone
    by_contra hunrecognised
    have hfailed := (recordedState_failed_iff hkind hdone).mpr hunrecognised
    obtain ⟨e, he, hstate, -⟩ := hnever.carriedOut x hx hkind hdone
    obtain ⟨e', he', -, hrecorded | ⟨-, hsucceeded⟩⟩ := hsound.decided x hx hkind
    · rw [he] at he'
      cases he'
      exact hstate (hrecorded.trans hfailed)
    · rw [hfailed] at hsucceeded
      cases hsucceeded
  · intro hrecognised
    refine ⟨?_, ?_⟩
    · intro x hx hkind hdone
      have hnot : recordedState x.2 x.1 ≠ .failed := fun hfailed =>
        (recordedState_failed_iff hkind hdone).mp hfailed (hrecognised x hx hkind hdone)
      obtain ⟨e, he, hcommit, hstate⟩ := hsound.decided x hx hkind
      have hcases : e.state = .succeeded ∨ e.state = .outcomeUnknown ∨ e.state = .started := by
        rcases hstate with h | ⟨h | h, -⟩
        · rcases recordedState_terminal x.2 x.1 with hr | hr | hr
          · exact Or.inl (h.trans hr)
          · exact Or.inr (Or.inl (h.trans hr))
          · exact absurd hr hnot
        · exact Or.inr (Or.inr h)
        · exact Or.inr (Or.inl h)
      refine ⟨e, he, ?_, ?_⟩
      · rcases hcases with h | h | h <;> rw [h] <;> decide
      · rcases hcases with h | h | h
        · rw [recovered_open (by rw [h]; decide)]
          exact Or.inl h
        · rw [recovered_open (by rw [h]; decide)]
          exact Or.inr h
        · rw [recovered_program h (by rw [hcommit]; rfl), hcommit]
          exact Or.inr rfl
    · intro c hc hkind e he hfailed
      rcases hsound.undecided c hc hkind with ⟨s, hs⟩ | ⟨e', he', -, hstate⟩
      · refine ⟨s, hs, ?_⟩
        obtain ⟨e', he', -, hrecorded | ⟨hopen, -⟩⟩ := hsound.decided (c, s) hs hkind
        · rw [he] at he'
          cases he'
          exact notExecuted_of_failed hkind (hrecognised (c, s) hs hkind)
            (hrecorded.symm.trans hfailed)
        · rw [he] at he'
          cases he'
          rw [hfailed] at hopen
          rcases hopen with h | h <;> cases h
      · rw [he] at he'
        cases he'
        rw [hfailed] at hstate
        rcases hstate with h | h <;> cases h

/-! ## An answer with another effect identity -/

def commitCommand : CommandMessage :=
  ⟨7, 1, 2, 3, 4, 0, .programCommit, .write, none,
    .obj [("document_id", .str "drawing"), ("document_revision", .str "1")], .obj []⟩

def samplePlan : VerifiedPhase8Plan where
  executionPlanDigest := "plan"
  effectManifestDigest := "effect"
  targetRefsDigest := "target"
  hardBudgetsDigest := "budget"
  rolloutPolicyDigest := "rollout"
  effectIdentityDigest := some "identity"
  modifiesEntities := false

/-- The answer to a commit that the Host carried out, with an effect identity. -/
def answerWith (identity : String) : HostResult where
  ok := true
  payload := some (.object
    [("execution_plan_digest".toList, .string "plan".toList),
     ("effect_manifest_digest".toList, .string "effect".toList),
     ("target_refs_digest".toList, .string "target".toList),
     ("hard_budgets_digest".toList, .string "budget".toList),
     ("rollout_policy_digest".toList, .string "rollout".toList),
     ("effect_identity_digest".toList, .string identity.toList),
     ("milestone".toList, .string "effect_and_receipt_committed".toList)])

def meeting (answer : HostResult) : Surroundings where
  plan := some (.ok samplePlan)
  health := .ok
    { ok := true
      payload := some (.object [("document_id".toList, .string "drawing".toList),
        ("document_revision".toList, .number "1".toList)]) }
  revisionText
    | .number raw => raw
    | _ => []
  answer := some answer

/-- The commit is delivered, accepted, started and executed. -/
def commitRun (answer : HostResult) : List (Event × Surroundings) :=
  [.connect 7, .receive (.command commitCommand), .work {}, .work {}, .work {}].map
    fun e => (e, meeting answer)

/-- The Host committed, and its answer names another effect identity: the entry is `failed`. -/
theorem foreign_identity_recorded_failed :
    ¬ (runFrom (hostedStep labConfig) (Hosted.initial false true)
      (commitRun (answerWith "another"))).NeverFailed := by
  intro h
  have hrun : ((runFrom (hostedStep labConfig) (Hosted.initial false true)
      (commitRun (answerWith "another"))).core.ledger.get? 3).map LedgerEntry.state =
      some .failed := by
    decide +kernel
  have hdone : CarriedOut (meeting (answerWith "another")) commitCommand := by
    exact ⟨some samplePlan, answerWith "another", rfl, rfl, rfl⟩
  have hended : (runFrom (hostedStep labConfig) (Hosted.initial false true)
      (commitRun (answerWith "another"))).ended =
      [(commitCommand, meeting (answerWith "another"))] := rfl
  obtain ⟨e, he, hstate, -⟩ := h.carriedOut (commitCommand, meeting (answerWith "another"))
    (by rw [hended]; exact List.mem_singleton_self _) rfl hdone
  rw [show commitCommand.commandId = 3 from rfl] at he
  rw [he] at hrun
  exact hstate (Option.some.inj hrun)

end AutocadMcp.Agent
