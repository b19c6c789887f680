import AutocadMcp.Agent.CommitReports

/-!
# Sessions that end while a command is executing

When a session ends its worker is cancelled at the await where it is suspended. What the
handlers write after the executor returns is then never written, and only a restart looks at
entries that were left `started`. While no session ends under an executing command, the entries
that say `started` are those of the command at which the worker is suspended.
-/

namespace AutocadMcp.Agent

/-! ## What the handlers start -/

/-- Whatever is started after was started before. -/
def StartsNothing (l l' : Ledger) : Prop :=
  ∀ k e', l'.get? k = some e' → e'.state = .started →
    ∃ e, l.get? k = some e ∧ e.state = .started

section

variable {l l' l'' : Ledger}

theorem StartsNothing.refl (l : Ledger) : StartsNothing l l := fun _ e he hs => ⟨e, he, hs⟩

theorem StartsNothing.trans (h : StartsNothing l l') (h' : StartsNothing l' l'') :
    StartsNothing l l'' := by
  intro k e'' he'' hs''
  obtain ⟨e', he', hs'⟩ := h' k e'' he'' hs''
  exact h k e' he' hs'

theorem Quiet.startsNothing (h : Quiet l l') : StartsNothing l l' := by
  intro k e' he' hs'
  obtain ⟨e, he, -, hs⟩ := h k e' he'
  exact ⟨e, he, hs hs'⟩

/-- A new entry is `received`. -/
theorem startsNothing_recordReceived {a : Received} {r : LedgerEntry × Bool}
    (h : l.recordReceived a = .ok (r, l')) : StartsNothing l l' := by
  obtain ⟨e, created⟩ := r
  rcases Ledger.recordReceived_ok h with ⟨-, rfl, -⟩ | ⟨-, -, hinsert, -⟩
  · exact StartsNothing.refl _
  · intro k own hown hs
    rw [Table.get?_insert hinsert] at hown
    split at hown
    · cases hown
      cases hs
    · exact ⟨own, hown, hs⟩

end

section

variable {cfg : Config} {a : Core} {s : Session} {c : CommandMessage}

theorem startsNothing_refuse {code : String} :
    StartsNothing a.ledger (a.refuse cfg s c code).ledger := by
  unfold Core.refuse
  split
  · exact StartsNothing.refl _
  · rename_i entry l hl
    exact (quiet_transition hl (by decide)).startsNothing

theorem startsNothing_handleCommand (o : Choice) :
    StartsNothing a.ledger (handleCommand cfg o a s c).ledger := by
  unfold handleCommand
  split
  · exact StartsNothing.refl _
  split
  · exact StartsNothing.refl _
  split
  · exact StartsNothing.refl _
  · rename_i entry created l hl
    refine (startsNothing_recordReceived hl).trans ?_
    dsimp only
    split
    · exact StartsNothing.refl _
    split
    · exact StartsNothing.refl _
    split
    · exact StartsNothing.refl _
    split
    · exact StartsNothing.refl _
    · exact StartsNothing.refl _
    · split
      · exact StartsNothing.refl _
      · rename_i e l2 hl2
        exact (quiet_transition hl2 (by decide)).startsNothing

theorem startsNothing_handleTypedCommand (hasExecutor : Bool) (o : Choice) :
    StartsNothing a.ledger (handleTypedCommand cfg hasExecutor o a s c).ledger := by
  unfold handleTypedCommand
  split
  · exact StartsNothing.refl _
  split
  · exact StartsNothing.refl _
  · exact StartsNothing.refl _
  · rename_i entry created l hl
    refine (startsNothing_recordReceived hl).trans ?_
    dsimp only
    split
    · exact StartsNothing.refl _
    split
    · exact StartsNothing.refl _
    split
    · exact StartsNothing.refl _
    split
    · exact startsNothing_refuse (a := { a with ledger := l })
    split
    · exact startsNothing_refuse (a := { a with ledger := l })
    split
    · exact StartsNothing.refl _
    · exact startsNothing_refuse (a := { a with ledger := l })
    · split
      · split
        · exact StartsNothing.refl _
        · rename_i e l2 hl2
          have hquiet := (quiet_transition hl2 (by decide)).startsNothing
          split
          · exact hquiet
          · exact hquiet
      · exact StartsNothing.refl _

theorem startsNothing_beginCommand (o : Choice) :
    StartsNothing a.ledger (beginCommand cfg o a s c).ledger := by
  unfold beginCommand
  split
  · exact startsNothing_handleTypedCommand _ o
  split
  · exact startsNothing_handleTypedCommand _ o
  · exact startsNothing_handleCommand o

theorem startsNothing_handleCancel (m : CancelMessage) :
    StartsNothing a.ledger (handleCancel cfg a s m).ledger := by
  unfold handleCancel
  split
  · exact StartsNothing.refl _
  split
  · exact StartsNothing.refl _
  split
  · exact StartsNothing.refl _
  · dsimp only
    have hflagged := (quiet_requestCancel (l := a.ledger) m.commandId).startsNothing
    split
    · split
      · exact hflagged
      · rename_i entry l hl
        exact hflagged.trans (quiet_transition hl (by decide)).startsNothing
    · exact hflagged

theorem startsNothing_receive (message : GatewayMessage) :
    StartsNothing a.ledger (receive cfg a s message).ledger := by
  unfold receive
  split
  · split
    · exact StartsNothing.refl _
    split <;> exact StartsNothing.refl _
  · split <;> exact StartsNothing.refl _
  · exact startsNothing_handleCancel _

/-- The worker starts a command after its acceptance only. -/
theorem startsNothing_work (o : Choice) (hexecuting : ∀ c, s.worker ≠ .executing c)
    (haccepting : ∀ c, s.worker ≠ .accepting c) :
    StartsNothing a.ledger (work cfg o a s).ledger := by
  unfold work
  split
  · split
    · exact StartsNothing.refl _
    · exact startsNothing_beginCommand o
  · exact StartsNothing.refl _
  · split
    · exact StartsNothing.refl _
    · rename_i entry l hl
      exact (quiet_transition hl (by decide)).startsNothing
  · exact StartsNothing.refl _
  · rename_i c hw
    exact absurd hw (haccepting c)
  · rename_i c hw
    exact absurd hw (hexecuting c)
  · exact StartsNothing.refl _

end

/-! ## Where a handler is cut -/

/-- A task of the session raises, or the session is lost, while the worker is suspended in an
execution of this kind. -/
def endsSession (cfg : Config) (a : Core) (s : Session) (k : JobKind) : Event → Prop
  | .sessionLost => True
  | .receive (.command c) => c.sessionId ≠ s.sessionId ∨ c.deviceId ≠ cfg.deviceId
  | .receive (.reconcile m) => m.sessionId ≠ s.sessionId ∨ m.deviceId ≠ cfg.deviceId
  | .receive (.cancel m) =>
      (m.sessionId ≠ s.sessionId ∨ m.deviceId ≠ cfg.deviceId) ∨
        ∃ e, a.ledger.get? m.commandId = some e ∧ (e.jobId ≠ m.jobId ∨ e.deviceId ≠ m.deviceId)
  | .work o => evidenceBeforeRecord k o = true
  | _ => False

/-- The entry of the command is not terminal yet. -/
def Unfinished (l : Ledger) (k : CommandId) : Prop :=
  ∃ e, l.get? k = some e ∧ e.state.isTerminal = false

/-- The session ends under the executing command, or the command is marked started and the append
of that fact to the evidence raises. -/
def Interrupts (cfg : Config) (a : Core) (e : Event) (c : CommandMessage) : Prop :=
  ∃ s, a.session = some s ∧
    (s.worker = .executing c ∧ endsSession cfg a s c.kind e ∨
      s.worker = .accepting c ∧ Unfinished a.ledger c.commandId ∧
        ∃ o, e = .work o ∧ isTyped c.kind = true ∧ o.evidenceRaises 3 = true)

/-- The handler of the command ends with its session after the command was marked started and
before an outcome of it is recorded. -/
def Cuts (cfg : Config) (a : Core) (e : Event) (c : CommandMessage) : Prop :=
  (∃ s, a.session = some s ∧ (s.worker = .executing c ∨ s.worker = .accepting c)) ∧
    (step cfg a e).session = none ∧
    ∃ own, (step cfg a e).ledger.get? c.commandId = some own ∧ own.state = .started

/-- A task executes the command, and whatever the executor returns its outcome is recorded. -/
def Live (cfg : Config) (a : Core) (k : CommandId) : Prop :=
  ∃ s c, a.session = some s ∧ s.worker = .executing c ∧ c.commandId = k ∧
    ∀ o, evidenceBeforeRecord c.kind o = false →
      ∃ e, (step cfg a (.work o)).ledger.get? k = some e ∧
        e.state = (executionRecord c.kind o.execution).1

/-- A started entry is the one at which the worker is suspended. -/
def StartedLive (a : Core) : Prop :=
  ∀ k e, a.ledger.get? k = some e → e.state = .started →
    ∃ s c, a.session = some s ∧ s.worker = .executing c ∧ c.commandId = k

/-- The worker is suspended at a command that has the entry of its position. -/
def WellPlaced (a : Core) : Prop :=
  ∀ s, a.session = some s → Position a.ledger s.worker

/-! ## One step -/

section

variable {cfg : Config} {a : Core} {s : Session} {c : CommandMessage}

theorem StartedLive.calm {a' : Core} (hstarts : StartsNothing a.ledger a'.ledger)
    (hnone : ∀ k e, a.ledger.get? k = some e → e.state ≠ .started) : StartedLive a' := by
  intro k e' he' hs'
  obtain ⟨e, he, hs⟩ := hstarts k e' he' hs'
  exact absurd hs (hnone k e he)

theorem StartedLive.none_started (h : StartedLive a)
    (hidle : ∀ s c, a.session = some s → s.worker ≠ .executing c) :
    ∀ k e, a.ledger.get? k = some e → e.state ≠ .started := by
  intro k e he hs
  obtain ⟨s, c, hsession, hw, -⟩ := h k e he hs
  exact hidle s c hsession hw

theorem StartedLive.stays {a' : Core} {s' : Session} (h : StartedLive a)
    (hstarts : StartsNothing a.ledger a'.ledger) (hs : a.session = some s)
    (hs' : a'.session = some s') (hw : s'.worker = s.worker) : StartedLive a' := by
  intro k e' he' hstarted'
  obtain ⟨e, he, hstarted⟩ := hstarts k e' he' hstarted'
  obtain ⟨s₀, c, hs₀, hw₀, hid⟩ := h k e he hstarted
  rw [hs] at hs₀
  cases hs₀
  exact ⟨s', c, hs', hw.trans hw₀, hid⟩

/-- Where no task of the session raises, the receiver leaves the worker where it is. -/
theorem receive_session {k : JobKind} {message : GatewayMessage} (hs : a.session = some s)
    (hends : ¬ endsSession cfg a s k (.receive message)) :
    ∃ s', (receive cfg a s message).session = some s' ∧ s'.worker = s.worker := by
  unfold receive
  cases message with
  | command c =>
      have hbinding : ¬ (c.sessionId ≠ s.sessionId ∨ c.deviceId ≠ cfg.deviceId) := hends
      dsimp only
      rw [if_neg hbinding]
      split
      · exact ⟨s, hs, rfl⟩
      · exact ⟨_, rfl, rfl⟩
  | reconcile m =>
      have hbinding : ¬ (m.sessionId ≠ s.sessionId ∨ m.deviceId ≠ cfg.deviceId) := hends
      dsimp only
      rw [if_neg hbinding]
      exact ⟨_, rfl, rfl⟩
  | cancel m =>
      obtain ⟨hbinding, hentry⟩ := not_or.mp hends
      dsimp only
      unfold handleCancel
      rw [if_neg hbinding]
      cases he : a.ledger.get? m.commandId with
      | none => exact ⟨s, hs, rfl⟩
      | some e =>
          dsimp only
          rw [if_neg fun h => hentry ⟨e, he, h⟩]
          split
          · rename_i hearly
            -- an early entry can always be cancelled
            have hflagged : (a.ledger.requestCancel m.commandId).get? m.commandId =
                some (Ledger.flagged e) := by
              unfold Ledger.requestCancel
              rw [Table.get?_modify, if_pos rfl, he]
              rfl
            have hopen : (Ledger.flagged e).state = .received ∨
                (Ledger.flagged e).state = .accepted := hearly
            unfold Ledger.transition
            rw [hflagged]
            dsimp only
            rcases hopen with hopen | hopen <;> rw [hopen] <;> exact ⟨s, hs, rfl⟩
          · exact ⟨s, hs, rfl⟩

/-- A command is marked started right before the executor is invoked. -/
theorem startCommand_live (o : Choice) (hopen : StartedLive a) (hs : a.session = some s)
    (hw : s.worker = .accepting c) (hends : ¬ Interrupts cfg a (.work o) c) :
    StartedLive (startCommand o a s c) := by
  have hnone := hopen.none_started fun s' c' hs' hw' => by
    rw [hs] at hs'
    cases hs'
    rw [hw] at hw'
    cases hw'
  unfold startCommand
  split
  · exact .calm (StartsNothing.refl _) hnone
  · rename_i entry l hl
    rcases Ledger.transition_ok hl with ⟨-, hterm, -, hstate, -⟩ |
      ⟨current, hget, hunfinished, -, -, rfl⟩
    · rw [hstate] at hterm
      cases hterm
    · rw [if_neg fun hraises => hends ⟨s, hs, Or.inr ⟨hw, ⟨current, hget, hunfinished⟩, o, rfl,
        hraises.1, hraises.2⟩⟩]
      intro k e he hstarted
      change (a.ledger.modify c.commandId (Ledger.moved .started none none)
        (Ledger.moved_commandId .started none none)).get? k = some e at he
      rw [Table.get?_modify] at he
      by_cases hk : k = c.commandId
      · exact ⟨{ s with worker := .executing c }, c, rfl, rfl, hk.symm⟩
      · rw [if_neg hk] at he
        exact absurd hstarted (hnone k e he)

/-- After an execution whose outcome is recorded nothing is started. -/
theorem finishCommand_live (o : Choice) (hlive : StartedLive a) (hplaced : WellPlaced a)
    (hs : a.session = some s) (hw : s.worker = .executing c)
    (hevidence : evidenceBeforeRecord c.kind o = false) :
    StartedLive (finishCommand cfg o a s c) := by
  have hat : Position a.ledger (.executing c) := hw ▸ hplaced s hs
  obtain ⟨own, hown, hstarted, -⟩ := hat
  obtain ⟨result, errorCode, hledger⟩ := finishCommand_records cfg s hown hstarted hevidence
  intro k e he hstate
  rw [hledger, Table.get?_modify] at he
  by_cases hk : k = c.commandId
  · rw [if_pos hk, Option.map_eq_some_iff] at he
    obtain ⟨old, -, rfl⟩ := he
    have hterminal := executionRecord_terminal c.kind o.execution
    rw [show (executionRecord c.kind o.execution).1 = .started from hstate] at hterminal
    cases hterminal
  · rw [if_neg hk] at he
    obtain ⟨s', c', hs', hw', hid⟩ := hlive k e he hstate
    rw [hs] at hs'
    cases hs'
    rw [hw] at hw'
    cases hw'
    exact absurd hid.symm hk

/-- A step that cuts no handler leaves only the executing command started. -/
theorem StartedLive.step (hlive : StartedLive a) (hplaced : WellPlaced a) {e : Event}
    (hrestart : e ≠ .restart) (hends : ∀ c, ¬ Interrupts cfg a e c) :
    StartedLive (step cfg a e) := by
  cases hs : a.session with
  | none =>
      have hnone := hlive.none_started fun s c hs' => by rw [hs] at hs'; cases hs'
      have hcalm : ∀ a' : Core, a'.ledger = a.ledger → StartedLive a' := fun a' hledger =>
        .calm (hledger ▸ StartsNothing.refl _) hnone
      cases e with
      | restart => exact absurd rfl hrestart
      | connect sessionId =>
          unfold Agent.step
          rw [hs]
          exact hcalm _ rfl
      | receive message =>
          unfold Agent.step Core.onSession
          rw [hs]
          exact hlive
      | work o =>
          unfold Agent.step Core.onSession
          rw [hs]
          exact hlive
      | answer =>
          unfold Agent.step Core.onSession
          rw [hs]
          exact hlive
      | _ => exact hcalm _ rfl
  | some s =>
      have hcalm : ∀ a' : Core, StartsNothing a.ledger a'.ledger →
          (∀ c, s.worker ≠ .executing c) → StartedLive a' := by
        intro a' hstarts hidle
        refine .calm hstarts (hlive.none_started fun s' c hs' => ?_)
        rw [hs] at hs'
        cases hs'
        exact hidle c
      cases e with
      | restart => exact absurd rfl hrestart
      | connect sessionId =>
          unfold Agent.step
          rw [hs]
          exact hlive
      | receive message =>
          unfold Agent.step Core.onSession
          rw [hs]
          dsimp only
          by_cases hexecuting : ∃ c, s.worker = .executing c
          · obtain ⟨c, hw⟩ := hexecuting
            have hkept : ¬ endsSession cfg a s c.kind (.receive message) := fun h =>
              hends c ⟨s, hs, Or.inl ⟨hw, h⟩⟩
            obtain ⟨s', hs', hw'⟩ := receive_session hs hkept
            exact hlive.stays (startsNothing_receive message) hs hs' hw'
          · exact hcalm _ (startsNothing_receive message) (not_exists.mp hexecuting)
      | work o =>
          unfold Agent.step Core.onSession
          rw [hs]
          dsimp only
          by_cases hexecuting : ∃ c, s.worker = .executing c
          · obtain ⟨c, hw⟩ := hexecuting
            have hevidence : evidenceBeforeRecord c.kind o = false := by
              rw [← Bool.not_eq_true]
              exact fun h => hends c ⟨s, hs, Or.inl ⟨hw, h⟩⟩
            rw [show work cfg o a s = finishCommand cfg o a s c by simp [work, hw]]
            exact finishCommand_live o hlive hplaced hs hw hevidence
          · by_cases haccepting : ∃ c, s.worker = .accepting c
            · obtain ⟨c, hw⟩ := haccepting
              rw [show work cfg o a s = startCommand o a s c by simp [work, hw]]
              exact startCommand_live o hlive hs hw (hends c)
            · exact hcalm _ (startsNothing_work o (not_exists.mp hexecuting)
                (not_exists.mp haccepting)) (not_exists.mp hexecuting)
      | answer =>
          unfold Agent.step Core.onSession
          rw [hs]
          dsimp only
          unfold answer
          split
          · exact hlive
          · rename_i d rest _
            exact hlive.stays (StartsNothing.refl _) hs
              (show _ = some { s with receiver := rest } from rfl) rfl
      | sessionLost =>
          refine hcalm _ (StartsNothing.refl _) fun c hw => ?_
          exact hends c ⟨s, hs, Or.inl ⟨hw, trivial⟩⟩
      | setPaused paused => exact hlive.stays (StartsNothing.refl _) hs hs rfl
      | setWriteLock enabled => exact hlive.stays (StartsNothing.refl _) hs hs rfl

/-- An interruption leaves the entry started and no session. -/
theorem Interrupts.cuts (hplaced : WellPlaced a) {e : Event} (h : Interrupts cfg a e c) :
    Cuts cfg a e c := by
  obtain ⟨s, hs, ⟨hw, hends⟩ | ⟨hw, ⟨own, hown, hunfinished⟩, o, rfl, htyped, hraises⟩⟩ := h
  · have hat : Position a.ledger (.executing c) := hw ▸ hplaced s hs
    obtain ⟨own, hown, hstarted, -⟩ := hat
    have hdropped : step cfg a e = a.drop := by
      cases e with
      | sessionLost => rfl
      | receive message =>
          simp only [Agent.step, Core.onSession, hs]
          cases message with
          | command m =>
              unfold receive
              exact if_pos hends
          | reconcile m =>
              unfold receive
              exact if_pos hends
          | cancel m =>
              unfold receive handleCancel
              dsimp only
              rcases hends with hbinding | ⟨entry, hentry, hmismatch⟩
              · rw [if_pos hbinding]
              · split
                · rfl
                · rw [hentry]
                  exact if_pos hmismatch
      | work o =>
          simp only [Agent.step, Core.onSession, hs, work, hw]
          unfold finishCommand
          exact if_pos hends
      | _ => exact hends.elim
    refine ⟨⟨s, hs, Or.inl hw⟩, ?_, own, ?_, hstarted⟩
    · rw [hdropped]
      rfl
    · rw [hdropped]
      exact hown
  · have hat : Position a.ledger (.accepting c) := hw ▸ hplaced s hs
    obtain ⟨hnotStarted, -⟩ := hat own hown
    have hmove : a.ledger.transition c.commandId .started none none =
        .ok (Ledger.moved .started none none own,
          a.ledger.modify c.commandId (Ledger.moved .started none none)
            (Ledger.moved_commandId .started none none)) := by
      unfold Ledger.transition
      rw [hown]
      dsimp only
      rw [if_neg (by simp [hunfinished]), if_neg]
      revert hunfinished
      cases own.state <;> simp [LedgerState.isTerminal, LedgerState.order]
    have hledger : (step cfg a (.work o)).ledger =
        a.ledger.modify c.commandId (Ledger.moved .started none none)
          (Ledger.moved_commandId .started none none) := by
      simp only [Agent.step, Core.onSession, hs, work, hw, startCommand, hmove]
      rw [if_pos ⟨htyped, hraises⟩]
      rfl
    have hsession : (step cfg a (.work o)).session = none := by
      simp only [Agent.step, Core.onSession, hs, work, hw, startCommand, hmove]
      rw [if_pos ⟨htyped, hraises⟩]
      rfl
    refine ⟨⟨s, hs, Or.inr hw⟩, hsession, Ledger.moved .started none none own, ?_, rfl⟩
    rw [hledger, Table.get?_modify, if_pos rfl, hown]
    rfl

/-- The worker that is suspended at a started command records its outcome. -/
theorem live_of_executing (hplaced : WellPlaced a) (hs : a.session = some s)
    (hw : s.worker = .executing c) : Live cfg a c.commandId := by
  have hat : Position a.ledger (.executing c) := hw ▸ hplaced s hs
  obtain ⟨own, hown, hstarted, -⟩ := hat
  refine ⟨s, c, hs, hw, rfl, fun o hevidence => ?_⟩
  obtain ⟨result, errorCode, hledger⟩ := finishCommand_records cfg s hown hstarted hevidence
  refine ⟨Ledger.moved (executionRecord c.kind o.execution).1 result errorCode own, ?_, rfl⟩
  have hstep : step cfg a (.work o) = finishCommand cfg o a s c := by
    simp only [Agent.step, Core.onSession, hs, work, hw]
  rw [hstep, hledger, Table.get?_modify, if_pos rfl, hown]
  rfl

end

/-! ## Runs of one process -/

/-- The next reconcile answer is about a command whose recorded payload hash differs from the
request's, and that is not executing. -/
def AnswersConflict (a : Core) (e : Event) : Prop :=
  e = .answer ∧ ∃ s d rest own, a.session = some s ∧ s.receiver = d :: rest ∧
    a.ledger.get? d.commandId = some own ∧ own.payloadHash ≠ d.payloadHash ∧
      ∀ c, s.worker = .executing c → c.commandId ≠ d.commandId

/-- The command is answered as terminal, a commit with an unknown outcome and any other command as
failed. -/
def AnsweredTerminal (cfg : Config) (l : Ledger) (c : CommandMessage) : Prop :=
  (∀ s d sequence, d.commandId = c.commandId → Describes l d →
    (reconcileAnswer cfg s l d sequence).status = .terminal) ∧
  ∃ e, l.get? c.commandId = some e ∧
    e.state = if hasCommitEffect c.kind then .outcomeUnknown else .failed

/-- Every answer `started` is about a command that a task executes, and every command whose handler
was cut is answered as terminal from then on. -/
structure NeverStrands (cfg : Config) (a : Core) (es : List Event) : Prop where
  started : Along (step cfg) (fun a e => e = .answer → ∀ s d rest sequence,
    a.session = some s → s.receiver = d :: rest →
      (reconcileAnswer cfg s a.ledger d sequence).status = .started → Live cfg a d.commandId) a es
  cut : ∀ pre e mid post c, es = pre ++ e :: mid ++ post →
    Cuts cfg (runFrom (step cfg) a pre) e c →
      AnsweredTerminal cfg (runFrom (step cfg) a (pre ++ e :: mid)).ledger c

section

variable {cfg : Config} {a : Core}

theorem wellPlaced_run (hplaced : WellPlaced a) (es : List Event) :
    WellPlaced (runFrom (step cfg) a es) :=
  runFrom_invariant WellPlaced (fun _ e h => step_position cfg h e) hplaced es

/-- A started entry is not answered as terminal. -/
theorem not_answeredTerminal {l : Ledger} {c : CommandMessage} {own : LedgerEntry}
    (hown : l.get? c.commandId = some own) (hstarted : own.state = .started) :
    ¬ AnsweredTerminal cfg l c := by
  rintro ⟨-, e, he, hstate⟩
  rw [hown] at he
  cases he
  rw [hstarted] at hstate
  split at hstate <;> cases hstate

/-- An answer `started` is about a started entry or about one with another payload hash. -/
theorem answer_started_cases {s : Session} {l : Ledger} {d : ReconcileCommandDescriptor}
    {sequence : Int} (h : (reconcileAnswer cfg s l d sequence).status = .started) :
    ∃ own, l.get? d.commandId = some own ∧
      (own.state = .started ∨ own.payloadHash ≠ d.payloadHash) := by
  cases hown : l.get? d.commandId with
  | none =>
      simp [reconcileAnswer, Ledger.reconcileStatus, hown] at h
  | some own =>
      refine ⟨own, rfl, ?_⟩
      by_cases hhash : own.payloadHash = d.payloadHash
      · have hdescribes : Describes l d := by
          intro e he
          rw [hown] at he
          cases he
          exact hhash
        obtain ⟨e, he, hstarted⟩ := answer_started hdescribes h
        rw [hown] at he
        cases he
        exact Or.inl hstarted
      · exact Or.inr hhash

theorem answer_conflict {s : Session} {l : Ledger} {d : ReconcileCommandDescriptor}
    {own : LedgerEntry} {sequence : Int} (hown : l.get? d.commandId = some own)
    (hhash : own.payloadHash ≠ d.payloadHash) :
    (reconcileAnswer cfg s l d sequence).status = .started := by
  simp [reconcileAnswer, Ledger.reconcileStatus, hown, hhash]

/-- **In every run of one process no command is stranded exactly when no session ends under an
executing command and no answer is about another payload.** -/
theorem never_strands_iff (cfg : Config) {a : Core} {es : List Event} (hsession : a.session = none)
    (hopen : ∀ k e, a.ledger.get? k = some e → e.state ≠ .started)
    (hrestart : ∀ e ∈ es, e ≠ .restart) :
    NeverStrands cfg a es ↔
      Along (step cfg) (fun a e => (∀ c, ¬ Interrupts cfg a e c) ∧ ¬ AnswersConflict a e) a es := by
  have hplaced : WellPlaced a := fun s hs => by
    rw [hsession] at hs
    cases hs
  have hlive : StartedLive a := fun k e he hs => absurd hs (hopen k e he)
  constructor
  · intro h
    rw [along_iff]
    rintro pre e post rfl
    have hplaced' : WellPlaced (runFrom (step cfg) a pre) := wellPlaced_run hplaced pre
    refine ⟨fun c hinterrupts => ?_, ?_⟩
    · -- the cut command is still started right after the step
      have hcuts := hinterrupts.cuts hplaced'
      obtain ⟨-, -, own, hown, hstarted⟩ := hcuts
      have hterminal := h.cut pre e [] post c (by simp) (hinterrupts.cuts hplaced')
      rw [runFrom_append] at hterminal
      exact not_answeredTerminal hown hstarted hterminal
    · rintro ⟨rfl, s, d, rest, own, hs, hreceiver, hown, hhash, hidle⟩
      obtain ⟨s', c, hs', hw, hid, -⟩ := along_iff.mp h.started pre .answer post rfl rfl s d rest 0
        hs hreceiver (answer_conflict hown hhash)
      rw [hs] at hs'
      cases hs'
      exact hidle c hw hid
  · intro h
    have hinv : ∀ pre post, es = pre ++ post → StartedLive (runFrom (step cfg) a pre) := by
      rintro pre post rfl
      have hkept : Along (step cfg) (fun a e => (∀ c, ¬ Interrupts cfg a e c) ∧ e ≠ .restart) a
          pre := by
        rw [along_iff]
        rintro pre' e post' rfl
        have hevent := along_iff.mp (along_append.mp h).1 pre' e post' rfl
        exact ⟨hevent.1, hrestart e (by simp)⟩
      have hend := hkept.invariant (fun b => WellPlaced b ∧ StartedLive b)
        (fun b e hb he => ⟨step_position cfg hb.1 e, hb.2.step hb.1 he.2 he.1⟩) ⟨hplaced, hlive⟩
      exact hend.2
    refine ⟨?_, ?_⟩
    · rw [along_iff]
      rintro pre e post hsplit rfl s d rest sequence hs hreceiver hanswer
      have hplaced' : WellPlaced (runFrom (step cfg) a pre) := wellPlaced_run hplaced pre
      have hkept := along_iff.mp h pre .answer post hsplit
      obtain ⟨own, hown, hstarted | hhash⟩ := answer_started_cases hanswer
      · obtain ⟨s', c, hs', hw, hid⟩ := hinv pre _ hsplit _ own hown hstarted
        rw [← hid]
        exact live_of_executing hplaced' hs' hw
      · by_cases hexecuting : ∃ c, s.worker = .executing c ∧ c.commandId = d.commandId
        · obtain ⟨c, hw, hid⟩ := hexecuting
          rw [← hid]
          exact live_of_executing hplaced' hs hw
        · refine absurd ⟨rfl, s, d, rest, own, hs, hreceiver, hown, hhash, ?_⟩ hkept.2
          exact fun c hw hid => hexecuting ⟨c, hw, hid⟩
    · rintro pre e mid post c hsplit ⟨-, hnone, own, hown, hstarted⟩
      -- no handler is cut, since a started entry always has a session
      have hafter := hinv (pre ++ [e]) (mid ++ post) (by simp [hsplit])
      rw [runFrom_append] at hafter
      obtain ⟨s, -, hs, -⟩ := hafter _ own hown hstarted
      rw [show runFrom (step cfg) (runFrom (step cfg) a pre) [e] =
        step cfg (runFrom (step cfg) a pre) e from rfl, hnone] at hs
      cases hs

end

/-! ## A rollback that loses its session -/

/-- The session is lost while the rollback executor runs; the Agent connects again and is asked
about the command. -/
def lostRollback : List Event :=
  [.connect 7, .receive (.command rollbackCommand), .work {}, .work {}, .sessionLost, .connect 8,
    .receive (.reconcile ⟨8, 1, [⟨2, 3, 0⟩]⟩), .answer]

theorem never_strands_iff_lostRollback :
    NeverStrands labConfig (Core.initial false true) lostRollback ↔
      Along (step labConfig)
        (fun a e => (∀ c, ¬ Interrupts labConfig a e c) ∧ ¬ AnswersConflict a e)
        (Core.initial false true) lostRollback :=
  never_strands_iff labConfig rfl (fun k e he => by cases he) (by simp [lostRollback])

/-- The answer is `started`, and no task executes the rollback. -/
theorem lost_rollback_stranded :
    ¬ NeverStrands labConfig (Core.initial false true) lostRollback := by
  intro h
  obtain ⟨s, c, hs, hw, -⟩ := along_iff.mp h.started (lostRollback.take 7) .answer [] rfl rfl
    ⟨8, [], .idle, [⟨2, 3, 0⟩]⟩ ⟨2, 3, 0⟩ [] 0 rfl rfl rfl
  cases hs
  cases hw

end AutocadMcp.Agent
