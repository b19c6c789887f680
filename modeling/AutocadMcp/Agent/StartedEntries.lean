import AutocadMcp.Agent.AtMostOnce

/-!
# What moves a started entry

Between the start of a command and the end of its execution nothing moves its
entry but a restart: the handlers of other deliveries stop at a started entry, and
a cancel only flags it. The entry of the running command also has the kind under
which the command was delivered, which a restart looks at.
-/

namespace AutocadMcp.Agent

/-- The kind under which a command is recorded. -/
def ledgerKind (k : JobKind) : JobKind := if isTyped k then k else .observe

/-- What the ledger says of the command at which the worker is suspended. -/
def Position (l : Ledger) : Worker → Prop
  | .rejecting c (some _) => ∀ e, l.get? c.commandId = some e → e.state ≠ .started
  | .accepting c =>
      ∀ e, l.get? c.commandId = some e → e.state ≠ .started ∧ e.kind = ledgerKind c.kind
  | .executing c =>
      ∃ e, l.get? c.commandId = some e ∧ e.state = .started ∧ e.kind = ledgerKind c.kind
  | _ => True

/-! ## Ledger operations -/

/-- Started entries stay started. -/
def Steady (l l' : Ledger) : Prop :=
  ∀ k e, l.get? k = some e → e.state = .started →
    ∃ e', l'.get? k = some e' ∧ e'.state = .started

/-- Every entry was there, with its kind, and none was started. -/
def Quiet (l l' : Ledger) : Prop :=
  ∀ k e', l'.get? k = some e' → ∃ e, l.get? k = some e ∧ e'.kind = e.kind ∧
    (e'.state = .started → e.state = .started)

section

variable {l l' l'' : Ledger}

theorem Steady.refl (l : Ledger) : Steady l l := fun _ e he hs => ⟨e, he, hs⟩

theorem Steady.trans (h : Steady l l') (h' : Steady l' l'') : Steady l l'' := by
  intro k e he hs
  obtain ⟨e', he', hs'⟩ := h k e he hs
  exact h' k e' he' hs'

theorem Quiet.refl (l : Ledger) : Quiet l l := fun _ e he => ⟨e, he, rfl, id⟩

theorem Quiet.trans (h : Quiet l l') (h' : Quiet l' l'') : Quiet l l'' := by
  intro k e'' he''
  obtain ⟨e', he', hkind', hs'⟩ := h' k e'' he''
  obtain ⟨e, he, hkind, hs⟩ := h k e' he'
  exact ⟨e, he, hkind'.trans hkind, fun hstarted => hs (hs' hstarted)⟩

theorem Position.mono {w : Worker} (hsteady : Steady l l') (hquiet : Quiet l l')
    (h : Position l w) : Position l' w := by
  cases w with
  | rejecting c failWith =>
      cases failWith with
      | none => trivial
      | some code =>
          intro e' he' hs'
          obtain ⟨e, he, -, hs⟩ := hquiet _ e' he'
          exact h e he (hs hs')
  | accepting c =>
      intro e' he'
      obtain ⟨e, he, hkind, hs⟩ := hquiet _ e' he'
      obtain ⟨hopen, hk⟩ := h e he
      exact ⟨fun hs' => hopen (hs hs'), hkind.trans hk⟩
  | executing c =>
      obtain ⟨e, he, hs, hk⟩ := h
      obtain ⟨e', he', hs'⟩ := hsteady _ e he hs
      obtain ⟨e₀, he₀, hkind, -⟩ := hquiet _ e' he'
      rw [he] at he₀
      cases he₀
      exact ⟨e', he', hs', hkind.trans hk⟩
  | _ => trivial

theorem steady_recordReceived {a : Received} {r : LedgerEntry × Bool}
    (h : l.recordReceived a = .ok (r, l')) : Steady l l' := by
  obtain ⟨e, created⟩ := r
  rcases Ledger.recordReceived_ok h with ⟨-, rfl, -⟩ | ⟨-, -, hinsert, -⟩
  · exact Steady.refl _
  · intro k old hold hs
    refine ⟨old, ?_, hs⟩
    have hne : a.entry.commandId ≠ k := by
      rintro rfl
      rw [(Table.insert_some hinsert).2] at hold
      cases hold
    rw [Table.get?_insert hinsert, if_neg hne]
    exact hold

/-- A transition moves no started entry, unless it is one to `started`. -/
theorem steady_transition {k : CommandId} {state : LedgerState} {result : Option Json}
    {errorCode : Option String} {e : LedgerEntry}
    (h : l.transition k state result errorCode = .ok (e, l'))
    (hopen : ∀ own, l.get? k = some own → own.state = .started → state = .started) :
    Steady l l' := by
  rcases Ledger.transition_ok h with ⟨-, -, rfl, -⟩ | ⟨current, hget, -, -, -, rfl⟩
  · exact Steady.refl _
  · intro k' old hold hs
    rw [Table.get?_modify]
    by_cases hk : k' = k
    · subst hk
      refine ⟨Ledger.moved state result errorCode old, by rw [if_pos rfl, hold]; rfl, ?_⟩
      exact hopen old hold hs
    · exact ⟨old, by rw [if_neg hk]; exact hold, hs⟩

theorem quiet_transition {k : CommandId} {state : LedgerState} {result : Option Json}
    {errorCode : Option String} {e : LedgerEntry}
    (h : l.transition k state result errorCode = .ok (e, l')) (hstate : state ≠ .started) :
    Quiet l l' := by
  rcases Ledger.transition_ok h with ⟨-, -, rfl, -⟩ | ⟨current, -, -, -, -, rfl⟩
  · exact Quiet.refl _
  · intro k' e' he'
    rw [Table.get?_modify] at he'
    by_cases hk : k' = k
    · rw [if_pos hk, Option.map_eq_some_iff] at he'
      obtain ⟨old, hold, rfl⟩ := he'
      exact ⟨old, hold, rfl, fun hs => absurd hs hstate⟩
    · rw [if_neg hk] at he'
      exact ⟨e', he', rfl, id⟩

/-- A delivered command finds its entry under its own kind. -/
theorem recordReceived_kind {a : Received} {r : LedgerEntry × Bool} {own : LedgerEntry}
    (h : l.recordReceived a = .ok (r, l')) (hown : l'.get? a.commandId = some own) :
    own.kind = a.kind := by
  obtain ⟨e, created⟩ := r
  rcases Ledger.recordReceived_ok h with ⟨-, rfl, hmatch, -, hsame⟩ | ⟨-, rfl, hinsert, -⟩
  · obtain rfl := hsame own hown
    exact hmatch.2.2.2.1
  · rw [Table.get?_insert hinsert, if_pos (show a.entry.commandId = a.commandId from rfl)] at hown
    cases hown
    rfl

theorem steady_requestCancel (k : CommandId) : Steady l (l.requestCancel k) := by
  intro k' e he hs
  unfold Ledger.requestCancel
  rw [Table.get?_modify]
  by_cases hk : k' = k
  · exact ⟨Ledger.flagged e, by rw [if_pos hk, he]; rfl, hs⟩
  · exact ⟨e, by rw [if_neg hk]; exact he, hs⟩

theorem quiet_requestCancel (k : CommandId) : Quiet l (l.requestCancel k) := by
  intro k' e' he'
  unfold Ledger.requestCancel at he'
  rw [Table.get?_modify] at he'
  by_cases hk : k' = k
  · rw [if_pos hk, Option.map_eq_some_iff] at he'
    obtain ⟨e, he, rfl⟩ := he'
    exact ⟨e, he, rfl, id⟩
  · rw [if_neg hk] at he'
    exact ⟨e', he', rfl, id⟩

end

/-! ## Handlers that leave started entries alone -/

/-- What a segment leaves behind that does not end an execution. -/
structure Keeps (a a' : Core) : Prop where
  steady : Steady a.ledger a'.ledger
  position : ∀ s, a'.session = some s → Position a'.ledger s.worker
  running : ∀ s c, a'.session = some s → s.worker = .executing c →
    (∃ s₀, a.session = some s₀ ∧ s₀.worker = .executing c ∧ a'.executions = a.executions) ∨
      a'.executions = a.executions ++ [c]
  executions : a'.executions = a.executions ∨
    ∃ s c, a'.session = some s ∧ s.worker = .executing c ∧ a'.executions = a.executions ++ [c]

section

variable {cfg : Config} {a : Core} {s : Session} {c : CommandMessage}

theorem Keeps.after {a' : Core} {l : Ledger} (hsteady : Steady a.ledger l)
    (h : Keeps { a with ledger := l } a') : Keeps a a' :=
  ⟨hsteady.trans h.steady, h.position, h.running, h.executions⟩

theorem keeps_drop : Keeps a a.drop :=
  ⟨Steady.refl _, by rintro _ ⟨⟩, by rintro _ _ ⟨⟩, Or.inl rfl⟩

theorem keeps_worker {a' : Core} {w : Worker} (hledger : a'.ledger = a.ledger)
    (hexecutions : a'.executions = a.executions) (hidle : ∀ c, w ≠ .executing c)
    (hposition : Position a.ledger w) : Keeps a (a'.setWorker s w) := by
  refine ⟨?_, ?_, ?_, Or.inl hexecutions⟩
  · show Steady a.ledger a'.ledger
    rw [hledger]
    exact Steady.refl _
  · intro s' hs'
    obtain rfl : { s with worker := w } = s' := Option.some.inj hs'
    show Position a'.ledger w
    rw [hledger]
    exact hposition
  · intro s' c hs' hw
    obtain rfl : { s with worker := w } = s' := Option.some.inj hs'
    exact absurd hw (hidle c)

theorem keeps_reject {code : String} {failWith : Option String}
    (hposition : Position a.ledger (.rejecting c failWith)) :
    Keeps a (a.reject cfg s c code failWith) :=
  keeps_worker rfl rfl (by rintro _ ⟨⟩) hposition

theorem keeps_refuse {code : String}
    (hopen : ∀ own, a.ledger.get? c.commandId = some own → own.state ≠ .started) :
    Keeps a (a.refuse cfg s c code) := by
  unfold Core.refuse
  split
  · exact keeps_drop
  · rename_i entry l hl
    refine .after (steady_transition hl fun own hown hs => absurd hs (hopen own hown)) ?_
    exact keeps_worker rfl rfl (by rintro _ ⟨⟩) trivial

theorem keeps_handleCommand (o : Choice) (hkind : isTyped c.kind = false) :
    Keeps a (handleCommand cfg o a s c) := by
  unfold handleCommand
  split
  · exact keeps_reject trivial
  split
  · exact keeps_reject trivial
  split
  · exact keeps_reject trivial
  · rename_i entry created l hl
    refine .after (steady_recordReceived hl) ?_
    dsimp only
    split
    · exact keeps_worker rfl rfl (by rintro _ ⟨⟩) trivial
    split
    · exact keeps_worker rfl rfl (by rintro _ ⟨⟩) trivial
    rename_i hnotStarted
    have hown : ∀ own, l.get? c.commandId = some own →
        own.state ≠ .started ∧ own.kind = .observe := by
      intro own hget
      obtain ⟨rfl, -, -, hcreated⟩ := recordReceived_own hl hget
      refine ⟨?_, recordReceived_kind hl hget⟩
      intro hs
      cases created with
      | true => rw [hcreated rfl] at hs; cases hs
      | false => exact hnotStarted ⟨rfl, hs⟩
    split
    · exact keeps_reject fun own hget => (hown own hget).1
    split
    · exact keeps_drop
    · exact keeps_reject fun own hget => (hown own hget).1
    · split
      · exact keeps_drop
      · rename_i e l2 hl2
        refine .after (steady_transition hl2 fun own hget hs => absurd hs (hown own hget).1) ?_
        refine keeps_worker rfl rfl (by rintro _ ⟨⟩) fun e' he' => ?_
        obtain ⟨e₀, he₀, hk, hs⟩ := quiet_transition hl2 (by decide) _ e' he'
        obtain ⟨hopen, hobserve⟩ := hown e₀ he₀
        refine ⟨fun hs' => hopen (hs hs'), ?_⟩
        rw [hk, hobserve, ledgerKind, hkind]
        rfl

theorem keeps_handleTypedCommand (hasExecutor : Bool) (o : Choice)
    (hkind : isTyped c.kind = true) : Keeps a (handleTypedCommand cfg hasExecutor o a s c) := by
  unfold handleTypedCommand
  split
  · exact keeps_reject trivial
  split
  · exact keeps_reject trivial
  · exact keeps_reject trivial
  · rename_i entry created l hl
    refine .after (steady_recordReceived hl) ?_
    dsimp only
    split
    · exact keeps_drop
    split
    · exact keeps_worker rfl rfl (by rintro _ ⟨⟩) trivial
    split
    · exact keeps_worker rfl rfl (by rintro _ ⟨⟩) trivial
    rename_i hnotStarted
    have hown : ∀ own, l.get? c.commandId = some own →
        own.state ≠ .started ∧ own.kind = ledgerKind c.kind := by
      intro own hget
      have hrecorded : own.kind = c.kind := recordReceived_kind hl hget
      obtain ⟨rfl, -, -, hcreated⟩ := recordReceived_own hl hget
      refine ⟨?_, by rw [hrecorded, ledgerKind, if_pos hkind]⟩
      intro hs
      cases created with
      | true => rw [hcreated rfl] at hs; cases hs
      | false => exact hnotStarted ⟨rfl, hs⟩
    split
    · exact keeps_refuse fun own hget => (hown own hget).1
    split
    · exact keeps_refuse fun own hget => (hown own hget).1
    split
    · exact keeps_drop
    · exact keeps_refuse fun own hget => (hown own hget).1
    · split
      · split
        · exact keeps_drop
        · rename_i e l2 hl2
          refine .after (steady_transition hl2 fun own hget hs => absurd hs (hown own hget).1) ?_
          split
          · exact keeps_drop
          · refine keeps_worker rfl rfl (by rintro _ ⟨⟩) fun e' he' => ?_
            obtain ⟨e₀, he₀, hk, hs⟩ := quiet_transition hl2 (by decide) _ e' he'
            exact ⟨fun hs' => (hown e₀ he₀).1 (hs hs'), hk.trans (hown e₀ he₀).2⟩
      · exact keeps_worker rfl rfl (by rintro _ ⟨⟩) hown

theorem keeps_beginCommand (o : Choice) : Keeps a (beginCommand cfg o a s c) := by
  unfold beginCommand
  split
  · rename_i hrollback
    exact keeps_handleTypedCommand _ o (by rw [isTyped, hrollback, Bool.or_true])
  split
  · rename_i hprogram
    exact keeps_handleTypedCommand _ o (by rw [isTyped, hprogram, Bool.true_or])
  · rename_i hrollback hprogram
    refine keeps_handleCommand o ?_
    rw [isTyped, Bool.or_eq_false_iff]
    exact ⟨by simpa using hprogram, by simpa using hrollback⟩

/-- The executor is invoked when the entry has been started. -/
theorem keeps_startCommand (o : Choice) (hposition : Position a.ledger (.accepting c)) :
    Keeps a (startCommand o a s c) := by
  unfold startCommand
  split
  · exact keeps_drop
  · rename_i entry l hl
    have hsteady : Steady a.ledger l := steady_transition hl fun _ _ _ => rfl
    split
    · exact .after hsteady keeps_drop
    · have hstarted : Position l (.executing c) := by
        rcases Ledger.transition_ok hl with ⟨-, hterm, -, hstate, -⟩ |
          ⟨current, hget, -, -, -, rfl⟩
        · rw [hstate] at hterm
          cases hterm
        · refine ⟨Ledger.moved .started none none current, ?_, rfl, (hposition current hget).2⟩
          rw [Table.get?_modify, if_pos rfl, hget]
          rfl
      refine ⟨hsteady, ?_, ?_, Or.inr ⟨{ s with worker := .executing c }, c, rfl, rfl, rfl⟩⟩
      · intro s' hs'
        obtain rfl := Option.some.inj hs'
        exact hstarted
      · intro s' c' hs' hw
        obtain rfl := Option.some.inj hs'
        obtain rfl : c = c' := by simpa using hw
        exact Or.inr rfl

end

/-! ## The receiver -/

section

variable {cfg : Config} {a : Core} {s : Session} (hs : a.session = some s)
  (hposition : Position a.ledger s.worker)
include hs hposition

/-- A receiver's handler leaves the worker where it is. -/
theorem keeps_receiver {a' : Core} (s' : Session) (hw : s'.worker = s.worker)
    (hsession : a'.session = some s') (hexecutions : a'.executions = a.executions)
    (hsteady : Steady a.ledger a'.ledger) (hquiet : Quiet a.ledger a'.ledger) : Keeps a a' := by
  refine ⟨hsteady, ?_, ?_, Or.inl hexecutions⟩
  · intro s'' hs''
    rw [hsession] at hs''
    cases hs''
    rw [hw]
    exact hposition.mono hsteady hquiet
  · intro s'' c hs'' hw''
    rw [hsession] at hs''
    cases hs''
    exact Or.inl ⟨s, hs, hw ▸ hw'', hexecutions⟩

theorem keeps_same : Keeps a a :=
  keeps_receiver hs hposition s rfl hs rfl (Steady.refl _) (Quiet.refl _)

theorem keeps_handleCancel (m : CancelMessage) : Keeps a (handleCancel cfg a s m) := by
  unfold handleCancel
  split
  · exact keeps_drop
  split
  · exact keeps_same hs hposition
  rename_i e he
  split
  · exact keeps_drop
  · dsimp only
    split
    · rename_i hearly
      split
      · exact .after (steady_requestCancel _) keeps_drop
      · rename_i entry l hl
        -- only a received or accepted entry is cancelled
        have hopen : ∀ own, (a.ledger.requestCancel m.commandId).get? m.commandId = some own →
            own.state ≠ .started := by
          intro own hown hstarted
          obtain ⟨e₀, he₀, -, hback⟩ := quiet_requestCancel (l := a.ledger) _ _ own hown
          rw [he] at he₀
          cases he₀
          rw [hback hstarted] at hearly
          simp at hearly
        refine keeps_receiver hs hposition s rfl hs rfl
          ((steady_requestCancel _).trans
            (steady_transition hl fun own hown h => absurd h (hopen own hown)))
          ((quiet_requestCancel _).trans (quiet_transition hl (by decide)))
    · exact keeps_receiver hs hposition s rfl hs rfl (steady_requestCancel _)
        (quiet_requestCancel _)

theorem keeps_receive (message : GatewayMessage) : Keeps a (receive cfg a s message) := by
  unfold receive
  split
  · split
    · exact keeps_drop
    split
    · exact keeps_receiver hs hposition s rfl hs rfl (Steady.refl _) (Quiet.refl _)
    · rename_i c _ _
      exact keeps_receiver hs hposition { s with queue := s.queue ++ [c] } rfl rfl rfl
        (Steady.refl _) (Quiet.refl _)
  · split
    · exact keeps_drop
    · rename_i m _
      exact keeps_receiver hs hposition { s with receiver := s.receiver ++ m.commands } rfl rfl rfl
        (Steady.refl _) (Quiet.refl _)
  · exact keeps_handleCancel hs hposition _

theorem keeps_answer : Keeps a (answer cfg a s) := by
  unfold answer
  split
  · exact keeps_same hs hposition
  · rename_i d rest _
    exact keeps_receiver hs hposition { s with receiver := rest } rfl rfl rfl
      (Steady.refl _) (Quiet.refl _)

/-- The worker goes on without ending an execution. -/
theorem keeps_work (o : Choice) (hidle : ∀ c, s.worker ≠ .executing c) :
    Keeps a (work cfg o a s) := by
  unfold work
  split
  · split
    · exact keeps_same hs hposition
    · exact keeps_beginCommand o
  · exact keeps_worker rfl rfl (by rintro _ ⟨⟩) trivial
  · rename_i c code hw
    rw [hw] at hposition
    split
    · exact keeps_drop
    · rename_i entry l hl
      exact .after (steady_transition hl fun own hown h => absurd h (hposition own hown))
        (keeps_worker rfl rfl (by rintro _ ⟨⟩) trivial)
  · exact keeps_worker rfl rfl (by rintro _ ⟨⟩) trivial
  · rename_i c hw
    rw [hw] at hposition
    exact keeps_startCommand o hposition
  · rename_i c hw
    exact absurd hw (hidle c)
  · exact keeps_worker rfl rfl (by rintro _ ⟨⟩) trivial

end

end AutocadMcp.Agent
