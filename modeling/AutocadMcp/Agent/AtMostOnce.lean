import AutocadMcp.Agent.Core

/-!
# The executor runs a command at most once

A command is executed right after its own entry moved to `started`. Entries only
advance and at most one of them carries an idempotency key, so a second
execution of a command, or of another command with its key, would need an entry
that is not started yet to be started already.
-/

namespace AutocadMcp.Agent

/-- At most one entry carries an idempotency key of a device. -/
def Keyed (l : Ledger) : Prop :=
  ∀ k k' e e', l.get? k = some e → l.get? k' = some e' → e.deviceId = e'.deviceId →
    e.idempotencyKey = e'.idempotencyKey → e.commandId = e'.commandId

/-- The entry of a command that waits for its acknowledgement, if there is one, is the command's
and not started. -/
def Ready (l : Ledger) (c : CommandMessage) : Prop :=
  ∀ e, l.get? c.commandId = some e → e.deviceId = c.deviceId ∧
    e.idempotencyKey = c.idempotencyKey ∧ e.state ≠ .started

/-! ## Ledger operations -/

section

variable {l l' : Ledger}

theorem keyed_of_image (h : Keyed l)
    (himage : ∀ k e', l'.get? k = some e' → ∃ e, l.get? k = some e ∧ e'.identity = e.identity) :
    Keyed l' := by
  intro k k' e e' he he' hdevice hkey
  obtain ⟨old, hold, hid⟩ := himage k e he
  obtain ⟨old', hold', hid'⟩ := himage k' e' he'
  simp only [LedgerEntry.identity, Prod.mk.injEq] at hid hid'
  have hsame : old.commandId = old'.commandId := by
    refine h k k' old old' hold hold' ?_ ?_
    · rw [← hid.2.2.2.2.1, ← hid'.2.2.2.2.1, hdevice]
    · rw [← hid.2.2.1, ← hid'.2.2.1, hkey]
  rw [hid.1, hid'.1, hsame]

theorem keyed_modify {k : CommandId} {f : LedgerEntry → LedgerEntry}
    {hf : ∀ e, (f e).commandId = e.commandId} (hid : ∀ e, (f e).identity = e.identity)
    (h : Keyed l) : Keyed (l.modify k f hf) := by
  refine keyed_of_image h fun k' e' he' => ?_
  rw [Table.get?_modify] at he'
  by_cases hk : k' = k
  · rw [if_pos hk, Option.map_eq_some_iff] at he'
    obtain ⟨e, he, rfl⟩ := he'
    exact ⟨e, he, hid e⟩
  · rw [if_neg hk] at he'
    exact ⟨e', he', rfl⟩

theorem keyed_transition {k : CommandId} {state : LedgerState} {result : Option Json}
    {errorCode : Option String} {e : LedgerEntry}
    (h : l.transition k state result errorCode = .ok (e, l')) (hl : Keyed l) : Keyed l' := by
  rcases Ledger.transition_ok h with ⟨-, -, rfl, -⟩ | ⟨_, -, -, -, -, rfl⟩
  · exact hl
  · exact keyed_modify (fun _ => rfl) hl

theorem keyed_recordReceived {a : Received} {r : LedgerEntry × Bool}
    (h : l.recordReceived a = .ok (r, l')) (hl : Keyed l) : Keyed l' := by
  obtain ⟨e, created⟩ := r
  rcases Ledger.recordReceived_ok h with ⟨-, rfl, -⟩ | ⟨-, -, hinsert, hfree⟩
  · exact hl
  · have hother : ∀ k old, l.get? k = some old → old.deviceId = a.deviceId →
        old.idempotencyKey ≠ a.idempotencyKey := by
      intro k old hold hdevice hkey
      have hnone := List.find?_eq_none.mp hfree old (Table.get?_some hold).1
      simp [hdevice, hkey] at hnone
    intro k k' x y hx hy hdevice hkey
    rw [Table.get?_insert hinsert] at hx hy
    split at hx <;> split at hy
    · cases hx
      cases hy
      rfl
    · cases hx
      exact absurd hkey.symm (hother _ y hy hdevice.symm)
    · cases hy
      exact absurd hkey (hother _ x hx hdevice)
    · exact hl k k' x y hx hy hdevice hkey

theorem keyed_recover (h : Keyed l) : Keyed l.recoverInterruptedPrograms := by
  refine keyed_of_image h fun k e' he' => ?_
  rw [Ledger.get?_recover, Option.map_eq_some_iff] at he'
  obtain ⟨e, he, rfl⟩ := he'
  exact ⟨e, he, (Ledger.recovered_advances e).identity⟩

/-- After a delivery was recorded, the entry of its command is the one returned. -/
theorem recordReceived_own {a : Received} {e own : LedgerEntry} {created : Bool}
    (h : l.recordReceived a = .ok ((e, created), l')) (hown : l'.get? a.commandId = some own) :
    own = e ∧ own.deviceId = a.deviceId ∧ own.idempotencyKey = a.idempotencyKey ∧
      (created = true → e.state = .received) := by
  rcases Ledger.recordReceived_ok h with ⟨hold, rfl, hmatch, -, hsame⟩ | ⟨-, rfl, hinsert, -⟩
  · obtain rfl := hsame own hown
    obtain ⟨-, hkey, hdevice, -⟩ := hmatch
    exact ⟨rfl, hdevice, hkey, by simp [hold]⟩
  · have hnew : own = a.entry := by
      rw [Table.get?_insert hinsert] at hown
      simpa [Received.entry, eq_comm] using hown
    subst hnew
    exact ⟨rfl, rfl, rfl, fun _ => rfl⟩

/-- A transition that is not to `started` leaves no waiting command started. -/
theorem ready_transition {k : CommandId} {state : LedgerState} {result : Option Json}
    {errorCode : Option String} {e : LedgerEntry} {c : CommandMessage}
    (h : l.transition k state result errorCode = .ok (e, l')) (hstate : state ≠ .started)
    (hready : ∀ own, l.get? c.commandId = some own → own.deviceId = c.deviceId ∧
      own.idempotencyKey = c.idempotencyKey ∧ (own.state ≠ .started ∨ k = c.commandId)) :
    Ready l' c := by
  intro own hown
  rcases Ledger.transition_ok h with ⟨hget, hterm, rfl, -⟩ | ⟨current, hget, -, -, -, rfl⟩
  · obtain ⟨hdevice, hkey, hopen | rfl⟩ := hready own hown
    · exact ⟨hdevice, hkey, hopen⟩
    · rw [hget] at hown
      cases hown
      refine ⟨hdevice, hkey, ?_⟩
      rintro hs
      rw [hs] at hterm
      cases hterm
  · rw [Table.get?_modify] at hown
    by_cases hk : c.commandId = k
    · rw [if_pos hk, Option.map_eq_some_iff] at hown
      obtain ⟨old, hold, rfl⟩ := hown
      obtain ⟨hdevice, hkey, -⟩ := hready old hold
      exact ⟨hdevice, hkey, hstate⟩
    · rw [if_neg hk] at hown
      obtain ⟨hdevice, hkey, hopen | rfl⟩ := hready own hown
      · exact ⟨hdevice, hkey, hopen⟩
      · exact absurd rfl hk

end

/-! ## Handlers that do not execute -/

/-- What a handler leaves behind when it does not invoke the executor. -/
structure Settles (a a' : Core) : Prop where
  grows : a.ledger.Grows a'.ledger
  keyed : Keyed a.ledger → Keyed a'.ledger
  executions : a'.executions = a.executions
  ready : ∀ s c, a'.session = some s → s.worker = .accepting c → Ready a'.ledger c

section

variable {cfg : Config} {a : Core} {s : Session} {c : CommandMessage}

theorem Settles.after {a' : Core} {l : Ledger} (hgrows : a.ledger.Grows l)
    (hkeyed : Keyed a.ledger → Keyed l) (h : Settles { a with ledger := l } a') : Settles a a' :=
  ⟨hgrows.trans h.grows, fun hk => h.keyed (hkeyed hk), h.executions, h.ready⟩

theorem settles_drop : Settles a a.drop :=
  ⟨Ledger.Grows.refl _, id, rfl, by rintro s c ⟨⟩⟩

theorem settles_worker {a' : Core} {w : Worker} (hledger : a'.ledger = a.ledger)
    (hexecutions : a'.executions = a.executions)
    (hready : ∀ c, w = .accepting c → Ready a.ledger c) : Settles a (a'.setWorker s w) := by
  refine ⟨?_, ?_, hexecutions, ?_⟩
  · show a.ledger.Grows a'.ledger
    rw [hledger]
    exact Ledger.Grows.refl _
  · show Keyed a.ledger → Keyed a'.ledger
    rw [hledger]
    exact id
  · rintro s' c hs hw
    obtain rfl : { s with worker := w } = s' := Option.some.inj hs
    show Ready a'.ledger c
    rw [hledger]
    exact hready c hw

theorem settles_reject {code : String} {failWith : Option String} :
    Settles a (a.reject cfg s c code failWith) :=
  settles_worker rfl rfl (by rintro _ ⟨⟩)

theorem settles_acknowledge {status : AckStatus} {w : Worker}
    (hready : ∀ c, w = .accepting c → Ready a.ledger c) :
    Settles a (a.acknowledge cfg s c status w) :=
  settles_worker rfl rfl hready

theorem settles_refuse {code : String} : Settles a (a.refuse cfg s c code) := by
  unfold Core.refuse
  split
  · exact settles_drop
  · rename_i entry l hl
    exact .after (Ledger.transition_grows hl) (keyed_transition hl)
      (settles_worker rfl rfl (by rintro _ ⟨⟩))

theorem settles_handleCommand (o : Choice) : Settles a (handleCommand cfg o a s c) := by
  unfold handleCommand
  split
  · exact settles_reject
  split
  · exact settles_reject
  split
  · exact settles_reject
  · rename_i entry created l hl
    refine .after (Ledger.recordReceived_grows hl) (keyed_recordReceived hl) ?_
    dsimp only
    split
    · exact settles_acknowledge (by rintro _ ⟨⟩)
    split
    · exact settles_acknowledge (by rintro _ ⟨⟩)
    split
    · exact settles_reject
    split
    · exact settles_drop
    · exact settles_reject
    · split
      · exact settles_drop
      · rename_i e l2 hl2
        refine .after (Ledger.transition_grows hl2) (keyed_transition hl2) ?_
        refine settles_acknowledge ?_
        rintro _ ⟨⟩
        refine ready_transition hl2 (by decide) fun own hown => ?_
        obtain ⟨-, hdevice, hkey, -⟩ := recordReceived_own hl hown
        exact ⟨hdevice, hkey, Or.inr rfl⟩

theorem settles_handleTypedCommand (hasExecutor : Bool) (o : Choice) :
    Settles a (handleTypedCommand cfg hasExecutor o a s c) := by
  unfold handleTypedCommand
  split
  · exact settles_reject
  split
  · exact settles_reject
  · exact settles_reject
  · rename_i entry created l hl
    refine .after (Ledger.recordReceived_grows hl) (keyed_recordReceived hl) ?_
    dsimp only
    split
    · exact settles_drop
    split
    · exact settles_acknowledge (by rintro _ ⟨⟩)
    split
    · exact settles_acknowledge (by rintro _ ⟨⟩)
    rename_i hnotStarted
    split
    · exact settles_refuse
    split
    · exact settles_refuse
    split
    · exact settles_drop
    · exact settles_refuse
    · split
      · split
        · exact settles_drop
        · rename_i e l2 hl2
          refine .after (Ledger.transition_grows hl2) (keyed_transition hl2) ?_
          split
          · exact settles_drop
          · refine settles_acknowledge ?_
            rintro _ ⟨⟩
            refine ready_transition hl2 (by decide) fun own hown => ?_
            obtain ⟨-, hdevice, hkey, -⟩ := recordReceived_own hl hown
            exact ⟨hdevice, hkey, Or.inr rfl⟩
      · rename_i hnotReceived
        -- the entry is accepted already, or it is another command's and there is no own one
        refine settles_acknowledge ?_
        rintro _ ⟨⟩ own hown
        obtain ⟨rfl, hdevice, hkey, hcreated⟩ := recordReceived_own hl hown
        refine ⟨hdevice, hkey, fun hstarted => ?_⟩
        cases created with
        | true => exact hnotReceived (hcreated rfl)
        | false => exact hnotStarted ⟨rfl, hstarted⟩

theorem settles_beginCommand (o : Choice) : Settles a (beginCommand cfg o a s c) := by
  unfold beginCommand
  split
  · exact settles_handleTypedCommand _ o
  split
  · exact settles_handleTypedCommand _ o
  · exact settles_handleCommand o

theorem settles_finishCommand (o : Choice) : Settles a (finishCommand cfg o a s c) := by
  unfold finishCommand
  split
  · exact settles_drop
  split
  split
  · exact settles_drop
  · rename_i entry l hl
    refine .after (Ledger.transition_grows hl) (keyed_transition hl) ?_
    split
    · exact settles_drop
    · exact settles_worker rfl rfl (by rintro _ ⟨⟩)

end

/-! ## One step -/

/-- The invariant of every run: keys are unique, an executed command has an entry that was
started, no command was executed twice, and a command about to start is not started. -/
structure Inv (a : Core) : Prop where
  keyed : Keyed a.ledger
  executed : ∀ c ∈ a.executions, ∃ e, a.ledger.get? c.commandId = some e ∧
    e.deviceId = c.deviceId ∧ e.idempotencyKey = c.idempotencyKey ∧ 2 ≤ e.state.order
  once : (a.executions.map CommandMessage.commandId).Nodup
  ready : ∀ s c, a.session = some s → s.worker = .accepting c → Ready a.ledger c

theorem Inv.settles {a a' : Core} (h : Inv a) (hs : Settles a a') : Inv a' := by
  refine ⟨hs.keyed h.keyed, ?_, ?_, hs.ready⟩
  · rw [hs.executions]
    intro c hc
    obtain ⟨e, he, hdevice, hkey, horder⟩ := h.executed c hc
    obtain ⟨e', he', hadv⟩ := hs.grows _ e he
    have hid := hadv.identity
    simp only [LedgerEntry.identity, Prod.mk.injEq] at hid
    exact ⟨e', he', hid.2.2.2.2.1.trans hdevice, hid.2.2.1.trans hkey,
      Nat.le_trans horder hadv.order⟩
  · rw [hs.executions]
    exact h.once

/-- What a step adds to the executions: nothing, or one command whose entry was open before and
is started after. -/
def Invokes (a a' : Core) (c : CommandMessage) : Prop :=
  a'.executions = a.executions ++ [c] ∧
    (∃ e, a.ledger.get? c.commandId = some e ∧ e.state.order ≤ 2 ∧ e.deviceId = c.deviceId ∧
      e.idempotencyKey = c.idempotencyKey ∧ e.state ≠ .started) ∧
    a'.ledger = a.ledger.modify c.commandId (Ledger.moved .started none none)
      (Ledger.moved_commandId .started none none) ∧
    ∀ s c', a'.session = some s → s.worker ≠ .accepting c'

theorem startCommand_spec {o : Choice} {a : Core} {s : Session} {c : CommandMessage}
    (hready : Ready a.ledger c) :
    Settles a (startCommand o a s c) ∨ Invokes a (startCommand o a s c) c := by
  unfold startCommand
  split
  · exact Or.inl settles_drop
  · rename_i entry l hl
    split
    · exact Or.inl (.after (Ledger.transition_grows hl) (keyed_transition hl) settles_drop)
    · rcases Ledger.transition_ok hl with ⟨-, hterm, -, hstarted, -⟩ |
        ⟨current, hget, -, horder, -, rfl⟩
      · rw [hstarted] at hterm
        cases hterm
      · obtain ⟨hdevice, hkey, hopen⟩ := hready current hget
        refine Or.inr ⟨rfl, ⟨current, hget, horder, hdevice, hkey, hopen⟩, rfl, ?_⟩
        rintro s' c' hs' hw
        obtain rfl := Option.some.inj hs'
        cases hw

theorem Inv.invokes {a a' : Core} {c : CommandMessage} (h : Inv a) (hi : Invokes a a' c) :
    Inv a' := by
  obtain ⟨hexecutions, ⟨e, he, horder, hdevice, hkey, hopen⟩, hledger, hsession⟩ := hi
  have hfresh : ∀ c' ∈ a.executions, c'.commandId ≠ c.commandId := by
    intro c' hc' hid
    obtain ⟨e', he', -, -, horder'⟩ := h.executed c' hc'
    rw [hid, he] at he'
    cases he'
    revert horder horder' hopen
    cases e.state <;> simp [LedgerState.order]
  have hget : ∀ k, a'.ledger.get? k = if k = c.commandId
      then (a.ledger.get? k).map (Ledger.moved .started none none) else a.ledger.get? k := by
    intro k
    rw [hledger, Table.get?_modify]
  refine ⟨?_, ?_, ?_, ?_⟩
  · rw [hledger]
    exact keyed_modify (fun _ => rfl) h.keyed
  · intro c' hc'
    rw [hexecutions, List.mem_append, List.mem_singleton] at hc'
    rcases hc' with hc' | rfl
    · obtain ⟨e', he', hrest⟩ := h.executed c' hc'
      refine ⟨e', ?_, hrest⟩
      rw [hget, if_neg (hfresh c' hc'), he']
    · refine ⟨Ledger.moved .started none none e, ?_, hdevice, hkey, Nat.le_refl 2⟩
      rw [hget, if_pos rfl, he]
      rfl
  · rw [hexecutions, List.map_append, List.map_singleton, List.nodup_append]
    refine ⟨h.once, List.nodup_singleton _, ?_⟩
    intro x hx y hy
    rw [List.mem_map] at hx
    obtain ⟨c', hc', rfl⟩ := hx
    rw [List.mem_singleton] at hy
    subst hy
    exact hfresh c' hc'
  · intro s c' hs hw
    exact absurd hw (hsession s c' hs)

/-- A receiver's handler leaves the worker where it is and starts no entry. -/
theorem settles_receiver {a a' : Core} {s : Session} (s' : Session)
    (hw : s'.worker = s.worker) (hsession : a'.session = some s') (hexecutions : a'.executions = a.executions)
    (hgrows : a.ledger.Grows a'.ledger) (hkeyed : Keyed a.ledger → Keyed a'.ledger)
    (hready : ∀ c, s.worker = .accepting c → Ready a'.ledger c) : Settles a a' := by
  refine ⟨hgrows, hkeyed, hexecutions, ?_⟩
  intro s'' c hs'' hw''
  rw [hsession] at hs''
  cases hs''
  exact hready c (hw ▸ hw'')

theorem ready_requestCancel {l : Ledger} {k : CommandId} {c : CommandMessage}
    (hready : Ready l c) : Ready (l.requestCancel k) c := by
  intro own hown
  unfold Ledger.requestCancel at hown
  rw [Table.get?_modify] at hown
  split at hown
  · rw [Option.map_eq_some_iff] at hown
    obtain ⟨e, he, rfl⟩ := hown
    exact hready e he
  · exact hready own hown

section

variable {cfg : Config} {a : Core} {s : Session} (hs : a.session = some s)
  (hready : ∀ c, s.worker = .accepting c → Ready a.ledger c)
include hs hready

theorem settles_same : Settles a a :=
  settles_receiver s rfl hs rfl (Ledger.Grows.refl _) id hready

theorem settles_handleCancel (m : CancelMessage) : Settles a (handleCancel cfg a s m) := by
  unfold handleCancel
  split
  · exact settles_drop
  split
  · exact settles_same hs hready
  split
  · exact settles_drop
  · have hgrows := Ledger.requestCancel_grows (l := a.ledger) m.commandId
    have hkeyed : Keyed a.ledger → Keyed (a.ledger.requestCancel m.commandId) :=
      keyed_modify fun _ => rfl
    dsimp only
    split
    · split
      · exact .after hgrows hkeyed settles_drop
      · rename_i entry l hl
        refine settles_receiver s rfl hs rfl
          (hgrows.trans (Ledger.transition_grows hl)) (fun hk => keyed_transition hl (hkeyed hk)) ?_
        intro c hw
        refine ready_transition hl (by decide) fun own hown => ?_
        obtain ⟨hdevice, hkey, hopen⟩ := ready_requestCancel (hready c hw) own hown
        exact ⟨hdevice, hkey, Or.inl hopen⟩
    · exact settles_receiver s rfl hs rfl hgrows hkeyed
        fun c hw => ready_requestCancel (hready c hw)

theorem settles_receive (message : GatewayMessage) : Settles a (receive cfg a s message) := by
  unfold receive
  split
  · split
    · exact settles_drop
    split
    · exact settles_receiver s rfl hs rfl (Ledger.Grows.refl _) id hready
    · rename_i c _ _
      exact settles_receiver { s with queue := s.queue ++ [c] } rfl rfl rfl
        (Ledger.Grows.refl _) id hready
  · split
    · exact settles_drop
    · rename_i m _
      exact settles_receiver { s with receiver := s.receiver ++ m.commands } rfl rfl rfl
        (Ledger.Grows.refl _) id hready
  · exact settles_handleCancel hs hready _

theorem settles_answer : Settles a (answer cfg a s) := by
  unfold answer
  split
  · exact settles_same hs hready
  · rename_i d rest _
    exact settles_receiver { s with receiver := rest } rfl rfl rfl
      (Ledger.Grows.refl _) id hready

theorem work_spec (o : Choice) :
    Settles a (work cfg o a s) ∨ ∃ c, Invokes a (work cfg o a s) c := by
  unfold work
  split
  · split
    · exact Or.inl (settles_same hs hready)
    · exact Or.inl (settles_beginCommand o)
  · exact Or.inl (settles_worker rfl rfl (by rintro _ ⟨⟩))
  · split
    · exact Or.inl settles_drop
    · rename_i entry l hl
      exact Or.inl (.after (Ledger.transition_grows hl) (keyed_transition hl)
        (settles_worker rfl rfl (by rintro _ ⟨⟩)))
  · exact Or.inl (settles_worker rfl rfl (by rintro _ ⟨⟩))
  · rename_i c hw
    exact (startCommand_spec (hready c hw)).imp_right fun hinvokes => ⟨c, hinvokes⟩
  · exact Or.inl (settles_finishCommand o)
  · exact Or.inl (settles_worker rfl rfl (by rintro _ ⟨⟩))

end

/-- **One step**: it settles without executing, or it invokes the executor once. -/
theorem step_spec (cfg : Config) {a : Core} (h : Inv a) (e : Event) :
    Settles a (step cfg a e) ∨ ∃ c, Invokes a (step cfg a e) c := by
  have stay : Settles a a := ⟨Ledger.Grows.refl _, id, rfl, h.ready⟩
  have onSession : ∀ f : Session → Core,
      (∀ s, a.session = some s → Settles a (f s) ∨ ∃ c, Invokes a (f s) c) →
      Settles a (a.onSession f) ∨ ∃ c, Invokes a (a.onSession f) c := by
    intro f hf
    unfold Core.onSession
    split
    · rename_i s hs
      exact hf s hs
    · exact Or.inl stay
  cases e with
  | connect sessionId =>
      refine Or.inl ?_
      unfold step
      dsimp only
      split
      · refine ⟨Ledger.Grows.refl _, id, rfl, ?_⟩
        rintro s c hs hw
        obtain rfl := Option.some.inj hs
        cases hw
      · exact stay
  | receive message =>
      exact onSession _ fun s hs => Or.inl (settles_receive hs (fun c => h.ready s c hs) message)
  | work o => exact onSession _ fun s hs => work_spec hs (fun c => h.ready s c hs) o
  | answer => exact onSession _ fun s hs => Or.inl (settles_answer hs fun c => h.ready s c hs)
  | sessionLost => exact Or.inl settles_drop
  | restart => exact Or.inl ⟨Ledger.recover_grows, keyed_recover, rfl, by rintro s c ⟨⟩⟩
  | setPaused paused => exact Or.inl ⟨Ledger.Grows.refl _, id, rfl, h.ready⟩
  | setWriteLock enabled => exact Or.inl ⟨Ledger.Grows.refl _, id, rfl, h.ready⟩

theorem Inv.step {a : Core} (h : Inv a) (cfg : Config) (e : Event) : Inv (step cfg a e) := by
  rcases step_spec cfg h e with hs | ⟨c, hi⟩
  · exact h.settles hs
  · exact h.invokes hi

/-- Entries stay and advance, whatever happens. -/
theorem step_grows (cfg : Config) {a : Core} (h : Inv a) (e : Event) :
    a.ledger.Grows (step cfg a e).ledger := by
  rcases step_spec cfg h e with hs | ⟨c, -, ⟨e', he', horder, -⟩, hledger, -⟩
  · exact hs.grows
  · rw [hledger]
    refine Ledger.modify_grows fun old hold => ?_
    rw [he'] at hold
    cases hold
    refine ⟨rfl, horder, fun ht => ?_⟩
    rw [isTerminal_iff_order] at ht
    omega

/-! ## Runs -/

theorem initial_inv (paused writeLock : Bool) : Inv (Core.initial paused writeLock) := by
  refine ⟨?_, ?_, List.nodup_nil, ?_⟩
  · rintro k k' e e' ⟨⟩
  · rintro c ⟨⟩
  · rintro s c ⟨⟩

theorem run_inv (cfg : Config) (paused writeLock : Bool) (es : List Event) :
    Inv (runFrom (step cfg) (Core.initial paused writeLock) es) :=
  runFrom_invariant Inv (fun _ e h => h.step cfg e) (initial_inv paused writeLock) es

theorem Inv.keys_nodup {a : Core} (h : Inv a) :
    (a.executions.map fun c => (c.deviceId, c.idempotencyKey)).Nodup := by
  have hexecutions : a.executions.Nodup := h.once.of_map _
  refine hexecutions.map_on ?_
  intro c hc c' hc' hsame
  simp only [Prod.mk.injEq] at hsame
  obtain ⟨e, he, hdevice, hkey, -⟩ := h.executed c hc
  obtain ⟨e', he', hdevice', hkey', -⟩ := h.executed c' hc'
  have hid : e.commandId = e'.commandId :=
    h.keyed _ _ e e' he he' (by rw [hdevice, hdevice', hsame.1]) (by rw [hkey, hkey', hsame.2])
  rw [Ledger.get?_commandId he, Ledger.get?_commandId he'] at hid
  exact List.inj_on_of_nodup_map h.once hc hc' hid

/-- No step executes a command whose entry is terminal. -/
theorem step_terminal (cfg : Config) {a : Core} (h : Inv a) {k : CommandId} {e : LedgerEntry}
    (he : a.ledger.get? k = some e) (ht : e.state.isTerminal = true) (ev : Event) :
    (step cfg a ev).executions.filter (fun c => c.commandId = k) =
      a.executions.filter (fun c => c.commandId = k) := by
  rcases step_spec cfg h ev with hs | ⟨c, hexecutions, ⟨e', he', horder, -⟩, -⟩
  · rw [hs.executions]
  · have hne : c.commandId ≠ k := by
      rintro rfl
      rw [he] at he'
      cases he'
      rw [isTerminal_iff_order] at ht
      omega
    rw [hexecutions, List.filter_append]
    simp [hne]

theorem run_terminal (cfg : Config) {a : Core} (h : Inv a) {k : CommandId} {e : LedgerEntry}
    (he : a.ledger.get? k = some e) (ht : e.state.isTerminal = true) (es : List Event) :
    (runFrom (step cfg) a es).executions.filter (fun c => c.commandId = k) =
      a.executions.filter (fun c => c.commandId = k) := by
  induction es generalizing a e with
  | nil => rfl
  | cons ev es ih =>
      obtain ⟨e', he', hadv⟩ := step_grows cfg h ev k e he
      rw [runFrom_cons, ih (h.step cfg ev) he' (hadv.terminal ht), step_terminal cfg h he ht ev]

/-- **At-most-once execution.** In every run of the Agent no command and no idempotency key of a
device is executed twice, and once the entry of a command is terminal no further run executes
the command. -/
theorem executor_at_most_once (cfg : Config) (paused writeLock : Bool) (es : List Event) :
    let a := runFrom (step cfg) (Core.initial paused writeLock) es
    (a.executions.map CommandMessage.commandId).Nodup ∧
      (a.executions.map fun c => (c.deviceId, c.idempotencyKey)).Nodup ∧
      ∀ k e, a.ledger.get? k = some e → e.state.isTerminal = true → ∀ more,
        (runFrom (step cfg) a more).executions.filter (fun c => c.commandId = k) =
          a.executions.filter (fun c => c.commandId = k) := by
  have h := run_inv cfg paused writeLock es
  exact ⟨h.once, h.keys_nodup, fun k e he ht more => run_terminal cfg h he ht more⟩

end AutocadMcp.Agent
