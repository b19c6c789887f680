import AutocadMcp.Gateway.RowOrigins

/-!
# The jobs of the commands that were sent

A command repeats columns of the row of its job that nothing writes again, and no two jobs share a
command id, or the idempotency key of an owner and a device. So the database tells the job of every
command that was ever sent, whatever became of the job since.
-/

namespace AutocadMcp.Gateway

/-- The job is in the database, and the command is the one that its row gives. -/
def Known (db : Db) (c : CommandMessage) : Prop :=
  ∃ row connection binding, db.job? c.jobId = some row ∧ c = commandOf connection row binding

/-- What the columns of two rows that must be unique have in common. -/
def Collides (row row' : JobRow) : Prop :=
  row.commandId = row'.commandId ∨
    (row.ownerSubject = row'.ownerSubject ∧ row.deviceId = row'.deviceId ∧
      row.idempotencyKey = row'.idempotencyKey)

/-- No two jobs collide. -/
def Distinct (db : Db) : Prop :=
  ∀ j j' row row', db.job? j = some row → db.job? j' = some row' → Collides row row' → j = j'

section

variable {C : Codec} {db db' : Db} {row row' : JobRow}

theorem commandOf_identity (connection : Connection) (binding : Json)
    (h : row'.identity = row.identity) :
    commandOf connection row' binding = commandOf connection row binding := by
  simp only [JobRow.identity, Prod.mk.injEq] at h
  obtain ⟨hjob, -, hdevice, hkind, heffect, hdeadline, hcommand, hkey, hpayloadHash, hpayload⟩ := h
  unfold commandOf
  rw [hjob, hdevice, hkind, heffect, hdeadline, hcommand, hkey, hpayloadHash, hpayload]

theorem Collides.of_identity {old old' : JobRow} (h : Collides row row')
    (hid : row.identity = old.identity) (hid' : row'.identity = old'.identity) :
    Collides old old' := by
  simp only [JobRow.identity, Prod.mk.injEq] at hid hid'
  obtain ⟨-, howner, hdevice, -, -, -, hcommand, hkey, -⟩ := hid
  obtain ⟨-, howner', hdevice', -, -, -, hcommand', hkey', -⟩ := hid'
  unfold Collides at h ⊢
  rwa [hcommand, howner, hdevice, hkey, hcommand', howner', hdevice', hkey'] at h

theorem Collides.symm (h : Collides row row') : Collides row' row := by
  rcases h with hcommand | ⟨howner, hdevice, hkey⟩
  · exact Or.inl hcommand.symm
  · exact Or.inr ⟨howner.symm, hdevice.symm, hkey.symm⟩

/-! ## One call -/

/-- A row after a call was there before it, with the same identity, or it was created. -/
theorem call_back (c : Call) {j : JobId} (hrow' : (c.run C db).job? j = some row') :
    (∃ row, db.job? j = some row ∧ row'.identity = row.identity) ∨
      Created db (c.run C db) row' := by
  rcases hj : db.job? j with _ | row
  · have hrewritten : ∀ old next, Rewrites db (c.run C db) old next → False := by
      rintro old next ⟨hold, hafter, -⟩
      rw [hafter j] at hrow'
      split at hrow'
      · next hsame =>
          rw [← hsame, hj] at hold
          cases hold
      · rw [hj] at hrow'
        cases hrow'
    have hchange : Change db (c.run C db) := c.change
    rcases hchange with
      ⟨hjobs, -⟩ | ⟨old, next, hrewrites, -⟩ | ⟨new, hcreated, -⟩ |
        ⟨old, next, hrewrites, -⟩ | ⟨old, next, hrewrites, -⟩
    · rw [hjobs j, hj] at hrow'
      cases hrow'
    · exact (hrewritten old next hrewrites).elim
    · right
      have hnew : (c.run C db).job? j = if new.jobId = j then some new else db.job? j :=
        Table.get?_insert hcreated.1 j
      rw [hnew] at hrow'
      split at hrow'
      · cases hrow'
        exact hcreated
      · rw [hj] at hrow'
        cases hrow'
    · exact (hrewritten old next hrewrites).elim
    · exact (hrewritten old next hrewrites).elim
  · left
    obtain ⟨next, hnext, hmove⟩ := call_row (C := C) hj c
    rw [hrow'] at hnext
    cases hnext
    exact ⟨row, rfl, hmove.identity⟩

theorem created_free (hcreated : Created db db' row') {j : JobId} (hrow : db.job? j = some row) :
    ¬ Collides row row' := by
  rintro (hcommand | hkey)
  · exact (hcreated.2.2 row (Table.get?_some hrow).1).1 hcommand
  · exact (hcreated.2.2 row (Table.get?_some hrow).1).2 hkey

theorem created_self (hcreated : Created db db' row) {j : JobId} (hrow : db'.job? j = some row') :
    (row' = row ∧ j = row.jobId) ∨ db.job? j = some row' := by
  have hnew : db'.job? j = if row.jobId = j then some row else db.job? j :=
    Table.get?_insert hcreated.1 j
  rw [hnew] at hrow
  split at hrow
  · next hsame =>
      cases hrow
      exact Or.inl ⟨rfl, hsame.symm⟩
  · exact Or.inr hrow

/-- The unique columns stay unique. -/
theorem Distinct.call (h : Distinct db) (c : Call) : Distinct (c.run C db) := by
  intro j j' row row' hrow hrow' hcollides
  rcases call_back c hrow with ⟨old, hold, hid⟩ | hcreated
  · rcases call_back c hrow' with ⟨old', hold', hid'⟩ | hcreated'
    · exact h j j' old old' hold hold' (hcollides.of_identity hid hid')
    · rcases created_self hcreated' hrow with ⟨rfl, rfl⟩ | hbefore
      · exact (job?_some hrow').2
      · exact absurd hcollides (created_free hcreated' hbefore)
  · rcases created_self hcreated hrow' with ⟨rfl, rfl⟩ | hbefore
    · exact (job?_some hrow).2.symm
    · exact absurd hcollides.symm (created_free hcreated hbefore)

theorem Known.call {message : CommandMessage} (h : Known db message) (c : Call) :
    Known (c.run C db) message := by
  obtain ⟨row, connection, binding, hrow, hcommand⟩ := h
  obtain ⟨row', hrow', hmove⟩ := call_row (C := C) hrow c
  refine ⟨row', connection, binding, hrow', ?_⟩
  rw [commandOf_identity connection binding hmove.identity]
  exact hcommand

/-- Of two known commands with one command id, both are of one job. -/
theorem Known.same_job {c c' : CommandMessage} (h : Known db c) (h' : Known db c')
    (hdistinct : Distinct db) (hcommand : c.commandId = c'.commandId) : c.jobId = c'.jobId := by
  obtain ⟨row, connection, binding, hrow, hsame⟩ := h
  obtain ⟨row', connection', binding', hrow', hsame'⟩ := h'
  apply hdistinct _ _ row row' hrow hrow'
  left
  rw [hsame, hsame'] at hcommand
  exact hcommand

end

/-! ## Runs -/

/-- The database has the job of every command that was sent, and no two of its jobs collide. -/
structure Recorded (g : GatewayState) : Prop where
  known : ∀ c, .command c ∈ g.sent → Known g.db c
  distinct : Distinct g.db

section

variable {cfg : Config} {w : World} {e : Event} {g : GatewayState}

theorem Recorded.action {k : Action} (h : Recorded g) (hallowed : Allowed cfg w e g k) :
    Recorded (k.run cfg.codec g) := by
  cases k with
  | call c => exact ⟨fun message hsent => (h.known message hsent).call c, h.distinct.call c⟩
  | register registry => exact ⟨h.known, h.distinct⟩
  | enrol device => exact ⟨h.known, h.distinct⟩
  | send message =>
      refine ⟨fun c hsent => ?_, h.distinct⟩
      rcases List.mem_append.mp hsent with hsent | hlast
      · exact h.known c hsent
      · have hc : GatewayMessage.command c = message := List.mem_singleton.mp hlast
        subst hc
        cases hallowed with
        | handled henv hissued =>
            cases hissued with
            | send hmessage => cases hmessage
        | command henv hprepared =>
            obtain ⟨row, binding, hrow, -, rfl, -⟩ := hprepared
            exact ⟨row, _, binding, job?_self hrow, rfl⟩

theorem Recorded.step (h : Recorded w.gateway) (cfg : Config) (e : Event) :
    Recorded (World.step cfg w e).gateway :=
  (step_reaches cfg w e).invariant Recorded (fun _ _ hg hallowed => hg.action hallowed) h

theorem Known.step {c : CommandMessage} (h : Known w.gateway.db c) (cfg : Config) (e : Event) :
    Known (World.step cfg w e).gateway.db c := by
  refine (step_reaches cfg w e).invariant (fun g => Known g.db c) ?_ h
  intro g k hg hallowed
  cases k with
  | call call => exact hg.call call
  | send message => exact hg
  | register registry => exact hg
  | enrol device => exact hg

theorem initial_recorded (db : Db) : Recorded (World.initial db).gateway := by
  refine ⟨?_, ?_⟩
  · rintro c ⟨⟩
  · rintro j j' row row' ⟨⟩

end

end AutocadMcp.Gateway
