import AutocadMcp.Identity.Tokens
import AutocadMcp.Sockets.Moves

/-!
# A revoked device is not heard

A socket checks once more that its device is active after it entered the registry. A socket that
passed the check before a revocation is the one that the revocation finds, or was replaced by one
that did not; so when the revocation has closed what it found, nothing of the device is handed on
any more, however the tasks were interleaved.
-/

namespace AutocadMcp.Sockets

open Identity ReplayWindow

/-- The socket passed the check that follows its registration. -/
def Point.isServed : Point → Bool
  | .active | .serving | .received _ | .marking => true
  | _ => false

/-- The registry holds a connection of the device that passed the check. -/
inductive Served (g : Server) (deviceId : String) : String → Prop
  | of {entry : Entry} {row : Socket} {p : Point} {c : Connection}
      (hentry : g.registry.get? deviceId = some entry)
      (hrow : g.sockets.get? entry.socket = some row) (hdevice : row.deviceId = deviceId)
      (hstage : row.stage = .connected p c) (hserved : p.isServed = true) :
      Served g deviceId entry.sessionId

section

variable {S : Setup} {g g' : Server} {e : Event} {db : Db} {registry registry' : Registry}
  {row : Socket} {a : Action} {stage : Stage} {deviceId sessionId : String}

/-! ## Who is heard -/

theorem isCurrent_entry {c : Connection} (h : registry.isCurrent row c = true) :
    registry.get? row.deviceId = some ⟨row.deviceId, row.socket, c.sessionId⟩ :=
  of_decide_eq_true h

/-- A message that is taken is the one that the socket received, under the current connection. -/
theorem taken_some {m : Message} (h : taken g e = some (row, m)) :
    ∃ c, e = .socket row.socket .acceptSequence ∧ g.sockets.get? row.socket = some row ∧
      row.stage = .connected (.received m) c ∧ g.registry.isCurrent row c = true ∧
      c.judge m = .accepted := by
  unfold taken at h
  split at h
  · next socket =>
      split at h
      · next row' hrow =>
          obtain rfl := (Table.get?_some hrow).2
          split at h
          · next m' c hstage =>
              split at h
              · next hcurrent =>
                  cases h
                  exact ⟨c, rfl, hrow, hstage, hcurrent⟩
              · cases h
          · cases h
      · cases h
  · cases h

theorem marked_some (h : marked g e = some row) :
    ∃ c, e = .socket row.socket .markHeartbeat ∧ g.sockets.get? row.socket = some row ∧
      row.stage = .connected .marking c ∧ g.registry.isCurrent row c = true := by
  unfold marked at h
  split at h
  · next socket =>
      split at h
      · next row' hrow =>
          obtain rfl := (Table.get?_some hrow).2
          split at h
          · next c hstage =>
              split at h
              · next hcurrent =>
                  cases h
                  exact ⟨c, rfl, hrow, hstage, hcurrent⟩
              · cases h
          · cases h
      · cases h
  · cases h

/-- The socket of a device that is heard passed the check, and is the current one. -/
theorem Heard.socket (h : Heard g e deviceId) :
    ∃ row p c a, e = .socket row.socket a ∧ g.sockets.get? row.socket = some row ∧
      row.deviceId = deviceId ∧ row.stage = .connected p c ∧ p.isServed = true ∧
      g.registry.isCurrent row c = true := by
  rcases h with ⟨row, m, htaken, hdevice⟩ | ⟨row, hmarked, hdevice⟩
  · obtain ⟨c, he, hrow, hstage, hcurrent, -⟩ := taken_some htaken
    exact ⟨row, _, c, _, he, hrow, hdevice, hstage, rfl, hcurrent⟩
  · obtain ⟨c, he, hrow, hstage, hcurrent⟩ := marked_some hmarked
    exact ⟨row, _, c, _, he, hrow, hdevice, hstage, rfl, hcurrent⟩

theorem Heard.served (h : Heard g e deviceId) : ∃ sessionId, Served g deviceId sessionId := by
  obtain ⟨row, p, c, a, -, hrow, rfl, hstage, hserved, hcurrent⟩ := h.socket
  exact ⟨_, .of (isCurrent_entry hcurrent) hrow rfl hstage hserved⟩

/-! ## Steps -/

theorem remove_entry {entry : Entry} {device : String}
    (h : (registry.remove deviceId sessionId).get? device = some entry) :
    registry.get? device = some entry := by
  unfold Registry.remove at h
  split at h
  · exact (Table.get?_deleteWhere_some h).1
  · exact h

/-- What is left of the device after its connection was removed is another connection. -/
theorem remove_session {entry : Entry}
    (h : (registry.remove deviceId sessionId).get? deviceId = some entry) :
    entry.sessionId ≠ sessionId := by
  unfold Registry.remove at h
  split at h
  · rw [Table.get?_deleteWhere_key, if_pos rfl] at h
    cases h
  · next hother =>
      rintro rfl
      apply hother
      rw [h]
      simp

/-- An entry of the registry after the move of a socket was there, or is the socket's own and
unchecked. -/
theorem Moved.entry (h : Moved S db registry row a stage registry') {device : String}
    {entry : Entry} (hentry : registry'.get? device = some entry) :
    registry.get? device = some entry ∨
      entry.socket = row.socket ∧ ∃ c, stage = .connected .registered c := by
  cases h with
  | registered hstage =>
      rw [Table.get?_put] at hentry
      split at hentry
      · cases hentry
        exact Or.inr ⟨rfl, _, rfl⟩
      · exact Or.inl hentry
  | dismissed hstage => exact Or.inl (remove_entry hentry)
  | left hstage => exact Or.inl (remove_entry hentry)
  | _ => exact Or.inl hentry

/-- A socket passes the check only when its device is active. -/
theorem Moved.served (h : Moved S db registry row a stage registry') {p : Point} {c : Connection}
    (hstage : stage = .connected p c) (hserved : p.isServed = true) :
    (∃ p' c', row.stage = .connected p' c' ∧ p'.isServed = true) ∨
      db.isActiveDevice row.deviceId = true := by
  cases h with
  | checked hbefore hactive => exact Or.inr hactive
  | activated hbefore => exact Or.inl ⟨_, _, hbefore, rfl⟩
  | arrived hbefore => exact Or.inl ⟨_, _, hbefore, rfl⟩
  | judged hbefore => exact Or.inl ⟨_, _, hbefore, rfl⟩
  | marked hbefore => exact Or.inl ⟨_, _, hbefore, rfl⟩
  | idle => exact Or.inl ⟨_, _, hstage, hserved⟩
  | closed hbefore => cases hstage
  | left hbefore => cases hstage
  | _ =>
      cases hstage
      cases hserved

/-- No step brings a connection of a revoked device past the check. -/
theorem Stepped.served (h : Stepped S g e g') (hrevoked : Revoked deviceId g.db)
    (hserved : Served g' deviceId sessionId) : Served g deviceId sessionId := by
  obtain @⟨entry, after, p, c, hentry, hrow, hdevice, hstage, hpoint⟩ := hserved
  cases h with
  | idle he => exact .of hentry hrow hdevice hstage hpoint
  | called => exact .of hentry hrow hdevice hstage hpoint
  | opened hconsumed hinsert =>
      rw [show ({ g with db := _, sockets := _ } : Server).sockets = _ from rfl,
        Table.get?_insert hinsert] at hrow
      split at hrow
      · cases hrow
        cases hstage
      · exact .of hentry hrow hdevice hstage hpoint
  | @moved socket row' a stage registry' hrow' hmoved =>
      obtain rfl := (Table.get?_some hrow').2
      rcases hmoved.entry hentry with hbefore | ⟨hsocket, c', hregistered⟩
      · rcases Table.get?_modify_some (Socket.at_socket stage) hrow' hrow with rfl | hkept
        · have hsame := (Table.get?_some hrow).2
          rcases hmoved.served hstage hpoint with ⟨p', c', hstage', hpoint'⟩ | hactive
          · have hown : g.sockets.get? entry.socket = some row' := by
              rw [← show row'.socket = entry.socket from hsame]
              exact hrow'
            exact .of hbefore hown hdevice hstage' hpoint'
          · have hdevice' : row'.deviceId = deviceId := hdevice
            rw [hdevice', hrevoked.inactive] at hactive
            cases hactive
        · exact .of hbefore hkept hdevice hstage hpoint
      · have hmodified : (g.sockets.modify row'.socket (Socket.at stage)
            (Socket.at_socket stage)).get? row'.socket = some (row'.at stage) := by
          rw [Table.get?_modify, if_pos rfl, hrow']
          rfl
        rw [hsocket] at hrow
        cases hmodified.symm.trans hrow
        change stage = _ at hstage
        rw [hregistered] at hstage
        cases hstage
        cases hpoint
  | revoked hdone hinsert => exact .of hentry hrow hdevice hstage hpoint
  | lookedUp htask ht => exact .of hentry hrow hdevice hstage hpoint
  | dropped htask ht => exact .of (remove_entry hentry) hrow hdevice hstage hpoint
  | restarted => cases hentry

/-- A revocation holds on. -/
theorem Stepped.still_revoked (h : Stepped S g e g') (hrevoked : Revoked deviceId g.db) :
    Revoked deviceId g'.db := by
  rw [h.db]
  unfold dbAfter
  split
  · exact hrevoked.kept (Identity.step_cases S.crypto S.config g.db _)
  · exact hrevoked

/-! ## Revocations under way -/

/-- What holds while a revocation is under way: the device is revoked, once the connection was
looked up no other one of the device passed the check, and in the end none at all did. -/
structure Underway (g : Server) (t : Task) : Prop where
  revoked : Revoked t.deviceId g.db
  closing : ∀ found, t.stage = .closing found →
    ∀ sessionId, Served g t.deviceId sessionId → sessionId = found
  finished : t.stage = .finished → ∀ sessionId, ¬ Served g t.deviceId sessionId

theorem Underway.kept {t : Task} (h : Underway g t) (hstep : Stepped S g e g') : Underway g' t where
  revoked := hstep.still_revoked h.revoked
  closing found hstage sessionId hserved :=
    h.closing found hstage sessionId (hstep.served h.revoked hserved)
  finished hstage sessionId hserved :=
    h.finished hstage sessionId (hstep.served h.revoked hserved)

/-- The connection that `close_device` looks up is the only one of the device. -/
theorem Underway.lookedUp {t : Task} (h : Underway g t) :
    Underway g (t.at (lookedUp g.registry t.deviceId)) where
  revoked := h.revoked
  closing found hstage sessionId hserved := by
    obtain ⟨hentry⟩ := hserved
    change Sockets.lookedUp g.registry t.deviceId = _ at hstage
    change g.registry.get? t.deviceId = _ at hentry
    unfold Sockets.lookedUp at hstage
    rw [hentry] at hstage
    cases hstage
    rfl
  finished hstage sessionId hserved := by
    obtain ⟨hentry⟩ := hserved
    change Sockets.lookedUp g.registry t.deviceId = _ at hstage
    change g.registry.get? t.deviceId = _ at hentry
    unfold Sockets.lookedUp at hstage
    rw [hentry] at hstage
    cases hstage

/-- After the connection was removed that was looked up, none is left. -/
theorem Underway.dropped {t : Task} {found : String} (h : Underway g t)
    (hstage : t.stage = .closing found) {tasks : Table Task.task} :
    Underway { g with registry := g.registry.remove t.deviceId found, tasks := tasks }
      (t.at .finished) where
  revoked := h.revoked
  closing _ hfinished := by cases hfinished
  finished _ sessionId hserved := by
    obtain ⟨hentry, hrow, hdevice, hpoint, hserved⟩ := hserved
    have hbefore : Served g t.deviceId _ := .of (remove_entry hentry) hrow hdevice hpoint hserved
    exact remove_session hentry (h.closing found hstage _ hbefore)

end

/-- Every revocation under way keeps its promise. -/
def Closing (g : Server) : Prop := ∀ k t, g.tasks.get? k = some t → Underway g t

/-- A revocation that succeeds leaves the device revoked, where every device has a credential. -/
theorem revoke_revokes (S : Setup) {es : List Identity.Event} {owner deviceId : String}
    {now : Instant}
    (h : (revoke (runFrom (Identity.step S.crypto S.config) Db.empty es) owner deviceId now).1 =
      .ok ()) :
    Revoked deviceId (Identity.step S.crypto S.config
      (runFrom (Identity.step S.crypto S.config) Db.empty es) (.revoke owner deviceId now)) := by
  refine (revoked_of_effect S.crypto S.config es ?_).1
  show (revoke _ owner deviceId now).1.toOption.map _ = _
  rw [h]
  rfl

/-- The calls of the identity service in a run. -/
def calls (es : List Event) : List Identity.Event := es.filterMap Event.identity

theorem run_db (S : Setup) (es : List Event) :
    (run S es).db = runFrom (Identity.step S.crypto S.config) Db.empty (calls es) := by
  induction es using List.reverseRecOn with
  | nil => rfl
  | append_singleton es e ih =>
      unfold run calls at *
      rw [runFrom_append, List.filterMap_append, runFrom_append, ← ih]
      show (step S _ e).db = _
      rw [(step_cases S _ e).db]
      unfold dbAfter
      cases he : e.identity with
      | none => simp [he]
      | some f => simp [he]

theorem run_closing (S : Setup) (es : List Event) : Closing (run S es) := by
  induction es using List.reverseRecOn with
  | nil => rintro k t ⟨⟩
  | append_singleton es e ih =>
      have hdb := run_db S es
      unfold run at ih hdb ⊢
      rw [runFrom_append]
      generalize runFrom (step S) Server.initial es = g at ih hdb ⊢
      have hstep := step_cases S g e
      show Closing (step S g e)
      generalize step S g e = g' at hstep ⊢
      intro k t ht
      have hkept : ∀ t, g.tasks.get? k = some t → Underway g' t := fun t ht =>
        (ih k t ht).kept hstep
      cases hstep with
      | @revoked task owner deviceId now tasks hrevoked hinsert =>
          rw [show ({ g with db := _, tasks := _ } : Server).tasks = _ from rfl,
            Table.get?_insert hinsert] at ht
          split at ht
          · cases ht
            rw [hdb] at hrevoked
            have hnow := revoke_revokes S hrevoked
            rw [← hdb] at hnow
            refine ⟨hnow, ?_, ?_⟩
            · intro found hstage
              cases hstage
            · intro hstage
              cases hstage
          · exact hkept t ht
      | @lookedUp task t' htask hstage =>
          rcases Table.get?_modify_some (Task.at_task _) htask ht with rfl | hbefore
          · exact (ih task t' htask).lookedUp.kept (Stepped.lookedUp (S := S) htask hstage)
          · exact hkept t hbefore
      | @dropped task t' sessionId htask hstage =>
          rcases Table.get?_modify_some (Task.at_task _) htask ht with rfl | hbefore
          · exact (ih task t' htask).dropped hstage
          · exact hkept t hbefore
      | restarted => cases ht
      | _ => exact hkept t ht

/-- The device is revoked, and no connection of it passed the check. -/
structure Silent (deviceId : String) (g : Server) : Prop where
  revoked : Revoked deviceId g.db
  unserved : ∀ sessionId, ¬ Served g deviceId sessionId

theorem run_silent (S : Setup) {g : Server} {deviceId : String} (h : Silent deviceId g)
    (es : List Event) : Silent deviceId (runFrom (step S) g es) := by
  refine runFrom_invariant (Silent deviceId) ?_ h es
  intro g e hg
  have hstep := step_cases S g e
  exact ⟨hstep.still_revoked hg.revoked, fun sessionId hserved =>
    hg.unserved sessionId (hstep.served hg.revoked hserved)⟩

/-- **A revoked device is not heard.** When a revocation has closed the connection that it found, no
report and no heartbeat of the device is handed on in any continuation, whatever sockets the device
had open or opens. -/
theorem revoked_device_not_heard (S : Setup) (es more : List Event) (task : Nat) (deviceId : String)
    (h : (run S es).tasks.get? task = some ⟨task, deviceId, .finished⟩) (e : Event) :
    ¬ Heard (run S (es ++ more)) e deviceId := by
  have hunderway := run_closing S es task _ h
  have hsilent : Silent deviceId (run S es) := ⟨hunderway.revoked, hunderway.finished rfl⟩
  have hlater : Silent deviceId (run S (es ++ more)) := by
    unfold run at *
    rw [runFrom_append]
    exact run_silent S hsilent more
  intro hheard
  obtain ⟨sessionId, hserved⟩ := hheard.served
  exact hlater.unserved sessionId hserved

/-! ## A concrete run -/

def sampleSetup : Setup := ⟨plainCrypto, sampleConfig, String.join⟩

def sampleHello : Hello where
  protocolVersion := protocolVersion
  deviceId := "d"
  messageId := "m1"
  deviceProof := "k" ++ helloMessage "d" "m1" "t1"
  protocolMinVersion := protocolVersion
  protocolMaxVersion := protocolVersion
  capabilities := ["observe", "query"]
  capabilityHash := "observequery"
  lastProcessedSequence := 0

def sampleReport : Message := ⟨.report, protocolVersion, "session-1", "d", 1, "f1"⟩

/-- Device `d` is paired and opens socket 1. -/
def sampleOpening : List Event :=
  samplePairing.map .call ++ [.authenticate 1 "t1" 4]

/-- The hello is accepted, and a report has arrived. -/
def sampleArrival : List Event :=
  [.socket 1 .register, .socket 1 .checkActive, .socket 1 (.activate true),
    .socket 1 (.receive sampleReport true)]

def sampleServing : List Event :=
  sampleOpening ++ .socket 1 (.hello sampleHello "session-1") :: sampleArrival

/-- The device is revoked between the arrival of the report and its judgement. -/
theorem revoked_device_not_heard_sample :
    ¬ Heard (run sampleSetup ((sampleServing ++
      [.revoke 7 "user-hi\x00u" "d" 5, .lookUp 7, .drop 7]) ++ []))
      (.socket 1 .acceptSequence) "d" :=
  revoked_device_not_heard sampleSetup _ [] 7 "d" (by decide +kernel) _

end AutocadMcp.Sockets
