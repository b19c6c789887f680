import AutocadMcp.Sockets.Server

/-!
# What a step of the server does

Each event moves one socket or one revocation, or calls the identity service; the cases say what it
found and what it wrote.
-/

namespace AutocadMcp.Sockets

open Identity ReplayWindow

/-! ## The task of a socket -/

/-- An await of a socket that its task is at: the stage and the registry after it. -/
inductive Moved (S : Setup) (db : Db) (registry : Registry) (row : Socket) :
    Action → Stage → Registry → Prop
  | greeted {token : String} {hello : Hello} {sessionId : String}
      (hstage : row.stage = .greeting token) (hgreets : greets S db row.deviceId token hello = true) :
      Moved S db registry row (.hello hello sessionId)
        (.connected .verified (connectionOf hello sessionId)) registry
  | closed {token : String} {a : Action} (hstage : row.stage = .greeting token) :
      Moved S db registry row a .closed registry
  | registered {c : Connection} (hstage : row.stage = .connected .verified c) :
      Moved S db registry row .register (.connected .registered c)
        (registry.put ⟨row.deviceId, row.socket, c.sessionId⟩)
  | checked {c : Connection} (hstage : row.stage = .connected .registered c)
      (hactive : db.isActiveDevice row.deviceId = true) :
      Moved S db registry row .checkActive (.connected .active c) registry
  | unchecked {c : Connection} (hstage : row.stage = .connected .registered c)
      (hinactive : db.isActiveDevice row.deviceId = false) :
      Moved S db registry row .checkActive (.connected .dismissed c) registry
  | activated {c : Connection} (hstage : row.stage = .connected .active c) :
      Moved S db registry row (.activate true) (.connected .serving c) registry
  | declined {c : Connection} (hstage : row.stage = .connected .active c) :
      Moved S db registry row (.activate false) (.connected .dismissed c) registry
  | arrived {c : Connection} {m : Message} {valid : Bool}
      (hstage : row.stage = .connected .serving c) :
      Moved S db registry row (.receive m valid) (.connected (arrive registry row c m valid) c)
        registry
  | replaced {c : Connection} {m : Message} (hstage : row.stage = .connected (.received m) c)
      (hcurrent : registry.isCurrent row c = false) :
      Moved S db registry row .acceptSequence (.connected .leaving c) registry
  | judged {c : Connection} {m : Message} (hstage : row.stage = .connected (.received m) c)
      (hcurrent : registry.isCurrent row c = true) :
      Moved S db registry row .acceptSequence
        (.connected (if c.judge m = .accepted ∧ m.kind = .heartbeat then .marking else .serving)
          (c.recorded m)) registry
  | marked {c : Connection} (hstage : row.stage = .connected .marking c) :
      Moved S db registry row .markHeartbeat
        (.connected (if registry.isCurrent row c then .serving else .leaving) c) registry
  | dismissed {c : Connection} (hstage : row.stage = .connected .dismissed c) :
      Moved S db registry row .dismiss (.connected .leaving c)
        (registry.remove row.deviceId c.sessionId)
  | failed {p : Point} {c : Connection} (hstage : row.stage = .connected p c) :
      Moved S db registry row .fail (.connected .leaving c) registry
  | left {c : Connection} (hstage : row.stage = .connected .leaving c) :
      Moved S db registry row .leave .closed (registry.remove row.deviceId c.sessionId)
  | idle {a : Action}
      (hidle : ∀ m c, row.stage = .connected (.received m) c → a ≠ .acceptSequence) :
      Moved S db registry row a row.stage registry

theorem serve_cases (S : Setup) (db : Db) (registry : Registry) (row : Socket) (a : Action) :
    Moved S db registry row a (serve S db registry row a).1 (serve S db registry row a).2 := by
  unfold serve
  split
  · next token hello sessionId hstage =>
      split
      · next hgreets => exact .greeted hstage hgreets
      · exact .closed hstage
  · next hstage => exact .closed hstage
  · next hstage => exact .registered hstage
  · next hstage =>
      cases hactive : db.isActiveDevice row.deviceId with
      | true => exact .checked hstage hactive
      | false => exact .unchecked hstage hactive
  · next connected hstage =>
      cases connected with
      | true => exact .activated hstage
      | false => exact .declined hstage
  · next hstage => exact .arrived hstage
  · next hstage =>
      split
      · next hcurrent => exact .replaced hstage hcurrent
      · next hcurrent => exact .judged hstage (eq_true_of_ne_false hcurrent)
  · next hstage => exact .marked hstage
  · next hstage => exact .dismissed hstage
  · next hstage => exact .failed hstage
  · next hstage => exact .left hstage
  · next hjudged _ _ _ _ => exact .idle fun m c hstage ha => hjudged m c hstage ha

/-! ## The server -/

variable (S : Setup) in
/-- What a step of the server does. -/
inductive Stepped (g : Server) : Event → Server → Prop
  | idle {e : Event} (he : e.identity = none)
      (habsent : ∀ socket a, e = .socket socket a → g.sockets.get? socket = none) : Stepped g e g
  | called {e : Event} (he : e.identity.isSome = true) :
      Stepped g e { g with db := dbAfter S g.db e }
  | opened {socket : Nat} {token deviceId : String} {now : Instant}
      {sockets : Table Socket.socket}
      (hconsumed : (consumeAccessToken S.crypto g.db token now).1 = .ok deviceId)
      (hinsert : g.sockets.insert ⟨socket, deviceId, .greeting token⟩ = some sockets) :
      Stepped g (.authenticate socket token now)
        { g with db := dbAfter S g.db (.authenticate socket token now), sockets := sockets }
  | moved {socket : Nat} {row : Socket} {a : Action} {stage : Stage} {registry : Registry}
      (hrow : g.sockets.get? socket = some row)
      (hmoved : Moved S g.db g.registry row a stage registry) :
      Stepped g (.socket socket a)
        { g with
          sockets := g.sockets.modify socket (Socket.at stage) (Socket.at_socket stage)
          registry := registry }
  | revoked {task : Nat} {ownerUserId deviceId : String} {now : Instant} {tasks : Table Task.task}
      (hrevoked : (revoke g.db ownerUserId deviceId now).1 = .ok ())
      (hinsert : g.tasks.insert ⟨task, deviceId, .started⟩ = some tasks) :
      Stepped g (.revoke task ownerUserId deviceId now)
        { g with db := dbAfter S g.db (.revoke task ownerUserId deviceId now), tasks := tasks }
  | lookedUp {task : Nat} {t : Task} (htask : g.tasks.get? task = some t)
      (hstage : t.stage = .started) :
      Stepped g (.lookUp task)
        { g with
          tasks := g.tasks.modify task (Task.at (lookedUp g.registry t.deviceId))
            (Task.at_task (lookedUp g.registry t.deviceId)) }
  | dropped {task : Nat} {t : Task} {sessionId : String} (htask : g.tasks.get? task = some t)
      (hstage : t.stage = .closing sessionId) :
      Stepped g (.drop task)
        { g with
          registry := g.registry.remove t.deviceId sessionId
          tasks := g.tasks.modify task (Task.at .finished) (Task.at_task .finished) }
  | restarted : Stepped g .restart ⟨g.db, .empty, .empty, .empty⟩

theorem step_cases (S : Setup) (g : Server) (e : Event) : Stepped S g e (step S g e) := by
  cases e with
  | call e => exact .called rfl
  | authenticate socket token now =>
      show Stepped S g _ { g with db := _, sockets := Option.getD _ g.sockets }
      cases hconsumed : (consumeAccessToken S.crypto g.db token now).1 with
      | error e => exact .called rfl
      | ok deviceId =>
          dsimp only
          cases hinsert : g.sockets.insert ⟨socket, deviceId, .greeting token⟩ with
          | none => exact .called rfl
          | some sockets => exact .opened hconsumed hinsert
  | socket socket a =>
      unfold step
      dsimp only
      cases hrow : g.sockets.get? socket with
      | none =>
          refine .idle rfl ?_
          rintro socket a ⟨⟩
          exact hrow
      | some row => exact .moved hrow (serve_cases S g.db g.registry row a)
  | revoke task ownerUserId deviceId now =>
      show Stepped S g _ { g with db := _, tasks := Option.getD _ g.tasks }
      cases hrevoked : (revoke g.db ownerUserId deviceId now).1 with
      | error e => exact .called rfl
      | ok done =>
          dsimp only
          cases hinsert : g.tasks.insert ⟨task, deviceId, .started⟩ with
          | none => exact .called rfl
          | some tasks => exact .revoked hrevoked hinsert
  | lookUp task =>
      unfold step
      dsimp only
      split
      · next htask => exact .lookedUp htask rfl
      · exact .idle rfl nofun
  | drop task =>
      unfold step
      dsimp only
      split
      · next htask => exact .dropped htask rfl
      · exact .idle rfl nofun
  | restart => exact .restarted

section

variable {S : Setup} {g g' : Server} {e : Event}

/-- Each step of the server is a step of the identity service, or leaves the database as it is. -/
theorem Stepped.db (h : Stepped S g e g') : g'.db = dbAfter S g.db e := by
  cases h with
  | idle he =>
      unfold dbAfter
      rw [he]
  | _ => rfl

end

end AutocadMcp.Sockets
