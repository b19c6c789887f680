import AutocadMcp.Identity.Service
import AutocadMcp.Lib.Machine
import AutocadMcp.Lib.ReplayWindow

/-!
# Agent sockets

Each socket is served by a task of its own, from the token that opens it over the hello and the
registration to the loop that takes messages, and each revocation is a task that closes the socket
of its device after its transaction. The tasks share the database and the registry of connections,
and give way to one another wherever they await.
-/

namespace AutocadMcp.Sockets

open Identity ReplayWindow

/-- What the endpoint is composed with. `capabilityHash` is `canonical_capability_hash`. -/
structure Setup where
  crypto : Crypto
  config : Config
  capabilityHash : List String → String

/-! ## Messages -/

/-- `PHASE5_PROTOCOL_VERSION`. -/
def protocolVersion : String := "cad.agent/2"

structure Hello where
  protocolVersion : String
  deviceId : String
  messageId : String
  deviceProof : String
  protocolMinVersion : String
  protocolMaxVersion : String
  capabilities : List String
  capabilityHash : String
  lastProcessedSequence : Nat
  deriving DecidableEq, Repr

inductive MessageKind where
  | heartbeat
  | report
  | other
  deriving DecidableEq, Repr

/-- A message that parsed. `fingerprint` is the hash of all that it says. -/
structure Message where
  kind : MessageKind
  protocolVersion : String
  sessionId : String
  deviceId : String
  sequence : Nat
  fingerprint : String
  deriving DecidableEq, Repr

/-! ## Connections -/

/-- The part of an `AgentConnection` that the endpoint itself reads. -/
structure Connection where
  sessionId : String
  protocolVersion : String
  window : Window String
  deriving DecidableEq, Repr

/-- `_RECENT_SEQUENCE_LIMIT`. -/
def recentSequenceLimit : Nat := 256

/-- Where the task of a socket is between its hello and its end. -/
inductive Point where
  | verified
  | registered
  | active
  | serving
  | received (message : Message)
  | marking
  /-- The connection leaves the registry before the socket is closed. -/
  | dismissed
  | leaving
  deriving DecidableEq, Repr

inductive Stage where
  | greeting (token : String)
  | connected (point : Point) (connection : Connection)
  | closed
  deriving DecidableEq, Repr

/-- A socket, under a number that tells the websockets apart, and the device it was opened for. -/
structure Socket where
  socket : Nat
  deviceId : String
  stage : Stage
  deriving DecidableEq, Repr

/-- An entry of the registry. -/
structure Entry where
  deviceId : String
  socket : Nat
  sessionId : String
  deriving DecidableEq, Repr

abbrev Registry := Table Entry.deviceId

/-- `registry.remove`. -/
def Registry.remove (registry : Registry) (deviceId sessionId : String) : Registry :=
  if (registry.get? deviceId).any (fun e => e.sessionId = sessionId) then
    registry.deleteWhere fun e => e.deviceId = deviceId
  else registry

/-- `registry.is_current`. -/
def Registry.isCurrent (registry : Registry) (row : Socket) (c : Connection) : Bool :=
  registry.get? row.deviceId = some ⟨row.deviceId, row.socket, c.sessionId⟩

/-- `_matches_connection`. -/
def Connection.fits (c : Connection) (row : Socket) (m : Message) : Bool :=
  m.protocolVersion = c.protocolVersion && m.sessionId = c.sessionId && m.deviceId = row.deviceId

/-- `negotiate_protocol`, of the one version that is supported. -/
def negotiates (hello : Hello) : Bool :=
  hello.protocolMinVersion ≤ protocolVersion && protocolVersion ≤ hello.protocolMaxVersion

/-- The checks of the hello, in their order. -/
def greets (S : Setup) (db : Db) (deviceId token : String) (hello : Hello) : Bool :=
  hello.protocolVersion = protocolVersion && hello.deviceId = deviceId &&
    verifyHello S.crypto db hello.deviceId hello.messageId hello.deviceProof token &&
    negotiates hello && hello.capabilityHash = S.capabilityHash hello.capabilities

/-! ## The task of a socket -/

/-- The awaits of `serve_agent_websocket` that come back. -/
inductive Action where
  | hello (hello : Hello) (sessionId : String)
  | register
  | checkActive
  /-- The welcome is sent, and `on_connected` returns or raises. -/
  | activate (connected : Bool)
  /-- A message arrives, and `validate_message` gives its verdict on it. -/
  | receive (message : Message) (valid : Bool)
  | acceptSequence
  | markHeartbeat
  | dismiss
  /-- The websocket is closed, a message does not parse or times out, or a callback raises. -/
  | fail
  | leave
  deriving DecidableEq, Repr

/-- The connection that a hello opens. -/
def connectionOf (hello : Hello) (sessionId : String) : Connection :=
  ⟨sessionId, protocolVersion, ⟨hello.lastProcessedSequence, []⟩⟩

/-- Where a message leads to that arrives in the loop. -/
def arrive (registry : Registry) (row : Socket) (c : Connection) (m : Message) (valid : Bool) :
    Point :=
  if m.kind = .other then .serving
  else if registry.isCurrent row c = false then .leaving
  else if c.fits row m = false then .leaving
  else if m.kind = .report ∧ valid = false then .leaving
  else .received m

/-- `accept_sequence`, for a connection that is the current one. -/
def Connection.judge (c : Connection) (m : Message) : Decision :=
  (c.window.record recentSequenceLimit m.sequence m.fingerprint).1

def Connection.recorded (c : Connection) (m : Message) : Connection :=
  { c with window := (c.window.record recentSequenceLimit m.sequence m.fingerprint).2 }

/-- The stage of a socket and the registry after its task went on. An await that the task is not at
leaves both as they are. -/
def serve (S : Setup) (db : Db) (registry : Registry) (row : Socket) (a : Action) :
    Stage × Registry :=
  match row.stage, a with
  | .greeting token, .hello hello sessionId =>
      if greets S db row.deviceId token hello then
        (.connected .verified (connectionOf hello sessionId), registry)
      else (.closed, registry)
  | .greeting _, .fail => (.closed, registry)
  | .connected .verified c, .register =>
      (.connected .registered c, registry.put ⟨row.deviceId, row.socket, c.sessionId⟩)
  | .connected .registered c, .checkActive =>
      (.connected (if db.isActiveDevice row.deviceId then .active else .dismissed) c, registry)
  | .connected .active c, .activate connected =>
      (.connected (if connected then .serving else .dismissed) c, registry)
  | .connected .serving c, .receive m valid =>
      (.connected (arrive registry row c m valid) c, registry)
  | .connected (.received m) c, .acceptSequence =>
      if registry.isCurrent row c = false then (.connected .leaving c, registry)
      else
        (.connected (if c.judge m = .accepted ∧ m.kind = .heartbeat then .marking else .serving)
          (c.recorded m), registry)
  | .connected .marking c, .markHeartbeat =>
      -- The sequence of the heartbeat is the last one already.
      (.connected (if registry.isCurrent row c then .serving else .leaving) c, registry)
  | .connected .dismissed c, .dismiss =>
      (.connected .leaving c, registry.remove row.deviceId c.sessionId)
  | .connected _ c, .fail => (.connected .leaving c, registry)
  | .connected .leaving c, .leave => (.closed, registry.remove row.deviceId c.sessionId)
  | stage, _ => (stage, registry)

/-! ## Revocations -/

inductive TaskStage where
  | started
  /-- `close_device` looked the connection up, and closes its websocket. -/
  | closing (sessionId : String)
  | finished
  deriving DecidableEq, Repr

/-- A call of `revoke` whose transaction succeeded. -/
structure Task where
  task : Nat
  deviceId : String
  stage : TaskStage
  deriving DecidableEq, Repr

/-- `close_device` after its lookup. -/
def lookedUp (registry : Registry) (deviceId : String) : TaskStage :=
  match registry.get? deviceId with
  | some entry => .closing entry.sessionId
  | none => .finished

/-! ## The server -/

structure Server where
  db : Db
  sockets : Table Socket.socket
  registry : Registry
  tasks : Table Task.task

def Server.initial : Server := ⟨.empty, .empty, .empty, .empty⟩

inductive Event where
  /-- A method of the identity service that no task below calls. -/
  | call (e : Identity.Event)
  | authenticate (socket : Nat) (token : String) (now : Instant)
  | socket (socket : Nat) (a : Action)
  | revoke (task : Nat) (ownerUserId deviceId : String) (now : Instant)
  | lookUp (task : Nat)
  | drop (task : Nat)
  /-- The process ends and starts again on the same database. -/
  | restart

def Socket.at (stage : Stage) (row : Socket) : Socket := { row with stage := stage }

theorem Socket.at_socket (stage : Stage) (row : Socket) : (row.at stage).socket = row.socket := rfl

def Task.at (stage : TaskStage) (t : Task) : Task := { t with stage := stage }

theorem Task.at_task (stage : TaskStage) (t : Task) : (t.at stage).task = t.task := rfl

/-- The identity method that an event calls. -/
def Event.identity : Event → Option Identity.Event
  | .call e => some e
  | .authenticate _ token now => some (.consumeAccessToken token now)
  | .revoke _ ownerUserId deviceId now => some (.revoke ownerUserId deviceId now)
  | _ => none

/-- The database after an event. -/
def dbAfter (S : Setup) (db : Db) (e : Event) : Db :=
  match e.identity with
  | some e => Identity.step S.crypto S.config db e
  | none => db

def step (S : Setup) (g : Server) (e : Event) : Server :=
  match e with
  | .call _ => { g with db := dbAfter S g.db e }
  | .authenticate socket token now =>
      let sockets := match (consumeAccessToken S.crypto g.db token now).1 with
        | .ok deviceId => g.sockets.insert ⟨socket, deviceId, .greeting token⟩
        | .error _ => none
      { g with db := dbAfter S g.db e, sockets := sockets.getD g.sockets }
  | .socket socket a =>
      match g.sockets.get? socket with
      | some row =>
          let next := serve S g.db g.registry row a
          { g with
            sockets := g.sockets.modify socket (Socket.at next.1) (Socket.at_socket next.1)
            registry := next.2 }
      | none => g
  | .revoke task ownerUserId deviceId now =>
      let tasks := match (revoke g.db ownerUserId deviceId now).1 with
        | .ok () => g.tasks.insert ⟨task, deviceId, .started⟩
        | .error _ => none
      { g with db := dbAfter S g.db e, tasks := tasks.getD g.tasks }
  | .lookUp task =>
      match g.tasks.get? task with
      | some ⟨_, deviceId, .started⟩ =>
          let stage := lookedUp g.registry deviceId
          { g with tasks := g.tasks.modify task (Task.at stage) (Task.at_task stage) }
      | _ => g
  | .drop task =>
      match g.tasks.get? task with
      | some ⟨_, deviceId, .closing sessionId⟩ =>
          { g with
            registry := g.registry.remove deviceId sessionId
            tasks := g.tasks.modify task (Task.at .finished) (Task.at_task .finished) }
      | _ => g
  | .restart => { g with sockets := .empty, registry := .empty, tasks := .empty }

def run (S : Setup) (es : List Event) : Server := runFrom (step S) Server.initial es

/-! ## What is heard -/

/-- The socket and its message that `accept_sequence` takes at this event. -/
def taken (g : Server) : Event → Option (Socket × Message)
  | .socket socket .acceptSequence =>
      match g.sockets.get? socket with
      | some row =>
          match row.stage with
          | .connected (.received m) c =>
              if g.registry.isCurrent row c ∧ c.judge m = .accepted then some (row, m) else none
          | _ => none
      | none => none
  | _ => none

/-- The socket whose heartbeat is marked at this event. -/
def marked (g : Server) : Event → Option Socket
  | .socket socket .markHeartbeat =>
      match g.sockets.get? socket with
      | some row =>
          match row.stage with
          | .connected .marking c => if g.registry.isCurrent row c then some row else none
          | _ => none
      | none => none
  | _ => none

/-- The event hands a report or a heartbeat of the device on. -/
def Heard (g : Server) (e : Event) (deviceId : String) : Prop :=
  (∃ row m, taken g e = some (row, m) ∧ row.deviceId = deviceId) ∨
    ∃ row, marked g e = some row ∧ row.deviceId = deviceId

end AutocadMcp.Sockets
