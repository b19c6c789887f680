import AutocadMcp.Lib.Machine
import AutocadMcp.Gateway.AgentReports

/-!
# A running Gateway

The tasks of one Gateway process around the job service: the sockets with their
handshake, activation and message loop, the dispatches with the lock that they
hold while they send, the maintenance, the callers of the tools, and restarts.
A step runs one task up to its next suspension, which is a send.
-/

namespace AutocadMcp.Gateway

/-! ## Connections -/

/-- `registry.add`. -/
def GatewayState.register (g : GatewayState) (connection : Connection) : GatewayState :=
  { g with
    registry := g.registry.filter (fun c => c.deviceId ≠ connection.deviceId) ++ [connection] }

/-- `registry.remove`. -/
def GatewayState.unregister (g : GatewayState) (deviceId : DeviceId) (sessionId : SessionId) :
    GatewayState :=
  if g.isCurrent deviceId sessionId then
    { g with registry := g.registry.filter (fun c => c.deviceId ≠ deviceId) }
  else g

/-- `registry.mark_heartbeat`: the registered connection with its new attributes. -/
def GatewayState.heartbeat (g : GatewayState) (connection : Connection) : GatewayState :=
  { g with
    registry := g.registry.map fun c =>
      if c.deviceId = connection.deviceId ∧ c.sessionId = connection.sessionId then connection
      else c }

/-- The columns of the device that `activate_session` writes. -/
def advertise (connection : Connection) (device : DeviceRow) : DeviceRow :=
  { device with capabilities := connection.capabilities, packages := connection.packages }

def GatewayState.advertised (g : GatewayState) (connection : Connection) : GatewayState :=
  match g.db.devices.get? connection.deviceId with
  | some device =>
      { g with db := { g.db with devices := g.db.devices.put (advertise connection device) } }
  | none => g

section

variable (cfg : Config) (env : Env)

/-! ## Activation -/

/-- `handle_connected`, its first loop: a job whose cancellation was sent on an earlier session. -/
def normalizeJob (job : JobRow) : Handler (Option JobRow) :=
  if job.state = .cancelRequested then
    tryCatch
      (do
        let updated ← transition cfg env job.jobId (moveTo env (lostTarget job))
        return some (updated.getD job))
      (fun e => if e.isRace then getInternalJob job.jobId else throw e)
  else
    return some job

def normalizeJobs : List JobRow → Handler (List JobRow)
  | [] => return []
  | job :: rest => do
      let job ← normalizeJob cfg env job
      let rest ← normalizeJobs rest
      return job.toList ++ rest

/-- A job that the Agent is asked about. -/
def isRecovering : JobState → Bool
  | .reconnectPending | .outcomeUnknown => true
  | _ => false

/-- `recovery_jobs[offset : offset + 64] for offset in range(0, len(recovery_jobs), 64)` -/
def reconcileBatches (jobs : List JobRow) : List (List JobRow) :=
  (List.range ((jobs.length + 63) / 64)).map fun i => (jobs.drop (64 * i)).take 64

/-- `handle_connected` up to its first send: the batches it will ask about, and the jobs it will
dispatch. -/
def beginActivation (connection : Connection) : Handler (List (List JobRow) × List JobId) := do
  let g ← get
  let jobs ← normalizeJobs cfg env (g.db.jobsForDevice connection.deviceId)
  return (reconcileBatches (jobs.filter fun job => isRecovering job.state),
    (jobs.filter fun job => job.state = .queued).map JobRow.jobId)

/-- The errors of a dispatch that leave the activation going. -/
def isTolerated : Failure → Bool
  | .durableJobError code _ _ => code = "device_offline" || code = "capability_missing"
  | _ => false

/-- `on_agent_disconnected`. -/
def onDisconnected (connection : Connection) : Handler Unit := do
  let _ ← perform env fun db => closeSession db connection.deviceId connection.sessionId
  let g ← get
  if g.isCurrent connection.deviceId connection.sessionId then
    handleDisconnect cfg env connection.deviceId

/-! ## The process -/

/-- A dispatch that is suspended in its send and holds `_dispatch_lock`; `activation` is the
session whose `handle_connected` waits for it. -/
structure InFlight where
  connection : Connection
  command : CommandMessage
  activation : Option SessionId

/-- Where the task of a socket is. -/
inductive Phase where
  /-- Registered; `on_connected` has not been called. -/
  | welcomed
  /-- Inside `handle_connected`, with the reconcile messages and the dispatches that are left. -/
  | activating (batches : List (List JobRow)) (queued : List JobId)
  /-- In the message loop. -/
  | serving

structure Endpoint where
  connection : Connection
  phase : Phase

def Endpoint.sessionId (endpoint : Endpoint) : SessionId := endpoint.connection.sessionId

/-- A Gateway process. `opened` are the session ids in use so far, none of which is issued twice,
and `acquired` the write locks that were taken with a new job. -/
structure World where
  gateway : GatewayState
  inFlight : Option InFlight
  endpoints : Table Endpoint.sessionId
  opened : List SessionId
  acquired : List LockRow

namespace World

def setPhase (w : World) (sessionId : SessionId) (phase : Phase) : World :=
  { w with
    endpoints := w.endpoints.modify sessionId (fun e => { e with phase := phase }) (fun _ => rfl) }

def dropEndpoint (w : World) (sessionId : SessionId) : World :=
  { w with endpoints := w.endpoints.deleteWhere fun e => e.sessionId = sessionId }

/-- Runs a handler whose outcome its caller does not look at. -/
def perform (w : World) (m : Handler Unit) : World :=
  { w with gateway := (Eff.exec m w.gateway).2 }

/-- The `finally` of the socket's task. -/
def close (w : World) (connection : Connection) : World :=
  let w := w.perform (onDisconnected cfg env connection)
  { w.dropEndpoint connection.sessionId with
    gateway := w.gateway.unregister connection.deviceId connection.sessionId }

/-- A connection that is turned away before its message loop. -/
def reject (w : World) (connection : Connection) : World :=
  close cfg env
    { w with gateway := w.gateway.unregister connection.deviceId connection.sessionId } connection

/-- `dispatch` up to its send, which starts. -/
def beginDispatch (w : World) (jobId : JobId) (activation : Option SessionId) :
    Option Failure × World :=
  match Eff.exec (prepareDispatch cfg env jobId) w.gateway with
  | (.ok (some (connection, command)), g) =>
      (none, { w with
        gateway := { g with sent := g.sent ++ [.command command] }
        inFlight := some ⟨connection, command, activation⟩ })
  | (.ok none, g) => (none, { w with gateway := g })
  | (.error e, g) => (some e, { w with gateway := g })

/-- The rest of `dispatch`: a send that raised means that the device is lost. -/
def endDispatch (w : World) (inFlight : InFlight) (sent : Bool) : World :=
  let w := { w with inFlight := none }
  if sent then w
  else
    match Eff.exec (handleDisconnect cfg env inFlight.command.deviceId) w.gateway with
    | (.ok _, g) => { w with gateway := g }
    | (.error _, g) =>
        let w := { w with gateway := g }
        match inFlight.activation.bind w.endpoints.get? with
        | some endpoint => w.reject cfg env endpoint.connection
        | none => w

/-- `on_agent_connected` up to its first send. -/
def activate (w : World) (connection : Connection) : World :=
  match Eff.exec (Gateway.perform env fun db =>
      activateSession db connection.deviceId connection.sessionId) w.gateway with
  | (.ok _, g) =>
      match Eff.exec (beginActivation cfg env connection) (g.advertised connection) with
      | (.ok (batches, queued), g) =>
          { w with gateway := g }.setPhase connection.sessionId (.activating batches queued)
      | (.error _, g) => { w with gateway := g }.reject cfg env connection
  | (.error _, g) => { w with gateway := g }.reject cfg env connection

/-- `handle_connected` from one suspension to the next. -/
def proceed (w : World) (connection : Connection) : List (List JobRow) → List JobId → World
  | batch :: batches, queued =>
      match Eff.exec (sendReconcile env connection batch) w.gateway with
      | (.ok _, g) => { w with gateway := g }.setPhase connection.sessionId
          (.activating batches queued)
      | (.error _, g) => { w with gateway := g }.reject cfg env connection
  | [], jobId :: queued =>
      if w.inFlight.isSome then w
      else
        match (w.setPhase connection.sessionId (.activating [] queued)).beginDispatch cfg env jobId
            (some connection.sessionId) with
        | (none, w) => w
        | (some e, w) => if isTolerated e then w else w.reject cfg env connection
  | [], [] =>
      if w.inFlight.any (fun f => f.activation = some connection.sessionId) then w
      else w.setPhase connection.sessionId .serving

end World

/-! ## Events -/

inductive Event where
  | createJob (a : CreateJob)
  | createActionJob (a : CreateActionJob)
  | releaseIntent (a : ReleaseIntent)
  /-- The identity service writes a device. -/
  | enrol (device : DeviceRow)
  | dispatch (env : Env) (jobId : JobId)
  /-- The send of the dispatch returns or raises. -/
  | dispatched (env : Env) (sent : Bool)
  | message (env : Env) (sessionId : SessionId) (m : AgentMessage)
  /-- Evidence arrives that contradicts the stored one. -/
  | evidence (env : Env) (owner : Owner) (jobId : JobId)
  | cancel (env : Env) (owner : Owner) (jobId : JobId) (reason : String)
  | sweep (env : Env)
  /-- The maintenance finds a connection stale. -/
  | stale (env : Env) (deviceId : DeviceId)
  | connect (connection : Connection)
  | heartbeat (connection : Connection)
  | activate (env : Env) (sessionId : SessionId)
  | proceed (env : Env) (sessionId : SessionId)
  | reject (env : Env) (sessionId : SessionId)
  | close (env : Env) (sessionId : SessionId)
  | restart (env : Env)

/-- The lock that a created job took. -/
def acquiredBy (a : CreateActionJob) : ActionJob × Bool → List LockRow
  | (.job row, false) =>
      if a.acquireWriteLock then [⟨a.deviceId, a.documentId, row.jobId⟩] else []
  | _ => []

namespace World

def endpoint? (w : World) (sessionId : SessionId) : Option Endpoint :=
  w.endpoints.get? sessionId

def setDb (w : World) (db : Db) : World :=
  { w with gateway := { w.gateway with db := db } }

def createActionJob (w : World) (a : CreateActionJob) : World :=
  match Gateway.createActionJob cfg.codec w.gateway.db a with
  | .ok (r, db) => { w.setDb db with acquired := w.acquired ++ acquiredBy a r }
  | .error _ => w

def releaseIntent (w : World) (a : ReleaseIntent) : World :=
  match Gateway.releaseIntent cfg.codec w.gateway.db a with
  | .ok (_, db) =>
      { w.setDb db with acquired := w.acquired ++ [⟨a.deviceId, a.documentId, a.jobId⟩] }
  | .error _ => w

/-- The message loop handles a message of the current connection. -/
def receive (w : World) (connection : Connection) (m : AgentMessage) : World :=
  if w.gateway.isCurrent connection.deviceId connection.sessionId ∧ m.valid cfg.fits then
    w.perform (handleMessage cfg env connection m)
  else w

/-- A new socket has shown who it is. -/
def connect (w : World) (connection : Connection) : World :=
  if connection.sessionId ∈ w.opened then w
  else
    match w.endpoints.insert ⟨connection, .welcomed⟩ with
    | some endpoints =>
        { w with
          gateway := w.gateway.register connection
          endpoints := endpoints
          opened := w.opened ++ [connection.sessionId] }
    | none => w

/-- `_run_maintenance_once` for one connection: it is registered, stale, and its session open. -/
def expire (w : World) (deviceId : DeviceId) : World :=
  match w.gateway.current? deviceId with
  | some connection =>
      if env.fresh connection.sessionId = false ∧
          w.gateway.db.sessionActive connection.sessionId deviceId then
        w.perform (handleDisconnect cfg env deviceId)
      else w
  | none => w

/-- The process ends and starts again on its database. -/
def restart (w : World) : World :=
  let w : World :=
    { w with
      gateway := { w.gateway with registry := [] }
      inFlight := none
      endpoints := .empty }
  w.perform (startupRecovery cfg env)

def step (w : World) : Event → World
  | .createJob a => w.setDb (Call.run cfg.codec w.gateway.db (.createJob a))
  | .createActionJob a => w.createActionJob cfg a
  | .releaseIntent a => w.releaseIntent cfg a
  | .enrol device => { w with gateway := Action.run cfg.codec w.gateway (.enrol device) }
  | .dispatch env jobId =>
      if w.inFlight.isSome then w else (w.beginDispatch cfg env jobId none).2
  | .dispatched env sent =>
      match w.inFlight with
      | some inFlight => w.endDispatch cfg env inFlight sent
      | none => w
  | .message env sessionId m =>
      match w.endpoint? sessionId with
      | some ⟨connection, .serving⟩ => w.receive cfg env connection m
      | _ => w
  | .evidence env owner jobId => w.perform (evidenceConflict cfg env owner jobId)
  | .cancel env owner jobId reason => w.perform (cancelJob cfg env owner jobId reason)
  | .sweep env => w.perform (sweepDeadlines cfg env)
  | .stale env deviceId => w.expire cfg env deviceId
  | .connect connection => w.connect connection
  | .heartbeat connection => { w with gateway := w.gateway.heartbeat connection }
  | .activate env sessionId =>
      match w.endpoint? sessionId with
      | some ⟨connection, .welcomed⟩ => w.activate cfg env connection
      | _ => w
  | .proceed env sessionId =>
      match w.endpoint? sessionId with
      | some ⟨connection, .activating batches queued⟩ =>
          w.proceed cfg env connection batches queued
      | _ => w
  | .reject env sessionId =>
      match w.endpoint? sessionId with
      | some ⟨_, .serving⟩ | none => w
      | some ⟨connection, _⟩ => w.reject cfg env connection
  | .close env sessionId =>
      match w.endpoint? sessionId with
      | some endpoint => w.close cfg env endpoint.connection
      | none => w
  | .restart env => w.restart cfg env

/-- A process that has just started on a database without jobs. -/
def initial (db : Db) : World where
  gateway := ⟨{ db with jobs := .empty, events := [], locks := .empty }, [], []⟩
  inFlight := none
  endpoints := .empty
  opened := []
  acquired := []

end World

/-- The process after a list of events. -/
def runEvents (db : Db) (events : List Event) : World :=
  runFrom (World.step cfg) (World.initial db) events

end

/-! ## A concrete Gateway -/

/-- The pins of a Phase 8 plan on one managed host. -/
def samplePins : Json :=
  .obj [
    ("policy_version", .str "policy-1"),
    ("capability_manifest_hash", .str "sha256:c1"),
    ("operation_registry_hash", .str "sha256:c2"),
    ("operation_registry_version", .str "1"),
    ("package_id", .str "managed-host"),
    ("package_hash", .str "sha256:c3"),
    ("package_version", .str "1.0"),
    ("runtime_id", .str "managed_dotnet"),
    ("runtime_role", .str "primary"),
    ("host_family", .str "R25"),
    ("host_version", .str "25.0"),
    ("rollout_policy_digest", .str "sha256:d5")]

/-- The payload of a Program job that is bound to a Phase 8 plan. -/
def samplePayload : Json :=
  .obj [
    ("binding", .obj [
      ("schema_version", .str "cad.execution-binding/1"),
      ("execution_plan_digest", .str "sha256:d1"),
      ("effect_manifest_digest", .str "sha256:d2"),
      ("target_refs_digest", .str "sha256:d3"),
      ("hard_budgets_digest", .str "sha256:d4"),
      ("receipt_id", .str "receipt-1")]),
    ("execution_plan", .obj [("execution_pins", samplePins)])]

def sampleBinding : Json := field samplePayload "binding"

/-- A host that satisfies the pins and may write. -/
def sampleConnection (sessionId : SessionId) : Connection where
  deviceId := 1
  sessionId := sessionId
  capabilities := ["observe", "program_preview", "program_commit", "program_validate"]
  paused := false
  packages := [pinnedPackage samplePins]
  capabilityManifest := some <| .obj [("cad_products", .arr [.obj [
    ("runtime", .obj [
      ("id", .str "managed_dotnet"),
      ("role", .str "primary"),
      ("host_family", .str "R25"),
      ("host_version", .str "25.0")]),
    ("edition", .str "full")]])]
  capabilityManifestHash := some "c1"
  operationRegistryHash := some "c2"
  registryVersion := some "1"
  writeLockEnabled := true
  hardPause := false
  activeDocumentId := some "document-1"
  activeDocumentRevision := some "1"

/-- A service that may write on device 1; the hashes are those of `constantCodec`. -/
def sampleConfig : Config where
  codec := constantCodec
  policy := ⟨.null, some "policy-1", true, [1]⟩
  fits _ _ _ := true
  hasProgramRepository := true
  phase7 := some true
  programCommandHash _ := .ok 0
  rollbackCommandHash _ := .ok 0
  buildCommand _ := .ok ()
  validateC1Observation _ _ _ := none
  normalizeC1Snapshot := id

/-- Device 1 of owner 7. -/
def sampleDb : Db :=
  oneDeviceDb 1 7 0 ["observe", "program_preview", "program_commit", "program_validate"]

/-- A released intent to commit the sample payload, due at 1000: job 10 with command 20. -/
def sampleIntent : ReleaseIntent where
  owner := 7
  deviceId := 1
  documentId := 5
  action := .programCommit
  payload := samplePayload
  payloadHash := 0
  requestFingerprint := 0
  deadlineAt := .at 1000
  jobId := 10
  commandId := 20
  idempotencyKey := 30
  refusal := none

/-- A socket that shows who it is and is activated; nothing has to be reconciled. -/
def sampleSession (sessionId : SessionId) : List Event :=
  [.connect (sampleConnection sessionId), .activate { now := 100 } sessionId,
    .proceed { now := 100 } sessionId]

/-- The sample commit is released and its command sent on session 1. -/
def sampleDispatch : List Event :=
  sampleSession 1 ++
    [.releaseIntent sampleIntent, .dispatch { now := 200 } 10, .dispatched { now := 200 } true]

/-- The Agent accepts the command of the sample commit. -/
def sampleAccepted : AckMessage where
  sessionId := 1
  deviceId := 1
  jobId := 10
  commandId := 20
  sequence := 1
  payloadHash := 0
  status := .accepted
  idempotencyKey := 30
  reason := none

end AutocadMcp.Gateway
