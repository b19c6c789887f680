import AutocadMcp.Lib.Table
import AutocadMcp.Gateway.JobState

/-!
# The Gateway database

The tables that the job service reads and writes, with the columns its code
uses. The JSON columns keep their values; `created_at` and `updated_at` are left
out, `ORDER BY created_at` is the insertion order of the rows.
-/

namespace AutocadMcp.Gateway

abbrev Owner := Nat
abbrev DocumentId := Nat
abbrev ReceiptId := Nat

/-- What the Gateway raises. -/
inductive Failure where
  | repositoryConflict (code : String)
  | invalidJobTransition (message : String)
  | durableJobError (code : String) (jobId : Option JobId) (jobState : Option JobState)
  /-- An SQL constraint. -/
  | integrityError
  /-- `ValueError`, `TypeError` and `KeyError`. -/
  | valueError
  /-- The socket is gone or the send timed out. -/
  | sendFailed
  /-- `sqlite3.OperationalError`. -/
  | operationalError
  deriving DecidableEq, Repr

/-- The value of `progress_json`. -/
structure Progress where
  phase : String
  percent : Int
  message : String
  sequence : Int
  deriving DecidableEq

def Progress.toJson (p : Progress) : Json :=
  .obj [("message", .str p.message), ("percent", .num p.percent), ("phase", .str p.phase),
    ("sequence", .num p.sequence)]

/-- A row of `jobs`. -/
structure JobRow where
  jobId : JobId
  ownerSubject : Owner
  deviceId : DeviceId
  kind : JobKind
  effectClass : EffectClass
  state : JobState
  stateVersion : Nat
  deadlineAt : Option Deadline
  commandId : CommandId
  idempotencyKey : IdempotencyKey
  payloadHash : Digest
  payload : Json
  requestFingerprint : Option Digest
  progress : Option Progress
  lastAgentSequence : Int
  result : Option Json
  errorCode : Option String
  errorSummary : Option String
  cancelRequestedAt : Option Instant
  deriving DecidableEq

inductive EventType where
  | state
  | progress
  deriving DecidableEq, Repr

/-- A row of `job_events`. -/
structure JobEvent where
  jobId : JobId
  sequence : Nat
  eventType : EventType
  state : JobState
  progress : Option Progress
  errorCode : Option String
  result : Option Json
  deriving DecidableEq

/-- A row of `cad_program_write_locks`. -/
structure LockRow where
  deviceId : DeviceId
  documentId : DocumentId
  jobId : JobId
  deriving DecidableEq, Repr

/-- The primary key of a lock row. -/
def LockRow.document (l : LockRow) : DeviceId × DocumentId := (l.deviceId, l.documentId)

/-- A row of `agent_sessions`; `active` is `disconnected_at IS NULL`. -/
structure SessionRow where
  sessionId : SessionId
  deviceId : DeviceId
  active : Bool
  deriving DecidableEq, Repr

/-- A row of `devices`. -/
structure DeviceRow where
  deviceId : DeviceId
  ownerSubject : Owner
  capabilities : List String
  packages : List Json
  deriving DecidableEq

/-- A row of `program_idempotency`. -/
structure IdempotencyRow where
  ownerSubject : Owner
  action : String
  idempotencyKey : IdempotencyKey
  requestHash : Digest
  responseId : Nat
  deriving DecidableEq, Repr

/-- A row of `cad_execution_receipts`, with the columns a repeated commit is
compared with. -/
structure ReceiptRow where
  receiptId : ReceiptId
  ownerSubject : Owner
  previewId : Json
  programDigest : Json
  bindingDigest : Json
  previewExecutionDigest : Json
  deriving DecidableEq

/-- A row of `snapshots`. -/
structure SnapshotRow where
  snapshotId : String
  jobId : JobId
  documentRevision : String
  observationLevel : String
  deriving DecidableEq, Repr

abbrev LockTable := Table LockRow.document

structure Db where
  jobs : Table JobRow.jobId
  events : List JobEvent
  locks : LockTable
  sessions : Table SessionRow.sessionId
  devices : Table DeviceRow.deviceId
  idempotency : List IdempotencyRow
  receipts : List ReceiptRow
  snapshots : List SnapshotRow

/-! ## Reads -/

namespace Db

def job? (db : Db) (jobId : JobId) : Option JobRow := db.jobs.get? jobId

/-- `get_job`. -/
def getJob (db : Db) (owner : Owner) (jobId : JobId) : Option JobRow :=
  (db.job? jobId).filter (fun row => row.ownerSubject = owner)

/-- `get_job_by_command`. -/
def getJobByCommand (db : Db) (deviceId : DeviceId) (commandId : CommandId) : Option JobRow :=
  db.jobs.rows.find? (fun row => row.deviceId = deviceId ∧ row.commandId = commandId)

/-- `jobs_for_device`. -/
def jobsForDevice (db : Db) (deviceId : DeviceId) : List JobRow :=
  db.jobs.rows.filter (fun row => row.deviceId = deviceId ∧ !isTerminal row.state)

/-- `all_nonterminal_jobs`. -/
def allNonterminalJobs (db : Db) : List JobRow :=
  db.jobs.rows.filter (fun row => !isTerminal row.state)

/-- `get_device`. -/
def getDevice (db : Db) (owner : Owner) (deviceId : DeviceId) : Option DeviceRow :=
  (db.devices.get? deviceId).filter (fun row => row.ownerSubject = owner)

/-- The session is this device's and not disconnected. -/
def sessionActive (db : Db) (sessionId : SessionId) (deviceId : DeviceId) : Bool :=
  db.sessions.rows.any (fun s => s.sessionId = sessionId ∧ s.deviceId = deviceId ∧ s.active)

/-- The events of one job, in the order of their insertion. -/
def eventsOf (db : Db) (jobId : JobId) : List JobEvent :=
  db.events.filter (fun e => e.jobId = jobId)

/-! ## Writes -/

/-- `INSERT INTO jobs`: the primary key and both `UNIQUE` constraints. -/
def insertJob (db : Db) (row : JobRow) : Except Failure Db :=
  if db.jobs.rows.any (fun r => r.commandId = row.commandId ∨
      (r.ownerSubject = row.ownerSubject ∧ r.deviceId = row.deviceId ∧
        r.idempotencyKey = row.idempotencyKey)) then
    .error .integrityError
  else
    match db.jobs.insert row with
    | none => .error .integrityError
    | some jobs => .ok { db with jobs := jobs }

/-- `UPDATE jobs SET … WHERE job_id = ? AND …`; `none` is a row count of zero. -/
def updateJob (db : Db) (jobId : JobId) (cond : JobRow → Bool) (set : JobRow → JobRow)
    (hset : ∀ row, (set row).jobId = row.jobId) : Option Db :=
  match db.job? jobId with
  | some row => if cond row then some { db with jobs := db.jobs.modify jobId set hset } else none
  | none => none

/-- `SELECT COALESCE(MAX(sequence), 0) + 1 FROM job_events WHERE job_id = ?`. -/
def nextSequence (db : Db) (jobId : JobId) : Nat :=
  ((db.eventsOf jobId).map JobEvent.sequence).foldr max 0 + 1

/-- `INSERT INTO job_events` under the next sequence of its job. -/
def pushEvent (db : Db) (jobId : JobId) (eventType : EventType) (state : JobState)
    (progress : Option Progress) (errorCode : Option String) (result : Option Json) : Db :=
  { db with
    events := db.events ++
      [⟨jobId, db.nextSequence jobId, eventType, state, progress, errorCode, result⟩] }

/-- `INSERT INTO cad_program_write_locks`: the document and the job are both unique. -/
def insertLock (locks : LockTable) (lock : LockRow) : Except Failure LockTable :=
  if locks.rows.any (fun l => l.jobId = lock.jobId) then
    .error .integrityError
  else
    match locks.insert lock with
    | none => .error .integrityError
    | some locks => .ok locks

/-- `DELETE FROM cad_program_write_locks WHERE job_id = ?`. -/
def dropLocksOf (locks : LockTable) (jobId : JobId) : LockTable :=
  locks.deleteWhere (fun l => l.jobId = jobId)

end Db

end AutocadMcp.Gateway
