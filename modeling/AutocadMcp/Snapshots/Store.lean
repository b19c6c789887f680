import AutocadMcp.Contracts.CanonicalJson
import AutocadMcp.Contracts.Messages
import AutocadMcp.Lib.JsonFields
import AutocadMcp.Lib.Table

/-!
# The snapshot store

Observed drawings are kept in memory for a while: an ordered dictionary of snapshots, an index from
artifacts to snapshots and a count of bytes. What is too old goes when the store is next used, and
the oldest go first where a new snapshot needs the room. Numbers inside the observed values are
carried as the text that `json.dumps` gives them.
-/

namespace AutocadMcp.Snapshots

open JsonText CanonicalJson

structure Entity where
  entityId : String
  entityType : String
  layer : String
  geometry : Doc

structure SnapshotRecord where
  snapshotId : String
  ownerSubject : String
  deviceId : String
  documentRevision : String
  observationLevel : String
  drawing : Doc
  entitySummary : List (String × Nat)
  entities : List Entity
  artifactId : Option String
  artifactBytes : Option (List UInt8)

/-! ## Sizes -/

def Entity.doc (e : Entity) : Doc :=
  fields [("entity_id", text e.entityId), ("entity_type", text e.entityType),
    ("layer", text e.layer), ("geometry", e.geometry)]

/-- `canonical_json`. -/
def canonicalText (d : Doc) : List Char :=
  write (fun c => (dumpsForm c).encode c) (sortKeys codePointLe d)

def SnapshotRecord.doc (r : SnapshotRecord) : Doc :=
  fields [("snapshot_id", text r.snapshotId), ("owner_subject", text r.ownerSubject),
    ("device_id", text r.deviceId), ("document_revision", text r.documentRevision),
    ("observation_level", text r.observationLevel), ("drawing", r.drawing),
    ("entity_summary", fields (r.entitySummary.map fun e => (e.1, integer e.2))),
    ("entities", .array (r.entities.map Entity.doc)),
    ("artifact_id", r.artifactId.elim .null text)]

/-- `_record_size`. -/
def recordSize (r : SnapshotRecord) : Nat :=
  utf8Length (canonicalText r.doc) + (r.artifactBytes.getD []).length

/-- The artifact of a snapshot; an empty id is none. -/
def SnapshotRecord.artifact? (r : SnapshotRecord) : Option String := r.artifactId.filter (· ≠ "")

/-! ## The store -/

structure Limits where
  ttlSeconds : Nat
  maxCount : Nat
  maxTotalBytes : Nat
  ttl_pos : 0 < ttlSeconds
  count_pos : 0 < maxCount
  bytes_pos : 0 < maxTotalBytes

inductive Failure where
  | valueError (message : String)
  /-- `SnapshotStoreFull`. -/
  | full (message : String)
  deriving DecidableEq, Repr

/-- A `_StoredSnapshot`. -/
structure Stored where
  record : SnapshotRecord
  createdAt : Instant
  sizeBytes : Nat

def Stored.snapshotId (x : Stored) : String := x.record.snapshotId

/-- An entry of `_artifact_to_snapshot`. -/
structure ArtifactRow where
  artifactId : String
  snapshotId : String
  deriving DecidableEq, Repr

/-- A `BoundedSnapshotStore`. -/
structure Store where
  snapshots : Table Stored.snapshotId
  artifacts : Table ArtifactRow.artifactId
  totalBytes : Int

def Store.empty : Store := ⟨.empty, .empty, 0⟩

/-- `_evict`. -/
def Store.evict (s : Store) (snapshotId : String) : Store :=
  match s.snapshots.get? snapshotId with
  | none => s
  | some stored =>
      { snapshots := s.snapshots.deleteWhere fun x => x.snapshotId = snapshotId
        artifacts := match stored.record.artifact? with
          | some artifactId => s.artifacts.deleteWhere fun row => row.artifactId = artifactId
          | none => s.artifacts
        totalBytes := s.totalBytes - stored.sizeBytes }

def Limits.isExpired (L : Limits) (now : Instant) (x : Stored) : Bool :=
  L.ttlSeconds ≤ now - x.createdAt

/-- `cleanup`. -/
def Store.cleanup (L : Limits) (now : Instant) (s : Store) : Store :=
  ((s.snapshots.rows.filter (L.isExpired now)).map Stored.snapshotId).foldl Store.evict s

def Store.hasRoom (L : Limits) (size : Nat) (s : Store) : Bool :=
  s.snapshots.rows.length < L.maxCount && s.totalBytes + size ≤ L.maxTotalBytes

/-- The loop of `add` that evicts the oldest snapshot until there is room, at most `fuel` times. -/
def Store.makeRoom (L : Limits) (size : Nat) : Nat → Store → Store
  | 0, s => s
  | fuel + 1, s =>
      match s.snapshots.rows with
      | [] => s
      | oldest :: _ =>
          if s.hasRoom L size then s else makeRoom L size fuel (s.evict oldest.snapshotId)

/-- A snapshot that has room is stored. -/
def Store.stored (s : Store) (record : SnapshotRecord) (now : Instant) (size : Nat) : Store where
  snapshots := s.snapshots.put ⟨record, now, size⟩
  artifacts := match record.artifact? with
    | some artifactId => s.artifacts.put ⟨artifactId, record.snapshotId⟩
    | none => s.artifacts
  totalBytes := s.totalBytes + size

/-- `add`. -/
def Store.add (L : Limits) (s : Store) (record : SnapshotRecord) (now : Instant) :
    Except Failure Unit × Store :=
  let s := s.cleanup L now
  if (s.snapshots.get? record.snapshotId).isSome then
    (.error (.valueError "snapshot ID already exists"), s)
  else if record.artifact?.any fun artifactId => (s.artifacts.get? artifactId).isSome then
    (.error (.valueError "artifact ID already exists"), s)
  else
    let size := recordSize record
    if L.maxTotalBytes < size then
      (.error (.full "snapshot exceeds the local store byte limit"), s)
    else
      let s := s.makeRoom L size s.snapshots.rows.length
      if s.hasRoom L size then (.ok (), s.stored record now size)
      else (.error (.full "snapshot cannot fit in the local store"), s)

/-- `get_snapshot`. -/
def Store.getSnapshot (L : Limits) (s : Store) (snapshotId ownerSubject : String) (now : Instant) :
    Option SnapshotRecord × Store :=
  let s := s.cleanup L now
  match s.snapshots.get? snapshotId with
  | none => (none, s)
  | some stored =>
      (if stored.record.ownerSubject = ownerSubject then some stored.record else none, s)

/-- `get_artifact`. -/
def Store.getArtifact (L : Limits) (s : Store) (artifactId ownerSubject : String) (now : Instant) :
    Option (List UInt8) × Store :=
  let s := s.cleanup L now
  match s.artifacts.get? artifactId with
  | none => (none, s)
  | some row =>
      match s.snapshots.get? row.snapshotId with
      | none => (none, s)
      | some stored =>
          (if stored.record.ownerSubject = ownerSubject ∧ stored.record.artifactId = some artifactId
            then stored.record.artifactBytes else none, s)

/-! ## Calls -/

inductive Call where
  | add (record : SnapshotRecord) (now : Instant)
  | getSnapshot (snapshotId ownerSubject : String) (now : Instant)
  | getArtifact (artifactId ownerSubject : String) (now : Instant)
  | cleanup (now : Instant)
  | snapshotCount (now : Instant)
  | totalBytes (now : Instant)
  | artifactCount (now : Instant)
  | clear

/-- When the call reads the clock. -/
def Call.now? : Call → Option Instant
  | .add _ now | .getSnapshot _ _ now | .getArtifact _ _ now | .cleanup now | .snapshotCount now
  | .totalBytes now | .artifactCount now => some now
  | .clear => none

inductive Answer where
  | added (outcome : Except Failure Unit)
  | snapshot (found : Option SnapshotRecord)
  | artifact (found : Option (List UInt8))
  | count (n : Int)
  | done

def Store.call (L : Limits) (s : Store) : Call → Answer × Store
  | .add record now => ((Answer.added (s.add L record now).1), (s.add L record now).2)
  | .getSnapshot snapshotId ownerSubject now =>
      (.snapshot (s.getSnapshot L snapshotId ownerSubject now).1,
        (s.getSnapshot L snapshotId ownerSubject now).2)
  | .getArtifact artifactId ownerSubject now =>
      (.artifact (s.getArtifact L artifactId ownerSubject now).1,
        (s.getArtifact L artifactId ownerSubject now).2)
  | .cleanup now => (.done, s.cleanup L now)
  | .snapshotCount now =>
      (.count (s.cleanup L now).snapshots.rows.length, s.cleanup L now)
  | .totalBytes now => (.count (s.cleanup L now).totalBytes, s.cleanup L now)
  | .artifactCount now => (.count (s.cleanup L now).artifacts.rows.length, s.cleanup L now)
  | .clear => (.done, .empty)

/-- The store after some calls. -/
def Store.after (L : Limits) (calls : List Call) : Store :=
  calls.foldl (fun s c => (s.call L c).2) .empty

end AutocadMcp.Snapshots
