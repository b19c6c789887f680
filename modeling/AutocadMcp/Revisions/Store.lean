import AutocadMcp.Lib.Table
import AutocadMcp.Lib.Checked
import AutocadMcp.Contracts.Json
import AutocadMcp.Gateway.Repository
import AutocadMcp.Program.Numbers
import Mathlib

/-!
# Revisions, sealed plans and conflict reports

The Phase 8 tables of the gateway that hold the revisions of a program, the plans
sealed for them, and the conflict reports with their events, with the validators and
the queries that the operations share.
-/

namespace AutocadMcp.Revisions

open Gateway (Failure conflict)
open Program (isDigest)

/-! ## Rows -/

inductive LineageKind where
  | root
  | patch
  | rebase
  | conflictResolution
  deriving DecidableEq

def LineageKind.named : List (String × LineageKind) :=
  [("root", .root), ("patch", .patch), ("rebase", .rebase),
    ("conflict_resolution", .conflictResolution)]

inductive RequestKind where
  | patch
  | rebase
  deriving DecidableEq

def RequestKind.named : List (String × RequestKind) := [("patch", .patch), ("rebase", .rebase)]

inductive ConflictState where
  | «open»
  | resolved
  | abandoned
  deriving DecidableEq

/-- `_TERMINAL_CONFLICT_STATES`. -/
def ConflictState.terminal : List (String × ConflictState) :=
  [("resolved", .resolved), ("abandoned", .abandoned)]

structure DeviceRow where
  ownerSubject : String
  deviceId : String

structure SnapshotRow where
  ownerSubject : String
  snapshotId : String
  deviceId : String
  documentRevision : String

/-- A row of `cad_programs`. -/
structure ProgramRow where
  programId : String
  ownerSubject : String
  deviceId : String
  documentId : String
  createdAt : String
  updatedAt : String

/-- A row of `phase8_program_revisions`. -/
structure RevisionRow where
  programId : String
  revision : Int
  ownerSubject : String
  deviceId : String
  documentId : String
  sourceSnapshotId : String
  expectedDocumentRevision : String
  sourceDigest : String
  semanticDigest : String
  sourceJson : String
  lineageKind : LineageKind
  parentRevision : Option Int
  baseRevision : Option Int
  lineageRequestDigest : Option String
  createdAt : String

def RevisionRow.key (r : RevisionRow) : String × Int := (r.programId, r.revision)

/-- A row of `phase8_execution_plans`. -/
structure PlanRow where
  planId : String
  ownerSubject : String
  programId : String
  programRevision : Int
  sourceDigest : String
  semanticDigest : String
  compilerId : String
  compilerVersion : String
  compilerHash : String
  planDigest : String
  expansionDigest : String
  effectDigest : String
  targetSetDigest : String
  referenceDigest : String
  planJson : String
  effectManifestJson : String
  trustedEffectSummaryJson : String
  riskClass : String
  hardBudgetsJson : String
  requiredCapabilitiesJson : String
  operationPacksJson : String
  validationProfilesJson : String
  runtimePinsJson : String
  checkpointStrategy : String
  createCount : Int
  modifyCount : Int
  eraseCount : Int
  rolloutPolicyDigest : String
  rolloutPolicyEpoch : Int
  sealedAt : String

/-- A row of `phase8_conflict_reports`. -/
structure ReportRow where
  conflictReportId : String
  ownerSubject : String
  programId : String
  sourceRevision : Int
  candidateRevision : Int
  requestKind : RequestKind
  oldSnapshotId : String
  newSnapshotId : Option String
  requestDigest : String
  conflictsDigest : String
  conflictsJson : String
  createdAt : String

/-- A row of `phase8_conflict_events`. -/
structure EventRow where
  conflictReportId : String
  sequence : Int
  ownerSubject : String
  state : ConflictState
  resolutionRevision : Option Int
  eventDigest : String
  createdAt : String

def EventRow.key (e : EventRow) : String × Int := (e.conflictReportId, e.sequence)

structure Store where
  devices : List DeviceRow
  snapshots : List SnapshotRow
  programs : Table ProgramRow.programId
  revisions : Table RevisionRow.key
  plans : Table PlanRow.planId
  reports : Table ReportRow.conflictReportId
  events : Table EventRow.key

/-- The JSON functions, and the order in which SQLite visits the rows of the two queries that have
a `LIMIT 1` and no `ORDER BY`. -/
structure World where
  /-- `_json` with its limit. -/
  json : Nat → Json → Except Failure String
  /-- `json.loads`. -/
  loads : String → Json
  visitReports : List ReportRow → List ReportRow
  visitStates : List (ReportRow × EventRow) → List (ReportRow × EventRow)
  visitReports_perm : ∀ rows, (visitReports rows).Perm rows
  visitStates_perm : ∀ rows, (visitStates rows).Perm rows

/-! ## Validators -/

/-- `_TOKEN`. -/
def isToken (text : String) : Bool :=
  match text.toList with
  | [] => false
  | c :: cs => c.isAlphanum && cs.length ≤ 255 &&
      cs.all fun c => c.isAlphanum || c ∈ ['.', '_', ':', '/', '-']

/-- `_token`. -/
def token (value field : String) : Except Failure Unit :=
  check (isToken value = true) (conflict (field ++ "_invalid"))

/-- `_digest`. -/
def digest (value : Option String) (field : String) : Except Failure Unit :=
  check (value.any isDigest = true) (conflict (field ++ "_invalid"))

/-- `_positive_revision`. -/
def positiveRevision (value : Option Int) (field : String) : Except Failure Unit :=
  check (value.any (1 ≤ ·) = true) (conflict (field ++ "_invalid"))

/-- `value or new_id(…)`. -/
def idOr (value : Option String) (fresh : String) : String :=
  (value.filter (· ≠ "")).getD fresh

def named {α : Type} (table : List (String × α)) (name code : String) : Except Failure α :=
  match table.find? fun p => p.1 = name with
  | some p => .ok p.2
  | none => .error (conflict code)

/-- `sorted(set(values))`. -/
def sortedSet (values : List String) : Json :=
  .arr ((values.eraseDups.insertionSort fun a b => a.toList ≤ b.toList).map Json.str)

/-! ## Queries -/

namespace Store

/-- `_revision_row`. -/
def revisionRow (s : Store) (owner program : String) (revision : Int) : Option RevisionRow :=
  s.revisions.rows.find? fun r =>
    r.ownerSubject = owner ∧ r.programId = program ∧ r.revision = revision

/-- `SELECT COALESCE(MAX(revision), 0)`. -/
def latestRevision (s : Store) (program : String) : Int :=
  (((s.revisions.rows.filter fun r => r.programId = program).map RevisionRow.revision).max?).getD 0

def eventsOf (s : Store) (report : String) : List EventRow :=
  s.events.rows.filter fun e => e.conflictReportId = report

/-- `ORDER BY sequence DESC LIMIT 1`. -/
def latestEvent (s : Store) (report : String) : Option EventRow :=
  @List.argmax EventRow ℤ Int.instLinearOrder.toPreorder _ EventRow.sequence (s.eventsOf report)

/-- A report is open while its last event is. -/
def isOpen (s : Store) (report : String) : Bool :=
  (s.latestEvent report).any fun e => e.state = .open

/-- The rows of the query of `_has_open_conflict`: the reports on a candidate, each with its last
event. -/
def conflictStates (s : Store) (owner program : String) (revision : Int) :
    List (ReportRow × EventRow) :=
  (s.reports.rows.filter fun r => r.ownerSubject = owner ∧ r.programId = program ∧
    r.candidateRevision = revision).flatMap fun r =>
      ((s.eventsOf r.conflictReportId).filter fun e =>
        ((s.eventsOf r.conflictReportId).map EventRow.sequence).max? = some e.sequence).map
          fun e => (r, e)

/-- `_has_open_conflict`. -/
def hasOpenConflict (W : World) (s : Store) (owner program : String) (revision : Int) : Bool :=
  match (W.visitStates (s.conflictStates owner program revision)).head? with
  | some row => row.2.state = .open
  | none => false

end Store

/-- What `_conflict_report_from_row` returns. -/
structure ConflictReport where
  row : ReportRow
  conflicts : Json
  state : ConflictState
  stateSequence : Int
  resolutionRevision : Option Int

/-- `_conflict_report_from_row`. -/
def conflictReportFromRow (W : World) (row : ReportRow) (state : ConflictState) (sequence : Int)
    (resolution : Option Int) : ConflictReport where
  row := row
  conflicts := W.loads row.conflictsJson
  state := state
  stateSequence := sequence
  resolutionRevision := resolution

/-- `_conflict_report`. A report without an event is a `TypeError`. -/
def conflictReport (W : World) (s : Store) (row : ReportRow) : Except Failure ConflictReport :=
  match s.latestEvent row.conflictReportId with
  | some e => .ok (conflictReportFromRow W row e.state e.sequence e.resolutionRevision)
  | none => .error .valueError

end AutocadMcp.Revisions
