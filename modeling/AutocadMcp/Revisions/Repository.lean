import AutocadMcp.Lib.Machine
import AutocadMcp.Revisions.Store

/-!
# The operations on revisions, plans and conflict reports

`Phase8Repository`: each operation is one transaction, a function to what it
returns and the tables after it, or to what it raises.
-/

namespace AutocadMcp.Revisions

open Gateway (Failure conflict)

/-! ## Revisions -/

structure CreateRevision where
  ownerSubject : String
  programId : String
  revision : Int
  deviceId : String
  documentId : String
  sourceSnapshotId : String
  expectedDocumentRevision : String
  source : Json
  sourceDigest : String
  semanticDigest : String
  lineageKind : String
  parentRevision : Option Int := none
  baseRevision : Option Int := none
  lineageRequestDigest : Option String := none

namespace Store

/-- `INSERT INTO phase8_program_revisions`: the primary key, the `UNIQUE` constraint, the `CHECK` of
the lineage and the references. -/
def insertRevision (s : Store) (r : RevisionRow) : Except Failure Store := do
  check (∀ x ∈ s.revisions.rows,
      ¬ (x.ownerSubject = r.ownerSubject ∧ x.sourceDigest = r.sourceDigest)) .integrityError
  check ((r.lineageKind = .root ∧ r.revision = 1 ∧ r.parentRevision = none ∧
        r.baseRevision = none) ∨
      (r.lineageKind ≠ .root ∧ 1 < r.revision ∧ r.parentRevision ≠ none)) .integrityError
  check ((∃ p ∈ s.programs.rows, p.programId = r.programId) ∧
      (∃ d ∈ s.devices, d.deviceId = r.deviceId) ∧
      (∃ x ∈ s.snapshots, x.snapshotId = r.sourceSnapshotId)) .integrityError
  check (∀ required ∈ r.parentRevision.toList ++ r.baseRevision.toList,
      ∃ x ∈ s.revisions.rows, x.key = (r.programId, required)) .integrityError
  match s.revisions.insert r with
  | some revisions => return { s with revisions := revisions }
  | none => throw .integrityError

/-- The program of a revision, which its root creates. -/
def requireProgram (s : Store) (now : String) (kind : LineageKind) (a : CreateRevision) :
    Except Failure Store :=
  match s.programs.get? a.programId with
  | none => do
      check (kind = .root) (conflict "parent_revision_not_found")
      check (∃ d ∈ s.devices, d.ownerSubject = a.ownerSubject ∧ d.deviceId = a.deviceId)
        (conflict "not_found")
      match s.programs.insert
          { programId := a.programId, ownerSubject := a.ownerSubject, deviceId := a.deviceId
            documentId := a.documentId, createdAt := now, updatedAt := now } with
      | some programs => return { s with programs := programs }
      | none => throw .integrityError
  | some root => do
      check (root.ownerSubject = a.ownerSubject ∧ root.deviceId = a.deviceId ∧
        root.documentId = a.documentId) (conflict "not_found")
      return s

end Store

/-- The parent, the base and the request digest of a revision. -/
def checkLineage (kind : LineageKind) (a : CreateRevision) : Except Failure Unit :=
  if kind = .root then
    check (a.revision = 1 ∧ a.parentRevision = none ∧ a.baseRevision = none)
      (conflict "lineage_invalid")
  else do
    positiveRevision a.parentRevision "parent_revision"
    if kind = .rebase ∨ a.baseRevision ≠ none then
      positiveRevision a.baseRevision "base_revision"
    digest a.lineageRequestDigest "lineage_request_digest"

/-- The checks of `create_revision` before its transaction: what it stores. -/
def revisionRequest (W : World) (now : String) (a : CreateRevision) :
    Except Failure RevisionRow := do
  token a.ownerSubject "owner_subject"
  token a.programId "program_id"
  token a.deviceId "device_id"
  token a.documentId "document_id"
  token a.sourceSnapshotId "source_snapshot_id"
  positiveRevision (some a.revision) "revision"
  digest (some a.sourceDigest) "source_digest"
  digest (some a.semanticDigest) "semantic_digest"
  check (a.source.get? "schema_version" = some (.str "cad.program/1.0"))
    (conflict "source_contract_invalid")
  let sourceJson ← W.json 512000 a.source
  let kind ← named LineageKind.named a.lineageKind "lineage_kind_invalid"
  checkLineage kind a
  return {
    programId := a.programId
    revision := a.revision
    ownerSubject := a.ownerSubject
    deviceId := a.deviceId
    documentId := a.documentId
    sourceSnapshotId := a.sourceSnapshotId
    expectedDocumentRevision := a.expectedDocumentRevision
    sourceDigest := a.sourceDigest
    semanticDigest := a.semanticDigest
    sourceJson := sourceJson
    lineageKind := kind
    parentRevision := a.parentRevision
    baseRevision := a.baseRevision
    lineageRequestDigest := a.lineageRequestDigest
    createdAt := now }

/-- The row has what the call asks for, whenever it was created. -/
def sameRevision (W : World) (row r : RevisionRow) (source : Json) : Bool :=
  row.programId = r.programId && row.revision = r.revision &&
    row.ownerSubject = r.ownerSubject && row.deviceId = r.deviceId &&
    row.documentId = r.documentId && row.sourceSnapshotId = r.sourceSnapshotId &&
    row.expectedDocumentRevision = r.expectedDocumentRevision &&
    row.sourceDigest = r.sourceDigest && row.semanticDigest = r.semanticDigest &&
    W.loads row.sourceJson = source && row.lineageKind = r.lineageKind &&
    row.parentRevision = r.parentRevision && row.baseRevision = r.baseRevision &&
    row.lineageRequestDigest = r.lineageRequestDigest

/-- The snapshot that a revision was made from. -/
def snapshotBinds (s : Store) (a : CreateRevision) : Bool :=
  match s.snapshots.find? fun x =>
    x.ownerSubject = a.ownerSubject ∧ x.snapshotId = a.sourceSnapshotId with
  | some x => x.deviceId = a.deviceId && x.documentRevision = a.expectedDocumentRevision
  | none => false

/-- A new revision goes behind the last one of its program. -/
def appendRevision (now : String) (s : Store) (a : CreateRevision) (r : RevisionRow) :
    Except Failure (RevisionRow × Store) := do
  check (snapshotBinds s a = true) (conflict "snapshot_binding_mismatch")
  let s ← s.requireProgram now r.lineageKind a
  check (a.revision = s.latestRevision a.programId + 1) (conflict "revision_sequence_conflict")
  check (∀ required ∈ a.parentRevision.toList ++ a.baseRevision.toList,
    (s.revisionRow a.ownerSubject a.programId required).isSome = true)
    (conflict "parent_revision_not_found")
  match s.insertRevision r with
  | .ok s => return (r, s)
  | .error _ => throw (conflict "program_revision_conflict")

/-- `create_revision`. -/
def createRevision (W : World) (now : String) (s : Store) (a : CreateRevision) :
    Except Failure ((RevisionRow × Bool) × Store) := do
  let r ← revisionRequest W now a
  match s.revisions.rows.find? fun x =>
      x.ownerSubject = a.ownerSubject ∧ x.sourceDigest = a.sourceDigest with
  | some existing => do
      check (sameRevision W existing r a.source = true) (conflict "program_revision_conflict")
      return ((existing, true), s)
  | none => do
      let (row, s) ← appendRevision now s a r
      return ((row, false), s)

/-! ## Plans -/

structure CompiledProgram where
  source : Json
  sourceDigest : String
  semanticDigest : String
  plan : Json
  planDigest : String
  expansionDigest : String
  effectManifest : Json
  effectDigest : String
  targetSetDigest : String
  referenceDigest : String
  riskClass : String
  trustedEffectSummary : List Json
  compilerId : String
  compilerVersion : String
  compilerHash : String
  hardBudgets : Json
  requiredCapabilities : List String
  operationPacks : List String
  validationProfiles : List String
  runtimePins : Json
  checkpointStrategy : String
  createCount : Int
  modifyCount : Int
  eraseCount : Int

structure SealPlan where
  ownerSubject : String
  programId : String
  revision : Int
  compilation : CompiledProgram
  rolloutPolicyDigest : String
  rolloutPolicyEpoch : Int
  planId : Option String := none

/-- `_strict_tokens`. -/
def strictTokens (values : List String) (field : String) : Except Failure Unit := do
  check (values.length ≤ 256 ∧ values.Nodup) (conflict (field ++ "_invalid"))
  values.forM fun value => token value field

/-- The checks of `seal_plan` before its transaction. -/
def sealRequest (planId : String) (a : SealPlan) : Except Failure Unit := do
  let c := a.compilation
  token planId "plan_id"
  [(c.sourceDigest, "source_digest"), (c.semanticDigest, "semantic_digest"),
    (c.planDigest, "plan_digest"), (c.expansionDigest, "expansion_digest"),
    (c.effectDigest, "effect_digest"), (c.targetSetDigest, "target_set_digest"),
    (c.referenceDigest, "reference_digest"), (c.compilerHash, "compiler_hash")].forM
      fun p => digest (some p.1) p.2
  digest (some a.rolloutPolicyDigest) "rollout_policy_digest"
  check (1 ≤ a.rolloutPolicyEpoch) (conflict "rollout_policy_epoch_invalid")
  check (c.source.get? "schema_version" = some (.str "cad.program/1.0"))
    (conflict "source_contract_invalid")
  check (c.plan.get? "schema_version" = some (.str "cad.execution-plan/1"))
    (conflict "execution_plan_contract_invalid")
  check (0 ≤ c.createCount ∧ 0 ≤ c.modifyCount ∧ 0 ≤ c.eraseCount)
    (conflict "effect_manifest_invalid")
  check (c.checkpointStrategy ∈
    ["none", "cad.rollback.checkpoint/1", "cad.rollback.checkpoint/2"])
    (conflict "checkpoint_strategy_invalid")
  check (c.checkpointStrategy = "cad.rollback.checkpoint/1" →
    c.modifyCount = 0 ∧ c.eraseCount = 0) (conflict "checkpoint_v1_effect_mismatch")
  check (c.riskClass ∈ ["low", "medium", "high", "destructive"]) (conflict "risk_class_invalid")
  check (c.trustedEffectSummary ≠ [] ∧ c.trustedEffectSummary.length ≤ 256)
    (conflict "effect_manifest_invalid")
  strictTokens c.requiredCapabilities "required_capability"
  strictTokens c.operationPacks "operation_pack"
  strictTokens c.validationProfiles "validation_profile"

/-- The row that `seal_plan` inserts. -/
def planRow (W : World) (now planId : String) (a : SealPlan) : Except Failure PlanRow := do
  let c := a.compilation
  token c.compilerId "compiler_id"
  token c.compilerVersion "compiler_version"
  let planJson ← W.json 512000 c.plan
  let effectManifestJson ← W.json 512000 c.effectManifest
  let trustedEffectSummaryJson ← W.json 65536 (.arr c.trustedEffectSummary)
  let hardBudgetsJson ← W.json 65536 c.hardBudgets
  let requiredCapabilitiesJson ← W.json 65536 (sortedSet c.requiredCapabilities)
  let operationPacksJson ← W.json 65536 (sortedSet c.operationPacks)
  let validationProfilesJson ← W.json 65536 (sortedSet c.validationProfiles)
  let runtimePinsJson ← W.json 65536 c.runtimePins
  return {
    planId := planId
    ownerSubject := a.ownerSubject
    programId := a.programId
    programRevision := a.revision
    sourceDigest := c.sourceDigest
    semanticDigest := c.semanticDigest
    compilerId := c.compilerId
    compilerVersion := c.compilerVersion
    compilerHash := c.compilerHash
    planDigest := c.planDigest
    expansionDigest := c.expansionDigest
    effectDigest := c.effectDigest
    targetSetDigest := c.targetSetDigest
    referenceDigest := c.referenceDigest
    planJson := planJson
    effectManifestJson := effectManifestJson
    trustedEffectSummaryJson := trustedEffectSummaryJson
    riskClass := c.riskClass
    hardBudgetsJson := hardBudgetsJson
    requiredCapabilitiesJson := requiredCapabilitiesJson
    operationPacksJson := operationPacksJson
    validationProfilesJson := validationProfilesJson
    runtimePinsJson := runtimePinsJson
    checkpointStrategy := c.checkpointStrategy
    createCount := c.createCount
    modifyCount := c.modifyCount
    eraseCount := c.eraseCount
    rolloutPolicyDigest := a.rolloutPolicyDigest
    rolloutPolicyEpoch := a.rolloutPolicyEpoch
    sealedAt := now }

/-- `INSERT INTO phase8_execution_plans`: the primary key, both `UNIQUE` constraints and the
reference to the revision. -/
def Store.insertPlan (s : Store) (p : PlanRow) : Except Failure Store := do
  check (∀ x ∈ s.plans.rows, x.planDigest ≠ p.planDigest ∧
    ¬ (x.programId = p.programId ∧ x.programRevision = p.programRevision)) .integrityError
  check (∃ r ∈ s.revisions.rows, r.key = (p.programId, p.programRevision)) .integrityError
  match s.plans.insert p with
  | some plans => return { s with plans := plans }
  | none => throw .integrityError

/-- The sealed plan of a revision is the one that is asked for again. -/
def samePlan (W : World) (row : PlanRow) (planId : String) (a : SealPlan) : Bool :=
  let c := a.compilation
  row.planId = planId && row.planDigest = c.planDigest && row.effectDigest = c.effectDigest &&
    row.targetSetDigest = c.targetSetDigest && row.referenceDigest = c.referenceDigest &&
    W.loads row.planJson = c.plan && W.loads row.effectManifestJson = c.effectManifest &&
    row.riskClass = c.riskClass &&
    W.loads row.trustedEffectSummaryJson = .arr c.trustedEffectSummary &&
    row.rolloutPolicyDigest = a.rolloutPolicyDigest &&
    row.rolloutPolicyEpoch = a.rolloutPolicyEpoch

/-- The transaction of `seal_plan`. -/
def sealRevision (W : World) (now : String) (s : Store) (planId : String) (a : SealPlan)
    (source : RevisionRow) : Except Failure ((PlanRow × Bool) × Store) := do
  let c := a.compilation
  check (source.sourceDigest = c.sourceDigest ∧ source.semanticDigest = c.semanticDigest ∧
    W.loads source.sourceJson = c.source) (conflict "compiler_source_mismatch")
  check (s.hasOpenConflict W a.ownerSubject a.programId a.revision = false)
    (conflict "rebase_conflict_open")
  match s.plans.rows.find? fun p => p.ownerSubject = a.ownerSubject ∧
      p.programId = a.programId ∧ p.programRevision = a.revision with
  | some existing => do
      check (samePlan W existing planId a = true) (conflict "sealed_plan_conflict")
      return ((existing, true), s)
  | none => do
      let row ← planRow W now planId a
      match s.insertPlan row with
      | .ok s => return ((row, false), s)
      | .error _ => throw (conflict "sealed_plan_conflict")

/-- `seal_plan`. -/
def sealPlan (W : World) (now fresh : String) (s : Store) (a : SealPlan) :
    Except Failure ((PlanRow × Bool) × Store) := do
  sealRequest (idOr a.planId fresh) a
  match s.revisionRow a.ownerSubject a.programId a.revision with
  | none => throw (conflict "not_found")
  | some source => sealRevision W now s (idOr a.planId fresh) a source

/-! ## Conflict reports -/

structure CreateReport where
  ownerSubject : String
  programId : String
  sourceRevision : Int
  candidateRevision : Int
  requestKind : String
  oldSnapshotId : String
  newSnapshotId : Option String
  requestDigest : String
  conflictsDigest : String
  conflicts : List Json
  conflictReportId : Option String := none

namespace Store

/-- `INSERT INTO phase8_conflict_reports`: the primary key, the `UNIQUE` constraint and the
references. -/
def insertReport (s : Store) (r : ReportRow) : Except Failure Store := do
  check (∀ x ∈ s.reports.rows, ¬ (x.ownerSubject = r.ownerSubject ∧ x.programId = r.programId ∧
    x.candidateRevision = r.candidateRevision ∧ x.requestDigest = r.requestDigest)) .integrityError
  check (∀ revision ∈ [r.sourceRevision, r.candidateRevision],
    ∃ x ∈ s.revisions.rows, x.key = (r.programId, revision)) .integrityError
  check (∀ id ∈ r.oldSnapshotId :: r.newSnapshotId.toList, ∃ x ∈ s.snapshots, x.snapshotId = id)
    .integrityError
  match s.reports.insert r with
  | some reports => return { s with reports := reports }
  | none => throw .integrityError

/-- `INSERT INTO phase8_conflict_events`: the primary key, the `CHECK` of the resolution and the
reference to the report. -/
def insertEvent (s : Store) (e : EventRow) : Except Failure Store := do
  check (1 ≤ e.sequence ∧ (e.state = .resolved ↔ e.resolutionRevision ≠ none)) .integrityError
  check (∃ r ∈ s.reports.rows, r.conflictReportId = e.conflictReportId) .integrityError
  match s.events.insert e with
  | some events => return { s with events := events }
  | none => throw .integrityError

end Store

/-- A report and its first event. -/
def insertOpen (W : World) (now : String) (s : Store) (a : CreateReport) (id : String)
    (kind : RequestKind) : Except Failure (ReportRow × Store) := do
  let conflictsJson ← W.json 512000 (.arr a.conflicts)
  let row : ReportRow :=
    { conflictReportId := id, ownerSubject := a.ownerSubject, programId := a.programId
      sourceRevision := a.sourceRevision, candidateRevision := a.candidateRevision
      requestKind := kind, oldSnapshotId := a.oldSnapshotId, newSnapshotId := a.newSnapshotId
      requestDigest := a.requestDigest, conflictsDigest := a.conflictsDigest
      conflictsJson := conflictsJson, createdAt := now }
  let s ← s.insertReport row
  let s ← s.insertEvent
    { conflictReportId := id, sequence := 1, ownerSubject := a.ownerSubject, state := .open
      resolutionRevision := none, eventDigest := a.conflictsDigest, createdAt := now }
  return (row, s)

/-- `create_conflict_report`. -/
def createConflictReport (W : World) (now fresh : String) (s : Store) (a : CreateReport) :
    Except Failure ((ConflictReport × Bool) × Store) := do
  let kind ← named RequestKind.named a.requestKind "conflict_request_kind_invalid"
  check (a.conflicts ≠ []) (conflict "conflict_report_empty")
  digest (some a.requestDigest) "request_digest"
  digest (some a.conflictsDigest) "conflicts_digest"
  token (idOr a.conflictReportId fresh) "conflict_report_id"
  check (∀ revision ∈ [a.sourceRevision, a.candidateRevision],
    (s.revisionRow a.ownerSubject a.programId revision).isSome = true) (conflict "not_found")
  match (W.visitReports (s.reports.rows.filter fun r =>
      r.conflictReportId = idOr a.conflictReportId fresh ∨
      (r.ownerSubject = a.ownerSubject ∧ r.programId = a.programId ∧
        r.candidateRevision = a.candidateRevision ∧ r.requestDigest = a.requestDigest))).head? with
  | some existing => do
      let value ← conflictReport W s existing
      check (existing.conflictsDigest = a.conflictsDigest ∧ value.conflicts = .arr a.conflicts)
        (conflict "conflict_report_conflict")
      return ((value, true), s)
  | none => do
      let (row, s) ← insertOpen W now s a (idOr a.conflictReportId fresh) kind
      return ((conflictReportFromRow W row .open 1 none, false), s)

structure TransitionConflict where
  ownerSubject : String
  conflictReportId : String
  target : String
  expectedSequence : Int
  eventDigest : String
  resolutionRevision : Option Int := none

/-- A report is resolved by a revision that resolves its candidate, and abandoned without one. -/
def checkResolution (s : Store) (report : ReportRow) (target : ConflictState)
    (a : TransitionConflict) : Except Failure Unit :=
  if target = .resolved then do
    positiveRevision a.resolutionRevision "resolution_revision"
    check (a.resolutionRevision.any (report.candidateRevision < ·) = true)
      (conflict "resolution_revision_invalid")
    check ((a.resolutionRevision.bind (s.revisionRow a.ownerSubject report.programId)).any
      (fun r => r.lineageKind = .conflictResolution ∧
        r.parentRevision = some report.candidateRevision) = true)
      (conflict "resolution_revision_invalid")
  else check (a.resolutionRevision = none) (conflict "resolution_revision_invalid")

/-- The transaction of `transition_conflict`. -/
def closeReport (W : World) (now : String) (s : Store) (report : ReportRow) (latest : EventRow)
    (target : ConflictState) (a : TransitionConflict) : Except Failure (ConflictReport × Store) :=
  if latest.sequence ≠ a.expectedSequence then do
    check (latest.state = target ∧ latest.eventDigest = a.eventDigest ∧
      latest.resolutionRevision = a.resolutionRevision) (conflict "cas_conflict")
    let value ← conflictReport W s report
    return (value, s)
  else do
    check (latest.state = .open) (conflict "conflict_already_closed")
    checkResolution s report target a
    let s ← s.insertEvent
      { conflictReportId := a.conflictReportId, sequence := a.expectedSequence + 1
        ownerSubject := a.ownerSubject, state := target
        resolutionRevision := a.resolutionRevision, eventDigest := a.eventDigest
        createdAt := now }
    let value ← conflictReport W s report
    return (value, s)

/-- `transition_conflict`. -/
def transitionConflict (W : World) (now : String) (s : Store) (a : TransitionConflict) :
    Except Failure (ConflictReport × Store) := do
  let target ← named ConflictState.terminal a.target "conflict_transition_invalid"
  digest (some a.eventDigest) "event_digest"
  match s.reports.rows.find? fun r =>
      r.ownerSubject = a.ownerSubject ∧ r.conflictReportId = a.conflictReportId with
  | none => throw (conflict "not_found")
  | some report =>
      match s.latestEvent a.conflictReportId with
      | none => throw .valueError
      | some latest => closeReport W now s report latest target a

/-! ## Calls -/

/-- A call with the time and the fresh id that it gets. -/
inductive Call where
  | createRevision (now : String) (a : CreateRevision)
  | sealPlan (now fresh : String) (a : SealPlan)
  | createConflictReport (now fresh : String) (a : CreateReport)
  | transitionConflict (now : String) (a : TransitionConflict)

inductive Reply where
  | revision (row : RevisionRow) (replayed : Bool)
  | plan (row : PlanRow) (replayed : Bool)
  | report (value : ConflictReport) (replayed : Bool)
  | transition (value : ConflictReport)

/-- What a call replies and the tables after it, or what it raises. -/
def runCall (W : World) (s : Store) : Call → Except Failure (Reply × Store)
  | .createRevision now a =>
      (createRevision W now s a).map fun p => (.revision p.1.1 p.1.2, p.2)
  | .sealPlan now fresh a =>
      (sealPlan W now fresh s a).map fun p => (.plan p.1.1 p.1.2, p.2)
  | .createConflictReport now fresh a =>
      (createConflictReport W now fresh s a).map fun p => (.report p.1.1 p.1.2, p.2)
  | .transitionConflict now a =>
      (transitionConflict W now s a).map fun p => (.transition p.1, p.2)

/-- A transaction is rolled back when the call raises. -/
def step (W : World) (s : Store) (call : Call) : Store := committed s (runCall W s call)

end AutocadMcp.Revisions
