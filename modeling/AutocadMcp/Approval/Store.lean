import AutocadMcp.Approval.Records

/-!
# The tables behind approvals

The rows that `Phase7Repository` reads and writes for intents, consents and
releases, with their primary keys and `UNIQUE` constraints.
-/

namespace AutocadMcp.Approval

open Gateway (Failure conflict JobState isActive)

/-- A row of `jobs`. -/
structure JobRow where
  jobId : String
  ownerSubject : String
  deviceId : String
  kind : String
  effectClass : EffectClass
  state : JobState
  stateVersion : Int
  deadlineAt : Option String
  commandId : String
  idempotencyKey : String
  payloadHash : String
  payloadJson : String
  requestFingerprint : Option String
  progress : Option Json
  lastAgentSequence : Int
  result : Option Json
  errorCode : Option String
  errorSummary : Option String
  cancelRequestedAt : Option String
  createdAt : String
  updatedAt : String
  deriving DecidableEq

/-- A row of `job_events` that a release writes. -/
structure JobEvent where
  jobId : String
  sequence : Nat
  state : JobState
  createdAt : String
  deriving DecidableEq

/-- A row of `cad_program_write_locks`. -/
structure LockRow where
  deviceId : String
  documentId : String
  jobId : String
  createdAt : String
  deriving DecidableEq

def LockRow.document (l : LockRow) : String × String := (l.deviceId, l.documentId)

/-- A row of `phase8_intent_bindings`. -/
structure IntentBinding where
  intentId : String
  ownerSubject : String
  planId : String
  sourceDigest : String
  semanticDigest : String
  planDigest : String
  expansionDigest : String
  effectDigest : String
  targetSetDigest : String
  referenceDigest : String
  compilerHash : String
  riskClass : String
  trustedEffectSummary : Json
  rolloutPolicyDigest : String
  rolloutPolicyEpoch : Int
  bindingDigest : String
  deriving DecidableEq

/-- A row of `phase8_consent_bindings`. -/
structure ConsentBinding where
  consentId : String
  ownerSubject : String
  intentId : String
  bindingDigest : String
  createdAt : String
  deriving DecidableEq

/-- A row of `phase8_revision_usage_events`. -/
structure UsageEvent where
  usageEventId : String
  ownerSubject : String
  planId : String
  state : String
  externalId : String
  bindingDigest : String
  createdAt : String
  deriving DecidableEq

/-- The columns of `devices`, `cad_program_revisions`, `cad_previews`, `phase8_execution_plans` and
`phase8_previews` that an intent is checked against. -/
structure Device where
  deviceId : String
  ownerSubject : String
  deriving DecidableEq

structure ProgramRevision where
  ownerSubject : String
  programId : String
  revision : Int
  programDigest : String
  deriving DecidableEq

structure Preview where
  previewId : String
  ownerSubject : String
  programId : String
  programRevision : Int
  previewDigest : String
  executionDigest : String
  deriving DecidableEq

structure ExecutionPlan where
  planId : String
  ownerSubject : String
  programId : String
  programRevision : Int
  sourceDigest : String
  deriving DecidableEq

structure Phase8Preview where
  previewId : String
  ownerSubject : String
  planId : String
  jobId : String
  executionBindingDigest : String
  expiresAt : String
  deriving DecidableEq

abbrev LockTable := Table LockRow.document

structure Store where
  intents : Table ExecutionIntentRecord.intentId
  consents : Table ConsentRecord.consentId
  jobs : Table JobRow.jobId
  events : List JobEvent
  locks : LockTable
  intentBindings : Table IntentBinding.intentId
  consentBindings : Table ConsentBinding.consentId
  usageEvents : Table UsageEvent.usageEventId
  devices : Table Device.deviceId
  programRevisions : List ProgramRevision
  previews : Table Preview.previewId
  plans : Table ExecutionPlan.planId
  phase8Previews : Table Phase8Preview.previewId

namespace Store

def empty : Store :=
  ⟨.empty, .empty, .empty, [], .empty, .empty, .empty, .empty, .empty, [], .empty, .empty, .empty⟩

/-! ## Reads -/

section

variable (C : Codec)

/-- `_intent`: the row of this owner, validated again. -/
def intent (s : Store) (owner intentId : String) :
    Except Failure (Option ExecutionIntentRecord) := do
  match (s.intents.get? intentId).filter fun r => r.ownerSubject = owner with
  | none => return none
  | some row =>
      row.validate C
      return some row

/-- `_consent`. -/
def consent (s : Store) (owner consentId : String) : Except Failure (Option ConsentRecord) := do
  match (s.consents.get? consentId).filter fun r => r.ownerSubject = owner with
  | none => return none
  | some row =>
      row.validate C
      return some row

/-- `_consent` where a consent is named. -/
def consentOf (s : Store) (owner : String) : Option String → Except Failure (Option ConsentRecord)
  | some consentId => s.consent C owner consentId
  | none => return none

end

def job (s : Store) (owner jobId : String) : Option JobRow :=
  (s.jobs.get? jobId).filter fun r => r.ownerSubject = owner

def intentBinding (s : Store) (owner intentId : String) : Option IntentBinding :=
  (s.intentBindings.get? intentId).filter fun b => b.ownerSubject = owner

/-- The binding of a consent to an intent. -/
def consentBinding (s : Store) (owner : String) (consentId : Option String) (intentId : String) :
    Option ConsentBinding :=
  (consentId.bind s.consentBindings.get?).filter fun b =>
    b.ownerSubject = owner ∧ b.intentId = intentId

/-! ## The parents of an intent -/

/-- The Phase 8 preview of an intent, with its plan and its job. -/
def phase8Preview (s : Store) (r : ExecutionIntentRecord) :
    Option (ExecutionPlan × Phase8Preview × JobRow) := do
  let preview ← (s.phase8Previews.get? r.previewId).filter fun v => v.ownerSubject = r.ownerSubject
  let plan ← (s.plans.get? preview.planId).filter fun p =>
    p.ownerSubject = r.ownerSubject ∧ p.programId = r.programId ∧
      p.programRevision = r.programRevision
  let job ← s.job r.ownerSubject preview.jobId
  return (plan, preview, job)

/-- The job of a Phase 8 preview has succeeded and its result has the digest of the intent. -/
def phase8Matches (s : Store) (r : ExecutionIntentRecord) : Except Failure Bool :=
  match s.phase8Preview r with
  | none => .ok false
  | some (plan, preview, job) =>
      match job.result with
      | none => .ok false
      | some result =>
          if plan.sourceDigest = r.programDigest ∧
              preview.executionBindingDigest = r.previewExecutionDigest ∧
              preview.expiresAt = r.previewExpiresAt ∧ job.deviceId = r.deviceId ∧
              job.kind = "program_preview" ∧ job.effectClass = .write ∧
              job.state = .succeeded then do
            check result.isDict .valueError
            return result.get? "preview_digest" = some (.str r.previewDigest)
          else .ok false

/-- `_require_intent_parents`. -/
def requireIntentParents (s : Store) (r : ExecutionIntentRecord) : Except Failure Unit := do
  let device := (s.devices.get? r.deviceId).filter fun d => d.ownerSubject = r.ownerSubject
  let legacyProgram := s.programRevisions.find? fun p => p.ownerSubject = r.ownerSubject ∧
    p.programId = r.programId ∧ p.revision = r.programRevision ∧ p.programDigest = r.programDigest
  let legacyPreview := (s.previews.get? r.previewId).filter fun v =>
    v.ownerSubject = r.ownerSubject ∧ v.programId = r.programId ∧
      v.programRevision = r.programRevision ∧ v.previewDigest = r.previewDigest ∧
      v.executionDigest = r.previewExecutionDigest
  let phase8Matches ← s.phase8Matches r
  check (device.isSome ∧ ((legacyProgram.isSome ∧ legacyPreview.isSome) ∨ phase8Matches))
    (conflict "not_found")

end Store

/-! ## The payload of a released job -/

mutual

/-- A value with its booleans as the numbers they are equal to in Python. -/
def numeric : Json → Json
  | .bool b => .num (if b then 1 else 0)
  | .arr items => .arr (numericItems items)
  | .obj fields => .obj (numericFields fields)
  | value => value

def numericItems : List Json → List Json
  | [] => []
  | item :: items => numeric item :: numericItems items

def numericFields : List (String × Json) → List (String × Json)
  | [] => []
  | (key, value) :: fields => (key, numeric value) :: numericFields fields

end

/-- `value.get(key) == expected`; a missing field is `None`. -/
def fieldIs (value : Json) (key : String) (expected : Json) : Bool :=
  numeric ((value.get? key).getD .null) = numeric expected

def textOrNull : Option String → Json
  | some text => .str text
  | none => .null

def allFieldsAre (value : Json) (expected : List (String × Json)) : Bool :=
  expected.all fun f => fieldIs value f.1 f.2

/-- `value.get(key)`, where only a dictionary is of use. -/
def part? (value : Json) (key : String) : Option Json := value.dict? key

def isExecutionBinding (binding : Option Json) : Bool :=
  binding.any fun b => fieldIs b "schema_version" (.str "cad.execution-binding/1")

def executionPayloadKeys : List String :=
  ["binding", "execution_plan", "approval_binding", "capability_evidence", "preview_id",
    "expires_at", "preview_digest", "receipt_id"]

/-- `set(payload) == keys`. -/
def keysAre (keys : List String) : Json → Bool
  | .obj fields => (fields.all fun f => f.1 ∈ keys) && keys.all fun k => fields.any (·.1 = k)
  | _ => false

/-- The fields of a rollback job. -/
def isRollbackJob (intent : ExecutionIntentRecord) (payload : Json) : Bool :=
  allFieldsAre payload [("kind", .str "rollback_commit"), ("effect_class", .str "write"),
    ("intent_id", .str intent.intentId), ("intent_digest", .str intent.intentDigest)] &&
  (part? payload "binding").any (allFieldsAre ·
    [("program_digest", .str intent.programDigest),
      ("execution_digest", .str intent.commitExecutionDigest),
      ("document_id", .str intent.documentId),
      ("document_revision", .str intent.expectedDocumentRevision)]) &&
  (part? payload "arguments").any
    (fieldIs · "rollback_receipt_id" (.str intent.deterministicReceiptId))

/-- The fields of a commit that is bound to an execution plan. -/
def isPlanCommit (intent : ExecutionIntentRecord) (payload : Json) : Bool :=
  keysAre executionPayloadKeys payload &&
  (part? payload "approval_binding").any (allFieldsAre ·
    [("intent_id", .str intent.intentId), ("intent_digest", .str intent.intentDigest)]) &&
  (part? payload "binding").any (allFieldsAre ·
    [("action", .str "commit"), ("source_program_id", .str intent.programId),
      ("source_program_revision", .num intent.programRevision),
      ("source_digest", .str intent.programDigest), ("device_id", .str intent.deviceId),
      ("document_id", .str intent.documentId),
      ("document_revision", .str intent.expectedDocumentRevision),
      ("preview_id", .str intent.previewId), ("preview_expires_at", .str intent.previewExpiresAt),
      ("receipt_id", .str intent.deterministicReceiptId),
      ("execution_binding_digest", .str intent.commitExecutionDigest)]) &&
  allFieldsAre payload [("preview_id", .str intent.previewId),
    ("expires_at", .str intent.previewExpiresAt), ("preview_digest", .str intent.previewDigest),
    ("receipt_id", .str intent.deterministicReceiptId)]

/-- The fields of an earlier kind of commit. -/
def isLegacyCommit (intent : ExecutionIntentRecord) (payload : Json) : Bool :=
  (part? payload "execution").any (allFieldsAre ·
    [("intent_id", .str intent.intentId), ("intent_digest", .str intent.intentDigest),
      ("program_digest", .str intent.programDigest),
      ("execution_digest", .str intent.commitExecutionDigest),
      ("document_id", .str intent.documentId),
      ("expected_document_revision", .str intent.expectedDocumentRevision),
      ("preview_id", .str intent.previewId), ("preview_digest", .str intent.previewDigest),
      ("receipt_id", .str intent.deterministicReceiptId)])

/-- `_require_job_binding`. -/
def requireJobBinding (intent : ExecutionIntentRecord) (payload : Json) : Except Failure Unit :=
  let bound :=
    if intent.action = .rollbackCommit then isRollbackJob intent payload
    else if isExecutionBinding (part? payload "binding") then isPlanCommit intent payload
    else isLegacyCommit intent payload
  check bound (conflict "job_binding_mismatch")

/-- What a commit without a binding of its intent must not carry. -/
def claimsPhase8 (payload : Json) : Bool :=
  isExecutionBinding (part? payload "binding") ||
    (part? payload "execution").any fun execution =>
      ["phase8_binding_digest", "plan_digest", "effect_digest"].any
        fun key => (execution.get? key).isSome

/-- `legacy_matches`. -/
def legacyMatches (b : IntentBinding) (payload : Json) : Bool :=
  (part? payload "execution").any (allFieldsAre ·
    [("source_digest", .str b.sourceDigest), ("semantic_digest", .str b.semanticDigest),
      ("plan_digest", .str b.planDigest), ("expansion_digest", .str b.expansionDigest),
      ("effect_digest", .str b.effectDigest), ("target_set_digest", .str b.targetSetDigest),
      ("reference_digest", .str b.referenceDigest), ("compiler_hash", .str b.compilerHash),
      ("risk_class", .str b.riskClass), ("trusted_effect_summary", b.trustedEffectSummary),
      ("rollout_policy_digest", .str b.rolloutPolicyDigest),
      ("rollout_policy_epoch", .num b.rolloutPolicyEpoch),
      ("phase8_binding_digest", .str b.bindingDigest)])

/-- `plan.get("compiler", {}).get("compiler_package_hash") == …`; a compiler that is no dictionary is
an `AttributeError`, where the fields before it match. -/
def compilerMatches (b : IntentBinding) (plan : Json) : Except Failure Bool :=
  match plan.get? "compiler" with
  | none => .ok false
  | some compiler => do
      check compiler.isDict .valueError
      return fieldIs compiler "compiler_package_hash" (.str b.compilerHash)

/-- The parts of a payload match the binding of an intent. -/
def partsMatch (b : IntentBinding) (intent : ExecutionIntentRecord) (consentId : Option String)
    (payload : Json) : Except Failure Bool :=
  match part? payload "execution_plan", part? payload "binding",
      part? payload "approval_binding" with
  | some plan, some binding, some approval =>
      if allFieldsAre plan [("source_digest", .str b.sourceDigest),
          ("execution_plan_digest", .str b.planDigest), ("expansion_digest", .str b.expansionDigest),
          ("effect_manifest_digest", .str b.effectDigest),
          ("target_refs_digest", .str b.targetSetDigest)] then do
        let compiler ← compilerMatches b plan
        return compiler && allFieldsAre binding [("source_digest", .str b.sourceDigest),
            ("execution_plan_digest", .str b.planDigest)] &&
          allFieldsAre approval [("intent_id", .str intent.intentId),
            ("intent_digest", .str intent.intentDigest), ("consent_id", textOrNull consentId)]
      else .ok false
  | _, _, _ => .ok false

/-- A payload of the earlier kind, or of the current one, that the binding allows. -/
def payloadBound (b : IntentBinding) (intent : ExecutionIntentRecord) (consentId : Option String)
    (payload : Json) : Except Failure Bool :=
  if legacyMatches b payload then .ok true else partsMatch b intent consentId payload

namespace Store

/-- `_require_phase8_release_binding`. -/
def requirePhase8ReleaseBinding (s : Store) (intent : ExecutionIntentRecord)
    (consentId : Option String) (payload : Json) : Except Failure Unit := do
  match s.intentBinding intent.ownerSubject intent.intentId with
  | none => check (claimsPhase8 payload = false) (conflict "job_binding_mismatch")
  | some b =>
      let bound ← payloadBound b intent consentId payload
      check bound (conflict "job_binding_mismatch")
      if intent.requiredAssurance = .none then
        check (consentId = none) (conflict "consent_binding_mismatch")
      else
        check ((s.consentBinding intent.ownerSubject consentId intent.intentId).any
          fun c => c.bindingDigest = b.bindingDigest) (conflict "consent_binding_mismatch")

/-- `_record_phase8_release_usage`; the id of the event is new. -/
def recordPhase8ReleaseUsage (s : Store) (usageEventId owner intentId jobId createdAt : String) :
    Except Failure Store :=
  match s.intentBinding owner intentId with
  | none => .ok s
  | some b =>
      match s.usageEvents.rows.find? fun u =>
          u.planId = b.planId ∧ u.state = "released" ∧ u.externalId = jobId with
      | some u => do
          check (u.ownerSubject = owner ∧ u.bindingDigest = b.bindingDigest)
            (conflict "usage_event_conflict")
          return s
      | none =>
          match s.usageEvents.insert
              ⟨usageEventId, owner, b.planId, "released", jobId, b.bindingDigest, createdAt⟩ with
          | some usageEvents => .ok { s with usageEvents := usageEvents }
          | none => .error .integrityError

end Store

end AutocadMcp.Approval
