import AutocadMcp.Approval.SingleUse
import AutocadMcp.Lib.Groups

/-!
# Admission of commits

How `phase7_admission.py` creates the intent and the consent of a commit, and releases its
job once the consent is approved. A moment is a number of microseconds, dates are written in
UTC; the repository's transactions are those of `Phase7Repository`.
-/

namespace AutocadMcp.Approval

open Gateway (Failure conflict IntentAction)

/-- `Phase7AdmissionPolicy`, as far as an intent's creation and its release read it. -/
structure AdmissionPolicy where
  trustedApprovalEnabled : Bool := false
  deviceLocalApprovalEnabled : Bool := false
  portalRecentAuthApprovalEnabled : Bool := false
  jobDeadlineSeconds : Int := 300

/-- A `GatewayError`, or what the repository raised and nothing caught. -/
inductive AdmissionFailure where
  | gatewayError (code : String)
  | raised (failure : Failure)
  deriving DecidableEq

/-- `_repository_code`. -/
def repositoryCode (code : String) : String :=
  if code = "cas_conflict" then "version_conflict"
  else if code ∈ ["job_preexists_release", "intent_release_conflict", "intent_conflict",
    "consent_conflict", "rollback_plan_conflict"] then "idempotency_conflict"
  else code

/-- `except RepositoryConflict`. -/
def answered {α : Type} : Except Failure α → Except AdmissionFailure α
  | .ok a => .ok a
  | .error (.repositoryConflict code) => .error (.gatewayError (repositoryCode code))
  | .error failure => .error (.raised failure)

/-- A read outside of such a clause. -/
def passed {α : Type} : Except Failure α → Except AdmissionFailure α
  | .ok a => .ok a
  | .error failure => .error (.raised failure)

def second : Int := 1000000

/-- What an intent takes of its request, program or plan, preview and payload. -/
structure CommitMaterial where
  ownerSubject : String
  idempotencyKey : String
  requestHash : String
  deviceId : String
  documentId : String
  expectedDocumentRevision : String
  programId : String
  programRevision : Int
  programDigest : String
  previewId : String
  previewDigest : String
  previewExecutionDigest : String
  previewExpiresAt : String
  deterministicReceiptId : String
  commitExecutionDigest : String
  pinned : Json

/-- `_stable_id`. -/
def stableId (C : Codec) (kind : String) (parts : List String) : String :=
  kind ++ "-" ++ String.ofList ((C.sha256 ("\x00".intercalate parts)).toList.take 40)

structure Admission where
  codec : Codec
  policy : AdmissionPolicy
  /-- `datetime.isoformat`. -/
  isoformat : Int → String
  /-- `program_wire_payload_hash` and `canonical_digest`, without `sha256:`. -/
  payloadHash : IntentAction → Json → Option String

namespace Admission

variable (A : Admission)

/-! ## Creation -/

/-- `_program_assurance`. -/
def programAssurance : Except AdmissionFailure AssuranceLevel := do
  check (A.policy.trustedApprovalEnabled = true) (.gatewayError "feature_disabled")
  if A.policy.portalRecentAuthApprovalEnabled then return .userRecentAuth
  if A.policy.deviceLocalApprovalEnabled then return .deviceLocalConfirmation
  throw (.gatewayError "feature_disabled")

/-- `datetime.fromisoformat` of a date that is compared with the clock. -/
def instant (text : String) : Except AdmissionFailure Int :=
  match A.codec.timestamp text with
  | none => .error (.raised .valueError)
  | some moment => do
      check (moment.aware = true) (.raised .valueError)
      return moment.instant

/-- Ten minutes after the creation, or the expiry of the preview before that. -/
def intentExpiry (previewExpiry now : Int) : Int := min previewExpiry (now + 600 * second)

def commitIntent (m : CommitMaterial) (assurance : AssuranceLevel) (state : IntentState)
    (now expiry : Int) : ExecutionIntentRecord where
  intentId := stableId A.codec "intent" [m.ownerSubject, m.idempotencyKey]
  intentVersion := 1
  ownerSubject := m.ownerSubject
  action := .programCommit
  state := state
  stateVersion := 0
  deviceId := m.deviceId
  documentId := m.documentId
  expectedDocumentRevision := m.expectedDocumentRevision
  programId := m.programId
  programRevision := m.programRevision
  programDigest := m.programDigest
  previewId := m.previewId
  previewDigest := m.previewDigest
  previewExecutionDigest := m.previewExecutionDigest
  previewExpiresAt := m.previewExpiresAt
  deterministicReceiptId := m.deterministicReceiptId
  commitExecutionDigest := m.commitExecutionDigest
  requiredAssurance := assurance
  idempotencyKey := m.idempotencyKey
  requestHash := m.requestHash
  intentDigest := "sha256:" ++ String.ofList (List.replicate 64 '0')
  createdAt := A.isoformat now
  expiresAt := A.isoformat expiry
  consentId := none
  releasedJobId := none
  pinned := m.pinned

/-- `value["intent_digest"] = execution_intent_digest(value)`. -/
def withDigest (r : ExecutionIntentRecord) : Except AdmissionFailure ExecutionIntentRecord :=
  match A.codec.executionIntentDigest r with
  | none => .error (.raised .valueError)
  | some digest => .ok { r with intentDigest := digest }

def consentIdOf (r : ExecutionIntentRecord) : String :=
  stableId A.codec "consent" [r.intentId, r.intentDigest]

def requestedConsent (r : ExecutionIntentRecord) : ConsentRecord where
  consentId := A.consentIdOf r
  consentVersion := 1
  ownerSubject := r.ownerSubject
  intentId := r.intentId
  intentVersion := r.intentVersion
  intentDigest := r.intentDigest
  requiredAssurance := r.requiredAssurance
  state := .requested
  stateVersion := 0
  -- the hash of `_consent_nonce_from_ids`
  challengeNonceHash := "sha256:" ++ A.codec.sha256
    (A.codec.sha256 ("\x00".intercalate ["cad.consent/1", A.consentIdOf r, r.intentDigest]))
  requestedAt := r.createdAt
  expiresAt := r.expiresAt
  decidedAt := none
  decisionSource := none
  decisionPrincipal := none
  decisionDeviceId := none
  decisionDeviceIdentityGeneration := none
  consumedAt := none

/-- `_create_consent`. -/
def createConsent (s : Store) (intent : ExecutionIntentRecord) :
    Except AdmissionFailure (ConsentRecord × Store) := do
  match ← passed (s.consent A.codec intent.ownerSubject (A.consentIdOf intent)) with
  | some existing => return (existing, s)
  | none =>
      let ((stored, _), s) ← answered (Approval.createConsent A.codec s (A.requestedConsent intent))
      return (stored, s)

/-- `_create_or_reuse_program_intent`. -/
def createOrReuseProgramIntent (s : Store) (m : CommitMaterial) (now : Int) :
    Except AdmissionFailure ((ExecutionIntentRecord × Option ConsentRecord) × Store) := do
  match ← passed (s.intent A.codec m.ownerSubject
      (stableId A.codec "intent" [m.ownerSubject, m.idempotencyKey])) with
  | some existing =>
      check (existing.requestHash = m.requestHash) (.gatewayError "idempotency_conflict")
      if existing.requiredAssurance = .none then return ((existing, none), s)
      let consent ← passed (s.consent A.codec m.ownerSubject (A.consentIdOf existing))
      return ((existing, consent), s)
  | none =>
      let assurance ← A.programAssurance
      let expiry := intentExpiry (← A.instant m.previewExpiresAt) now
      check (now < expiry) (.gatewayError "preview_expired")
      let state := if assurance = .none then .ready else .awaitingApproval
      let value ← A.withDigest (A.commitIntent m assurance state now expiry)
      let ((intent, _), s) ← answered (createIntent A.codec s value)
      if assurance = .none then return ((intent, none), s)
      let (consent, s) ← A.createConsent s intent
      return ((intent, some consent), s)

/-- `create_phase8_commit_intent`; `bind_intent` and `bind_consent` of the Phase 8 gateway write the
tables of the bindings. -/
def createPhase8CommitIntent (bindIntent : Store → Except Failure (Table IntentBinding.intentId))
    (bindConsent : Store → Except Failure (Table ConsentBinding.consentId)) (s : Store)
    (m : CommitMaterial) (now : Int) :
    Except AdmissionFailure ((ExecutionIntentRecord × Option ConsentRecord) × Store) := do
  let previewExpiry ← A.instant m.previewExpiresAt
  check (now < previewExpiry) (.gatewayError "preview_expired")
  match ← passed (s.intent A.codec m.ownerSubject
      (stableId A.codec "intent" [m.ownerSubject, m.idempotencyKey])) with
  | some existing =>
      check (existing.requestHash = m.requestHash) (.gatewayError "idempotency_conflict")
      let consent ← passed (s.consent A.codec m.ownerSubject (A.consentIdOf existing))
      return ((existing, consent), s)
  | none =>
      let assurance ← A.programAssurance
      let value ← A.withDigest
        (A.commitIntent m assurance .awaitingApproval now (intentExpiry previewExpiry now))
      let ((intent, _), s) ← answered (createIntent A.codec s value)
      let intentBindings ← answered (bindIntent s)
      let (consent, s) ← A.createConsent { s with intentBindings := intentBindings } intent
      let consentBindings ← answered (bindConsent s)
      return ((intent, some consent), { s with consentBindings := consentBindings })

/-! ## Release -/

/-- The payload with the intent that it is released for. -/
def bindApproval (phase8 : Bool) (intent : ExecutionIntentRecord) (payload : Json) :
    Except AdmissionFailure Json :=
  let named (fields : List (String × Json)) : Json :=
    .obj (setItem (setItem fields "intent_id" (.str intent.intentId))
      "intent_digest" (.str intent.intentDigest))
  match intent.action, payload with
  | .rollbackCommit, .obj fields => .ok (named fields)
  | .programCommit, .obj fields =>
      if phase8 then
        match (getItem fields "approval_binding").getD (.obj []) with
        | .obj approval => .ok (.obj (setItem fields "approval_binding" (named approval)))
        | _ => .error (.raised .valueError)
      else
        match getItem fields "execution" with
        | some (.obj execution) => .ok (.obj (setItem fields "execution" (named execution)))
        | _ => .error (.raised .valueError)
  | _, _ => .error (.raised .valueError)

/-- The arguments of `release_intent`; the job's time runs from the creation of the intent. -/
def releaseCall (s : Store) (intent : ExecutionIntentRecord) (consent : Option ConsentRecord)
    (payload : Json) (usageEventId : String) (now : Int) :
    Except AdmissionFailure ReleaseIntent := do
  let phase8 := (s.intentBinding intent.ownerSubject intent.intentId).isSome
  let payload ← bindApproval phase8 intent payload
  let createdAt ← A.instant intent.createdAt
  match A.payloadHash intent.action payload with
  | none => throw (.raised .valueError)
  | some payloadHash =>
      return {
        ownerSubject := intent.ownerSubject
        intentId := intent.intentId
        jobId := stableId A.codec "job" [intent.intentId]
        commandId := stableId A.codec "command" [intent.intentId]
        idempotencyKey := stableId A.codec "release" [intent.intentId]
        payloadHash := payloadHash
        payload := payload
        deadlineAt := A.isoformat (createdAt + A.policy.jobDeadlineSeconds * second)
        kind := intent.action.kind.name
        expectedIntentVersion := intent.stateVersion
        consumedAt := A.isoformat now
        consentId := consent.map ConsentRecord.consentId
        expectedConsentVersion := consent.map ConsentRecord.stateVersion
        usageEventId := usageEventId }

/-- What is answered to a version conflict: the job of a release that came before. -/
def releasedMeanwhile (s : Store) (intent : ExecutionIntentRecord) (code : String) :
    Except AdmissionFailure (Option Released) := do
  if code ≠ "cas_conflict" then return none
  match ← passed (s.intent A.codec intent.ownerSubject intent.intentId) with
  | none => return none
  | some current =>
      if current.state ≠ .released then return none
      return (current.releasedJobId.bind (s.job intent.ownerSubject)).map fun job =>
        ⟨current, job, true⟩

/-- `_current_or_release`; `revalidated` is what `_revalidate_intent` came to. -/
def currentOrRelease (s : Store) (revalidated : Except AdmissionFailure Unit)
    (intent : ExecutionIntentRecord) (consent : Option ConsentRecord) (payload : Json)
    (usageEventId : String) (now : Int) : Except AdmissionFailure (Option Released × Store) := do
  if consent.any fun c => c.state ≠ .approved then return (none, s)
  revalidated
  let a ← A.releaseCall s intent consent payload usageEventId now
  match releaseIntent A.codec s a with
  | .ok released => return released
  | .error (.repositoryConflict code) =>
      match ← A.releasedMeanwhile s intent code with
      | some released => return (some released, s)
      | none => throw (.gatewayError (repositoryCode code))
  | .error failure => throw (.raised failure)

/-- The decision that `portal_decide` and `local_decide` record: who made it is theirs to say. -/
def approval (consent : ConsentRecord) (source : DecisionSource) (principal : ActorPrincipal)
    (device : Option (String × Int)) (now : Int) : TransitionConsent where
  ownerSubject := consent.ownerSubject
  consentId := consent.consentId
  target := "approved"
  expectedVersion := consent.stateVersion
  transitionAt := A.isoformat now
  decisionSource := some source
  decisionPrincipal := some principal
  decisionDeviceId := device.map Prod.fst
  decisionDeviceIdentityGeneration := device.map Prod.snd

end Admission

end AutocadMcp.Approval
