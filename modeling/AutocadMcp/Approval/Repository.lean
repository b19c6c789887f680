import AutocadMcp.Approval.Store

/-!
# The operations on intents and consents

`Phase7Repository`: each operation is one transaction, a function to what it
returns and the tables after it, or to what it raises.
-/

namespace AutocadMcp.Approval

open Gateway (Failure conflict JobState isActive)

section

variable (C : Codec)

/-! ## Intents -/

namespace Store

/-- `INSERT INTO execution_intents`: the primary key, both `UNIQUE` constraints and the reference to
the consent. -/
def insertIntent (s : Store) (r : ExecutionIntentRecord) : Except Failure Store :=
  if (s.intents.rows.any fun x => x.ownerSubject = r.ownerSubject ∧
        (x.idempotencyKey = r.idempotencyKey ∨ x.intentDigest = r.intentDigest)) ∨
      r.consentId.any (fun id => (s.consents.get? id).isNone) then
    .error .integrityError
  else
    match s.intents.insert r with
    | some intents => .ok { s with intents := intents }
    | none => .error .integrityError

/-- `_intent_conflict_row`. -/
def intentConflictRow (s : Store) (r : ExecutionIntentRecord) :
    Except Failure (Option ExecutionIntentRecord) := do
  match s.intents.rows.find? fun x => x.intentId = r.intentId ∨
      (x.ownerSubject = r.ownerSubject ∧
        (x.idempotencyKey = r.idempotencyKey ∨ x.intentDigest = r.intentDigest)) with
  | none => return none
  | some row =>
      row.validate C
      return some row

end Store

/-- `_same_intent_request`. -/
def sameIntentRequest (existing requested : ExecutionIntentRecord) : Bool :=
  existing.intentId = requested.intentId && existing.ownerSubject = requested.ownerSubject &&
    existing.idempotencyKey = requested.idempotencyKey &&
    existing.requestHash = requested.requestHash && existing.intentDigest = requested.intentDigest

/-- `create_intent`. -/
def createIntent (s : Store) (r : ExecutionIntentRecord) :
    Except Failure ((ExecutionIntentRecord × Bool) × Store) := do
  r.validate C
  check (r.state ∈ [.awaitingApproval, .ready] ∧ r.stateVersion = 0)
    (conflict "intent_initial_state_invalid")
  check (r.requiredAssurance = .none ↔ r.state = .ready) (conflict "intent_initial_state_invalid")
  s.requireIntentParents r
  match s.insertIntent r with
  | .ok s => return ((r, false), s)
  | .error _ =>
      match ← s.intentConflictRow C r with
      | none => throw (conflict "intent_conflict")
      | some existing =>
          check (sameIntentRequest existing r) (conflict "intent_conflict")
          return ((existing, true), s)

structure TransitionIntent where
  ownerSubject : String
  intentId : String
  target : String
  expectedVersion : Int
  consentId : Option String
  transitionAt : Option String

/-- An intent becomes ready without a consent, or with one that is approved for it. -/
def readyAllowed (current : ExecutionIntentRecord) (consent : Option ConsentRecord)
    (consentId : Option String) : Except Failure Unit :=
  if current.requiredAssurance = .none then
    check (consentId = none) (conflict "consent_binding_mismatch")
  else
    check (consent.any fun c => c.state = .approved ∧ c.intentVersion = current.intentVersion ∧
      c.intentDigest = current.intentDigest ∧ c.requiredAssurance = current.requiredAssurance)
      (conflict "consent_not_approved")

/-- `UPDATE execution_intents` of `transition_intent`. -/
def TransitionIntent.set (a : TransitionIntent) (target : IntentState)
    (r : ExecutionIntentRecord) : ExecutionIntentRecord :=
  { r with
    state := target
    stateVersion := r.stateVersion + 1
    consentId := r.consentId <|> a.consentId }

@[simp] theorem TransitionIntent.set_intentId (a : TransitionIntent) (target : IntentState)
    (r : ExecutionIntentRecord) : (a.set target r).intentId = r.intentId := rfl

/-- The expiry of an intent has passed. -/
def intentExpired (a : TransitionIntent) (current : ExecutionIntentRecord) :
    Except Failure Unit := do
  match a.transitionAt with
  | none => throw (conflict "transition_timestamp_required")
  | some transitionAt =>
      check (¬ (← before C transitionAt current.expiresAt)) (conflict "intent_not_expired")

/-- The checks of a transition along an edge of the table. -/
def TransitionIntent.allowed (a : TransitionIntent) (s : Store) (current : ExecutionIntentRecord)
    (target : IntentState) : Except Failure Unit := do
  check (current.stateVersion = a.expectedVersion) (conflict "cas_conflict")
  if target = .expired then
    intentExpired C a current
  let consent ← s.consentOf C a.ownerSubject a.consentId
  check (a.consentId.isSome → consent.any fun c => c.intentId = a.intentId)
    (conflict "consent_binding_mismatch")
  if target = .ready then
    readyAllowed current consent a.consentId

/-- `transition_intent`. -/
def transitionIntent (s : Store) (a : TransitionIntent) :
    Except Failure (Option ExecutionIntentRecord × Store) := do
  check (a.target ≠ "released") (conflict "release_binding_required")
  check (∀ t ∈ a.transitionAt, (C.timestamp t).isSome) .valueError
  match ← s.intent C a.ownerSubject a.intentId with
  | none => return (none, s)
  | some current =>
      if current.state.name = a.target then
        check (∀ id ∈ a.consentId, current.consentId = some id)
          (conflict "intent_transition_conflict")
        return (some current, s)
      else
        match current.state.transitions.find? fun t => t.name = a.target with
        | none => throw (conflict "invalid_intent_transition")
        | some target =>
            a.allowed C s current target
            let s := { s with
              intents := s.intents.modify a.intentId (a.set target) (a.set_intentId target) }
            return (← s.intent C a.ownerSubject a.intentId, s)

/-! ## Consents -/

namespace Store

/-- `INSERT INTO consents`. -/
def insertConsent (s : Store) (r : ConsentRecord) : Except Failure Store :=
  if s.consents.rows.any fun x => x.intentId = r.intentId ∧ x.intentVersion = r.intentVersion ∧
      x.requiredAssurance = r.requiredAssurance then
    .error .integrityError
  else
    match s.consents.insert r with
    | some consents => .ok { s with consents := consents }
    | none => .error .integrityError

/-- `_consent_conflict_row`. -/
def consentConflictRow (s : Store) (r : ConsentRecord) :
    Except Failure (Option ConsentRecord) := do
  match s.consents.rows.find? fun x => x.consentId = r.consentId ∨
      (x.intentId = r.intentId ∧ x.intentVersion = r.intentVersion ∧
        x.requiredAssurance = r.requiredAssurance) with
  | none => return none
  | some row =>
      row.validate C
      return some row

/-- The consent of an intent that has a binding is bound to it as well. -/
def bindConsent (s : Store) (r : ConsentRecord) : Except Failure Store :=
  match s.intentBinding r.ownerSubject r.intentId with
  | none => .ok s
  | some b =>
      match s.consentBindings.insert
          ⟨r.consentId, r.ownerSubject, r.intentId, b.bindingDigest, r.requestedAt⟩ with
      | some consentBindings => .ok { s with consentBindings := consentBindings }
      | none => .error .integrityError

end Store

/-- `_same_consent_request`. -/
def sameConsentRequest (existing requested : ConsentRecord) : Bool :=
  { requested with
    state := existing.state
    stateVersion := existing.stateVersion
    decidedAt := existing.decidedAt
    decisionSource := existing.decisionSource
    decisionPrincipal := existing.decisionPrincipal
    decisionDeviceId := existing.decisionDeviceId
    decisionDeviceIdentityGeneration := existing.decisionDeviceIdentityGeneration
    consumedAt := existing.consumedAt } = existing

/-- `create_consent`. -/
def createConsent (s : Store) (r : ConsentRecord) :
    Except Failure ((ConsentRecord × Bool) × Store) := do
  r.validate C
  check (r.state = .requested ∧ r.stateVersion = 0) (conflict "consent_initial_state_invalid")
  check (r.requiredAssurance ≠ .none) (conflict "consent_not_required")
  let intent ← s.intent C r.ownerSubject r.intentId
  check (intent.any fun i => i.intentVersion = r.intentVersion ∧ i.intentDigest = r.intentDigest ∧
    i.requiredAssurance = r.requiredAssurance) (conflict "intent_binding_mismatch")
  match s.insertConsent r with
  | .ok s => return ((r, false), ← s.bindConsent r)
  | .error _ =>
      match ← s.consentConflictRow C r with
      | none => throw (conflict "consent_conflict")
      | some existing =>
          check (sameConsentRequest existing r) (conflict "consent_conflict")
          return ((existing, true), s)

structure TransitionConsent where
  ownerSubject : String
  consentId : String
  target : String
  expectedVersion : Int
  transitionAt : String
  decisionSource : Option DecisionSource
  decisionPrincipal : Option ActorPrincipal
  decisionDeviceId : Option String
  decisionDeviceIdentityGeneration : Option Int

/-- The candidate of `transition_consent`; evidence is kept of a decision only. -/
def TransitionConsent.candidate (a : TransitionConsent) (target : ConsentState)
    (current : ConsentRecord) : ConsentRecord :=
  { current with
    state := target
    stateVersion := current.stateVersion + 1
    decidedAt := if target.isDecision then some a.transitionAt else none
    decisionSource := if target.isDecision then a.decisionSource else none
    decisionPrincipal := if target.isDecision then a.decisionPrincipal else none
    decisionDeviceId := if target.isDecision then a.decisionDeviceId else none
    decisionDeviceIdentityGeneration :=
      if target.isDecision then a.decisionDeviceIdentityGeneration else none }

@[simp] theorem TransitionConsent.candidate_consentId (a : TransitionConsent)
    (target : ConsentState) (r : ConsentRecord) :
    (a.candidate target r).consentId = r.consentId := rfl

/-- The decision of a consent comes before its expiry, and its expiry not before that. -/
def consentTimely (target : ConsentState) (transitionAt : String) (current : ConsentRecord) :
    Except Failure Unit := do
  if target = .expired then
    check (¬ (← before C transitionAt current.expiresAt)) (conflict "consent_not_expired")
  if target.isDecision then
    check (← before C transitionAt current.expiresAt) (conflict "consent_expired")

/-- `transition_consent`. -/
def transitionConsent (s : Store) (a : TransitionConsent) :
    Except Failure (Option ConsentRecord × Store) := do
  discard (timestamp C a.transitionAt)
  check (a.target ≠ "consumed") (conflict "consent_consume_requires_release")
  match ← s.consent C a.ownerSubject a.consentId with
  | none => return (none, s)
  | some current =>
      match ConsentState.all.find? fun t => t.name = a.target with
      | none => throw .valueError
      | some target =>
          let candidate := a.candidate target current
          candidate.validate C
          if current.state = target then
            let replay := { candidate with stateVersion := current.stateVersion }
            replay.validate C
            check (current = replay) (conflict "consent_transition_conflict")
            return (some current, s)
          else
            check (target ∈ current.state.transitions) (conflict "invalid_consent_transition")
            check (current.stateVersion = a.expectedVersion) (conflict "cas_conflict")
            consentTimely C target a.transitionAt current
            -- the device of a decision is a foreign key
            check (∀ id ∈ candidate.decisionDeviceId, (s.devices.get? id).isSome) .integrityError
            let s := { s with
              consents := s.consents.modify a.consentId (a.candidate target)
                (a.candidate_consentId target) }
            return (← s.consent C a.ownerSubject a.consentId, s)

/-! ## Release -/

structure ReleaseIntent where
  ownerSubject : String
  intentId : String
  jobId : String
  commandId : String
  idempotencyKey : String
  payloadHash : String
  payload : Json
  deadlineAt : String
  kind : String
  expectedIntentVersion : Int
  consumedAt : String
  consentId : Option String
  expectedConsentVersion : Option Int
  /-- `new_id("usage")`. -/
  usageEventId : String

/-- What `release_intent` returns. -/
structure Released where
  intent : ExecutionIntentRecord
  job : JobRow
  jobExisting : Bool

/-- `str.isspace` for one character. -/
def isSpace (c : Char) : Bool :=
  Program.isSpace c || (0x1c ≤ c.toNat && c.toNat ≤ 0x1f)

/-- An identifier of the new job. -/
def checkName (name value : String) : Except Failure Unit :=
  check (value ≠ "" ∧ value.length ≤ 256 ∧ value.toList.all (fun c => !isSpace c))
    (conflict s!"{name}_invalid")

def maxJobPayloadBytes : Nat := 1048576

/-- `_job_payload_json`. -/
def jobPayloadJson (payload : Json) : Except Failure String :=
  match C.canonicalJson payload with
  | none => .error (conflict "job_payload_invalid")
  | some encoded => do
      check (encoded.utf8ByteSize ≤ maxJobPayloadBytes) (conflict "job_payload_too_large")
      return encoded

/-- `_request_fingerprint`. -/
def requestFingerprint (kind payloadHash : String) : Except Failure String :=
  match C.canonicalJson (.obj [("effect_class", .str "write"), ("kind", .str kind),
      ("payload_hash", .str payloadHash), ("version", .str "cad.request/1")]) with
  | none => .error .valueError
  | some encoded => .ok (C.sha256 encoded)

namespace ReleaseIntent

/-- The row of the new job. -/
def job (a : ReleaseIntent) (deviceId payloadJson fingerprint : String) : JobRow :=
  { jobId := a.jobId
    ownerSubject := a.ownerSubject
    deviceId := deviceId
    kind := a.kind
    effectClass := .write
    state := .queued
    stateVersion := 0
    deadlineAt := some a.deadlineAt
    commandId := a.commandId
    idempotencyKey := a.idempotencyKey
    payloadHash := a.payloadHash
    payloadJson := payloadJson
    requestFingerprint := some fingerprint
    progress := none
    lastAgentSequence := 0
    result := none
    errorCode := none
    errorSummary := none
    cancelRequestedAt := none
    createdAt := a.consumedAt
    updatedAt := a.consumedAt }

/-- `_same_job_material`. -/
def sameJobMaterial (a : ReleaseIntent) (deviceId payloadJson fingerprint : String)
    (row : JobRow) : Bool :=
  row.deviceId = deviceId && row.kind = a.kind && row.effectClass = .write &&
    row.commandId = a.commandId && row.idempotencyKey = a.idempotencyKey &&
    row.payloadHash = a.payloadHash && row.payloadJson = payloadJson &&
    row.deadlineAt = some a.deadlineAt && row.requestFingerprint = some fingerprint

/-- The release of an intent that is released already. -/
def replay (a : ReleaseIntent) (s : Store) (intent : ExecutionIntentRecord)
    (payloadJson fingerprint : String) : Except Failure (Released × Store) := do
  check (intent.releasedJobId = some a.jobId ∧ intent.consentId = a.consentId)
    (conflict "intent_release_conflict")
  match s.job a.ownerSubject a.jobId with
  | none => throw (conflict "idempotency_state_invalid")
  | some job =>
      check (a.sameJobMaterial intent.deviceId payloadJson fingerprint job) (conflict "job_conflict")
      let s ← s.recordPhase8ReleaseUsage a.usageEventId a.ownerSubject a.intentId a.jobId
        job.createdAt
      return (⟨intent, job, true⟩, s)

/-- The version and the expiries of an intent that is to be released. -/
def checkIntent (a : ReleaseIntent) (intent : ExecutionIntentRecord) : Except Failure Unit := do
  check (intent.stateVersion = a.expectedIntentVersion) (conflict "cas_conflict")
  check (← before C a.consumedAt intent.expiresAt) (conflict "intent_expired")
  check (← before C a.consumedAt intent.previewExpiresAt) (conflict "intent_expired")
  check (← before C a.consumedAt a.deadlineAt) (conflict "job_deadline_invalid")

/-- The consent that a release consumes, where the intent requires one. -/
def requireConsent (a : ReleaseIntent) (s : Store) (intent : ExecutionIntentRecord) :
    Except Failure (Option ConsentRecord) := do
  if intent.requiredAssurance = .none then
    check (a.consentId = none ∧ intent.state = .ready) (conflict "consent_binding_mismatch")
    return none
  else
    check (a.consentId.isSome ∧ a.expectedConsentVersion.isSome) (conflict "consent_required")
    match ← s.consentOf C a.ownerSubject a.consentId with
    | none => throw (conflict "consent_binding_mismatch")
    | some consent =>
        check (consent.intentId = intent.intentId ∧ consent.intentVersion = intent.intentVersion ∧
          consent.intentDigest = intent.intentDigest ∧
          consent.requiredAssurance = intent.requiredAssurance) (conflict "consent_binding_mismatch")
        check (consent.state = .approved) (conflict "consent_not_approved")
        check (some consent.stateVersion = a.expectedConsentVersion) (conflict "cas_conflict")
        check (← before C a.consumedAt consent.expiresAt) (conflict "consent_expired")
        return some consent

/-- The lock of the document, unless its job is no longer active: then the stale row goes. -/
def clearedLocks (s : Store) (deviceId documentId : String) : LockTable :=
  match s.locks.get? (deviceId, documentId) with
  | none => s.locks
  | some lock =>
      match s.jobs.get? lock.jobId with
      | none => s.locks
      | some holder =>
          if isActive holder.state then s.locks
          else s.locks.deleteWhere fun l => l.document = (deviceId, documentId) ∧
            l.jobId = lock.jobId

/-- The lock of the document is held by the job of another release. -/
def documentBusy (a : ReleaseIntent) (s : Store) (locks : LockTable)
    (intent : ExecutionIntentRecord) : Bool :=
  match locks.get? (intent.deviceId, intent.documentId) with
  | none => false
  | some lock => (s.jobs.get? lock.jobId).isSome && lock.jobId ≠ a.jobId

/-- `INSERT INTO jobs` and its first event. -/
def insertJob (a : ReleaseIntent) (s : Store) (job : JobRow) : Except Failure Store := do
  check (s.jobs.rows.all fun r => r.commandId ≠ job.commandId ∧
    ¬ (r.ownerSubject = job.ownerSubject ∧ r.deviceId = job.deviceId ∧
      r.idempotencyKey = job.idempotencyKey)) (conflict "job_conflict")
  match s.jobs.insert job with
  | none => throw (conflict "job_conflict")
  | some jobs =>
      check (s.events.all fun e => ¬ (e.jobId = a.jobId ∧ e.sequence = 1)) .integrityError
      return { s with jobs := jobs, events := s.events ++ [⟨a.jobId, 1, .queued, a.consumedAt⟩] }

/-- `UPDATE consents` of a release. -/
def consume (a : ReleaseIntent) (r : ConsentRecord) : ConsentRecord :=
  { r with
    state := .consumed
    stateVersion := r.stateVersion + 1
    consumedAt := some a.consumedAt }

@[simp] theorem consume_consentId (a : ReleaseIntent) (r : ConsentRecord) :
    (a.consume r).consentId = r.consentId := rfl

def consumeConsent (a : ReleaseIntent) (s : Store) : Option ConsentRecord → Store
  | none => s
  | some consent => { s with
      consents := s.consents.modify consent.consentId a.consume a.consume_consentId }

/-- `INSERT INTO cad_program_write_locks`: the document and the job are both unique. -/
def insertLock (a : ReleaseIntent) (s : Store) (intent : ExecutionIntentRecord) :
    Except Failure Store := do
  check (s.locks.rows.all fun l => l.jobId ≠ a.jobId) (conflict "document_write_busy")
  match s.locks.insert ⟨intent.deviceId, intent.documentId, a.jobId, a.consumedAt⟩ with
  | none => throw (conflict "document_write_busy")
  | some locks => return { s with locks := locks }

/-- `UPDATE execution_intents` of a release. -/
def set (a : ReleaseIntent) (r : ExecutionIntentRecord) : ExecutionIntentRecord :=
  { r with
    state := .released
    stateVersion := r.stateVersion + 1
    consentId := a.consentId
    releasedJobId := some a.jobId }

@[simp] theorem set_intentId (a : ReleaseIntent) (r : ExecutionIntentRecord) :
    (a.set r).intentId = r.intentId := rfl

def updateIntent (a : ReleaseIntent) (s : Store) (intent : ExecutionIntentRecord) :
    Except Failure Store := do
  -- no row has the state that the `WHERE` clause asks for
  check (intent.state ∈ [.awaitingApproval, .ready]) (conflict "cas_conflict")
  check (s.intents.rows.all fun r => r.intentId = a.intentId ∨ r.releasedJobId ≠ some a.jobId)
    (conflict "intent_release_conflict")
  return { s with intents := s.intents.modify a.intentId a.set a.set_intentId }

/-- The release of an intent that is not released. -/
def release (a : ReleaseIntent) (s : Store) (intent : ExecutionIntentRecord)
    (payloadJson fingerprint : String) : Except Failure (Released × Store) := do
  a.checkIntent C intent
  let consent ← a.requireConsent C s intent
  check (s.jobs.rows.all fun r => r.jobId ≠ a.jobId ∧ r.commandId ≠ a.commandId ∧
    ¬ (r.ownerSubject = a.ownerSubject ∧ r.deviceId = intent.deviceId ∧
      r.idempotencyKey = a.idempotencyKey)) (conflict "job_preexists_release")
  let locks := clearedLocks s intent.deviceId intent.documentId
  check (a.documentBusy s locks intent = false) (conflict "document_write_busy")
  let job := a.job intent.deviceId payloadJson fingerprint
  let s ← a.insertJob { s with locks := locks } job
  let s := a.consumeConsent s consent
  let s ← a.insertLock s intent
  let s ← a.updateIntent s intent
  let s ← s.recordPhase8ReleaseUsage a.usageEventId a.ownerSubject a.intentId a.jobId a.consumedAt
  match ← s.intent C a.ownerSubject a.intentId with
  | none => throw .valueError
  | some intent => return (⟨intent, job, false⟩, s)

end ReleaseIntent

/-- The checks of the arguments, the encoded payload and the fingerprint of the request. -/
def ReleaseIntent.prepare (a : ReleaseIntent) : Except Failure (String × String) := do
  discard (timestamp C a.consumedAt)
  discard (timestamp C a.deadlineAt)
  checkName "job_id" a.jobId
  checkName "command_id" a.commandId
  checkName "idempotency_key" a.idempotencyKey
  checkName "payload_hash" a.payloadHash
  check a.payload.isDict (conflict "job_payload_invalid")
  let payloadJson ← jobPayloadJson C a.payload
  let fingerprint ← requestFingerprint C a.kind a.payloadHash
  return (payloadJson, fingerprint)

/-- What a job must be for an intent, whether it is released or not. -/
def ReleaseIntent.requireBindings (a : ReleaseIntent) (s : Store) (intent : ExecutionIntentRecord) :
    Except Failure Unit := do
  check (a.kind = intent.action.kind.name) (conflict "job_kind_mismatch")
  requireJobBinding intent a.payload
  s.requirePhase8ReleaseBinding intent a.consentId a.payload

def ReleaseIntent.settle (a : ReleaseIntent) (s : Store) (intent : ExecutionIntentRecord)
    (payloadJson fingerprint : String) : Except Failure (Released × Store) :=
  if intent.state = .released then a.replay s intent payloadJson fingerprint
  else a.release C s intent payloadJson fingerprint

/-- `release_intent`. -/
def releaseIntent (s : Store) (a : ReleaseIntent) :
    Except Failure (Option Released × Store) := do
  let (payloadJson, fingerprint) ← a.prepare C
  match ← s.intent C a.ownerSubject a.intentId with
  | none => return (none, s)
  | some intent =>
      a.requireBindings s intent
      let (released, s) ← a.settle C s intent payloadJson fingerprint
      return (some released, s)

/-! ## Calls -/

/-- One call of the repository, with its arguments. -/
inductive Call where
  | createIntent (record : ExecutionIntentRecord)
  | createConsent (record : ConsentRecord)
  | transitionIntent (arguments : TransitionIntent)
  | transitionConsent (arguments : TransitionConsent)
  | releaseIntent (arguments : ReleaseIntent)

/-- The transaction of a call, whatever it returns. -/
def Call.run (s : Store) : Call → Except Failure (Unit × Store)
  | .createIntent record => (Approval.createIntent C s record).map fun r => ((), r.2)
  | .createConsent record => (Approval.createConsent C s record).map fun r => ((), r.2)
  | .transitionIntent a => (Approval.transitionIntent C s a).map fun r => ((), r.2)
  | .transitionConsent a => (Approval.transitionConsent C s a).map fun r => ((), r.2)
  | .releaseIntent a => (Approval.releaseIntent C s a).map fun r => ((), r.2)

/-- The tables after a call: a transaction that raises is rolled back. -/
def callStep (s : Store) (c : Call) : Store := committed s (c.run C s)

end

end AutocadMcp.Approval
