import AutocadMcp.Program.Source
import AutocadMcp.Gateway.Repository

/-!
# Execution intents and consents

The records of `phase7.py` with the checks that `model_validate` makes of them,
and the transitions of `phase7_repository.py`. The fields of an intent that only
its digest covers are one value; digests, the size of an encoding and the parser of
ISO dates are taken by a codec.
-/

namespace AutocadMcp.Approval

open Gateway (Failure conflict IntentAction)
open Program (isDigest isRevision within)

inductive IntentState where
  | awaitingApproval
  | ready
  | released
  | denied
  | expired
  | invalidated
  | cancelled
  deriving DecidableEq, Repr

namespace IntentState

def name : IntentState → String
  | .awaitingApproval => "awaiting_approval"
  | .ready => "ready"
  | .released => "released"
  | .denied => "denied"
  | .expired => "expired"
  | .invalidated => "invalidated"
  | .cancelled => "cancelled"

/-- `_INTENT_TRANSITIONS`. -/
def transitions : IntentState → List IntentState
  | .awaitingApproval => [.ready, .denied, .expired, .invalidated, .cancelled]
  | .ready => [.denied, .expired, .invalidated, .cancelled]
  | .released | .denied | .expired | .invalidated | .cancelled => []

end IntentState

inductive ConsentState where
  | requested
  | approved
  | denied
  | expired
  | invalidated
  | consumed
  deriving DecidableEq, Repr

namespace ConsentState

def all : List ConsentState := [.requested, .approved, .denied, .expired, .invalidated, .consumed]

def name : ConsentState → String
  | .requested => "requested"
  | .approved => "approved"
  | .denied => "denied"
  | .expired => "expired"
  | .invalidated => "invalidated"
  | .consumed => "consumed"

/-- `_CONSENT_TRANSITIONS`. -/
def transitions : ConsentState → List ConsentState
  | .requested => [.approved, .denied, .expired, .invalidated]
  | .approved => [.expired, .invalidated]
  | .denied | .expired | .invalidated | .consumed => []

/-- `target in {"approved", "denied"}`. -/
def isDecision : ConsentState → Bool
  | .approved | .denied => true
  | _ => false

end ConsentState

inductive AssuranceLevel where
  | none
  | deviceLocalConfirmation
  | userRecentAuth
  | userRecentAuthPlusDeviceLocal
  deriving DecidableEq, Repr

inductive DecisionSource where
  | deviceLocal
  | portalRecentAuth
  deriving DecidableEq, Repr

structure ActorPrincipal where
  issuer : String
  subject : String
  deriving DecidableEq

/-- `ExecutionIntentRecord`, and a row of `execution_intents`. -/
structure ExecutionIntentRecord where
  intentId : String
  intentVersion : Int
  ownerSubject : String
  action : IntentAction
  state : IntentState
  stateVersion : Int
  deviceId : String
  documentId : String
  expectedDocumentRevision : String
  programId : String
  programRevision : Int
  programDigest : String
  previewId : String
  previewDigest : String
  previewExecutionDigest : String
  previewExpiresAt : String
  deterministicReceiptId : String
  commitExecutionDigest : String
  requiredAssurance : AssuranceLevel
  idempotencyKey : String
  requestHash : String
  intentDigest : String
  createdAt : String
  expiresAt : String
  consentId : Option String
  releasedJobId : Option String
  /-- The actor, the device key, the pins, the risk class and the effect summary. -/
  pinned : Json
  deriving DecidableEq

/-- `ConsentRecord`, and a row of `consents`. -/
structure ConsentRecord where
  consentId : String
  consentVersion : Int
  ownerSubject : String
  intentId : String
  intentVersion : Int
  intentDigest : String
  requiredAssurance : AssuranceLevel
  state : ConsentState
  stateVersion : Int
  challengeNonceHash : String
  requestedAt : String
  expiresAt : String
  decidedAt : Option String
  decisionSource : Option DecisionSource
  decisionPrincipal : Option ActorPrincipal
  decisionDeviceId : Option String
  decisionDeviceIdentityGeneration : Option Int
  consumedAt : Option String
  deriving DecidableEq

/-- A parsed date; only dates of one kind are compared. -/
structure Moment where
  aware : Bool
  instant : Int
  deriving DecidableEq

structure Codec where
  /-- `canonical_json`; nothing for a value that is not bounded. -/
  canonicalJson : Json → Option String
  /-- `sha256(encoded).hexdigest()`. -/
  sha256 : String → String
  /-- `_timestamp`. -/
  timestamp : String → Option Moment
  executionIntentDigest : ExecutionIntentRecord → Option String
  /-- The bytes that `_record_is_bounded` counts. -/
  intentBytes : ExecutionIntentRecord → Option Nat
  consentBytes : ConsentRecord → Option Nat
  pinnedFits : Json → Bool

/-! ## Field validators -/

/-- `_PUBLIC_ID`. -/
def isPublicId (text : String) : Bool :=
  match text.toList with
  | [] => false
  | c :: cs => c.isAlphanum && cs.length ≤ 255 &&
      cs.all fun c => c.isAlphanum || c ∈ ['.', '_', ':', '-']

/-- A text of one length, with a digit where the template has a `d`. -/
def matchesTemplate (template text : List Char) : Bool :=
  template.length = text.length &&
    (template.zip text).all fun p => if p.1 = 'd' then p.2.isDigit else p.1 = p.2

def isZone (text : List Char) : Bool :=
  text = ['Z'] || matchesTemplate "+dd:dd".toList text || matchesTemplate "-dd:dd".toList text

/-- `_TIMESTAMP`. -/
def isTimestampText (text : String) : Bool :=
  matchesTemplate "dddd-dd-ddTdd:dd:dd".toList (text.toList.take 19) &&
    match text.toList.drop 19 with
    | '.' :: rest =>
        let fraction := rest.takeWhile Char.isDigit
        1 ≤ fraction.length && fraction.length ≤ 7 && isZone (rest.dropWhile Char.isDigit)
    | rest => isZone rest

/-- `Field(min_length=1, max_length=…)`. -/
def isText (limit : Nat) (text : String) : Bool := 1 ≤ text.length && text.length ≤ limit

def maxVersion : Int := 2147483647

def maxRecordBytes : Nat := 1048576

def ActorPrincipal.fits (p : ActorPrincipal) : Bool := isText 512 p.issuer && isText 512 p.subject

section

variable (C : Codec)

/-- `Timestamp` with `_validate_timestamp`. -/
def isTimestamp (text : String) : Bool :=
  isTimestampText text && (C.timestamp text).any Moment.aware

/-- `_timestamp`, which raises a `ValueError`. -/
def timestamp (text : String) : Except Failure Moment :=
  match C.timestamp text with
  | some moment => .ok moment
  | none => .error .valueError

/-- `_timestamp(a) < _timestamp(b)`; a naive date and an aware one are a `TypeError`. -/
def before (a b : String) : Except Failure Bool := do
  let a ← timestamp C a
  let b ← timestamp C b
  check (a.aware = b.aware) .valueError
  return a.instant < b.instant

namespace ExecutionIntentRecord

def fieldsFit (r : ExecutionIntentRecord) : Bool :=
  isPublicId r.intentId && within 1 maxVersion r.intentVersion && isText 512 r.ownerSubject &&
    within 0 maxVersion r.stateVersion && isPublicId r.deviceId && isPublicId r.documentId &&
    isRevision r.expectedDocumentRevision && isPublicId r.programId &&
    within 1 maxVersion r.programRevision && isDigest r.programDigest && isPublicId r.previewId &&
    isDigest r.previewDigest && isDigest r.previewExecutionDigest &&
    isTimestamp C r.previewExpiresAt && isPublicId r.deterministicReceiptId &&
    isDigest r.commitExecutionDigest && C.pinnedFits r.pinned && isText 256 r.idempotencyKey &&
    isDigest r.requestHash && isDigest r.intentDigest && isTimestamp C r.createdAt &&
    isTimestamp C r.expiresAt && r.consentId.all isPublicId && r.releasedJobId.all isPublicId

/-- `model_validate`, with `_validate_intent`. -/
def validate (r : ExecutionIntentRecord) : Except Failure Unit := do
  check (r.fieldsFit C) .valueError
  check (∃ bytes ∈ C.intentBytes r, bytes ≤ maxRecordBytes) .valueError
  check (C.executionIntentDigest r = some r.intentDigest) .valueError
  check (r.state = .released ↔ r.releasedJobId.isSome) .valueError
  check (¬ (r.requiredAssurance = .none ∧ r.state = .awaitingApproval)) .valueError
  check (← before C r.createdAt r.expiresAt) .valueError
  check (← before C r.createdAt r.previewExpiresAt) .valueError

end ExecutionIntentRecord

namespace ConsentRecord

def fieldsFit (r : ConsentRecord) : Bool :=
  isPublicId r.consentId && within 1 maxVersion r.consentVersion && isText 512 r.ownerSubject &&
    isPublicId r.intentId && within 1 maxVersion r.intentVersion && isDigest r.intentDigest &&
    within 0 maxVersion r.stateVersion && isDigest r.challengeNonceHash &&
    isTimestamp C r.requestedAt && isTimestamp C r.expiresAt && r.decidedAt.all (isTimestamp C) &&
    r.decisionPrincipal.all ActorPrincipal.fits && r.decisionDeviceId.all isPublicId &&
    r.decisionDeviceIdentityGeneration.all (within 1 maxVersion) &&
    r.consumedAt.all (isTimestamp C)

/-- `state in {"approved", "denied", "consumed"}`. -/
def isDecided (state : ConsentState) : Bool := state.isDecision || state = .consumed

/-- `model_validate`, with `_validate_consent`. -/
def validate (r : ConsentRecord) : Except Failure Unit := do
  check (r.fieldsFit C) .valueError
  check (∃ bytes ∈ C.consentBytes r, bytes ≤ maxRecordBytes) .valueError
  check (← before C r.requestedAt r.expiresAt) .valueError
  if isDecided r.state then
    check (r.decidedAt.isSome ∧ r.decisionSource.isSome ∧ r.decisionPrincipal.isSome) .valueError
  else
    check (r.decidedAt = none ∧ r.decisionSource = none ∧ r.decisionPrincipal = none) .valueError
  check (r.state = .consumed ↔ r.consumedAt.isSome) .valueError
  if r.decisionSource = some .deviceLocal then
    check (r.decisionDeviceId.isSome ∧ r.decisionDeviceIdentityGeneration.isSome) .valueError
  else
    check (r.decisionDeviceId = none ∧ r.decisionDeviceIdentityGeneration = none) .valueError

end ConsentRecord

end

end AutocadMcp.Approval
