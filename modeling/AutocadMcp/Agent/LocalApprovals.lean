import AutocadMcp.Lib.Checked
import AutocadMcp.Lib.Machine
import AutocadMcp.Lib.Table
import Mathlib.Data.List.Sort
import Mathlib.Data.String.Basic

/-!
# Local approvals

`ApprovalStore` keeps the approval requests of the Gateway in a table, and `AgentCore` fills it
from the socket and lets the user decide. The core checks a request against the session, the
device identity and the clock; the store checks the decision against the row once more. The reads
of the clock, the identity, the signature and the fate of a send are in the events. Nothing is
awaited between the first check of a decision and its record, so a call is one step up to its
send, and the view is published in a step of its own after a send.
-/

namespace AutocadMcp.LocalApproval

/-! ## Messages -/

structure ApprovalRequest where
  sessionId : String
  deviceId : String
  correlationId : String
  approvalRequestId : String
  intentId : String
  consentId : String
  intentDigest : String
  challengeNonce : String
  expiresAt : String
  deviceIdentityGeneration : ℕ
  deviceKeyThumbprint : String
  approvalRequestDigest : String
  deriving DecidableEq

inductive Verdict where
  | approve
  | deny
  deriving DecidableEq

structure ApprovalDecision where
  sessionId : String
  deviceId : String
  correlationId : String
  sequence : ℕ
  issuedAt : String
  approvalRequestId : String
  approvalRequestDigest : String
  intentId : String
  consentId : String
  intentDigest : String
  challengeNonce : String
  decision : Verdict
  decidedAt : String
  deviceIdentityGeneration : ℕ
  deviceKeyThumbprint : String
  deviceSessionProof : String
  deriving DecidableEq

/-- What a decision repeats of its request. -/
structure ApprovalBinding where
  approvalRequestId : String
  sessionId : String
  deviceId : String
  intentId : String
  consentId : String
  intentDigest : String
  challengeNonce : String
  deviceIdentityGeneration : ℕ
  deviceKeyThumbprint : String
  deriving DecidableEq

def ApprovalRequest.binding (r : ApprovalRequest) : ApprovalBinding :=
  ⟨r.approvalRequestId, r.sessionId, r.deviceId, r.intentId, r.consentId, r.intentDigest,
    r.challengeNonce, r.deviceIdentityGeneration, r.deviceKeyThumbprint⟩

def ApprovalDecision.binding (d : ApprovalDecision) : ApprovalBinding :=
  ⟨d.approvalRequestId, d.sessionId, d.deviceId, d.intentId, d.consentId, d.intentDigest,
    d.challengeNonce, d.deviceIdentityGeneration, d.deviceKeyThumbprint⟩

/-- Times as instants and as the texts of messages and rows. -/
structure ApprovalClock where
  fromisoformat : String → ℤ
  isoformat : ℤ → String

inductive ApprovalFailure where
  /-- `ApprovalConflict` -/
  | conflict (message : String)
  | runtimeError (message : String)
  /-- What `parse_agent_message` raises. -/
  | valueError (message : String)
  | integrityError
  deriving DecidableEq

/-! ## The store -/

inductive ApprovalStatus where
  | pending
  | approved
  | denied
  | invalidated
  | expired
  deriving DecidableEq

def Verdict.status : Verdict → ApprovalStatus
  | approve => .approved
  | deny => .denied

/-- A row of `phase7_local_approvals`. -/
structure ApprovalRow where
  approvalRequestDigest : String
  approvalRequestId : String
  consentId : String
  request : ApprovalRequest
  status : ApprovalStatus
  decision : Option ApprovalDecision
  updatedAt : String
  deriving DecidableEq

abbrev ApprovalTable := Table ApprovalRow.approvalRequestDigest

structure StoredApproval where
  request : ApprovalRequest
  status : ApprovalStatus
  decision : Option ApprovalDecision
  deriving DecidableEq

/-- `UPDATE … SET status = ?, updated_at = ? WHERE status = 'pending' AND …` -/
def settle (status : ApprovalStatus) (now : String) (p : ApprovalRow → Bool) (row : ApprovalRow) :
    ApprovalRow :=
  if row.status = .pending ∧ p row = true then { row with status := status, updatedAt := now }
  else row

@[simp] theorem settle_digest (status : ApprovalStatus) (now : String) (p : ApprovalRow → Bool)
    (row : ApprovalRow) :
    (settle status now p row).approvalRequestDigest = row.approvalRequestDigest := by
  unfold settle
  split <;> rfl

/-- `UPDATE … SET status = ?, decision_json = ?, updated_at = ? WHERE status = 'pending'` -/
def markDecided (decision : ApprovalDecision) (now : String) (row : ApprovalRow) : ApprovalRow :=
  if row.status = .pending then
    { row with status := decision.decision.status, decision := some decision, updatedAt := now }
  else row

@[simp] theorem markDecided_digest (decision : ApprovalDecision) (now : String)
    (row : ApprovalRow) :
    (markDecided decision now row).approvalRequestDigest = row.approvalRequestDigest := by
  unfold markDecided
  split <;> rfl

section

variable (T : ApprovalClock) (rows : ApprovalTable) (now : ℤ)

/-- `invalidate_pending` -/
def invalidatePending : ApprovalTable :=
  rows.mapRows (settle .invalidated (T.isoformat now) fun _ => true) fun _ => settle_digest ..

def isExpired (row : ApprovalRow) : Bool := T.fromisoformat row.request.expiresAt ≤ now

/-- `expire` -/
def expire : ApprovalTable :=
  rows.mapRows (settle .expired (T.isoformat now) (isExpired T now)) fun _ => settle_digest ..

/-- `_row`: the request is validated again, and one that has expired is refused. -/
def readRow (row : ApprovalRow) : Except ApprovalFailure StoredApproval := do
  check (isExpired T now row = false) (.valueError "approval request has expired")
  return ⟨row.request, row.status, row.decision⟩

def pendingRow (request : ApprovalRequest) : ApprovalRow where
  approvalRequestDigest := request.approvalRequestDigest
  approvalRequestId := request.approvalRequestId
  consentId := request.consentId
  request := request
  status := .pending
  decision := none
  updatedAt := T.isoformat now

/-- `record_request`; the flag says that the request was there. -/
def recordRequest (request : ApprovalRequest) :
    Except ApprovalFailure ((StoredApproval × Bool) × ApprovalTable) :=
  match rows.get? request.approvalRequestDigest with
  | some existing => do
      let stored ← readRow T now existing
      check (stored.request.approvalRequestId = request.approvalRequestId)
        (.conflict "approval request digest collision")
      return ((stored, true), rows)
  | none =>
      let superseded := rows.mapRows (settle .invalidated (T.isoformat now) fun row =>
        row.consentId = request.consentId) fun _ => settle_digest ..
      match superseded.insert (pendingRow T now request) with
      | none => .error .integrityError
      | some inserted => .ok ((⟨request, .pending, none⟩, false), inserted)

/-- `ORDER BY updated_at DESC LIMIT 1` of the rows with a request id. -/
def latest (approvalRequestId : String) : Option ApprovalRow :=
  (rows.rows.filter fun row => row.approvalRequestId = approvalRequestId).foldl
    (fun best row =>
      match best with
      | none => some row
      | some b => if b.updatedAt < row.updatedAt then some row else some b) none

/-- `record_decision`; the flag says that the decision was there. -/
def recordDecision (decision : ApprovalDecision) :
    Except ApprovalFailure ((StoredApproval × Bool) × ApprovalTable) :=
  match rows.get? decision.approvalRequestDigest with
  | none => .error (.conflict "approval request is unavailable")
  | some row => do
      let stored ← readRow T now row
      if stored.status ≠ .pending then
        check (stored.status = decision.decision.status ∧ stored.decision = some decision)
          (.conflict "approval request is no longer pending")
        return ((stored, true), rows)
      else
        check (decision.binding = stored.request.binding)
          (.conflict "approval decision binding mismatch")
        return ((⟨stored.request, decision.decision.status, some decision⟩, false),
          rows.modify decision.approvalRequestDigest (markDecided decision (T.isoformat now))
            fun _ => markDecided_digest ..)

/-- `pending`, of a table that `expire` has swept. -/
def pendingApprovals : List ApprovalRow :=
  ((rows.rows.filter fun row => row.status = .pending).insertionSort fun a b =>
    a.updatedAt < b.updatedAt ∨
      (a.updatedAt = b.updatedAt ∧ a.approvalRequestId ≤ b.approvalRequestId)).take 64

end

/-! ## The core -/

structure DeviceIdentity where
  deviceId : String
  generation : ℕ
  keyThumbprint : String
  deriving DecidableEq

structure ApprovalConfig where
  deviceId : String
  localApprovalEnabled : Bool
  hasIdentityStore : Bool

/-- The session id with the socket that it came over. -/
structure Connection where
  sessionId : String
  websocket : ℕ

/-- `identity` is what `load_identity` gives, nothing where it raises; `sent` only records what
was handed to a socket. -/
structure ApprovalCore where
  rows : ApprovalTable := .empty
  paused : Bool := false
  connection : Option Connection := none
  identity : Option DeviceIdentity := none
  sequence : ℕ := 0
  sent : List ApprovalDecision := []

/-- The reads of the clock in `submit_approval_decision`: in `get`, before the decision and in
`record_decision`. -/
structure SubmitClock where
  sweptAt : ℤ
  decidedAt : ℤ
  recordedAt : ℤ

inductive ApprovalCall where
  /-- A request of the Gateway, over a socket. -/
  | request (websocket : ℕ) (message : ApprovalRequest) (now : ℤ)
  /-- `submit_approval_decision`, with what the signature gives or raises. -/
  | submit (approvalRequestId : String) (decision : Verdict) (clock : SubmitClock)
      (proof : Except ApprovalFailure String)
  | setPaused (paused : Bool) (now : ℤ)
  /-- A session begins; one that was there is replaced. -/
  | welcomed (connection : Connection) (now : ℤ)
  | disconnected (now : ℤ)
  | identityChanged (identity : Option DeviceIdentity)
  /-- The process starts again over the same table. -/
  | restarted (paused : Bool) (now : ℤ)
  /-- The Gateway closed with code 4403. -/
  | revoked (now : ℤ)
  /-- `_publish_approvals` after a send, or `expire` by itself. -/
  | published (now : ℤ)
  | swept (now : ℤ)

section

variable (T : ApprovalClock) (cfg : ApprovalConfig) (a : ApprovalCore)

/-- The device identity is that of the request. -/
def DeviceIdentity.Fits (identity : DeviceIdentity) (request : ApprovalRequest) : Prop :=
  request.deviceId = identity.deviceId ∧
    request.deviceIdentityGeneration = identity.generation ∧
    request.deviceKeyThumbprint = identity.keyThumbprint

instance (identity : DeviceIdentity) (request : ApprovalRequest) :
    Decidable (identity.Fits request) := inferInstanceAs (Decidable (_ ∧ _))

/-- The request is addressed to the session, the device and its identity. -/
def Addressed (connection : Connection) (identity : DeviceIdentity) (request : ApprovalRequest) :
    Prop :=
  request.sessionId = connection.sessionId ∧ request.deviceId = cfg.deviceId ∧
    identity.Fits request

instance (connection : Connection) (identity : DeviceIdentity) (request : ApprovalRequest) :
    Decidable (Addressed cfg connection identity request) := inferInstanceAs (Decidable (_ ∧ _))

/-- The pending requests are addressed to the identity that can be read. -/
def identityCurrent (swept : ApprovalTable) : Bool :=
  match a.identity with
  | none => false
  | some identity => (pendingApprovals swept).all fun row => identity.Fits row.request

/-- The table after `_publish_approvals`. -/
def publishApprovals (rows : ApprovalTable) (now : ℤ) : ApprovalTable :=
  let swept := expire T rows now
  if cfg.hasIdentityStore && !identityCurrent a swept then invalidatePending T swept now else swept

/-- The session ends with its own text for a conflict. -/
def requestFailure : ApprovalFailure → ApprovalFailure
  | .conflict _ => .runtimeError "approval request conflict"
  | e => e

/-- `_handle_approval_request`, up to its send. -/
def handleApprovalRequest (websocket : ℕ) (message : ApprovalRequest) (now : ℤ) :
    Except ApprovalFailure Unit × ApprovalCore :=
  match a.connection with
  | none => (.error (.runtimeError "unexpected approval request"), a)
  | some connection =>
      if ¬ (cfg.localApprovalEnabled ∧ cfg.hasIdentityStore ∧ websocket = connection.websocket) then
        (.error (.runtimeError "unexpected approval request"), a)
      else
        match a.identity with
        | none => (.error (.runtimeError "paired device identity is unavailable"), a)
        | some identity =>
            if ¬ Addressed cfg connection identity message then
              (.error (.runtimeError "approval request binding mismatch"),
                { a with rows := publishApprovals T cfg a (invalidatePending T a.rows now) now })
            else
              match recordRequest T a.rows now message with
              | .error e => (.error (requestFailure e), a)
              | .ok ((stored, duplicate), rows) =>
                  if a.paused then
                    (.ok (), { a with
                      rows := publishApprovals T cfg a (invalidatePending T rows now) now })
                  else
                    match duplicate, stored.decision with
                    | true, some decision =>
                        if decision.sessionId ≠ connection.sessionId then
                          (.error (.runtimeError "approval decision belongs to replaced session"),
                            { a with rows := rows })
                        else (.ok (), { a with rows := rows, sent := a.sent ++ [decision] })
                    | _, _ => (.ok (), { a with rows := publishApprovals T cfg a rows now })

/-- The message of a decision. -/
def decisionMessage (connection : Connection) (request : ApprovalRequest) (decision : Verdict)
    (sequence : ℕ) (decidedAt proof : String) : ApprovalDecision where
  sessionId := connection.sessionId
  deviceId := request.deviceId
  correlationId := request.correlationId
  sequence := sequence
  issuedAt := decidedAt
  approvalRequestId := request.approvalRequestId
  approvalRequestDigest := request.approvalRequestDigest
  intentId := request.intentId
  consentId := request.consentId
  intentDigest := request.intentDigest
  challengeNonce := request.challengeNonce
  decision := decision
  decidedAt := decidedAt
  deviceIdentityGeneration := request.deviceIdentityGeneration
  deviceKeyThumbprint := request.deviceKeyThumbprint
  deviceSessionProof := proof

/-- `submit_approval_decision` from the stored request on, with the table that `get` left. -/
def decideStored (connection : Connection) (stored : StoredApproval) (rows : ApprovalTable)
    (decision : Verdict) (clock : SubmitClock) (proof : Except ApprovalFailure String) :
    Except ApprovalFailure ApprovalDecision × ApprovalCore :=
  if stored.status ≠ .pending then
    (.error (.runtimeError "approval_not_pending"), { a with rows := rows })
  else
    match a.identity with
    | none =>
        (.error (.runtimeError "paired device identity is unavailable"), { a with rows := rows })
    | some identity =>
        if ¬ Addressed cfg connection identity stored.request then
          (.error (.runtimeError "approval_binding_mismatch"), { a with
            rows := publishApprovals T cfg a (invalidatePending T rows clock.decidedAt)
              clock.decidedAt })
        else if T.fromisoformat stored.request.expiresAt ≤ clock.decidedAt then
          (.error (.runtimeError "approval_expired"), { a with
            rows := publishApprovals T cfg a (expire T rows clock.decidedAt) clock.decidedAt })
        else
          match proof with
          | .error e => (.error e, { a with rows := rows, sequence := a.sequence + 1 })
          | .ok proof =>
              let message := decisionMessage connection stored.request decision (a.sequence + 1)
                (T.isoformat clock.decidedAt) proof
              match recordDecision T rows clock.recordedAt message with
              | .error e => (.error e, { a with rows := rows, sequence := a.sequence + 1 })
              | .ok ((_, duplicate), recorded) =>
                  if duplicate then (.error (.runtimeError "approval_decision_replayed"),
                    { a with rows := recorded, sequence := a.sequence + 1 })
                  else (.ok message, { a with
                    rows := recorded, sequence := a.sequence + 1, sent := a.sent ++ [message] })

/-- `submit_approval_decision`, up to its send. -/
def submitApprovalDecision (approvalRequestId : String) (decision : Verdict) (clock : SubmitClock)
    (proof : Except ApprovalFailure String) :
    Except ApprovalFailure ApprovalDecision × ApprovalCore :=
  if ¬ (cfg.localApprovalEnabled ∧ cfg.hasIdentityStore) then
    (.error (.runtimeError "device_local_approval_disabled"), a)
  else if a.paused then (.error (.runtimeError "paused_by_user"), a)
  else
    match a.connection with
    | none => (.error (.runtimeError "approval_session_unavailable"), a)
    | some connection =>
        let rows := expire T a.rows clock.sweptAt
        match latest rows approvalRequestId with
        | none => (.error (.runtimeError "approval_not_pending"), { a with rows := rows })
        | some row =>
            match readRow T clock.sweptAt row with
            | .error e => (.error e, { a with rows := rows })
            | .ok stored => decideStored T cfg a connection stored rows decision clock proof

def step (a : ApprovalCore) : ApprovalCall → ApprovalCore
  | .request websocket message now => (handleApprovalRequest T cfg a websocket message now).2
  | .submit id decision clock proof => (submitApprovalDecision T cfg a id decision clock proof).2
  | .setPaused paused now =>
      let rows := if paused then invalidatePending T a.rows now else a.rows
      { a with paused := paused, rows := publishApprovals T cfg a rows now }
  | .welcomed connection now =>
      { a with connection := some connection, rows := publishApprovals T cfg a a.rows now }
  | .disconnected now =>
      { a with connection := none, rows := publishApprovals T cfg a a.rows now }
  | .identityChanged identity => { a with identity := identity }
  | .restarted paused now =>
      { a with paused := paused, connection := none, rows := publishApprovals T cfg a a.rows now }
  | .revoked now => { a with rows := invalidatePending T a.rows now }
  | .published now => { a with rows := publishApprovals T cfg a a.rows now }
  | .swept now => { a with rows := expire T a.rows now }

/-- An Agent that starts with an empty table, after some calls. -/
def after (paused : Bool) (identity : Option DeviceIdentity) (calls : List ApprovalCall) :
    ApprovalCore :=
  runFrom (step T cfg) { paused := paused, identity := identity } calls

end

end AutocadMcp.LocalApproval
