import AutocadMcp.Contracts.Messages
import AutocadMcp.Lib.Checked
import AutocadMcp.Lib.Table

/-!
# The identity service

Pairing, proof of possession and revocation. A device is paired when a user approves the request
that it made and it signs a challenge with the key that it sent. From then on it trades signed
challenges for access tokens, each of which opens one socket. Every method is one transaction, but
for the token that follows a proof in a transaction of its own.
-/

namespace AutocadMcp.Identity

/-- The hashes and the signature check. `verify` passes on a key, a signature and a message that
`_verify` accepts. -/
structure Crypto where
  hash : String → String
  fingerprint : String → String
  validKey : String → Bool
  verify : String → String → String → Bool
  upper : String → String

structure Config where
  pairingTtlSeconds : Nat
  challengeTtlSeconds : Nat
  tokenTtlSeconds : Nat

inductive Failure where
  /-- `IdentityError`. -/
  | identity (code : String)
  | integrityError
  deriving DecidableEq, Repr

/-! ## Tables -/

inductive PairingState where
  | pending
  | approved
  | completed
  | denied
  | expired
  deriving DecidableEq, Repr

/-- A row of `users`. -/
structure UserRow where
  userId : String
  issuer : String
  subject : String
  lastSeenAt : Instant
  deriving DecidableEq, Repr

/-- A row of `pairing_sessions`. -/
structure PairingRow where
  pairingId : String
  userCodeHash : String
  deviceId : String
  displayName : String
  publicKey : String
  challengeHash : String
  pollingSecretHash : String
  ownerUserId : Option String
  state : PairingState
  attempts : Nat
  expiresAt : Instant
  createdAt : Instant
  deriving DecidableEq, Repr

/-- A row of `devices`. -/
structure DeviceRow where
  deviceId : String
  ownerSubject : String
  displayName : String
  deriving DecidableEq, Repr

/-- A row of `device_credentials`. -/
structure CredentialRow where
  deviceId : String
  publicKey : String
  keyFingerprint : String
  revokedAt : Option Instant
  deriving DecidableEq, Repr

/-- A row of `device_challenges`. -/
structure ChallengeRow where
  challengeId : String
  deviceId : String
  challengeHash : String
  expiresAt : Instant
  usedAt : Option Instant
  deriving DecidableEq, Repr

/-- A row of `agent_access_tokens`. -/
structure TokenRow where
  tokenHash : String
  deviceId : String
  expiresAt : Instant
  usedAt : Option Instant
  deriving DecidableEq, Repr

/-- A row of `security_audit`. -/
structure AuditRow where
  ownerUserId : Option String
  deviceId : Option String
  eventType : String
  outcome : String
  deriving DecidableEq, Repr

structure Db where
  users : Table UserRow.userId
  pairings : Table PairingRow.pairingId
  devices : Table DeviceRow.deviceId
  credentials : Table CredentialRow.deviceId
  challenges : Table ChallengeRow.challengeId
  tokens : Table TokenRow.tokenHash
  audit : List AuditRow

def Db.empty : Db := ⟨.empty, .empty, .empty, .empty, .empty, .empty, []⟩

/-- `_audit`. -/
def Db.audited (db : Db) (ownerUserId deviceId : Option String) (eventType outcome : String) : Db :=
  { db with audit := db.audit ++ [⟨ownerUserId, deviceId, eventType, outcome⟩] }

/-- The outcome of a method, and what it leaves in the database. -/
abbrev Outcome (α : Type) := Except Failure α × Db

/-- A transaction: a body that raises is rolled back. -/
def transaction {α : Type} (db : Db) (body : Except Failure (α × Db)) : Outcome α :=
  match body with
  | .ok (a, db') => (.ok a, db')
  | .error e => (.error e, db)

def inserted {κ α : Type} [DecidableEq κ] {key : α → κ} (t : Table key) (x : α) :
    Except Failure (Table key) :=
  match t.insert x with
  | some t => .ok t
  | none => .error .integrityError

section

variable (K : Crypto) (cfg : Config)

/-- `owner_key`. -/
def ownerKey (issuer subject : String) : Except Failure String :=
  if issuer = "" ∨ subject = "" then .error (.identity "invalid_token")
  else .ok ("user-" ++ K.hash (issuer ++ "\x00" ++ subject))

/-! ## Pairing -/

/-- A pairing session that is neither settled nor expired. -/
def PairingRow.isLive (now : Instant) (p : PairingRow) : Bool :=
  (p.state = .pending || p.state = .approved) && decide (now < p.expiresAt)

/-- What the next pairing request sweeps away. -/
def PairingRow.isSwept (now : Instant) (p : PairingRow) : Bool :=
  decide (p.expiresAt ≤ now) && p.state ≠ .completed

/-- The arguments of `start_pairing`, what it draws, and what it reads off the clock. -/
structure StartPairing where
  deviceId : String
  displayName : String
  publicKey : String
  pairingId : String
  userCode : String
  challenge : String
  pollingSecret : String
  now : Instant
  later : Instant

def StartPairing.row (r : StartPairing) : PairingRow where
  pairingId := r.pairingId
  userCodeHash := K.hash r.userCode
  deviceId := r.deviceId
  displayName := r.displayName
  publicKey := r.publicKey
  challengeHash := K.hash r.challenge
  pollingSecretHash := K.hash r.pollingSecret
  ownerUserId := none
  state := .pending
  attempts := 0
  expiresAt := r.later + cfg.pairingTtlSeconds
  createdAt := r.now

/-- The answer to a pairing request. -/
structure StartedPairing where
  pairingId : String
  userCode : String
  challenge : String
  pollingSecret : String
  confirmationUrl : String
  expiresAt : Instant
  deriving DecidableEq, Repr

/-- `start_pairing`. -/
def startPairing (db : Db) (r : StartPairing) : Outcome StartedPairing :=
  if K.validKey r.publicKey = false then (.error (.identity "invalid_request"), db)
  else
    transaction db do
      let pairings := db.pairings.deleteWhere (PairingRow.isSwept r.now)
      let active := pairings.rows.filter (PairingRow.isLive r.now)
      check (active.length < 1000) (.identity "rate_limited")
      check (active.any (fun p => p.deviceId = r.deviceId) = false) (.identity "rate_limited")
      check ((db.credentials.get? r.deviceId).any (fun c => c.revokedAt = none) = false)
        (.identity "device_already_paired")
      let row := r.row K cfg
      check (pairings.rows.any (fun p => p.userCodeHash = row.userCodeHash) = false)
        .integrityError
      let pairings ← inserted pairings row
      return (⟨r.pairingId, r.userCode, r.challenge, r.pollingSecret, "/pair?request=" ++ r.userCode,
        row.expiresAt⟩, { db with pairings := pairings })

/-- `INSERT INTO users … ON CONFLICT(issuer, subject) DO UPDATE`. -/
def upsertUser (db : Db) (userId issuer subject : String) (now : Instant) : Except Failure Db :=
  match db.users.rows.find? (fun u => u.issuer = issuer ∧ u.subject = subject) with
  | some user =>
      .ok { db with
        users := db.users.modify user.userId (fun u => { u with lastSeenAt := now }) fun _ => rfl }
  | none => do
      let users ← inserted db.users ⟨userId, issuer, subject, now⟩
      return { db with users := users }

/-- `SELECT * FROM pairing_sessions WHERE user_code_hash = ?`. -/
def Db.pairingByCode (db : Db) (userCode : String) : Option PairingRow :=
  db.pairings.rows.find? (fun p => p.userCodeHash = K.hash (K.upper userCode))

/-- `_pairing_by_reference`. -/
def Db.pairingByReference (db : Db) (reference : String) : Option PairingRow :=
  if reference.length = 8 then db.pairingByCode K reference else db.pairings.get? reference

/-- The row after a user's answer. -/
def PairingRow.answered (userId : String) (answer : PairingState) (p : PairingRow) : PairingRow :=
  { p with ownerUserId := some userId, state := answer }

theorem PairingRow.answered_pairingId (userId : String) (answer : PairingState) (p : PairingRow) :
    (p.answered userId answer).pairingId = p.pairingId := rfl

/-- A user approves or denies the session that was looked up. -/
def answerPairing (db : Db) (issuer subject : String) (row : Option PairingRow) (now : Instant)
    (answer : PairingState) (eventType : String) (admits : String → PairingRow → Bool) :
    Outcome PairingRow :=
  match ownerKey K issuer subject with
  | .error e => (.error e, db)
  | .ok userId =>
      transaction db do
        match row with
        | none => .error (.identity "not_found")
        | some row =>
            check (row.state = .pending ∧ now < row.expiresAt ∧ admits userId row)
              (.identity "not_found")
            let db ← upsertUser db userId issuer subject now
            let db := { db with
              pairings := db.pairings.modify row.pairingId (PairingRow.answered userId answer)
                (PairingRow.answered_pairingId userId answer) }
            return (row, db.audited (some userId) (some row.deviceId) eventType "success")

/-- `approve_pairing`. -/
def approvePairing (db : Db) (issuer subject userCode : String) (now : Instant) :
    Outcome PairingRow :=
  answerPairing K db issuer subject (db.pairingByCode K userCode) now .approved "pairing_approved"
    fun _ _ => true

/-- `confirm_pairing`. -/
def confirmPairing (db : Db) (issuer subject reference : String) (now : Instant) :
    Outcome PairingRow :=
  answerPairing K db issuer subject (db.pairingByReference K reference) now .approved
    "pairing_approved" fun _ _ => true

/-- `deny_pairing`. -/
def denyPairing (db : Db) (issuer subject reference : String) (now : Instant) :
    Outcome PairingRow :=
  answerPairing K db issuer subject (db.pairingByReference K reference) now .denied
    "pairing_denied" fun userId row => row.ownerUserId = none || row.ownerUserId = some userId

/-- The state that a poll or the portal shows. -/
def PairingRow.shown (now : Instant) (p : PairingRow) : PairingState :=
  if p.expiresAt ≤ now ∧ (p.state = .pending ∨ p.state = .approved) then .expired else p.state

/-- `pairing_status`. -/
def pairingStatus (db : Db) (pairingId pollingSecret : String) (now : Instant) :
    Except Failure PairingState :=
  match db.pairings.get? pairingId with
  | none => .error (.identity "not_found")
  | some row =>
      if row.pollingSecretHash = K.hash pollingSecret then .ok (row.shown now)
      else .error (.identity "not_found")

/-! ## Tokens -/

/-- A token that is issued: what is drawn, and the clock that its expiry is read off. -/
structure Issue where
  token : String
  later : Instant

/-- `_issue_token`. -/
def issueToken (db : Db) (deviceId : String) (issue : Issue) : Outcome String :=
  transaction db do
    let tokens ← inserted db.tokens
      ⟨K.hash issue.token, deviceId, issue.later + cfg.tokenTtlSeconds, none⟩
    return (issue.token, { db with tokens := tokens })

/-- A proof that was accepted is followed by a token. -/
def thenIssue (proved : Outcome (Option String)) (issue : Issue) : Outcome String :=
  match proved with
  | (.error e, db) => (.error e, db)
  | (.ok none, db) => (.error (.identity "proof_invalid"), db)
  | (.ok (some deviceId), db) => issueToken K cfg db deviceId issue

/-! ## Proofs -/

def PairingRow.failed (p : PairingRow) : PairingRow :=
  { p with
    attempts := p.attempts + 1
    state := if 5 ≤ p.attempts + 1 then .denied else p.state }

theorem PairingRow.failed_pairingId (p : PairingRow) : p.failed.pairingId = p.pairingId := rfl

def PairingRow.complete (p : PairingRow) : PairingRow := { p with state := .completed }

theorem PairingRow.complete_pairingId (p : PairingRow) : p.complete.pairingId = p.pairingId := rfl

/-- The message that completes a pairing. -/
def pairMessage (pairingId challenge : String) : String :=
  "cad.pair/1:" ++ pairingId ++ ":" ++ challenge

/-- The transaction of `complete_pairing`: the device that was paired, or nothing when the proof
was wrong, which is counted. -/
def provePairing (db : Db) (pairingId challenge signature : String) (now : Instant) :
    Outcome (Option String) :=
  transaction db do
    match db.pairings.get? pairingId with
    | none => .error (.identity "not_found")
    | some row =>
        check (row.state = .approved ∧ row.attempts < 5 ∧ now < row.expiresAt ∧
          row.challengeHash = K.hash challenge) (.identity "not_found")
        if K.verify row.publicKey signature (pairMessage pairingId challenge) then
          check (db.devices.get? row.deviceId = none) (.identity "device_already_paired")
          let owner ← row.ownerUserId.elim (.error .integrityError) .ok
          let devices ← inserted db.devices ⟨row.deviceId, owner, row.displayName⟩
          check (db.credentials.rows.any
            (fun c => c.keyFingerprint = K.fingerprint row.publicKey) = false) .integrityError
          let credentials ← inserted db.credentials
            ⟨row.deviceId, row.publicKey, K.fingerprint row.publicKey, none⟩
          let db := { db with
            devices := devices
            credentials := credentials
            pairings := db.pairings.modify pairingId PairingRow.complete
              PairingRow.complete_pairingId }
          return (some row.deviceId,
            db.audited row.ownerUserId (some row.deviceId) "pairing_completed" "success")
        else
          let db := { db with
            pairings := db.pairings.modify pairingId PairingRow.failed PairingRow.failed_pairingId }
          return (none,
            db.audited row.ownerUserId (some row.deviceId) "pairing_completed" "denied")

/-- `complete_pairing`. -/
def completePairing (db : Db) (pairingId challenge signature : String) (now : Instant)
    (issue : Issue) : Outcome String :=
  thenIssue K cfg (provePairing K db pairingId challenge signature now) issue

/-- The arguments of `create_challenge`, what it draws, and what it reads off the clock. -/
structure CreateChallenge where
  deviceId : String
  challengeId : String
  challenge : String
  now : Instant
  later : Instant

/-- `create_challenge`. -/
def createChallenge (db : Db) (r : CreateChallenge) : Outcome Unit :=
  transaction db do
    let challenges :=
      db.challenges.deleteWhere fun c => c.usedAt.isSome || decide (c.expiresAt ≤ r.now)
    let tokens := db.tokens.deleteWhere fun t => t.usedAt.isSome || decide (t.expiresAt ≤ r.now)
    match db.credentials.get? r.deviceId with
    | none => .error (.identity "not_found")
    | some credential =>
        check (credential.revokedAt = none) (.identity "credential_revoked")
        let challenges ← inserted (challenges.deleteWhere fun c => c.deviceId = r.deviceId)
          ⟨r.challengeId, r.deviceId, K.hash r.challenge, r.later + cfg.challengeTtlSeconds, none⟩
        return ((), { db with challenges := challenges, tokens := tokens })

def ChallengeRow.used (now : Instant) (c : ChallengeRow) : ChallengeRow :=
  { c with usedAt := some now }

theorem ChallengeRow.used_challengeId (now : Instant) (c : ChallengeRow) :
    (c.used now).challengeId = c.challengeId := rfl

/-- The message that answers a challenge. -/
def challengeMessage (deviceId challengeId challenge : String) : String :=
  "cad.challenge/1:" ++ deviceId ++ ":" ++ challengeId ++ ":" ++ challenge

/-- The transaction of `exchange_challenge`. -/
def proveChallenge (db : Db) (deviceId challengeId challenge signature : String) (now : Instant) :
    Outcome (Option String) :=
  transaction db do
    match db.challenges.get? challengeId, db.credentials.get? deviceId with
    | some row, some credential =>
        check (row.deviceId = deviceId ∧ row.usedAt = none ∧ credential.revokedAt = none ∧
          now < row.expiresAt ∧ row.challengeHash = K.hash challenge) (.identity "not_found")
        check (K.verify credential.publicKey signature
          (challengeMessage deviceId challengeId challenge)) (.identity "proof_invalid")
        return (some deviceId, { db with
          challenges := db.challenges.modify challengeId (ChallengeRow.used now)
            (ChallengeRow.used_challengeId now) })
    | _, _ => .error (.identity "not_found")

/-- `exchange_challenge`. -/
def exchangeChallenge (db : Db) (deviceId challengeId challenge signature : String) (now : Instant)
    (issue : Issue) : Outcome String :=
  thenIssue K cfg (proveChallenge K db deviceId challengeId challenge signature now) issue

/-! ## Admission -/

def TokenRow.used (now : Instant) (t : TokenRow) : TokenRow := { t with usedAt := some now }

theorem TokenRow.used_tokenHash (now : Instant) (t : TokenRow) :
    (t.used now).tokenHash = t.tokenHash := rfl

/-- The device has a credential that is not revoked: `is_active_device`. -/
def Db.isActiveDevice (db : Db) (deviceId : String) : Bool :=
  (db.credentials.get? deviceId).any fun c => c.revokedAt = none

/-- `consume_access_token`. -/
def consumeAccessToken (db : Db) (token : String) (now : Instant) : Outcome String :=
  transaction db do
    match db.tokens.get? (K.hash token) with
    | none => .error (.identity "auth_failed")
    | some row =>
        check (row.usedAt = none ∧ now < row.expiresAt ∧ db.isActiveDevice row.deviceId)
          (.identity "auth_failed")
        return (row.deviceId, { db with
          tokens := db.tokens.modify (K.hash token) (TokenRow.used now)
            (TokenRow.used_tokenHash now) })

/-- The message that a hello signs. -/
def helloMessage (deviceId messageId token : String) : String :=
  "cad.agent/2:" ++ deviceId ++ ":" ++ messageId ++ ":" ++ token

/-- `verify_hello`. -/
def verifyHello (db : Db) (deviceId messageId proof token : String) : Bool :=
  (db.credentials.get? deviceId).any fun c =>
    c.revokedAt = none && K.verify c.publicKey proof (helloMessage deviceId messageId token)

/-! ## Revocation -/

def CredentialRow.revoke (now : Instant) (c : CredentialRow) : CredentialRow :=
  { c with revokedAt := some (c.revokedAt.getD now) }

theorem CredentialRow.revoke_deviceId (now : Instant) (c : CredentialRow) :
    (c.revoke now).deviceId = c.deviceId := rfl

/-- `UPDATE … SET used_at = COALESCE(used_at, ?) WHERE device_id = ?`. -/
def TokenRow.spend (deviceId : String) (now : Instant) (t : TokenRow) : TokenRow :=
  if t.deviceId = deviceId then { t with usedAt := some (t.usedAt.getD now) } else t

theorem TokenRow.spend_tokenHash (deviceId : String) (now : Instant) (t : TokenRow) :
    (t.spend deviceId now).tokenHash = t.tokenHash := by
  unfold TokenRow.spend
  split <;> rfl

def ChallengeRow.spend (deviceId : String) (now : Instant) (c : ChallengeRow) : ChallengeRow :=
  if c.deviceId = deviceId then { c with usedAt := some (c.usedAt.getD now) } else c

theorem ChallengeRow.spend_challengeId (deviceId : String) (now : Instant) (c : ChallengeRow) :
    (c.spend deviceId now).challengeId = c.challengeId := by
  unfold ChallengeRow.spend
  split <;> rfl

/-- The transaction of `revoke`. -/
def revoke (db : Db) (ownerUserId deviceId : String) (now : Instant) : Outcome Unit :=
  transaction db do
    check ((db.devices.get? deviceId).any (fun d => d.ownerSubject = ownerUserId))
      (.identity "not_found")
    let db := { db with
      credentials := db.credentials.modify deviceId (CredentialRow.revoke now)
        (CredentialRow.revoke_deviceId now)
      tokens := db.tokens.mapRows (TokenRow.spend deviceId now)
        (TokenRow.spend_tokenHash deviceId now)
      challenges := db.challenges.mapRows (ChallengeRow.spend deviceId now)
        (ChallengeRow.spend_challengeId deviceId now) }
    return ((), db.audited (some ownerUserId) (some deviceId) "device_revoked" "success")

/-! ## Events -/

inductive Event where
  | startPairing (r : StartPairing)
  | approvePairing (issuer subject userCode : String) (now : Instant)
  | confirmPairing (issuer subject reference : String) (now : Instant)
  | denyPairing (issuer subject reference : String) (now : Instant)
  | completePairing (pairingId challenge signature : String) (now : Instant) (issue : Issue)
  | createChallenge (r : CreateChallenge)
  | exchangeChallenge (deviceId challengeId challenge signature : String) (now : Instant)
      (issue : Issue)
  | consumeAccessToken (token : String) (now : Instant)
  | revoke (ownerUserId deviceId : String) (now : Instant)

/-- The database after a method was called. -/
def step (db : Db) : Event → Db
  | .startPairing r => (startPairing K cfg db r).2
  | .approvePairing issuer subject userCode now => (approvePairing K db issuer subject userCode now).2
  | .confirmPairing issuer subject reference now =>
      (confirmPairing K db issuer subject reference now).2
  | .denyPairing issuer subject reference now => (denyPairing K db issuer subject reference now).2
  | .completePairing pairingId challenge signature now issue =>
      (completePairing K cfg db pairingId challenge signature now issue).2
  | .createChallenge r => (createChallenge K cfg db r).2
  | .exchangeChallenge deviceId challengeId challenge signature now issue =>
      (exchangeChallenge K cfg db deviceId challengeId challenge signature now issue).2
  | .consumeAccessToken token now => (consumeAccessToken K db token now).2
  | .revoke ownerUserId deviceId now => (revoke db ownerUserId deviceId now).2

/-- What a method that succeeds has done, and a wrong proof. -/
inductive Effect where
  | begun (pairingId : String)
  | answered (pairingId : String)
  | refuted (pairingId : String)
  | paired (deviceId : String)
  | challenged (deviceId : String)
  | exchanged (deviceId : String)
  | admitted (deviceId : String)
  | revoked (deviceId : String)
  deriving DecidableEq, Repr

/-- The effect of a method on the result that it has. -/
def effect (db : Db) : Event → Option Effect
  | .startPairing r => (startPairing K cfg db r).1.toOption.map fun _ => .begun r.pairingId
  | .approvePairing issuer subject userCode now =>
      (approvePairing K db issuer subject userCode now).1.toOption.map fun p => .answered p.pairingId
  | .confirmPairing issuer subject reference now =>
      (confirmPairing K db issuer subject reference now).1.toOption.map
        fun p => .answered p.pairingId
  | .denyPairing issuer subject reference now =>
      (denyPairing K db issuer subject reference now).1.toOption.map fun p => .answered p.pairingId
  | .completePairing pairingId challenge signature now _ =>
      (provePairing K db pairingId challenge signature now).1.toOption.map fun
        | some deviceId => .paired deviceId
        | none => .refuted pairingId
  | .createChallenge r => (createChallenge K cfg db r).1.toOption.map fun _ => .challenged r.deviceId
  | .exchangeChallenge deviceId challengeId challenge signature now _ =>
      (proveChallenge K db deviceId challengeId challenge signature now).1.toOption.map
        fun _ => .exchanged deviceId
  | .consumeAccessToken token now => (consumeAccessToken K db token now).1.toOption.map .admitted
  | .revoke ownerUserId deviceId now =>
      (revoke db ownerUserId deviceId now).1.toOption.map fun _ => .revoked deviceId

end

end AutocadMcp.Identity
