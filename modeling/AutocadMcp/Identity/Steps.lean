import AutocadMcp.Identity.Service

/-!
# What a method of the identity service can do

One case for each way in which a method changes the database, with what it checked. The results
about runs look at these cases alone.
-/

namespace AutocadMcp.Identity

section

variable (K : Crypto) (cfg : Config)

/-- The token that follows an accepted proof was stored, or its transaction failed. -/
def IssuedFor (deviceId : String) (issue : Issue) (tokens tokens' : Table TokenRow.tokenHash) :
    Prop :=
  tokens' = tokens ∨
    tokens.insert ⟨K.hash issue.token, deviceId, issue.later + cfg.tokenTtlSeconds, none⟩ =
      some tokens'

/-- The session that an event answers, for which user, and how. -/
inductive Answers (db : Db) : Event → PairingRow → String → PairingState → Prop
  | approve {issuer subject userCode : String} {now : Instant} {p : PairingRow} {u : String}
      (hrow : db.pairingByCode K userCode = some p) (huser : ownerKey K issuer subject = .ok u)
      (hpending : p.state = .pending) (hlive : now < p.expiresAt) :
      Answers db (.approvePairing issuer subject userCode now) p u .approved
  | confirm {issuer subject reference : String} {now : Instant} {p : PairingRow} {u : String}
      (hrow : db.pairingByReference K reference = some p)
      (huser : ownerKey K issuer subject = .ok u) (hpending : p.state = .pending)
      (hlive : now < p.expiresAt) :
      Answers db (.confirmPairing issuer subject reference now) p u .approved
  | deny {issuer subject reference : String} {now : Instant} {p : PairingRow} {u : String}
      (hrow : db.pairingByReference K reference = some p)
      (huser : ownerKey K issuer subject = .ok u) (hpending : p.state = .pending)
      (hlive : now < p.expiresAt) :
      Answers db (.denyPairing issuer subject reference now) p u .denied

/-- The session of a proof, and what was checked before the signature. -/
structure Provable (db : Db) (pairingId challenge : String) (now : Instant) (p : PairingRow) :
    Prop where
  row : db.pairings.get? pairingId = some p
  approved : p.state = .approved
  attempts : p.attempts < 5
  live : now < p.expiresAt
  challenge : p.challengeHash = K.hash challenge

/-- What a call of a method does, and what becomes of the database. -/
inductive Stepped (db : Db) : Event → Option Effect → Db → Prop
  | idle (e : Event) : Stepped db e none db
  | started (r : StartPairing) {pairings : Table PairingRow.pairingId}
      (hkey : K.validKey r.publicKey = true)
      (hroom : ((db.pairings.deleteWhere (PairingRow.isSwept r.now)).rows.filter
        (PairingRow.isLive r.now)).length < 1000)
      (hfree : ∀ p ∈ (db.pairings.deleteWhere (PairingRow.isSwept r.now)).rows,
        p.isLive r.now = true → p.deviceId ≠ r.deviceId)
      (hcode : ∀ p ∈ (db.pairings.deleteWhere (PairingRow.isSwept r.now)).rows,
        p.userCodeHash ≠ K.hash r.userCode)
      (hinsert : (db.pairings.deleteWhere (PairingRow.isSwept r.now)).insert (r.row K cfg) =
        some pairings) :
      Stepped db (.startPairing r) (some (.begun r.pairingId)) { db with pairings := pairings }
  | answered {e : Event} {p : PairingRow} {u : String} {answer : PairingState}
      {users : Table UserRow.userId} {audit : List AuditRow} (hanswers : Answers K db e p u answer) :
      Stepped db e (some (.answered p.pairingId)) { db with
        users := users
        pairings := db.pairings.modify p.pairingId (PairingRow.answered u answer)
          (PairingRow.answered_pairingId u answer)
        audit := audit }
  | failed {pairingId challenge signature : String} {now : Instant} {issue : Issue}
      {p : PairingRow} {audit : List AuditRow} (hprovable : Provable K db pairingId challenge now p)
      (hproof : K.verify p.publicKey signature (pairMessage pairingId challenge) = false) :
      Stepped db (.completePairing pairingId challenge signature now issue)
        (some (.refuted pairingId)) { db with
        pairings := db.pairings.modify pairingId PairingRow.failed PairingRow.failed_pairingId
        audit := audit }
  | completed {pairingId challenge signature owner : String} {now : Instant} {issue : Issue}
      {p : PairingRow} {devices : Table DeviceRow.deviceId}
      {credentials : Table CredentialRow.deviceId} {tokens : Table TokenRow.tokenHash}
      {audit : List AuditRow} (hprovable : Provable K db pairingId challenge now p)
      (hproof : K.verify p.publicKey signature (pairMessage pairingId challenge) = true)
      (howner : p.ownerUserId = some owner)
      (hdevices : db.devices.insert ⟨p.deviceId, owner, p.displayName⟩ = some devices)
      (hcredentials : db.credentials.insert
        ⟨p.deviceId, p.publicKey, K.fingerprint p.publicKey, none⟩ = some credentials)
      (htokens : IssuedFor K cfg p.deviceId issue db.tokens tokens) :
      Stepped db (.completePairing pairingId challenge signature now issue)
        (some (.paired p.deviceId)) { db with
        devices := devices
        credentials := credentials
        tokens := tokens
        pairings := db.pairings.modify pairingId PairingRow.complete
          PairingRow.complete_pairingId
        audit := audit }
  | challenged (r : CreateChallenge) {challenges : Table ChallengeRow.challengeId}
      (hactive : db.isActiveDevice r.deviceId = true)
      (hinsert : ((db.challenges.deleteWhere fun c =>
          c.usedAt.isSome || decide (c.expiresAt ≤ r.now)).deleteWhere
            fun c => c.deviceId = r.deviceId).insert
        ⟨r.challengeId, r.deviceId, K.hash r.challenge, r.later + cfg.challengeTtlSeconds, none⟩ =
          some challenges) :
      Stepped db (.createChallenge r) (some (.challenged r.deviceId)) { db with
        challenges := challenges
        tokens := db.tokens.deleteWhere fun t => t.usedAt.isSome || decide (t.expiresAt ≤ r.now) }
  | exchanged {deviceId challengeId challenge signature : String} {now : Instant} {issue : Issue}
      {row : ChallengeRow} {credential : CredentialRow} {tokens : Table TokenRow.tokenHash}
      (hrow : db.challenges.get? challengeId = some row) (hdevice : row.deviceId = deviceId)
      (hunused : row.usedAt = none) (hchallenge : row.challengeHash = K.hash challenge)
      (hlive : now < row.expiresAt) (hcredential : db.credentials.get? deviceId = some credential)
      (hactive : credential.revokedAt = none)
      (hproof : K.verify credential.publicKey signature
        (challengeMessage deviceId challengeId challenge) = true)
      (htokens : IssuedFor K cfg deviceId issue db.tokens tokens) :
      Stepped db (.exchangeChallenge deviceId challengeId challenge signature now issue)
        (some (.exchanged deviceId)) { db with
        challenges := db.challenges.modify challengeId (ChallengeRow.used now)
          (ChallengeRow.used_challengeId now)
        tokens := tokens }
  | consumed {token : String} {now : Instant} {row : TokenRow}
      (hrow : db.tokens.get? (K.hash token) = some row) (hunused : row.usedAt = none)
      (hlive : now < row.expiresAt) (hactive : db.isActiveDevice row.deviceId = true) :
      Stepped db (.consumeAccessToken token now) (some (.admitted row.deviceId)) { db with
        tokens := db.tokens.modify (K.hash token) (TokenRow.used now)
          (TokenRow.used_tokenHash now) }
  | revoked {ownerUserId deviceId : String} {now : Instant} {device : DeviceRow}
      {audit : List AuditRow} (hdevice : db.devices.get? deviceId = some device)
      (howner : device.ownerSubject = ownerUserId) :
      Stepped db (.revoke ownerUserId deviceId now) (some (.revoked deviceId)) { db with
        credentials := db.credentials.modify deviceId (CredentialRow.revoke now)
          (CredentialRow.revoke_deviceId now)
        tokens := db.tokens.mapRows (TokenRow.spend deviceId now)
          (TokenRow.spend_tokenHash deviceId now)
        challenges := db.challenges.mapRows (ChallengeRow.spend deviceId now)
          (ChallengeRow.spend_challengeId deviceId now)
        audit := audit }

end

section

variable {K : Crypto} {cfg : Config} {db : Db} {α : Type}

/-! ## Transactions -/

theorem transaction_ok {body : Except Failure (α × Db)} {a : α} {db' : Db}
    (h : transaction db body = (.ok a, db')) : body = .ok (a, db') := by
  unfold transaction at h
  split at h
  · cases h
    rfl
  · cases h

theorem transaction_error {body : Except Failure (α × Db)} {e : Failure} {db' : Db}
    (h : transaction db body = (.error e, db')) : db' = db := by
  unfold transaction at h
  split at h
  · cases h
  · cases h
    rfl

theorem inserted_ok {κ β : Type} [DecidableEq κ] {key : β → κ} {t t' : Table key} {x : β}
    (h : inserted t x = .ok t') : t.insert x = some t' := by
  unfold inserted at h
  split at h
  · next t1 hinsert =>
      cases h
      exact hinsert
  · cases h

/-! ## The methods -/

theorem startPairing_ok {r : StartPairing} {a : StartedPairing} {db' : Db}
    (h : startPairing K cfg db r = (.ok a, db')) :
    ∃ pairings, db' = { db with pairings := pairings } ∧
      Stepped K cfg db (.startPairing r) (some (.begun r.pairingId))
        { db with pairings := pairings } := by
  unfold startPairing at h
  split at h
  · cases h
  · next hkey =>
      have hbody := transaction_ok h
      simp only [bind_eq_ok, check_eq_ok] at hbody
      obtain ⟨_, hroom, _, hfree, _, -, _, hcode, pairings, hinsert, hlast⟩ := hbody
      cases hlast
      refine ⟨pairings, rfl, .started r (Bool.not_eq_false _ ▸ hkey) hroom ?_ ?_
        (inserted_ok hinsert)⟩
      · intro p hp hlive hdevice
        rw [List.any_eq_false] at hfree
        exact hfree p (List.mem_filter.mpr ⟨hp, hlive⟩) (by simpa using hdevice)
      · intro p hp hsame
        rw [List.any_eq_false] at hcode
        exact hcode p hp (decide_eq_true hsame)

theorem upsertUser_ok {userId issuer subject : String} {now : Instant} {db' : Db}
    (h : upsertUser db userId issuer subject now = .ok db') :
    ∃ users, db' = { db with users := users } := by
  unfold upsertUser at h
  split at h
  · cases h
    exact ⟨_, rfl⟩
  · rw [bind_eq_ok] at h
    obtain ⟨users, -, hlast⟩ := h
    cases hlast
    exact ⟨users, rfl⟩

/-- The answer of a user either leaves the database, or is one to the session that was looked up. -/
theorem answerPairing_cases (K : Crypto) (db : Db) (issuer subject : String)
    (row : Option PairingRow) (now : Instant) (answer : PairingState) (eventType : String)
    (admits : String → PairingRow → Bool) :
    (∃ e, answerPairing K db issuer subject row now answer eventType admits = (.error e, db)) ∨
    ∃ p u users audit, row = some p ∧ ownerKey K issuer subject = .ok u ∧ p.state = .pending ∧
      now < p.expiresAt ∧
      answerPairing K db issuer subject row now answer eventType admits = (.ok p, { db with
        users := users
        pairings := db.pairings.modify p.pairingId (PairingRow.answered u answer)
          (PairingRow.answered_pairingId u answer)
        audit := audit }) := by
  rcases hanswer : answerPairing K db issuer subject row now answer eventType admits with ⟨r, db'⟩
  unfold answerPairing at hanswer
  split at hanswer
  · next e _ =>
      cases hanswer
      exact Or.inl ⟨e, rfl⟩
  · next u huser =>
      cases r with
      | error e => exact Or.inl ⟨e, by rw [transaction_error hanswer]⟩
      | ok a =>
          have hbody := transaction_ok hanswer
          split at hbody
          · cases hbody
          · next p =>
              simp only [bind_eq_ok, check_eq_ok] at hbody
              obtain ⟨_, ⟨hpending, hlive, -⟩, db1, husers, hlast⟩ := hbody
              obtain ⟨users, rfl⟩ := upsertUser_ok husers
              cases hlast
              exact Or.inr ⟨_, u, users, _, rfl, huser, hpending, hlive, rfl⟩

theorem issueToken_cases (K : Crypto) (cfg : Config) (db : Db) (deviceId : String) (issue : Issue) :
    ∃ tokens, IssuedFor K cfg deviceId issue db.tokens tokens ∧
      (issueToken K cfg db deviceId issue).2 = { db with tokens := tokens } := by
  rcases hissue : issueToken K cfg db deviceId issue with ⟨r, db'⟩
  cases r with
  | error e => exact ⟨db.tokens, Or.inl rfl, transaction_error hissue⟩
  | ok token =>
      have hbody := transaction_ok hissue
      rw [bind_eq_ok] at hbody
      obtain ⟨tokens, hinsert, hlast⟩ := hbody
      cases hlast
      exact ⟨tokens, Or.inr (inserted_ok hinsert), rfl⟩

/-- The proof of a pairing is refused, wrong, or accepted. -/
theorem provePairing_cases (K : Crypto) (db : Db) (pairingId challenge signature : String)
    (now : Instant) :
    (∃ e, provePairing K db pairingId challenge signature now = (.error e, db)) ∨
    ∃ p audit, Provable K db pairingId challenge now p ∧
      ((K.verify p.publicKey signature (pairMessage pairingId challenge) = false ∧
        provePairing K db pairingId challenge signature now = (.ok none, { db with
          pairings := db.pairings.modify pairingId PairingRow.failed PairingRow.failed_pairingId
          audit := audit })) ∨
      ∃ owner devices credentials,
        K.verify p.publicKey signature (pairMessage pairingId challenge) = true ∧
        p.ownerUserId = some owner ∧
        db.devices.insert ⟨p.deviceId, owner, p.displayName⟩ = some devices ∧
        db.credentials.insert ⟨p.deviceId, p.publicKey, K.fingerprint p.publicKey, none⟩ =
          some credentials ∧
        provePairing K db pairingId challenge signature now = (.ok (some p.deviceId), { db with
          devices := devices
          credentials := credentials
          pairings := db.pairings.modify pairingId PairingRow.complete
            PairingRow.complete_pairingId
          audit := audit })) := by
  rcases hprove : provePairing K db pairingId challenge signature now with ⟨r, db'⟩
  cases r with
  | error e => exact Or.inl ⟨e, by rw [transaction_error hprove]⟩
  | ok a =>
      have hbody := transaction_ok hprove
      split at hbody
      · cases hbody
      · next p hrow =>
          rw [bind_eq_ok] at hbody
          obtain ⟨_, hcheck, hbody⟩ := hbody
          rw [check_eq_ok] at hcheck
          obtain ⟨happroved, hattempts, hlive, hchallenge⟩ := hcheck
          have hprovable : Provable K db pairingId challenge now p :=
            ⟨hrow, happroved, hattempts, hlive, hchallenge⟩
          split at hbody
          · next hproof =>
              simp only [bind_eq_ok, check_eq_ok] at hbody
              obtain ⟨_, -, owner, howner, devices, hdevices, _, -, credentials, hcredentials,
                hlast⟩ := hbody
              have hsome : p.ownerUserId = some owner := by
                cases hp : p.ownerUserId with
                | none =>
                    rw [hp] at howner
                    cases howner
                | some o =>
                    rw [hp] at howner
                    cases howner
                    rfl
              cases hlast
              exact Or.inr ⟨p, _, hprovable, Or.inr ⟨owner, devices, credentials, hproof, hsome,
                inserted_ok hdevices, inserted_ok hcredentials, rfl⟩⟩
          · next hproof =>
              cases hbody
              exact Or.inr ⟨p, _, hprovable, Or.inl ⟨Bool.eq_false_iff.mpr hproof, rfl⟩⟩

/-- The answer to a challenge is refused or accepted. -/
theorem proveChallenge_cases (K : Crypto) (db : Db)
    (deviceId challengeId challenge signature : String) (now : Instant) :
    (∃ e, proveChallenge K db deviceId challengeId challenge signature now = (.error e, db)) ∨
    ∃ row credential, db.challenges.get? challengeId = some row ∧ row.deviceId = deviceId ∧
      row.usedAt = none ∧ row.challengeHash = K.hash challenge ∧ now < row.expiresAt ∧
      db.credentials.get? deviceId = some credential ∧ credential.revokedAt = none ∧
      K.verify credential.publicKey signature (challengeMessage deviceId challengeId challenge) =
        true ∧
      proveChallenge K db deviceId challengeId challenge signature now =
        (.ok (some deviceId), { db with
          challenges := db.challenges.modify challengeId (ChallengeRow.used now)
            (ChallengeRow.used_challengeId now) }) := by
  rcases hprove : proveChallenge K db deviceId challengeId challenge signature now with ⟨r, db'⟩
  cases r with
  | error e => exact Or.inl ⟨e, by rw [transaction_error hprove]⟩
  | ok a =>
      have hbody := transaction_ok hprove
      split at hbody
      · next row credential hrow hcredential =>
          simp only [bind_eq_ok, check_eq_ok] at hbody
          obtain ⟨_, ⟨hdevice, hunused, hactive, hlive, hchallenge⟩, _, hproof, hlast⟩ := hbody
          cases hlast
          exact Or.inr ⟨row, credential, hrow, hdevice, hunused, hchallenge, hlive, hcredential,
            hactive, hproof, rfl⟩
      · cases hbody

/-- **What a method can do.** -/
theorem step_cases (K : Crypto) (cfg : Config) (db : Db) (e : Event) :
    Stepped K cfg db e (effect K cfg db e) (step K cfg db e) := by
  cases e with
  | startPairing r =>
      simp only [effect, step]
      rcases hstart : startPairing K cfg db r with ⟨⟨e⟩ | a, db'⟩
      · have hsame : db' = db := by
          unfold startPairing at hstart
          split at hstart
          · cases hstart
            rfl
          · exact transaction_error hstart
        subst hsame
        exact .idle _
      · obtain ⟨pairings, rfl, hstepped⟩ := startPairing_ok hstart
        exact hstepped
  | approvePairing issuer subject userCode now =>
      simp only [effect, step, approvePairing]
      rcases answerPairing_cases K db issuer subject _ now _ _ _ with
        ⟨e, hrefused⟩ | ⟨p, u, users, audit, hrow, huser, hpending, hlive, hanswered⟩
      · rw [hrefused]
        exact .idle _
      · rw [hanswered]
        exact .answered (.approve hrow huser hpending hlive)
  | confirmPairing issuer subject reference now =>
      simp only [effect, step, confirmPairing]
      rcases answerPairing_cases K db issuer subject _ now _ _ _ with
        ⟨e, hrefused⟩ | ⟨p, u, users, audit, hrow, huser, hpending, hlive, hanswered⟩
      · rw [hrefused]
        exact .idle _
      · rw [hanswered]
        exact .answered (.confirm hrow huser hpending hlive)
  | denyPairing issuer subject reference now =>
      simp only [effect, step, denyPairing]
      rcases answerPairing_cases K db issuer subject _ now _ _ _ with
        ⟨e, hrefused⟩ | ⟨p, u, users, audit, hrow, huser, hpending, hlive, hanswered⟩
      · rw [hrefused]
        exact .idle _
      · rw [hanswered]
        exact .answered (.deny hrow huser hpending hlive)
  | completePairing pairingId challenge signature now issue =>
      simp only [effect, step, completePairing]
      rcases provePairing_cases K db pairingId challenge signature now with
        ⟨e, hrefused⟩ | ⟨p, audit, hprovable, ⟨hproof, hfailed⟩ |
          ⟨owner, devices, credentials, hproof, howner, hdevices, hcredentials, haccepted⟩⟩
      · rw [hrefused]
        exact .idle _
      · rw [hfailed]
        exact .failed hprovable hproof
      · rw [haccepted]
        show Stepped K cfg db _ (some (.paired p.deviceId)) (issueToken K cfg _ p.deviceId issue).2
        obtain ⟨tokens, htokens, hafter⟩ := issueToken_cases K cfg _ p.deviceId issue
        rw [hafter]
        exact .completed hprovable hproof howner hdevices hcredentials htokens
  | createChallenge r =>
      simp only [effect, step]
      rcases hcreate : createChallenge K cfg db r with ⟨⟨e⟩ | a, db'⟩
      · rw [transaction_error hcreate]
        exact .idle _
      · have hbody := transaction_ok hcreate
        dsimp only at hbody
        split at hbody
        · cases hbody
        · next credential hcredential =>
            simp only [bind_eq_ok, check_eq_ok] at hbody
            obtain ⟨_, hactive, challenges, hinsert, hlast⟩ := hbody
            cases hlast
            refine .challenged r ?_ (inserted_ok hinsert)
            unfold Db.isActiveDevice
            rw [hcredential]
            simpa using hactive
  | exchangeChallenge deviceId challengeId challenge signature now issue =>
      simp only [effect, step, exchangeChallenge]
      rcases proveChallenge_cases K db deviceId challengeId challenge signature now with
        ⟨e, hrefused⟩ | ⟨row, credential, hrow, hdevice, hunused, hchallenge, hlive, hcredential,
          hactive, hproof, haccepted⟩
      · rw [hrefused]
        exact .idle _
      · rw [haccepted]
        show Stepped K cfg db _ (some (.exchanged deviceId)) (issueToken K cfg _ deviceId issue).2
        obtain ⟨tokens, htokens, hafter⟩ := issueToken_cases K cfg _ deviceId issue
        rw [hafter]
        exact .exchanged hrow hdevice hunused hchallenge hlive hcredential hactive hproof htokens
  | consumeAccessToken token now =>
      simp only [effect, step]
      rcases hconsume : consumeAccessToken K db token now with ⟨⟨e⟩ | a, db'⟩
      · rw [transaction_error hconsume]
        exact .idle _
      · have hbody := transaction_ok hconsume
        split at hbody
        · cases hbody
        · next row hrow =>
            simp only [bind_eq_ok, check_eq_ok] at hbody
            obtain ⟨_, ⟨hunused, hlive, hactive⟩, hlast⟩ := hbody
            cases hlast
            exact .consumed hrow hunused hlive hactive
  | revoke ownerUserId deviceId now =>
      simp only [effect, step]
      rcases hrevoke : revoke db ownerUserId deviceId now with ⟨⟨e⟩ | a, db'⟩
      · rw [transaction_error hrevoke]
        exact .idle _
      · have hbody := transaction_ok hrevoke
        simp only [bind_eq_ok, check_eq_ok] at hbody
        obtain ⟨_, howner, hlast⟩ := hbody
        obtain ⟨device, hdevice, hsame⟩ := (Option.any_eq_true _ _).mp howner
        cases hlast
        exact .revoked hdevice (by simpa using hsame)

end

end AutocadMcp.Identity
