import AutocadMcp.Identity.Pairing
import AutocadMcp.Lib.Budget
import AutocadMcp.Lib.Tally

/-!
# What an admission costs

A token opens one socket, and there is one for each proof that was accepted: the one that completed
the pairing, or the answer to a challenge, each of which is answered once. A wrong proof of a
pairing costs one of five attempts. After a revocation no proof of the device is accepted any more
and no token of it opens a socket.
-/

namespace AutocadMcp.Identity

section

variable {K : Crypto} {cfg : Config} {db db' : Db} {e : Event} {x : Option Effect}
  {device pairing : String}

/-! ## Tokens and challenges -/

/-- A token of the device that nobody used. -/
def isUnspent (device : String) (t : TokenRow) : Bool := t.deviceId = device && t.usedAt.isNone

/-- A challenge of the device that nobody answered. -/
def isUnanswered (device : String) (c : ChallengeRow) : Bool :=
  c.deviceId = device && c.usedAt.isNone

theorem used_not_unspent {now : Instant} (t : TokenRow) : isUnspent device (t.used now) = false := by
  simp [isUnspent, TokenRow.used]

theorem used_not_unanswered {now : Instant} (c : ChallengeRow) :
    isUnanswered device (c.used now) = false := by
  simp [isUnanswered, ChallengeRow.used]

theorem spend_unspent {deviceId : String} {now : Instant} (t : TokenRow)
    (h : isUnspent device (t.spend deviceId now) = true) : isUnspent device t = true := by
  unfold TokenRow.spend at h
  split at h
  · simp [isUnspent] at h
  · exact h

theorem spend_unanswered {deviceId : String} {now : Instant} (c : ChallengeRow)
    (h : isUnanswered device (c.spend deviceId now) = true) : isUnanswered device c = true := by
  unfold ChallengeRow.spend at h
  split at h
  · simp [isUnanswered] at h
  · exact h

theorem issuedFor_tally {deviceId : String} {issue : Issue}
    {tokens tokens' : Table TokenRow.tokenHash}
    (h : IssuedFor K cfg deviceId issue tokens tokens') :
    tokens'.tally (isUnspent device) ≤
      tokens.tally (isUnspent device) + if deviceId = device then 1 else 0 := by
  rcases h with rfl | hinsert
  · exact Nat.le_add_right _ _
  · rw [Table.tally_insert hinsert]
    apply Nat.add_le_add_left
    by_cases hsame : deviceId = device <;> simp [isUnspent, hsame]

/-- An admission takes a token of the device, and only a proof of the device gives one. -/
theorem Stepped.tokens (h : Stepped K cfg db e x db') (device : String) :
    db'.tokens.tally (isUnspent device) + (if x = some (.admitted device) then 1 else 0) ≤
      db.tokens.tally (isUnspent device) +
        (if x = some (.paired device) ∨ x = some (.exchanged device) then 1 else 0) := by
  cases h with
  | completed hprovable hproof howner hdevices hcredentials htokens =>
      simpa using issuedFor_tally htokens
  | exchanged hrow hdevice hunused hchallenge hlive hcredential hactive hproof htokens =>
      simpa using issuedFor_tally htokens
  | challenged r hactive hinsert =>
      simpa using Table.tally_deleteWhere_le db.tokens _ (isUnspent device)
  | @consumed token now row hrow hunused hlive hactive =>
      by_cases hdevice : row.deviceId = device
      · have hspent : isUnspent device row = true := by simp [isUnspent, hdevice, hunused]
        have hless := Table.tally_modify_lt (TokenRow.used_tokenHash now) hrow hspent
          used_not_unspent
        simpa [hdevice] using hless
      · have hless := Table.tally_modify_le db.tokens (K.hash token) (p := isUnspent device)
          (TokenRow.used_tokenHash now) fun t ht => by
            rw [used_not_unspent] at ht
            cases ht
        simpa [hdevice] using hless
  | @revoked ownerUserId deviceId now =>
      simpa using Table.tally_mapRows_le db.tokens (p := isUnspent device)
        (TokenRow.spend_tokenHash deviceId now) spend_unspent
  | _ => simp

/-- An answered challenge is gone, and only a new challenge of the device adds one. -/
theorem Stepped.challenges (h : Stepped K cfg db e x db') (device : String) :
    db'.challenges.tally (isUnanswered device) +
        (if x = some (.exchanged device) then 1 else 0) ≤
      db.challenges.tally (isUnanswered device) +
        (if x = some (.challenged device) then 1 else 0) := by
  cases h with
  | challenged r hactive hinsert =>
      rw [show ∀ t, ({ db with challenges := _, tokens := t } : Db).challenges = _ from
        fun _ => rfl, Table.tally_insert hinsert]
      have hkept := Nat.le_trans
        (Table.tally_deleteWhere_le (db.challenges.deleteWhere fun c =>
          c.usedAt.isSome || decide (c.expiresAt ≤ r.now)) (fun c => c.deviceId = r.deviceId)
          (isUnanswered device))
        (Table.tally_deleteWhere_le db.challenges _ (isUnanswered device))
      by_cases hsame : r.deviceId = device
      · simpa [isUnanswered, hsame] using hkept
      · simpa [isUnanswered, hsame] using hkept
  | @exchanged deviceId challengeId challenge signature now issue row credential tokens hrow hdevice
      hunused =>
      by_cases hsame : deviceId = device
      · have hopen : isUnanswered device row = true := by
          simp [isUnanswered, hdevice, hsame, hunused]
        have hless := Table.tally_modify_lt (ChallengeRow.used_challengeId now) hrow hopen
          used_not_unanswered
        simpa [hsame] using hless
      · have hless := Table.tally_modify_le db.challenges challengeId (p := isUnanswered device)
          (ChallengeRow.used_challengeId now) fun c hc => by
            rw [used_not_unanswered] at hc
            cases hc
        simpa [hsame] using hless
  | @revoked ownerUserId deviceId now =>
      simpa using Table.tally_mapRows_le db.challenges (p := isUnanswered device)
        (ChallengeRow.spend_challengeId deviceId now) spend_unanswered
  | _ => simp

/-! ## Attempts -/

/-- How many wrong proofs a pairing session can still take. -/
def attemptsLeft (pairing : String) (db : Db) : Nat :=
  match db.pairings.get? pairing with
  | some p => if p.state = .pending ∨ p.state = .approved then 5 - p.attempts else 0
  | none => 0

/-- A wrong proof takes one of the attempts, and a new session comes with five. -/
theorem Stepped.attempts (h : Stepped K cfg db e x db') (pairing : String) :
    attemptsLeft pairing db' + (if x = some (.refuted pairing) then 1 else 0) ≤
      attemptsLeft pairing db + (if x = some (.begun pairing) then 5 else 0) := by
  cases h with
  | started r hkey hroom hfree hcode hinsert =>
      unfold attemptsLeft
      dsimp only
      rw [Table.get?_insert hinsert]
      by_cases hsame : r.pairingId = pairing
      · have hid : (r.row K cfg).pairingId = pairing := hsame
        rw [if_pos hid]
        simp [hsame, StartPairing.row]
      · have hid : (r.row K cfg).pairingId ≠ pairing := hsame
        rw [if_neg hid]
        rcases hswept : (db.pairings.deleteWhere (PairingRow.isSwept r.now)).get? pairing with _ | p
        · simp
        · rw [(Table.get?_deleteWhere_some hswept).1]
          simp [hsame]
  | @answered e p u answer users audit hanswers =>
      obtain ⟨hget, hpending, -⟩ := hanswers.row
      unfold attemptsLeft
      dsimp only
      rw [Table.get?_modify]
      by_cases hsame : pairing = p.pairingId
      · rw [if_pos hsame, hsame, hget]
        simp only [Option.map_some, PairingRow.answered, hpending]
        split <;> simp
      · rw [if_neg hsame]
        simp
  | @failed pairingId challenge signature now issue p audit hprovable hproof =>
      unfold attemptsLeft
      dsimp only
      rw [Table.get?_modify]
      by_cases hsame : pairing = pairingId
      · rw [if_pos hsame, hsame, hprovable.row]
        have hopen := hprovable.attempts
        by_cases hfull : 5 ≤ p.attempts + 1
        · simp [PairingRow.failed, hprovable.approved, hfull]
          omega
        · simp [PairingRow.failed, hprovable.approved, hfull]
          omega
      · rw [if_neg hsame]
        simp [Ne.symm hsame]
  | @completed pairingId challenge signature owner now issue p devices credentials tokens audit
      hprovable =>
      unfold attemptsLeft
      dsimp only
      rw [Table.get?_modify]
      by_cases hsame : pairing = pairingId
      · rw [if_pos hsame, hsame, hprovable.row]
        simp [PairingRow.complete]
      · rw [if_neg hsame]
        simp
  | _ => simp [attemptsLeft]

/-! ## Revocation -/

/-- The device has a credential, and it is revoked. -/
def Revoked (device : String) (db : Db) : Prop :=
  ∃ c, db.credentials.get? device = some c ∧ c.revokedAt.isSome = true

theorem Revoked.inactive (h : Revoked device db) : db.isActiveDevice device = false := by
  obtain ⟨c, hc, hrevoked⟩ := h
  unfold Db.isActiveDevice
  rw [hc]
  cases hat : c.revokedAt with
  | none =>
      rw [hat] at hrevoked
      cases hrevoked
  | some now => simp [hat]

theorem Revoked.kept (h : Revoked device db) (hstep : Stepped K cfg db e x db') :
    Revoked device db' := by
  obtain ⟨c, hc, hrevoked⟩ := h
  cases hstep with
  | completed hprovable hproof howner hdevices hcredentials =>
      exact ⟨c, Table.get?_insert_of_some hcredentials hc, hrevoked⟩
  | @revoked ownerUserId deviceId now =>
      unfold Revoked
      dsimp only
      rw [Table.get?_modify]
      split
      · exact ⟨c.revoke now, by rw [hc]; rfl, rfl⟩
      · exact ⟨c, hc, hrevoked⟩
  | _ => exact ⟨c, hc, hrevoked⟩

/-- Nothing that a revoked device asks for is granted. -/
theorem Stepped.not_revoked (h : Stepped K cfg db e x db') (hrevoked : Revoked device db) :
    x ≠ some (.paired device) ∧ x ≠ some (.challenged device) ∧ x ≠ some (.exchanged device) ∧
      x ≠ some (.admitted device) := by
  have hinactive := hrevoked.inactive
  obtain ⟨c, hc, hat⟩ := hrevoked
  cases h with
  | completed hprovable hproof howner hdevices hcredentials =>
      refine ⟨?_, nofun, nofun, nofun⟩
      rintro ⟨⟩
      have hfree := (Table.insert_some hcredentials).2
      dsimp only at hfree
      rw [hc] at hfree
      cases hfree
  | challenged r hactive =>
      refine ⟨nofun, ?_, nofun, nofun⟩
      rintro ⟨⟩
      rw [hinactive] at hactive
      cases hactive
  | exchanged hrow hdevice hunused hchallenge hlive hcredential hactive =>
      refine ⟨nofun, nofun, ?_, nofun⟩
      rintro ⟨⟩
      rw [hc] at hcredential
      cases hcredential
      rw [hactive] at hat
      cases hat
  | consumed hrow hunused hlive hactive =>
      refine ⟨nofun, nofun, nofun, ?_⟩
      rintro ⟨⟩
      rw [hinactive] at hactive
      cases hactive
  | _ => exact ⟨nofun, nofun, nofun, nofun⟩

/-- A device that was paired has a credential. -/
theorem Stepped.paired_credential (h : Stepped K cfg db e x db') (hx : x = some (.paired device)) :
    (db'.credentials.get? device).isSome = true := by
  cases h with
  | completed hprovable hproof howner hdevices hcredentials =>
      cases hx
      rw [Table.get?_insert_self hcredentials]
      rfl
  | _ => cases hx

end

/-! ## Runs -/

section

variable (K : Crypto) (cfg : Config)

/-- How many steps of a run from the empty database have the effect. -/
def times (es : List Event) (x : Effect) : Nat :=
  countAlong (step K cfg) (fun db e => effect K cfg db e = some x) Db.empty es

/-- **Every admission is paid for by a proof of its own.** In every run a device is admitted to
sockets at most as often as its key proved itself, when it was paired and when it answered a
challenge; it is paired once, and answers no more challenges than were made for it. -/
theorem admissions_are_proved (es : List Event) (device : String) :
    times K cfg es (.admitted device) ≤
        times K cfg es (.paired device) + times K cfg es (.exchanged device) ∧
      times K cfg es (.paired device) ≤ 1 ∧
      times K cfg es (.exchanged device) ≤ times K cfg es (.challenged device) := by
  refine ⟨?_, ?_, ?_⟩
  · have hspent := countAlong_le_of_budget
      (fun db e => effect K cfg db e = some (.admitted device))
      (fun db e => effect K cfg db e = some (.paired device) ∨
        effect K cfg db e = some (.exchanged device))
      (fun _ => True) (fun db => db.tokens.tally (isUnspent device)) 1 (fun _ _ h => h)
      (fun db e _ => (step_cases K cfg db e).tokens device) (s := Db.empty) trivial es
    have hproofs := countAlong_or_le (fun db e => effect K cfg db e = some (.paired device))
      (fun db e => effect K cfg db e = some (.exchanged device)) (step K cfg) Db.empty es
    have hnone : Db.empty.tokens.tally (isUnspent device) = 0 := rfl
    unfold times
    omega
  · apply countAlong_le_one fun db => (db.credentials.get? device).isSome = true
    · intro db e hpaired
      exact (step_cases K cfg db e).paired_credential hpaired
    · intro db e hthere
      obtain ⟨c, hc⟩ := Option.isSome_iff_exists.mp hthere
      obtain ⟨c', hc', -⟩ := (step_cases K cfg db e).key_kept hc
      rw [hc']
      rfl
    · intro db e hthere hpaired
      obtain ⟨c, hc⟩ := Option.isSome_iff_exists.mp hthere
      have hstep := step_cases K cfg db e
      rw [hpaired] at hstep
      generalize step K cfg db e = db' at hstep
      cases hstep with
      | completed hprovable hproof howner hdevices hcredentials =>
          have hfree := (Table.insert_some hcredentials).2
          dsimp only at hfree
          rw [hc] at hfree
          cases hfree
  · have hanswered := countAlong_le_of_budget
      (fun db e => effect K cfg db e = some (.exchanged device))
      (fun db e => effect K cfg db e = some (.challenged device))
      (fun _ => True) (fun db => db.challenges.tally (isUnanswered device)) 1 (fun _ _ h => h)
      (fun db e _ => (step_cases K cfg db e).challenges device) (s := Db.empty) trivial es
    have hnone : Db.empty.challenges.tally (isUnanswered device) = 0 := rfl
    unfold times
    omega

/-- **Five wrong proofs end a pairing session.** -/
theorem wrong_proofs_bounded (es : List Event) (pairing : String) :
    times K cfg es (.refuted pairing) ≤ 5 * times K cfg es (.begun pairing) := by
  have htaken := countAlong_le_of_budget
    (fun db e => effect K cfg db e = some (.refuted pairing))
    (fun db e => effect K cfg db e = some (.begun pairing))
    (fun _ => True) (attemptsLeft pairing) 5 (fun _ _ h => h)
    (fun db e _ => (step_cases K cfg db e).attempts pairing) (s := Db.empty) trivial es
  have hnone : attemptsLeft pairing Db.empty = 0 := rfl
  unfold times
  omega

theorem run_revoked {db : Db} {device : String} (h : Revoked device db) (es : List Event) :
    Revoked device (runFrom (step K cfg) db es) :=
  runFrom_invariant (Revoked device) (fun db e hdb => hdb.kept (step_cases K cfg db e)) h es

/-- A revocation that succeeds is its owner's, and revokes the credential of the device. -/
theorem revoked_of_effect (es : List Event) {owner device : String} {now : Instant}
    (h : effect K cfg (runFrom (step K cfg) Db.empty es) (.revoke owner device now) =
      some (.revoked device)) :
    Revoked device (step K cfg (runFrom (step K cfg) Db.empty es) (.revoke owner device now)) ∧
      ∃ d, (runFrom (step K cfg) Db.empty es).devices.get? device = some d ∧
        d.ownerSubject = owner := by
  have htraced := run_traced K cfg es
  generalize runFrom (step K cfg) Db.empty es = db at h htraced
  have hstep := step_cases K cfg db (.revoke owner device now)
  rw [h] at hstep
  generalize step K cfg db (.revoke owner device now) = db' at hstep
  cases hstep with
  | @revoked ownerUserId deviceId now d audit hdevice howner =>
      obtain ⟨p, c, -, -, -, -, hc, -⟩ := htraced.devices device d hdevice
      rw [(Table.get?_some hdevice).2] at hc
      refine ⟨⟨c.revoke now, ?_, rfl⟩, d, hdevice, howner⟩
      show (db.credentials.modify device (CredentialRow.revoke now)
        (CredentialRow.revoke_deviceId now)).get? device = some (c.revoke now)
      rw [Table.get?_modify, if_pos rfl, hc]
      rfl

/-- What a device that is shut out can no longer do, whatever it presents. -/
structure ShutOut (device : String) (db : Db) : Prop where
  inactive : db.isActiveDevice device = false
  hello : ∀ messageId proof token, verifyHello K db device messageId proof token = false
  paired : ∀ e, effect K cfg db e ≠ some (.paired device)
  challenged : ∀ e, effect K cfg db e ≠ some (.challenged device)
  exchanged : ∀ e, effect K cfg db e ≠ some (.exchanged device)
  admitted : ∀ e, effect K cfg db e ≠ some (.admitted device)

theorem Revoked.shutOut {device : String} {db : Db} (h : Revoked device db) :
    ShutOut K cfg device db := by
  have hnot := fun e => (step_cases K cfg db e).not_revoked h
  refine ⟨h.inactive, fun messageId proof token => ?_, fun e => (hnot e).1, fun e => (hnot e).2.1,
    fun e => (hnot e).2.2.1, fun e => (hnot e).2.2.2⟩
  obtain ⟨c, hc, hat⟩ := h
  unfold verifyHello
  rw [hc]
  cases hrevoked : c.revokedAt with
  | none =>
      rw [hrevoked] at hat
      cases hat
  | some now => simp [hrevoked]

/-- **A revocation is final.** Only the owner of a device revokes it, and from then on, in every
continuation of the run, no pairing, challenge, proof, token or hello of the device is accepted. -/
theorem revocation_is_final (es more : List Event) (owner device : String) (now : Instant)
    (h : effect K cfg (runFrom (step K cfg) Db.empty es) (.revoke owner device now) =
      some (.revoked device)) :
    (∃ d, (runFrom (step K cfg) Db.empty es).devices.get? device = some d ∧
      d.ownerSubject = owner) ∧
    ShutOut K cfg device
      (runFrom (step K cfg) Db.empty (es ++ .revoke owner device now :: more)) := by
  obtain ⟨hrevoked, howned⟩ := revoked_of_effect K cfg es h
  refine ⟨howned, ?_⟩
  rw [runFrom_append, runFrom_cons]
  exact (run_revoked K cfg hrevoked more).shutOut K cfg

end

theorem revocation_is_final_sample :
    (∃ d, (runFrom (step plainCrypto sampleConfig) Db.empty samplePairing).devices.get? "d" =
      some d ∧ d.ownerSubject = "user-hi\x00u") ∧
    ShutOut plainCrypto sampleConfig "d" (runFrom (step plainCrypto sampleConfig) Db.empty
      (samplePairing ++ [.revoke "user-hi\x00u" "d" 4])) :=
  revocation_is_final plainCrypto sampleConfig samplePairing [] "user-hi\x00u" "d" 4
    (by decide +kernel)

end AutocadMcp.Identity
