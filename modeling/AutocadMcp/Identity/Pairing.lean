import Mathlib.Data.List.Induction
import AutocadMcp.Identity.Steps
import AutocadMcp.Lib.Machine

/-!
# Who owns a device

A device is in the database because somebody asked to pair it, its owner approved the request while
it was open, and then its key signed the challenge of the request. The three steps are in the run,
in this order, and no later step changes the owner or the key.
-/

namespace AutocadMcp.Identity

/-! ## What a pairing session was asked for -/

/-- The columns of a pairing session that are written once. -/
structure Request where
  pairingId : String
  deviceId : String
  publicKey : String
  userCodeHash : String
  challengeHash : String
  expiresAt : Instant

def PairingRow.request (p : PairingRow) : Request :=
  ⟨p.pairingId, p.deviceId, p.publicKey, p.userCodeHash, p.challengeHash, p.expiresAt⟩

section

variable (K : Crypto) (cfg : Config)

/-- The request was made in the run, with a key that decodes. -/
def Begun (es : List Event) (q : Request) : Prop :=
  ∃ pre r post, es = pre ++ .startPairing r :: post ∧ (r.row K cfg).request = q ∧
    K.validKey r.publicKey = true

/-- The event approves the request for the user, by its code or by its id, before it expires. -/
inductive Approves (q : Request) : Event → String → Prop
  | byCode {issuer subject userCode u : String} {now : Instant}
      (hcode : K.hash (K.upper userCode) = q.userCodeHash)
      (huser : ownerKey K issuer subject = .ok u) (hlive : now < q.expiresAt) :
      Approves q (.approvePairing issuer subject userCode now) u
  | byReference {issuer subject reference u : String} {now : Instant}
      (hreference : (reference.length = 8 ∧ K.hash (K.upper reference) = q.userCodeHash) ∨
        reference = q.pairingId)
      (huser : ownerKey K issuer subject = .ok u) (hlive : now < q.expiresAt) :
      Approves q (.confirmPairing issuer subject reference now) u

/-- The user approved the request after it was made. -/
def ApprovedBy (es : List Event) (q : Request) (u : String) : Prop :=
  ∃ pre e post, es = pre ++ e :: post ∧ Begun K cfg pre q ∧ Approves K q e u

/-- After the user's approval the key of the request signed its challenge. -/
def PairedBy (es : List Event) (q : Request) (u : String) : Prop :=
  ∃ pre challenge signature now issue post,
    es = pre ++ .completePairing q.pairingId challenge signature now issue :: post ∧
    ApprovedBy K cfg pre q u ∧ K.hash challenge = q.challengeHash ∧ now < q.expiresAt ∧
    K.verify q.publicKey signature (pairMessage q.pairingId challenge) = true

/-- What the run says of a pairing session, by its state. -/
def History (es : List Event) (p : PairingRow) : Prop :=
  Begun K cfg es p.request ∧
    match p.state with
    | .approved => ∃ u, p.ownerUserId = some u ∧ ApprovedBy K cfg es p.request u
    | .completed => ∃ u, p.ownerUserId = some u ∧ PairedBy K cfg es p.request u
    | .pending => p.ownerUserId = none
    | _ => True

/-- The device was paired in a session that is still there, and has the key of the session. -/
def Stems (db : Db) (d : DeviceRow) : Prop :=
  ∃ p c, db.pairings.get? p.pairingId = some p ∧ p.state = .completed ∧
    p.deviceId = d.deviceId ∧ p.ownerUserId = some d.ownerSubject ∧
    db.credentials.get? d.deviceId = some c ∧ c.publicKey = p.publicKey

structure Traced (es : List Event) (db : Db) : Prop where
  pairings : ∀ k p, db.pairings.get? k = some p → History K cfg es p
  devices : ∀ k d, db.devices.get? k = some d → Stems db d

end

section

variable {K : Crypto} {cfg : Config} {es : List Event} {e : Event} {q : Request} {u : String}
  {db db' : Db} {x : Option Effect}

theorem Begun.later (h : Begun K cfg es q) : Begun K cfg (es ++ [e]) q := by
  obtain ⟨pre, r, post, rfl, hrest⟩ := h
  exact ⟨pre, r, post ++ [e], by simp, hrest⟩

theorem ApprovedBy.later (h : ApprovedBy K cfg es q u) : ApprovedBy K cfg (es ++ [e]) q u := by
  obtain ⟨pre, f, post, rfl, hrest⟩ := h
  exact ⟨pre, f, post ++ [e], by simp, hrest⟩

theorem PairedBy.later (h : PairedBy K cfg es q u) : PairedBy K cfg (es ++ [e]) q u := by
  obtain ⟨pre, challenge, signature, now, issue, post, rfl, hrest⟩ := h
  exact ⟨pre, challenge, signature, now, issue, post ++ [e], by simp, hrest⟩

theorem History.later {p : PairingRow} (h : History K cfg es p) : History K cfg (es ++ [e]) p := by
  obtain ⟨hbegun, hstate⟩ := h
  refine ⟨hbegun.later, ?_⟩
  cases hp : p.state with
  | approved =>
      rw [hp] at hstate
      obtain ⟨u, howner, happroved⟩ := hstate
      exact ⟨u, howner, happroved.later⟩
  | completed =>
      rw [hp] at hstate
      obtain ⟨u, howner, hpaired⟩ := hstate
      exact ⟨u, howner, hpaired.later⟩
  | pending =>
      rw [hp] at hstate
      exact hstate
  | denied => trivial
  | expired => trivial

/-! ## The sessions after a step -/

theorem pairingByCode_some {userCode : String} {p : PairingRow}
    (h : db.pairingByCode K userCode = some p) :
    db.pairings.get? p.pairingId = some p ∧ K.hash (K.upper userCode) = p.userCodeHash := by
  refine ⟨Table.get?_of_mem (List.mem_of_find?_eq_some h), ?_⟩
  have hfound := List.find?_some h
  exact (of_decide_eq_true hfound).symm

theorem pairingByReference_some {reference : String} {p : PairingRow}
    (h : db.pairingByReference K reference = some p) :
    db.pairings.get? p.pairingId = some p ∧
      ((reference.length = 8 ∧ K.hash (K.upper reference) = p.userCodeHash) ∨
        reference = p.pairingId) := by
  unfold Db.pairingByReference at h
  split at h
  · next hlength =>
      obtain ⟨hrow, hcode⟩ := pairingByCode_some h
      exact ⟨hrow, Or.inl ⟨hlength, hcode⟩⟩
  · have hid := (Table.get?_some h).2
    rw [hid]
    exact ⟨h, Or.inr rfl⟩

/-- The session that is answered is there, is open, and is approved as its request says. -/
theorem Answers.row {p : PairingRow} {answer : PairingState} (h : Answers K db e p u answer) :
    db.pairings.get? p.pairingId = some p ∧ p.state = .pending ∧
      (answer = .approved ∧ Approves K p.request e u ∨ answer = .denied) := by
  cases h with
  | approve hrow huser hpending hlive =>
      obtain ⟨hget, hcode⟩ := pairingByCode_some hrow
      exact ⟨hget, hpending, Or.inl ⟨rfl, .byCode hcode huser hlive⟩⟩
  | confirm hrow huser hpending hlive =>
      obtain ⟨hget, hreference⟩ := pairingByReference_some hrow
      exact ⟨hget, hpending, Or.inl ⟨rfl, .byReference hreference huser hlive⟩⟩
  | deny hrow huser hpending hlive =>
      exact ⟨(pairingByReference_some hrow).1, hpending, Or.inr rfl⟩

/-- A wrong proof leaves a session open, or closes it. -/
theorem failed_state {p : PairingRow} (h : p.state = .approved) :
    p.failed.state = .denied ∨ p.failed.state = .approved := by
  by_cases hfull : 5 ≤ p.attempts + 1
  · exact Or.inl (if_pos hfull)
  · exact Or.inr ((if_neg hfull).trans h)

variable (K cfg) in
/-- How a session stands after a step: it is new, as it was, or rewritten from an open state. -/
inductive Progress (db : Db) (e : Event) (p' : PairingRow) : Prop
  | kept (hrow : db.pairings.get? p'.pairingId = some p')
  | begun (r : StartPairing) (hevent : e = .startPairing r) (hrow : p' = r.row K cfg)
      (hkey : K.validKey r.publicKey = true)
  | answered (p : PairingRow) (u : String) (answer : PairingState)
      (hanswers : Answers K db e p u answer) (hrow : p' = p.answered u answer)
  | failed (p : PairingRow) (hget : db.pairings.get? p.pairingId = some p)
      (happroved : p.state = .approved) (hrow : p' = p.failed)
  | completed (p : PairingRow) (challenge signature : String) (now : Instant) (issue : Issue)
      (hevent : e = .completePairing p.pairingId challenge signature now issue)
      (hprovable : Provable K db p.pairingId challenge now p)
      (hproof : K.verify p.publicKey signature (pairMessage p.pairingId challenge) = true)
      (hrow : p' = p.complete)

theorem Stepped.progress (h : Stepped K cfg db e x db') {k : String} {p' : PairingRow}
    (hp : db'.pairings.get? k = some p') : Progress K cfg db e p' := by
  obtain rfl : p'.pairingId = k := (Table.get?_some hp).2
  cases h with
  | idle => exact .kept hp
  | started r hkey hroom hfree hcode hinsert =>
      rw [Table.get?_insert hinsert] at hp
      split at hp
      · cases hp
        exact .begun r rfl rfl hkey
      · exact .kept (Table.get?_deleteWhere_some hp).1
  | answered hanswers =>
      rcases Table.get?_modify_some (PairingRow.answered_pairingId _ _) hanswers.row.1 hp with hrow | hkept
      · exact .answered _ _ _ hanswers hrow
      · exact .kept hkept
  | failed hprovable hproof =>
      rcases Table.get?_modify_some PairingRow.failed_pairingId hprovable.row hp with hrow | hkept
      · obtain rfl := (Table.get?_some hprovable.row).2
        exact .failed _ hprovable.row hprovable.approved hrow
      · exact .kept hkept
  | completed hprovable hproof =>
      rcases Table.get?_modify_some PairingRow.complete_pairingId hprovable.row hp with hrow | hkept
      · obtain rfl := (Table.get?_some hprovable.row).2
        exact .completed _ _ _ _ _ rfl hprovable hproof hrow
      · exact .kept hkept
  | challenged => exact .kept hp
  | exchanged => exact .kept hp
  | consumed => exact .kept hp
  | revoked => exact .kept hp

/-- A completed session stays as it is. -/
theorem Stepped.completed_kept (h : Stepped K cfg db e x db') {p : PairingRow}
    (hp : db.pairings.get? p.pairingId = some p) (hstate : p.state = .completed) :
    db'.pairings.get? p.pairingId = some p := by
  have hmodify : ∀ {k : String} {old : PairingRow} {f : PairingRow → PairingRow}
      (hf : ∀ x, (f x).pairingId = x.pairingId), db.pairings.get? k = some old →
      old.state ≠ .completed → (db.pairings.modify k f hf).get? p.pairingId = some p := by
    intro k old f hf hold hopen
    exact Table.get?_modify_keeps (fun p : PairingRow => p.state = .completed) hold hopen f hf hp
      hstate
  cases h with
  | idle => exact hp
  | started r hkey hroom hfree hcode hinsert =>
      apply Table.get?_insert_of_some hinsert
      have hmem : p ∈ (db.pairings.deleteWhere (PairingRow.isSwept r.now)).rows := by
        rw [Table.mem_deleteWhere]
        exact ⟨(Table.get?_some hp).1, by simp [PairingRow.isSwept, hstate]⟩
      exact Table.get?_of_mem hmem
  | answered hanswers =>
      apply hmodify (PairingRow.answered_pairingId _ _) hanswers.row.1
      rw [hanswers.row.2.1]
      nofun
  | failed hprovable hproof =>
      apply hmodify PairingRow.failed_pairingId hprovable.row
      rw [hprovable.approved]
      nofun
  | completed hprovable hproof =>
      apply hmodify PairingRow.complete_pairingId hprovable.row
      rw [hprovable.approved]
      nofun
  | challenged => exact hp
  | exchanged => exact hp
  | consumed => exact hp
  | revoked => exact hp

/-! ## Devices and credentials after a step -/

/-- A device stays as it is, and so does the key of a credential. -/
theorem Stepped.device_kept (h : Stepped K cfg db e x db') {k : String} {d : DeviceRow}
    (hd : db.devices.get? k = some d) : db'.devices.get? k = some d := by
  cases h with
  | completed hprovable hproof howner hdevices => exact Table.get?_insert_of_some hdevices hd
  | _ => exact hd

theorem Stepped.key_kept (h : Stepped K cfg db e x db') {k : String} {c : CredentialRow}
    (hc : db.credentials.get? k = some c) :
    ∃ c', db'.credentials.get? k = some c' ∧ c'.publicKey = c.publicKey := by
  cases h with
  | completed hprovable hproof howner hdevices hcredentials =>
      exact ⟨c, Table.get?_insert_of_some hcredentials hc, rfl⟩
  | @revoked ownerUserId deviceId now device audit hdevice howner =>
      show ∃ c', (db.credentials.modify deviceId (CredentialRow.revoke now)
        (CredentialRow.revoke_deviceId now)).get? k = some c' ∧ c'.publicKey = c.publicKey
      rw [Table.get?_modify]
      split
      · exact ⟨c.revoke now, by rw [hc]; rfl, rfl⟩
      · exact ⟨c, hc, rfl⟩
  | _ => exact ⟨c, hc, rfl⟩

theorem Stems.kept {d : DeviceRow} (h : Stems db d) (hstep : Stepped K cfg db e x db') :
    Stems db' d := by
  obtain ⟨p, c, hp, hstate, hdevice, howner, hc, hkey⟩ := h
  obtain ⟨c', hc', hsame⟩ := hstep.key_kept hc
  exact ⟨p, c', hstep.completed_kept hp hstate, hstate, hdevice, howner, hc', hsame.trans hkey⟩

/-- **Every step keeps the traces.** -/
theorem Traced.step (h : Traced K cfg es db) (hstep : Stepped K cfg db e x db') :
    Traced K cfg (es ++ [e]) db' := by
  refine ⟨fun k p' hp' => ?_, fun k d hd => ?_⟩
  · cases hstep.progress hp' with
    | kept hrow => exact (h.pairings _ _ hrow).later
    | begun r hevent hrow hkey =>
        subst hrow
        exact ⟨⟨es, r, [], by rw [hevent], rfl, hkey⟩, rfl⟩
    | answered p u answer hanswers hrow =>
        obtain ⟨hget, hpending, hanswer⟩ := hanswers.row
        have hbegun : Begun K cfg es p.request := (h.pairings _ p hget).1
        subst hrow
        refine ⟨hbegun.later, ?_⟩
        rcases hanswer with ⟨rfl, happroves⟩ | rfl
        · exact ⟨u, rfl, es, e, [], rfl, hbegun, happroves⟩
        · trivial
    | failed p hget happroved hrow =>
        obtain ⟨hbegun, hstate⟩ := (h.pairings _ p hget).later (e := e)
        subst hrow
        refine ⟨hbegun, ?_⟩
        rw [happroved] at hstate
        rcases failed_state happroved with hdenied | hopen
        · rw [hdenied]
          trivial
        · rw [hopen]
          exact hstate
    | completed p challenge signature now issue hevent hprovable hproof hrow =>
        obtain ⟨hbegun, hstate⟩ := h.pairings _ p hprovable.row
        rw [hprovable.approved] at hstate
        obtain ⟨u, howner, happroved⟩ := hstate
        subst hrow
        exact ⟨hbegun.later, u, howner, es, challenge, signature, now, issue, [], by rw [hevent]; rfl,
          happroved, hprovable.challenge.symm, hprovable.live, hproof⟩
  · have hbefore : ∀ d, db.devices.get? k = some d → Stems db' d := fun d hd =>
      (h.devices k d hd).kept hstep
    cases hstep with
    | @completed pairingId challenge signature owner now issue p devices credentials tokens audit
        hprovable hproof howner hdevices hcredentials htokens =>
        rw [Table.get?_insert hdevices] at hd
        split at hd
        · cases hd
          have hid : p.pairingId = pairingId := (Table.get?_some hprovable.row).2
          refine ⟨p.complete, _, ?_, rfl, rfl, howner, Table.get?_insert_self hcredentials, rfl⟩
          show (db.pairings.modify pairingId PairingRow.complete
            PairingRow.complete_pairingId).get? p.pairingId = some p.complete
          rw [Table.get?_modify, if_pos hid, hid, hprovable.row]
          rfl
        · exact hbefore d hd
    | _ => exact hbefore d hd

theorem run_traced (K : Crypto) (cfg : Config) (es : List Event) :
    Traced K cfg es (runFrom (step K cfg) Db.empty es) := by
  induction es using List.reverseRecOn with
  | nil =>
      refine ⟨?_, ?_⟩
      · rintro k p ⟨⟩
      · rintro k d ⟨⟩
  | append_singleton es e ih =>
      rw [runFrom_append]
      exact ih.step (step_cases K cfg _ e)

/-- A credential comes with its device. -/
theorem run_credential_device (K : Crypto) (cfg : Config) (es : List Event) {k : String}
    {c : CredentialRow} (hc : (runFrom (step K cfg) Db.empty es).credentials.get? k = some c) :
    ∃ d, (runFrom (step K cfg) Db.empty es).devices.get? k = some d := by
  refine runFrom_invariant (fun db : Db => ∀ k c, db.credentials.get? k = some c →
    ∃ d, db.devices.get? k = some d) ?_ ?_ es k c hc
  · intro db e hdb k c hc
    have hstep := step_cases K cfg db e
    have hbefore : ∀ c, db.credentials.get? k = some c →
        ∃ d, (step K cfg db e).devices.get? k = some d := by
      intro c hc
      obtain ⟨d, hd⟩ := hdb k c hc
      exact ⟨d, hstep.device_kept hd⟩
    generalize step K cfg db e = db' at hstep hc hbefore
    generalize effect K cfg db e = x at hstep
    cases hstep with
    | completed hprovable hproof howner hdevices hcredentials =>
        rw [show ({ db with devices := _, credentials := _, pairings := _, tokens := _, audit := _ } :
          Db).credentials = _ from rfl, Table.get?_insert hcredentials] at hc
        split at hc
        · next hk =>
            rw [← hk]
            exact ⟨_, Table.get?_insert_self hdevices⟩
        · exact hbefore c hc
    | @revoked ownerUserId deviceId now device audit hdevice howner =>
        change (db.credentials.modify deviceId (CredentialRow.revoke now)
          (CredentialRow.revoke_deviceId now)).get? k = some c at hc
        rw [Table.get?_modify] at hc
        split at hc
        · next hk =>
            obtain ⟨c', hc', -⟩ := Option.map_eq_some_iff.mp hc
            exact hbefore c' hc'
        · exact hbefore c hc
    | _ => exact hbefore c hc
  · rintro k c ⟨⟩

/-- The device, and the key of its credential. -/
def HasKey (k : String) (d : DeviceRow) (key : String) (db : Db) : Prop :=
  db.devices.get? k = some d ∧ ∃ c, db.credentials.get? k = some c ∧ c.publicKey = key

theorem run_hasKey {k : String} {d : DeviceRow} {key : String} (h : HasKey k d key db)
    (es : List Event) : HasKey k d key (runFrom (step K cfg) db es) := by
  refine runFrom_invariant (HasKey k d key) ?_ h es
  rintro db e ⟨hdevice, c, hc, hkey⟩
  obtain ⟨c', hc', hsame⟩ := (step_cases K cfg db e).key_kept hc
  exact ⟨(step_cases K cfg db e).device_kept hdevice, c', hc', hsame.trans hkey⟩

/-- **A device belongs to the user who approved it.** After every run each device has a credential,
and there is a pairing request in the run for this device and this key, which the device's owner
approved before it expired, and whose challenge the key then signed. Whatever happens later, neither
the owner nor the key changes. -/
theorem devices_paired_by_owner (K : Crypto) (cfg : Config) (es : List Event) (k : String)
    (d : DeviceRow) (hd : (runFrom (step K cfg) Db.empty es).devices.get? k = some d) :
    ∃ q : Request, q.deviceId = k ∧ PairedBy K cfg es q d.ownerSubject ∧
      ∀ more, HasKey k d q.publicKey (runFrom (step K cfg) Db.empty (es ++ more)) := by
  have htraced := run_traced K cfg es
  have hid : d.deviceId = k := (Table.get?_some hd).2
  obtain ⟨p, c, hp, hstate, hdevice, howner, hc, hkey⟩ := htraced.devices k d hd
  obtain ⟨-, hhistory⟩ := htraced.pairings _ p hp
  rw [hstate] at hhistory
  obtain ⟨u, hu, hpaired⟩ := hhistory
  rw [howner] at hu
  cases hu
  refine ⟨p.request, hdevice.trans hid, hpaired, fun more => ?_⟩
  rw [runFrom_append]
  apply run_hasKey
  rw [hid] at hc
  exact ⟨hd, c, hc, hkey⟩

end

/-! ## A concrete run -/

/-- Hashes that keep their argument, and signatures that are the key and the message. -/
def plainCrypto : Crypto where
  hash text := "h" ++ text
  fingerprint key := "f" ++ key
  validKey _ := true
  verify key signature message := signature = key ++ message
  upper text := text

def sampleConfig : Config := ⟨600, 60, 60⟩

/-- Device `d` is paired by its owner. -/
def samplePairing : List Event :=
  [.startPairing ⟨"d", "drafting", "k", "pair-1", "CODE", "c1", "s1", 1, 1⟩,
    .approvePairing "i" "u" "CODE" 2,
    .completePairing "pair-1" "c1" ("k" ++ pairMessage "pair-1" "c1") 3 ⟨"t1", 3⟩]

theorem devices_paired_by_owner_sample :
    ∃ q : Request, q.deviceId = "d" ∧ PairedBy plainCrypto sampleConfig samplePairing q "user-hi\x00u" ∧
      ∀ more, HasKey "d" ⟨"d", "user-hi\x00u", "drafting"⟩ q.publicKey
        (runFrom (step plainCrypto sampleConfig) Db.empty (samplePairing ++ more)) :=
  devices_paired_by_owner plainCrypto sampleConfig samplePairing "d"
    ⟨"d", "user-hi\x00u", "drafting"⟩ (by decide +kernel)

end AutocadMcp.Identity
