import AutocadMcp.Sockets.Revocation

/-!
# Who is heard

A device is heard on a socket that a token of the device opened, whose hello the key signed that
the device was paired with, and whose device was still active after the socket was registered. The
pairing, with its owner's approval, lies before the hello.
-/

namespace AutocadMcp.Sockets

open Identity ReplayWindow

variable (S : Setup)

/-- A token of the device opened the socket. -/
def Opened (es : List Event) (socket : Nat) (deviceId token : String) : Prop :=
  ∃ pre now post, es = pre ++ .authenticate socket token now :: post ∧
    (consumeAccessToken S.crypto (run S pre).db token now).1 = .ok deviceId

/-- A hello for the device came over the open socket, signed with the key that the device's owner
approved when it was paired. -/
def Greeted (es : List Event) (socket : Nat) (deviceId : String) : Prop :=
  ∃ pre hello sessionId post token q owner,
    es = pre ++ .socket socket (.hello hello sessionId) :: post ∧
    Opened S pre socket deviceId token ∧
    q.deviceId = deviceId ∧ PairedBy S.crypto S.config (calls pre) q owner ∧
    S.crypto.verify q.publicKey hello.deviceProof
      (helloMessage deviceId hello.messageId token) = true

/-- After the hello the device was found to be active. -/
def Admitted (es : List Event) (socket : Nat) (deviceId : String) : Prop :=
  ∃ pre post, es = pre ++ .socket socket .checkActive :: post ∧
    Greeted S pre socket deviceId ∧ (run S pre).db.isActiveDevice deviceId = true

/-- What the run says of a socket, by its stage. -/
def Socket.history (es : List Event) (row : Socket) : Prop :=
  match row.stage with
  | .greeting token => Opened S es row.socket row.deviceId token
  | .connected p _ =>
      Greeted S es row.socket row.deviceId ∧
        (p.isServed = true → Admitted S es row.socket row.deviceId)
  | .closed => True

section

variable {S : Setup} {es : List Event} {e : Event} {socket : Nat} {deviceId token : String}
  {row : Socket}

theorem Opened.later (h : Opened S es socket deviceId token) :
    Opened S (es ++ [e]) socket deviceId token := by
  obtain ⟨pre, now, post, rfl, hrest⟩ := h
  exact ⟨pre, now, post ++ [e], by simp, hrest⟩

theorem Greeted.later (h : Greeted S es socket deviceId) : Greeted S (es ++ [e]) socket deviceId := by
  obtain ⟨pre, hello, sessionId, post, token, q, owner, rfl, hrest⟩ := h
  exact ⟨pre, hello, sessionId, post ++ [e], token, q, owner, by simp, hrest⟩

theorem Admitted.later (h : Admitted S es socket deviceId) :
    Admitted S (es ++ [e]) socket deviceId := by
  obtain ⟨pre, post, rfl, hrest⟩ := h
  exact ⟨pre, post ++ [e], by simp, hrest⟩

theorem Socket.history_later (h : row.history S es) : row.history S (es ++ [e]) := by
  unfold Socket.history at h ⊢
  cases hstage : row.stage with
  | greeting token =>
      rw [hstage] at h
      exact h.later
  | connected p c =>
      rw [hstage] at h
      exact ⟨h.1.later, fun hserved => (h.2 hserved).later⟩
  | closed => trivial

/-- The key of an active device is the one that it was paired with. -/
theorem paired_key (K : Crypto) (cfg : Config) (es : List Identity.Event) {deviceId : String}
    {c : CredentialRow}
    (hc : (runFrom (Identity.step K cfg) Db.empty es).credentials.get? deviceId = some c) :
    ∃ q owner, q.deviceId = deviceId ∧ q.publicKey = c.publicKey ∧ PairedBy K cfg es q owner := by
  obtain ⟨d, hd⟩ := run_credential_device K cfg es hc
  obtain ⟨p, c', hp, hstate, hdevice, howner, hc', hkey⟩ := (run_traced K cfg es).devices _ d hd
  obtain ⟨-, hhistory⟩ := (run_traced K cfg es).pairings _ p hp
  rw [hstate] at hhistory
  obtain ⟨u, -, hpaired⟩ := hhistory
  have hid : d.deviceId = deviceId := (Table.get?_some hd).2
  rw [hid] at hc'
  cases hc.symm.trans hc'
  exact ⟨p.request, u, hdevice.trans hid, hkey.symm, hpaired⟩

/-- A hello that passes its checks is signed with the key of the pairing. -/
theorem greeted_of_greets {hello : Hello} {sessionId : String}
    (hopened : Opened S es socket deviceId token)
    (h : greets S (run S es).db deviceId token hello = true) :
    Greeted S (es ++ [.socket socket (.hello hello sessionId)]) socket deviceId := by
  unfold greets at h
  simp only [Bool.and_eq_true, decide_eq_true_eq] at h
  obtain ⟨⟨⟨⟨-, hdevice⟩, hverify⟩, -⟩, -⟩ := h
  rw [hdevice] at hverify
  unfold verifyHello at hverify
  rw [Option.any_eq_true] at hverify
  obtain ⟨c, hc, hproof⟩ := hverify
  rw [Bool.and_eq_true] at hproof
  rw [run_db] at hc
  obtain ⟨q, owner, hq, hkey, hpaired⟩ := paired_key S.crypto S.config (calls es) hc
  rw [← hkey] at hproof
  exact ⟨es, hello, sessionId, [], token, q, owner, rfl, hopened, hq, hpaired, hproof.2⟩

theorem Moved.history {a : Action} {stage : Stage} {registry registry' : Registry}
    (h : Moved S (run S es).db registry row a stage registry') (hrow : row.history S es) :
    (row.at stage).history S (es ++ [.socket row.socket a]) := by
  have hlater := Socket.history_later (e := .socket row.socket a) hrow
  unfold Socket.history at hrow hlater ⊢
  cases h with
  | greeted hstage hgreets =>
      rw [hstage] at hrow
      exact ⟨greeted_of_greets hrow hgreets, nofun⟩
  | closed hstage => trivial
  | left hstage => trivial
  | @checked c hstage hactive =>
      rw [hstage] at hrow hlater
      exact ⟨hlater.1, fun _ => ⟨es, [], rfl, hrow.1, hactive⟩⟩
  | idle => exact hlater
  | activated hstage =>
      rw [hstage] at hlater
      exact ⟨hlater.1, fun _ => hlater.2 rfl⟩
  | arrived hstage =>
      rw [hstage] at hlater
      exact ⟨hlater.1, fun _ => hlater.2 rfl⟩
  | judged hstage hcurrent =>
      rw [hstage] at hlater
      exact ⟨hlater.1, fun _ => hlater.2 rfl⟩
  | marked hstage =>
      rw [hstage] at hlater
      exact ⟨hlater.1, fun _ => hlater.2 rfl⟩
  | registered hstage | unchecked hstage _ | declined hstage | replaced hstage _ | dismissed hstage
  | failed hstage =>
      rw [hstage] at hlater
      exact ⟨hlater.1, nofun⟩

end

theorem run_history (es : List Event) {k : Nat} {row : Socket}
    (h : (run S es).sockets.get? k = some row) : row.history S es := by
  induction es using List.reverseRecOn generalizing k row with
  | nil => cases h
  | append_singleton es e ih =>
      have hstep := step_cases S (run S es) e
      have hrun : run S (es ++ [e]) = step S (run S es) e := by
        unfold run
        rw [runFrom_append]
        rfl
      rw [hrun] at h
      have hkept : ∀ row, (run S es).sockets.get? k = some row → row.history S (es ++ [e]) :=
        fun row hrow => Socket.history_later (ih hrow)
      generalize step S (run S es) e = g' at hstep h
      cases hstep with
      | @opened socket token deviceId now sockets hconsumed hinsert =>
          rw [show ({ run S es with db := _, sockets := _ } : Server).sockets = _ from rfl,
            Table.get?_insert hinsert] at h
          split at h
          · cases h
            exact ⟨es, now, [], rfl, hconsumed⟩
          · exact hkept row h
      | @moved socket before a stage registry hrow hmoved =>
          rcases Table.get?_modify_some (Socket.at_socket stage) hrow h with rfl | hbefore
          · obtain rfl := (Table.get?_some hrow).2
            exact hmoved.history (ih hrow)
          · exact hkept row hbefore
      | restarted => cases h
      | _ => exact hkept row h

/-- **Only an admitted device is heard.** Where a report or a heartbeat of a device is handed on, it
comes over a socket that one of the device's tokens opened, whose hello was signed with the key that
the owner approved in the pairing, and which passed the check after its registration. -/
theorem heard_device_is_admitted (es : List Event) (e : Event) (deviceId : String)
    (h : Heard (run S es) e deviceId) :
    ∃ socket a, e = .socket socket a ∧ Admitted S es socket deviceId := by
  obtain ⟨row, p, c, a, he, hrow, rfl, hstage, hserved, -⟩ := h.socket
  have hhistory := run_history S es hrow
  unfold Socket.history at hhistory
  rw [hstage] at hhistory
  exact ⟨row.socket, a, he, hhistory.2 hserved⟩

theorem heard_device_is_admitted_sample :
    ∃ socket a, Event.socket 1 .acceptSequence = .socket socket a ∧
      Admitted sampleSetup sampleServing socket "d" :=
  heard_device_is_admitted sampleSetup sampleServing (.socket 1 .acceptSequence) "d"
    (Or.inl ⟨⟨1, "d", .connected (.received sampleReport) (connectionOf sampleHello "session-1")⟩,
      sampleReport, by decide +kernel, rfl⟩)

end AutocadMcp.Sockets
