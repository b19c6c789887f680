import AutocadMcp.Approval.Admission

/-!
# Intents and consents from their creation to the decision

What the operations never change of an intent and a consent, the records that the service
creates for a commit, and the decision of a consent.
-/

namespace AutocadMcp.Approval

open Gateway (Failure conflict IntentAction)

/-! ## What no operation changes -/

/-- An intent up to its state and what a release adds to it. -/
def ExecutionIntentRecord.content (r : ExecutionIntentRecord) : ExecutionIntentRecord :=
  { r with state := .awaitingApproval, stateVersion := 0, consentId := none, releasedJobId := none }

/-- A consent up to its state and its decision. -/
def ConsentRecord.content (r : ConsentRecord) : ConsentRecord :=
  { r with
    state := .requested
    stateVersion := 0
    decidedAt := none
    decisionSource := none
    decisionPrincipal := none
    decisionDeviceId := none
    decisionDeviceIdentityGeneration := none
    consumedAt := none }

/-- No record is lost, and none changes but for its state. -/
structure KeepsRecords (s s' : Store) : Prop where
  intents : ∀ id r, s.intents.get? id = some r →
    ∃ r', s'.intents.get? id = some r' ∧ r'.content = r.content
  consents : ∀ id r, s.consents.get? id = some r →
    ∃ r', s'.consents.get? id = some r' ∧ r'.content = r.content

theorem KeepsRecords.of_eq {s s' : Store} (hintents : s'.intents = s.intents)
    (hconsents : s'.consents = s.consents) : KeepsRecords s s' where
  intents _ r hr := ⟨r, hintents ▸ hr, rfl⟩
  consents _ r hr := ⟨r, hconsents ▸ hr, rfl⟩

theorem KeepsRecords.refl (s : Store) : KeepsRecords s s := .of_eq rfl rfl

theorem KeepsRecords.trans {s t u : Store} (h : KeepsRecords s t) (h' : KeepsRecords t u) :
    KeepsRecords s u where
  intents id r hr := by
    obtain ⟨r₁, hr₁, hsame₁⟩ := h.intents id r hr
    obtain ⟨r₂, hr₂, hsame₂⟩ := h'.intents id r₁ hr₁
    exact ⟨r₂, hr₂, hsame₂.trans hsame₁⟩
  consents id r hr := by
    obtain ⟨r₁, hr₁, hsame₁⟩ := h.consents id r hr
    obtain ⟨r₂, hr₂, hsame₂⟩ := h'.consents id r₁ hr₁
    exact ⟨r₂, hr₂, hsame₂.trans hsame₁⟩

section

variable {κ α : Type} [DecidableEq κ] {key : α → κ} {content : α → α}

/-- An update that leaves the content alone. -/
theorem modify_keeps {t : Table key} {k : κ} {f : α → α} (hf : ∀ x, key (f x) = key x)
    (hcontent : ∀ x, content (f x) = content x) (id : κ) (r : α) (hr : t.get? id = some r) :
    ∃ r', (t.modify k f hf).get? id = some r' ∧ content r' = content r := by
  rw [Table.get?_modify]
  by_cases hid : id = k
  · rw [if_pos hid, hr]
    exact ⟨f r, rfl, hcontent r⟩
  · rw [if_neg hid]
    exact ⟨r, hr, rfl⟩

theorem insert_keeps {t t' : Table key} {x : α} (h : t.insert x = some t') (id : κ) (r : α)
    (hr : t.get? id = some r) : ∃ r', t'.get? id = some r' ∧ content r' = content r :=
  ⟨r, Table.get?_insert_of_some h hr, rfl⟩

end

variable {C : Codec}

theorem run_keeps {s s' : Store} {c : Call} {u : Unit} (h : c.run C s = .ok (u, s')) :
    KeepsRecords s s' := by
  cases c <;> obtain ⟨⟨out, after⟩, hrun, heq⟩ := map_eq_ok h <;> cases heq
  case createIntent r =>
    rcases createIntent_ok hrun with rfl | ⟨-, intents, hinsert, rfl⟩
    · exact .refl _
    · exact ⟨insert_keeps hinsert, (KeepsRecords.refl _).consents⟩
  case createConsent r =>
    rcases createConsent_ok hrun with rfl | ⟨-, consents, hinsert, hbind⟩
    · exact .refl _
    · obtain ⟨hintents, hconsents⟩ := bindConsent_rows hbind
      have hinserted : KeepsRecords s { s with consents := consents } :=
        ⟨(KeepsRecords.refl s).intents, insert_keeps hinsert⟩
      exact hinserted.trans (.of_eq hintents hconsents)
  case transitionIntent a =>
    rcases transitionIntent_ok hrun with rfl | ⟨_, target, -, -, rfl⟩
    · exact .refl _
    · exact ⟨modify_keeps (a.set_intentId target) fun _ => rfl, (KeepsRecords.refl _).consents⟩
  case transitionConsent a =>
    rcases transitionConsent_ok hrun with rfl | ⟨_, target, -, -, rfl⟩
    · exact .refl _
    · exact ⟨(KeepsRecords.refl _).intents,
        modify_keeps (a.candidate_consentId target) fun _ => rfl⟩
  case releaseIntent a =>
    rcases (releaseIntent_steps hrun).2 with ⟨hintents, hconsents⟩ |
      ⟨intent, consent, -, hintents, hconsents, -⟩
    · exact .of_eq hintents hconsents
    · constructor
      · rw [hintents]
        exact modify_keeps a.set_intentId fun _ => rfl
      · rw [hconsents]
        cases consent with
        | none => exact (KeepsRecords.refl s).consents
        | some used => exact modify_keeps a.consume_consentId fun _ => rfl

theorem callStep_keeps (s : Store) (c : Call) : KeepsRecords s (callStep C s c) := by
  refine committed_rec (P := KeepsRecords s) (KeepsRecords.refl s) ?_
  intro _ s' h
  exact run_keeps h

/-- A call of the repository, or what other parts of the Gateway write to the other tables. -/
inductive StoreEvent where
  | call (c : Call)
  | elsewhere (write : Store → Store)

def eventStep (C : Codec) (s : Store) : StoreEvent → Store
  | .call c => callStep C s c
  | .elsewhere write => { write s with intents := s.intents, consents := s.consents }

theorem eventStep_keeps (s : Store) (e : StoreEvent) : KeepsRecords s (eventStep C s e) := by
  cases e with
  | call c => exact callStep_keeps s c
  | elsewhere write => exact .of_eq rfl rfl

theorem runFrom_keeps (s : Store) (events : List StoreEvent) :
    KeepsRecords s (runFrom (eventStep C) s events) :=
  runFrom_relates KeepsRecords KeepsRecords.refl (fun _ _ _ => KeepsRecords.trans) eventStep_keeps s
    events

/-! ## Creation -/

theorem answered_eq_ok {α : Type} {x : Except Failure α} {a : α} :
    answered x = .ok a ↔ x = .ok a := by
  rcases x with (_ | _ | _ | _ | _ | _ | _) | b <;> simp [answered]

theorem passed_eq_ok {α : Type} {x : Except Failure α} {a : α} :
    passed x = .ok a ↔ x = .ok a := by
  rcases x with _ | b <;> simp [passed]

/-- A new intent is the one that was asked for. -/
theorem createIntent_new {s s' : Store} {r created : ExecutionIntentRecord} {existing : Bool}
    (h : createIntent C s r = .ok ((created, existing), s'))
    (hnew : s.intents.get? created.intentId = none) :
    created = r ∧ s'.intents.get? r.intentId = some r ∧ s'.consents = s.consents := by
  obtain ⟨_, -, h⟩ := bind_eq_ok.mp h
  obtain ⟨_, -, h⟩ := bind_eq_ok.mp h
  obtain ⟨_, -, h⟩ := bind_eq_ok.mp h
  obtain ⟨_, -, h⟩ := bind_eq_ok.mp h
  cases hinsert : s.insertIntent r with
  | ok inserted =>
      rw [hinsert] at h
      cases h
      unfold Store.insertIntent at hinsert
      split at hinsert
      · cases hinsert
      · split at hinsert
        · rename_i intents hrow
          cases hinsert
          exact ⟨rfl, Table.get?_insert_self hrow, rfl⟩
        · cases hinsert
  | error e =>
      rw [hinsert] at h
      obtain ⟨found, hfound, h⟩ := bind_eq_ok.mp h
      cases found with
      | none => cases h
      | some row =>
          obtain ⟨_, -, h⟩ := bind_eq_ok.mp h
          cases h
          -- a row that is found has its key
          unfold Store.intentConflictRow at hfound
          split at hfound
          · cases hfound
          · rename_i row' hrow
            obtain ⟨_, -, hfound⟩ := bind_eq_ok.mp hfound
            cases hfound
            exact absurd rfl (Table.get?_none hnew (List.mem_of_find?_eq_some hrow))

theorem createConsent_new {s s' : Store} {r created : ConsentRecord} {existing : Bool}
    (h : createConsent C s r = .ok ((created, existing), s'))
    (hnew : s.consents.get? created.consentId = none) :
    created = r ∧ r.requiredAssurance ≠ .none ∧ s'.consents.get? r.consentId = some r ∧
      s'.intents = s.intents := by
  obtain ⟨_, -, h⟩ := bind_eq_ok.mp h
  obtain ⟨_, -, h⟩ := bind_eq_ok.mp h
  obtain ⟨_, hassured, h⟩ := bind_eq_ok.mp h
  obtain ⟨_, -, h⟩ := bind_eq_ok.mp h
  obtain ⟨_, -, h⟩ := bind_eq_ok.mp h
  cases hinsert : s.insertConsent r with
  | ok inserted =>
      rw [hinsert] at h
      obtain ⟨bound, hbound, h⟩ := bind_eq_ok.mp h
      cases h
      obtain ⟨consents, hrow, rfl⟩ := insertConsent_ok hinsert
      obtain ⟨hintents, hconsents⟩ := bindConsent_rows hbound
      refine ⟨rfl, check_eq_ok.mp hassured, ?_, hintents⟩
      rw [hconsents]
      exact Table.get?_insert_self hrow
  | error e =>
      rw [hinsert] at h
      obtain ⟨found, hfound, h⟩ := bind_eq_ok.mp h
      cases found with
      | none => cases h
      | some row =>
          obtain ⟨_, -, h⟩ := bind_eq_ok.mp h
          cases h
          unfold Store.consentConflictRow at hfound
          split at hfound
          · cases hfound
          · rename_i row' hrow
            obtain ⟨_, -, hfound⟩ := bind_eq_ok.mp hfound
            cases hfound
            exact absurd rfl (Table.get?_none hnew (List.mem_of_find?_eq_some hrow))

namespace Admission

variable {A : Admission}

/-- The service created the intent and the consent at this time, in one way or the other. -/
def Creates (A : Admission) (s : Store) (m : CommitMaterial) (now : Int)
    (intent : ExecutionIntentRecord) (consent : ConsentRecord) (s' : Store) : Prop :=
  s.intents.get? intent.intentId = none ∧ s.consents.get? consent.consentId = none ∧
    (A.createOrReuseProgramIntent s m now = .ok ((intent, some consent), s') ∨
      ∃ bindIntent bindConsent, A.createPhase8CommitIntent bindIntent bindConsent s m now =
        .ok ((intent, some consent), s'))

/-- What the store holds after the creation. -/
structure CommitCreated (A : Admission) (m : CommitMaterial) (now : Int)
    (intent : ExecutionIntentRecord) (consent : ConsentRecord) (s : Store) : Prop where
  intentRow : s.intents.get? intent.intentId = some intent
  consentRow : s.consents.get? consent.consentId = some consent
  consent : consent = A.requestedConsent intent
  assured : intent.requiredAssurance ≠ .none
  createdAt : intent.createdAt = A.isoformat now
  previewExpiresAt : intent.previewExpiresAt = m.previewExpiresAt
  expiresAt : ∃ previewExpiry, A.instant m.previewExpiresAt = .ok previewExpiry ∧
    intent.expiresAt = A.isoformat (intentExpiry previewExpiry now)

theorem withDigest_eq_ok {r value : ExecutionIntentRecord} (h : A.withDigest r = .ok value) :
    ∃ digest, value = { r with intentDigest := digest } := by
  unfold withDigest at h
  split at h
  · cases h
  · rename_i digest _
    cases h
    exact ⟨digest, rfl⟩

theorem createConsent_ok {s s' : Store} {intent : ExecutionIntentRecord} {consent : ConsentRecord}
    (h : A.createConsent s intent = .ok (consent, s'))
    (hnew : s.consents.get? consent.consentId = none) :
    consent = A.requestedConsent intent ∧ intent.requiredAssurance ≠ .none ∧
      s'.consents.get? consent.consentId = some consent ∧ s'.intents = s.intents := by
  obtain ⟨found, hfound, h⟩ := bind_eq_ok.mp h
  cases found with
  | some existing =>
      cases h
      have hrow := (consent_ok (passed_eq_ok.mp hfound)).1
      rw [(Table.get?_some hrow).2, hrow] at hnew
      cases hnew
  | none =>
      obtain ⟨⟨⟨stored, existing⟩, after⟩, hcreate, h⟩ := bind_eq_ok.mp h
      cases h
      obtain ⟨rfl, hassured, hrow, hintents⟩ := createConsent_new (answered_eq_ok.mp hcreate) hnew
      exact ⟨rfl, hassured, hrow, hintents⟩

/-- Both ways of creating a commit's intent give it the same dates. -/
theorem creates_ok {s s' : Store} {m : CommitMaterial} {now : Int} {intent : ExecutionIntentRecord}
    {consent : ConsentRecord} (h : A.Creates s m now intent consent s') :
    A.CommitCreated m now intent consent s' := by
  obtain ⟨hintentNew, hconsentNew, hprogram | ⟨bindIntent, bindConsent, hphase8⟩⟩ := h
  · obtain ⟨found, hfound, h⟩ := bind_eq_ok.mp hprogram
    cases found with
    | some existing =>
        obtain ⟨_, -, h⟩ := bind_eq_ok.mp h
        by_cases hnone : existing.requiredAssurance = .none
        · rw [if_pos hnone] at h
          cases h
        · rw [if_neg hnone] at h
          obtain ⟨_, -, h⟩ := bind_eq_ok.mp h
          cases h
          have hrow := (intent_ok (passed_eq_ok.mp hfound)).1
          rw [(Table.get?_some hrow).2, hrow] at hintentNew
          cases hintentNew
    | none =>
        obtain ⟨assurance, -, h⟩ := bind_eq_ok.mp h
        obtain ⟨previewExpiry, hpreview, h⟩ := bind_eq_ok.mp h
        obtain ⟨_, -, h⟩ := bind_eq_ok.mp h
        obtain ⟨value, hvalue, h⟩ := bind_eq_ok.mp h
        obtain ⟨⟨⟨created, existing⟩, after⟩, hcreate, h⟩ := bind_eq_ok.mp h
        dsimp only at h
        by_cases hnone : assurance = .none
        · rw [if_pos hnone] at h
          cases h
        · rw [if_neg hnone] at h
          obtain ⟨⟨stored, after'⟩, hconsent, h⟩ := bind_eq_ok.mp h
          cases h
          obtain ⟨rfl, hrow, hconsents⟩ := createIntent_new (answered_eq_ok.mp hcreate) hintentNew
          obtain ⟨hsame, hassured, hconsentRow, hintents⟩ :=
            createConsent_ok hconsent (hconsents ▸ hconsentNew)
          obtain ⟨digest, rfl⟩ := withDigest_eq_ok hvalue
          exact ⟨hintents ▸ hrow, hconsentRow, hsame, hassured, rfl, rfl, previewExpiry, hpreview, rfl⟩
  · obtain ⟨previewExpiry, hpreview, h⟩ := bind_eq_ok.mp hphase8
    obtain ⟨_, -, h⟩ := bind_eq_ok.mp h
    obtain ⟨found, hfound, h⟩ := bind_eq_ok.mp h
    cases found with
    | some existing =>
        obtain ⟨_, -, h⟩ := bind_eq_ok.mp h
        obtain ⟨_, -, h⟩ := bind_eq_ok.mp h
        cases h
        have hrow := (intent_ok (passed_eq_ok.mp hfound)).1
        rw [(Table.get?_some hrow).2, hrow] at hintentNew
        cases hintentNew
    | none =>
        obtain ⟨assurance, -, h⟩ := bind_eq_ok.mp h
        obtain ⟨value, hvalue, h⟩ := bind_eq_ok.mp h
        obtain ⟨⟨⟨created, existing⟩, after⟩, hcreate, h⟩ := bind_eq_ok.mp h
        obtain ⟨intentBindings, -, h⟩ := bind_eq_ok.mp h
        obtain ⟨⟨stored, after'⟩, hconsent, h⟩ := bind_eq_ok.mp h
        obtain ⟨consentBindings, -, h⟩ := bind_eq_ok.mp h
        cases h
        obtain ⟨rfl, hrow, hconsents⟩ := createIntent_new (answered_eq_ok.mp hcreate) hintentNew
        obtain ⟨hsame, hassured, hconsentRow, hintents⟩ :=
          createConsent_ok hconsent (hconsents ▸ hconsentNew)
        obtain ⟨digest, rfl⟩ := withDigest_eq_ok hvalue
        exact ⟨hintents ▸ hrow, hconsentRow, hsame, hassured, rfl, rfl, previewExpiry, hpreview, rfl⟩

end Admission

/-! ## The decision -/

/-- A requested consent that a call approves is approved before it expires. -/
theorem transitionConsent_approves {s s' : Store} {a : TransitionConsent}
    {consent decided : ConsentRecord} (htarget : a.target = "approved")
    (hread : s.consent C a.ownerSubject a.consentId = .ok (some consent))
    (hrequested : consent.state = .requested)
    (h : transitionConsent C s a = .ok (some decided, s')) :
    before C a.transitionAt consent.expiresAt = .ok true ∧
      s'.consent C a.ownerSubject a.consentId = .ok (some decided) ∧
      decided = a.candidate .approved consent ∧ s'.intents = s.intents := by
  obtain ⟨_, -, h⟩ := bind_eq_ok.mp h
  obtain ⟨_, -, h⟩ := bind_eq_ok.mp h
  obtain ⟨found, hfound, h⟩ := bind_eq_ok.mp h
  obtain rfl : found = some consent := Except.ok.inj (hfound.symm.trans hread)
  have happroved : (ConsentState.all.find? fun t => t.name = a.target) = some .approved := by
    rw [htarget]
    rfl
  simp only [happroved] at h
  obtain ⟨_, -, h⟩ := bind_eq_ok.mp h
  have hother : consent.state ≠ .approved := by
    rw [hrequested]
    decide
  rw [if_neg hother] at h
  obtain ⟨_, -, h⟩ := bind_eq_ok.mp h
  obtain ⟨_, -, h⟩ := bind_eq_ok.mp h
  obtain ⟨_, htimely, h⟩ := bind_eq_ok.mp h
  obtain ⟨_, -, h⟩ := bind_eq_ok.mp h
  obtain ⟨after, hafter, h⟩ := bind_eq_ok.mp h
  cases h
  refine ⟨?_, hafter, ?_, rfl⟩
  · unfold consentTimely at htimely
    rw [if_neg (by decide)] at htimely
    dsimp only at htimely
    have hdecision : ConsentState.approved.isDecision = true := rfl
    rw [if_pos hdecision] at htimely
    obtain ⟨timely, hbefore, hpassed⟩ := bind_eq_ok.mp htimely
    exact check_eq_ok.mp hpassed ▸ hbefore
  · have hrow := (consent_ok hafter).1
    rw [Table.get?_modify, if_pos rfl, (consent_ok hread).1] at hrow
    exact (Option.some.inj hrow).symm

end AutocadMcp.Approval
