import AutocadMcp.Lib.Machine
import AutocadMcp.Approval.Repository

/-!
# Single use

Released intents and consumed consents are final, a release creates its job and
takes the write lock in the transaction that consumes its consent, and the same call
again finds what the first one made.
-/

namespace AutocadMcp.Approval

open Gateway (Failure conflict JobState isActive)

section

variable {C : Codec}

/-! ## What the operations do -/

theorem createIntent_ok {s s' : Store} {r : ExecutionIntentRecord}
    {out : ExecutionIntentRecord × Bool} (h : createIntent C s r = .ok (out, s')) :
    s' = s ∨ (r.state ≠ .released ∧ ∃ intents, s.intents.insert r = some intents ∧
      s' = { s with intents := intents }) := by
  obtain ⟨_, -, h⟩ := bind_eq_ok.mp h
  obtain ⟨_, hstate, h⟩ := bind_eq_ok.mp h
  obtain ⟨_, -, h⟩ := bind_eq_ok.mp h
  obtain ⟨_, -, h⟩ := bind_eq_ok.mp h
  cases hinsert : s.insertIntent r with
  | ok inserted =>
      rw [hinsert] at h
      cases h
      refine Or.inr ⟨?_, ?_⟩
      · intro hreleased
        have hmem := (check_eq_ok.mp hstate).1
        rw [hreleased] at hmem
        simp at hmem
      · unfold Store.insertIntent at hinsert
        split at hinsert
        · cases hinsert
        · split at hinsert
          · rename_i intents hrow
            cases hinsert
            exact ⟨intents, hrow, rfl⟩
          · cases hinsert
  | error e =>
      rw [hinsert] at h
      obtain ⟨found, -, h⟩ := bind_eq_ok.mp h
      cases found with
      | none => cases h
      | some existing =>
          obtain ⟨_, -, h⟩ := bind_eq_ok.mp h
          cases h
          exact Or.inl rfl

theorem insertConsent_ok {s s' : Store} {r : ConsentRecord} (h : s.insertConsent r = .ok s') :
    ∃ consents, s.consents.insert r = some consents ∧ s' = { s with consents := consents } := by
  unfold Store.insertConsent at h
  split at h
  · cases h
  · split at h
    · rename_i consents hrow
      cases h
      exact ⟨consents, hrow, rfl⟩
    · cases h

theorem bindConsent_ok {s s' : Store} {r : ConsentRecord} (h : s.bindConsent r = .ok s') :
    s' = s ∨ ∃ b bindings, s.consentBindings.insert b = some bindings ∧
      s' = { s with consentBindings := bindings } := by
  unfold Store.bindConsent at h
  split at h
  · cases h
    exact Or.inl rfl
  · split at h
    · rename_i bindings hrow
      cases h
      exact Or.inr ⟨_, bindings, hrow, rfl⟩
    · cases h

theorem createConsent_ok {s s' : Store} {r : ConsentRecord} {out : ConsentRecord × Bool}
    (h : createConsent C s r = .ok (out, s')) :
    s' = s ∨ (r.state = .requested ∧ ∃ consents, s.consents.insert r = some consents ∧
      Store.bindConsent { s with consents := consents } r = .ok s') := by
  obtain ⟨_, -, h⟩ := bind_eq_ok.mp h
  obtain ⟨_, hstate, h⟩ := bind_eq_ok.mp h
  obtain ⟨_, -, h⟩ := bind_eq_ok.mp h
  obtain ⟨_, -, h⟩ := bind_eq_ok.mp h
  obtain ⟨_, -, h⟩ := bind_eq_ok.mp h
  cases hinsert : s.insertConsent r with
  | ok inserted =>
      rw [hinsert] at h
      obtain ⟨bound, hbound, h⟩ := bind_eq_ok.mp h
      cases h
      obtain ⟨consents, hrow, rfl⟩ := insertConsent_ok hinsert
      exact Or.inr ⟨(check_eq_ok.mp hstate).1, consents, hrow, hbound⟩
  | error e =>
      rw [hinsert] at h
      obtain ⟨found, -, h⟩ := bind_eq_ok.mp h
      cases found with
      | none => cases h
      | some existing =>
          obtain ⟨_, -, h⟩ := bind_eq_ok.mp h
          cases h
          exact Or.inl rfl

theorem intent_ok {s : Store} {owner intentId : String} {r : ExecutionIntentRecord}
    (h : s.intent C owner intentId = .ok (some r)) :
    s.intents.get? intentId = some r ∧ r.ownerSubject = owner ∧ r.validate C = .ok () := by
  unfold Store.intent at h
  split at h
  · cases h
  · rename_i row hrow
    obtain ⟨_, hvalid, h⟩ := bind_eq_ok.mp h
    cases h
    have hfilter := Option.filter_eq_some_iff.mp hrow
    exact ⟨hfilter.1, by simpa using hfilter.2, hvalid⟩

theorem intent_of_row {s : Store} {r : ExecutionIntentRecord}
    (hrow : s.intents.get? r.intentId = some r) (hvalid : r.validate C = .ok ()) :
    s.intent C r.ownerSubject r.intentId = .ok (some r) := by
  have hfilter : (s.intents.get? r.intentId).filter (fun x => x.ownerSubject = r.ownerSubject) =
      some r := by
    rw [hrow]
    simp
  unfold Store.intent
  rw [hfilter]
  simp only [hvalid]
  rfl

theorem consent_ok {s : Store} {owner consentId : String} {r : ConsentRecord}
    (h : s.consent C owner consentId = .ok (some r)) :
    s.consents.get? consentId = some r ∧ r.ownerSubject = owner := by
  unfold Store.consent at h
  split at h
  · cases h
  · rename_i row hrow
    obtain ⟨_, -, h⟩ := bind_eq_ok.mp h
    cases h
    have hfilter := Option.filter_eq_some_iff.mp hrow
    exact ⟨hfilter.1, by simpa using hfilter.2⟩

/-- No state that can be left is final. -/
theorem IntentState.not_released {state target : IntentState} (h : target ∈ state.transitions) :
    state ≠ .released ∧ target ≠ .released := by
  cases state <;> cases target <;> simp_all [IntentState.transitions]

theorem ConsentState.not_consumed {state target : ConsentState} (h : target ∈ state.transitions) :
    state ≠ .consumed ∧ target ≠ .consumed := by
  cases state <;> cases target <;> simp_all [ConsentState.transitions]

theorem transitionIntent_ok {s s' : Store} {a : TransitionIntent}
    {out : Option ExecutionIntentRecord} (h : transitionIntent C s a = .ok (out, s')) :
    s' = s ∨ ∃ current target, s.intents.get? a.intentId = some current ∧
      target ∈ current.state.transitions ∧
      s' = { s with intents := s.intents.modify a.intentId (a.set target) (a.set_intentId target) } := by
  obtain ⟨_, -, h⟩ := bind_eq_ok.mp h
  obtain ⟨_, -, h⟩ := bind_eq_ok.mp h
  obtain ⟨found, hfound, h⟩ := bind_eq_ok.mp h
  cases found with
  | none =>
      cases h
      exact Or.inl rfl
  | some current =>
      have hrow := (intent_ok hfound).1
      by_cases hsame : current.state.name = a.target
      · simp only [if_pos hsame] at h
        obtain ⟨_, -, h⟩ := bind_eq_ok.mp h
        cases h
        exact Or.inl rfl
      · simp only [if_neg hsame] at h
        cases htarget : current.state.transitions.find? fun t => t.name = a.target with
        | none =>
            rw [htarget] at h
            cases h
        | some target =>
            rw [htarget] at h
            obtain ⟨_, -, h⟩ := bind_eq_ok.mp h
            obtain ⟨_, -, h⟩ := bind_eq_ok.mp h
            cases h
            exact Or.inr ⟨current, target, hrow, List.mem_of_find?_eq_some htarget, rfl⟩

theorem transitionConsent_ok {s s' : Store} {a : TransitionConsent} {out : Option ConsentRecord}
    (h : transitionConsent C s a = .ok (out, s')) :
    s' = s ∨ ∃ current target, s.consents.get? a.consentId = some current ∧
      target ∈ current.state.transitions ∧ s' = { s with
        consents := s.consents.modify a.consentId (a.candidate target)
          (a.candidate_consentId target) } := by
  obtain ⟨_, -, h⟩ := bind_eq_ok.mp h
  obtain ⟨_, -, h⟩ := bind_eq_ok.mp h
  obtain ⟨found, hfound, h⟩ := bind_eq_ok.mp h
  cases found with
  | none =>
      cases h
      exact Or.inl rfl
  | some current =>
      have hrow := (consent_ok hfound).1
      cases htarget : ConsentState.all.find? fun t => t.name = a.target with
      | none =>
          rw [htarget] at h
          cases h
      | some target =>
          simp only [htarget] at h
          obtain ⟨_, -, h⟩ := bind_eq_ok.mp h
          by_cases hsame : current.state = target
          · simp only [if_pos hsame] at h
            obtain ⟨_, -, h⟩ := bind_eq_ok.mp h
            obtain ⟨_, -, h⟩ := bind_eq_ok.mp h
            cases h
            exact Or.inl rfl
          · simp only [if_neg hsame] at h
            obtain ⟨_, hedge, h⟩ := bind_eq_ok.mp h
            obtain ⟨_, -, h⟩ := bind_eq_ok.mp h
            obtain ⟨_, -, h⟩ := bind_eq_ok.mp h
            obtain ⟨_, -, h⟩ := bind_eq_ok.mp h
            obtain ⟨_, -, h⟩ := bind_eq_ok.mp h
            cases h
            exact Or.inr ⟨current, target, hrow, check_eq_ok.mp hedge, rfl⟩

/-! ## What a release does -/

theorem recordPhase8ReleaseUsage_ok {s s' : Store} {usageEventId owner intentId jobId at_ : String}
    (h : s.recordPhase8ReleaseUsage usageEventId owner intentId jobId at_ = .ok s') :
    ∃ usageEvents, s' = { s with usageEvents := usageEvents } ∧
      (usageEvents = s.usageEvents ∨ ∃ u, s.usageEvents.insert u = some usageEvents) ∧
      ∀ b, s.intentBinding owner intentId = some b → ∃ u, (usageEvents.rows.find? fun u =>
        u.planId = b.planId ∧ u.state = "released" ∧ u.externalId = jobId) = some u ∧
          u.ownerSubject = owner ∧ u.bindingDigest = b.bindingDigest := by
  unfold Store.recordPhase8ReleaseUsage at h
  cases hbinding : s.intentBinding owner intentId with
  | none =>
      rw [hbinding] at h
      cases h
      exact ⟨s.usageEvents, rfl, Or.inl rfl, nofun⟩
  | some b =>
      simp only [hbinding] at h
      cases hfind : s.usageEvents.rows.find? fun u =>
          u.planId = b.planId ∧ u.state = "released" ∧ u.externalId = jobId with
      | some u =>
          simp only [hfind] at h
          obtain ⟨_, hsame, h⟩ := bind_eq_ok.mp h
          cases h
          refine ⟨s.usageEvents, rfl, Or.inl rfl, ?_⟩
          rintro _ ⟨⟩
          exact ⟨u, hfind, check_eq_ok.mp hsame⟩
      | none =>
          simp only [hfind] at h
          split at h
          · rename_i usageEvents hinsert
            cases h
            refine ⟨usageEvents, rfl, Or.inr ⟨_, hinsert⟩, ?_⟩
            rintro _ ⟨⟩
            refine ⟨⟨usageEventId, owner, b.planId, "released", jobId, b.bindingDigest, at_⟩, ?_,
              rfl, rfl⟩
            rw [(Table.insert_some hinsert).1, List.find?_append, hfind]
            simp
          · cases h

/-- The rows that a release has written. -/
structure Written (a : ReleaseIntent) (s s' : Store) (intent : ExecutionIntentRecord)
    (consent : Option ConsentRecord) (job : JobRow) : Prop where
  intents : s'.intents = s.intents.modify a.intentId a.set a.set_intentId
  consents : s'.consents = (a.consumeConsent s consent).consents
  jobs : s.jobs.insert job = some s'.jobs
  lock : ∃ lock, s'.locks.get? (intent.deviceId, intent.documentId) = some lock ∧
    lock.jobId = a.jobId
  intentBindings : s'.intentBindings = s.intentBindings
  consentBindings : s'.consentBindings = s.consentBindings
  usageEvents : s'.usageEvents = s.usageEvents ∨ ∃ u, s.usageEvents.insert u = some s'.usageEvents
  usage : ∀ b, s.intentBinding a.ownerSubject a.intentId = some b →
    ∃ u, (s'.usageEvents.rows.find? fun u =>
      u.planId = b.planId ∧ u.state = "released" ∧ u.externalId = a.jobId) = some u ∧
        u.ownerSubject = a.ownerSubject ∧ u.bindingDigest = b.bindingDigest

theorem insertJob_ok {a : ReleaseIntent} {s s' : Store} {job : JobRow}
    (h : a.insertJob s job = .ok s') : ∃ jobs events, s.jobs.insert job = some jobs ∧
      s' = { s with jobs := jobs, events := events } := by
  obtain ⟨_, -, h⟩ := bind_eq_ok.mp h
  cases hinsert : s.jobs.insert job with
  | none =>
      rw [hinsert] at h
      cases h
  | some jobs =>
      rw [hinsert] at h
      obtain ⟨_, -, h⟩ := bind_eq_ok.mp h
      cases h
      exact ⟨jobs, _, rfl, rfl⟩

theorem insertLock_ok {a : ReleaseIntent} {s s' : Store} {intent : ExecutionIntentRecord}
    (h : a.insertLock s intent = .ok s') : ∃ locks, s' = { s with locks := locks } ∧
      ∃ lock, locks.get? (intent.deviceId, intent.documentId) = some lock ∧
        lock.jobId = a.jobId := by
  obtain ⟨_, -, h⟩ := bind_eq_ok.mp h
  cases hinsert : s.locks.insert ⟨intent.deviceId, intent.documentId, a.jobId, a.consumedAt⟩ with
  | none =>
      rw [hinsert] at h
      cases h
  | some locks =>
      rw [hinsert] at h
      cases h
      have hown : locks.get? (intent.deviceId, intent.documentId) =
          some ⟨intent.deviceId, intent.documentId, a.jobId, a.consumedAt⟩ :=
        Table.get?_insert_self hinsert
      exact ⟨locks, rfl, _, hown, rfl⟩

theorem release_ok {a : ReleaseIntent} {s s' : Store} {intent : ExecutionIntentRecord}
    {payloadJson fingerprint : String} {released : Released}
    (h : a.release C s intent payloadJson fingerprint = .ok (released, s')) :
    ∃ consent, a.checkIntent C intent = .ok () ∧ a.requireConsent C s intent = .ok consent ∧
      (∀ r ∈ s.jobs.rows, r.jobId ≠ a.jobId) ∧
      intent.state ∈ [.awaitingApproval, .ready] ∧
      (∀ r ∈ s.intents.rows, r.intentId = a.intentId ∨ r.releasedJobId ≠ some a.jobId) ∧
      Written a s s' intent consent (a.job intent.deviceId payloadJson fingerprint) ∧
      s'.intent C a.ownerSubject a.intentId = .ok (some released.intent) ∧
      released.job = a.job intent.deviceId payloadJson fingerprint := by
  obtain ⟨_, hintent, h⟩ := bind_eq_ok.mp h
  obtain ⟨consent, hconsent, h⟩ := bind_eq_ok.mp h
  obtain ⟨_, hfresh, h⟩ := bind_eq_ok.mp h
  obtain ⟨_, -, h⟩ := bind_eq_ok.mp h
  obtain ⟨s₁, hjob, h⟩ := bind_eq_ok.mp h
  obtain ⟨s₂, hlock, h⟩ := bind_eq_ok.mp h
  obtain ⟨s₃, hupdate, h⟩ := bind_eq_ok.mp h
  obtain ⟨s₄, husage, h⟩ := bind_eq_ok.mp h
  obtain ⟨found, hfound, h⟩ := bind_eq_ok.mp h
  obtain ⟨jobs, events, hjobs, rfl⟩ := insertJob_ok hjob
  obtain ⟨locks, rfl, hlocked⟩ := insertLock_ok hlock
  obtain ⟨_, hopen, hupdate⟩ := bind_eq_ok.mp hupdate
  obtain ⟨_, hsole, hupdate⟩ := bind_eq_ok.mp hupdate
  cases hupdate
  obtain ⟨usageEvents, rfl, hevents, hused⟩ := recordPhase8ReleaseUsage_ok husage
  have hrows : ∀ r ∈ s.jobs.rows, r.jobId ≠ a.jobId := by
    intro r hr
    have := List.all_eq_true.mp (check_eq_ok.mp hfresh) r hr
    exact (of_decide_eq_true this).1
  have hsoleRows : ∀ r ∈ s.intents.rows,
      r.intentId = a.intentId ∨ r.releasedJobId ≠ some a.jobId := by
    cases consent <;> exact fun r hr => by
      simpa using List.all_eq_true.mp (check_eq_ok.mp hsole) r hr
  cases found with
  | none => cases h
  | some after =>
      cases h
      refine ⟨consent, hintent, hconsent, hrows, check_eq_ok.mp hopen, hsoleRows, ?_, hfound, rfl⟩
      cases consent <;> exact ⟨rfl, rfl, hjobs, hlocked, rfl, rfl, hevents, hused⟩

/-- What a release of an intent that was not released writes and has checked. -/
structure Releases (C : Codec) (s s' : Store) (a : ReleaseIntent)
    (intent : ExecutionIntentRecord) : Prop where
  was : s.intents.get? a.intentId = some intent
  unreleased : intent.state ≠ .released
  becomes : s'.intents.get? a.intentId = some (a.set intent)
  /-- The job is new, and no other intent is bound to it. -/
  fresh : s.jobs.get? a.jobId = none
  job : ∃ row, s'.jobs.get? a.jobId = some row ∧ row.state = .queued ∧
    row.ownerSubject = intent.ownerSubject ∧ row.deviceId = intent.deviceId
  sole : ∀ id r, s'.intents.get? id = some r → r.releasedJobId = some a.jobId → id = a.intentId
  locked : ∃ lock, s'.locks.get? (intent.deviceId, intent.documentId) = some lock ∧
    lock.jobId = a.jobId
  intentTimely : before C a.consumedAt intent.expiresAt = .ok true
  previewTimely : before C a.consumedAt intent.previewExpiresAt = .ok true

/-- What a release writes of the consent that it consumes, and has checked of it. -/
structure Consumes (C : Codec) (s s' : Store) (a : ReleaseIntent) (intent : ExecutionIntentRecord)
    (consent : ConsentRecord) : Prop where
  named : a.consentId = some consent.consentId
  was : s.consents.get? consent.consentId = some consent
  approved : consent.state = .approved
  becomes : s'.consents.get? consent.consentId = some (a.consume consent)
  own : consent.intentId = intent.intentId
  version : consent.intentVersion = intent.intentVersion
  digest : consent.intentDigest = intent.intentDigest
  assurance : consent.requiredAssurance = intent.requiredAssurance
  timely : before C a.consumedAt consent.expiresAt = .ok true

theorem checkIntent_ok {a : ReleaseIntent} {intent : ExecutionIntentRecord} {u : Unit}
    (h : a.checkIntent C intent = .ok u) : before C a.consumedAt intent.expiresAt = .ok true ∧
      before C a.consumedAt intent.previewExpiresAt = .ok true := by
  obtain ⟨_, -, h⟩ := bind_eq_ok.mp h
  obtain ⟨timely, hintent, h⟩ := bind_eq_ok.mp h
  obtain ⟨_, hpassed, h⟩ := bind_eq_ok.mp h
  obtain ⟨previewTimely, hpreview, h⟩ := bind_eq_ok.mp h
  obtain ⟨_, hpassed', h⟩ := bind_eq_ok.mp h
  rw [check_eq_ok] at hpassed hpassed'
  exact ⟨hpassed ▸ hintent, hpassed' ▸ hpreview⟩

/-- A release goes without a consent where the intent requires no assurance, and only there. -/
theorem requireConsent_ok {a : ReleaseIntent} {s s' : Store} {intent : ExecutionIntentRecord}
    {consent : Option ConsentRecord} (h : a.requireConsent C s intent = .ok consent)
    (hconsents : s'.consents = (a.consumeConsent s consent).consents) :
    (intent.requiredAssurance = .none ∧ a.consentId = none ∧ consent = none) ∨
      (intent.requiredAssurance ≠ .none ∧
        ∃ used, consent = some used ∧ Consumes C s s' a intent used) := by
  unfold ReleaseIntent.requireConsent at h
  by_cases hnone : intent.requiredAssurance = .none
  · rw [if_pos hnone] at h
    obtain ⟨_, hcheck, h⟩ := bind_eq_ok.mp h
    cases h
    exact Or.inl ⟨hnone, (check_eq_ok.mp hcheck).1, rfl⟩
  · rw [if_neg hnone] at h
    obtain ⟨_, hgiven, h⟩ := bind_eq_ok.mp h
    obtain ⟨found, hfound, h⟩ := bind_eq_ok.mp h
    cases found with
    | none => cases h
    | some used =>
        obtain ⟨_, hbound, h⟩ := bind_eq_ok.mp h
        obtain ⟨_, happroved, h⟩ := bind_eq_ok.mp h
        obtain ⟨_, -, h⟩ := bind_eq_ok.mp h
        obtain ⟨timely, htimely, h⟩ := bind_eq_ok.mp h
        obtain ⟨_, hpassed, h⟩ := bind_eq_ok.mp h
        cases h
        rw [check_eq_ok] at hbound happroved hpassed
        obtain ⟨hintent, hversion, hdigest, hassurance⟩ := hbound
        obtain ⟨consentId, hid⟩ := Option.isSome_iff_exists.mp (check_eq_ok.mp hgiven).1
        rw [hid] at hfound
        have hrow := (consent_ok hfound).1
        have hkey := (Table.get?_some hrow).2
        refine Or.inr ⟨hnone, used, rfl, ?_⟩
        refine ⟨hkey ▸ hid, hkey ▸ hrow, happroved, ?_, hintent, hversion, hdigest, hassurance,
          hpassed ▸ htimely⟩
        rw [hconsents, ReleaseIntent.consumeConsent, Table.get?_modify, if_pos rfl, hkey, hrow]
        rfl

theorem Written.releases {a : ReleaseIntent} {s s' : Store} {intent : ExecutionIntentRecord}
    {consent : Option ConsentRecord} {payloadJson fingerprint : String}
    (hw : Written a s s' intent consent (a.job intent.deviceId payloadJson fingerprint))
    (hrow : s.intents.get? a.intentId = some intent) (howner : intent.ownerSubject = a.ownerSubject)
    (hcheck : a.checkIntent C intent = .ok ())
    (hopen : intent.state ∈ [IntentState.awaitingApproval, .ready])
    (hsole : ∀ r ∈ s.intents.rows, r.intentId = a.intentId ∨ r.releasedJobId ≠ some a.jobId) :
    Releases C s s' a intent where
  was := hrow
  unreleased := by
    intro h
    rw [h] at hopen
    simp at hopen
  becomes := by
    rw [hw.intents, Table.get?_modify, if_pos rfl, hrow]
    rfl
  fresh := (Table.insert_some hw.jobs).2
  job := ⟨_, Table.get?_insert_self hw.jobs, rfl, howner.symm, rfl⟩
  sole := by
    intro id r hr hjob
    rw [hw.intents, Table.get?_modify] at hr
    by_cases hid : id = a.intentId
    · exact hid
    · rw [if_neg hid] at hr
      obtain ⟨hmem, hkey⟩ := Table.get?_some hr
      rcases hsole r hmem with h | h
      · exact hkey ▸ h
      · exact absurd hjob h
  locked := hw.lock
  intentTimely := (checkIntent_ok hcheck).1
  previewTimely := (checkIntent_ok hcheck).2

/-- A call to release an intent finds none, replays the release of one, or releases it. -/
theorem releaseIntent_ok {a : ReleaseIntent} {s s' : Store} {out : Option Released}
    (h : releaseIntent C s a = .ok (out, s')) :
    (out = none ∧ s' = s) ∨ ∃ payloadJson fingerprint intent released,
      a.prepare C = .ok (payloadJson, fingerprint) ∧
      s.intent C a.ownerSubject a.intentId = .ok (some intent) ∧
      a.requireBindings s intent = .ok () ∧ out = some released ∧
      a.settle C s intent payloadJson fingerprint = .ok (released, s') := by
  obtain ⟨⟨payloadJson, fingerprint⟩, hprepare, h⟩ := bind_eq_ok.mp h
  obtain ⟨found, hfound, h⟩ := bind_eq_ok.mp h
  cases found with
  | none =>
      cases h
      exact Or.inl ⟨rfl, rfl⟩
  | some intent =>
      obtain ⟨_, hbindings, h⟩ := bind_eq_ok.mp h
      obtain ⟨⟨released, after⟩, hsettle, h⟩ := bind_eq_ok.mp h
      cases h
      exact Or.inr ⟨payloadJson, fingerprint, intent, released, hprepare, hfound, hbindings, rfl,
        hsettle⟩

theorem replay_ok {a : ReleaseIntent} {s s' : Store} {intent : ExecutionIntentRecord}
    {payloadJson fingerprint : String} {released : Released}
    (h : a.replay s intent payloadJson fingerprint = .ok (released, s')) :
    intent.releasedJobId = some a.jobId ∧ intent.consentId = a.consentId ∧
      s.job a.ownerSubject a.jobId = some released.job ∧ released.intent = intent ∧
      a.sameJobMaterial intent.deviceId payloadJson fingerprint released.job = true ∧
      s.recordPhase8ReleaseUsage a.usageEventId a.ownerSubject a.intentId a.jobId
        released.job.createdAt = .ok s' := by
  obtain ⟨_, hbound, h⟩ := bind_eq_ok.mp h
  cases hjob : s.job a.ownerSubject a.jobId with
  | none =>
      simp only [hjob] at h
      cases h
  | some job =>
      simp only [hjob] at h
      obtain ⟨_, hsame, h⟩ := bind_eq_ok.mp h
      obtain ⟨after, husage, h⟩ := bind_eq_ok.mp h
      cases h
      exact ⟨(check_eq_ok.mp hbound).1, (check_eq_ok.mp hbound).2, rfl, rfl, check_eq_ok.mp hsame,
        husage⟩

/-! ## What stays -/

/-- What no call takes back. -/
structure Grows (s s' : Store) : Prop where
  released : ∀ id r, s.intents.get? id = some r → r.state = .released → s'.intents.get? id = some r
  consumed : ∀ id r, s.consents.get? id = some r → r.state = .consumed →
    s'.consents.get? id = some r
  jobs : ∀ id r, s.jobs.get? id = some r → s'.jobs.get? id = some r
  intentBindings : s'.intentBindings = s.intentBindings
  consentBindings : ∀ id b, s.consentBindings.get? id = some b →
    s'.consentBindings.get? id = some b
  usageEvents : ∀ (p : UsageEvent → Bool) u, s.usageEvents.rows.find? p = some u →
    s'.usageEvents.rows.find? p = some u

theorem Grows.refl (s : Store) : Grows s s :=
  ⟨fun _ _ h _ => h, fun _ _ h _ => h, fun _ _ h => h, rfl, fun _ _ h => h, fun _ _ h => h⟩

theorem Grows.trans {s t u : Store} (h : Grows s t) (h' : Grows t u) : Grows s u where
  released id r hr hstate := h'.released id r (h.released id r hr hstate) hstate
  consumed id r hr hstate := h'.consumed id r (h.consumed id r hr hstate) hstate
  jobs id r hr := h'.jobs id r (h.jobs id r hr)
  intentBindings := h'.intentBindings.trans h.intentBindings
  consentBindings id b hb := h'.consentBindings id b (h.consentBindings id b hb)
  usageEvents p u hu := h'.usageEvents p u (h.usageEvents p u hu)

theorem usageEvents_grow {t t' : Table UsageEvent.usageEventId}
    (h : t' = t ∨ ∃ u, t.insert u = some t') (p : UsageEvent → Bool) (u : UsageEvent)
    (hu : t.rows.find? p = some u) : t'.rows.find? p = some u := by
  rcases h with rfl | ⟨added, hinsert⟩
  · exact hu
  · rw [(Table.insert_some hinsert).1, List.find?_append, hu]
    rfl

theorem recordPhase8ReleaseUsage_grows {s s' : Store}
    {usageEventId owner intentId jobId at_ : String}
    (h : s.recordPhase8ReleaseUsage usageEventId owner intentId jobId at_ = .ok s') :
    Grows s s' := by
  obtain ⟨usageEvents, rfl, hgrow, -⟩ := recordPhase8ReleaseUsage_ok h
  exact ⟨fun _ _ h _ => h, fun _ _ h _ => h, fun _ _ h => h, rfl, fun _ _ h => h,
    usageEvents_grow hgrow⟩

theorem createIntent_grows {s s' : Store} {r : ExecutionIntentRecord}
    {out : ExecutionIntentRecord × Bool} (h : createIntent C s r = .ok (out, s')) :
    Grows s s' := by
  rcases createIntent_ok h with rfl | ⟨-, intents, hinsert, rfl⟩
  · exact Grows.refl _
  · exact ⟨fun _ _ hr _ => Table.get?_insert_of_some hinsert hr, fun _ _ h _ => h, fun _ _ h => h,
      rfl, fun _ _ h => h, fun _ _ h => h⟩

theorem createConsent_grows {s s' : Store} {r : ConsentRecord} {out : ConsentRecord × Bool}
    (h : createConsent C s r = .ok (out, s')) : Grows s s' := by
  rcases createConsent_ok h with rfl | ⟨-, consents, hinsert, hbind⟩
  · exact Grows.refl _
  · rcases bindConsent_ok hbind with rfl | ⟨b, bindings, hbinding, rfl⟩
    · exact ⟨fun _ _ h _ => h, fun _ _ hr _ => Table.get?_insert_of_some hinsert hr, fun _ _ h => h,
        rfl, fun _ _ h => h, fun _ _ h => h⟩
    · exact ⟨fun _ _ h _ => h, fun _ _ hr _ => Table.get?_insert_of_some hinsert hr, fun _ _ h => h,
        rfl, fun _ _ h => Table.get?_insert_of_some hbinding h, fun _ _ h => h⟩

theorem transitionIntent_grows {s s' : Store} {a : TransitionIntent}
    {out : Option ExecutionIntentRecord} (h : transitionIntent C s a = .ok (out, s')) :
    Grows s s' := by
  rcases transitionIntent_ok h with rfl | ⟨current, target, hrow, hedge, rfl⟩
  · exact Grows.refl _
  · have hstate := (IntentState.not_released hedge).1
    exact ⟨fun _ _ => Table.get?_modify_keeps (·.state = .released) hrow hstate (a.set target)
        (a.set_intentId target), fun _ _ h _ => h, fun _ _ h => h, rfl, fun _ _ h => h,
      fun _ _ h => h⟩

theorem transitionConsent_grows {s s' : Store} {a : TransitionConsent}
    {out : Option ConsentRecord} (h : transitionConsent C s a = .ok (out, s')) :
    Grows s s' := by
  rcases transitionConsent_ok h with rfl | ⟨current, target, hrow, hedge, rfl⟩
  · exact Grows.refl _
  · have hstate := (ConsentState.not_consumed hedge).1
    exact ⟨fun _ _ h _ => h, fun _ _ => Table.get?_modify_keeps (·.state = .consumed) hrow hstate
        (a.candidate target) (a.candidate_consentId target), fun _ _ h => h, rfl, fun _ _ h => h,
      fun _ _ h => h⟩

/-- The consent that a release uses is not consumed, so consumed ones stay. -/
theorem Written.grows {a : ReleaseIntent} {s s' : Store} {intent : ExecutionIntentRecord}
    {consent : Option ConsentRecord} {job : JobRow} (hw : Written a s s' intent consent job)
    (hrow : s.intents.get? a.intentId = some intent) (hstate : intent.state ≠ .released)
    (hconsent : ∀ used, consent = some used →
      s.consents.get? used.consentId = some used ∧ used.state = .approved) : Grows s s' where
  released _ _ hr hreleased := by
    rw [hw.intents]
    exact Table.get?_modify_keeps (·.state = .released) hrow hstate a.set a.set_intentId hr
      hreleased
  consumed _ _ hr hconsumed := by
    rw [hw.consents]
    cases consent with
    | none => exact hr
    | some used =>
        obtain ⟨hused, happroved⟩ := hconsent used rfl
        have hnot : used.state ≠ .consumed := by
          rw [happroved]
          decide
        exact Table.get?_modify_keeps (·.state = .consumed) hused hnot a.consume
          a.consume_consentId hr hconsumed
  jobs _ _ hr := Table.get?_insert_of_some hw.jobs hr
  intentBindings := hw.intentBindings
  consentBindings _ _ hb := by
    rw [hw.consentBindings]
    exact hb
  usageEvents := usageEvents_grow hw.usageEvents

/-! ## One call -/

/-- What a release has done, whether in this call or before. -/
theorem releaseIntent_steps {a : ReleaseIntent} {s s' : Store} {out : Option Released}
    (h : releaseIntent C s a = .ok (out, s')) :
    Grows s s' ∧ ((s'.intents = s.intents ∧ s'.consents = s.consents) ∨
      ∃ intent consent, Releases C s s' a intent ∧
        s'.intents = s.intents.modify a.intentId a.set a.set_intentId ∧
        s'.consents = (a.consumeConsent s consent).consents ∧
        ((intent.requiredAssurance = .none ∧ a.consentId = none ∧ consent = none) ∨
          (intent.requiredAssurance ≠ .none ∧
            ∃ used, consent = some used ∧ Consumes C s s' a intent used))) := by
  rcases releaseIntent_ok h with ⟨-, rfl⟩ | ⟨payloadJson, fingerprint, intent, released, -, hfound,
    -, -, hsettle⟩
  · exact ⟨Grows.refl _, Or.inl ⟨rfl, rfl⟩⟩
  · unfold ReleaseIntent.settle at hsettle
    split at hsettle
    · obtain ⟨-, -, -, -, -, husage⟩ := replay_ok hsettle
      obtain ⟨usageEvents, rfl, -⟩ := recordPhase8ReleaseUsage_ok husage
      exact ⟨recordPhase8ReleaseUsage_grows husage, Or.inl ⟨rfl, rfl⟩⟩
    · rename_i hstate
      obtain ⟨hrow, howner, -⟩ := intent_ok hfound
      obtain ⟨consent, hcheck, hrequire, -, hopen, hsole, hw, -⟩ := release_ok hsettle
      have hconsent := requireConsent_ok hrequire hw.consents
      refine ⟨hw.grows hrow hstate ?_, Or.inr ⟨intent, consent,
        hw.releases hrow howner hcheck hopen hsole, hw.intents, hw.consents, hconsent⟩⟩
      rintro used rfl
      rcases hconsent with ⟨-, -, hnone⟩ | ⟨-, used', hused, hconsumes⟩
      · cases hnone
      · cases hused
        exact ⟨hconsumes.was, hconsumes.approved⟩

theorem map_eq_ok {ε α β : Type} {f : α → β} {x : Except ε α} {b : β} (h : x.map f = .ok b) :
    ∃ a, x = .ok a ∧ f a = b := by
  cases x with
  | error e => cases h
  | ok a =>
      cases h
      exact ⟨a, rfl, rfl⟩

theorem run_grows {s s' : Store} {c : Call} {u : Unit} (h : c.run C s = .ok (u, s')) :
    Grows s s' := by
  cases c <;> obtain ⟨⟨out, after⟩, hrun, heq⟩ := map_eq_ok h <;> cases heq
  case createIntent => exact createIntent_grows hrun
  case createConsent => exact createConsent_grows hrun
  case transitionIntent => exact transitionIntent_grows hrun
  case transitionConsent => exact transitionConsent_grows hrun
  case releaseIntent => exact (releaseIntent_steps hrun).1

theorem callStep_grows (s : Store) (c : Call) : Grows s (callStep C s c) := by
  refine committed_rec (P := Grows s) (Grows.refl s) ?_
  intro _ s' h
  exact run_grows h

theorem runFrom_grows (s : Store) (cs : List Call) : Grows s (runFrom (callStep C) s cs) :=
  runFrom_relates Grows Grows.refl (fun _ _ _ => Grows.trans) callStep_grows s cs

def Store.isReleased (s : Store) (id : String) : Bool :=
  (s.intents.get? id).any fun r => r.state = .released

def Store.isConsumed (s : Store) (id : String) : Bool :=
  (s.consents.get? id).any fun r => r.state = .consumed

theorem bindConsent_rows {s s' : Store} {r : ConsentRecord} (h : s.bindConsent r = .ok s') :
    s'.intents = s.intents ∧ s'.consents = s.consents := by
  rcases bindConsent_ok h with rfl | ⟨_, _, -, rfl⟩ <;> exact ⟨rfl, rfl⟩

/-- Only a release makes an intent released or a consent consumed. -/
theorem run_rows {s s' : Store} {c : Call} {u : Unit} (h : c.run C s = .ok (u, s')) :
    (∃ a, c = .releaseIntent a) ∨
      ((∀ id, s'.isReleased id = true → s.isReleased id = true) ∧
        ∀ id, s'.isConsumed id = true → s.isConsumed id = true) := by
  cases c <;> obtain ⟨⟨out, after⟩, hrun, heq⟩ := map_eq_ok h <;> cases heq
  case createIntent r =>
    right
    rcases createIntent_ok hrun with rfl | ⟨hstate, intents, hinsert, rfl⟩
    · exact ⟨fun _ h => h, fun _ h => h⟩
    · exact ⟨fun _ => Table.any_get?_insert hinsert (by simp [hstate]), fun _ h => h⟩
  case createConsent r =>
    right
    rcases createConsent_ok hrun with rfl | ⟨hstate, consents, hinsert, hbind⟩
    · exact ⟨fun _ h => h, fun _ h => h⟩
    · obtain ⟨hintents, hconsents⟩ := bindConsent_rows hbind
      constructor
      · intro id hid
        rw [Store.isReleased, hintents] at hid
        exact hid
      · intro id hid
        rw [Store.isConsumed, hconsents] at hid
        exact Table.any_get?_insert hinsert (by simp [hstate]) hid
  case transitionIntent a =>
    right
    rcases transitionIntent_ok hrun with rfl | ⟨current, target, -, hedge, rfl⟩
    · exact ⟨fun _ h => h, fun _ h => h⟩
    · have htarget := (IntentState.not_released hedge).2
      have hset : ∀ r, decide ((a.set target r).state = .released) = false := fun _ =>
        decide_eq_false htarget
      exact ⟨fun _ => Table.any_get?_modify (a.set_intentId target) hset, fun _ h => h⟩
  case transitionConsent a =>
    right
    rcases transitionConsent_ok hrun with rfl | ⟨current, target, -, hedge, rfl⟩
    · exact ⟨fun _ h => h, fun _ h => h⟩
    · have htarget := (ConsentState.not_consumed hedge).2
      have hset : ∀ r, decide ((a.candidate target r).state = .consumed) = false := fun _ =>
        decide_eq_false htarget
      exact ⟨fun _ h => h, fun _ => Table.any_get?_modify (a.candidate_consentId target) hset⟩
  case releaseIntent a => exact Or.inl ⟨a, rfl⟩

/-- The consent that a release goes with: none where the intent requires no assurance. -/
def Approved (C : Codec) (s s' : Store) (a : ReleaseIntent) (intent : ExecutionIntentRecord) :
    Prop :=
  (intent.requiredAssurance = .none ∧ a.consentId = none) ∨
    ∃ used, Consumes C s s' a intent used

/-- An intent that a call has released was released by that call, with its approval. -/
theorem released_by {s : Store} {c : Call} {id : String}
    (hafter : (callStep C s c).isReleased id = true) (hbefore : s.isReleased id = false) :
    ∃ a intent, c = .releaseIntent a ∧ a.intentId = id ∧
      Releases C s (callStep C s c) a intent ∧ Approved C s (callStep C s c) a intent := by
  cases hrun : c.run C s with
  | error e =>
      rw [callStep, hrun, committed_error, hbefore] at hafter
      cases hafter
  | ok out =>
      obtain ⟨u, s'⟩ := out
      rw [callStep, hrun, committed_ok] at hafter ⊢
      rcases run_rows hrun with ⟨a, rfl⟩ | ⟨hrows, -⟩
      · obtain ⟨⟨out, after⟩, hrelease, heq⟩ := map_eq_ok hrun
        cases heq
        rcases (releaseIntent_steps hrelease).2 with ⟨hintents, -⟩ |
          ⟨intent, consent, hreleases, hintents, -, happroval⟩
        · rw [Store.isReleased, hintents] at hafter
          exact absurd hafter (by rw [← Store.isReleased, hbefore]; decide)
        · refine ⟨a, intent, rfl, ?_, hreleases, ?_⟩
          · -- the other rows are as they were
            by_contra hne
            rw [Store.isReleased, hintents, Table.get?_modify, if_neg (Ne.symm hne)] at hafter
            exact absurd hafter (by rw [← Store.isReleased, hbefore]; decide)
          · rcases happroval with ⟨hnone, hid, -⟩ | ⟨-, used, -, hconsumes⟩
            · exact Or.inl ⟨hnone, hid⟩
            · exact Or.inr ⟨used, hconsumes⟩
      · exact absurd (hrows id hafter) (by rw [hbefore]; decide)

/-- A consent that a call has consumed was consumed by the release of its own intent. -/
theorem consumed_by {s : Store} {c : Call} {id : String}
    (hafter : (callStep C s c).isConsumed id = true) (hbefore : s.isConsumed id = false) :
    ∃ a intent consent, c = .releaseIntent a ∧ consent.consentId = id ∧
      Releases C s (callStep C s c) a intent ∧
      Consumes C s (callStep C s c) a intent consent := by
  cases hrun : c.run C s with
  | error e =>
      rw [callStep, hrun, committed_error, hbefore] at hafter
      cases hafter
  | ok out =>
      obtain ⟨u, s'⟩ := out
      rw [callStep, hrun, committed_ok] at hafter ⊢
      rcases run_rows hrun with ⟨a, rfl⟩ | ⟨-, hrows⟩
      · obtain ⟨⟨out, after⟩, hrelease, heq⟩ := map_eq_ok hrun
        cases heq
        rcases (releaseIntent_steps hrelease).2 with ⟨-, hconsents⟩ |
          ⟨intent, consent, hreleases, -, hconsents, happroval⟩
        · rw [Store.isConsumed, hconsents] at hafter
          exact absurd hafter (by rw [← Store.isConsumed, hbefore]; decide)
        · rcases happroval with ⟨-, -, rfl⟩ | ⟨-, used, rfl, hconsumes⟩
          · rw [Store.isConsumed, hconsents] at hafter
            exact absurd hafter (by
              rw [ReleaseIntent.consumeConsent, ← Store.isConsumed, hbefore]
              decide)
          · refine ⟨a, intent, used, rfl, ?_, hreleases, hconsumes⟩
            by_contra hne
            rw [Store.isConsumed, hconsents, ReleaseIntent.consumeConsent, Table.get?_modify,
              if_neg (Ne.symm hne)] at hafter
            exact absurd hafter (by rw [← Store.isConsumed, hbefore]; decide)
      · exact absurd (hrows id hafter) (by rw [hbefore]; decide)

/-! ## The same call again -/

theorem Grows.intentBinding {s s' : Store} (h : Grows s s') (owner intentId : String) :
    s'.intentBinding owner intentId = s.intentBinding owner intentId := by
  rw [Store.intentBinding, h.intentBindings, Store.intentBinding]

theorem Grows.consentBinding {s s' : Store} (h : Grows s s') {owner intentId : String}
    {consentId : Option String} {b : ConsentBinding}
    (hb : s.consentBinding owner consentId intentId = some b) :
    s'.consentBinding owner consentId intentId = some b := by
  obtain ⟨hfound, hfits⟩ := Option.filter_eq_some_iff.mp hb
  obtain ⟨id, rfl, hrow⟩ := Option.bind_eq_some_iff.mp hfound
  refine Option.filter_eq_some_iff.mpr ⟨?_, hfits⟩
  exact h.consentBindings id b hrow

/-- What the payload and the consent of a release are bound to does not change. -/
theorem Grows.requireBindings {s s' : Store} (h : Grows s s') {a : ReleaseIntent}
    {intent : ExecutionIntentRecord} (hs : a.requireBindings s intent = .ok ()) :
    a.requireBindings s' intent = .ok () := by
  obtain ⟨_, hkind, hs⟩ := bind_eq_ok.mp hs
  obtain ⟨_, hpayload, hs⟩ := bind_eq_ok.mp hs
  refine bind_eq_ok.mpr ⟨_, hkind, bind_eq_ok.mpr ⟨_, hpayload, ?_⟩⟩
  rw [Store.requirePhase8ReleaseBinding, h.intentBinding]
  rw [Store.requirePhase8ReleaseBinding] at hs
  cases hbinding : s.intentBinding intent.ownerSubject intent.intentId with
  | none =>
      rw [hbinding] at hs
      exact hs
  | some b =>
      simp only [hbinding] at hs ⊢
      obtain ⟨bound, hbound, hs⟩ := bind_eq_ok.mp hs
      obtain ⟨_, hcheck, hs⟩ := bind_eq_ok.mp hs
      refine bind_eq_ok.mpr ⟨bound, hbound, bind_eq_ok.mpr ⟨_, hcheck, ?_⟩⟩
      by_cases hnone : intent.requiredAssurance = .none
      · rw [if_pos hnone] at hs ⊢
        exact hs
      · rw [if_neg hnone, check_eq_ok] at hs
        rw [if_neg hnone, check_eq_ok]
        obtain ⟨c, hc, hdigest⟩ := (Option.any_eq_true _ _).mp hs
        rw [h.consentBinding hc]
        exact hdigest

/-- What a release leaves behind for the same call. -/
structure Settled (C : Codec) (s : Store) (a : ReleaseIntent) (released : Released)
    (payloadJson fingerprint : String) : Prop where
  prepared : a.prepare C = .ok (payloadJson, fingerprint)
  intent : s.intents.get? a.intentId = some released.intent
  owner : released.intent.ownerSubject = a.ownerSubject
  valid : released.intent.validate C = .ok ()
  state : released.intent.state = .released
  bound : released.intent.releasedJobId = some a.jobId ∧ released.intent.consentId = a.consentId
  bindings : a.requireBindings s released.intent = .ok ()
  job : s.jobs.get? a.jobId = some released.job
  jobOwner : released.job.ownerSubject = a.ownerSubject
  same : a.sameJobMaterial released.intent.deviceId payloadJson fingerprint released.job = true
  usage : ∀ b, s.intentBinding a.ownerSubject a.intentId = some b →
    ∃ u, (s.usageEvents.rows.find? fun u =>
      u.planId = b.planId ∧ u.state = "released" ∧ u.externalId = a.jobId) = some u ∧
        u.ownerSubject = a.ownerSubject ∧ u.bindingDigest = b.bindingDigest

theorem Settled.grows {s s' : Store} {a : ReleaseIntent} {released : Released}
    {payloadJson fingerprint : String} (h : Settled C s a released payloadJson fingerprint)
    (hgrows : Grows s s') : Settled C s' a released payloadJson fingerprint where
  prepared := h.prepared
  intent := hgrows.released _ _ h.intent h.state
  owner := h.owner
  valid := h.valid
  state := h.state
  bound := h.bound
  bindings := hgrows.requireBindings h.bindings
  job := hgrows.jobs _ _ h.job
  jobOwner := h.jobOwner
  same := h.same
  usage := by
    intro b hb
    rw [hgrows.intentBinding] at hb
    obtain ⟨u, hfound, hu⟩ := h.usage b hb
    exact ⟨u, hgrows.usageEvents _ u hfound, hu⟩

/-- The same call finds everything as it left it. -/
theorem Settled.replays {s : Store} {a : ReleaseIntent} {released : Released}
    {payloadJson fingerprint : String} (h : Settled C s a released payloadJson fingerprint) :
    releaseIntent C s a = .ok (some { released with jobExisting := true }, s) := by
  have hkey := (Table.get?_some h.intent).2
  have hintent : s.intent C a.ownerSubject a.intentId = .ok (some released.intent) := by
    have := intent_of_row (C := C) (hkey.symm ▸ h.intent) h.valid
    rwa [h.owner, hkey] at this
  have hjob : s.job a.ownerSubject a.jobId = some released.job := by
    rw [Store.job, h.job]
    simp [h.jobOwner]
  have husage : s.recordPhase8ReleaseUsage a.usageEventId a.ownerSubject a.intentId a.jobId
      released.job.createdAt = .ok s := by
    rw [Store.recordPhase8ReleaseUsage]
    cases hbinding : s.intentBinding a.ownerSubject a.intentId with
    | none => rfl
    | some b =>
        obtain ⟨u, hfound, hu⟩ := h.usage b hbinding
        simp only [hfound]
        rw [check_true hu]
        rfl
  have hreplay : a.settle C s released.intent payloadJson fingerprint =
      .ok ({ released with jobExisting := true }, s) := by
    rw [ReleaseIntent.settle, if_pos h.state, ReleaseIntent.replay, check_true h.bound]
    simp only [hjob]
    refine bind_eq_ok.mpr ⟨(), rfl, bind_eq_ok.mpr ⟨(), check_true h.same, ?_⟩⟩
    exact bind_eq_ok.mpr ⟨s, husage, rfl⟩
  refine bind_eq_ok.mpr ⟨_, h.prepared, bind_eq_ok.mpr ⟨_, hintent, ?_⟩⟩
  exact bind_eq_ok.mpr ⟨_, h.bindings, bind_eq_ok.mpr ⟨_, hreplay, rfl⟩⟩

/-- A call that returned a job has settled its intent. -/
theorem releaseIntent_settled {a : ReleaseIntent} {s s' : Store} {released : Released}
    (h : releaseIntent C s a = .ok (some released, s')) :
    ∃ payloadJson fingerprint, Settled C s' a released payloadJson fingerprint := by
  have hgrows := (releaseIntent_steps h).1
  rcases releaseIntent_ok h with ⟨hnone, -⟩ | ⟨payloadJson, fingerprint, intent, released', hprepare,
    hfound, hbindings, hout, hsettle⟩
  · cases hnone
  · cases hout
    obtain ⟨hrow, howner, hvalid⟩ := intent_ok hfound
    refine ⟨payloadJson, fingerprint, ?_⟩
    unfold ReleaseIntent.settle at hsettle
    split at hsettle
    · -- the intent was released before
      rename_i hstate
      obtain ⟨hjobId, hconsentId, hjob, hintent, hsame, husage⟩ := replay_ok hsettle
      obtain ⟨hjobRow, hjobOwner⟩ := Option.filter_eq_some_iff.mp hjob
      obtain ⟨usageEvents, rfl, -, hused⟩ := recordPhase8ReleaseUsage_ok husage
      rw [← hintent] at hrow howner hvalid hstate hjobId hconsentId hsame hbindings
      exact ⟨hprepare, hrow, howner, hvalid, hstate, ⟨hjobId, hconsentId⟩,
        hgrows.requireBindings hbindings, hjobRow, of_decide_eq_true hjobOwner, hsame, hused⟩
    · obtain ⟨consent, hcheck, -, -, hopen, hsole, hw, hafter, hjob⟩ := release_ok hsettle
      have hreleases := hw.releases hrow howner hcheck hopen hsole
      obtain ⟨hrow', howner', hvalid'⟩ := intent_ok hafter
      have hset : released.intent = a.set intent :=
        Option.some.inj (hrow'.symm.trans hreleases.becomes)
      refine ⟨hprepare, hrow', howner', hvalid', ?_, ?_, ?_, ?_, ?_, ?_, ?_⟩
      · rw [hset]
        rfl
      · rw [hset]
        exact ⟨rfl, rfl⟩
      · -- the checks read none of the fields that the release has written
        rw [hset]
        exact hgrows.requireBindings hbindings
      · rw [hjob]
        exact Table.get?_insert_self hw.jobs
      · rw [hjob]
        rfl
      · rw [hjob, hset]
        simp [ReleaseIntent.sameJobMaterial, ReleaseIntent.job, ReleaseIntent.set]
      · intro b hb
        rw [hgrows.intentBinding] at hb
        exact hw.usage b hb

/-! ## Every sequence of calls -/

/-- What holds at each call. -/
structure Sound (C : Codec) (s : Store) (c : Call) : Prop where
  /-- A call that fails changes no row. -/
  failed : ∀ e, c.run C s = .error e → callStep C s c = s
  releasedStays : ∀ id r, s.intents.get? id = some r → r.state = .released →
    (callStep C s c).intents.get? id = some r
  consumedStays : ∀ id r, s.consents.get? id = some r → r.state = .consumed →
    (callStep C s c).consents.get? id = some r
  released : ∀ id, (callStep C s c).isReleased id = true → s.isReleased id = false →
    ∃ a intent, c = .releaseIntent a ∧ a.intentId = id ∧
      Releases C s (callStep C s c) a intent ∧ Approved C s (callStep C s c) a intent
  consumed : ∀ id, (callStep C s c).isConsumed id = true → s.isConsumed id = false →
    ∃ a intent consent, c = .releaseIntent a ∧ consent.consentId = id ∧
      Releases C s (callStep C s c) a intent ∧ Consumes C s (callStep C s c) a intent consent
  /-- The same call later on returns the same job and changes nothing. -/
  replays : ∀ a released s₁, c = .releaseIntent a →
    releaseIntent C s a = .ok (some released, s₁) → ∀ between,
      releaseIntent C (runFrom (callStep C) s₁ between) a =
        .ok (some { released with jobExisting := true }, runFrom (callStep C) s₁ between)

theorem callStep_sound (s : Store) (c : Call) : Sound C s c where
  failed e h := by
    rw [callStep, h]
    rfl
  releasedStays := (callStep_grows s c).released
  consumedStays := (callStep_grows s c).consumed
  released _ := released_by
  consumed _ := consumed_by
  replays a released s₁ _ h between := by
    obtain ⟨payloadJson, fingerprint, hsettled⟩ := releaseIntent_settled h
    exact (hsettled.grows (runFrom_grows s₁ between)).replays

/-- The call releases this intent. -/
def Releasing (C : Codec) (id : String) (s : Store) (c : Call) : Prop :=
  s.isReleased id = false ∧ (callStep C s c).isReleased id = true

/-- The call consumes this consent. -/
def Consuming (C : Codec) (id : String) (s : Store) (c : Call) : Prop :=
  s.isConsumed id = false ∧ (callStep C s c).isConsumed id = true

instance (id : String) (s : Store) (c : Call) : Decidable (Releasing C id s c) :=
  inferInstanceAs (Decidable (_ ∧ _))

instance (id : String) (s : Store) (c : Call) : Decidable (Consuming C id s c) :=
  inferInstanceAs (Decidable (_ ∧ _))

theorem isReleased_stays (id : String) (s : Store) (c : Call) (h : s.isReleased id = true) :
    (callStep C s c).isReleased id = true := by
  obtain ⟨r, hr, hstate⟩ := (Option.any_eq_true _ _).mp h
  rw [Store.isReleased, (callStep_grows s c).released id r hr (of_decide_eq_true hstate)]
  exact hstate

theorem isConsumed_stays (id : String) (s : Store) (c : Call) (h : s.isConsumed id = true) :
    (callStep C s c).isConsumed id = true := by
  obtain ⟨r, hr, hstate⟩ := (Option.any_eq_true _ _).mp h
  rw [Store.isConsumed, (callStep_grows s c).consumed id r hr (of_decide_eq_true hstate)]
  exact hstate

/-- In every sequence of calls, each is sound, no intent is released twice and no consent is
consumed twice. -/
theorem approvals_single_use (C : Codec) (s : Store) (calls : List Call) :
    Along (callStep C) (Sound C) s calls ∧
      (∀ id, countAlong (callStep C) (Releasing C id) s calls ≤ 1) ∧
      ∀ id, countAlong (callStep C) (Consuming C id) s calls ≤ 1 := by
  refine ⟨along_iff.mpr fun pre c _ _ => callStep_sound _ c, fun id => ?_, fun id => ?_⟩
  · refine countAlong_le_one (fun s => s.isReleased id = true) (fun _ _ h => h.2)
      (isReleased_stays id) (fun s c h hagain => ?_) s calls
    rw [hagain.1] at h
    cases h
  · refine countAlong_le_one (fun s => s.isConsumed id = true) (fun _ _ h => h.2)
      (isConsumed_stays id) (fun s c h hagain => ?_) s calls
    rw [hagain.1] at h
    cases h

end

end AutocadMcp.Approval
