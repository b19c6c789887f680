import AutocadMcp.Approval.Decisions

/-!
# Approvals given in time

When the decision of a consent leads to a job: the approval may come until the consent
expires, the time of the job runs out earlier.
-/

namespace AutocadMcp.Approval

open Gateway (Failure conflict IntentAction)

variable {C : Codec}

/-! ## The release -/

/-- What a release needs besides its dates: a payload that is bound to the intent, a new job, and the
document free. -/
structure Unobstructed (C : Codec) (s : Store) (a : ReleaseIntent)
    (intent : ExecutionIntentRecord) : Prop where
  waiting : intent.state ∈ [IntentState.awaitingApproval, .ready]
  prepared : ∃ payloadJson fingerprint, a.prepare C = .ok (payloadJson, fingerprint)
  bound : a.requireBindings s intent = .ok ()
  newJob : ∀ r ∈ s.jobs.rows, r.jobId ≠ a.jobId ∧ r.commandId ≠ a.commandId ∧
    ¬ (r.ownerSubject = a.ownerSubject ∧ r.deviceId = intent.deviceId ∧
      r.idempotencyKey = a.idempotencyKey)
  newEvents : ∀ e ∈ s.events, ¬ (e.jobId = a.jobId ∧ e.sequence = 1)
  freeDocument : (ReleaseIntent.clearedLocks s intent.deviceId intent.documentId).get?
    (intent.deviceId, intent.documentId) = none
  freeLock : ∀ l ∈ (ReleaseIntent.clearedLocks s intent.deviceId intent.documentId).rows,
    l.jobId ≠ a.jobId
  sole : ∀ r ∈ s.intents.rows, r.intentId = a.intentId ∨ r.releasedJobId ≠ some a.jobId
  usage : ∃ s', s.recordPhase8ReleaseUsage a.usageEventId a.ownerSubject a.intentId a.jobId
    a.consumedAt = .ok s'
  valid : (a.set intent).validate C = .ok ()

/-- The dates that a release compares. -/
structure InTime (C : Codec) (a : ReleaseIntent) (intent : ExecutionIntentRecord)
    (consent : ConsentRecord) : Prop where
  intentTimely : before C a.consumedAt intent.expiresAt = .ok true
  previewTimely : before C a.consumedAt intent.previewExpiresAt = .ok true
  jobTimely : before C a.consumedAt a.deadlineAt = .ok true
  consentTimely : before C a.consumedAt consent.expiresAt = .ok true

/-- The consent that a release names is the approved one of its intent. -/
structure Approves (C : Codec) (s : Store) (a : ReleaseIntent) (intent : ExecutionIntentRecord)
    (consent : ConsentRecord) : Prop where
  named : a.consentId = some consent.consentId
  version : a.expectedConsentVersion = some consent.stateVersion
  read : s.consent C a.ownerSubject consent.consentId = .ok (some consent)
  approved : consent.state = .approved
  assured : intent.requiredAssurance ≠ .none
  binding : consent.intentId = intent.intentId ∧ consent.intentVersion = intent.intentVersion ∧
    consent.intentDigest = intent.intentDigest ∧
    consent.requiredAssurance = intent.requiredAssurance

theorem insert_new {κ α : Type} [DecidableEq κ] {key : α → κ} {t : Table key} {x : α}
    (h : t.get? (key x) = none) : ∃ t', t.insert x = some t' := by
  unfold Table.insert
  have hnot : key x ∉ t.rows.map key := by
    intro hmem
    obtain ⟨y, hy, hkey⟩ := List.mem_map.mp hmem
    exact Table.get?_none h hy hkey
  rw [dif_neg hnot]
  exact ⟨_, rfl⟩

theorem checkIntent_inTime {a : ReleaseIntent} {intent : ExecutionIntentRecord}
    {consent : ConsentRecord} (hversion : intent.stateVersion = a.expectedIntentVersion)
    (h : InTime C a intent consent) : a.checkIntent C intent = .ok () := by
  unfold ReleaseIntent.checkIntent
  rw [h.intentTimely, h.previewTimely, h.jobTimely, check_true hversion]
  rfl

theorem requireConsent_approved {s : Store} {a : ReleaseIntent} {intent : ExecutionIntentRecord}
    {consent : ConsentRecord} (h : Approves C s a intent consent)
    (hdates : InTime C a intent consent) :
    a.requireConsent C s intent = .ok (some consent) := by
  unfold ReleaseIntent.requireConsent
  have hgiven : a.consentId.isSome ∧ a.expectedConsentVersion.isSome := by
    rw [h.named, h.version]
    exact ⟨rfl, rfl⟩
  have hread : s.consentOf C a.ownerSubject a.consentId = .ok (some consent) := by
    rw [h.named]
    exact h.read
  rw [if_neg h.assured]
  refine pass (check_true hgiven) ?_
  refine bind_eq_ok.mpr ⟨some consent, hread, ?_⟩
  refine pass (check_true h.binding) ?_
  refine pass (check_true h.approved) ?_
  refine pass (check_true h.version.symm) ?_
  exact bind_eq_ok.mpr ⟨true, hdates.consentTimely, rfl⟩

/-- The event of a release depends on the bindings and the events alone. -/
theorem recordPhase8ReleaseUsage_congr {s t s' : Store}
    {usageEventId owner intentId jobId at_ : String}
    (h : s.recordPhase8ReleaseUsage usageEventId owner intentId jobId at_ = .ok s')
    (hbindings : t.intentBindings = s.intentBindings) (hevents : t.usageEvents = s.usageEvents) :
    t.recordPhase8ReleaseUsage usageEventId owner intentId jobId at_ =
      .ok { t with usageEvents := s'.usageEvents } := by
  unfold Store.recordPhase8ReleaseUsage at h ⊢
  have hbinding : t.intentBinding owner intentId = s.intentBinding owner intentId := by
    unfold Store.intentBinding
    rw [hbindings]
  rw [hbinding, hevents]
  cases hb : s.intentBinding owner intentId with
  | none =>
      rw [hb] at h
      cases h
      rw [← hevents]
  | some b =>
      simp only [hb] at h ⊢
      cases hfind : s.usageEvents.rows.find? fun u =>
          u.planId = b.planId ∧ u.state = "released" ∧ u.externalId = jobId with
      | some u =>
          simp only [hfind] at h ⊢
          obtain ⟨_, hsame, h⟩ := bind_eq_ok.mp h
          cases h
          refine pass hsame ?_
          rw [← hevents]
          rfl
      | none =>
          simp only [hfind] at h ⊢
          cases hinsert : s.usageEvents.insert
              ⟨usageEventId, owner, b.planId, "released", jobId, b.bindingDigest, at_⟩ with
          | none =>
              rw [hinsert] at h
              cases h
          | some usageEvents =>
              rw [hinsert] at h
              cases h
              rfl

theorem insertJob_new {t : Store} {a : ReleaseIntent} {job : JobRow} (hjob : job.jobId = a.jobId)
    (hrows : ∀ r ∈ t.jobs.rows, r.jobId ≠ a.jobId ∧ r.commandId ≠ job.commandId ∧
      ¬ (r.ownerSubject = job.ownerSubject ∧ r.deviceId = job.deviceId ∧
        r.idempotencyKey = job.idempotencyKey))
    (hevents : ∀ e ∈ t.events, ¬ (e.jobId = a.jobId ∧ e.sequence = 1)) :
    ∃ jobs events, a.insertJob t job = .ok { t with jobs := jobs, events := events } ∧
      jobs.rows = t.jobs.rows ++ [job] := by
  have hnone : t.jobs.get? job.jobId = none :=
    List.find?_eq_none.mpr fun r hr => by simpa [hjob] using (hrows r hr).1
  obtain ⟨jobs, hjobs⟩ := insert_new hnone
  refine ⟨jobs, t.events ++ [⟨a.jobId, 1, .queued, a.consumedAt⟩], ?_,
    (Table.insert_some hjobs).1⟩
  unfold ReleaseIntent.insertJob
  refine pass (check_true (List.all_eq_true.mpr fun r hr => decide_eq_true (hrows r hr).2)) ?_
  simp only [hjobs]
  exact pass (check_true (List.all_eq_true.mpr fun e he => decide_eq_true (hevents e he))) rfl

theorem insertLock_new {t : Store} {a : ReleaseIntent} {intent : ExecutionIntentRecord}
    (hjob : ∀ l ∈ t.locks.rows, l.jobId ≠ a.jobId)
    (hfree : t.locks.get? (intent.deviceId, intent.documentId) = none) :
    ∃ locks, a.insertLock t intent = .ok { t with locks := locks } := by
  have hnone : t.locks.get? (LockRow.document
      ⟨intent.deviceId, intent.documentId, a.jobId, a.consumedAt⟩) = none := hfree
  obtain ⟨locks, hlocks⟩ := insert_new hnone
  refine ⟨locks, ?_⟩
  unfold ReleaseIntent.insertLock
  refine pass (check_true (List.all_eq_true.mpr fun l hl => decide_eq_true (hjob l hl))) ?_
  simp only [hlocks]
  rfl

theorem updateIntent_waiting {t : Store} {a : ReleaseIntent} {intent : ExecutionIntentRecord}
    (hwaiting : intent.state ∈ [IntentState.awaitingApproval, .ready])
    (hsole : ∀ r ∈ t.intents.rows, r.intentId = a.intentId ∨ r.releasedJobId ≠ some a.jobId) :
    a.updateIntent t intent =
      .ok { t with intents := t.intents.modify a.intentId a.set a.set_intentId } := by
  unfold ReleaseIntent.updateIntent
  refine pass (check_true hwaiting) ?_
  exact pass (check_true (List.all_eq_true.mpr fun r hr => decide_eq_true (hsole r hr))) rfl

theorem consumeConsent_eq (a : ReleaseIntent) (s : Store) (consent : Option ConsentRecord) :
    ∃ consents, a.consumeConsent s consent = { s with consents := consents } := by
  cases consent with
  | none => exact ⟨s.consents, rfl⟩
  | some used => exact ⟨_, rfl⟩

/-- Nothing in its way, a release makes one new job. -/
theorem release_new {s : Store} {a : ReleaseIntent} {intent : ExecutionIntentRecord}
    {consent : Option ConsentRecord} {payloadJson fingerprint : String}
    (hclear : Unobstructed C s a intent) (hrow : s.intents.get? a.intentId = some intent)
    (howner : intent.ownerSubject = a.ownerSubject) (hcheck : a.checkIntent C intent = .ok ())
    (hrequire : a.requireConsent C s intent = .ok consent) :
    ∃ released s', a.release C s intent payloadJson fingerprint = .ok (released, s') ∧
      released.jobExisting = false ∧
      released.job = a.job intent.deviceId payloadJson fingerprint ∧
      s'.jobs.rows = s.jobs.rows ++ [released.job] := by
  have hbusy : a.documentBusy s (ReleaseIntent.clearedLocks s intent.deviceId intent.documentId)
      intent = false := by
    unfold ReleaseIntent.documentBusy
    rw [hclear.freeDocument]
  obtain ⟨jobs, events, hjob, hrows⟩ := @insertJob_new
    { s with locks := ReleaseIntent.clearedLocks s intent.deviceId intent.documentId } a
    (a.job intent.deviceId payloadJson fingerprint) rfl hclear.newJob hclear.newEvents
  obtain ⟨consents, hconsume⟩ := consumeConsent_eq a { s with
    locks := ReleaseIntent.clearedLocks s intent.deviceId intent.documentId
    jobs := jobs
    events := events } consent
  obtain ⟨locks, hlock⟩ := @insertLock_new { s with
    locks := ReleaseIntent.clearedLocks s intent.deviceId intent.documentId
    jobs := jobs
    events := events
    consents := consents } a intent hclear.freeLock hclear.freeDocument
  have hupdate := @updateIntent_waiting { s with
    jobs := jobs, events := events, consents := consents, locks := locks } a intent
    hclear.waiting hclear.sole
  obtain ⟨after, husage⟩ := hclear.usage
  have hused := @recordPhase8ReleaseUsage_congr s { s with
    jobs := jobs
    events := events
    consents := consents
    locks := locks
    intents := s.intents.modify a.intentId a.set a.set_intentId } after _ _ _ _ _ husage rfl rfl
  have hkey : intent.intentId = a.intentId := (Table.get?_some hrow).2
  have hset : (s.intents.modify a.intentId a.set a.set_intentId).get? (a.set intent).intentId =
      some (a.set intent) := by
    rw [Table.get?_modify, ReleaseIntent.set_intentId, hkey, if_pos rfl, hrow]
    rfl
  have hread := @intent_of_row C { s with
    jobs := jobs
    events := events
    consents := consents
    locks := locks
    intents := s.intents.modify a.intentId a.set a.set_intentId
    usageEvents := after.usageEvents } (a.set intent) hset hclear.valid
  rw [ReleaseIntent.set_intentId, hkey] at hread
  refine ⟨⟨a.set intent, a.job intent.deviceId payloadJson fingerprint, false⟩, { s with
    jobs := jobs
    events := events
    consents := consents
    locks := locks
    intents := s.intents.modify a.intentId a.set a.set_intentId
    usageEvents := after.usageEvents }, ?_, rfl, rfl, hrows⟩
  refine pass hcheck ?_
  refine bind_eq_ok.mpr ⟨consent, hrequire, ?_⟩
  refine pass (check_true (List.all_eq_true.mpr fun r hr =>
    decide_eq_true (hclear.newJob r hr))) ?_
  refine pass (check_true hbusy) ?_
  refine bind_eq_ok.mpr ⟨_, hjob, ?_⟩
  rw [hconsume]
  refine bind_eq_ok.mpr ⟨_, hlock, ?_⟩
  refine bind_eq_ok.mpr ⟨_, hupdate, ?_⟩
  refine bind_eq_ok.mpr ⟨_, hused, ?_⟩
  exact bind_eq_ok.mpr ⟨some (a.set intent), howner ▸ hread, rfl⟩

/-- Past the deadline of its job an intent is not released, in time as it may be otherwise. -/
theorem release_late {s : Store} {a : ReleaseIntent} {intent : ExecutionIntentRecord}
    {payloadJson fingerprint : String} (hversion : intent.stateVersion = a.expectedIntentVersion)
    (hintent : before C a.consumedAt intent.expiresAt = .ok true)
    (hpreview : before C a.consumedAt intent.previewExpiresAt = .ok true)
    (hlate : before C a.consumedAt a.deadlineAt = .ok false) :
    a.release C s intent payloadJson fingerprint = .error (conflict "job_deadline_invalid") := by
  have hcheck : a.checkIntent C intent = .error (conflict "job_deadline_invalid") := by
    unfold ReleaseIntent.checkIntent
    rw [hintent, hpreview, hlate, check_true hversion]
    rfl
  unfold ReleaseIntent.release
  rw [hcheck]
  rfl

/-- A call for an intent that waits comes to its release. -/
theorem releaseIntent_eq {s : Store} {a : ReleaseIntent} {intent : ExecutionIntentRecord}
    {payloadJson fingerprint : String} (hprepared : a.prepare C = .ok (payloadJson, fingerprint))
    (hread : s.intent C a.ownerSubject a.intentId = .ok (some intent))
    (hbound : a.requireBindings s intent = .ok ())
    (hwaiting : intent.state ∈ [IntentState.awaitingApproval, .ready]) :
    releaseIntent C s a =
      (a.release C s intent payloadJson fingerprint).map fun r => (some r.1, r.2) := by
  have hopen : intent.state ≠ .released := by
    intro h
    rw [h] at hwaiting
    simp at hwaiting
  unfold releaseIntent
  rw [hprepared]
  simp only [bind, Except.bind, hread, hbound, ReleaseIntent.settle, if_neg hopen]
  cases a.release C s intent payloadJson fingerprint <;> rfl

namespace Admission

variable {A : Admission}

/-- The arguments of a release name the records it is called with, and its dates. -/
structure Calls (A : Admission) (a : ReleaseIntent) (intent : ExecutionIntentRecord)
    (consent : ConsentRecord) (now created : Int) : Prop where
  owner : a.ownerSubject = intent.ownerSubject
  intentId : a.intentId = intent.intentId
  version : a.expectedIntentVersion = intent.stateVersion
  consentId : a.consentId = some consent.consentId
  consentVersion : a.expectedConsentVersion = some consent.stateVersion
  consumedAt : a.consumedAt = A.isoformat now
  createdAt : A.instant intent.createdAt = .ok created
  deadlineAt : a.deadlineAt = A.isoformat (created + A.policy.jobDeadlineSeconds * second)

theorem releaseCall_ok {s : Store} {intent : ExecutionIntentRecord} {consent : ConsentRecord}
    {payload : Json} {usageEventId : String} {now : Int} {a : ReleaseIntent}
    (h : A.releaseCall s intent (some consent) payload usageEventId now = .ok a) :
    ∃ created, A.Calls a intent consent now created := by
  obtain ⟨_, -, h⟩ := bind_eq_ok.mp h
  obtain ⟨created, hcreated, h⟩ := bind_eq_ok.mp h
  split at h
  · cases h
  · cases h
    exact ⟨created, rfl, rfl, rfl, rfl, rfl, rfl, hcreated, rfl⟩

/-- The decision leads to one new job, whose deadline has not come yet. -/
def TakesEffect (A : Admission) (s : Store) (intent : ExecutionIntentRecord)
    (consent : ConsentRecord) (payload : Json) (usageEventId : String) (now : Int) : Prop :=
  ∃ released s' deadlineAt,
    A.currentOrRelease s (.ok ()) intent (some consent) payload usageEventId now =
      .ok (some released, s') ∧
    released.jobExisting = false ∧ s'.jobs.rows = s.jobs.rows ++ [released.job] ∧
    released.job.deadlineAt = some deadlineAt ∧
    before A.codec (A.isoformat now) deadlineAt = .ok true

theorem currentOrRelease_eq {s : Store} {intent : ExecutionIntentRecord} {consent : ConsentRecord}
    {payload : Json} {usageEventId : String} {now : Int} {a : ReleaseIntent}
    (happroved : consent.state = .approved)
    (hcall : A.releaseCall s intent (some consent) payload usageEventId now = .ok a) :
    (∀ out, releaseIntent A.codec s a = .ok out →
      A.currentOrRelease s (.ok ()) intent (some consent) payload usageEventId now = .ok out) ∧
    (releaseIntent A.codec s a = .error (conflict "job_deadline_invalid") →
      A.currentOrRelease s (.ok ()) intent (some consent) payload usageEventId now =
        .error (.gatewayError "job_deadline_invalid")) := by
  have hany : ¬ ((some consent).any fun c => decide (c.state ≠ .approved)) = true := by
    simp [happroved]
  constructor
  · intro out hout
    unfold currentOrRelease
    rw [if_neg hany, hcall]
    simp only [bind, Except.bind, hout]
    rfl
  · intro hrefused
    unfold currentOrRelease
    rw [if_neg hany, hcall]
    simp only [bind, Except.bind, hrefused]
    rfl

/-- An approval that comes after the deadline of its job is refused. -/
theorem late_refused {s : Store} {intent : ExecutionIntentRecord} {consent : ConsentRecord}
    {payload : Json} {usageEventId : String} {now created : Int} {a : ReleaseIntent}
    (hcall : A.releaseCall s intent (some consent) payload usageEventId now = .ok a)
    (hcalls : A.Calls a intent consent now created) (happroved : consent.state = .approved)
    (hread : s.intent A.codec a.ownerSubject a.intentId = .ok (some intent))
    (hclear : Unobstructed A.codec s a intent)
    (hintent : before A.codec a.consumedAt intent.expiresAt = .ok true)
    (hpreview : before A.codec a.consumedAt intent.previewExpiresAt = .ok true)
    (hlate : before A.codec a.consumedAt a.deadlineAt = .ok false) :
    A.currentOrRelease s (.ok ()) intent (some consent) payload usageEventId now =
      .error (.gatewayError "job_deadline_invalid") := by
  obtain ⟨payloadJson, fingerprint, hprepared⟩ := hclear.prepared
  have hrelease := releaseIntent_eq hprepared hread hclear.bound hclear.waiting
  rw [release_late hcalls.version.symm hintent hpreview hlate] at hrelease
  exact (currentOrRelease_eq happroved hcall).2 hrelease

theorem before_isoformat {a b : Int}
    (ha : A.codec.timestamp (A.isoformat a) = some ⟨true, a⟩)
    (hb : A.codec.timestamp (A.isoformat b) = some ⟨true, b⟩) :
    before A.codec (A.isoformat a) (A.isoformat b) = .ok (decide (a < b)) := by
  unfold before timestamp
  rw [ha, hb]
  rfl

theorem instant_eq_ok {text : String} {n : Int} :
    A.instant text = .ok n ↔ A.codec.timestamp text = some ⟨true, n⟩ := by
  unfold instant
  rcases A.codec.timestamp text with _ | ⟨aware, at_⟩
  · simp
  · cases aware <;> simp [check, bind, Except.bind, pure, Except.pure]

/-- What a decision finds of the intent and the consent that were created. -/
structure Decides (A : Admission) (s s' : Store) (intent : ExecutionIntentRecord)
    (consent decided : ConsentRecord) (a : TransitionConsent) : Prop where
  intentRead : s.intent A.codec intent.ownerSubject intent.intentId = .ok (some intent)
  consentRead : s.consent A.codec consent.ownerSubject consent.consentId = .ok (some consent)
  requested : consent.state = .requested
  decides : transitionConsent A.codec s a = .ok (some decided, s')

variable {m : CommitMaterial} {created now previewExpiry : Int} {s₀ s₁ s₂ : Store}
  {events : List StoreEvent} {first intent : ExecutionIntentRecord}
  {asked consent decided : ConsentRecord} {source : DecisionSource} {principal : ActorPrincipal}
  {device : Option (String × Int)} {payload : Json} {usageEventId : String} {a : ReleaseIntent}

/-- The records of the decision are those that were created, in another state. -/
theorem decided_records (hcreated : A.CommitCreated m created first asked s₁)
    (hdecides : A.Decides (runFrom (eventStep A.codec) s₁ events) s₂ intent consent decided
      (A.approval consent source principal device now))
    (hsameIntent : intent.intentId = first.intentId)
    (hsameConsent : consent.consentId = asked.consentId) :
    intent.content = first.content ∧ consent.content = asked.content := by
  have hkeeps := runFrom_keeps (C := A.codec) s₁ events
  obtain ⟨r, hr, hcontent⟩ := hkeeps.intents _ _ hcreated.intentRow
  obtain ⟨r', hr', hcontent'⟩ := hkeeps.consents _ _ hcreated.consentRow
  have hrow := (intent_ok hdecides.intentRead).1
  have hrow' := (consent_ok hdecides.consentRead).1
  rw [hsameIntent, hr] at hrow
  rw [hsameConsent, hr'] at hrow'
  exact ⟨Option.some.inj hrow ▸ hcontent, Option.some.inj hrow' ▸ hcontent'⟩

/-- A field that a consent takes from its intent, and that stays as it is in both. -/
theorem same_field {β : Type} (hcreated : A.CommitCreated m created first asked s₁)
    (hintent : intent.content = first.content) (hconsent : consent.content = asked.content)
    (f : ConsentRecord → β) (g : ExecutionIntentRecord → β)
    (hasked : f (A.requestedConsent first) = g first) (hf : ∀ r, f r.content = f r)
    (hg : ∀ r, g r.content = g r) : f consent = g intent := by
  rw [← hf, hconsent, hf, hcreated.consent, hasked, ← hg first, ← hintent, hg]

/-- A consent is approved before the intent, the preview and the consent itself expire. -/
theorem decided_dates (hcreated : A.CommitCreated m created first asked s₁)
    (hpreview : A.instant m.previewExpiresAt = .ok previewExpiry)
    (hnow : A.codec.timestamp (A.isoformat now) = some ⟨true, now⟩)
    (hexpiry : A.codec.timestamp (A.isoformat (intentExpiry previewExpiry created)) =
      some ⟨true, intentExpiry previewExpiry created⟩)
    (hintent : intent.content = first.content) (hconsent : consent.content = asked.content)
    (htimely : before A.codec (A.isoformat now) consent.expiresAt = .ok true) :
    before A.codec (A.isoformat now) intent.expiresAt = .ok true ∧
      before A.codec (A.isoformat now) intent.previewExpiresAt = .ok true := by
  have hintentExpires : intent.content.expiresAt = first.content.expiresAt := by rw [hintent]
  have hpreviewExpires : intent.content.previewExpiresAt = first.content.previewExpiresAt := by
    rw [hintent]
  have hconsentExpires : consent.expiresAt = intent.expiresAt :=
    same_field hcreated hintent hconsent ConsentRecord.expiresAt ExecutionIntentRecord.expiresAt rfl
      (fun _ => rfl) fun _ => rfl
  change intent.expiresAt = first.expiresAt at hintentExpires
  change intent.previewExpiresAt = first.previewExpiresAt at hpreviewExpires
  obtain ⟨_, hp, hfirst⟩ := hcreated.expiresAt
  obtain rfl := Except.ok.inj (hpreview.symm.trans hp)
  rw [hconsentExpires] at htimely
  refine ⟨htimely, ?_⟩
  -- the intent expires with its preview or before that
  rw [hintentExpires, hfirst, before_isoformat hnow hexpiry] at htimely
  have hlt : now < intentExpiry previewExpiry created := of_decide_eq_true (Except.ok.inj htimely)
  have hle : now < previewExpiry := lt_of_lt_of_le hlt (min_le_left _ _)
  rw [hpreviewExpires, hcreated.previewExpiresAt]
  unfold before timestamp
  rw [hnow, instant_eq_ok.mp hpreview]
  exact congrArg Except.ok (decide_eq_true hle)

/-- An approval takes effect if it is given before the time of the job is over, which runs from the
creation of the intent. Until the consent expires it may be given later than that; then the
decision is recorded and the release refused. -/
theorem takesEffect_iff (hcreates : A.Creates s₀ m created first asked s₁)
    (hpreview : A.instant m.previewExpiresAt = .ok previewExpiry)
    (hdates : ∀ n ∈ [created, intentExpiry previewExpiry created,
      created + A.policy.jobDeadlineSeconds * second, now],
        A.codec.timestamp (A.isoformat n) = some ⟨true, n⟩)
    (hsameIntent : intent.intentId = first.intentId)
    (hsameConsent : consent.consentId = asked.consentId)
    (hdecides : A.Decides (runFrom (eventStep A.codec) s₁ events) s₂ intent consent decided
      (A.approval consent source principal device now))
    (hcall : A.releaseCall s₂ intent (some decided) payload usageEventId now = .ok a)
    (hclear : Unobstructed A.codec s₂ a intent) :
    A.TakesEffect s₂ intent decided payload usageEventId now ↔
      now < created + A.policy.jobDeadlineSeconds * second := by
  have hcreated := creates_ok hcreates
  obtain ⟨hcreatedAt, hexpiry, hdeadline, hnow⟩ :
      A.codec.timestamp (A.isoformat created) = some ⟨true, created⟩ ∧
      A.codec.timestamp (A.isoformat (intentExpiry previewExpiry created)) =
        some ⟨true, intentExpiry previewExpiry created⟩ ∧
      A.codec.timestamp (A.isoformat (created + A.policy.jobDeadlineSeconds * second)) =
        some ⟨true, created + A.policy.jobDeadlineSeconds * second⟩ ∧
      A.codec.timestamp (A.isoformat now) = some ⟨true, now⟩ := by
    simpa using hdates
  obtain ⟨hintent, hconsent⟩ := decided_records hcreated hdecides hsameIntent hsameConsent
  obtain ⟨htimely, hreadDecided, hdecided, hintents⟩ :=
    transitionConsent_approves rfl hdecides.consentRead hdecides.requested hdecides.decides
  obtain ⟨hintentTimely, hpreviewTimely⟩ :=
    decided_dates hcreated hpreview hnow hexpiry hintent hconsent htimely
  obtain ⟨at_, hcalls⟩ := releaseCall_ok hcall
  obtain rfl : at_ = created := by
    have hfirst : intent.createdAt = A.isoformat created :=
      (congrArg ExecutionIntentRecord.createdAt hintent).trans hcreated.createdAt
    have := hcalls.createdAt
    rw [hfirst, instant_eq_ok.mpr hcreatedAt] at this
    exact (Except.ok.inj this).symm
  have happroved : decided.state = .approved := by rw [hdecided]; rfl
  have hread : s₂.intent A.codec a.ownerSubject a.intentId = .ok (some intent) := by
    have hread := hdecides.intentRead
    unfold Store.intent at hread ⊢
    rw [hcalls.owner, hcalls.intentId, hintents]
    exact hread
  have hjob : before A.codec a.consumedAt a.deadlineAt =
      .ok (decide (now < at_ + A.policy.jobDeadlineSeconds * second)) := by
    rw [hcalls.consumedAt, hcalls.deadlineAt]
    exact before_isoformat hnow hdeadline
  rw [← hcalls.consumedAt] at hintentTimely hpreviewTimely
  constructor
  · rintro ⟨released, s', deadlineAt, hok, -⟩
    by_contra hlate
    rw [decide_eq_false hlate] at hjob
    rw [late_refused hcall hcalls happroved hread hclear hintentTimely hpreviewTimely hjob] at hok
    cases hok
  · intro hearly
    obtain ⟨payloadJson, fingerprint, hprepared⟩ := hclear.prepared
    have hrelease := releaseIntent_eq hprepared hread hclear.bound hclear.waiting
    rw [decide_eq_true hearly] at hjob
    have howner : consent.ownerSubject = intent.ownerSubject :=
      same_field hcreated hintent hconsent ConsentRecord.ownerSubject
        ExecutionIntentRecord.ownerSubject rfl (fun _ => rfl) fun _ => rfl
    have hassured : intent.requiredAssurance ≠ .none := by
      have hassurance : intent.content.requiredAssurance = first.content.requiredAssurance := by
        rw [hintent]
      exact fun hnone => hcreated.assured (hassurance.symm.trans hnone)
    have happroves : Approves A.codec s₂ a intent decided := by
      refine ⟨hcalls.consentId, hcalls.consentVersion, ?_, happroved, hassured, ?_⟩
      · have hid : decided.consentId = consent.consentId := by
          rw [hdecided]
          rfl
        rw [hcalls.owner, ← howner, hid]
        exact hreadDecided
      · rw [hdecided]
        exact ⟨same_field hcreated hintent hconsent ConsentRecord.intentId
            ExecutionIntentRecord.intentId rfl (fun _ => rfl) fun _ => rfl,
          same_field hcreated hintent hconsent ConsentRecord.intentVersion
            ExecutionIntentRecord.intentVersion rfl (fun _ => rfl) fun _ => rfl,
          same_field hcreated hintent hconsent ConsentRecord.intentDigest
            ExecutionIntentRecord.intentDigest rfl (fun _ => rfl) fun _ => rfl,
          same_field hcreated hintent hconsent ConsentRecord.requiredAssurance
            ExecutionIntentRecord.requiredAssurance rfl (fun _ => rfl) fun _ => rfl⟩
    have hinTime : InTime A.codec a intent decided := by
      refine ⟨hintentTimely, hpreviewTimely, hjob, ?_⟩
      rw [hcalls.consumedAt, hdecided]
      exact htimely
    obtain ⟨released, s', hok, hnew, hjobRow, hrows⟩ := @release_new _ _ _ _ _ payloadJson fingerprint
      hclear (intent_ok hread).1 hcalls.owner.symm
      (checkIntent_inTime hcalls.version.symm hinTime) (requireConsent_approved happroves hinTime)
    rw [hok] at hrelease
    refine ⟨released, s', a.deadlineAt, (currentOrRelease_eq happroved hcall).1 _ hrelease, hnew,
      hrows, ?_, ?_⟩
    · rw [hjobRow]
      rfl
    · rw [← hcalls.consumedAt]
      exact hjob

end Admission

/-! ## A commit at New Year -/

/-- Midnight at the beginning of 2026. -/
def newYear : Int := 1767225600 * second

/-- The dates that a commit at midnight comes to. -/
def newYearDates : List (Int × String) :=
  [(newYear, "2026-01-01T00:00:00+00:00"),
    (newYear + 240 * second, "2026-01-01T00:04:00+00:00"),
    (newYear + 300 * second, "2026-01-01T00:05:00+00:00"),
    (newYear + 540 * second, "2026-01-01T00:09:00+00:00"),
    (newYear + 600 * second, "2026-01-01T00:10:00+00:00"),
    (newYear + 900 * second, "2026-01-01T00:15:00+00:00")]

def newYearText (n : Int) : String :=
  ((newYearDates.find? fun date => date.1 = n).map Prod.snd).getD ""

def newYearMoment (text : String) : Option Moment :=
  (newYearDates.find? fun date => date.2 = text).map fun date => ⟨true, date.1⟩

/-- Of a hash no more is used here than its form. -/
def someHash (_ : String) : String :=
  "5f4dcc3b5aa765d61d8327deb882cf995f4dcc3b5aa765d61d8327deb882cf99"

def someDigest : String :=
  "sha256:5f4dcc3b5aa765d61d8327deb882cf995f4dcc3b5aa765d61d8327deb882cf99"

mutual

def compact : Json → String
  | .null => "null"
  | .bool b => if b then "true" else "false"
  | .num q => toString q.num
  | .str s => "\"" ++ s ++ "\""
  | .arr items => "[" ++ compactItems items ++ "]"
  | .obj fields => "\x7b" ++ compactFields fields ++ "\x7d"

def compactItems : List Json → String
  | [] => ""
  | [item] => compact item
  | item :: items => compact item ++ "," ++ compactItems items

def compactFields : List (String × Json) → String
  | [] => ""
  | [(key, value)] => "\"" ++ key ++ "\":" ++ compact value
  | (key, value) :: fields => "\"" ++ key ++ "\":" ++ compact value ++ "," ++ compactFields fields

end

def officeCodec : Codec where
  canonicalJson value := some (compact value)
  sha256 := someHash
  timestamp := newYearMoment
  executionIntentDigest _ := some someDigest
  intentBytes r := some (1024 + r.intentId.length)
  consentBytes r := some (1024 + r.consentId.length)
  pinnedFits := Json.isDict

/-- The policy with its default deadline, and approvals in the portal. -/
def office : Admission where
  codec := officeCodec
  policy := { trustedApprovalEnabled := true, portalRecentAuthApprovalEnabled := true }
  isoformat := newYearText
  payloadHash _ payload := some (someHash (compact payload))

/-- A commit whose preview expires after fifteen minutes. -/
def platesCommit : CommitMaterial where
  ownerSubject := "owner-1"
  idempotencyKey := "key-1"
  requestHash := someDigest
  deviceId := "device-1"
  documentId := "drawing-1"
  expectedDocumentRevision := "r7"
  programId := "program-1"
  programRevision := 1
  programDigest := someDigest
  previewId := "preview-1"
  previewDigest := someDigest
  previewExecutionDigest := someDigest
  previewExpiresAt := "2026-01-01T00:15:00+00:00"
  deterministicReceiptId := "receipt-1"
  commitExecutionDigest := someDigest
  pinned := .obj [("risk_class", .str "standard")]

def oneRow {α κ : Type} {key : α → κ} (x : α) : Table key := ⟨[x], List.nodup_singleton _⟩

def officeStore : Store := { Store.empty with
  devices := oneRow ⟨"device-1", "owner-1"⟩
  programRevisions := [⟨"owner-1", "program-1", 1, someDigest⟩]
  previews := oneRow ⟨"preview-1", "owner-1", "program-1", 1, someDigest, someDigest⟩ }

def platesDraft : ExecutionIntentRecord :=
  office.commitIntent platesCommit .userRecentAuth .awaitingApproval newYear
    (Admission.intentExpiry (newYear + 900 * second) newYear)

def platesIntent : ExecutionIntentRecord :=
  { platesDraft with
    intentDigest := someDigest }

def platesConsent : ConsentRecord := office.requestedConsent platesIntent

/-- The store once the approval is asked for. -/
def askedStore : Store := { officeStore with
  intents := oneRow platesIntent
  consents := oneRow platesConsent }

theorem platesIntent_valid : platesIntent.validate officeCodec = .ok () := by decide +kernel

theorem platesConsent_valid : platesConsent.validate officeCodec = .ok () := by decide +kernel

theorem platesExpiry : office.instant platesCommit.previewExpiresAt = .ok (newYear + 900 * second) :=
  Admission.instant_eq_ok.mpr (by decide +kernel)

theorem platesIntent_created : createIntent officeCodec officeStore platesIntent =
    .ok ((platesIntent, false), { officeStore with intents := oneRow platesIntent }) := by
  refine pass platesIntent_valid ?_
  refine pass (check_true (by decide)) ?_
  refine pass (check_true (by decide)) ?_
  have hparents : officeStore.requireIntentParents platesIntent = .ok () := by decide +kernel
  exact pass hparents rfl

theorem platesConsent_created :
    office.createConsent { officeStore with intents := oneRow platesIntent } platesIntent =
      .ok (platesConsent, askedStore) := by
  refine bind_eq_ok.mpr ⟨none, rfl, ?_⟩
  refine bind_eq_ok.mpr ⟨((platesConsent, false), askedStore), ?_, rfl⟩
  refine answered_eq_ok.mpr ?_
  refine pass platesConsent_valid ?_
  refine pass (check_true (by decide)) ?_
  refine pass (check_true (by decide)) ?_
  refine bind_eq_ok.mpr ⟨some platesIntent, ?_, ?_⟩
  · have hrow : (oneRow platesIntent : Table ExecutionIntentRecord.intentId).get?
        platesIntent.intentId = some platesIntent := Table.get?_of_mem List.mem_cons_self
    exact intent_of_row hrow platesIntent_valid
  · exact pass (check_true (by decide +kernel)) rfl

theorem plates_creates : office.Creates officeStore platesCommit newYear platesIntent platesConsent
    askedStore := by
  refine ⟨rfl, rfl, Or.inl ?_⟩
  refine bind_eq_ok.mpr ⟨none, rfl, ?_⟩
  refine bind_eq_ok.mpr ⟨.userRecentAuth, rfl, ?_⟩
  refine bind_eq_ok.mpr ⟨newYear + 900 * second, platesExpiry, ?_⟩
  refine pass (check_true (by decide)) ?_
  refine bind_eq_ok.mpr ⟨platesIntent, rfl, ?_⟩
  refine bind_eq_ok.mpr ⟨_, answered_eq_ok.mpr platesIntent_created, ?_⟩
  exact bind_eq_ok.mpr ⟨_, platesConsent_created, rfl⟩

theorem modify_oneRow {α κ : Type} [DecidableEq κ] {key : α → κ} (x : α) (f : α → α)
    (hf : ∀ x, key (f x) = key x) : (oneRow x : Table key).modify (key x) f hf = oneRow (f x) := by
  unfold Table.modify oneRow
  simp

theorem consent_of_row {C : Codec} {s : Store} {r : ConsentRecord}
    (hrow : s.consents.get? r.consentId = some r) (hvalid : r.validate C = .ok ()) :
    s.consent C r.ownerSubject r.consentId = .ok (some r) := by
  have hfilter : (s.consents.get? r.consentId).filter (fun x => x.ownerSubject = r.ownerSubject) =
      some r := by
    rw [hrow]
    simp
  unfold Store.consent
  rw [hfilter]
  simp only [hvalid]
  rfl

/-- The decision of the owner in the portal, this many seconds after the creation. -/
def portalApproval (seconds : Int) : TransitionConsent :=
  office.approval platesConsent .portalRecentAuth ⟨"portal", "owner-1"⟩ none
    (newYear + seconds * second)

def approvedConsent (seconds : Int) : ConsentRecord :=
  (portalApproval seconds).candidate .approved platesConsent

def approvedStore (seconds : Int) : Store :=
  { askedStore with consents := oneRow (approvedConsent seconds) }

theorem plates_decides (seconds : Int)
    (hvalid : (approvedConsent seconds).validate officeCodec = .ok ())
    (htimely : before officeCodec (newYearText (newYear + seconds * second)) platesConsent.expiresAt =
      .ok true) :
    office.Decides askedStore (approvedStore seconds) platesIntent platesConsent
      (approvedConsent seconds) (portalApproval seconds) := by
  have hintentRow : askedStore.intents.get? platesIntent.intentId = some platesIntent :=
    Table.get?_of_mem List.mem_cons_self
  have hconsentRow : askedStore.consents.get? platesConsent.consentId = some platesConsent :=
    Table.get?_of_mem List.mem_cons_self
  have hread := consent_of_row hconsentRow platesConsent_valid
  refine ⟨intent_of_row hintentRow platesIntent_valid, hread, rfl, ?_⟩
  obtain ⟨moment, hmoment, -⟩ := bind_eq_ok.mp htimely
  have hgiven : (discard (timestamp officeCodec (portalApproval seconds).transitionAt) :
      Except Failure Unit) = .ok () := by
    have hmoment' : timestamp officeCodec (portalApproval seconds).transitionAt = .ok moment :=
      hmoment
    rw [hmoment']
    rfl
  have htarget : (portalApproval seconds).target = "approved" := rfl
  have hfind : (ConsentState.all.find? fun t => t.name = (portalApproval seconds).target) =
      some .approved := by
    rw [htarget]
    rfl
  refine pass hgiven ?_
  refine pass (check_true (by rw [htarget]; decide)) ?_
  refine bind_eq_ok.mpr ⟨some platesConsent, hread, ?_⟩
  simp only [hfind]
  refine pass hvalid ?_
  rw [if_neg (by decide)]
  refine pass (check_true (by decide)) ?_
  refine pass (check_true rfl) ?_
  refine pass (bind_eq_ok.mpr ⟨true, htimely, rfl⟩) ?_
  have hdevice : (approvedConsent seconds).decisionDeviceId = none := rfl
  have hforeign : ∀ id ∈ (approvedConsent seconds).decisionDeviceId,
      (askedStore.devices.get? id).isSome = true := by
    rw [hdevice]
    rintro _ ⟨⟩
  refine pass (check_true hforeign) ?_
  have hmodify : (oneRow platesConsent : Table ConsentRecord.consentId).modify
      platesConsent.consentId ((portalApproval seconds).candidate .approved)
      ((portalApproval seconds).candidate_consentId .approved) = oneRow (approvedConsent seconds) :=
    modify_oneRow _ _ _
  have happroved : (approvedStore seconds).consents.get? (approvedConsent seconds).consentId =
      some (approvedConsent seconds) := Table.get?_of_mem List.mem_cons_self
  have hafter := consent_of_row happroved hvalid
  have hstore : { askedStore with
      consents := askedStore.consents.modify (portalApproval seconds).consentId
        ((portalApproval seconds).candidate .approved)
        ((portalApproval seconds).candidate_consentId .approved) } = approvedStore seconds :=
    congrArg (fun consents => { askedStore with consents := consents }) hmodify
  rw [hstore]
  exact bind_eq_ok.mpr ⟨some (approvedConsent seconds), hafter, rfl⟩

/-- The payload of the commit, before it names its intent. -/
def platesExecution : List (String × Json) :=
  [("program_digest", .str someDigest), ("execution_digest", .str someDigest),
    ("document_id", .str "drawing-1"), ("expected_document_revision", .str "r7"),
    ("preview_id", .str "preview-1"), ("preview_digest", .str someDigest),
    ("receipt_id", .str "receipt-1")]

def platesPayload : Json := .obj [("execution", .obj platesExecution)]

def releasedPayload : Json :=
  .obj [("execution", .obj (platesExecution ++ [("intent_id", .str platesIntent.intentId),
    ("intent_digest", .str platesIntent.intentDigest)]))]

def platesRelease (seconds : Int) : ReleaseIntent where
  ownerSubject := "owner-1"
  intentId := platesIntent.intentId
  jobId := stableId officeCodec "job" [platesIntent.intentId]
  commandId := stableId officeCodec "command" [platesIntent.intentId]
  idempotencyKey := stableId officeCodec "release" [platesIntent.intentId]
  payloadHash := someHash (compact releasedPayload)
  payload := releasedPayload
  deadlineAt := newYearText (newYear + 300 * second)
  kind := "program_commit"
  expectedIntentVersion := 0
  consumedAt := newYearText (newYear + seconds * second)
  consentId := some platesConsent.consentId
  expectedConsentVersion := some 1
  usageEventId := "usage-1"

theorem plates_calls (seconds : Int) : office.releaseCall (approvedStore seconds) platesIntent
    (some (approvedConsent seconds)) platesPayload "usage-1" (newYear + seconds * second) =
      .ok (platesRelease seconds) := by
  have hpayload : Admission.bindApproval false platesIntent platesPayload = .ok releasedPayload := by
    decide +kernel
  have hcreatedAt : office.instant platesIntent.createdAt = .ok newYear :=
    Admission.instant_eq_ok.mpr (by decide +kernel)
  refine bind_eq_ok.mpr ⟨releasedPayload, hpayload, ?_⟩
  exact bind_eq_ok.mpr ⟨newYear, hcreatedAt, rfl⟩

theorem plates_clear (seconds : Int)
    (hprepared : ((platesRelease seconds).prepare officeCodec).toOption.isSome = true) :
    Unobstructed officeCodec (approvedStore seconds) (platesRelease seconds) platesIntent where
  waiting := List.mem_cons_self
  prepared := by
    cases h : (platesRelease seconds).prepare officeCodec with
    | error failure =>
        rw [h] at hprepared
        cases hprepared
    | ok out => exact ⟨out.1, out.2, rfl⟩
  bound := by
    have hkind : (platesRelease seconds).kind = platesIntent.action.kind.name := rfl
    have hpayload : requireJobBinding platesIntent releasedPayload = .ok () := by decide +kernel
    have hclaims : claimsPhase8 releasedPayload = false := by decide +kernel
    refine pass (check_true hkind) ?_
    refine pass hpayload ?_
    exact check_true hclaims
  newJob := List.forall_mem_nil _
  newEvents := List.forall_mem_nil _
  freeDocument := rfl
  freeLock := List.forall_mem_nil _
  sole := by
    intro r hr
    obtain rfl := List.mem_singleton.mp hr
    exact Or.inl rfl
  usage := ⟨_, rfl⟩
  valid := by
    have hvalid : ((platesRelease 0).set platesIntent).validate officeCodec = .ok () := by
      decide +kernel
    exact hvalid

/-- Approved after four minutes, the commit is released. -/
theorem fourMinutes_released : office.TakesEffect (approvedStore 240) platesIntent
    (approvedConsent 240) platesPayload "usage-1" (newYear + 240 * second) := by
  have hvalid : (approvedConsent 240).validate officeCodec = .ok () := by decide +kernel
  have htimely : before officeCodec (newYearText (newYear + 240 * second))
      platesConsent.expiresAt = .ok true := by decide +kernel
  have hdates : ∀ n ∈ [newYear, Admission.intentExpiry (newYear + 900 * second) newYear,
      newYear + office.policy.jobDeadlineSeconds * second, newYear + 240 * second],
      office.codec.timestamp (office.isoformat n) = some ⟨true, n⟩ := by decide +kernel
  have hdecides : office.Decides (runFrom (eventStep office.codec) askedStore [])
      (approvedStore 240) platesIntent platesConsent (approvedConsent 240)
      (office.approval platesConsent .portalRecentAuth ⟨"portal", "owner-1"⟩ none
        (newYear + 240 * second)) := plates_decides 240 hvalid htimely
  have hclear : Unobstructed office.codec (approvedStore 240) (platesRelease 240) platesIntent :=
    plates_clear 240 (by decide +kernel)
  have hearly : newYear + 240 * second <
      newYear + office.policy.jobDeadlineSeconds * second := by decide
  exact (Admission.takesEffect_iff plates_creates platesExpiry hdates rfl rfl hdecides
    (plates_calls 240) hclear).mpr hearly

/-- Approved after nine minutes, a minute before the consent expires, it is refused. -/
theorem nineMinutes_refused :
    office.Creates officeStore platesCommit newYear platesIntent platesConsent askedStore ∧
    office.Decides askedStore (approvedStore 540) platesIntent platesConsent (approvedConsent 540)
      (portalApproval 540) ∧
    Unobstructed office.codec (approvedStore 540) (platesRelease 540) platesIntent ∧
    office.currentOrRelease (approvedStore 540) (.ok ()) platesIntent (some (approvedConsent 540))
      platesPayload "usage-1" (newYear + 540 * second) =
        .error (.gatewayError "job_deadline_invalid") ∧
    ¬ office.TakesEffect (approvedStore 540) platesIntent (approvedConsent 540) platesPayload
      "usage-1" (newYear + 540 * second) := by
  have hvalid : (approvedConsent 540).validate officeCodec = .ok () := by decide +kernel
  have htimely : before officeCodec (newYearText (newYear + 540 * second))
      platesConsent.expiresAt = .ok true := by decide +kernel
  have hpreview : before officeCodec (newYearText (newYear + 540 * second))
      platesIntent.previewExpiresAt = .ok true := by decide +kernel
  have hlate : before officeCodec (newYearText (newYear + 540 * second))
      (newYearText (newYear + 300 * second)) = .ok false := by decide +kernel
  have hdecides := plates_decides 540 hvalid htimely
  have hclear := plates_clear 540 (by decide +kernel)
  have hrow : (approvedStore 540).intents.get? platesIntent.intentId = some platesIntent :=
    Table.get?_of_mem List.mem_cons_self
  obtain ⟨_, hcalls⟩ := Admission.releaseCall_ok (plates_calls 540)
  have hrefused := Admission.late_refused (plates_calls 540) hcalls rfl
    (intent_of_row hrow platesIntent_valid) hclear htimely hpreview hlate
  refine ⟨plates_creates, hdecides, hclear, hrefused, ?_⟩
  rintro ⟨released, s', deadlineAt, hok, -⟩
  rw [hrefused] at hok
  cases hok

end AutocadMcp.Approval
