import AutocadMcp.Gateway.RowOrigins

/-!
# What a succeeded job has proved

A typed result names a kind and a binding, and the Gateway takes it only for the job that has both.
An untyped result names neither, and nothing looks at the kind of the job it is for: it settles a
Program or rollback job as well, and no check of a binding is made.
-/

namespace AutocadMcp.Gateway

/-- The kinds whose jobs have an execution binding. -/
def isTyped (kind : JobKind) : Bool := kind.isProgram || kind.isRollback

/-- The digests of the plan that a result repeats from the binding. -/
def boundDigests : List String :=
  ["execution_plan_digest", "effect_manifest_digest", "target_refs_digest", "hard_budgets_digest"]

/-- The result repeats the digests of the binding, the rollout digest of the pins of its plan, and,
but for a preview, whose binding has none, the receipt. -/
structure CarriesBinding (kind : JobKind) (payload binding value : Json) : Prop where
  digests : ∀ name ∈ boundDigests, ∃ d, binding.get? name = some d ∧ value.get? name = some d
  rollout : ∃ plan pins d, payload.get? "execution_plan" = some plan ∧
    plan.get? "execution_pins" = some pins ∧ pins.get? "rollout_policy_digest" = some d ∧
    value.get? "rollout_policy_digest" = some d
  receipt : kind ≠ .programPreview → value.get? "receipt_id" = binding.get? "receipt_id"

/-- The binding that the job was created with. -/
def IsDurableBinding (job : JobRow) (binding : Json) : Prop :=
  if job.kind.isProgram then programResultBinding job = .ok binding
  else job.payload.get? "binding" = some binding

/-- The message names the kind and the binding of the job, and carries the binding of a Phase 8
plan in its result. -/
structure Proves (m : AgentMessage) (job : JobRow) : Prop where
  claim : ∃ binding, claimOf m = some (job.kind, binding) ∧ IsDurableBinding job binding
  carries : job.kind.isProgram = true → isExecutionBinding job.payload = true →
    ∃ binding value, job.payload.dict? "binding" = some binding ∧ resultOf m = some value ∧
      CarriesBinding job.kind job.payload binding value

/-! ## The checks of a result -/

theorem index_ok {value d : Json} {key : String} (h : index value key = .ok d) :
    value.get? key = some d := by
  unfold index at h
  split at h
  · next field hfield =>
      cases h
      exact hfield
  · cases h

theorem phase8Digests_ok {payload binding : Json} {expected : List (String × Json)}
    (h : phase8Digests payload binding = .ok expected) :
    ∃ plan d1 d2 d3 d4 pins d5, payload.get? "execution_plan" = some plan ∧
      binding.get? "execution_plan_digest" = some d1 ∧
      binding.get? "effect_manifest_digest" = some d2 ∧
      binding.get? "target_refs_digest" = some d3 ∧
      binding.get? "hard_budgets_digest" = some d4 ∧
      plan.get? "execution_pins" = some pins ∧ pins.get? "rollout_policy_digest" = some d5 ∧
      expected = [("execution_plan_digest", d1), ("effect_manifest_digest", d2),
        ("target_refs_digest", d3), ("hard_budgets_digest", d4), ("rollout_policy_digest", d5)] := by
  unfold phase8Digests at h
  obtain ⟨plan, hplan, h⟩ := bind_eq_ok.mp h
  obtain ⟨d1, h1, h⟩ := bind_eq_ok.mp h
  obtain ⟨d2, h2, h⟩ := bind_eq_ok.mp h
  obtain ⟨d3, h3, h⟩ := bind_eq_ok.mp h
  obtain ⟨d4, h4, h⟩ := bind_eq_ok.mp h
  obtain ⟨pins, hpins, h⟩ := bind_eq_ok.mp h
  obtain ⟨d5, h5, h⟩ := bind_eq_ok.mp h
  cases h
  exact ⟨plan, d1, d2, d3, d4, pins, d5, index_ok hplan, index_ok h1, index_ok h2, index_ok h3,
    index_ok h4, index_ok hpins, index_ok h5, rfl⟩

theorem normalizePhase8_ok {job : JobRow} {kind : JobKind} {binding value stored : Json}
    (h : normalizePhase8 job kind binding value = .ok stored) :
    CarriesBinding kind job.payload binding value := by
  unfold normalizePhase8 at h
  obtain ⟨expected, hexpected, h⟩ := bind_eq_ok.mp h
  obtain ⟨_, hdigests, h⟩ := bind_eq_ok.mp h
  obtain ⟨_, hevidence, -⟩ := bind_eq_ok.mp h
  rw [check_eq_ok] at hdigests hevidence
  obtain ⟨plan, d1, d2, d3, d4, pins, d5, hplan, h1, h2, h3, h4, hpins, h5, rfl⟩ :=
    phase8Digests_ok hexpected
  simp only [List.forall_mem_cons] at hdigests
  obtain ⟨v1, v2, v3, v4, v5, -⟩ := hdigests
  refine ⟨?_, ⟨plan, pins, d5, hplan, hpins, h5, v5⟩, fun hkind => ?_⟩
  · simp only [boundDigests, List.forall_mem_cons]
    exact ⟨⟨d1, h1, v1⟩, ⟨d2, h2, v2⟩, ⟨d3, h3, v3⟩, ⟨d4, h4, v4⟩, nofun⟩
  · rw [phase8Evidence, if_neg hkind, Bool.and_eq_true, decide_eq_true_eq] at hevidence
    exact hevidence.1

theorem normalizeProgramResult_carries {job : JobRow} {m : TypedResultMessage} {stored : Json}
    (h : normalizeProgramResult job m = .ok (some stored))
    (hplan : isExecutionBinding job.payload = true) :
    ∃ binding value, job.payload.dict? "binding" = some binding ∧ m.result = some value ∧
      CarriesBinding m.kind job.payload binding value := by
  unfold normalizeProgramResult at h
  split at h
  · cases h
  · next value hvalue =>
      rcases hbinding : job.payload.dict? "binding" with _ | binding
      · rw [isExecutionBinding, hbinding] at hplan
        cases hplan
      · rw [hbinding] at h
        dsimp only at h
        rw [if_pos hplan] at h
        rcases hnormal : normalizePhase8 job m.kind binding value with e | v
        · rw [hnormal] at h
          cases h
        · exact ⟨binding, value, rfl, hvalue, normalizePhase8_ok hnormal⟩

theorem storedOf_succeeded {cfg : Config} {job : JobRow} {o : Outcome}
    (h : (storedOf cfg job o).target = .succeeded) (hkind : job.kind ≠ .observe) :
    o.target = .succeeded ∧ (storedOf cfg job o).result = o.result := by
  unfold storedOf at h ⊢
  split at h
  · next htarget =>
      rw [if_neg hkind]
      exact ⟨htarget, rfl⟩
  · cases h
  · cases h
  · next htarget _ _ => exact absurd h htarget

theorem targetOf_succeeded {status : ResultStatus} (h : targetOf status = .succeeded) :
    status = .succeeded := by
  cases status <;> first | rfl | cases h

/-! ## Steps -/

/-- The message is an untyped result that reports the success of a job of a typed kind, and the job
may still succeed. -/
def succeedsUntyped : AgentMessage → JobRow → Bool
  | .result r, job =>
      isTyped job.kind && r.status = .succeeded && r.payloadHash = job.payloadHash &&
        (validateTransition job.state .succeeded job.effectClass true).isOk
  | _, _ => false

/-- No message is handled that reports the success of a typed job without its type. -/
def SparesTyped (cfg : Config) (w : World) (e : Event) : Prop :=
  ∀ handled ∈ handled? cfg w e, succeedsUntyped handled.1 handled.2 = false

instance decidableSparesTyped (cfg : Config) (w : World) (e : Event) :
    Decidable (SparesTyped cfg w e) :=
  inferInstanceAs (Decidable (∀ handled ∈ handled? cfg w e,
    succeedsUntyped handled.1 handled.2 = false))

section

variable {cfg : Config} {w : World} {e : Event} {g : GatewayState} {row row' : JobRow}

theorem isTyped_ne_observe {kind : JobKind} (h : isTyped kind = true) : kind ≠ .observe := by
  rintro rfl
  cases h

/-- What a handled message that reports success has proved. -/
theorem reported_proves (hspares : SparesTyped cfg w e) {m : AgentMessage} {job : JobRow}
    {o : Outcome} (hhandled : handled? cfg w e = some (m, job)) (htyped : isTyped job.kind = true)
    (h : Reported m job o) (hsucceeded : o.target = .succeeded)
    (hcan : validateTransition job.state .succeeded job.effectClass true = .ok ())
    (hresult : job.kind.isProgram = true → ∃ value, o.result = some value) : Proves m job := by
  have hvalid := handled?_valid hhandled
  cases h with
  | untyped hpayload r hm ho =>
      subst hm ho
      have hstatus : r.status = .succeeded := targetOf_succeeded hsucceeded
      have hsame : r.payloadHash = job.payloadHash := hpayload
      have hspared : succeedsUntyped (.result r) job = false := hspares (.result r, job) hhandled
      simp [succeedsUntyped, htyped, hstatus, hsame, hcan, Except.isOk, Except.toBool] at hspared
  | program hpayload typed hclaim hresultOf hbinding normalized hnormal ho hstatus hdirect =>
      subst ho
      obtain ⟨_, hkind, h⟩ := bind_eq_ok.mp hbinding
      obtain ⟨expected, hexpected, h⟩ := bind_eq_ok.mp h
      rw [check_eq_ok] at hkind h
      have hprogram : job.kind.isProgram = true := by
        by_contra hnot
        have hm := hdirect (Bool.eq_false_iff.mpr hnot)
        rw [hm] at hvalid
        simp only [AgentMessage.valid, TypedResultMessage.validProgram, Bool.and_eq_true] at hvalid
        rw [hkind] at hvalid
        exact hnot hvalid.2.1
      refine ⟨⟨typed.binding, ?_, ?_⟩, fun _ hplan => ?_⟩
      · rw [← hkind]
        exact hclaim
      · rw [IsDurableBinding, if_pos hprogram, h]
        exact hexpected
      · obtain ⟨value, hvalue⟩ := hresult hprogram
        have hsome : normalized = some value := hvalue
        rw [hsome] at hnormal
        obtain ⟨binding, sent, hbound, hsent, hcarries⟩ :=
          normalizeProgramResult_carries hnormal hplan
        rw [hkind] at hcarries
        exact ⟨binding, sent, hbound, hresultOf.trans hsent, hcarries⟩
  | rollback hpayload typed hclaim hbinding ho hstatus hdirect =>
      subst ho
      unfold validateRollbackResultBinding at hbinding
      rw [check_eq_ok] at hbinding
      obtain ⟨-, hkind, hbound⟩ := hbinding
      have hother : job.kind.isProgram = false := by
        by_contra hnot
        have hprogram : job.kind.isProgram = true := by simpa using hnot
        have hm := hdirect hprogram
        rw [hm] at hvalid
        simp only [AgentMessage.valid, TypedResultMessage.validRollback, Bool.and_eq_true] at hvalid
        rw [hkind] at hvalid
        have hrollback := hvalid.2.1
        revert hprogram hrollback
        cases job.kind <;> simp [JobKind.isProgram, JobKind.isRollback]
      refine ⟨⟨typed.binding, ?_, ?_⟩, fun hprogram => ?_⟩
      · rw [← hkind]
        exact hclaim
      · rw [IsDurableBinding, if_neg (by rw [hother]; exact Bool.false_ne_true)]
        exact hbound
      · rw [hother] at hprogram
        cases hprogram
  | reconciled hpayload r hm hother =>
      rw [isTyped, hother.1, hother.2] at htyped
      cases htyped

/-- The event handles a message that proves what it reports for a job with this identity. -/
def Settled (cfg : Config) (w : World) (e : Event) (row : JobRow) : Prop :=
  isTyped row.kind = true → ∃ m job, handled? cfg w e = some (m, job) ∧
    job.identity = row.identity ∧ Proves m job

/-- The row keeps its identity, and does not succeed without proof. -/
structure SucceedsProved (cfg : Config) (w : World) (e : Event) (row row' : JobRow) : Prop where
  identity : row'.identity = row.identity
  proved : row'.state = .succeeded → row.state = .succeeded ∨ Settled cfg w e row'

namespace SucceedsProved

theorem refl (row : JobRow) : SucceedsProved cfg w e row row := ⟨rfl, Or.inl⟩

theorem kind_of_identity {row row' : JobRow} (h : row'.identity = row.identity) :
    row'.kind = row.kind := congrArg (fun i => i.2.2.2.1) h

theorem trans {x y z : JobRow} (h : SucceedsProved cfg w e x y) (h' : SucceedsProved cfg w e y z) :
    SucceedsProved cfg w e x z := by
  refine ⟨h'.identity.trans h.identity, fun hz => ?_⟩
  rcases h'.proved hz with hy | hsettled
  · rcases h.proved hy with hx | hsettled
    · exact Or.inl hx
    · refine Or.inr fun htyped => ?_
      rw [kind_of_identity h'.identity] at htyped
      obtain ⟨m, job, hhandled, hidentity, hproves⟩ := hsettled htyped
      exact ⟨m, job, hhandled, hidentity.trans h'.identity.symm, hproves⟩
  · exact Or.inr hsettled

theorem of_state {row row' : JobRow} (hidentity : row'.identity = row.identity)
    (hstate : row'.state = row.state) : SucceedsProved cfg w e row row' :=
  ⟨hidentity, fun h => Or.inl (hstate.symm.trans h)⟩

theorem of_target {row row' : JobRow} (hidentity : row'.identity = row.identity)
    (hstate : row'.state ≠ .succeeded) : SucceedsProved cfg w e row row' :=
  ⟨hidentity, fun h => absurd h hstate⟩

end SucceedsProved

/-- No reason to move a job makes it succeed. -/
theorem allows_not_succeeded {now : Instant} {row : JobRow} {a : Transition} {reason : Reason}
    (h : reason.Allows now row a) : a.target ≠ .succeeded := by
  have hsettled : settledTarget row ≠ .succeeded := by
    unfold settledTarget
    split <;> nofun
  have hlost : lostTarget row ≠ .succeeded := by
    unfold lostTarget
    split <;> nofun
  cases reason with
  | refused => exact h.2.1 ▸ nofun
  | offline => exact h.2 ▸ nofun
  | lost => exact h.2 ▸ hlost
  | expired => exact h.2.2 ▸ hsettled
  | mismatched => exact (show a.target = settledTarget row from h) ▸ hsettled
  | frozen =>
      rcases h with ⟨-, h⟩ | ⟨-, h⟩
      · exact h ▸ nofun
      · exact h ▸ nofun
  | accepted => exact h.2 ▸ nofun
  | rejected => exact h.2 ▸ nofun
  | progressed => exact h.2 ▸ nofun
  | reportedUnknown => exact (show a.target = .outcomeUnknown from h) ▸ nofun
  | unproven =>
      rcases h with ⟨-, h⟩ | ⟨h, -⟩
      · exact h ▸ nofun
      · exact h ▸ nofun
  | reconciled =>
      rcases h.2 with ⟨-, h⟩ | ⟨-, -, h⟩ | ⟨-, -, h⟩ | ⟨-, h⟩
      · exact h ▸ nofun
      · exact h ▸ nofun
      · exact h ▸ nofun
      · rw [h]
        split <;> nofun
  | recancelled => exact (show a.target = .cancelRequested from h) ▸ nofun
  | claimed => cases h
  | cancelled => cases h
  | restarted => cases h

theorem cancelTarget_not_succeeded {s target : JobState} (h : cancelTarget s = some target) :
    target ≠ .succeeded := by
  cases s <;> cases h <;> nofun

theorem issued_succeedsProved (hspares : SparesTyped cfg w e) {env : Env} {c : Call}
    (h : Issued cfg env Held (e.Gives cfg w) (e.Reports cfg w) g (.call c))
    (hrow : g.db.job? row.jobId = some row) (hmove : CallMove row c row') :
    SucceedsProved cfg w e row row' := by
  cases h with
  | move reason hreason hread hallows =>
      cases hmove with
      | kept => exact .refl row
      | moved hid _ _ =>
          obtain rfl := held_eq hrow hread hid
          exact .of_target rfl (allows_not_succeeded hallows)
  | claim hreason hread hqueued =>
      cases hmove with
      | kept => exact .refl row
      | claimed hid _ => exact .of_target rfl nofun
  | cancel hreason hread =>
      cases hmove with
      | kept => exact .refl row
      | cancelled hid _ _ htarget => exact .of_target rfl (cancelTarget_not_succeeded htarget)
  | progress hreason =>
      cases hmove with
      | kept => exact .refl row
      | progressed _ => exact .of_state rfl rfl
  | sessions hreason =>
      cases hmove
      exact .refl row
  | release hinactive =>
      cases hmove
      exact .refl row
  | releaseSettled hreason hsettled =>
      cases hmove
      exact .refl row
  | @finalizeProgram job o hook hread hkind hrep hhook =>
      cases hmove with
      | kept => exact .refl row
      | finalizedProgram hid hvalid hresult =>
          obtain rfl := held_eq hrow hread hid
          refine ⟨rfl, fun hsucceeded => Or.inr fun htyped => ?_⟩
          obtain ⟨m, hhandled, hreported⟩ := hrep
          obtain ⟨htarget, hstored⟩ := storedOf_succeeded hsucceeded (isTyped_ne_observe htyped)
          refine ⟨m, job, hhandled, rfl,
            reported_proves hspares hhandled htyped hreported htarget (hsucceeded ▸ hvalid)
              fun _ => ?_⟩
          obtain ⟨value, hvalue, -⟩ := hresult hsucceeded
          exact ⟨value, hstored.symm.trans hvalue⟩
  | @finalizeRollback job o hook hread hkind hrep hhook =>
      cases hmove with
      | kept => exact .refl row
      | finalizedJob hid _ hvalid =>
          obtain rfl := held_eq hrow hread hid
          refine ⟨rfl, fun hsucceeded => Or.inr fun htyped => ?_⟩
          obtain ⟨m, hhandled, hreported⟩ := hrep
          obtain ⟨htarget, -⟩ := storedOf_succeeded hsucceeded (isTyped_ne_observe htyped)
          refine ⟨m, job, hhandled, rfl,
            reported_proves hspares hhandled htyped hreported htarget (hsucceeded ▸ hvalid)
              fun hprogram => ?_⟩
          revert hprogram hkind
          cases job.kind <;> simp [JobKind.isProgram, JobKind.isRollback]
  | @finalizeOther job o snapshot hread hkind hrep =>
      cases hmove with
      | kept => exact .refl row
      | finalizedJob hid _ _ =>
          obtain rfl := held_eq hrow hread hid
          refine ⟨rfl, fun _ => Or.inr fun htyped => ?_⟩
          change isTyped job.kind = true at htyped
          rw [isTyped, hkind.1, hkind.2] at htyped
          cases htyped

theorem moves_succeedsProved (hspares : SparesTyped cfg w e) (h : Moves cfg w e row row') :
    SucceedsProved cfg w e row row' := by
  obtain ⟨g, c, hallowed, hrow, hmove⟩ := h
  cases hallowed with
  | handled henv hissued => exact issued_succeedsProved hspares hissued hrow hmove
  | create hcreation =>
      cases hmove with
      | kept => exact .refl row
      | fingerprinted a fingerprint => exact .of_state rfl rfl
      | _ => cases e <;> cases hcreation
  | activate deviceId sessionId =>
      cases hmove
      exact .refl row
  | close deviceId sessionId =>
      cases hmove
      exact .refl row

end

/-! ## Runs -/

/-- A step of the run made the job succeed, on a message that proves the binding of the job. -/
def SucceededOnProof (cfg : Config) (db : Db) (events : List Event) (j : JobId) (row : JobRow) :
    Prop :=
  ∃ pre e post m job, events = pre ++ e :: post ∧
    (∀ before, (runEvents cfg db pre).gateway.db.job? j = some before →
      before.state ≠ .succeeded) ∧
    (∃ after, (runEvents cfg db (pre ++ [e])).gateway.db.job? j = some after ∧
      after.state = .succeeded) ∧
    handled? cfg (runEvents cfg db pre) e = some (m, job) ∧ job.identity = row.identity ∧
    Proves m job

theorem SucceededOnProof.later {cfg : Config} {db : Db} {events : List Event} {j : JobId}
    {row row' : JobRow} (h : SucceededOnProof cfg db events j row)
    (hidentity : row'.identity = row.identity) (e : Event) :
    SucceededOnProof cfg db (events ++ [e]) j row' := by
  obtain ⟨pre, first, post, m, job, rfl, hbefore, hafter, hhandled, hjob, hproves⟩ := h
  refine ⟨pre, first, post ++ [e], m, job, ?_, hbefore, hafter, hhandled,
    hjob.trans hidentity.symm, hproves⟩
  rw [List.append_assoc, List.cons_append]

/-- **A typed job succeeds on a proof of its binding**, in every run in which no untyped result
reports the success of such a job. -/
theorem succeeds_on_proof (cfg : Config) (db : Db) (events : List Event)
    (h : Along (World.step cfg) (SparesTyped cfg) (World.initial db) events) (j : JobId)
    (row : JobRow) (hrow : (runEvents cfg db events).gateway.db.job? j = some row)
    (htyped : isTyped row.kind = true) (hsucceeded : row.state = .succeeded) :
    SucceededOnProof cfg db events j row := by
  induction events using List.reverseRecOn generalizing row with
  | nil => cases hrow
  | append_singleton events e ih =>
      obtain ⟨halong, hspares, -⟩ := along_append.mp h
      have hlast : runEvents cfg db (events ++ [e]) =
          World.step cfg (runEvents cfg db events) e := by
        unfold runEvents
        rw [runFrom_append]
        rfl
      have hafter := hrow
      rw [hlast] at hrow
      have hsettled : Settled cfg (runEvents cfg db events) e row →
          (∀ before, (runEvents cfg db events).gateway.db.job? j = some before →
            before.state ≠ .succeeded) → SucceededOnProof cfg db (events ++ [e]) j row := by
        intro hsettled hbefore
        obtain ⟨m, job, hhandled, hidentity, hproves⟩ := hsettled htyped
        exact ⟨events, e, [], m, job, rfl, hbefore, ⟨row, hafter, hsucceeded⟩, hhandled, hidentity,
          hproves⟩
      have horigin : Origin (runEvents cfg db events) j
          (SucceedsProved cfg (runEvents cfg db events) e)
          (World.step cfg (runEvents cfg db events) e).gateway :=
        step_origin .refl (fun _ _ _ => .trans) fun _ _ => moves_succeedsProved hspares
      rcases horigin.origin row hrow with ⟨first, hfirst, hproved⟩ | ⟨hnone, new, hnew, hproved⟩
      · have hkind := SucceedsProved.kind_of_identity hproved.identity
        by_cases hearlier : first.state = .succeeded
        · exact (ih halong first hfirst (hkind ▸ htyped) hearlier).later hproved.identity e
        · refine hsettled ((hproved.proved hsucceeded).resolve_left hearlier) ?_
          intro before hbefore
          rw [hfirst] at hbefore
          cases hbefore
          exact hearlier
      · have hqueued : new.state ≠ .succeeded := by
          rw [hnew.queued]
          nofun
        refine hsettled ((hproved.proved hsucceeded).resolve_left hqueued) ?_
        intro before hbefore
        rw [hnone] at hbefore
        cases hbefore

/-- The Agent reports the sample commit with its kind, its binding and its receipt. -/
def sampleCommitted : TypedResultMessage where
  sessionId := 1
  deviceId := 1
  jobId := 10
  commandId := 20
  sequence := 2
  payloadHash := 0
  kind := .programCommit
  status := .succeeded
  binding := sampleBinding
  result := some (.obj [
    ("execution_plan_digest", .str "sha256:d1"),
    ("effect_manifest_digest", .str "sha256:d2"),
    ("target_refs_digest", .str "sha256:d3"),
    ("hard_budgets_digest", .str "sha256:d4"),
    ("rollout_policy_digest", .str "sha256:d5"),
    ("receipt_id", .str "receipt-1"),
    ("milestone", .str "effect_and_receipt_committed")])
  errorCode := none

/-- The sample commit is accepted and reported as committed. -/
def sampleProven : List Event :=
  sampleDispatch ++ [.message { now := 300 } 1 (.ack sampleAccepted),
    .message { now := 400 } 1 (.programResult sampleCommitted)]

theorem sampleProven_there :
    ((runEvents sampleConfig sampleDb sampleProven).gateway.db.job? 10).isSome = true := by
  decide +kernel

/-- The row of the sample commit after it was reported. -/
def sampleProvenRow : JobRow :=
  ((runEvents sampleConfig sampleDb sampleProven).gateway.db.job? 10).get sampleProven_there

theorem succeeds_on_proof_committed :
    SucceededOnProof sampleConfig sampleDb sampleProven 10 sampleProvenRow :=
  succeeds_on_proof sampleConfig sampleDb sampleProven (by decide +kernel) 10 sampleProvenRow
    (Option.some_get sampleProven_there).symm (by decide +kernel) (by decide +kernel)

/-- A result of the sample commit that names no kind and no binding. -/
def sampleUntyped : ResultMessage where
  sessionId := 1
  deviceId := 1
  jobId := 10
  commandId := 20
  sequence := 2
  payloadHash := 0
  status := .succeeded
  result := some (.obj [])
  errorCode := none

/-- The sample commit is accepted and reported without its type. -/
def sampleUnproven : List Event :=
  sampleDispatch ++ [.message { now := 300 } 1 (.ack sampleAccepted),
    .message { now := 400 } 1 (.result sampleUntyped)]

theorem sampleUnproven_there :
    ((runEvents sampleConfig sampleDb sampleUnproven).gateway.db.job? 10).isSome = true := by
  decide +kernel

/-- The commit succeeds, and no message of the run claimed its binding. -/
theorem untyped_result_succeeds :
    ∃ row, (runEvents sampleConfig sampleDb sampleUnproven).gateway.db.job? 10 = some row ∧
      isTyped row.kind = true ∧ row.state = .succeeded ∧
      ¬ SucceededOnProof sampleConfig sampleDb sampleUnproven 10 row := by
  refine ⟨_, (Option.some_get sampleUnproven_there).symm, by decide +kernel, by decide +kernel, ?_⟩
  rintro ⟨pre, e, post, m, job, hevents, -, -, hhandled, -, hproves⟩
  obtain ⟨env, sessionId, connection, rfl, -⟩ := handled?_some hhandled
  obtain ⟨binding, hclaim, -⟩ := hproves.claim
  have hmem : Event.message env sessionId m ∈ sampleUnproven := by
    rw [hevents]
    exact List.mem_append_right pre List.mem_cons_self
  simp only [sampleUnproven, sampleDispatch, sampleSession, List.cons_append, List.nil_append,
    List.mem_cons, reduceCtorEq, false_or, or_false, List.not_mem_nil,
    Event.message.injEq] at hmem
  rcases hmem with ⟨-, -, rfl⟩ | ⟨-, -, rfl⟩
  · cases hclaim
  · cases hclaim

end AutocadMcp.Gateway
