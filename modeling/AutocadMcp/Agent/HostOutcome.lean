import AutocadMcp.Agent.ProgramExecutor
import AutocadMcp.Agent.StartedEntries

/-!
# What the ledger says of a commit that the Host carried out

The core and its Program executor in one machine: the outcome of an execution is
the one that `execute` computes from its surroundings. A commit that the Host
carried out is recorded as failed exactly when the Host's answer does not repeat
what the plan promises, because the errors of the result checks are not among the
codes after which a commit may have taken effect.
-/

namespace AutocadMcp.Agent

open JsonText CanonicalJson

/-! ## The checks on the answer -/

/-- Every error is a code that the core takes for a definite failure. -/
def Definite {α : Type} (x : Except Raised α) : Prop :=
  ∀ e, x = .error e → ∃ code, e = .agent code ∧ code ∉ uncertainCodes

theorem definite_ok {α : Type} (a : α) : Definite (.ok a : Except Raised α) := by
  rintro _ ⟨⟩

theorem definite_check {p : Prop} [Decidable p] {code : String} (h : code ∉ uncertainCodes) :
    Definite (check p (.agent code)) := by
  intro e he
  unfold check at he
  split at he
  · cases he
  · cases he
    exact ⟨code, rfl, h⟩

theorem Definite.bind {α β : Type} {x : Except Raised α} {f : α → Except Raised β}
    (hx : Definite x) (hf : ∀ a, Definite (f a)) : Definite (x >>= f) := by
  intro e he
  cases x with
  | error e' =>
      cases he
      exact hx _ rfl
  | ok a => exact hf a e he

namespace VerifiedPhase8Plan

/-- A checkpoint of the second version, with a digest. -/
def HasCheckpoint (value : Doc) : Prop :=
  ∃ members, field value "checkpoint" = some (.object members) ∧
    fieldIs (.object members) "schema_version" (some "cad.rollback.checkpoint/2") = true ∧
    ∃ digest, field (.object members) "digest" = some (.string digest) ∧ isSha256 digest = true

/-- The answer is within the byte limit, repeats the digests of the plan and the identity of the
effect, and carries a checkpoint where the plan modifies entities. -/
structure Matches (p : VerifiedPhase8Plan) (value : Doc) : Prop where
  size : encodedLength value ≤ p.hardResultBytes
  digests : ∀ d ∈ p.expected, fieldIs value d.1 (some d.2.1) = true
  identity : fieldIs value "effect_identity_digest" p.effectIdentityDigest = true
  checkpoint : p.modifiesEntities = true → HasCheckpoint value

theorem checkDigests_eq_ok {value : Doc} {digests : List (String × String × String)} :
    checkDigests value digests = .ok () ↔
      ∀ d ∈ digests, fieldIs value d.1 (some d.2.1) = true := by
  induction digests with
  | nil => simp [checkDigests]
  | cons d rest ih =>
      obtain ⟨key, exact, error⟩ := d
      rw [checkDigests, bind_eq_ok, List.forall_mem_cons]
      simp only [check_eq_ok, ih, exists_const]

theorem definite_checkDigests {value : Doc} {digests : List (String × String × String)}
    (h : ∀ d ∈ digests, d.2.2 ∉ uncertainCodes) : Definite (checkDigests value digests) := by
  induction digests with
  | nil => exact definite_ok ()
  | cons d rest ih =>
      obtain ⟨key, exact, error⟩ := d
      rw [List.forall_mem_cons] at h
      exact (definite_check h.1).bind fun _ => ih h.2

theorem checkCheckpoint_eq_ok {value : Doc} :
    checkCheckpoint value = .ok () ↔ HasCheckpoint value := by
  unfold checkCheckpoint HasCheckpoint
  dsimp only
  constructor
  · intro h
    obtain ⟨_, hobject, h⟩ := bind_eq_ok.mp h
    obtain ⟨_, hversion, h⟩ := bind_eq_ok.mp h
    rw [check_eq_ok] at hobject hversion
    cases hfield : field value "checkpoint" with
    | none => simp [hfield, isObject] at hobject
    | some checkpoint =>
        simp only [hfield, Option.getD_some] at hobject hversion h
        cases checkpoint with
        | object members =>
            refine ⟨members, rfl, hversion, ?_⟩
            split at h
            · rename_i digest hdigest
              exact ⟨digest, hdigest, check_eq_ok.mp h⟩
            · cases h
        | _ => cases hobject
  · rintro ⟨members, hfield, hversion, digest, hdigest, hsha⟩
    simp only [hfield, Option.getD_some, hdigest]
    exact pass (check_true rfl) (pass (check_true hversion) (check_true hsha))

theorem definite_checkCheckpoint {value : Doc} : Definite (checkCheckpoint value) := by
  have hcode : "checkpoint_mismatch" ∉ uncertainCodes := by decide
  unfold checkCheckpoint
  dsimp only
  refine (definite_check hcode).bind fun _ => (definite_check hcode).bind fun _ => ?_
  split
  · exact definite_check hcode
  · rintro _ ⟨⟩
    exact ⟨_, rfl, hcode⟩

/-- The checks of `verify_result` on a commit, the milestone apart. -/
def checkMatch (p : VerifiedPhase8Plan) (value : Doc) : Except Raised Unit := do
  check (encodedLength value ≤ p.hardResultBytes) (.agent "budget_exceeded")
  checkDigests value p.expected
  check (fieldIs value "effect_identity_digest" p.effectIdentityDigest)
    (.agent "effect_identity_mismatch")
  if p.modifiesEntities then checkCheckpoint value else .ok ()

theorem verifyResult_commit (p : VerifiedPhase8Plan) (value : Doc) :
    p.verifyResult value .programCommit = (do
      p.checkMatch value
      check (fieldIs value "milestone" (some "effect_and_receipt_committed"))
        (.agent "outcome_unknown")
      return value) := by
  unfold verifyResult checkMatch checkCommit
  cases p.modifiesEntities
  · simp only [bind_assoc, Bool.false_eq_true, if_false]
    rfl
  · simp only [bind_assoc, if_true]

theorem checkMatch_eq_ok {p : VerifiedPhase8Plan} {value : Doc} :
    p.checkMatch value = .ok () ↔ p.Matches value := by
  unfold checkMatch
  constructor
  · intro h
    obtain ⟨_, hsize, h⟩ := bind_eq_ok.mp h
    obtain ⟨_, hdigests, h⟩ := bind_eq_ok.mp h
    obtain ⟨_, hidentity, h⟩ := bind_eq_ok.mp h
    refine ⟨check_eq_ok.mp hsize, checkDigests_eq_ok.mp hdigests, check_eq_ok.mp hidentity, ?_⟩
    intro hmodifies
    rw [if_pos hmodifies] at h
    exact checkCheckpoint_eq_ok.mp h
  · rintro ⟨hsize, hdigests, hidentity, hcheckpoint⟩
    refine pass (check_true hsize) (pass (checkDigests_eq_ok.mpr hdigests)
      (pass (check_true hidentity) ?_))
    split
    · rename_i hmodifies
      exact checkCheckpoint_eq_ok.mpr (hcheckpoint hmodifies)
    · rfl

theorem definite_checkMatch {p : VerifiedPhase8Plan} {value : Doc} :
    Definite (p.checkMatch value) := by
  unfold checkMatch
  refine (definite_check (by decide)).bind fun _ => Definite.bind ?_ fun _ =>
    (definite_check (by decide)).bind fun _ => ?_
  · refine definite_checkDigests ?_
    simp only [expected, List.forall_mem_cons]
    decide
  · split
    · exact definite_checkCheckpoint
    · exact definite_ok ()

end VerifiedPhase8Plan

/-! ## One execution -/

/-- The Host was asked and carried the command out. -/
def CarriedOut (s : Surroundings) (c : CommandMessage) : Prop :=
  ∃ phase8 r, prepare s c = .ok phase8 ∧ s.answer = some r ∧ r.ok = true

/-- The Host was not asked, or refused. -/
def NotExecuted (s : Surroundings) (c : CommandMessage) : Prop :=
  (∃ e, prepare s c = .error e) ∨ ∃ r, s.answer = some r ∧ r.ok = false

/-- What the answer to a commit has to be: a mapping that matches the Phase 8 plan, if the command
has one, or no mapping and an error code that the core takes for an unknown outcome. -/
def Recognised (s : Surroundings) : Prop :=
  ∀ r, s.answer = some r →
    match r.payload with
    | some (.object members) => ∀ p, s.plan = some (.ok p) → p.Matches (.object members)
    | _ => orUnavailable r.errorCode ∈ uncertainCodes

/-- The state in which the core records a commit. -/
def recordedState (s : Surroundings) (c : CommandMessage) : LedgerState :=
  (executionRecord .programCommit (executionOf (execute s c))).1

theorem recordedState_agent {s : Surroundings} {c : CommandMessage} {code : String}
    (h : execute s c = .error (.agent code)) :
    recordedState s c = if code ∈ uncertainCodes then .outcomeUnknown else .failed := by
  unfold recordedState
  rw [h]
  by_cases hcode : code ∈ uncertainCodes <;> simp [executionOf, executionRecord, hcode]

theorem recordedState_other {s : Surroundings} {c : CommandMessage}
    (h : execute s c = .error .other) : recordedState s c = .outcomeUnknown := by
  unfold recordedState
  rw [h]
  rfl

theorem recordedState_ok {s : Surroundings} {c : CommandMessage} {value : Doc}
    (h : execute s c = .ok value) : recordedState s c = .succeeded := by
  unfold recordedState
  rw [h]
  rfl

theorem recordedState_terminal (s : Surroundings) (c : CommandMessage) :
    recordedState s c = .succeeded ∨ recordedState s c = .outcomeUnknown ∨
      recordedState s c = .failed := by
  rcases hexecute : execute s c with (code | _) | value
  · rw [recordedState_agent hexecute]
    split
    · exact Or.inr (Or.inl rfl)
    · exact Or.inr (Or.inr rfl)
  · exact Or.inr (Or.inl (recordedState_other hexecute))
  · exact Or.inl (recordedState_ok hexecute)

/-- The plan that `prepare` hands on is the admitted one. -/
theorem prepare_plan {s : Surroundings} {c : CommandMessage} {phase8 : Option VerifiedPhase8Plan}
    (h : prepare s c = .ok phase8) :
    (s.plan = none ∧ phase8 = none) ∨ ∃ p, s.plan = some (.ok p) ∧ phase8 = some p := by
  unfold prepare at h
  obtain ⟨_, -, h⟩ := bind_eq_ok.mp h
  obtain ⟨_, -, h⟩ := bind_eq_ok.mp h
  obtain ⟨admitted, hplan, h⟩ := bind_eq_ok.mp h
  obtain ⟨_, -, h⟩ := bind_eq_ok.mp h
  obtain ⟨_, -, h⟩ := bind_eq_ok.mp h
  obtain ⟨_, -, h⟩ := bind_eq_ok.mp h
  obtain ⟨_, -, h⟩ := bind_eq_ok.mp h
  cases h
  unfold verifyPhase8 at hplan
  cases hs : s.plan with
  | none =>
      rw [hs] at hplan
      cases hplan
      exact Or.inl ⟨rfl, rfl⟩
  | some verdict =>
      rw [hs] at hplan
      cases verdict with
      | error e => cases hplan
      | ok p =>
          cases hplan
          exact Or.inr ⟨p, rfl, rfl⟩

theorem execute_carriedOut {s : Surroundings} {c : CommandMessage}
    {phase8 : Option VerifiedPhase8Plan} {r : HostResult} (hprepare : prepare s c = .ok phase8)
    (hanswer : s.answer = some r) : execute s c = readAnswer s c phase8 r := by
  unfold execute executeHost
  rw [hprepare, hanswer]
  rfl

/-- A commit that the Host carried out is recorded as failed exactly when its answer is not
recognised. -/
theorem recordedState_failed_iff {s : Surroundings} {c : CommandMessage}
    (hkind : c.kind = .programCommit) (h : CarriedOut s c) :
    recordedState s c = .failed ↔ ¬ Recognised s := by
  obtain ⟨phase8, r, hprepare, hanswer, hok⟩ := h
  have hexecute := execute_carriedOut hprepare hanswer
  have hrecognised : Recognised s ↔
      match r.payload with
      | some (.object members) => ∀ p, s.plan = some (.ok p) → p.Matches (.object members)
      | _ => orUnavailable r.errorCode ∈ uncertainCodes := by
    constructor
    · intro h
      exact h r hanswer
    · intro h r' hr'
      rw [hanswer] at hr'
      cases hr'
      exact h
  rw [hrecognised]
  unfold readAnswer at hexecute
  rw [hok] at hexecute
  split
  · rename_i members hpayload
    rw [hpayload] at hexecute
    dsimp only at hexecute
    rcases prepare_plan hprepare with ⟨hplan, rfl⟩ | ⟨p, hplan, rfl⟩
    · -- a Phase 6 answer that its model refuses raises no agent error
      have hnever : recordedState s c ≠ .failed := by
        dsimp only at hexecute
        split at hexecute
        · rw [recordedState_ok hexecute]
          decide
        · rw [recordedState_other hexecute]
          decide
      simp [hnever, hplan]
    · have hmatches : (∀ p', s.plan = some (.ok p') → p'.Matches (.object members)) ↔
          p.Matches (.object members) := by
        rw [hplan]
        constructor
        · exact fun h => h p rfl
        · rintro h _ ⟨⟩
          exact h
      rw [hmatches, ← VerifiedPhase8Plan.checkMatch_eq_ok]
      dsimp only at hexecute
      rw [hkind, VerifiedPhase8Plan.verifyResult_commit] at hexecute
      cases hmatch : p.checkMatch (.object members) with
      | error e =>
          obtain ⟨code, rfl, hcode⟩ := VerifiedPhase8Plan.definite_checkMatch e hmatch
          rw [hmatch] at hexecute
          simp [recordedState_agent hexecute, hcode]
      | ok u =>
          rw [hmatch] at hexecute
          -- only the milestone is left, and its error is an unknown outcome
          by_cases hmilestone : fieldIs (.object members) "milestone"
              (some "effect_and_receipt_committed") = true
          · have hdone : execute s c = .ok (.object members) :=
              hexecute.trans (pass rfl (pass (check_true hmilestone) rfl))
            simp [recordedState_ok hdone]
          · have hunknown : execute s c = .error (.agent "outcome_unknown") := by
              rw [hexecute, check_false hmilestone]
              rfl
            rw [recordedState_agent hunknown, if_pos (by decide)]
            simp
  · rename_i hnotMapping
    have hfail : execute s c = .error (.agent (orUnavailable r.errorCode)) := by
      rw [hexecute]
      split
      · rename_i members _ hpayload
        exact absurd hpayload (hnotMapping members)
      · rfl
    rw [recordedState_agent hfail]
    split <;> simp [*]

/-- A failed record of a recognised answer means that nothing was executed. -/
theorem notExecuted_of_failed {s : Surroundings} {c : CommandMessage}
    (hkind : c.kind = .programCommit) (hrecognised : CarriedOut s c → Recognised s)
    (h : recordedState s c = .failed) : NotExecuted s c := by
  cases hprepare : prepare s c with
  | error e => exact Or.inl ⟨e, hprepare⟩
  | ok phase8 =>
      right
      cases hanswer : s.answer with
      | none =>
          -- an adapter that raises leaves the outcome unknown
          have hother : execute s c = .error .other := by
            unfold execute executeHost
            rw [hprepare, hanswer]
            rfl
          rw [recordedState_other hother] at h
          cases h
      | some r =>
          refine ⟨r, rfl, ?_⟩
          by_contra hok
          have hdone : CarriedOut s c := ⟨phase8, r, hprepare, hanswer, by simpa using hok⟩
          exact (recordedState_failed_iff hkind hdone).mp h (hrecognised hdone)

end AutocadMcp.Agent
