import AutocadMcp.Gateway.Issued

/-!
# What the handlers of Agent messages issue

The same for `handle_message`: which moves an acknowledgement, a progress
message, a result or a reconcile answer can lead to, and what a result has
proved about its job when it is finalized.
-/

namespace AutocadMcp.Gateway

/-! ## What a message claims -/

/-- The kind and the binding that a message names. -/
def claimOf : AgentMessage → Option (JobKind × Json)
  | .programResult m | .rollbackResult m => some (m.kind, m.binding)
  | .reconcileResult m =>
      match m.kind, m.binding with
      | some kind, some binding => some (kind, binding)
      | _, _ => none
  | .ack _ | .progress _ | .result _ => none

/-- The result that a message carries. -/
def resultOf : AgentMessage → Option Json
  | .result m => m.result
  | .programResult m | .rollbackResult m => m.result
  | .reconcileResult m => m.result
  | .ack _ | .progress _ => none

/-- How an outcome comes from a message: from an untyped result, from a typed one whose binding
was validated, or, for the kinds without a binding, from a reconcile answer. -/
inductive Reported (m : AgentMessage) (job : JobRow) (o : Outcome) : Prop
  | untyped (hpayload : m.envelope.payloadHash = job.payloadHash) (r : ResultMessage)
      (hm : m = .result r) (ho : o = outcomeOf r.toEnvelope r.status r.result r.errorCode)
  | program (hpayload : m.envelope.payloadHash = job.payloadHash) (typed : TypedResultMessage)
      (hclaim : claimOf m = some (typed.kind, typed.binding))
      (hresult : resultOf m = typed.result)
      (hbinding : validateProgramResultBinding job typed = .ok ())
      (normalized : Option Json) (hnormal : normalizeProgramResult job typed = .ok normalized)
      (ho : o = outcomeOf typed.toEnvelope typed.status normalized typed.errorCode)
      (hstatus : typed.status ≠ .outcomeUnknown)
      (hdirect : job.kind.isProgram = false → m = .programResult typed)
  | rollback (hpayload : m.envelope.payloadHash = job.payloadHash) (typed : TypedResultMessage)
      (hclaim : claimOf m = some (typed.kind, typed.binding))
      (hbinding : validateRollbackResultBinding job typed = .ok ())
      (ho : o = outcomeOf typed.toEnvelope typed.status typed.result typed.errorCode)
      (hstatus : typed.status ≠ .outcomeUnknown)
      (hdirect : job.kind.isProgram = true → m = .rollbackResult typed)
  | reconciled (hpayload : m.envelope.payloadHash = job.payloadHash) (r : ReconcileResultMessage)
      (hm : m = .reconcileResult r)
      (hkind : job.kind.isProgram = false ∧ job.kind.isRollback = false)

/-- The status that a message reports. -/
def reportedStatus : AgentMessage → Option ResultStatus
  | .result m => some m.status
  | .programResult m | .rollbackResult m => some m.status
  | .reconcileResult m => m.resultStatus
  | .ack _ | .progress _ => none

/-- An outcome that a message leads to, in the state that it reports. -/
structure Told (m : AgentMessage) (job : JobRow) (o : Outcome) : Prop where
  reported : Reported m job o
  status : ∃ status, reportedStatus m = some status ∧ o.target = targetOf status

/-- The message names another payload or another command than the job it is for. -/
def mismatches (m : AgentMessage) (job : JobRow) : Bool :=
  m.envelope.payloadHash ≠ job.payloadHash ||
    match m with
    | .ack m => m.idempotencyKey ≠ job.idempotencyKey
    | _ => false

/-- Why a message may move the job it is for. -/
def Reason.Answers (job : JobRow) (m : AgentMessage) (reason : Reason) : Prop :=
  mismatches m job = false ∧
  match m with
  | .ack m =>
      match m.status with
      | .accepted => reason = .accepted
      | .rejected => reason = .rejected
      | .duplicate | .alreadyTerminal => reason = .lost
  | .progress _ => reason = .progressed
  | .result _ => reason = .unproven ∨ reason = .frozen
  | .programResult m | .rollbackResult m =>
      if m.status = .outcomeUnknown then reason = .reportedUnknown
      else reason = .unproven ∨ reason = .frozen
  | .reconcileResult m =>
      if m.status = .terminal then
        reason = .unproven ∨ reason = .frozen ∨
          (reason = .reportedUnknown ∧ m.resultStatus = some .outcomeUnknown)
      else reason = .reconciled ∨ reason = .recancelled

/-- A message that reports an outcome names the payload of its job. -/
theorem Reported.not_mismatches {m : AgentMessage} {job : JobRow} {o : Outcome}
    (h : Reported m job o) : mismatches m job = false := by
  cases h with
  | untyped hpayload r hm ho =>
      subst hm
      simp [mismatches, hpayload]
  | reconciled hpayload r hm hkind =>
      subst hm
      simp [mismatches, hpayload]
  | program hpayload typed hclaim hresult hbinding normalized hnormal ho hstatus =>
      cases m with
      | ack m => cases hclaim
      | _ => simp [mismatches, hpayload]
  | rollback hpayload typed hclaim hbinding ho hstatus =>
      cases m with
      | ack m => cases hclaim
      | _ => simp [mismatches, hpayload]

section

variable {cfg : Config} {env : Env} {Read : GatewayState → JobRow → Prop}
  {K : JobId → Reason → Prop} {Rep : JobRow → Outcome → Prop} {g : GatewayState}
  (hread : ∀ g row, g.db.job? row.jobId = some row → Read g row)

/-! ## Results -/

theorem raising_ok {α : Type} {failure : Option Failure} {a b : α}
    (h : raising failure a = .ok b) : b = a := by
  unfold raising at h
  split at h
  · cases h
  · cases h
    rfl

theorem evidenceHook_issues {P : GatewayState → Action → Prop} (jobId : JobId) :
    Eff.Traced (Action.run cfg.codec) P (evidenceHook cfg env) g
      (fun hook t => g = t ∧ HookDrops False jobId hook) fun _ t => g = t := by
  unfold evidenceHook
  split
  · exact Eff.traced_pure ⟨rfl, by rintro _ ⟨⟩⟩
  · apply Eff.traced_bind
    apply traced_liftExcept
    · intro _ _
      apply Eff.traced_pure
      refine ⟨rfl, ?_⟩
      rintro _ ⟨⟩ row locks locks' hlocks
      exact Or.inl (raising_ok hlocks)
    · intro _ _
      rfl

theorem rollbackTerminalHook_drops {job : JobRow} {evidence : Option TerminalHook} {receipt : Bool}
    (h : HookDrops False job.jobId evidence) :
    HookDrops (job.kind = .rollbackCommit) job.jobId
      (some (rollbackTerminalHook env job evidence receipt)) := by
  rintro _ ⟨⟩ row locks locks' hlocks
  simp only [rollbackTerminalHook, bind_eq_ok] at hlocks
  obtain ⟨locks1, hevidence, locks2, hreceipt, hlast⟩ := hlocks
  have hsame2 : locks2 = locks1 := raising_ok hreceipt
  have hsame1 : locks1 = locks := by
    cases evidence with
    | none =>
        cases hevidence
        rfl
    | some hook =>
        rcases h hook rfl row locks locks1 hevidence with hsame | ⟨hfalse, -⟩
        · exact hsame
        · exact hfalse.elim
  cases hlast
  rw [hsame2, hsame1]
  split
  · next hkind => exact Or.inr ⟨hkind, rfl⟩
  · exact Or.inl rfl

/-- The hook of the rollback kinds gives back the job's own locks at most. -/
theorem rollbackHook_issues {P : GatewayState → Action → Prop} (job : JobRow) (s : Stored) :
    Eff.Traced (Action.run cfg.codec) P (rollbackHook cfg env job s) g
      (fun hook t => g = t ∧ HookDrops (job.kind = .rollbackCommit) job.jobId hook)
      fun _ t => g = t := by
  unfold rollbackHook
  apply Eff.traced_bind
  apply (evidenceHook_issues job.jobId).mono
  · rintro evidence t ⟨rfl, hevidence⟩
    apply Eff.traced_bind
    apply traced_liftExcept
    · intro _ _
      apply Eff.traced_pure
      refine ⟨rfl, ?_⟩
      split
      · exact rollbackTerminalHook_drops hevidence
      · rintro _ ⟨⟩
    · intro _ _
      rfl
  · intro _ _ ht
    exact ht

/-- A job that was moved to an inactive state is inactive. -/
theorem moved_inactive {jobId : JobId} {a : Transition} {row : JobRow}
    (hrow : g.db.job? jobId = some row) (htarget : isActive a.target = false) :
    ∀ row', (g.db.moved jobId a.set a.set_jobId a.target a.result a.errorCode).job? jobId =
      some row' → isActive row'.state = false := by
  intro row' hrow'
  rw [moved_self a.set_jobId hrow] at hrow'
  cases hrow'
  exact htarget

include hread in
theorem recordUnproven_issues {updated : Option JobRow}
    (hfrozen : ∀ row ∈ updated, K row.jobId .frozen) :
    Eff.Traced (Action.run cfg.codec) (Issued cfg env Read K Rep)
      (rejectProgramResult.recordUnproven cfg env updated) g (fun _ _ => True)
      fun _ _ => True := by
  cases updated with
  | none => exact Eff.traced_pure trivial
  | some row => exact recordReconcileOutcome_issues hread row fun _ => hfrozen row rfl

include hread in
/-- What a Program result that proved nothing leads to. -/
theorem rejectProgramResult_issues {job : JobRow} (hunproven : K job.jobId .unproven)
    (hfrozen : K job.jobId .frozen) (hjob : Read g job) (code : String) :
    Eff.Traced (Action.run cfg.codec) (Issued cfg env Read K Rep)
      (rejectProgramResult cfg env job code) g (fun _ _ => True) fun _ _ => True := by
  unfold rejectProgramResult
  apply Eff.traced_bind
  apply Eff.traced_bind
  apply Eff.traced_get
  apply Eff.traced_pure
  split
  · next row hlatest =>
      obtain ⟨hrow, hstate⟩ := Option.filter_eq_some_iff.mp hlatest
      have hid : row.jobId = job.jobId := (job?_some hrow).2
      apply Eff.traced_bind
      unfold rejectProgramResult.unknownCommit
      split
      · apply Eff.traced_pure
        apply recordUnproven_issues hread
        rintro _ ⟨⟩
        rw [hid]
        exact hfrozen
      · next hknown =>
          have hstarted : isStarted row.state = true := by
            simp only [decide_eq_true_eq] at hstate
            exact hstate.2.resolve_right hknown
          rw [← hid] at hunproven hfrozen ⊢
          apply traced_transition
            (.move .unproven hunproven (hread g row (job?_self hrow)) (Or.inl ⟨hstarted, rfl⟩))
          · intro _
            apply recordUnproven_issues hread
            rintro _ ⟨⟩
          · intro moved hmoved _
            apply recordUnproven_issues hread
            rintro _ ⟨⟩
            rw [show (Transition.set _ moved).jobId = row.jobId from (job?_some hmoved).2]
            exact hfrozen
          · intro _
            trivial
  · apply Eff.traced_bind
    apply traced_transition (.move .unproven hunproven hjob (Or.inr ⟨rfl, rfl⟩))
    · intro hnone
      have hissued : Issued cfg env Read K Rep g (.call (.releaseWriteLock job.jobId)) := by
        apply Issued.release
        intro row hrow
        rw [hnone] at hrow
        cases hrow
      exact traced_releaseLock hissued trivial fun _ => trivial
    · intro row hrow _
      apply traced_releaseLock _ trivial fun _ => trivial
      apply Issued.release
      exact moved_inactive hrow rfl
    · intro _
      trivial

include hread in
theorem finishProgram_issues {job : JobRow} (hunproven : K job.jobId .unproven)
    (hfrozen : K job.jobId .frozen) (hjob : Read g job) (hkind : job.kind.isProgram = true) {o : Outcome} (hrep : Rep job o) :
    Eff.Traced (Action.run cfg.codec) (Issued cfg env Read K Rep)
      (finishProgram cfg env job o (storedOf cfg job o)) g (fun _ _ => True) fun _ _ => True := by
  have hanswer : ∀ e, Eff.Traced (Action.run cfg.codec) (Issued cfg env Read K Rep)
      (finishProgram.answerRefusal cfg env job e) g (fun _ _ => True) fun _ _ => True := by
    intro e
    unfold finishProgram.answerRefusal
    split
    · exact rejectProgramResult_issues hread hunproven hfrozen hjob _
    · exact Eff.traced_throw trivial
  unfold finishProgram
  dsimp only
  split
  · exact Eff.traced_throw trivial
  · apply Eff.traced_tryCatch
    apply Eff.traced_bind
    apply (evidenceHook_issues job.jobId).mono
    · rintro hook t ⟨rfl, hhook⟩
      apply Eff.traced_bind
      apply traced_perform rfl (.finalizeProgram hjob hkind hrep hhook)
      · intro _ _ _
        exact Eff.traced_pure trivial
      · intro e
        exact hanswer e
    · rintro e t rfl
      exact hanswer e

theorem finishRollback_issues {job : JobRow} (hjob : Read g job)
    (hkind : job.kind.isRollback = true) {o : Outcome} (hrep : Rep job o) :
    Eff.Traced (Action.run cfg.codec) (Issued cfg env Read K Rep)
      (finishRollback cfg env job o (storedOf cfg job o)) g (fun _ _ => True) fun _ _ => True := by
  unfold finishRollback
  apply Eff.traced_tryCatch_any
  · apply Eff.traced_bind
    apply (rollbackHook_issues job _).mono
    · rintro hook t ⟨rfl, hhook⟩
      apply Eff.traced_bind
      apply traced_perform rfl (.finalizeRollback hjob hkind hrep hhook)
      · intro _ _ _
        exact Eff.traced_pure trivial
      · intro _
        trivial
    · intro _ _ _
      trivial
  · intro e t
    split
    · exact Eff.traced_throw trivial
    · exact Eff.traced_throw trivial

theorem finishOther_issues {job : JobRow} (hjob : Read g job)
    (hkind : job.kind.isProgram = false ∧ job.kind.isRollback = false) {o : Outcome}
    (hrep : Rep job o) :
    Eff.Traced (Action.run cfg.codec) (Issued cfg env Read K Rep)
      (finishOther cfg env job o (storedOf cfg job o)) g (fun _ _ => True) fun _ _ => True := by
  unfold finishOther
  apply Eff.traced_tryCatch_any
  · apply Eff.traced_bind
    apply traced_perform rfl (.finalizeOther hjob hkind hrep)
    · intro _ _ _
      exact Eff.traced_pure trivial
    · intro _
      trivial
  · intro e t
    split
    · exact Eff.traced_throw trivial
    · exact Eff.traced_throw trivial
    · exact Eff.traced_throw trivial

include hread in
theorem finishResult_issues {job : JobRow} (hunproven : K job.jobId .unproven)
    (hfrozen : K job.jobId .frozen) (hjob : Read g job) {o : Outcome} (hrep : Rep job o) :
    Eff.Traced (Action.run cfg.codec) (Issued cfg env Read K Rep) (finishResult cfg env job o) g
      (fun _ _ => True) fun _ _ => True := by
  unfold finishResult
  dsimp only
  split
  · next hprogram => exact finishProgram_issues hread hunproven hfrozen hjob hprogram hrep
  · next hprogram =>
      split
      · next hrollback => exact finishRollback_issues hjob hrollback hrep
      · next hrollback =>
          exact finishOther_issues hjob ⟨by simpa using hprogram, by simpa using hrollback⟩ hrep

theorem reportUnknown_issues {job : JobRow} (hK : K job.jobId .reportedUnknown)
    (hjob : Read g job) (summary : String) :
    Eff.Traced (Action.run cfg.codec) (Issued cfg env Read K Rep)
      (reportUnknown cfg env job summary) g (fun _ _ => True) fun _ _ => True := by
  unfold reportUnknown
  apply Eff.traced_bind
  apply traced_raceAs
  apply traced_transition (.move .reportedUnknown hK hjob rfl)
  · intro _
    split
    · exact traced_ensureCase trivial fun _ => trivial
    · exact Eff.traced_pure trivial
  · intro _ _ _
    split
    · exact traced_ensureCase trivial fun _ => trivial
    · exact Eff.traced_pure trivial
  · intro _ _
    trivial

include hread in
theorem handleUntypedResult_issues {job : JobRow} {m : ResultMessage}
    (hpayload : m.payloadHash = job.payloadHash) (hunproven : K job.jobId .unproven)
    (hfrozen : K job.jobId .frozen) (hjob : Read g job) (hrep : Rep job (outcomeOf m.toEnvelope m.status m.result m.errorCode)) :
    Eff.Traced (Action.run cfg.codec) (Issued cfg env Read K Rep)
      (handleUntypedResult cfg env job m) g (fun _ _ => True) fun _ _ => True := by
  unfold handleUntypedResult
  rw [if_neg (not_not.mpr hpayload)]
  exact finishResult_issues hread hunproven hfrozen hjob hrep

include hread in
/-- A typed Program result is finalized only after its binding was validated. -/
theorem handleProgramResult_issues {job : JobRow} {m : TypedResultMessage}
    (hpayload : m.payloadHash = job.payloadHash)
    (hunknown : m.status = .outcomeUnknown → K job.jobId .reportedUnknown)
    (hfinished : m.status ≠ .outcomeUnknown → K job.jobId .unproven ∧ K job.jobId .frozen)
    (hjob : Read g job)
    (hrep : m.status ≠ .outcomeUnknown → validateProgramResultBinding job m = .ok () →
      ∀ normalized, normalizeProgramResult job m = .ok normalized →
        Rep job (outcomeOf m.toEnvelope m.status normalized m.errorCode)) :
    Eff.Traced (Action.run cfg.codec) (Issued cfg env Read K Rep)
      (handleProgramResult cfg env job m) g (fun _ _ => True) fun _ _ => True := by
  unfold handleProgramResult
  rw [if_neg (not_not.mpr hpayload)]
  apply Eff.traced_bind
  apply traced_liftExcept
  · intro _ hbinding
    split
    · next hstatus => exact reportUnknown_issues (hunknown hstatus) hjob _
    · next hstatus =>
        apply Eff.traced_bind
        apply traced_liftExcept
        · intro normalized hnormal
          exact finishResult_issues hread (hfinished hstatus).1 (hfinished hstatus).2 hjob
            (hrep hstatus hbinding normalized hnormal)
        · intro _ _
          trivial
  · intro _ _
    trivial

include hread in
theorem handleRollbackResult_issues {job : JobRow} {m : TypedResultMessage}
    (hpayload : m.payloadHash = job.payloadHash)
    (hunknown : m.status = .outcomeUnknown → K job.jobId .reportedUnknown)
    (hfinished : m.status ≠ .outcomeUnknown → K job.jobId .unproven ∧ K job.jobId .frozen)
    (hjob : Read g job)
    (hrep : m.status ≠ .outcomeUnknown → validateRollbackResultBinding job m = .ok () →
      Rep job (outcomeOf m.toEnvelope m.status m.result m.errorCode)) :
    Eff.Traced (Action.run cfg.codec) (Issued cfg env Read K Rep)
      (handleRollbackResult cfg env job m) g (fun _ _ => True) fun _ _ => True := by
  unfold handleRollbackResult
  rw [if_neg (not_not.mpr hpayload)]
  apply Eff.traced_bind
  apply traced_liftExcept
  · intro _ hbinding
    split
    · next hstatus => exact reportUnknown_issues (hunknown hstatus) hjob _
    · next hstatus =>
        exact finishResult_issues hread (hfinished hstatus).1 (hfinished hstatus).2 hjob
          (hrep hstatus hbinding)
  · intro _ _
    trivial

/-! ## Acknowledgements and progress -/

theorem settleAcknowledged_issues {job : JobRow} (hK : K job.jobId .lost) (hjob : Read g job)
    (status : AckStatus) :
    Eff.Traced (Action.run cfg.codec) (Issued cfg env Read K Rep)
      (settleAcknowledged cfg env job status) g (fun _ _ => True) fun _ _ => True := by
  unfold settleAcknowledged
  split
  · next hstate =>
      -- a dispatched job is not started, so this is where a lost session leaves it too
      have htarget : JobState.reconnectPending = lostTarget job := by
        simp [lostTarget, hstate, isStarted]
      apply Eff.traced_bind
      apply traced_transition (.move .lost hK hjob ⟨by rw [hstate]; rfl, htarget⟩)
      · intro _
        exact Eff.traced_pure trivial
      · intro _ _ _
        exact Eff.traced_pure trivial
      · intro _
        trivial
  · split
    · next hstarted =>
        have hopen : isOpen job.state = true := by
          have hstate := hstarted.2
          cases hjobstate : job.state <;> rw [hjobstate] at hstate <;> first | rfl | cases hstate
        apply Eff.traced_bind
        apply traced_transition (.move .lost hK hjob ⟨hopen, rfl⟩)
        · intro _
          exact Eff.traced_pure trivial
        · intro _ _ _
          exact Eff.traced_pure trivial
        · intro _
          trivial
    · exact Eff.traced_pure trivial

theorem sendReconcile_issues (connection : Connection) (jobs : List JobRow) :
    Eff.Traced (Action.run cfg.codec) (Issued cfg env Read K Rep)
      (sendReconcile env connection jobs) g (fun _ _ => True) fun _ _ => True :=
  traced_send (.send rfl) trivial fun _ => trivial

theorem sendCancel_issues (connection : Connection) (job : JobRow) (reason : String) :
    Eff.Traced (Action.run cfg.codec) (Issued cfg env Read K Rep)
      (sendCancel env connection job reason) g (fun _ _ => True) fun _ _ => True :=
  traced_send (.send rfl) trivial fun _ => trivial

theorem handleAck_issues {connection : Connection} {job : JobRow} {m : AckMessage}
    (hmismatched : mismatches (.ack m) job = true → Opens g job → K job.jobId .mismatched)
    (hK : ∀ r, Reason.Answers job (.ack m) r → K job.jobId r) (hjob : Read g job) :
    Eff.Traced (Action.run cfg.codec) (Issued cfg env Read K Rep)
      (handleAck cfg env connection job m) g (fun _ _ => True) fun _ _ => True := by
  unfold handleAck
  split
  · next hpayload =>
      apply failPayload_issues _ hjob
      exact hmismatched (by simp [mismatches, AgentMessage.envelope, hpayload])
  · next hpayload =>
      split
      · next hkey =>
          apply failPayload_issues _ hjob
          exact hmismatched (by simp [mismatches, hkey])
      · next hkey =>
          have hmatches : mismatches (.ack m) job = false := by
            simp [mismatches, AgentMessage.envelope, not_not.mp hpayload, not_not.mp hkey]
          split
          · next hstatus =>
              split
              · next hstate =>
                  have haccepted : K job.jobId .accepted := hK _ ⟨hmatches, by simp only [hstatus]⟩
                  apply Eff.traced_bind
                  apply traced_transition (.move .accepted haccepted hjob ⟨hstate, rfl⟩)
                  · intro _
                    exact Eff.traced_pure trivial
                  · intro _ _ _
                    exact Eff.traced_pure trivial
                  · intro _
                    trivial
              · split
                · exact Eff.traced_pure trivial
                · exact Eff.traced_throw trivial
          · next hstatus =>
              split
              · exact Eff.traced_pure trivial
              · next hopen =>
                  have hrejected : K job.jobId .rejected := hK _ ⟨hmatches, by simp only [hstatus]⟩
                  apply Eff.traced_bind
                  apply traced_raceAs
                  apply traced_transition
                    (.move .rejected hrejected hjob ⟨by simpa using hopen, rfl⟩)
                  · intro _
                    exact Eff.traced_pure trivial
                  · intro _ _ _
                    exact Eff.traced_pure trivial
                  · intro _ _
                    trivial
          · next haccepted hrejected =>
              split
              · exact Eff.traced_pure trivial
              · split
                · exact Eff.traced_pure trivial
                · have hlost : K job.jobId .lost := by
                    apply hK
                    refine ⟨hmatches, ?_⟩
                    cases hstatus : m.status with
                    | accepted => exact absurd hstatus haccepted
                    | rejected => exact absurd hstatus hrejected
                    | duplicate => simp only [hstatus]
                    | alreadyTerminal => simp only [hstatus]
                  apply Eff.traced_bind
                  apply (settleAcknowledged_issues hlost hjob m.status).mono
                  · intro settled t _
                    exact sendReconcile_issues connection [settled]
                  · intro _ _ _
                    trivial

theorem startRunning_issues {job : JobRow} (hK : K job.jobId .progressed) (hjob : Read g job) :
    Eff.Traced (Action.run cfg.codec) (Issued cfg env Read K Rep) (startRunning cfg env job) g
      (fun running _ => running.jobId = job.jobId) fun _ _ => True := by
  unfold startRunning
  split
  · next hstate =>
      apply Eff.traced_bind
      apply traced_transition (.move .progressed hK hjob ⟨hstate, rfl⟩)
      · intro _
        exact Eff.traced_pure rfl
      · intro row hrow _
        exact Eff.traced_pure (job?_some hrow).2
      · intro _
        trivial
  · split
    · exact Eff.traced_pure rfl
    · exact Eff.traced_throw trivial

theorem handleProgress_issues {job : JobRow} (hK : K job.jobId .progressed) (hjob : Read g job)
    (m : ProgressMessage) :
    Eff.Traced (Action.run cfg.codec) (Issued cfg env Read K Rep) (handleProgress cfg env job m) g
      (fun _ _ => True) fun _ _ => True := by
  unfold handleProgress
  split
  · exact Eff.traced_pure trivial
  · apply Eff.traced_bind
    apply (startRunning_issues hK hjob).mono
    · intro running t hid
      rw [← hid] at hK
      apply Eff.traced_tryCatch_any
      · apply Eff.traced_bind
        apply traced_perform rfl (.progress hK)
        · intro _ _ _
          exact Eff.traced_pure trivial
        · intro _
          trivial
      · intro e u
        split
        · exact Eff.traced_throw trivial
        · exact Eff.traced_throw trivial
    · intro _ _ _
      trivial

/-! ## Reconcile answers -/

/-- A proven binding is the one that the answer names. -/
theorem provenBinding_some {job : JobRow} {m : ReconcileResultMessage} {kind : JobKind}
    {binding : Json} (h : provenBinding job m = .ok (some (kind, binding))) :
    claimOf (.reconcileResult m) = some (kind, binding) := by
  unfold provenBinding at h
  split at h
  · next kind' binding' hkind hbinding =>
      have hclaim : claimOf (.reconcileResult m) = some (kind', binding') := by
        simp [claimOf, hkind, hbinding]
      rw [hclaim]
      split at h
      · cases h
      · split at h
        · rw [bind_eq_ok] at h
          obtain ⟨expected, -, h⟩ := h
          split at h
          · cases h
            rfl
          · cases h
        · split at h
          · cases h
            rfl
          · cases h
  · cases h

section

variable {connection : Connection} {job : JobRow} {m : ReconcileResultMessage}
  (hpayload : m.payloadHash = job.payloadHash) (hjob : Read g job)
  (hrep : ∀ o, Told (.reconcileResult m) job o → Rep job o) {status : ResultStatus}
  (hreported : m.resultStatus = some status)

include hread hpayload hjob hrep hreported in
theorem finishTypedReconcile_issues {kind : JobKind} {binding : Json}
    (hclaim : claimOf (.reconcileResult m) = some (kind, binding))
    (hunproven : K job.jobId .unproven) (hfrozen : K job.jobId .frozen)
    (hunknown : status = .outcomeUnknown → K job.jobId .reportedUnknown) :
    Eff.Traced (Action.run cfg.codec) (Issued cfg env Read K Rep)
      (finishTypedReconcile cfg env connection job m status kind binding) g (fun _ _ => True)
      fun _ _ => True := by
  unfold finishTypedReconcile
  dsimp only
  split
  · next hprogram =>
      apply Eff.traced_bind
      apply traced_liftExcept
      · intro _ _
        apply handleProgramResult_issues hread hpayload hunknown (fun _ => ⟨hunproven, hfrozen⟩)
          hjob
        intro hstatus hbinding normalized hnormal
        refine hrep _ ⟨?_, status, hreported, rfl⟩
        refine .program hpayload (typedOfReconcile connection job m kind binding status) hclaim
          rfl hbinding normalized hnormal rfl hstatus fun hother => ?_
        rw [hprogram] at hother
        cases hother
      · intro _ _
        trivial
  · next hother =>
      apply Eff.traced_bind
      apply traced_liftExcept
      · intro _ _
        apply handleRollbackResult_issues hread hpayload hunknown (fun _ => ⟨hunproven, hfrozen⟩)
          hjob
        intro hstatus hbinding
        refine hrep _ ⟨?_, status, hreported, rfl⟩
        exact .rollback hpayload (typedOfReconcile connection job m kind binding status) hclaim
          hbinding rfl hstatus fun hprogram => absurd hprogram hother
      · intro _ _
        trivial

include hread hpayload hjob hrep hreported in
theorem reconcileTerminal_issues (hunproven : K job.jobId .unproven)
    (hfrozen : K job.jobId .frozen)
    (hunknown : status = .outcomeUnknown → K job.jobId .reportedUnknown) :
    Eff.Traced (Action.run cfg.codec) (Issued cfg env Read K Rep)
      (reconcileTerminal cfg env connection job m status) g (fun _ _ => True)
      fun _ _ => True := by
  unfold reconcileTerminal
  split
  · apply Eff.traced_bind
    apply traced_liftExcept
    · intro proven hproven
      split
      · next kind binding =>
          have hclaim := provenBinding_some hproven
          split
          · apply recordReconcileOutcome_issues hread
            rintro ⟨⟩
          · exact finishTypedReconcile_issues hread hpayload hjob hrep hreported hclaim hunproven
              hfrozen hunknown
      · exact recordReconcileOutcome_issues hread job fun _ => hfrozen
    · intro _ _
      trivial
  · next hkind =>
      have hplain : job.kind.isProgram = false ∧ job.kind.isRollback = false := by
        simpa [not_or] using hkind
      apply Eff.traced_bind
      apply traced_liftExcept
      · intro _ _
        exact handleUntypedResult_issues hread hpayload hunproven hfrozen hjob
          (hrep _ ⟨.reconciled hpayload m rfl hplain, status, hreported, rfl⟩)
      · intro _ _
        trivial

include hread hjob in
theorem reconcileUnknown_issues (hK : K job.jobId .reconciled) (hstate : job.state = .outcomeUnknown) :
    Eff.Traced (Action.run cfg.codec) (Issued cfg env Read K Rep)
      (reconcileUnknown cfg env connection job m) g (fun _ _ => True) fun _ _ => True := by
  have hrecord : ∀ t, Eff.Traced (Action.run cfg.codec) (Issued cfg env Read K Rep)
      (recordReconcileOutcome cfg env job false) t (fun _ _ => True) fun _ _ => True := by
    intro t
    apply recordReconcileOutcome_issues hread
    rintro ⟨⟩
  unfold reconcileUnknown
  split
  · dsimp only
    split
    · apply Eff.traced_bind
      apply (sendCancel_issues connection job _).mono
      · intro _ t _
        exact hrecord t
      · intro _ _ _
        trivial
    · exact hrecord g
  · split
    · apply Eff.traced_bind
      apply traced_transition (.move .reconciled hK hjob ⟨rfl, Or.inl ⟨hstate, rfl⟩⟩)
      · intro _
        split
        · exact traced_ensureCase trivial fun _ => trivial
        · exact Eff.traced_pure trivial
      · intro _ _ _
        split
        · exact traced_ensureCase trivial fun _ => trivial
        · exact Eff.traced_pure trivial
      · intro _
        trivial
    · apply traced_swallowRaces
      apply Eff.traced_bind
      apply traced_transition (.move .reconciled hK hjob ⟨rfl, Or.inl ⟨hstate, rfl⟩⟩)
      · intro _
        split
        · exact traced_ensureCase trivial fun _ => ⟨fun _ => trivial, trivial⟩
        · exact Eff.traced_pure trivial
      · intro _ _ _
        split
        · exact traced_ensureCase trivial fun _ => ⟨fun _ => trivial, trivial⟩
        · exact Eff.traced_pure trivial
      · intro _
        exact ⟨fun _ => trivial, trivial⟩

/-- A started job that was cancelled meanwhile is told so again. -/
theorem cancelStarted_issues (hrecancelled : K job.jobId .recancelled) {target : JobState}
    {updated : Option JobRow} (hknown : ∃ known : JobRow, Read g known ∧ known.jobId = job.jobId) :
    Eff.Traced (Action.run cfg.codec) (Issued cfg env Read K Rep)
      (reconcilePending.cancelStarted cfg env job target updated) g (fun _ _ => True)
      fun _ _ => True := by
  obtain ⟨known, hknown, hid⟩ := hknown
  unfold reconcilePending.cancelStarted
  split
  · rw [← hid] at hrecancelled ⊢
    apply traced_transition (.move .recancelled hrecancelled hknown rfl)
    · intro _
      trivial
    · intro _ _ _
      trivial
    · intro _
      trivial
  · exact Eff.traced_pure trivial

include hread in
theorem recordUnknown_issues (target : JobState) (updated : Option JobRow) :
    Eff.Traced (Action.run cfg.codec) (Issued cfg env Read K Rep)
      (reconcilePending.recordUnknown cfg env target updated) g (fun _ _ => True)
      fun _ _ => True := by
  unfold reconcilePending.recordUnknown
  split
  · apply recordReconcileOutcome_issues hread
    rintro ⟨⟩
  · exact Eff.traced_pure trivial

include hread hjob in
theorem reconcilePending_issues (hK : K job.jobId .reconciled)
    (hrecancelled : K job.jobId .recancelled)
    (hstate : job.state = .reconnectPending) :
    Eff.Traced (Action.run cfg.codec) (Issued cfg env Read K Rep)
      (reconcilePending cfg env connection job m) g (fun _ _ => True) fun _ _ => True := by
  unfold reconcilePending
  split
  · split
    · next hcancel =>
        apply Eff.traced_bind
        apply traced_transition
          (.move .reconciled hK hjob ⟨rfl, Or.inr (Or.inl ⟨hstate, hcancel, rfl⟩)⟩)
        · intro _
          exact Eff.traced_pure trivial
        · intro _ _ _
          exact Eff.traced_pure trivial
        · intro _
          trivial
    · next hcancel =>
        have hnone : job.cancelRequestedAt = none := by simpa using hcancel
        apply Eff.traced_bind
        apply traced_transition
          (.move .reconciled hK hjob ⟨rfl, Or.inr (Or.inr (Or.inl ⟨hstate, hnone, rfl⟩))⟩)
        · intro _
          exact Eff.traced_pure trivial
        · intro _ _ _
          exact Eff.traced_pure trivial
        · intro _
          trivial
  · -- the job has started: what is left to do only tells and records
    have hrest : ∀ (target : JobState) (updated : Option JobRow) (t : GatewayState),
        (∃ known : JobRow, Read t known ∧ known.jobId = job.jobId) →
        Eff.Traced (Action.run cfg.codec) (Issued cfg env Read K Rep)
          (reconcilePending.tellStarted cfg env connection job target updated) t
          (fun _ _ => True) fun _ _ => True := by
      intro target updated t hknown
      unfold reconcilePending.tellStarted
      dsimp only
      split
      · apply Eff.traced_bind
        apply (cancelStarted_issues hrecancelled hknown).mono
        · intro updated' u _
          apply Eff.traced_bind
          apply (sendCancel_issues connection _ _).mono
          · intro _ v _
            exact recordUnknown_issues hread target updated
          · intro _ _ _
            trivial
        · intro _ _ _
          trivial
      · exact recordUnknown_issues hread target updated
    dsimp only
    apply Eff.traced_bind
    apply traced_transition
      (.move .reconciled hK hjob ⟨rfl, Or.inr (Or.inr (Or.inr ⟨hstate, rfl⟩))⟩)
    · intro _
      exact hrest _ _ _ ⟨job, hjob, rfl⟩
    · intro row hrow _
      exact hrest _ _ _ ⟨_, moved_read hread hrow, (job?_some hrow).2⟩
    · intro _
      trivial

end

include hread in
theorem handleReconcileResult_issues {connection : Connection} {job : JobRow}
    {m : ReconcileResultMessage} (hjob : Read g job)
    (hmismatched : mismatches (.reconcileResult m) job = true → Opens g job →
      K job.jobId .mismatched)
    (hK : ∀ r, Reason.Answers job (.reconcileResult m) r → K job.jobId r)
    (hrep : ∀ o, Told (.reconcileResult m) job o → Rep job o) :
    Eff.Traced (Action.run cfg.codec) (Issued cfg env Read K Rep)
      (handleReconcileResult cfg env connection job m) g (fun _ _ => True) fun _ _ => True := by
  unfold handleReconcileResult
  split
  · next hpayload =>
      apply failPayload_issues _ hjob
      exact hmismatched (by simp [mismatches, AgentMessage.envelope, hpayload])
  · next hdiffers =>
      have hpayload : m.payloadHash = job.payloadHash := not_not.mp hdiffers
      have hmatches : mismatches (.reconcileResult m) job = false := by
        simp [mismatches, AgentMessage.envelope, hpayload]
      simp only [Reason.Answers, hmatches, true_and] at hK
      split
      · next status hterminal hstatus =>
          rw [hterminal, hstatus] at hK
          apply reconcileTerminal_issues hread hpayload hjob hrep hstatus
          · exact hK _ (Or.inl rfl)
          · exact hK _ (Or.inr (Or.inl rfl))
          · rintro rfl
            exact hK _ (Or.inr (Or.inr ⟨rfl, rfl⟩))
      · exact Eff.traced_throw trivial
      · next hnotsome hnotnone =>
          have hopen : m.status ≠ .terminal := by
            intro hterminal
            cases hstatus : m.resultStatus with
            | none => exact hnotnone hterminal hstatus
            | some status => exact hnotsome status hterminal hstatus
          simp only [hopen, if_false] at hK
          split
          · next hstate =>
              exact reconcileUnknown_issues hread hjob (hK _ (Or.inl rfl)) hstate
          · split
            · next hstate =>
                exact reconcilePending_issues hread hjob (hK _ (Or.inl rfl)) (hK _ (Or.inr rfl))
                  hstate
            · exact Eff.traced_throw trivial

/-! ## Messages -/

include hread in
/-- What a message leads to, on any row that it is handled with. -/
theorem handleBound_issues {connection : Connection} {job : JobRow} {m : AgentMessage}
    (hjob : Read g job)
    (hmismatched : mismatches m job = true → Opens g job → K job.jobId .mismatched)
    (hK : ∀ r, Reason.Answers job m r → K job.jobId r)
    (hrep : ∀ o, Told m job o → Rep job o) :
    Eff.Traced (Action.run cfg.codec) (Issued cfg env Read K Rep)
      (handleBound cfg env connection job m) g (fun _ _ => True) fun _ _ => True := by
  unfold handleBound
  split
  · next hpayload =>
      apply failPayload_issues _ hjob
      exact hmismatched (by simp [mismatches, hpayload])
  · next hdiffers =>
      have hpayload : m.envelope.payloadHash = job.payloadHash := not_not.mp hdiffers
      cases m with
      | ack m => exact handleAck_issues hmismatched hK hjob
      | progress m =>
          have hmatches : mismatches (.progress m) job = false := by
            simp [mismatches, hpayload]
          exact handleProgress_issues (hK _ ⟨hmatches, rfl⟩) hjob m
      | result m =>
          have hmatches : mismatches (.result m) job = false := by
            simp [mismatches, hpayload]
          exact handleUntypedResult_issues hread hpayload (hK _ ⟨hmatches, Or.inl rfl⟩)
            (hK _ ⟨hmatches, Or.inr rfl⟩) hjob (hrep _ ⟨.untyped hpayload m rfl rfl, m.status, rfl, rfl⟩)
      | programResult m =>
          have hmatches : mismatches (.programResult m) job = false := by
            simp [mismatches, hpayload]
          simp only [Reason.Answers, hmatches, true_and] at hK
          apply handleProgramResult_issues hread hpayload _ _ hjob
          · intro hstatus hbinding normalized hnormal
            exact hrep _ ⟨.program hpayload m rfl rfl hbinding normalized hnormal rfl hstatus
              fun _ => rfl, m.status, rfl, rfl⟩
          · intro hstatus
            exact hK _ (by rw [if_pos hstatus])
          · intro hstatus
            simp only [hstatus, if_false] at hK
            exact ⟨hK _ (Or.inl rfl), hK _ (Or.inr rfl)⟩
      | rollbackResult m =>
          have hmatches : mismatches (.rollbackResult m) job = false := by
            simp [mismatches, hpayload]
          simp only [Reason.Answers, hmatches, true_and] at hK
          apply handleRollbackResult_issues hread hpayload _ _ hjob
          · intro hstatus hbinding
            exact hrep _ ⟨.rollback hpayload m rfl hbinding rfl hstatus fun _ => rfl, m.status, rfl,
              rfl⟩
          · intro hstatus
            exact hK _ (by rw [if_pos hstatus])
          · intro hstatus
            simp only [hstatus, if_false] at hK
            exact ⟨hK _ (Or.inl rfl), hK _ (Or.inr rfl)⟩
      | reconcileResult m => exact handleReconcileResult_issues hread hjob hmismatched hK hrep

/-- The job that a message is for. -/
def addressed (g : GatewayState) (connection : Connection) (m : AgentMessage) : Option JobRow :=
  (g.db.getJobByCommand connection.deviceId m.envelope.commandId).filter
    fun job => boundTo connection job m.envelope

theorem getJobByCommand_some {db : Db} {deviceId : DeviceId} {commandId : CommandId}
    {row : JobRow} (h : db.getJobByCommand deviceId commandId = some row) :
    db.job? row.jobId = some row ∧ row.deviceId = deviceId ∧ row.commandId = commandId := by
  have hfound := List.find?_some h
  simp only [decide_eq_true_eq] at hfound
  exact ⟨Table.get?_of_mem (List.mem_of_find?_eq_some h), hfound.1, hfound.2⟩

include hread in
/-- A message for no job, or for another session, does nothing. -/
theorem handleMessage_issues {connection : Connection} {m : AgentMessage}
    (hmismatched : ∀ job ∈ addressed g connection m, mismatches m job = true → Opens g job →
      K job.jobId .mismatched)
    (hK : ∀ job ∈ addressed g connection m, ∀ r, Reason.Answers job m r → K job.jobId r)
    (hrep : ∀ job ∈ addressed g connection m, ∀ o, Told m job o → Rep job o) :
    Eff.Traced (Action.run cfg.codec) (Issued cfg env Read K Rep)
      (handleMessage cfg env connection m) g (fun _ _ => True) fun _ _ => True := by
  unfold handleMessage
  apply Eff.traced_bind
  apply Eff.traced_get
  split
  · exact Eff.traced_throw trivial
  · next job hjob =>
      split
      · next hbound =>
          have haddressed : job ∈ addressed g connection m := by
            simp [addressed, hjob, hbound]
          exact handleBound_issues hread (hread g job (getJobByCommand_some hjob).1)
            (hmismatched job haddressed) (hK job haddressed) (hrep job haddressed)
      · exact Eff.traced_throw trivial

/-! ## Cancellation -/

theorem requestCancel_issues {job : JobRow} (hK : K job.jobId .cancelled) (hjob : Read g job) :
    Eff.Traced (Action.run cfg.codec) (Issued cfg env Read K Rep) (requestCancel cfg env job) g
      (fun _ _ => True) fun _ _ => True := by
  unfold requestCancel
  apply Eff.traced_tryCatch_any
  · apply traced_perform rfl (.cancel hK hjob)
    · intro _ _ _
      trivial
    · intro _
      trivial
  · intro e t
    split
    · exact Eff.traced_throw trivial
    · exact Eff.traced_throw trivial

include hread in
theorem cancelJob_issues {jobId : JobId} (hK : K jobId .cancelled) (owner : Owner)
    (reason : String) :
    Eff.Traced (Action.run cfg.codec) (Issued cfg env Read K Rep)
      (cancelJob cfg env owner jobId reason) g (fun _ _ => True) fun _ _ => True := by
  unfold cancelJob
  apply Eff.traced_bind
  apply Eff.traced_get
  split
  · exact Eff.traced_throw trivial
  · next job hjob =>
      have hrow : g.db.job? jobId = some job := (Option.filter_eq_some_iff.mp hjob).1
      rw [← (job?_some hrow).2] at hK
      apply Eff.traced_bind
      apply (requestCancel_issues hK (hread g job (job?_self hrow))).mono
      · intro updated t _
        split
        · exact Eff.traced_throw trivial
        · split
          · exact Eff.traced_pure trivial
          · split
            · exact sendCancel_issues _ _ _
            · exact Eff.traced_pure trivial
      · intro _ _ _
        trivial

end

end AutocadMcp.Gateway
