import AutocadMcp.Gateway.Runs

/-!
# The write lock of a document

A job that takes the write lock of its document keeps it for as long as it may
still have an effect. The lock goes with the terminal result, with a stale row
in front of a new job, or by a release; only the handling of a message with
another payload gives it up for a job that then needs attention.
-/

namespace AutocadMcp.Gateway

/-- The job that took the lock still has it, unless it is done. -/
def Covered (lock : LockRow) (db : Db) : Prop :=
  ∃ row, db.job? lock.jobId = some row ∧
    (isActive row.state = true → db.locks.get? lock.document = some lock)

theorem terminal_of_inactive {state : JobState} (h : isActive state = false) :
    isTerminal state = true := by
  cases state <;> first | rfl | cases h

theorem inactive_of_terminal {state : JobState} (h : isTerminal state = true)
    (hattention : state ≠ .needsAttention) : isActive state = false := by
  cases state <;> first | rfl | cases h; exact absurd rfl hattention | cases h

/-- A job that is done stays done. -/
theorem CallMove.active {row row' : JobRow} {c : Call} (h : CallMove row c row')
    (hactive : isActive row'.state = true) : isActive row.state = true := by
  by_contra hdone
  have hterminal := terminal_of_inactive (by simpa using hdone)
  cases h with
  | kept => exact hdone hactive
  | fingerprinted a fingerprint => exact hdone hactive
  | progressed hid => exact hdone hactive
  | claimed hid hqueued =>
      rw [hqueued] at hterminal
      cases hterminal
  | moved hid hvalid hversion =>
      rw [(transition_passes hvalid).1] at hterminal
      cases hterminal
  | cancelled hid hnone hversion htarget =>
      cases hstate : row.state <;> rw [hstate] at hterminal htarget <;>
        cases hterminal <;> cases htarget
  | finalizedJob hid hdone hvalid =>
      rw [(transition_passes hvalid).1] at hterminal
      cases hterminal
  | finalizedProgram hid hvalid hresult =>
      rw [(transition_passes hvalid).1] at hterminal
      cases hterminal

section

variable {C : Codec} {db db' : Db} {lock : LockRow} {jobId : JobId}

/-! ## Locks under one call -/

/-- The calls that write no lock. -/
def Call.sparesLocks : Call → Bool
  | .createActionJob _ | .releaseIntent _ | .finalizeJobResult .. | .finalizeProgramJob _
  | .releaseWriteLock _ => false
  | _ => true

theorem sparesLocks_locks {c : Call} (hspares : c.sparesLocks = true) :
    (c.run C db).locks = db.locks := by
  cases c with
  | createJob a =>
      refine committed_rec (P := fun (s : Db) => s.locks = db.locks) rfl fun r db' h => ?_
      rcases createJob_ok h with ⟨old, hold, rfl | ⟨fingerprint, rfl⟩⟩ | ⟨_, hlocks, hcreated⟩
      · rfl
      · rfl
      · exact hlocks
  | claimJob jobId =>
      refine committed_rec (P := fun (s : Db) => s.locks = db.locks) rfl fun r db' h => ?_
      rcases claimJob_ok h with ⟨-, rfl⟩ | ⟨old, hold, hqueued, -, rfl⟩ <;> rfl
  | transitionJob jobId a =>
      refine committed_rec (P := fun (s : Db) => s.locks = db.locks) rfl fun r db' h => ?_
      rcases transitionJob_ok h with ⟨-, -, rfl⟩ | ⟨old, hold, -, -, -, -, rfl⟩ <;> rfl
  | requestJobCancel jobId expectedVersion now =>
      refine committed_rec (P := fun (s : Db) => s.locks = db.locks) rfl fun r db' h => ?_
      rcases requestJobCancel_ok h with ⟨-, rfl, -⟩ | ⟨old, target, hold, -, -, -, -, -, -, rfl⟩ <;>
        rfl
  | appendProgress jobId progress expectedVersion =>
      refine committed_rec (P := fun (s : Db) => s.locks = db.locks) rfl fun r db' h => ?_
      rcases appendProgress_ok h with rfl | ⟨old, hold, -, -, rfl⟩ <;> rfl
  | activateSession deviceId sessionId =>
      refine committed_rec (P := fun (s : Db) => s.locks = db.locks) rfl fun r db' h => ?_
      obtain ⟨sessions, rfl⟩ := activateSession_frame h
      rfl
  | closeSession deviceId sessionId =>
      refine committed_rec (P := fun (s : Db) => s.locks = db.locks) rfl fun r db' h => ?_
      obtain ⟨sessions, rfl⟩ := closeSession_frame h
      rfl
  | markSessionsDisconnected => rfl
  | createActionJob a => cases hspares
  | releaseIntent a => cases hspares
  | finalizeJobResult a snapshot expectedVersion evidence => cases hspares
  | finalizeProgramJob a => cases hspares
  | releaseWriteLock jobId => cases hspares

/-- The locks of the job are gone, and the job is in the state of its result. -/
def GaveBack (jobId : JobId) (target : JobState) (db db' : Db) : Prop :=
  db'.locks = Db.dropLocksOf db.locks jobId ∧
    ∃ row, db'.job? jobId = some row ∧ row.state = target

theorem runHook_drops {a : Finalize} {row : JobRow} {drops : Prop}
    (hhook : HookDrops drops a.jobId a.terminalHook) (h : a.runHook row db = .ok db') :
    db'.locks = db.locks ∨ (drops ∧ db'.locks = Db.dropLocksOf db.locks a.jobId) := by
  obtain ⟨locks, rfl, hnone, hsome⟩ := runHook_ok h
  cases hterminal : a.terminalHook with
  | none => exact Or.inl (hnone hterminal)
  | some hook => exact hhook hook hterminal row db.locks locks (hsome hook hterminal)

theorem finalizeJobResult_locks {a : Finalize} {snapshot : Option Json}
    {expectedVersion : Option Nat} {evidence : Bool} {drops : Prop}
    (hhook : HookDrops drops a.jobId a.terminalHook) :
    ((Call.finalizeJobResult a snapshot expectedVersion evidence).run C db).locks = db.locks ∨
    (drops ∧ GaveBack a.jobId a.target db
      ((Call.finalizeJobResult a snapshot expectedVersion evidence).run C db)) := by
  refine committed_rec (P := fun (s : Db) => s.locks = db.locks ∨
    (drops ∧ GaveBack a.jobId a.target db s)) (Or.inl rfl) fun r db' h => ?_
  rcases finalizeJobResult_ok h with ⟨-, -, rfl⟩ | ⟨row, hrow, -, hsame, -, hrun⟩ |
    ⟨row, snapshots, db1, hrow, -, -, -, -, hrun, -, rfl⟩
  · exact Or.inl rfl
  · rcases runHook_drops hhook hrun with hlocks | ⟨hdrops, hlocks⟩
    · exact Or.inl hlocks
    · refine Or.inr ⟨hdrops, hlocks, row, ?_, hsame⟩
      show db'.jobs.get? a.jobId = some row
      rw [(runHook_frame hrun).1]
      exact hrow
  · have hself : db1.job? a.jobId = some row := by
      show db1.jobs.get? a.jobId = some row
      rw [(runHook_frame hrun).1]
      exact hrow
    rcases runHook_drops hhook hrun with hlocks | ⟨hdrops, hlocks⟩
    · exact Or.inl hlocks
    · exact Or.inr ⟨hdrops, hlocks, a.set row, moved_self a.set_jobId hself, rfl⟩

theorem finalizeProgramJob_locks {a : Finalize}
    (hhook : HookDrops False a.jobId a.terminalHook) :
    ((Call.finalizeProgramJob a).run C db).locks = db.locks ∨
    GaveBack a.jobId a.target db ((Call.finalizeProgramJob a).run C db) := by
  refine committed_rec (P := fun (s : Db) => s.locks = db.locks ∨ GaveBack a.jobId a.target db s)
    (Or.inl rfl) fun r db' h => ?_
  have hkept : ∀ {row : JobRow} {db1 db2 : Db}, a.runHook row db1 = .ok db2 →
      db2.locks = db1.locks := by
    intro row db1 db2 hrun
    rcases runHook_drops hhook hrun with hlocks | ⟨hfalse, -⟩
    · exact hlocks
    · exact hfalse.elim
  rcases finalizeProgramJob_ok h with ⟨-, -, rfl⟩ | ⟨row, -, -, -, -, hrun⟩ |
    ⟨row, receipts, db1, hrow, -, -, -, -, -, hrun, -, rfl⟩
  · exact Or.inl rfl
  · exact Or.inl (hkept hrun)
  · have hself : db1.job? a.jobId = some row := by
      show db1.jobs.get? a.jobId = some row
      rw [(runHook_frame hrun).1]
      exact hrow
    have hmoved : (db1.moved a.jobId a.set a.set_jobId a.target a.result a.errorCode).job? a.jobId =
        some (a.set row) := moved_self a.set_jobId hself
    refine Or.inr ⟨?_, a.set row, hmoved, rfl⟩
    show Db.dropLocksOf db1.locks a.jobId = _
    rw [hkept hrun]

/-- The locks of other jobs stay. -/
theorem get?_dropLocksOf {locks : LockTable} (hlock : locks.get? lock.document = some lock)
    (hother : lock.jobId ≠ jobId) :
    (Db.dropLocksOf locks jobId).get? lock.document = some lock := by
  rw [Table.get?_eq_some_iff] at hlock ⊢
  exact ⟨Table.mem_deleteWhere.mpr ⟨hlock.1, by simpa using hother⟩, hlock.2⟩

/-- What clears a stale lock leaves the lock of an active job. -/
theorem get?_clearStaleLock {deviceId : DeviceId} {documentId : DocumentId} {row : JobRow}
    (hrow : db.job? lock.jobId = some row) (hactive : isActive row.state = true)
    (hlock : db.locks.get? lock.document = some lock) :
    (clearStaleLock db deviceId documentId).get? lock.document = some lock := by
  unfold clearStaleLock
  split
  · next stale hstale =>
      split
      · next holder hholder =>
          split
          · exact hlock
          · next hinactive =>
              rw [Table.get?_eq_some_iff] at hlock ⊢
              refine ⟨Table.mem_deleteWhere.mpr ⟨hlock.1, ?_⟩, rfl⟩
              -- the stale row is another one, its job is no longer active
              by_contra hsame
              have hid : lock.jobId = stale.jobId := by
                have hboth : lock.document = (deviceId, documentId) ∧ lock.jobId = stale.jobId := by
                  simpa using hsame
                exact hboth.2
              rw [hid, hholder] at hrow
              cases hrow
              exact hinactive hactive
      · exact hlock
  · exact hlock

/-! ## Cover under one call -/

theorem covered_same {c : Call} (h : Covered lock db)
    (hlocks : (c.run C db).locks = db.locks) : Covered lock (c.run C db) := by
  obtain ⟨row, hrow, hcover⟩ := h
  obtain ⟨row', hrow', hmove⟩ := call_row hrow c
  refine ⟨row', hrow', fun hactive => ?_⟩
  rw [hlocks]
  exact hcover (hmove.active hactive)

/-- Locks that a job gives back once it is done leave every other job covered. -/
theorem covered_gaveBack {c : Call} {target : JobState} (h : Covered lock db)
    (hback : GaveBack jobId target db (c.run C db)) (hinactive : isActive target = false) :
    Covered lock (c.run C db) := by
  obtain ⟨row, hrow, hcover⟩ := h
  obtain ⟨row', hrow', hmove⟩ := call_row hrow c
  obtain ⟨hlocks, done, hdone, hstate⟩ := hback
  refine ⟨row', hrow', fun hactive => ?_⟩
  rw [hlocks]
  apply get?_dropLocksOf (hcover (hmove.active hactive))
  rintro hid
  rw [hid, hdone] at hrow'
  cases hrow'
  rw [hstate, hinactive] at hactive
  cases hactive

/-- A release leaves every job covered that is not the one it names, or is done. -/
theorem covered_release (h : Covered lock db)
    (hdone : ∀ row, jobId = lock.jobId → db.job? jobId = some row → isActive row.state = false) :
    Covered lock (releaseWriteLock db jobId) := by
  obtain ⟨row, hrow, hcover⟩ := h
  refine ⟨row, hrow, fun hactive => get?_dropLocksOf (hcover hactive) ?_⟩
  rintro rfl
  rw [hdone row rfl hrow] at hactive
  cases hactive

section

variable {deviceId : DeviceId} {documentId : DocumentId} {new : JobRow}
  (hinsert : db.jobs.insert new = some db'.jobs)
  (hlocks : Db.insertLock (clearStaleLock db deviceId documentId)
    ⟨deviceId, documentId, new.jobId⟩ = .ok db'.locks)

include hinsert hlocks in
/-- A new job that takes the lock of its document is covered. -/
theorem covered_new : Covered ⟨deviceId, documentId, new.jobId⟩ db' := by
  obtain ⟨htaken, -⟩ := insertLock_ok hlocks
  refine ⟨new, ?_, fun _ => ?_⟩
  · show db'.jobs.get? new.jobId = some new
    rw [Table.get?_insert hinsert, if_pos rfl]
  · rw [Table.get?_insert htaken, if_pos rfl]

include hinsert in
/-- A new job is none of those that hold a lock. -/
theorem created_row {row : JobRow} (hrow : db.job? lock.jobId = some row) :
    db'.job? lock.jobId = some row := by
  have hne : new.jobId ≠ lock.jobId := by
    intro heq
    have hfree : db.job? new.jobId = none := (Table.insert_some hinsert).2
    rw [heq, hrow] at hfree
    cases hfree
  show db'.jobs.get? lock.jobId = some row
  rw [Table.get?_insert hinsert, if_neg hne]
  exact hrow

include hinsert hlocks in
/-- It leaves every other job covered, even where it clears a stale lock. -/
theorem covered_locked (h : Covered lock db) : Covered lock db' := by
  obtain ⟨htaken, -⟩ := insertLock_ok hlocks
  obtain ⟨row, hrow, hcover⟩ := h
  refine ⟨row, created_row hinsert hrow, fun hactive => ?_⟩
  have hkept : (clearStaleLock db deviceId documentId).get? lock.document = some lock :=
    get?_clearStaleLock hrow hactive (hcover hactive)
  rw [Table.get?_insert htaken]
  split
  · next hdocument =>
      have hfree := (Table.insert_some htaken).2
      rw [hdocument, hkept] at hfree
      cases hfree
  · exact hkept

include hinsert in
/-- A new job without a lock leaves every job covered. -/
theorem covered_unlocked (hsame : db'.locks = db.locks) (h : Covered lock db) :
    Covered lock db' := by
  obtain ⟨row, hrow, hcover⟩ := h
  refine ⟨row, created_row hinsert hrow, fun hactive => ?_⟩
  rw [hsame]
  exact hcover hactive

end

end

/-! ## Cover under a step -/

/-- The states that a job with a mismatching message must not be in to keep its lock. -/
def isUnresolved : JobState → Bool
  | .outcomeUnknown | .needsAttention => true
  | _ => false

/-- The kinds whose lock goes when a message settles them. -/
def isLockedProgram (kind : JobKind) : Bool :=
  kind = .programPreview || kind = .programCommit

/-- The event handles no message with another payload for a Program job whose outcome is unknown
and which took a write lock. -/
def SparesUnresolved (cfg : Config) (w : World) (e : Event) : Prop :=
  ∀ handled ∈ handled? cfg w e, mismatches handled.1 handled.2 = true →
    handled.2.state = .outcomeUnknown → isLockedProgram handled.2.kind = true →
      ∀ lock ∈ w.acquired, lock.jobId ≠ handled.2.jobId

instance (cfg : Config) (w : World) (e : Event) : Decidable (SparesUnresolved cfg w e) := by
  unfold SparesUnresolved
  infer_instance

theorem storedOf_settles {cfg : Config} {job : JobRow} {o : Outcome}
    (h : isActive o.target = false) : isActive (storedOf cfg job o).target = false := by
  unfold storedOf
  split
  · split
    · unfold storeObservation
      split
      · split
        · rfl
        · split <;> rfl
      · rfl
    · rfl
  · rfl
  · rfl
  · exact h

theorem targetOf_settles {status : ResultStatus} (h : status ≠ .outcomeUnknown) :
    isActive (targetOf status) = false := by
  cases status <;> first | rfl | exact absurd rfl h

/-- A reported outcome of a typed job is final. -/
theorem Reported.settles {fits : PayloadFits} {cfg : Config} {m : AgentMessage} {job : JobRow}
    {o : Outcome} (h : Reported m job o) (hvalid : m.valid fits = true)
    (htyped : job.kind.isProgram = true ∨ job.kind.isRollback = true) :
    isActive (storedOf cfg job o).target = false := by
  apply storedOf_settles
  cases h with
  | untyped hpayload r hm ho =>
      subst hm ho
      apply targetOf_settles
      intro hunknown
      simp [AgentMessage.valid, ResultMessage.valid, hunknown] at hvalid
  | program hpayload typed hclaim hresult hbinding normalized hnormal ho hstatus =>
      subst ho
      exact targetOf_settles hstatus
  | rollback hpayload typed hclaim hbinding ho hstatus =>
      subst ho
      exact targetOf_settles hstatus
  | reconciled hpayload r hm hkind =>
      rcases htyped with hprogram | hrollback
      · rw [hkind.1] at hprogram
        cases hprogram
      · rw [hkind.2] at hrollback
        cases hrollback

section

variable {cfg : Config} {w : World} {e : Event} {g : GatewayState} {lock : LockRow}

theorem answers_ne_mismatched {job : JobRow} {m : AgentMessage} {reason : Reason}
    (h : reason.Answers job m) : reason ≠ .mismatched := by
  rintro rfl
  obtain ⟨-, h⟩ := h
  cases m with
  | ack m =>
      simp only at h
      split at h <;> cases h
  | progress m => cases h
  | result m => simp at h
  | programResult m =>
      simp only at h
      split at h <;> simp at h
  | rollbackResult m =>
      simp only at h
      split at h <;> simp at h
  | reconcileResult m =>
      simp only at h
      split at h <;> simp at h

/-- An event that mismatches a job has the message to show for it. -/
theorem gives_mismatched {j : JobId} (h : e.Gives cfg w j .mismatched) :
    ∃ m job, handled? cfg w e = some (m, job) ∧ j = job.jobId ∧ mismatches m job = true ∧
      isTerminal job.state = false := by
  cases e with
  | message env sessionId m =>
      obtain ⟨m', job, hhandled, hid, ⟨-, hmismatch, hopen⟩ | hanswers⟩ := h
      · exact ⟨m', job, hhandled, hid, hmismatch, hopen⟩
      · exact absurd rfl (answers_ne_mismatched hanswers)
  | _ => simp [Event.Gives] at h

/-- Such an event has no other reason to move a job. -/
theorem mismatched_only {j j' : JobId} {reason : Reason} (h : e.Gives cfg w j .mismatched)
    (hreason : e.Gives cfg w j' reason) : reason = .mismatched := by
  obtain ⟨m, job, hhandled, -, hmismatch, -⟩ := gives_mismatched h
  cases e with
  | message env sessionId m' =>
      obtain ⟨m1, job1, hhandled1, -, ⟨hreason, -⟩ | ⟨hmatches, -⟩⟩ := hreason
      · exact hreason
      · rw [hhandled] at hhandled1
        cases hhandled1
        rw [hmismatch] at hmatches
        cases hmatches
  | _ => cases hhandled

/-- A job that is neither unknown nor in need of attention does not become so by a message with
another payload. -/
theorem mismatched_resolved {row row' : JobRow} (h : e.Gives cfg w row.jobId .mismatched)
    (hstep : RowStep cfg w e row row') (hresolved : isUnresolved row.state = false) :
    isUnresolved row'.state = false := by
  cases hstep with
  | kept => exact hresolved
  | fingerprinted fingerprint => exact hresolved
  | progressed progress => exact hresolved
  | claimed hgives hqueued => cases mismatched_only h hgives
  | cancelled env target hgives hnone htarget => cases mismatched_only h hgives
  | moved env reason a henv hgives hallows hvalid =>
      obtain rfl := mismatched_only h hgives
      have htarget : a.target = settledTarget row := hallows
      show isUnresolved a.target = false
      rw [htarget]
      unfold settledTarget
      split
      · next hunknown =>
          rw [hunknown] at hresolved
          cases hresolved
      · rfl
  | finalized o hook hreports hvalid =>
      obtain ⟨m, job, hhandled, -, hmismatch, -⟩ := gives_mismatched h
      obtain ⟨m', hhandled', hreported⟩ := hreports
      rw [hhandled] at hhandled'
      cases hhandled'
      rw [hreported.not_mismatches] at hmismatch
      cases hmismatch

/-- What holds of a job with a lock while a message with another payload is handled for it. -/
def Resolved (cfg : Config) (w : World) (e : Event) (lock : LockRow) (g : GatewayState) : Prop :=
  e.Gives cfg w lock.jobId .mismatched → ∀ row, g.db.job? lock.jobId = some row →
    isLockedProgram row.kind = true → isUnresolved row.state = false

theorem covered_issued {env : Env} {c : Call}
    (h : Issued cfg env Held (e.Gives cfg w) (e.Reports cfg w) g (.call c))
    (hcovered : Covered lock g.db) (hresolved : Resolved cfg w e lock g) :
    Covered lock (c.run cfg.codec g.db) := by
  have hsettles : ∀ {job : JobRow} {o : Outcome}, e.Reports cfg w job o →
      (job.kind.isProgram = true ∨ job.kind.isRollback = true) →
        isActive (storedOf cfg job o).target = false := by
    rintro job o ⟨m, hhandled, hreported⟩ htyped
    exact hreported.settles (handled?_valid hhandled) htyped
  cases h with
  | move reason hreason hread hallows => exact covered_same hcovered (sparesLocks_locks rfl)
  | claim hreason hread hqueued => exact covered_same hcovered (sparesLocks_locks rfl)
  | cancel hreason hread => exact covered_same hcovered (sparesLocks_locks rfl)
  | progress hreason => exact covered_same hcovered (sparesLocks_locks rfl)
  | sessions hreason => exact covered_same hcovered (sparesLocks_locks rfl)
  | release hinactive => exact covered_release hcovered fun row _ hrow => hinactive row hrow
  | releaseSettled hreason hsettled =>
      apply covered_release hcovered
      rintro row rfl hrow
      obtain ⟨hterminal, hkind⟩ := hsettled row hrow
      have hlocked : isLockedProgram row.kind = true := by
        rcases hkind with hkind | hkind <;> rw [hkind] <;> rfl
      apply inactive_of_terminal hterminal
      intro hattention
      have hcalm := hresolved hreason row hrow hlocked
      rw [hattention] at hcalm
      cases hcalm
  | @finalizeProgram job o hook hread hkind hrep hhook =>
      have hhook' : HookDrops False (finalizeArgs job o (storedOf cfg job o) hook).jobId
          (finalizeArgs job o (storedOf cfg job o) hook).terminalHook := hhook
      rcases finalizeProgramJob_locks hhook' with hlocks | hback
      · exact covered_same hcovered hlocks
      · exact covered_gaveBack hcovered hback (hsettles hrep (Or.inl hkind))
  | @finalizeRollback job o hook hread hkind hrep hhook =>
      have hhook' : HookDrops (job.kind = .rollbackCommit)
          (finalizeArgs job o (storedOf cfg job o) hook).jobId
          (finalizeArgs job o (storedOf cfg job o) hook).terminalHook := hhook
      rcases finalizeJobResult_locks hhook' with hlocks | ⟨-, hback⟩
      · exact covered_same hcovered hlocks
      · exact covered_gaveBack hcovered hback (hsettles hrep (Or.inr hkind))
  | @finalizeOther job o snapshot hread hkind hrep =>
      have hhook : HookDrops False (finalizeArgs job o (storedOf cfg job o) none).jobId
          (finalizeArgs job o (storedOf cfg job o) none).terminalHook := by
        rintro f ⟨⟩
      rcases finalizeJobResult_locks hhook with hlocks | ⟨hfalse, -⟩
      · exact covered_same hcovered hlocks
      · exact hfalse.elim

/-- A creation leaves every job covered. -/
theorem covered_created {c : Call} (h : e.creation? = some c) (hcovered : Covered lock g.db) :
    Covered lock (c.run cfg.codec g.db) := by
  cases e with
  | createJob a =>
      cases h
      exact covered_same hcovered (sparesLocks_locks rfl)
  | createActionJob a =>
      cases h
      refine committed_rec (P := Covered lock) hcovered fun r db' hok => ?_
      rcases createActionJob_ok hok with ⟨hjobs, -, hlocks, -⟩ |
        ⟨_, row, rfl, hcreated, -, -, hno, hyes⟩
      · obtain ⟨row, hrow, hcover⟩ := hcovered
        refine ⟨row, ?_, ?_⟩
        · show db'.jobs.get? lock.jobId = some row
          rw [hjobs]
          exact hrow
        · rw [hlocks]
          exact hcover
      · cases hacquire : a.acquireWriteLock with
        | false => exact covered_unlocked hcreated.1 (hno hacquire) hcovered
        | true => exact covered_locked hcreated.1 (hyes hacquire) hcovered
  | releaseIntent a =>
      cases h
      refine committed_rec (P := Covered lock) hcovered fun r db' hok => ?_
      obtain ⟨hcreated, -, hlocks⟩ := releaseIntent_ok hok
      exact covered_locked hcreated.1 hlocks hcovered
  | _ => cases h

theorem covered_action {k : Action} (h : Allowed cfg w e g k) (hcovered : Covered lock g.db)
    (hresolved : Resolved cfg w e lock g) : Covered lock (k.run cfg.codec g).db := by
  cases k with
  | send message => exact hcovered
  | register registry => exact hcovered
  | enrol device => exact hcovered
  | call c =>
      cases h with
      | handled henv hissued => exact covered_issued hissued hcovered hresolved
      | create hcreation => exact covered_created hcreation hcovered
      | activate deviceId sessionId => exact covered_same hcovered (sparesLocks_locks rfl)
      | close deviceId sessionId => exact covered_same hcovered (sparesLocks_locks rfl)

theorem resolved_action {k : Action} (h : Allowed cfg w e g k) (hcovered : Covered lock g.db)
    (hresolved : Resolved cfg w e lock g) : Resolved cfg w e lock (k.run cfg.codec g) := by
  obtain ⟨row, hrow, -⟩ := hcovered
  have hid : row.jobId = lock.jobId := (job?_some hrow).2
  rw [← hid] at hrow
  obtain ⟨row', hrow', hstep⟩ := allowed_row h hrow
  intro hgives next hnext hkind
  rw [← hid, hrow'] at hnext
  cases hnext
  rw [hid] at hrow
  have hsame : row'.kind = row.kind := by
    have hidentity := hstep.identity
    simp only [JobRow.identity, Prod.mk.injEq] at hidentity
    exact hidentity.2.2.2.1
  rw [hsame] at hkind
  rw [← hid] at hgives
  exact mismatched_resolved hgives hstep (hresolved (hid ▸ hgives) row hrow hkind)

/-- **A step leaves every job with a lock covered** that it spares. -/
theorem covered_step (hspares : SparesUnresolved cfg w e) (hacquired : lock ∈ w.acquired)
    (hcovered : Covered lock w.gateway.db) : Covered lock (World.step cfg w e).gateway.db := by
  have hresolved : Resolved cfg w e lock w.gateway := by
    intro hgives row hrow hkind
    obtain ⟨m, job, hhandled, hid, hmismatch, hopen⟩ := gives_mismatched hgives
    obtain rfl : row = job := by
      have hheld : w.gateway.db.job? job.jobId = some job := handled?_held hhandled
      rw [← hid, hrow] at hheld
      cases hheld
      rfl
    have hknown : row.state ≠ .outcomeUnknown := fun hunknown =>
      hspares (m, row) hhandled hmismatch hunknown hkind lock hacquired hid
    rcases Bool.eq_false_or_eq_true (isUnresolved row.state) with hunresolved | hfine
    · cases hstate : row.state <;> rw [hstate] at hopen hknown hunresolved <;>
        first | cases hunresolved; done | cases hopen; done | exact absurd rfl hknown
    · exact hfine
  have hboth := (step_reaches cfg w e).invariant
    (fun g => Covered lock g.db ∧ Resolved cfg w e lock g)
    (fun g k h hallowed => ⟨covered_action hallowed h.1 h.2, resolved_action hallowed h.1 h.2⟩)
    ⟨hcovered, hresolved⟩
  exact hboth.1

/-! ## Which locks a step takes -/

section

variable {env : Env} {connection : Connection}

theorem beginDispatch_acquired (jobId : JobId) (activation : Option SessionId) :
    (w.beginDispatch cfg env jobId activation).2.acquired = w.acquired := by
  unfold World.beginDispatch
  split <;> rfl

theorem endDispatch_acquired (inFlight : InFlight) (sent : Bool) :
    (w.endDispatch cfg env inFlight sent).acquired = w.acquired := by
  unfold World.endDispatch
  dsimp only
  split
  · rfl
  · split
    · rfl
    · split <;> rfl

theorem activate_acquired : (w.activate cfg env connection).acquired = w.acquired := by
  unfold World.activate
  split
  · split <;> rfl
  · rfl

theorem proceed_acquired (batches : List (List JobRow)) (queued : List JobId) :
    (w.proceed cfg env connection batches queued).acquired = w.acquired := by
  unfold World.proceed
  split
  · split <;> rfl
  · next jobId queued =>
      split
      · rfl
      · have hbegin : ((w.setPhase connection.sessionId (.activating [] queued)).beginDispatch cfg
            env jobId (some connection.sessionId)).2.acquired = w.acquired :=
          beginDispatch_acquired jobId (some connection.sessionId)
        split
        · next hexec =>
            rw [hexec] at hbegin
            exact hbegin
        · next hexec =>
            rw [hexec] at hbegin
            split
            · exact hbegin
            · exact hbegin
  · split <;> rfl

theorem connect_acquired : (w.connect connection).acquired = w.acquired := by
  unfold World.connect
  split
  · rfl
  · split <;> rfl

theorem expire_acquired (deviceId : DeviceId) :
    (w.expire cfg env deviceId).acquired = w.acquired := by
  unfold World.expire
  split
  · split <;> rfl
  · rfl

end

/-- A lock that a step takes is its job's. -/
theorem step_acquired (cfg : Config) (w : World) (e : Event) :
    ∀ lock ∈ (World.step cfg w e).acquired,
      lock ∈ w.acquired ∨ Covered lock (World.step cfg w e).gateway.db := by
  have hsame : (World.step cfg w e).acquired = w.acquired → ∀ lock ∈ (World.step cfg w e).acquired,
      lock ∈ w.acquired ∨ Covered lock (World.step cfg w e).gateway.db :=
    fun heq lock hlock => Or.inl (heq ▸ hlock)
  cases e with
  | createActionJob a =>
      intro lock hlock
      simp only [World.step, World.createActionJob] at hlock ⊢
      split at hlock
      · next r db hok =>
          rcases List.mem_append.mp hlock with hold | hnew
          · exact Or.inl hold
          · right
            rcases createActionJob_ok hok with ⟨-, -, -, -, hexisted⟩ |
              ⟨_, row, rfl, hcreated, -, rfl, -, hyes⟩
            · obtain ⟨r, existed⟩ := r
              cases hexisted
              cases r <;> cases hnew
            · simp only [acquiredBy] at hnew
              split at hnew
              · next hacquire =>
                  obtain rfl := List.mem_singleton.mp hnew
                  exact covered_new hcreated.1 (hyes hacquire)
              · cases hnew
      · exact Or.inl hlock
  | releaseIntent a =>
      intro lock hlock
      simp only [World.step, World.releaseIntent] at hlock ⊢
      split at hlock
      · next row db hok =>
          rcases List.mem_append.mp hlock with hold | hnew
          · exact Or.inl hold
          · right
            obtain ⟨hcreated, -, hlocks⟩ := releaseIntent_ok hok
            obtain rfl := List.mem_singleton.mp hnew
            exact covered_new hcreated.1 hlocks
      · exact Or.inl hlock
  | createJob a => exact hsame rfl
  | enrol device => exact hsame rfl
  | dispatch env jobId =>
      apply hsame
      simp only [World.step]
      split
      · rfl
      · exact beginDispatch_acquired jobId none
  | dispatched env sent =>
      apply hsame
      simp only [World.step]
      split
      · exact endDispatch_acquired _ sent
      · rfl
  | message env sessionId m =>
      apply hsame
      simp only [World.step]
      split
      · unfold World.receive
        split <;> rfl
      · rfl
  | evidence env owner jobId => exact hsame rfl
  | cancel env owner jobId reason => exact hsame rfl
  | sweep env => exact hsame rfl
  | stale env deviceId => exact hsame (expire_acquired deviceId)
  | connect connection => exact hsame connect_acquired
  | heartbeat connection => exact hsame rfl
  | activate env sessionId =>
      apply hsame
      simp only [World.step]
      split
      · exact activate_acquired
      · rfl
  | proceed env sessionId =>
      apply hsame
      simp only [World.step]
      split
      · exact proceed_acquired _ _
      · rfl
  | reject env sessionId =>
      apply hsame
      simp only [World.step]
      split <;> rfl
  | close env sessionId =>
      apply hsame
      simp only [World.step]
      split <;> rfl
  | restart env => exact hsame rfl

/-! ## Runs -/

/-- Every job that took the write lock of its document still has it while it is active, and no two
active jobs took the lock of one document. -/
structure LocksCover (w : World) : Prop where
  covers : ∀ lock ∈ w.acquired, Covered lock w.gateway.db
  exclusive : ∀ lock ∈ w.acquired, ∀ other ∈ w.acquired, lock.document = other.document →
    ∀ row row', w.gateway.db.job? lock.jobId = some row → isActive row.state = true →
      w.gateway.db.job? other.jobId = some row' → isActive row'.state = true → lock = other

/-- One document has one lock, so covered jobs exclude each other. -/
theorem exclusive_of_covers {db : Db} {lock other : LockRow} (h : Covered lock db)
    (h' : Covered other db) (hdocument : lock.document = other.document) {row row' : JobRow}
    (hrow : db.job? lock.jobId = some row) (hactive : isActive row.state = true)
    (hrow' : db.job? other.jobId = some row') (hactive' : isActive row'.state = true) :
    lock = other := by
  obtain ⟨held, hheld, hcover⟩ := h
  obtain ⟨held', hheld', hcover'⟩ := h'
  rw [hrow] at hheld
  rw [hrow'] at hheld'
  cases hheld
  cases hheld'
  have hfirst := hcover hactive
  rw [hdocument, hcover' hactive'] at hfirst
  cases hfirst
  rfl

theorem locksCover_of_covers (h : ∀ lock ∈ w.acquired, Covered lock w.gateway.db) :
    LocksCover w where
  covers := h
  exclusive lock hlock other hother hdocument _ _ hrow hactive hrow' hactive' :=
    exclusive_of_covers (h lock hlock) (h other hother) hdocument hrow hactive hrow' hactive'

theorem locksCover_step (hspares : SparesUnresolved cfg w e) (h : LocksCover w) :
    LocksCover (World.step cfg w e) := by
  apply locksCover_of_covers
  intro lock hlock
  rcases step_acquired cfg w e lock hlock with hold | hnew
  · exact covered_step hspares hold (h.covers lock hold)
  · exact hnew

theorem locksCover_initial (db : Db) : LocksCover (World.initial db) :=
  locksCover_of_covers fun _ hlock => absurd hlock List.not_mem_nil

/-- **An active job keeps the write lock of its document**, in every run in which no message with
another payload is handled for a Program job with a lock whose outcome is unknown. -/
theorem runs_cover_locks (cfg : Config) (db : Db) (events : List Event)
    (h : Along (World.step cfg) (SparesUnresolved cfg) (World.initial db) events) :
    LocksCover (runEvents cfg db events) :=
  h.invariant LocksCover (fun _ _ hcover hspares => locksCover_step hspares hcover)
    (locksCover_initial db)

/-- The sample commit is accepted, its session closes, and the Agent comes back on another one. -/
def sampleUnresolved : List Event :=
  sampleDispatch ++ [.message { now := 300 } 1 (.ack sampleAccepted), .close { now := 400 } 1] ++
    sampleSession 2 ++ [.proceed { now := 500 } 2]

theorem runs_cover_locks_unresolved :
    LocksCover (runEvents sampleConfig sampleDb sampleUnresolved) :=
  runs_cover_locks sampleConfig sampleDb sampleUnresolved (by decide +kernel)

/-- An acknowledgement of the sample commit that names another payload. -/
def sampleMisdirected : AckMessage :=
  { sampleAccepted with sessionId := 2, payloadHash := 1 }

/-- The message settles the unresolved commit, which is still active but has lost its lock. -/
theorem mismatch_drops_lock :
    ¬ LocksCover (runEvents sampleConfig sampleDb
      (sampleUnresolved ++ [.message { now := 600 } 2 (.ack sampleMisdirected)])) := by
  intro h
  have htaken : ⟨1, 5, 10⟩ ∈ (runEvents sampleConfig sampleDb
      (sampleUnresolved ++ [.message { now := 600 } 2 (.ack sampleMisdirected)])).acquired := by
    decide +kernel
  have hlost : ∃ row ∈ (runEvents sampleConfig sampleDb
      (sampleUnresolved ++ [.message { now := 600 } 2
        (.ack sampleMisdirected)])).gateway.db.job? 10, isActive row.state = true ∧
      (runEvents sampleConfig sampleDb (sampleUnresolved ++ [.message { now := 600 } 2
        (.ack sampleMisdirected)])).gateway.db.locks.get? (1, 5) = none := by
    decide +kernel
  obtain ⟨row, hrow, hactive, hfree⟩ := hlost
  obtain ⟨held, hheld, hcover⟩ := h.covers _ htaken
  have hsame : some held = some row := hheld.symm.trans hrow
  cases hsame
  have hlock := hcover hactive
  rw [show LockRow.document ⟨1, 5, 10⟩ = (1, 5) from rfl, hfree] at hlock
  cases hlock

end

end AutocadMcp.Gateway
