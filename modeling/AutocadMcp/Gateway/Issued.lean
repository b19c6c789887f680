import AutocadMcp.Gateway.AgentReports

/-!
# What the handlers issue

Each handler of the job service is a chain of repository calls and sends. This
module says, once for each handler, which calls it can issue and what it knows
of the job when it does; the results about whole runs look at the calls alone.
-/

namespace AutocadMcp.Gateway

/-! ## Reasons to move a job -/

inductive Reason where
  /-- The dispatch policy, or a typed command whose hash is not the job's. -/
  | refused
  /-- No fresh connection for a claimed job. -/
  | offline
  /-- The session or the process is gone, or the ledger knows the command already. -/
  | lost
  | expired
  | mismatched
  | frozen
  | accepted
  | rejected
  | progressed
  | reportedUnknown
  /-- A Program result that does not prove its binding. -/
  | unproven
  | reconciled
  /-- A started job is told again of a cancellation. -/
  | recancelled
  | claimed
  | cancelled
  | restarted
  deriving DecidableEq, Repr

/-- What a handler knows of the job it moves, and where it moves it. -/
def Reason.Allows (now : Instant) (job : JobRow) (a : Transition) : Reason → Prop
  | .refused =>
      (job.state = .queued ∨ job.state = .dispatched) ∧ a.target = .failed ∧ a.evidence = false
  | .offline => job.state = .dispatched ∧ a.target = .reconnectPending
  | .lost => isOpen job.state = true ∧ a.target = lostTarget job
  | .expired =>
      isExpired now job.deadlineAt = true ∧
        ¬ (job.kind = .programCommit ∧ job.state = .outcomeUnknown) ∧ a.target = settledTarget job
  | .mismatched => a.target = settledTarget job
  | .frozen =>
      (isOpen job.state = true ∧ a.target = .outcomeUnknown) ∨
      ((job.state = .reconnectPending ∨ job.state = .outcomeUnknown) ∧ a.target = .needsAttention)
  | .accepted => job.state = .dispatched ∧ a.target = .acknowledged
  | .rejected => isTerminal job.state = false ∧ a.target = .failed
  | .progressed => job.state = .acknowledged ∧ a.target = .running
  | .reportedUnknown => a.target = .outcomeUnknown
  | .unproven =>
      (isStarted job.state = true ∧ a.target = .outcomeUnknown) ∨
      (a.target = .failed ∧ a.evidence = false)
  | .reconciled =>
      a.expectedVersion = some job.stateVersion ∧
      ((job.state = .outcomeUnknown ∧ a.target = .needsAttention) ∨
       (job.state = .reconnectPending ∧ job.cancelRequestedAt.isSome ∧ a.target = .cancelled) ∨
       (job.state = .reconnectPending ∧ job.cancelRequestedAt = none ∧ a.target = .queued) ∨
       (job.state = .reconnectPending ∧
        a.target = if job.effectClass = .write then .outcomeUnknown else .running))
  | .recancelled => a.target = .cancelRequested
  | .claimed | .cancelled | .restarted => False

/-- A hook that leaves the write locks alone, or gives back the locks of one job. -/
def HookDrops (drops : Prop) (jobId : JobId) (hook : Option TerminalHook) : Prop :=
  ∀ f ∈ hook, ∀ row locks locks', f row locks = .ok locks' →
    locks' = locks ∨ (drops ∧ locks' = Db.dropLocksOf locks jobId)

def isCommand : GatewayMessage → Bool
  | .command _ => true
  | _ => false

/-- The calls and sends that a handler may issue: `Read` says what it knows of a row it holds,
`K` which reasons it has, and `Rep` which outcomes it reports. -/
inductive Issued (cfg : Config) (env : Env) (Read : GatewayState → JobRow → Prop)
    (K : JobId → Reason → Prop) (Rep : JobRow → Outcome → Prop) (g : GatewayState) : Action → Prop
  | move (reason : Reason) {job : JobRow} {a : Transition} (hreason : K job.jobId reason)
      (hread : Read g job) (hallows : reason.Allows env.now job a) :
      Issued cfg env Read K Rep g (.call (.transitionJob job.jobId a))
  | claim {job : JobRow} (hreason : K job.jobId .claimed) (hread : Read g job) (hqueued : job.state = .queued) :
      Issued cfg env Read K Rep g (.call (.claimJob job.jobId))
  | cancel {job : JobRow} (hreason : K job.jobId .cancelled) (hread : Read g job) :
      Issued cfg env Read K Rep g
        (.call (.requestJobCancel job.jobId (some job.stateVersion) env.now))
  | progress {jobId : JobId} {progress : Progress} (hreason : K jobId .progressed) :
      Issued cfg env Read K Rep g (.call (.appendProgress jobId progress none))
  | sessions (hreason : ∀ j, K j .restarted) :
      Issued cfg env Read K Rep g (.call .markSessionsDisconnected)
  | release {jobId : JobId}
      (hinactive : ∀ row, g.db.job? jobId = some row → isActive row.state = false) :
      Issued cfg env Read K Rep g (.call (.releaseWriteLock jobId))
  | releaseSettled {jobId : JobId} (hreason : K jobId .mismatched)
      (hsettled : ∀ row, g.db.job? jobId = some row → isTerminal row.state = true ∧
        (row.kind = .programPreview ∨ row.kind = .programCommit)) :
      Issued cfg env Read K Rep g (.call (.releaseWriteLock jobId))
  | finalizeProgram {job : JobRow} {o : Outcome} {hook : Option TerminalHook} (hread : Read g job)
      (hkind : job.kind.isProgram = true) (hrep : Rep job o) (hhook : HookDrops False job.jobId hook) :
      Issued cfg env Read K Rep g
        (.call (.finalizeProgramJob (finalizeArgs job o (storedOf cfg job o) hook)))
  | finalizeRollback {job : JobRow} {o : Outcome} {hook : Option TerminalHook} (hread : Read g job)
      (hkind : job.kind.isRollback = true) (hrep : Rep job o)
      (hhook : HookDrops (job.kind = .rollbackCommit) job.jobId hook) :
      Issued cfg env Read K Rep g
        (.call (.finalizeJobResult (finalizeArgs job o (storedOf cfg job o) hook) none none true))
  | finalizeOther {job : JobRow} {o : Outcome} {snapshot : Option Json} (hread : Read g job)
      (hkind : job.kind.isProgram = false ∧ job.kind.isRollback = false) (hrep : Rep job o) :
      Issued cfg env Read K Rep g
        (.call (.finalizeJobResult (finalizeArgs job o (storedOf cfg job o) none) snapshot none
          true))
  | send {message : GatewayMessage} (hmessage : isCommand message = false) :
      Issued cfg env Read K Rep g (.send message)

section

variable {cfg : Config} {env : Env} {Read : GatewayState → JobRow → Prop}
  {K : JobId → Reason → Prop} {Rep : JobRow → Outcome → Prop} {g : GatewayState}

/-- More reasons and more outcomes allow more. -/
theorem Issued.weaken {K' : JobId → Reason → Prop} {Rep' : JobRow → Outcome → Prop} {k : Action}
    (h : Issued cfg env Read K Rep g k) (hK : ∀ j r, K j r → K' j r)
    (hRep : ∀ job o, Rep job o → Rep' job o) : Issued cfg env Read K' Rep' g k := by
  cases h with
  | move reason hreason hread hallows => exact .move reason (hK _ _ hreason) hread hallows
  | claim hreason hread hqueued => exact .claim (hK _ _ hreason) hread hqueued
  | cancel hreason hread => exact .cancel (hK _ _ hreason) hread
  | progress hreason => exact .progress (hK _ _ hreason)
  | sessions hreason => exact .sessions fun j => hK j _ (hreason j)
  | release hinactive => exact .release hinactive
  | releaseSettled hreason hsettled => exact .releaseSettled (hK _ _ hreason) hsettled
  | finalizeProgram hread hkind hrep hhook =>
      exact .finalizeProgram hread hkind (hRep _ _ hrep) hhook
  | finalizeRollback hread hkind hrep hhook =>
      exact .finalizeRollback hread hkind (hRep _ _ hrep) hhook
  | finalizeOther hread hkind hrep => exact .finalizeOther hread hkind (hRep _ _ hrep)
  | send hmessage => exact .send hmessage

/-! ## Rules for the primitives -/

section

variable {P : GatewayState → Action → Prop} {α : Type} {onOk : α → GatewayState → Prop}
  {onError : Failure → GatewayState → Prop}

/-- A call needs to be allowed where it commits. -/
theorem traced_commit {op : Db → Except Failure (α × Db)} {c : Call}
    (hrun : c.run cfg.codec g.db = committed g.db (op g.db))
    (hP : ∀ r, op g.db = .ok r → P g (.call c))
    (hok : ∀ a db', op g.db = .ok (a, db') → onOk a { g with db := db' })
    (herror : ∀ e, onError e g) :
    Eff.Traced (Action.run cfg.codec) P (perform env op) g onOk onError := by
  apply Eff.traced_attempt
  · intro a t hop
    split at hop
    · cases hop
    · cases hdb : op g.db with
      | error e =>
          rw [hdb] at hop
          cases hop
      | ok r =>
          obtain ⟨b, db'⟩ := r
          rw [hdb] at hop hrun
          cases hop
          refine ⟨⟨.call c, hP _ hdb, ?_⟩, hok _ db' hdb⟩
          show _ = { g with db := c.run cfg.codec g.db }
          rw [hrun]
          rfl
  · intro e _
    exact herror e

theorem traced_perform {op : Db → Except Failure (α × Db)} {c : Call}
    (hrun : c.run cfg.codec g.db = committed g.db (op g.db)) (hP : P g (.call c))
    (hok : ∀ a db', op g.db = .ok (a, db') → onOk a { g with db := db' })
    (herror : ∀ e, onError e g) :
    Eff.Traced (Action.run cfg.codec) P (perform env op) g onOk onError :=
  traced_commit hrun (fun _ _ => hP) hok herror

/-- A transition that went through moved no terminal job and left the row it says it did. -/
theorem traced_move {onOk : Option JobRow → GatewayState → Prop} {jobId : JobId}
    {a : Transition} (hP : (∀ row, g.db.job? jobId = some row → isTerminal row.state = false) →
      P g (.call (.transitionJob jobId a)))
    (hnone : g.db.job? jobId = none → onOk none g)
    (hmoved : ∀ row, g.db.job? jobId = some row →
      validateTransition row.state a.target row.effectClass a.evidence = .ok () →
      onOk (some (a.set row)) { g with
        db := g.db.moved jobId a.set a.set_jobId a.target a.result a.errorCode })
    (herror : ∀ e, onError e g) :
    Eff.Traced (Action.run cfg.codec) P (transition cfg env jobId a) g onOk onError := by
  have hrun : Call.run cfg.codec g.db (.transitionJob jobId a) =
      committed g.db (transitionJob cfg.codec g.db jobId a) := rfl
  apply traced_commit hrun
  · rintro ⟨r, db'⟩ hop
    apply hP
    intro row hrow
    rcases transitionJob_ok hop with ⟨hnone, -⟩ | ⟨moved, hmoved, hvalid, -⟩
    · rw [hnone] at hrow
      cases hrow
    · rw [hmoved] at hrow
      cases hrow
      exact (transition_passes hvalid).1
  · intro r db' hop
    rcases transitionJob_ok hop with ⟨hrow, rfl, rfl⟩ | ⟨row, hrow, hvalid, -, -, rfl, rfl⟩
    · exact hnone hrow
    · exact hmoved row hrow hvalid
  · exact herror

theorem traced_transition {onOk : Option JobRow → GatewayState → Prop} {jobId : JobId}
    {a : Transition} (hP : P g (.call (.transitionJob jobId a)))
    (hnone : g.db.job? jobId = none → onOk none g)
    (hmoved : ∀ row, g.db.job? jobId = some row →
      validateTransition row.state a.target row.effectClass a.evidence = .ok () →
      onOk (some (a.set row)) { g with
        db := g.db.moved jobId a.set a.set_jobId a.target a.result a.errorCode })
    (herror : ∀ e, onError e g) :
    Eff.Traced (Action.run cfg.codec) P (transition cfg env jobId a) g onOk onError :=
  traced_move (fun _ => hP) hnone hmoved herror

theorem traced_releaseLock {onOk : Unit → GatewayState → Prop} {jobId : JobId}
    (hP : P g (.call (.releaseWriteLock jobId)))
    (hok : onOk () { g with db := releaseWriteLock g.db jobId }) (herror : ∀ e, onError e g) :
    Eff.Traced (Action.run cfg.codec) P (releaseLock env jobId) g onOk onError := by
  apply traced_perform rfl hP
  · rintro _ db' ⟨⟩
    exact hok
  · exact herror

theorem traced_send {onOk : Unit → GatewayState → Prop} {message : GatewayMessage}
    (hP : P g (.send message)) (hok : onOk () { g with sent := g.sent ++ [message] })
    (herror : ∀ e, onError e { g with sent := g.sent ++ [message] }) :
    Eff.Traced (Action.run cfg.codec) P (send env message) g onOk onError := by
  unfold send
  apply Eff.traced_bind
  apply Eff.traced_attempt
  · rintro _ t ⟨⟩
    refine ⟨⟨.send message, hP, rfl⟩, ?_⟩
    split
    · exact Eff.traced_pure hok
    · exact Eff.traced_throw (herror _)
  · rintro e ⟨⟩

theorem traced_liftExcept {r : Except Failure α} (hok : ∀ a, r = .ok a → onOk a g)
    (herror : ∀ e, r = .error e → onError e g) :
    Eff.Traced (Action.run cfg.codec) P (liftExcept r) g onOk onError := by
  cases r with
  | ok a => exact Eff.traced_pure (hok a rfl)
  | error e => exact Eff.traced_throw (herror e rfl)

theorem traced_swallowRaces {onOk : Unit → GatewayState → Prop} {m : Handler Unit}
    (h : Eff.Traced (Action.run cfg.codec) P m g onOk fun e t =>
      (e.isRace = true → onOk () t) ∧ onError e t) :
    Eff.Traced (Action.run cfg.codec) P (swallowRaces m) g onOk onError := by
  apply Eff.traced_tryCatch
  apply h.mono
  · intro a t ht
    exact ht
  · intro e t ht
    split
    · next hrace => exact Eff.traced_pure (ht.1 hrace)
    · exact Eff.traced_throw ht.2

theorem traced_raceAs {code : String} {job : JobRow} {m : Handler α}
    (h : Eff.Traced (Action.run cfg.codec) P m g onOk fun _ t => ∀ e, onError e t) :
    Eff.Traced (Action.run cfg.codec) P (raceAs code job m) g onOk onError := by
  apply Eff.traced_tryCatch
  apply h.mono
  · intro a t ht
    exact ht
  · intro e t ht
    split <;> exact Eff.traced_throw (ht _)

theorem traced_ensureCase {onOk : Unit → GatewayState → Prop} {jobId : JobId} (hok : onOk () g)
    (herror : ∀ e, onError e g) :
    Eff.Traced (Action.run cfg.codec) P (ensureCase cfg env jobId) g onOk onError := by
  unfold ensureCase
  split
  · exact Eff.traced_throw (herror _)
  · exact Eff.traced_pure hok

end

/-! ## Recovery -/

/-- Nothing but the row of `jobId` may differ. -/
def Frame (jobId : JobId) (g t : GatewayState) : Prop :=
  ∀ k, k ≠ jobId → t.db.job? k = g.db.job? k

theorem Frame.refl {jobId : JobId} : Frame jobId g g := fun _ _ => rfl

theorem frame_moved {jobId : JobId} {a : Transition} {row : JobRow}
    (hrow : g.db.job? jobId = some row) :
    Frame jobId g { g with
      db := g.db.moved jobId a.set a.set_jobId a.target a.result a.errorCode } := by
  intro k hk
  show (g.db.moved jobId a.set a.set_jobId a.target a.result a.errorCode).job? k = _
  rw [moved_job? a.set_jobId hrow, if_neg hk]

variable (hread : ∀ g row, g.db.job? row.jobId = some row → Read g row)

/-- A loop over rows of the database, each of which touches its own row alone. -/
theorem traced_rows {P : GatewayState → Action → Prop} {rows : List JobRow}
    {body : JobRow → Handler Unit} (hrows : ∀ row ∈ rows, g.db.job? row.jobId = some row)
    (hnodup : (rows.map JobRow.jobId).Nodup)
    (hbody : ∀ row t, t.db.job? row.jobId = some row →
      Eff.Traced (Action.run cfg.codec) P (body row) t (fun _ u => Frame row.jobId t u)
        fun _ _ => True) :
    Eff.Traced (Action.run cfg.codec) P (Eff.forEach rows body) g (fun _ _ => True)
      fun _ _ => True := by
  have hloop : Eff.Traced (Action.run cfg.codec) P (Eff.forEach rows body) g
      (fun _ t => (∀ row ∈ ([] : List JobRow), t.db.job? row.jobId = some row) ∧
        (([] : List JobRow).map JobRow.jobId).Nodup) fun _ _ => True := by
    apply Eff.traced_forEach
      (fun rest (t : GatewayState) => (∀ row ∈ rest, t.db.job? row.jobId = some row) ∧
        (rest.map JobRow.jobId).Nodup) ⟨hrows, hnodup⟩
    rintro row rest t ⟨hfresh, hdistinct⟩
    apply (hbody row t (hfresh row List.mem_cons_self)).mono
    · intro _ u hframe
      rw [List.map_cons, List.nodup_cons] at hdistinct
      refine ⟨?_, hdistinct.2⟩
      intro other hother
      have hne : other.jobId ≠ row.jobId := fun heq =>
        hdistinct.1 (heq ▸ List.mem_map_of_mem hother)
      rw [hframe other.jobId hne]
      exact hfresh other (List.mem_cons_of_mem _ hother)
    · intro _ _ _
      trivial
  exact hloop.mono (fun _ _ _ => trivial) fun _ _ _ => trivial

theorem nodup_filter_jobs (db : Db) (p : JobRow → Bool) :
    ((db.jobs.rows.filter p).map JobRow.jobId).Nodup :=
  db.jobs.unique.sublist (List.Sublist.map _ List.filter_sublist)

theorem job?_of_mem_filter {db : Db} {p : JobRow → Bool} {row : JobRow}
    (h : row ∈ db.jobs.rows.filter p) : db.job? row.jobId = some row :=
  Table.get?_of_mem (List.mem_of_mem_filter h)

theorem loseJob_issues {job : JobRow} (hK : K job.jobId .lost) (hjob : Read g job) :
    Eff.Traced (Action.run cfg.codec) (Issued cfg env Read K Rep) (loseJob cfg env job) g
      (fun _ t => Frame job.jobId g t) fun _ _ => True := by
  unfold loseJob
  split
  · next hopen =>
      apply traced_swallowRaces
      apply Eff.traced_bind
      apply traced_transition (.move .lost hK hjob ⟨hopen, rfl⟩)
      · intro _
        split
        · exact traced_ensureCase Frame.refl fun _ => ⟨fun _ => Frame.refl, trivial⟩
        · exact Eff.traced_pure Frame.refl
      · intro row hrow _
        split
        · exact traced_ensureCase (frame_moved hrow) fun _ => ⟨fun _ => frame_moved hrow, trivial⟩
        · exact Eff.traced_pure (frame_moved hrow)
      · intro _
        exact ⟨fun _ => Frame.refl, trivial⟩
  · exact Eff.traced_pure Frame.refl

include hread in
theorem handleDisconnect_issues (hK : ∀ j, K j .lost) (deviceId : DeviceId) :
    Eff.Traced (Action.run cfg.codec) (Issued cfg env Read K Rep)
      (handleDisconnect cfg env deviceId) g (fun _ _ => True) fun _ _ => True := by
  apply Eff.traced_bind
  apply Eff.traced_get
  apply traced_rows
  · intro row hrow
    exact job?_of_mem_filter hrow
  · exact nodup_filter_jobs _ _
  · intro row t hrow
    exact loseJob_issues (hK _) (hread t row hrow)

theorem recoverJob_issues {job : JobRow} (hK : K job.jobId .lost) (hjob : Read g job) :
    Eff.Traced (Action.run cfg.codec) (Issued cfg env Read K Rep) (recoverJob cfg env job) g
      (fun _ t => Frame job.jobId g t) fun _ _ => True := by
  unfold recoverJob
  split
  · next hopen =>
      apply traced_swallowRaces
      apply Eff.traced_bind
      apply traced_transition (.move .lost hK hjob ⟨hopen, rfl⟩)
      · intro _
        exact Eff.traced_pure Frame.refl
      · intro row hrow _
        exact Eff.traced_pure (frame_moved hrow)
      · intro _
        exact ⟨fun _ => Frame.refl, trivial⟩
  · exact Eff.traced_pure Frame.refl

include hread in
theorem startupRecovery_issues (hK : ∀ j, K j .lost) (hrestarted : ∀ j, K j .restarted) :
    Eff.Traced (Action.run cfg.codec) (Issued cfg env Read K Rep) (startupRecovery cfg env) g
      (fun _ _ => True) fun _ _ => True := by
  apply Eff.traced_bind
  apply traced_perform rfl (.sessions hrestarted)
  · rintro _ db' ⟨⟩
    apply Eff.traced_bind
    apply Eff.traced_get
    apply traced_rows
    · intro row hrow
      exact job?_of_mem_filter hrow
    · exact nodup_filter_jobs _ _
    · intro row t hrow
      exact recoverJob_issues (hK _) (hread t row hrow)
  · intro _
    trivial

theorem sweepJob_issues {job : JobRow} (hK : K job.jobId .expired) (hjob : Read g job) :
    Eff.Traced (Action.run cfg.codec) (Issued cfg env Read K Rep) (sweepJob cfg env job) g
      (fun _ t => Frame job.jobId g t) fun _ _ => True := by
  unfold sweepJob
  split
  · next hexpired =>
      split
      · exact traced_ensureCase Frame.refl fun _ => trivial
      · next hkept =>
          apply traced_swallowRaces
          apply Eff.traced_bind
          apply traced_transition (.move .expired hK hjob ⟨hexpired, hkept, rfl⟩)
          · intro _
            exact Eff.traced_pure Frame.refl
          · intro row hrow _
            exact Eff.traced_pure (frame_moved hrow)
          · intro _
            exact ⟨fun _ => Frame.refl, trivial⟩
  · exact Eff.traced_pure Frame.refl

include hread in
theorem sweepDeadlines_issues (hK : ∀ j, K j .expired) :
    Eff.Traced (Action.run cfg.codec) (Issued cfg env Read K Rep) (sweepDeadlines cfg env) g
      (fun _ _ => True) fun _ _ => True := by
  apply Eff.traced_bind
  apply Eff.traced_get
  apply traced_rows
  · intro row hrow
    exact job?_of_mem_filter hrow
  · exact nodup_filter_jobs _ _
  · intro row t hrow
    exact sweepJob_issues (hK _) (hread t row hrow)

/-! ### Conflicting evidence -/

theorem moved_read {job : JobRow} {a : Transition} {row : JobRow}
    (hread : ∀ g row, g.db.job? row.jobId = some row → Read g row)
    (hrow : g.db.job? job.jobId = some row) :
    Read { g with db := g.db.moved job.jobId a.set a.set_jobId a.target a.result a.errorCode }
      (a.set row) := by
  apply hread
  have hid : (a.set row).jobId = job.jobId := (job?_some hrow).2
  rw [hid]
  exact moved_self a.set_jobId hrow

include hread in
/-- The row that the freezing goes on with is the one in the database. -/
theorem freezeOpen_issues {job : JobRow} (hK : K job.jobId .frozen) (hjob : Read g job) :
    Eff.Traced (Action.run cfg.codec) (Issued cfg env Read K Rep) (freezeOpen cfg env job) g
      (fun current t => Read t current ∧ current.jobId = job.jobId) fun _ _ => True := by
  unfold freezeOpen
  split
  · next hopen =>
      apply Eff.traced_bind
      apply traced_transition (.move .frozen hK hjob (Or.inl ⟨hopen, rfl⟩))
      · intro _
        exact Eff.traced_pure ⟨hjob, rfl⟩
      · intro row hrow _
        exact Eff.traced_pure ⟨moved_read hread hrow, (job?_some hrow).2⟩
      · intro _
        trivial
  · exact Eff.traced_pure ⟨hjob, rfl⟩

include hread in
theorem freezeForConflict_issues {job : JobRow} (hK : K job.jobId .frozen) (hjob : Read g job) :
    Eff.Traced (Action.run cfg.codec) (Issued cfg env Read K Rep) (freezeForConflict cfg env job) g
      (fun _ _ => True) fun _ _ => True := by
  unfold freezeForConflict
  apply Eff.traced_tryCatch_any
  · apply Eff.traced_bind
    apply (freezeOpen_issues hread hK hjob).mono
    · rintro current t ⟨hcurrent, hid⟩
      split
      · next hstate =>
          apply Eff.traced_bind
          apply traced_transition (.move .frozen (hid ▸ hK) hcurrent (Or.inr ⟨hstate, rfl⟩))
          · intro _
            exact Eff.traced_pure trivial
          · intro row _ _
            exact Eff.traced_pure trivial
          · intro _
            trivial
      · exact Eff.traced_pure trivial
    · intro _ _ _
      trivial
  · intro e t
    split
    · apply Eff.traced_bind
      apply Eff.traced_get
      split
      · split
        · exact Eff.traced_pure trivial
        · exact Eff.traced_throw trivial
      · exact Eff.traced_throw trivial
    · exact Eff.traced_throw trivial

include hread in
theorem recordReconcileOutcome_issues {isConflict : Bool} (job : JobRow)
    (hK : isConflict = true → K job.jobId .frozen) :
    Eff.Traced (Action.run cfg.codec) (Issued cfg env Read K Rep)
      (recordReconcileOutcome cfg env job isConflict) g (fun _ _ => True) fun _ _ => True := by
  unfold recordReconcileOutcome
  split
  · apply Eff.traced_bind
    apply Eff.traced_get
    split
    · next current hcurrent =>
        have hrow : g.db.job? job.jobId = some current := (Option.filter_eq_some_iff.mp hcurrent).1
        dsimp only
        split
        · next hconflict =>
            have hfrozen : K current.jobId .frozen := (job?_some hrow).2 ▸ hK hconflict
            apply Eff.traced_bind
            apply (freezeForConflict_issues hread hfrozen
              (hread g current (job?_self hrow))).mono
            · intro _ t _
              exact traced_ensureCase trivial fun _ => trivial
            · intro _ _ _
              trivial
        · exact traced_ensureCase trivial fun _ => trivial
    · exact Eff.traced_pure trivial
  · exact Eff.traced_pure trivial

include hread in
theorem evidenceConflict_issues (owner : Owner) (jobId : JobId)
    (hK : K jobId .frozen) :
    Eff.Traced (Action.run cfg.codec) (Issued cfg env Read K Rep)
      (evidenceConflict cfg env owner jobId) g (fun _ _ => True) fun _ _ => True := by
  apply Eff.traced_bind
  apply Eff.traced_get
  dsimp only
  split
  · next job hjob =>
      have hrow : g.db.job? jobId = some job := (Option.filter_eq_some_iff.mp hjob).1
      have hfrozen : K job.jobId .frozen := (job?_some hrow).2 ▸ hK
      apply Eff.traced_bind
      apply (freezeForConflict_issues hread hfrozen (hread g job (job?_self hrow))).mono
      · intro _ t _
        apply Eff.traced_bind
        exact traced_ensureCase (Eff.traced_throw trivial) fun _ => trivial
      · intro _ _ _
        trivial
  · exact Eff.traced_throw trivial

/-! ## Locks and payload mismatches -/

/-- The row that a transition returned, if any, is the one in the database. -/
def Returned (t : GatewayState) (updated : Option JobRow) : Prop :=
  ∀ row ∈ updated, t.db.job? row.jobId = some row

theorem returned_none {t : GatewayState} : Returned t none := by
  rintro row ⟨⟩

theorem returned_moved {jobId : JobId} {a : Transition} {row : JobRow}
    (hrow : g.db.job? jobId = some row) :
    Returned { g with db := g.db.moved jobId a.set a.set_jobId a.target a.result a.errorCode }
      (some (a.set row)) := by
  rintro _ ⟨⟩
  have hid : (a.set row).jobId = jobId := (job?_some hrow).2
  rw [hid]
  exact moved_self a.set_jobId hrow

theorem releaseProgramLockIfTerminal_issues {onOk : Unit → GatewayState → Prop}
    {onError : Failure → GatewayState → Prop} {updated : Option JobRow}
    (hreturned : Returned g updated)
    (hK : (∀ row ∈ updated, K row.jobId .mismatched) ∨ ∀ row ∈ updated, isActive row.state = false)
    (hkept : onOk () g)
    (hreleased : ∀ jobId, onOk () { g with db := releaseWriteLock g.db jobId })
    (herror : ∀ e, onError e g) :
    Eff.Traced (Action.run cfg.codec) (Issued cfg env Read K Rep)
      (releaseProgramLockIfTerminal cfg env updated) g onOk onError := by
  unfold releaseProgramLockIfTerminal
  split
  · next row =>
      have hrow : g.db.job? row.jobId = some row := hreturned row rfl
      split
      · next hterminal =>
          have hissued : Issued cfg env Read K Rep g (.call (.releaseWriteLock row.jobId)) := by
            rcases hK with hmismatched | hinactive
            · apply Issued.releaseSettled (hmismatched row rfl)
              intro row' hrow'
              rw [hrow] at hrow'
              cases hrow'
              exact ⟨hterminal.2.2, hterminal.2.1⟩
            · apply Issued.release
              intro row' hrow'
              rw [hrow] at hrow'
              cases hrow'
              exact hinactive row rfl
          apply traced_perform rfl hissued
          · rintro _ db' ⟨⟩
            exact hreleased row.jobId
          · exact herror
      · exact Eff.traced_pure hkept
  · exact Eff.traced_pure hkept

/-- The job is open where the handler that holds it writes it. -/
def Opens (g : GatewayState) (job : JobRow) : Prop :=
  ∀ row, g.db.job? job.jobId = some row → isTerminal row.state = false

theorem failPayload_issues {job : JobRow} (hK : Opens g job → K job.jobId .mismatched)
    (hjob : Read g job) :
    Eff.Traced (Action.run cfg.codec) (Issued cfg env Read K Rep) (failPayload cfg env job) g
      (fun _ _ => True) fun _ _ => True := by
  unfold failPayload
  apply traced_swallowRaces
  apply Eff.traced_bind
  apply traced_move
  · intro hopen
    exact .move .mismatched (hK hopen) hjob rfl
  · intro _
    exact releaseProgramLockIfTerminal_issues returned_none (Or.inl (by rintro _ ⟨⟩)) trivial
      (fun _ => trivial) fun _ => ⟨fun _ => trivial, trivial⟩
  · intro row hrow hvalid
    have hmismatched : K job.jobId .mismatched := by
      apply hK
      intro row' hrow'
      rw [hrow] at hrow'
      cases hrow'
      exact (transition_passes hvalid).1
    refine releaseProgramLockIfTerminal_issues (returned_moved hrow) (Or.inl ?_) trivial
      (fun _ => trivial) fun _ => ⟨fun _ => trivial, trivial⟩
    rintro _ ⟨⟩
    rw [show (Transition.set _ row).jobId = job.jobId from (job?_some hrow).2]
    exact hmismatched
  · intro _
    exact ⟨fun _ => trivial, trivial⟩

/-! ## Dispatch -/

theorem refused_inactive {job : JobRow} {a : Transition} (htarget : a.target = .failed) :
    isActive (a.set job).state = false := by
  show isActive a.target = false
  rw [htarget]
  rfl

/-- A decision that lets the job pass changes nothing. -/
theorem requireDispatchCapability_issues {job : JobRow} (hK : K job.jobId .refused) (hjob : Read g job)
    (hstate : job.state = .queued ∨ job.state = .dispatched) (connection : Option Connection) :
    Eff.Traced (Action.run cfg.codec) (Issued cfg env Read K Rep)
      (requireDispatchCapability cfg env job connection) g (fun _ t => g = t) fun _ _ => True := by
  unfold requireDispatchCapability
  apply Eff.traced_bind
  apply Eff.traced_get
  dsimp only
  split
  · exact Eff.traced_pure rfl
  · apply Eff.traced_bind
    apply traced_raceAs
    apply traced_transition (.move .refused hK hjob ⟨hstate, rfl, rfl⟩)
    · intro _
      apply Eff.traced_bind
      apply releaseProgramLockIfTerminal_issues returned_none (Or.inr (by rintro _ ⟨⟩))
      · exact Eff.traced_throw trivial
      · intro _
        exact Eff.traced_throw trivial
      · intro _
        trivial
    · intro row hrow _
      apply Eff.traced_bind
      apply releaseProgramLockIfTerminal_issues (returned_moved hrow)
        (Or.inr (by rintro _ ⟨⟩; exact refused_inactive rfl))
      · exact Eff.traced_throw trivial
      · intro _
        exact Eff.traced_throw trivial
      · intro _
        trivial
    · intro _ _
      trivial

theorem fail_issues {α : Type} {onOk : α → GatewayState → Prop} {job : JobRow} (hK : K job.jobId .refused)
    (hjob : Read g job) (hstate : job.state = .queued ∨ job.state = .dispatched)
    (code summary : String) (release : Bool) :
    Eff.Traced (Action.run cfg.codec) (Issued cfg env Read K Rep)
      (fail cfg env code summary job release) g onOk fun _ _ => True := by
  unfold fail
  apply Eff.traced_bind
  apply traced_transition (.move .refused hK hjob ⟨hstate, rfl, rfl⟩)
  · intro _
    dsimp only
    split
    · apply Eff.traced_bind
      apply releaseProgramLockIfTerminal_issues returned_none (Or.inr (by rintro _ ⟨⟩))
      · exact Eff.traced_throw trivial
      · intro _
        exact Eff.traced_throw trivial
      · intro _
        trivial
    · exact Eff.traced_throw trivial
  · intro row hrow _
    dsimp only
    split
    · apply Eff.traced_bind
      apply releaseProgramLockIfTerminal_issues (returned_moved hrow)
        (Or.inr (by rintro _ ⟨⟩; exact refused_inactive rfl))
      · exact Eff.traced_throw trivial
      · intro _
        exact Eff.traced_throw trivial
      · intro _
        trivial
    · exact Eff.traced_throw trivial
  · intro _
    trivial

/-- A command that is built is the job's, for the connection's session. -/
theorem buildCommandOf_issues {job : JobRow} (hK : K job.jobId .refused) (hjob : Read g job)
    (hstate : job.state = .queued ∨ job.state = .dispatched) (connection : Connection) :
    Eff.Traced (Action.run cfg.codec) (Issued cfg env Read K Rep)
      (buildCommandOf cfg env connection job) g
      (fun command t => g = t ∧ ∃ binding, command = commandOf connection job binding)
      fun _ _ => True := by
  unfold buildCommandOf
  apply Eff.traced_bind
  apply traced_liftExcept
  · intro binding _
    split
    · apply Eff.traced_bind
      apply traced_liftExcept
      · intro hash _
        split
        · exact fail_issues hK hjob hstate _ _ _
        · exact Eff.traced_pure ⟨rfl, binding, rfl⟩
      · intro _ _
        trivial
    · split
      · apply Eff.traced_bind
        apply traced_liftExcept
        · intro hash _
          split
          · exact fail_issues hK hjob hstate _ _ _
          · exact Eff.traced_pure ⟨rfl, binding, rfl⟩
        · intro _ _
          trivial
      · apply Eff.traced_bind
        apply traced_liftExcept
        · intro _ _
          exact Eff.traced_pure ⟨rfl, binding, rfl⟩
        · intro _ _
          trivial
  · intro _ _
    trivial

/-- What is known of a command that is about to be sent. -/
def Prepared (env : Env) (jobId : JobId) (t : GatewayState) (connection : Connection)
    (command : CommandMessage) : Prop :=
  ∃ row binding, t.db.job? jobId = some row ∧ row.state = .dispatched ∧
    command = commandOf connection row binding ∧
    t.current? row.deviceId = some connection ∧ env.fresh connection.sessionId = true

theorem prepareClaimed_issues {job : JobRow} (hK : K job.jobId .refused)
    (hoffline : K job.jobId .offline) (hjob : Read g job) (hrow : g.db.job? job.jobId = some job) (hstate : job.state = .dispatched) :
    Eff.Traced (Action.run cfg.codec) (Issued cfg env Read K Rep) (prepareClaimed cfg env job) g
      (fun r t => Prepared env job.jobId t r.1 r.2) fun _ _ => True := by
  unfold prepareClaimed
  apply Eff.traced_bind
  apply Eff.traced_get
  split
  · apply Eff.traced_bind
    apply traced_transition (.move .offline hoffline hjob ⟨hstate, rfl⟩)
    · intro _
      exact Eff.traced_throw trivial
    · intro row _ _
      exact Eff.traced_throw trivial
    · intro _
      trivial
  · next connection hconnection =>
      obtain ⟨hcurrent, hfresh⟩ := Option.filter_eq_some_iff.mp hconnection
      apply Eff.traced_bind
      apply (requireDispatchCapability_issues hK hjob (Or.inr hstate) (some connection)).mono
      · rintro _ t rfl
        apply Eff.traced_bind
        apply (buildCommandOf_issues hK hjob (Or.inr hstate) connection).mono
        · rintro command t ⟨rfl, binding, rfl⟩
          exact Eff.traced_pure ⟨job, binding, hrow, hstate, rfl, hcurrent, hfresh⟩
        · intro _ _ _
          trivial
      · intro _ _ _
        trivial

include hread in
theorem prepareDispatch_issues {jobId : JobId} (hK : K jobId .refused) (hoffline : K jobId .offline)
    (hclaimed : K jobId .claimed) :
    Eff.Traced (Action.run cfg.codec) (Issued cfg env Read K Rep) (prepareDispatch cfg env jobId) g
      (fun r t => ∀ p ∈ r, Prepared env jobId t p.1 p.2) fun _ _ => True := by
  unfold prepareDispatch
  apply Eff.traced_bind
  apply Eff.traced_bind
  apply Eff.traced_get
  apply Eff.traced_pure
  split
  · exact Eff.traced_pure (by rintro _ ⟨⟩)
  · next job hjob =>
      have hself := job?_self hjob
      have hid : job.jobId = jobId := (job?_some hjob).2
      split
      · exact Eff.traced_pure (by rintro _ ⟨⟩)
      · split
        · exact Eff.traced_throw trivial
        · split
          · exact Eff.traced_pure (by rintro _ ⟨⟩)
          · next hqueued =>
              have hstate : job.state = .queued := not_not.mp hqueued
              apply Eff.traced_bind
              rw [← hid] at hK hoffline hclaimed
              apply (requireDispatchCapability_issues hK (hread g job hself) (Or.inl hstate)
                none).mono
              · rintro _ t rfl
                apply Eff.traced_bind
                rw [← hid]
                apply traced_perform rfl (.claim hclaimed (hread g job hself) hstate)
                · intro r db' hop
                  rcases claimJob_ok hop with ⟨rfl, rfl⟩ | ⟨row, hrow, -, rfl, rfl⟩
                  · exact Eff.traced_pure (by rintro _ ⟨⟩)
                  · have hid' : (claimSet row).jobId = job.jobId := (job?_some hrow).2
                    have hafter : (g.db.moved job.jobId claimSet claimSet_jobId .dispatched none
                        none).job? (claimSet row).jobId = some (claimSet row) := by
                      rw [hid']
                      exact moved_self claimSet_jobId hrow
                    apply Eff.traced_bind
                    rw [← hid'] at hK hoffline
                    apply (prepareClaimed_issues hK hoffline (hread _ _ hafter) hafter rfl).mono
                    · intro p t hp
                      apply Eff.traced_pure
                      rintro _ ⟨⟩
                      rw [← hid']
                      exact hp
                    · intro _ _ _
                      trivial
                · intro _
                  trivial
              · intro _ _ _
                trivial

end

end AutocadMcp.Gateway
