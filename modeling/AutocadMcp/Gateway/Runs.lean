import AutocadMcp.Gateway.IssuedReports
import AutocadMcp.Gateway.Rows
import AutocadMcp.Gateway.Service

/-!
# What a step of the Gateway can do

Every step is a chain of actions, and for each event only some actions are
allowed. The results about runs follow the chain action by action.
-/

namespace AutocadMcp.Gateway

/-- A row as the database has it. -/
def Held (g : GatewayState) (row : JobRow) : Prop :=
  g.db.job? row.jobId = some row

section

variable (cfg : Config) (w : World)

/-- The message that an event handles, and the job it is handled for. -/
def handled? : Event → Option (AgentMessage × JobRow)
  | .message _ sessionId m =>
      match w.endpoint? sessionId with
      | some ⟨connection, .serving⟩ =>
          if w.gateway.isCurrent connection.deviceId connection.sessionId ∧ m.valid cfg.fits then
            (addressed w.gateway connection m).map (m, ·)
          else none
      | _ => none
  | _ => none

namespace Event

def env? : Event → Option Env
  | .dispatch env _ | .dispatched env _ | .message env _ _ | .evidence env _ _
  | .cancel env _ _ _ | .sweep env | .stale env _ | .activate env _ | .proceed env _
  | .reject env _ | .close env _ | .restart env => some env
  | .createJob _ | .createActionJob _ | .releaseIntent _ | .enrol _ | .connect _
  | .heartbeat _ => none

/-- The call of an event that creates a job. -/
def creation? : Event → Option Call
  | .createJob a => some (.createJob a)
  | .createActionJob a => some (.createActionJob a)
  | .releaseIntent a => some (.releaseIntent a)
  | _ => none

/-- Why an event may move a job. -/
def Gives (e : Event) (j : JobId) (reason : Reason) : Prop :=
  match e with
  | .dispatch _ jobId =>
      j = jobId ∧ (reason = .refused ∨ reason = .offline ∨ reason = .claimed)
  | .proceed .. => reason = .refused ∨ reason = .offline ∨ reason = .claimed ∨ reason = .lost
  | .dispatched .. | .stale .. | .activate .. | .reject .. | .close .. => reason = .lost
  | .restart .. => reason = .lost ∨ reason = .restarted
  | .evidence _ _ jobId => j = jobId ∧ reason = .frozen
  | .cancel _ _ jobId _ => j = jobId ∧ reason = .cancelled
  | .sweep .. => reason = .expired
  | .message .. =>
      ∃ m job, handled? cfg w e = some (m, job) ∧ j = job.jobId ∧
        ((reason = .mismatched ∧ mismatches m job = true ∧ isTerminal job.state = false) ∨
          reason.Answers job m)
  | _ => False

/-- The outcomes that an event reports. -/
def Reports (e : Event) (job : JobRow) (o : Outcome) : Prop :=
  ∃ m, handled? cfg w e = some (m, job) ∧ Reported m job o

end Event

/-- The actions that a step may take. -/
inductive Allowed (e : Event) (g : GatewayState) : Action → Prop
  | handled {env : Env} {k : Action} (henv : e.env? = some env)
      (h : Issued cfg env Held (e.Gives cfg w) (e.Reports cfg w) g k) : Allowed e g k
  | create {c : Call} (h : e.creation? = some c) : Allowed e g (.call c)
  | command {env : Env} {jobId : JobId} {connection : Connection} {command : CommandMessage}
      (henv : e.env? = some env) (hprepared : Prepared env jobId g connection command) :
      Allowed e g (.send (.command command))
  | activate (deviceId : DeviceId) (sessionId : SessionId) :
      Allowed e g (.call (.activateSession deviceId sessionId))
  | close (deviceId : DeviceId) (sessionId : SessionId) :
      Allowed e g (.call (.closeSession deviceId sessionId))
  | register (registry : List Connection) : Allowed e g (.register registry)
  | enrol (device : DeviceRow) : Allowed e g (.enrol device)

abbrev Reaches (e : Event) : GatewayState → GatewayState → Prop :=
  Eff.Reach (Action.run cfg.codec) (Allowed cfg w e)

end

section

variable {cfg : Config} {w : World} {e : Event} {env : Env} {g : GatewayState} {α : Type}

/-! ## Handlers -/

/-- The chain of a handler is one of the step. -/
theorem reaches_of_issued {m : Handler α} {onOk : α → GatewayState → Prop}
    {onError : Failure → GatewayState → Prop} (henv : e.env? = some env)
    (h : Eff.Traced (Action.run cfg.codec)
      (Issued cfg env Held (e.Gives cfg w) (e.Reports cfg w)) m g onOk onError) :
    Reaches cfg w e g (Eff.exec m g).2 :=
  (h.allow fun _ _ hk => Allowed.handled henv hk).reach

theorem onDisconnected_traced (henv : e.env? = some env) (hlost : ∀ j, e.Gives cfg w j .lost)
    (connection : Connection) :
    Eff.Traced (Action.run cfg.codec) (Allowed cfg w e) (onDisconnected cfg env connection) g
      (fun _ _ => True) fun _ _ => True := by
  unfold onDisconnected
  apply Eff.traced_bind
  apply traced_perform rfl (.close connection.deviceId connection.sessionId)
  · intro _ db _
    apply Eff.traced_bind
    apply Eff.traced_get
    split
    · exact (handleDisconnect_issues (fun _ _ h => h) hlost connection.deviceId).allow
        fun _ _ hk => .handled henv hk
    · exact Eff.traced_pure trivial
  · intro _
    trivial

theorem normalizeJob_issues {K : JobId → Reason → Prop} {Rep : JobRow → Outcome → Prop}
    {job : JobRow} (hlost : K job.jobId .lost) (hjob : Held g job) :
    Eff.Traced (Action.run cfg.codec) (Issued cfg env Held K Rep) (normalizeJob cfg env job) g
      (fun _ t => Frame job.jobId g t) fun _ _ => True := by
  unfold normalizeJob
  split
  · next hstate =>
      apply Eff.traced_tryCatch
      apply Eff.traced_bind
      apply traced_transition (.move .lost hlost hjob ⟨by rw [hstate]; rfl, rfl⟩)
      · intro _
        exact Eff.traced_pure Frame.refl
      · intro row hrow _
        exact Eff.traced_pure (frame_moved hrow)
      · intro e
        split
        · apply Eff.traced_bind
          apply Eff.traced_get
          exact Eff.traced_pure Frame.refl
        · exact Eff.traced_throw trivial
  · exact Eff.traced_pure Frame.refl

/-- Each job is normalized on the row that it has. -/
theorem normalizeJobs_issues {K : JobId → Reason → Prop} {Rep : JobRow → Outcome → Prop}
    (hlost : ∀ j, K j .lost) {jobs : List JobRow} (hjobs : ∀ job ∈ jobs, Held g job)
    (hnodup : (jobs.map JobRow.jobId).Nodup) :
    Eff.Traced (Action.run cfg.codec) (Issued cfg env Held K Rep) (normalizeJobs cfg env jobs) g
      (fun _ _ => True) fun _ _ => True := by
  induction jobs generalizing g with
  | nil => exact Eff.traced_pure trivial
  | cons job rest ih =>
      rw [List.map_cons, List.nodup_cons] at hnodup
      apply Eff.traced_bind
      apply (normalizeJob_issues (hlost _) (hjobs job List.mem_cons_self)).mono
      · intro _ t hframe
        apply Eff.traced_bind
        apply (ih _ hnodup.2).mono
        · intro _ _ _
          exact Eff.traced_pure trivial
        · intro _ _ _
          trivial
        · intro other hother
          have hne : other.jobId ≠ job.jobId := fun heq =>
            hnodup.1 (heq ▸ List.mem_map_of_mem hother)
          unfold Held
          rw [hframe other.jobId hne]
          exact hjobs other (List.mem_cons_of_mem _ hother)
      · intro _ _ _
        trivial

theorem beginActivation_issues {K : JobId → Reason → Prop} {Rep : JobRow → Outcome → Prop}
    (hlost : ∀ j, K j .lost) (connection : Connection) :
    Eff.Traced (Action.run cfg.codec) (Issued cfg env Held K Rep)
      (beginActivation cfg env connection) g (fun _ _ => True) fun _ _ => True := by
  unfold beginActivation
  apply Eff.traced_bind
  apply Eff.traced_get
  apply Eff.traced_bind
  apply (normalizeJobs_issues hlost _ (nodup_filter_jobs _ _)).mono
  · intro _ _ _
    exact Eff.traced_pure trivial
  · intro _ _ _
    trivial
  · intro job hjob
    exact job?_of_mem_filter hjob

/-! ## Sockets -/

theorem register_reaches (registry : List Connection) :
    Reaches cfg w e g { g with registry := registry } :=
  Eff.Reach.single (Allowed.register registry)

theorem unregister_reaches (deviceId : DeviceId) (sessionId : SessionId) :
    Reaches cfg w e g (g.unregister deviceId sessionId) := by
  unfold GatewayState.unregister
  split
  · exact register_reaches _
  · exact Eff.Reach.refl

theorem advertised_reaches (connection : Connection) :
    Reaches cfg w e g (g.advertised connection) := by
  unfold GatewayState.advertised
  split
  · next device _ =>
      exact Eff.Reach.single (Allowed.enrol (advertise connection device))
  · exact Eff.Reach.refl

section

variable {v : World} (henv : e.env? = some env)

include henv in
theorem close_reaches (hlost : ∀ j, e.Gives cfg w j .lost) (connection : Connection)
    (h : Reaches cfg w e g v.gateway) :
    Reaches cfg w e g (v.close cfg env connection).gateway :=
  (h.trans (onDisconnected_traced henv hlost connection).reach).trans (unregister_reaches _ _)

include henv in
theorem reject_reaches (hlost : ∀ j, e.Gives cfg w j .lost) (connection : Connection)
    (h : Reaches cfg w e g v.gateway) :
    Reaches cfg w e g (v.reject cfg env connection).gateway :=
  close_reaches henv hlost connection (h.trans (unregister_reaches _ _))

include henv in
theorem activate_reaches (hlost : ∀ j, e.Gives cfg w j .lost) (connection : Connection)
    (h : Reaches cfg w e g v.gateway) :
    Reaches cfg w e g (v.activate cfg env connection).gateway := by
  have hsession : Eff.Traced (Action.run cfg.codec) (Allowed cfg w e)
      (perform env fun db => activateSession db connection.deviceId connection.sessionId) v.gateway
      (fun _ _ => True) fun _ _ => True :=
    traced_perform rfl (.activate _ _) (fun _ _ _ => trivial) fun _ => trivial
  unfold World.activate
  split
  · next g1 hexec =>
      have hactive : Reaches cfg w e g g1 := by
        have hreach := hsession.reach
        rw [hexec] at hreach
        exact h.trans hreach
      have hbegin := reaches_of_issued (w := w) henv
        (beginActivation_issues (g := g1.advertised connection) hlost connection)
      split
      · next hexec' =>
          rw [hexec'] at hbegin
          exact (hactive.trans (advertised_reaches connection)).trans hbegin
      · next hexec' =>
          rw [hexec'] at hbegin
          exact reject_reaches henv hlost connection
            ((hactive.trans (advertised_reaches connection)).trans hbegin)
  · next hexec =>
      have hreach := hsession.reach
      rw [hexec] at hreach
      exact reject_reaches henv hlost connection (h.trans hreach)

include henv in
theorem beginDispatch_reaches {jobId : JobId} (hrefused : e.Gives cfg w jobId .refused)
    (hoffline : e.Gives cfg w jobId .offline) (hclaimed : e.Gives cfg w jobId .claimed)
    (activation : Option SessionId)
    (h : Reaches cfg w e g v.gateway) :
    Reaches cfg w e g (v.beginDispatch cfg env jobId activation).2.gateway := by
  have htraced : Eff.Traced (Action.run cfg.codec)
      (Issued cfg env Held (e.Gives cfg w) (e.Reports cfg w)) (prepareDispatch cfg env jobId)
      v.gateway (fun r t => ∀ p ∈ r, Prepared env jobId t p.1 p.2) fun _ _ => True :=
    prepareDispatch_issues (fun _ _ h => h) hrefused hoffline hclaimed
  have hreach := reaches_of_issued henv htraced
  unfold World.beginDispatch
  split
  · next connection command g1 hexec =>
      have hprepared := htraced.ok (some (connection, command)) (by rw [hexec])
      rw [hexec] at hreach hprepared
      exact (h.trans hreach).trans
        (Eff.Reach.single (Allowed.command henv (hprepared _ rfl)))
  · next hexec =>
      rw [hexec] at hreach
      exact h.trans hreach
  · next hexec =>
      rw [hexec] at hreach
      exact h.trans hreach

include henv in
theorem endDispatch_reaches (hlost : ∀ j, e.Gives cfg w j .lost) (inFlight : InFlight) (sent : Bool)
    (h : Reaches cfg w e g v.gateway) :
    Reaches cfg w e g (v.endDispatch cfg env inFlight sent).gateway := by
  have hreach : Reaches cfg w e v.gateway
      (Eff.exec (handleDisconnect cfg env inFlight.command.deviceId) v.gateway).2 :=
    reaches_of_issued henv
      (handleDisconnect_issues (fun _ _ h => h) hlost inFlight.command.deviceId)
  unfold World.endDispatch
  dsimp only
  split
  · exact h
  · split
    · next hexec =>
        rw [hexec] at hreach
        exact h.trans hreach
    · next hexec =>
        rw [hexec] at hreach
        split
        · exact reject_reaches henv hlost _ (h.trans hreach)
        · exact h.trans hreach

include henv in
theorem proceed_reaches (hgives : ∀ (j : JobId) (r : Reason),
      r = .refused ∨ r = .offline ∨ r = .claimed ∨ r = .lost → e.Gives cfg w j r) (connection : Connection) (batches : List (List JobRow))
    (queued : List JobId) (h : Reaches cfg w e g v.gateway) :
    Reaches cfg w e g (v.proceed cfg env connection batches queued).gateway := by
  have hlost : ∀ j, e.Gives cfg w j .lost := fun j => hgives j _ (by simp)
  unfold World.proceed
  split
  · next batch batches =>
      have hreach : Reaches cfg w e v.gateway
          (Eff.exec (sendReconcile env connection batch) v.gateway).2 :=
        reaches_of_issued henv (sendReconcile_issues connection batch)
      split
      · next hexec =>
          rw [hexec] at hreach
          exact h.trans hreach
      · next hexec =>
          rw [hexec] at hreach
          exact reject_reaches henv hlost connection (h.trans hreach)
  · next jobId queued =>
      split
      · exact h
      · have hbegin : Reaches cfg w e g
            ((v.setPhase connection.sessionId (.activating [] queued)).beginDispatch cfg env jobId
              (some connection.sessionId)).2.gateway :=
          beginDispatch_reaches henv (hgives _ _ (by simp)) (hgives _ _ (by simp))
            (hgives _ _ (by simp)) _ h
        split
        · next hexec =>
            rw [hexec] at hbegin
            exact hbegin
        · next hexec =>
            rw [hexec] at hbegin
            split
            · exact hbegin
            · exact reject_reaches henv hlost connection hbegin
  · split
    · exact h
    · exact h

end

theorem perform_reaches {m : Handler Unit} {onOk : Unit → GatewayState → Prop}
    {onError : Failure → GatewayState → Prop} (henv : e.env? = some env)
    (h : Eff.Traced (Action.run cfg.codec)
      (Issued cfg env Held (e.Gives cfg w) (e.Reports cfg w)) m w.gateway onOk onError) :
    Reaches cfg w e w.gateway (w.perform m).gateway :=
  reaches_of_issued henv h

/-! ## Handled messages -/

/-- What a handled message has passed: its socket is serving and current, it is valid, and it is
for the job. -/
theorem handled?_some {m : AgentMessage} {job : JobRow} (h : handled? cfg w e = some (m, job)) :
    ∃ env sessionId connection, e = .message env sessionId m ∧
      w.endpoint? sessionId = some ⟨connection, .serving⟩ ∧
      w.gateway.isCurrent connection.deviceId connection.sessionId = true ∧
      m.valid cfg.fits = true ∧ addressed w.gateway connection m = some job := by
  cases e with
  | message env sessionId m' =>
      simp only [handled?] at h
      split at h
      · next connection hendpoint =>
          split at h
          · next hchecks =>
              obtain ⟨row, haddressed, heq⟩ := Option.map_eq_some_iff.mp h
              cases heq
              exact ⟨env, sessionId, connection, rfl, hendpoint, hchecks.1, hchecks.2, haddressed⟩
          · cases h
      · cases h
  | _ => cases h

theorem addressed_some {connection : Connection} {m : AgentMessage} {job : JobRow}
    (h : addressed g connection m = some job) :
    Held g job ∧ job.deviceId = connection.deviceId ∧ job.commandId = m.envelope.commandId ∧
      boundTo connection job m.envelope = true := by
  obtain ⟨hfound, hbound⟩ := Option.filter_eq_some_iff.mp h
  obtain ⟨hrow, hdevice, hcommand⟩ := getJobByCommand_some hfound
  exact ⟨hrow, hdevice, hcommand, hbound⟩

theorem handled?_held {m : AgentMessage} {job : JobRow} (h : handled? cfg w e = some (m, job)) :
    Held w.gateway job := by
  obtain ⟨_, _, _, -, -, -, -, haddressed⟩ := handled?_some h
  exact (addressed_some haddressed).1

theorem handled?_valid {m : AgentMessage} {job : JobRow} (h : handled? cfg w e = some (m, job)) :
    m.valid cfg.fits = true := by
  obtain ⟨_, _, _, -, -, -, hvalid, -⟩ := handled?_some h
  exact hvalid

/-! ## Steps -/

theorem createActionJob_reaches (a : CreateActionJob) :
    Reaches cfg w (.createActionJob a) w.gateway (w.createActionJob cfg a).gateway := by
  have hstep : (w.createActionJob cfg a).gateway =
      Action.run cfg.codec w.gateway (.call (.createActionJob a)) := by
    unfold World.createActionJob
    simp only [Action.run, Call.run]
    cases createActionJob cfg.codec w.gateway.db a <;> rfl
  rw [hstep]
  exact Eff.Reach.single (Allowed.create rfl)

theorem releaseIntent_reaches (a : ReleaseIntent) :
    Reaches cfg w (.releaseIntent a) w.gateway (w.releaseIntent cfg a).gateway := by
  have hstep : (w.releaseIntent cfg a).gateway =
      Action.run cfg.codec w.gateway (.call (.releaseIntent a)) := by
    unfold World.releaseIntent
    simp only [Action.run, Call.run]
    cases releaseIntent cfg.codec w.gateway.db a <;> rfl
  rw [hstep]
  exact Eff.Reach.single (Allowed.create rfl)

theorem receive_reaches {sessionId : SessionId} {connection : Connection} {m : AgentMessage}
    (hendpoint : w.endpoint? sessionId = some ⟨connection, .serving⟩) :
    Reaches cfg w (.message env sessionId m) w.gateway
      (w.receive cfg env connection m).gateway := by
  unfold World.receive
  split
  · next haccepted =>
      have hhandled : ∀ job ∈ addressed w.gateway connection m,
          handled? cfg w (.message env sessionId m) = some (m, job) := by
        intro job hjob
        unfold handled?
        simp only [hendpoint]
        rw [if_pos haccepted, hjob]
        rfl
      apply perform_reaches rfl
      apply handleMessage_issues (fun _ _ h => h)
      · intro job hjob hmismatch hopen
        have hrow := (getJobByCommand_some (Option.filter_eq_some_iff.mp hjob).1).1
        exact ⟨m, job, hhandled job hjob, rfl, Or.inl ⟨rfl, hmismatch, hopen job hrow⟩⟩
      · intro job hjob r hanswers
        exact ⟨m, job, hhandled job hjob, rfl, Or.inr hanswers⟩
      · intro job hjob o htold
        exact ⟨m, hhandled job hjob, htold.reported⟩
  · exact Eff.Reach.refl

/-- A step is a chain of the actions that its event allows. -/
theorem step_reaches (cfg : Config) (w : World) (e : Event) :
    Reaches cfg w e w.gateway (World.step cfg w e).gateway := by
  cases e with
  | createJob a => exact Eff.Reach.single (Allowed.create rfl)
  | createActionJob a => exact createActionJob_reaches a
  | releaseIntent a => exact releaseIntent_reaches a
  | enrol device => exact Eff.Reach.single (Allowed.enrol device)
  | dispatch env jobId =>
      have hgives : ∀ r : Reason, r = .refused ∨ r = .offline ∨ r = .claimed →
          Event.Gives cfg w (.dispatch env jobId) jobId r := fun _ h => ⟨rfl, h⟩
      unfold World.step
      dsimp only
      split
      · exact Eff.Reach.refl
      · exact beginDispatch_reaches rfl (hgives _ (by simp)) (hgives _ (by simp))
          (hgives _ (by simp)) none Eff.Reach.refl
  | dispatched env sent =>
      have hlost : ∀ j, Event.Gives cfg w (.dispatched env sent) j .lost := fun _ => rfl
      unfold World.step
      dsimp only
      split
      · exact endDispatch_reaches rfl hlost _ sent Eff.Reach.refl
      · exact Eff.Reach.refl
  | message env sessionId m =>
      unfold World.step
      dsimp only
      split
      · next connection hendpoint => exact receive_reaches hendpoint
      · exact Eff.Reach.refl
  | evidence env owner jobId =>
      have hfrozen : Event.Gives cfg w (.evidence env owner jobId) jobId .frozen := ⟨rfl, rfl⟩
      apply perform_reaches rfl
      exact evidenceConflict_issues (fun _ _ h => h) owner jobId hfrozen
  | cancel env owner jobId reason =>
      have hcancelled : Event.Gives cfg w (.cancel env owner jobId reason) jobId .cancelled :=
        ⟨rfl, rfl⟩
      apply perform_reaches rfl
      exact cancelJob_issues (fun _ _ h => h) hcancelled owner reason
  | sweep env =>
      have hexpired : ∀ j, Event.Gives cfg w (.sweep env) j .expired := fun _ => rfl
      apply perform_reaches rfl
      exact sweepDeadlines_issues (fun _ _ h => h) hexpired
  | stale env deviceId =>
      have hlost : ∀ j, Event.Gives cfg w (.stale env deviceId) j .lost := fun _ => rfl
      unfold World.step World.expire
      dsimp only
      split
      · split
        · apply perform_reaches rfl
          exact handleDisconnect_issues (fun _ _ h => h) hlost deviceId
        · exact Eff.Reach.refl
      · exact Eff.Reach.refl
  | connect connection =>
      unfold World.step World.connect
      dsimp only
      split
      · exact Eff.Reach.refl
      · split
        · exact register_reaches _
        · exact Eff.Reach.refl
  | heartbeat connection => exact register_reaches _
  | activate env sessionId =>
      have hlost : ∀ j, Event.Gives cfg w (.activate env sessionId) j .lost := fun _ => rfl
      unfold World.step
      dsimp only
      split
      · exact activate_reaches rfl hlost _ Eff.Reach.refl
      · exact Eff.Reach.refl
  | proceed env sessionId =>
      have hgives : ∀ (j : JobId) (r : Reason),
          r = .refused ∨ r = .offline ∨ r = .claimed ∨ r = .lost →
            Event.Gives cfg w (.proceed env sessionId) j r := fun _ _ h => h
      unfold World.step
      dsimp only
      split
      · exact proceed_reaches rfl hgives _ _ _ Eff.Reach.refl
      · exact Eff.Reach.refl
  | reject env sessionId =>
      have hlost : ∀ j, Event.Gives cfg w (.reject env sessionId) j .lost := fun _ => rfl
      unfold World.step
      dsimp only
      split
      · exact Eff.Reach.refl
      · exact Eff.Reach.refl
      · exact reject_reaches rfl hlost _ Eff.Reach.refl
  | close env sessionId =>
      have hlost : ∀ j, Event.Gives cfg w (.close env sessionId) j .lost := fun _ => rfl
      unfold World.step
      dsimp only
      split
      · exact close_reaches rfl hlost _ Eff.Reach.refl
      · exact Eff.Reach.refl
  | restart env =>
      have hlost : ∀ j, Event.Gives cfg w (.restart env) j .lost := fun _ => Or.inl rfl
      have hrestarted : ∀ j, Event.Gives cfg w (.restart env) j .restarted :=
        fun _ => Or.inr rfl
      apply (register_reaches []).trans
      apply reaches_of_issued rfl
      exact startupRecovery_issues (fun _ _ h => h) hlost hrestarted

/-! ## Rows under a step -/

/-- What an action of a step can do to a row, and on what grounds. -/
inductive RowStep (cfg : Config) (w : World) (e : Event) (row : JobRow) : JobRow → Prop
  | kept : RowStep cfg w e row row
  | fingerprinted (fingerprint : Digest) : RowStep cfg w e row (fingerprintSet fingerprint row)
  | claimed (hgives : e.Gives cfg w row.jobId .claimed) (hqueued : row.state = .queued) :
      RowStep cfg w e row (claimSet row)
  | moved (env : Env) (reason : Reason) (a : Transition) (henv : e.env? = some env)
      (hgives : e.Gives cfg w row.jobId reason) (hallows : reason.Allows env.now row a)
      (hvalid : validateTransition row.state a.target row.effectClass a.evidence = .ok ()) :
      RowStep cfg w e row (a.set row)
  | cancelled (env : Env) (target : JobState) (hgives : e.Gives cfg w row.jobId .cancelled)
      (hnone : row.cancelRequestedAt = none) (htarget : cancelTarget row.state = some target) :
      RowStep cfg w e row (cancelSet target env.now row)
  | progressed (progress : Progress) : RowStep cfg w e row (progressSet progress row)
  | finalized (o : Outcome) (hook : Option TerminalHook) (hreports : e.Reports cfg w row o)
      (hvalid : validateTransition row.state (storedOf cfg row o).target row.effectClass true =
        .ok ()) :
      RowStep cfg w e row ((finalizeArgs row o (storedOf cfg row o) hook).set row)

theorem RowStep.identity {row row' : JobRow} (h : RowStep cfg w e row row') :
    row'.identity = row.identity := by
  cases h <;> rfl

/-- The row that a handler held is the row of its job. -/
theorem held_eq {row job : JobRow} (hrow : g.db.job? row.jobId = some row) (hjob : Held g job)
    (hid : job.jobId = row.jobId) : job = row := by
  unfold Held at hjob
  rw [hid, hrow] at hjob
  cases hjob
  rfl

theorem issued_row {c : Call} {row row' : JobRow} (henv : e.env? = some env)
    (h : Issued cfg env Held (e.Gives cfg w) (e.Reports cfg w) g (.call c))
    (hrow : g.db.job? row.jobId = some row) (hmove : CallMove row c row') :
    RowStep cfg w e row row' := by
  cases h with
  | move reason hreason hread hallows =>
      cases hmove with
      | kept => exact .kept
      | moved hid hvalid _ =>
          obtain rfl := held_eq hrow hread hid
          exact .moved env reason _ henv hreason hallows hvalid
  | claim hreason hread hqueued =>
      cases hmove with
      | kept => exact .kept
      | claimed hid _ =>
          obtain rfl := held_eq hrow hread hid
          exact .claimed hreason hqueued
  | cancel hreason hread =>
      cases hmove with
      | kept => exact .kept
      | cancelled hid hnone _ htarget =>
          obtain rfl := held_eq hrow hread hid
          exact .cancelled env _ hreason hnone htarget
  | progress hreason =>
      cases hmove with
      | kept => exact .kept
      | progressed _ => exact .progressed _
  | sessions hreason =>
      cases hmove
      exact .kept
  | release hinactive =>
      cases hmove
      exact .kept
  | releaseSettled hreason hsettled =>
      cases hmove
      exact .kept
  | finalizeProgram hread hkind hrep hhook =>
      cases hmove with
      | kept => exact .kept
      | finalizedProgram hid hvalid _ =>
          obtain rfl := held_eq hrow hread hid
          exact .finalized _ _ hrep hvalid
  | finalizeRollback hread hkind hrep hhook =>
      cases hmove with
      | kept => exact .kept
      | finalizedJob hid _ hvalid =>
          obtain rfl := held_eq hrow hread hid
          exact .finalized _ _ hrep hvalid
  | finalizeOther hread hkind hrep =>
      cases hmove with
      | kept => exact .kept
      | finalizedJob hid _ hvalid =>
          obtain rfl := held_eq hrow hread hid
          exact .finalized _ _ hrep hvalid

/-- **A row survives every action of a step**, and changes only on the grounds that the event
gives. -/
theorem allowed_row {k : Action} {row : JobRow} (h : Allowed cfg w e g k)
    (hrow : g.db.job? row.jobId = some row) :
    ∃ row', (k.run cfg.codec g).db.job? row.jobId = some row' ∧ RowStep cfg w e row row' := by
  cases k with
  | send message => exact ⟨row, hrow, .kept⟩
  | register registry => exact ⟨row, hrow, .kept⟩
  | enrol device => exact ⟨row, hrow, .kept⟩
  | call c =>
      obtain ⟨row', hrow', hmove⟩ := call_row hrow c
      refine ⟨row', hrow', ?_⟩
      cases h with
      | handled henv hissued => exact issued_row henv hissued hrow hmove
      | create hcreation =>
          cases e with
          | createJob a =>
              cases hcreation
              cases hmove with
              | kept => exact .kept
              | fingerprinted _ fingerprint => exact .fingerprinted fingerprint
          | createActionJob a =>
              cases hcreation
              cases hmove
              exact .kept
          | releaseIntent a =>
              cases hcreation
              cases hmove
              exact .kept
          | _ => cases hcreation
      | activate deviceId sessionId =>
          cases hmove
          exact .kept
      | close deviceId sessionId =>
          cases hmove
          exact .kept

/-- What every action of a step keeps of a row, the step keeps. -/
theorem step_row {R : JobRow → JobRow → Prop} (hrefl : ∀ row, R row row)
    (htrans : ∀ x y z, R x y → R y z → R x z)
    (hrow : ∀ row row', RowStep cfg w e row row' → R row row') {j : JobId} {row : JobRow}
    (hj : w.gateway.db.job? j = some row) :
    ∃ row', (World.step cfg w e).gateway.db.job? j = some row' ∧ R row row' := by
  obtain rfl : row.jobId = j := (job?_some hj).2
  apply (step_reaches cfg w e).invariant
    (fun g => ∃ row', g.db.job? row.jobId = some row' ∧ R row row') _ ⟨row, hj, hrefl row⟩
  rintro g k ⟨current, hcurrent, hR⟩ hallowed
  have hid : current.jobId = row.jobId := (job?_some hcurrent).2
  rw [← hid] at hcurrent
  obtain ⟨next, hnext, hstep⟩ := allowed_row hallowed hcurrent
  rw [hid] at hnext
  exact ⟨next, hnext, htrans _ _ _ hR (hrow current next hstep)⟩

end

end AutocadMcp.Gateway
