import Mathlib.Data.List.Chain
import AutocadMcp.Lib.Machine
import AutocadMcp.Gateway.Calls

/-!
# The job row and its event log

Every call either leaves jobs and events alone, creates a job with its first
event, or rewrites one open job and appends one event for it (`Change`). From
that the log and the row agree in every state a run of calls reaches, and the
outcome of a terminal job is final.
-/

namespace AutocadMcp.Gateway

/-- The columns that a terminal job never changes again. -/
def JobRow.outcome (row : JobRow) :
    JobState × Nat × Option Json × Option String × Option String × Option Progress × Int :=
  (row.state, row.stateVersion, row.result, row.errorCode, row.errorSummary, row.progress,
    row.lastAgentSequence)

/-- One row of `jobs` becomes `row'`, every other row stays. -/
def Rewrites (db db' : Db) (row row' : JobRow) : Prop :=
  db.job? row.jobId = some row ∧
    (∀ k, db'.job? k = if k = row.jobId then some row' else db.job? k) ∧
    row'.jobId = row.jobId ∧ row'.effectClass = row.effectClass

/-- What one call can do to jobs and events. -/
inductive Change (db db' : Db) : Prop where
  | idle (hjobs : ∀ k, db'.job? k = db.job? k) (hevents : db'.events = db.events)
  | annotated (row row' : JobRow) (hrow : Rewrites db db' row row')
      (hkept : row'.outcome = row.outcome) (hevents : db'.events = db.events)
  | created (row : JobRow) (hcreated : Created db db' row) (hqueued : row.state = .queued)
      (hversion : row.stateVersion = 0)
  | moved (row row' : JobRow) (hrow : Rewrites db db' row row')
      (hopen : isTerminal row.state = false)
      (hedge : row'.state = row.state ∨ Edge row.effectClass row.state row'.state)
      (hversion : row'.stateVersion = row.stateVersion + 1)
      (errorCode : Option String) (result : Option Json)
      (hevents : db'.events = db.events ++
        [⟨row.jobId, db.nextSequence row.jobId, .state, row'.state, none, errorCode, result⟩])
  | progressed (row row' : JobRow) (hrow : Rewrites db db' row row')
      (hopen : isTerminal row.state = false) (hstate : row'.state = row.state)
      (hversion : row'.stateVersion = row.stateVersion) (progress : Option Progress)
      (hevents : db'.events = db.events ++
        [⟨row.jobId, db.nextSequence row.jobId, .progress, row.state, progress, none, none⟩])

theorem Change.of_same {db db' : Db} (hjobs : db'.jobs = db.jobs)
    (hevents : db'.events = db.events) : Change db db' := by
  refine .idle (fun k => ?_) hevents
  unfold Db.job?
  rw [hjobs]

/-- A state written through `Db.moved` is a change, whatever happened to the other tables
before and after. -/
theorem Change.of_moved {db db1 db2 : Db} {jobId : JobId} {set : JobRow → JobRow}
    {hset : ∀ row, (set row).jobId = row.jobId} {target : JobState} {result : Option Json}
    {errorCode : Option String} {row : JobRow} (hrow : db.job? jobId = some row)
    (hjobs : db1.jobs = db.jobs) (hevents : db1.events = db.events)
    (hjobs2 : db2.jobs = (db1.moved jobId set hset target result errorCode).jobs)
    (hevents2 : db2.events = (db1.moved jobId set hset target result errorCode).events)
    (hopen : isTerminal row.state = false)
    (hedge : target = row.state ∨ Edge row.effectClass row.state target)
    (htarget : (set row).state = target) (hversion : (set row).stateVersion = row.stateVersion + 1)
    (heffect : (set row).effectClass = row.effectClass) : Change db db2 := by
  have hid : row.jobId = jobId := (job?_some hrow).2
  subst hid
  have hrow1 : db1.job? row.jobId = some row := by
    unfold Db.job? at hrow ⊢
    rw [hjobs]
    exact hrow
  refine .moved row (set row) ⟨hrow, fun k => ?_, hset row, heffect⟩ hopen (htarget.symm ▸ hedge)
    hversion errorCode result ?_
  · show db2.jobs.get? k = _
    rw [hjobs2]
    show (db1.moved row.jobId set hset target result errorCode).job? k = _
    rw [moved_job? hset hrow1]
    unfold Db.job?
    rw [hjobs]
  · have hsequence : db1.nextSequence row.jobId = db.nextSequence row.jobId := by
      unfold Db.nextSequence Db.eventsOf
      rw [hevents]
    rw [hevents2, htarget, ← hsequence, ← hevents]
    rfl

theorem rewrites_setJob {db : Db} {row : JobRow} {set : JobRow → JobRow}
    (hset : ∀ row, (set row).jobId = row.jobId) (hrow : db.job? row.jobId = some row)
    (heffect : (set row).effectClass = row.effectClass) :
    Rewrites db (db.setJob row.jobId set hset) row (set row) :=
  ⟨hrow, fun k => setJob_job? hset hrow k, hset row, heffect⟩

section

variable {C : Codec} {db db' : Db}

theorem createJob_change {a : CreateJob} {r : JobRow × Bool}
    (h : createJob C db a = .ok (r, db')) : Change db db' := by
  rcases createJob_ok h with ⟨row, hrow, rfl | ⟨fingerprint, rfl⟩⟩ | ⟨payloadHash, -, hcreated⟩
  · exact .of_same rfl rfl
  · exact .annotated row (fingerprintSet fingerprint row) (rewrites_setJob _ hrow rfl) rfl rfl
  · exact .created _ hcreated rfl rfl

theorem createActionJob_change {a : CreateActionJob} {r : ActionJob × Bool}
    (h : createActionJob C db a = .ok (r, db')) : Change db db' := by
  rcases createActionJob_ok h with ⟨hjobs, hevents, -, -⟩ | ⟨_, _, rfl, hcreated, -⟩
  · exact .of_same hjobs hevents
  · exact .created _ hcreated rfl rfl

theorem claimJob_change {jobId : JobId} {r : Option JobRow}
    (h : claimJob C db jobId = .ok (r, db')) : Change db db' := by
  rcases claimJob_ok h with ⟨-, rfl⟩ | ⟨row, hrow, hqueued, -, rfl⟩
  · exact .of_same rfl rfl
  · refine .of_moved hrow rfl rfl rfl rfl ?_ (Or.inr ?_) rfl rfl rfl
    · rw [hqueued]
      rfl
    · rw [hqueued]
      exact ⟨false, by cases row.effectClass <;> rfl⟩

theorem transitionJob_change {jobId : JobId} {a : Transition} {r : Option JobRow}
    (h : transitionJob C db jobId a = .ok (r, db')) : Change db db' := by
  rcases transitionJob_ok h with ⟨-, -, rfl⟩ | ⟨row, hrow, hvalid, -, -, -, rfl⟩
  · exact .of_same rfl rfl
  · have hedge := edge_of_validate hvalid
    exact .of_moved hrow rfl rfl rfl rfl hedge.not_terminal (Or.inr hedge) rfl rfl rfl

theorem requestJobCancel_change {jobId : JobId} {expectedVersion : Option Nat} {now : Instant}
    {r : Option JobRow} (h : requestJobCancel C db jobId expectedVersion now = .ok (r, db')) :
    Change db db' := by
  rcases requestJobCancel_ok h with ⟨-, rfl, -⟩ | ⟨row, target, hrow, hopen, -, -, -, hedge, -, rfl⟩
  · exact .of_same rfl rfl
  · exact .of_moved hrow rfl rfl rfl rfl hopen hedge rfl rfl rfl

theorem appendProgress_change {jobId : JobId} {progress : Progress}
    {expectedVersion : Option Nat} {r : Option JobRow}
    (h : appendProgress C db jobId progress expectedVersion = .ok (r, db')) : Change db db' := by
  rcases appendProgress_ok h with rfl | ⟨row, hrow, hopen, -, rfl⟩
  · exact .of_same rfl rfl
  · obtain rfl : row.jobId = jobId := (job?_some hrow).2
    exact .progressed row (progressSet progress row) 
      (rewrites_setJob (progressSet_jobId progress) hrow rfl) hopen rfl rfl _ rfl

theorem runHook_frame {a : Finalize} {row : JobRow} (h : a.runHook row db = .ok db') :
    db'.jobs = db.jobs ∧ db'.events = db.events := by
  obtain ⟨locks, rfl, -⟩ := runHook_ok h
  exact ⟨rfl, rfl⟩

theorem finalizeJobResult_change {a : Finalize} {snapshot : Option Json}
    {expectedVersion : Option Nat} {evidence : Bool} {r : Option (JobRow × Bool)}
    (h : finalizeJobResult C db a snapshot expectedVersion evidence = .ok (r, db')) :
    Change db db' := by
  rcases finalizeJobResult_ok h with ⟨-, -, rfl⟩ | ⟨row, -, -, -, -, hhook⟩ |
    ⟨row, snapshots, db1, hrow, -, hvalid, -, -, hhook, -, rfl⟩
  · exact .of_same rfl rfl
  · exact .of_same (runHook_frame hhook).1 (runHook_frame hhook).2
  · have hedge := edge_of_validate hvalid
    exact .of_moved hrow (runHook_frame hhook).1 (runHook_frame hhook).2 rfl rfl
      hedge.not_terminal (Or.inr hedge) rfl rfl rfl

theorem finalizeProgramJob_change {a : Finalize} {r : Option (JobRow × Bool)}
    (h : finalizeProgramJob C db a = .ok (r, db')) : Change db db' := by
  rcases finalizeProgramJob_ok h with ⟨-, -, rfl⟩ | ⟨row, -, -, -, -, hhook⟩ |
    ⟨row, receipts, db1, hrow, hvalid, -, -, -, -, hhook, -, rfl⟩
  · exact .of_same rfl rfl
  · exact .of_same (runHook_frame hhook).1 (runHook_frame hhook).2
  · have hedge := edge_of_validate hvalid
    exact .of_moved hrow (runHook_frame hhook).1 (runHook_frame hhook).2 rfl rfl
      hedge.not_terminal (Or.inr hedge) rfl rfl rfl

theorem activateSession_frame {deviceId : DeviceId} {sessionId : SessionId} {u : Unit}
    (h : activateSession db deviceId sessionId = .ok (u, db')) :
    ∃ sessions, db' = { db with sessions := sessions } := by
  unfold activateSession at h
  simp only [bind_eq_ok] at h
  obtain ⟨_, -, _, -, h⟩ := h
  split at h
  · cases h
    exact ⟨_, rfl⟩
  · split at h
    · cases h
      exact ⟨_, rfl⟩
    · cases h

theorem closeSession_frame {deviceId : DeviceId} {sessionId : SessionId} {b : Bool}
    (h : closeSession db deviceId sessionId = .ok (b, db')) :
    ∃ sessions, db' = { db with sessions := sessions } := by
  unfold closeSession at h
  split at h
  · cases h
    exact ⟨db.sessions, rfl⟩
  · rw [bind_eq_ok] at h
    obtain ⟨_, -, h⟩ := h
    cases h
    exact ⟨_, rfl⟩

/-- **Every call is a change.** -/
theorem Call.change (call : Call) : Change db (call.run C db) := by
  have same : Change db db := .of_same rfl rfl
  cases call with
  | createJob a => exact committed_rec same fun _ _ h => createJob_change h
  | createActionJob a => exact committed_rec same fun _ _ h => createActionJob_change h
  | releaseIntent a =>
      exact committed_rec same fun _ _ h => .created _ (releaseIntent_ok h).1 rfl rfl
  | claimJob jobId => exact committed_rec same fun _ _ h => claimJob_change h
  | transitionJob jobId a => exact committed_rec same fun _ _ h => transitionJob_change h
  | requestJobCancel jobId expectedVersion now =>
      exact committed_rec same fun _ _ h => requestJobCancel_change h
  | appendProgress jobId progress expectedVersion =>
      exact committed_rec same fun _ _ h => appendProgress_change h
  | finalizeJobResult a snapshot expectedVersion evidence =>
      exact committed_rec same fun _ _ h => finalizeJobResult_change h
  | finalizeProgramJob a => exact committed_rec same fun _ _ h => finalizeProgramJob_change h
  | releaseWriteLock jobId => exact .of_same rfl rfl
  | activateSession deviceId sessionId =>
      refine committed_rec same fun _ _ h => ?_
      obtain ⟨sessions, rfl⟩ := activateSession_frame h
      exact .of_same rfl rfl
  | closeSession deviceId sessionId =>
      refine committed_rec same fun _ _ h => ?_
      obtain ⟨sessions, rfl⟩ := closeSession_frame h
      exact .of_same rfl rfl
  | markSessionsDisconnected => exact .of_same rfl rfl

end

/-! ## The log agrees with the row -/

/-- The states that the log of a job went through. -/
def stateLog (db : Db) (jobId : JobId) : List JobState :=
  ((db.eventsOf jobId).filter (fun e => e.eventType = .state)).map JobEvent.state

/-- The states a job logged end in its state, follow the edges of the machine and count its
version. -/
structure Records (log : List JobState) (row : JobRow) : Prop where
  current : log.getLast? = some row.state
  edges : log.IsChain (fun s t => s ≠ t → Edge row.effectClass s t)
  version : log.length = row.stateVersion + 1

/-- Log and rows agree: events belong to jobs and are numbered from one, and the state events of
every job record its row. -/
structure Agrees (db : Db) : Prop where
  owned : ∀ e ∈ db.events, ∃ row, db.job? e.jobId = some row
  numbered : ∀ k, (db.eventsOf k).map JobEvent.sequence = List.range' 1 (db.eventsOf k).length
  records : ∀ row, db.job? row.jobId = some row → Records (stateLog db row.jobId) row

theorem Records.congr {log : List JobState} {row row' : JobRow} (h : Records log row)
    (hstate : row'.state = row.state) (heffect : row'.effectClass = row.effectClass)
    (hversion : row'.stateVersion = row.stateVersion) : Records log row' := by
  refine ⟨?_, ?_, ?_⟩
  · rw [hstate]
    exact h.current
  · rw [heffect]
    exact h.edges
  · rw [hversion]
    exact h.version

/-- A state event for a move along an edge, or for a move that stays. -/
theorem Records.move {log : List JobState} {row row' : JobRow} (h : Records log row)
    (hedge : row'.state = row.state ∨ Edge row.effectClass row.state row'.state)
    (heffect : row'.effectClass = row.effectClass)
    (hversion : row'.stateVersion = row.stateVersion + 1) :
    Records (log ++ [row'.state]) row' := by
  refine ⟨List.getLast?_concat, ?_, ?_⟩
  · rw [heffect]
    refine h.edges.append (List.isChain_singleton _) ?_
    rintro s hs t ht hne
    rw [h.current, Option.mem_some_iff] at hs
    rw [List.head?_singleton, Option.mem_some_iff] at ht
    subst hs ht
    rcases hedge with hsame | hedge
    · exact absurd hsame.symm hne
    · exact hedge
  · rw [List.length_append, h.version, hversion, List.length_singleton]

section

variable {db db' : Db}

theorem eventsOf_append {e : JobEvent} (h : db'.events = db.events ++ [e]) (k : JobId) :
    db'.eventsOf k = if e.jobId = k then db.eventsOf k ++ [e] else db.eventsOf k := by
  unfold Db.eventsOf
  rw [h, List.filter_append]
  by_cases hk : e.jobId = k <;> simp [hk]

theorem stateLog_append {e : JobEvent} (h : db'.events = db.events ++ [e]) (k : JobId) :
    stateLog db' k = if e.jobId = k ∧ e.eventType = .state then stateLog db k ++ [e.state]
      else stateLog db k := by
  unfold stateLog
  rw [eventsOf_append h]
  by_cases hk : e.jobId = k
  · by_cases he : e.eventType = .state <;> simp [hk, he, List.filter_append]
  · simp [hk]

theorem foldr_max_range' (n : Nat) : (List.range' 1 n).foldr max 0 = n := by
  induction n with
  | zero => rfl
  | succ n ih =>
      rw [List.range'_concat, List.foldr_append]
      have hmax : ∀ (xs : List Nat) (a b : Nat), xs.foldr max (max a b) = max (xs.foldr max a) b := by
        intro xs a b
        induction xs with
        | nil => rfl
        | cons x xs ihx => simp only [List.foldr_cons, ihx, max_assoc]
      have hlast : List.foldr max 0 [1 + 1 * n] = max 0 (1 + 1 * n) := by
        simp [max_comm]
      rw [hlast, hmax, ih]
      omega

/-- Under a log numbered from one the next sequence is the length plus one. -/
theorem nextSequence_eq (h : Agrees db) (k : JobId) :
    db.nextSequence k = (db.eventsOf k).length + 1 := by
  unfold Db.nextSequence
  rw [h.numbered k, foldr_max_range']

theorem numbered_append (h : Agrees db) {e : JobEvent} (hevents : db'.events = db.events ++ [e])
    (hsequence : e.sequence = (db.eventsOf e.jobId).length + 1) (k : JobId) :
    (db'.eventsOf k).map JobEvent.sequence = List.range' 1 (db'.eventsOf k).length := by
  rw [eventsOf_append hevents]
  by_cases hk : e.jobId = k
  · subst hk
    rw [if_pos rfl, List.map_append, h.numbered, List.length_append, List.length_singleton,
      List.range'_concat, List.map_singleton, hsequence]
    congr 2
    omega
  · rw [if_neg hk]
    exact h.numbered k

/-- A job that does not exist has no event. -/
theorem eventsOf_none (h : Agrees db) {k : JobId} (hk : db.job? k = none) : db.eventsOf k = [] := by
  rw [Db.eventsOf, List.filter_eq_nil_iff]
  intro e he hek
  obtain ⟨row, hrow⟩ := h.owned e he
  rw [decide_eq_true_eq] at hek
  rw [hek, hk] at hrow
  cases hrow

theorem Agrees.created (h : Agrees db) {row : JobRow} (hcreated : Created db db' row)
    (hqueued : row.state = .queued) (hversion : row.stateVersion = 0) : Agrees db' := by
  obtain ⟨hinsert, ⟨sequence, hsequence, hevents⟩, -⟩ := hcreated
  have hjob? : ∀ k, db'.job? k = if row.jobId = k then some row else db.job? k :=
    Table.get?_insert hinsert
  have hfresh : db.job? row.jobId = none := (Table.insert_some hinsert).2
  have hnone : db.eventsOf row.jobId = [] := eventsOf_none h hfresh
  have hone : sequence = (db.eventsOf row.jobId).length + 1 := by
    rcases hsequence with rfl | rfl
    · exact nextSequence_eq h _
    · rw [hnone]
      rfl
  have hlog : stateLog db' row.jobId = [.queued] := by
    rw [stateLog_append hevents, if_pos ⟨rfl, rfl⟩]
    simp [stateLog, hnone]
  have hlogOther : ∀ k, row.jobId ≠ k → stateLog db' k = stateLog db k := by
    intro k hk
    rw [stateLog_append hevents, if_neg (fun hand => hk hand.1)]
  constructor
  · intro e he
    rw [hevents, List.mem_append, List.mem_singleton] at he
    rcases he with he | rfl
    · obtain ⟨r, hr⟩ := h.owned e he
      rw [hjob?]
      by_cases hk : row.jobId = e.jobId
      · exact ⟨row, if_pos hk⟩
      · exact ⟨r, by rw [if_neg hk, hr]⟩
    · exact ⟨row, by rw [hjob?, if_pos rfl]⟩
  · exact numbered_append h hevents hone
  · intro r hr
    rw [hjob?] at hr
    by_cases hk : row.jobId = r.jobId
    · rw [if_pos hk] at hr
      cases hr
      rw [hlog]
      exact ⟨congrArg some hqueued.symm, List.isChain_singleton _, by rw [hversion]; rfl⟩
    · rw [if_neg hk] at hr
      rw [hlogOther _ hk]
      exact h.records r hr

/-- A rewritten row and its event keep the agreement when the new log records the new row. -/
theorem Agrees.rewritten (h : Agrees db) {row row' : JobRow} (hrow : Rewrites db db' row row')
    {e : JobEvent} (hid : e.jobId = row.jobId) (hsequence : e.sequence = db.nextSequence row.jobId)
    (hevents : db'.events = db.events ++ [e])
    (hlog : Records (stateLog db' row.jobId) row') : Agrees db' := by
  obtain ⟨hself, hjob?, hid', heffect⟩ := hrow
  constructor
  · intro f hf
    rw [hevents, List.mem_append, List.mem_singleton] at hf
    rw [hjob?]
    by_cases hk : f.jobId = row.jobId
    · exact ⟨row', if_pos hk⟩
    · rcases hf with hf | rfl
      · obtain ⟨r, hr⟩ := h.owned f hf
        exact ⟨r, by rw [if_neg hk, hr]⟩
      · exact absurd hid hk
  · refine numbered_append h hevents ?_
    rw [hsequence, hid, nextSequence_eq h]
  · intro r hr
    rw [hjob?] at hr
    by_cases hk : r.jobId = row.jobId
    · rw [if_pos hk] at hr
      cases hr
      rw [hk]
      exact hlog
    · rw [if_neg hk] at hr
      have hsame : stateLog db' r.jobId = stateLog db r.jobId := by
        rw [stateLog_append hevents, if_neg]
        rintro ⟨hek, -⟩
        exact hk (hek.symm.trans hid)
      rw [hsame]
      exact h.records r hr

/-- Rows and events that only differ in other columns agree as before. -/
theorem Agrees.silent (h : Agrees db) (hevents : db'.events = db.events)
    (hsome : ∀ k row, db.job? k = some row → ∃ row', db'.job? k = some row')
    (hrows : ∀ r, db'.job? r.jobId = some r → ∃ old, db.job? old.jobId = some old ∧
      old.jobId = r.jobId ∧ r.state = old.state ∧ r.effectClass = old.effectClass ∧
      r.stateVersion = old.stateVersion) : Agrees db' := by
  have heventsOf : ∀ k, db'.eventsOf k = db.eventsOf k := by
    intro k
    unfold Db.eventsOf
    rw [hevents]
  constructor
  · intro e he
    rw [hevents] at he
    obtain ⟨row, hrow⟩ := h.owned e he
    exact hsome _ row hrow
  · intro k
    rw [heventsOf]
    exact h.numbered k
  · intro r hr
    obtain ⟨old, hold, hk, hstate, heffect, hversion⟩ := hrows r hr
    have hlog : stateLog db' r.jobId = stateLog db old.jobId := by
      unfold stateLog
      rw [heventsOf, hk]
    rw [hlog]
    exact (h.records old hold).congr hstate heffect hversion

theorem Agrees.annotated (h : Agrees db) {row row' : JobRow} (hrow : Rewrites db db' row row')
    (hkept : row'.outcome = row.outcome) (hevents : db'.events = db.events) : Agrees db' := by
  obtain ⟨hself, hjob?, hid', heffect⟩ := hrow
  refine h.silent hevents ?_ ?_
  · intro k r hr
    rw [hjob?]
    by_cases hk : k = row.jobId
    · exact ⟨row', if_pos hk⟩
    · exact ⟨r, by rw [if_neg hk, hr]⟩
  · intro r hr
    rw [hjob?] at hr
    by_cases hk : r.jobId = row.jobId
    · rw [if_pos hk] at hr
      cases hr
      exact ⟨row, hself, hk.symm, congrArg Prod.fst hkept, heffect,
        congrArg (fun o => o.2.1) hkept⟩
    · rw [if_neg hk] at hr
      exact ⟨r, hr, rfl, rfl, rfl, rfl⟩

/-- **One change keeps log and row in agreement.** -/
theorem Agrees.step (h : Agrees db) (hchange : Change db db') : Agrees db' := by
  cases hchange with
  | idle hjobs hevents =>
      refine h.silent hevents (fun k row hrow => ⟨row, (hjobs k).trans hrow⟩) fun r hr => ?_
      exact ⟨r, (hjobs _).symm.trans hr, rfl, rfl, rfl, rfl⟩
  | annotated row row' hrow hkept hevents => exact h.annotated hrow hkept hevents
  | created row hcreated hqueued hversion => exact h.created hcreated hqueued hversion
  | moved row row' hrow hopen hedge hversion errorCode result hevents =>
      have hlog : stateLog db' row.jobId = stateLog db row.jobId ++ [row'.state] := by
        rw [stateLog_append hevents, if_pos ⟨rfl, rfl⟩]
      refine h.rewritten hrow rfl rfl hevents ?_
      rw [hlog]
      exact (h.records row hrow.1).move hedge hrow.2.2.2 hversion
  | progressed row row' hrow hopen hstate hversion progress hevents =>
      have hlog : stateLog db' row.jobId = stateLog db row.jobId := by
        rw [stateLog_append hevents, if_neg]
        rintro ⟨-, hprogress⟩
        cases hprogress
      refine h.rewritten hrow rfl rfl hevents ?_
      rw [hlog]
      exact (h.records row hrow.1).congr hstate hrow.2.2.2 hversion

/-- A change leaves the outcome of a terminal job alone. -/
theorem Change.terminal_kept (hchange : Change db db') {row : JobRow}
    (hrow : db.job? row.jobId = some row) (hterminal : isTerminal row.state = true) :
    ∃ row', db'.job? row.jobId = some row' ∧ row'.outcome = row.outcome ∧
      row'.jobId = row.jobId := by
  have other : ∀ r r' : JobRow, Rewrites db db' r r' → isTerminal r.state = false →
      ∃ row', db'.job? row.jobId = some row' ∧ row'.outcome = row.outcome ∧
        row'.jobId = row.jobId := by
    rintro r r' ⟨hself, hjob?, -⟩ hopen
    have hne : row.jobId ≠ r.jobId := by
      intro hk
      rw [hk, hself] at hrow
      cases hrow
      rw [hopen] at hterminal
      cases hterminal
    exact ⟨row, by rw [hjob?, if_neg hne, hrow], rfl, rfl⟩
  cases hchange with
  | idle hjobs hevents => exact ⟨row, by rw [hjobs, hrow], rfl, rfl⟩
  | annotated r r' hr hkept hevents =>
      obtain ⟨hself, hjob?, hid, -⟩ := hr
      by_cases hk : row.jobId = r.jobId
      · rw [hk, hself] at hrow
        cases hrow
        exact ⟨r', by rw [hjob?, if_pos rfl], hkept, hid⟩
      · exact ⟨row, by rw [hjob?, if_neg hk, hrow], rfl, rfl⟩
  | created r hcreated hqueued hversion =>
      obtain ⟨hinsert, -⟩ := hcreated
      have hne : r.jobId ≠ row.jobId := by
        intro hk
        have hfresh := (Table.insert_some hinsert).2
        rw [hk] at hfresh
        exact absurd (hrow.symm.trans hfresh) (by simp)
      refine ⟨row, ?_, rfl, rfl⟩
      show db'.jobs.get? row.jobId = _
      rw [Table.get?_insert hinsert, if_neg hne]
      exact hrow
  | moved r r' hr hopen => exact other r r' hr hopen
  | progressed r r' hr hopen => exact other r r' hr hopen

end

/-! ## Runs of calls -/

/-- The state after a list of calls, each with arbitrary arguments. -/
def runCalls (C : Codec) (db : Db) (calls : List Call) : Db :=
  runFrom (Call.run C) db calls

/-- The database before any job: the other tables are arbitrary. -/
def Db.withoutJobs (db : Db) : Db := { db with jobs := .empty, events := [] }

theorem withoutJobs_agrees (db : Db) : Agrees db.withoutJobs := by
  constructor
  · rintro e ⟨⟩
  · intro k
    rfl
  · rintro row ⟨⟩

theorem runCalls_agrees (C : Codec) (db : Db) (calls : List Call) :
    Agrees (runCalls C db.withoutJobs calls) :=
  runFrom_invariant Agrees (fun _ call h => h.step call.change) (withoutJobs_agrees db) calls

theorem runCalls_terminal_kept (C : Codec) {db : Db} {row : JobRow}
    (hrow : db.job? row.jobId = some row) (hterminal : isTerminal row.state = true)
    (calls : List Call) :
    ∃ row', (runCalls C db calls).job? row.jobId = some row' ∧ row'.outcome = row.outcome ∧
      row'.jobId = row.jobId := by
  refine runFrom_invariant (fun db' : Db => ∃ row', db'.job? row.jobId = some row' ∧
    row'.outcome = row.outcome ∧ row'.jobId = row.jobId) ?_ ⟨row, hrow, rfl, rfl⟩ calls
  rintro db' call ⟨row', hrow', hsame, hid⟩
  rw [← hid] at hrow'
  have hterminal' : isTerminal row'.state = true := by
    have hstate : row'.state = row.state := congrArg Prod.fst hsame
    rw [hstate]
    exact hterminal
  obtain ⟨row'', hrow'', hsame', hid'⟩ := (Call.change (C := C) call).terminal_kept hrow' hterminal'
  rw [hid] at hrow''
  exact ⟨row'', hrow'', hsame'.trans hsame, hid'.trans hid⟩

/-- **Job row and event log agree over whole runs.** After any calls with any arguments the
events of every job are numbered `1..n`, its last state event is its state, distinct neighbours
in the log are edges of the machine and the version counts the state events after the first;
and whatever calls follow, the outcome of a terminal job stays. -/
theorem runCalls_row_log_agree (C : Codec) (db : Db) (calls : List Call) (row : JobRow)
    (hrow : (runCalls C db.withoutJobs calls).job? row.jobId = some row) :
    let now := runCalls C db.withoutJobs calls
    (now.eventsOf row.jobId).map JobEvent.sequence =
        List.range' 1 (now.eventsOf row.jobId).length ∧
      (stateLog now row.jobId).getLast? = some row.state ∧
      (stateLog now row.jobId).IsChain (fun s t => s ≠ t → Edge row.effectClass s t) ∧
      (stateLog now row.jobId).length = row.stateVersion + 1 ∧
      (isTerminal row.state = true → ∀ more, ∃ row',
        (runCalls C now more).job? row.jobId = some row' ∧ row'.outcome = row.outcome) := by
  have h := runCalls_agrees C db calls
  obtain ⟨hcurrent, hedges, hversion⟩ := h.records row hrow
  refine ⟨h.numbered _, hcurrent, hedges, hversion, ?_⟩
  intro hterminal more
  obtain ⟨row', hrow', hsame, -⟩ := runCalls_terminal_kept C hrow hterminal more
  exact ⟨row', hrow', hsame⟩

/-- A job that is created and cancelled while it is queued. -/
theorem runCalls_row_log_agree_cancelled :
    (stateLog (runCalls constantCodec (oneDeviceDb 1 1 1 []).withoutJobs
      [.createJob ⟨1, 1, .observe, .read, .obj [], 4, none, 2, 3⟩,
       .requestJobCancel 2 none 5]) 2).getLast? = some .cancelled :=
  (runCalls_row_log_agree constantCodec (oneDeviceDb 1 1 1 [])
    [.createJob ⟨1, 1, .observe, .read, .obj [], 4, none, 2, 3⟩, .requestJobCancel 2 none 5]
    (cancelSet .cancelled 5 (queuedRow 2 1 1 .observe .read none 3 4 0 (.obj []) 0)) rfl).2.1

end AutocadMcp.Gateway
