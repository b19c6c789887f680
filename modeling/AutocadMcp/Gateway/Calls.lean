import Mathlib.Tactic.Tauto
import AutocadMcp.Gateway.Repository

/-!
# What a repository call can do

One inversion lemma for each operation: what must have held for it to commit
and the database it leaves. `Change` collects them into the few things that a
call can do to a job and its events.
-/

namespace AutocadMcp.Gateway

/-! ## Frames -/

namespace Db

variable (db : Db) (jobId : JobId) (eventType : EventType) (state : JobState)
  (progress : Option Progress) (errorCode : Option String) (result : Option Json)

@[simp] theorem pushEvent_jobs :
    (db.pushEvent jobId eventType state progress errorCode result).jobs = db.jobs := rfl

@[simp] theorem pushEvent_locks :
    (db.pushEvent jobId eventType state progress errorCode result).locks = db.locks := rfl

@[simp] theorem pushEvent_sessions :
    (db.pushEvent jobId eventType state progress errorCode result).sessions = db.sessions := rfl

@[simp] theorem pushEvent_job? (k : JobId) :
    (db.pushEvent jobId eventType state progress errorCode result).job? k = db.job? k := rfl

theorem pushEvent_events :
    (db.pushEvent jobId eventType state progress errorCode result).events =
      db.events ++
        [⟨jobId, db.nextSequence jobId, eventType, state, progress, errorCode, result⟩] := rfl

end Db

theorem job?_some {db : Db} {jobId : JobId} {row : JobRow} (h : db.job? jobId = some row) :
    row ∈ db.jobs.rows ∧ row.jobId = jobId :=
  Table.get?_some h

theorem job?_self {db : Db} {jobId : JobId} {row : JobRow} (h : db.job? jobId = some row) :
    db.job? row.jobId = some row := by
  rw [(job?_some h).2]
  exact h

/-- The database after `set` on one row of `jobs`. -/
def Db.setJob (db : Db) (jobId : JobId) (set : JobRow → JobRow)
    (hset : ∀ row, (set row).jobId = row.jobId) : Db :=
  { db with jobs := db.jobs.modify jobId set hset }

section

variable {db db' : Db} {jobId : JobId} {set : JobRow → JobRow}
  (hset : ∀ row, (set row).jobId = row.jobId)

@[simp] theorem setJob_events : (db.setJob jobId set hset).events = db.events := rfl

@[simp] theorem setJob_locks : (db.setJob jobId set hset).locks = db.locks := rfl

@[simp] theorem setJob_sessions : (db.setJob jobId set hset).sessions = db.sessions := rfl

theorem setJob_job? {row : JobRow} (h : db.job? jobId = some row) (k : JobId) :
    (db.setJob jobId set hset).job? k = if k = jobId then some (set row) else db.job? k := by
  show (db.jobs.modify jobId set hset).get? k = _
  rw [Table.get?_modify]
  by_cases hk : k = jobId
  · subst hk
    have hrow : db.jobs.get? k = some row := h
    simp [hrow]
  · simp only [hk, if_false]
    rfl

theorem casUpdate_ok {hset} {cond : JobRow → Bool} :
    casUpdate db jobId cond set hset = .ok db' ↔
      ∃ row, db.job? jobId = some row ∧ cond row = true ∧ db' = db.setJob jobId set hset := by
  unfold casUpdate Db.updateJob Db.setJob
  cases hrow : db.job? jobId with
  | none => simp
  | some row =>
      by_cases hc : cond row = true
      · simp only [hc, if_true, Except.ok.injEq, Option.some.injEq]
        constructor
        · intro h
          exact ⟨row, rfl, hc, h.symm⟩
        · rintro ⟨_, -, -, rfl⟩
          rfl
      · simp [hc]

end

theorem encode_ok {C : Codec} {limit : Nat} {value : Json} (h : encode C limit value = .ok ()) :
    ∃ bytes, C.jsonBytes value = some bytes ∧ bytes ≤ limit := by
  unfold encode at h
  split at h
  · cases h
  · rename_i bytes hbytes
    exact ⟨bytes, hbytes, check_eq_ok.mp h⟩

theorem appendEvent_ok {C : Codec} {limit : Nat} {db db' : Db} {jobId : JobId}
    {eventType : EventType} {state : JobState} {progress : Option Progress}
    {result : Option Json} {errorCode : Option String}
    (h : appendEvent C limit db jobId eventType state progress result errorCode = .ok db') :
    db' = db.pushEvent jobId eventType state progress errorCode result := by
  obtain ⟨_, -, h⟩ := bind_eq_ok.mp h
  obtain ⟨_, -, h⟩ := bind_eq_ok.mp h
  cases h
  rfl

theorem validated_ok {current target : JobState} {effectClass : EffectClass} {evidence : Bool}
    {u : Unit} :
    validated current target effectClass evidence = .ok u ↔
      validateTransition current target effectClass evidence = .ok () := by
  unfold validated
  cases validateTransition current target effectClass evidence <;> simp

theorem insertJob_ok {db db' : Db} {row : JobRow} (h : db.insertJob row = .ok db') :
    ∃ jobs, db.jobs.insert row = some jobs ∧ db' = { db with jobs := jobs } ∧
      ∀ r ∈ db.jobs.rows, r.commandId ≠ row.commandId ∧
        ¬ (r.ownerSubject = row.ownerSubject ∧ r.deviceId = row.deviceId ∧
          r.idempotencyKey = row.idempotencyKey) := by
  unfold Db.insertJob at h
  split at h
  · cases h
  · rename_i huniq
    split at h
    · cases h
    · rename_i jobs hjobs
      cases h
      refine ⟨jobs, hjobs, rfl, ?_⟩
      simpa [not_or] using huniq

/-- The database after a job row and its state event were written. -/
def Db.moved (db : Db) (jobId : JobId) (set : JobRow → JobRow)
    (hset : ∀ row, (set row).jobId = row.jobId) (state : JobState)
    (result : Option Json) (errorCode : Option String) : Db :=
  (db.setJob jobId set hset).pushEvent jobId .state state none errorCode result

/-! ## One lemma for each operation -/

section

variable {C : Codec} {db db' : Db} {jobId : JobId}

theorem writeState_ok {limit : Nat} {cond : JobRow → Bool} {set : JobRow → JobRow}
    {hset : ∀ row, (set row).jobId = row.jobId} {target : JobState} {result : Option Json}
    {errorCode : Option String}
    (h : writeState C limit db jobId cond set hset target result errorCode = .ok db') :
    ∃ row, db.job? jobId = some row ∧ cond row = true ∧
      db' = db.moved jobId set hset target result errorCode := by
  unfold writeState at h
  rw [bind_eq_ok] at h
  obtain ⟨db1, hcas, hevent⟩ := h
  obtain ⟨row, hrow, hcond, rfl⟩ := casUpdate_ok.mp hcas
  exact ⟨row, hrow, hcond, appendEvent_ok hevent⟩

theorem moved_job? {set : JobRow → JobRow} (hset : ∀ row, (set row).jobId = row.jobId)
    {target : JobState} {result : Option Json} {errorCode : Option String} {row : JobRow}
    (h : db.job? jobId = some row) (k : JobId) :
    (db.moved jobId set hset target result errorCode).job? k =
      if k = jobId then some (set row) else db.job? k :=
  setJob_job? hset h k

theorem moved_self {set : JobRow → JobRow} (hset : ∀ row, (set row).jobId = row.jobId)
    {target : JobState} {result : Option Json} {errorCode : Option String} {row : JobRow}
    (h : db.job? jobId = some row) :
    (db.moved jobId set hset target result errorCode).job? jobId = some (set row) := by
  rw [moved_job? hset h, if_pos rfl]

theorem claimJob_ok {r : Option JobRow} (h : claimJob C db jobId = .ok (r, db')) :
    (r = none ∧ db' = db) ∨
    ∃ row, db.job? jobId = some row ∧ row.state = .queued ∧ r = some (claimSet row) ∧
      db' = db.moved jobId claimSet claimSet_jobId .dispatched none none := by
  unfold claimJob at h
  cases hrow : db.job? jobId with
  | none =>
      simp only [hrow] at h
      cases h
      exact Or.inl ⟨rfl, rfl⟩
  | some row =>
      simp only [hrow] at h
      by_cases hqueued : row.state = .queued
      · simp only [hqueued, Db.updateJob, hrow, and_self, decide_true, if_true, bind_eq_ok] at h
        obtain ⟨db1, hevent, h⟩ := h
        have hdb1 := appendEvent_ok hevent
        cases h
        refine Or.inr ⟨row, rfl, hqueued, ?_, hdb1⟩
        rw [hdb1]
        exact moved_self claimSet_jobId hrow
      · rw [if_neg hqueued] at h
        cases h
        exact Or.inl ⟨rfl, rfl⟩

theorem transitionJob_ok {a : Transition} {r : Option JobRow}
    (h : transitionJob C db jobId a = .ok (r, db')) :
    (db.job? jobId = none ∧ r = none ∧ db' = db) ∨
    ∃ row, db.job? jobId = some row ∧
      validateTransition row.state a.target row.effectClass a.evidence = .ok () ∧
      ¬ (a.target = .succeeded ∧ row.kind = .observe) ∧
      (∀ v ∈ a.expectedVersion, row.stateVersion = v) ∧
      r = some (a.set row) ∧
      db' = db.moved jobId a.set a.set_jobId a.target a.result a.errorCode := by
  unfold transitionJob at h
  rw [bind_eq_ok] at h
  obtain ⟨_, -, h⟩ := h
  cases hrow : db.job? jobId with
  | none =>
      simp only [hrow] at h
      cases h
      exact Or.inl ⟨rfl, rfl, rfl⟩
  | some row =>
      simp only [hrow, bind_eq_ok, check_eq_ok, validated_ok] at h
      obtain ⟨_, hobserve, _, hvalid, _, hversion, _, -, db1, hwrite, h⟩ := h
      obtain ⟨_, -, -, hdb1⟩ := writeState_ok hwrite
      cases h
      refine Or.inr ⟨row, rfl, hvalid, hobserve, hversion, ?_, hdb1⟩
      rw [hdb1]
      exact moved_self _ hrow

theorem requestJobCancel_ok {expectedVersion : Option Nat} {now : Instant} {r : Option JobRow}
    (h : requestJobCancel C db jobId expectedVersion now = .ok (r, db')) :
    (r = db.job? jobId ∧ db' = db ∧
      ∀ row, db.job? jobId = some row → isTerminal row.state ∨ row.cancelRequestedAt.isSome) ∨
    ∃ row target, db.job? jobId = some row ∧ isTerminal row.state = false ∧
      row.cancelRequestedAt = none ∧ (∀ v ∈ expectedVersion, row.stateVersion = v) ∧
      cancelTarget row.state = some target ∧
      (target = row.state ∨ Edge row.effectClass row.state target) ∧
      r = some (cancelSet target now row) ∧
      db' = db.moved jobId (cancelSet target now) (cancelSet_jobId target now) target
        (some (.obj [("cancel_requested", .bool true)])) none := by
  unfold requestJobCancel at h
  cases hrow : db.job? jobId with
  | none =>
      simp only [hrow] at h
      cases h
      exact Or.inl ⟨rfl, rfl, by simp⟩
  | some row =>
      simp only [hrow] at h
      by_cases hdone : isTerminal row.state ∨ row.cancelRequestedAt.isSome
      · rw [if_pos hdone] at h
        cases h
        refine Or.inl ⟨rfl, rfl, ?_⟩
        rintro _ ⟨⟩
        exact hdone
      · rw [if_neg hdone, bind_eq_ok] at h
        obtain ⟨_, hversion, h⟩ := h
        cases htarget : cancelTarget row.state with
        | none =>
            simp only [htarget] at h
            cases h
        | some target =>
            simp only [htarget, bind_eq_ok] at h
            obtain ⟨_, hvalid, db1, hwrite, h⟩ := h
            obtain ⟨_, -, -, hdb1⟩ := writeState_ok hwrite
            cases h
            obtain ⟨hopen, hcancel⟩ := not_or.mp hdone
            refine Or.inr ⟨row, target, rfl, by simpa using hopen, by simpa using hcancel,
              check_eq_ok.mp hversion, htarget, ?_, ?_, hdb1⟩
            · by_cases hsame : target = row.state
              · exact Or.inl hsame
              · rw [validatedMove, if_neg hsame] at hvalid
                exact Or.inr (edge_of_validate (validated_ok.mp hvalid))
            · rw [hdb1]
              exact moved_self _ hrow

theorem appendProgress_ok {progress : Progress} {expectedVersion : Option Nat}
    {r : Option JobRow} (h : appendProgress C db jobId progress expectedVersion = .ok (r, db')) :
    db' = db ∨
    ∃ row, db.job? jobId = some row ∧ isTerminal row.state = false ∧
      row.state ∈ [.acknowledged, .running, .cancelRequested] ∧
      db' = (db.setJob jobId (progressSet progress) (progressSet_jobId progress)).pushEvent jobId .progress
        row.state (some progress) none none := by
  unfold appendProgress at h
  cases hrow : db.job? jobId with
  | none =>
      simp only [hrow] at h
      cases h
      exact Or.inl rfl
  | some row =>
      simp only [hrow, bind_eq_ok, check_eq_ok] at h
      obtain ⟨_, hopen, _, hstate, _, -, _, -, h⟩ := h
      split at h
      · rw [bind_eq_ok] at h
        obtain ⟨_, -, h⟩ := h
        cases h
        exact Or.inl rfl
      · simp only [bind_eq_ok] at h
        obtain ⟨_, -, db1, hcas, db2, hevent, h⟩ := h
        obtain ⟨_, -, -, hdb1⟩ := casUpdate_ok.mp hcas
        have hdb2 := appendEvent_ok hevent
        cases h
        refine Or.inr ⟨row, rfl, hopen, hstate, ?_⟩
        rw [hdb2, hdb1]

/-! ## Terminal results -/

theorem runHook_ok {a : Finalize} {row : JobRow} (h : a.runHook row db = .ok db') :
    ∃ locks, db' = { db with locks := locks } ∧
      (a.terminalHook = none → locks = db.locks) ∧
      ∀ hook, a.terminalHook = some hook → hook row db.locks = .ok locks := by
  unfold Finalize.runHook at h
  cases hhook : a.terminalHook with
  | none =>
      simp only [hhook] at h
      cases h
      exact ⟨db.locks, rfl, fun _ => rfl, by simp⟩
  | some hook =>
      simp only [hhook, bind_eq_ok] at h
      obtain ⟨locks, hlocks, h⟩ := h
      cases h
      refine ⟨locks, rfl, by simp, ?_⟩
      rintro _ ⟨⟩
      exact hlocks

/-- An exact repeat of a terminal result changes no job and no event. -/
theorem replayTerminal_ok {row : JobRow} {a : Finalize} {r : Option (JobRow × Bool)}
    (h : replayTerminal db row a = .ok (r, db')) :
    row.state = a.target ∧ r = some (row, true) ∧ a.runHook row db = .ok db' := by
  unfold replayTerminal at h
  simp only [bind_eq_ok, check_eq_ok] at h
  obtain ⟨_, hsame, db1, hhook, h⟩ := h
  cases h
  exact ⟨hsame.1, rfl, hhook⟩

theorem insertSnapshot_ok {row : JobRow} {snapshot : Json}
    (h : insertSnapshot C db row snapshot = .ok db') :
    ∃ snapshots, db' = { db with snapshots := snapshots } := by
  unfold insertSnapshot at h
  dsimp only at h
  split at h
  · simp only [bind_eq_ok] at h
    obtain ⟨_, -, _, -, _, -, _, -, _, -, h⟩ := h
    cases h
    exact ⟨_, rfl⟩
  · cases h

theorem finalizeJobResult_ok {a : Finalize} {snapshot : Option Json}
    {expectedVersion : Option Nat} {evidence : Bool} {r : Option (JobRow × Bool)}
    (h : finalizeJobResult C db a snapshot expectedVersion evidence = .ok (r, db')) :
    (db.job? a.jobId = none ∧ r = none ∧ db' = db) ∨
    (∃ row, db.job? a.jobId = some row ∧ isTerminal row.state = true ∧ row.state = a.target ∧
      r = some (row, true) ∧ a.runHook row db = .ok db') ∨
    ∃ row snapshots db1, db.job? a.jobId = some row ∧ isTerminal a.target = true ∧
      validateTransition row.state a.target row.effectClass evidence = .ok () ∧
      row.commandId = a.commandId ∧ row.payloadHash = a.payloadHash ∧
      a.runHook row { db with snapshots := snapshots } = .ok db1 ∧
      r = some (a.set row, false) ∧
      db' = db1.moved a.jobId a.set a.set_jobId a.target a.result a.errorCode := by
  unfold finalizeJobResult at h
  simp only [bind_eq_ok, check_eq_ok] at h
  obtain ⟨_, hterminal, _, -, _, -, _, -, h⟩ := h
  cases hrow : db.job? a.jobId with
  | none =>
      simp only [hrow] at h
      cases h
      exact Or.inl ⟨rfl, rfl, rfl⟩
  | some row =>
      simp only [hrow, bind_eq_ok, check_eq_ok] at h
      obtain ⟨_, ⟨-, hcommand⟩, _, hhash, _, -, h⟩ := h
      refine Or.inr ?_
      by_cases hdone : isTerminal row.state = true
      · rw [if_pos hdone] at h
        obtain ⟨hsame, hr, hhook⟩ := replayTerminal_ok h
        exact Or.inl ⟨row, rfl, hdone, hsame, hr, hhook⟩
      · rw [if_neg hdone] at h
        simp only [bind_eq_ok, check_eq_ok, validated_ok] at h
        obtain ⟨_, -, _, hvalid, _, -, _, -, db0, hsnapshot, db1, hhook, _, -, db2, hwrite, h⟩ := h
        have hdb0 : ∃ snapshots, db0 = { db with snapshots := snapshots } := by
          unfold insertSnapshotOption at hsnapshot
          split at hsnapshot
          · exact insertSnapshot_ok hsnapshot
          · cases hsnapshot
            exact ⟨db.snapshots, rfl⟩
        obtain ⟨snapshots, rfl⟩ := hdb0
        obtain ⟨_, -, -, hdb2⟩ := writeState_ok hwrite
        obtain ⟨locks, hdb1, -, -⟩ := runHook_ok hhook
        have hself : db1.job? a.jobId = some row := by
          rw [hdb1]
          exact hrow
        cases h
        refine Or.inr ⟨row, snapshots, db1, rfl, hterminal, hvalid, hcommand, hhash, hhook, ?_, hdb2⟩
        rw [hdb2, moved_self _ hself]
        rfl

theorem materializeSucceeded_ok {row : JobRow} {result : Option Json}
    (h : materializeSucceeded C db row result = .ok db') :
    (∃ value, result = some value ∧ value.isDict = true) ∧
      ∃ receipts, db' = { db with receipts := receipts } := by
  unfold materializeSucceeded at h
  cases result with
  | none => cases h
  | some value =>
      simp only [bind_eq_ok, check_eq_ok] at h
      obtain ⟨_, hdict, _, -, h⟩ := h
      refine ⟨⟨value, rfl, hdict⟩, ?_⟩
      split at h
      · cases h
      · rw [bind_eq_ok] at h
        obtain ⟨_, -, h⟩ := h
        split at h
        · cases h
          exact ⟨db.receipts, rfl⟩
        · rw [bind_eq_ok] at h
          obtain ⟨receipts, -, h⟩ := h
          cases h
          exact ⟨receipts, rfl⟩

theorem finalizeProgramJob_ok {a : Finalize} {r : Option (JobRow × Bool)}
    (h : finalizeProgramJob C db a = .ok (r, db')) :
    (db.job? a.jobId = none ∧ r = none ∧ db' = db) ∨
    (∃ row, db.job? a.jobId = some row ∧ isTerminal row.state = true ∧ row.state = a.target ∧
      r = some (row, true) ∧ a.runHook row db = .ok db') ∨
    ∃ row receipts db1, db.job? a.jobId = some row ∧
      validateTransition row.state a.target row.effectClass true = .ok () ∧
      row.commandId = a.commandId ∧ row.payloadHash = a.payloadHash ∧
      row.lastAgentSequence ≤ a.agentSequence.getD row.lastAgentSequence ∧
      (a.target = .succeeded → ∃ value, a.result = some value ∧ value.isDict = true) ∧
      a.runHook row { db with receipts := receipts } = .ok db1 ∧
      r = some (a.set row, false) ∧
      db' = releaseWriteLock (db1.moved a.jobId a.set a.set_jobId a.target a.result a.errorCode)
        a.jobId := by
  unfold finalizeProgramJob at h
  cases hrow : db.job? a.jobId with
  | none =>
      simp only [hrow] at h
      cases h
      exact Or.inl ⟨rfl, rfl, rfl⟩
  | some row =>
      simp only [hrow, bind_eq_ok, check_eq_ok] at h
      obtain ⟨_, ⟨-, hcommand, hhash⟩, _, -, h⟩ := h
      refine Or.inr ?_
      by_cases hdone : isTerminal row.state = true
      · rw [if_pos hdone] at h
        obtain ⟨hsame, hr, hhook⟩ := replayTerminal_ok h
        exact Or.inl ⟨row, rfl, hdone, hsame, hr, hhook⟩
      · rw [if_neg hdone] at h
        simp only [bind_eq_ok, check_eq_ok, validated_ok, materializeTarget] at h
        obtain ⟨_, hvalid, db0, hmaterialize, db1, hhook, _, hsequence, _, -, db2, hwrite, h⟩ := h
        have hdb0 : (a.target = .succeeded → ∃ value, a.result = some value ∧ value.isDict = true) ∧
            ∃ receipts, db0 = { db with receipts := receipts } := by
          by_cases hsucceeded : a.target = .succeeded
          · rw [if_pos hsucceeded] at hmaterialize
            obtain ⟨hvalue, hreceipts⟩ := materializeSucceeded_ok hmaterialize
            exact ⟨fun _ => hvalue, hreceipts⟩
          · rw [if_neg hsucceeded] at hmaterialize
            cases hmaterialize
            exact ⟨fun h => absurd h hsucceeded, db.receipts, rfl⟩
        obtain ⟨hvalue, receipts, rfl⟩ := hdb0
        obtain ⟨_, -, -, hdb2⟩ := writeState_ok hwrite
        obtain ⟨locks, hdb1, -, -⟩ := runHook_ok hhook
        have hself : db1.job? a.jobId = some row := by
          rw [hdb1]
          exact hrow
        cases h
        refine Or.inr ⟨row, receipts, db1, rfl, hvalid, hcommand, hhash, hsequence, hvalue, hhook,
          ?_, ?_⟩
        · show ((db2.job? a.jobId).map fun x => (x, false)) = _
          rw [hdb2, moved_self _ hself]
          rfl
        · rw [hdb2]

/-! ## Creation -/

/-- The database `db'` is `db` with a new queued job and its first event; the other tables are
free. -/
def Created (db db' : Db) (row : JobRow) : Prop :=
  db.jobs.insert row = some db'.jobs ∧
  (∃ sequence, (sequence = db.nextSequence row.jobId ∨ sequence = 1) ∧
    db'.events = db.events ++ [⟨row.jobId, sequence, .state, .queued, none, none, none⟩]) ∧
  ∀ r ∈ db.jobs.rows, r.commandId ≠ row.commandId ∧
    ¬ (r.ownerSubject = row.ownerSubject ∧ r.deviceId = row.deviceId ∧
      r.idempotencyKey = row.idempotencyKey)

theorem createJob_ok {a : CreateJob} {r : JobRow × Bool} (h : createJob C db a = .ok (r, db')) :
    (∃ row, db.job? row.jobId = some row ∧
      (db' = db ∨ ∃ fingerprint, db' = db.setJob row.jobId
        (fingerprintSet fingerprint) (fingerprintSet_jobId fingerprint))) ∨
    ∃ payloadHash, db'.locks = db.locks ∧
      Created db db' (queuedRow a.newJobId a.owner a.deviceId a.kind a.effectClass a.deadlineAt
        a.newCommandId a.idempotencyKey payloadHash a.payload
        (C.requestFingerprint a.kind a.effectClass payloadHash)) := by
  unfold createJob at h
  simp only [bind_eq_ok] at h
  obtain ⟨payloadHash, -, _, -, h⟩ := h
  split at h
  · rename_i existing hexisting
    have hself : db.job? existing.jobId = some existing :=
      Table.get?_of_mem (List.mem_of_find?_eq_some hexisting)
    rw [bind_eq_ok] at h
    obtain ⟨_, -, h⟩ := h
    refine Or.inl ⟨existing, hself, ?_⟩
    split at h
    · rw [bind_eq_ok] at h
      obtain ⟨db1, hcas, h⟩ := h
      obtain ⟨_, -, -, hdb1⟩ := casUpdate_ok.mp hcas
      cases h
      exact Or.inr ⟨_, hdb1⟩
    · cases h
      exact Or.inl rfl
  · simp only [bind_eq_ok] at h
    obtain ⟨_, -, db1, hinsert, db2, hevent, h⟩ := h
    obtain ⟨jobs, hjobs, rfl, hunique⟩ := insertJob_ok hinsert
    have hdb2 := appendEvent_ok hevent
    cases h
    refine Or.inr ⟨payloadHash, ?_, ?_, ⟨db.nextSequence a.newJobId, Or.inl rfl, ?_⟩, hunique⟩
    · rw [hdb2]
      rfl
    · rw [hdb2]
      exact hjobs
    · rw [hdb2]
      rfl

theorem insertLock_ok {locks locks' : LockTable} {lock : LockRow}
    (h : Db.insertLock locks lock = .ok locks') :
    locks.insert lock = some locks' ∧ ∀ l ∈ locks.rows, l.jobId ≠ lock.jobId := by
  unfold Db.insertLock at h
  split at h
  · cases h
  · rename_i hfree
    split at h
    · cases h
    · rename_i locks1 hlocks
      cases h
      exact ⟨hlocks, by simpa using hfree⟩

/-- A creation either returns what exists already, or inserts a queued job and, if asked to,
takes the lock of its document. -/
theorem createActionJob_ok {a : CreateActionJob} {r : ActionJob × Bool}
    (h : createActionJob C db a = .ok (r, db')) :
    (db'.jobs = db.jobs ∧ db'.events = db.events ∧ db'.locks = db.locks ∧
      db'.sessions = db.sessions ∧ r.2 = true) ∨
    ∃ payloadHash row, row = queuedRow a.newJobId a.owner a.deviceId a.action.kind
        a.action.effectClass (some a.deadlineAt) a.newCommandId a.idempotencyKey payloadHash
        a.payload (C.requestFingerprint a.action.kind a.action.effectClass payloadHash) ∧
      Created db db' row ∧ db'.sessions = db.sessions ∧ r = (.job row, false) ∧
      (a.acquireWriteLock = false → db'.locks = db.locks) ∧
      (a.acquireWriteLock = true →
        Db.insertLock (clearStaleLock db a.deviceId a.documentId)
          ⟨a.deviceId, a.documentId, a.newJobId⟩ = .ok db'.locks) := by
  unfold createActionJob at h
  simp only [bind_eq_ok] at h
  obtain ⟨payloadHash, -, existingId, -, h⟩ := h
  split at h
  · refine Or.inl ?_
    split at h
    · cases h
      exact ⟨rfl, rfl, rfl, rfl, rfl⟩
    · split at h
      · cases h
        exact ⟨rfl, rfl, rfl, rfl, rfl⟩
      · cases h
  · simp only [bind_eq_ok] at h
    obtain ⟨_, -, prior, -, h⟩ := h
    split at h
    · cases h
      exact Or.inl ⟨rfl, rfl, rfl, rfl, rfl⟩
    · simp only [bind_eq_ok] at h
      obtain ⟨_, -, _, -, db1, hinsert, db2, hevent, locks, hlocks, h⟩ := h
      obtain ⟨jobs, hjobs, hdb1, hunique⟩ := insertJob_ok hinsert
      have hdb2 := appendEvent_ok hevent
      cases h
      refine Or.inr ⟨payloadHash, _, rfl,
        ⟨?_, ⟨db.nextSequence a.newJobId, Or.inl rfl, ?_⟩, hunique⟩, ?_, rfl, ?_, ?_⟩
      · show _ = some db2.jobs
        rw [hdb2, hdb1]
        exact hjobs
      · show db2.events = _
        rw [hdb2, hdb1]
        rfl
      · show db2.sessions = _
        rw [hdb2, hdb1]
        rfl
      · intro hno
        simp only [CreateActionJob.acquire, CreateActionJob.clearedLocks, hno,
          Bool.false_eq_true, if_false] at hlocks hdb1
        cases hlocks
        show db2.locks = _
        rw [hdb2, hdb1]
        rfl
      · intro hyes
        simp only [CreateActionJob.acquire, CreateActionJob.clearedLocks, hyes, if_true]
          at hlocks hdb1
        rw [hdb2, hdb1] at hlocks
        exact hlocks

theorem releaseIntent_ok {a : ReleaseIntent} {r : JobRow}
    (h : releaseIntent C db a = .ok (r, db')) :
    Created db db' (queuedRow a.jobId a.owner a.deviceId a.action.kind .write (some a.deadlineAt)
        a.commandId a.idempotencyKey a.payloadHash a.payload a.requestFingerprint) ∧
      db'.sessions = db.sessions ∧
      Db.insertLock (clearStaleLock db a.deviceId a.documentId)
        ⟨a.deviceId, a.documentId, a.jobId⟩ = .ok db'.locks := by
  unfold releaseIntent at h
  split at h
  · cases h
  · simp only [bind_eq_ok] at h
    obtain ⟨_, -, _, -, _, -, db1, hinsert, h⟩ := h
    have hinsert' : Db.insertJob { db with locks := clearStaleLock db a.deviceId a.documentId }
        (queuedRow a.jobId a.owner a.deviceId a.action.kind .write (some a.deadlineAt) a.commandId
          a.idempotencyKey a.payloadHash a.payload a.requestFingerprint) = .ok db1 := by
      revert hinsert
      cases Db.insertJob { db with locks := clearStaleLock db a.deviceId a.documentId }
        (queuedRow a.jobId a.owner a.deviceId a.action.kind .write (some a.deadlineAt) a.commandId
          a.idempotencyKey a.payloadHash a.payload a.requestFingerprint) with
      | error e => intro hinsert; cases hinsert
      | ok db2 => intro hinsert; cases hinsert; rfl
    obtain ⟨jobs, hjobs, hdb1, hunique⟩ := insertJob_ok hinsert'
    split at h
    · rename_i locks hlocks
      cases h
      refine ⟨⟨?_, ⟨1, Or.inr rfl, ?_⟩, hunique⟩, ?_, ?_⟩
      · show _ = some db1.jobs
        rw [hdb1]
        exact hjobs
      · show db1.events ++ _ = _
        rw [hdb1]
        rfl
      · show db1.sessions = _
        rw [hdb1]
      · rw [hdb1] at hlocks
        exact hlocks
    · cases h

end

/-! ## Calls -/

/-- A call of one of the write operations, with its arguments. -/
inductive Call where
  | createJob (a : CreateJob)
  | createActionJob (a : CreateActionJob)
  | releaseIntent (a : ReleaseIntent)
  | claimJob (jobId : JobId)
  | transitionJob (jobId : JobId) (a : Transition)
  | requestJobCancel (jobId : JobId) (expectedVersion : Option Nat) (now : Instant)
  | appendProgress (jobId : JobId) (progress : Progress) (expectedVersion : Option Nat)
  | finalizeJobResult (a : Finalize) (snapshot : Option Json) (expectedVersion : Option Nat)
      (evidence : Bool)
  | finalizeProgramJob (a : Finalize)
  | releaseWriteLock (jobId : JobId)
  | activateSession (deviceId : DeviceId) (sessionId : SessionId)
  | closeSession (deviceId : DeviceId) (sessionId : SessionId)
  | markSessionsDisconnected

/-- The database after a call: a failed call is rolled back. -/
def Call.run (C : Codec) (db : Db) : Call → Db
  | .createJob a => committed db (AutocadMcp.Gateway.createJob C db a)
  | .createActionJob a => committed db (AutocadMcp.Gateway.createActionJob C db a)
  | .releaseIntent a => committed db (AutocadMcp.Gateway.releaseIntent C db a)
  | .claimJob jobId => committed db (AutocadMcp.Gateway.claimJob C db jobId)
  | .transitionJob jobId a => committed db (AutocadMcp.Gateway.transitionJob C db jobId a)
  | .requestJobCancel jobId expectedVersion now =>
      committed db (AutocadMcp.Gateway.requestJobCancel C db jobId expectedVersion now)
  | .appendProgress jobId progress expectedVersion =>
      committed db (AutocadMcp.Gateway.appendProgress C db jobId progress expectedVersion)
  | .finalizeJobResult a snapshot expectedVersion evidence =>
      committed db (AutocadMcp.Gateway.finalizeJobResult C db a snapshot expectedVersion evidence)
  | .finalizeProgramJob a => committed db (AutocadMcp.Gateway.finalizeProgramJob C db a)
  | .releaseWriteLock jobId => AutocadMcp.Gateway.releaseWriteLock db jobId
  | .activateSession deviceId sessionId =>
      committed db (AutocadMcp.Gateway.activateSession db deviceId sessionId)
  | .closeSession deviceId sessionId =>
      committed db (AutocadMcp.Gateway.closeSession db deviceId sessionId)
  | .markSessionsDisconnected => AutocadMcp.Gateway.markSessionsDisconnected db

/-! ## A concrete store -/

/-- A codec for concrete runs: one digest stands for every payload, every value is small, and a
materialization writes no receipt. -/
def constantCodec : Codec where
  canonicalPayloadHash _ := some 0
  programWirePayloadHash _ _ _ := some 0
  requestFingerprint _ _ _ := 0
  jsonBytes _ := some 2
  boundedJson _ := true
  materialize receipts _ _ := .ok receipts

/-- A database with one device, which has one active session, and nothing else. -/
def oneDeviceDb (deviceId : DeviceId) (owner : Owner) (sessionId : SessionId)
    (capabilities : List String) : Db where
  jobs := .empty
  events := []
  locks := .empty
  sessions := ⟨[⟨sessionId, deviceId, true⟩], List.nodup_singleton _⟩
  devices := ⟨[⟨deviceId, owner, capabilities, []⟩], List.nodup_singleton _⟩
  idempotency := []
  receipts := []
  snapshots := []

end AutocadMcp.Gateway
