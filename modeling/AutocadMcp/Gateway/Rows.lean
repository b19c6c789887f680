import AutocadMcp.Gateway.EventLog

/-!
# What a call does to one job

A row of `jobs` is never deleted and keeps the columns that identify its job. A
call leaves it alone or rewrites it in one of a few ways, each under what the
call checked.
-/

namespace AutocadMcp.Gateway

/-- What becomes of a row under a call. -/
inductive CallMove (row : JobRow) : Call → JobRow → Prop
  | kept (c : Call) : CallMove row c row
  | fingerprinted (a : CreateJob) (fingerprint : Digest) :
      CallMove row (.createJob a) (fingerprintSet fingerprint row)
  | claimed {jobId : JobId} (hid : jobId = row.jobId) (hqueued : row.state = .queued) :
      CallMove row (.claimJob jobId) (claimSet row)
  | moved {jobId : JobId} {a : Transition} (hid : jobId = row.jobId)
      (hvalid : validateTransition row.state a.target row.effectClass a.evidence = .ok ())
      (hversion : ∀ v ∈ a.expectedVersion, row.stateVersion = v) :
      CallMove row (.transitionJob jobId a) (a.set row)
  | cancelled {jobId : JobId} {expectedVersion : Option Nat} {now : Instant} {target : JobState}
      (hid : jobId = row.jobId) (hnone : row.cancelRequestedAt = none)
      (hversion : ∀ v ∈ expectedVersion, row.stateVersion = v)
      (htarget : cancelTarget row.state = some target) :
      CallMove row (.requestJobCancel jobId expectedVersion now) (cancelSet target now row)
  | progressed {jobId : JobId} {progress : Progress} {expectedVersion : Option Nat}
      (hid : jobId = row.jobId) :
      CallMove row (.appendProgress jobId progress expectedVersion) (progressSet progress row)
  | finalizedJob {a : Finalize} {snapshot : Option Json} {expectedVersion : Option Nat}
      {evidence : Bool} (hid : a.jobId = row.jobId) (hterminal : isTerminal a.target = true)
      (hvalid : validateTransition row.state a.target row.effectClass evidence = .ok ()) :
      CallMove row (.finalizeJobResult a snapshot expectedVersion evidence) (a.set row)
  | finalizedProgram {a : Finalize} (hid : a.jobId = row.jobId)
      (hvalid : validateTransition row.state a.target row.effectClass true = .ok ())
      (hresult : a.target = .succeeded → ∃ value, a.result = some value ∧ value.isDict = true) :
      CallMove row (.finalizeProgramJob a) (a.set row)

/-- The columns that no call writes. -/
def JobRow.identity (row : JobRow) : JobId × Owner × DeviceId × JobKind × EffectClass ×
    Option Deadline × CommandId × IdempotencyKey × Digest × Json :=
  (row.jobId, row.ownerSubject, row.deviceId, row.kind, row.effectClass, row.deadlineAt,
    row.commandId, row.idempotencyKey, row.payloadHash, row.payload)

theorem CallMove.identity {row row' : JobRow} {c : Call} (h : CallMove row c row') :
    row'.identity = row.identity := by
  cases h <;> rfl

section

variable {C : Codec} {db db' : Db} {j : JobId} {row : JobRow}

/-- The database still has the row, in a form that the call may give it. -/
def Keeps (j : JobId) (row : JobRow) (c : Call) (db' : Db) : Prop :=
  ∃ row', db'.job? j = some row' ∧ CallMove row c row'

theorem keeps_same {c : Call} (hrow : db.job? j = some row) (hjobs : db'.jobs = db.jobs) :
    Keeps j row c db' := by
  refine ⟨row, ?_, .kept c⟩
  show db'.jobs.get? j = some row
  rw [hjobs]
  exact hrow

/-- One row is rewritten: it is the one in question, or another one. -/
theorem keeps_moved {c : Call} {db1 db2 : Db} {jobId : JobId} {set : JobRow → JobRow}
    (hset : ∀ row, (set row).jobId = row.jobId) {moved : JobRow} (hrow : db.job? j = some row)
    (hmoved : db.job? jobId = some moved) (hjobs : db1.jobs = db.jobs)
    (hjobs2 : db2.jobs = (db1.setJob jobId set hset).jobs)
    (hmove : moved = row → jobId = row.jobId → CallMove row c (set row)) : Keeps j row c db2 := by
  have hmoved1 : db1.job? jobId = some moved := by
    show db1.jobs.get? jobId = some moved
    rw [hjobs]
    exact hmoved
  have hafter : db2.job? j = if j = jobId then some (set moved) else db1.job? j := by
    rw [← setJob_job? hset hmoved1 j]
    show db2.jobs.get? j = _
    rw [hjobs2]
    rfl
  by_cases hj : j = jobId
  · rw [hj, hmoved] at hrow
    cases hrow
    rw [if_pos hj] at hafter
    exact ⟨set row, hafter, hmove rfl (job?_some hmoved).2.symm⟩
  · rw [if_neg hj] at hafter
    refine ⟨row, ?_, .kept c⟩
    rw [hafter]
    show db1.jobs.get? j = some row
    rw [hjobs]
    exact hrow

theorem keeps_created {c : Call} {new : JobRow} (hrow : db.job? j = some row)
    (h : Created db db' new) : Keeps j row c db' := by
  refine ⟨row, ?_, .kept c⟩
  show db'.jobs.get? j = some row
  rw [Table.get?_insert h.1]
  have hfree := (Table.insert_some h.1).2
  have hne : new.jobId ≠ j := by
    rintro rfl
    have hnone : db.job? new.jobId = none := hfree
    rw [hnone] at hrow
    cases hrow
  rw [if_neg hne]
  exact hrow

/-- **A row survives every call**, in one of the forms of `CallMove`. -/
theorem call_row (hrow : db.job? j = some row) (c : Call) : Keeps j row c (c.run C db) := by
  have hsame : Keeps j row c db := ⟨row, hrow, .kept c⟩
  cases c with
  | createJob a =>
      refine committed_rec hsame fun r db' h => ?_
      rcases createJob_ok h with ⟨old, hold, rfl | ⟨fingerprint, rfl⟩⟩ | ⟨_, -, hcreated⟩
      · exact hsame
      · exact keeps_moved (fingerprintSet_jobId fingerprint) hrow hold rfl rfl
          fun _ _ => .fingerprinted a fingerprint
      · exact keeps_created hrow hcreated
  | createActionJob a =>
      refine committed_rec hsame fun r db' h => ?_
      rcases createActionJob_ok h with ⟨hjobs, -⟩ | ⟨_, _, -, hcreated, -⟩
      · exact keeps_same hrow hjobs
      · exact keeps_created hrow hcreated
  | releaseIntent a =>
      refine committed_rec hsame fun r db' h => ?_
      exact keeps_created hrow (releaseIntent_ok h).1
  | claimJob jobId =>
      refine committed_rec hsame fun r db' h => ?_
      rcases claimJob_ok h with ⟨-, rfl⟩ | ⟨old, hold, hqueued, -, rfl⟩
      · exact hsame
      · refine keeps_moved claimSet_jobId hrow hold rfl rfl ?_
        rintro rfl rfl
        exact .claimed rfl hqueued
  | transitionJob jobId a =>
      refine committed_rec hsame fun r db' h => ?_
      rcases transitionJob_ok h with ⟨-, -, rfl⟩ | ⟨old, hold, hvalid, -, hversion, -, rfl⟩
      · exact hsame
      · refine keeps_moved a.set_jobId hrow hold rfl rfl ?_
        rintro rfl rfl
        exact .moved rfl hvalid hversion
  | requestJobCancel jobId expectedVersion now =>
      refine committed_rec hsame fun r db' h => ?_
      rcases requestJobCancel_ok h with ⟨-, rfl, -⟩ |
        ⟨old, target, hold, -, hnone, hversion, htarget, -, -, rfl⟩
      · exact hsame
      · refine keeps_moved (cancelSet_jobId target now) hrow hold rfl rfl ?_
        rintro rfl rfl
        exact .cancelled rfl hnone hversion htarget
  | appendProgress jobId progress expectedVersion =>
      refine committed_rec hsame fun r db' h => ?_
      rcases appendProgress_ok h with rfl | ⟨old, hold, -, -, rfl⟩
      · exact hsame
      · refine keeps_moved (progressSet_jobId progress) hrow hold rfl rfl ?_
        rintro rfl rfl
        exact .progressed rfl
  | finalizeJobResult a snapshot expectedVersion evidence =>
      refine committed_rec hsame fun r db' h => ?_
      rcases finalizeJobResult_ok h with ⟨-, -, rfl⟩ | ⟨old, -, -, -, -, hhook⟩ |
        ⟨old, snapshots, db1, hold, hterminal, hvalid, -, -, hhook, -, rfl⟩
      · exact hsame
      · exact keeps_same hrow (runHook_frame hhook).1
      · refine keeps_moved a.set_jobId hrow hold (runHook_frame hhook).1 rfl ?_
        rintro rfl hid
        exact .finalizedJob hid hterminal hvalid
  | finalizeProgramJob a =>
      refine committed_rec hsame fun r db' h => ?_
      rcases finalizeProgramJob_ok h with ⟨-, -, rfl⟩ | ⟨old, -, -, -, -, hhook⟩ |
        ⟨old, receipts, db1, hold, hvalid, -, -, -, hresult, hhook, -, rfl⟩
      · exact hsame
      · exact keeps_same hrow (runHook_frame hhook).1
      · refine keeps_moved a.set_jobId hrow hold (runHook_frame hhook).1 rfl ?_
        rintro rfl hid
        exact .finalizedProgram hid hvalid hresult
  | releaseWriteLock jobId => exact keeps_same hrow rfl
  | activateSession deviceId sessionId =>
      refine committed_rec hsame fun u db' h => ?_
      obtain ⟨sessions, rfl⟩ := activateSession_frame h
      exact keeps_same hrow rfl
  | closeSession deviceId sessionId =>
      refine committed_rec hsame fun b db' h => ?_
      obtain ⟨sessions, rfl⟩ := closeSession_frame h
      exact keeps_same hrow rfl
  | markSessionsDisconnected => exact keeps_same hrow rfl

end

end AutocadMcp.Gateway
