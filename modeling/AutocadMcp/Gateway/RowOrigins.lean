import AutocadMcp.Gateway.Runs

/-!
# Where the rows of a run come from

A row of a later database is one of the rows of before under the calls of the step, or it was
created in it. What holds of new rows and is kept by every call holds of all rows of a run.
-/

namespace AutocadMcp.Gateway

/-- A job as its creation leaves it. -/
structure IsNew (row : JobRow) : Prop where
  queued : row.state = .queued
  uncancelled : row.cancelRequestedAt = none

section

variable {C : Codec} {db db' : Db} {j : JobId}

theorem none_of_moved {db1 db2 : Db} {jobId : JobId} {set : JobRow → JobRow}
    (hset : ∀ row, (set row).jobId = row.jobId) {moved : JobRow} (hnone : db.job? j = none)
    (hmoved : db.job? jobId = some moved) (hjobs : db1.jobs = db.jobs)
    (hjobs2 : db2.jobs = (db1.setJob jobId set hset).jobs) : db2.job? j = none := by
  have hmoved1 : db1.job? jobId = some moved := by
    change db1.jobs.get? jobId = some moved
    rw [hjobs]
    exact hmoved
  have hne : j ≠ jobId := by
    rintro rfl
    rw [hmoved] at hnone
    cases hnone
  change db2.jobs.get? j = none
  rw [hjobs2]
  change (db1.setJob jobId set hset).job? j = none
  rw [setJob_job? hset hmoved1 j, if_neg hne]
  change db1.jobs.get? j = none
  rw [hjobs]
  exact hnone

/-- The job is not there, or it is new. -/
def Fresh (j : JobId) (db : Db) : Prop :=
  ∀ row, db.job? j = some row → IsNew row

theorem fresh_of_none (h : db.job? j = none) : Fresh j db := by
  intro row hrow
  rw [h] at hrow
  cases hrow

theorem fresh_of_created {new : JobRow} (hnone : db.job? j = none) (h : Created db db' new)
    (hnew : IsNew new) : Fresh j db' := by
  intro row hrow
  change db'.jobs.get? j = some row at hrow
  rw [Table.get?_insert h.1] at hrow
  split at hrow
  · cases hrow
    exact hnew
  · change db.job? j = some row at hrow
    rw [hnone] at hrow
    cases hrow

/-- A job that was not there before a call is new after it. -/
theorem call_fresh (hnone : db.job? j = none) (c : Call) : Fresh j (c.run C db) := by
  have hsame : Fresh j db := fresh_of_none hnone
  have hkeep : ∀ {db' : Db}, db'.jobs = db.jobs → Fresh j db' := by
    intro db' hjobs
    apply fresh_of_none
    change db'.jobs.get? j = none
    rw [hjobs]
    exact hnone
  cases c with
  | createJob a =>
      refine committed_rec hsame fun r db' h => ?_
      rcases createJob_ok h with ⟨old, hold, rfl | ⟨fingerprint, rfl⟩⟩ | ⟨_, -, hcreated⟩
      · exact hsame
      · exact fresh_of_none (none_of_moved (fingerprintSet_jobId fingerprint) hnone hold rfl rfl)
      · exact fresh_of_created hnone hcreated ⟨rfl, rfl⟩
  | createActionJob a =>
      refine committed_rec hsame fun r db' h => ?_
      rcases createActionJob_ok h with ⟨hjobs, -⟩ | ⟨_, _, rfl, hcreated, -⟩
      · exact hkeep hjobs
      · exact fresh_of_created hnone hcreated ⟨rfl, rfl⟩
  | releaseIntent a =>
      refine committed_rec hsame fun r db' h => ?_
      exact fresh_of_created hnone (releaseIntent_ok h).1 ⟨rfl, rfl⟩
  | claimJob jobId =>
      refine committed_rec hsame fun r db' h => ?_
      rcases claimJob_ok h with ⟨-, rfl⟩ | ⟨old, hold, -, -, rfl⟩
      · exact hsame
      · exact fresh_of_none (none_of_moved claimSet_jobId hnone hold rfl rfl)
  | transitionJob jobId a =>
      refine committed_rec hsame fun r db' h => ?_
      rcases transitionJob_ok h with ⟨-, -, rfl⟩ | ⟨old, hold, -, -, -, -, rfl⟩
      · exact hsame
      · exact fresh_of_none (none_of_moved a.set_jobId hnone hold rfl rfl)
  | requestJobCancel jobId expectedVersion now =>
      refine committed_rec hsame fun r db' h => ?_
      rcases requestJobCancel_ok h with ⟨-, rfl, -⟩ | ⟨old, target, hold, -, -, -, -, -, -, rfl⟩
      · exact hsame
      · exact fresh_of_none (none_of_moved (cancelSet_jobId target now) hnone hold rfl rfl)
  | appendProgress jobId progress expectedVersion =>
      refine committed_rec hsame fun r db' h => ?_
      rcases appendProgress_ok h with rfl | ⟨old, hold, -, -, rfl⟩
      · exact hsame
      · exact fresh_of_none (none_of_moved (progressSet_jobId progress) hnone hold rfl rfl)
  | finalizeJobResult a snapshot expectedVersion evidence =>
      refine committed_rec hsame fun r db' h => ?_
      rcases finalizeJobResult_ok h with ⟨-, -, rfl⟩ | ⟨old, -, -, -, -, hhook⟩ |
        ⟨old, snapshots, db1, hold, -, -, -, -, hhook, -, rfl⟩
      · exact hsame
      · exact hkeep (runHook_frame hhook).1
      · exact fresh_of_none (none_of_moved a.set_jobId hnone hold (runHook_frame hhook).1 rfl)
  | finalizeProgramJob a =>
      refine committed_rec hsame fun r db' h => ?_
      rcases finalizeProgramJob_ok h with ⟨-, -, rfl⟩ | ⟨old, -, -, -, -, hhook⟩ |
        ⟨old, receipts, db1, hold, -, -, -, -, -, hhook, -, rfl⟩
      · exact hsame
      · exact hkeep (runHook_frame hhook).1
      · exact fresh_of_none (none_of_moved a.set_jobId hnone hold (runHook_frame hhook).1 rfl)
  | releaseWriteLock jobId => exact hkeep rfl
  | activateSession deviceId sessionId =>
      refine committed_rec hsame fun u db' h => ?_
      obtain ⟨sessions, rfl⟩ := activateSession_frame h
      exact hkeep rfl
  | closeSession deviceId sessionId =>
      refine committed_rec hsame fun b db' h => ?_
      obtain ⟨sessions, rfl⟩ := closeSession_frame h
      exact hkeep rfl
  | markSessionsDisconnected => exact hkeep rfl

end

/-! ## Steps -/

/-- A call that the step may issue rewrites the row. -/
def Moves (cfg : Config) (w : World) (e : Event) (row row' : JobRow) : Prop :=
  ∃ g c, Allowed cfg w e g (.call c) ∧ g.db.job? row.jobId = some row ∧ CallMove row c row'

section

variable {cfg : Config} {w : World} {e : Event} {g : GatewayState} {R : JobRow → JobRow → Prop}
  {j : JobId}

/-- A row after an action was there before it, or it is new. -/
theorem action_origin {C : Codec} {k : Action} {row' : JobRow}
    (hrow' : (k.run C g).db.job? j = some row') :
    (∃ row, g.db.job? j = some row ∧ (row' = row ∨
      ∃ c, k = .call c ∧ g.db.job? row.jobId = some row ∧ CallMove row c row')) ∨
      g.db.job? j = none ∧ IsNew row' := by
  cases k with
  | send message => exact Or.inl ⟨row', hrow', Or.inl rfl⟩
  | register registry => exact Or.inl ⟨row', hrow', Or.inl rfl⟩
  | enrol device => exact Or.inl ⟨row', hrow', Or.inl rfl⟩
  | call c =>
      rcases hj : g.db.job? j with _ | row
      · exact Or.inr ⟨rfl, call_fresh hj c row' hrow'⟩
      · obtain ⟨next, hnext, hmove⟩ := call_row (C := C) hj c
        have hsame : some next = some row' := hnext.symm.trans hrow'
        cases hsame
        have hid : row.jobId = j := (job?_some hj).2
        exact Or.inl ⟨row, rfl, Or.inr ⟨c, rfl, by rw [hid]; exact hj, hmove⟩⟩

theorem action_keeps {k : Action} {row : JobRow} (hrow : g.db.job? j = some row) :
    ∃ row', (k.run cfg.codec g).db.job? j = some row' := by
  cases k with
  | send message => exact ⟨row, hrow⟩
  | register registry => exact ⟨row, hrow⟩
  | enrol device => exact ⟨row, hrow⟩
  | call c =>
      obtain ⟨next, hnext, -⟩ := call_row (C := cfg.codec) hrow c
      exact ⟨next, hnext⟩

/-- What is known of the rows of a job along a step: it is not lost, and its row comes from the one
of before, or from a new one where there was none. -/
structure Origin (w : World) (j : JobId) (R : JobRow → JobRow → Prop) (g : GatewayState) : Prop where
  kept : ∀ row, w.gateway.db.job? j = some row → ∃ row', g.db.job? j = some row'
  origin : ∀ row', g.db.job? j = some row' →
    (∃ row, w.gateway.db.job? j = some row ∧ R row row') ∨
      w.gateway.db.job? j = none ∧ ∃ new, IsNew new ∧ R new row'

/-- A row after a chain of actions comes from a row of before, or from a new one, by what relates
the ends of every call. -/
theorem reach_origin {A : GatewayState → Action → Prop} {g' : GatewayState}
    (hreach : Eff.Reach (Action.run cfg.codec) A w.gateway g') (hrefl : ∀ row, R row row)
    (htrans : ∀ x y z, R x y → R y z → R x z)
    (hmoves : ∀ g c row row', A g (.call c) → g.db.job? row.jobId = some row →
      CallMove row c row' → R row row') : Origin w j R g' := by
  refine hreach.invariant (Origin w j R) ?_
    ⟨fun row hrow => ⟨row, hrow⟩, fun row hrow => Or.inl ⟨row, hrow, hrefl row⟩⟩
  intro g k h hallowed
  refine ⟨fun row hrow => ?_, fun row' hrow' => ?_⟩
  · obtain ⟨row', hrow'⟩ := h.kept row hrow
    exact action_keeps hrow'
  · rcases action_origin hrow' with ⟨row, hrow, hmove⟩ | ⟨hnone, hnew⟩
    · have hR : R row row' := by
        rcases hmove with rfl | ⟨c, rfl, hcurrent, hmove⟩
        · exact hrefl row'
        · exact hmoves g c row row' hallowed hcurrent hmove
      rcases h.origin row hrow with ⟨first, hfirst, hto⟩ | ⟨hnone, new, hnew, hto⟩
      · exact Or.inl ⟨first, hfirst, htrans first row row' hto hR⟩
      · exact Or.inr ⟨hnone, new, hnew, htrans new row row' hto hR⟩
    · refine Or.inr ⟨?_, row', hnew, hrefl row'⟩
      rcases hj : w.gateway.db.job? j with _ | row
      · rfl
      · obtain ⟨row, hrow⟩ := h.kept row hj
        rw [hnone] at hrow
        cases hrow

/-- **A row after a step** comes from a row of before, or from a new one, by what relates the ends
of every call. -/
theorem step_origin (hrefl : ∀ row, R row row) (htrans : ∀ x y z, R x y → R y z → R x z)
    (hmoves : ∀ row row', Moves cfg w e row row' → R row row') :
    Origin w j R (World.step cfg w e).gateway :=
  reach_origin (step_reaches cfg w e) hrefl htrans fun g c row row' hallowed hrow hmove =>
    hmoves row row' ⟨g, c, hallowed, hrow, hmove⟩

end

end AutocadMcp.Gateway
