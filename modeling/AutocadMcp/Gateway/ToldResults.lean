import AutocadMcp.Gateway.ProvenResults

/-!
# A job succeeds on a message that says so

A job becomes succeeded in one way only: a message is handled for it that reports a success. Which
of the message types it is, and on which path it comes, makes no difference.
-/

namespace AutocadMcp.Gateway

section

variable {cfg : Config} {w : World} {e : Event} {env : Env} {g : GatewayState}
  {K : JobId → Reason → Prop} {Rep : JobRow → Outcome → Prop} {row row' : JobRow}

/-- A stored success is a reported success. -/
theorem storedOf_target {job : JobRow} {o : Outcome}
    (h : (storedOf cfg job o).target = .succeeded) : o.target = .succeeded := by
  unfold storedOf at h
  split at h
  · next htarget => exact htarget
  · cases h
  · cases h
  · exact h

/-- The row keeps its identity, and succeeds on an outcome that is reported for it. -/
structure SucceedsOn (Rep : JobRow → Outcome → Prop) (row row' : JobRow) : Prop where
  identity : row'.identity = row.identity
  reported : row'.state = .succeeded → row.state = .succeeded ∨
    ∃ job o, job.identity = row'.identity ∧ Rep job o ∧ o.target = .succeeded

namespace SucceedsOn

theorem refl (row : JobRow) : SucceedsOn Rep row row := ⟨rfl, Or.inl⟩

theorem trans {x y z : JobRow} (h : SucceedsOn Rep x y) (h' : SucceedsOn Rep y z) :
    SucceedsOn Rep x z := by
  refine ⟨h'.identity.trans h.identity, fun hz => ?_⟩
  rcases h'.reported hz with hy | hreported
  · rcases h.reported hy with hx | ⟨job, o, hjob, hrep, htarget⟩
    · exact Or.inl hx
    · exact Or.inr ⟨job, o, hjob.trans h'.identity.symm, hrep, htarget⟩
  · exact Or.inr hreported

theorem of_target (hidentity : row'.identity = row.identity) (hstate : row'.state ≠ .succeeded) :
    SucceedsOn Rep row row' := ⟨hidentity, fun h => absurd h hstate⟩

theorem of_state (hidentity : row'.identity = row.identity) (hstate : row'.state = row.state) :
    SucceedsOn Rep row row' := ⟨hidentity, fun h => Or.inl (hstate.symm.trans h)⟩

theorem of_outcome {job : JobRow} {o : Outcome} (hrep : Rep job o)
    (hidentity : row'.identity = row.identity) (hjob : job.identity = row'.identity)
    (hstate : row'.state = (storedOf cfg job o).target) : SucceedsOn Rep row row' :=
  ⟨hidentity, fun h => Or.inr ⟨job, o, hjob, hrep, storedOf_target (hstate.symm.trans h)⟩⟩

end SucceedsOn

theorem issued_succeedsOn {c : Call} (h : Issued cfg env Held K Rep g (.call c))
    (hrow : g.db.job? row.jobId = some row) (hmove : CallMove row c row') :
    SucceedsOn Rep row row' := by
  cases h with
  | move reason hreason hread hallows =>
      cases hmove with
      | kept => exact .refl row
      | moved hid _ _ =>
          obtain rfl := held_eq hrow hread hid
          exact .of_target rfl (allows_not_succeeded hallows)
  | claim hreason hread hqueued =>
      cases hmove with
      | kept => exact .refl row
      | claimed hid _ => exact .of_target rfl nofun
  | cancel hreason hread =>
      cases hmove with
      | kept => exact .refl row
      | cancelled hid _ _ htarget => exact .of_target rfl (cancelTarget_not_succeeded htarget)
  | progress hreason =>
      cases hmove with
      | kept => exact .refl row
      | progressed _ => exact .of_state rfl rfl
  | sessions hreason =>
      cases hmove
      exact .refl row
  | release hinactive =>
      cases hmove
      exact .refl row
  | releaseSettled hreason hsettled =>
      cases hmove
      exact .refl row
  | finalizeProgram hread hkind hrep hhook =>
      cases hmove with
      | kept => exact .refl row
      | finalizedProgram hid _ _ =>
          obtain rfl := held_eq hrow hread hid
          exact .of_outcome hrep rfl rfl rfl
  | finalizeRollback hread hkind hrep hhook =>
      cases hmove with
      | kept => exact .refl row
      | finalizedJob hid _ _ =>
          obtain rfl := held_eq hrow hread hid
          exact .of_outcome hrep rfl rfl rfl
  | finalizeOther hread hkind hrep =>
      cases hmove with
      | kept => exact .refl row
      | finalizedJob hid _ _ =>
          obtain rfl := held_eq hrow hread hid
          exact .of_outcome hrep rfl rfl rfl

/-! ## Steps -/

/-- A step that handles a message is a chain of what the message's handler issues. -/
theorem handled_reaches {m : AgentMessage} {job : JobRow}
    (hhandled : handled? cfg w e = some (m, job)) :
    ∃ env, Eff.Reach (Action.run cfg.codec)
      (Issued cfg env Held (e.Gives cfg w) fun job' o => job' = job ∧ Told m job o) w.gateway
      (World.step cfg w e).gateway := by
  obtain ⟨env, sessionId, connection, rfl, hendpoint, hcurrent, hvalid, haddressed⟩ :=
    handled?_some hhandled
  refine ⟨env, ?_⟩
  unfold World.step
  dsimp only
  rw [hendpoint]
  dsimp only
  unfold World.receive
  rw [if_pos ⟨hcurrent, hvalid⟩]
  refine (handleMessage_issues (fun _ _ h => h) ?_ ?_ ?_).reach
  · intro job' hjob' hmismatch hopen
    have hrow := (getJobByCommand_some (Option.filter_eq_some_iff.mp hjob').1).1
    rw [Option.mem_def, haddressed] at hjob'
    cases hjob'
    exact ⟨m, job, hhandled, rfl, Or.inl ⟨rfl, hmismatch, hopen job hrow⟩⟩
  · intro job' hjob' r hanswers
    rw [Option.mem_def, haddressed] at hjob'
    cases hjob'
    exact ⟨m, job, hhandled, rfl, Or.inr hanswers⟩
  · intro job' hjob' o htold
    rw [Option.mem_def, haddressed] at hjob'
    cases hjob'
    exact ⟨rfl, htold⟩

/-- What a success of the step rests on: a message that reports it. -/
def ReportsSuccess (cfg : Config) (w : World) (e : Event) (job : JobRow) (_ : Outcome) : Prop :=
  ∃ m, handled? cfg w e = some (m, job) ∧ reportedStatus m = some .succeeded ∧
    mismatches m job = false

theorem SucceedsOn.weaken {Rep' : JobRow → Outcome → Prop} (h : SucceedsOn Rep row row')
    (hrep : ∀ job o, Rep job o → o.target = .succeeded → Rep' job o) :
    SucceedsOn Rep' row row' := by
  refine ⟨h.identity, fun hsucceeded => ?_⟩
  rcases h.reported hsucceeded with hbefore | ⟨job, o, hjob, hreported, htarget⟩
  · exact Or.inl hbefore
  · exact Or.inr ⟨job, o, hjob, hrep job o hreported htarget, htarget⟩

/-- **A row after a step** is succeeded if it was, or if a message was handled for its job that
reports a success. -/
theorem step_succeedsOn (cfg : Config) (w : World) (e : Event) (j : JobId) :
    Origin w j (SucceedsOn (ReportsSuccess cfg w e)) (World.step cfg w e).gateway := by
  rcases hhandled : handled? cfg w e with _ | ⟨m, job⟩
  · refine step_origin .refl (fun _ _ _ => .trans) ?_
    rintro row row' ⟨g, c, hallowed, hrow, hmove⟩
    cases hallowed with
    | handled henv hissued =>
        apply (issued_succeedsOn hissued hrow hmove).weaken
        rintro job o ⟨m, hsome, -⟩
        rw [hhandled] at hsome
        cases hsome
    | create hcreation =>
        cases hmove with
        | kept => exact .refl row
        | fingerprinted a fingerprint => exact .of_state rfl rfl
        | _ => cases e <;> cases hcreation
    | activate deviceId sessionId =>
        cases hmove
        exact .refl row
    | close deviceId sessionId =>
        cases hmove
        exact .refl row
  · obtain ⟨env, hreach⟩ := handled_reaches hhandled
    refine reach_origin hreach .refl (fun _ _ _ => .trans) ?_
    intro g c row row' hissued hrow hmove
    apply (issued_succeedsOn hissued hrow hmove).weaken
    rintro job' o ⟨rfl, htold⟩ htarget
    obtain ⟨status, hstatus, hsame⟩ := htold.status
    rw [hsame] at htarget
    rw [targetOf_succeeded htarget] at hstatus
    exact ⟨m, hhandled, hstatus, htold.reported.not_mismatches⟩

end

end AutocadMcp.Gateway
