import AutocadMcp.Workflow.Calls

/-!
# What a workflow repository call can do to a step

Only three operations write the table of steps: a creation inserts the steps of its
run, `create_step` inserts one, and `transition_step` moves one along an edge. A
creation also readies the first step that it has inserted.
-/

namespace AutocadMcp.Workflow

namespace Store

variable {s : Store} {runId : RunId}

theorem step?_some {stepId : StepId} {attempt : Nat} {row : StepRow}
    (h : s.step? runId stepId attempt = some row) :
    row ∈ s.steps.rows ∧ row.key = (runId, stepId, attempt) := Table.get?_some h

theorem step?_of_mem {row : StepRow} (h : row ∈ s.steps.rows) :
    s.step? row.runId row.stepId row.attempt = some row := Table.get?_of_mem h

theorem mem_stepsOf {row : StepRow} :
    row ∈ s.stepsOf runId ↔ row ∈ s.steps.rows ∧ row.runId = runId := by
  simp [stepsOf]

theorem mem_actionsOf {row : ActionRow} :
    row ∈ s.actionsOf runId ↔ row ∈ s.actions.rows ∧ row.runId = runId := by
  simp [actionsOf]

end Store

namespace Call

/-- What a call may do to a step. -/
def Advances (row row' : StepRow) : Call → Prop
  | .transitionStep a =>
      row.key = (a.runId, a.stepId, a.attempt) ∧ row.state = a.expectedState ∧
        row.stateVersion = a.expectedVersion ∧ stepEdge row.state a.target = true ∧
        row' = a.set row
  | .createRun _ => row.state = .pending ∧ row' = row.readied
  | _ => False

/-- The steps that a call may insert. -/
def Adds (row : StepRow) : Call → Prop
  | .createRun a => ∃ specs ∈ a.steps, ∃ spec ∈ specs,
      row = pendingStep a.runId spec ∨ row = (pendingStep a.runId spec).readied
  | .createStep _ runId spec => row = pendingStep runId spec
  | _ => False

end Call

/-- What a call has done to the steps. -/
structure StepChange (s s' : Store) (c : Call) : Prop where
  old : ∀ row ∈ s.steps.rows, ∃ row' ∈ s'.steps.rows,
    row'.key = row.key ∧ (row' = row ∨ c.Advances row row')
  new : ∀ row' ∈ s'.steps.rows,
    (∃ row ∈ s.steps.rows, row'.key = row.key ∧ (row' = row ∨ c.Advances row row')) ∨ c.Adds row'

section

variable {C : Codec} {s s' : Store} {c : Call}

theorem StepChange.same (h : s'.steps = s.steps) : StepChange s s' c where
  old := fun row hrow => ⟨row, h ▸ hrow, rfl, Or.inl rfl⟩
  new := fun row hrow => Or.inl ⟨row, h ▸ hrow, rfl, Or.inl rfl⟩

/-! ## The operations that leave the steps alone -/

theorem appendEvent_steps {runId : RunId} {eventType : String} {payload : Json}
    (h : appendEvent C s runId eventType payload = .ok s') : s'.steps = s.steps := by
  rw [appendEvent_ok h]
  rfl

theorem appendEvents_steps {rows : List (RunId × String × Json)}
    (h : appendEvents C s rows = .ok s') : s'.steps = s.steps := by
  induction rows generalizing s with
  | nil =>
      cases h
      rfl
  | cons row rest ih =>
      obtain ⟨t, hevent, hrest⟩ := bind_eq_ok.mp h
      exact (ih hrest).trans (appendEvent_steps hevent)

theorem resolveWaits_steps {runId : RunId} {reason : String} {waits : List WaitRow}
    (h : resolveWaits C s runId reason waits = .ok s') : s'.steps = s.steps := by
  induction waits generalizing s with
  | nil =>
      cases h
      rfl
  | cons wait rest ih =>
      obtain ⟨_, -, h⟩ := bind_eq_ok.mp h
      obtain ⟨t, hevent, hrest⟩ := bind_eq_ok.mp h
      have hpush := appendEvent_steps hevent
      exact (ih hrest).trans hpush

theorem resolveOpenWaitsSystem_steps {owner : String} {runId : RunId} {reason : String} {n : Nat}
    (h : resolveOpenWaitsSystem C s owner runId reason = .ok (n, s')) : s'.steps = s.steps := by
  obtain ⟨_, -, h⟩ := bind_eq_ok.mp h
  obtain ⟨t, hwaits, h⟩ := bind_eq_ok.mp h
  cases h
  exact resolveWaits_steps hwaits

theorem createWait_steps {a : CreateWait} {r : WaitRow}
    (h : createWait C s a = .ok (r, s')) : s'.steps = s.steps := by
  obtain ⟨run, -, h⟩ := bind_eq_ok.mp h
  obtain ⟨_, -, h⟩ := bind_eq_ok.mp h
  obtain ⟨_, -, h⟩ := bind_eq_ok.mp h
  split at h
  · obtain ⟨_, -, h⟩ := bind_eq_ok.mp h
    cases h
    rfl
  · obtain ⟨_, -, h⟩ := bind_eq_ok.mp h
    split at h
    · cases h
    · obtain ⟨t, hevent, h⟩ := bind_eq_ok.mp h
      cases h
      have hpush := appendEvent_steps hevent
      exact hpush

theorem resolveWait_steps {a : ResolveWait} {r : WaitRow × Bool}
    (h : resolveWait C s a = .ok (r, s')) : s'.steps = s.steps := by
  unfold resolveWait at h
  split at h
  · split at h
    · obtain ⟨_, -, h⟩ := bind_eq_ok.mp h
      cases h
      rfl
    · simp only [bind_eq_ok] at h
      obtain ⟨_, -, _, -, _, -, _, -, t, hevent, h⟩ := h
      cases h
      have hpush := appendEvent_steps hevent
      exact hpush
  · cases h

theorem beginControlCommand_steps {a : BeginControl} {r : CommandRow × Bool}
    (h : beginControlCommand C s a = .ok (r, s')) : s'.steps = s.steps := by
  obtain ⟨_, -, h⟩ := bind_eq_ok.mp h
  obtain ⟨_, -, h⟩ := bind_eq_ok.mp h
  split at h
  · obtain ⟨_, -, h⟩ := bind_eq_ok.mp h
    cases h
    rfl
  · obtain ⟨_, -, h⟩ := bind_eq_ok.mp h
    obtain ⟨_, -, h⟩ := bind_eq_ok.mp h
    split at h
    · cases h
    · obtain ⟨t, hevent, h⟩ := bind_eq_ok.mp h
      cases h
      have hpush := appendEvent_steps hevent
      exact hpush

theorem completeControlCommand_steps {owner idempotencyKey : String} {result : Json}
    {r : CommandRow} (h : completeControlCommand C s owner idempotencyKey result = .ok (r, s')) :
    s'.steps = s.steps := by
  obtain ⟨_, -, h⟩ := bind_eq_ok.mp h
  split at h
  · cases h
  · split at h
    · obtain ⟨_, -, h⟩ := bind_eq_ok.mp h
      cases h
      rfl
    · obtain ⟨_, -, h⟩ := bind_eq_ok.mp h
      obtain ⟨t, hevent, h⟩ := bind_eq_ok.mp h
      cases h
      have hpush := appendEvent_steps hevent
      exact hpush

theorem endRun_steps {owner : String} {runId : RunId} {reason eventType : String}
    {payload : RunRow → Json} {r : RunRow}
    (h : endRun C s owner runId reason eventType payload = .ok (r, s')) : s'.steps = s.steps := by
  unfold endRun at h
  obtain ⟨run, -, h⟩ := bind_eq_ok.mp h
  split at h
  · cases h
    rfl
  · simp only [bind_eq_ok] at h
    obtain ⟨t, hwaits, u, hevent, h⟩ := h
    cases h
    have hpush := appendEvent_steps hevent
    have hresolved := resolveWaits_steps hwaits
    exact Eq.trans hpush hresolved

theorem recoverRun_steps {runId : RunId} {actionId : ActionId}
    (h : recoverRun C s runId actionId = .ok s') : s'.steps = s.steps := by
  rcases recoverRun_ok h with ⟨-, rfl⟩ | ⟨run, -, -, -, rfl⟩
  · rfl
  · rfl

theorem reclaimExpiredActions_steps {now : Instant} {n : Nat}
    (h : reclaimExpiredActions C s now = .ok (n, s')) : s'.steps = s.steps := by
  obtain ⟨t, hevents, h⟩ := bind_eq_ok.mp h
  cases h
  have hpushed := appendEvents_steps hevents
  exact hpushed

/-! ## The operations that write a step -/

theorem addStep_steps {row : StepRow} (h : addStep C s row = .ok s') :
    s.steps.insert row = some s'.steps := by
  obtain ⟨t, hinsert, hevent⟩ := bind_eq_ok.mp h
  unfold insertStep at hinsert
  simp only [bind_eq_ok] at hinsert
  obtain ⟨_, -, _, -, hinsert⟩ := hinsert
  split at hinsert
  · rename_i steps hsteps
    cases hinsert
    rw [hsteps, appendEvent_steps hevent]
  · cases hinsert

/-- The steps of a new run come after the ones that were there. -/
theorem addSteps_steps {runId : RunId} {specs : List StepSpec}
    (h : addSteps C s runId specs = .ok s') :
    s'.steps.rows = s.steps.rows ++ specs.map (pendingStep runId) := by
  induction specs generalizing s with
  | nil =>
      cases h
      simp
  | cons spec rest ih =>
      obtain ⟨t, hstep, hrest⟩ := bind_eq_ok.mp h
      have hrows := (Table.insert_some (addStep_steps hstep)).1
      rw [ih hrest, hrows, List.map_cons, List.append_assoc]
      rfl

theorem transitionStep_ok {a : TransitionStep} {r : StepRow}
    (h : transitionStep C s a = .ok (r, s')) :
    ∃ row, s.step? a.runId a.stepId a.attempt = some row ∧ row.state = a.expectedState ∧
      row.stateVersion = a.expectedVersion ∧ stepEdge row.state a.target = true ∧
      (∃ run, s.getRun a.ownerSubject a.runId = some run) ∧ r = a.set row ∧
      s'.steps = (s.setStep (a.runId, a.stepId, a.attempt) a.set a.set_key).steps := by
  obtain ⟨_, hedge, h⟩ := bind_eq_ok.mp h
  obtain ⟨run, hrun, h⟩ := bind_eq_ok.mp h
  have hget : s.getRun a.ownerSubject a.runId = some run := by
    obtain ⟨hfound, howner⟩ := requireRun_ok hrun
    simp [Store.getRun, hfound, howner]
  split at h
  · cases h
  · rename_i row hrow
    simp only [bind_eq_ok, check_eq_ok] at h
    obtain ⟨_, -, _, ⟨hstate, hversion⟩, _, -, t, hevent, h⟩ := h
    cases h
    refine ⟨row, hrow, hstate, hversion, ?_, ⟨run, hget⟩, rfl, appendEvent_steps hevent⟩
    rw [hstate]
    exact check_eq_ok.mp hedge

/-- The row that a transition has left. -/
theorem transitionStep_leaves {a : TransitionStep} {r : StepRow}
    (h : transitionStep C s a = .ok (r, s')) :
    r ∈ s'.steps.rows ∧ r.runId = a.runId ∧ r.stepId = a.stepId ∧ r.state = a.target := by
  obtain ⟨row, hrow, -, -, -, -, rfl, hsteps⟩ := transitionStep_ok h
  obtain ⟨hmem, hkey⟩ := Store.step?_some hrow
  refine ⟨?_, congrArg Prod.fst hkey, congrArg (fun key => key.2.1) hkey, rfl⟩
  rw [hsteps]
  show _ ∈ (s.steps.modify (a.runId, a.stepId, a.attempt) a.set a.set_key).rows
  rw [Table.mem_modify]
  exact ⟨row, hmem, by rw [if_pos hkey]⟩

/-- One step was set. -/
theorem StepChange.set {t : Store} {key : RunId × StepId × Nat} {f : StepRow → StepRow}
    (hf : ∀ row, (f row).key = row.key) (ht : t.steps = (s.setStep key f hf).steps)
    (hmove : ∀ row ∈ s.steps.rows, row.key = key → c.Advances row (f row)) :
    StepChange s t c := by
  -- every row of the one table has its row in the other
  have hone : ∀ row ∈ s.steps.rows, (if row.key = key then f row else row).key = row.key ∧
      ((if row.key = key then f row else row) = row ∨
        c.Advances row (if row.key = key then f row else row)) := by
    intro row hrow
    by_cases hkey : row.key = key
    · rw [if_pos hkey]
      exact ⟨hf row, Or.inr (hmove row hrow hkey)⟩
    · rw [if_neg hkey]
      exact ⟨rfl, Or.inl rfl⟩
  constructor
  · intro row hrow
    refine ⟨_, ?_, hone row hrow⟩
    rw [ht]
    show _ ∈ (s.steps.modify key f hf).rows
    rw [Table.mem_modify]
    exact ⟨row, hrow, rfl⟩
  · intro row' hrow'
    rw [ht] at hrow'
    have hmem : row' ∈ (s.steps.modify key f hf).rows := hrow'
    rw [Table.mem_modify] at hmem
    obtain ⟨row, hrow, rfl⟩ := hmem
    exact Or.inl ⟨row, hrow, hone row hrow⟩

/-- A creation adds the steps of its run and readies the first of them. -/
theorem startRun_steps {a : CreateRun} {specs : List StepSpec} {firstStepId : StepId}
    (hspecs : a.steps = some specs) (h : startRun C s a.runId specs firstStepId = .ok s') :
    StepChange s s' (.createRun a) := by
  unfold startRun at h
  simp only [bind_eq_ok, check_eq_ok] at h
  obtain ⟨t, hadd, _, ⟨first, hfirst, hpending, -⟩, u, hready, hstarted⟩ := h
  have hrows := addSteps_steps hadd
  have hsteps : s'.steps =
      (t.setStep (a.runId, firstStepId, 1) StepRow.readied StepRow.readied_key).steps := by
    have hset := appendEvent_steps hready
    have hpush := appendEvent_steps hstarted
    exact Eq.trans hpush hset
  have hmove : StepChange t s' (.createRun a) := by
    refine .set StepRow.readied_key hsteps fun row hrow hkey => ⟨?_, rfl⟩
    obtain ⟨hmem, hfirstKey⟩ := Store.step?_some hfirst
    rw [Table.eq_of_key hrow hmem (hkey.trans hfirstKey.symm)]
    exact hpending
  constructor
  · intro row hrow
    exact hmove.old row (by simp [hrows, hrow])
  · intro row' hrow'
    rcases hmove.new row' hrow' with ⟨row, hrow, hkey, hchange⟩ | hadds
    · rw [hrows, List.mem_append, List.mem_map] at hrow
      rcases hrow with hrow | ⟨spec, hspec, rfl⟩
      · exact Or.inl ⟨row, hrow, hkey, hchange⟩
      · refine Or.inr ⟨specs, hspecs, spec, hspec, ?_⟩
        rcases hchange with rfl | ⟨-, rfl⟩
        · exact Or.inl rfl
        · exact Or.inr rfl
    · exact Or.inr hadds

theorem createRun_steps {a : CreateRun} {r : RunRow × Bool}
    (h : createRun C s a = .ok (r, s')) : StepChange s s' (.createRun a) := by
  unfold createRun at h
  simp only [bind_eq_ok] at h
  obtain ⟨_, -, _, -, _, -, _, -, _, -, _, -, h⟩ := h
  split at h
  · unfold replayRun at h
    simp only [bind_eq_ok] at h
    obtain ⟨_, -, _, -, h⟩ := h
    cases h
    exact .same rfl
  · obtain ⟨_, -, h⟩ := bind_eq_ok.mp h
    split at h
    · cases h
    · rename_i runs hruns
      obtain ⟨t, hcreated, h⟩ := bind_eq_ok.mp h
      have ht := appendEvent_steps hcreated
      split at h
      · rename_i specs firstStepId hspecs hfirst
        obtain ⟨u, hstart, h⟩ := bind_eq_ok.mp h
        cases h
        have hchange := startRun_steps hspecs hstart
        constructor
        · intro row hrow
          exact hchange.old row (by rw [ht]; exact hrow)
        · intro row' hrow'
          have hnew := hchange.new row' hrow'
          rw [ht] at hnew
          exact hnew
      · cases h
        exact .same ht

theorem createStep_steps {owner : String} {runId : RunId} {spec : StepSpec} {r : StepRow × Bool}
    (h : createStep C s owner runId spec = .ok (r, s')) :
    StepChange s s' (.createStep owner runId spec) := by
  obtain ⟨_, -, h⟩ := bind_eq_ok.mp h
  split at h
  · obtain ⟨_, -, h⟩ := bind_eq_ok.mp h
    cases h
    exact .same rfl
  · obtain ⟨t, hstep, h⟩ := bind_eq_ok.mp h
    cases h
    have hrows := (Table.insert_some (addStep_steps hstep)).1
    constructor
    · intro row hrow
      exact ⟨row, by simp [hrows, hrow], rfl, Or.inl rfl⟩
    · intro row' hrow'
      rw [hrows, List.mem_append, List.mem_singleton] at hrow'
      rcases hrow' with hrow' | rfl
      · exact Or.inl ⟨row', hrow', rfl, Or.inl rfl⟩
      · exact Or.inr rfl

/-- What a call does to the steps. -/
theorem callStep_steps : StepChange s (callStep C s c) c := by
  cases c <;> refine committed_rec (P := fun t => StepChange s t _) (.same rfl) ?_ <;>
    intro r t h
  case createRun a => exact createRun_steps h
  case transitionRun a =>
    obtain ⟨run, -, -, -, -, -, payload, rfl⟩ := transitionRun_ok h
    exact .same rfl
  case resolveOpenWaits owner runId reason => exact .same (resolveOpenWaitsSystem_steps h)
  case createWait a => exact .same (createWait_steps h)
  case resolveWait a => exact .same (resolveWait_steps h)
  case createStep owner runId spec => exact createStep_steps h
  case transitionStep a =>
    obtain ⟨row, hrow, hstate, hversion, hedge, -, -, hsteps⟩ := transitionStep_ok h
    refine .set a.set_key hsteps fun found hfound hkey => ?_
    obtain ⟨hmem, hown⟩ := Store.step?_some hrow
    rw [Table.eq_of_key hfound hmem (hkey.trans hown.symm)]
    exact ⟨hown, hstate, hversion, hedge, rfl⟩
  case insertAction a =>
    rcases insertAction_ok h with ⟨rfl, -⟩ | ⟨key, actions, payload, -, -, -, -, rfl⟩
    · exact .same rfl
    · exact .same rfl
  case claimAction worker leaseSeconds now =>
    rcases claimAction_ok h with ⟨-, rfl⟩ | ⟨row, -, -, -, rfl⟩
    · exact .same rfl
    · exact .same rfl
  case markDispatchStarted actionId worker now =>
    obtain ⟨row, -, -, ⟨-, -, rfl⟩ | ⟨-, -, rfl⟩⟩ := markDispatchStarted_ok h
    · exact .same rfl
    · exact .same rfl
  case completeAction actionId worker result childRef =>
    obtain ⟨row, -, ⟨-, rfl⟩ | ⟨-, -, payload, rfl⟩⟩ := finishAction_ok h
    · exact .same rfl
    · exact .same rfl
  case failAction actionId worker errorCode =>
    obtain ⟨row, -, ⟨-, rfl⟩ | ⟨-, -, payload, rfl⟩⟩ := finishAction_ok h
    · exact .same rfl
    · exact .same rfl
  case markActionOutcomeUnknown actionId worker errorCode =>
    obtain ⟨row, -, ⟨-, rfl⟩ | ⟨-, -, u, payload, hrecover, rfl⟩⟩ := markActionOutcomeUnknown_ok h
    · exact .same rfl
    · have hsame := recoverRun_steps hrecover
      exact .same hsame
  case reclaimExpiredActions now => exact .same (reclaimExpiredActions_steps h)
  case recordReconciledOutcome actionId outcome =>
    obtain ⟨state, row, -, -, ⟨-, rfl⟩ | ⟨-, payload, rfl⟩⟩ := recordReconciledOutcome_ok h
    · exact .same rfl
    · split
      · exact .same rfl
      · exact .same rfl
  case cancelRun owner runId expectedState expectedVersion =>
    obtain ⟨run, -, -, -, -, -, payload, rfl⟩ := cancelRun_ok h
    exact .same rfl
  case securityRevokeRun owner runId => exact .same (endRun_steps h)
  case markRunNeedsAttention owner runId reason => exact .same (endRun_steps h)
  case beginControlCommand a => exact .same (beginControlCommand_steps h)
  case completeControlCommand owner idempotencyKey result =>
    exact .same (completeControlCommand_steps h)

/-- A succeeded step stays as it is. -/
theorem StepChange.succeeded (h : StepChange s s' c) {row : StepRow} (hrow : row ∈ s.steps.rows)
    (hdone : row.state = .succeeded) : row ∈ s'.steps.rows := by
  obtain ⟨row', hrow', -, rfl | hadvances⟩ := h.old row hrow
  · exact hrow'
  · exfalso
    cases c <;> simp only [Call.Advances] at hadvances
    case transitionStep a =>
      obtain ⟨-, -, -, hedge, -⟩ := hadvances
      rw [hdone] at hedge
      cases hedge
    case createRun a =>
      rw [hdone] at hadvances
      cases hadvances.1

end

end AutocadMcp.Workflow
