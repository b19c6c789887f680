import AutocadMcp.Workflow.Repository

/-!
# What a workflow repository call can do

One inversion lemma for each operation that writes a run or an action: what must
have held for it to commit and the tables it leaves. The other operations are
`Quiet`. `Call` collects the operations, and `Call.Moves` and `Call.Rewrites`
say what each of them may do to a run and to an action.
-/

namespace AutocadMcp.Workflow

/-! ## Frames -/

namespace Store

variable {s : Store} {runId : RunId} {actionId : ActionId}

section

variable {set : RunRow → RunRow} (hset : ∀ row, (set row).runId = row.runId)

@[simp] theorem setRun_actions : (s.setRun runId set hset).actions = s.actions := rfl

@[simp] theorem setRun_events : (s.setRun runId set hset).events = s.events := rfl

@[simp] theorem setRun_run? (id : RunId) :
    (s.setRun runId set hset).run? id =
      if id = runId then (s.run? id).map set else s.run? id := by
  show (s.runs.modify runId set hset).get? id = _
  rw [Table.get?_modify]
  rfl

end

section

variable {set : ActionRow → ActionRow} (hset : ∀ row, (set row).actionId = row.actionId)

@[simp] theorem setAction_runs : (s.setAction actionId set hset).runs = s.runs := rfl

@[simp] theorem setAction_events : (s.setAction actionId set hset).events = s.events := rfl

@[simp] theorem setAction_action? (id : ActionId) :
    (s.setAction actionId set hset).action? id =
      if id = actionId then (s.action? id).map set else s.action? id := by
  show (s.actions.modify actionId set hset).get? id = _
  rw [Table.get?_modify]
  rfl

@[simp] theorem setActions_runs : (s.setActions set hset).runs = s.runs := rfl

@[simp] theorem setActions_events : (s.setActions set hset).events = s.events := rfl

@[simp] theorem setActions_action? (id : ActionId) :
    (s.setActions set hset).action? id = (s.action? id).map set := by
  show (s.actions.mapRows set hset).get? id = _
  rw [Table.get?_mapRows]
  rfl

end

theorem run?_of_runs {t : Store} (h : t.runs = s.runs) (id : RunId) : t.run? id = s.run? id := by
  unfold run?
  rw [h]

theorem action?_of_actions {t : Store} (h : t.actions = s.actions) (id : ActionId) :
    t.action? id = s.action? id := by
  unfold action?
  rw [h]

theorem pushEvent_prefix (eventType : String) (payload : Json) :
    s.events <+: (s.pushEvent runId eventType payload).events :=
  ⟨_, rfl⟩

end Store

/-- Neither a run nor an action was written, and no event was lost. -/
structure Quiet (s s' : Store) : Prop where
  runs : s'.runs = s.runs
  actions : s'.actions = s.actions
  events : s.events <+: s'.events

namespace Quiet

variable {s t u : Store}

theorem refl (s : Store) : Quiet s s := ⟨rfl, rfl, List.prefix_rfl⟩

theorem trans (h : Quiet s t) (h' : Quiet t u) : Quiet s u :=
  ⟨h'.runs.trans h.runs, h'.actions.trans h.actions, h.events.trans h'.events⟩

theorem run? (h : Quiet s t) (id : RunId) : t.run? id = s.run? id :=
  Store.run?_of_runs h.runs id

theorem action? (h : Quiet s t) (id : ActionId) : t.action? id = s.action? id :=
  Store.action?_of_actions h.actions id

end Quiet

/-! ## One lemma for each operation -/

section

variable {C : Codec} {s s' : Store}

theorem requireRun_ok {owner : String} {runId : RunId} {run : RunRow}
    (h : requireRun s owner runId = .ok run) :
    s.run? runId = some run ∧ run.ownerSubject = owner := by
  unfold requireRun at h
  cases hrun : s.getRun owner runId with
  | none =>
      rw [hrun] at h
      cases h
  | some found =>
      rw [hrun] at h
      cases h
      exact Store.getRun_some hrun

theorem requireAction_ok {actionId : ActionId} {row : ActionRow}
    (h : requireAction s actionId = .ok row) : s.action? actionId = some row := by
  unfold requireAction at h
  cases hrow : s.action? actionId with
  | none =>
      rw [hrow] at h
      cases h
  | some found =>
      rw [hrow] at h
      cases h
      rfl

theorem appendEvent_ok {runId : RunId} {eventType : String} {payload : Json}
    (h : appendEvent C s runId eventType payload = .ok s') :
    s' = s.pushEvent runId eventType payload := by
  obtain ⟨_, -, h⟩ := bind_eq_ok.mp h
  cases h
  rfl

theorem appendEvent_encodes {runId : RunId} {eventType : String} {payload : Json}
    (h : appendEvent C s runId eventType payload = .ok s') :
    encode C eventLimit payload = .ok () := by
  obtain ⟨_, hencode, -⟩ := bind_eq_ok.mp h
  exact hencode

theorem appendEvent_quiet {runId : RunId} {eventType : String} {payload : Json}
    (h : appendEvent C s runId eventType payload = .ok s') : Quiet s s' := by
  cases appendEvent_ok h
  exact ⟨rfl, rfl, Store.pushEvent_prefix eventType payload⟩

theorem appendEvents_quiet {rows : List (RunId × String × Json)}
    (h : appendEvents C s rows = .ok s') : Quiet s s' := by
  induction rows generalizing s with
  | nil =>
      cases h
      exact Quiet.refl _
  | cons row rest ih =>
      obtain ⟨t, hevent, hrest⟩ := bind_eq_ok.mp h
      exact (appendEvent_quiet hevent).trans (ih hrest)

theorem resolveWaits_quiet {runId : RunId} {reason : String} {waits : List WaitRow}
    (h : resolveWaits C s runId reason waits = .ok s') : Quiet s s' := by
  induction waits generalizing s with
  | nil =>
      cases h
      exact Quiet.refl _
  | cons wait rest ih =>
      obtain ⟨_, -, h⟩ := bind_eq_ok.mp h
      obtain ⟨t, hevent, hrest⟩ := bind_eq_ok.mp h
      have hset : Quiet s t := by
        have hpush := appendEvent_quiet hevent
        exact ⟨hpush.runs, hpush.actions, hpush.events⟩
      exact hset.trans (ih hrest)

theorem resolveOpenWaits_quiet {runId : RunId} {reason : String}
    (h : resolveOpenWaits C s runId reason = .ok s') : Quiet s s' :=
  resolveWaits_quiet h

theorem resolveOpenWaitsSystem_quiet {owner : String} {runId : RunId} {reason : String} {n : Nat}
    (h : resolveOpenWaitsSystem C s owner runId reason = .ok (n, s')) : Quiet s s' := by
  obtain ⟨_, -, h⟩ := bind_eq_ok.mp h
  obtain ⟨t, hwaits, h⟩ := bind_eq_ok.mp h
  cases h
  exact resolveOpenWaits_quiet hwaits

theorem createWait_quiet {a : CreateWait} {r : WaitRow}
    (h : createWait C s a = .ok (r, s')) : Quiet s s' := by
  obtain ⟨run, -, h⟩ := bind_eq_ok.mp h
  obtain ⟨_, -, h⟩ := bind_eq_ok.mp h
  obtain ⟨_, -, h⟩ := bind_eq_ok.mp h
  split at h
  · obtain ⟨_, -, h⟩ := bind_eq_ok.mp h
    cases h
    exact Quiet.refl _
  · obtain ⟨_, -, h⟩ := bind_eq_ok.mp h
    split at h
    · cases h
    · obtain ⟨t, hevent, h⟩ := bind_eq_ok.mp h
      cases h
      have hpush := appendEvent_quiet hevent
      exact ⟨hpush.runs, hpush.actions, hpush.events⟩

theorem resolveWait_quiet {a : ResolveWait} {r : WaitRow × Bool}
    (h : resolveWait C s a = .ok (r, s')) : Quiet s s' := by
  unfold resolveWait at h
  split at h
  · split at h
    · obtain ⟨_, -, h⟩ := bind_eq_ok.mp h
      cases h
      exact Quiet.refl _
    · simp only [bind_eq_ok] at h
      obtain ⟨_, -, _, -, _, -, _, -, t, hevent, h⟩ := h
      cases h
      have hpush := appendEvent_quiet hevent
      exact ⟨hpush.runs, hpush.actions, hpush.events⟩
  · cases h

theorem addStep_quiet {row : StepRow} (h : addStep C s row = .ok s') : Quiet s s' := by
  obtain ⟨t, hinsert, hevent⟩ := bind_eq_ok.mp h
  have hstep : Quiet s t := by
    unfold insertStep at hinsert
    simp only [bind_eq_ok] at hinsert
    obtain ⟨_, -, _, -, hinsert⟩ := hinsert
    split at hinsert
    · cases hinsert
      exact ⟨rfl, rfl, List.prefix_rfl⟩
    · cases hinsert
  exact hstep.trans (appendEvent_quiet hevent)

theorem addSteps_quiet {runId : RunId} {specs : List StepSpec}
    (h : addSteps C s runId specs = .ok s') : Quiet s s' := by
  induction specs generalizing s with
  | nil =>
      cases h
      exact Quiet.refl _
  | cons spec rest ih =>
      obtain ⟨t, hstep, hrest⟩ := bind_eq_ok.mp h
      exact (addStep_quiet hstep).trans (ih hrest)

theorem createStep_quiet {owner : String} {runId : RunId} {spec : StepSpec} {r : StepRow × Bool}
    (h : createStep C s owner runId spec = .ok (r, s')) : Quiet s s' := by
  obtain ⟨_, -, h⟩ := bind_eq_ok.mp h
  split at h
  · obtain ⟨_, -, h⟩ := bind_eq_ok.mp h
    cases h
    exact Quiet.refl _
  · obtain ⟨t, hstep, h⟩ := bind_eq_ok.mp h
    cases h
    exact addStep_quiet hstep

theorem transitionStep_quiet {a : TransitionStep} {r : StepRow}
    (h : transitionStep C s a = .ok (r, s')) : Quiet s s' := by
  obtain ⟨_, -, h⟩ := bind_eq_ok.mp h
  obtain ⟨_, -, h⟩ := bind_eq_ok.mp h
  split at h
  · cases h
  · simp only [bind_eq_ok] at h
    obtain ⟨_, -, _, -, _, -, t, hevent, h⟩ := h
    cases h
    have hpush := appendEvent_quiet hevent
    exact ⟨hpush.runs, hpush.actions, hpush.events⟩

theorem beginControlCommand_quiet {a : BeginControl} {r : CommandRow × Bool}
    (h : beginControlCommand C s a = .ok (r, s')) : Quiet s s' := by
  obtain ⟨_, -, h⟩ := bind_eq_ok.mp h
  obtain ⟨_, -, h⟩ := bind_eq_ok.mp h
  split at h
  · obtain ⟨_, -, h⟩ := bind_eq_ok.mp h
    cases h
    exact Quiet.refl _
  · obtain ⟨_, -, h⟩ := bind_eq_ok.mp h
    obtain ⟨_, -, h⟩ := bind_eq_ok.mp h
    split at h
    · cases h
    · obtain ⟨t, hevent, h⟩ := bind_eq_ok.mp h
      cases h
      have hpush := appendEvent_quiet hevent
      exact ⟨hpush.runs, hpush.actions, hpush.events⟩

theorem completeControlCommand_quiet {owner idempotencyKey : String} {result : Json}
    {r : CommandRow} (h : completeControlCommand C s owner idempotencyKey result = .ok (r, s')) :
    Quiet s s' := by
  obtain ⟨_, -, h⟩ := bind_eq_ok.mp h
  split at h
  · cases h
  · split at h
    · obtain ⟨_, -, h⟩ := bind_eq_ok.mp h
      cases h
      exact Quiet.refl _
    · obtain ⟨_, -, h⟩ := bind_eq_ok.mp h
      obtain ⟨t, hevent, h⟩ := bind_eq_ok.mp h
      cases h
      have hpush := appendEvent_quiet hevent
      exact ⟨hpush.runs, hpush.actions, hpush.events⟩

/-! ### Runs -/

theorem transitionRun_ok {a : TransitionRun} {r : RunRow}
    (h : transitionRun C s a = .ok (r, s')) :
    ∃ run, s.run? a.runId = some run ∧ isTerminalRun run.state = false ∧
      run.state = a.expectedState ∧ run.stateVersion = a.expectedVersion ∧
      runEdge run.state a.target = true ∧ ∃ payload,
      s' = (s.setRun a.runId (RunRow.movedTo a.target a.currentStepId)
        (RunRow.movedTo_runId a.target a.currentStepId)).pushEvent a.runId a.eventType payload := by
  unfold transitionRun requireFresh at h
  simp only [bind_eq_ok, check_eq_ok] at h
  obtain ⟨run, hrun, _, hlive, _, ⟨hstate, hversion⟩, _, hedge, t, hevent, h⟩ := h
  cases h
  refine ⟨run, (requireRun_ok hrun).1, hlive, hstate, hversion, ?_, _, appendEvent_ok hevent⟩
  rw [hstate]
  exact hedge

/-- The run of a creation that is not a repeat: its steps, if any, move it on in the same
transaction. -/
theorem startRun_ok {runId : RunId} {steps : List StepSpec} {firstStepId : StepId}
    (h : startRun C s runId steps firstStepId = .ok s') :
    ∃ t payload, Quiet s t ∧
      s' = (t.setRun runId
        (fun row => { row with
          state := .running, stateVersion := 1, currentStepId := firstStepId })
        (fun _ => rfl)).pushEvent runId "started" payload := by
  unfold startRun at h
  simp only [bind_eq_ok] at h
  obtain ⟨t, hsteps, _, -, u, hready, hstarted⟩ := h
  have hpush := appendEvent_quiet hready
  have hquiet : Quiet t u := ⟨hpush.runs, hpush.actions, hpush.events⟩
  exact ⟨u, _, (addSteps_quiet hsteps).trans hquiet, appendEvent_ok hstarted⟩

/-- The row that a creation inserts, and the one it leaves. -/
structure Created (s s' : Store) (row : RunRow) : Prop where
  fresh : s.run? row.runId = none
  runs : ∀ id, s'.run? id = if id = row.runId then some row else s.run? id
  actions : s'.actions = s.actions
  initial : row.state = .created ∧ row.stateVersion = 0 ∨
    row.state = .running ∧ row.stateVersion = 1
  events : ∃ sequence payload rest,
    s'.events = s.events ++ ⟨row.runId, sequence, "created", payload⟩ :: rest ∧
    (row.state = .running → ∃ e ∈ rest, e.runId = row.runId ∧ e.eventType = "started")

theorem createRun_ok {a : CreateRun} {r : RunRow × Bool} (h : createRun C s a = .ok (r, s')) :
    (s' = s ∧ r.2 = true ∧ r.1 ∈ s.runs.rows) ∨
      ∃ row, row.runId = a.runId ∧ Created s s' row := by
  unfold createRun at h
  simp only [bind_eq_ok] at h
  obtain ⟨_, -, _, -, _, -, _, -, _, -, _, -, h⟩ := h
  split at h
  · rename_i existing hfound
    unfold replayRun at h
    simp only [bind_eq_ok] at h
    obtain ⟨_, -, _, -, h⟩ := h
    cases h
    exact Or.inl ⟨rfl, rfl, List.mem_of_find?_eq_some hfound⟩
  · obtain ⟨_, -, h⟩ := bind_eq_ok.mp h
    split at h
    · cases h
    · rename_i runs hruns
      obtain ⟨t, hcreated, h⟩ := bind_eq_ok.mp h
      obtain ⟨-, hfresh⟩ := Table.insert_some hruns
      have hlookup := Table.get?_insert hruns
      have ht := appendEvent_ok hcreated
      have hrun : ∀ id, t.run? id =
          if id = a.runId then some (a.row (C.digest a.request)) else s.run? id := by
        intro id
        rw [ht]
        show runs.get? id = _
        rw [hlookup id]
        by_cases hid : id = a.runId
        · simp [hid, CreateRun.row]
        · have hne : a.runId ≠ id := fun heq => hid heq.symm
          simp [hid, hne, CreateRun.row, Store.run?]
      have hevents : t.events = s.events ++
          [⟨a.runId, s.nextSequence a.runId, "created", .obj [("state", .str "created")]⟩] := by
        rw [ht]
        rfl
      split at h
      · rename_i steps firstStepId hsteps hfirst
        obtain ⟨v, hstart, h⟩ := bind_eq_ok.mp h
        cases h
        obtain ⟨u, payload, hquiet, hv⟩ := startRun_ok hstart
        refine Or.inr ⟨{ a.row (C.digest a.request) with
          state := .running, stateVersion := 1, currentStepId := firstStepId }, rfl, ?_⟩
        obtain ⟨new, hnew⟩ := hquiet.events
        refine ⟨hfresh, ?_, ?_, Or.inr ⟨rfl, rfl⟩, ?_⟩
        · intro id
          rw [hv, Store.run?_of_runs Store.pushEvent_runs, Store.setRun_run?, hquiet.run? id,
            hrun id]
          by_cases hid : id = a.runId
          · simp [hid, CreateRun.row]
          · simp [hid, CreateRun.row]
        · rw [hv]
          show u.actions = s.actions
          rw [hquiet.actions, ht]
          rfl
        · obtain ⟨n, hlast⟩ : ∃ n, s'.events = u.events ++ [⟨a.runId, n, "started", payload⟩] := by
            rw [hv]
            exact ⟨_, rfl⟩
          refine ⟨s.nextSequence a.runId, .obj [("state", .str "created")],
            new ++ [⟨a.runId, n, "started", payload⟩], ?_, ?_⟩
          · rw [hlast, ← hnew, hevents]
            simp only [List.append_assoc, List.singleton_append]
            rfl
          · intro _
            exact ⟨_, List.mem_append_right _ (List.mem_singleton_self _), rfl, rfl⟩
      · cases h
        refine Or.inr ⟨a.row (C.digest a.request), rfl, hfresh, hrun, ?_, Or.inl ⟨rfl, rfl⟩, ?_⟩
        · rw [ht]
          rfl
        · refine ⟨_, _, [], hevents, ?_⟩
          intro hrunning
          cases hrunning

theorem cancelRun_ok {owner : String} {runId : RunId} {expectedState : RunState}
    {expectedVersion : Nat} {r : RunRow}
    (h : cancelRun C s owner runId expectedState expectedVersion = .ok (r, s')) :
    ∃ run, s.getRun owner runId = some run ∧ isTerminalRun run.state = false ∧
      run.state = expectedState ∧ run.stateVersion = expectedVersion ∧
      (s.startedWrite runId = false → runEdge run.state .cancelled = true) ∧ ∃ payload,
      s' = (cancelActions (s.setRun runId (RunRow.moved (s.cancelTarget runId))
        (RunRow.moved_runId (s.cancelTarget runId))) runId).pushEvent runId "cancel_requested"
          payload := by
  unfold cancelRun requireFresh at h
  simp only [bind_eq_ok, check_eq_ok] at h
  obtain ⟨run, hrun, _, ⟨hstate, hversion⟩, _, hlive, h⟩ := h
  have hget : s.getRun owner runId = some run := by
    obtain ⟨hfound, howner⟩ := requireRun_ok hrun
    simp [Store.getRun, hfound, howner]
  refine ⟨run, hget, hlive, hstate, hversion, ?_, ?_⟩
  · intro hnone
    have htarget : s.cancelTarget runId = .cancelled := by simp [Store.cancelTarget, hnone]
    rw [if_pos htarget, bind_eq_ok] at h
    obtain ⟨_, hvalid, -⟩ := h
    rw [hstate, ← htarget]
    exact check_eq_ok.mp hvalid
  · split at h
    · obtain ⟨_, -, h⟩ := bind_eq_ok.mp h
      obtain ⟨t, hevent, h⟩ := bind_eq_ok.mp h
      cases h
      exact ⟨_, appendEvent_ok hevent⟩
    · obtain ⟨t, hevent, h⟩ := bind_eq_ok.mp h
      cases h
      exact ⟨_, appendEvent_ok hevent⟩

theorem endRun_ok {owner : String} {runId : RunId} {reason eventType : String}
    {payload : RunRow → Json} {r : RunRow}
    (h : endRun C s owner runId reason eventType payload = .ok (r, s')) :
    ∃ run, s.getRun owner runId = some run ∧
      ((isTerminalRun run.state = true ∧ s' = s) ∨
        isTerminalRun run.state = false ∧ ∃ t, Quiet (cancelActions s runId) t ∧
          s' = (t.setRun runId (RunRow.moved .needsAttention)
            (RunRow.moved_runId .needsAttention)).pushEvent runId eventType (payload run)) := by
  unfold endRun at h
  obtain ⟨run, hrun, h⟩ := bind_eq_ok.mp h
  have hget : s.getRun owner runId = some run := by
    obtain ⟨hfound, howner⟩ := requireRun_ok hrun
    simp [Store.getRun, hfound, howner]
  refine ⟨run, hget, ?_⟩
  split at h
  · rename_i hdone
    cases h
    exact Or.inl ⟨hdone, rfl⟩
  · rename_i hlive
    simp only [bind_eq_ok] at h
    obtain ⟨t, hwaits, u, hevent, h⟩ := h
    cases h
    exact Or.inr ⟨by simpa using hlive, t, resolveOpenWaits_quiet hwaits, appendEvent_ok hevent⟩

/-! ### Actions -/

theorem insertAction_ok {a : InsertAction} {r : ActionRow × Bool}
    (h : insertAction C s a = .ok (r, s')) :
    (s' = s ∧ r.2 = true ∧ s.action? a.actionId = some r.1) ∨
      ∃ key actions payload, a.childKey = .ok key ∧ (∃ run, s.run? a.runId = some run) ∧
        s.actions.insert (a.row key) = some actions ∧ r = (a.row key, false) ∧
        s' = ({ s with actions := actions } : Store).pushEvent a.runId "action_inserted"
          payload := by
  unfold insertAction at h
  simp only [bind_eq_ok] at h
  obtain ⟨key, hkey, _, -, run, hrun, h⟩ := h
  split at h
  · rename_i old hold
    obtain ⟨_, -, h⟩ := bind_eq_ok.mp h
    cases h
    exact Or.inl ⟨rfl, rfl, hold⟩
  · obtain ⟨_, -, h⟩ := bind_eq_ok.mp h
    split at h
    · cases h
    · rename_i actions hactions
      obtain ⟨t, hevent, h⟩ := bind_eq_ok.mp h
      cases h
      exact Or.inr ⟨key, actions, _, hkey, ⟨run, (requireRun_ok hrun).1⟩, hactions, rfl,
        appendEvent_ok hevent⟩

theorem nextClaim_some {now : Instant} {row : ActionRow} (h : s.nextClaim now = some row) :
    s.action? row.actionId = some row ∧ row.claimable now = true ∧
      ∃ run, s.run? row.runId = some run ∧ run.state = .running := by
  have hmem := List.mem_of_find?_eq_some h
  have hcond := List.find?_some h
  simp only [Bool.and_eq_true, Option.any_eq_true, decide_eq_true_eq] at hcond
  obtain ⟨⟨run, hrun, hrunning⟩, hclaim⟩ := hcond
  exact ⟨Table.get?_of_mem hmem, hclaim, run, hrun, hrunning⟩

theorem claimAction_ok {worker : String} {leaseSeconds : Nat} {now : Instant}
    {r : Option ActionRow} (h : claimAction C s worker leaseSeconds now = .ok (r, s')) :
    (r = none ∧ s' = s) ∨
      ∃ row, s.nextClaim now = some row ∧ r = some (row.claimedBy worker (now + leaseSeconds)) ∧
        encode C eventLimit (actionPayload row.actionId) = .ok () ∧
        s' = (s.setAction row.actionId (ActionRow.claimedBy worker (now + leaseSeconds))
          (ActionRow.claimedBy_actionId worker (now + leaseSeconds))).pushEvent row.runId
            "action_claimed" (actionPayload row.actionId) := by
  unfold claimAction at h
  obtain ⟨_, -, h⟩ := bind_eq_ok.mp h
  split at h
  · cases h
    exact Or.inl ⟨rfl, rfl⟩
  · rename_i row hnext
    obtain ⟨t, hevent, h⟩ := bind_eq_ok.mp h
    cases h
    exact Or.inr ⟨row, hnext, rfl, appendEvent_encodes hevent, appendEvent_ok hevent⟩

theorem markDispatchStarted_ok {actionId : ActionId} {worker : String} {now : Instant}
    {r : ActionRow} (h : markDispatchStarted C s actionId worker now = .ok (r, s')) :
    ∃ row, s.action? actionId = some row ∧ row.leaseOwner = some worker ∧
      ((row.state = .started ∧ r = row ∧ s' = s) ∨
        row.state = .claimed ∧ r = row.startedAt now ∧
          s' = (s.setAction actionId (ActionRow.startedAt now)
            (ActionRow.startedAt_actionId now)).pushEvent row.runId "action_dispatch_started"
              (actionPayload actionId)) := by
  unfold markDispatchStarted at h
  obtain ⟨row, hrow, h⟩ := bind_eq_ok.mp h
  split at h
  · rename_i hstarted
    obtain ⟨_, howner, h⟩ := bind_eq_ok.mp h
    cases h
    exact ⟨_, requireAction_ok hrow, check_eq_ok.mp howner, Or.inl ⟨hstarted, rfl, rfl⟩⟩
  · simp only [bind_eq_ok, check_eq_ok] at h
    obtain ⟨_, ⟨hclaimed, howner⟩, _, -, t, hevent, h⟩ := h
    cases h
    exact ⟨row, requireAction_ok hrow, howner, Or.inr ⟨hclaimed, rfl, appendEvent_ok hevent⟩⟩

theorem finishAction_ok {actionId : ActionId} {worker : String} {a : Finish} {r : ActionRow}
    (h : finishAction C s actionId worker a = .ok (r, s')) :
    ∃ row, s.action? actionId = some row ∧
      ((row.state = .completed ∨ row.state = .failed) ∧ s' = s ∨
        (row.state = .claimed ∨ row.state = .started) ∧ row.leaseOwner = some worker ∧
          ∃ payload, s' = (s.setAction actionId a.set a.set_actionId).pushEvent row.runId
            ("action_" ++ a.state.name) payload) := by
  unfold finishAction at h
  obtain ⟨row, hrow, h⟩ := bind_eq_ok.mp h
  refine ⟨row, requireAction_ok hrow, ?_⟩
  split at h
  · rename_i hdone
    obtain ⟨_, -, h⟩ := bind_eq_ok.mp h
    cases h
    exact Or.inl ⟨hdone, rfl⟩
  · simp only [bind_eq_ok, check_eq_ok] at h
    obtain ⟨_, ⟨hheld, howner⟩, _, -, _, -, t, hevent, h⟩ := h
    cases h
    exact Or.inr ⟨hheld, howner, _, appendEvent_ok hevent⟩

theorem recoverRun_ok {runId : RunId} {actionId : ActionId}
    (h : recoverRun C s runId actionId = .ok s') :
    ((∀ run, s.run? runId = some run → isTerminalRun run.state = true) ∧ s' = s) ∨
      ∃ run, s.run? runId = some run ∧ isTerminalRun run.state = false ∧
        runEdge run.state .waitingForRecovery = true ∧
        s' = (s.setRun runId (RunRow.moved .waitingForRecovery)
          (RunRow.moved_runId .waitingForRecovery)).pushEvent runId "waiting_for_recovery"
            (actionPayload actionId) := by
  unfold recoverRun at h
  split at h
  · rename_i hnone
    cases h
    refine Or.inl ⟨?_, rfl⟩
    intro run hrun
    simpa [hrun, Option.filter_eq_none_iff] using hnone
  · rename_i run hrun
    obtain ⟨hfound, hlive⟩ := Option.filter_eq_some_iff.mp hrun
    obtain ⟨_, hedge, hevent⟩ := bind_eq_ok.mp h
    exact Or.inr ⟨run, hfound, by simpa using hlive, check_eq_ok.mp hedge, appendEvent_ok hevent⟩

theorem markActionOutcomeUnknown_ok {actionId : ActionId} {worker errorCode : String}
    {r : ActionRow} (h : markActionOutcomeUnknown C s actionId worker errorCode = .ok (r, s')) :
    ∃ row, s.action? actionId = some row ∧
      ((row.state = .completed ∨ row.state = .failed ∨ row.state = .outcomeUnknown) ∧ s' = s ∨
        row.state = .started ∧ row.leaseOwner = some worker ∧ ∃ t payload,
          recoverRun C (s.setAction actionId (ActionRow.outcomeUnknown errorCode)
            (ActionRow.outcomeUnknown_actionId errorCode)) row.runId actionId = .ok t ∧
          s' = t.pushEvent row.runId "action_outcome_unknown" payload) := by
  unfold markActionOutcomeUnknown at h
  obtain ⟨row, hrow, h⟩ := bind_eq_ok.mp h
  refine ⟨row, requireAction_ok hrow, ?_⟩
  split at h
  · rename_i hdone
    cases h
    exact Or.inl ⟨hdone, rfl⟩
  · simp only [bind_eq_ok, check_eq_ok] at h
    obtain ⟨_, ⟨hstarted, howner⟩, t, hrecover, u, hevent, h⟩ := h
    cases h
    exact Or.inr ⟨hstarted, howner, t, _, hrecover, appendEvent_ok hevent⟩

theorem reclaimExpiredActions_ok {now : Instant} {n : Nat}
    (h : reclaimExpiredActions C s now = .ok (n, s')) :
    Quiet (s.setActions (ActionRow.reclaimed now) (ActionRow.reclaimed_actionId now)) s' := by
  obtain ⟨t, hevents, h⟩ := bind_eq_ok.mp h
  cases h
  exact appendEvents_quiet hevents

theorem recordReconciledOutcome_ok {actionId : ActionId} {o : ReconcileOutcome} {r : ActionRow}
    (h : recordReconciledOutcome C s actionId o = .ok (r, s')) :
    ∃ state row, o.state = some state ∧ s.action? actionId = some row ∧
      (¬ (row.state = .started ∨ row.state = .outcomeUnknown) ∧ s' = s ∨
        (row.state = .started ∨ row.state = .outcomeUnknown) ∧ ∃ payload,
          s' = ((if state = .failed ∨ state = .needsAttention then
              (s.setAction actionId (o.set state) (o.set_actionId state)).setRun row.runId
                RunRow.attended RunRow.attended_runId
            else s.setAction actionId (o.set state) (o.set_actionId state)) : Store).pushEvent
              row.runId "action_reconciled" payload) := by
  unfold recordReconciledOutcome at h
  split at h
  · cases h
  · rename_i state hstate
    obtain ⟨_, -, h⟩ := bind_eq_ok.mp h
    obtain ⟨row, hrow, h⟩ := bind_eq_ok.mp h
    refine ⟨state, row, hstate, requireAction_ok hrow, ?_⟩
    split at h
    · rename_i hopen
      simp only [bind_eq_ok] at h
      obtain ⟨_, -, _, -, t, hevent, h⟩ := h
      cases h
      exact Or.inr ⟨hopen, _, appendEvent_ok hevent⟩
    · rename_i hclosed
      cases h
      exact Or.inl ⟨hclosed, rfl⟩

end

/-! ## All calls -/

/-- A call of the repository that writes. -/
inductive Call where
  | createRun (a : CreateRun)
  | transitionRun (a : TransitionRun)
  | resolveOpenWaits (owner : String) (runId : RunId) (reason : String)
  | createWait (a : CreateWait)
  | resolveWait (a : ResolveWait)
  | createStep (owner : String) (runId : RunId) (spec : StepSpec)
  | transitionStep (a : TransitionStep)
  | insertAction (a : InsertAction)
  | claimAction (worker : String) (leaseSeconds : Nat) (now : Instant)
  | markDispatchStarted (actionId : ActionId) (worker : String) (now : Instant)
  | completeAction (actionId : ActionId) (worker : String) (result childRef : Json)
  | failAction (actionId : ActionId) (worker errorCode : String)
  | markActionOutcomeUnknown (actionId : ActionId) (worker errorCode : String)
  | reclaimExpiredActions (now : Instant)
  | recordReconciledOutcome (actionId : ActionId) (outcome : ReconcileOutcome)
  | cancelRun (owner : String) (runId : RunId) (expectedState : RunState) (expectedVersion : Nat)
  | securityRevokeRun (owner : String) (runId : RunId)
  | markRunNeedsAttention (owner : String) (runId : RunId) (reason : String)
  | beginControlCommand (a : BeginControl)
  | completeControlCommand (owner idempotencyKey : String) (result : Json)

/-- The tables after a call. -/
def callStep (C : Codec) (s : Store) : Call → Store
  | .createRun a => committed s (createRun C s a)
  | .transitionRun a => committed s (transitionRun C s a)
  | .resolveOpenWaits owner runId reason =>
      committed s (resolveOpenWaitsSystem C s owner runId reason)
  | .createWait a => committed s (createWait C s a)
  | .resolveWait a => committed s (resolveWait C s a)
  | .createStep owner runId spec => committed s (createStep C s owner runId spec)
  | .transitionStep a => committed s (transitionStep C s a)
  | .insertAction a => committed s (insertAction C s a)
  | .claimAction worker leaseSeconds now => committed s (claimAction C s worker leaseSeconds now)
  | .markDispatchStarted actionId worker now =>
      committed s (markDispatchStarted C s actionId worker now)
  | .completeAction actionId worker result childRef =>
      committed s (finishAction C s actionId worker (completed result childRef))
  | .failAction actionId worker errorCode =>
      committed s (finishAction C s actionId worker (failed errorCode))
  | .markActionOutcomeUnknown actionId worker errorCode =>
      committed s (markActionOutcomeUnknown C s actionId worker errorCode)
  | .reclaimExpiredActions now => committed s (reclaimExpiredActions C s now)
  | .recordReconciledOutcome actionId outcome =>
      committed s (recordReconciledOutcome C s actionId outcome)
  | .cancelRun owner runId expectedState expectedVersion =>
      committed s (cancelRun C s owner runId expectedState expectedVersion)
  | .securityRevokeRun owner runId => committed s (securityRevokeRun C s owner runId)
  | .markRunNeedsAttention owner runId reason =>
      committed s (markRunNeedsAttention C s owner runId reason)
  | .beginControlCommand a => committed s (beginControlCommand C s a)
  | .completeControlCommand owner idempotencyKey result =>
      committed s (completeControlCommand C s owner idempotencyKey result)

namespace Call

/-- What a call may do to the state of a run that is not terminal. -/
def Moves (s : Store) (run : RunRow) (target : RunState) : Call → Prop
  | .transitionRun a => a.runId = run.runId ∧ a.target = target ∧ runEdge run.state target = true
  | .markActionOutcomeUnknown .. =>
      target = .waitingForRecovery ∧ runEdge run.state target = true
  | .recordReconciledOutcome actionId outcome =>
      target = .needsAttention ∧
        (outcome.state = some .failed ∨ outcome.state = some .needsAttention) ∧
        ∃ row, s.action? actionId = some row ∧ row.runId = run.runId ∧
          (row.state = .started ∨ row.state = .outcomeUnknown)
  | .cancelRun owner runId expectedState expectedVersion =>
      s.getRun owner runId = some run ∧ run.state = expectedState ∧
        run.stateVersion = expectedVersion ∧ target = s.cancelTarget runId ∧
        (s.startedWrite runId = false → runEdge run.state target = true)
  | .securityRevokeRun owner runId => s.getRun owner runId = some run ∧ target = .needsAttention
  | .markRunNeedsAttention owner runId _ =>
      s.getRun owner runId = some run ∧ target = .needsAttention
  | _ => False

/-- What a call may do to an action. -/
def Rewrites (s : Store) (row row' : ActionRow) : Call → Prop
  | .claimAction worker leaseSeconds now =>
      s.nextClaim now = some row ∧ row' = row.claimedBy worker (now + leaseSeconds)
  | .markDispatchStarted actionId worker now =>
      actionId = row.actionId ∧ row.state = .claimed ∧ row.leaseOwner = some worker ∧
        row' = row.startedAt now
  | .completeAction actionId worker result childRef =>
      actionId = row.actionId ∧ (row.state = .claimed ∨ row.state = .started) ∧
        row.leaseOwner = some worker ∧ row' = (completed result childRef).set row
  | .failAction actionId worker errorCode =>
      actionId = row.actionId ∧ (row.state = .claimed ∨ row.state = .started) ∧
        row.leaseOwner = some worker ∧ row' = (failed errorCode).set row
  | .markActionOutcomeUnknown actionId worker errorCode =>
      actionId = row.actionId ∧ row.state = .started ∧ row.leaseOwner = some worker ∧
        row' = row.outcomeUnknown errorCode
  | .reclaimExpiredActions now => row.reclaimable now = true ∧ row' = row.reclaimed now
  | .recordReconciledOutcome actionId outcome =>
      actionId = row.actionId ∧ (row.state = .started ∨ row.state = .outcomeUnknown) ∧
        ∃ state, outcome.state = some state ∧ row' = outcome.set state row
  | .cancelRun _ runId _ _ | .securityRevokeRun _ runId | .markRunNeedsAttention _ runId _ =>
      row.runId = runId ∧ (row.state = .pending ∨ row.state = .claimed) ∧
        row' = row.cancelledFor runId
  | _ => False

end Call

/-- An event of the run was appended. -/
def Reported (s s' : Store) (runId : RunId) : Prop :=
  ∃ new, s'.events = s.events ++ new ∧ ∃ e ∈ new, e.runId = runId

/-- What a call has done to the runs. -/
inductive RunChange (s s' : Store) (c : Call) : Prop where
  | same (hruns : ∀ id, s'.run? id = s.run? id)
  | created (row : RunRow) (hcreated : Created s s' row)
  | moved (run : RunRow) (target : RunState) (stepId : Option StepId)
      (hrun : s.run? run.runId = some run) (hlive : isTerminalRun run.state = false)
      (hmoves : c.Moves s run target)
      (hruns : ∀ id, s'.run? id =
        if id = run.runId then some (run.movedTo target stepId) else s.run? id)
      (hevent : Reported s s' run.runId)

/-- What a call has done to the actions. -/
structure ActionChange (s s' : Store) (c : Call) : Prop where
  old : ∀ id row, s.action? id = some row →
    ∃ row', s'.action? id = some row' ∧ (row' = row ∨ c.Rewrites s row row')
  new : ∀ id row', s'.action? id = some row' → s.action? id = none →
    ∃ a key, c = .insertAction a ∧ a.childKey = .ok key ∧ row' = a.row key ∧
      ∃ run, s.run? a.runId = some run

section

variable {C : Codec} {s s' : Store} {c : Call}

theorem Quiet.runChange (h : Quiet s s') : RunChange s s' c := .same h.run?

theorem ActionChange.same (h : s'.actions = s.actions) : ActionChange s s' c where
  old := fun id row hrow => ⟨row, by rw [Store.action?_of_actions h, hrow], Or.inl rfl⟩
  new := fun id row' hrow hnone => by
    rw [Store.action?_of_actions h, hnone] at hrow
    cases hrow

/-- One row was rewritten. -/
theorem ActionChange.one {row row' : ActionRow} (hrow : s.action? row.actionId = some row)
    (hactions : ∀ id, s'.action? id = if id = row.actionId then some row' else s.action? id)
    (hrewrites : c.Rewrites s row row') : ActionChange s s' c where
  old := fun id found hfound => by
    rw [hactions id]
    by_cases hid : id = row.actionId
    · have hsame : found = row := by
        rw [hid, hrow] at hfound
        exact (Option.some.inj hfound).symm
      rw [if_pos hid, hsame]
      exact ⟨row', rfl, Or.inr hrewrites⟩
    · rw [if_neg hid]
      exact ⟨found, hfound, Or.inl rfl⟩
  new := fun id found hfound hnone => by
    rw [hactions id] at hfound
    by_cases hid : id = row.actionId
    · rw [hid, hrow] at hnone
      cases hnone
    · rw [if_neg hid, hnone] at hfound
      cases hfound

/-- Every row was mapped. -/
theorem ActionChange.mapped {f : ActionRow → ActionRow}
    (hactions : ∀ id, s'.action? id = (s.action? id).map f)
    (hrewrites : ∀ row, s.action? row.actionId = some row →
      f row = row ∨ c.Rewrites s row (f row)) :
    ActionChange s s' c where
  old := fun id row hrow => by
    refine ⟨f row, by rw [hactions id, hrow, Option.map_some], hrewrites row ?_⟩
    rw [(Store.action?_some hrow).2]
    exact hrow
  new := fun id row' hrow hnone => by
    rw [hactions id, hnone] at hrow
    cases hrow

theorem reported_of_push {t : Store} {runId : RunId} {eventType : String} {payload : Json}
    (h : s.events <+: t.events) : Reported s (t.pushEvent runId eventType payload) runId := by
  obtain ⟨new, hnew⟩ := h
  refine ⟨new ++ [⟨runId, t.nextSequence runId, eventType, payload⟩], ?_, _,
    List.mem_append_right _ (List.mem_singleton_self _), rfl⟩
  show t.events ++ _ = _
  rw [← hnew, List.append_assoc]

/-- One run was moved on. -/
theorem RunChange.move {t : Store} {run : RunRow} {target : RunState} {stepId : Option StepId}
    {runId : RunId} {set : RunRow → RunRow} {hset : ∀ row, (set row).runId = row.runId}
    {eventType : String} {payload : Json} (hrun : s.run? runId = some run)
    (hlive : isTerminalRun run.state = false) (hmoves : c.Moves s run target)
    (hrow : set run = run.movedTo target stepId) (hruns : ∀ id, t.run? id = s.run? id)
    (hevents : s.events <+: t.events) :
    RunChange s ((t.setRun runId set hset).pushEvent runId eventType payload) c := by
  have hid := (Store.run?_some hrun).2
  refine .moved run target stepId (by rw [hid]; exact hrun) hlive hmoves ?_ ?_
  · intro id
    rw [Store.run?_of_runs Store.pushEvent_runs, Store.setRun_run?, hruns id, hid]
    by_cases hsame : id = runId
    · rw [if_pos hsame, if_pos hsame, hsame, hrun, Option.map_some, hrow]
    · rw [if_neg hsame, if_neg hsame]
  · rw [hid]
    exact reported_of_push hevents

theorem endRun_runs {owner : String} {runId : RunId} {reason eventType : String}
    {payload : RunRow → Json} {r : RunRow}
    (hmoves : ∀ run, s.getRun owner runId = some run → c.Moves s run .needsAttention)
    (h : endRun C s owner runId reason eventType payload = .ok (r, s')) : RunChange s s' c := by
  obtain ⟨run, hrun, ⟨-, rfl⟩ | ⟨hlive, t, hquiet, rfl⟩⟩ := endRun_ok h
  · exact .same fun _ => rfl
  · exact .move (Store.getRun_some hrun).1 hlive (hmoves run hrun)
      (rfl : _ = run.movedTo .needsAttention run.currentStepId) hquiet.run? hquiet.events

theorem recoverRun_runs {t : Store} {runId : RunId} {actionId : ActionId}
    (h : recoverRun C t runId actionId = .ok s')
    (hmoves : ∀ run, runEdge run.state .waitingForRecovery = true →
      c.Moves s run .waitingForRecovery)
    (ht : ∀ id, t.run? id = s.run? id) (hevents : s.events <+: t.events) : RunChange s s' c := by
  rcases recoverRun_ok h with ⟨-, rfl⟩ | ⟨run, hrun, hlive, hedge, rfl⟩
  · exact .same ht
  · rw [ht] at hrun
    exact .move hrun hlive (hmoves run hedge)
      (rfl : _ = run.movedTo .waitingForRecovery run.currentStepId) ht hevents

theorem RunChange.push {t : Store} {runId : RunId} {eventType : String} {payload : Json}
    (h : RunChange s t c) : RunChange s (t.pushEvent runId eventType payload) c := by
  cases h with
  | same hruns => exact .same hruns
  | created row hcreated =>
      obtain ⟨hfresh, hruns, hactions, hinitial, sequence, p, rest, hevents, hstarted⟩ := hcreated
      refine .created row ⟨hfresh, hruns, hactions, hinitial, sequence, p,
        rest ++ [⟨runId, t.nextSequence runId, eventType, payload⟩], ?_, ?_⟩
      · show t.events ++ _ = _
        rw [hevents]
        simp
      · intro hrunning
        obtain ⟨e, he, hrun, htype⟩ := hstarted hrunning
        exact ⟨e, List.mem_append_left _ he, hrun, htype⟩
  | moved run target stepId hrun hlive hmoves hruns hevent =>
      obtain ⟨new, hnew, e, he, hid⟩ := hevent
      refine .moved run target stepId hrun hlive hmoves hruns
        ⟨new ++ [⟨runId, t.nextSequence runId, eventType, payload⟩], ?_, e,
          List.mem_append_left _ he, hid⟩
      show t.events ++ _ = _
      rw [hnew, List.append_assoc]

theorem reconciled_runs {actionId : ActionId} {outcome : ReconcileOutcome} {r : ActionRow}
    (h : recordReconciledOutcome C s actionId outcome = .ok (r, s')) :
    RunChange s s' (.recordReconciledOutcome actionId outcome) := by
  obtain ⟨state, row, hstate, hrow, ⟨-, rfl⟩ | ⟨hopen, payload, rfl⟩⟩ :=
    recordReconciledOutcome_ok h
  · exact .same fun _ => rfl
  · by_cases hends : state = .failed ∨ state = .needsAttention
    · rw [if_pos hends]
      by_cases hlive : ∃ run, s.run? row.runId = some run ∧ isTerminalRun run.state = false
      · obtain ⟨run, hrun, hlive⟩ := hlive
        have hset : run.attended = run.movedTo .needsAttention run.currentStepId := by
          simp [RunRow.attended, hlive, RunRow.movedTo, RunRow.moved]
        refine .move hrun hlive ⟨rfl, ?_, row, hrow, (Store.run?_some hrun).2.symm, hopen⟩ hset
          (fun _ => rfl) List.prefix_rfl
        rw [hstate]
        exact hends.imp (congrArg some) (congrArg some)
      · refine .same fun id => ?_
        rw [Store.run?_of_runs Store.pushEvent_runs, Store.setRun_run?]
        by_cases hid : id = row.runId
        · rw [if_pos hid, hid]
          cases hrun : s.run? row.runId with
          | none => exact congrArg (Option.map RunRow.attended) hrun
          | some run =>
              have hdone : isTerminalRun run.state = true := by
                by_contra hopen
                exact hlive ⟨run, hrun, by simpa using hopen⟩
              show (s.run? row.runId).map RunRow.attended = _
              rw [hrun, Option.map_some, RunRow.attended, if_pos hdone]
        · rw [if_neg hid]
          rfl
    · rw [if_neg hends]
      exact .same fun _ => rfl

/-- What a call does to the runs. -/
theorem callStep_runs : RunChange s (callStep C s c) c := by
  cases c <;> refine committed_rec (P := fun t => RunChange s t _) (.same fun _ => rfl) ?_ <;>
    intro r t h
  case createRun a =>
    rcases createRun_ok h with ⟨rfl, -⟩ | ⟨row, -, hcreated⟩
    · exact .same fun _ => rfl
    · exact .created row hcreated
  case transitionRun a =>
    obtain ⟨run, hrun, hlive, -, -, hedge, payload, rfl⟩ := transitionRun_ok h
    exact .move hrun hlive ⟨(Store.run?_some hrun).2.symm, rfl, hedge⟩ rfl (fun _ => rfl)
      List.prefix_rfl
  case resolveOpenWaits owner runId reason => exact (resolveOpenWaitsSystem_quiet h).runChange
  case createWait a => exact (createWait_quiet h).runChange
  case resolveWait a => exact (resolveWait_quiet h).runChange
  case createStep owner runId spec => exact (createStep_quiet h).runChange
  case transitionStep a => exact (transitionStep_quiet h).runChange
  case insertAction a =>
    rcases insertAction_ok h with ⟨rfl, -⟩ | ⟨key, actions, payload, -, -, -, -, rfl⟩
    · exact .same fun _ => rfl
    · exact .same fun _ => rfl
  case claimAction worker leaseSeconds now =>
    rcases claimAction_ok h with ⟨-, rfl⟩ | ⟨row, -, -, -, rfl⟩
    · exact .same fun _ => rfl
    · exact .same fun _ => rfl
  case markDispatchStarted actionId worker now =>
    obtain ⟨row, -, -, ⟨-, -, rfl⟩ | ⟨-, -, rfl⟩⟩ := markDispatchStarted_ok h
    · exact .same fun _ => rfl
    · exact .same fun _ => rfl
  case completeAction actionId worker result childRef =>
    obtain ⟨row, -, ⟨-, rfl⟩ | ⟨-, -, payload, rfl⟩⟩ := finishAction_ok h
    · exact .same fun _ => rfl
    · exact .same fun _ => rfl
  case failAction actionId worker errorCode =>
    obtain ⟨row, -, ⟨-, rfl⟩ | ⟨-, -, payload, rfl⟩⟩ := finishAction_ok h
    · exact .same fun _ => rfl
    · exact .same fun _ => rfl
  case markActionOutcomeUnknown actionId worker errorCode =>
    obtain ⟨row, -, ⟨-, rfl⟩ | ⟨-, -, u, payload, hrecover, rfl⟩⟩ := markActionOutcomeUnknown_ok h
    · exact .same fun _ => rfl
    · have hmoves : ∀ run, runEdge run.state .waitingForRecovery = true →
          Call.Moves s run .waitingForRecovery
            (.markActionOutcomeUnknown actionId worker errorCode) := fun run hedge => ⟨rfl, hedge⟩
      exact (recoverRun_runs hrecover hmoves (fun _ => rfl) List.prefix_rfl).push
  case reclaimExpiredActions now =>
    have hquiet := reclaimExpiredActions_ok h
    exact .same fun id => hquiet.run? id
  case recordReconciledOutcome actionId outcome => exact reconciled_runs h
  case cancelRun owner runId expectedState expectedVersion =>
    obtain ⟨run, hrun, hlive, hstate, hversion, hedge, payload, rfl⟩ := cancelRun_ok h
    have hmoves : Call.Moves s run (s.cancelTarget runId)
        (.cancelRun owner runId expectedState expectedVersion) := by
      refine ⟨hrun, hstate, hversion, rfl, fun hnone => ?_⟩
      rw [Store.cancelTarget, hnone]
      exact hedge hnone
    show RunChange s (((cancelActions s runId).setRun runId (RunRow.moved (s.cancelTarget runId))
      (RunRow.moved_runId (s.cancelTarget runId))).pushEvent runId "cancel_requested" payload) _
    exact .move (Store.getRun_some hrun).1 hlive hmoves
      (rfl : _ = run.movedTo (s.cancelTarget runId) run.currentStepId) (fun _ => rfl)
      List.prefix_rfl
  case securityRevokeRun owner runId => exact endRun_runs (fun run hrun => ⟨hrun, rfl⟩) h
  case markRunNeedsAttention owner runId reason => exact endRun_runs (fun run hrun => ⟨hrun, rfl⟩) h
  case beginControlCommand a => exact (beginControlCommand_quiet h).runChange
  case completeControlCommand owner idempotencyKey result =>
    exact (completeControlCommand_quiet h).runChange

/-- One row was set. -/
theorem ActionChange.set {t : Store} {row : ActionRow} {actionId : ActionId}
    {f : ActionRow → ActionRow} (hf : ∀ row, (f row).actionId = row.actionId)
    (hrow : s.action? actionId = some row) (ht : t.actions = (s.setAction actionId f hf).actions)
    (hrewrites : c.Rewrites s row (f row)) : ActionChange s t c := by
  have hid := (Store.action?_some hrow).2
  have hown : s.action? row.actionId = some row := by
    rw [hid]
    exact hrow
  refine .one hown ?_ hrewrites
  intro id
  rw [Store.action?_of_actions ht, Store.setAction_action?, hid]
  by_cases hsame : id = actionId
  · rw [if_pos hsame, if_pos hsame, hsame, hrow, Option.map_some]
  · rw [if_neg hsame, if_neg hsame]

/-- The open actions of a run were cancelled. -/
theorem ActionChange.cancelled {t : Store} {runId : RunId}
    (ht : t.actions = (cancelActions s runId).actions)
    (hrewrites : ∀ row : ActionRow, row.runId = runId →
      (row.state = .pending ∨ row.state = .claimed) → c.Rewrites s row (row.cancelledFor runId)) : ActionChange s t c := by
  refine .mapped (f := ActionRow.cancelledFor runId) ?_ ?_
  · intro id
    rw [Store.action?_of_actions ht]
    exact Store.setActions_action? (ActionRow.cancelledFor_actionId runId) id
  · intro row _
    by_cases hopen : row.runId = runId ∧ (row.state = .pending ∨ row.state = .claimed)
    · exact Or.inr (hrewrites row hopen.1 hopen.2)
    · exact Or.inl (if_neg hopen)

theorem endRun_actions {owner : String} {runId : RunId} {reason eventType : String}
    {payload : RunRow → Json} {r : RunRow}
    (h : endRun C s owner runId reason eventType payload = .ok (r, s'))
    (hrewrites : ∀ row : ActionRow, row.runId = runId →
      (row.state = .pending ∨ row.state = .claimed) → c.Rewrites s row (row.cancelledFor runId)) : ActionChange s s' c := by
  obtain ⟨run, -, ⟨-, rfl⟩ | ⟨-, t, hquiet, rfl⟩⟩ := endRun_ok h
  · exact .same rfl
  · exact .cancelled hquiet.actions hrewrites

theorem recoverRun_actions {runId : RunId} {actionId : ActionId}
    (h : recoverRun C s runId actionId = .ok s') : s'.actions = s.actions := by
  rcases recoverRun_ok h with ⟨-, rfl⟩ | ⟨run, -, -, -, rfl⟩
  · rfl
  · rfl

/-- What a call does to the actions. -/
theorem callStep_actions : ActionChange s (callStep C s c) c := by
  cases c <;> refine committed_rec (P := fun t => ActionChange s t _) (.same rfl) ?_ <;>
    intro r t h
  case createRun a =>
    rcases createRun_ok h with ⟨rfl, -⟩ | ⟨row, -, hcreated⟩
    · exact .same rfl
    · exact .same hcreated.actions
  case transitionRun a =>
    obtain ⟨run, -, -, -, -, -, payload, rfl⟩ := transitionRun_ok h
    exact .same rfl
  case resolveOpenWaits owner runId reason => exact .same (resolveOpenWaitsSystem_quiet h).actions
  case createWait a => exact .same (createWait_quiet h).actions
  case resolveWait a => exact .same (resolveWait_quiet h).actions
  case createStep owner runId spec => exact .same (createStep_quiet h).actions
  case transitionStep a => exact .same (transitionStep_quiet h).actions
  case insertAction a =>
    rcases insertAction_ok h with ⟨rfl, -⟩ | ⟨key, actions, payload, hkey, hrun, hinsert, -, rfl⟩
    · exact .same rfl
    · have hlookup : ∀ id, actions.get? id =
          if a.actionId = id then some (a.row key) else s.action? id := Table.get?_insert hinsert
      have hfresh : s.action? a.actionId = none := (Table.insert_some hinsert).2
      constructor
      · intro id row hrow
        have hne : a.actionId ≠ id := by
          rintro rfl
          rw [hfresh] at hrow
          cases hrow
        exact ⟨row, by rw [← hrow]; exact (hlookup id).trans (if_neg hne), Or.inl rfl⟩
      · intro id row hrow hnone
        have hfound : actions.get? id = some row := hrow
        rw [hlookup id] at hfound
        by_cases hid : a.actionId = id
        · rw [if_pos hid] at hfound
          cases hfound
          exact ⟨a, key, rfl, hkey, rfl, hrun⟩
        · rw [if_neg hid, hnone] at hfound
          cases hfound
  case claimAction worker leaseSeconds now =>
    rcases claimAction_ok h with ⟨-, rfl⟩ | ⟨row, hnext, -, -, rfl⟩
    · exact .same rfl
    · exact .set (ActionRow.claimedBy_actionId worker (now + leaseSeconds)) (nextClaim_some hnext).1 rfl
        ⟨hnext, rfl⟩
  case markDispatchStarted actionId worker now =>
    obtain ⟨row, hrow, howner, ⟨-, -, rfl⟩ | ⟨hclaimed, -, rfl⟩⟩ := markDispatchStarted_ok h
    · exact .same rfl
    · exact .set (ActionRow.startedAt_actionId now) hrow rfl
        ⟨(Store.action?_some hrow).2.symm, hclaimed, howner, rfl⟩
  case completeAction actionId worker result childRef =>
    obtain ⟨row, hrow, ⟨-, rfl⟩ | ⟨hheld, howner, payload, rfl⟩⟩ := finishAction_ok h
    · exact .same rfl
    · exact .set (completed result childRef).set_actionId hrow rfl
        ⟨(Store.action?_some hrow).2.symm, hheld, howner, rfl⟩
  case failAction actionId worker errorCode =>
    obtain ⟨row, hrow, ⟨-, rfl⟩ | ⟨hheld, howner, payload, rfl⟩⟩ := finishAction_ok h
    · exact .same rfl
    · exact .set (failed errorCode).set_actionId hrow rfl
        ⟨(Store.action?_some hrow).2.symm, hheld, howner, rfl⟩
  case markActionOutcomeUnknown actionId worker errorCode =>
    obtain ⟨row, hrow, ⟨-, rfl⟩ | ⟨hstarted, howner, u, payload, hrecover, rfl⟩⟩ :=
      markActionOutcomeUnknown_ok h
    · exact .same rfl
    · have hactions := recoverRun_actions hrecover
      exact .set (ActionRow.outcomeUnknown_actionId errorCode) hrow hactions
        ⟨(Store.action?_some hrow).2.symm, hstarted, howner, rfl⟩
  case reclaimExpiredActions now =>
    refine .mapped (f := ActionRow.reclaimed now) ?_ ?_
    · intro id
      rw [(reclaimExpiredActions_ok h).action? id, Store.setActions_action?]
    · intro row _
      by_cases hexpired : row.reclaimable now = true
      · exact Or.inr ⟨hexpired, rfl⟩
      · exact Or.inl (if_neg hexpired)
  case recordReconciledOutcome actionId outcome =>
    obtain ⟨state, row, hstate, hrow, ⟨-, rfl⟩ | ⟨hopen, payload, rfl⟩⟩ :=
      recordReconciledOutcome_ok h
    · exact .same rfl
    · have hrewrites : Call.Rewrites s row (outcome.set state row)
          (.recordReconciledOutcome actionId outcome) :=
        ⟨(Store.action?_some hrow).2.symm, hopen, state, hstate, rfl⟩
      split
      · exact .set (outcome.set_actionId state) hrow rfl hrewrites
      · exact .set (outcome.set_actionId state) hrow rfl hrewrites
  case cancelRun owner runId expectedState expectedVersion =>
    obtain ⟨run, -, -, -, -, -, payload, rfl⟩ := cancelRun_ok h
    exact .cancelled rfl fun row hrun hopen => ⟨hrun, hopen, rfl⟩
  case securityRevokeRun owner runId =>
    exact endRun_actions h fun row hrun hopen => ⟨hrun, hopen, rfl⟩
  case markRunNeedsAttention owner runId reason =>
    exact endRun_actions h fun row hrun hopen => ⟨hrun, hopen, rfl⟩
  case beginControlCommand a => exact .same (beginControlCommand_quiet h).actions
  case completeControlCommand owner idempotencyKey result =>
    exact .same (completeControlCommand_quiet h).actions

/-! ## One run or action across a call -/

/-- A run after a call: as it was, or moved on with an event. -/
theorem RunChange.after (h : RunChange s s' c) {id : RunId} {run : RunRow}
    (hrun : s.run? id = some run) :
    s'.run? id = some run ∨ ∃ target stepId, s'.run? id = some (run.movedTo target stepId) ∧
      isTerminalRun run.state = false ∧ c.Moves s run target ∧ Reported s s' id := by
  cases h with
  | same hruns => exact Or.inl (by rw [hruns, hrun])
  | created row hcreated =>
      have hne : id ≠ row.runId := by
        rintro rfl
        rw [hcreated.fresh] at hrun
        cases hrun
      exact Or.inl (by rw [hcreated.runs, if_neg hne, hrun])
  | moved moved target stepId hmoved hlive hmoves hruns hevent =>
      by_cases hid : id = moved.runId
      · have hsame : moved = run := by
          rw [hid, hmoved] at hrun
          exact Option.some.inj hrun
        subst hsame
        exact Or.inr ⟨target, stepId, by rw [hruns, if_pos hid], hlive, hmoves, hid ▸ hevent⟩
      · exact Or.inl (by rw [hruns, if_neg hid, hrun])

/-- A run that was not there before a call was created by it. -/
theorem RunChange.fresh (h : RunChange s s' c) {id : RunId} {run : RunRow}
    (hnone : s.run? id = none) (hrun : s'.run? id = some run) : Created s s' run := by
  cases h with
  | same hruns =>
      rw [hruns, hnone] at hrun
      cases hrun
  | created row hcreated =>
      rw [hcreated.runs] at hrun
      by_cases hid : id = row.runId
      · rw [if_pos hid] at hrun
        cases hrun
        exact hcreated
      · rw [if_neg hid, hnone] at hrun
        cases hrun
  | moved moved target stepId hmoved hlive hmoves hruns hevent =>
      rw [hruns] at hrun
      by_cases hid : id = moved.runId
      · rw [hid, hmoved] at hnone
        cases hnone
      · rw [if_neg hid, hnone] at hrun
        cases hrun

theorem Call.Moves.ne_created {run : RunRow} {target : RunState} (h : c.Moves s run target) :
    target ≠ .created := by
  cases c <;> simp only [Call.Moves] at h
  case transitionRun => exact (runEdge_ne h.2.2).2
  case markActionOutcomeUnknown => exact (runEdge_ne h.2).2
  case recordReconciledOutcome => simp [h.1]
  case cancelRun =>
    rw [h.2.2.2.1, Store.cancelTarget]
    split <;> simp
  case securityRevokeRun => simp [h.2]
  case markRunNeedsAttention => simp [h.2]

/-- The columns of an action that no call writes. -/
structure SameAction (row row' : ActionRow) : Prop where
  actionId : row'.actionId = row.actionId
  runId : row'.runId = row.runId
  stepId : row'.stepId = row.stepId
  attempt : row'.attempt = row.attempt
  actionKind : row'.actionKind = row.actionKind
  payload : row'.payload = row.payload
  idempotencyKey : row'.idempotencyKey = row.idempotencyKey
  retryClass : row'.retryClass = row.retryClass
  effectClass : row'.effectClass = row.effectClass

theorem SameAction.refl (row : ActionRow) : SameAction row row :=
  ⟨rfl, rfl, rfl, rfl, rfl, rfl, rfl, rfl, rfl⟩

theorem SameAction.cancelledFor (runId : RunId) (row : ActionRow) :
    SameAction row (row.cancelledFor runId) := by
  unfold ActionRow.cancelledFor
  split
  · exact ⟨rfl, rfl, rfl, rfl, rfl, rfl, rfl, rfl, rfl⟩
  · exact .refl row

theorem Call.Rewrites.same {row row' : ActionRow} (h : c.Rewrites s row row') :
    SameAction row row' := by
  cases c <;> simp only [Call.Rewrites] at h
  case claimAction => exact h.2 ▸ ⟨rfl, rfl, rfl, rfl, rfl, rfl, rfl, rfl, rfl⟩
  case markDispatchStarted => exact h.2.2.2 ▸ ⟨rfl, rfl, rfl, rfl, rfl, rfl, rfl, rfl, rfl⟩
  case completeAction => exact h.2.2.2 ▸ ⟨rfl, rfl, rfl, rfl, rfl, rfl, rfl, rfl, rfl⟩
  case failAction => exact h.2.2.2 ▸ ⟨rfl, rfl, rfl, rfl, rfl, rfl, rfl, rfl, rfl⟩
  case markActionOutcomeUnknown => exact h.2.2.2 ▸ ⟨rfl, rfl, rfl, rfl, rfl, rfl, rfl, rfl, rfl⟩
  case reclaimExpiredActions =>
    rw [h.2, ActionRow.reclaimed, if_pos h.1]
    exact ⟨rfl, rfl, rfl, rfl, rfl, rfl, rfl, rfl, rfl⟩
  case recordReconciledOutcome =>
    obtain ⟨-, -, state, -, rfl⟩ := h
    exact ⟨rfl, rfl, rfl, rfl, rfl, rfl, rfl, rfl, rfl⟩
  case cancelRun => exact h.2.2 ▸ .cancelledFor _ row
  case securityRevokeRun => exact h.2.2 ▸ .cancelledFor _ row
  case markRunNeedsAttention => exact h.2.2 ▸ .cancelledFor _ row

/-- An action after a call: as it was, rewritten, or new. -/
theorem ActionChange.before (h : ActionChange s s' c) {id : ActionId} {row' : ActionRow}
    (hrow' : s'.action? id = some row') :
    (∃ row, s.action? id = some row ∧ (row' = row ∨ c.Rewrites s row row')) ∨
      s.action? id = none ∧ ∃ a key, c = .insertAction a ∧ a.childKey = .ok key ∧
        row' = a.row key ∧ ∃ run, s.run? a.runId = some run := by
  cases hrow : s.action? id with
  | none => exact Or.inr ⟨rfl, h.new id row' hrow' hrow⟩
  | some row =>
      obtain ⟨found, hfound, hchange⟩ := h.old id row hrow
      rw [hrow'] at hfound
      cases hfound
      exact Or.inl ⟨row, rfl, hchange⟩

/-! ## An action that was claimed belongs to a run that was started -/

/-- Every action belongs to a run, and while that is not started its actions are not claimed. -/
def ActionsBelong (s : Store) : Prop :=
  ∀ id row, s.action? id = some row → ∃ run, s.run? row.runId = some run ∧
    (run.state = .created → row.state = .pending ∨ row.state = .cancelled)

/-- An action that had its start recorded belongs to a run that has left `created`. -/
theorem ActionsBelong.started (h : ActionsBelong s) {id : ActionId} {row : ActionRow}
    {run : RunRow} (hrow : s.action? id = some row) (hrun : s.run? row.runId = some run)
    (hstate : row.state = .started ∨ row.state = .outcomeUnknown) : run.state ≠ .created := by
  intro hcreated
  obtain ⟨found, hfound, hpending⟩ := h id row hrow
  rw [hrun] at hfound
  cases hfound
  rcases hpending hcreated with hp | hp <;> rcases hstate with hs | hs <;> rw [hp] at hs <;> cases hs

theorem rewrites_of_created {row row' : ActionRow} {run : RunRow} (h : c.Rewrites s row row')
    (hrun : s.run? row.runId = some run) (hcreated : run.state = .created)
    (hold : row.state = .pending ∨ row.state = .cancelled) :
    row'.state = .pending ∨ row'.state = .cancelled := by
  have hclaimed : row.state ≠ .claimed := by rcases hold with h | h <;> simp [h]
  have hstarted : row.state ≠ .started := by rcases hold with h | h <;> simp [h]
  have hunknown : row.state ≠ .outcomeUnknown := by rcases hold with h | h <;> simp [h]
  cases c <;> simp only [Call.Rewrites] at h
  case claimAction =>
    obtain ⟨-, -, found, hfound, hrunning⟩ := nextClaim_some h.1
    rw [hrun] at hfound
    cases hfound
    rw [hcreated] at hrunning
    cases hrunning
  case markDispatchStarted => exact absurd h.2.1 hclaimed
  case completeAction => exact absurd h.2.1 (not_or.mpr ⟨hclaimed, hstarted⟩)
  case failAction => exact absurd h.2.1 (not_or.mpr ⟨hclaimed, hstarted⟩)
  case markActionOutcomeUnknown => exact absurd h.2.1 hstarted
  case reclaimExpiredActions =>
    have hexpired := h.1
    simp [ActionRow.reclaimable, hclaimed, hstarted] at hexpired
  case recordReconciledOutcome => exact absurd h.2.1 (not_or.mpr ⟨hstarted, hunknown⟩)
  case cancelRun => exact Or.inr (by simp [h.2.2, ActionRow.cancelledFor, h.1, h.2.1])
  case securityRevokeRun => exact Or.inr (by simp [h.2.2, ActionRow.cancelledFor, h.1, h.2.1])
  case markRunNeedsAttention => exact Or.inr (by simp [h.2.2, ActionRow.cancelledFor, h.1, h.2.1])

theorem actionsBelong_empty : ActionsBelong .empty := by
  intro id row hrow
  cases hrow

theorem actionsBelong_step (h : ActionsBelong s) (hruns : RunChange s s' c)
    (hactions : ActionChange s s' c) : ActionsBelong s' := by
  -- the run of an action that was there before, with what the state it was in says of the run now
  have hkept : ∀ run id, s.run? id = some run → ∃ run', s'.run? id = some run' ∧
      (run'.state = .created → run.state = .created) := by
    intro run id hrun
    rcases hruns.after hrun with hsame | ⟨target, stepId, hmoved, -, hmoves, -⟩
    · exact ⟨run, hsame, fun hstate => hstate⟩
    · exact ⟨_, hmoved, fun hcreated => absurd hcreated hmoves.ne_created⟩
  intro id row' hrow'
  rcases hactions.before hrow' with ⟨row, hrow, hchange⟩ | ⟨-, a, key, -, -, rfl, run, hrun⟩
  · obtain ⟨run, hrun, hpending⟩ := h id row hrow
    obtain ⟨run', hrun', hcreated⟩ := hkept run _ hrun
    rcases hchange with rfl | hrewrites
    · exact ⟨run', hrun', fun hstate => hpending (hcreated hstate)⟩
    · refine ⟨run', by rw [hrewrites.same.runId]; exact hrun', fun hstate => ?_⟩
      exact rewrites_of_created hrewrites hrun (hcreated hstate) (hpending (hcreated hstate))
  · obtain ⟨run', hrun', -⟩ := hkept run _ hrun
    exact ⟨run', hrun', fun _ => Or.inl rfl⟩

theorem callStep_belong (h : ActionsBelong s) : ActionsBelong (callStep C s c) :=
  actionsBelong_step h callStep_runs callStep_actions

end

/-! ## A run with one write -/

/-- Every value encodes into two bytes. -/
def smallCodec : Codec := ⟨fun _ => some 2, fun _ => true, fun _ => 0⟩

def samplePins : Json := .obj (requiredPins.map fun key => (key, .str "1"))

def sampleRun : CreateRun where
  ownerSubject := "owner"
  actorIssuer := "issuer"
  actorSubject := "owner"
  runId := "run"
  idempotencyKey := "key"
  pins := samplePins
  inputs := .obj []
  deviceId := "device"
  deviceIdentityGeneration := 1
  initialSnapshotId := none
  initialDocumentId := none
  initialDocumentRevision := none
  steps := some [⟨"commit", 1, "service", none⟩]
  firstStepId := some "commit"
  insertable := true

def sampleCommit : InsertAction :=
  ⟨"owner", "run", "commit", 1, .commit, .obj [], .notStarted, .write, none⟩

/-- A run whose commit has been sent. -/
def sampleSent : List Call :=
  [.createRun sampleRun, .insertAction sampleCommit, .claimAction "worker" 30 0,
   .markDispatchStarted sampleCommit.actionId "worker" 1]

end AutocadMcp.Workflow
