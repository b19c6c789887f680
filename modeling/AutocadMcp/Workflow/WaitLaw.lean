import AutocadMcp.Workflow.Calls

/-!
# What a workflow repository call can do to a wait or a command

A wait is opened by `create_wait`, next to no open one of its step and kind, and
resolved once: by `resolve_wait` with a response under a key, or by the system with a
reason. A command is begun for a run at the version that it expects, and completed
once.
-/

namespace AutocadMcp.Workflow

/-- Neither a wait nor a command was written. -/
structure Aside (s s' : Store) : Prop where
  waits : s'.waits = s.waits
  commands : s'.commands = s.commands

namespace Call

/-- What a call may do to a wait. -/
def Resolves (row row' : WaitRow) : Call → Prop
  | .resolveWait a =>
      row.waitId = a.waitId ∧ row.runId = a.runId ∧ row.resolution = none ∧
        row' = row.resolved a.resolution
  | .resolveOpenWaits .. | .securityRevokeRun .. | .markRunNeedsAttention .. =>
      row.resolution = none ∧ ∃ reason, row' = row.resolved (systemResolution reason)
  | _ => False

/-- The waits that a call may open. -/
def Opens (C : Codec) (s : Store) (row : WaitRow) : Call → Prop
  | .createWait a =>
      row = a.row C ∧ ∀ w ∈ s.waits.rows, w.runId = a.runId → w.resolution = none →
        w.stepId = a.stepId → w.waitKind ≠ a.waitKind
  | _ => False

/-- What a call may do to a command. -/
def Completes (row row' : CommandRow) : Call → Prop
  | .completeControlCommand owner idempotencyKey result =>
      row.key = (owner, idempotencyKey) ∧ row.result = none ∧ row' = row.completedWith result
  | _ => False

/-- The commands that a call may begin. -/
def Begins (C : Codec) (s : Store) (row : CommandRow) : Call → Prop
  | .beginControlCommand a =>
      row = a.row C ∧ ∃ run, s.getRun a.ownerSubject a.runId = some run ∧
        run.stateVersion = a.expectedStateVersion
  | _ => False

end Call

/-- What a call has done to the waits. -/
structure WaitChange (C : Codec) (s s' : Store) (c : Call) : Prop where
  old : ∀ row ∈ s.waits.rows, ∃ row' ∈ s'.waits.rows, row'.waitId = row.waitId ∧
    (row' = row ∨ c.Resolves row row')
  new : ∀ row' ∈ s'.waits.rows, (∃ row ∈ s.waits.rows, row'.waitId = row.waitId ∧
    (row' = row ∨ c.Resolves row row')) ∨ c.Opens C s row'

/-- What a call has done to the commands. -/
structure CommandChange (C : Codec) (s s' : Store) (c : Call) : Prop where
  old : ∀ row ∈ s.commands.rows, ∃ row' ∈ s'.commands.rows, row'.key = row.key ∧
    (row' = row ∨ c.Completes row row')
  new : ∀ row' ∈ s'.commands.rows, (∃ row ∈ s.commands.rows, row'.key = row.key ∧
    (row' = row ∨ c.Completes row row')) ∨ c.Begins C s row'

section

variable {C : Codec} {s s' : Store} {c : Call}

namespace Aside

theorem refl (s : Store) : Aside s s := ⟨rfl, rfl⟩

theorem trans {t : Store} (h : Aside s t) (h' : Aside t s') : Aside s s' :=
  ⟨h'.waits.trans h.waits, h'.commands.trans h.commands⟩

end Aside

theorem WaitChange.same (h : s'.waits = s.waits) : WaitChange C s s' c where
  old := fun row hrow => ⟨row, h ▸ hrow, rfl, Or.inl rfl⟩
  new := fun row hrow => Or.inl ⟨row, h ▸ hrow, rfl, Or.inl rfl⟩

theorem CommandChange.same (h : s'.commands = s.commands) : CommandChange C s s' c where
  old := fun row hrow => ⟨row, h ▸ hrow, rfl, Or.inl rfl⟩
  new := fun row hrow => Or.inl ⟨row, h ▸ hrow, rfl, Or.inl rfl⟩

/-! ## The operations that leave both alone -/

theorem appendEvent_aside {runId : RunId} {eventType : String} {payload : Json}
    (h : appendEvent C s runId eventType payload = .ok s') : Aside s s' := by
  rw [appendEvent_ok h]
  exact ⟨rfl, rfl⟩

theorem appendEvents_aside {rows : List (RunId × String × Json)}
    (h : appendEvents C s rows = .ok s') : Aside s s' := by
  induction rows generalizing s with
  | nil =>
      cases h
      exact .refl _
  | cons row rest ih =>
      obtain ⟨t, hevent, hrest⟩ := bind_eq_ok.mp h
      exact (appendEvent_aside hevent).trans (ih hrest)

theorem addStep_aside {row : StepRow} (h : addStep C s row = .ok s') : Aside s s' := by
  obtain ⟨t, hinsert, hevent⟩ := bind_eq_ok.mp h
  have hstep : Aside s t := by
    unfold insertStep at hinsert
    simp only [bind_eq_ok] at hinsert
    obtain ⟨_, -, _, -, hinsert⟩ := hinsert
    split at hinsert
    · cases hinsert
      exact ⟨rfl, rfl⟩
    · cases hinsert
  exact hstep.trans (appendEvent_aside hevent)

theorem addSteps_aside {runId : RunId} {specs : List StepSpec}
    (h : addSteps C s runId specs = .ok s') : Aside s s' := by
  induction specs generalizing s with
  | nil =>
      cases h
      exact .refl _
  | cons spec rest ih =>
      obtain ⟨t, hstep, hrest⟩ := bind_eq_ok.mp h
      exact (addStep_aside hstep).trans (ih hrest)

theorem startRun_aside {runId : RunId} {steps : List StepSpec} {firstStepId : StepId}
    (h : startRun C s runId steps firstStepId = .ok s') : Aside s s' := by
  unfold startRun at h
  simp only [bind_eq_ok] at h
  obtain ⟨t, hsteps, _, -, u, hready, hstarted⟩ := h
  have hadded := addSteps_aside hsteps
  have hset := appendEvent_aside hready
  have hpush := appendEvent_aside hstarted
  exact hadded.trans ⟨hpush.waits.trans hset.waits, hpush.commands.trans hset.commands⟩

theorem createRun_aside {a : CreateRun} {r : RunRow × Bool}
    (h : createRun C s a = .ok (r, s')) : Aside s s' := by
  unfold createRun at h
  simp only [bind_eq_ok] at h
  obtain ⟨_, -, _, -, _, -, _, -, _, -, _, -, h⟩ := h
  split at h
  · unfold replayRun at h
    simp only [bind_eq_ok] at h
    obtain ⟨_, -, _, -, h⟩ := h
    cases h
    exact .refl _
  · obtain ⟨_, -, h⟩ := bind_eq_ok.mp h
    split at h
    · cases h
    · obtain ⟨t, hcreated, h⟩ := bind_eq_ok.mp h
      have hpush := appendEvent_aside hcreated
      have hinserted : Aside s t := ⟨hpush.waits, hpush.commands⟩
      split at h
      · obtain ⟨u, hstart, h⟩ := bind_eq_ok.mp h
        cases h
        exact hinserted.trans (startRun_aside hstart)
      · cases h
        exact hinserted

theorem createStep_aside {owner : String} {runId : RunId} {spec : StepSpec} {r : StepRow × Bool}
    (h : createStep C s owner runId spec = .ok (r, s')) : Aside s s' := by
  obtain ⟨_, -, h⟩ := bind_eq_ok.mp h
  split at h
  · obtain ⟨_, -, h⟩ := bind_eq_ok.mp h
    cases h
    exact .refl _
  · obtain ⟨t, hstep, h⟩ := bind_eq_ok.mp h
    cases h
    exact addStep_aside hstep

theorem transitionStep_aside {a : TransitionStep} {r : StepRow}
    (h : transitionStep C s a = .ok (r, s')) : Aside s s' := by
  obtain ⟨_, -, h⟩ := bind_eq_ok.mp h
  obtain ⟨_, -, h⟩ := bind_eq_ok.mp h
  split at h
  · cases h
  · simp only [bind_eq_ok] at h
    obtain ⟨_, -, _, -, _, -, t, hevent, h⟩ := h
    cases h
    have hpush := appendEvent_aside hevent
    exact ⟨hpush.waits, hpush.commands⟩

theorem recoverRun_aside {runId : RunId} {actionId : ActionId}
    (h : recoverRun C s runId actionId = .ok s') : Aside s s' := by
  rcases recoverRun_ok h with ⟨-, rfl⟩ | ⟨run, -, -, -, rfl⟩
  · exact .refl _
  · exact ⟨rfl, rfl⟩

/-! ## The operations that write a wait -/

/-- The system resolves the waits of the list, and no command is written. -/
theorem resolveWaits_waits {runId : RunId} {reason : String} {waits : List WaitRow}
    (h : resolveWaits C s runId reason waits = .ok s') :
    s'.commands = s.commands ∧ s'.waits.rows = s.waits.rows.map fun row =>
      if row.waitId ∈ waits.map WaitRow.waitId then row.resolved (systemResolution reason)
      else row := by
  induction waits generalizing s with
  | nil =>
      cases h
      simp
  | cons wait rest ih =>
      obtain ⟨_, -, h⟩ := bind_eq_ok.mp h
      obtain ⟨t, hevent, hrest⟩ := bind_eq_ok.mp h
      have hpush := appendEvent_aside hevent
      obtain ⟨hcommands, hwaits⟩ := ih hrest
      refine ⟨hcommands.trans hpush.commands, ?_⟩
      rw [hwaits, hpush.waits]
      show (s.waits.rows.map _).map _ = _
      rw [List.map_map]
      refine List.map_congr_left fun row _ => ?_
      by_cases hid : row.waitId = wait.waitId
      · by_cases hin : wait.waitId ∈ rest.map WaitRow.waitId
        · simp [hid, hin, WaitRow.resolved]
        · simp [hid, hin, WaitRow.resolved]
      · simp [hid]

/-- Waits that were resolved by the system were open. -/
theorem WaitChange.ended {t : Store} {runId : RunId} {reason : String}
    (hwaits : t.waits.rows = s.waits.rows.map fun row =>
      if row.waitId ∈ (s.openWaits runId).map WaitRow.waitId then
        row.resolved (systemResolution reason)
      else row)
    (hresolves : ∀ row, row.resolution = none →
      c.Resolves row (row.resolved (systemResolution reason))) : WaitChange C s t c := by
  -- every row of the one table has its row in the other
  have hone : ∀ row ∈ s.waits.rows,
      (if row.waitId ∈ (s.openWaits runId).map WaitRow.waitId then
        row.resolved (systemResolution reason) else row).waitId = row.waitId ∧
      ((if row.waitId ∈ (s.openWaits runId).map WaitRow.waitId then
        row.resolved (systemResolution reason) else row) = row ∨
      c.Resolves row (if row.waitId ∈ (s.openWaits runId).map WaitRow.waitId then
        row.resolved (systemResolution reason) else row)) := by
    intro row hrow
    by_cases hopen : row.waitId ∈ (s.openWaits runId).map WaitRow.waitId
    · rw [if_pos hopen]
      obtain ⟨found, hfound, hid⟩ := List.mem_map.mp hopen
      obtain ⟨hmem, hcond⟩ := List.mem_filter.mp hfound
      obtain rfl := Table.eq_of_key hmem hrow hid
      have hnone : found.resolution = none := by
        simp only [decide_eq_true_eq] at hcond
        exact hcond.2
      exact ⟨rfl, Or.inr (hresolves found hnone)⟩
    · rw [if_neg hopen]
      exact ⟨rfl, Or.inl rfl⟩
  constructor
  · intro row hrow
    refine ⟨_, ?_, hone row hrow⟩
    rw [hwaits]
    exact List.mem_map.mpr ⟨row, hrow, rfl⟩
  · intro row' hrow'
    rw [hwaits] at hrow'
    obtain ⟨row, hrow, rfl⟩ := List.mem_map.mp hrow'
    exact Or.inl ⟨row, hrow, hone row hrow⟩

theorem resolveOpenWaits_change {owner : String} {runId : RunId} {reason : String} {n : Nat}
    (h : resolveOpenWaitsSystem C s owner runId reason = .ok (n, s')) :
    s'.commands = s.commands ∧ WaitChange C s s' (.resolveOpenWaits owner runId reason) := by
  obtain ⟨_, -, h⟩ := bind_eq_ok.mp h
  obtain ⟨t, hwaits, h⟩ := bind_eq_ok.mp h
  cases h
  obtain ⟨hcommands, hrows⟩ := resolveWaits_waits hwaits
  exact ⟨hcommands, .ended hrows fun row hnone => ⟨hnone, reason, rfl⟩⟩

theorem endRun_change {owner : String} {runId : RunId} {reason eventType : String}
    {payload : RunRow → Json} {r : RunRow}
    (h : endRun C s owner runId reason eventType payload = .ok (r, s'))
    (hresolves : ∀ row, row.resolution = none →
      c.Resolves row (row.resolved (systemResolution reason))) :
    s'.commands = s.commands ∧ WaitChange C s s' c := by
  unfold endRun at h
  obtain ⟨run, -, h⟩ := bind_eq_ok.mp h
  split at h
  · cases h
    exact ⟨rfl, .same rfl⟩
  · simp only [bind_eq_ok] at h
    obtain ⟨t, hwaits, u, hevent, h⟩ := h
    cases h
    have hpush := appendEvent_aside hevent
    obtain ⟨hcommands, hrows⟩ := resolveWaits_waits hwaits
    have hended := hpush.waits ▸ hrows
    exact ⟨hpush.commands.trans hcommands, .ended hended hresolves⟩

theorem createWait_change {a : CreateWait} {r : WaitRow}
    (h : createWait C s a = .ok (r, s')) :
    s'.commands = s.commands ∧ WaitChange C s s' (.createWait a) := by
  obtain ⟨run, -, h⟩ := bind_eq_ok.mp h
  obtain ⟨_, -, h⟩ := bind_eq_ok.mp h
  obtain ⟨_, -, h⟩ := bind_eq_ok.mp h
  split at h
  · obtain ⟨_, -, h⟩ := bind_eq_ok.mp h
    cases h
    exact ⟨rfl, .same rfl⟩
  · rename_i hnone
    obtain ⟨_, -, h⟩ := bind_eq_ok.mp h
    split at h
    · cases h
    · rename_i waits hinsert
      obtain ⟨t, hevent, h⟩ := bind_eq_ok.mp h
      cases h
      have hpush := appendEvent_aside hevent
      have hrows : s'.waits.rows = s.waits.rows ++ [a.row C] := by
        rw [hpush.waits]
        exact (Table.insert_some hinsert).1
      have hfree : ∀ w ∈ s.waits.rows, w.runId = a.runId → w.resolution = none →
          w.stepId = a.stepId → w.waitKind ≠ a.waitKind := by
        intro w hw hrun hopen hstep hkind
        have hempty := List.getLast?_eq_none_iff.mp hnone
        have hmem : w ∈ (s.openWaits a.runId).filter fun w => w.stepId = a.stepId ∧
            w.waitKind = a.waitKind := by
          simp [Store.openWaits, hw, hrun, hopen, hstep, hkind]
        rw [hempty] at hmem
        cases hmem
      refine ⟨hpush.commands, ?_, ?_⟩
      · intro row hrow
        exact ⟨row, by simp [hrows, hrow], rfl, Or.inl rfl⟩
      · intro row' hrow'
        rw [hrows, List.mem_append, List.mem_singleton] at hrow'
        rcases hrow' with hrow' | rfl
        · exact Or.inl ⟨row', hrow', rfl, Or.inl rfl⟩
        · exact Or.inr ⟨rfl, hfree⟩

/-- What `resolve_wait` has found and left; the flag says that the response was there. -/
theorem resolveWait_ok {a : ResolveWait} {r : WaitRow × Bool}
    (h : resolveWait C s a = .ok (r, s')) :
    ∃ wait ∈ s.waits.rows, wait.waitId = a.waitId ∧ wait.runId = a.runId ∧
      (∃ run, s.getRun a.ownerSubject a.runId = some run) ∧ s'.commands = s.commands ∧
      ((∃ resolution, wait.resolution = some resolution ∧ r = (wait, true) ∧ s' = s ∧
          resolution.get? "idempotency_key" = some (.str a.idempotencyKey) ∧
          resolution.get? "response" = some a.response) ∨
        wait.resolution = none ∧ r = (wait.resolved a.resolution, false) ∧
          s'.waits = (s.setWait a.waitId (WaitRow.resolved a.resolution)
            (WaitRow.resolved_waitId a.resolution)).waits) := by
  unfold resolveWait at h
  split at h
  · rename_i run wait hrun hwait
    obtain ⟨hfound, hown⟩ := Option.filter_eq_some_iff.mp hwait
    obtain ⟨hmem, hid⟩ := Table.get?_some hfound
    have hrunId : wait.runId = a.runId := by simpa using hown
    split at h
    · rename_i resolution hresolution
      obtain ⟨_, hsame, h⟩ := bind_eq_ok.mp h
      cases h
      obtain ⟨hkey, hresponse⟩ := check_eq_ok.mp hsame
      exact ⟨wait, hmem, hid, hrunId, ⟨run, hrun⟩, rfl,
        Or.inl ⟨resolution, hresolution, rfl, rfl, hkey, hresponse⟩⟩
    · rename_i hopen
      simp only [bind_eq_ok] at h
      obtain ⟨_, -, _, -, _, -, _, -, t, hevent, h⟩ := h
      cases h
      have hpush := appendEvent_aside hevent
      exact ⟨wait, hmem, hid, hrunId, ⟨run, hrun⟩, hpush.commands,
        Or.inr ⟨hopen, rfl, hpush.waits⟩⟩
  · cases h

theorem resolveWait_change {a : ResolveWait} {r : WaitRow × Bool}
    (h : resolveWait C s a = .ok (r, s')) : WaitChange C s s' (.resolveWait a) := by
  obtain ⟨wait, hwait, hid, hrun, -, -, ⟨_, -, -, rfl, -, -⟩ | ⟨hopen, -, hwaits⟩⟩ :=
    resolveWait_ok h
  · exact .same rfl
  · have hrows : s'.waits = s.waits.modify a.waitId (WaitRow.resolved a.resolution)
        (WaitRow.resolved_waitId a.resolution) := hwaits
    have hone : ∀ row ∈ s.waits.rows,
        (if row.waitId = a.waitId then row.resolved a.resolution else row).waitId = row.waitId ∧
        ((if row.waitId = a.waitId then row.resolved a.resolution else row) = row ∨
          Call.Resolves row (if row.waitId = a.waitId then row.resolved a.resolution else row)
            (.resolveWait a)) := by
      intro row hrow
      by_cases hkey : row.waitId = a.waitId
      · rw [if_pos hkey]
        obtain rfl := Table.eq_of_key hrow hwait (hkey.trans hid.symm)
        exact ⟨rfl, Or.inr ⟨hid, hrun, hopen, rfl⟩⟩
      · rw [if_neg hkey]
        exact ⟨rfl, Or.inl rfl⟩
    constructor
    · intro row hrow
      refine ⟨_, ?_, hone row hrow⟩
      rw [hrows, Table.mem_modify]
      exact ⟨row, hrow, rfl⟩
    · intro row' hrow'
      rw [hrows, Table.mem_modify] at hrow'
      obtain ⟨row, hrow, rfl⟩ := hrow'
      exact Or.inl ⟨row, hrow, hone row hrow⟩

/-! ## The operations that write a command -/

/-- What `begin_control_command` has found or made; the flag says that the command was there. -/
theorem beginControlCommand_ok {a : BeginControl} {r : CommandRow × Bool}
    (h : beginControlCommand C s a = .ok (r, s')) :
    s'.waits = s.waits ∧ (∃ run, s.getRun a.ownerSubject a.runId = some run ∧
      ((r.2 = true ∧ s' = s ∧ r.1 ∈ s.commands.rows ∧ r.1.key = (a.ownerSubject, a.idempotencyKey) ∧
          r.1.runId = a.runId ∧ r.1.action = a.action ∧
          r.1.expectedStateVersion = a.expectedStateVersion ∧
          r.1.payloadDigest = C.digest a.payload) ∨
        r = (a.row C, false) ∧ run.stateVersion = a.expectedStateVersion ∧
          s.commands.insert (a.row C) = some s'.commands)) := by
  obtain ⟨_, -, h⟩ := bind_eq_ok.mp h
  obtain ⟨run, hrun, h⟩ := bind_eq_ok.mp h
  have hget : s.getRun a.ownerSubject a.runId = some run := by
    obtain ⟨hfound, howner⟩ := requireRun_ok hrun
    simp [Store.getRun, hfound, howner]
  split at h
  · rename_i old hold
    obtain ⟨hmem, hkey⟩ := Table.get?_some hold
    obtain ⟨_, hsame, h⟩ := bind_eq_ok.mp h
    cases h
    obtain ⟨hid, haction, hversion, hdigest⟩ := check_eq_ok.mp hsame
    exact ⟨rfl, run, hget, Or.inl ⟨rfl, rfl, hmem, hkey, hid, haction, hversion, hdigest⟩⟩
  · obtain ⟨_, hversion, h⟩ := bind_eq_ok.mp h
    obtain ⟨_, -, h⟩ := bind_eq_ok.mp h
    split at h
    · cases h
    · rename_i commands hinsert
      obtain ⟨t, hevent, h⟩ := bind_eq_ok.mp h
      cases h
      have hpush := appendEvent_aside hevent
      refine ⟨hpush.waits, run, hget, Or.inr ⟨rfl, check_eq_ok.mp hversion, ?_⟩⟩
      rw [hinsert, hpush.commands]

theorem beginControlCommand_change {a : BeginControl} {r : CommandRow × Bool}
    (h : beginControlCommand C s a = .ok (r, s')) :
    CommandChange C s s' (.beginControlCommand a) := by
  obtain ⟨-, run, hrun, ⟨-, rfl, -⟩ | ⟨-, hversion, hinsert⟩⟩ := beginControlCommand_ok h
  · exact .same rfl
  · have hrows := (Table.insert_some hinsert).1
    constructor
    · intro row hrow
      exact ⟨row, by simp [hrows, hrow], rfl, Or.inl rfl⟩
    · intro row' hrow'
      rw [hrows, List.mem_append, List.mem_singleton] at hrow'
      rcases hrow' with hrow' | rfl
      · exact Or.inl ⟨row', hrow', rfl, Or.inl rfl⟩
      · exact Or.inr ⟨rfl, run, hrun, hversion⟩

/-- What `complete_control_command` has found and left. -/
theorem completeControlCommand_ok {owner idempotencyKey : String} {result : Json}
    {r : CommandRow} (h : completeControlCommand C s owner idempotencyKey result = .ok (r, s')) :
    s'.waits = s.waits ∧ ∃ row ∈ s.commands.rows, row.key = (owner, idempotencyKey) ∧
      (row.result = some result ∧ s' = s ∨
        row.result = none ∧ s'.commands = s.commands.modify (owner, idempotencyKey)
          (CommandRow.completedWith result) (CommandRow.completedWith_key result)) := by
  obtain ⟨_, -, h⟩ := bind_eq_ok.mp h
  split at h
  · cases h
  · rename_i row hfound
    obtain ⟨hmem, hkey⟩ := Table.get?_some hfound
    split at h
    · rename_i old hold
      obtain ⟨_, hsame, h⟩ := bind_eq_ok.mp h
      cases h
      refine ⟨rfl, _, hmem, hkey, Or.inl ⟨?_, rfl⟩⟩
      rw [hold, check_eq_ok.mp hsame]
    · rename_i hnone
      obtain ⟨_, -, h⟩ := bind_eq_ok.mp h
      obtain ⟨t, hevent, h⟩ := bind_eq_ok.mp h
      cases h
      have hpush := appendEvent_aside hevent
      exact ⟨hpush.waits, row, hmem, hkey, Or.inr ⟨hnone, hpush.commands⟩⟩

theorem completeControlCommand_change {owner idempotencyKey : String} {result : Json}
    {r : CommandRow} (h : completeControlCommand C s owner idempotencyKey result = .ok (r, s')) :
    CommandChange C s s' (.completeControlCommand owner idempotencyKey result) := by
  obtain ⟨-, command, hcommand, hown, ⟨-, rfl⟩ | ⟨hnone, hcommands⟩⟩ := completeControlCommand_ok h
  · exact .same rfl
  · have hone : ∀ row ∈ s.commands.rows,
        (if row.key = (owner, idempotencyKey) then row.completedWith result else row).key =
          row.key ∧
        ((if row.key = (owner, idempotencyKey) then row.completedWith result else row) = row ∨
          Call.Completes row
            (if row.key = (owner, idempotencyKey) then row.completedWith result else row)
            (.completeControlCommand owner idempotencyKey result)) := by
      intro row hrow
      by_cases hkey : row.key = (owner, idempotencyKey)
      · rw [if_pos hkey]
        obtain rfl := Table.eq_of_key hrow hcommand (hkey.trans hown.symm)
        exact ⟨rfl, Or.inr ⟨hkey, hnone, rfl⟩⟩
      · rw [if_neg hkey]
        exact ⟨rfl, Or.inl rfl⟩
    constructor
    · intro row hrow
      refine ⟨_, ?_, hone row hrow⟩
      rw [hcommands, Table.mem_modify]
      exact ⟨row, hrow, rfl⟩
    · intro row' hrow'
      rw [hcommands, Table.mem_modify] at hrow'
      obtain ⟨row, hrow, rfl⟩ := hrow'
      exact Or.inl ⟨row, hrow, hone row hrow⟩

/-! ## All calls -/

theorem Aside.changes (h : Aside s s') : WaitChange C s s' c ∧ CommandChange C s s' c :=
  ⟨.same h.waits, .same h.commands⟩

/-- What a call does to the waits and to the commands. -/
theorem callStep_waits_commands :
    WaitChange C s (callStep C s c) c ∧ CommandChange C s (callStep C s c) c := by
  cases c <;> refine committed_rec (P := fun t => WaitChange C s t _ ∧ CommandChange C s t _)
    ⟨.same rfl, .same rfl⟩ ?_ <;> intro r t h
  case createRun a => exact (createRun_aside h).changes
  case transitionRun a =>
    obtain ⟨run, -, -, -, -, -, payload, rfl⟩ := transitionRun_ok h
    exact ⟨.same rfl, .same rfl⟩
  case resolveOpenWaits owner runId reason =>
    obtain ⟨hcommands, hwaits⟩ := resolveOpenWaits_change h
    exact ⟨hwaits, .same hcommands⟩
  case createWait a =>
    obtain ⟨hcommands, hwaits⟩ := createWait_change h
    exact ⟨hwaits, .same hcommands⟩
  case resolveWait a =>
    obtain ⟨-, -, -, -, -, hcommands, -⟩ := resolveWait_ok h
    exact ⟨resolveWait_change h, .same hcommands⟩
  case createStep owner runId spec => exact (createStep_aside h).changes
  case transitionStep a => exact (transitionStep_aside h).changes
  case insertAction a =>
    rcases insertAction_ok h with ⟨rfl, -⟩ | ⟨key, actions, payload, -, -, -, -, rfl⟩
    · exact ⟨.same rfl, .same rfl⟩
    · exact ⟨.same rfl, .same rfl⟩
  case claimAction worker leaseSeconds now =>
    rcases claimAction_ok h with ⟨-, rfl⟩ | ⟨row, -, -, -, rfl⟩
    · exact ⟨.same rfl, .same rfl⟩
    · exact ⟨.same rfl, .same rfl⟩
  case markDispatchStarted actionId worker now =>
    obtain ⟨row, -, -, ⟨-, -, rfl⟩ | ⟨-, -, rfl⟩⟩ := markDispatchStarted_ok h
    · exact ⟨.same rfl, .same rfl⟩
    · exact ⟨.same rfl, .same rfl⟩
  case completeAction actionId worker result childRef =>
    obtain ⟨row, -, ⟨-, rfl⟩ | ⟨-, -, payload, rfl⟩⟩ := finishAction_ok h
    · exact ⟨.same rfl, .same rfl⟩
    · exact ⟨.same rfl, .same rfl⟩
  case failAction actionId worker errorCode =>
    obtain ⟨row, -, ⟨-, rfl⟩ | ⟨-, -, payload, rfl⟩⟩ := finishAction_ok h
    · exact ⟨.same rfl, .same rfl⟩
    · exact ⟨.same rfl, .same rfl⟩
  case markActionOutcomeUnknown actionId worker errorCode =>
    obtain ⟨row, -, ⟨-, rfl⟩ | ⟨-, -, u, payload, hrecover, rfl⟩⟩ := markActionOutcomeUnknown_ok h
    · exact ⟨.same rfl, .same rfl⟩
    · have hset := recoverRun_aside hrecover
      exact ⟨.same hset.waits, .same hset.commands⟩
  case reclaimExpiredActions now =>
    obtain ⟨u, hevents, h⟩ := bind_eq_ok.mp h
    cases h
    have hset := appendEvents_aside hevents
    exact ⟨.same hset.waits, .same hset.commands⟩
  case recordReconciledOutcome actionId outcome =>
    obtain ⟨state, row, -, -, ⟨-, rfl⟩ | ⟨-, payload, rfl⟩⟩ := recordReconciledOutcome_ok h
    · exact ⟨.same rfl, .same rfl⟩
    · split
      · exact ⟨.same rfl, .same rfl⟩
      · exact ⟨.same rfl, .same rfl⟩
  case cancelRun owner runId expectedState expectedVersion =>
    obtain ⟨run, -, -, -, -, -, payload, rfl⟩ := cancelRun_ok h
    exact ⟨.same rfl, .same rfl⟩
  case securityRevokeRun owner runId =>
    obtain ⟨hcommands, hwaits⟩ := endRun_change (c := .securityRevokeRun owner runId) h
      fun row hnone => ⟨hnone, _, rfl⟩
    exact ⟨hwaits, .same hcommands⟩
  case markRunNeedsAttention owner runId reason =>
    obtain ⟨hcommands, hwaits⟩ := endRun_change (c := .markRunNeedsAttention owner runId reason) h
      fun row hnone => ⟨hnone, _, rfl⟩
    exact ⟨hwaits, .same hcommands⟩
  case beginControlCommand a =>
    exact ⟨.same (beginControlCommand_ok h).1, beginControlCommand_change h⟩
  case completeControlCommand owner idempotencyKey result =>
    exact ⟨.same (completeControlCommand_ok h).1, completeControlCommand_change h⟩

end

end AutocadMcp.Workflow
