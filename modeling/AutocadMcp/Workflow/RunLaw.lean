import AutocadMcp.Lib.Machine
import AutocadMcp.Workflow.Calls

/-!
# Runs move along the table

Seven operations write a run by hand, and three of them do not ask the table of
transitions. `cancel_run` takes a run with a started write to
`waiting_for_recovery` from every state, which the table allows from `running`
and from the waits for a job or an approval only; `security_revoke_run` and
`mark_run_needs_attention` take a run that was not started to `needs_attention`.
Away from these, every change of a run is an edge, a step of the version and an
event.
-/

namespace AutocadMcp.Workflow

/-- One transaction changed every run by the table. -/
structure FollowsTable (s s' : Store) : Prop where
  edge : ∀ id run run', s.run? id = some run → s'.run? id = some run' →
    run'.state ≠ run.state → runEdge run.state run'.state = true
  terminal : ∀ id run, s.run? id = some run → isTerminalRun run.state = true →
    s'.run? id = some run
  version : ∀ id run run', s.run? id = some run → s'.run? id = some run' → run' ≠ run →
    run'.stateVersion = run.stateVersion + 1 ∧ Reported s s' id
  kept : ∀ id run, s.run? id = some run → ∃ run', s'.run? id = some run'
  created : ∀ id run', s.run? id = none → s'.run? id = some run' → Reported s s' id ∧
    (run'.state = .created ∧ run'.stateVersion = 0 ∨
      runEdge .created run'.state = true ∧ run'.stateVersion = 1)

/-- The call does not write a run that the table would not let it write. -/
def Call.OnTable (s : Store) : Call → Prop
  | .cancelRun owner runId expectedState expectedVersion =>
      ∀ run ∈ s.getRun owner runId, run.state = expectedState →
        run.stateVersion = expectedVersion → s.startedWrite runId = true →
        run.state ≠ .waitingForUser ∧ run.state ≠ .paused
  | .securityRevokeRun owner runId | .markRunNeedsAttention owner runId _ =>
      ∀ run ∈ s.getRun owner runId, run.state ≠ .created
  | _ => True

instance (s : Store) (c : Call) : Decidable (c.OnTable s) := by
  unfold Call.OnTable
  split <;> infer_instance

section

variable {C : Codec} {s s' : Store} {c : Call}

theorem startedWrite_some {runId : RunId} (h : s.startedWrite runId = true) :
    ∃ row, s.action? row.actionId = some row ∧ row.runId = runId ∧ row.effectClass = .write ∧
      (row.state = .started ∨ row.state = .outcomeUnknown) := by
  obtain ⟨row, hrow, hcond⟩ := List.any_eq_true.mp h
  simp only [Bool.and_eq_true, Bool.or_eq_true, decide_eq_true_eq] at hcond
  exact ⟨row, Table.get?_of_mem hrow, hcond.1.1, hcond.1.2, hcond.2⟩

/-- A move of the calls that the condition lets through is an edge, if it is a move at all. -/
theorem Call.Moves.edge {run : RunRow} {target : RunState} (hmoves : c.Moves s run target)
    (hlive : isTerminalRun run.state = false) (hbelong : ActionsBelong s)
    (htable : c.OnTable s) (hrun : s.run? run.runId = some run) (hne : target ≠ run.state) :
    runEdge run.state target = true := by
  have hattend : run.state ≠ .created → target = .needsAttention →
      runEdge run.state target = true := by
    rintro hstate rfl
    revert hlive hstate
    cases run.state <;> decide
  cases c <;> simp only [Call.Moves] at hmoves
  case transitionRun => exact hmoves.2.2
  case markActionOutcomeUnknown => exact hmoves.2
  case recordReconciledOutcome =>
    obtain ⟨htarget, -, row, hrow, hid, hopen⟩ := hmoves
    exact hattend (hbelong.started hrow (by rw [hid]; exact hrun) hopen) htarget
  case cancelRun owner runId expectedState expectedVersion =>
    obtain ⟨hget, hstate, hversion, htarget, hedge⟩ := hmoves
    cases hstarted : s.startedWrite runId with
    | false => exact hedge hstarted
    | true =>
        obtain ⟨huser, hpaused⟩ := htable run hget hstate hversion hstarted
        obtain ⟨row, hrow, hid, -, hopen⟩ := startedWrite_some hstarted
        have hcreated : run.state ≠ .created := by
          have hown : s.run? row.runId = some run := by
            rw [hid]
            exact (Store.getRun_some hget).1
          exact hbelong.started hrow hown hopen
        rw [Store.cancelTarget, hstarted, if_pos rfl] at htarget
        subst htarget
        revert hlive hne huser hpaused hcreated
        cases run.state <;> decide
  case securityRevokeRun => exact hattend (htable run hmoves.1) hmoves.2
  case markRunNeedsAttention => exact hattend (htable run hmoves.1) hmoves.2

theorem callStep_follows (hbelong : ActionsBelong s) (htable : c.OnTable s) :
    FollowsTable s (callStep C s c) := by
  have hruns : RunChange s (callStep C s c) c := callStep_runs
  constructor
  · intro id run run' hrun hrun' hne
    rcases hruns.after hrun with hsame | ⟨target, stepId, hmoved, hlive, hmoves, -⟩
    · rw [hsame] at hrun'
      cases hrun'
      exact absurd rfl hne
    · rw [hmoved] at hrun'
      cases hrun'
      have hid := (Store.run?_some hrun).2
      exact hmoves.edge hlive hbelong htable (by rw [hid]; exact hrun) hne
  · intro id run hrun hdone
    rcases hruns.after hrun with hsame | ⟨target, stepId, -, hlive, -, -⟩
    · exact hsame
    · rw [hdone] at hlive
      cases hlive
  · intro id run run' hrun hrun' hne
    rcases hruns.after hrun with hsame | ⟨target, stepId, hmoved, -, -, hevent⟩
    · rw [hsame] at hrun'
      cases hrun'
      exact absurd rfl hne
    · rw [hmoved] at hrun'
      cases hrun'
      exact ⟨rfl, hevent⟩
  · intro id run hrun
    rcases hruns.after hrun with hsame | ⟨target, stepId, hmoved, -⟩
    · exact ⟨run, hsame⟩
    · exact ⟨_, hmoved⟩
  · intro id run hnone hrun
    obtain ⟨-, -, -, hinitial, sequence, payload, rest, hevents, -⟩ := hruns.fresh hnone hrun
    have hid := (Store.run?_some hrun).2
    refine ⟨⟨_, hevents, _, List.mem_cons_self, hid⟩, ?_⟩
    rcases hinitial with hcreated | ⟨hrunning, hversion⟩
    · exact Or.inl hcreated
    · exact Or.inr ⟨by rw [hrunning]; rfl, hversion⟩

end

/-- Over every sequence of calls, each of which the condition lets through, the runs move by the
table: every change of state is an edge, a terminal run stays as it is, and a change of a run
steps its version by one and appends an event. -/
theorem runs_follow_table (C : Codec) (calls : List Call)
    (h : Along (callStep C) (fun s c => c.OnTable s) .empty calls) :
    Along (callStep C) (fun s c => FollowsTable s (callStep C s c)) .empty calls :=
  Along.each ActionsBelong (fun _ _ hbelong _ => callStep_belong hbelong)
    (fun _ _ hbelong htable => callStep_follows hbelong htable) actionsBelong_empty h

/-- The write of a run is lost, the run is cancelled meanwhile, and the write turns out failed. -/
def sampleRecovered : List Call :=
  sampleSent ++
    [.markActionOutcomeUnknown sampleCommit.actionId "worker" "timeout",
     .cancelRun "owner" "run" .waitingForRecovery 2,
     .recordReconciledOutcome sampleCommit.actionId ⟨some .failed, none⟩]

theorem sampleRecovered_follows :
    Along (callStep smallCodec) (fun s c => c.OnTable s) .empty sampleRecovered ∧
    Along (callStep smallCodec) (fun s c => FollowsTable s (callStep smallCodec s c)) .empty
      sampleRecovered := by
  have htable : Along (callStep smallCodec) (fun s c => c.OnTable s) .empty sampleRecovered := by
    decide
  exact ⟨htable, runs_follow_table smallCodec sampleRecovered htable⟩

/-- A run is paused while its commit is under way, and cancelled. -/
def samplePaused : List Call :=
  sampleSent ++ [.transitionRun ⟨"owner", "run", .running, 1, .paused, none, "paused"⟩]

def sampleCancel : Call := .cancelRun "owner" "run" .paused 2

theorem samplePaused_leaves_table :
    ¬ Along (callStep smallCodec) (fun s c => FollowsTable s (callStep smallCodec s c)) .empty
      (samplePaused ++ [sampleCancel]) := by
  intro hall
  obtain ⟨-, hcancel, -⟩ := along_append.mp hall
  generalize hs : runFrom (callStep smallCodec) .empty samplePaused = s at hcancel
  have hbefore : (s.run? "run").map RunRow.state = some .paused := by
    rw [← hs]
    decide
  have hafter : ((callStep smallCodec s sampleCancel).run? "run").map RunRow.state =
      some .waitingForRecovery := by
    rw [← hs]
    decide
  obtain ⟨run, hrun, hpaused⟩ := Option.map_eq_some_iff.mp hbefore
  obtain ⟨run', hrun', hwaiting⟩ := Option.map_eq_some_iff.mp hafter
  have hedge := hcancel.edge "run" run run' hrun hrun' (by rw [hpaused, hwaiting]; decide)
  rw [hpaused, hwaiting] at hedge
  revert hedge
  decide

/-- A run that was not started needs attention, which the table does not know either. -/
example :
    ((runFrom (callStep smallCodec) .empty
      [.createRun { sampleRun with steps := none, firstStepId := none },
       .markRunNeedsAttention "owner" "run" "stuck"]).run? "run").map RunRow.state =
        some .needsAttention ∧
      runEdge .created .needsAttention = false := by
  decide

end AutocadMcp.Workflow
