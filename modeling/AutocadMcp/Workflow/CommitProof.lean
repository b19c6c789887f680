import AutocadMcp.Workflow.Service
import AutocadMcp.Workflow.StepLaw

/-!
# What stands behind a commit

A commit step that waits keeps the intent of its action, and one that succeeded does
so on an answer of the status resolver about that intent. `Proven` says this of the
tables and of the answers so far, `Allowed` what a call of the repository must bring
along to keep it, and `Grows` which of it no call takes back.
-/

namespace AutocadMcp.Workflow.Service

abbrev Answers : Type := List (Query × Except Failure Json)

/-- The action of a commit step, `wfa:{run_id}:commit:1:commit`. -/
def commitId (runId : RunId) : ActionId :=
  InsertAction.actionId ⟨"", runId, "commit", 1, .commit, .null, .notStarted, .write, none⟩

/-- The key that its intent is asked for with, `wf:{run_id}:commit:1:commit`. -/
def commitKey (runId : RunId) : String := "wf:" ++ runId ++ ":commit:1:commit"

/-- The commit action of the run has completed with this intent. -/
def Committed (s : Store) (runId : RunId) (intent : Json) : Prop :=
  ∃ action, s.action? (commitId runId) = some action ∧ action.runId = runId ∧
    action.actionKind = .commit ∧ action.state = .completed ∧ action.result = some intent ∧
    intent.isDict = true

/-- The resolver has answered that the intent succeeded. -/
def Confirmed (asked : Answers) (owner intentId : String) : Prop :=
  ∃ status, (Query.commitStatus owner intentId, Except.ok status) ∈ asked ∧
    textField status "state" = some "succeeded"

/-- What a commit step has in each state. -/
def Backed (s : Store) (asked : Answers) (runId : RunId) (outputRef : Option Json) :
    StepState → Prop
  | .waiting => ∃ intent, Committed s runId intent ∧ outputRef = some (asResult intent)
  | .succeeded => ∃ intent intentId run, Committed s runId intent ∧
      textField intent "intent_id" = some intentId ∧ s.run? runId = some run ∧
      Confirmed asked run.ownerSubject intentId
  | _ => outputRef = none

/-- The commit step of the run has succeeded. -/
def CommitSucceeded (s : Store) (runId : RunId) : Prop :=
  ∃ row ∈ s.steps.rows, row.runId = runId ∧ row.stepId = "commit" ∧ row.state = .succeeded

/-- What the tables and the answers of the service keep to. -/
structure Proven (C : Codec) (s : Store) (asked : Answers) : Prop where
  attempts : ∀ row ∈ s.steps.rows, row.attempt = 1
  commits : ∀ row ∈ s.actions.rows, row.actionKind = .commit →
    row.actionId = commitId row.runId ∧ row.idempotencyKey = commitKey row.runId
  steps : ∀ row ∈ s.steps.rows, row.stepId = "commit" →
    Backed s asked row.runId row.outputRef row.state
  runs : ∀ id run, s.run? id = some run → run.state = .succeeded → run.skillId ≠ cleanupAudit →
    CommitSucceeded s id
  requests : ∀ id run, s.run? id = some run → ∃ a : CreateRun,
    run.requestHash = C.digest a.request ∧ run.skillId = a.pin "skill_id"

/-- What a call must bring along. -/
def Allowed (s : Store) (asked : Answers) : Call → Prop
  | .createRun a => ∀ specs ∈ a.steps, ∀ spec ∈ specs, spec.attempt = 1
  | .createStep .. => False
  | .insertAction a => a.actionKind = .commit → a.stepId = "commit" ∧ a.attempt = 1
  | .transitionStep a => a.stepId = "commit" → Backed s asked a.runId a.outputRef a.target
  | .transitionRun a => a.target = .succeeded → ∀ run, s.run? a.runId = some run →
      run.skillId = cleanupAudit ∨ CommitSucceeded s a.runId
  | _ => True

/-- What stays as it is. -/
structure Kept (s s' : Store) : Prop where
  runs : ∀ id run, s.run? id = some run → ∃ run', s'.run? id = some run' ∧
    run'.ownerSubject = run.ownerSubject ∧ run'.skillId = run.skillId
  actions : ∀ id row, s.action? id = some row → row.state = .completed → s'.action? id = some row
  steps : ∀ row ∈ s.steps.rows, row.state = .succeeded → row ∈ s'.steps.rows

section

variable {C : Codec} {s s' : Store} {asked asked' : Answers} {c : Call}

namespace Kept

theorem refl (s : Store) : Kept s s :=
  ⟨fun _ run hrun => ⟨run, hrun, rfl, rfl⟩, fun _ _ hrow _ => hrow, fun _ hrow _ => hrow⟩

theorem trans {t : Store} (h : Kept s t) (h' : Kept t s') : Kept s s' := by
  constructor
  · intro id run hrun
    obtain ⟨run', hrun', howner, hskill⟩ := h.runs id run hrun
    obtain ⟨run'', hrun'', howner', hskill'⟩ := h'.runs id run' hrun'
    exact ⟨run'', hrun'', howner'.trans howner, hskill'.trans hskill⟩
  · intro id row hrow hdone
    exact h'.actions id row (h.actions id row hrow hdone) hdone
  · intro row hrow hdone
    exact h'.steps row (h.steps row hrow hdone) hdone

theorem committed (h : Kept s s') {runId : RunId} {intent : Json}
    (hcommitted : Committed s runId intent) : Committed s' runId intent := by
  obtain ⟨action, haction, hrun, hkind, hdone, hresult⟩ := hcommitted
  exact ⟨action, h.actions _ action haction hdone, hrun, hkind, hdone, hresult⟩

theorem commitSucceeded (h : Kept s s') {runId : RunId} (hdone : CommitSucceeded s runId) :
    CommitSucceeded s' runId := by
  obtain ⟨row, hrow, hrun, hstep, hstate⟩ := hdone
  exact ⟨row, h.steps row hrow hstate, hrun, hstep, hstate⟩

end Kept

theorem Confirmed.mono {owner intentId : String} (h : Confirmed asked owner intentId)
    (hasked : ∀ e ∈ asked, e ∈ asked') : Confirmed asked' owner intentId := by
  obtain ⟨status, hmem, hstate⟩ := h
  exact ⟨status, hasked _ hmem, hstate⟩

/-- What a step rests on is kept. -/
theorem Backed.mono {runId : RunId} {outputRef : Option Json} {state : StepState}
    (h : Backed s asked runId outputRef state) (hkept : Kept s s')
    (hasked : ∀ e ∈ asked, e ∈ asked') : Backed s' asked' runId outputRef state := by
  cases state
  case waiting =>
    obtain ⟨intent, hcommitted, houtput⟩ := h
    exact ⟨intent, hkept.committed hcommitted, houtput⟩
  case succeeded =>
    obtain ⟨intent, intentId, run, hcommitted, hid, hrun, hconfirmed⟩ := h
    obtain ⟨run', hrun', howner, -⟩ := hkept.runs runId run hrun
    exact ⟨intent, intentId, run', hkept.committed hcommitted, hid, hrun',
      howner ▸ hconfirmed.mono hasked⟩
  all_goals exact h

/-- A run has one commit at most, and so one intent. -/
theorem Committed.unique {runId : RunId} {intent intent' : Json} (h : Committed s runId intent)
    (h' : Committed s runId intent') : intent = intent' := by
  obtain ⟨action, haction, -, -, -, hresult, -⟩ := h
  obtain ⟨action', haction', -, -, -, hresult', -⟩ := h'
  rw [haction] at haction'
  cases haction'
  rw [hresult] at hresult'
  exact Option.some.inj hresult'

/-! ## What a call keeps -/

/-- A completed action is not written again. -/
theorem rewrites_not_completed {row row' : ActionRow} (h : c.Rewrites s row row') :
    row.state ≠ .completed := by
  intro hdone
  cases c <;> simp only [Call.Rewrites] at h
  case claimAction =>
    have hclaimable := (nextClaim_some h.1).2.1
    simp [ActionRow.claimable, ActionRow.reclaimable, hdone] at hclaimable
  case markDispatchStarted =>
    rw [hdone] at h
    cases h.2.1
  case completeAction => simp [hdone] at h
  case failAction => simp [hdone] at h
  case markActionOutcomeUnknown =>
    rw [hdone] at h
    cases h.2.1
  case reclaimExpiredActions => simp [ActionRow.reclaimable, hdone] at h
  case recordReconciledOutcome => simp [hdone] at h
  case cancelRun => simp [hdone] at h
  case securityRevokeRun => simp [hdone] at h
  case markRunNeedsAttention => simp [hdone] at h

theorem callStep_kept : Kept s (callStep C s c) := by
  constructor
  · intro id run hrun
    rcases callStep_runs.after hrun with hsame | ⟨target, stepId, hmoved, -⟩
    · exact ⟨run, hsame, rfl, rfl⟩
    · exact ⟨_, hmoved, rfl, rfl⟩
  · intro id row hrow hdone
    obtain ⟨row', hrow', rfl | hrewrites⟩ := callStep_actions.old id row hrow
    · exact hrow'
    · exact absurd hdone (rewrites_not_completed hrewrites)
  · intro row hrow hdone
    exact callStep_steps.succeeded hrow hdone

/-! ## The request that a run was created for -/

/-- A creation answers with a row that it has found or made, under the hash of its request. -/
theorem createRun_row {a : CreateRun} {r : RunRow × Bool} (h : createRun C s a = .ok (r, s')) :
    s'.run? r.1.runId = some r.1 ∧ r.1.requestHash = C.digest a.request ∧
      (s' = s ∨ r.1.skillId = a.pin "skill_id") ∧
      ∀ id run, s'.run? id = some run → s.run? id = none → run = r.1 := by
  unfold createRun at h
  simp only [bind_eq_ok] at h
  obtain ⟨_, -, _, -, _, -, _, -, _, -, _, -, h⟩ := h
  split at h
  · rename_i existing hfound
    unfold replayRun at h
    simp only [bind_eq_ok, check_eq_ok] at h
    obtain ⟨_, hhash, _, -, h⟩ := h
    cases h
    refine ⟨Table.get?_of_mem (List.mem_of_find?_eq_some hfound), hhash, Or.inl rfl, ?_⟩
    intro id run hrun hnone
    rw [hnone] at hrun
    cases hrun
  · obtain ⟨_, -, h⟩ := bind_eq_ok.mp h
    split at h
    · cases h
    · rename_i runs hruns
      obtain ⟨t, hcreated, h⟩ := bind_eq_ok.mp h
      have hlookup : ∀ id, t.run? id =
          if a.runId = id then some (a.row (C.digest a.request)) else s.run? id := by
        intro id
        rw [appendEvent_ok hcreated]
        exact Table.get?_insert hruns id
      split at h
      · rename_i steps firstStepId _ _
        obtain ⟨u, hstart, h⟩ := bind_eq_ok.mp h
        cases h
        obtain ⟨w, payload, hquiet, hu⟩ := startRun_ok hstart
        -- the steps leave the new row alone, and the start moves it on
        have hrun : ∀ id, s'.run? id = if id = a.runId then
            some { a.row (C.digest a.request) with
              state := .running, stateVersion := 1, currentStepId := firstStepId }
            else s.run? id := by
          intro id
          rw [hu, Store.run?_of_runs Store.pushEvent_runs, Store.setRun_run?, hquiet.run? id,
            hlookup id]
          by_cases hid : id = a.runId
          · simp [hid]
          · have hne : ¬ a.runId = id := fun heq => hid heq.symm
            simp [hid, hne]
        have hnew := hrun a.runId
        rw [if_pos rfl] at hnew
        refine ⟨?_, ?_, Or.inr ?_, ?_⟩
        · simp only [hnew, Option.getD_some]
          exact hnew
        · simp only [hnew, Option.getD_some]
          rfl
        · simp only [hnew, Option.getD_some]
          rfl
        · intro id run hsome hnone
          rw [hrun] at hsome
          by_cases hid : id = a.runId
          · rw [if_pos hid] at hsome
            simp only [hnew, Option.getD_some]
            exact (Option.some.inj hsome).symm
          · rw [if_neg hid, hnone] at hsome
            cases hsome
      · cases h
        refine ⟨?_, rfl, Or.inr rfl, ?_⟩
        · show s'.run? a.runId = _
          rw [hlookup, if_pos rfl]
        · intro id run hsome hnone
          rw [hlookup] at hsome
          by_cases hid : a.runId = id
          · rw [if_pos hid] at hsome
            exact (Option.some.inj hsome).symm
          · rw [if_neg hid, hnone] at hsome
            cases hsome

theorem endRun_absent {owner : String} {runId id : RunId} {reason eventType : String}
    {payload : RunRow → Json} {r : RunRow} (hnone : s.run? id = none)
    (h : endRun C s owner runId reason eventType payload = .ok (r, s')) : s'.run? id = none := by
  obtain ⟨run, -, ⟨-, rfl⟩ | ⟨-, t, hquiet, rfl⟩⟩ := endRun_ok h
  · exact hnone
  · rw [Store.run?_of_runs Store.pushEvent_runs, Store.setRun_run?, hquiet.run? id]
    show (if id = runId then (s.run? id).map _ else s.run? id) = none
    simp [hnone]

/-- Only a creation makes a run. -/
theorem callStep_absent {id : RunId} (hc : ∀ a, c ≠ .createRun a) (hnone : s.run? id = none) :
    (callStep C s c).run? id = none := by
  have hset : ∀ {t : Store} {runId : RunId} {set : RunRow → RunRow}
      {hset : ∀ row, (set row).runId = row.runId} {eventType : String} {payload : Json},
      t.run? id = none → ((t.setRun runId set hset).pushEvent runId eventType payload).run? id =
        none := by
    intro t runId set hset eventType payload ht
    rw [Store.run?_of_runs Store.pushEvent_runs, Store.setRun_run?, ht]
    simp
  cases c <;> refine committed_rec (P := fun t => Store.run? t id = none) hnone ?_ <;> intro r t h
  case createRun a => exact absurd rfl (hc a)
  case transitionRun a =>
    obtain ⟨run, -, -, -, -, -, payload, rfl⟩ := transitionRun_ok h
    exact hset hnone
  case resolveOpenWaits => rwa [(resolveOpenWaitsSystem_quiet h).run?]
  case createWait => rwa [(createWait_quiet h).run?]
  case resolveWait => rwa [(resolveWait_quiet h).run?]
  case createStep => rwa [(createStep_quiet h).run?]
  case transitionStep => rwa [(transitionStep_quiet h).run?]
  case insertAction =>
    rcases insertAction_ok h with ⟨rfl, -⟩ | ⟨key, actions, payload, -, -, -, -, rfl⟩ <;> exact hnone
  case claimAction =>
    rcases claimAction_ok h with ⟨-, rfl⟩ | ⟨row, -, -, -, rfl⟩ <;> exact hnone
  case markDispatchStarted =>
    obtain ⟨row, -, -, ⟨-, -, rfl⟩ | ⟨-, -, rfl⟩⟩ := markDispatchStarted_ok h <;> exact hnone
  case completeAction =>
    obtain ⟨row, -, ⟨-, rfl⟩ | ⟨-, -, payload, rfl⟩⟩ := finishAction_ok h <;> exact hnone
  case failAction =>
    obtain ⟨row, -, ⟨-, rfl⟩ | ⟨-, -, payload, rfl⟩⟩ := finishAction_ok h <;> exact hnone
  case markActionOutcomeUnknown =>
    obtain ⟨row, -, ⟨-, rfl⟩ | ⟨-, -, u, payload, hrecover, rfl⟩⟩ := markActionOutcomeUnknown_ok h
    · exact hnone
    · rcases recoverRun_ok hrecover with ⟨-, rfl⟩ | ⟨run, -, -, -, rfl⟩
      · exact hnone
      · rw [Store.run?_of_runs Store.pushEvent_runs]
        exact hset hnone
  case reclaimExpiredActions => rwa [(reclaimExpiredActions_ok h).run?]
  case recordReconciledOutcome =>
    obtain ⟨state, row, -, -, ⟨-, rfl⟩ | ⟨-, payload, rfl⟩⟩ := recordReconciledOutcome_ok h
    · exact hnone
    · split
      · exact hset hnone
      · exact hnone
  case cancelRun owner runId expectedState expectedVersion =>
    obtain ⟨run, -, -, -, -, -, payload, rfl⟩ := cancelRun_ok h
    show (s.setRun runId (RunRow.moved (s.cancelTarget runId))
      (RunRow.moved_runId (s.cancelTarget runId))).run? id = none
    rw [Store.setRun_run?, hnone]
    simp
  case securityRevokeRun => exact endRun_absent hnone h
  case markRunNeedsAttention => exact endRun_absent hnone h
  case beginControlCommand => rwa [(beginControlCommand_quiet h).run?]
  case completeControlCommand => rwa [(completeControlCommand_quiet h).run?]

/-! ## The law is kept -/

theorem proven_empty : Proven C .empty [] := by
  constructor
  · intro row hrow
    cases hrow
  · intro row hrow
    cases hrow
  · intro row hrow
    cases hrow
  · intro id run hrun
    cases hrun
  · intro id run hrun
    cases hrun

/-- More answers take nothing back. -/
theorem Proven.answered (h : Proven C s asked) (hasked : ∀ e ∈ asked, e ∈ asked') :
    Proven C s asked' where
  attempts := h.attempts
  commits := h.commits
  steps := fun row hrow hcommit => (h.steps row hrow hcommit).mono (.refl s) hasked
  runs := h.runs
  requests := h.requests

theorem actionId_commit {a : InsertAction} (hkind : a.actionKind = .commit)
    (hstep : a.stepId = "commit") (hattempt : a.attempt = 1) : a.actionId = commitId a.runId := by
  unfold InsertAction.actionId commitId
  rw [hkind, hstep, hattempt]
  rfl

theorem childKey_commit {a : InsertAction} {key : String} (h : a.childKey = .ok key)
    (hkind : a.actionKind = .commit) (hstep : a.stepId = "commit") (hattempt : a.attempt = 1) :
    key = commitKey a.runId := by
  obtain ⟨_, -, h⟩ := bind_eq_ok.mp h
  simp only [hkind, ActionKind.isScene] at h
  split at h
  · contradiction
  · cases h
    have hname : ":" ++ ("commit" ++ (":" ++ ("1" ++ (":" ++ "commit")))) = ":commit:1:commit" := by
      decide
    rw [hstep, hattempt, commitKey, ← hname]
    show "wf:" ++ a.runId ++ ":" ++ "commit" ++ ":" ++ "1" ++ ":" ++ "commit" = _
    simp only [String.append_assoc]
  · cases h

theorem step_commits (h : Proven C s asked) (hallowed : Allowed s asked c) :
    ∀ row ∈ (callStep C s c).actions.rows, row.actionKind = .commit →
      row.actionId = commitId row.runId ∧ row.idempotencyKey = commitKey row.runId := by
  intro row' hrow' hkind
  have hlookup : (callStep C s c).action? row'.actionId = some row' := Table.get?_of_mem hrow'
  rcases callStep_actions.before hlookup with ⟨row, hrow, hchange⟩ | ⟨-, a, key, rfl, hkey, rfl, -⟩
  · obtain ⟨hmem, hid⟩ := Store.action?_some hrow
    rcases hchange with rfl | hrewrites
    · exact h.commits _ hmem hkind
    · have hsame := hrewrites.same
      rw [hsame.actionKind] at hkind
      rw [hsame.actionId, hsame.runId, hsame.idempotencyKey]
      exact h.commits row hmem hkind
  · obtain ⟨hstep, hattempt⟩ := hallowed hkind
    exact ⟨actionId_commit hkind hstep hattempt, childKey_commit hkey hkind hstep hattempt⟩

theorem step_attempts (h : Proven C s asked) (hallowed : Allowed s asked c) :
    ∀ row ∈ (callStep C s c).steps.rows, row.attempt = 1 := by
  intro row' hrow'
  rcases callStep_steps.new row' hrow' with ⟨row, hrow, hkey, -⟩ | hadds
  · have hattempt : row'.attempt = row.attempt := congrArg (fun key => key.2.2) hkey
    rw [hattempt]
    exact h.attempts row hrow
  · cases c <;> simp only [Call.Adds] at hadds
    case createRun a =>
      obtain ⟨specs, hspecs, spec, hspec, rfl | rfl⟩ := hadds
      · exact hallowed specs hspecs spec hspec
      · exact hallowed specs hspecs spec hspec
    case createStep => exact absurd hallowed id

theorem step_backed (h : Proven C s asked) (hallowed : Allowed s asked c) :
    ∀ row ∈ (callStep C s c).steps.rows, row.stepId = "commit" →
      Backed (callStep C s c) asked row.runId row.outputRef row.state := by
  intro row' hrow' hcommit
  have hkept : Kept s (callStep C s c) := callStep_kept
  rcases callStep_steps.new row' hrow' with ⟨row, hrow, hkey, hchange⟩ | hadds
  · have hrun : row'.runId = row.runId := congrArg Prod.fst hkey
    have hstep : row'.stepId = row.stepId := congrArg (fun key => key.2.1) hkey
    rw [hstep] at hcommit
    have hbefore := h.steps row hrow hcommit
    rcases hchange with rfl | hadvances
    · exact hbefore.mono hkept fun _ he => he
    · cases c <;> simp only [Call.Advances] at hadvances
      case transitionStep a =>
        -- the call brings along what stands behind the new state
        obtain ⟨hown, -, -, -, rfl⟩ := hadvances
        have hid : row.runId = a.runId := congrArg Prod.fst hown
        have hname : row.stepId = a.stepId := congrArg (fun key => key.2.1) hown
        rw [hname] at hcommit
        have hnew := hallowed hcommit
        rw [← hid] at hnew
        exact hnew.mono hkept fun _ he => he
      case createRun a =>
        obtain ⟨hpending, rfl⟩ := hadvances
        rw [hpending] at hbefore
        exact hbefore
  · -- a new step has no output
    have hempty : row'.outputRef = none ∧ (row'.state = .pending ∨ row'.state = .ready) := by
      cases c <;> simp only [Call.Adds] at hadds
      case createRun a =>
        obtain ⟨specs, -, spec, -, rfl | rfl⟩ := hadds
        · exact ⟨rfl, Or.inl rfl⟩
        · exact ⟨rfl, Or.inr rfl⟩
      case createStep => exact absurd hallowed id
    obtain ⟨hnone, hstate | hstate⟩ := hempty
    · rw [hstate]
      exact hnone
    · rw [hstate]
      exact hnone

/-- Only a transition makes a run succeed. -/
theorem moves_succeeded {run : RunRow} (h : c.Moves s run .succeeded) :
    ∃ a, c = .transitionRun a ∧ a.runId = run.runId ∧ a.target = .succeeded := by
  cases c <;> simp only [Call.Moves] at h
  case transitionRun a => exact ⟨a, rfl, h.1, h.2.1⟩
  case markActionOutcomeUnknown => cases h.1
  case recordReconciledOutcome => cases h.1
  case cancelRun owner runId expectedState expectedVersion =>
    obtain ⟨-, -, -, htarget, -⟩ := h
    unfold Store.cancelTarget at htarget
    split at htarget <;> cases htarget
  case securityRevokeRun => cases h.2
  case markRunNeedsAttention => cases h.2

theorem step_runs (h : Proven C s asked) (hallowed : Allowed s asked c) :
    ∀ id run, (callStep C s c).run? id = some run → run.state = .succeeded →
      run.skillId ≠ cleanupAudit → CommitSucceeded (callStep C s c) id := by
  intro id run' hrun' hdone hskill
  have hkept : Kept s (callStep C s c) := callStep_kept
  have hchange : RunChange s (callStep C s c) c := callStep_runs
  cases hrun : s.run? id with
  | none =>
      rcases (hchange.fresh hrun hrun').initial with ⟨hstate, -⟩ | ⟨hstate, -⟩
      · rw [hstate] at hdone
        cases hdone
      · rw [hstate] at hdone
        cases hdone
  | some run =>
      rcases hchange.after hrun with hsame | ⟨target, stepId, hmoved, -, hmoves, -⟩
      · rw [hsame] at hrun'
        cases hrun'
        exact hkept.commitSucceeded (h.runs id _ hrun hdone hskill)
      · rw [hmoved] at hrun'
        cases hrun'
        obtain rfl : target = .succeeded := hdone
        obtain ⟨a, rfl, hown, htarget⟩ := moves_succeeded hmoves
        have hid : a.runId = id := hown.trans (Store.run?_some hrun).2
        subst hid
        rcases hallowed htarget run hrun with haudit | hcommit
        · exact absurd haudit hskill
        · exact hkept.commitSucceeded hcommit

theorem step_requests (h : Proven C s asked) :
    ∀ id run, (callStep C s c).run? id = some run → ∃ a : CreateRun,
      run.requestHash = C.digest a.request ∧ run.skillId = a.pin "skill_id" := by
  intro id run' hrun'
  cases hrun : s.run? id with
  | some run =>
      obtain ⟨a, hhash, hskill⟩ := h.requests id run hrun
      rcases callStep_runs.after hrun with hsame | ⟨target, stepId, hmoved, -⟩
      · rw [hsame] at hrun'
        cases hrun'
        exact ⟨a, hhash, hskill⟩
      · rw [hmoved] at hrun'
        cases hrun'
        exact ⟨a, hhash, hskill⟩
  | none =>
      by_cases hc : ∃ a, c = .createRun a
      · obtain ⟨a, rfl⟩ := hc
        cases hcreate : createRun C s a with
        | error e =>
            simp only [callStep, hcreate, committed_error] at hrun'
            rw [hrun] at hrun'
            cases hrun'
        | ok out =>
            obtain ⟨r, t⟩ := out
            simp only [callStep, hcreate, committed_ok] at hrun'
            obtain ⟨hmade, hhash, hskill, honly⟩ := createRun_row hcreate
            have hsame := honly id run' hrun' hrun
            subst hsame
            rcases hskill with rfl | hskill
            · rw [hrun] at hrun'
              cases hrun'
            · exact ⟨a, hhash, hskill⟩
      · have habsent := callStep_absent (C := C) (fun a ha => hc ⟨a, ha⟩) hrun
        rw [habsent] at hrun'
        cases hrun'

/-- A call that brings along what it must keeps the law. -/
theorem callStep_proven (h : Proven C s asked) (hallowed : Allowed s asked c) :
    Proven C (callStep C s c) asked where
  attempts := step_attempts h hallowed
  commits := step_commits h hallowed
  steps := step_backed h hallowed
  runs := step_runs h hallowed
  requests := step_requests h

end

end AutocadMcp.Workflow.Service
