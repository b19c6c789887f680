import AutocadMcp.Workflow.CommitProof
import AutocadMcp.Workflow.Routine

/-!
# A write succeeds on proof

A write run succeeds in one place, after its commit step has. That step succeeds on an
answer of the status resolver about the intent that its action has stored. Both hold
however the calls of the service interleave: what a call knows of the tables when it
acts is something that no other call takes back.
-/

namespace AutocadMcp.Workflow.Service

abbrev Lawful (W : Config) (v : View signature) : Prop := Proven W.codec v.state.store v.asked

/-- What is known of a view stays known of the next. -/
structure Grows (v w : View signature) : Prop where
  kept : Kept v.state.store w.state.store
  asked : ∀ e ∈ v.asked, e ∈ w.asked

/-- The view with other tables. -/
def withStore (v : View signature) (s : Store) : View signature :=
  { v with state := { v.state with store := s } }

/-- From this view on the program keeps the law, and returns as it should. -/
abbrev Ends {α : Type} (W : Config) (onOk : α → View signature → Prop) (m : Program α)
    (v : View signature) : Prop :=
  Sat (Lawful W) Grows onOk (fun _ _ => True) m v

abbrev Stable (K : View signature → Prop) : Prop := ∀ v w, Grows v w → K v → K w

section

variable {W : Config} {α β : Type} {v w : View signature} {onOk : α → View signature → Prop}

theorem Grows.refl (v : View signature) : Grows v v := ⟨.refl _, fun _ h => h⟩

theorem Grows.trans (u v w : View signature) (h : Grows u v) (h' : Grows v w) : Grows u w :=
  ⟨h.kept.trans h'.kept, fun e he => h'.asked e (h.asked e he)⟩

theorem answerable : Answerable (Lawful W) Grows := by
  intro v q answer hinv
  have hasked : ∀ e ∈ v.asked, e ∈ (v.answered q answer).asked := fun e he =>
    List.mem_append_left _ he
  exact ⟨hinv.answered hasked, .refl _, hasked⟩

theorem routine_allowed {s : Store} {asked : Answers} {c : Call} (h : Routine c) :
    Allowed s asked c := by
  cases c
  case transitionStep a =>
    intro hcommit
    obtain ⟨houtput, hwaiting, hsucceeded⟩ := h hcommit
    cases htarget : a.target
    case waiting => exact absurd htarget hwaiting
    case succeeded => exact absurd htarget hsucceeded
    all_goals exact houtput
  case transitionRun a => exact fun htarget => absurd htarget h
  case insertAction a => exact h
  all_goals trivial

/-- Tables and answers carry the law; the record of the control commands does not. -/
theorem step_lawful {c : Call} (hinv : Lawful W v) (h : Allowed v.state.store v.asked c)
    (hstore : w.state.store = callStep W.codec v.state.store c) (hasked : w.asked = v.asked) :
    Lawful W w ∧ Grows v w := by
  constructor
  · show Proven W.codec w.state.store w.asked
    rw [hstore, hasked]
    exact callStep_proven hinv h
  · refine ⟨?_, fun e he => ?_⟩
    · rw [hstore]
      exact callStep_kept
    · rw [hasked]
      exact he

theorem same_lawful (hinv : Lawful W v) (hstore : w.state.store = v.state.store)
    (hasked : w.asked = v.asked) : Lawful W w ∧ Grows v w := by
  constructor
  · show Proven W.codec w.state.store w.asked
    rw [hstore, hasked]
    exact hinv
  · refine ⟨?_, fun e he => ?_⟩
    · rw [hstore]
      exact .refl _
    · rw [hasked]
      exact he

theorem safe_routine {m : Program α} (h : Makes W Routine m) : Safe (Lawful W) Grows m := by
  refine (h.calm fun v w hinv hcalls => ?_).safe answerable
  obtain ⟨hasked, -, -, -, hsame | ⟨c, hc, hstore⟩⟩ := hcalls
  · exact same_lawful hinv hsame hasked
  · exact step_lawful hinv (routine_allowed hc) hstore hasked

/-! ## What is known -/

/-- The row of the run is still the one of this owner and skill. -/
def Known (run : RunRow) (v : View signature) : Prop :=
  ∃ r, v.state.store.run? run.runId = some r ∧ r.ownerSubject = run.ownerSubject ∧
    r.skillId = run.skillId

theorem stable_known (run : RunRow) : Stable (Known run) := by
  rintro v w hgrows ⟨r, hr, howner, hskill⟩
  obtain ⟨r', hr', howner', hskill'⟩ := hgrows.kept.runs _ r hr
  exact ⟨r', hr', howner'.trans howner, hskill'.trans hskill⟩

theorem stable_commitSucceeded (runId : RunId) :
    Stable fun v => CommitSucceeded v.state.store runId :=
  fun _ _ hgrows h => hgrows.kept.commitSucceeded h

theorem stable_backed (runId : RunId) (outputRef : Option Json) (state : StepState) :
    Stable fun v => Backed v.state.store v.asked runId outputRef state :=
  fun _ _ hgrows h => h.mono hgrows.kept hgrows.asked

theorem stable_committed (runId : RunId) (intent : Json) :
    Stable fun v => Committed v.state.store runId intent :=
  fun _ _ hgrows h => hgrows.kept.committed h

theorem known_of_getRun {owner : String} {runId : RunId} {run : RunRow}
    (h : v.state.store.getRun owner runId = some run) :
    Known run v ∧ run.runId = runId ∧ run.ownerSubject = owner := by
  obtain ⟨hrun, howner⟩ := Store.getRun_some h
  have hid := (Store.run?_some hrun).2
  exact ⟨⟨run, by rw [hid]; exact hrun, rfl, rfl⟩, hid, howner⟩

/-! ## Rules -/

/-- A safe program in between makes nothing untrue. -/
theorem ends_safe {K : View signature → Prop} (hstable : Stable K) {m : Program β}
    (hm : Safe (Lawful W) Grows m) (hK : K v) {f : β → Program α}
    (hf : ∀ b w, K w → Ends W onOk (f b) w) : Ends W onOk (m >>= f) v :=
  sat_bind (((hm v).keeping K hstable hK).mono (fun b w hw => hf b w hw.2) fun _ _ _ => trivial)

theorem ends_after {K : View signature → Prop} (hstable : Stable K) {m : Program β}
    (hm : Makes W Routine m) (hK : K v) {f : β → Program α}
    (hf : ∀ b w, K w → Ends W onOk (f b) w) : Ends W onOk (m >>= f) v :=
  ends_safe hstable (safe_routine hm) hK hf

theorem ends_routine {m : Program α} (hm : Makes W Routine m) :
    Ends W (fun _ _ => True) m v := safe_routine hm v

theorem ends_fetch {f : Store → Except Failure β} {g : β → Program α}
    (h : ∀ w b, Grows v w → Lawful W w → f w.state.store = .ok b → Ends W onOk (g b) w) :
    Ends W onOk (fetch f >>= g) v :=
  sat_bind (sat_read Grows.refl h fun _ _ _ _ _ => trivial)

/-- A transaction that brings along what it must. -/
theorem ends_transact {f : Tick → Store → Except Failure (α × Store)} (c : Tick → Call)
    (hc : ∀ tick s, callStep W.codec s (c tick) = committed s (f tick s))
    (hallowed : ∀ w tick, Grows v w → Lawful W w → Allowed w.state.store w.asked (c tick))
    (hok : ∀ w tick a s, Grows v w → Lawful W w → f tick w.state.store = .ok (a, s) →
      Lawful W (withStore w s) → Grows w (withStore w s) → onOk a (withStore w s)) :
    Ends W onOk (transact f) v := by
  refine sat_perform (fun w tick a s hgrows hinv htx => ?_) fun _ _ _ _ _ _ => trivial
  cases hf : f tick w.state.store with
  | error e =>
      rw [hf] at htx
      cases htx
  | ok out =>
      rw [hf] at htx
      cases htx
      have hafter : out.2 = callStep W.codec w.state.store (c tick) := by
        rw [hc, hf]
        rfl
      obtain ⟨hinv', hgrows'⟩ := step_lawful (w := withStore w out.2) hinv
        (hallowed w tick hgrows hinv) hafter rfl
      exact ⟨hinv', hgrows', hok w tick out.1 out.2 hgrows hinv hf hinv' hgrows'⟩

theorem ends_currentRun {owner : String} {runId : RunId} {g : RunRow → Program α}
    (h : ∀ w run, Grows v w → Lawful W w → Known run w → run.runId = runId →
      run.ownerSubject = owner → Ends W onOk (g run) w) :
    Ends W onOk (currentRun owner runId >>= g) v := by
  refine ends_fetch fun w run hgrows hinv hread => ?_
  cases hrun : w.state.store.getRun owner runId with
  | none =>
      rw [hrun] at hread
      cases hread
  | some found =>
      rw [hrun] at hread
      cases hread
      obtain ⟨hknown, hid, howner⟩ := known_of_getRun hrun
      exact h w _ hgrows hinv hknown hid howner

theorem ends_listSteps {owner : String} {runId : RunId} {g : List StepRow → Program α}
    (h : ∀ w run, Grows v w → Lawful W w → w.state.store.getRun owner runId = some run →
      Ends W onOk (g (w.state.store.stepsOf runId)) w) :
    Ends W onOk (listSteps owner runId >>= g) v := by
  refine ends_fetch fun w steps hgrows hinv hread => ?_
  cases hrun : requireRun w.state.store owner runId with
  | error e =>
      rw [hrun] at hread
      cases hread
  | ok run =>
      rw [hrun] at hread
      cases hread
      obtain ⟨hfound, howner⟩ := requireRun_ok hrun
      exact h w run hgrows hinv (by simp [Store.getRun, hfound, howner])

theorem stepNamed_some {s : Store} {runId : RunId} {stepId : StepId} {row : StepRow}
    (h : stepNamed (s.stepsOf runId) stepId = some row) :
    row ∈ s.steps.rows ∧ row.runId = runId ∧ row.stepId = stepId := by
  have hmem := List.mem_of_getLast? h
  rw [List.mem_filter] at hmem
  obtain ⟨hrow, hname⟩ := hmem
  obtain ⟨hstored, hrun⟩ := Store.mem_stepsOf.mp hrow
  exact ⟨hstored, hrun, by simpa using hname⟩

/-- A step that must be there. -/
theorem ends_theStep {steps : List StepRow} {stepId : StepId} {g : StepRow → Program α}
    (h : ∀ row, stepNamed steps stepId = some row → Ends W onOk (g row) v) :
    Ends W onOk (theStep steps stepId >>= g) v := by
  unfold theStep
  cases hrow : stepNamed steps stepId with
  | none => exact trivial
  | some row => exact h row hrow

/-! ## After a commit -/

/-- A write run succeeds after its commit step. -/
theorem finishWriteAfterCommit_ends {run : RunRow} {status : Json}
    (h : CommitSucceeded v.state.store run.runId) :
    Ends W (fun _ _ => True) (finishWriteAfterCommit W run status) v := by
  have hstable := stable_commitSucceeded run.runId
  refine ends_after hstable makes_currentRun h fun current w hw => ?_
  refine ends_after hstable ?_ hw fun current w hw => ?_
  · split
    · exact calm_bind makes_resolveOpenWaits fun _ => makes_transitionRun (by decide)
    · exact calm_pure _
  · split
    · refine ends_after hstable (makes_completeSteps (by decide)) hw fun _ w hw => ?_
      refine ends_currentRun fun u current hgrows hinv hknown hid howner => ?_
      have hu := hstable w u hgrows hw
      split
      · -- the only place where a write run succeeds
        refine ends_transact (fun _ => .transitionRun ⟨current.ownerSubject, current.runId,
          current.state, current.stateVersion, .succeeded, some "finish", "workflow_succeeded"⟩)
          (fun _ _ => rfl) ?_ fun _ _ _ _ _ _ _ _ _ => trivial
        intro x tick hgrows' hinv' _ r hr
        rw [hid]
        exact Or.inr (hstable u x hgrows' hu)
      · exact sat_pure trivial
    · exact sat_pure trivial

/-- What the answer about an intent brings to the commit step of a run. -/
def Answered (run : RunRow) (commit : StepRow) (status : Json) (v : View signature) : Prop :=
  (commit.state = .waiting ∧ (textField status "state" = some "succeeded" →
      Backed v.state.store v.asked run.runId none .succeeded)) ∨
    CommitSucceeded v.state.store run.runId

theorem stable_answered (run : RunRow) (commit : StepRow) (status : Json) :
    Stable (Answered run commit status) := by
  rintro v w hgrows (⟨hwaiting, hbacked⟩ | hdone)
  · exact Or.inl ⟨hwaiting, fun hstate =>
      stable_backed run.runId none .succeeded v w hgrows (hbacked hstate)⟩
  · exact Or.inr (stable_commitSucceeded run.runId v w hgrows hdone)

/-- A commit step succeeds on an answer about its intent. -/
theorem commitSucceeded_ends {run : RunRow} {commit : StepRow} {status : Json}
    (hstate : textField status "state" = some "succeeded") (h : Answered run commit status v) :
    Ends W (fun _ _ => True) (commitSucceeded W run commit status) v := by
  have hstable := stable_answered run commit status
  refine ends_after hstable makes_resolveOpenWaits h fun _ w hw => ?_
  have hcommit : Ends W (fun _ w => CommitSucceeded w.state.store run.runId)
      (if commit.state = .waiting then do
          let _ ← transitionStep W run "commit" commit .succeeded (some (asResult status))
          return ()
        else return () : Program Unit) w := by
    split
    · refine sat_bind ?_
      refine ends_transact (fun _ => .transitionStep ⟨run.ownerSubject, run.runId, "commit", 1,
        commit.state, commit.stateVersion, .succeeded, some (asResult status), none⟩)
        (fun _ _ => rfl) ?_ ?_
      · intro x tick hgrows hinv _
        rcases hstable w x hgrows hw with ⟨-, hbacked⟩ | ⟨row, hrow, hrun, hstep, hdone⟩
        · exact hbacked hstate
        · have hrests := hinv.steps row hrow hstep
          rw [hdone, hrun] at hrests
          exact hrests
      · intro x tick row s _ _ hmoved _ _
        obtain ⟨hrow, hrun, hstep, hdone⟩ := transitionStep_leaves hmoved
        exact sat_pure ⟨row, hrow, hrun, hstep, hdone⟩
    · rename_i hnot
      rcases hw with ⟨hwaiting, -⟩ | hdone
      · exact absurd hwaiting hnot
      · exact sat_pure hdone
  refine sat_bind (hcommit.mono (fun _ x hx => ?_) fun _ _ _ => trivial)
  refine sat_bind ((finishWriteAfterCommit_ends hx).mono (fun _ _ _ => ?_) fun _ _ _ => trivial)
  exact sat_pure trivial

theorem applyCommitStatus_ends {run : RunRow} {commit : StepRow} {status : Json}
    (h : Answered run commit status v) :
    Ends W (fun _ _ => True) (applyCommitStatus W run commit status) v := by
  unfold applyCommitStatus
  dsimp only
  split
  · exact ends_routine makes_commitAwaitsApproval
  · split
    · exact ends_routine makes_commitReleased
    · split
      · exact ends_routine makes_commitNeedsRecovery
      · split
        · rename_i hstate
          exact commitSucceeded_ends hstate h
        · exact ends_routine (calm_bind makes_markRunNeedsAttention fun _ => calm_pure ())

theorem resultOf_asResult {row : StepRow} {value : Json} (h : row.outputRef = some (asResult value))
    (hdict : value.isDict = true) : resultOf row = some value := by
  have hne : value ≠ .null := by
    rintro rfl
    cases hdict
  simp [resultOf, h, asResult, Json.get?, hne]

/-- A commit step that has stored an intent waits for it or has succeeded. -/
theorem intentOf_backed {s : Store} {asked : Answers} {commit : StepRow}
    {intentId : String} (hrests : Backed s asked commit.runId commit.outputRef commit.state)
    (hintent : intentOf commit = some intentId) :
    (commit.state = .waiting ∧ ∃ intent, Committed s commit.runId intent ∧
      textField intent "intent_id" = some intentId) ∨ commit.state = .succeeded := by
  cases hstate : commit.state <;> rw [hstate] at hrests
  case waiting =>
    obtain ⟨intent, hcommitted, houtput⟩ := hrests
    refine Or.inl ⟨rfl, intent, hcommitted, ?_⟩
    obtain ⟨-, -, -, -, -, -, hdict⟩ := hcommitted
    rwa [intentOf, resultOf_asResult houtput hdict, Option.bind_some] at hintent
  case succeeded => exact Or.inr rfl
  -- in the other states there is no output that could have an intent
  all_goals
    have hnone : commit.outputRef = none := hrests
    simp [intentOf, resultOf, hnone] at hintent

theorem reconcileCommit_ends {run : RunRow} {commit : StepRow}
    (hinv : Lawful W v) (hrow : commit ∈ v.state.store.steps.rows)
    (hid : commit.runId = run.runId) (hstep : commit.stepId = "commit")
    (hrun : v.state.store.getRun run.ownerSubject run.runId ≠ none) :
    Ends W (fun _ _ => True) (reconcileCommit W run commit) v := by
  unfold reconcileCommit
  cases hintent : intentOf commit with
  | none => exact sat_pure trivial
  | some intentId =>
      obtain ⟨r, hr⟩ := Option.ne_none_iff_exists'.mp hrun
      obtain ⟨hfound, howner⟩ := Store.getRun_some hr
      have hrests := hinv.steps commit hrow hstep
      -- what the commit step rests on before the question is still there with the answer
      have hanswered : ∀ w status, Grows v w →
          Answered run commit status (w.answered (.commitStatus run.ownerSubject intentId)
            (.ok status)) := by
        intro w status hgrows
        rcases intentOf_backed hrests hintent with
          ⟨hwaiting, intent, hcommitted, htext⟩ | hdone
        · refine Or.inl ⟨hwaiting, fun hsucceeded => ?_⟩
          obtain ⟨r', hr', howner', -⟩ := hgrows.kept.runs _ r hfound
          rw [hid] at hcommitted
          refine ⟨intent, intentId, r', hgrows.kept.committed hcommitted, htext, hr', status, ?_,
            hsucceeded⟩
          rw [howner', howner]
          exact List.mem_append_right _ (List.mem_singleton_self _)
        · exact Or.inr ⟨commit, hgrows.kept.steps commit hrow hdone, hid, hstep, hdone⟩
      refine sat_bind (sat_question answerable (fun w status hgrows _ => ?_) fun _ _ _ _ => trivial)
      exact applyCommitStatus_ends (hanswered w status hgrows)

/-- `_reconcile_commit_status` keeps the law. -/
theorem reconcileCommitStatus_safe {run : RunRow} :
    Safe (Lawful W) Grows (reconcileCommitStatus W run) := by
  intro v
  refine ends_listSteps fun w r _ hinv hr => ?_
  split
  · exact sat_pure trivial
  · rename_i commit hnamed
    obtain ⟨hrow, hid, hstep⟩ := stepNamed_some hnamed
    exact reconcileCommit_ends hinv hrow hid hstep (by rw [hr]; exact Option.some_ne_none r)

/-! ## The request for a commit -/

theorem completedResult_some {action : ActionRow} {result : Json}
    (h : completedResult action = some result) :
    action.state = .completed ∧ action.result = some result ∧ result.isDict = true := by
  unfold completedResult at h
  split at h
  · rename_i hdone
    obtain ⟨hresult, hdict⟩ := Option.filter_eq_some_iff.mp h
    exact ⟨hdone, hresult, hdict⟩
  · cases h

/-- A commit action has its place under the id of the run's commit. -/
theorem committed_of_action {run : RunRow} {action : ActionRow} {intent : Json}
    (hinv : Lawful W v) (hrow : action ∈ v.state.store.actionsOf run.runId)
    (hkind : action.actionKind = .commit) (hdone : completedResult action = some intent) :
    Committed v.state.store run.runId intent := by
  obtain ⟨hmem, hrun⟩ := Store.mem_actionsOf.mp hrow
  obtain ⟨hstate, hresult, hdict⟩ := completedResult_some hdone
  refine ⟨action, ?_, hrun, hkind, hstate, hresult, hdict⟩
  rw [← hrun, ← (hinv.commits action hmem hkind).1]
  exact Table.get?_of_mem hmem

theorem theAction_ends {run : RunRow} {kind : ActionKind} {g : ActionRow → Program α}
    (h : ∀ w action, Grows v w → Lawful W w → action ∈ w.state.store.actionsOf run.runId →
      action.actionKind = kind → Ends W onOk (g action) w) :
    Ends W onOk (theAction run kind >>= g) v := by
  have hread : Ends W (fun action w => Ends W onOk (g action) w) (theAction run kind) v := by
    refine ends_fetch fun w actions hgrows hinv hlist => ?_
    cases hrun : requireRun w.state.store run.ownerSubject run.runId with
    | error e =>
        rw [hrun] at hlist
        cases hlist
    | ok r =>
        rw [hrun] at hlist
        cases hlist
        cases hfind : (w.state.store.actionsOf run.runId).find?
            fun action => action.actionKind = kind with
        | none => exact trivial
        | some action =>
            have hkind := List.find?_some hfind
            refine sat_pure (h w action hgrows hinv (List.mem_of_find?_eq_some hfind) ?_)
            simpa using hkind
  exact sat_bind hread

/-- The intent that a commit returns is the one that its action has stored. -/
theorem commitIntent_ends {run : RunRow} {previewId : String} {scopes : List String} :
    Ends W (fun intent w => ∀ value ∈ intent, Committed w.state.store run.runId value)
      (commitIntent W run previewId scopes) v := by
  refine sat_handle ?_
  refine (?_ : Ends W _ _ v).mono (fun _ _ h => h) fun e w _ => trivial
  have hinsert : Makes W Routine (insertAction W ⟨run.ownerSubject, run.runId, "commit", 1,
      .commit, commitPayload run previewId scopes, .notStarted, .write, none⟩) :=
    makes_insertAction fun _ => ⟨rfl, rfl⟩
  refine ends_after (K := fun _ => True) (fun _ _ _ _ => trivial) hinsert trivial fun _ w _ => ?_
  refine ends_after (K := fun _ => True) (fun _ _ _ _ => trivial) makes_runOnce trivial
    fun _ w _ => ?_
  refine theAction_ends fun u action _ hinv hrow hkind => sat_pure ?_
  intro value hvalue
  exact committed_of_action hinv hrow hkind hvalue

theorem awaitApproval_safe {run : RunRow} : Safe (Lawful W) Grows (awaitApproval W run) := by
  refine safe_bind (safe_routine makes_currentRun) fun current => ?_
  split
  · exact safe_bind reconcileCommitStatus_safe fun _ => safe_routine makes_currentRun
  · refine safe_routine (calm_bind ?_ fun current => ?_)
    · split
      · exact makes_transitionRun (by decide)
      · exact calm_pure _
    · split
      · exact calm_bind (makes_createCommitWait (by decide)) fun _ => calm_pure _
      · exact calm_pure _

theorem commitFrom_safe {run : RunRow} {commit : StepRow} {previewId : String}
    {scopes : List String} : Safe (Lawful W) Grows (commitFrom W run commit previewId scopes) := by
  intro v
  unfold commitFrom
  split
  · split
    · exact awaitApproval_safe v
    · exact ends_routine (makes_refuse _)
  · split
    · refine sat_bind (commitIntent_ends.mono (fun intent w hintent => ?_) fun _ _ _ => trivial)
      cases intent with
      | none => exact ends_routine makes_currentRun
      | some value =>
          have hcommitted : Committed w.state.store run.runId value := hintent value rfl
          refine sat_bind ?_
          refine ends_transact (fun _ => .transitionStep ⟨run.ownerSubject, run.runId, "commit", 1,
            commit.state, commit.stateVersion, .waiting, some (asResult value), none⟩)
            (fun _ _ => rfl) ?_ fun x _ _ s _ _ _ _ _ => awaitApproval_safe _
          intro x tick hgrows _ _
          exact ⟨value, hgrows.kept.committed hcommitted, rfl⟩
    · exact ends_routine (makes_refuse _)

theorem requestCommit_safe {run : RunRow} {previewId : String} {scopes : List String} :
    Safe (Lawful W) Grows (requestCommit W run previewId scopes) :=
  safe_bind (safe_routine makes_requireContinuationAllowed) fun _ =>
    safe_bind (safe_routine makes_listSteps) fun _ =>
      safe_bind (safe_routine makes_theStep) fun _ =>
        safe_bind (safe_routine makes_readied) fun _ =>
          safe_bind (safe_routine makes_begun) fun _ => commitFrom_safe

/-! ## The cleanup audit -/

/-- The run is one of the cleanup audit. -/
def Audits (runId : RunId) (v : View signature) : Prop :=
  ∃ run, v.state.store.run? runId = some run ∧ run.skillId = cleanupAudit

theorem stable_audits (runId : RunId) : Stable (Audits runId) := by
  rintro v w hgrows ⟨run, hrun, hskill⟩
  obtain ⟨run', hrun', -, hskill'⟩ := hgrows.kept.runs _ run hrun
  exact ⟨run', hrun', hskill'.trans hskill⟩

theorem Known.audits {run : RunRow} (h : Known run v) (hskill : run.skillId = cleanupAudit) :
    Audits run.runId v := by
  obtain ⟨r, hr, -, hsame⟩ := h
  exact ⟨r, hr, hsame.trans hskill⟩

/-- An audit succeeds without a commit. -/
theorem succeedAudit_ends {run : RunRow} {version : Nat} (h : Audits run.runId v) :
    Ends W (fun _ _ => True) (transact fun _ s => Workflow.transitionRun W.codec s
      ⟨run.ownerSubject, run.runId, .running, version, .succeeded, none, "completed"⟩) v := by
  refine ends_transact (fun _ => .transitionRun ⟨run.ownerSubject, run.runId, .running, version,
    .succeeded, none, "completed"⟩) (fun _ _ => rfl) ?_ fun _ _ _ _ _ _ _ _ _ => trivial
  intro w tick hgrows _ _ r hr
  obtain ⟨r', hr', hskill⟩ := stable_audits run.runId v w hgrows h
  cases hr.symm.trans hr'
  exact Or.inl hskill

theorem finishReviewed_ends {run : RunRow} {recovered : String} {output : Json}
    (h : Audits run.runId v) :
    Ends W (fun _ _ => True) (finishReviewed W run recovered output) v := by
  have hstable := stable_audits run.runId
  refine ends_after hstable makes_currentRun h fun current w hw => ?_
  refine ends_after hstable ?_ hw fun current w hw => ?_
  · split
    · exact makes_transitionRun (by decide)
    · exact calm_pure _
  · split
    · exact ends_after hstable (makes_completeStep (by decide)) hw fun _ w hw =>
        ends_after hstable makes_currentRun hw fun _ w hw => succeedAudit_ends hw
    · exact sat_pure trivial

theorem finishCleanupAudit_ends {run : RunRow} (h : Audits run.runId v) :
    Ends W (fun _ _ => True) (finishCleanupAudit W run) v := by
  have hstable := stable_audits run.runId
  refine ends_after hstable makes_listSteps h fun _ w hw =>
    ends_after hstable makes_theStep hw fun _ w hw =>
      ends_after hstable makes_acceptReview hw fun _ w hw =>
        ends_after hstable makes_currentRun hw fun running w hw => ?_
  refine ends_after hstable ?_ hw fun running w hw => ?_
  · split
    · exact makes_transitionRun (by decide)
    · exact calm_pure _
  · split
    · exact ends_after hstable (makes_completeStep (by decide)) hw fun _ w hw =>
        ends_after hstable makes_currentRun hw fun _ w hw => succeedAudit_ends hw
    · exact sat_pure trivial

theorem advanceSceneCleanupAudit_ends {run : RunRow} {inputs : Json} (h : Audits run.runId v) :
    Ends W (fun _ _ => True) (advanceSceneCleanupAudit W run inputs) v := by
  have hstable := stable_audits run.runId
  unfold advanceSceneCleanupAudit
  split
  · exact ends_routine (makes_refuse _)
  · split
    · exact ends_routine (makes_refuse _)
    · refine ends_after hstable makes_listSteps h fun steps w hw =>
        ends_after hstable makes_theStep hw fun review w hw => ?_
      split
      · exact finishReviewed_ends hw
      · exact ends_routine (calm_bind makes_theStep fun _ => calm_bind makes_theStep fun _ =>
          calm_bind makes_theStep fun _ => calm_bind (makes_resultOr makes_buildScene) fun _ =>
            makes_sceneBuilt)

theorem advanceCleanupAudit_ends {run : RunRow} {snapshot inputs : Json}
    (h : Audits run.runId v) :
    Ends W (fun _ _ => True) (advanceCleanupAudit W run snapshot inputs) v := by
  have hstable := stable_audits run.runId
  refine ends_after hstable makes_listSteps h fun steps w hw =>
    ends_after hstable makes_theStep hw fun review w hw => ?_
  split
  · exact finishReviewed_ends hw
  · refine ends_routine (calm_bind makes_theStep fun querying => calm_bind ?_ fun _ =>
      calm_bind (makes_completeStep (by decide)) fun _ => calm_bind makes_listSteps fun _ =>
        calm_bind makes_theStep fun planning => calm_bind ?_ fun _ =>
          calm_bind (makes_completeStep (by decide)) fun _ => makes_showReport)
    · split
      · exact calm_pure _
      · exact makes_ofExcept _
    · split
      · exact calm_pure _
      · exact makes_ofExcept _

theorem resumeCleanupAudit_ends {run : RunRow} {manifest : Manifest} {snapshot : Option Json}
    (h : Audits run.runId v) :
    Ends W (fun _ _ => True) (resumeCleanupAudit W run manifest snapshot) v := by
  unfold resumeCleanupAudit
  split
  · exact sat_pure trivial
  · split
    · exact advanceSceneCleanupAudit_ends h
    · split
      · exact advanceCleanupAudit_ends h
      · exact ends_routine (makes_refuse _)
      · exact ends_after (stable_audits run.runId) (makes_ask _) h fun _ _ hw =>
          advanceCleanupAudit_ends hw

/-! ## Taking a run on -/

section

variable {run : RunRow} {manifest : Manifest} {scopes : List String}

theorem requestAutoDimensionCommit_safe :
    Safe (Lawful W) Grows (requestAutoDimensionCommit W run scopes) := by
  refine safe_bind (safe_routine makes_listSteps) fun _ =>
    safe_bind (safe_routine makes_theStep) fun review => ?_
  split
  · exact safe_routine (makes_refuse _)
  · refine safe_bind (safe_routine makes_acceptReview) fun _ =>
      safe_bind (safe_routine makes_currentRun) fun running =>
        safe_bind (safe_routine ?_) fun running => ?_
    · split
      · exact makes_transitionRun (by decide)
      · exact calm_pure _
    · split
      · exact requestCommit_safe
      · exact safe_pure _

theorem advanceWritePreview_safe {inputs : Json} :
    Safe (Lawful W) Grows (advanceWritePreview W run inputs scopes) := by
  refine safe_bind (safe_routine makes_previewAction) fun outcome => ?_
  cases outcome with
  | inl run => exact safe_pure run
  | inr output =>
      refine safe_bind (safe_routine (makes_completeSteps (previewSteps_commit run.skillId)))
        fun _ => ?_
      split
      · exact safe_throw _
      · split
        · exact safe_routine makes_reviewPreview
        · split
          · exact safe_throw _
          · exact requestCommit_safe

theorem previewWith_safe {inputs : Option Json} :
    Safe (Lawful W) Grows (previewWith W run scopes inputs) := by
  cases inputs with
  | none => exact safe_pure false
  | some inputs => exact safe_bind advanceWritePreview_safe fun _ => safe_pure true

theorem continueAutoDimension_safe {review : StepRow} :
    Safe (Lawful W) Grows (continueAutoDimension W run manifest review scopes) := by
  unfold continueAutoDimension
  split
  · exact safe_bind requestAutoDimensionCommit_safe fun _ => safe_pure true
  · split
    · refine safe_bind (safe_routine ?_) fun _ => previewWith_safe
      split
      · exact calm_pure _
      · exact makes_autoDimensionSceneInputs
    · exact safe_pure true

theorem advanceAutoDimension_safe {review : StepRow} {command : Option CommandRow} :
    Safe (Lawful W) Grows (advanceAutoDimension W run manifest review command scopes) := by
  unfold advanceAutoDimension
  split
  · refine safe_bind (safe_routine makes_resolvedBy) fun resolved => ?_
    split
    · exact safe_bind (safe_routine makes_healUserInputWait) fun _ => safe_pure false
    · exact continueAutoDimension_safe
  · exact continueAutoDimension_safe

theorem advanceTemplate_safe {preview commit : StepRow} :
    Safe (Lawful W) Grows (advanceTemplate W run preview commit scopes) := by
  unfold advanceTemplate
  split
  · split
    · split
      · exact safe_bind requestCommit_safe fun _ => safe_pure true
      · exact safe_bind advanceWritePreview_safe fun _ => safe_pure true
    · exact safe_bind advanceWritePreview_safe fun _ => safe_pure true
  · exact safe_pure true

theorem takeUpCommit_safe {actions : List ActionRow} :
    Safe (Lawful W) Grows (takeUpCommit W run actions) := by
  unfold takeUpCommit
  split
  · split
    · split
      · exact requestCommit_safe
      · exact safe_throw _
    · exact safe_pure run
  · exact safe_pure run

theorem settleWriteRun_safe : Safe (Lawful W) Grows (settleWriteRun W run) := by
  refine safe_bind (safe_routine makes_currentRun) fun _ =>
    safe_bind (safe_routine makes_listActions) fun _ => safe_bind takeUpCommit_safe fun _ =>
      safe_bind ?_ fun _ => safe_routine makes_currentRun
  split
  · exact reconcileCommitStatus_safe
  · exact safe_pure ()

theorem advanceWriteRun_safe {steps : List StepRow} {commit : StepRow} :
    Safe (Lawful W) Grows (advanceWriteRun W run manifest steps commit scopes) := by
  refine safe_bind (safe_routine makes_startedControlCommand) fun command => ?_
  split
  · exact safe_bind (safe_routine makes_theStep) fun _ => advanceAutoDimension_safe
  · split
    · exact safe_bind (safe_routine makes_theStep) fun _ => advanceTemplate_safe
    · exact safe_pure true

/-- `_resume_write_run` goes to the end of a run only from a commit step that has succeeded. -/
theorem resumeWriteRun_safe : Safe (Lawful W) Grows (resumeWriteRun W run manifest scopes) := by
  intro v
  refine ends_listSteps fun w r _ hinv _ => ends_theStep fun commit hnamed => ?_
  split
  · rename_i hdone
    obtain ⟨hrow, hid, hstep⟩ := stepNamed_some hnamed
    exact finishWriteAfterCommit_ends ⟨commit, hrow, hid, hstep, hdone⟩
  · refine safe_bind advanceWriteRun_safe (fun settles => ?_) w
    split
    · exact settleWriteRun_safe
    · exact safe_routine makes_currentRun

end

end

end AutocadMcp.Workflow.Service
