import AutocadMcp.Contracts.JsonCode
import AutocadMcp.Workflow.WriteSuccess

/-!
# Every call keeps the law

The calls from outside, and with them every interleaving of `start`, `control`, `get`,
the runner, the maintenance and the reconciliation after a restart. `start` goes on
with a run that another call has created under its key; there the law needs that the
hash of a request tells the requests apart.
-/

namespace AutocadMcp.Workflow.Service

/-- No two requests for a run have one hash. -/
def TellsApart (C : Codec) : Prop :=
  ∀ a b : CreateRun, C.digest a.request = C.digest b.request → a.request = b.request

section

variable {W : Config} {α β : Type} {v w : View signature}

/-! ## Control commands -/

/-- A transaction that may always be made. -/
theorem safe_transact {f : Tick → Store → Except Failure (α × Store)} (c : Tick → Call)
    (hc : ∀ tick s, callStep W.codec s (c tick) = committed s (f tick s))
    (hallowed : ∀ s asked tick, Allowed s asked (c tick)) :
    Safe (Lawful W) Grows (transact f) := fun _ =>
  ends_transact c hc (fun _ _ _ _ => hallowed _ _ _) fun _ _ _ _ _ _ _ _ _ => trivial

/-- The record of effects is not part of the law. -/
theorem safe_effect {f : Tick → Store → Except Failure (α × Store)} {e : Effect} {done : α → Bool}
    (c : Tick → Call) (hc : ∀ tick s, callStep W.codec s (c tick) = committed s (f tick s))
    (hallowed : ∀ s asked tick, Allowed s asked (c tick)) :
    Safe (Lawful W) Grows (effect e done f) := by
  intro v
  refine sat_perform (fun w tick a s _ hinv htx => ?_) fun _ _ _ _ _ _ => trivial
  cases hf : f tick w.state.store with
  | error e =>
      rw [hf] at htx
      cases htx
  | ok out =>
      rw [hf] at htx
      cases htx
      have hafter : out.2 = callStep W.codec w.state.store (c tick) := by
        rw [hc, hf]
        rfl
      have hallowed' := hallowed w.state.store w.asked tick
      exact and_assoc.mp ⟨step_lawful hinv hallowed' hafter rfl, trivial⟩

theorem safe_reply {r : Reply} : Safe (Lawful W) Grows (reply r) := by
  intro v
  refine sat_perform (fun w tick a s _ hinv htx => ?_) fun _ _ _ _ _ _ => trivial
  cases htx
  exact ⟨hinv, ⟨.refl _, fun _ he => he⟩, trivial⟩

theorem safe_completeControlCommand {owner key : String} {result : Json} :
    Safe (Lawful W) Grows (completeControlCommand W owner key result) :=
  safe_transact (fun _ => .completeControlCommand _ _ _) (fun _ _ => rfl) fun _ _ _ => trivial

theorem safe_allRefused {code : Failure → String} {m : Program α}
    (h : Safe (Lawful W) Grows m) : Safe (Lawful W) Grows (allRefused code m) :=
  safe_handle h fun _ => safe_throw _

theorem ends_conflictsRefused {m : Program α} (h : Ends W (fun _ _ => True) m v) :
    Ends W (fun _ _ => True) (conflictsRefused m) v := by
  refine sat_handle (h.mono (fun _ _ _ => trivial) fun e w _ => ?_)
  split
  · exact trivial
  · exact trivial

theorem ends_forEach {K : View signature → Prop} (hstable : Stable K) {xs : List β}
    {body : β → Program Unit} (h : ∀ x ∈ xs, ∀ v, K v → Ends W (fun _ _ => True) (body x) v)
    (hK : K v) : Ends W (fun _ _ => True) (Prog.forEach xs body) v := by
  induction xs generalizing v with
  | nil => exact trivial
  | cons x xs ih =>
      have hx := (h x List.mem_cons_self v hK).keeping K hstable hK
      refine sat_bind (hx.mono (fun _ w hw => ?_) fun _ _ _ => trivial)
      exact ih (fun y hy => h y (List.mem_cons_of_mem x hy)) hw.2

section

variable {run : RunRow} {manifest : Manifest} {scopes : List String}

theorem completeResumed_safe : Safe (Lawful W) Grows (completeResumed W run) := by
  refine safe_bind (safe_routine makes_startedControlCommand) fun command => ?_
  split
  · exact safe_pure run
  · refine safe_bind (safe_routine makes_resolvedBy) fun resolved =>
      safe_bind ?_ fun _ => safe_pure run
    split
    · exact safe_bind safe_completeControlCommand fun _ => safe_pure ()
    · exact safe_pure ()

theorem resumeWrite_safe : Safe (Lawful W) Grows (resumeWrite W run manifest scopes) := by
  refine safe_bind (safe_routine makes_listActions) fun actions => ?_
  dsimp only
  split
  · exact safe_bind resumeWriteRun_safe fun _ => completeResumed_safe
  · exact safe_routine makes_markRunNeedsAttention

theorem resumeWith_ends {snapshot : Option Json}
    (h : manifest.skillId = cleanupAudit → Audits run.runId v) :
    Ends W (fun _ _ => True) (resumeWith W run manifest snapshot scopes) v := by
  unfold resumeWith
  split
  · rename_i hskill
    exact resumeCleanupAudit_ends (h hskill)
  · split
    · exact resumeWrite_safe v
    · exact sat_pure trivial

/-- A manifest that is published is the one of its skill. -/
theorem ends_publishedManifest {K : View signature → Prop} (hstable : Stable K) (hK : K v)
    {skillId version : String} {onOk : β → View signature → Prop} {g : Manifest → Program β}
    (h : ∀ m w, K w → m.skillId = skillId → Ends W onOk (g m) w) :
    Ends W onOk (publishedManifest W skillId version >>= g) v := by
  have hpublished : Ends W (fun m w => m.skillId = skillId ∧ K w)
      (publishedManifest W skillId version) v := by
    unfold publishedManifest
    cases hresolve : W.resolve skillId (some version) with
    | none => exact trivial
    | some m =>
        have hskill := (W.resolves skillId version m hresolve).1
        refine ends_after hstable (calm_handle (makes_ask _) fun _ => makes_refuse _) hK
          fun status w hw => ?_
        split
        · exact trivial
        · exact sat_pure ⟨hskill, hw⟩
  exact sat_bind (hpublished.mono (fun m w hw => h m w hw.2 hw.1) fun _ _ _ => trivial)

theorem resumeRun_ends (h : Known run v) : Ends W (fun _ _ => True) (resumeRun W run) v := by
  unfold resumeRun
  split
  · exact sat_pure trivial
  · exact ends_publishedManifest (stable_known run) h fun m w hw hskill =>
      resumeWith_ends fun haudit => hw.audits (hskill.symm.trans haudit)

end

/-! ## Starting a run -/

theorem pinned_skill (a : StartArgs) (m : Manifest) (epoch device : Json) (snapshot : Option Json)
    (fresh : String) : (createRunArgs W a m epoch device snapshot fresh).pin "skill_id" =
      m.skillId := rfl

theorem request_pin {a b : CreateRun} (h : a.request = b.request) (key : String) :
    a.pin key = b.pin key := by
  simp only [CreateRun.request, Json.obj.injEq, List.cons.injEq, Prod.mk.injEq] at h
  unfold CreateRun.pin
  rw [h.2.2.2.2.2.2.2.2.1.2]

/-- The run that `start` goes on with is one of its own skill. -/
theorem created_skill (hdigest : TellsApart W.codec) {s : Store} {asked : Answers}
    {a : CreateRun} {r : RunRow × Bool} {s' : Store} (hinv : Proven W.codec s asked)
    (h : Workflow.createRun W.codec s a = .ok (r, s')) :
    s'.run? r.1.runId = some r.1 ∧ r.1.skillId = a.pin "skill_id" := by
  obtain ⟨hrow, hhash, hsame | hskill, -⟩ := createRun_row h
  · rw [hsame] at hrow
    obtain ⟨b, hbhash, hbskill⟩ := hinv.requests _ _ hrow
    have hrequest := hdigest b a (hbhash.symm.trans hhash)
    exact ⟨by rw [hsame]; exact hrow, hbskill.trans (request_pin hrequest "skill_id")⟩
  · exact ⟨hrow, hskill⟩

theorem createAndResume_safe (hdigest : TellsApart W.codec) {a : StartArgs} {m : Manifest}
    {epoch device : Json} {snapshot : Option Json} :
    Safe (Lawful W) Grows (createAndResume W a m epoch device snapshot) := by
  intro v
  refine ends_conflictsRefused (sat_bind ?_)
  refine ends_transact
    (fun tick => .createRun (createRunArgs W a m epoch device snapshot tick.fresh))
    (fun _ _ => rfl) ?_ ?_
  · intro w tick _ _ specs hspecs spec hspec
    cases hspecs
    obtain ⟨step, -, rfl⟩ := List.mem_map.mp hspec
    rfl
  · intro w tick created s _ hinv hcreated _ _
    obtain ⟨hrow, hskill⟩ := created_skill hdigest hinv hcreated
    rw [pinned_skill] at hskill
    have hresumed : Ends W (fun _ _ => True) (if isTerminalRun created.1.state then
        return created.1 else resumeWith W created.1 m snapshot a.scopes : Program RunRow)
        (withStore w s) := by
      split
      · exact sat_pure trivial
      · exact resumeWith_ends fun haudit => ⟨created.1, hrow, hskill.trans haudit⟩
    exact sat_bind (hresumed.mono (fun _ _ _ => trivial) fun _ _ _ => trivial)

theorem makes_boundedId {P : Call → Prop} {value field : String} :
    Makes W P (boundedId value field) := by
  unfold boundedId
  split
  · exact calm_pure ()
  · exact makes_refuse _

theorem makes_resolveSnapshot {P : Call → Prop} {a : StartArgs} :
    Makes W P (resolveSnapshot a) := by
  unfold resolveSnapshot
  split
  · exact calm_pure none
  · exact calm_bind (calm_handle (makes_ask _) fun _ => makes_refuse _) fun _ => calm_pure _

theorem start_safe (hdigest : TellsApart W.codec) {a : StartArgs} :
    Safe (Lawful W) Grows (start W a) := by
  unfold start
  split
  · exact safe_routine (makes_refuse _)
  · refine safe_bind (safe_routine makes_boundedId) fun _ =>
      safe_bind (safe_routine makes_boundedId) fun _ => ?_
    split
    · exact safe_routine (makes_refuse _)
    · refine safe_bind (safe_routine (calm_handle (makes_ask _) fun _ => makes_refuse _))
        fun status => ?_
      split
      · exact safe_routine (makes_refuse _)
      · refine safe_bind (safe_routine (calm_handle (makes_ask _) fun _ => makes_refuse _))
          fun device => ?_
        split
        · exact safe_bind (safe_routine makes_resolveSnapshot) fun _ =>
            safe_bind (safe_routine (makes_ask _)) fun _ => createAndResume_safe hdigest
        · exact safe_routine (makes_refuse _)

/-! ## Control -/

section

variable {a : ControlArgs} {run : RunRow}

theorem finish_safe : Safe (Lawful W) Grows (finish W a run) :=
  safe_bind safe_completeControlCommand fun _ => safe_pure _

theorem resumeRunning_safe : Safe (Lawful W) Grows (resumeRunning W a run) := by
  refine safe_bind ?_ fun _ => finish_safe
  exact safe_effect (fun _ => .transitionRun ⟨a.ownerSubject, a.runId, run.state,
    a.expectedStateVersion, .running, run.currentStepId, a.action.name⟩) (fun _ _ => rfl)
    fun _ _ _ => RunState.noConfusion

theorem continueWithInput_ends (h : Known run v) :
    Ends W (fun _ _ => True) (continueWithInput W a run) v := by
  unfold continueWithInput
  split
  · rename_i hskill
    exact sat_bind ((finishCleanupAudit_ends (h.audits hskill)).mono
      (fun _ w _ => finish_safe w) fun _ _ _ => trivial)
  · split
    · exact safe_bind (safe_routine makes_currentRun) (fun _ =>
        safe_bind requestAutoDimensionCommit_safe fun _ => finish_safe) v
    · refine safe_bind ?_ (fun _ => finish_safe) v
      exact safe_transact (fun _ => .transitionRun ⟨a.ownerSubject, a.runId, run.state,
        a.expectedStateVersion, .running, run.currentStepId, a.action.name⟩) (fun _ _ => rfl)
        fun _ _ _ => RunState.noConfusion

theorem resolveWith_safe {wait : WaitRow} : Safe (Lawful W) Grows (resolveWith W a wait) := by
  unfold resolveWith
  split
  · refine safe_bind ?_ fun _ => safe_pure ()
    exact safe_effect (fun _ => .resolveWait _) (fun _ _ => rfl) fun _ _ _ => trivial
  · exact safe_pure ()

theorem makes_waitForInput {P : Call → Prop} {replay : Bool} :
    Makes W P (waitForInput W a replay) := by
  refine calm_bind makes_observe fun wait => ?_
  split
  · exact makes_waitResolvedByCommand
  · exact calm_pure wait

theorem submitInput_ends {replay : Bool} (h : Known run v) :
    Ends W (fun _ _ => True) (submitInput W a run replay) v := by
  refine ends_after (stable_known run) makes_waitForInput h fun found w hw => ?_
  split
  · exact ends_routine (makes_refuse _)
  · split
    · exact ends_safe (stable_known run) resolveWith_safe hw fun _ _ hu =>
        continueWithInput_ends hu
    · exact ends_routine (makes_refuse _)

theorem carryOut_ends {replay : Bool} (h : Known run v) :
    Ends W (fun _ _ => True) (carryOut W a run replay) v := by
  unfold carryOut
  split
  · exact finish_safe v
  · split
    · refine safe_bind ?_ (fun _ => finish_safe) v
      exact safe_effect (fun _ => .cancelRun _ _ _ _) (fun _ _ => rfl) fun _ _ _ => trivial
    · exact submitInput_ends h
    · split
      · exact resumeRunning_safe v
      · exact ends_routine (makes_refuse _)

theorem beginCommand_safe : Safe (Lawful W) Grows (beginCommand W a run) := by
  intro v
  refine sat_perform (fun w tick b s _ hinv htx => ?_) fun _ _ _ _ _ _ => trivial
  cases hf : beginControlCommand W.codec w.state.store ⟨a.ownerSubject, a.runId, a.action,
      a.expectedStateVersion, a.idempotencyKey, a.payload⟩ with
  | error e =>
      rw [hf] at htx
      cases htx
  | ok out =>
      rw [hf] at htx
      cases htx
      have hafter : out.2 = callStep W.codec w.state.store (.beginControlCommand ⟨a.ownerSubject,
          a.runId, a.action, a.expectedStateVersion, a.idempotencyKey, a.payload⟩) := by
        rw [callStep, hf]
        rfl
      have hallowed : Allowed w.state.store w.asked (.beginControlCommand ⟨a.ownerSubject,
          a.runId, a.action, a.expectedStateVersion, a.idempotencyKey, a.payload⟩) := trivial
      exact and_assoc.mp ⟨step_lawful hinv hallowed hafter rfl, trivial⟩

theorem command_ends (h : Known run v) : Ends W (fun _ _ => True) (command W a run) v := by
  refine ends_conflictsRefused (ends_safe (stable_known run) beginCommand_safe h
    fun begun w hw => ?_)
  split
  · split
    · exact sat_pure trivial
    · exact carryOut_ends hw
  · exact carryOut_ends hw

theorem controlAllowed_ends {manifest : Manifest} (h : Known run v) :
    Ends W (fun _ _ => True) (controlAllowed W a run manifest) v := by
  unfold controlAllowed
  split
  · exact ends_routine (makes_refuse _)
  · refine ends_after (stable_known run) ?_ h fun _ _ hw => command_ends hw
    split
    · exact makes_healUserInputWait
    · exact calm_pure ()

theorem controlRun_ends (h : Known run v) : Ends W (fun _ _ => True) (controlRun W a run) v := by
  unfold controlRun
  split
  · exact ends_routine (makes_refuse _)
  · refine ends_after (stable_known run) (calm_handle (makes_ask _) fun _ => makes_refuse _) h
      fun status w hw => ?_
    split
    · exact ends_routine (calm_bind makes_securityRevokeRun fun _ => makes_refuse _)
    · exact controlAllowed_ends hw

theorem control_safe : Safe (Lawful W) Grows (control W a) := by
  refine safe_bind (safe_routine makes_boundedId) fun _ v => ?_
  refine ends_fetch fun w found _ _ hread => ?_
  cases hread
  split
  · exact ends_routine (makes_refuse _)
  · rename_i run hrun
    exact controlRun_ends (known_of_getRun hrun).1

end

/-! ## Every program -/

theorem get_safe {owner : String} {runId : RunId} {cursor limit : Int} :
    Safe (Lawful W) Grows (get W owner runId cursor limit) := by
  unfold get
  split
  · exact safe_routine (makes_refuse _)
  · refine safe_routine (calm_bind makes_getRun fun found => ?_)
    split
    · exact makes_refuse _
    · exact calm_bind makes_healUserInputWait fun _ => calm_bind makes_listSteps fun _ =>
        calm_bind makes_currentWait fun _ => calm_bind makes_fetch fun _ => calm_pure _

theorem reconcileRun_ends {run : RunRow} (h : Known run v) :
    Ends W (fun _ _ => True) (reconcileRun W run) v := by
  refine ends_after (stable_known run) ?_ h fun allowed w hw => ?_
  · refine calm_handle (calm_bind makes_requireContinuationAllowed fun _ => calm_pure true)
      fun e => ?_
    split
    · exact calm_pure false
    · exact calm_throw e
  split
  · refine sat_handle ?_
    refine sat_bind ((resumeRun_ends hw).mono (fun _ _ _ => sat_pure trivial) fun e u _ => ?_)
    split
    · exact sat_pure trivial
    · exact trivial
  · exact ends_routine (calm_bind makes_securityRevokeRun fun _ => calm_pure ())

theorem reconcileRestart_safe : Safe (Lawful W) Grows (reconcileRestart W) := by
  refine safe_bind (safe_routine makes_reconcileActions) fun _ v => ?_
  refine ends_fetch fun w runs _ _ hread => ?_
  cases hread
  have hstable : Stable fun v => ∀ run ∈ w.state.store.nonterminalRuns, Known run v :=
    fun u x hgrows hknown run hrun => stable_known run u x hgrows (hknown run hrun)
  refine ends_forEach hstable (fun run hrun u hu => reconcileRun_ends (hu run hrun)) ?_
  intro run hrun
  have hrow : run ∈ w.state.store.runs.rows := (List.mem_filter.mp hrun).1
  exact ⟨run, Table.get?_of_mem hrow, rfl, rfl⟩

theorem safe_answered {m : Program α} (h : Safe (Lawful W) Grows m) :
    Safe (Lawful W) Grows (answered m) := safe_bind h fun _ => safe_pure ()

theorem program_safe (hdigest : TellsApart W.codec) (request : Request) :
    Safe (Lawful W) Grows (program W request) := by
  cases request with
  | start a => exact safe_answered (start_safe hdigest)
  | control a => exact safe_bind control_safe fun _ => safe_reply
  | get owner runId cursor limit => exact safe_answered get_safe
  | runOnce => exact safe_answered (safe_routine makes_runOnce)
  | maintenanceOnce =>
      exact safe_bind (safe_routine (makes_runUpTo 64)) fun _ => reconcileRestart_safe
  | reconcileRestart => exact reconcileRestart_safe

theorem reached_lawful (hdigest : TellsApart W.codec)
    (events : List (Happening signature Request)) : Lawful W (reached W events).view :=
  Processes.good_run Grows.refl Grows.trans (program_safe hdigest)
    ⟨proven_empty, fun _ hm => absurd hm List.not_mem_nil⟩ events

end

/-- What has to be there for a write run that has succeeded. -/
structure ProvenRun (v : View signature) (run : RunRow) : Prop where
  commitStep : ∃ step, v.state.store.step? run.runId "commit" 1 = some step ∧
    step.state = .succeeded
  intent : ∃ action ∈ v.state.store.actions.rows, action.runId = run.runId ∧
    action.actionKind = .commit ∧ action.state = .completed ∧
    ∃ result intentId status, action.result = some result ∧
      textField result "intent_id" = some intentId ∧
      (Query.commitStatus run.ownerSubject intentId, Except.ok status) ∈ v.asked ∧
      textField status "state" = some "succeeded"

/-- Write runs that have succeeded did so on proof, and no run has had two commits or two keys to
ask for an intent. -/
structure SucceedsOnProof (W : Config) (v : View signature) : Prop where
  proven : ∀ run ∈ v.state.store.runs.rows, ∀ m,
    W.resolve run.skillId (some run.skillVersion) = some m → m.writes = true →
      run.state = .succeeded → ProvenRun v run
  oneCommit : ∀ a ∈ v.state.store.actions.rows, ∀ b ∈ v.state.store.actions.rows,
    a.actionKind = .commit → b.actionKind = .commit → a.runId = b.runId → a = b
  oneKey : ∀ a ∈ v.state.store.actions.rows, a.actionKind = .commit →
    a.idempotencyKey = commitKey a.runId

theorem Proven.provenRun {C : Codec} {v : View signature}
    (h : Proven C v.state.store v.asked) {run : RunRow} (hrun : run ∈ v.state.store.runs.rows)
    (hdone : run.state = .succeeded) (hskill : run.skillId ≠ cleanupAudit) : ProvenRun v run := by
  have hfound : v.state.store.run? run.runId = some run := Table.get?_of_mem hrun
  obtain ⟨step, hstep, hid, hname, hstate⟩ := h.runs _ run hfound hdone hskill
  constructor
  · have hlookup := Store.step?_of_mem hstep
    rw [hid, hname, h.attempts step hstep] at hlookup
    exact ⟨step, hlookup, hstate⟩
  · have hbacked := h.steps step hstep hname
    rw [hstate, hid] at hbacked
    obtain ⟨intent, intentId, r, hcommitted, htext, hr, status, hasked, hsucceeded⟩ := hbacked
    obtain ⟨action, haction, hown, hkind, hcompleted, hresult, -⟩ := hcommitted
    rw [hfound] at hr
    cases hr
    exact ⟨action, (Store.action?_some haction).1, hown, hkind, hcompleted, intent, intentId,
      status, hresult, htext, hasked, hsucceeded⟩

/-- In every state that the calls of the service reach, in whatever order they come, fail, are
stopped or crash: a run of a write skill that is in `succeeded` has its commit step in `succeeded`,
and the resolver has answered `succeeded` for the intent that its one commit action stores. -/
theorem write_succeeds_on_proof (W : Config) (hdigest : TellsApart W.codec)
    (events : List (Happening signature Request)) :
    SucceedsOnProof W (reached W events).view := by
  have hlawful := reached_lawful hdigest events
  constructor
  · intro run hrun m hresolve hwrites hdone
    -- the cleanup audit does not write
    have hskill : run.skillId ≠ cleanupAudit := by
      rw [← (W.resolves _ _ m hresolve).1]
      exact W.auditReads _ _ m hresolve hwrites
    exact hlawful.provenRun hrun hdone hskill
  · intro a ha b hb hkind hkind' hrun
    have hid := (hlawful.commits a ha hkind).1
    have hid' := (hlawful.commits b hb hkind').1
    exact Table.eq_of_key ha hb (by rw [hid, hid', hrun])
  · intro a ha hkind
    exact (hlawful.commits a ha hkind).2

/-! ## A write that succeeds -/

def sampleSteps : List WorkflowStep :=
  [⟨"pure", "pure", .obj [], []⟩, ⟨"prepare", "prepare", .obj [], ["pure"]⟩,
    ⟨"preview", "preview", .obj [], ["prepare"]⟩, ⟨"commit", "commit", .obj [], ["preview"]⟩,
    ⟨"job", "job", .obj [], ["commit"]⟩, ⟨"validate", "validate", .obj [], ["job"]⟩,
    ⟨"finish", "finish", .obj [], ["validate"]⟩]

def sampleSkill : Manifest where
  skillId := "mechanical.plate-hole-pattern"
  version := "1.0.0"
  manifestDigest := "digest"
  requiredScopes := [writeScope]
  inputSchema := .obj []
  planned := false
  workflowId := "plate"
  workflowVersion := "1.0.0"
  workflowDigest := "digest"
  steps := sampleSteps

/-- A service with one write skill. -/
def sampleConfig : Config where
  codec := ⟨fun _ => some 2, fun _ => true, Json.number⟩
  text := fun _ => []
  resolve := fun skillId version =>
    if skillId = sampleSkill.skillId ∧ version = some sampleSkill.version then some sampleSkill
    else none
  resolves := by
    intro skillId version m h
    split at h
    · rename_i hboth
      cases h
      exact ⟨hboth.1.symm, Option.some.inj hboth.2.symm⟩
    · cases h
  auditReads := by
    intro skillId version m h _
    split at h
    · cases h
      decide
    · cases h
  enabled := true
  writeEnabled := true
  allowlist := []
  enabledSkills := [sampleSkill.skillId]
  policyEpoch := 1
  plannerDigest := "planner"
  templateDigest := "template"
  scenePort := false
  fitsSchema := fun _ _ => true
  support := fun _ _ _ => "certified"
  sceneHash := fun _ => "hash"
  auditCleanup := fun _ _ _ => .error .valueError

def sampleStart : StartArgs :=
  ⟨"owner", "owner", sampleSkill.skillId, some "1.0.0", "device", none, .obj [], "key",
    [writeScope], true⟩

/-- What the other components answer. -/
def sampleAnswer : Query → Json
  | .skillStatus .. => .str "published"
  | .deviceContext .. => .obj [("identity_generation", .num 1)]
  | .dispatch .preview _ _ =>
      .obj [("prepare", .obj []), ("preview", .obj [("preview_id", .str "preview")]),
        ("pure", .obj [])]
  | .dispatch .. => .obj [("intent_id", .str "intent")]
  | .commitStatus .. => .obj [("state", .str "succeeded")]
  | _ => .str "1"

def answerTo : List (Prog signature Unit) → Except Failure Json
  | .ask q _ :: _ => .ok (sampleAnswer q)
  | _ => .ok .null

/-- The first program goes on for some steps. -/
def advances : Nat → Processes signature → List (Happening signature Request)
  | 0, _ => []
  | n + 1, p =>
      let e : Happening signature Request := .advance 0 ⟨0, "id"⟩ (answerTo p.running)
      e :: advances n (Processes.step (program sampleConfig) p e)

/-- A run is started and waits for the approval of its commit, which the maintenance then finds
succeeded. -/
def sampleEvents : List (Happening signature Request) :=
  let started := Happening.spawn (.start sampleStart) ::
    advances 60 (Processes.step (program sampleConfig) initial (.spawn (.start sampleStart)))
  started ++ .spawn .maintenanceOnce ::
    advances 60 (Processes.step (program sampleConfig) (reached sampleConfig started)
      (.spawn .maintenanceOnce))

theorem sampleConfig_tellsApart : TellsApart sampleConfig.codec :=
  fun _ _ h => Json.number_injective h

theorem sampleEvents_succeed_on_proof :
    ((reached sampleConfig sampleEvents).view.state.store.run? "wfr:id").map RunRow.state =
      some .succeeded ∧
    SucceedsOnProof sampleConfig (reached sampleConfig sampleEvents).view :=
  ⟨by decide +kernel, write_succeeds_on_proof sampleConfig sampleConfig_tellsApart sampleEvents⟩

end AutocadMcp.Workflow.Service
