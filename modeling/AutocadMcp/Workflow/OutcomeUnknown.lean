import AutocadMcp.Workflow.Dispatch

/-!
# A write with an unknown outcome

The handler of a dispatch that raised records `outcome_unknown` for a started
write, and moves its run to `waiting_for_recovery` in the same transaction. A run
that was cancelled meanwhile waits for recovery already, and the table has no edge
from there, nor from `waiting_for_user` and `paused`: the transaction is undone
and the action stays `started`.
-/

namespace AutocadMcp.Workflow

/-- The row of a call in flight is still in the table; a write that the port was called for is the
call's own while it is `started`. -/
def Held (C : Codec) (s : Store) (call : InFlight) : Prop :=
  encode C eventLimit (actionPayload call.action.actionId) = .ok () ∧
  ∃ row, s.action? call.action.actionId = some row ∧ SameAction call.action row ∧
    (call.phase = .dispatching → row.effectClass = .write →
      row.state ≠ .pending ∧ row.state ≠ .claimed ∧
        (row.state = .started → row.leaseOwner = some call.worker))

/-- The dispatch of a call raises, or the record of its result does. -/
inductive Raises (C : Codec) (w : World) (call : InFlight) : Event → String → Prop where
  | dispatch (errorCode : String) (hcall : w.call? call.callId .dispatching = some call) :
      Raises C w call (.dispatchFails call.callId errorCode) errorCode
  | complete (result : Json) (failure : Failure)
      (hcall : w.call? call.callId .dispatching = some call)
      (hfinish : finishAction C w.store call.action.actionId call.worker
        (completed result (dispatchRef call.action result)) = .error failure) :
      Raises C w call (.dispatchReturns call.callId result) failure.errorCode

/-- The handler returned, and left the action and its run as an unknown outcome leaves them. -/
structure Recorded (C : Codec) (w w' : World) (call : InFlight) (errorCode : String) : Prop where
  returned : ∃ out, onFailure C w.store call errorCode = .ok out
  action : ∃ row, w'.store.action? call.action.actionId = some row ∧ row.state = .outcomeUnknown
  run : ∃ run, w.store.run? call.action.runId = some run ∧
    w'.store.run? call.action.runId =
      some (if isTerminalRun run.state then run else run.moved .waitingForRecovery)

/-- What the handler finds where it succeeds. -/
def Recordable (C : Codec) (s : Store) (call : InFlight) (errorCode : String) : Prop :=
  (∀ run, s.run? call.action.runId = some run →
    run.state ≠ .waitingForUser ∧ run.state ≠ .paused ∧ run.state ≠ .waitingForRecovery) ∧
  encode C eventLimit (.obj [("action_id", .str call.action.actionId),
    ("error_code", .str errorCode)]) = .ok ()

section

variable {C : Codec} {s s' : Store} {c : Call} {w : World} {e : Event}

theorem SameAction.trans {a b d : ActionRow} (h : SameAction a b) (h' : SameAction b d) :
    SameAction a d where
  actionId := h'.actionId.trans h.actionId
  runId := h'.runId.trans h.runId
  stepId := h'.stepId.trans h.stepId
  attempt := h'.attempt.trans h.attempt
  actionKind := h'.actionKind.trans h.actionKind
  payload := h'.payload.trans h.payload
  idempotencyKey := h'.idempotencyKey.trans h.idempotencyKey
  retryClass := h'.retryClass.trans h.retryClass
  effectClass := h'.effectClass.trans h.effectClass

theorem held_call {call : InFlight} (h : Held C s call) (hactions : ActionChange s s' c) :
    Held C s' call := by
  obtain ⟨hencode, row, hrow, hsame, hsent⟩ := h
  obtain ⟨row', hrow', rfl | hrewrites⟩ := hactions.old _ row hrow
  · exact ⟨hencode, row', hrow', hsame, hsent⟩
  · refine ⟨hencode, row', hrow', hsame.trans hrewrites.same, fun hphase hwrite => ?_⟩
    rw [hrewrites.same.effectClass] at hwrite
    obtain ⟨hpending, hclaimed, -⟩ := hsent hphase hwrite
    obtain ⟨hp, hc, hs⟩ := rewrites_sent hrewrites hwrite hpending hclaimed
    exact ⟨hp, hc, fun hstarted => absurd hstarted hs⟩

/-- Every call in flight holds its action. -/
structure Sound (C : Codec) (w : World) : Prop where
  belong : ActionsBelong w.store
  held : ∀ call ∈ w.calls.rows, Held C w.store call

theorem sound_empty : Sound C .empty := by
  refine ⟨actionsBelong_empty, ?_⟩
  intro call hcall
  cases hcall

theorem sound_step (h : Sound C w) : Sound C (step C w e) := by
  have hstep : Stepped C w (step C w e) e := step_stepped
  have hold : ∀ call ∈ w.calls.rows, Held C (step C w e).store call := by
    intro call hcall
    exact hstep.store (fun s => Held C s call) (fun _ _ hs => held_call hs callStep_actions)
      (h.held call hcall)
  refine ⟨hstep.store ActionsBelong (fun _ _ hs => callStep_belong hs) h.belong, ?_⟩
  intro x hx
  cases hstep with
  | quiet calls _ _ hcalls _ => exact hold x (hcalls x hx)
  | begun callId worker leaseSeconds now row _ hclaim hcalls _ =>
      rcases hcalls x hx with rfl | hmem
      · rcases claimAction_ok hclaim with ⟨hnone, -⟩ | ⟨old, hnext, hsome, hencode, hstore⟩
        · cases hnone
        · cases hsome
          have hold := (nextClaim_some hnext).1
          refine ⟨hencode, old.claimedBy worker (now + leaseSeconds), ?_, .refl _, ?_⟩
          · rw [hstore, Store.action?_of_actions Store.pushEvent_actions, Store.setAction_action?]
            show (if old.actionId = old.actionId then _ else _) = _
            rw [if_pos rfl]
            show (w.store.action? old.actionId).map _ = _
            rw [hold, Option.map_some]
          · intro hphase
            cases hphase
      · exact hold x hmem
  | started call now row _ hcall hmark hcalls _ =>
      rcases hcalls x hx with rfl | hmem
      · obtain ⟨hrow, hstarted, howner, hid⟩ := marked_row hmark
        have hencode := (h.held call (call?_some hcall).1).1
        rw [← hid] at hencode hrow
        refine ⟨hencode, row, hrow, .refl row, fun _ _ => ?_⟩
        rw [hstarted]
        exact ⟨by decide, by decide, fun _ => howner⟩
      · exact hold x hmem

theorem Raises.step {call : InFlight} {errorCode : String} (h : Raises C w call e errorCode) :
    step C w e = w.fails C call errorCode ∧ call ∈ w.calls.rows ∧ call.phase = .dispatching := by
  cases h with
  | dispatch _ hcall =>
      obtain ⟨hmem, -, hphase⟩ := call?_some hcall
      exact ⟨by simp only [Workflow.step, hcall], hmem, hphase⟩
  | complete result failure hcall hfinish =>
      obtain ⟨hmem, -, hphase⟩ := call?_some hcall
      exact ⟨by simp only [Workflow.step, hcall, World.returns, hfinish], hmem, hphase⟩

/-! ## When the record goes through -/

theorem appendEvent_eq_ok {runId : RunId} {eventType : String} {payload : Json} :
    appendEvent C s runId eventType payload = .ok s' ↔
      encode C eventLimit payload = .ok () ∧ s' = s.pushEvent runId eventType payload := by
  constructor
  · intro h
    exact ⟨appendEvent_encodes h, appendEvent_ok h⟩
  · rintro ⟨hencode, rfl⟩
    unfold appendEvent
    rw [hencode]
    rfl

theorem recoverRun_returns {runId : RunId} {actionId : ActionId} {run : RunRow}
    (hrun : s.run? runId = some run) (hcreated : run.state ≠ .created)
    (hencode : encode C eventLimit (actionPayload actionId) = .ok ()) :
    (∃ t, recoverRun C s runId actionId = .ok t) ↔
      run.state ≠ .waitingForUser ∧ run.state ≠ .paused ∧ run.state ≠ .waitingForRecovery := by
  have hedge : isTerminalRun run.state = false →
      (runEdge run.state .waitingForRecovery = true ↔
        run.state ≠ .waitingForUser ∧ run.state ≠ .paused ∧
          run.state ≠ .waitingForRecovery) := by
    revert hcreated
    cases run.state <;> decide
  constructor
  · rintro ⟨t, hrecover⟩
    rcases recoverRun_ok hrecover with ⟨hdone, -⟩ | ⟨found, hfound, hlive, hfree, -⟩
    · have hterminal := hdone run hrun
      revert hterminal
      cases run.state <;> decide
    · rw [hrun] at hfound
      cases hfound
      exact (hedge hlive).mp hfree
  · intro hfree
    unfold recoverRun
    rw [hrun]
    cases hlive : isTerminalRun run.state with
    | true =>
        simp only [Option.filter, hlive, Bool.not_true, Bool.false_eq_true, if_false]
        exact ⟨s, rfl⟩
    | false =>
        simp only [Option.filter, hlive, Bool.not_false, if_true]
        rw [check_true ((hedge hlive).mpr hfree)]
        exact ⟨_, appendEvent_eq_ok.mpr ⟨hencode, rfl⟩⟩

theorem recoverRun_run {runId : RunId} {actionId : ActionId} {run : RunRow}
    (h : recoverRun C s runId actionId = .ok s') (hrun : s.run? runId = some run) :
    s'.run? runId =
      some (if isTerminalRun run.state then run else run.moved .waitingForRecovery) := by
  rcases recoverRun_ok h with ⟨hdone, rfl⟩ | ⟨found, hfound, hlive, -, rfl⟩
  · rw [if_pos (hdone run hrun), hrun]
  · rw [hrun] at hfound
    cases hfound
    rw [Store.run?_of_runs Store.pushEvent_runs, Store.setRun_run?, if_pos rfl, hrun,
      Option.map_some, hlive]
    rfl

/-- The record of a started write goes through exactly when its run can be moved and the event
encodes. -/
theorem outcomeUnknown_returns {actionId : ActionId} {worker errorCode : String} {row : ActionRow}
    {run : RunRow} (hrow : s.action? actionId = some row) (hstarted : row.state = .started)
    (howner : row.leaseOwner = some worker) (hrun : s.run? row.runId = some run)
    (hcreated : run.state ≠ .created)
    (hencode : encode C eventLimit (actionPayload actionId) = .ok ()) :
    (∃ out, markActionOutcomeUnknown C s actionId worker errorCode = .ok out) ↔
      (run.state ≠ .waitingForUser ∧ run.state ≠ .paused ∧ run.state ≠ .waitingForRecovery) ∧
        encode C eventLimit (.obj [("action_id", .str actionId),
          ("error_code", .str errorCode)]) = .ok () := by
  have hrecover := recoverRun_returns (s := s.setAction actionId (ActionRow.outcomeUnknown errorCode)
    (ActionRow.outcomeUnknown_actionId errorCode)) hrun hcreated hencode
  have hfound : requireAction s actionId = .ok row := by
    unfold requireAction
    rw [hrow]
  unfold markActionOutcomeUnknown
  rw [hfound]
  show (∃ out, (if row.state = .completed ∨ row.state = .failed ∨ row.state = .outcomeUnknown then
    _ else _) = Except.ok out) ↔ _
  rw [if_neg (by simp [hstarted]), check_true ⟨hstarted, howner⟩, ← hrecover]
  show (∃ out, (recoverRun C _ row.runId actionId >>= fun t => _) = Except.ok out) ↔ _
  constructor
  · rintro ⟨out, h⟩
    obtain ⟨t, ht, h⟩ := bind_eq_ok.mp h
    obtain ⟨u, hu, -⟩ := bind_eq_ok.mp h
    exact ⟨⟨t, ht⟩, (appendEvent_eq_ok.mp hu).1⟩
  · rintro ⟨⟨t, ht⟩, hevent⟩
    refine ⟨(row.outcomeUnknown errorCode, t.pushEvent row.runId "action_outcome_unknown"
      (.obj [("action_id", .str actionId), ("error_code", .str errorCode)])), ?_⟩
    rw [bind_eq_ok]
    refine ⟨t, ht, ?_⟩
    rw [bind_eq_ok]
    exact ⟨_, appendEvent_eq_ok.mpr ⟨hevent, rfl⟩, rfl⟩

/-- What the record leaves. -/
theorem outcomeUnknown_leaves {actionId : ActionId} {worker errorCode : String} {row : ActionRow}
    {run : RunRow} {r : ActionRow} (hrow : s.action? actionId = some row)
    (hstarted : row.state = .started) (hrun : s.run? row.runId = some run)
    (h : markActionOutcomeUnknown C s actionId worker errorCode = .ok (r, s')) :
    s'.action? actionId = some (row.outcomeUnknown errorCode) ∧
      s'.run? row.runId =
        some (if isTerminalRun run.state then run else run.moved .waitingForRecovery) := by
  obtain ⟨found, hfound, hdone | ⟨-, -, t, payload, hrecover, rfl⟩⟩ := markActionOutcomeUnknown_ok h
  · rw [hrow] at hfound
    cases hfound
    rcases hdone.1 with hs | hs | hs <;> rw [hstarted] at hs <;> cases hs
  · rw [hrow] at hfound
    cases hfound
    constructor
    · rw [Store.action?_of_actions Store.pushEvent_actions,
        Store.action?_of_actions (recoverRun_actions hrecover), Store.setAction_action?, if_pos rfl,
        hrow, Option.map_some]
    · have hmoved := recoverRun_run hrecover hrun
      exact hmoved

end

/-- In every state that the runner reaches, and for every dispatch that raises while its write is
durably started: the outcome is recorded, the action as unknown and a run that is not done as waiting
for recovery, exactly when the run does not wait for a user or for recovery and is not paused, and the
code of the error fits the event. -/
theorem unknown_recorded_iff (C : Codec) (events : List Event) (call : InFlight) (e : Event)
    (errorCode : String) (row : ActionRow)
    (hraises : Raises C (runFrom (step C) .empty events) call e errorCode)
    (hrow : (runFrom (step C) .empty events).store.action? call.action.actionId = some row)
    (hwrite : row.effectClass = .write) (hstarted : row.state = .started) :
    Recorded C (runFrom (step C) .empty events) (step C (runFrom (step C) .empty events) e) call
        errorCode ↔
      Recordable C (runFrom (step C) .empty events).store call errorCode := by
  have hsound : Sound C (runFrom (step C) .empty events) :=
    runFrom_invariant (Sound C) (fun _ _ => sound_step) sound_empty events
  generalize runFrom (step C) .empty events = w at hraises hrow hsound ⊢
  obtain ⟨hstep, hmem, hphase⟩ := hraises.step
  obtain ⟨hencode, held, hheld, hsame, hsent⟩ := hsound.held call hmem
  rw [hrow] at hheld
  cases hheld
  have howner := (hsent hphase hwrite).2.2 hstarted
  obtain ⟨run, hrun, hpending⟩ := hsound.belong _ row hrow
  have hcreated : run.state ≠ .created := hsound.belong.started hrow hrun (Or.inl hstarted)
  have hhandler : onFailure C w.store call errorCode =
      markActionOutcomeUnknown C w.store call.action.actionId call.worker errorCode :=
    if_pos ⟨hsame.effectClass.symm.trans hwrite, hphase⟩
  have hreturns :
      (∃ out, markActionOutcomeUnknown C w.store call.action.actionId call.worker errorCode =
        .ok out) ↔ _ := outcomeUnknown_returns hrow hstarted howner hrun hcreated hencode
  have hrunId : call.action.runId = row.runId := hsame.runId.symm
  constructor
  · intro hrecorded
    have hreturned := hrecorded.returned
    rw [hhandler] at hreturned
    obtain ⟨hfree, hevent⟩ := hreturns.mp hreturned
    refine ⟨?_, hevent⟩
    intro found hfound
    rw [hrunId, hrun] at hfound
    cases hfound
    exact hfree
  · rintro ⟨hfree, hevent⟩
    obtain ⟨⟨r, s'⟩, hmark⟩ := hreturns.mpr ⟨hfree run (by rw [hrunId]; exact hrun), hevent⟩
    have hstore : (step C w e).store = s' := by
      rw [hstep]
      show committed w.store (onFailure C w.store call errorCode) = s'
      rw [hhandler, hmark, committed_ok]
    obtain ⟨haction, hrun'⟩ := outcomeUnknown_leaves hrow hstarted hrun hmark
    refine ⟨⟨_, hhandler.trans hmark⟩, ⟨_, by rw [hstore]; exact haction, rfl⟩, run, ?_, ?_⟩
    · rw [hrunId]
      exact hrun
    · rw [hstore, hrunId]
      exact hrun'

/-- A commit is under way. -/
def sampleDispatching : List Event :=
  [sampleCreated, sampleInserted,
   .begin 1 "worker" 30 0, .start 1 1]

def sampleRow : ActionRow :=
  (((sampleCommit.row "wf:run:commit:1:commit").claimedBy "worker" 30).startedAt 1)

def sampleCall : InFlight := ⟨1, "worker", sampleRow, .dispatching⟩

/-- The run is cancelled while its commit is under way. -/
def sampleCancelled : List Event :=
  sampleDispatching ++ [.outside ⟨.cancelRun "owner" "run" .running 1, rfl⟩]

theorem sampleDispatching_recorded :
    Recordable smallCodec (runFrom (step smallCodec) .empty sampleDispatching).store sampleCall
      "timeout" ∧
    Recorded smallCodec (runFrom (step smallCodec) .empty sampleDispatching)
      (step smallCodec (runFrom (step smallCodec) .empty sampleDispatching)
        (.dispatchFails 1 "timeout")) sampleCall "timeout" := by
  have hcall : (runFrom (step smallCodec) .empty sampleDispatching).call? 1 .dispatching =
      some sampleCall := by
    decide
  have hrow : (runFrom (step smallCodec) .empty sampleDispatching).store.action?
      sampleCall.action.actionId = some sampleRow := by
    decide
  have hstate : ((runFrom (step smallCodec) .empty sampleDispatching).store.run? "run").map
      RunRow.state = some .running := by
    decide
  have hrecordable : Recordable smallCodec (runFrom (step smallCodec) .empty sampleDispatching).store
      sampleCall "timeout" := by
    refine ⟨?_, by decide⟩
    intro run hrun
    have hrunning : run.state = .running := by
      rw [show sampleCall.action.runId = "run" from rfl] at hrun
      rw [hrun] at hstate
      exact Option.some.inj hstate
    rw [hrunning]
    decide
  exact ⟨hrecordable, (unknown_recorded_iff smallCodec sampleDispatching sampleCall
    (.dispatchFails 1 "timeout") "timeout" sampleRow (.dispatch "timeout" hcall) hrow rfl rfl).mpr
      hrecordable⟩

/-- The commit of the cancelled run times out: nothing is recorded. -/
theorem sampleCancelled_unrecorded :
    (runFrom (step smallCodec) .empty sampleCancelled).call? 1 .dispatching = some sampleCall ∧
    (runFrom (step smallCodec) .empty sampleCancelled).store.action? sampleRow.actionId =
      some sampleRow ∧
    sampleRow.effectClass = .write ∧ sampleRow.state = .started ∧
    ¬ Recorded smallCodec (runFrom (step smallCodec) .empty sampleCancelled)
      (step smallCodec (runFrom (step smallCodec) .empty sampleCancelled)
        (.dispatchFails 1 "timeout")) sampleCall "timeout" := by
  refine ⟨by decide, by decide, rfl, rfl, ?_⟩
  intro hrecorded
  obtain ⟨row, hrow, hunknown⟩ := hrecorded.action
  have hstarted : ((step smallCodec (runFrom (step smallCodec) .empty sampleCancelled)
      (.dispatchFails 1 "timeout")).store.action? sampleRow.actionId).map ActionRow.state =
        some .started := by
    decide
  rw [show sampleRow.actionId = sampleCall.action.actionId from rfl, hrow, Option.map_some,
    hunknown] at hstarted
  cases hstarted

end AutocadMcp.Workflow
