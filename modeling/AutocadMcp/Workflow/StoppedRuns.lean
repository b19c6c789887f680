import AutocadMcp.Workflow.Dispatch
import Mathlib.Data.List.Induction

/-!
# Runs that are not running

An action is claimed only while its run is running, and between the claim and the durable start a
preflight is awaited. The start reads the action row alone, so a call that comes out of its
preflight after its run was stopped hands the action to the port, unless the action was cancelled
with its run.
-/

namespace AutocadMcp.Workflow

def Running (s : Store) (runId : RunId) : Prop :=
  ∃ run, s.run? runId = some run ∧ run.state = .running

/-- The step hands the action to its port. -/
def World.Dispatches (C : Codec) (w : World) (e : Event) (id : ActionId) : Prop :=
  (step C w e).dispatched = w.dispatched ++ [id]

/-- The preflight of a call returns and finds the action still claimed by its worker, with a child
reference that fits its column, while the run of the action is not running. -/
def World.StartsStopped (C : Codec) (w : World) : Event → Prop
  | .start callId _ =>
      ∃ call ∈ w.call? callId .preflight, ∃ row ∈ w.store.action? call.action.actionId,
        row.state = .claimed ∧ row.leaseOwner = some call.worker ∧
          column C row.startedRef = .ok () ∧ ¬ Running w.store row.runId
  | _ => False

/-! ## What a dispatch needs -/

/-- The start of a claimed action fits its columns. -/
theorem marked_column {C : Codec} {s s' : Store} {actionId : ActionId} {worker : String}
    {now : Instant} {r row : ActionRow}
    (h : markDispatchStarted C s actionId worker now = .ok (r, s'))
    (hrow : s.action? actionId = some row) (hclaimed : row.state = .claimed) :
    column C row.startedRef = .ok () := by
  unfold markDispatchStarted at h
  obtain ⟨found, hfound, h⟩ := bind_eq_ok.mp h
  have hsame := requireAction_ok hfound
  rw [hrow] at hsame
  cases hsame
  rw [if_neg (by simp [hclaimed])] at h
  obtain ⟨_, -, h⟩ := bind_eq_ok.mp h
  obtain ⟨_, hcolumn, -⟩ := bind_eq_ok.mp h
  exact hcolumn

section

variable {C : Codec} {w : World} {e : Event} {id : ActionId}

/-- A dispatched action is in the table, claimed or started by the worker of the call. -/
theorem dispatches_row (h : w.Dispatches C e id) :
    ∃ callId now call row, e = .start callId now ∧ w.call? callId .preflight = some call ∧
      call.action.actionId = id ∧ w.store.action? id = some row ∧
      row.leaseOwner = some call.worker ∧
      (row.state = .started ∨ row.state = .claimed ∧ column C row.startedRef = .ok ()) := by
  have hstep : Stepped C w (step C w e) e := step_stepped
  have hsame : (step C w e).dispatched ≠ w.dispatched := by
    rw [h]
    exact fun heq => by simpa using congrArg List.length heq
  cases hstep with
  | quiet _ _ _ _ hdispatched => exact absurd hdispatched hsame
  | begun _ _ _ _ _ _ _ _ hdispatched => exact absurd hdispatched hsame
  | started call now row hevent hcall hmark _ hdispatched =>
      obtain ⟨-, -, -, hid⟩ := marked_row hmark
      rw [h, List.append_cancel_left_eq, List.singleton_inj] at hdispatched
      have hcallId : call.action.actionId = id := by rw [hdispatched, hid]
      obtain ⟨old, hold, howner, ⟨hstarted, -, -⟩ | ⟨hclaimed, -, -⟩⟩ := markDispatchStarted_ok hmark
      · exact ⟨call.callId, now, call, old, hevent, hcall, hcallId, hcallId ▸ hold, howner,
          Or.inl hstarted⟩
      · exact ⟨call.callId, now, call, old, hevent, hcall, hcallId, hcallId ▸ hold, howner,
          Or.inr ⟨hclaimed, marked_column hmark hold hclaimed⟩⟩

end

/-! ## A cancelled action stays cancelled -/

section

variable {C : Codec} {s s' : Store} {c : Call} {row row' : ActionRow}

theorem rewrites_not_cancelled (h : c.Rewrites s row row') : row.state ≠ .cancelled := by
  intro hcancelled
  cases c <;> simp only [Call.Rewrites] at h
  case claimAction =>
    obtain ⟨-, hclaimable, -⟩ := nextClaim_some h.1
    simp [ActionRow.claimable, ActionRow.reclaimable, hcancelled] at hclaimable
  case markDispatchStarted => simp [hcancelled] at h
  case completeAction => simp [hcancelled] at h
  case failAction => simp [hcancelled] at h
  case markActionOutcomeUnknown => simp [hcancelled] at h
  case reclaimExpiredActions =>
    have hexpired := h.1
    simp [ActionRow.reclaimable, hcancelled] at hexpired
  case recordReconciledOutcome => simp [hcancelled] at h
  case cancelRun => simp [hcancelled] at h
  case securityRevokeRun => simp [hcancelled] at h
  case markRunNeedsAttention => simp [hcancelled] at h

def Cancelled (s : Store) (id : ActionId) : Prop :=
  ∃ row, s.action? id = some row ∧ row.state = .cancelled

theorem cancelled_call {id : ActionId} (h : Cancelled s id) : Cancelled (callStep C s c) id := by
  obtain ⟨row, hrow, hcancelled⟩ := h
  obtain ⟨row', hrow', rfl | hrewrites⟩ := callStep_actions.old id row hrow
  · exact ⟨row', hrow', hcancelled⟩
  · exact absurd hcancelled (rewrites_not_cancelled hrewrites)

theorem cancelled_step {w : World} {e : Event} {id : ActionId} (h : Cancelled w.store id) :
    Cancelled (step C w e).store id :=
  (step_stepped (C := C)).store (fun s => Cancelled s id) (fun _ _ => cancelled_call) h

end

/-! ## Started while the run is stopped -/

/-- A call in its preflight whose action is started waits for one that was started in `s`. -/
def StartedBefore (s : Store) (runId : RunId) (w : World) : Prop :=
  ∀ call ∈ w.calls.rows, call.phase = .preflight → ∀ row,
    w.store.action? call.action.actionId = some row → row.runId = runId → row.state = .started →
      ∃ row₀, s.action? call.action.actionId = some row₀ ∧ row₀.state = .started

section

variable {C : Codec} {w : World} {e : Event} {s : Store} {runId : RunId}

theorem startedBefore_self : StartedBefore w.store runId w :=
  fun _ _ _ row hrow _ hstarted => ⟨row, hrow, hstarted⟩

/-- While the run is stopped nothing of it is started. -/
theorem startedBefore_step (h : StartedBefore s runId w) (hstopped : ¬ Running w.store runId)
    (hstarts : ¬ w.StartsStopped C e) : StartedBefore s runId (step C w e) := by
  have hstep : Stepped C w (step C w e) e := step_stepped
  intro call hcall hphase row hrow hrun hstarted
  cases hstep with
  | quiet calls hstore hnone hcalls _ =>
      rcases hnone with hnone | hnone
      · rw [hnone] at hcall
        cases hcall
      · rw [hstore] at hrow
        have hbefore := started_before_run hnone hrow hstarted
        exact h call (hcalls call hcall) hphase row hbefore hrun hstarted
  | begun callId worker leaseSeconds now claimed _ hclaim hcalls _ =>
      have hrow' := hrow
      rw [claimAction_step hclaim] at hrow
      have hbefore := started_before callStep_actions rfl hrow hstarted
      rcases hcalls call hcall with rfl | hold
      · -- the claimed row is not started
        rcases claimAction_ok hclaim with ⟨hnone, -⟩ | ⟨old, hnext, hsome, -, hstore⟩
        · cases hnone
        · cases hsome
          rw [hstore] at hrow'
          have hold := (nextClaim_some hnext).1
          have hset : (old.claimedBy worker (now + leaseSeconds)).actionId = old.actionId := rfl
          rw [Store.action?_of_actions Store.pushEvent_actions, Store.setAction_action?, hset,
            if_pos rfl, hold, Option.map_some] at hrow'
          cases hrow'
          cases hstarted
      · exact h call hold hphase row hbefore hrun hstarted
  | started sent now marked hevent hsent hmark hcalls _ =>
      rcases hcalls call hcall with rfl | hold
      · cases hphase
      · rw [markDispatchStarted_step hmark] at hrow
        rcases callStep_actions.before hrow with
          ⟨old, hbefore, rfl | hrewrites⟩ | ⟨-, a, key, -, -, rfl, -⟩
        · exact h call hold hphase row hbefore hrun hstarted
        · -- the marked row was claimed, and its run is not running
          refine absurd ?_ hstarts
          rw [hevent]
          have hsame := hrewrites.same.runId
          obtain ⟨hid, hclaimed, howner, -⟩ := hrewrites
          have hfound : w.store.action? sent.action.actionId = some old := by
            rw [hid, (Store.action?_some hbefore).2]
            exact hbefore
          refine ⟨sent, hsent, old, hfound, hclaimed, howner,
            marked_column hmark hfound hclaimed, ?_⟩
          · rw [← hsame, hrun]
            exact hstopped
        · cases hstarted

end

/-! ## A claimed action whose run was stopped -/

section

variable {C : Codec} {w : World} {e : Event}

/-- Only a claim makes an action claimed, and it needs the run to be running. -/
theorem claimed_call {s : Store} {c : Call} {id : ActionId} {row' : ActionRow}
    (hrow' : (callStep C s c).action? id = some row') (hclaimed : row'.state = .claimed) :
    (∃ row, s.action? id = some row ∧ row.state = .claimed ∧ row.runId = row'.runId) ∨
      (∃ worker leaseSeconds now, c = .claimAction worker leaseSeconds now) ∧
        Running s row'.runId := by
  rcases callStep_actions.before hrow' with ⟨row, hrow, rfl | hrewrites⟩ | ⟨-, _, _, -, -, rfl, -⟩
  · exact Or.inl ⟨row', hrow, hclaimed, rfl⟩
  · have hsame := hrewrites.same.runId
    cases c <;> simp only [Call.Rewrites] at hrewrites
    case claimAction worker leaseSeconds now =>
      obtain ⟨-, -, hrunning⟩ := nextClaim_some hrewrites.1
      exact Or.inr ⟨⟨worker, leaseSeconds, now, rfl⟩, hsame ▸ hrunning⟩
    case markDispatchStarted => simp [hrewrites.2.2.2, ActionRow.startedAt] at hclaimed
    case completeAction => simp [hrewrites.2.2.2, Finish.set, completed] at hclaimed
    case failAction => simp [hrewrites.2.2.2, Finish.set, failed] at hclaimed
    case markActionOutcomeUnknown =>
      simp [hrewrites.2.2.2, ActionRow.outcomeUnknown] at hclaimed
    case reclaimExpiredActions =>
      simp [hrewrites.2, ActionRow.reclaimed, hrewrites.1] at hclaimed
    case recordReconciledOutcome =>
      obtain ⟨-, -, state, -, rfl⟩ := hrewrites
      cases state <;> simp [ReconcileOutcome.set, ReconcileOutcome.actionState] at hclaimed
    case cancelRun =>
      simp [hrewrites.2.2, ActionRow.cancelledFor, hrewrites.1, hrewrites.2.1] at hclaimed
    case securityRevokeRun =>
      simp [hrewrites.2.2, ActionRow.cancelledFor, hrewrites.1, hrewrites.2.1] at hclaimed
    case markRunNeedsAttention =>
      simp [hrewrites.2.2, ActionRow.cancelledFor, hrewrites.1, hrewrites.2.1] at hclaimed
  · cases hclaimed

theorem finishAction_runs {s s' : Store} {actionId : ActionId} {worker : String} {a : Finish}
    {r : ActionRow} (h : finishAction C s actionId worker a = .ok (r, s')) : s'.runs = s.runs := by
  obtain ⟨row, -, ⟨-, rfl⟩ | ⟨-, -, payload, rfl⟩⟩ := finishAction_ok h
  · rfl
  · rfl

theorem claimAction_runs {s s' : Store} {worker : String} {leaseSeconds : Nat} {now : Instant}
    {r : Option ActionRow} (h : claimAction C s worker leaseSeconds now = .ok (r, s')) :
    s'.runs = s.runs := by
  rcases claimAction_ok h with ⟨-, rfl⟩ | ⟨row, -, -, -, rfl⟩
  · rfl
  · rfl

theorem Running.of_runs {s s' : Store} {runId : RunId} (hruns : s'.runs = s.runs)
    (h : Running s runId) : Running s' runId := by
  obtain ⟨run, hrun, hrunning⟩ := h
  exact ⟨run, by rw [Store.run?_of_runs hruns, hrun], hrunning⟩

/-- A step that leaves an action claimed and its run stopped found the action claimed. -/
theorem claimed_step {id : ActionId} {row' : ActionRow}
    (hrow' : (step C w e).store.action? id = some row') (hclaimed : row'.state = .claimed)
    (hstopped : ¬ Running (step C w e).store row'.runId) :
    ∃ row, w.store.action? id = some row ∧ row.state = .claimed ∧ row.runId = row'.runId := by
  have hone : ∀ c : Call, (∀ worker leaseSeconds now, c ≠ .claimAction worker leaseSeconds now) →
      (callStep C w.store c).action? id = some row' →
      ∃ row, w.store.action? id = some row ∧ row.state = .claimed ∧ row.runId = row'.runId := by
    intro c hc hrow
    rcases claimed_call hrow hclaimed with hbefore | ⟨⟨worker, leaseSeconds, now, rfl⟩, -⟩
    · exact hbefore
    · exact absurd rfl (hc worker leaseSeconds now)
  have hfails : ∀ (call : InFlight) (errorCode : String),
      (w.fails C call errorCode).store.action? id = some row' →
      ∃ row, w.store.action? id = some row ∧ row.state = .claimed ∧ row.runId = row'.runId := by
    intro call errorCode hrow
    unfold World.fails onFailure at hrow
    split at hrow
    · exact hone (.markActionOutcomeUnknown call.action.actionId call.worker errorCode)
        (by simp) hrow
    · exact hone (.failAction call.action.actionId call.worker errorCode) (by simp) hrow
  cases e with
  | begin callId worker leaseSeconds now =>
      simp only [step] at hrow' hstopped
      split at hrow'
      · exact ⟨row', hrow', hclaimed, rfl⟩
      · rename_i hfresh
        rw [if_neg hfresh] at hstopped
        unfold World.begins at hrow' hstopped
        split at hrow'
        · rename_i action s hclaim
          rw [hclaim] at hstopped
          dsimp only at hrow' hstopped
          have hafter : ∀ row, s.action? id = some row → row.state = .claimed →
              row.runId = row'.runId → ¬ Running s row'.runId →
              ∃ row, w.store.action? id = some row ∧ row.state = .claimed ∧
                row.runId = row'.runId := by
            intro row hrow hrowClaimed hsame hnot
            rw [claimAction_step hclaim] at hrow
            rcases claimed_call hrow hrowClaimed with ⟨old, hold, holdClaimed, holdSame⟩ |
              ⟨-, hrunning⟩
            · exact ⟨old, hold, holdClaimed, holdSame.trans hsame⟩
            · rw [hsame] at hrunning
              exact absurd (hrunning.of_runs (claimAction_runs hclaim)) hnot
          split at hrow'
          · rename_i hretry
            rw [hretry] at hstopped
            exact hafter row' hrow' hclaimed rfl hstopped
          · rename_i failure hretry
            rw [hretry] at hstopped
            -- the handler of a call in its preflight fails the action and leaves the runs alone
            have hhandler : ∀ s' : Store, committed s (onFailure C s
                ⟨callId, worker, action, .preflight⟩ failure.errorCode) = s' →
                s'.runs = s.runs ∧ s' = callStep C s
                  (.failAction action.actionId worker failure.errorCode) := by
              rintro s' rfl
              unfold onFailure
              rw [if_neg (by simp)]
              refine ⟨?_, rfl⟩
              cases hfinish : finishAction C s action.actionId worker
                  (failed failure.errorCode) with
              | error _ => rfl
              | ok r => exact finishAction_runs hfinish
            obtain ⟨hruns, hcall⟩ := hhandler _ rfl
            have hrow : (callStep C s (.failAction action.actionId worker
                failure.errorCode)).action? id = some row' := hcall ▸ hrow'
            rcases claimed_call hrow hclaimed with ⟨row, hold, holdClaimed, hsame⟩ |
              ⟨⟨_, _, _, hcontra⟩, -⟩
            · exact hafter row hold holdClaimed hsame fun hrunning =>
                hstopped (hrunning.of_runs hruns)
            · cases hcontra
        · rename_i s hclaim
          rcases claimAction_ok hclaim with ⟨-, rfl⟩ | ⟨_, -, hnone, -⟩
          · exact ⟨row', hrow', hclaimed, rfl⟩
          · cases hnone
        · exact ⟨row', hrow', hclaimed, rfl⟩
  | preflightFails callId errorCode =>
      simp only [step] at hrow'
      split at hrow'
      · exact hfails _ errorCode hrow'
      · exact ⟨row', hrow', hclaimed, rfl⟩
  | start callId now =>
      simp only [step] at hrow'
      split at hrow'
      · rename_i call hcall
        unfold World.starts at hrow'
        split at hrow'
        · rename_i row s hmark
          rw [markDispatchStarted_step hmark] at hrow'
          exact hone _ (by simp) hrow'
        · exact hfails call _ hrow'
      · exact ⟨row', hrow', hclaimed, rfl⟩
  | startThenDies callId now =>
      simp only [step] at hrow'
      split at hrow'
      · exact hone _ (by simp) hrow'
      · exact ⟨row', hrow', hclaimed, rfl⟩
  | dispatchReturns callId result =>
      simp only [step] at hrow'
      split at hrow'
      · rename_i call hcall
        unfold World.returns at hrow'
        split at hrow'
        · rename_i r s hfinish
          have hstore : callStep C w.store (.completeAction call.action.actionId call.worker result
              (dispatchRef call.action result)) = s := by
            simp [callStep, hfinish]
          exact hone _ (by simp) (hstore ▸ hrow')
        · exact hfails call _ hrow'
      · exact ⟨row', hrow', hclaimed, rfl⟩
  | dispatchFails callId errorCode =>
      simp only [step] at hrow'
      split at hrow'
      · exact hfails _ errorCode hrow'
      · exact ⟨row', hrow', hclaimed, rfl⟩
  | abandon callId => exact ⟨row', hrow', hclaimed, rfl⟩
  | crash => exact ⟨row', hrow', hclaimed, rfl⟩
  | outside c =>
      refine hone c.call ?_ hrow'
      intro worker leaseSeconds now hcall
      have houtside := c.outside
      rw [hcall] at houtside
      cases houtside

end

/-! ## Runs of the runner -/

/-- The system after the events. -/
abbrev reached (C : Codec) (events : List Event) : World := runFrom (step C) .empty events

/-- The run was running before the event `leave`, and from it on to the end of `mid` it is not. -/
def StoppedSince (C : Codec) (runId : RunId) (pre : List Event) (leave : Event)
    (mid : List Event) : Prop :=
  Running (reached C pre).store runId ∧
    ∀ done, done <+: mid → ¬ Running (reached C (pre ++ leave :: done)).store runId

/-- While a run is stopped only actions are dispatched that were started when it was stopped, and a
cancelled action is never dispatched again. -/
structure StartsNothingNew (C : Codec) (events : List Event) : Prop where
  stopped : ∀ pre leave mid e post runId id row, events = pre ++ leave :: mid ++ e :: post →
    StoppedSince C runId pre leave mid →
    (reached C (pre ++ leave :: mid)).store.action? id = some row → row.runId = runId →
    (reached C (pre ++ leave :: mid)).Dispatches C e id →
      ∃ row₀, (reached C (pre ++ [leave])).store.action? id = some row₀ ∧ row₀.state = .started
  cancelled : ∀ pre mid e post id, events = pre ++ mid ++ e :: post →
    Cancelled (reached C pre).store id → ¬ (reached C (pre ++ mid)).Dispatches C e id

section

variable {C : Codec} {w : World} {e : Event}

/-- A call in flight was claimed, so the event of its start encodes. -/
def Encodable (C : Codec) (w : World) : Prop :=
  ∀ call ∈ w.calls.rows, encode C eventLimit (actionPayload call.action.actionId) = .ok ()

theorem encodable_step (h : Encodable C w) : Encodable C (step C w e) := by
  have hstep : Stepped C w (step C w e) e := step_stepped
  intro call hcall
  cases hstep with
  | quiet _ _ _ hcalls _ => exact h call (hcalls call hcall)
  | begun callId worker leaseSeconds now row _ hclaim hcalls _ =>
      rcases hcalls call hcall with rfl | hold
      · rcases claimAction_ok hclaim with ⟨hnone, -⟩ | ⟨old, -, hsome, hencode, -⟩
        · cases hnone
        · cases hsome
          exact hencode
      · exact h call hold
  | started sent now row _ hsent hmark hcalls _ =>
      rcases hcalls call hcall with rfl | hold
      · have hid : (sent.sent row).action.actionId = sent.action.actionId :=
          (marked_row hmark).2.2.2
        rw [hid]
        exact h sent (call?_some hsent).1
      · exact h call hold

/-- A call that comes out of its preflight to a claimed action of its worker dispatches it. -/
theorem World.StartsStopped.dispatches (hencodable : Encodable C w) (h : w.StartsStopped C e) :
    ∃ id row, w.store.action? id = some row ∧ row.state = .claimed ∧
      ¬ Running w.store row.runId ∧ w.Dispatches C e id := by
  cases e <;> try exact h.elim
  case start callId now =>
    obtain ⟨call, hcall, row, hrow, hclaimed, howner, hcolumn, hstopped⟩ := h
    obtain ⟨hmem, -, -⟩ := call?_some hcall
    have hid : row.actionId = call.action.actionId := (Store.action?_some hrow).2
    refine ⟨call.action.actionId, row, hrow, hclaimed, hstopped, ?_⟩
    have hfound : requireAction w.store call.action.actionId = .ok row := by
      unfold requireAction
      rw [Option.mem_def.mp hrow]
    have hmark : ∃ s, markDispatchStarted C w.store call.action.actionId call.worker now =
        .ok (row.startedAt now, s) := by
      unfold markDispatchStarted
      rw [hfound]
      show ∃ s, (if row.state = .started then _ else _) = _
      rw [if_neg (by simp [hclaimed]), check_true ⟨hclaimed, howner⟩, hcolumn]
      unfold appendEvent
      rw [hencodable call hmem]
      exact ⟨_, rfl⟩
    obtain ⟨s, hmark⟩ := hmark
    have hstep : step C w (.start callId now) = w.starts C call now := by
      simp only [step, Option.mem_def.mp hcall]
    unfold World.Dispatches
    rw [hstep, World.starts, hmark]
    show w.dispatched ++ [row.actionId] = _
    rw [hid]

/-- A claimed action whose run is stopped was claimed when the run was stopped. -/
theorem claimed_since (events : List Event) {id : ActionId} {row : ActionRow}
    (hrow : (reached C events).store.action? id = some row) (hclaimed : row.state = .claimed)
    (hstopped : ¬ Running (reached C events).store row.runId) :
    ∃ pre leave mid, events = pre ++ leave :: mid ∧ StoppedSince C row.runId pre leave mid ∧
      ∃ row₀, (reached C (pre ++ [leave])).store.action? id = some row₀ ∧
        row₀.state = .claimed := by
  induction events using List.reverseRecOn generalizing row with
  | nil => cases hrow
  | append_singleton events e ih =>
      have hlast : reached C (events ++ [e]) = step C (reached C events) e := runFrom_append ..
      have hrow' := hrow
      have hstopped' := hstopped
      rw [hlast] at hrow' hstopped'
      obtain ⟨old, hold, holdClaimed, hsame⟩ := claimed_step hrow' hclaimed hstopped'
      by_cases hrunning : Running (reached C events).store row.runId
      · refine ⟨events, e, [], rfl, ⟨hrunning, fun done hdone => ?_⟩, row, hrow, hclaimed⟩
        rw [List.prefix_nil.mp hdone]
        exact hstopped
      · rw [← hsame] at hrunning
        obtain ⟨pre, leave, mid, rfl, ⟨hwas, hsince⟩, hstart⟩ := ih hold holdClaimed hrunning
        refine ⟨pre, leave, mid ++ [e], by simp, ⟨hsame ▸ hwas, fun done hdone => ?_⟩, hstart⟩
        rcases List.prefix_concat_iff.mp hdone with rfl | hshorter
        · rw [List.append_assoc] at hstopped
          exact hstopped
        · exact hsame ▸ hsince done hshorter

/-- **Over every interleaving of `run_once` calls with each other, with crashes and with every other
writer, a stopped run starts nothing new exactly when no call comes out of its preflight to an
action that is still claimed and whose run is stopped.** -/
theorem stopped_runs_start_nothing_iff (C : Codec) (events : List Event) :
    StartsNothingNew C events ↔
      Along (step C) (fun w e => ¬ w.StartsStopped C e) .empty events := by
  constructor
  · intro h
    rw [along_iff]
    rintro pre e post rfl hstarts
    have hencodable : Encodable C (reached C pre) :=
      runFrom_invariant (Encodable C) (fun _ _ => encodable_step) (by rintro _ ⟨⟩) pre
    obtain ⟨id, row, hrow, hclaimed, hstopped, hdispatches⟩ := hstarts.dispatches hencodable
    obtain ⟨pre, leave, mid, rfl, hsince, row₀, hrow₀, hclaimed₀⟩ :=
      claimed_since pre hrow hclaimed hstopped
    obtain ⟨found, hfound, hstarted⟩ :=
      h.stopped pre leave mid e post row.runId id row rfl hsince hrow rfl hdispatches
    rw [hrow₀] at hfound
    cases hfound
    rw [hclaimed₀] at hstarted
    cases hstarted
  · intro h
    constructor
    · rintro pre leave mid e post runId id row rfl ⟨-, hsince⟩ hrow hrun hdispatches
      have hbefore : ∀ done, done <+: mid →
          StartedBefore (reached C (pre ++ [leave])).store runId
            (reached C (pre ++ leave :: done)) := by
        intro done
        induction done using List.reverseRecOn with
        | nil => exact fun _ => startedBefore_self
        | append_singleton done d ih =>
            rintro ⟨rest, rfl⟩
            have hprefix : done <+: done ++ [d] ++ rest := ⟨[d] ++ rest, by simp⟩
            have hkept : ¬ (reached C (pre ++ leave :: done)).StartsStopped C d :=
              along_iff.mp h (pre ++ leave :: done) d (rest ++ e :: post) (by simp)
            have hlast : reached C (pre ++ leave :: (done ++ [d])) =
                step C (reached C (pre ++ leave :: done)) d := by
              rw [← List.cons_append, ← List.append_assoc]
              exact runFrom_append ..
            rw [hlast]
            exact startedBefore_step (ih hprefix) (hsince done hprefix) hkept
      obtain ⟨callId, now, call, found, rfl, hcall, rfl, hfound, howner,
        hstarted | ⟨hclaimed, hcolumn⟩⟩ := dispatches_row hdispatches
      · obtain ⟨hmem, -, hphase⟩ := call?_some hcall
        rw [hrow] at hfound
        cases hfound
        exact hbefore mid List.prefix_rfl call hmem hphase row hrow hrun hstarted
      · have hkept := along_iff.mp h (pre ++ leave :: mid) (.start callId now) post rfl
        refine absurd ⟨call, hcall, found, hfound, hclaimed, howner, hcolumn, ?_⟩ hkept
        rw [hrow] at hfound
        cases hfound
        exact hrun ▸ hsince mid List.prefix_rfl
    · rintro pre mid e post id rfl hcancelled hdispatches
      have hkept : Cancelled (reached C (pre ++ mid)).store id := by
        rw [reached, runFrom_append]
        exact runFrom_invariant (fun w : World => Cancelled w.store id) (fun _ _ => cancelled_step)
          hcancelled mid
      obtain ⟨row, hrow, hstate⟩ := hkept
      obtain ⟨_, _, _, found, -, -, -, hfound, -, hheld⟩ := dispatches_row hdispatches
      rw [hrow] at hfound
      cases hfound
      rw [hstate] at hheld
      rcases hheld with hheld | ⟨hheld, -⟩ <;> cases hheld

end

/-! ## A run that is paused during a preflight -/

def samplePause : TransitionRun := ⟨"owner", "run", .running, 1, .paused, none, "state"⟩

/-- A commit is claimed, its run is paused while the preflight is awaited, and the preflight
returns. -/
def samplePausedInPreflight : List Event :=
  [sampleCreated, sampleInserted,
   .begin 1 "worker" 30 0, .outside ⟨.transitionRun samplePause, rfl⟩, .start 1 2]

theorem samplePausedInPreflight_starts : ¬ StartsNothingNew smallCodec samplePausedInPreflight := by
  intro h
  let before := samplePausedInPreflight.take 3
  let pause : Event := .outside ⟨.transitionRun samplePause, rfl⟩
  have hrunning : ((reached smallCodec before).store.run? "run").map RunRow.state =
      some .running := by
    decide
  have hpaused : ((reached smallCodec (before ++ [pause])).store.run? "run").map RunRow.state =
      some .paused := by
    decide
  have hclaimed : ((reached smallCodec (before ++ [pause])).store.action?
      sampleCommit.actionId).map (fun row => (row.runId, row.state)) =
      some ("run", .claimed) := by
    decide
  have hdispatches : (reached smallCodec (before ++ [pause])).Dispatches smallCodec (.start 1 2)
      sampleCommit.actionId := by
    unfold World.Dispatches
    decide
  obtain ⟨row, hrow, hcolumns⟩ := Option.map_eq_some_iff.mp hclaimed
  obtain ⟨hrun, hstate⟩ := Prod.mk.inj hcolumns
  have hsince : StoppedSince smallCodec "run" before pause [] := by
    refine ⟨Option.map_eq_some_iff.mp hrunning, ?_⟩
    rintro done hdone ⟨run, hfound, hagain⟩
    rw [List.prefix_nil.mp hdone] at hfound
    rw [hfound, Option.map_some, hagain] at hpaused
    cases hpaused
  obtain ⟨found, hfound, hstarted⟩ :=
    h.stopped before pause [] (.start 1 2) [] "run" _ row rfl hsince hrow hrun hdispatches
  rw [hrow] at hfound
  cases hfound
  rw [hstate] at hstarted
  cases hstarted

end AutocadMcp.Workflow
