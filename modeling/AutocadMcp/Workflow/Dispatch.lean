import AutocadMcp.Workflow.Runner

/-!
# A write is dispatched at most once

A write that has its start recorded is never claimed again, so it is dispatched
again only by a call that claimed it before. Such a call is there when a lease ran
out during its preflight and another call of the same worker claimed the action,
started it and so made `mark_dispatch_started` return it to both.
-/

namespace AutocadMcp.Workflow

/-! ## A write that was sent stays so -/

section

variable {C : Codec} {s : Store} {c : Call} {row row' : ActionRow}

/-- A write that has left `pending` and `claimed` does not come back, nor is it started again. -/
theorem rewrites_sent (h : c.Rewrites s row row') (hwrite : row.effectClass = .write)
    (hpending : row.state ≠ .pending) (hclaimed : row.state ≠ .claimed) :
    row'.state ≠ .pending ∧ row'.state ≠ .claimed ∧ row'.state ≠ .started := by
  have hopen : ¬ (row.state = .pending ∨ row.state = .claimed) := not_or.mpr ⟨hpending, hclaimed⟩
  cases c <;> simp only [Call.Rewrites] at h
  case claimAction worker leaseSeconds now =>
    obtain ⟨-, hclaimable, -⟩ := nextClaim_some h.1
    simp [ActionRow.claimable, ActionRow.reclaimable, hpending, hclaimed, hwrite] at hclaimable
  case markDispatchStarted => exact absurd h.2.1 hclaimed
  case completeAction => simp [h.2.2.2, Finish.set, completed]
  case failAction => simp [h.2.2.2, Finish.set, failed]
  case markActionOutcomeUnknown => simp [h.2.2.2, ActionRow.outcomeUnknown]
  case reclaimExpiredActions now =>
    have hexpired := h.1
    simp [ActionRow.reclaimable, hclaimed, hwrite] at hexpired
  case recordReconciledOutcome =>
    obtain ⟨-, -, state, -, rfl⟩ := h
    cases state <;> simp [ReconcileOutcome.set, ReconcileOutcome.actionState]
  case cancelRun => exact absurd h.2.1 hopen
  case securityRevokeRun => exact absurd h.2.1 hopen
  case markRunNeedsAttention => exact absurd h.2.1 hopen

/-- Only `mark_dispatch_started` starts an action. -/
theorem rewrites_started (h : c.Rewrites s row row') (hstarted : row'.state = .started) :
    c.starts = true := by
  cases c <;> simp only [Call.Rewrites] at h
  case claimAction => simp [h.2, ActionRow.claimedBy] at hstarted
  case markDispatchStarted => rfl
  case completeAction => simp [h.2.2.2, Finish.set, completed] at hstarted
  case failAction => simp [h.2.2.2, Finish.set, failed] at hstarted
  case markActionOutcomeUnknown => simp [h.2.2.2, ActionRow.outcomeUnknown] at hstarted
  case reclaimExpiredActions => simp [h.2, ActionRow.reclaimed, h.1] at hstarted
  case recordReconciledOutcome =>
    obtain ⟨-, -, state, -, rfl⟩ := h
    cases state <;> simp [ReconcileOutcome.set, ReconcileOutcome.actionState] at hstarted
  case cancelRun => simp [h.2.2, ActionRow.cancelledFor, h.1, h.2.1] at hstarted
  case securityRevokeRun => simp [h.2.2, ActionRow.cancelledFor, h.1, h.2.1] at hstarted
  case markRunNeedsAttention => simp [h.2.2, ActionRow.cancelledFor, h.1, h.2.1] at hstarted

end

/-! ## Counting the dispatches -/

/-- Every write was handed to the port at most once. -/
def OnceOnly (w : World) : Prop :=
  ∀ id row, w.store.action? id = some row → row.effectClass = .write → w.dispatched.count id ≤ 1

/-- The preflight of a call returns and finds the write it claimed already started by its
worker. -/
def World.Redispatches (w : World) : Event → Prop
  | .start callId _ =>
      ∃ call ∈ w.call? callId .preflight, ∃ row ∈ w.store.action? call.action.actionId,
        row.effectClass = .write ∧ row.state = .started ∧ row.leaseOwner = some call.worker
  | _ => False

instance (w : World) (e : Event) : Decidable (w.Redispatches e) := by
  unfold World.Redispatches
  split <;> infer_instance

/-- A write that has not left `pending` and `claimed` was not handed to the port. -/
structure Unsent (s : Store) (dispatched : List ActionId) : Prop where
  absent : ∀ id, s.action? id = none → id ∉ dispatched
  waiting : ∀ id row, s.action? id = some row → row.effectClass = .write →
    row.state = .pending ∨ row.state = .claimed → id ∉ dispatched

/-- A call that waits in its preflight for a write that is started waits for one that was handed
to the port. -/
def Overtaken (w : World) : Prop :=
  ∀ call ∈ w.calls.rows, call.phase = .preflight → ∀ row,
    w.store.action? call.action.actionId = some row → row.effectClass = .write →
      row.state = .started → call.action.actionId ∈ w.dispatched

section

variable {C : Codec} {s s' : Store} {c : Call} {dispatched : List ActionId}

theorem unsent_call (h : Unsent s dispatched) (hactions : ActionChange s s' c) :
    Unsent s' dispatched := by
  constructor
  · intro id hnone
    cases hrow : s.action? id with
    | none => exact h.absent id hrow
    | some row =>
        obtain ⟨row', hrow', -⟩ := hactions.old id row hrow
        rw [hnone] at hrow'
        cases hrow'
  · intro id row' hrow' hwrite hwaiting
    rcases hactions.before hrow' with ⟨row, hrow, rfl | hrewrites⟩ | ⟨hnone, -⟩
    · exact h.waiting id row' hrow hwrite hwaiting
    · have hsame := hrewrites.same.effectClass
      rw [hsame] at hwrite
      refine h.waiting id row hrow hwrite ?_
      by_contra hsent
      obtain ⟨hpending, hclaimed⟩ := not_or.mp hsent
      obtain ⟨hp, hc, -⟩ := rewrites_sent hrewrites hwrite hpending hclaimed
      exact hwaiting.elim hp hc
    · exact h.absent id hnone

theorem once_call (h : ∀ id row, s.action? id = some row → row.effectClass = .write →
      dispatched.count id ≤ 1) (hunsent : Unsent s dispatched) (hactions : ActionChange s s' c) :
    ∀ id row, s'.action? id = some row → row.effectClass = .write → dispatched.count id ≤ 1 := by
  intro id row' hrow' hwrite
  rcases hactions.before hrow' with ⟨row, hrow, rfl | hrewrites⟩ | ⟨hnone, -⟩
  · exact h id row' hrow hwrite
  · rw [hrewrites.same.effectClass] at hwrite
    exact h id row hrow hwrite
  · rw [List.count_eq_zero_of_not_mem (hunsent.absent id hnone)]
    exact Nat.zero_le 1

/-- A write that is started after a call that records no start was started before it. -/
theorem started_before (hactions : ActionChange s s' c) (hc : c.starts = false) {id : ActionId}
    {row' : ActionRow} (hrow' : s'.action? id = some row') (hstarted : row'.state = .started) :
    s.action? id = some row' := by
  rcases hactions.before hrow' with ⟨row, hrow, rfl | hrewrites⟩ | ⟨-, a, key, -, -, rfl, -⟩
  · exact hrow
  · rw [rewrites_started hrewrites hstarted] at hc
    cases hc
  · cases hstarted

theorem started_before_run {calls : List Call} (hcalls : ∀ c ∈ calls, c.starts = false)
    {id : ActionId} {row : ActionRow}
    (hrow : (runFrom (callStep C) s calls).action? id = some row) (hstarted : row.state = .started) :
    s.action? id = some row := by
  induction calls generalizing s with
  | nil => exact hrow
  | cons c calls ih =>
      have hrest := ih (fun d hd => hcalls d (List.mem_cons_of_mem c hd)) hrow
      exact started_before callStep_actions (hcalls c List.mem_cons_self) hrest hstarted

end

/-! ## Steps and runs -/

/-- The row that a recorded start returns is started, and it is the row in the table. -/
theorem marked_row {C : Codec} {s s' : Store} {actionId : ActionId} {worker : String}
    {now : Instant} {r : ActionRow} (h : markDispatchStarted C s actionId worker now = .ok (r, s')) :
    s'.action? actionId = some r ∧ r.state = .started ∧ r.leaseOwner = some worker ∧
      r.actionId = actionId := by
  obtain ⟨row, hrow, howner, ⟨hstarted, rfl, rfl⟩ | ⟨hclaimed, rfl, rfl⟩⟩ :=
    markDispatchStarted_ok h
  · exact ⟨hrow, hstarted, howner, (Store.action?_some hrow).2⟩
  · refine ⟨?_, rfl, howner, (Store.action?_some hrow).2⟩
    rw [Store.action?_of_actions Store.pushEvent_actions, Store.setAction_action?, if_pos rfl, hrow,
      Option.map_some]

section

variable {C : Codec} {w : World} {e : Event}

theorem unsent_step (h : Unsent w.store w.dispatched) :
    Unsent (step C w e).store (step C w e).dispatched := by
  have hstep : Stepped C w (step C w e) e := step_stepped
  have hstore : Unsent (step C w e).store w.dispatched :=
    hstep.store (fun s => Unsent s w.dispatched) (fun _ _ hs => unsent_call hs callStep_actions) h
  cases hstep with
  | quiet calls _ _ _ hdispatched => rwa [hdispatched]
  | begun callId worker leaseSeconds now row _ _ _ hdispatched => rwa [hdispatched]
  | started call now row _ _ hmark _ hdispatched =>
      obtain ⟨hrow, hstarted, -, hid⟩ := marked_row hmark
      rw [hdispatched]
      constructor
      · intro id hnone hmem
        rcases List.mem_append.mp hmem with hold | hnew
        · exact hstore.absent id hnone hold
        · rw [List.mem_singleton.mp hnew, hid, hrow] at hnone
          cases hnone
      · intro id found hfound hwrite hwaiting hmem
        rcases List.mem_append.mp hmem with hold | hnew
        · exact hstore.waiting id found hfound hwrite hwaiting hold
        · rw [List.mem_singleton.mp hnew, hid, hrow] at hfound
          cases hfound
          rw [hstarted] at hwaiting
          rcases hwaiting with hw | hw <;> cases hw

theorem overtaken_step (h : Overtaken w) : Overtaken (step C w e) := by
  have hstep : Stepped C w (step C w e) e := step_stepped
  intro call hcall hphase row hrow hwrite hstarted
  cases hstep with
  | quiet calls hstore hstarts hcalls hdispatched =>
      rw [hdispatched]
      rcases hstarts with hnone | hstarts
      · rw [hnone] at hcall
        cases hcall
      · rw [hstore] at hrow
        have hbefore := started_before_run hstarts hrow hstarted
        exact h call (hcalls call hcall) hphase row hbefore hwrite hstarted
  | begun callId worker leaseSeconds now claimed _ hclaim hcalls hdispatched =>
      rw [hdispatched]
      have hrow' := hrow
      rw [claimAction_step hclaim] at hrow
      have hbefore := started_before callStep_actions rfl hrow hstarted
      rcases hcalls call hcall with rfl | hold
      · -- the claimed row is not started
        rcases claimAction_ok hclaim with ⟨hnone, -⟩ | ⟨old, hnext, hsome, -, hstore⟩
        · cases hnone
        · cases hsome
          rw [hstore] at hrow'
          have hold := (nextClaim_some hnext).1
          have hset : (old.claimedBy worker (now + leaseSeconds)).actionId = old.actionId := rfl
          rw [Store.action?_of_actions Store.pushEvent_actions, Store.setAction_action?, hset,
            if_pos rfl, hold, Option.map_some] at hrow'
          cases hrow'
          cases hstarted
      · exact h call hold hphase row hbefore hwrite hstarted
  | started sent now marked _ _ hmark hcalls hdispatched =>
      rw [hdispatched]
      rcases hcalls call hcall with rfl | hold
      · cases hphase
      · have hid := (marked_row hmark).2.2.2
        rw [markDispatchStarted_step hmark] at hrow
        rcases callStep_actions.before hrow with
          ⟨old, hbefore, rfl | hrewrites⟩ | ⟨-, a, key, -, -, rfl, -⟩
        · exact List.mem_append_left _ (h call hold hphase row hbefore hwrite hstarted)
        · have hsame : sent.action.actionId = old.actionId := hrewrites.1
          rw [(Store.action?_some hbefore).2] at hsame
          exact List.mem_append_right _ (by rw [List.mem_singleton, hid, hsame])
        · cases hstarted

theorem once_step (hunsent : Unsent w.store w.dispatched) (honce : OnceOnly w)
    (hsafe : ¬ w.Redispatches e) : OnceOnly (step C w e) := by
  have hstep : Stepped C w (step C w e) e := step_stepped
  have hstore := hstep.store
    (fun s => Unsent s w.dispatched ∧ ∀ id row, s.action? id = some row →
      row.effectClass = .write → w.dispatched.count id ≤ 1)
    (fun _ _ hs => ⟨unsent_call hs.1 callStep_actions, once_call hs.2 hs.1 callStep_actions⟩)
    ⟨hunsent, honce⟩
  cases hstep with
  | quiet calls _ _ _ hdispatched =>
      unfold OnceOnly
      rw [hdispatched]
      exact hstore.2
  | begun callId worker leaseSeconds now row _ _ _ hdispatched =>
      unfold OnceOnly
      rw [hdispatched]
      exact hstore.2
  | started call now row hevent hcall hmark _ hdispatched =>
      intro id found hfound hwrite
      rw [hdispatched]
      obtain ⟨hrow, -, -, hid⟩ := marked_row hmark
      by_cases hsame : id = row.actionId
      · rw [hsame, hid, hrow] at hfound
        cases hfound
        -- the row before the start: claimed, since the call does not redispatch
        obtain ⟨old, hold, howner, ⟨hstarted, rfl, -⟩ | ⟨hclaimed, rfl, -⟩⟩ :=
          markDispatchStarted_ok hmark
        · refine absurd ?_ hsafe
          rw [hevent]
          exact ⟨call, hcall, row, hold, hwrite, hstarted, howner⟩
        · have hfresh := hunsent.waiting _ old hold hwrite (Or.inr hclaimed)
          rw [hsame, List.count_append, hid, List.count_eq_zero_of_not_mem hfresh]
          simp
      · have hne : row.actionId ≠ id := fun heq => hsame heq.symm
        rw [List.count_append, List.count_singleton]
        simpa [hne] using hstore.2 id found hfound hwrite

/-- A redispatch is a second dispatch. -/
theorem redispatched_twice (hover : Overtaken w) (h : w.Redispatches e) :
    ¬ OnceOnly (step C w e) := by
  cases e <;> try exact h.elim
  case start callId now =>
    obtain ⟨call, hcall, row, hrow, hwrite, hstarted, howner⟩ := h
    obtain ⟨hmem, -, hphase⟩ := call?_some hcall
    have hmark : markDispatchStarted C w.store call.action.actionId call.worker now =
        .ok (row, w.store) := by
      have hfound : requireAction w.store call.action.actionId = .ok row := by
        unfold requireAction
        rw [Option.mem_def.mp hrow]
      unfold markDispatchStarted
      rw [hfound]
      show (if row.state = .started then _ else _) = _
      rw [if_pos hstarted, check_true howner]
      rfl
    have hstep : step C w (.start callId now) = w.starts C call now := by
      simp only [step, Option.mem_def.mp hcall]
    intro honce
    rw [hstep] at honce
    unfold World.starts at honce
    rw [hmark] at honce
    have hsent := hover call hmem hphase row hrow hwrite hstarted
    have hid := (Store.action?_some hrow).2
    have hcount : (w.dispatched ++ [row.actionId]).count call.action.actionId ≤ 1 :=
      honce _ row hrow hwrite
    have hpos := List.count_pos_iff.mpr hsent
    rw [hid, List.count_append, List.count_singleton_self] at hcount
    omega

/-- Rows keep their effect class and no dispatch is forgotten. -/
def Grows (w w' : World) : Prop :=
  (∀ id row, w.store.action? id = some row → ∃ row', w'.store.action? id = some row' ∧
    row'.effectClass = row.effectClass) ∧ w.dispatched <+: w'.dispatched

theorem grows_step : Grows w (step C w e) := by
  have hstep : Stepped C w (step C w e) e := step_stepped
  constructor
  · intro id row hrow
    refine hstep.store (fun s => ∃ row', s.action? id = some row' ∧
      row'.effectClass = row.effectClass) ?_ ⟨row, hrow, rfl⟩
    rintro s c ⟨old, hold, heffect⟩
    obtain ⟨row', hrow', rfl | hrewrites⟩ := callStep_actions.old id old hold
    · exact ⟨row', hrow', heffect⟩
    · exact ⟨row', hrow', hrewrites.same.effectClass.trans heffect⟩
  · cases hstep with
    | quiet calls _ _ _ hdispatched => exact hdispatched ▸ List.prefix_rfl
    | begun callId worker leaseSeconds now row _ _ _ hdispatched =>
        exact hdispatched ▸ List.prefix_rfl
    | started call now row _ _ _ _ hdispatched =>
        rw [hdispatched]
        exact List.prefix_append _ _

theorem OnceOnly.before {w' : World} (h : OnceOnly w') (hgrows : Grows w w') : OnceOnly w := by
  intro id row hrow hwrite
  obtain ⟨row', hrow', heffect⟩ := hgrows.1 id row hrow
  have hcount := h id row' hrow' (heffect.trans hwrite)
  exact Nat.le_trans (hgrows.2.sublist.count_le id) hcount

end

/-- What is counted, over every run. -/
structure Counted (w : World) : Prop where
  unsent : Unsent w.store w.dispatched
  overtaken : Overtaken w

theorem counted_empty : Counted .empty := by
  constructor
  · constructor
    · intro id _ hmem
      cases hmem
    · intro id row hrow
      cases hrow
  · intro call hcall
    cases hcall

theorem counted_step {C : Codec} {w : World} {e : Event} (h : Counted w) : Counted (step C w e) :=
  ⟨unsent_step h.unsent, overtaken_step h.overtaken⟩

theorem counted_run (C : Codec) (events : List Event) :
    Counted (runFrom (step C) .empty events) :=
  runFrom_invariant Counted (fun _ _ => counted_step) counted_empty events

/-- Over every interleaving of `run_once` calls with each other, with crashes and with every other
writer, each write is handed to the port at most once exactly when no call comes out of its
preflight to a write that its own worker has started meanwhile. -/
theorem dispatched_at_most_once (C : Codec) (events : List Event) :
    OnceOnly (runFrom (step C) .empty events) ↔
      Along (step C) (fun w e => ¬ w.Redispatches e) .empty events := by
  constructor
  · intro honce
    rw [along_iff]
    rintro pre e post rfl hagain
    have hover := (counted_run C pre).overtaken
    have hgrows : Grows (step C (runFrom (step C) .empty pre) e)
        (runFrom (step C) .empty (pre ++ e :: post)) := by
      rw [runFrom_append, runFrom_cons]
      refine runFrom_relates Grows ?_ ?_ (fun _ _ => grows_step) _ post
      · intro w
        exact ⟨fun id row hrow => ⟨row, hrow, rfl⟩, List.prefix_rfl⟩
      · intro w v u hwv hvu
        refine ⟨fun id row hrow => ?_, hwv.2.trans hvu.2⟩
        obtain ⟨row', hrow', heffect⟩ := hwv.1 id row hrow
        obtain ⟨row'', hrow'', heffect'⟩ := hvu.1 id row' hrow'
        exact ⟨row'', hrow'', heffect'.trans heffect⟩
    exact redispatched_twice hover hagain (honce.before hgrows)
  · intro halong
    have hfinal : Counted (runFrom (step C) .empty events) ∧
        OnceOnly (runFrom (step C) .empty events) := by
      refine Along.invariant (fun w => Counted w ∧ OnceOnly w) ?_ ⟨counted_empty, ?_⟩ halong
      · rintro w e ⟨hcounted, honce⟩ hsafe
        exact ⟨counted_step hcounted, once_step hcounted.unsent honce hsafe⟩
      · intro id row hrow
        cases hrow
    exact hfinal.2

/-- The calls that create the run and its commit. -/
def sampleCreated : Event := .outside ⟨.createRun sampleRun, rfl⟩

def sampleInserted : Event := .outside ⟨.insertAction sampleCommit, rfl⟩

/-- The lease of a first call runs out in its preflight, and a second call of the same worker
claims the commit. -/
def sampleOvertaken : List Event :=
  [sampleCreated, sampleInserted,
   .begin 1 "worker" 30 0, .begin 2 "worker" 30 31, .start 2 32, .start 1 33]

theorem sampleOvertaken_dispatches_twice :
    ¬ OnceOnly (runFrom (step smallCodec) .empty sampleOvertaken) := by
  intro honce
  have hrow : ((runFrom (step smallCodec) .empty sampleOvertaken).store.action?
      sampleCommit.actionId).map ActionRow.effectClass = some .write := by
    decide
  have hcount : (runFrom (step smallCodec) .empty sampleOvertaken).dispatched.count
      sampleCommit.actionId = 2 := by
    decide
  obtain ⟨row, hfound, hwrite⟩ := Option.map_eq_some_iff.mp hrow
  have hle := honce _ row hfound hwrite
  omega

end AutocadMcp.Workflow
