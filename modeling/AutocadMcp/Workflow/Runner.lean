import AutocadMcp.Lib.Machine
import AutocadMcp.Workflow.Calls

/-!
# The outbox runner

`WorkflowRunner` of `workflows/runner.py`. A call of `run_once` is in flight from
its claim on; it lets other calls run while a preflight or a dispatch is
awaited. Every other writer of the repository, `reconcile_restart` included, is
a call from outside.
-/

namespace AutocadMcp.Workflow

/-- `getattr(error, "code", type(error).__name__)`. -/
def Failure.errorCode : Failure → String
  | .repositoryConflict code => code
  | .invalidWorkflowTransition _ => "InvalidWorkflowTransition"
  | .workflowServiceError code => code
  | .integrityError => "IntegrityError"
  | .valueError => "ValueError"
  | .portError code => code

/-- What a call of `run_once` awaits. -/
inductive Phase where
  | preflight
  | dispatching
  deriving DecidableEq, Repr

/-- A call of `run_once` that has claimed an action; `action` is the row it holds. -/
structure InFlight where
  callId : Nat
  worker : String
  action : ActionRow
  phase : Phase
  deriving DecidableEq

/-- The call once the row it got from `mark_dispatch_started` is with the port. -/
def InFlight.sent (row : ActionRow) (call : InFlight) : InFlight :=
  { call with action := row, phase := .dispatching }

@[simp] theorem InFlight.sent_callId (row : ActionRow) (call : InFlight) :
    (call.sent row).callId = call.callId := rfl

/-- The database, the calls in flight, and the actions that the port was called for. -/
structure World where
  store : Store
  calls : Table InFlight.callId
  dispatched : List ActionId

def World.empty : World := ⟨.empty, .empty, []⟩

/-- The identity of the child in the result of a dispatch. -/
def dispatchRef (action : ActionRow) (result : Json) : Json :=
  .obj (withField (childRefWith result []) "idempotency_key" (.str action.idempotencyKey))

/-- A write of the repository that the runner makes. -/
def Call.byRunner : Call → Bool
  | .claimAction .. | .markDispatchStarted .. | .completeAction .. | .failAction ..
  | .markActionOutcomeUnknown .. => true
  | _ => false

/-- A call of the repository by another component. -/
structure OutsideCall where
  call : Call
  outside : call.byRunner = false

inductive Event where
  /-- `run_once` up to the preflight. -/
  | begin (callId : Nat) (worker : String) (leaseSeconds : Nat) (now : Instant)
  /-- The preflight raises, or the port for the action is missing. -/
  | preflightFails (callId : Nat) (errorCode : String)
  /-- The preflight returns: the durable start and the call of the port. -/
  | start (callId : Nat) (now : Instant)
  /-- The process dies between the two. -/
  | startThenDies (callId : Nat) (now : Instant)
  | dispatchReturns (callId : Nat) (result : Json)
  | dispatchFails (callId : Nat) (errorCode : String)
  /-- The task is cancelled, which no handler of `run_once` sees. -/
  | abandon (callId : Nat)
  | crash
  | outside (c : OutsideCall)

section

variable (C : Codec)

/-- The handler of `run_once`. -/
def onFailure (s : Store) (call : InFlight) (errorCode : String) :
    Except Failure (ActionRow × Store) :=
  if call.action.effectClass = .write ∧ call.phase = .dispatching then
    markActionOutcomeUnknown C s call.action.actionId call.worker errorCode
  else
    finishAction C s call.action.actionId call.worker (failed errorCode)

namespace World

def drop (w : World) (callId : Nat) : World :=
  { w with calls := w.calls.deleteWhere fun call => call.callId = callId }

/-- The call ends in the handler, which may itself raise. -/
def fails (w : World) (call : InFlight) (errorCode : String) : World :=
  { w with store := committed w.store (onFailure C w.store call errorCode) }.drop call.callId

def begins (w : World) (callId : Nat) (worker : String) (leaseSeconds : Nat) (now : Instant) :
    World :=
  match claimAction C w.store worker leaseSeconds now with
  | .ok (some action, s) =>
      let call : InFlight := ⟨callId, worker, action, .preflight⟩
      match validateSafeRetry action.childState action.effectClass with
      | .ok () => { w with store := s, calls := w.calls.put call }
      | .error e => { w with store := s }.fails C call e.errorCode
  | .ok (none, s) => { w with store := s }
  | .error _ => w

def starts (w : World) (call : InFlight) (now : Instant) : World :=
  match markDispatchStarted C w.store call.action.actionId call.worker now with
  | .ok (row, s) =>
      { store := s
        calls := w.calls.modify call.callId (InFlight.sent row) (InFlight.sent_callId row)
        dispatched := w.dispatched ++ [row.actionId] }
  | .error e => w.fails C call e.errorCode

def returns (w : World) (call : InFlight) (result : Json) : World :=
  match finishAction C w.store call.action.actionId call.worker
      (completed result (dispatchRef call.action result)) with
  | .ok (_, s) => { w with store := s }.drop call.callId
  | .error e => w.fails C call e.errorCode

/-- A call in flight that awaits in a phase. -/
def call? (w : World) (callId : Nat) (phase : Phase) : Option InFlight :=
  (w.calls.get? callId).filter fun call => call.phase = phase

/-- The process ends and takes every call with it. -/
def dies (w : World) : World := { w with calls := .empty }

end World

def step (w : World) : Event → World
  | .begin callId worker leaseSeconds now =>
      if (w.calls.get? callId).isSome then w else w.begins C callId worker leaseSeconds now
  | .preflightFails callId errorCode =>
      match w.call? callId .preflight with
      | some call => w.fails C call errorCode
      | none => w
  | .start callId now =>
      match w.call? callId .preflight with
      | some call => w.starts C call now
      | none => w
  | .startThenDies callId now =>
      match w.call? callId .preflight with
      | some call =>
          let s := callStep C w.store (.markDispatchStarted call.action.actionId call.worker now)
          { w with store := s }.dies
      | none => w
  | .dispatchReturns callId result =>
      match w.call? callId .dispatching with
      | some call => w.returns C call result
      | none => w
  | .dispatchFails callId errorCode =>
      match w.call? callId .dispatching with
      | some call => w.fails C call errorCode
      | none => w
  | .abandon callId => w.drop callId
  | .crash => w.dies
  | .outside c => { w with store := callStep C w.store c.call }

end

/-! ## What a step can do -/

/-- The call that records a start. -/
def Call.starts : Call → Bool
  | .markDispatchStarted .. => true
  | _ => false

/-- What a step of the runner did to the database, the calls in flight and the dispatches. -/
inductive Stepped (C : Codec) (w w' : World) (e : Event) : Prop where
  | quiet (calls : List Call) (hstore : w'.store = runFrom (callStep C) w.store calls)
      (hstarts : w'.calls.rows = [] ∨ ∀ c ∈ calls, c.starts = false)
      (hcalls : ∀ call ∈ w'.calls.rows, call ∈ w.calls.rows)
      (hdispatched : w'.dispatched = w.dispatched)
  | begun (callId : Nat) (worker : String) (leaseSeconds : Nat) (now : Instant) (row : ActionRow)
      (hevent : e = .begin callId worker leaseSeconds now)
      (hclaim : claimAction C w.store worker leaseSeconds now = .ok (some row, w'.store))
      (hcalls : ∀ call ∈ w'.calls.rows,
        call = ⟨callId, worker, row, .preflight⟩ ∨ call ∈ w.calls.rows)
      (hdispatched : w'.dispatched = w.dispatched)
  | started (call : InFlight) (now : Instant) (row : ActionRow)
      (hevent : e = .start call.callId now)
      (hcall : w.call? call.callId .preflight = some call)
      (hmark : markDispatchStarted C w.store call.action.actionId call.worker now =
        .ok (row, w'.store))
      (hcalls : ∀ x ∈ w'.calls.rows, x = call.sent row ∨ x ∈ w.calls.rows)
      (hdispatched : w'.dispatched = w.dispatched ++ [row.actionId])

section

variable {C : Codec} {w : World} {e : Event}

theorem call?_some {callId : Nat} {phase : Phase} {call : InFlight}
    (h : w.call? callId phase = some call) :
    call ∈ w.calls.rows ∧ call.callId = callId ∧ call.phase = phase := by
  obtain ⟨hfound, hphase⟩ := Option.filter_eq_some_iff.mp h
  obtain ⟨hmem, hid⟩ := Table.get?_some hfound
  exact ⟨hmem, hid, by simpa using hphase⟩

theorem mem_drop {callId : Nat} {call : InFlight} (h : call ∈ (w.drop callId).calls.rows) :
    call ∈ w.calls.rows :=
  (Table.mem_deleteWhere.mp h).1

theorem onFailure_store (s : Store) (call : InFlight) (errorCode : String) :
    ∃ c : Call, committed s (onFailure C s call errorCode) = callStep C s c ∧
      c.starts = false := by
  unfold onFailure
  split
  · exact ⟨.markActionOutcomeUnknown call.action.actionId call.worker errorCode, rfl, rfl⟩
  · exact ⟨.failAction call.action.actionId call.worker errorCode, rfl, rfl⟩

theorem fails_stepped (call : InFlight) (errorCode : String) :
    Stepped C w (w.fails C call errorCode) e := by
  obtain ⟨c, hc, hstarts⟩ := onFailure_store (C := C) w.store call errorCode
  exact .quiet [c] hc (Or.inr (by simpa using hstarts)) (fun _ => mem_drop) rfl

theorem step_stepped : Stepped C w (step C w e) e := by
  have hsame : Stepped C w w e := .quiet [] rfl (Or.inr (by simp)) (fun _ h => h) rfl
  cases e with
  | begin callId worker leaseSeconds now =>
      simp only [step]
      split
      · exact hsame
      · unfold World.begins
        split
        · rename_i action s hclaim
          have hstore : s = callStep C w.store (.claimAction worker leaseSeconds now) := by
            simp [callStep, hclaim]
          dsimp only
          split
          · exact .begun callId worker leaseSeconds now action rfl hclaim
              (fun _ => Table.mem_put) rfl
          · rename_i failure _
            obtain ⟨c, hc, hstarts⟩ := onFailure_store (C := C) s
              ⟨callId, worker, action, .preflight⟩ failure.errorCode
            have hnone : ∀ d ∈ [.claimAction worker leaseSeconds now, c], d.starts = false := by
              intro d hd
              rcases List.mem_pair.mp hd with rfl | rfl
              · rfl
              · exact hstarts
            refine .quiet [.claimAction worker leaseSeconds now, c] ?_ (Or.inr hnone)
              (fun _ => mem_drop) rfl
            rw [runFrom_cons, ← hstore]
            exact hc
        · rename_i s hclaim
          refine .quiet [.claimAction worker leaseSeconds now] ?_ (Or.inr (by simp [Call.starts]))
            (fun _ h => h) rfl
          simp [callStep, hclaim]
        · exact hsame
  | preflightFails callId errorCode =>
      simp only [step]
      split
      · exact fails_stepped _ errorCode
      · exact hsame
  | start callId now =>
      simp only [step]
      split
      · rename_i call hcall
        obtain ⟨hmem, hid, hphase⟩ := call?_some hcall
        unfold World.starts
        split
        · rename_i row s hmark
          subst hid
          refine .started call now row rfl hcall hmark ?_ rfl
          intro x hx
          have hmodify : x ∈ (w.calls.modify call.callId (InFlight.sent row)
              (InFlight.sent_callId row)).rows := hx
          rw [Table.mem_modify] at hmodify
          obtain ⟨y, hy, rfl⟩ := hmodify
          by_cases hkey : y.callId = call.callId
          · have hy' : y = call := Table.eq_of_key hy hmem hkey
            exact Or.inl (by rw [if_pos hkey, hy'])
          · exact Or.inr (by rw [if_neg hkey]; exact hy)
        · exact fails_stepped call _
      · exact hsame
  | startThenDies callId now =>
      simp only [step]
      split
      · rename_i call hcall
        refine .quiet [.markDispatchStarted call.action.actionId call.worker now] rfl (Or.inl rfl) ?_
          rfl
        intro x hx
        cases hx
      · exact hsame
  | dispatchReturns callId result =>
      simp only [step]
      split
      · rename_i call hcall
        unfold World.returns
        split
        · rename_i row s hfinish
          refine .quiet [.completeAction call.action.actionId call.worker result
            (dispatchRef call.action result)] ?_ (Or.inr (by simp [Call.starts]))
            (fun _ => mem_drop) rfl
          simp [callStep, hfinish, World.drop]
        · exact fails_stepped call _
      · exact hsame
  | dispatchFails callId errorCode =>
      simp only [step]
      split
      · exact fails_stepped _ errorCode
      · exact hsame
  | abandon callId => exact .quiet [] rfl (Or.inr (by simp)) (fun _ => mem_drop) rfl
  | crash =>
      refine .quiet [] rfl (Or.inl rfl) ?_ rfl
      intro x hx
      cases hx
  | outside c =>
      have hstarts : c.call.starts = false := by
        have houtside := c.outside
        revert houtside
        cases c.call <;> simp [Call.byRunner, Call.starts]
      exact .quiet [c.call] rfl (Or.inr (by simpa using hstarts)) (fun _ h => h) rfl

theorem claimAction_step {s s' : Store} {worker : String} {leaseSeconds : Nat} {now : Instant}
    {r : Option ActionRow} (h : claimAction C s worker leaseSeconds now = .ok (r, s')) :
    s' = callStep C s (.claimAction worker leaseSeconds now) := by
  simp [callStep, h]

theorem markDispatchStarted_step {s s' : Store} {actionId : ActionId} {worker : String}
    {now : Instant} {r : ActionRow} (h : markDispatchStarted C s actionId worker now = .ok (r, s')) :
    s' = callStep C s (.markDispatchStarted actionId worker now) := by
  simp [callStep, h]

/-- What every repository call preserves, every step preserves. -/
theorem Stepped.store {w' : World} (h : Stepped C w w' e) (Inv : Store → Prop)
    (hcall : ∀ s c, Inv s → Inv (callStep C s c)) (hw : Inv w.store) : Inv w'.store := by
  cases h with
  | quiet calls hstore _ _ _ =>
      rw [hstore]
      exact runFrom_invariant Inv hcall hw calls
  | begun callId worker leaseSeconds now row _ hclaim _ _ =>
      rw [claimAction_step hclaim]
      exact hcall _ _ hw
  | started call now row _ _ hmark _ _ =>
      rw [markDispatchStarted_step hmark]
      exact hcall _ _ hw

end

end AutocadMcp.Workflow
