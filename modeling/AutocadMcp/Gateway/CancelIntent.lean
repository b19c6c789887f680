import AutocadMcp.Gateway.StaleRows
import AutocadMcp.Gateway.StartedWrites

/-!
# Cancellation intent

A job whose cancellation was asked for keeps the time of the request and is not up for dispatch any
more, whatever happens to it. Only an answer to a reconcile request could put it back in the queue;
it looks at the request first, and names the version of the row that it looked at.
-/

namespace AutocadMcp.Gateway

/-- A job whose cancellation was asked for is not up for dispatch. -/
def Withdrawn (row : JobRow) : Prop :=
  row.cancelRequestedAt.isSome = true → row.state ≠ .queued ∧ row.state ≠ .dispatched

/-- The later row is withdrawn if the earlier one is, and has its request. -/
structure KeepsRequest (row row' : JobRow) : Prop where
  withdrawn : Withdrawn row → Withdrawn row'
  request : Withdrawn row → ∀ t, row.cancelRequestedAt = some t → row'.cancelRequestedAt = some t

namespace KeepsRequest

theorem refl (row : JobRow) : KeepsRequest row row := ⟨fun h => h, fun _ _ h => h⟩

theorem trans {x y z : JobRow} (h : KeepsRequest x y) (h' : KeepsRequest y z) : KeepsRequest x z where
  withdrawn hx := h'.withdrawn (h.withdrawn hx)
  request hx t ht := h'.request (h.withdrawn hx) t (h.request hx t ht)

/-- A row with the same state and the same request. -/
theorem of_same {row row' : JobRow} (hstate : row'.state = row.state)
    (hrequest : row'.cancelRequestedAt = row.cancelRequestedAt) : KeepsRequest row row' := by
  refine ⟨fun h => ?_, fun _ _ ht => hrequest.trans ht⟩
  unfold Withdrawn
  rw [hstate, hrequest]
  exact h

/-- A row with the same request in a state that is not up for dispatch. -/
theorem of_target {row row' : JobRow} (hqueued : row'.state ≠ .queued)
    (hdispatched : row'.state ≠ .dispatched)
    (hrequest : row'.cancelRequestedAt = row.cancelRequestedAt) : KeepsRequest row row' :=
  ⟨fun _ _ => ⟨hqueued, hdispatched⟩, fun _ _ ht => hrequest.trans ht⟩

end KeepsRequest

/-! ## Transitions -/

/-- No reason makes a job dispatched, and one puts it in the queue: where nobody asked for its
cancellation, and for the version that was read. -/
theorem allows_target {now : Instant} {job : JobRow} {a : Transition} {reason : Reason}
    (h : reason.Allows now job a) :
    a.target ≠ .dispatched ∧
      (a.target = .queued → job.cancelRequestedAt = none ∧
        a.expectedVersion = some job.stateVersion) := by
  have hother : ∀ s : JobState, a.target = s → s ≠ .dispatched → s ≠ .queued →
      a.target ≠ .dispatched ∧ (a.target = .queued → job.cancelRequestedAt = none ∧
        a.expectedVersion = some job.stateVersion) := by
    intro s hs hdispatched hqueued
    exact ⟨hs ▸ hdispatched, fun h => absurd (hs.symm.trans h) hqueued⟩
  have hsettled : a.target = settledTarget job →
      a.target ≠ .dispatched ∧ (a.target = .queued → job.cancelRequestedAt = none ∧
        a.expectedVersion = some job.stateVersion) := by
    intro h
    unfold settledTarget at h
    split at h
    · exact hother _ h nofun nofun
    · exact hother _ h nofun nofun
  cases reason with
  | refused => exact hother _ h.2.1 nofun nofun
  | offline => exact hother _ h.2 nofun nofun
  | lost =>
      have htarget := h.2
      unfold lostTarget at htarget
      split at htarget
      · exact hother _ htarget nofun nofun
      · exact hother _ htarget nofun nofun
  | expired => exact hsettled h.2.2
  | mismatched => exact hsettled h
  | frozen =>
      rcases h with ⟨-, h⟩ | ⟨-, h⟩
      · exact hother _ h nofun nofun
      · exact hother _ h nofun nofun
  | accepted => exact hother _ h.2 nofun nofun
  | rejected => exact hother _ h.2 nofun nofun
  | progressed => exact hother _ h.2 nofun nofun
  | reportedUnknown => exact hother _ h nofun nofun
  | unproven =>
      rcases h with ⟨-, h⟩ | ⟨h, -⟩
      · exact hother _ h nofun nofun
      · exact hother _ h nofun nofun
  | reconciled =>
      obtain ⟨hversion, h⟩ := h
      rcases h with ⟨-, h⟩ | ⟨-, -, h⟩ | ⟨-, hnone, h⟩ | ⟨-, h⟩
      · exact hother _ h nofun nofun
      · exact hother _ h nofun nofun
      · -- the request was looked for
        exact ⟨h ▸ nofun, fun _ => ⟨hnone, hversion⟩⟩
      · split at h
        · exact hother _ h nofun nofun
        · exact hother _ h nofun nofun
  | recancelled => exact hother _ h nofun nofun
  | claimed => cases h
  | cancelled => cases h
  | restarted => cases h

/-- A transition that was decided on an earlier row keeps the request of the present one, if the
version tells a request in between. -/
theorem transition_keepsRequest {now : Instant} {job row : JobRow} {a : Transition} {reason : Reason}
    (h : reason.Allows now job a) (hversion : ∀ v ∈ a.expectedVersion, row.stateVersion = v)
    (hsame : row.stateVersion = job.stateVersion → row.cancelRequestedAt = job.cancelRequestedAt) :
    KeepsRequest row (a.set row) := by
  obtain ⟨hdispatched, hqueued⟩ := allows_target h
  by_cases hcancel : a.target = .cancelRequested
  · refine ⟨fun _ _ => ?_, fun _ t ht => ?_⟩
    · change a.target ≠ .queued ∧ a.target ≠ .dispatched
      rw [hcancel]
      exact ⟨nofun, nofun⟩
    · change (if a.target = .cancelRequested then row.cancelRequestedAt <|> some a.now
        else row.cancelRequestedAt) = some t
      rw [if_pos hcancel, ht]
      rfl
  · have hrequest : (a.set row).cancelRequestedAt = row.cancelRequestedAt := if_neg hcancel
    refine ⟨fun _ hsome => ⟨fun hstate => ?_, hdispatched⟩, fun _ t ht => hrequest.trans ht⟩
    -- the job was in the queue for the version that was read, which had no request
    obtain ⟨hnone, hexpected⟩ := hqueued hstate
    rw [hrequest, hsame (hversion _ hexpected), hnone] at hsome
    cases hsome

/-! ## Targets -/

theorem cancelTarget_withdrawn {s target : JobState} (h : cancelTarget s = some target) :
    target ≠ .queued ∧ target ≠ .dispatched := by
  cases s <;> cases h <;> exact ⟨nofun, nofun⟩

theorem targetOf_withdrawn (status : ResultStatus) :
    targetOf status ≠ .queued ∧ targetOf status ≠ .dispatched := by
  cases status <;> exact ⟨nofun, nofun⟩

theorem storedOf_withdrawn {cfg : Config} {job : JobRow} {o : Outcome}
    (h : o.target ≠ .queued ∧ o.target ≠ .dispatched) :
    (storedOf cfg job o).target ≠ .queued ∧ (storedOf cfg job o).target ≠ .dispatched := by
  unfold storedOf
  split
  · split
    · unfold storeObservation
      split
      · split
        · exact ⟨nofun, nofun⟩
        · split <;> exact ⟨nofun, nofun⟩
      · exact ⟨nofun, nofun⟩
    · exact ⟨nofun, nofun⟩
  · exact ⟨nofun, nofun⟩
  · exact ⟨nofun, nofun⟩
  · exact h

/-- What is reported for a Program job takes it to no state that is up for dispatch. -/
theorem reported_withdrawn {m : AgentMessage} {job : JobRow} {o : Outcome}
    (hkind : job.kind.isProgram = true) (h : Reported m job o) :
    o.target ≠ .queued ∧ o.target ≠ .dispatched := by
  cases h with
  | untyped hpayload r hm ho =>
      rw [ho]
      exact targetOf_withdrawn _
  | program hpayload typed hclaim hresult hbinding normalized hnormal ho hstatus =>
      rw [ho]
      exact targetOf_withdrawn _
  | rollback hpayload typed hclaim hbinding ho hstatus =>
      rw [ho]
      exact targetOf_withdrawn _
  | reconciled hpayload r hm hother =>
      rw [hother.1] at hkind
      cases hkind

theorem terminal_withdrawn {s : JobState} (h : isTerminal s = true) :
    s ≠ .queued ∧ s ≠ .dispatched := by
  constructor <;> rintro rfl <;> cases h

/-! ## Calls -/

section

variable {cfg : Config} {db : Db} {g g' : GatewayState} {times : List GatewayState}
  {row row' : JobRow} {j : JobId} {t : Instant} {commands : List CommandMessage}

theorem issued_keepsRequest {env : Env} {c : Call} (hg : Overlapped cfg db times g)
    (h : Issued cfg env (SeenAt (g :: times)) (fun _ _ => True)
      (fun job o => ∃ m, Reported m job o) g (.call c))
    (hrow : g.db.job? row.jobId = some row) (hmove : CallMove row c row') :
    KeepsRequest row row' := by
  cases h with
  | move reason hreason hread hallows =>
      cases hmove with
      | kept => exact .refl row
      | moved hid _ hversion =>
          exact transition_keepsRequest hallows hversion (seenAt_request hg hread hrow hid)
  | claim hreason hread hqueued =>
      cases hmove with
      | kept => exact .refl row
      | claimed hid hqueued =>
          -- a withdrawn job is not in the queue
          exact ⟨fun h hsome => absurd hqueued (h hsome).1, fun _ t ht => ht⟩
  | cancel hreason hread =>
      cases hmove with
      | kept => exact .refl row
      | cancelled hid hnone _ htarget =>
          refine ⟨fun _ _ => cancelTarget_withdrawn htarget, fun _ t ht => ?_⟩
          rw [hnone] at ht
          cases ht
  | progress hreason =>
      cases hmove with
      | kept => exact .refl row
      | progressed _ => exact .of_same rfl rfl
  | sessions hreason =>
      cases hmove
      exact .refl row
  | release hinactive =>
      cases hmove
      exact .refl row
  | releaseSettled hreason hsettled =>
      cases hmove
      exact .refl row
  | finalizeProgram hread hkind hrep hhook =>
      cases hmove with
      | kept => exact .refl row
      | finalizedProgram hid _ _ =>
          obtain ⟨m, hreported⟩ := hrep
          obtain ⟨hqueued, hdispatched⟩ := storedOf_withdrawn (reported_withdrawn hkind hreported)
          exact .of_target hqueued hdispatched rfl
  | finalizeRollback hread hkind hrep hhook =>
      cases hmove with
      | kept => exact .refl row
      | finalizedJob hid hterminal _ =>
          obtain ⟨hqueued, hdispatched⟩ := terminal_withdrawn hterminal
          exact .of_target hqueued hdispatched rfl
  | finalizeOther hread hkind hrep =>
      cases hmove with
      | kept => exact .refl row
      | finalizedJob hid hterminal _ =>
          obtain ⟨hqueued, hdispatched⟩ := terminal_withdrawn hterminal
          exact .of_target hqueued hdispatched rfl

/-- **No call forgets a cancellation.** -/
theorem call_keepsRequest {c : Call} (hg : Overlapped cfg db times g)
    (hk : Overlaps cfg (g :: times) g (.call c)) (hrow : g.db.job? row.jobId = some row)
    (hmove : CallMove row c row') : KeepsRequest row row' := by
  cases hk with
  | handled hissued => exact issued_keepsRequest hg hissued hrow hmove
  | @create e _ hcreation =>
      cases hmove with
      | kept => exact .refl row
      | fingerprinted a fingerprint => exact .of_same rfl rfl
      | _ => cases e <;> cases hcreation
  | activate deviceId sessionId =>
      cases hmove
      exact .refl row
  | close deviceId sessionId =>
      cases hmove
      exact .refl row

/-! ## Runs -/

/-- Wherever handlers overlap, a job whose cancellation was asked for is withdrawn. -/
theorem overlapped_withdrawn (h : Overlapped cfg db times g) (hrow : g.db.job? j = some row) :
    Withdrawn row := by
  induction h generalizing row with
  | start => cases hrow
  | @act times g k hg hk ih =>
      cases k with
      | send message => exact ih hrow
      | register registry => exact ih hrow
      | enrol device => exact ih hrow
      | call c =>
          rcases hj : g.db.job? j with _ | first
          · have hnew : IsNew row := call_fresh hj c row hrow
            intro hsome
            rw [hnew.uncancelled] at hsome
            cases hsome
          · obtain ⟨next, hnext, hmove⟩ := call_row (C := cfg.codec) hj c
            have hsame : some next = some row := hnext.symm.trans hrow
            cases hsame
            have hid : first.jobId = j := (job?_some hj).2
            have hkeeps : KeepsRequest first row :=
              call_keepsRequest hg hk (by rw [hid]; exact hj) hmove
            exact hkeeps.withdrawn (ih hj)

/-- The commands that were handed to the sockets for a job. -/
def commandsFor (j : JobId) (sent : List GatewayMessage) : List CommandMessage :=
  sent.filterMap fun message =>
    match message with
    | .command c => if c.jobId = j then some c else none
    | _ => none

theorem commandsFor_append {j : JobId} {message : GatewayMessage} (sent : List GatewayMessage)
    (h : ∀ c, message = .command c → c.jobId ≠ j) :
    commandsFor j (sent ++ [message]) = commandsFor j sent := by
  unfold commandsFor
  rw [List.filterMap_append]
  cases message with
  | command c => simp [h c rfl]
  | cancel c => simp
  | reconcile c => simp

/-- The job has this request and is withdrawn, and these commands were sent for it. -/
def Kept (j : JobId) (t : Instant) (commands : List CommandMessage) (g : GatewayState) : Prop :=
  ∃ row, g.db.job? j = some row ∧ row.cancelRequestedAt = some t ∧ Withdrawn row ∧
    commandsFor j g.sent = commands

theorem overlaps_kept {k : Action} (hg : Overlapped cfg db times g)
    (hk : Overlaps cfg (g :: times) g k) (h : Kept j t commands g) :
    Kept j t commands (k.run cfg.codec g) := by
  obtain ⟨row, hrow, hasked, hwithdrawn, hsent⟩ := h
  cases k with
  | register registry => exact ⟨row, hrow, hasked, hwithdrawn, hsent⟩
  | enrol device => exact ⟨row, hrow, hasked, hwithdrawn, hsent⟩
  | call c =>
      obtain ⟨next, hnext, hmove⟩ := call_row (C := cfg.codec) hrow c
      have hid : row.jobId = j := (job?_some hrow).2
      have hkeeps : KeepsRequest row next :=
        call_keepsRequest hg hk (by rw [hid]; exact hrow) hmove
      exact ⟨next, hnext, hkeeps.request hwithdrawn t hasked, hkeeps.withdrawn hwithdrawn, hsent⟩
  | send message =>
      refine ⟨row, hrow, hasked, hwithdrawn, (commandsFor_append _ ?_).trans hsent⟩
      rintro c rfl
      cases hk with
      | handled hissued =>
          cases hissued with
          | send hmessage => cases hmessage
      | command hprepared =>
          obtain ⟨sent, binding, hfound, hstate, rfl, -, -⟩ := hprepared
          intro hid
          have hsame : sent.jobId = j := hid
          have hself : g.db.job? sent.jobId = some sent := job?_self hfound
          rw [hsame, hrow] at hself
          cases hself
          exact (hwithdrawn (by rw [hasked]; rfl)).2 hstate

theorem overlapped_kept {later : List GatewayState}
    (h : Overlapped cfg db (later ++ g :: times) g') (hkept : Kept j t commands g) :
    Kept j t commands g' := by
  induction later generalizing g' with
  | nil =>
      cases h with
      | act hg hk => exact overlaps_kept hg hk hkept
  | cons last later ih =>
      cases h with
      | act hlast hk => exact overlaps_kept hlast hk (ih hlast)

/-- A claim does not find a job that is not in the queue. -/
theorem claimJob_withdrawn {C : Codec} (hrow : g.db.job? j = some row)
    (hqueued : row.state ≠ .queued) : claimJob C g.db j = .ok (none, g.db) := by
  unfold claimJob
  rw [hrow]
  exact if_neg hqueued

end

/-- What holds of a job at the second time if its cancellation was asked for at the first: the
request is still there, the job is neither queued nor dispatched, a claim of it finds nothing, and
no further command has been sent for it. -/
structure Cancelled (C : Codec) (j : JobId) (t : Instant) (g g' : GatewayState) : Prop where
  request : ∃ row, g'.db.job? j = some row ∧ row.cancelRequestedAt = some t ∧
    row.state ≠ .queued ∧ row.state ≠ .dispatched
  claim : claimJob C g'.db j = .ok (none, g'.db)
  commands : commandsFor j g'.sent = commandsFor j g.sent

theorem Kept.cancelled {C : Codec} {j : JobId} {t : Instant} {g g' : GatewayState}
    (h : Kept j t (commandsFor j g.sent) g') : Cancelled C j t g g' := by
  obtain ⟨row, hrow, hasked, hwithdrawn, hsent⟩ := h
  obtain ⟨hqueued, hdispatched⟩ := hwithdrawn (by rw [hasked]; rfl)
  exact ⟨⟨row, hrow, hasked, hqueued, hdispatched⟩, claimJob_withdrawn hrow hqueued, hsent⟩

/-- **A cancellation is never lost**: whatever events come after it, and where handlers overlap,
whatever they do with the rows they read before or after it. -/
theorem cancellation_kept (cfg : Config) (db : Db) (j : JobId) (t : Instant) :
    (∀ (before after : List Event) (row : JobRow),
      (runEvents cfg db before).gateway.db.job? j = some row → row.cancelRequestedAt = some t →
        Cancelled cfg.codec j t (runEvents cfg db before).gateway
          (runEvents cfg db (before ++ after)).gateway) ∧
    ∀ (later times : List GatewayState) (g g' : GatewayState) (row : JobRow),
      Overlapped cfg db (later ++ g :: times) g' → g.db.job? j = some row →
        row.cancelRequestedAt = some t → Cancelled cfg.codec j t g g' := by
  constructor
  · intro before after row hrow hasked
    obtain ⟨times, hbefore⟩ := runEvents_overlapped cfg db before
    have hkept : Kept j t (commandsFor j (runEvents cfg db before).gateway.sent)
        (runEvents cfg db before).gateway :=
      ⟨row, hrow, hasked, overlapped_withdrawn hbefore hrow, rfl⟩
    obtain ⟨_, -, hafter⟩ := events_overlap (fun _ => Kept j t _) (fun _ _ _ => overlaps_kept)
      ⟨times, hbefore, hkept⟩ after
    apply Kept.cancelled
    unfold runEvents
    rw [runFrom_append]
    exact hafter
  · intro later times g g' row hlater hrow hasked
    have hkept : Kept j t (commandsFor j g.sent) g :=
      ⟨row, hrow, hasked, overlapped_withdrawn hlater.earlier hrow, rfl⟩
    exact (overlapped_kept hlater hkept).cancelled

/-- The session of the sample commit is lost with its command. -/
def sampleLost : List Event := sampleDispatch ++ [.close { now := 400 } 1]

/-- The owner of the job asks for its cancellation. -/
def sampleCancelled : List Event := sampleLost ++ [.cancel { now := 450 } 7 10 "no longer needed"]

/-- The Agent comes back and has not started the command. -/
def sampleNotStarted : List Event :=
  sampleSession 2 ++ [.proceed { now := 500 } 2, .message { now := 600 } 2 (.reconcileResult {
    sessionId := 2, deviceId := 1, jobId := 10, commandId := 20, sequence := 1, payloadHash := 0,
    status := .notStarted, resultStatus := none, result := none, errorCode := none, kind := none,
    binding := none })]

/-- A handler that read the job before the cancellation puts it back in the queue. -/
def sampleRequeue (job : JobRow) : Action :=
  .call (.transitionJob job.jobId
    { now := 600, target := .queued, evidence := true, expectedVersion := some job.stateVersion })

theorem sampleLost_there :
    ((runEvents sampleConfig sampleDb sampleLost).gateway.db.job? 10).isSome = true := by
  decide +kernel

theorem sampleCancelled_there :
    ((runEvents sampleConfig sampleDb sampleCancelled).gateway.db.job? 10).isSome = true := by
  decide +kernel

/-- The job that the handler read. -/
def sampleLostRow : JobRow :=
  ((runEvents sampleConfig sampleDb sampleLost).gateway.db.job? 10).get sampleLost_there

theorem sampleRequeue_overlapped :
    ∃ times, Overlapped sampleConfig sampleDb
      ([] ++ (runEvents sampleConfig sampleDb sampleCancelled).gateway :: times)
      ((sampleRequeue sampleLostRow).run constantCodec
        (runEvents sampleConfig sampleDb sampleCancelled).gateway) := by
  obtain ⟨times, hlost⟩ := runEvents_overlapped sampleConfig sampleDb sampleLost
  obtain ⟨times', hcancelled, hread⟩ := events_overlap
    (fun times g => (runEvents sampleConfig sampleDb sampleLost).gateway ∈ g :: times)
    (fun _ _ _ _ _ h => List.mem_cons_of_mem _ h) ⟨times, hlost, List.mem_cons_self⟩
    [.cancel { now := 450 } 7 10 "no longer needed"]
  have hseen : SeenAt ((runEvents sampleConfig sampleDb sampleCancelled).gateway :: times')
      (runEvents sampleConfig sampleDb sampleCancelled).gateway sampleLostRow :=
    ⟨_, hread, job?_self (Option.some_get sampleLost_there).symm⟩
  have hallows : Reason.reconciled.Allows 600 sampleLostRow
      { now := 600, target := .queued, evidence := true,
        expectedVersion := some sampleLostRow.stateVersion } :=
    ⟨rfl, Or.inr (Or.inr (Or.inl ⟨by decide +kernel, by decide +kernel, rfl⟩))⟩
  have hissued : Issued sampleConfig { now := 600 }
      (SeenAt ((runEvents sampleConfig sampleDb sampleCancelled).gateway :: times'))
      (fun _ _ => True) (fun job o => ∃ m, Reported m job o)
      (runEvents sampleConfig sampleDb sampleCancelled).gateway (sampleRequeue sampleLostRow) :=
    .move .reconciled trivial hseen hallows
  exact ⟨times', hcancelled.act (.handled hissued)⟩

theorem cancellation_kept_sample :
    Cancelled constantCodec 10 450 (runEvents sampleConfig sampleDb sampleCancelled).gateway
        (runEvents sampleConfig sampleDb (sampleCancelled ++ sampleNotStarted)).gateway ∧
      Cancelled constantCodec 10 450 (runEvents sampleConfig sampleDb sampleCancelled).gateway
        ((sampleRequeue sampleLostRow).run constantCodec
          (runEvents sampleConfig sampleDb sampleCancelled).gateway) := by
  have hrow := (Option.some_get sampleCancelled_there).symm
  obtain ⟨times, hrequeue⟩ := sampleRequeue_overlapped
  obtain ⟨hevents, hoverlapped⟩ := cancellation_kept sampleConfig sampleDb 10 450
  exact ⟨hevents sampleCancelled sampleNotStarted _ hrow (by decide +kernel),
    hoverlapped [] times _ _ _ hrequeue hrow (by decide +kernel)⟩

end AutocadMcp.Gateway
