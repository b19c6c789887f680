import AutocadMcp.Gateway.RowOrigins

/-!
# Handlers that overlap

A handler reads a row, decides, and writes, and another handler may write in between. Here a call
may be decided on a row of any earlier time. The version of a row tells whether it is out of date.
-/

namespace AutocadMcp.Gateway

/-- A row that the database had at one of these times. -/
def SeenAt (times : List GatewayState) (_ : GatewayState) (row : JobRow) : Prop :=
  ∃ g ∈ times, Held g row

/-- What handlers may do that read their rows at these times. -/
inductive Overlaps (cfg : Config) (times : List GatewayState) (g : GatewayState) : Action → Prop
  | handled {env : Env} {k : Action}
      (h : Issued cfg env (SeenAt times) (fun _ _ => True) (fun job o => ∃ m, Reported m job o) g k) :
      Overlaps cfg times g k
  | create {e : Event} {c : Call} (h : e.creation? = some c) : Overlaps cfg times g (.call c)
  | command {env : Env} {jobId : JobId} {connection : Connection} {command : CommandMessage}
      (hprepared : Prepared env jobId g connection command) :
      Overlaps cfg times g (.send (.command command))
  | activate (deviceId : DeviceId) (sessionId : SessionId) :
      Overlaps cfg times g (.call (.activateSession deviceId sessionId))
  | close (deviceId : DeviceId) (sessionId : SessionId) :
      Overlaps cfg times g (.call (.closeSession deviceId sessionId))
  | register (registry : List Connection) : Overlaps cfg times g (.register registry)
  | enrol (device : DeviceRow) : Overlaps cfg times g (.enrol device)

/-- The Gateway after any actions of handlers that overlap, and the states it was in before, the
latest first. -/
inductive Overlapped (cfg : Config) (db : Db) : List GatewayState → GatewayState → Prop
  | start : Overlapped cfg db [] (World.initial db).gateway
  | act {times : List GatewayState} {g : GatewayState} {k : Action} (h : Overlapped cfg db times g)
      (hk : Overlaps cfg (g :: times) g k) : Overlapped cfg db (g :: times) (k.run cfg.codec g)

section

variable {cfg : Config} {db : Db} {w : World} {e : Event} {g : GatewayState}
  {times : List GatewayState}

theorem Overlapped.earlier {later : List GatewayState} {g' : GatewayState}
    (h : Overlapped cfg db (later ++ g :: times) g') : Overlapped cfg db times g := by
  induction later generalizing g' with
  | nil =>
      cases h with
      | act hg hk => exact hg
  | cons last later ih =>
      cases h with
      | act hlast hk => exact ih hlast

/-! ## The events overlap as well -/

/-- Rows that may be read in more ways allow more. -/
theorem Issued.reread {env : Env} {Read Read' : GatewayState → JobRow → Prop}
    {K : JobId → Reason → Prop} {Rep : JobRow → Outcome → Prop} {k : Action}
    (h : Issued cfg env Read K Rep g k) (hread : ∀ job, Read g job → Read' g job) :
    Issued cfg env Read' K Rep g k := by
  cases h with
  | move reason hreason hheld hallows => exact .move reason hreason (hread _ hheld) hallows
  | claim hreason hheld hqueued => exact .claim hreason (hread _ hheld) hqueued
  | cancel hreason hheld => exact .cancel hreason (hread _ hheld)
  | progress hreason => exact .progress hreason
  | sessions hreason => exact .sessions hreason
  | release hinactive => exact .release hinactive
  | releaseSettled hreason hsettled => exact .releaseSettled hreason hsettled
  | finalizeProgram hheld hkind hrep hhook => exact .finalizeProgram (hread _ hheld) hkind hrep hhook
  | finalizeRollback hheld hkind hrep hhook =>
      exact .finalizeRollback (hread _ hheld) hkind hrep hhook
  | finalizeOther hheld hkind hrep => exact .finalizeOther (hread _ hheld) hkind hrep
  | send hmessage => exact .send hmessage

/-- An action of a step reads its rows at the present time. -/
theorem overlaps_of_allowed {k : Action} (h : Allowed cfg w e g k) :
    Overlaps cfg (g :: times) g k := by
  cases h with
  | handled henv hissued =>
      apply Overlaps.handled
      apply (hissued.weaken (fun _ _ _ => trivial) ?_).reread
      · intro job hheld
        exact ⟨g, List.mem_cons_self, hheld⟩
      · rintro job o ⟨m, -, hreported⟩
        exact ⟨m, hreported⟩
  | create hcreation => exact .create hcreation
  | command henv hprepared => exact .command hprepared
  | activate deviceId sessionId => exact .activate deviceId sessionId
  | close deviceId sessionId => exact .close deviceId sessionId
  | register registry => exact .register registry
  | enrol device => exact .enrol device

/-- What overlapping handlers keep, of a state and the ones before it, the events keep. -/
theorem events_overlap (P : List GatewayState → GatewayState → Prop)
    (hP : ∀ times g k, Overlapped cfg db times g → Overlaps cfg (g :: times) g k → P times g →
      P (g :: times) (k.run cfg.codec g))
    (hw : ∃ times, Overlapped cfg db times w.gateway ∧ P times w.gateway) (events : List Event) :
    ∃ times, Overlapped cfg db times (runFrom (World.step cfg) w events).gateway ∧
      P times (runFrom (World.step cfg) w events).gateway := by
  refine runFrom_invariant
    (fun w : World => ∃ times, Overlapped cfg db times w.gateway ∧ P times w.gateway) ?_ hw events
  intro w e hbefore
  refine (step_reaches cfg w e).invariant (fun g => ∃ times, Overlapped cfg db times g ∧ P times g)
    ?_ hbefore
  rintro g k ⟨times, hg, hp⟩ hallowed
  have hoverlaps : Overlaps cfg (g :: times) g k := overlaps_of_allowed hallowed
  exact ⟨g :: times, hg.act hoverlaps, hP times g k hg hoverlaps hp⟩

/-- **Every run of events is one of overlapping handlers.** -/
theorem runEvents_overlapped (cfg : Config) (db : Db) (events : List Event) :
    ∃ times, Overlapped cfg db times (runEvents cfg db events).gateway := by
  obtain ⟨times, h, -⟩ := events_overlap (fun _ _ => True) (fun _ _ _ _ _ _ => trivial)
    ⟨[], .start, trivial⟩ events
  exact ⟨times, h⟩

/-! ## Versions -/

/-- A later row of the same job: its version is no smaller, and tells whether a cancellation was
asked for in between. -/
structure Follows (old row : JobRow) : Prop where
  version : old.stateVersion ≤ row.stateVersion
  request : old.stateVersion = row.stateVersion → row.cancelRequestedAt = old.cancelRequestedAt

theorem Follows.refl (row : JobRow) : Follows row row := ⟨le_rfl, fun _ => rfl⟩

theorem Follows.trans {x y z : JobRow} (h : Follows x y) (h' : Follows y z) : Follows x z := by
  have hxy := h.version
  have hyz := h'.version
  refine ⟨hxy.trans hyz, fun heq => ?_⟩
  exact (h'.request (by omega)).trans (h.request (by omega))

theorem Follows.of_bump {old row : JobRow} (h : row.stateVersion = old.stateVersion + 1) :
    Follows old row := ⟨by omega, fun heq => by omega⟩

/-- Every call that touches the request counts the version up. -/
theorem CallMove.follows {row row' : JobRow} {c : Call} (h : CallMove row c row') :
    Follows row row' := by
  cases h with
  | kept => exact .refl row
  | fingerprinted a fingerprint => exact ⟨le_rfl, fun _ => rfl⟩
  | claimed hid hqueued => exact .of_bump rfl
  | moved hid hvalid hversion => exact .of_bump rfl
  | cancelled hid hnone hversion htarget => exact .of_bump rfl
  | progressed hid => exact ⟨le_rfl, fun _ => rfl⟩
  | finalizedJob hid hterminal hvalid => exact .of_bump rfl
  | finalizedProgram hid hvalid hresult => exact .of_bump rfl

/-- A row that was there at an earlier time has a row that follows it. -/
theorem overlapped_follows (h : Overlapped cfg db times g) :
    ∀ past ∈ g :: times, ∀ j old, past.db.job? j = some old →
      ∃ row, g.db.job? j = some row ∧ Follows old row := by
  induction h with
  | start =>
      intro past hpast j old hold
      obtain rfl := List.mem_singleton.mp hpast
      exact ⟨old, hold, .refl old⟩
  | @act times g k hg hk ih =>
      intro past hpast j old hold
      rcases List.mem_cons.mp hpast with rfl | hpast
      · exact ⟨old, hold, .refl old⟩
      · obtain ⟨row, hrow, hfollows⟩ := ih past hpast j old hold
        cases k with
        | send message => exact ⟨row, hrow, hfollows⟩
        | register registry => exact ⟨row, hrow, hfollows⟩
        | enrol device => exact ⟨row, hrow, hfollows⟩
        | call c =>
            obtain ⟨row', hrow', hmove⟩ := call_row (C := cfg.codec) hrow c
            exact ⟨row', hrow', hfollows.trans hmove.follows⟩

/-- A row that a handler read and that has the present version has the present request. -/
theorem seenAt_request {job row : JobRow} (h : Overlapped cfg db times g)
    (hseen : SeenAt (g :: times) g job) (hrow : g.db.job? row.jobId = some row)
    (hid : job.jobId = row.jobId) (hversion : row.stateVersion = job.stateVersion) :
    row.cancelRequestedAt = job.cancelRequestedAt := by
  obtain ⟨past, hpast, hheld⟩ := hseen
  obtain ⟨current, hcurrent, hfollows⟩ := overlapped_follows h past hpast job.jobId job hheld
  rw [hid, hrow] at hcurrent
  cases hcurrent
  exact hfollows.request hversion.symm

end

end AutocadMcp.Gateway
