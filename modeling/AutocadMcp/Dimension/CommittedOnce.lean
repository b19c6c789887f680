import AutocadMcp.Dimension.PlanLaw

/-!
# Runs of the plan store

Only the running commit has a plan that is `committing`, and that plan is in the store as its
executor got it. Ids of plans are drawn once, so what is stored under an id later comes from what
was stored there before.
-/

namespace AutocadMcp.DimensionPlans

/-- The id of a plan that has been made. -/
def Drawn (T : PlanRuntime) (s : PlanStore) (planId : String) : Prop :=
  ∃ k < s.drawn, planId = "dplan_" ++ T.uuid k

structure Sound (T : PlanRuntime) (s : PlanStore) : Prop where
  drawn : ∀ id plan, s.plans.get? id = some plan → Drawn T s id
  numbered : ∀ id plan, s.plans.get? id = some plan → plan.Numbered
  running : ∀ c, s.running = some c → c.status = .committing ∧ s.plans.get? c.planId = some c
  committing : ∀ id plan, s.plans.get? id = some plan → plan.status = .committing →
    s.running = some plan

section

variable {T : PlanRuntime} {L : PlanLimits} {s s' : PlanStore}

theorem Drawn.ne_next {id : String} (h : Drawn T s id) : id ≠ "dplan_" ++ T.uuid s.drawn := by
  obtain ⟨k, hk, rfl⟩ := h
  intro heq
  have hlists := congrArg String.toList heq
  rw [String.toList_append, String.toList_append, List.append_cancel_left_eq] at hlists
  have huuid := T.uuid_injective (String.toList_inj.mp hlists)
  omega

theorem get?_put (plan : DimensionPlan) (id : String) :
    (s.put plan).plans.get? id = if plan.planId = id then some plan else s.plans.get? id :=
  Table.get?_put id

theorem get?_erase (planId id : String) :
    (s.erase planId).plans.get? id = if id = planId then none else s.plans.get? id :=
  Table.get?_deleteWhere_key planId id

theorem sound_init : Sound T .init where
  drawn _ _ h := nomatch h
  numbered _ _ h := nomatch h
  running _ h := nomatch h
  committing _ _ h := nomatch h

/-- A plan that is not committing may be dropped. -/
theorem Sound.erase (h : Sound T s) {id : String} {plan : DimensionPlan}
    (hplan : s.plans.get? id = some plan) (hstatus : plan.status ≠ .committing) :
    Sound T (s.erase id) := by
  have hsub : ∀ {id' plan'}, (s.erase id).plans.get? id' = some plan' →
      s.plans.get? id' = some plan' := by
    intro id' plan' hget
    rw [get?_erase] at hget
    by_cases hid : id' = id
    · rw [if_pos hid] at hget
      cases hget
    · rwa [if_neg hid] at hget
  refine ⟨fun id' p hp => h.drawn id' p (hsub hp), fun id' p hp => h.numbered id' p (hsub hp), ?_,
    fun id' p hp => h.committing id' p (hsub hp)⟩
  intro c hc
  obtain ⟨hcommitting, hget⟩ := h.running c hc
  refine ⟨hcommitting, ?_⟩
  have hne : c.planId ≠ id := by
    intro heq
    rw [heq, hplan, Option.some_inj] at hget
    subst hget
    exact hstatus hcommitting
  rw [get?_erase, if_neg hne]
  exact hget

/-- A plan that is not committing may be put where no committing plan is. -/
theorem Sound.put (h : Sound T s) {plan : DimensionPlan} (hdrawn : Drawn T s plan.planId)
    (hnumbered : plan.Numbered) (hstatus : plan.status ≠ .committing)
    (hbefore : ∀ old, s.plans.get? plan.planId = some old → old.status ≠ .committing) :
    Sound T (s.put plan) := by
  constructor
  · intro id p hp
    rw [get?_put] at hp
    by_cases hid : plan.planId = id
    · exact hid ▸ hdrawn
    · rw [if_neg hid] at hp
      exact h.drawn id p hp
  · intro id p hp
    rw [get?_put] at hp
    by_cases hid : plan.planId = id
    · rw [if_pos hid, Option.some_inj] at hp
      exact hp ▸ hnumbered
    · rw [if_neg hid] at hp
      exact h.numbered id p hp
  · intro c hc
    obtain ⟨hcommitting, hget⟩ := h.running c hc
    refine ⟨hcommitting, ?_⟩
    have hne : plan.planId ≠ c.planId := by
      intro heq
      exact hbefore c (heq ▸ hget) hcommitting
    rw [get?_put, if_neg hne]
    exact hget
  · intro id p hp hcommitting
    rw [get?_put] at hp
    by_cases hid : plan.planId = id
    · rw [if_pos hid, Option.some_inj] at hp
      exact absurd (hp ▸ hcommitting) hstatus
    · rw [if_neg hid] at hp
      exact h.committing id p hp hcommitting

theorem Sound.draw (h : Sound T s) : Sound T { s with drawn := s.drawn + 1 } := by
  refine ⟨fun id plan hplan => ?_, h.numbered, h.running, h.committing⟩
  obtain ⟨k, hk, hid⟩ := h.drawn id plan hplan
  exact ⟨k, Nat.lt_succ_of_lt hk, hid⟩

theorem Sound.begin (h : Sound T s) (hfree : s.running = none) {committing : DimensionPlan}
    (hdrawn : Drawn T s committing.planId) (hnumbered : committing.Numbered)
    (hstatus : committing.status = .committing) :
    Sound T { s.put committing with running := some committing } := by
  constructor
  · intro id p hp
    change (s.put committing).plans.get? id = some p at hp
    rw [get?_put] at hp
    by_cases hid : committing.planId = id
    · exact hid ▸ hdrawn
    · rw [if_neg hid] at hp
      exact h.drawn id p hp
  · intro id p hp
    change (s.put committing).plans.get? id = some p at hp
    rw [get?_put] at hp
    by_cases hid : committing.planId = id
    · rw [if_pos hid, Option.some_inj] at hp
      exact hp ▸ hnumbered
    · rw [if_neg hid] at hp
      exact h.numbered id p hp
  · intro c hc
    cases hc
    refine ⟨hstatus, ?_⟩
    change (s.put committing).plans.get? committing.planId = some committing
    rw [get?_put, if_pos rfl]
  · intro id p hp hcommitting
    change (s.put committing).plans.get? id = some p at hp
    rw [get?_put] at hp
    by_cases hid : committing.planId = id
    · rw [if_pos hid] at hp
      exact hp
    · rw [if_neg hid] at hp
      rw [h.committing id p hp hcommitting] at hfree
      cases hfree

theorem Sound.finish (h : Sound T s) {committing plan : DimensionPlan}
    (hrunning : s.running = some committing) (hid : plan.planId = committing.planId)
    (hnumbered : plan.Numbered) (hstatus : plan.status ≠ .committing) :
    Sound T { s.put plan with running := none } := by
  have hget := (h.running committing hrunning).2
  constructor
  · intro id p hp
    change (s.put plan).plans.get? id = some p at hp
    rw [get?_put] at hp
    by_cases hput : plan.planId = id
    · have hdrawn := h.drawn _ _ hget
      rw [← hput, hid]
      exact hdrawn
    · rw [if_neg hput] at hp
      exact h.drawn id p hp
  · intro id p hp
    change (s.put plan).plans.get? id = some p at hp
    rw [get?_put] at hp
    by_cases hput : plan.planId = id
    · rw [if_pos hput, Option.some_inj] at hp
      exact hp ▸ hnumbered
    · rw [if_neg hput] at hp
      exact h.numbered id p hp
  · intro c hc
    cases hc
  · intro id p hp hcommitting
    change (s.put plan).plans.get? id = some p at hp
    rw [get?_put] at hp
    by_cases hput : plan.planId = id
    · rw [if_pos hput, Option.some_inj] at hp
      exact absurd (hp ▸ hcommitting) hstatus
    · rw [if_neg hput] at hp
      -- the only committing plan is the one that the new plan replaces
      have hsame := h.committing id p hp hcommitting
      rw [hrunning, Option.some_inj] at hsame
      have hpid := (Table.get?_some hp).2
      rw [← hsame, ← hid] at hpid
      exact absurd hpid hput

/-! ## One call -/

variable {call : Call} {r : Reply}

theorem evictable_some {old : DimensionPlan} (h : s.evictable = some old) :
    s.plans.get? old.planId = some old ∧ old.status = .committed := by
  refine ⟨Table.get?_of_mem (List.mem_of_find?_eq_some h), ?_⟩
  have hstatus := List.find?_some h
  exact of_decide_eq_true hstatus

theorem Move.sound (h : Move T L s call r s') (hsound : Sound T s) : Sound T s' := by
  cases h with
  | refused hcall hgood => exact hsound
  | again hplan hcommitted => exact hsound
  | waits => exact hsound
  | idle => exact hsound
  | @evicted args old e hfull hold hbad =>
      obtain ⟨hget, hstatus⟩ := evictable_some hold
      exact hsound.erase hget (by rw [hstatus]; decide)
  | @created args plan hnew =>
      refine Sound.put hsound.draw ⟨s.drawn, Nat.lt_succ_self _, hnew.planId⟩ hnew.numbered
        (by rw [hnew.status]; decide) ?_
      intro old hget
      exact absurd hnew.planId (hsound.drawn _ _ hget).ne_next
  | @replaced args old plan hfull hold hnew =>
      obtain ⟨hget, hstatus⟩ := evictable_some hold
      have hleft := hsound.erase hget (by rw [hstatus]; decide)
      refine Sound.put hleft.draw ⟨s.drawn, Nat.lt_succ_self _, hnew.planId⟩ hnew.numbered
        (by rw [hnew.status]; decide) ?_
      intro old' hget'
      exact absurd hnew.planId (hleft.drawn _ _ hget').ne_next
  | @revised args plan updated additions hplan hadd hupdated =>
      have hid : updated.planId = args.planId :=
        hupdated.planId.trans (Table.get?_some hplan).2
      refine hsound.put (hid ▸ hsound.drawn _ _ hplan)
        (hupdated.numbered (hsound.numbered _ _ hplan)) (by rw [hupdated.status]; decide) ?_
      intro old hold
      rw [hid, hplan, Option.some_inj] at hold
      rw [← hold, hupdated.draft]
      decide
  | @discarded planId plan hplan hdraft => exact hsound.erase hplan (by rw [hdraft]; decide)
  | @begun planId expected plan hfree hplan hdraft =>
      have hid : plan.planId = planId := (Table.get?_some hplan).2
      exact hsound.begin hfree (hid ▸ hsound.drawn _ _ hplan)
        ((hsound.numbered _ _ hplan).congr rfl rfl) rfl
  | @failed result committing e hrunning =>
      have hget := (hsound.running _ hrunning).2
      exact hsound.finish hrunning rfl ((hsound.numbered _ _ hget).congr rfl rfl) nofun
  | @accepted result committing json hrunning =>
      have hget := (hsound.running _ hrunning).2
      exact hsound.finish hrunning rfl ((hsound.numbered _ _ hget).congr rfl rfl) nofun

/-- The plan of a revision that is made. -/
def revisedBy : Call → Reply → Option String
  | .revise args, .returned _ => some args.planId
  | _, _ => none

/-- The plan of a commit whose executor has been accepted. -/
def acceptedBy : Call → Reply → Option DimensionPlan
  | .executed _, .returned plan => some plan
  | _, _ => none

/-- Where a plan of the store after a call comes from. -/
inductive Origin (T : PlanRuntime) (s : PlanStore) : Call → Reply → PlanStore → DimensionPlan → Prop
  | kept {call : Call} {r : Reply} {s' : PlanStore} {plan : DimensionPlan}
      (hplan : s.plans.get? plan.planId = some plan)
      (hquiet : revisedBy call r ≠ some plan.planId) : Origin T s call r s' plan
  | created {args : CreateArgs} {s' : PlanStore} {plan : DimensionPlan}
      (hnew : IsNewPlan T s.drawn plan) : Origin T s (.create args) (.returned plan) s' plan
  | revised {args : ReviseArgs} {s' : PlanStore} {plan updated : DimensionPlan}
      {additions : List Mapping} (hplan : s.plans.get? args.planId = some plan)
      (hid : updated.planId = args.planId) (hupdated : IsRevision plan updated additions) :
      Origin T s (.revise args) (.returned updated) s' updated
  | begun {planId : String} {expected : Option ℤ} {s' : PlanStore} {plan : DimensionPlan}
      (hplan : s.plans.get? plan.planId = some plan) (hdraft : plan.status = .draft) :
      Origin T s (.commit planId expected) .running s' { plan with status := .committing }
  | failed {result : Except PlanError Value} {e : PlanError} {s' : PlanStore}
      {committing : DimensionPlan} (hrunning : s.running = some committing) :
      Origin T s (.executed result) (.raised e) s' { committing with status := .draft }
  | accepted {result : Except PlanError Value} {s' : PlanStore} {committing : DimensionPlan}
      {json : JsonDict} (hrunning : s.running = some committing) :
      Origin T s (.executed result)
        (.returned { committing with status := .committed, commitResult := some json }) s'
        { committing with status := .committed, commitResult := some json }

theorem Move.origin (h : Move T L s call r s') {id : String} {plan : DimensionPlan}
    (hplan : s'.plans.get? id = some plan) : Origin T s call r s' plan := by
  obtain rfl := (Table.get?_some hplan).2
  cases h with
  | refused hcall hgood =>
      refine .kept hplan ?_
      cases call <;> exact nofun
  | again hget hcommitted => exact .kept hplan nofun
  | waits => exact .kept hplan nofun
  | idle => exact .kept hplan nofun
  | @evicted args old e hfull hold hbad =>
      rw [get?_erase] at hplan
      by_cases hid : plan.planId = old.planId
      · rw [if_pos hid] at hplan
        cases hplan
      · rw [if_neg hid] at hplan
        exact .kept hplan nofun
  | @created args new hnew =>
      change (s.put new).plans.get? plan.planId = some plan at hplan
      rw [get?_put] at hplan
      by_cases hid : new.planId = plan.planId
      · rw [if_pos hid, Option.some_inj] at hplan
        exact hplan ▸ .created hnew
      · rw [if_neg hid] at hplan
        exact .kept hplan nofun
  | @replaced args old new hfull hold hnew =>
      change ((s.erase old.planId).put new).plans.get? plan.planId = some plan at hplan
      rw [get?_put] at hplan
      by_cases hid : new.planId = plan.planId
      · rw [if_pos hid, Option.some_inj] at hplan
        exact hplan ▸ .created hnew
      · rw [if_neg hid, get?_erase] at hplan
        by_cases hold : plan.planId = old.planId
        · rw [if_pos hold] at hplan
          cases hplan
        · rw [if_neg hold] at hplan
          exact .kept hplan nofun
  | @revised args before updated additions hbefore hadd hupdated =>
      have hargs : updated.planId = args.planId :=
        hupdated.planId.trans (Table.get?_some hbefore).2
      rw [get?_put] at hplan
      by_cases hid : updated.planId = plan.planId
      · rw [if_pos hid, Option.some_inj] at hplan
        subst hplan
        exact .revised hbefore hargs hupdated
      · rw [if_neg hid] at hplan
        refine .kept hplan fun heq => hid ?_
        exact hargs.trans (Option.some_inj.mp heq)
  | @discarded planId before hbefore hdraft =>
      rw [get?_erase] at hplan
      by_cases hid : plan.planId = planId
      · rw [if_pos hid] at hplan
        cases hplan
      · rw [if_neg hid] at hplan
        exact .kept hplan nofun
  | @begun planId expected before hfree hbefore hdraft =>
      change (s.put _).plans.get? plan.planId = some plan at hplan
      rw [get?_put] at hplan
      by_cases hid : before.planId = plan.planId
      · rw [if_pos hid, Option.some_inj] at hplan
        subst hplan
        refine .begun ?_ hdraft
        rw [(Table.get?_some hbefore).2]
        exact hbefore
      · rw [if_neg hid] at hplan
        exact .kept hplan nofun
  | @failed result committing e hrunning =>
      change (s.put _).plans.get? plan.planId = some plan at hplan
      rw [get?_put] at hplan
      by_cases hid : committing.planId = plan.planId
      · rw [if_pos hid, Option.some_inj] at hplan
        exact hplan ▸ .failed hrunning
      · rw [if_neg hid] at hplan
        exact .kept hplan nofun
  | @accepted result committing json hrunning =>
      change (s.put _).plans.get? plan.planId = some plan at hplan
      rw [get?_put] at hplan
      by_cases hid : committing.planId = plan.planId
      · rw [if_pos hid, Option.some_inj] at hplan
        exact hplan ▸ .accepted hrunning
      · rw [if_neg hid] at hplan
        exact .kept hplan nofun

/-- The call is a `create` that found no slot free. -/
def FullCreate (L : PlanLimits) (s : PlanStore) (call : Call) : Prop :=
  ∃ args, call = .create args ∧ L.maxPlans ≤ s.plans.rows.length ∧ s.evictable ≠ none

/-- A plan leaves the store when it is committed and a slot is needed, or as a draft that is
discarded. -/
theorem Move.leaves (h : Move T L s call r s') {id : String} {plan : DimensionPlan}
    (hplan : s.plans.get? id = some plan) (hgone : s'.plans.get? id = none) :
    (plan.status = .committed ∧ FullCreate L s call) ∨
      (plan.status = .draft ∧ call = .discard id ∧ r = .discarded) := by
  have hputs : ∀ (t : PlanStore) (p : DimensionPlan), (t.put p).plans.get? id = none →
      t.plans.get? id = none := by
    intro t p hget
    rw [get?_put] at hget
    by_cases hid : p.planId = id
    · rw [if_pos hid] at hget
      cases hget
    · rwa [if_neg hid] at hget
  have hstays : s.plans.get? id ≠ none := by
    rw [hplan]
    exact Option.some_ne_none plan
  cases h with
  | refused hcall hgood => exact absurd hgone hstays
  | again hget hcommitted => exact absurd hgone hstays
  | waits => exact absurd hgone hstays
  | idle => exact absurd hgone hstays
  | created hnew => exact absurd (hputs s _ hgone) hstays
  | revised hbefore hadd hupdated => exact absurd (hputs s _ hgone) hstays
  | begun hfree hbefore hdraft => exact absurd (hputs s _ hgone) hstays
  | failed hrunning => exact absurd (hputs s _ hgone) hstays
  | accepted hrunning => exact absurd (hputs s _ hgone) hstays
  | @evicted args old e hfull hold hbad =>
      left
      rw [get?_erase] at hgone
      by_cases hid : id = old.planId
      · obtain ⟨hget, hstatus⟩ := evictable_some hold
        rw [← hid, hplan, Option.some_inj] at hget
        exact ⟨hget ▸ hstatus, args, rfl, hfull, hold ▸ Option.some_ne_none old⟩
      · rw [if_neg hid] at hgone
        exact absurd hgone hstays
  | @replaced args old new hfull hold hnew =>
      left
      have hgone := hputs _ _ hgone
      rw [get?_erase] at hgone
      by_cases hid : id = old.planId
      · obtain ⟨hget, hstatus⟩ := evictable_some hold
        rw [← hid, hplan, Option.some_inj] at hget
        exact ⟨hget ▸ hstatus, args, rfl, hfull, hold ▸ Option.some_ne_none old⟩
      · rw [if_neg hid] at hgone
        exact absurd hgone hstays
  | @discarded planId before hbefore hdraft =>
      right
      rw [get?_erase] at hgone
      by_cases hid : id = planId
      · subst hid
        rw [hplan, Option.some_inj] at hbefore
        exact ⟨hbefore ▸ hdraft, rfl, rfl⟩
      · rw [if_neg hid] at hgone
        exact absurd hgone hstays

theorem Move.drawn (h : Move T L s call r s') : s.drawn ≤ s'.drawn := by
  cases h with
  | created hnew => exact Nat.le_succ s.drawn
  | replaced hfull hold hnew => exact Nat.le_succ s.drawn
  | _ => exact le_rfl

/-- What is under an id that was drawn comes from what was there: the D-numbers and the revision
have not gone back, and a plan that was committed is the same. -/
theorem Move.follows (h : Move T L s call r s') (hsound : Sound T s) {id : String}
    (hid : Drawn T s id) {newer : DimensionPlan} (hnewer : s'.plans.get? id = some newer) :
    ∃ older, s.plans.get? id = some older ∧
      older.nextDimensionNumber ≤ newer.nextDimensionNumber ∧
      (older.status = .committed → newer = older) := by
  have hkey : newer.planId = id := (Table.get?_some hnewer).2
  cases h.origin hnewer with
  | kept hplan hquiet => exact ⟨newer, hkey ▸ hplan, le_rfl, fun _ => rfl⟩
  | created hnew => exact absurd (hkey.symm.trans hnew.planId) hid.ne_next
  | @revised args s' plan updated additions hplan hargs hupdated =>
      refine ⟨plan, hkey ▸ hargs ▸ hplan, ?_, fun hcommitted => ?_⟩
      · rw [hupdated.next]
        exact Nat.le_add_right _ _
      · rw [hupdated.draft] at hcommitted
        cases hcommitted
  | @begun planId expected s' plan hplan hdraft =>
      refine ⟨plan, hkey ▸ hplan, le_rfl, fun hcommitted => ?_⟩
      rw [hdraft] at hcommitted
      cases hcommitted
  | @failed result e s' committing hrunning =>
      obtain ⟨hstatus, hget⟩ := hsound.running _ hrunning
      refine ⟨committing, hkey ▸ hget, le_rfl, fun hcommitted => ?_⟩
      rw [hstatus] at hcommitted
      cases hcommitted
  | @accepted result s' committing json hrunning =>
      obtain ⟨hstatus, hget⟩ := hsound.running _ hrunning
      refine ⟨committing, hkey ▸ hget, le_rfl, fun hcommitted => ?_⟩
      rw [hstatus] at hcommitted
      cases hcommitted

/-- A revision adds one to the revision of a stored plan, and nothing else changes it. -/
theorem Move.revision (h : Move T L s call r s') (hsound : Sound T s) {id : String}
    {plan : DimensionPlan} (hplan : s'.plans.get? id = some plan) :
    (¬ Drawn T s id ∧ plan.revision = 1 ∧ revisedBy call r ≠ some id) ∨
      ∃ older, s.plans.get? id = some older ∧
        plan.revision = older.revision + if revisedBy call r = some id then 1 else 0 := by
  have hkey : plan.planId = id := (Table.get?_some hplan).2
  cases h.origin hplan with
  | kept hbefore hquiet =>
      rw [hkey] at hbefore hquiet
      exact Or.inr ⟨plan, hbefore, by rw [if_neg hquiet, Nat.add_zero]⟩
  | created hnew =>
      refine Or.inl ⟨fun hdrawn => ?_, hnew.revision, nofun⟩
      exact hdrawn.ne_next (hkey.symm.trans hnew.planId)
  | @revised args s' older updated additions hbefore hargs hupdated =>
      have hid : args.planId = id := hargs.symm.trans hkey
      refine Or.inr ⟨older, hid ▸ hbefore, ?_⟩
      have hrevises : revisedBy (.revise args) (.returned plan) = some id := congrArg some hid
      rw [if_pos hrevises, hupdated.revision]
  | begun hbefore hdraft => exact Or.inr ⟨_, hkey ▸ hbefore, rfl⟩
  | @failed result e s' committing hrunning =>
      exact Or.inr ⟨committing, hkey ▸ (hsound.running _ hrunning).2, rfl⟩
  | @accepted result s' committing json hrunning =>
      exact Or.inr ⟨committing, hkey ▸ (hsound.running _ hrunning).2, rfl⟩

theorem Move.revises (h : Move T L s call r s') {id : String}
    (hrevises : revisedBy call r = some id) : ∃ older, s.plans.get? id = some older := by
  cases h with
  | @revised args plan updated additions hplan hadd hupdated =>
      cases hrevises
      exact ⟨plan, hplan⟩
  | refused hcall hgood => cases call <;> cases hrevises
  | _ => cases hrevises

/-- An accepted executor was that of the running commit, and its plan is in the store. -/
theorem Move.accepts (h : Move T L s call r s') {plan : DimensionPlan}
    (haccepted : acceptedBy call r = some plan) : plan.status = .committed ∧
      s'.plans.get? plan.planId = some plan ∧
      ∃ committing, s.running = some committing ∧ plan.planId = committing.planId := by
  cases h with
  | @accepted result committing json hrunning =>
      cases haccepted
      refine ⟨rfl, ?_, committing, hrunning, rfl⟩
      change (s.put _).plans.get? _ = _
      rw [get?_put, if_pos rfl]
  | refused hcall hgood => cases call <;> cases haccepted
  | _ => cases haccepted

/-- Until its executor ends, a commit holds the lock. -/
theorem Move.running (h : Move T L s call r s') {committing : DimensionPlan}
    (hrunning : s.running = some committing) (hcall : ∀ result, call ≠ .executed result) :
    s'.running = some committing := by
  cases h with
  | begun hfree hplan hdraft =>
      rw [hrunning] at hfree
      cases hfree
  | @failed result _ _ _ => exact absurd rfl (hcall result)
  | @accepted result _ _ _ => exact absurd rfl (hcall result)
  | _ => exact hrunning

/-- A `create` drops a plan without making one exactly when the store is full, a committed plan is
there and the arguments are not accepted. -/
theorem create_drops_iff (args : CreateArgs) :
    (∃ e, reply T L s (.create args) = .raised e) ∧ step T L s (.create args) ≠ s ↔
      FullCreate L s (.create args) ∧ ¬ ∃ candidates, args.Valid T L candidates := by
  have hmove := respond_move (T := T) (L := L) s (.create args)
  constructor
  · rintro ⟨⟨e, hraised⟩, hchanged⟩
    generalize step T L s (.create args) = after, reply T L s (.create args) = answer at *
    cases hmove with
    | refused hcall hgood => exact absurd rfl hchanged
    | @evicted _ old _ hfull hold hbad =>
        exact ⟨⟨args, rfl, hfull, hold ▸ Option.some_ne_none old⟩, hbad⟩
    | created hnew => cases hraised
    | replaced hfull hold hnew => cases hraised
  · rintro ⟨⟨_, _, hfull, hold⟩, hbad⟩
    obtain ⟨old, hold⟩ := Option.ne_none_iff_exists'.mp hold
    rcases hnew : newPlan T L s.drawn args with e | plan
    · have hcreate : create T L s args = (.raised e, s.erase old.planId) := by
        rw [create, if_pos hfull, hold, hnew]
      show (∃ e, (create T L s args).1 = .raised e) ∧ (create T L s args).2 ≠ s
      rw [hcreate]
      refine ⟨⟨e, rfl⟩, fun (heq : s.erase old.planId = s) => ?_⟩
      have hgone : (s.erase old.planId).plans.get? old.planId = none := by
        rw [get?_erase, if_pos rfl]
      rw [heq, (evictable_some hold).1] at hgone
      cases hgone
    · exact absurd (newPlan_ok hnew).2 hbad

/-! ## Runs -/

theorem step_sound (s : PlanStore) (call : Call) (hsound : Sound T s) :
    Sound T (step T L s call) :=
  (respond_move s call).sound hsound

/-- The executor of the plan has been accepted. -/
def Accepts (T : PlanRuntime) (L : PlanLimits) (planId : String) (s : PlanStore) (call : Call) :
    Prop := (acceptedBy call (reply T L s call)).map DimensionPlan.planId = some planId

instance (planId : String) (s : PlanStore) (call : Call) : Decidable (Accepts T L planId s call) :=
  inferInstanceAs (Decidable (_ = _))

theorem accepts_once (planId : String) (hsound : Sound T s) (calls : List Call) :
    countAlong (step T L) (Accepts T L planId) s calls ≤ 1 := by
  refine countAlong_le_one_of_invariant (Sound T)
    (fun s => Drawn T s planId ∧
      ∀ plan, s.plans.get? planId = some plan → plan.status = .committed)
    step_sound ?_ ?_ ?_ hsound calls
  · intro s call hsound haccepts
    obtain ⟨plan, haccepted, hid⟩ := Option.map_eq_some_iff.mp haccepts
    obtain ⟨hstatus, hget, -⟩ := (respond_move s call).accepts haccepted
    rw [hid] at hget
    refine ⟨(step_sound s call hsound).drawn _ _ hget, fun stored hstored => ?_⟩
    rw [hget, Option.some_inj] at hstored
    exact hstored ▸ hstatus
  · rintro s call hsound ⟨⟨k, hk, hid⟩, hcommitted⟩
    have hmove : Move T L s call _ (step T L s call) := respond_move s call
    refine ⟨⟨k, lt_of_lt_of_le hk hmove.drawn, hid⟩, fun newer hnewer => ?_⟩
    obtain ⟨older, holder, -, hsame⟩ := hmove.follows hsound ⟨k, hk, hid⟩ hnewer
    have hstatus := hcommitted older holder
    rw [hsame hstatus]
    exact hstatus
  · rintro s call hsound ⟨-, hcommitted⟩ haccepts
    obtain ⟨plan, haccepted, hid⟩ := Option.map_eq_some_iff.mp haccepts
    obtain ⟨-, -, committing, hrunning, hsame⟩ := (respond_move s call).accepts haccepted
    obtain ⟨hstatus, hget⟩ := hsound.running committing hrunning
    rw [← hsame, hid] at hget
    rw [hcommitted committing hget] at hstatus
    cases hstatus

/-- The next D-number of a plan does not go back. -/
def Follows (T : PlanRuntime) (s s' : PlanStore) : Prop :=
  s.drawn ≤ s'.drawn ∧ ∀ id newer, Drawn T s id → s'.plans.get? id = some newer →
    ∃ older, s.plans.get? id = some older ∧
      older.nextDimensionNumber ≤ newer.nextDimensionNumber

theorem run_follows (hsound : Sound T s) (calls : List Call) :
    Follows T s (runFrom (step T L) s calls) := by
  refine runFrom_relates_of_invariant (Sound T) (Follows T) step_sound ?_ ?_ ?_ hsound calls
  · exact fun s => ⟨le_rfl, fun id newer _ hnewer => ⟨newer, hnewer, le_rfl⟩⟩
  · rintro s t u ⟨hst, hfirst⟩ ⟨htu, hthen⟩
    refine ⟨hst.trans htu, fun id newer hid hnewer => ?_⟩
    obtain ⟨k, hk, heq⟩ := hid
    obtain ⟨mid, hmid, hle⟩ := hthen id newer ⟨k, lt_of_lt_of_le hk hst, heq⟩ hnewer
    obtain ⟨older, holder, hle'⟩ := hfirst id mid ⟨k, hk, heq⟩ hmid
    exact ⟨older, holder, hle'.trans hle⟩
  · intro s call hsound
    have hmove : Move T L s call _ (step T L s call) := respond_move s call
    refine ⟨hmove.drawn, fun id newer hid hnewer => ?_⟩
    obtain ⟨older, holder, hle, -⟩ := hmove.follows hsound hid hnewer
    exact ⟨older, holder, hle⟩

/-- A plan that is committed stays as it is until a `create` needs its slot, and is gone then. -/
theorem committed_stays {id : String} {plan : DimensionPlan} (hsound : Sound T s)
    (hplan : s.plans.get? id = some plan) (hstatus : plan.status = .committed)
    (calls : List Call) :
    (runFrom (step T L) s calls).plans.get? id = some plan ∨
      (runFrom (step T L) s calls).plans.get? id = none ∧
        ∃ before call later, calls = before ++ call :: later ∧
          FullCreate L (runFrom (step T L) s before) call := by
  induction calls generalizing s with
  | nil => exact Or.inl hplan
  | cons call calls ih =>
      have hmove : Move T L s call _ _ := respond_move s call
      have hdrawn : Drawn T s id := hsound.drawn id plan hplan
      rcases hnext : (step T L s call).plans.get? id with _ | newer
      · right
        rcases hmove.leaves hplan hnext with ⟨-, hfull⟩ | ⟨hdraft, -⟩
        · refine ⟨?_, [], call, calls, rfl, hfull⟩
          obtain ⟨k, hk, hid⟩ := hdrawn
          have hlater : Follows T (step T L s call) (runFrom (step T L) (step T L s call) calls) :=
            run_follows (step_sound s call hsound) calls
          rcases hend : (runFrom (step T L) s (call :: calls)).plans.get? id with _ | last
          · rfl
          · obtain ⟨older, holder, -⟩ :=
              hlater.2 id last ⟨k, lt_of_lt_of_le hk hmove.drawn, hid⟩ hend
            rw [hnext] at holder
            cases holder
        · rw [hstatus] at hdraft
          cases hdraft
      · obtain ⟨older, holder, -, hsame⟩ := hmove.follows hsound hdrawn hnext
        rw [hplan, Option.some_inj] at holder
        subst holder
        rw [hsame hstatus] at hnext
        rcases ih (step_sound s call hsound) hnext with
          hstays | ⟨hgone, before, call', later, rfl, hfull⟩
        · exact Or.inl hstays
        · exact Or.inr ⟨hgone, call :: before, call', later, rfl, hfull⟩

/-- The running commit goes on until its executor ends. -/
theorem run_running {committing : DimensionPlan} (hrunning : s.running = some committing)
    {calls : List Call} (hcalls : ∀ result, .executed result ∉ calls) :
    (runFrom (step T L) s calls).running = some committing := by
  induction calls generalizing s with
  | nil => exact hrunning
  | cons call calls ih =>
      have hmove : Move T L s call _ (step T L s call) := respond_move s call
      refine ih (hmove.running hrunning ?_) fun result hmem =>
        hcalls result (List.mem_cons_of_mem call hmem)
      rintro result rfl
      exact hcalls result List.mem_cons_self

/-- The call revises the plan. -/
def Revises (T : PlanRuntime) (L : PlanLimits) (planId : String) (s : PlanStore) (call : Call) :
    Prop := revisedBy call (reply T L s call) = some planId

instance (planId : String) (s : PlanStore) (call : Call) : Decidable (Revises T L planId s call) :=
  inferInstanceAs (Decidable (_ = _))

theorem sound_after (calls : List Call) : Sound T (after T L calls) :=
  runFrom_invariant (Sound T) step_sound sound_init calls

theorem after_append (calls more : List Call) :
    after T L (calls ++ more) = runFrom (step T L) (after T L calls) more :=
  runFrom_append _ _ calls more

/-- The revision of a plan counts its revisions, from one on. -/
theorem revision_counts (calls : List Call) (id : String) :
    (¬ Drawn T (after T L calls) id → countAlong (step T L) (Revises T L id) .init calls = 0) ∧
      ∀ plan, (after T L calls).plans.get? id = some plan →
        plan.revision = 1 + countAlong (step T L) (Revises T L id) .init calls := by
  induction calls using List.reverseRecOn with
  | nil => exact ⟨fun _ => rfl, nofun⟩
  | append_singleton calls call ih =>
      have hsound : Sound T (after T L calls) := sound_after calls
      have hmove : Move T L (after T L calls) call _ _ := respond_move (after T L calls) call
      have hlast : after T L (calls ++ [call]) = step T L (after T L calls) call :=
        after_append calls [call]
      have hcount : countAlong (step T L) (Revises T L id) .init (calls ++ [call]) =
          countAlong (step T L) (Revises T L id) .init calls +
            if revisedBy call (reply T L (after T L calls) call) = some id then 1 else 0 := by
        rw [countAlong_append]
        rfl
      rw [hlast, hcount]
      constructor
      · intro hnew
        have hbefore : ¬ Drawn T (after T L calls) id := fun ⟨k, hk, hid⟩ =>
          hnew ⟨k, lt_of_lt_of_le hk hmove.drawn, hid⟩
        have hquiet : revisedBy call (reply T L (after T L calls) call) ≠ some id := by
          intro hrevises
          obtain ⟨older, holder⟩ := hmove.revises hrevises
          exact hbefore (hsound.drawn id older holder)
        rw [ih.1 hbefore, if_neg hquiet]
      · intro plan hplan
        rcases hmove.revision hsound hplan with ⟨hnew, hone, hquiet⟩ | ⟨older, holder, hrevision⟩
        · rw [ih.1 hnew, if_neg hquiet, hone]
        · rw [hrevision, ih.2 older holder, Nat.add_assoc]

end

/-! ## Every run -/

section

variable (T : PlanRuntime) (L : PlanLimits)

structure CommitsOnce (calls : List Call) : Prop where
  once : ∀ planId, countAlong (step T L) (Accepts T L planId) .init calls ≤ 1
  /-- A later commit gets the plan as it was committed, or waits for its turn, unless the plan is
  gone because a `create` has needed a slot. -/
  same : ∀ pre call mid planId expected post plan,
    calls = pre ++ call :: mid ++ .commit planId expected :: post →
    acceptedBy call (reply T L (after T L pre) call) = some plan → plan.planId = planId →
    (∀ n ∈ expected, n = (plan.revision : ℤ)) →
    reply T L (after T L (pre ++ call :: mid)) (.commit planId expected) = .returned plan ∨
      reply T L (after T L (pre ++ call :: mid)) (.commit planId expected) = .waiting ∨
      (after T L (pre ++ call :: mid)).plans.get? planId = none ∧
        ∃ before create later, mid = before ++ create :: later ∧
          FullCreate L (after T L (pre ++ call :: before)) create
  /-- No two dimensions of a plan have one D-number. -/
  distinct : ∀ planId plan, (after T L calls).plans.get? planId = some plan → plan.ids.Nodup
  /-- A D-number that comes with a revision has not been in the plan before. -/
  fresh : ∀ pre args post updated, calls = pre ++ .revise args :: post →
    reply T L (after T L pre) (.revise args) = .returned updated → ∀ id ∈ updated.ids,
    (∃ plan, (after T L pre).plans.get? args.planId = some plan ∧ id ∈ plan.ids) ∨
      ∀ before rest, pre = before ++ rest → ∀ older,
        (after T L before).plans.get? args.planId = some older → id ∉ older.ids
  revision : ∀ planId plan, (after T L calls).plans.get? planId = some plan →
    plan.revision = 1 + countAlong (step T L) (Revises T L planId) .init calls
  /-- A plan that is not committed leaves by a `discard` of the draft alone. -/
  held : ∀ pre call post, calls = pre ++ call :: post → ∀ planId plan,
    (after T L pre).plans.get? planId = some plan → plan.status ≠ .committed →
    (after T L (pre ++ [call])).plans.get? planId = none →
    plan.status = .draft ∧ call = .discard planId ∧ reply T L (after T L pre) call = .discarded
  /-- What raises leaves the store as it is, but for a commit that was begun and a `create` that
  has made room. -/
  clean : ∀ pre call post e, calls = pre ++ call :: post →
    reply T L (after T L pre) call = .raised e → (∀ result, call ≠ .executed result) →
    ¬ FullCreate L (after T L pre) call → after T L (pre ++ [call]) = after T L pre
  /-- A commit whose executor fails puts its draft back and changes no other plan. -/
  restored : ∀ pre planId expected mid result post e,
    calls = pre ++ .commit planId expected :: mid ++ .executed result :: post →
    reply T L (after T L pre) (.commit planId expected) = .running →
    (∀ other, .executed other ∉ mid) →
    reply T L (after T L (pre ++ .commit planId expected :: mid)) (.executed result) = .raised e →
    (after T L (pre ++ .commit planId expected :: mid ++ [.executed result])).plans.get? planId =
        (after T L pre).plans.get? planId ∧
      ∀ id ≠ planId,
        (after T L (pre ++ .commit planId expected :: mid ++ [.executed result])).plans.get? id =
          (after T L (pre ++ .commit planId expected :: mid)).plans.get? id

variable {T L}

/-- A commit of a committed plan returns it or waits. -/
theorem commit_again {s : PlanStore} {planId : String} {expected : Option ℤ} {plan : DimensionPlan}
    (hplan : s.plans.get? planId = some plan) (hstatus : plan.status = .committed)
    (hexpected : ∀ n ∈ expected, n = (plan.revision : ℤ)) :
    reply T L s (.commit planId expected) = .returned plan ∨
      reply T L s (.commit planId expected) = .waiting := by
  change (commit s planId expected).1 = _ ∨ (commit s planId expected).1 = _
  unfold commit
  rcases hrunning : s.running with _ | committing
  · left
    have hfilter : expected.filter (· ≠ (plan.revision : ℤ)) = none := by
      rw [Option.filter_eq_none_iff]
      intro n hn
      simp [hexpected n hn]
    simp only [Option.isSome_none, Bool.false_eq_true, if_false, get_eq_ok.mpr hplan, hfilter,
      hstatus]
  · exact Or.inr rfl

theorem revise_fresh {s : PlanStore} {args : ReviseArgs}
    {updated : DimensionPlan} (h : reply T L s (.revise args) = .returned updated) {id : String}
    (hid : id ∈ updated.ids) : ∃ plan, s.plans.get? args.planId = some plan ∧
      (id ∈ plan.ids ∨ ∃ n, plan.nextDimensionNumber ≤ n ∧ id = dimensionNumber n) := by
  have hmove : Move T L s (.revise args) _ _ := respond_move s (.revise args)
  rw [h] at hmove
  generalize step T L s (.revise args) = s' at hmove
  cases hmove with
  | @revised _ plan _ additions hplan hadd hupdated =>
      refine ⟨plan, hplan, ?_⟩
      obtain ⟨kept, added, hdims, hkept, hadded⟩ := hupdated.parts
      rw [DimensionPlan.ids, hdims, List.map_append, List.mem_append] at hid
      rcases hid with hid | hid
      · exact Or.inl (hkept.subset hid)
      · rw [hadded] at hid
        obtain ⟨n, hn, rfl⟩ := List.mem_map.mp hid
        exact Or.inr ⟨n, (List.mem_range'_1.mp hn).1, rfl⟩

theorem commit_begins {s : PlanStore} {planId : String} {expected : Option ℤ}
    (h : reply T L s (.commit planId expected) = .running) :
    ∃ plan, s.plans.get? planId = some plan ∧ plan.status = .draft ∧
      (step T L s (.commit planId expected)).running =
        some { plan with status := .committing } := by
  have hmove : Move T L s (.commit planId expected) _ _ := respond_move s (.commit planId expected)
  rw [h] at hmove
  generalize step T L s (.commit planId expected) = s' at hmove
  cases hmove with
  | begun hfree hplan hdraft => exact ⟨_, hplan, hdraft, rfl⟩

theorem executor_fails {s : PlanStore} {result : Except PlanError Value} {e : PlanError}
    {committing : DimensionPlan} (hrunning : s.running = some committing)
    (h : reply T L s (.executed result) = .raised e) :
    step T L s (.executed result) =
      { s.put { committing with status := .draft } with running := none } := by
  have hmove : Move T L s (.executed result) _ _ := respond_move s (.executed result)
  rw [h] at hmove
  generalize step T L s (.executed result) = s' at hmove
  cases hmove with
  | refused hcall hgood => exact absurd rfl (hcall result)
  | failed hfound =>
      rw [hrunning, Option.some_inj] at hfound
      subst hfound
      rfl

theorem commits_once (T : PlanRuntime) (L : PlanLimits) (calls : List Call) :
    CommitsOnce T L calls where
  once planId := accepts_once planId sound_init calls
  same := by
    rintro pre call mid planId expected post plan - haccepted rfl hexpected
    have hmove : Move T L (after T L pre) call _ (step T L (after T L pre) call) :=
      respond_move (after T L pre) call
    obtain ⟨hstatus, hget, -⟩ := hmove.accepts haccepted
    have hrun : after T L (pre ++ call :: mid) =
        runFrom (step T L) (step T L (after T L pre) call) mid := after_append pre (call :: mid)
    rcases committed_stays (step_sound _ call (sound_after pre)) hget hstatus mid with
      hstays | ⟨hgone, before, create, later, hsplit, hfull⟩
    · rw [← hrun] at hstays
      rcases commit_again hstays hstatus hexpected with hagain | hwaits
      · exact Or.inl hagain
      · exact Or.inr (Or.inl hwaits)
    · rw [← hrun] at hgone
      refine Or.inr (Or.inr ⟨hgone, before, create, later, hsplit, ?_⟩)
      rw [after_append]
      exact hfull
  distinct planId plan hplan := ((sound_after calls).numbered planId plan hplan).nodup
  fresh := by
    rintro pre args post updated - hreply id hid
    obtain ⟨plan, hplan, hin | ⟨n, hn, rfl⟩⟩ := revise_fresh hreply hid
    · exact Or.inl ⟨plan, hplan, hin⟩
    · right
      rintro before rest rfl older holder hin
      have hsound : Sound T (after T L before) := sound_after before
      rw [after_append] at hplan
      obtain ⟨first, hfirst, hle⟩ :=
        (run_follows hsound rest).2 _ _ (hsound.drawn _ _ holder) hplan
      rw [holder, Option.some_inj] at hfirst
      subst hfirst
      -- the numbers of the older version lie below its next one
      obtain ⟨numbers, hids, -, hlt⟩ := hsound.numbered _ _ holder
      rw [hids] at hin
      obtain ⟨m, hm, hmn⟩ := List.mem_map.mp hin
      have hsame := dimensionNumber_injective hmn
      have hbelow := hlt m hm
      omega
  revision planId plan hplan := (revision_counts calls planId).2 plan hplan
  held := by
    rintro pre call post - planId plan hplan hstatus hgone
    rw [after_append] at hgone
    rcases (respond_move (after T L pre) call).leaves hplan hgone with ⟨hcommitted, -⟩ | hdiscard
    · exact absurd hcommitted hstatus
    · exact hdiscard
  clean := by
    rintro pre call post e - hraised hcall hfull
    rw [after_append]
    have hmove : Move T L (after T L pre) call _ (step T L (after T L pre) call) :=
      respond_move (after T L pre) call
    rw [hraised] at hmove
    change step T L (after T L pre) call = after T L pre
    generalize step T L (after T L pre) call = s' at hmove
    cases hmove with
    | refused hcall hgood => rfl
    | @evicted args old _ hslots hold hbad =>
        exact absurd ⟨args, rfl, hslots, hold ▸ Option.some_ne_none old⟩ hfull
    | failed hrunning => exact absurd rfl (hcall _)
  restored := by
    rintro pre planId expected mid result post e - hbegun hmid hraised
    obtain ⟨plan, hplan, hdraft, hrunning⟩ := commit_begins hbegun
    have hrun : after T L (pre ++ .commit planId expected :: mid) =
        runFrom (step T L) (step T L (after T L pre) (.commit planId expected)) mid :=
      after_append pre (.commit planId expected :: mid)
    have hheld : (after T L (pre ++ .commit planId expected :: mid)).running =
        some { plan with status := .committing } := by
      rw [hrun]
      exact run_running hrunning hmid
    have hlast := executor_fails hheld hraised
    rw [after_append]
    change (step T L _ _).plans.get? planId = _ ∧ ∀ id ≠ planId, (step T L _ _).plans.get? id = _
    rw [hlast]
    have hid : plan.planId = planId := (Table.get?_some hplan).2
    have hback : { plan with status := .draft } = plan := by
      rw [← hdraft]
    constructor
    · change (PlanStore.put _ { plan with status := .draft }).plans.get? planId = _
      rw [get?_put, if_pos hid, hback, hplan]
    · intro id hne
      change (PlanStore.put _ { plan with status := .draft }).plans.get? id = _
      rw [get?_put, if_neg fun heq => hne (heq.symm.trans hid)]

end

/-! ## A slot that is needed -/

def sampleText : Value → String
  | .str s => s
  | _ => ""

def sampleRuntime : PlanRuntime where
  str := sampleText
  strip := id
  lower := id
  uuid := dimensionNumber
  uuid_injective := dimensionNumber_injective

def oneSlot : PlanLimits where
  maxPlans := 1
  maxDimensions := 1
  maxPlans_pos := Nat.one_pos
  maxDimensions_pos := Nat.one_pos

/-- The arguments of a plan with one dimension. -/
def oneDimension : CreateArgs where
  candidates := .ok [[("kind", .str "linear"), ("p1", .list [.num 0, .num 0])]]
  profileName := .str "iso"
  target := none
  now := ""

/-- The first plan is committed, and the second one takes its slot. -/
theorem later_commit_raises :
    let committed : List Call := [.create oneDimension, .commit "dplan_D0" none]
    let calls := committed ++ [.executed (.ok .null), .create oneDimension]
    (acceptedBy (.executed (.ok .null)) (reply sampleRuntime oneSlot
        (after sampleRuntime oneSlot committed) (.executed (.ok .null)))).map
          DimensionPlan.planId = some "dplan_D0" ∧
      reply sampleRuntime oneSlot (after sampleRuntime oneSlot calls) (.commit "dplan_D0" none) =
        .raised (.notFound "Unknown dimension plan: dplan_D0") := by
  decide +kernel

end AutocadMcp.DimensionPlans
