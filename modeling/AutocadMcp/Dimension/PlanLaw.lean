import AutocadMcp.Dimension.Plans
import Mathlib.Data.List.Induction

/-!
# A plan is committed once, and what a failed call leaves

The plan of a running commit is in the store under its id, still `committing`, until the executor
ends: the other methods refuse it, and only committed plans are evicted. So the executor of a plan
is accepted once at most, and a commit that fails puts back the draft that it found. The one call
that leaves a trace when it raises is a `create` in a full store: the old plan is dropped before
the new one is looked at.
-/

namespace AutocadMcp.DimensionPlans

/-! ## D-numbers -/

theorem dimensionNumber_injective : Function.Injective dimensionNumber := by
  intro m n h
  have hdigits : Nat.toDigits 10 m = Nat.toDigits 10 n := by
    have hlists := congrArg String.toList h
    rw [dimensionNumber, dimensionNumber, String.toList_append, String.toList_append,
      List.append_cancel_left_eq, Nat.toList_repr, Nat.toList_repr] at hlists
    exact hlists
  have hm := Nat.ofDigitChars_toDigits (b := 10) (n := m) (by decide) (by decide)
  rw [hdigits, Nat.ofDigitChars_toDigits (by decide) (by decide)] at hm
  exact hm.symm

/-- The dimensions have increasing D-numbers below the next one. -/
def DimensionPlan.Numbered (p : DimensionPlan) : Prop :=
  ∃ numbers : List ℕ, p.ids = numbers.map dimensionNumber ∧ numbers.Pairwise (· < ·) ∧
    ∀ n ∈ numbers, n < p.nextDimensionNumber

theorem DimensionPlan.Numbered.nodup {p : DimensionPlan} (h : p.Numbered) : p.ids.Nodup := by
  obtain ⟨numbers, hids, hsorted, -⟩ := h
  rw [hids]
  exact (hsorted.imp fun hlt => ne_of_lt hlt).map dimensionNumber
    fun a b hne h => hne (dimensionNumber_injective h)

theorem DimensionPlan.Numbered.congr {p q : DimensionPlan} (h : p.Numbered)
    (hdims : q.dimensions = p.dimensions) (hnext : q.nextDimensionNumber = p.nextDimensionNumber) :
    q.Numbered := by
  unfold Numbered ids
  rw [hdims, hnext]
  exact h

section

variable {T : PlanRuntime} {L : PlanLimits}

theorem makeDimension_id {candidate : Mapping} {number : ℕ} {d : PlannedDimension}
    (h : makeDimension T candidate number = .ok d) : d.dimensionId = dimensionNumber number := by
  obtain ⟨_, _, h⟩ := bind_eq_ok.mp h
  obtain ⟨_, _, h⟩ := bind_eq_ok.mp h
  obtain ⟨_, _, h⟩ := bind_eq_ok.mp h
  obtain ⟨_, _, h⟩ := bind_eq_ok.mp h
  obtain ⟨_, _, h⟩ := bind_eq_ok.mp h
  obtain ⟨_, _, h⟩ := bind_eq_ok.mp h
  obtain ⟨_, _, h⟩ := bind_eq_ok.mp h
  obtain ⟨_, _, h⟩ := bind_eq_ok.mp h
  obtain ⟨_, _, h⟩ := bind_eq_ok.mp h
  obtain ⟨_, _, h⟩ := bind_eq_ok.mp h
  cases h
  rfl

/-- Whether a candidate makes a dimension does not depend on its number. -/
theorem makeDimension_number {candidate : Mapping} {number : ℕ} {d : PlannedDimension}
    (h : makeDimension T candidate number = .ok d) (number' : ℕ) :
    makeDimension T candidate number' = .ok { d with dimensionId := dimensionNumber number' } := by
  unfold makeDimension at h ⊢
  obtain ⟨_, h₁, h⟩ := bind_eq_ok.mp h
  obtain ⟨_, h₂, h⟩ := bind_eq_ok.mp h
  obtain ⟨_, h₃, h⟩ := bind_eq_ok.mp h
  obtain ⟨_, h₄, h⟩ := bind_eq_ok.mp h
  obtain ⟨_, h₅, h⟩ := bind_eq_ok.mp h
  obtain ⟨_, h₆, h⟩ := bind_eq_ok.mp h
  obtain ⟨_, h₇, h⟩ := bind_eq_ok.mp h
  obtain ⟨_, h₈, h⟩ := bind_eq_ok.mp h
  obtain ⟨_, h₉, h⟩ := bind_eq_ok.mp h
  obtain ⟨_, h₁₀, h⟩ := bind_eq_ok.mp h
  cases h
  refine bind_eq_ok.mpr ⟨_, h₁, bind_eq_ok.mpr ⟨_, h₂, bind_eq_ok.mpr ⟨_, h₃, ?_⟩⟩⟩
  refine bind_eq_ok.mpr ⟨_, h₄, bind_eq_ok.mpr ⟨_, h₅, bind_eq_ok.mpr ⟨_, h₆, ?_⟩⟩⟩
  refine bind_eq_ok.mpr ⟨_, h₇, bind_eq_ok.mpr ⟨_, h₈, bind_eq_ok.mpr ⟨_, h₉, ?_⟩⟩⟩
  exact bind_eq_ok.mpr ⟨_, h₁₀, rfl⟩

theorem makeDimensions_ids {candidates : List Mapping} {number : ℕ} {ds : List PlannedDimension}
    (h : makeDimensions T candidates number = .ok ds) :
    ds.map PlannedDimension.dimensionId =
      (List.range' number candidates.length).map dimensionNumber := by
  induction candidates generalizing number ds with
  | nil =>
      cases h
      rfl
  | cons candidate rest ih =>
      obtain ⟨d, hd, h⟩ := bind_eq_ok.mp h
      obtain ⟨later, hlater, h⟩ := bind_eq_ok.mp h
      cases h
      rw [List.map_cons, makeDimension_id hd, ih hlater, List.length_cons, List.range'_succ,
        List.map_cons]

theorem makeDimensions_eq_ok {candidates : List Mapping} {number : ℕ} :
    (∃ ds, makeDimensions T candidates number = .ok ds) ↔
      ∀ c ∈ candidates, ∃ d, makeDimension T c 1 = .ok d := by
  induction candidates generalizing number with
  | nil => exact ⟨fun _ => by rintro c ⟨⟩, fun _ => ⟨[], rfl⟩⟩
  | cons candidate rest ih =>
      rw [List.forall_mem_cons, ← @ih (number + 1)]
      constructor
      · rintro ⟨ds, h⟩
        obtain ⟨d, hd, h⟩ := bind_eq_ok.mp h
        obtain ⟨later, hlater, -⟩ := bind_eq_ok.mp h
        exact ⟨⟨_, makeDimension_number hd 1⟩, later, hlater⟩
      · rintro ⟨⟨d, hd⟩, later, hlater⟩
        exact ⟨_, bind_eq_ok.mpr ⟨_, makeDimension_number hd number,
          bind_eq_ok.mpr ⟨later, hlater, rfl⟩⟩⟩

/-! ## New plans and revisions -/

/-- The arguments pass every check of `create`. -/
structure CreateArgs.Valid (T : PlanRuntime) (L : PlanLimits) (args : CreateArgs)
    (candidates : List Mapping) : Prop where
  listed : args.candidates = .ok candidates
  some : candidates ≠ []
  fits : candidates.length ≤ L.maxDimensions
  made : ∀ c ∈ candidates, ∃ d, makeDimension T c 1 = .ok d
  target : ∃ json, jsonDict (args.target.getD []) "target" = .ok json
  named : T.strip (T.str args.profileName) ≠ ""

/-- A plan as `create` makes it. -/
structure IsNewPlan (T : PlanRuntime) (drawn : ℕ) (plan : DimensionPlan) : Prop where
  planId : plan.planId = "dplan_" ++ T.uuid drawn
  revision : plan.revision = 1
  status : plan.status = .draft
  numbered : plan.Numbered

theorem newPlan_ok {drawn : ℕ} {args : CreateArgs} {plan : DimensionPlan}
    (h : newPlan T L drawn args = .ok plan) :
    IsNewPlan T drawn plan ∧ ∃ candidates, args.Valid T L candidates := by
  obtain ⟨candidates, hlist, h⟩ := bind_eq_ok.mp h
  obtain ⟨_, hcount, h⟩ := bind_eq_ok.mp h
  obtain ⟨dimensions, hdims, h⟩ := bind_eq_ok.mp h
  obtain ⟨_, hsome, h⟩ := bind_eq_ok.mp h
  obtain ⟨target, htarget, h⟩ := bind_eq_ok.mp h
  obtain ⟨_, hname, h⟩ := bind_eq_ok.mp h
  cases h
  have hids := makeDimensions_ids hdims
  refine ⟨⟨rfl, rfl, rfl, _, hids, List.pairwise_lt_range', ?_⟩, candidates, ?_⟩
  · intro n hn
    exact (List.mem_range'_1.mp hn).2
  · refine ⟨hlist, ?_, check_eq_ok.mp hcount, makeDimensions_eq_ok.mp ⟨_, hdims⟩, ⟨_, htarget⟩,
      check_eq_ok.mp hname⟩
    rintro rfl
    cases hdims
    exact check_eq_ok.mp hsome rfl

theorem newPlan_of_valid {args : CreateArgs} {candidates : List Mapping}
    (h : args.Valid T L candidates) (drawn : ℕ) : ∃ plan, newPlan T L drawn args = .ok plan := by
  obtain ⟨dimensions, hdims⟩ := (@makeDimensions_eq_ok T candidates 1).mpr h.made
  obtain ⟨target, htarget⟩ := h.target
  have hsome : dimensions ≠ [] := by
    rintro rfl
    have hlength := congrArg List.length (makeDimensions_ids hdims)
    simp only [List.map_nil, List.length_nil, List.length_map, List.length_range'] at hlength
    exact h.some (List.length_eq_zero_iff.mp hlength.symm)
  let plan : DimensionPlan := {
    planId := "dplan_" ++ T.uuid drawn
    profileName := T.strip (T.str args.profileName)
    target
    dimensions
    createdAt := args.now
    nextDimensionNumber := 1 + candidates.length }
  refine ⟨plan, bind_eq_ok.mpr ⟨candidates, h.listed, pass (check_eq_ok.mpr h.fits) ?_⟩⟩
  refine bind_eq_ok.mpr ⟨dimensions, hdims, pass (check_eq_ok.mpr hsome) ?_⟩
  exact bind_eq_ok.mpr ⟨target, htarget, pass (check_eq_ok.mpr h.named) rfl⟩

theorem overridden_id {overrides : List (String × Mapping)} {d d' : PlannedDimension}
    (h : overridden overrides d = .ok d') : d'.dimensionId = d.dimensionId := by
  unfold overridden at h
  rcases hget : getItem overrides d.dimensionId with _ | override
  · rw [hget] at h
    cases h
    rfl
  · rw [hget] at h
    obtain ⟨entries, -, h⟩ := bind_eq_ok.mp h
    cases h
    rfl

theorem keptDimensions_ids {remove : List String} {overrides : List (String × Mapping)}
    {ds kept : List PlannedDimension} (h : keptDimensions remove overrides ds = .ok kept) :
    (kept.map PlannedDimension.dimensionId).Sublist (ds.map PlannedDimension.dimensionId) := by
  induction ds generalizing kept with
  | nil =>
      cases h
      exact List.Sublist.refl _
  | cons d rest ih =>
      unfold keptDimensions at h
      by_cases hremove : d.dimensionId ∈ remove
      · rw [if_pos hremove] at h
        exact (ih h).cons _
      · rw [if_neg hremove] at h
        obtain ⟨changed, hchanged, h⟩ := bind_eq_ok.mp h
        obtain ⟨later, hlater, h⟩ := bind_eq_ok.mp h
        cases h
        rw [List.map_cons, List.map_cons, overridden_id hchanged]
        exact (ih hlater).cons_cons _

/-- A plan as `revise` makes it: some of the old dimensions and new ones, numbered from the next
D-number on. -/
structure IsRevision (plan updated : DimensionPlan) (additions : List Mapping) : Prop where
  planId : updated.planId = plan.planId
  draft : plan.status = .draft
  status : updated.status = .draft
  revision : updated.revision = plan.revision + 1
  next : updated.nextDimensionNumber = plan.nextDimensionNumber + additions.length
  parts : ∃ kept added, updated.dimensions = kept ++ added ∧
    (kept.map PlannedDimension.dimensionId).Sublist plan.ids ∧
    added.map PlannedDimension.dimensionId =
      (List.range' plan.nextDimensionNumber additions.length).map dimensionNumber

theorem revisedPlan_ok {plan updated : DimensionPlan} {args : ReviseArgs}
    (h : revisedPlan T L plan args = .ok updated) :
    ∃ additions, args.addCandidates = .ok additions ∧ IsRevision plan updated additions := by
  obtain ⟨_, heditable, h⟩ := bind_eq_ok.mp h
  obtain ⟨remove, _, h⟩ := bind_eq_ok.mp h
  obtain ⟨_, _, h⟩ := bind_eq_ok.mp h
  obtain ⟨kept, hkept, h⟩ := bind_eq_ok.mp h
  obtain ⟨additions, hadd, h⟩ := bind_eq_ok.mp h
  obtain ⟨_, _, h⟩ := bind_eq_ok.mp h
  obtain ⟨added, hadded, h⟩ := bind_eq_ok.mp h
  obtain ⟨_, _, h⟩ := bind_eq_ok.mp h
  cases h
  obtain ⟨_, hdraft, _⟩ := bind_eq_ok.mp heditable
  have hstatus := check_eq_ok.mp hdraft
  exact ⟨additions, hadd, rfl, hstatus, hstatus, rfl, rfl, kept, added, rfl,
    keptDimensions_ids hkept, makeDimensions_ids hadded⟩

theorem IsRevision.numbered {plan updated : DimensionPlan} {additions : List Mapping}
    (h : IsRevision plan updated additions) (hplan : plan.Numbered) : updated.Numbered := by
  obtain ⟨kept, added, hdims, hkept, hadded⟩ := h.parts
  obtain ⟨numbers, hids, hsorted, hlt⟩ := hplan
  rw [hids] at hkept
  obtain ⟨keptNumbers, hsub, hkeptIds⟩ := List.sublist_map_iff.mp hkept
  refine ⟨keptNumbers ++ List.range' plan.nextDimensionNumber additions.length, ?_, ?_, ?_⟩
  · rw [DimensionPlan.ids, hdims, List.map_append, hkeptIds, hadded, List.map_append]
  · rw [List.pairwise_append]
    refine ⟨hsorted.sublist hsub, List.pairwise_lt_range', ?_⟩
    intro a ha b hb
    exact lt_of_lt_of_le (hlt a (hsub.subset ha)) (List.mem_range'_1.mp hb).1
  · intro n hn
    rw [h.next]
    rcases List.mem_append.mp hn with hn | hn
    · exact lt_of_lt_of_le (hlt n (hsub.subset hn)) (Nat.le_add_right _ _)
    · exact (List.mem_range'_1.mp hn).2

/-! ## What one call can do -/

/-- The ways a call can end, with the store that it leaves. -/
inductive Move (T : PlanRuntime) (L : PlanLimits) (s : PlanStore) : Call → Reply → PlanStore → Prop
  | refused {call : Call} {e : PlanError} (hcall : ∀ result, call ≠ .executed result)
      (hgood : ∀ args, call = .create args → ¬ ∃ candidates, args.Valid T L candidates ∧
        (L.maxPlans ≤ s.plans.rows.length → s.evictable ≠ none)) :
      Move T L s call (.raised e) s
  | evicted {args : CreateArgs} {old : DimensionPlan} {e : PlanError}
      (hfull : L.maxPlans ≤ s.plans.rows.length) (hold : s.evictable = some old)
      (hbad : ¬ ∃ candidates, args.Valid T L candidates) :
      Move T L s (.create args) (.raised e) (s.erase old.planId)
  | created {args : CreateArgs} {plan : DimensionPlan} (hnew : IsNewPlan T s.drawn plan) :
      Move T L s (.create args) (.returned plan) { s.put plan with drawn := s.drawn + 1 }
  | replaced {args : CreateArgs} {old plan : DimensionPlan}
      (hfull : L.maxPlans ≤ s.plans.rows.length) (hold : s.evictable = some old)
      (hnew : IsNewPlan T s.drawn plan) :
      Move T L s (.create args) (.returned plan)
        { (s.erase old.planId).put plan with drawn := s.drawn + 1 }
  | revised {args : ReviseArgs} {plan updated : DimensionPlan} {additions : List Mapping}
      (hplan : s.plans.get? args.planId = some plan) (hadd : args.addCandidates = .ok additions)
      (hupdated : IsRevision plan updated additions) :
      Move T L s (.revise args) (.returned updated) (s.put updated)
  | discarded {planId : String} {plan : DimensionPlan} (hplan : s.plans.get? planId = some plan)
      (hdraft : plan.status = .draft) :
      Move T L s (.discard planId) .discarded (s.erase planId)
  | begun {planId : String} {expected : Option ℤ} {plan : DimensionPlan} (hfree : s.running = none)
      (hplan : s.plans.get? planId = some plan) (hdraft : plan.status = .draft) :
      Move T L s (.commit planId expected) .running
        { s.put { plan with status := .committing } with
          running := some { plan with status := .committing } }
  | again {planId : String} {expected : Option ℤ} {plan : DimensionPlan}
      (hplan : s.plans.get? planId = some plan) (hcommitted : plan.status = .committed) :
      Move T L s (.commit planId expected) (.returned plan) s
  | waits {planId : String} {expected : Option ℤ} :
      Move T L s (.commit planId expected) .waiting s
  | idle {result : Except PlanError Value} : Move T L s (.executed result) .idle s
  | failed {result : Except PlanError Value} {committing : DimensionPlan} {e : PlanError}
      (hrunning : s.running = some committing) :
      Move T L s (.executed result) (.raised e)
        { s.put { committing with status := .draft } with running := none }
  | accepted {result : Except PlanError Value} {committing : DimensionPlan} {json : JsonDict}
      (hrunning : s.running = some committing) :
      Move T L s (.executed result)
        (.returned { committing with status := .committed, commitResult := some json })
        { s.put { committing with status := .committed, commitResult := some json } with
          running := none }

theorem get_eq_ok {s : PlanStore} {planId : String} {plan : DimensionPlan} :
    s.get planId = .ok plan ↔ s.plans.get? planId = some plan := by
  unfold PlanStore.get
  cases s.plans.get? planId <;> simp

theorem create_move (s : PlanStore) (args : CreateArgs) :
    Move T L s (.create args) (create T L s args).1 (create T L s args).2 := by
  have hinvalid : ∀ {e}, newPlan T L s.drawn args = .error e →
      ¬ ∃ candidates, args.Valid T L candidates := by
    rintro e hbad ⟨candidates, hvalid⟩
    obtain ⟨plan, hplan⟩ := newPlan_of_valid hvalid s.drawn
    rw [hbad] at hplan
    cases hplan
  unfold create
  by_cases hfull : L.maxPlans ≤ s.plans.rows.length
  · rw [if_pos hfull]
    rcases hold : s.evictable with _ | old
    · refine .refused (fun _ h => by cases h) ?_
      rintro args' ⟨⟩ ⟨candidates, -, hevict⟩
      exact hevict hfull hold
    · rcases hnew : newPlan T L s.drawn args with e | plan
      · exact .evicted hfull hold (hinvalid hnew)
      · exact .replaced hfull hold (newPlan_ok hnew).1
  · rw [if_neg hfull]
    rcases hnew : newPlan T L s.drawn args with e | plan
    · refine .refused (fun _ h => by cases h) ?_
      rintro args' ⟨⟩ ⟨candidates, hvalid, -⟩
      exact hinvalid hnew ⟨candidates, hvalid⟩
    · exact .created (newPlan_ok hnew).1

theorem revise_move (s : PlanStore) (args : ReviseArgs) :
    Move T L s (.revise args) (revise T L s args).1 (revise T L s args).2 := by
  unfold revise
  rcases hrevised : s.get args.planId >>= (revisedPlan T L · args) with e | updated
  · exact .refused (fun _ h => by cases h) fun _ h => by cases h
  · obtain ⟨plan, hplan, hrevised⟩ := bind_eq_ok.mp hrevised
    obtain ⟨additions, hadd, hupdated⟩ := revisedPlan_ok hrevised
    exact .revised (get_eq_ok.mp hplan) hadd hupdated

theorem discard_move (s : PlanStore) (planId : String) :
    Move T L s (.discard planId) (discard s planId).1 (discard s planId).2 := by
  unfold discard
  rcases hplan : s.get planId with e | plan
  · exact .refused (fun _ h => by cases h) fun _ h => by cases h
  · by_cases hdraft : plan.status = .draft
    · simp only [if_pos hdraft]
      exact .discarded (get_eq_ok.mp hplan) hdraft
    · simp only [if_neg hdraft]
      exact .refused (fun _ h => by cases h) fun _ h => by cases h

theorem commit_move (s : PlanStore) (planId : String) (expected : Option ℤ) :
    Move T L s (.commit planId expected) (commit s planId expected).1
      (commit s planId expected).2 := by
  unfold commit
  rcases hrunning : s.running with _ | committing
  · rcases hplan : s.get planId with e | plan
    · exact .refused (fun _ h => by cases h) fun _ h => by cases h
    · have hget := get_eq_ok.mp hplan
      rcases hfilter : expected.filter (· ≠ (plan.revision : ℤ)) with _ | stale
      · rcases hstatus : plan.status
        · simp only [Option.isSome_none, Bool.false_eq_true, if_false, hfilter, hstatus]
          exact .begun hrunning hget hstatus
        · simp only [Option.isSome_none, Bool.false_eq_true, if_false, hfilter, hstatus]
          exact .refused (fun _ h => by cases h) fun _ h => by cases h
        · simp only [Option.isSome_none, Bool.false_eq_true, if_false, hfilter, hstatus]
          exact .again hget hstatus
      · simp only [Option.isSome_none, Bool.false_eq_true, if_false, hfilter]
        exact .refused (fun _ h => by cases h) fun _ h => by cases h
  · exact .waits

theorem executed_move (s : PlanStore) (result : Except PlanError Value) :
    Move T L s (.executed result) (executed s result).1 (executed s result).2 := by
  unfold executed
  rcases hrunning : s.running with _ | committing
  · exact .idle
  · rcases hresult : result >>= commitResult with e | json
    · exact .failed hrunning
    · exact .accepted hrunning

theorem respond_move (s : PlanStore) (call : Call) :
    Move T L s call (reply T L s call) (step T L s call) := by
  cases call with
  | create args => exact create_move s args
  | revise args => exact revise_move s args
  | discard planId => exact discard_move s planId
  | commit planId expected => exact commit_move s planId expected
  | executed result => exact executed_move s result

end

end AutocadMcp.DimensionPlans
