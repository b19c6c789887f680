import AutocadMcp.Dimension.CommitRollBack

/-!
# When a headless commit is all or nothing

A failure while the plan is drawn is taken back, and so is one of the next call after it; every
later one leaves the drawing half changed. One call raises in a run, or none.
-/

namespace AutocadMcp.HeadlessCommit

open DimensionPlans Eff Script

/-! ## The commit -/

section

variable (R : DxfRuntime) (fails : Operation → Bool) (stagingLayer : String) (plan : DimensionPlan)
  (profile : DimensionProfile)

/-- The commit from the `try` on. -/
def guarded (styleCreated : Bool) : Commit CommitReport := do
  tryCatch (drawAndFinish R fails stagingLayer plan profile) fun e => do
    rollBack R fails stagingLayer styleCreated profile
    throw e
  return ⟨plan.dimensions.length, profile.layer, profile.dimstyle⟩

theorem commitEzdxf_eq : commitEzdxf R fails stagingLayer plan profile = (do
    addStagingLayer R fails stagingLayer
    let styleCreated ← ensureStyle R fails profile.dimstyle
    guarded R fails stagingLayer plan profile styleCreated) := rfl

def clearsExisting : Bool := (getItem plan.target "clear_existing").elim false Json.truthy

variable {R fails stagingLayer plan profile} {created : Option DimStyle} {d d' s : Drawing}

theorem guarded_returned (styleCreated : Bool)
    (h : exec (drawAndFinish R fails stagingLayer plan profile) d = (.ok (), s)) :
    exec (guarded R fails stagingLayer plan profile styleCreated) d =
      (.ok ⟨plan.dimensions.length, profile.layer, profile.dimstyle⟩, s) := by
  rw [guarded, exec_bind, exec_tryCatch, h]
  rfl

theorem guarded_raised (styleCreated : Bool) {e : CommitFailure}
    (h : exec (drawAndFinish R fails stagingLayer plan profile) d = (.error e, s)) :
    ∃ e', exec (guarded R fails stagingLayer plan profile styleCreated) d =
      (.error e', (exec (rollBack R fails stagingLayer styleCreated profile) s).2) := by
  rw [guarded, exec_bind, exec_tryCatch, h]
  dsimp only
  rw [exec_bind]
  rcases exec (rollBack R fails stagingLayer styleCreated profile) s with ⟨⟨e'⟩ | ⟨u⟩, t⟩
  · exact ⟨e', rfl⟩
  · exact ⟨e, rfl⟩

/-- The bodies do not depend on the layer. -/
theorem itemBodies_layer (layer : String) (item : PlannedDimension) :
    itemBodies R { profile with layer := layer } item = itemBodies R profile item := rfl

theorem plannedBodies_layer (layer : String) (items : List PlannedDimension) :
    plannedBodies R { profile with layer := layer } items = plannedBodies R profile items := by
  induction items with
  | nil => rfl
  | cons item rest ih => rw [plannedBodies, plannedBodies, itemBodies_layer, ih]

theorem isStaged_of_extends (hprep : Prepared R stagingLayer profile.dimstyle created d d')
    {bodies : List EntityBody}
    (h : d'.Extends s (entitiesFrom stagingLayer d.nextHandle bodies)) :
    IsStaged stagingLayer d s (entitiesFrom stagingLayer d.nextHandle bodies) where
  layer _ he := (mem_entitiesFrom he).1
  new _ he := (mem_entitiesFrom he).2
  rows := by rw [h.rows, hprep.rows]
  layers := by rw [h.layers, hprep.layers]

variable (fails plan) in
/-- The calls of the `try`: those that draw, and where all of the plan was drawn the others. -/
theorem drawAndFinish_plays (hfresh : FreshLayer R profile stagingLayer d)
    (hprep : Prepared R stagingLayer profile.dimstyle created d d') :
    ∃ us, (∀ u ∈ us, ∃ index step, u.1 = .draw index step) ∧
      (∀ u ∈ us, ∀ s, Grown stagingLayer d' s → Grown stagingLayer d' (u.2 s)) ∧
      d'.Extends (applyAll us d')
        (entitiesFrom stagingLayer d.nextHandle (plannedBodies R profile plan.dimensions).1) ∧
      if (plannedBodies R profile plan.dimensions).2 then
        Plays fails (drawAndFinish R fails stagingLayer plan profile) d'
          (us ++ finishUpdates R stagingLayer (clearsExisting plan) profile d
            (entitiesFrom stagingLayer d.nextHandle (plannedBodies R profile plan.dimensions).1))
          (some ())
      else Plays fails (drawAndFinish R fails stagingLayer plan profile) d' us none := by
  obtain ⟨us, r, hus, hr⟩ :=
    stage_draws R fails { profile with layer := stagingLayer } d' 0 plan.dimensions
  rw [plannedBodies_layer] at hus hr
  have hextends := hus.extends_all
  rw [hprep.next] at hextends
  refine ⟨us, hus.labels, fun u hu s hs => hus.grows u hu d' s le_rfl hs, hextends, ?_⟩
  split
  · next hdrawn =>
      obtain rfl := hr.mpr hdrawn
      exact hus.plays.bind (finish_plays hfresh (isStaged_of_extends hprep hextends) _)
  · next hdrawn =>
      rcases r with _ | _
      · exact hus.plays.bind_none
      · exact absurd (hr.mp rfl) hdrawn

end

/-! ## The law -/

/-- One call raises, or none. -/
def raisesAt (failing : Option Operation) (operation : Operation) : Bool :=
  decide (failing = some operation)

section

variable (R : DxfRuntime) (stagingLayer : String) (plan : DimensionPlan)
  (profile : DimensionProfile) (d : Drawing)

/-- All that was planned is on the profile layer, or nothing has changed. -/
def AllOrNothing : Except CommitFailure CommitReport × Drawing → Prop
  | (.ok _, d') => (plannedBodies R profile plan.dimensions).2 = true ∧
      entitiesFrom profile.layer d.nextHandle (plannedBodies R profile plan.dimensions).1 <:+
        d'.entities.rows
  | (.error _, d') => AsBefore d d'

/-- The entities that the plan adds on the staging layer. -/
def stagedEntities : List DxfEntity :=
  entitiesFrom stagingLayer d.nextHandle (plannedBodies R profile plan.dimensions).1

/-- The calls after the staging. -/
def finishOperations : List Operation :=
  (finishUpdates R stagingLayer (clearsExisting plan) profile d
    (stagedEntities R stagingLayer plan profile d)).map Prod.fst

/-- The calls of the handler, where all that can be drawn was drawn. -/
def handlerOperations : List Operation :=
  (handlerUpdates R stagingLayer (d.findStyle R profile.dimstyle).isNone profile.dimstyle
    (stagedEntities R stagingLayer plan profile d)).map Prod.fst

/-- The style is there, or there is one to copy and that does not fail. -/
def StyleReady (failing : Option Operation) : Prop :=
  (d.findStyle R profile.dimstyle).isSome = true ∨
    (d.findStyle R "Standard").isSome = true ∧ failing ≠ some .duplicateStyle

/-- Once the plan was drawn no call but the next fails; where it cannot be drawn, none of the
handler does. -/
def FinishesCleanly (failing : Option Operation) : Prop :=
  if (plannedBodies R profile plan.dimensions).2 then
    failing = (finishOperations R stagingLayer plan profile d).head? ∨
      ∀ operation ∈ finishOperations R stagingLayer plan profile d, failing ≠ some operation
  else ∀ operation ∈ handlerOperations R stagingLayer plan profile d, failing ≠ some operation

def CommitsCleanly (failing : Option Operation) : Prop :=
  failing = some .addStagingLayer ∨
    StyleReady R profile d failing ∧ FinishesCleanly R stagingLayer plan profile d failing

variable {R stagingLayer plan profile d} {d' s : Drawing} {created : Option DimStyle}
  {failing : Option Operation}

theorem mem_rollBackUpdates {styleCreated : Bool} {dimstyle : String}
    {v : Update Operation Drawing}
    (hv : v ∈ rollBackUpdates R stagingLayer styleCreated dimstyle s) :
    v ∈ handlerUpdates R stagingLayer styleCreated dimstyle (s.onLayer stagingLayer) := by
  refine List.mem_append.mpr ((List.mem_append.mp hv).imp_right fun hv => ?_)
  refine List.mem_append.mpr ((List.mem_append.mp hv).imp (fun hv => ?_) fun hv => ?_)
  · split at hv
    · exact hv
    · cases hv
  · split at hv
    · next hstyle =>
        rw [if_pos (Bool.and_eq_true_iff.mp hstyle).1]
        exact hv
    · cases hv

theorem not_raised_iff {updates : List (Update Operation Drawing)} :
    (∀ u ∈ updates, raisesAt failing u.1 = false) ↔
      ∀ operation ∈ updates.map Prod.fst, failing ≠ some operation := by
  simp [raisesAt]

theorem failing_of_raised {operation : Operation} (h : raisesAt failing operation = true) :
    failing = some operation := of_decide_eq_true h

/-- Only one call raises, so no call with another name does. -/
theorem ne_of_raised {u v : Update Operation Drawing} (hu : raisesAt failing u.1 = true)
    (hv : raisesAt failing v.1 = false) : v.1 ≠ u.1 := by
  intro hsame
  rw [hsame, hu] at hv
  cases hv

theorem finishCall_not_handler {staged es : List DxfEntity} {u v : Update Operation Drawing}
    {styleCreated : Bool} {dimstyle : String} (hu : FinishCall R stagingLayer profile d staged u)
    (hv : v ∈ handlerUpdates R stagingLayer styleCreated dimstyle es) : v.1 ≠ u.1 := by
  rcases mem_handlerUpdates hv with ⟨e, -, rfl⟩ | rfl | ⟨-, rfl⟩ <;> cases hu <;> nofun

theorem draw_not_handler {es : List DxfEntity} {v : Update Operation Drawing} {styleCreated : Bool}
    {dimstyle : String} (index step : ℕ)
    (hv : v ∈ handlerUpdates R stagingLayer styleCreated dimstyle es) :
    v.1 ≠ .draw index step := by
  rcases mem_handlerUpdates hv with ⟨e, -, rfl⟩ | rfl | ⟨-, rfl⟩ <;> nofun

theorem draw_not_finish {staged : List DxfEntity} {u : Update Operation Drawing} (index step : ℕ)
    (hu : FinishCall R stagingLayer profile d staged u) : u.1 ≠ .draw index step := by
  cases hu <;> nofun

/-- A handler none of whose calls fails leaves what its calls leave. -/
theorem rollBack_state {fails : Operation → Bool} {styleCreated : Bool}
    (hrolled : ∀ u ∈ rollBackUpdates R stagingLayer styleCreated profile.dimstyle s,
      fails u.1 = false) :
    (exec (rollBack R fails stagingLayer styleCreated profile) s).2 =
      applyAll (rollBackUpdates R stagingLayer styleCreated profile.dimstyle s) s := by
  rw [(rollBack_plays styleCreated s).returned hrolled () rfl]

/-- A failure before anything but the staging layer was touched is taken back. -/
theorem taken_back (hfresh : FreshLayer R profile stagingLayer d)
    (hprep : Prepared R stagingLayer profile.dimstyle created d d')
    (hgrown : Grown stagingLayer d' s)
    {e : CommitFailure}
    (hraised : exec (drawAndFinish R (raisesAt failing) stagingLayer plan profile) d' =
      (.error e, s))
    (hhandler : ∀ es, ∀ u ∈ handlerUpdates R stagingLayer created.isSome profile.dimstyle es,
      failing ≠ some u.1) :
    AllOrNothing R plan profile d
      (exec (guarded R (raisesAt failing) stagingLayer plan profile created.isSome) d') := by
  obtain ⟨e', he'⟩ := guarded_raised created.isSome hraised
  rw [he']
  rw [rollBack_state fun u hu => decide_eq_false (hhandler _ u (mem_rollBackUpdates hu))]
  exact rollBack_restores hfresh hprep hgrown

theorem grown_of_extends (hprep : Prepared R stagingLayer profile.dimstyle created d d')
    (h : d'.Extends s (stagedEntities R stagingLayer plan profile d)) :
    Grown stagingLayer d' s := by
  refine ⟨stagedEntities R stagingLayer plan profile d, fun e he => ?_, h.rows, ?_, h.layers,
    h.dimstyles⟩
  · rw [hprep.next]
    exact mem_entitiesFrom he
  · rw [h.next]
    exact Nat.le_add_right _ _

/-- A plan of which a part cannot be drawn. -/
theorem undrawn_iff (hfresh : FreshLayer R profile stagingLayer d)
    (hprep : Prepared R stagingLayer profile.dimstyle created d d')
    (hcreated : created.isSome = (d.findStyle R profile.dimstyle).isNone)
    (hextends : d'.Extends s (stagedEntities R stagingLayer plan profile d)) {e : CommitFailure}
    (hraised : exec (drawAndFinish R (raisesAt failing) stagingLayer plan profile) d' =
      (.error e, s)) :
    AllOrNothing R plan profile d
        (exec (guarded R (raisesAt failing) stagingLayer plan profile created.isSome) d') ↔
      ∀ operation ∈ handlerOperations R stagingLayer plan profile d, failing ≠ some operation := by
  have hlayer : ∀ e ∈ stagedEntities R stagingLayer plan profile d,
      e.layer = stagingLayer ∧ d'.nextHandle ≤ e.handle := by
    intro e he
    rw [hprep.next]
    exact mem_entitiesFrom he
  have hcalls := rollBackUpdates_grown hfresh hprep (fun e he => (hlayer e he).1) hextends.rows
    hextends.layers hextends.dimstyles
  obtain ⟨e', he'⟩ := guarded_raised created.isSome hraised
  rw [he', handlerOperations, ← hcreated, ← hcalls, ← not_raised_iff]
  rcases all_or_first (raisesAt failing)
      (rollBackUpdates R stagingLayer created.isSome profile.dimstyle s) with
    hall | ⟨before, u, later, hsplit, hbefore, hu⟩
  · refine iff_of_true ?_ hall
    rw [rollBack_state hall]
    exact rollBack_restores hfresh hprep (grown_of_extends hprep hextends)
  · refine iff_of_false ?_ fun hall => ?_
    · obtain ⟨e'', he''⟩ :=
        (rollBack_plays created.isSome s).raised before u later hsplit hbefore hu
      rw [he'']
      exact rollBack_leaves hfresh hprep hlayer hextends.rows hextends.layers hextends.dimstyles
        hsplit fun v hv => ne_of_raised hu (hbefore v hv)
    · have hnot := hall u (hsplit ▸ List.mem_append_right before List.mem_cons_self)
      rw [hu] at hnot
      cases hnot

/-- A plan that was drawn. -/
theorem drawn_iff (hfresh : FreshLayer R profile stagingLayer d)
    (hprep : Prepared R stagingLayer profile.dimstyle created d d')
    (hdrawn : (plannedBodies R profile plan.dimensions).2 = true)
    {us : List (Update Operation Drawing)} (hus : ∀ u ∈ us, raisesAt failing u.1 = false)
    (hextends : d'.Extends (applyAll us d') (stagedEntities R stagingLayer plan profile d))
    (hplays : Plays (raisesAt failing) (drawAndFinish R (raisesAt failing) stagingLayer plan profile)
      d' (us ++ finishUpdates R stagingLayer (clearsExisting plan) profile d
        (stagedEntities R stagingLayer plan profile d)) (some ())) :
    AllOrNothing R plan profile d
        (exec (guarded R (raisesAt failing) stagingLayer plan profile created.isSome) d') ↔
      failing = (finishOperations R stagingLayer plan profile d).head? ∨
        ∀ operation ∈ finishOperations R stagingLayer plan profile d, failing ≠ some operation := by
  have hstaged := isStaged_of_extends hprep hextends
  rw [finishOperations, ← not_raised_iff]
  rcases all_or_first (raisesAt failing) (finishUpdates R stagingLayer (clearsExisting plan) profile d
      (stagedEntities R stagingLayer plan profile d)) with
    hall | ⟨before, u, later, hsplit, hbefore, hu⟩
  · refine iff_of_true ?_ (Or.inr hall)
    have hok := hplays.returned (fun u hu => (List.mem_append.mp hu).elim (hus u) (hall u)) () rfl
    rw [guarded_returned created.isSome hok, applyAll_append]
    exact ⟨hdrawn, finishUpdates_moves hstaged⟩
  have hcall : FinishCall R stagingLayer profile d (stagedEntities R stagingLayer plan profile d) u :=
    finishCall_of_mem (hsplit ▸ List.mem_append_right before List.mem_cons_self)
  have hhandler : ∀ es, ∀ v ∈ handlerUpdates R stagingLayer created.isSome profile.dimstyle es,
      failing ≠ some v.1 := by
    intro es v hv hfail
    rw [failing_of_raised hu] at hfail
    exact finishCall_not_handler hcall hv (Option.some.inj hfail).symm
  obtain ⟨e, he⟩ := hplays.raised (us ++ before) u later
    (by rw [hsplit, List.append_assoc])
    (fun v hv => (List.mem_append.mp hv).elim (hus v) (hbefore v)) hu
  rw [applyAll_append] at he
  rcases before with _ | ⟨w, before⟩
  · -- nothing but the staging layer was touched
    refine iff_of_true ?_ (Or.inl ?_)
    · exact taken_back hfresh hprep (grown_of_extends hprep hextends) he hhandler
    · rw [hsplit]
      exact failing_of_raised hu
  · refine iff_of_false ?_ ?_
    · obtain ⟨e', he'⟩ := guarded_raised created.isSome he
      rw [he', rollBack_state fun v hv => decide_eq_false (hhandler _ v (mem_rollBackUpdates hv))]
      exact ((spoiled_run hfresh hstaged hsplit).rollBack hfresh _ _).not_asBefore
    · rintro (hfirst | hall)
      · rw [hsplit, List.cons_append, List.map_cons, List.head?_cons] at hfirst
        have hw := hbefore w List.mem_cons_self
        rw [raisesAt, hfirst] at hw
        exact absurd rfl (of_decide_eq_false hw)
      · have hnot := hall u (hsplit ▸ List.mem_append_right _ List.mem_cons_self)
        rw [hu] at hnot
        cases hnot

/-- From the `try` on. -/
theorem guarded_iff (hfresh : FreshLayer R profile stagingLayer d)
    (hprep : Prepared R stagingLayer profile.dimstyle created d d')
    (hcreated : created.isSome = (d.findStyle R profile.dimstyle).isNone) :
    AllOrNothing R plan profile d
        (exec (guarded R (raisesAt failing) stagingLayer plan profile created.isSome) d') ↔
      FinishesCleanly R stagingLayer plan profile d failing := by
  obtain ⟨us, hlabels, hgrows, hextends, hplays⟩ :=
    drawAndFinish_plays (raisesAt failing) plan hfresh hprep
  unfold FinishesCleanly
  rcases all_or_first (raisesAt failing) us with hus | ⟨before, u, later, hsplit, hbefore, hu⟩
  · by_cases hdrawn : (plannedBodies R profile plan.dimensions).2 = true
    · rw [if_pos hdrawn] at hplays ⊢
      exact drawn_iff hfresh hprep hdrawn hus hextends hplays
    · rw [if_neg hdrawn] at hplays ⊢
      obtain ⟨e, he⟩ := hplays.stopped hus rfl
      exact undrawn_iff hfresh hprep hcreated hextends he
  · -- a call that draws fails
    obtain ⟨index, step, hlabel⟩ :=
      hlabels u (hsplit ▸ List.mem_append_right before List.mem_cons_self)
    have hfailing := failing_of_raised hu
    rw [hlabel] at hfailing
    have hgrown : Grown stagingLayer d' (applyAll before d') := by
      refine applyAll_keeps (P := fun s : Drawing => Grown stagingLayer d' s) ?_ (.refl _ d')
      intro v hv s hs
      exact hgrows v (hsplit ▸ List.mem_append_left _ hv) s hs
    have hraised : ∃ e, exec (drawAndFinish R (raisesAt failing) stagingLayer plan profile) d' =
        (.error e, applyAll before d') := by
      split at hplays
      · exact hplays.raised before u (later ++ _) (by rw [hsplit, List.append_assoc]; rfl) hbefore hu
      · exact hplays.raised before u later hsplit hbefore hu
    obtain ⟨e, he⟩ := hraised
    refine iff_of_true (taken_back hfresh hprep hgrown he ?_) ?_
    · intro es v hv hfail
      exact draw_not_handler index step hv (Option.some.inj (hfail.symm.trans hfailing))
    · split
      · right
        intro operation hoperation hfail
        obtain ⟨v, hv, rfl⟩ := List.mem_map.mp hoperation
        exact draw_not_finish index step (finishCall_of_mem hv)
          (Option.some.inj (hfail.symm.trans hfailing))
      · intro operation hoperation hfail
        obtain ⟨v, hv, rfl⟩ := List.mem_map.mp hoperation
        exact draw_not_handler index step hv (Option.some.inj (hfail.symm.trans hfailing))

theorem exec_addStagingLayer {fails : Operation → Bool}
    (hfresh : FreshLayer R profile stagingLayer d) :
    exec (addStagingLayer R fails stagingLayer) d =
      if fails .addStagingLayer then (.error (.ezdxf .addStagingLayer), d)
      else (.ok (), d.addLayer stagingLayer 2) := by
  have hnot : d.hasLayer R stagingLayer = false := by
    rw [Drawing.hasLayer, List.any_eq_false]
    intro l hl
    rw [decide_eq_true_eq]
    exact hfresh.unnamed l hl
  have hget : exec (addStagingLayer R fails stagingLayer) d =
      exec (if d.hasLayer R stagingLayer then throw (.tableEntry stagingLayer)
        else call fails .addStagingLayer (·.addLayer stagingLayer 2)) d := by
    rw [addStagingLayer, exec_bind]
    rfl
  rw [hget, hnot]
  rfl

theorem exec_duplicateStyle (fails : Operation → Bool) (dimstyle : String) :
    exec (duplicateStyle R fails dimstyle) d =
      match d.findStyle R "Standard" with
      | none => (.error (.tableEntry "Standard"), d)
      | some standard =>
          if fails .duplicateStyle then (.error (.ezdxf .duplicateStyle), d)
          else (.ok (), d.addStyle { standard with name := dimstyle }) := by
  rw [duplicateStyle, exec_bind]
  change exec (match d.findStyle R "Standard" with
    | none => throw (.tableEntry "Standard")
    | some standard =>
        call fails .duplicateStyle (·.addStyle { standard with name := dimstyle })) d = _
  cases d.findStyle R "Standard" <;> rfl

theorem exec_ensureStyle_there (fails : Operation → Bool) {dimstyle : String}
    (h : (d.findStyle R dimstyle).isSome = true) :
    exec (ensureStyle R fails dimstyle) d = (.ok false, d) := by
  rw [ensureStyle, exec_bind]
  change exec (if (d.findStyle R dimstyle).isSome then return false
    else do
      duplicateStyle R fails dimstyle
      return true) d = _
  rw [if_pos h]
  rfl

theorem exec_ensureStyle_missing (fails : Operation → Bool) {dimstyle : String}
    (h : d.findStyle R dimstyle = none) :
    exec (ensureStyle R fails dimstyle) d =
      match exec (duplicateStyle R fails dimstyle) d with
      | (.ok _, d') => (.ok true, d')
      | (.error e, d') => (.error e, d') := by
  rw [ensureStyle, exec_bind]
  change exec (if (d.findStyle R dimstyle).isSome then return false
    else do
      duplicateStyle R fails dimstyle
      return true) d = _
  rw [h, Option.isSome_none, if_neg Bool.false_ne_true, exec_bind]
  rcases exec (duplicateStyle R fails dimstyle) d with ⟨⟨e⟩ | ⟨u⟩, t⟩ <;> rfl

theorem findStyle_none {name : String} (h : d.findStyle R name = none) :
    ∀ old ∈ d.dimstyles, R.key old.name ≠ R.key name := by
  intro old hold
  simpa using List.find?_eq_none.mp h old hold

variable (stagingLayer) in
theorem ensureStyle_ready (hready : StyleReady R profile d failing) :
    ∃ created d', exec (ensureStyle R (raisesAt failing) profile.dimstyle)
        (d.addLayer stagingLayer 2) = (.ok created.isSome, d') ∧
      Prepared R stagingLayer profile.dimstyle created d d' ∧
        created.isSome = (d.findStyle R profile.dimstyle).isNone := by
  rcases hstyle : d.findStyle R profile.dimstyle with _ | style
  · rcases hready with hsome | ⟨hstandard, hfail⟩
    · rw [hstyle] at hsome
      cases hsome
    obtain ⟨standard, hfound⟩ := Option.isSome_iff_exists.mp hstandard
    have hfound' : (d.addLayer stagingLayer 2).findStyle R "Standard" = some standard := hfound
    refine ⟨some { standard with name := profile.dimstyle },
      (d.addLayer stagingLayer 2).addStyle { standard with name := profile.dimstyle }, ?_, ?_, rfl⟩
    · have hmissing : (d.addLayer stagingLayer 2).findStyle R profile.dimstyle = none := hstyle
      rw [exec_ensureStyle_missing _ hmissing, exec_duplicateStyle, hfound']
      dsimp only
      rw [raisesAt, decide_eq_false hfail, if_neg Bool.false_ne_true]
      rfl
    · refine ⟨rfl, rfl, rfl, rfl, ?_⟩
      rintro _ ⟨⟩
      exact ⟨rfl, findStyle_none hstyle⟩
  · have hthere : ((d.addLayer stagingLayer 2).findStyle R profile.dimstyle).isSome = true := by
      change (d.findStyle R profile.dimstyle).isSome = true
      rw [hstyle]
      rfl
    refine ⟨none, d.addLayer stagingLayer 2, exec_ensureStyle_there _ hthere, ?_, rfl⟩
    exact ⟨rfl, rfl, rfl, (List.append_nil _).symm, nofun⟩

variable (stagingLayer) in
theorem ensureStyle_stopped (hready : ¬ StyleReady R profile d failing) :
    ∃ e, exec (ensureStyle R (raisesAt failing) profile.dimstyle) (d.addLayer stagingLayer 2) =
      (.error e, d.addLayer stagingLayer 2) := by
  rcases hstyle : d.findStyle R profile.dimstyle with _ | style
  · have hmissing : (d.addLayer stagingLayer 2).findStyle R profile.dimstyle = none := hstyle
    rw [exec_ensureStyle_missing _ hmissing, exec_duplicateStyle]
    rcases hstandard : d.findStyle R "Standard" with _ | standard
    · have hnone : (d.addLayer stagingLayer 2).findStyle R "Standard" = none := hstandard
      exact ⟨.tableEntry "Standard", by rw [hnone]⟩
    · have hsome : (d.addLayer stagingLayer 2).findStyle R "Standard" = some standard := hstandard
      have hfail : failing = some .duplicateStyle := by
        by_contra hne
        exact hready (Or.inr ⟨by rw [hstandard]; rfl, hne⟩)
      refine ⟨.ezdxf .duplicateStyle, ?_⟩
      rw [hsome]
      dsimp only
      rw [raisesAt, decide_eq_true hfail, if_pos rfl]
  · exact absurd (Or.inl (by rw [hstyle]; rfl)) hready

/-- The commit is all or nothing exactly when it fails in one of the places that are covered. -/
theorem all_or_nothing_iff (hfresh : FreshLayer R profile stagingLayer d)
    (failing : Option Operation) :
    AllOrNothing R plan profile d
        (exec (commitEzdxf R (raisesAt failing) stagingLayer plan profile) d) ↔
      CommitsCleanly R stagingLayer plan profile d failing := by
  rw [commitEzdxf_eq, exec_bind, exec_addStagingLayer hfresh]
  unfold CommitsCleanly
  by_cases hstaging : failing = some .addStagingLayer
  · rw [raisesAt, decide_eq_true hstaging, if_pos rfl]
    exact iff_of_true (AsBefore.refl d) (Or.inl hstaging)
  rw [raisesAt, decide_eq_false hstaging, if_neg Bool.false_ne_true]
  dsimp only
  rw [or_iff_right hstaging, exec_bind]
  by_cases hready : StyleReady R profile d failing
  · obtain ⟨created, d', hexec, hprep, hcreated⟩ :=
      ensureStyle_ready stagingLayer hready
    rw [hexec, and_iff_right hready]
    exact guarded_iff hfresh hprep hcreated
  · obtain ⟨e, he⟩ := ensureStyle_stopped stagingLayer hready
    rw [he]
    refine iff_of_false ?_ fun h => hready h.1
    -- the staging layer stays
    intro hsame
    have hlength := congrArg List.length hsame.layers
    simp [Drawing.addLayer] at hlength

end

/-! ## A render that fails -/

section

def plainNames : DxfRuntime := ⟨id, fun _ => none⟩

def dimProfile : DimensionProfile :=
  ⟨"DIM", "Standard", 2, 2, 2, 1, "none", 0, 0⟩

theorem no_entities_below : ∀ e ∈ (Table.empty : Table DxfEntity.handle).rows, e.handle < 0 :=
  fun _ h => (List.not_mem_nil h).elim

/-- A drawing with one dimension on the profile layer. -/
def dimensioned : Drawing :=
  Drawing.addEntity ⟨.empty, 0, no_entities_below, [⟨"0", 7⟩, ⟨"DIM", 2⟩], [⟨"Standard", .null⟩]⟩
    "DIMENSION" "DIM" (.other .null)

/-- A radius in place of what is there. -/
def radiusPlan : DimensionPlan where
  planId := "plan"
  profileName := "default"
  target := [("clear_existing", .bool true)]
  dimensions := [⟨"D1", "radius", [("center", .arr [.num 0, .num 0]), ("point", .arr [.num 1, .num 0])],
    [], none, []⟩]
  createdAt := "2024-01-01T00:00:00Z"

theorem dimensioned_fresh : FreshLayer plainNames dimProfile "__MCP_DIM_STAGE_0" dimensioned := by
  refine ⟨?_, ?_, ?_⟩
  · intro e he
    rw [List.mem_singleton.mp he]
    decide
  · intro l hl
    rcases List.mem_pair.mp hl with rfl | rfl <;> decide
  · decide

theorem commits_undisturbed : AllOrNothing plainNames radiusPlan dimProfile dimensioned
    (exec (commitEzdxf plainNames (raisesAt none) "__MCP_DIM_STAGE_0" radiusPlan dimProfile)
      dimensioned) := by
  refine (all_or_nothing_iff dimensioned_fresh none).mpr (Or.inr ⟨Or.inl rfl, ?_⟩)
  unfold FinishesCleanly
  split
  · exact Or.inr fun _ _ => nofun
  · exact fun _ _ => nofun

/-- The old dimension is gone, and the new one is on the profile layer. -/
theorem failed_render_leaves_changes :
    FreshLayer plainNames dimProfile "__MCP_DIM_STAGE_0" dimensioned ∧
      ¬ AllOrNothing plainNames radiusPlan dimProfile dimensioned
        (exec (commitEzdxf plainNames (raisesAt (some (.rerender 1))) "__MCP_DIM_STAGE_0" radiusPlan
          dimProfile) dimensioned) := by
  refine ⟨dimensioned_fresh, fun h => ?_⟩
  have hraised : (exec (commitEzdxf plainNames (raisesAt (some (.rerender 1))) "__MCP_DIM_STAGE_0"
      radiusPlan dimProfile) dimensioned).1.isOk = false := by decide
  have hhandles : (exec (commitEzdxf plainNames (raisesAt (some (.rerender 1))) "__MCP_DIM_STAGE_0"
      radiusPlan dimProfile) dimensioned).2.entities.rows.map DxfEntity.handle = [1] := by decide
  generalize exec (commitEzdxf plainNames (raisesAt (some (.rerender 1))) "__MCP_DIM_STAGE_0"
    radiusPlan dimProfile) dimensioned = outcome at h hraised hhandles
  rcases outcome with ⟨⟨e⟩ | ⟨r⟩, t⟩
  · have hrows : t.entities.rows = dimensioned.entities.rows := h.rows
    change t.entities.rows.map DxfEntity.handle = [1] at hhandles
    rw [hrows] at hhandles
    cases hhandles
  · cases hraised

end

end AutocadMcp.HeadlessCommit
