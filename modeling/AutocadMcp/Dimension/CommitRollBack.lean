import AutocadMcp.Dimension.CommitScript

/-!
# What the handler of a headless commit takes back

The handler deletes what is on the staging layer, so it takes back whatever was drawn there. From
the second call after the staging on, the drawing has been changed where the handler does not look:
a new profile layer, a dimension that was cleared, an entity that was moved.
-/

namespace AutocadMcp.HeadlessCommit

open DimensionPlans Eff Script

/-! ## Rolling back -/

/-- The entities, the layers and the dimension styles are those of before. -/
structure AsBefore (d d' : Drawing) : Prop where
  rows : d'.entities.rows = d.entities.rows
  layers : d'.layers = d.layers
  dimstyles : d'.dimstyles = d.dimstyles

theorem AsBefore.refl (d : Drawing) : AsBefore d d := ⟨rfl, rfl, rfl⟩

/-- The drawing at the start of the staging, with the new style if there is one. -/
structure Prepared (R : DxfRuntime) (stagingLayer dimstyle : String) (created : Option DimStyle)
    (d d' : Drawing) : Prop where
  rows : d'.entities.rows = d.entities.rows
  next : d'.nextHandle = d.nextHandle
  layers : d'.layers = d.layers ++ [⟨stagingLayer, 2⟩]
  dimstyles : d'.dimstyles = d.dimstyles ++ created.toList
  named : ∀ style ∈ created, style.name = dimstyle ∧
    ∀ old ∈ d.dimstyles, R.key old.name ≠ R.key dimstyle

section

variable {R : DxfRuntime} {fails : Operation → Bool} {profile : DimensionProfile}
  {stagingLayer : String} {created : Option DimStyle} {d d' d'' : Drawing}

theorem rollBack_plays (styleCreated : Bool) (d : Drawing) :
    Plays fails (rollBack R fails stagingLayer styleCreated profile) d
      (rollBackUpdates R stagingLayer styleCreated profile.dimstyle d) (some ()) := by
  have hdiscard : Plays fails (discardStaged fails stagingLayer) d
      (deleteUpdates .discard (d.onLayer stagingLayer)) (some ()) :=
    Plays.get_bind (deleteAll_plays _ _ d)
  refine hdiscard.bind ?_
  obtain ⟨-, hlayers, hstyles⟩ := applyAll_deleteUpdates .discard (d.onLayer stagingLayer) d
  generalize applyAll (deleteUpdates .discard (d.onLayer stagingLayer)) d = e at hlayers hstyles
  have hlayer : Plays fails (discardStagingLayer R fails stagingLayer) e
      (if d.hasLayer R stagingLayer then
        [(.discardStagingLayer, (·.removeLayer R stagingLayer))] else []) (some ()) := by
    refine Plays.get_bind ?_
    have hsame : e.hasLayer R stagingLayer = d.hasLayer R stagingLayer := by
      rw [Drawing.hasLayer, Drawing.hasLayer, hlayers]
    rw [hsame]
    by_cases hthere : d.hasLayer R stagingLayer = true
    · simp only [if_pos hthere]
      exact plays_perform _ _ e
    · simp only [if_neg hthere]
      exact plays_pure () e
  refine hlayer.bind ?_
  have hkept : (applyAll (if d.hasLayer R stagingLayer then
      [(Operation.discardStagingLayer, (·.removeLayer R stagingLayer))] else []) e).dimstyles =
      d.dimstyles := by
    rw [← hstyles]
    split <;> rfl
  generalize applyAll (if d.hasLayer R stagingLayer then
    [(Operation.discardStagingLayer, (·.removeLayer R stagingLayer))] else []) e = f at hkept
  refine Plays.get_bind ?_
  have hsame : f.findStyle R profile.dimstyle = d.findStyle R profile.dimstyle := by
    rw [Drawing.findStyle, Drawing.findStyle, hkept]
  rw [hsame]
  by_cases hthere : (styleCreated && (d.findStyle R profile.dimstyle).isSome) = true
  · simp only [if_pos hthere]
    exact plays_perform _ _ f
  · simp only [if_neg hthere]
    exact plays_pure () f

/-- The entities on the staging layer are those that were drawn. -/
theorem onLayer_staging (hfresh : FreshLayer R profile stagingLayer d) {es : List DxfEntity}
    (hes : ∀ e ∈ es, e.layer = stagingLayer) (hrows : d'.entities.rows = d.entities.rows ++ es) :
    d'.onLayer stagingLayer = es := by
  have hnone : d.onLayer stagingLayer = [] := by
    rw [Drawing.onLayer, List.filter_eq_nil_iff]
    intro e he
    rw [decide_eq_true_eq]
    exact hfresh.unused e he
  have hall : (es.filter fun e => e.layer = stagingLayer) = es := by
    rw [List.filter_eq_self]
    intro e he
    rw [decide_eq_true_eq]
    exact hes e he
  rw [Drawing.onLayer_append hrows, hnone, hall, List.nil_append]

theorem Prepared.hasLayer (hprep : Prepared R stagingLayer profile.dimstyle created d d')
    (hlayers : d''.layers = d'.layers) : d''.hasLayer R stagingLayer = true := by
  rw [Drawing.hasLayer, hlayers, hprep.layers, List.any_append]
  simp

theorem Prepared.findStyle (hprep : Prepared R stagingLayer profile.dimstyle created d d')
    (hstyles : d''.dimstyles = d'.dimstyles) :
    (created.isSome && (d''.findStyle R profile.dimstyle).isSome) = created.isSome := by
  rcases created with _ | style
  · rfl
  · rw [Option.isSome_some, Bool.true_and, Drawing.findStyle, hstyles, hprep.dimstyles,
      List.find?_isSome]
    refine ⟨style, List.mem_append_right _ (List.mem_singleton_self style), ?_⟩
    rw [(hprep.named style rfl).1]
    exact decide_eq_true rfl

/-- The calls of the handler, where these entities are on the staging layer. -/
def handlerUpdates (R : DxfRuntime) (stagingLayer : String) (styleCreated : Bool)
    (dimstyle : String) (es : List DxfEntity) : List (Update Operation Drawing) :=
  deleteUpdates .discard es ++ ([(.discardStagingLayer, (·.removeLayer R stagingLayer))] ++
    if styleCreated then [(.discardStyle, (·.removeStyle R dimstyle))] else [])

theorem rollBackUpdates_grown (hfresh : FreshLayer R profile stagingLayer d)
    (hprep : Prepared R stagingLayer profile.dimstyle created d d') {es : List DxfEntity}
    (hes : ∀ e ∈ es, e.layer = stagingLayer) (hrows : d''.entities.rows = d'.entities.rows ++ es)
    (hlayers : d''.layers = d'.layers) (hstyles : d''.dimstyles = d'.dimstyles) :
    rollBackUpdates R stagingLayer created.isSome profile.dimstyle d'' =
      handlerUpdates R stagingLayer created.isSome profile.dimstyle es := by
  have hlist : d''.onLayer stagingLayer = es :=
    onLayer_staging hfresh hes (by rw [hrows, hprep.rows])
  rw [rollBackUpdates, handlerUpdates, hlist, hprep.hasLayer hlayers, if_pos rfl, hprep.findStyle hstyles]

theorem removeLayer_last (hfresh : FreshLayer R profile stagingLayer d)
    (hlayers : d'.layers = d.layers ++ [⟨stagingLayer, 2⟩]) :
    (d'.removeLayer R stagingLayer).layers = d.layers := by
  change d'.layers.filter _ = _
  rw [hlayers, List.filter_append]
  have hkeep : d.layers.filter (fun l => R.key l.name ≠ R.key stagingLayer) = d.layers := by
    rw [List.filter_eq_self]
    intro l hl
    rw [decide_eq_true_eq]
    exact hfresh.unnamed l hl
  rw [hkeep]
  simp

theorem removeStyle_last {style : DimStyle} {dimstyle : String} (hname : style.name = dimstyle)
    (hold : ∀ old ∈ d.dimstyles, R.key old.name ≠ R.key dimstyle)
    (hstyles : d'.dimstyles = d.dimstyles ++ [style]) :
    (d'.removeStyle R dimstyle).dimstyles = d.dimstyles := by
  change d'.dimstyles.filter _ = _
  rw [hstyles, List.filter_append]
  have hkeep : d.dimstyles.filter (fun s => R.key s.name ≠ R.key dimstyle) = d.dimstyles := by
    rw [List.filter_eq_self]
    intro s hs
    rw [decide_eq_true_eq]
    exact hold s hs
  rw [hkeep]
  simp [hname]

/-- The handler takes back what was drawn on the staging layer. -/
theorem rollBack_restores (hfresh : FreshLayer R profile stagingLayer d)
    (hprep : Prepared R stagingLayer profile.dimstyle created d d')
    (hgrown : Grown stagingLayer d' d'') :
    AsBefore d (applyAll
      (rollBackUpdates R stagingLayer created.isSome profile.dimstyle d'') d'') := by
  obtain ⟨es, hes, hrows, -, hlayers, hstyles⟩ := hgrown
  rw [rollBackUpdates_grown hfresh hprep (fun e he => (hes e he).1) hrows hlayers hstyles,
    handlerUpdates, applyAll_append]
  obtain ⟨hdeleted, hlayers', hstyles'⟩ := applyAll_deleteUpdates .discard es d''
  generalize applyAll (deleteUpdates .discard es) d'' = e at hdeleted hlayers' hstyles'
  have hkept : e.entities.rows = d.entities.rows := by
    have hnew : (es.filter fun e => e.handle ∉ es.map DxfEntity.handle) = [] := by
      rw [List.filter_eq_nil_iff]
      intro x hx
      rw [decide_eq_true_eq]
      exact fun hnot => hnot (List.mem_map_of_mem hx)
    have hold : (d.entities.rows.filter fun e => e.handle ∉ es.map DxfEntity.handle) =
        d.entities.rows := by
      rw [List.filter_eq_self]
      intro x hx
      rw [decide_eq_true_eq]
      intro hmem
      obtain ⟨y, hy, hsame⟩ := List.mem_map.mp hmem
      have hlt := d.below x hx
      have hle := (hes y hy).2
      rw [hprep.next] at hle
      omega
    rw [hdeleted, hrows, hprep.rows, List.filter_append, hnew, hold, List.append_nil]
  have hremoved : (e.removeLayer R stagingLayer).layers = d.layers :=
    removeLayer_last hfresh (by rw [hlayers', hlayers, hprep.layers])
  rcases created with _ | style
  · refine ⟨hkept, hremoved, ?_⟩
    change e.dimstyles = _
    rw [hstyles', hstyles, hprep.dimstyles]
    exact List.append_nil _
  · obtain ⟨hname, hold⟩ := hprep.named style rfl
    have hundone : (e.removeStyle R profile.dimstyle).dimstyles = d.dimstyles :=
      removeStyle_last hname hold (by rw [hstyles', hstyles, hprep.dimstyles]; rfl)
    exact ⟨hkept, hremoved, hundone⟩

theorem mem_handlerUpdates {es : List DxfEntity} {styleCreated : Bool} {dimstyle : String}
    {v : Update Operation Drawing}
    (hv : v ∈ handlerUpdates R stagingLayer styleCreated dimstyle es) :
    (∃ e ∈ es, v = (.discard e.handle, (·.deleteEntity e.handle))) ∨
      v = (.discardStagingLayer, (·.removeLayer R stagingLayer)) ∨
        styleCreated = true ∧ v = (.discardStyle, (·.removeStyle R dimstyle)) := by
  rw [handlerUpdates, List.mem_append, List.mem_append, List.mem_singleton] at hv
  rcases hv with hv | hv | hv
  · obtain ⟨e, he, hve⟩ := List.mem_flatMap.mp hv
    exact Or.inl ⟨e, he, List.mem_singleton.mp hve⟩
  · exact Or.inr (Or.inl hv)
  · by_cases hcreated : styleCreated = true
    · rw [if_pos hcreated] at hv
      exact Or.inr (Or.inr ⟨hcreated, List.mem_singleton.mp hv⟩)
    · rw [if_neg hcreated] at hv
      cases hv

/-- What a call of the handler that is not made leaves behind. -/
theorem rollBack_leaves (hfresh : FreshLayer R profile stagingLayer d)
    (hprep : Prepared R stagingLayer profile.dimstyle created d d') {es : List DxfEntity}
    (hes : ∀ e ∈ es, e.layer = stagingLayer ∧ d'.nextHandle ≤ e.handle)
    (hrows : d''.entities.rows = d'.entities.rows ++ es) (hlayers : d''.layers = d'.layers)
    (hstyles : d''.dimstyles = d'.dimstyles) {before later : List (Update Operation Drawing)}
    {u : Update Operation Drawing}
    (hsplit : rollBackUpdates R stagingLayer created.isSome profile.dimstyle d'' =
      before ++ u :: later)
    (hbefore : ∀ v ∈ before, v.1 ≠ u.1) : ¬ AsBefore d (applyAll before d'') := by
  rw [rollBackUpdates_grown hfresh hprep (fun e he => (hes e he).1) hrows hlayers hstyles] at hsplit
  have hcases : ∀ v ∈ before ++ u :: later,
      (∃ e ∈ es, v = (.discard e.handle, (·.deleteEntity e.handle))) ∨
        v = (.discardStagingLayer, (·.removeLayer R stagingLayer)) ∨
          created.isSome = true ∧ v = (.discardStyle, (·.removeStyle R profile.dimstyle)) :=
    fun v hv => mem_handlerUpdates (hsplit ▸ hv)
  have hbeforeCases := fun v hv => hcases v (List.mem_append_left (u :: later) hv)
  intro hsame
  rcases hcases u (List.mem_append_right before List.mem_cons_self) with
    ⟨e, he, rfl⟩ | rfl | ⟨hcreated, rfl⟩
  · -- the entity that was drawn is still there
    have hthere : ∃ x ∈ (applyAll before d'').entities.rows, x.handle = e.handle := by
      refine applyAll_keeps (P := fun s : Drawing => ∃ x ∈ s.entities.rows, x.handle = e.handle) ?_
        ⟨e, by rw [hrows]; exact List.mem_append_right _ he, rfl⟩
      rintro v hv s ⟨x, hx, hxe⟩
      rcases hbeforeCases v hv with ⟨y, hy, rfl⟩ | rfl | ⟨-, rfl⟩
      · refine ⟨x, Table.mem_deleteWhere.mpr ⟨hx, ?_⟩, hxe⟩
        rw [decide_eq_false_iff_not]
        intro hxy
        exact hbefore _ hv (congrArg Operation.discard (hxy.symm.trans hxe))
      · exact ⟨x, hx, hxe⟩
      · exact ⟨x, hx, hxe⟩
    obtain ⟨x, hx, hxe⟩ := hthere
    rw [hsame.rows] at hx
    have hlt := d.below x hx
    have hle := (hes e he).2
    rw [hprep.next] at hle
    omega
  · have hthere : (⟨stagingLayer, 2⟩ : Layer) ∈ (applyAll before d'').layers := by
      refine applyAll_keeps (P := fun s : Drawing => (⟨stagingLayer, 2⟩ : Layer) ∈ s.layers) ?_
        (by rw [hlayers, hprep.layers]; exact List.mem_append_right _ (List.mem_singleton_self _))
      intro v hv s hs
      rcases hbeforeCases v hv with ⟨y, hy, rfl⟩ | rfl | ⟨-, rfl⟩
      · exact hs
      · exact absurd rfl (hbefore _ hv)
      · exact hs
    rw [hsame.layers] at hthere
    exact hfresh.unnamed _ hthere rfl
  · obtain ⟨style, rfl⟩ := Option.isSome_iff_exists.mp hcreated
    obtain ⟨hname, hold⟩ := hprep.named style rfl
    have hthere : style ∈ (applyAll before d'').dimstyles := by
      refine applyAll_keeps (P := fun s : Drawing => style ∈ s.dimstyles) ?_
        (by rw [hstyles, hprep.dimstyles]; exact List.mem_append_right _ (List.mem_singleton_self _))
      intro v hv s hs
      rcases hbeforeCases v hv with ⟨y, hy, rfl⟩ | rfl | ⟨-, rfl⟩
      · exact hs
      · exact hs
      · exact absurd rfl (hbefore _ hv)
    rw [hsame.dimstyles] at hthere
    exact hold style hthere (congrArg R.key hname)

/-! ## Where the handler does not look -/

/-- The profile layer is new, an entity is gone, or a new one is on the profile layer. -/
def Spoiled (R : DxfRuntime) (profile : DimensionProfile) (d d' : Drawing) : Prop :=
  (d.hasLayer R profile.layer = false ∧ d'.hasLayer R profile.layer = true) ∨
    (∃ e ∈ d.entities.rows, ∀ x ∈ d'.entities.rows, x.handle ≠ e.handle) ∨
      ∃ x ∈ d'.entities.rows, d.nextHandle ≤ x.handle ∧ x.layer = profile.layer

theorem Spoiled.not_asBefore (h : Spoiled R profile d d') : ¬ AsBefore d d' := by
  intro hsame
  rcases h with ⟨hno, hyes⟩ | ⟨e, he, hgone⟩ | ⟨x, hx, hnew, -⟩
  · rw [Drawing.hasLayer, hsame.layers] at hyes
    rw [Drawing.hasLayer, hyes] at hno
    cases hno
  · exact hgone e (by rw [hsame.rows]; exact he) rfl
  · rw [hsame.rows] at hx
    have hlt := d.below x hx
    omega

theorem hasLayer_addLayer (name : String) (color : ℕ) (h : d'.hasLayer R profile.layer = true) :
    (d'.addLayer name color).hasLayer R profile.layer = true := by
  rw [Drawing.hasLayer, Drawing.addLayer, List.any_append, Bool.or_eq_true]
  exact Or.inl h

theorem hasLayer_removeLayer (hfresh : FreshLayer R profile stagingLayer d)
    (h : d'.hasLayer R profile.layer = true) :
    (d'.removeLayer R stagingLayer).hasLayer R profile.layer = true := by
  obtain ⟨l, hl, hname⟩ := List.any_eq_true.mp h
  refine List.any_eq_true.mpr ⟨l, List.mem_filter.mpr ⟨hl, ?_⟩, hname⟩
  rw [decide_eq_true_eq] at hname ⊢
  rw [hname]
  exact fun heq => hfresh.apart heq.symm

variable {staged : List DxfEntity} {clear : Bool}

/-- A call after the staging. -/
inductive FinishCall (R : DxfRuntime) (stagingLayer : String) (profile : DimensionProfile)
    (d : Drawing) (staged : List DxfEntity) : Update Operation Drawing → Prop where
  | addLayer : FinishCall R stagingLayer profile d staged
      (.addProfileLayer, (·.addLayer profile.layer 2))
  | clear (e : DxfEntity) (he : e ∈ d.onLayer profile.layer) :
      FinishCall R stagingLayer profile d staged (.clear e.handle, (·.deleteEntity e.handle))
  | relayer (e : DxfEntity) (he : e ∈ staged) : FinishCall R stagingLayer profile d staged
      (.relayer e.handle, (·.setLayer e.handle profile.layer))
  | rerender (e : DxfEntity) (he : e ∈ staged) :
      FinishCall R stagingLayer profile d staged (.rerender e.handle, (·.render e.handle))
  | removeLayer : FinishCall R stagingLayer profile d staged
      (.removeStagingLayer, (·.removeLayer R stagingLayer))

theorem finishCall_of_mem {u : Update Operation Drawing}
    (hu : u ∈ finishUpdates R stagingLayer clear profile d staged) :
    FinishCall R stagingLayer profile d staged u := by
  rcases List.mem_append.mp hu with hu | hu
  · unfold layerUpdates at hu
    split at hu
    · cases hu
    · rw [List.mem_singleton.mp hu]
      exact .addLayer
  rcases List.mem_append.mp hu with hu | hu
  · unfold clearUpdates at hu
    split at hu
    · obtain ⟨e, he, hue⟩ := List.mem_flatMap.mp hu
      rw [List.mem_singleton.mp hue]
      exact .clear e he
    · cases hu
  rcases List.mem_append.mp hu with hu | hu
  · obtain ⟨e, he, hue⟩ := List.mem_flatMap.mp hu
    rcases List.mem_cons.mp hue with rfl | hue
    · exact .relayer e he
    · split at hue
      · rw [List.mem_singleton.mp hue]
        exact .rerender e he
      · cases hue
  · rw [List.mem_singleton.mp hu]
    exact .removeLayer

/-- A change that leaves the handles, and the entities of the profile layer on it. -/
theorem Spoiled.mapEntities (h : Spoiled R profile d d') {f : DxfEntity → DxfEntity}
    (hf : ∀ e, (f e).handle = e.handle)
    (hlayer : ∀ e, e.layer = profile.layer → (f e).layer = profile.layer) :
    Spoiled R profile d (d'.mapEntities f hf) := by
  rcases h with h | ⟨e, he, hgone⟩ | ⟨x, hx, hnew, hon⟩
  · exact Or.inl h
  · refine Or.inr (Or.inl ⟨e, he, ?_⟩)
    intro y hy
    obtain ⟨x, hx, rfl⟩ := List.mem_map.mp hy
    rw [hf]
    exact hgone x hx
  · refine Or.inr (Or.inr ⟨f x, List.mem_map_of_mem hx, ?_, hlayer x hon⟩)
    rw [hf]
    exact hnew

theorem Spoiled.deleteEntity (h : Spoiled R profile d d') {handle : ℕ}
    (hx : ∀ x ∈ d'.entities.rows, d.nextHandle ≤ x.handle → x.layer = profile.layer →
      x.handle ≠ handle) : Spoiled R profile d (d'.deleteEntity handle) := by
  rcases h with h | ⟨e, he, hgone⟩ | ⟨x, hmem, hnew, hon⟩
  · exact Or.inl h
  · exact Or.inr (Or.inl ⟨e, he, fun y hy => hgone y (Table.mem_deleteWhere.mp hy).1⟩)
  · refine Or.inr (Or.inr ⟨x, Table.mem_deleteWhere.mpr ⟨hmem, ?_⟩, hnew, hon⟩)
    rw [decide_eq_false_iff_not]
    exact hx x hmem hnew hon

theorem Spoiled.removeLayer (hfresh : FreshLayer R profile stagingLayer d)
    (h : Spoiled R profile d d') : Spoiled R profile d (d'.removeLayer R stagingLayer) := by
  rcases h with ⟨hno, hyes⟩ | h
  · exact Or.inl ⟨hno, hasLayer_removeLayer hfresh hyes⟩
  · exact Or.inr h

/-- No call after the staging mends what another has spoiled. -/
theorem Spoiled.finishCall (hfresh : FreshLayer R profile stagingLayer d)
    {u : Update Operation Drawing} (hu : FinishCall R stagingLayer profile d staged u)
    (h : Spoiled R profile d d') : Spoiled R profile d (u.2 d') := by
  cases hu with
  | addLayer =>
      rcases h with ⟨hno, hyes⟩ | h
      · exact Or.inl ⟨hno, hasLayer_addLayer _ _ hyes⟩
      · exact Or.inr h
  | clear e he =>
      refine h.deleteEntity fun x _ hnew _ hsame => ?_
      have hlt := d.below e (List.mem_filter.mp he).1
      omega
  | relayer e he =>
      refine h.mapEntities _ fun x hon => ?_
      unfold DxfEntity.setLayer
      split
      · rfl
      · exact hon
  | rerender e he =>
      refine h.mapEntities _ fun x hon => ?_
      unfold DxfEntity.render
      split <;> exact hon
  | removeLayer => exact h.removeLayer hfresh

/-- The first of several calls after the staging spoils the drawing. -/
theorem spoiled_first (hstaged : IsStaged stagingLayer d d' staged)
    {u v : Update Operation Drawing} {later : List (Update Operation Drawing)}
    (hsplit : finishUpdates R stagingLayer clear profile d staged = u :: v :: later) :
    Spoiled R profile d (u.2 d') := by
  unfold finishUpdates layerUpdates at hsplit
  by_cases hthere : d.hasLayer R profile.layer = true
  · rw [if_pos hthere, List.nil_append] at hsplit
    rcases hclear : clearUpdates clear profile d with _ | ⟨c, cs⟩
    · rw [hclear, List.nil_append] at hsplit
      rcases staged with _ | ⟨e, es⟩
      · cases hsplit
      · -- the first entity is moved
        obtain ⟨rfl, -⟩ := List.cons.inj hsplit
        have hmem : e ∈ d'.entities.rows := by
          rw [hstaged.rows]
          exact List.mem_append_right _ List.mem_cons_self
        refine Or.inr (Or.inr ⟨_, List.mem_map_of_mem hmem, ?_, ?_⟩)
        · rw [DxfEntity.setLayer_handle]
          exact hstaged.new e List.mem_cons_self
        · rw [DxfEntity.setLayer, if_pos rfl]
    · rw [hclear] at hsplit
      obtain ⟨rfl, -⟩ := List.cons.inj hsplit
      unfold clearUpdates at hclear
      split at hclear
      · rcases hold : d.onLayer profile.layer with _ | ⟨e, es⟩
        · rw [hold] at hclear
          cases hclear
        · -- the first old dimension is cleared
          rw [hold] at hclear
          obtain ⟨rfl, -⟩ := List.cons.inj hclear
          have hmem : e ∈ d.onLayer profile.layer := hold ▸ List.mem_cons_self
          refine Or.inr (Or.inl ⟨e, (List.mem_filter.mp hmem).1, fun x hx => ?_⟩)
          exact of_decide_eq_false (Table.mem_deleteWhere.mp hx).2
      · cases hclear
  · rw [if_neg hthere] at hsplit
    obtain ⟨rfl, -⟩ := List.cons.inj hsplit
    refine Or.inl ⟨Bool.eq_false_iff.mpr hthere, ?_⟩
    change (d'.addLayer profile.layer 2).hasLayer R profile.layer = true
    rw [Drawing.hasLayer, Drawing.addLayer, List.any_append]
    simp

/-- So a run of them that stops before its end leaves it spoiled. -/
theorem spoiled_run (hfresh : FreshLayer R profile stagingLayer d)
    (hstaged : IsStaged stagingLayer d d' staged) {u w : Update Operation Drawing}
    {before later : List (Update Operation Drawing)}
    (hsplit : finishUpdates R stagingLayer clear profile d staged = w :: before ++ u :: later) :
    Spoiled R profile d (applyAll (w :: before) d') := by
  have hfirst : Spoiled R profile d (w.2 d') := by
    cases before with
    | nil => exact spoiled_first hstaged hsplit
    | cons v before => exact spoiled_first hstaged hsplit
  rw [applyAll_cons]
  refine applyAll_keeps (P := fun s : Drawing => Spoiled R profile d s) ?_ hfirst
  intro v hv s hs
  have hmem : v ∈ finishUpdates R stagingLayer clear profile d staged := by
    rw [hsplit]
    exact List.mem_append_left _ (List.mem_cons_of_mem w hv)
  exact hs.finishCall hfresh (finishCall_of_mem hmem)

/-- The handler mends nothing. -/
theorem Spoiled.rollBack (hfresh : FreshLayer R profile stagingLayer d)
    (h : Spoiled R profile d d') (styleCreated : Bool) (dimstyle : String) :
    Spoiled R profile d (applyAll (rollBackUpdates R stagingLayer styleCreated dimstyle d') d') := by
  obtain ⟨hrows, hlayers, -⟩ := applyAll_deleteUpdates .discard (d'.onLayer stagingLayer) d'
  have hdeleted : Spoiled R profile d
      (applyAll (deleteUpdates .discard (d'.onLayer stagingLayer)) d') := by
    rcases h with ⟨hno, hyes⟩ | ⟨e, he, hgone⟩ | ⟨x, hx, hnew, hon⟩
    · refine Or.inl ⟨hno, ?_⟩
      rw [Drawing.hasLayer, hlayers]
      exact hyes
    · refine Or.inr (Or.inl ⟨e, he, fun y hy => ?_⟩)
      rw [hrows] at hy
      exact hgone y (List.mem_filter.mp hy).1
    · refine Or.inr (Or.inr ⟨x, ?_, hnew, hon⟩)
      rw [hrows]
      refine List.mem_filter.mpr ⟨hx, ?_⟩
      rw [decide_eq_true_eq]
      intro hmem
      obtain ⟨y, hy, hsame⟩ := List.mem_map.mp hmem
      obtain ⟨hy, hlayer⟩ := List.mem_filter.mp hy
      obtain rfl := Table.eq_of_key hy hx hsame
      exact hfresh.ne ((of_decide_eq_true hlayer).symm.trans hon)
  rw [rollBackUpdates, applyAll_append]
  refine applyAll_keeps (P := fun s : Drawing => Spoiled R profile d s) ?_ hdeleted
  intro v hv s hs
  rcases List.mem_append.mp hv with hv | hv
  · split at hv
    · rw [List.mem_singleton.mp hv]
      exact hs.removeLayer hfresh
    · cases hv
  · split at hv
    · rw [List.mem_singleton.mp hv]
      exact hs
    · cases hv

/-! ## Moving the plan -/

/-- The entity after it was moved, beside entities that are not. -/
def moved (profile : DimensionProfile) (e x : DxfEntity) : DxfEntity :=
  let x := x.setLayer e.handle profile.layer
  if e.dxftype = "DIMENSION" then x.render e.handle else x

theorem applyAll_moveUpdates (e : DxfEntity) (d : Drawing) :
    (applyAll (moveUpdates profile e) d).entities.rows =
      d.entities.rows.map (moved profile e) := by
  unfold moveUpdates
  split
  · next hdim =>
      change (d.entities.rows.map _).map _ = _
      rw [List.map_map]
      refine List.map_congr_left fun x _ => ?_
      rw [moved, if_pos hdim]
      rfl
  · next hdim =>
      refine List.map_congr_left fun x _ => ?_
      rw [moved, if_neg hdim]

theorem moved_other {e x : DxfEntity} (h : x.handle ≠ e.handle) : moved profile e x = x := by
  have hlayer : x.setLayer e.handle profile.layer = x := if_neg h
  rw [moved, hlayer, DxfEntity.render, if_neg h, ite_self]

/-- A drawn body that was moved is as if it had been drawn there. -/
theorem moved_self (handle : ℕ) (body : EntityBody) :
    let e : DxfEntity :=
      ⟨handle, body.dxftype, stagingLayer, body, body.renderedOn stagingLayer⟩
    moved profile e e =
      ⟨handle, body.dxftype, profile.layer, body, body.renderedOn profile.layer⟩ := by
  cases body <;>
    simp [moved, DxfEntity.setLayer, DxfEntity.render, EntityBody.dxftype, EntityBody.renderedOn]

theorem applyAll_move {front : List DxfEntity} {handle : ℕ} (bodies : List EntityBody)
    (hfront : ∀ x ∈ front, x.handle < handle)
    (hrows : d.entities.rows = front ++ entitiesFrom stagingLayer handle bodies) :
    (applyAll ((entitiesFrom stagingLayer handle bodies).flatMap (moveUpdates profile))
      d).entities.rows = front ++ entitiesFrom profile.layer handle bodies := by
  induction bodies generalizing front handle d with
  | nil => exact hrows
  | cons body bodies ih =>
      rw [entitiesFrom] at hrows
      rw [entitiesFrom, entitiesFrom, List.flatMap_cons, applyAll_append]
      let e : DxfEntity :=
        ⟨handle, body.dxftype, stagingLayer, body, body.renderedOn stagingLayer⟩
      let e' : DxfEntity :=
        ⟨handle, body.dxftype, profile.layer, body, body.renderedOn profile.layer⟩
      have hstep : (applyAll (moveUpdates profile e) d).entities.rows =
          d.entities.rows.map (moved profile e) := applyAll_moveUpdates e d
      have hold : front.map (moved profile e) = front :=
        (List.map_congr_left fun x hx => moved_other (ne_of_lt (hfront x hx))).trans
          (List.map_id' _)
      have hlater : (entitiesFrom stagingLayer (handle + 1) bodies).map (moved profile e) =
          entitiesFrom stagingLayer (handle + 1) bodies := by
        refine (List.map_congr_left fun x hx => moved_other ?_).trans (List.map_id' _)
        exact ne_of_gt (mem_entitiesFrom hx).2
      rw [hrows, List.map_append, List.map_cons, hold, hlater] at hstep
      have hself : moved profile e e = e' := moved_self handle body
      change _ = front ++ (moved profile e e :: entitiesFrom stagingLayer (handle + 1) bodies)
        at hstep
      rw [hself, List.append_cons] at hstep
      rw [List.append_cons]
      refine ih ?_ hstep
      intro x hx
      rcases List.mem_append.mp hx with hx | hx
      · exact Nat.lt_succ_of_lt (hfront x hx)
      · rw [List.mem_singleton.mp hx]
        exact Nat.lt_succ_self handle

/-- After all the calls the planned bodies are on the profile layer. -/
theorem finishUpdates_moves {bodies : List EntityBody}
    (hstaged : IsStaged stagingLayer d d' (entitiesFrom stagingLayer d.nextHandle bodies)) :
    entitiesFrom profile.layer d.nextHandle bodies <:+
      (applyAll (finishUpdates R stagingLayer clear profile d
        (entitiesFrom stagingLayer d.nextHandle bodies)) d').entities.rows := by
  rw [finishUpdates, applyAll_append, applyAll_append, applyAll_append]
  have hadded : (applyAll (layerUpdates R profile d) d').entities.rows = d'.entities.rows :=
    layerUpdates_rows d d'
  obtain ⟨kept, hsub, hcleared⟩ : ∃ kept, kept.Sublist d.entities.rows ∧
      (applyAll (clearUpdates clear profile d) (applyAll (layerUpdates R profile d) d')).entities.rows
        = kept ++ entitiesFrom stagingLayer d.nextHandle bodies :=
    clearUpdates_rows hstaged hadded clear
  refine ⟨kept, ?_⟩
  exact (applyAll_move bodies (fun x hx => d.below x (hsub.subset hx)) hcleared).symm

end

end AutocadMcp.HeadlessCommit
