import AutocadMcp.Dimension.HeadlessCommit

/-!
# The calls of a headless commit

The commit is a script of calls: the calls that draw the plan on the staging layer, then the calls
that make room for it and move it. Which calls these are is settled by the plan and by the drawing
at the start.
-/

namespace AutocadMcp.HeadlessCommit

open DimensionPlans Eff Script

/-! ## The entities of a plan -/

section

variable (R : DxfRuntime) (profile : DimensionProfile)

/-- The bodies that the planned dimension is drawn with, and whether all of it can be drawn. -/
def itemBodies (item : PlannedDimension) : List EntityBody × Bool :=
  let dimension (measured : Measured) : EntityBody :=
    .dimension measured profile.dimstyle profile.override (item.text.getD "")
  if item.kind = "linear" then
    match linearArgs R item with
    | .error _ => ([], false)
    | .ok measured => ([dimension measured], true)
  else if item.kind = "diameter" ∨ item.kind = "radius" then
    match roundArgs item with
    | .error _ => ([], false)
    | .ok measured => ([dimension measured], true)
  else if item.kind = "center" then
    match centerArgs R item profile with
    | .error _ => ([], false)
    | .ok (center, size) =>
        match levelLine center size, uprightLine center size with
        | .error _, _ => ([], false)
        | .ok level, .error _ => ([level], false)
        | .ok level, .ok upright => ([level, upright], true)
  else if item.kind = "text" then
    match textArgs item profile with
    | .error _ => ([], false)
    | .ok body => ([body], true)
  else ([], false)

/-- The bodies of the plan, up to the first dimension that cannot be drawn. -/
def plannedBodies : List PlannedDimension → List EntityBody × Bool
  | [] => ([], true)
  | item :: rest =>
      match itemBodies R profile item with
      | (bodies, false) => (bodies, false)
      | (bodies, true) => (bodies ++ (plannedBodies rest).1, (plannedBodies rest).2)

end

def EntityBody.dxftype : EntityBody → String
  | .dimension .. => "DIMENSION"
  | .line .. => "LINE"
  | .text .. => "TEXT"
  | .other _ => ""

/-- The layer of the geometry block of a dimension, which other entities do not have. -/
def EntityBody.renderedOn (layer : String) : EntityBody → Option String
  | .dimension .. => some layer
  | _ => none

/-- The entities with these bodies, with handles from `handle` on. -/
def entitiesFrom (layer : String) : ℕ → List EntityBody → List DxfEntity
  | _, [] => []
  | handle, body :: rest =>
      ⟨handle, body.dxftype, layer, body, body.renderedOn layer⟩ ::
        entitiesFrom layer (handle + 1) rest

theorem entitiesFrom_append (layer : String) (handle : ℕ) (xs ys : List EntityBody) :
    entitiesFrom layer handle (xs ++ ys) =
      entitiesFrom layer handle xs ++ entitiesFrom layer (handle + xs.length) ys := by
  induction xs generalizing handle with
  | nil => rfl
  | cons x xs ih =>
      rw [List.cons_append, entitiesFrom, ih, entitiesFrom, List.cons_append, List.length_cons,
        Nat.add_assoc, Nat.add_comm 1]

theorem entitiesFrom_length (layer : String) (handle : ℕ) (bodies : List EntityBody) :
    (entitiesFrom layer handle bodies).length = bodies.length := by
  induction bodies generalizing handle with
  | nil => rfl
  | cons b bodies ih => rw [entitiesFrom, List.length_cons, ih, List.length_cons]

theorem entitiesFrom_bodies (layer : String) (handle : ℕ) (bodies : List EntityBody) :
    (entitiesFrom layer handle bodies).map DxfEntity.body = bodies := by
  induction bodies generalizing handle with
  | nil => rfl
  | cons b bodies ih => rw [entitiesFrom, List.map_cons, ih]

theorem mem_entitiesFrom {layer : String} {handle : ℕ} {bodies : List EntityBody} {e : DxfEntity}
    (h : e ∈ entitiesFrom layer handle bodies) : e.layer = layer ∧ handle ≤ e.handle := by
  induction bodies generalizing handle with
  | nil => cases h
  | cons b bodies ih =>
      rcases List.mem_cons.mp h with rfl | h
      · exact ⟨rfl, le_rfl⟩
      · obtain ⟨hlayer, hhandle⟩ := ih h
        exact ⟨hlayer, (Nat.le_succ handle).trans hhandle⟩

/-! ## Staging -/

/-- The drawing with some new entities. -/
structure Drawing.Extends (d d' : Drawing) (es : List DxfEntity) : Prop where
  rows : d'.entities.rows = d.entities.rows ++ es
  next : d'.nextHandle = d.nextHandle + es.length
  layers : d'.layers = d.layers
  dimstyles : d'.dimstyles = d.dimstyles

theorem Drawing.Extends.refl (d : Drawing) : d.Extends d [] :=
  ⟨(List.append_nil _).symm, rfl, rfl, rfl⟩

theorem Drawing.Extends.trans {d d' d'' : Drawing} {es fs : List DxfEntity}
    (h : d.Extends d' es) (h' : d'.Extends d'' fs) : d.Extends d'' (es ++ fs) := by
  refine ⟨?_, ?_, h'.layers.trans h.layers, h'.dimstyles.trans h.dimstyles⟩
  · rw [h'.rows, h.rows, List.append_assoc]
  · rw [h'.next, h.next, List.length_append, Nat.add_assoc]

/-- The drawing with new entities on the layer, whatever they are. -/
def Grown (layer : String) (d d' : Drawing) : Prop :=
  ∃ es, (∀ e ∈ es, e.layer = layer ∧ d.nextHandle ≤ e.handle) ∧
    d'.entities.rows = d.entities.rows ++ es ∧ d.nextHandle ≤ d'.nextHandle ∧
      d'.layers = d.layers ∧ d'.dimstyles = d.dimstyles

theorem Grown.refl (layer : String) (d : Drawing) : Grown layer d d :=
  ⟨[], fun _ h => (List.not_mem_nil h).elim, (List.append_nil _).symm, le_rfl, rfl, rfl⟩

theorem Grown.add {layer : String} {d d' : Drawing} (h : Grown layer d d') (dxftype : String)
    (body : EntityBody) : Grown layer d (d'.addEntity dxftype layer body) := by
  obtain ⟨es, hes, hrows, hnext, hlayers, hstyles⟩ := h
  refine ⟨es ++ [⟨d'.nextHandle, dxftype, layer, body, none⟩], ?_, ?_, Nat.le_succ_of_le hnext,
    hlayers, hstyles⟩
  · intro e he
    rcases List.mem_append.mp he with he | he
    · exact hes e he
    · rw [List.mem_singleton.mp he]
      exact ⟨rfl, hnext⟩
  · change d'.entities.rows ++ _ = _
    rw [hrows, List.append_assoc]

/-- A change of an entity that is new, which leaves its layer and its handle. -/
theorem Grown.change {layer : String} {d d' : Drawing} (h : Grown layer d d')
    {f : DxfEntity → DxfEntity} (hf : ∀ e, (f e).handle = e.handle)
    (hlayer : ∀ e, (f e).layer = e.layer) (hold : ∀ e, e.handle < d.nextHandle → f e = e) :
    Grown layer d (d'.mapEntities f hf) := by
  obtain ⟨es, hes, hrows, hnext, hlayers, hstyles⟩ := h
  refine ⟨es.map f, ?_, ?_, hnext, hlayers, hstyles⟩
  · intro e he
    obtain ⟨e', he', rfl⟩ := List.mem_map.mp he
    rw [hlayer, hf]
    exact hes e' he'
  · change d'.entities.rows.map f = _
    rw [hrows, List.map_append]
    congr 1
    exact (List.map_congr_left fun e he => hold e (d.below e he)).trans (List.map_id' _)

theorem Grown.setText {layer : String} {d d' : Drawing} (h : Grown layer d d') {handle : ℕ}
    (hhandle : d.nextHandle ≤ handle) (text : String) : Grown layer d (d'.setText handle text) := by
  refine h.change _ (fun e => ?_) fun e he => ?_
  · unfold DxfEntity.setText
    split <;> rfl
  · exact if_neg (by omega)

theorem Grown.render {layer : String} {d d' : Drawing} (h : Grown layer d d') {handle : ℕ}
    (hhandle : d.nextHandle ≤ handle) : Grown layer d (d'.render handle) := by
  refine h.change _ (fun e => ?_) fun e he => ?_
  · unfold DxfEntity.render
    split <;> rfl
  · exact if_neg (by omega)

section

variable {R : DxfRuntime} {fails : Operation → Bool} {profile : DimensionProfile}

/-- The program plays a script of drawing calls that add these bodies on the layer. -/
structure Draws (fails : Operation → Bool) (layer : String) {α : Type} (m : Commit α) (d : Drawing)
    (updates : List (Update Operation Drawing)) (bodies : List EntityBody) (result : Option α) :
    Prop where
  plays : Plays fails m d updates result
  labels : ∀ u ∈ updates, ∃ index step, u.1 = .draw index step
  grows : ∀ u ∈ updates, ∀ base d', base.nextHandle ≤ d.nextHandle → Grown layer base d' →
    Grown layer base (u.2 d')
  extends_all : d.Extends (applyAll updates d) (entitiesFrom layer d.nextHandle bodies)

theorem draws_of_plays {layer : String} {α : Type} {m : Commit α} {d : Drawing} {result : Option α}
    (h : Plays fails m d [] result) : Draws fails layer m d [] [] result where
  plays := h
  labels _ hu := (List.not_mem_nil hu).elim
  grows _ hu := (List.not_mem_nil hu).elim
  extends_all := .refl d

theorem Draws.bind {layer : String} {α β : Type} {m : Commit α} {f : α → Commit β} {d : Drawing}
    {us vs : List (Update Operation Drawing)} {bs cs : List EntityBody} {a : α} {r : Option β}
    (h : Draws fails layer m d us bs (some a))
    (hf : Draws fails layer (f a) (applyAll us d) vs cs r) :
    Draws fails layer (m >>= f) d (us ++ vs) (bs ++ cs) r := by
  have hnext : (applyAll us d).nextHandle = d.nextHandle + bs.length := by
    rw [h.extends_all.next, entitiesFrom_length]
  refine ⟨h.plays.bind hf.plays, ?_, ?_, ?_⟩
  · intro u hu
    rcases List.mem_append.mp hu with hu | hu
    · exact h.labels u hu
    · exact hf.labels u hu
  · intro u hu base d' hbase hgrown
    rcases List.mem_append.mp hu with hu | hu
    · exact h.grows u hu base d' hbase hgrown
    · exact hf.grows u hu base d' (by omega) hgrown
  · rw [applyAll_append, entitiesFrom_append, ← hnext]
    exact h.extends_all.trans hf.extends_all

theorem Draws.bind_none {layer : String} {α β : Type} {m : Commit α} {f : α → Commit β}
    {d : Drawing} {us : List (Update Operation Drawing)} {bs : List EntityBody}
    (h : Draws fails layer m d us bs none) : Draws fails layer (m >>= f) d us bs none :=
  ⟨h.plays.bind_none, h.labels, h.grows, h.extends_all⟩

/-- A call that adds an entity which is no dimension. -/
theorem draws_add {layer : String} {d : Drawing} (index step : ℕ) (body : EntityBody)
    (hbody : body.renderedOn layer = none) :
    Draws fails layer (call fails (.draw index step) (·.addEntity body.dxftype layer body)) d
      [(.draw index step, (·.addEntity body.dxftype layer body))] [body] (some ()) where
  plays := plays_perform _ _ d
  labels u hu := ⟨index, step, by rw [List.mem_singleton.mp hu]⟩
  grows u hu base d' _ hgrown := by
    rw [List.mem_singleton.mp hu]
    exact hgrown.add _ _
  extends_all := by
    refine ⟨?_, rfl, rfl, rfl⟩
    rw [entitiesFrom, hbody]
    rfl

/-- A dimension is there, with its text and its geometry, after the last of its calls. -/
theorem draws_dimension {d : Drawing} (index : ℕ) (item : PlannedDimension) (measured : Measured) :
    ∃ us, Draws fails profile.layer (drawDimension fails index item profile measured) d us
      [.dimension measured profile.dimstyle profile.override (item.text.getD "")] (some ()) := by
  let add : Drawing → Drawing := fun d => d.addEntity "DIMENSION" profile.layer
    (.dimension measured profile.dimstyle profile.override "")
  have hrows : (add d).entities.rows = d.entities.rows ++ [⟨d.nextHandle, "DIMENSION", profile.layer,
      .dimension measured profile.dimstyle profile.override "", none⟩] := rfl
  have hold : ∀ (f : DxfEntity → DxfEntity), (∀ e, e.handle ≠ d.nextHandle → f e = e) →
      d.entities.rows.map f = d.entities.rows := by
    intro f hf
    exact (List.map_congr_left fun e he => hf e (d.fresh e he)).trans (List.map_id' _)
  have hrender : d.entities.rows.map (DxfEntity.render d.nextHandle) = d.entities.rows :=
    hold _ fun e he => if_neg he
  unfold drawDimension setText
  rcases htext : item.text.filter (· ≠ "") with _ | text
  · have hempty : item.text.getD "" = "" := by
      rcases hitem : item.text with _ | t
      · rfl
      · rw [hitem, Option.filter_some] at htext
        by_cases ht : t = ""
        · exact ht
        · simp [ht] at htext
    refine ⟨[(.draw index 0, add)] ++ ([] ++ [(.draw index 2, (·.render d.nextHandle))]), ?_, ?_,
      ?_, ?_⟩
    · exact Plays.get_bind ((plays_perform _ _ d).bind
        ((plays_pure () _).bind (plays_perform _ _ _)))
    · intro u hu
      rcases List.mem_pair.mp hu with rfl | rfl
      · exact ⟨index, 0, rfl⟩
      · exact ⟨index, 2, rfl⟩
    · intro u hu base d' hbase hgrown
      rcases List.mem_pair.mp hu with rfl | rfl
      · exact hgrown.add _ _
      · exact hgrown.render hbase
    · refine ⟨?_, rfl, rfl, rfl⟩
      change (add d).entities.rows.map _ = _
      rw [hrows, List.map_append, hrender, hempty]
      simp [DxfEntity.render, entitiesFrom, EntityBody.dxftype, EntityBody.renderedOn]
  · have hgiven : item.text.getD "" = text := by
      obtain ⟨hitem, -⟩ := Option.filter_eq_some_iff.mp htext
      rw [hitem]
      rfl
    refine ⟨[(.draw index 0, add)] ++ ([(.draw index 1, (·.setText d.nextHandle text))] ++
      [(.draw index 2, (·.render d.nextHandle))]), ?_, ?_, ?_, ?_⟩
    · exact Plays.get_bind ((plays_perform _ _ d).bind
        ((plays_perform _ _ _).bind (plays_perform _ _ _)))
    · intro u hu
      rw [List.singleton_append, List.mem_cons, List.singleton_append, List.mem_pair] at hu
      rcases hu with rfl | rfl | rfl
      · exact ⟨index, 0, rfl⟩
      · exact ⟨index, 1, rfl⟩
      · exact ⟨index, 2, rfl⟩
    · intro u hu base d' hbase hgrown
      rw [List.singleton_append, List.mem_cons, List.singleton_append, List.mem_pair] at hu
      rcases hu with rfl | rfl | rfl
      · exact hgrown.add _ _
      · exact hgrown.setText hbase text
      · exact hgrown.render hbase
    · refine ⟨?_, rfl, rfl, rfl⟩
      change ((add d).entities.rows.map _).map _ = _
      have hset : d.entities.rows.map (DxfEntity.setText d.nextHandle text) = d.entities.rows :=
        hold _ fun e he => if_neg he
      rw [hrows, List.map_append, hset, List.map_append, hrender, hgiven]
      simp [DxfEntity.render, DxfEntity.setText, EntityBody.withText, entitiesFrom,
        EntityBody.dxftype, EntityBody.renderedOn]

theorem levelLine_ok {center : List Json} {size : ℚ} {body : EntityBody}
    (h : levelLine center size = .ok body) : ∃ start stop, body = .line start stop := by
  obtain ⟨_, _, h⟩ := bind_eq_ok.mp h
  obtain ⟨_, _, h⟩ := bind_eq_ok.mp h
  obtain ⟨_, _, h⟩ := bind_eq_ok.mp h
  cases h
  exact ⟨_, _, rfl⟩

theorem uprightLine_ok {center : List Json} {size : ℚ} {body : EntityBody}
    (h : uprightLine center size = .ok body) : ∃ start stop, body = .line start stop := by
  obtain ⟨_, _, h⟩ := bind_eq_ok.mp h
  obtain ⟨_, _, h⟩ := bind_eq_ok.mp h
  obtain ⟨_, _, h⟩ := bind_eq_ok.mp h
  cases h
  exact ⟨_, _, rfl⟩

theorem textArgs_ok {item : PlannedDimension} {body : EntityBody}
    (h : textArgs item profile = .ok body) :
    ∃ content insert height, body = .text content insert height := by
  obtain ⟨_, _, h⟩ := bind_eq_ok.mp h
  cases h
  exact ⟨_, _, _, rfl⟩

/-- The two lines of a center mark, where the second one can be drawn. -/
theorem draws_center {d : Drawing} (index : ℕ) (center : List Json) (size : ℚ) {level : EntityBody}
    (hlevel : levelLine center size = .ok level) :
    (∀ e, uprightLine center size = .error e → ∃ us, Draws fails profile.layer
      (drawCenter fails index profile center size) d us [level] none) ∧
    ∀ upright, uprightLine center size = .ok upright → ∃ us, Draws fails profile.layer
      (drawCenter fails index profile center size) d us [level, upright] (some ()) := by
  obtain ⟨start, stop, rfl⟩ := levelLine_ok hlevel
  have hfirst : Draws fails profile.layer (call fails (.draw index 0)
      (·.addEntity "LINE" profile.layer (.line start stop))) d _ [.line start stop] (some ()) :=
    draws_add index 0 (.line start stop) rfl
  have hstart : Draws fails profile.layer (orRaise (levelLine center size)) d [] []
      (some (.line start stop)) := draws_of_plays (plays_orRaise_ok hlevel d)
  constructor
  · intro e hupright
    exact ⟨_, hstart.bind (hfirst.bind
      (draws_of_plays (plays_orRaise_error hupright _)).bind_none)⟩
  · intro upright hupright
    obtain ⟨start', stop', rfl⟩ := uprightLine_ok hupright
    exact ⟨_, hstart.bind (hfirst.bind
      ((draws_of_plays (plays_orRaise_ok hupright _)).bind (draws_add index 1 (.line start' stop') rfl)))⟩

/-- The program draws the bodies, and has drawn all that was planned when it returns the value. -/
def DrawsPlanned (fails : Operation → Bool) (layer : String) {α : Type} (m : Commit α)
    (d : Drawing) (planned : List EntityBody × Bool) (value : α) : Prop :=
  ∃ us r, Draws fails layer m d us planned.1 r ∧ (r = some value ↔ planned.2 = true)

theorem DrawsPlanned.nothing {layer : String} {α : Type} {m : Commit α} {d : Drawing} {value : α}
    {r : Option α} (h : Plays fails m d [] r) (hr : r ≠ some value) :
    DrawsPlanned fails layer m d ([], false) value :=
  ⟨[], r, draws_of_plays h, fun heq => absurd heq hr, nofun⟩

variable (R fails profile)

theorem createEzdxfDimension_draws (d : Drawing) (index : ℕ) (item : PlannedDimension) :
    DrawsPlanned fails profile.layer (createEzdxfDimension R fails index item profile) d
      (itemBodies R profile item) true := by
  unfold createEzdxfDimension itemBodies
  by_cases hlinear : item.kind = "linear"
  · simp only [if_pos hlinear]
    rcases hargs : linearArgs R item with e | measured
    · exact .nothing (plays_orRaise_error rfl d).bind_none nofun
    · obtain ⟨us, hus⟩ := draws_dimension index item measured
      exact ⟨_, _, (draws_of_plays (plays_orRaise_ok rfl d)).bind (hus.bind
        (draws_of_plays (plays_pure true _))), fun _ => rfl, fun _ => rfl⟩
  simp only [if_neg hlinear]
  by_cases hround : item.kind = "diameter" ∨ item.kind = "radius"
  · simp only [if_pos hround]
    rcases hargs : roundArgs item with e | measured
    · exact .nothing (plays_orRaise_error rfl d).bind_none nofun
    · obtain ⟨us, hus⟩ := draws_dimension index item measured
      exact ⟨_, _, (draws_of_plays (plays_orRaise_ok rfl d)).bind (hus.bind
        (draws_of_plays (plays_pure true _))), fun _ => rfl, fun _ => rfl⟩
  simp only [if_neg hround]
  by_cases hcenter : item.kind = "center"
  · simp only [if_pos hcenter]
    rcases hargs : centerArgs R item profile with e | ⟨center, size⟩
    · exact .nothing (plays_orRaise_error rfl d).bind_none nofun
    dsimp only
    rcases hlevel : levelLine center size with e | level
    · have hstop : Plays fails (do
          drawCenter fails index profile center size
          pure true) d [] none := Plays.bind_none (Plays.bind_none (plays_orRaise_error hlevel d))
      exact .nothing ((plays_orRaise_ok rfl d).bind hstop) nofun
    · obtain ⟨hnone, hboth⟩ := draws_center index center size hlevel
      rcases hupright : uprightLine center size with e | upright
      · obtain ⟨us, hus⟩ := hnone e hupright
        exact ⟨_, none, (draws_of_plays (plays_orRaise_ok rfl d)).bind hus.bind_none, nofun, nofun⟩
      · obtain ⟨us, hus⟩ := hboth upright hupright
        exact ⟨_, _, (draws_of_plays (plays_orRaise_ok rfl d)).bind (hus.bind
          (draws_of_plays (plays_pure true _))), fun _ => rfl, fun _ => rfl⟩
  simp only [if_neg hcenter]
  by_cases htext : item.kind = "text"
  · simp only [if_pos htext]
    rcases hargs : textArgs item profile with e | body
    · exact .nothing (plays_orRaise_error rfl d).bind_none nofun
    · obtain ⟨content, insert, height, rfl⟩ := textArgs_ok hargs
      exact ⟨_, _, (draws_of_plays (plays_orRaise_ok rfl d)).bind
        ((draws_add index 0 (.text content insert height) rfl).bind
          (draws_of_plays (plays_pure true _))), fun _ => rfl, fun _ => rfl⟩
  · simp only [if_neg htext]
    exact .nothing (plays_pure false d) nofun

theorem stageItem_draws (d : Drawing) (index : ℕ) (item : PlannedDimension) :
    DrawsPlanned fails profile.layer (stageItem R fails index item profile) d
      (itemBodies R profile item) () := by
  obtain ⟨us, r, hus, hr⟩ := createEzdxfDimension_draws R fails profile d index item
  have hrethrown : Draws fails profile.layer (tryCatch
      (createEzdxfDimension R fails index item profile) fun e =>
        throw (.couldNotCreate item.dimensionId e)) d us (itemBodies R profile item).1 r :=
    ⟨hus.plays.rethrow _, hus.labels, hus.grows, hus.extends_all⟩
  unfold stageItem
  rcases r with _ | created
  · exact ⟨us, none, hrethrown.bind_none, nofun, fun h => nomatch hr.mpr h⟩
  have hnext : Draws fails profile.layer (if created = true then pure () else
      throw (.unsupportedKind item.dimensionId item.kind) : Commit Unit) (applyAll us d) [] []
      (if created = true then some () else none) := by
    cases created with
    | true => exact draws_of_plays (plays_pure () _)
    | false => exact draws_of_plays (plays_throw _ _)
  have hbind := hrethrown.bind (f := fun created => if created = true then pure () else
    throw (.unsupportedKind item.dimensionId item.kind)) hnext
  rw [List.append_nil, List.append_nil] at hbind
  refine ⟨us, _, hbind, ?_⟩
  rw [← hr]
  cases created <;> simp

theorem stage_draws (d : Drawing) (index : ℕ) (items : List PlannedDimension) :
    DrawsPlanned fails profile.layer (stage R fails profile index items) d
      (plannedBodies R profile items) () := by
  induction items generalizing d index with
  | nil => exact ⟨_, _, draws_of_plays (plays_pure () d), fun _ => rfl, fun _ => rfl⟩
  | cons item rest ih =>
      obtain ⟨us, r, hus, hr⟩ := stageItem_draws R fails profile d index item
      unfold stage plannedBodies
      rcases hbodies : itemBodies R profile item with ⟨bodies, drawn⟩
      rw [hbodies] at hus hr
      cases drawn with
      | true =>
          obtain rfl := hr.mpr rfl
          obtain ⟨vs, r', hvs, hr'⟩ := ih (applyAll us d) (index + 1)
          exact ⟨_, r', hus.bind hvs, hr'⟩
      | false =>
          rcases r with _ | _
          · exact ⟨us, none, hus.bind_none, nofun, nofun⟩
          · cases hr.mp rfl

end

/-! ## Clearing and moving -/

def deleteUpdates (operation : ℕ → Operation) (entities : List DxfEntity) :
    List (Update Operation Drawing) :=
  entities.flatMap fun e => [(operation e.handle, (·.deleteEntity e.handle))]

def moveUpdates (profile : DimensionProfile) (e : DxfEntity) : List (Update Operation Drawing) :=
  (.relayer e.handle, (·.setLayer e.handle profile.layer)) ::
    if e.dxftype = "DIMENSION" then [(.rerender e.handle, (·.render e.handle))] else []

def layerUpdates (R : DxfRuntime) (profile : DimensionProfile) (d : Drawing) :
    List (Update Operation Drawing) :=
  if d.hasLayer R profile.layer then []
  else [(.addProfileLayer, (·.addLayer profile.layer 2))]

def clearUpdates (clear : Bool) (profile : DimensionProfile) (d : Drawing) :
    List (Update Operation Drawing) :=
  if clear then deleteUpdates .clear (d.onLayer profile.layer) else []

/-- The calls after the staging, of a drawing `d` and the entities that were staged. -/
def finishUpdates (R : DxfRuntime) (stagingLayer : String) (clear : Bool)
    (profile : DimensionProfile) (d : Drawing) (staged : List DxfEntity) :
    List (Update Operation Drawing) :=
  layerUpdates R profile d ++ (clearUpdates clear profile d ++
    (staged.flatMap (moveUpdates profile) ++
      [(.removeStagingLayer, (·.removeLayer R stagingLayer))]))

/-- The calls of the handler. -/
def rollBackUpdates (R : DxfRuntime) (stagingLayer : String) (styleCreated : Bool)
    (dimstyle : String) (d : Drawing) : List (Update Operation Drawing) :=
  deleteUpdates .discard (d.onLayer stagingLayer) ++
    ((if d.hasLayer R stagingLayer then
        [(.discardStagingLayer, (·.removeLayer R stagingLayer))] else []) ++
      (if styleCreated && (d.findStyle R dimstyle).isSome then
        [(.discardStyle, (·.removeStyle R dimstyle))] else []))

section

variable {R : DxfRuntime} {fails : Operation → Bool} {profile : DimensionProfile}

theorem deleteAll_plays (operation : ℕ → Operation) (entities : List DxfEntity) (d : Drawing) :
    Plays fails (deleteAll fails operation entities) d (deleteUpdates operation entities)
      (some ()) :=
  plays_forEach (fun _ _ s => plays_perform _ _ s) d

theorem moveEntity_plays (e : DxfEntity) (d : Drawing) :
    Plays fails (moveEntity fails profile e) d (moveUpdates profile e) (some ()) := by
  unfold moveEntity moveUpdates
  by_cases hdim : e.dxftype = "DIMENSION"
  · simp only [if_pos hdim]
    exact (plays_perform _ _ d).bind (plays_perform _ _ _)
  · simp only [if_neg hdim]
    exact (plays_perform _ _ d).bind (plays_pure () _)

/-- What a run of deletions leaves. -/
theorem applyAll_deleteUpdates (operation : ℕ → Operation) (entities : List DxfEntity)
    (d : Drawing) :
    (applyAll (deleteUpdates operation entities) d).entities.rows =
        d.entities.rows.filter (fun e => e.handle ∉ entities.map DxfEntity.handle) ∧
      (applyAll (deleteUpdates operation entities) d).layers = d.layers ∧
      (applyAll (deleteUpdates operation entities) d).dimstyles = d.dimstyles := by
  induction entities generalizing d with
  | nil => exact ⟨by simp [deleteUpdates], rfl, rfl⟩
  | cons x entities ih =>
      obtain ⟨hrows, hlayers, hstyles⟩ := ih (d.deleteEntity x.handle)
      refine ⟨?_, hlayers, hstyles⟩
      change (applyAll (deleteUpdates operation entities) (d.deleteEntity x.handle)).entities.rows = _
      rw [hrows]
      change (d.entities.rows.filter fun e => !decide (e.handle = x.handle)).filter _ = _
      rw [List.filter_filter]
      refine List.filter_congr fun e _ => ?_
      rw [Bool.eq_iff_iff, List.map_cons]
      simp [and_comm]

theorem Drawing.onLayer_append {d d' : Drawing} {es : List DxfEntity} {layer : String}
    (hrows : d'.entities.rows = d.entities.rows ++ es) :
    d'.onLayer layer = d.onLayer layer ++ es.filter fun e => e.layer = layer := by
  rw [onLayer, hrows, List.filter_append]
  rfl

/-- A name for the staging layer that nothing in the drawing has. -/
structure FreshLayer (R : DxfRuntime) (profile : DimensionProfile) (stagingLayer : String)
    (d : Drawing) : Prop where
  unused : ∀ e ∈ d.entities.rows, e.layer ≠ stagingLayer
  unnamed : ∀ l ∈ d.layers, R.key l.name ≠ R.key stagingLayer
  apart : R.key stagingLayer ≠ R.key profile.layer

variable {stagingLayer : String} {d d' : Drawing}

theorem FreshLayer.ne (h : FreshLayer R profile stagingLayer d) : stagingLayer ≠ profile.layer :=
  fun heq => h.apart (congrArg R.key heq)

theorem FreshLayer.hasLayer_eq (h : FreshLayer R profile stagingLayer d)
    (hlayers : d'.layers = d.layers ++ [⟨stagingLayer, 2⟩]) :
    d'.hasLayer R profile.layer = d.hasLayer R profile.layer := by
  rw [Drawing.hasLayer, Drawing.hasLayer, hlayers, List.any_append]
  simp [h.apart]

/-- A drawing with the entities that were staged, and with the staging layer. -/
structure IsStaged (stagingLayer : String) (d d' : Drawing) (staged : List DxfEntity) : Prop where
  layer : ∀ e ∈ staged, e.layer = stagingLayer
  new : ∀ e ∈ staged, d.nextHandle ≤ e.handle
  rows : d'.entities.rows = d.entities.rows ++ staged
  layers : d'.layers = d.layers ++ [⟨stagingLayer, 2⟩]

variable {staged : List DxfEntity}

theorem layerUpdates_rows (d d' : Drawing) :
    (applyAll (layerUpdates R profile d) d').entities.rows = d'.entities.rows := by
  unfold layerUpdates
  split <;> rfl

/-- Clearing leaves what was staged. -/
theorem clearUpdates_rows (h : IsStaged stagingLayer d d' staged) {added : Drawing}
    (hadded : added.entities.rows = d'.entities.rows) (clear : Bool) :
    ∃ kept, kept.Sublist d.entities.rows ∧
      (applyAll (clearUpdates clear profile d) added).entities.rows = kept ++ staged := by
  cases clear with
  | false => exact ⟨d.entities.rows, List.Sublist.refl _, hadded.trans h.rows⟩
  | true =>
      have hstays : (staged.filter fun e =>
          e.handle ∉ (d.onLayer profile.layer).map DxfEntity.handle) = staged := by
        rw [List.filter_eq_self]
        intro e he
        rw [decide_eq_true_eq]
        intro hmem
        obtain ⟨x, hx, hsame⟩ := List.mem_map.mp hmem
        have hlt := d.below x (List.mem_filter.mp hx).1
        have hle := h.new e he
        omega
      refine ⟨d.entities.rows.filter fun e =>
        e.handle ∉ (d.onLayer profile.layer).map DxfEntity.handle, List.filter_sublist, ?_⟩
      rw [clearUpdates, if_pos rfl, (applyAll_deleteUpdates _ _ added).1, hadded, h.rows,
        List.filter_append, hstays]

theorem IsStaged.onProfileLayer (h : IsStaged stagingLayer d d' staged)
    (hfresh : FreshLayer R profile stagingLayer d) :
    d'.onLayer profile.layer = d.onLayer profile.layer := by
  have hnone : (staged.filter fun e => e.layer = profile.layer) = [] := by
    rw [List.filter_eq_nil_iff]
    intro e he
    rw [h.layer e he, decide_eq_true_eq]
    exact hfresh.ne
  rw [Drawing.onLayer_append h.rows, hnone, List.append_nil]

/-- The calls after the staging, as the drawing stands then. -/
theorem finish_plays (hfresh : FreshLayer R profile stagingLayer d)
    (h : IsStaged stagingLayer d d' staged) (clear : Bool) :
    Plays fails (finish R fails stagingLayer clear profile) d'
      (finishUpdates R stagingLayer clear profile d staged) (some ()) := by
  have hadd : Plays fails (addProfileLayer R fails profile) d' (layerUpdates R profile d)
      (some ()) := by
    refine Plays.get_bind ?_
    rw [hfresh.hasLayer_eq h.layers]
    unfold layerUpdates
    by_cases hthere : d.hasLayer R profile.layer = true
    · simp only [if_pos hthere]
      exact plays_pure () d'
    · simp only [if_neg hthere]
      exact plays_perform _ _ d'
  refine hadd.bind ?_
  have hadded : (applyAll (layerUpdates R profile d) d').entities.rows = d'.entities.rows :=
    layerUpdates_rows d d'
  generalize applyAll (layerUpdates R profile d) d' = added at hadded
  have hclear : Plays fails (clearExisting fails clear profile) added (clearUpdates clear profile d)
      (some ()) := by
    cases clear with
    | true =>
        refine Plays.get_bind ?_
        have hsame : added.onLayer profile.layer = d.onLayer profile.layer := by
          rw [← h.onProfileLayer hfresh, Drawing.onLayer, Drawing.onLayer, hadded]
        rw [hsame]
        exact deleteAll_plays _ _ added
    | false => exact plays_pure () added
  refine hclear.bind ?_
  obtain ⟨kept, hsub, hcleared⟩ : ∃ kept, kept.Sublist d.entities.rows ∧
      (applyAll (clearUpdates clear profile d) added).entities.rows = kept ++ staged :=
    clearUpdates_rows h hadded clear
  generalize applyAll (clearUpdates clear profile d) added = cleared at hcleared
  have hmoved : Plays fails (moveStaged fails stagingLayer profile) cleared
      (staged.flatMap (moveUpdates profile)) (some ()) := by
    refine Plays.get_bind ?_
    have hlist : cleared.onLayer stagingLayer = staged := by
      rw [Drawing.onLayer, hcleared, List.filter_append]
      have hnone : (kept.filter fun e => e.layer = stagingLayer) = [] := by
        rw [List.filter_eq_nil_iff]
        intro e he
        rw [decide_eq_true_eq]
        exact hfresh.unused e (hsub.subset he)
      have hall : (staged.filter fun e => e.layer = stagingLayer) = staged := by
        rw [List.filter_eq_self]
        intro e he
        rw [decide_eq_true_eq]
        exact h.layer e he
      rw [hnone, hall, List.nil_append]
    rw [hlist]
    exact plays_forEach (fun e _ s => moveEntity_plays e s) cleared
  exact hmoved.bind (plays_perform _ _ _)

end

end AutocadMcp.HeadlessCommit
