import AutocadMcp.Dimension.PreviewScope
import AutocadMcp.Contracts.JsonCode

/-!
# A preview is committed onto the drawing it was made from

The validation scope of a plan contains the selected records, so a commit after one
of them changed is always refused. A commit onto an unchanged drawing passes because
the scope collects the same records again, unless the preview took all records from
a snapshot and stored their fingerprint with a region that selects only some.
-/

namespace AutocadMcp.Dimension

section

variable {T : Runtime}

/-! ## Fingerprints -/

theorem insertionSort_perm {α : Type} (le : α → α → Prop) [DecidableRel le] (l : List α) :
    (l.insertionSort le).Perm l := List.perm_insertionSort le l

theorem handleOrder_sorted (l : List EntityRecord) :
    (l.insertionSort (handleOrder T)).Pairwise (handleOrder T) := by
  have htotal : Std.Total (handleOrder T) :=
    ⟨fun a b => le_total (T.upper a.handle).toList (T.upper b.handle).toList⟩
  have htrans : IsTrans EntityRecord (handleOrder T) := ⟨fun _ _ _ => le_trans⟩
  exact List.pairwise_insertionSort _ l

/-- The fingerprint does not depend on the order of records with different handles. -/
theorem recordsFingerprint_perm {l l' : List EntityRecord} (h : l.Perm l')
    (hnodup : (l.map fun r => T.upper r.handle).Nodup) :
    recordsFingerprint T l = recordsFingerprint T l' := by
  have hsame : l.insertionSort (handleOrder T) = l'.insertionSort (handleOrder T) := by
    have hperm := ((insertionSort_perm (handleOrder T) l).trans h).trans
      (insertionSort_perm (handleOrder T) l').symm
    refine hperm.eq_of_pairwise ?_ (handleOrder_sorted l) (handleOrder_sorted l')
    intro a b ha hb hab hba
    have ha' : a ∈ l := (insertionSort_perm _ l).mem_iff.mp ha
    have hb' : b ∈ l := h.mem_iff.mpr ((insertionSort_perm _ l').mem_iff.mp hb)
    have hupper : T.upper a.handle = T.upper b.handle := String.toList_injective (le_antisymm hab hba)
    exact List.inj_on_of_nodup_map hnodup ha' hb' hupper
  unfold recordsFingerprint
  rw [hsame]

/-- Equal fingerprints are those of lists with the same payloads. -/
theorem payloads_of_fingerprint {l l' : List EntityRecord}
    (h : recordsFingerprint T l = recordsFingerprint T l') :
    l.length = l'.length ∧ ∀ r ∈ l, ∃ r' ∈ l', payload T r' = payload T r := by
  have hlists : (l.insertionSort (handleOrder T)).map (payload T) =
      (l'.insertionSort (handleOrder T)).map (payload T) := by
    have hjson := T.sha256_injective h
    injection hjson
  refine ⟨by simpa using congrArg List.length hlists, fun r hr => ?_⟩
  have hmem : payload T r ∈ (l'.insertionSort (handleOrder T)).map (payload T) := by
    rw [← hlists]
    exact List.mem_map_of_mem ((insertionSort_perm _ l).mem_iff.mpr hr)
  obtain ⟨r', hr', hpayload⟩ := List.mem_map.mp hmem
  exact ⟨r', (insertionSort_perm _ l').mem_iff.mp hr', hpayload⟩

/-! ## Filters -/

theorem checkDistinct_ok {seen : List String} {records : List EntityRecord}
    (h : checkDistinct T seen records = .ok ()) :
    (records.map fun r => T.upper r.handle).Nodup ∧
      ∀ r ∈ records, T.upper r.handle ∉ seen := by
  induction records generalizing seen with
  | nil => exact ⟨List.nodup_nil, by rintro r ⟨⟩⟩
  | cons r rest ih =>
      obtain ⟨_, hr, hrest⟩ := bind_eq_ok.mp h
      obtain ⟨hnodup, hfresh⟩ := ih hrest
      refine ⟨?_, ?_⟩
      · rw [List.map_cons, List.nodup_cons]
        refine ⟨fun hmem => ?_, hnodup⟩
        obtain ⟨r', hr', heq⟩ := List.mem_map.mp hmem
        exact hfresh r' hr' (by rw [heq]; exact List.mem_cons_self)
      · rw [List.forall_mem_cons]
        exact ⟨check_eq_ok.mp hr, fun r' hr' hmem => hfresh r' hr' (List.mem_cons_of_mem _ hmem)⟩

theorem normalizeRecords_ok {records normalized : List EntityRecord}
    (h : normalizeRecords T records = .ok normalized) :
    normalized = records ∧ (records.map fun r => T.upper r.handle).Nodup := by
  obtain ⟨_, hdistinct, h⟩ := bind_eq_ok.mp h
  cases h
  exact ⟨rfl, (checkDistinct_ok hdistinct).1⟩

/-- The handles of records that were selected by handle select the same records again. -/
theorem withHandles_again {p : EntityRecord → Bool} (records : List EntityRecord)
    (hp : ∀ r r', T.upper r.handle = T.upper r'.handle → p r = p r') :
    withHandles T ((records.filter p).map EntityRecord.handle) records = records.filter p := by
  unfold withHandles
  refine List.filter_congr fun r hr => ?_
  rw [List.map_map]
  by_cases hpr : p r = true
  · rw [hpr, decide_eq_true_eq]
    exact List.mem_map_of_mem (List.mem_filter.mpr ⟨hr, hpr⟩)
  · rw [Bool.not_eq_true] at hpr
    rw [hpr, decide_eq_false_iff_not]
    intro hmem
    obtain ⟨r', hr', heq⟩ := List.mem_map.mp hmem
    rw [hp r r' heq.symm, (List.mem_filter.mp hr').2] at hpr
    cases hpr

theorem geometryOnly_filter (p : EntityRecord → Bool) (records : List EntityRecord) :
    geometryOnly (records.filter p) = (geometryOnly records).filter p := by
  unfold geometryOnly
  rw [List.filter_filter, List.filter_filter]
  exact List.filter_congr fun r _ => Bool.and_comm _ _

theorem geometryOnly_filterLocal (ids : List String) (region : Option Bounds) (mode : RegionMode)
    (records : List EntityRecord) :
    geometryOnly (filterLocalRecords T ids region mode records) =
      filterLocalRecords T ids region mode (geometryOnly records) := by
  unfold filterLocalRecords
  cases region with
  | none =>
      dsimp only
      split
      · rfl
      · exact geometryOnly_filter _ _
  | some region =>
      dsimp only
      rw [geometryOnly_filter]
      split
      · rfl
      · rw [withHandles, geometryOnly_filter]
        rfl

theorem filterLocal_sublist (ids : List String) (region : Option Bounds) (mode : RegionMode)
    (records : List EntityRecord) :
    (filterLocalRecords T ids region mode records).Sublist records := by
  unfold filterLocalRecords
  have hids : (if ids = [] then records else withHandles T ids records).Sublist records := by
    split
    · exact List.Sublist.refl _
    · exact List.filter_sublist
  cases region with
  | none => exact hids
  | some region => exact List.filter_sublist.trans hids

theorem filterLocal_perm (ids : List String) (region : Option Bounds) (mode : RegionMode)
    {records records' : List EntityRecord} (h : records.Perm records') :
    (filterLocalRecords T ids region mode records).Perm
      (filterLocalRecords T ids region mode records') := by
  unfold filterLocalRecords
  have hids : (if ids = [] then records else withHandles T ids records).Perm
      (if ids = [] then records' else withHandles T ids records') := by
    split
    · exact h
    · exact h.filter _
  cases region with
  | none => exact hids
  | some region => exact hids.filter _

/-! ## The region around a part -/

theorem combinedBounds_contains (first : EntityRecord) (rest : List EntityRecord) :
    ∀ r ∈ first :: rest, (combinedBounds first rest).minX ≤ r.bbox.minX ∧
      (combinedBounds first rest).minY ≤ r.bbox.minY ∧
      r.bbox.maxX ≤ (combinedBounds first rest).maxX ∧
      r.bbox.maxY ≤ (combinedBounds first rest).maxY := by
  unfold combinedBounds
  -- the fold only widens the bounds it starts from
  have hgrow : ∀ (rest : List EntityRecord) (b : Bounds) (b' : Bounds),
      b.minX ≤ b'.minX ∧ b.minY ≤ b'.minY ∧ b'.maxX ≤ b.maxX ∧ b'.maxY ≤ b.maxY ∨
        (∃ r ∈ rest, r.bbox = b') →
      (rest.foldl (fun b r => b.union r.bbox) b).minX ≤ b'.minX ∧
      (rest.foldl (fun b r => b.union r.bbox) b).minY ≤ b'.minY ∧
      b'.maxX ≤ (rest.foldl (fun b r => b.union r.bbox) b).maxX ∧
      b'.maxY ≤ (rest.foldl (fun b r => b.union r.bbox) b).maxY := by
    intro rest
    induction rest with
    | nil =>
        rintro b b' (h | ⟨r, hr, -⟩)
        · exact h
        · cases hr
    | cons r rest ih =>
        intro b b' h
        rw [List.foldl_cons]
        apply ih
        rcases h with ⟨h1, h2, h3, h4⟩ | ⟨r', hr', rfl⟩
        · left
          exact ⟨(min_le_left _ _).trans h1, (min_le_left _ _).trans h2,
            h3.trans (le_max_left _ _), h4.trans (le_max_left _ _)⟩
        · rcases List.mem_cons.mp hr' with rfl | hr'
          · left
            exact ⟨min_le_right _ _, min_le_right _ _, le_max_right _ _, le_max_right _ _⟩
          · exact Or.inr ⟨r', hr', rfl⟩
  intro r hr
  rcases List.mem_cons.mp hr with rfl | hr
  · exact hgrow rest _ _ (Or.inl ⟨le_rfl, le_rfl, le_rfl, le_rfl⟩)
  · exact hgrow rest _ _ (Or.inr ⟨r, hr, rfl⟩)

/-- The expanded bounds of some records meet each of them. -/
theorem expandedRecordBounds_selects {records : List EntityRecord} {b : Bounds}
    (h : expandedRecordBounds records = .ok b) :
    ∀ r ∈ records, b.selects .intersect r = true := by
  cases records with
  | nil => cases h
  | cons first rest =>
      cases h
      intro r hr
      obtain ⟨h1, h2, h3, h4⟩ := combinedBounds_contains first rest r hr
      have hx := r.bbox.le_x
      have hy := r.bbox.le_y
      have hmargin := margin_nonneg (combinedBounds first rest)
      simp only [Bounds.selects, Bounds.intersects, Bounds.expand, Bool.not_eq_true',
        Bool.or_eq_false_iff, decide_eq_false_iff_not, not_lt, sub_zero]
      refine ⟨⟨⟨?_, ?_⟩, ?_⟩, ?_⟩ <;> linarith

/-! ## What a preview stores -/

/-- The geometry records of a drawing under the profile and layers of a request. -/
def drawn (d : Drawing) (layer : String) (sources : List String) : List EntityRecord :=
  geometryOnly (d.records layer sources)

/-- The drawing that a preview is made from: the records of the snapshot under its token, or those
of the active drawing. -/
def previewed (cache : List GeometryCacheEntry) (now : ℚ) (d : Drawing) (q : PlanRequest) :
    List EntityRecord :=
  match q.geometryCacheToken with
  | some token =>
      match loadGeometrySnapshot cache now d token
          { dimensionLayer := q.profileLayer, sourceLayers := q.sourceLayers } with
      | .ok records => geometryOnly records
      | .error _ => []
  | none => drawn d q.profileLayer q.sourceLayers

/-- The records that a scope collects. -/
def ValidationScope.collects (T : Runtime) (records : List EntityRecord) :
    ValidationScope → List EntityRecord
  | .handles ids _ => filterLocalRecords T ids none .intersect records
  | .region b mode _ => filterLocalRecords T [] (some b) mode records
  | .modelspace _ => filterLocalRecords T [] none .intersect records

/-- Without a token and a current selection, every backend filters the records of the drawing. -/
theorem collectScoped_again {cache : List GeometryCacheEntry} {now : ℚ} {d : Drawing}
    {layer : String} {sources ids : List String} {region : Option Bounds} {mode : RegionMode}
    (h : ids = [] ∨ region = none) :
    collectScoped T cache now d
      { dimensionLayer := layer, sourceLayers := sources, entityIds := ids, region := region,
        regionMode := mode } =
      .ok (filterLocalRecords T ids region mode (d.records layer sources)) := by
  unfold collectScoped
  dsimp only
  refine pass (check_true (by rintro ⟨⟩)) ?_
  cases d.backend with
  | ezdxf => exact pass (check_true rfl) rfl
  | fileIpc => exact pass (check_true h) rfl

/-- The commit collects the scope from the drawing and compares the fingerprints. -/
theorem validate_eq_ok {cache : List GeometryCacheEntry} {now : ℚ} {d : Drawing}
    {c : PlanContext} :
    validateScopedCommitContext T cache now d c = .ok () ↔
      d.fingerprint = c.drawingFingerprint ∧
        recordsFingerprint T (c.validationScope.collects T
          (drawn d c.profileLayer c.sourceLayers)) = c.validationScope.fingerprint := by
  have hcollect : ∃ records, collectScoped T cache now d c.collectArgs = .ok records ∧
      geometryOnly records =
        c.validationScope.collects T (drawn d c.profileLayer c.sourceLayers) := by
    unfold PlanContext.collectArgs ValidationScope.collects drawn
    cases c.validationScope with
    | handles ids _ =>
        exact ⟨_, collectScoped_again (Or.inr rfl), geometryOnly_filterLocal _ _ _ _⟩
    | region b mode _ =>
        exact ⟨_, collectScoped_again (Or.inl rfl), geometryOnly_filterLocal _ _ _ _⟩
    | modelspace _ =>
        exact ⟨_, collectScoped_again (Or.inl rfl), geometryOnly_filterLocal _ _ _ _⟩
  obtain ⟨records, hrecords, hgeometry⟩ := hcollect
  unfold validateScopedCommitContext
  rw [hrecords]
  constructor
  · intro h
    obtain ⟨_, hdrawing, h⟩ := bind_eq_ok.mp h
    obtain ⟨_, hr, h⟩ := bind_eq_ok.mp h
    cases hr
    rw [← hgeometry]
    exact ⟨check_eq_ok.mp hdrawing, check_eq_ok.mp h⟩
  · rintro ⟨hdrawing, hfingerprint⟩
    rw [← hgeometry] at hfingerprint
    exact pass (check_true hdrawing) (check_true hfingerprint)

/-- The preview takes its records from a snapshot and then restricts them to a region. -/
def snapshotRegion (q : PlanRequest) : Option Bounds :=
  q.geometryCacheToken.bind fun _ => q.selection.region

theorem snapshotRegion_none {q : PlanRequest} (h : q.selection.region = none) :
    snapshotRegion q = none := by
  unfold snapshotRegion
  rw [h]
  cases q.geometryCacheToken <;> rfl

/-- What a preview starts from: all records that it saw, or those of its selection when that is
collected by the exporter. -/
theorem previewRecords_ok {cache : List GeometryCacheEntry} {now : ℚ} {d : Drawing}
    {q : PlanRequest} {records : List EntityRecord}
    (h : previewRecords T cache now d q = .ok records) :
    (q.geometryCacheToken.isSome = true ∧ records = previewed cache now d q) ∨
    (q.geometryCacheToken = none ∧ q.selection.useCurrentSelection = true ∧
      records = withHandles T d.currentSelection (previewed cache now d q)) ∨
    (q.geometryCacheToken = none ∧ q.selection.useCurrentSelection = false ∧
      records = filterLocalRecords T q.selection.entityIds q.selection.region
        q.selection.regionMode (previewed cache now d q)) := by
  unfold previewRecords at h
  cases hcollect : collectScoped T cache now d
      { dimensionLayer := q.profileLayer, sourceLayers := q.sourceLayers,
        useCurrentSelection := q.selection.useCurrentSelection,
        entityIds := q.selection.entityIds, region := q.selection.region,
        regionMode := q.selection.regionMode, geometryCacheToken := q.geometryCacheToken } with
  | error e =>
      rw [hcollect] at h
      cases h
  | ok collected =>
      rw [hcollect] at h
      cases h
      unfold collectScoped at hcollect
      obtain ⟨_, -, hcollect⟩ := bind_eq_ok.mp hcollect
      cases htoken : q.geometryCacheToken with
      | some token =>
          left
          rw [htoken] at hcollect
          refine ⟨rfl, ?_⟩
          have hload : loadGeometrySnapshot cache now d token
              { dimensionLayer := q.profileLayer, sourceLayers := q.sourceLayers } =
              .ok collected := hcollect
          simp only [previewed, htoken, hload]
      | none =>
          right
          rw [htoken] at hcollect
          have hdrawn : previewed cache now d q = drawn d q.profileLayer q.sourceLayers := by
            simp only [previewed, htoken]
          rw [hdrawn]
          dsimp only at hcollect
          cases hbackend : d.backend with
          | ezdxf =>
              rw [hbackend] at hcollect
              obtain ⟨_, hcurrent, hcollect⟩ := bind_eq_ok.mp hcollect
              cases hcollect
              exact Or.inr ⟨rfl, check_eq_ok.mp hcurrent, geometryOnly_filterLocal _ _ _ _⟩
          | fileIpc =>
              rw [hbackend] at hcollect
              obtain ⟨_, -, hcollect⟩ := bind_eq_ok.mp hcollect
              split at hcollect
              · rename_i hcurrent
                cases hcollect
                exact Or.inl ⟨rfl, hcurrent, geometryOnly_filter _ _⟩
              · rename_i hcurrent
                cases hcollect
                exact Or.inr ⟨rfl, by simpa using hcurrent, geometryOnly_filterLocal _ _ _ _⟩

/-! ## What a plan context stores -/

/-- A scope of handles collects the records that it was made from. -/
theorem collects_handles {p : EntityRecord → Bool} {selected records : List EntityRecord} {f : Nat}
    (hselected : selected = records.filter p) (hne : selected ≠ [])
    (hp : ∀ r r', T.upper r.handle = T.upper r'.handle → p r = p r') :
    (ValidationScope.handles (selected.map EntityRecord.handle) f).collects T records =
      selected := by
  subst hselected
  have hids : (records.filter p).map EntityRecord.handle ≠ [] := by
    intro h
    exact hne (List.map_eq_nil_iff.mp h)
  simp only [ValidationScope.collects, filterLocalRecords, if_neg hids]
  exact withHandles_again records hp

/-- The stored fingerprint is that of some of the records that the preview saw, the selected ones
among them. The commit collects the same ones from the same records, but for a region over a
snapshot, where the fingerprint is that of the whole snapshot. -/
structure Stored (T : Runtime) (seen : List EntityRecord) (q : PlanRequest) (c : PlanContext)
    (validated : List EntityRecord) : Prop where
  fingerprint : c.validationScope.fingerprint = recordsFingerprint T validated
  distinct : (validated.map fun r => T.upper r.handle).Nodup
  selected : ∀ r ∈ c.records, r ∈ validated
  again : snapshotRegion q = none → c.validationScope.collects T seen = validated
  region : ∀ b, snapshotRegion q = some b →
    validated = seen ∧ c.validationScope.collects T seen =
      seen.filter (b.selects q.selection.regionMode)

theorem isActive_false {s : GeometrySelection} (h : s.isActive = false) :
    s.targetPartId = none ∧ s.region = none ∧ s.entityIds = [] ∧ s.useCurrentSelection = false := by
  unfold GeometrySelection.isActive at h
  simpa [and_assoc] using h

theorem detectParts_distinct {records : List EntityRecord} {gap : Option ℚ}
    {parts : List DetectedPart} (h : detectParts T records gap = .ok parts) :
    (records.map fun r => T.upper r.handle).Nodup := by
  obtain ⟨_, hnormalized, -⟩ := bind_eq_ok.mp h
  exact (normalizeRecords_ok hnormalized).2

/-- The five kinds of a selection. -/
theorem selection_kinds (s : GeometrySelection) :
    s.isActive = false ∨
    (s.useCurrentSelection = true ∧ s.targetPartId = none ∧ s.region = none ∧ s.entityIds = []) ∨
    (∃ part, s.targetPartId = some part ∧ s.useCurrentSelection = false ∧ s.region = none ∧
      s.entityIds = []) ∨
    (∃ b, s.region = some b ∧ s.useCurrentSelection = false ∧ s.targetPartId = none ∧
      s.entityIds = []) ∨
    (s.entityIds ≠ [] ∧ s.useCurrentSelection = false ∧ s.targetPartId = none ∧
      s.region = none) := by
  have hsingle := s.single
  unfold GeometrySelection.isActive
  cases hpart : s.targetPartId <;> cases hregion : s.region <;> cases hids : s.entityIds <;>
    cases hcurrent : s.useCurrentSelection <;> rw [hpart, hregion, hids, hcurrent] at hsingle <;>
    simp at hsingle ⊢

theorem withHandles_twice (ids : List String) (records : List EntityRecord) :
    withHandles T ids (withHandles T ids records) = withHandles T ids records := by
  unfold withHandles
  rw [List.filter_filter]
  exact List.filter_congr fun r _ => Bool.and_self _

/-- What `select_records` gives for each kind of a selection. -/
theorem selectRecords_ok {records selected : List EntityRecord} {s : GeometrySelection}
    {parts : List DetectedPart} (h : selectRecords T records s parts = .ok selected) :
    (s.isActive = false ∨ s.useCurrentSelection = true → selected = records) ∧
    (∀ part, s.targetPartId = some part → s.useCurrentSelection = false →
      ∃ ids, selected = withHandles T ids records) ∧
    (∀ b, s.region = some b → s.targetPartId = none → s.useCurrentSelection = false →
      selected = records.filter (b.selects s.regionMode)) ∧
    (s.entityIds ≠ [] → s.region = none → s.targetPartId = none → s.useCurrentSelection = false →
      selected = withHandles T s.entityIds records) := by
  obtain ⟨normalized, hnormalized, hselect⟩ := bind_eq_ok.mp h
  obtain ⟨rfl, -⟩ := normalizeRecords_ok hnormalized
  clear h
  by_cases hactive : s.isActive = false
  · obtain ⟨hpart, hregion, hids, -⟩ := isActive_false hactive
    rw [if_pos hactive] at hselect
    cases hselect
    simp [hpart, hregion, hids]
  rw [if_neg hactive] at hselect
  by_cases hcurrent : s.useCurrentSelection = true
  · rw [if_pos hcurrent] at hselect
    cases hselect
    simp [hcurrent]
  rw [if_neg hcurrent] at hselect
  rw [Bool.not_eq_true] at hcurrent
  refine ⟨by simp [hactive, hcurrent], ?_, ?_, ?_⟩
  · intro part hpart _
    simp only [hpart] at hselect
    split at hselect
    · cases hselect
      exact ⟨_, rfl⟩
    · cases hselect
  · intro b hregion hpart _
    simp only [hpart, hregion] at hselect
    cases hselect
    rfl
  · intro _ hregion hpart _
    simp only [hpart, hregion] at hselect
    obtain ⟨_, -, hselect⟩ := bind_eq_ok.mp hselect
    cases hselect
    rfl

theorem upper_mem_congr (ids : List String) (r r' : EntityRecord)
    (h : T.upper r.handle = T.upper r'.handle) :
    decide (T.upper r.handle ∈ ids.map T.upper) = decide (T.upper r'.handle ∈ ids.map T.upper) := by
  rw [h]

/-- The distinct handles of what the preview starts from. -/
theorem filter_distinct {records : List EntityRecord} (p : EntityRecord → Bool)
    (h : (records.map fun r => T.upper r.handle).Nodup) :
    ((records.filter p).map fun r => T.upper r.handle).Nodup :=
  h.sublist (List.filter_sublist.map _)

/-- A scope of handles stores the fingerprint of the selected records. -/
theorem handles_stored {seen records selected : List EntityRecord} {q : PlanRequest}
    {c : PlanContext} {p : EntityRecord → Bool}
    (hdistinct : (records.map fun r => T.upper r.handle).Nodup)
    (hsub : selected.Sublist records) (hselected : selected = seen.filter p) (hne : selected ≠ [])
    (hp : ∀ r r', T.upper r.handle = T.upper r'.handle → p r = p r')
    (hregion : q.selection.region = none) (hrecords : c.records = selected)
    (hscope : c.validationScope =
      .handles (selected.map EntityRecord.handle) (recordsFingerprint T selected)) :
    Stored T seen q c selected := by
  refine ⟨by rw [hscope]; rfl, hdistinct.sublist (hsub.map _), by rw [hrecords]; exact fun _ => id,
    fun _ => ?_, fun b hb => ?_⟩
  · rw [hscope]
    exact collects_handles hselected hne hp
  · rw [snapshotRegion_none hregion] at hb
    cases hb

/-- The context of a successful preview. -/
theorem scopedNewPlan_stored {cache : List GeometryCacheEntry} {now : ℚ} {d : Drawing}
    {q : PlanRequest} {c : PlanContext} (h : scopedNewPlan T cache now d q = .ok c) :
    c.profileLayer = q.profileLayer ∧ c.sourceLayers = q.sourceLayers ∧
      c.drawingFingerprint = d.fingerprint ∧
      ∃ validated, Stored T (previewed cache now d q) q c validated := by
  unfold scopedNewPlan at h
  obtain ⟨_, -, h⟩ := bind_eq_ok.mp h
  obtain ⟨records, hrecords, h⟩ := bind_eq_ok.mp h
  obtain ⟨parts, hparts, h⟩ := bind_eq_ok.mp h
  obtain ⟨selected, hselect, h⟩ := bind_eq_ok.mp h
  obtain ⟨_, hne, h⟩ := bind_eq_ok.mp h
  obtain ⟨_, -, h⟩ := bind_eq_ok.mp h
  obtain ⟨_, -, h⟩ := bind_eq_ok.mp h
  obtain ⟨scope, hscope, h⟩ := bind_eq_ok.mp h
  cases h
  refine ⟨rfl, rfl, rfl, ?_⟩
  rw [check_eq_ok] at hne
  have hdistinct := detectParts_distinct hparts
  obtain ⟨hall, hpart, hinside, hids⟩ := selectRecords_ok hselect
  have hseen := previewRecords_ok hrecords
  unfold buildValidationScope at hscope
  rcases selection_kinds q.selection with hnone | ⟨hcurrent, hnopart, hnoregion, hnoids⟩ |
    ⟨part, hsome, hnocurrent, hnoregion, hnoids⟩ | ⟨b, hsome, hnocurrent, hnopart, hnoids⟩ |
    ⟨hsome, hnocurrent, hnopart, hnoregion⟩
  · -- nothing is selected: the scope is the modelspace
    obtain ⟨hnopart, hnoregion, hnoids, hnocurrent⟩ := isActive_false hnone
    have hselected := hall (Or.inl hnone)
    have hsame : records = previewed cache now d q := by
      rcases hseen with ⟨-, h⟩ | ⟨-, hcurrent, -⟩ | ⟨-, -, h⟩
      · exact h
      · rw [hnocurrent] at hcurrent
        cases hcurrent
      · rw [h, hnoids, hnoregion]
        rfl
    simp only [hnoids, hnocurrent, hnoregion, hnopart] at hscope
    cases hscope
    refine ⟨records, rfl, hdistinct, by rw [hselected]; exact fun _ => id, fun _ => ?_, ?_⟩
    · rw [hsame]
      rfl
    · intro b hb
      rw [snapshotRegion_none hnoregion] at hb
      cases hb
  · -- the current selection, stored by its handles
    have hselected := hall (Or.inr hcurrent)
    rw [if_pos (Or.inr hcurrent)] at hscope
    cases hscope
    have hfiltered : ∃ p : EntityRecord → Bool,
        (∀ r r', T.upper r.handle = T.upper r'.handle → p r = p r') ∧
        records = (previewed cache now d q).filter p := by
      rcases hseen with ⟨-, h⟩ | ⟨-, -, h⟩ | ⟨-, hnocurrent, -⟩
      · exact ⟨fun _ => true, fun _ _ _ => rfl, by rw [h, List.filter_true]⟩
      · exact ⟨_, upper_mem_congr d.currentSelection, h⟩
      · rw [hnocurrent] at hcurrent
        cases hcurrent
    obtain ⟨p, hp, hfiltered⟩ := hfiltered
    exact ⟨selected, handles_stored hdistinct (by rw [hselected]) (hselected.trans hfiltered) hne hp
      hnoregion rfl rfl⟩
  · -- a part, stored by the region around it
    obtain ⟨ids, hselected⟩ := hpart part hsome hnocurrent
    have hsame : records = previewed cache now d q := by
      rcases hseen with ⟨-, h⟩ | ⟨-, hcurrent, -⟩ | ⟨-, -, h⟩
      · exact h
      · rw [hnocurrent] at hcurrent
        cases hcurrent
      · rw [h, hnoids, hnoregion]
        rfl
    simp only [hnoids, hnocurrent, hnoregion, hsome] at hscope
    obtain ⟨region, hregion, hscope⟩ := bind_eq_ok.mp hscope
    cases hscope
    refine ⟨filterLocalRecords T [] (some region) .intersect records, rfl,
      hdistinct.sublist ((filterLocal_sublist _ _ _ _).map _), ?_, fun _ => by rw [hsame]; rfl, ?_⟩
    · intro r hr
      have hmem : r ∈ records := by
        have hr' : r ∈ withHandles T ids records := hselected ▸ hr
        exact (List.mem_filter.mp hr').1
      exact List.mem_filter.mpr ⟨hmem, expandedRecordBounds_selects hregion r hr⟩
    · intro b hb
      rw [snapshotRegion_none hnoregion] at hb
      cases hb
  · -- a region, stored with the fingerprint of what the preview started from
    have hselected := hinside b hsome hnopart hnocurrent
    simp only [hnoids, hnocurrent, hsome] at hscope
    cases hscope
    refine ⟨records, rfl, hdistinct, ?_, ?_, ?_⟩
    · intro r hr
      have hr' : r ∈ records.filter (b.selects q.selection.regionMode) := hselected ▸ hr
      exact (List.mem_filter.mp hr').1
    · intro hsnapshot
      rcases hseen with ⟨htoken, -⟩ | ⟨-, hcurrent, -⟩ | ⟨-, -, h⟩
      · obtain ⟨token, htoken⟩ := Option.isSome_iff_exists.mp htoken
        unfold snapshotRegion at hsnapshot
        rw [htoken, hsome] at hsnapshot
        cases hsnapshot
      · rw [hnocurrent] at hcurrent
        cases hcurrent
      · rw [h, hnoids, hsome]
        rfl
    · intro b' hb'
      have hb : b' = b := by
        unfold snapshotRegion at hb'
        rw [hsome] at hb'
        cases htoken : q.geometryCacheToken with
        | none => rw [htoken] at hb'; cases hb'
        | some token => rw [htoken] at hb'; cases hb'; rfl
      subst hb
      refine ⟨?_, rfl⟩
      rcases hseen with ⟨-, h⟩ | ⟨-, hcurrent, -⟩ | ⟨htoken, -, -⟩
      · exact h
      · rw [hnocurrent] at hcurrent
        cases hcurrent
      · unfold snapshotRegion at hb'
        rw [htoken] at hb'
        cases hb'
  · -- records named by their handles
    have hselected := hids hsome hnoregion hnopart hnocurrent
    rw [if_pos (Or.inl hsome)] at hscope
    cases hscope
    have hfiltered : selected = withHandles T q.selection.entityIds (previewed cache now d q) := by
      rcases hseen with ⟨-, h⟩ | ⟨-, hcurrent, -⟩ | ⟨-, -, h⟩
      · rw [hselected, h]
      · rw [hnocurrent] at hcurrent
        cases hcurrent
      · have h' : records = withHandles T q.selection.entityIds (previewed cache now d q) := by
          rw [h, hnoregion]
          exact if_neg hsome
        rw [hselected, h', withHandles_twice]
    exact ⟨selected, handles_stored hdistinct
      (by rw [hselected]; exact List.filter_sublist) hfiltered hne
      (upper_mem_congr q.selection.entityIds) hnoregion rfl rfl⟩

/-! ## The commit -/

/-- The record is still among some others, with the same type, layer, bounds and detail. -/
def Kept (T : Runtime) (r : EntityRecord) (records : List EntityRecord) : Prop :=
  ∃ r' ∈ records, T.upper r'.handle = T.upper r.handle ∧ r'.entityType = r.entityType ∧
    r'.layer = r.layer ∧ r'.bbox = r.bbox ∧ r'.detail = r.detail

/-- The context of a preview of the records `seen` is accepted on a drawing that has these, and
rejected on one that does not have every selected record as it was. -/
structure CommittedExactly (T : Runtime) (seen : List EntityRecord) (c : PlanContext) : Prop where
  accepted : ∀ cache now d, d.fingerprint = c.drawingFingerprint →
    (drawn d c.profileLayer c.sourceLayers).Perm seen →
    validateScopedCommitContext T cache now d c = .ok ()
  rejected : ∀ cache now d,
    (∃ r ∈ c.records, ¬ Kept T r (drawn d c.profileLayer c.sourceLayers)) →
    ∃ e, validateScopedCommitContext T cache now d c = .error e

theorem payload_inj {r r' : EntityRecord} (h : payload T r' = payload T r) :
    T.upper r'.handle = T.upper r.handle ∧ r'.entityType = r.entityType ∧
      r'.layer = r.layer ∧ r'.bbox = r.bbox ∧ r'.detail = r.detail := by
  simp only [payload, Bounds.toDict, Json.obj.injEq, List.cons.injEq, Prod.mk.injEq, true_and,
    and_true, Json.arr.injEq, Json.num.injEq, Json.str.injEq] at h
  obtain ⟨⟨⟨hmaxX, hmaxY⟩, hminX, hminY⟩, hdetail, hhandle, hlayer, htype⟩ := h
  have hbbox : r'.bbox = r.bbox := by
    cases hb' : r'.bbox
    cases hb : r.bbox
    simp only [hb, hb'] at hmaxX hmaxY hminX hminY
    subst hmaxX hmaxY hminX hminY
    rfl
  exact ⟨hhandle, htype, hlayer, hbbox, hdetail⟩

theorem collects_perm (scope : ValidationScope) {records records' : List EntityRecord}
    (h : records.Perm records') : (scope.collects T records).Perm (scope.collects T records') := by
  unfold ValidationScope.collects
  cases scope <;> exact filterLocal_perm _ _ _ h

theorem collects_subset (scope : ValidationScope) {records : List EntityRecord} :
    ∀ r ∈ scope.collects T records, r ∈ records := by
  unfold ValidationScope.collects
  cases scope <;> exact fun r hr => (filterLocal_sublist _ _ _ _).subset hr

/-- A passed commit finds every selected record as it was. -/
theorem kept_of_validated {cache : List GeometryCacheEntry} {now : ℚ} {d : Drawing}
    {q : PlanRequest} {c : PlanContext} {seen validated : List EntityRecord}
    (hstored : Stored T seen q c validated)
    (h : validateScopedCommitContext T cache now d c = .ok ()) :
    ∀ r ∈ c.records, Kept T r (drawn d c.profileLayer c.sourceLayers) := by
  intro r hr
  obtain ⟨-, hfingerprint⟩ := validate_eq_ok.mp h
  rw [hstored.fingerprint] at hfingerprint
  obtain ⟨-, hpayloads⟩ := payloads_of_fingerprint hfingerprint.symm
  obtain ⟨r', hr', hpayload⟩ := hpayloads r (hstored.selected r hr)
  exact ⟨r', collects_subset _ r' hr', payload_inj hpayload⟩

/-- On the same records the commit passes when it collects what was fingerprinted. -/
theorem validated_of_same {cache : List GeometryCacheEntry} {now : ℚ} {d : Drawing}
    {q : PlanRequest} {c : PlanContext} {seen validated : List EntityRecord}
    (hstored : Stored T seen q c validated) (hagain : c.validationScope.collects T seen = validated)
    (hdrawing : d.fingerprint = c.drawingFingerprint)
    (hsame : (drawn d c.profileLayer c.sourceLayers).Perm seen) :
    validateScopedCommitContext T cache now d c = .ok () := by
  have hperm := collects_perm c.validationScope (T := T) hsame
  rw [hagain] at hperm
  refine validate_eq_ok.mpr ⟨hdrawing, ?_⟩
  rw [hstored.fingerprint]
  refine (recordsFingerprint_perm hperm.symm ?_).symm
  exact hstored.distinct

theorem geometryOnly_twice (records : List EntityRecord) :
    geometryOnly (geometryOnly records) = geometryOnly records := by
  unfold geometryOnly
  rw [List.filter_filter]
  exact List.filter_congr fun r _ => Bool.and_self _

theorem geometryOnly_previewed (cache : List GeometryCacheEntry) (now : ℚ) (d : Drawing)
    (q : PlanRequest) : geometryOnly (previewed cache now d q) = previewed cache now d q := by
  unfold previewed
  cases q.geometryCacheToken with
  | none => exact geometryOnly_twice _
  | some token =>
      dsimp only
      split
      · exact geometryOnly_twice _
      · rfl

/-- A snapshot's context is accepted on the snapshot's own records only when all of them lie in the
region. -/
theorem inside_of_accepted {cache : List GeometryCacheEntry} {now : ℚ} {q : PlanRequest}
    {c : PlanContext} {seen validated : List EntityRecord} (hstored : Stored T seen q c validated)
    (hgeometry : geometryOnly seen = seen)
    (haccepted : validateScopedCommitContext T cache now
      { backend := .ezdxf, fingerprint := c.drawingFingerprint, records := fun _ _ => seen
        currentSelection := [] } c = .ok ())
    {b : Bounds} (hsnapshot : snapshotRegion q = some b) :
    ∀ r ∈ seen, b.selects q.selection.regionMode r = true := by
  obtain ⟨hall, hcollects⟩ := hstored.region b hsnapshot
  obtain ⟨-, hfingerprint⟩ := validate_eq_ok.mp haccepted
  rw [hstored.fingerprint, hall, drawn, hgeometry, hcollects] at hfingerprint
  exact List.length_filter_eq_length_iff.mp (payloads_of_fingerprint hfingerprint).1

/-- A preview is committed exactly onto what it was made from if and only if it did not restrict a
snapshot to a region that leaves some of its records out. -/
theorem committedExactly_iff {cache : List GeometryCacheEntry} {now : ℚ} {d : Drawing}
    {q : PlanRequest} {c : PlanContext} (h : scopedNewPlan T cache now d q = .ok c) :
    CommittedExactly T (previewed cache now d q) c ↔
      (q.geometryCacheToken ≠ none → ∀ b, q.selection.region = some b →
        ∀ r ∈ previewed cache now d q, b.selects q.selection.regionMode r = true) := by
  obtain ⟨-, -, -, validated, hstored⟩ := scopedNewPlan_stored h
  have hgeometry := geometryOnly_previewed cache now d q
  constructor
  · intro hexact htoken b hb
    obtain ⟨token, htoken⟩ := Option.ne_none_iff_exists'.mp htoken
    have hsnapshot : snapshotRegion q = some b := by
      unfold snapshotRegion
      rw [htoken, hb]
      rfl
    -- a drawing that has just the records of the preview
    exact inside_of_accepted hstored hgeometry
      (hexact.accepted cache now _ rfl (by rw [drawn, hgeometry])) hsnapshot
  · intro hinside
    refine ⟨fun cache' now' d' hdrawing hsame => ?_, fun cache' now' d' => ?_⟩
    · refine validated_of_same hstored ?_ hdrawing hsame
      cases hsnapshot : snapshotRegion q with
      | none => exact hstored.again hsnapshot
      | some b =>
          obtain ⟨hall, hcollects⟩ := hstored.region b hsnapshot
          have hbind := hsnapshot
          unfold snapshotRegion at hbind
          obtain ⟨token, htoken, hb⟩ := Option.bind_eq_some_iff.mp hbind
          rw [hcollects, hall]
          exact List.filter_eq_self.mpr (hinside (by rw [htoken]; exact Option.some_ne_none _) b hb)
    · rintro ⟨r, hr, hchanged⟩
      cases hvalidate : validateScopedCommitContext T cache' now' d' c with
      | error e => exact ⟨e, rfl⟩
      | ok _ => exact absurd (kept_of_validated hstored hvalidate r hr) hchanged

end

/-! ## A region over a snapshot -/

section Sample

def sampleRuntime : Runtime where
  upper := id
  repr := id
  handleLe a b := a.toList ≤ b.toList
  sha256 := Json.number
  sha256_injective := Json.number_injective

def square (x : ℚ) : Bounds where
  minX := x
  minY := 0
  maxX := x + 1
  maxY := 1
  le_x := by linarith
  le_y := by norm_num

def lineAt (handle : String) (x : ℚ) : EntityRecord where
  handle := handle
  entityType := "LINE"
  layer := "0"
  bbox := square x
  detail := .null

def sampleDrawing (records : List EntityRecord) : Drawing where
  backend := .fileIpc
  fingerprint := "bracket.dwg"
  records _ _ := records
  currentSelection := []

/-- The drawing's records are cached, and the preview asks for those around the first square. -/
def sampleCache (records : List EntityRecord) : List GeometryCacheEntry :=
  [{ token := "t", drawingId := "bracket.dwg", dimensionLayer := "DIM", sourceLayers := []
     includeDimensions := false, records := records, expiresAt := 600 }]

def sampleRequest : PlanRequest where
  selection := { region := some (square 0), single := by decide }
  clearExisting := false
  sourceLayers := []
  profileLayer := "DIM"
  geometryCacheToken := some "t"
  partGapTolerance := none
  candidates _ := .ok ()

def sampleContext (records selected : List EntityRecord) : PlanContext where
  records := selected
  profileLayer := "DIM"
  sourceLayers := []
  drawingFingerprint := "bracket.dwg"
  recordsFingerprint := recordsFingerprint sampleRuntime selected
  validationScope :=
    .region (square 0) .intersect (recordsFingerprint sampleRuntime records)

theorem detectParts_some {T : Runtime} {records : List EntityRecord}
    (h : checkDistinct T [] records = .ok ()) :
    ∃ parts, detectParts T records none = .ok parts := by
  unfold detectParts normalizeRecords
  rw [h]
  cases records with
  | nil => exact ⟨_, rfl⟩
  | cons first rest => exact ⟨_, rfl⟩

theorem sample_planned {records selected : List EntityRecord}
    (hgeometry : geometryOnly records = records)
    (hdistinct : checkDistinct sampleRuntime [] records = .ok ())
    (hselected : records.filter ((square 0).selects .intersect) = selected) (hne : selected ≠ []) :
    scopedNewPlan sampleRuntime (sampleCache records) 0 (sampleDrawing records) sampleRequest =
      .ok (sampleContext records selected) := by
  obtain ⟨parts, hparts⟩ := detectParts_some hdistinct
  have hrecords : previewRecords sampleRuntime (sampleCache records) 0 (sampleDrawing records)
      sampleRequest = .ok records := by
    show Except.ok (geometryOnly records) = _
    rw [hgeometry]
  have hselect : selectRecords sampleRuntime records sampleRequest.selection parts =
      .ok selected := by
    refine bind_eq_ok.mpr ⟨records, pass hdistinct rfl, ?_⟩
    rw [← hselected]
    rfl
  unfold scopedNewPlan
  refine pass (check_true (by rintro ⟨⟩)) ?_
  refine bind_eq_ok.mpr ⟨records, hrecords, ?_⟩
  refine bind_eq_ok.mpr ⟨parts, hparts, ?_⟩
  refine bind_eq_ok.mpr ⟨selected, hselect, ?_⟩
  exact pass (check_true hne) (pass (check_true rfl) (pass rfl rfl))

/-- One record of the snapshot lies outside the region: the untouched drawing is refused. -/
theorem cached_region_not_committed :
    scopedNewPlan sampleRuntime (sampleCache [lineAt "1A" 0, lineAt "1B" 4]) 0
      (sampleDrawing [lineAt "1A" 0, lineAt "1B" 4]) sampleRequest =
      .ok (sampleContext [lineAt "1A" 0, lineAt "1B" 4] [lineAt "1A" 0]) ∧
    ¬ CommittedExactly sampleRuntime
      (previewed (sampleCache [lineAt "1A" 0, lineAt "1B" 4]) 0
        (sampleDrawing [lineAt "1A" 0, lineAt "1B" 4]) sampleRequest)
      (sampleContext [lineAt "1A" 0, lineAt "1B" 4] [lineAt "1A" 0]) := by
  have hplanned := @sample_planned [lineAt "1A" 0, lineAt "1B" 4] [lineAt "1A" 0]
    (by decide +kernel) (by rfl) (by decide +kernel) (by decide +kernel)
  refine ⟨hplanned, fun hexact => ?_⟩
  obtain ⟨-, -, -, validated, hstored⟩ := scopedNewPlan_stored hplanned
  have hgeometry := geometryOnly_previewed (sampleCache [lineAt "1A" 0, lineAt "1B" 4]) 0
    (sampleDrawing [lineAt "1A" 0, lineAt "1B" 4]) sampleRequest
  have hinside := inside_of_accepted hstored hgeometry
    (hexact.accepted [] 0 _ rfl (by rw [drawn, hgeometry])) (b := square 0) rfl
  exact absurd (hinside (lineAt "1B" 4) (by decide +kernel)) (by decide +kernel)

/-- All records of the snapshot lie in the region. -/
theorem cached_region_committed :
    CommittedExactly sampleRuntime
      (previewed (sampleCache [lineAt "1A" 0]) 0 (sampleDrawing [lineAt "1A" 0]) sampleRequest)
      (sampleContext [lineAt "1A" 0] [lineAt "1A" 0]) ↔
    (sampleRequest.geometryCacheToken ≠ none → ∀ b, sampleRequest.selection.region = some b →
      ∀ r ∈ previewed (sampleCache [lineAt "1A" 0]) 0 (sampleDrawing [lineAt "1A" 0]) sampleRequest,
        b.selects sampleRequest.selection.regionMode r = true) :=
  committedExactly_iff (sample_planned (by decide +kernel) (by rfl) (by decide +kernel) (by decide +kernel))

end Sample

end AutocadMcp.Dimension
