import AutocadMcp.Dimension.Repair
import Mathlib.Data.List.Count
import Mathlib.Data.Rat.Floor

/-!
# What a repair leaves

After the issues of a fresh report the dimensions have the expected layer and style and one of
each kind is left. A dimension is moved without a look at where it lands, so it may come to
lie on another one that measures the same.
-/

namespace AutocadMcp.Dimension

open Plane

variable {K : Type} [Field K] [LinearOrder K]

/-! ## The findings by their code -/

omit [Field K] [LinearOrder K] in
theorem mem_wrongLayer {M : MathRuntime K} {expectedLayer : String} {d : DimensionEntity K}
    {f : Finding K} (h : f ∈ wrongLayer expectedLayer M d) :
    d.layer ≠ expectedLayer ∧ f.code = .wrongLayer ∧ f.repairable = true ∧
      f.dimensionHandles = [d.handle] := by
  unfold wrongLayer at h
  split_ifs at h with hlayer
  · obtain rfl := List.mem_singleton.mp h
    exact ⟨hlayer, rfl, rfl, rfl⟩
  · simp at h

omit [Field K] [LinearOrder K] in
theorem mem_wrongStyle {M : MathRuntime K} {expectedStyle : Option String}
    {d : DimensionEntity K} {f : Finding K} (h : f ∈ wrongStyle expectedStyle M d) :
    (∃ style, styleExpected expectedStyle = some style ∧ d.dimstyle ≠ style) ∧
      f.code = .wrongStyle ∧ f.repairable = true ∧ f.dimensionHandles = [d.handle] := by
  unfold wrongStyle at h
  split at h
  · simp at h
  · next style hstyle =>
      split_ifs at h with hdiffers
      · obtain rfl := List.mem_singleton.mp h
        exact ⟨⟨style, hstyle, hdiffers⟩, rfl, rfl, rfl⟩
      · simp at h

omit [Field K] [LinearOrder K] in
theorem duplicateFinding_eq_some {group : List (DimensionEntity K)} {f : Finding K}
    (h : duplicateFinding group = some f) : ∃ keep next rest,
      group.map DimensionEntity.handle = keep :: next :: rest ∧ f.code = .duplicateDimension ∧
        f.repairable = true ∧ f.data = .duplicates keep (next :: rest) := by
  unfold duplicateFinding at h
  split at h
  · next keep next rest hgroup =>
      cases h
      exact ⟨keep, next, rest, hgroup, rfl, rfl, rfl⟩
  · cases h

theorem textOverlap_code {M : MathRuntime K} {textHeight : K}
    {pair : DimensionEntity K × DimensionEntity K} {f : Finding K}
    (h : textOverlap M textHeight pair = some f) :
    f.code = .textOverlap ∧ f.repairable = true := by
  unfold textOverlap at h
  split at h
  · split_ifs at h
    cases h
    exact ⟨rfl, rfl⟩
  · cases h

theorem crossesGeometry_code {M : MathRuntime K} {segments : List (Segment K)} {tol : K}
    {d : DimensionEntity K} {f : Finding K} (h : crossesGeometry M segments tol d = some f) :
    f.code = .dimensionCrossesGeometry ∧ f.repairable = true := by
  unfold crossesGeometry at h
  split at h
  · cases h
  · split_ifs at h
    cases h
    exact ⟨rfl, rfl⟩

theorem lineOverlap_code [FloorRing K] {M : MathRuntime K} {tol : K}
    {pair : DimensionEntity K × DimensionEntity K} {f : Finding K}
    (h : lineOverlap M tol pair = some f) :
    f.code = .dimensionLineOverlap ∧ f.repairable = true := by
  unfold lineOverlap at h
  split at h
  · split_ifs at h
    cases h
    exact ⟨rfl, rfl⟩
  · cases h

section

variable [IsStrictOrderedRing K] [FloorRing K]

/-- The findings that ask to move a dimension. -/
def crowdingFindings (M : MathRuntime K) (source : List (Entity K)) (expectedLayer : String)
    (tol textHeight : K) : List (Finding K) :=
  let dimensions := dimensionsOf source
  (laterPairs dimensions).filterMap (textOverlap M textHeight) ++
    dimensions.filterMap (crossesGeometry M
      ((auditedGeometry source expectedLayer).flatMap fun g => g.shape.lineSegments) tol) ++
    (laterPairs dimensions).filterMap (lineOverlap M tol)

omit [FloorRing K] in
/-- A finding that asks for no repair of the drawing. -/
theorem not_repairable {M : MathRuntime K} {dimensions : List (DimensionEntity K)}
    {geometry : List (GeometryEntity K)} {tol : K} {htol : 0 < tol} {f : Finding K}
    (h : f ∈ dimensions.filterMap (detachedReference M geometry tol) ++
      dimensions.filterMap (chainAccumulation M dimensions htol) ++
      missingOverall dimensions tol (drawingExtents geometry) ++
      missingHoles dimensions geometry tol) :
    f.repairable = false ∧ f.code ≠ .wrongLayer ∧ f.code ≠ .wrongStyle ∧
      f.code ≠ .duplicateDimension := by
  simp only [List.mem_append, List.mem_filterMap] at h
  rcases h with ((⟨d, -, hf⟩ | ⟨d, -, hf⟩) | hf) | hf
  · unfold detachedReference at hf
    split at hf
    · cases hf
    · split_ifs at hf
      cases hf
      simp
  · unfold chainAccumulation at hf
    split at hf
    · cases hf
    · obtain ⟨values, -, rfl⟩ := Option.map_eq_some_iff.mp hf
      simp
  · unfold missingOverall at hf
    split at hf
    · simp at hf
    · dsimp only at hf
      split_ifs at hf
      all_goals first
        | (obtain rfl := List.mem_singleton.mp hf; simp)
        | simp at hf
  · unfold missingHoles at hf
    dsimp only at hf
    split_ifs at hf
    · obtain rfl := List.mem_singleton.mp hf
      simp
    · simp at hf

/-- The rest of the findings. -/
def designFindings (M : MathRuntime K) (source : List (Entity K)) (expectedLayer : String) {tol : K}
    (htol : 0 < tol) : List (Finding K) :=
  let dimensions := dimensionsOf source
  let geometry := auditedGeometry source expectedLayer
  dimensions.filterMap (detachedReference M geometry tol) ++
    dimensions.filterMap (chainAccumulation M dimensions htol) ++
    missingOverall dimensions tol (drawingExtents geometry) ++
    missingHoles dimensions geometry tol

section

variable {M : MathRuntime K} {source : List (Entity K)} {expectedLayer : String}
  {expectedStyle : Option String} {tol textHeight : K} {htol : 0 < tol} {f : Finding K}

theorem mem_findings : f ∈ findings M source expectedLayer expectedStyle htol textHeight ↔
    (∃ d ∈ dimensionsOf source, f ∈ wrongLayer expectedLayer M d) ∨
    (∃ d ∈ dimensionsOf source, f ∈ wrongStyle expectedStyle M d) ∨
    (∃ group ∈ signatureGroups (dimensionsOf source) tol, duplicateFinding group.2 = some f) ∨
    f ∈ crowdingFindings M source expectedLayer tol textHeight ∨
    f ∈ designFindings M source expectedLayer htol := by
  simp only [findings, crowdingFindings, designFindings, List.mem_append, List.mem_flatMap,
    List.mem_filterMap, and_or_left, exists_or, or_assoc]

omit [IsStrictOrderedRing K] in
theorem crowding_code (h : f ∈ crowdingFindings M source expectedLayer tol textHeight) :
    isCrowding f.code = true ∧ f.repairable = true ∧ f.code ≠ .wrongLayer ∧ f.code ≠ .wrongStyle ∧
      f.code ≠ .duplicateDimension := by
  simp only [crowdingFindings, List.mem_append, List.mem_filterMap] at h
  have hcode : (f.code = .textOverlap ∨ f.code = .dimensionCrossesGeometry ∨
      f.code = .dimensionLineOverlap) ∧ f.repairable = true := by
    rcases h with (⟨pair, -, hf⟩ | ⟨d, -, hf⟩) | ⟨pair, -, hf⟩
    · exact ⟨Or.inl (textOverlap_code hf).1, (textOverlap_code hf).2⟩
    · exact ⟨Or.inr (Or.inl (crossesGeometry_code hf).1), (crossesGeometry_code hf).2⟩
    · exact ⟨Or.inr (Or.inr (lineOverlap_code hf).1), (lineOverlap_code hf).2⟩
  obtain ⟨hcode | hcode | hcode, hrepairable⟩ := hcode <;> rw [hcode] <;>
    simp [isCrowding, hrepairable]

omit [FloorRing K] in
theorem design_code (h : f ∈ designFindings M source expectedLayer htol) :
    f.repairable = false ∧ f.code ≠ .wrongLayer ∧ f.code ≠ .wrongStyle ∧
      f.code ≠ .duplicateDimension := not_repairable h

/-- The code of a finding says what it was found by. -/
theorem finding_by_code (h : f ∈ findings M source expectedLayer expectedStyle htol textHeight) :
    (f.code = .wrongLayer → ∃ d ∈ dimensionsOf source, f ∈ wrongLayer expectedLayer M d) ∧
    (f.code = .wrongStyle → ∃ d ∈ dimensionsOf source, f ∈ wrongStyle expectedStyle M d) ∧
    (f.code = .duplicateDimension →
      ∃ group ∈ signatureGroups (dimensionsOf source) tol, duplicateFinding group.2 = some f) ∧
    (isCrowding f.code = true → f.repairable = true →
      f ∈ crowdingFindings M source expectedLayer tol textHeight) := by
  rcases mem_findings.mp h with ⟨d, hd, hf⟩ | ⟨d, hd, hf⟩ | ⟨group, hgroup, hf⟩ | hf | hf
  · have hcode := (mem_wrongLayer hf).2.1
    exact ⟨fun _ => ⟨d, hd, hf⟩, by simp [hcode], by simp [hcode], by simp [hcode, isCrowding]⟩
  · have hcode := (mem_wrongStyle hf).2.1
    exact ⟨by simp [hcode], fun _ => ⟨d, hd, hf⟩, by simp [hcode], by simp [hcode, isCrowding]⟩
  · obtain ⟨keep, next, rest, -, hcode, -⟩ := duplicateFinding_eq_some hf
    exact ⟨by simp [hcode], by simp [hcode], fun _ => ⟨group, hgroup, hf⟩,
      by simp [hcode, isCrowding]⟩
  · obtain ⟨-, -, hlayer, hstyle, hdup⟩ := crowding_code hf
    exact ⟨fun h => absurd h hlayer, fun h => absurd h hstyle, fun h => absurd h hdup,
      fun _ _ => hf⟩
  · obtain ⟨hrepairable, hlayer, hstyle, hdup⟩ := design_code hf
    exact ⟨fun h => absurd h hlayer, fun h => absurd h hstyle, fun h => absurd h hdup,
      fun _ h => absurd h (by simp [hrepairable])⟩

end

/-! ## Groups of one signature -/

/-- The first of the dimensions with its signature. -/
def First (dimensions : List (DimensionEntity K)) (tol : K) (d : DimensionEntity K) : Prop :=
  (dimensions.filter fun e => signature e tol = signature d tol).head? = some d

section

variable {dimensions : List (DimensionEntity K)} {tol : K}

omit [IsStrictOrderedRing K] in
theorem mem_signatureGroups {kind : ℤ × List (ℤ × ℤ) × K} {group : List (DimensionEntity K)} :
    (kind, group) ∈ signatureGroups dimensions tol ↔
      (∃ d ∈ dimensions, signature d tol = kind) ∧
        dimensions.filter (signature · tol = kind) = group := by
  rw [signatureGroups, mem_groupBy, foldl_snoc, List.nil_append]

omit [IsStrictOrderedRing K] in
/-- Some group has two members exactly when two signatures are the same. -/
theorem exists_duplicateFinding :
    (∃ group ∈ signatureGroups dimensions tol, ∃ f, duplicateFinding group.2 = some f) ↔
      ¬ (dimensions.map (signature · tol)).Nodup := by
  have htwo : ∀ group : List (DimensionEntity K),
      (∃ f, duplicateFinding group = some f) ↔ 1 < group.length := fun group => by
    rcases group with _ | ⟨d, _ | ⟨e, rest⟩⟩
    · simp [duplicateFinding]
    · simp [duplicateFinding]
    · simp [duplicateFinding]
  have hcount : ∀ kind, (dimensions.map (signature · tol)).count kind =
      (dimensions.filter (signature · tol = kind)).length := fun kind => by
    rw [List.count, List.countP_map, List.countP_eq_length_filter]
    exact congrArg List.length (List.filter_congr fun d _ => by
      by_cases hkind : signature d tol = kind <;> simp [hkind])
  rw [List.nodup_iff_count_le_one, not_forall]
  constructor
  · rintro ⟨⟨kind, group⟩, hgroup, hfound⟩
    have hlength := (htwo group).mp hfound
    rw [← (mem_signatureGroups.mp hgroup).2, ← hcount] at hlength
    exact ⟨kind, not_le.mpr hlength⟩
  · rintro ⟨kind, hcount'⟩
    rw [not_le, hcount] at hcount'
    replace hcount := hcount'
    refine ⟨(kind, dimensions.filter (signature · tol = kind)), ?_, (htwo _).mpr hcount⟩
    obtain ⟨d, hd⟩ := List.exists_mem_of_length_pos (zero_lt_one.trans hcount)
    exact mem_signatureGroups.mpr ⟨⟨d, (List.mem_filter.mp hd).1,
      of_decide_eq_true (List.mem_filter.mp hd).2⟩, rfl⟩

omit [IsStrictOrderedRing K] in
/-- A dimension is deleted as a duplicate unless it is the first with its signature. -/
theorem duplicate_iff (hdistinct : (dimensions.map DimensionEntity.handle).Nodup)
    {d : DimensionEntity K} (hd : d ∈ dimensions) :
    (∃ group ∈ signatureGroups dimensions tol, ∃ keep next rest,
      group.2.map DimensionEntity.handle = keep :: next :: rest ∧ d.handle ∈ next :: rest) ↔
      ¬ First dimensions tol d := by
  have hself : d ∈ dimensions.filter fun e => signature e tol = signature d tol :=
    List.mem_filter.mpr ⟨hd, by simp⟩
  constructor
  · rintro ⟨⟨kind, group⟩, hgroup, keep, next, rest, hhandles, hmem⟩ hfirst
    obtain ⟨-, hfilter⟩ := mem_signatureGroups.mp hgroup
    rcases group with _ | ⟨e, group⟩
    · cases hhandles
    · obtain ⟨rfl, htail⟩ := List.cons.inj hhandles
      rw [← htail] at hmem
      obtain ⟨e', he', hsame⟩ := List.mem_map.mp hmem
      have hsub : List.Sublist (e :: group) dimensions := hfilter ▸ List.filter_sublist
      have heq : e' = d := List.inj_on_of_nodup_map hdistinct
        (hsub.subset (List.mem_cons_of_mem _ he')) hd hsame
      subst heq
      have hkind : signature e' tol = kind := by
        have := List.mem_filter.mp (hfilter ▸ List.mem_cons_of_mem e he')
        exact of_decide_eq_true this.2
      subst hkind
      unfold First at hfirst
      rw [hfilter, List.head?_cons, Option.some.injEq] at hfirst
      subst hfirst
      exact (List.nodup_cons.mp (hsub.nodup (List.Nodup.of_map _ hdistinct))).1 he'
  · intro hnot
    rcases hgroup : dimensions.filter (fun e => signature e tol = signature d tol) with
      _ | ⟨e, group⟩
    · rw [hgroup] at hself
      cases hself
    · have hne : e ≠ d := by
        rintro rfl
        exact hnot (by rw [First, hgroup, List.head?_cons])
      rw [hgroup] at hself
      have htail : d ∈ group := (List.mem_cons.mp hself).resolve_left (Ne.symm hne)
      rcases group with _ | ⟨e', group⟩
      · cases htail
      · exact ⟨(signature d tol, e :: e' :: group), mem_signatureGroups.mpr ⟨⟨d, hd, rfl⟩, hgroup⟩,
          e.handle, e'.handle, group.map DimensionEntity.handle, rfl, List.mem_map_of_mem htail⟩

omit [IsStrictOrderedRing K] in
/-- Each dimension has one like it that is the first. -/
theorem existsUnique_first {d : DimensionEntity K} (hd : d ∈ dimensions) :
    ∃! e, e ∈ dimensions ∧ signature e tol = signature d tol ∧ First dimensions tol e := by
  rcases hgroup : dimensions.filter (fun e => signature e tol = signature d tol) with _ | ⟨e, group⟩
  · have := List.filter_eq_nil_iff.mp hgroup d hd
    simp at this
  · have he := List.mem_filter.mp (hgroup ▸ List.mem_cons_self : e ∈ dimensions.filter
      fun e => signature e tol = signature d tol)
    have hkind : signature e tol = signature d tol := of_decide_eq_true he.2
    refine ⟨e, ⟨he.1, hkind, by rw [First, hkind, hgroup, List.head?_cons]⟩, ?_⟩
    rintro e' ⟨-, hkind', hfirst⟩
    rw [First, hkind', hgroup, List.head?_cons, Option.some.injEq] at hfirst
    exact hfirst.symm

end

/-! ## The issues of a fresh report -/

omit [Field K] [LinearOrder K] [IsStrictOrderedRing K] [FloorRing K] in
theorem mem_numbered {pending : List (Finding K)} {f : Finding K} :
    f ∈ pending ↔ ∃ issue ∈ numbered pending, issue.toFinding = f := by
  have hmap : (numbered pending).map DimensionIssue.toFinding = pending := by
    refine List.ext_getElem (by simp [numbered]) fun i _ _ => ?_
    simp [numbered]
  conv_lhs => rw [← hmap]
  exact List.mem_map

/-- A finding that crowds a dimension out names it last. -/
def crowded (M : MathRuntime K) (source : List (Entity K)) (expectedLayer : String)
    (tol textHeight : K) (d : DimensionEntity K) : Bool :=
  (crowdingFindings M source expectedLayer tol textHeight).any fun f =>
    f.dimensionHandles.getLast? = some d.handle

section

variable {M : MathRuntime K} {source : List (Entity K)} {expectedLayer : String}
  {expectedStyle : Option String} {tol textHeight : K} {htol : 0 < tol}
  {audit : DimensionAuditReport K} {d : DimensionEntity K}

theorem relayered_iff (hdistinct : ((dimensionsOf source).map DimensionEntity.handle).Nodup)
    (hd : d ∈ dimensionsOf source) :
    ((numbered (findings M source expectedLayer expectedStyle htol textHeight)).any
      fun issue => layerTarget issue = some d.handle) = true ↔ d.layer ≠ expectedLayer := by
  rw [List.any_eq_true]
  constructor
  · rintro ⟨issue, hissue, htarget⟩
    rw [decide_eq_true_eq, layerTarget] at htarget
    split_ifs at htarget with hasks
    obtain ⟨d', hd', hf⟩ := (finding_by_code (mem_numbered.mpr ⟨issue, hissue, rfl⟩)).1 hasks.2
    obtain ⟨hlayer, -, -, hhandles⟩ := mem_wrongLayer hf
    rw [hhandles, List.head?_cons, Option.some.injEq] at htarget
    rwa [List.inj_on_of_nodup_map hdistinct hd' hd htarget] at hlayer
  · intro hlayer
    obtain ⟨f, hf⟩ : ∃ f, f ∈ wrongLayer expectedLayer M d := by simp [wrongLayer, hlayer]
    have hfound : f ∈ findings M source expectedLayer expectedStyle htol textHeight :=
      mem_findings.mpr (Or.inl ⟨d, hd, hf⟩)
    obtain ⟨issue, hissue, rfl⟩ := mem_numbered.mp hfound
    obtain ⟨-, hcode, hrepairable, hhandles⟩ := mem_wrongLayer hf
    refine ⟨issue, hissue, decide_eq_true ?_⟩
    rw [layerTarget, if_pos ⟨hrepairable, hcode⟩, hhandles, List.head?_cons]

theorem restyled_iff (hdistinct : ((dimensionsOf source).map DimensionEntity.handle).Nodup)
    (hd : d ∈ dimensionsOf source) (haudit : audit.expectedStyle = expectedStyle) :
    ((numbered (findings M source expectedLayer expectedStyle htol textHeight)).any
      fun issue => styleTarget audit issue = some d.handle) = true ↔
      ∃ style, styleExpected expectedStyle = some style ∧ d.dimstyle ≠ style := by
  rw [List.any_eq_true]
  constructor
  · rintro ⟨issue, hissue, htarget⟩
    rw [decide_eq_true_eq, styleTarget] at htarget
    split_ifs at htarget with hasks
    obtain ⟨d', hd', hf⟩ := (finding_by_code (mem_numbered.mpr ⟨issue, hissue, rfl⟩)).2.1 hasks.2.1
    obtain ⟨hstyle, -, -, hhandles⟩ := mem_wrongStyle hf
    rw [hhandles, List.head?_cons, Option.some.injEq] at htarget
    rwa [List.inj_on_of_nodup_map hdistinct hd' hd htarget] at hstyle
  · rintro ⟨style, hexpected, hstyle⟩
    obtain ⟨f, hf⟩ : ∃ f, f ∈ wrongStyle expectedStyle M d := by
      simp [wrongStyle, hexpected, hstyle]
    have hfound : f ∈ findings M source expectedLayer expectedStyle htol textHeight :=
      mem_findings.mpr (Or.inr (Or.inl ⟨d, hd, hf⟩))
    obtain ⟨issue, hissue, rfl⟩ := mem_numbered.mp hfound
    obtain ⟨-, hcode, hrepairable, hhandles⟩ := mem_wrongStyle hf
    refine ⟨issue, hissue, decide_eq_true ?_⟩
    rw [styleTarget, if_pos ⟨hrepairable, hcode, by rw [haudit, hexpected]; rfl⟩, hhandles,
      List.head?_cons]

theorem doomed_iff (hdistinct : ((dimensionsOf source).map DimensionEntity.handle).Nodup)
    (hd : d ∈ dimensionsOf source) :
    d.handle ∈ (numbered (findings M source expectedLayer expectedStyle htol textHeight)).flatMap
      doomedBy ↔ ¬ First (dimensionsOf source) tol d := by
  rw [← duplicate_iff hdistinct hd, List.mem_flatMap]
  constructor
  · rintro ⟨issue, hissue, hdoomed⟩
    rw [doomedBy] at hdoomed
    split_ifs at hdoomed with hasks
    · obtain ⟨group, hgroup, hf⟩ :=
        (finding_by_code (mem_numbered.mpr ⟨issue, hissue, rfl⟩)).2.2.1 hasks.2
      obtain ⟨keep, next, rest, hhandles, -, -, hdata⟩ := duplicateFinding_eq_some hf
      rw [hdata] at hdoomed
      exact ⟨group, hgroup, keep, next, rest, hhandles, hdoomed⟩
    · cases hdoomed
  · rintro ⟨group, hgroup, keep, next, rest, hhandles, hdoomed⟩
    obtain ⟨f, hf⟩ : ∃ f, duplicateFinding group.2 = some f := by
      unfold duplicateFinding
      rw [hhandles]
      exact ⟨_, rfl⟩
    have hfound : f ∈ findings M source expectedLayer expectedStyle htol textHeight :=
      mem_findings.mpr (Or.inr (Or.inr (Or.inl ⟨group, hgroup, hf⟩)))
    obtain ⟨issue, hissue, rfl⟩ := mem_numbered.mp hfound
    obtain ⟨keep', next', rest', hhandles', hcode, hrepairable, hdata⟩ :=
      duplicateFinding_eq_some hf
    rw [hhandles] at hhandles'
    obtain ⟨rfl, hrest⟩ := List.cons.inj hhandles'
    refine ⟨issue, hissue, ?_⟩
    rw [doomedBy, if_pos ⟨hrepairable, hcode⟩, hdata, ← hrest]
    exact hdoomed

theorem moved_iff (hdistinct : ((dimensionsOf source).map DimensionEntity.handle).Nodup)
    (hd : d ∈ dimensionsOf source) (hfirst : First (dimensionsOf source) tol d) :
    MovedBy source (numbered (findings M source expectedLayer expectedStyle htol textHeight))
        d.handle ↔
      crowded M source expectedLayer tol textHeight d = true ∧ d.defpoint.isSome = true ∧
        freelyMovable d = true := by
  rw [crowded, List.any_eq_true]
  constructor
  · rintro ⟨before, issue, after, hsplit, htarget, -, d', hd', hhandle, hbase, hfree⟩
    obtain rfl : d' = d := List.inj_on_of_nodup_map hdistinct hd' hd hhandle
    have hissue : issue ∈ numbered (findings M source expectedLayer expectedStyle htol textHeight) :=
      hsplit ▸ List.mem_append_right _ List.mem_cons_self
    rw [moveTarget] at htarget
    split_ifs at htarget with hasks
    exact ⟨⟨issue.toFinding, (finding_by_code (mem_numbered.mpr ⟨issue, hissue, rfl⟩)).2.2.2
      hasks.2 hasks.1, decide_eq_true htarget⟩, hbase, hfree⟩
  · rintro ⟨⟨f, hf, hlast⟩, hbase, hfree⟩
    have hfound : f ∈ findings M source expectedLayer expectedStyle htol textHeight :=
      mem_findings.mpr (Or.inr (Or.inr (Or.inr (Or.inl hf))))
    obtain ⟨issue, hissue, rfl⟩ := mem_numbered.mp hfound
    obtain ⟨before, after, hsplit⟩ := List.append_of_mem hissue
    obtain ⟨hcrowding, hrepairable, -⟩ := crowding_code hf
    refine ⟨before, issue, after, hsplit, ?_, ?_, d, hd, rfl, hbase, hfree⟩
    · rw [moveTarget, if_pos ⟨hrepairable, hcrowding⟩]
      exact of_decide_eq_true hlast
    · -- the first of its kind is deleted by no issue at all
      intro hdoomed
      have hissues : d.handle ∈ (numbered (findings M source expectedLayer expectedStyle htol
          textHeight)).flatMap doomedBy := by
        rw [hsplit, List.flatMap_append]
        exact List.mem_append_left _ hdoomed
      exact (doomed_iff hdistinct hd).mp hissues hfirst

end

/-! ## After the repair -/

/-- Where a dimension that is left comes to lie. -/
def landing (M : MathRuntime K) (source : List (Entity K)) (tol textHeight : K)
    (report : DimensionAuditReport K) (spacing : Option K) (d : DimensionEntity K) :
    DimensionEntity K :=
  if crowded M source report.expectedLayer tol textHeight d ∧ d.defpoint.isSome ∧
      freelyMovable d then
    shift (lane report (laneSpacingOf report spacing) d) d
  else d

/-- The drawing after a repair for all issues of a fresh report, audited again. -/
structure Repaired (before after : List (Entity K)) (report again : DimensionAuditReport K)
    (result : DimensionRepairResult K) (tol : K) : Prop where
  layers : ∀ issue ∈ again.issues, issue.code ≠ .wrongLayer
  styles : ∀ issue ∈ again.issues, issue.code ≠ .wrongStyle
  duplicates : ∀ issue ∈ again.issues, issue.code ≠ .duplicateDimension
  oneOfEach : ∀ d ∈ dimensionsOf before, ∃! e, e ∈ dimensionsOf before ∧
    signature e tol = signature d tol ∧
      e.handle ∈ (dimensionsOf after).map DimensionEntity.handle
  kept : ∀ d ∈ dimensionsOf before,
    (∀ e ∈ dimensionsOf before, signature e tol = signature d tol → e = d) →
      d.handle ∈ (dimensionsOf after).map DimensionEntity.handle
  geometry : (after.filter fun e => e.dimension?.isNone) =
    before.filter fun e => e.dimension?.isNone
  movedOnce : (result.actions.filterMap RepairAction.movedHandle).Nodup
  unresolved : result.unresolvedIssueIds =
    (report.issues.filter fun issue => ∀ action ∈ result.actions,
      action.issueId ≠ issue.issueId).map DimensionIssue.issueId

omit [IsStrictOrderedRing K] [FloorRing K] in
theorem filter_redrawn {audit : DimensionAuditReport K} {laneSpacing : K}
    {seen : List (DimensionIssue K)} {moved deleted : List String} (source : List (Entity K)) :
    ((source.filterMap (redrawn audit laneSpacing seen moved deleted)).filter
      fun e => e.dimension?.isNone) = source.filter fun e => e.dimension?.isNone := by
  rw [List.filter_filterMap, ← List.filterMap_eq_filter]
  refine List.filterMap_congr fun e _ => ?_
  cases e with
  | dimension d =>
      simp only [redrawn]
      split_ifs <;> rfl
  | geometry g => rfl
  | other dxftype handle => rfl

omit [IsStrictOrderedRing K] [FloorRing K] in
theorem auditedGeometry_redrawn {audit : DimensionAuditReport K} {laneSpacing : K}
    {seen : List (DimensionIssue K)} {moved deleted : List String} (source : List (Entity K))
    (expectedLayer : String) :
    auditedGeometry (source.filterMap (redrawn audit laneSpacing seen moved deleted))
      expectedLayer = auditedGeometry source expectedLayer := by
  unfold auditedGeometry
  congr 1
  rw [List.filterMap_filterMap]
  refine List.filterMap_congr fun e _ => ?_
  cases e with
  | dimension d =>
      simp only [redrawn]
      split_ifs <;> rfl
  | geometry g => rfl
  | other dxftype handle => rfl

section

variable {M : MathRuntime K} {source : List (Entity K)} {expectedLayer : String}
  {expectedStyle : Option String} {tolerance : Option K} {textHeight : K}
  {report : DimensionAuditReport K}

theorem auditDimensions_eq_ok :
    auditDimensions M source expectedLayer expectedStyle tolerance textHeight = .ok report ↔
      ∃ htol : 0 < auditTolerance source expectedLayer tolerance, 0 < textHeight ∧
        report =
          { issues := numbered (findings M source expectedLayer expectedStyle htol textHeight)
            dimensionCount := (dimensionsOf source).length
            geometryCount := (auditedGeometry source expectedLayer).length
            expectedLayer := expectedLayer
            expectedStyle := expectedStyle
            extents := drawingExtents (auditedGeometry source expectedLayer) } := by
  unfold auditDimensions
  dsimp only
  split_ifs with htol hheight
  · simp [htol, hheight, eq_comm]
  · simp [hheight]
  · simp [htol]

/-- What is left of a fresh report's drawing, dimension by dimension. -/
theorem left_of_fresh {tol : K} {htol : 0 < tol} {laneSpacing : K}
    (hdistinct : ((dimensionsOf source).map DimensionEntity.handle).Nodup)
    (hnamed : ∀ d ∈ dimensionsOf source, d.handle ≠ "")
    (hissues : report.issues =
      numbered (findings M source expectedLayer expectedStyle htol textHeight))
    (hlayer : report.expectedLayer = expectedLayer) (hstyle : report.expectedStyle = expectedStyle)
    {s : RepairState K} (hs : Progress report laneSpacing source report.issues s)
    {d : DimensionEntity K} (hd : d ∈ dimensionsOf source) :
    (d.handle ∉ s.deleted ↔ First (dimensionsOf source) tol d) ∧
      (retouched report laneSpacing report.issues s.moved d).layer = expectedLayer ∧
      (∀ style, styleExpected expectedStyle = some style →
        (retouched report laneSpacing report.issues s.moved d).dimstyle = style) ∧
      (First (dimensionsOf source) tol d → (d.handle ∈ s.moved ↔
        crowded M source report.expectedLayer tol textHeight d = true ∧
          d.defpoint.isSome = true ∧ freelyMovable d = true)) := by
  refine ⟨?_, ?_, ?_, ?_⟩
  · rw [hs.deleted, List.mem_filter, hissues, doomed_iff hdistinct hd, not_and_or, not_not]
    simp [mem_knownHandles hnamed hd]
  · simp only [retouched]
    rw [hissues, hlayer]
    by_cases hwrong : d.layer ≠ expectedLayer
    · exact if_pos ((relayered_iff hdistinct hd).mpr hwrong)
    · rw [if_neg (mt (relayered_iff hdistinct hd).mp hwrong)]
      exact not_not.mp hwrong
  · intro style hexpected
    simp only [retouched]
    rw [hissues, hstyle, hexpected]
    by_cases hwrong : d.dimstyle ≠ style
    · exact if_pos ((restyled_iff hdistinct hd hstyle).mpr ⟨style, hexpected, hwrong⟩)
    · dsimp only
      split_ifs
      · rfl
      · exact not_not.mp hwrong
  · intro hfirst
    rw [hs.moved, hissues, moved_iff hdistinct hd hfirst, hlayer]

omit [IsStrictOrderedRing K] [FloorRing K] in
/-- A repair with all issues that returned has gone through the loop. -/
theorem repairDimensionLayout_all {spacing : Option K} {result : DimensionRepairResult K}
    {after : List (Entity K)}
    (h : repairDimensionLayout source report none spacing true false = .ok (result, after)) :
    ∃ s, s = report.issues.foldl (repairIssue report (laneSpacingOf report spacing) true
        (knownHandles source)) ⟨source, [], [], [], []⟩ ∧ after = s.source ∧
      result = ⟨true, s.actions, (report.issues.filter fun issue =>
        issue.issueId ∉ s.resolved).map DimensionIssue.issueId⟩ := by
  have hall : (report.issues.filter fun _ => true) = report.issues :=
    List.filter_eq_self.mpr fun _ _ => rfl
  unfold repairDimensionLayout at h
  rw [Bool.false_and, if_neg Bool.false_ne_true] at h
  dsimp only at h
  rw [hall] at h
  split_ifs at h
  cases h
  exact ⟨_, rfl, rfl, rfl⟩

omit [IsStrictOrderedRing K] [FloorRing K] in
theorem repairDimensionLayout_returns {spacing : Option K}
    (hspacing : 0 < laneSpacingOf report spacing) :
    ∃ result after,
      repairDimensionLayout source report none spacing true false = .ok (result, after) := by
  unfold repairDimensionLayout
  rw [Bool.false_and, if_neg Bool.false_ne_true]
  dsimp only
  rw [if_neg (not_le.mpr hspacing)]
  exact ⟨_, _, rfl⟩

/-- The dimensions of one signature are no more than one after the repair exactly when no two of
the dimensions that are left land on one signature. -/
theorem nodup_signatures_iff {tol : K} {htol : 0 < tol} {spacing : Option K}
    (hdistinct : ((dimensionsOf source).map DimensionEntity.handle).Nodup)
    (hnamed : ∀ d ∈ dimensionsOf source, d.handle ≠ "")
    (hissues : report.issues =
      numbered (findings M source expectedLayer expectedStyle htol textHeight))
    (hlayer : report.expectedLayer = expectedLayer) (hstyle : report.expectedStyle = expectedStyle)
    {s : RepairState K}
    (hs : Progress report (laneSpacingOf report spacing) source report.issues s) :
    ((dimensionsOf s.source).map (signature · tol)).Nodup ↔
      ∀ d ∈ dimensionsOf source, ∀ e ∈ dimensionsOf source,
        First (dimensionsOf source) tol d → First (dimensionsOf source) tol e →
        signature (landing M source tol textHeight report spacing d) tol =
          signature (landing M source tol textHeight report spacing e) tol → d = e := by
  have hleft := fun d hd =>
    @left_of_fresh _ _ _ _ _ M source expectedLayer expectedStyle textHeight report tol htol
      (laneSpacingOf report spacing) hdistinct hnamed hissues hlayer hstyle s hs d hd
  have hlands : ∀ d ∈ dimensionsOf source, First (dimensionsOf source) tol d →
      signature (retouched report (laneSpacingOf report spacing) report.issues s.moved d) tol =
        signature (landing M source tol textHeight report spacing d) tol := fun d hd hfirst => by
    have hmoved := (hleft d hd).2.2.2 hfirst
    by_cases hd' : d.handle ∈ s.moved
    · rw [landing, if_pos (hmoved.mp hd')]
      simp only [retouched, if_pos hd']
      rfl
    · rw [landing, if_neg (mt hmoved.mpr hd')]
      simp only [retouched, if_neg hd']
      rfl
  have hnodup : ((dimensionsOf source).filter fun d => d.handle ∉ s.deleted).Nodup :=
    (List.Nodup.of_map _ hdistinct).filter _
  rw [hs.drawn, dimensionsOf_redrawn, List.map_map, List.nodup_map_iff_inj_on hnodup]
  simp only [List.mem_filter, decide_eq_true_eq, Function.comp]
  constructor
  · intro h d hd e he hfirst hfirst' hsame
    refine h d ⟨hd, (hleft d hd).1.mpr hfirst⟩ e ⟨he, (hleft e he).1.mpr hfirst'⟩ ?_
    rw [hlands d hd hfirst, hlands e he hfirst', hsame]
  · rintro h d ⟨hd, hkept⟩ e ⟨he, hkept'⟩ hsame
    have hfirst := (hleft d hd).1.mp hkept
    have hfirst' := (hleft e he).1.mp hkept'
    refine h d hd e he hfirst hfirst' ?_
    rwa [hlands d hd hfirst, hlands e he hfirst'] at hsame

/-- A repair keeps its promises exactly when no two signatures are the same after it. -/
theorem repaired_iff_nodup {spacing : Option K} {result : DimensionRepairResult K}
    {after : List (Entity K)}
    (hdistinct : ((dimensionsOf source).map DimensionEntity.handle).Nodup)
    (hnamed : ∀ d ∈ dimensionsOf source, d.handle ≠ "")
    (haudit : auditDimensions M source expectedLayer expectedStyle tolerance textHeight = .ok report)
    (hrepair : repairDimensionLayout source report none spacing true false = .ok (result, after)) :
    ∃ again,
      auditDimensions M after expectedLayer expectedStyle tolerance textHeight = .ok again ∧
        (Repaired source after report again result
            (auditTolerance source expectedLayer tolerance) ↔
          ((dimensionsOf after).map
            (signature · (auditTolerance source expectedLayer tolerance))).Nodup) := by
  obtain ⟨htol, hheight, hreport⟩ := auditDimensions_eq_ok.mp haudit
  have hissues : report.issues =
      numbered (findings M source expectedLayer expectedStyle htol textHeight) := by rw [hreport]
  have hlayer : report.expectedLayer = expectedLayer := by rw [hreport]
  have hstyle : report.expectedStyle = expectedStyle := by rw [hreport]
  obtain ⟨s, hfold, rfl, rfl⟩ := repairDimensionLayout_all hrepair
  have hs : Progress report (laneSpacingOf report spacing) source report.issues s :=
    hfold ▸ progress_foldl hdistinct hnamed report.issues
  have hleft := fun d hd =>
    @left_of_fresh _ _ _ _ _ M source expectedLayer expectedStyle textHeight report _ htol
      (laneSpacingOf report spacing) hdistinct hnamed hissues hlayer hstyle s hs d hd
  generalize htolerance : auditTolerance source expectedLayer tolerance = tol at *
  have hafter : auditTolerance s.source expectedLayer tolerance = tol := by
    rw [← htolerance, auditTolerance, auditTolerance, hs.drawn, auditedGeometry_redrawn]
  have htol' : 0 < auditTolerance s.source expectedLayer tolerance := hafter ▸ htol
  have hdimensions := @dimensionsOf_redrawn _ _ _ report (laneSpacingOf report spacing)
    report.issues source s.moved s.deleted
  rw [← hs.drawn] at hdimensions
  refine ⟨_, auditDimensions_eq_ok.mpr ⟨htol', hheight, rfl⟩, ?_⟩
  have hkept : ∀ e ∈ dimensionsOf source,
      (e.handle ∈ (dimensionsOf s.source).map DimensionEntity.handle ↔
        First (dimensionsOf source) tol e) := fun e he => by
    rw [← (hleft e he).1, hdimensions, List.map_map, List.mem_map]
    constructor
    · rintro ⟨d, hd, hsame⟩
      obtain ⟨hd, hkept⟩ := List.mem_filter.mp hd
      rw [Function.comp, retouched_handle] at hsame
      rw [← hsame]
      exact of_decide_eq_true hkept
    · intro hkept
      exact ⟨e, List.mem_filter.mpr ⟨he, decide_eq_true hkept⟩, retouched_handle _ _ _⟩
  have hduplicates : (∃ f ∈ findings M s.source expectedLayer expectedStyle htol' textHeight,
      f.code = .duplicateDimension) ↔
        ¬ ((dimensionsOf s.source).map (signature · tol)).Nodup := by
    rw [← exists_duplicateFinding, ← hafter]
    constructor
    · rintro ⟨f, hf, hcode⟩
      obtain ⟨group, hgroup, hfound⟩ := (finding_by_code hf).2.2.1 hcode
      exact ⟨group, hgroup, f, hfound⟩
    · rintro ⟨group, hgroup, f, hfound⟩
      obtain ⟨-, -, -, -, hcode, -⟩ := duplicateFinding_eq_some hfound
      exact ⟨f, mem_findings.mpr (Or.inr (Or.inr (Or.inl ⟨group, hgroup, hfound⟩))), hcode⟩
  have hone : ∀ d ∈ dimensionsOf source, ∃! e, e ∈ dimensionsOf source ∧
      signature e tol = signature d tol ∧ First (dimensionsOf source) tol e := fun d hd =>
    existsUnique_first hd
  constructor
  · intro hrepaired
    by_contra htwice
    obtain ⟨f, hf, hcode⟩ := hduplicates.mpr htwice
    obtain ⟨issue, hissue, rfl⟩ := mem_numbered.mp hf
    exact hrepaired.duplicates issue hissue hcode
  · intro honce
    refine ⟨?_, ?_, ?_, ?_, ?_, ?_, ?_, ?_⟩
    · intro issue hissue hcode
      obtain ⟨d, hd, hf⟩ := (finding_by_code (mem_numbered.mpr ⟨issue, hissue, rfl⟩)).1 hcode
      rw [hdimensions] at hd
      obtain ⟨d, hmem, rfl⟩ := List.mem_map.mp hd
      exact (mem_wrongLayer hf).1 (hleft d (List.mem_filter.mp hmem).1).2.1
    · intro issue hissue hcode
      obtain ⟨d, hd, hf⟩ := (finding_by_code (mem_numbered.mpr ⟨issue, hissue, rfl⟩)).2.1 hcode
      rw [hdimensions] at hd
      obtain ⟨d, hmem, rfl⟩ := List.mem_map.mp hd
      obtain ⟨⟨style, hexpected, hdiffers⟩, -⟩ := mem_wrongStyle hf
      exact hdiffers ((hleft d (List.mem_filter.mp hmem).1).2.2.1 style hexpected)
    · intro issue hissue hcode
      exact hduplicates.mp ⟨issue.toFinding, mem_numbered.mpr ⟨issue, hissue, rfl⟩, hcode⟩ honce
    · intro d hd
      obtain ⟨e, ⟨he, hkind, hfirst⟩, hunique⟩ := hone d hd
      refine ⟨e, ⟨he, hkind, (hkept e he).mpr hfirst⟩, ?_⟩
      rintro e' ⟨he', hkind', hleft'⟩
      exact hunique e' ⟨he', hkind', (hkept e' he').mp hleft'⟩
    · intro d hd honly
      obtain ⟨e, ⟨he, hkind, hfirst⟩, -⟩ := hone d hd
      exact (hkept d hd).mpr (honly e he hkind ▸ hfirst)
    · rw [hs.drawn]
      exact filter_redrawn source
    · show (s.actions.filterMap RepairAction.movedHandle).Nodup
      rw [hs.moves]
      exact hs.once
    · show (report.issues.filter _).map _ = (report.issues.filter _).map _
      refine congrArg _ (List.filter_congr fun issue _ => ?_)
      rw [Bool.eq_iff_iff, decide_eq_true_eq, decide_eq_true_eq, hs.acted]
      simp

/-- What the landing places decide. -/
theorem nodup_after_iff {spacing : Option K} {result : DimensionRepairResult K}
    {after : List (Entity K)}
    (hdistinct : ((dimensionsOf source).map DimensionEntity.handle).Nodup)
    (hnamed : ∀ d ∈ dimensionsOf source, d.handle ≠ "")
    (haudit : auditDimensions M source expectedLayer expectedStyle tolerance textHeight = .ok report)
    (hrepair : repairDimensionLayout source report none spacing true false = .ok (result, after)) :
    ((dimensionsOf after).map
        (signature · (auditTolerance source expectedLayer tolerance))).Nodup ↔
      ∀ d ∈ dimensionsOf source, ∀ e ∈ dimensionsOf source,
        First (dimensionsOf source) (auditTolerance source expectedLayer tolerance) d →
        First (dimensionsOf source) (auditTolerance source expectedLayer tolerance) e →
        signature (landing M source (auditTolerance source expectedLayer tolerance) textHeight
            report spacing d) (auditTolerance source expectedLayer tolerance) =
          signature (landing M source (auditTolerance source expectedLayer tolerance) textHeight
            report spacing e) (auditTolerance source expectedLayer tolerance) → d = e := by
  obtain ⟨htol, hheight, hreport⟩ := auditDimensions_eq_ok.mp haudit
  obtain ⟨s, hfold, rfl, rfl⟩ := repairDimensionLayout_all hrepair
  have hs : Progress report (laneSpacingOf report spacing) source report.issues s :=
    hfold ▸ progress_foldl hdistinct hnamed report.issues
  exact nodup_signatures_iff hdistinct hnamed (by rw [hreport]) (by rw [hreport])
    (by rw [hreport]) hs

/-- A repair keeps its promises exactly when no dimension that is left is moved to where it has
the signature of another one. -/
theorem repaired_iff {spacing : Option K} {result : DimensionRepairResult K}
    {after : List (Entity K)}
    (hdistinct : ((dimensionsOf source).map DimensionEntity.handle).Nodup)
    (hnamed : ∀ d ∈ dimensionsOf source, d.handle ≠ "")
    (haudit : auditDimensions M source expectedLayer expectedStyle tolerance textHeight = .ok report)
    (hrepair : repairDimensionLayout source report none spacing true false = .ok (result, after)) :
    ∃ again,
      auditDimensions M after expectedLayer expectedStyle tolerance textHeight = .ok again ∧
        (Repaired source after report again result
            (auditTolerance source expectedLayer tolerance) ↔
          ∀ d ∈ dimensionsOf source, ∀ e ∈ dimensionsOf source,
            First (dimensionsOf source) (auditTolerance source expectedLayer tolerance) d →
            First (dimensionsOf source) (auditTolerance source expectedLayer tolerance) e →
            signature (landing M source (auditTolerance source expectedLayer tolerance) textHeight
                report spacing d) (auditTolerance source expectedLayer tolerance) =
              signature (landing M source (auditTolerance source expectedLayer tolerance) textHeight
                report spacing e) (auditTolerance source expectedLayer tolerance) → d = e) := by
  obtain ⟨again, hagain, hiff⟩ := repaired_iff_nodup hdistinct hnamed haudit hrepair
  exact ⟨again, hagain, hiff.trans (nodup_after_iff hdistinct hnamed haudit hrepair)⟩

end

end

/-! ### A dimension that is moved onto another one -/

/-- A horizontal dimension of the line from 0 to 50, in a lane. -/
def laneDimension (handle : String) (y : ℚ) : DimensionEntity ℚ where
  handle := handle
  layer := "MCP-DIM"
  dimstyle := "Standard"
  dimtype := 0
  defpoint := some (0, y)
  defpoint2 := some (0, 0)
  defpoint3 := some (50, 0)
  defpoint4 := none
  defpoint5 := none
  angle := 0
  text := "<>"
  textMidpoint := some (25, y)
  measurement := some 50

/-- Two dimensions one lane apart, with texts that overlap. -/
def tightLanes : List (Entity ℚ) :=
  [.dimension (laneDimension "2A" (-49 / 4)), .dimension (laneDimension "2B" (-10)),
    .geometry ⟨"1C", "0", .line (0, 0) (50, 0)⟩]

/-- One dimension on the wrong layer. -/
def straightLane : List (Entity ℚ) :=
  [.dimension { laneDimension "2A" (-10) with layer := "0" },
    .geometry ⟨"1C", "0", .line (0, 0) (50, 0)⟩]

/-- What a fresh report of a drawing has beside its issues. -/
theorem exists_report {source : List (Entity ℚ)}
    (htol : 0 < auditTolerance source "MCP-DIM" none) :
    ∃ report, auditDimensions axisRuntime source "MCP-DIM" none none (5 / 2) = .ok report ∧
      report.expectedLayer = "MCP-DIM" ∧
      report.extents = drawingExtents (auditedGeometry source "MCP-DIM") :=
  ⟨_, auditDimensions_eq_ok.mpr ⟨htol, by norm_num, rfl⟩, rfl, rfl⟩

theorem moved_onto_another : ∃ report result after again,
    auditDimensions axisRuntime tightLanes "MCP-DIM" none none (5 / 2) = .ok report ∧
      repairDimensionLayout tightLanes report none none true false = .ok (result, after) ∧
      auditDimensions axisRuntime after "MCP-DIM" none none (5 / 2) = .ok again ∧
      ¬ Repaired tightLanes after report again result
        (auditTolerance tightLanes "MCP-DIM" none) := by
  have htolerance : auditTolerance tightLanes "MCP-DIM" none = 1 / 2000 := by decide +kernel
  have hdistinct : ((dimensionsOf tightLanes).map DimensionEntity.handle).Nodup := by decide +kernel
  have hnamed : ∀ d ∈ dimensionsOf tightLanes, d.handle ≠ "" := by decide +kernel
  obtain ⟨report, haudit, hlayer, hextents⟩ :=
    @exists_report tightLanes (by rw [htolerance]; norm_num)
  have hbox : report.extents = some ((0, 0), (50, 0)) := by
    rw [hextents]
    decide +kernel
  have hspacing : laneSpacingOf report none = 9 / 4 := by
    rw [laneSpacingOf, hbox]
    norm_num
  obtain ⟨result, after, hrepair⟩ := @repairDimensionLayout_returns _ _ _ tightLanes report none
    (by rw [hspacing]; norm_num)
  obtain ⟨again, hagain, hiff⟩ := repaired_iff_nodup hdistinct hnamed haudit hrepair
  refine ⟨report, result, after, again, haudit, hrepair, hagain, fun hrepaired => ?_⟩
  have hlands := (nodup_after_iff hdistinct hnamed haudit hrepair).mp (hiff.mp hrepaired)
  rw [htolerance] at hlands
  have hupper : landing axisRuntime tightLanes (1 / 2000) (5 / 2) report none
      (laneDimension "2A" (-49 / 4)) = laneDimension "2A" (-49 / 4) := by
    have hfree : crowded axisRuntime tightLanes "MCP-DIM" (1 / 2000) (5 / 2)
        (laneDimension "2A" (-49 / 4)) = false := by decide +kernel
    rw [landing, hlayer, hfree]
    exact if_neg fun h => Bool.false_ne_true h.1
  have hlower : landing axisRuntime tightLanes (1 / 2000) (5 / 2) report none
      (laneDimension "2B" (-10)) = laneDimension "2B" (-49 / 4) := by
    have hcrowded : crowded axisRuntime tightLanes "MCP-DIM" (1 / 2000) (5 / 2)
        (laneDimension "2B" (-10)) = true := by decide +kernel
    rw [landing, hlayer, if_pos ⟨hcrowded, rfl, by decide +kernel⟩, hspacing]
    show shift (laneDelta report.extents (9 / 4) _ (0, -10)) _ = _
    rw [hbox]
    decide +kernel
  have hsame := hlands (laneDimension "2A" (-49 / 4)) List.mem_cons_self
    (laneDimension "2B" (-10)) (List.mem_cons_of_mem _ List.mem_cons_self)
    (by unfold First; decide +kernel) (by unfold First; decide +kernel)
    (by rw [hupper, hlower]; rfl)
  exact absurd (congrArg DimensionEntity.handle hsame) (by decide +kernel)

theorem straightLane_repaired : ∃ report result after again,
    auditDimensions axisRuntime straightLane "MCP-DIM" none none (5 / 2) = .ok report ∧
      repairDimensionLayout straightLane report none none true false = .ok (result, after) ∧
      auditDimensions axisRuntime after "MCP-DIM" none none (5 / 2) = .ok again ∧
      Repaired straightLane after report again result
        (auditTolerance straightLane "MCP-DIM" none) := by
  have htolerance : auditTolerance straightLane "MCP-DIM" none = 1 / 2000 := by decide +kernel
  obtain ⟨report, haudit, hlayer, hextents⟩ :=
    @exists_report straightLane (by rw [htolerance]; norm_num)
  have hspacing : 0 < laneSpacingOf report none := by
    rw [laneSpacingOf, hextents]
    decide +kernel
  obtain ⟨result, after, hrepair⟩ := @repairDimensionLayout_returns _ _ _ straightLane report none
    hspacing
  obtain ⟨again, hagain, hiff⟩ :=
    repaired_iff (by decide +kernel) (by decide +kernel) haudit hrepair
  refine ⟨report, result, after, again, haudit, hrepair, hagain, hiff.mpr ?_⟩
  intro d hd e he _ _ _
  rw [List.mem_singleton.mp hd, List.mem_singleton.mp he]

end AutocadMcp.Dimension
