import AutocadMcp.Dimension.Drawing
import AutocadMcp.Lib.Groups
import Mathlib.Data.List.Count
import Mathlib.Data.List.Perm.Basic
import Mathlib.Data.Rat.Floor

/-!
# Callouts of holes and arcs

The repeated holes, slots and repeated fillets of `recognize_mechanical_features`, and the
diameter and radius candidates that `build_dimension_candidates` makes of them and of the
circles and arcs in no group.
-/

namespace AutocadMcp.Dimension

open Plane

/-! ## What is selected -/

/-- A record of a supported type with its box; ellipses and block references have no shape here. -/
structure SelectedRecord (K : Type) where
  handle : String
  layer : String
  bbox : Segment K
  shape : Option (Shape K)

structure CircleRecord (K : Type) where
  handle : String
  center : Point K
  radius : K
  deriving DecidableEq

structure ArcRecord (K : Type) extends CircleRecord K where
  startAngle : K
  endAngle : K
  deriving DecidableEq

def SelectedRecord.circle? {K : Type} (r : SelectedRecord K) : Option (CircleRecord K) :=
  match r.shape with
  | some (.circle center radius) => some ⟨r.handle, center, radius⟩
  | _ => none

def SelectedRecord.arc? {K : Type} (r : SelectedRecord K) : Option (ArcRecord K) :=
  match r.shape with
  | some (.arc center radius startAngle endAngle) =>
      some { handle := r.handle, center, radius, startAngle, endAngle }
  | _ => none

def circlesOf {K : Type} (selected : List (SelectedRecord K)) : List (CircleRecord K) :=
  selected.filterMap SelectedRecord.circle?

def arcsOf {K : Type} (selected : List (SelectedRecord K)) : List (ArcRecord K) :=
  selected.filterMap SelectedRecord.arc?

variable {K : Type} [Field K] [LinearOrder K]

def segmentsOf (selected : List (SelectedRecord K)) : List (Segment K) :=
  (selected.filterMap SelectedRecord.shape).flatMap Shape.lineSegments

/-! ## Features -/

/-- A repeated hole pattern or a repeated fillet. -/
structure RepeatedFeature (K : Type) where
  entityHandles : List String
  quantity : ℕ
  radius : K
  notationText : String

section

variable [FloorRing K] (M : MathRuntime K) (tol : K)

def radiusKey (radius : K) : ℤ := round (radius / tol)

def groupsByRadius {α : Type} (radius : α → K) (xs : List α) : List (ℤ × List α) :=
  groupBy [] (fun group x => group ++ [x]) (fun x => radiusKey tol (radius x)) xs

def meanRadius {α : Type} (radius : α → K) (group : List α) : K :=
  (group.map radius).sum / group.length

/-- The groups of two or more, with what is written of a group. -/
def repeatedFeatures {α : Type} (handle : α → String) (radius : α → K) (written : ℕ → K → String)
    (xs : List α) : List (RepeatedFeature K) :=
  (groupsByRadius tol radius xs).filterMap fun group =>
    if group.2.length < 2 then none
    else
      some
        { entityHandles := group.2.map handle
          quantity := group.2.length
          radius := meanRadius radius group.2
          notationText := written group.2.length (meanRadius radius group.2) }

def repeatedHoles (circles : List (CircleRecord K)) : List (RepeatedFeature K) :=
  repeatedFeatures tol CircleRecord.handle CircleRecord.radius
    (fun count radius => toString count ++ "x ⌀" ++ M.general (radius * 2)) circles

/-- `_arc_sweep`, the remainder of the turn by 360 degrees. -/
def ArcRecord.sweep (arc : ArcRecord K) : K :=
  (arc.endAngle - arc.startAngle) - 360 * ⌊(arc.endAngle - arc.startAngle) / 360⌋

def ArcRecord.endpoints (arc : ArcRecord K) : Point K × Point K :=
  let at_ (angle : K) : Point K :=
    (arc.center.1 + arc.radius * (M.direction angle).1,
      arc.center.2 + arc.radius * (M.direction angle).2)
  (at_ arc.startAngle, at_ arc.endAngle)

def lineConnects (segments : List (Segment K)) (left right : Point K) (tolerance : K) : Bool :=
  segments.any fun (start, stop) =>
    (close M start left tolerance && close M stop right tolerance) ||
      (close M start right tolerance && close M stop left tolerance)

def ArcRecord.isHalfTurn (arc : ArcRecord K) : Bool := |arc.sweep - 180| ≤ 2

/-- Two half turns of one radius whose ends two lines connect. -/
def isSlot (segments : List (Segment K)) (left right : ArcRecord K) : Bool :=
  let leftEnds := left.endpoints M
  let rightEnds := right.endpoints M
  right.isHalfTurn && |left.radius - right.radius| ≤ tol && tol < dist M left.center right.center &&
    ((lineConnects M segments leftEnds.1 rightEnds.1 (tol * 2) &&
        lineConnects M segments leftEnds.2 rightEnds.2 (tol * 2)) ||
      (lineConnects M segments leftEnds.1 rightEnds.2 (tol * 2) &&
        lineConnects M segments leftEnds.2 rightEnds.1 (tol * 2)))

/-- `used_slot_arcs`: each half turn with the first later arc that makes a slot with it. -/
def usedSlotArcs (segments : List (Segment K)) : List (ArcRecord K) → List String
  | [] => []
  | left :: rest =>
      (if left.isHalfTurn then
        match rest.find? (isSlot M tol segments left) with
        | some right => [left.handle, right.handle]
        | none => []
      else []) ++ usedSlotArcs segments rest

def filletArcs (segments : List (Segment K)) (arcs : List (ArcRecord K)) : List (ArcRecord K) :=
  arcs.filter fun arc => arc.handle ∉ usedSlotArcs M tol segments arcs

def repeatedFillets (segments : List (Segment K)) (arcs : List (ArcRecord K)) :
    List (RepeatedFeature K) :=
  repeatedFeatures tol (fun arc => arc.handle) (fun arc => arc.radius)
    (fun count radius => toString count ++ "x R" ++ M.general radius) (filletArcs M tol segments arcs)

end

/-! ## Candidates -/

inductive CalloutKind where
  | diameter
  | radius
  deriving DecidableEq

inductive CalloutCategory where
  | repeatedHoles
  | holeDiameter
  | repeatedFillet
  | arcRadius
  deriving DecidableEq

/-- A candidate with its geometry and metadata; the label is anchored at the point. -/
structure CalloutCandidate (K : Type) where
  kind : CalloutKind
  entityId : String
  center : Point K
  point : Point K
  text : String
  category : CalloutCategory
  entityIds : Option (List String)
  notationText : Option String

structure CalloutOptions (K : Type) where
  includeHoles : Bool
  includeArcs : Bool
  spacing : Option K

structure CalloutProfile (K : Type) where
  rowSpacing : K
  scaleFactor : K
  quantityFormat : String
  diameterPrefix : String
  radiusPrefix : String

/-- `_autocad_text`. -/
def autocadText (value : String) : String :=
  String.ofList (value.toList.flatMap fun c =>
    if c = 'Ø' ∨ c = '⌀' then ['%', '%', 'c'] else if c = '°' then ['%', '%', 'd'] else [c])

section

variable (M : MathRuntime K)

/-- `feature_angles`, in turn. -/
def featureAngle (index : ℕ) : K := 45 + 90 * ((index % 4 : ℕ) : K)

def leaderPoint (feature : CircleRecord K) (spacing angle : K) (lane : ℕ) : Point K :=
  let distance := feature.radius + spacing * lane
  (feature.center.1 + distance * (M.direction angle).1,
    feature.center.2 + distance * (M.direction angle).2)

/-- `format` is `str.format` of the count and the value. -/
def groupedHole (format : String → ℕ → String → String) (profile : CalloutProfile K) (spacing : K)
    (circles : List (CircleRecord K)) (groupIndex : ℕ) (feature : RepeatedFeature K) :
    Option (CalloutCandidate K) :=
  match feature.entityHandles.head?.bind
      (getItem (dictOf (circles.map fun circle => (circle.handle, circle)))) with
  | none => none
  | some representative =>
      some
        { kind := .diameter
          entityId := representative.handle
          center := representative.center
          point := leaderPoint M representative spacing (featureAngle groupIndex)
            (1 + groupIndex / 4)
          text := format profile.quantityFormat feature.quantity (autocadText profile.diameterPrefix ++ "<>")
          category := .repeatedHoles
          entityIds := some feature.entityHandles
          notationText := some feature.notationText }

def singleHole (profile : CalloutProfile K) (spacing : K) (index : ℕ) (circle : CircleRecord K) :
    CalloutCandidate K where
  kind := .diameter
  entityId := circle.handle
  center := circle.center
  point := leaderPoint M circle spacing (featureAngle index) (1 + index / 4)
  text := autocadText profile.diameterPrefix ++ "<>"
  category := .holeDiameter
  entityIds := none
  notationText := none

def groupedFillet (format : String → ℕ → String → String) (profile : CalloutProfile K) (spacing : K)
    (arcs : List (ArcRecord K)) (groupIndex : ℕ) (feature : RepeatedFeature K) :
    Option (CalloutCandidate K) :=
  match feature.entityHandles.head?.bind fun handle =>
      arcs.find? fun arc => arc.handle = handle with
  | none => none
  | some arc =>
      some
        { kind := .radius
          entityId := arc.handle
          center := arc.center
          point := leaderPoint M arc.toCircleRecord spacing (featureAngle (groupIndex + 1))
            (1 + groupIndex / 4)
          text := format profile.quantityFormat feature.quantity (autocadText profile.radiusPrefix ++ "<>")
          category := .repeatedFillet
          entityIds := none
          notationText := some feature.notationText }

def singleArc (profile : CalloutProfile K) (spacing : K) (index : ℕ) (arc : ArcRecord K) :
    CalloutCandidate K where
  kind := .radius
  entityId := arc.handle
  center := arc.center
  point := leaderPoint M arc.toCircleRecord spacing (featureAngle (index + 1)) (1 + index / 4)
  text := autocadText profile.radiusPrefix ++ "<>"
  category := .arcRadius
  entityIds := none
  notationText := none

def holeCandidates (format : String → ℕ → String → String) (profile : CalloutProfile K) (spacing : K)
    (circles : List (CircleRecord K)) (features : List (RepeatedFeature K)) :
    List (CalloutCandidate K) :=
  let grouped := features.flatMap RepeatedFeature.entityHandles
  (features.mapIdx (groupedHole M format profile spacing circles)).filterMap id ++
    (circles.filter fun circle => circle.handle ∉ grouped).mapIdx (singleHole M profile spacing)

def arcCandidates (format : String → ℕ → String → String) (profile : CalloutProfile K) (spacing : K)
    (arcs : List (ArcRecord K)) (features : List (RepeatedFeature K)) :
    List (CalloutCandidate K) :=
  let grouped := features.flatMap RepeatedFeature.entityHandles
  (features.mapIdx (groupedFillet M format profile spacing arcs)).filterMap id ++
    (arcs.filter fun arc => arc.handle ∉ grouped).mapIdx (singleArc M profile spacing)

/-- The scale of the selected records, by the larger side of their box. -/
def selectionScale (selected : List (SelectedRecord K)) : K :=
  match boxOf (selected.flatMap fun r => [r.bbox.1, r.bbox.2]) with
  | some (low, high) => max (max (high.1 - low.1) (high.2 - low.2)) 1
  | none => 1

def candidateTolerance (selected : List (SelectedRecord K)) : K :=
  max (selectionScale selected * (1 / 10 ^ 5)) (1 / 10 ^ 6)

/-- `options.spacing or …`: a spacing of zero is none. -/
def candidateSpacing (selected : List (SelectedRecord K)) (options : CalloutOptions K)
    (profile : CalloutProfile K) : K :=
  (options.spacing.filter (· ≠ 0)).getD
    (max (profile.rowSpacing * profile.scaleFactor) (selectionScale selected * (45 / 1000)))

/-- The diameter and radius candidates of `build_dimension_candidates`, in their order. -/
def buildDimensionCandidates [FloorRing K] (format : String → ℕ → String → String)
    (options : CalloutOptions K) (profile : CalloutProfile K) (selected : List (SelectedRecord K)) :
    Except String (List (CalloutCandidate K)) :=
  if selected.isEmpty then .error "The selected target contains no supported geometry"
  else
    let tolerance := candidateTolerance selected
    let spacing := candidateSpacing selected options profile
    .ok
      ((if options.includeHoles then
          holeCandidates M format profile spacing (circlesOf selected)
            (repeatedHoles M tolerance (circlesOf selected))
        else []) ++
        if options.includeArcs then
          arcCandidates M format profile spacing (arcsOf selected)
            (repeatedFillets M tolerance (segmentsOf selected) (arcsOf selected))
        else [])

end

/-! ## Groups and singles -/

section

variable {α : Type} [FloorRing K] {tol : K} {handle : α → String} {radius : α → K}
  {written : ℕ → K → String} {xs : List α}

/-- Another entity has the same rounded radius. -/
def isRepeated (tol : K) (radius : α → K) (xs : List α) (x : α) : Bool :=
  2 ≤ (xs.filter fun y => radiusKey tol (radius y) = radiusKey tol (radius x)).length

theorem repeatedFeatures_eq : repeatedFeatures tol handle radius written xs =
    ((groupsByRadius tol radius xs).filter fun group => 2 ≤ group.2.length).map fun group =>
      { entityHandles := group.2.map handle
        quantity := group.2.length
        radius := meanRadius radius group.2
        notationText := written group.2.length (meanRadius radius group.2) } := by
  rw [repeatedFeatures]
  generalize groupsByRadius tol radius xs = groups
  induction groups with
  | nil => rfl
  | cons group groups ih =>
      by_cases hlarge : 2 ≤ group.2.length
      · simp only [List.filterMap_cons, if_neg (not_lt.mpr hlarge), ih, List.filter_cons,
          decide_eq_true hlarge, if_true, List.map_cons]
      · simp only [List.filterMap_cons, if_pos (not_le.mp hlarge), ih, List.filter_cons,
          decide_eq_false hlarge, Bool.false_eq_true, if_false]

/-- The features together have the entities that are repeated. -/
theorem repeatedFeatures_handles :
    ((repeatedFeatures tol handle radius written xs).flatMap RepeatedFeature.entityHandles).Perm
      ((xs.filter (isRepeated tol radius xs)).map handle) := by
  have hmembers : (repeatedFeatures tol handle radius written xs).flatMap
      RepeatedFeature.entityHandles =
        (((groupsByRadius tol radius xs).filter fun group => 2 ≤ group.2.length).flatMap
          Prod.snd).map handle := by
    rw [repeatedFeatures_eq, List.flatMap_map, List.map_flatMap]
  rw [hmembers]
  exact (flatMap_groups_perm xs fun group => decide (2 ≤ group.length)).map handle

theorem repeatedFeatures_member {feature : RepeatedFeature K}
    (h : feature ∈ repeatedFeatures tol handle radius written xs) :
    feature.quantity = feature.entityHandles.length ∧
      ∃ x ∈ xs, feature.entityHandles.head? = some (handle x) := by
  rw [repeatedFeatures_eq] at h
  obtain ⟨⟨kind, group⟩, hgroup, rfl⟩ := List.mem_map.mp h
  obtain ⟨hgroup, hlarge⟩ := List.mem_filter.mp hgroup
  rw [groupsByRadius, mem_groupBy, foldl_snoc, List.nil_append] at hgroup
  refine ⟨(List.length_map _).symm, ?_⟩
  rcases group with _ | ⟨x, group⟩
  · simp at hlarge
  · have hx : x ∈ xs.filter (fun y => radiusKey tol (radius y) = kind) :=
      hgroup.2 ▸ List.mem_cons_self
    exact ⟨x, (List.mem_filter.mp hx).1, rfl⟩

/-- The singles are the entities that are not repeated. -/
theorem singles_eq (hdistinct : (xs.map handle).Nodup) :
    (xs.filter fun x => handle x ∉ (repeatedFeatures tol handle radius written xs).flatMap
      RepeatedFeature.entityHandles) = xs.filter fun x => !isRepeated tol radius xs x := by
  refine List.filter_congr fun x hx => ?_
  rw [Bool.eq_iff_iff, decide_eq_true_eq, (repeatedFeatures_handles).mem_iff, List.mem_map,
    Bool.not_eq_true']
  constructor
  · intro hnone
    by_contra hrepeated
    exact hnone ⟨x, List.mem_filter.mpr ⟨hx, by simpa using hrepeated⟩, rfl⟩
  · rintro hsingle ⟨y, hy, hsame⟩
    obtain ⟨hy, hrepeated⟩ := List.mem_filter.mp hy
    rw [List.inj_on_of_nodup_map hdistinct hy hx hsame, hsingle] at hrepeated
    cases hrepeated

/-- Groups and singles together have every entity once. -/
theorem groups_and_singles (hdistinct : (xs.map handle).Nodup) :
    ((repeatedFeatures tol handle radius written xs).flatMap RepeatedFeature.entityHandles ++
      (xs.filter fun x => handle x ∉ (repeatedFeatures tol handle radius written xs).flatMap
        RepeatedFeature.entityHandles).map handle).Perm (xs.map handle) := by
  rw [singles_eq hdistinct]
  refine (repeatedFeatures_handles.append_right _).trans ?_
  rw [← List.map_append]
  exact (List.filter_append_perm _ xs).map handle

/-- Nothing is repeated where the rounded radii are all different. -/
theorem repeatedFeatures_eq_nil : repeatedFeatures tol handle radius written xs = [] ↔
    (xs.map fun x => radiusKey tol (radius x)).Nodup := by
  have hcount : ∀ kind, (xs.map fun x => radiusKey tol (radius x)).count kind =
      (xs.filter fun x => radiusKey tol (radius x) = kind).length := fun kind => by
    rw [List.count, List.countP_map, List.countP_eq_length_filter]
    exact congrArg List.length (List.filter_congr fun x _ => by
      by_cases hkind : radiusKey tol (radius x) = kind <;> simp [hkind])
  have hgroup : ∀ kind group, (kind, group) ∈ groupsByRadius tol radius xs ↔
      (∃ x ∈ xs, radiusKey tol (radius x) = kind) ∧
        xs.filter (fun x => radiusKey tol (radius x) = kind) = group := fun kind group => by
    rw [groupsByRadius, mem_groupBy, foldl_snoc, List.nil_append]
  rw [repeatedFeatures_eq, List.map_eq_nil_iff, List.filter_eq_nil_iff,
    List.nodup_iff_count_le_one]
  constructor
  · intro hsmall kind
    rw [hcount]
    by_contra hlarge
    obtain ⟨x, hx⟩ := List.exists_mem_of_length_pos (zero_lt_one.trans (not_le.mp hlarge))
    obtain ⟨hx, hkind⟩ := List.mem_filter.mp hx
    exact hsmall (kind, _) ((hgroup kind _).mpr ⟨⟨x, hx, of_decide_eq_true hkind⟩, rfl⟩)
      (decide_eq_true (not_le.mp hlarge))
  · rintro honce ⟨kind, group⟩ hmem hlarge
    have := honce kind
    rw [hcount, ((hgroup kind group).mp hmem).2] at this
    exact absurd (of_decide_eq_true hlarge) (not_le.mpr (Nat.lt_succ_of_le this))

end

/-! ## What the candidates call out -/

/-- The entities that a candidate stands for: those it lists if it is of a group, or its own. -/
def CalloutCandidate.callsOut (c : CalloutCandidate K) : List String :=
  match c.category with
  | .repeatedHoles | .repeatedFillet => c.entityIds.getD []
  | .holeDiameter | .arcRadius => [c.entityId]

/-- Every selected circle and every selected arc is called out by one candidate, and a group's
text is written with the number of its entities. -/
structure CalledOut (format : String → ℕ → String → String) (profile : CalloutProfile K)
    (selected : List (SelectedRecord K)) (candidates : List (CalloutCandidate K)) : Prop where
  circles : ((candidates.filter (·.kind = .diameter)).flatMap CalloutCandidate.callsOut).Perm
    ((circlesOf selected).map CircleRecord.handle)
  arcs : ((candidates.filter (·.kind = .radius)).flatMap CalloutCandidate.callsOut).Perm
    ((arcsOf selected).map fun arc => arc.handle)
  holeQuantities : ∀ c ∈ candidates, c.category = .repeatedHoles →
    c.text = format profile.quantityFormat c.callsOut.length (autocadText profile.diameterPrefix ++ "<>")
  filletQuantities : ∀ c ∈ candidates, c.category = .repeatedFillet →
    c.text = format profile.quantityFormat c.callsOut.length (autocadText profile.radiusPrefix ++ "<>")

section

variable {β γ δ : Type}

omit [Field K] [LinearOrder K] in
theorem flatMap_mapIdx {f : ℕ → β → γ} {g : γ → List δ} {h : β → List δ}
    (hf : ∀ i b, g (f i b) = h b) (xs : List β) : (xs.mapIdx f).flatMap g = xs.flatMap h := by
  induction xs generalizing f with
  | nil => rfl
  | cons x xs ih =>
      rw [List.mapIdx_cons, List.flatMap_cons, List.flatMap_cons, hf,
        ih fun i b => hf (i + 1) b]

omit [Field K] [LinearOrder K] in
theorem flatMap_mapIdx_filterMap {f : ℕ → β → Option γ} {g : γ → List δ} {h : β → List δ}
    {xs : List β} (hf : ∀ i, ∀ b ∈ xs, ∃ c, f i b = some c ∧ g c = h b) :
    ((xs.mapIdx f).filterMap id).flatMap g = xs.flatMap h := by
  induction xs generalizing f with
  | nil => rfl
  | cons x xs ih =>
      obtain ⟨c, hc, hg⟩ := hf 0 x List.mem_cons_self
      have hrest := ih fun i b hb => hf (i + 1) b (List.mem_cons_of_mem _ hb)
      rw [List.mapIdx_cons, hc, List.flatMap_cons, ← hg, ← hrest]
      rfl

end

section

variable {M : MathRuntime K} {format : String → ℕ → String → String} {profile : CalloutProfile K}
  {spacing : K} {circles : List (CircleRecord K)} {arcs : List (ArcRecord K)} {tol : K}

omit [LinearOrder K] in
/-- A group's representative is found among the circles. -/
theorem groupedHole_eq_some (hdistinct : (circles.map CircleRecord.handle).Nodup)
    {feature : RepeatedFeature K} (hhead : ∃ x ∈ circles,
      feature.entityHandles.head? = some x.handle) (index : ℕ) :
    ∃ c, groupedHole M format profile spacing circles index feature = some c ∧
      c.kind = .diameter ∧ c.category = .repeatedHoles ∧
      c.entityIds = some feature.entityHandles ∧
      c.text = format profile.quantityFormat feature.quantity (autocadText profile.diameterPrefix ++ "<>") := by
  obtain ⟨x, hx, hhead⟩ := hhead
  have hkeys : ((circles.map fun circle => (circle.handle, circle)).map Prod.fst).Nodup := by
    rw [List.map_map]
    exact hdistinct
  have hat : getItem (dictOf (circles.map fun circle => (circle.handle, circle))) x.handle =
      some x := by
    rw [dictOf_of_nodup hkeys, getItem_eq_some hkeys]
    exact List.mem_map_of_mem hx
  unfold groupedHole
  rw [hhead, Option.bind_some, hat]
  exact ⟨_, rfl, rfl, rfl, rfl, rfl⟩

omit [LinearOrder K] in
theorem groupedFillet_eq_some {feature : RepeatedFeature K} (hhead : ∃ x ∈ arcs,
      feature.entityHandles.head? = some x.handle) (index : ℕ) :
    ∃ c, groupedFillet M format profile spacing arcs index feature = some c ∧
      c.kind = .radius ∧ c.category = .repeatedFillet ∧ c.entityIds = none ∧
      c.text = format profile.quantityFormat feature.quantity (autocadText profile.radiusPrefix ++ "<>") := by
  obtain ⟨x, hx, hhead⟩ := hhead
  unfold groupedFillet
  rw [hhead, Option.bind_some]
  rcases hfind : arcs.find? fun arc => decide (arc.handle = x.handle) with _ | arc
  · have := List.find?_eq_none.mp hfind x hx
    simp at this
  · rw [hfind]
    exact ⟨_, rfl, rfl, rfl, rfl, rfl⟩

/-- The candidates of the holes list every circle once. -/
theorem holeCandidates_callsOut [FloorRing K]
    (hdistinct : (circles.map CircleRecord.handle).Nodup) :
    ((holeCandidates M format profile spacing circles (repeatedHoles M tol circles)).flatMap
      CalloutCandidate.callsOut).Perm (circles.map CircleRecord.handle) := by
  have hgroups : (((repeatedHoles M tol circles).mapIdx
      (groupedHole M format profile spacing circles)).filterMap id).flatMap
        CalloutCandidate.callsOut =
      (repeatedHoles M tol circles).flatMap RepeatedFeature.entityHandles :=
    flatMap_mapIdx_filterMap fun i feature hfeature => by
      obtain ⟨c, hc, -, hcategory, hids, -⟩ :=
        groupedHole_eq_some hdistinct (repeatedFeatures_member hfeature).2 i
      refine ⟨c, hc, ?_⟩
      rw [CalloutCandidate.callsOut, hcategory, hids]
      rfl
  unfold holeCandidates
  rw [List.flatMap_append, hgroups,
    flatMap_mapIdx (h := fun circle => [circle.handle]) fun _ _ => rfl, ← List.map_eq_flatMap]
  exact groups_and_singles hdistinct

theorem mem_holeCandidates [FloorRing K] (hdistinct : (circles.map CircleRecord.handle).Nodup)
    {c : CalloutCandidate K}
    (h : c ∈ holeCandidates M format profile spacing circles (repeatedHoles M tol circles)) :
    c.kind = .diameter ∧ (c.category = .holeDiameter ∨ c.category = .repeatedHoles ∧
      c.text = format profile.quantityFormat c.callsOut.length (autocadText profile.diameterPrefix ++ "<>")) := by
  rcases List.mem_append.mp h with hgroup | hsingle
  · obtain ⟨o, ho, hc⟩ := List.mem_filterMap.mp hgroup
    obtain ⟨i, hi, rfl⟩ := List.mem_mapIdx.mp ho
    obtain ⟨hquantity, hhead⟩ := repeatedFeatures_member (List.getElem_mem hi)
    obtain ⟨c', hsome, hkind, hcategory, hids, htext⟩ := groupedHole_eq_some hdistinct hhead i
    obtain rfl : c' = c := Option.some.inj (hsome.symm.trans hc)
    refine ⟨hkind, Or.inr ⟨hcategory, ?_⟩⟩
    rw [htext, hquantity, CalloutCandidate.callsOut, hcategory, hids]
    rfl
  · obtain ⟨i, -, rfl⟩ := List.mem_mapIdx.mp hsingle
    exact ⟨rfl, Or.inl rfl⟩

omit [LinearOrder K] in
theorem mem_arcCandidates {features : List (RepeatedFeature K)}
    (hheads : ∀ feature ∈ features, ∃ x ∈ arcs, feature.entityHandles.head? = some x.handle)
    {c : CalloutCandidate K} (h : c ∈ arcCandidates M format profile spacing arcs features) :
    c.kind = .radius ∧ (c.category = .arcRadius ∨ c.category = .repeatedFillet ∧ features ≠ []) := by
  rcases List.mem_append.mp h with hgroup | hsingle
  · obtain ⟨o, ho, hc⟩ := List.mem_filterMap.mp hgroup
    obtain ⟨i, hi, rfl⟩ := List.mem_mapIdx.mp ho
    have hmem := List.getElem_mem hi
    obtain ⟨c', hsome, hkind, hcategory, -⟩ := @groupedFillet_eq_some K _ M format profile spacing
      arcs features[i] (hheads _ hmem) i
    obtain rfl : c' = c := Option.some.inj (hsome.symm.trans hc)
    exact ⟨hkind, Or.inr ⟨hcategory, List.ne_nil_of_mem hmem⟩⟩
  · obtain ⟨i, -, rfl⟩ := List.mem_mapIdx.mp hsingle
    exact ⟨rfl, Or.inl rfl⟩

omit [LinearOrder K] in
/-- A group of fillets lists none of its arcs, so that only the singles are called out. -/
theorem arcCandidates_callsOut {features : List (RepeatedFeature K)}
    (hheads : ∀ feature ∈ features, ∃ x ∈ arcs, feature.entityHandles.head? = some x.handle) :
    (arcCandidates M format profile spacing arcs features).flatMap CalloutCandidate.callsOut =
      (arcs.filter fun arc => arc.handle ∉ features.flatMap RepeatedFeature.entityHandles).map
        fun arc => arc.handle := by
  have hgroups : ((features.mapIdx
      (groupedFillet M format profile spacing arcs)).filterMap id).flatMap
        CalloutCandidate.callsOut = features.flatMap fun _ => [] :=
    flatMap_mapIdx_filterMap fun i feature hfeature => by
      obtain ⟨c, hc, -, hcategory, hids, -⟩ := @groupedFillet_eq_some K _ M format profile spacing
        arcs feature (hheads feature hfeature) i
      refine ⟨c, hc, ?_⟩
      rw [CalloutCandidate.callsOut, hcategory, hids]
      rfl
  unfold arcCandidates
  rw [List.flatMap_append, hgroups, List.flatMap_eq_nil_iff.mpr fun _ _ => rfl, List.nil_append,
    flatMap_mapIdx (h := fun arc => [arc.handle]) fun _ _ => rfl, ← List.map_eq_flatMap]

omit [LinearOrder K] in
/-- The arcs are all called out where there is no group of fillets. -/
theorem arcCandidates_perm_iff {features : List (RepeatedFeature K)}
    (hheads : ∀ feature ∈ features, ∃ x ∈ arcs, feature.entityHandles.head? = some x.handle) :
    ((arcCandidates M format profile spacing arcs features).flatMap
      CalloutCandidate.callsOut).Perm (arcs.map fun arc => arc.handle) ↔ features = [] := by
  rw [arcCandidates_callsOut hheads]
  constructor
  · intro hperm
    have hlength := hperm.length_eq
    rw [List.length_map, List.length_map, List.length_filter_eq_length_iff] at hlength
    rcases features with _ | ⟨feature, features⟩
    · rfl
    · obtain ⟨x, hx, hhead⟩ := hheads feature List.mem_cons_self
      refine absurd ?_ (of_decide_eq_true (hlength x hx))
      exact List.mem_flatMap.mpr ⟨feature, List.mem_cons_self, List.mem_of_mem_head? hhead⟩
  · rintro rfl
    rw [List.filter_eq_self.mpr fun x _ => by simp]

end

/-! ## Callouts of a selection -/

section

variable {selected : List (SelectedRecord K)}

omit [Field K] [LinearOrder K] in
theorem nodup_circles (h : (selected.map SelectedRecord.handle).Nodup) :
    ((circlesOf selected).map CircleRecord.handle).Nodup := by
  refine h.sublist ?_
  unfold circlesOf
  induction selected with
  | nil => exact List.Sublist.slnil
  | cons r selected ih =>
      have ih := ih (List.nodup_cons.mp h).2
      rcases hcircle : r.circle? with _ | circle
      · rw [List.filterMap_cons_none hcircle]
        exact ih.cons _
      · have hhandle : circle.handle = r.handle := by
          unfold SelectedRecord.circle? at hcircle
          split at hcircle
          · cases hcircle
            rfl
          · cases hcircle
        rw [List.filterMap_cons_some hcircle, List.map_cons, List.map_cons, hhandle]
        exact ih.cons_cons _

variable [FloorRing K] {M : MathRuntime K} {format : String → ℕ → String → String}
  {options : CalloutOptions K} {profile : CalloutProfile K} {candidates : List (CalloutCandidate K)}

/-- The fillets of a selection, the arcs outside its slots. -/
def filletsOf (M : MathRuntime K) (selected : List (SelectedRecord K)) : List (ArcRecord K) :=
  filletArcs M (candidateTolerance selected) (segmentsOf selected) (arcsOf selected)

theorem repeatedFillets_heads : ∀ feature ∈ repeatedFillets M (candidateTolerance selected)
    (segmentsOf selected) (arcsOf selected),
      ∃ x ∈ arcsOf selected, feature.entityHandles.head? = some x.handle := fun feature hfeature => by
  obtain ⟨x, hx, hhead⟩ := (repeatedFeatures_member hfeature).2
  exact ⟨x, (List.mem_filter.mp hx).1, hhead⟩

theorem repeatedFillets_eq_nil {tol : K} {segments : List (Segment K)} {arcs : List (ArcRecord K)} :
    repeatedFillets M tol segments arcs = [] ↔
      ((filletArcs M tol segments arcs).map fun arc => radiusKey tol arc.radius).Nodup :=
  repeatedFeatures_eq_nil

theorem buildDimensionCandidates_eq_ok
    (h : buildDimensionCandidates M format options profile selected = .ok candidates)
    (hholes : options.includeHoles = true) (harcs : options.includeArcs = true) :
    candidates =
      holeCandidates M format profile (candidateSpacing selected options profile)
        (circlesOf selected) (repeatedHoles M (candidateTolerance selected) (circlesOf selected)) ++
      arcCandidates M format profile (candidateSpacing selected options profile) (arcsOf selected)
        (repeatedFillets M (candidateTolerance selected) (segmentsOf selected)
          (arcsOf selected)) := by
  unfold buildDimensionCandidates at h
  by_cases hempty : selected.isEmpty = true
  · rw [if_pos hempty] at h
    cases h
  · rw [if_neg hempty, hholes, harcs] at h
    exact (Except.ok.inj h).symm

/-- With holes and arcs included, every circle and every arc is called out once if no two fillets
round to the same radius. The holes always are; a group of fillets lists none of its arcs. -/
theorem calledOut_iff (hdistinct : (selected.map SelectedRecord.handle).Nodup)
    (hholes : options.includeHoles = true) (harcs : options.includeArcs = true)
    (h : buildDimensionCandidates M format options profile selected = .ok candidates) :
    CalledOut format profile selected candidates ↔
      ((filletsOf M selected).map fun arc =>
        radiusKey (candidateTolerance selected) arc.radius).Nodup := by
  have hcircles := nodup_circles hdistinct
  have hheads := @repeatedFillets_heads K _ _ selected _ M
  obtain rfl := buildDimensionCandidates_eq_ok h hholes harcs
  rw [filletsOf, ← @repeatedFillets_eq_nil K _ _ _ M, ← @arcCandidates_perm_iff K _ M format profile
    (candidateSpacing selected options profile) _ _ hheads]
  generalize hholesEq : holeCandidates M format profile (candidateSpacing selected options profile)
    (circlesOf selected) (repeatedHoles M (candidateTolerance selected) (circlesOf selected)) = holes
  generalize harcsEq : arcCandidates M format profile (candidateSpacing selected options profile)
    (arcsOf selected) (repeatedFillets M (candidateTolerance selected) (segmentsOf selected)
      (arcsOf selected)) = arcs
  have hhole : ∀ c ∈ holes, _ := fun c hc => mem_holeCandidates hcircles (hholesEq ▸ hc)
  have harc : ∀ c ∈ arcs, _ := fun c hc => mem_arcCandidates hheads (harcsEq ▸ hc)
  have hdiameters : (holes ++ arcs).filter (·.kind = .diameter) = holes := by
    rw [List.filter_append, List.filter_eq_self.mpr fun c hc => decide_eq_true (hhole c hc).1,
      List.filter_eq_nil_iff.mpr fun c hc => by rw [(harc c hc).1]; decide, List.append_nil]
  have hradii : (holes ++ arcs).filter (·.kind = .radius) = arcs := by
    rw [List.filter_append, List.filter_eq_self.mpr fun c hc => decide_eq_true (harc c hc).1,
      List.filter_eq_nil_iff.mpr fun c hc => by rw [(hhole c hc).1]; decide, List.nil_append]
  constructor
  · intro hcalled
    exact hradii ▸ hcalled.arcs
  · intro hperm
    have hnone := (arcCandidates_perm_iff hheads).mp (harcsEq ▸ hperm)
    refine ⟨?_, ?_, fun c hc hcategory => ?_, fun c hc hcategory => ?_⟩
    · rw [hdiameters, ← hholesEq]
      exact holeCandidates_callsOut hcircles
    · rw [hradii]
      exact hperm
    · rcases List.mem_append.mp hc with hmem | hmem
      · rcases (hhole c hmem).2 with hsingle | hgroup
        · rw [hsingle] at hcategory
          cases hcategory
        · exact hgroup.2
      · rcases (harc c hmem).2 with hsingle | hgroup
        · rw [hsingle] at hcategory
          cases hcategory
        · exact absurd hnone hgroup.2
    · rcases List.mem_append.mp hc with hmem | hmem
      · rcases (hhole c hmem).2 with hsingle | hgroup
        · rw [hsingle] at hcategory
          cases hcategory
        · rw [hgroup.1] at hcategory
          cases hcategory
      · rcases (harc c hmem).2 with hsingle | hgroup
        · rw [hsingle] at hcategory
          cases hcategory
        · exact absurd hnone hgroup.2

end

/-! ## A plate -/

section

def plateOptions : CalloutOptions ℚ where
  includeHoles := true
  includeArcs := true
  spacing := none

def plateProfile : CalloutProfile ℚ where
  rowSpacing := 8
  scaleFactor := 1
  quantityFormat := "x "
  diameterPrefix := "Ø"
  radiusPrefix := "R"

def countFirst (between : String) (count : ℕ) (value : String) : String :=
  toString count ++ between ++ value

def circleAt (handle : String) (x radius : ℚ) : SelectedRecord ℚ where
  handle
  layer := "0"
  bbox := ((x - radius, -radius), (x + radius, radius))
  shape := some (.circle (x, 0) radius)

def cornerAt (handle : String) (x radius : ℚ) : SelectedRecord ℚ where
  handle
  layer := "0"
  bbox := ((x, 0), (x + radius, radius))
  shape := some (.arc (x, 0) radius 0 90)

/-- Two equal holes and two corners of different radii. -/
def plate : List (SelectedRecord ℚ) :=
  [circleAt "A" 0 2, circleAt "B" 10 2, cornerAt "C" 20 5, cornerAt "D" 30 3]

theorem plate_calledOut : ∃ candidates,
    buildDimensionCandidates axisRuntime countFirst plateOptions plateProfile plate =
      .ok candidates ∧ CalledOut countFirst plateProfile plate candidates :=
  ⟨_, rfl, (calledOut_iff (by decide) rfl rfl rfl).mpr (by decide +kernel)⟩

/-- Two corners of one radius. -/
def equalCorners : List (SelectedRecord ℚ) := [cornerAt "C" 20 5, cornerAt "D" 30 5]

/-- The one callout of two equal corners names neither of them as its entities. -/
theorem equalCorners_not_calledOut : ∃ candidates,
    buildDimensionCandidates axisRuntime countFirst plateOptions plateProfile equalCorners =
      .ok candidates ∧ candidates.map (·.text) = ["2x R<>"] ∧
        ¬ CalledOut countFirst plateProfile equalCorners candidates := by
  refine ⟨_, rfl, by decide +kernel, fun hcalled => ?_⟩
  have harcs := hcalled.arcs.length_eq
  revert harcs
  decide +kernel

end

end AutocadMcp.Dimension
