import AutocadMcp.Lib.Checked
import AutocadMcp.Lib.Groups
import AutocadMcp.Lib.Search
import AutocadMcp.Lib.UnionFind
import AutocadMcp.Scene.Relations

/-!
# Components and groups of relations

The topology components of a scene and the groups of its concentric relations, each with
a union-find of its own. The component identity, a hash of the members, is a parameter.
-/

namespace AutocadMcp.Scene

open scoped Forest

structure SceneRelation (ι ρ : Type) where
  relationId : ρ
  relationType : RelationType
  sourceNodeIds : ι × ι

structure SceneComponent (ι γ : Type) where
  componentId : γ
  sourceNodeIds : List ι

def topologyRelations : List RelationType :=
  [.connectedEndpoint, .touch, .intersect, .overlap, .duplicateGeometry]

section

variable {ι ρ γ : Type} [LinearOrder ι]

/-! ## Topology components -/

/-- `{node.node_id: node.node_id for node in nodes}` -/
def singletons (ids : List ι) : Forest ι where
  keys := ids.dedup
  nodup := ids.nodup_dedup
  parent := id
  parent_le _ := le_rfl
  parent_mem _ h := h
  parent_outside _ _ := rfl

/-- `union` of `_components`, whose searches raise for an id that is not a node. -/
def union (F : Forest ι) (left right : ι) : Except SceneFailure (Forest ι) :=
  if hleft : left ∈ F.keys then
    if hright : right ∈ F.keys then
      let first := F.find left
      let second := first.forest.find right
      have hkeys : second.forest.keys = F.keys := second.keys_eq.trans first.keys_eq
      .ok (second.forest.link first.root second.root (hkeys ▸ first.root_mem hleft)
        (second.keys_eq ▸ second.root_mem (first.keys_eq ▸ hright)))
    else .error .keyError
  else .error .keyError

def unionTopology (F : Forest ι) (relation : SceneRelation ι ρ) :
    Except SceneFailure (Forest ι) :=
  if relation.relationType ∈ topologyRelations then
    union F relation.sourceNodeIds.1 relation.sourceNodeIds.2
  else .ok F

/-- `members[find(node_id)].append(node_id)` -/
def appendMember (state : Forest ι × List (ι × List ι)) (nodeId : ι) :
    Forest ι × List (ι × List ι) :=
  let found := state.1.find nodeId
  (found.forest, addTo [] (fun ids id => ids ++ [id]) state.2 found.root nodeId)

/-- `_components` -/
def components (stableId : List ι → γ) (nodeIds : List ι) (relations : List (SceneRelation ι ρ)) :
    Except SceneFailure (List (SceneComponent ι γ)) := do
  let parent ← relations.foldlM unionTopology (singletons nodeIds)
  let members := ((parent.keys.insertionSort (· ≤ ·)).foldl appendMember (parent, [])).2
  return ((members.map Prod.snd).insertionSort (· ≤ ·)).map fun values => ⟨stableId values, values⟩

/-! ## Groups of concentric relations -/

/-- `first, second = find(left), find(right)` and the link of the two. -/
def unionRelation (F : Forest ι) (relation : SceneRelation ι ρ) : Forest ι :=
  let first := F.findFull relation.sourceNodeIds.1
  let second := first.forest.findFull relation.sourceNodeIds.2
  have hfirst : first.root ∈ (first.forest.touch relation.sourceNodeIds.2).keys :=
    Forest.mem_touch.mpr (Or.inl (first.keys_eq ▸ first.root_mem (F.mem_touch_self _)))
  second.forest.link first.root second.root (second.keys_eq ▸ hfirst)
    (second.keys_eq ▸ second.root_mem (first.forest.mem_touch_self _))

/-- `groups[find(node_id)].add(node_id)` -/
def addNode (state : Forest ι × List (ι × Finset ι)) (nodeId : ι) :
    Forest ι × List (ι × Finset ι) :=
  let found := state.1.findFull nodeId
  (found.forest, addTo ∅ (fun ids id => insert id ids) state.2 found.root nodeId)

variable [LinearOrder ρ]

/-- `relation_ids[find(relation.source_node_ids[0])].add(relation.relation_id)` -/
def addRelation (state : Forest ι × List (ι × Finset ρ)) (relation : SceneRelation ι ρ) :
    Forest ι × List (ι × Finset ρ) :=
  let found := state.1.findFull relation.sourceNodeIds.1
  (found.forest,
    addTo ∅ (fun ids relation => insert relation.relationId ids) state.2 found.root relation)

/-- `_relation_groups` -/
def relationGroups (relations : List (SceneRelation ι ρ)) : List (List ι × List ρ) :=
  let parent := relations.foldl unionRelation (singletons [])
  let groups := parent.keys.foldl addNode (parent, [])
  let relationIds := relations.foldl addRelation (groups.1, [])
  (groups.2.insertionSort fun first second => first.1 ≤ second.1).map fun group =>
    (group.2.sort (· ≤ ·), (groupAt ∅ relationIds.2 group.1).sort (· ≤ ·))

end

/-! ## The forests of the relations -/

/-- Some relation is recorded between the two nodes. -/
def Related {ι ρ : Type} (relations : List (SceneRelation ι ρ)) (u v : ι) : Prop :=
  ∃ relation ∈ relations, relation.sourceNodeIds = (u, v)

/-- A chain of relations leads from one node to the other. -/
def Chained {ι ρ : Type} (relations : List (SceneRelation ι ρ)) : ι → ι → Prop :=
  Relation.EqvGen (Related relations)

def topologyOf {ι ρ : Type} (relations : List (SceneRelation ι ρ)) : List (SceneRelation ι ρ) :=
  relations.filter (·.relationType ∈ topologyRelations)

section

variable {ι ρ γ : Type} [LinearOrder ι] {relations : List (SceneRelation ι ρ)}

omit [LinearOrder ι] in
theorem related_cons {relation : SceneRelation ι ρ} {u v : ι} :
    Related (relation :: relations) u v ↔
      relation.sourceNodeIds = (u, v) ∨ Related relations u v := by
  simp [Related]

omit [LinearOrder ι] in
theorem topologyOf_cons {relation : SceneRelation ι ρ} : topologyOf (relation :: relations) =
    if relation.relationType ∈ topologyRelations then relation :: topologyOf relations
    else topologyOf relations := by
  by_cases h : relation.relationType ∈ topologyRelations <;> simp [topologyOf, h]

omit [LinearOrder ι] in
theorem related_perm {relations' : List (SceneRelation ι ρ)} (h : relations.Perm relations')
    (u v : ι) : Related relations u v ↔ Related relations' u v := by
  unfold Related
  simp only [h.mem_iff]

theorem joins_singletons (ids : List ι) :
    (singletons ids).Joins (Related ([] : List (SceneRelation ι ρ))) := by
  intro u v
  rw [Forest.root_of_fixed rfl, Forest.root_of_fixed rfl]
  constructor
  · rintro rfl
    exact .refl u
  · intro h
    induction h with
    | rel u v huv => simp [Related] at huv
    | refl u => rfl
    | symm u v _ ih => exact ih.symm
    | trans u v w _ _ ih ih' => exact ih.trans ih'

theorem joins_union {F : Forest ι} {r : ι → ι → Prop} (hF : F.Joins r) {left right : ι}
    (hleft : left ∈ F.keys) (hright : right ∈ F.keys) : ∃ G, union F left right = .ok G ∧
      G.keys = F.keys ∧ G.Joins fun u v => r u v ∨ u = left ∧ v = right := by
  unfold union
  rw [dif_pos hleft, dif_pos hright]
  have hfirst := (F.find left).same
  have hsame : ∀ u, ((F.find left).forest.find right).forest.root u = F.root u := fun u =>
    (((F.find left).forest.find right).same u).trans (hfirst u)
  refine ⟨_, rfl, ?_, (hF.of_same hsame).link ?_ ?_⟩
  · rw [Forest.keys_link, Forest.Found.keys_eq, Forest.Found.keys_eq]
  · rw [Forest.Found.root_eq, hsame]
  · rw [Forest.Found.root_eq, hfirst, hsame]

theorem foldlM_unionTopology {F : Forest ι} {r : ι → ι → Prop} (hF : F.Joins r)
    (hids : ∀ relation ∈ relations,
      relation.sourceNodeIds.1 ∈ F.keys ∧ relation.sourceNodeIds.2 ∈ F.keys) :
    ∃ G, relations.foldlM unionTopology F = .ok G ∧ G.keys = F.keys ∧
      G.Joins fun u v => r u v ∨ Related (topologyOf relations) u v := by
  induction relations generalizing F r with
  | nil => exact ⟨F, rfl, rfl, hF.congr fun u v => by simp [topologyOf, Related]⟩
  | cons relation rest ih =>
      rw [List.forall_mem_cons] at hids
      have hrun : ∀ {G H : Forest ι}, unionTopology F relation = .ok G →
          rest.foldlM unionTopology G = .ok H →
          (relation :: rest).foldlM unionTopology F = .ok H := fun hG hH => by
        rw [List.foldlM_cons]
        exact bind_eq_ok.mpr ⟨_, hG, hH⟩
      by_cases htype : relation.relationType ∈ topologyRelations
      · obtain ⟨G, hG, hkeys, hjoins⟩ := joins_union hF hids.1.1 hids.1.2
        obtain ⟨H, hH, hkeys', hjoins'⟩ := ih hjoins (hkeys ▸ hids.2)
        refine ⟨H, hrun (by rw [unionTopology, if_pos htype, hG]) hH, hkeys'.trans hkeys,
          hjoins'.congr fun u v => ?_⟩
        rw [topologyOf_cons, if_pos htype, related_cons, or_assoc, Prod.ext_iff,
          @eq_comm _ _ u, @eq_comm _ _ v]
      · obtain ⟨H, hH, hkeys', hjoins'⟩ := ih hF hids.2
        refine ⟨H, hrun (by rw [unionTopology, if_neg htype]) hH, hkeys',
          hjoins'.congr fun u v => ?_⟩
        rw [topologyOf_cons, if_neg htype]

theorem joins_unionRelation {F : Forest ι} {r : ι → ι → Prop} (hF : F.Joins r)
    (relation : SceneRelation ι ρ) :
    (unionRelation F relation).Joins fun u v => r u v ∨ relation.sourceNodeIds = (u, v) := by
  have hfirst : ∀ u, (F.findFull relation.sourceNodeIds.1).forest.root u = F.root u := fun u => by
    rw [Forest.Found.same, Forest.root_touch]
  have hsame : ∀ u, ((F.findFull relation.sourceNodeIds.1).forest.findFull
      relation.sourceNodeIds.2).forest.root u = F.root u := fun u => by
    rw [Forest.Found.same, Forest.root_touch, hfirst]
  unfold unionRelation
  refine ((hF.of_same hsame).link (x := relation.sourceNodeIds.1)
    (y := relation.sourceNodeIds.2) ?_ ?_).congr fun u v => ?_
  · rw [Forest.Found.root_eq, hsame, Forest.root_touch]
  · rw [Forest.Found.root_eq, hsame, Forest.root_touch, hfirst]
  · rw [Prod.ext_iff, @eq_comm _ _ u, @eq_comm _ _ v]

theorem keys_unionRelation {F : Forest ι} {relation : SceneRelation ι ρ} {u : ι} :
    u ∈ (unionRelation F relation).keys ↔
      u ∈ F.keys ∨ u = relation.sourceNodeIds.1 ∨ u = relation.sourceNodeIds.2 := by
  unfold unionRelation
  rw [Forest.keys_link, Forest.Found.keys_eq, Forest.mem_touch, Forest.Found.keys_eq,
    Forest.mem_touch, or_assoc]

/-- The forest of the relations groups the nodes that they name. -/
theorem foldl_unionRelation {F : Forest ι} {r : ι → ι → Prop} (hF : F.Joins r) :
    (relations.foldl unionRelation F).Joins (fun u v => r u v ∨ Related relations u v) ∧
      ∀ u, u ∈ (relations.foldl unionRelation F).keys ↔ u ∈ F.keys ∨
        ∃ relation ∈ relations, u = relation.sourceNodeIds.1 ∨ u = relation.sourceNodeIds.2 := by
  induction relations generalizing F r with
  | nil => exact ⟨hF.congr fun u v => by simp [Related], fun u => by simp⟩
  | cons relation rest ih =>
      obtain ⟨hjoins, hkeys⟩ := ih (joins_unionRelation hF relation)
      refine ⟨hjoins.congr fun u v => ?_, fun u => ?_⟩
      · rw [related_cons, or_assoc]
      · rw [List.foldl_cons, hkeys, keys_unionRelation, or_assoc]
        simp

/-! ## Groups by root -/

/-- A loop that searches and then files each value under the root of its key files it under the
root it had at the start. -/
theorem foldl_filed {α δ : Type} {empty : δ} {put : δ → α → δ} {key : α → ι} {F : Forest ι}
    {step : Forest ι × List (ι × δ) → α → Forest ι × List (ι × δ)}
    (hstep : ∀ G groups x, (∀ u, G.root u = F.root u) →
      (∀ u, (step (G, groups) x).1.root u = F.root u) ∧
        (step (G, groups) x).2 = addTo empty put groups (F.root (key x)) x)
    (xs : List α) {G : Forest ι} {groups : List (ι × δ)} (hG : ∀ u, G.root u = F.root u) :
    (∀ u, (xs.foldl step (G, groups)).1.root u = F.root u) ∧
      (xs.foldl step (G, groups)).2 =
        xs.foldl (fun groups x => addTo empty put groups (F.root (key x)) x) groups := by
  induction xs generalizing G groups with
  | nil => exact ⟨hG, rfl⟩
  | cons x xs ih =>
      obtain ⟨hsame, hgroups⟩ := hstep G groups x hG
      have hpair : step (G, groups) x =
          ((step (G, groups) x).1, addTo empty put groups (F.root (key x)) x) :=
        Prod.ext rfl hgroups
      rw [List.foldl_cons, List.foldl_cons, hpair]
      exact ih hsame

/-- The classes are nonempty, in increasing order and apart from each other, and two values are
in one class where they are values and belong together. -/
structure Partitions (values : ι → Prop) (together : ι → ι → Prop) (classes : List (List ι)) :
    Prop where
  nonempty : ∀ c ∈ classes, c ≠ []
  sorted : ∀ c ∈ classes, c.Pairwise (· < ·)
  apart : classes.Pairwise List.Disjoint
  shared : ∀ u v, (∃ c ∈ classes, u ∈ c ∧ v ∈ c) ↔ values u ∧ values v ∧ together u v

theorem Partitions.covers {values : ι → Prop} {together : ι → ι → Prop} {classes : List (List ι)}
    (h : Partitions values together classes) (v : ι) (hrefl : together v v) :
    (∃ c ∈ classes, v ∈ c) ↔ values v := by
  have hv := h.shared v v
  simp only [and_self, hrefl, and_true] at hv
  exact hv

/-- Groups that hold, in increasing order, the values with one root each. -/
theorem partitions_of_roots {values : ι → Prop} {F : Forest ι} {r : ι → ι → Prop}
    (hF : F.Joins r) {groups : List (ι × List ι)} (hnodup : (groups.map Prod.fst).Nodup)
    (hgroups : ∀ group ∈ groups, group.2 ≠ [] ∧ group.2.Pairwise (· < ·) ∧
      ∀ u, u ∈ group.2 ↔ values u ∧ F.root u = group.1)
    (hroots : ∀ u, values u → ∃ group ∈ groups, group.1 = F.root u) :
    Partitions values (Relation.EqvGen r) (groups.map Prod.snd) where
  nonempty := List.forall_mem_map.mpr fun group hgroup => (hgroups group hgroup).1
  sorted := List.forall_mem_map.mpr fun group hgroup => (hgroups group hgroup).2.1
  apart := by
    rw [List.pairwise_map]
    refine List.Pairwise.imp_of_mem ?_ (List.pairwise_map.mp hnodup)
    intro first second hfirst hsecond hne u hu hu'
    rw [(hgroups _ hfirst).2.2] at hu
    rw [(hgroups _ hsecond).2.2] at hu'
    exact hne (hu.2.symm.trans hu'.2)
  shared u v := by
    rw [← hF u v]
    constructor
    · rintro ⟨c, hc, hu, hv⟩
      obtain ⟨group, hgroup, rfl⟩ := List.mem_map.mp hc
      rw [(hgroups _ hgroup).2.2] at hu hv
      exact ⟨hu.1, hv.1, hu.2.trans hv.2.symm⟩
    · rintro ⟨hu, hv, hroot⟩
      obtain ⟨group, hgroup, hkey⟩ := hroots u hu
      refine ⟨group.2, List.mem_map_of_mem hgroup, ?_, ?_⟩
      · exact ((hgroups _ hgroup).2.2 u).mpr ⟨hu, hkey.symm⟩
      · exact ((hgroups _ hgroup).2.2 v).mpr ⟨hv, (hkey.trans hroot).symm⟩

theorem Partitions.perm {values : ι → Prop} {together : ι → ι → Prop}
    {classes classes' : List (List ι)} (h : Partitions values together classes)
    (hperm : classes.Perm classes') : Partitions values together classes' where
  nonempty c hc := h.nonempty c (hperm.mem_iff.mpr hc)
  sorted c hc := h.sorted c (hperm.mem_iff.mpr hc)
  apart := (hperm.pairwise_iff fun hab => hab.symm).mp h.apart
  shared u v := by
    rw [← h.shared]
    simp only [hperm.mem_iff]

/-! ## The components -/

/-- The members of each class in increasing order, by the roots of a forest. -/
def classesOf (F : Forest ι) : List (ι × List ι) :=
  groupBy [] (fun ids id => ids ++ [id]) F.root (F.keys.insertionSort (· ≤ ·))

theorem components_eq {stableId : List ι → γ} {nodeIds : List ι} {F : Forest ι}
    (h : relations.foldlM unionTopology (singletons nodeIds) = .ok F) :
    components stableId nodeIds relations =
      .ok ((((classesOf F).map Prod.snd).insertionSort (· ≤ ·)).map fun values =>
        ⟨stableId values, values⟩) := by
  have hfiled := (@foldl_filed _ _ _ _ [] (fun ids id => ids ++ [id]) id F appendMember
    (fun G groups x hG => ⟨fun u => by rw [appendMember, Forest.Found.same, hG], by
      rw [appendMember, Forest.Found.root_eq, hG, id]⟩)
    (F.keys.insertionSort (· ≤ ·)) F [] fun _ => rfl).2
  unfold components
  refine bind_eq_ok.mpr ⟨F, h, ?_⟩
  rw [hfiled]
  rfl

theorem partitions_classesOf {F : Forest ι} {r : ι → ι → Prop} (hF : F.Joins r) :
    Partitions (· ∈ F.keys) (Relation.EqvGen r) ((classesOf F).map Prod.snd) := by
  have hmem : ∀ u, u ∈ F.keys.insertionSort (· ≤ ·) ↔ u ∈ F.keys := fun u =>
    (List.perm_insertionSort _ _).mem_iff
  have hsorted : (F.keys.insertionSort (· ≤ ·)).Pairwise (· < ·) := by
    have hnodup := (List.perm_insertionSort (· ≤ ·) F.keys).nodup_iff.mpr F.nodup
    exact (List.pairwise_insertionSort (· ≤ ·) F.keys).imp₂ (fun _ _ => lt_of_le_of_ne) hnodup
  refine partitions_of_roots hF (nodup_keys_groupBy _) ?_ ?_
  · rintro ⟨k, c⟩ hgroup
    obtain ⟨⟨x, hx, hkey⟩, rfl⟩ := mem_groupBy.mp hgroup
    rw [foldl_snoc, List.nil_append]
    refine ⟨List.ne_nil_of_mem (List.mem_filter.mpr ⟨hx, by simpa using hkey⟩),
      hsorted.filter _, fun u => ?_⟩
    rw [List.mem_filter, hmem, decide_eq_true_iff]
  · intro u hu
    exact ⟨(F.root u, _), mem_groupBy.mpr ⟨⟨u, (hmem u).mpr hu, rfl⟩, rfl⟩, rfl⟩

/-- The components partition the nodes by the chains of topology relations, whatever the order of
the relations. -/
theorem components_partition (stableId : List ι → γ) {nodeIds : List ι}
    (hids : ∀ relation ∈ relations,
      relation.sourceNodeIds.1 ∈ nodeIds ∧ relation.sourceNodeIds.2 ∈ nodeIds) :
    ∃ result, components stableId nodeIds relations = .ok result ∧
      Partitions (· ∈ nodeIds) (Chained (topologyOf relations))
        (result.map SceneComponent.sourceNodeIds) ∧
      ∀ relations' : List (SceneRelation ι ρ), relations.Perm relations' →
        components stableId nodeIds relations' = .ok result := by
  have hforest : ∀ {relations : List (SceneRelation ι ρ)}, (∀ relation ∈ relations,
      relation.sourceNodeIds.1 ∈ nodeIds ∧ relation.sourceNodeIds.2 ∈ nodeIds) →
      ∃ F, relations.foldlM unionTopology (singletons nodeIds) = .ok F ∧
        F.keys = nodeIds.dedup ∧ F.Joins (Related (topologyOf relations)) := by
    intro relations hids
    obtain ⟨F, hF, hkeys, hjoins⟩ :=
      foldlM_unionTopology (joins_singletons (ρ := ρ) nodeIds) (fun relation hrelation => by
        simpa [singletons] using hids relation hrelation)
    exact ⟨F, hF, hkeys, hjoins.congr fun u v => by simp [Related]⟩
  obtain ⟨F, hF, hkeys, hjoins⟩ := hforest hids
  refine ⟨_, components_eq hF, ?_, fun relations' hperm => ?_⟩
  · rw [List.map_map]
    have hclasses := (partitions_classesOf hjoins).perm (List.perm_insertionSort (· ≤ ·) _).symm
    simp only [hkeys, List.mem_dedup] at hclasses
    unfold Chained
    simpa [Function.comp_def] using hclasses
  · obtain ⟨G, hG, hkeys', hjoins'⟩ := hforest fun relation hrelation =>
      hids relation (hperm.mem_iff.mpr hrelation)
    -- the root of a node is the least of its class, which the order of the relations leaves alone
    have hroots : G.root = F.root := funext fun v =>
      (hjoins'.congr (related_perm (hperm.symm.filter _))).root_eq hjoins v
    rw [components_eq hG, classesOf, hroots, hkeys', ← hkeys]
    rfl

/-! ## The groups -/

theorem mem_foldl_insert {α β : Type} [DecidableEq β] {f : α → β} {xs : List α} {acc : Finset β}
    {b : β} : b ∈ xs.foldl (fun seen x => insert (f x) seen) acc ↔
      b ∈ acc ∨ ∃ x ∈ xs, f x = b := by
  induction xs generalizing acc with
  | nil => simp
  | cons x xs ih =>
      rw [List.foldl_cons, ih, Finset.mem_insert]
      simp only [List.mem_cons, exists_eq_or_imp]
      rw [@eq_comm _ b, @or_comm (f x = b), or_assoc]

def nodeGroups (F : Forest ι) : List (ι × Finset ι) :=
  groupBy ∅ (fun ids id => insert id ids) F.root F.keys

theorem mem_nodeGroups {F : Forest ι} {k : ι} {c : Finset ι} (h : (k, c) ∈ nodeGroups F) (u : ι) :
    u ∈ c ↔ u ∈ F.keys ∧ F.root u = k := by
  obtain ⟨-, rfl⟩ := mem_groupBy.mp h
  have hmem := @mem_foldl_insert _ _ _ id (F.keys.filter (F.root · = k)) ∅ u
  simpa using hmem

variable [LinearOrder ρ]

def idGroups (F : Forest ι) (relations : List (SceneRelation ι ρ)) : List (ι × Finset ρ) :=
  groupBy ∅ (fun ids relation => insert relation.relationId ids)
    (fun relation => F.root relation.sourceNodeIds.1) relations

theorem relationGroups_eq : relationGroups relations =
    ((nodeGroups (relations.foldl unionRelation (singletons []))).insertionSort
      fun first second => first.1 ≤ second.1).map fun group => (group.2.sort (· ≤ ·),
        (groupAt ∅ (idGroups (relations.foldl unionRelation (singletons [])) relations)
          group.1).sort (· ≤ ·)) := by
  unfold relationGroups
  generalize relations.foldl unionRelation (singletons []) = F
  have hnodes := @foldl_filed _ _ _ _ ∅ (fun ids id => insert id ids) id F addNode
    (fun G groups x hG => ⟨fun u => by rw [addNode, Forest.Found.same, Forest.root_touch, hG], by
      rw [addNode, Forest.Found.root_eq, Forest.root_touch, hG, id]⟩) F.keys F [] fun _ => rfl
  have hrelations := (@foldl_filed _ _ _ _ ∅
    (fun ids (relation : SceneRelation ι ρ) => insert relation.relationId ids)
    (fun relation => relation.sourceNodeIds.1) F addRelation
    (fun G groups x hG => ⟨fun u => by rw [addRelation, Forest.Found.same, Forest.root_touch, hG],
      by rw [addRelation, Forest.Found.root_eq, Forest.root_touch, hG]⟩) relations _ []
    hnodes.1).2
  dsimp only
  rw [hrelations, hnodes.2]
  rfl

theorem mem_idGroups {F : Forest ι} {k : ι} {a : ρ} : a ∈ groupAt ∅ (idGroups F relations) k ↔
    ∃ relation ∈ relations, F.root relation.sourceNodeIds.1 = k ∧ relation.relationId = a := by
  rw [idGroups, groupAt_groupBy, mem_foldl_insert]
  simp [and_assoc]

/-- The groups partition the nodes that the relations name by the chains of relations, and each
relation is in one group, that of its nodes. -/
theorem relationGroups_partition (hids : ∀ relation ∈ relations, ∀ relation' ∈ relations,
      relation.relationId = relation'.relationId →
        relation.sourceNodeIds = relation'.sourceNodeIds) :
    Partitions (fun u => ∃ relation ∈ relations,
        u = relation.sourceNodeIds.1 ∨ u = relation.sourceNodeIds.2)
      (Chained relations) ((relationGroups relations).map Prod.fst) ∧
      ∀ relation ∈ relations,
        (∃! group, group ∈ relationGroups relations ∧ relation.relationId ∈ group.2) ∧
          ∀ group ∈ relationGroups relations, relation.relationId ∈ group.2 →
            relation.sourceNodeIds.1 ∈ group.1 ∧ relation.sourceNodeIds.2 ∈ group.1 := by
  have hforest := @foldl_unionRelation _ _ _ relations _ _ (joins_singletons (ρ := ρ) [])
  rw [relationGroups_eq]
  generalize relations.foldl unionRelation (singletons []) = F at hforest ⊢
  obtain ⟨hjoins, hkeys⟩ := hforest
  replace hjoins : F.Joins (Related relations) := hjoins.congr fun u v => by simp [Related]
  simp only [singletons, List.dedup_nil, List.not_mem_nil, false_or] at hkeys
  have hroots : ∀ u ∈ F.keys, ∃ c, (F.root u, c) ∈ nodeGroups F := fun u hu =>
    ⟨_, mem_groupBy.mpr ⟨⟨u, hu, rfl⟩, rfl⟩⟩
  constructor
  · have hclasses : Partitions (· ∈ F.keys) (Chained relations)
        (((nodeGroups F).map fun group => (group.1, group.2.sort (· ≤ ·))).map Prod.snd) := by
      refine partitions_of_roots hjoins ?_ (List.forall_mem_map.mpr ?_) ?_
      · rw [List.map_map]
        exact nodup_keys_groupBy F.keys
      · rintro ⟨k, c⟩ hmem
        obtain ⟨⟨u, hu, hkey⟩, -⟩ := mem_groupBy.mp hmem
        refine ⟨List.ne_nil_of_mem (a := u) ?_, c.sortedLT_sort.pairwise, fun v => ?_⟩
        · rw [Finset.mem_sort, mem_nodeGroups hmem]
          exact ⟨hu, hkey⟩
        · rw [Finset.mem_sort, mem_nodeGroups hmem]
      · intro u hu
        obtain ⟨c, hmem⟩ := hroots u hu
        exact ⟨_, List.mem_map_of_mem hmem, rfl⟩
    have hperm := hclasses.perm (((List.perm_insertionSort
      (fun (first second : ι × Finset ι) => first.1 ≤ second.1) (nodeGroups F)).symm.map
        fun group => (group.1, group.2.sort (· ≤ ·))).map Prod.snd)
    simp only [hkeys, List.map_map, Function.comp_def] at hperm
    simpa [Function.comp_def] using hperm
  · intro relation hrelation
    have hleft : relation.sourceNodeIds.1 ∈ F.keys :=
      (hkeys _).mpr ⟨relation, hrelation, Or.inl rfl⟩
    have hright : relation.sourceNodeIds.2 ∈ F.keys :=
      (hkeys _).mpr ⟨relation, hrelation, Or.inr rfl⟩
    have hroot : F.root relation.sourceNodeIds.1 = F.root relation.sourceNodeIds.2 :=
      (hjoins _ _).mpr (.rel _ _ ⟨relation, hrelation, rfl⟩)
    -- an id is filed under the root of its relation alone
    have hfiled : ∀ {k}, relation.relationId ∈ groupAt ∅ (idGroups F relations) k →
        F.root relation.sourceNodeIds.1 = k := by
      intro k hmem
      obtain ⟨relation', hrelation', hkey, hid⟩ := mem_idGroups.mp hmem
      rw [hids _ hrelation _ hrelation' hid.symm]
      exact hkey
    simp only [List.mem_map, List.mem_insertionSort, Prod.exists]
    constructor
    · obtain ⟨c, hc⟩ := hroots _ hleft
      refine ⟨_, ⟨⟨_, c, hc, rfl⟩, ?_⟩, ?_⟩
      · rw [Finset.mem_sort, mem_idGroups]
        exact ⟨relation, hrelation, rfl, rfl⟩
      · rintro group ⟨⟨k, c', hc', rfl⟩, hid⟩
        rw [Finset.mem_sort] at hid
        obtain rfl := hfiled hid
        have hsame : c' = c := Finset.ext fun u => by
          rw [mem_nodeGroups hc, mem_nodeGroups hc']
        rw [hsame]
    · rintro group ⟨k, c, hc, rfl⟩ hid
      rw [Finset.mem_sort] at hid
      obtain rfl := hfiled hid
      rw [Finset.mem_sort, Finset.mem_sort, mem_nodeGroups hc, mem_nodeGroups hc]
      exact ⟨⟨hleft, rfl⟩, hright, hroot.symm⟩

end

/-- One pair of nodes that touch and one that have a center in common. -/
def touching : SceneRelation String String := ⟨"rel_1", .touch, ("nod_a", "nod_b")⟩

def concentricPair : SceneRelation String String := ⟨"rel_2", .concentric, ("nod_b", "nod_c")⟩

end AutocadMcp.Scene
