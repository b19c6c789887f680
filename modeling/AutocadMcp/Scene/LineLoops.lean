import AutocadMcp.Scene.Contours

/-!
# Line loops and their polygons

A set of lines is a loop where every end of its lines has one match, at another of them,
and no part of it is cut off. The recogniser emits the loops of three lines and more, and
the walk from the least line of a loop comes round through all of them.
-/

namespace AutocadMcp.Scene

open Plane

section

variable {ι K γ : Type} [LinearOrder ι] [Field K] [LinearOrder K]

/-! ## The recogniser -/

abbrev LineNode (ι K : Type) [LE K] := SceneNode ι K (Geometry K)

def lineGeometry : Option (Geometry K) → Option (LineGeometry K)
  | some (.line g) => some g
  | _ => none

/-- The node is a line with two ends. -/
def IsLine (node : LineNode ι K) : Prop :=
  ∃ g ∈ lineGeometry node.geometry, g.start ≠ g.stop

instance (node : LineNode ι K) : Decidable (IsLine node) :=
  inferInstanceAs (Decidable (∃ g ∈ lineGeometry node.geometry, g.start ≠ g.stop))

/-- The lines of the scene by their ids. -/
def lineNodes (nodes : List (LineNode ι K)) : List (ι × LineNode ι K) :=
  dictOf ((nodes.filter fun node => IsLine node).map fun node => (node.nodeId, node))

def geometries (lines : List (ι × LineNode ι K)) : List (ι × LineGeometry K) :=
  lines.filterMap fun item => (lineGeometry item.2.geometry).map fun g => (item.1, g)

/-- `_union` -/
def unionBounds : List (Option (Bounds K)) → Except ContourFailure (Bounds K)
  | [] => .error .stopIteration
  | none :: _ => .error .assertionError
  | some first :: rest => rest.foldlM (fun result item =>
      match item with
      | none => .error .assertionError
      | some bounds => .ok (result.union bounds)) first

def boundsOf (lines : List (ι × LineNode ι K)) (id : ι) :
    Except ContourFailure (Option (Bounds K)) :=
  match getItem lines id with
  | none => .error .lookupError
  | some node => .ok node.bounds

def loopContour (stableId : List ι → γ) (lines : List (ι × LineNode ι K)) (members : Finset ι) :
    Except ContourFailure (SceneContour ι γ K) := do
  let ordered := members.sort (· ≤ ·)
  let bounds ← ordered.mapM (boundsOf lines)
  let union ← unionBounds bounds
  return ⟨stableId ordered, ordered, true, .lineLoop, union⟩

/-- Three lines or more, and one match for each of their ends among them. -/
def IsLoop (matched : Matched ι) (members : Finset ι) : Prop :=
  3 ≤ members.card ∧ ∀ id ∈ members, ∀ side,
    ((matched ⟨id, side⟩).filter (·.line ∈ members)).card = 1

instance (matched : Matched ι) (members : Finset ι) : Decidable (IsLoop matched members) :=
  inferInstanceAs (Decidable (_ ∧ _))

/-- The lines that have an end in common, up to the matches. -/
def adjacency (ids : Finset ι) (matched : Matched ι)
    (h : ∀ a b, b ∈ matched a → b.line ∈ ids) : Successors ι where
  vertices := ids
  next id := (matched ⟨id, 0⟩ ∪ matched ⟨id, 1⟩).image Occurrence.line
  next_subset id _ line hline := by
    obtain ⟨b, hb, rfl⟩ := Finset.mem_image.mp hline
    rcases Finset.mem_union.mp hb with hb | hb
    · exact h _ b hb
    · exact h _ b hb

/-! ## The polygon -/

theorem notMem_used {ends : Finset (Occurrence ι)} {used : Finset ι} {choice : Occurrence ι}
    {rest : List (Occurrence ι)} (h : (ends.filter (·.line ∉ used)).sort (· ≤ ·) = choice :: rest) :
    choice.line ∉ used := by
  have hchoice : choice ∈ ends.filter (·.line ∉ used) := by
    rw [← Finset.mem_sort (· ≤ ·), h]
    exact List.mem_cons_self
  exact (Finset.mem_filter.mp hchoice).2

/-- The polygon so far and the end that the walk has come to. -/
def walkLoop (lines : List (ι × LineGeometry K)) (matched : Matched ι) (used : Finset ι)
    (points : List (Point K)) (current : Occurrence ι) :
    Except ContourFailure (Option (List (Point K) × Occurrence ι)) :=
  if used.card < lines.length then
    match h : ((matched current).filter (·.line ∉ used)).sort (· ≤ ·) with
    | [] => .ok none
    | choice :: _ =>
        have := notMem_used h
        match getItem lines choice.line with
        | none => .error .lookupError
        | some line =>
            walkLoop lines matched (insert choice.line used)
              (points ++ [line.endpoint (1 - choice.side)]) choice.flip
  else .ok (some (points, current))
termination_by lines.length - used.card
decreasing_by
  rw [Finset.card_insert_of_notMem this]
  omega

def contourLines (nodes : List (ι × LineNode ι K)) (ids : List ι) :
    Except ContourFailure (List (ι × Option (Geometry K))) :=
  ids.mapM fun id =>
    match getItem nodes id with
    | none => .error .lookupError
    | some node => .ok (id, node.geometry)

variable [FloorRing K] [Hypot K] [IsStrictOrderedRing K]

theorem matched_mem {lines : List (ι × LineGeometry K)} {tolerance : K} {maxCandidates : ℕ}
    {matched : Matched ι} (htol : 0 < tolerance)
    (h : endpointMatches lines tolerance maxCandidates = .ok matched) (a b : Occurrence ι)
    (hb : b ∈ matched a) : b.line ∈ (lines.map Prod.fst).toFinset := by
  obtain ⟨-, -, line', -, hline', -⟩ := ((endpointMatches_eq_ok htol h).2 a b).mp hb
  exact List.mem_toFinset.mpr (List.mem_map.mpr ⟨_, hline', rfl⟩)

/-- `_line_loop_contours` -/
def lineLoopContours (stableId : List ι → γ) (nodes : List (LineNode ι K)) {tolerance : K}
    (htol : 0 < tolerance) (maxCandidates : ℕ) :
    Except ContourFailure (List (SceneContour ι γ K)) :=
  match h : endpointMatches (geometries (lineNodes nodes)) tolerance maxCandidates with
  | .error failure => .error failure
  | .ok matched =>
      let G := adjacency _ matched (matched_mem htol h)
      ((G.components G.vertices subset_rfl).filter (IsLoop matched)).mapM
        (loopContour stableId (lineNodes nodes))

/-- `contour_polygon` -/
def contourPolygon (contour : SceneContour ι γ K) (nodes : List (ι × LineNode ι K))
    (tolerance : K) : Except ContourFailure (Option (List (Point K))) :=
  match contour.kind with
  | .polyline =>
      match contour.sourceNodeIds.head?.bind (getItem nodes) with
      | none => .error .lookupError
      | some node =>
          match node.geometry with
          | some (.polyline g) =>
              if ∃ v ∈ g.vertices, v.bulge ≠ 0 then .ok none
              else .ok (some (g.vertices.map (·.xy)))
          | _ => .ok none
  | .lineLoop => do
      let found ← contourLines nodes contour.sourceNodeIds
      let lines := dictOf (found.filterMap fun item =>
        (lineGeometry item.2).map fun g => (item.1, g))
      if ∃ item ∈ found, lineGeometry item.2 = none then return none
      let matched ← endpointMatches lines tolerance 250000
      match lines.insertionSort fun a b => a.1 ≤ b.1 with
      | [] => .error .lookupError
      | (startId, first) :: _ =>
          let walked ← walkLoop lines matched {startId} [first.start, first.stop] ⟨startId, 1⟩
          match walked with
          | none => return none
          | some (points, current) =>
              return if ⟨startId, 0⟩ ∈ matched current then some points.dropLast else none

end

/-! ## Loops of the matches -/

section

variable {ι K : Type} [LinearOrder ι] [Field K] [LinearOrder K]
  {ids : Finset ι} {matched : Matched ι} {Match : Occurrence ι → Occurrence ι → Prop}
  {hinside : ∀ a b, b ∈ matched a → b.line ∈ ids}

omit [Field K] [LinearOrder K] in
theorem mem_adjacency {u v : ι} : v ∈ (adjacency ids matched hinside).next u ↔
    ∃ a b, b ∈ matched a ∧ a.line = u ∧ b.line = v := by
  simp only [adjacency, Finset.mem_image, Finset.mem_union]
  constructor
  · rintro ⟨b, hb | hb, rfl⟩
    · exact ⟨_, b, hb, rfl, rfl⟩
    · exact ⟨_, b, hb, rfl, rfl⟩
  · rintro ⟨⟨u, side⟩, b, hb, rfl, rfl⟩
    refine ⟨b, ?_, rfl⟩
    fin_cases side
    · exact Or.inl hb
    · exact Or.inr hb

/-- The components that pass the test of the recogniser are the loops. -/
theorem isLoop_iff (hmatched : ∀ a b, b ∈ matched a ↔ Match a b)
    (hsymm : ∀ {a b}, Match a b → Match b a) (hapart : ∀ {a b}, Match a b → a.line ≠ b.line)
    {members : Finset ι} :
    (∃ u ∈ ids, ∀ v, v ∈ members ↔ (adjacency ids matched hinside).Reaches u v) ∧
        IsLoop matched members ↔
      members ⊆ ids ∧ 3 ≤ members.card ∧ Loop members Match := by
  have hstep : ∀ {a b}, Match a b → b.line ∈ (adjacency ids matched hinside).next a.line :=
    fun hab => mem_adjacency.mpr ⟨_, _, (hmatched _ _).mpr hab, rfl, rfl⟩
  have hnext : ∀ u v, v ∈ (adjacency ids matched hinside).next u →
      u ∈ (adjacency ids matched hinside).next v := by
    intro u v huv
    obtain ⟨a, b, hb, rfl, rfl⟩ := mem_adjacency.mp huv
    exact hstep (hsymm ((hmatched a b).mp hb))
  constructor
  · rintro ⟨⟨u, hu, hmembers⟩, hcard, hone⟩
    have hclosed : ∀ {a b}, Match a b → a.line ∈ members → b.line ∈ members := by
      intro a b hab ha
      rw [hmembers] at ha ⊢
      exact ha.tail (hstep hab)
    have hpartner : ∀ a : Occurrence ι, a.line ∈ members → ∃ b, ∀ c, Match a c ↔ c = b := by
      intro a ha
      obtain ⟨b, hb⟩ := Finset.card_eq_one.mp (hone a.line ha a.side)
      refine ⟨b, fun c => ?_⟩
      rw [← Finset.mem_singleton, ← hb, Finset.mem_filter, hmatched]
      exact ⟨fun hc => ⟨hc, hclosed hc ha⟩, fun hc => hc.1⟩
    refine ⟨fun v hv => ?_, hcard, ⟨hsymm, hapart, hclosed, fun a ha => ?_, fun ha hb hc => ?_, ?_⟩⟩
    · rw [hmembers] at hv
      induction hv with
      | refl => exact hu
      | tail _ hlast ih => exact (adjacency ids matched hinside).next_subset _ ih hlast
    · obtain ⟨b, hb⟩ := hpartner a ha
      exact ⟨b, (hb b).mpr rfl⟩
    · obtain ⟨b', hb'⟩ := hpartner _ ha
      exact ((hb' _).mp hb).trans ((hb' _).mp hc).symm
    · rintro part hpart ⟨w, hw⟩ hclosed'
      refine hpart.antisymm fun v hv => ?_
      have hreach : (adjacency ids matched hinside).Reaches w v := by
        have huw := hpart hw
        rw [hmembers] at huw hv
        exact (Successors.reaches_symm hnext huw).trans hv
      induction hreach with
      | refl => exact hw
      | tail hprevious hlast ih =>
          obtain ⟨a, b, hb, rfl, rfl⟩ := mem_adjacency.mp hlast
          refine hclosed' a b ((hmatched a b).mp hb) (ih ?_)
          exact hclosed (hsymm ((hmatched a b).mp hb)) hv
  · rintro ⟨hsub, hcard, hloop⟩
    obtain ⟨u, hu⟩ := Finset.card_pos.mp (lt_of_lt_of_le (by norm_num) hcard)
    have hreached : ∀ v, (adjacency ids matched hinside).Reaches u v → v ∈ members := by
      intro v hv
      induction hv with
      | refl => exact hu
      | tail _ hlast ih =>
          obtain ⟨a, b, hb, rfl, rfl⟩ := mem_adjacency.mp hlast
          exact hloop.closed ((hmatched a b).mp hb) ih
    refine ⟨⟨u, hsub hu, fun v => ⟨fun hv => ?_, hreached v⟩⟩, hcard, fun id hid side => ?_⟩
    · -- what the least line reaches is a part of the loop that nothing leads out of
      classical
      have hall := hloop.connected
        (members.filter fun v => (adjacency ids matched hinside).Reaches u v)
        (Finset.filter_subset _ _) ⟨u, Finset.mem_filter.mpr ⟨hu, .refl⟩⟩
        fun a b hab ha => by
          rw [Finset.mem_filter] at ha ⊢
          exact ⟨hloop.closed hab ha.1, ha.2.tail (hstep hab)⟩
      rw [← hall, Finset.mem_filter] at hv
      exact hv.2
    · obtain ⟨b, hb⟩ := hloop.matched ⟨id, side⟩ hid
      refine Finset.card_eq_one.mpr ⟨b, Finset.ext fun c => ?_⟩
      rw [Finset.mem_filter, hmatched, Finset.mem_singleton]
      constructor
      · rintro ⟨hc, -⟩
        exact hloop.unique hid hc hb
      · rintro rfl
        exact ⟨hb, hloop.closed hb hid⟩

end

/-! ## What the recogniser emits -/

section

variable {ι K γ : Type} [LinearOrder ι] [LinearOrder K] {nodes : List (LineNode ι K)}

/-- The lines that the recogniser works on. -/
def sceneLines (nodes : List (LineNode ι K)) : List (ι × LineGeometry K) :=
  geometries (lineNodes nodes)

theorem lineNodes_eq (hids : (nodes.map SceneNode.nodeId).Nodup) :
    lineNodes nodes = (nodes.filter fun node => IsLine node).map fun node => (node.nodeId, node) := by
  refine dictOf_of_nodup ?_
  rw [List.map_map]
  exact hids.sublist ((List.filter_sublist).map _)

theorem mem_lineNodes (hids : (nodes.map SceneNode.nodeId).Nodup) {id : ι}
    {node : LineNode ι K} :
    (id, node) ∈ lineNodes nodes ↔ node ∈ nodes ∧ IsLine node ∧ node.nodeId = id := by
  rw [lineNodes_eq hids]
  simp only [List.mem_map, List.mem_filter, decide_eq_true_eq, Prod.mk.injEq]
  constructor
  · rintro ⟨node, ⟨hnode, hline⟩, rfl, rfl⟩
    exact ⟨hnode, hline, rfl⟩
  · rintro ⟨hnode, hline, rfl⟩
    exact ⟨node, ⟨hnode, hline⟩, rfl, rfl⟩

theorem nodup_lineNodes (hids : (nodes.map SceneNode.nodeId).Nodup) :
    ((lineNodes nodes).map Prod.fst).Nodup := by
  rw [lineNodes_eq hids, List.map_map]
  exact hids.sublist ((List.filter_sublist).map _)

theorem mem_sceneLines (hids : (nodes.map SceneNode.nodeId).Nodup) {id : ι} {g : LineGeometry K} :
    (id, g) ∈ sceneLines nodes ↔ ∃ node ∈ nodes, IsLine node ∧ node.nodeId = id ∧
      lineGeometry node.geometry = some g := by
  simp only [sceneLines, geometries, List.mem_filterMap, Prod.exists, mem_lineNodes hids,
    Option.map_eq_some_iff, Prod.mk.injEq]
  constructor
  · rintro ⟨id, node, ⟨hnode, hline, hid⟩, g, hg, rfl, rfl⟩
    exact ⟨node, hnode, hline, hid, hg⟩
  · rintro ⟨node, hnode, hline, hid, hg⟩
    exact ⟨id, node, ⟨hnode, hline, hid⟩, g, hg, rfl, rfl⟩

omit [LinearOrder ι] in
theorem keys_filterMap {α β : Type} {f : α → Option β} {xs : List (ι × α)}
    (h : ∀ item ∈ xs, (f item.2).isSome) :
    (xs.filterMap fun item => (f item.2).map fun y => (item.1, y)).map Prod.fst =
      xs.map Prod.fst := by
  induction xs with
  | nil => rfl
  | cons item xs ih =>
      rw [List.forall_mem_cons] at h
      obtain ⟨y, hy⟩ := Option.isSome_iff_exists.mp h.1
      rw [List.filterMap_cons_some (by rw [hy]; rfl), List.map_cons, List.map_cons, ih h.2]

theorem keys_sceneLines (hids : (nodes.map SceneNode.nodeId).Nodup) :
    (sceneLines nodes).map Prod.fst = (lineNodes nodes).map Prod.fst := by
  refine keys_filterMap (f := fun node : LineNode ι K => lineGeometry node.geometry) ?_
  rintro ⟨id, node⟩ hitem
  obtain ⟨-, ⟨g, hg, -⟩, -⟩ := (mem_lineNodes hids).mp hitem
  rw [Option.mem_def.mp hg]
  rfl

theorem nodup_sceneLines (hids : (nodes.map SceneNode.nodeId).Nodup) :
    ((sceneLines nodes).map Prod.fst).Nodup :=
  keys_sceneLines hids ▸ nodup_lineNodes hids

theorem foldlM_union_ok {bounds : List (Option (Bounds K))} (h : ∀ b ∈ bounds, b ≠ none)
    (first : Bounds K) : ∃ result, bounds.foldlM (fun (result : Bounds K) item =>
      match item with
      | none => Except.error ContourFailure.assertionError
      | some bounds => .ok (result.union bounds)) first = .ok result := by
  induction bounds generalizing first with
  | nil => exact ⟨first, rfl⟩
  | cons item bounds ih =>
      rw [List.forall_mem_cons] at h
      obtain ⟨b, rfl⟩ := Option.ne_none_iff_exists'.mp h.1
      exact ih h.2 (first.union b)

theorem unionBounds_ok {bounds : List (Option (Bounds K))} (hne : bounds ≠ [])
    (h : ∀ b ∈ bounds, b ≠ none) : ∃ result, unionBounds bounds = .ok result := by
  cases bounds with
  | nil => exact absurd rfl hne
  | cons first rest =>
      rw [List.forall_mem_cons] at h
      obtain ⟨b, rfl⟩ := Option.ne_none_iff_exists'.mp h.1
      exact foldlM_union_ok h.2 b

/-- The contour of a set of lines that have bounds. -/
theorem loopContour_ok (hids : (nodes.map SceneNode.nodeId).Nodup)
    (hbounds : ∀ node ∈ nodes, IsLine node → node.bounds ≠ none) (stableId : List ι → γ)
    {members : Finset ι} (hmembers : members ⊆ ((sceneLines nodes).map Prod.fst).toFinset)
    (hne : members.Nonempty) : ∃ bounds, loopContour stableId (lineNodes nodes) members =
      .ok ⟨stableId (members.sort (· ≤ ·)), members.sort (· ≤ ·), true, .lineLoop, bounds⟩ := by
  have hfound : ∀ id ∈ members.sort (· ≤ ·), ∃ b,
      boundsOf (lineNodes nodes) id = .ok b ∧ b ≠ none := by
    intro id hid
    have hkey := hmembers ((Finset.mem_sort _).mp hid)
    rw [List.mem_toFinset, keys_sceneLines hids] at hkey
    obtain ⟨⟨id', node⟩, hitem, rfl⟩ := List.mem_map.mp hkey
    have hget := (getItem_eq_some (nodup_lineNodes hids)).mpr hitem
    obtain ⟨hnode, hline, -⟩ := (mem_lineNodes hids).mp hitem
    exact ⟨node.bounds, by rw [boundsOf, hget], hbounds node hnode hline⟩
  obtain ⟨bounds, hrun, hmem⟩ := mapM_ok_of_forall fun id hid =>
    (hfound id hid).imp fun _ hb => hb.1
  have hall : ∀ b ∈ bounds, b ≠ none := by
    intro b hb
    obtain ⟨id, hid, hok⟩ := (hmem b).mp hb
    obtain ⟨b', hok', hne'⟩ := hfound id hid
    rw [hok, Except.ok.injEq] at hok'
    exact hok' ▸ hne'
  have hfull : bounds ≠ [] := by
    obtain ⟨id, hid⟩ := hne
    obtain ⟨b, hb, -⟩ := hfound id ((Finset.mem_sort _).mpr hid)
    exact List.ne_nil_of_mem ((hmem b).mpr ⟨id, (Finset.mem_sort _).mpr hid, hb⟩)
  obtain ⟨result, hresult⟩ := unionBounds_ok hfull hall
  refine ⟨result, ?_⟩
  unfold loopContour
  exact bind_eq_ok.mpr ⟨bounds, hrun, bind_eq_ok.mpr ⟨result, hresult, rfl⟩⟩

variable [Field K] [FloorRing K] [Hypot K] [IsStrictOrderedRing K] {tolerance : K} {maxCandidates : ℕ}

/-- A set of three lines or more with one match for each end, none of it cut off. -/
def LineLoop (nodes : List (LineNode ι K)) (tolerance : K) (members : Finset ι) : Prop :=
  members ⊆ ((sceneLines nodes).map Prod.fst).toFinset ∧ 3 ≤ members.card ∧
    Loop members (EndsMatch (sceneLines nodes) tolerance)

omit [FloorRing K] [LinearOrder ι] in
theorem EndsMatch.symm {lines : List (ι × LineGeometry K)} {a b : Occurrence ι}
    (h : EndsMatch lines tolerance a b) : EndsMatch lines tolerance b a := by
  obtain ⟨hne, line, line', hline, hline', hle⟩ := h
  exact ⟨Ne.symm hne, line', line, hline', hline, pointDist_comm (line.endpoint a.side) _ ▸ hle⟩

/-- Within its budget the recogniser emits the loops and nothing else. -/
theorem lineLoopContours_ok (hids : (nodes.map SceneNode.nodeId).Nodup)
    (hbounds : ∀ node ∈ nodes, IsLine node → node.bounds ≠ none) (stableId : List ι → γ)
    (htol : 0 < tolerance) (hfit : endCandidates tolerance (sceneLines nodes) ≤ maxCandidates) :
    ∃ contours, lineLoopContours stableId nodes htol maxCandidates = .ok contours ∧
      ∀ contour, contour ∈ contours ↔ ∃ members, LineLoop nodes tolerance members ∧
        loopContour stableId (lineNodes nodes) members = .ok contour := by
  unfold lineLoopContours
  split
  · rename_i failure h
    obtain ⟨matched, hrun, -⟩ := endpointMatches_ok htol hfit
    rw [sceneLines, h] at hrun
    exact absurd hrun (by simp)
  · rename_i matched h
    have hmatched := (endpointMatches_eq_ok htol h).2
    have hloop := fun members => @isLoop_iff ι _ _ matched _ (matched_mem htol h) hmatched
      EndsMatch.symm (fun hab => hab.1) members
    have hcomponents := fun members => @Successors.mem_components ι _
      (adjacency _ matched (matched_mem htol h)) (by
        intro u v huv
        obtain ⟨a, b, hb, rfl, rfl⟩ := mem_adjacency.mp huv
        exact mem_adjacency.mpr ⟨b, a, (hmatched _ _).mpr ((hmatched _ _).mp hb).symm, rfl, rfl⟩)
      _ subset_rfl (by
        intro u hu v hreach
        induction hreach with
        | refl => exact hu
        | tail _ hlast ih => exact Successors.next_subset _ _ ih hlast) members
    have hfiltered : ∀ members, members ∈ ((adjacency _ matched
        (matched_mem htol h)).components _ subset_rfl).filter (IsLoop matched) ↔
          LineLoop nodes tolerance members := by
      intro members
      rw [List.mem_filter, hcomponents, decide_eq_true_iff]
      exact hloop members
    obtain ⟨contours, hrun, hmem⟩ := mapM_ok_of_forall (f := loopContour stableId (lineNodes nodes))
      fun members hmembers => by
        have hline := (hfiltered members).mp hmembers
        obtain ⟨bounds, hok⟩ := loopContour_ok hids hbounds stableId hline.1
          (Finset.card_pos.mp (lt_of_lt_of_le (by norm_num) hline.2.1))
        exact ⟨_, hok⟩
    refine ⟨contours, hrun, fun contour => ?_⟩
    rw [hmem]
    simp only [hfiltered]

end

end AutocadMcp.Scene
