import AutocadMcp.Scene.LineLoops

/-!
# The polygon of a line loop

The walk of `contour_polygon` from the least line of a loop takes each line once and comes
back to where it started, so that the polygon has a vertex for each line.
-/

namespace AutocadMcp.Scene

open Plane

section

variable {ι K γ : Type} [LinearOrder ι]

/-- The point of an end. -/
def Drawn (lines : List (ι × LineGeometry K)) (o : Occurrence ι) (p : Point K) : Prop :=
  ∃ line, (o.line, line) ∈ lines ∧ p = line.endpoint o.side

variable {lines : List (ι × LineGeometry K)} {matched : Matched ι} {members : Finset ι}
  {Match : Occurrence ι → Occurrence ι → Prop}

/-- The loop goes on until it has used every line. -/
theorem walkLoop_trail (hloop : Loop members Match) (hmatched : ∀ a b, b ∈ matched a ↔ Match a b)
    (hnodup : (lines.map Prod.fst).Nodup) (hlength : lines.length = members.card)
    (hlines : ∀ id ∈ members, ∃ line, (id, line) ∈ lines) (start : Point K) {current : Occurrence ι}
    {earlier : List (Occurrence ι)} {points : List (Point K)}
    (htrail : Trail members Match (current :: earlier))
    (hpoints : List.Forall₂ (Drawn lines) (current :: earlier).reverse points) :
    ∃ last rest points', walkLoop lines matched
        ((current :: earlier).map Occurrence.line).toFinset (start :: points) current =
          .ok (some (start :: points', last)) ∧
      Trail members Match (last :: rest) ∧
      ((last :: rest).map Occurrence.line).toFinset = members ∧
      (last :: rest).getLast (List.cons_ne_nil _ _) =
        (current :: earlier).getLast (List.cons_ne_nil _ _) ∧
      List.Forall₂ (Drawn lines) (last :: rest).reverse points' := by
  have hused : ((current :: earlier).map Occurrence.line).toFinset ⊆ members := by
    intro id hid
    obtain ⟨o, ho, rfl⟩ := List.mem_map.mp (List.mem_toFinset.mp hid)
    exact htrail.mem o ho
  induction hleft : members.card - ((current :: earlier).map Occurrence.line).toFinset.card
    generalizing current earlier points with
  | zero =>
      have hcard : ¬ ((current :: earlier).map Occurrence.line).toFinset.card < lines.length := by
        omega
      refine ⟨current, earlier, points, ?_, htrail, ?_, rfl, hpoints⟩
      · rw [walkLoop, if_neg hcard]
      · exact Finset.eq_of_subset_of_card_le hused (by omega)
  | succ n ih =>
      have hcard : ((current :: earlier).map Occurrence.line).toFinset.card < lines.length := by
        omega
      rw [walkLoop, if_pos hcard]
      obtain ⟨b, hb⟩ := hloop.matched current (htrail.mem current List.mem_cons_self)
      have hnew : b.line ∉ (current :: earlier).map Occurrence.line := by
        intro hback
        rw [htrail.covers hloop hb hback] at hcard
        omega
      split
      · rename_i hnone
        have hmem : b ∈ (matched current).filter
            (·.line ∉ ((current :: earlier).map Occurrence.line).toFinset) :=
          Finset.mem_filter.mpr ⟨(hmatched _ _).mpr hb, by rwa [List.mem_toFinset]⟩
        rw [← Finset.mem_sort (· ≤ ·), hnone] at hmem
        exact absurd hmem List.not_mem_nil
      · rename_i choice rest hchoices
        have hchoice : choice ∈ (matched current).filter
            (·.line ∉ ((current :: earlier).map Occurrence.line).toFinset) := by
          rw [← Finset.mem_sort (· ≤ ·), hchoices]
          exact List.mem_cons_self
        -- the current end has one match, so there is no other choice
        obtain rfl : choice = b := hloop.unique (htrail.mem current List.mem_cons_self)
          ((hmatched _ _).mp (Finset.mem_filter.mp hchoice).1) hb
        have hnext := htrail.step hloop hb hnew
        obtain ⟨line, hline⟩ := hlines choice.line (hnext.mem choice.flip List.mem_cons_self)
        have hget := (getItem_eq_some hnodup).mpr hline
        have hinsert : insert choice.line ((current :: earlier).map Occurrence.line).toFinset =
            ((choice.flip :: current :: earlier).map Occurrence.line).toFinset := by
          rw [List.map_cons (l := current :: earlier), List.toFinset_cons, Occurrence.line_flip]
        have hdrawn : List.Forall₂ (Drawn lines) (choice.flip :: current :: earlier).reverse
            (points ++ [line.endpoint (1 - choice.side)]) := by
          rw [List.reverse_cons]
          exact List.rel_append hpoints (.cons ⟨line, hline, rfl⟩ .nil)
        have hgrown : members.card -
            ((choice.flip :: current :: earlier).map Occurrence.line).toFinset.card = n := by
          rw [← hinsert, Finset.card_insert_of_notMem (by rwa [List.mem_toFinset])]
          omega
        have hsub : ((choice.flip :: current :: earlier).map Occurrence.line).toFinset ⊆
            members := by
          rw [← hinsert, Finset.insert_subset_iff]
          exact ⟨hnext.mem choice.flip List.mem_cons_self, hused⟩
        obtain ⟨last, rest', points', hrun, htrail', hall, hstart, hdrawn'⟩ :=
          ih hnext hdrawn hsub hgrown
        refine ⟨last, rest', points', ?_, htrail', hall, ?_, hdrawn'⟩
        · rw [hget]
          dsimp only
          rw [hinsert, List.cons_append]
          exact hrun
        · rw [hstart, List.getLast_cons (List.cons_ne_nil _ _)]

variable [Field K] [LinearOrder K]

/-- The walk leaves each line once, enters the next at the match of the end it left, and comes back
to the end it started from; the polygon has the points where it comes to an end. -/
structure GoesRound [Hypot K] (lines : List (ι × LineGeometry K)) (tolerance : K)
    (members : Finset ι) (polygon : List (Point K)) (first : Occurrence ι)
    (walk : List (Occurrence ι)) : Prop where
  once : ((first :: walk).map Occurrence.line).Nodup
  all : ∀ id, id ∈ (first :: walk).map Occurrence.line ↔ id ∈ members
  linked : (first :: walk).IsChain fun left next => EndsMatch lines tolerance left next.flip
  closes : EndsMatch lines tolerance ((first :: walk).getLast (List.cons_ne_nil _ _)) first.flip
  vertices : List.Forall₂ (Drawn lines) (first.flip :: (first :: walk).dropLast) polygon

theorem GoesRound.length_eq [Hypot K] {tolerance : K} {polygon : List (Point K)}
    {first : Occurrence ι} {walk : List (Occurrence ι)}
    (h : GoesRound lines tolerance members polygon first walk) : polygon.length = members.card := by
  have hall : ((first :: walk).map Occurrence.line).toFinset = members :=
    Finset.ext fun id => by rw [List.mem_toFinset, h.all]
  rw [← hall, List.toFinset_card_of_nodup h.once, ← h.vertices.length_eq]
  simp

end

/-! ## The lines of a contour -/

section

variable {ι K γ : Type} [LinearOrder ι] [LinearOrder K] {nodes : List (LineNode ι K)}
  {members : Finset ι}

/-- `{node.node_id: node for node in nodes}` -/
def nodesById (nodes : List (LineNode ι K)) : List (ι × LineNode ι K) :=
  dictOf (nodes.map fun node => (node.nodeId, node))

theorem getItem_nodesById (hids : (nodes.map SceneNode.nodeId).Nodup) {node : LineNode ι K}
    (h : node ∈ nodes) : getItem (nodesById nodes) node.nodeId = some node := by
  have hkeys : ((nodes.map fun node => (node.nodeId, node)).map Prod.fst).Nodup := by
    rwa [List.map_map]
  rw [nodesById, dictOf_of_nodup hkeys, getItem_eq_some hkeys]
  exact List.mem_map_of_mem h

theorem contourLines_ok (hids : (nodes.map SceneNode.nodeId).Nodup)
    (hmembers : members ⊆ ((sceneLines nodes).map Prod.fst).toFinset) :
    ∃ found, contourLines (nodesById nodes) (members.sort (· ≤ ·)) = .ok found ∧
      found.map Prod.fst = members.sort (· ≤ ·) ∧
      ∀ item ∈ found, ∃ node ∈ nodes, IsLine node ∧ item = (node.nodeId, node.geometry) := by
  have hnode : ∀ id ∈ members.sort (· ≤ ·), ∃ node ∈ nodes, IsLine node ∧ node.nodeId = id := by
    intro id hid
    have hkey := hmembers ((Finset.mem_sort _).mp hid)
    obtain ⟨⟨id', g⟩, hg, rfl⟩ := List.mem_map.mp (List.mem_toFinset.mp hkey)
    obtain ⟨node, hnode, hline, hid, -⟩ := (mem_sceneLines hids).mp hg
    exact ⟨node, hnode, hline, hid⟩
  obtain ⟨found, hrun, hmem⟩ : ∃ found, contourLines (nodesById nodes) (members.sort (· ≤ ·)) =
      .ok found ∧ ∀ item, item ∈ found ↔ ∃ id ∈ members.sort (· ≤ ·), _ := by
    refine mapM_ok_of_forall fun id hid => ?_
    obtain ⟨node, hmem, -, rfl⟩ := hnode id hid
    exact ⟨_, by rw [getItem_nodesById hids hmem]⟩
  refine ⟨found, hrun, ?_, fun item hitem => ?_⟩
  · have hkeys := mapM_eq_ok_map (g := Prod.fst) (k := id) hrun fun id hid item hok => by
      obtain ⟨node, hmem, -, rfl⟩ := hnode id hid
      rw [getItem_nodesById hids hmem, Except.ok.injEq] at hok
      rw [← hok]
      rfl
    rw [hkeys, List.map_id]
  · obtain ⟨id, hid, hok⟩ := (hmem item).mp hitem
    obtain ⟨node, hmem, hline, rfl⟩ := hnode id hid
    rw [getItem_nodesById hids hmem, Except.ok.injEq] at hok
    exact ⟨node, hmem, hline, hok.symm⟩

/-- The dictionary of lines that `contour_polygon` makes. -/
def foundLines (found : List (ι × Option (Geometry K))) : List (ι × LineGeometry K) :=
  dictOf (found.filterMap fun item => (lineGeometry item.2).map fun g => (item.1, g))

variable {found : List (ι × Option (Geometry K))}

omit [LinearOrder ι] in
theorem lineGeometry_isSome
    (hfound : ∀ item ∈ found, ∃ node ∈ nodes, IsLine node ∧ item = (node.nodeId, node.geometry)) :
    ∀ item ∈ found, (lineGeometry item.2).isSome := by
  intro item hitem
  obtain ⟨node, -, ⟨g, hg, -⟩, rfl⟩ := hfound item hitem
  rw [Option.mem_def.mp hg]
  rfl

theorem foundLines_eq (hkeys : found.map Prod.fst = members.sort (· ≤ ·))
    (hfound : ∀ item ∈ found, ∃ node ∈ nodes, IsLine node ∧ item = (node.nodeId, node.geometry)) :
    foundLines found =
        (found.filterMap fun item => (lineGeometry item.2).map fun g => (item.1, g)) ∧
      (foundLines found).map Prod.fst = members.sort (· ≤ ·) := by
  have hmap := keys_filterMap (f := lineGeometry) (lineGeometry_isSome hfound)
  rw [hkeys] at hmap
  have heq := dictOf_of_nodup (hmap ▸ members.sort_nodup (· ≤ ·))
  refine ⟨heq, ?_⟩
  rw [foundLines, heq, hmap]

theorem mem_foundLines (hids : (nodes.map SceneNode.nodeId).Nodup)
    (hkeys : found.map Prod.fst = members.sort (· ≤ ·))
    (hfound : ∀ item ∈ found, ∃ node ∈ nodes, IsLine node ∧ item = (node.nodeId, node.geometry))
    {id : ι} {g : LineGeometry K} :
    (id, g) ∈ foundLines found ↔ id ∈ members ∧ (id, g) ∈ sceneLines nodes := by
  have hmem : ∀ {id}, id ∈ members ↔ ∃ item ∈ found, item.1 = id := by
    intro id
    rw [← Finset.mem_sort (· ≤ ·), ← hkeys, List.mem_map]
  rw [(foundLines_eq hkeys hfound).1, List.mem_filterMap, mem_sceneLines hids, hmem]
  constructor
  · rintro ⟨item, hitem, hg⟩
    obtain ⟨g', hg', heq⟩ := Option.map_eq_some_iff.mp hg
    obtain ⟨rfl, rfl⟩ := Prod.ext_iff.mp heq
    obtain ⟨node, hnode, hline, rfl⟩ := hfound item hitem
    exact ⟨⟨_, hitem, rfl⟩, node, hnode, hline, rfl, hg'⟩
  · rintro ⟨⟨item, hitem, rfl⟩, node, hnode, -, hid, hg⟩
    refine ⟨item, hitem, ?_⟩
    obtain ⟨node', hnode', -, rfl⟩ := hfound item hitem
    -- the ids of the nodes are distinct
    obtain rfl := List.inj_on_of_nodup_map hids hnode hnode' hid
    rw [hg]
    rfl

/-- The lines of the scene that belong to a contour. -/
def memberLines (nodes : List (LineNode ι K)) (members : Finset ι) : List (ι × LineGeometry K) :=
  (sceneLines nodes).filter (·.1 ∈ members)

variable [Field K] [FloorRing K] [Hypot K] [IsStrictOrderedRing K] {tolerance : K}

omit [FloorRing K] [IsStrictOrderedRing K] in
theorem endsMatch_foundLines (hids : (nodes.map SceneNode.nodeId).Nodup)
    (hkeys : found.map Prod.fst = members.sort (· ≤ ·))
    (hfound : ∀ item ∈ found, ∃ node ∈ nodes, IsLine node ∧ item = (node.nodeId, node.geometry))
    (a b : Occurrence ι) : EndsMatch (foundLines found) tolerance a b ↔
      a.line ∈ members ∧ b.line ∈ members ∧ EndsMatch (sceneLines nodes) tolerance a b := by
  simp only [EndsMatch, mem_foundLines hids hkeys hfound]
  constructor
  · rintro ⟨hne, line, line', ⟨ha, hline⟩, ⟨hb, hline'⟩, hle⟩
    exact ⟨ha, hb, hne, line, line', hline, hline', hle⟩
  · rintro ⟨ha, hb, hne, line, line', hline, hline', hle⟩
    exact ⟨hne, line, line', ⟨ha, hline⟩, ⟨hb, hline'⟩, hle⟩

omit [FloorRing K] [IsStrictOrderedRing K] in
/-- A trail through all the lines that ends at a match of its start goes round. -/
theorem goesRound_of_trail {lines : List (ι × LineGeometry K)}
    {Match : Occurrence ι → Occurrence ι → Prop} (hmatch : ∀ a b, Match a b →
      EndsMatch lines tolerance a b) {last first : Occurrence ι} {rest : List (Occurrence ι)}
    {start : Point K} {points : List (Point K)} (htrail : Trail members Match (last :: rest))
    (hall : ((last :: rest).map Occurrence.line).toFinset = members)
    (hfirst : (last :: rest).getLast (List.cons_ne_nil _ _) = first)
    (hpoints : List.Forall₂ (Drawn lines) (last :: rest).reverse points)
    (hcloses : Match last first.flip) (hstart : Drawn lines first.flip start) :
    ∃ walk, GoesRound lines tolerance members (start :: points).dropLast first walk := by
  have hreverse : (last :: rest).reverse = first :: (last :: rest).dropLast.reverse := by
    conv_lhs => rw [← List.dropLast_append_getLast (List.cons_ne_nil last rest), hfirst]
    rw [List.reverse_append, List.reverse_singleton, List.singleton_append]
  refine ⟨(last :: rest).dropLast.reverse, ?_, fun id => ?_, ?_, ?_, ?_⟩
  · rw [← hreverse, List.map_reverse, List.nodup_reverse]
    exact htrail.nodup
  · rw [← hreverse, List.map_reverse, List.mem_reverse, ← hall, List.mem_toFinset]
  · rw [← hreverse, List.isChain_reverse]
    exact htrail.chain.imp fun later earlier h => hmatch earlier later.flip h
  · have hlast : (first :: (last :: rest).dropLast.reverse).getLast (List.cons_ne_nil _ _) =
        last := by
      simp only [← hreverse]
      rw [List.getLast_reverse]
      rfl
    rw [hlast]
    exact hmatch _ _ hcloses
  · rw [hreverse] at hpoints
    have hdrawn := List.forall₂_take (first :: (last :: rest).dropLast.reverse).length
      (List.Forall₂.cons hstart hpoints)
    have hlength : points.length = (first :: (last :: rest).dropLast.reverse).length :=
      hpoints.length_eq.symm
    rw [List.dropLast_eq_take (l := start :: points), List.length_cons, Nat.add_sub_cancel, hlength,
      List.dropLast_eq_take (l := first :: _)]
    simpa using hdrawn

/-- The polygon of a loop is found, and it goes round through all of its lines. -/
theorem contourPolygon_ok (hids : (nodes.map SceneNode.nodeId).Nodup) (htol : 0 < tolerance)
    {contour : SceneContour ι γ K} (hkind : contour.kind = .lineLoop)
    (hsource : contour.sourceNodeIds = members.sort (· ≤ ·)) (hline : LineLoop nodes tolerance members)
    (hfit : endCandidates tolerance (memberLines nodes members) ≤ 250000) :
    ∃ polygon first walk, contourPolygon contour (nodesById nodes) tolerance = .ok (some polygon) ∧
      GoesRound (sceneLines nodes) tolerance members polygon first walk := by
  obtain ⟨hmembers, hthree, hloop⟩ := hline
  obtain ⟨found, hrun, hkeys, hfound⟩ := contourLines_ok hids hmembers
  have hlines := @mem_foundLines ι K _ _ nodes members found hids hkeys hfound
  have hfoundKeys := (foundLines_eq hkeys hfound).2
  have hnodup : ((foundLines found).map Prod.fst).Nodup := hfoundKeys ▸ members.sort_nodup _
  have hlength : (foundLines found).length = members.card := by
    rw [← List.length_map (f := Prod.fst), hfoundKeys, Finset.length_sort]
  have hfit' : endCandidates tolerance (foundLines found) ≤ 250000 := by
    refine (endCandidates_mono ?_ hnodup fun item hitem => ?_).trans hfit
    · exact (nodup_sceneLines hids).sublist ((List.filter_sublist).map _)
    · rw [memberLines, List.mem_filter, decide_eq_true_iff]
      obtain ⟨hid, hg⟩ := hlines.mp (show (item.1, item.2) ∈ foundLines found from hitem)
      exact ⟨hg, hid⟩
  obtain ⟨matched, hmatches, hmatched⟩ := endpointMatches_ok htol hfit'
  have hends := @endsMatch_foundLines ι K _ _ nodes members found _ _ tolerance hids hkeys hfound
  have hloop' : Loop members (EndsMatch (foundLines found) tolerance) := hloop.restrict hends
  have hline : ∀ id ∈ members, ∃ line, (id, line) ∈ foundLines found := by
    intro id hid
    obtain ⟨⟨id', g⟩, hg, rfl⟩ := List.mem_map.mp (List.mem_toFinset.mp (hmembers hid))
    exact ⟨g, hlines.mpr ⟨hid, hg⟩⟩
  have hsome : ¬ ∃ item ∈ found, lineGeometry item.2 = none := by
    rintro ⟨item, hitem, hnone⟩
    have := lineGeometry_isSome hfound item hitem
    rw [hnone] at this
    exact absurd this (by simp)
  unfold contourPolygon
  rw [hkind, hsource]
  dsimp only
  cases hleast : (foundLines found).insertionSort fun a b => a.1 ≤ b.1 with
  | nil =>
      have hempty := (List.perm_insertionSort (fun (a b : ι × LineGeometry K) => a.1 ≤ b.1)
        (foundLines found)).length_eq
      rw [hleast, hlength] at hempty
      exact absurd hempty (by simp; omega)
  | cons item others =>
      obtain ⟨startId, first⟩ := item
      have hfirst : (startId, first) ∈ foundLines found := by
        rw [← List.mem_insertionSort (fun (a b : ι × LineGeometry K) => a.1 ≤ b.1), hleast]
        exact List.mem_cons_self
      have hstartId : startId ∈ members := (hlines.mp hfirst).1
      have hpoints : List.Forall₂ (Drawn (foundLines found)) [⟨startId, 1⟩] [first.stop] :=
        .cons ⟨first, hfirst, rfl⟩ .nil
      obtain ⟨last, rest, points, hwalk, htrail, hall, hback, hdrawn⟩ :=
        walkLoop_trail hloop' hmatched hnodup hlength hline first.start
          (Trail.start (o := ⟨startId, 1⟩) hstartId) hpoints
      -- the match of the end where the walk stops is on a line that it has used
      obtain ⟨b, hb⟩ := hloop'.matched last (htrail.mem last List.mem_cons_self)
      have hused : b.line ∈ (last :: rest).map Occurrence.line := by
        rw [← List.mem_toFinset, hall]
        exact hloop'.closed hb (htrail.mem last List.mem_cons_self)
      have hreturn := htrail.returns hloop' hb hused
      rw [hback] at hreturn
      have hdrawn' : List.Forall₂ (Drawn (sceneLines nodes)) (last :: rest).reverse points :=
        hdrawn.imp fun o p ⟨line, hline, hp⟩ => ⟨line, (hlines.mp hline).2, hp⟩
      have hstart : Drawn (sceneLines nodes) (Occurrence.flip ⟨startId, 1⟩) first.start :=
        ⟨first, (hlines.mp hfirst).2, rfl⟩
      have hcloses : EndsMatch (foundLines found) tolerance last (Occurrence.flip ⟨startId, 1⟩) :=
        hreturn ▸ hb
      obtain ⟨walk, hround⟩ := goesRound_of_trail (fun a b hab => ((hends a b).mp hab).2.2) htrail
        hall hback hdrawn' hcloses hstart
      refine ⟨_, _, walk, bind_eq_ok.mpr ⟨found, hrun, ?_⟩, hround⟩
      rw [if_neg hsome]
      refine bind_eq_ok.mpr ⟨matched, hmatches, ?_⟩
      simp only [foundLines] at hleast
      simp only [hleast]
      refine bind_eq_ok.mpr ⟨some (first.start :: points, last), hwalk, ?_⟩
      have hback' : (⟨startId, 0⟩ : Occurrence ι) ∈ matched last := (hmatched _ _).mpr hcloses
      dsimp only
      rw [if_pos hback']
      rfl

end

end AutocadMcp.Scene
