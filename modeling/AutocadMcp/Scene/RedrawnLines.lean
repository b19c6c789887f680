import AutocadMcp.Scene.LoopPolygon

/-!
# Line loops of a drawing

What the recogniser emits and what the walk finds again, and that neither depends on the
order of the entities or on the direction in which a line is drawn.
-/

namespace AutocadMcp.Scene

open Plane

/-! ## Redrawn lines -/

section

variable {ι K γ : Type} [LinearOrder ι] [LinearOrder K] {nodes nodes' : List (LineNode ι K)}
  {members : Finset ι} {turned : ι → Bool}

def LineGeometry.turn (g : LineGeometry K) : LineGeometry K := ⟨g.stop, g.start⟩

/-- The node with its line drawn from the other end. -/
def turnLine (node : LineNode ι K) : LineNode ι K :=
  { node with
    geometry := match node.geometry with
      | some (.line g) => some (.line g.turn)
      | geometry => geometry }

def redraw (turned : ι → Bool) (node : LineNode ι K) : LineNode ι K :=
  if turned node.nodeId then turnLine node else node

/-- The same entities in another order, some of the lines drawn from the other end. -/
def Redrawn (nodes nodes' : List (LineNode ι K)) : Prop :=
  ∃ turned, nodes'.Perm (nodes.map (redraw turned))

omit [LinearOrder ι] in
@[simp] theorem nodeId_redraw (node : LineNode ι K) : (redraw turned node).nodeId = node.nodeId := by
  unfold redraw
  split <;> rfl

omit [LinearOrder ι] in
@[simp] theorem bounds_redraw (node : LineNode ι K) : (redraw turned node).bounds = node.bounds := by
  unfold redraw
  split <;> rfl

omit [LinearOrder ι] in
theorem lineGeometry_redraw (node : LineNode ι K) : lineGeometry (redraw turned node).geometry =
    (lineGeometry node.geometry).map fun g => if turned node.nodeId then g.turn else g := by
  obtain ⟨id, bounds, geometry⟩ := node
  unfold redraw
  cases hturned : turned id
  · simp
  · rcases geometry with _ | (g | g | g | g) <;> simp [turnLine, lineGeometry]

omit [LinearOrder ι] in
theorem isLine_redraw (node : LineNode ι K) : IsLine (redraw turned node) ↔ IsLine node := by
  simp only [IsLine, lineGeometry_redraw, Option.mem_def, Option.map_eq_some_iff]
  constructor
  · rintro ⟨g', ⟨g, hg, rfl⟩, hne⟩
    refine ⟨g, hg, fun heq => hne ?_⟩
    split
    · exact heq.symm
    · exact heq
  · rintro ⟨g, hg, hne⟩
    refine ⟨_, ⟨g, hg, rfl⟩, fun heq => hne ?_⟩
    split at heq
    · exact heq.symm
    · exact heq

omit [LinearOrder ι] in
theorem nodup_redrawn (hids : (nodes.map SceneNode.nodeId).Nodup)
    (h : nodes'.Perm (nodes.map (redraw turned))) : (nodes'.map SceneNode.nodeId).Nodup := by
  refine (h.map SceneNode.nodeId).nodup_iff.mpr ?_
  rw [List.map_map]
  simpa [Function.comp_def] using hids

theorem mem_lineNodes_redrawn (hids : (nodes.map SceneNode.nodeId).Nodup)
    (h : nodes'.Perm (nodes.map (redraw turned))) {id : ι} {node' : LineNode ι K} :
    (id, node') ∈ lineNodes nodes' ↔
      ∃ node, (id, node) ∈ lineNodes nodes ∧ node' = redraw turned node := by
  rw [mem_lineNodes (nodup_redrawn hids h), h.mem_iff]
  simp only [mem_lineNodes hids, List.mem_map]
  constructor
  · rintro ⟨⟨node, hnode, rfl⟩, hline, hid⟩
    exact ⟨node, ⟨hnode, (isLine_redraw node).mp hline, by rwa [nodeId_redraw] at hid⟩, rfl⟩
  · rintro ⟨node, ⟨hnode, hline, hid⟩, rfl⟩
    exact ⟨⟨node, hnode, rfl⟩, (isLine_redraw node).mpr hline, by rwa [nodeId_redraw]⟩

theorem mem_sceneLines_redrawn (hids : (nodes.map SceneNode.nodeId).Nodup)
    (h : nodes'.Perm (nodes.map (redraw turned))) {id : ι} {g' : LineGeometry K} :
    (id, g') ∈ sceneLines nodes' ↔
      ∃ g, (id, g) ∈ sceneLines nodes ∧ g' = if turned id then g.turn else g := by
  rw [mem_sceneLines (nodup_redrawn hids h)]
  simp only [mem_sceneLines hids, h.mem_iff, List.mem_map]
  constructor
  · rintro ⟨_, ⟨node, hnode, rfl⟩, hline, rfl, hg'⟩
    rw [lineGeometry_redraw] at hg'
    obtain ⟨g, hg, rfl⟩ := Option.map_eq_some_iff.mp hg'
    exact ⟨g, ⟨node, hnode, (isLine_redraw node).mp hline, (nodeId_redraw node).symm, hg⟩, by
      rw [nodeId_redraw]⟩
  · rintro ⟨g, ⟨node, hnode, hline, rfl, hg⟩, rfl⟩
    refine ⟨_, ⟨node, hnode, rfl⟩, (isLine_redraw node).mpr hline, nodeId_redraw node, ?_⟩
    rw [lineGeometry_redraw, hg]
    rfl

/-- The bounds of the lines are what they were. -/
theorem boundsOf_redrawn (hids : (nodes.map SceneNode.nodeId).Nodup)
    (h : nodes'.Perm (nodes.map (redraw turned))) :
    boundsOf (lineNodes nodes') = boundsOf (lineNodes nodes) := by
  have hget : ∀ id node', getItem (lineNodes nodes') id = some node' ↔
      ∃ node, getItem (lineNodes nodes) id = some node ∧ node' = redraw turned node := by
    intro id node'
    rw [getItem_eq_some (nodup_lineNodes (nodup_redrawn hids h)), mem_lineNodes_redrawn hids h]
    simp only [getItem_eq_some (nodup_lineNodes hids)]
  funext id
  unfold boundsOf
  cases hnode : getItem (lineNodes nodes) id with
  | none =>
      have hnone : getItem (lineNodes nodes') id = none := by
        rw [Option.eq_none_iff_forall_ne_some]
        intro node' hnode'
        obtain ⟨node, hsome, -⟩ := (hget id node').mp hnode'
        rw [hnode] at hsome
        exact absurd hsome (by simp)
      rw [hnone]
  | some node =>
      rw [(hget id _).mpr ⟨node, hnode, rfl⟩]
      dsimp only
      rw [bounds_redraw]

/-- The end that has become this one. -/
def turnEnd (turned : ι → Bool) (o : Occurrence ι) : Occurrence ι :=
  if turned o.line then o.flip else o

omit [LinearOrder ι] in
@[simp] theorem line_turnEnd (o : Occurrence ι) : (turnEnd turned o).line = o.line := by
  unfold turnEnd
  split <;> rfl

omit [LinearOrder ι] in
theorem turnEnd_turnEnd (o : Occurrence ι) : turnEnd turned (turnEnd turned o) = o := by
  unfold turnEnd
  by_cases h : turned o.line
  · rw [if_pos h, Occurrence.line_flip, if_pos h, Occurrence.flip_flip]
  · rw [if_neg h, if_neg h]

omit [LinearOrder ι] [LinearOrder K] in
theorem endpoint_turned (g : LineGeometry K) (o : Occurrence ι) :
    (if turned o.line then g.turn else g).endpoint o.side =
      g.endpoint (turnEnd turned o).side := by
  obtain ⟨line, side⟩ := o
  unfold turnEnd
  by_cases h : turned line
  · rw [if_pos h, if_pos h]
    fin_cases side <;> simp [LineGeometry.endpoint, LineGeometry.turn, Occurrence.flip]
  · rw [if_neg h, if_neg h]

variable [Field K] [FloorRing K] [Hypot K] [IsStrictOrderedRing K] {tolerance : K}

omit [FloorRing K] [IsStrictOrderedRing K] in
theorem endsMatch_redrawn (hids : (nodes.map SceneNode.nodeId).Nodup)
    (h : nodes'.Perm (nodes.map (redraw turned))) (a b : Occurrence ι) :
    EndsMatch (sceneLines nodes') tolerance a b ↔
      EndsMatch (sceneLines nodes) tolerance (turnEnd turned a) (turnEnd turned b) := by
  simp only [EndsMatch, mem_sceneLines_redrawn hids h, line_turnEnd]
  refine and_congr_right fun _ => ?_
  constructor
  · rintro ⟨_, _, ⟨g, hg, rfl⟩, ⟨g', hg', rfl⟩, hle⟩
    rw [endpoint_turned, endpoint_turned] at hle
    exact ⟨g, g', hg, hg', hle⟩
  · rintro ⟨g, g', hg, hg', hle⟩
    refine ⟨_, _, ⟨g, hg, rfl⟩, ⟨g', hg', rfl⟩, ?_⟩
    rwa [endpoint_turned, endpoint_turned]

omit [FloorRing K] [IsStrictOrderedRing K] in
theorem lineLoop_redrawn (hids : (nodes.map SceneNode.nodeId).Nodup)
    (h : nodes'.Perm (nodes.map (redraw turned))) :
    LineLoop nodes' tolerance members ↔ LineLoop nodes tolerance members := by
  have hkeys : ((sceneLines nodes').map Prod.fst).toFinset =
      ((sceneLines nodes).map Prod.fst).toFinset := by
    ext id
    simp only [List.mem_toFinset, List.mem_map, Prod.exists, mem_sceneLines_redrawn hids h]
    constructor
    · rintro ⟨id, _, ⟨g, hg, -⟩, rfl⟩
      exact ⟨id, g, hg, rfl⟩
    · rintro ⟨id, g, hg, rfl⟩
      exact ⟨id, if turned id then g.turn else g, ⟨g, hg, rfl⟩, rfl⟩
  have hmatch : EndsMatch (sceneLines nodes') tolerance = fun a b =>
      EndsMatch (sceneLines nodes) tolerance (turnEnd turned a) (turnEnd turned b) :=
    funext fun a => funext fun b => propext (endsMatch_redrawn hids h a b)
  unfold LineLoop
  rw [hkeys, hmatch]
  refine and_congr_right fun _ => and_congr_right fun _ => ⟨fun hloop => ?_, fun hloop => ?_⟩
  · have hback := @Loop.turned _ _ _ hloop (turnEnd turned) turnEnd_turnEnd line_turnEnd
    simpa [turnEnd_turnEnd] using hback
  · exact hloop.turned turnEnd_turnEnd line_turnEnd

end

/-! ## The contours of a drawing -/

section

variable {ι K γ : Type} [LinearOrder ι] [Field K] [LinearOrder K] [FloorRing K] [Hypot K]
  {tolerance : K} {maxCandidates : ℕ} {nodes : List (LineNode ι K)}

/-- The matching of the lines does not run out of its budget. -/
def InBudget (lines : List (ι × LineGeometry K)) (tolerance : K) (maxCandidates : ℕ) : Prop :=
  endpointMatches lines tolerance maxCandidates ≠
    .error (.budgetExceeded "scene exceeds endpoint candidate budget")

variable [IsStrictOrderedRing K]

theorem inBudget_iff (htol : 0 < tolerance) {lines : List (ι × LineGeometry K)} :
    InBudget lines tolerance maxCandidates ↔ endCandidates tolerance lines ≤ maxCandidates := by
  constructor
  · intro h
    by_contra hfull
    exact h (endpointMatches_error htol (not_le.mp hfull))
  · intro hfit
    obtain ⟨matched, hrun, -⟩ := endpointMatches_ok htol hfit
    rw [InBudget, hrun]
    simp

omit [Hypot K] [IsStrictOrderedRing K] in
theorem candidateCount_le (records : List (EndRecord ι K)) :
    candidateCount tolerance records ≤ records.length ^ 2 := by
  induction records with
  | nil => exact le_rfl
  | cons record records ih =>
      have hcompared : records.countP (Candidate tolerance record) ≤ records.length :=
        List.countP_le_length
      rw [candidateCount, List.length_cons]
      nlinarith

/-- Few lines are in any budget that their number allows. -/
theorem inBudget_of_length_le (hids : (nodes.map SceneNode.nodeId).Nodup) (htol : 0 < tolerance)
    (h : (2 * nodes.length) ^ 2 ≤ maxCandidates) :
    InBudget (sceneLines nodes) tolerance maxCandidates := by
  have hlines : (sceneLines nodes).length ≤ nodes.length := by
    rw [← List.length_map (f := Prod.fst), keys_sceneLines hids, List.length_map,
      lineNodes_eq hids, List.length_map]
    exact List.length_filter_le _ _
  have hrecords : (endRecords (sceneLines nodes)).reverse.length = 2 * (sceneLines nodes).length := by
    simp [endRecords, List.length_flatMap, mul_comm]
  rw [inBudget_iff htol]
  refine (candidateCount_le _).trans (le_trans ?_ h)
  rw [hrecords]
  exact Nat.pow_le_pow_left (Nat.mul_le_mul_left 2 hlines) 2

end

/-- A line between two points of the unit square. -/
def edgeNode (id : String) (start stop : Point ℝ) : LineNode String ℝ where
  nodeId := id
  bounds := some ⟨0, 0, 1, 1, zero_le_one, zero_le_one⟩
  geometry := some (.line ⟨start, stop⟩)

def triangleNodes : List (LineNode String ℝ) :=
  [edgeNode "nod_a" (0, 0) (1, 0), edgeNode "nod_b" (0, 1) (1, 0), edgeNode "nod_c" (0, 1) (0, 0)]

end AutocadMcp.Scene
