import AutocadMcp.Lib.Checked
import AutocadMcp.Lib.Grid
import AutocadMcp.Scene.Models

/-!
# The candidate index

The index spreads the bounds of every node, grown by one cell, over a uniform
grid and collects the pairs of nodes that share a cell. The square root of the
node count is a parameter of the construction, so that it runs over any ordered
field with a floor; the completeness result is about the real one.
-/

namespace AutocadMcp.Scene

section

variable {ι K γ : Type} [LinearOrder ι] [Field K] [LinearOrder K] [IsStrictOrderedRing K]
  [FloorRing K]

structure CandidateIndex (ι K : Type) where
  pairs : List (ι × ι)
  cellCount : ℕ
  cellSize : K

/-! ### Occupied cells -/

/-- The nodes that have bounds, with them. -/
def indexed (nodes : List (SceneNode ι K γ)) : List (ι × Bounds K) :=
  nodes.filterMap fun node => node.bounds.map fun b => (node.nodeId, b)

def unionOf (first : Bounds K) (rest : List (Bounds K)) : Bounds K :=
  rest.foldl Bounds.union first

def drawingBounds (nodes : List (SceneNode ι K γ)) : Option (Bounds K) :=
  match (indexed nodes).map Prod.snd with
  | [] => none
  | first :: rest => some (unionOf first rest)

def cellSizeOf (sqrt : ℕ → K) (drawing : Bounds K) (count : ℕ) : K :=
  drawing.extent / max 1 (sqrt count)

theorem cellSizeOf_pos (sqrt : ℕ → K) (drawing : Bounds K) (count : ℕ) :
    0 < cellSizeOf sqrt drawing count := by
  have hextent : 0 < drawing.extent := zero_lt_one.trans_le drawing.one_le_extent
  have hroot : 0 < max 1 (sqrt count) := zero_lt_one.trans_le (le_max_left _ _)
  exact div_pos hextent hroot

def cells (bounds drawing : Bounds K) (size : K) : List (ℤ × ℤ) :=
  (Grid.cellsOf drawing.minX size bounds.minX bounds.maxX).flatMap fun x =>
    (Grid.cellsOf drawing.minY size bounds.minY bounds.maxY).map fun y => (x, y)

/-- The entries of the table of cells, in the order they are appended. -/
def occupy (budgets : SceneBudgets) (drawing : Bounds K) (size : K) (hsize : 0 ≤ size)
    (items : List (ι × Bounds K)) : Except SceneFailure (List ((ℤ × ℤ) × ι)) :=
  items.foldlM (fun entries item => do
    let occupied := cells (item.2.expanded size hsize) drawing size
    check (occupied.length ≤ budgets.maxCellsPerNode)
      (.budgetExceeded "node exceeds spatial cell budget")
    return entries ++ occupied.map fun key => (key, item.1)) []

def cellKeys (entries : List ((ℤ × ℤ) × ι)) : List (ℤ × ℤ) :=
  (entries.map Prod.fst).dedup

/-- `sorted(set(cells[key]))` -/
def members (entries : List ((ℤ × ℤ) × ι)) (key : ℤ × ℤ) : List ι :=
  ((entries.filterMap fun entry =>
    if entry.1 = key then some entry.2 else none).dedup).insertionSort (· ≤ ·)

/-! ### Candidate pairs -/

/-- Every element with each later one, in the order of the nested loop. -/
def laterPairs {α : Type} : List α → List (α × α)
  | [] => []
  | left :: rest => rest.map (fun right => (left, right)) ++ laterPairs rest

/-- The two collections that the pair loop fills. -/
structure Found (ι : Type) where
  pairs : List (ι × ι)
  perNode : ι → List ι

def Found.empty : Found ι where
  pairs := []
  perNode := fun _ => []

def Found.addNeighbour (found : Found ι) (node other : ι) : Found ι where
  pairs := found.pairs
  perNode := Function.update found.perNode node ((found.perNode node).insert other)

def addPair (budgets : SceneBudgets) (found : Found ι) (pair : ι × ι) :
    Except SceneFailure (Found ι) := do
  let found := (found.addNeighbour pair.1 pair.2).addNeighbour pair.2 pair.1
  check ((found.perNode pair.1).length ≤ budgets.maxCandidatesPerNode ∧
      (found.perNode pair.2).length ≤ budgets.maxCandidatesPerNode)
    (.budgetExceeded "node exceeds relation candidate budget")
  let pairs := found.pairs.insert pair
  check (pairs.length ≤ budgets.maxRelationCandidates)
    (.budgetExceeded "scene exceeds relation candidate budget")
  return { found with pairs := pairs }

def collectCell (budgets : SceneBudgets) (entries : List ((ℤ × ℤ) × ι)) (found : Found ι)
    (key : ℤ × ℤ) : Except SceneFailure (Found ι) :=
  (laterPairs (members entries key)).foldlM (addPair budgets) found

/-- The pairs of a table of cells, sorted. -/
def candidatePairs (budgets : SceneBudgets) (entries : List ((ℤ × ℤ) × ι)) :
    Except SceneFailure (List (ι × ι)) := do
  check ((cellKeys entries).length ≤ budgets.maxSpatialCells)
    (.budgetExceeded "scene exceeds spatial cell budget")
  let keys := (cellKeys entries).insertionSort fun p q => toLex p ≤ toLex q
  let found ← keys.foldlM (collectCell budgets entries) Found.empty
  return found.pairs.insertionSort fun p q => toLex p ≤ toLex q

def buildCandidateIndex (sqrt : ℕ → K) (nodes : List (SceneNode ι K γ))
    (budgets : SceneBudgets) : Except SceneFailure (CandidateIndex ι K) :=
  match drawingBounds nodes with
  | none => .ok { pairs := [], cellCount := 0, cellSize := 1 }
  | some drawing => do
    let items := indexed nodes
    let size := cellSizeOf sqrt drawing items.length
    let sorted := items.insertionSort fun a b => a.1 ≤ b.1
    let entries ← occupy budgets drawing size (cellSizeOf_pos sqrt drawing items.length).le sorted
    let pairs ← candidatePairs budgets entries
    return { pairs := pairs, cellCount := (cellKeys entries).length, cellSize := size }

/-! ### The pair loop -/

theorem mem_laterPairs {l : List ι} {a b : ι} (hl : l.Pairwise (· < ·)) :
    (a, b) ∈ laterPairs l ↔ a ∈ l ∧ b ∈ l ∧ a < b := by
  induction hl with
  | nil => simp [laterPairs]
  | @cons left rest hleft hrest ih =>
      rw [laterPairs, List.mem_append, ih]
      constructor
      · rintro (hhead | ⟨ha, hb, hab⟩)
        · obtain ⟨right, hright, hpair⟩ := List.mem_map.mp hhead
          cases hpair
          exact ⟨List.mem_cons_self, List.mem_cons_of_mem _ hright, hleft b hright⟩
        · exact ⟨List.mem_cons_of_mem _ ha, List.mem_cons_of_mem _ hb, hab⟩
      · rintro ⟨ha, hb, hab⟩
        rcases List.mem_cons.mp ha with rfl | ha'
        · rcases List.mem_cons.mp hb with rfl | hb'
          · exact absurd hab (lt_irrefl b)
          · exact Or.inl (List.mem_map_of_mem hb')
        · rcases List.mem_cons.mp hb with rfl | hb'
          · exact absurd (hleft a ha') hab.asymm
          · exact Or.inr ⟨ha', hb', hab⟩

theorem members_pairwise (entries : List ((ℤ × ℤ) × ι)) (key : ℤ × ℤ) :
    (members entries key).Pairwise (· < ·) := by
  have hsorted : (members entries key).Pairwise (· ≤ ·) := List.pairwise_insertionSort _ _
  have hnodup : (members entries key).Nodup :=
    (List.perm_insertionSort _ _).nodup_iff.mpr (List.nodup_dedup _)
  exact hsorted.imp₂ (fun _ _ hle hne => lt_of_le_of_ne hle hne) hnodup

theorem mem_members {entries : List ((ℤ × ℤ) × ι)} {key : ℤ × ℤ} {id : ι} :
    id ∈ members entries key ↔ (key, id) ∈ entries := by
  rw [members, List.mem_insertionSort, List.mem_dedup, List.mem_filterMap]
  constructor
  · rintro ⟨⟨key', id'⟩, hmem, hkey⟩
    split at hkey
    · next heq =>
        cases heq
        cases hkey
        exact hmem
    · cases hkey
  · intro hmem
    exact ⟨(key, id), hmem, by simp⟩

theorem addPair_ok {budgets : SceneBudgets} {found found' : Found ι} {pair : ι × ι}
    (h : addPair budgets found pair = .ok found') : found'.pairs = found.pairs.insert pair := by
  simp only [addPair, bind_eq_ok, check_eq_ok] at h
  obtain ⟨_, _, _, _, h⟩ := h
  cases h
  rfl

/-- What the pair loop has collected after the listed pairs: a set that holds what was there
and them. -/
structure Collected (before : List (ι × ι)) (added : List (ι × ι)) (after : List (ι × ι)) :
    Prop where
  nodup : after.Nodup
  mem_iff : ∀ p, p ∈ after ↔ p ∈ before ∨ p ∈ added

theorem collectCell_ok {budgets : SceneBudgets} {entries : List ((ℤ × ℤ) × ι)}
    {found found' : Found ι} {key : ℤ × ℤ} (hnodup : found.pairs.Nodup)
    (h : collectCell budgets entries found key = .ok found') :
    Collected found.pairs (laterPairs (members entries key)) found'.pairs := by
  refine foldlM_eq_ok_rec (fun seen current => Collected found.pairs seen current.pairs) h ?_ ?_
  · exact ⟨hnodup, by simp⟩
  · intro seen pair current next hcurrent hadd
    rw [addPair_ok hadd]
    refine ⟨hcurrent.nodup.insert, ?_⟩
    intro p
    rw [List.mem_insert_iff, hcurrent.mem_iff, List.mem_append, List.mem_singleton]
    tauto

omit [LinearOrder ι] in
theorem mem_cellKeys {entries : List ((ℤ × ℤ) × ι)} {key : ℤ × ℤ} :
    key ∈ cellKeys entries ↔ ∃ id, (key, id) ∈ entries := by
  simp [cellKeys]

/-- The pairs returned are those of nodes that share a cell, each once and in order. -/
theorem candidatePairs_ok {budgets : SceneBudgets} {entries : List ((ℤ × ℤ) × ι)}
    {pairs : List (ι × ι)} (h : candidatePairs budgets entries = .ok pairs) :
    pairs.Nodup ∧
    ∀ a b, (a, b) ∈ pairs ↔ a < b ∧ ∃ key, (key, a) ∈ entries ∧ (key, b) ∈ entries := by
  simp only [candidatePairs, bind_eq_ok, check_eq_ok] at h
  obtain ⟨_, _, found, hloop, hsorted⟩ := h
  cases hsorted
  have hfound := foldlM_eq_ok_rec
    (fun seen current => Collected [] (seen.flatMap fun key => laterPairs (members entries key))
      current.pairs) hloop ⟨List.nodup_nil, by simp [Found.empty]⟩ (by
      intro seen key current next hcurrent hcell
      have hnext := collectCell_ok hcurrent.nodup hcell
      refine ⟨hnext.nodup, ?_⟩
      intro p
      rw [hnext.mem_iff, hcurrent.mem_iff, List.flatMap_append, List.mem_append]
      simp)
  refine ⟨(List.perm_insertionSort _ _).nodup_iff.mpr hfound.nodup, ?_⟩
  intro a b
  rw [List.mem_insertionSort, hfound.mem_iff]
  simp only [List.not_mem_nil, false_or, List.mem_flatMap, List.mem_insertionSort,
    mem_laterPairs (members_pairwise entries _), mem_members, mem_cellKeys]
  constructor
  · rintro ⟨key, _, ha, hb, hab⟩
    exact ⟨hab, key, ha, hb⟩
  · rintro ⟨hab, key, ha, hb⟩
    exact ⟨key, ⟨a, ha⟩, ha, hb, hab⟩

/-! ### The cells of a node -/

omit [IsStrictOrderedRing K] in
theorem mem_cells {bounds drawing : Bounds K} {size : K} {key : ℤ × ℤ} :
    key ∈ cells bounds drawing size ↔
      key.1 ∈ Grid.cellsOf drawing.minX size bounds.minX bounds.maxX ∧
      key.2 ∈ Grid.cellsOf drawing.minY size bounds.minY bounds.maxY := by
  obtain ⟨x, y⟩ := key
  simp [cells]

omit [LinearOrder ι] in
theorem occupy_ok {budgets : SceneBudgets} {drawing : Bounds K} {size : K} {hsize : 0 ≤ size}
    {items : List (ι × Bounds K)} {entries : List ((ℤ × ℤ) × ι)}
    (h : occupy budgets drawing size hsize items = .ok entries) {id : ι} {b : Bounds K}
    (hitem : (id, b) ∈ items) {key : ℤ × ℤ}
    (hkey : key ∈ cells (b.expanded size hsize) drawing size) : (key, id) ∈ entries := by
  have hall := foldlM_eq_ok_rec
    (fun seen current => ∀ item ∈ seen, ∀ key ∈ cells (item.2.expanded size hsize) drawing size,
      (key, item.1) ∈ current) h (by simp) (by
      intro seen item current next hcurrent hbody
      simp only [bind_eq_ok, check_eq_ok] at hbody
      obtain ⟨_, _, hbody⟩ := hbody
      cases hbody
      intro item' hitem' key hkey
      rw [List.mem_append]
      rcases List.mem_append.mp hitem' with hseen | hlast
      · exact Or.inl (hcurrent item' hseen key hkey)
      · cases List.mem_singleton.mp hlast
        exact Or.inr (List.mem_map_of_mem hkey))
  exact hall (id, b) hitem key hkey

/-- Boxes that intersect within at most two cells, once grown by one cell each, share a cell. -/
theorem exists_shared_cell {a b : Bounds K} (drawing : Bounds K) {size tolerance : K} (hsize : 0 < size)
    (htolerance : tolerance ≤ 2 * size) (h : a.Intersects b tolerance) :
    ∃ key, key ∈ cells (a.expanded size hsize.le) drawing size ∧
      key ∈ cells (b.expanded size hsize.le) drawing size := by
  obtain ⟨hba, hab, hba', hab'⟩ := Bounds.intersects_iff.mp h
  obtain ⟨x, hax, hbx⟩ := Grid.exists_common_cell_of_gap hsize hsize.le htolerance
    a.ordered_x b.ordered_x hab hba
  obtain ⟨y, hay, hby⟩ := Grid.exists_common_cell_of_gap hsize hsize.le htolerance
    a.ordered_y b.ordered_y hab' hba'
  exact ⟨(x, y), mem_cells.mpr ⟨hax, hay⟩, mem_cells.mpr ⟨hbx, hby⟩⟩

omit [LinearOrder ι] [Field K] [IsStrictOrderedRing K] [FloorRing K] in
theorem mem_indexed {nodes : List (SceneNode ι K γ)} {node : SceneNode ι K γ} {b : Bounds K}
    (hnode : node ∈ nodes) (hb : node.bounds = some b) : (node.nodeId, b) ∈ indexed nodes :=
  List.mem_filterMap.mpr ⟨node, hnode, by simp [hb]⟩

/-- The pairs of an index are listed once, smaller id first, and hold every two nodes that
intersect within two cells. -/
theorem buildCandidateIndex_ok {sqrt : ℕ → K} {nodes : List (SceneNode ι K γ)}
    {budgets : SceneBudgets} {index : CandidateIndex ι K}
    (h : buildCandidateIndex sqrt nodes budgets = .ok index) :
    index.pairs.Nodup ∧ (∀ p ∈ index.pairs, p.1 < p.2) ∧
    ∀ drawing, drawingBounds nodes = some drawing →
      ∀ tolerance, tolerance ≤ 2 * cellSizeOf sqrt drawing (indexed nodes).length →
      ∀ a b : SceneNode ι K γ, a ∈ nodes → b ∈ nodes → a.nodeId < b.nodeId →
      ∀ boxA boxB, a.bounds = some boxA → b.bounds = some boxB →
        boxA.Intersects boxB tolerance → (a.nodeId, b.nodeId) ∈ index.pairs := by
  unfold buildCandidateIndex at h
  cases hdrawing : drawingBounds nodes with
  | none =>
      rw [hdrawing] at h
      cases h
      exact ⟨List.nodup_nil, by simp, by simp⟩
  | some drawing =>
      rw [hdrawing] at h
      simp only [bind_eq_ok] at h
      obtain ⟨entries, hentries, pairs, hpairs, h⟩ := h
      cases h
      obtain ⟨hnodup, hmem⟩ := candidatePairs_ok hpairs
      refine ⟨hnodup, fun p hp => ((hmem p.1 p.2).mp hp).1, ?_⟩
      rintro drawing' ⟨⟩ tolerance htolerance a b ha hb hlt boxA boxB hboxA hboxB hmeet
      obtain ⟨key, hkeyA, hkeyB⟩ :=
        exists_shared_cell drawing (cellSizeOf_pos sqrt drawing _) htolerance hmeet
      have hinA := (List.mem_insertionSort (fun a b => a.1 ≤ b.1)).mpr (mem_indexed ha hboxA)
      have hinB := (List.mem_insertionSort (fun a b => a.1 ≤ b.1)).mpr (mem_indexed hb hboxB)
      exact (hmem a.nodeId b.nodeId).mpr
        ⟨hlt, key, occupy_ok hentries hinA hkeyA, occupy_ok hentries hinB hkeyB⟩

/-! ### The relation pass -/

/-- The geometric rules of the relation pass: the relations of one pair, the containment test,
the directed relation it yields, and the id that sorts the result. -/
structure RelationRules (ι K γ R : Type) [LE K] where
  pairRelations : SceneNode ι K γ → SceneNode ι K γ → ToleranceProfile K → List R
  contains : SceneNode ι K γ → SceneNode ι K γ → K → Bool
  directedRelation : String → ι → ι → K → R
  relationId : R → String

variable {R : Type} [DecidableEq R]

/-- `by_id[id]`: a later node replaces an earlier one of the same id. -/
def byId (nodes : List (SceneNode ι K γ)) (id : ι) : Except SceneFailure (SceneNode ι K γ) :=
  match nodes.reverse.find? (fun node => node.nodeId = id) with
  | some node => .ok node
  | none => .error .keyError

def directedRelations (rules : RelationRules ι K γ R) (left right : SceneNode ι K γ)
    (endpoint : K) : List R :=
  if rules.contains left right endpoint then
    [rules.directedRelation "contains" left.nodeId right.nodeId endpoint,
      rules.directedRelation "inside" right.nodeId left.nodeId endpoint]
  else if rules.contains right left endpoint then
    [rules.directedRelation "contains" right.nodeId left.nodeId endpoint,
      rules.directedRelation "inside" left.nodeId right.nodeId endpoint]
  else
    []

def relatePair (rules : RelationRules ι K γ R) (nodes : List (SceneNode ι K γ))
    (tolerance : ToleranceProfile K) (budgets : SceneBudgets) (relations : List R)
    (pair : ι × ι) : Except SceneFailure (List R) := do
  let left ← byId nodes pair.1
  let right ← byId nodes pair.2
  if left.geometry.isNone ∨ right.geometry.isNone then
    return relations
  let relations := relations ++ rules.pairRelations left right tolerance
  check (relations.length ≤ budgets.maxRelations)
    (.budgetExceeded "scene exceeds relation budget")
  let relations := relations ++ directedRelations rules left right tolerance.endpoint
  check (relations.length ≤ budgets.maxRelations)
    (.budgetExceeded "scene exceeds relation budget")
  return relations

def buildRelations (rules : RelationRules ι K γ R) (nodes : List (SceneNode ι K γ))
    (candidates : List (ι × ι)) (tolerance : ToleranceProfile K) (budgets : SceneBudgets) :
    Except SceneFailure (List R) := do
  let relations ← candidates.foldlM (relatePair rules nodes tolerance budgets) []
  return relations.dedup.insertionSort fun r s => rules.relationId r ≤ rules.relationId s

omit [Field K] [IsStrictOrderedRing K] [FloorRing K] in
theorem byId_of_mem {nodes : List (SceneNode ι K γ)} {node : SceneNode ι K γ}
    (hids : (nodes.map SceneNode.nodeId).Nodup) (hnode : node ∈ nodes) :
    byId nodes node.nodeId = .ok node := by
  unfold byId
  cases hfind : nodes.reverse.find? (fun other => other.nodeId = node.nodeId) with
  | none =>
      have hnone := List.find?_eq_none.mp hfind node (List.mem_reverse.mpr hnode)
      simp at hnone
  | some other =>
      have hother : other ∈ nodes := List.mem_reverse.mp (List.mem_of_find?_eq_some hfind)
      have hid : other.nodeId = node.nodeId := by simpa using List.find?_some hfind
      rw [List.inj_on_of_nodup_map hids hother hnode hid]

omit [Field K] [IsStrictOrderedRing K] [FloorRing K] [DecidableEq R] in
/-- One candidate only adds relations, and adds those of its pair. -/
theorem relatePair_ok {rules : RelationRules ι K γ R} {nodes : List (SceneNode ι K γ)}
    {tolerance : ToleranceProfile K} {budgets : SceneBudgets} {relations relations' : List R}
    {pair : ι × ι} (h : relatePair rules nodes tolerance budgets relations pair = .ok relations') :
    relations ⊆ relations' ∧
    ∀ left right, byId nodes pair.1 = .ok left → byId nodes pair.2 = .ok right →
      left.geometry.isSome → right.geometry.isSome →
      rules.pairRelations left right tolerance ⊆ relations' := by
  simp only [relatePair, bind_eq_ok] at h
  obtain ⟨left, hleft, right, hright, h⟩ := h
  split at h
  · next hnone =>
      cases h
      refine ⟨fun r hr => hr, ?_⟩
      intro left' right' hleft' hright' hsome hsome'
      rw [hleft] at hleft'
      rw [hright] at hright'
      cases hleft'
      cases hright'
      rcases hnone with hnone | hnone
      · simp [Option.isNone_iff_eq_none.mp hnone] at hsome
      · simp [Option.isNone_iff_eq_none.mp hnone] at hsome'
  · simp only [bind_eq_ok, check_eq_ok] at h
    obtain ⟨_, _, _, _, h⟩ := h
    cases h
    refine ⟨fun r hr => by simp [hr], ?_⟩
    intro left' right' hleft' hright' _ _ r hr
    rw [hleft] at hleft'
    rw [hright] at hright'
    cases hleft'
    cases hright'
    simp [hr]

omit [Field K] [IsStrictOrderedRing K] [FloorRing K] in
theorem buildRelations_ok {rules : RelationRules ι K γ R} {nodes : List (SceneNode ι K γ)}
    {candidates : List (ι × ι)} {tolerance : ToleranceProfile K} {budgets : SceneBudgets}
    {relations : List R} (hids : (nodes.map SceneNode.nodeId).Nodup)
    (h : buildRelations rules nodes candidates tolerance budgets = .ok relations)
    {a b : SceneNode ι K γ} (ha : a ∈ nodes) (hb : b ∈ nodes)
    (hpair : (a.nodeId, b.nodeId) ∈ candidates) (hgeomA : a.geometry.isSome)
    (hgeomB : b.geometry.isSome) : rules.pairRelations a b tolerance ⊆ relations := by
  simp only [buildRelations, bind_eq_ok] at h
  obtain ⟨collected, hloop, hsorted⟩ := h
  cases hsorted
  have hseen := foldlM_eq_ok_rec
    (fun seen current => (a.nodeId, b.nodeId) ∈ seen → rules.pairRelations a b tolerance ⊆ current)
    hloop (by simp) (by
      intro seen pair current next hcurrent hbody hmem
      obtain ⟨hkept, hadded⟩ := relatePair_ok hbody
      rcases List.mem_append.mp hmem with hold | hlast
      · exact List.Subset.trans (hcurrent hold) hkept
      · cases List.mem_singleton.mp hlast
        exact hadded a b (byId_of_mem hids ha) (byId_of_mem hids hb) hgeomA hgeomB)
  intro r hr
  rw [List.mem_insertionSort, List.mem_dedup]
  exact hseen hpair hr

end

/-! ### Completeness over the reals -/

section

variable {ι γ : Type} [LinearOrder ι]

/-- The square root that the cell size is computed with. -/
noncomputable def sqrtOfCount (count : ℕ) : ℝ := √count

/-- Up to ten thousand nodes, the endpoint tolerance is far below the cell size. -/
theorem endpoint_le_cellSize {drawing : Bounds ℝ} {count : ℕ} (hcount : count ≤ 10000)
    (drawingUnits : String) :
    (mechanicalTolerance (some drawing) drawingUnits).endpoint ≤
      2 * cellSizeOf sqrtOfCount drawing count := by
  have hone : 1 ≤ drawing.extent := drawing.one_le_extent
  have hroot : max 1 (sqrtOfCount count) ≤ 100 := by
    refine max_le (by norm_num) ?_
    have hcast : (count : ℝ) ≤ 100 ^ 2 := by
      norm_num
      exact_mod_cast hcount
    exact Real.sqrt_le_iff.mpr ⟨by norm_num, hcast⟩
  have hpos : (0 : ℝ) < max 1 (sqrtOfCount count) := zero_lt_one.trans_le (le_max_left _ _)
  have hcell : drawing.extent / 100 ≤ cellSizeOf sqrtOfCount drawing count :=
    div_le_div_of_nonneg_left (by linarith) hpos hroot
  have hendpoint := mechanicalTolerance_endpoint_le drawing drawingUnits
  linarith

/-- Two nodes are near when points of their bounds come within the tolerance. -/
def Near (a b : SceneNode ι ℝ γ) (tolerance : ℝ) : Prop :=
  ∃ boxA boxB, a.bounds = some boxA ∧ b.bounds = some boxB ∧
    ∃ x y x' y', boxA.Contains x y ∧ boxB.Contains x' y' ∧
      |x - x'| ≤ tolerance ∧ |y - y'| ≤ tolerance

def Meets (a b : SceneNode ι ℝ γ) (tolerance : ℝ) : Prop :=
  ∃ boxA boxB, a.bounds = some boxA ∧ b.bounds = some boxB ∧ boxA.Intersects boxB tolerance

omit [LinearOrder ι] in
theorem Meets.symm {a b : SceneNode ι ℝ γ} {tolerance : ℝ} (h : Meets a b tolerance) :
    Meets b a tolerance := by
  obtain ⟨boxA, boxB, hboxA, hboxB, hmeet⟩ := h
  exact ⟨boxB, boxA, hboxB, hboxA, hmeet.symm⟩

omit [LinearOrder ι] in
theorem Near.meets {a b : SceneNode ι ℝ γ} {tolerance : ℝ} (h : Near a b tolerance) :
    Meets a b tolerance := by
  obtain ⟨boxA, boxB, hboxA, hboxB, x, y, x', y', hA, hB, hx, hy⟩ := h
  exact ⟨boxA, boxB, hboxA, hboxB, Bounds.intersects_of_near hA hB hx hy⟩

theorem mem_pairs_of_meets {nodes : List (SceneNode ι ℝ γ)} {budgets : SceneBudgets}
    {index : CandidateIndex ι ℝ} {drawingUnits : String} (hcap : nodes.length ≤ 10000)
    (h : buildCandidateIndex sqrtOfCount nodes budgets = .ok index)
    {a b : SceneNode ι ℝ γ} (ha : a ∈ nodes) (hb : b ∈ nodes) (hlt : a.nodeId < b.nodeId)
    (hmeet : Meets a b (mechanicalTolerance (drawingBounds nodes) drawingUnits).endpoint) :
    (a.nodeId, b.nodeId) ∈ index.pairs := by
  obtain ⟨boxA, boxB, hboxA, hboxB, hmeet⟩ := hmeet
  obtain ⟨drawing, hdrawing⟩ : ∃ drawing, drawingBounds nodes = some drawing := by
    have hitem := List.mem_map_of_mem (f := Prod.snd) (mem_indexed ha hboxA)
    unfold drawingBounds
    cases hboxes : (indexed nodes).map Prod.snd with
    | nil => rw [hboxes] at hitem; cases hitem
    | cons first rest => exact ⟨unionOf first rest, rfl⟩
  have hcount : (indexed nodes).length ≤ 10000 := (List.length_filterMap_le _ _).trans hcap
  rw [hdrawing] at hmeet
  exact (buildCandidateIndex_ok h).2.2 drawing hdrawing _ (endpoint_le_cellSize hcount _) a b ha hb
    hlt boxA boxB hboxA hboxB hmeet

/-- Every two of at most ten thousand nodes that intersect within the chosen tolerance are a
candidate pair, listed once with the smaller id first; what the rules say of two nodes that can
touch is among the relations built from the index. -/
theorem buildCandidateIndex_misses_no_pair {nodes : List (SceneNode ι ℝ γ)}
    {budgets : SceneBudgets} {index : CandidateIndex ι ℝ} (drawingUnits : String)
    (hids : (nodes.map SceneNode.nodeId).Nodup) (hcap : nodes.length ≤ 10000)
    (h : buildCandidateIndex sqrtOfCount nodes budgets = .ok index) :
    let tolerance := mechanicalTolerance (drawingBounds nodes) drawingUnits
    index.pairs.Nodup ∧ (∀ p ∈ index.pairs, p.1 < p.2) ∧
    (∀ a ∈ nodes, ∀ b ∈ nodes, a ≠ b → Meets a b tolerance.endpoint →
      (min a.nodeId b.nodeId, max a.nodeId b.nodeId) ∈ index.pairs) ∧
    ∀ (R : Type) [DecidableEq R] (rules : RelationRules ι ℝ γ R) (relations : List R),
      buildRelations rules nodes index.pairs tolerance budgets = .ok relations →
      ∀ a ∈ nodes, ∀ b ∈ nodes, a.nodeId < b.nodeId → a.geometry.isSome → b.geometry.isSome →
        Near a b tolerance.endpoint → rules.pairRelations a b tolerance ⊆ relations := by
  intro tolerance
  obtain ⟨hnodup, hordered, -⟩ := buildCandidateIndex_ok h
  refine ⟨hnodup, hordered, ?_, ?_⟩
  · intro a ha b hb hne hmeet
    rcases lt_trichotomy a.nodeId b.nodeId with hlt | heq | hgt
    · rw [min_eq_left hlt.le, max_eq_right hlt.le]
      exact mem_pairs_of_meets hcap h ha hb hlt hmeet
    · exact absurd (List.inj_on_of_nodup_map hids ha hb heq) hne
    · rw [min_eq_right hgt.le, max_eq_left hgt.le]
      exact mem_pairs_of_meets hcap h hb ha hgt hmeet.symm
  · intro R _ rules relations hrelations a ha b hb hlt hgeomA hgeomB hnear
    have hpair := mem_pairs_of_meets hcap h ha hb hlt hnear.meets
    exact buildRelations_ok hids hrelations ha hb hpair hgeomA hgeomB

/-- A node whose bounds are the origin. -/
def originNode (id : ℕ) : SceneNode ℕ ℝ Unit where
  nodeId := id
  bounds := some ⟨0, 0, 0, 0, le_rfl, le_rfl⟩
  geometry := some ()

theorem cells_origin {drawing : Bounds ℝ} {size : ℝ} (hsize : 0 < size)
    (hx : drawing.minX = 0) (hy : drawing.minY = 0) :
    cells ((⟨0, 0, 0, 0, le_rfl, le_rfl⟩ : Bounds ℝ).expanded size hsize.le) drawing size =
      [(-1, -1), (-1, 0), (-1, 1), (0, -1), (0, 0), (0, 1), (1, -1), (1, 0), (1, 1)] := by
  have hne : size ≠ 0 := hsize.ne'
  have hrange : Grid.cellsOf 0 size (0 - size) (0 + size) = [-1, 0, 1] := by
    have hlast : Grid.cellOf 0 size (0 + size) = 1 := by simp [Grid.cellOf, hne]
    have hfirst : Grid.cellOf 0 size (0 - size) = -1 := by
      have hquot : (0 - size - 0) / size = ((-1 : ℤ) : ℝ) := by
        push_cast
        field_simp
        ring
      rw [Grid.cellOf, hquot, Int.floor_intCast]
    rw [Grid.cellsOf, hfirst, hlast]
    rfl
  simp only [cells, Bounds.expanded, hx, hy, hrange]
  rfl

/-- The cells around the origin. -/
def originCells : List (ℤ × ℤ) :=
  [(-1, -1), (-1, 0), (-1, 1), (0, -1), (0, 0), (0, 1), (1, -1), (1, 0), (1, 1)]

theorem candidatePairs_origin :
    candidatePairs SceneBudgets.default
      (originCells.map (fun key => (key, 1)) ++ originCells.map fun key => (key, 2)) =
      .ok [(1, 2)] := by
  decide +kernel

/-- The index of two nodes at the origin is built, whatever the size of its cells is. -/
theorem build_two_at_origin :
    ∃ index, buildCandidateIndex sqrtOfCount [originNode 1, originNode 2] SceneBudgets.default =
      .ok index := by
  let origin : Bounds ℝ := ⟨0, 0, 0, 0, le_rfl, le_rfl⟩
  let drawing : Bounds ℝ := origin.union origin
  have hdrawing : drawingBounds [originNode 1, originNode 2] = some drawing := rfl
  have hsize := cellSizeOf_pos sqrtOfCount drawing 2
  have hx : drawing.minX = 0 := min_self 0
  have hy : drawing.minY = 0 := min_self 0
  have hcells := cells_origin hsize hx hy
  have hsorted : (indexed [originNode 1, originNode 2]).insertionSort (fun a b => a.1 ≤ b.1) =
      [(1, origin), (2, origin)] := rfl
  have hentries : occupy SceneBudgets.default drawing _ hsize.le [(1, origin), (2, origin)] =
      .ok (originCells.map (fun key => (key, 1)) ++ originCells.map fun key => (key, 2)) := by
    simp only [occupy, List.foldlM_cons, List.foldlM_nil, origin, drawing, hcells]
    rfl
  refine ⟨{ pairs := [(1, 2)], cellCount := 9, cellSize := cellSizeOf sqrtOfCount drawing 2 }, ?_⟩
  have hcount : (indexed [originNode 1, originNode 2]).length = 2 := rfl
  simp only [buildCandidateIndex, hdrawing, hsorted, hcount, bind_eq_ok]
  exact ⟨_, hentries, _, candidatePairs_origin, rfl⟩

/-- Two nodes at one point are a candidate pair. -/
theorem buildCandidateIndex_misses_no_pair_at_origin :
    ∃ index, buildCandidateIndex sqrtOfCount [originNode 1, originNode 2] SceneBudgets.default =
      .ok index ∧ (1, 2) ∈ index.pairs := by
  obtain ⟨index, hindex⟩ := build_two_at_origin
  obtain ⟨-, -, hpairs, -⟩ :=
    buildCandidateIndex_misses_no_pair "mm" (by decide) (by decide) hindex
  have hne : originNode 1 ≠ originNode 2 := fun h => by cases congrArg SceneNode.nodeId h
  refine ⟨index, hindex, hpairs _ List.mem_cons_self (originNode 2) (by simp) hne ?_⟩
  refine ⟨_, _, rfl, rfl, Bounds.intersects_iff.mpr ?_⟩
  have hpos := mechanicalTolerance_endpoint_nonneg
    (drawingBounds [originNode 1, originNode 2]) "mm"
  refine ⟨?_, ?_, ?_, ?_⟩ <;> simpa using hpos

end

end AutocadMcp.Scene
