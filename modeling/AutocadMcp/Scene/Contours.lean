import AutocadMcp.Lib.Checked
import AutocadMcp.Lib.Groups
import AutocadMcp.Lib.Loops
import AutocadMcp.Lib.Search
import AutocadMcp.Scene.Relations

/-!
# Contours of line loops

Ends of lines are matched through a grid with cells of the size of the tolerance; the
connected sets of lines in which every end has one match are the loops. The polygon of a
loop is found again by a walk from its least line. The contour identity, a hash of the
lines, is a parameter.
-/

namespace AutocadMcp.Scene

open Plane

inductive ContourFailure where
  | budgetExceeded (message : String)
  | assertionError
  | lookupError
  | stopIteration
  deriving DecidableEq, Repr

inductive ContourKind where
  | polyline
  | lineLoop
  deriving DecidableEq, Repr

structure SceneContour (ι γ K : Type) [LE K] where
  contourId : γ
  sourceNodeIds : List ι
  closed : Bool
  kind : ContourKind
  bounds : Bounds K

section

variable {ι K γ : Type} [LinearOrder ι] [Field K] [LinearOrder K]

/-! ## Matches of ends -/

/-- `line.end if side else line.start` -/
def LineGeometry.endpoint (line : LineGeometry K) (side : Fin 2) : Point K :=
  if side = 0 then line.start else line.stop

abbrev EndRecord (ι K : Type) := Occurrence ι × Point K

/-- Both ends of every line, the lines in the order of their ids. -/
def endRecords (lines : List (ι × LineGeometry K)) : List (EndRecord ι K) :=
  (lines.insertionSort fun a b => a.1 ≤ b.1).flatMap fun item =>
    [(⟨item.1, 0⟩, item.2.endpoint 0), (⟨item.1, 1⟩, item.2.endpoint 1)]

/-- The ends that each end is matched with. -/
abbrev Matched (ι : Type) := Occurrence ι → Finset (Occurrence ι)

def Matched.add (matched : Matched ι) (occurrence other : Occurrence ι) : Matched ι :=
  Function.update matched occurrence (insert other (matched occurrence))

def Matched.addBoth (matched : Matched ι) (occurrence other : Occurrence ι) : Matched ι :=
  (matched.add occurrence other).add other occurrence

/-- The matches found and the candidates counted so far. -/
structure Candidates (ι : Type) where
  matched : Matched ι
  count : ℕ

/-- The end points by their cell, and what has been found among them. -/
structure MatchState (ι K : Type) where
  buckets : List ((ℤ × ℤ) × List (EndRecord ι K))
  found : Candidates ι

variable [FloorRing K]

def gridKey (tolerance : K) (p : Point K) : ℤ × ℤ := (⌊p.1 / tolerance⌋, ⌊p.2 / tolerance⌋)

def neighbourhood (key : ℤ × ℤ) : List (ℤ × ℤ) :=
  (Int.range (key.1 - 1) (key.1 + 2)).flatMap fun x =>
    (Int.range (key.2 - 1) (key.2 + 2)).map fun y => (x, y)

variable [Hypot K]

def compareEnds (tolerance : K) (maxCandidates : ℕ) (record : EndRecord ι K)
    (state : Candidates ι) (other : EndRecord ι K) : Except ContourFailure (Candidates ι) :=
  if other.1.line = record.1.line then .ok state
  else if maxCandidates < state.count + 1 then
    .error (.budgetExceeded "scene exceeds endpoint candidate budget")
  else if pointDist record.2 other.2 ≤ tolerance then
    .ok ⟨state.matched.addBoth record.1 other.1, state.count + 1⟩
  else .ok ⟨state.matched, state.count + 1⟩

def matchEnd (tolerance : K) (maxCandidates : ℕ) (state : MatchState ι K)
    (record : EndRecord ι K) : Except ContourFailure (MatchState ι K) := do
  let key := gridKey tolerance record.2
  let found ← (neighbourhood key).foldlM (fun found cell =>
    (groupAt [] state.buckets cell).foldlM (compareEnds tolerance maxCandidates record) found)
    state.found
  return ⟨addTo [] (fun bucket end_ => bucket ++ [end_]) state.buckets key record, found⟩

/-- `_endpoint_matches` -/
def endpointMatches (lines : List (ι × LineGeometry K)) (tolerance : K) (maxCandidates : ℕ) :
    Except ContourFailure (Matched ι) := do
  let state ← (endRecords lines).foldlM (matchEnd tolerance maxCandidates) ⟨[], ⟨fun _ => ∅, 0⟩⟩
  return state.found.matched

/-! ### What the grid finds -/

/-- The two ends are compared: they belong to different lines and their cells touch. -/
def Candidate (tolerance : K) (record other : EndRecord ι K) : Prop :=
  other.1.line ≠ record.1.line ∧
    gridKey tolerance other.2 ∈ neighbourhood (gridKey tolerance record.2)

omit [Hypot K] in
instance (tolerance : K) (record other : EndRecord ι K) :
    Decidable (Candidate tolerance record other) :=
  inferInstanceAs (Decidable (_ ∧ _))

/-- The number of comparisons, of records with the latest first. -/
def candidateCount (tolerance : K) : List (EndRecord ι K) → ℕ
  | [] => 0
  | record :: earlier =>
      candidateCount tolerance earlier + earlier.countP (Candidate tolerance record)

variable {tolerance : K} {maxCandidates : ℕ} {record : EndRecord ι K}

theorem mem_addBoth {ι : Type} [LinearOrder ι] {matched : Matched ι} {o o' a b : Occurrence ι} :
    b ∈ matched.addBoth o o' a ↔ b ∈ matched a ∨ a = o ∧ b = o' ∨ a = o' ∧ b = o := by
  unfold Matched.addBoth Matched.add
  by_cases ha : a = o'
  · subst ha
    by_cases ha' : a = o
    · subst ha'
      simp
      tauto
    · simp [ha']
      tauto
  · by_cases ha' : a = o
    · subst ha'
      simp [ha]
      tauto
    · simp [ha, ha']

omit [FloorRing K] in
theorem foldlM_compareEnds {xs : List (EndRecord ι K)} {state : Candidates ι}
    (h : state.count + xs.countP (fun other => other.1.line ≠ record.1.line) ≤ maxCandidates) :
    ∃ matched, xs.foldlM (compareEnds tolerance maxCandidates record) state = .ok ⟨matched,
        state.count + xs.countP (fun other => other.1.line ≠ record.1.line)⟩ ∧
      ∀ a b, b ∈ matched a ↔ b ∈ state.matched a ∨ ∃ other ∈ xs,
        other.1.line ≠ record.1.line ∧ pointDist record.2 other.2 ≤ tolerance ∧
          (a = record.1 ∧ b = other.1 ∨ a = other.1 ∧ b = record.1) := by
  induction xs generalizing state with
  | nil => exact ⟨state.matched, rfl, by simp⟩
  | cons other xs ih =>
      rw [List.foldlM_cons]
      by_cases hline : other.1.line = record.1.line
      · have hcount : (other :: xs).countP (fun other => other.1.line ≠ record.1.line) =
            xs.countP (fun other => other.1.line ≠ record.1.line) :=
          List.countP_cons_of_neg (by simpa using hline)
        rw [hcount] at h ⊢
        obtain ⟨matched, hrun, hmem⟩ := ih h
        refine ⟨matched, bind_eq_ok.mpr ⟨state, by rw [compareEnds, if_pos hline], hrun⟩, ?_⟩
        intro a b
        rw [hmem]
        simp [hline]
      · have hcount : (other :: xs).countP (fun other => other.1.line ≠ record.1.line) =
            xs.countP (fun other => other.1.line ≠ record.1.line) + 1 :=
          List.countP_cons_of_pos (by simpa using hline)
        rw [hcount, ← add_assoc] at h ⊢
        have hfit : ¬ maxCandidates < state.count + 1 := by omega
        by_cases hnear : pointDist record.2 other.2 ≤ tolerance
        · obtain ⟨matched, hrun, hmem⟩ :=
            @ih ⟨state.matched.addBoth record.1 other.1, state.count + 1⟩ (by dsimp only; omega)
          refine ⟨matched, bind_eq_ok.mpr ⟨_, by
            rw [compareEnds, if_neg hline, if_neg hfit, if_pos hnear], ?_⟩, ?_⟩
          · rw [hrun, add_right_comm]
          · intro a b
            rw [hmem, mem_addBoth, or_assoc]
            simp only [List.mem_cons, exists_eq_or_imp, hnear, true_and, ne_eq, hline,
              not_false_eq_true]
        · obtain ⟨matched, hrun, hmem⟩ :=
            @ih ⟨state.matched, state.count + 1⟩ (by dsimp only; omega)
          refine ⟨matched, bind_eq_ok.mpr ⟨_, by
            rw [compareEnds, if_neg hline, if_neg hfit, if_neg hnear], ?_⟩, ?_⟩
          · rw [hrun, add_right_comm]
          · intro a b
            rw [hmem]
            simp [hnear]

omit [FloorRing K] in
theorem foldlM_compareEnds_error {xs : List (EndRecord ι K)} {state : Candidates ι}
    (hcount : state.count ≤ maxCandidates)
    (h : maxCandidates < state.count + xs.countP (fun other => other.1.line ≠ record.1.line)) :
    xs.foldlM (compareEnds tolerance maxCandidates record) state =
      .error (.budgetExceeded "scene exceeds endpoint candidate budget") := by
  induction xs generalizing state with
  | nil => exact absurd h (by simpa using hcount)
  | cons other xs ih =>
      rw [List.foldlM_cons]
      by_cases hline : other.1.line = record.1.line
      · rw [List.countP_cons_of_neg (by simpa using hline)] at h
        rw [compareEnds, if_pos hline]
        exact ih hcount h
      · rw [List.countP_cons_of_pos (by simpa using hline), ← add_assoc] at h
        rw [compareEnds, if_neg hline]
        by_cases hfull : maxCandidates < state.count + 1
        · rw [if_pos hfull]
          rfl
        · rw [if_neg hfull]
          split
          · exact ih (by dsimp only; omega) (by dsimp only; omega)
          · exact ih (by dsimp only; omega) (by dsimp only; omega)

theorem nodup_neighbourhood (key : ℤ × ℤ) : (neighbourhood key).Nodup := by
  have hrange : ∀ m n : ℤ, (Int.range m n).Nodup := fun m n =>
    List.Nodup.map (fun a b h => by simpa using h) List.nodup_range
  exact (hrange _ _).product (hrange _ _)

theorem mem_neighbourhood {key cell : ℤ × ℤ} : cell ∈ neighbourhood key ↔
    (key.1 - 1 ≤ cell.1 ∧ cell.1 ≤ key.1 + 1) ∧ key.2 - 1 ≤ cell.2 ∧ cell.2 ≤ key.2 + 1 := by
  simp only [neighbourhood, List.mem_flatMap, List.mem_map, Int.mem_range_iff]
  constructor
  · rintro ⟨x, hx, y, hy, rfl⟩
    dsimp only
    omega
  · rintro ⟨hx, hy⟩
    exact ⟨cell.1, by omega, cell.2, by omega, rfl⟩

variable [IsStrictOrderedRing K]

omit [Hypot K] in
theorem floor_near {x y : K} (htol : 0 < tolerance) (h : |x - y| ≤ tolerance) :
    ⌊x / tolerance⌋ - 1 ≤ ⌊y / tolerance⌋ ∧ ⌊y / tolerance⌋ ≤ ⌊x / tolerance⌋ + 1 := by
  have hscaled : |x / tolerance - y / tolerance| ≤ 1 := by
    rw [← sub_div, abs_div, abs_of_pos htol]
    exact (div_le_one htol).mpr h
  rw [abs_le] at hscaled
  constructor
  · rw [← Int.floor_sub_one]
    exact Int.floor_mono (by linarith)
  · rw [← Int.floor_add_one]
    exact Int.floor_mono (by linarith)

/-- Points within the tolerance lie in cells that touch. -/
theorem gridKey_near {p q : Point K} (htol : 0 < tolerance) (h : pointDist p q ≤ tolerance) :
    gridKey tolerance q ∈ neighbourhood (gridKey tolerance p) := by
  rw [pointDist_le_iff htol.le] at h
  unfold distSq at h
  have hx : |p.1 - q.1| ≤ tolerance :=
    abs_le_of_sq_le_sq (by nlinarith [sq_nonneg (p.2 - q.2)]) htol.le
  have hy : |p.2 - q.2| ≤ tolerance :=
    abs_le_of_sq_le_sq (by nlinarith [sq_nonneg (p.1 - q.1)]) htol.le
  rw [mem_neighbourhood]
  exact ⟨floor_near htol hx, floor_near htol hy⟩

/-- What the loop over the records has after the ones it has seen. -/
structure Compared (tolerance : K) (seen : List (EndRecord ι K)) (state : MatchState ι K) : Prop where
  buckets : state.buckets = groupBy [] (fun bucket end_ => bucket ++ [end_])
    (fun end_ => gridKey tolerance end_.2) seen
  count : state.found.count = candidateCount tolerance seen.reverse
  matched : ∀ a b, b ∈ state.found.matched a ↔ ∃ p q, (a, p) ∈ seen ∧ (b, q) ∈ seen ∧
    a.line ≠ b.line ∧ pointDist p q ≤ tolerance

/-- The records that an end is compared with. -/
def neighbours (tolerance : K) (buckets : List ((ℤ × ℤ) × List (EndRecord ι K))) (p : Point K) :
    List (EndRecord ι K) :=
  (neighbourhood (gridKey tolerance p)).flatMap (groupAt [] buckets)

omit [IsStrictOrderedRing K] in
theorem matchEnd_eq {state : MatchState ι K} : matchEnd tolerance maxCandidates state record =
    (do
      let found ← (neighbours tolerance state.buckets record.2).foldlM
        (compareEnds tolerance maxCandidates record) state.found
      return ⟨addTo [] (fun bucket end_ => bucket ++ [end_]) state.buckets
        (gridKey tolerance record.2) record, found⟩) := by
  rw [neighbours, ← foldlM_flatMap]
  rfl

omit [IsStrictOrderedRing K] in
theorem neighbours_perm {seen : List (EndRecord ι K)} {state : MatchState ι K}
    (h : Compared tolerance seen state) (p : Point K) :
    (neighbours tolerance state.buckets p).Perm
      (seen.filter fun other => gridKey tolerance other.2 ∈ neighbourhood (gridKey tolerance p)) := by
  have hbuckets : neighbours tolerance state.buckets p =
      (neighbourhood (gridKey tolerance p)).flatMap fun cell =>
        seen.filter (gridKey tolerance ·.2 = cell) := by
    unfold neighbours
    congr 1
    funext cell
    rw [h.buckets, groupAt_groupBy, foldl_snoc, List.nil_append]
  rw [hbuckets]
  refine (flatMap_buckets_perm (nodup_neighbourhood (gridKey tolerance p)) seen).trans
    (List.Perm.of_eq (List.filter_congr fun x _ => decide_eq_decide.mpr Iff.rfl))

omit [IsStrictOrderedRing K] in
theorem countP_neighbours {seen : List (EndRecord ι K)} {state : MatchState ι K}
    (h : Compared tolerance seen state) :
    (neighbours tolerance state.buckets record.2).countP
      (fun other => other.1.line ≠ record.1.line) = seen.countP (Candidate tolerance record) := by
  rw [(neighbours_perm h record.2).countP_eq, List.countP_filter]
  refine List.countP_congr fun other _ => ?_
  simp only [Bool.and_eq_true, decide_eq_true_eq]
  exact Iff.rfl

omit [Hypot K] [IsStrictOrderedRing K] in
theorem candidateCount_snoc (seen : List (EndRecord ι K)) :
    candidateCount tolerance (seen ++ [record]).reverse =
      candidateCount tolerance seen.reverse + seen.countP (Candidate tolerance record) := by
  rw [List.reverse_append, List.reverse_singleton, List.singleton_append, candidateCount,
    List.countP_reverse]

theorem compared_matchEnd (htol : 0 < tolerance) {seen : List (EndRecord ι K)}
    {state : MatchState ι K} (h : Compared tolerance seen state)
    (hfit : candidateCount tolerance (seen ++ [record]).reverse ≤ maxCandidates) :
    ∃ state', matchEnd tolerance maxCandidates state record = .ok state' ∧
      Compared tolerance (seen ++ [record]) state' := by
  rw [candidateCount_snoc, ← h.count, ← countP_neighbours h] at hfit
  obtain ⟨matched, hrun, hmem⟩ :=
    @foldlM_compareEnds ι K _ _ _ _ tolerance maxCandidates record _ _ hfit
  refine ⟨_, by rw [matchEnd_eq, hrun]; rfl, ?_, ?_, fun a b => ?_⟩
  · rw [h.buckets, groupBy_append, List.foldl_cons, List.foldl_nil]
  · rw [candidateCount_snoc, ← h.count, ← countP_neighbours h]
  · have hnear : ∀ {other : EndRecord ι K}, pointDist record.2 other.2 ≤ tolerance →
        (other ∈ neighbours tolerance state.buckets record.2 ↔ other ∈ seen) := fun hle => by
      rw [(neighbours_perm h record.2).mem_iff, List.mem_filter]
      simp [gridKey_near htol hle]
    rw [hmem, h.matched]
    constructor
    · rintro (⟨p, q, hp, hq, hfar, hle⟩ | ⟨other, hother, hline, hle, ⟨rfl, rfl⟩ | ⟨rfl, rfl⟩⟩)
      · exact ⟨p, q, List.mem_append_left _ hp, List.mem_append_left _ hq, hfar, hle⟩
      · exact ⟨record.2, other.2, by simp, List.mem_append_left _ ((hnear hle).mp hother),
          Ne.symm hline, hle⟩
      · exact ⟨other.2, record.2, List.mem_append_left _ ((hnear hle).mp hother), by simp, hline,
          pointDist_comm record.2 other.2 ▸ hle⟩
    · rintro ⟨p, q, hp, hq, hline, hle⟩
      rw [List.mem_append, List.mem_singleton] at hp hq
      have hle' : pointDist q p ≤ tolerance := pointDist_comm p q ▸ hle
      rcases hp with hp | rfl
      · rcases hq with hq | rfl
        · exact Or.inl ⟨p, q, hp, hq, hline, hle⟩
        · exact Or.inr ⟨(a, p), (hnear hle').mpr hp, hline, hle', Or.inr ⟨rfl, rfl⟩⟩
      · rcases hq with hq | hq
        · exact Or.inr ⟨(b, q), (hnear hle).mpr hq, Ne.symm hline, hle, Or.inl ⟨rfl, rfl⟩⟩
        · exact absurd (congrArg (fun r => r.1.line) hq).symm hline

omit [IsStrictOrderedRing K] in
theorem matchEnd_error {seen : List (EndRecord ι K)}
    {state : MatchState ι K} (h : Compared tolerance seen state)
    (hcount : candidateCount tolerance seen.reverse ≤ maxCandidates)
    (hfull : maxCandidates < candidateCount tolerance (seen ++ [record]).reverse) :
    matchEnd tolerance maxCandidates state record =
      .error (.budgetExceeded "scene exceeds endpoint candidate budget") := by
  rw [candidateCount_snoc, ← h.count, ← countP_neighbours h] at hfull
  rw [← h.count] at hcount
  rw [matchEnd_eq, foldlM_compareEnds_error hcount hfull]
  rfl

theorem compared_records (htol : 0 < tolerance) {records : List (EndRecord ι K)}
    (hfit : candidateCount tolerance records.reverse ≤ maxCandidates) :
    ∃ state, records.foldlM (matchEnd tolerance maxCandidates) ⟨[], ⟨fun _ => ∅, 0⟩⟩ = .ok state ∧
      Compared tolerance records state := by
  induction records using List.reverseRecOn with
  | nil => exact ⟨_, rfl, rfl, rfl, by simp⟩
  | append_singleton seen record ih =>
      have hseen : candidateCount tolerance seen.reverse ≤ maxCandidates :=
        (Nat.le_add_right _ _).trans (candidateCount_snoc seen ▸ hfit)
      obtain ⟨state, hrun, hstate⟩ := ih hseen
      obtain ⟨state', hstep, hstate'⟩ := compared_matchEnd htol hstate hfit
      refine ⟨state', ?_, hstate'⟩
      rw [List.foldlM_append]
      refine bind_eq_ok.mpr ⟨state, hrun, ?_⟩
      rw [List.foldlM_cons, hstep]
      rfl

theorem records_error (htol : 0 < tolerance) {records : List (EndRecord ι K)}
    (hfull : maxCandidates < candidateCount tolerance records.reverse) :
    records.foldlM (matchEnd tolerance maxCandidates) ⟨[], ⟨fun _ => ∅, 0⟩⟩ =
      .error (.budgetExceeded "scene exceeds endpoint candidate budget") := by
  induction records using List.reverseRecOn with
  | nil => exact absurd hfull (Nat.not_lt_zero _)
  | append_singleton seen record ih =>
      rw [List.foldlM_append]
      by_cases hseen : candidateCount tolerance seen.reverse ≤ maxCandidates
      · obtain ⟨state, hrun, hstate⟩ := compared_records htol hseen
        rw [hrun]
        show [record].foldlM (matchEnd tolerance maxCandidates) state = _
        rw [List.foldlM_cons, matchEnd_error hstate hseen hfull]
        rfl
      · rw [ih (not_le.mp hseen)]
        rfl

/-! ### The matches -/

/-- The two ends belong to different lines and are within the tolerance of each other. -/
def EndsMatch (lines : List (ι × LineGeometry K)) (tolerance : K) (a b : Occurrence ι) : Prop :=
  a.line ≠ b.line ∧ ∃ line line', (a.line, line) ∈ lines ∧ (b.line, line') ∈ lines ∧
    pointDist (line.endpoint a.side) (line'.endpoint b.side) ≤ tolerance

variable {lines : List (ι × LineGeometry K)}

omit [Field K] [LinearOrder K] [Hypot K] [FloorRing K] [IsStrictOrderedRing K] in
theorem mem_endRecords {o : Occurrence ι} {p : Point K} :
    (o, p) ∈ endRecords lines ↔ ∃ line, (o.line, line) ∈ lines ∧ p = line.endpoint o.side := by
  obtain ⟨id, side⟩ := o
  simp only [endRecords, List.mem_flatMap, List.mem_insertionSort, List.mem_cons,
    List.not_mem_nil, or_false, Prod.mk.injEq, Occurrence.mk.injEq, Prod.exists]
  constructor
  · rintro ⟨id', line, hline, ⟨⟨rfl, rfl⟩, rfl⟩ | ⟨⟨rfl, rfl⟩, rfl⟩⟩
    · exact ⟨line, hline, rfl⟩
    · exact ⟨line, hline, rfl⟩
  · rintro ⟨line, hline, rfl⟩
    refine ⟨id, line, hline, ?_⟩
    fin_cases side
    · exact Or.inl ⟨⟨rfl, rfl⟩, rfl⟩
    · exact Or.inr ⟨⟨rfl, rfl⟩, rfl⟩

/-- The number of comparisons that the matching of the lines makes. -/
def endCandidates (tolerance : K) (lines : List (ι × LineGeometry K)) : ℕ :=
  candidateCount tolerance (endRecords lines).reverse

/-- The grid finds the matches and no others, unless it runs out of its budget. -/
theorem endpointMatches_ok (htol : 0 < tolerance)
    (hfit : endCandidates tolerance lines ≤ maxCandidates) :
    ∃ matched, endpointMatches lines tolerance maxCandidates = .ok matched ∧
      ∀ a b, b ∈ matched a ↔ EndsMatch lines tolerance a b := by
  obtain ⟨state, hrun, hstate⟩ := compared_records htol hfit
  refine ⟨state.found.matched, bind_eq_ok.mpr ⟨state, hrun, rfl⟩, fun a b => ?_⟩
  rw [hstate.matched]
  simp only [mem_endRecords, EndsMatch]
  constructor
  · rintro ⟨p, q, ⟨line, hline, rfl⟩, ⟨line', hline', rfl⟩, hne, hle⟩
    exact ⟨hne, line, line', hline, hline', hle⟩
  · rintro ⟨hne, line, line', hline, hline', hle⟩
    exact ⟨_, _, ⟨line, hline, rfl⟩, ⟨line', hline', rfl⟩, hne, hle⟩

theorem endpointMatches_error (htol : 0 < tolerance)
    (hfull : maxCandidates < endCandidates tolerance lines) :
    endpointMatches lines tolerance maxCandidates =
      .error (.budgetExceeded "scene exceeds endpoint candidate budget") := by
  unfold endpointMatches
  rw [records_error htol hfull]
  rfl

theorem endpointMatches_eq_ok (htol : 0 < tolerance) {matched : Matched ι}
    (h : endpointMatches lines tolerance maxCandidates = .ok matched) :
    endCandidates tolerance lines ≤ maxCandidates ∧
      ∀ a b, b ∈ matched a ↔ EndsMatch lines tolerance a b := by
  by_cases hfit : endCandidates tolerance lines ≤ maxCandidates
  · obtain ⟨found, hrun, hmem⟩ := endpointMatches_ok htol hfit
    rw [h, Except.ok.injEq] at hrun
    exact ⟨hfit, hrun ▸ hmem⟩
  · rw [endpointMatches_error htol (not_le.mp hfit)] at h
    exact absurd h (by simp)

omit [Hypot K] [IsStrictOrderedRing K] in
theorem candidateCount_mono {xs ys : List (EndRecord ι K)} (h : xs.Sublist ys) :
    candidateCount tolerance xs ≤ candidateCount tolerance ys := by
  induction h with
  | slnil => exact le_rfl
  | cons y _ ih => exact ih.trans (Nat.le_add_right _ _)
  | cons_cons y hsub ih => exact add_le_add ih hsub.countP_le

omit [Hypot K] [IsStrictOrderedRing K] in
/-- Fewer lines take fewer comparisons. -/
theorem endCandidates_mono {lines' : List (ι × LineGeometry K)}
    (hnodup : (lines.map Prod.fst).Nodup) (hnodup' : (lines'.map Prod.fst).Nodup)
    (hsub : lines' ⊆ lines) : endCandidates tolerance lines' ≤ endCandidates tolerance lines := by
  have hsorted : ∀ {xs : List (ι × LineGeometry K)}, (xs.map Prod.fst).Nodup →
      (xs.insertionSort fun a b => a.1 ≤ b.1).Pairwise fun a b => a.1 < b.1 := by
    intro xs hxs
    have hperm := ((List.perm_insertionSort (fun a b => a.1 ≤ b.1) xs).map Prod.fst).nodup_iff
    have hne := List.pairwise_map.mp (hperm.mpr hxs)
    have hle := List.pairwise_insertionSort (fun (a b : ι × LineGeometry K) => a.1 ≤ b.1) xs
    exact hle.imp₂ (fun _ _ => lt_of_le_of_ne) hne
  have : Std.Antisymm fun (a b : ι × LineGeometry K) => a.1 < b.1 :=
    ⟨fun a b hab hba => absurd (hab.trans hba) (lt_irrefl _)⟩
  have hsubperm : (lines'.insertionSort fun a b => a.1 ≤ b.1).Subperm
      (lines.insertionSort fun a b => a.1 ≤ b.1) := by
    refine List.subperm_of_subset ?_ fun item hitem => ?_
    · exact (List.perm_insertionSort _ _).nodup_iff.mpr (List.Nodup.of_map _ hnodup')
    · rw [List.mem_insertionSort] at hitem ⊢
      exact hsub hitem
  exact candidateCount_mono
    ((List.sublist_of_subperm_of_pairwise hsubperm (hsorted hnodup') (hsorted hnodup)).flatMap
      _).reverse

end

end AutocadMcp.Scene
