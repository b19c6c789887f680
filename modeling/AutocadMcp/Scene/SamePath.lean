import AutocadMcp.Scene.PairOrder

/-!
# Polylines of one path

A closed polyline may start at any of its vertices and run either way, an open one may start
at either end. `_geometry_equal` finds all of these to be equal, but for the bulge of the last
vertex of an open polyline: no edge has it, and the comparison reads it.
-/

namespace AutocadMcp.Scene

open Plane

section

variable {K : Type}

def points (g : PolylineGeometry K) : List (Point K) := g.vertices.map (·.xy)

def bulges (g : PolylineGeometry K) : List K := g.vertices.map (·.bulge)

/-- The second polyline traces the path of the first. In reverse an edge is drawn from its other
end, so that its bulge changes its sign and belongs to the vertex there. -/
inductive SamePath [Neg K] (g g' : PolylineGeometry K) : Prop
  | rotated (closed : g.closed = true) (closed' : g'.closed = true) (k : ℕ)
      (samePoints : points g' = (points g).rotate k) (sameBulges : bulges g' = (bulges g).rotate k)
  | reversed (closed : g.closed = true) (closed' : g'.closed = true) (k : ℕ)
      (samePoints : points g' = (points g).reverse.rotate k)
      (sameBulges : bulges g' = ((bulges g).reverse.rotate (k + 1)).map Neg.neg)
  | openReversed (isOpen : g.closed = false) (isOpen' : g'.closed = false)
      (samePoints : points g' = (points g).reverse)
      (sameBulges : (bulges g').dropLast = (bulges g).dropLast.reverse.map Neg.neg)

/-- The vertices at the same places are the same, with their bulges. -/
def SameVertices [Field K] [LinearOrder K] (g g' : PolylineGeometry K) : Prop :=
  points g = points g' ∧ ∀ pair ∈ (bulges g).zip (bulges g'), |pair.1 - pair.2| ≤ 1 / 10 ^ 12

/-- The bulge that no edge of an open polyline has is zero. -/
def Unbulged [Field K] [LinearOrder K] (g : PolylineGeometry K) : Prop :=
  |g.last.bulge| ≤ 1 / 10 ^ 12

theorem SamePath.closed_eq [Neg K] {g g' : PolylineGeometry K} (h : SamePath g g') :
    g.closed = g'.closed := by
  cases h with
  | rotated closed closed' => rw [closed, closed']
  | reversed closed closed' => rw [closed, closed']
  | openReversed isOpen isOpen' => rw [isOpen, isOpen']

theorem SamePath.length_eq [Neg K] {g g' : PolylineGeometry K} (h : SamePath g g') :
    g.vertices.length = g'.vertices.length := by
  have hpoints : ∀ g : PolylineGeometry K, (points g).length = g.vertices.length := fun g =>
    List.length_map _
  rw [← hpoints g, ← hpoints g']
  cases h with
  | rotated _ _ k samePoints => rw [samePoints, List.length_rotate]
  | reversed _ _ k samePoints => rw [samePoints, List.length_rotate, List.length_reverse]
  | openReversed _ _ samePoints => rw [samePoints, List.length_reverse]

section

variable {n : ℕ} [NeZero n] {g g' : PolylineGeometry K}

theorem around_points (h : g.vertices.length = n) (i : ZMod n) :
    around (points g) (by rw [points, List.length_map, h]) i = (corner g h i).xy :=
  around_map h _ i

theorem around_bulges (h : g.vertices.length = n) (i : ZMod n) :
    around (bulges g) (by rw [bulges, List.length_map, h]) i = (corner g h i).bulge :=
  around_map h _ i

end

variable [Field K] [LinearOrder K] [Hypot K] [IsStrictOrderedRing K] {tolerance : K}

theorem eq_of_pointDist_nonpos {p q : Point K} (h : pointDist p q ≤ 0) : p = q := by
  rw [pointDist_le_iff le_rfl, zero_pow two_ne_zero, distSq] at h
  obtain ⟨hx, hy⟩ := (add_eq_zero_iff_of_nonneg (sq_nonneg _) (sq_nonneg _)).mp
    (le_antisymm h (add_nonneg (sq_nonneg _) (sq_nonneg _)))
  exact Prod.ext (sub_eq_zero.mp (pow_eq_zero_iff two_ne_zero |>.mp hx))
    (sub_eq_zero.mp (pow_eq_zero_iff two_ne_zero |>.mp hy))

/-! ## Closed polylines -/

omit [IsStrictOrderedRing K] in
theorem geometryEqual_polyline {g g' : PolylineGeometry K} (hclosed : g.closed = g'.closed)
    (hlength : g.vertices.length = g'.vertices.length) :
    geometryEqual (.polyline g) (.polyline g') tolerance ↔
      ∃ sequence ∈ polylineSequences g', sequencesEqual tolerance (forwardSequence g) sequence :=
  and_iff_right ⟨hclosed, hlength⟩

section

variable {n : ℕ} [NeZero n] {g g' : PolylineGeometry K}

theorem sameVertex_self (htolerance : 0 ≤ tolerance) {p q : Point K} {b c : K} (hpoint : p = q)
    (hbulge : b - c = 0) : pointDist p q ≤ tolerance ∧ |b - c| ≤ 1 / 10 ^ 12 := by
  rw [hpoint, pointDist_self, hbulge, abs_zero]
  exact ⟨htolerance, by positivity⟩

/-- Closed polylines of one path are found to be equal. -/
theorem exists_sequences_of_closed (htolerance : 0 ≤ tolerance) (h : SamePath g g')
    (hclosed : g.closed = true) (hg : g.vertices.length = n) (hg' : g'.vertices.length = n) :
    ∃ sequence ∈ polylineSequences g, sequencesEqual tolerance (forwardSequence g') sequence := by
  rw [exists_sequences_iff hclosed hg' hg]
  have hpoints : (points g).length = n := by rw [points, List.length_map, hg]
  have hbulges : (bulges g).length = n := by rw [bulges, List.length_map, hg]
  cases h with
  | rotated _ _ k samePoints sameBulges =>
      refine Or.inl ⟨k, fun i => sameVertex_self htolerance ?_ (sub_eq_zero.mpr ?_)⟩
      · rw [← around_points hg', ← around_points hg, around_congr samePoints, around_rotate hpoints]
      · rw [← around_bulges hg', ← around_bulges hg, around_congr sameBulges, around_rotate hbulges]
  | reversed _ _ k samePoints sameBulges =>
      refine Or.inr ⟨-1 - k, fun i => ?_⟩
      rw [← sub_neg_eq_add]
      refine sameVertex_self htolerance ?_ (sub_eq_zero.mpr ?_)
      · have hindex : (-1 - k - i : ZMod n) = -1 - (i + k) := by ring
        rw [← around_points hg', ← around_points hg, around_congr samePoints,
          around_rotate (by rw [List.length_reverse, hpoints]), around_reverse hpoints, hindex]
      · have hindex : (-1 - k - 1 - i : ZMod n) = -1 - (i + (k + 1 : ℕ)) := by
          push_cast
          ring
        rw [← around_bulges hg', ← around_bulges hg, around_congr sameBulges,
          around_map (by rw [List.length_rotate, List.length_reverse, hbulges]),
          around_rotate (by rw [List.length_reverse, hbulges]), around_reverse hbulges, hindex]
  | openReversed isOpen => exact absurd (hclosed.symm.trans isOpen) (by simp)

/-! ## Open polylines -/

/-- In reverse the second of the polylines is the first, but for the last bulge. -/
theorem sequencesEqual_of_open (htolerance : 0 ≤ tolerance) (h : SamePath g g')
    (hopen : g.closed = false) (hg : g.vertices.length = n) (hg' : g'.vertices.length = n) :
    sequencesEqual tolerance (withoutLastBulge g') (reversedSequence 0 g) := by
  rw [sequencesEqual_reversed hg' hg]
  have hpoints : (points g).length = n := by rw [points, List.length_map, hg]
  have hbulges : (bulges g).length = n := by rw [bulges, List.length_map, hg]
  have hbulges' : (bulges g').length = n := by rw [bulges, List.length_map, hg']
  cases h with
  | rotated closed => exact absurd (closed.symm.trans hopen) (by simp)
  | reversed closed => exact absurd (closed.symm.trans hopen) (by simp)
  | openReversed _ _ samePoints sameBulges =>
      refine ⟨fun i => ?_, fun i hi => ?_⟩
      · rw [← around_points hg', ← around_points hg, around_congr samePoints, around_reverse hpoints,
          pointDist_self]
        exact htolerance
      · rw [← around_bulges hg', ← around_bulges hg, around_mirror hbulges' hbulges sameBulges hi,
          neg_add_cancel, abs_zero]
        positivity

/-- Without any tolerance the vertices have to be the same in their order. -/
theorem sequencesEqual_zero_iff (hg : g.vertices.length = n) (hg' : g'.vertices.length = n) :
    sequencesEqual 0 (forwardSequence g) (forwardSequence g') ↔ SameVertices g g' := by
  have hforward : (forwardSequence g).length = n := by rw [length_forwardSequence, hg]
  have hforward' : (forwardSequence g').length = n := by rw [length_forwardSequence, hg']
  have hpoints : (points g).length = n := by rw [points, List.length_map, hg]
  have hpoints' : (points g').length = n := by rw [points, List.length_map, hg']
  have hbulges : (bulges g).length = n := by rw [bulges, List.length_map, hg]
  have hbulges' : (bulges g').length = n := by rw [bulges, List.length_map, hg']
  rw [sequencesEqual_iff hforward hforward', SameVertices, forall_zip_iff hbulges hbulges']
  simp only [around_forwardSequence hg, around_forwardSequence hg', around_bulges hg,
    around_bulges hg', SameVertex, forall_and]
  refine and_congr_left fun _ => ⟨fun hnear => ?_, fun heq i => ?_⟩
  · refine eq_of_around hpoints hpoints' fun i => ?_
    rw [around_points hg, around_points hg']
    exact eq_of_pointDist_nonpos (hnear i)
  · rw [← around_points hg, ← around_points hg', around_congr heq, pointDist_self]

end

omit [IsStrictOrderedRing K] in
theorem sequencesEqual_mono {xs ys : List (SequenceItem K)} (htolerance : 0 ≤ tolerance)
    (h : sequencesEqual 0 xs ys) : sequencesEqual tolerance xs ys := fun pair hpair =>
  ⟨(h pair hpair).1.trans htolerance, (h pair hpair).2⟩

/-- An open polyline is found to be equal to its reversal where the vertices are the same in both
directions or the bulge of its own last vertex is zero. -/
theorem exists_sequences_open_iff {g g' : PolylineGeometry K} (hopen' : g'.closed = false)
    (hlength : g.vertices.length = g'.vertices.length)
    (hreversed : ∀ tolerance : K, 0 ≤ tolerance →
      sequencesEqual tolerance (withoutLastBulge g) (reversedSequence 0 g')) :
    (∀ tolerance : K, 0 ≤ tolerance → ∃ sequence ∈ polylineSequences g',
      sequencesEqual tolerance (forwardSequence g) sequence) ↔ SameVertices g g' ∨ Unbulged g := by
  have hpos : NeZero g.vertices.length := ⟨by have := g.two_le; omega⟩
  rw [← sequencesEqual_zero_iff rfl hlength.symm]
  constructor
  · intro h
    have hzero := h 0 le_rfl
    rw [exists_sequences_open hopen', sequencesEqual_reversed_forward rfl hlength.symm] at hzero
    exact hzero.imp_right And.right
  · intro h tolerance htolerance
    rw [exists_sequences_open hopen', sequencesEqual_reversed_forward rfl hlength.symm]
    exact h.imp (sequencesEqual_mono htolerance) fun hlast => ⟨hreversed tolerance htolerance, hlast⟩

theorem SameVertices.comm {g g' : PolylineGeometry K}
    (hlength : g.vertices.length = g'.vertices.length) : SameVertices g g' ↔ SameVertices g' g := by
  have hpos : NeZero g.vertices.length := ⟨by have := g.two_le; omega⟩
  rw [← sequencesEqual_zero_iff rfl hlength.symm, ← sequencesEqual_zero_iff hlength.symm rfl]
  exact sequencesEqual_forward_comm rfl hlength.symm

end

/-- Two polylines of one path are found to be equal in both orders exactly where they are closed,
the bulges that no edge has are zero, or the vertices are the same in both directions. -/
theorem samePath_duplicates_iff {g g' : PolylineGeometry ℝ} (h : SamePath g g') :
    (∀ tolerance : ℝ, 0 ≤ tolerance → geometryEqual (.polyline g) (.polyline g') tolerance ∧
      geometryEqual (.polyline g') (.polyline g) tolerance) ↔
      g.closed = true ∨ (Unbulged g ∧ Unbulged g') ∨ SameVertices g g' := by
  have hpos : NeZero g.vertices.length := ⟨by have := g.two_le; omega⟩
  have hlength := h.length_eq
  simp only [geometryEqual_polyline h.closed_eq hlength,
    geometryEqual_polyline h.closed_eq.symm hlength.symm]
  cases hclosed : g.closed with
  | true =>
      refine iff_of_true (fun tolerance htolerance => ?_) (Or.inl rfl)
      have hequal := exists_sequences_of_closed htolerance h hclosed rfl hlength.symm
      exact ⟨(exists_sequences_comm hclosed (h.closed_eq ▸ hclosed) rfl hlength.symm).mpr hequal,
        hequal⟩
  | false =>
      have hopen' := h.closed_eq ▸ hclosed
      have hback : ∀ tolerance : ℝ, 0 ≤ tolerance →
          sequencesEqual tolerance (withoutLastBulge g') (reversedSequence 0 g) :=
        fun tolerance htolerance => sequencesEqual_of_open htolerance h hclosed rfl hlength.symm
      have hforth : ∀ tolerance : ℝ, 0 ≤ tolerance →
          sequencesEqual tolerance (withoutLastBulge g) (reversedSequence 0 g') :=
        fun tolerance htolerance =>
          (sequencesEqual_reversed_comm rfl hlength.symm).mpr (hback tolerance htolerance)
      simp only [forall_and]
      rw [exists_sequences_open_iff hopen' hlength hforth,
        exists_sequences_open_iff hclosed hlength.symm hback, ← SameVertices.comm hlength,
        ← or_and_left, or_comm]
      simp

/-! ## An open polyline whose last vertex has a bulge -/

def bulgedEnd : PolylineGeometry ℝ where
  vertices := [⟨0, 0, 0⟩, ⟨1, 0, 0⟩, ⟨1, 1, 1⟩]
  closed := false
  two_le := by simp

def drawnBack : PolylineGeometry ℝ where
  vertices := [⟨1, 1, 0⟩, ⟨1, 0, 0⟩, ⟨0, 0, 0⟩]
  closed := false
  two_le := by simp

theorem bulgedEnd_samePath : SamePath bulgedEnd drawnBack :=
  .openReversed rfl rfl rfl (by simp [bulges, bulgedEnd, drawnBack])

theorem bulged_end_not_duplicate : ¬ ∀ g g' : PolylineGeometry ℝ, SamePath g g' →
    ∀ tolerance : ℝ, 0 ≤ tolerance → geometryEqual (.polyline g) (.polyline g') tolerance ∧
      geometryEqual (.polyline g') (.polyline g) tolerance := by
  intro hall
  have h := (hall _ _ bulgedEnd_samePath 0 le_rfl).1
  rw [geometryEqual_polyline bulgedEnd_samePath.closed_eq bulgedEnd_samePath.length_eq,
    exists_sequences_open rfl] at h
  rcases h with h | h
  · have hfirst := (h (((0, 0), 0), ((1, 1), 0)) (by simp [forwardSequence, bulgedEnd, drawnBack,
      PolylineVertex.xy])).1
    have heq := congrArg Prod.fst (eq_of_pointDist_nonpos hfirst)
    norm_num at heq
  · have hlast := (h (((1, 1), 1), ((1, 1), 0)) (by simp [forwardSequence, reversedSequence,
      bulgedEnd, drawnBack, PolylineVertex.xy])).2
    norm_num at hlast

theorem bulged_end_duplicates_iff :
    (∀ tolerance : ℝ, 0 ≤ tolerance →
      geometryEqual (.polyline bulgedEnd) (.polyline drawnBack) tolerance ∧
        geometryEqual (.polyline drawnBack) (.polyline bulgedEnd) tolerance) ↔
      bulgedEnd.closed = true ∨ (Unbulged bulgedEnd ∧ Unbulged drawnBack) ∨
        SameVertices bulgedEnd drawnBack :=
  samePath_duplicates_iff bulgedEnd_samePath

end AutocadMcp.Scene
