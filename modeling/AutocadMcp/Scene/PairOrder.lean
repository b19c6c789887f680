import AutocadMcp.Lib.Cyclic
import AutocadMcp.Scene.SegmentRelations

/-!
# The order of a pair

Most of what `_pair_relations` tests does not depend on which of the two geometries is the
first. The test for collinear segments, the axis on which their overlap is measured and the
bulge of the last vertex of an open polyline do.
-/

namespace AutocadMcp.Scene

open Plane

/-! ## Polylines -/

section

variable {K : Type} [Field K] [LinearOrder K] [Hypot K]

/-- Two vertices are equal up to the tolerance, with their bulges. -/
def SameVertex (tolerance : K) (a b : SequenceItem K) : Prop :=
  pointDist a.1 b.1 ≤ tolerance ∧ |a.2 - b.2| ≤ 1 / 10 ^ 12

/-- The vertices with the bulge of the last one, which no edge of an open polyline has, set to
zero. -/
def withoutLastBulge (g : PolylineGeometry K) : List (SequenceItem K) :=
  (forwardSequence g).dropLast ++ [(g.last.xy, 0)]

/-- For two open polylines that are equal in reverse alone: the bulge of the last vertex is
negligible in both or in neither. -/
def LastBulgesAgree (tolerance : K) : Geometry K → Geometry K → Prop
  | .polyline g, .polyline g' =>
      g.closed = false → g'.closed = false → g.vertices.length = g'.vertices.length →
        ¬ sequencesEqual tolerance (forwardSequence g) (forwardSequence g') →
        sequencesEqual tolerance (withoutLastBulge g) (reversedSequence 0 g') →
        (|g.last.bulge| ≤ 1 / 10 ^ 12 ↔ |g'.last.bulge| ≤ 1 / 10 ^ 12)
  | _, _ => True

omit [Field K] [LinearOrder K] [Hypot K] in
theorem length_forwardSequence (g : PolylineGeometry K) :
    (forwardSequence g).length = g.vertices.length :=
  List.length_map _

omit [LinearOrder K] [Hypot K] in
theorem length_reversedSequence (lead : K) (g : PolylineGeometry K) :
    (reversedSequence lead g).length = g.vertices.length := by
  simp [reversedSequence]

omit [LinearOrder K] [Hypot K] in
theorem length_withoutLastBulge (g : PolylineGeometry K) :
    (withoutLastBulge g).length = g.vertices.length := by
  have := g.two_le
  simp [withoutLastBulge, length_forwardSequence]
  omega

section

variable {n : ℕ} [NeZero n] {g g' : PolylineGeometry K} {tolerance : K}

/-- The vertex at an index modulo the number of vertices. -/
def corner (g : PolylineGeometry K) (h : g.vertices.length = n) (i : ZMod n) : PolylineVertex K :=
  around g.vertices h i

omit [Field K] [LinearOrder K] [Hypot K] in
theorem corner_last (h : g.vertices.length = n) : corner g h (-1) = g.last :=
  around_neg_one h g.vertices_ne_nil

omit [Field K] [LinearOrder K] [Hypot K] in
theorem around_forwardSequence (h : g.vertices.length = n) (i : ZMod n) :
    around (forwardSequence g) (by rw [length_forwardSequence, h]) i =
      ((corner g h i).xy, (corner g h i).bulge) :=
  around_map h _ i

omit [LinearOrder K] [Hypot K] in
/-- In reverse each vertex comes with the opposite of the bulge of the vertex before it. -/
theorem around_reversedSequence (h : g.vertices.length = n) (lead : K) (i : ZMod n) :
    around (reversedSequence lead g) (by rw [length_reversedSequence, h]) i =
      ((corner g h (-1 - i)).xy, if i = -1 then lead else -(corner g h (-2 - i)).bulge) := by
  have hxs : (g.vertices.map (·.xy)).length = n := by rw [List.length_map, h]
  have hys : (g.vertices.map fun v => -v.bulge).length = n := by rw [List.length_map, h]
  unfold reversedSequence
  rw [around_reverse (by rw [List.length_zip, List.length_cons, hxs, hys]; omega),
    around_zip_cons hxs hys, around_map h, around_map h]
  have hzero : -1 - i = 0 ↔ i = -1 := by
    constructor
    · intro hi
      exact (sub_eq_zero.mp hi).symm
    · rintro rfl
      exact sub_self _
  have hindex : (-1 - i - 1 : ZMod n) = -2 - i := by ring
  simp only [hzero, hindex, corner]

omit [LinearOrder K] [Hypot K] in
theorem around_withoutLastBulge (h : g.vertices.length = n) (i : ZMod n) :
    around (withoutLastBulge g) (by rw [length_withoutLastBulge, h]) i =
      ((corner g h i).xy, if i = -1 then 0 else (corner g h i).bulge) := by
  have hforward : (forwardSequence g).length = n := by rw [length_forwardSequence, h]
  unfold withoutLastBulge
  rw [around_replaceLast hforward, around_forwardSequence h]
  by_cases hi : i = -1
  · rw [if_pos hi, if_pos hi, hi, corner_last]
  · rw [if_neg hi, if_neg hi]

theorem sequencesEqual_iff {xs ys : List (SequenceItem K)} (h : xs.length = n)
    (h' : ys.length = n) : sequencesEqual tolerance xs ys ↔
      ∀ i, SameVertex tolerance (around xs h i) (around ys h' i) :=
  forall_zip_iff h h'

variable [IsStrictOrderedRing K]

theorem sameVertex_comm (a b : SequenceItem K) :
    SameVertex tolerance a b ↔ SameVertex tolerance b a := by
  unfold SameVertex
  rw [pointDist_comm, abs_sub_comm]

theorem sequencesEqual_forward_comm (h : g.vertices.length = n) (h' : g'.vertices.length = n) :
    sequencesEqual tolerance (forwardSequence g) (forwardSequence g') ↔
      sequencesEqual tolerance (forwardSequence g') (forwardSequence g) := by
  have hg : (forwardSequence g).length = n := by rw [length_forwardSequence, h]
  have hg' : (forwardSequence g').length = n := by rw [length_forwardSequence, h']
  rw [sequencesEqual_iff hg hg', sequencesEqual_iff hg' hg]
  exact forall_congr' fun i => sameVertex_comm _ _

/-- In reverse the two polylines play the same part, but for the bulge of the last vertex. -/
theorem sequencesEqual_reversed (h : g.vertices.length = n) (h' : g'.vertices.length = n) :
    sequencesEqual tolerance (withoutLastBulge g) (reversedSequence 0 g') ↔
      (∀ i, pointDist (corner g h i).xy (corner g' h' (-1 - i)).xy ≤ tolerance) ∧
        ∀ i, i ≠ -1 → |(corner g h i).bulge + (corner g' h' (-2 - i)).bulge| ≤ 1 / 10 ^ 12 := by
  rw [sequencesEqual_iff (by rw [length_withoutLastBulge, h])
    (by rw [length_reversedSequence, h'])]
  simp only [around_withoutLastBulge h, around_reversedSequence h', SameVertex, forall_and]
  refine and_congr_right fun _ => forall_congr' fun i => ?_
  by_cases hi : i = -1
  · simp [hi]
  · simp [hi]

theorem sequencesEqual_reversed_comm (h : g.vertices.length = n) (h' : g'.vertices.length = n) :
    sequencesEqual tolerance (withoutLastBulge g) (reversedSequence 0 g') ↔
      sequencesEqual tolerance (withoutLastBulge g') (reversedSequence 0 g) := by
  have hswap : ∀ {g g' : PolylineGeometry K} (h : g.vertices.length = n)
      (h' : g'.vertices.length = n),
      sequencesEqual tolerance (withoutLastBulge g) (reversedSequence 0 g') →
        sequencesEqual tolerance (withoutLastBulge g') (reversedSequence 0 g) := by
    intro g g' h h' hequal
    rw [sequencesEqual_reversed h h'] at hequal
    rw [sequencesEqual_reversed h' h]
    refine ⟨fun i => ?_, fun i hi => ?_⟩
    · have hpoint := hequal.1 (-1 - i)
      rwa [sub_sub_cancel, pointDist_comm] at hpoint
    · have hne : (-2 - i : ZMod n) ≠ -1 := by
        intro heq
        apply hi
        calc i = -2 - (-2 - i) := by ring
          _ = -1 := by rw [heq]; ring
      have hbulge := hequal.2 (-2 - i) hne
      rwa [sub_sub_cancel, add_comm] at hbulge
  exact ⟨hswap h h', hswap h' h⟩

theorem sequencesEqual_reversed_forward (h : g.vertices.length = n) (h' : g'.vertices.length = n) :
    sequencesEqual tolerance (forwardSequence g) (reversedSequence 0 g') ↔
      sequencesEqual tolerance (withoutLastBulge g) (reversedSequence 0 g') ∧
        |g.last.bulge| ≤ 1 / 10 ^ 12 := by
  rw [sequencesEqual_reversed h h', sequencesEqual_iff (by rw [length_forwardSequence, h])
    (by rw [length_reversedSequence, h'])]
  simp only [around_forwardSequence h, around_reversedSequence h', SameVertex, forall_and]
  rw [and_assoc]
  refine and_congr_right fun _ => ?_
  constructor
  · intro hbulges
    refine ⟨fun i hi => ?_, ?_⟩
    · simpa [hi] using hbulges i
    · simpa [corner_last] using hbulges (-1)
  · rintro ⟨hbulges, hlast⟩ i
    by_cases hi : i = -1
    · subst hi
      simpa [corner_last] using hlast
    · simpa [hi] using hbulges i hi

omit [IsStrictOrderedRing K] in
theorem sequencesEqual_rotate {xs ys : List (SequenceItem K)} (h : xs.length = n)
    (h' : ys.length = n) : (∃ k ∈ List.range ys.length, sequencesEqual tolerance xs (ys.rotate k)) ↔
      ∃ k, ∀ i, SameVertex tolerance (around xs h i) (around ys h' (i + k)) := by
  rw [h', ← exists_range_iff]
  refine exists_congr fun k => and_congr_right fun _ => ?_
  rw [sequencesEqual_iff h (by rw [List.length_rotate, h'])]
  simp only [around_rotate h']

omit [IsStrictOrderedRing K] in
/-- A closed polyline is equal to another one where its vertices run along those of the other from
some vertex on, or along them in reverse. -/
theorem exists_sequences_iff (hclosed : g'.closed = true) (h : g.vertices.length = n)
    (h' : g'.vertices.length = n) :
    (∃ sequence ∈ polylineSequences g', sequencesEqual tolerance (forwardSequence g) sequence) ↔
      (∃ k : ZMod n, ∀ i,
        pointDist (corner g h i).xy (corner g' h' (i + k)).xy ≤ tolerance ∧
          |(corner g h i).bulge - (corner g' h' (i + k)).bulge| ≤ 1 / 10 ^ 12) ∨
      ∃ c : ZMod n, ∀ i,
        pointDist (corner g h i).xy (corner g' h' (c - i)).xy ≤ tolerance ∧
          |(corner g h i).bulge + (corner g' h' (c - 1 - i)).bulge| ≤ 1 / 10 ^ 12 := by
  have hg : (forwardSequence g).length = n := by rw [length_forwardSequence, h]
  have hg' : (forwardSequence g').length = n := by rw [length_forwardSequence, h']
  have hr' : (reversedSequence (-g'.last.bulge) g').length = n := by
    rw [length_reversedSequence, h']
  have hsplit : (∃ sequence ∈ polylineSequences g',
      sequencesEqual tolerance (forwardSequence g) sequence) ↔
      (∃ k ∈ List.range (forwardSequence g').length,
        sequencesEqual tolerance (forwardSequence g) ((forwardSequence g').rotate k)) ∨
      ∃ k ∈ List.range (reversedSequence (-g'.last.bulge) g').length,
        sequencesEqual tolerance (forwardSequence g)
          ((reversedSequence (-g'.last.bulge) g').rotate k) := by
    rw [polylineSequences, if_pos hclosed]
    simp only [List.flatMap_cons, List.flatMap_nil, List.append_nil, List.mem_append, or_and_right,
      exists_or, List.mem_map, exists_exists_and_eq_and]
  rw [hsplit, sequencesEqual_rotate hg hg', sequencesEqual_rotate hg hr']
  simp only [around_forwardSequence h, around_forwardSequence h', around_reversedSequence h',
    SameVertex]
  refine or_congr Iff.rfl ?_
  have hlead : ∀ i : ZMod n, (if i = -1 then -g'.last.bulge
      else -(corner g' h' (-2 - i)).bulge) = -(corner g' h' (-2 - i)).bulge := by
    intro i
    split
    · rename_i hi
      rw [hi, ← corner_last h']
      congr 3
      ring
    · rfl
  simp only [hlead, sub_neg_eq_add]
  -- the vertex that comes opposite to the first one
  constructor
  · rintro ⟨k, hk⟩
    refine ⟨-1 - k, fun i => ?_⟩
    have hpoint : (-1 - k - i : ZMod n) = -1 - (i + k) := by ring
    have hbulge : (-1 - k - 1 - i : ZMod n) = -2 - (i + k) := by ring
    rw [hpoint, hbulge]
    exact hk i
  · rintro ⟨c, hc⟩
    refine ⟨-1 - c, fun i => ?_⟩
    have hpoint : (-1 - (i + (-1 - c)) : ZMod n) = c - i := by ring
    have hbulge : (-2 - (i + (-1 - c)) : ZMod n) = c - 1 - i := by ring
    rw [hpoint, hbulge]
    exact hc i

theorem exists_sequences_comm (hclosed : g.closed = true) (hclosed' : g'.closed = true)
    (h : g.vertices.length = n) (h' : g'.vertices.length = n) :
    (∃ sequence ∈ polylineSequences g', sequencesEqual tolerance (forwardSequence g) sequence) ↔
      ∃ sequence ∈ polylineSequences g, sequencesEqual tolerance (forwardSequence g') sequence := by
  rw [exists_sequences_iff hclosed' h h', exists_sequences_iff hclosed h' h]
  refine or_congr ?_ ?_
  · have hswap : ∀ {g g' : PolylineGeometry K} (h : g.vertices.length = n)
        (h' : g'.vertices.length = n), (∃ k : ZMod n, ∀ i,
          pointDist (corner g h i).xy (corner g' h' (i + k)).xy ≤ tolerance ∧
            |(corner g h i).bulge - (corner g' h' (i + k)).bulge| ≤ 1 / 10 ^ 12) →
        ∃ k : ZMod n, ∀ i,
          pointDist (corner g' h' i).xy (corner g h (i + k)).xy ≤ tolerance ∧
            |(corner g' h' i).bulge - (corner g h (i + k)).bulge| ≤ 1 / 10 ^ 12 := by
      rintro g g' h h' ⟨k, hk⟩
      refine ⟨-k, fun i => ?_⟩
      have hi := hk (i + -k)
      rwa [neg_add_cancel_right, pointDist_comm, abs_sub_comm] at hi
    exact ⟨hswap h h', hswap h' h⟩
  · have hswap : ∀ {g g' : PolylineGeometry K} (h : g.vertices.length = n)
        (h' : g'.vertices.length = n), (∃ c : ZMod n, ∀ i,
          pointDist (corner g h i).xy (corner g' h' (c - i)).xy ≤ tolerance ∧
            |(corner g h i).bulge + (corner g' h' (c - 1 - i)).bulge| ≤ 1 / 10 ^ 12) →
        ∃ c : ZMod n, ∀ i,
          pointDist (corner g' h' i).xy (corner g h (c - i)).xy ≤ tolerance ∧
            |(corner g' h' i).bulge + (corner g h (c - 1 - i)).bulge| ≤ 1 / 10 ^ 12 := by
      rintro g g' h h' ⟨c, hc⟩
      refine ⟨c, fun i => ⟨?_, ?_⟩⟩
      · have hpoint := (hc (c - i)).1
        rwa [sub_sub_cancel, pointDist_comm] at hpoint
      · have hbulge := (hc (c - 1 - i)).2
        rwa [sub_sub_cancel, add_comm] at hbulge
    exact ⟨hswap h h', hswap h' h⟩

end

/-! ## Duplicates -/

section

variable [IsStrictOrderedRing K] {tolerance : K}

omit [IsStrictOrderedRing K] in
theorem exists_sequences_open {g g' : PolylineGeometry K} (hopen' : g'.closed = false) :
    (∃ sequence ∈ polylineSequences g', sequencesEqual tolerance (forwardSequence g) sequence) ↔
      sequencesEqual tolerance (forwardSequence g) (forwardSequence g') ∨
        sequencesEqual tolerance (forwardSequence g) (reversedSequence 0 g') := by
  rw [polylineSequences, hopen', if_neg (by simp)]
  simp only [List.mem_cons, List.not_mem_nil, or_false, exists_eq_or_imp, exists_eq_left]

/-- Equality of open polylines depends on the order through the bulges of the last vertices
alone. -/
theorem open_sequences_comm_iff {g g' : PolylineGeometry K} (hopen : g.closed = false)
    (hopen' : g'.closed = false) (hlength : g.vertices.length = g'.vertices.length) :
    ((∃ sequence ∈ polylineSequences g', sequencesEqual tolerance (forwardSequence g) sequence) ↔
      ∃ sequence ∈ polylineSequences g, sequencesEqual tolerance (forwardSequence g') sequence) ↔
      LastBulgesAgree tolerance (.polyline g) (.polyline g') := by
  have hpos : NeZero g.vertices.length := ⟨by have := g.two_le; omega⟩
  rw [exists_sequences_open hopen', exists_sequences_open hopen,
    sequencesEqual_reversed_forward rfl hlength.symm,
    sequencesEqual_reversed_forward hlength.symm rfl,
    ← sequencesEqual_forward_comm rfl hlength.symm,
    ← sequencesEqual_reversed_comm rfl hlength.symm]
  have hagree : LastBulgesAgree tolerance (.polyline g) (.polyline g') ↔
      (¬ sequencesEqual tolerance (forwardSequence g) (forwardSequence g') →
        sequencesEqual tolerance (withoutLastBulge g) (reversedSequence 0 g') →
        (|g.last.bulge| ≤ 1 / 10 ^ 12 ↔ |g'.last.bulge| ≤ 1 / 10 ^ 12)) :=
    ⟨fun h => h hopen hopen' hlength, fun h _ _ _ => h⟩
  rw [hagree]
  generalize sequencesEqual tolerance (forwardSequence g) (forwardSequence g') = forward
  generalize sequencesEqual tolerance (withoutLastBulge g) (reversedSequence 0 g') = reversed
  generalize (|g.last.bulge| ≤ 1 / 10 ^ 12) = negligible
  generalize (|g'.last.bulge| ≤ 1 / 10 ^ 12) = negligible'
  tauto

theorem polyline_equal_comm_iff (g g' : PolylineGeometry K) :
    (geometryEqual (.polyline g) (.polyline g') tolerance ↔
        geometryEqual (.polyline g') (.polyline g) tolerance) ↔
      LastBulgesAgree tolerance (.polyline g) (.polyline g') := by
  simp only [geometryEqual]
  by_cases hkind : g.closed = g'.closed ∧ g.vertices.length = g'.vertices.length
  · have hkind' : g'.closed = g.closed ∧ g'.vertices.length = g.vertices.length :=
      ⟨hkind.1.symm, hkind.2.symm⟩
    rw [and_iff_right hkind, and_iff_right hkind']
    cases hclosed : g.closed with
    | true =>
        have hpos : NeZero g.vertices.length := ⟨by have := g.two_le; omega⟩
        refine iff_of_true (exists_sequences_comm hclosed (hkind.1 ▸ hclosed) rfl hkind.2.symm) ?_
        intro hopen
        exact absurd (hclosed.symm.trans hopen) (by simp)
    | false => exact open_sequences_comm_iff hclosed (hkind.1 ▸ hclosed) hkind.2
  · have hkind' : ¬ (g'.closed = g.closed ∧ g'.vertices.length = g.vertices.length) := fun h =>
      hkind ⟨h.1.symm, h.2.symm⟩
    refine iff_of_true (iff_of_false (fun h => hkind h.1) fun h => hkind' h.1) ?_
    intro hopen hopen' hlength
    exact absurd ⟨hopen.trans hopen'.symm, hlength⟩ hkind

/-- Duplicates depend on the order through the last bulges of open polylines alone. -/
theorem geometryEqual_comm_iff (first second : Geometry K) :
    (geometryEqual first second tolerance ↔ geometryEqual second first tolerance) ↔
      LastBulgesAgree tolerance first second := by
  rcases first with g | g | g | g <;> rcases second with g' | g' | g' | g'
  case polyline.polyline => exact polyline_equal_comm_iff g g'
  case line.line =>
    refine iff_of_true ?_ trivial
    simp only [geometryEqual, pointDist_comm g'.start, pointDist_comm g'.stop]
    exact or_congr Iff.rfl and_comm
  case circle.circle =>
    refine iff_of_true ?_ trivial
    simp only [geometryEqual, pointDist_comm g'.center, abs_sub_comm g'.radius]
  case arc.arc =>
    refine iff_of_true ?_ trivial
    simp only [geometryEqual, pointDist_comm g'.center, abs_sub_comm g'.radius,
      abs_sub_comm g'.startAngleRadians, abs_sub_comm g'.endAngleRadians]
  all_goals exact iff_of_true Iff.rfl trivial

end

end

/-! ## Pairs of segments -/

section

variable {K : Type} [Field K] [LinearOrder K] [IsStrictOrderedRing K] [Hypot K] [Angles K]
  {tolerance : ToleranceProfile K} {a b : Segment K} {type : RelationType}

theorem connected_comm {first second : Geometry K} {tolerance : K} :
    connected first second tolerance ↔ connected second first tolerance := by
  have hswap : ∀ {first second : Geometry K}, connected first second tolerance →
      connected second first tolerance := by
    rintro first second ⟨left, hleft, right, hright, hle⟩
    exact ⟨right, hright, left, hleft, pointDist_comm left right ▸ hle⟩
  exact ⟨hswap, hswap⟩

omit [IsStrictOrderedRing K] [Angles K] in
theorem scaleOf_comm : scaleOf a b = scaleOf b a := by
  unfold scaleOf
  rw [max_comm (length a)]

variable [FloorRing K]

omit [Hypot K] [Angles K] in
/-- The difference of two angles is the same from either side, also where it is half a turn. -/
theorem floatMod_symm {d p : K} (hp : 0 < p) :
    |floatMod (d + p) (2 * p) - p| = |floatMod (-d + p) (2 * p) - p| := by
  have hpos : (0 : K) < 2 * p := by positivity
  have hmirror : (-d + p) / (2 * p) = -((d + p) / (2 * p)) + 1 := by
    field_simp
    ring
  unfold floatMod
  rw [hmirror, Int.floor_add_one, Int.floor_neg]
  by_cases hint : (d + p) / (2 * p) ∈ Set.range (Int.cast : ℤ → K)
  · obtain ⟨m, hm⟩ := hint
    have hd : d + p = 2 * p * m := by
      rw [hm]
      field_simp
    rw [← hm, Int.floor_intCast, Int.ceil_intCast]
    push_cast
    have hleft : d + p - 2 * p * m - p = -p := by linarith
    have hright : -d + p - 2 * p * (-m + 1) - p = -p := by linarith
    rw [hleft, hright]
  · rw [(Int.ceil_eq_floor_add_one_iff_notMem _).mpr hint]
    push_cast
    rw [← abs_neg]
    congr 1
    ring

omit [Hypot K] in
theorem angleDelta_comm : angleDelta a b = angleDelta b a := by
  unfold angleDelta
  dsimp only
  rw [floatMod_symm Angles.pi_pos, neg_sub]

/-- The two segments pass as parallel. -/
def Parallel (tolerance : ToleranceProfile K) (a b : Segment K) : Prop :=
  min (angleDelta a b) |Angles.pi - angleDelta a b| ≤ tolerance.angular

/-- What two segments yield that depends on their order: a contact, and whether they are
aligned. -/
def Verdict (tolerance : ToleranceProfile K) (a b : Segment K) (type : RelationType) : Prop :=
  segmentRelation a b tolerance.endpoint = some type ∨
    type = .aligned ∧ Parallel tolerance a b ∧ collinear a b tolerance.endpoint

/-- The tests for collinear segments and for the overlap of their projections come out the same in
both orders. -/
structure SameTests (tolerance : K) (a b : Segment K) : Prop where
  collinear_iff : collinear a b tolerance ↔ collinear b a tolerance
  overlaps_iff : collinear a b tolerance →
    (tolerance < axisOverlap a b ↔ tolerance < axisOverlap b a)
  touches_iff : collinear a b tolerance →
    (-tolerance ≤ axisOverlap a b ↔ -tolerance ≤ axisOverlap b a)

omit [IsStrictOrderedRing K] [FloorRing K] [Angles K] in
theorem SameTests.symm {tolerance : K} (h : SameTests tolerance a b) : SameTests tolerance b a where
  collinear_iff := h.collinear_iff.symm
  overlaps_iff hb := (h.overlaps_iff (h.collinear_iff.mpr hb)).symm
  touches_iff hb := (h.touches_iff (h.collinear_iff.mpr hb)).symm

omit [IsStrictOrderedRing K] [FloorRing K] [Angles K] in
theorem segmentRelation_comm {tolerance : K} (h : SameTests tolerance a b) :
    segmentRelation a b tolerance = segmentRelation b a tolerance := by
  unfold segmentRelation
  by_cases hcollinear : collinear a b tolerance
  · rw [if_pos hcollinear, if_pos (h.collinear_iff.mp hcollinear)]
    simp only [h.overlaps_iff hcollinear, h.touches_iff hcollinear]
  · rw [if_neg hcollinear, if_neg fun hb => hcollinear (h.collinear_iff.mpr hb)]
    have hends : (pointOnSegment b.1 a tolerance ∨ pointOnSegment b.2 a tolerance ∨
        pointOnSegment a.1 b tolerance ∨ pointOnSegment a.2 b tolerance) ↔
        (pointOnSegment a.1 b tolerance ∨ pointOnSegment a.2 b tolerance ∨
          pointOnSegment b.1 a tolerance ∨ pointOnSegment b.2 a tolerance) := by
      tauto
    simp only [hends, and_comm (a := cross a.1 a.2 b.1 * cross a.1 a.2 b.2 < 0)]

theorem verdict_comm (h : SameTests tolerance.endpoint a b) :
    Verdict tolerance a b type ↔ Verdict tolerance b a type := by
  unfold Verdict Parallel
  rw [segmentRelation_comm h, h.collinear_iff, angleDelta_comm]

omit [IsStrictOrderedRing K] in
theorem mem_segmentRelations : type ∈ (segmentRelations tolerance a b).map Prod.fst ↔
    Verdict tolerance a b type ∨ type = .parallel ∧ Parallel tolerance a b ∨
      type = .perpendicular ∧ |angleDelta a b - Angles.pi / 2| ≤ tolerance.angular := by
  unfold segmentRelations Verdict Parallel
  rw [List.map_append, List.map_append, List.mem_append, List.mem_append]
  have hcontact : type ∈ ((segmentRelation a b tolerance.endpoint).toList.map fun type =>
      (type, ([] : List (String × K)), tolerance.endpoint)).map Prod.fst ↔
      segmentRelation a b tolerance.endpoint = some type := by
    cases segmentRelation a b tolerance.endpoint <;> simp [eq_comm]
  rw [hcontact]
  by_cases hparallel : min (angleDelta a b) |Angles.pi - angleDelta a b| ≤ tolerance.angular
  · by_cases hcollinear : collinear a b tolerance.endpoint
    · by_cases hperpendicular : |angleDelta a b - Angles.pi / 2| ≤ tolerance.angular
      · simp [hparallel, hcollinear, hperpendicular]
        tauto
      · simp [hparallel, hcollinear, hperpendicular]
        tauto
    · by_cases hperpendicular : |angleDelta a b - Angles.pi / 2| ≤ tolerance.angular
      · simp [hparallel, hcollinear, hperpendicular]
        tauto
      · simp [hparallel, hcollinear, hperpendicular]
  · by_cases hperpendicular : |angleDelta a b - Angles.pi / 2| ≤ tolerance.angular
    · simp [hparallel, hperpendicular]
    · simp [hparallel, hperpendicular]

/-! ## Pairs of geometries -/

/-- The types of relation that a pair yields. -/
def relationTypes (first second : Geometry K) (tolerance : ToleranceProfile K) :
    List RelationType :=
  (pairRelations first second tolerance).map Prod.fst

/-- The types that the centers and circles yield. -/
def circleTypes (first second : Geometry K) (tolerance : ToleranceProfile K) :
    List RelationType :=
  (concentricRelations tolerance first second ++ circleRelations tolerance first second ++
    lineCircleRelations tolerance (straightSegments first) (fullCircle second) ++
    lineCircleRelations tolerance (straightSegments second) (fullCircle first)).map Prod.fst

/-- The types that the straight segments of a pair yield by tests that depend on their order, with
those of the circles. -/
def Yields (first second : Geometry K) (tolerance : ToleranceProfile K) (type : RelationType) :
    Prop :=
  (∃ a ∈ straightSegments first, ∃ b ∈ straightSegments second, Verdict tolerance a b type) ∨
    type ∈ circleTypes first second tolerance

variable {first second : Geometry K}

omit [Angles K] [FloorRing K] in
theorem circleTypes_comm : type ∈ circleTypes first second tolerance ↔
    type ∈ circleTypes second first tolerance := by
  have hconcentric : (concentricRelations tolerance first second).map Prod.fst =
      (concentricRelations tolerance second first).map Prod.fst := by
    unfold concentricRelations
    rcases centerRadius first with _ | p <;> rcases centerRadius second with _ | q
    · rfl
    · rfl
    · rfl
    · simp only [pointDist_comm q.1]
  have hcircle : (circleRelations tolerance first second).map Prod.fst =
      (circleRelations tolerance second first).map Prod.fst := by
    unfold circleRelations
    rcases fullCircle first with _ | p <;> rcases fullCircle second with _ | q
    · rfl
    · rfl
    · rfl
    · simp only [pointDist_comm q.1, add_comm q.2, abs_sub_comm q.2]
  simp only [circleTypes, List.map_append, List.mem_append, hconcentric, hcircle]
  tauto

omit [IsStrictOrderedRing K] in
theorem mem_relationTypes : type ∈ relationTypes first second tolerance ↔
    type = .duplicateGeometry ∧ geometryEqual first second tolerance.duplicate ∨
    type = .connectedEndpoint ∧ connected first second tolerance.endpoint ∨
    (∃ a ∈ straightSegments first, ∃ b ∈ straightSegments second,
      type = .parallel ∧ Parallel tolerance a b ∨
        type = .perpendicular ∧ |angleDelta a b - Angles.pi / 2| ≤ tolerance.angular) ∨
    Yields first second tolerance type := by
  have hduplicate : type ∈ (if geometryEqual first second tolerance.duplicate then
      [((.duplicateGeometry : RelationType), ([] : List (String × K)), tolerance.duplicate)]
      else []).map Prod.fst ↔
        type = .duplicateGeometry ∧ geometryEqual first second tolerance.duplicate := by
    split <;> simp [*]
  have hconnected : type ∈ (if connected first second tolerance.endpoint then
      [((.connectedEndpoint : RelationType), ([] : List (String × K)), tolerance.endpoint)]
      else []).map Prod.fst ↔
        type = .connectedEndpoint ∧ connected first second tolerance.endpoint := by
    split <;> simp [*]
  have hsegments : type ∈ ((straightSegments first).flatMap fun a =>
      (straightSegments second).flatMap fun b => segmentRelations tolerance a b).map Prod.fst ↔
      ∃ a ∈ straightSegments first, ∃ b ∈ straightSegments second,
        type ∈ (segmentRelations tolerance a b).map Prod.fst := by
    simp only [List.map_flatMap, List.mem_flatMap]
  have hsplit : type ∈ relationTypes first second tolerance ↔
      type = .duplicateGeometry ∧ geometryEqual first second tolerance.duplicate ∨
      type = .connectedEndpoint ∧ connected first second tolerance.endpoint ∨
      (∃ a ∈ straightSegments first, ∃ b ∈ straightSegments second,
        type ∈ (segmentRelations tolerance a b).map Prod.fst) ∨
      type ∈ circleTypes first second tolerance := by
    unfold relationTypes pairRelations circleTypes
    rw [← hduplicate, ← hconnected, ← hsegments]
    simp only [List.map_append, List.mem_append, or_assoc]
  rw [hsplit]
  constructor
  · rintro (h | h | ⟨a, ha, b, hb, h⟩ | h)
    · exact Or.inl h
    · exact Or.inr (Or.inl h)
    · rcases mem_segmentRelations.mp h with hverdict | hdirection
      · exact Or.inr (Or.inr (Or.inr (Or.inl ⟨a, ha, b, hb, hverdict⟩)))
      · exact Or.inr (Or.inr (Or.inl ⟨a, ha, b, hb, hdirection⟩))
    · exact Or.inr (Or.inr (Or.inr (Or.inr h)))
  · rintro (h | h | ⟨a, ha, b, hb, h⟩ | ⟨a, ha, b, hb, h⟩ | h)
    · exact Or.inl h
    · exact Or.inr (Or.inl h)
    · exact Or.inr (Or.inr (Or.inl ⟨a, ha, b, hb, mem_segmentRelations.mpr (Or.inr h)⟩))
    · exact Or.inr (Or.inr (Or.inl ⟨a, ha, b, hb, mem_segmentRelations.mpr (Or.inl h)⟩))
    · exact Or.inr (Or.inr (Or.inr h))

omit [IsStrictOrderedRing K] [FloorRing K] [Angles K] in
theorem segmentRelation_type {tolerance : K} (h : segmentRelation a b tolerance = some type) :
    type = .overlap ∨ type = .touch ∨ type = .intersect := by
  unfold segmentRelation at h
  split_ifs at h <;> simp_all

omit [IsStrictOrderedRing K] [FloorRing K] [Angles K] in
theorem circleTypes_type (h : type ∈ circleTypes first second tolerance) :
    type = .concentric ∨ type = .touch ∨ type = .intersect := by
  have hlines : ∀ {lines : List (Segment K)} {circle : Option (Point K × K)},
      type ∈ (lineCircleRelations tolerance lines circle).map Prod.fst →
        type = .touch ∨ type = .intersect := by
    intro lines circle hmem
    unfold lineCircleRelations at hmem
    rcases circle with _ | circle
    · simp at hmem
    · simp only [List.map_map, List.mem_map, List.mem_filterMap, Function.comp_apply] at hmem
      obtain ⟨found, ⟨line, -, hfound⟩, rfl⟩ := hmem
      unfold lineCircleRelation at hfound
      dsimp only at hfound
      split_ifs at hfound <;> simp_all
  simp only [circleTypes, List.map_append, List.mem_append] at h
  rcases h with ((h | h) | h) | h
  · unfold concentricRelations at h
    split at h
    · split_ifs at h <;> simp_all
    · simp at h
  · unfold circleRelations at h
    split at h
    · dsimp only at h
      split_ifs at h <;> simp_all
    · simp at h
  · exact Or.inr (hlines h)
  · exact Or.inr (hlines h)

omit [IsStrictOrderedRing K] in
/-- What the order may change is neither a duplicate nor a connection nor a direction. -/
theorem yields_type (h : Yields first second tolerance type) : type ≠ .duplicateGeometry ∧
    type ≠ .connectedEndpoint ∧ type ≠ .parallel ∧ type ≠ .perpendicular := by
  rcases h with ⟨a, -, b, -, hcontact | ⟨rfl, -⟩⟩ | hcircle
  · rcases segmentRelation_type hcontact with rfl | rfl | rfl <;> simp
  · simp
  · rcases circleTypes_type hcircle with rfl | rfl | rfl <;> simp

/-- The condition on the order of the pair. -/
structure OrderFree (first second : Geometry K) (tolerance : ToleranceProfile K) : Prop where
  lastBulges : LastBulgesAgree tolerance.duplicate first second
  segments : ∀ a ∈ straightSegments first, ∀ b ∈ straightSegments second,
    ¬ SameTests tolerance.endpoint a b → ∀ type,
      (Verdict tolerance a b type → Yields second first tolerance type) ∧
        (Verdict tolerance b a type → Yields first second tolerance type)

omit [IsStrictOrderedRing K] in
theorem duplicate_mem_iff : .duplicateGeometry ∈ relationTypes first second tolerance ↔
    geometryEqual first second tolerance.duplicate := by
  rw [mem_relationTypes]
  constructor
  · rintro (⟨-, h⟩ | ⟨h, -⟩ | ⟨_, -, _, -, ⟨h, -⟩ | ⟨h, -⟩⟩ | h)
    · exact h
    · exact absurd h (by simp)
    · exact absurd h (by simp)
    · exact absurd h (by simp)
    · exact absurd rfl (yields_type h).1
  · exact fun h => Or.inl ⟨rfl, h⟩

omit [IsStrictOrderedRing K] in
/-- A type of contact or alignment is found by the tests of contact and alignment only. -/
theorem yields_of_mem (hmem : type ∈ relationTypes first second tolerance)
    (hverdict : Verdict tolerance a b type) : Yields first second tolerance type := by
  have hkind : type ≠ .duplicateGeometry ∧ type ≠ .connectedEndpoint ∧ type ≠ .parallel ∧
      type ≠ .perpendicular := by
    rcases hverdict with hcontact | ⟨rfl, -⟩
    · rcases segmentRelation_type hcontact with rfl | rfl | rfl <;> simp
    · simp
  obtain ⟨hduplicate, hconnected, hparallel, hperpendicular⟩ := hkind
  rcases mem_relationTypes.mp hmem with ⟨h, -⟩ | ⟨h, -⟩ | ⟨_, -, _, -, ⟨h, -⟩ | ⟨h, -⟩⟩ | h
  · exact absurd h hduplicate
  · exact absurd h hconnected
  · exact absurd h hparallel
  · exact absurd h hperpendicular
  · exact h

theorem OrderFree.symm (h : OrderFree first second tolerance) :
    OrderFree second first tolerance where
  lastBulges := by
    rw [← geometryEqual_comm_iff]
    exact (geometryEqual_comm_iff first second |>.mpr h.lastBulges).symm
  segments b hb a ha htests type := by
    have htests' : ¬ SameTests tolerance.endpoint a b := fun hsame => htests hsame.symm
    exact (h.segments a ha b hb htests' type).symm

theorem OrderFree.mem (h : OrderFree first second tolerance)
    (hmem : type ∈ relationTypes first second tolerance) :
    type ∈ relationTypes second first tolerance := by
  rw [mem_relationTypes] at hmem ⊢
  rcases hmem with ⟨rfl, hequal⟩ | ⟨rfl, hconnected⟩ | ⟨a, ha, b, hb, hdirection⟩ | hfound
  · exact Or.inl ⟨rfl, (geometryEqual_comm_iff first second |>.mpr h.lastBulges).mp hequal⟩
  · exact Or.inr (Or.inl ⟨rfl, connected_comm.mp hconnected⟩)
  · refine Or.inr (Or.inr (Or.inl ⟨b, hb, a, ha, ?_⟩))
    unfold Parallel at hdirection ⊢
    rwa [angleDelta_comm]
  · refine Or.inr (Or.inr (Or.inr ?_))
    rcases hfound with ⟨a, ha, b, hb, hverdict⟩ | hcircle
    · by_cases htests : SameTests tolerance.endpoint a b
      · exact Or.inl ⟨b, hb, a, ha, (verdict_comm htests).mp hverdict⟩
      -- Another pair of segments or a circle makes up for this one.
      · exact (h.segments a ha b hb htests type).1 hverdict
    · exact Or.inr (circleTypes_comm.mp hcircle)

theorem pairRelations_comm_iff : (∀ type, type ∈ relationTypes first second tolerance ↔
    type ∈ relationTypes second first tolerance) ↔ OrderFree first second tolerance := by
  constructor
  · intro hsame
    refine ⟨?_, fun a ha b hb _ type => ⟨fun hverdict => ?_, fun hverdict => ?_⟩⟩
    · rw [← geometryEqual_comm_iff, ← duplicate_mem_iff, ← duplicate_mem_iff]
      exact hsame _
    · have hmem : type ∈ relationTypes first second tolerance :=
        mem_relationTypes.mpr (Or.inr (Or.inr (Or.inr (Or.inl ⟨a, ha, b, hb, hverdict⟩))))
      exact yields_of_mem ((hsame type).mp hmem) hverdict
    · have hmem : type ∈ relationTypes second first tolerance :=
        mem_relationTypes.mpr (Or.inr (Or.inr (Or.inr (Or.inl ⟨b, hb, a, ha, hverdict⟩))))
      exact yields_of_mem ((hsame type).mpr hmem) hverdict
  · exact fun h type => ⟨h.mem, h.symm.mem⟩

end

theorem pointOnSegment_near {p : Point ℝ} {s : Segment ℝ} {tolerance : ℝ}
    (h : pointOnSegment p s tolerance) : ∃ t, pointDist p (pointAt s t) ≤ tolerance := by
  unfold pointOnSegment pointSegmentDistance at h
  split_ifs at h
  · refine ⟨0, ?_⟩
    rw [pointAt_zero]
    exact h.2
  · exact ⟨foot p s, h.2⟩

/-- From the long segment the ends of the short one are far away. -/
theorem segmentRelation_long_short :
    segmentRelation longSegment shortSegment (1 / 10 ^ 6) = none := by
  have hfar : ∀ {p : Point ℝ} {s : Segment ℝ}, (∀ t, 1 ≤ distSq p (pointAt s t)) →
      ¬ pointOnSegment p s (1 / 10 ^ 6) := by
    intro p s hone hon
    obtain ⟨t, ht⟩ := pointOnSegment_near hon
    rw [pointDist_le_iff (by norm_num)] at ht
    have := hone t
    norm_num at ht
    linarith
  have hshort : length shortSegment ≤ 10 := by
    rw [length, pointDist_le_iff (by norm_num)]
    norm_num [distSq, shortSegment]
  have hlong : length longSegment ≤ 10 := by
    rw [length, pointDist_le_iff (by norm_num)]
    norm_num [distSq, longSegment]
  have hscale : scaleOf longSegment shortSegment ≤ 10 :=
    max_le (max_le hlong hshort) (by norm_num)
  have hcollinear : ¬ collinear longSegment shortSegment (1 / 10 ^ 6) := by
    rintro ⟨hle, -⟩
    generalize scaleOf longSegment shortSegment = scale at hscale hle
    norm_num [cross, shortSegment, longSegment] at hle
    linarith
  rw [segmentRelation, if_neg hcollinear, if_neg, if_neg]
  · rintro (h | h | h | h)
    all_goals
      refine hfar (fun t => ?_) h
      norm_num [distSq, pointAt, shortSegment, longSegment]
      nlinarith [sq_nonneg (5 - t * 10), sq_nonneg (5 + 1 / 10000000 - t * 10)]
  · rintro ⟨h, -⟩
    norm_num [cross, shortSegment, longSegment] at h

end AutocadMcp.Scene
