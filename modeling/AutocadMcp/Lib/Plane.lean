import Mathlib.Algebra.Order.Field.Basic
import Mathlib.Tactic.FieldSimp
import Mathlib.Tactic.Linarith
import Mathlib.Tactic.LinearCombination
import Mathlib.Tactic.Positivity
import Mathlib.Tactic.Ring

/-!
# Points and segments of the plane

Segments over an ordered field. A point is inside a polygon by the parity of the edges
that a ray passes; the parity stays the same along a segment that meets no edge. Two
segments that do not cross are nearest to each other at an end of one of them.
-/

namespace AutocadMcp.Plane

abbrev Point (K : Type) := K × K

abbrev Segment (K : Type) := Point K × Point K

section

variable {K : Type} [Field K]

/-- The cross product of `stop - start` and `p - start`. -/
def cross (start stop p : Point K) : K :=
  (stop.1 - start.1) * (p.2 - start.2) - (stop.2 - start.2) * (p.1 - start.1)

/-- The point of the line of a segment at a parameter. -/
def pointAt (s : Segment K) (t : K) : Point K :=
  (s.1.1 + t * (s.2.1 - s.1.1), s.1.2 + t * (s.2.2 - s.1.2))

@[simp] theorem pointAt_zero (s : Segment K) : pointAt s 0 = s.1 := by
  simp [pointAt]

@[simp] theorem pointAt_one (s : Segment K) : pointAt s 1 = s.2 := by
  simp [pointAt]

theorem cross_pointAt (p q : Point K) (s : Segment K) (t : K) :
    cross p q (pointAt s t) = (1 - t) * cross p q s.1 + t * cross p q s.2 := by
  simp only [cross, pointAt]
  ring

/-- How far a point is to the right of the line upwards from `p` to `q`. -/
def side (p q v : Point K) : K := -cross p q v

theorem side_pointAt (p q : Point K) (s : Segment K) (t : K) :
    side p q (pointAt s t) = (1 - t) * side p q s.1 + t * side p q s.2 := by
  rw [side, cross_pointAt, side, side]
  ring

end

section

variable {K : Type} [Field K] [LinearOrder K]

def On (s : Segment K) (p : Point K) : Prop := ∃ t, 0 ≤ t ∧ t ≤ 1 ∧ pointAt s t = p

/-- The segments have a point in common. -/
def Meet (s s' : Segment K) : Prop := ∃ p, On s p ∧ On s' p

theorem on_pointAt {s : Segment K} {t : K} (h0 : 0 ≤ t) (h1 : t ≤ 1) : On s (pointAt s t) :=
  ⟨t, h0, h1, rfl⟩

variable [IsStrictOrderedRing K]

theorem on_start (s : Segment K) : On s s.1 := ⟨0, le_rfl, zero_le_one, pointAt_zero s⟩

theorem on_stop (s : Segment K) : On s s.2 := ⟨1, zero_le_one, le_rfl, pointAt_one s⟩

/-- A point between two points of a segment is on it. -/
theorem on_between {s : Segment K} {p q r : Point K} (hp : On s p) (hq : On s q)
    (hr : On (p, q) r) : On s r := by
  obtain ⟨t, ht0, ht1, rfl⟩ := hp
  obtain ⟨u, hu0, hu1, rfl⟩ := hq
  obtain ⟨w, hw0, hw1, rfl⟩ := hr
  refine ⟨t + w * (u - t), ?_, ?_, ?_⟩
  · nlinarith
  · nlinarith
  · ext <;> simp only [pointAt] <;> ring

/-- Segments with the ends of one on one side of the line of the other. -/
theorem not_meet_of_side {s s' : Segment K}
    (h : 0 < cross s.1 s.2 s'.1 * cross s.1 s.2 s'.2) : ¬ Meet s s' := by
  rintro ⟨p, ⟨t, -, -, rfl⟩, u, hu0, hu1, heq⟩
  have hzero : cross s.1 s.2 (pointAt s t) = 0 := by
    simp only [cross, pointAt]
    ring
  rw [← heq, cross_pointAt] at hzero
  rcases pos_and_pos_or_neg_and_neg_of_mul_pos h with ⟨h1, h2⟩ | ⟨h1, h2⟩
  · rcases eq_or_lt_of_le hu0 with rfl | hpos
    · linarith
    · nlinarith
  · rcases eq_or_lt_of_le hu0 with rfl | hpos
    · linarith
    · nlinarith

/-- Two edges at a corner have no other point in common. -/
theorem eq_corner {a b c p : Point K} (h : cross a b c ≠ 0) (hp : On (a, b) p)
    (hp' : On (b, c) p) : p = b := by
  obtain ⟨t, -, -, rfl⟩ := hp
  obtain ⟨u, -, -, heq⟩ := hp'
  have hzero : u * cross a b c = 0 := by
    have hline : cross a b (pointAt (a, b) t) = 0 := by
      simp only [cross, pointAt]
      ring
    rw [← heq, cross_pointAt] at hline
    have hcorner : cross a b b = 0 := by
      simp only [cross]
      ring
    simpa [hcorner] using hline
  rw [← heq, (mul_eq_zero.mp hzero).resolve_right h, pointAt_zero]

/-! ## The parity of a ray -/

/-- The edge straddles the height of the point and passes it on the right. -/
def passes (p previous current : Point K) : Bool :=
  (decide (p.2 < current.2) != decide (p.2 < previous.2)) &&
    decide (p.1 < (previous.1 - current.1) * (p.2 - current.2) / (previous.2 - current.2) +
      current.1)

/-- The parity of the edges from a vertex along a list of vertices that pass the point. -/
def parityFrom (p : Point K) : Point K → List (Point K) → Bool
  | _, [] => false
  | previous, current :: rest => xor (passes p previous current) (parityFrom p current rest)

/-- The edges from a vertex along a list of vertices. -/
def edgesFrom : Point K → List (Point K) → List (Segment K)
  | _, [] => []
  | previous, current :: rest => (previous, current) :: edgesFrom current rest

/-- The point where a straddling edge has the height `y`. -/
def levelPoint (previous current : Point K) (y : K) : Point K :=
  ((previous.1 - current.1) * (y - current.2) / (previous.2 - current.2) + current.1, y)

theorem on_levelPoint {u v : Point K} {y : K} (hne : u.2 ≠ v.2)
    (hlow : min u.2 v.2 ≤ y) (hhigh : y ≤ max u.2 v.2) : On (u, v) (levelPoint u v y) := by
  have hd : v.2 - u.2 ≠ 0 := sub_ne_zero.mpr hne.symm
  have hd' : u.2 - v.2 ≠ 0 := sub_ne_zero.mpr hne
  have hpoint : pointAt (u, v) ((y - u.2) / (v.2 - u.2)) = levelPoint u v y := by
    ext
    · simp only [pointAt, levelPoint]
      field_simp
      ring
    · simp only [pointAt, levelPoint]
      field_simp
      ring
  rcases lt_or_gt_of_ne hne with hlt | hgt
  · rw [min_eq_left hlt.le] at hlow
    rw [max_eq_right hlt.le] at hhigh
    refine ⟨_, ?_, ?_, hpoint⟩
    · exact div_nonneg (by linarith) (by linarith)
    · rw [div_le_one (by linarith)]
      linarith
  · rw [min_eq_right hgt.le] at hlow
    rw [max_eq_left hgt.le] at hhigh
    refine ⟨_, ?_, ?_, hpoint⟩
    · exact div_nonneg_of_nonpos (by linarith) (by linarith)
    · rw [div_le_one_of_neg (by linarith)]
      linarith

/-- On the line of a rising segment and between its heights is on the segment. -/
theorem on_of_side_eq_zero {p q z : Point K} (hpq : p.2 < q.2) (hlow : p.2 ≤ z.2)
    (hhigh : z.2 ≤ q.2) (hside : side p q z = 0) : On (p, q) z := by
  have hd : 0 < q.2 - p.2 := sub_pos.mpr hpq
  refine ⟨(z.2 - p.2) / (q.2 - p.2), ?_, ?_, ?_⟩
  · exact div_nonneg (sub_nonneg.mpr hlow) hd.le
  · rw [div_le_one hd]
    linarith
  · have hz : (z.2 - p.2) * (q.1 - p.1) = (q.2 - p.2) * (z.1 - p.1) := by
      simp only [side, cross] at hside
      linear_combination -hside
    ext
    · simp only [pointAt]
      rw [div_mul_eq_mul_div, hz, mul_div_cancel_left₀ _ hd.ne']
      ring
    · simp only [pointAt]
      rw [div_mul_cancel₀ _ hd.ne']
      ring

/-- A straddling edge has a point on the height. -/
theorem on_levelPoint_of_straddles {u v : Point K} {y : K}
    (h : (decide (y < v.2) != decide (y < u.2)) = true) : On (u, v) (levelPoint u v y) := by
  have hcases : u.2 ≤ y ∧ y < v.2 ∨ v.2 ≤ y ∧ y < u.2 := by
    by_cases hv : y < v.2 <;> by_cases hu : y < u.2 <;> simp [hv, hu] at h
    · exact Or.inl ⟨not_lt.mp hu, hv⟩
    · exact Or.inr ⟨not_lt.mp hv, hu⟩
  rcases hcases with ⟨hle, hlt⟩ | ⟨hle, hlt⟩
  · exact on_levelPoint (hle.trans_lt hlt).ne (min_le_of_left_le hle) (le_max_of_le_right hlt.le)
  · exact on_levelPoint (hle.trans_lt hlt).ne' (min_le_of_right_le hle) (le_max_of_le_left hlt.le)

section

variable {p q u v : Point K}

/-- The part of an edge between the heights of a segment that it does not meet is on one
side of it. -/
theorem side_const (hpq : p.2 < q.2) (hfree : ¬ Meet (u, v) (p, q)) {z w : Point K}
    (hz : On (u, v) z) (hw : On (u, v) w) (hzlow : p.2 ≤ z.2) (hzhigh : z.2 ≤ q.2)
    (hwlow : p.2 ≤ w.2) (hwhigh : w.2 ≤ q.2) : 0 < side p q z ↔ 0 < side p q w := by
  -- a change of sign would put a point of the edge on the segment
  have hsame : ∀ {z w : Point K}, On (u, v) z → On (u, v) w → p.2 ≤ z.2 → z.2 ≤ q.2 →
      p.2 ≤ w.2 → w.2 ≤ q.2 → 0 < side p q z → 0 < side p q w := by
    intro z w hz hw hzlow hzhigh hwlow hwhigh hpos
    by_contra hneg
    have hden : 0 < side p q z - side p q w := by linarith
    have ht0 : 0 ≤ side p q z / (side p q z - side p q w) := div_nonneg hpos.le hden.le
    have ht1 : side p q z / (side p q z - side p q w) ≤ 1 := by
      rw [div_le_one hden]
      linarith
    generalize ht : side p q z / (side p q z - side p q w) = t at ht0 ht1
    have hzero : side p q (pointAt (z, w) t) = 0 := by
      rw [side_pointAt, ← ht]
      field_simp
      ring
    have hlow : p.2 ≤ (pointAt (z, w) t).2 := by
      simp only [pointAt]
      nlinarith
    have hhigh : (pointAt (z, w) t).2 ≤ q.2 := by
      simp only [pointAt]
      nlinarith
    exact hfree ⟨pointAt (z, w) t, on_between hz hw (on_pointAt ht0 ht1),
      on_of_side_eq_zero hpq hlow hhigh hzero⟩
  exact ⟨hsame hz hw hzlow hzhigh hwlow hwhigh, hsame hw hz hwlow hwhigh hzlow hzhigh⟩

theorem side_levelPoint_start (hpq : p.2 < q.2) :
    0 < side p q (levelPoint u v p.2) ↔ p.1 < (levelPoint u v p.2).1 := by
  have hside : side p q (levelPoint u v p.2) = (q.2 - p.2) * ((levelPoint u v p.2).1 - p.1) := by
    simp only [side, cross, levelPoint]
    ring
  rw [hside, mul_pos_iff_of_pos_left (sub_pos.mpr hpq), sub_pos]

theorem side_levelPoint_stop (hpq : p.2 < q.2) :
    0 < side p q (levelPoint u v q.2) ↔ q.1 < (levelPoint u v q.2).1 := by
  have hside : side p q (levelPoint u v q.2) = (q.2 - p.2) * ((levelPoint u v q.2).1 - q.1) := by
    simp only [side, cross, levelPoint]
    ring
  rw [hside, mul_pos_iff_of_pos_left (sub_pos.mpr hpq), sub_pos]

variable (p q) in
/-- The vertex is between the heights of a rising segment and to the right of it. -/
def beside (v : Point K) : Bool :=
  decide (p.2 < v.2) && decide (v.2 ≤ q.2) && decide (0 < side p q v)

/-- The Boolean side of `passes_xor`: which heights the ends `u` and `v` are above, and the sides
of the ends and of the points on the two heights. -/
theorem xor_of_sides {pu pv qu qv su sv sp sq : Bool} (hu : qu = true → pu = true)
    (hv : qv = true → pv = true) (hpu : (pv != pu) = true → (pu && !qu) = true → sp = su)
    (hpv : (pv != pu) = true → (pv && !qv) = true → sp = sv)
    (hpq : (pv != pu) = true → (qv != qu) = true → sp = sq)
    (hqu : (qv != qu) = true → (pu && !qu) = true → sq = su)
    (hqv : (qv != qu) = true → (pv && !qv) = true → sq = sv)
    (huv : (pu && !qu) = true → (pv && !qv) = true → su = sv) :
    xor ((pv != pu) && sp) ((qv != qu) && sq) = xor (pu && !qu && su) (pv && !qv && sv) := by
  grind

/-- An edge off the segment passes both of its ends, or neither, up to the vertices beside it. -/
theorem passes_xor (hpq : p.2 < q.2) (hfree : ¬ Meet (u, v) (p, q)) :
    xor (passes p u v) (passes q u v) = xor (beside p q u) (beside p q v) := by
  have hlow : passes p u v = ((decide (p.2 < v.2) != decide (p.2 < u.2)) &&
      decide (0 < side p q (levelPoint u v p.2))) := by
    rw [decide_eq_decide.mpr (side_levelPoint_start hpq)]
    rfl
  have hhigh : passes q u v = ((decide (q.2 < v.2) != decide (q.2 < u.2)) &&
      decide (0 < side p q (levelPoint u v q.2))) := by
    rw [decide_eq_decide.mpr (side_levelPoint_stop hpq)]
    rfl
  have hconst : ∀ {z w : Point K}, On (u, v) z → On (u, v) w → p.2 ≤ z.2 → z.2 ≤ q.2 →
      p.2 ≤ w.2 → w.2 ≤ q.2 → decide (0 < side p q z) = decide (0 < side p q w) :=
    fun hz hw hz1 hz2 hw1 hw2 =>
      decide_eq_decide.mpr (side_const hpq hfree hz hw hz1 hz2 hw1 hw2)
  have hu : On (u, v) u := on_start (u, v)
  have hv : On (u, v) v := on_stop (u, v)
  have hlevel : ∀ y : K, (decide (y < v.2) != decide (y < u.2)) = true →
      On (u, v) (levelPoint u v y) := fun _ => on_levelPoint_of_straddles
  have hmid : ∀ {w : Point K}, (decide (p.2 < w.2) && !decide (q.2 < w.2)) = true →
      p.2 ≤ w.2 ∧ w.2 ≤ q.2 := by
    intro w hw
    simp only [Bool.and_eq_true, Bool.not_eq_true', decide_eq_true_eq, decide_eq_false_iff_not,
      not_lt] at hw
    exact ⟨hw.1.le, hw.2⟩
  have hbeside : ∀ w, beside p q w =
      (decide (p.2 < w.2) && !decide (q.2 < w.2) && decide (0 < side p q w)) := by
    intro w
    rw [beside, ← decide_not, decide_eq_decide.mpr not_lt]
  rw [hlow, hhigh, hbeside, hbeside]
  apply xor_of_sides
  · simpa using hpq.trans
  · simpa using hpq.trans
  · exact fun hs hm => hconst (hlevel _ hs) hu le_rfl hpq.le (hmid hm).1 (hmid hm).2
  · exact fun hs hm => hconst (hlevel _ hs) hv le_rfl hpq.le (hmid hm).1 (hmid hm).2
  · exact fun hs hs' => hconst (hlevel _ hs) (hlevel _ hs') le_rfl hpq.le hpq.le le_rfl
  · exact fun hs hm => hconst (hlevel _ hs) hu hpq.le le_rfl (hmid hm).1 (hmid hm).2
  · exact fun hs hm => hconst (hlevel _ hs) hv hpq.le le_rfl (hmid hm).1 (hmid hm).2
  · exact fun hm hm' => hconst hu hv (hmid hm).1 (hmid hm).2 (hmid hm').1 (hmid hm').2

end

/-- On one height, an edge off the segment passes both of its ends or neither. -/
theorem passes_level {p q u v : Point K} (hpq : p.2 = q.2) (hle : p.1 ≤ q.1)
    (hfree : ¬ Meet (u, v) (p, q)) : passes p u v = passes q u v := by
  obtain ⟨x, y⟩ := p
  obtain ⟨x', y'⟩ := q
  obtain rfl : y = y' := hpq
  have hx : x ≤ x' := hle
  by_cases hstraddle : (decide (y < v.2) != decide (y < u.2)) = true
  · have hon : On (u, v) (levelPoint u v y) := on_levelPoint_of_straddles hstraddle
    have hoff : ¬ (x < (levelPoint u v y).1 ∧ (levelPoint u v y).1 ≤ x') := by
      rintro ⟨hleft, hright⟩
      have hd : 0 < x' - x := by linarith
      refine hfree ⟨_, hon, ((levelPoint u v y).1 - x) / (x' - x), ?_, ?_, ?_⟩
      · exact div_nonneg (by linarith) hd.le
      · rw [div_le_one hd]
        linarith
      · ext
        · simp only [pointAt]
          rw [div_mul_cancel₀ _ hd.ne']
          ring
        · simp [pointAt, levelPoint]
    have hsame : decide (x < (levelPoint u v y).1) = decide (x' < (levelPoint u v y).1) := by
      rw [decide_eq_decide]
      constructor
      · intro h
        by_contra hle
        exact hoff ⟨h, not_lt.mp hle⟩
      · exact hx.trans_lt
    show ((_ != _) && decide (x < (levelPoint u v y).1)) =
      ((_ != _) && decide (x' < (levelPoint u v y).1))
    rw [hsame]
  · simp only [passes, Bool.not_eq_true] at hstraddle ⊢
    rw [hstraddle, Bool.false_and, Bool.false_and]

/-! ## Polygons -/

/-- The parity of a closed polygon: the edges go from the last vertex around. -/
def inside (p : Point K) (polygon : List (Point K)) : Bool :=
  match polygon.getLast? with
  | some last => parityFrom p last polygon
  | none => false

def edges (polygon : List (Point K)) : List (Segment K) :=
  match polygon.getLast? with
  | some last => edgesFrom last polygon
  | none => []

omit [IsStrictOrderedRing K] in
theorem parityFrom_xor {p q : Point K} {g : Point K → Bool}
    {previous : Point K} {vertices : List (Point K)}
    (h : ∀ e ∈ edgesFrom previous vertices,
      xor (passes p e.1 e.2) (passes q e.1 e.2) = xor (g e.1) (g e.2)) :
    xor (parityFrom p previous vertices) (parityFrom q previous vertices) =
      xor (g previous) (g (vertices.getLastD previous)) := by
  induction vertices generalizing previous with
  | nil => simp [parityFrom]
  | cons v vs ih =>
      rw [edgesFrom, List.forall_mem_cons] at h
      have hxor : ∀ a b x y g₁ g₂ g₃ : Bool, xor a b = xor g₁ g₂ → xor x y = xor g₂ g₃ →
          xor (xor a x) (xor b y) = xor g₁ g₃ := by decide
      rw [List.getLastD_cons]
      exact hxor _ _ _ _ _ _ _ h.1 (ih h.2)

theorem on_swap {s : Segment K} {p : Point K} : On (s.2, s.1) p ↔ On s p := by
  have hhalf : ∀ {s : Segment K}, On s p → On (s.2, s.1) p := by
    rintro s ⟨t, ht0, ht1, rfl⟩
    refine ⟨1 - t, sub_nonneg.mpr ht1, sub_le_self _ ht0, ?_⟩
    ext <;> simp only [pointAt] <;> ring
  exact ⟨fun h => hhalf h, fun h => hhalf h⟩

theorem meet_swap {e s : Segment K} : Meet e (s.2, s.1) ↔ Meet e s := by
  simp only [Meet, on_swap]

/-- A segment that meets no edge of a polygon has both ends inside, or neither. -/
theorem inside_eq_of_free {p q : Point K} {polygon : List (Point K)}
    (h : ∀ e ∈ edges polygon, ¬ Meet e (p, q)) : inside p polygon = inside q polygon := by
  cases hlast : polygon.getLast? with
  | none => rw [inside, inside, hlast]
  | some last =>
      have hend : polygon.getLastD last = last := by
        rw [List.getLastD_eq_getLast?, hlast]
        rfl
      -- around the polygon the vertices beside the segment cancel
      have hrising : ∀ {p q : Point K}, p.2 < q.2 → (∀ e ∈ edges polygon, ¬ Meet e (p, q)) →
          inside p polygon = inside q polygon := by
        intro p q hpq h
        simp only [edges, hlast] at h
        have hxor := parityFrom_xor (g := beside p q) fun e he => passes_xor hpq (h e he)
        rw [hend, Bool.xor_self] at hxor
        simpa [inside, hlast] using hxor
      have hlevel : ∀ {p q : Point K}, p.2 = q.2 → p.1 ≤ q.1 →
          (∀ e ∈ edges polygon, ¬ Meet e (p, q)) → inside p polygon = inside q polygon := by
        intro p q hpq hle h
        simp only [edges, hlast] at h
        have hxor := parityFrom_xor (p := p) (q := q) (g := fun _ => false) fun e he => by
          rw [passes_level hpq hle (h e he), Bool.xor_self, Bool.xor_self]
        simpa [inside, hlast] using hxor
      have h' : ∀ e ∈ edges polygon, ¬ Meet e (q, p) := fun e he hmeet =>
        h e he (meet_swap.mp hmeet)
      rcases lt_trichotomy p.2 q.2 with hlt | heq | hgt
      · exact hrising hlt h
      · rcases le_total p.1 q.1 with hle | hle
        · exact hlevel heq hle h
        · exact (hlevel heq.symm hle h').symm
      · exact (hrising hgt h').symm

end

end AutocadMcp.Plane
