import AutocadMcp.Lib.Plane
import Mathlib.Analysis.Real.Sqrt

/-!
# Distances in the plane

The nearest point of a segment, and segments that come within a distance of each other:
they cross, or an end of one of them is within the distance of the other.
-/

namespace AutocadMcp.Plane

/-- The length of a vector, the root of the sum of the squares. -/
class Hypot (K : Type) [Field K] [LinearOrder K] where
  hypot : K → K → K
  hypot_nonneg (x y : K) : 0 ≤ hypot x y
  hypot_sq (x y : K) : hypot x y ^ 2 = x ^ 2 + y ^ 2

noncomputable instance : Hypot ℝ where
  hypot x y := √(x ^ 2 + y ^ 2)
  hypot_nonneg _ _ := Real.sqrt_nonneg _
  hypot_sq _ _ := Real.sq_sqrt (by positivity)

section

variable {K : Type} [Field K] [LinearOrder K]

def distSq (p q : Point K) : K := (p.1 - q.1) ^ 2 + (p.2 - q.2) ^ 2

variable [Hypot K]

def pointDist (p q : Point K) : K := Hypot.hypot (p.1 - q.1) (p.2 - q.2)

theorem pointDist_nonneg (p q : Point K) : 0 ≤ pointDist p q := Hypot.hypot_nonneg _ _

theorem pointDist_sq (p q : Point K) : pointDist p q ^ 2 = distSq p q := Hypot.hypot_sq _ _

end

section

variable {K : Type} [Field K] [LinearOrder K] [IsStrictOrderedRing K]

theorem distSq_nonneg (p q : Point K) : 0 ≤ distSq p q := by
  unfold distSq
  positivity

section

variable [Hypot K] {p q p' q' : Point K} {t : K}

theorem pointDist_le_iff (ht : 0 ≤ t) : pointDist p q ≤ t ↔ distSq p q ≤ t ^ 2 := by
  rw [← pointDist_sq, pow_le_pow_iff_left₀ (pointDist_nonneg p q) ht two_ne_zero]

theorem le_pointDist_iff (ht : 0 ≤ t) : t ≤ pointDist p q ↔ t ^ 2 ≤ distSq p q := by
  rw [← pointDist_sq, pow_le_pow_iff_left₀ ht (pointDist_nonneg p q) two_ne_zero]

theorem pointDist_le_pointDist_iff : pointDist p q ≤ pointDist p' q' ↔ distSq p q ≤ distSq p' q' := by
  rw [pointDist_le_iff (pointDist_nonneg p' q'), pointDist_sq]

theorem pointDist_comm (p q : Point K) : pointDist p q = pointDist q p := by
  have hsq : ∀ p q : Point K, distSq p q ≤ distSq q p := fun p q => by
    unfold distSq
    exact le_of_eq (by ring)
  exact le_antisymm (pointDist_le_pointDist_iff.mpr (hsq p q)) (pointDist_le_pointDist_iff.mpr (hsq q p))

theorem pointDist_self (p : Point K) : pointDist p p = 0 := by
  refine le_antisymm ((pointDist_le_iff le_rfl).mpr ?_) (pointDist_nonneg p p)
  simp [distSq]

end

/-! ## The nearest point of a segment -/

def lengthSq (s : Segment K) : K := distSq s.2 s.1

/-- The parameter of the foot of the perpendicular. -/
def foot (p : Point K) (s : Segment K) : K :=
  ((p.1 - s.1.1) * (s.2.1 - s.1.1) + (p.2 - s.1.2) * (s.2.2 - s.1.2)) / lengthSq s

/-- The parameter of the point of a segment that is nearest. -/
def nearest (p : Point K) (s : Segment K) : K :=
  if lengthSq s = 0 then 0 else max 0 (min 1 (foot p s))

omit [IsStrictOrderedRing K] in
theorem nearest_range (p : Point K) (s : Segment K) [ZeroLEOneClass K] :
    0 ≤ nearest p s ∧ nearest p s ≤ 1 := by
  unfold nearest
  split
  · exact ⟨le_rfl, zero_le_one⟩
  · exact ⟨le_max_left _ _, max_le zero_le_one (min_le_left _ _)⟩

/-- The distance to a point of the line grows with the distance from the foot. -/
theorem distSq_pointAt (p : Point K) {s : Segment K} (hs : lengthSq s ≠ 0) (t : K) :
    distSq p (pointAt s t) =
      distSq p (pointAt s (foot p s)) + lengthSq s * (t - foot p s) ^ 2 := by
  have hfoot : foot p s * lengthSq s =
      (p.1 - s.1.1) * (s.2.1 - s.1.1) + (p.2 - s.1.2) * (s.2.2 - s.1.2) :=
    div_mul_cancel₀ _ hs
  generalize foot p s = f at hfoot ⊢
  simp only [distSq, pointAt, lengthSq] at hfoot ⊢
  linear_combination 2 * (t - f) * hfoot

theorem eq_of_lengthSq_eq_zero {s : Segment K} (hs : lengthSq s = 0) : s.2 = s.1 := by
  simp only [lengthSq, distSq] at hs
  have hx : (s.2.1 - s.1.1) ^ 2 = 0 := by nlinarith [sq_nonneg (s.2.1 - s.1.1), sq_nonneg (s.2.2 - s.1.2)]
  have hy : (s.2.2 - s.1.2) ^ 2 = 0 := by nlinarith [sq_nonneg (s.2.1 - s.1.1), sq_nonneg (s.2.2 - s.1.2)]
  exact Prod.ext (sub_eq_zero.mp (pow_eq_zero_iff two_ne_zero |>.mp hx))
    (sub_eq_zero.mp (pow_eq_zero_iff two_ne_zero |>.mp hy))

theorem pointAt_of_lengthSq_eq_zero {s : Segment K} (hs : lengthSq s = 0) (t : K) :
    pointAt s t = s.1 := by
  have heq := eq_of_lengthSq_eq_zero hs
  ext <;> simp [pointAt, heq]

theorem nearest_le (p : Point K) (s : Segment K) {t : K} (h0 : 0 ≤ t) (h1 : t ≤ 1) :
    distSq p (pointAt s (nearest p s)) ≤ distSq p (pointAt s t) := by
  by_cases hs : lengthSq s = 0
  · rw [pointAt_of_lengthSq_eq_zero hs, pointAt_of_lengthSq_eq_zero hs]
  · have hclamp : (nearest p s - foot p s) ^ 2 ≤ (t - foot p s) ^ 2 := by
      rw [nearest, if_neg hs]
      rw [sq_le_sq]
      rcases le_total (foot p s) 0 with hf | hf
      · have hmin : min 1 (foot p s) ≤ 0 := (min_le_right _ _).trans hf
        rw [max_eq_left hmin, abs_of_nonneg (by linarith), abs_of_nonneg (by linarith)]
        linarith
      · rcases le_total (foot p s) 1 with hf' | hf'
        · rw [min_eq_right hf', max_eq_right hf, sub_self, abs_zero]
          exact abs_nonneg _
        · rw [min_eq_left hf', max_eq_right zero_le_one, abs_of_nonpos (by linarith),
            abs_of_nonpos (by linarith)]
          linarith
    rw [distSq_pointAt p hs (nearest p s), distSq_pointAt p hs t]
    have hpos : 0 ≤ lengthSq s := distSq_nonneg _ _
    exact add_le_add_right (mul_le_mul_of_nonneg_left hclamp hpos) _

section

variable [Hypot K]

def segmentDistance (p : Point K) (s : Segment K) : K := pointDist p (pointAt s (nearest p s))

omit [IsStrictOrderedRing K] in
theorem segmentDistance_nonneg (p : Point K) (s : Segment K) : 0 ≤ segmentDistance p s :=
  pointDist_nonneg _ _

theorem segmentDistance_le {p q : Point K} {s : Segment K} (hq : On s q) :
    segmentDistance p s ≤ pointDist p q := by
  obtain ⟨t, h0, h1, rfl⟩ := hq
  exact pointDist_le_pointDist_iff.mpr (nearest_le p s h0 h1)

theorem segmentDistance_le_iff {p : Point K} {s : Segment K} {t : K} :
    segmentDistance p s ≤ t ↔ ∃ q, On s q ∧ pointDist p q ≤ t := by
  constructor
  · intro h
    obtain ⟨h0, h1⟩ := nearest_range p s
    exact ⟨_, on_pointAt h0 h1, h⟩
  · rintro ⟨q, hq, hle⟩
    exact (segmentDistance_le hq).trans hle

/-- Two segments have points within a distance of each other. -/
def Within (s s' : Segment K) (t : K) : Prop := ∃ p q, On s p ∧ On s' q ∧ pointDist p q ≤ t

/-- An end of one segment is within a distance of the other. -/
def EndNear (s s' : Segment K) (t : K) : Prop :=
  segmentDistance s'.1 s ≤ t ∨ segmentDistance s'.2 s ≤ t ∨ segmentDistance s.1 s' ≤ t ∨
    segmentDistance s.2 s' ≤ t

theorem within_of_endNear {s s' : Segment K} {t : K} (h : EndNear s s' t) : Within s s' t := by
  rcases h with h | h | h | h
  · obtain ⟨q, hq, hle⟩ := segmentDistance_le_iff.mp h
    exact ⟨q, s'.1, hq, on_start s', pointDist_comm q s'.1 ▸ hle⟩
  · obtain ⟨q, hq, hle⟩ := segmentDistance_le_iff.mp h
    exact ⟨q, s'.2, hq, on_stop s', pointDist_comm q s'.2 ▸ hle⟩
  · obtain ⟨q, hq, hle⟩ := segmentDistance_le_iff.mp h
    exact ⟨s.1, q, on_start s, hq, hle⟩
  · obtain ⟨q, hq, hle⟩ := segmentDistance_le_iff.mp h
    exact ⟨s.2, q, on_stop s, hq, hle⟩

end

omit [LinearOrder K] [IsStrictOrderedRing K] in
theorem distSq_between (c : Point K) (s : Segment K) (t : K) : distSq c (pointAt s t) =
    (1 - t) * distSq c s.1 + t * distSq c s.2 - t * (1 - t) * lengthSq s := by
  simp only [distSq, pointAt, lengthSq]
  ring

/-- The points of a segment are not further from a center than both of its ends. -/
theorem pointDist_on_le [Hypot K] {c p : Point K} {s : Segment K} {t : K} (hp : On s p) (h1 : pointDist c s.1 ≤ t)
    (h2 : pointDist c s.2 ≤ t) : pointDist c p ≤ t := by
  obtain ⟨u, hu0, hu1, rfl⟩ := hp
  have ht : 0 ≤ t := (pointDist_nonneg _ _).trans h1
  rw [pointDist_le_iff ht] at h1 h2 ⊢
  have hlen : 0 ≤ u * (1 - u) * lengthSq s :=
    mul_nonneg (mul_nonneg hu0 (sub_nonneg.mpr hu1)) (distSq_nonneg _ _)
  rw [distSq_between]
  nlinarith [mul_le_mul_of_nonneg_left h1 (sub_nonneg.mpr hu1), mul_le_mul_of_nonneg_left h2 hu0]

/-- Where the foot of the perpendicular is off the segment, an end is nearest. -/
theorem nearest_of_foot_off {p : Point K} {s : Segment K} (hs : lengthSq s ≠ 0)
    (hoff : foot p s < 0 ∨ 1 < foot p s) : nearest p s = 0 ∨ nearest p s = 1 := by
  rw [nearest, if_neg hs]
  rcases hoff with h | h
  · exact Or.inl (max_eq_left ((min_le_right _ _).trans h.le))
  · rw [min_eq_left h.le]
    exact Or.inr (max_eq_right zero_le_one)

omit [IsStrictOrderedRing K] in
theorem nearest_of_foot_on {p : Point K} {s : Segment K} (hs : lengthSq s ≠ 0)
    (h0 : 0 ≤ foot p s) (h1 : foot p s ≤ 1) : nearest p s = foot p s := by
  rw [nearest, if_neg hs, min_eq_right h1, max_eq_right h0]

/-! ## Circles -/

section

variable [Hypot K]

theorem pointDist_triangle (p q r : Point K) : pointDist p r ≤ pointDist p q + pointDist q r := by
  have ha := pointDist_nonneg p q
  have hb := pointDist_nonneg q r
  have ha2 := pointDist_sq p q
  have hb2 := pointDist_sq q r
  generalize pointDist p q = a at *
  generalize pointDist q r = b at *
  rw [pointDist_le_iff (add_nonneg ha hb)]
  simp only [distSq] at ha2 hb2 ⊢
  have hdot : (p.1 - q.1) * (q.1 - r.1) + (p.2 - q.2) * (q.2 - r.2) ≤ a * b := by
    refine le_of_abs_le (abs_le_of_sq_le_sq ?_ (mul_nonneg ha hb))
    rw [mul_pow, ha2, hb2]
    nlinarith [sq_nonneg ((p.1 - q.1) * (q.2 - r.2) - (p.2 - q.2) * (q.1 - r.1))]
  nlinarith

theorem abs_pointDist_sub_le (p q c : Point K) :
    |pointDist p c - pointDist q c| ≤ pointDist p q := by
  have h := pointDist_triangle p q c
  have h' := pointDist_triangle q p c
  rw [pointDist_comm q p] at h'
  exact abs_le.mpr ⟨by linarith, by linarith⟩

theorem pointDist_eq_of_sq {p q : Point K} {t : K} (ht : 0 ≤ t) (h : distSq p q = t ^ 2) :
    pointDist p q = t :=
  le_antisymm ((pointDist_le_iff ht).mpr h.le) ((le_pointDist_iff ht).mpr h.ge)

/-- A point is as near to a circle or its center as its distance from the center is to the
radius or to zero. -/
theorem near_circle_iff {p c : Point K} {r t : K} :
    pointDist p c ≤ t ∨ |pointDist p c - r| ≤ t ↔
      ∃ q, (pointDist q c = r ∨ q = c) ∧ pointDist p q ≤ t := by
  constructor
  · rintro (h | h)
    · exact ⟨c, Or.inr rfl, h⟩
    rcases lt_or_ge r 0 with hr | hr
    · have hd := pointDist_nonneg p c
      exact ⟨c, Or.inr rfl, by linarith [le_abs_self (pointDist p c - r)]⟩
    · rcases (pointDist_nonneg p c).eq_or_lt with hd | hd
      · -- at the center every point of the circle is as near
        have hcircle : pointDist (c.1 + r, c.2) c = r :=
          pointDist_eq_of_sq hr (by simp only [distSq]; ring)
        refine ⟨(c.1 + r, c.2), Or.inl hcircle, (pointDist_triangle p c _).trans ?_⟩
        rw [← hd, zero_sub, abs_neg, abs_of_nonneg hr] at h
        rwa [← hd, zero_add, pointDist_comm, hcircle]
      · -- elsewhere the one on the ray through the point
        have hsq := pointDist_sq p c
        generalize pointDist p c = d at *
        refine ⟨(c.1 + r / d * (p.1 - c.1), c.2 + r / d * (p.2 - c.2)), Or.inl ?_, ?_⟩
        · refine pointDist_eq_of_sq hr ?_
          calc distSq (c.1 + r / d * (p.1 - c.1), c.2 + r / d * (p.2 - c.2)) c
              = (r / d) ^ 2 * distSq p c := by simp only [distSq]; ring
            _ = r ^ 2 := by rw [← hsq]; field_simp
        · refine le_of_eq_of_le (pointDist_eq_of_sq (abs_nonneg (d - r)) ?_) h
          calc distSq p (c.1 + r / d * (p.1 - c.1), c.2 + r / d * (p.2 - c.2))
              = (1 - r / d) ^ 2 * distSq p c := by simp only [distSq]; ring
            _ = |d - r| ^ 2 := by rw [← hsq, sq_abs]; field_simp
  · rintro ⟨q, rfl | rfl, h⟩
    · exact Or.inr ((abs_pointDist_sub_le p q c).trans h)
    · exact Or.inl h

end

/-! ## Crossing segments -/

/-- Each segment has its ends on two sides of the line of the other. -/
def Crosses (s s' : Segment K) : Prop :=
  cross s.1 s.2 s'.1 * cross s.1 s.2 s'.2 < 0 ∧ cross s'.1 s'.2 s.1 * cross s'.1 s'.2 s.2 < 0

/-- The cross product of the directions of two segments. -/
def slant (s s' : Segment K) : K :=
  (s.2.1 - s.1.1) * (s'.2.2 - s'.1.2) - (s.2.2 - s.1.2) * (s'.2.1 - s'.1.1)

/-- The parameters at which the lines of two segments meet. -/
def meetFirst (s s' : Segment K) : K := cross s'.1 s'.2 s.1 / slant s s'

def meetSecond (s s' : Segment K) : K := -cross s.1 s.2 s'.1 / slant s s'

section

variable {s s' : Segment K}

omit [LinearOrder K] [IsStrictOrderedRing K] in
theorem cross_stop_first (s s' : Segment K) :
    cross s.1 s.2 s'.2 = cross s.1 s.2 s'.1 + slant s s' := by
  simp only [cross, slant]
  ring

omit [LinearOrder K] [IsStrictOrderedRing K] in
theorem cross_stop_second (s s' : Segment K) :
    cross s'.1 s'.2 s.2 = cross s'.1 s'.2 s.1 - slant s s' := by
  simp only [cross, slant]
  ring

omit [LinearOrder K] [IsStrictOrderedRing K] in
theorem pointAt_meet (h : slant s s' ≠ 0) :
    pointAt s (meetFirst s s') = pointAt s' (meetSecond s s') := by
  have hfirst : meetFirst s s' * slant s s' = cross s'.1 s'.2 s.1 := div_mul_cancel₀ _ h
  have hsecond : meetSecond s s' * slant s s' = -cross s.1 s.2 s'.1 := div_mul_cancel₀ _ h
  generalize meetFirst s s' = t at hfirst ⊢
  generalize meetSecond s s' = u at hsecond ⊢
  ext
  · refine mul_right_cancel₀ h ?_
    simp only [pointAt, cross, slant] at hfirst hsecond ⊢
    linear_combination (s.2.1 - s.1.1) * hfirst - (s'.2.1 - s'.1.1) * hsecond
  · refine mul_right_cancel₀ h ?_
    simp only [pointAt, cross, slant] at hfirst hsecond ⊢
    linear_combination (s.2.2 - s.1.2) * hfirst - (s'.2.2 - s'.1.2) * hsecond

theorem between_iff {t : K} : 0 < t * (1 - t) ↔ 0 < t ∧ t < 1 := by
  constructor
  · intro h
    rcases pos_and_pos_or_neg_and_neg_of_mul_pos h with ⟨h0, h1⟩ | ⟨h0, h1⟩
    · exact ⟨h0, by linarith⟩
    · linarith
  · rintro ⟨h0, h1⟩
    exact mul_pos h0 (sub_pos.mpr h1)

theorem crosses_iff (h : slant s s' ≠ 0) : Crosses s s' ↔
    (0 < meetFirst s s' ∧ meetFirst s s' < 1) ∧ 0 < meetSecond s s' ∧ meetSecond s s' < 1 := by
  have hpos : 0 < slant s s' ^ 2 := by positivity
  have hfirst : meetFirst s s' * slant s s' = cross s'.1 s'.2 s.1 := div_mul_cancel₀ _ h
  have hsecond : meetSecond s s' * slant s s' = -cross s.1 s.2 s'.1 := div_mul_cancel₀ _ h
  have hab : cross s.1 s.2 s'.1 * cross s.1 s.2 s'.2 =
      -(slant s s' ^ 2 * (meetSecond s s' * (1 - meetSecond s s'))) := by
    rw [cross_stop_first]
    linear_combination (slant s s' - slant s s' * meetSecond s s' + cross s.1 s.2 s'.1) * hsecond
  have hba : cross s'.1 s'.2 s.1 * cross s'.1 s'.2 s.2 =
      -(slant s s' ^ 2 * (meetFirst s s' * (1 - meetFirst s s'))) := by
    rw [cross_stop_second, ← hfirst]
    ring
  rw [Crosses, hab, hba, neg_lt_zero, neg_lt_zero, mul_pos_iff_of_pos_left hpos,
    mul_pos_iff_of_pos_left hpos, between_iff, between_iff, and_comm]

theorem slant_ne_zero_of_crosses (h : Crosses s s') : slant s s' ≠ 0 := by
  intro hzero
  have hpos : 0 ≤ cross s.1 s.2 s'.1 * cross s.1 s.2 s'.2 := by
    rw [cross_stop_first, hzero, add_zero]
    exact mul_self_nonneg _
  exact absurd h.1 (not_lt.mpr hpos)

theorem meet_of_crosses (h : Crosses s s') : Meet s s' := by
  have hslant := slant_ne_zero_of_crosses h
  obtain ⟨⟨hf0, hf1⟩, hs0, hs1⟩ := (crosses_iff hslant).mp h
  refine ⟨pointAt s (meetFirst s s'), on_pointAt hf0.le hf1.le, ?_⟩
  rw [pointAt_meet hslant]
  exact on_pointAt hs0.le hs1.le

end

/-! ## The way out of a square -/

/-- A coordinate that moves from within the unit interval stays there until it reaches an end of
it, or for good. -/
theorem exists_stay {x x' : K} (h0 : 0 ≤ x) (h1 : x ≤ 1) : ∃ r, 0 ≤ r ∧ r ≤ 1 ∧
    (∀ l, 0 ≤ l → l ≤ r → 0 ≤ x + l * (x' - x) ∧ x + l * (x' - x) ≤ 1) ∧
      (r = 1 ∧ 0 < x' ∧ x' < 1 ∨ x + r * (x' - x) = 0 ∨ x + r * (x' - x) = 1) := by
  rcases le_or_gt x' 0 with hlow | hlow
  · rcases eq_or_lt_of_le (hlow.trans h0) with heq | hlt
    · refine ⟨0, le_rfl, zero_le_one, fun l hl0 hl => ?_, Or.inr (Or.inl ?_)⟩
      · rw [heq, sub_self, mul_zero, add_zero]
        exact ⟨h0, h1⟩
      · have : x = 0 := le_antisymm (heq ▸ hlow) h0
        rw [this, zero_mul, add_zero]
    · have hd : 0 < x - x' := sub_pos.mpr hlt
      have hr : x / (x - x') * (x' - x) = -x := by
        rw [← neg_sub x x', mul_neg, div_mul_cancel₀ _ hd.ne']
      refine ⟨x / (x - x'), div_nonneg h0 hd.le, ?_, fun l hl0 hl => ?_, Or.inr (Or.inl ?_)⟩
      · rw [div_le_one hd]
        linarith
      · rw [le_div_iff₀ hd] at hl
        constructor <;> nlinarith
      · rw [hr, add_neg_cancel]
  · rcases lt_or_ge x' 1 with hhigh | hhigh
    · refine ⟨1, zero_le_one, le_rfl, fun l hl0 hl1 => ?_, Or.inl ⟨rfl, hlow, hhigh⟩⟩
      constructor <;> nlinarith
    · rcases eq_or_lt_of_le (h1.trans hhigh) with heq | hlt
      · refine ⟨0, le_rfl, zero_le_one, fun l hl0 hl => ?_, Or.inr (Or.inr ?_)⟩
        · rw [heq, sub_self, mul_zero, add_zero]
          exact ⟨hlow.le, heq ▸ h1⟩
        · have : x = 1 := le_antisymm h1 (heq ▸ hhigh)
          rw [this, zero_mul, add_zero]
      · have hd : 0 < x' - x := sub_pos.mpr hlt
        refine ⟨(1 - x) / (x' - x), div_nonneg (by linarith) hd.le, ?_, fun l hl0 hl => ?_,
          Or.inr (Or.inr ?_)⟩
        · rw [div_le_one hd]
          linarith
        · rw [le_div_iff₀ hd] at hl
          constructor <;> nlinarith
        · rw [div_mul_cancel₀ _ hd.ne']
          ring

/-- The way from a point of the unit square to one that is not within it leads over a side. -/
theorem exists_side {x y x' y' : K} (hx : 0 ≤ x ∧ x ≤ 1) (hy : 0 ≤ y ∧ y ≤ 1)
    (hout : ¬ ((0 < x' ∧ x' < 1) ∧ 0 < y' ∧ y' < 1)) : ∃ l, 0 ≤ l ∧ l ≤ 1 ∧
      (0 ≤ x + l * (x' - x) ∧ x + l * (x' - x) ≤ 1) ∧
      (0 ≤ y + l * (y' - y) ∧ y + l * (y' - y) ≤ 1) ∧
      ((x + l * (x' - x) = 0 ∨ x + l * (x' - x) = 1) ∨
        y + l * (y' - y) = 0 ∨ y + l * (y' - y) = 1) := by
  obtain ⟨r, hr0, hr1, hrstay, hrend⟩ := @exists_stay K _ _ _ x x' hx.1 hx.2
  obtain ⟨r', hr0', hr1', hrstay', hrend'⟩ := @exists_stay K _ _ _ y y' hy.1 hy.2
  by_cases hle : r ≤ r'
  · rcases hrend with ⟨hone, hin⟩ | hrend
    · -- the other coordinate reaches a side, since this one never does
      have hone' : r' = 1 := le_antisymm hr1' (hone ▸ hle)
      refine ⟨r', hr0', hr1', hrstay r' hr0' (by rw [hone, hone']), hrstay' r' hr0' le_rfl, ?_⟩
      rcases hrend' with ⟨-, hin'⟩ | hrend'
      · exact absurd ⟨hin, hin'⟩ hout
      · exact Or.inr hrend'
    · exact ⟨r, hr0, hr1, hrstay r hr0 le_rfl, hrstay' r hr0 hle, Or.inl hrend⟩
  · have hlt : r' < r := not_le.mp hle
    rcases hrend' with ⟨hone, -⟩ | hrend'
    · linarith
    · exact ⟨r', hr0', hr1', hrstay r' hr0' hlt.le, hrstay' r' hr0' le_rfl, Or.inr hrend'⟩

/-! ## Segments within a distance -/

section

variable [Hypot K] {s s' : Segment K} {t : K}

/-- Points of two segments, one of them an end. -/
theorem endNear_of_side {x y : K} (hx : 0 ≤ x ∧ x ≤ 1) (hy : 0 ≤ y ∧ y ≤ 1)
    (hside : (x = 0 ∨ x = 1) ∨ y = 0 ∨ y = 1) (h : pointDist (pointAt s x) (pointAt s' y) ≤ t) :
    EndNear s s' t := by
  have hp : On s (pointAt s x) := on_pointAt hx.1 hx.2
  have hq : On s' (pointAt s' y) := on_pointAt hy.1 hy.2
  rcases hside with (rfl | rfl) | rfl | rfl
  · rw [pointAt_zero] at h
    exact Or.inr (Or.inr (Or.inl (segmentDistance_le_iff.mpr ⟨_, hq, h⟩)))
  · rw [pointAt_one] at h
    exact Or.inr (Or.inr (Or.inr (segmentDistance_le_iff.mpr ⟨_, hq, h⟩)))
  · rw [pointAt_zero, pointDist_comm] at h
    exact Or.inl (segmentDistance_le_iff.mpr ⟨_, hp, h⟩)
  · rw [pointAt_one, pointDist_comm] at h
    exact Or.inr (Or.inl (segmentDistance_le_iff.mpr ⟨_, hp, h⟩))

omit [Hypot K] in
/-- A direction in which parallel segments keep their distance, with one step that leads out of
the unit square. -/
theorem exists_parallel (h : slant s s' = 0) : ∃ a b : K, (a = 1 ∨ b = 1) ∧
    a * (s.2.1 - s.1.1) = b * (s'.2.1 - s'.1.1) ∧ a * (s.2.2 - s.1.2) = b * (s'.2.2 - s'.1.2) := by
  simp only [slant] at h
  generalize s.2.1 - s.1.1 = dx at h ⊢
  generalize s.2.2 - s.1.2 = dy at h ⊢
  generalize s'.2.1 - s'.1.1 = ex at h ⊢
  generalize s'.2.2 - s'.1.2 = ey at h ⊢
  by_cases hdx : dx = 0
  · by_cases hdy : dy = 0
    · exact ⟨1, 0, Or.inl rfl, by rw [hdx]; ring, by rw [hdy]; ring⟩
    · refine ⟨ey / dy, 1, Or.inr rfl, ?_, ?_⟩
      · have hex : ex = 0 := by
          rw [hdx, zero_mul, zero_sub, neg_eq_zero] at h
          exact (mul_eq_zero.mp h).resolve_left hdy
        rw [hdx, hex, mul_zero, mul_zero]
      · rw [div_mul_cancel₀ _ hdy, one_mul]
  · refine ⟨ex / dx, 1, Or.inr rfl, ?_, ?_⟩
    · rw [div_mul_cancel₀ _ hdx, one_mul]
    · rw [div_mul_eq_mul_div, div_eq_iff hdx]
      linear_combination -h

/-- Segments within a distance cross, or an end of one is within it of the other. -/
theorem within_iff (ht : 0 ≤ t) : Within s s' t ↔ Crosses s s' ∨ EndNear s s' t := by
  constructor
  · rintro ⟨p, q, ⟨x, hx0, hx1, rfl⟩, ⟨y, hy0, hy1, rfl⟩, hle⟩
    rw [pointDist_le_iff ht] at hle
    by_cases hslant : slant s s' = 0
    · -- parallel segments: both points move along, at one distance, until one is at an end
      obtain ⟨a, b, hone, hax, hay⟩ := exists_parallel hslant
      have hout : ¬ ((0 < x + a ∧ x + a < 1) ∧ 0 < y + b ∧ y + b < 1) := by
        rcases hone with rfl | rfl
        · exact fun hin => absurd hin.1.2 (by linarith)
        · exact fun hin => absurd hin.2.2 (by linarith)
      obtain ⟨l, -, -, hx, hy, hside⟩ := exists_side ⟨hx0, hx1⟩ ⟨hy0, hy1⟩ hout
      refine Or.inr (endNear_of_side hx hy hside ((pointDist_le_iff ht).mpr (le_of_eq_of_le ?_ hle)))
      simp only [distSq, pointAt]
      congr 2
      · linear_combination l * hax
      · linear_combination l * hay
    · by_cases hcross : Crosses s s'
      · exact Or.inl hcross
      · -- towards the common point of the lines the points come nearer to each other
        rw [crosses_iff hslant] at hcross
        obtain ⟨l, hl0, hl1, hx, hy, hside⟩ := exists_side ⟨hx0, hx1⟩ ⟨hy0, hy1⟩ hcross
        refine Or.inr (endNear_of_side hx hy hside ((pointDist_le_iff ht).mpr (le_trans ?_ hle)))
        have hmeet := pointAt_meet hslant
        have hshrunk : distSq (pointAt s (x + l * (meetFirst s s' - x)))
            (pointAt s' (y + l * (meetSecond s s' - y))) =
              (1 - l) ^ 2 * distSq (pointAt s x) (pointAt s' y) := by
          have hmx := congrArg Prod.fst hmeet
          have hmy := congrArg Prod.snd hmeet
          simp only [pointAt] at hmx hmy
          simp only [distSq, pointAt, mul_add, ← mul_pow]
          congr 2
          · linear_combination l * hmx
          · linear_combination l * hmy
        rw [hshrunk]
        have hsq : (1 - l) ^ 2 ≤ 1 := by nlinarith
        nlinarith [distSq_nonneg (pointAt s x) (pointAt s' y)]
  · rintro (h | h)
    · obtain ⟨p, hp, hp'⟩ := meet_of_crosses h
      exact ⟨p, p, hp, hp', (pointDist_self p).le.trans ht⟩
    · exact within_of_endNear h

end

end

end AutocadMcp.Plane
