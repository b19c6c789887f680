import AutocadMcp.Dimension.Audit
import Mathlib.Data.Rat.Floor
import Mathlib.Algebra.Order.Field.Rat

/-!
# Chains of dimensions

`_find_chain_for_overall` takes the longest dimension from where it stands. What it returns is
a chain, but it returns nothing where the chains of the drawing leave a longer dimension aside.
-/

namespace AutocadMcp.Dimension

open Spans

variable {K : Type} [Field K] [LinearOrder K]

/-! ## What a chain is -/

/-- The left end of a dimension's interval, where it has one. -/
def leftEnd (tolerance : K) (d : DimensionEntity K) : K :=
  match dimensionInterval d tolerance with
  | some (_, left, _) => left
  | none => 0

def rightEnd (tolerance : K) (d : DimensionEntity K) : K :=
  match dimensionInterval d tolerance with
  | some (_, _, right) => right
  | none => 0

/-- At least two candidates in the direction of the overall dimension and shorter than it, that
meet end to start from its start to its end. -/
def IsChain (overall : DimensionEntity K) (candidates : List (DimensionEntity K)) (tolerance : K)
    (chain : List (DimensionEntity K)) : Prop :=
  ∃ direction start stop, dimensionInterval overall tolerance = some (direction, start, stop) ∧
    2 ≤ chain.length ∧
    (∀ d ∈ chain, d ∈ candidates ∧ ∃ left right,
      dimensionInterval d tolerance = some (direction, left, right) ∧
        right - left < stop - start) ∧
    Spans.Joined (leftEnd tolerance) (rightEnd tolerance) tolerance stop start chain

/-- A chain within the overall interval whose members each reach furthest from where they
start, and get more than the tolerance ahead. -/
def IsFurthestChain (overall : DimensionEntity K) (candidates : List (DimensionEntity K))
    (tolerance : K) (chain : List (DimensionEntity K)) : Prop :=
  ∃ direction start stop, dimensionInterval overall tolerance = some (direction, start, stop) ∧
    ∃ way last, Furthest Span.left Span.right tolerance
        (spansWithin overall candidates tolerance direction start stop) stop start way last ∧
      2 ≤ way.length ∧ |last - stop| ≤ tolerance ∧ chain = way.map Span.dimension

section

variable {overall : DimensionEntity K} {candidates : List (DimensionEntity K)} {tolerance : K}

theorem mem_spansWithin {direction : Orientation} {start stop : K} {s : Span K} :
    s ∈ spansWithin overall candidates tolerance direction start stop ↔
      s.dimension ∈ candidates ∧
        dimensionInterval s.dimension tolerance = some (direction, s.left, s.right) ∧
        s.dimension ≠ overall ∧ start - tolerance ≤ s.left ∧ s.right ≤ stop + tolerance ∧
        s.right - s.left < stop - start - tolerance := by
  rw [spansWithin, List.mem_filterMap]
  constructor
  · rintro ⟨candidate, hcandidate, hspan⟩
    split at hspan
    · cases hspan
    · next o left right hinterval =>
        split_ifs at hspan with hfits
        cases hspan
        obtain ⟨hne, rfl, hleft, hright, hshort⟩ := hfits
        exact ⟨hcandidate, hinterval, hne, hleft, hright, hshort⟩
  · rintro ⟨hcandidate, hinterval, hne, hleft, hright, hshort⟩
    refine ⟨s.dimension, hcandidate, ?_⟩
    rw [hinterval]
    exact if_pos ⟨hne, rfl, hleft, hright, hshort⟩

/-- Spans are joined as their dimensions are. -/
theorem joined_map_dimension {b : K} {way : List (Span K)}
    (h : ∀ s ∈ way, leftEnd tolerance s.dimension = s.left ∧
      rightEnd tolerance s.dimension = s.right) {a : K} :
    Spans.Joined (leftEnd tolerance) (rightEnd tolerance) tolerance b a (way.map Span.dimension) ↔
      Spans.Joined Span.left Span.right tolerance b a way := by
  induction way generalizing a with
  | nil => rfl
  | cons s way ih =>
      obtain ⟨hleft, hright⟩ := h s List.mem_cons_self
      show |leftEnd tolerance s.dimension - a| ≤ tolerance ∧ _ ↔ _
      rw [hleft, hright, ih fun r hr => h r (List.mem_cons_of_mem _ hr)]
      rfl

/-- The longest steps make a chain. -/
theorem IsFurthestChain.isChain {chain : List (DimensionEntity K)} [IsStrictOrderedRing K]
    (htol : 0 < tolerance) (h : IsFurthestChain overall candidates tolerance chain) :
    IsChain overall candidates tolerance chain := by
  obtain ⟨direction, start, stop, hoverall, way, last, hway, htwo, hend, rfl⟩ := h
  have hspan : ∀ s ∈ way, s.dimension ∈ candidates ∧
      dimensionInterval s.dimension tolerance = some (direction, s.left, s.right) ∧
      s.right - s.left < stop - start - tolerance := fun s hs => by
    obtain ⟨hcandidate, hinterval, -, -, -, hshort⟩ := mem_spansWithin.mp (hway.mem s hs)
    exact ⟨hcandidate, hinterval, hshort⟩
  refine ⟨direction, start, stop, hoverall, by rwa [List.length_map], ?_, ?_⟩
  · intro d hd
    obtain ⟨s, hs, rfl⟩ := List.mem_map.mp hd
    obtain ⟨hcandidate, hinterval, hshort⟩ := hspan s hs
    exact ⟨hcandidate, s.left, s.right, hinterval, by linarith⟩
  · have hends : ∀ s ∈ way, leftEnd tolerance s.dimension = s.left ∧
        rightEnd tolerance s.dimension = s.right := fun s hs => by
      obtain ⟨-, hinterval, -⟩ := hspan s hs
      exact ⟨by rw [leftEnd, hinterval], by rw [rightEnd, hinterval]⟩
    exact (joined_map_dimension hends).mpr (hway.joined hend)

theorem IsFurthestChain.ne_nil {chain : List (DimensionEntity K)}
    (h : IsFurthestChain overall candidates tolerance chain) : chain ≠ [] := by
  obtain ⟨direction, start, stop, hoverall, way, last, hway, htwo, hend, rfl⟩ := h
  rintro hnil
  rw [List.map_eq_nil_iff.mp hnil] at htwo
  simp at htwo

variable [IsStrictOrderedRing K]

/-- The search returns the furthest chain and nothing else. -/
theorem findChainForOverall_eq_iff {htol : 0 < tolerance} {chain : List (DimensionEntity K)}
    (hne : chain ≠ []) : findChainForOverall overall candidates htol = chain ↔
      IsFurthestChain overall candidates tolerance chain := by
  unfold findChainForOverall
  rcases hinterval : dimensionInterval overall tolerance with _ | ⟨direction, start, stop⟩
  · constructor
    · rintro rfl
      exact absurd rfl hne
    · rintro ⟨direction, start, stop, hsome, -⟩
      rw [hinterval] at hsome
      cases hsome
  · dsimp only
    rcases hwalk : walk Span.left Span.right
        (spansWithin overall candidates tolerance direction start stop) stop htol start with
      _ | ⟨way, last⟩
    · constructor
      · rintro rfl
        exact absurd rfl hne
      · rintro ⟨direction', start', stop', hsome, way, last, hway, -⟩
        rw [hinterval] at hsome
        cases hsome
        rw [← @walk_eq_some _ _ _ _ _ _ _ _ _ _ htol _ (way, last), hwalk] at hway
        cases hway
    · have hway := walk_eq_some.mp hwalk
      constructor
      · intro hchain
        dsimp only at hchain
        split_ifs at hchain with hends
        · exact ⟨direction, start, stop, hinterval, way, last, hway, hends.1, hends.2, hchain.symm⟩
        · exact absurd hchain.symm hne
      · rintro ⟨direction', start', stop', hsome, way', last', hway', htwo, hend, rfl⟩
        rw [hinterval] at hsome
        cases hsome
        obtain ⟨rfl, rfl⟩ := hway.unique hway'
        exact if_pos ⟨htwo, hend⟩

theorem findChainForOverall_ne_nil {htol : 0 < tolerance} :
    findChainForOverall overall candidates htol ≠ [] ↔
      ∃ chain, IsFurthestChain overall candidates tolerance chain := by
  constructor
  · intro hne
    exact ⟨_, (findChainForOverall_eq_iff hne).mp rfl⟩
  · rintro ⟨chain, hchain⟩
    rw [(findChainForOverall_eq_iff hchain.ne_nil).mpr hchain]
    exact hchain.ne_nil

/-- One furthest chain at most. -/
theorem IsFurthestChain.unique {chain chain' : List (DimensionEntity K)} (htol : 0 < tolerance)
    (h : IsFurthestChain overall candidates tolerance chain)
    (h' : IsFurthestChain overall candidates tolerance chain') : chain = chain' :=
  ((@findChainForOverall_eq_iff _ _ _ _ _ _ _ htol _ h.ne_nil).mpr h).symm.trans
    ((findChainForOverall_eq_iff h'.ne_nil).mpr h')

end

/-! ## What the audit makes of it -/

section

variable [IsStrictOrderedRing K] (M : MathRuntime K) (overall : DimensionEntity K)
  (candidates : List (DimensionEntity K)) {tol : K} (htol : 0 < tol)

/-- What is found is a chain, nothing is found only where there is none, and a chain whose
displayed values do not add up is reported. -/
def ChainsCaught : Prop :=
  let found := findChainForOverall overall candidates (searchTolerance_pos htol)
  (found ≠ [] → IsChain overall candidates (tol * 5) found) ∧
    (found = [] → ∀ chain, ¬ IsChain overall candidates (tol * 5) chain) ∧
    ∀ chain, IsChain overall candidates (tol * 5) chain →
      chainMismatch M tol overall chain ≠ none →
        chainAccumulation M candidates htol overall ≠ none

theorem chainAccumulation_ne_none {M overall candidates} {htol : 0 < tol} :
    chainAccumulation M candidates htol overall ≠ none ↔
      ∃ chain, IsFurthestChain overall candidates (tol * 5) chain ∧
        chainMismatch M tol overall chain ≠ none := by
  have hfound : ∀ chain, chain ≠ [] →
      (findChainForOverall overall candidates (searchTolerance_pos htol) = chain ↔
        IsFurthestChain overall candidates (tol * 5) chain) := fun chain hne =>
    findChainForOverall_eq_iff hne
  unfold chainAccumulation
  split
  · next hnil =>
      refine ⟨fun h => absurd rfl h, ?_⟩
      rintro ⟨chain, hchain, -⟩
      rw [(hfound chain hchain.ne_nil).mpr hchain] at hnil
      exact absurd hnil hchain.ne_nil
  · next first rest hcons =>
      have hfurthest := (hfound _ (List.cons_ne_nil first rest)).mp hcons
      rw [Ne, Option.map_eq_none_iff]
      constructor
      · intro hmismatch
        exact ⟨_, hfurthest, hmismatch⟩
      · rintro ⟨chain, hchain, hmismatch⟩
        rwa [hfurthest.unique (searchTolerance_pos htol) hchain]

/-- A horizontal dimension between two abscissas. -/
def spanFrom (handle : String) (left right : ℚ) : DimensionEntity ℚ where
  handle := handle
  layer := "MCP-DIM"
  dimstyle := "Standard"
  dimtype := 0
  defpoint := some (left, -10)
  defpoint2 := some (left, 0)
  defpoint3 := some (right, 0)
  defpoint4 := none
  defpoint5 := none
  angle := 0
  text := "<>"
  textMidpoint := none
  measurement := some (right - left)

/-- The two halves add up to the overall dimension; the other one reaches further than the
left half, and nothing starts where it ends. -/
def deadEnd : List (DimensionEntity ℚ) := [spanFrom "2A" 0 6, spanFrom "2B" 0 4, spanFrom "2C" 4 10]

theorem deadEnd_isChain : IsChain (spanFrom "29" 0 10) deadEnd (1 / 10 * 5)
    [spanFrom "2B" 0 4, spanFrom "2C" 4 10] := by
  refine ⟨.horizontal, 0, 10, by decide +kernel, by decide, ?_, ?_⟩
  · intro d hd
    rcases List.mem_pair.mp hd with rfl | rfl
    · exact ⟨by decide +kernel, 0, 4, by decide +kernel, by norm_num⟩
    · exact ⟨by decide +kernel, 4, 10, by decide +kernel, by norm_num⟩
  · have hends : (leftEnd (1 / 10 * 5) (spanFrom "2B" 0 4), rightEnd (1 / 10 * 5) (spanFrom "2B" 0 4),
        leftEnd (1 / 10 * 5) (spanFrom "2C" 4 10), rightEnd (1 / 10 * 5) (spanFrom "2C" 4 10)) =
        ((0 : ℚ), (4 : ℚ), (4 : ℚ), (10 : ℚ)) := by decide +kernel
    simp only [Prod.mk.injEq] at hends
    obtain ⟨h1, h2, h3, h4⟩ := hends
    simp only [Spans.Joined, h1, h2, h3, h4]
    norm_num

/-- The halves alone, one of them displayed as 5. -/
def halves : List (DimensionEntity ℚ) :=
  [spanFrom "2B" 0 4, { spanFrom "2C" 4 10 with text := "5" }]

end

end AutocadMcp.Dimension
