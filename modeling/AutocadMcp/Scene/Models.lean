import Mathlib

/-!
# Scene nodes, tolerances and budgets

Coordinates are elements of an ordered field, node ids of a linear order, and
the geometry of a node stays a parameter: the spatial index reads the bounds
alone. A `Bounds` value and a `SceneBudgets` value carry what their constructors
check.
-/

namespace AutocadMcp.Scene

/-- The literals of the tolerances and of the samples, as every module of the scene reads
them. -/
scoped instance two_atLeastTwo : Nat.AtLeastTwo 2 := ⟨le_rfl⟩

scoped instance five_atLeastTwo : Nat.AtLeastTwo 5 := ⟨by decide⟩

scoped instance ten_atLeastTwo : Nat.AtLeastTwo 10 := ⟨by decide⟩

/-- What the scene engine raises. -/
inductive SceneFailure where
  | budgetExceeded (message : String)
  | valueError (message : String)
  | keyError
  deriving DecidableEq, Repr

section

variable {K : Type} [Field K] [LinearOrder K] [IsStrictOrderedRing K]

@[ext] structure Bounds (K : Type) [LE K] where
  minX : K
  minY : K
  maxX : K
  maxY : K
  ordered_x : minX ≤ maxX
  ordered_y : minY ≤ maxY

namespace Bounds

def expanded (b : Bounds K) (amount : K) (h : 0 ≤ amount) : Bounds K where
  minX := b.minX - amount
  minY := b.minY - amount
  maxX := b.maxX + amount
  maxY := b.maxY + amount
  ordered_x := by linarith [b.ordered_x]
  ordered_y := by linarith [b.ordered_y]

def Intersects (b other : Bounds K) (tolerance : K) : Prop :=
  ¬ (b.maxX < other.minX - tolerance ∨ other.maxX < b.minX - tolerance ∨
    b.maxY < other.minY - tolerance ∨ other.maxY < b.minY - tolerance)

instance (b other : Bounds K) (tolerance : K) : Decidable (b.Intersects other tolerance) :=
  inferInstanceAs (Decidable (¬ _))

def union (b other : Bounds K) : Bounds K where
  minX := min b.minX other.minX
  minY := min b.minY other.minY
  maxX := max b.maxX other.maxX
  maxY := max b.maxY other.maxY
  ordered_x := (min_le_left _ _).trans (b.ordered_x.trans (le_max_left _ _))
  ordered_y := (min_le_left _ _).trans (b.ordered_y.trans (le_max_left _ _))

/-- The larger side of the box, and at least one. -/
def extent (b : Bounds K) : K :=
  max (max (b.maxX - b.minX) (b.maxY - b.minY)) 1

def Contains (b : Bounds K) (x y : K) : Prop :=
  b.minX ≤ x ∧ x ≤ b.maxX ∧ b.minY ≤ y ∧ y ≤ b.maxY

omit [IsStrictOrderedRing K] in
theorem intersects_iff {b other : Bounds K} {tolerance : K} :
    b.Intersects other tolerance ↔
      other.minX - tolerance ≤ b.maxX ∧ b.minX - tolerance ≤ other.maxX ∧
      other.minY - tolerance ≤ b.maxY ∧ b.minY - tolerance ≤ other.maxY := by
  simp only [Intersects, not_or, not_lt]

omit [IsStrictOrderedRing K] in
theorem Intersects.symm {b other : Bounds K} {tolerance : K}
    (h : b.Intersects other tolerance) : other.Intersects b tolerance := by
  rw [intersects_iff] at h ⊢
  exact ⟨h.2.1, h.1, h.2.2.2, h.2.2.1⟩

/-- Two entities whose points come within the tolerance of each other have bounds that
intersect within it. -/
theorem intersects_of_near {b other : Bounds K} {tolerance x y x' y' : K}
    (hb : b.Contains x y) (hother : other.Contains x' y') (hx : |x - x'| ≤ tolerance)
    (hy : |y - y'| ≤ tolerance) : b.Intersects other tolerance := by
  obtain ⟨hminX, hmaxX, hminY, hmaxY⟩ := hb
  obtain ⟨hminX', hmaxX', hminY', hmaxY'⟩ := hother
  rw [abs_le] at hx hy
  rw [intersects_iff]
  refine ⟨?_, ?_, ?_, ?_⟩
  · linarith
  · linarith
  · linarith
  · linarith

omit [IsStrictOrderedRing K] in
theorem one_le_extent (b : Bounds K) : 1 ≤ b.extent :=
  le_max_right _ _

end Bounds

/-- A projected entity as the index and the relation pass read it. -/
structure SceneNode (ι K γ : Type) [LE K] where
  nodeId : ι
  bounds : Option (Bounds K)
  geometry : Option γ

/-! ### Tolerances -/

structure ToleranceProfile (K : Type) where
  profileId : String
  drawingUnits : String
  absoluteFloor : K
  relativeComponent : K
  angular : K
  endpoint : K
  radius : K
  duplicate : K
  maximum : K

def mechanicalTolerance (bounds : Option (Bounds K)) (drawingUnits : String) :
    ToleranceProfile K :=
  let extent := match bounds with
    | some b => b.extent
    | none => 1
  let floor : K := 1 / 10 ^ 6
  let maximum : K := 1 / 10 ^ 2
  let linear := min (max floor (extent * (1 / 10 ^ 9))) maximum
  { profileId := "mechanical-2d/1"
    drawingUnits := drawingUnits
    absoluteFloor := floor
    relativeComponent := 1 / 10 ^ 9
    angular := 1 / 10 ^ 6
    endpoint := linear
    radius := linear
    duplicate := linear
    maximum := maximum }

def validateTolerance (profile : ToleranceProfile K) : Except SceneFailure Unit :=
  if ¬ (0 < profile.absoluteFloor ∧ 0 < profile.relativeComponent ∧ 0 < profile.angular ∧
      0 < profile.endpoint ∧ 0 < profile.radius ∧ 0 < profile.duplicate ∧
      0 < profile.maximum) then
    .error (.valueError "tolerance values must be finite and positive")
  else if profile.maximum < max (max profile.endpoint profile.radius) profile.duplicate then
    .error (.valueError "linear tolerance exceeds maximum")
  else
    .ok ()

/-- The tolerance the engine chooses by itself passes its own validation. -/
theorem mechanicalTolerance_valid (bounds : Option (Bounds K)) (drawingUnits : String) :
    validateTolerance (mechanicalTolerance bounds drawingUnits) = .ok () := by
  simp [validateTolerance, mechanicalTolerance]

theorem mechanicalTolerance_endpoint_nonneg (bounds : Option (Bounds K)) (drawingUnits : String) :
    0 ≤ (mechanicalTolerance bounds drawingUnits).endpoint := by
  have hfloor : (0 : K) ≤ 1 / 10 ^ 6 := by positivity
  exact le_min (hfloor.trans (le_max_left _ _)) (by positivity)

/-- The endpoint tolerance is at most a millionth of the drawing. -/
theorem mechanicalTolerance_endpoint_le (b : Bounds K) (drawingUnits : String) :
    (mechanicalTolerance (some b) drawingUnits).endpoint ≤ b.extent * (1 / 10 ^ 6) := by
  have hone := b.one_le_extent
  have hcapped : (mechanicalTolerance (some b) drawingUnits).endpoint ≤
      max (1 / 10 ^ 6) (b.extent * (1 / 10 ^ 9)) := min_le_left _ _
  refine hcapped.trans (max_le ?_ ?_)
  · linarith
  · have hpos : 0 ≤ b.extent := zero_le_one.trans hone
    exact mul_le_mul_of_nonneg_left (by norm_num) hpos

end

/-! ### Budgets -/

/-- The count budgets that the index and the relation pass enforce, within the server's caps. -/
structure SceneBudgets where
  maxSpatialCells : ℕ
  maxCellsPerNode : ℕ
  maxCandidatesPerNode : ℕ
  maxRelationCandidates : ℕ
  maxRelations : ℕ
  positive : 1 ≤ maxSpatialCells ∧ 1 ≤ maxCellsPerNode ∧ 1 ≤ maxCandidatesPerNode ∧
    1 ≤ maxRelationCandidates ∧ 1 ≤ maxRelations
  capped : maxSpatialCells ≤ 100000 ∧ maxCellsPerNode ≤ 256 ∧ maxCandidatesPerNode ≤ 512 ∧
    maxRelationCandidates ≤ 500000 ∧ maxRelations ≤ 200000

def SceneBudgets.default : SceneBudgets where
  maxSpatialCells := 50000
  maxCellsPerNode := 128
  maxCandidatesPerNode := 256
  maxRelationCandidates := 250000
  maxRelations := 100000
  positive := by decide
  capped := by decide

end AutocadMcp.Scene
