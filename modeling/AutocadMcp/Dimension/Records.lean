import AutocadMcp.Lib.Checked
import AutocadMcp.Contracts.Json
import AutocadMcp.Contracts.CanonicalJson
import Mathlib.Data.List.Sort
import Mathlib.Tactic.Linarith

/-!
# Entity records

The backend-neutral records of `part_detection` with their bounds, the clustering of
records into parts and the resolution of a selection. A coordinate is the rational
number it stands for, and a record carries what `_record_detail` makes of its
geometry.
-/

namespace AutocadMcp.Dimension

/-- `Bounds`: normalized and axis-aligned. -/
structure Bounds where
  minX : ℚ
  minY : ℚ
  maxX : ℚ
  maxY : ℚ
  le_x : minX ≤ maxX
  le_y : minY ≤ maxY
  deriving DecidableEq

namespace Bounds

def union (a b : Bounds) : Bounds where
  minX := min a.minX b.minX
  minY := min a.minY b.minY
  maxX := max a.maxX b.maxX
  maxY := max a.maxY b.maxY
  le_x := le_trans (min_le_left _ _) (le_trans a.le_x (le_max_left _ _))
  le_y := le_trans (min_le_left _ _) (le_trans a.le_y (le_max_left _ _))

def intersects (a b : Bounds) (tolerance : ℚ) : Bool :=
  !(a.maxX < b.minX - tolerance || b.maxX < a.minX - tolerance ||
    a.maxY < b.minY - tolerance || b.maxY < a.minY - tolerance)

def contains (a b : Bounds) (tolerance : ℚ) : Bool :=
  b.minX ≥ a.minX - tolerance && b.minY ≥ a.minY - tolerance &&
    b.maxX ≤ a.maxX + tolerance && b.maxY ≤ a.maxY + tolerance

/-- Moved outwards by a margin on every side. -/
def expand (b : Bounds) (margin : ℚ) (h : 0 ≤ margin) : Bounds where
  minX := b.minX - margin
  minY := b.minY - margin
  maxX := b.maxX + margin
  maxY := b.maxY + margin
  le_x := by linarith [b.le_x]
  le_y := by linarith [b.le_y]

/-- `to_dict`. -/
def toDict (b : Bounds) : Json :=
  .obj [("max", .arr [.num b.maxX, .num b.maxY]), ("min", .arr [.num b.minX, .num b.minY])]

end Bounds

/-- `EntityRecord`, with `_record_detail` of its geometry. -/
structure EntityRecord where
  handle : String
  entityType : String
  layer : String
  bbox : Bounds
  detail : Json
  deriving DecidableEq

inductive RegionMode where
  | intersect
  | contained
  deriving DecidableEq

/-- What the Python strings and hashes are taken to do: `str.upper`, `repr`, the order of
`_handle_sort_key`, and SHA-256 of the JSON text of a value, which tells values apart. -/
structure Runtime where
  upper : String → String
  repr : String → String
  handleLe : String → String → Bool
  sha256 : Json → Nat
  sha256_injective : Function.Injective sha256

/-- `GeometrySelection`: one way at most to restrict the geometry. -/
structure GeometrySelection where
  targetPartId : Option String := none
  region : Option Bounds := none
  entityIds : List String := []
  regionMode : RegionMode := .intersect
  useCurrentSelection : Bool := false
  single : targetPartId.isSome.toNat + region.isSome.toNat + (!entityIds.isEmpty).toNat +
    useCurrentSelection.toNat ≤ 1

def GeometrySelection.isActive (s : GeometrySelection) : Bool :=
  s.targetPartId.isSome || s.region.isSome || !s.entityIds.isEmpty || s.useCurrentSelection

/-- `GEOMETRY_TYPES`. -/
def geometryTypes : List String :=
  ["LINE", "LWPOLYLINE", "POLYLINE", "CIRCLE", "ARC", "ELLIPSE", "INSERT"]

def geometryOnly (records : List EntityRecord) : List EntityRecord :=
  records.filter fun r => r.entityType ∈ geometryTypes

section

variable (T : Runtime)

/-! ## Fingerprints -/

/-- What `records_fingerprint` keeps of a record. -/
def payload (r : EntityRecord) : Json :=
  .obj [("bbox", r.bbox.toDict), ("detail", r.detail), ("handle", .str (T.upper r.handle)),
    ("layer", .str r.layer), ("type", .str r.entityType)]

/-- The order of the records by `handle.upper()`. -/
def handleOrder (a b : EntityRecord) : Prop := (T.upper a.handle).toList ≤ (T.upper b.handle).toList

instance : DecidableRel (handleOrder T) := fun _ _ => inferInstanceAs (Decidable (_ ≤ _))

def recordsFingerprint (records : List EntityRecord) : Nat :=
  T.sha256 (.arr ((records.insertionSort (handleOrder T)).map (payload T)))

/-! ## Parts -/

/-- No two handles are equal up to case. -/
def checkDistinct (seen : List String) : List EntityRecord → Except String Unit
  | [] => .ok ()
  | r :: rest => do
      check (T.upper r.handle ∉ seen) ("Duplicate entity handle: " ++ r.handle)
      checkDistinct (T.upper r.handle :: seen) rest

/-- `_normalize_records`, for records that are converted already. -/
def normalizeRecords (records : List EntityRecord) : Except String (List EntityRecord) := do
  checkDistinct T [] records
  return records

/-- The bounds of a component, which is never empty. -/
def combinedBounds (first : EntityRecord) (rest : List EntityRecord) : Bounds :=
  rest.foldl (fun b r => b.union r.bbox) first.bbox

/-- A component of touching records, as its first record and the others. -/
abbrev Component := EntityRecord × List EntityRecord

def Component.bounds (c : Component) : Bounds := combinedBounds c.1 c.2

def Component.records (c : Component) : List EntityRecord := c.1 :: c.2

/-- One component goes into the first one that it touches, or behind all of them. -/
def place (tolerance : ℚ) (component : Component) : List Component → List Component × Bool
  | [] => ([component], false)
  | existing :: rest =>
      if component.bounds.intersects existing.bounds tolerance then
        ((existing.1, existing.2 ++ component.records) :: rest, true)
      else
        let (placed, merged) := place tolerance component rest
        (existing :: placed, merged)

/-- One round of `_merge_overlapping_components`, and whether two components were merged. -/
def mergeRound (tolerance : ℚ) : List Component → List Component → Bool → List Component × Bool
  | [], result, merged => (result, merged)
  | component :: rest, result, merged =>
      let (placed, now) := place tolerance component result
      mergeRound tolerance rest placed (merged || now)

theorem place_length (tolerance : ℚ) (component : Component) : ∀ result : List Component,
    (place tolerance component result).1.length + (place tolerance component result).2.toNat =
      result.length + 1
  | [] => rfl
  | existing :: rest => by
      unfold place
      split
      · rfl
      · have ih := place_length tolerance component rest
        simp only [List.length_cons]
        omega

theorem mergeRound_length (tolerance : ℚ) : ∀ (components result : List Component) (merged : Bool),
    (mergeRound tolerance components result merged).1.length +
      ((mergeRound tolerance components result merged).2.toNat - merged.toNat) ≤
      result.length + components.length
  | [], result, merged => by simp [mergeRound]
  | component :: rest, result, merged => by
      have hplace := place_length tolerance component result
      have ih := mergeRound_length tolerance rest (place tolerance component result).1
        (merged || (place tolerance component result).2)
      unfold mergeRound
      dsimp only
      rw [List.length_cons]
      cases merged <;> cases hnow : (place tolerance component result).2 <;>
        simp only [hnow, Bool.or_false, Bool.or_true, Bool.toNat_false, Bool.toNat_true] at * <;>
        omega

/-- `_merge_overlapping_components`: rounds until one merges nothing. -/
def mergeOverlapping (tolerance : ℚ) (components : List Component) : List Component :=
  if _h : (mergeRound tolerance components [] false).2 = true then
    mergeOverlapping tolerance (mergeRound tolerance components [] false).1
  else (mergeRound tolerance components [] false).1
termination_by components.length
decreasing_by
  have hlength := mergeRound_length tolerance components [] false
  rw [_h] at hlength
  simp only [Bool.toNat_true, Bool.toNat_false, List.length_nil] at hlength
  omega

structure DetectedPart where
  partId : String
  entities : List EntityRecord

/-- `_component_sort_key`, with the least handle. -/
def componentLe (a b : Component) : Bool :=
  let handle (c : Component) : List Char :=
    c.2.foldl (fun least r => min least r.handle.toList) c.1.handle.toList
  let x := a.bounds
  let y := b.bounds
  x.minX < y.minX || (x.minX = y.minX &&
    (x.minY < y.minY || (x.minY = y.minY && handle a ≤ handle b)))

/-- The order of the records of a part. -/
def recordLe (a b : EntityRecord) : Bool :=
  if T.handleLe a.handle b.handle then
    !T.handleLe b.handle a.handle || a.entityType.toList ≤ b.entityType.toList
  else false

/-- `detect_parts`. -/
def detectParts (records : List EntityRecord) (gapTolerance : Option ℚ) :
    Except String (List DetectedPart) := do
  let normalized ← normalizeRecords T records
  match normalized with
  | [] => .ok []
  | first :: rest => do
      match gapTolerance with
      | some gap => check (0 ≤ gap) "gap_tolerance must be a finite non-negative number"
      | none => .ok ()
      let drawing := combinedBounds first rest
      let scale := max (max (drawing.maxX - drawing.minX) (drawing.maxY - drawing.minY)) 1
      let tolerance := gapTolerance.getD (scale / 1000000000)
      let components := mergeOverlapping tolerance (normalized.map fun r => (r, []))
      let sorted := components.insertionSort (fun a b => componentLe a b = true)
      return sorted.mapIdx fun i c =>
        { partId := "part_" ++ toString (i + 1)
          entities := c.records.insertionSort (fun a b => recordLe T a b = true) }

/-! ## Selections -/

/-- The records whose handle is one of the given ones, up to case. -/
def withHandles (handles : List String) (records : List EntityRecord) : List EntityRecord :=
  records.filter fun r => T.upper r.handle ∈ handles.map T.upper

def Bounds.selects (region : Bounds) (mode : RegionMode) (r : EntityRecord) : Bool :=
  match mode with
  | .contained => region.contains r.bbox 0
  | .intersect => region.intersects r.bbox 0

/-- The requested handles that no record has. -/
def missingIds (entityIds : List String) (records : List EntityRecord) : List String :=
  ((entityIds.map T.upper).filter fun id => id ∉ records.map fun r => T.upper r.handle).insertionSort
    fun a b => T.handleLe a b = true

/-- `select_records`. -/
def selectRecords (records : List EntityRecord) (selection : GeometrySelection)
    (parts : List DetectedPart) : Except String (List EntityRecord) := do
  let normalized ← normalizeRecords T records
  if selection.isActive = false then .ok normalized
  else if selection.useCurrentSelection then .ok normalized
  else
    match selection.targetPartId with
    | some wanted =>
        match parts.find? fun p => p.partId = wanted with
        | some part => .ok (withHandles T (part.entities.map EntityRecord.handle) normalized)
        | none =>
            let available := ", ".intercalate (parts.map DetectedPart.partId)
            .error ("Unknown target_part_id " ++ T.repr wanted ++ "; available parts: " ++
              if available = "" then "none" else available)
    | none =>
        match selection.region with
        | some region => .ok (normalized.filter (region.selects selection.regionMode))
        | none => do
            let missing := missingIds T selection.entityIds normalized
            check (missing = []) ("Unknown entity_ids: " ++ ", ".intercalate missing)
            return withHandles T selection.entityIds normalized

end

end AutocadMcp.Dimension
