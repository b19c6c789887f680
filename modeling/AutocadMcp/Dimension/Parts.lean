import AutocadMcp.Dimension.Records
import AutocadMcp.Contracts.JsonCode
import AutocadMcp.Lib.Folds
import AutocadMcp.Lib.Partition
import Mathlib.Data.Prod.Lex
import Mathlib.Data.Sum.Order

/-!
# Parts

The rounds of `_merge_overlapping_components` end with the finest partition of the records
into blocks whose bounds stay apart: two blocks that are merged touch, and so would the
bounds of any blocks that they lie in. What `detect_parts` makes of the blocks does not
depend on the order in which their records stand.
-/

namespace AutocadMcp.Dimension

/-! ## Bounds -/

namespace Bounds

/-- One box lies in another. -/
structure Within (a b : Bounds) : Prop where
  minX : b.minX ≤ a.minX
  minY : b.minY ≤ a.minY
  maxX : a.maxX ≤ b.maxX
  maxY : a.maxY ≤ b.maxY

theorem Within.refl (a : Bounds) : a.Within a := ⟨le_rfl, le_rfl, le_rfl, le_rfl⟩

theorem union_within {a b c : Bounds} : (a.union b).Within c ↔ a.Within c ∧ b.Within c := by
  constructor
  · rintro ⟨h1, h2, h3, h4⟩
    simp only [union, le_min_iff, max_le_iff] at h1 h2 h3 h4
    exact ⟨⟨h1.1, h2.1, h3.1, h4.1⟩, ⟨h1.2, h2.2, h3.2, h4.2⟩⟩
  · rintro ⟨h, h'⟩
    exact ⟨le_min h.minX h'.minX, le_min h.minY h'.minY, max_le h.maxX h'.maxX,
      max_le h.maxY h'.maxY⟩

theorem union_comm (a b : Bounds) : a.union b = b.union a := by
  simp [union, min_comm, max_comm]

theorem union_assoc (a b c : Bounds) : (a.union b).union c = a.union (b.union c) := by
  simp [union, min_assoc, max_assoc]

theorem intersects_iff {a b : Bounds} {tolerance : ℚ} :
    a.intersects b tolerance = true ↔
      b.minX - tolerance ≤ a.maxX ∧ a.minX - tolerance ≤ b.maxX ∧
      b.minY - tolerance ≤ a.maxY ∧ a.minY - tolerance ≤ b.maxY := by
  simp [intersects, and_assoc]

theorem intersects_comm (a b : Bounds) (tolerance : ℚ) :
    a.intersects b tolerance = b.intersects a tolerance := by
  rw [Bool.eq_iff_iff, intersects_iff, intersects_iff]
  tauto

/-- Larger boxes touch where smaller ones do. -/
theorem intersects_mono {a b a' b' : Bounds} {tolerance : ℚ} (ha : a.Within a') (hb : b.Within b')
    (h : a.intersects b tolerance = true) : a'.intersects b' tolerance = true := by
  rw [intersects_iff] at h ⊢
  obtain ⟨h1, h2, h3, h4⟩ := h
  refine ⟨?_, ?_, ?_, ?_⟩
  · linarith [hb.minX, ha.maxX]
  · linarith [ha.minX, hb.maxX]
  · linarith [hb.minY, ha.maxY]
  · linarith [ha.minY, hb.maxY]

end Bounds

/-- The bounds of a block of records. -/
def boundsOf : List EntityRecord → Option Bounds
  | [] => none
  | first :: rest => some (combinedBounds first rest)

theorem combinedBounds_eq (first : EntityRecord) (rest : List EntityRecord) :
    combinedBounds first rest = (rest.map EntityRecord.bbox).foldl Bounds.union first.bbox := by
  rw [combinedBounds, List.foldl_map]

theorem combinedBounds_within {first : EntityRecord} {rest : List EntityRecord} {b : Bounds} :
    (combinedBounds first rest).Within b ↔ ∀ r ∈ first :: rest, r.bbox.Within b := by
  have hfold : ∀ (rest : List EntityRecord) (start : Bounds),
      (rest.foldl (fun b r => b.union r.bbox) start).Within b ↔
        start.Within b ∧ ∀ r ∈ rest, r.bbox.Within b := by
    intro rest
    induction rest with
    | nil => simp
    | cons r rest ih =>
        intro start
        rw [List.foldl_cons, ih, Bounds.union_within, List.forall_mem_cons, and_assoc]
  rw [combinedBounds, hfold, List.forall_mem_cons]

/-- The bounds of a block lie in those of every block that it is part of. -/
theorem boundsOf_mono {block other : List EntityRecord} {b b' : Bounds} (h : block ⊆ other)
    (hb : boundsOf block = some b) (hb' : boundsOf other = some b') : b.Within b' := by
  cases block with
  | nil => cases hb
  | cons first rest =>
      cases other with
      | nil => cases hb'
      | cons first' rest' =>
          cases hb
          cases hb'
          refine combinedBounds_within.mpr fun r hr => ?_
          exact combinedBounds_within.mp (Bounds.Within.refl _) r (h hr)

theorem boundsOf_perm {block other : List EntityRecord} (h : block.Perm other) :
    boundsOf block = boundsOf other := by
  cases block with
  | nil => rw [List.nil_perm.mp h]
  | cons first rest =>
      cases other with
      | nil => exact absurd h.length_eq (by simp)
      | cons first' rest' =>
          rw [boundsOf, boundsOf, combinedBounds_eq, combinedBounds_eq]
          exact congrArg some (foldl_perm Bounds.union_comm Bounds.union_assoc
            (h.map EntityRecord.bbox) _ _ _ _ rfl rfl)

/-- The bounds of two blocks do not touch within the tolerance. -/
def Apart (tolerance : ℚ) (block other : List EntityRecord) : Prop :=
  ∀ b ∈ boundsOf block, ∀ b' ∈ boundsOf other, b.intersects b' tolerance = false

theorem Component.boundsOf_records (c : Component) : boundsOf c.records = some c.bounds := rfl

theorem apart_components {tolerance : ℚ} {c c' : Component} :
    Apart tolerance c.records c'.records ↔ c.bounds.intersects c'.bounds tolerance = false := by
  simp [Apart, Component.boundsOf_records]

theorem Apart.symm {tolerance : ℚ} {block other : List EntityRecord}
    (h : Apart tolerance block other) : Apart tolerance other block := by
  intro b hb b' hb'
  rw [Bounds.intersects_comm]
  exact h b' hb' b hb

/-! ## A round -/

section

variable {tolerance : ℚ}

/-- The records of components, in the order in which they stand. -/
def recordsOf (components : List Component) : List EntityRecord :=
  (components.map Component.records).flatten

theorem recordsOf_cons (c : Component) (cs : List Component) :
    recordsOf (c :: cs) = c.records ++ recordsOf cs := rfl

theorem recordsOf_append (cs cs' : List Component) :
    recordsOf (cs ++ cs') = recordsOf cs ++ recordsOf cs' := by
  simp [recordsOf]

/-- A component keeps its records wherever it goes. -/
theorem place_perm (component : Component) (result : List Component) :
    (recordsOf (place tolerance component result).1).Perm
      (recordsOf result ++ component.records) := by
  induction result with
  | nil => simp [place, recordsOf]
  | cons existing rest ih =>
      unfold place
      split
      · show (existing.1 :: (existing.2 ++ component.records) ++ recordsOf rest).Perm
          (existing.1 :: existing.2 ++ recordsOf rest ++ component.records)
        rw [List.cons_append, List.cons_append, List.cons_append, List.append_assoc,
          List.append_assoc]
        exact (List.perm_append_comm.append_left existing.2).cons existing.1
      · dsimp only
        rw [recordsOf_cons, recordsOf_cons, List.append_assoc]
        exact ih.append_left existing.records

theorem mergeRound_perm (components result : List Component) (merged : Bool) :
    (recordsOf (mergeRound tolerance components result merged).1).Perm
      (recordsOf result ++ recordsOf components) := by
  induction components generalizing result merged with
  | nil => simp [mergeRound, recordsOf]
  | cons component rest ih =>
      unfold mergeRound
      refine (ih _ _).trans ?_
      rw [recordsOf_cons, ← List.append_assoc]
      exact (place_perm component result).append_right _

/-- Each component lies in a block. -/
def Inside (blocks : List (List EntityRecord)) (components : List Component) : Prop :=
  ∀ c ∈ components, ∃ block ∈ blocks, c.records ⊆ block

/-- Two blocks that keep apart hold no components that touch. -/
theorem same_block {blocks : List (List EntityRecord)} (hblocks : blocks.Pairwise (Apart tolerance))
    {c c' : Component} (htouch : c.bounds.intersects c'.bounds tolerance = true)
    {block block' : List EntityRecord} (hblock : block ∈ blocks) (hblock' : block' ∈ blocks)
    (hc : c.records ⊆ block) (hc' : c'.records ⊆ block') : block = block' := by
  by_contra hne
  have hsymm : Std.Symm (Apart tolerance) := ⟨fun _ _ h => h.symm⟩
  have hapart := hblocks.forall hblock hblock' hne
  have hsome : ∀ {c : Component} {block : List EntityRecord}, c.records ⊆ block →
      ∃ b, boundsOf block = some b ∧ c.bounds.Within b := by
    intro c block hsub
    cases block with
    | nil => exact absurd (hsub List.mem_cons_self) (by simp)
    | cons first others =>
        exact ⟨_, rfl, boundsOf_mono hsub c.boundsOf_records rfl⟩
  obtain ⟨b, hb, hwithin⟩ := hsome hc
  obtain ⟨b', hb', hwithin'⟩ := hsome hc'
  have hmeet := Bounds.intersects_mono hwithin hwithin' htouch
  rw [hapart b hb b' hb'] at hmeet
  cases hmeet

theorem place_inside {blocks : List (List EntityRecord)}
    (hblocks : blocks.Pairwise (Apart tolerance)) {component : Component}
    {result : List Component} (hcomponent : Inside blocks [component])
    (hresult : Inside blocks result) : Inside blocks (place tolerance component result).1 := by
  induction result with
  | nil => exact hcomponent
  | cons existing rest ih =>
      obtain ⟨block, hblock, hin⟩ := hresult existing List.mem_cons_self
      have hrest : Inside blocks rest := fun c hc => hresult c (List.mem_cons_of_mem _ hc)
      unfold place
      split
      case isTrue htouch =>
        obtain ⟨block', hblock', hin'⟩ := hcomponent component List.mem_cons_self
        obtain rfl := same_block hblocks htouch hblock' hblock hin' hin
        intro c hc
        rcases List.mem_cons.mp hc with rfl | hc
        · refine ⟨block', hblock, fun r hr => ?_⟩
          rw [Component.records, ← List.cons_append, List.mem_append] at hr
          rcases hr with hr | hr
          · exact hin hr
          · exact hin' hr
        · exact hrest c hc
      case isFalse =>
        intro c hc
        rcases List.mem_cons.mp hc with rfl | hc
        · exact ⟨block, hblock, hin⟩
        · exact ih hrest c hc

theorem mergeRound_inside {blocks : List (List EntityRecord)}
    (hblocks : blocks.Pairwise (Apart tolerance)) (components : List Component)
    {result : List Component} {merged : Bool} (hcomponents : Inside blocks components)
    (hresult : Inside blocks result) :
    Inside blocks (mergeRound tolerance components result merged).1 := by
  induction components generalizing result merged with
  | nil => exact hresult
  | cons component rest ih =>
      unfold mergeRound
      refine ih (fun c hc => hcomponents c (List.mem_cons_of_mem _ hc)) ?_
      refine place_inside hblocks (fun c hc => ?_) hresult
      rw [List.mem_singleton.mp hc]
      exact hcomponents component List.mem_cons_self

/-- A component that is not merged is put behind the others, and touches none of them. -/
theorem place_unmerged {component : Component} {result : List Component}
    (h : (place tolerance component result).2 = false) :
    (place tolerance component result).1 = result ++ [component] ∧
      ∀ existing ∈ result, component.bounds.intersects existing.bounds tolerance = false := by
  induction result with
  | nil => exact ⟨rfl, by simp⟩
  | cons existing rest ih =>
      unfold place at h ⊢
      split at h
      case isTrue => cases h
      case isFalse htouch =>
        obtain ⟨hplaced, hrest⟩ := ih h
        rw [if_neg htouch]
        refine ⟨congrArg (existing :: ·) hplaced, ?_⟩
        rw [List.forall_mem_cons]
        exact ⟨Bool.not_eq_true _ ▸ htouch, hrest⟩

theorem mergeRound_merged (components result : List Component) :
    (mergeRound tolerance components result true).2 = true := by
  induction components generalizing result with
  | nil => rfl
  | cons component rest ih =>
      show (mergeRound tolerance rest (place tolerance component result).1
        (true || (place tolerance component result).2)).2 = true
      rw [Bool.true_or]
      exact ih _

/-- A round that merges nothing leaves components that keep apart. -/
theorem mergeRound_unmerged (components : List Component) {result : List Component}
    (hresult : (result.map Component.records).Pairwise (Apart tolerance))
    (h : (mergeRound tolerance components result false).2 = false) :
    ((mergeRound tolerance components result false).1.map Component.records).Pairwise
      (Apart tolerance) := by
  induction components generalizing result with
  | nil => exact hresult
  | cons component rest ih =>
      have hround : mergeRound tolerance (component :: rest) result false =
          mergeRound tolerance rest (place tolerance component result).1
            (place tolerance component result).2 := by
        show mergeRound tolerance rest (place tolerance component result).1
          (false || (place tolerance component result).2) = _
        rw [Bool.false_or]
      rw [hround] at h ⊢
      cases hnow : (place tolerance component result).2 with
      | true =>
          rw [hnow, mergeRound_merged] at h
          cases h
      | false =>
          rw [hnow] at h
          obtain ⟨hplaced, hfree⟩ := place_unmerged hnow
          refine ih ?_ h
          rw [hplaced, List.map_append, List.pairwise_append]
          refine ⟨hresult, List.pairwise_singleton _ _, ?_⟩
          intro block hblock other hother
          obtain ⟨existing, hexisting, rfl⟩ := List.mem_map.mp hblock
          rw [List.mem_singleton.mp hother]
          exact (apart_components.mpr (hfree existing hexisting)).symm

/-! ## All rounds -/

theorem mergeOverlapping_perm (components : List Component) :
    (recordsOf (mergeOverlapping tolerance components)).Perm (recordsOf components) := by
  induction components using mergeOverlapping.induct tolerance with
  | case1 components hmerged ih =>
      rw [mergeOverlapping, dif_pos hmerged]
      exact ih.trans (mergeRound_perm components [] false)
  | case2 components hmerged =>
      rw [mergeOverlapping, dif_neg hmerged]
      exact mergeRound_perm components [] false

theorem mergeOverlapping_inside {blocks : List (List EntityRecord)}
    (hblocks : blocks.Pairwise (Apart tolerance)) (components : List Component)
    (h : Inside blocks components) : Inside blocks (mergeOverlapping tolerance components) := by
  have hnone : Inside blocks [] := fun c hc => absurd hc (List.not_mem_nil)
  induction components using mergeOverlapping.induct tolerance with
  | case1 components hmerged ih =>
      rw [mergeOverlapping, dif_pos hmerged]
      exact ih (mergeRound_inside hblocks components h hnone)
  | case2 components hmerged =>
      rw [mergeOverlapping, dif_neg hmerged]
      exact mergeRound_inside hblocks components h hnone

theorem mergeOverlapping_apart (components : List Component) :
    ((mergeOverlapping tolerance components).map Component.records).Pairwise (Apart tolerance) := by
  induction components using mergeOverlapping.induct tolerance with
  | case1 components hmerged ih =>
      rw [mergeOverlapping, dif_pos hmerged]
      exact ih
  | case2 components hmerged =>
      rw [mergeOverlapping, dif_neg hmerged]
      exact mergeRound_unmerged components List.Pairwise.nil (Bool.not_eq_true _ ▸ hmerged)

/-- The components that the records end in. -/
def componentsOf (tolerance : ℚ) (records : List EntityRecord) : List Component :=
  mergeOverlapping tolerance (records.map fun r => (r, []))

/-- The merging finds the finest partition whose blocks keep apart. -/
theorem componentsOf_finest (tolerance : ℚ) (records : List EntityRecord) :
    IsFinest (Apart tolerance) ((componentsOf tolerance records).map Component.records) records := by
  have hsingle : recordsOf (records.map fun r => ((r, []) : Component)) = records := by
    have hnested : (records.map fun r => [r]).flatten = records := by
      induction records with
      | nil => rfl
      | cons r rest ih => exact congrArg (r :: ·) ih
    rw [recordsOf, List.map_map]
    exact hnested
  refine ⟨⟨?_, ?_⟩, mergeOverlapping_apart _, ?_⟩
  · intro block hblock
    obtain ⟨c, -, rfl⟩ := List.mem_map.mp hblock
    exact List.cons_ne_nil _ _
  · have hperm := @mergeOverlapping_perm tolerance (records.map fun r => ((r, []) : Component))
    rw [hsingle] at hperm
    exact hperm
  · intro blocks hblocks hapart block hblock
    obtain ⟨c, hc, rfl⟩ := List.mem_map.mp hblock
    refine mergeOverlapping_inside hapart _ ?_ c hc
    intro single hsingle'
    obtain ⟨r, hr, rfl⟩ := List.mem_map.mp hsingle'
    obtain ⟨block, hblock, hmem⟩ := List.mem_flatten.mp (hblocks.perm.mem_iff.mpr hr)
    refine ⟨block, hblock, fun x hx => ?_⟩
    rw [List.mem_singleton.mp hx]
    exact hmem

end

/-! ## The order of the parts -/

/-- The least handle of a component. -/
def leastHandle (c : Component) : List Char :=
  c.2.foldl (fun least r => min least r.handle.toList) c.1.handle.toList

/-- `_component_sort_key`. -/
def componentKey (c : Component) : ℚ ×ₗ ℚ ×ₗ List Char :=
  toLex (c.bounds.minX, toLex (c.bounds.minY, leastHandle c))

theorem componentLe_iff (a b : Component) :
    componentLe a b = true ↔ componentKey a ≤ componentKey b := by
  have hle : componentLe a b = (a.bounds.minX < b.bounds.minX || (a.bounds.minX = b.bounds.minX &&
      (a.bounds.minY < b.bounds.minY || (a.bounds.minY = b.bounds.minY &&
        leastHandle a ≤ leastHandle b)))) := rfl
  rw [hle]
  simp [componentKey, Prod.Lex.le_iff]

theorem leastHandle_eq (c : Component) :
    leastHandle c = (c.2.map fun r => r.handle.toList).foldl min c.1.handle.toList := by
  rw [leastHandle, List.foldl_map]

/-- The least handle is one of the handles. -/
theorem leastHandle_mem (c : Component) : ∃ r ∈ c.records, leastHandle c = r.handle.toList := by
  rw [leastHandle_eq]
  refine foldl_choose (P := fun h => ∃ r ∈ c.records, h = r.handle.toList) min_choice _ _
    ⟨c.1, List.mem_cons_self, rfl⟩ ?_
  intro h hh
  obtain ⟨r, hr, rfl⟩ := List.mem_map.mp hh
  exact ⟨r, List.mem_cons_of_mem _ hr, rfl⟩

/-- The key does not depend on the order in which a component holds its records. -/
theorem componentKey_perm {a b : Component} (h : a.records.Perm b.records) :
    componentKey a = componentKey b := by
  have hbounds : a.bounds = b.bounds := Option.some.inj (boundsOf_perm h)
  have hleast : leastHandle a = leastHandle b := by
    rw [leastHandle_eq, leastHandle_eq]
    exact foldl_perm min_comm min_assoc (h.map fun r => r.handle.toList) _ _ _ _ rfl rfl
  rw [componentKey, componentKey, hbounds, hleast]

/-- The key of the component that a block makes. -/
def blockKey : List EntityRecord → ℚ ×ₗ ℚ ×ₗ List Char
  | [] => toLex (0, toLex (0, []))
  | first :: rest => componentKey (first, rest)

theorem blockKey_perm {block other : List EntityRecord} (h : block.Perm other) :
    blockKey block = blockKey other := by
  cases block with
  | nil => rw [List.nil_perm.mp h]
  | cons first rest =>
      cases other with
      | nil => exact absurd h.length_eq (by simp)
      | cons first' rest' => exact @componentKey_perm (first, rest) (first', rest') h

/-- Blocks with one key share a handle. -/
theorem exists_handle_of_blockKey_eq {block other : List EntityRecord} (hblock : block ≠ [])
    (hother : other ≠ []) (h : blockKey block = blockKey other) :
    ∃ r ∈ block, ∃ r' ∈ other, r.handle = r'.handle := by
  cases block with
  | nil => exact absurd rfl hblock
  | cons first rest =>
      cases other with
      | nil => exact absurd rfl hother
      | cons first' rest' =>
          obtain ⟨r, hr, hleast⟩ := leastHandle_mem (first, rest)
          obtain ⟨r', hr', hleast'⟩ := leastHandle_mem (first', rest')
          have hsame : leastHandle (first, rest) = leastHandle (first', rest') :=
            congrArg (fun key => (ofLex (ofLex key).2).2) h
          rw [hleast, hleast'] at hsame
          exact ⟨r, hr, r', hr', String.toList_injective hsame⟩

/-! ## Handles -/

/-- The value of a hexadecimal digit. -/
def hexDigit? (c : Char) : Option ℕ :=
  if '0' ≤ c ∧ c ≤ '9' then some (c.toNat - '0'.toNat)
  else if 'a' ≤ c ∧ c ≤ 'f' then some (c.toNat - 'a'.toNat + 10)
  else if 'A' ≤ c ∧ c ≤ 'F' then some (c.toNat - 'A'.toNat + 10)
  else none

/-- Digits with single underscores between them, behind a digit or not. -/
def hexDigits? (behindDigit : Bool) (value : ℕ) : List Char → Option ℕ
  | [] => if behindDigit then some value else none
  | c :: rest =>
      if c = '_' then
        if behindDigit then hexDigits? false value rest else none
      else
        match hexDigit? c with
        | some digit => hexDigits? true (16 * value + digit) rest
        | none => none

/-- An underscore may follow the prefix `0x`. -/
def unsignedHex? : List Char → Option ℕ
  | '0' :: x :: '_' :: rest =>
      if x = 'x' ∨ x = 'X' then hexDigits? false 0 rest
      else hexDigits? false 0 ('0' :: x :: '_' :: rest)
  | '0' :: x :: rest =>
      if x = 'x' ∨ x = 'X' then hexDigits? false 0 rest else hexDigits? false 0 ('0' :: x :: rest)
  | digits => hexDigits? false 0 digits

def isSpace (c : Char) : Bool := c = ' ' || ('\t' ≤ c && c ≤ '\r')

/-- `int(handle, 16)`, where `ascii` reads the digits and spaces outside ASCII. -/
def handleNumber? (ascii : Char → Char) (handle : String) : Option ℤ :=
  let text := handle.toList.map fun c => if c.toNat < 127 then c else ascii c
  match ((text.dropWhile isSpace).reverse.dropWhile isSpace).reverse with
  | '-' :: digits => (unsignedHex? digits).map fun n => -(n : ℤ)
  | '+' :: digits => (unsignedHex? digits).map fun n => (n : ℤ)
  | digits => (unsignedHex? digits).map fun n => (n : ℤ)

/-- `_handle_sort_key`: numbers before other texts. -/
def handleSortKey (upper : String → String) (ascii : Char → Char) (handle : String) :
    ℤ ⊕ₗ List Char :=
  match handleNumber? ascii handle with
  | some number => toLex (.inl number)
  | none => toLex (.inr (upper handle).toList)

section

variable {T : Runtime} {ascii : Char → Char}

/-- The order of the handles is that of their keys. -/
def Runtime.OrdersHandles (T : Runtime) (ascii : Char → Char) : Prop :=
  ∀ a b, T.handleLe a b = true ↔ handleSortKey T.upper ascii a ≤ handleSortKey T.upper ascii b

/-- The key by which the records of a part are sorted. -/
def recordKey (T : Runtime) (ascii : Char → Char) (r : EntityRecord) :
    (ℤ ⊕ₗ List Char) ×ₗ List Char :=
  toLex (handleSortKey T.upper ascii r.handle, r.entityType.toList)

theorem recordLe_iff (hT : T.OrdersHandles ascii) (a b : EntityRecord) :
    recordLe T a b = true ↔ recordKey T ascii a ≤ recordKey T ascii b := by
  unfold recordLe
  rw [recordKey, recordKey, Prod.Lex.le_iff]
  have hab := hT a.handle b.handle
  have hba := hT b.handle a.handle
  by_cases h : T.handleLe a.handle b.handle = true
  · rw [if_pos h]
    by_cases h' : T.handleLe b.handle a.handle = true
    · have heq := le_antisymm (hab.mp h) (hba.mp h')
      simp [h', heq]
    · have hlt := lt_of_not_ge fun hge => h' (hba.mpr hge)
      simp [h', hlt]
  · rw [if_neg h]
    have hlt := lt_of_not_ge fun hge => h (hab.mpr hge)
    simp [hlt.not_gt, hlt.ne']

/-! ## The parts -/

/-- The records of a part in their order. -/
def sortedBlock (T : Runtime) (block : List EntityRecord) : List EntityRecord :=
  block.insertionSort fun a b => recordLe T a b = true

theorem sortedBlock_perm (T : Runtime) (block : List EntityRecord) :
    (sortedBlock T block).Perm block := List.perm_insertionSort _ _

theorem checkDistinct_of_nodup {seen : List String} {records : List EntityRecord}
    (h : (records.map fun r => T.upper r.handle).Nodup)
    (hseen : ∀ r ∈ records, T.upper r.handle ∉ seen) :
    checkDistinct T seen records = .ok () := by
  induction records generalizing seen with
  | nil => rfl
  | cons r rest ih =>
      rw [List.map_cons, List.nodup_cons] at h
      obtain ⟨hr, hrest⟩ := h
      refine bind_eq_ok.mpr ⟨(), check_eq_ok.mpr (hseen r List.mem_cons_self), ih hrest ?_⟩
      intro r' hr' hmem
      rcases List.mem_cons.mp hmem with heq | hmem
      · exact hr (List.mem_map.mpr ⟨r', hr', heq⟩)
      · exact hseen r' (List.mem_cons_of_mem _ hr') hmem

/-- The parts of records with distinct handles, for a tolerance that is given. -/
theorem detectParts_eq {records : List EntityRecord} {gap : ℚ} (hgap : 0 ≤ gap)
    (h : (records.map fun r => T.upper r.handle).Nodup) :
    detectParts T records (some gap) = .ok
      ((((componentsOf gap records).insertionSort fun a b => componentLe a b = true).map
        fun c => sortedBlock T c.records).mapIdx fun i entities =>
          { partId := "part_" ++ toString (i + 1), entities := entities }) := by
  have hnormalize : normalizeRecords T records = .ok records :=
    bind_eq_ok.mpr ⟨(), checkDistinct_of_nodup h fun r _ => List.not_mem_nil, rfl⟩
  unfold detectParts
  refine bind_eq_ok.mpr ⟨records, hnormalize, ?_⟩
  cases hrecords : records with
  | nil =>
      have hnone : componentsOf gap [] = [] := by
        rw [componentsOf, mergeOverlapping]
        rfl
      rw [hnone]
      rfl
  | cons first rest =>
      refine bind_eq_ok.mpr ⟨(), check_eq_ok.mpr hgap, ?_⟩
      refine congrArg Except.ok (List.ext_getElem? fun i => ?_)
      simp only [List.getElem?_mapIdx, List.getElem?_map, Option.map_map]
      rfl

variable {records records' : List EntityRecord} {gap : ℚ}

/-- The blocks of the parts, in their order. -/
def partBlocks (T : Runtime) (gap : ℚ) (records : List EntityRecord) : List (List EntityRecord) :=
  ((componentsOf gap records).insertionSort fun a b => componentLe a b = true).map fun c =>
    sortedBlock T c.records

theorem Apart.congr {a a' b b' : List EntityRecord} (ha : a.Perm a') (hb : b.Perm b')
    (h : Apart gap a b) : Apart gap a' b' := by
  unfold Apart at h ⊢
  rwa [← boundsOf_perm ha, ← boundsOf_perm hb]

/-- Putting the parts in order keeps the finest partition. -/
theorem partBlocks_finest (T : Runtime) (gap : ℚ) (records : List EntityRecord) :
    IsFinest (Apart gap) (partBlocks T gap records) records := by
  have hperm := (List.perm_insertionSort (fun a b => componentLe a b = true)
    (componentsOf gap records)).symm.map Component.records
  have hfinest := (componentsOf_finest gap records).reorder Apart.symm Apart.congr
    (sortedBlock_perm T) hperm
  rw [List.map_map] at hfinest
  exact hfinest

/-- Two records of one handle are the same one, where the handles have different keys. -/
theorem eq_of_handle_eq (h : (records.map (handleSortKey T.upper ascii ·.handle)).Nodup)
    {r r' : EntityRecord} (hr : r ∈ records) (hr' : r' ∈ records)
    (heq : handleSortKey T.upper ascii r.handle = handleSortKey T.upper ascii r'.handle) : r = r' :=
  List.inj_on_of_nodup_map h hr hr' heq

/-- The blocks of the parts do not depend on the order of the records. -/
theorem partBlocks_perm (hT : T.OrdersHandles ascii)
    (hkeys : (records.map (handleSortKey T.upper ascii ·.handle)).Nodup)
    (hperm : records.Perm records') : partBlocks T gap records = partBlocks T gap records' := by
  have hnodup : records.Nodup := List.Nodup.of_map _ hkeys
  have hblocks := componentsOf_finest gap records
  have hothers := componentsOf_finest gap records'
  -- a block is sorted by the keys of its handles, which are all different
  have hsorted : ∀ block ∈ (componentsOf gap records).map Component.records,
      ∀ other ∈ (componentsOf gap records').map Component.records, block.Perm other →
        sortedBlock T block = sortedBlock T other := by
    intro block hblock other _ h
    refine insertionSort_key_congr (recordLe_iff hT) h fun r hr r' hr' heq => ?_
    refine eq_of_handle_eq hkeys (hblocks.partition.subset hblock hr)
      (hblocks.partition.subset hblock hr') ?_
    exact congrArg (fun key => (ofLex key).1) heq
  have hsame := map_perm_of_same_blocks (sortedBlock_perm T) hsorted hblocks.partition
    hothers.partition hnodup (hperm.nodup_iff.mp hnodup) (hblocks.unique hothers hnodup hperm)
    (hothers.unique hblocks (hperm.nodup_iff.mp hnodup) hperm.symm)
  -- the blocks are sorted by keys that no two of them share
  have hblockLe : ∀ records : List EntityRecord, partBlocks T gap records =
      (((componentsOf gap records).map Component.records).map (sortedBlock T)).insertionSort
        fun a b => blockKey a ≤ blockKey b := by
    intro records
    rw [List.map_map]
    refine List.map_insertionSort _ _ _ _ fun c _ c' _ => ?_
    rw [componentLe_iff, blockKey_perm (sortedBlock_perm T c.records),
      blockKey_perm (sortedBlock_perm T c'.records)]
    exact Iff.rfl
  have hpartition : IsPartition (((componentsOf gap records).map Component.records).map
      (sortedBlock T)) records :=
    (hblocks.reorder Apart.symm Apart.congr (sortedBlock_perm T) (List.Perm.refl _)).partition
  rw [hblockLe, hblockLe]
  refine insertionSort_key_congr (fun _ _ => Iff.rfl) hsame fun block hblock other hother heq => ?_
  obtain ⟨r, hr, r', hr', hhandle⟩ := exists_handle_of_blockKey_eq
    (hpartition.nonempty block hblock) (hpartition.nonempty other hother) heq
  obtain rfl := eq_of_handle_eq hkeys (hpartition.subset hblock hr) (hpartition.subset hother hr')
    (congrArg _ hhandle)
  exact hpartition.eq_of_mem hnodup hblock hother hr hr'

/-- The parts are the finest grouping of the records whose bounds keep apart, and they do not
depend on the order of the records. -/
theorem detectParts_finest_and_stable (hT : T.OrdersHandles ascii) (hgap : 0 ≤ gap)
    (hdistinct : (records.map fun r => T.upper r.handle).Nodup)
    (hkeys : (records.map (handleSortKey T.upper ascii ·.handle)).Nodup) :
    ∃ parts, detectParts T records (some gap) = .ok parts ∧
      IsFinest (Apart gap) (parts.map DetectedPart.entities) records ∧
      ∀ records' : List EntityRecord, records.Perm records' →
        detectParts T records' (some gap) = .ok parts := by
  refine ⟨_, detectParts_eq hgap hdistinct, ?_, ?_⟩
  · have hentities : ∀ blocks : List (List EntityRecord), (blocks.mapIdx fun i entities =>
        ({ partId := "part_" ++ toString (i + 1), entities := entities } : DetectedPart)).map
          DetectedPart.entities = blocks := fun blocks =>
      List.ext_getElem? fun i => by simp [Function.comp_def]
    rw [hentities]
    exact partBlocks_finest T gap records
  · intro records' hperm
    have hdistinct' := (hperm.map fun r => T.upper r.handle).nodup_iff.mp hdistinct
    have hblocks : partBlocks T gap records = partBlocks T gap records' :=
      partBlocks_perm hT hkeys hperm
    unfold partBlocks at hblocks
    rw [detectParts_eq hgap hdistinct', ← hblocks]

end

/-! ## Two touching lines and one apart -/

section Sample

def hexRuntime : Runtime where
  upper := id
  repr := id
  handleLe a b := handleSortKey id (fun _ => '?') a ≤ handleSortKey id (fun _ => '?') b
  sha256 := Json.number
  sha256_injective := Json.number_injective

theorem le_lineEnd (x : ℚ) : x ≤ x + 2 := by linarith

theorem le_lineTop : (0 : ℚ) ≤ 1 := by norm_num

def lineFrom (handle : String) (x : ℚ) : EntityRecord where
  handle := handle
  entityType := "LINE"
  layer := "0"
  bbox := { minX := x, minY := 0, maxX := x + 2, maxY := 1, le_x := le_lineEnd x, le_y := le_lineTop }
  detail := .null

def sampleLines : List EntityRecord := [lineFrom "1F" 7, lineFrom "A" 0, lineFrom "2B" 2]

theorem sample_lines_finest_and_stable :
    ∃ parts, detectParts hexRuntime sampleLines (some (1 / 2)) = .ok parts ∧
      IsFinest (Apart (1 / 2)) (parts.map DetectedPart.entities) sampleLines ∧
      ∀ records' : List EntityRecord, sampleLines.Perm records' →
        detectParts hexRuntime records' (some (1 / 2)) = .ok parts :=
  detectParts_finest_and_stable (fun _ _ => decide_eq_true_iff) (by norm_num) (by decide +kernel)
    (by decide +kernel)

end Sample

end AutocadMcp.Dimension
