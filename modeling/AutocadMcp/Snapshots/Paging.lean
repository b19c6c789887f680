import AutocadMcp.Snapshots.Cursor
import AutocadMcp.Snapshots.Retention

/-!
# Paging through a snapshot

A query answers with one page of the entities that its filter selects, and with a cursor for the
next page. Whoever follows the cursors while the snapshot is kept sees each selected entity once and
in order, whatever the sizes of the pages.
-/

namespace AutocadMcp.Snapshots

open JsonText CanonicalJson

/-- A `CadQueryInput`. -/
structure QueryInput where
  snapshotId : String
  types : List String
  layers : List String
  cursor : Option String
  limit : Nat

/-- A `CadQueryOutput`. -/
structure QueryOutput where
  snapshotId : String
  documentRevision : String
  entities : List Entity
  total : Nat
  nextCursor : Option String

section

variable (sha256 : List Char → String)

/-- `cursor_filter_hash`. -/
def cursorFilterHash (types layers : List String) : String :=
  sha256 (canonicalText
    (fields [("types", .array (types.map text)), ("layers", .array (layers.map text))]))

/-- `_filtered_entities`. -/
def filteredEntities (r : SnapshotRecord) (types layers : List String) : List Entity :=
  r.entities.filter fun e =>
    (types.isEmpty || e.entityType ∈ types) && (layers.isEmpty || e.layer ∈ layers)

/-- `_cursor_offset`. -/
def cursorOffset (r : SnapshotRecord) (request : QueryInput) : Except String Nat :=
  match request.cursor.filter (· ≠ "") with
  | none => .ok 0
  | some cursor =>
      match decodeCursor cursor with
      | none => .error "invalid_request"
      | some c =>
          if c.snapshotId = r.snapshotId ∧
              c.filterHash = cursorFilterHash sha256 request.types request.layers then
            .ok c.offset
          else .error "invalid_request"

/-- The answer to a query on the snapshot that it names. -/
def queryRecord (r : SnapshotRecord) (request : QueryInput) : Except String QueryOutput := do
  let selected := filteredEntities r request.types request.layers
  let offset ← cursorOffset sha256 r request
  if selected.length < offset then .error "invalid_request"
  else
    return {
      snapshotId := r.snapshotId
      documentRevision := r.documentRevision
      entities := (selected.drop offset).take request.limit
      total := selected.length
      nextCursor :=
        if offset + request.limit < selected.length then
          some (encodeCursor ⟨r.snapshotId,
            cursorFilterHash sha256 request.types request.layers, offset + request.limit⟩)
        else none }

/-- `query`. -/
def query (L : Limits) (s : Store) (request : QueryInput) (subject : String) (now : Instant) :
    Except String QueryOutput × Store :=
  match s.getSnapshot L request.snapshotId subject now with
  | (none, s) => (.error "not_found", s)
  | (some r, s) => (queryRecord sha256 r request, s)

/-! ## Following the cursors -/

/-- A request for one page: the store as it finds it, the time and the size of the page. -/
structure Visit where
  store : Store
  now : Instant
  limit : Nat

/-- The entities of the pages that are visited one after the other, and whether the last page said
that there is no other. -/
def walk (L : Limits) (subject snapshotId : String) (types layers : List String) :
    Option String → List Visit → Except String (List Entity × Bool)
  | _, [] => .ok ([], false)
  | cursor, v :: visits =>
      match (query sha256 L v.store ⟨snapshotId, types, layers, cursor, v.limit⟩ subject v.now).1 with
      | .error e => .error e
      | .ok page =>
          match page.nextCursor with
          | none => .ok (page.entities, true)
          | some next => do
              let (rest, finished) ← walk L subject snapshotId types layers (some next) visits
              return (page.entities ++ rest, finished)

end

section

variable {sha256 : List Char → String} {L : Limits} {s : Store} {r : SnapshotRecord}
  {types layers : List String} {subject snapshotId : String} {limit offset : Nat}

theorem getSnapshot_id {now : Instant} (h : (s.getSnapshot L snapshotId subject now).1 = some r) :
    r.snapshotId = snapshotId := by
  unfold Store.getSnapshot at h
  dsimp only at h
  split at h
  · cases h
  · next stored hstored =>
      dsimp only at h
      split at h
      · cases h
        exact (Table.get?_some hstored).2
      · cases h

/-- A cursor counts for its own snapshot and filter, and for no other. -/
theorem cursorOffset_encode {c : Cursor} (hc : c.Sound) :
    cursorOffset sha256 r ⟨snapshotId, types, layers, some (encodeCursor c), limit⟩ =
      if c.snapshotId = r.snapshotId ∧ c.filterHash = cursorFilterHash sha256 types layers then
        .ok c.offset
      else .error "invalid_request" := by
  have hread := decode_encodeCursor hc
  have hne : encodeCursor c ≠ "" := by
    intro hempty
    rw [hempty] at hread
    cases hread
  unfold cursorOffset
  dsimp only
  rw [show (some (encodeCursor c)).filter (· ≠ "") = some (encodeCursor c) by
    simp [Option.filter, hne]]
  dsimp only
  rw [hread]

/-- The page at an offset that the request stands for. -/
theorem queryRecord_page {cursor : Option String}
    (hoffset : cursorOffset sha256 r ⟨snapshotId, types, layers, cursor, limit⟩ = .ok offset)
    (hle : offset ≤ (filteredEntities r types layers).length) :
    queryRecord sha256 r ⟨snapshotId, types, layers, cursor, limit⟩ = .ok {
      snapshotId := r.snapshotId
      documentRevision := r.documentRevision
      entities := ((filteredEntities r types layers).drop offset).take limit
      total := (filteredEntities r types layers).length
      nextCursor :=
        if offset + limit < (filteredEntities r types layers).length then
          some (encodeCursor ⟨r.snapshotId, cursorFilterHash sha256 types layers, offset + limit⟩)
        else none } := by
  unfold queryRecord
  dsimp only
  rw [hoffset]
  show (if (filteredEntities r types layers).length < offset then _ else _) = _
  rw [if_neg (Nat.not_lt.mpr hle)]
  rfl

/-- From a cursor on, the pages continue where the cursor stands. -/
theorem walk_from (cursor : Option String) (offset : Nat) (hid : isPublicId snapshotId = true)
    (hsha : isHexDigest (cursorFilterHash sha256 types layers) = true)
    (hcount : (filteredEntities r types layers).length ≤ maxCursorOffset + 1) {visits : List Visit}
    (hvisits : ∀ v ∈ visits, (v.store.getSnapshot L snapshotId subject v.now).1 = some r)
    (hcursor : ∀ limit,
      cursorOffset sha256 r ⟨snapshotId, types, layers, cursor, limit⟩ = .ok offset)
    (hle : offset ≤ (filteredEntities r types layers).length)
    (hstart : visits ≠ [] ∨ offset < (filteredEntities r types layers).length) :
    walk sha256 L subject snapshotId types layers cursor visits =
      .ok (((filteredEntities r types layers).drop offset).take (visits.map Visit.limit).sum,
        (filteredEntities r types layers).length ≤ offset + (visits.map Visit.limit).sum) := by
  induction visits generalizing cursor offset with
  | nil =>
      have hless := hstart.resolve_left fun h => h rfl
      simp [walk, hless]
  | cons v visits ih =>
      have hr := hvisits v List.mem_cons_self
      have hsnapshot := getSnapshot_id hr
      have hquery : (query sha256 L v.store ⟨snapshotId, types, layers, cursor, v.limit⟩ subject
          v.now).1 = queryRecord sha256 r ⟨snapshotId, types, layers, cursor, v.limit⟩ := by
        unfold query
        dsimp only
        rw [← Prod.mk.eta (p := v.store.getSnapshot L snapshotId subject v.now), hr]
      unfold walk
      rw [hquery, queryRecord_page (hcursor v.limit) hle]
      dsimp only
      rw [List.map_cons, List.sum_cons]
      by_cases hmore : offset + v.limit < (filteredEntities r types layers).length
      · rw [if_pos hmore]
        dsimp only
        have hsound : Cursor.Sound ⟨r.snapshotId, cursorFilterHash sha256 types layers,
            offset + v.limit⟩ := ⟨by rw [hsnapshot]; exact hid, hsha, by dsimp only; omega⟩
        rw [ih _ _ (fun w hw => hvisits w (List.mem_cons_of_mem v hw))
          (fun limit => by rw [cursorOffset_encode hsound, if_pos ⟨rfl, rfl⟩]) hmore.le (Or.inr hmore)]
        show Except.ok _ = Except.ok _
        rw [List.take_add, List.drop_drop, Nat.add_assoc]
      · rw [if_neg hmore]
        dsimp only
        have hall : ((filteredEntities r types layers).drop offset).length ≤ v.limit := by
          rw [List.length_drop]
          omega
        rw [List.take_of_length_le hall, List.take_of_length_le (by omega)]
        congr 2
        exact (decide_eq_true (by omega)).symm

end

/-- **The pages are the selection.** A snapshot that is found at every request is read page by page
from the start: no page fails, together the pages are the selected entities in their order as far as
their sizes reach, and the last page says so exactly when nothing is left. -/
theorem pages_are_the_selection (sha256 : List Char → String) (L : Limits)
    (subject snapshotId : String) (types layers : List String) (r : SnapshotRecord)
    (visits : List Visit) (hid : isPublicId snapshotId = true)
    (hsha : isHexDigest (cursorFilterHash sha256 types layers) = true)
    (hcount : (filteredEntities r types layers).length ≤ maxCursorOffset + 1)
    (hvisits : ∀ v ∈ visits, (v.store.getSnapshot L snapshotId subject v.now).1 = some r)
    (hsome : visits ≠ []) :
    walk sha256 L subject snapshotId types layers none visits =
      .ok ((filteredEntities r types layers).take (visits.map Visit.limit).sum,
        (filteredEntities r types layers).length ≤ (visits.map Visit.limit).sum) := by
  have hwalk := walk_from none 0 hid hsha hcount hvisits (fun _ => rfl) (Nat.zero_le _)
    (Or.inl hsome)
  rw [List.drop_zero, Nat.zero_add] at hwalk
  exact hwalk

/-- A snapshot of three lines. -/
def sampleLines : SnapshotRecord :=
  { sampleRecord "snapshot-1" with
    entities := [⟨"1", "LINE", "0", .object []⟩, ⟨"2", "LINE", "0", .object []⟩,
      ⟨"3", "LINE", "0", .object []⟩] }

/-- The hash of the empty filter. -/
def sampleHash (_ : List Char) : String :=
  "42cf4d4664dc6b72bb8e7e96f6ce0ae46d25f7d933a4224e906bac1bf2b722ad"

/-- Two pages of two entities. -/
def sampleVisits : List Visit :=
  [⟨Store.empty.stored sampleLines 1 500, 2, 2⟩, ⟨Store.empty.stored sampleLines 1 500, 3, 2⟩]

theorem pages_are_the_selection_sample :
    walk sampleHash sampleLimits "owner" "snapshot-1" [] [] none sampleVisits =
      .ok ((filteredEntities sampleLines [] []).take (sampleVisits.map Visit.limit).sum,
        (filteredEntities sampleLines [] []).length ≤ (sampleVisits.map Visit.limit).sum) :=
  pages_are_the_selection sampleHash sampleLimits "owner" "snapshot-1" [] [] sampleLines sampleVisits
    (by decide) (by decide) (by decide)
    (List.forall_mem_cons.mpr ⟨rfl, List.forall_mem_cons.mpr ⟨rfl, nofun⟩⟩) nofun

end AutocadMcp.Snapshots
