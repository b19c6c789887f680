import AutocadMcp.Approval.Store
import AutocadMcp.Lib.Groups
import Mathlib.Data.List.Sort

/-!
# Rebase

`AutocadContractsPhase8Revision.rebase`: a sealed source is bound to a newer snapshot of its
document, and what has become of its targets there is reported. Snapshots are JSON objects.
-/

namespace AutocadMcp.Revisions

open Program (CadProgramV1Source SourceCodec Invalid)

/-! ## Snapshots -/

/-- `a == b`: a boolean is equal to its number. -/
def SameValue (a b : Json) : Prop := Approval.numeric a = Approval.numeric b

instance (a b : Json) : Decidable (SameValue a b) :=
  inferInstanceAs (Decidable (Approval.numeric a = Approval.numeric b))

/-- `value.get(key)`, `None` where there is nothing. -/
def field (value : Json) (key : String) : Json := (value.get? key).getD .null

/-- The entities of `snapshot.get("entities") or []`; the characters of a string and the keys of an
object are none. -/
def entitiesOf (snapshot : Json) : Except Invalid (List Json) :=
  match field snapshot "entities" with
  | .arr items => .ok (items.filter Json.isDict)
  | .str _ | .obj _ => .ok []
  | value => do
      check (value.truthy = false) "object is not iterable"
      return []

/-- The texts that an entity is found under. -/
def entityKeys (entity : Json) : List String :=
  ["ref_id", "entity_id", "handle"].filterMap fun key =>
    (field entity key).str?.filter (· ≠ "")

abbrev EntityIndex := List (String × Json)

def indexKey (entity : Json) (indexed : EntityIndex) (value : String) :
    Except Invalid EntityIndex := do
  check (∀ found ∈ getItem indexed value, SameValue found entity) "snapshot ref is ambiguous"
  return setItem indexed value entity

/-- `_snapshot_entities`. -/
def snapshotEntities (snapshot : Json) : Except Invalid EntityIndex := do
  (← entitiesOf snapshot).foldlM
    (fun indexed entity => (entityKeys entity).foldlM (indexKey entity) indexed) []

/-- `_snapshot_document_id`. -/
def snapshotDocumentId (snapshot : Json) : Option String :=
  (snapshot.dict? "drawing").bind fun drawing =>
    (field drawing "document_id").str?.filter (· ≠ "")

/-! ## Conflicts -/

inductive Conflict where
  | oldTargetMissing (refId : String)
  | targetMissing (refId : String)
  | targetTypeChanged (refId : String) (oldType newType : Json)
  | targetFingerprintChanged (refId : String)
  deriving DecidableEq

def Conflict.toJson : Conflict → Json
  | .oldTargetMissing refId => .obj [("code", .str "old_target_missing"), ("ref_id", .str refId)]
  | .targetMissing refId => .obj [("code", .str "target_missing"), ("ref_id", .str refId)]
  | .targetTypeChanged refId oldType newType =>
      .obj [("code", .str "target_type_changed"), ("new_type", newType), ("old_type", oldType),
        ("ref_id", .str refId)]
  | .targetFingerprintChanged refId =>
      .obj [("code", .str "target_fingerprint_changed"), ("ref_id", .str refId)]

/-- `entity.get("entity_type") or entity.get("type")`. -/
def typeOf (entity : Json) : Json :=
  if (field entity "entity_type").truthy then field entity "entity_type" else field entity "type"

/-- One turn of the loop over the targets. -/
def compareTarget (oldEntities newEntities : EntityIndex) (refId : String) : Option Conflict :=
  match getItem oldEntities refId, getItem newEntities refId with
  | none, _ => some (.oldTargetMissing refId)
  | some _, none => some (.targetMissing refId)
  | some oldEntity, some newEntity =>
      if ¬ SameValue (typeOf oldEntity) (typeOf newEntity) then
        some (.targetTypeChanged refId (typeOf oldEntity) (typeOf newEntity))
      else if ¬ SameValue (field oldEntity "fingerprint") (field newEntity "fingerprint") then
        some (.targetFingerprintChanged refId)
      else none

/-- `sorted` of the set of the targets. -/
def targetIds (parent : CadProgramV1Source) : List String :=
  (parent.operations.filterMap fun o => o.body.targetRefId?).dedup.insertionSort (· ≤ ·)

/-! ## The candidate -/

/-- `CadProgramV1Source.model_validate`. -/
def validateSource (S : SourceCodec) (sealed : CadProgramV1Source) :
    Except Invalid CadProgramV1Source := do
  check (sealed.fieldsFit = true) "source does not fit its schema"
  sealed.isClosedAndBounded S
  return sealed

/-- `seal_cad_program_v1` of a source with all its fields. -/
def sealCadProgramV1 (S : SourceCodec) (source : CadProgramV1Source) :
    Except Invalid CadProgramV1Source :=
  match S.canonicalSourceDigest source with
  | none => .error "JSON nesting exceeds the protocol limit"
  | some digest => validateSource S { source with semanticDigest := digest }

structure RevisionMaterialization where
  source : CadProgramV1Source
  sourceDigest : Option String
  semanticDigest : String
  requestDigest : Option String
  conflictsDigest : Option String
  conflicts : List Conflict

/-- What a rebase takes from the encoder besides the digest of a source. -/
structure RebaseCodec extends SourceCodec where
  /-- `_domain_digest`. -/
  domainDigest : String → Json → Option String

variable (R : RebaseCodec)

/-- The parent with another snapshot and document revision. -/
def rebased (parent : CadProgramV1Source) (snapshotId documentRevision : String) :
    CadProgramV1Source :=
  { parent with
    programRevision := parent.programRevision + 1
    parentRevision := some parent.programRevision
    sourceSnapshotId := snapshotId
    expectedDocumentRevision := documentRevision }

/-- The first checks of `rebase`, with the binding of the new snapshot. -/
def snapshotBinding (parent : CadProgramV1Source) (oldSnapshot newSnapshot : Json) :
    Except Invalid (String × String) := do
  check (field oldSnapshot "snapshot_id" = .str parent.sourceSnapshotId ∧
    field oldSnapshot "device_id" = .str parent.deviceId ∧
    snapshotDocumentId oldSnapshot = some parent.documentId)
    "old snapshot does not match source binding"
  check (field newSnapshot "device_id" = .str parent.deviceId ∧
    snapshotDocumentId newSnapshot = some parent.documentId)
    "new snapshot does not match source binding"
  match field newSnapshot "snapshot_id", field newSnapshot "document_revision" with
  | .str snapshotId, .str documentRevision => return (snapshotId, documentRevision)
  | _, _ => throw "new snapshot binding is incomplete"

/-- `rebase`; the source comes as the dump of a model, and is sealed. -/
def rebase (source : CadProgramV1Source) (oldSnapshot newSnapshot : Json) :
    Except Invalid RevisionMaterialization := do
  let parent ← sealCadProgramV1 R.toSourceCodec source
  let (snapshotId, documentRevision) ← snapshotBinding parent oldSnapshot newSnapshot
  let oldEntities ← snapshotEntities oldSnapshot
  let newEntities ← snapshotEntities newSnapshot
  let conflicts := (targetIds parent).filterMap (compareTarget oldEntities newEntities)
  let sealed ← sealCadProgramV1 R.toSourceCodec (rebased parent snapshotId documentRevision)
  return {
    source := sealed
    sourceDigest := R.canonicalSourceDigest sealed
    semanticDigest := sealed.semanticDigest
    requestDigest := R.domainDigest "cad.program.revision-request/1"
      (.obj [("kind", .str "rebase"), ("new_snapshot_id", .str snapshotId),
        ("old_snapshot_id", field oldSnapshot "snapshot_id"),
        ("program_id", .str parent.programId), ("source_revision", .num parent.programRevision)])
    conflictsDigest :=
      if conflicts.isEmpty then none
      else R.domainDigest "cad.program.revision-conflicts/1" (.arr (conflicts.map Conflict.toJson))
    conflicts := conflicts }

/-! ## What an index holds -/

theorem SameValue.trans {a b c : Json} (h : SameValue a b) (h' : SameValue b c) : SameValue a c :=
  Eq.trans h h'

theorem SameValue.symm {a b : Json} (h : SameValue a b) : SameValue b a := Eq.symm h

/-- An index holds the pairs of a text and an entity: no two entities under one text differ. -/
structure Indexes (pairs : List (String × Json)) (indexed : EntityIndex) : Prop where
  found : ∀ value entity, getItem indexed value = some entity → (value, entity) ∈ pairs
  covers : ∀ pair ∈ pairs, ∃ entity, getItem indexed pair.1 = some entity ∧ SameValue entity pair.2

theorem indexes_nil : Indexes [] [] := ⟨nofun, nofun⟩

theorem indexKey_indexes {pairs : List (String × Json)} {indexed indexed' : EntityIndex}
    {entity : Json} {value : String} (h : Indexes pairs indexed)
    (hkey : indexKey entity indexed value = .ok indexed') :
    Indexes (pairs ++ [(value, entity)]) indexed' := by
  obtain ⟨_, hsame, hset⟩ := bind_eq_ok.mp hkey
  cases hset
  have hsame := check_eq_ok.mp hsame
  constructor
  · intro value' entity' hget
    rw [getItem_setItem] at hget
    by_cases hv : value = value'
    · rw [if_pos hv] at hget
      obtain rfl := Option.some.inj hget
      rw [hv]
      exact List.mem_append_right _ (List.mem_singleton_self _)
    · rw [if_neg hv] at hget
      exact List.mem_append_left _ (h.found value' entity' hget)
  · intro pair hpair
    rw [getItem_setItem]
    by_cases hv : value = pair.1
    · rw [if_pos hv]
      refine ⟨entity, rfl, ?_⟩
      rcases List.mem_append.mp hpair with hold | hnew
      · -- the entity that stood there before is equal to the new one
        obtain ⟨entity', hget, hsame'⟩ := h.covers pair hold
        rw [← hv] at hget
        exact (hsame entity' hget).symm.trans hsame'
      · obtain rfl := List.mem_singleton.mp hnew
        rfl
    · rw [if_neg hv]
      rcases List.mem_append.mp hpair with hold | hnew
      · exact h.covers pair hold
      · obtain rfl := List.mem_singleton.mp hnew
        exact absurd rfl hv

/-- The pairs of a snapshot's entities. -/
def pairsOf (entities : List Json) : List (String × Json) :=
  entities.flatMap fun entity => (entityKeys entity).map fun value => (value, entity)

theorem snapshotEntities_indexes {snapshot : Json} {indexed : EntityIndex}
    (h : snapshotEntities snapshot = .ok indexed) :
    ∃ entities, entitiesOf snapshot = .ok entities ∧ Indexes (pairsOf entities) indexed := by
  obtain ⟨entities, hentities, hloop⟩ := bind_eq_ok.mp h
  refine ⟨entities, hentities, ?_⟩
  refine foldlM_eq_ok_rec (fun seen indexed => Indexes (pairsOf seen) indexed) hloop indexes_nil ?_
  intro seen entity indexed indexed' hseen hkeys
  have hpairs : pairsOf (seen ++ [entity]) =
      pairsOf seen ++ (entityKeys entity).map fun value => (value, entity) := by
    rw [pairsOf, List.flatMap_append, List.flatMap_singleton]
    rfl
  rw [hpairs]
  refine foldlM_eq_ok_rec (fun values indexed =>
    Indexes (pairsOf seen ++ values.map fun value => (value, entity)) indexed) hkeys ?_ ?_
  · rw [List.map_nil, List.append_nil]
    exact hseen
  · intro values value indexed indexed' hvalues hkey
    rw [List.map_append, ← List.append_assoc]
    exact indexKey_indexes hvalues hkey

/-- One entity of the snapshot is found under this text, and every other one that is found under it
is equal to it. -/
def Denotes (snapshot : Json) (refId : String) (entity : Json) : Prop :=
  ∃ entities, entitiesOf snapshot = .ok entities ∧ entity ∈ entities ∧ refId ∈ entityKeys entity ∧
    ∀ other ∈ entities, refId ∈ entityKeys other → SameValue other entity

theorem mem_pairsOf {entities : List Json} {value : String} {entity : Json} :
    (value, entity) ∈ pairsOf entities ↔ entity ∈ entities ∧ value ∈ entityKeys entity := by
  rw [pairsOf, List.mem_flatMap]
  constructor
  · rintro ⟨entity', hmem, hpair⟩
    obtain ⟨value', hvalue, hsame⟩ := List.mem_map.mp hpair
    obtain ⟨rfl, rfl⟩ := Prod.mk.inj hsame
    exact ⟨hmem, hvalue⟩
  · rintro ⟨hmem, hvalue⟩
    exact ⟨entity, hmem, List.mem_map_of_mem hvalue⟩

theorem getItem_denotes {snapshot : Json} {indexed : EntityIndex} {refId : String} {entity : Json}
    (h : snapshotEntities snapshot = .ok indexed) (hget : getItem indexed refId = some entity) :
    Denotes snapshot refId entity := by
  obtain ⟨entities, hentities, hindexes⟩ := snapshotEntities_indexes h
  obtain ⟨hmem, hkey⟩ := mem_pairsOf.mp (hindexes.found refId entity hget)
  refine ⟨entities, hentities, hmem, hkey, ?_⟩
  intro other hother hotherKey
  obtain ⟨entity', hget', hsame⟩ := hindexes.covers (refId, other) (mem_pairsOf.mpr ⟨hother, hotherKey⟩)
  rw [hget] at hget'
  obtain rfl := Option.some.inj hget'
  exact hsame.symm

/-! ## A rebase without conflicts -/

theorem compareTarget_eq_none {oldEntities newEntities : EntityIndex} {refId : String}
    (h : compareTarget oldEntities newEntities refId = none) :
    ∃ oldEntity newEntity, getItem oldEntities refId = some oldEntity ∧
      getItem newEntities refId = some newEntity ∧
      SameValue (typeOf oldEntity) (typeOf newEntity) ∧
      SameValue (field oldEntity "fingerprint") (field newEntity "fingerprint") := by
  unfold compareTarget at h
  rcases hold : getItem oldEntities refId with _ | oldEntity
  · simp [hold] at h
  · rcases hnew : getItem newEntities refId with _ | newEntity
    · simp [hold, hnew] at h
    · simp only [hold, hnew] at h
      by_cases htype : SameValue (typeOf oldEntity) (typeOf newEntity)
      · rw [if_neg (not_not.mpr htype)] at h
        by_cases hprint : SameValue (field oldEntity "fingerprint") (field newEntity "fingerprint")
        · exact ⟨oldEntity, newEntity, rfl, rfl, htype, hprint⟩
        · rw [if_pos hprint] at h
          cases h
      · rw [if_pos htype] at h
        cases h

theorem mem_targetIds {parent : CadProgramV1Source} {refId : String} :
    refId ∈ targetIds parent ↔ ∃ o ∈ parent.operations, o.body.targetRefId? = some refId := by
  rw [targetIds, List.mem_insertionSort, List.mem_dedup, List.mem_filterMap]

/-- Sealing changes nothing but the digest. -/
theorem sealCadProgramV1_ok {S : SourceCodec} {source sealed : CadProgramV1Source}
    (h : sealCadProgramV1 S source = .ok sealed) :
    sealed = { source with semanticDigest := sealed.semanticDigest } := by
  unfold sealCadProgramV1 at h
  split at h
  · cases h
  · obtain ⟨_, -, h⟩ := bind_eq_ok.mp h
    obtain ⟨_, -, h⟩ := bind_eq_ok.mp h
    cases h
    rfl

variable {R : RebaseCodec}

/-- Without conflicts every target is one entity of either snapshot, of one type and with one
fingerprint; two entities that both have none agree. Of the parent only the revision numbers, the
snapshot and the document revision change, and the digest with them. -/
theorem rebase_keeps_targets {source parent : CadProgramV1Source} {oldSnapshot newSnapshot : Json}
    {revision : RevisionMaterialization}
    (hparent : sealCadProgramV1 R.toSourceCodec source = .ok parent)
    (h : rebase R source oldSnapshot newSnapshot = .ok revision) (hnone : revision.conflicts = []) :
    (∀ o ∈ parent.operations, ∀ refId, o.body.targetRefId? = some refId →
      ∃ oldEntity newEntity, Denotes oldSnapshot refId oldEntity ∧
        Denotes newSnapshot refId newEntity ∧ SameValue (typeOf oldEntity) (typeOf newEntity) ∧
        SameValue (field oldEntity "fingerprint") (field newEntity "fingerprint")) ∧
    ∃ snapshotId documentRevision, field newSnapshot "snapshot_id" = .str snapshotId ∧
      field newSnapshot "document_revision" = .str documentRevision ∧
      revision.source = { rebased parent snapshotId documentRevision with
        semanticDigest := revision.source.semanticDigest } := by
  obtain ⟨parent', hparent', h⟩ := bind_eq_ok.mp h
  obtain rfl := Except.ok.inj (hparent.symm.trans hparent')
  obtain ⟨⟨snapshotId, documentRevision⟩, hbinding, h⟩ := bind_eq_ok.mp h
  obtain ⟨oldEntities, hold, h⟩ := bind_eq_ok.mp h
  obtain ⟨newEntities, hnew, h⟩ := bind_eq_ok.mp h
  obtain ⟨sealed, hsealed, h⟩ := bind_eq_ok.mp h
  cases h
  constructor
  · intro o ho refId hrefId
    have hquiet : compareTarget oldEntities newEntities refId = none := by
      refine List.filterMap_eq_nil_iff.mp hnone refId ?_
      exact mem_targetIds.mpr ⟨o, ho, hrefId⟩
    obtain ⟨oldEntity, newEntity, hgetOld, hgetNew, htype, hprint⟩ := compareTarget_eq_none hquiet
    exact ⟨oldEntity, newEntity, getItem_denotes hold hgetOld, getItem_denotes hnew hgetNew, htype,
      hprint⟩
  · obtain ⟨_, -, hbinding⟩ := bind_eq_ok.mp hbinding
    obtain ⟨_, -, hbinding⟩ := bind_eq_ok.mp hbinding
    split at hbinding
    · rename_i id documentRevision' hid hrevision
      cases hbinding
      exact ⟨snapshotId, documentRevision, hid, hrevision, sealCadProgramV1_ok hsealed⟩
    · cases hbinding

/-! ## A move -/

def movePoint (x : String) : Program.ExpressionPoint :=
  ⟨.literal ⟨.length, x, some .mm⟩, .literal ⟨.length, "0", some .mm⟩,
    .literal ⟨.length, "0", some .mm⟩⟩

def moveDigest : String :=
  "sha256:9f86d081884c7d659a2feaa0c55ad015a3bf4f1b2b0b822cd15d6c15b0f00a08"

/-- One entity of a snapshot is moved. -/
def moveSource (programRevision : Int) (parentRevision : Option Int)
    (snapshotId documentRevision : String) : CadProgramV1Source where
  registryVersion := .phase8Core
  programId := "program"
  programRevision := programRevision
  parentRevision := parentRevision
  deviceId := "device"
  sourceSnapshotId := snapshotId
  documentId := "document"
  expectedDocumentRevision := documentRevision
  programVariables := []
  operations := [⟨"move", none, .moveEntity "ref-1" (movePoint "5")⟩]
  budgets := ⟨256, 1024, 1024, 4096, 1024, "1000000", 65536⟩
  requiredCapabilities := [Program.compileCapability]
  validationProfiles := ["default"]
  artifactRefs := []
  componentRefs := []
  semanticDigest := moveDigest

def moveCodec : RebaseCodec where
  canonicalSourceDigest _ := some moveDigest
  canonicalBytes source := some (1000 + source.sourceSnapshotId.length)
  domainDigest domain _ := some domain

def moveSnapshot (snapshotId documentRevision handle : String) : Json :=
  .obj [("device_id", .str "device"), ("document_revision", .str documentRevision),
    ("drawing", .obj [("document_id", .str "document")]),
    ("entities", .arr [.obj [("entity_type", .str "LINE"), ("fingerprint", .str "f1"),
      ("handle", .str handle), ("ref_id", .str "ref-1")]]),
    ("snapshot_id", .str snapshotId)]

theorem moveSource_sealed : sealCadProgramV1 moveCodec.toSourceCodec
    (moveSource 1 none "old" "r1") = .ok (moveSource 1 none "old" "r1") := by
  refine pass (check_true (by decide +kernel)) ?_
  have hclosed : (moveSource 1 none "old" "r1").isClosedAndBounded moveCodec.toSourceCodec =
      .ok () := by decide +kernel
  exact pass hclosed rfl

theorem moveRebased_sealed : sealCadProgramV1 moveCodec.toSourceCodec
    (moveSource 2 (some 1) "new" "r2") = .ok (moveSource 2 (some 1) "new" "r2") := by
  refine pass (check_true (by decide +kernel)) ?_
  have hclosed : (moveSource 2 (some 1) "new" "r2").isClosedAndBounded moveCodec.toSourceCodec =
      .ok () := by decide +kernel
  exact pass hclosed rfl

theorem rebase_of_steps {source parent sealed : CadProgramV1Source} {oldSnapshot newSnapshot : Json}
    {snapshotId documentRevision : String} {oldEntities newEntities : EntityIndex}
    (hparent : sealCadProgramV1 R.toSourceCodec source = .ok parent)
    (hbinding : snapshotBinding parent oldSnapshot newSnapshot = .ok (snapshotId, documentRevision))
    (hold : snapshotEntities oldSnapshot = .ok oldEntities)
    (hnew : snapshotEntities newSnapshot = .ok newEntities)
    (hsealed : sealCadProgramV1 R.toSourceCodec (rebased parent snapshotId documentRevision) =
      .ok sealed) :
    ∃ revision, rebase R source oldSnapshot newSnapshot = .ok revision ∧
      revision.conflicts = (targetIds parent).filterMap (compareTarget oldEntities newEntities) := by
  unfold rebase
  rw [hparent]
  simp only [bind, Except.bind, hbinding, hold, hnew, hsealed]
  exact ⟨_, rfl, rfl⟩

def movedEntity (handle : String) : Json :=
  .obj [("entity_type", .str "LINE"), ("fingerprint", .str "f1"), ("handle", .str handle),
    ("ref_id", .str "ref-1")]

def movedIndex (handle : String) : EntityIndex :=
  [("ref-1", movedEntity handle), (handle, movedEntity handle)]

theorem moveSnapshot_old : snapshotEntities (moveSnapshot "old" "r1" "2A") =
    .ok (movedIndex "2A") := by decide +kernel

/-- The target is where it was. -/
theorem move_rebased : ∃ revision,
    rebase moveCodec (moveSource 1 none "old" "r1") (moveSnapshot "old" "r1" "2A")
      (moveSnapshot "new" "r2" "2A") = .ok revision ∧
    ∃ oldEntity newEntity, Denotes (moveSnapshot "old" "r1" "2A") "ref-1" oldEntity ∧
      Denotes (moveSnapshot "new" "r2" "2A") "ref-1" newEntity ∧
      SameValue (typeOf oldEntity) (typeOf newEntity) ∧
      SameValue (field oldEntity "fingerprint") (field newEntity "fingerprint") := by
  have hnew : snapshotEntities (moveSnapshot "new" "r2" "2A") = .ok (movedIndex "2A") := by
    decide +kernel
  obtain ⟨revision, hrebase, hconflicts⟩ := rebase_of_steps moveSource_sealed
    (by decide +kernel : snapshotBinding _ _ _ = .ok ("new", "r2")) moveSnapshot_old hnew
    moveRebased_sealed
  have hnone : revision.conflicts = [] := by
    rw [hconflicts]
    decide +kernel
  exact ⟨revision, hrebase, (rebase_keeps_targets moveSource_sealed hrebase hnone).1 _
    List.mem_cons_self "ref-1" rfl⟩

theorem denotes_moveSnapshot {snapshotId documentRevision handle : String} {entity : Json}
    (h : Denotes (moveSnapshot snapshotId documentRevision handle) "ref-1" entity) :
    entity = movedEntity handle := by
  obtain ⟨entities, hentities, hmem, -⟩ := h
  obtain rfl : [movedEntity handle] = entities := Except.ok.inj hentities
  exact List.mem_singleton.mp hmem

/-- The reference denotes a line with another handle, and there is no conflict. -/
theorem move_rebased_elsewhere : ∃ revision,
    rebase moveCodec (moveSource 1 none "old" "r1") (moveSnapshot "old" "r1" "2A")
      (moveSnapshot "new" "r2" "3B") = .ok revision ∧ revision.conflicts = [] ∧
    ∀ oldEntity newEntity, Denotes (moveSnapshot "old" "r1" "2A") "ref-1" oldEntity →
      Denotes (moveSnapshot "new" "r2" "3B") "ref-1" newEntity →
        ¬ SameValue (field oldEntity "handle") (field newEntity "handle") := by
  have hnew : snapshotEntities (moveSnapshot "new" "r2" "3B") = .ok (movedIndex "3B") := by
    decide +kernel
  obtain ⟨revision, hrebase, hconflicts⟩ := rebase_of_steps moveSource_sealed
    (by decide +kernel : snapshotBinding _ _ _ = .ok ("new", "r2")) moveSnapshot_old hnew
    moveRebased_sealed
  refine ⟨revision, hrebase, ?_, ?_⟩
  · rw [hconflicts]
    decide +kernel
  · intro oldEntity newEntity hold hnew
    rw [denotes_moveSnapshot hold, denotes_moveSnapshot hnew]
    decide +kernel

end AutocadMcp.Revisions
