import AutocadMcp.Phase8.Operations

/-!
# References and effects before the host

The host accepts the materialized references and the effect manifest that the compiler
puts beside its operations.
-/

namespace AutocadMcp.Phase8

open JsonText CanonicalJson Host Program

theorem mapM_map_ok {α β γ : Type} {f : β → Verdict γ} {g : α → β} {k : α → γ} {xs : List α}
    (h : ∀ x ∈ xs, f (g x) = .ok (k x)) : (xs.map g).mapM f = .ok (xs.map k) := by
  induction xs with
  | nil => rfl
  | cons x xs ih =>
      rw [List.forall_mem_cons] at h
      rw [List.map_cons, List.mapM_cons, h.1]
      exact bind_eq_ok.mpr ⟨_, rfl, bind_eq_ok.mpr ⟨_, ih h.2, rfl⟩⟩

/-! ## References -/

def refDocs (refs : List MaterializedTargetRef) : List Doc := refs.map fun r => toDoc (targetRefJson r)

section

variable {blocked : Char → Bool} {r : MaterializedTargetRef}

theorem toDoc_targetRefJson (r : MaterializedTargetRef) : toDoc (targetRefJson r) =
    fields [("ref_id", text r.refId), ("owner_id", text r.ownerId), ("device_id", text r.deviceId),
      ("document_id", text r.documentId), ("snapshot_id", text r.snapshotId),
      ("document_revision", text r.documentRevision), ("entity_id", text r.entityId),
      ("entity_type", text r.entityType.name), ("fingerprint", text r.fingerprint)] := by
  simp [targetRefJson]

theorem ref_id : (toDoc (targetRefJson r)).get? "ref_id" = some (text r.refId) := by
  simp [toDoc_targetRefJson]

theorem ref_entityType :
    (toDoc (targetRefJson r)).get? "entity_type" = some (text r.entityType.name) := by
  simp [toDoc_targetRefJson]

theorem entityType_identifier (t : TargetEntityType) : isIdentifier t.name = true := by
  cases t <;> rfl

/-- A revision that is encoded in one way on both sides is as long for the host. -/
theorem requireRevision {d : Doc} {name r : String}
    (hget : d.get? name = some (text r)) (h : isRevision r = true)
    (halike : Alike blocked r.toList) :
    requireBoundedString d name 256 = .ok r := by
  simp only [isRevision, Bool.and_eq_true, decide_eq_true_eq] at h
  refine requireBoundedString_text hget (toList_ne_nil_of_length h.1.1) ?_
  rw [utf16Length_basic fun c hc => basic_of_alike (halike c hc)]
  exact h.1.2

theorem requireIdentifier_ok {d : Doc} {name s : String} (hget : d.get? name = some (text s))
    (h : isIdentifier s = true) : (do let _ ← requireIdentifier d name : Verdict Unit) = .ok () := by
  rw [requireIdentifier_text hget h]
  rfl

theorem validateTargetRef_new {ids : List String} (h : r.fits = true)
    (halike : Alike blocked r.documentRevision.toList) (hnew : r.refId ∉ ids) :
    validateTargetRef ids (toDoc (targetRefJson r)) = .ok (ids ++ [r.refId]) := by
  simp only [MaterializedTargetRef.fits, Bool.and_eq_true] at h
  obtain ⟨⟨⟨⟨⟨⟨⟨href, howner⟩, hdevice⟩, hdocument⟩, hsnapshot⟩, hrevision⟩, hentity⟩,
    hfingerprint⟩ := h
  rw [toDoc_targetRefJson]
  refine pass (ensureExact_fields (by simp) (by simp) (by simp)) ?_
  refine bind_eq_ok.mpr ⟨_, requireIdentifier_text (by simp) href, pass (check_true hnew) ?_⟩
  refine pass (forM_ok fun name hname => ?_) ?_
  · simp only [List.mem_cons, List.not_mem_nil, or_false] at hname
    rcases hname with rfl | rfl | rfl | rfl | rfl | rfl
    · exact requireIdentifier_ok (by simp) howner
    · exact requireIdentifier_ok (by simp) hdevice
    · exact requireIdentifier_ok (by simp) hdocument
    · exact requireIdentifier_ok (by simp) hsnapshot
    · exact requireIdentifier_ok (by simp) hentity
    · exact requireIdentifier_ok (by simp) (entityType_identifier r.entityType)
  · refine bind_eq_ok.mpr ⟨_, requireRevision (by simp) hrevision halike, ?_⟩
    exact bind_eq_ok.mpr ⟨_, requireDigest_text (by simp) hfingerprint, rfl⟩

variable {refs : List MaterializedTargetRef}

theorem targetRefs_accepted {ids : List String} (h : ∀ r ∈ refs, r.fits = true)
    (halike : ∀ r ∈ refs, Alike blocked r.documentRevision.toList)
    (hnodup : (ids ++ refs.map MaterializedTargetRef.refId).Nodup) :
    (refDocs refs).foldlM validateTargetRef ids =
      .ok (ids ++ refs.map MaterializedTargetRef.refId) := by
  unfold refDocs
  induction refs generalizing ids with
  | nil => simp [pure, Except.pure]
  | cons r rs ih =>
      rw [List.forall_mem_cons] at h halike
      rw [List.map_cons] at hnodup
      have hnew : r.refId ∉ ids := fun hmem =>
        (List.nodup_append.mp hnodup).2.2 _ hmem _ List.mem_cons_self rfl
      rw [List.map_cons, List.foldlM_cons, validateTargetRef_new h.1 halike.1 hnew]
      have hrest := @ih (ids ++ [r.refId]) h.2 halike.2 (by simpa using hnodup)
      rw [List.append_assoc, List.singleton_append] at hrest
      exact hrest

/-- The references by their ids, as the host has them. -/
def keyedRefs (refs : List MaterializedTargetRef) : List (String × Doc) :=
  refs.map fun r => (r.refId, toDoc (targetRefJson r))

theorem keyedRefs_ok : (refDocs refs).mapM keyedRef = .ok (keyedRefs refs) :=
  mapM_map_ok fun r _ => by
    rw [keyedRef, stringAt_text ref_id]
    rfl

theorem keyedRefs_ids : (keyedRefs refs).map Prod.fst = refs.map MaterializedTargetRef.refId := by
  rw [keyedRefs, List.map_map]
  rfl

theorem refById_keyed {refId : String} (h : findRef refs refId = some r) :
    refById (keyedRefs refs) refId = .ok (toDoc (targetRefJson r)) := by
  have hfind : (keyedRefs refs).find? (fun m => m.1 = refId) =
      (findRef refs refId).map fun r => (r.refId, toDoc (targetRefJson r)) := by
    rw [keyedRefs, List.find?_map]
    rfl
  rw [refById, hfind, h]
  rfl

/-- The order of identifiers is that of their code units. -/
theorem sorted_ordinal {ids : List String} (h : ∀ id ∈ ids, isIdentifier id = true)
    (hsorted : ids.Pairwise (· ≤ ·)) :
    ids = ids.insertionSort fun a b => ordinalLe a.toList b.toList = true := by
  refine (List.Pairwise.insertionSort_eq (hsorted.imp_of_mem fun {a b} ha hb hab => ?_)).symm
  rw [← ordinalLe_basic (basic_of_plain (isIdentifier_plain (h a ha)))
    (basic_of_plain (isIdentifier_plain (h b hb))), codePointLe, decide_eq_true_eq]
  exact String.le_iff_toList_le.mp hab

end

/-! ## Target operations -/

/-- The kind and the reference of an operation on one. -/
def useOf (o : ConcreteOperation) : Option TargetUse :=
  o.body.targetRefId?.map fun refId => (o.body.kind.name, refId)

section

variable {operations : List ConcreteOperation} {refs : List MaterializedTargetRef}

theorem isTarget_iff (body : ConcreteBody) :
    body.kind.isTarget = true ↔ ∃ refId, body.targetRefId? = some refId := by
  cases body <;> simp [ConcreteBody.kind, OperationKind.isTarget, ConcreteBody.targetRefId?]

theorem targetKind_iff (kind : OperationKind) : kind.name ∈ targetKinds ↔ kind.isTarget = true := by
  cases kind <;> simp [targetKinds, OperationKind.name, OperationKind.isTarget]

theorem isTargetOperation_iff (o : ConcreteOperation) :
    isTargetOperation (toDoc (operationJson o)) = o.body.kind.isTarget := by
  rw [Bool.eq_iff_iff, isTargetOperation, operation_kind, text]
  simp only [String.ofList_toList, decide_eq_true_eq, targetKind_iff]

theorem operation_target {o : ConcreteOperation} {refId : String}
    (h : o.body.targetRefId? = some refId) :
    (toDoc (operationJson o)).get? "target_ref_id" = some (text refId) := by
  obtain ⟨operationId, sourceOperationId, body⟩ := o
  rw [toDoc_operationJson]
  cases body <;> simp only [ConcreteBody.targetRefId?, Option.some.injEq, reduceCtorEq] at h <;>
    simp [operationFields, bodyJson, h]

theorem targetUse_ok {o : ConcreteOperation} {use : TargetUse} (h : useOf o = some use) :
    targetUse (toDoc (operationJson o)) = .ok use := by
  obtain ⟨refId, href, rfl⟩ := Option.map_eq_some_iff.mp h
  rw [targetUse, stringAt_text operation_kind, stringAt_text (operation_target href)]
  rfl

/-- The uses that the host reads off the operations. -/
theorem targetUses_ok : ((operationDocs operations).filter isTargetOperation).mapM targetUse =
    .ok (operations.filterMap useOf) := by
  unfold operationDocs
  induction operations with
  | nil => rfl
  | cons o os ih =>
      rw [List.map_cons, List.filter_cons, isTargetOperation_iff]
      cases hid : o.body.targetRefId? with
      | none =>
          have hkind : ¬ o.body.kind.isTarget = true := fun htarget => by
            obtain ⟨refId, hrefId⟩ := (isTarget_iff _).mp htarget
            exact absurd (hid.symm.trans hrefId) nofun
          rw [if_neg hkind, List.filterMap_cons_none (by rw [useOf, hid]; rfl)]
          exact ih
      | some refId =>
          have huse : useOf o = some (o.body.kind.name, refId) := by rw [useOf, hid]; rfl
          rw [if_pos ((isTarget_iff _).mpr ⟨refId, hid⟩), List.filterMap_cons_some huse,
            List.mapM_cons, targetUse_ok huse]
          exact bind_eq_ok.mpr ⟨_, rfl, bind_eq_ok.mpr ⟨_, ih, rfl⟩⟩

theorem uses_ids : (operations.filterMap useOf).map Prod.snd =
    operations.filterMap fun o => o.body.targetRefId? := by
  rw [List.map_filterMap]
  refine List.filterMap_congr fun o _ => ?_
  rw [useOf, Option.map_map]
  exact Option.map_id'

theorem mem_uses {use : TargetUse} : use ∈ operations.filterMap useOf ↔
    ∃ o ∈ operations, o.body.targetRefId? = some use.2 ∧ o.body.kind.name = use.1 := by
  simp only [List.mem_filterMap, useOf, Option.map_eq_some_iff]
  constructor
  · rintro ⟨o, ho, refId, href, rfl⟩
    exact ⟨o, ho, href, rfl⟩
  · rintro ⟨o, ho, href, hkind⟩
    exact ⟨o, ho, use.2, href, Prod.ext hkind rfl⟩

/-! ## Capabilities -/

theorem mem_dedup {found capabilities : List String} {c : String} :
    c ∈ capabilities.foldl (fun found c => if c ∈ found then found else found ++ [c]) found ↔
      c ∈ found ∨ c ∈ capabilities := by
  induction capabilities generalizing found with
  | nil => simp
  | cons x xs ih =>
      rw [List.foldl_cons, ih, List.mem_cons]
      split
      · rename_i hx
        constructor
        · exact fun h => h.imp id Or.inr
        · rintro (h | rfl | h)
          · exact Or.inl h
          · exact Or.inl hx
          · exact Or.inr h
      · rw [List.mem_append, List.mem_singleton, or_assoc]

/-- The capability that the host asks for is the one that the compiler derived. -/
theorem capability_eq {o : ConcreteOperation} {refId : String} {ref : MaterializedTargetRef}
    (hid : o.body.targetRefId? = some refId) (href : findRef refs refId = some ref) :
    targetCapability refs o = some ("cad.op." ++ dropSuffix 7 o.body.kind.name ++ "." ++
      toLowerInvariant ref.entityType.name ++ ".v1") := by
  have hlower : toLowerInvariant ref.entityType.name = ref.entityType.lower := by
    cases ref.entityType <;> rfl
  rw [targetCapability, hid, Option.bind_some, href, Option.map_some, hlower]
  obtain ⟨operationId, sourceOperationId, body⟩ := o
  cases body <;> simp only [ConcreteBody.targetRefId?, reduceCtorEq] at hid <;>
    simp only [ConcreteBody.kind, OperationKind.name] <;>
    cases ref.entityType <;> rfl

theorem validateCapability_ok {required : List String} {o : ConcreteOperation} {refId : String}
    {ref : MaterializedTargetRef} (ho : o ∈ operations) (hid : o.body.targetRefId? = some refId)
    (href : findRef refs refId = some ref)
    (hrequired : ∀ c ∈ derivedTargetCapabilities operations refs, c ∈ required) :
    validateCapability required (keyedRefs refs) (o.body.kind.name, refId) = .ok () := by
  rw [validateCapability, refById_keyed href]
  refine bind_eq_ok.mpr ⟨_, rfl, bind_eq_ok.mpr ⟨_, stringAt_text ref_entityType, ?_⟩⟩
  refine check_true (hrequired _ ?_)
  rw [derivedTargetCapabilities, mem_dedup]
  exact Or.inr (List.mem_filterMap.mpr ⟨o, ho, capability_eq hid href⟩)

/-- What `CadExecutionPlanV1` checks of its references. -/
structure RefsClosed (plan : CadExecutionPlanV1) : Prop where
  fit : ∀ r ∈ plan.materializedTargetRefs, r.fits = true
  nodup : (plan.materializedTargetRefs.map MaterializedTargetRef.refId).Nodup
  owner : ∀ a ∈ plan.materializedTargetRefs, ∀ b ∈ plan.materializedTargetRefs,
    a.ownerId = b.ownerId
  sorted : (plan.materializedTargetRefs.map MaterializedTargetRef.refId).Pairwise (· ≤ ·)
  used : ∀ id ∈ plan.operations.filterMap fun o => o.body.targetRefId?,
    id ∈ plan.materializedTargetRefs.map MaterializedTargetRef.refId
  needed : ∀ r ∈ plan.materializedTargetRefs,
    r.refId ∈ plan.operations.filterMap fun o => o.body.targetRefId?
  registry : (plan.operations.filterMap fun o => o.body.targetRefId?) = [] ∨
    plan.sourceRegistryVersion = .phase8Core
  capabilities : plan.requiredCapabilities.Nodup
  derived : ∀ c ∈ derivedTargetCapabilities plan.operations plan.materializedTargetRefs,
    c ∈ plan.requiredCapabilities
  context : ∀ r ∈ plan.materializedTargetRefs, r.deviceId = plan.deviceId ∧
    r.documentId = plan.documentId ∧ r.snapshotId = plan.sourceSnapshotId ∧
    r.documentRevision = plan.expectedDocumentRevision
  alone : ∀ r ∈ plan.materializedTargetRefs, .moveEntity ∈ usersOf plan.operations r.refId →
    (usersOf plan.operations r.refId).length = 1

theorem findRef_of_mem {refId : String} (h : refId ∈ refs.map MaterializedTargetRef.refId) :
    ∃ ref, findRef refs refId = some ref := by
  obtain ⟨r, hr, rfl⟩ := List.mem_map.mp h
  exact Option.isSome_iff_exists.mp (List.find?_isSome.mpr ⟨r, hr, by simp⟩)

/-- The users of a reference, as the host counts them. -/
theorem uses_of_ref (refId : String) :
    ((operations.filterMap useOf).filter fun other => other.2 = refId).length =
      (usersOf operations refId).length := by
  rw [usersOf, List.length_map]
  induction operations with
  | nil => rfl
  | cons o os ih =>
      cases hid : o.body.targetRefId? with
      | none =>
          rw [List.filterMap_cons_none (by rw [useOf, hid]; rfl), ih, List.filter_cons,
            if_neg (by simp [hid])]
      | some id =>
          have huse : useOf o = some (o.body.kind.name, id) := by rw [useOf, hid]; rfl
          rw [List.filterMap_cons_some huse, List.filter_cons, List.filter_cons]
          by_cases heq : id = refId
          · rw [if_pos (by simpa using heq), if_pos (by simp [hid, heq]), List.length_cons,
              List.length_cons, ih]
          · rw [if_neg (by simpa using heq), if_neg (by simp [hid, heq]), ih]

theorem validateRefContext_ok {r : MaterializedTargetRef} :
    validateRefContext r.deviceId r.documentId r.snapshotId r.documentRevision
      (toDoc (targetRefJson r)) = .ok () := by
  rw [toDoc_targetRefJson, validateRefContext, stringAt_text (s := r.deviceId) (by simp),
    stringAt_text (s := r.documentId) (by simp), stringAt_text (s := r.snapshotId) (by simp),
    stringAt_text (s := r.documentRevision) (by simp)]
  exact check_true ⟨rfl, rfl, rfl, rfl⟩

theorem move_name {kind : OperationKind} (h : kind.name = "move_entity") : kind = .moveEntity := by
  cases kind <;> first | rfl | exact absurd h (by decide)

variable {plan : CadExecutionPlanV1} {doc : Doc}

/-- The closure of the references, on any document with the context of the plan. -/
theorem validateTargetClosure_ok (h : RefsClosed plan)
    (hdevice : doc.get? "device_id" = some (text plan.deviceId))
    (hdocument : doc.get? "document_id" = some (text plan.documentId))
    (hsnapshot : doc.get? "source_snapshot_id" = some (text plan.sourceSnapshotId))
    (hrevision : doc.get? "expected_document_revision" = some (text plan.expectedDocumentRevision))
    (hrequired : doc.get? "required_capabilities" =
      some (.array (plan.requiredCapabilities.map text))) :
    validateTargetClosure doc (operationDocs plan.operations) (refDocs plan.materializedTargetRefs)
      (registryName plan.sourceRegistryVersion) = .ok () := by
  refine bind_eq_ok.mpr ⟨_, keyedRefs_ok, ?_⟩
  rw [keyedRefs_ids]
  have hids : ∀ id ∈ plan.materializedTargetRefs.map MaterializedTargetRef.refId,
      isIdentifier id = true := by
    intro id hid
    obtain ⟨r, hr, rfl⟩ := List.mem_map.mp hid
    have hfits := h.fit r hr
    simp only [MaterializedTargetRef.fits, Bool.and_eq_true] at hfits
    exact hfits.1.1.1.1.1.1.1
  refine pass (check_true (sorted_ordinal hids h.sorted)) ?_
  have howners : (refDocs plan.materializedTargetRefs).mapM (stringAt · "owner_id") =
      .ok (plan.materializedTargetRefs.map MaterializedTargetRef.ownerId) :=
    mapM_map_ok fun r _ => stringAt_text (by simp [toDoc_targetRefJson])
  refine bind_eq_ok.mpr ⟨_, howners, pass (check_true ?_) ?_⟩
  · intro a ha b hb
    obtain ⟨r, hr, rfl⟩ := List.mem_map.mp ha
    obtain ⟨r', hr', rfl⟩ := List.mem_map.mp hb
    exact h.owner r hr r' hr'
  refine bind_eq_ok.mpr ⟨_, targetUses_ok, ?_⟩
  rw [uses_ids]
  refine pass (check_true ⟨h.used, fun id hid => ?_⟩) ?_
  · obtain ⟨r, hr, rfl⟩ := List.mem_map.mp hid
    exact h.needed r hr
  refine pass (check_true (h.registry.imp id fun hregistry => ?_)) ?_
  · rw [hregistry]
    rfl
  refine bind_eq_ok.mpr ⟨_, stringAt_text hdevice, bind_eq_ok.mpr ⟨_, stringAt_text hdocument, ?_⟩⟩
  refine bind_eq_ok.mpr ⟨_, stringAt_text hsnapshot,
    bind_eq_ok.mpr ⟨_, stringAt_text hrevision, ?_⟩⟩
  refine pass (forM_ok fun d hd => ?_) ?_
  · obtain ⟨r, hr, rfl⟩ := List.mem_map.mp hd
    obtain ⟨h1, h2, h3, h4⟩ := h.context r hr
    rw [← h1, ← h2, ← h3, ← h4]
    exact validateRefContext_ok
  refine bind_eq_ok.mpr ⟨_, getProperty_eq hrequired, bind_eq_ok.mpr ⟨_, rfl, ?_⟩⟩
  have hstrings : (plan.requiredCapabilities.map text).mapM getString =
      .ok (plan.requiredCapabilities.map id) :=
    mapM_map_ok fun c _ => by
      show Except.ok (String.ofList c.toList) = _
      rw [String.ofList_toList]
      rfl
  rw [List.map_id] at hstrings
  refine bind_eq_ok.mpr ⟨_, hstrings, pass (check_true h.capabilities) ?_⟩
  refine pass (forM_ok fun use huse => ?_) (check_true fun use huse hmove => ?_)
  · obtain ⟨o, ho, hid, hkind⟩ := mem_uses.mp huse
    obtain ⟨ref, href⟩ := findRef_of_mem (h.used _ (List.mem_filterMap.mpr ⟨o, ho, hid⟩))
    have hcapability := validateCapability_ok ho hid href h.derived
    rw [hkind] at hcapability
    exact hcapability
  · obtain ⟨o, ho, hid, hkind⟩ := mem_uses.mp hmove
    obtain ⟨r, hr, hrefId⟩ := List.mem_map.mp (h.used _ (List.mem_filterMap.mpr ⟨o, ho, hid⟩))
    have halone := h.alone r hr
    rw [hrefId] at halone
    rw [uses_of_ref]
    refine halone (List.mem_map.mpr ⟨o, List.mem_filter.mpr ⟨ho, ?_⟩, move_name hkind⟩)
    exact decide_eq_true hid

end

/-! ## Effects -/

section

variable {operations : List ConcreteOperation} {refs : List MaterializedTargetRef}
  {o : ConcreteOperation}

theorem toDoc_entryJson (e : EffectEntry) : toDoc (entryJson e) =
    fields [("operation_id", text e.operationId), ("operation_kind", text e.operationKind.name),
      ("operation_version", integer 1), ("effect_class", text (effectClassName e.effectClass)),
      ("entity_type", text e.entityType), ("creates", integer e.creates),
      ("modifies", integer e.modifies), ("erases", integer 0),
      ("checkpoint_strategy", text (checkpointName e.checkpointStrategy))] := by
  simp [entryJson]

variable (refs o) in
theorem creates_eq : ((effectEntry refs o).creates : Int) = expectedCreates o.body.kind.name := by
  obtain ⟨operationId, sourceOperationId, body⟩ := o
  cases body <;> simp [effectEntry, expectedCreates, ConcreteBody.kind, OperationKind.name]

variable (refs o) in
theorem modifies_eq :
    ((effectEntry refs o).modifies : Int) = expectedModifies o.body.kind.name := by
  obtain ⟨operationId, sourceOperationId, body⟩ := o
  cases body <;> simp [effectEntry, expectedModifies, ConcreteBody.kind, OperationKind.name]

theorem effectClass_eq : effectClassName (effectEntry refs o).effectClass =
    expectedEffectClass o.body.kind.name := by
  obtain ⟨operationId, sourceOperationId, body⟩ := o
  cases body <;>
    simp [effectEntry, expectedEffectClass, ConcreteBody.kind, OperationKind.name, effectClassName]

theorem checkpoint_eq : checkpointName (effectEntry refs o).checkpointStrategy =
    expectedCheckpoint o.body.kind.name := by
  obtain ⟨operationId, sourceOperationId, body⟩ := o
  cases body <;>
    simp [effectEntry, expectedCheckpoint, ConcreteBody.kind, OperationKind.name, checkpointName]

theorem staticType_eq {kind : OperationKind} (h : ¬ kind.isTarget = true) :
    staticType kind.name = staticEntityType kind := by
  cases kind <;> first
    | exact absurd rfl h
    | simp [staticType, staticEntityType, OperationKind.name]

/-- The host expects the entity type that the entry has. -/
theorem expectedEntityType_ok
    (hused : ∀ refId, o.body.targetRefId? = some refId → ∃ ref, findRef refs refId = some ref) :
    expectedEntityType (keyedRefs refs) (toDoc (operationJson o)) o.body.kind.name =
      .ok (effectEntry refs o).entityType := by
  unfold expectedEntityType
  show _ = Except.ok (entityTypeOf refs o)
  cases hid : o.body.targetRefId? with
  | none =>
      have hkind : ¬ o.body.kind.isTarget = true := fun htarget => by
        obtain ⟨refId, hrefId⟩ := (isTarget_iff _).mp htarget
        exact absurd (hid.symm.trans hrefId) nofun
      rw [if_neg fun hmem => hkind ((targetKind_iff _).mp hmem), staticType_eq hkind, entityTypeOf,
        hid]
  | some refId =>
      obtain ⟨ref, href⟩ := hused refId hid
      have htype : entityTypeOf refs o = ref.entityType.name := by
        simp [entityTypeOf, hid, href]
      rw [if_pos ((targetKind_iff _).mpr ((isTarget_iff _).mpr ⟨refId, hid⟩)),
        stringAt_text (operation_target hid), htype]
      refine bind_eq_ok.mpr ⟨_, rfl, bind_eq_ok.mpr ⟨_, refById_keyed href, ?_⟩⟩
      exact stringAt_text ref_entityType

theorem validateEffectEntry_ok (hid : isIdentifier o.operationId = true)
    (hused : ∀ refId, o.body.targetRefId? = some refId → ∃ ref, findRef refs refId = some ref) :
    validateEffectEntry (keyedRefs refs) (toDoc (entryJson (effectEntry refs o)))
      (toDoc (operationJson o)) = .ok o.body.kind.name := by
  have htype := expectedEntityType_ok hused
  have hcreates := creates_eq refs o
  have hmodifies := modifies_eq refs o
  have hsmall : ∀ s : String, 0 ≤ expectedCreates s ∧ expectedCreates s ≤ 1 ∧
      0 ≤ expectedModifies s ∧ expectedModifies s ≤ 1 := by
    intro s
    unfold expectedCreates expectedModifies
    constructor
    · split <;> decide
    · split <;> split <;> decide
  obtain ⟨hc0, hc1, hm0, hm1⟩ := hsmall o.body.kind.name
  rw [toDoc_entryJson, hcreates, hmodifies, effectClass_eq, checkpoint_eq]
  refine pass (ensureExact_fields (by simp) (by simp) (by simp)) ?_
  refine bind_eq_ok.mpr ⟨_, requireIdentifier_text (s := o.operationId) (by simp [effectEntry]) hid, ?_⟩
  refine bind_eq_ok.mpr ⟨_, requireKind (k := o.body.kind) (by simp [effectEntry]), ?_⟩
  refine pass (check_true (kind_allowed _)) ?_
  refine pass (requireInteger_integer (by simp) (by decide) (by decide)) ?_
  refine pass (requireInteger_integer (by simp) (by decide) (by decide)) ?_
  refine bind_eq_ok.mpr ⟨_, stringAt_text operation_id, ?_⟩
  refine bind_eq_ok.mpr ⟨_, stringAt_text operation_kind, pass (check_true ⟨rfl, rfl⟩) ?_⟩
  refine pass (requireInteger_integer (by simp) (by omega) (by omega)) ?_
  refine pass (requireInteger_integer (by simp) (by omega) (by omega)) ?_
  refine pass (requireString_text (by simp)) (bind_eq_ok.mpr ⟨_, htype, ?_⟩)
  exact pass (requireString_text (by simp)) (pass (requireString_text (by simp)) rfl)

theorem validateEffectEntries_ok (hids : ∀ o ∈ operations, isIdentifier o.operationId = true)
    (hused : ∀ o ∈ operations, ∀ refId, o.body.targetRefId? = some refId →
      ∃ ref, findRef refs refId = some ref) :
    validateEffectEntries (keyedRefs refs)
        (((operations.map (effectEntry refs)).map fun e => toDoc (entryJson e)).zip
          (operationDocs operations)) =
      .ok (operations.map fun o => o.body.kind.name) := by
  unfold operationDocs
  induction operations with
  | nil => rfl
  | cons o os ih =>
      rw [List.forall_mem_cons] at hids hused
      rw [List.map_cons, List.map_cons, List.map_cons, List.zip_cons_cons, validateEffectEntries,
        validateEffectEntry_ok hids.1 hused.1]
      exact bind_eq_ok.mpr ⟨_, rfl, bind_eq_ok.mpr ⟨_, ih hids.2 hused.2, rfl⟩⟩

theorem toDoc_manifestJson (m : EffectManifest) : toDoc (manifestJson m) =
    fields [("schema_version", text "cad.effect-manifest/1"),
      ("entries", .array (m.entries.map fun e => toDoc (entryJson e))),
      ("creates", integer m.creates), ("modifies", integer m.modifies), ("erases", integer 0),
      ("ensures_non_entity", integer m.ensuresNonEntity),
      ("risk_floor", text (riskName m.riskFloor)),
      ("checkpoint_strategy", text (checkpointName m.checkpointStrategy))] := by
  simp [manifestJson, Function.comp_def]

theorem cast_sum {α : Type} {f : α → Nat} {g : α → Int} (h : ∀ x, (f x : Int) = g x)
    (xs : List α) : ((xs.map f).sum : Int) = (xs.map g).sum := by
  induction xs with
  | nil => rfl
  | cons x xs ih => rw [List.map_cons, List.map_cons, List.sum_cons, List.sum_cons, Nat.cast_add, h, ih]

theorem creates_sum : ((manifestOf (operations.map (effectEntry refs))).creates : Int) =
    ((operations.map fun o => o.body.kind.name).map expectedCreates).sum := by
  show (((operations.map (effectEntry refs)).map EffectEntry.creates).sum : Int) = _
  rw [List.map_map, List.map_map]
  exact cast_sum (creates_eq _) operations

theorem modifies_sum : ((manifestOf (operations.map (effectEntry refs))).modifies : Int) =
    ((operations.map fun o => o.body.kind.name).map expectedModifies).sum := by
  show (((operations.map (effectEntry refs)).map EffectEntry.modifies).sum : Int) = _
  rw [List.map_map, List.map_map]
  exact cast_sum (modifies_eq _) operations

theorem ensures_count : (manifestOf (operations.map (effectEntry refs))).ensuresNonEntity =
    (operations.map fun o => o.body.kind.name).countP fun kind => kind = "ensure_layer" := by
  show (operations.map (effectEntry refs)).countP (fun e => e.effectClass = .ensureNonEntity) = _
  rw [List.countP_map, List.countP_map]
  refine List.countP_congr fun o _ => ?_
  obtain ⟨operationId, sourceOperationId, body⟩ := o
  cases body <;> simp [effectEntry, ConcreteBody.kind, OperationKind.name]

variable (operations refs) in
theorem creates_le : (manifestOf (operations.map (effectEntry refs))).creates ≤ operations.length ∧
    (manifestOf (operations.map (effectEntry refs))).modifies ≤ operations.length := by
  show ((operations.map (effectEntry refs)).map EffectEntry.creates).sum ≤ _ ∧
    ((operations.map (effectEntry refs)).map EffectEntry.modifies).sum ≤ _
  induction operations with
  | nil => exact ⟨le_rfl, le_rfl⟩
  | cons o os ih =>
      have hone : (effectEntry refs o).creates ≤ 1 ∧ (effectEntry refs o).modifies ≤ 1 := by
        simp only [effectEntry]
        constructor <;> split <;> decide
      simp only [List.map_cons, List.sum_cons, List.length_cons]
      omega

theorem risk_eq {entries : List EffectEntry} : riskName (manifestOf entries).riskFloor =
    if 0 < ((manifestOf entries).modifies : Int) then "medium" else "low" := by
  unfold manifestOf
  dsimp only
  generalize (entries.map EffectEntry.modifies).sum = n
  by_cases hzero : n = 0
  · simp [hzero, riskName]
  · simp [hzero, riskName, Nat.pos_of_ne_zero hzero]

theorem strategy_eq {entries : List EffectEntry} :
    checkpointName (manifestOf entries).checkpointStrategy =
      if 0 < ((manifestOf entries).modifies : Int) then "cad.rollback.checkpoint/2"
      else "cad.rollback.checkpoint/1-created-entities" := by
  unfold manifestOf
  dsimp only
  generalize (entries.map EffectEntry.modifies).sum = n
  by_cases hzero : n = 0
  · simp [hzero, checkpointName]
  · simp [hzero, checkpointName, Nat.pos_of_ne_zero hzero]

/-- The manifest of the compiler. -/
theorem validateEffectManifest_ok (hmin : 1 ≤ operations.length) (hmax : operations.length ≤ 1024)
    (hids : ∀ o ∈ operations, isIdentifier o.operationId = true)
    (hused : ∀ o ∈ operations, ∀ refId, o.body.targetRefId? = some refId →
      ∃ ref, findRef refs refId = some ref) :
    validateEffectManifest (toDoc (manifestJson (effectManifest operations refs)))
      (operationDocs operations) (refDocs refs) = .ok () := by
  obtain ⟨hcreates, hmodifies⟩ := creates_le operations refs
  have hensures : (manifestOf (operations.map (effectEntry refs))).ensuresNonEntity ≤
      operations.length := by
    rw [ensures_count]
    exact (List.countP_le_length).trans (List.length_map _).le
  have hmodified : ((operations.map fun o => o.body.kind.name).map expectedModifies).sum =
      ((manifestOf (operations.map (effectEntry refs))).modifies : Int) := modifies_sum.symm
  rw [effectManifest, toDoc_manifestJson]
  refine pass (ensureExact_fields (by simp) (by simp) (by simp)) ?_
  refine pass (requireString_text (by simp)) ?_
  refine pass (requireInteger_integer (by simp) (by decide) (by decide)) ?_
  refine bind_eq_ok.mpr ⟨_, requireArray_items (l := (operations.map (effectEntry refs)).map
    fun e => toDoc (entryJson e)) (by simp [manifestOf]) (by simpa using hmin) (by simpa using hmax),
    ?_⟩
  refine pass (check_true (by simp [operationDocs])) ?_
  refine bind_eq_ok.mpr ⟨_, keyedRefs_ok, bind_eq_ok.mpr ⟨_, validateEffectEntries_ok hids hused, ?_⟩⟩
  dsimp only
  refine bind_eq_ok.mpr ⟨_, requireNonNegativeInteger_integer
    (n := (manifestOf (operations.map (effectEntry refs))).creates) (by simp) (by omega) (by omega), ?_⟩
  refine pass (check_true creates_sum) ?_
  refine bind_eq_ok.mpr ⟨_, requireNonNegativeInteger_integer
    (n := (manifestOf (operations.map (effectEntry refs))).modifies) (by simp) (by omega) (by omega), ?_⟩
  refine pass (check_true modifies_sum) ?_
  refine bind_eq_ok.mpr ⟨_, requireNonNegativeInteger_integer
    (n := (manifestOf (operations.map (effectEntry refs))).ensuresNonEntity) (by simp) (by omega)
    (by omega), ?_⟩
  refine pass (check_true (congrArg Nat.cast ensures_count)) ?_
  rw [hmodified]
  refine pass ?_ ?_
  · rw [← risk_eq]
    exact requireString_text (by simp)
  · rw [← strategy_eq]
    exact requireString_text (by simp)

end

end AutocadMcp.Phase8
