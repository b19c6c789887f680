import AutocadMcp.Phase8.PlanTexts

/-!
# Plans before the host

A plan whose parts fit passes the validator of the host exactly when its operations have
ids of their own, the revision of its source fits 32 bits, and its free texts are encoded
in one way on both sides.
-/

namespace AutocadMcp.Phase8

open JsonText CanonicalJson Host Program

/-! ## What a compiled plan has -/

structure BudgetsFit (plan : CadExecutionPlanV1) : Prop where
  operations : plan.budgets.estimatedOperations = plan.operations.length
  entities : plan.budgets.estimatedEntities =
    plan.operations.countP fun o => o.body.kind ≠ .ensureLayer
  vertices : plan.budgets.estimatedVertices = estimatedVertices plan.operations
  textBytes : plan.budgets.estimatedTextBytes = estimatedTextBytes plan.operations
  maxOperations : plan.budgets.estimatedOperations ≤ plan.budgets.hardMaxOperations ∧
    1 ≤ plan.budgets.hardMaxOperations ∧ plan.budgets.hardMaxOperations ≤ 1024
  maxEntities : plan.budgets.estimatedEntities ≤ plan.budgets.hardMaxEntities ∧
    1 ≤ plan.budgets.hardMaxEntities ∧ plan.budgets.hardMaxEntities ≤ 1024
  maxVertices : plan.budgets.estimatedVertices ≤ plan.budgets.hardMaxVertices ∧
    1 ≤ plan.budgets.hardMaxVertices ∧ plan.budgets.hardMaxVertices ≤ 4096
  maxTextBytes : plan.budgets.estimatedTextBytes ≤ plan.budgets.hardMaxTextBytes ∧
    1 ≤ plan.budgets.hardMaxTextBytes ∧ plan.budgets.hardMaxTextBytes ≤ 65536

/-- The digests of a plan under a hash. -/
structure DigestsFit (hash : List Char → String) (plan : CadExecutionPlanV1) : Prop where
  expansion : domainDigest hash "cad.program.expansion/1" (expansionJson plan.operations) =
    some plan.expansionDigest
  effect : domainDigest hash "cad.effect-manifest/1" (manifestJson plan.effectManifest) =
    some plan.effectManifestDigest
  targetRefs : domainDigest hash "cad.target-refs/1" (targetRefsJson plan.materializedTargetRefs) =
    some plan.targetRefsDigest
  profiles : domainDigest hash "cad.validation-profiles/1" (profilesJson plan.validationProfiles) =
    some plan.validationProfilesDigest
  checkpoint : domainDigest hash "cad.checkpoint-strategy/1"
    (checkpointJson plan.checkpointStrategy) = some plan.checkpointStrategyDigest
  budgets : domainDigest hash "cad.execution-budgets/1" (hardBudgetsJson plan.budgets) =
    some plan.hardBudgetsDigest
  plan : domainDigest hash "cad.execution-plan/1" (canonicalExecutionPlan plan) =
    some plan.executionPlanDigest

/-- What the compiler guarantees of a plan. -/
structure PlanFits (hash : List Char → String) (plan : CadExecutionPlanV1) : Prop where
  planId : isIdentifier plan.planId = true
  sourceProgramId : isIdentifier plan.sourceProgramId = true
  sourceProgramRevision : 1 ≤ plan.sourceProgramRevision
  sourceDigest : Program.isDigest plan.sourceDigest = true
  compilerDigest : plan.compilerDigest = hostCompilerDigest
  compilerPackageHash : Program.isDigest plan.compilerPackageHash = true
  deviceId : isIdentifier plan.deviceId = true
  documentId : isIdentifier plan.documentId = true
  sourceSnapshotId : isIdentifier plan.sourceSnapshotId = true
  expectedDocumentRevision : isRevision plan.expectedDocumentRevision = true
  operations : ∀ o ∈ plan.operations, OperationFits o
  operationCount : 1 ≤ plan.operations.length ∧ plan.operations.length ≤ 1024
  refs : RefsClosed plan
  refCount : plan.materializedTargetRefs.length ≤ 1024
  manifest : plan.effectManifest = effectManifest plan.operations plan.materializedTargetRefs
  strategy : plan.checkpointStrategy = plan.effectManifest.checkpointStrategy
  pins : plan.executionPins.fits = true
  budgets : BudgetsFit plan
  capabilities : plan.requiredCapabilities.length ≤ 64 ∧
    ∀ c ∈ plan.requiredCapabilities, isIdentifier c = true
  profiles : 1 ≤ plan.validationProfiles.length ∧ plan.validationProfiles.length ≤ 16 ∧
    plan.validationProfiles.Nodup ∧ ∀ p ∈ plan.validationProfiles, isIdentifier p = true
  artifactRefs : plan.artifactRefs = []
  componentRefs : plan.componentRefs = []
  digests : DigestsFit hash plan

/-- The texts of a plan that its source and its pins choose freely. -/
def planTexts (plan : CadExecutionPlanV1) : List String :=
  [plan.expectedDocumentRevision, plan.executionPins.operationRegistryVersion,
    plan.executionPins.policyVersion] ++ plan.operations.flatMap fun o => freeTexts o.body

/-! ## The document of a plan -/

def planDocFields (plan : CadExecutionPlanV1) : List (String × Doc) :=
  (planItems plan).map fun m => (m.1, toDoc m.2)

def planDoc (plan : CadExecutionPlanV1) : Doc := toDoc (planJson plan)

theorem planDoc_eq (plan : CadExecutionPlanV1) : planDoc plan =
    fields (planDocFields plan ++ [("execution_plan_digest", text plan.executionPlanDigest)]) := by
  simp [planDoc, planJson, planDocFields]

theorem plan_names (plan : CadExecutionPlanV1) : PlainNames ((planItems plan).map Prod.fst) := by
  repeat refine plainNames_cons rfl ?_
  exact plainNames_nil

theorem getPlan {plan : CadExecutionPlanV1} {name : String} {d : Doc}
    (h : fieldOf name (planDocFields plan ++
      [("execution_plan_digest", text plan.executionPlanDigest)]) = some d) :
    (planDoc plan).get? name = some d := by
  rw [planDoc_eq, get?_fields]
  exact h

section

variable {hash : List Char → String} {blocked : Char → Bool} {plan : CadExecutionPlanV1}

/-! ## Texts and integers -/

theorem alike_registry (r : RegistryVersion) : Alike blocked (registryName r).toList := by
  cases r <;> exact alike_literal rfl

theorem fitsDouble_small {n : Int} (hlow : -2147483648 ≤ n) (hhigh : n ≤ 2147483647) :
    fitsDouble n := by
  have hbound : (2147483648 : Int) < 2 ^ 1024 - 2 ^ 970 := by decide +kernel
  unfold fitsDouble
  generalize (2 ^ 1024 - 2 ^ 970 : Int) = bound at hbound ⊢
  omega

theorem digest_isDigest (hformat : ∀ t, Program.isDigest (hash t) = true) {domain digest : String}
    {payload : Value} (h : domainDigest hash domain payload = some digest) :
    Program.isDigest digest = true := by
  rw [domainDigest_eq_some h]
  exact hformat _

theorem hostCompilerDigest_isDigest : Program.isDigest hostCompilerDigest = true := by
  rfl

/-- The free texts of a plan decide how its JSON is encoded. -/
theorem everyText_plan (hformat : ∀ t, Program.isDigest (hash t) = true) (h : PlanFits hash plan) :
    (toDoc (canonicalExecutionPlan plan)).EveryText (Alike blocked) ↔
      ∀ s ∈ planTexts plan, Alike blocked s.toList := by
  have hdigest := fun {domain digest : String} {payload : Value}
    (hd : domainDigest hash domain payload = some digest) =>
      (alike_digest (digest_isDigest hformat hd) : Alike blocked digest.toList)
  have hschema : Alike blocked "cad.execution-plan/1".toList := alike_literal rfl
  have hsource : Alike blocked "cad.program/1.0".toList := alike_literal rfl
  have hcompiler : (toDoc (compilerJson plan)).EveryText (Alike blocked) := by
    have hid : Alike blocked compilerId.toList := alike_literal rfl
    have hversion : Alike blocked compilerVersion.toList := alike_literal rfl
    rw [compilerJson, toDoc_fields, everyText_named]
    · simp only [List.map_cons, List.map_nil, List.forall_mem_cons, List.not_mem_nil,
        false_imp_iff, implies_true, and_true, toDoc_text, everyText_text, hid, hversion,
        h.compilerDigest, alike_digest hostCompilerDigest_isDigest,
        alike_digest h.compilerPackageHash]
    · repeat refine plainNames_cons rfl ?_
      exact plainNames_nil
  have hpins : (toDoc (.fields (pinItems plan.executionPins))).EveryText (Alike blocked) ↔
      Alike blocked plan.executionPins.operationRegistryVersion.toList ∧
        Alike blocked plan.executionPins.policyVersion.toList := by
    rw [toDoc_fields, everyText_named, List.forall_mem_map, everyText_pins h.pins]
    rw [List.map_map]
    exact pin_names plan.executionPins
  have hmanifest : (toDoc (manifestJson plan.effectManifest)).EveryText (Alike blocked) := by
    rw [h.manifest]
    exact everyText_manifest fun o ho => (h.operations o ho).operationId
  have hoperations : (∀ o ∈ plan.operations, (toDoc (operationJson o)).EveryText (Alike blocked)) ↔
      ∀ s ∈ plan.operations.flatMap (fun o => freeTexts o.body), Alike blocked s.toList := by
    rw [List.forall_mem_flatMap]
    exact forall₂_congr fun o ho => everyText_operation (h.operations o ho)
  have hrefs : Alike blocked plan.expectedDocumentRevision.toList →
      ∀ r ∈ plan.materializedTargetRefs, (toDoc (targetRefJson r)).EveryText (Alike blocked) := by
    intro hrevision r hr
    rw [everyText_ref (h.refs.fit r hr), (h.refs.context r hr).2.2.2]
    exact hrevision
  have hcapabilities : ∀ c ∈ plan.requiredCapabilities, Alike blocked c.toList := fun c hc =>
    alike_identifier (h.capabilities.2 c hc)
  have hprofiles : ∀ p ∈ plan.validationProfiles, Alike blocked p.toList := fun p hp =>
    alike_identifier (h.profiles.2.2.2 p hp)
  rw [canonicalExecutionPlan, toDoc_fields, everyText_named, planItems]
  · simp only [List.map_cons, List.map_nil, List.forall_mem_cons, List.not_mem_nil, false_imp_iff,
      implies_true, and_true, true_and, toDoc_text, toDoc_int, toDoc_list, everyText_text,
      everyText_integer, everyText_array, List.forall_mem_map, hschema, hsource, hcompiler, hpins,
      hmanifest, hoperations, everyText_budgets, alike_registry, alike_checkpoint, h.artifactRefs, h.componentRefs, alike_identifier h.planId,
      alike_identifier h.sourceProgramId, alike_digest h.sourceDigest, alike_identifier h.deviceId,
      alike_identifier h.documentId, alike_identifier h.sourceSnapshotId,
      hdigest h.digests.expansion, hdigest h.digests.effect, hdigest h.digests.targetRefs,
      hdigest h.digests.profiles, hdigest h.digests.checkpoint, hdigest h.digests.budgets]
    rw [planTexts, List.forall_mem_append, List.forall_mem_cons, List.forall_mem_cons,
      List.forall_mem_singleton]
    constructor
    · rintro ⟨hrevision, hops, -, ⟨hregistry, hpolicy⟩, -, -⟩
      exact ⟨⟨hrevision, hregistry, hpolicy⟩, hops⟩
    · rintro ⟨⟨hrevision, hregistry, hpolicy⟩, hops⟩
      exact ⟨hrevision, hops, hrefs hrevision, ⟨hregistry, hpolicy⟩, hcapabilities, hprofiles⟩
  · rw [List.map_map]
    exact plan_names plan

/-- An integer that the host takes. -/
def Small (n : Int) : Prop := -2147483648 ≤ n ∧ n ≤ 2147483647

theorem everyInt_small {v : Value} (h : v.EveryInt Small) : v.EveryInt fitsDouble := fun n hn =>
  fitsDouble_small (h n hn).1 (h n hn).2

theorem everyInt_point (p : ConcretePoint) {P : Int → Prop} : (pointJson p).EveryInt P := by
  simp [pointJson, numberText, everyInt_fields]

theorem everyInt_operation {o : ConcreteOperation} (h : OperationFits o) :
    (operationJson o).EveryInt Small := by
  have hone : Small 1 := by unfold Small; omega
  have hbody : ∀ m ∈ bodyJson o.body, m.2.EveryInt Small := by
    obtain ⟨operationId, sourceOperationId, body⟩ := o
    have hfits := h.body
    rcases body with ⟨name, _ | c⟩ | _ | _ | _ | _ | _ | ⟨layer, p, q, r, _ | t⟩ | _ | _ | _ <;>
      simp [bodyJson, optionalField, everyInt_point, numberText]
    have hcolor := hfits.2 c rfl
    exact ⟨by omega, by omega⟩
  rw [operationJson, everyInt_fields]
  simp only [List.forall_mem_cons, everyInt_text, everyInt_int, hone, true_and]
  exact hbody

theorem everyInt_manifest (hfits : PlanFits hash plan) :
    (manifestJson plan.effectManifest).EveryInt Small := by
  obtain ⟨hcreates, hmodifies⟩ := creates_le plan.operations plan.materializedTargetRefs
  have hensures : (manifestOf (plan.operations.map
      (effectEntry plan.materializedTargetRefs))).ensuresNonEntity ≤ plan.operations.length := by
    rw [ensures_count]
    exact (List.countP_le_length).trans (List.length_map _).le
  have hcount := hfits.operationCount.2
  have hentry : ∀ o, (entryJson (effectEntry plan.materializedTargetRefs o)).EveryInt Small := by
    intro o
    have hone : (effectEntry plan.materializedTargetRefs o).creates ≤ 1 ∧
        (effectEntry plan.materializedTargetRefs o).modifies ≤ 1 := by
      simp only [effectEntry]
      constructor <;> split <;> decide
    rw [entryJson, everyInt_fields]
    simp only [List.forall_mem_cons, everyInt_text, everyInt_int, true_and, and_true,
      List.not_mem_nil, false_imp_iff, implies_true]
    unfold Small
    omega
  rw [hfits.manifest, manifestJson, everyInt_fields]
  simp only [List.forall_mem_cons, everyInt_text, everyInt_int, true_and, and_true,
    List.not_mem_nil, false_imp_iff, implies_true, everyInt_list, List.forall_mem_map]
  refine ⟨?_, ?_⟩
  · intro e he
    obtain ⟨o, -, rfl⟩ := List.mem_map.mp he
    exact hentry o
  · rw [effectManifest]
    unfold Small
    omega

theorem everyInt_targetRefs (refs : List MaterializedTargetRef) :
    ∀ v ∈ refs.map targetRefJson, v.EveryInt Small := by
  rw [List.forall_mem_map]
  intro r _
  simp [targetRefJson, everyInt_fields]

theorem everyInt_plan (h : PlanFits hash plan) (hrevision : plan.sourceProgramRevision ≤ 2147483647) :
    (canonicalExecutionPlan plan).EveryInt Small := by
  have hpos := h.sourceProgramRevision
  have hbudgets : (budgetsJson plan.budgets).EveryInt Small := by
    have hb := h.budgets
    have h1 := hb.operations
    have h2 := hb.entities
    have h3 := hb.vertices
    have h4 := hb.textBytes
    have h5 := hb.maxOperations
    have h6 := hb.maxEntities
    have h7 := hb.maxVertices
    have h8 := hb.maxTextBytes
    rw [budgetsJson, everyInt_fields]
    simp only [List.forall_mem_cons, everyInt_int, List.not_mem_nil, false_imp_iff, implies_true,
      and_true]
    unfold Small
    omega
  have hpins : (Value.fields (pinItems plan.executionPins)).EveryInt Small := by
    simp [pinItems, everyInt_fields]
  have hcompiler : (compilerJson plan).EveryInt Small := by
    simp [compilerJson, everyInt_fields]
  have htexts : ∀ texts : List String, ∀ v ∈ texts.map Value.text, v.EveryInt Small := fun texts v hv => by
    obtain ⟨s, -, rfl⟩ := List.mem_map.mp hv
    exact everyInt_text
  have hoperations : ∀ v ∈ plan.operations.map operationJson, v.EveryInt Small := fun v hv => by
    obtain ⟨o, ho, rfl⟩ := List.mem_map.mp hv
    exact everyInt_operation (h.operations o ho)
  rw [canonicalExecutionPlan, everyInt_fields, planItems]
  simp only [List.forall_mem_cons, List.not_mem_nil, false_imp_iff, implies_true, and_true,
    everyInt_text, everyInt_int, everyInt_list, true_and, hbudgets, hpins, hcompiler,
    everyInt_manifest h, h.artifactRefs, h.componentRefs, List.map_nil]
  exact ⟨⟨by omega, hrevision⟩, hoperations, everyInt_targetRefs _, htexts _, htexts _⟩

/-! ## The parts of a plan -/

theorem registry_plain (r : RegistryVersion) : (registryName r).toList.all plain = true := by
  cases r <;> rfl

theorem requireRegistry {d : Doc} {name : String} {r : RegistryVersion}
    (hget : d.get? name = some (text (registryName r))) :
    requireBoundedString d name 256 = .ok (registryName r) := by
  refine requireBoundedString_plain hget (toList_ne_nil_of_length ?_) (registry_plain r) ?_ <;>
    cases r <;> decide

theorem checkpoint_plain (c : CheckpointStrategy) :
    (checkpointName c).toList.all plain = true ∧ 1 ≤ (checkpointName c).length ∧
      (checkpointName c).length ≤ 64 := by
  cases c <;> exact ⟨rfl, by decide, by decide⟩

theorem planDoc_names : (planDoc plan).names? = some planFields := by
  rw [planDoc_eq, names?_fields]
  rfl

/-- Only a plan without an effect has the strategy `none`. -/
theorem strategy_allowed (h : PlanFits hash plan) :
    checkpointName plan.checkpointStrategy = "cad.rollback.checkpoint/1-created-entities" ∨
      checkpointName plan.checkpointStrategy = "cad.rollback.checkpoint/2" := by
  rw [h.strategy, h.manifest, effectManifest, strategy_eq]
  split
  · exact Or.inr rfl
  · exact Or.inl rfl

theorem validatePlanHeader_ok (h : PlanFits hash plan)
    (hrevision : plan.sourceProgramRevision ≤ 2147483647)
    (halike : ∀ s ∈ planTexts plan, Alike blocked s.toList) :
    validatePlanHeader (planDoc plan) =
      .ok (registryName plan.sourceRegistryVersion, checkpointName plan.checkpointStrategy) := by
  have hrev : Alike blocked plan.expectedDocumentRevision.toList :=
    halike _ (by simp [planTexts])
  have hallowed : isAllowedRegistry (registryName plan.sourceRegistryVersion) = true := by
    cases plan.sourceRegistryVersion <;>
      simp [isAllowedRegistry, registryName, phase8RegistryVersion]
  obtain ⟨hplain, hmin, hmax⟩ := checkpoint_plain plan.checkpointStrategy
  refine pass (ensureExact_names planDoc_names ?_ (fun _ h => h) fun _ h => Or.inl h) ?_
  · simp [planFields]
  refine pass (requireString_text (getPlan (by simp [planDocFields, planItems]))) ?_
  refine pass (requireString_text (getPlan (by simp [planDocFields, planItems]))) ?_
  refine bind_eq_ok.mpr ⟨_, requireRegistry (r := plan.sourceRegistryVersion)
    (getPlan (by simp [planDocFields, planItems])), ?_⟩
  refine pass (check_true hallowed) ?_
  refine bind_eq_ok.mpr ⟨_, requireIdentifier_text (s := plan.planId)
    (getPlan (by simp [planDocFields, planItems])) h.planId, ?_⟩
  refine bind_eq_ok.mpr ⟨_, requireIdentifier_text (s := plan.sourceProgramId)
    (getPlan (by simp [planDocFields, planItems])) h.sourceProgramId, ?_⟩
  refine bind_eq_ok.mpr ⟨_, requirePositiveInteger_integer (n := plan.sourceProgramRevision)
    (getPlan (by simp [planDocFields, planItems])) h.sourceProgramRevision hrevision, ?_⟩
  refine bind_eq_ok.mpr ⟨_, requireDigest_text (s := plan.sourceDigest)
    (getPlan (by simp [planDocFields, planItems])) h.sourceDigest, ?_⟩
  refine bind_eq_ok.mpr ⟨_, requireIdentifier_text (s := plan.deviceId)
    (getPlan (by simp [planDocFields, planItems])) h.deviceId, ?_⟩
  refine bind_eq_ok.mpr ⟨_, requireIdentifier_text (s := plan.documentId)
    (getPlan (by simp [planDocFields, planItems])) h.documentId, ?_⟩
  refine bind_eq_ok.mpr ⟨_, requireIdentifier_text (s := plan.sourceSnapshotId)
    (getPlan (by simp [planDocFields, planItems])) h.sourceSnapshotId, ?_⟩
  refine bind_eq_ok.mpr ⟨_, requireRevision (r := plan.expectedDocumentRevision)
    (getPlan (by simp [planDocFields, planItems])) h.expectedDocumentRevision hrev, ?_⟩
  refine bind_eq_ok.mpr ⟨_, requireBoundedString_plain (s := checkpointName plan.checkpointStrategy)
    (getPlan (by simp [planDocFields, planItems])) (toList_ne_nil_of_length hmin) hplain hmax, ?_⟩
  exact pass (check_true (strategy_allowed h)) rfl

theorem toDoc_compilerJson (h : PlanFits hash plan) : toDoc (compilerJson plan) =
    fields [("compiler_id", text compilerId), ("compiler_version", text compilerVersion),
      ("compiler_digest", text hostCompilerDigest),
      ("compiler_package_hash", text plan.compilerPackageHash)] := by
  simp [compilerJson, h.compilerDigest]

theorem validateCompiler_ok (h : PlanFits hash plan) :
    validateCompiler (toDoc (compilerJson plan)) = .ok () := by
  rw [toDoc_compilerJson h]
  refine pass (ensureExact_fields (by simp) (by simp) (by simp)) ?_
  refine pass (requireString_text (by simp [compilerId])) ?_
  refine pass (requireString_text (by simp [compilerVersion])) ?_
  refine bind_eq_ok.mpr ⟨_, requireDigest_text (by simp) hostCompilerDigest_isDigest, ?_⟩
  refine pass (check_true rfl) ?_
  exact bind_eq_ok.mpr ⟨_, requireDigest_text (by simp) h.compilerPackageHash, rfl⟩

theorem requireHash_ok {d : Doc} {property s message : String} {actual : Verdict String}
    (hget : d.get? property = some (text s)) (hdigest : Program.isDigest s = true)
    (hactual : actual = .ok s) : requireHash d property actual message = .ok s := by
  rw [requireHash, requireDigest_text hget hdigest, hactual]
  exact pass (check_true rfl) rfl

theorem everyText_wrapped {name : String} {d : Doc} (hname : name.toList.all plain = true) :
    (fields [(name, d)]).EveryText (Alike blocked) ↔ d.EveryText (Alike blocked) := by
  rw [everyText_named, List.forall_mem_singleton]
  exact List.forall_mem_singleton.mpr hname

theorem validateOperations_ok (hformat : ∀ t, Program.isDigest (hash t) = true) (h : PlanFits hash plan)
    (hids : (plan.operations.map ConcreteOperation.operationId).Nodup)
    (halike : ∀ s ∈ planTexts plan, Alike blocked s.toList) :
    validateOperations hash blocked (planDoc plan) = .ok (operationDocs plan.operations) := by
  have hfree : ∀ o ∈ plan.operations, ∀ s ∈ freeTexts o.body, Alike blocked s.toList :=
    fun o ho s hs => halike s (List.mem_append_right _ (List.mem_flatMap.mpr ⟨o, ho, hs⟩))
  refine bind_eq_ok.mpr ⟨_, requireArray_items (l := operationDocs plan.operations)
    (getPlan (by simp [planDocFields, planItems, operationDocs, Function.comp_def]))
    (by simpa [operationDocs] using h.operationCount.1)
    (by simpa [operationDocs] using h.operationCount.2), ?_⟩
  refine bind_eq_ok.mpr ⟨_, @operations_accepted blocked _ [] h.operations hfree
    (by simpa using hids), ?_⟩
  refine bind_eq_ok.mpr ⟨_, requireHash_ok (s := plan.expansionDigest)
    (getPlan (by simp [planDocFields, planItems])) (digest_isDigest hformat h.digests.expansion) ?_,
    rfl⟩
  have hjson : toDoc (expansionJson plan.operations) =
      fields [("operations", .array (operationDocs plan.operations))] := by
    simp [expansionJson, operationDocs, Function.comp_def]
  rw [hashWrapped, ← hjson]
  refine hashDomain_agrees h.digests.expansion (everyInt_small ?_)
    (alike_literal rfl) ?_
  · rw [expansionJson, everyInt_fields]
    simp only [List.forall_mem_singleton, everyInt_list, List.forall_mem_map]
    exact fun o ho => everyInt_operation (h.operations o ho)
  · rw [hjson, everyText_wrapped rfl, everyText_array, operationDocs,
      List.forall_mem_map]
    exact fun o ho => (everyText_operation (h.operations o ho)).mpr (hfree o ho)

theorem refs_used (h : PlanFits hash plan) : ∀ o ∈ plan.operations, ∀ refId,
    o.body.targetRefId? = some refId → ∃ ref, findRef plan.materializedTargetRefs refId = some ref :=
  fun o ho _ hid => findRef_of_mem (h.refs.used _ (List.mem_filterMap.mpr ⟨o, ho, hid⟩))

theorem validateEffects_ok (hformat : ∀ t, Program.isDigest (hash t) = true) (h : PlanFits hash plan)
    (halike : ∀ s ∈ planTexts plan, Alike blocked s.toList) :
    validateEffects hash blocked (planDoc plan) (operationDocs plan.operations)
      (registryName plan.sourceRegistryVersion) (checkpointName plan.checkpointStrategy) =
      .ok () := by
  have hrev : Alike blocked plan.expectedDocumentRevision.toList :=
    halike _ (by simp [planTexts])
  have hrefRev : ∀ r ∈ plan.materializedTargetRefs, Alike blocked r.documentRevision.toList :=
    fun r hr => (h.refs.context r hr).2.2.2 ▸ hrev
  have hids : ∀ o ∈ plan.operations, isIdentifier o.operationId = true := fun o ho =>
    (h.operations o ho).operationId
  refine bind_eq_ok.mpr ⟨_, getProperty_eq (v := toDoc (manifestJson plan.effectManifest))
    (getPlan (by simp [planDocFields, planItems])), ?_⟩
  refine bind_eq_ok.mpr ⟨_, requireHash_ok (s := plan.effectManifestDigest)
    (getPlan (by simp [planDocFields, planItems])) (digest_isDigest hformat h.digests.effect)
    (hashDomain_agrees h.digests.effect (everyInt_small (everyInt_manifest h))
      (alike_literal rfl) (h.manifest ▸ everyText_manifest hids)), ?_⟩
  refine bind_eq_ok.mpr ⟨_, requireArray_items (l := refDocs plan.materializedTargetRefs)
    (getPlan (by simp [planDocFields, planItems, refDocs, Function.comp_def])) (Nat.zero_le _)
    (by simpa [refDocs] using h.refCount), ?_⟩
  refine pass (bind_eq_ok.mpr ⟨_, @targetRefs_accepted _ _ [] h.refs.fit hrefRev
    (by simpa using h.refs.nodup), rfl⟩) ?_
  refine pass (validateTargetClosure_ok h.refs
    (getPlan (by simp [planDocFields, planItems])) (getPlan (by simp [planDocFields, planItems]))
    (getPlan (by simp [planDocFields, planItems])) (getPlan (by simp [planDocFields, planItems]))
    (getPlan (by simp [planDocFields, planItems, Function.comp_def]))) ?_
  refine pass (h.manifest ▸ validateEffectManifest_ok h.operationCount.1 h.operationCount.2 hids
    (refs_used h)) ?_
  refine bind_eq_ok.mpr ⟨_, stringAt_text (s := checkpointName plan.effectManifest.checkpointStrategy)
    (by simp [toDoc_manifestJson]), pass (check_true (by rw [h.strategy])) ?_⟩
  refine bind_eq_ok.mpr ⟨_, requireHash_ok (s := plan.targetRefsDigest)
    (getPlan (by simp [planDocFields, planItems])) (digest_isDigest hformat h.digests.targetRefs) ?_,
    rfl⟩
  have hjson : toDoc (targetRefsJson plan.materializedTargetRefs) =
      fields [("target_refs", .array (refDocs plan.materializedTargetRefs))] := by
    simp [targetRefsJson, refDocs, Function.comp_def]
  rw [hashWrapped, ← hjson]
  refine hashDomain_agrees h.digests.targetRefs (everyInt_small ?_)
    (alike_literal rfl) ?_
  · rw [targetRefsJson, everyInt_fields]
    simp only [List.forall_mem_singleton, everyInt_list]
    exact everyInt_targetRefs _
  · rw [hjson, everyText_wrapped rfl, everyText_array, refDocs,
      List.forall_mem_map]
    exact fun r hr => (everyText_ref (h.refs.fit r hr)).mpr (hrefRev r hr)

end

end AutocadMcp.Phase8
