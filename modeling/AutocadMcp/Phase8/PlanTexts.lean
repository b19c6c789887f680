import AutocadMcp.Phase8.Effects

/-!
# The texts of a plan

Which strings of a plan its source and its pins choose freely, and that nothing else in
the JSON of the plan can be encoded in two ways; its integers are small.
-/

namespace AutocadMcp.Phase8

open JsonText CanonicalJson Host Program

/-! ## Names of fields -/

/-- Names in printable ASCII. -/
def PlainNames (names : List String) : Prop := ∀ name ∈ names, name.toList.all plain = true

theorem plainNames_nil : PlainNames [] := nofun

theorem plainNames_cons {cs : List Char} {names : List String} (h : cs.all plain = true)
    (hs : PlainNames names) : PlainNames (String.ofList cs :: names) := by
  refine List.forall_mem_cons.mpr ⟨?_, hs⟩
  rw [String.toList_ofList]
  exact h

theorem plainNames_append {names names' : List String} (h : PlainNames names)
    (h' : PlainNames names') : PlainNames (names ++ names') :=
  List.forall_mem_append.mpr ⟨h, h'⟩

section

variable {blocked : Char → Bool}

/-- Names of fields apart, the texts of an object are those of its values. -/
theorem everyText_named {ms : List (String × Doc)} (hnames : PlainNames (ms.map Prod.fst)) :
    (fields ms).EveryText (Alike blocked) ↔ ∀ m ∈ ms, m.2.EveryText (Alike blocked) := by
  rw [everyText_fields]
  refine forall₂_congr fun m hm => and_iff_right ?_
  exact alike_of_all_plain (hnames _ (List.mem_map.mpr ⟨m, hm, rfl⟩))

theorem alike_identifier {s : String} (h : isIdentifier s = true) : Alike blocked s.toList :=
  alike_of_all_plain (isIdentifier_plain h)

theorem alike_digest {s : String} (h : Program.isDigest s = true) : Alike blocked s.toList :=
  alike_of_all_plain (isDigest_plain h)

theorem alike_kind (kind : OperationKind) : Alike blocked kind.name.toList :=
  alike_of_all_plain (kind_plain kind)

theorem alike_number {value : Rat} (h : Normalized value) :
    Alike blocked (canonicalText value).toList :=
  alike_of_all_plain (canonicalText_plain h)

theorem everyText_point {p : ConcretePoint} (h : pointFits p) :
    (toDoc (pointJson p)).EveryText (Alike blocked) := by
  rw [toDoc_pointJson, everyText_named]
  · simp only [List.forall_mem_cons, List.not_mem_nil, false_imp_iff, implies_true, and_true]
    exact ⟨everyText_text.mpr (alike_number h.1), everyText_text.mpr (alike_number h.2.1),
      everyText_text.mpr (alike_number h.2.2)⟩
  · repeat refine plainNames_cons rfl ?_
    exact plainNames_nil

/-! ## Operations -/

theorem body_names (body : ConcreteBody) : PlainNames ((bodyJson body).map Prod.fst) := by
  rcases body with ⟨name, _ | c⟩ | _ | _ | _ | _ | _ | ⟨layer, p, q, r, _ | t⟩ | _ | _ | _ <;>
    · repeat refine plainNames_cons rfl ?_
      exact plainNames_nil

theorem operation_names (o : ConcreteOperation) :
    PlainNames ((operationFields o).map Prod.fst) := by
  rw [operationFields, List.map_cons, List.map_cons, List.map_cons, List.map_cons, List.map_map]
  repeat refine plainNames_cons rfl ?_
  exact body_names o.body

/-- The texts of the fields of a kind of operation. -/
theorem everyText_body {body : ConcreteBody} (h : bodyFits body) :
    (∀ m ∈ bodyJson body, (toDoc m.2).EveryText (Alike blocked)) ↔
      ∀ s ∈ freeTexts body, Alike blocked s.toList := by
  cases body with
  | ensureLayer name colorIndex =>
      cases colorIndex <;> simp [bodyJson, optionalField, freeTexts]
  | createLine layer start stop =>
      simp [bodyJson, freeTexts, everyText_point h.2.1, everyText_point h.2.2]
  | createCircle layer center radiusMm =>
      simp [bodyJson, freeTexts, numberText, everyText_point h.2.1, alike_number h.2.2.1]
  | createPolyline layer vertices closed =>
      have hvertices : ∀ p ∈ vertices, (toDoc (pointJson p)).EveryText (Alike blocked) :=
        fun p hp => everyText_point (h.2.2.2 p hp)
      simpa [bodyJson, freeTexts] using fun _ => hvertices
  | createRectangle layer firstCorner oppositeCorner =>
      simp [bodyJson, freeTexts, everyText_point h.2.1, everyText_point h.2.2]
  | createText layer position text heightMm rotationRad =>
      simp [bodyJson, freeTexts, numberText, everyText_point h.2.1, alike_number h.2.2.2.2.1,
        alike_number h.2.2.2.2.2.2]
  | createDimensionLinear layer p q r textOverride =>
      cases textOverride <;> simp [bodyJson, optionalField, freeTexts, everyText_point h.2.1,
        everyText_point h.2.2.1, everyText_point h.2.2.2]
  | copyEntity targetRefId displacementMm outputId =>
      simp [bodyJson, freeTexts, everyText_point h.2.1, alike_identifier h.1,
        alike_identifier h.2.2.2]
  | offsetEntity targetRefId signedDistanceMm outputId =>
      simp [bodyJson, freeTexts, numberText, alike_number h.2.1, alike_identifier h.1,
        alike_identifier h.2.2.2]
  | moveEntity targetRefId displacementMm =>
      simp [bodyJson, freeTexts, everyText_point h.2.1, alike_identifier h.1]

theorem everyText_operation {o : ConcreteOperation} (h : OperationFits o) :
    (toDoc (operationJson o)).EveryText (Alike blocked) ↔
      ∀ s ∈ freeTexts o.body, Alike blocked s.toList := by
  rw [toDoc_operationJson, everyText_named (operation_names o), operationFields]
  simp only [List.forall_mem_cons, List.forall_mem_map, everyText_text, everyText_integer,
    true_and, alike_kind, alike_identifier h.operationId, alike_identifier h.sourceOperationId]
  exact everyText_body h.body

/-! ## Effects and references -/

theorem alike_checkpoint (c : CheckpointStrategy) : Alike blocked (checkpointName c).toList := by
  cases c <;> exact alike_literal rfl

theorem everyText_entry {refs : List MaterializedTargetRef} {o : ConcreteOperation}
    (hid : isIdentifier o.operationId = true) :
    (toDoc (entryJson (effectEntry refs o))).EveryText (Alike blocked) := by
  have hclass : ∀ c : Program.EffectClass, Alike blocked (effectClassName c).toList := by
    intro c
    cases c <;> exact alike_literal rfl
  have htype : Alike blocked (effectEntry refs o).entityType.toList := by
    show Alike blocked (entityTypeOf refs o).toList
    unfold entityTypeOf
    split
    · cases hfind : findRef refs _ with
      | none => exact alike_literal (s := []) (by decide)
      | some r =>
          show Alike blocked r.entityType.name.toList
          exact alike_identifier (entityType_identifier _)
    · cases o.body.kind <;> exact alike_literal rfl
  rw [toDoc_entryJson, everyText_named]
  · simp only [List.forall_mem_cons, List.not_mem_nil, false_imp_iff, implies_true, and_true,
      everyText_text, everyText_integer, hclass, alike_checkpoint, htype]
    exact ⟨alike_identifier hid, alike_kind _⟩
  · repeat refine plainNames_cons rfl ?_
    exact plainNames_nil

theorem everyText_manifest {operations : List ConcreteOperation}
    {refs : List MaterializedTargetRef}
    (hids : ∀ o ∈ operations, isIdentifier o.operationId = true) :
    (toDoc (manifestJson (effectManifest operations refs))).EveryText (Alike blocked) := by
  have hrisk : ∀ r : RiskFloor, Alike blocked (riskName r).toList := by
    intro r
    cases r <;> exact alike_literal rfl
  have hschema : Alike blocked "cad.effect-manifest/1".toList := alike_literal rfl
  rw [toDoc_manifestJson, everyText_named]
  · simp only [List.forall_mem_cons, List.not_mem_nil, false_imp_iff, implies_true, and_true,
      everyText_text, everyText_integer, true_and, hrisk, alike_checkpoint, hschema,
      everyText_array, effectManifest, manifestOf, List.forall_mem_map]
    exact fun o ho => everyText_entry (hids o ho)
  · repeat refine plainNames_cons rfl ?_
    exact plainNames_nil

theorem everyText_ref {r : MaterializedTargetRef} (h : r.fits = true) :
    (toDoc (targetRefJson r)).EveryText (Alike blocked) ↔
      Alike blocked r.documentRevision.toList := by
  simp only [MaterializedTargetRef.fits, Bool.and_eq_true] at h
  obtain ⟨⟨⟨⟨⟨⟨⟨href, howner⟩, hdevice⟩, hdocument⟩, hsnapshot⟩, -⟩, hentity⟩, hfingerprint⟩ := h
  rw [toDoc_targetRefJson, everyText_named]
  · simp only [List.forall_mem_cons, List.not_mem_nil, false_imp_iff, implies_true, and_true,
      everyText_text, true_and, alike_identifier href, alike_identifier howner,
      alike_identifier hdevice, alike_identifier hdocument, alike_identifier hsnapshot,
      alike_identifier hentity, alike_identifier (entityType_identifier r.entityType),
      alike_digest hfingerprint]
  · repeat refine plainNames_cons rfl ?_
    exact plainNames_nil

/-! ## Pins and budgets -/

theorem pin_names (p : ExecutionPins) : PlainNames ((pinItems p).map Prod.fst) := by
  repeat refine plainNames_cons rfl ?_
  exact plainNames_nil

theorem everyText_pins {p : ExecutionPins} (h : p.fits = true) :
    (∀ m ∈ pinItems p, (toDoc m.2).EveryText (Alike blocked)) ↔
      Alike blocked p.operationRegistryVersion.toList ∧ Alike blocked p.policyVersion.toList := by
  simp only [ExecutionPins.fits, Bool.and_eq_true] at h
  obtain ⟨⟨⟨⟨⟨⟨⟨⟨⟨⟨hruntime, hfamily⟩, hhost⟩, hpackage⟩, hversion⟩, hhash⟩, hmanifest⟩, -⟩,
    hregistry⟩, -⟩, hrollout⟩ := h
  have hrole : Alike blocked "primary".toList := alike_literal rfl
  simp only [pinItems, List.forall_mem_cons, List.not_mem_nil, false_imp_iff, implies_true,
    and_true, toDoc_text, everyText_text, true_and, hrole, alike_identifier hruntime,
    alike_identifier hfamily, alike_identifier hhost, alike_identifier hpackage,
    alike_identifier hversion, alike_digest hhash, alike_digest hmanifest, alike_digest hregistry,
    alike_digest hrollout]

theorem everyText_budgets (b : ExecutionPlanBudgets) :
    (toDoc (budgetsJson b)).EveryText (Alike blocked) := by
  rw [budgetsJson, toDoc_fields, everyText_named]
  · simp
  · repeat refine plainNames_cons rfl ?_
    exact plainNames_nil

end

end AutocadMcp.Phase8
