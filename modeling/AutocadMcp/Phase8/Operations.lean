import AutocadMcp.Phase8.Readers

/-!
# Operations before the host

The host accepts each operation that the compiler writes, one kind after the other, as
long as its layer, which Python counts in characters and the host in code units, is
encoded in one way on both sides. What it does not accept twice is an id.
-/

namespace AutocadMcp.Phase8

open JsonText CanonicalJson Host Program

/-! ## What the compiler writes -/

def pointFits (p : ConcretePoint) : Prop :=
  Normalized p.xMm ∧ Normalized p.yMm ∧ Normalized p.zMm

def pointIsZero (p : ConcretePoint) : Prop := p.xMm = 0 ∧ p.yMm = 0 ∧ p.zMm = 0

/-- The field validators of a concrete operation. -/
def bodyFits : ConcreteBody → Prop
  | .ensureLayer name colorIndex => isLayerName name = true ∧ ∀ c ∈ colorIndex, 1 ≤ c ∧ c ≤ 255
  | .createLine layer start stop => isLayerName layer = true ∧ pointFits start ∧ pointFits stop
  | .createCircle layer center radiusMm =>
      isLayerName layer = true ∧ pointFits center ∧ Normalized radiusMm ∧ 0 < radiusMm
  | .createPolyline layer vertices _ =>
      isLayerName layer = true ∧ 2 ≤ vertices.length ∧ vertices.length ≤ 4096 ∧
        ∀ p ∈ vertices, pointFits p
  | .createRectangle layer firstCorner oppositeCorner =>
      isLayerName layer = true ∧ pointFits firstCorner ∧ pointFits oppositeCorner
  | .createText layer position text heightMm rotationRad =>
      isLayerName layer = true ∧ pointFits position ∧ 1 ≤ text.length ∧
        text.utf8ByteSize ≤ 65536 ∧ Normalized heightMm ∧ 0 < heightMm ∧ Normalized rotationRad
  | .createDimensionLinear layer p q r _ =>
      isLayerName layer = true ∧ pointFits p ∧ pointFits q ∧ pointFits r
  | .copyEntity targetRefId displacementMm outputId =>
      isIdentifier targetRefId = true ∧ pointFits displacementMm ∧ ¬ pointIsZero displacementMm ∧
        isIdentifier outputId = true
  | .offsetEntity targetRefId signedDistanceMm outputId =>
      isIdentifier targetRefId = true ∧ Normalized signedDistanceMm ∧ signedDistanceMm ≠ 0 ∧
        isIdentifier outputId = true
  | .moveEntity targetRefId displacementMm =>
      isIdentifier targetRefId = true ∧ pointFits displacementMm ∧ ¬ pointIsZero displacementMm

structure OperationFits (o : ConcreteOperation) : Prop where
  operationId : isIdentifier o.operationId = true
  sourceOperationId : isIdentifier o.sourceOperationId = true
  body : bodyFits o.body

/-- The texts of an operation that are not identifiers or numbers. -/
def freeTexts : ConcreteBody → List String
  | .ensureLayer name _ => [name]
  | .createLine layer .. | .createCircle layer .. | .createPolyline layer ..
  | .createRectangle layer .. => [layer]
  | .createText layer _ text .. => [layer, text]
  | .createDimensionLinear layer _ _ _ textOverride => layer :: textOverride.toList
  | .copyEntity .. | .offsetEntity .. | .moveEntity .. => []

/-! ## Points -/

section

variable {d : Doc} {name : String} {p : ConcretePoint}

theorem toDoc_pointJson (p : ConcretePoint) : toDoc (pointJson p) =
    fields [("x_mm", text (canonicalText p.xMm)), ("y_mm", text (canonicalText p.yMm)),
      ("z_mm", text (canonicalText p.zMm))] := by
  simp [pointJson, numberText]

theorem pointJson_x : (toDoc (pointJson p)).get? "x_mm" = some (text (canonicalText p.xMm)) := by
  simp [toDoc_pointJson]

theorem pointJson_y : (toDoc (pointJson p)).get? "y_mm" = some (text (canonicalText p.yMm)) := by
  simp [toDoc_pointJson]

theorem pointJson_z : (toDoc (pointJson p)).get? "z_mm" = some (text (canonicalText p.zMm)) := by
  simp [toDoc_pointJson]

/-- The names of an object are those that are asked for. -/
theorem ensureExact_names {required optional present : List String}
    (hnames : d.names? = some present) (hnodup : present.Nodup)
    (hrequired : ∀ name ∈ required, name ∈ present)
    (hallowed : ∀ name ∈ present, name ∈ required ∨ name ∈ optional) :
    ensureExact d required optional = .ok () := by
  rw [ensureExact, hnames]
  exact check_true ⟨hnodup, hrequired, hallowed⟩

theorem ensureExact_fields {ms : List (String × Doc)} {required optional : List String}
    (hnames : (ms.map Prod.fst).Nodup) (hrequired : ∀ name ∈ required, name ∈ ms.map Prod.fst)
    (hallowed : ∀ name ∈ ms.map Prod.fst, name ∈ required ∨ name ∈ optional) :
    ensureExact (fields ms) required optional = .ok () :=
  ensureExact_names (names?_fields ms) hnames hrequired hallowed

theorem validateConcretePoint_point (h : pointFits p) :
    validateConcretePoint (toDoc (pointJson p)) = .ok () := by
  obtain ⟨hx, hy, hz⟩ := h
  have hexact : ensureExact (toDoc (pointJson p)) ["x_mm", "y_mm", "z_mm"] [] = .ok () := by
    rw [toDoc_pointJson]
    exact ensureExact_fields (by simp) (by simp) (by simp)
  refine pass hexact (bind_eq_ok.mpr ⟨_, requireCanonicalDecimal_number pointJson_x hx nofun, ?_⟩)
  refine bind_eq_ok.mpr ⟨_, requireCanonicalDecimal_number pointJson_y hy nofun, ?_⟩
  exact bind_eq_ok.mpr ⟨_, requireCanonicalDecimal_number pointJson_z hz nofun, rfl⟩

theorem validateConcreteVector_point (h : pointFits p) (hzero : ¬ pointIsZero p) :
    validateConcreteVector (toDoc (pointJson p)) = .ok () := by
  have hpoint := validateConcretePoint_point h
  obtain ⟨hx, hy, hz⟩ := h
  refine pass hpoint (bind_eq_ok.mpr ⟨_, requireCanonicalDecimal_number pointJson_x hx nofun, ?_⟩)
  refine bind_eq_ok.mpr ⟨_, requireCanonicalDecimal_number pointJson_y hy nofun, ?_⟩
  refine bind_eq_ok.mpr ⟨_, requireCanonicalDecimal_number pointJson_z hz nofun, ?_⟩
  exact check_true hzero

theorem pointAt_point (hget : d.get? name = some (toDoc (pointJson p))) (h : pointFits p) :
    pointAt d name = .ok () := by
  rw [pointAt, getProperty_eq hget]
  exact validateConcretePoint_point h

theorem vectorAt_point (hget : d.get? name = some (toDoc (pointJson p))) (h : pointFits p)
    (hzero : ¬ pointIsZero p) : vectorAt d name = .ok () := by
  rw [vectorAt, getProperty_eq hget]
  exact validateConcreteVector_point h hzero

theorem forM_ok {α : Type} {f : α → Verdict Unit} {xs : List α} (h : ∀ x ∈ xs, f x = .ok ()) :
    xs.forM f = .ok () := by
  induction xs with
  | nil => rfl
  | cons x xs ih =>
      exact pass (h x List.mem_cons_self) (ih fun y hy => h y (List.mem_cons_of_mem _ hy))

end

/-! ## One operation -/

section

variable {blocked : Char → Bool} {o : ConcreteOperation}

/-- The fields of an operation, as the host has them. -/
def operationFields (o : ConcreteOperation) : List (String × Doc) :=
  ("kind", text o.body.kind.name) :: ("operation_version", integer 1) ::
    ("operation_id", text o.operationId) :: ("source_operation_id", text o.sourceOperationId) ::
    (bodyJson o.body).map fun m => (m.1, toDoc m.2)

theorem toDoc_operationJson (o : ConcreteOperation) :
    toDoc (operationJson o) = fields (operationFields o) := by
  simp [operationJson, operationFields]

/-- A layer that is encoded in one way on both sides is as long for the host. -/
theorem requireLayer {d : Doc} {name layer : String} (hget : d.get? name = some (text layer))
    (h : isLayerName layer = true) (halike : Alike blocked layer.toList) :
    requireBoundedString d name 255 = .ok layer := by
  simp only [isLayerName, Bool.and_eq_true, decide_eq_true_eq] at h
  refine requireBoundedString_text hget (toList_ne_nil_of_length h.1.1) ?_
  rw [utf16Length_basic fun c hc => basic_of_alike (halike c hc)]
  exact h.1.2

/-- The `switch` of the host, kind by kind. -/
theorem validateKind_body {operationId sourceOperationId : String} {body : ConcreteBody}
    (h : bodyFits body) (halike : ∀ s ∈ freeTexts body, Alike blocked s.toList) :
    validateKind (toDoc (operationJson ⟨operationId, sourceOperationId, body⟩)) body.kind.name =
      .ok () := by
  rw [toDoc_operationJson]
  cases body with
  | ensureLayer name colorIndex =>
      refine pass ?_ (bind_eq_ok.mpr ⟨_, requireLayer ?_ h.1 (halike _ List.mem_cons_self), rfl⟩)
      · cases colorIndex <;> exact ensureExact_fields (by simp [operationFields, bodyJson,
          optionalField]) (by simp [operationFields, bodyJson, optionalField, common])
          (by simp [operationFields, bodyJson, optionalField, common])
      · cases colorIndex <;> simp [operationFields, bodyJson, optionalField]
  | createLine layer start stop =>
      obtain ⟨hlayer, hstart, hstop⟩ := h
      refine pass ?_ (bind_eq_ok.mpr ⟨_, requireLayer ?_ hlayer (halike _ List.mem_cons_self), ?_⟩)
      · exact ensureExact_fields (by simp [operationFields, bodyJson])
          (by simp [operationFields, bodyJson, common]) (by simp [operationFields, bodyJson, common])
      · simp [operationFields, bodyJson]
      · exact pass (pointAt_point (by simp [operationFields, bodyJson]) hstart)
          (pointAt_point (by simp [operationFields, bodyJson]) hstop)
  | createCircle layer center radiusMm =>
      obtain ⟨hlayer, hcenter, hradius, hpositive⟩ := h
      refine pass ?_ (bind_eq_ok.mpr ⟨_, requireLayer ?_ hlayer (halike _ List.mem_cons_self), ?_⟩)
      · exact ensureExact_fields (by simp [operationFields, bodyJson])
          (by simp [operationFields, bodyJson, common]) (by simp [operationFields, bodyJson, common])
      · simp [operationFields, bodyJson]
      · refine pass (pointAt_point (by simp [operationFields, bodyJson]) hcenter) ?_
        exact bind_eq_ok.mpr ⟨_, requireCanonicalDecimal_number
          (by simp [operationFields, bodyJson, numberText]) hradius fun _ => hpositive, rfl⟩
  | createPolyline layer vertices closed =>
      obtain ⟨hlayer, hmin, hmax, hvertices⟩ := h
      refine pass ?_ (bind_eq_ok.mpr ⟨_, requireLayer ?_ hlayer (halike _ List.mem_cons_self), ?_⟩)
      · exact ensureExact_fields (by simp [operationFields, bodyJson])
          (by simp [operationFields, bodyJson, common]) (by simp [operationFields, bodyJson, common])
      · simp [operationFields, bodyJson]
      · refine bind_eq_ok.mpr ⟨_, requireArray_items (l := vertices.map fun p =>
          toDoc (pointJson p)) (by simp [operationFields, bodyJson, Function.comp_def])
          (by simpa using hmin) (by simpa using hmax), ?_⟩
        refine pass (forM_ok ?_) (bind_eq_ok.mpr ⟨.bool closed, getProperty_eq ?_, check_true rfl⟩)
        · intro d hd
          obtain ⟨p, hp, rfl⟩ := List.mem_map.mp hd
          exact validateConcretePoint_point (hvertices p hp)
        · simp [operationFields, bodyJson]
  | createRectangle layer firstCorner oppositeCorner =>
      obtain ⟨hlayer, hfirst, hopposite⟩ := h
      refine pass ?_ (bind_eq_ok.mpr ⟨_, requireLayer ?_ hlayer (halike _ List.mem_cons_self), ?_⟩)
      · exact ensureExact_fields (by simp [operationFields, bodyJson])
          (by simp [operationFields, bodyJson, common]) (by simp [operationFields, bodyJson, common])
      · simp [operationFields, bodyJson]
      · exact pass (pointAt_point (by simp [operationFields, bodyJson]) hfirst)
          (pointAt_point (by simp [operationFields, bodyJson]) hopposite)
  | createText layer position text heightMm rotationRad =>
      obtain ⟨hlayer, hposition, hne, hbytes, hheight, hpositive, hrotation⟩ := h
      refine pass ?_ (bind_eq_ok.mpr ⟨_, requireLayer ?_ hlayer (halike _ List.mem_cons_self), ?_⟩)
      · exact ensureExact_fields (by simp [operationFields, bodyJson])
          (by simp [operationFields, bodyJson, common]) (by simp [operationFields, bodyJson, common])
      · simp [operationFields, bodyJson]
      · refine pass (pointAt_point (by simp [operationFields, bodyJson]) hposition) ?_
        -- the bytes bound the code units whatever the characters
        refine bind_eq_ok.mpr ⟨_, requireBoundedString_text (s := text)
          (by simp [operationFields, bodyJson]) (toList_ne_nil_of_length hne)
          ((utf16Length_le_utf8 text).trans hbytes), ?_⟩
        refine bind_eq_ok.mpr ⟨_, requireCanonicalDecimal_number
          (by simp [operationFields, bodyJson, numberText]) hheight fun _ => hpositive, ?_⟩
        exact bind_eq_ok.mpr ⟨_, requireCanonicalDecimal_number
          (by simp [operationFields, bodyJson, numberText]) hrotation nofun, rfl⟩
  | createDimensionLinear layer p q r textOverride =>
      obtain ⟨hlayer, hp, hq, hr⟩ := h
      refine pass ?_ (bind_eq_ok.mpr ⟨_, requireLayer ?_ hlayer (halike _ List.mem_cons_self), ?_⟩)
      · cases textOverride <;> exact ensureExact_fields (by simp [operationFields, bodyJson,
          optionalField]) (by simp [operationFields, bodyJson, optionalField, common])
          (by simp [operationFields, bodyJson, optionalField, common])
      · cases textOverride <;> simp [operationFields, bodyJson, optionalField]
      · refine pass (pointAt_point ?_ hp) (pass (pointAt_point ?_ hq) (pointAt_point ?_ hr)) <;>
          cases textOverride <;> simp [operationFields, bodyJson, optionalField]
  | copyEntity targetRefId displacementMm outputId =>
      obtain ⟨htarget, hpoint, hzero, houtput⟩ := h
      refine pass ?_ (bind_eq_ok.mpr ⟨_, requireIdentifier_text ?_ htarget, ?_⟩)
      · exact ensureExact_fields (by simp [operationFields, bodyJson])
          (by simp [operationFields, bodyJson, common]) (by simp [operationFields, bodyJson, common])
      · simp [operationFields, bodyJson]
      · refine pass (vectorAt_point (by simp [operationFields, bodyJson]) hpoint hzero) ?_
        exact bind_eq_ok.mpr ⟨_, requireIdentifier_text (by simp [operationFields, bodyJson])
          houtput, rfl⟩
  | offsetEntity targetRefId signedDistanceMm outputId =>
      obtain ⟨htarget, hdistance, hzero, houtput⟩ := h
      refine pass ?_ (bind_eq_ok.mpr ⟨_, requireIdentifier_text ?_ htarget, ?_⟩)
      · exact ensureExact_fields (by simp [operationFields, bodyJson])
          (by simp [operationFields, bodyJson, common]) (by simp [operationFields, bodyJson, common])
      · simp [operationFields, bodyJson]
      · refine bind_eq_ok.mpr ⟨_, requireCanonicalDecimal_number
          (by simp [operationFields, bodyJson, numberText]) hdistance nofun, ?_⟩
        refine pass (check_true hzero) ?_
        exact bind_eq_ok.mpr ⟨_, requireIdentifier_text (by simp [operationFields, bodyJson])
          houtput, rfl⟩
  | moveEntity targetRefId displacementMm =>
      obtain ⟨htarget, hpoint, hzero⟩ := h
      refine pass ?_ (bind_eq_ok.mpr ⟨_, requireIdentifier_text ?_ htarget, ?_⟩)
      · exact ensureExact_fields (by simp [operationFields, bodyJson])
          (by simp [operationFields, bodyJson, common]) (by simp [operationFields, bodyJson, common])
      · simp [operationFields, bodyJson]
      · exact vectorAt_point (by simp [operationFields, bodyJson]) hpoint hzero

theorem operation_kind : (toDoc (operationJson o)).get? "kind" = some (text o.body.kind.name) := by
  obtain ⟨operationId, sourceOperationId, body⟩ := o
  rw [toDoc_operationJson]
  rcases body with ⟨name, _ | c⟩ | _ | _ | _ | _ | _ | ⟨layer, p, q, r, _ | t⟩ | _ | _ | _ <;>
    simp [operationFields, bodyJson, optionalField]

theorem operation_version :
    (toDoc (operationJson o)).get? "operation_version" = some (integer 1) := by
  obtain ⟨operationId, sourceOperationId, body⟩ := o
  rw [toDoc_operationJson]
  rcases body with ⟨name, _ | c⟩ | _ | _ | _ | _ | _ | ⟨layer, p, q, r, _ | t⟩ | _ | _ | _ <;>
    simp [operationFields, bodyJson, optionalField]

theorem operation_id :
    (toDoc (operationJson o)).get? "operation_id" = some (text o.operationId) := by
  obtain ⟨operationId, sourceOperationId, body⟩ := o
  rw [toDoc_operationJson]
  rcases body with ⟨name, _ | c⟩ | _ | _ | _ | _ | _ | ⟨layer, p, q, r, _ | t⟩ | _ | _ | _ <;>
    simp [operationFields, bodyJson, optionalField]

theorem operation_sourceId :
    (toDoc (operationJson o)).get? "source_operation_id" = some (text o.sourceOperationId) := by
  obtain ⟨operationId, sourceOperationId, body⟩ := o
  rw [toDoc_operationJson]
  rcases body with ⟨name, _ | c⟩ | _ | _ | _ | _ | _ | ⟨layer, p, q, r, _ | t⟩ | _ | _ | _ <;>
    simp [operationFields, bodyJson, optionalField]

theorem kind_allowed (kind : OperationKind) : isAllowedKind kind.name = true := by
  cases kind <;> simp [isAllowedKind, createOnlyKinds, targetKinds, OperationKind.name]

theorem kind_plain (kind : OperationKind) : kind.name.toList.all plain = true := by
  cases kind <;> decide

theorem kind_length (kind : OperationKind) : 1 ≤ kind.name.length ∧ kind.name.length ≤ 64 := by
  cases kind <;> decide

theorem requireKind {d : Doc} {name : String} {k : OperationKind}
    (hget : d.get? name = some (text k.name)) :
    requireBoundedString d name 64 = .ok k.name :=
  requireBoundedString_plain hget (toList_ne_nil_of_length (kind_length k).1) (kind_plain k)
    (kind_length k).2

theorem validateConcreteOperation_new {seen : List String} (h : OperationFits o)
    (halike : ∀ s ∈ freeTexts o.body, Alike blocked s.toList) (hnew : o.operationId ∉ seen) :
    validateConcreteOperation seen (toDoc (operationJson o)) = .ok (seen ++ [o.operationId]) := by
  refine bind_eq_ok.mpr ⟨_, requireKind operation_kind, pass (check_true (kind_allowed _)) ?_⟩
  refine pass (requireInteger_integer operation_version (by decide) (by decide)) ?_
  refine bind_eq_ok.mpr ⟨_, requireIdentifier_text operation_id h.operationId, ?_⟩
  refine bind_eq_ok.mpr ⟨_, requireIdentifier_text operation_sourceId h.sourceOperationId, ?_⟩
  exact pass (check_true hnew) (pass (validateKind_body h.body halike) rfl)

/-- The host takes an operation under a new id only. -/
theorem validateConcreteOperation_inv {seen seen' : List String} (h : OperationFits o)
    (hok : validateConcreteOperation seen (toDoc (operationJson o)) = .ok seen') :
    o.operationId ∉ seen ∧ seen' = seen ++ [o.operationId] := by
  obtain ⟨_, -, hok⟩ := bind_eq_ok.mp hok
  obtain ⟨_, -, hok⟩ := bind_eq_ok.mp hok
  obtain ⟨_, -, hok⟩ := bind_eq_ok.mp hok
  obtain ⟨id, hid, hok⟩ := bind_eq_ok.mp hok
  rw [requireIdentifier_text operation_id h.operationId] at hid
  cases hid
  obtain ⟨_, -, hok⟩ := bind_eq_ok.mp hok
  obtain ⟨_, hnew, hok⟩ := bind_eq_ok.mp hok
  obtain ⟨_, -, hok⟩ := bind_eq_ok.mp hok
  cases hok
  exact ⟨check_eq_ok.mp hnew, rfl⟩

end

/-! ## The operations of a plan -/

def operationDocs (operations : List ConcreteOperation) : List Doc :=
  operations.map fun o => toDoc (operationJson o)

section

variable {blocked : Char → Bool} {operations : List ConcreteOperation}

/-- The loop of the host accepts operations with ids of their own. -/
theorem operations_accepted {seen : List String} (h : ∀ o ∈ operations, OperationFits o)
    (halike : ∀ o ∈ operations, ∀ s ∈ freeTexts o.body, Alike blocked s.toList)
    (hnodup : (seen ++ operations.map ConcreteOperation.operationId).Nodup) :
    (operationDocs operations).foldlM validateConcreteOperation seen =
      .ok (seen ++ operations.map ConcreteOperation.operationId) := by
  unfold operationDocs
  induction operations generalizing seen with
  | nil => simp [pure, Except.pure]
  | cons o os ih =>
      rw [List.forall_mem_cons] at h halike
      rw [List.map_cons] at hnodup
      have hnew : o.operationId ∉ seen := fun hmem =>
        (List.nodup_append.mp hnodup).2.2 _ hmem _ List.mem_cons_self rfl
      rw [List.map_cons, List.foldlM_cons, validateConcreteOperation_new h.1 halike.1 hnew]
      have hrest := @ih (seen ++ [o.operationId]) h.2 halike.2 (by simpa using hnodup)
      rw [List.append_assoc, List.singleton_append] at hrest
      exact hrest

/-- What the loop of the host accepts has ids of its own. -/
theorem operations_inv {seen ids : List String} (h : ∀ o ∈ operations, OperationFits o)
    (hseen : seen.Nodup)
    (hok : (operationDocs operations).foldlM validateConcreteOperation seen = .ok ids) :
    (seen ++ operations.map ConcreteOperation.operationId).Nodup := by
  unfold operationDocs at hok
  induction operations generalizing seen with
  | nil => simpa using hseen
  | cons o os ih =>
      rw [List.forall_mem_cons] at h
      rw [List.map_cons, List.foldlM_cons] at hok
      obtain ⟨seen', hfirst, hok⟩ := bind_eq_ok.mp hok
      obtain ⟨hnew, rfl⟩ := validateConcreteOperation_inv h.1 hfirst
      have hext : (seen ++ [o.operationId]).Nodup := by
        rw [List.nodup_append]
        refine ⟨hseen, List.nodup_singleton _, fun a ha b hb => ?_⟩
        rw [List.mem_singleton.mp hb]
        exact fun heq => hnew (heq ▸ ha)
      have hrest := ih h.2 hext hok
      rwa [List.append_assoc, List.singleton_append] at hrest

end

end AutocadMcp.Phase8
