import AutocadMcp.Lib.FieldTable
import AutocadMcp.Phase8.PlanJson

/-!
# Execution bindings

`build_execution_binding_v1` repeats fields of a plan, `ExecutionBindingV1` checks them and
`verify_execution_binding_v1` compares them with the plan: three lists of names, written by
hand. They are the same names, so that a binding that is accepted for a plan is the one that
is built for it.
-/

namespace AutocadMcp.Phase8

open JsonText CanonicalJson Program

/-- The first of the ten digits of each script, which `\d` of the validator matches; the
mathematical digits are five runs. -/
def digitZeros : List Nat :=
  [0x30, 0x660, 0x6F0, 0x7C0, 0x966, 0x9E6, 0xA66, 0xAE6, 0xB66, 0xBE6, 0xC66, 0xCE6, 0xD66, 0xDE6,
    0xE50, 0xED0, 0xF20, 0x1040, 0x1090, 0x17E0, 0x1810, 0x1946, 0x19D0, 0x1A80, 0x1A90, 0x1B50,
    0x1BB0, 0x1C40, 0x1C50, 0xA620, 0xA8D0, 0xA900, 0xA9D0, 0xA9F0, 0xAA50, 0xABF0, 0xFF10, 0x104A0,
    0x10D30, 0x11066, 0x110F0, 0x11136, 0x111D0, 0x112F0, 0x11450, 0x114D0, 0x11650, 0x116C0,
    0x11730, 0x118E0, 0x11950, 0x11C50, 0x11D50, 0x11DA0, 0x11F50, 0x16A60, 0x16AC0, 0x16B50,
    0x1D7CE, 0x1D7D8, 0x1D7E2, 0x1D7EC, 0x1D7F6, 0x1E140, 0x1E2F0, 0x1E4F0, 0x1E950, 0x1FBF0]

/-- `\d`. -/
def isDecimalNumber (c : Char) : Bool :=
  digitZeros.any fun first => first ≤ c.toNat && c.toNat < first + 10

/-- The characters are digits where the pattern has `d`, and those of the pattern elsewhere. -/
def matchesShape : List Char → List Char → Bool
  | [], [] => true
  | 'd' :: shape, c :: cs => isDecimalNumber c && matchesShape shape cs
  | s :: shape, c :: cs => s = c && matchesShape shape cs
  | _, _ => false

/-- `(?:Z|[+-]\d{2}:\d{2})$`. -/
def isOffset (cs : List Char) : Bool :=
  cs = ['Z'] || matchesShape "+dd:dd".toList cs || matchesShape "-dd:dd".toList cs

/-- The fields of `preview_expires_at`. -/
def isTimestampText (text : String) : Bool :=
  20 ≤ text.length && text.length ≤ 64 &&
    matchesShape "dddd-dd-ddTdd:dd:dd".toList (text.toList.take 19) &&
    match text.toList.drop 19 with
    | '.' :: c :: rest => isDecimalNumber c && isOffset (rest.dropWhile isDecimalNumber)
    | rest => isOffset rest

/-! ## The fields -/

def isNull : Value → Bool
  | .none => true
  | _ => false

/-- The truth of a field in Python. -/
def truthy : Value → Bool
  | .none => false
  | .str s => !s.isEmpty
  | _ => true

def fitsText (fits : String → Bool) : Value → Bool
  | .str s => fits (String.ofList s)
  | _ => false

def textField (name : String) (fits : String → Bool) : RecordField Value where
  name := name
  required := true
  fits := fitsText fits

/-- A field that is null by default. -/
def optionalTextField (name : String) (fits : String → Bool) : RecordField Value where
  name := name
  required := false
  fits value := isNull value || fitsText fits value

/-- `Field(ge=1)`. -/
def positiveField (name : String) : RecordField Value where
  name := name
  required := true
  fits
    | .int n => 1 ≤ n
    | _ => false

def literalField (name : String) (options : List String) : RecordField Value :=
  textField name fun text => text ∈ options

/-- `ExecutionPins`. -/
def executionPinFields : List (RecordField Value) :=
  [textField "runtime_id" isIdentifier, literalField "runtime_role" ["primary"],
    textField "host_family" isIdentifier, textField "host_version" isIdentifier,
    textField "package_id" isIdentifier, textField "package_version" isIdentifier,
    textField "package_hash" isDigest, textField "capability_manifest_hash" isDigest,
    textField "operation_registry_version" isRevision,
    textField "operation_registry_hash" isDigest, textField "policy_version" isRevision,
    textField "rollout_policy_digest" isDigest]

/-- `ExecutionBindingV1`. -/
def executionBindingFields : List (RecordField Value) :=
  executionPinFields ++
    [literalField "schema_version" ["cad.execution-binding/1"],
      literalField "action" ["compile_only", "preview", "commit"],
      literalField "source_schema_version" ["cad.program/1.0"],
      literalField "source_registry_version" ["cad.program/1.0-create-core",
        "cad.program/1.0-phase8-core"],
      textField "source_program_id" isIdentifier, positiveField "source_program_revision",
      textField "source_digest" isDigest, literalField "compiler_id" [compilerId],
      literalField "compiler_version" [compilerVersion], textField "compiler_digest" isDigest,
      textField "compiler_package_hash" isDigest,
      literalField "plan_schema_version" ["cad.execution-plan/1"],
      textField "execution_plan_digest" isDigest, textField "expansion_digest" isDigest,
      textField "effect_manifest_digest" isDigest, textField "target_refs_digest" isDigest,
      textField "validation_profiles_digest" isDigest,
      textField "checkpoint_strategy_digest" isDigest, textField "hard_budgets_digest" isDigest,
      textField "device_id" isIdentifier, textField "document_id" isIdentifier,
      textField "source_snapshot_id" isIdentifier, textField "document_revision" isRevision,
      optionalTextField "preview_id" isIdentifier,
      optionalTextField "preview_expires_at" isTimestampText,
      optionalTextField "receipt_id" isIdentifier,
      textField "execution_binding_digest" isDigest]

inductive BindingAction where
  | compileOnly
  | preview
  | commit
  deriving DecidableEq, Repr

def BindingAction.name : BindingAction → String
  | .compileOnly => "compile_only"
  | .preview => "preview"
  | .commit => "commit"

section

variable (hash : List Char → String)

/-- `canonical_execution_binding`. -/
def canonicalExecutionBinding (members : List (String × Value)) : List (String × Value) :=
  (excludeNull isNull members).filter fun m => m.1 ≠ "execution_binding_digest"

def canonicalExecutionBindingDigest (members : List (String × Value)) : Option String :=
  domainDigest hash "cad.execution-binding/1" (.fields (canonicalExecutionBinding members))

/-- `ExecutionBindingV1._action_fields_and_digest_match`, up to the digest. -/
def actionFieldsMatch (record : List (String × Value)) : Except Invalid Unit :=
  let previewId := valueOf .none record "preview_id"
  let previewExpiresAt := valueOf .none record "preview_expires_at"
  let receiptId := valueOf .none record "receipt_id"
  let isAction (action : BindingAction) :=
    fitsText (fun text => text = action.name) (valueOf .none record "action")
  if isAction .compileOnly then
    check ((truthy previewId || truthy previewExpiresAt || truthy receiptId) = false)
      "compile-only binding cannot carry preview/receipt fields"
  else if isAction .preview then
    check ((isNull previewId || isNull previewExpiresAt || truthy receiptId) = false)
      "preview binding requires preview identity and expiry only"
  else
    check ((isNull previewId || isNull previewExpiresAt || isNull receiptId) = false)
      "commit binding requires preview and receipt identity"

/-- `ExecutionBindingV1._action_fields_and_digest_match`. -/
def actionFieldsAndDigestMatch (record : List (String × Value)) : Except Invalid Unit := do
  actionFieldsMatch record
  let digest ← encoded (canonicalExecutionBindingDigest hash record)
  check (fitsText (fun text => text = digest) (valueOf .none record "execution_binding_digest"))
    "execution binding digest does not match binding"

/-- `parse_execution_binding_v1` of a dictionary. -/
def parseExecutionBindingV1 (payload : List (String × Value)) :
    Except Invalid (List (String × Value)) := do
  let record ← modelValidate .none executionBindingFields payload
  actionFieldsAndDigestMatch hash record
  return record

/-- What `build_execution_binding_v1` puts before the pins. -/
def payloadHead (plan : CadExecutionPlanV1) (action : BindingAction) : List (String × Value) :=
  [("schema_version", .text "cad.execution-binding/1"), ("action", .text action.name),
    ("source_schema_version", .text "cad.program/1.0"),
    ("source_registry_version", .text (registryName plan.sourceRegistryVersion)),
    ("source_program_id", .text plan.sourceProgramId),
    ("source_program_revision", .int plan.sourceProgramRevision),
    ("source_digest", .text plan.sourceDigest), ("compiler_id", .text compilerId),
    ("compiler_version", .text compilerVersion), ("compiler_digest", .text plan.compilerDigest),
    ("compiler_package_hash", .text plan.compilerPackageHash),
    ("plan_schema_version", .text "cad.execution-plan/1"),
    ("execution_plan_digest", .text plan.executionPlanDigest),
    ("expansion_digest", .text plan.expansionDigest),
    ("effect_manifest_digest", .text plan.effectManifestDigest),
    ("target_refs_digest", .text plan.targetRefsDigest),
    ("validation_profiles_digest", .text plan.validationProfilesDigest),
    ("checkpoint_strategy_digest", .text plan.checkpointStrategyDigest),
    ("hard_budgets_digest", .text plan.hardBudgetsDigest)]

/-- What it puts behind them. -/
def payloadContext (plan : CadExecutionPlanV1) : List (String × Value) :=
  [("device_id", .text plan.deviceId), ("document_id", .text plan.documentId),
    ("source_snapshot_id", .text plan.sourceSnapshotId),
    ("document_revision", .text plan.expectedDocumentRevision)]

/-- What it adds where it is given. -/
def payloadAction (previewId previewExpiresAt receiptId : Option String) : List (String × Value) :=
  optionalField "preview_id" Value.text previewId ++
    (optionalField "preview_expires_at" Value.text previewExpiresAt ++
      optionalField "receipt_id" Value.text receiptId)

/-- The payload of `build_execution_binding_v1` without its digest. -/
def bindingPayload (plan : CadExecutionPlanV1) (action : BindingAction)
    (previewId previewExpiresAt receiptId : Option String) : List (String × Value) :=
  payloadHead plan action ++ (pinItems plan.executionPins ++
    (payloadContext plan ++ payloadAction previewId previewExpiresAt receiptId))

/-- `build_execution_binding_v1` on a plan. -/
def buildExecutionBindingV1 (plan : CadExecutionPlanV1) (action : BindingAction)
    (previewId previewExpiresAt receiptId : Option String) :
    Except Invalid (List (String × Value)) := do
  let payload := bindingPayload plan action previewId previewExpiresAt receiptId
  let digest ← encoded (canonicalExecutionBindingDigest hash payload)
  parseExecutionBindingV1 hash (payload ++ [("execution_binding_digest", .text digest)])

/-- The values that are neither lists nor dictionaries are compared by what they are. -/
def sameValue : Value → Value → Bool
  | .none, .none => true
  | .int n, .int m => n = m
  | .str s, .str t => s = t
  | _, _ => false

/-- The fields that `verify_execution_binding_v1` compares with the plan itself. -/
def expectedItems (plan : CadExecutionPlanV1) : List (String × Value) :=
  [("source_schema_version", .text "cad.program/1.0"),
    ("source_registry_version", .text (registryName plan.sourceRegistryVersion)),
    ("source_program_id", .text plan.sourceProgramId),
    ("source_program_revision", .int plan.sourceProgramRevision),
    ("source_digest", .text plan.sourceDigest), ("compiler_id", .text compilerId),
    ("compiler_version", .text compilerVersion), ("compiler_digest", .text plan.compilerDigest),
    ("compiler_package_hash", .text plan.compilerPackageHash),
    ("plan_schema_version", .text "cad.execution-plan/1"),
    ("execution_plan_digest", .text plan.executionPlanDigest),
    ("expansion_digest", .text plan.expansionDigest),
    ("effect_manifest_digest", .text plan.effectManifestDigest),
    ("target_refs_digest", .text plan.targetRefsDigest),
    ("validation_profiles_digest", .text plan.validationProfilesDigest),
    ("checkpoint_strategy_digest", .text plan.checkpointStrategyDigest),
    ("hard_budgets_digest", .text plan.hardBudgetsDigest), ("device_id", .text plan.deviceId),
    ("document_id", .text plan.documentId), ("source_snapshot_id", .text plan.sourceSnapshotId),
    ("document_revision", .text plan.expectedDocumentRevision)]

/-- What `verify_execution_binding_v1` expects of the fields that repeat the plan. -/
def expectedFields (plan : CadExecutionPlanV1) : List (String × Value) :=
  expectedItems plan ++ pinItems plan.executionPins

/-- A value of `ExecutionBindingV1`: it has been validated when it was made. -/
structure ExecutionBindingV1 where
  record : List (String × Value)
  fits : modelValidate .none executionBindingFields record = .ok record
  consistent : actionFieldsAndDigestMatch hash record = .ok ()

/-- What `verify_execution_binding_v1` takes for a binding. -/
inductive BindingArgument where
  | model (binding : ExecutionBindingV1 hash)
  | payload (members : List (String × Value))

def optionalText : Option String → Value
  | some text => .text text
  | none => .none

/-- `parsed_binding`. -/
def BindingArgument.parsed : BindingArgument hash → Except Invalid (List (String × Value))
  | .model binding => .ok binding.record
  | .payload members => parseExecutionBindingV1 hash members

/-- `verify_execution_binding_v1` on a plan. -/
def verifyExecutionBindingV1 (binding : BindingArgument hash) (plan : CadExecutionPlanV1)
    (action : BindingAction) (previewId previewExpiresAt receiptId : Option String) :
    Except Invalid (List (String × Value)) := do
  let record ← binding.parsed
  check (∀ m ∈ expectedFields plan, sameValue (valueOf .none record m.1) m.2 = true)
    "execution binding does not match sealed plan"
  check (sameValue (valueOf .none record "action") (.text action.name) = true ∧
      sameValue (valueOf .none record "preview_id") (optionalText previewId) = true ∧
      sameValue (valueOf .none record "preview_expires_at") (optionalText previewExpiresAt) = true ∧
      sameValue (valueOf .none record "receipt_id") (optionalText receiptId) = true)
    "execution binding does not match requested action"
  return record

end

/-! ## Digests of dictionaries -/

/-- The integers that `json.dumps` writes. -/
def Writable (n : Int) : Prop := (Nat.toDigits 10 n.natAbs).length ≤ intMaxStrDigits

/-- A member that `canonical_json` encodes two levels down. -/
structure Encodes (m : String × Value) : Prop where
  name : m.1.toList ≠ [] ∧ utf8Length m.1.toList ≤ maxJsonKeyBytes
  value : validateBoundedJson 2 m.2 = .ok ()
  ints : m.2.EveryInt Writable

theorem validateMembers_eq_ok {depth : Nat} {ms : List (List Char × Value)} :
    validateMembers depth ms = .ok () ↔
      ∀ m ∈ ms, (m.1 ≠ [] ∧ utf8Length m.1 ≤ maxJsonKeyBytes) ∧
        validateBoundedJson (depth + 1) m.2 = .ok () := by
  induction ms with
  | nil => simp [validateMembers]
  | cons m ms ih =>
      obtain ⟨key, item⟩ := m
      rw [validateMembers, List.forall_mem_cons, ← ih]
      constructor
      · intro h
        obtain ⟨_, hkey, h⟩ := bind_eq_ok.mp h
        obtain ⟨_, hitem, h⟩ := bind_eq_ok.mp h
        exact ⟨⟨check_eq_ok.mp hkey, hitem⟩, h⟩
      · rintro ⟨⟨hkey, hitem⟩, h⟩
        exact pass (check_true hkey) (pass hitem h)

theorem canonicalJson_ok_iff {v : Value} {text : List Char} : canonicalJson v = .ok text ↔
    (validateBoundedJson 0 v = .ok () ∧ v.EveryInt Writable) ∧ text = sentText (toDoc v) := by
  constructor
  · intro h
    have htext := canonicalJson_eq_ok h
    obtain ⟨_, hbounded, h⟩ := bind_eq_ok.mp h
    obtain ⟨_, hdigits, -⟩ := bind_eq_ok.mp h
    have hints := check_eq_ok.mp hdigits
    exact ⟨⟨hbounded, hints⟩, htext⟩
  · rintro ⟨⟨hbounded, hints⟩, rfl⟩
    have hdigits : ∀ n ∈ v.ints, (Nat.toDigits 10 n.natAbs).length ≤ intMaxStrDigits := hints
    exact pass hbounded (bind_eq_ok.mpr ⟨(), check_eq_ok.mpr hdigits, rfl⟩)

theorem bounded_domainPayload {domain : String} {ms : List (String × Value)} :
    validateBoundedJson 0 (domainPayload domain (.fields ms)) = .ok () ↔
      utf8Length domain.toList ≤ maxJsonStringBytes ∧ ms.length ≤ maxJsonContainerItems ∧
        ∀ m ∈ ms, (m.1.toList ≠ [] ∧ utf8Length m.1.toList ≤ maxJsonKeyBytes) ∧
          validateBoundedJson 2 m.2 = .ok () := by
  have hdict : ∀ {depth : Nat} (ms : List (String × Value)), depth ≤ maxJsonDepth →
      (validateBoundedJson depth (.fields ms) = .ok () ↔ ms.length ≤ maxJsonContainerItems ∧
        ∀ m ∈ ms, (m.1.toList ≠ [] ∧ utf8Length m.1.toList ≤ maxJsonKeyBytes) ∧
          validateBoundedJson (depth + 1) m.2 = .ok ()) := by
    intro depth ms hdepth
    rw [Value.fields, validateBoundedJson, check_true hdepth]
    constructor
    · intro h
      obtain ⟨_, -, h⟩ := bind_eq_ok.mp h
      obtain ⟨_, hlength, h⟩ := bind_eq_ok.mp h
      rw [validateMembers_eq_ok, List.forall_mem_map] at h
      exact ⟨by simpa using check_eq_ok.mp hlength, h⟩
    · rintro ⟨hlength, h⟩
      refine pass rfl (pass (check_true (by simpa using hlength)) ?_)
      rw [validateMembers_eq_ok, List.forall_mem_map]
      exact h
  have htext : validateBoundedJson 1 (.text domain) = .ok () ↔
      utf8Length domain.toList ≤ maxJsonStringBytes := by
    rw [Value.text, validateBoundedJson, check_true (by decide)]
    constructor
    · intro h
      obtain ⟨_, -, h⟩ := bind_eq_ok.mp h
      exact check_eq_ok.mp h
    · exact fun h => pass rfl (check_true h)
  rw [domainPayload, hdict _ (by decide), List.forall_mem_cons, List.forall_mem_cons, htext,
    hdict _ (by decide)]
  have hnames : ∀ name ∈ ["domain", "payload"],
      name.toList ≠ [] ∧ utf8Length name.toList ≤ maxJsonKeyBytes := by decide
  constructor
  · rintro ⟨-, ⟨-, hdomain⟩, ⟨-, hpayload⟩, -⟩
    exact ⟨hdomain, hpayload⟩
  · rintro ⟨hdomain, hpayload⟩
    exact ⟨by simp [maxJsonContainerItems], ⟨hnames _ (by simp), hdomain⟩, ⟨hnames _ (by simp), hpayload⟩,
      List.forall_mem_nil _⟩

section

variable {hash : List Char → String} {domain digest : String} {ms ms' : List (String × Value)}

/-- When a dictionary has a digest, and which. -/
theorem domainDigest_fields_iff : domainDigest hash domain (.fields ms) = some digest ↔
    (utf8Length domain.toList ≤ maxJsonStringBytes ∧ ms.length ≤ maxJsonContainerItems ∧
      ∀ m ∈ ms, Encodes m) ∧
      digest = hash (sentText (domainDoc domain (toDoc (.fields ms)))) := by
  have hints : (domainPayload domain (.fields ms)).EveryInt Writable ↔
      ∀ m ∈ ms, m.2.EveryInt Writable := by
    rw [domainPayload, everyInt_fields, List.forall_mem_cons, List.forall_mem_cons, everyInt_fields]
    simp
  have hparts : (validateBoundedJson 0 (domainPayload domain (.fields ms)) = .ok () ∧
      (domainPayload domain (.fields ms)).EveryInt Writable) ↔
      utf8Length domain.toList ≤ maxJsonStringBytes ∧ ms.length ≤ maxJsonContainerItems ∧
        ∀ m ∈ ms, Encodes m := by
    rw [bounded_domainPayload, hints, and_assoc, and_assoc, ← forall₂_and]
    refine and_congr_right fun _ => and_congr_right fun _ => forall₂_congr fun m _ => ?_
    exact ⟨fun h => ⟨h.1.1, h.1.2, h.2⟩, fun h => ⟨⟨h.name, h.value⟩, h.ints⟩⟩
  rw [← hparts, ← toDoc_domainPayload, domainDigest]
  constructor
  · intro h
    obtain ⟨text, htext, rfl⟩ := Option.map_eq_some_iff.mp h
    cases hjson : canonicalJson (domainPayload domain (.fields ms)) with
    | error e => simp [hjson, Except.toOption] at htext
    | ok text' =>
        rw [hjson] at htext
        obtain rfl := Option.some.inj htext
        obtain ⟨hok, rfl⟩ := canonicalJson_ok_iff.mp hjson
        exact ⟨hok, rfl⟩
  · rintro ⟨hok, rfl⟩
    rw [canonicalJson_ok_iff.mpr ⟨hok, rfl⟩]
    rfl

/-- The order of the items of a dictionary does not change its digest. -/
theorem domainDigest_perm (h : ms.Perm ms') (hnodup : (ms.map Prod.fst).Nodup) :
    domainDigest hash domain (.fields ms) = domainDigest hash domain (.fields ms') := by
  have htext : sentText (domainDoc domain (toDoc (.fields ms))) =
      sentText (domainDoc domain (toDoc (.fields ms'))) := by
    have hdocs := h.map fun m : String × Value => (m.1, toDoc m.2)
    have hsame : sortKeys codePointLe (toDoc (.fields ms)) =
        sortKeys codePointLe (toDoc (.fields ms')) := by
      rw [toDoc_fields, toDoc_fields]
      exact sortKeys_fields_perm codePointLe_order hdocs (by rwa [List.map_map])
    simp only [sentText, domainDoc, JsonText.fields, List.map_cons, List.map_nil, sortKeys,
      sortMembers, hsame]
  refine Option.ext fun digest => ?_
  rw [domainDigest_fields_iff, domainDigest_fields_iff, htext, h.length_eq]
  simp only [h.mem_iff]

end

/-! ## The record of a plan -/

/-- The fields of `CadExecutionPlanV1` that a binding repeats pass their validators. -/
structure RepeatedFieldsFit (plan : CadExecutionPlanV1) : Prop where
  sourceProgramId : isIdentifier plan.sourceProgramId = true
  sourceProgramRevision : 1 ≤ plan.sourceProgramRevision
  sourceDigest : isDigest plan.sourceDigest = true
  compilerDigest : isDigest plan.compilerDigest = true
  compilerPackageHash : isDigest plan.compilerPackageHash = true
  executionPlanDigest : isDigest plan.executionPlanDigest = true
  expansionDigest : isDigest plan.expansionDigest = true
  effectManifestDigest : isDigest plan.effectManifestDigest = true
  targetRefsDigest : isDigest plan.targetRefsDigest = true
  validationProfilesDigest : isDigest plan.validationProfilesDigest = true
  checkpointStrategyDigest : isDigest plan.checkpointStrategyDigest = true
  hardBudgetsDigest : isDigest plan.hardBudgetsDigest = true
  deviceId : isIdentifier plan.deviceId = true
  documentId : isIdentifier plan.documentId = true
  sourceSnapshotId : isIdentifier plan.sourceSnapshotId = true
  expectedDocumentRevision : isRevision plan.expectedDocumentRevision = true
  executionPins : plan.executionPins.fits = true

/-- What `CadExecutionPlanV1` makes sure of for a binding: the fields that it repeats pass their
validators, and the plan is sealed with its digest. -/
structure ValidPlan (hash : List Char → String) (plan : CadExecutionPlanV1) : Prop where
  fields : RepeatedFieldsFit plan
  isSealed : (planCodec hash).canonicalExecutionPlanDigest plan = some plan.executionPlanDigest

/-- The preview and the receipt that go with an action. -/
structure ActionFits (action : BindingAction) (previewId previewExpiresAt receiptId : Option String) :
    Prop where
  previewFits : previewId.all isIdentifier = true
  expiryFits : previewExpiresAt.all isTimestampText = true
  receiptFits : receiptId.all isIdentifier = true
  previewed : previewId.isSome = true ↔ action ≠ .compileOnly
  expires : previewExpiresAt.isSome = true ↔ action ≠ .compileOnly
  received : receiptId.isSome = true ↔ action = .commit

/-- The last fields of the record of a binding. -/
def recordAction (previewId previewExpiresAt receiptId : Option String) (digest : String) :
    List (String × Value) :=
  [("preview_id", optionalText previewId), ("preview_expires_at", optionalText previewExpiresAt),
    ("receipt_id", optionalText receiptId), ("execution_binding_digest", .text digest)]

/-- The record of the binding of a plan. -/
def bindingRecord (plan : CadExecutionPlanV1) (action : BindingAction)
    (previewId previewExpiresAt receiptId : Option String) (digest : String) :
    List (String × Value) :=
  pinItems plan.executionPins ++ (payloadHead plan action ++ (payloadContext plan ++
    recordAction previewId previewExpiresAt receiptId digest))

theorem binding_names_nodup : (executionBindingFields.map RecordField.name).Nodup := by
  decide +kernel

theorem required_not_null : ∀ f ∈ executionBindingFields, f.required = true →
    f.fits .none = false := by
  decide +kernel

theorem optional_null : ∀ f ∈ executionBindingFields, f.required = false → f.fits .none = true := by
  decide +kernel

theorem isNull_iff (v : Value) : isNull v = true ↔ v = .none := by
  cases v <;> simp [isNull]

theorem eq_of_sameValue {v w : Value} (h : sameValue v w = true) : v = w := by
  unfold sameValue at h
  split at h <;> simp_all

/-- A field that fits one text only has that text. -/
theorem eq_of_fitsText {fits : String → Bool} {v : Value} {text : String}
    (h : fitsText fits v = true) (honly : ∀ s, fits s = true → s = text) : v = .text text := by
  cases v <;> try cases h
  case str s =>
    rw [← honly _ h, Value.text, String.toList_ofList]

section

variable {hash : List Char → String} {plan : CadExecutionPlanV1} {action : BindingAction}
  {previewId previewExpiresAt receiptId : Option String} {digest : String}

theorem bindingRecord_names :
    (bindingRecord plan action previewId previewExpiresAt receiptId digest).map Prod.fst =
      executionBindingFields.map RecordField.name := rfl

theorem bindingRecord_nodup :
    ((bindingRecord plan action previewId previewExpiresAt receiptId digest).map Prod.fst).Nodup := by
  rw [bindingRecord_names]
  exact binding_names_nodup

/-- The builder writes the fields of the record that are not null. -/
theorem bindingPayload_perm :
    (bindingPayload plan action previewId previewExpiresAt receiptId ++
      [("execution_binding_digest", Value.text digest)]).Perm
      (excludeNull isNull (bindingRecord plan action previewId previewExpiresAt receiptId digest)) := by
  have haction : excludeNull isNull (recordAction previewId previewExpiresAt receiptId digest) =
      payloadAction previewId previewExpiresAt receiptId ++
        [("execution_binding_digest", Value.text digest)] := by
    cases previewId <;> cases previewExpiresAt <;> cases receiptId <;> rfl
  have hrecord : excludeNull isNull
      (bindingRecord plan action previewId previewExpiresAt receiptId digest) =
      pinItems plan.executionPins ++ (payloadHead plan action ++ (payloadContext plan ++
        (payloadAction previewId previewExpiresAt receiptId ++
          [("execution_binding_digest", Value.text digest)]))) := by
    rw [← haction]
    rfl
  rw [hrecord, bindingPayload, List.append_assoc, List.append_assoc, List.append_assoc,
    ← List.append_assoc, ← List.append_assoc (pinItems plan.executionPins)]
  exact List.perm_append_comm.append_right _

theorem excludeNull_record_nodup : ((excludeNull isNull
    (bindingRecord plan action previewId previewExpiresAt receiptId digest)).map Prod.fst).Nodup :=
  List.Nodup.sublist (List.filter_sublist.map Prod.fst) bindingRecord_nodup

theorem excludeNull_payload :
    excludeNull isNull (bindingPayload plan action previewId previewExpiresAt receiptId) =
      bindingPayload plan action previewId previewExpiresAt receiptId := by
  have hperm := @bindingPayload_perm plan action previewId previewExpiresAt receiptId ""
  refine List.filter_eq_self.mpr fun m hm => ?_
  exact (List.mem_filter.mp (hperm.mem_iff.mp (List.mem_append_left _ hm))).2

/-- The payload has no nulls and not yet a digest. -/
theorem canonical_payload :
    canonicalExecutionBinding (bindingPayload plan action previewId previewExpiresAt receiptId) =
      bindingPayload plan action previewId previewExpiresAt receiptId := by
  have hperm := @bindingPayload_perm plan action previewId previewExpiresAt receiptId ""
  have hnodup := (hperm.map Prod.fst).nodup_iff.mpr excludeNull_record_nodup
  rw [List.map_append, List.nodup_append] at hnodup
  rw [canonicalExecutionBinding, excludeNull_payload]
  refine List.filter_eq_self.mpr fun m hm => decide_eq_true ?_
  exact hnodup.2.2 m.1 (List.mem_map_of_mem hm) _ (by simp)

theorem canonical_record_perm :
    (canonicalExecutionBinding
      (bindingRecord plan action previewId previewExpiresAt receiptId digest)).Perm
      (bindingPayload plan action previewId previewExpiresAt receiptId) := by
  have hperm := (@bindingPayload_perm plan action previewId previewExpiresAt receiptId
    digest).symm.filter fun m => m.1 ≠ "execution_binding_digest"
  have hpayload := @canonical_payload plan action previewId previewExpiresAt receiptId
  rw [canonicalExecutionBinding, excludeNull_payload] at hpayload
  rw [List.filter_append, hpayload] at hperm
  exact hperm.trans (by simp)

/-- The digest of the record is that of the payload. -/
theorem canonicalDigest_record :
    canonicalExecutionBindingDigest hash
      (bindingRecord plan action previewId previewExpiresAt receiptId digest) =
    canonicalExecutionBindingDigest hash
      (bindingPayload plan action previewId previewExpiresAt receiptId) := by
  rw [canonicalExecutionBindingDigest, canonicalExecutionBindingDigest, canonical_payload]
  refine domainDigest_perm canonical_record_perm ?_
  exact List.Nodup.sublist (List.filter_sublist.map Prod.fst) excludeNull_record_nodup

/-! ## What is accepted is what is built -/

theorem parse_eq_ok {payload record : List (String × Value)} :
    parseExecutionBindingV1 hash payload = .ok record ↔
      modelValidate .none executionBindingFields payload = .ok record ∧
        actionFieldsAndDigestMatch hash record = .ok () := by
  constructor
  · intro h
    obtain ⟨_, hfields, h⟩ := bind_eq_ok.mp h
    obtain ⟨_, hmatch, h⟩ := bind_eq_ok.mp h
    cases h
    exact ⟨hfields, hmatch⟩
  · rintro ⟨hfields, hmatch⟩
    exact bind_eq_ok.mpr ⟨record, hfields, bind_eq_ok.mpr ⟨(), hmatch, rfl⟩⟩

/-- What is accepted has been validated, whether as a value of the class or as a payload. -/
theorem verify_valid {binding : BindingArgument hash} {record : List (String × Value)}
    (h : verifyExecutionBindingV1 hash binding plan action previewId previewExpiresAt receiptId =
      .ok record) :
    modelValidate .none executionBindingFields record = .ok record ∧
      actionFieldsAndDigestMatch hash record = .ok () := by
  obtain ⟨parsed, hparsed, h⟩ := bind_eq_ok.mp h
  obtain ⟨_, -, h⟩ := bind_eq_ok.mp h
  obtain ⟨_, -, h⟩ := bind_eq_ok.mp h
  cases h
  cases binding with
  | model binding =>
      cases hparsed
      exact ⟨binding.fits, binding.consistent⟩
  | payload members =>
      obtain ⟨hfields, hmatch⟩ := parse_eq_ok.mp hparsed
      exact ⟨modelValidate_of_fits binding_names_nodup (names_of_record hfields)
        (fits_of_modelValidate binding_names_nodup optional_null hfields), hmatch⟩

/-- The fields that are compared and the literal ones are all fields of a binding. -/
theorem record_eq {record : List (String × Value)}
    (hvalid : modelValidate .none executionBindingFields record = .ok record)
    (hexpected : ∀ m ∈ expectedFields plan, valueOf .none record m.1 = m.2)
    (haction : valueOf .none record "action" = .text action.name)
    (hpreview : valueOf .none record "preview_id" = optionalText previewId)
    (hexpires : valueOf .none record "preview_expires_at" = optionalText previewExpiresAt)
    (hreceipt : valueOf .none record "receipt_id" = optionalText receiptId)
    (hdigest : valueOf .none record "execution_binding_digest" = .text digest) :
    record = bindingRecord plan action previewId previewExpiresAt receiptId digest := by
  have hrecord := (modelValidate_eq_ok.mp hvalid).2.2
  have hschema : valueOf .none record "schema_version" = .text "cad.execution-binding/1" := by
    have hmem : literalField "schema_version" ["cad.execution-binding/1"] ∈
        executionBindingFields := List.mem_append_right _ List.mem_cons_self
    have hfits : fitsText (fun text => text ∈ ["cad.execution-binding/1"])
        (valueOf .none record "schema_version") = true :=
      fits_of_modelValidate binding_names_nodup optional_null hvalid _ hmem
    exact eq_of_fitsText hfits fun text htext => List.mem_singleton.mp (of_decide_eq_true htext)
  simp only [expectedFields, expectedItems, pinItems, List.cons_append, List.nil_append,
    List.forall_mem_cons] at hexpected
  rw [hrecord]
  simp only [executionBindingFields, executionPinFields, textField, literalField, positiveField,
    optionalTextField, List.cons_append, List.nil_append, List.map_cons, List.map_nil, hexpected,
    haction, hpreview, hexpires, hreceipt, hdigest, hschema]
  rfl

theorem verify_eq_ok {binding : BindingArgument hash} {record : List (String × Value)} :
    verifyExecutionBindingV1 hash binding plan action previewId previewExpiresAt receiptId =
      .ok record ↔ binding.parsed = .ok record ∧
        (∀ m ∈ expectedFields plan, sameValue (valueOf .none record m.1) m.2 = true) ∧
        sameValue (valueOf .none record "action") (.text action.name) = true ∧
        sameValue (valueOf .none record "preview_id") (optionalText previewId) = true ∧
        sameValue (valueOf .none record "preview_expires_at") (optionalText previewExpiresAt) =
          true ∧
        sameValue (valueOf .none record "receipt_id") (optionalText receiptId) = true := by
  constructor
  · intro h
    obtain ⟨parsed, hparsed, h⟩ := bind_eq_ok.mp h
    obtain ⟨_, hexpected, h⟩ := bind_eq_ok.mp h
    obtain ⟨_, haction, h⟩ := bind_eq_ok.mp h
    cases h
    exact ⟨hparsed, check_eq_ok.mp hexpected, check_eq_ok.mp haction⟩
  · rintro ⟨hparsed, hexpected, haction⟩
    exact bind_eq_ok.mpr ⟨record, hparsed, pass (check_true hexpected) (pass (check_true haction) rfl)⟩

theorem digest_of_consistent {record : List (String × Value)}
    (h : actionFieldsAndDigestMatch hash record = .ok ()) :
    ∃ digest, canonicalExecutionBindingDigest hash record = some digest ∧
      valueOf .none record "execution_binding_digest" = .text digest := by
  obtain ⟨_, -, h⟩ := bind_eq_ok.mp h
  obtain ⟨digest, hdigest, h⟩ := bind_eq_ok.mp h
  refine ⟨digest, ?_, eq_of_fitsText (check_eq_ok.mp h) fun s hs => of_decide_eq_true hs⟩
  cases hcanonical : canonicalExecutionBindingDigest hash record with
  | none =>
      rw [hcanonical] at hdigest
      cases hdigest
  | some other =>
      rw [hcanonical] at hdigest
      cases hdigest
      rfl

theorem build_eq_ok (hdigest : canonicalExecutionBindingDigest hash
      (bindingPayload plan action previewId previewExpiresAt receiptId) = some digest)
    (hvalid : modelValidate .none executionBindingFields
      (bindingRecord plan action previewId previewExpiresAt receiptId digest) =
        .ok (bindingRecord plan action previewId previewExpiresAt receiptId digest))
    (hmatch : actionFieldsAndDigestMatch hash
      (bindingRecord plan action previewId previewExpiresAt receiptId digest) = .ok ()) :
    buildExecutionBindingV1 hash plan action previewId previewExpiresAt receiptId =
      .ok (bindingRecord plan action previewId previewExpiresAt receiptId digest) := by
  refine bind_eq_ok.mpr ⟨digest, by rw [hdigest]; rfl, parse_eq_ok.mpr ⟨?_, hmatch⟩⟩
  exact modelValidate_of_perm binding_names_nodup isNull_iff required_not_null hvalid
    bindingPayload_perm

/-- A binding that is accepted is the one that is built. -/
theorem build_of_verify {binding : BindingArgument hash} {record : List (String × Value)}
    (h : verifyExecutionBindingV1 hash binding plan action previewId previewExpiresAt receiptId =
      .ok record) :
    buildExecutionBindingV1 hash plan action previewId previewExpiresAt receiptId = .ok record := by
  obtain ⟨hvalid, hmatch⟩ := verify_valid h
  obtain ⟨-, hexpected, haction, hpreview, hexpires, hreceipt⟩ := verify_eq_ok.mp h
  obtain ⟨digest, hcanonical, hdigest⟩ := digest_of_consistent hmatch
  obtain rfl := record_eq hvalid (fun m hm => eq_of_sameValue (hexpected m hm))
    (eq_of_sameValue haction) (eq_of_sameValue hpreview) (eq_of_sameValue hexpires)
    (eq_of_sameValue hreceipt) hdigest
  exact build_eq_ok (canonicalDigest_record.symm.trans hcanonical) hvalid hmatch

/-! ## What is built is accepted -/

/-- The values of a field are short. -/
def ShortField (f : RecordField Value) : Prop :=
  ∀ v, f.fits v = true → v = .none ∨ (∃ n, v = .int n) ∨ ∃ s, v = .str s ∧ s.length ≤ 256

theorem shortField_text {name : String} {fits : String → Bool}
    (h : ∀ s, fits s = true → s.length ≤ 256) : ShortField (textField name fits) := by
  intro v hv
  cases v <;> try cases hv
  case str s =>
    refine Or.inr (Or.inr ⟨s, rfl, ?_⟩)
    have hlength := h _ hv
    rwa [← String.length_toList, String.toList_ofList] at hlength

theorem shortField_optional {name : String} {fits : String → Bool}
    (h : ∀ s, fits s = true → s.length ≤ 256) : ShortField (optionalTextField name fits) := by
  intro v hv
  rcases Bool.or_eq_true_iff.mp hv with hnull | htext
  · exact Or.inl ((isNull_iff v).mp hnull)
  · exact @shortField_text name fits h v htext

theorem shortField_positive {name : String} : ShortField (positiveField name) := by
  intro v hv
  cases v <;> try cases hv
  case int n => exact Or.inr (Or.inl ⟨n, rfl⟩)

theorem identifier_short (s : String) (h : isIdentifier s = true) : s.length ≤ 256 := by
  unfold isIdentifier at h
  rw [← String.length_toList]
  split at h
  · cases h
  · rename_i c cs hs
    simp only [Bool.and_eq_true, decide_eq_true_eq] at h
    rw [hs, List.length_cons]
    omega

theorem digest_short (s : String) (h : isDigest s = true) : s.length ≤ 256 := by
  simp only [isDigest, Bool.and_eq_true, decide_eq_true_eq] at h
  omega

theorem revision_short (s : String) (h : isRevision s = true) : s.length ≤ 256 := by
  simp only [isRevision, Bool.and_eq_true, decide_eq_true_eq] at h
  exact h.1.2

theorem timestamp_short (s : String) (h : isTimestampText s = true) : s.length ≤ 256 := by
  simp only [isTimestampText, Bool.and_eq_true, decide_eq_true_eq] at h
  omega

theorem shortField_literal {name : String} {options : List String}
    (h : ∀ s ∈ options, s.length ≤ 256) : ShortField (literalField name options) :=
  shortField_text fun s hs => h s (of_decide_eq_true hs)

theorem binding_fields_short : ∀ f ∈ executionBindingFields, ShortField f := by
  simp only [executionBindingFields, executionPinFields, List.cons_append, List.nil_append,
    List.forall_mem_cons]
  repeat' apply And.intro
  all_goals first
    | exact shortField_text identifier_short
    | exact shortField_text digest_short
    | exact shortField_text revision_short
    | exact shortField_positive
    | exact shortField_literal (by decide)
    | exact shortField_optional identifier_short
    | exact shortField_optional timestamp_short
    | exact List.forall_mem_nil _

theorem fits_text {name text : String} {fits : String → Bool} (h : fits text = true) :
    (textField name fits).fits (.text text) = true := by
  show fits (String.ofList text.toList) = true
  rw [String.ofList_toList]
  exact h

theorem fits_optional {name : String} {text : Option String} {fits : String → Bool}
    (h : text.all fits = true) : (optionalTextField name fits).fits (optionalText text) = true := by
  cases text with
  | none => rfl
  | some text =>
      have htext : fitsText fits (.text text) = true := @fits_text name text fits h
      show (isNull (.text text) || fitsText fits (.text text)) = true
      rw [htext, Bool.or_true]

theorem fits_literal {name text : String} {options : List String} (h : text ∈ options) :
    (literalField name options).fits (.text text) = true :=
  fits_text (decide_eq_true h)

/-- The fields of the plan fit those of the binding. -/
theorem record_fits (hplan : RepeatedFieldsFit plan)
    (haction : ActionFits action previewId previewExpiresAt receiptId)
    (hdigest : isDigest digest = true) :
    modelValidate .none executionBindingFields
      (bindingRecord plan action previewId previewExpiresAt receiptId digest) =
        .ok (bindingRecord plan action previewId previewExpiresAt receiptId digest) := by
  refine modelValidate_of_fits binding_names_nodup bindingRecord_names
    (fits_of_zip binding_names_nodup bindingRecord_names ?_)
  have hpins := hplan.executionPins
  simp only [ExecutionPins.fits, Bool.and_eq_true] at hpins
  have haction' : action.name ∈ ["compile_only", "preview", "commit"] := by
    cases action <;> decide
  have hregistry : registryName plan.sourceRegistryVersion ∈
      ["cad.program/1.0-create-core", "cad.program/1.0-phase8-core"] := by
    cases plan.sourceRegistryVersion <;> decide
  simp only [executionBindingFields, executionPinFields, bindingRecord, pinItems, payloadHead,
    payloadContext, recordAction, List.cons_append, List.nil_append, List.zip_cons_cons,
    List.zip_nil_right, List.forall_mem_cons]
  obtain ⟨⟨⟨⟨⟨⟨⟨⟨⟨⟨hruntime, hfamily⟩, hversion⟩, hpackage⟩, hpackageVersion⟩, hhash⟩, hmanifest⟩,
    hregistryVersion⟩, hregistryHash⟩, hpolicy⟩, hrollout⟩ := hpins
  -- the fields in the order of the class
  exact ⟨fits_text hruntime, fits_literal (by decide), fits_text hfamily, fits_text hversion,
    fits_text hpackage, fits_text hpackageVersion, fits_text hhash, fits_text hmanifest,
    fits_text hregistryVersion, fits_text hregistryHash, fits_text hpolicy, fits_text hrollout,
    fits_literal (by decide), fits_literal haction', fits_literal (by decide),
    fits_literal hregistry, fits_text hplan.sourceProgramId,
    decide_eq_true hplan.sourceProgramRevision, fits_text hplan.sourceDigest,
    fits_literal (by decide), fits_literal (by decide), fits_text hplan.compilerDigest,
    fits_text hplan.compilerPackageHash, fits_literal (by decide),
    fits_text hplan.executionPlanDigest, fits_text hplan.expansionDigest,
    fits_text hplan.effectManifestDigest, fits_text hplan.targetRefsDigest,
    fits_text hplan.validationProfilesDigest, fits_text hplan.checkpointStrategyDigest,
    fits_text hplan.hardBudgetsDigest, fits_text hplan.deviceId, fits_text hplan.documentId,
    fits_text hplan.sourceSnapshotId, fits_text hplan.expectedDocumentRevision,
    fits_optional haction.previewFits, fits_optional haction.expiryFits,
    fits_optional haction.receiptFits, fits_text hdigest, List.forall_mem_nil _⟩

/-- The fields of an action are those that its binding asks for. -/
theorem record_action (haction : ActionFits action previewId previewExpiresAt receiptId) :
    actionFieldsMatch (bindingRecord plan action previewId previewExpiresAt receiptId digest) =
      .ok () := by
  have hvalue : ∀ name v, (name, v) ∈ payloadHead plan action ∨
      (name, v) ∈ recordAction previewId previewExpiresAt receiptId digest →
      valueOf .none (bindingRecord plan action previewId previewExpiresAt receiptId digest) name =
        v := by
    intro name v hmem
    refine valueOf_of_mem bindingRecord_nodup ?_
    simp only [bindingRecord, List.mem_append]
    tauto
  have hname := hvalue "action" (.text action.name) (Or.inl (by simp [payloadHead]))
  have hpreview := hvalue "preview_id" (optionalText previewId) (Or.inr (by simp [recordAction]))
  have hexpires := hvalue "preview_expires_at" (optionalText previewExpiresAt)
    (Or.inr (by simp [recordAction]))
  have hreceipt := hvalue "receipt_id" (optionalText receiptId) (Or.inr (by simp [recordAction]))
  unfold actionFieldsMatch
  rw [hname, hpreview, hexpires, hreceipt]
  obtain ⟨-, -, -, hpreviewed, hexpiring, hreceived⟩ := haction
  cases action with
  | compileOnly =>
      cases previewId <;> cases previewExpiresAt <;> cases receiptId <;> simp_all
      rfl
  | preview =>
      cases previewId <;> cases previewExpiresAt <;> cases receiptId <;> simp_all
      rfl
  | commit =>
      cases previewId <;> cases previewExpiresAt <;> cases receiptId <;> simp_all
      rfl

/-- The revision of a sealed plan has been encoded once. -/
theorem revision_writable (h : ValidPlan hash plan) : Writable plan.sourceProgramRevision := by
  have hencodes := (domainDigest_fields_iff.mp h.isSealed).1.2.2
    ("source_program_revision", .int plan.sourceProgramRevision) (by simp [planItems])
  exact everyInt_int.mp hencodes.ints

theorem utf8Length_le (s : List Char) : utf8Length s ≤ 4 * s.length := by
  induction s with
  | nil => simp [utf8Length]
  | cons c s ih =>
      have hsize := Char.utf8Size_le_four c
      simp only [utf8Length, List.map_cons, List.sum_cons, List.length_cons] at ih ⊢
      omega

/-- The revision is the only integer of the payload. -/
theorem payload_writable (h : Writable plan.sourceProgramRevision) :
    ∀ m ∈ bindingPayload plan action previewId previewExpiresAt receiptId, m.2.EveryInt Writable := by
  have hoptional : ∀ (name : String) (text : Option String),
      ∀ m ∈ optionalField name Value.text text, m.2.EveryInt Writable := by
    intro name text m hm
    cases text with
    | none => cases hm
    | some text =>
        rw [List.mem_singleton.mp hm]
        exact everyInt_text
  simp only [bindingPayload, payloadHead, pinItems, payloadContext, payloadAction,
    List.forall_mem_append, List.forall_mem_cons, List.not_mem_nil, everyInt_text, everyInt_int,
    true_and, false_imp_iff, implies_true, and_true]
  exact ⟨h, hoptional _ _, hoptional _ _, hoptional _ _⟩

/-- The payload has a digest. -/
theorem payload_digest (hplan : ValidPlan hash plan)
    (haction : ActionFits action previewId previewExpiresAt receiptId)
    (hdigest : isDigest digest = true) :
    ∃ digest, canonicalExecutionBindingDigest hash
      (bindingPayload plan action previewId previewExpiresAt receiptId) = some digest := by
  rw [canonicalExecutionBindingDigest, canonical_payload]
  refine ⟨_, domainDigest_fields_iff.mpr ⟨⟨by decide, ?_, fun m hm => ?_⟩, rfl⟩⟩
  · have hlength := (@canonical_record_perm plan action previewId previewExpiresAt receiptId
      digest).length_eq
    rw [← hlength]
    refine (List.length_filter_le _ _).trans ((List.length_filter_le _ _).trans ?_)
    exact (by decide : 39 ≤ maxJsonContainerItems)
  -- an item of the payload is a field of the record
  have hrecord := @record_fits plan action previewId previewExpiresAt receiptId digest hplan.fields
    haction hdigest
  have hmem : m ∈ bindingRecord plan action previewId previewExpiresAt receiptId digest :=
    (List.mem_filter.mp ((bindingPayload_perm.mem_iff).mp (List.mem_append_left _ hm))).1
  have hname := List.mem_map_of_mem (f := Prod.fst) hmem
  rw [bindingRecord_names] at hname
  obtain ⟨f, hf, hfname⟩ := List.mem_map.mp hname
  have hfits := fits_of_modelValidate binding_names_nodup optional_null hrecord f hf
  rw [hfname, valueOf_of_mem bindingRecord_nodup hmem] at hfits
  have hnames : ∀ f ∈ executionBindingFields, f.name.toList ≠ [] ∧
      utf8Length f.name.toList ≤ maxJsonKeyBytes := by decide +kernel
  refine ⟨hfname ▸ hnames f hf, ?_, ?_⟩
  · rcases binding_fields_short f hf m.2 hfits with hnone | ⟨n, hint⟩ | ⟨s, hstr, hshort⟩
    · rw [hnone]
      rfl
    · rw [hint]
      rfl
    · rw [hstr]
      have hbytes := utf8Length_le s
      have hbound : utf8Length s ≤ maxJsonStringBytes := by
        unfold maxJsonStringBytes
        omega
      exact pass rfl (check_true hbound)
  · exact payload_writable (revision_writable hplan) m hm

/-- The record has what the verifier expects. -/
theorem expected_record : ∀ m ∈ expectedFields plan, sameValue (valueOf .none
    (bindingRecord plan action previewId previewExpiresAt receiptId digest) m.1) m.2 = true := by
  have hsame : ∀ m ∈ expectedFields plan, sameValue m.2 m.2 = true := by
    simp [expectedFields, expectedItems, pinItems, sameValue, Value.text]
  have hitems : ∀ m ∈ expectedItems plan, m ∈ payloadHead plan action ++ payloadContext plan := by
    simp [expectedItems, payloadHead, payloadContext]
  have hsub : ∀ m ∈ expectedFields plan,
      m ∈ bindingRecord plan action previewId previewExpiresAt receiptId digest := by
    intro m hm
    rcases List.mem_append.mp hm with hitem | hpin
    · have hin := hitems m hitem
      simp only [bindingRecord, List.mem_append] at hin ⊢
      tauto
    · exact List.mem_append_left _ hpin
  intro m hm
  rw [valueOf_of_mem bindingRecord_nodup (hsub m hm)]
  exact hsame m hm

theorem sameValue_optionalText (text : Option String) :
    sameValue (optionalText text) (optionalText text) = true := by
  cases text <;> simp [optionalText, sameValue, Value.text]

/-- A binding is built for a plan, and accepted in each of the forms that it takes. -/
theorem build_verifies (hhash : ∀ text, isDigest (hash text) = true) (hplan : ValidPlan hash plan)
    (haction : ActionFits action previewId previewExpiresAt receiptId) :
    ∃ binding : ExecutionBindingV1 hash,
      buildExecutionBindingV1 hash plan action previewId previewExpiresAt receiptId =
        .ok binding.record ∧
      ∀ argument : BindingArgument hash, argument.parsed = .ok binding.record →
        verifyExecutionBindingV1 hash argument plan action previewId previewExpiresAt receiptId =
          .ok binding.record := by
  obtain ⟨digest, hdigest⟩ := payload_digest hplan haction (hhash [])
  have hfits : isDigest digest = true := by
    rw [canonicalExecutionBindingDigest] at hdigest
    rw [domainDigest_eq_some hdigest]
    exact hhash _
  have hvalid := @record_fits plan action previewId previewExpiresAt receiptId digest hplan.fields
    haction hfits
  have hvalue : ∀ m ∈ recordAction previewId previewExpiresAt receiptId digest,
      valueOf .none (bindingRecord plan action previewId previewExpiresAt receiptId digest) m.1 =
        m.2 := fun m hm => by
    refine valueOf_of_mem bindingRecord_nodup ?_
    simp only [bindingRecord, List.mem_append]
    tauto
  simp only [recordAction, List.forall_mem_cons] at hvalue
  obtain ⟨hpreview, hexpires, hreceipt, hsealed, -⟩ := hvalue
  have hname : valueOf .none
      (bindingRecord plan action previewId previewExpiresAt receiptId digest) "action" =
      .text action.name := by
    refine valueOf_of_mem bindingRecord_nodup ?_
    simp [bindingRecord, payloadHead]
  have hmatch : actionFieldsAndDigestMatch hash
      (bindingRecord plan action previewId previewExpiresAt receiptId digest) = .ok () := by
    refine pass (record_action haction) (bind_eq_ok.mpr ⟨digest, ?_, check_true ?_⟩)
    · rw [canonicalDigest_record, hdigest]
      rfl
    · rw [hsealed]
      exact decide_eq_true (String.ofList_toList)
  refine ⟨⟨_, hvalid, hmatch⟩, build_eq_ok hdigest hvalid hmatch, fun argument hargument => ?_⟩
  refine verify_eq_ok.mpr ⟨hargument, expected_record, ?_, ?_, ?_, ?_⟩
  · rw [hname]
    exact decide_eq_true rfl
  · rw [hpreview]
    exact sameValue_optionalText previewId
  · rw [hexpires]
    exact sameValue_optionalText previewExpiresAt
  · rw [hreceipt]
    exact sameValue_optionalText receiptId

end

/-- A binding is the unique image of its plan: one is built that is accepted, and every one that is
accepted is the one that is built. -/
theorem binding_unique_image {hash : List Char → String}
    (hhash : ∀ text, isDigest (hash text) = true) {plan : CadExecutionPlanV1}
    (hplan : ValidPlan hash plan) (action : BindingAction)
    (previewId previewExpiresAt receiptId : Option String) :
    (ActionFits action previewId previewExpiresAt receiptId →
      ∃ binding : ExecutionBindingV1 hash,
        buildExecutionBindingV1 hash plan action previewId previewExpiresAt receiptId =
          .ok binding.record ∧
        verifyExecutionBindingV1 hash (.model binding) plan action previewId previewExpiresAt
          receiptId = .ok binding.record ∧
        verifyExecutionBindingV1 hash (.payload binding.record) plan action previewId
          previewExpiresAt receiptId = .ok binding.record) ∧
      ∀ (argument : BindingArgument hash) (record : List (String × Value)),
        verifyExecutionBindingV1 hash argument plan action previewId previewExpiresAt receiptId =
          .ok record →
        buildExecutionBindingV1 hash plan action previewId previewExpiresAt receiptId =
          .ok record := by
  refine ⟨fun haction => ?_, fun argument record => build_of_verify⟩
  obtain ⟨binding, hbuild, hverify⟩ := build_verifies hhash hplan haction
  exact ⟨binding, hbuild, hverify _ rfl,
    hverify _ (parse_eq_ok.mpr ⟨binding.fits, binding.consistent⟩)⟩

/-! ## A plan of one line -/

section Sample

def digestChars : List Char := "sha256:".toList ++ List.replicate 64 'a'

def aDigest : String := String.ofList digestChars

def oneLine : List ConcreteOperation :=
  [⟨"line", "line", .createLine "0" ⟨0, 0, 0⟩ ⟨1, 0, 0⟩⟩]

def oneLinePlan : CadExecutionPlanV1 where
  planId := "plan"
  sourceRegistryVersion := .createCore
  sourceProgramId := "program"
  sourceProgramRevision := 1
  sourceDigest := aDigest
  compilerDigest := aDigest
  compilerPackageHash := aDigest
  deviceId := "device"
  documentId := "document"
  sourceSnapshotId := "snapshot"
  expectedDocumentRevision := "1"
  operations := oneLine
  expansionDigest := aDigest
  effectManifest := effectManifest oneLine []
  effectManifestDigest := aDigest
  materializedTargetRefs := []
  targetRefsDigest := aDigest
  validationProfilesDigest := aDigest
  checkpointStrategyDigest := aDigest
  hardBudgetsDigest := aDigest
  executionPins :=
    { runtimeId := "runtime"
      hostFamily := "autocad"
      hostVersion := "25.0"
      packageId := "host"
      packageVersion := "1"
      packageHash := aDigest
      capabilityManifestHash := aDigest
      operationRegistryVersion := "1"
      operationRegistryHash := aDigest
      policyVersion := "1"
      rolloutPolicyDigest := aDigest }
  budgets := ⟨1, 16, 1, 16, 0, 16, 0, 16⟩
  requiredCapabilities := []
  validationProfiles := ["default"]
  artifactRefs := []
  componentRefs := []
  checkpointStrategy := .createdEntities
  executionPlanDigest := aDigest

theorem text_aDigest : Value.text aDigest = .str digestChars := by
  rw [Value.text, aDigest, String.toList_ofList]

theorem aDigest_isDigest : isDigest aDigest = true := by
  simp only [isDigest, aDigest, String.toList_ofList]
  rfl

theorem oneLinePlan_valid : ValidPlan (fun _ => aDigest) oneLinePlan where
  fields :=
    { sourceProgramId := by decide +kernel
      sourceProgramRevision := le_rfl
      sourceDigest := aDigest_isDigest
      compilerDigest := aDigest_isDigest
      compilerPackageHash := aDigest_isDigest
      executionPlanDigest := aDigest_isDigest
      expansionDigest := aDigest_isDigest
      effectManifestDigest := aDigest_isDigest
      targetRefsDigest := aDigest_isDigest
      validationProfilesDigest := aDigest_isDigest
      checkpointStrategyDigest := aDigest_isDigest
      hardBudgetsDigest := aDigest_isDigest
      deviceId := by decide +kernel
      documentId := by decide +kernel
      sourceSnapshotId := by decide +kernel
      expectedDocumentRevision := by decide +kernel
      executionPins := by
        simp only [ExecutionPins.fits, oneLinePlan, aDigest_isDigest]
        decide +kernel }
  isSealed := by
    simp only [planCodec, canonicalExecutionPlan, planItems, compilerJson, pinItems, oneLinePlan,
      text_aDigest]
    decide +kernel

theorem oneLine_preview_binding :
    ∃ binding : ExecutionBindingV1 (fun _ => aDigest),
      buildExecutionBindingV1 (fun _ => aDigest) oneLinePlan .preview (some "preview-1")
        (some "2026-01-01T00:00:00+00:00") none = .ok binding.record ∧
      ∀ (argument : BindingArgument fun _ => aDigest) (record : List (String × Value)),
        verifyExecutionBindingV1 (fun _ => aDigest) argument oneLinePlan .preview
          (some "preview-1") (some "2026-01-01T00:00:00+00:00") none = .ok record →
        record = binding.record := by
  obtain ⟨hbuilt, honly⟩ := binding_unique_image (fun _ => aDigest_isDigest) oneLinePlan_valid
    .preview (some "preview-1") (some "2026-01-01T00:00:00+00:00") none
  obtain ⟨binding, hbuild, -, -⟩ := hbuilt
    ⟨by decide +kernel, by decide +kernel, rfl, by decide, by decide, by decide⟩
  refine ⟨binding, hbuild, fun argument record hverify => ?_⟩
  exact Except.ok.inj ((honly argument record hverify).symm.trans hbuild)

end Sample

end AutocadMcp.Phase8
