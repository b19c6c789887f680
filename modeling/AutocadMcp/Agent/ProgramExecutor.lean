import AutocadMcp.Agent.Core
import AutocadMcp.Contracts.CanonicalJson

/-!
# The Program executor of the Agent

`ProgramCommandExecutor.execute`: the checks before the Host is asked, the request,
and the checks on the Host's answer, with `verify_result` of the Phase 8 admission.
Whatever comes from outside a call (the broker, the adapter, the lock of the
document, the verdict of the admission on the plan) is in its `Surroundings`.
-/

namespace AutocadMcp.Agent

open JsonText CanonicalJson

/-- What a step of the executor raises: an `AgentExecutionError`, or any other exception. -/
inductive Raised where
  | agent (code : String)
  | other
  deriving DecidableEq, Repr

/-! ## What the Host returns -/

/-- `CadPortResult`. The numbers of a payload are the texts that `json.dumps` gives them,
`NaN` and the infinities included. -/
structure HostResult where
  ok : Bool
  payload : Option Doc := none
  errorCode : Option String := none

/-- `value.get(key)`. -/
def field (value : Doc) (key : String) : Option Doc :=
  match value with
  | .object members => (members.find? fun m => m.1 = key.toList).map Prod.snd
  | _ => none

/-- `value.get(key) == exact` for a text or `None`. -/
def fieldIs (value : Doc) (key : String) (exact : Option String) : Bool :=
  match field value key, exact with
  | none, none | some .null, none => true
  | some (.string s), some t => s = t.toList
  | _, _ => false

def isObject : Doc → Bool
  | .object _ => true
  | _ => false

/-- `len(json.dumps(value, ensure_ascii=False, separators=(",", ":")).encode("utf-8"))`. -/
def encodedLength (value : Doc) : Nat :=
  utf8Length (write (fun c => (dumpsForm c).encode c) value)

/-- `_DIGEST`. -/
def isSha256 (s : List Char) : Bool :=
  s.length = 71 && "sha256:".toList <+: s &&
    (s.drop 7).all fun c => c.isDigit || ('a' ≤ c && c ≤ 'f')

mutual

/-- A result as the ledger stores it; a number that is none is kept as its text. -/
def stored : Doc → Json
  | .null => .null
  | .bool b => .bool b
  | .number raw => if isNumber raw then .num (numberValue raw) else .str (String.ofList raw)
  | .string s => .str (String.ofList s)
  | .array items => .arr (storedItems items)
  | .object members => .obj (storedMembers members)

def storedItems : List Doc → List Json
  | [] => []
  | item :: items => stored item :: storedItems items

def storedMembers : List (List Char × Doc) → List (String × Json)
  | [] => []
  | (key, item) :: members => (String.ofList key, stored item) :: storedMembers members

end

/-! ## The checks on a Phase 8 result -/

/-- `_MAX_RESULT_BYTES`. -/
def maxResultBytes : Nat := 1048576

/-- The fields of `VerifiedPhase8Plan` that `verify_result` reads. -/
structure VerifiedPhase8Plan where
  executionPlanDigest : String
  effectManifestDigest : String
  targetRefsDigest : String
  hardBudgetsDigest : String
  rolloutPolicyDigest : String
  effectIdentityDigest : Option String
  modifiesEntities : Bool
  hardResultBytes : Nat := maxResultBytes

namespace VerifiedPhase8Plan

/-- The digests that a result repeats, with the error of each. -/
def expected (p : VerifiedPhase8Plan) : List (String × String × String) :=
  [("execution_plan_digest", p.executionPlanDigest, "plan_mismatch"),
   ("effect_manifest_digest", p.effectManifestDigest, "effect_mismatch"),
   ("target_refs_digest", p.targetRefsDigest, "target_mismatch"),
   ("hard_budgets_digest", p.hardBudgetsDigest, "budget_mismatch"),
   ("rollout_policy_digest", p.rolloutPolicyDigest, "rollout_policy_mismatch")]

def checkDigests (value : Doc) : List (String × String × String) → Except Raised Unit
  | [] => .ok ()
  | (key, exact, error) :: rest => do
      check (fieldIs value key (some exact)) (.agent error)
      checkDigests value rest

/-- The checkpoint of a commit that modifies entities. -/
def checkCheckpoint (value : Doc) : Except Raised Unit := do
  let checkpoint := (field value "checkpoint").getD .null
  check (isObject checkpoint) (.agent "checkpoint_mismatch")
  check (fieldIs checkpoint "schema_version" (some "cad.rollback.checkpoint/2"))
    (.agent "checkpoint_mismatch")
  match field checkpoint "digest" with
  | some (.string digest) => check (isSha256 digest) (.agent "checkpoint_mismatch")
  | _ => .error (.agent "checkpoint_mismatch")

def checkPreview (value : Doc) : Except Raised Unit :=
  match field value "transaction_aborted", field value "drawing_unchanged" with
  | some (.bool true), some (.bool true) => .ok ()
  | _, _ => .error (.agent "preview_mismatch")

def checkCommit (p : VerifiedPhase8Plan) (value : Doc) : Except Raised Unit := do
  check (fieldIs value "effect_identity_digest" p.effectIdentityDigest)
    (.agent "effect_identity_mismatch")
  if p.modifiesEntities then checkCheckpoint value
  check (fieldIs value "milestone" (some "effect_and_receipt_committed"))
    (.agent "outcome_unknown")

/-- `verify_result`, for a result that is a mapping. -/
def verifyResult (p : VerifiedPhase8Plan) (value : Doc) (kind : JobKind) : Except Raised Doc := do
  check (encodedLength value ≤ p.hardResultBytes) (.agent "budget_exceeded")
  checkDigests value p.expected
  match kind with
  | .programPreview => checkPreview value
  | .programCommit => checkCommit p value
  | _ => .error (.agent "capability_missing")
  return value

end VerifiedPhase8Plan

/-! ## The executor -/

/-- What one call of `execute` meets. -/
structure Surroundings where
  /-- `validate_command`, at the time of the call. -/
  validation : Except Raised Unit := .ok ()
  /-- `select_write_runtime`; a failure is the `code` of what was raised. -/
  runtime : Except (Option String) Unit := .ok ()
  /-- The verdict of the admission on the plan of the command, if it has one. -/
  plan : Option (Except Raised VerifiedPhase8Plan) := none
  health : Except Raised HostResult
  /-- `str` of a revision. -/
  revisionText : Doc → List Char
  /-- Whether another write holds the lock of the document. -/
  documentLocked : Bool := false
  /-- What `program_command` of the adapter returns, unless it raises. -/
  answer : Option HostResult
  /-- The strict Phase 6 result model of the command's kind, dumped again. -/
  resultModel : Doc → Option Doc := fun _ => none

/-- `code or "managed_host_unavailable"`. -/
def orUnavailable : Option String → String
  | none | some "" => "managed_host_unavailable"
  | some code => code

/-- `payload.get(first, payload.get(second))`. -/
def fieldOr (payload : Doc) (first second : String) : Doc :=
  ((field payload first).or (field payload second)).getD .null

/-- `_validate_document_binding`. -/
def validateDocumentBinding (s : Surroundings) (payload : Option Doc) (c : CommandMessage) :
    Except Raised Unit := do
  match payload with
  | some (.object members) =>
      let value := Doc.object members
      check (c.binding.get? "document_id" =
        some (stored (fieldOr value "active_document_id" "document_id")))
        (.agent "active_document_changed")
      let revision :=
        s.revisionText (fieldOr value "active_document_revision" "document_revision")
      check (c.binding.get? "document_revision" = some (.str (String.ofList revision)))
        (.agent "stale_snapshot")
  | _ => .error (.agent "binding_mismatch")

/-- `_verify_phase8`. -/
def verifyPhase8 (s : Surroundings) : Except Raised (Option VerifiedPhase8Plan) :=
  match s.plan with
  | none => .ok none
  | some verdict => verdict.map some

/-- `execute` up to the request: the plan that was admitted, if the command has one. -/
def prepare (s : Surroundings) (c : CommandMessage) :
    Except Raised (Option VerifiedPhase8Plan) := do
  s.validation
  s.runtime.mapError fun code => .agent (code.getD "managed_host_unavailable")
  let phase8 ← verifyPhase8 s
  let health ← s.health
  check (health.ok = true) (.agent (orUnavailable health.errorCode))
  validateDocumentBinding s health.payload c
  check (c.effectClass = .write → s.documentLocked = false) (.agent "agent_busy")
  return phase8

/-- `_execute_host` after the adapter has returned. -/
def readAnswer (s : Surroundings) (c : CommandMessage) (phase8 : Option VerifiedPhase8Plan)
    (result : HostResult) : Except Raised Doc :=
  match result.ok, result.payload with
  | true, some (.object members) =>
      match phase8 with
      | some plan => plan.verifyResult (.object members) c.kind
      | none =>
          -- a `ValidationError` of the model is no `AgentExecutionError`
          match s.resultModel (.object members) with
          | some value => .ok value
          | none => .error .other
  | _, _ => .error (.agent (orUnavailable result.errorCode))

/-- `_execute_host`. -/
def executeHost (s : Surroundings) (c : CommandMessage) (phase8 : Option VerifiedPhase8Plan) :
    Except Raised Doc :=
  match s.answer with
  | some result => readAnswer s c phase8 result
  | none => .error .other

/-- `execute`. -/
def execute (s : Surroundings) (c : CommandMessage) : Except Raised Doc := do
  let phase8 ← prepare s c
  executeHost s c phase8

/-- What the core sees of a call. -/
def executionOf : Except Raised Doc → Execution
  | .ok value => .result (stored (sortKeys codePointLe value))
  | .error (.agent code) => .agentError code
  | .error .other => .otherError

end AutocadMcp.Agent
