import AutocadMcp.Program.Plan
import Mathlib

/-!
# The compiler

`compile_cad_program_v1`: the expressions of a source are evaluated, its repeats
expanded, and the plan sealed. The sine and the cosine of an angle, which the
code takes in binary floating point, are a parameter.
-/

namespace AutocadMcp.Program

/-- The variables of a source by name. -/
abbrev Environment := List (String × Evaluated)

/-- `Decimal(str(cos(angle)))` and `Decimal(str(sin(angle)))`. -/
structure Trigonometry where
  cos : Rat → Rat
  sin : Rat → Rat

/-! ## Expressions -/

def evalUnary (result : Rat) (type : NumericType) : Except Invalid Evaluated := do
  return ⟨type, ← normalize result⟩

/-- The binary operators of `_eval`. -/
def evalAddSub (combine : Rat → Rat → Rat) (left right : Evaluated) : Except Invalid Evaluated := do
  check (left.type = right.type) "add/sub operands must have one type"
  evalUnary (inDefault (combine left.value right.value)) left.type

def evalMul (left right : Evaluated) : Except Invalid Evaluated :=
  if left.type.isPlain then evalUnary (inDefault (left.value * right.value)) right.type
  else if right.type.isPlain then evalUnary (inDefault (left.value * right.value)) left.type
  else throw "multiplication requires a scalar/integer operand"

def evalDiv (left right : Evaluated) : Except Invalid Evaluated := do
  check (right.value ≠ 0) "division by zero"
  if right.type.isPlain then evalUnary (inDefault (left.value / right.value)) left.type
  else if left.type = right.type then evalUnary (inDefault (left.value / right.value)) .scalar
  else throw "division operands have incompatible types"

/-- `min` and `max` of the values of the arguments. -/
def evalExtreme (choose : Rat → Rat → Rat) : List Evaluated → Except Invalid Evaluated
  | [] => throw "min/max arguments must have one type"
  | v :: vs => do
      check (∀ w ∈ vs, w.type = v.type) "min/max arguments must have one type"
      return ⟨v.type, (vs.map Evaluated.value).foldl choose v.value⟩

def lookupVariable (variables_ : Environment) (name : String) : Except Invalid Evaluated :=
  match variables_.find? fun v => v.1 = name with
  | some v => return v.2
  | none => throw s!"unknown variable: {name}"

mutual

/-- `_eval`. -/
def eval (env : Environment) (index : Nat) : Expression → Except Invalid Evaluated
  | .literal value => normalizeValue value
  | .variable name => lookupVariable env name
  | .index => return ⟨.integer, index⟩
  | .neg operand => do
      let value ← eval env index operand
      evalUnary (inDefault (-value.value)) value.type
  | .abs operand => do
      let value ← eval env index operand
      evalUnary (inDefault |value.value|) value.type
  | .min arguments => do evalExtreme min (← evalAll env index arguments)
  | .max arguments => do evalExtreme max (← evalAll env index arguments)
  | .convert operand unit => do
      let value ← eval env index operand
      check (value.type = unit.measures) "conversion unit does not match expression type"
      return value
  | .add left right => do evalAddSub (· + ·) (← eval env index left) (← eval env index right)
  | .sub left right => do evalAddSub (· - ·) (← eval env index left) (← eval env index right)
  | .mul left right => do evalMul (← eval env index left) (← eval env index right)
  | .div left right => do evalDiv (← eval env index left) (← eval env index right)

def evalAll (env : Environment) (index : Nat) : List Expression → Except Invalid (List Evaluated)
  | [] => return []
  | e :: es => do
      let value ← eval env index e
      return value :: (← evalAll env index es)

end

/-- `_expect`. -/
def expect (e : Expression) (expected : NumericType) (env : Environment) (index : Nat) :
    Except Invalid Rat := do
  let value ← eval env index e
  if expected = .integer ∧ value.type.isPlain then
    check (value.value = Decimal.roundHalfEven value.value) "repeat count must be integral"
    return value.value
  else
    check (value.type = expected) s!"expression must evaluate to {expected.name}"
    return value.value

/-! ## Repeats -/

/-- `_Transform`. -/
structure Transform where
  dx : Rat
  dy : Rat
  dz : Rat
  center : Option (Rat × Rat × Rat)
  angle : Rat

def Transform.identity : Transform := ⟨0, 0, 0, none, 0⟩

/-- `f"{item:03d}"` for a number below a thousand. -/
def pad3 (n : Nat) : String :=
  String.ofList [Nat.digitChar (n / 100 % 10), Nat.digitChar (n / 10 % 10), Nat.digitChar (n % 10)]

def expectPoint (p : ExpressionPoint) (env : Environment) (index : Nat) :
    Except Invalid (Rat × Rat × Rat) := do
  let x ← expect p.x .length env index
  let y ← expect p.y .length env index
  let z ← expect p.z .length env index
  return (x, y, z)

def maxRepeatCount : Nat := 64

/-- `range(count)` for the integral value of a count. -/
def countOf (value : Rat) : Nat := ⌊value⌋.toNat

def scaled (offset : Rat × Rat × Rat) (n : Nat) : Transform :=
  ⟨inDefault (offset.1 * n), inDefault (offset.2.1 * n), inDefault (offset.2.2 * n), none, 0⟩

/-- The sum of two shifts. -/
def Transform.shifted (a b : Transform) : Transform :=
  ⟨inDefault (a.dx + b.dx), inDefault (a.dy + b.dy), inDefault (a.dz + b.dz), none, 0⟩

def linearSuffix (item : Nat) : String := ".l" ++ pad3 item

def rectangularSuffix (r c : Nat) : String := ".r" ++ pad3 r ++ "c" ++ pad3 c

def polarSuffix (item : Nat) : String := ".p" ++ pad3 item

/-- What one repetition adds to an operation. -/
structure Repetition where
  suffix : String
  index : Nat
  transform : Transform

/-- The angle of a repetition; the quotient is normalized. -/
def polarRepetition (center : Rat × Rat × Rat) (total : Rat) (count item : Nat) :
    Except Invalid Repetition := do
  let angle ← normalize (inDefault (inDefault (total * item) / count))
  return ⟨polarSuffix item, item, ⟨0, 0, 0, some center, angle⟩⟩

/-- `_repeat_transforms`. -/
def repeatTransforms (env : Environment) : Option RepeatSpec → Except Invalid (List Repetition)
  | none => return [⟨"", 0, .identity⟩]
  | some (.linear count offset) => do
      let value ← expect count .integer env 0
      check (1 ≤ value ∧ value ≤ maxRepeatCount) "linear repeat count exceeds bound"
      let offset ← expectPoint offset env 0
      return (List.range (countOf value)).map fun item =>
        ⟨linearSuffix item, item, scaled offset item⟩
  | some (.rectangular rows columns rowOffset columnOffset) => do
      let rows ← expect rows .integer env 0
      let columns ← expect columns .integer env 0
      check (1 ≤ rows ∧ 1 ≤ columns ∧ rows * columns ≤ maxRepeatCount)
        "rectangular repeat exceeds bound"
      let row ← expectPoint rowOffset env 0
      let column ← expectPoint columnOffset env 0
      return (List.range (countOf rows)).flatMap fun r =>
        (List.range (countOf columns)).map fun c =>
          ⟨rectangularSuffix r c, r * countOf columns + c, (scaled row r).shifted (scaled column c)⟩
  | some (.polar count center totalAngle) => do
      let value ← expect count .integer env 0
      check (1 ≤ value ∧ value ≤ maxRepeatCount) "polar repeat count exceeds bound"
      let center ← expectPoint center env 0
      let total ← expect totalAngle .angle env 0
      (List.range (countOf value)).mapM (polarRepetition center total (countOf value))

/-! ## Operations -/

section

variable (T : Trigonometry)

/-- The rotation of `_point` about a centre. -/
def rotated (center : Rat × Rat × Rat) (angle : Rat) (p : Rat × Rat × Rat) : Rat × Rat × Rat :=
  let (cx, cy, cz) := center
  let rx := inDefault (p.1 - cx)
  let ry := inDefault (p.2.1 - cy)
  let c := T.cos angle
  let s := T.sin angle
  (inDefault (inDefault (cx + inDefault (c * rx)) - inDefault (s * ry)),
   inDefault (inDefault (cy + inDefault (s * rx)) + inDefault (c * ry)),
   inDefault (cz + inDefault (p.2.2 - cz)))

/-- `_point`. -/
def point (p : ExpressionPoint) (env : Environment) (r : Repetition) :
    Except Invalid ConcretePoint := do
  let value ← expectPoint p env r.index
  let (x, y, z) :=
    match r.transform.center with
    | some center => rotated T center r.transform.angle value
    | none => value
  let x ← normalize (inDefault (x + r.transform.dx))
  let y ← normalize (inDefault (y + r.transform.dy))
  let z ← normalize (inDefault (z + r.transform.dz))
  return ⟨x, y, z⟩

/-- `_vector`. -/
def vector (p : ExpressionPoint) (env : Environment) (index : Nat) :
    Except Invalid ConcretePoint := do
  let x ← normalize (← expect p.x .length env index)
  let y ← normalize (← expect p.y .length env index)
  let z ← normalize (← expect p.z .length env index)
  return ⟨x, y, z⟩

/-- `_positive`. -/
def positive (value : Rat) (name : String) : Except Invalid Rat := do
  check (0 < value) s!"{name} must be positive"
  normalize value

/-- The names of the layers that were made, by operation. -/
abbrev Layers := List (String × String)

/-- `_layer_name`. -/
def layerName (layers : Layers) : LayerTarget → Except Invalid String
  | .name layer => return layer
  | .output operationId =>
      match layers.find? fun l => l.1 = operationId with
      | some l => return l.2
      | none => throw "layer output is not available"

/-- The fields of `_compile_operation`. -/
def compileBody (operationId : String) (env : Environment) (layers : Layers) (r : Repetition) :
    SourceBody → Except Invalid ConcreteBody
  | .ensureLayer name colorIndex => return .ensureLayer name colorIndex
  | .copyEntity targetRefId displacement => do
      return .copyEntity targetRefId (← vector displacement env r.index) operationId
  | .offsetEntity targetRefId signedDistance => do
      let distance ← expect signedDistance .length env r.index
      return .offsetEntity targetRefId (← normalize distance) operationId
  | .moveEntity targetRefId displacement => do
      return .moveEntity targetRefId (← vector displacement env r.index)
  | .createLine layer start stop => do
      let layer ← layerName layers layer
      return .createLine layer (← point T start env r) (← point T stop env r)
  | .createCircle layer center radius => do
      let layer ← layerName layers layer
      let center ← point T center env r
      let radius ← positive (← expect radius .length env r.index) "radius"
      return .createCircle layer center radius
  | .createPolyline layer vertices closed => do
      let layer ← layerName layers layer
      return .createPolyline layer (← vertices.mapM fun p => point T p env r) closed
  | .createRectangle layer firstCorner oppositeCorner => do
      let layer ← layerName layers layer
      return .createRectangle layer (← point T firstCorner env r) (← point T oppositeCorner env r)
  | .createText layer position text height rotation => do
      let layer ← layerName layers layer
      let rotation ← expect rotation .angle env r.index
      let position ← point T position env r
      let height ← positive (← expect height .length env r.index) "height"
      return .createText layer position text height
        (← normalize (inDefault (rotation + r.transform.angle)))
  | .createDimensionLinear layer p q s textOverride => do
      let layer ← layerName layers layer
      return .createDimensionLinear layer (← point T p env r) (← point T q env r)
        (← point T s env r) textOverride

/-- The layer that an operation makes. -/
def layerMade (o : SourceOperation) : Layers :=
  match o.body with
  | .ensureLayer name _ => [(o.operationId, name)]
  | _ => []

/-- One repetition of an operation in the loop of the compiler. -/
def compileOperation (o : SourceOperation) (env : Environment) (layers : Layers)
    (r : Repetition) : Except Invalid ConcreteOperation := do
  let operationId := o.operationId ++ r.suffix
  check (operationId.length ≤ 128 ∧ isIdentifier operationId = true)
    "expanded operation ID is invalid"
  let body ← compileBody T operationId env layers r o.body
  body.isConcrete
  return ⟨operationId, o.operationId, body⟩

/-- The loop of the compiler. -/
def compileOperations (env : Environment) (layers : Layers) :
    List SourceOperation → Except Invalid (List ConcreteOperation)
  | [] => return []
  | o :: os => do
      let repetitions ← repeatTransforms env o.repeated
      let operations ← repetitions.mapM (compileOperation T o env layers)
      return operations ++ (← compileOperations env (layerMade o ++ layers) os)

end

/-! ## The plan -/

/-- The coordinates of an operation against the limit of the budgets. -/
def checkCoordinates (limit : Rat) (o : ConcreteOperation) : Except Invalid Unit := do
  let inside : ConcretePoint → Bool := fun p => |p.xMm| ≤ limit ∧ |p.yMm| ≤ limit ∧ |p.zMm| ≤ limit
  check (o.body.points.all inside = true) "expanded coordinate exceeds budget"
  check (o.body.displacement?.all inside = true) "expanded displacement exceeds budget"
  check (∀ d ∈ o.body.signedDistance?, |d| ≤ limit) "expanded offset distance exceeds budget"

/-- `_plan_budget`. -/
def planBudget (operations : List ConcreteOperation) (source : CadProgramV1Source) :
    Except Invalid ExecutionPlanBudgets := do
  let vertices := estimatedVertices operations
  let textBytes := estimatedTextBytes operations
  let entities := operations.countP fun o => o.body.kind ≠ .ensureLayer
  check (operations.length ≤ source.budgets.maxExpandedOperations)
    "expanded operation count exceeds budget"
  check (entities ≤ source.budgets.maxEntities) "expanded entity count exceeds budget"
  check (vertices ≤ source.budgets.maxVertices) "expanded vertex count exceeds budget"
  check (textBytes ≤ source.budgets.maxTextBytes) "expanded text bytes exceed budget"
  let limit ← parseDecimal source.budgets.maxCoordinateAbsMm
  operations.forM (checkCoordinates limit)
  return ⟨operations.length, source.budgets.maxExpandedOperations, entities,
    source.budgets.maxEntities, vertices, source.budgets.maxVertices, textBytes,
    source.budgets.maxTextBytes⟩

def targetOperations (source : CadProgramV1Source) : List SourceOperation :=
  source.operations.filter fun o => o.body.kind.isTarget

def sourceUsersOf (source : CadProgramV1Source) (refId : String) : List OperationKind :=
  ((targetOperations source).filter fun o => o.body.targetRefId? = some refId).map
    fun o => o.body.kind

/-- `_materialize_target_refs`. -/
def materializeTargetRefs (source : CadProgramV1Source) (refs : List MaterializedTargetRef)
    (expectedOwnerId : Option String) : Except Invalid (List MaterializedTargetRef) := do
  let requested := (targetOperations source).filterMap fun o => o.body.targetRefId?
  check (∀ r ∈ refs, r.fits = true) "materialized target ref is invalid"
  if requested = [] then
    check (expectedOwnerId = none) "materialized owner identity requires target operations"
  else
    check (expectedOwnerId ≠ none) "trusted materialized owner identity is required"
    check (∀ owner ∈ expectedOwnerId, isIdentifier owner = true)
      "materialized owner identity is invalid"
  check (refs.map MaterializedTargetRef.refId).Nodup "materialized target ref IDs must be unique"
  check ((∀ id ∈ requested, id ∈ refs.map MaterializedTargetRef.refId) ∧
      ∀ r ∈ refs, r.refId ∈ requested)
    "trusted materialized refs must exactly match source target_ref_id values"
  check (∀ r ∈ refs, some r.ownerId = expectedOwnerId ∧ r.deviceId = source.deviceId ∧
      r.documentId = source.documentId ∧ r.snapshotId = source.sourceSnapshotId ∧
      r.documentRevision = source.expectedDocumentRevision)
    "materialized target ref does not match source context"
  check (∀ id ∈ requested, .moveEntity ∈ sourceUsersOf source id →
      (sourceUsersOf source id).length = 1)
    "an in-place target cannot be reused by another operation in one plan"
  return refs.mergeSort fun a b => a.refId ≤ b.refId

def compileVariables : List Variable → Except Invalid Environment
  | [] => return []
  | v :: vs => do
      let value ← normalizeValue v.value
      return (v.name, value) :: (← compileVariables vs)

/-- `compile_cad_program_v1` on a parsed source. -/
def compileCadProgramV1 (T : Trigonometry) (P : PlanCodec) (source : CadProgramV1Source)
    (pins : ExecutionPins) (compilerPackageHash : String)
    (materializedTargetRefs : List MaterializedTargetRef) (materializedOwnerId : Option String) :
    Except Invalid CadExecutionPlanV1 := do
  check (source.artifactRefs = [] ∧ source.componentRefs = [])
    "artifact/component refs require trusted Gateway materialization before compile"
  let targetRefs ← materializeTargetRefs source materializedTargetRefs materializedOwnerId
  let env ← compileVariables source.programVariables
  let operations ← compileOperations T env [] source.operations
  let budget ← planBudget operations source
  let manifest := effectManifest operations targetRefs
  let expansionDigest ← encoded (P.canonicalExpansionDigest operations)
  let effectDigest ← encoded (P.canonicalEffectDigest manifest)
  let targetRefsDigest ← encoded (P.canonicalTargetRefsDigest targetRefs)
  let validationProfilesDigest ←
    encoded (P.canonicalValidationProfilesDigest source.validationProfiles)
  let checkpointStrategyDigest ←
    encoded (P.canonicalCheckpointStrategyDigest manifest.checkpointStrategy)
  let hardBudgetsDigest ← encoded (P.canonicalHardBudgetsDigest budget)
  let unsealed : CadExecutionPlanV1 :=
    { planId := s!"{source.programId}.r{source.programRevision}"
      sourceRegistryVersion := source.registryVersion
      sourceProgramId := source.programId
      sourceProgramRevision := source.programRevision
      sourceDigest := source.semanticDigest
      compilerDigest := P.canonicalCompilerDigest
      compilerPackageHash := compilerPackageHash
      deviceId := source.deviceId
      documentId := source.documentId
      sourceSnapshotId := source.sourceSnapshotId
      expectedDocumentRevision := source.expectedDocumentRevision
      operations := operations
      expansionDigest := expansionDigest
      effectManifest := manifest
      effectManifestDigest := effectDigest
      materializedTargetRefs := targetRefs
      targetRefsDigest := targetRefsDigest
      validationProfilesDigest := validationProfilesDigest
      checkpointStrategyDigest := checkpointStrategyDigest
      hardBudgetsDigest := hardBudgetsDigest
      executionPins := pins
      budgets := budget
      requiredCapabilities := source.requiredCapabilities ++
        (derivedTargetCapabilities operations targetRefs).filter
          fun c => c ∉ source.requiredCapabilities
      validationProfiles := source.validationProfiles
      artifactRefs := []
      componentRefs := []
      checkpointStrategy := manifest.checkpointStrategy
      executionPlanDigest := "" }
  let plan := { unsealed with
    executionPlanDigest := ← encoded (P.canonicalExecutionPlanDigest unsealed) }
  check (plan.fieldsFit = true) "execution plan is invalid"
  plan.isSealed P
  return plan

end AutocadMcp.Program
