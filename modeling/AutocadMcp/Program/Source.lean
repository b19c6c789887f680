import AutocadMcp.Program.Numbers

/-!
# CAD Program sources

The source model of `phase8_contracts.py`. The shape that
`Expression._shape_matches_operator` asks for, and the fields that belong to the
kind of an operation, are in the types; the other checks of
`CadProgramV1Source` are functions with the messages they raise.
-/

namespace AutocadMcp.Program

inductive Expression where
  | literal (value : NumericValue)
  | variable (name : String)
  | index
  | neg (operand : Expression)
  | abs (operand : Expression)
  | add (left right : Expression)
  | sub (left right : Expression)
  | mul (left right : Expression)
  | div (left right : Expression)
  | min (arguments : List Expression)
  | max (arguments : List Expression)
  | convert (operand : Expression) (unit : NumericUnit)

structure Variable where
  name : String
  value : NumericValue
  deriving DecidableEq

structure OpaqueArtifactRef where
  artifactId : String
  ownerId : String
  byteLength : Int
  artifactDigest : String
  deriving DecidableEq

structure OpaqueComponentRef where
  componentId : String
  ownerId : String
  componentVersion : String
  byteLength : Int
  componentDigest : String
  deriving DecidableEq

structure ExpressionPoint where
  x : Expression
  y : Expression
  z : Expression

/-- `LayerTargetV1`: a name, or the output of an `ensure_layer`. -/
inductive LayerTarget where
  | name (layer : String)
  | output (operationId : String)
  deriving DecidableEq

inductive RepeatSpec where
  | linear (count : Expression) (offset : ExpressionPoint)
  | rectangular (rows columns : Expression) (rowOffset columnOffset : ExpressionPoint)
  | polar (count : Expression) (center : ExpressionPoint) (totalAngle : Expression)

inductive OperationKind where
  | ensureLayer
  | createLine
  | createCircle
  | createPolyline
  | createRectangle
  | createText
  | createDimensionLinear
  | copyEntity
  | offsetEntity
  | moveEntity
  deriving DecidableEq, Repr

namespace OperationKind

def name : OperationKind → String
  | .ensureLayer => "ensure_layer"
  | .createLine => "create_line"
  | .createCircle => "create_circle"
  | .createPolyline => "create_polyline"
  | .createRectangle => "create_rectangle"
  | .createText => "create_text"
  | .createDimensionLinear => "create_dimension_linear"
  | .copyEntity => "copy_entity"
  | .offsetEntity => "offset_entity"
  | .moveEntity => "move_entity"

/-- The operations on materialized references. -/
def isTarget : OperationKind → Bool
  | .copyEntity | .offsetEntity | .moveEntity => true
  | _ => false

end OperationKind

/-- The fields of a kind of operation. -/
inductive SourceBody where
  | ensureLayer (name : String) (colorIndex : Option Int)
  | createLine (layer : LayerTarget) (start stop : ExpressionPoint)
  | createCircle (layer : LayerTarget) (center : ExpressionPoint) (radius : Expression)
  | createPolyline (layer : LayerTarget) (vertices : List ExpressionPoint) (closed : Bool)
  | createRectangle (layer : LayerTarget) (firstCorner oppositeCorner : ExpressionPoint)
  | createText (layer : LayerTarget) (position : ExpressionPoint) (text : String)
      (height rotation : Expression)
  | createDimensionLinear (layer : LayerTarget)
      (extensionLine1Point extensionLine2Point dimensionLinePoint : ExpressionPoint)
      (textOverride : Option String)
  | copyEntity (targetRefId : String) (displacement : ExpressionPoint)
  | offsetEntity (targetRefId : String) (signedDistance : Expression)
  | moveEntity (targetRefId : String) (displacement : ExpressionPoint)

namespace SourceBody

def kind : SourceBody → OperationKind
  | .ensureLayer .. => .ensureLayer
  | .createLine .. => .createLine
  | .createCircle .. => .createCircle
  | .createPolyline .. => .createPolyline
  | .createRectangle .. => .createRectangle
  | .createText .. => .createText
  | .createDimensionLinear .. => .createDimensionLinear
  | .copyEntity .. => .copyEntity
  | .offsetEntity .. => .offsetEntity
  | .moveEntity .. => .moveEntity

def layer? : SourceBody → Option LayerTarget
  | .createLine layer .. | .createCircle layer .. | .createPolyline layer ..
  | .createRectangle layer .. | .createText layer .. | .createDimensionLinear layer .. => some layer
  | _ => none

def targetRefId? : SourceBody → Option String
  | .copyEntity id _ | .offsetEntity id _ | .moveEntity id _ => some id
  | _ => none

end SourceBody

/-- `CadSourceOperation`. -/
structure SourceOperation where
  operationId : String
  repeated : Option RepeatSpec
  body : SourceBody

inductive RegistryVersion where
  | createCore
  | phase8Core
  deriving DecidableEq, Repr

structure ProgramV1Budgets where
  maxSourceOperations : Int
  maxExpandedOperations : Int
  maxEntities : Int
  maxVertices : Int
  maxExpressionNodes : Int
  maxCoordinateAbsMm : String
  maxTextBytes : Int
  deriving DecidableEq

/-- `CadProgramV1Source`; the schema version has one value. -/
structure CadProgramV1Source where
  registryVersion : RegistryVersion
  programId : String
  programRevision : Int
  parentRevision : Option Int
  deviceId : String
  sourceSnapshotId : String
  documentId : String
  expectedDocumentRevision : String
  programVariables : List Variable
  operations : List SourceOperation
  budgets : ProgramV1Budgets
  requiredCapabilities : List String
  validationProfiles : List String
  artifactRefs : List OpaqueArtifactRef
  componentRefs : List OpaqueComponentRef
  semanticDigest : String

/-! ## Field validators -/

def NumericValue.fits (v : NumericValue) : Bool :=
  isDecimalText v.value && v.unitMatchesType.toOption.isSome

mutual

def Expression.fits : Expression → Bool
  | .literal value => value.fits
  | .variable name => isIdentifier name
  | .index => true
  | .neg operand | .abs operand | .convert operand _ => operand.fits
  | .add left right | .sub left right | .mul left right | .div left right =>
      left.fits && right.fits
  | .min arguments | .max arguments =>
      2 ≤ arguments.length && arguments.length ≤ 8 && allFit arguments

def allFit : List Expression → Bool
  | [] => true
  | e :: es => e.fits && allFit es

end

def ExpressionPoint.fits (p : ExpressionPoint) : Bool := p.x.fits && p.y.fits && p.z.fits

def LayerTarget.fits : LayerTarget → Bool
  | .name layer => isLayerName layer
  | .output operationId => isIdentifier operationId

def RepeatSpec.fits : RepeatSpec → Bool
  | .linear count offset => count.fits && offset.fits
  | .rectangular rows columns rowOffset columnOffset =>
      rows.fits && columns.fits && rowOffset.fits && columnOffset.fits
  | .polar count center totalAngle => count.fits && center.fits && totalAngle.fits

/-- `Field(ge=…, le=…)`. -/
def within (low high n : Int) : Bool := low ≤ n && n ≤ high

def maxVertices : Nat := 4096

def maxTextBytes : Nat := 65536

def SourceBody.fits : SourceBody → Bool
  | .ensureLayer name colorIndex => isLayerName name && colorIndex.all (within 1 255)
  | .createLine layer start stop => layer.fits && start.fits && stop.fits
  | .createCircle layer center radius => layer.fits && center.fits && radius.fits
  | .createPolyline layer vertices _ =>
      layer.fits && within 2 maxVertices vertices.length && vertices.all ExpressionPoint.fits
  | .createRectangle layer firstCorner oppositeCorner =>
      layer.fits && firstCorner.fits && oppositeCorner.fits
  | .createText layer position text height rotation =>
      layer.fits && position.fits && 1 ≤ text.length && text.utf8ByteSize ≤ maxTextBytes &&
        height.fits && rotation.fits
  | .createDimensionLinear layer p q r textOverride =>
      layer.fits && p.fits && q.fits && r.fits && textOverride.all (·.length ≤ 1024)
  | .copyEntity targetRefId displacement | .moveEntity targetRefId displacement =>
      isIdentifier targetRefId && displacement.fits
  | .offsetEntity targetRefId signedDistance => isIdentifier targetRefId && signedDistance.fits

def SourceOperation.fits (o : SourceOperation) : Bool :=
  isIdentifier o.operationId && o.repeated.all RepeatSpec.fits && o.body.fits

def Variable.fits (v : Variable) : Bool := isIdentifier v.name && v.value.fits

def maxSourceOperations : Nat := 256

def maxExpandedOperations : Nat := 1024

def maxExpressionNodes : Nat := 1024

/-- The fields of the budgets and `ProgramV1Budgets._coordinate_limit_is_bounded`. -/
def budgetsFit (b : ProgramV1Budgets) : Bool :=
  within 1 maxSourceOperations b.maxSourceOperations &&
    within 1 maxExpandedOperations b.maxExpandedOperations &&
    within 1 maxExpandedOperations b.maxEntities && within 2 maxVertices b.maxVertices &&
    within 1 maxExpressionNodes b.maxExpressionNodes && isDecimalText b.maxCoordinateAbsMm &&
    (parseDecimal b.maxCoordinateAbsMm).toOption.any (fun q => 0 < q ∧ q ≤ maxNormalizedAbs) &&
    within 1 maxTextBytes b.maxTextBytes

def OpaqueArtifactRef.fits (r : OpaqueArtifactRef) : Bool :=
  isIdentifier r.artifactId && isIdentifier r.ownerId && within 1 5242880 r.byteLength &&
    isDigest r.artifactDigest

def OpaqueComponentRef.fits (r : OpaqueComponentRef) : Bool :=
  isIdentifier r.componentId && isIdentifier r.ownerId && isIdentifier r.componentVersion &&
    within 1 5242880 r.byteLength && isDigest r.componentDigest

/-- The field validators of a source, the digest apart. -/
def CadProgramV1Source.fieldsFit (source : CadProgramV1Source) : Bool :=
  isIdentifier source.programId && 1 ≤ source.programRevision &&
    source.parentRevision.all (1 ≤ ·) && isIdentifier source.deviceId &&
    isIdentifier source.sourceSnapshotId && isIdentifier source.documentId &&
    isRevision source.expectedDocumentRevision &&
    source.programVariables.length ≤ 64 && source.programVariables.all Variable.fits &&
    within 1 maxSourceOperations source.operations.length &&
    source.operations.all SourceOperation.fits && budgetsFit source.budgets &&
    source.requiredCapabilities.length ≤ 64 && source.requiredCapabilities.all isIdentifier &&
    within 1 16 source.validationProfiles.length &&
    source.validationProfiles.all isIdentifier && source.artifactRefs.length ≤ 32 &&
    source.artifactRefs.all OpaqueArtifactRef.fits && source.componentRefs.length ≤ 32 &&
    source.componentRefs.all OpaqueComponentRef.fits

/-! ## The expressions of an operation -/

mutual

/-- `_expression_shape`: the number of nodes and the depth. -/
def Expression.shape : Expression → Nat × Nat
  | .literal _ | .variable _ | .index => (1, 1)
  | .neg operand | .abs operand | .convert operand _ =>
      (1 + operand.shape.1, 1 + operand.shape.2)
  | .add left right | .sub left right | .mul left right | .div left right =>
      (1 + (left.shape.1 + right.shape.1), 1 + Nat.max left.shape.2 right.shape.2)
  | .min arguments | .max arguments =>
      (1 + (shapes arguments).1, 1 + (shapes arguments).2)

/-- The sum of the node counts and the greatest depth. -/
def shapes : List Expression → Nat × Nat
  | [] => (0, 0)
  | e :: es => (e.shape.1 + (shapes es).1, Nat.max e.shape.2 (shapes es).2)

end

def ExpressionPoint.expressions (p : ExpressionPoint) : List Expression := [p.x, p.y, p.z]

def RepeatSpec.expressions : RepeatSpec → List Expression
  | .linear count offset => count :: offset.expressions
  | .rectangular rows columns rowOffset columnOffset =>
      rows :: columns :: (rowOffset.expressions ++ columnOffset.expressions)
  | .polar count center totalAngle => count :: totalAngle :: center.expressions

def SourceBody.expressions : SourceBody → List Expression
  | .ensureLayer .. => []
  | .createLine _ start stop => start.expressions ++ stop.expressions
  | .createCircle _ center radius => center.expressions ++ [radius]
  | .createPolyline _ vertices _ => vertices.flatMap ExpressionPoint.expressions
  | .createRectangle _ firstCorner oppositeCorner =>
      firstCorner.expressions ++ oppositeCorner.expressions
  | .createText _ position _ height rotation => position.expressions ++ [height, rotation]
  | .createDimensionLinear _ p q r _ => p.expressions ++ q.expressions ++ r.expressions
  | .copyEntity _ displacement | .moveEntity _ displacement => displacement.expressions
  | .offsetEntity _ signedDistance => [signedDistance]

/-- `_operation_expressions`. -/
def SourceOperation.expressions (o : SourceOperation) : List Expression :=
  o.body.expressions ++ o.repeated.elim [] RepeatSpec.expressions

/-! ## The checks of a source -/

def compileCapability : String := "cad.program.v1.compile"

def polarCapability : String := "cad.program.v1.repeat.polar"

def maxExpressionDepth : Nat := 16

def isPolar : Option RepeatSpec → Bool
  | some (.polar ..) => true
  | _ => false

/-- The layer is a name, or the output of an operation that makes a layer. -/
def layerKnown (knownLayers : List String) : Option LayerTarget → Bool
  | some (.output operationId) => operationId ∈ knownLayers
  | _ => true

/-- The checks of one operation, after the layers that earlier ones have made. -/
def checkOperation (source : CadProgramV1Source) (knownLayers : List String)
    (o : SourceOperation) : Except Invalid Unit := do
  if o.body.kind = .ensureLayer then
    check (o.repeated.isNone = true) "ensure_layer cannot be repeated"
  check (layerKnown knownLayers o.body.layer? = true)
    "layer reference must target an earlier ensure_layer output"
  if o.body.kind.isTarget then
    check (source.registryVersion = .phase8Core)
      "materialized-ref operations require the Phase 8 core registry"
    check (o.repeated.isNone = true) "materialized-ref operations cannot use source repeat"
  check (¬ (isPolar o.repeated = true ∧ o.body.kind = .createRectangle))
    "polar repeat cannot represent a rotated rectangle primitive"
  check (isPolar o.repeated = true → polarCapability ∈ source.requiredCapabilities)
    "polar repeat capability is required"
  check (∀ e ∈ o.expressions, e.shape.2 ≤ maxExpressionDepth) "expression exceeds maximum depth"

def layersMade (o : SourceOperation) : List String :=
  if o.body.kind = .ensureLayer then [o.operationId] else []

/-- The loop over the operations. -/
def checkOperations (source : CadProgramV1Source) (knownLayers : List String) :
    List SourceOperation → Except Invalid Unit
  | [] => return ()
  | o :: os => do
      checkOperation source knownLayers o
      checkOperations source (knownLayers ++ layersMade o) os

def nodeCount (source : CadProgramV1Source) : Nat :=
  ((source.operations.flatMap SourceOperation.expressions).map fun e => e.shape.1).sum

/-- What the checks take from the encoder: the digest of a source without its `semantic_digest`, and
the size of its encoding; nothing where it is not encoded. -/
structure SourceCodec where
  canonicalSourceDigest : CadProgramV1Source → Option String
  canonicalBytes : CadProgramV1Source → Option Nat

def maxSourceBytes : Nat := 1048576

/-- `CadProgramV1Source._source_is_closed_and_bounded` up to its digest. -/
def CadProgramV1Source.isClosed (source : CadProgramV1Source) : Except Invalid Unit := do
  check (∀ parent ∈ source.parentRevision, parent < source.programRevision)
    "parent_revision must precede program_revision"
  check (source.programVariables.map Variable.name).Nodup "variable names must be unique"
  check (source.operations.map SourceOperation.operationId).Nodup "operation IDs must be unique"
  check source.requiredCapabilities.Nodup "required capabilities must be unique"
  check (compileCapability ∈ source.requiredCapabilities)
    "cad.program.v1.compile capability is required"
  check source.validationProfiles.Nodup "validation profiles must be unique"
  check (source.artifactRefs.map OpaqueArtifactRef.artifactId).Nodup "artifact refs must be unique"
  check (source.componentRefs.map OpaqueComponentRef.componentId).Nodup
    "component refs must be unique"
  checkOperations source [] source.operations
  check (nodeCount source ≤ source.budgets.maxExpressionNodes) "expressions exceed node budget"

/-- `CadProgramV1Source._source_is_closed_and_bounded`. -/
def CadProgramV1Source.isClosedAndBounded (S : SourceCodec) (source : CadProgramV1Source) :
    Except Invalid Unit := do
  source.isClosed
  match S.canonicalSourceDigest source with
  | none => throw "JSON nesting exceeds the protocol limit"
  | some digest =>
      check (source.semanticDigest = digest) "semantic_digest does not match canonical source"
  match S.canonicalBytes source with
  | none => throw "JSON nesting exceeds the protocol limit"
  | some bytes => check (bytes ≤ maxSourceBytes) "source exceeds byte budget"

/-- A source that `parse_cad_program_v1` accepts. -/
def CadProgramV1Source.accepted (S : SourceCodec) (source : CadProgramV1Source) : Bool :=
  source.fieldsFit && isDigest source.semanticDigest &&
    (source.isClosedAndBounded S).toOption.isSome

end AutocadMcp.Program
