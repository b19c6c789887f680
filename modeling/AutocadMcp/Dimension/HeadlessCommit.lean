import AutocadMcp.Dimension.Plans
import AutocadMcp.Lib.Script
import Mathlib.Data.Rat.Defs

/-!
# The headless commit of a dimension plan

`_commit_ezdxf` draws a plan on a temporary layer, clears the old dimensions where the plan asks
for it, and moves what it drew to the layer of the profile. Every call of ezdxf has a name here, and
one of them may raise before it has done anything; adding, deleting and assigning do just that.
-/

namespace AutocadMcp.HeadlessCommit

open DimensionPlans Eff Script

/-! ## Drawings -/

/-- The drafting choices of `DimensionProfile` that the commit reads. -/
structure DimensionProfile where
  layer : String
  dimstyle : String
  textHeight : ℚ
  arrowSize : ℚ
  precision : ℤ
  scaleFactor : ℚ
  toleranceMode : String
  toleranceUpper : ℚ
  toleranceLower : ℚ

/-- The `override` of a dimension style. -/
structure StyleOverride where
  dimtxt : ℚ
  dimasz : ℚ
  dimdec : ℤ
  dimscale : ℚ
  dimtol : ℕ
  dimtp : ℚ
  dimtm : ℚ
  deriving DecidableEq

def DimensionProfile.override (profile : DimensionProfile) : StyleOverride where
  dimtxt := profile.textHeight
  dimasz := profile.arrowSize
  dimdec := profile.precision
  dimscale := profile.scaleFactor
  dimtol := if profile.toleranceMode = "none" then 0 else 1
  dimtp := profile.toleranceUpper
  dimtm := profile.toleranceLower

/-- What a dimension measures. -/
inductive Measured where
  | linear (base p1 p2 : List Json) (angle : ℚ)
  | diameter (center mpoint : List Json)
  | radius (center mpoint : List Json)
  deriving DecidableEq

inductive EntityBody where
  | dimension (measured : Measured) (dimstyle : String) (override : StyleOverride) (text : String)
  | line (start stop : List Json)
  | text (content : String) (insert : List Json) (height : ℚ)
  | other (data : Json)
  deriving DecidableEq

/-- An entity of modelspace; `rendered` is the layer on which its geometry block was drawn. -/
structure DxfEntity where
  handle : ℕ
  dxftype : String
  layer : String
  body : EntityBody
  rendered : Option String
  deriving DecidableEq

structure Layer where
  name : String
  color : ℕ
  deriving DecidableEq

structure DimStyle where
  name : String
  attributes : Json
  deriving DecidableEq

/-- The handles of a drawing are taken from a counter. -/
structure Drawing where
  entities : Table DxfEntity.handle
  nextHandle : ℕ
  below : ∀ e ∈ entities.rows, e.handle < nextHandle
  layers : List Layer
  dimstyles : List DimStyle

/-- The names of the tables and the numbers in texts, as ezdxf and Python read them. -/
structure DxfRuntime where
  key : String → String
  float : String → Option ℚ

namespace Drawing

theorem below_append {t : Table DxfEntity.handle} {n : ℕ} (h : ∀ e ∈ t.rows, e.handle < n)
    (e : DxfEntity) (he : e.handle = n) (hfresh : ∀ y ∈ t.rows, y.handle ≠ e.handle) :
    ∀ y ∈ (t.append e hfresh).rows, y.handle < n + 1 := by
  intro y hy
  rcases List.mem_append.mp hy with hy | hy
  · exact Nat.lt_succ_of_lt (h y hy)
  · rw [List.mem_singleton.mp hy, he]
    exact Nat.lt_succ_self n

theorem below_mapRows {t : Table DxfEntity.handle} {n : ℕ} (h : ∀ e ∈ t.rows, e.handle < n)
    {f : DxfEntity → DxfEntity} (hf : ∀ e, (f e).handle = e.handle) :
    ∀ y ∈ (t.mapRows f hf).rows, y.handle < n := by
  intro y hy
  obtain ⟨e, he, rfl⟩ := List.mem_map.mp hy
  rw [hf]
  exact h e he

theorem below_deleteWhere {t : Table DxfEntity.handle} {n : ℕ} (h : ∀ e ∈ t.rows, e.handle < n)
    (p : DxfEntity → Bool) : ∀ y ∈ (t.deleteWhere p).rows, y.handle < n :=
  fun y hy => h y (Table.mem_deleteWhere.mp hy).1

theorem fresh (d : Drawing) : ∀ y ∈ d.entities.rows, y.handle ≠ d.nextHandle :=
  fun y hy => ne_of_lt (d.below y hy)

/-- `modelspace.add_…`, an entity with the next handle. -/
def addEntity (d : Drawing) (dxftype layer : String) (body : EntityBody) : Drawing :=
  { d with
    entities := d.entities.append ⟨d.nextHandle, dxftype, layer, body, none⟩ d.fresh
    nextHandle := d.nextHandle + 1
    below := below_append d.below _ rfl d.fresh }

/-- A change of the entities that leaves their handles. -/
def mapEntities (d : Drawing) (f : DxfEntity → DxfEntity) (hf : ∀ e, (f e).handle = e.handle) :
    Drawing :=
  { d with entities := d.entities.mapRows f hf, below := below_mapRows d.below hf }

/-- `modelspace.delete_entity`. -/
def deleteEntity (d : Drawing) (handle : ℕ) : Drawing :=
  { d with
    entities := d.entities.deleteWhere (·.handle = handle)
    below := below_deleteWhere d.below _ }

end Drawing

def EntityBody.withText (text : String) : EntityBody → EntityBody
  | .dimension measured dimstyle override _ => .dimension measured dimstyle override text
  | body => body

namespace DxfEntity

def setText (handle : ℕ) (text : String) (e : DxfEntity) : DxfEntity :=
  if e.handle = handle then { e with body := e.body.withText text } else e

/-- `render`: the geometry block is drawn on the layer that the entity has now. -/
def render (handle : ℕ) (e : DxfEntity) : DxfEntity :=
  if e.handle = handle then { e with rendered := some e.layer } else e

def setLayer (handle : ℕ) (layer : String) (e : DxfEntity) : DxfEntity :=
  if e.handle = handle then { e with layer := layer } else e

@[simp] theorem setText_handle (handle : ℕ) (text : String) (e : DxfEntity) :
    (setText handle text e).handle = e.handle := by
  unfold setText
  split <;> rfl

@[simp] theorem render_handle (handle : ℕ) (e : DxfEntity) :
    (render handle e).handle = e.handle := by
  unfold render
  split <;> rfl

@[simp] theorem setLayer_handle (handle : ℕ) (layer : String) (e : DxfEntity) :
    (setLayer handle layer e).handle = e.handle := by
  unfold setLayer
  split <;> rfl

end DxfEntity

namespace Drawing

def setText (d : Drawing) (handle : ℕ) (text : String) : Drawing :=
  d.mapEntities (.setText handle text) (DxfEntity.setText_handle handle text)

def render (d : Drawing) (handle : ℕ) : Drawing :=
  d.mapEntities (.render handle) (DxfEntity.render_handle handle)

def setLayer (d : Drawing) (handle : ℕ) (layer : String) : Drawing :=
  d.mapEntities (.setLayer handle layer) (DxfEntity.setLayer_handle handle layer)

variable (R : DxfRuntime)

def hasLayer (d : Drawing) (name : String) : Bool := d.layers.any fun l => R.key l.name = R.key name

def addLayer (d : Drawing) (name : String) (color : ℕ) : Drawing :=
  { d with layers := d.layers ++ [⟨name, color⟩] }

def removeLayer (d : Drawing) (name : String) : Drawing :=
  { d with layers := d.layers.filter fun l => R.key l.name ≠ R.key name }

def findStyle (d : Drawing) (name : String) : Option DimStyle :=
  d.dimstyles.find? fun s => R.key s.name = R.key name

def addStyle (d : Drawing) (style : DimStyle) : Drawing :=
  { d with dimstyles := d.dimstyles ++ [style] }

def removeStyle (d : Drawing) (name : String) : Drawing :=
  { d with dimstyles := d.dimstyles.filter fun s => R.key s.name ≠ R.key name }

/-- The entities whose layer is exactly this one. -/
def onLayer (d : Drawing) (layer : String) : List DxfEntity :=
  d.entities.rows.filter fun e => e.layer = layer

end Drawing

/-! ## Failures -/

/-- A call of ezdxf; the entities are named by their handles. -/
inductive Operation where
  | addStagingLayer
  | duplicateStyle
  /-- The calls that draw a dimension of the plan. -/
  | draw (index step : ℕ)
  | addProfileLayer
  | clear (handle : ℕ)
  | relayer (handle : ℕ)
  | rerender (handle : ℕ)
  | removeStagingLayer
  /-- The calls of the handler. -/
  | discard (handle : ℕ)
  | discardStagingLayer
  | discardStyle
  deriving DecidableEq

inductive CommitFailure where
  /-- What an operation of ezdxf raises. -/
  | ezdxf (operation : Operation)
  | tableEntry (name : String)
  | keyError (name : String)
  | indexError
  | typeError
  | valueError
  /-- `RuntimeError("Could not create planned dimension …")` -/
  | couldNotCreate (dimensionId : String) (cause : CommitFailure)
  /-- `RuntimeError("Unsupported planned dimension kind …")` -/
  | unsupportedKind (dimensionId kind : String)
  deriving DecidableEq

/-! ## The arguments of a planned dimension -/

section

variable (R : DxfRuntime)

/-- `tuple(mapping[name])`. -/
def tupleField (entries : JsonDict) (name : String) : Except CommitFailure (List Json) :=
  match getItem entries name with
  | none => .error (.keyError name)
  | some (.arr items) => .ok items
  | some (.str s) => .ok (s.toList.map fun c => .str (String.singleton c))
  | some (.obj fields) => .ok (fields.map fun f => .str f.1)
  | some _ => .error .typeError

/-- `float(value)`. -/
def floatOf : Json → Except CommitFailure ℚ
  | .num q => .ok q
  | .bool b => .ok (if b then 1 else 0)
  | .str s => (R.float s).elim (.error .valueError) .ok
  | _ => .error .typeError

/-- An operand of `+` and `-` beside a float. -/
def operand : Json → Except CommitFailure ℚ
  | .num q => .ok q
  | .bool b => .ok (if b then 1 else 0)
  | _ => .error .typeError

def coordinate (point : List Json) (index : ℕ) : Except CommitFailure Json :=
  (point[index]?).elim (.error .indexError) .ok

def linearArgs (item : PlannedDimension) : Except CommitFailure Measured := do
  let base ← tupleField item.placement "base"
  let p1 ← tupleField item.geometry "p1"
  let p2 ← tupleField item.geometry "p2"
  let angle ← floatOf R ((getItem item.placement "angle").getD (.num 0))
  return .linear base p1 p2 angle

def roundArgs (item : PlannedDimension) : Except CommitFailure Measured := do
  let center ← tupleField item.geometry "center"
  let point ← tupleField item.geometry "point"
  return if item.kind = "diameter" then .diameter center point else .radius center point

/-- The center with the half length of its mark. -/
def centerArgs (item : PlannedDimension) (profile : DimensionProfile) :
    Except CommitFailure (List Json × ℚ) := do
  let center ← tupleField item.geometry "center"
  let size ← floatOf R ((getItem item.geometry "size").getD (.num profile.textHeight))
  return (center, size)

def levelLine (center : List Json) (size : ℚ) : Except CommitFailure EntityBody := do
  let x ← coordinate center 0
  let x ← operand x
  let y ← coordinate center 1
  return .line [.num (x - size), y] [.num (x + size), y]

def uprightLine (center : List Json) (size : ℚ) : Except CommitFailure EntityBody := do
  let x ← coordinate center 0
  let y ← coordinate center 1
  let y ← operand y
  return .line [x, .num (y - size)] [x, .num (y + size)]

def textArgs (item : PlannedDimension) (profile : DimensionProfile) :
    Except CommitFailure EntityBody := do
  let point ← tupleField item.geometry "point"
  return .text (item.text.getD "") point profile.textHeight

/-! ## Staging -/

variable (fails : Operation → Bool)

abbrev Commit (α : Type) := Eff CommitFailure Drawing α

/-- One call of ezdxf. -/
def call (operation : Operation) (f : Drawing → Drawing) : Commit Unit :=
  perform fails .ezdxf operation f

/-- `if item.text: dim.set_text(item.text)`. -/
def setText (index handle : ℕ) (text : Option String) : Commit Unit :=
  match text.filter (· ≠ "") with
  | some text => call fails (.draw index 1) (·.setText handle text)
  | none => pure ()

/-- A dimension is added with its style, gets its text and is rendered. -/
def drawDimension (index : ℕ) (item : PlannedDimension) (profile : DimensionProfile)
    (measured : Measured) : Commit Unit := do
  let drawing ← get
  call fails (.draw index 0) (·.addEntity "DIMENSION" profile.layer
    (.dimension measured profile.dimstyle profile.override ""))
  setText fails index drawing.nextHandle item.text
  call fails (.draw index 2) (·.render drawing.nextHandle)

def drawCenter (index : ℕ) (profile : DimensionProfile) (center : List Json) (size : ℚ) :
    Commit Unit := do
  let level ← orRaise (levelLine center size)
  call fails (.draw index 0) (·.addEntity "LINE" profile.layer level)
  let upright ← orRaise (uprightLine center size)
  call fails (.draw index 1) (·.addEntity "LINE" profile.layer upright)

/-- `_create_ezdxf_dimension`; the flag says that an entity came back. -/
def createEzdxfDimension (index : ℕ) (item : PlannedDimension) (profile : DimensionProfile) :
    Commit Bool :=
  if item.kind = "linear" then do
    let measured ← orRaise (linearArgs R item)
    drawDimension fails index item profile measured
    return true
  else if item.kind = "diameter" ∨ item.kind = "radius" then do
    let measured ← orRaise (roundArgs item)
    drawDimension fails index item profile measured
    return true
  else if item.kind = "center" then do
    let args ← orRaise (centerArgs R item profile)
    drawCenter fails index profile args.1 args.2
    return true
  else if item.kind = "text" then do
    let body ← orRaise (textArgs item profile)
    call fails (.draw index 0) (·.addEntity "TEXT" profile.layer body)
    return true
  else return false

/-- A turn of the loop over the plan. -/
def stageItem (index : ℕ) (item : PlannedDimension) (profile : DimensionProfile) : Commit Unit := do
  let created ← tryCatch (createEzdxfDimension R fails index item profile) fun e =>
    throw (.couldNotCreate item.dimensionId e)
  if created then pure () else throw (.unsupportedKind item.dimensionId item.kind)

def stage (profile : DimensionProfile) : ℕ → List PlannedDimension → Commit Unit
  | _, [] => pure ()
  | index, item :: rest => do
      stageItem R fails index item profile
      stage profile (index + 1) rest

/-! ## Commit -/

def addProfileLayer (profile : DimensionProfile) : Commit Unit := do
  let drawing ← get
  if drawing.hasLayer R profile.layer then pure ()
  else call fails .addProfileLayer (·.addLayer profile.layer 2)

def deleteAll (operation : ℕ → Operation) (entities : List DxfEntity) : Commit Unit :=
  forEach entities fun e => call fails (operation e.handle) (·.deleteEntity e.handle)

def clearExisting (clear : Bool) (profile : DimensionProfile) : Commit Unit :=
  if clear then do
    let drawing ← get
    deleteAll fails .clear (drawing.onLayer profile.layer)
  else pure ()

def moveEntity (profile : DimensionProfile) (e : DxfEntity) : Commit Unit := do
  call fails (.relayer e.handle) (·.setLayer e.handle profile.layer)
  if e.dxftype = "DIMENSION" then call fails (.rerender e.handle) (·.render e.handle) else pure ()

def moveStaged (stagingLayer : String) (profile : DimensionProfile) : Commit Unit := do
  let drawing ← get
  forEach (drawing.onLayer stagingLayer) (moveEntity fails profile)

def finish (stagingLayer : String) (clear : Bool) (profile : DimensionProfile) : Commit Unit := do
  addProfileLayer R fails profile
  clearExisting fails clear profile
  moveStaged fails stagingLayer profile
  call fails .removeStagingLayer (·.removeLayer R stagingLayer)

def discardStaged (stagingLayer : String) : Commit Unit := do
  let drawing ← get
  deleteAll fails .discard (drawing.onLayer stagingLayer)

def discardStagingLayer (stagingLayer : String) : Commit Unit := do
  let drawing ← get
  if drawing.hasLayer R stagingLayer then
    call fails .discardStagingLayer (·.removeLayer R stagingLayer)
  else pure ()

def discardStyle (styleCreated : Bool) (dimstyle : String) : Commit Unit := do
  let drawing ← get
  if styleCreated && (drawing.findStyle R dimstyle).isSome then
    call fails .discardStyle (·.removeStyle R dimstyle)
  else pure ()

/-- What the handler does before it raises again. -/
def rollBack (stagingLayer : String) (styleCreated : Bool) (profile : DimensionProfile) :
    Commit Unit := do
  discardStaged fails stagingLayer
  discardStagingLayer R fails stagingLayer
  discardStyle R fails styleCreated profile.dimstyle

/-- `document.layers.add(staging_layer, color=2)`, which refuses a name that is there. -/
def addStagingLayer (stagingLayer : String) : Commit Unit := do
  let drawing ← get
  if drawing.hasLayer R stagingLayer then throw (.tableEntry stagingLayer)
  else call fails .addStagingLayer (·.addLayer stagingLayer 2)

/-- `duplicate_entry("Standard", dimstyle)`, which refuses where there is no entry to copy. -/
def duplicateStyle (dimstyle : String) : Commit Unit := do
  let drawing ← get
  match drawing.findStyle R "Standard" with
  | none => throw (.tableEntry "Standard")
  | some standard => call fails .duplicateStyle (·.addStyle { standard with name := dimstyle })

/-- The new style, where the drawing does not have it. -/
def ensureStyle (dimstyle : String) : Commit Bool := do
  let drawing ← get
  if (drawing.findStyle R dimstyle).isSome then return false
  else do
    duplicateStyle R fails dimstyle
    return true

/-- What the commit returns, but for its constant entries. -/
structure CommitReport where
  dimensionsCreated : ℕ
  dimensionLayer : String
  dimstyleApplied : String

/-- The body of the `try`. -/
def drawAndFinish (stagingLayer : String) (plan : DimensionPlan) (profile : DimensionProfile) :
    Commit Unit := do
  stage R fails { profile with layer := stagingLayer } 0 plan.dimensions
  finish R fails stagingLayer ((getItem plan.target "clear_existing").elim false Json.truthy) profile

/-- `_commit_ezdxf` of an open document; `stagingLayer` is the name with the new `uuid`. -/
def commitEzdxf (stagingLayer : String) (plan : DimensionPlan) (profile : DimensionProfile) :
    Commit CommitReport := do
  addStagingLayer R fails stagingLayer
  let styleCreated ← ensureStyle R fails profile.dimstyle
  tryCatch (drawAndFinish R fails stagingLayer plan profile) fun e => do
    rollBack R fails stagingLayer styleCreated profile
    throw e
  return ⟨plan.dimensions.length, profile.layer, profile.dimstyle⟩

end

end AutocadMcp.HeadlessCommit
