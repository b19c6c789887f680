import AutocadMcp.Contracts.Json
import AutocadMcp.Lib.Checked
import AutocadMcp.Lib.Groups
import AutocadMcp.Lib.Machine
import AutocadMcp.Lib.Table
import Mathlib.Data.String.Basic

/-!
# The dimension plan store

`DimensionPlanStore` keeps plans in memory between their preview and their commit. Every method
but `commit` runs without a pause. `commit` holds a lock while the executor of a plan runs, and
any other call may come in the meantime, so a call is either a whole method, the part of a commit
before its executor or the part after it.
-/

namespace AutocadMcp.DimensionPlans

/-! ## Values of a caller -/

/-- A value that a caller passes; `object` is one that `json.dumps` refuses. -/
inductive Value where
  | null
  | bool (b : Bool)
  | num (q : Rat)
  | str (s : String)
  | list (items : List Value)
  | mapping (entries : List (String × Value))
  | object

abbrev Mapping := List (String × Value)

/-- A dictionary of JSON values. -/
abbrev JsonDict := List (String × Json)

mutual

/-- `json.loads(json.dumps(value))`, where it does not raise. -/
def roundTrip : Value → Option Json
  | .null => some .null
  | .bool b => some (.bool b)
  | .num q => some (.num q)
  | .str s => some (.str s)
  | .list items => (roundTripItems items).map .arr
  | .mapping entries => (roundTripEntries entries).map .obj
  | .object => none

def roundTripItems : List Value → Option (List Json)
  | [] => some []
  | v :: vs =>
      match roundTrip v, roundTripItems vs with
      | some j, some js => some (j :: js)
      | _, _ => none

def roundTripEntries : List (String × Value) → Option (List (String × Json))
  | [] => some []
  | (k, v) :: rest =>
      match roundTrip v, roundTripEntries rest with
      | some j, some js => some ((k, j) :: js)
      | _, _ => none

end

/-- The exceptions of the store, and the one that an argument or an executor raises itself. -/
inductive PlanError where
  | invalid (message : String)
  | notFound (message : String)
  | conflict (message : String)
  | other (message : String)
  deriving DecidableEq

/-- `_json_value`. -/
def jsonValue (value : Value) (fieldName : String) : Except PlanError Json :=
  match roundTrip value with
  | some json => .ok json
  | none => .error (.invalid (fieldName ++ " must contain JSON-compatible values"))

/-- `_json_value(dict(value), field_name)`. -/
def jsonDict (value : Mapping) (fieldName : String) : Except PlanError JsonDict :=
  match roundTripEntries value with
  | some json => .ok json
  | none => .error (.invalid (fieldName ++ " must contain JSON-compatible values"))

/-- What the Python strings are taken to do: `str()` of a value, `str.strip`, `str.lower`, and the
texts of `uuid.uuid4().hex` one after another, none of which comes twice. -/
structure PlanRuntime where
  str : Value → String
  strip : String → String
  lower : String → String
  uuid : ℕ → String
  uuid_injective : Function.Injective uuid

/-! ## Plans -/

inductive PlanStatus where
  | draft
  | committing
  | committed
  deriving DecidableEq

namespace PlanStatus

def text : PlanStatus → String
  | draft => "draft"
  | committing => "committing"
  | committed => "committed"

end PlanStatus

structure PlannedDimension where
  dimensionId : String
  kind : String
  geometry : JsonDict
  placement : JsonDict
  text : Option String
  metadata : JsonDict
  deriving DecidableEq

structure DimensionPlan where
  planId : String
  profileName : String
  target : JsonDict
  dimensions : List PlannedDimension
  createdAt : String
  revision : ℕ := 1
  status : PlanStatus := .draft
  nextDimensionNumber : ℕ := 1
  commitResult : Option JsonDict := none
  deriving DecidableEq

def DimensionPlan.ids (p : DimensionPlan) : List String :=
  p.dimensions.map PlannedDimension.dimensionId

/-- The D-number. -/
def dimensionNumber (number : ℕ) : String := "D" ++ Nat.repr number

/-- The limits of the constructor. -/
structure PlanLimits where
  maxPlans : ℕ
  maxDimensions : ℕ
  maxPlans_pos : 0 < maxPlans
  maxDimensions_pos : 0 < maxDimensions

section

variable (T : PlanRuntime)

/-- The entries of `names` that the candidate has, set over those of `into`. -/
def overlay (candidate : Mapping) (names : List String) (into : JsonDict) :
    Except PlanError JsonDict :=
  names.foldlM (fun into name =>
    match getItem candidate name with
    | none => .ok into
    | some value => (jsonValue value name).map (setItem into name)) into

/-- A field that has to be a mapping, empty where the candidate has none. -/
def mappingField (candidate : Mapping) (name : String) : Except PlanError Mapping :=
  match (getItem candidate name).getD (.mapping []) with
  | .mapping entries => .ok entries
  | _ => .error (.invalid (name ++ " must be an object"))

/-- `_make_dimension`. -/
def makeDimension (candidate : Mapping) (number : ℕ) : Except PlanError PlannedDimension := do
  let kind := T.lower (T.strip (T.str ((getItem candidate "kind").getD (.str ""))))
  check (kind ≠ "") (.invalid "Each planned dimension requires a kind")
  let geometryRaw ← mappingField candidate "geometry"
  let geometry ← jsonDict geometryRaw "geometry"
  let geometry ← overlay candidate ["entity_id", "p1", "p2", "center", "point"] geometry
  check (geometry ≠ []) (.invalid "Each planned dimension requires non-empty geometry")
  let placementRaw ← mappingField candidate "placement"
  let placement ← jsonDict placementRaw "placement"
  let placement ← overlay candidate ["base", "angle", "label_anchor"] placement
  let metadataRaw ← mappingField candidate "metadata"
  let text := (getItem candidate "text").getD .null
  let metadata ← jsonDict metadataRaw "metadata"
  return {
    dimensionId := dimensionNumber number
    kind
    geometry
    placement
    text := match text with
      | .null => none
      | value => some (T.str value)
    metadata }

/-- The candidates with the numbers from `number` on. -/
def makeDimensions : List Mapping → ℕ → Except PlanError (List PlannedDimension)
  | [], _ => .ok []
  | candidate :: rest, number => do
      let dimension ← makeDimension T candidate number
      let dimensions ← makeDimensions rest (number + 1)
      return dimension :: dimensions

variable (L : PlanLimits)

def checkCount (count : ℕ) : Except PlanError Unit :=
  check (count ≤ L.maxDimensions) (.invalid
    ("A dimension plan cannot exceed " ++ Nat.repr L.maxDimensions ++ " dimensions"))

/-! ## Creation -/

/-- The arguments of `create`: what `list(candidates)` gives or raises, and the time. -/
structure CreateArgs where
  candidates : Except PlanError (List Mapping)
  profileName : Value
  target : Option Mapping
  now : String

/-- The plan of `create`, with the id of the `drawn`-th `uuid`. -/
def newPlan (drawn : ℕ) (args : CreateArgs) : Except PlanError DimensionPlan := do
  let candidateList ← args.candidates
  checkCount L candidateList.length
  let dimensions ← makeDimensions T candidateList 1
  check (dimensions ≠ []) (.invalid "A dimension plan must contain at least one dimension")
  let target ← jsonDict (args.target.getD []) "target"
  let plan : DimensionPlan := {
    planId := "dplan_" ++ T.uuid drawn
    profileName := T.strip (T.str args.profileName)
    target
    dimensions
    createdAt := args.now
    nextDimensionNumber := 1 + candidateList.length }
  check (plan.profileName ≠ "") (.invalid "profile_name cannot be empty")
  return plan

/-! ## Revision -/

/-- The arguments of `revise`: what `set(remove_ids)` and `list(add_candidates)` give or raise. -/
structure ReviseArgs where
  planId : String
  expectedRevision : ℤ
  removeIds : Except PlanError (List String)
  placementOverrides : List (String × Mapping)
  addCandidates : Except PlanError (List Mapping)

def staleRevision (plan : DimensionPlan) (expected : ℤ) : PlanError :=
  .conflict ("Plan revision is " ++ Nat.repr plan.revision ++ ", not expected revision " ++
    expected.repr)

/-- `_ensure_editable`. -/
def ensureEditable (plan : DimensionPlan) (expectedRevision : ℤ) : Except PlanError Unit := do
  check (plan.status = .draft) (.conflict
    ("Only a draft dimension plan can be revised; current status is " ++ plan.status.text))
  check ((plan.revision : ℤ) = expectedRevision) (staleRevision plan expectedRevision)

/-- A dimension with the entries of its override over those of its placement. -/
def overridden (overrides : List (String × Mapping)) (dimension : PlannedDimension) :
    Except PlanError PlannedDimension :=
  match getItem overrides dimension.dimensionId with
  | none => .ok dimension
  | some override => do
      let entries ← jsonDict override ("placement override for " ++ dimension.dimensionId)
      return { dimension with
        placement := entries.foldl (fun d entry => setItem d entry.1 entry.2) dimension.placement }

/-- The dimensions that a revision keeps. -/
def keptDimensions (remove : List String) (overrides : List (String × Mapping)) :
    List PlannedDimension → Except PlanError (List PlannedDimension)
  | [] => .ok []
  | dimension :: rest =>
      if dimension.dimensionId ∈ remove then keptDimensions remove overrides rest
      else do
        let dimension ← overridden overrides dimension
        let kept ← keptDimensions remove overrides rest
        return dimension :: kept

/-- `revise`, after the plan is found. -/
def revisedPlan (plan : DimensionPlan) (args : ReviseArgs) : Except PlanError DimensionPlan := do
  ensureEditable plan args.expectedRevision
  let remove ← args.removeIds
  let unknownIds := ((remove ++ args.placementOverrides.map Prod.fst).filter
    (· ∉ plan.ids)).dedup
  check (unknownIds = []) (.invalid
    ("Unknown dimension IDs: " ++ ", ".intercalate (unknownIds.insertionSort (· ≤ ·))))
  let revised ← keptDimensions remove args.placementOverrides plan.dimensions
  let additions ← args.addCandidates
  checkCount L (revised.length + additions.length)
  let added ← makeDimensions T additions plan.nextDimensionNumber
  check (revised ++ added ≠ []) (.invalid
    "A dimension plan must retain at least one dimension")
  return { plan with
    dimensions := revised ++ added
    revision := plan.revision + 1
    nextDimensionNumber := plan.nextDimensionNumber + additions.length }

end

/-! ## The store -/

/-- `running` is the plan of the commit that holds the lock, as its executor got it. -/
structure PlanStore where
  plans : Table DimensionPlan.planId
  drawn : ℕ := 0
  running : Option DimensionPlan := none

namespace PlanStore

def init : PlanStore := { plans := .empty }

/-- `get`. -/
def get (s : PlanStore) (planId : String) : Except PlanError DimensionPlan :=
  match s.plans.get? planId with
  | some plan => .ok plan
  | none => .error (.notFound ("Unknown dimension plan: " ++ planId))

def put (s : PlanStore) (plan : DimensionPlan) : PlanStore := { s with plans := s.plans.put plan }

/-- `del self._plans[plan_id]`. -/
def erase (s : PlanStore) (planId : String) : PlanStore :=
  { s with plans := s.plans.deleteWhere (·.planId = planId) }

/-- The first committed plan in the order of creation. -/
def evictable (s : PlanStore) : Option DimensionPlan :=
  s.plans.rows.find? (·.status = .committed)

end PlanStore

/-- What a caller gets: the plan or `True` that a method returns, the exception that it raises, or
nothing yet. -/
inductive Reply where
  | returned (plan : DimensionPlan)
  | discarded
  | raised (error : PlanError)
  | running
  | waiting
  | idle
  deriving DecidableEq

inductive Call where
  | create (args : CreateArgs)
  | revise (args : ReviseArgs)
  | discard (planId : String)
  /-- A commit whose turn at the lock it is. -/
  | commit (planId : String) (expectedRevision : Option ℤ)
  /-- What the executor of the running commit returns or raises, cancellation included. -/
  | executed (result : Except PlanError Value)

section

variable (T : PlanRuntime) (L : PlanLimits) (s : PlanStore)

def slotsTaken : PlanError :=
  .invalid ("All in-process dimension plan slots contain active drafts; " ++
    "commit or discard a draft before creating another")

/-- `create`. -/
def create (args : CreateArgs) : Reply × PlanStore :=
  if L.maxPlans ≤ s.plans.rows.length then
    match s.evictable with
    | none => (.raised slotsTaken, s)
    | some old =>
        -- the old plan is gone from here on, whatever the arguments are
        match newPlan T L s.drawn args with
        | .error e => (.raised e, s.erase old.planId)
        | .ok plan => (.returned plan, { (s.erase old.planId).put plan with drawn := s.drawn + 1 })
  else
    match newPlan T L s.drawn args with
    | .error e => (.raised e, s)
    | .ok plan => (.returned plan, { s.put plan with drawn := s.drawn + 1 })

/-- `revise`. -/
def revise (args : ReviseArgs) : Reply × PlanStore :=
  match s.get args.planId >>= (revisedPlan T L · args) with
  | .error e => (.raised e, s)
  | .ok updated => (.returned updated, s.put updated)

/-- `discard`. -/
def discard (planId : String) : Reply × PlanStore :=
  match s.get planId with
  | .error e => (.raised e, s)
  | .ok plan =>
      if plan.status = .draft then (.discarded, s.erase planId)
      else (.raised (.conflict ("Only a draft dimension plan can be discarded; current status is " ++
        plan.status.text)), s)

/-- `commit`, up to the call of the executor. -/
def commit (planId : String) (expectedRevision : Option ℤ) : Reply × PlanStore :=
  if s.running.isSome then (.waiting, s)
  else
    match s.get planId with
    | .error e => (.raised e, s)
    | .ok plan =>
        match expectedRevision.filter (· ≠ (plan.revision : ℤ)) with
        | some expected => (.raised (staleRevision plan expected), s)
        | none =>
            match plan.status with
            | .committed => (.returned plan, s)
            | .committing => (.raised (.conflict
                ("Dimension plan " ++ planId ++ " is currently " ++ plan.status.text)), s)
            | .draft =>
                let committing := { plan with status := .committing }
                (.running, { s.put committing with running := some committing })

/-- The result of an executor, as `commit` takes it. -/
def commitResult : Value → Except PlanError JsonDict
  | .null => .ok []
  | .mapping entries => jsonDict entries "commit executor result"
  | _ => .error (.invalid "commit executor result must be an object")

/-- `commit`, from the end of the executor on. -/
def executed (result : Except PlanError Value) : Reply × PlanStore :=
  match s.running with
  | none => (.idle, s)
  | some committing =>
      match result >>= commitResult with
      | .error e =>
          (.raised e, { s.put { committing with status := .draft } with running := none })
      | .ok result =>
          let committed := { committing with status := .committed, commitResult := some result }
          (.returned committed, { s.put committed with running := none })

def respond : Call → Reply × PlanStore
  | .create args => create T L s args
  | .revise args => revise T L s args
  | .discard planId => discard s planId
  | .commit planId expectedRevision => commit s planId expectedRevision
  | .executed result => executed s result

def step (s : PlanStore) (call : Call) : PlanStore := (respond T L s call).2

def reply (s : PlanStore) (call : Call) : Reply := (respond T L s call).1

/-- The store after the calls of a history. -/
def after (calls : List Call) : PlanStore := runFrom (step T L) .init calls

end

end AutocadMcp.DimensionPlans
