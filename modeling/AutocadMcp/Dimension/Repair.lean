import AutocadMcp.Dimension.Audit

/-!
# Repairs

`repair_dimension_layout` goes through the issues of one report and deletes, changes or moves
dimensions as it meets them.
-/

namespace AutocadMcp.Dimension

open Plane

inductive RepairAction (K : Type) where
  | delete (issueId handle : String)
  | setLayer (issueId handle value : String)
  | setStyle (issueId handle value : String)
  | moveToNextLane (issueId handle : String) (delta : Point K)
  deriving DecidableEq

def RepairAction.issueId {K : Type} : RepairAction K → String
  | .delete issueId _ | .setLayer issueId _ _ | .setStyle issueId _ _ |
    .moveToNextLane issueId _ _ => issueId

/-- The handle that an action moves. -/
def RepairAction.movedHandle {K : Type} : RepairAction K → Option String
  | .moveToNextLane _ handle _ => some handle
  | _ => none

structure DimensionRepairResult (K : Type) where
  applied : Bool
  actions : List (RepairAction K)
  unresolvedIssueIds : List String
  deriving DecidableEq

/-! ## Changes of the modelspace -/

def Entity.mapDimension {K : Type} (f : DimensionEntity K → DimensionEntity K) :
    Entity K → Entity K
  | .dimension d => .dimension (f d)
  | e => e

def Entity.isDimension {K : Type} (handle : String) : Entity K → Bool
  | .dimension d => d.handle = handle
  | _ => false

/-- Assigns attributes of the dimension with a handle. -/
def changeDimension {K : Type} (handle : String) (f : DimensionEntity K → DimensionEntity K)
    (source : List (Entity K)) : List (Entity K) :=
  source.map fun e => e.mapDimension fun d => if d.handle = handle then f d else d

def deleteDimension {K : Type} (handle : String) (source : List (Entity K)) : List (Entity K) :=
  source.filter fun e => !e.isDimension handle

def dimensionAt {K : Type} (source : List (Entity K)) (handle : String) :
    Option (DimensionEntity K) :=
  (dimensionsOf source).find? fun d => d.handle = handle

/-- The loop's variables, with the modelspace. -/
structure RepairState (K : Type) where
  source : List (Entity K)
  actions : List (RepairAction K)
  resolved : List String
  moved : List String
  deleted : List String

def RepairState.act {K : Type} (s : RepairState K) (action : RepairAction K)
    (source : List (Entity K)) : RepairState K :=
  { s with
    source := source
    actions := s.actions ++ [action]
    resolved := s.resolved ++ [action.issueId] }

variable {K : Type} [Field K] [LinearOrder K]

/-- One lane away from the middle of the drawing. -/
def laneDelta (extents : Option (Segment K)) (laneSpacing : K) (d : DimensionEntity K)
    (base : Point K) : Point K :=
  if orientation d (1 / 10 ^ 6) = some .vertical then
    match extents with
    | some (low, high) =>
        if base.1 > (low.1 + high.1) / 2 then (1 * laneSpacing, 0) else (-1 * laneSpacing, 0)
    | none => (-1 * laneSpacing, 0)
  else
    match extents with
    | some (low, high) =>
        if base.2 > (low.2 + high.2) / 2 then (0, 1 * laneSpacing) else (0, -1 * laneSpacing)
    | none => (0, -1 * laneSpacing)

def shift (delta : Point K) (d : DimensionEntity K) : DimensionEntity K :=
  { d with
    defpoint := d.defpoint.map fun base => (base.1 + delta.1, base.2 + delta.2)
    textMidpoint := d.textMidpoint.map fun text => (text.1 + delta.1, text.2 + delta.2) }

/-- Other dimensions than linear and aligned ones are not moved. -/
def freelyMovable (d : DimensionEntity K) : Bool := d.dimtype % 16 = 0 ∨ d.dimtype % 16 = 1

/-! ## The loop -/

section

variable (audit : DimensionAuditReport K) (laneSpacing : K) (apply : Bool) (known : List String)

def deleteDuplicates (issueId : String) (delete : List String) (s : RepairState K) :
    RepairState K :=
  delete.foldl (fun s handle =>
    if handle ∈ known then
      { s.act (.delete issueId handle)
          (if apply then deleteDimension handle s.source else s.source) with
        deleted := s.deleted ++ [handle] }
    else s) s

def retouch (handle : String) (action : RepairAction K)
    (f : DimensionEntity K → DimensionEntity K) (s : RepairState K) : RepairState K :=
  if handle ∈ known ∧ handle ∉ s.deleted then
    s.act action (if apply then changeDimension handle f s.source else s.source)
  else s

def moveAside (issueId handle : String) (s : RepairState K) : RepairState K :=
  if handle ∈ s.moved ∨ handle ∈ s.deleted then s
  else
    match (if handle ∈ known then dimensionAt s.source handle else none) with
    | none => s
    | some d =>
        match d.defpoint with
        | none => s
        | some base =>
            if freelyMovable d then
              let delta := laneDelta audit.extents laneSpacing d base
              { s.act (.moveToNextLane issueId handle delta)
                  (if apply then changeDimension handle (shift delta) s.source else s.source) with
                moved := s.moved ++ [handle] }
            else s

def repairIssue (s : RepairState K) (issue : DimensionIssue K) : RepairState K :=
  if !issue.repairable then s
  else
    match issue.code with
    | .duplicateDimension =>
        match issue.data with
        | .duplicates _ delete => deleteDuplicates apply known issue.issueId delete s
        | _ => s
    | .wrongLayer =>
        match issue.dimensionHandles.head? with
        | some handle =>
            retouch apply known handle (.setLayer issue.issueId handle audit.expectedLayer)
              (fun d => { d with layer := audit.expectedLayer }) s
        | none => s
    | .wrongStyle =>
        match styleExpected audit.expectedStyle, issue.dimensionHandles.head? with
        | some style, some handle =>
            retouch apply known handle (.setStyle issue.issueId handle style)
              (fun d => { d with dimstyle := style }) s
        | _, _ => s
    | .textOverlap | .dimensionLineOverlap | .dimensionCrossesGeometry =>
        match issue.dimensionHandles.getLast? with
        | some handle => moveAside audit laneSpacing apply known issue.issueId handle s
        | none => s
    | _ => s

end

def laneSpacingOf (audit : DimensionAuditReport K) (spacing : Option K) : K :=
  spacing.getD <|
    match audit.extents with
    | some (low, high) => max (max (high.1 - low.1) (high.2 - low.2)) 1 * (45 / 1000)
    | none => 5

/-- The handles of `entities`. -/
def knownHandles {K : Type} (source : List (Entity K)) : List String :=
  ((dimensionsOf source).map DimensionEntity.handle).filter (· ≠ "")

/-- The result, with the modelspace after it; `recordInput` where some entities are JSON records. -/
def repairDimensionLayout (source : List (Entity K)) (audit : DimensionAuditReport K)
    (issueIds : Option (List String)) (spacing : Option K) (apply recordInput : Bool) :
    Except String (DimensionRepairResult K × List (Entity K)) :=
  if recordInput && apply then
    .error "JSON entity records support repair planning only; use apply=False"
  else
    let issues := audit.issues.filter fun issue =>
      match issueIds with
      | none => true
      | some selected => issue.issueId ∈ selected
    let laneSpacing := laneSpacingOf audit spacing
    if laneSpacing ≤ 0 then .error "spacing must be greater than zero"
    else
      let s := issues.foldl (repairIssue audit laneSpacing apply (knownHandles source))
        ⟨source, [], [], [], []⟩
      .ok (⟨apply, s.actions,
        (issues.filter fun issue => issue.issueId ∉ s.resolved).map DimensionIssue.issueId⟩,
        s.source)

/-! ## What the issues come to -/

/-- The handle whose layer an issue sets. -/
def layerTarget (issue : DimensionIssue K) : Option String :=
  if issue.repairable ∧ issue.code = .wrongLayer then issue.dimensionHandles.head? else none

def styleTarget (audit : DimensionAuditReport K) (issue : DimensionIssue K) : Option String :=
  if issue.repairable ∧ issue.code = .wrongStyle ∧ (styleExpected audit.expectedStyle).isSome then
    issue.dimensionHandles.head?
  else none

def isCrowding : IssueCode → Bool
  | .textOverlap | .dimensionLineOverlap | .dimensionCrossesGeometry => true
  | _ => false

/-- The handle that an issue asks to move. -/
def moveTarget (issue : DimensionIssue K) : Option String :=
  if issue.repairable ∧ isCrowding issue.code then issue.dimensionHandles.getLast? else none

/-- The handles that an issue asks to delete. -/
def doomedBy (issue : DimensionIssue K) : List String :=
  if issue.repairable ∧ issue.code = .duplicateDimension then
    match issue.data with
    | .duplicates _ delete => delete
    | _ => []
  else []

/-- What one issue can do. -/
inductive Step (audit : DimensionAuditReport K) (laneSpacing : K) (known : List String)
    (s : RepairState K) (issue : DimensionIssue K) : RepairState K → Prop
  | layer {handle : String} (htarget : layerTarget issue = some handle)
      (hstyle : styleTarget audit issue = none) (hmove : moveTarget issue = none)
      (hdoomed : doomedBy issue = []) :
      Step audit laneSpacing known s issue
        (retouch true known handle (.setLayer issue.issueId handle audit.expectedLayer)
          (fun d => { d with layer := audit.expectedLayer }) s)
  | style {handle style : String} (hlayer : layerTarget issue = none)
      (hexpected : styleExpected audit.expectedStyle = some style)
      (htarget : styleTarget audit issue = some handle) (hmove : moveTarget issue = none)
      (hdoomed : doomedBy issue = []) :
      Step audit laneSpacing known s issue
        (retouch true known handle (.setStyle issue.issueId handle style)
          (fun d => { d with dimstyle := style }) s)
  | move {handle : String} (hlayer : layerTarget issue = none)
      (hstyle : styleTarget audit issue = none) (htarget : moveTarget issue = some handle)
      (hdoomed : doomedBy issue = []) :
      Step audit laneSpacing known s issue
        (moveAside audit laneSpacing true known issue.issueId handle s)
  | delete (hlayer : layerTarget issue = none) (hstyle : styleTarget audit issue = none)
      (hmove : moveTarget issue = none) :
      Step audit laneSpacing known s issue
        (deleteDuplicates true known issue.issueId (doomedBy issue) s)

omit [Field K] [LinearOrder K] in
theorem deleteDuplicates_nil (known : List String) (issueId : String) (s : RepairState K) :
    deleteDuplicates true known issueId [] s = s := rfl

theorem repairIssue_step (audit : DimensionAuditReport K) (laneSpacing : K) (known : List String)
    (s : RepairState K) (issue : DimensionIssue K) : Step audit laneSpacing known s issue
      (repairIssue audit laneSpacing true known s issue) := by
  -- an issue that does nothing deletes an empty list
  have hidle : layerTarget issue = none → styleTarget audit issue = none →
      moveTarget issue = none → doomedBy issue = [] → Step audit laneSpacing known s issue s :=
    fun hlayer hstyle hmove hdoomed => by
      have hdelete : Step audit laneSpacing known s issue
          (deleteDuplicates true known issue.issueId (doomedBy issue) s) :=
        .delete hlayer hstyle hmove
      rwa [hdoomed, deleteDuplicates_nil] at hdelete
  unfold repairIssue
  by_cases hrepairable : issue.repairable = true
  · rw [hrepairable, Bool.not_true, if_neg Bool.false_ne_true]
    split
    · next hcode =>
        have hlayer : layerTarget issue = none := by simp [layerTarget, hcode]
        have hstyle : styleTarget audit issue = none := by simp [styleTarget, hcode]
        have hmove : moveTarget issue = none := by simp [moveTarget, hcode, isCrowding]
        split
        · next keep delete hdata =>
            have hdoomed : doomedBy issue = delete := by simp [doomedBy, hrepairable, hcode, hdata]
            exact hdoomed ▸ .delete hlayer hstyle hmove
        · next hdata =>
            refine hidle hlayer hstyle hmove ?_
            rw [doomedBy, if_pos ⟨hrepairable, hcode⟩]
            split
            · next hdata' => exact absurd hdata' (hdata _ _)
            · rfl
    · next hcode =>
        have hstyle : styleTarget audit issue = none := by simp [styleTarget, hcode]
        have hmove : moveTarget issue = none := by simp [moveTarget, hcode, isCrowding]
        have hdoomed : doomedBy issue = [] := by simp [doomedBy, hcode]
        have hlayer : layerTarget issue = issue.dimensionHandles.head? :=
          if_pos ⟨hrepairable, hcode⟩
        split
        · next handle hhead => exact .layer (hlayer.trans hhead) hstyle hmove hdoomed
        · next hhead => exact hidle (hlayer.trans hhead) hstyle hmove hdoomed
    · next hcode =>
        have hlayer : layerTarget issue = none := by simp [layerTarget, hcode]
        have hmove : moveTarget issue = none := by simp [moveTarget, hcode, isCrowding]
        have hdoomed : doomedBy issue = [] := by simp [doomedBy, hcode]
        split
        · next style handle hstyle hhead =>
            refine .style hlayer hstyle ?_ hmove hdoomed
            rw [styleTarget, if_pos ⟨hrepairable, hcode, by rw [hstyle]; rfl⟩, hhead]
        · next hnone =>
            refine hidle hlayer ?_ hmove hdoomed
            rw [styleTarget]
            split_ifs with hexpected
            · obtain ⟨style, hstyle⟩ := Option.isSome_iff_exists.mp hexpected.2.2
              rcases hhead : issue.dimensionHandles.head? with _ | handle
              · rfl
              · exact absurd hhead (hnone style handle hstyle)
            · rfl
    all_goals try
      next hcode =>
        have hlayer : layerTarget issue = none := by simp [layerTarget, hcode]
        have hstyle : styleTarget audit issue = none := by simp [styleTarget, hcode]
        have hdoomed : doomedBy issue = [] := by simp [doomedBy, hcode]
        have hmove : moveTarget issue = issue.dimensionHandles.getLast? :=
          if_pos ⟨hrepairable, by rw [hcode]; rfl⟩
        split
        · next handle hlast => exact .move hlayer hstyle (hmove.trans hlast) hdoomed
        · next hlast => exact hidle hlayer hstyle (hmove.trans hlast) hdoomed
    next hdup hlayer hstyle htext hline hcross =>
      refine hidle ?_ ?_ ?_ ?_
      · exact if_neg fun h => hlayer h.2
      · exact if_neg fun h => hstyle h.2.1
      · refine if_neg fun h => ?_
        cases hcode : issue.code <;> simp_all [isCrowding]
      · exact if_neg fun h => hdup h.2
  · rw [Bool.not_eq_true] at hrepairable
    rw [hrepairable, Bool.not_false, if_pos rfl]
    exact hidle (by simp [layerTarget, hrepairable]) (by simp [styleTarget, hrepairable])
      (by simp [moveTarget, hrepairable]) (by simp [doomedBy, hrepairable])

/-! ## The drawing in the loop -/

section

variable (audit : DimensionAuditReport K) (laneSpacing : K) (source : List (Entity K))

/-- How far a dimension is moved. -/
def lane (d : DimensionEntity K) : Point K :=
  match d.defpoint with
  | some base => laneDelta audit.extents laneSpacing d base
  | none => (0, 0)

/-- A dimension after the issues seen, with the moved handles. -/
def retouched (seen : List (DimensionIssue K)) (moved : List String) (d : DimensionEntity K) :
    DimensionEntity K :=
  let placed := if d.handle ∈ moved then shift (lane audit laneSpacing d) d else d
  { placed with
    layer :=
      if seen.any fun issue => layerTarget issue = some d.handle then audit.expectedLayer
      else d.layer
    dimstyle :=
      match styleExpected audit.expectedStyle with
      | some style =>
          if seen.any fun issue => styleTarget audit issue = some d.handle then style
          else d.dimstyle
      | none => d.dimstyle }

def redrawn (seen : List (DimensionIssue K)) (moved deleted : List String) :
    Entity K → Option (Entity K)
  | .dimension d =>
      if d.handle ∈ deleted then none
      else some (.dimension (retouched audit laneSpacing seen moved d))
  | e => some e

/-- Some dimension of the drawing with the handle can be moved. -/
def Movable (handle : String) : Prop :=
  ∃ d ∈ dimensionsOf source, d.handle = handle ∧ d.defpoint.isSome ∧ freelyMovable d

/-- An issue asked to move the handle that was not deleted by then. -/
def MovedBy (seen : List (DimensionIssue K)) (handle : String) : Prop :=
  ∃ before issue after, seen = before ++ issue :: after ∧ moveTarget issue = some handle ∧
    handle ∉ before.flatMap doomedBy ∧ Movable source handle

/-- The loop after the issues seen. -/
structure Progress (seen : List (DimensionIssue K)) (s : RepairState K) : Prop where
  drawn : s.source = source.filterMap (redrawn audit laneSpacing seen s.moved s.deleted)
  deleted : s.deleted = (seen.flatMap doomedBy).filter (· ∈ knownHandles source)
  moved : ∀ handle, handle ∈ s.moved ↔ MovedBy source seen handle
  once : s.moved.Nodup
  acted : ∀ id, id ∈ s.resolved ↔ ∃ action ∈ s.actions, action.issueId = id
  moves : s.actions.filterMap RepairAction.movedHandle = s.moved

end

section

variable {audit : DimensionAuditReport K} {laneSpacing : K} {source : List (Entity K)}
  {seen : List (DimensionIssue K)} {issue : DimensionIssue K} {s : RepairState K}

omit [Field K] [LinearOrder K] in
theorem mem_dimensionsOf {source : List (Entity K)} {d : DimensionEntity K} :
    d ∈ dimensionsOf source ↔ Entity.dimension d ∈ source := by
  rw [dimensionsOf, List.mem_filterMap]
  constructor
  · rintro ⟨e, he, hd⟩
    cases e with
    | dimension d' => cases hd; exact he
    | geometry g => cases hd
    | other dxftype handle => cases hd
  · intro hd
    exact ⟨_, hd, rfl⟩

@[simp] theorem retouched_handle (seen : List (DimensionIssue K)) (moved : List String)
    (d : DimensionEntity K) : (retouched audit laneSpacing seen moved d).handle = d.handle := by
  simp only [retouched]
  split_ifs <;> rfl

/-- One more issue sets the layer or the style of its target. -/
theorem retouched_snoc (seen : List (DimensionIssue K)) (issue : DimensionIssue K)
    (moved : List String) (d : DimensionEntity K) :
    retouched audit laneSpacing (seen ++ [issue]) moved d =
      { retouched audit laneSpacing seen moved d with
        layer :=
          if layerTarget issue = some d.handle then audit.expectedLayer
          else (retouched audit laneSpacing seen moved d).layer
        dimstyle :=
          match styleExpected audit.expectedStyle with
          | some style =>
              if styleTarget audit issue = some d.handle then style
              else (retouched audit laneSpacing seen moved d).dimstyle
          | none => (retouched audit laneSpacing seen moved d).dimstyle } := by
  simp only [retouched, List.any_append, List.any_cons, List.any_nil, Bool.or_false,
    Bool.or_eq_true, decide_eq_true_eq]
  congr 1
  · by_cases hissue : layerTarget issue = some d.handle <;> simp [hissue]
  · cases styleExpected audit.expectedStyle with
    | none => rfl
    | some style => by_cases hissue : styleTarget audit issue = some d.handle <;> simp [hissue]

theorem retouched_layer {handle : String} (htarget : layerTarget issue = some handle)
    (hstyle : styleTarget audit issue = none) (moved : List String) (d : DimensionEntity K) :
    retouched audit laneSpacing (seen ++ [issue]) moved d =
      if d.handle = handle then
        { retouched audit laneSpacing seen moved d with layer := audit.expectedLayer }
      else retouched audit laneSpacing seen moved d := by
  rw [retouched_snoc]
  by_cases hd : d.handle = handle
  · simp only [htarget, hstyle, hd, if_true]
    cases styleExpected audit.expectedStyle <;> rfl
  · simp only [htarget, hstyle, Option.some.injEq, Ne.symm hd, hd, if_false]
    cases styleExpected audit.expectedStyle <;> rfl

theorem retouched_style {handle style : String} (hlayer : layerTarget issue = none)
    (hexpected : styleExpected audit.expectedStyle = some style)
    (htarget : styleTarget audit issue = some handle) (moved : List String)
    (d : DimensionEntity K) : retouched audit laneSpacing (seen ++ [issue]) moved d =
      if d.handle = handle then { retouched audit laneSpacing seen moved d with dimstyle := style }
      else retouched audit laneSpacing seen moved d := by
  rw [retouched_snoc]
  by_cases hd : d.handle = handle
  · simp only [hexpected, htarget, hlayer, hd, if_true]
    rfl
  · simp only [hexpected, htarget, hlayer, Option.some.injEq, Ne.symm hd, hd, if_false]
    rfl

theorem retouched_other (hlayer : layerTarget issue = none) (hstyle : styleTarget audit issue = none)
    (moved : List String) (d : DimensionEntity K) :
    retouched audit laneSpacing (seen ++ [issue]) moved d =
      retouched audit laneSpacing seen moved d := by
  rw [retouched_snoc, hlayer, hstyle]
  cases styleExpected audit.expectedStyle <;> rfl

/-- Two ways to redraw are the same when they retouch the dimensions that are left alike. -/
theorem filterMap_redrawn_congr {seen' : List (DimensionIssue K)} {moved moved' deleted : List String}
    (h : ∀ d ∈ dimensionsOf source, d.handle ∉ deleted →
      retouched audit laneSpacing seen moved d = retouched audit laneSpacing seen' moved' d) :
    source.filterMap (redrawn audit laneSpacing seen moved deleted) =
      source.filterMap (redrawn audit laneSpacing seen' moved' deleted) := by
  refine List.filterMap_congr fun e he => ?_
  cases e with
  | dimension d =>
      simp only [redrawn]
      split_ifs with hdeleted
      · rfl
      · rw [h d (mem_dimensionsOf.mpr he) hdeleted]
  | geometry g => rfl
  | other dxftype handle => rfl

theorem changeDimension_redrawn {seen' : List (DimensionIssue K)}
    {moved moved' deleted : List String} {handle : String}
    {f : DimensionEntity K → DimensionEntity K}
    (h : ∀ d ∈ dimensionsOf source, d.handle ∉ deleted →
      (if d.handle = handle then f (retouched audit laneSpacing seen moved d)
        else retouched audit laneSpacing seen moved d) =
      retouched audit laneSpacing seen' moved' d) :
    changeDimension handle f (source.filterMap (redrawn audit laneSpacing seen moved deleted)) =
      source.filterMap (redrawn audit laneSpacing seen' moved' deleted) := by
  rw [changeDimension, List.map_filterMap]
  refine List.filterMap_congr fun e he => ?_
  cases e with
  | dimension d =>
      simp only [redrawn]
      split_ifs with hdeleted
      · rfl
      · rw [Option.map_some, Entity.mapDimension, retouched_handle, h d (mem_dimensionsOf.mpr he) hdeleted]
  | geometry g => rfl
  | other dxftype handle => rfl

theorem deleteDimension_redrawn {moved deleted : List String} {handle : String} :
    deleteDimension handle (source.filterMap (redrawn audit laneSpacing seen moved deleted)) =
      source.filterMap (redrawn audit laneSpacing seen moved (deleted ++ [handle])) := by
  rw [deleteDimension, List.filter_filterMap]
  refine List.filterMap_congr fun e _ => ?_
  cases e with
  | dimension d =>
      simp only [redrawn, List.mem_append, List.mem_singleton]
      by_cases hdeleted : d.handle ∈ deleted
      · rw [if_pos hdeleted, if_pos (Or.inl hdeleted)]
        rfl
      · by_cases hd : d.handle = handle
        · rw [if_neg hdeleted, if_pos (Or.inr hd)]
          simp [Option.filter, Entity.isDimension, hd]
        · rw [if_neg hdeleted, if_neg (by tauto)]
          simp [Option.filter, Entity.isDimension, hd]
  | geometry g => rfl
  | other dxftype handle => rfl

theorem dimensionsOf_redrawn (source : List (Entity K)) (moved deleted : List String) :
    dimensionsOf (source.filterMap (redrawn audit laneSpacing seen moved deleted)) =
      ((dimensionsOf source).filter fun d => d.handle ∉ deleted).map
        (retouched audit laneSpacing seen moved) := by
  induction source with
  | nil => rfl
  | cons e source ih =>
      cases e with
      | dimension d =>
          have hcons : dimensionsOf (.dimension d :: source) = d :: dimensionsOf source := rfl
          rw [hcons]
          by_cases hdeleted : d.handle ∈ deleted
          · have hnone : redrawn audit laneSpacing seen moved deleted (.dimension d) = none :=
              if_pos hdeleted
            rw [List.filterMap_cons_none hnone, ih,
              List.filter_cons_of_neg (by simpa using hdeleted)]
          · have hsome : redrawn audit laneSpacing seen moved deleted (.dimension d) =
                some (.dimension (retouched audit laneSpacing seen moved d)) := if_neg hdeleted
            rw [List.filterMap_cons_some hsome,
              List.filter_cons_of_pos (by simpa using hdeleted), List.map_cons, ← ih]
            rfl
      | geometry g => exact ih
      | other dxftype handle => exact ih

/-- Under its handle stands a dimension as the issues left it. -/
theorem dimensionAt_redrawn (hdistinct : ((dimensionsOf source).map DimensionEntity.handle).Nodup)
    {moved deleted : List String} {d : DimensionEntity K} (hd : d ∈ dimensionsOf source)
    (hleft : d.handle ∉ deleted) :
    dimensionAt (source.filterMap (redrawn audit laneSpacing seen moved deleted)) d.handle =
      some (retouched audit laneSpacing seen moved d) := by
  rw [dimensionAt, dimensionsOf_redrawn]
  have hmem : retouched audit laneSpacing seen moved d ∈
      ((dimensionsOf source).filter fun d => d.handle ∉ deleted).map
        (retouched audit laneSpacing seen moved) :=
    List.mem_map_of_mem (List.mem_filter.mpr ⟨hd, by simpa using hleft⟩)
  rcases hfind : List.find? (fun x : DimensionEntity K => decide (x.handle = d.handle))
      (((dimensionsOf source).filter fun d => d.handle ∉ deleted).map
        (retouched audit laneSpacing seen moved)) with _ | x
  · have := List.find?_eq_none.mp hfind _ hmem
    simp at this
  · obtain ⟨d', hd', rfl⟩ := List.mem_map.mp (List.mem_of_find?_eq_some hfind)
    have hsame := List.find?_some hfind
    rw [decide_eq_true_eq, retouched_handle] at hsame
    rw [hfind, List.inj_on_of_nodup_map hdistinct (List.mem_filter.mp hd').1 hd hsame]

omit [Field K] [LinearOrder K] in
theorem mem_knownHandles (hnamed : ∀ d ∈ dimensionsOf source, d.handle ≠ "")
    {d : DimensionEntity K} (hd : d ∈ dimensionsOf source) : d.handle ∈ knownHandles source :=
  List.mem_filter.mpr ⟨List.mem_map_of_mem hd, decide_eq_true (hnamed d hd)⟩

omit [Field K] [LinearOrder K] in
theorem movedBy_snoc {handle : String} : MovedBy source (seen ++ [issue]) handle ↔
    MovedBy source seen handle ∨ moveTarget issue = some handle ∧
      handle ∉ seen.flatMap doomedBy ∧ Movable source handle := by
  constructor
  · rintro ⟨before, issue', after, hsplit, htarget, hleft, hmovable⟩
    rcases List.eq_nil_or_concat after with rfl | ⟨after, last, rfl⟩
    · obtain ⟨rfl, heq⟩ := List.append_inj' hsplit rfl
      cases heq
      exact Or.inr ⟨htarget, hleft, hmovable⟩
    · rw [List.concat_eq_append, ← List.cons_append, ← List.append_assoc] at hsplit
      obtain ⟨hseen, -⟩ := List.append_inj' hsplit rfl
      exact Or.inl ⟨before, issue', after, hseen, htarget, hleft, hmovable⟩
  · rintro (⟨before, issue', after, rfl, htarget, hleft, hmovable⟩ | ⟨htarget, hleft, hmovable⟩)
    · exact ⟨before, issue', after ++ [issue], by simp, htarget, hleft, hmovable⟩
    · exact ⟨seen, issue, [], rfl, htarget, hleft, hmovable⟩

theorem progress_start : Progress audit laneSpacing source [] ⟨source, [], [], [], []⟩ where
  drawn := by
    have hsame : redrawn audit laneSpacing [] [] [] = some := by
      funext e
      cases e with
      | dimension d =>
          simp only [redrawn, retouched, List.not_mem_nil, if_false, List.any_nil]
          cases styleExpected audit.expectedStyle <;> rfl
      | geometry g => rfl
      | other dxftype handle => rfl
    rw [hsame, List.filterMap_some]
  deleted := rfl
  moved handle := by
    refine ⟨fun h => absurd h (List.not_mem_nil), ?_⟩
    rintro ⟨before, issue, after, hsplit, -⟩
    simp at hsplit
  once := List.nodup_nil
  acted id := by simp
  moves := rfl

omit [Field K] [LinearOrder K] in
theorem acted_act {s : RepairState K} (h : ∀ id, id ∈ s.resolved ↔ ∃ action ∈ s.actions,
    action.issueId = id) (action : RepairAction K) (source : List (Entity K)) (id : String) :
    id ∈ (s.act action source).resolved ↔
      ∃ action' ∈ (s.act action source).actions, action'.issueId = id := by
  show id ∈ s.resolved ++ [action.issueId] ↔ ∃ action' ∈ s.actions ++ [action], action'.issueId = id
  rw [List.mem_append, List.mem_singleton, h id]
  constructor
  · rintro (⟨action', haction', hid⟩ | rfl)
    · exact ⟨action', List.mem_append_left _ haction', hid⟩
    · exact ⟨action, by simp, rfl⟩
  · rintro ⟨action', haction', hid⟩
    rcases List.mem_append.mp haction' with hold | hnew
    · exact Or.inl ⟨action', hold, hid⟩
    · exact Or.inr (List.mem_singleton.mp hnew ▸ hid.symm)

/-- Setting an attribute of the target of an issue that only asks for that. -/
theorem Progress.retouch (hnamed : ∀ d ∈ dimensionsOf source, d.handle ≠ "")
    (h : Progress audit laneSpacing source seen s) {handle : String} {action : RepairAction K}
    {f : DimensionEntity K → DimensionEntity K} (haction : action.movedHandle = none)
    (hmove : moveTarget issue = none) (hdoomed : doomedBy issue = [])
    (hf : ∀ d ∈ dimensionsOf source, d.handle ∉ s.deleted →
      (if d.handle = handle then f (retouched audit laneSpacing seen s.moved d)
        else retouched audit laneSpacing seen s.moved d) =
      retouched audit laneSpacing (seen ++ [issue]) s.moved d) :
    Progress audit laneSpacing source (seen ++ [issue])
      (retouch true (knownHandles source) handle action f s) := by
  have hdeleted : s.deleted =
      ((seen ++ [issue]).flatMap doomedBy).filter (· ∈ knownHandles source) := by
    simpa [hdoomed] using h.deleted
  have hmoved : ∀ handle, handle ∈ s.moved ↔ MovedBy source (seen ++ [issue]) handle :=
    fun handle => by simp [h.moved, movedBy_snoc, hmove]
  unfold Dimension.retouch
  by_cases hguard : handle ∈ knownHandles source ∧ handle ∉ s.deleted
  · rw [if_pos hguard]
    refine ⟨?_, hdeleted, hmoved, h.once, acted_act h.acted action _, ?_⟩
    · show changeDimension handle f s.source = _
      rw [h.drawn, changeDimension_redrawn hf]
      rfl
    · show (s.actions ++ [action]).filterMap RepairAction.movedHandle = s.moved
      rw [List.filterMap_append, List.filterMap_cons_none haction, List.filterMap_nil,
        List.append_nil, h.moves]
  · rw [if_neg hguard]
    refine ⟨h.drawn.trans (filterMap_redrawn_congr fun d hd hleft => ?_), hdeleted, hmoved, h.once,
      h.acted, h.moves⟩
    have hother : d.handle ≠ handle := by
      rintro rfl
      exact hguard ⟨mem_knownHandles hnamed hd, hleft⟩
    have := hf d hd hleft
    rwa [if_neg hother] at this

/-- Moving the target of an issue that only asks for that. -/
theorem Progress.moveAside (hdistinct : ((dimensionsOf source).map DimensionEntity.handle).Nodup)
    (hnamed : ∀ d ∈ dimensionsOf source, d.handle ≠ "")
    (h : Progress audit laneSpacing source seen s) {handle : String}
    (hlayer : layerTarget issue = none) (hstyle : styleTarget audit issue = none)
    (htarget : moveTarget issue = some handle) (hdoomed : doomedBy issue = []) :
    Progress audit laneSpacing source (seen ++ [issue])
      (moveAside audit laneSpacing true (knownHandles source) issue.issueId handle s) := by
  have hdeleted : s.deleted =
      ((seen ++ [issue]).flatMap doomedBy).filter (· ∈ knownHandles source) := by
    simpa [hdoomed] using h.deleted
  have hsame : ∀ moved d, retouched audit laneSpacing (seen ++ [issue]) moved d =
      retouched audit laneSpacing seen moved d := retouched_other hlayer hstyle
  -- an issue that leaves the drawing as it is had nothing to move
  have hskip : (handle ∉ seen.flatMap doomedBy → Movable source handle → handle ∈ s.moved) →
      Progress audit laneSpacing source (seen ++ [issue]) s := fun hnothing => by
    refine ⟨h.drawn.trans (filterMap_redrawn_congr fun d _ _ => (hsame _ d).symm), hdeleted, ?_,
      h.once, h.acted, h.moves⟩
    intro other
    rw [movedBy_snoc, htarget, Option.some.injEq, ← h.moved other]
    refine ⟨Or.inl, ?_⟩
    rintro (hmoved | ⟨rfl, hleft, hmovable⟩)
    · exact hmoved
    · exact hnothing hleft hmovable
  unfold Dimension.moveAside
  by_cases hdone : handle ∈ s.moved ∨ handle ∈ s.deleted
  · rw [if_pos hdone]
    refine hskip fun hleft _ => hdone.resolve_right fun hdel => hleft ?_
    rw [h.deleted] at hdel
    exact (List.mem_filter.mp hdel).1
  rw [if_neg hdone]
  by_cases hknown : handle ∈ knownHandles source
  · rw [if_pos hknown]
    rw [not_or] at hdone
    have hat : ∀ d ∈ dimensionsOf source, d.handle = handle → dimensionAt s.source handle =
        some (retouched audit laneSpacing seen s.moved d) := by
      rintro d hd rfl
      rw [h.drawn]
      exact dimensionAt_redrawn hdistinct hd hdone.2
    obtain ⟨d, hd, rfl⟩ := List.mem_map.mp (List.mem_filter.mp hknown).1
    have hplace : (retouched audit laneSpacing seen s.moved d).defpoint = d.defpoint ∧
        freelyMovable (retouched audit laneSpacing seen s.moved d) = freelyMovable d := by
      simp only [retouched, if_neg hdone.1, freelyMovable, and_self]
    have honly : ∀ hmovable : Movable source d.handle, d.defpoint.isSome ∧ freelyMovable d := by
      rintro ⟨d', hd', hhandle, hbase, hfree⟩
      rw [List.inj_on_of_nodup_map hdistinct hd' hd hhandle] at hbase hfree
      exact ⟨hbase, hfree⟩
    rw [hat d hd rfl]
    dsimp only
    rw [hplace.1]
    rcases hbase : d.defpoint with _ | base
    · refine hskip fun _ hmovable => ?_
      have := (honly hmovable).1
      rw [hbase] at this
      cases this
    · dsimp only
      rw [hplace.2]
      by_cases hfree : freelyMovable d = true
      · rw [if_pos hfree]
        have hdelta : laneDelta audit.extents laneSpacing
            (retouched audit laneSpacing seen s.moved d) base = lane audit laneSpacing d := by
          simp only [retouched, if_neg hdone.1, lane, hbase]
          rfl
        rw [hdelta]
        refine ⟨?_, hdeleted, ?_, ?_, acted_act h.acted _ s.source, ?_⟩
        · show changeDimension d.handle (shift (lane audit laneSpacing d)) s.source =
            source.filterMap (redrawn audit laneSpacing (seen ++ [issue]) (s.moved ++ [d.handle])
              s.deleted)
          rw [h.drawn]
          refine changeDimension_redrawn fun d' hd' _ => ?_
          rw [hsame]
          by_cases hhandle : d'.handle = d.handle
          · have heq : d' = d := List.inj_on_of_nodup_map hdistinct hd' hd hhandle
            subst heq
            have hnew : d'.handle ∈ s.moved ++ [d'.handle] := by simp
            simp only [if_pos, retouched, if_neg hdone.1, if_pos hnew, shift]
          · have hold : d'.handle ∈ s.moved ++ [d.handle] ↔ d'.handle ∈ s.moved := by
              simp [hhandle]
            rw [if_neg hhandle]
            simp only [retouched, hold]
        · intro other
          rw [movedBy_snoc, htarget, Option.some.injEq, ← h.moved other, List.mem_append,
            List.mem_singleton]
          constructor
          · rintro (hmoved | rfl)
            · exact Or.inl hmoved
            · refine Or.inr ⟨rfl, fun hdel => hdone.2 ?_, d, hd, rfl, by rw [hbase]; rfl, hfree⟩
              rw [h.deleted]
              exact List.mem_filter.mpr ⟨hdel, decide_eq_true hknown⟩
          · rintro (hmoved | ⟨rfl, -, -⟩)
            · exact Or.inl hmoved
            · exact Or.inr rfl
        · exact List.nodup_append.mpr ⟨h.once, List.nodup_singleton _, by
            rintro a ha b hb rfl
            exact hdone.1 (List.mem_singleton.mp hb ▸ ha)⟩
        · show (s.actions ++ [_]).filterMap RepairAction.movedHandle = s.moved ++ [d.handle]
          rw [List.filterMap_append, h.moves]
          rfl
      · rw [if_neg hfree]
        exact hskip fun _ hmovable => absurd (honly hmovable).2 hfree
  · rw [if_neg hknown]
    refine hskip ?_
    rintro - ⟨d, hd, rfl, -⟩
    exact absurd (mem_knownHandles hnamed hd) hknown

/-- Deleting the handles of a list that are known. -/
theorem deleteDuplicates_spec (issueId : String) (delete : List String)
    (hdrawn : s.source = source.filterMap (redrawn audit laneSpacing seen s.moved s.deleted))
    (hacted : ∀ id, id ∈ s.resolved ↔ ∃ action ∈ s.actions, action.issueId = id)
    (hmoves : s.actions.filterMap RepairAction.movedHandle = s.moved) {s' : RepairState K}
    (hs' : deleteDuplicates true (knownHandles source) issueId delete s = s') :
    s'.source = source.filterMap (redrawn audit laneSpacing seen s'.moved s'.deleted) ∧
      s'.deleted = s.deleted ++ delete.filter (· ∈ knownHandles source) ∧ s'.moved = s.moved ∧
      (∀ id, id ∈ s'.resolved ↔ ∃ action ∈ s'.actions, action.issueId = id) ∧
      s'.actions.filterMap RepairAction.movedHandle = s'.moved := by
  induction delete generalizing s with
  | nil =>
      cases hs'
      exact ⟨hdrawn, (List.append_nil _).symm, rfl, hacted, hmoves⟩
  | cons handle delete ih =>
      by_cases hknown : handle ∈ knownHandles source
      · rw [deleteDuplicates, List.foldl_cons, if_pos hknown, ← deleteDuplicates] at hs'
        have hdrawn₁ : deleteDimension handle s.source = source.filterMap
            (redrawn audit laneSpacing seen s.moved (s.deleted ++ [handle])) := by
          rw [hdrawn, deleteDimension_redrawn]
        have hmoves₁ : (s.actions ++ [RepairAction.delete issueId handle]).filterMap
            RepairAction.movedHandle = s.moved := by
          rw [List.filterMap_append, hmoves]
          exact List.append_nil _
        obtain ⟨hdrawn', hdeleted', hmoved', hacted', hmoves'⟩ :=
          @ih { s.act (.delete issueId handle) (deleteDimension handle s.source) with
            deleted := s.deleted ++ [handle] } hdrawn₁
              (acted_act hacted (.delete issueId handle) (deleteDimension handle s.source)) hmoves₁
              hs'
        refine ⟨hdrawn', ?_, hmoved', hacted', hmoves'⟩
        rw [hdeleted', List.filter_cons_of_pos (by simpa using hknown)]
        exact List.append_assoc _ _ _
      · rw [deleteDuplicates, List.foldl_cons, if_neg hknown, ← deleteDuplicates] at hs'
        obtain ⟨hdrawn', hdeleted', hmoved', hacted', hmoves'⟩ := ih hdrawn hacted hmoves hs'
        refine ⟨hdrawn', ?_, hmoved', hacted', hmoves'⟩
        rw [hdeleted', List.filter_cons_of_neg (by simpa using hknown)]

/-- One issue. -/
theorem Progress.step (hdistinct : ((dimensionsOf source).map DimensionEntity.handle).Nodup)
    (hnamed : ∀ d ∈ dimensionsOf source, d.handle ≠ "")
    (h : Progress audit laneSpacing source seen s) (issue : DimensionIssue K) :
    Progress audit laneSpacing source (seen ++ [issue])
      (repairIssue audit laneSpacing true (knownHandles source) s issue) := by
  have hstep := repairIssue_step audit laneSpacing (knownHandles source) s issue
  generalize repairIssue audit laneSpacing true (knownHandles source) s issue = s' at hstep ⊢
  cases hstep with
  | @layer handle htarget hstyle hmove hdoomed =>
      exact h.retouch hnamed rfl hmove hdoomed fun d _ _ =>
        (retouched_layer htarget hstyle s.moved d).symm
  | @style handle style hlayer hexpected htarget hmove hdoomed =>
      exact h.retouch hnamed rfl hmove hdoomed fun d _ _ =>
        (retouched_style hlayer hexpected htarget s.moved d).symm
  | move hlayer hstyle htarget hdoomed =>
      exact h.moveAside hdistinct hnamed hlayer hstyle htarget hdoomed
  | delete hlayer hstyle hmove =>
      obtain ⟨hdrawn, hdeleted, hmoved, hacted, hmoves⟩ :=
        deleteDuplicates_spec issue.issueId (doomedBy issue) h.drawn h.acted h.moves rfl
      refine ⟨hdrawn.trans (filterMap_redrawn_congr fun d _ _ =>
        (retouched_other hlayer hstyle _ d).symm), ?_, ?_, hmoved ▸ h.once, hacted, hmoves⟩
      · rw [hdeleted, h.deleted]
        simp
      · intro handle
        rw [hmoved, h.moved, movedBy_snoc, hmove]
        simp

/-- The whole loop. -/
theorem progress_foldl (hdistinct : ((dimensionsOf source).map DimensionEntity.handle).Nodup)
    (hnamed : ∀ d ∈ dimensionsOf source, d.handle ≠ "") (issues : List (DimensionIssue K)) :
    Progress audit laneSpacing source issues
      (issues.foldl (repairIssue audit laneSpacing true (knownHandles source))
        ⟨source, [], [], [], []⟩) := by
  induction issues using List.reverseRecOn with
  | nil => exact progress_start
  | append_singleton issues issue ih =>
      rw [List.foldl_append]
      exact ih.step hdistinct hnamed issue

end

end AutocadMcp.Dimension
