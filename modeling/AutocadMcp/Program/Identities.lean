import Mathlib.Tactic.IntervalCases
import AutocadMcp.Program.Compile

/-!
# The identities of expanded operations

The ids of a source are unique, and each repetition appends a suffix of its own,
but an id may already end in such a suffix, and the expanded ids are not compared
again. They are unique exactly when no operation that is not repeated has an id
that a repeat makes.
-/

namespace AutocadMcp.Program

/-! ## Suffixes -/

theorem digitChar_inj {a b : Nat} (ha : a < 10) (hb : b < 10) (h : Nat.digitChar a = Nat.digitChar b) :
    a = b := by
  revert h
  interval_cases a <;> interval_cases b <;> decide

theorem digitChar_ne_dot {a : Nat} (ha : a < 10) : Nat.digitChar a ≠ '.' := by
  interval_cases a <;> decide

theorem pad3_toList (n : Nat) : (pad3 n).toList =
    [Nat.digitChar (n / 100 % 10), Nat.digitChar (n / 10 % 10), Nat.digitChar (n % 10)] :=
  String.toList_ofList

theorem pad3_inj {a b : Nat} (ha : a < 1000) (hb : b < 1000) (h : pad3 a = pad3 b) : a = b := by
  have hlist := congrArg String.toList h
  rw [pad3_toList, pad3_toList] at hlist
  simp only [List.cons.injEq, and_true] at hlist
  have hhundreds := digitChar_inj (Nat.mod_lt _ (by omega)) (Nat.mod_lt _ (by omega)) hlist.1
  have htens := digitChar_inj (Nat.mod_lt _ (by omega)) (Nat.mod_lt _ (by omega)) hlist.2.1
  have hones := digitChar_inj (Nat.mod_lt _ (by omega)) (Nat.mod_lt _ (by omega)) hlist.2.2
  omega

/-- Texts with ends of one length are equal only where their ends are. -/
theorem append_inj_of_length {a b s t : String} (h : a ++ s = b ++ t)
    (hlength : s.toList.length = t.toList.length) : a = b ∧ s = t := by
  have hlist := congrArg String.toList h
  rw [String.toList_append, String.toList_append] at hlist
  obtain ⟨ha, hs⟩ := List.append_inj' hlist hlength
  exact ⟨String.toList_injective ha, String.toList_injective hs⟩

/-- The suffixes of one direction: a letter and a number. -/
def singleSuffix (letter : Char) (n : Nat) : String := String.ofList ['.', letter] ++ pad3 n

theorem linearSuffix_eq (n : Nat) : linearSuffix n = singleSuffix 'l' n := rfl

theorem polarSuffix_eq (n : Nat) : polarSuffix n = singleSuffix 'p' n := rfl

theorem singleSuffix_toList (letter : Char) (n : Nat) :
    (singleSuffix letter n).toList = '.' :: letter :: (pad3 n).toList := by
  rw [singleSuffix, String.toList_append, String.toList_ofList]
  rfl

theorem rectangularSuffix_toList (r c : Nat) :
    (rectangularSuffix r c).toList = '.' :: 'r' :: (pad3 r).toList ++ 'c' :: (pad3 c).toList := by
  rw [rectangularSuffix, String.toList_append, String.toList_append, String.toList_append]
  simp

theorem singleSuffix_length (letter : Char) (n : Nat) :
    (singleSuffix letter n).toList.length = 5 := by
  rw [singleSuffix_toList, pad3_toList]
  rfl

theorem rectangularSuffix_length (r c : Nat) : (rectangularSuffix r c).toList.length = 9 := by
  rw [rectangularSuffix_toList, pad3_toList, pad3_toList]
  rfl

theorem singleSuffix_inj {letter : Char} {a b : Nat} (ha : a < 1000) (hb : b < 1000)
    (h : singleSuffix letter a = singleSuffix letter b) : a = b := by
  refine pad3_inj ha hb (append_inj_of_length h ?_).2
  rw [pad3_toList, pad3_toList]
  rfl

theorem rectangularSuffix_inj {r c r' c' : Nat} (hr : r < 1000) (hc : c < 1000) (hr' : r' < 1000)
    (hc' : c' < 1000) (h : rectangularSuffix r c = rectangularSuffix r' c') : r = r' ∧ c = c' := by
  have hlength : ∀ n m : Nat, (pad3 n).toList.length = (pad3 m).toList.length := by
    intro n m
    rw [pad3_toList, pad3_toList]
    rfl
  obtain ⟨hrow, hcolumn⟩ := append_inj_of_length h (hlength c c')
  obtain ⟨hrow, -⟩ := append_inj_of_length hrow rfl
  exact ⟨pad3_inj hr hr' (append_inj_of_length hrow (hlength r r')).2, pad3_inj hc hc' hcolumn⟩

/-- A text that ends in the suffix of one direction does not end in one of two: where the shorter
has its dot, the longer has a digit. -/
theorem single_ne_rectangular {a b : String} {letter : Char} {n r c : Nat} :
    a ++ singleSuffix letter n ≠ b ++ rectangularSuffix r c := by
  intro h
  have hsplit : rectangularSuffix r c = String.ofList ['.', 'r', Nat.digitChar (r / 100 % 10),
      Nat.digitChar (r / 10 % 10)] ++
        String.ofList (Nat.digitChar (r % 10) :: 'c' :: (pad3 c).toList) := by
    apply String.toList_injective
    rw [rectangularSuffix_toList, String.toList_append, String.toList_ofList, String.toList_ofList,
      pad3_toList r]
    rfl
  rw [hsplit, ← String.append_assoc] at h
  have hend := (append_inj_of_length h (by
    rw [singleSuffix_length, String.toList_ofList, pad3_toList]
    rfl)).2
  have hlist := congrArg String.toList hend
  rw [singleSuffix_toList, String.toList_ofList] at hlist
  exact digitChar_ne_dot (Nat.mod_lt _ (by omega)) (List.cons.inj hlist).1.symm

/-! ## What a repeat appends -/

/-- The number of repetitions that a count stands for. -/
def repeatCount (env : Environment) (count : Expression) : Nat :=
  match expect count .integer env 0 with
  | .ok value => countOf value
  | .error _ => 0

/-- The suffixes that a repeat appends to the id of its operation. -/
def addedSuffixes (env : Environment) : Option RepeatSpec → List String
  | none => [""]
  | some (.linear count _) => (List.range (repeatCount env count)).map linearSuffix
  | some (.rectangular rows columns _ _) =>
      (List.range (repeatCount env rows)).flatMap fun r =>
        (List.range (repeatCount env columns)).map fun c => rectangularSuffix r c
  | some (.polar count _ _) => (List.range (repeatCount env count)).map polarSuffix

def SourceOperation.expandedIds (env : Environment) (o : SourceOperation) : List String :=
  (addedSuffixes env o.repeated).map (o.operationId ++ ·)

theorem repeatCount_eq {env : Environment} {count : Expression} {value : Rat}
    (h : expect count .integer env 0 = .ok value) : repeatCount env count = countOf value := by
  rw [repeatCount, h]

theorem countOf_le {value : Rat} {bound : Nat} (h : value ≤ bound) : countOf value ≤ bound := by
  have hfloor : ⌊value⌋ ≤ (bound : Int) := by
    have := Int.floor_mono h
    rwa [Int.floor_natCast] at this
  rw [countOf]
  omega

/-- The repetitions carry the suffixes in order, and each count stays below a thousand, so that its
three digits show it. -/
structure Expands (env : Environment) (spec : Option RepeatSpec) (repetitions : List Repetition) :
    Prop where
  suffixes : repetitions.map Repetition.suffix = addedSuffixes env spec
  nodup : (addedSuffixes env spec).Nodup

theorem nodup_map_range {f : Nat → String} {n : Nat} (hn : n ≤ 1000)
    (hf : ∀ a b, a < 1000 → b < 1000 → f a = f b → a = b) : ((List.range n).map f).Nodup := by
  refine List.Nodup.map_on ?_ List.nodup_range
  intro a ha b hb hab
  rw [List.mem_range] at ha hb
  exact hf a b (by omega) (by omega) hab

theorem nodup_rectangular {rows columns : Nat} (hr : rows ≤ 1000) (hc : columns ≤ 1000) :
    ((List.range rows).flatMap fun r =>
      (List.range columns).map fun c => rectangularSuffix r c).Nodup := by
  rw [List.nodup_flatMap]
  constructor
  · intro r hrow
    rw [List.mem_range] at hrow
    refine nodup_map_range hc fun a b ha hb hab => ?_
    exact (rectangularSuffix_inj (by omega) ha (by omega) hb hab).2
  · -- suffixes of two rows differ in the digits of the row
    refine List.Pairwise.imp_of_mem ?_ List.nodup_range
    intro r r' hrow hrow' hne
    rw [List.mem_range] at hrow hrow'
    rw [Function.onFun, List.disjoint_left]
    intro s hs hs'
    obtain ⟨c, hc', rfl⟩ := List.mem_map.mp hs
    obtain ⟨c', hc'', heq⟩ := List.mem_map.mp hs'
    rw [List.mem_range] at hc' hc''
    exact hne (rectangularSuffix_inj (by omega) (by omega) (by omega) (by omega) heq).1.symm

theorem repeatTransforms_expands {env : Environment} {spec : Option RepeatSpec}
    {repetitions : List Repetition} (h : repeatTransforms env spec = .ok repetitions) :
    Expands env spec repetitions := by
  rcases spec with _ | (⟨count, offset⟩ | ⟨rows, columns, rowOffset, columnOffset⟩ |
    ⟨count, center, totalAngle⟩)
  · cases h
    exact ⟨rfl, List.nodup_singleton _⟩
  · -- linear
    obtain ⟨value, hvalue, h⟩ := bind_eq_ok.mp h
    obtain ⟨_, hbound, h⟩ := bind_eq_ok.mp h
    obtain ⟨_, -, h⟩ := bind_eq_ok.mp h
    have hle := countOf_le (check_eq_ok.mp hbound).2
    cases h
    constructor
    · simp [addedSuffixes, repeatCount_eq hvalue]
    · rw [addedSuffixes, repeatCount_eq hvalue]
      exact nodup_map_range (le_trans hle (by decide)) fun a b => singleSuffix_inj
  · -- rectangular: neither count exceeds the product
    obtain ⟨rowsValue, hrows, h⟩ := bind_eq_ok.mp h
    obtain ⟨columnsValue, hcolumns, h⟩ := bind_eq_ok.mp h
    obtain ⟨_, hbound, h⟩ := bind_eq_ok.mp h
    obtain ⟨_, -, h⟩ := bind_eq_ok.mp h
    obtain ⟨_, -, h⟩ := bind_eq_ok.mp h
    obtain ⟨hr, hc, hproduct⟩ := check_eq_ok.mp hbound
    have hrle : rowsValue ≤ (maxRepeatCount : Nat) := by nlinarith
    have hcle : columnsValue ≤ (maxRepeatCount : Nat) := by nlinarith
    cases h
    constructor
    · simp [addedSuffixes, repeatCount_eq hrows, repeatCount_eq hcolumns, List.map_flatMap,
        Function.comp_def]
    · rw [addedSuffixes, repeatCount_eq hrows, repeatCount_eq hcolumns]
      exact nodup_rectangular (le_trans (countOf_le hrle) (by decide))
        (le_trans (countOf_le hcle) (by decide))
  · -- polar
    obtain ⟨value, hvalue, h⟩ := bind_eq_ok.mp h
    obtain ⟨_, hbound, h⟩ := bind_eq_ok.mp h
    obtain ⟨_, -, h⟩ := bind_eq_ok.mp h
    obtain ⟨_, -, h⟩ := bind_eq_ok.mp h
    have hle := countOf_le (check_eq_ok.mp hbound).2
    constructor
    · rw [addedSuffixes, repeatCount_eq hvalue]
      refine mapM_eq_ok_map h fun item _ r hr => ?_
      obtain ⟨_, -, hr⟩ := bind_eq_ok.mp hr
      cases hr
      rfl
    · rw [addedSuffixes, repeatCount_eq hvalue]
      exact nodup_map_range (le_trans hle (by decide)) fun a b => singleSuffix_inj

/-! ## The ids of a plan -/

section

variable {T : Trigonometry} {env : Environment}

theorem compileOperation_ids {o : SourceOperation} {layers : Layers} {r : Repetition}
    {op : ConcreteOperation} (h : compileOperation T o env layers r = .ok op) :
    op.operationId = o.operationId ++ r.suffix ∧
      compileBody T (o.operationId ++ r.suffix) env layers r o.body = .ok op.body := by
  obtain ⟨_, -, h⟩ := bind_eq_ok.mp h
  obtain ⟨body, hbody, h⟩ := bind_eq_ok.mp h
  obtain ⟨_, -, h⟩ := bind_eq_ok.mp h
  cases h
  exact ⟨rfl, hbody⟩

/-- A copy or an offset gives its own id to its output, and no other operation has one. -/
theorem compileBody_output {operationId : String} {layers : Layers} {r : Repetition}
    {source : SourceBody} {body : ConcreteBody}
    (h : compileBody T operationId env layers r source = .ok body) :
    body.outputId? = if source.kind = .copyEntity ∨ source.kind = .offsetEntity
      then some operationId else none := by
  cases source <;> simp only [compileBody, bind_eq_ok] at h
  case ensureLayer =>
      cases h
      rfl
  case createDimensionLinear =>
      obtain ⟨_, -, _, -, _, -, _, -, h⟩ := h
      cases h
      rfl
  case createText =>
      obtain ⟨_, -, _, -, _, -, _, -, _, -, _, -, h⟩ := h
      cases h
      rfl
  case createCircle =>
      obtain ⟨_, -, _, -, _, -, _, -, h⟩ := h
      cases h
      rfl
  case createLine | createRectangle =>
      obtain ⟨_, -, _, -, _, -, h⟩ := h
      cases h
      rfl
  case createPolyline | offsetEntity =>
      obtain ⟨_, -, _, -, h⟩ := h
      cases h
      rfl
  case copyEntity | moveEntity =>
      obtain ⟨_, -, h⟩ := h
      cases h
      rfl

theorem compileOperations_cons {layers : Layers} {o : SourceOperation} {os : List SourceOperation}
    {ops : List ConcreteOperation} (h : compileOperations T env layers (o :: os) = .ok ops) :
    ∃ repetitions first rest, repeatTransforms env o.repeated = .ok repetitions ∧
      repetitions.mapM (compileOperation T o env layers) = .ok first ∧
      compileOperations T env (layerMade o ++ layers) os = .ok rest ∧ ops = first ++ rest := by
  obtain ⟨repetitions, hrepeat, h⟩ := bind_eq_ok.mp h
  obtain ⟨first, hfirst, h⟩ := bind_eq_ok.mp h
  obtain ⟨rest, hrest, h⟩ := bind_eq_ok.mp h
  cases h
  exact ⟨repetitions, first, rest, hrepeat, hfirst, hrest, rfl⟩

/-- The ids of a plan are those of its source with the suffixes of the repeats. -/
theorem compileOperations_ids {layers : Layers} {os : List SourceOperation}
    {ops : List ConcreteOperation} (h : compileOperations T env layers os = .ok ops) :
    ops.map ConcreteOperation.operationId = os.flatMap (SourceOperation.expandedIds env) ∧
      ∀ o ∈ os, (o.expandedIds env).Nodup := by
  induction os generalizing layers ops with
  | nil =>
      cases h
      simp
  | cons o os ih =>
      obtain ⟨repetitions, first, rest, hrepeat, hfirst, hrest, rfl⟩ := compileOperations_cons h
      have hexpands := repeatTransforms_expands hrepeat
      have hids : first.map ConcreteOperation.operationId = o.expandedIds env := by
        rw [SourceOperation.expandedIds, ← hexpands.suffixes, List.map_map]
        exact mapM_eq_ok_map hfirst fun r _ op hop => (compileOperation_ids hop).1
      have hnodup : (o.expandedIds env).Nodup :=
        hexpands.nodup.map fun s t hst => (String.append_right_inj o.operationId).mp hst
      obtain ⟨hrestIds, hrestNodup⟩ := ih hrest
      constructor
      · rw [List.map_append, hids, hrestIds, List.flatMap_cons]
      · intro o' ho'
        rcases List.mem_cons.mp ho' with rfl | ho'
        · exact hnodup
        · exact hrestNodup o' ho'

/-- Where no operation on a reference is repeated, the outputs are named by ids of the source. -/
theorem compileOperations_outputs {layers : Layers} {os : List SourceOperation}
    {ops : List ConcreteOperation} (h : compileOperations T env layers os = .ok ops)
    (hsingle : ∀ o ∈ os, o.body.kind.isTarget = true → o.repeated = none) :
    (ops.filterMap (·.body.outputId?)).Sublist (os.map SourceOperation.operationId) := by
  induction os generalizing layers ops with
  | nil =>
      cases h
      simp
  | cons o os ih =>
      obtain ⟨repetitions, first, rest, hrepeat, hfirst, hrest, rfl⟩ := compileOperations_cons h
      have hrestOutputs := ih hrest fun o ho => hsingle o (List.mem_cons_of_mem _ ho)
      rw [List.filterMap_append, List.map_cons]
      have houtputs := mapM_eq_ok_map (g := fun op => op.body.outputId?) hfirst
        fun r _ op hop => compileBody_output (compileOperation_ids hop).2
      have hfirstOutputs : first.filterMap (·.body.outputId?) =
          (first.map (·.body.outputId?)).filterMap id := by
        rw [List.filterMap_map]
        rfl
      rw [hfirstOutputs, houtputs]
      by_cases hout : o.body.kind = .copyEntity ∨ o.body.kind = .offsetEntity
      · -- one repetition, without a suffix
        have htarget : o.body.kind.isTarget = true := by
          rcases hout with h | h <;> rw [h] <;> rfl
        rw [hsingle o List.mem_cons_self htarget] at hrepeat
        cases hrepeat
        simpa [hout] using hrestOutputs.cons_cons o.operationId
      · have hnone : ∀ reps : List Repetition, (reps.map fun _ => (none : Option String)).filterMap
            id = [] := by simp
        simp only [hout, if_false, hnone, List.nil_append]
        exact hrestOutputs.cons o.operationId

end

/-! ## Uniqueness -/

theorem addedSuffixes_none {env : Environment} : addedSuffixes env none = [""] := rfl

/-- A suffix is empty, or has the length of one direction or of two. -/
theorem addedSuffix_forms {env : Environment} {spec : Option RepeatSpec} {s : String}
    (h : s ∈ addedSuffixes env spec) : (spec = none ∧ s = "") ∨
      (spec ≠ none ∧ ((∃ letter n, s = singleSuffix letter n) ∨
        ∃ r c, s = rectangularSuffix r c)) := by
  rcases spec with _ | (⟨count, offset⟩ | ⟨rows, columns, rowOffset, columnOffset⟩ |
    ⟨count, center, totalAngle⟩)
  · rw [addedSuffixes_none, List.mem_singleton] at h
    exact Or.inl ⟨rfl, h⟩
  · obtain ⟨n, -, rfl⟩ := List.mem_map.mp h
    exact Or.inr ⟨nofun, Or.inl ⟨'l', n, rfl⟩⟩
  · obtain ⟨r, -, h⟩ := List.mem_flatMap.mp h
    obtain ⟨c, -, rfl⟩ := List.mem_map.mp h
    exact Or.inr ⟨nofun, Or.inr ⟨r, c, rfl⟩⟩
  · obtain ⟨n, -, rfl⟩ := List.mem_map.mp h
    exact Or.inr ⟨nofun, Or.inl ⟨'p', n, rfl⟩⟩

/-- Some operation that is not repeated has an id that a repeated one gets by its repeat. -/
def IdTaken (env : Environment) (os : List SourceOperation) : Prop :=
  ∃ o ∈ os, o.repeated = none ∧
    ∃ o' ∈ os, o'.repeated ≠ none ∧ o.operationId ∈ o'.expandedIds env

theorem expandedIds_none {env : Environment} {o : SourceOperation} (h : o.repeated = none) :
    o.expandedIds env = [o.operationId] := by
  rw [SourceOperation.expandedIds, h, addedSuffixes_none]
  simp

/-- Two operations with ids of their own share an expanded id only where one of them is not
repeated and the other is. -/
theorem expandedIds_share {env : Environment} {o o' : SourceOperation} {id : String}
    (hne : o.operationId ≠ o'.operationId) (h : id ∈ o.expandedIds env)
    (h' : id ∈ o'.expandedIds env) : (o.repeated = none ∧ o'.repeated ≠ none) ∨
      (o'.repeated = none ∧ o.repeated ≠ none) := by
  obtain ⟨s, hs, rfl⟩ := List.mem_map.mp h
  obtain ⟨t, ht, heq⟩ := List.mem_map.mp h'
  -- suffixes of one length would make the ids equal
  have hlength : s.toList.length ≠ t.toList.length := fun hl =>
    hne (append_inj_of_length heq.symm hl).1
  rcases addedSuffix_forms hs with ⟨hnone, rfl⟩ | ⟨hrep, ⟨_, n, rfl⟩ | ⟨r, c, rfl⟩⟩ <;>
    rcases addedSuffix_forms ht with ⟨hnone', rfl⟩ | ⟨hrep', ⟨_, n', rfl⟩ | ⟨r', c', rfl⟩⟩
  · exact absurd rfl hlength
  · exact Or.inl ⟨hnone, hrep'⟩
  · exact Or.inl ⟨hnone, hrep'⟩
  · exact Or.inr ⟨hnone', hrep⟩
  · exact absurd (by rw [singleSuffix_length, singleSuffix_length]) hlength
  · exact absurd heq.symm single_ne_rectangular
  · exact Or.inr ⟨hnone', hrep⟩
  · exact absurd heq single_ne_rectangular
  · exact absurd (by rw [rectangularSuffix_length, rectangularSuffix_length]) hlength

theorem expandedIds_nodup_iff {env : Environment} {os : List SourceOperation}
    (hids : (os.map SourceOperation.operationId).Nodup)
    (hown : ∀ o ∈ os, (o.expandedIds env).Nodup) :
    (os.flatMap (SourceOperation.expandedIds env)).Nodup ↔ ¬ IdTaken env os := by
  rw [List.nodup_flatMap]
  constructor
  · rintro ⟨-, hpairs⟩ ⟨o, ho, hnone, o', ho', hrep, hid⟩
    have hsymm : Std.Symm (Function.onFun List.Disjoint (SourceOperation.expandedIds env)) :=
      ⟨fun _ _ h => List.Disjoint.symm h⟩
    have hne : o ≠ o' := by
      rintro rfl
      exact hrep hnone
    have hdisjoint := hpairs.forall ho ho' hne
    refine List.disjoint_left.mp hdisjoint ?_ hid
    rw [expandedIds_none hnone]
    exact List.mem_singleton_self _
  · intro hfree
    refine ⟨hown, ?_⟩
    rw [List.Nodup, List.pairwise_map] at hids
    refine hids.imp_of_mem ?_
    intro o o' ho ho' hne
    rw [Function.onFun, List.disjoint_left]
    intro id hid hid'
    rcases expandedIds_share hne hid hid' with ⟨hnone, hrep⟩ | ⟨hnone, hrep⟩
    · rw [expandedIds_none hnone, List.mem_singleton] at hid
      exact hfree ⟨o, ho, hnone, o', ho', hrep, hid ▸ hid'⟩
    · rw [expandedIds_none hnone, List.mem_singleton] at hid'
      exact hfree ⟨o', ho', hnone, o, ho, hrep, hid' ▸ hid⟩

theorem checkOperations_all {source : CadProgramV1Source} {knownLayers : List String}
    {os : List SourceOperation} (h : checkOperations source knownLayers os = .ok ()) :
    ∀ o ∈ os, ∃ known, checkOperation source known o = .ok () := by
  induction os generalizing knownLayers with
  | nil => simp
  | cons o os ih =>
      obtain ⟨_, ho, h⟩ := bind_eq_ok.mp h
      intro o' ho'
      rcases List.mem_cons.mp ho' with rfl | ho'
      · exact ⟨knownLayers, ho⟩
      · exact ih h o' ho'

/-- An operation on a reference passes the checks of a source only without a repeat. -/
theorem checkOperation_target {source : CadProgramV1Source} {known : List String}
    {o : SourceOperation} (h : checkOperation source known o = .ok ())
    (htarget : o.body.kind.isTarget = true) : o.repeated = none := by
  have hlayer : o.body.kind ≠ .ensureLayer := by
    intro hk
    rw [hk] at htarget
    cases htarget
  simp only [checkOperation, if_neg hlayer, if_pos htarget] at h
  obtain ⟨_, -, h⟩ := bind_eq_ok.mp h
  obtain ⟨_, -, h⟩ := bind_eq_ok.mp h
  obtain ⟨_, hnone, -⟩ := bind_eq_ok.mp h
  exact Option.isNone_iff_eq_none.mp (check_eq_ok.mp hnone)

/-- What an accepted source says about the ids of its operations. -/
theorem accepted_ids {S : SourceCodec} {source : CadProgramV1Source}
    (h : source.accepted S = true) : (source.operations.map SourceOperation.operationId).Nodup ∧
      ∀ o ∈ source.operations, o.body.kind.isTarget = true → o.repeated = none := by
  have hclosed : ∃ u, source.isClosedAndBounded S = .ok u := by
    rw [CadProgramV1Source.accepted, Bool.and_eq_true] at h
    cases hc : source.isClosedAndBounded S with
    | error e => simp [hc, Except.toOption] at h
    | ok u => exact ⟨u, rfl⟩
  obtain ⟨_, hclosed⟩ := hclosed
  obtain ⟨_, hclosed, -⟩ := bind_eq_ok.mp hclosed
  obtain ⟨_, -, hclosed⟩ := bind_eq_ok.mp hclosed
  obtain ⟨_, -, hclosed⟩ := bind_eq_ok.mp hclosed
  obtain ⟨_, hids, hclosed⟩ := bind_eq_ok.mp hclosed
  iterate 5 obtain ⟨_, -, hclosed⟩ := bind_eq_ok.mp hclosed
  obtain ⟨_, hoperations, -⟩ := bind_eq_ok.mp hclosed
  refine ⟨check_eq_ok.mp hids, fun o ho htarget => ?_⟩
  obtain ⟨known, hcheck⟩ := checkOperations_all hoperations o ho
  exact checkOperation_target hcheck htarget

theorem compileCadProgramV1_operations {T : Trigonometry} {P : PlanCodec}
    {source : CadProgramV1Source} {pins : ExecutionPins} {packageHash : String}
    {refs : List MaterializedTargetRef} {owner : Option String} {plan : CadExecutionPlanV1}
    (h : compileCadProgramV1 T P source pins packageHash refs owner = .ok plan) :
    ∃ env, compileVariables source.programVariables = .ok env ∧
      compileOperations T env [] source.operations = .ok plan.operations := by
  obtain ⟨_, -, h⟩ := bind_eq_ok.mp h
  obtain ⟨_, -, h⟩ := bind_eq_ok.mp h
  obtain ⟨env, henv, h⟩ := bind_eq_ok.mp h
  obtain ⟨operations, hoperations, h⟩ := bind_eq_ok.mp h
  iterate 10 obtain ⟨_, -, h⟩ := bind_eq_ok.mp h
  cases h
  exact ⟨env, henv, hoperations⟩

/-- An operation that is not repeated has an id that a repeat makes. -/
def CadProgramV1Source.idTaken (source : CadProgramV1Source) : Prop :=
  ∃ env, compileVariables source.programVariables = .ok env ∧ IdTaken env source.operations

/-- The operations and the outputs of a plan are told apart by their ids exactly when no operation
of its source that is not repeated has an id that a repeat makes. -/
theorem expanded_ids_unique_iff {S : SourceCodec} {T : Trigonometry} {P : PlanCodec}
    {source : CadProgramV1Source} {pins : ExecutionPins} {packageHash : String}
    {refs : List MaterializedTargetRef} {owner : Option String} {plan : CadExecutionPlanV1}
    (haccepted : source.accepted S = true)
    (h : compileCadProgramV1 T P source pins packageHash refs owner = .ok plan) :
    ((plan.operations.map ConcreteOperation.operationId).Nodup ∧
      (plan.operations.filterMap (·.body.outputId?)).Nodup) ↔ ¬ source.idTaken := by
  obtain ⟨hids, hsingle⟩ := accepted_ids haccepted
  obtain ⟨env, henv, hcompile⟩ := compileCadProgramV1_operations h
  obtain ⟨hexpanded, hown⟩ := compileOperations_ids hcompile
  have houtputs := (compileOperations_outputs hcompile hsingle).nodup hids
  have htaken : source.idTaken ↔ IdTaken env source.operations := by
    constructor
    · rintro ⟨env', henv', htaken⟩
      rw [henv] at henv'
      cases henv'
      exact htaken
    · exact fun htaken => ⟨env, henv, htaken⟩
  rw [htaken, hexpanded, ← expandedIds_nodup_iff hids hown]
  exact and_iff_left houtputs

/-! ## Two lines -/

def sampleDigest : String := String.ofList ("sha256:".toList ++ List.replicate 64 'a')

def sampleCodec : SourceCodec := ⟨fun _ => some sampleDigest, fun _ => some 1000⟩

def samplePlanCodec : PlanCodec :=
  { canonicalCompilerDigest := sampleDigest
    canonicalExpansionDigest := fun _ => some sampleDigest
    canonicalEffectDigest := fun _ => some sampleDigest
    canonicalTargetRefsDigest := fun _ => some sampleDigest
    canonicalValidationProfilesDigest := fun _ => some sampleDigest
    canonicalCheckpointStrategyDigest := fun _ => some sampleDigest
    canonicalHardBudgetsDigest := fun _ => some sampleDigest
    canonicalExecutionPlanDigest := fun _ => some sampleDigest
    canonicalBytes := fun _ => some 1000 }

def samplePoint (x y : String) : ExpressionPoint :=
  ⟨.literal ⟨.length, x, some .mm⟩, .literal ⟨.length, y, some .mm⟩,
    .literal ⟨.length, "0", some .mm⟩⟩

def sampleLine (operationId : String) (repeated : Option RepeatSpec) : SourceOperation :=
  ⟨operationId, repeated, .createLine (.name "0") (samplePoint "0" "0") (samplePoint "1" "0")⟩

/-- A line `a` that is repeated twice, and a line with another id. -/
def sampleSource (operationId : String) : CadProgramV1Source :=
  { registryVersion := .createCore
    programId := "program"
    programRevision := 1
    parentRevision := none
    deviceId := "device"
    sourceSnapshotId := "snapshot"
    documentId := "document"
    expectedDocumentRevision := "1"
    programVariables := []
    operations :=
      [sampleLine "a" (some (.linear (.literal ⟨.integer, "2", none⟩) (samplePoint "0" "5"))),
        sampleLine operationId none]
    budgets := ⟨256, 1024, 1024, 4096, 1024, "1000000", 65536⟩
    requiredCapabilities := [compileCapability]
    validationProfiles := ["default"]
    artifactRefs := []
    componentRefs := []
    semanticDigest := sampleDigest }

def samplePins : ExecutionPins :=
  { runtimeId := "runtime"
    hostFamily := "host"
    hostVersion := "1"
    packageId := "package"
    packageVersion := "1"
    packageHash := sampleDigest
    capabilityManifestHash := sampleDigest
    operationRegistryVersion := "1"
    operationRegistryHash := sampleDigest
    policyVersion := "1"
    rolloutPolicyDigest := sampleDigest }

def compileSample (operationId : String) : Except Invalid CadExecutionPlanV1 :=
  compileCadProgramV1 ⟨fun _ => 1, fun _ => 0⟩ samplePlanCodec (sampleSource operationId) samplePins
    sampleDigest [] none

theorem compileSample_ids (operationId : String) (ids : List String)
    (h : ((compileSample operationId).toOption.map
      fun plan => plan.operations.map ConcreteOperation.operationId) = some ids) :
    ∃ plan, compileSample operationId = .ok plan ∧
      plan.operations.map ConcreteOperation.operationId = ids := by
  cases hplan : compileSample operationId with
  | error e => simp [hplan, Except.toOption] at h
  | ok plan => exact ⟨plan, rfl, by simpa [hplan, Except.toOption] using h⟩

/-- With ids that no repeat makes. -/
theorem sampleLines_unique : ∃ plan, compileSample "b" = .ok plan ∧
    (((plan.operations.map ConcreteOperation.operationId).Nodup ∧
      (plan.operations.filterMap (·.body.outputId?)).Nodup) ↔ ¬ (sampleSource "b").idTaken) := by
  obtain ⟨plan, hplan, -⟩ := compileSample_ids "b" ["a.l000", "a.l001", "b"]
    (by decide +kernel)
  exact ⟨plan, hplan, expanded_ids_unique_iff (S := sampleCodec) (by decide +kernel) hplan⟩

/-- The line `a.l001` and the second repetition of `a` have one id in the sealed plan. -/
theorem sampleLines_collide : (sampleSource "a.l001").accepted sampleCodec = true ∧
    ∃ plan, compileSample "a.l001" = .ok plan ∧
      ¬ (plan.operations.map ConcreteOperation.operationId).Nodup := by
  obtain ⟨plan, hplan, hids⟩ := compileSample_ids "a.l001" ["a.l000", "a.l001", "a.l001"]
    (by decide +kernel)
  refine ⟨by decide +kernel, plan, hplan, ?_⟩
  rw [hids]
  decide

end AutocadMcp.Program
