import AutocadMcp.Program.Rounding

/-!
# Types of program expressions

The type of a result is read off the operators and the types of the literals and variables.
It does not say that an integer is integral: a quotient of an integer keeps its type, and a
product has the type of its second factor. Where a count is asked for, `_expect` tests the
value itself.
-/

namespace AutocadMcp.Program

/-! ## The type of an expression -/

/-- The types of the variables. -/
abbrev TypeContext := String → Option NumericType

def Environment.types (env : Environment) : TypeContext := fun name =>
  (env.find? fun v => v.1 = name).map fun v => v.2.type

mutual

/-- The type that an expression has wherever it is accepted. -/
def Expression.typeIn (Γ : TypeContext) : Expression → Option NumericType
  | .literal v => some v.type
  | .variable name => Γ name
  | .index => some .integer
  | .neg operand | .abs operand | .convert operand _ => operand.typeIn Γ
  | .add left _ | .sub left _ => left.typeIn Γ
  | .mul left right =>
      if (left.typeIn Γ).any NumericType.isPlain then right.typeIn Γ else left.typeIn Γ
  | .div left right =>
      if (right.typeIn Γ).any NumericType.isPlain then left.typeIn Γ else some .scalar
  | .min arguments | .max arguments => firstTypeIn Γ arguments

/-- The type of the first argument. -/
def firstTypeIn (Γ : TypeContext) : List Expression → Option NumericType
  | [] => none
  | e :: _ => e.typeIn Γ

end

section

variable {env : Environment} {index : Nat}

theorem evalUnary_type {x : Rat} {type : NumericType} {r : Evaluated}
    (h : evalUnary x type = .ok r) : r.type = type := by
  obtain ⟨value, -, h⟩ := bind_eq_ok.mp h
  cases h
  rfl

theorem evalAddSub_type {combine : Rat → Rat → Rat} {a b r : Evaluated}
    (h : evalAddSub combine a b = .ok r) : r.type = a.type := by
  obtain ⟨_, -, h⟩ := bind_eq_ok.mp h
  exact evalUnary_type h

theorem evalMul_type {a b r : Evaluated} (h : evalMul a b = .ok r) :
    r.type = if a.type.isPlain then b.type else a.type := by
  unfold evalMul at h
  split at h
  case isTrue hplain => rw [if_pos hplain, evalUnary_type h]
  case isFalse hplain =>
    rw [if_neg hplain]
    split at h
    · exact evalUnary_type h
    · cases h

theorem evalDiv_type {a b r : Evaluated} (h : evalDiv a b = .ok r) :
    r.type = if b.type.isPlain then a.type else .scalar := by
  obtain ⟨_, -, h⟩ := bind_eq_ok.mp h
  split at h
  case isTrue hplain => rw [if_pos hplain, evalUnary_type h]
  case isFalse hplain =>
    rw [if_neg hplain]
    split at h
    · exact evalUnary_type h
    · cases h

theorem evalExtreme_type {choose : Rat → Rat → Rat} {values : List Evaluated} {r : Evaluated}
    (h : evalExtreme choose values = .ok r) : values.head?.map Evaluated.type = some r.type := by
  cases values with
  | nil => cases h
  | cons v vs =>
      obtain ⟨_, -, h⟩ := bind_eq_ok.mp h
      cases h
      rfl

theorem lookupVariable_type {name : String} {r : Evaluated}
    (h : lookupVariable env name = .ok r) : env.types name = some r.type := by
  unfold lookupVariable at h
  split at h
  case h_1 v hv =>
    cases h
    rw [Environment.types, hv]
    rfl
  case h_2 => cases h

mutual

theorem eval_type (e : Expression) {r : Evaluated} (h : eval env index e = .ok r) :
    e.typeIn env.types = some r.type := by
  cases e with
  | literal v =>
      obtain ⟨raw, -, h⟩ := bind_eq_ok.mp h
      obtain ⟨value, -, h⟩ := bind_eq_ok.mp h
      cases h
      rw [Expression.typeIn]
  | «variable» name =>
      rw [Expression.typeIn]
      exact lookupVariable_type h
  | index =>
      cases h
      rw [Expression.typeIn]
  | neg operand | abs operand =>
      obtain ⟨v, hv, h⟩ := bind_eq_ok.mp h
      rw [Expression.typeIn, eval_type operand hv, evalUnary_type h]
  | convert operand unit =>
      obtain ⟨v, hv, h⟩ := bind_eq_ok.mp h
      obtain ⟨_, -, h⟩ := bind_eq_ok.mp h
      cases h
      rw [Expression.typeIn, eval_type operand hv]
  | add left right | sub left right =>
      obtain ⟨a, ha, h⟩ := bind_eq_ok.mp h
      obtain ⟨b, -, h⟩ := bind_eq_ok.mp h
      rw [Expression.typeIn, eval_type left ha, evalAddSub_type h]
  | mul left right =>
      obtain ⟨a, ha, h⟩ := bind_eq_ok.mp h
      obtain ⟨b, hb, h⟩ := bind_eq_ok.mp h
      rw [Expression.typeIn, eval_type left ha, eval_type right hb, evalMul_type h, Option.any_some,
        apply_ite some]
  | div left right =>
      obtain ⟨a, ha, h⟩ := bind_eq_ok.mp h
      obtain ⟨b, hb, h⟩ := bind_eq_ok.mp h
      rw [Expression.typeIn, eval_type left ha, eval_type right hb, evalDiv_type h, Option.any_some,
        apply_ite some]
  | min arguments | max arguments =>
      obtain ⟨values, hvalues, h⟩ := bind_eq_ok.mp h
      rw [Expression.typeIn, evalAll_type arguments hvalues, evalExtreme_type h]

theorem evalAll_type (es : List Expression) {rs : List Evaluated}
    (h : evalAll env index es = .ok rs) :
    firstTypeIn env.types es = rs.head?.map Evaluated.type := by
  cases es with
  | nil =>
      cases h
      rw [firstTypeIn]
      rfl
  | cons e es =>
      obtain ⟨r, hr, h⟩ := bind_eq_ok.mp h
      obtain ⟨rs, -, h⟩ := bind_eq_ok.mp h
      cases h
      rw [firstTypeIn, eval_type e hr]
      rfl

end

/-! ## What the type depends on -/

mutual

/-- An expression with the values and the units of its literals taken out. -/
def Expression.skeleton : Expression → Expression
  | .literal v => .literal ⟨v.type, "", none⟩
  | .variable name => .variable name
  | .index => .index
  | .neg operand => .neg operand.skeleton
  | .abs operand => .abs operand.skeleton
  | .add left right => .add left.skeleton right.skeleton
  | .sub left right => .sub left.skeleton right.skeleton
  | .mul left right => .mul left.skeleton right.skeleton
  | .div left right => .div left.skeleton right.skeleton
  | .min arguments => .min (skeletons arguments)
  | .max arguments => .max (skeletons arguments)
  | .convert operand unit => .convert operand.skeleton unit

def skeletons : List Expression → List Expression
  | [] => []
  | e :: es => e.skeleton :: skeletons es

end

mutual

theorem typeIn_skeleton (Γ : TypeContext) (e : Expression) : e.skeleton.typeIn Γ = e.typeIn Γ := by
  cases e with
  | literal v => simp only [Expression.skeleton, Expression.typeIn]
  | «variable» name => rw [Expression.skeleton]
  | index => rw [Expression.skeleton]
  | neg operand | abs operand | convert operand unit =>
      simp only [Expression.skeleton, Expression.typeIn]
      exact typeIn_skeleton Γ operand
  | add left right | sub left right =>
      simp only [Expression.skeleton, Expression.typeIn]
      exact typeIn_skeleton Γ left
  | mul left right | div left right =>
      simp only [Expression.skeleton, Expression.typeIn]
      rw [typeIn_skeleton Γ left, typeIn_skeleton Γ right]
  | min arguments | max arguments =>
      simp only [Expression.skeleton, Expression.typeIn]
      exact firstTypeIn_skeletons Γ arguments

theorem firstTypeIn_skeletons (Γ : TypeContext) (es : List Expression) :
    firstTypeIn Γ (skeletons es) = firstTypeIn Γ es := by
  cases es with
  | nil => rw [skeletons]
  | cons e es =>
      simp only [skeletons, firstTypeIn]
      exact typeIn_skeleton Γ e

end

/-- Neither the values of literals and variables nor the index of the repetition show in the
type. -/
theorem eval_type_of_skeleton {env' : Environment} {index' : Nat} {e e' : Expression}
    {r r' : Evaluated} (htree : e.skeleton = e'.skeleton) (htypes : env.types = env'.types)
    (h : eval env index e = .ok r) (h' : eval env' index' e' = .ok r') : r.type = r'.type := by
  have htype := eval_type e h
  have htype' := eval_type e' h'
  rw [← typeIn_skeleton, htree, htypes, typeIn_skeleton, htype', Option.some.injEq] at htype
  exact htype.symm

/-! ## Integers -/

def Integral (x : Rat) : Prop := ∃ n : Int, x = n

/-- The variables that are integers are integral, as their validator asks. -/
def Environment.Integral (env : Environment) : Prop :=
  ∀ v ∈ env, v.2.type = .integer → Program.Integral v.2.value

mutual

/-- No integer among the nodes that an integer is made of is a quotient, or a product of a scalar
and an integer. -/
def Expression.wholeIn (Γ : TypeContext) : Expression → Bool
  | .literal _ | .variable _ | .index | .convert _ _ => true
  | .neg operand | .abs operand => operand.wholeIn Γ
  | .add left right | .sub left right => left.wholeIn Γ && right.wholeIn Γ
  | .mul left right =>
      if (left.typeIn Γ).any NumericType.isPlain ∧ right.typeIn Γ = some .integer then
        left.typeIn Γ = some .integer && left.wholeIn Γ && right.wholeIn Γ
      else true
  | .div left right => left.typeIn Γ ≠ some .integer || !(right.typeIn Γ).any NumericType.isPlain
  | .min arguments | .max arguments => allWholeIn Γ arguments

def allWholeIn (Γ : TypeContext) : List Expression → Bool
  | [] => true
  | e :: es => e.wholeIn Γ && allWholeIn Γ es

end

/-- An integral result is not rounded. -/
theorem normalize_integral {x y : Rat} (hx : Integral x) (h : normalize x = .ok y) : y = x := by
  obtain ⟨n, rfl⟩ := hx
  obtain ⟨_, -, h⟩ := bind_eq_ok.mp h
  cases h
  have hmultiple : (n : Rat) = (n * 1000000000 : Int) * quantum := by
    rw [quantum]
    push_cast
    ring
  calc Decimal.roundTo quantum n = Decimal.roundTo quantum ((n * 1000000000 : Int) * quantum) := by
        rw [← hmultiple]
    _ = n := (Decimal.roundTo_of_multiple quantum_pos.ne' _).trans hmultiple.symm

theorem evalUnary_integral {x y : Rat} {type : NumericType} {r : Evaluated} (hx : Integral x)
    (hexact : normalize y = normalize x) (h : evalUnary y type = .ok r) : Integral r.value := by
  obtain ⟨value, hvalue, h⟩ := bind_eq_ok.mp h
  cases h
  rw [hexact] at hvalue
  rw [normalize_integral hx hvalue]
  exact hx

theorem literal_integral {v : NumericValue} {r : Evaluated} (hfits : v.fits = true)
    (hinteger : v.type = .integer) (h : normalizeValue v = .ok r) : Integral r.value := by
  rw [normalizeValue_eq (by rw [hinteger]; simp)] at h
  obtain ⟨raw, hraw, h⟩ := bind_eq_ok.mp h
  rw [exactLiteral, hinteger] at h
  cases hunit : v.unitMatchesType with
  | error message =>
      rw [NumericValue.fits, hunit] at hfits
      simp [Except.toOption] at hfits
  | ok _ =>
      iterate 3 obtain ⟨_, -, hunit⟩ := bind_eq_ok.mp hunit
      obtain ⟨parsed, hparsed, hunit⟩ := bind_eq_ok.mp hunit
      obtain ⟨_, -, hunit⟩ := bind_eq_ok.mp hunit
      have hwhole := check_eq_ok.mp hunit hinteger
      rw [hraw, Except.ok.injEq] at hparsed
      subst hparsed
      exact evalUnary_integral ⟨_, hwhole⟩ rfl h

theorem choose_integral {choose : Rat → Rat → Rat}
    (hchoose : ∀ x y, choose x y = x ∨ choose x y = y) {values : List Evaluated} {r : Evaluated}
    (hvalues : ∀ v ∈ values, v.type = .integer → Integral v.value)
    (h : evalExtreme choose values = .ok r) (hinteger : r.type = .integer) : Integral r.value := by
  cases values with
  | nil => cases h
  | cons v vs =>
      obtain ⟨_, hsame, h⟩ := bind_eq_ok.mp h
      have hsame := check_eq_ok.mp hsame
      cases h
      refine foldl_choose hchoose _ _ (hvalues v List.mem_cons_self hinteger) fun w hw => ?_
      obtain ⟨x, hx, rfl⟩ := List.mem_map.mp hw
      exact hvalues x (List.mem_cons_of_mem v hx) ((hsame x hx).trans hinteger)

theorem addSub_integral {combine : Rat → Rat → Rat} {a b r : Evaluated}
    (hcombine : ∀ n m : Int, Integral (combine n m))
    (hexact : normalize (inDefault (combine a.value b.value)) = normalize (combine a.value b.value))
    (ha : a.type = .integer → Integral a.value) (hb : b.type = .integer → Integral b.value)
    (h : evalAddSub combine a b = .ok r) (hinteger : r.type = .integer) : Integral r.value := by
  have htype := (evalAddSub_type h).symm.trans hinteger
  obtain ⟨_, hsame, h⟩ := bind_eq_ok.mp h
  have hsame := check_eq_ok.mp hsame
  obtain ⟨n, hn⟩ := ha htype
  obtain ⟨m, hm⟩ := hb (hsame.symm.trans htype)
  refine evalUnary_integral ?_ hexact h
  rw [hn, hm]
  exact hcombine n m

theorem mul_integral {a b r : Evaluated} (ha : Normalized a.value) (hb : Normalized b.value)
    (hleft : Integral a.value) (hright : Integral b.value) (h : evalMul a b = .ok r) :
    Integral r.value := by
  obtain ⟨n, hn⟩ := hleft
  obtain ⟨m, hm⟩ := hright
  have hproduct : Integral (a.value * b.value) := ⟨n * m, by rw [hn, hm]; push_cast; rfl⟩
  unfold evalMul at h
  split at h
  · exact evalUnary_integral hproduct (normalize_mul ha hb) h
  · split at h
    · exact evalUnary_integral hproduct (normalize_mul ha hb) h
    · cases h

mutual

theorem eval_integral (henv : env.Normalized) (hindex : index ≤ 1000000000)
    (hwhole : env.Integral) (e : Expression) (hfits : e.fits = true)
    (he : e.wholeIn env.types = true) {r : Evaluated} (h : eval env index e = .ok r)
    (hinteger : r.type = .integer) : Integral r.value := by
  cases e with
  | literal v =>
      rw [Expression.fits] at hfits
      have htype := eval_type _ h
      rw [Expression.typeIn, Option.some.injEq, hinteger] at htype
      exact literal_integral hfits htype h
  | «variable» name =>
      obtain ⟨v, hv, rfl⟩ := lookupVariable_mem h
      exact hwhole v hv hinteger
  | index =>
      cases h
      exact ⟨index, by push_cast; rfl⟩
  | neg operand =>
      rw [Expression.fits] at hfits
      rw [Expression.wholeIn] at he
      obtain ⟨v, hv, h⟩ := bind_eq_ok.mp h
      have hoperand := eval_normalized henv hindex operand hv
      obtain ⟨n, hn⟩ := eval_integral henv hindex hwhole operand hfits he hv
        ((evalUnary_type h).symm.trans hinteger)
      refine evalUnary_integral ⟨-n, ?_⟩ (normalize_neg hoperand) h
      rw [hn]
      push_cast
      rfl
  | abs operand =>
      rw [Expression.fits] at hfits
      rw [Expression.wholeIn] at he
      obtain ⟨v, hv, h⟩ := bind_eq_ok.mp h
      have hoperand := eval_normalized henv hindex operand hv
      obtain ⟨n, hn⟩ := eval_integral henv hindex hwhole operand hfits he hv
        ((evalUnary_type h).symm.trans hinteger)
      refine evalUnary_integral ⟨|n|, ?_⟩ (normalize_abs hoperand) h
      rw [hn]
      push_cast
      rfl
  | convert operand unit =>
      -- a length or an angle
      obtain ⟨v, -, h⟩ := bind_eq_ok.mp h
      obtain ⟨_, hmeasures, h⟩ := bind_eq_ok.mp h
      have hmeasures := check_eq_ok.mp hmeasures
      cases h
      rw [hinteger] at hmeasures
      cases unit <;> cases hmeasures
  | add left right =>
      rw [Expression.fits, Bool.and_eq_true] at hfits
      rw [Expression.wholeIn, Bool.and_eq_true] at he
      obtain ⟨a, ha, h⟩ := bind_eq_ok.mp h
      obtain ⟨b, hb, h⟩ := bind_eq_ok.mp h
      exact addSub_integral (fun n m => ⟨n + m, by push_cast; rfl⟩)
        (normalize_add (eval_normalized henv hindex left ha) (eval_normalized henv hindex right hb))
        (eval_integral henv hindex hwhole left hfits.1 he.1 ha)
        (eval_integral henv hindex hwhole right hfits.2 he.2 hb) h hinteger
  | sub left right =>
      rw [Expression.fits, Bool.and_eq_true] at hfits
      rw [Expression.wholeIn, Bool.and_eq_true] at he
      obtain ⟨a, ha, h⟩ := bind_eq_ok.mp h
      obtain ⟨b, hb, h⟩ := bind_eq_ok.mp h
      exact addSub_integral (fun n m => ⟨n - m, by push_cast; rfl⟩)
        (normalize_sub (eval_normalized henv hindex left ha) (eval_normalized henv hindex right hb))
        (eval_integral henv hindex hwhole left hfits.1 he.1 ha)
        (eval_integral henv hindex hwhole right hfits.2 he.2 hb) h hinteger
  | mul left right =>
      rw [Expression.fits, Bool.and_eq_true] at hfits
      have htype := eval_type _ h
      obtain ⟨a, ha, h⟩ := bind_eq_ok.mp h
      obtain ⟨b, hb, h⟩ := bind_eq_ok.mp h
      have hplain : (left.typeIn env.types).any NumericType.isPlain ∧
          right.typeIn env.types = some .integer := by
        rw [Expression.typeIn, hinteger] at htype
        split at htype
        case isTrue hplain => exact ⟨hplain, htype⟩
        case isFalse hplain =>
          -- the left factor would be an integer, which is plain
          rw [htype] at hplain
          exact absurd rfl hplain
      rw [Expression.wholeIn, if_pos hplain, Bool.and_eq_true, Bool.and_eq_true,
        decide_eq_true_eq] at he
      have hleft := (eval_type left ha).symm.trans he.1.1
      have hright := (eval_type right hb).symm.trans hplain.2
      rw [Option.some.injEq] at hleft hright
      exact mul_integral (eval_normalized henv hindex left ha)
        (eval_normalized henv hindex right hb)
        (eval_integral henv hindex hwhole left hfits.1 he.1.2 ha hleft)
        (eval_integral henv hindex hwhole right hfits.2 he.2 hb hright) h
  | div left right =>
      -- the type of the quotient is not that of an integer
      have htype := eval_type _ h
      rw [Expression.wholeIn] at he
      rw [Expression.typeIn, hinteger] at htype
      split at htype
      case isTrue hplain => simp [htype, hplain] at he
      case isFalse => cases htype
  | min arguments =>
      rw [Expression.fits, Bool.and_eq_true] at hfits
      rw [Expression.wholeIn] at he
      obtain ⟨values, hvalues, h⟩ := bind_eq_ok.mp h
      exact choose_integral min_choice
        (evalAll_integral henv hindex hwhole arguments hfits.2 he hvalues) h hinteger
  | max arguments =>
      rw [Expression.fits, Bool.and_eq_true] at hfits
      rw [Expression.wholeIn] at he
      obtain ⟨values, hvalues, h⟩ := bind_eq_ok.mp h
      exact choose_integral max_choice
        (evalAll_integral henv hindex hwhole arguments hfits.2 he hvalues) h hinteger

theorem evalAll_integral (henv : env.Normalized) (hindex : index ≤ 1000000000)
    (hwhole : env.Integral) (es : List Expression) (hfits : allFit es = true)
    (hes : allWholeIn env.types es = true) {rs : List Evaluated}
    (h : evalAll env index es = .ok rs) : ∀ r ∈ rs, r.type = .integer → Integral r.value := by
  cases es with
  | nil =>
      cases h
      intro r hr
      cases hr
  | cons e es =>
      rw [allFit, Bool.and_eq_true] at hfits
      rw [allWholeIn, Bool.and_eq_true] at hes
      obtain ⟨r, hr, h⟩ := bind_eq_ok.mp h
      obtain ⟨rs, hrs, h⟩ := bind_eq_ok.mp h
      cases h
      intro s hs
      rcases List.mem_cons.mp hs with rfl | hs
      · exact eval_integral henv hindex hwhole e hfits.1 hes.1 hr
      · exact evalAll_integral henv hindex hwhole es hfits.2 hes.2 hrs s hs

end

/-! ## Operands in another order -/

theorem evalAdd_comm (a b : Evaluated) :
    (evalAddSub (· + ·) a b).toOption = (evalAddSub (· + ·) b a).toOption := by
  unfold evalAddSub
  by_cases h : a.type = b.type
  · rw [check_true h, check_true h.symm, h]
    dsimp only
    rw [add_comm]
  · rw [check_false h, check_false (Ne.symm h)]
    rfl

/-- The product is the same, and so is its type unless an integer is multiplied by a scalar. -/
theorem evalMul_comm (a b : Evaluated) :
    (evalMul a b).toOption.map Evaluated.value = (evalMul b a).toOption.map Evaluated.value ∧
      ((a.type.isPlain = true → b.type.isPlain = true → a.type = b.type) →
        (evalMul a b).toOption = (evalMul b a).toOption) := by
  unfold evalMul
  rw [mul_comm b.value a.value]
  by_cases ha : a.type.isPlain = true
  · by_cases hb : b.type.isPlain = true
    · rw [if_pos ha, if_pos hb]
      constructor
      · unfold evalUnary
        cases normalize (inDefault (a.value * b.value)) <;> rfl
      · intro hsame
        rw [hsame ha hb]
    · rw [if_pos ha, if_neg hb, if_pos ha]
      exact ⟨rfl, fun _ => rfl⟩
  · by_cases hb : b.type.isPlain = true
    · rw [if_neg ha, if_pos hb, if_pos hb]
      exact ⟨rfl, fun _ => rfl⟩
    · rw [if_neg ha, if_neg hb, if_neg hb, if_neg ha]
      exact ⟨rfl, fun _ => rfl⟩

/-- Two operands in either order. -/
theorem bind_comm {left right : Except Invalid Evaluated}
    {body body' : Evaluated → Evaluated → Except Invalid Evaluated} {β : Type}
    {g : Option Evaluated → Option β}
    (h : ∀ a b, left = .ok a → right = .ok b → g (body a b).toOption = g (body' b a).toOption) :
    g (left >>= fun a => right >>= body a).toOption =
      g (right >>= fun b => left >>= body' b).toOption := by
  cases left with
  | error message => cases right <;> rfl
  | ok a =>
      cases right with
      | error message => rfl
      | ok b => exact h a b rfl rfl

/-- The arguments have one type, whichever is the first. -/
theorem sameType_iff {v : Evaluated} {vs : List Evaluated} :
    (∀ u ∈ vs, u.type = v.type) ↔ ∀ u ∈ v :: vs, ∀ u' ∈ v :: vs, u.type = u'.type := by
  constructor
  · intro h
    have hfirst : ∀ u ∈ v :: vs, u.type = v.type := by
      intro u hu
      rcases List.mem_cons.mp hu with rfl | hu
      · rfl
      · exact h u hu
    intro u hu u' hu'
    rw [hfirst u hu, hfirst u' hu']
  · intro h u hu
    exact h u (List.mem_cons_of_mem v hu) v List.mem_cons_self

theorem evalExtreme_perm {choose : Rat → Rat → Rat} (hcomm : ∀ x y, choose x y = choose y x)
    (hassoc : ∀ x y z, choose (choose x y) z = choose x (choose y z)) {xs ys : List Evaluated}
    (h : xs.Perm ys) : (evalExtreme choose xs).toOption = (evalExtreme choose ys).toOption := by
  cases xs with
  | nil => rw [List.nil_perm.mp h]
  | cons v vs =>
      cases ys with
      | nil => exact absurd h.length_eq (by simp)
      | cons w ws =>
          have htypes : (∀ u ∈ vs, u.type = v.type) ↔ ∀ u ∈ ws, u.type = w.type := by
            simp only [sameType_iff, h.mem_iff]
          have hvalues := foldl_perm hcomm hassoc (h.map Evaluated.value) v.value
            (vs.map Evaluated.value) w.value (ws.map Evaluated.value) rfl rfl
          unfold evalExtreme
          dsimp only
          by_cases hsame : ∀ u ∈ vs, u.type = v.type
          · have htype : v.type = w.type :=
              sameType_iff.mp hsame v List.mem_cons_self w (h.mem_iff.mpr List.mem_cons_self)
            rw [check_true hsame, check_true (htypes.mp hsame), hvalues, htype]
          · rw [check_false hsame, check_false (mt htypes.mpr hsame)]
            rfl

theorem evalAll_eq_ok {es : List Expression} {rs : List Evaluated} :
    evalAll env index es = .ok rs ↔ List.Forall₂ (fun e r => eval env index e = .ok r) es rs := by
  induction es generalizing rs with
  | nil =>
      rw [evalAll, List.forall₂_nil_left_iff]
      exact ⟨fun h => by cases h; rfl, fun h => by rw [h]; rfl⟩
  | cons e es ih =>
      rw [evalAll, bind_eq_ok, List.forall₂_cons_left_iff]
      constructor
      · rintro ⟨r, hr, h⟩
        obtain ⟨rest, hrest, h⟩ := bind_eq_ok.mp h
        cases h
        exact ⟨r, rest, hr, ih.mp hrest, rfl⟩
      · rintro ⟨r, rest, hr, hrest, rfl⟩
        exact ⟨r, hr, bind_eq_ok.mpr ⟨rest, ih.mpr hrest, rfl⟩⟩

theorem evalAll_perm {es es' : List Expression} (h : es.Perm es') {rs : List Evaluated}
    (hrs : evalAll env index es = .ok rs) :
    ∃ rs', evalAll env index es' = .ok rs' ∧ rs.Perm rs' := by
  obtain ⟨rs', hall, hperm⟩ := List.perm_comp_forall₂ h.symm (evalAll_eq_ok.mp hrs)
  exact ⟨rs', evalAll_eq_ok.mpr hall, hperm.symm⟩

theorem extreme_perm {choose : Rat → Rat → Rat} (hcomm : ∀ x y, choose x y = choose y x)
    (hassoc : ∀ x y z, choose (choose x y) z = choose x (choose y z)) {es es' : List Expression}
    (h : es.Perm es') :
    (evalAll env index es >>= evalExtreme choose).toOption =
      (evalAll env index es' >>= evalExtreme choose).toOption := by
  cases hes : evalAll env index es with
  | ok rs =>
      obtain ⟨rs', hes', hperm⟩ := evalAll_perm h hes
      rw [hes']
      exact evalExtreme_perm hcomm hassoc hperm
  | error message =>
      cases hes' : evalAll env index es' with
      | error message' => rfl
      | ok rs' =>
          obtain ⟨rs, hrs, -⟩ := evalAll_perm h.symm hes'
          rw [hes] at hrs
          cases hrs

/-- One of two factors is an integer, and the other one a scalar. -/
def IntegerByScalar (Γ : TypeContext) (left right : Expression) : Prop :=
  (left.typeIn Γ = some .integer ∧ right.typeIn Γ = some .scalar) ∨
    (left.typeIn Γ = some .scalar ∧ right.typeIn Γ = some .integer)

theorem eval_mul_comm (left right : Expression) :
    (eval env index (.mul left right)).toOption.map Evaluated.value =
        (eval env index (.mul right left)).toOption.map Evaluated.value ∧
      (¬ IntegerByScalar env.types left right →
        (eval env index (.mul left right)).toOption =
          (eval env index (.mul right left)).toOption) := by
  constructor
  · exact bind_comm (g := Option.map Evaluated.value) fun a b _ _ => (evalMul_comm a b).1
  · intro hplain
    refine bind_comm (g := id) fun a b ha hb => (evalMul_comm a b).2 fun hleft hright => ?_
    rw [IntegerByScalar, eval_type left ha, eval_type right hb] at hplain
    revert hleft hright hplain
    cases a.type <;> cases b.type <;> simp [NumericType.isPlain]

/-- The expression language is typed up to what a plain number is. -/
theorem eval_well_typed (henv : env.Normalized) (hwhole : env.Integral)
    (hindex : index ≤ 1000000000) :
    (∀ env' index' e e' r r', e.skeleton = e'.skeleton → env.types = env'.types →
      eval env index e = .ok r → eval env' index' e' = .ok r' → r.type = r'.type) ∧
    (∀ e r, e.fits = true → e.wholeIn env.types = true → eval env index e = .ok r →
      r.type = .integer → Integral r.value) ∧
    (∀ left right, (eval env index (.add left right)).toOption =
      (eval env index (.add right left)).toOption) ∧
    (∀ left right, (eval env index (.mul left right)).toOption.map Evaluated.value =
        (eval env index (.mul right left)).toOption.map Evaluated.value ∧
      (¬ IntegerByScalar env.types left right →
        (eval env index (.mul left right)).toOption =
          (eval env index (.mul right left)).toOption)) ∧
    ∀ arguments arguments', List.Perm arguments arguments' →
      (eval env index (.min arguments)).toOption = (eval env index (.min arguments')).toOption ∧
      (eval env index (.max arguments)).toOption = (eval env index (.max arguments')).toOption := by
  refine ⟨?_, ?_, ?_, eval_mul_comm, ?_⟩
  · intro env' index' e e' r r'
    exact eval_type_of_skeleton
  · intro e r hfits he
    exact eval_integral henv hindex hwhole e hfits he
  · intro left right
    exact bind_comm (g := id) fun a b _ _ => evalAdd_comm a b
  · intro arguments arguments' h
    exact ⟨extreme_perm min_comm min_assoc h, extreme_perm max_comm max_assoc h⟩

end

/-- Two and the index of a repetition, added in both orders. -/
theorem index_plus_two_commutes :
    (eval [("two", ⟨.integer, 2⟩)] 1 (.add .index (.variable "two"))).toOption =
      (eval [("two", ⟨.integer, 2⟩)] 1 (.add (.variable "two") .index)).toOption := by
  have henv : Environment.Normalized [("two", ⟨.integer, 2⟩)] := by
    intro v hv
    rw [List.mem_singleton] at hv
    subst hv
    exact ⟨2000000000, by norm_num [quantum], by decide⟩
  have hwhole : Environment.Integral [("two", ⟨.integer, 2⟩)] := by
    intro v hv _
    rw [List.mem_singleton] at hv
    subst hv
    exact ⟨2, by norm_num⟩
  exact (eval_well_typed henv hwhole (by decide)).2.2.1 .index (.variable "two")

/-- A half that is an integer: as a quotient of integers, and as a product that has another type
when its factors change places. -/
theorem half_is_integer :
    (eval [("two", ⟨.integer, 2⟩)] 1 (.div .index (.variable "two"))).toOption =
        some ⟨.integer, 1 / 2⟩ ∧
      (eval [("half", ⟨.scalar, 1 / 2⟩)] 1 (.mul (.variable "half") .index)).toOption =
        some ⟨.integer, 1 / 2⟩ ∧
      (eval [("half", ⟨.scalar, 1 / 2⟩)] 1 (.mul .index (.variable "half"))).toOption =
        some ⟨.scalar, 1 / 2⟩ ∧ ¬ Integral (1 / 2) := by
  refine ⟨by decide +kernel, by decide +kernel, by decide +kernel, ?_⟩
  rintro ⟨n, hn⟩
  have hdouble : (1 : Rat) = (2 * n : Int) := by
    push_cast
    linarith
  have : (1 : Int) = 2 * n := by exact_mod_cast hdouble
  omega

end AutocadMcp.Program
