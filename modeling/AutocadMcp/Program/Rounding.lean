import AutocadMcp.Lib.Folds
import AutocadMcp.Program.Identities

/-!
# Program arithmetic rounds once

The code rounds twice: each operation to the twenty-eight digits of the default context,
and its result to nine decimal places. The operands have nine places and no more than ten
digits before them, so that a sum and a product fit the context. A quotient need not, but
the midpoints between two results are too far from it to be reached.
-/

namespace AutocadMcp.Program

open Decimal

/-! ## One rounding after another -/

/-- The largest result is a number of the context. -/
theorem maxNormalizedAbs_eq : maxNormalizedAbs = (10 : Rat) ^ (9 : Int) := by
  norm_num [maxNormalizedAbs]

theorem abs_inDefault_le {q : Rat} (h : |q| ≤ maxNormalizedAbs) :
    |inDefault q| ≤ maxNormalizedAbs := by
  rw [maxNormalizedAbs_eq] at h ⊢
  exact abs_inContext_le (by norm_num) h

/-- A number that is beyond the largest result by the eighteenth place stays beyond it. -/
theorem lt_abs_inDefault {q : Rat} (h : maxNormalizedAbs + 1 / 10 ^ 18 ≤ |q|) :
    maxNormalizedAbs < |inDefault q| := by
  have hpos : 0 < |q| := by
    have : (0 : Rat) < maxNormalizedAbs + 1 / 10 ^ 18 := by norm_num [maxNormalizedAbs]
    linarith
  have hq : q ≠ 0 := abs_pos.mp hpos
  have hnear := @inContext_near 28 _ hq
  have hplace := @lastPlace_le 28 _ hq
  have htriangle := abs_sub_abs_le_abs_sub q (inContext 28 q)
  rw [abs_sub_comm] at htriangle
  have hpart : |q| * (10 : Rat) ^ (1 - ((28 : Nat) : Int)) = |q| / 10 ^ 27 := by
    rw [show (1 - ((28 : Nat) : Int)) = -27 by norm_num, zpow_neg]
    norm_num
    ring
  rw [hpart] at hplace
  show maxNormalizedAbs < |inContext 28 q|
  norm_num [maxNormalizedAbs] at h ⊢
  linarith

/-- What has to be shown of the exact result of an operation. -/
theorem normalize_inDefault {q : Rat} (hlarge : maxNormalizedAbs < |q| →
      maxNormalizedAbs + 1 / 10 ^ 18 ≤ |q|)
    (hsmall : |q| ≤ maxNormalizedAbs → roundTo quantum (inDefault q) = roundTo quantum q) :
    normalize (inDefault q) = normalize q := by
  unfold normalize
  by_cases h : |q| ≤ maxNormalizedAbs
  · rw [check_true h, check_true (abs_inDefault_le h), hsmall h]
  · have hbeyond := lt_abs_inDefault (hlarge (not_le.mp h))
    rw [check_false h, check_false (not_le.mpr hbeyond)]
    rfl

/-- A result with no more than nineteen places fits the context where it is accepted. -/
theorem inDefault_of_places {q : Rat} {n : Int} (h : q = n / 10 ^ 19)
    (hbound : |q| ≤ maxNormalizedAbs) : inDefault q = q := by
  rw [maxNormalizedAbs_eq] at hbound
  rcases hbound.lt_or_eq with hlt | heq
  · refine inContext_of_multiple (n := n) (k := -19) ?_ (by norm_num at hlt ⊢; exact hlt)
    rw [h, zpow_neg]
    norm_num
    ring
  · exact inContext_of_pow (by norm_num) heq

/-- Results with nineteen places that do not come too near to the largest one from above. -/
theorem normalize_inDefault_of_gap {q : Rat} {n : Int} (h : q = n / 10 ^ 19)
    (hgap : 10 ^ 28 < |n| → 10 ^ 28 + 10 ≤ |n|) : normalize (inDefault q) = normalize q := by
  refine normalize_inDefault (fun hlarge => ?_) fun hsmall => ?_
  · have hscaled : |q| = (|n| : Int) / 10 ^ 19 := by
      rw [h, abs_div, Int.cast_abs, abs_of_pos (show (0 : Rat) < 10 ^ 19 by norm_num)]
    rw [hscaled, maxNormalizedAbs] at hlarge ⊢
    have hinteger : (10 ^ 28 : Int) < |n| := by
      have : (10 ^ 28 : Rat) < (|n| : Int) := by
        rw [lt_div_iff₀ (by norm_num)] at hlarge
        norm_num at hlarge ⊢
        linarith
      exact_mod_cast this
    have hnext : (10 ^ 28 : Rat) + 10 ≤ (|n| : Int) := by exact_mod_cast hgap hinteger
    rw [le_div_iff₀ (by norm_num)]
    norm_num at hnext ⊢
    linarith
  · rw [inDefault_of_places h hsmall]

/-- Results with eighteen places, such as sums and products, are rounded once. -/
theorem normalize_inDefault_of_places {q : Rat} {n : Int} (h : q = n / 10 ^ 18) :
    normalize (inDefault q) = normalize q := by
  refine normalize_inDefault_of_gap (n := n * 10) ?_ ?_
  · rw [h]
    push_cast
    ring
  · rw [abs_mul]
    norm_num
    omega

section

variable {a b : Rat}

theorem Normalized.places (ha : Normalized a) : ∃ n : Int, a = n / 10 ^ 9 := by
  obtain ⟨k, rfl, -⟩ := ha
  exact ⟨k, by rw [quantum]; ring⟩

theorem normalize_neg (ha : Normalized a) : normalize (inDefault (-a)) = normalize (-a) := by
  obtain ⟨n, rfl⟩ := ha.places
  refine normalize_inDefault_of_places (n := -n * 10 ^ 9) ?_
  push_cast
  ring

theorem normalize_abs (ha : Normalized a) : normalize (inDefault |a|) = normalize |a| := by
  obtain ⟨n, rfl⟩ := ha.places
  refine normalize_inDefault_of_places (n := |n| * 10 ^ 9) ?_
  rw [abs_div, abs_of_pos (show (0 : Rat) < 10 ^ 9 by norm_num)]
  push_cast
  ring

theorem normalize_add (ha : Normalized a) (hb : Normalized b) :
    normalize (inDefault (a + b)) = normalize (a + b) := by
  obtain ⟨n, rfl⟩ := ha.places
  obtain ⟨m, rfl⟩ := hb.places
  refine normalize_inDefault_of_places (n := (n + m) * 10 ^ 9) ?_
  push_cast
  ring

theorem normalize_sub (ha : Normalized a) (hb : Normalized b) :
    normalize (inDefault (a - b)) = normalize (a - b) := by
  obtain ⟨n, rfl⟩ := ha.places
  obtain ⟨m, rfl⟩ := hb.places
  refine normalize_inDefault_of_places (n := (n - m) * 10 ^ 9) ?_
  push_cast
  ring

theorem normalize_mul (ha : Normalized a) (hb : Normalized b) :
    normalize (inDefault (a * b)) = normalize (a * b) := by
  obtain ⟨n, rfl⟩ := ha.places
  obtain ⟨m, rfl⟩ := hb.places
  refine normalize_inDefault_of_places (n := n * m) ?_
  push_cast
  ring

/-! ## Quotients -/

/-- A quotient that is no midpoint keeps away from each of them. -/
theorem quotient_midpoint {n m k : Int} (hm : m ≠ 0)
    (hne : (n : Rat) / m ≠ (k + 1 / 2) * quantum) :
    1 / (2 * 10 ^ 9 * |(m : Rat)|) ≤ |(n : Rat) / m - (k + 1 / 2) * quantum| := by
  have hm' : (m : Rat) ≠ 0 := by exact_mod_cast hm
  have hdiff : (n : Rat) / m - (k + 1 / 2) * quantum =
      ((2 * 10 ^ 9 * n - (2 * k + 1) * m : Int) : Rat) / (2 * 10 ^ 9 * m) := by
    rw [quantum]
    push_cast
    field_simp
    ring
  have hnum : (1 : Rat) ≤ |((2 * 10 ^ 9 * n - (2 * k + 1) * m : Int) : Rat)| := by
    rw [← Int.cast_abs]
    have hzero : 2 * 10 ^ 9 * n - (2 * k + 1) * m ≠ 0 := by
      intro hzero
      rw [hzero, Int.cast_zero, zero_div, sub_eq_zero] at hdiff
      exact hne hdiff
    exact_mod_cast Int.one_le_abs hzero
  rw [hdiff, abs_div, abs_mul, abs_of_pos (show (0 : Rat) < 2 * 10 ^ 9 by norm_num)]
  exact div_le_div_of_nonneg_right hnum (by positivity)

/-- A quotient of numbers below a bound that is above the largest result is so by a place that
the bound gives. -/
theorem quotient_beyond {n m : Int} (hm : m ≠ 0) (hbound : |m| ≤ 10 ^ 18)
    (h : maxNormalizedAbs < |(n : Rat) / m|) : maxNormalizedAbs + 1 / 10 ^ 18 ≤ |(n : Rat) / m| := by
  have hpos : (0 : Rat) < (|m| : Int) := by exact_mod_cast abs_pos.mpr hm
  rw [abs_div, ← Int.cast_abs, ← Int.cast_abs] at h ⊢
  rw [maxNormalizedAbs, lt_div_iff₀ hpos] at h
  have hnext : (1000000000 : Rat) * (|m| : Int) + 1 ≤ (|n| : Int) := by exact_mod_cast h
  have hm' : ((|m| : Int) : Rat) ≤ 10 ^ 18 := by exact_mod_cast hbound
  rw [maxNormalizedAbs, le_div_iff₀ hpos]
  have hplace : 1 / 10 ^ 18 * ((|m| : Int) : Rat) ≤ 1 := by
    rw [one_div, inv_mul_le_iff₀ (by norm_num)]
    linarith
  linarith

/-- Rounding a quotient to the digits of the context does not reach a midpoint. -/
theorem inDefault_div_near {n m k : Int} (hn : n ≠ 0) (hm : m ≠ 0) (hbound : |n| ≤ 10 ^ 18)
    (hpower : |(n : Rat) / m| ≠ (10 : Rat) ^ leadingExponent ((n : Rat) / m))
    (hne : (n : Rat) / m ≠ (k + 1 / 2) * quantum) :
    |inDefault ((n : Rat) / m) - (n : Rat) / m| < |(n : Rat) / m - (k + 1 / 2) * quantum| := by
  have hm' : (0 : Rat) < |(m : Rat)| := by
    rw [abs_pos]
    exact_mod_cast hm
  have hq : (n : Rat) / m ≠ 0 := div_ne_zero (by exact_mod_cast hn) (by exact_mod_cast hm)
  have hn' : |(n : Rat)| ≤ 10 ^ 18 := by
    rw [← Int.cast_abs]
    exact_mod_cast hbound
  -- the more digits a quotient has before its point, the smaller is its denominator
  have hdenominator : (10 : Rat) ^ leadingExponent ((n : Rat) / m) * |(m : Rat)| < 10 ^ 18 := by
    have hlow := (pow_leadingExponent_le hq).lt_of_ne hpower.symm
    rw [abs_div, lt_div_iff₀ hm'] at hlow
    exact hlow.trans_le hn'
  refine (inContext_near hq).trans_lt (lt_of_lt_of_le ?_ (quotient_midpoint hm hne))
  rw [lastPlace, show leadingExponent ((n : Rat) / m) - ((28 : Nat) : Int) + 1 =
    leadingExponent ((n : Rat) / m) + -27 by push_cast; ring, zpow_add₀ (by norm_num),
    lt_div_iff₀ (by positivity)]
  have hscale : ((10 : Rat) ^ (-27 : Int)) = 1 / 10 ^ 27 := by norm_num
  rw [hscale]
  linarith

theorem normalize_div (ha : Normalized a) (hb : Normalized b) (hne : b ≠ 0) :
    normalize (inDefault (a / b)) = normalize (a / b) := by
  obtain ⟨n, rfl, hn⟩ := ha
  obtain ⟨m, rfl, hm⟩ := hb
  have hm0 : m ≠ 0 := by
    rintro rfl
    simp at hne
  rw [mul_div_mul_right _ _ quantum_pos.ne']
  refine normalize_inDefault (quotient_beyond hm0 (by simpa using hm)) fun hsmall => ?_
  by_cases hn0 : n = 0
  · rw [hn0, Int.cast_zero, zero_div, inDefault, inContext_zero]
  · by_cases hmid : ∃ k : Int, (n : Rat) / m = (k + 1 / 2) * quantum
    · -- a midpoint has ten places
      obtain ⟨k, hk⟩ := hmid
      rw [inDefault_of_places (n := (2 * k + 1) * 5 * 10 ^ 9) ?_ hsmall]
      rw [hk, quantum]
      push_cast
      ring
    · by_cases hpower : |(n : Rat) / m| = (10 : Rat) ^ leadingExponent ((n : Rat) / m)
      · rw [inDefault, inContext_of_pow (by norm_num) hpower]
      · exact roundTo_congr quantum_pos fun k =>
          inDefault_div_near hn0 hm0 (by simpa using hn) hpower fun hk => hmid ⟨k, hk⟩

end

/-! ## Literals -/

/-- The value of a literal in millimetres or radians, or as it is. -/
def exactLiteral (v : NumericValue) (raw : Rat) : Rat :=
  match v.type, v.unit with
  | .length, some unit => raw * unit.factor
  | .angle, some .deg => raw * piText / 180
  | _, _ => raw

/-- A number with at most eighteen digits behind its point, and its negative. -/
theorem signed_places {negative fits : Bool} {whole length : Nat} {fraction : List Char} {raw : Rat}
    (h : (if fits then some (if negative then -((whole : Rat) + digitsValue fraction / 10 ^ length)
      else (whole : Rat) + digitsValue fraction / 10 ^ length) else none) = some raw)
    (hlength : fits → length ≤ 18) : ∃ n : Int, raw = n / 10 ^ 18 := by
  split at h
  case isFalse => cases h
  case isTrue hfits =>
    obtain ⟨rest, hrest⟩ := Nat.exists_eq_add_of_le (hlength hfits)
    have hpow : (10 : Rat) ^ 18 = 10 ^ length * 10 ^ rest := by rw [← pow_add, ← hrest]
    have hfraction : (digitsValue fraction : Rat) / 10 ^ length =
        digitsValue fraction * 10 ^ rest / 10 ^ 18 := by
      rw [hpow, mul_div_mul_right _ _ (by positivity)]
    have hvalue : (whole : Rat) + digitsValue fraction / 10 ^ length =
        ((whole * 10 ^ 18 + digitsValue fraction * 10 ^ rest : Int) : Rat) / 10 ^ 18 := by
      rw [hfraction]
      push_cast
      ring
    rw [Option.some.injEq, hvalue] at h
    split at h
    · exact ⟨_, by rw [← h, Int.cast_neg, neg_div]⟩
    · exact ⟨_, h.symm⟩

/-- A text has no more than eighteen places. -/
theorem decimal?_places {text : String} {raw : Rat} (h : decimal? text = some raw) :
    ∃ n : Int, raw = n / 10 ^ 18 := by
  unfold decimal? at h
  dsimp only at h
  split at h
  · exact signed_places h fun _ => Nat.zero_le 18
  · refine signed_places h fun hfits => ?_
    simp only [Bool.and_eq_true, decide_eq_true_eq] at hfits
    exact hfits.1.1.2
  · exact signed_places h fun _ => Nat.zero_le 18


theorem parseDecimal_ok {text : String} {raw : Rat} (h : parseDecimal text = .ok raw) :
    decimal? text = some raw := by
  unfold parseDecimal at h
  split at h
  case h_1 => cases h
  case h_2 value heq =>
    obtain ⟨_, -, h⟩ := bind_eq_ok.mp h
    cases h
    exact heq

/-- A number with eighteen places times a unit. The products of inches and feet have nineteen,
and none of them is within the last ten of these above the largest result. -/
theorem normalize_factor {raw : Rat} {n : Int} (h : raw = n / 10 ^ 18) (unit : NumericUnit) :
    normalize (inDefault (raw * unit.factor)) = normalize (raw * unit.factor) := by
  have hwhole : ∀ m : Int, unit.factor = m →
      normalize (inDefault (raw * unit.factor)) = normalize (raw * unit.factor) := by
    intro m hm
    refine normalize_inDefault_of_places (n := n * m) ?_
    rw [h, hm]
    push_cast
    ring
  have htenth : ∀ m : Int, unit.factor = m / 10 → (10 ^ 28 < |n * m| → 10 ^ 28 + 10 ≤ |n * m|) →
      normalize (inDefault (raw * unit.factor)) = normalize (raw * unit.factor) := by
    intro m hm hgap
    refine normalize_inDefault_of_gap (n := n * m) ?_ hgap
    rw [h, hm]
    push_cast
    ring
  cases unit with
  | inch =>
      refine htenth 254 (by norm_num [NumericUnit.factor]) ?_
      rw [abs_mul]
      norm_num
      omega
  | ft =>
      refine htenth 3048 (by norm_num [NumericUnit.factor]) ?_
      rw [abs_mul]
      norm_num
      omega
  | cm => exact hwhole 10 (by norm_num [NumericUnit.factor])
  | m => exact hwhole 1000 (by norm_num [NumericUnit.factor])
  | mm | rad | deg => exact hwhole 1 (by norm_num [NumericUnit.factor])

/-- A literal whose unit is not the degree is rounded once. -/
theorem normalizeValue_eq {v : NumericValue} (hdegrees : ¬ (v.type = .angle ∧ v.unit = some .deg)) :
    normalizeValue v = (do
      let raw ← parseDecimal v.value
      return ⟨v.type, ← normalize (exactLiteral v raw)⟩) := by
  unfold normalizeValue
  cases hparse : parseDecimal v.value with
  | error message => rfl
  | ok raw =>
      obtain ⟨n, hn⟩ := decimal?_places (parseDecimal_ok hparse)
      obtain ⟨type, text, unit⟩ := v
      show (do return ⟨type, ← normalize _⟩ : Except Invalid Evaluated) = do
        return ⟨type, ← normalize (exactLiteral ⟨type, text, unit⟩ raw)⟩
      congr 1
      cases type with
      | integer | scalar => rfl
      | length =>
          cases unit with
          | none => rfl
          | some unit => exact normalize_factor hn unit
      | angle =>
          cases unit with
          | none => rfl
          | some unit =>
              cases unit with
              | deg => exact absurd ⟨rfl, rfl⟩ hdegrees
              | mm | cm | m | inch | ft | rad => rfl

/-! ## Expressions -/

/-- The values of a source's variables, which `_normalize_value` gave. -/
def Environment.Normalized (env : Environment) : Prop := ∀ v ∈ env, Program.Normalized v.2.value

theorem Normalized.abs_le {a : Rat} (h : Normalized a) : |a| ≤ maxNormalizedAbs := by
  obtain ⟨k, rfl, hk⟩ := h
  have hk' : ((|k| : Int) : Rat) ≤ 1000000000000000000 := by exact_mod_cast hk
  rw [abs_mul, abs_of_pos quantum_pos, ← Int.cast_abs, maxNormalizedAbs, quantum]
  linarith

theorem Normalized.roundTo_eq {a : Rat} (h : Normalized a) : roundTo quantum a = a := by
  obtain ⟨k, rfl, -⟩ := h
  exact roundTo_of_multiple quantum_pos.ne' k

theorem normalized_natCast {n : Nat} (h : n ≤ 1000000000) : Normalized n := by
  refine ⟨n * 1000000000, ?_, ?_⟩
  · rw [quantum]
    push_cast
    ring
  · rw [abs_of_nonneg (by positivity)]
    omega

theorem evalUnary_normalized {x : Rat} {type : NumericType} {r : Evaluated}
    (h : evalUnary x type = .ok r) : Normalized r.value := by
  obtain ⟨value, hvalue, h⟩ := bind_eq_ok.mp h
  cases h
  exact normalized_of_normalize hvalue

/-- The operators on two operands end in a normalization. -/
theorem evalMul_normalized {a b r : Evaluated} (h : evalMul a b = .ok r) : Normalized r.value := by
  unfold evalMul at h
  split at h
  · exact evalUnary_normalized h
  · split at h
    · exact evalUnary_normalized h
    · cases h

theorem evalDiv_normalized {a b r : Evaluated} (h : evalDiv a b = .ok r) : Normalized r.value := by
  obtain ⟨_, -, h⟩ := bind_eq_ok.mp h
  split at h
  · exact evalUnary_normalized h
  · split at h
    · exact evalUnary_normalized h
    · cases h

theorem evalAddSub_normalized {combine : Rat → Rat → Rat} {a b r : Evaluated}
    (h : evalAddSub combine a b = .ok r) : Normalized r.value := by
  obtain ⟨_, -, h⟩ := bind_eq_ok.mp h
  exact evalUnary_normalized h

theorem evalExtreme_normalized {choose : Rat → Rat → Rat}
    (hchoose : ∀ x y, choose x y = x ∨ choose x y = y) {values : List Evaluated} {r : Evaluated}
    (hvalues : ∀ v ∈ values, Normalized v.value) (h : evalExtreme choose values = .ok r) :
    Normalized r.value := by
  cases values with
  | nil => cases h
  | cons v vs =>
      obtain ⟨_, -, h⟩ := bind_eq_ok.mp h
      cases h
      refine foldl_choose hchoose _ _ (hvalues v List.mem_cons_self) fun w hw => ?_
      obtain ⟨x, hx, rfl⟩ := List.mem_map.mp hw
      exact hvalues x (List.mem_cons_of_mem v hx)

theorem lookupVariable_mem {env : Environment} {name : String} {r : Evaluated}
    (h : lookupVariable env name = .ok r) : ∃ v ∈ env, v.2 = r := by
  unfold lookupVariable at h
  split at h
  case h_1 v hv =>
    cases h
    exact ⟨v, List.mem_of_find?_eq_some hv, rfl⟩
  case h_2 => cases h

section

variable {env : Environment} {index : Nat}

mutual

/-- What an expression evaluates to has nine places. -/
theorem eval_normalized (henv : env.Normalized) (hindex : index ≤ 1000000000) (e : Expression)
    {r : Evaluated} (h : eval env index e = .ok r) : Normalized r.value := by
  cases e with
  | literal v =>
      obtain ⟨raw, -, h⟩ := bind_eq_ok.mp h
      obtain ⟨value, hvalue, h⟩ := bind_eq_ok.mp h
      cases h
      exact normalized_of_normalize hvalue
  | «variable» name =>
      obtain ⟨v, hv, rfl⟩ := lookupVariable_mem h
      exact henv v hv
  | index =>
      cases h
      exact normalized_natCast hindex
  | neg operand | abs operand =>
      obtain ⟨v, -, h⟩ := bind_eq_ok.mp h
      exact evalUnary_normalized h
  | add left right | sub left right =>
      obtain ⟨a, -, h⟩ := bind_eq_ok.mp h
      obtain ⟨b, -, h⟩ := bind_eq_ok.mp h
      exact evalAddSub_normalized h
  | mul left right =>
      obtain ⟨a, -, h⟩ := bind_eq_ok.mp h
      obtain ⟨b, -, h⟩ := bind_eq_ok.mp h
      exact evalMul_normalized h
  | div left right =>
      obtain ⟨a, -, h⟩ := bind_eq_ok.mp h
      obtain ⟨b, -, h⟩ := bind_eq_ok.mp h
      exact evalDiv_normalized h
  | min arguments =>
      obtain ⟨values, hvalues, h⟩ := bind_eq_ok.mp h
      exact evalExtreme_normalized min_choice (evalAll_normalized henv hindex arguments hvalues) h
  | max arguments =>
      obtain ⟨values, hvalues, h⟩ := bind_eq_ok.mp h
      exact evalExtreme_normalized max_choice (evalAll_normalized henv hindex arguments hvalues) h
  | convert operand unit =>
      obtain ⟨v, hv, h⟩ := bind_eq_ok.mp h
      obtain ⟨_, -, h⟩ := bind_eq_ok.mp h
      cases h
      exact eval_normalized henv hindex operand hv

theorem evalAll_normalized (henv : env.Normalized) (hindex : index ≤ 1000000000)
    (es : List Expression) {rs : List Evaluated} (h : evalAll env index es = .ok rs) :
    ∀ r ∈ rs, Normalized r.value := by
  cases es with
  | nil =>
      cases h
      simp
  | cons e es =>
      obtain ⟨r, hr, h⟩ := bind_eq_ok.mp h
      obtain ⟨rs, hrs, h⟩ := bind_eq_ok.mp h
      cases h
      intro s hs
      rcases List.mem_cons.mp hs with rfl | hs
      · exact eval_normalized henv hindex e hr
      · exact evalAll_normalized henv hindex es hrs s hs

end

/-- The operands of an expression, in the order in which they are evaluated. -/
def Expression.operands : Expression → List Expression
  | .literal _ | .variable _ | .index => []
  | .neg operand | .abs operand | .convert operand _ => [operand]
  | .add left right | .sub left right | .mul left right | .div left right => [left, right]
  | .min arguments | .max arguments => arguments

/-- The type and the exact value of an operator's result on the values of its operands, where the
operator takes them. -/
def exactResult (env : Environment) (index : Nat) (e : Expression)
    (operands : List Evaluated) : Option (NumericType × Rat) :=
  match e, operands with
  | .literal v, _ => (decimal? v.value).map fun raw => (v.type, exactLiteral v raw)
  | .variable name, _ => (env.find? fun v => v.1 = name).map fun v => (v.2.type, v.2.value)
  | .index, _ => some (.integer, index)
  | .neg _, [v] => some (v.type, -v.value)
  | .abs _, [v] => some (v.type, |v.value|)
  | .convert _ unit, [v] => if v.type = unit.measures then some (v.type, v.value) else none
  | .add _ _, [a, b] => if a.type = b.type then some (a.type, a.value + b.value) else none
  | .sub _ _, [a, b] => if a.type = b.type then some (a.type, a.value - b.value) else none
  | .mul _ _, [a, b] =>
      if a.type.isPlain then some (b.type, a.value * b.value)
      else if b.type.isPlain then some (a.type, a.value * b.value)
      else none
  | .div _ _, [a, b] =>
      if b.value = 0 then none
      else if b.type.isPlain then some (a.type, a.value / b.value)
      else if a.type = b.type then some (.scalar, a.value / b.value)
      else none
  | .min _, v :: vs =>
      if ∀ w ∈ vs, w.type = v.type then
        some (v.type, (vs.map Evaluated.value).foldl min v.value)
      else none
  | .max _, v :: vs =>
      if ∀ w ∈ vs, w.type = v.type then
        some (v.type, (vs.map Evaluated.value).foldl max v.value)
      else none
  | _, _ => none

/-- The messages that reject a magnitude. -/
def magnitudeMessages : List Invalid :=
  ["normalized number exceeds compiler ceiling", "decimal is non-finite or exceeds literal ceiling"]

/-- A result is the exact one rounded half to even to nine places, is rejected for its magnitude
where the exact one is above the ceiling, and is rejected otherwise where there is no exact one. -/
def RoundsOnce (exact : Option (NumericType × Rat)) (result : Except Invalid Evaluated) : Prop :=
  match exact with
  | some (type, x) =>
      if |x| ≤ maxNormalizedAbs then result = .ok ⟨type, roundTo quantum x⟩
      else ∃ message ∈ magnitudeMessages, result = .error message
  | none => ∃ message, message ∉ magnitudeMessages ∧ result = .error message

theorem roundsOnce_evalUnary (type : NumericType) (x : Rat) :
    RoundsOnce (some (type, x)) (evalUnary x type) := by
  show if |x| ≤ maxNormalizedAbs then _ else _
  split
  case isTrue h => rw [evalUnary, normalize, check_true h]; rfl
  case isFalse h =>
    refine ⟨_, List.mem_cons_self, ?_⟩
    rw [evalUnary, normalize, check_false h]
    rfl

/-- A value with nine places that is not rounded again. -/
theorem roundsOnce_normalized (type : NumericType) {x : Rat} (h : Normalized x) :
    RoundsOnce (some (type, x)) (.ok ⟨type, x⟩) := by
  show if |x| ≤ maxNormalizedAbs then _ else _
  rw [if_pos h.abs_le]
  rw [h.roundTo_eq]

/-- The operators refuse operands with messages of their own. -/
theorem roundsOnce_refused {message : Invalid} (h : message ∉ magnitudeMessages) :
    RoundsOnce none (.error message) := ⟨message, h, rfl⟩

theorem roundsOnce_evalAddSub {combine : Rat → Rat → Rat} {a b : Evaluated}
    (hexact : normalize (inDefault (combine a.value b.value)) =
      normalize (combine a.value b.value)) :
    RoundsOnce (if a.type = b.type then some (a.type, combine a.value b.value) else none)
      (evalAddSub combine a b) := by
  unfold evalAddSub
  split
  case isTrue h =>
    rw [check_true h]
    show RoundsOnce _ (evalUnary _ _)
    rw [evalUnary, hexact]
    exact roundsOnce_evalUnary _ _
  case isFalse h =>
    rw [check_false h]
    exact roundsOnce_refused (by decide)

theorem roundsOnce_evalMul {a b : Evaluated} (ha : Normalized a.value) (hb : Normalized b.value) :
    RoundsOnce (if a.type.isPlain then some (b.type, a.value * b.value)
      else if b.type.isPlain then some (a.type, a.value * b.value) else none) (evalMul a b) := by
  have hexact : ∀ type, evalUnary (inDefault (a.value * b.value)) type =
      evalUnary (a.value * b.value) type := by
    intro type
    rw [evalUnary, normalize_mul ha hb]
    rfl
  unfold evalMul
  split
  · rw [hexact]
    exact roundsOnce_evalUnary _ _
  · split
    · rw [hexact]
      exact roundsOnce_evalUnary _ _
    · exact roundsOnce_refused (by decide)

theorem roundsOnce_evalDiv {a b : Evaluated} (ha : Normalized a.value) (hb : Normalized b.value) :
    RoundsOnce (if b.value = 0 then none
      else if b.type.isPlain then some (a.type, a.value / b.value)
      else if a.type = b.type then some (.scalar, a.value / b.value) else none) (evalDiv a b) := by
  unfold evalDiv
  by_cases hzero : b.value = 0
  · rw [if_pos hzero, check_false (not_not.mpr hzero)]
    exact roundsOnce_refused (by decide)
  · have hexact : ∀ type, evalUnary (inDefault (a.value / b.value)) type =
        evalUnary (a.value / b.value) type := by
      intro type
      rw [evalUnary, normalize_div ha hb hzero]
      rfl
    rw [if_neg hzero, check_true hzero]
    show RoundsOnce _ (if _ then _ else _)
    split
    · rw [hexact]
      exact roundsOnce_evalUnary _ _
    · split
      · rw [hexact]
        exact roundsOnce_evalUnary _ _
      · exact roundsOnce_refused (by decide)

theorem roundsOnce_evalExtreme {choose : Rat → Rat → Rat}
    (hchoose : ∀ x y, choose x y = x ∨ choose x y = y) {v : Evaluated} {vs : List Evaluated}
    (hvalues : ∀ w ∈ v :: vs, Normalized w.value) :
    RoundsOnce (if ∀ w ∈ vs, w.type = v.type then
      some (v.type, (vs.map Evaluated.value).foldl choose v.value) else none)
      (evalExtreme choose (v :: vs)) := by
  have hchecked : evalExtreme choose (v :: vs) = (do
      check (∀ w ∈ vs, w.type = v.type) "min/max arguments must have one type"
      return ⟨v.type, (vs.map Evaluated.value).foldl choose v.value⟩) := rfl
  split
  case isTrue h =>
    have hok : evalExtreme choose (v :: vs) =
        .ok ⟨v.type, (vs.map Evaluated.value).foldl choose v.value⟩ := by
      rw [hchecked, check_true h]
      rfl
    rw [hok]
    exact roundsOnce_normalized _ (evalExtreme_normalized hchoose hvalues hok)
  case isFalse h =>
    rw [hchecked, check_false h]
    exact roundsOnce_refused (by decide)

theorem abs_le_abs_exactLiteral {v : NumericValue} (raw : Rat)
    (hdegrees : ¬ (v.type = .angle ∧ v.unit = some .deg)) : |raw| ≤ |exactLiteral v raw| := by
  unfold exactLiteral
  split
  case h_1 unit _ _ =>
    rw [abs_mul]
    refine le_mul_of_one_le_right (abs_nonneg raw) ?_
    cases unit <;> norm_num [NumericUnit.factor]
  case h_2 htype hunit => exact absurd ⟨htype, hunit⟩ hdegrees
  case h_3 => exact le_rfl

/-- A literal that its own ceiling rejects is above the one of the results as well. -/
theorem roundsOnce_literal {v : NumericValue}
    (hdegrees : ¬ (v.type = .angle ∧ v.unit = some .deg)) :
    RoundsOnce ((decimal? v.value).map fun raw => (v.type, exactLiteral v raw))
      (normalizeValue v) := by
  rw [normalizeValue_eq hdegrees, parseDecimal]
  cases decimal? v.value with
  | none => exact roundsOnce_refused (by decide)
  | some raw =>
      show RoundsOnce (some (v.type, exactLiteral v raw)) _
      by_cases hliteral : |raw| ≤ maxLiteralAbs
      · dsimp only
        rw [check_true hliteral]
        exact roundsOnce_evalUnary v.type (exactLiteral v raw)
      · have hlarge : ¬ |exactLiteral v raw| ≤ maxNormalizedAbs := by
          have := abs_le_abs_exactLiteral raw hdegrees
          norm_num [maxLiteralAbs, maxNormalizedAbs] at hliteral ⊢
          linarith
        dsimp only
        rw [check_false hliteral]
        show if |exactLiteral v raw| ≤ maxNormalizedAbs then _ else _
        rw [if_neg hlarge]
        exact ⟨_, List.mem_cons_of_mem _ List.mem_cons_self, rfl⟩

theorem unknownVariable_notMem (name : String) :
    s!"unknown variable: {name}" ∉ magnitudeMessages := by
  intro h
  have hhead : ("unknown variable: " ++ name).toList.head? ∈
      magnitudeMessages.map fun message => message.toList.head? :=
    List.mem_map_of_mem h
  rw [String.toList_append] at hhead
  revert hhead
  simp [magnitudeMessages]

theorem roundsOnce_variable {name : String} (henv : env.Normalized) :
    RoundsOnce ((env.find? fun v => v.1 = name).map fun v => (v.2.type, v.2.value))
      (lookupVariable env name) := by
  unfold lookupVariable
  cases hfound : env.find? fun v => v.1 = name with
  | some v => exact roundsOnce_normalized _ (henv v (List.mem_of_find?_eq_some hfound))
  | none => exact roundsOnce_refused (unknownVariable_notMem name)

/-- A literal of an angle in degrees, whose value in radians has no end of places. -/
def Expression.inDegrees : Expression → Prop
  | .literal v => v.type = .angle ∧ v.unit = some .deg
  | _ => False

/-- The statement for an operator on one operand. -/
theorem rounds_unary {operand : Expression} {f : List Evaluated → Option (NumericType × Rat)}
    {body : Evaluated → Except Invalid Evaluated} (henv : env.Normalized)
    (hindex : index ≤ 1000000000)
    (h : ∀ v, Normalized v.value → RoundsOnce (f [v]) (body v)) :
    match evalAll env index [operand] with
    | .error message => (eval env index operand >>= body) = .error message
    | .ok operands => RoundsOnce (f operands) (eval env index operand >>= body) := by
  rw [evalAll]
  cases hv : eval env index operand with
  | error message => rfl
  | ok v => exact h v (eval_normalized henv hindex operand hv)

/-- The statement for an operator on two operands. -/
theorem rounds_binary {left right : Expression}
    {f : List Evaluated → Option (NumericType × Rat)}
    {body : Evaluated → Evaluated → Except Invalid Evaluated} (henv : env.Normalized)
    (hindex : index ≤ 1000000000)
    (h : ∀ a b, Normalized a.value → Normalized b.value → RoundsOnce (f [a, b]) (body a b)) :
    match evalAll env index [left, right] with
    | .error message =>
        (eval env index left >>= fun a => eval env index right >>= body a) = .error message
    | .ok operands =>
        RoundsOnce (f operands)
          (eval env index left >>= fun a => eval env index right >>= body a) := by
  rw [evalAll, evalAll]
  cases ha : eval env index left with
  | error message => rfl
  | ok a =>
      cases hb : eval env index right with
      | error message => rfl
      | ok b =>
          exact h a b (eval_normalized henv hindex left ha) (eval_normalized henv hindex right hb)

/-- The statement for `min` and `max`. -/
theorem rounds_extreme {arguments : List Expression}
    {f : List Evaluated → Option (NumericType × Rat)} {choose : Rat → Rat → Rat}
    (hchoose : ∀ x y, choose x y = x ∨ choose x y = y) (henv : env.Normalized)
    (hindex : index ≤ 1000000000) (hnil : f [] = none)
    (hcons : ∀ v vs, f (v :: vs) = if ∀ w ∈ vs, w.type = v.type then
      some (v.type, (vs.map Evaluated.value).foldl choose v.value) else none) :
    match evalAll env index arguments with
    | .error message => (evalAll env index arguments >>= evalExtreme choose) = .error message
    | .ok operands =>
        RoundsOnce (f operands) (evalAll env index arguments >>= evalExtreme choose) := by
  cases hvalues : evalAll env index arguments with
  | error message => rfl
  | ok values =>
      have hnormalized := evalAll_normalized henv hindex arguments hvalues
      cases values with
      | nil =>
          show RoundsOnce (f []) _
          rw [hnil]
          exact roundsOnce_refused (by decide)
      | cons v vs =>
          show RoundsOnce (f (v :: vs)) (evalExtreme choose (v :: vs))
          rw [hcons]
          exact roundsOnce_evalExtreme hchoose hnormalized

/-- Every node of an expression rounds once. -/
theorem eval_rounds_once (e : Expression) (hdegrees : ¬ e.inDegrees) (henv : env.Normalized)
    (hindex : index ≤ 1000000000) :
    match evalAll env index e.operands with
    | .error message => eval env index e = .error message
    | .ok operands => RoundsOnce (exactResult env index e operands) (eval env index e) := by
  cases e with
  | literal v => exact roundsOnce_literal hdegrees
  | «variable» name => exact roundsOnce_variable henv
  | index => exact roundsOnce_normalized _ (normalized_natCast hindex)
  | neg operand =>
      refine rounds_unary (f := exactResult env index (.neg operand)) henv hindex fun v hv => ?_
      rw [evalUnary, normalize_neg hv]
      exact roundsOnce_evalUnary v.type (-v.value)
  | abs operand =>
      refine rounds_unary (f := exactResult env index (.abs operand)) henv hindex fun v hv => ?_
      rw [evalUnary, normalize_abs hv]
      exact roundsOnce_evalUnary v.type |v.value|
  | convert operand unit =>
      refine rounds_unary (f := exactResult env index (.convert operand unit)) henv hindex
        fun v hv => ?_
      show RoundsOnce (if v.type = unit.measures then _ else _) _
      split
      case isTrue h =>
        rw [check_true h]
        exact roundsOnce_normalized v.type hv
      case isFalse h =>
        rw [check_false h]
        exact roundsOnce_refused (by decide)
  | add left right =>
      exact rounds_binary (f := exactResult env index (.add left right)) henv hindex
        fun a b ha hb => roundsOnce_evalAddSub (normalize_add ha hb)
  | sub left right =>
      exact rounds_binary (f := exactResult env index (.sub left right)) henv hindex
        fun a b ha hb => roundsOnce_evalAddSub (normalize_sub ha hb)
  | mul left right =>
      exact rounds_binary (f := exactResult env index (.mul left right)) henv hindex
        fun a b ha hb => roundsOnce_evalMul ha hb
  | div left right =>
      exact rounds_binary (f := exactResult env index (.div left right)) henv hindex
        fun a b ha hb => roundsOnce_evalDiv ha hb
  | min arguments =>
      exact rounds_extreme (f := exactResult env index (.min arguments)) min_choice henv hindex
        rfl fun v vs => rfl
  | max arguments =>
      exact rounds_extreme (f := exactResult env index (.max arguments)) max_choice henv hindex
        rfl fun v vs => rfl

end

/-- An inch divided by the index of the third repetition. -/
theorem inch_by_index_rounds_once :
    RoundsOnce (some (.length, 254 / 10 / 3))
      (eval [("width", ⟨.length, 254 / 10⟩)] 3 (.div (.variable "width") .index)) := by
  have henv : Environment.Normalized [("width", ⟨.length, 254 / 10⟩)] := by
    rintro v hv
    rw [List.mem_singleton] at hv
    subst hv
    exact ⟨25400000000, by norm_num [quantum], by decide⟩
  have h := eval_rounds_once (.div (.variable "width") .index) id henv
    (show 3 ≤ 1000000000 by decide)
  rw [show evalAll [("width", ⟨.length, 254 / 10⟩)] 3
    (Expression.div (.variable "width") .index).operands =
      .ok [⟨.length, 254 / 10⟩, ⟨.integer, 3⟩] from rfl] at h
  simpa [exactResult, NumericType.isPlain] using h

/-! ## What the compiler evaluates with -/

theorem compileVariables_normalized {variables_ : List Variable} {env : Environment}
    (h : compileVariables variables_ = .ok env) : env.Normalized := by
  induction variables_ generalizing env with
  | nil =>
      cases h
      intro v hv
      cases hv
  | cons v vs ih =>
      obtain ⟨value, hvalue, h⟩ := bind_eq_ok.mp h
      obtain ⟨rest, hrest, h⟩ := bind_eq_ok.mp h
      cases h
      intro w hw
      rcases List.mem_cons.mp hw with rfl | hw
      · obtain ⟨raw, -, hvalue⟩ := bind_eq_ok.mp hvalue
        obtain ⟨x, hx, hvalue⟩ := bind_eq_ok.mp hvalue
        cases hvalue
        exact normalized_of_normalize hx
      · exact ih hrest w hw

/-- The index of a repetition is far below the ceiling. -/
theorem repeatTransforms_index {env : Environment} {spec : Option RepeatSpec}
    {repetitions : List Repetition} (h : repeatTransforms env spec = .ok repetitions) :
    ∀ r ∈ repetitions, r.index ≤ 1000000000 := by
  intro r hr
  rcases spec with _ | (⟨count, offset⟩ | ⟨rows, columns, rowOffset, columnOffset⟩ |
    ⟨count, center, totalAngle⟩)
  · cases h
    rw [List.mem_singleton.mp hr]
    exact Nat.zero_le _
  · -- linear
    obtain ⟨value, -, h⟩ := bind_eq_ok.mp h
    obtain ⟨_, hbound, h⟩ := bind_eq_ok.mp h
    obtain ⟨_, -, h⟩ := bind_eq_ok.mp h
    have hle : countOf value ≤ 64 := countOf_le (check_eq_ok.mp hbound).2
    cases h
    obtain ⟨item, hitem, rfl⟩ := List.mem_map.mp hr
    rw [List.mem_range] at hitem
    show item ≤ 1000000000
    omega
  · -- rectangular
    obtain ⟨rowsValue, -, h⟩ := bind_eq_ok.mp h
    obtain ⟨columnsValue, -, h⟩ := bind_eq_ok.mp h
    obtain ⟨_, hbound, h⟩ := bind_eq_ok.mp h
    obtain ⟨_, -, h⟩ := bind_eq_ok.mp h
    obtain ⟨_, -, h⟩ := bind_eq_ok.mp h
    obtain ⟨hrows, hcolumns, hproduct⟩ := check_eq_ok.mp hbound
    have hrows' : rowsValue ≤ (maxRepeatCount : Nat) := by nlinarith
    have hcolumns' : columnsValue ≤ (maxRepeatCount : Nat) := by nlinarith
    have hrle : countOf rowsValue ≤ 64 := countOf_le hrows'
    have hcle : countOf columnsValue ≤ 64 := countOf_le hcolumns'
    cases h
    obtain ⟨row, hrow, hr⟩ := List.mem_flatMap.mp hr
    obtain ⟨column, hcolumn, rfl⟩ := List.mem_map.mp hr
    rw [List.mem_range] at hrow hcolumn
    show row * countOf columnsValue + column ≤ 1000000000
    nlinarith
  · -- polar
    obtain ⟨value, -, h⟩ := bind_eq_ok.mp h
    obtain ⟨_, hbound, h⟩ := bind_eq_ok.mp h
    obtain ⟨_, -, h⟩ := bind_eq_ok.mp h
    obtain ⟨_, -, h⟩ := bind_eq_ok.mp h
    have hle : countOf value ≤ 64 := countOf_le (check_eq_ok.mp hbound).2
    have hindices := mapM_eq_ok_map (g := Repetition.index) (k := id) h fun item _ r hr => by
      obtain ⟨_, -, hr⟩ := bind_eq_ok.mp hr
      cases hr
      rfl
    have hmem : r.index ∈ List.range (countOf value) := by
      rw [← List.map_id (List.range (countOf value)), ← hindices]
      exact List.mem_map_of_mem hr
    rw [List.mem_range] at hmem
    omega

end AutocadMcp.Program
