import Mathlib.Algebra.Order.Floor.Ring
import Mathlib.Data.Int.Log
import Mathlib.Data.Rat.Floor
import Mathlib.Tactic.FieldSimp
import Mathlib.Tactic.Linarith
import Mathlib.Tactic.Positivity
import Mathlib.Tactic.Ring

/-!
# Decimal arithmetic

Decimal numbers as the rationals they stand for. Rounding is half to even, to a
number of decimal places or to a number of significant digits.
-/

namespace AutocadMcp.Decimal

/-- The nearest integer, and the even one of two that are equally near. -/
def roundHalfEven (q : Rat) : Int :=
  let rest := q - ⌊q⌋
  if rest < 1 / 2 then ⌊q⌋
  else if 1 / 2 < rest then ⌊q⌋ + 1
  else if ⌊q⌋ % 2 = 0 then ⌊q⌋ else ⌊q⌋ + 1

/-- Rounded to a multiple of a unit. -/
def roundTo (unit q : Rat) : Rat := roundHalfEven (q / unit) * unit

def decimalDigits (n : Nat) : Nat := (Nat.toDigits 10 n).length

/-- The exponent of the leading digit of a number that is not zero. -/
def leadingExponent (q : Rat) : Int :=
  if 1 ≤ |q| then decimalDigits ⌊|q|⌋.toNat - 1
  else -(decimalDigits (⌈1 / |q|⌉.toNat - 1) : Int)

/-- Rounded to a number of significant digits, as the result of an operation is in a context with
that precision. -/
def inContext (precision : Nat) (q : Rat) : Rat :=
  if q = 0 then 0 else roundTo ((10 : Rat) ^ (leadingExponent q - precision + 1)) q

theorem roundHalfEven_near (q : Rat) : |roundHalfEven q - q| ≤ 1 / 2 := by
  have hlow := Int.floor_le q
  have hhigh := Int.lt_floor_add_one q
  unfold roundHalfEven
  rw [abs_le]
  dsimp only
  split
  · constructor <;> linarith
  · split
    · push_cast
      constructor <;> linarith
    · have hhalf : q - ⌊q⌋ = 1 / 2 := by linarith
      split
      · constructor <;> linarith
      · push_cast
        constructor <;> linarith

/-- A rounded number is at most half a unit away. -/
theorem roundTo_near {unit : Rat} (hunit : 0 < unit) (q : Rat) :
    |roundTo unit q - q| ≤ unit / 2 := by
  have hnear := roundHalfEven_near (q / unit)
  have hscaled : roundTo unit q - q = (roundHalfEven (q / unit) - q / unit) * unit := by
    unfold roundTo
    field_simp
  rw [hscaled, abs_mul, abs_of_pos hunit]
  calc |(roundHalfEven (q / unit) : Rat) - q / unit| * unit ≤ 1 / 2 * unit :=
        mul_le_mul_of_nonneg_right hnear hunit.le
    _ = unit / 2 := by ring

theorem roundHalfEven_intCast (n : Int) : roundHalfEven n = n := by
  unfold roundHalfEven
  simp

/-- A multiple of the unit is not rounded. -/
theorem roundTo_of_multiple {unit : Rat} (hunit : unit ≠ 0) (n : Int) :
    roundTo unit (n * unit) = n * unit := by
  unfold roundTo
  rw [mul_div_assoc, div_self hunit, mul_one, roundHalfEven_intCast]

theorem roundTo_idem {unit : Rat} (hunit : unit ≠ 0) (q : Rat) :
    roundTo unit (roundTo unit q) = roundTo unit q := by
  conv_rhs => rw [roundTo]
  conv_lhs => rw [roundTo.eq_1 unit q]
  exact roundTo_of_multiple hunit _

/-! ## Rounding twice -/

/-- Rounding does not pass an integer. -/
theorem roundHalfEven_le {q : Rat} {n : Int} (h : q ≤ n) : roundHalfEven q ≤ n := by
  have hnear := (abs_le.mp (roundHalfEven_near q)).2
  by_contra hbeyond
  have hnext : (n : Rat) + 1 ≤ roundHalfEven q := by exact_mod_cast not_le.mp hbeyond
  -- only a half is left between them, and it would have to lie on both sides of the integer
  have heq : q = n := by linarith
  rw [heq, roundHalfEven_intCast] at hnext
  linarith

theorem le_roundHalfEven {q : Rat} {n : Int} (h : n ≤ q) : n ≤ roundHalfEven q := by
  have hnear := (abs_le.mp (roundHalfEven_near q)).1
  by_contra hbeyond
  have hnext : (roundHalfEven q : Rat) + 1 ≤ n := by exact_mod_cast not_le.mp hbeyond
  have heq : q = n := by linarith
  rw [heq, roundHalfEven_intCast] at hnext
  linarith

theorem abs_roundTo_le {unit q : Rat} (hunit : 0 < unit) {n : Int} (h : |q| ≤ n * unit) :
    |roundTo unit q| ≤ n * unit := by
  rw [abs_le] at h ⊢
  have hlow : ((-n : Int) : Rat) ≤ q / unit := by
    rw [le_div_iff₀ hunit]
    push_cast
    linarith
  have hhigh : q / unit ≤ (n : Int) := (div_le_iff₀ hunit).mpr h.2
  have hbelow : ((-n : Int) : Rat) ≤ roundHalfEven (q / unit) := by
    exact_mod_cast le_roundHalfEven hlow
  have habove : (roundHalfEven (q / unit) : Rat) ≤ n := by exact_mod_cast roundHalfEven_le hhigh
  push_cast at hbelow
  constructor
  · calc -(n * unit) = -n * unit := by ring
      _ ≤ roundTo unit q := mul_le_mul_of_nonneg_right hbelow hunit.le
  · exact mul_le_mul_of_nonneg_right habove hunit.le

/-- A number less than a half away from an integer is rounded to it. -/
theorem roundHalfEven_eq {q : Rat} {n : Int} (h : |q - n| < 1 / 2) : roundHalfEven q = n := by
  have hnear := abs_le.mp (roundHalfEven_near q)
  rw [abs_lt] at h
  have hlow : (roundHalfEven q : Rat) < n + 1 := by linarith
  have hhigh : (n : Rat) - 1 < roundHalfEven q := by linarith
  have hlow' : roundHalfEven q < n + 1 := by exact_mod_cast hlow
  have hhigh' : n - 1 < roundHalfEven q := by exact_mod_cast hhigh
  omega

/-- Two numbers with no midpoint as near to the one as the other is are rounded alike. -/
theorem roundHalfEven_congr {x y : Rat} (h : ∀ k : Int, |x - y| < |y - (k + 1 / 2)|) :
    roundHalfEven x = roundHalfEven y := by
  have hnear := abs_le.mp (roundHalfEven_near y)
  have habove := h (roundHalfEven y)
  have hbelow := h (roundHalfEven y - 1)
  push_cast at hbelow
  rw [abs_of_nonpos (show y - (roundHalfEven y + 1 / 2) ≤ 0 by linarith)] at habove
  rw [abs_of_nonneg (show 0 ≤ y - (roundHalfEven y - 1 + 1 / 2) by linarith)] at hbelow
  have hup := le_abs_self (x - y)
  have hdown := neg_abs_le (x - y)
  refine roundHalfEven_eq ?_
  rw [abs_lt]
  constructor <;> linarith

theorem roundTo_congr {unit x y : Rat} (hunit : 0 < unit)
    (h : ∀ k : Int, |x - y| < |y - (k + 1 / 2) * unit|) : roundTo unit x = roundTo unit y := by
  have hscaled : roundHalfEven (x / unit) = roundHalfEven (y / unit) := by
    refine roundHalfEven_congr fun k => ?_
    have hleft : |x / unit - y / unit| = |x - y| / unit := by
      rw [← sub_div, abs_div, abs_of_pos hunit]
    have hright : |y / unit - (k + 1 / 2)| = |y - (k + 1 / 2) * unit| / unit := by
      rw [← abs_of_pos hunit, ← abs_div, abs_of_pos hunit, sub_div, mul_div_assoc,
        div_self hunit.ne', mul_one]
    rw [hleft, hright]
    exact div_lt_div_of_pos_right (h k) hunit
  rw [roundTo, hscaled, roundTo]

/-! ## Significant digits -/

theorem decimalDigits_le_iff {n k : Nat} (hk : 0 < k) : decimalDigits n ≤ k ↔ n < 10 ^ k :=
  Nat.length_toDigits_le_iff (by omega) hk

theorem decimalDigits_eq_log {n : Nat} (hn : n ≠ 0) : decimalDigits n = Nat.log 10 n + 1 := by
  refine le_antisymm ?_ ?_
  · rw [decimalDigits_le_iff (Nat.succ_pos _)]
    exact Nat.lt_pow_succ_log_self (by omega) n
  · by_contra hshort
    have hdigits : decimalDigits n ≤ Nat.log 10 n := by omega
    have hpos : 0 < Nat.log 10 n := by
      have : 0 < decimalDigits n := Nat.length_toDigits_pos
      omega
    have hlt := (decimalDigits_le_iff hpos).mp hdigits
    exact absurd (Nat.pow_log_le_self 10 hn) (by omega)

/-- The digits of a number are those of the least power of ten above it. -/
theorem decimalDigits_pred_eq_clog {n : Nat} (hn : 1 < n) :
    decimalDigits (n - 1) = Nat.clog 10 n := by
  have hdigits : 0 < decimalDigits (n - 1) := Nat.length_toDigits_pos
  have hclog : 0 < Nat.clog 10 n := Nat.clog_pos (by omega) hn
  refine le_antisymm ?_ ?_
  · rw [decimalDigits_le_iff hclog]
    have := (Nat.clog_le_iff_le_pow (b := 10) (by omega)).mp (le_refl (Nat.clog 10 n))
    omega
  · rw [Nat.clog_le_iff_le_pow (by omega)]
    have := (decimalDigits_le_iff hdigits).mp le_rfl
    omega

theorem leadingExponent_eq_log {q : Rat} (hq : q ≠ 0) : leadingExponent q = Int.log 10 |q| := by
  have hpos : 0 < |q| := abs_pos.mpr hq
  unfold leadingExponent
  split
  case isTrue hone =>
    rw [Int.log_of_one_le_right 10 hone, decimalDigits_eq_log]
    · rw [Int.floor_toNat]
      push_cast
      ring
    · rw [Int.floor_toNat]
      exact (Nat.floor_pos.mpr hone).ne'
  case isFalse hone =>
    rw [not_le] at hone
    -- the inverse is above one, so its ceiling is two or more
    have htwo : 1 < ⌈|q|⁻¹⌉₊ := Nat.lt_ceil.mpr (by simpa using one_lt_inv₀ hpos |>.mpr hone)
    rw [Int.log_of_right_le_one 10 hone.le, neg_inj, Nat.cast_inj, one_div, Int.ceil_toNat,
      decimalDigits_pred_eq_clog htwo]

theorem pow_leadingExponent_le {q : Rat} (hq : q ≠ 0) : (10 : Rat) ^ leadingExponent q ≤ |q| := by
  rw [leadingExponent_eq_log hq]
  exact_mod_cast Int.zpow_log_le_self (R := Rat) (b := 10) (by omega) (abs_pos.mpr hq)

theorem lt_pow_leadingExponent {q : Rat} (hq : q ≠ 0) :
    |q| < (10 : Rat) ^ (leadingExponent q + 1) := by
  rw [leadingExponent_eq_log hq]
  exact_mod_cast Int.lt_zpow_succ_log_self (R := Rat) (b := 10) (by omega) |q|

/-- The last of the significant digits. -/
def lastPlace (precision : Nat) (q : Rat) : Rat := (10 : Rat) ^ (leadingExponent q - precision + 1)

theorem lastPlace_pos (precision : Nat) (q : Rat) : 0 < lastPlace precision q :=
  zpow_pos (by norm_num) _

theorem inContext_eq {precision : Nat} {q : Rat} (hq : q ≠ 0) :
    inContext precision q = roundTo (lastPlace precision q) q := if_neg hq

theorem inContext_near {precision : Nat} {q : Rat} (hq : q ≠ 0) :
    |inContext precision q - q| ≤ lastPlace precision q / 2 := by
  rw [inContext_eq hq]
  exact roundTo_near (lastPlace_pos precision q) q

/-- The last place is this part of the number at most. -/
theorem lastPlace_le {precision : Nat} {q : Rat} (hq : q ≠ 0) :
    lastPlace precision q ≤ |q| * (10 : Rat) ^ (1 - (precision : Int)) := by
  rw [lastPlace, show leadingExponent q - precision + 1 = leadingExponent q + (1 - precision) by ring,
    zpow_add₀ (by norm_num)]
  exact mul_le_mul_of_nonneg_right (pow_leadingExponent_le hq) (zpow_nonneg (by norm_num) _)

/-- A power of ten that is not below the last place is a multiple of it. -/
theorem exists_lastPlace_multiple {precision : Nat} {q : Rat} {k : Int}
    (h : leadingExponent q < k + precision) :
    ∃ m : Nat, (10 : Rat) ^ k = (10 ^ m : Int) * lastPlace precision q := by
  obtain ⟨m, hm⟩ := Int.eq_ofNat_of_zero_le
    (show 0 ≤ k - (leadingExponent q - precision + 1) by omega)
  refine ⟨m, ?_⟩
  rw [lastPlace]
  push_cast
  rw [← zpow_natCast, ← zpow_add₀ (by norm_num)]
  congr 1
  omega

/-- A multiple of some place, with few enough places before it, is not rounded. -/
theorem inContext_of_multiple {precision : Nat} {q : Rat} {n k : Int} (h : q = n * (10 : Rat) ^ k)
    (hfits : |q| < (10 : Rat) ^ (k + precision)) : inContext precision q = q := by
  by_cases hq : q = 0
  · rw [hq]
    exact if_pos rfl
  · have hexponent : leadingExponent q < k + precision := by
      have := (pow_leadingExponent_le hq).trans_lt hfits
      rwa [zpow_lt_zpow_iff_right₀ (by norm_num)] at this
    obtain ⟨m, hm⟩ := exists_lastPlace_multiple hexponent
    have hmultiple : (n * 10 ^ m : Int) * lastPlace precision q = q := by
      rw [Int.cast_mul, mul_assoc, ← hm, ← h]
    calc inContext precision q = roundTo (lastPlace precision q) q := inContext_eq hq
      _ = roundTo (lastPlace precision q) ((n * 10 ^ m : Int) * lastPlace precision q) := by
        rw [hmultiple]
      _ = q := (roundTo_of_multiple (lastPlace_pos precision q).ne' _).trans hmultiple

@[simp] theorem inContext_zero (precision : Nat) : inContext precision 0 = 0 := if_pos rfl

/-- A power of ten has a single digit. -/
theorem inContext_of_pow {precision : Nat} {q : Rat} {k : Int} (hprecision : 0 < precision)
    (h : |q| = (10 : Rat) ^ k) : inContext precision q = q := by
  have hfits : |q| < (10 : Rat) ^ (k + precision) := by
    rw [h, zpow_lt_zpow_iff_right₀ (by norm_num)]
    omega
  rcases (abs_eq (zpow_nonneg (by norm_num) k)).mp h with hq | hq
  · exact inContext_of_multiple (n := 1) (by rw [hq, Int.cast_one, one_mul]) hfits
  · exact inContext_of_multiple (n := -1) (by rw [hq]; push_cast; ring) hfits

/-- Rounding to significant digits does not pass a power of ten. -/
theorem abs_inContext_le {precision : Nat} {q : Rat} {k : Int} (hprecision : 0 < precision)
    (h : |q| ≤ (10 : Rat) ^ k) : |inContext precision q| ≤ (10 : Rat) ^ k := by
  by_cases hq : q = 0
  · rw [hq, inContext_zero, abs_zero]
    exact zpow_nonneg (by norm_num) k
  · have hexponent : leadingExponent q ≤ k := by
      have := (pow_leadingExponent_le hq).trans h
      rwa [zpow_le_zpow_iff_right₀ (by norm_num)] at this
    obtain ⟨m, hm⟩ := @exists_lastPlace_multiple precision q k (by omega)
    rw [inContext_eq hq, hm]
    exact abs_roundTo_le (lastPlace_pos precision q) (hm ▸ h)

end AutocadMcp.Decimal
