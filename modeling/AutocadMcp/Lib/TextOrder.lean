import Mathlib.Data.List.Basic
import Mathlib.Order.Basic
import Mathlib.Data.Char
import Mathlib.Tactic.Ring

/-!
# The order of texts

Texts are compared character by character, and a text comes after its beginnings. Numbers of one
width come in this order as they do by their values.
-/

namespace AutocadMcp

section

variable {α : Type} [LinearOrder α] {a b : α} {l₁ l₂ r₁ r₂ p : List α}

theorem append_lt_append_left_iff : p ++ r₁ < p ++ r₂ ↔ r₁ < r₂ := by
  induction p with
  | nil => rfl
  | cons c p ih =>
      rw [List.cons_append, List.cons_append, List.cons_lt_cons_iff, ih]
      simp

theorem append_lt_append_iff (h : l₁.length = l₂.length) :
    l₁ ++ r₁ < l₂ ++ r₂ ↔ l₁ < l₂ ∨ (l₁ = l₂ ∧ r₁ < r₂) := by
  induction l₁ generalizing l₂ with
  | nil =>
      obtain rfl := List.length_eq_zero_iff.mp h.symm
      simp
  | cons a l₁ ih =>
      cases l₂ with
      | nil => cases h
      | cons b l₂ =>
          rw [List.cons_append, List.cons_append, List.cons_lt_cons_iff, List.cons_lt_cons_iff,
            ih (Nat.succ.inj h), List.cons.injEq]
          tauto

theorem append_cons_lt_append_cons (h : a ≠ b) : p ++ a :: r₁ < p ++ b :: r₂ ↔ a < b := by
  rw [append_lt_append_left_iff, List.cons_lt_cons_iff]
  simp [h]

omit [LinearOrder α] in
theorem not_prefix_of_ne (h : a ≠ b) : ¬ p ++ a :: r₁ <+: p ++ b :: r₂ := by
  rw [List.prefix_append_right_inj, List.cons_prefix_cons]
  exact fun hand => h hand.1

omit [LinearOrder α] in
theorem append_prefix_append_iff (h : l₁.length = l₂.length) :
    l₁ ++ r₁ <+: l₂ ++ r₂ ↔ l₁ = l₂ ∧ r₁ <+: r₂ := by
  constructor
  · rintro ⟨t, ht⟩
    rw [List.append_assoc] at ht
    obtain ⟨rfl, rfl⟩ := List.append_inj ht h
    exact ⟨rfl, List.prefix_append r₁ t⟩
  · rintro ⟨rfl, hr⟩
    exact (List.prefix_append_right_inj l₁).mpr hr

/-- Two lists differ at a position, or one of them is the beginning of the other. -/
theorem differ_or_prefix (l₁ l₂ : List α) :
    (∃ p a b r₁ r₂, a ≠ b ∧ l₁ = p ++ a :: r₁ ∧ l₂ = p ++ b :: r₂) ∨ l₁ <+: l₂ ∨ l₂ <+: l₁ := by
  induction l₁ generalizing l₂ with
  | nil => exact Or.inr (Or.inl (List.nil_prefix))
  | cons a l₁ ih =>
      cases l₂ with
      | nil => exact Or.inr (Or.inr (List.nil_prefix))
      | cons b l₂ =>
          by_cases hab : a = b
          · subst hab
            rcases ih l₂ with ⟨p, c, d, r₁, r₂, hne, rfl, rfl⟩ | h | h
            · exact Or.inl ⟨a :: p, c, d, r₁, r₂, hne, rfl, rfl⟩
            · exact Or.inr (Or.inl (List.cons_prefix_cons.mpr ⟨rfl, h⟩))
            · exact Or.inr (Or.inr (List.cons_prefix_cons.mpr ⟨rfl, h⟩))
          · exact Or.inl ⟨[], a, b, l₁, l₂, hab, rfl, rfl⟩

end

/-! ## Decimal numbers -/

def digitValue (c : Char) : ℕ := c.toNat - '0'.toNat

def decimal : List Char → ℕ
  | [] => 0
  | c :: digits => digitValue c * 10 ^ digits.length + decimal digits

/-- A number of so many digits. -/
def IsNumber (width : ℕ) (digits : List Char) : Prop :=
  digits.length = width ∧ ∀ c ∈ digits, c.isDigit = true

instance (width : ℕ) (digits : List Char) : Decidable (IsNumber width digits) :=
  @instDecidableAnd _ _ _ (List.decidableBAll _ digits)

theorem digit_bounds {c : Char} (h : c.isDigit = true) : 48 ≤ c.toNat ∧ c.toNat ≤ 57 := by
  simp only [Char.isDigit, Bool.and_eq_true, decide_eq_true_eq] at h
  exact ⟨UInt32.le_iff_toNat_le.mp h.1, UInt32.le_iff_toNat_le.mp h.2⟩

theorem char_lt_iff {c d : Char} : c < d ↔ c.toNat < d.toNat := by
  rw [Char.lt_def]
  exact UInt32.lt_iff_toNat_lt

variable {n : ℕ} {c d : Char} {xs ys : List Char}

theorem digit_lt_iff (hc : c.isDigit = true) (hd : d.isDigit = true) :
    c < d ↔ digitValue c < digitValue d := by
  have hcb := digit_bounds hc
  have hdb := digit_bounds hd
  rw [char_lt_iff, digitValue, digitValue]
  show c.toNat < d.toNat ↔ c.toNat - 48 < d.toNat - 48
  omega

theorem digit_eq_iff (hc : c.isDigit = true) (hd : d.isDigit = true) :
    c = d ↔ digitValue c = digitValue d := by
  have hcb := digit_bounds hc
  have hdb := digit_bounds hd
  rw [← Char.toNat_inj, digitValue, digitValue]
  show c.toNat = d.toNat ↔ c.toNat - 48 = d.toNat - 48
  omega

theorem decimal_lt (h : IsNumber n xs) : decimal xs < 10 ^ n := by
  obtain ⟨rfl, hdigits⟩ := h
  induction xs with
  | nil => exact Nat.one_pos
  | cons c xs ih =>
      have hxs := ih fun x hx => hdigits x (List.mem_cons_of_mem c hx)
      have hvalue : digitValue c ≤ 9 := by
        have hc := digit_bounds (hdigits c List.mem_cons_self)
        show c.toNat - 48 ≤ 9
        omega
      calc digitValue c * 10 ^ xs.length + decimal xs
          < digitValue c * 10 ^ xs.length + 10 ^ xs.length := Nat.add_lt_add_left hxs _
        _ = (digitValue c + 1) * 10 ^ xs.length := by ring
        _ ≤ 10 * 10 ^ xs.length := Nat.mul_le_mul_right _ (by omega)
        _ = 10 ^ (c :: xs).length := by rw [List.length_cons, Nat.pow_succ, Nat.mul_comm]

theorem decimal_append (xs ys : List Char) :
    decimal (xs ++ ys) = decimal xs * 10 ^ ys.length + decimal ys := by
  induction xs with
  | nil => simp [decimal]
  | cons c xs ih =>
      rw [List.cons_append, decimal, decimal, ih, List.length_append, pow_add]
      ring

theorem decimal_zeros (n : ℕ) : decimal (List.replicate n '0') = 0 := by
  induction n with
  | zero => rfl
  | succ n ih =>
      rw [List.replicate_succ, decimal, ih]
      exact Nat.zero_mul _

theorem IsNumber.tail (h : IsNumber (n + 1) (c :: xs)) : c.isDigit = true ∧ IsNumber n xs :=
  ⟨h.2 c List.mem_cons_self, Nat.succ.inj h.1, fun x hx => h.2 x (List.mem_cons_of_mem c hx)⟩

/-- Numbers of one width come in the order of their values. -/
theorem lt_iff_decimal_lt (hxs : IsNumber n xs) (hys : IsNumber n ys) :
    (xs < ys ↔ decimal xs < decimal ys) ∧ (xs = ys ↔ decimal xs = decimal ys) := by
  induction n generalizing xs ys with
  | zero =>
      obtain rfl := List.length_eq_zero_iff.mp hxs.1
      obtain rfl := List.length_eq_zero_iff.mp hys.1
      simp
  | succ n ih =>
      obtain ⟨c, xs, rfl⟩ := List.exists_cons_of_length_eq_add_one hxs.1
      obtain ⟨d, ys, rfl⟩ := List.exists_cons_of_length_eq_add_one hys.1
      obtain ⟨hc, hxs⟩ := hxs.tail
      obtain ⟨hd, hys⟩ := hys.tail
      have hx := decimal_lt hxs
      have hy := decimal_lt hys
      obtain ⟨hlt, heq⟩ := ih hxs hys
      rw [List.cons_lt_cons_iff, List.cons.injEq, digit_lt_iff hc hd, digit_eq_iff hc hd, hlt, heq,
        decimal, decimal, hxs.1, hys.1]
      -- the leading digits decide unless they are equal
      rcases Nat.lt_trichotomy (digitValue c) (digitValue d) with h | h | h
      · have := Nat.mul_le_mul_right (10 ^ n) (Nat.succ_le_of_lt h)
        rw [Nat.succ_mul] at this
        omega
      · rw [h]
        omega
      · have := Nat.mul_le_mul_right (10 ^ n) (Nat.succ_le_of_lt h)
        rw [Nat.succ_mul] at this
        omega

/-- A text that starts with a number of one width and a mark. -/
theorem number_lt_iff {mark : List Char} (hxs : IsNumber n xs) (hys : IsNumber n ys)
    {s t : List Char} : xs ++ (mark ++ s) < ys ++ (mark ++ t) ↔
      decimal xs < decimal ys ∨ (decimal xs = decimal ys ∧ s < t) := by
  obtain ⟨hlt, heq⟩ := lt_iff_decimal_lt hxs hys
  rw [append_lt_append_iff (hxs.1.trans hys.1.symm), append_lt_append_left_iff, hlt, heq]

/-! ## Reading numbers -/

def readNumber (width : ℕ) (s : List Char) : Option (ℕ × List Char) :=
  if IsNumber width (s.take width) then some (decimal (s.take width), s.drop width) else none

/-- Takes a mark off the text. -/
def readMark (mark : Char) : List Char → Option (List Char)
  | [] => none
  | c :: rest => if c = mark then some rest else none

theorem readNumber_eq_some {s rest : List Char} {value : ℕ}
    (h : readNumber n s = some (value, rest)) :
    ∃ digits, IsNumber n digits ∧ decimal digits = value ∧ s = digits ++ rest := by
  rw [readNumber] at h
  split at h
  · rename_i hnumber
    obtain ⟨rfl, rfl⟩ := Prod.mk.inj (Option.some.inj h)
    exact ⟨s.take n, hnumber, rfl, (List.take_append_drop n s).symm⟩
  · cases h

theorem readMark_eq_some {mark : Char} {s rest : List Char} (h : readMark mark s = some rest) :
    s = [mark] ++ rest := by
  cases s with
  | nil => cases h
  | cons c s =>
      rw [readMark] at h
      split at h
      · rename_i hc
        rw [hc, Option.some.inj h]
        rfl
      · cases h

end AutocadMcp
