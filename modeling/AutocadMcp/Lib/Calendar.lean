import Mathlib.Data.Nat.Init
import Mathlib.Order.Basic
import Mathlib.Tactic.Linarith

/-!
# The calendar

Dates of the Gregorian calendar and the number of their day, which grows with year, month and day.
-/

namespace AutocadMcp

def isLeap (year : ℕ) : Prop := year % 4 = 0 ∧ (year % 100 ≠ 0 ∨ year % 400 = 0)

instance (year : ℕ) : Decidable (isLeap year) := inferInstanceAs (Decidable (_ ∧ _))

def daysInMonth (year month : ℕ) : ℕ :=
  if month = 2 then if isLeap year then 29 else 28
  else if month = 4 ∨ month = 6 ∨ month = 9 ∨ month = 11 then 30
  else 31

/-- The days of the years before. -/
def daysBeforeYear (year : ℕ) : ℕ :=
  (year - 1) * 365 + (year - 1) / 4 - (year - 1) / 100 + (year - 1) / 400

/-- The days of the months before, in the same year. -/
def daysBeforeMonth (year : ℕ) : ℕ → ℕ
  | 0 => 0
  | 1 => 0
  | month + 2 => daysBeforeMonth year (month + 1) + daysInMonth year (month + 1)

structure Date where
  year : ℕ
  month : ℕ
  day : ℕ
  year_pos : 0 < year
  month_pos : 0 < month
  month_le : month ≤ 12
  day_pos : 0 < day
  day_le : day ≤ daysInMonth year month

/-- The day's number, where the first day of the year 1 is 1. -/
def Date.toOrdinal (d : Date) : ℕ := daysBeforeYear d.year + daysBeforeMonth d.year d.month + d.day

theorem daysBeforeYear_succ {year : ℕ} (h : 0 < year) :
    daysBeforeYear (year + 1) = daysBeforeYear year + if isLeap year then 366 else 365 := by
  obtain ⟨y, rfl⟩ : ∃ y, year = y + 1 := ⟨year - 1, by omega⟩
  have hle : y / 100 ≤ y := Nat.div_le_self y 100
  have h100 : (y + 1) % 100 = 0 → (y + 1) % 4 = 0 := by omega
  have h400 : (y + 1) % 400 = 0 → (y + 1) % 100 = 0 := by omega
  rw [daysBeforeYear, daysBeforeYear, Nat.add_sub_cancel, Nat.add_sub_cancel, Nat.succ_div,
    Nat.succ_div, Nat.succ_div]
  simp only [Nat.dvd_iff_mod_eq_zero]
  generalize y / 4 = q₄, y / 100 = q₁₀₀, y / 400 = q₄₀₀ at hle ⊢
  by_cases h₄ : (y + 1) % 4 = 0
  · by_cases h₁₀₀ : (y + 1) % 100 = 0
    · by_cases h₄₀₀ : (y + 1) % 400 = 0
      · rw [if_pos h₄, if_pos h₁₀₀, if_pos h₄₀₀, if_pos ⟨h₄, Or.inr h₄₀₀⟩]
        omega
      · rw [if_pos h₄, if_pos h₁₀₀, if_neg h₄₀₀, if_neg fun h => h.2.elim (· h₁₀₀) h₄₀₀]
        omega
    · rw [if_pos h₄, if_neg h₁₀₀, if_neg fun h => h₁₀₀ (h400 h), if_pos ⟨h₄, Or.inl h₁₀₀⟩]
      omega
  · have h₁₀₀ : ¬ (y + 1) % 100 = 0 := fun h => h₄ (h100 h)
    rw [if_neg h₄, if_neg h₁₀₀, if_neg fun h => h₁₀₀ (h400 h), if_neg fun h => h₄ h.1]
    omega

theorem daysBeforeMonth_succ (year : ℕ) {month : ℕ} (h : 0 < month) :
    daysBeforeMonth year (month + 1) = daysBeforeMonth year month + daysInMonth year month := by
  obtain ⟨m, rfl⟩ : ∃ m, month = m + 1 := ⟨month - 1, by omega⟩
  rfl

theorem daysBeforeMonth_add_le (year : ℕ) {month later : ℕ} (hpos : 0 < month)
    (h : month < later) :
    daysBeforeMonth year month + daysInMonth year month ≤ daysBeforeMonth year later := by
  induction later, h using Nat.le_induction with
  | base => rw [Nat.succ_eq_add_one, daysBeforeMonth_succ year hpos]
  | succ later hle ih =>
      rw [daysBeforeMonth_succ year (by omega)]
      exact ih.trans (Nat.le_add_right _ _)

/-- The months make up the year. -/
theorem daysBeforeMonth_december (year : ℕ) :
    daysBeforeMonth year 12 + daysInMonth year 12 = if isLeap year then 366 else 365 := by
  by_cases h : isLeap year <;> simp [daysBeforeMonth, daysInMonth, h]

theorem Date.day_of_year_le (d : Date) :
    daysBeforeMonth d.year d.month + d.day ≤ if isLeap d.year then 366 else 365 := by
  have hday := d.day_le
  rw [← daysBeforeMonth_december]
  rcases d.month_le.lt_or_eq with hmonth | hmonth
  · have hadd := daysBeforeMonth_add_le d.year d.month_pos hmonth
    omega
  · rw [← hmonth]
    omega

theorem daysBeforeYear_mono {year later : ℕ} (hpos : 0 < year) (h : year < later) :
    daysBeforeYear year + (if isLeap year then 366 else 365) ≤ daysBeforeYear later := by
  induction later, h using Nat.le_induction with
  | base => rw [Nat.succ_eq_add_one, daysBeforeYear_succ hpos]
  | succ later hle ih =>
      rw [daysBeforeYear_succ (by omega)]
      exact ih.trans (Nat.le_add_right _ _)

/-- The order of the fields. -/
def Date.before (d e : Date) : Prop :=
  d.year < e.year ∨ (d.year = e.year ∧ (d.month < e.month ∨ (d.month = e.month ∧ d.day < e.day)))

theorem Date.toOrdinal_lt_of_before {d e : Date} (h : d.before e) : d.toOrdinal < e.toOrdinal := by
  have hday := e.day_pos
  rw [toOrdinal, toOrdinal]
  rcases h with hyear | ⟨hyear, hmonth | ⟨hmonth, hlt⟩⟩
  · have hbefore := daysBeforeYear_mono d.year_pos hyear
    have hlast := d.day_of_year_le
    omega
  · have hbefore := daysBeforeMonth_add_le d.year d.month_pos hmonth
    have hlast := d.day_le
    rw [← hyear]
    omega
  · rw [← hyear, ← hmonth]
    omega

theorem Date.toOrdinal_lt_iff {d e : Date} : d.toOrdinal < e.toOrdinal ↔ d.before e := by
  refine ⟨fun h => ?_, toOrdinal_lt_of_before⟩
  by_contra hnot
  by_cases hafter : e.before d
  · exact absurd (toOrdinal_lt_of_before hafter) (by omega)
  · -- neither date is before the other, so they are the same one
    have hyear : d.year = e.year := by simp only [before] at hnot hafter; omega
    have hmonth : d.month = e.month := by simp only [before] at hnot hafter; omega
    have hday : d.day = e.day := by simp only [before] at hnot hafter; omega
    rw [toOrdinal, toOrdinal, hyear, hmonth, hday] at h
    exact lt_irrefl _ h

end AutocadMcp
