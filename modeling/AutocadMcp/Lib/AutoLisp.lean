import AutocadMcp.Lib.Double
import AutocadMcp.Lib.JsonText

/-!
# AutoLISP strings

The string functions of AutoLISP, which count characters from one (`vl-string-search`
from zero), and loops over the positions of a string. Behind a part that a loop has
passed, each loop is a function of the list of the characters that are left.
-/

namespace AutocadMcp.AutoLisp

abbrev Str := List Char

def strlen (s : Str) : Nat := s.length

/-- `(substr s start length)`. -/
def substr (s : Str) (start length : Nat) : Str := (s.drop (start - 1)).take length

def findFrom (pattern : Str) : Str → Nat → Option Nat
  | [], i => if pattern <+: [] then some i else none
  | c :: cs, i => if pattern <+: c :: cs then some i else findFrom pattern cs (i + 1)

/-- `(vl-string-search pattern s start)`. -/
def vlStringSearch (pattern s : Str) (start : Nat) : Option Nat :=
  findFrom pattern (s.drop start) start

/-- The value of digits with a fraction, up to the first other character. -/
def unsignedValue (s : Str) : ℚ :=
  let whole := s.takeWhile Char.isDigit
  let rest := s.dropWhile Char.isDigit
  let fraction := if rest.head? = some '.' then rest.tail.takeWhile Char.isDigit else []
  Nat.ofDigitChars 10 (whole ++ fraction) 0 * (10 : ℚ) ^ (-(fraction.length : ℤ))

def decimalValue : Str → ℚ
  | '-' :: s => -unsignedValue s
  | '+' :: s => unsignedValue s
  | s => unsignedValue s

/-- `(atof s)`, for a text without an exponent. -/
def atof (s : Str) : Double := .nearest (decimalValue s)

/-! ## Loops -/

/-- `(while (and (<= i (strlen s)) (member (substr s i 1) chars)) (setq i (1+ i)))`. -/
def skipChars (chars : List Str) (s : Str) (i : Nat) : Nat :=
  if i ≤ strlen s ∧ substr s i 1 ∈ chars then skipChars chars s (i + 1) else i
termination_by strlen s + 1 - i

section

variable {x rest : Str}

@[simp] theorem strlen_append : strlen (x ++ rest) = x.length + rest.length := List.length_append

/-- The position behind a part of a string shows what is left of it. -/
theorem substr_behind (n : Nat) : substr (x ++ rest) (x.length + 1) n = rest.take n := by
  unfold substr
  rw [Nat.add_sub_cancel, List.drop_left]

theorem skipChars_behind (chars : List Str) : ∀ (rest x : Str),
    skipChars chars (x ++ rest) (x.length + 1) =
      x.length + 1 + (rest.takeWhile fun c => [c] ∈ chars).length := by
  intro rest
  induction rest with
  | nil =>
      intro x
      rw [skipChars, if_neg]
      · rfl
      · rintro ⟨hle, -⟩
        rw [strlen_append] at hle
        simp at hle
  | cons c rest ih =>
      intro x
      rw [skipChars, substr_behind]
      by_cases hc : [c] ∈ chars
      · rw [if_pos ⟨by simp, by simpa using hc⟩, List.takeWhile_cons_of_pos (by simpa using hc)]
        have hmove := ih (x ++ [c])
        rw [List.append_assoc, List.singleton_append, List.length_append,
          List.length_singleton] at hmove
        rw [hmove, List.length_cons]
        omega
      · rw [if_neg (fun h => hc (by simpa using h.2)),
          List.takeWhile_cons_of_neg (by simpa using hc)]
        rfl

end

/-! ## Search -/

theorem findFrom_eq_some {pattern s : Str} {i k : Nat} (h : findFrom pattern s i = some k) :
    ∃ before after, s = before ++ after ∧ k = i + before.length ∧ pattern <+: after := by
  induction s generalizing i with
  | nil =>
      unfold findFrom at h
      split at h
      · rename_i hpattern
        cases h
        exact ⟨[], [], rfl, rfl, hpattern⟩
      · cases h
  | cons c cs ih =>
      unfold findFrom at h
      split at h
      · rename_i hpattern
        cases h
        exact ⟨[], c :: cs, rfl, rfl, hpattern⟩
      · obtain ⟨before, after, rfl, rfl, hpattern⟩ := ih h
        exact ⟨c :: before, after, rfl, by rw [List.length_cons]; omega, hpattern⟩

/-- Nothing is found exactly where the pattern occurs nowhere. -/
theorem findFrom_eq_none {pattern s : Str} {i : Nat} :
    findFrom pattern s i = none ↔ ¬ pattern <:+: s := by
  induction s generalizing i with
  | nil =>
      unfold findFrom
      by_cases h : pattern <+: []
      · simpa [h] using h.isInfix
      · rw [if_neg h]
        simp only [true_iff]
        intro hin
        rw [List.infix_nil.mp hin] at h
        exact h List.nil_prefix
  | cons c cs ih =>
      unfold findFrom
      by_cases h : pattern <+: c :: cs
      · simpa [h] using h.isInfix
      · rw [if_neg h, ih, List.infix_cons_iff]
        simp [h]

/-- A pattern is found at its place when it does not stand earlier. -/
theorem findFrom_first {pattern : Str} (after : Str) : ∀ (before : Str) (i : Nat),
    ¬ pattern <:+: (before ++ pattern).dropLast →
    findFrom pattern (before ++ (pattern ++ after)) i = some (i + before.length)
  | [], i, _ => by
      rw [List.nil_append]
      cases hp : pattern ++ after with
      | nil =>
          obtain ⟨rfl, -⟩ := List.append_eq_nil_iff.mp hp
          rfl
      | cons c cs =>
          rw [findFrom, ← hp, if_pos (List.prefix_append _ _)]
          rfl
  | c :: before, i, h => by
      have hlater : ¬ pattern <+: c :: (before ++ (pattern ++ after)) := by
        intro hprefix
        refine h (List.IsPrefix.isInfix ?_)
        have hinit : (c :: before ++ pattern).dropLast <+:
            c :: (before ++ (pattern ++ after)) := by
          rw [← List.append_assoc, ← List.cons_append, ← List.cons_append]
          exact (List.dropLast_prefix _).trans (List.prefix_append _ _)
        refine List.prefix_of_prefix_length_le hprefix hinit ?_
        rw [List.length_dropLast, List.length_append, List.length_cons]
        omega
      have hrest : ¬ pattern <:+: (before ++ pattern).dropLast := by
        intro hin
        refine h (hin.trans ?_)
        cases hb : before ++ pattern with
        | nil => exact List.nil_infix
        | cons d ds =>
            rw [List.cons_append, hb, List.dropLast_cons_cons]
            exact (List.suffix_cons _ _).isInfix
      rw [List.cons_append, findFrom, if_neg hlater, findFrom_first after before (i + 1) hrest,
        List.length_cons]
      congr 1
      omega

/-- A character is found behind the part of a string that does not have it. -/
theorem findFrom_char {c : Char} : ∀ (before after : Str) (i : Nat), c ∉ before →
    findFrom [c] (before ++ c :: after) i = some (i + before.length)
  | [], after, i, _ => by
      rw [List.nil_append, findFrom, if_pos (by simp)]
      rfl
  | d :: before, after, i, h => by
      rw [List.mem_cons, not_or] at h
      rw [List.cons_append, findFrom, if_neg (by simpa using h.1),
        findFrom_char before after (i + 1) h.2, List.length_cons]
      congr 1
      omega

end AutocadMcp.AutoLisp
