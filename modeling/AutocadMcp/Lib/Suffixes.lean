import Mathlib.Data.List.Infix

/-!
# The longest good suffix

What a buffer holds that drops its oldest elements until the rest is good: the longest suffix of all
that was ever put in that is good, provided that every suffix of a good list is good.
-/

namespace AutocadMcp

variable {α : Type} {p q : List α → Prop} [DecidablePred p] [DecidablePred q] {l m : List α} {x : α}

def longestSuffix (p : List α → Prop) [DecidablePred p] : List α → List α
  | [] => []
  | x :: l => if p (x :: l) then x :: l else longestSuffix p l

theorem longestSuffix_suffix (p : List α → Prop) [DecidablePred p] (l : List α) :
    longestSuffix p l <:+ l := by
  induction l with
  | nil => exact List.suffix_refl []
  | cons x l ih =>
      unfold longestSuffix
      split
      · exact List.suffix_refl _
      · exact ih.trans (List.suffix_cons x l)

theorem longestSuffix_spec (hnil : p []) (l : List α) : p (longestSuffix p l) := by
  induction l with
  | nil => exact hnil
  | cons x l ih =>
      unfold longestSuffix
      split
      · assumption
      · exact ih

/-- A good suffix is a part of the longest one. -/
theorem suffix_longestSuffix (hm : m <:+ l) (hp : p m) : m <:+ longestSuffix p l := by
  induction l with
  | nil =>
      rw [List.suffix_nil.mp hm]
      exact List.nil_suffix
  | cons x l ih =>
      unfold longestSuffix
      split
      · exact hm
      · next hnot =>
          rcases List.suffix_cons_iff.mp hm with rfl | hm
          · exact absurd hp hnot
          · exact ih hm

/-- The longest good suffix is known by its properties. -/
theorem eq_longestSuffix (hnil : p []) (hm : m <:+ l) (hp : p m)
    (hmax : ∀ k, k <:+ l → p k → k <:+ m) : m = longestSuffix p l := by
  have hback := hmax _ (longestSuffix_suffix p l) (longestSuffix_spec hnil l)
  exact (suffix_longestSuffix hm hp).eq_of_length_le hback.length_le

/-- Only the suffixes count. -/
theorem longestSuffix_congr (h : ∀ m, m <:+ l → (p m ↔ q m)) :
    longestSuffix p l = longestSuffix q l := by
  induction l with
  | nil => rfl
  | cons x l ih =>
      have hrest := ih fun m hm => h m (hm.trans (List.suffix_cons x l))
      have hwhole := h _ (List.suffix_refl (x :: l))
      unfold longestSuffix
      by_cases hp : p (x :: l)
      · rw [if_pos hp, if_pos (hwhole.mp hp)]
      · rw [if_neg hp, if_neg fun hq => hp (hwhole.mpr hq), hrest]

/-- A stricter choice may be made from a laxer one. -/
theorem longestSuffix_of_imp (hnil : q []) (h : ∀ m, q m → p m) :
    longestSuffix q (longestSuffix p l) = longestSuffix q l := by
  apply eq_longestSuffix hnil
  · exact (longestSuffix_suffix q _).trans (longestSuffix_suffix p l)
  · exact longestSuffix_spec hnil _
  · intro k hk hq
    exact suffix_longestSuffix (suffix_longestSuffix hk (h k hq)) hq

/-- A new element is kept, with what is good together with it. -/
theorem longestSuffix_concat (hx : p [x]) :
    longestSuffix p (l ++ [x]) = longestSuffix (fun m => p (m ++ [x])) l ++ [x] := by
  induction l with
  | nil =>
      show (if p [x] then [x] else longestSuffix p []) = [x]
      rw [if_pos hx]
  | cons y l ih =>
      show (if p (y :: (l ++ [x])) then y :: (l ++ [x]) else longestSuffix p (l ++ [x])) =
        (if p (y :: l ++ [x]) then y :: l else longestSuffix (fun m => p (m ++ [x])) l) ++ [x]
      by_cases hp : p (y :: l ++ [x])
      · rw [if_pos hp, if_pos (by simpa using hp)]
        rfl
      · rw [if_neg hp, if_neg (by simpa using hp), ih]

/-- Where the good elements come last, the longest suffix of them is all of them. -/
theorem longestSuffix_all {good : α → Prop} [DecidablePred good]
    (hsorted : l.Pairwise fun a b => good a → good b) :
    longestSuffix (fun m => ∀ a ∈ m, good a) l = l.filter fun a => good a := by
  induction l with
  | nil => rfl
  | cons x l ih =>
      obtain ⟨hhead, htail⟩ := List.pairwise_cons.mp hsorted
      unfold longestSuffix
      by_cases hx : good x
      · have hall : ∀ a ∈ x :: l, good a := by
          intro a ha
          rcases List.mem_cons.mp ha with rfl | ha
          · exact hx
          · exact hhead a ha hx
        rw [if_pos hall, List.filter_eq_self.mpr fun a ha => decide_eq_true (hall a ha)]
      · rw [if_neg fun hall => hx (hall x List.mem_cons_self), ih htail,
          List.filter_cons_of_neg (by simpa using hx)]

end AutocadMcp
