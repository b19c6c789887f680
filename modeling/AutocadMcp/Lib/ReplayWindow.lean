import Mathlib.Data.List.DropRight

/-!
# Replay windows

A receiver that takes numbered messages in order keeps the last number and, for a bounded number of
messages, what it took: a number that comes again is a duplicate where the content is the same and
is rejected where it is not. The window decides as the whole log of what was taken would, except
that a repetition from before the window is rejected whatever its content.
-/

namespace AutocadMcp.ReplayWindow

inductive Decision where
  | accepted
  | duplicate
  | rejected
  deriving DecidableEq, Repr

structure Window (φ : Type) where
  last : Nat
  recent : List (Nat × φ)
  deriving DecidableEq, Repr

variable {φ : Type} {limit start n : Nat} {f : φ} {w : Window φ}
  {log : List (Nat × φ)}

/-- The window holds the end of the log, whose numbers increase from `start`. -/
structure Covers (limit start : Nat) (log : List (Nat × φ)) (w : Window φ) : Prop where
  recent : w.recent = log.rtake limit
  last : w.last = (log.map Prod.fst).getLast?.getD start
  above : ∀ m ∈ log, start < m.1
  increasing : log.Pairwise fun a b => a.1 < b.1

theorem covers_nil : Covers limit start [] (⟨start, []⟩ : Window φ) :=
  ⟨(List.rtake_nil limit).symm, rfl, nofun, .nil⟩

theorem rtake_append {α : Type} (limit : Nat) (l : List α) (x : α) :
    (l.rtake limit ++ [x]).rtake limit = (l ++ [x]).rtake limit := by
  unfold List.rtake
  rcases Nat.le_total l.length limit with hle | hle
  · have hall : l.drop (l.length - limit) = l := by
      rw [Nat.sub_eq_zero_of_le hle, List.drop_zero]
    rw [hall]
  · have hcount : l.length - limit ≤ l.length := Nat.sub_le _ _
    rw [← List.drop_append_of_le_length hcount, List.drop_drop, List.length_drop,
      List.length_append]
    congr 1
    simp only [List.length_singleton]
    omega

/-- A number is above the whole log exactly where it is above the last one. -/
theorem Covers.last_lt (h : Covers limit start log w) :
    w.last < n ↔ start < n ∧ ∀ m ∈ log, m.1 < n := by
  rw [h.last]
  rcases List.eq_nil_or_concat log with rfl | ⟨front, m, rfl⟩
  · simp
  · have hincreasing := h.increasing
    rw [List.concat_eq_append, List.pairwise_append] at hincreasing
    have habove := h.above m (by simp)
    simp only [List.concat_eq_append, List.map_append, List.map_cons, List.map_nil,
      List.getLast?_concat, Option.getD_some]
    constructor
    · intro hlast
      refine ⟨Nat.lt_trans habove hlast, ?_⟩
      intro k hk
      rcases List.mem_append.mp hk with hfront | hend
      · exact Nat.lt_trans (hincreasing.2.2 k hfront m (by simp)) hlast
      · rw [List.mem_singleton.mp hend]
        exact hlast
    · rintro ⟨-, hall⟩
      exact hall m (by simp)

variable [DecidableEq φ]

/-- The decision about message `n` with content `f`, and the window after it. -/
def Window.record (limit : Nat) (w : Window φ) (n : Nat) (f : φ) : Decision × Window φ :=
  match w.recent.lookup n with
  | some g => (if g = f then .duplicate else .rejected, w)
  | none =>
      if n ≤ w.last then (.rejected, w)
      else (.accepted, ⟨n, (w.recent ++ [(n, f)]).rtake limit⟩)

/-- What the log of the messages that were taken after `start` decides. -/
def judge (limit start : Nat) (log : List (Nat × φ)) (n : Nat) (f : φ) : Decision :=
  match (log.rtake limit).lookup n with
  | some g => if g = f then .duplicate else .rejected
  | none => if start < n ∧ ∀ m ∈ log, m.1 < n then .accepted else .rejected

/-- **The window decides as the log does.** -/
theorem Covers.record_eq_judge (h : Covers limit start log w) (n : Nat) (f : φ) :
    (w.record limit n f).1 = judge limit start log n f := by
  unfold Window.record judge
  rw [← h.recent]
  cases w.recent.lookup n with
  | some g => rfl
  | none =>
      by_cases hlast : w.last < n
      · rw [if_neg (Nat.not_le.mpr hlast), if_pos (h.last_lt.mp hlast)]
      · rw [if_pos (Nat.not_lt.mp hlast), if_neg (fun hall => hlast (h.last_lt.mpr hall))]

/-- A message that is accepted goes to the end of the log, and the window covers the log again. -/
theorem Covers.record (h : Covers limit start log w) (n : Nat) (f : φ) :
    Covers limit start (if (w.record limit n f).1 = .accepted then log ++ [(n, f)] else log)
      (w.record limit n f).2 := by
  unfold Window.record
  cases w.recent.lookup n with
  | some g =>
      have hnot : (if g = f then Decision.duplicate else .rejected) ≠ .accepted := by
        split <;> nofun
      rw [if_neg hnot]
      exact h
  | none =>
      by_cases hlast : w.last < n
      · simp only [if_neg (Nat.not_le.mpr hlast), if_true]
        obtain ⟨hstart, hall⟩ := h.last_lt.mp hlast
        refine ⟨?_, by simp, ?_, ?_⟩
        · rw [h.recent, rtake_append]
        · intro m hm
          rcases List.mem_append.mp hm with hm | hm
          · exact h.above m hm
          · rw [List.mem_singleton.mp hm]
            exact hstart
        · rw [List.pairwise_append]
          refine ⟨h.increasing, List.pairwise_singleton _ _, ?_⟩
          intro m hm k hk
          rw [List.mem_singleton.mp hk]
          exact hall m hm
      · simp only [if_pos (Nat.not_lt.mp hlast)]
        exact h

end AutocadMcp.ReplayWindow
