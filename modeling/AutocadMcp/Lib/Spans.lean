import Mathlib.Algebra.Order.Group.Abs
import Mathlib.Algebra.Order.Ring.Abs
import Mathlib.Data.List.MinMax
import Mathlib.Tactic.Linarith

/-!
# Spans laid end to end

A span goes from its left to its right end. From where the last one ended, a walk takes the
span that starts there and reaches furthest. It goes the way of every joined sequence whose
members each reach furthest, and of no other, so it may lose a sequence that only a shorter
step leads to.
-/

namespace AutocadMcp.Spans

variable {α K : Type} [Field K] [LinearOrder K]

section

variable (left right : α → K) (tol : K)

/-- The spans meet end to start on the way from `a` to `b`. -/
def Joined (b : K) : K → List α → Prop
  | a, [] => |a - b| ≤ tol
  | a, s :: rest => |left s - a| ≤ tol ∧ Joined b (right s) rest

def startingAt (spans : List α) (cursor : K) : List α :=
  spans.filter fun s => |left s - cursor| ≤ tol

/-- Each member of the way from one end to the other is the first of those that reach furthest
from where it starts, and gets more than the tolerance ahead. The way ends as soon as `stop`
is not further off than the tolerance. -/
inductive Furthest (spans : List α) (stop : K) : K → List α → K → Prop
  | arrived {cursor : K} (hnear : ¬ cursor < stop - tol) : Furthest spans stop cursor [] cursor
  | step {cursor last : K} {s : α} {rest : List α} (hfar : cursor < stop - tol)
      (hmost : (startingAt left tol spans cursor).argmax right = some s)
      (hahead : ¬ right s ≤ cursor + tol) (hrest : Furthest spans stop (right s) rest last) :
      Furthest spans stop cursor (s :: rest) last

end

section

variable {left right : α → K} {tol : K} {spans : List α} {stop cursor last : K} {way : List α}

theorem mem_startingAt {s : α} : s ∈ startingAt left tol spans cursor ↔
    s ∈ spans ∧ |left s - cursor| ≤ tol := by
  simp [startingAt]

theorem mem_of_argmax {s : α} (h : (startingAt left tol spans cursor).argmax right = some s) :
    s ∈ spans ∧ |left s - cursor| ≤ tol :=
  mem_startingAt.mp (List.argmax_mem (Option.mem_def.mpr h))

theorem Furthest.mem (h : Furthest left right tol spans stop cursor way last) :
    ∀ s ∈ way, s ∈ spans := by
  induction h with
  | arrived hnear => simp
  | step hfar hmost hahead hrest ih =>
      intro s hs
      rcases List.mem_cons.mp hs with rfl | hs
      · exact (mem_of_argmax hmost).1
      · exact ih s hs

/-- The members are joined, up to where the way ends. -/
theorem Furthest.joined {b : K} (h : Furthest left right tol spans stop cursor way last)
    (hend : |last - b| ≤ tol) : Joined left right tol b cursor way := by
  induction h with
  | arrived hnear => exact hend
  | step hfar hmost hahead hrest ih => exact ⟨(mem_of_argmax hmost).2, ih hend⟩

/-- There is one such way at most. -/
theorem Furthest.unique {way' : List α} {last' : K}
    (h : Furthest left right tol spans stop cursor way last)
    (h' : Furthest left right tol spans stop cursor way' last') : way = way' ∧ last = last' := by
  induction h generalizing way' with
  | arrived hnear =>
      rcases h' with _ | ⟨hfar, -, -, -⟩
      · exact ⟨rfl, rfl⟩
      · exact absurd hfar hnear
  | step hfar hmost hahead hrest ih =>
      rcases h' with hnear | ⟨-, hmost', -, hrest'⟩
      · exact absurd hfar hnear
      · rw [hmost, Option.some.injEq] at hmost'
        subst hmost'
        obtain ⟨rfl, rfl⟩ := ih hrest'
        exact ⟨rfl, rfl⟩

/-- What is left to walk on gets shorter with each step. -/
theorem length_ahead_lt [IsStrictOrderedRing K] (htol : 0 < tol) {s : α} (hs : s ∈ spans)
    (hahead : ¬ right s ≤ cursor + tol) :
    (spans.filter fun r => right s < right r).length <
      (spans.filter fun r => cursor < right r).length := by
  have hpast : cursor < right s := by
    have := not_le.mp hahead
    linarith
  have hsub : (spans.filter fun r => right s < right r) =
      (spans.filter fun r => cursor < right r).filter fun r => right s < right r := by
    rw [List.filter_filter]
    refine List.filter_congr fun r _ => ?_
    rw [Bool.eq_iff_iff]
    simp only [decide_eq_true_eq, Bool.and_eq_true]
    exact ⟨fun h => ⟨h, hpast.trans h⟩, fun h => h.1⟩
  rw [hsub]
  exact List.length_filter_lt_length_iff_exists.mpr
    ⟨s, List.mem_filter.mpr ⟨hs, decide_eq_true hpast⟩, by simp⟩

end

section

variable (left right : α → K) {tol : K} (spans : List α) (stop : K)

/-- The way that takes the furthest span each time and where it ends; without a value where it
gets stuck. -/
def walk [IsStrictOrderedRing K] (htol : 0 < tol) (cursor : K) : Option (List α × K) :=
  if cursor < stop - tol then
    match _hmost : (startingAt left tol spans cursor).argmax right with
    | none => none
    | some s =>
        if _hahead : right s ≤ cursor + tol then none
        else (walk htol (right s)).map fun w => (s :: w.1, w.2)
  else some ([], cursor)
termination_by (spans.filter fun r => cursor < right r).length
decreasing_by exact length_ahead_lt htol (mem_of_argmax _hmost).1 _hahead

variable [IsStrictOrderedRing K] {left right} {spans} {stop} {htol : 0 < tol}

theorem walk_eq_some {cursor : K} {w : List α × K} :
    walk left right spans stop htol cursor = some w ↔
      Furthest left right tol spans stop cursor w.1 w.2 := by
  fun_induction walk left right spans stop htol cursor generalizing w with
  | case1 cursor hfar hnone =>
      refine ⟨nofun, ?_⟩
      rcases w with ⟨way, last⟩
      rintro (hnear | ⟨-, hmost, -, -⟩)
      · exact absurd hfar hnear
      · rw [hnone] at hmost
        cases hmost
  | case2 cursor hfar s hsome hstuck =>
      refine ⟨nofun, ?_⟩
      rcases w with ⟨way, last⟩
      rintro (hnear | ⟨-, hmost, hahead, -⟩)
      · exact absurd hfar hnear
      · rw [hsome, Option.some.injEq] at hmost
        subst hmost
        exact absurd hstuck hahead
  | case3 cursor hfar s hsome hahead ih =>
      rw [Option.map_eq_some_iff]
      rcases w with ⟨way, last⟩
      constructor
      · rintro ⟨rest, hrest, heq⟩
        cases heq
        exact .step hfar hsome hahead (ih.mp hrest)
      · rintro (hnear | ⟨-, hmost, -, hrest⟩)
        · exact absurd hfar hnear
        · rw [hsome, Option.some.injEq] at hmost
          subst hmost
          exact ⟨_, (ih (w := (_, last))).mpr hrest, rfl⟩
  | case4 cursor hnear =>
      rcases w with ⟨way, last⟩
      constructor
      · intro heq
        cases heq
        exact .arrived hnear
      · rintro (_ | ⟨hfar, -, -, -⟩)
        · rfl
        · exact absurd hfar hnear

end

end AutocadMcp.Spans
