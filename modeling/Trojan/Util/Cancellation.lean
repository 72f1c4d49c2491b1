import Trojan.Util.Machine

/-!
# Cancelled operations

A program that cancels an operation is still called back for it, and nothing in
the call says whether it is the operation that was cancelled: if that one had
completed before, the call reports a success. So the program cannot tell the
operation from one it has begun since. An observer can. `Watch` is such an
observer, for operations of one kind: it counts how many of those in flight were
cancelled, and is told of each completion whether it is one of them.
-/

/-- **What is watched of a program**: how many operations of a kind are in
flight, which events complete one and which of these say that it was aborted,
and which steps cancel them all. -/
structure Watch (S E : Type) where
  inFlight : S → ℕ
  completes : E → Bool
  aborted : E → Bool
  cancels : S → E → S → Bool

/-- A program, and how many of its operations in flight were cancelled. -/
structure Watched (S : Type) where
  state : S
  stale : ℕ := 0

namespace Watch

variable {S E : Type} (w : Watch S E)

/-- Whether a completion can be one of an operation that was cancelled, or of one
that was not. Only the former can be aborted. -/
def admits (x : Watched S) (e : E) (stale : Bool) : Bool :=
  if w.completes e then
    if stale then 0 < x.stale else x.stale < w.inFlight x.state && !w.aborted e
  else !stale

/-- **One step**, with whether the operation that completes was cancelled. -/
def step (step : S → E → Option S) (x : Watched S) (ev : E × Bool) : Option (Watched S) :=
  if w.admits x ev.1 ev.2 then
    (step x.state ev.1).map (fun t =>
      ⟨t, if w.cancels x.state ev.1 t then w.inFlight t else x.stale - ev.2.toNat⟩)
  else none

variable {w} {step : S → E → Option S} {x y : Watched S} {e : E} {stale : Bool}

/-- A step of the observer is a step of the program. -/
theorem step_eq_some :
    w.step step x (e, stale) = some y
      ↔ w.admits x e stale = true ∧ step x.state e = some y.state
        ∧ y.stale = if w.cancels x.state e y.state then w.inFlight y.state
          else x.stale - stale.toNat := by
  unfold Watch.step
  constructor
  · intro h
    split at h
    · rename_i hadmits
      obtain ⟨t, ht, rfl⟩ := Option.map_eq_some_iff.mp h
      exact ⟨hadmits, ht, rfl⟩
    · exact absurd h (by simp)
  · rintro ⟨hadmits, hstep, hstale⟩
    rw [if_pos hadmits, Option.map_eq_some_iff]
    refine ⟨y.state, hstep, ?_⟩
    rw [← hstale]

/-- An event that completes no operation of the kind. -/
theorem stale_of_not_completes (h : w.admits x e stale = true) (he : w.completes e = false) :
    stale = false := by
  rw [admits, he, if_neg Bool.false_ne_true] at h
  simpa using h

/-- A completion of an operation that was not cancelled. -/
theorem live_of_admits (h : w.admits x e false = true) (he : w.completes e = true) :
    x.stale < w.inFlight x.state ∧ w.aborted e = false := by
  rw [admits, if_pos he, if_neg Bool.false_ne_true, Bool.and_eq_true, decide_eq_true_iff] at h
  exact ⟨h.1, by simpa using h.2⟩

/-- A completion of one that was. -/
theorem stale_of_admits (h : w.admits x e true = true) (he : w.completes e = true) :
    0 < x.stale := by
  rw [admits, if_pos he, if_pos rfl] at h
  exact of_decide_eq_true h

end Watch
