import Mathlib.Data.List.Basic

/-!
# Compare-and-exchange loops

A counter that several threads share is changed by a loop: look at the value,
and while it allows the change, try to exchange it for the new one. An exchange
fails when another thread was faster, and a weak one may also fail for no
reason; either way the loop has seen the value anew, and tries again.

What an atomic counter is worth to a program is that such a loop has no
in-between. `Exchange.retry_eq_some` says so: whatever the other threads do
while the loop runs, it decides by the guard on the value it saw last, and if
it exchanges a value, then that value is what the counter held at that moment.
-/

namespace Exchange

variable {α : Type}

/-- One `compare_exchange_weak`: what the counter holds as it is tried, and
whether the exchange fails even if that is what was expected. -/
structure Attempt (α : Type) where
  held : α
  spurious : Bool := false

variable [DecidableEq α]

/-- **A loop that exchanges a value while a guard allows it**, on what its
attempts meet. It ends with the value that it saw last, and with whether it has
exchanged that value; `none` is a loop that goes on. -/
def retry (guard : α → Bool) : α → List (Attempt α) → Option (α × Bool)
  | current, [] => if guard current then none else some (current, false)
  | current, a :: attempts =>
    if guard current then
      if a.held = current ∧ a.spurious = false then some (current, true)
      else retry guard a.held attempts
    else some (current, false)

variable {guard : α → Bool} {current v : α} {attempts : List (Attempt α)} {exchanged : Bool}

/-- **A loop has no in-between**: it decides by the guard on the value that it
saw last, and what it exchanges is what the counter holds. -/
theorem retry_eq_some (h : retry guard current attempts = some (v, exchanged)) :
    exchanged = guard v ∧ (exchanged = true → ∃ a ∈ attempts, a.held = v) := by
  induction attempts generalizing current with
  | nil =>
    rw [retry] at h
    split at h
    · exact absurd h (by simp)
    · rename_i hguard
      obtain ⟨rfl, rfl⟩ := Prod.mk.inj (Option.some.inj h)
      exact ⟨(Bool.eq_false_iff.mpr hguard).symm, fun hc => absurd hc (by simp)⟩
  | cons a attempts ih =>
    rw [retry] at h
    split at h
    · rename_i hguard
      split at h
      · rename_i ha
        obtain ⟨rfl, rfl⟩ := Prod.mk.inj (Option.some.inj h)
        exact ⟨hguard.symm, fun _ => ⟨a, List.mem_cons_self, ha.1⟩⟩
      · obtain ⟨hv, hheld⟩ := ih h
        refine ⟨hv, fun hex => ?_⟩
        obtain ⟨b, hb, hbv⟩ := hheld hex
        exact ⟨b, List.mem_cons_of_mem _ hb, hbv⟩
    · rename_i hguard
      obtain ⟨rfl, rfl⟩ := Prod.mk.inj (Option.some.inj h)
      exact ⟨(Bool.eq_false_iff.mpr hguard).symm, fun hc => absurd hc (by simp)⟩

/-- **A loop that nothing disturbs ends** as soon as an attempt does not fail
for no reason, and decides by the guard on the value it started with. -/
theorem retry_of_undisturbed (hheld : ∀ a ∈ attempts, a.held = current)
    (hex : ∃ a ∈ attempts, a.spurious = false) :
    retry guard current attempts = some (current, guard current) := by
  induction attempts with
  | nil =>
    obtain ⟨a, ha, -⟩ := hex
    exact absurd ha List.not_mem_nil
  | cons a attempts ih =>
    rw [retry]
    cases hguard : guard current with
    | false => rw [if_neg Bool.false_ne_true]
    | true =>
      rw [if_pos rfl]
      by_cases hsp : a.spurious = false
      · rw [if_pos ⟨hheld a List.mem_cons_self, hsp⟩]
      · rw [if_neg (fun hc => hsp hc.2), hheld a List.mem_cons_self]
        obtain ⟨b, hb, hbs⟩ := hex
        rcases List.mem_cons.mp hb with rfl | hb
        · exact absurd hbs hsp
        · rw [← hguard]
          exact ih (fun c hc => hheld c (List.mem_cons_of_mem _ hc)) ⟨b, hb, hbs⟩

end Exchange
