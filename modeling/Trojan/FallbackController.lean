import Trojan.Config
import Trojan.Util.Exchange

/-!
# The fallback controller

A client that does not authenticate is relayed to the fallback server, and the
number of such relays is limited: `FallbackController` counts the slots in use
in the service's runtime metrics (`core/fallback_controller.cpp`). Sessions run
on several threads, so the counter is changed by compare-and-exchange loops.

Here a call is a function of the metrics, and `FallbackController.tryAcquireSlot_of_retry`
and `FallbackController.releaseSlot_of_retry` say that the loops of the source
compute it, in the state in which their last attempt finds the counter.
-/

/-- `RuntimeMetrics`. -/
structure RuntimeMetrics where
  acceptedConnectionsTotal : ℕ := 0
  rejectedConnectionsTotal : ℕ := 0
  rejectedFallbackTotal : ℕ := 0
  authSuccessTotal : ℕ := 0
  authFailureTotal : ℕ := 0
  fallbackConnectionsTotal : ℕ := 0
  activeSessions : ℕ := 0
  activeFallbackSessions : ℕ := 0
  deriving DecidableEq

namespace FallbackController

variable (config : AbuseControlConfig) (m : RuntimeMetrics)

/-- The budget is limited: the control is on, and its limit is positive. -/
def isLimited : Bool := config.enabled && 0 < config.fallbackMaxActive

/-- The loop condition of `try_acquire_slot`. -/
def hasRoom (active : ℕ) : Bool := active < config.fallbackMaxActive.toNat

/-- **`FallbackController::try_acquire_slot`**: the answer, and the metrics. -/
def tryAcquireSlot : Bool × RuntimeMetrics :=
  if !config.enabled || config.fallbackMaxActive ≤ 0 then
    (true, { m with
      fallbackConnectionsTotal := m.fallbackConnectionsTotal + 1
      activeFallbackSessions := m.activeFallbackSessions + 1 })
  else if hasRoom config m.activeFallbackSessions then
    (true, { m with
      activeFallbackSessions := m.activeFallbackSessions + 1
      fallbackConnectionsTotal := m.fallbackConnectionsTotal + 1 })
  else (false, { m with rejectedFallbackTotal := m.rejectedFallbackTotal + 1 })

/-- **`FallbackController::release_slot`**. -/
def releaseSlot : RuntimeMetrics :=
  if m.activeFallbackSessions > 0 then
    { m with activeFallbackSessions := m.activeFallbackSessions - 1 }
  else m

variable {config m}

theorem isLimited_iff :
    isLimited config = true
      ↔ ¬ (!config.enabled || decide (config.fallbackMaxActive ≤ 0)) = true := by
  unfold isLimited
  cases config.enabled <;> simp

/-- **The loop of `try_acquire_slot`**, whatever it meets, answers what the
call answers in the state in which the loop last saw the counter; and where it
takes a slot, the counter is in that state. -/
theorem tryAcquireSlot_of_retry (hlimited : isLimited config = true) {loaded v : ℕ}
    {attempts : List (Exchange.Attempt ℕ)} {exchanged : Bool}
    (h : Exchange.retry (hasRoom config) loaded attempts = some (v, exchanged)) :
    (tryAcquireSlot config { m with activeFallbackSessions := v }).1 = exchanged
      ∧ (exchanged = true → ∃ a ∈ attempts, a.held = v) := by
  obtain ⟨hguard, hheld⟩ := Exchange.retry_eq_some h
  refine ⟨?_, hheld⟩
  rw [tryAcquireSlot, if_neg (isLimited_iff.mp hlimited), hguard]
  show (if hasRoom config v then _ else _ : Bool × RuntimeMetrics).1 = _
  cases hasRoom config v with
  | true => rfl
  | false => rfl

/-- **The loop of `release_slot`** likewise. -/
theorem releaseSlot_of_retry {loaded v : ℕ} {attempts : List (Exchange.Attempt ℕ)}
    {exchanged : Bool}
    (h : Exchange.retry (fun active => 0 < active) loaded attempts = some (v, exchanged)) :
    (releaseSlot { m with activeFallbackSessions := v }).activeFallbackSessions
        = (if exchanged then v - 1 else v)
      ∧ (exchanged = true → ∃ a ∈ attempts, a.held = v) := by
  obtain ⟨hguard, hheld⟩ := Exchange.retry_eq_some h
  refine ⟨?_, hheld⟩
  rw [hguard]
  by_cases hpos : 0 < v
  · rw [releaseSlot, if_pos hpos, if_pos (decide_eq_true hpos)]
  · rw [releaseSlot, if_neg hpos, if_neg (by simpa using hpos)]

/-- A loop that nothing disturbs gives the answer, after however many failures
of the weak exchange. -/
theorem retry_of_undisturbed (hlimited : isLimited config = true)
    {attempts : List (Exchange.Attempt ℕ)}
    (hheld : ∀ a ∈ attempts, a.held = m.activeFallbackSessions)
    (hex : ∃ a ∈ attempts, a.spurious = false) :
    Exchange.retry (hasRoom config) m.activeFallbackSessions attempts
      = some (m.activeFallbackSessions, (tryAcquireSlot config m).1) := by
  have hend : Exchange.retry (hasRoom config) m.activeFallbackSessions attempts
      = some (m.activeFallbackSessions, hasRoom config m.activeFallbackSessions) :=
    Exchange.retry_of_undisturbed hheld hex
  rw [hend, (tryAcquireSlot_of_retry (m := m) hlimited hend).1]

/-- **Asking for a slot** takes one exactly when the answer says so, and a
limited budget only says so while there is room. -/
theorem active_tryAcquireSlot :
    (tryAcquireSlot config m).2.activeFallbackSessions
        = m.activeFallbackSessions + (tryAcquireSlot config m).1.toNat
      ∧ (isLimited config = true → (tryAcquireSlot config m).1 = true →
        m.activeFallbackSessions < config.fallbackMaxActive.toNat) := by
  unfold tryAcquireSlot
  split
  · rename_i hoff
    exact ⟨rfl, fun hlimited _ => absurd hoff (isLimited_iff.mp hlimited)⟩
  · split
    · rename_i hroom
      exact ⟨rfl, fun _ _ => of_decide_eq_true hroom⟩
    · exact ⟨rfl, fun _ hgranted => absurd hgranted Bool.false_ne_true⟩

/-- **Giving back a slot** frees one, if one is in use. -/
@[simp] theorem active_releaseSlot :
    (releaseSlot m).activeFallbackSessions = m.activeFallbackSessions - 1 := by
  unfold releaseSlot
  split
  · rfl
  · omega

end FallbackController
