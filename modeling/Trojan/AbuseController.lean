import Mathlib.Logic.Function.Basic
import Trojan.Config

/-!
# The abuse controller

`AbuseController` (`core/abuse_controller.cpp`) keeps, for every IP, how many
connections are open and how often authentication has failed lately, and from
that decides about the next connection: too many at once are refused, and an IP
whose clients fail too often in a window of time is sent into a cooldown.

The table is a map from the IP's text to its statistics. Every operation acts
on the entry of one IP and on nothing else; what it does to that entry is a
function of its own here (`AbuseController.acquireEntry` and so on), so that an
operation is the guard on the configuration and that function. Time points are
nanoseconds on the steady clock, whose epoch is what a fresh entry has.
-/

/-- `AbuseController::IpAbuseStats`. -/
structure IpAbuseStats where
  activeConnections : ℕ := 0
  authFailCount : ℕ := 0
  authFailWindowStart : ℤ := 0
  cooldownUntil : ℤ := 0
  deriving DecidableEq, Repr

/-- **The table of the controller**, `per_ip`. -/
structure AbuseController where
  perIp : Bytes → Option IpAbuseStats := fun _ => none

namespace AbuseController

/-- A number of seconds, in nanoseconds. -/
def seconds (n : ℤ) : ℤ := n * 1000000000

/-- Change the entry of an IP. -/
def modify (a : AbuseController) (ip : Bytes)
    (f : Option IpAbuseStats → Option IpAbuseStats) : AbuseController :=
  ⟨Function.update a.perIp ip (f (a.perIp ip))⟩

/-- The connections that the controller takes to be open from an IP. -/
def active (a : AbuseController) (ip : Bytes) : ℕ := ((a.perIp ip).getD {}).activeConnections

variable (config : AbuseControlConfig) (now : ℤ)

/-- The connections of an IP are limited. -/
def limitsConnections : Bool := config.enabled && 0 < config.perIpMaxConnections

/-- Authentication failures are recorded. -/
def recordsFailures : Bool :=
  config.enabled && 0 < config.authFailMax && 0 < config.authFailWindowSeconds

/-- A new connection, in the entry of its IP, which is created if it is not
there. -/
def acquireEntry (entry : Option IpAbuseStats) : Bool × Option IpAbuseStats :=
  let stats := entry.getD {}
  if stats.activeConnections ≥ config.perIpMaxConnections.toNat then (false, some stats)
  else (true, some { stats with activeConnections := stats.activeConnections + 1 })

/-- **`try_acquire_connection_slot`**. -/
def tryAcquireConnectionSlot (a : AbuseController) (endpoint : TcpEndpoint) :
    Bool × AbuseController :=
  if !config.enabled || config.perIpMaxConnections ≤ 0 then (true, a)
  else
    ((acquireEntry config (a.perIp endpoint.ip)).1,
      a.modify endpoint.ip (fun entry => (acquireEntry config entry).2))

/-- A connection gone, in the entry of its IP: an entry that says nothing any
more is erased. -/
def releaseEntry : Option IpAbuseStats → Option IpAbuseStats
  | none => none
  | some stats =>
    let stats := if stats.activeConnections > 0 then
        { stats with activeConnections := stats.activeConnections - 1 }
      else stats
    if stats.activeConnections = 0 ∧ stats.authFailCount = 0 ∧ stats.cooldownUntil ≤ now then none
    else some stats

/-- **`release_connection_slot`**. -/
def releaseConnectionSlot (a : AbuseController) (endpoint : TcpEndpoint) : AbuseController :=
  if !config.enabled || config.perIpMaxConnections ≤ 0 then a
  else a.modify endpoint.ip (releaseEntry now)

/-- **`is_ip_in_cooldown`**. -/
def isIpInCooldown (a : AbuseController) (endpoint : TcpEndpoint) : Bool :=
  if !config.enabled || config.authFailMax ≤ 0 || config.cooldownSeconds ≤ 0 then false
  else match a.perIp endpoint.ip with
  | none => false
  | some stats => stats.cooldownUntil > now

/-- A failed authentication, in the entry of its IP, which is created if it is
not there. -/
def recordEntry (entry : Option IpAbuseStats) : Option IpAbuseStats :=
  let stats := entry.getD {}
  let stats :=
    if stats.authFailWindowStart = 0
        ∨ now - stats.authFailWindowStart > seconds config.authFailWindowSeconds then
      { stats with authFailWindowStart := now, authFailCount := 1 }
    else { stats with authFailCount := stats.authFailCount + 1 }
  if stats.authFailCount ≥ config.authFailMax.toNat then
    some { stats with
      cooldownUntil := now + seconds config.cooldownSeconds
      authFailCount := 0
      authFailWindowStart := now }
  else some stats

/-- **`record_auth_failure`**. -/
def recordAuthFailure (a : AbuseController) (endpoint : TcpEndpoint) : AbuseController :=
  if !config.enabled || config.authFailMax ≤ 0 || config.authFailWindowSeconds ≤ 0 then a
  else a.modify endpoint.ip (recordEntry config now)

/-! ## What an operation does to an entry -/

section Entries

variable {config now} {a : AbuseController} {ip ip' : Bytes}

theorem limitsConnections_iff :
    limitsConnections config = true
      ↔ ¬ (!config.enabled || decide (config.perIpMaxConnections ≤ 0)) = true := by
  unfold limitsConnections
  cases config.enabled <;> simp

theorem recordsFailures_iff :
    recordsFailures config = true
      ↔ ¬ (!config.enabled || decide (config.authFailMax ≤ 0)
        || decide (config.authFailWindowSeconds ≤ 0)) = true := by
  unfold recordsFailures
  cases config.enabled <;> simp

@[simp] theorem perIp_modify_self (f : Option IpAbuseStats → Option IpAbuseStats) :
    (a.modify ip f).perIp ip = f (a.perIp ip) := Function.update_self _ _ _

theorem perIp_modify_of_ne (f : Option IpAbuseStats → Option IpAbuseStats) (h : ip' ≠ ip) :
    (a.modify ip f).perIp ip' = a.perIp ip' := Function.update_of_ne h _ _

/-- The entry of the IP after a new connection. -/
theorem perIp_tryAcquireConnectionSlot (hlimits : limitsConnections config = true)
    (endpoint : TcpEndpoint) :
    (tryAcquireConnectionSlot config a endpoint).1 = (acquireEntry config (a.perIp endpoint.ip)).1
      ∧ (tryAcquireConnectionSlot config a endpoint).2
        = a.modify endpoint.ip (fun entry => (acquireEntry config entry).2) := by
  rw [tryAcquireConnectionSlot, if_neg (limitsConnections_iff.mp hlimits)]
  exact ⟨rfl, rfl⟩

/-- **A slot is acquired** exactly when there is room, and then the IP has one
connection more; no other IP is touched. -/
theorem active_tryAcquireConnectionSlot (hlimits : limitsConnections config = true)
    (a : AbuseController) (endpoint : TcpEndpoint) (ip : Bytes) :
    (tryAcquireConnectionSlot config a endpoint).2.active ip
        = a.active ip + (if endpoint.ip = ip then
          (tryAcquireConnectionSlot config a endpoint).1.toNat else 0)
      ∧ ((tryAcquireConnectionSlot config a endpoint).1 = true →
        a.active endpoint.ip < config.perIpMaxConnections.toNat) := by
  obtain ⟨hanswer, htable⟩ := perIp_tryAcquireConnectionSlot (a := a) hlimits endpoint
  rw [hanswer, htable]
  constructor
  · by_cases hip : endpoint.ip = ip
    · subst hip
      rw [active, perIp_modify_self, if_pos rfl, active]
      unfold acquireEntry
      dsimp only
      split
      · rfl
      · rfl
    · rw [active, perIp_modify_of_ne _ (Ne.symm hip), if_neg hip]
      rfl
  · intro hgranted
    unfold acquireEntry at hgranted
    dsimp only at hgranted
    split at hgranted
    · exact absurd hgranted Bool.false_ne_true
    · rename_i hroom
      exact Nat.lt_of_not_le hroom

/-- **A slot is released**: the IP has one connection less, if it has any. -/
theorem active_releaseConnectionSlot (hlimits : limitsConnections config = true)
    (a : AbuseController) (endpoint : TcpEndpoint) (ip : Bytes) :
    (releaseConnectionSlot config now a endpoint).active ip
      = a.active ip - (if endpoint.ip = ip then 1 else 0) := by
  rw [releaseConnectionSlot, if_neg (limitsConnections_iff.mp hlimits)]
  by_cases hip : endpoint.ip = ip
  · subst hip
    rw [active, perIp_modify_self, if_pos rfl, active]
    cases a.perIp endpoint.ip with
    | none => rfl
    | some stats =>
      -- an entry that is erased has no connection left
      unfold releaseEntry
      dsimp only
      by_cases hpos : stats.activeConnections > 0
      · rw [if_pos hpos]
        split
        · rename_i herase
          exact herase.1.symm
        · rfl
      · rw [if_neg hpos]
        have hzero : stats.activeConnections = 0 := Nat.eq_zero_of_not_pos hpos
        split
        · exact (by rw [hzero] : 0 = stats.activeConnections - 1)
        · exact (by rw [hzero] : stats.activeConnections = stats.activeConnections - 1)
  · rw [active, perIp_modify_of_ne _ (Ne.symm hip), if_neg hip]
    rfl

/-- A failed authentication opens and closes no connection. -/
theorem active_recordAuthFailure (a : AbuseController) (endpoint : TcpEndpoint) (ip : Bytes) :
    (recordAuthFailure config now a endpoint).active ip = a.active ip := by
  unfold recordAuthFailure
  split
  · rfl
  · by_cases hip : endpoint.ip = ip
    · subst hip
      rw [active, perIp_modify_self, active]
      unfold recordEntry
      dsimp only
      split <;> split <;> rfl
    · rw [active, perIp_modify_of_ne _ (Ne.symm hip)]
      rfl

end Entries

end AbuseController
