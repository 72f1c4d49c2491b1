import Trojan.FailureWindow

/-!
# Idle entries of the abuse controller

The table of the controller grows with every IP that is seen. `release_connection_slot`
takes an entry out again when the last connection of its IP is gone, no failure is
counted and no cooldown runs, so that of an IP that has gone away nothing should be
left.

A cooldown ends by itself, and the controller asks the clock whether it has. A window of
failures ends by itself too, but that is noticed only at the next failure, and an IP
that has gone away does not have one: the number of its failures is set back by a cooldown
and by nothing else. So an idle IP is reclaimed exactly when every failure of it has
been answered with a cooldown (`perIp_releaseConnectionSlot_eq_none_iff`), and one that
failed once and left stays in the table.
-/

namespace AbuseController

/-- The release of a connection, in an entry that is there. -/
theorem releaseEntry_some (now : ℤ) (stats : IpAbuseStats) :
    releaseEntry now (some stats)
      = if stats.activeConnections ≤ 1 ∧ stats.authFailCount = 0 ∧ stats.cooldownUntil ≤ now
        then none
        else some { stats with activeConnections := stats.activeConnections - 1 } := by
  unfold releaseEntry
  dsimp only
  obtain ⟨activeConnections, authFailCount, authFailWindowStart, cooldownUntil⟩ := stats
  cases activeConnections with
  | zero => exact if_congr (and_congr_left' (by simp)) rfl rfl
  | succ n => exact if_congr (and_congr_left' (by simp)) rfl rfl

/-- **An IP is idle** at a time, after some calls and the release of one of its
connections: none is left, no cooldown runs, and its last failure is older than the
window is long. -/
structure Idle (config : AbuseControlConfig) (cs : List Call) (now : ℤ)
    (endpoint : TcpEndpoint) : Prop where
  inactive : (releaseConnectionSlot config now (calls config {} cs) endpoint).active endpoint.ip = 0
  cool : isIpInCooldown config now (calls config {} cs) endpoint = false
  old : ∀ f ∈ (track config endpoint.ip cs).failures.head?,
    now - f.time > seconds config.authFailWindowSeconds

variable {config : AbuseControlConfig} {now : ℤ} {endpoint : TcpEndpoint}

/-- **When an idle IP is reclaimed**: exactly when every failure of it has been answered
with a cooldown. A failure that has not keeps the entry in the table, however long
ago it was. -/
theorem perIp_releaseConnectionSlot_eq_none_iff (henabled : config.enabled = true)
    (hconnections : 0 < config.perIpMaxConnections) (hmax : 0 < config.authFailMax)
    (hwindow : 0 < config.authFailWindowSeconds) (hcooldown : 0 < config.cooldownSeconds)
    {cs : List Call} (hclock : (cs.map Call.now ++ [now]).Pairwise (· ≤ ·))
    (hpos : ∀ c ∈ cs, 0 < c.now) (hnow : 0 < now) (hidle : Idle config cs now endpoint) :
    (releaseConnectionSlot config now (calls config {} cs) endpoint).perIp endpoint.ip = none
      ↔ uncounted (track config endpoint.ip cs).failures = [] := by
  have hlimits : limitsConnections config = true := by
    simp [limitsConnections, henabled, hconnections]
  have hrecords : recordsFailures config = true :=
    recordsFailures_eq_true.mpr ⟨henabled, hmax, hwindow⟩
  have hbefore := List.pairwise_append.mp hclock
  have hwindowed := (Counted.track hrecords endpoint.ip hbefore.1 hpos hnow.le
    (fun c hc => hbefore.2.2 _ (List.mem_map_of_mem hc) _ List.mem_cons_self)).windowed
  rw [table_track] at hwindowed
  rw [hwindowed.eq_nil_iff]
  have hreleased : (releaseConnectionSlot config now (calls config {} cs) endpoint).perIp
      endpoint.ip = releaseEntry now ((calls config {} cs).perIp endpoint.ip) := by
    rw [releaseConnectionSlot, if_neg (limitsConnections_iff.mp hlimits), perIp_modify_self]
  have hinactive := hidle.inactive
  rw [active_releaseConnectionSlot hlimits, if_pos rfl, active] at hinactive
  have hcool := hidle.cool
  rw [isIpInCooldown, if_neg (by simp [henabled, hmax, hcooldown])] at hcool
  rw [hreleased]
  -- of the three things that the release asks, an idle IP has two, and the third is the count
  cases hentry : (calls config {} cs).perIp endpoint.ip with
  | none => exact iff_of_true rfl rfl
  | some stats =>
    rw [hentry] at hcool hinactive
    have hover : stats.cooldownUntil ≤ now := by simpa using hcool
    have hactive : stats.activeConnections ≤ 1 := Nat.le_of_sub_eq_zero hinactive
    rw [releaseEntry_some]
    constructor
    · intro hnone
      by_contra hcount
      rw [if_neg (fun h => hcount h.2.1)] at hnone
      cases hnone
    · intro hcount
      exact if_pos ⟨hactive, hcount, hover⟩

/-- A connection that fails to authenticate and is gone a minute and a half later. -/
def oneFailure : List Call :=
  [.tryAcquireConnectionSlot (seconds 1) {}, .recordAuthFailure (seconds 1) {}]

/-- **A failure that no cooldown answered keeps the entry** when nothing else does. -/
theorem exists_idle_entry :
    ¬ ∀ (config : AbuseControlConfig) (cs : List Call) (now : ℤ) (endpoint : TcpEndpoint),
      config.enabled = true → 0 < config.perIpMaxConnections → 0 < config.authFailMax →
      0 < config.authFailWindowSeconds → 0 < config.cooldownSeconds →
      (cs.map Call.now ++ [now]).Pairwise (· ≤ ·) → (∀ c ∈ cs, 0 < c.now) → 0 < now →
      Idle config cs now endpoint →
      (releaseConnectionSlot config now (calls config {} cs) endpoint).perIp endpoint.ip
        = none := by
  intro h
  have hgone := h {} oneFailure (seconds 90) {} rfl (by decide) (by decide) (by decide) (by decide)
    (by decide) (by decide) (by decide) ⟨rfl, rfl, by decide⟩
  revert hgone
  decide

/-- An IP that did not fail is reclaimed. -/
theorem perIp_releaseConnectionSlot_eq_none_iff_quiet :
    (releaseConnectionSlot {} (seconds 90)
        (calls {} {} [.tryAcquireConnectionSlot (seconds 1) {}]) {}).perIp [] = none :=
  (perIp_releaseConnectionSlot_eq_none_iff rfl (by decide) (by decide) (by decide) (by decide)
    (by decide) (by decide) (by decide) ⟨rfl, rfl, by decide⟩).mpr rfl

end AbuseController
