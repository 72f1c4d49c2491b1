import Trojan.Service

/-!
# Cooldowns

An IP whose clients fail to authenticate too often is sent into a cooldown, and
the public listener refuses it until the cooldown is over. The deadline stands
in the entry of the IP, next to the number of its connections and the count of
its failures, and all three operations of the controller write that entry: a
connection creates it, a failure may set the deadline again, and the release of
the last connection may erase it.

None of them loses a deadline. A later failure can only move it on, because the
clock does not go back, and an entry is erased only once its deadline has
passed (`AbuseController.CoolsUntil.call`).
-/

namespace AbuseController

/-- The failures that a further failure makes in its window. -/
def failuresInWindow (config : AbuseControlConfig) (now : ℤ) (entry : Option IpAbuseStats) : ℕ :=
  let stats := entry.getD {}
  if stats.authFailWindowStart = 0
      ∨ now - stats.authFailWindowStart > seconds config.authFailWindowSeconds then 1
  else stats.authFailCount + 1

/-- **A failure puts an IP into cooldown**: it is the last one that the window
has room for. -/
def entersCooldown (config : AbuseControlConfig) (now : ℤ) (a : AbuseController)
    (endpoint : TcpEndpoint) : Bool :=
  recordsFailures config
    && config.authFailMax.toNat ≤ failuresInWindow config now (a.perIp endpoint.ip)

/-- A call of the controller, at a time. -/
inductive Call where
  | tryAcquireConnectionSlot (now : ℤ) (endpoint : TcpEndpoint)
  | releaseConnectionSlot (now : ℤ) (endpoint : TcpEndpoint)
  | recordAuthFailure (now : ℤ) (endpoint : TcpEndpoint)

/-- The time of a call. -/
def Call.now : Call → ℤ
  | tryAcquireConnectionSlot now _ => now
  | releaseConnectionSlot now _ => now
  | recordAuthFailure now _ => now

/-- The table after a call. -/
def call (config : AbuseControlConfig) (a : AbuseController) : Call → AbuseController
  | .tryAcquireConnectionSlot _ endpoint => (a.tryAcquireConnectionSlot config endpoint).2
  | .releaseConnectionSlot now endpoint => a.releaseConnectionSlot config now endpoint
  | .recordAuthFailure now endpoint => a.recordAuthFailure config now endpoint

/-- The table after some calls, one after the other. -/
def calls (config : AbuseControlConfig) (a : AbuseController) (cs : List Call) :
    AbuseController :=
  cs.foldl (call config) a

/-- **An IP cools down** at least until a time. -/
def CoolsUntil (a : AbuseController) (ip : Bytes) (deadline : ℤ) : Prop :=
  ∃ stats, a.perIp ip = some stats ∧ deadline ≤ stats.cooldownUntil

variable {config : AbuseControlConfig} {now deadline : ℤ} {a : AbuseController} {ip : Bytes}

/-- **What a failure does to the deadline of its entry**: it is set if the
failure puts the IP into cooldown, and kept if it does not. -/
theorem recordEntry_eq (config : AbuseControlConfig) (now : ℤ) (entry : Option IpAbuseStats) :
    ∃ stats, recordEntry config now entry = some stats
      ∧ stats.cooldownUntil
        = if config.authFailMax.toNat ≤ failuresInWindow config now entry then
            now + seconds config.cooldownSeconds
          else (entry.getD {}).cooldownUntil := by
  unfold recordEntry failuresInWindow
  dsimp only
  split
  · split
    · exact ⟨_, rfl, rfl⟩
    · exact ⟨_, rfl, rfl⟩
  · split
    · exact ⟨_, rfl, rfl⟩
    · exact ⟨_, rfl, rfl⟩

/-- The failure that puts an IP into cooldown sets the deadline. -/
theorem coolsUntil_of_entersCooldown {endpoint : TcpEndpoint}
    (h : entersCooldown config now a endpoint = true) :
    (a.recordAuthFailure config now endpoint).CoolsUntil endpoint.ip
      (now + seconds config.cooldownSeconds) := by
  obtain ⟨hrecords, hmany⟩ := Bool.and_eq_true_iff.mp h
  obtain ⟨stats, hstats, hdeadline⟩ := recordEntry_eq config now (a.perIp endpoint.ip)
  refine ⟨stats, ?_, ?_⟩
  · rw [recordAuthFailure, if_neg (recordsFailures_iff.mp hrecords), perIp_modify_self, hstats]
  · exact Int.le_of_eq (hdeadline.trans (if_pos (of_decide_eq_true hmany))).symm

namespace CoolsUntil

/-- What is done to one entry leaves the deadlines of the others, and its own
if the operation does. -/
theorem modify (h : a.CoolsUntil ip deadline) (ip' : Bytes)
    {f : Option IpAbuseStats → Option IpAbuseStats}
    (hf : ∀ stats, deadline ≤ stats.cooldownUntil →
      ∃ stats', f (some stats) = some stats' ∧ deadline ≤ stats'.cooldownUntil) :
    (a.modify ip' f).CoolsUntil ip deadline := by
  obtain ⟨stats, hstats, hle⟩ := h
  by_cases hip : ip = ip'
  · subst hip
    obtain ⟨stats', hstats', hle'⟩ := hf stats hle
    exact ⟨stats', by rw [perIp_modify_self, hstats, hstats'], hle'⟩
  · exact ⟨stats, by rw [perIp_modify_of_ne f hip, hstats], hle⟩

/-- A new connection does not touch a deadline. -/
theorem tryAcquireConnectionSlot (h : a.CoolsUntil ip deadline) (endpoint : TcpEndpoint) :
    (a.tryAcquireConnectionSlot config endpoint).2.CoolsUntil ip deadline := by
  unfold AbuseController.tryAcquireConnectionSlot
  split
  · exact h
  · refine modify h endpoint.ip (f := fun entry => (acquireEntry config entry).2)
      (fun stats hle => ?_)
    unfold acquireEntry
    dsimp only
    split
    · exact ⟨stats, rfl, hle⟩
    · exact ⟨_, rfl, hle⟩

/-- The release of a connection erases no entry before its deadline. -/
theorem releaseConnectionSlot (h : a.CoolsUntil ip deadline) (hnow : now < deadline)
    (endpoint : TcpEndpoint) :
    (a.releaseConnectionSlot config now endpoint).CoolsUntil ip deadline := by
  unfold AbuseController.releaseConnectionSlot
  split
  · exact h
  · refine h.modify endpoint.ip (fun stats hle => ?_)
    have hkept (n : ℕ) :
        ¬ (n = 0 ∧ stats.authFailCount = 0 ∧ stats.cooldownUntil ≤ now) := by
      rintro ⟨-, -, hover⟩
      omega
    unfold releaseEntry
    dsimp only
    split
    · exact ⟨_, if_neg (hkept _), hle⟩
    · exact ⟨_, if_neg (hkept _), hle⟩

/-- A further failure moves a deadline on, or leaves it. -/
theorem recordAuthFailure (h : a.CoolsUntil ip deadline)
    (hnow : deadline ≤ now + seconds config.cooldownSeconds) (endpoint : TcpEndpoint) :
    (a.recordAuthFailure config now endpoint).CoolsUntil ip deadline := by
  unfold AbuseController.recordAuthFailure
  split
  · exact h
  · refine h.modify endpoint.ip (fun stats hle => ?_)
    obtain ⟨stats', hstats', hdeadline⟩ := recordEntry_eq config now (some stats)
    refine ⟨stats', hstats', ?_⟩
    rw [hdeadline]
    split
    · exact hnow
    · exact hle

/-- **No call loses a deadline** before it has passed, as long as the calls come
after the failure that set it. -/
theorem call (h : a.CoolsUntil ip deadline) {c : Call} (hlt : c.now < deadline)
    (hge : deadline ≤ c.now + seconds config.cooldownSeconds) :
    (a.call config c).CoolsUntil ip deadline := by
  cases c with
  | tryAcquireConnectionSlot now endpoint => exact h.tryAcquireConnectionSlot endpoint
  | releaseConnectionSlot now endpoint => exact h.releaseConnectionSlot hlt endpoint
  | recordAuthFailure now endpoint => exact h.recordAuthFailure hge endpoint

/-- And so no sequence of calls does. -/
theorem calls (h : a.CoolsUntil ip deadline) {cs : List Call}
    (hcs : ∀ c ∈ cs, c.now < deadline
      ∧ deadline ≤ c.now + seconds config.cooldownSeconds) :
    (a.calls config cs).CoolsUntil ip deadline := by
  induction cs generalizing a with
  | nil => exact h
  | cons c cs ih =>
    obtain ⟨hlt, hge⟩ := hcs c List.mem_cons_self
    exact ih (h.call hlt hge) (fun c' hc' => hcs c' (List.mem_cons_of_mem _ hc'))

/-- **An IP that cools down is in cooldown.** -/
theorem isIpInCooldown {endpoint : TcpEndpoint} (h : a.CoolsUntil endpoint.ip deadline)
    (hnow : now < deadline) (henabled : config.enabled = true) (hfail : 0 < config.authFailMax)
    (hcooldown : 0 < config.cooldownSeconds) :
    a.isIpInCooldown config now endpoint = true := by
  obtain ⟨stats, hstats, hle⟩ := h
  have hon : ¬ (!config.enabled || decide (config.authFailMax ≤ 0)
      || decide (config.cooldownSeconds ≤ 0)) = true := by
    rw [henabled, decide_eq_false (Int.not_le.mpr hfail),
      decide_eq_false (Int.not_le.mpr hcooldown)]
    simp
  rw [AbuseController.isIpInCooldown, if_neg hon, hstats]
  exact decide_eq_true (Int.lt_of_lt_of_le hnow hle)

end CoolsUntil

end AbuseController

namespace Service

open AbuseController

/-- **An IP in cooldown is refused**: its connection is kept as refused, with
the session that was created for it and not started. -/
theorem handleAcceptCompletion_of_isIpInCooldown {config : Config} {now : ℤ} {svc : Service}
    {endpoint : TcpEndpoint} (hserver : config.runType = .server)
    (h : svc.abuseController.isIpInCooldown config.abuseControl now endpoint = true)
    (env : ServerSession.Env) (session : ServerSession) (startFails : Bool) :
    (svc.handleAcceptCompletion config now env .standard session
        (.accepted (some endpoint) startFails)).1.connections
      = Function.update svc.connections .standard
        (svc.connections .standard ++ [⟨endpoint, .rejectCooldown, session⟩]) := by
  have hdecision : evaluateIncomingConnection config now svc.abuseController endpoint
      = (.rejectCooldown, svc.abuseController) := by
    rw [evaluateIncomingConnection, if_neg (not_not.mpr hserver), if_pos h]
  show (settle config now env
    { svc with
      abuseController := (evaluateIncomingConnection config now svc.abuseController endpoint).2 }
    .standard session endpoint startFails
    (evaluateIncomingConnection config now svc.abuseController endpoint).1).connections = _
  rw [hdecision]
  exact (settle_of_ne (by simp) config now svc env .standard session endpoint startFails).2.2

/-- **A cooldown is never lost.** Once a failure at time `t` has put an IP into
cooldown, then whatever calls of the controller follow, for whatever IPs, the
IP is in cooldown at every time before `t + cooldown_seconds`, and the public
listener starts no session for a connection that comes from it. -/
theorem cooldown_kept {config : Config} (hserver : config.runType = .server)
    (henabled : config.abuseControl.enabled = true)
    (hfail : 0 < config.abuseControl.authFailMax)
    (hcooldown : 0 < config.abuseControl.cooldownSeconds) {a : AbuseController} {t now : ℤ}
    {failed endpoint : TcpEndpoint} {cs : List Call}
    (henters : entersCooldown config.abuseControl t a failed = true)
    (hip : endpoint.ip = failed.ip)
    (hclock : (t :: (cs.map Call.now ++ [now])).IsChain (· ≤ ·))
    (hnow : now < t + seconds config.abuseControl.cooldownSeconds) :
    ((a.recordAuthFailure config.abuseControl t failed).calls config.abuseControl
        cs).isIpInCooldown config.abuseControl now endpoint = true
      ∧ ∀ (svc : Service) (env : ServerSession.Env) (session : ServerSession) (startFails : Bool),
        svc.abuseController = (a.recordAuthFailure config.abuseControl t failed).calls
          config.abuseControl cs →
        (svc.handleAcceptCompletion config now env .standard session
            (.accepted (some endpoint) startFails)).1.connections
          = Function.update svc.connections .standard
            (svc.connections .standard ++ [⟨endpoint, .rejectCooldown, session⟩]) := by
  have hpairwise := List.isChain_iff_pairwise.mp hclock
  have hcs : ∀ c ∈ cs, c.now < t + seconds config.abuseControl.cooldownSeconds
      ∧ t + seconds config.abuseControl.cooldownSeconds
        ≤ c.now + seconds config.abuseControl.cooldownSeconds := by
    intro c hc
    have hmem : c.now ∈ cs.map Call.now := List.mem_map_of_mem hc
    have hge : t ≤ c.now :=
      (List.pairwise_cons.mp hpairwise).1 _ (List.mem_append_left _ hmem)
    have hle : c.now ≤ now :=
      (List.pairwise_append.mp (List.pairwise_cons.mp hpairwise).2).2.2 _ hmem now
        List.mem_cons_self
    omega
  have hcools := (coolsUntil_of_entersCooldown henters).calls hcs
  rw [← hip] at hcools
  have hin := hcools.isIpInCooldown hnow henabled hfail hcooldown
  refine ⟨hin, fun svc env session startFails hsvc => ?_⟩
  exact handleAcceptCompletion_of_isIpInCooldown hserver (hsvc ▸ hin) env session startFails

/-- A server that puts an IP into cooldown at its first failure. -/
def strictConfig : Config := { abuseControl := { authFailMax := 1 } }

/-- A connection that comes and goes, and a further failure, leave the IP in
cooldown. -/
theorem cooldown_kept_strict :
    ((({} : AbuseController).recordAuthFailure strictConfig.abuseControl 5 {}).calls
        strictConfig.abuseControl
        [.tryAcquireConnectionSlot 6 {}, .releaseConnectionSlot 7 {},
          .recordAuthFailure 8 {}]).isIpInCooldown strictConfig.abuseControl 9 {} = true :=
  (cooldown_kept rfl rfl (by decide) (by decide) (by decide) rfl
    (by decide) (by decide)).1

end Service
