import Trojan.IdleEntries
import Trojan.Util.Machine

/-!
# Erased entries of the abuse controller

An entry that `release_connection_slot` takes out of the table should not be missed: the
next connection or failure of its IP begins with a fresh one, and that should be as good
as the old. A controller that erases nothing is the measure of that
(`operateKept`).

Two entries answer alike from a time on (`AnswersAlike`) if they have the same number of
connections, deadlines that are the same or past, and windows that are the same or over.
What the release asks of an entry gives the first two. It does not ask for the window.
After a cooldown the window begins at the failure that caused it, with no failure counted,
and it may last longer than the cooldown. An entry that is erased in between forgets that
beginning: the failures that follow are counted from a later time, and may put the IP into
a cooldown that the old entry would not have ordered. That is the only way in which
erasing can be noticed (`answers_eq_of_keepsWindow`).
-/

namespace AbuseController

/-- A connection gone, in an entry that stays whatever it says. -/
def releaseEntryKept : Option IpAbuseStats → Option IpAbuseStats
  | none => none
  | some stats => some { stats with activeConnections := stats.activeConnections - 1 }

/-- **`release_connection_slot` of a controller that erases nothing.** -/
def releaseConnectionSlotKept (config : AbuseControlConfig) (a : AbuseController)
    (endpoint : TcpEndpoint) : AbuseController :=
  if !config.enabled || config.perIpMaxConnections ≤ 0 then a
  else a.modify endpoint.ip releaseEntryKept

/-- An operation of the controller: a call that acts on the table, or the question
about a cooldown. -/
inductive Operation where
  | call (c : Call)
  | isIpInCooldown (now : ℤ) (endpoint : TcpEndpoint)

/-- The time of an operation. -/
def Operation.now : Operation → ℤ
  | call c => c.now
  | isIpInCooldown now _ => now

/-- The table after an operation. -/
def operate (config : AbuseControlConfig) (a : AbuseController) : Operation → AbuseController
  | .call c => a.call config c
  | .isIpInCooldown _ _ => a

/-- The table after an operation of a controller that erases nothing. -/
def operateKept (config : AbuseControlConfig) (a : AbuseController) : Operation → AbuseController
  | .call (.releaseConnectionSlot _ endpoint) => a.releaseConnectionSlotKept config endpoint
  | op => a.operate config op

/-- **What an operation answers**, if it answers anything. -/
def answer (config : AbuseControlConfig) (a : AbuseController) : Operation → Option Bool
  | .call (.tryAcquireConnectionSlot _ endpoint) =>
    some (a.tryAcquireConnectionSlot config endpoint).1
  | .isIpInCooldown now endpoint => some (a.isIpInCooldown config now endpoint)
  | .call (.releaseConnectionSlot _ _) => none
  | .call (.recordAuthFailure _ _) => none

/-- The answers to some operations, one after the other, of a controller that does
with its table what it is told. -/
def answers (config : AbuseControlConfig)
    (act : AbuseController → Operation → AbuseController) :
    AbuseController → List Operation → List (Option Bool)
  | _, [] => []
  | a, op :: ops => a.answer config op :: answers config act (act a op) ops

/-- The start of a window matters to the controller: a single failure does not put an IP
into cooldown, and a cooldown lasts some time. -/
def CountsFailures (config : AbuseControlConfig) : Prop :=
  1 < config.authFailMax ∧ 0 < config.cooldownSeconds

/-- **An operation erases no window that lasts**: where it is the release of the last
connection of an IP that has no failures and no cooldown, the window of the IP is over,
if windows matter. -/
def KeepsWindow (config : AbuseControlConfig) (a : AbuseController) : Operation → Prop
  | .call (.releaseConnectionSlot now endpoint) =>
    limitsConnections config = true → CountsFailures config →
    ∀ stats, a.perIp endpoint.ip = some stats → stats.activeConnections ≤ 1 →
    stats.authFailCount = 0 → stats.cooldownUntil ≤ now →
      WindowOver config now stats.authFailWindowStart
  | _ => True

/-- A step of the controller, which is never refused. -/
def takes (config : AbuseControlConfig) (a : AbuseController) (op : Operation) :
    Option AbuseController :=
  some (a.operate config op)

theorem windowOf_releaseEntryKept (kept : Option IpAbuseStats) :
    windowOf (releaseEntryKept kept) = windowOf kept := by
  cases kept with
  | none => rfl
  | some stats => rfl

theorem cooldownUntil_releaseEntryKept (kept : Option IpAbuseStats) :
    ((releaseEntryKept kept).getD {}).cooldownUntil = (kept.getD {}).cooldownUntil := by
  cases kept with
  | none => rfl
  | some stats => rfl

theorem one_le_failuresInWindow (config : AbuseControlConfig) (now : ℤ)
    (entry : Option IpAbuseStats) : 1 ≤ failuresInWindow config now entry := by
  unfold failuresInWindow
  dsimp only
  split
  · exact le_rfl
  · exact Nat.le_add_left 1 _

theorem activeConnections_recordEntry (config : AbuseControlConfig) (now : ℤ)
    (entry : Option IpAbuseStats) :
    ((recordEntry config now entry).getD {}).activeConnections
      = (entry.getD {}).activeConnections := by
  unfold recordEntry
  dsimp only
  split <;> split <;> rfl

/-- The answer about a cooldown, whether there is an entry or not. -/
theorem isIpInCooldown_eq {config : AbuseControlConfig} {now : ℤ} (hnow : 0 ≤ now)
    (a : AbuseController) (endpoint : TcpEndpoint) :
    a.isIpInCooldown config now endpoint
      = (config.enabled && decide (0 < config.authFailMax)
        && decide (0 < config.cooldownSeconds)
        && decide (now < ((a.perIp endpoint.ip).getD {}).cooldownUntil)) := by
  unfold isIpInCooldown
  split
  · rename_i hoff
    symm
    simp only [Bool.or_eq_true, Bool.not_eq_true', decide_eq_true_eq] at hoff
    rcases hoff with (hoff | hoff) | hoff
    · simp [hoff]
    · simp [not_lt.mpr hoff]
    · simp [not_lt.mpr hoff]
  · rename_i hon
    simp only [Bool.or_eq_true, Bool.not_eq_true', decide_eq_true_eq, not_or] at hon
    obtain ⟨⟨henabled, hmax⟩, hcooldown⟩ := hon
    cases a.perIp endpoint.ip with
    | none => simp [hnow]
    | some stats => simp [Bool.of_not_eq_false henabled, not_le.mp hmax, not_le.mp hcooldown]

/-- **Two entries that answer alike** from a time on: that of the controller and that of
one that erases nothing. -/
structure AnswersAlike (config : AbuseControlConfig) (now : ℤ)
    (entry kept : Option IpAbuseStats) : Prop where
  active : (entry.getD {}).activeConnections = (kept.getD {}).activeConnections
  cooldown : 0 < config.cooldownSeconds →
    (entry.getD {}).cooldownUntil = (kept.getD {}).cooldownUntil
      ∨ (entry.getD {}).cooldownUntil ≤ now ∧ (kept.getD {}).cooldownUntil ≤ now
  window : CountsFailures config →
    windowOf entry = windowOf kept
      ∨ WindowOver config now (windowOf entry).1 ∧ WindowOver config now (windowOf kept).1

namespace AnswersAlike

variable {config : AbuseControlConfig} {now last : ℤ} {entry kept : Option IpAbuseStats}

theorem refl (config : AbuseControlConfig) (now : ℤ) (entry : Option IpAbuseStats) :
    AnswersAlike config now entry entry :=
  ⟨rfl, fun _ => .inl rfl, fun _ => .inl rfl⟩

/-- Time passes. -/
theorem mono (h : AnswersAlike config last entry kept) (hle : last ≤ now) :
    AnswersAlike config now entry kept where
  active := h.active
  cooldown hcooldown := (h.cooldown hcooldown).imp_right
    (fun ⟨hentry, hkept⟩ => ⟨hentry.trans hle, hkept.trans hle⟩)
  window hcounts := (h.window hcounts).imp_right
    (fun ⟨hentry, hkept⟩ => ⟨hentry.imp_right (fun h => by omega),
      hkept.imp_right (fun h => by omega)⟩)

/-- A new connection is answered alike, and leaves the entries alike. -/
theorem acquire (h : AnswersAlike config now entry kept) :
    (acquireEntry config entry).1 = (acquireEntry config kept).1
      ∧ AnswersAlike config now (acquireEntry config entry).2 (acquireEntry config kept).2 := by
  by_cases hfull : (entry.getD {}).activeConnections ≥ config.perIpMaxConnections.toNat
  · have hentry : acquireEntry config entry = (false, some (entry.getD {})) := if_pos hfull
    have hkept : acquireEntry config kept = (false, some (kept.getD {})) :=
      if_pos (h.active ▸ hfull)
    rw [hentry, hkept]
    exact ⟨rfl, h.active, h.cooldown, h.window⟩
  · have hentry : acquireEntry config entry = (true, some { entry.getD {} with
        activeConnections := (entry.getD {}).activeConnections + 1 }) := if_neg hfull
    have hkept : acquireEntry config kept = (true, some { kept.getD {} with
        activeConnections := (kept.getD {}).activeConnections + 1 }) :=
      if_neg (h.active ▸ hfull)
    rw [hentry, hkept]
    exact ⟨rfl, congrArg (· + 1) h.active, h.cooldown, h.window⟩

/-- **The release of a connection** leaves the entries alike, if it does not erase a
window that lasts. -/
theorem release (h : AnswersAlike config now entry kept) (hnow : 0 ≤ now)
    (hkeeps : CountsFailures config → ∀ stats, entry = some stats →
      stats.activeConnections ≤ 1 → stats.authFailCount = 0 → stats.cooldownUntil ≤ now →
      WindowOver config now stats.authFailWindowStart) :
    AnswersAlike config now (releaseEntry now entry) (releaseEntryKept kept) := by
  have hactive : (entry.getD {}).activeConnections - 1
      = ((releaseEntryKept kept).getD {}).activeConnections := by
    rw [h.active]
    cases kept with
    | none => rfl
    | some stats => rfl
  have hcooldown := cooldownUntil_releaseEntryKept kept
  have hwindow := windowOf_releaseEntryKept kept
  cases entry with
  | none => exact ⟨hactive, hcooldown ▸ h.cooldown, hwindow ▸ h.window⟩
  | some stats =>
    rw [releaseEntry_some]
    split
    · -- erased: no entry is one with no connections, no deadline and no window
      rename_i herased
      obtain ⟨hlast, hcount, hover⟩ := herased
      refine ⟨?_, fun hpos => .inr ⟨hnow, ?_⟩, fun hcounts => .inr ⟨.inl rfl, ?_⟩⟩
      · rw [← hactive]
        exact (Nat.sub_eq_zero_of_le hlast).symm
      · rw [hcooldown]
        rcases h.cooldown hpos with hsame | ⟨-, hkept⟩
        · exact hsame ▸ hover
        · exact hkept
      · rw [hwindow]
        rcases h.window hcounts with hsame | ⟨-, hkept⟩
        · exact hsame ▸ hkeeps hcounts stats rfl hlast hcount hover
        · exact hkept
    · exact ⟨hactive, hcooldown ▸ h.cooldown, hwindow ▸ h.window⟩

/-- A failure falls into the same window, or into one of its own. -/
theorem failuresInWindow_eq (h : AnswersAlike config now entry kept)
    (hcounts : CountsFailures config) :
    failuresInWindow config now entry = failuresInWindow config now kept
      ∧ windowOf (recordEntry config now entry) = windowOf (recordEntry config now kept) := by
  have hcount (entry : Option IpAbuseStats) : failuresInWindow config now entry
      = if WindowOver config now (windowOf entry).1 then 1 else (windowOf entry).2 + 1 := rfl
  rw [windowOf_recordEntry, windowOf_recordEntry, hcount, hcount]
  rcases h.window hcounts with hsame | ⟨hentry, hkept⟩
  · rw [hsame]
    exact ⟨rfl, rfl⟩
  · rw [if_pos hentry, if_pos hkept, if_pos hentry, if_pos hkept]
    exact ⟨rfl, rfl⟩

/-- **A failure** leaves the entries alike. -/
theorem record (h : AnswersAlike config now entry kept) (hmax : 0 < config.authFailMax) :
    AnswersAlike config now (recordEntry config now entry) (recordEntry config now kept) := by
  obtain ⟨stats, hstats, hdeadline⟩ := recordEntry_eq config now entry
  obtain ⟨stats', hstats', hdeadline'⟩ := recordEntry_eq config now kept
  refine ⟨?_, fun hpos => ?_, fun hcounts => .inl (h.failuresInWindow_eq hcounts).2⟩
  · rw [activeConnections_recordEntry, activeConnections_recordEntry]
    exact h.active
  · -- where windows do not matter, a failure is answered at once
    have henters : config.authFailMax.toNat ≤ failuresInWindow config now entry
        ↔ config.authFailMax.toNat ≤ failuresInWindow config now kept := by
      by_cases hmany : 1 < config.authFailMax
      · rw [(h.failuresInWindow_eq ⟨hmany, hpos⟩).1]
      · have hone := one_le_failuresInWindow config now entry
        have hone' := one_le_failuresInWindow config now kept
        exact iff_of_true (by omega) (by omega)
    rw [hstats, hstats']
    show stats.cooldownUntil = stats'.cooldownUntil
      ∨ stats.cooldownUntil ≤ now ∧ stats'.cooldownUntil ≤ now
    rw [hdeadline, hdeadline']
    by_cases hmany : config.authFailMax.toNat ≤ failuresInWindow config now kept
    · rw [if_pos (henters.mpr hmany), if_pos hmany]
      exact .inl rfl
    · rw [if_neg (fun h => hmany (henters.mp h)), if_neg hmany]
      exact h.cooldown hpos

end AnswersAlike

/-- Two controllers that answer alike about every IP. -/
def AllAlike (config : AbuseControlConfig) (now : ℤ) (a kept : AbuseController) : Prop :=
  ∀ ip, AnswersAlike config now (a.perIp ip) (kept.perIp ip)

namespace AllAlike

variable {config : AbuseControlConfig} {now last : ℤ} {a kept : AbuseController}

/-- Entries of one IP that are changed alike. -/
theorem modify (h : AllAlike config now a kept) {ip : Bytes}
    {f g : Option IpAbuseStats → Option IpAbuseStats}
    (hfg : AnswersAlike config now (f (a.perIp ip)) (g (kept.perIp ip))) :
    AllAlike config now (a.modify ip f) (kept.modify ip g) := by
  intro ip'
  by_cases hip : ip' = ip
  · subst hip
    rw [perIp_modify_self, perIp_modify_self]
    exact hfg
  · rw [perIp_modify_of_ne f hip, perIp_modify_of_ne g hip]
    exact h ip'

/-- **One operation** is answered alike, and leaves the controllers alike, if it erases
no window that lasts. -/
theorem operate (h : AllAlike config last a kept) {op : Operation} (hpos : 0 < op.now)
    (hle : last ≤ op.now) (hkeeps : KeepsWindow config a op) :
    a.answer config op = kept.answer config op
      ∧ AllAlike config op.now (a.operate config op) (kept.operateKept config op) := by
  have hnow : AllAlike config op.now a kept := fun ip => (h ip).mono hle
  cases op with
  | call c =>
    cases c with
    | tryAcquireConnectionSlot now endpoint =>
      by_cases hlimits : limitsConnections config = true
      · obtain ⟨hanswer, htable⟩ := perIp_tryAcquireConnectionSlot (a := a) hlimits endpoint
        obtain ⟨hanswer', htable'⟩ := perIp_tryAcquireConnectionSlot (a := kept) hlimits endpoint
        have halike := (hnow endpoint.ip).acquire
        refine ⟨congrArg some (hanswer.trans (halike.1.trans hanswer'.symm)), ?_⟩
        show AllAlike config now (a.tryAcquireConnectionSlot config endpoint).2
          (kept.tryAcquireConnectionSlot config endpoint).2
        rw [htable, htable']
        exact hnow.modify halike.2
      · have hoff (a : AbuseController) : a.tryAcquireConnectionSlot config endpoint = (true, a) :=
          if_pos (not_not.mp (fun h => hlimits (limitsConnections_iff.mpr h)))
        refine ⟨?_, ?_⟩
        · show some (a.tryAcquireConnectionSlot config endpoint).1
            = some (kept.tryAcquireConnectionSlot config endpoint).1
          rw [hoff, hoff]
        · show AllAlike config now (a.tryAcquireConnectionSlot config endpoint).2
            (kept.tryAcquireConnectionSlot config endpoint).2
          rw [hoff, hoff]
          exact hnow
    | releaseConnectionSlot now endpoint =>
      -- the only operation that the two carry out differently
      refine ⟨rfl, ?_⟩
      show AllAlike config now (a.releaseConnectionSlot config now endpoint)
        (kept.releaseConnectionSlotKept config endpoint)
      unfold releaseConnectionSlot releaseConnectionSlotKept
      split
      · exact hnow
      · rename_i hlimits
        exact hnow.modify ((hnow endpoint.ip).release (le_of_lt hpos)
          (fun hcounts stats => hkeeps (limitsConnections_iff.mpr hlimits) hcounts stats))
    | recordAuthFailure now endpoint =>
      refine ⟨rfl, ?_⟩
      show AllAlike config now (a.recordAuthFailure config now endpoint)
        (kept.recordAuthFailure config now endpoint)
      unfold recordAuthFailure
      split
      · exact hnow
      · rename_i hrecords
        exact hnow.modify ((hnow endpoint.ip).record
          (recordsFailures_eq_true.mp (recordsFailures_iff.mpr hrecords)).2.1)
  | isIpInCooldown now endpoint =>
    refine ⟨congrArg some ?_, hnow⟩
    show a.isIpInCooldown config now endpoint = kept.isIpInCooldown config now endpoint
    have hpos : 0 < now := hpos
    rw [isIpInCooldown_eq hpos.le, isIpInCooldown_eq hpos.le]
    by_cases hcooldown : 0 < config.cooldownSeconds
    · have hdeadline := (hnow endpoint.ip).cooldown hcooldown
      have hiff : now < ((a.perIp endpoint.ip).getD {}).cooldownUntil
          ↔ now < ((kept.perIp endpoint.ip).getD {}).cooldownUntil := by
        rcases hdeadline with hsame | ⟨hover, hover'⟩
        · rw [hsame]
        · exact iff_of_false (not_lt.mpr hover) (not_lt.mpr hover')
      rw [decide_eq_decide.mpr hiff]
    · -- a configuration without cooldowns answers no, whatever the deadlines are
      simp [hcooldown]

/-- **All operations** are answered alike, and leave the controllers alike, if none of
them erases a window that lasts. -/
theorem foldl (h : AllAlike config last a kept) {ops : List Operation}
    (hpos : ∀ op ∈ ops, 0 < op.now) (hclock : (last :: ops.map Operation.now).Pairwise (· ≤ ·))
    (hkeeps : Machine.Along (takes config) (KeepsWindow config) a ops) :
    answers config (AbuseController.operate config) a ops
        = answers config (operateKept config) kept ops
      ∧ ∀ now, last ≤ now → (∀ op ∈ ops, op.now ≤ now) →
        AllAlike config now (ops.foldl (AbuseController.operate config) a)
          (ops.foldl (operateKept config) kept) := by
  -- the tables differ, so the induction is about any two that answer alike
  induction ops generalizing a kept last with
  | nil => exact ⟨rfl, fun now hlast _ ip => (h ip).mono hlast⟩
  | cons op ops ih =>
    obtain ⟨hbefore, hclock⟩ := List.pairwise_cons.mp hclock
    obtain ⟨hanswer, hnext⟩ := h.operate (hpos op List.mem_cons_self)
      (hbefore _ List.mem_cons_self) hkeeps.1
    obtain ⟨hanswers, hend⟩ := ih hnext (fun op' hop' => hpos op' (List.mem_cons_of_mem _ hop'))
      hclock (hkeeps.2 _ rfl)
    refine ⟨?_, fun now _ hnow => ?_⟩
    · unfold answers
      rw [hanswer, hanswers]
    · exact hend now (hnow op List.mem_cons_self)
        (fun op' hop' => hnow op' (List.mem_cons_of_mem _ hop'))

end AllAlike

/-! ## Windows that are missed -/

/-- Operations one after the other: the clock does not go back, and its epoch is
past. -/
def Timed (ops : List Operation) : Prop :=
  (ops.map Operation.now).Pairwise (· ≤ ·) ∧ ∀ op ∈ ops, 0 < op.now

/-- **A failure that has been answered** is before the end of its cooldown: the window
that it starts is empty until the next one. -/
def Anchored (config : AbuseControlConfig) (entry : Option IpAbuseStats) : Prop :=
  (windowOf entry).2 = 0 → (windowOf entry).1 ≠ 0 →
    (windowOf entry).1 + seconds config.cooldownSeconds ≤ (entry.getD {}).cooldownUntil

namespace Anchored

variable {config : AbuseControlConfig} {now : ℤ} {entry : Option IpAbuseStats}

theorem acquire (h : Anchored config entry) : Anchored config (acquireEntry config entry).2 := by
  unfold Anchored
  rw [windowOf_acquireEntry]
  unfold acquireEntry
  dsimp only
  split
  · exact h
  · exact h

theorem release (h : Anchored config entry) : Anchored config (releaseEntry now entry) := by
  cases entry with
  | none => exact h
  | some stats =>
    rw [releaseEntry_some]
    split
    · exact fun _ hstart => absurd rfl hstart
    · exact h

/-- A failure is counted, or starts the cooldown that it is answered with. -/
theorem record : Anchored config (recordEntry config now entry) := by
  obtain ⟨stats, hstats, hdeadline⟩ := recordEntry_eq config now entry
  have hone := one_le_failuresInWindow config now entry
  unfold Anchored
  rw [windowOf_recordEntry, hstats]
  show _ → _ → _ ≤ stats.cooldownUntil
  rw [hdeadline]
  by_cases hmany : config.authFailMax.toNat ≤ failuresInWindow config now entry
  · rw [if_pos hmany, if_pos hmany]
    exact fun _ _ => le_rfl
  · -- a failure that is counted leaves a window that is not empty
    rw [if_neg hmany]
    intro hzero
    exact absurd hzero (by dsimp only; omega)

/-- **One operation.** -/
theorem operate {a : AbuseController} {ip : Bytes} (h : Anchored config (a.perIp ip))
    (op : Operation) : Anchored config ((a.operate config op).perIp ip) := by
  cases op with
  | isIpInCooldown now endpoint => exact h
  | call c =>
    cases c with
    | tryAcquireConnectionSlot now endpoint =>
      rcases @perIp_tryAcquireConnectionSlot_or config a endpoint ip with hsame | hnew
      · exact hsame ▸ h
      · exact hnew ▸ h.acquire
    | releaseConnectionSlot now endpoint =>
      rcases @perIp_releaseConnectionSlot_or config now a endpoint ip with
        hsame | hnew
      · exact hsame ▸ h
      · exact hnew ▸ h.release
    | recordAuthFailure now endpoint =>
      show Anchored config ((a.recordAuthFailure config now endpoint).perIp ip)
      by_cases hrecords : recordsFailures config = true
      · rw [perIp_recordAuthFailure hrecords]
        split
        · exact record
        · exact h
      · -- a controller that counts no failures leaves the table
        have hoff : a.recordAuthFailure config now endpoint = a :=
          if_pos (not_not.mp (fun h => hrecords (recordsFailures_iff.mpr h)))
        rw [hoff]
        exact h

/-- **All operations.** -/
theorem foldl (ip : Bytes) (ops : List Operation) {a : AbuseController}
    (h : Anchored config (a.perIp ip)) :
    Anchored config ((ops.foldl (AbuseController.operate config) a).perIp ip) := by
  induction ops generalizing a with
  | nil => exact h
  | cons op ops ih => exact ih (h.operate op)

end Anchored

/-- Failures of an IP at one time. -/
def burst (now : ℤ) (endpoint : TcpEndpoint) (n : ℕ) : List Operation :=
  List.replicate n (.call (.recordAuthFailure now endpoint))

section Relapse

variable {config : AbuseControlConfig} {now start : ℤ} {entry : Option IpAbuseStats}

/-- **Failures that do not fill a window** are counted in it, and the deadline stays. -/
theorem recordEntry_iterate (hwindow : ¬ WindowOver config now start) {count n : ℕ}
    (hroom : count + n < config.authFailMax.toNat) (hentry : windowOf entry = (start, count)) :
    windowOf ((recordEntry config now)^[n] entry) = (start, count + n)
      ∧ (((recordEntry config now)^[n] entry).getD {}).cooldownUntil
        = (entry.getD {}).cooldownUntil := by
  induction n generalizing entry count with
  | zero => exact ⟨hentry, rfl⟩
  | succ n ih =>
    have hcount : failuresInWindow config now entry = count + 1 := by
      show (if WindowOver config now (windowOf entry).1 then 1 else (windowOf entry).2 + 1) = _
      rw [hentry, if_neg hwindow]
    have hfew : ¬ config.authFailMax.toNat ≤ failuresInWindow config now entry := by omega
    have hnext := windowOf_recordEntry config now entry
    rw [if_neg hfew, hcount, hentry, if_neg hwindow] at hnext
    obtain ⟨stats, hstats, hdeadline⟩ := recordEntry_eq config now entry
    rw [if_neg hfew] at hdeadline
    obtain ⟨hwindows, hdeadlines⟩ := @ih _ (count + 1) (by omega) hnext
    refine ⟨?_, ?_⟩
    · rw [Function.iterate_succ_apply, hwindows]
      exact Prod.ext rfl (by dsimp only; omega)
    · rw [Function.iterate_succ_apply, hdeadlines, hstats]
      exact hdeadline

/-- The failure that comes when the window is over opens one of its own, and the one that
comes at its last moment may fill it. -/
theorem recordEntry_after_burst (late : ℤ) (hmax : 1 < config.authFailMax)
    (hentry : (windowOf entry).2 + 1 = config.authFailMax.toNat) :
    ((recordEntry config late entry).getD {}).cooldownUntil
      = if WindowOver config late (windowOf entry).1 then (entry.getD {}).cooldownUntil
        else late + seconds config.cooldownSeconds := by
  obtain ⟨stats, hstats, hdeadline⟩ := recordEntry_eq config late entry
  have hcount : failuresInWindow config late entry
      = if WindowOver config late (windowOf entry).1 then 1 else (windowOf entry).2 + 1 := rfl
  rw [hstats]
  show stats.cooldownUntil = _
  rw [hdeadline, hcount]
  by_cases hover : WindowOver config late (windowOf entry).1
  · rw [if_pos hover, if_pos hover, if_neg (by omega)]
  · rw [if_neg hover, if_neg hover, if_pos (by omega)]

/-- The entry of an IP after failures of it. -/
theorem perIp_burst (hrecords : recordsFailures config = true)
    {act : AbuseController → Operation → AbuseController}
    (hact : ∀ a now endpoint, act a (.call (.recordAuthFailure now endpoint))
      = a.recordAuthFailure config now endpoint)
    (a : AbuseController) (now : ℤ) (endpoint : TcpEndpoint) (n : ℕ) :
    ((burst now endpoint n).foldl act a).perIp endpoint.ip
      = (recordEntry config now)^[n] (a.perIp endpoint.ip) := by
  induction n generalizing a with
  | zero => rfl
  | succ n ih =>
    show ((burst now endpoint n).foldl act (act a _)).perIp endpoint.ip = _
    rw [ih, hact, perIp_recordAuthFailure hrecords, if_pos rfl]
    rfl

/-- Failures that tell a window from none: some at the time of its release, which do not
fill it, and one more when it is over. -/
def relapse (config : AbuseControlConfig) (now : ℤ) (endpoint : TcpEndpoint) : List Operation :=
  burst now endpoint (config.authFailMax.toNat - 1)
    ++ [.call (.recordAuthFailure (now + seconds config.authFailWindowSeconds) endpoint)]

/-- **Failures that come when the window is over** are counted in one of their own. -/
theorem recordEntry_iterate_succ (hwindow : 0 < config.authFailWindowSeconds) (hnow : 0 < now)
    (hover : WindowOver config now (windowOf entry).1) {n : ℕ}
    (hroom : n + 1 < config.authFailMax.toNat) :
    windowOf ((recordEntry config now)^[n + 1] entry) = (now, n + 1)
      ∧ (((recordEntry config now)^[n + 1] entry).getD {}).cooldownUntil
        = (entry.getD {}).cooldownUntil := by
  have hwidth := seconds_pos hwindow
  have hcount : failuresInWindow config now entry = 1 := if_pos hover
  have hfew : ¬ config.authFailMax.toNat ≤ failuresInWindow config now entry := by omega
  have hnext := windowOf_recordEntry config now entry
  rw [if_neg hfew, hcount, if_pos hover] at hnext
  obtain ⟨stats, hstats, hdeadline⟩ := recordEntry_eq config now entry
  rw [if_neg hfew] at hdeadline
  have hlasts : ¬ WindowOver config now now := not_or.mpr ⟨hnow.ne', by omega⟩
  obtain ⟨hwindows, hdeadlines⟩ := recordEntry_iterate (n := n) hlasts (by omega) hnext
  rw [Function.iterate_succ_apply]
  refine ⟨hwindows.trans (Prod.ext rfl (by dsimp only; omega)), hdeadlines.trans ?_⟩
  rw [hstats]
  exact hdeadline

/-- The entry of an IP after its relapse. -/
theorem perIp_relapse (hrecords : recordsFailures config = true)
    {act : AbuseController → Operation → AbuseController}
    (hact : ∀ a now endpoint, act a (.call (.recordAuthFailure now endpoint))
      = a.recordAuthFailure config now endpoint)
    (a : AbuseController) (now : ℤ) (endpoint : TcpEndpoint) :
    ((relapse config now endpoint).foldl act a).perIp endpoint.ip
      = recordEntry config (now + seconds config.authFailWindowSeconds)
        ((recordEntry config now)^[config.authFailMax.toNat - 1] (a.perIp endpoint.ip)) := by
  rw [relapse, List.foldl_append]
  show (act _ _).perIp endpoint.ip = _
  rw [hact, perIp_recordAuthFailure hrecords, if_pos rfl, perIp_burst hrecords hact]

end Relapse

/-- A window that is erased while it lasts began with a cooldown that is over, and so it
has some length. -/
theorem windowSeconds_pos_of_not_keepsWindow {config : AbuseControlConfig} {now : ℤ}
    {a : AbuseController} {endpoint : TcpEndpoint}
    (hanchored : Anchored config (a.perIp endpoint.ip))
    (herases : ¬ KeepsWindow config a (.call (.releaseConnectionSlot now endpoint))) :
    0 < config.authFailWindowSeconds := by
  unfold KeepsWindow at herases
  push Not at herases
  obtain ⟨-, hcounts, stats, hstats, -, hcount, hover, hstart, hlasts⟩ := herases
  have hlength := seconds_pos hcounts.2
  rw [hstats] at hanchored
  have hbegan : stats.authFailWindowStart + seconds config.cooldownSeconds
      ≤ stats.cooldownUntil := hanchored hcount hstart
  -- the cooldown is over and took some time, so the window is already longer than that
  by_contra hnone
  have hwidth : seconds config.authFailWindowSeconds ≤ 0 := by
    unfold seconds
    omega
  omega

/-- **A window that is erased while it lasts is missed**: after a relapse the IP is in
cooldown, and for a controller that erased nothing it is not. -/
theorem isIpInCooldown_relapse {config : AbuseControlConfig} {now : ℤ}
    {a kept : AbuseController} {endpoint : TcpEndpoint} (halike : AllAlike config now a kept)
    (hanchored : Anchored config (a.perIp endpoint.ip))
    (hwindow : 0 < config.authFailWindowSeconds) (hnow : 0 < now)
    (herases : ¬ KeepsWindow config a (.call (.releaseConnectionSlot now endpoint))) :
    isIpInCooldown config (now + seconds config.authFailWindowSeconds)
        ((relapse config now endpoint).foldl (operate config)
          (a.operate config (.call (.releaseConnectionSlot now endpoint)))) endpoint = true
      ∧ isIpInCooldown config (now + seconds config.authFailWindowSeconds)
        ((relapse config now endpoint).foldl (operateKept config)
          (kept.operateKept config (.call (.releaseConnectionSlot now endpoint)))) endpoint
        = false := by
  unfold KeepsWindow at herases
  push Not at herases
  obtain ⟨hlimits, hcounts, stats, hstats, hlast, hcount, hover, hstart, hlasts⟩ := herases
  obtain ⟨hmax, hcooldown⟩ := hcounts
  have hlength := seconds_pos hcooldown
  rw [hstats] at hanchored
  have hbegan : stats.authFailWindowStart + seconds config.cooldownSeconds
      ≤ stats.cooldownUntil := hanchored hcount hstart
  have henabled : config.enabled = true := (Bool.and_eq_true_iff.mp hlimits).1
  have hrecords : recordsFailures config = true :=
    recordsFailures_eq_true.mpr ⟨henabled, by omega, hwindow⟩
  have hwidth := seconds_pos hwindow
  obtain ⟨n, hn⟩ : ∃ n, config.authFailMax.toNat - 1 = n + 1 :=
    ⟨config.authFailMax.toNat - 2, by omega⟩
  constructor
  · -- erased: the burst opens a window of its own, and the last failure fills it
    have herased : (a.operate config (.call (.releaseConnectionSlot now endpoint))).perIp
        endpoint.ip = none := by
      show (a.releaseConnectionSlot config now endpoint).perIp endpoint.ip = none
      rw [releaseConnectionSlot, if_neg (limitsConnections_iff.mp hlimits), perIp_modify_self,
        hstats, releaseEntry_some, if_pos ⟨hlast, hcount, hover⟩]
    obtain ⟨hburst, -⟩ := @recordEntry_iterate_succ config now none hwindow hnow (.inl rfl) n
      (by omega)
    have hfill := recordEntry_after_burst
      (now + seconds config.authFailWindowSeconds) hmax (by rw [hburst]; dsimp only; omega)
    rw [hburst, if_neg (not_or.mpr ⟨hnow.ne', by omega⟩)] at hfill
    rw [isIpInCooldown_eq (by omega), perIp_relapse hrecords (fun _ _ _ => rfl), herased, hn,
      hfill, henabled]
    simp [hcooldown, hlength, (by omega : 0 < config.authFailMax)]
  · -- kept: the burst falls into the old window, and the last failure comes too late for it
    have hkept : (kept.operateKept config (.call (.releaseConnectionSlot now endpoint))).perIp
        endpoint.ip = releaseEntryKept (kept.perIp endpoint.ip) := by
      show (kept.releaseConnectionSlotKept config endpoint).perIp endpoint.ip = _
      rw [releaseConnectionSlotKept, if_neg (limitsConnections_iff.mp hlimits), perIp_modify_self]
    have hsame : windowOf (releaseEntryKept (kept.perIp endpoint.ip))
        = (stats.authFailWindowStart, 0) := by
      rw [windowOf_releaseEntryKept]
      rcases (halike endpoint.ip).window ⟨hmax, hcooldown⟩ with hsame | ⟨hends, -⟩
      · rw [← hsame, hstats]
        exact Prod.ext rfl hcount
      · rw [hstats] at hends
        exact absurd hends (not_or.mpr ⟨hstart, not_lt.mpr hlasts⟩)
    have hpast : ((releaseEntryKept (kept.perIp endpoint.ip)).getD {}).cooldownUntil ≤ now := by
      rw [cooldownUntil_releaseEntryKept]
      rcases (halike endpoint.ip).cooldown hcooldown with hsame | ⟨-, hpast⟩
      · rw [← hsame, hstats]
        exact hover
      · exact hpast
    obtain ⟨hburst, hdeadline⟩ := recordEntry_iterate (n := n + 1)
      (not_or.mpr ⟨hstart, not_lt.mpr hlasts⟩) (by omega) hsame
    have hopens := recordEntry_after_burst
      (now + seconds config.authFailWindowSeconds) hmax (by rw [hburst]; dsimp only; omega)
    rw [hburst, if_pos (.inr (by dsimp only; omega)), hdeadline] at hopens
    rw [isIpInCooldown_eq (by omega), perIp_relapse hrecords (fun _ _ _ => rfl), hkept, hn, hopens]
    have hno : ¬ now + seconds config.authFailWindowSeconds
        < ((releaseEntryKept (kept.perIp endpoint.ip)).getD {}).cooldownUntil := by omega
    rw [decide_eq_false hno, Bool.and_false]

/-- What erases a window is the release of a connection. -/
theorem exists_release_of_not_keepsWindow {config : AbuseControlConfig} {a : AbuseController}
    {op : Operation} (h : ¬ KeepsWindow config a op) :
    ∃ now endpoint, op = .call (.releaseConnectionSlot now endpoint) := by
  cases op with
  | isIpInCooldown now endpoint => exact absurd trivial h
  | call c =>
    cases c with
    | tryAcquireConnectionSlot now endpoint => exact absurd trivial h
    | releaseConnectionSlot now endpoint => exact ⟨now, endpoint, rfl⟩
    | recordAuthFailure now endpoint => exact absurd trivial h

/-- What comes no earlier than the last of some operations can follow them. -/
theorem Timed.append {ops more : List Operation} {op : Operation} (h : Timed (ops ++ [op]))
    (hmore : (op.now :: more.map Operation.now).Pairwise (· ≤ ·)) :
    Timed (ops ++ op :: more) := by
  obtain ⟨hclock, hpos⟩ := h
  rw [List.map_append, List.pairwise_append] at hclock
  obtain ⟨hops, -, hlast⟩ := hclock
  have hlast (op' : Operation) (hop' : op' ∈ ops) : op'.now ≤ op.now :=
    hlast _ (List.mem_map_of_mem hop') _ (List.mem_map_of_mem List.mem_cons_self)
  have hop : 0 < op.now := hpos op List.mem_concat_self
  have hlater := (List.pairwise_cons.mp hmore).1
  constructor
  · rw [List.map_append, List.pairwise_append]
    refine ⟨hops, hmore, fun t ht t' ht' => ?_⟩
    obtain ⟨op', hop', rfl⟩ := List.mem_map.mp ht
    rcases List.mem_cons.mp ht' with rfl | ht'
    · exact hlast op' hop'
    · exact (hlast op' hop').trans (hlater t' ht')
  · intro op' hop'
    rcases List.mem_append.mp hop' with hop' | hop'
    · exact hpos op' (List.mem_append_left _ hop')
    · rcases List.mem_cons.mp hop' with rfl | hop'
      · exact hop
      · exact hop.trans_le (hlater _ (List.mem_map_of_mem hop'))

/-- A relapse begins with the release that it follows. -/
theorem pairwise_relapse {config : AbuseControlConfig}
    (hwindow : 0 < config.authFailWindowSeconds) (now : ℤ) (endpoint : TcpEndpoint) :
    (now :: (relapse config now endpoint
      ++ [Operation.isIpInCooldown (now + seconds config.authFailWindowSeconds) endpoint]).map
        Operation.now).Pairwise (· ≤ ·) := by
  have hwidth := seconds_pos hwindow
  have htimes : (relapse config now endpoint
      ++ [Operation.isIpInCooldown (now + seconds config.authFailWindowSeconds) endpoint]).map
        Operation.now
      = List.replicate (config.authFailMax.toNat - 1) now
        ++ List.replicate 2 (now + seconds config.authFailWindowSeconds) := by
    simp [relapse, burst, Operation.now, Call.now, List.replicate]
  rw [htimes, ← List.cons_append, ← List.replicate_succ, List.pairwise_append]
  refine ⟨List.pairwise_replicate.mpr (.inr le_rfl), List.pairwise_replicate.mpr (.inr le_rfl),
    fun t ht t' ht' => ?_⟩
  rw [List.eq_of_mem_replicate ht, List.eq_of_mem_replicate ht']
  omega

/-- The answers to some operations and one more. -/
theorem answers_concat (config : AbuseControlConfig)
    (act : AbuseController → Operation → AbuseController) (a : AbuseController)
    (ops : List Operation) (op : Operation) :
    answers config act a (ops ++ [op])
      = answers config act a ops ++ [(ops.foldl act a).answer config op] := by
  induction ops generalizing a with
  | nil => rfl
  | cons op' ops ih => exact congrArg (_ :: ·) (ih (act a op'))

/-- **When erasing is unobservable.** If no operation of a timed sequence erases a window
that lasts, the controller answers as one that never erases an entry, whatever its
configuration is. And nothing less will do: the first release that erases such a window
can be followed by operations that the two answer differently. -/
theorem answers_eq_of_keepsWindow (config : AbuseControlConfig) {ops : List Operation}
    (hops : Timed ops) (hkeeps : Machine.Along (takes config) (KeepsWindow config) {} ops) :
    answers config (operate config) {} ops = answers config (operateKept config) {} ops
      ∧ ∀ op, Timed (ops ++ [op]) →
        ¬ KeepsWindow config (ops.foldl (operate config) {}) op →
        ∃ more, Timed (ops ++ op :: more)
          ∧ answers config (operate config) {} (ops ++ op :: more)
            ≠ answers config (operateKept config) {} (ops ++ op :: more) := by
  have hfresh : AllAlike config 0 {} {} := fun ip => .refl config 0 none
  have hepoch : (0 :: ops.map Operation.now).Pairwise (· ≤ ·) := by
    refine List.pairwise_cons.mpr ⟨fun t ht => ?_, hops.1⟩
    obtain ⟨op, hop, rfl⟩ := List.mem_map.mp ht
    exact (hops.2 op hop).le
  obtain ⟨hanswers, halike⟩ := hfresh.foldl hops.2 hepoch hkeeps
  refine ⟨hanswers, fun op hop herases => ?_⟩
  obtain ⟨now, endpoint, rfl⟩ := exists_release_of_not_keepsWindow herases
  have hnow : 0 < now := hop.2 _ List.mem_concat_self
  have hbefore : ∀ op ∈ ops, op.now ≤ now := by
    intro op' hop'
    rw [Timed, List.map_append, List.pairwise_append] at hop
    exact hop.1.2.2 _ (List.mem_map_of_mem hop') _ (List.mem_map_of_mem List.mem_cons_self)
  have hanchored : Anchored config ((ops.foldl (operate config) {}).perIp endpoint.ip) :=
    Anchored.foldl endpoint.ip ops (fun _ hstart => absurd rfl hstart)
  have hwindow := windowSeconds_pos_of_not_keepsWindow hanchored herases
  obtain ⟨hin, hout⟩ := isIpInCooldown_relapse (halike now hnow.le hbefore) hanchored hwindow hnow
    herases
  refine ⟨relapse config now endpoint
    ++ [.isIpInCooldown (now + seconds config.authFailWindowSeconds) endpoint], ?_, ?_⟩
  · exact hop.append (pairwise_relapse hwindow now endpoint)
  · intro hsame
    rw [← List.cons_append, ← List.append_assoc, answers_concat, answers_concat] at hsame
    have hlast := (List.append_inj' hsame rfl).2
    rw [List.foldl_append, List.foldl_append] at hlast
    have hanswer := Option.some.inj (List.singleton_inj.mp hlast)
    exact Bool.false_ne_true (hout.symm.trans (hanswer.symm.trans hin))

/-- An IP whose cooldown is over, and which goes away and comes back to fail twice within
a minute, but not within a minute of the cooldown's start. -/
def comesBack : List Operation :=
  [.call (.tryAcquireConnectionSlot (seconds 99) {}), .call (.recordAuthFailure (seconds 100) {}),
    .call (.recordAuthFailure (seconds 101) {}), .call (.releaseConnectionSlot (seconds 112) {}),
    .call (.recordAuthFailure (seconds 113) {}), .call (.recordAuthFailure (seconds 165) {}),
    .isIpInCooldown (seconds 166) {}]

/-- **Erasing is observable**: the IP that comes back is in cooldown, and would not be if its
entry had stayed. -/
theorem answers_ne_of_erased :
    Timed comesBack ∧ answers twoStrikes (operate twoStrikes) {} comesBack
      ≠ answers twoStrikes (operateKept twoStrikes) {} comesBack := by
  refine ⟨⟨by decide, by decide⟩, by decide⟩

/-- An IP that goes away when a minute has passed since the cooldown began. -/
def goesAway : List Operation :=
  [.call (.recordAuthFailure (seconds 100) {}), .call (.recordAuthFailure (seconds 101) {}),
    .call (.releaseConnectionSlot (seconds 162) {}), .call (.recordAuthFailure (seconds 163) {}),
    .isIpInCooldown (seconds 166) {}]

theorem answers_eq_of_keepsWindow_goesAway :
    answers twoStrikes (operate twoStrikes) {} goesAway
      = answers twoStrikes (operateKept twoStrikes) {} goesAway := by
  have hkeeps : Machine.Along (takes twoStrikes) (KeepsWindow twoStrikes) {} goesAway := by
    refine ⟨trivial, fun _ h₁ => ⟨trivial, fun _ h₂ => ⟨?_, fun _ _ =>
      ⟨trivial, fun _ _ => ⟨trivial, fun _ _ => trivial⟩⟩⟩⟩⟩
    cases h₁
    cases h₂
    intro _ _ stats hstats _ _ _
    cases hstats
    exact .inr (by decide)
  exact (answers_eq_of_keepsWindow twoStrikes ⟨by decide, by decide⟩ hkeeps).1

end AbuseController
