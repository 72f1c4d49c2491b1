import Mathlib.Data.List.DropRight
import Trojan.Client.AdapterBackedClientController
import Trojan.Util.Windows

/-!
# Failures in a window

`RoutingRollbackWindowTracker` (`routing_runtime_safety.dart`) tells a profile that keeps
failing from one that has failed once: it remembers when each candidate has failed, and
says with each failure whether there were too many within a window. The controller has a
tracker with the bound and the window that are the defaults; here they are any.

With each failure the tracker forgets what lies before the window, of that candidate. This
loses nothing, as long as time does not go backwards
(`RollbackWindow.snd_recordFailure_iff`).
-/

/-- **A tracker's bound and window.** The bound is positive, as the constructor asserts. -/
structure RollbackWindow where
  maxRollbacks : ℕ
  /-- The width of the window, in microseconds. -/
  window : ℤ
  maxRollbacks_pos : 0 < maxRollbacks

namespace RollbackWindow

/-- The tracker of the controller. -/
def standard : RollbackWindow where
  maxRollbacks := RoutingRollbackWindowTracker.maxRollbacks
  window := RoutingRollbackWindowTracker.window
  maxRollbacks_pos := Nat.zero_lt_two

variable (tracker : RollbackWindow)

/-- Where the window of a time begins. -/
def threshold (time : ℤ) : ℤ := time - tracker.window

def recordFailure (history : RoutingRollbackWindowTracker) (candidateKey : Text) (time : ℤ) :
    RoutingRollbackWindowTracker × Bool :=
  let key := candidateKey.trim
  if key.isEmpty then (history, false)
  else
    let kept := (history key ++ [time]).filter (fun timestamp => tracker.threshold time ≤ timestamp)
    (Function.update history key kept, tracker.maxRollbacks ≤ kept.length)

/-- What the controller does with a failure. -/
theorem recordFailure_standard :
    standard.recordFailure = RoutingRollbackWindowTracker.recordFailure := rfl

/-! ## Calls of a tracker -/

/-- A call of a tracker. -/
inductive Call where
  | recordFailure (candidateKey : Text) (time : ℤ)
  | clear (candidateKey : Text)
  deriving DecidableEq, Repr

namespace Call

/-- The time of a call, if it has one. -/
def time? : Call → Option ℤ
  | .recordFailure _ time => some time
  | .clear _ => none

/-- The time of a failure of a candidate. -/
def failure? (key : Text) : Call → Option ℤ
  | .recordFailure candidateKey time => if candidateKey.trim = key then some time else none
  | .clear _ => none

/-- The call clears a candidate. -/
def clears (key : Text) : Call → Bool
  | .recordFailure _ _ => false
  | .clear candidateKey => candidateKey.trim == key

theorem time?_of_failure? {call : Call} {key : Text} {time : ℤ}
    (h : call.failure? key = some time) : call.time? = some time := by
  cases call with
  | recordFailure candidateKey time' =>
    simp only [failure?, Option.ite_none_right_eq_some] at h
    exact h.2
  | clear => cases h

end Call

/-- What the tracker remembers after a call. -/
def perform (history : RoutingRollbackWindowTracker) : Call → RoutingRollbackWindowTracker
  | .recordFailure candidateKey time => (tracker.recordFailure history candidateKey time).1
  | .clear candidateKey => history.clear candidateKey

/-- What the tracker remembers after some calls. -/
def run (calls : List Call) : RoutingRollbackWindowTracker :=
  calls.foldl tracker.perform (fun _ => [])

/-- **The failures of a candidate since it was last cleared.** -/
def failures (key : Text) (calls : List Call) : List ℤ :=
  (calls.rtakeWhile (fun call => !call.clears key)).filterMap (Call.failure? key)

/-- **Time does not go backwards** from call to call. -/
def InOrder (calls : List Call) : Prop := (calls.filterMap Call.time?).Pairwise (· ≤ ·)

/-! ## What the calls are to a candidate -/

variable {tracker} {calls : List Call} {call : Call} {key candidateKey : Text} {time : ℤ}

@[simp] theorem run_concat :
    tracker.run (calls ++ [call]) = tracker.perform (tracker.run calls) call := by
  rw [run, List.foldl_concat]
  rfl

theorem failures_concat_of_clears (h : call.clears key = true) :
    failures key (calls ++ [call]) = [] := by
  rw [failures, List.rtakeWhile_concat_neg _ _ _ (by simp [h])]
  rfl

theorem failures_concat (h : call.clears key = false) :
    failures key (calls ++ [call]) = failures key calls ++ (call.failure? key).toList := by
  rw [failures, List.rtakeWhile_concat_pos _ _ _ (by simp [h]), List.filterMap_append]
  cases hfailure : call.failure? key with
  | none => rw [List.filterMap_cons_none hfailure]; rfl
  | some time => rw [List.filterMap_cons_some hfailure]; rfl

/-- The calls before the last one are in order, too. -/
theorem InOrder.of_concat (h : InOrder (calls ++ [call])) : InOrder calls := by
  rw [InOrder, List.filterMap_append] at h
  exact (List.pairwise_append.mp h).1

/-- The failures so far are no later than one that is recorded now. -/
theorem InOrder.le_of_mem_failures (h : InOrder (calls ++ [.recordFailure candidateKey time])) :
    ∀ earlier ∈ failures key calls, earlier ≤ time := by
  intro earlier hmem
  obtain ⟨call, hcall, hfailure⟩ := List.mem_filterMap.mp hmem
  have hcalls : call ∈ calls := (List.rtakeWhile_suffix _ _).mem hcall
  rw [InOrder, List.filterMap_append, List.pairwise_append] at h
  exact h.2.2 earlier (List.mem_filterMap.mpr ⟨call, hcalls, Call.time?_of_failure? hfailure⟩)
    time List.mem_cons_self

/-! ## What the tracker remembers -/

/-- The window of a later time begins later. -/
theorem threshold_le {time' : ℤ} (h : time ≤ time') :
    tracker.threshold time ≤ tracker.threshold time' := Int.sub_le_sub_right h _

/-- What a failure of a candidate does, and what it says. -/
theorem recordFailure_of_ne_nil (history : RoutingRollbackWindowTracker)
    (hkey : candidateKey.trim ≠ []) :
    tracker.recordFailure history candidateKey time =
      (Function.update history candidateKey.trim
        ((history candidateKey.trim ++ [time]).filter
          (fun timestamp => tracker.threshold time ≤ timestamp)),
        decide (tracker.maxRollbacks ≤ ((history candidateKey.trim ++ [time]).filter
          (fun timestamp => tracker.threshold time ≤ timestamp)).length)) :=
  if_neg (by simpa using hkey)

/-- A failure of one candidate is nothing to others. -/
theorem recordFailure_of_ne (history : RoutingRollbackWindowTracker) (h : candidateKey.trim ≠ key) :
    (tracker.recordFailure history candidateKey time).1 key = history key := by
  by_cases hblank : candidateKey.trim = []
  · simp [recordFailure, hblank]
  · rw [recordFailure_of_ne_nil history hblank]
    exact Function.update_of_ne h.symm _ _

/-- What is left of a candidate when one is cleared. -/
theorem clear_apply (history : RoutingRollbackWindowTracker) (hkey : key ≠ []) :
    history.clear candidateKey key = if candidateKey.trim = key then [] else history key := by
  unfold RoutingRollbackWindowTracker.clear
  by_cases heq : candidateKey.trim = key
  · simp [heq, hkey]
  · by_cases hblank : candidateKey.trim = []
    · simp [hblank, hkey.symm]
    · simp [hblank, heq, Function.update_of_ne (Ne.symm heq)]

/-- **What is remembered of a candidate** is its failures since it was last cleared, pruned:
one call keeps it so. -/
theorem pruned_perform (hkey : key ≠ []) (horder : InOrder (calls ++ [call]))
    (h : Pruned tracker.threshold (failures key calls) (tracker.run calls key)) :
    Pruned tracker.threshold (failures key (calls ++ [call]))
      (tracker.run (calls ++ [call]) key) := by
  rw [run_concat]
  cases call with
  | recordFailure candidateKey time =>
    rw [failures_concat rfl, perform]
    by_cases heq : candidateKey.trim = key
    · subst heq
      have hfailure : (Call.recordFailure candidateKey time).failure? candidateKey.trim
          = some time := if_pos rfl
      rw [hfailure, recordFailure_of_ne_nil _ hkey]
      dsimp only
      rw [Function.update_self]
      exact h.add (fun _ _ hle => threshold_le hle) horder.le_of_mem_failures
    · have hfailure : (Call.recordFailure candidateKey time).failure? key = none := if_neg heq
      rw [hfailure, recordFailure_of_ne _ heq, Option.toList_none, List.append_nil]
      exact h
  | clear candidateKey =>
    rw [perform, clear_apply _ hkey]
    by_cases heq : candidateKey.trim = key
    · have hclears : (Call.clear candidateKey).clears key = true := beq_iff_eq.mpr heq
      rw [if_pos heq, failures_concat_of_clears hclears]
      exact .nil _
    · have hkeeps : (Call.clear candidateKey).clears key = false := beq_eq_false_iff_ne.mpr heq
      rw [if_neg heq, failures_concat hkeeps]
      simpa [Call.failure?] using h

/-- The same of a whole run. -/
theorem pruned_run (hkey : key ≠ []) (horder : InOrder calls) :
    Pruned tracker.threshold (failures key calls) (tracker.run calls key) := by
  induction calls using List.reverseRecOn with
  | nil => exact .nil _
  | append_singleton calls call ih => exact pruned_perform hkey horder (ih horder.of_concat)

/-- **Pruning loses nothing.** After any calls, a failure of a candidate whose key is not
blank is found to be one too many exactly if so many failures of that candidate since it
was last cleared, this one included, lie in the window that ends now. -/
theorem snd_recordFailure_iff (tracker : RollbackWindow) (calls : List Call)
    (candidateKey : Text) (time : ℤ) (hkey : candidateKey.trim ≠ [])
    (horder : InOrder (calls ++ [.recordFailure candidateKey time])) :
    (tracker.recordFailure (tracker.run calls) candidateKey time).2 = true ↔
      tracker.maxRollbacks ≤
        (failures candidateKey.trim (calls ++ [.recordFailure candidateKey time])).countP
          (fun failed => decide (time - tracker.window ≤ failed ∧ failed ≤ time)) := by
  have hfailure : (Call.recordFailure candidateKey time).failure? candidateKey.trim = some time :=
    if_pos rfl
  have hpruned : Pruned tracker.threshold (failures candidateKey.trim calls)
      (tracker.run calls candidateKey.trim) := pruned_run hkey horder.of_concat
  rw [recordFailure_of_ne_nil _ hkey, failures_concat rfl, hfailure, decide_eq_true_iff,
    hpruned.length_add horder.le_of_mem_failures]
  rfl

/-- A failure, a success of another candidate, and a second failure just within the window
of the first. -/
theorem snd_recordFailure_iff_standard :
    (standard.recordFailure (standard.run [.recordFailure (Text.ofString "home") 0,
      .clear (Text.ofString "office")]) (Text.ofString " home ") standard.window).2 = true := by
  refine (snd_recordFailure_iff standard [.recordFailure (Text.ofString "home") 0,
    .clear (Text.ofString "office")] (Text.ofString " home ") standard.window
    (by decide +kernel) ?_).mpr (by decide +kernel)
  unfold InOrder
  decide +kernel

end RollbackWindow
