import Trojan.Client.RealShellControllerAdapter

/-!
# When a session is ready

A session is *ready* when its process is there and listens on the local port. The
task that probes the port looks whether its process is still the running one before
each probe, and not after it. A probe takes a while: by the time it succeeds the
process may have exited, another connect may have begun, and another process may
be running. The session is said to be ready all the same.

`sessionReady_iff` says when this does not happen: the phase is right all along
the run exactly when no probe succeeds without its process, or one that has been
probed before, being attached.
-/

namespace RealShellControllerAdapter

/-- A probe of the port for a process has succeeded. -/
def isProbed (a : RealShellControllerAdapter) (p : ℕ) : Bool :=
  a.launches[p]?.any Launch.probed

/-- In the phase of a ready session a process is attached, and a probe for it has
succeeded. -/
def ReadyIsProbed (a : RealShellControllerAdapter) : Prop :=
  a.runtimePhase = .sessionReady → ∃ p, a.runningProcess = some p ∧ a.isProbed p = true

/-- When a probe succeeds, a process is attached: the one that the probe is for, or
one for which a probe has succeeded before. -/
def ProbesAttached (a : RealShellControllerAdapter) : AdapterEvent → Prop
  | .runtime (.probeCompleted q true) =>
    a.runningProcess.any (fun p => p == q || a.isProbed p) = true
  | _ => True

instance (a : RealShellControllerAdapter) : ∀ e, Decidable (a.ProbesAttached e)
  | .runtime (.probeCompleted _ true) => inferInstanceAs (Decidable (_ = true))
  | .runtime (.probeCompleted _ false) | .runtime (.clock _) | .runtime .logged
  | .runtime (.launchContinued _ _) | .runtime (.processExited _ _)
  | .runtime (.exitHandled _) | .runtime (.cleanupContinued _ _)
  | .runtime (.promotionWoke _) | .connect _ | .disconnect _ => .isTrue trivial

/-! ## Steps that have no part in it -/

/-- A step that leaves the session as ready as it was, or makes it less so. -/
def KeepsReady (a t : RealShellControllerAdapter) : Prop :=
  t.runtimePhase ≠ .sessionReady ∨
    (t.runtimePhase = a.runtimePhase ∧ t.runningProcess = a.runningProcess ∧
      ∀ p, a.isProbed p = true → t.isProbed p = true)

variable {a t : RealShellControllerAdapter} {i : ℕ} {l : Launch}

theorem KeepsReady.readyIsProbed (h : a.KeepsReady t) (ha : a.ReadyIsProbed) :
    t.ReadyIsProbed := by
  intro hready
  rcases h with hne | ⟨hphase, hrunning, hprobed⟩
  · exact absurd hready hne
  · obtain ⟨p, hp, hpp⟩ := ha (hphase ▸ hready)
    exact ⟨p, hrunning.trans hp, hprobed p hpp⟩

/-- A launch that keeps what is known of its probes. -/
theorem isProbed_setLaunch (h : a.launches[i]? = some l) {l' : Launch}
    (hl : l.probed = true → l'.probed = true) {p : ℕ} (hp : a.isProbed p = true) :
    (a.setLaunch i l').isProbed p = true := by
  unfold isProbed at hp ⊢
  rw [getElem?_setLaunch h]
  split
  · subst i
    rw [h] at hp
    exact hl hp
  · exact hp

theorem keepsReady_setLaunch (h : a.launches[i]? = some l) {l' : Launch}
    (hl : l'.probed = l.probed) : a.KeepsReady (a.setLaunch i l') :=
  .inr ⟨rfl, rfl, fun _ => isProbed_setLaunch h (fun hp => hl.trans hp)⟩

theorem keepsReady_continueLaunch {platform : RuntimePlatform} (h : a.launches[i]? = some l)
    {error : Option Text} (ht : a.continueLaunch platform i l error = some t) :
    a.KeepsReady t := by
  cases error with
  | none =>
    cases hstage : l.stage with
    | creatingDirectory | startingProcess | checkingConfig =>
      simp only [continueLaunch, hstage, Option.some.injEq] at ht
      subst ht
      exact keepsReady_setLaunch h rfl
    | openingConfig =>
      simp only [continueLaunch, hstage, Option.some.injEq] at ht
      subst ht
      exact keepsReady_setLaunch h rfl
    | writingConfig =>
      simp only [continueLaunch, hstage] at ht
      split at ht
      · obtain rfl := Option.some.inj ht
        exact .inl nofun
      · obtain rfl := Option.some.inj ht
        exact keepsReady_setLaunch h rfl
    | settingPermissions | attaching =>
      simp only [continueLaunch, hstage, Option.some.injEq] at ht
      subst ht
      exact .inl nofun
    | deletingConfig =>
      simp only [continueLaunch, hstage, Option.map_eq_some_iff] at ht
      obtain ⟨file, -, rfl⟩ := ht
      exact keepsReady_setLaunch h rfl
    | started | failed => simp [continueLaunch, hstage] at ht
  | some error =>
    cases hstage : l.stage with
    | creatingDirectory | openingConfig | writingConfig | settingPermissions | startingProcess =>
      simp only [continueLaunch, hstage, Option.some.injEq] at ht
      subst ht
      exact .inl nofun
    | checkingConfig | deletingConfig =>
      simp only [continueLaunch, hstage, Option.some.injEq] at ht
      subst ht
      exact keepsReady_setLaunch h rfl
    | attaching | started | failed => simp [continueLaunch, hstage] at ht

theorem handleExit_runtimePhase (code : ℤ) :
    (a.handleExit i l code).runtimePhase
      = if a.disconnectRequested || code = 0 then .stopped else .failed := by
  unfold handleExit
  split <;> rfl

theorem keepsReady_handleExit (code : ℤ) : a.KeepsReady (a.handleExit i l code) := by
  refine .inl ?_
  rw [handleExit_runtimePhase]
  split
  · exact ControllerRuntimePhase.noConfusion
  · exact ControllerRuntimePhase.noConfusion

theorem keepsReady_continueCleanup (h : a.launches[i]? = some l) {error : Option Text}
    (ht : a.continueCleanup i l error = some t) : a.KeepsReady t := by
  cases error with
  | none =>
    cases hcleanup : l.cleanup with
    | idle => simp [continueCleanup, hcleanup] at ht
    | checking path =>
      simp only [continueCleanup, hcleanup, Option.some.injEq] at ht
      subst ht
      exact keepsReady_setLaunch h rfl
    | deleting path =>
      simp only [continueCleanup, hcleanup, Option.map_eq_some_iff] at ht
      obtain ⟨file, -, rfl⟩ := ht
      exact keepsReady_setLaunch h rfl
  | some error =>
    cases hcleanup : l.cleanup with
    | idle => simp [continueCleanup, hcleanup] at ht
    | checking path | deleting path =>
      simp only [continueCleanup, hcleanup, Option.some.injEq] at ht
      subst ht
      exact keepsReady_setLaunch h rfl

theorem keepsReady_wakePromotion (h : a.launches[i]? = some l)
    (ht : a.wakePromotion i l = some t) : a.KeepsReady t := by
  cases hpromotion : l.promotion with
  | idle | probing => simp [wakePromotion, hpromotion] at ht
  | waiting deadline =>
    simp only [wakePromotion, hpromotion, Option.some.injEq] at ht
    subst ht
    exact keepsReady_setLaunch h rfl

theorem keepsReady_planConnect (platform : RuntimePlatform) (command : ControllerCommand) :
    a.KeepsReady (a.planConnect platform command).1 := by
  rcases planConnect_cases platform a command with ⟨error, heq⟩ | ⟨error, heq, -⟩ |
    ⟨input, -, -, heq⟩
  · exact heq ▸ .inr ⟨rfl, rfl, fun _ => id⟩
  · exact heq ▸ .inr ⟨rfl, rfl, fun _ => id⟩
  · exact heq ▸ .inl nofun

theorem keepsReady_disconnect (killed : Bool) : a.KeepsReady (a.disconnect killed).1 := by
  unfold disconnect
  split
  · exact .inr ⟨rfl, rfl, fun _ => id⟩
  · split <;> exact .inr ⟨rfl, rfl, fun _ => id⟩

/-! ## A probe succeeds -/

/-- After a probe for a process has succeeded, that process has been probed, and
those that had been. -/
theorem isProbed_completeProbe (h : a.launches[i]? = some l)
    (ht : a.completeProbe i l true = some t) (p : ℕ) :
    t.isProbed p = (p == i || a.isProbed p) := by
  cases hpromotion : l.promotion with
  | idle | waiting => simp [completeProbe, hpromotion] at ht
  | probing deadline =>
    simp only [completeProbe, hpromotion, if_true, Option.some.injEq] at ht
    subst ht
    show ((a.setLaunch i _).launches[p]?).any Launch.probed = _
    rw [getElem?_setLaunch h]
    by_cases hip : i = p
    · subst hip
      simp
    · rw [if_neg hip, beq_false_of_ne (Ne.symm hip), Bool.false_or, isProbed]

theorem completeProbe_true_eq (ht : a.completeProbe i l true = some t) :
    t.runtimePhase = .sessionReady ∧ t.runningProcess = a.runningProcess := by
  cases hpromotion : l.promotion with
  | idle | waiting => simp [completeProbe, hpromotion] at ht
  | probing deadline =>
    simp only [completeProbe, hpromotion, if_true, Option.some.injEq] at ht
    subst ht
    exact ⟨rfl, rfl⟩

theorem readyIsProbed_completeProbe (h : a.launches[i]? = some l)
    (ht : a.completeProbe i l true = some t) :
    t.ReadyIsProbed ↔ a.runningProcess.any (fun p => p == i || a.isProbed p) = true := by
  obtain ⟨hphase, hrunning⟩ := completeProbe_true_eq ht
  rw [ReadyIsProbed, hphase, hrunning, Option.any_eq_true]
  simp only [true_imp_iff, isProbed_completeProbe h ht]

theorem keepsReady_completeProbe_false (h : a.launches[i]? = some l)
    (ht : a.completeProbe i l false = some t) : a.KeepsReady t := by
  cases hpromotion : l.promotion with
  | idle | waiting => simp [completeProbe, hpromotion] at ht
  | probing deadline =>
    simp only [completeProbe, hpromotion, Bool.false_eq_true, if_false, Option.some.injEq] at ht
    subst ht
    exact keepsReady_setLaunch h rfl

/-! ## Along a run -/

/-- A step keeps the phase right exactly under the condition. -/
theorem readyIsProbed_step {platform : RuntimePlatform} {e : AdapterEvent}
    (ha : a.ReadyIsProbed) (ht : a.step platform e = some t) :
    t.ReadyIsProbed ↔ a.ProbesAttached e := by
  have hkeeps (hk : a.KeepsReady t) : t.ReadyIsProbed ↔ True := iff_true_intro (hk.readyIsProbed ha)
  cases e with
  | connect command => exact hkeeps (Option.some.inj ht ▸ keepsReady_planConnect platform command)
  | disconnect killed => exact hkeeps (Option.some.inj ht ▸ keepsReady_disconnect killed)
  | runtime event =>
    cases event with
    | clock now => exact hkeeps (Option.some.inj ht ▸ .inr ⟨rfl, rfl, fun _ => id⟩)
    | logged => exact hkeeps (Option.some.inj ht ▸ .inr ⟨rfl, rfl, fun _ => id⟩)
    | launchContinued i error =>
      obtain ⟨l, hl, ht⟩ := Option.bind_eq_some_iff.mp ht
      exact hkeeps (keepsReady_continueLaunch hl ht)
    | processExited i code =>
      obtain ⟨l, hl, ht⟩ := Option.bind_eq_some_iff.mp ht
      obtain ⟨-, ht⟩ := Option.ite_none_right_eq_some.mp ht
      obtain rfl := Option.some.inj ht
      exact hkeeps (keepsReady_setLaunch hl rfl)
    | exitHandled i =>
      obtain ⟨l, hl, ht⟩ := Option.bind_eq_some_iff.mp ht
      split at ht
      · exact hkeeps (Option.some.inj ht ▸ keepsReady_handleExit _)
      · cases ht
    | cleanupContinued i error =>
      obtain ⟨l, hl, ht⟩ := Option.bind_eq_some_iff.mp ht
      exact hkeeps (keepsReady_continueCleanup hl ht)
    | probeCompleted i isOpen =>
      obtain ⟨l, hl, ht⟩ := Option.bind_eq_some_iff.mp ht
      cases isOpen with
      | false => exact hkeeps (keepsReady_completeProbe_false hl ht)
      | true => exact readyIsProbed_completeProbe hl ht
    | promotionWoke i =>
      obtain ⟨l, hl, ht⟩ := Option.bind_eq_some_iff.mp ht
      exact hkeeps (keepsReady_wakePromotion hl ht)

/-- **When a ready session is ready.** In every state of a run, the phase of a ready
session means that a process is attached and a probe for it has succeeded, exactly
when every probe that succeeds does so while its process, or one that has been
probed before, is attached. -/
theorem sessionReady_iff (platform : RuntimePlatform) (now : ℤ) (contents : Text → Option Text)
    {es : List AdapterEvent} {u : RealShellControllerAdapter}
    (hrun : Machine.run (step platform) (initial now contents) es = some u) :
    (∀ t, Machine.Visits (step platform) (initial now contents) es t → t.ReadyIsProbed) ↔
      Machine.Along (step platform) ProbesAttached (initial now contents) es :=
  Machine.forall_visits_iff_along (I := fun _ => True) (fun _ _ _ _ _ _ _ => trivial)
    (fun _ _ _ _ hs ht => readyIsProbed_step hs ht) trivial nofun hrun

/-! ### Two probes -/

def sampleCommand : ControllerCommand where
  issuedAt := ⟨0, false⟩
  profileId := some (Text.ofString "p")
  profileName := some (Text.ofString "Home")
  serverHost := some (Text.ofString "a.b")
  serverPort := some 443
  localSocksPort := some 1080
  sni := some (Text.ofString "a.b")
  verifyTls := some true
  configPath := some (Text.ofString "/s/runtime/runtime-profile-p.json")
  routing := .obj (RoutingProfileCodec.encodeToJsonMap RuntimePlatform.sample.toRoutingPlatform
    .defaults)
  trojanPassword := some (Text.ofString "secret")

/-- The port is probed while the process is running. -/
def timelyProbe : List AdapterEvent :=
  .connect sampleCommand ::
    (launchEvents 0 ++ [RuntimeEvent.probeCompleted 0 true, .processExited 0 1]).map .runtime

theorem ready_after_timelyProbe :
    (Machine.run (step RuntimePlatform.sample) (initial 0 (fun _ => none)) timelyProbe).isSome
        = true ∧
      ∀ t, Machine.Visits (step RuntimePlatform.sample) (initial 0 (fun _ => none)) timelyProbe t →
        t.ReadyIsProbed := by
  have hsome : (Machine.run (step RuntimePlatform.sample) (initial 0 (fun _ => none))
      timelyProbe).isSome = true := by
    decide +kernel
  obtain ⟨u, hrun⟩ := Option.isSome_iff_exists.mp hsome
  exact ⟨hsome, (sessionReady_iff RuntimePlatform.sample 0 (fun _ => none) hrun).mpr
    (by decide +kernel)⟩

/-- The process exits while its port is being probed. -/
def lateProbe : List AdapterEvent :=
  .connect sampleCommand :: (launchEvents 0 ++
    [RuntimeEvent.processExited 0 1, .exitHandled 0, .probeCompleted 0 true]).map .runtime

/-- The session is said to be ready, and no process is attached. -/
theorem ready_without_process :
    ¬ ∀ (platform : RuntimePlatform) (now : ℤ) (contents : Text → Option Text)
      (es : List AdapterEvent) (t : RealShellControllerAdapter),
      Machine.run (step platform) (initial now contents) es = some t → t.ReadyIsProbed := by
  intro h
  have hend : (Machine.run (step RuntimePlatform.sample) (initial 0 (fun _ => none))
      lateProbe).any (fun t => decide (t.runtimePhase = .sessionReady ∧ t.runningProcess = none))
        = true := by
    decide +kernel
  obtain ⟨t, hrun, ht⟩ := (Option.any_eq_true _ _).mp hend
  obtain ⟨hphase, hnone⟩ := of_decide_eq_true ht
  obtain ⟨p, hp, -⟩ := h _ _ _ _ t hrun hphase
  exact nomatch hnone.symm.trans hp

end RealShellControllerAdapter
