import Trojan.Client.ReportingController

/-!
# What a step does, and what it says

What the controller does is not changed by what it says: `refines` makes a run of the
controller that reports a run of the one that does not.

Of what is said only a little is of interest later: which connect was accepted last, the
evidence there is, the failures and the metrics. `Change` lists the few ways in which a
step can change that. All steps but two are *calm*: no session begins, and no
connect goes on to its mini smoke. The two are the acceptance of a connect, and the
watcher.
-/

/-- The phases of a session that has not been told to stop. -/
def ClientConnectionPhase.live : ClientConnectionPhase → Bool
  | .connecting | .connected => true
  | .disconnected | .disconnecting | .error => false

namespace AdapterBackedClientController

variable {platform : RuntimePlatform} {c : AdapterBackedClientController}

theorem restarted_phase (adapter : RealShellControllerAdapter) (stored : Option Json) :
    (restarted adapter stored).status.phase = .disconnected := by
  unfold restarted restoreRoutingSafetyState
  split
  · rfl
  · rfl

/-- The profile of a connect that has been accepted, and has not yet come to its end, be
it good or bad. -/
def candidate (c : AdapterBackedClientController) : Option Text :=
  match c.operation with
  | some (.smoking profile _) => some profile.id
  | some (.storingSuccess profileId _ _) => some profileId
  | _ => none

/-- No session begins, and no connect is accepted. -/
structure Calm (c t : AdapterBackedClientController) : Prop where
  candidate : ∀ profileId, t.candidate = some profileId →
    c.candidate = some profileId ∧ t.status = c.status
  session : t.status.phase.live = true → t.status.phase = c.status.phase ∧
    t.status.activeProfileId = c.status.activeProfileId

theorem calm_of_eq {t : AdapterBackedClientController} (hop : t.operation = c.operation)
    (hstatus : t.status = c.status) : c.Calm t := by
  refine ⟨fun profileId h => ⟨?_, hstatus⟩, fun _ => hstatus ▸ ⟨rfl, rfl⟩⟩
  rw [candidate, ← hop]
  exact h

/-- A step after which there is no candidate. -/
theorem calm_of_status {t : AdapterBackedClientController} (hop : t.candidate = none)
    (hstatus : t.status = c.status) : c.Calm t :=
  ⟨fun _ h => absurd (hop.symm.trans h) (Option.some_ne_none _).symm,
    fun _ => hstatus ▸ ⟨rfl, rfl⟩⟩

/-- A step that ends a session, if there is one. -/
theorem calm_of_not_live {t : AdapterBackedClientController} (hop : t.candidate = none)
    (hstatus : t.status.phase.live = false) : c.Calm t :=
  ⟨fun _ h => absurd (hop.symm.trans h) (Option.some_ne_none _).symm,
    fun h => absurd (hstatus.symm.trans h) Bool.false_ne_true⟩

theorem calm_connect (profile : ClientProfile) : c.Calm (c.connect profile) := by
  unfold connect
  split
  · exact calm_of_eq rfl rfl
  · split
    · exact calm_of_not_live rfl rfl
    · exact calm_of_status rfl rfl

theorem calm_disconnect : c.Calm c.disconnect := by
  unfold disconnect
  split
  · exact calm_of_eq rfl rfl
  · exact calm_of_not_live rfl rfl

theorem calm_continuePassword (profile : ClientProfile) (password : Option (Option Text)) :
    c.Calm (c.continuePassword platform profile password) := by
  unfold continuePassword
  split
  · exact calm_of_status rfl rfl
  · split
    · exact calm_of_not_live rfl rfl
    · unfold executeConnect
      split
      · exact calm_of_status rfl rfl
      · exact calm_of_status rfl rfl
      · exact calm_of_status rfl rfl

theorem calm_disconnectAnswered (activeProfileId : Option Text)
    (result : ControllerCommandResult) :
    c.Calm (c.disconnectAnswered activeProfileId result) := by
  refine calm_of_not_live rfl ?_
  unfold disconnectAnswered
  dsimp only
  split
  · rfl
  · split
    · rfl
    · rfl

/-- A mini smoke that passes leaves its profile the candidate it was. -/
theorem calm_continueSmoke {profile : ClientProfile} {launch : ℕ}
    (hop : c.operation = some (.smoking profile launch))
    (result : Option RoutingMiniSmokeResult) :
    c.Calm (c.continueSmoke platform profile launch result) := by
  unfold continueSmoke
  split
  · exact calm_of_status rfl rfl
  · split
    · refine ⟨fun profileId h => ⟨?_, rfl⟩, fun _ => ⟨rfl, rfl⟩⟩
      rw [candidate, hop]
      exact h
    · rw [smokeFailed, rollbackToLastKnownGood_eq]
      exact calm_of_status rfl rfl

theorem calm_continueStored (payload : Json) (answer : Answer) (succeeded : Bool) :
    c.Calm (c.continueStored payload answer succeeded) := by
  cases succeeded with
  | true => exact calm_of_status rfl rfl
  | false => exact calm_of_status rfl rfl

end AdapterBackedClientController

namespace ReportingController

variable {platform : ReportPlatform} {s t : ReportingController}

/-! ## What is done

The controller does what it does without a word. -/

@[simp] theorem connect_controller (profile : ClientProfile) :
    (s.connect platform profile).controller = s.controller.connect profile := by
  unfold connect
  split
  · rfl
  · split
    · rfl
    · rfl

@[simp] theorem disconnect_controller :
    (s.disconnect platform).controller = s.controller.disconnect := by
  unfold disconnect
  split
  · rfl
  · rfl

@[simp] theorem executeConnect_controller (profile : ClientProfile) (password : Text) :
    (s.executeConnect platform profile password).controller
      = s.controller.executeConnect platform.toRuntimePlatform profile password := by
  unfold executeConnect
  dsimp only
  split
  · rfl
  · rfl
  · split
    · rfl
    · rfl

@[simp] theorem continuePassword_controller (profile : ClientProfile)
    (password : Option (Option Text)) :
    (s.continuePassword platform profile password).controller
      = s.controller.continuePassword platform.toRuntimePlatform profile password := by
  cases password with
  | none => rfl
  | some password =>
    simp only [continuePassword, AdapterBackedClientController.continuePassword]
    split
    · rfl
    · exact executeConnect_controller profile _

@[simp] theorem continueSmoke_controller (profile : ClientProfile) (launch : ℕ)
    (smoke : Option RoutingMiniSmoke) :
    (s.continueSmoke platform profile launch smoke).controller
      = s.controller.continueSmoke platform.toRuntimePlatform profile launch
        (smoke.map RoutingMiniSmoke.verdict) := by
  cases smoke with
  | none => rfl
  | some smoke =>
    simp only [continueSmoke, AdapterBackedClientController.continueSmoke, Option.map_some]
    split
    · rfl
    · rfl

@[simp] theorem rolledBack_controller (profile : ClientProfile) (launch : ℕ)
    (quarantined : Bool) (reason : Text) :
    (s.rolledBack platform profile launch quarantined reason).controller
      = s.controller.rolledBack profile launch quarantined reason :=
  rfl

@[simp] theorem continueStored_controller (operation : Operation) (payload : Json)
    (answer : Answer) (succeeded : Bool) :
    (s.continueStored platform operation payload answer succeeded).controller
      = s.controller.continueStored payload answer succeeded := by
  unfold continueStored
  dsimp only
  split
  · cases operation <;> rfl
  · rfl

@[simp] theorem disconnectAnswered_controller (activeProfileId : Option Text)
    (result : ControllerCommandResult) :
    (s.disconnectAnswered platform activeProfileId result).controller
      = s.controller.disconnectAnswered activeProfileId result := by
  unfold disconnectAnswered
  dsimp only
  split
  · rfl
  · split
    · rfl
    · rfl

theorem progress_controller (title : String) (message : Text) (phase : ClientConnectionPhase) :
    (s.progress platform title message phase).controller = s.controller := by
  unfold progress
  split
  · rfl
  · rfl

theorem watchRunning_controller (next : ReportingController) :
    (s.watchRunning platform next).controller = next.controller := by
  unfold watchRunning
  split
  · split
    · rfl
    · exact progress_controller _ _ _
  · exact progress_controller _ _ _
  · rfl
  · rfl
  · rfl

theorem watchEnded_controller (next : ReportingController) :
    (s.watchEnded platform next).controller = next.controller := by
  unfold watchEnded
  split
  · rfl
  · split <;> rfl
  · split <;> rfl
  · rfl
  · rfl

theorem reconcile_controller :
    (s.reconcileStatusWithSession platform).controller = s.controller.watch := by
  unfold reconcileStatusWithSession
  dsimp only
  split
  · exact watchRunning_controller _
  · exact watchEnded_controller _

@[simp] theorem watch_controller : (s.watch platform).controller = s.controller.watch := by
  unfold watch
  split
  · simp [AdapterBackedClientController.watch, *]
  · exact reconcile_controller

theorem completeLaunch_controller (i : ℕ) :
    (s.completeLaunch platform i).controller = s.controller := by
  unfold completeLaunch
  split
  · rfl
  · rfl
  · rfl

theorem continueAnswered_controller (operation : Operation) :
    (s.continueAnswered platform operation).map ReportingController.controller
      = s.controller.continueAnswered platform.toRuntimePlatform operation := by
  cases operation with
  | launching profile launch =>
    simp only [continueAnswered, AdapterBackedClientController.continueAnswered]
    cases s.controller.adapter.launches[launch]? with
    | none => rfl
    | some l =>
      simp only [Option.bind_some]
      cases l.stage <;> rfl
  | rollingBack profile launch quarantined reason fallback =>
    simp only [continueAnswered, AdapterBackedClientController.continueAnswered]
    split
    · rfl
    · rfl
  | disconnectAnswered activeProfileId result =>
    exact congrArg some (disconnectAnswered_controller activeProfileId result)
  | refused | storingQuarantine | readingPassword | smoking | storingRollback | storingSuccess
  | disconnecting | finishing => rfl

theorem runtimeStep_controller {event : RuntimeEvent}
    (h : s.runtimeStep platform event = some t) :
    ∃ adapter, s.controller.adapter.runtimeStep platform.toRuntimePlatform event = some adapter ∧
      t.controller = { s.controller with adapter := adapter } := by
  obtain ⟨adapter, hadapter, rfl⟩ := Option.map_eq_some_iff.mp h
  refine ⟨adapter, hadapter, ?_⟩
  cases event with
  | launchContinued i error => exact completeLaunch_controller i
  | exitHandled i =>
    dsimp only
    split
    · rfl
    · rfl
  | clock | logged | processExited | cleanupContinued | probeCompleted | promotionWoke => rfl

/-- What is logged changes the time of the last update, if anything. -/
theorem log_controller (toStderr : Bool) (chunk : Text) :
    (s.log toStderr chunk).controller = s.controller ∨
      (s.log toStderr chunk).controller
        = { s.controller with adapter := s.controller.adapter.markSessionUpdated } := by
  unfold log
  dsimp only
  generalize (Journal.appendLogLines _ chunk).2 = changed
  cases changed with
  | true => exact .inr rfl
  | false => exact .inl rfl

theorem runtimeStep_of_controllerStep {event : RuntimeEvent}
    (h : s.controllerStep platform (.runtime event) = some t) :
    s.runtimeStep platform event = some t := by
  cases event with
  | logged => cases h
  | clock | launchContinued | processExited | exitHandled | cleanupContinued | probeCompleted
  | promotionWoke => exact h

/-- A step of the controller is a step of the one that does not report. -/
theorem controllerStep_controller {event : ControllerEvent}
    (h : s.controllerStep platform event = some t) :
    s.controller.step platform.toRuntimePlatform event = some t.controller := by
  cases event with
  | connect profile =>
    obtain rfl := Option.some.inj h
    exact congrArg some (connect_controller profile).symm
  | disconnect =>
    obtain rfl := Option.some.inj h
    exact congrArg some disconnect_controller.symm
  | passwordRead password =>
    simp only [controllerStep] at h
    split at h
    · rename_i profile hop
      obtain rfl := Option.some.inj h
      simp [AdapterBackedClientController.step, hop]
    · cases h
  | adapterAnswered =>
    obtain ⟨operation, hop, h⟩ := Option.bind_eq_some_iff.mp h
    rw [AdapterBackedClientController.step, hop, Option.bind_some,
      ← continueAnswered_controller, h]
    rfl
  | smokeCompleted result => cases h
  | stateStored succeeded =>
    obtain ⟨operation, hop, h⟩ := Option.bind_eq_some_iff.mp h
    obtain ⟨written, hwritten, rfl⟩ := Option.map_eq_some_iff.mp h
    simp [AdapterBackedClientController.step, hop, hwritten]
  | disconnectRequested killed =>
    simp only [controllerStep] at h
    split at h
    · rename_i activeProfileId hop
      obtain rfl := Option.some.inj h
      simp [AdapterBackedClientController.step, hop, executeDisconnect]
    · cases h
  | finished =>
    simp only [controllerStep] at h
    split at h
    · rename_i answer hop
      split at h
      · cases h
      · obtain rfl := Option.some.inj h
        simp only [AdapterBackedClientController.step, hop]
        rfl
    · cases h
  | watcherTick =>
    simp only [controllerStep] at h
    split at h
    · cases h
    · obtain rfl := Option.some.inj h
      exact congrArg some watch_controller.symm
  | runtime event =>
    obtain ⟨adapter, hadapter, ht⟩ := runtimeStep_controller (runtimeStep_of_controllerStep h)
    rw [AdapterBackedClientController.step, hadapter, ht]
    rfl

/-- **Reporting changes nothing.** In a step the controller does nothing, or what the
controller that does not report does in one step. -/
theorem refines_step {e : ReportingEvent} (h : s.step platform e = some t) :
    t.controller = s.controller ∨
      ∃ event, s.controller.step platform.toRuntimePlatform event = some t.controller := by
  cases e with
  | controller event => exact .inr ⟨event, controllerStep_controller h⟩
  | logged toStderr chunk =>
    obtain rfl := Option.some.inj h
    rcases log_controller (s := s) toStderr chunk with heq | heq
    · exact .inl heq
    · exact .inr ⟨.runtime .logged, congrArg some heq.symm⟩
  | smokeCompleted smoke =>
    simp only [step] at h
    split at h
    · rename_i profile launch hop
      obtain rfl := Option.some.inj h
      refine .inr ⟨.smokeCompleted (smoke.map RoutingMiniSmoke.verdict), ?_⟩
      simp [AdapterBackedClientController.step, hop]
    · cases h
  | recordStored =>
    simp only [step] at h
    split at h
    · split at h
      · obtain rfl := Option.some.inj h
        exact .inl rfl
      · cases h
    · cases h
  | notified =>
    simp only [step] at h
    split at h
    · cases h
    · obtain rfl := Option.some.inj h
      exact .inl rfl
  | dispose =>
    obtain rfl := Option.some.inj h
    exact .inl rfl

/-- **A run of the controller that reports is a run of the one that does not.** -/
theorem refines {es : List ReportingEvent} (h : Machine.run (step platform) s es = some t) :
    ∃ events, Machine.run (AdapterBackedClientController.step platform.toRuntimePlatform)
      s.controller events = some t.controller := by
  induction es generalizing s with
  | nil => exact ⟨[], congrArg (Option.map ReportingController.controller) h⟩
  | cons e es ih =>
    obtain ⟨u, hu, hrest⟩ := Machine.run_cons.mp h
    obtain ⟨events, hevents⟩ := ih hrest
    rcases refines_step hu with heq | ⟨event, hevent⟩
    · exact ⟨events, heq ▸ hevents⟩
    · exact ⟨event :: events, Machine.run_cons.mpr ⟨_, hevent, hevents⟩⟩

/-! ## What is kept of it -/

/-- How many connects have been accepted. -/
def acceptedCount (s : ReportingController) : ℕ :=
  (s.accepted.map AcceptedConnect.number).getD 0

/-- What is accepted, and the evidence there is, stay as they are. -/
structure Keeps (s t : ReportingController) : Prop where
  disposed : t.disposed = s.disposed
  evidence : t.latestRoutingProbeEvidence = s.latestRoutingProbeEvidence
  accepted : t.accepted = s.accepted
  probed : t.probed = s.probed

/-- Besides, no failure is recorded, and no metrics are taken. -/
structure Says (s t : ReportingController) : Prop extends s.Keeps t where
  failures : t.failures = s.failures
  uxEvents : t.uxEvents = s.uxEvents

/-- **How a step changes what is kept.** -/
inductive Change (platform : ReportPlatform) (s : ReportingController) :
    ReportingEvent → ReportingController → Prop
  | said {e : ReportingEvent} {t : ReportingController} (quiet : s.Says t)
      (calm : s.controller.Calm t.controller) : Change platform s e t
  /-- An operation records a failure, and comes to its end. -/
  | recorded {e : ReportingEvent} {t : ReportingController} (failure : LastRuntimeFailureSummary)
      (keeps : s.Keeps t) (failures : t.failures = ⟨failure, s.accepted⟩ :: s.failures)
      (uxEvents : t.uxEvents = s.uxEvents) (calm : s.controller.Calm t.controller)
      (candidate : t.controller.candidate = none) : Change platform s e t
  | notified {e : ReportingEvent} {t : ReportingController} (keeps : s.Keeps t)
      (failures : t.failures = s.failures)
      (uxEvents : t.uxEvents = (s.notifyIfActive platform).uxEvents)
      (calm : s.controller.Calm t.controller)
      (status : t.controller.status = s.controller.status) : Change platform s e t
  | accepted (profile : ClientProfile) (launch : ℕ) (result : CommandReport)
      (operation : s.controller.operation = some (.launching profile launch))
      (started : s.controller.adapter.launches[launch]?.map Launch.stage = some .started) :
      Change platform s (.controller .adapterAnswered)
        (s.acceptConnect platform profile launch result)
  | smoked (profile : ClientProfile) (launch : ℕ) (smoke : Option RoutingMiniSmoke)
      (operation : s.controller.operation = some (.smoking profile launch)) :
      Change platform s (.smokeCompleted smoke) (s.continueSmoke platform profile launch smoke)
  | watched (active : s.disposed = false) :
      Change platform s (.controller .watcherTick) (s.watch platform)
  | disposed : Change platform s .dispose { s with disposed := true }

theorem says_connect (profile : ClientProfile) : s.Says (s.connect platform profile) := by
  unfold connect
  split
  · exact ⟨⟨rfl, rfl, rfl, rfl⟩, rfl, rfl⟩
  · split
    · exact ⟨⟨rfl, rfl, rfl, rfl⟩, rfl, rfl⟩
    · exact ⟨⟨rfl, rfl, rfl, rfl⟩, rfl, rfl⟩

theorem says_disconnect : s.Says (s.disconnect platform) := by
  unfold disconnect
  split
  · exact ⟨⟨rfl, rfl, rfl, rfl⟩, rfl, rfl⟩
  · exact ⟨⟨rfl, rfl, rfl, rfl⟩, rfl, rfl⟩

theorem says_executeConnect (profile : ClientProfile) (password : Text) :
    s.Says (s.executeConnect platform profile password) := by
  unfold executeConnect
  dsimp only
  split
  · exact ⟨⟨rfl, rfl, rfl, rfl⟩, rfl, rfl⟩
  · exact ⟨⟨rfl, rfl, rfl, rfl⟩, rfl, rfl⟩
  · split
    · exact ⟨⟨rfl, rfl, rfl, rfl⟩, rfl, rfl⟩
    · exact ⟨⟨rfl, rfl, rfl, rfl⟩, rfl, rfl⟩

theorem says_continuePassword (profile : ClientProfile) (password : Option (Option Text)) :
    s.Says (s.continuePassword platform profile password) := by
  cases password with
  | none => exact ⟨⟨rfl, rfl, rfl, rfl⟩, rfl, rfl⟩
  | some password =>
    simp only [continuePassword]
    split
    · exact ⟨⟨rfl, rfl, rfl, rfl⟩, rfl, rfl⟩
    · exact says_executeConnect profile _

theorem says_rollbackAttempted (reason : Text) : s.Says (s.rollbackAttempted reason) := by
  unfold rollbackAttempted
  split
  · exact ⟨⟨rfl, rfl, rfl, rfl⟩, rfl, rfl⟩
  · exact ⟨⟨rfl, rfl, rfl, rfl⟩, rfl, rfl⟩

theorem says_rolledBack (profile : ClientProfile) (launch : ℕ) (quarantined : Bool)
    (reason : Text) : s.Says (s.rolledBack platform profile launch quarantined reason) := by
  obtain ⟨⟨h₁, h₂, h₃, h₄⟩, h₅, h₆⟩ := s.says_rollbackAttempted reason
  exact ⟨⟨h₁, h₂, h₃, h₄⟩, h₅, h₆⟩

/-- The mini smoke may leave its evidence. -/
theorem keeps_continueSmoke (profile : ClientProfile) (launch : ℕ)
    (smoke : Option RoutingMiniSmoke) :
    (s.continueSmoke platform profile launch smoke).disposed = s.disposed ∧
      (s.continueSmoke platform profile launch smoke).accepted = s.accepted ∧
      (s.continueSmoke platform profile launch smoke).failures = s.failures ∧
      (s.continueSmoke platform profile launch smoke).uxEvents = s.uxEvents := by
  cases smoke with
  | none => exact ⟨rfl, rfl, rfl, rfl⟩
  | some smoke =>
    simp only [continueSmoke]
    split
    · exact ⟨rfl, rfl, rfl, rfl⟩
    · simp only [smokeFailed, attemptRollback]
      split
      · exact ⟨rfl, rfl, rfl, rfl⟩
      · split
        · exact ⟨rfl, rfl, rfl, rfl⟩
        · exact ⟨rfl, rfl, rfl, rfl⟩

theorem says_runtimeStep {event : RuntimeEvent} (h : s.runtimeStep platform event = some t) :
    s.Says t := by
  obtain ⟨adapter, -, rfl⟩ := Option.map_eq_some_iff.mp h
  cases event with
  | launchContinued i error =>
    simp only [completeLaunch]
    split
    · exact ⟨⟨rfl, rfl, rfl, rfl⟩, rfl, rfl⟩
    · exact ⟨⟨rfl, rfl, rfl, rfl⟩, rfl, rfl⟩
    · exact ⟨⟨rfl, rfl, rfl, rfl⟩, rfl, rfl⟩
  | exitHandled i =>
    dsimp only
    split
    · exact ⟨⟨rfl, rfl, rfl, rfl⟩, rfl, rfl⟩
    · exact ⟨⟨rfl, rfl, rfl, rfl⟩, rfl, rfl⟩
  | clock | logged | processExited | cleanupContinued | probeCompleted | promotionWoke =>
    exact ⟨⟨rfl, rfl, rfl, rfl⟩, rfl, rfl⟩

/-! ### The watcher -/

theorem says_progress (title : String) (message : Text) (phase : ClientConnectionPhase) :
    s.Says (s.progress platform title message phase) := by
  unfold progress
  split
  · exact ⟨⟨rfl, rfl, rfl, rfl⟩, rfl, rfl⟩
  · exact ⟨⟨rfl, rfl, rfl, rfl⟩, rfl, rfl⟩

theorem says_watchRunning (next : ReportingController) :
    next.Says (s.watchRunning platform next) := by
  unfold watchRunning
  split
  · split
    · exact ⟨⟨rfl, rfl, rfl, rfl⟩, rfl, rfl⟩
    · exact says_progress _ _ _
  · exact says_progress _ _ _
  · exact ⟨⟨rfl, rfl, rfl, rfl⟩, rfl, rfl⟩
  · exact ⟨⟨rfl, rfl, rfl, rfl⟩, rfl, rfl⟩
  · exact ⟨⟨rfl, rfl, rfl, rfl⟩, rfl, rfl⟩

/-- Something has happened to the session since the watcher has looked. -/
def updated (s : ReportingController) : Bool :=
  decide (s.controller.lastSessionUpdatedAt ≠ s.controller.adapter.sessionUpdatedAt)

theorem watch_of_updated (h : s.updated = true) :
    s.watch platform = (s.reconcileStatusWithSession platform).notifyIfActive platform :=
  if_neg (of_decide_eq_true h)

theorem watch_of_not_updated (h : s.updated = false) : s.watch platform = s :=
  if_pos (Decidable.not_not.mp (of_decide_eq_false h))

/-- The watcher, if it looks now, finds that a session has failed. -/
def findsFailure (s : ReportingController) : Bool :=
  !s.controller.adapter.isRunning && s.controller.status.phase.live &&
    (s.sessionError.isSome || s.abnormalExitCode.isSome)

/-- The watcher records a failure if it finds one. -/
theorem keeps_reconcile : s.Keeps (s.reconcileStatusWithSession platform) ∧
    (s.reconcileStatusWithSession platform).uxEvents = s.uxEvents ∧
    if s.findsFailure then
      ∃ failure, (s.reconcileStatusWithSession platform).failures
        = ⟨failure, s.accepted⟩ :: s.failures
    else (s.reconcileStatusWithSession platform).failures = s.failures := by
  unfold reconcileStatusWithSession findsFailure
  dsimp only
  by_cases hrunning : s.controller.adapter.isRunning = true
  · have hreports := @says_watchRunning platform s { s with controller := s.controller.watch }
    rw [if_pos hrunning, hrunning]
    exact ⟨⟨hreports.disposed, hreports.evidence, hreports.accepted, hreports.probed⟩,
      hreports.uxEvents, hreports.failures⟩
  · rw [if_neg hrunning, Bool.eq_false_iff.mpr hrunning]
    unfold watchEnded
    cases hphase : s.controller.status.phase with
    | disconnected | disconnecting | error => exact ⟨⟨rfl, rfl, rfl, rfl⟩, rfl, rfl⟩
    | connected | connecting =>
      cases herror : s.sessionError with
      | some lastError => exact ⟨⟨rfl, rfl, rfl, rfl⟩, rfl, _, rfl⟩
      | none =>
        cases hcode : s.abnormalExitCode with
        | some code => exact ⟨⟨rfl, rfl, rfl, rfl⟩, rfl, _, rfl⟩
        | none => exact ⟨⟨rfl, rfl, rfl, rfl⟩, rfl, rfl⟩

/-! ### All steps -/

theorem change_refuseConnect {e : ReportingEvent} (profile : ClientProfile)
    (error : ControllerError) (result : CommandReport) :
    Change platform s e (s.refuseConnect platform profile error result) :=
  .recorded _ ⟨rfl, rfl, rfl, rfl⟩ rfl rfl
    (AdapterBackedClientController.calm_of_not_live rfl rfl) rfl

theorem change_disconnectAnswered {e : ReportingEvent} (activeProfileId : Option Text)
    (result : ControllerCommandResult) :
    Change platform s e (s.disconnectAnswered platform activeProfileId result) := by
  have hcalm := AdapterBackedClientController.calm_disconnectAnswered (c := s.controller)
    activeProfileId result
  unfold disconnectAnswered
  dsimp only
  split
  · exact .recorded _ ⟨rfl, rfl, rfl, rfl⟩ rfl rfl hcalm rfl
  · split
    · exact .said ⟨⟨rfl, rfl, rfl, rfl⟩, rfl, rfl⟩ hcalm
    · exact .said ⟨⟨rfl, rfl, rfl, rfl⟩, rfl, rfl⟩ hcalm

theorem change_adapterAnswered {operation : Operation}
    (hop : s.controller.operation = some operation)
    (h : s.continueAnswered platform operation = some t) :
    Change platform s (.controller .adapterAnswered) t := by
  cases operation with
  | launching profile launch =>
    obtain ⟨l, hl, h⟩ := Option.bind_eq_some_iff.mp h
    split at h
    · obtain rfl := Option.some.inj h
      exact .accepted profile launch _ hop (by rw [hl]; exact congrArg some ‹_›)
    · obtain rfl := Option.some.inj h
      exact change_refuseConnect profile _ _
    · cases h
  | refused profile error =>
    obtain rfl := Option.some.inj h
    exact change_refuseConnect profile error _
  | rollingBack profile launch quarantined reason fallback =>
    obtain ⟨-, h⟩ := Option.ite_none_right_eq_some.mp h
    obtain rfl := Option.some.inj h
    exact .said (says_rolledBack profile launch quarantined reason)
      (AdapterBackedClientController.calm_of_not_live rfl rfl)
  | disconnectAnswered activeProfileId result =>
    obtain rfl := Option.some.inj h
    exact change_disconnectAnswered activeProfileId result
  | storingQuarantine | readingPassword | smoking | storingRollback | storingSuccess
  | disconnecting | finishing => cases h

theorem change_continueStored {e : ReportingEvent} {operation : Operation} {payload : Json}
    {answer : Answer} (hstoring : AdapterBackedClientController.storing operation =
      some (payload, answer)) (succeeded : Bool) :
    Change platform s e (s.continueStored platform operation payload answer succeeded) := by
  have hcalm := AdapterBackedClientController.calm_continueStored (c := s.controller) payload
    answer succeeded
  cases succeeded with
  | false => exact .said ⟨⟨rfl, rfl, rfl, rfl⟩, rfl, rfl⟩ hcalm
  | true =>
    cases operation with
    | storingQuarantine | storingSuccess => exact .said ⟨⟨rfl, rfl, rfl, rfl⟩, rfl, rfl⟩ hcalm
    | storingRollback => exact .recorded _ ⟨rfl, rfl, rfl, rfl⟩ rfl rfl hcalm rfl
    | readingPassword | launching | refused | smoking | rollingBack | disconnecting
    | disconnectAnswered | finishing => cases hstoring

theorem change_controllerStep {event : ControllerEvent}
    (h : s.controllerStep platform event = some t) :
    Change platform s (.controller event) t := by
  cases event with
  | connect profile =>
    obtain rfl := Option.some.inj h
    exact .said (says_connect profile)
      (connect_controller profile ▸ AdapterBackedClientController.calm_connect profile)
  | disconnect =>
    obtain rfl := Option.some.inj h
    exact .said says_disconnect
      (disconnect_controller ▸ AdapterBackedClientController.calm_disconnect)
  | passwordRead password =>
    simp only [controllerStep] at h
    split at h
    · obtain rfl := Option.some.inj h
      exact .said (says_continuePassword _ password)
        (continuePassword_controller _ password ▸
          AdapterBackedClientController.calm_continuePassword _ password)
    · cases h
  | adapterAnswered =>
    obtain ⟨operation, hop, h⟩ := Option.bind_eq_some_iff.mp h
    exact change_adapterAnswered hop h
  | smokeCompleted result => cases h
  | stateStored succeeded =>
    obtain ⟨operation, -, h⟩ := Option.bind_eq_some_iff.mp h
    obtain ⟨written, hwritten, rfl⟩ := Option.map_eq_some_iff.mp h
    exact change_continueStored hwritten succeeded
  | disconnectRequested killed =>
    simp only [controllerStep] at h
    split at h
    · obtain rfl := Option.some.inj h
      exact .notified ⟨rfl, rfl, rfl, rfl⟩ rfl rfl
        (AdapterBackedClientController.calm_of_status rfl rfl) rfl
    · cases h
  | finished =>
    simp only [controllerStep] at h
    split at h
    · split at h
      · cases h
      · obtain rfl := Option.some.inj h
        exact .notified ⟨rfl, rfl, rfl, rfl⟩ rfl rfl
          (AdapterBackedClientController.calm_of_status rfl rfl) rfl
    · cases h
  | watcherTick =>
    simp only [controllerStep] at h
    split at h
    · cases h
    · obtain rfl := Option.some.inj h
      exact .watched (Bool.eq_false_iff.mpr ‹_›)
  | runtime event =>
    have hstep := runtimeStep_of_controllerStep h
    obtain ⟨adapter, -, ht⟩ := runtimeStep_controller hstep
    exact .said (says_runtimeStep hstep)
      (ht ▸ AdapterBackedClientController.calm_of_eq rfl rfl)

/-- Every step is one of these. -/
theorem change_step {e : ReportingEvent} (h : s.step platform e = some t) :
    Change platform s e t := by
  cases e with
  | controller event => exact change_controllerStep h
  | logged toStderr chunk =>
    obtain rfl := Option.some.inj h
    refine .said ⟨⟨rfl, rfl, rfl, rfl⟩, rfl, rfl⟩ ?_
    rcases log_controller (s := s) toStderr chunk with heq | heq
    · exact heq ▸ AdapterBackedClientController.calm_of_eq rfl rfl
    · exact heq ▸ AdapterBackedClientController.calm_of_eq rfl rfl
  | smokeCompleted smoke =>
    simp only [step] at h
    split at h
    · obtain rfl := Option.some.inj h
      exact .smoked _ _ smoke ‹_›
    · cases h
  | recordStored =>
    simp only [step] at h
    split at h
    · split at h
      · obtain rfl := Option.some.inj h
        exact .said ⟨⟨rfl, rfl, rfl, rfl⟩, rfl, rfl⟩
          (AdapterBackedClientController.calm_of_eq rfl rfl)
      · cases h
    · cases h
  | notified =>
    simp only [step] at h
    split at h
    · cases h
    · obtain rfl := Option.some.inj h
      exact .notified ⟨rfl, rfl, rfl, rfl⟩ rfl rfl
        (AdapterBackedClientController.calm_of_eq rfl rfl) rfl
  | dispose =>
    obtain rfl := Option.some.inj h
    exact .disposed

end ReportingController
