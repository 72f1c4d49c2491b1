import Trojan.Client.RedactedController
import Trojan.Client.ReportingController

/-!
# Reports without the passwords

A controller that says what it does has all that it says from the calls, from the events
of the platform, and from what is left of the adapter when the contents of the files are
taken from it. `ReportingController.redacted_step` says so for one step: what there is
after it, but for these contents, depends only on what there was before, and of a password
that is read only on whether it is blank.
-/

namespace ReportingController

/-- The controller and what it has said, without the contents that its adapter knows. -/
@[simps]
def redacted (s : ReportingController) : ReportingController :=
  { s with controller := s.controller.redacted }

variable (platform : ReportPlatform) (s : ReportingController)

theorem redacted_redacted : s.redacted.redacted = s.redacted := by
  unfold redacted
  rw [AdapterBackedClientController.redacted_redacted]

theorem redacted_connect (profile : ClientProfile) :
    (s.connect platform profile).redacted = s.redacted.connect platform profile := by
  unfold connect
  simp only [redacted_controller, ← AdapterBackedClientController.redacted_connect,
    AdapterBackedClientController.redacted_operation,
    AdapterBackedClientController.redacted_quarantineRegistry]
  split
  · rfl
  · split
    · rfl
    · rfl

theorem redacted_disconnect : (s.disconnect platform).redacted = s.redacted.disconnect platform := by
  unfold disconnect
  simp only [redacted_controller, ← AdapterBackedClientController.redacted_disconnect,
    AdapterBackedClientController.redacted_operation]
  split
  · rfl
  · rfl

theorem redacted_smokeFailed (profile : ClientProfile) (launch : ℕ) (reason : Text) :
    (s.smokeFailed platform profile launch reason).redacted
      = s.redacted.smokeFailed platform profile launch reason := by
  unfold smokeFailed
  rw [redacted_controller, ← AdapterBackedClientController.redacted_smokeFailed]
  unfold attemptRollback
  simp only [recordEvent, redacted_controller,
    AdapterBackedClientController.redacted_lastKnownGoodProfileId]
  split
  · rfl
  · split
    · rfl
    · rfl

theorem redacted_continueSmoke (profile : ClientProfile) (launch : ℕ)
    (smoke : Option RoutingMiniSmoke) :
    (s.continueSmoke platform profile launch smoke).redacted
      = s.redacted.continueSmoke platform profile launch smoke := by
  cases smoke with
  | none => rfl
  | some smoke =>
    simp only [continueSmoke]
    split
    · rfl
    · rw [redacted_smokeFailed]
      rfl

theorem redacted_rolledBack (profile : ClientProfile) (launch : ℕ) (quarantined : Bool)
    (reason : Text) :
    (s.rolledBack platform profile launch quarantined reason).redacted
      = s.redacted.rolledBack platform profile launch quarantined reason := by
  unfold rolledBack rollbackAttempted
  simp only [redacted_journal]
  split
  · rfl
  · rfl

theorem redacted_continueStored (operation : Operation) (payload : Json) (answer : Answer)
    (succeeded : Bool) :
    (s.continueStored platform operation payload answer succeeded).redacted
      = s.redacted.continueStored platform operation payload answer succeeded := by
  unfold continueStored
  rw [redacted_controller, ← AdapterBackedClientController.redacted_continueStored]
  cases succeeded with
  | false => rfl
  | true =>
    cases operation with
    | _ => rfl

theorem redacted_executeDisconnect (activeProfileId : Option Text) (killed : Bool) :
    (s.executeDisconnect platform activeProfileId killed).redacted
      = s.redacted.executeDisconnect platform activeProfileId killed := by
  unfold executeDisconnect
  rw [redacted_controller, ← AdapterBackedClientController.redacted_executeDisconnect]
  rfl

theorem redacted_disconnectAnswered (activeProfileId : Option Text)
    (result : ControllerCommandResult) :
    (s.disconnectAnswered platform activeProfileId result).redacted
      = s.redacted.disconnectAnswered platform activeProfileId result := by
  unfold disconnectAnswered
  simp only [redacted_controller, AdapterBackedClientController.redacted_adapter,
    RealShellControllerAdapter.redacted_isRunning]
  split
  · rfl
  · split
    · rfl
    · rfl

theorem redacted_finish (answer : Answer) :
    (s.finish platform answer).redacted = s.redacted.finish platform answer := by
  unfold finish
  rw [redacted_controller, ← AdapterBackedClientController.redacted_returning]
  rfl

/-! ## The watcher -/

theorem redacted_progress (title : String) (message : Text) (phase : ClientConnectionPhase) :
    (s.progress platform title message phase).redacted
      = s.redacted.progress platform title message phase := by
  unfold progress
  rw [redacted_journal]
  split
  · rfl
  · rfl

theorem redacted_watchRunning (next : ReportingController) :
    (s.watchRunning platform next).redacted = s.redacted.watchRunning platform next.redacted := by
  unfold watchRunning
  simp only [redacted_controller, AdapterBackedClientController.redacted_status,
    AdapterBackedClientController.redacted_adapter,
    RealShellControllerAdapter.redacted_runtimePhase]
  cases s.controller.status.phase with
  | connecting =>
    dsimp only
    split
    · rfl
    · exact next.redacted_progress platform _ _ _
  | disconnecting => exact next.redacted_progress platform _ _ _
  | disconnected | connected | error => rfl

theorem redacted_watchEnded (next : ReportingController) :
    (s.watchEnded platform next).redacted = s.redacted.watchEnded platform next.redacted := by
  have herror : s.redacted.sessionError = s.sessionError := rfl
  have hcode : s.redacted.abnormalExitCode = s.abnormalExitCode := rfl
  unfold watchEnded
  rw [redacted_controller, AdapterBackedClientController.redacted_status, herror, hcode]
  cases s.controller.status.phase with
  | connected | connecting =>
    rcases s.sessionError with _ | lastError
    · rcases s.abnormalExitCode with _ | code
      · rfl
      · rfl
    · rfl
  | disconnecting | disconnected | error => rfl

theorem redacted_watch : (s.watch platform).redacted = s.redacted.watch platform := by
  unfold watch reconcileStatusWithSession
  simp only [redacted_controller, ← AdapterBackedClientController.redacted_watch,
    AdapterBackedClientController.redacted_adapter,
    AdapterBackedClientController.redacted_lastSessionUpdatedAt,
    RealShellControllerAdapter.redacted_isRunning,
    RealShellControllerAdapter.redacted_sessionUpdatedAt]
  split
  · rfl
  · split
    · exact congrArg (notifyIfActive platform) (s.redacted_watchRunning platform
        { s with controller := s.controller.watch })
    · exact congrArg (notifyIfActive platform) (s.redacted_watchEnded platform
        { s with controller := s.controller.watch })

/-! ## What the platform does -/

theorem redacted_completeLaunch (i : ℕ) :
    (s.completeLaunch platform i).redacted = s.redacted.completeLaunch platform i := by
  have hstage : (s.controller.adapter.redacted.launches[i]?).map Launch.stage
      = (s.controller.adapter.launches[i]?).map Launch.stage := by
    rw [RealShellControllerAdapter.redacted_launches, List.getElem?_map, Option.map_map]
    rfl
  unfold completeLaunch
  simp only [redacted_controller, AdapterBackedClientController.redacted_adapter, hstage,
    redacted_journal]
  split
  · rfl
  · rfl
  · rfl

theorem redacted_runtimeStep (event : RuntimeEvent) :
    (s.runtimeStep platform event).map redacted = s.redacted.runtimeStep platform event := by
  unfold runtimeStep
  simp only [redacted_controller, AdapterBackedClientController.redacted_adapter,
    ← RealShellControllerAdapter.redacted_runtimeStep, Option.map_map]
  refine congrArg (fun f => Option.map f _) (funext (fun adapter => ?_))
  cases event with
  | launchContinued i error =>
    exact redacted_completeLaunch platform { s with
      controller := { s.controller with adapter := adapter } } i
  | exitHandled i =>
    simp only [Function.comp_apply, RealShellControllerAdapter.redacted_runningProcess]
    split
    · rfl
    · rfl
  | clock | logged | processExited | cleanupContinued | probeCompleted | promotionWoke => rfl

theorem redacted_log (toStderr : Bool) (chunk : Text) :
    (s.log toStderr chunk).redacted = s.redacted.log toStderr chunk := by
  unfold log
  rw [redacted_journal]
  rcases Journal.appendLogLines (if toStderr then s.journal.stderrTail else s.journal.stdoutTail)
    chunk with ⟨tail, _ | _⟩
  · rfl
  · rfl

/-! ## All steps -/

theorem redacted_continueAnswered (operation : Operation) :
    (s.continueAnswered platform operation).map redacted
      = s.redacted.continueAnswered platform operation := by
  cases operation with
  | launching profile launch =>
    refine s.controller.adapter.map_launch_bind launch _ _ _ (fun l => ?_)
    obtain ⟨profileId, configPath, content, stage⟩ := l
    cases stage with
    | _ => rfl
  | rollingBack profile launch quarantined reason fallback =>
    simp only [continueAnswered, redacted_controller,
      AdapterBackedClientController.redacted_answeredLaunch]
    split
    · exact congrArg some (s.redacted_rolledBack platform profile launch quarantined reason)
    · rfl
  | disconnectAnswered activeProfileId result =>
    exact congrArg some (s.redacted_disconnectAnswered platform activeProfileId result)
  | refused | storingQuarantine | readingPassword | smoking | storingRollback | storingSuccess
  | disconnecting | finishing => rfl

/-- **Every step but one does alike** without the contents: all but that in which a
password is read. -/
theorem redacted_controllerStep {event : ControllerEvent}
    (h : ∀ password, event ≠ .passwordRead password) :
    (s.controllerStep platform event).map redacted = s.redacted.controllerStep platform event := by
  cases event with
  | connect profile => exact congrArg some (s.redacted_connect platform profile)
  | disconnect => exact congrArg some (s.redacted_disconnect platform)
  | passwordRead password => exact absurd rfl (h password)
  | adapterAnswered =>
    simp only [controllerStep, redacted_controller,
      AdapterBackedClientController.redacted_operation]
    cases s.controller.operation with
    | none => rfl
    | some operation => exact s.redacted_continueAnswered platform operation
  | smokeCompleted => rfl
  | stateStored succeeded =>
    simp only [controllerStep, redacted_controller,
      AdapterBackedClientController.redacted_operation]
    cases s.controller.operation with
    | none => rfl
    | some operation =>
      simp only [Option.bind_some, Option.map_map]
      refine congrArg (fun f => Option.map f _) (funext (fun written => ?_))
      exact s.redacted_continueStored platform operation written.1 written.2 succeeded
  | disconnectRequested killed =>
    simp only [controllerStep, redacted_controller,
      AdapterBackedClientController.redacted_operation]
    split
    · exact congrArg some (s.redacted_executeDisconnect platform _ killed)
    · rfl
  | finished =>
    simp only [controllerStep, redacted_controller,
      AdapterBackedClientController.redacted_operation, redacted_snapshotDue]
    split
    · split
      · rfl
      · exact congrArg some (s.redacted_finish platform _)
    · rfl
  | watcherTick =>
    simp only [controllerStep, redacted_disposed]
    split
    · rfl
    · exact congrArg some (s.redacted_watch platform)
  | runtime event =>
    have hruntime := s.redacted_runtimeStep platform event
    cases event with
    | logged => rfl
    | clock | launchContinued | processExited | exitHandled | cleanupContinued | probeCompleted
    | promotionWoke => exact hruntime

/-! ## A password is read -/

/-- A launch begins alike with either password, and the same is said of it. -/
theorem redacted_executeConnect (profile : ClientProfile) {password password' : Text}
    (h : password.trim.isEmpty = false) (h' : password'.trim.isEmpty = false) :
    (s.executeConnect platform profile password).redacted
      = (s.redacted.executeConnect platform profile password').redacted := by
  have hcontroller := s.controller.redacted_executeConnect platform.toRuntimePlatform profile h h'
  have hparse : platform.parse (s.redacted.controller.connectCommand platform.toRuntimePlatform
      profile password') = _ :=
    s.controller.parse_connectCommand platform.toRuntimePlatform profile h h'
  unfold executeConnect
  rw [hparse]
  rcases platform.parse (s.controller.connectCommand platform.toRuntimePlatform profile password)
    with error | _ | input
  · exact congrArg (fun controller => { s with controller := controller }) hcontroller
  · exact congrArg (fun controller => { s with controller := controller }.giving
      (s.missingInputsResult s.journal.operationId)) hcontroller
  · simp only [Except.map, Option.map_some, redacted_controller,
      AdapterBackedClientController.redacted_adapter,
      RealShellControllerAdapter.redacted_isRunning]
    split
    · exact congrArg (fun controller => { s with controller := controller }.giving
        (s.alreadyRunningResult platform)) hcontroller
    · exact congrArg (fun controller => { s with controller := controller }.planLaunch platform
        input) hcontroller

/-- A blank password is as good as none. -/
theorem continuePassword_of_blank (profile : ClientProfile) {password : Option Text}
    (h : (password.getD []).trim.isEmpty = true) :
    s.continuePassword platform profile (some password)
      = s.continuePassword platform profile (some none) := by
  simp only [continuePassword, h, if_true]
  rfl

theorem redacted_continuePassword_none (profile : ClientProfile) :
    (s.continuePassword platform profile (some none)).redacted
      = s.redacted.continuePassword platform profile (some none) := rfl

/-- **A password is read alike** if it differs only in what is redacted. -/
theorem redacted_continuePassword (profile : ClientProfile)
    {password password' : Option (Option Text)}
    (h : redactedPassword password = redactedPassword password') :
    (s.continuePassword platform profile password).redacted
      = (s.redacted.continuePassword platform profile password').redacted := by
  rcases redactedPassword_eq h with ⟨rfl, rfl⟩ | ⟨value, value', rfl, rfl, hblank⟩
  · exact congrArg (fun controller : AdapterBackedClientController =>
      { s with controller := controller.thrown }) s.controller.redacted_redacted.symm
  · cases hvalue : (value.getD []).trim.isEmpty with
    | true =>
      rw [continuePassword_of_blank platform _ profile hvalue,
        continuePassword_of_blank platform _ profile (hblank.symm.trans hvalue),
        redacted_continuePassword_none, redacted_continuePassword_none, redacted_redacted]
    | false =>
      have hvalue' : (value'.getD []).trim.isEmpty = false := hblank.symm.trans hvalue
      simp only [continuePassword, hvalue, hvalue', Bool.false_eq_true, if_false]
      exact s.redacted_executeConnect platform profile hvalue hvalue'

end ReportingController

/-! ## A step -/

def ReportingEvent.redacted : ReportingEvent → ReportingEvent
  | .controller event => .controller event.redacted
  | event => event

theorem ReportingEvent.redacted_eq {e e' : ReportingEvent} (h : e.redacted = e'.redacted) :
    (∃ password password', e = .controller (.passwordRead password) ∧
      e' = .controller (.passwordRead password') ∧
      redactedPassword password = redactedPassword password') ∨
    (e = e' ∧ ∀ password, e ≠ .controller (.passwordRead password)) := by
  cases e with
  | controller event =>
    cases e' with
    | controller event' =>
      rcases ControllerEvent.redacted_eq (by injection h : event.redacted = event'.redacted)
        with ⟨password, password', rfl, rfl, hpassword⟩ | ⟨rfl, hother⟩
      · exact .inl ⟨password, password', rfl, rfl, hpassword⟩
      · exact .inr ⟨rfl, fun password heq => hother password (by injection heq)⟩
    | _ => cases h
  | _ =>
    cases e' with
    | controller event' => cases h
    | _ => exact .inr ⟨h, nofun⟩

namespace ReportingController

variable (platform : ReportPlatform) (s : ReportingController)

theorem map_redacted_map (o : Option ReportingController) :
    (o.map redacted).map redacted = o.map redacted := by
  rw [Option.map_map]
  exact congrArg (fun f => o.map f) (funext redacted_redacted)

theorem redacted_step_of_ne {e : ReportingEvent}
    (h : ∀ password, e ≠ .controller (.passwordRead password)) :
    (s.step platform e).map redacted = s.redacted.step platform e := by
  cases e with
  | controller event =>
    exact s.redacted_controllerStep platform (fun password heq =>
      h password (congrArg ReportingEvent.controller heq))
  | logged toStderr chunk => exact congrArg some (s.redacted_log toStderr chunk)
  | smokeCompleted smoke =>
    simp only [step, redacted_controller, AdapterBackedClientController.redacted_operation]
    split
    · exact congrArg some (s.redacted_continueSmoke platform _ _ smoke)
    · rfl
  | recordStored =>
    simp only [step, redacted_controller, AdapterBackedClientController.redacted_operation,
      redacted_snapshotDue]
    split
    · split
      · rfl
      · rfl
    · rfl
  | notified =>
    simp only [step, redacted_pendingNotifications]
    split
    · rfl
    · rfl
  | dispose => rfl

/-- **A step without the contents**, and with another password, comes to the same. -/
theorem redacted_step {e e' : ReportingEvent} (h : e.redacted = e'.redacted) :
    (s.step platform e).map redacted = (s.redacted.step platform e').map redacted := by
  rcases ReportingEvent.redacted_eq h with ⟨password, password', rfl, rfl, hpassword⟩ |
    ⟨rfl, hother⟩
  · simp only [step, controllerStep, redacted_controller,
      AdapterBackedClientController.redacted_operation]
    split
    · exact congrArg some (s.redacted_continuePassword platform _ hpassword)
    · rfl
  · rw [← s.redacted_step_of_ne platform hother, map_redacted_map]

end ReportingController
