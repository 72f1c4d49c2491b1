import Trojan.Client.ConfigCleanup

/-!
# A controller without its passwords

The controller reads the password of a profile, hands it to the adapter, and the adapter
writes it to the configuration of the runtime. To *redact* a state is to take from it
everything that a password goes into: the contents of the files, and the contents that
launches are about to write. An event is redacted by putting a fixed word in place of a
password that is not blank.

Redacting before a step or after it makes no difference, but for the step in which a
password is read, where it makes none that redacting again does not take away. So what a
state has besides its contents is not changed by a password.

Of the files only those are ever written that are named after a profile and kept in the
directory of the runtime: `ManagedFiles` says that the others are as they were.
-/

/-- A password that is not blank, replaced by a fixed word. -/
def Text.redacted (password : Text) : Text :=
  if password.trim.isEmpty then password else Text.ofString "REDACTED"

@[simp] theorem Text.isEmpty_trim_redacted (password : Text) :
    password.redacted.trim.isEmpty = password.trim.isEmpty := by
  unfold Text.redacted
  split
  · rfl
  · rename_i h
    rw [Bool.not_eq_true] at h
    rw [h]
    decide

/-- What the reading of a password gives, redacted. -/
def redactedPassword (password : Option (Option Text)) : Option (Option Text) :=
  password.map (Option.map Text.redacted)

/-- What is redacted alike is an exception both times, or blank both times or neither. -/
theorem redactedPassword_eq {password password' : Option (Option Text)}
    (h : redactedPassword password = redactedPassword password') :
    (password = none ∧ password' = none) ∨
    ∃ value value', password = some value ∧ password' = some value' ∧
      (value.getD []).trim.isEmpty = (value'.getD []).trim.isEmpty := by
  rcases password with _ | value
  · rcases password' with _ | value'
    · exact .inl ⟨rfl, rfl⟩
    · cases h
  · rcases password' with _ | value'
    · cases h
    · refine .inr ⟨value, value', rfl, rfl, ?_⟩
      rw [← Text.isEmpty_trim_redacted (value.getD []),
        ← Text.isEmpty_trim_redacted (value'.getD []), ← Option.getD_map Text.redacted,
        ← Option.getD_map Text.redacted, Option.some.inj h]

/-- The event with a fixed word in place of the password that it gives. -/
def ControllerEvent.redacted : ControllerEvent → ControllerEvent
  | .passwordRead password => .passwordRead (redactedPassword password)
  | event => event

/-- Events that are redacted alike give a password both, or are the same. -/
theorem ControllerEvent.redacted_eq {e e' : ControllerEvent} (h : e.redacted = e'.redacted) :
    (∃ password password', e = .passwordRead password ∧ e' = .passwordRead password' ∧
      redactedPassword password = redactedPassword password') ∨
    (e = e' ∧ ∀ password, e ≠ .passwordRead password) := by
  cases e with
  | passwordRead password =>
    cases e' with
    | passwordRead password' => exact .inl ⟨password, password', rfl, rfl, by injection h⟩
    | _ => cases h
  | _ =>
    cases e' with
    | passwordRead password' => cases h
    | _ => exact .inr ⟨h, nofun⟩

def Launch.redacted (l : Launch) : Launch := { l with content := [] }

def ConfigFile.redacted (file : ConfigFile) : ConfigFile := { file with content := [] }

theorem ConfigFile.eq_of_redacted {file file' : ConfigFile} (h : file.redacted = file'.redacted)
    (hcontent : file.content = file'.content) : file = file' := by
  have hwriter : file.writer = file'.writer := (congrArg ConfigFile.writer h :)
  rw [ConfigFile.mk.injEq]
  exact ⟨hwriter, hcontent⟩

/-! ## The adapter -/

namespace RealShellControllerAdapter

/-- The adapter without the contents of the files, and those it is about to write. -/
@[simps -fullyApplied]
def redacted (a : RealShellControllerAdapter) : RealShellControllerAdapter :=
  { a with
    files := Option.map ConfigFile.redacted ∘ a.files
    launches := a.launches.map Launch.redacted }

variable (platform : RuntimePlatform) (a : RealShellControllerAdapter) (i : ℕ) (l : Launch)

theorem redacted_redacted : a.redacted.redacted = a.redacted := by
  unfold redacted
  simp only [List.map_map, ← Function.comp_assoc, Option.map_comp_map]
  rfl

theorem redacted_isRunning : a.redacted.isRunning = a.isRunning := rfl

@[simp] theorem redacted_setLaunch :
    (a.setLaunch i l).redacted = a.redacted.setLaunch i l.redacted := by
  unfold setLaunch redacted
  simp only [List.map_set]

theorem redacted_deleteFile (path : Text) (file : ConfigFile) :
    (a.deleteFile i path file).redacted = a.redacted.deleteFile i path file.redacted := by
  unfold deleteFile redacted
  simp only [Function.comp_update]
  rfl

theorem redacted_cleanupFailed (error : Text) :
    (a.cleanupFailed error).redacted = a.redacted.cleanupFailed error := rfl

theorem redacted_fail (error : Text) :
    (a.fail i l error).redacted = a.redacted.fail i l.redacted error := by
  unfold fail setLaunch redacted
  simp only [markSessionUpdated, List.map_set]
  rfl

theorem redacted_attach : (a.attach i l).redacted = a.redacted.attach i l.redacted := by
  unfold attach setLaunch redacted
  simp only [markSessionUpdated, List.map_set]
  rfl

theorem redacted_startProcess :
    (a.startProcess i l).redacted = a.redacted.startProcess i l.redacted := by
  unfold startProcess setLaunch redacted
  simp only [markSessionUpdated, List.map_set]
  rfl

theorem redacted_setFile (path : Text) (file : Option ConfigFile) :
    redacted { a with files := Function.update a.files path file }
      = { a.redacted with
        files := Function.update a.redacted.files path (file.map ConfigFile.redacted) } := by
  unfold redacted
  simp only [Function.comp_update]

/-- What a launch writes to its file. -/
theorem redacted_written :
    redacted { a with
      files := Function.update a.files l.configPath
        ((a.files l.configPath).map (fun file => { file with content := l.content })) }
      = { a.redacted with
        files := Function.update a.redacted.files l.configPath
          ((a.redacted.files l.configPath).map (fun file => { file with content := [] })) } := by
  rw [redacted_setFile]
  simp only [redacted_files, Function.comp_apply, Option.map_map]
  rfl

/-- **A launch goes on alike** without the contents. -/
theorem redacted_continueLaunch (error : Option Text) :
    (a.continueLaunch platform i l error).map redacted
      = a.redacted.continueLaunch platform i l.redacted error := by
  cases error with
  | none =>
    cases hstage : l.stage with
    | openingConfig =>
      simp only [continueLaunch, Launch.redacted, hstage, Option.map_some, Option.some.injEq]
      refine (redacted_setFile (a.setLaunch i _) l.configPath _).trans ?_
      rw [redacted_setLaunch]
      rfl
    | writingConfig =>
      simp only [continueLaunch, Launch.redacted, hstage]
      split
      · rw [Option.map_some, redacted_startProcess, redacted_written]
        simp only [Launch.redacted, hstage]
      · rw [Option.map_some, redacted_setLaunch, redacted_written]
        rfl
    | settingPermissions => simp [continueLaunch, Launch.redacted, hstage, redacted_startProcess]
    | attaching => simp [continueLaunch, Launch.redacted, hstage, redacted_attach]
    | deletingConfig error =>
      simp [continueLaunch, Launch.redacted, hstage, Function.comp_def, redacted_deleteFile]
    | creatingDirectory | startingProcess | started | checkingConfig | failed =>
      simp [continueLaunch, Launch.redacted, hstage]
  | some error =>
    cases hstage : l.stage with
    | creatingDirectory | openingConfig | writingConfig | settingPermissions | startingProcess =>
      simp [continueLaunch, Launch.redacted, hstage, redacted_fail]
    | checkingConfig | deletingConfig =>
      simp [continueLaunch, Launch.redacted, hstage, redacted_cleanupFailed]
    | attaching | started | failed => simp [continueLaunch, Launch.redacted, hstage]

theorem redacted_handleExit (code : ℤ) :
    (a.handleExit i l code).redacted = a.redacted.handleExit i l.redacted code := by
  unfold handleExit
  simp only [redacted_runningProcess]
  split
  · unfold sessionEnded setLaunch redacted
    simp only [markSessionUpdated, List.map_set]
    rfl
  · rw [redacted_setLaunch]
    rfl

theorem redacted_continueCleanup (error : Option Text) :
    (a.continueCleanup i l error).map redacted
      = a.redacted.continueCleanup i l.redacted error := by
  cases error with
  | none =>
    cases hcleanup : l.cleanup with
    | idle | checking => simp [continueCleanup, Launch.redacted, hcleanup]
    | deleting path =>
      simp [continueCleanup, Launch.redacted, hcleanup, Function.comp_def, redacted_deleteFile]
  | some error =>
    cases hcleanup : l.cleanup with
    | idle | checking | deleting =>
      simp [continueCleanup, Launch.redacted, hcleanup, redacted_cleanupFailed]

theorem redacted_completeProbe (isOpen : Bool) :
    (a.completeProbe i l isOpen).map redacted = a.redacted.completeProbe i l.redacted isOpen := by
  cases hpromotion : l.promotion with
  | idle | waiting => simp [completeProbe, Launch.redacted, hpromotion]
  | probing deadline =>
    cases isOpen with
    | false => simp [completeProbe, Launch.redacted, hpromotion]
    | true =>
      simp only [completeProbe, Launch.redacted, hpromotion, if_true, Option.map_some, setLaunch,
        markSessionUpdated, redacted, List.map_set]

theorem redacted_wakePromotion :
    (a.wakePromotion i l).map redacted = a.redacted.wakePromotion i l.redacted := by
  cases hpromotion : l.promotion with
  | idle | probing | waiting => simp [wakePromotion, Launch.redacted, hpromotion]

/-- What is done with a launch is done with the redacted one. -/
theorem map_launch_bind {β : Type} (redact : β → β) (f g : Launch → Option β)
    (h : ∀ l, (f l).map redact = g l.redacted) :
    (a.launches[i]?.bind f).map redact = a.redacted.launches[i]?.bind g := by
  rw [redacted_launches, List.getElem?_map, Option.map_bind]
  cases a.launches[i]? with
  | none => rfl
  | some l => exact h l

/-- **Every event of the platform does alike** without the contents. -/
theorem redacted_runtimeStep (e : RuntimeEvent) :
    (a.runtimeStep platform e).map redacted = a.redacted.runtimeStep platform e := by
  cases e with
  | clock now => rfl
  | logged => rfl
  | launchContinued i error =>
    exact a.map_launch_bind i _ _ _ (fun l => a.redacted_continueLaunch platform i l error)
  | processExited i code =>
    refine a.map_launch_bind i _ _ _ (fun l => ?_)
    by_cases halive : l.process = .alive
    · simp [Launch.redacted, halive]
    · simp [Launch.redacted, halive]
  | exitHandled i =>
    refine a.map_launch_bind i _ _ _ (fun l => ?_)
    by_cases h : ∃ code, l.stage = .started ∧ l.process = .exited code
    · obtain ⟨code, hstage, hprocess⟩ := h
      simp [Launch.redacted, hstage, hprocess, redacted_handleExit]
    · simp only [Launch.redacted]
      split
      · exact absurd ⟨_, ‹_›, ‹_›⟩ h
      · rfl
  | cleanupContinued i error =>
    exact a.map_launch_bind i _ _ _ (fun l => a.redacted_continueCleanup i l error)
  | probeCompleted i isOpen =>
    exact a.map_launch_bind i _ _ _ (fun l => a.redacted_completeProbe i l isOpen)
  | promotionWoke i => exact a.map_launch_bind i _ _ _ (fun l => a.redacted_wakePromotion i l)

/-- A launch begins, with one password or another. -/
theorem redacted_beginLaunch (input : RealShellConnectPlannerInput) (password : Text) :
    (a.beginLaunch platform input).redacted
      = (a.redacted.beginLaunch platform { input with password := password }).redacted := by
  unfold beginLaunch
  simp only [redacted, markSessionUpdated, prepareFreshSessionForConnect, plannedLaunch,
    List.map_append, List.map_map, ← Function.comp_assoc, Option.map_comp_map]
  rfl

/-- A connect is planned, with one password or another. -/
theorem redacted_planConnect {command command' : ControllerCommand} {password : Text}
    (h : platform.parse command' = (platform.parse command).map
      (Option.map (fun input => { input with password := password }))) :
    (a.planConnect platform command).1.redacted
        = (a.redacted.planConnect platform command').1.redacted ∧
      (a.planConnect platform command).2 = (a.redacted.planConnect platform command').2 := by
  unfold planConnect
  rw [h]
  rcases platform.parse command with error | _ | input
  · exact ⟨a.redacted_redacted.symm, rfl⟩
  · exact ⟨a.redacted_redacted.symm, rfl⟩
  · simp only [Except.map, Option.map_some, redacted_runningProcess]
    split
    · exact ⟨a.redacted_redacted.symm, rfl⟩
    · exact ⟨a.redacted_beginLaunch platform input password,
        by rw [redacted_launches, List.length_map]⟩

theorem redacted_disconnect (killed : Bool) :
    (a.disconnect killed).1.redacted = (a.redacted.disconnect killed).1 ∧
      (a.disconnect killed).2 = (a.redacted.disconnect killed).2 := by
  unfold disconnect
  simp only [redacted_runningProcess]
  split
  · exact ⟨rfl, rfl⟩
  · split
    · exact ⟨rfl, rfl⟩
    · exact ⟨rfl, rfl⟩

end RealShellControllerAdapter

/-! ## The controller -/

namespace AdapterBackedClientController

/-- The controller without the contents that its adapter knows. -/
@[simps]
def redacted (c : AdapterBackedClientController) : AdapterBackedClientController :=
  { c with adapter := c.adapter.redacted }

variable (platform : RuntimePlatform) (c : AdapterBackedClientController)

theorem redacted_redacted : c.redacted.redacted = c.redacted := by
  unfold redacted
  rw [RealShellControllerAdapter.redacted_redacted]

theorem redacted_restarted (adapter : RealShellControllerAdapter) (stored : Option Json) :
    (restarted adapter stored).redacted = restarted adapter.redacted stored := by
  unfold restarted restoreRoutingSafetyState
  dsimp only
  split
  · rfl
  · rfl

theorem redacted_runningProfileId : c.redacted.runningProfileId = c.runningProfileId := by
  unfold runningProfileId
  simp only [redacted_adapter, RealShellControllerAdapter.redacted_runningProcess,
    RealShellControllerAdapter.redacted_launches, List.getElem?_map, Option.map_map]
  rfl

theorem redacted_returning (answer : Answer) :
    (c.returning answer).redacted = c.redacted.returning answer := by
  unfold returning
  rw [redacted_runningProfileId]
  rfl

theorem redacted_connect (profile : ClientProfile) :
    (c.connect profile).redacted = c.redacted.connect profile := by
  unfold connect
  simp only [redacted_operation, redacted_quarantineRegistry]
  split
  · rw [redacted_returning]
  · split
    · rfl
    · rfl

theorem redacted_disconnect : c.disconnect.redacted = c.redacted.disconnect := by
  unfold disconnect
  simp only [redacted_operation]
  split
  · rw [redacted_returning]
  · rfl

theorem redacted_smokeFailed (profile : ClientProfile) (launch : ℕ) (reason : Text) :
    (c.smokeFailed platform profile launch reason).redacted
      = c.redacted.smokeFailed platform profile launch reason := by
  unfold smokeFailed
  rw [rollbackToLastKnownGood_eq, rollbackToLastKnownGood_eq]
  rfl

theorem redacted_continueStored (payload : Json) (answer : Answer) (succeeded : Bool) :
    (c.continueStored payload answer succeeded).redacted
      = c.redacted.continueStored payload answer succeeded := by
  unfold continueStored
  split
  · rfl
  · rfl

theorem redacted_executeDisconnect (activeProfileId : Option Text) (killed : Bool) :
    (c.executeDisconnect activeProfileId killed).redacted
      = c.redacted.executeDisconnect activeProfileId killed := by
  obtain ⟨hadapter, hresult⟩ := c.adapter.redacted_disconnect killed
  unfold executeDisconnect redacted
  simp only [hadapter, hresult]

theorem redacted_watch : c.watch.redacted = c.redacted.watch := by
  unfold watch
  simp only [redacted_lastSessionUpdatedAt, redacted_adapter,
    RealShellControllerAdapter.redacted_sessionUpdatedAt]
  split
  · rfl
  · rfl

theorem redacted_answeredLaunch (fallback : Option ℕ) :
    c.redacted.answeredLaunch fallback = c.answeredLaunch fallback := by
  unfold answeredLaunch
  cases fallback with
  | none => rfl
  | some launch =>
    simp only [Option.bind_some, redacted_adapter, RealShellControllerAdapter.redacted_launches,
      List.getElem?_map]
    cases c.adapter.launches[launch]? with
    | none => rfl
    | some l => rfl

/-! ## A password is read -/

/-- What is planned with a password, and what with another one. -/
theorem parse_connectCommand (profile : ClientProfile) {password password' : Text}
    (h : password.trim.isEmpty = false) (h' : password'.trim.isEmpty = false) :
    platform.parse (c.connectCommand platform profile password')
      = (platform.parse (c.connectCommand platform profile password)).map
        (Option.map (fun input => { input with password := password' })) := by
  simp only [RuntimePlatform.parse, connectCommand, h, h', Bool.false_eq_true, if_false]
  cases RoutingProfileCodec.decodeFromObject platform.toRoutingPlatform
    (.obj (RoutingProfileCodec.encodeToJsonMap platform.toRoutingPlatform profile.routing)) with
  | error error => rfl
  | ok routing => rfl

/-- **A launch begins alike** with either password. -/
theorem redacted_executeConnect (profile : ClientProfile) {password password' : Text}
    (h : password.trim.isEmpty = false) (h' : password'.trim.isEmpty = false) :
    (c.executeConnect platform profile password).redacted
      = (c.redacted.executeConnect platform profile password').redacted := by
  obtain ⟨hadapter, houtcome⟩ := c.adapter.redacted_planConnect platform
    (c.parse_connectCommand platform profile h h')
  have hcommand : c.redacted.connectCommand platform profile password'
      = c.connectCommand platform profile password' := rfl
  unfold executeConnect
  rw [hcommand, redacted_adapter]
  generalize c.adapter.planConnect platform (c.connectCommand platform profile password)
    = planned at hadapter houtcome ⊢
  generalize c.adapter.redacted.planConnect platform (c.connectCommand platform profile password')
    = planned' at hadapter houtcome ⊢
  obtain ⟨adapter, outcome⟩ := planned
  obtain ⟨adapter', outcome'⟩ := planned'
  obtain rfl : outcome = outcome' := houtcome
  cases outcome with
  | threw | refused | launched =>
    unfold redacted
    simp only [show adapter.redacted = adapter'.redacted from hadapter]

end AdapterBackedClientController

/-! ## The files that are written -/

namespace RealShellControllerAdapter

variable {platform : RuntimePlatform} {a t : RealShellControllerAdapter}

theorem files_continueLaunch {i : ℕ} {l : Launch} {error : Option Text}
    (ht : a.continueLaunch platform i l error = some t) {path : Text} (hne : path ≠ l.configPath) :
    t.files path = a.files path := by
  cases error with
  | none =>
    cases hstage : l.stage with
    | openingConfig =>
      simp only [continueLaunch, hstage, Option.some.injEq] at ht
      subst ht
      exact Function.update_of_ne hne _ _
    | writingConfig =>
      simp only [continueLaunch, hstage] at ht
      split at ht
      · obtain rfl := Option.some.inj ht
        exact Function.update_of_ne hne _ _
      · obtain rfl := Option.some.inj ht
        exact Function.update_of_ne hne _ _
    | deletingConfig error =>
      simp only [continueLaunch, hstage, Option.map_eq_some_iff] at ht
      obtain ⟨file, -, rfl⟩ := ht
      exact Function.update_of_ne hne _ _
    | creatingDirectory | settingPermissions | startingProcess | attaching | checkingConfig =>
      simp only [continueLaunch, hstage, Option.some.injEq] at ht
      subst ht
      rfl
    | started | failed => simp [continueLaunch, hstage] at ht
  | some error =>
    cases hstage : l.stage with
    | creatingDirectory | openingConfig | writingConfig | settingPermissions | startingProcess
    | checkingConfig | deletingConfig =>
      simp only [continueLaunch, hstage, Option.some.injEq] at ht
      subst ht
      rfl
    | attaching | started | failed => simp [continueLaunch, hstage] at ht

theorem files_continueCleanup {i : ℕ} {l : Launch} {error : Option Text}
    (ht : a.continueCleanup i l error = some t) (path : Text) :
    t.files path = a.files path ∨ t.files path = none := by
  cases error with
  | none =>
    cases hcleanup : l.cleanup with
    | idle => simp [continueCleanup, hcleanup] at ht
    | checking deleted =>
      simp only [continueCleanup, hcleanup, Option.some.injEq] at ht
      subst ht
      exact .inl rfl
    | deleting deleted =>
      simp only [continueCleanup, hcleanup, Option.map_eq_some_iff] at ht
      obtain ⟨file, -, rfl⟩ := ht
      by_cases hpath : path = deleted
      · subst hpath
        exact .inr (Function.update_self _ _ _)
      · exact .inl (Function.update_of_ne hpath _ _)
  | some error =>
    cases hcleanup : l.cleanup with
    | idle => simp [continueCleanup, hcleanup] at ht
    | checking | deleting =>
      simp only [continueCleanup, hcleanup, Option.some.injEq] at ht
      subst ht
      exact .inl rfl

/-- What the platform does to the files: one may be deleted, and that of a launch may be
written. -/
theorem files_runtimeStep {e : RuntimeEvent} (ht : a.runtimeStep platform e = some t)
    (path : Text) :
    t.files path = a.files path ∨ t.files path = none ∨
      path ∈ a.launches.map Launch.configPath := by
  cases e with
  | clock | logged =>
    obtain rfl := Option.some.inj ht
    exact .inl rfl
  | launchContinued i error =>
    obtain ⟨l, hl, ht⟩ := Option.bind_eq_some_iff.mp ht
    by_cases hpath : path = l.configPath
    · exact .inr (.inr (hpath ▸ List.mem_map_of_mem (List.mem_of_getElem? hl)))
    · exact .inl (files_continueLaunch ht hpath)
  | processExited i code =>
    obtain ⟨l, hl, ht⟩ := Option.bind_eq_some_iff.mp ht
    obtain ⟨-, ht⟩ := Option.ite_none_right_eq_some.mp ht
    obtain rfl := Option.some.inj ht
    exact .inl rfl
  | exitHandled i =>
    obtain ⟨l, hl, ht⟩ := Option.bind_eq_some_iff.mp ht
    split at ht
    · obtain rfl := Option.some.inj ht
      unfold handleExit
      split
      · exact .inl rfl
      · exact .inl rfl
    · cases ht
  | cleanupContinued i error =>
    obtain ⟨l, hl, ht⟩ := Option.bind_eq_some_iff.mp ht
    rcases files_continueCleanup ht path with heq | heq
    · exact .inl heq
    · exact .inr (.inl heq)
  | probeCompleted i isOpen =>
    obtain ⟨l, hl, ht⟩ := Option.bind_eq_some_iff.mp ht
    unfold completeProbe at ht
    split at ht
    · split at ht
      · obtain rfl := Option.some.inj ht
        exact .inl rfl
      · obtain rfl := Option.some.inj ht
        exact .inl rfl
    · cases ht
    · cases ht
  | promotionWoke i =>
    obtain ⟨l, hl, ht⟩ := Option.bind_eq_some_iff.mp ht
    unfold wakePromotion at ht
    split at ht
    · obtain rfl := Option.some.inj ht
      exact .inl rfl
    · cases ht
    · cases ht

theorem configPaths_setLaunch {i : ℕ} {l l' : Launch} (hl : a.launches[i]? = some l)
    (hlaunches : t.launches = (a.setLaunch i l').launches) (hpath : l'.configPath = l.configPath) :
    t.launches.map Launch.configPath = a.launches.map Launch.configPath := by
  obtain ⟨hi, hget⟩ := List.getElem?_eq_some_iff.mp hl
  rw [hlaunches, setLaunch, List.map_set, hpath, ← List.map_set, ← hget, List.set_getElem_self]

/-- A launch keeps the name of its file. -/
theorem configPaths_runtimeStep {e : RuntimeEvent} (ht : a.runtimeStep platform e = some t) :
    t.launches.map Launch.configPath = a.launches.map Launch.configPath := by
  rcases runtimeStep_cases ht with hrests | ⟨i, l, l', hmoves⟩ | ⟨i, l, hl, -, rfl⟩ |
    ⟨i, l, code, hl, -, -, rfl⟩
  · rw [hrests.launches]
  · exact configPaths_setLaunch hmoves.before hmoves.launches hmoves.moves.configPath
  · exact configPaths_setLaunch hl rfl rfl
  · unfold handleExit
    split
    · exact configPaths_setLaunch hl rfl rfl
    · exact configPaths_setLaunch hl rfl rfl

end RealShellControllerAdapter

namespace AdapterBackedClientController

variable {platform : RuntimePlatform} {contents : Text → Option Text}
  {c t : AdapterBackedClientController}

/-- The file of the configuration of a profile. -/
def IsManaged (platform : RuntimePlatform) (path : Text) : Prop :=
  ∃ profileId, path = configPathFor platform profileId

/-- **Only managed files are written.** A file that is not managed has the content it had
at the beginning. -/
structure ManagedFiles (platform : RuntimePlatform) (contents : Text → Option Text)
    (a : RealShellControllerAdapter) : Prop where
  launches : ∀ path ∈ a.launches.map Launch.configPath, IsManaged platform path
  files : ∀ path file, a.files path = some file →
    contents path = some file.content ∨ IsManaged platform path

theorem managedFiles_initial (platform : RuntimePlatform) (now : ℤ)
    (contents : Text → Option Text) :
    ManagedFiles platform contents (.initial now contents) where
  launches _ h := nomatch h
  files path file h := by
    obtain ⟨content, hcontent, rfl⟩ := Option.map_eq_some_iff.mp h
    exact .inl hcontent

theorem managedFiles_step {e : ControllerEvent} (h : ManagedFiles platform contents c.adapter)
    (ht : c.step platform e = some t) : ManagedFiles platform contents t.adapter := by
  rcases adapter_step ht with heq | ⟨input, profileId, hpath, heq⟩ | ⟨killed, heq⟩ |
    ⟨event, rfl, hevent⟩
  · exact heq ▸ h
  · rw [heq]
    refine ⟨fun path hmem => ?_, h.files⟩
    rw [RealShellControllerAdapter.beginLaunch_launches, List.map_append, List.mem_append] at hmem
    rcases hmem with hmem | hmem
    · exact h.launches path hmem
    · exact ⟨profileId, (List.mem_singleton.mp hmem).trans hpath⟩
  · rw [heq]
    unfold RealShellControllerAdapter.disconnect
    split
    · exact h
    · split
      · exact ⟨h.launches, h.files⟩
      · exact h
  · refine ⟨?_, fun path file hfile => ?_⟩
    · rw [RealShellControllerAdapter.configPaths_runtimeStep hevent]
      exact h.launches
    · rcases RealShellControllerAdapter.files_runtimeStep hevent path with heq | heq |
        hmem
      · exact h.files path file (heq ▸ hfile)
      · exact nomatch hfile.symm.trans heq
      · exact .inr (h.launches path hmem)

end AdapterBackedClientController
