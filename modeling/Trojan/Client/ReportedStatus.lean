import Trojan.Client.RolledBack

/-!
# The status and the running process

The status of the client names a profile and says how far its session has come.
While a process is running it should name the profile that the process was launched
for. Every operation that is not carried out, however, says so in the status, and
names the profile it was called for: also when a process is running all the while,
which the status does not show any more. The watcher does not mend this, since it
takes a status with an error for a session that has ended.

`status_names_running_iff` says when the status is right between operations: exactly
when every operation that ends with an error does so while no process is running.
-/

/-- The phases of a session for which there may be a process. -/
def ClientConnectionPhase.session : ClientConnectionPhase → Bool
  | .connecting | .connected | .disconnecting => true
  | .disconnected | .error => false

namespace RealShellControllerAdapter

/-- What is running, if anything, was launched for the profile. -/
def RunsOnly (a : RealShellControllerAdapter) (profileId : Option Text) : Prop :=
  ∀ i, a.runningProcess = some i → ∃ l : Launch, a.launches[i]? = some l ∧
    profileId = some l.profileId

variable {a t : RealShellControllerAdapter} {platform : RuntimePlatform} {profileId : Option Text}

theorem runsOnly_of_none (h : a.runningProcess = none) : a.RunsOnly profileId :=
  fun _ hi => nomatch h.symm.trans hi

theorem RunsOnly.rests (h : a.RunsOnly profileId) (ht : a.Rests t) : t.RunsOnly profileId := by
  intro i hi
  rw [ht.launches]
  exact h i (ht.runningProcess ▸ hi)

theorem RunsOnly.runtimeStep {e : RuntimeEvent} (h : a.RunsOnly profileId)
    (hattended : a.Attended none) (ht : a.runtimeStep platform e = some t) :
    t.RunsOnly profileId := by
  intro i hi
  obtain ⟨l, hl, hid⟩ := h i (hattended.running_of_runtimeStep ht hi)
  obtain ⟨l', hl', hid', -⟩ := (continues_runtimeStep ht).launch i l hl
  exact ⟨l', hl', hid'.symm ▸ hid⟩

/-- What is running is the process of the last launch. -/
theorem StartedLast.runsOnly {awaited : Option ℕ} {launch : ℕ} {id : Text}
    (h : a.StartedLast launch id) (hattended : a.Attended awaited) : a.RunsOnly (some id) := by
  intro i hi
  obtain ⟨hlast, l, hl, -, rfl⟩ := h
  obtain ⟨hlast', -⟩ := hattended.running i hi
  obtain rfl : launch = i := by omega
  exact ⟨l, hl, rfl⟩

end RealShellControllerAdapter

namespace AdapterBackedClientController

variable {platform : RuntimePlatform} {c t : AdapterBackedClientController}

/-- **The status names the running process**: the profile it was launched for, and a
phase of a session. -/
def ReportsRunning (c : AdapterBackedClientController) : Prop :=
  c.adapter.RunsOnly c.status.activeProfileId ∧
    (c.adapter.isRunning = true → c.status.phase.session = true)

theorem reportsRunning_of_none (h : c.adapter.runningProcess = none) : c.ReportsRunning := by
  refine ⟨RealShellControllerAdapter.runsOnly_of_none h, fun hrunning => ?_⟩
  rw [RealShellControllerAdapter.isRunning, h] at hrunning
  exact nomatch hrunning

/-- A status with an error is right only while nothing is running. -/
theorem reportsRunning_of_error (h : c.status.phase = .error) :
    c.ReportsRunning ↔ c.adapter.isRunning = false := by
  constructor
  · intro hreports
    by_contra hrunning
    have hsession := hreports.2 (Bool.not_eq_false _ ▸ hrunning)
    rw [h] at hsession
    exact nomatch hsession
  · intro hrunning
    exact reportsRunning_of_none
      (Option.isNone_iff_eq_none.mp (Option.isSome_eq_false_iff.mp hrunning))

end AdapterBackedClientController

/-- What an operation knows of the status. -/
def Operation.Reports (c : AdapterBackedClientController) : Operation → Prop
  | .readingPassword _ | .smoking _ _ | .storingSuccess _ _ _ => c.ReportsRunning
  | .storingQuarantine _ _ | .storingRollback _ _ _ _ => c.status.phase = .error
  | .disconnecting activeProfileId | .disconnectAnswered activeProfileId _ =>
    c.adapter.RunsOnly activeProfileId
  | .finishing answer =>
    if answer.error.isSome then c.status.phase = .error else c.ReportsRunning
  | .launching _ _ | .refused _ _ | .rollingBack _ _ _ _ _ => True

namespace AdapterBackedClientController

variable {platform : RuntimePlatform} {c t : AdapterBackedClientController}

/-- What the operation in progress knows of the status is so. -/
def Reports (c : AdapterBackedClientController) : Prop :=
  ∀ operation, c.operation = some operation → operation.Reports c

theorem reports_of_eq {operation : Operation} (hop : t.operation = some operation)
    (h : operation.Reports t) : t.Reports :=
  fun _ hop' => Option.some.inj (hop.symm.trans hop') ▸ h

theorem reports_of_none (hop : t.operation = none) : t.Reports :=
  fun _ hop' => nomatch hop.symm.trans hop'

/-! ## The watcher and the platform -/

theorem reconcile_activeProfileId (h : c.adapter.isRunning = true) :
    c.reconcileStatusWithSession.activeProfileId = c.status.activeProfileId := by
  unfold reconcileStatusWithSession
  rw [if_pos h]
  split <;> rfl

theorem reconcile_session (h : c.adapter.isRunning = true)
    (hsession : c.status.phase.session = true) :
    c.reconcileStatusWithSession.phase.session = true := by
  unfold reconcileStatusWithSession
  rw [if_pos h]
  split
  · rfl
  · exact hsession

theorem reconcile_of_error (h : c.status.phase = .error) :
    c.reconcileStatusWithSession = c.status := by
  unfold reconcileStatusWithSession
  split
  · rw [if_neg (by simp [h])]
  · rw [h]

theorem ReportsRunning.watch (h : c.ReportsRunning) : c.watch.ReportsRunning := by
  rcases watch_cases c with heq | heq
  · exact heq.symm ▸ h
  · rw [heq]
    cases hrunning : c.adapter.runningProcess with
    | none => exact reportsRunning_of_none hrunning
    | some i =>
      have hisRunning : c.adapter.isRunning = true := Option.isSome_iff_exists.mpr ⟨i, hrunning⟩
      refine ⟨?_, fun _ => reconcile_session hisRunning (h.2 hisRunning)⟩
      show c.adapter.RunsOnly c.reconcileStatusWithSession.activeProfileId
      rw [reconcile_activeProfileId hisRunning]
      exact h.1

theorem error_watch (h : c.status.phase = .error) : c.watch.status.phase = .error := by
  rcases watch_cases c with heq | heq
  · exact heq.symm ▸ h
  · rw [heq]
    show c.reconcileStatusWithSession.phase = .error
    rw [reconcile_of_error h, h]

theorem watch_adapter (c : AdapterBackedClientController) : c.watch.adapter = c.adapter := by
  rcases watch_cases c with heq | heq
  · rw [heq]
  · rw [heq]

theorem watch_operation (c : AdapterBackedClientController) :
    c.watch.operation = c.operation := by
  rcases watch_cases c with heq | heq
  · rw [heq]
  · rw [heq]

theorem reports_watch (h : c.Reports) : c.watch.Reports := by
  intro operation hop
  have hreports := h operation (watch_operation c ▸ hop)
  cases operation with
  | readingPassword | smoking | storingSuccess => exact ReportsRunning.watch hreports
  | storingQuarantine | storingRollback => exact error_watch hreports
  | disconnecting | disconnectAnswered =>
    show c.watch.adapter.RunsOnly _
    rw [watch_adapter]
    exact hreports
  | finishing answer =>
    simp only [Operation.Reports] at hreports ⊢
    split at hreports
    · rw [if_pos ‹_›]
      exact error_watch hreports
    · rw [if_neg ‹_›]
      exact hreports.watch
  | launching | refused | rollingBack => trivial

/-- The platform may end a process, but for an operation that waits for a launch it
hands none over. -/
theorem ReportsRunning.runtimeStep {adapter : RealShellControllerAdapter} {e : RuntimeEvent}
    (h : c.ReportsRunning) (hattended : c.adapter.Attended none)
    (ht : c.adapter.runtimeStep platform e = some adapter) :
    ReportsRunning { c with adapter := adapter } := by
  refine ⟨h.1.runtimeStep hattended ht, fun hrunning => h.2 ?_⟩
  obtain ⟨i, hi⟩ := Option.isSome_iff_exists.mp hrunning
  exact Option.isSome_iff_exists.mpr ⟨i, hattended.running_of_runtimeStep ht hi⟩

theorem reports_runtimeStep {adapter : RealShellControllerAdapter} {e : RuntimeEvent}
    (hattends : c.Attends) (h : c.Reports)
    (ht : c.adapter.runtimeStep platform e = some adapter) :
    Reports { c with adapter := adapter } := by
  intro operation hop
  have hreports := h operation hop
  have hattended : c.adapter.Attended operation.awaited := by
    rwa [Attends, awaited, show c.operation = some operation from hop] at hattends
  cases operation with
  | readingPassword | smoking | storingSuccess => exact hreports.runtimeStep hattended ht
  | storingQuarantine | storingRollback => exact hreports
  | disconnecting | disconnectAnswered => exact hreports.runtimeStep hattended ht
  | finishing answer =>
    simp only [Operation.Reports] at hreports ⊢
    split at hreports
    · rw [if_pos ‹_›]
      exact hreports
    · rw [if_neg ‹_›]
      exact hreports.runtimeStep hattended ht
  | launching | refused | rollingBack => trivial

/-! ## Operations -/

theorem reports_refuseConnect (profile : ClientProfile) (error : ControllerError) :
    (c.refuseConnect profile error).Reports :=
  reports_of_eq rfl rfl

/-- A launch is begun only while nothing is running, and otherwise the adapter stays as
it is. -/
theorem reports_executeConnect (h : c.ReportsRunning) (profile : ClientProfile)
    (password : Text) :
    (c.executeConnect platform profile password).Reports ∧
      ((c.executeConnect platform profile password).operation = none →
        (c.executeConnect platform profile password).ReportsRunning) := by
  unfold executeConnect
  rcases RealShellControllerAdapter.planConnect_cases platform c.adapter
    (c.connectCommand platform profile password) with ⟨error, heq⟩ | ⟨error, heq, -⟩ |
    ⟨input, -, -, heq⟩
  · rw [heq]
    exact ⟨reports_of_none rfl, fun _ => h⟩
  · rw [heq]
    exact ⟨reports_of_eq rfl trivial, nofun⟩
  · rw [heq]
    exact ⟨reports_of_eq rfl trivial, nofun⟩

theorem reportsRunning_acceptConnect {awaited : Option ℕ} {profile : ClientProfile} {launch : ℕ}
    (hattended : c.adapter.Attended awaited) (h : c.adapter.StartedLast launch profile.id) :
    (c.acceptConnect platform profile launch).ReportsRunning := by
  refine ⟨h.runsOnly hattended, fun _ => ?_⟩
  show (c.acceptedPhaseForConnect platform).session = true
  unfold acceptedPhaseForConnect
  split
  · rfl
  · split
    · rfl
    · rfl

theorem reports_disconnectAnswered {activeProfileId : Option Text}
    (h : c.adapter.RunsOnly activeProfileId) (result : ControllerCommandResult) :
    (c.disconnectAnswered activeProfileId result).Reports := by
  refine reports_of_eq rfl ?_
  show if result.error.isSome
    then (c.disconnectAnswered activeProfileId result).status.phase = .error
    else (c.disconnectAnswered activeProfileId result).ReportsRunning
  cases herror : result.error with
  | some error =>
    show (c.disconnectAnswered activeProfileId result).status.phase = .error
    simp [disconnectAnswered, ControllerCommandResult.accepted, herror]
  | none =>
    show (c.disconnectAnswered activeProfileId result).ReportsRunning
    by_cases hrunning : c.adapter.isRunning = true
    · simp only [ReportsRunning, disconnectAnswered, ControllerCommandResult.accepted, herror,
        hrunning]
      exact ⟨h, fun _ => rfl⟩
    · exact reportsRunning_of_none (c := c.disconnectAnswered activeProfileId result)
        (Option.not_isSome_iff_eq_none.mp hrunning)

/-! ## All steps -/

/-- An operation that has put an error in the status comes to its end: it returns, or
the store fails. -/
def endsWithError (c : AdapterBackedClientController) (e : ControllerEvent) : Bool :=
  match e, c.operation with
  | .finished, some (.finishing answer) => answer.error.isSome
  | .stateStored false, some (.storingQuarantine _ _) => true
  | .stateStored false, some (.storingRollback _ _ _ _) => true
  | _, _ => false

/-- No process is running when an operation ends with an error. -/
def errsIdle (c : AdapterBackedClientController) (e : ControllerEvent) : Bool :=
  !c.endsWithError e || !c.adapter.isRunning

/-- Between operations the status names the running process. -/
def ReportsBetween (c : AdapterBackedClientController) : Prop :=
  c.operation = none → c.ReportsRunning

/-- A step that does not end an operation with an error. -/
theorem errsIdle_of_not_ends {e : ControllerEvent} (h : c.endsWithError e = false) :
    c.errsIdle e = true := by
  rw [errsIdle, h]
  rfl

/-- The store fails, and the operation ends by an exception. -/
theorem reportsBetween_thrown {operation : Operation} {payload : Json} {answer : Answer}
    (hop : c.operation = some operation) (hstoring : storing operation = some (payload, answer))
    (h : operation.Reports c) :
    c.thrown.ReportsBetween ↔ c.errsIdle (.stateStored false) = true := by
  have hbetween : c.thrown.ReportsBetween ↔ c.ReportsRunning :=
    ⟨fun hthrown => hthrown rfl, fun hreports _ => hreports⟩
  rw [hbetween]
  cases operation with
  | storingQuarantine profileId payload =>
    rw [reportsRunning_of_error h]
    simp [errsIdle, endsWithError, hop]
  | storingRollback profileId launch quarantined payload =>
    rw [reportsRunning_of_error h]
    simp [errsIdle, endsWithError, hop]
  | storingSuccess profileId launch payload =>
    exact iff_of_true h (errsIdle_of_not_ends (by simp [endsWithError, hop]))
  | readingPassword | launching | refused | smoking | rollingBack | disconnecting
  | disconnectAnswered | finishing => cases hstoring

theorem reports_stored {operation : Operation} {payload : Json} {answer : Answer}
    (hstoring : storing operation = some (payload, answer)) (h : operation.Reports c) :
    (c.continueStored payload answer true).Reports := by
  refine reports_of_eq rfl ?_
  cases operation with
  | storingQuarantine profileId payload =>
    obtain ⟨-, rfl⟩ := Prod.mk.inj (Option.some.inj hstoring)
    exact h
  | storingRollback profileId launch quarantined payload =>
    obtain ⟨-, rfl⟩ := Prod.mk.inj (Option.some.inj hstoring)
    exact h
  | storingSuccess profileId launch payload =>
    obtain ⟨-, rfl⟩ := Prod.mk.inj (Option.some.inj hstoring)
    exact h
  | readingPassword | launching | refused | smoking | rollingBack | disconnecting
  | disconnectAnswered | finishing => cases hstoring

/-- In the middle of an operation nothing is asked. -/
theorem reportsBetween_of_operation {operation : Operation} (hop : c.operation = some operation) :
    c.ReportsBetween := by
  intro hnone
  rw [hop] at hnone
  cases hnone

/-- A step that leaves an operation in progress, or a status that names the running
process. -/
theorem reportsBetween_iff {e : ControllerEvent} (h : t.ReportsBetween)
    (hends : c.endsWithError e = false) : t.ReportsBetween ↔ c.errsIdle e = true :=
  iff_of_true h (errsIdle_of_not_ends hends)

theorem reports_connect (hreports : c.Reports) (hbetween : c.ReportsBetween)
    (profile : ClientProfile) :
    (c.connect profile).Reports ∧ (c.connect profile).ReportsBetween := by
  unfold connect
  split
  · exact ⟨hreports, hbetween⟩
  · have hnone : c.operation = none := Option.not_isSome_iff_eq_none.mp ‹_›
    split
    · exact ⟨reports_of_eq rfl rfl, reportsBetween_of_operation rfl⟩
    · exact ⟨reports_of_eq rfl (hbetween hnone), reportsBetween_of_operation rfl⟩

theorem reports_disconnect (hreports : c.Reports) (hbetween : c.ReportsBetween) :
    c.disconnect.Reports ∧ c.disconnect.ReportsBetween := by
  unfold disconnect
  split
  · exact ⟨hreports, hbetween⟩
  · have hnone : c.operation = none := Option.not_isSome_iff_eq_none.mp ‹_›
    exact ⟨reports_of_eq rfl (hbetween hnone).1, reportsBetween_of_operation rfl⟩

theorem reports_continuePassword (h : c.ReportsRunning) (profile : ClientProfile)
    (password : Option (Option Text)) :
    (c.continuePassword platform profile password).Reports ∧
      (c.continuePassword platform profile password).ReportsBetween := by
  unfold continuePassword
  split
  · exact ⟨reports_of_none rfl, fun _ => h⟩
  · split
    · exact ⟨reports_refuseConnect profile _, reportsBetween_of_operation rfl⟩
    · exact reports_executeConnect h profile _

theorem reports_continueSmoke (h : c.ReportsRunning) (profile : ClientProfile) (launch : ℕ)
    (result : Option RoutingMiniSmokeResult) :
    (c.continueSmoke platform profile launch result).Reports ∧
      (c.continueSmoke platform profile launch result).ReportsBetween := by
  unfold continueSmoke
  split
  · exact ⟨reports_of_none rfl, fun _ => h⟩
  · split
    · exact ⟨reports_of_eq rfl h, reportsBetween_of_operation rfl⟩
    · rw [smokeFailed, rollbackToLastKnownGood_eq]
      exact ⟨reports_of_eq rfl trivial, reportsBetween_of_operation rfl⟩

/-- **What a step does to the status.** It stays right between operations exactly if no
operation ends with an error while a process is running. -/
theorem reports_step {e : ControllerEvent} (hattends : c.Attends) (hknows : c.KnowsLaunch)
    (hreports : c.Reports) (hbetween : c.ReportsBetween) (ht : c.step platform e = some t) :
    t.Reports ∧ (t.ReportsBetween ↔ c.errsIdle e = true) := by
  cases e with
  | connect profile =>
    obtain rfl := Option.some.inj ht
    obtain ⟨h, hb⟩ := reports_connect hreports hbetween profile
    exact ⟨h, reportsBetween_iff hb rfl⟩
  | disconnect =>
    obtain rfl := Option.some.inj ht
    obtain ⟨h, hb⟩ := reports_disconnect hreports hbetween
    exact ⟨h, reportsBetween_iff hb rfl⟩
  | passwordRead password =>
    obtain ⟨profile, hop, rfl⟩ := step_passwordRead ht
    obtain ⟨h, hb⟩ := reports_continuePassword (hreports _ hop) profile password
    exact ⟨h, reportsBetween_iff hb rfl⟩
  | adapterAnswered =>
    rcases step_adapterAnswered ht with ⟨profile, launch, l, hop, hl, hend⟩ |
      ⟨profile, error, hop, rfl⟩ | ⟨profile, launch, quarantined, reason, fallback, hop, -, rfl⟩ |
      ⟨activeProfileId, result, hop, rfl⟩
    · rcases hend with ⟨hstage, rfl⟩ | ⟨error, -, rfl⟩
      · rw [Attends, awaited, hop] at hattends
        obtain ⟨l', hl', hid⟩ := hknows _ hop
        obtain rfl := Option.some.inj (hl.symm.trans hl')
        have hstarted : c.adapter.StartedLast launch profile.id :=
          ⟨hattends.last launch rfl, l, hl, hstage, hid⟩
        exact ⟨reports_of_eq rfl (reportsRunning_acceptConnect hattends hstarted),
          reportsBetween_iff (reportsBetween_of_operation rfl) rfl⟩
      · exact ⟨reports_refuseConnect profile _,
          reportsBetween_iff (reportsBetween_of_operation rfl) rfl⟩
    · exact ⟨reports_refuseConnect profile error,
        reportsBetween_iff (reportsBetween_of_operation rfl) rfl⟩
    · exact ⟨reports_of_eq rfl rfl, reportsBetween_iff (reportsBetween_of_operation rfl) rfl⟩
    · exact ⟨reports_disconnectAnswered (hreports _ hop) result,
        reportsBetween_iff (reportsBetween_of_operation rfl) rfl⟩
  | smokeCompleted result =>
    obtain ⟨profile, launch, hop, rfl⟩ := step_smokeCompleted ht
    obtain ⟨h, hb⟩ := reports_continueSmoke (hreports _ hop) profile launch result
    exact ⟨h, reportsBetween_iff hb rfl⟩
  | stateStored succeeded =>
    obtain ⟨operation, payload, answer, hop, hstoring, rfl⟩ := step_stateStored ht
    cases succeeded with
    | true =>
      exact ⟨reports_stored hstoring (hreports _ hop),
        reportsBetween_iff (reportsBetween_of_operation rfl) rfl⟩
    | false =>
      exact ⟨reports_of_none rfl, reportsBetween_thrown hop hstoring (hreports _ hop)⟩
  | disconnectRequested killed =>
    obtain ⟨activeProfileId, hop, rfl⟩ := step_disconnectRequested ht
    exact ⟨reports_of_eq rfl (RealShellControllerAdapter.RunsOnly.rests (hreports _ hop)
      (rests_disconnect c.adapter killed)),
        reportsBetween_iff (reportsBetween_of_operation rfl) rfl⟩
  | finished =>
    obtain ⟨answer, hop, rfl⟩ := step_finished ht
    refine ⟨reports_of_none rfl, ?_⟩
    have hb : ReportsBetween { c.returning answer with operation := none } ↔ c.ReportsRunning :=
      ⟨fun hb => hb rfl, fun h _ => h⟩
    have hop' := hreports _ hop
    simp only [Operation.Reports] at hop'
    rw [hb]
    cases herror : answer.error.isSome with
    | true =>
      rw [if_pos herror] at hop'
      rw [reportsRunning_of_error hop']
      simp [errsIdle, endsWithError, hop, herror]
    | false =>
      rw [if_neg (Bool.eq_false_iff.mp herror)] at hop'
      exact iff_of_true hop' (errsIdle_of_not_ends (by simp [endsWithError, hop, herror]))
  | watcherTick =>
    obtain rfl := Option.some.inj ht
    refine ⟨reports_watch hreports, reportsBetween_iff (fun hop => ?_) rfl⟩
    exact (hbetween (watch_operation c ▸ hop)).watch
  | runtime event =>
    obtain ⟨adapter, hadapter, rfl⟩ := Option.map_eq_some_iff.mp ht
    refine ⟨reports_runtimeStep hattends hreports hadapter, reportsBetween_iff (fun hop => ?_) rfl⟩
    have hnone : c.operation = none := hop
    rw [Attends, awaited, hnone] at hattends
    exact (hbetween hnone).runtimeStep hattends hadapter

/-- **When the status names the running process.** Between operations it does so all
along a run exactly when every operation that ends with an error does so while no
process is running. -/
theorem status_names_running_iff (platform : RuntimePlatform) (now : ℤ)
    (contents : Text → Option Text) (stored : Option Json) (es : List ControllerEvent)
    (u : AdapterBackedClientController)
    (hrun : Machine.run (step platform) (restarted (.initial now contents) stored) es = some u) :
    (∀ c, Machine.Visits (step platform) (restarted (.initial now contents) stored) es c →
        c.ReportsBetween) ↔
      Machine.Along (step platform) (fun c e => c.errsIdle e = true)
        (restarted (.initial now contents) stored) es := by
  refine Machine.forall_visits_iff_along (I := fun c => c.Attends ∧ c.KnowsLaunch ∧ c.Reports)
    ?_ ?_ ?_ ?_ hrun
  · rintro c e t ⟨hattends, hknows, hreports⟩ hbetween ht -
    exact ⟨attends_step hattends ht, knowsLaunch_step hattends hknows ht,
      (reports_step hattends hknows hreports hbetween ht).1⟩
  · rintro c e t ⟨hattends, hknows, hreports⟩ hbetween ht
    exact (reports_step hattends hknows hreports hbetween ht).2
  · exact ⟨attends_restarted (RealShellControllerAdapter.attended_initial now contents) stored,
      knowsLaunch_of_none (restarted_operation _ stored),
      reports_of_none (restarted_operation _ stored)⟩
  · exact fun _ => reportsRunning_of_none (by rw [restarted_adapter]; rfl)

/-! ### Two connects -/

/-- One profile is connected, and its process exits before there is an error: the next
profile has no password. -/
def refusedAfterExit : List ControllerEvent :=
  goodConnectEvents "p" 0 ++
    [.runtime (.processExited 0 0), .runtime (.exitHandled 0), .connect (sampleProfile "q"),
      .passwordRead (some none), .finished]

theorem status_names_running_refusedAfterExit :
    (Machine.run (step .sample) sampleStart refusedAfterExit).isSome = true ∧
      ∀ c, Machine.Visits (step .sample) sampleStart refusedAfterExit c → c.ReportsBetween := by
  have hsome : (Machine.run (step .sample) sampleStart refusedAfterExit).isSome = true := by
    decide +kernel
  obtain ⟨u, hrun⟩ := Option.isSome_iff_exists.mp hsome
  exact ⟨hsome, (status_names_running_iff .sample 0 (fun _ => none) none _ u hrun).mpr
    (by decide +kernel)⟩

/-- While the process of one profile is running, another one is to be connected. It is
refused, and the status names it. -/
def refusedWhileRunning : List ControllerEvent :=
  goodConnectEvents "p" 0 ++
    [.connect (sampleProfile "q"), .passwordRead (some (some (Text.ofString "secret"))),
      .adapterAnswered, .finished]

theorem status_names_refused :
    ¬ ∀ (platform : RuntimePlatform) (now : ℤ) (contents : Text → Option Text)
      (stored : Option Json) (es : List ControllerEvent) (c : AdapterBackedClientController),
      Machine.run (step platform) (restarted (.initial now contents) stored) es = some c →
        c.ReportsBetween := by
  intro h
  have hend : (Machine.run (step .sample) sampleStart refusedWhileRunning).any (fun c =>
      c.operation.isNone && decide (c.status.phase = .error) && c.adapter.isRunning) = true := by
    decide +kernel
  obtain ⟨c, hrun, hc⟩ := (Option.any_eq_true _ _).mp hend
  obtain ⟨hc, hrunning⟩ := Bool.and_eq_true_iff.mp hc
  obtain ⟨hnone, herror⟩ := Bool.and_eq_true_iff.mp hc
  have hreports := h .sample 0 (fun _ => none) none _ c hrun (Option.isNone_iff_eq_none.mp hnone)
  exact nomatch hrunning.symm.trans
    ((reportsRunning_of_error (of_decide_eq_true herror)).mp hreports)

end AdapterBackedClientController
