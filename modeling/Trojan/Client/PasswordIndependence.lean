import Trojan.Client.DiagnosticsExport
import Trojan.Client.RedactedReports
import Trojan.Client.ReportedSteps

/-!
# What is said does not depend on the passwords

A bundle for the support has nearly everything in it that the client knows, and much of it
is copied as a whole: the results of the commands with their details, the events, the
session, what the profiles look like. The password is beside it all the time. It is a field
of the command to connect, and is put into the text of the configuration, of which another
rendering goes into the result of the launch.

`DiagnosticsClient.passwords_untold` is about two runs. Their calls and their outcomes are
the same, up to the values of passwords that are not blank – each reading of a password may
give another one. Then all that the two clients have said is the same, and all that they
have written but for the contents of the configurations of the runtime.
-/

/-! ## Events -/

def DiagnosticsOutcome.redacted : DiagnosticsOutcome → DiagnosticsOutcome
  | .passwordRead password => .passwordRead (redactedPassword password)
  | outcome => outcome

/-- The event with a fixed word in place of the password that it gives. -/
def DiagnosticsEvent.redacted : DiagnosticsEvent → DiagnosticsEvent
  | .reporting event => .reporting event.redacted
  | .continued task outcome => .continued task outcome.redacted
  | event => event

theorem DiagnosticsOutcome.redacted_eq {o o' : DiagnosticsOutcome} (h : o.redacted = o'.redacted) :
    (∃ password password', o = .passwordRead password ∧ o' = .passwordRead password' ∧
      redactedPassword password = redactedPassword password') ∨ o = o' := by
  cases o with
  | passwordRead password =>
    cases o' with
    | passwordRead password' => exact .inl ⟨password, password', rfl, rfl, by injection h⟩
    | _ => cases h
  | _ =>
    cases o' with
    | passwordRead password' => cases h
    | _ => exact .inr h

/-! ## Bundles -/

namespace DiagnosticsClient

/-- The client without the contents that its adapter knows. -/
@[simps]
def redacted (d : DiagnosticsClient) : DiagnosticsClient :=
  { d with reporting := d.reporting.redacted }

variable (platform : DiagnosticsPlatform) (d : DiagnosticsClient)

theorem redacted_redacted : d.redacted.redacted = d.redacted := by
  unfold redacted
  rw [ReportingController.redacted_redacted]

/-- **A bundle** has nothing in it of the contents. -/
theorem bundle_redacted (bundleKind : BundleKind) (task : DiagnosticsTask) :
    d.redacted.bundle platform bundleKind task = d.bundle platform bundleKind task := rfl

theorem redacted_beginStep (task : DiagnosticsTask) :
    (d.beginStep platform task).map redacted id = d.redacted.beginStep platform task := by
  unfold beginStep
  cases task.steps with
  | nil => rfl
  | cons step steps =>
    cases step with
    | _ => rfl

theorem redacted_endHealthCheck (check : HealthCheck) (probe : Option ProbeOutcome) :
    (d.endHealthCheck check probe).map (Prod.map redacted id)
      = d.redacted.endHealthCheck check probe := by
  cases check with
  | known health =>
    cases probe with
    | none => rfl
    | some outcome => rfl
  | probing binaryPath =>
    cases probe with
    | none => rfl
    | some outcome => rfl

theorem redacted_advance (task : DiagnosticsTask) :
    (d.advance platform task).map redacted id = d.redacted.advance platform task := by
  unfold advance
  split
  · rfl
  · exact d.redacted_beginStep platform _

/-- What a task is given: of a password only whether it is blank. -/
theorem endStep_eq_of_redacted (task : DiagnosticsTask) (step : DiagnosticsStep)
    {outcome outcome' : DiagnosticsOutcome} (h : outcome.redacted = outcome'.redacted) :
    d.endStep platform task step outcome = d.endStep platform task step outcome' := by
  rcases DiagnosticsOutcome.redacted_eq h with ⟨password, password', rfl, rfl, hpassword⟩ | rfl
  · cases step with
    | checkPassword =>
      rcases redactedPassword_eq hpassword with ⟨rfl, rfl⟩ | ⟨value, value', rfl, rfl, hblank⟩
      · rfl
      · simp only [endStep, hblank]
    | _ => rfl
  · rfl

theorem redacted_endStep (task : DiagnosticsTask) (step : DiagnosticsStep)
    (outcome : DiagnosticsOutcome) :
    (d.endStep platform task step outcome).map (Prod.map redacted id)
      = d.redacted.endStep platform task step outcome := by
  have hcheck (probe : Option ProbeOutcome)
      (f : DiagnosticsClient × ControllerRuntimeHealth → DiagnosticsClient × DiagnosticsTask)
      (hf : ∀ p, Prod.map redacted id (f p) = f (Prod.map redacted id p)) :
      ((d.endHealthCheck task.check probe).map f).map (Prod.map redacted id)
        = (d.redacted.endHealthCheck task.check probe).map f := by
    rw [← redacted_endHealthCheck, Option.map_map, Option.map_map]
    exact congrArg (fun f => Option.map f _) (funext hf)
  cases step with
  | checkHealth | collectDiagnostics | prepareExport | checkRuntimeBinary =>
    cases outcome with
    | healthChecked probe => exact hcheck probe _ (fun p => rfl)
    | _ => rfl
  | listKeys =>
    cases outcome with
    | keysListed keys =>
      cases keys with
      | none => rfl
      | some keys => rfl
    | _ => rfl
  | checkPassword =>
    cases outcome with
    | passwordRead password =>
      simp only [endStep, Option.map_map]
      refine congrArg (fun f => Option.map f _) (funext (fun profile => ?_))
      cases password with
      | none => rfl
      | some value => rfl
    | passwordSkipped =>
      simp only [endStep]
      split
      · rfl
      · rfl
    | _ => rfl
  | checkFilesystem =>
    cases outcome with
    | _ => rfl
  | persistReport =>
    cases outcome with
    | _ => rfl

theorem redacted_continueTask (i : ℕ) (task : DiagnosticsTask) (outcome : DiagnosticsOutcome) :
    (d.continueTask platform i task outcome).map redacted
      = d.redacted.continueTask platform i task outcome := by
  unfold continueTask
  cases task.steps.head? with
  | none => rfl
  | some step =>
    simp only [Option.bind_some, ← redacted_endStep, Option.map_map]
    refine congrArg (fun f => Option.map f _) (funext (fun p => ?_))
    exact congrArg (d.redacted.setTask i) (p.1.redacted_advance platform p.2)

theorem continueTask_eq_of_redacted (i : ℕ) (task : DiagnosticsTask)
    {outcome outcome' : DiagnosticsOutcome} (h : outcome.redacted = outcome'.redacted) :
    d.continueTask platform i task outcome = d.continueTask platform i task outcome' := by
  unfold continueTask
  refine congrArg _ (funext (fun step => ?_))
  rw [d.endStep_eq_of_redacted platform task step h]

theorem redacted_request (request : DiagnosticsRequest) :
    (d.request platform request).redacted = d.redacted.request platform request := by
  unfold DiagnosticsClient.request
  simp only [← redacted_beginStep]
  rfl

theorem map_redacted_map (o : Option DiagnosticsClient) :
    (o.map redacted).map redacted = o.map redacted := by
  rw [Option.map_map]
  exact congrArg (fun f => o.map f) (funext redacted_redacted)

/-- **A step without the contents**, and with another password, comes to the same. -/
theorem redacted_step {e e' : DiagnosticsEvent} (h : e.redacted = e'.redacted) :
    (d.step platform e).map redacted = (d.redacted.step platform e').map redacted := by
  cases e with
  | reporting event =>
    cases e' with
    | reporting event' =>
      have hstep := d.reporting.redacted_step platform.toReportPlatform
        (by injection h : event.redacted = event'.redacted)
      have hmap (o : Option ReportingController) :
          (o.map (fun reporting => { d with reporting := reporting })).map redacted
            = (o.map ReportingController.redacted).map
              (fun reporting => { d with reporting := reporting }) := by
        rw [Option.map_map, Option.map_map]
        rfl
      exact (hmap _).trans ((congrArg (Option.map _) hstep).trans (hmap _).symm)
    | _ => cases h
  | surroundingsChanged surroundings =>
    cases e' with
    | surroundingsChanged surroundings' =>
      cases h
      exact congrArg (fun reporting => some { d with
        reporting := reporting
        surroundings := surroundings }) d.reporting.redacted_redacted.symm
    | _ => cases h
  | requested request =>
    cases e' with
    | requested request' =>
      cases h
      show some (d.request platform request).redacted
        = some (d.redacted.request platform request).redacted
      rw [redacted_request, redacted_request, redacted_redacted]
    | _ => cases h
  | continued i outcome =>
    cases e' with
    | continued i' outcome' =>
      obtain ⟨rfl, houtcome⟩ : i = i' ∧ outcome.redacted = outcome'.redacted := by
        injection h with hi houtcome
        exact ⟨hi, houtcome⟩
      simp only [step, redacted_tasks]
      cases d.tasks[i]? with
      | none => rfl
      | some task =>
        simp only [Option.bind_some, d.continueTask_eq_of_redacted platform i task houtcome]
        rw [redacted_continueTask, redacted_continueTask, redacted_redacted]
    | _ => cases h

/-! ## The files -/

variable {platform d} {t : DiagnosticsClient}

theorem beginStep_controller (task : DiagnosticsTask) :
    (d.beginStep platform task).1.reporting.controller = d.reporting.controller := by
  unfold beginStep
  cases task.steps with
  | nil => rfl
  | cons step steps =>
    cases step with
    | _ => rfl

theorem advance_controller (task : DiagnosticsTask) :
    (d.advance platform task).1.reporting.controller = d.reporting.controller := by
  unfold advance
  split
  · rfl
  · exact beginStep_controller _

theorem endHealthCheck_controller {check : HealthCheck} {probe : Option ProbeOutcome}
    {p : DiagnosticsClient × ControllerRuntimeHealth} (h : d.endHealthCheck check probe = some p) :
    p.1.reporting.controller = d.reporting.controller := by
  unfold endHealthCheck at h
  split at h
  · obtain rfl := Option.some.inj h
    rfl
  · obtain rfl := Option.some.inj h
    rfl
  · cases h
  · cases h

theorem endStep_controller {task : DiagnosticsTask} {step : DiagnosticsStep}
    {outcome : DiagnosticsOutcome} {p : DiagnosticsClient × DiagnosticsTask}
    (h : d.endStep platform task step outcome = some p) :
    p.1.reporting.controller = d.reporting.controller := by
  unfold endStep at h
  split at h
  · obtain rfl := Option.some.inj h
    rfl
  · obtain rfl := Option.some.inj h
    rfl
  · obtain ⟨p, hp, rfl⟩ := Option.map_eq_some_iff.mp h
    exact (endHealthCheck_controller hp)
  · obtain ⟨p, hp, rfl⟩ := Option.map_eq_some_iff.mp h
    exact (endHealthCheck_controller hp)
  · obtain ⟨p, hp, rfl⟩ := Option.map_eq_some_iff.mp h
    exact (endHealthCheck_controller hp)
  · obtain ⟨profile, -, rfl⟩ := Option.map_eq_some_iff.mp h
    split
    · rfl
    · rfl
  · split at h
    · cases h
    · obtain rfl := Option.some.inj h
      rfl
  · obtain ⟨p, hp, rfl⟩ := Option.map_eq_some_iff.mp h
    exact (endHealthCheck_controller hp)
  · obtain rfl := Option.some.inj h
    rfl
  · obtain rfl := Option.some.inj h
    rfl
  · cases h

/-- **The controller goes on meanwhile**, and the diagnostics leave it alone. -/
theorem controller_step {e : DiagnosticsEvent} (h : d.step platform e = some t) :
    t.reporting.controller = d.reporting.controller ∨
      ∃ event, d.reporting.controller.step platform.toRuntimePlatform event
        = some t.reporting.controller := by
  cases e with
  | reporting event =>
    obtain ⟨reporting, hreporting, rfl⟩ := Option.map_eq_some_iff.mp h
    exact ReportingController.refines_step hreporting
  | surroundingsChanged surroundings =>
    obtain rfl := Option.some.inj h
    exact .inl rfl
  | requested request =>
    obtain rfl := Option.some.inj h
    exact .inl (beginStep_controller _)
  | continued i outcome =>
    obtain ⟨task, -, h⟩ := Option.bind_eq_some_iff.mp h
    obtain ⟨step, -, h⟩ := Option.bind_eq_some_iff.mp h
    obtain ⟨p, hp, rfl⟩ := Option.map_eq_some_iff.mp h
    exact .inl ((advance_controller _).trans (endStep_controller hp))

/-- A client has only written managed files. -/
theorem managedFiles_run {contents : Text → Option Text} {es : List DiagnosticsEvent}
    (hd : AdapterBackedClientController.ManagedFiles platform.toRuntimePlatform contents
      d.reporting.controller.adapter)
    (h : Machine.run (step platform) d es = some t) :
    AdapterBackedClientController.ManagedFiles platform.toRuntimePlatform contents
      t.reporting.controller.adapter := by
  refine Machine.run_invariant (P := fun d : DiagnosticsClient =>
    AdapterBackedClientController.ManagedFiles platform.toRuntimePlatform contents
      d.reporting.controller.adapter) (fun d e t hd ht => ?_) hd h
  rcases controller_step ht with heq | ⟨event, hevent⟩
  · exact heq ▸ hd
  · exact AdapterBackedClientController.managedFiles_step hd hevent

/-! ## Two runs -/

/-- The files of two clients differ at most in the contents of those that are managed. -/
def SameButManaged (platform : RuntimePlatform) (contents contents' : Text → Option Text) : Prop :=
  ∀ path, contents path = contents' path ∨
    (AdapterBackedClientController.IsManaged platform path ∧
      (contents path).isSome = (contents' path).isSome)

/-- **Two clients have said the same**, and have kept the same: what the diagnostics have
given – the texts of the bundles are among it –, the results of the commands, the events,
the metrics, and what was written to the store. Their files differ at most in the contents
of those that are managed. -/
structure TellsTheSame (platform : RuntimePlatform) (d d' : DiagnosticsClient) : Prop where
  outputs : d.tasks = d'.tasks
  results : d.reporting.journal.results = d'.reporting.journal.results
  events : d.reporting.journal.events = d'.reporting.journal.events
  writes : d.reporting.journal.writes = d'.reporting.journal.writes
  journal : d.reporting.journal = d'.reporting.journal
  stored : d.reporting.controller.stored = d'.reporting.controller.stored
  returned : d.reporting.controller.returned = d'.reporting.controller.returned
  status : d.reporting.controller.status = d'.reporting.controller.status
  uxEvents : d.reporting.uxEvents = d'.reporting.uxEvents
  evidence : d.reporting.latestRoutingProbeEvidence = d'.reporting.latestRoutingProbeEvidence
  failures : d.reporting.failures = d'.reporting.failures
  files : ∀ path,
    d.reporting.controller.adapter.files path = d'.reporting.controller.adapter.files path ∨
      (AdapterBackedClientController.IsManaged platform path ∧
        (d.reporting.controller.adapter.files path).map ConfigFile.writer
          = (d'.reporting.controller.adapter.files path).map ConfigFile.writer)

theorem redacted_start (now : ℤ) {contents contents' : Text → Option Text} (stored : Option Json)
    (lastRuntimeFailure : Option LastRuntimeFailureSummary) (surroundings : Surroundings)
    (h : SameButManaged platform.toRuntimePlatform contents contents') :
    (start now contents stored lastRuntimeFailure surroundings).redacted
      = (start now contents' stored lastRuntimeFailure surroundings).redacted := by
  have hfiles : Option.map ConfigFile.redacted ∘ (fun path => (contents path).map (.mk none))
      = Option.map ConfigFile.redacted ∘ (fun path => (contents' path).map (.mk none)) := by
    funext path
    rcases h path with heq | ⟨-, hsome⟩
    · simp only [Function.comp_apply, heq]
    · simp only [Function.comp_apply, Option.map_map]
      cases hc : contents path with
      | none =>
        cases hc' : contents' path with
        | none => rfl
        | some content' => simp [hc, hc'] at hsome
      | some content =>
        cases hc' : contents' path with
        | none => simp [hc, hc'] at hsome
        | some content' => rfl
  have hadapter : (RealShellControllerAdapter.initial now contents).redacted
      = (RealShellControllerAdapter.initial now contents').redacted := by
    unfold RealShellControllerAdapter.initial RealShellControllerAdapter.redacted
    simp only [hfiles]
  unfold start redacted ReportingController.restarted ReportingController.redacted
  simp only [AdapterBackedClientController.redacted_restarted, hadapter]
  rfl

theorem tellsTheSame_of_redacted {contents contents' : Text → Option Text}
    {d' : DiagnosticsClient} (h : SameButManaged platform.toRuntimePlatform contents contents')
    (hd : AdapterBackedClientController.ManagedFiles platform.toRuntimePlatform contents
      d.reporting.controller.adapter)
    (hd' : AdapterBackedClientController.ManagedFiles platform.toRuntimePlatform contents'
      d'.reporting.controller.adapter)
    (hview : d.redacted = d'.redacted) : TellsTheSame platform.toRuntimePlatform d d' where
  outputs := (congrArg tasks hview :)
  results := (congrArg (fun d : DiagnosticsClient => d.reporting.journal.results) hview :)
  events := (congrArg (fun d : DiagnosticsClient => d.reporting.journal.events) hview :)
  writes := (congrArg (fun d : DiagnosticsClient => d.reporting.journal.writes) hview :)
  journal := (congrArg (fun d : DiagnosticsClient => d.reporting.journal) hview :)
  stored := (congrArg (fun d : DiagnosticsClient => d.reporting.controller.stored) hview :)
  returned := (congrArg (fun d : DiagnosticsClient => d.reporting.controller.returned) hview :)
  status := (congrArg (fun d : DiagnosticsClient => d.reporting.controller.status) hview :)
  uxEvents := (congrArg (fun d : DiagnosticsClient => d.reporting.uxEvents) hview :)
  evidence := (congrArg (fun d : DiagnosticsClient => d.reporting.latestRoutingProbeEvidence) hview :)
  failures := (congrArg (fun d : DiagnosticsClient => d.reporting.failures) hview :)
  files path := by
    have hfile : (d.reporting.controller.adapter.files path).map ConfigFile.redacted
        = (d'.reporting.controller.adapter.files path).map ConfigFile.redacted :=
      (congrArg (fun d : DiagnosticsClient => d.reporting.controller.adapter.files path) hview :)
    by_cases hmanaged : AdapterBackedClientController.IsManaged platform.toRuntimePlatform path
    · refine .inr ⟨hmanaged, ?_⟩
      have hwriter := congrArg (Option.map ConfigFile.writer) hfile
      rwa [Option.map_map, Option.map_map] at hwriter
    · refine .inl ?_
      have hcontents : contents path = contents' path :=
        (h path).resolve_right (fun hpath => hmanaged hpath.1)
      cases hf : d.reporting.controller.adapter.files path with
      | none =>
        rw [hf] at hfile
        exact (Option.map_eq_none_iff.mp hfile.symm).symm
      | some file =>
        rw [hf] at hfile
        obtain ⟨file', hf', hredacted⟩ := Option.map_eq_some_iff.mp hfile.symm
        have hcontent := (hd.files path file hf).resolve_right hmanaged
        have hcontent' := (hd'.files path file' hf').resolve_right hmanaged
        rw [hf']
        refine congrArg some (ConfigFile.eq_of_redacted hredacted.symm (Option.some.inj ?_))
        rw [← hcontent, ← hcontent', hcontents]

/-- **Nothing that is said depends on the passwords.** Two runs with the same calls and the
same outcomes, in which only the values of passwords that are not blank may differ, are
both possible or neither is. In the end the two clients have given the same bundles and
proofs, the same results and the same events, and have written the same to the store. Only
the contents of the configurations of the runtime may differ. -/
theorem passwords_untold (platform : DiagnosticsPlatform) (now : ℤ)
    (contents contents' : Text → Option Text) (stored : Option Json)
    (lastRuntimeFailure : Option LastRuntimeFailureSummary) (surroundings : Surroundings)
    (es es' : List DiagnosticsEvent)
    (hcontents : SameButManaged platform.toRuntimePlatform contents contents')
    (hes : es.map DiagnosticsEvent.redacted = es'.map DiagnosticsEvent.redacted) :
    Option.Rel (TellsTheSame platform.toRuntimePlatform)
      (Machine.run (step platform)
        (start now contents stored lastRuntimeFailure surroundings) es)
      (Machine.run (step platform)
        (start now contents' stored lastRuntimeFailure surroundings) es') := by
  have hview := Machine.run_view (fun d d' e e' hd he => by
      rw [redacted_step platform d he, hd, ← redacted_step platform d' rfl])
    (@redacted_start platform now _ _ stored lastRuntimeFailure surroundings hcontents) hes
  have hmanaged (contents : Text → Option Text) : AdapterBackedClientController.ManagedFiles
      platform.toRuntimePlatform contents (start now contents stored lastRuntimeFailure
        surroundings).reporting.controller.adapter := by
    show AdapterBackedClientController.ManagedFiles _ _
      (AdapterBackedClientController.restarted _ _).adapter
    rw [AdapterBackedClientController.restarted_adapter]
    exact AdapterBackedClientController.managedFiles_initial _ now contents
  cases hrun : Machine.run (step platform)
    (start now contents stored lastRuntimeFailure surroundings) es with
  | none =>
    rw [hrun] at hview
    rw [Option.map_eq_none_iff.mp hview.symm]
    exact .none
  | some d =>
    rw [hrun] at hview
    obtain ⟨d', hrun', hview⟩ := Option.map_eq_some_iff.mp hview.symm
    rw [hrun']
    exact .some (tellsTheSame_of_redacted hcontents (managedFiles_run (hmanaged contents) hrun)
      (managedFiles_run (hmanaged contents') hrun') hview.symm)

end DiagnosticsClient

/-! ## A client with two passwords -/

namespace Json

/-- A text between quotation marks. It is taken to have no control characters. -/
def quoted (t : Text) : Text :=
  0x22 :: t.flatMap (fun unit => if unit = 0x22 ∨ unit = 0x5C then [0x5C, unit] else [unit]) ++
    [0x22]

def newline (indented : Bool) (depth : ℕ) : Text :=
  if indented then 0x0A :: List.replicate (2 * depth) 0x20 else []

/-- What is between the brackets. -/
def listed (indented : Bool) (depth : ℕ) : List Text → Text
  | [] => []
  | [item] => newline indented (depth + 1) ++ item ++ newline indented depth
  | item :: items => newline indented (depth + 1) ++ item ++ 0x2C :: listed indented depth items

mutual

/-- The JSON text of a value without fractional numbers. -/
def sampleText (indented : Bool) (depth : ℕ) : Json → Text
  | .null | .double _ => Text.ofString "null"
  | .bool value => Text.ofString (toString value)
  | .int value => Text.ofInt value
  | .str value => quoted value
  | .arr items => 0x5B :: listed indented depth (sampleItems indented (depth + 1) items) ++ [0x5D]
  | .obj fields =>
    0x7B :: listed indented depth (sampleFields indented (depth + 1) fields) ++ [0x7D]

def sampleItems (indented : Bool) (depth : ℕ) : List Json → List Text
  | [] => []
  | item :: items => sampleText indented depth item :: sampleItems indented depth items

def sampleFields (indented : Bool) (depth : ℕ) : List (String × Json) → List Text
  | [] => []
  | (key, value) :: fields =>
    (quoted (Text.ofString key) ++ Text.ofString (if indented then ": " else ":") ++
      sampleText indented depth value) :: sampleFields indented depth fields

end

end Json

/-- A platform with a store, on which it is always the same moment. -/
def DiagnosticsPlatform.sample : DiagnosticsPlatform where
  toReportPlatform := { ReportPlatform.sample with
    encodeIndented := Json.sampleText true 0
    jsonEncode := Json.sampleText false 0
    toIso8601String := fun time => Text.ofString
      (if time.isUtc then "1970-01-01T00:00:00.000Z" else "1970-01-01T00:00:00.000")
    runtimeMode := Text.ofString "real-runtime-boundary"
    hasStore := true }
  jsonDecode := ProfilePlatform.sampleWriter.jsonDecode
  tryParse := ProfilePlatform.sampleWriter.tryParse
  backendKind := Text.ofString "real-shell-controller"
  backendVersion := Text.ofString "runtime-path-v1"
  binaryPathHint := Text.ofString "trojan"
  transportEndpointHint := Text.ofString "process://trojan"
  hasFilesystemLayout := true
  adapterSelectionReason := some (Text.ofString "Real adapter forced and binary resolved.")
  expectedRealRuntimePath := some true

namespace DiagnosticsClient

def sampleSurroundings : Surroundings where
  selectedProfile := some (AdapterBackedClientController.sampleProfile "p")
  profiles := [AdapterBackedClientController.sampleProfile "p"]
  secureStorage := {
    backendName := Text.ofString "flutter-secure-storage"
    activeBackendName := Text.ofString "flutter-secure-storage"
    isSecure := true
    isPersistent := true }
  settings := .obj []
  lastUnhandledError := .null
  releaseManifest := .obj []
  updateMetadata := .obj []

/-- A bundle is built from beginning to end. -/
def bundleEvents (password : Text) (task : ℕ) (bundleKind : BundleKind) : List DiagnosticsEvent :=
  .requested (.buildBundle bundleKind) ::
    [.keysListed (some [Text.ofString "profiles.p.trojan-password"]), .healthChecked none,
      .healthChecked none, .healthChecked none, .passwordRead (some (some password)),
      .healthChecked none, .filesystemTried none, .reportStored true].map (.continued task)

/-- The events of a connect, up to its mini smoke. -/
def connectingEvents (password : Text) : List ControllerEvent :=
  [.connect (AdapterBackedClientController.sampleProfile "p"),
    .passwordRead (some (some password))] ++ (launchEvents 0).map .runtime ++ [.adapterAnswered]

/-- A profile is connected with its password. -/
def connectedEvents (password : Text) : List ReportingEvent :=
  (connectingEvents password).map .controller ++
    [.smokeCompleted (some ReportingController.passedSmoke), .controller (.stateStored true),
      .recordStored, .controller .finished]

/-- A profile is connected with its password, and two bundles are built. -/
def supportedEvents (password : Text) : List DiagnosticsEvent :=
  (connectedEvents password).map .reporting ++ bundleEvents password 0 .supportBundle ++
    bundleEvents password 1 .runtimeProofArtifact

/-- The contents of the configuration of the profile. -/
def sampleConfig (d : DiagnosticsClient) : Option Text :=
  (d.reporting.controller.adapter.files
    (AdapterBackedClientController.configPathFor DiagnosticsPlatform.sample.toRuntimePlatform
      (Text.ofString "p"))).map ConfigFile.content

abbrev sampleRun (password : Text) : Option DiagnosticsClient :=
  Machine.run (step .sample) (start 0 (fun _ => none) none none sampleSurroundings)
    (supportedEvents password)

theorem redacted_supportedEvents {password : Text} (h : password.trim.isEmpty = false) :
    (supportedEvents password).map DiagnosticsEvent.redacted
      = supportedEvents (Text.ofString "REDACTED") := by
  have hredacted : password.redacted = Text.ofString "REDACTED" := by
    rw [Text.redacted, h]
    rfl
  simp only [supportedEvents, bundleEvents, connectedEvents, connectingEvents, List.map_append,
    List.map_cons, List.map_map, List.map_nil, DiagnosticsEvent.redacted,
    DiagnosticsOutcome.redacted, ReportingEvent.redacted, ControllerEvent.redacted,
    redactedPassword, Option.map_some, hredacted]
  rfl

/-- Both bundles are there with either password, and the configurations are not the same. -/
theorem passwords_untold_supported :
    Option.Rel (TellsTheSame DiagnosticsPlatform.sample.toRuntimePlatform)
      (sampleRun (Text.ofString "secret"))
      (sampleRun (Text.ofString "other")) ∧
    (sampleRun (Text.ofString "secret")).any (fun d =>
      d.tasks.length == 2 && d.tasks.all (fun task =>
        match task.output with
        | some (.text _) => true
        | _ => false)) = true ∧
    (sampleRun (Text.ofString "secret")).bind sampleConfig
      ≠ (sampleRun (Text.ofString "other")).bind sampleConfig := by
  refine ⟨passwords_untold .sample 0 _ _ none none sampleSurroundings _ _ (fun _ => .inl rfl) ?_,
    ?_, ?_⟩
  · rw [redacted_supportedEvents (by decide), redacted_supportedEvents (by decide)]
  · decide +kernel
  · decide +kernel

end DiagnosticsClient
