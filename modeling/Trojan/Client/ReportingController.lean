import Trojan.Client.ControllerReports

/-!
# A controller that says what it does

`AdapterBackedClientController` as the other modules have it says nothing. Here it
does: what it does is what it did before, and besides each step writes down what the
source writes down in the course of it, in the same order. Nothing that is written down
is read again but to be reported, which `refines` states: a run of the controller that
reports is a run of the one that does not.

Some of the waits that do not matter for what is done matter for what is said. When an
operation has recorded a failure, or has cleared it, it waits for the store before it
takes a snapshot of the session for the store, and waits again before it notifies and
returns. The watcher waits for nothing, and has its listeners notified once more when the
store is done.

The writes are recorded as they are asked for. Writing them is up to the store, and
only the write of the routing safety state can end an operation.
-/

/-- A connect that the adapter has accepted: which of them, and of which profile. -/
structure AcceptedConnect where
  number : ℕ
  profileId : Text
  deriving DecidableEq, Repr

/-- A failure that was recorded, and the connect that had been accepted last. -/
structure RecordedFailure where
  failure : LastRuntimeFailureSummary
  connect : Option AcceptedConnect
  deriving DecidableEq, Repr

/-- An event of the metrics, and what there was when it was taken: the connect that had
been accepted last, the evidence, and the connect whose mini smoke had given it. -/
structure CapturedUxEvent where
  event : UxEvent
  connect : Option AcceptedConnect
  evidence : List RoutingProbeEvidenceRecord
  probed : Option AcceptedConnect
  deriving DecidableEq, Repr

/-- What there is to say of a launch. -/
structure LaunchReport where
  operationId : Text
  plan : ControllerLaunchPlan
  configPath : Text
  configPreview : Text
  report : CommandReport := { commandId := [], completedAt := 0, summary := [] }

/-- A value that the store is to write under a key, or to delete. -/
structure StoreWrite where
  key : Text
  value : Option Text
  deriving DecidableEq, Repr

/-- What has been said, and what is kept of the session only to be said. -/
structure Journal where
  /-- The message of the status, and the time of its last change. -/
  message : Text
  statusUpdatedAt : ℤ
  operationCounter : ℕ := 0
  eventCounter : ℕ := 0
  events : List ClientControllerEvent
  launchReports : List LaunchReport := []
  lastLaunchPlan : Option ControllerLaunchPlan := none
  configProvenance : Option Text := none
  stopRequestedAt : Option ℤ := none
  stdoutTail : List Text := []
  stderrTail : List Text := []
  /-- The id of the operation in progress, and the result it is about to give. -/
  operationId : Text := []
  result : CommandReport := { commandId := [], completedAt := 0, summary := [] }
  /-- Why the mini smoke has failed, and what the adapter has answered to the command to
  go back to a profile, if it was given one. -/
  smokeReason : Text := []
  rollback : Option (Text × CommandReport) := none
  writes : List StoreWrite := []
  results : List CommandReport := []

/-- The controller, what it has said, and what of that it may look at again. The last
fields are a record of what has happened. -/
structure ReportingController where
  controller : AdapterBackedClientController
  journal : Journal
  disposed : Bool := false
  failureFamilyHint : Option FailureFamily := none
  lastRuntimeFailure : Option LastRuntimeFailureSummary := none
  latestRoutingProbeEvidence : List RoutingProbeEvidenceRecord := []
  /-- The notifications that are to come when the store is done. -/
  pendingNotifications : ℕ := 0
  /-- The operation waits for the store before it takes a snapshot. -/
  snapshotDue : Bool := false
  accepted : Option AcceptedConnect := none
  /-- The connect whose mini smoke has given the evidence. -/
  probed : Option AcceptedConnect := none
  failures : List RecordedFailure := []
  uxEvents : List CapturedUxEvent := []

/-- What the controller does, what is logged, and what the store does. -/
inductive ReportingEvent where
  | controller (event : ControllerEvent)
  /-- A chunk of what the process writes to its output, or to its error output. -/
  | logged (toStderr : Bool) (chunk : Text)
  /-- The mini smoke is over, unless it throws an exception. -/
  | smokeCompleted (smoke : Option RoutingMiniSmoke)
  /-- The store is done with the failure, and a snapshot is taken. -/
  | recordStored
  /-- The store is done with a failure that the watcher has recorded or cleared. -/
  | notified
  | dispose

namespace Journal

def write (platform : ReportPlatform) (j : Journal) (key : Text) (value : Option Text) :
    Journal :=
  { j with writes := if platform.hasStore then ⟨key, value⟩ :: j.writes else j.writes }

def recordEvent (j : Journal) (now : ℤ) (event : ClientControllerEvent) : Journal :=
  { j with
    eventCounter := j.eventCounter + 1
    events := ({ event with
      id := Text.ofString "event-" ++ Text.ofInt (j.eventCounter + 1)
      timestamp := now } :: j.events).take 12 }

/-- The lines of a chunk that are not empty, after those there are, of which the last
thirty are kept. -/
def appendLogLines (target : List Text) (chunk : Text) : List Text × Bool :=
  let lines := ((chunk.splitOn 0x0A).map (List.rdropWhile Text.isWhitespace)).filter
    (fun line => !line.isEmpty)
  let all := target ++ lines
  (all.drop (all.length - 30), !lines.isEmpty || decide (30 < all.length))

end Journal

namespace ReportingController

variable (platform : ReportPlatform) (s : ReportingController)

def now : ℤ := s.controller.adapter.now

/-- The id of the running process. -/
def pid : Option ℤ := s.controller.adapter.runningProcess.map platform.pid

/-! ## Saying something -/

def recordEvent (event : ClientControllerEvent) : ReportingController :=
  { s with journal := s.journal.recordEvent s.now event }

/-- The status has a new message, and a family of failures or none. -/
def say (message : Text) (hint : Option FailureFamily) : ReportingController :=
  { s with
    journal := { s.journal with message := message, statusUpdatedAt := s.now }
    failureFamilyHint := hint }

def giving (result : CommandReport) : ReportingController :=
  { s with journal := { s.journal with result := result } }

def beginOperation (label : String) : ReportingController :=
  { s with journal := { s.journal with
      operationCounter := s.journal.operationCounter + 1
      operationId := Text.ofString label ++ Text.ofInt (s.journal.operationCounter + 1) } }

/-- The snapshot of the session that is taken for the store. -/
def runtimeSnapshot : Json :=
  let a := s.controller.adapter
  .obj [("statusPhase", .str (Text.ofString s.controller.status.phase.name)),
    ("statusMessage", .str s.journal.message),
    ("activeProfileId", Json.orNull .str s.controller.status.activeProfileId),
    ("statusUpdatedAt", .str (platform.iso s.journal.statusUpdatedAt)),
    ("sessionPhase", .str (Text.ofString a.runtimePhase.name)),
    ("sessionIsRunning", .bool a.isRunning),
    ("sessionStopRequested", .bool a.disconnectRequested),
    ("sessionStopRequestedAt",
      Json.orNull (fun time => .str (platform.iso time)) s.journal.stopRequestedAt),
    ("sessionPid", Json.orNull .int (s.pid platform)),
    ("sessionActiveConfigPath", Json.orNull .str a.activeConfigPath),
    ("sessionConfigProvenance", Json.orNull .str s.journal.configProvenance),
    ("sessionExpectedLocalSocksPort", Json.orNull .int a.expectedLocalSocksPort),
    ("sessionLaunchPlanSummary",
      Json.orNull (fun plan => .str plan.summary) s.journal.lastLaunchPlan),
    ("sessionLastExitCode", Json.orNull .int a.lastExitCode),
    ("sessionLastError", Json.orNull .str a.lastError),
    ("sessionUpdatedAt", .str (platform.iso a.sessionUpdatedAt))]

def persistRuntimeSnapshot : ReportingController :=
  { s with
    journal := s.journal.write platform (Text.ofString "controller.runtimeSessionSnapshot")
      (some (platform.jsonEncode (s.runtimeSnapshot platform))) }

def persistRoutingSafetyState : ReportingController :=
  { s with
    journal := s.journal.write platform (Text.ofString "controller.routingSafetyState")
      (some (platform.jsonEncode s.controller.routingSafetyState)) }

def lastRuntimeFailureKey : Text := Text.ofString "controller.lastRuntimeFailureSummary"

def recordLastRuntimeFailure (profileId : Option Text) (phase headline : String)
    (detail : Text) (errorCode : Option Text) (summary : Text) : ReportingController :=
  let failure : LastRuntimeFailureSummary := {
    profileId := profileId
    phase := Text.ofString phase
    family := classifyFailureFamily platform errorCode summary detail (Text.ofString phase)
    headline := Text.ofString headline
    detail := detail
    recordedAt := s.now }
  { s with
    lastRuntimeFailure := some failure
    failures := ⟨failure, s.accepted⟩ :: s.failures
    journal := s.journal.write platform lastRuntimeFailureKey
      (some (platform.jsonEncode (failure.toJson platform))) }

def clearLastRuntimeFailure : ReportingController :=
  { s with
    lastRuntimeFailure := none
    journal :=
      if s.lastRuntimeFailure.isSome then
        s.journal.write platform lastRuntimeFailureKey none
      else s.journal }

/-- The operation waits for the store before it takes a snapshot. -/
def awaitingStore : ReportingController := { s with snapshotDue := true }

/-- The listeners are to be notified when the store is done. -/
def notifyingSoon : ReportingController :=
  { s with pendingNotifications := s.pendingNotifications + 1 }

/-- The posture of the first record of the evidence. Without evidence there is none that
is runtime true. -/
def runtimePosture : RoutingProbeRuntimePosture :=
  match s.latestRoutingProbeEvidence with
  | record :: _ => record.runtimePosture
  | [] =>
    if Text.ofString "stubbed-local-boundary" <+: platform.runtimeMode then .fallbackStub
    else .unknown

def uxEventsFromStatus : List UxEvent :=
  match s.controller.status.activeProfileId with
  | none => []
  | some activeProfileId =>
    if activeProfileId.trim.isEmpty then []
    else
      fromConnectionSnapshot activeProfileId activeProfileId s.controller.status.phase
        (s.runtimePosture platform) s.failureFamilyHint s.journal.statusUpdatedAt

/-- The metrics are taken, and the listeners are notified. -/
def notifyIfActive : ReportingController :=
  { s with
    uxEvents :=
      if s.disposed then s.uxEvents
      else s.uxEvents ++ (s.uxEventsFromStatus platform).map (fun event => {
        event := event
        connect := s.accepted
        evidence := s.latestRoutingProbeEvidence
        probed := s.probed }) }

/-! ## Connecting -/

def rejected (commandId : String) : CommandReport where
  commandId := Text.ofString commandId
  completedAt := s.now
  summary := Text.ofString "另一个连接/断开操作正在进行中，请稍后重试。"
  error := some .operationInProgress

/-- A call returns. -/
def returning (result : CommandReport) : ReportingController :=
  { s with journal := { s.journal with results := result :: s.journal.results } }

/-- A connect is not even tried. -/
def blockConnect (title : String) (step : ℕ) (profile : ClientProfile) (message : Text)
    (hint : FailureFamily) (quarantineKey : Option Text) (result : CommandReport) :
    ReportingController :=
  ((s.recordEvent {
      title := title
      message := result.summary
      phase := .error
      level := .error
      kind := .result
      profileId := some profile.id
      operationId := some s.journal.operationId
      step := some step
      quarantineKey := quarantineKey }).say message (some hint)).giving result

def quarantinedResult : CommandReport where
  commandId := s.journal.operationId
  completedAt := s.now
  summary := Text.ofString "Routing candidate is quarantined. Manual unlock required."
  error := some .routingQuarantined

def connect (profile : ClientProfile) : ReportingController :=
  let next : ReportingController := { s with controller := s.controller.connect profile }
  if s.controller.operation.isSome then next.returning (s.rejected "connect-rejected")
  else if s.controller.quarantineRegistry.isQuarantined profile.id then
    let begun := next.beginOperation "connect-"
    (begun.blockConnect "Connect blocked by quarantine" 0 profile begun.quarantinedResult.summary
      .connect (some profile.id) begun.quarantinedResult).persistRoutingSafetyState platform
  else next.beginOperation "connect-"

def missingPasswordResult (profile : ClientProfile) : CommandReport where
  commandId := s.journal.operationId
  completedAt := s.now
  summary :=
    Text.ofString "Cannot prepare connect plan because no Trojan password is stored for " ++
      profile.name ++ Text.ofString "."
  error := some .missingTrojanPassword

/-- The connect that the adapter has no inputs for. -/
def missingInputsResult (commandId : Text) : CommandReport where
  commandId := commandId
  completedAt := s.now
  summary := Text.ofString "Missing required connect inputs for real shell controller planning."
  error := some .missingConnectInputs

def alreadyRunningResult : CommandReport where
  commandId := s.journal.operationId
  completedAt := s.now
  summary := Text.ofString "A trojan client process is already running under this adapter."
  error := some .processAlreadyRunning
  details := [("pid", Json.orNull .int (s.pid platform)),
    ("configPath", Json.orNull .str s.controller.adapter.activeConfigPath)]

/-- A launch is planned. The password is left out of the preview of the configuration. -/
def planLaunch (input : RealShellConnectPlannerInput) : ReportingController :=
  let plan := ControllerLaunchPlan.buildConnectPlan platform s.now input.profile input.configPath
  { s with journal := { s.journal with
      lastLaunchPlan := some plan
      configProvenance := some (Text.ofString "managed-runtime://" ++ input.profile.id)
      stopRequestedAt := none
      stdoutTail := []
      stderrTail := []
      launchReports := s.journal.launchReports ++ [{
        operationId := s.journal.operationId
        plan := plan
        configPath := input.configPath
        configPreview := platform.render input.profile (Text.ofString "REDACTED") }] } }

/-- The adapter is told to launch the profile. -/
def executeConnect (profile : ClientProfile) (password : Text) : ReportingController :=
  let next : ReportingController := { s with
    controller := s.controller.executeConnect platform.toRuntimePlatform profile password }
  match platform.parse
    (s.controller.connectCommand platform.toRuntimePlatform profile password) with
  | .error _ => next
  | .ok none => next.giving (s.missingInputsResult s.journal.operationId)
  | .ok (some input) =>
    if s.controller.adapter.isRunning then next.giving (s.alreadyRunningResult platform)
    else next.planLaunch platform input

/-- The password has been read. -/
def continuePassword (profile : ClientProfile) : Option (Option Text) → ReportingController
  | none => { s with controller := s.controller.thrown }
  | some password =>
    if (password.getD []).trim.isEmpty then
      let next : ReportingController := { s with
        controller := s.controller.refuseConnect profile .missingTrojanPassword }
      let result := s.missingPasswordResult profile
      (next.blockConnect "Connect blocked" 1 profile result.detail .userInput none
        result).persistRuntimeSnapshot platform
    else s.executeConnect platform profile (password.getD [])

def acceptedMessageForConnect (result : CommandReport) : Text :=
  if Text.ofString "stubbed-local-boundary" <+: platform.runtimeMode then result.summary
  else
    match s.controller.adapter.runtimePhase with
    | .planned => Text.ofString "Launch plan accepted. Preparing managed runtime config."
    | .launching => Text.ofString "Launch plan accepted. Starting runtime process."
    | .alive => Text.ofString "Runtime process is alive. Waiting for session-ready signal."
    | .sessionReady | .failed => result.summary
    | .stopped => Text.ofString "Launch accepted. Waiting for runtime state update."

/-- The event of a connect that the adapter has answered. -/
def requestedConnect (profile : ClientProfile) (message : Text) (phase : ClientConnectionPhase)
    (level : ClientControllerEventLevel) : ClientControllerEvent where
  title := "Connect requested"
  message := message
  phase := phase
  level := level
  kind := .action
  profileId := some profile.id
  operationId := some s.journal.operationId
  step := some 1

/-- The profile is launched, and its routing is tried. -/
def acceptConnect (profile : ClientProfile) (launch : ℕ) (result : CommandReport) :
    ReportingController :=
  let message := s.acceptedMessageForConnect platform result
  let phase := s.controller.acceptedPhaseForConnect platform.toRuntimePlatform
  let next : ReportingController := { s with
    controller := s.controller.acceptConnect platform.toRuntimePlatform profile launch
    accepted := some ⟨(s.accepted.map AcceptedConnect.number).getD 0 + 1, profile.id⟩ }
  (((next.recordEvent (s.requestedConnect profile message phase .info)).say message
    none).giving result).notifyIfActive platform

/-- The adapter has refused to launch the profile, or has failed to. -/
def refuseConnect (profile : ClientProfile) (error : ControllerError) (result : CommandReport) :
    ReportingController :=
  let next : ReportingController := { s with
    controller := s.controller.refuseConnect profile error }
  let code := result.error.map ControllerError.code
  let family := classifyFailureFamily platform code result.summary result.detail
    (Text.ofString "launch")
  ((((next.recordEvent (s.requestedConnect profile result.summary .error .error)).say
    result.detail (some family)).recordLastRuntimeFailure platform (some profile.id) "launch"
    "The connection could not start" result.detail code result.summary).giving
    result).awaitingStore

/-! ## The mini smoke -/

/-- The mini smoke has passed. -/
def smokePassed (profile : ClientProfile) (launch : ℕ) : ReportingController :=
  let next : ReportingController := { s with
    controller := s.controller.smokePassed profile launch }
  next.persistRoutingSafetyState platform

/-- The adapter is told to go back to the last good profile, if there is another one, and
has no inputs to do so. -/
def attemptRollback (profile : ClientProfile) : ReportingController :=
  match s.controller.lastKnownGoodProfileId with
  | none => s
  | some fallbackProfileId =>
    if fallbackProfileId = profile.id then s
    else
      let counter := s.journal.operationCounter + 1
      { s with journal := { s.journal with
          operationCounter := counter
          rollback := some (fallbackProfileId,
            s.missingInputsResult (Text.ofString "rollback-" ++ Text.ofInt counter)) } }

/-- The mini smoke has failed. -/
def smokeFailed (profile : ClientProfile) (launch : ℕ) (reason : Text) : ReportingController :=
  let begun := s.recordEvent {
    title := "Routing rollback in progress"
    message := reason
    phase := .error
    level := .warning
    kind := .progress
    profileId := some profile.id
    operationId := some s.journal.operationId
    rollbackReason := some reason }
  let told := begun.attemptRollback profile
  { told with
    controller := s.controller.smokeFailed platform.toRuntimePlatform profile launch reason
    journal := { told.journal with smokeReason := reason } }

/-- The mini smoke is over, and has given its evidence. -/
def continueSmoke (profile : ClientProfile) (launch : ℕ) :
    Option RoutingMiniSmoke → ReportingController
  | none => { s with controller := s.controller.thrown }
  | some smoke =>
    let next : ReportingController := { s with
      latestRoutingProbeEvidence := smoke.evidence
      probed := s.accepted }
    if smoke.verdict.passed then next.smokePassed platform profile launch
    else next.smokeFailed platform profile launch smoke.verdict.reason

/-- What the adapter has answered to the command to go back. -/
def rollbackAttempted (reason : Text) : ReportingController :=
  match s.journal.rollback with
  | none => s
  | some (fallbackProfileId, result) =>
    let next := s.recordEvent {
      title := "Routing rollback attempted"
      message := result.summary
      phase := if result.accepted then .connecting else .error
      level := if result.accepted then .info else .error
      kind := .result
      profileId := some fallbackProfileId
      operationId := some result.commandId
      rollbackReason := some reason }
    { next with journal := { next.journal with rollback := none } }

def rollbackSummary (quarantined : Bool) : Text :=
  if quarantined then
    Text.ofString "Routing apply failed, rolled back, and candidate is now quarantined."
  else Text.ofString "Routing apply failed and has been rolled back in Safe Mode."

def rolledBack (profile : ClientProfile) (launch : ℕ) (quarantined : Bool) (reason : Text) :
    ReportingController :=
  let attempted := s.rollbackAttempted reason
  let next : ReportingController := { attempted with
    controller := s.controller.rolledBack profile launch quarantined reason }
  ((next.say (rollbackSummary quarantined) (some .connect)).recordEvent {
    title := "Routing rollback applied"
    message := reason
    phase := .error
    level := .error
    kind := .result
    profileId := some profile.id
    operationId := some s.journal.operationId
    step := some 2
    rollbackReason := some reason
    quarantineKey := if quarantined then some profile.id else none }).persistRoutingSafetyState
    platform

def rolledBackResult (profileId : Text) (quarantined : Bool) : CommandReport where
  commandId := s.journal.operationId
  completedAt := s.now
  summary := rollbackSummary quarantined
  error := some (if quarantined then .routingApplyRolledBackQuarantined
    else .routingApplyRolledBack)
  details := [("rollbackReason", .str s.journal.smokeReason),
    ("safeModeActivated", .bool true),
    ("quarantined", .bool quarantined),
    ("quarantineKey", if quarantined then .str profileId else .null)]

/-- What an operation says when the store has written for it. -/
def stored : Operation → ReportingController
  | .storingQuarantine _ _ => s.persistRuntimeSnapshot platform
  | .storingRollback profileId _ quarantined _ =>
    ((s.recordLastRuntimeFailure platform (some profileId) "routing"
      "Routing apply rolled back by mini smoke safety gate" s.journal.smokeReason
      (some ControllerError.routingApplyRolledBack.code) (rollbackSummary quarantined)).giving
      (s.rolledBackResult profileId quarantined)).awaitingStore
  | .storingSuccess _ _ _ => (s.clearLastRuntimeFailure platform).awaitingStore
  | _ => s

def continueStored (operation : Operation) (payload : Json) (answer : Answer)
    (succeeded : Bool) : ReportingController :=
  let next : ReportingController := { s with
    controller := s.controller.continueStored payload answer succeeded }
  if succeeded then next.stored platform operation else next

/-! ## Disconnecting -/

def disconnect : ReportingController :=
  let next : ReportingController := { s with controller := s.controller.disconnect }
  if s.controller.operation.isSome then next.returning (s.rejected "disconnect-rejected")
  else
    ((next.beginOperation "disconnect-").say (Text.ofString "Disconnecting current session...")
      none).persistRuntimeSnapshot platform

def disconnectResult (killed : Bool) : CommandReport :=
  match s.controller.adapter.runningProcess with
  | none =>
    { commandId := s.journal.operationId
      completedAt := s.now
      summary := Text.ofString
        "No running trojan client process is attached to the real shell adapter."
      error := some .noRunningProcess }
  | some i =>
    if killed then
      { commandId := s.journal.operationId
        completedAt := s.now
        summary := Text.ofString "Requested trojan client shutdown for pid=" ++
          Text.ofInt (platform.pid i) ++ Text.ofString "."
        details := [("pid", .int (platform.pid i)),
          ("configPath", Json.orNull .str s.controller.adapter.activeConfigPath)] }
    else
      { commandId := s.journal.operationId
        completedAt := s.now
        summary := Text.ofString "Failed to terminate trojan client pid=" ++
          Text.ofInt (platform.pid i) ++ Text.ofString "."
        error := some .killFailed }

def executeDisconnect (activeProfileId : Option Text) (killed : Bool) : ReportingController :=
  let notified := s.notifyIfActive platform
  { notified with
    controller := s.controller.executeDisconnect activeProfileId killed
    journal := { notified.journal with
      result := s.disconnectResult platform killed
      stopRequestedAt := if s.controller.adapter.isRunning && killed then some s.now
        else s.journal.stopRequestedAt } }

def pidSuffix : Text :=
  match s.pid platform with
  | none => []
  | some pid => Text.ofString " (pid=" ++ Text.ofInt pid ++ Text.ofString ")"

def stopRequestedMessage : Text :=
  Text.ofString "Stop requested" ++ s.pidSuffix platform ++
    Text.ofString ". Waiting for the runtime process to exit cleanly."

/-- The event of a disconnect that the adapter has answered. -/
def requestedDisconnect (activeProfileId : Option Text) (message : Text)
    (phase : ClientConnectionPhase) (level : ClientControllerEventLevel) :
    ClientControllerEvent where
  title := "Disconnect requested"
  message := message
  phase := phase
  level := level
  kind := .result
  profileId := activeProfileId
  operationId := some s.journal.operationId
  step := some 1

/-- The adapter has answered the command to disconnect. -/
def disconnectAnswered (activeProfileId : Option Text) (result : ControllerCommandResult) :
    ReportingController :=
  let next : ReportingController := { s with
    controller := s.controller.disconnectAnswered activeProfileId result }
  let report := s.journal.result
  if !result.accepted then
    let code := report.error.map ControllerError.code
    let family := classifyFailureFamily platform code report.summary report.detail
      (Text.ofString "disconnect")
    (((next.recordEvent (s.requestedDisconnect activeProfileId report.summary .error .error)).say
      report.detail (some family)).recordLastRuntimeFailure platform activeProfileId "disconnect"
      "The session could not be disconnected cleanly" report.detail code
      report.summary).awaitingStore
  else if s.controller.adapter.isRunning then
    let message := if s.controller.adapter.disconnectRequested then s.stopRequestedMessage platform
      else report.summary
    ((next.recordEvent (s.requestedDisconnect activeProfileId message .disconnecting .info)).say
      message none).persistRuntimeSnapshot platform
  else
    (((next.recordEvent
      (s.requestedDisconnect activeProfileId report.summary .disconnected .info)).say
      report.summary none).clearLastRuntimeFailure platform).awaitingStore

/-- An operation notifies and returns. The result of a rollback is made only now. -/
def finish (answer : Answer) : ReportingController :=
  let result := s.journal.result
  let notified := s.notifyIfActive platform
  { notified with
    controller := { s.controller.returning answer with operation := none } }.returning
    (if result.error = some ControllerError.routingApplyRolledBack ∨
        result.error = some ControllerError.routingApplyRolledBackQuarantined then
      { result with completedAt := s.now }
    else result)

/-! ## The watcher -/

/-- The watcher says that something is going on, unless it has said so before. -/
def progress (title : String) (message : Text) (phase : ClientConnectionPhase) :
    ReportingController :=
  if s.journal.message = message then s
  else
    ((s.say message none).recordEvent {
      title := title
      message := message
      phase := phase
      kind := .progress
      profileId := s.controller.status.activeProfileId }).persistRuntimeSnapshot platform

def readySummary : Text :=
  match s.pid platform with
  | none => Text.ofString "Runtime session is ready."
  | some pid => Text.ofString "Runtime session is ready. pid=" ++ Text.ofInt pid

def progressSummary : Text :=
  match s.controller.adapter.runtimePhase with
  | .planned => Text.ofString "Launch plan prepared. Writing managed runtime config."
  | .launching => Text.ofString "Managed runtime is launching now."
  | .alive =>
    match s.pid platform with
    | none => Text.ofString "Runtime process is alive. Waiting for session-ready signal."
    | some pid => Text.ofString "Runtime process is alive (pid=" ++ Text.ofInt pid ++
        Text.ofString "). Waiting for session-ready signal."
  | .failed => Text.ofString "Runtime launch reported a failure state."
  | .stopped => Text.ofString "Launch accepted. Waiting for runtime process to start."
  | .sessionReady => Text.ofString "Runtime session is ready."

/-- What the watcher says of a session that is running: `next` is the controller after it
has looked. -/
def watchRunning (next : ReportingController) : ReportingController :=
  match s.controller.status.phase with
  | .connecting =>
    if s.controller.adapter.runtimePhase = .sessionReady then
      ((((next.say (s.readySummary platform) none).recordEvent {
        title := "Runtime session ready"
        message := s.readySummary platform
        phase := .connected
        kind := .progress
        profileId := s.controller.status.activeProfileId }).clearLastRuntimeFailure
        platform).notifyingSoon).persistRuntimeSnapshot platform
    else
      next.progress platform "Runtime launch in progress" (s.progressSummary platform) .connecting
  | .disconnecting =>
    next.progress platform "Runtime stop in progress"
      (if s.controller.adapter.disconnectRequested then s.stopRequestedMessage platform
        else Text.ofString "Disconnect requested. Waiting for the runtime process to exit.")
      .disconnecting
  | .disconnected | .connected | .error => next

/-- The error of the session that has ended, if there is one to speak of. -/
def sessionError : Option Text :=
  let lastError := (s.controller.adapter.lastError.getD []).trim
  if lastError.isEmpty then none else some lastError

/-- The code that the process has exited with, unless it is zero. -/
def abnormalExitCode : Option ℤ :=
  s.controller.adapter.lastExitCode.filter (fun code => code ≠ 0)

/-- What is said of a session that has ended without an error. -/
def cleanSummary : Text :=
  if s.controller.adapter.lastExitCode = some 0 then
    Text.ofString "Runtime session ended cleanly."
  else Text.ofString "Runtime session is no longer running."

/-- The event of a session that has ended. -/
def endedEvent (title : String) (message : Text) (phase : ClientConnectionPhase)
    (level : ClientControllerEventLevel) (profileId : Option Text) : ClientControllerEvent where
  title := title
  message := message
  phase := phase
  level := level
  kind := .result
  profileId := profileId

/-- The watcher finds that a session has failed. -/
def watchFailed (activeProfileId : Option Text) (summary : Text) (headline : String)
    (detail : Text) : ReportingController :=
  ((((s.say summary (some .connect)).recordEvent
    (endedEvent "Runtime session ended" summary .error .error
      activeProfileId)).recordLastRuntimeFailure platform activeProfileId "runtime" headline detail
    none summary).notifyingSoon).persistRuntimeSnapshot platform

/-- The watcher finds that a session has ended, and not failed. -/
def watchDone (title : String) (summary : Text) (level : ClientControllerEventLevel) :
    ReportingController :=
  ((((s.say summary none).recordEvent
    (endedEvent title summary .disconnected level none)).clearLastRuntimeFailure
    platform).notifyingSoon).persistRuntimeSnapshot platform

/-- What is said of a session that has ended after it was to be disconnected. -/
def disconnectedSummary : Text :=
  match s.sessionError, s.abnormalExitCode with
  | some lastError, _ =>
    Text.ofString "Runtime session ended after disconnect request (last runtime detail: " ++
      lastError ++ Text.ofString ")."
  | none, some code =>
    Text.ofString "Runtime session ended after disconnect request (exit code " ++
      Text.ofInt code ++ Text.ofString ")."
  | none, none => s.cleanSummary

/-- What the watcher says of a session that is not running any more. -/
def watchEnded (next : ReportingController) : ReportingController :=
  match s.controller.status.phase with
  | .disconnecting =>
    next.watchDone platform "Disconnect completed" s.disconnectedSummary
      (if s.sessionError.isSome || s.abnormalExitCode.isSome then .warning else .info)
  | .connected | .connecting =>
    match s.sessionError, s.abnormalExitCode with
    | some lastError, _ =>
      next.watchFailed platform s.controller.status.activeProfileId
        (Text.ofString "Runtime session stopped with error: " ++ lastError)
        "The runtime session stopped unexpectedly" lastError
    | none, some code =>
      next.watchFailed platform s.controller.status.activeProfileId
        (Text.ofString "Runtime session exited with code " ++ Text.ofInt code ++
          Text.ofString ".")
        "The runtime session exited unexpectedly"
        (Text.ofString "Exit code " ++ Text.ofInt code)
    | none, none =>
      next.watchDone platform "Runtime session ended" s.cleanSummary .warning
  | .disconnected | .error => next

def reconcileStatusWithSession : ReportingController :=
  let next : ReportingController := { s with controller := s.controller.watch }
  if s.controller.adapter.isRunning then s.watchRunning platform next
  else s.watchEnded platform next

def watch : ReportingController :=
  if s.controller.lastSessionUpdatedAt = s.controller.adapter.sessionUpdatedAt then s
  else (s.reconcileStatusWithSession platform).notifyIfActive platform

/-! ## What the platform does -/

/-- What the result of a launch has to say of it. -/
def launchDetails (launch : LaunchReport) : List (String × Json) :=
  [("launchPlan", launch.plan.toJson),
    ("runtimePhase", .str (Text.ofString s.controller.adapter.runtimePhase.name)),
    ("configPath", .str launch.configPath),
    ("configProvenance", Json.orNull .str s.journal.configProvenance),
    ("expectedLocalSocksPort", Json.orNull .int s.controller.adapter.expectedLocalSocksPort),
    ("configPreview", .str launch.configPreview)]

def startedResult (i : ℕ) (launch : LaunchReport) : CommandReport where
  commandId := launch.operationId
  completedAt := s.now
  summary := Text.ofString "Started trojan client process pid=" ++ Text.ofInt (platform.pid i) ++
    Text.ofString " using " ++ launch.plan.binaryPath ++ Text.ofString "."
  details := ("pid", .int (platform.pid i)) :: s.launchDetails launch

def failedResult (launch : LaunchReport) (error : Text) : CommandReport where
  commandId := launch.operationId
  completedAt := s.now
  summary := Text.ofString "Failed to execute trojan client launch plan."
  error := some (.exception error)
  details := s.launchDetails launch

/-- The task of a launch has come to its end, if it has. -/
def completeLaunch (i : ℕ) : ReportingController :=
  match s.controller.adapter.launches[i]?.map Launch.stage, s.journal.launchReports[i]? with
  | some .started, some launch =>
    { s with journal := { s.journal with
        launchReports := s.journal.launchReports.set i
          { launch with report := s.startedResult platform i launch } } }
  | some (.failed error), some launch =>
    { s with journal := { s.journal with
        launchReports := s.journal.launchReports.set i
          { launch with report := s.failedResult launch error } } }
  | _, _ => s

/-- The result of a launch. -/
def launchResult (launch : ℕ) : CommandReport :=
  (s.journal.launchReports[launch]?.map LaunchReport.report).getD s.journal.result

/-- An event of the platform, apart from what is logged. -/
def runtimeStep (event : RuntimeEvent) : Option ReportingController :=
  (s.controller.adapter.runtimeStep platform.toRuntimePlatform event).map (fun adapter =>
    let next : ReportingController := { s with
      controller := { s.controller with adapter := adapter } }
    match event with
    | .launchContinued i _ => next.completeLaunch platform i
    | .exitHandled i =>
      if s.controller.adapter.runningProcess = some i then
        { next with journal := { s.journal with stopRequestedAt := none } }
      else next
    | .clock _ | .logged | .processExited _ _ | .cleanupContinued _ _ | .probeCompleted _ _
    | .promotionWoke _ => next)

/-- The process writes to one of its outputs. -/
def log (toStderr : Bool) (chunk : Text) : ReportingController :=
  let appended := Journal.appendLogLines
    (if toStderr then s.journal.stderrTail else s.journal.stdoutTail) chunk
  { s with
    controller :=
      if appended.2 then
        { s.controller with adapter := s.controller.adapter.markSessionUpdated }
      else s.controller
    journal := { s.journal with
      stdoutTail := if toStderr then s.journal.stdoutTail else appended.1
      stderrTail := if toStderr then appended.1 else s.journal.stderrTail } }

/-! ## All steps -/

/-- The adapter answers the command that an operation waits for. -/
def continueAnswered : Operation → Option ReportingController
  | .launching profile launch =>
    s.controller.adapter.launches[launch]?.bind (fun l =>
      match l.stage with
      | .started => some (s.acceptConnect platform profile launch (s.launchResult launch))
      | .failed error =>
        some (s.refuseConnect platform profile (.exception error) (s.launchResult launch))
      | _ => none)
  | .refused profile error => some (s.refuseConnect platform profile error s.journal.result)
  | .rollingBack profile launch quarantined reason fallback =>
    if s.controller.answeredLaunch fallback then
      some (s.rolledBack platform profile launch quarantined reason)
    else none
  | .disconnectAnswered activeProfileId result =>
    some (s.disconnectAnswered platform activeProfileId result)
  | _ => none

/-- A step of the controller. Of a mini smoke and of what is logged more is to be said
than that it happens. -/
def controllerStep : ControllerEvent → Option ReportingController
  | .connect profile => some (s.connect platform profile)
  | .disconnect => some (s.disconnect platform)
  | .passwordRead password =>
    match s.controller.operation with
    | some (.readingPassword profile) => some (s.continuePassword platform profile password)
    | _ => none
  | .adapterAnswered => s.controller.operation.bind (s.continueAnswered platform)
  | .smokeCompleted _ => none
  | .stateStored succeeded =>
    s.controller.operation.bind (fun operation =>
      (AdapterBackedClientController.storing operation).map (fun written =>
        s.continueStored platform operation written.1 written.2 succeeded))
  | .disconnectRequested killed =>
    match s.controller.operation with
    | some (.disconnecting activeProfileId) =>
      some (s.executeDisconnect platform activeProfileId killed)
    | _ => none
  | .finished =>
    match s.controller.operation with
    | some (.finishing answer) => if s.snapshotDue then none else some (s.finish platform answer)
    | _ => none
  | .watcherTick => if s.disposed then none else some (s.watch platform)
  | .runtime .logged => none
  | .runtime event => s.runtimeStep platform event

def step : ReportingEvent → Option ReportingController
  | .controller event => s.controllerStep platform event
  | .logged toStderr chunk => some (s.log toStderr chunk)
  | .smokeCompleted smoke =>
    match s.controller.operation with
    | some (.smoking profile launch) => some (s.continueSmoke platform profile launch smoke)
    | _ => none
  | .recordStored =>
    match s.controller.operation with
    | some (.finishing _) =>
      if s.snapshotDue then
        some ({ s with snapshotDue := false }.persistRuntimeSnapshot platform)
      else none
    | _ => none
  | .notified =>
    if s.pendingNotifications = 0 then none
    else
      some ({ s with
        pendingNotifications := s.pendingNotifications - 1 }.notifyIfActive platform)
  | .dispose => some { s with disposed := true }

/-- A controller that has just been started, with what an earlier one has left in the
store. -/
def restarted (adapter : RealShellControllerAdapter) (stored : Option Json)
    (lastRuntimeFailure : Option LastRuntimeFailureSummary) : ReportingController where
  controller := AdapterBackedClientController.restarted adapter stored
  journal := {
    message := Text.ofString "Disconnected"
    statusUpdatedAt := adapter.now
    events := [{
      id := Text.ofString "boot"
      timestamp := adapter.now
      title := "Client shell ready"
      message := Text.ofString "Adapter-backed controller boundary initialized."
      phase := .disconnected
      kind := .lifecycle }] }
  lastRuntimeFailure := lastRuntimeFailure

/-! ## Events to begin with -/

/-- A connect, up to its mini smoke. -/
def connectEvents (id : String) (launch : ℕ) : List ReportingEvent :=
  (AdapterBackedClientController.connectEvents id launch).map .controller

def runtimeTrueRecord : RoutingProbeEvidenceRecord where
  scenarioId := Text.ofString "rule-direct"
  platform := .linux
  phase := .observe
  decisionAction := .direct
  observedResult := .direct
  errorType := .none
  errorDetail := []
  fallbackApplied := false
  runtimePosture := .runtimeTrue
  timestamp := 0
  explain := some (Text.ofString "linux probe runtime adapter executed for rule-direct")

def passedSmoke : RoutingMiniSmoke where
  passed := true
  reason := Text.ofString "Mini smoke passed for all routing scenarios."
  evidence := [runtimeTrueRecord]

/-- A connect that succeeds. -/
def goodConnectEvents (id : String) (launch : ℕ) : List ReportingEvent :=
  connectEvents id launch ++ [.smokeCompleted (some passedSmoke), .controller (.stateStored true),
    .recordStored, .controller .finished]

/-- The process of a launch exits with a code, a moment later. -/
def exitEvents (launch : ℕ) (now code : ℤ) : List ReportingEvent :=
  [.controller (.runtime (.clock now)), .controller (.runtime (.processExited launch code)),
    .controller (.runtime (.exitHandled launch))]

/-- A controller that finds nothing in the store, and no files. -/
abbrev sampleStart : ReportingController := restarted (.initial 0 (fun _ => none)) none none

end ReportingController

/-- A platform without a store. -/
def ReportPlatform.sample : ReportPlatform where
  toRuntimePlatform := .sample
  jsonEncode _ := []
  toIso8601String := ProfilePlatform.sampleWriter.toIso8601String
  toUpperCase := List.map (fun unit => if 0x61 ≤ unit ∧ unit ≤ 0x7A then unit - 0x20 else unit)
  preferredBinaryPath _ := Text.ofString "trojan"
  pid launch := 4000 + launch
  hasStore := false
