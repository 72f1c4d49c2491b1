import Trojan.Client.AdapterBackedClientController

/-!
# What the controller has to say

Besides doing things, the controller says what it does: in the message of its status,
in the results of the commands, in a short history of events, in a summary of the last
failure, and in the metrics that are taken each time its listeners are notified. This
module has the texts and the values of all that (`client/lib/features/controller/domain`,
`analytics` and `routing/testing`); `ReportingController` says when which of them is
given.

A failure belongs to a *family*, found from its error code, else from the phase it
happened in, else from what its texts contain. A metric says of a connected profile that
its session is *runtime true* if the evidence of the last mini smoke begins with a record
that is.
-/

namespace Text

/-- The text has the literal somewhere in it. -/
def hasPart (t : Text) (part : String) : Bool := decide (ofString part <:+: t)

def ofInt (n : ℤ) : Text := ofString (toString n)

end Text

/-- A value that may be absent, which is null then. -/
def Json.orNull {α : Type} (f : α → Json) (value : Option α) : Json := (value.map f).getD .null

/-- What reporting uses of the platform. -/
structure ReportPlatform extends RuntimePlatform where
  jsonEncode : Json → Text
  toIso8601String : DateTime → Text
  toUpperCase : Text → Text
  /-- The trojan binary that is found at a time. -/
  preferredBinaryPath : ℤ → Text
  /-- The id of the process of each launch. -/
  pid : ℕ → ℤ
  /-- Whether the controller has a store. -/
  hasStore : Bool

/-- The text of a time on the clock of the device. -/
def ReportPlatform.iso (platform : ReportPlatform) (time : ℤ) : Text :=
  platform.toIso8601String ⟨time, false⟩

/-! ## Names -/

def ClientConnectionPhase.name : ClientConnectionPhase → String
  | .disconnected => "disconnected"
  | .connecting => "connecting"
  | .connected => "connected"
  | .disconnecting => "disconnecting"
  | .error => "error"

def ControllerRuntimePhase.name : ControllerRuntimePhase → String
  | .stopped => "stopped"
  | .planned => "planned"
  | .launching => "launching"
  | .alive => "alive"
  | .sessionReady => "sessionReady"
  | .failed => "failed"

/-- The error as it is reported. -/
def ControllerError.code : ControllerError → Text
  | .operationInProgress => Text.ofString "OPERATION_IN_PROGRESS"
  | .routingQuarantined => Text.ofString "ROUTING_QUARANTINED"
  | .missingTrojanPassword => Text.ofString "MISSING_TROJAN_PASSWORD"
  | .missingConnectInputs => Text.ofString "MISSING_CONNECT_INPUTS"
  | .processAlreadyRunning => Text.ofString "PROCESS_ALREADY_RUNNING"
  | .noRunningProcess => Text.ofString "NO_RUNNING_PROCESS"
  | .killFailed => Text.ofString "KILL_FAILED"
  | .routingApplyRolledBack => Text.ofString "ROUTING_APPLY_ROLLED_BACK"
  | .routingApplyRolledBackQuarantined => Text.ofString "ROUTING_APPLY_ROLLED_BACK_QUARANTINED"
  | .runtimeSessionError => Text.ofString "RUNTIME_SESSION_ERROR"
  | .runtimeSessionExitNonzero => Text.ofString "RUNTIME_SESSION_EXIT_NONZERO"
  | .exception message => message

/-! ## Failures (`failure_family.dart`) -/

inductive FailureFamily where
  | launch
  | config
  | environment
  | connect
  | userInput
  | exportOs
  | unknown
  deriving DecidableEq, Repr

namespace FailureFamily

def label : FailureFamily → String
  | .launch => "launch"
  | .config => "config"
  | .environment => "environment"
  | .connect => "connect"
  | .userInput => "user_input"
  | .exportOs => "export_os"
  | .unknown => "unknown"

/-- The family of an error code, if it tells. -/
def fromErrorCode (value : Text) : Option FailureFamily :=
  if value.isEmpty then none
  else if value = Text.ofString "MISSING_TROJAN_PASSWORD" ||
      value = Text.ofString "MISSING_CONNECT_INPUTS" || value.hasPart "PASSWORD" then
    some .userInput
  else if value = Text.ofString "UNSUPPORTED" || value.hasPart "UNAVAILABLE" ||
      value.hasPart "ENV" || value.hasPart "BINARY" || value.hasPart "PATH" then
    some .environment
  else if value.hasPart "CONFIG" then some .config
  else if value.hasPart "EXPORT" || value.hasPart "PERMISSION" || value.hasPart "FILESYSTEM" then
    some .exportOs
  else if Text.ofString "RUNTIME_" <+: value || value.hasPart "SESSION" ||
      value.hasPart "CONNECT" || value.hasPart "ROUTING" then
    some .connect
  else if value.hasPart "PROCESS" || value.hasPart "LAUNCH" || value.hasPart "KILL" ||
      value.hasPart "OPERATION_IN_PROGRESS" || value.hasPart "NO_RUNNING_PROCESS" then
    some .launch
  else none

/-- The family of a phase, if it tells. -/
def fromPhase (phase : Text) : Option FailureFamily :=
  if phase = Text.ofString "user_input" || phase = Text.ofString "input" then some .userInput
  else if phase = Text.ofString "config" || phase = Text.ofString "configuration" then
    some .config
  else if phase = Text.ofString "environment" then some .environment
  else if phase = Text.ofString "export" || phase = Text.ofString "export_os" then
    some .exportOs
  else if phase = Text.ofString "runtime" || phase = Text.ofString "connect" then some .connect
  else if phase = Text.ofString "launch" then some .launch
  else none

/-- The family of the texts of a failure. -/
def fromTexts (combined : Text) : FailureFamily :=
  let containsAny (needles : List String) : Bool := needles.any combined.hasPart
  if containsAny ["missing_trojan_password", "no trojan password"] then .userInput
  else if containsAny ["permission denied", "could not be written", "diagnostics export failed",
      "export failed"] then .exportOs
  else if containsAny ["unsupported", "does not expose runtime diagnostics",
      "does not expose export preparation", "cannot provide that runtime evidence"] then
    .environment
  else if containsAny ["config invalid", "invalid config",
      "could not prepare a valid runtime configuration",
      "could not prepare a valid launch configuration", "config preparation failed"] then .config
  else if containsAny ["runtime session exited with code", "runtime session stopped with error",
      "runtime session ended unexpectedly", "connect path failed after launch"] then .connect
  else if containsAny ["failed to execute trojan client launch plan", "launch request rejected",
      "the connection could not start"] then .launch
  else .unknown

end FailureFamily

def classifyFailureFamily (platform : ReportPlatform) (errorCode : Option Text)
    (summary detail phase : Text) : FailureFamily :=
  let code := platform.toUpperCase (errorCode.getD []).trim
  let space := Text.ofString " "
  let combined := platform.toLowerCase
    (summary ++ space ++ detail ++ space ++ errorCode.getD []).trim
  ((FailureFamily.fromErrorCode code).or
    (FailureFamily.fromPhase (platform.toLowerCase phase.trim))).getD
      (FailureFamily.fromTexts combined)

structure LastRuntimeFailureSummary where
  profileId : Option Text
  phase : Text
  family : FailureFamily
  headline : Text
  detail : Text
  recordedAt : ℤ
  deriving DecidableEq, Repr

def LastRuntimeFailureSummary.toJson (platform : ReportPlatform)
    (failure : LastRuntimeFailureSummary) : Json :=
  .obj [("profileId", Json.orNull .str failure.profileId),
    ("phase", .str failure.phase),
    ("family", .str (Text.ofString failure.family.label)),
    ("headline", .str failure.headline),
    ("detail", .str failure.detail),
    ("recordedAt", .str (platform.iso failure.recordedAt))]

/-! ## Results and events -/

/-- The result of a command, with all that it says. -/
structure CommandReport where
  commandId : Text
  completedAt : ℤ
  summary : Text
  error : Option ControllerError := none
  details : List (String × Json) := []

/-- A command is accepted if there is no error. -/
def CommandReport.accepted (report : CommandReport) : Bool := report.error.isNone

/-- What is said of a failure: its error, or else its summary. -/
def CommandReport.detail (report : CommandReport) : Text :=
  (report.error.map ControllerError.code).getD report.summary

inductive ClientControllerEventLevel where
  | info
  | warning
  | error
  deriving DecidableEq, Repr

def ClientControllerEventLevel.name : ClientControllerEventLevel → String
  | .info => "info"
  | .warning => "warning"
  | .error => "error"

inductive ClientControllerEventKind where
  | lifecycle
  | action
  | progress
  | result
  deriving DecidableEq, Repr

def ClientControllerEventKind.name : ClientControllerEventKind → String
  | .lifecycle => "lifecycle"
  | .action => "action"
  | .progress => "progress"
  | .result => "result"

/-- An event of the history. It gets its id and its time when it is recorded. -/
structure ClientControllerEvent where
  id : Text := []
  timestamp : ℤ := 0
  title : String
  message : Text
  phase : ClientConnectionPhase
  level : ClientControllerEventLevel := .info
  kind : ClientControllerEventKind := .lifecycle
  profileId : Option Text := none
  operationId : Option Text := none
  step : Option ℕ := none
  rollbackReason : Option Text := none
  quarantineKey : Option Text := none
  deriving DecidableEq, Repr

structure ControllerLaunchPlan where
  binaryPath : Text
  configPath : Text
  arguments : List Text
  summary : Text
  deriving DecidableEq, Repr

namespace ControllerLaunchPlan

def toJson (plan : ControllerLaunchPlan) : Json :=
  .obj [("binaryPath", .str plan.binaryPath),
    ("configPath", .str plan.configPath),
    ("arguments", .arr (plan.arguments.map .str)),
    ("summary", .str plan.summary)]

/-- The plan of a connect (`real_shell_runtime_planner.dart`). -/
def buildConnectPlan (platform : ReportPlatform) (now : ℤ) (profile : ClientProfile)
    (configPath : Text) : ControllerLaunchPlan :=
  let binaryPath := platform.preferredBinaryPath now
  { binaryPath := binaryPath
    configPath := configPath
    arguments := [Text.ofString "-c", configPath]
    summary := Text.ofString "Launch trojan client for " ++ profile.name ++
      Text.ofString " via " ++ binaryPath ++ Text.ofString " using config " ++ configPath }

end ControllerLaunchPlan

/-! ## The evidence of a mini smoke (`routing_probe_models.dart`) -/

inductive RoutingProbePlatform where
  | linux
  | windows
  | macos
  deriving DecidableEq, Repr

def RoutingProbePlatform.name : RoutingProbePlatform → String
  | .linux => "linux"
  | .windows => "windows"
  | .macos => "macos"

inductive RoutingProbePhase where
  | connect
  | probe
  | decision
  | observe
  | export
  deriving DecidableEq, Repr

def RoutingProbePhase.name : RoutingProbePhase → String
  | .connect => "connect"
  | .probe => "probe"
  | .decision => "decision"
  | .observe => "observe"
  | .export => "export"

inductive RoutingProbeAction where
  | proxy
  | direct
  | block
  deriving DecidableEq, Repr

def RoutingProbeAction.name : RoutingProbeAction → String
  | .proxy => "proxy"
  | .direct => "direct"
  | .block => "block"

inductive RoutingProbeObservedResult where
  | proxy
  | direct
  | blocked
  | unknown
  deriving DecidableEq, Repr

def RoutingProbeObservedResult.name : RoutingProbeObservedResult → String
  | .proxy => "proxy"
  | .direct => "direct"
  | .blocked => "blocked"
  | .unknown => "unknown"

inductive RoutingProbeRuntimePosture where
  | runtimeTrue
  | fallbackStub
  | explicitStub
  | nonDesktopStub
  | unknown
  deriving DecidableEq, Repr

def RoutingProbeRuntimePosture.name : RoutingProbeRuntimePosture → String
  | .runtimeTrue => "runtimeTrue"
  | .fallbackStub => "fallbackStub"
  | .explicitStub => "explicitStub"
  | .nonDesktopStub => "nonDesktopStub"
  | .unknown => "unknown"

inductive RoutingProbeErrorType where
  | none
  | controllerFailure
  | probeExecutionFailure
  | decisionMismatch
  | observationMismatch
  | platformCapabilityGap
  | exportFailure
  deriving DecidableEq, Repr

def RoutingProbeErrorType.name : RoutingProbeErrorType → String
  | .none => "none"
  | .controllerFailure => "controllerFailure"
  | .probeExecutionFailure => "probeExecutionFailure"
  | .decisionMismatch => "decisionMismatch"
  | .observationMismatch => "observationMismatch"
  | .platformCapabilityGap => "platformCapabilityGap"
  | .exportFailure => "exportFailure"

structure RoutingProbeEvidenceRecord where
  scenarioId : Text
  platform : RoutingProbePlatform
  phase : RoutingProbePhase
  decisionAction : RoutingProbeAction
  observedResult : RoutingProbeObservedResult
  errorType : RoutingProbeErrorType
  errorDetail : Text
  fallbackApplied : Bool
  runtimePosture : RoutingProbeRuntimePosture
  timestamp : ℤ
  matchedRuleId : Option Text := none
  policyGroupId : Option Text := none
  explain : Option Text := none
  deriving DecidableEq, Repr

namespace RoutingProbeEvidenceRecord

def isRuntimeTrueDataplane (record : RoutingProbeEvidenceRecord) : Bool :=
  decide (record.runtimePosture = .runtimeTrue)

/-- Why a record fails, if it does (`RoutingProbeVerdictService.evaluateSingle`). -/
def evaluateSingle (record : RoutingProbeEvidenceRecord) : Option Text :=
  if !record.isRuntimeTrueDataplane then
    some (Text.ofString "runtime posture mismatch: " ++ Text.ofString record.platform.name ++
      Text.ofString " reported " ++ Text.ofString record.runtimePosture.name)
  else
    match record.errorType with
    | .none => none
    | .controllerFailure | .probeExecutionFailure | .decisionMismatch | .observationMismatch
    | .platformCapabilityGap | .exportFailure => some record.errorDetail

end RoutingProbeEvidenceRecord

/-- What a mini smoke gives, with its evidence. -/
structure RoutingMiniSmoke extends RoutingMiniSmokeResult where
  evidence : List RoutingProbeEvidenceRecord
  deriving DecidableEq, Repr

/-- A mini smoke has passed only if each of its records passes once more. -/
def RoutingMiniSmoke.verdict (smoke : RoutingMiniSmoke) : RoutingMiniSmokeResult :=
  if smoke.passed then
    match smoke.evidence.findSome? RoutingProbeEvidenceRecord.evaluateSingle with
    | some reason => ⟨false, reason⟩
    | none => smoke.toRoutingMiniSmokeResult
  else smoke.toRoutingMiniSmokeResult

/-! ## Metrics (`ux_metric_event_mapper.dart`) -/

inductive UxEventName where
  | firstConnectAttempted
  | runtimeSessionReadyRuntimeTrue
  | connectFailed (family : FailureFamily)
  | recoverySuggested
  deriving DecidableEq, Repr

structure UxEvent where
  userId : Text
  sessionId : Text
  name : UxEventName
  time : ℤ
  fields : List (String × String)
  deriving DecidableEq, Repr

def normalizeRuntimePosture : RoutingProbeRuntimePosture → String
  | .runtimeTrue => "runtime_true"
  | .fallbackStub => "fallback"
  | .explicitStub | .nonDesktopStub => "stub"
  | .unknown => "unknown"

def fromConnectionSnapshot (userId sessionId : Text) (phase : ClientConnectionPhase)
    (runtimePosture : RoutingProbeRuntimePosture) (failureFamily : Option FailureFamily)
    (time : ℤ) : List UxEvent :=
  match phase with
  | .connecting =>
    [{ userId, sessionId, time
       name := .firstConnectAttempted
       fields := [("runtimePosture", normalizeRuntimePosture runtimePosture)] }]
  | .connected =>
    if runtimePosture = .runtimeTrue then
      [{ userId, sessionId, time
         name := .runtimeSessionReadyRuntimeTrue
         fields := [("runtimePosture", "runtime_true")] }]
    else []
  | .error =>
    match failureFamily with
    | none => []
    | some family =>
      [{ userId, sessionId, time
         name := .connectFailed family
         fields := [("runtimePosture", normalizeRuntimePosture runtimePosture),
           ("failureFamily", family.label)] },
       { userId, sessionId, time
         name := .recoverySuggested
         fields := [("failureFamily", family.label)] }]
  | .disconnected | .disconnecting => []

/-- **What counts a session as runtime true**: a connected status, and a runtime true
posture. -/
theorem mem_fromConnectionSnapshot {userId sessionId : Text} {phase : ClientConnectionPhase}
    {runtimePosture : RoutingProbeRuntimePosture} {failureFamily : Option FailureFamily} {time : ℤ}
    {event : UxEvent}
    (h : event ∈ fromConnectionSnapshot userId sessionId phase runtimePosture failureFamily time)
    (hname : event.name = .runtimeSessionReadyRuntimeTrue) :
    phase = .connected ∧ runtimePosture = .runtimeTrue ∧ event.userId = userId := by
  cases phase with
  | connecting =>
    obtain rfl := List.mem_singleton.mp h
    exact nomatch hname
  | connected =>
    simp only [fromConnectionSnapshot] at h
    split at h
    · obtain rfl := List.mem_singleton.mp h
      exact ⟨rfl, ‹_›, rfl⟩
    · exact nomatch h
  | error =>
    cases failureFamily with
    | none => exact nomatch h
    | some family =>
      simp only [fromConnectionSnapshot, List.mem_cons, List.not_mem_nil, or_false] at h
      rcases h with rfl | rfl
      · exact nomatch hname
      · exact nomatch hname
  | disconnected | disconnecting => exact nomatch h
