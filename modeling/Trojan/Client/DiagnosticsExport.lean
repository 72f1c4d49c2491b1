import Trojan.Client.ReadinessReport
import Trojan.Client.ReportingController

/-!
# Bundles for the support

`DiagnosticsExportService` (`client/lib/features/diagnostics/application`) puts all that
the client has to say into one JSON text: what the controller says of itself, what the
adapter says of the runtime, the readiness report, and what the rest of the client has to
add. It waits several times while it does so, and the controller goes on meanwhile.

A request is a task, and what is kept of it is the list of what it still waits for. The
first thing on the list has been begun, and is there when the platform says so. Single
health checks, diagnostics and readiness reports are requests as well: the pages of the
client ask for them.

What the rest of the client says – its profiles, its settings, the release and the last
error of the application – may change at any time, and is taken as it is. The records of
routing evidence that the service could be given when it is made are left out: it is given
none.
-/

/-- The rest of the client, as far as it goes into a bundle. -/
structure Surroundings where
  selectedProfile : Option ClientProfile
  profiles : List ClientProfile
  secureStorage : SecureStorageStatus
  settings : Json
  lastUnhandledError : Json
  releaseManifest : Json
  updateMetadata : Json

inductive BundleKind where
  | supportBundle
  | runtimeProofArtifact
  deriving DecidableEq, Repr

def BundleKind.name : BundleKind → String
  | .supportBundle => "support-bundle"
  | .runtimeProofArtifact => "runtime-proof-artifact"

/-- What the diagnostics are asked for. -/
inductive DiagnosticsRequest where
  | checkHealth
  | collectDiagnostics (bundleKind : Text)
  | prepareExport (bundleKind : Text)
  | buildReport
  | buildBundle (bundleKind : BundleKind)
  deriving DecidableEq, Repr

/-- What a task may wait for. -/
inductive DiagnosticsStep where
  | listKeys
  | checkHealth
  | collectDiagnostics
  | prepareExport
  | checkPassword
  | checkRuntimeBinary
  | checkFilesystem
  | persistReport
  deriving DecidableEq, Repr

namespace DiagnosticsRequest

def reportSteps : List DiagnosticsStep :=
  [.checkPassword, .checkRuntimeBinary, .checkFilesystem, .persistReport]

def steps : DiagnosticsRequest → List DiagnosticsStep
  | .checkHealth => [.checkHealth]
  | .collectDiagnostics _ => [.collectDiagnostics]
  | .prepareExport _ => [.prepareExport]
  | .buildReport => reportSteps
  | .buildBundle _ =>
    [.listKeys, .checkHealth, .collectDiagnostics, .prepareExport] ++ reportSteps

/-- The kind of bundle that a request is made for, if it is. -/
def bundleKind : DiagnosticsRequest → Option Text
  | .collectDiagnostics bundleKind | .prepareExport bundleKind => some bundleKind
  | .buildBundle bundleKind => some (Text.ofString bundleKind.name)
  | .checkHealth | .buildReport => none

end DiagnosticsRequest

/-- A health check that knows its answer, or one that runs a binary. -/
inductive HealthCheck where
  | known (health : ControllerRuntimeHealth)
  | probing (binaryPath : Text)
  deriving DecidableEq, Repr

/-- How a run of a binary ends. -/
inductive ProbeOutcome where
  | exited (code : ℤ)
  | failed (error : Text)
  deriving DecidableEq, Repr

/-- What a task waits for is there. What may throw an exception has `none` for it. -/
inductive DiagnosticsOutcome where
  | keysListed (keys : Option (List Text))
  | healthChecked (probe : Option ProbeOutcome)
  | passwordRead (password : Option (Option Text))
  /-- There is no profile whose password could be read. -/
  | passwordSkipped
  | filesystemTried (error : Option Text)
  | reportStored (succeeded : Bool)

/-- What a task gives. -/
inductive DiagnosticsOutput where
  | threw
  | health (health : ControllerRuntimeHealth)
  | result (result : CommandReport)
  | report (report : ReadinessReport)
  | text (text : Text)

/-- A task, and what it has found so far. -/
structure DiagnosticsTask where
  request : DiagnosticsRequest
  selected : Option ClientProfile
  steps : List DiagnosticsStep
  check : HealthCheck := .probing []
  commandId : Text := []
  keys : List Text := []
  health : ControllerRuntimeHealth := ⟨.unavailable, [], 0⟩
  collected : CommandReport := { commandId := [], completedAt := 0, summary := [] }
  prepared : CommandReport := { commandId := [], completedAt := 0, summary := [] }
  /-- The profile that the readiness report is about. -/
  reportProfile : Option ClientProfile := none
  checks : List ReadinessCheck := []
  generatedAt : ℤ := 0
  output : Option DiagnosticsOutput := none

/-- The client: its controller, the rest of it, and the tasks of the diagnostics. -/
structure DiagnosticsClient where
  reporting : ReportingController
  surroundings : Surroundings
  /-- The last run of a binary, and its time. -/
  lastProbe : Option (ControllerRuntimeHealth × ℤ) := none
  tasks : List DiagnosticsTask := []

inductive DiagnosticsEvent where
  | reporting (event : ReportingEvent)
  | surroundingsChanged (surroundings : Surroundings)
  | requested (request : DiagnosticsRequest)
  | continued (task : ℕ) (outcome : DiagnosticsOutcome)

/-! ## The session (`controller_runtime_session.dart`) -/

inductive ControllerRuntimeSessionTruth where
  | stopped
  | stopping
  | live
  | aging
  | stale
  | residual
  deriving DecidableEq, Repr

namespace ControllerRuntimeSessionTruth

def label : ControllerRuntimeSessionTruth → String
  | .stopped => "Stopped"
  | .stopping => "Stopping"
  | .live => "Live"
  | .aging => "Aging"
  | .stale => "Stale"
  | .residual => "Residual snapshot"

def needsAttention : ControllerRuntimeSessionTruth → Bool
  | .live | .stopped => false
  | .stopping | .aging | .stale | .residual => true

def truthNote : ControllerRuntimeSessionTruth → String
  | .stopped => "No managed runtime session is active right now."
  | .stopping => "A stop request is in flight; wait for exit confirmation before trusting the " ++
      "session as closed."
  | .live => "The managed runtime session looks current and recently refreshed."
  | .aging => "The managed runtime session still looks alive, but its snapshot is getting older."
  | .stale => "The managed runtime session snapshot looks stale and should be revalidated " ++
      "before trusting it."
  | .residual => "The shell still has a non-stopped session record even though no runtime is " ++
      "marked as running. Treat this as residual state until recovery clears it."

def recoveryGuidance : ControllerRuntimeSessionTruth → String
  | .stopped => "No recovery action is needed until you start a new runtime session."
  | .stopping => "Wait for exit confirmation before reconnecting or assuming cleanup has finished."
  | .live => "No recovery action is needed while the runtime keeps refreshing normally."
  | .aging => "If this state keeps aging, open Troubleshooting and confirm the runtime is still " ++
      "refreshing before treating it as fully live."
  | .stale => "Open Troubleshooting to revalidate the runtime. If the snapshot stays stale, " ++
      "disconnect and reconnect so the next session starts from clean evidence."
  | .residual => "Treat this as leftover session state. Open Troubleshooting for recent " ++
      "evidence, then retry from Profiles so the next session starts cleanly."

end ControllerRuntimeSessionTruth

namespace ReportingController

variable (platform : DiagnosticsPlatform) (s : ReportingController)

def sessionTruth : ControllerRuntimeSessionTruth :=
  let a := s.controller.adapter
  let age := max 0 (a.now - a.sessionUpdatedAt)
  if a.disconnectRequested then .stopping
  else if !a.isRunning && decide (a.runtimePhase = .stopped) then .stopped
  else if !a.isRunning then .residual
  else if 120 * 1000000 ≤ age then .stale
  else if 30 * 1000000 ≤ age then .aging
  else .live

def sessionFields : List (String × Json) :=
  let a := s.controller.adapter
  [("isRunning", .bool a.isRunning),
    ("updatedAt", .str (platform.iso a.sessionUpdatedAt)),
    ("phase", .lit a.runtimePhase.name),
    ("stopRequested", .bool a.disconnectRequested),
    ("stopRequestedAt",
      Json.orNull (fun time => .str (platform.iso time)) s.journal.stopRequestedAt),
    ("pid", Json.orNull .int (s.pid platform.toReportPlatform)),
    ("activeConfigPath", Json.orNull .str a.activeConfigPath),
    ("configProvenance", Json.orNull .str s.journal.configProvenance),
    ("expectedLocalSocksPort", Json.orNull .int a.expectedLocalSocksPort),
    ("launchPlan", Json.orNull ControllerLaunchPlan.toJson s.journal.lastLaunchPlan),
    ("lastExitCode", Json.orNull .int a.lastExitCode),
    ("lastError", Json.orNull .str a.lastError),
    ("stdoutTail", .arr (s.journal.stdoutTail.map .str)),
    ("stderrTail", .arr (s.journal.stderrTail.map .str))]

/-! ## What the adapter says of the runtime -/

/-- What a result has to say of the runtime. -/
def runtimeEvidenceDetails (bundleKind : Option Text) (health : ControllerRuntimeHealth)
    (safeToExport : Bool) : List (String × Json) :=
  let a := s.controller.adapter
  Json.optional "bundleKind" (bundleKind.map .str) ++
    [("evidenceClass", .lit (if a.isRunning then "runtime-live-evidence"
        else "runtime-snapshot-evidence")),
      ("backendKind", .str platform.backendKind),
      ("backendVersion", .str platform.backendVersion),
      ("binaryPathHint", .str platform.binaryPathHint),
      ("transportEndpointHint", .str platform.transportEndpointHint),
      ("runtimeMode", .str platform.runtimeMode),
      ("runtimePhase", .lit a.runtimePhase.name),
      ("health", health.toJson platform.toReportPlatform),
      ("session", .obj (s.sessionFields platform))] ++
    Json.optional "launchPlan" (s.journal.lastLaunchPlan.map ControllerLaunchPlan.toJson) ++
    [("logTail", .obj [
        ("stdoutTail", .arr (s.journal.stdoutTail.map .str)),
        ("stderrTail", .arr (s.journal.stderrTail.map .str))]),
      ("safeToExport", .bool safeToExport),
      ("includesBinaryPathHint", .bool true),
      ("includesLaunchPlan", .bool s.journal.lastLaunchPlan.isSome),
      ("includesSessionEvidence", .bool true),
      ("includesLogTail", .bool true)]

def safeToExport (health : ControllerRuntimeHealth) : Bool :=
  decide (s.controller.adapter.runtimePhase ≠ .failed) && decide (health.level ≠ .unavailable)

def diagnosticsResult (commandId : Text) (bundleKind : Option Text)
    (health : ControllerRuntimeHealth) : CommandReport where
  commandId := commandId
  completedAt := s.now
  summary := Text.ofString
    "Collected runtime evidence from the real shell adapter for diagnostics."
  details := s.runtimeEvidenceDetails platform bundleKind health (s.safeToExport health)

def exportResult (commandId : Text) (bundleKind : Option Text)
    (health : ControllerRuntimeHealth) : CommandReport where
  commandId := commandId
  completedAt := s.now
  summary :=
    if s.safeToExport health then
      Text.ofString "Runtime evidence is prepared for export from the real shell adapter."
    else
      Text.ofString ("Runtime evidence is prepared with caution because runtime health is " ++
        "unavailable or failed.")
  details := s.runtimeEvidenceDetails platform bundleKind health (s.safeToExport health)

/-! ## What the controller says of itself -/

def eventJson (event : ClientControllerEvent) : Json :=
  .obj [("id", .str event.id),
    ("timestamp", .str (platform.iso event.timestamp)),
    ("title", .lit event.title),
    ("message", .str event.message),
    ("phase", .lit event.phase.name),
    ("level", .lit event.level.name),
    ("kind", .lit event.kind.name),
    ("profileId", Json.orNull .str event.profileId),
    ("operationId", Json.orNull .str event.operationId),
    ("step", Json.orNull (fun step => .int step) event.step),
    ("rollbackReason", Json.orNull .str event.rollbackReason),
    ("quarantineKey", Json.orNull .str event.quarantineKey)]

/-- The result of a command as it is put into a bundle. -/
def normalizeRuntimeEvidence (commandName : String) (result : CommandReport) : Json :=
  let keys := ["backendKind", "backendVersion", "binaryPathHint", "transportEndpointHint",
    "runtimeMode", "runtimePhase", "health", "session", "launchPlan", "logTail", "safeToExport",
    "includesBinaryPathHint", "includesLaunchPlan", "includesSessionEvidence", "includesLogTail"]
  .obj [("command", .lit commandName),
    ("commandId", .str result.commandId),
    ("accepted", .bool result.accepted),
    ("completedAt", .str (platform.iso result.completedAt)),
    ("summary", .str result.summary),
    ("error", Json.orNull (fun error => .str error.code) result.error),
    ("bundleKind", Json.field result.details "bundleKind"),
    ("evidenceClass", Json.field result.details "evidenceClass"),
    ("evidence", .obj (keys.flatMap (fun key => Json.optional key (result.details.lookup key)))),
    ("rawDetails", .obj result.details)]

def evidenceJson (record : RoutingProbeEvidenceRecord) : Json :=
  .obj [("scenarioId", .str record.scenarioId),
    ("platform", .lit record.platform.name),
    ("phase", .lit record.phase.name),
    ("decisionAction", .lit record.decisionAction.name),
    ("observedResult", .lit record.observedResult.name),
    ("errorType", .lit record.errorType.name),
    ("errorDetail", .str record.errorDetail),
    ("fallbackApplied", .bool record.fallbackApplied),
    ("runtimePosture", .lit record.runtimePosture.name),
    ("runtimeTrueDataplane", .bool record.isRuntimeTrueDataplane),
    ("timestamp", .str (platform.iso record.timestamp)),
    ("matchedRuleId", Json.orNull .str record.matchedRuleId),
    ("policyGroupId", Json.orNull .str record.policyGroupId),
    ("explain", Json.orNull .str record.explain),
    ("operationId", .null),
    ("rollbackReason", .null),
    ("safeModeActive", .null),
    ("quarantineKey", .null)]

/-- A record of the rollback that the status tells of. -/
def recoveryRecords : List Json :=
  let status := s.controller.status
  match status.rollbackReason with
  | none => []
  | some rollbackReason =>
    if !status.safeModeActive || rollbackReason.isEmpty then []
    else
      [.obj [("operationId", .lit "runtime-safe-mode"),
        ("profileId", .str (status.activeProfileId.getD (Text.ofString "unknown"))),
        ("rollbackReason", .str rollbackReason),
        ("safeModeActivated", .bool true),
        ("quarantined", .bool status.quarantineKey.isSome),
        ("quarantineKey", Json.orNull .str status.quarantineKey),
        ("timestamp", .str (platform.iso s.journal.statusUpdatedAt))]]

def telemetryJson : Json :=
  .obj [("backendKind", .str platform.backendKind),
    ("backendVersion", .str platform.backendVersion),
    ("capabilities", .arr (["connect", "disconnect", "healthCheck", "collectDiagnostics",
      "prepareExport"].map .lit)),
    ("lastUpdatedAt", .str (platform.iso s.now))]

def controllerJson (health : ControllerRuntimeHealth) (collected prepared : CommandReport) :
    Json :=
  let status := s.controller.status
  .obj [("phase", .lit status.phase.name),
    ("message", .str s.journal.message),
    ("activeProfileId", Json.orNull .str status.activeProfileId),
    ("updatedAt", .str (platform.iso s.journal.statusUpdatedAt)),
    ("safeModeActive", .bool status.safeModeActive),
    ("quarantineKey", Json.orNull .str status.quarantineKey),
    ("rollbackReason", Json.orNull .str status.rollbackReason),
    ("telemetry", s.telemetryJson platform),
    ("runtimeConfig", .obj [
      ("mode", .str platform.runtimeMode),
      ("endpointHint", .str platform.transportEndpointHint),
      ("enableVerboseTelemetry", .bool true)]),
    ("runtimeHealth", health.toJson platform.toReportPlatform),
    ("runtimeSession", .obj (s.sessionFields platform ++
      [("truth", .lit s.sessionTruth.label),
        ("needsAttention", .bool s.sessionTruth.needsAttention),
        ("truthNote", .lit s.sessionTruth.truthNote),
        ("recoveryGuidance", .lit s.sessionTruth.recoveryGuidance)])),
    ("selection", .obj [
      ("expectedRealRuntimePath", Json.orNull .bool platform.expectedRealRuntimePath),
      ("reason", Json.orNull .str platform.adapterSelectionReason)]),
    ("runtimeEvidence", .obj [
      ("collectDiagnostics",
        normalizeRuntimeEvidence platform "collectDiagnostics" collected),
      ("prepareExport", normalizeRuntimeEvidence platform "prepareExport" prepared)]),
    ("lastRuntimeFailure", Json.orNull
      (LastRuntimeFailureSummary.toJson platform.toReportPlatform) s.lastRuntimeFailure),
    ("runtimePosture", (describeRuntimePosture platform.runtimeMode).toJson),
    ("recentEvents", .arr (s.journal.events.map (eventJson platform)))]

end ReportingController

/-! ## The bundle -/

def selectedProfileJson (profile : ClientProfile) : Json :=
  .obj [("id", .str profile.id),
    ("name", .str profile.name),
    ("serverHost", .str profile.serverHost),
    ("serverPort", .int profile.serverPort),
    ("sni", .str profile.sni),
    ("hasStoredPassword", .bool profile.hasStoredPassword),
    ("routing", .obj [
      ("mode", .str profile.routing.mode.name),
      ("defaultAction", .str profile.routing.defaultAction.name),
      ("globalAction", .str profile.routing.globalAction.name),
      ("ruleCount", .int profile.routing.rules.length),
      ("policyGroupCount", .int profile.routing.policyGroups.length)])]

/-- The exported profiles, as the value that their text decodes to. -/
def exportedProfilesJson (platform : ProfilePlatform) (profiles : List ClientProfile) : Json :=
  .obj [("version", .int 2),
    ("kind", .lit "trojan-pro-client-profile-bundle"),
    ("profiles", .arr (profiles.map (fun profile =>
      .obj [("profile", .obj (platform.profilePayload profile)),
        ("secrets", .obj (ProfilePlatform.secretsPayload profile))])))]

namespace DiagnosticsClient

variable (platform : DiagnosticsPlatform) (d : DiagnosticsClient)

def now : ℤ := d.reporting.now

def exportSummary : Json :=
  let posture := describeRuntimePosture platform.runtimeMode
  let storage := d.surroundings.secureStorage
  .obj [("runtimePostureLabel", .lit posture.postureLabel),
    ("evidenceGrade", .lit posture.evidenceGradeLabel),
    ("runtimeTruth", .lit d.reporting.sessionTruth.label),
    ("recoveryHint", .lit d.reporting.sessionTruth.recoveryGuidance),
    ("usageHint", .lit (if posture.isRuntimeTrue then
        "Use as runtime-true evidence when posture remains evidence-grade."
      else "Treat as support context rather than proof of runtime-true execution.")),
    ("secretStorageSummary", .lit storage.userFacingSummary),
    ("secretStorageMode", .lit storage.storageModeLabel),
    ("secretStoragePersistent", .bool storage.isPersistent),
    ("secretStorageSecure", .bool storage.isSecure)]

def payload (bundleKind : BundleKind) (task : DiagnosticsTask) : Json :=
  let storage := d.surroundings.secureStorage
  .obj [("exportSummary", d.exportSummary platform),
    ("bundleKind", .lit bundleKind.name),
    ("generatedAt", .str (platform.iso d.now)),
    ("profileCount", .int d.surroundings.profiles.length),
    ("selectedProfile", Json.orNull selectedProfileJson task.selected),
    ("readiness", ReadinessReport.toJson platform.toReportPlatform d.now
      ⟨task.checks, task.generatedAt⟩),
    ("controller", d.reporting.controllerJson platform task.health task.collected task.prepared),
    ("settings", d.surroundings.settings),
    ("appRuntime", .obj [("lastUnhandledError", d.surroundings.lastUnhandledError)]),
    ("secureStorage", .obj [
      ("backend", .str storage.backendName),
      ("activeBackend", .str storage.activeBackendName),
      ("mode", .lit storage.storageModeLabel),
      ("summary", .lit storage.userFacingSummary),
      ("isSecure", .bool storage.isSecure),
      ("isPersistent", .bool storage.isPersistent),
      ("fallbackEnabled", .bool storage.fallbackEnabled),
      ("keys", .arr (task.keys.map .str))]),
    ("release", .obj [
      ("manifest", d.surroundings.releaseManifest),
      ("updateMetadata", d.surroundings.updateMetadata)]),
    ("profilesExport", exportedProfilesJson platform.toProfilePlatform d.surroundings.profiles),
    ("routingEvidence", .arr (d.reporting.latestRoutingProbeEvidence.map
      (ReportingController.evidenceJson platform))),
    ("routingRecoveryEvidence", .arr (d.reporting.recoveryRecords platform))]

/-- The text of a bundle. A runtime proof is refused unless the runtime is real. -/
def bundle (bundleKind : BundleKind) (task : DiagnosticsTask) : DiagnosticsOutput :=
  match bundleKind with
  | .supportBundle => .text (platform.encodeIndented (d.payload platform bundleKind task))
  | .runtimeProofArtifact =>
    if (describeRuntimePosture platform.runtimeMode).evidenceGradeLabel = "Evidence-grade" then
      .text (platform.encodeIndented (d.payload platform bundleKind task))
    else .threw

/-! ## Tasks -/

/-- A health check, up to the first time it waits. -/
def beginHealthCheck : HealthCheck :=
  match d.reporting.pid platform.toReportPlatform with
  | some pid =>
    .known {
      level := .healthy
      summary :=
        Text.ofString (if d.reporting.controller.adapter.runtimePhase = .sessionReady then
          "Trojan runtime is session-ready. pid=" else "Trojan runtime process is alive. pid=") ++
        Text.ofInt pid ++ Text.ofString " config=" ++
        d.reporting.controller.adapter.activeConfigPath.getD (Text.ofString "unknown")
      updatedAt := d.now }
  | none =>
    match d.lastProbe with
    | some (health, time) =>
      if d.now - time < 3000000 then .known health
      else .probing (platform.preferredBinaryPath d.now)
    | none => .probing (platform.preferredBinaryPath d.now)

/-- What a run of the binary says of the health of the runtime. -/
def probedHealth (binaryPath : Text) : ProbeOutcome → ControllerRuntimeHealth
  | .exited code =>
    if code = 0 then
      { level := .healthy
        summary := Text.ofString "Trojan binary probe succeeded via " ++ binaryPath ++
          Text.ofString "."
        updatedAt := d.now }
    else
      { level := .degraded
        summary := Text.ofString "Trojan binary probe exited with code " ++ Text.ofInt code ++
          Text.ofString " via " ++ binaryPath ++ Text.ofString "."
        updatedAt := d.now }
  | .failed error =>
    { level := .unavailable
      summary := Text.ofString "Trojan binary probe failed: " ++ error
      updatedAt := d.now }

/-- A health check comes to its end. -/
def endHealthCheck : HealthCheck → Option ProbeOutcome →
    Option (DiagnosticsClient × ControllerRuntimeHealth)
  | .known health, none => some (d, health)
  | .probing binaryPath, some outcome =>
    let health := d.probedHealth binaryPath outcome
    some ({ d with lastProbe := some (health, d.now) }, health)
  | .known _, some _ | .probing _, none => none

def countOperation : DiagnosticsClient :=
  { d with reporting := { d.reporting with
      journal := { d.reporting.journal with
        operationCounter := d.reporting.journal.operationCounter + 1 } } }

def commandId (label : String) : Text :=
  Text.ofString label ++ Text.ofInt (d.reporting.journal.operationCounter + 1)

/-- The key of the last report of a profile. -/
def reportKey (profile : Option ClientProfile) : Text :=
  Text.ofString "client.readiness.last-known." ++
    (profile.map ClientProfile.id).getD (Text.ofString "none")

/-- The report is handed to the store. -/
def writeReport (task : DiagnosticsTask) : DiagnosticsClient :=
  let value := platform.jsonEncode (ReadinessReport.toJson platform.toReportPlatform d.now
    ⟨task.checks, task.generatedAt⟩)
  { d with reporting := { d.reporting with
      journal := d.reporting.journal.write platform.toReportPlatform
        (reportKey task.reportProfile) (some value) } }

/-- The first thing that a task waits for is begun. -/
def beginStep (task : DiagnosticsTask) : DiagnosticsClient × DiagnosticsTask :=
  match task.steps with
  | .checkHealth :: _ | .checkRuntimeBinary :: _ =>
    (d, { task with check := d.beginHealthCheck platform })
  | .collectDiagnostics :: _ =>
    (d.countOperation, { task with
      commandId := d.commandId "collect-diagnostics-"
      check := d.beginHealthCheck platform })
  | .prepareExport :: _ =>
    (d.countOperation, { task with
      commandId := d.commandId "prepare-export-"
      check := d.beginHealthCheck platform })
  | .checkPassword :: _ =>
    (d, { task with
      reportProfile := d.surroundings.selectedProfile
      checks := [ReadinessCheck.checkProfile d.surroundings.selectedProfile] })
  | .persistReport :: _ =>
    let timed := { task with generatedAt := d.now }
    (d.writeReport platform timed, timed)
  | .listKeys :: _ | .checkFilesystem :: _ | [] => (d, task)

/-- A task ends by an exception. -/
def failed (task : DiagnosticsTask) : DiagnosticsTask :=
  { task with steps := [], output := some .threw }

/-- A result is given. -/
def giving (result : CommandReport) : DiagnosticsClient :=
  { d with reporting := d.reporting.returning result }

/-- The checks that follow that of the password, and wait for nothing. -/
def plainChecks (profile : Option ClientProfile) : List ReadinessCheck :=
  [.checkSecureStorage d.surroundings.secureStorage,
    .checkEnvironment platform.hasFilesystemLayout,
    .checkConfig profile,
    .checkRuntimePath platform]

/-- The first thing that a task waits for is there. -/
def endStep (task : DiagnosticsTask) :
    DiagnosticsStep → DiagnosticsOutcome → Option (DiagnosticsClient × DiagnosticsTask)
  | .listKeys, .keysListed none => some (d, failed task)
  | .listKeys, .keysListed (some keys) => some (d, { task with keys := keys })
  | .checkHealth, .healthChecked probe =>
    (d.endHealthCheck task.check probe).map (fun (d, health) => (d, { task with health := health }))
  | .collectDiagnostics, .healthChecked probe =>
    (d.endHealthCheck task.check probe).map (fun (d, health) =>
      let result := d.reporting.diagnosticsResult platform task.commandId task.request.bundleKind
        health
      (d.giving result, { task with collected := result }))
  | .prepareExport, .healthChecked probe =>
    (d.endHealthCheck task.check probe).map (fun (d, health) =>
      let result := d.reporting.exportResult platform task.commandId task.request.bundleKind health
      (d.giving result, { task with prepared := result }))
  | .checkPassword, .passwordRead password =>
    task.reportProfile.map (fun profile =>
      match password with
      | none => (d, failed task)
      | some value =>
        (d, { task with
          checks := task.checks ++
            .checkPassword profile (!(value.getD []).trim.isEmpty) ::
              d.plainChecks platform task.reportProfile }))
  | .checkPassword, .passwordSkipped =>
    if task.reportProfile.isSome then none
    else
      some (d, { task with
        checks := task.checks ++
          .awaitsProfile .password "Password check awaits profile selection." ::
            d.plainChecks platform task.reportProfile })
  | .checkRuntimeBinary, .healthChecked probe =>
    (d.endHealthCheck task.check probe).map (fun (d, health) =>
      (d, { task with checks := task.checks ++ [.checkRuntimeBinary health] }))
  | .checkFilesystem, .filesystemTried error =>
    some (d, { task with
      checks := task.checks ++ [.checkFilesystem platform.hasFilesystemLayout error] })
  | .persistReport, .reportStored succeeded =>
    some (d, if succeeded then task else failed task)
  | _, _ => none

/-- What a task gives when it waits for nothing more. -/
def output (task : DiagnosticsTask) : DiagnosticsOutput :=
  match task.request with
  | .checkHealth => .health task.health
  | .collectDiagnostics _ => .result task.collected
  | .prepareExport _ => .result task.prepared
  | .buildReport => .report ⟨task.checks, task.generatedAt⟩
  | .buildBundle bundleKind => d.bundle platform bundleKind task

/-- A task goes on: it begins to wait for the next thing, or gives its output. -/
def advance (task : DiagnosticsTask) : DiagnosticsClient × DiagnosticsTask :=
  match task.steps.tail with
  | [] => (d, { task with steps := [], output := task.output.or (some (d.output platform task)) })
  | rest => d.beginStep platform { task with steps := rest }

def setTask (i : ℕ) (next : DiagnosticsClient × DiagnosticsTask) : DiagnosticsClient :=
  { next.1 with tasks := d.tasks.set i next.2 }

def request (request : DiagnosticsRequest) : DiagnosticsClient :=
  let begun := d.beginStep platform {
    request := request
    selected := d.surroundings.selectedProfile
    steps := request.steps }
  { begun.1 with tasks := d.tasks ++ [begun.2] }

/-- What a task waits for is there, and the task goes on. -/
def continueTask (i : ℕ) (task : DiagnosticsTask) (outcome : DiagnosticsOutcome) :
    Option DiagnosticsClient :=
  task.steps.head?.bind (fun step =>
    (d.endStep platform task step outcome).map (fun (next, task) =>
      d.setTask i (next.advance platform task)))

def step : DiagnosticsEvent → Option DiagnosticsClient
  | .reporting event =>
    (d.reporting.step platform.toReportPlatform event).map (fun reporting =>
      { d with reporting := reporting })
  | .surroundingsChanged surroundings => some { d with surroundings := surroundings }
  | .requested request => some (d.request platform request)
  | .continued i outcome =>
    d.tasks[i]?.bind (fun task => d.continueTask platform i task outcome)

/-- A client that has just been started, with the files there are and with what an earlier
one has left in the store. -/
def start (now : ℤ) (contents : Text → Option Text) (stored : Option Json)
    (lastRuntimeFailure : Option LastRuntimeFailureSummary) (surroundings : Surroundings) :
    DiagnosticsClient where
  reporting := .restarted (.initial now contents) stored lastRuntimeFailure
  surroundings := surroundings

end DiagnosticsClient
