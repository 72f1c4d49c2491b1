import Trojan.Client.ControllerReports

/-!
# Readiness

Before a connect, and in every bundle for the support, the client looks whether it is
ready (`client/lib/features/readiness`): whether a profile is selected and has a password,
how its secrets are stored, what the runtime is, and whether the files it needs can be
written. Each check has its level, and the report has the worst of them.

Of a password a check knows only whether there is one.
-/

/-- The value of a literal. -/
def Json.lit (s : String) : Json := .str (Text.ofString s)

/-- What the support is told of the platform. -/
structure DiagnosticsPlatform extends ReportPlatform, ProfilePlatform where
  backendKind : Text
  backendVersion : Text
  binaryPathHint : Text
  transportEndpointHint : Text
  /-- Whether there is a directory for the files of the client. -/
  hasFilesystemLayout : Bool
  adapterSelectionReason : Option Text
  expectedRealRuntimePath : Option Bool

/-! ## The posture of the runtime (`runtime_posture.dart`) -/

inductive RuntimePostureKind where
  | runtimeTrue
  | stubFallback
  | stubExplicit
  | stubNonDesktop
  | stubSimulated
  | unknown
  deriving DecidableEq, Repr

def describeRuntimePosture (runtimeMode : Text) : RuntimePostureKind :=
  if runtimeMode.hasPart "real-runtime-boundary" then .runtimeTrue
  else if runtimeMode.hasPart "stubbed-local-boundary-fallback" then .stubFallback
  else if runtimeMode.hasPart "stubbed-local-boundary-explicit" then .stubExplicit
  else if runtimeMode.hasPart "stubbed-local-boundary-non-desktop" then .stubNonDesktop
  else if runtimeMode.hasPart "stubbed-local-boundary" then .stubSimulated
  else .unknown

namespace RuntimePostureKind

def name : RuntimePostureKind → String
  | .runtimeTrue => "runtimeTrue"
  | .stubFallback => "stubFallback"
  | .stubExplicit => "stubExplicit"
  | .stubNonDesktop => "stubNonDesktop"
  | .stubSimulated => "stubSimulated"
  | .unknown => "unknown"

def isRuntimeTrue (kind : RuntimePostureKind) : Bool := decide (kind = .runtimeTrue)

def executionPathLabel : RuntimePostureKind → String
  | .runtimeTrue => "Real runtime path"
  | .stubFallback => "Fallback stub (real runtime unavailable)"
  | .stubExplicit => "Explicit stub mode"
  | .stubNonDesktop => "Stub mode (non-desktop target)"
  | .stubSimulated => "Simulated runtime path"
  | .unknown => "Unknown runtime path"

def postureLabel : RuntimePostureKind → String
  | .runtimeTrue => "Runtime-true"
  | .stubFallback => "Stub-only (fallback)"
  | .stubExplicit => "Stub-only (explicit)"
  | .stubNonDesktop => "Stub-only (non-desktop)"
  | .stubSimulated => "Stub-only"
  | .unknown => "Unknown posture"

def truthNote : RuntimePostureKind → String
  | .runtimeTrue => "This path counts as real runtime execution evidence on this device."
  | .stubFallback => "The shell fell back to a stub boundary because the real runtime path is " ++
      "unavailable."
  | .stubExplicit => "Stub mode was selected intentionally for shell/product testing and is not " ++
      "runtime-true evidence."
  | .stubNonDesktop => "This target is staying on a non-desktop stub path and should not be " ++
      "treated as runtime-true execution."
  | .stubSimulated => "This path is simulated and is useful for shell validation, not real " ++
      "runtime proof."
  | .unknown => "The current runtime mode is not recognized by this shell yet."

def evidenceGradeLabel (kind : RuntimePostureKind) : String :=
  if kind.isRuntimeTrue then "Evidence-grade" else "Shell-grade only"

def evidenceGradeNote (kind : RuntimePostureKind) : String :=
  if kind.isRuntimeTrue then
    "Artifacts from this path can be treated as runtime-true execution evidence on this device."
  else
    "Artifacts from this path are useful for shell/support debugging, but they do not prove " ++
      "real runtime execution."

def artifactCapabilityLabel (kind : RuntimePostureKind) : String :=
  if kind.isRuntimeTrue then "Runtime-proof artifact available"
  else "Runtime-proof artifact unavailable on current posture"

def artifactCapabilityNote (kind : RuntimePostureKind) : String :=
  if kind.isRuntimeTrue then
    "Problem Report exports from this posture can be treated as runtime-proof artifacts on this " ++
      "device."
  else
    "Problem Report exports from this posture should be treated as support bundles only."

def operatorGuidanceHeading (kind : RuntimePostureKind) : String :=
  if kind.isRuntimeTrue then "How to use runtime-proof artifacts"
  else "How to use support bundles on this posture"

def operatorChecklist (kind : RuntimePostureKind) : List String :=
  if kind.isRuntimeTrue then
    ["Verify the posture stays Runtime-true / Evidence-grade before sharing the artifact.",
      "Use the runtime-proof artifact when you need to justify real runtime execution on this " ++
        "device.",
      "Attach the support bundle as extra context, not as a replacement for the proof artifact."]
  else
    ["Use this export as a support/debug snapshot only.",
      "Do not cite this posture as runtime-proof execution evidence.",
      "Promote the runtime posture to Evidence-grade before generating proof-oriented artifacts."]

def toJson (kind : RuntimePostureKind) : Json :=
  .obj [("kind", .lit kind.name),
    ("label", .lit kind.postureLabel),
    ("evidenceGrade", .lit kind.evidenceGradeLabel),
    ("executionPath", .lit kind.executionPathLabel),
    ("truthNote", .lit kind.truthNote),
    ("evidenceNote", .lit kind.evidenceGradeNote),
    ("artifactCapability", .lit kind.artifactCapabilityLabel),
    ("artifactCapabilityNote", .lit kind.artifactCapabilityNote),
    ("operatorGuidance", .obj [
      ("heading", .lit kind.operatorGuidanceHeading),
      ("checklist", .arr (kind.operatorChecklist.map .lit))])]

end RuntimePostureKind

/-! ## The status of the secrets, and the health of the runtime -/

structure SecureStorageStatus where
  backendName : Text
  activeBackendName : Text
  isSecure : Bool
  isPersistent : Bool
  fallbackEnabled : Bool := false
  fallbackActive : Bool := false
  lastPrimaryError : Option Text := none
  deriving DecidableEq, Repr

namespace SecureStorageStatus

def storageModeLabel (status : SecureStorageStatus) : String :=
  if status.isSecure && status.isPersistent then "Secure persistent"
  else if status.isPersistent then "Persistent"
  else "Session-only"

def userFacingSummary (status : SecureStorageStatus) : String :=
  if status.fallbackActive && !status.isPersistent then "Temporary session-only fallback"
  else if !status.isPersistent then "Session-only storage"
  else if status.fallbackActive then "Fallback active"
  else if status.isSecure && status.isPersistent then "Secure storage ready"
  else "Storage available"

end SecureStorageStatus

inductive ControllerRuntimeHealthLevel where
  | healthy
  | degraded
  | unavailable
  deriving DecidableEq, Repr

def ControllerRuntimeHealthLevel.name : ControllerRuntimeHealthLevel → String
  | .healthy => "healthy"
  | .degraded => "degraded"
  | .unavailable => "unavailable"

structure ControllerRuntimeHealth where
  level : ControllerRuntimeHealthLevel
  summary : Text
  updatedAt : ℤ
  deriving DecidableEq, Repr

def ControllerRuntimeHealth.toJson (platform : ReportPlatform) (health : ControllerRuntimeHealth) :
    Json :=
  .obj [("level", .lit health.level.name),
    ("summary", .str health.summary),
    ("updatedAt", .str (platform.iso health.updatedAt))]

/-! ## Checks -/

inductive ReadinessLevel where
  | ready
  | degraded
  | blocked
  deriving DecidableEq, Repr

def ReadinessLevel.name : ReadinessLevel → String
  | .ready => "ready"
  | .degraded => "degraded"
  | .blocked => "blocked"

inductive ReadinessDomain where
  | profile
  | password
  | secureStorage
  | environment
  | config
  | runtimePath
  | runtimeBinary
  | filesystem
  deriving DecidableEq, Repr

def ReadinessDomain.name : ReadinessDomain → String
  | .profile => "profile"
  | .password => "password"
  | .secureStorage => "secureStorage"
  | .environment => "environment"
  | .config => "config"
  | .runtimePath => "runtimePath"
  | .runtimeBinary => "runtimeBinary"
  | .filesystem => "filesystem"

inductive ReadinessAction where
  | openProfiles
  | openTroubleshooting
  | openSettings
  deriving DecidableEq, Repr

namespace ReadinessAction

def name : ReadinessAction → String
  | .openProfiles => "openProfiles"
  | .openTroubleshooting => "openTroubleshooting"
  | .openSettings => "openSettings"

/-- The label of an action, which is the same wherever it is proposed. -/
def label : ReadinessAction → String
  | .openProfiles => "Open Profiles"
  | .openTroubleshooting => "Open Troubleshooting"
  | .openSettings => "Open Settings"

def destination : ReadinessAction → String
  | .openProfiles => "profiles"
  | .openTroubleshooting => "advanced.troubleshooting"
  | .openSettings => "settings"

end ReadinessAction

structure ReadinessCheck where
  domain : ReadinessDomain
  level : ReadinessLevel
  summary : Text
  detail : Option Text := none
  action : Option ReadinessAction := none
  deriving DecidableEq, Repr

namespace ReadinessCheck

def toJson (check : ReadinessCheck) : Json :=
  .obj [("domain", .lit check.domain.name),
    ("level", .lit check.level.name),
    ("summary", .str check.summary),
    ("detail", Json.orNull .str check.detail),
    ("action", Json.orNull (fun action => .lit action.name) check.action),
    ("actionLabel", Json.orNull (fun action => .lit action.label) check.action)]

/-- A check that waits for a profile to be selected. -/
def awaitsProfile (domain : ReadinessDomain) (summary : String) : ReadinessCheck where
  domain := domain
  level := .ready
  summary := Text.ofString summary

def checkProfile : Option ClientProfile → ReadinessCheck
  | none =>
    { domain := .profile
      level := .blocked
      summary := Text.ofString "No profile is selected yet."
      detail := some (Text.ofString
        "Pick or import one profile before running a connection test.")
      action := some .openProfiles }
  | some profile =>
    { domain := .profile
      level := .ready
      summary := Text.ofString "Selected profile: " ++ profile.name ++ Text.ofString "." }

def checkPassword (profile : ClientProfile) (hasPassword : Bool) : ReadinessCheck :=
  if hasPassword then
    { domain := .password
      level := .ready
      summary := Text.ofString "Password is stored for " ++ profile.name ++ Text.ofString "." }
  else
    { domain := .password
      level := .blocked
      summary := Text.ofString "Trojan password has not been saved for " ++ profile.name ++
        Text.ofString "."
      detail := some (Text.ofString
        "Save the password first so the connect plan can be built.")
      action := some .openProfiles }

def checkSecureStorage (status : SecureStorageStatus) : ReadinessCheck :=
  let summary := Text.ofString status.userFacingSummary
  if !status.isPersistent then
    { domain := .secureStorage
      level := .degraded
      summary := summary
      detail := some (Text.ofString ("Storage is session-only. Restarting the app may require " ++
        "re-entering passwords."))
      action := some .openSettings }
  else if status.fallbackActive then
    { domain := .secureStorage
      level := .degraded
      summary := summary
      detail := status.lastPrimaryError
      action := some .openSettings }
  else { domain := .secureStorage, level := .ready, summary := summary }

def checkEnvironment (hasFilesystemLayout : Bool) : ReadinessCheck :=
  if hasFilesystemLayout then
    { domain := .environment
      level := .ready
      summary := Text.ofString "Desktop environment capabilities look available." }
  else
    { domain := .environment
      level := .degraded
      summary := Text.ofString "Desktop environment capabilities are partial."
      detail := some (Text.ofString ("Platform-specific filesystem layout is unavailable; " ++
        "runtime artifacts may rely on temp paths."))
      action := some .openTroubleshooting }

def checkConfig : Option ClientProfile → ReadinessCheck
  | none => awaitsProfile .config "Config check awaits profile selection."
  | some profile =>
    let invalidHost := profile.serverHost.trim.isEmpty
    let invalidServerPort := decide (profile.serverPort ≤ 0 ∨ 65535 < profile.serverPort)
    let invalidLocalPort := decide (profile.localSocksPort ≤ 0 ∨ 65535 < profile.localSocksPort)
    if invalidHost || invalidServerPort || invalidLocalPort then
      { domain := .config
        level := .blocked
        summary := Text.ofString "Profile config for " ++ profile.name ++
          Text.ofString " is invalid."
        detail := some (Text.ofString
          "Check server host / server port / local SOCKS port before connecting.")
        action := some .openProfiles }
    else
      { domain := .config
        level := .ready
        summary := Text.ofString "Profile config for " ++ profile.name ++
          Text.ofString " looks valid." }

def checkRuntimePath (platform : DiagnosticsPlatform) : ReadinessCheck :=
  let posture := describeRuntimePosture platform.runtimeMode
  if posture.isRuntimeTrue then
    { domain := .runtimePath
      level := .ready
      summary := Text.ofString "Runtime path is real." }
  else
    { domain := .runtimePath
      level := .degraded
      summary := Text.ofString "Runtime posture is " ++
        platform.toLowerCase (Text.ofString posture.postureLabel) ++ Text.ofString " (" ++
        platform.runtimeMode.map (fun unit => if unit = 0x2D then 0x20 else unit) ++
        Text.ofString ")."
      detail := some (Text.ofString posture.truthNote)
      action := some .openTroubleshooting }

def checkRuntimeBinary (health : ControllerRuntimeHealth) : ReadinessCheck :=
  match health.level with
  | .healthy => { domain := .runtimeBinary, level := .ready, summary := health.summary }
  | .degraded =>
    { domain := .runtimeBinary
      level := .degraded
      summary := health.summary
      action := some .openTroubleshooting }
  | .unavailable =>
    { domain := .runtimeBinary
      level := .blocked
      summary := health.summary
      detail := some (Text.ofString "Fix the runtime binary before attempting a connection.")
      action := some .openTroubleshooting }

/-- Without a directory there is nothing to try. -/
def checkFilesystem (hasFilesystemLayout : Bool) (error : Option Text) : ReadinessCheck :=
  if !hasFilesystemLayout then
    { domain := .filesystem
      level := .degraded
      summary := Text.ofString
        "Filesystem layout is unavailable; runtime artifacts will use temp paths."
      detail := some (Text.ofString ("This can happen on unsupported platforms. It is OK for " ++
        "testing but not for persistent runtime use.")) }
  else
    match error with
    | none =>
      { domain := .filesystem
        level := .ready
        summary := Text.ofString "Managed runtime path is writable." }
    | some error =>
      { domain := .filesystem
        level := .blocked
        summary := Text.ofString "Managed runtime path is not writable."
        detail := some error
        action := some .openTroubleshooting }

def recommendationPriority (check : ReadinessCheck) : ℕ :=
  let levelBase := match check.level with
    | .blocked => 0
    | .degraded => 100
    | .ready => 1000
  let domainRank := match check.domain with
    | .password => 0
    | .profile => 1
    | .config => 2
    | .runtimeBinary => 3
    | .filesystem => 4
    | .secureStorage => 5
    | .runtimePath => 6
    | .environment => 7
  levelBase + domainRank

end ReadinessCheck

/-! ## The report -/

structure ReadinessReport where
  checks : List ReadinessCheck
  generatedAt : ℤ
  deriving DecidableEq, Repr

namespace ReadinessReport

def overallLevel (report : ReadinessReport) : ReadinessLevel :=
  if report.checks.any (fun check => decide (check.level = .blocked)) then .blocked
  else if report.checks.any (fun check => decide (check.level = .degraded)) then .degraded
  else .ready

def headline (report : ReadinessReport) : String :=
  match report.overallLevel with
  | .blocked => "Connect blocked"
  | .degraded => "Ready with warnings"
  | .ready => "Ready for a quick test"

/-- What the first check of the worst level says. -/
def summary (report : ReadinessReport) : Text :=
  match report.checks.find? (fun check => decide (check.level = .blocked)) with
  | some check => check.detail.getD check.summary
  | none =>
    match report.checks.find? (fun check => decide (check.level = .degraded)) with
    | some check => check.detail.getD check.summary
    | none => Text.ofString "All readiness checks look healthy."

/-- What is to be done first. -/
def recommendation (platform : RoutingPlatform) (report : ReadinessReport) : Option Json :=
  let candidates := report.checks.filter (fun check =>
    decide (check.level ≠ .ready) && check.action.isSome)
  let sorted := platform.sorter.sort (fun left right =>
    decide (left.recommendationPriority ≤ right.recommendationPriority)) candidates
  sorted.head?.bind (fun check => check.action.map (fun action =>
    .obj [("action", .lit action.name),
      ("actionId", .lit action.name),
      ("label", .lit action.label),
      ("detail", .str (check.detail.getD check.summary)),
      ("source", .lit "report"),
      ("domain", .lit check.domain.name),
      ("destination", .lit action.destination),
      ("destinationAvailable", .bool true),
      ("fallbackReason", .null)]))

/-- The seconds since the report was made, at a time. -/
def ageInSeconds (report : ReadinessReport) (now : ℤ) : ℤ :=
  max 0 (now - report.generatedAt) / 1000000

def freshnessLabel (report : ReadinessReport) (now : ℤ) : String :=
  if 300 ≤ report.ageInSeconds now then "Stale"
  else if 60 ≤ report.ageInSeconds now then "Aging"
  else "Fresh"

def ageLabel (report : ReadinessReport) (now : ℤ) : Text :=
  let seconds := report.ageInSeconds now
  if seconds < 5 then Text.ofString "just now"
  else if seconds < 60 then Text.ofInt seconds ++ Text.ofString "s ago"
  else if seconds < 3600 then Text.ofInt (seconds / 60) ++ Text.ofString "m ago"
  else Text.ofInt (seconds / 3600) ++ Text.ofString "h ago"

/-- The report as it is written at a time. -/
def toJson (platform : ReportPlatform) (now : ℤ) (report : ReadinessReport) : Json :=
  .obj [("overallLevel", .lit report.overallLevel.name),
    ("headline", .lit report.headline),
    ("summary", .str report.summary),
    ("generatedAt", .str (platform.iso report.generatedAt)),
    ("isCachedSnapshot", .bool false),
    ("checks", .arr (report.checks.map ReadinessCheck.toJson)),
    ("recommendation", (report.recommendation platform.toRoutingPlatform).getD .null),
    ("sourceLabel", .lit "Live check"),
    ("freshnessLabel", .lit (report.freshnessLabel now)),
    ("ageLabel", .str (report.ageLabel now))]

end ReadinessReport
