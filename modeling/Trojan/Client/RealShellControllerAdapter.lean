import Mathlib.Logic.Function.Basic
import Trojan.Client.ProfileSerialization
import Trojan.Util.Machine

/-!
# Launching the runtime

`RealShellControllerAdapter` (`client/lib/features/controller/application`) writes
the configuration of a profile to a file, starts a trojan client on it, and keeps
the process until it exits. Each connect is a task that waits for the platform
again and again: for a directory, for the file, for its permissions, for the
process. Two more tasks come with a process: one probes the local port until it
is open, and one waits for the process to exit, then lets go of it and deletes the
file.

Between two waits a task runs undisturbed. What is kept of a task is therefore
what it is waiting for, and what the platform does for it is an event: the tasks
may be continued in any order. A launch is named by its place among the launches.

The file that a write has truncated but not yet filled is an empty file. Deleting
the directory of the file, which succeeds only if it is empty, is left out, and so
are the health probes and the log lines, of which only the time is kept.
-/

/-- The error codes, of which the constructors have the names, and the exceptions of
the platform. -/
inductive ControllerError where
  | operationInProgress
  | routingQuarantined
  | missingTrojanPassword
  | missingConnectInputs
  | processAlreadyRunning
  | noRunningProcess
  | killFailed
  | routingApplyRolledBack
  | routingApplyRolledBackQuarantined
  | runtimeSessionError
  | runtimeSessionExitNonzero
  | exception (message : Text)
  deriving DecidableEq, Repr

/-- What a command gives: it is accepted if there is no error. -/
structure ControllerCommandResult where
  error : Option ControllerError
  deriving DecidableEq, Repr

def ControllerCommandResult.accepted (result : ControllerCommandResult) : Bool :=
  result.error.isNone

inductive ControllerRuntimePhase where
  | stopped
  | planned
  | launching
  | alive
  | sessionReady
  | failed
  deriving DecidableEq, Repr

/-- What launching uses of the platform. -/
structure RuntimePlatform extends RoutingPlatform where
  /-- The JSON text of a value, indented. -/
  encodeIndented : Json → Text
  isWindows : Bool
  pathSeparator : Text
  stateDirectoryPath : Text
  runtimeMode : Text

/-! ## The command and the configuration -/

/-- A connect command. What its map of arguments does not have is `none`. -/
structure ControllerCommand where
  issuedAt : DateTime
  profileId : Option Text := none
  profileName : Option Text := none
  serverHost : Option Text := none
  serverPort : Option ℤ := none
  localSocksPort : Option ℤ := none
  sni : Option Text := none
  verifyTls : Option Bool := none
  configPath : Option Text := none
  routing : Json := .null
  trojanPassword : Option Text := none

structure RealShellConnectPlannerInput where
  profile : ClientProfile
  configPath : Text
  password : Text

namespace RuntimePlatform

variable (platform : RuntimePlatform)

/-- `RealShellConnectPlanner.parse`. -/
def parse (command : ControllerCommand) :
    Except ReadError (Option RealShellConnectPlannerInput) :=
  match command.profileName, command.serverHost, command.serverPort, command.localSocksPort,
    command.configPath, command.trojanPassword with
  | some profileName, some serverHost, some serverPort, some localSocksPort, some configPath,
    some password =>
    if password.trim.isEmpty then .ok none
    else do
      let routing ← RoutingProfileCodec.decodeFromObject platform.toRoutingPlatform command.routing
      return some {
        profile := {
          id := command.profileId.getD (Text.ofString "unknown")
          name := profileName
          serverHost := serverHost
          serverPort := serverPort
          sni := if (command.sni.getD []).isEmpty then serverHost else command.sni.getD []
          localSocksPort := localSocksPort
          verifyTls := command.verifyTls.getD true
          updatedAt := command.issuedAt
          routing := routing }
        configPath := configPath
        password := password }
  | _, _, _, _, _, _ => .ok none

/-- What is launched is launched for the profile of the command, and with its file. -/
theorem of_parse {command : ControllerCommand} {input : RealShellConnectPlannerInput}
    (h : platform.parse command = .ok (some input)) :
    input.profile.id = command.profileId.getD (Text.ofString "unknown") ∧
      command.configPath = some input.configPath := by
  unfold parse at h
  split at h
  · split at h
    · cases h
    · cases hrouting : RoutingProfileCodec.decodeFromObject platform.toRoutingPlatform
        command.routing with
      | error error => simp [hrouting, bind, Except.bind] at h
      | ok routing =>
        simp only [hrouting, bind, Except.bind, pure, Except.pure, Except.ok.injEq,
          Option.some.injEq] at h
        rw [← h]
        exact ⟨rfl, ‹_›⟩
  · cases h

/-- The configuration of the trojan client (`trojan_client_config_renderer.dart`). -/
def configPayload (profile : ClientProfile) (password : Text) : Json :=
  .obj [("run_type", .str (Text.ofString "client")),
    ("local_addr", .str (Text.ofString "127.0.0.1")),
    ("local_port", .int profile.localSocksPort),
    ("remote_addr", .str profile.serverHost),
    ("remote_port", .int profile.serverPort),
    ("password", .arr [.str password]),
    ("log_level", .int 1),
    ("ssl", .obj [
      ("verify", .bool profile.verifyTls),
      ("verify_hostname", .bool profile.verifyTls),
      ("cert", .str []),
      ("sni", .str (if profile.sni.isEmpty then profile.serverHost else profile.sni)),
      ("alpn", .arr [.str (Text.ofString "h2"), .str (Text.ofString "http/1.1")]),
      ("reuse_session", .bool true),
      ("session_ticket", .bool false),
      ("cipher", .str
        (Text.ofString "ECDHE-ECDSA-AES128-GCM-SHA256:ECDHE-RSA-AES128-GCM-SHA256")),
      ("cipher_tls13", .str
        (Text.ofString "TLS_AES_128_GCM_SHA256:TLS_CHACHA20_POLY1305_SHA256")),
      ("curves", .str [])]),
    ("tcp", .obj [
      ("no_delay", .bool true),
      ("keep_alive", .bool true),
      ("reuse_port", .bool false),
      ("fast_open", .bool false),
      ("fast_open_qlen", .int 20)]),
    ("routing", .obj (RoutingProfileCodec.encodeToJsonMap platform.toRoutingPlatform
      profile.routing))]

def render (profile : ClientProfile) (password : Text) : Text :=
  platform.encodeIndented (platform.configPayload profile password)

end RuntimePlatform

/-! ## Launches -/

/-- What the task of a connect is waiting for. -/
inductive LaunchStage where
  | creatingDirectory
  | openingConfig
  | writingConfig
  | settingPermissions
  | startingProcess
  /-- The process is there, and the task is about to be told. -/
  | attaching
  | started
  /-- The connect has failed, and the file is looked for. -/
  | checkingConfig (error : Text)
  | deletingConfig (error : Text)
  | failed (error : Text)
  deriving DecidableEq, Repr

inductive ProcessState where
  | absent
  | alive
  | exited (code : ℤ)
  /-- The process has exited, and its exit handler has run. -/
  | handled
  deriving DecidableEq, Repr

/-- What the task that probes the port is waiting for. -/
inductive Promotion where
  | idle
  | probing (deadline : ℤ)
  | waiting (deadline : ℤ)
  deriving DecidableEq, Repr

/-- What the cleanup of an exit handler is waiting for. -/
inductive ExitCleanup where
  | idle
  | checking (path : Text)
  | deleting (path : Text)
  deriving DecidableEq, Repr

/-- A connect that has gone as far as to prepare a session, and the process and
the tasks that come of it. The last field is a record of what has happened. -/
structure Launch where
  profileId : Text
  configPath : Text
  content : Text
  stage : LaunchStage := .creatingDirectory
  process : ProcessState := .absent
  promotion : Promotion := .idle
  cleanup : ExitCleanup := .idle
  /-- A probe of the port for this process has succeeded. -/
  probed : Bool := false
  deriving DecidableEq, Repr

/-- A file, and the launch that has opened it last, if any has. -/
structure ConfigFile where
  writer : Option ℕ := none
  content : Text
  deriving DecidableEq, Repr

/-- A file that was deleted: for which launch, and the launch that had opened it
last. -/
structure Deletion where
  cleaner : ℕ
  writer : Option ℕ
  deriving DecidableEq, Repr

/-- The adapter, the files and processes it works with, and a record of the
files it has deleted. Times are in microseconds. -/
structure RealShellControllerAdapter where
  now : ℤ
  files : Text → Option ConfigFile
  launches : List Launch := []
  runningProcess : Option ℕ := none
  activeConfigPath : Option Text := none
  disconnectRequested : Bool := false
  lastExitCode : Option ℤ := none
  lastError : Option Text := none
  expectedLocalSocksPort : Option ℤ := none
  runtimePhase : ControllerRuntimePhase := .stopped
  sessionUpdatedAt : ℤ
  deletions : List Deletion := []

/-- What a connect leads to. -/
inductive ConnectOutcome where
  | threw (error : ReadError)
  | refused (error : ControllerError)
  | launched (launch : ℕ)
  deriving DecidableEq, Repr

/-- What the platform does. An operation that a task waits for may fail, with a
message. -/
inductive RuntimeEvent where
  | clock (now : ℤ)
  | logged
  | launchContinued (launch : ℕ) (error : Option Text)
  | processExited (launch : ℕ) (code : ℤ)
  | exitHandled (launch : ℕ)
  | cleanupContinued (launch : ℕ) (error : Option Text)
  | probeCompleted (launch : ℕ) (isOpen : Bool)
  | promotionWoke (launch : ℕ)
  deriving DecidableEq, Repr

inductive AdapterEvent where
  | connect (command : ControllerCommand)
  /-- A disconnect, and whether the signal could be sent to the process. -/
  | disconnect (killed : Bool)
  | runtime (event : RuntimeEvent)

namespace RealShellControllerAdapter

def markSessionUpdated (a : RealShellControllerAdapter) : RealShellControllerAdapter :=
  { a with sessionUpdatedAt := a.now }

def isRunning (a : RealShellControllerAdapter) : Bool := a.runningProcess.isSome

def setLaunch (a : RealShellControllerAdapter) (i : ℕ) (l : Launch) :
    RealShellControllerAdapter :=
  { a with launches := a.launches.set i l }

theorem getElem?_setLaunch {a : RealShellControllerAdapter} {i : ℕ} {l : Launch}
    (h : a.launches[i]? = some l) (l' : Launch) (j : ℕ) :
    (a.setLaunch i l').launches[j]? = if i = j then some l' else a.launches[j]? := by
  have hlt : i < a.launches.length := (List.getElem?_eq_some_iff.mp h).1
  show (a.launches.set i l')[j]? = _
  rw [List.getElem?_set, if_pos hlt]

/-- A launch after one of them has been replaced. -/
theorem getElem?_setLaunch_cases {a : RealShellControllerAdapter} {i j : ℕ} {l l' m : Launch}
    (hl : a.launches[i]? = some l) (hm : (a.setLaunch i l').launches[j]? = some m) :
    (j = i ∧ m = l') ∨ (j ≠ i ∧ a.launches[j]? = some m) := by
  rw [getElem?_setLaunch hl] at hm
  split at hm
  · exact .inl ⟨Eq.symm ‹_›, (Option.some.inj hm).symm⟩
  · exact .inr ⟨Ne.symm ‹_›, hm⟩

@[simp] theorem length_setLaunch (a : RealShellControllerAdapter) (i : ℕ) (l : Launch) :
    (a.setLaunch i l).launches.length = a.launches.length :=
  List.length_set

/-! ## Commands -/

def prepareFreshSessionForConnect (a : RealShellControllerAdapter) :
    RealShellControllerAdapter :=
  { a with
    disconnectRequested := false
    lastError := none
    lastExitCode := none
    runtimePhase := .stopped }.markSessionUpdated

/-- The launch that a connect begins. -/
def plannedLaunch (platform : RuntimePlatform) (input : RealShellConnectPlannerInput) :
    Launch where
  profileId := input.profile.id
  configPath := input.configPath
  content := platform.render input.profile input.password

/-- A launch begins. -/
def beginLaunch (platform : RuntimePlatform) (a : RealShellControllerAdapter)
    (input : RealShellConnectPlannerInput) : RealShellControllerAdapter :=
  { a.prepareFreshSessionForConnect with
    activeConfigPath := some input.configPath
    expectedLocalSocksPort := some input.profile.localSocksPort
    runtimePhase := .planned
    launches := a.launches ++ [plannedLaunch platform input] }.markSessionUpdated

theorem beginLaunch_launches (platform : RuntimePlatform) (a : RealShellControllerAdapter)
    (input : RealShellConnectPlannerInput) :
    (a.beginLaunch platform input).launches = a.launches ++ [plannedLaunch platform input] := rfl

/-- The launches after one has begun: it is the last one. -/
theorem getElem?_beginLaunch_cases {platform : RuntimePlatform} {a : RealShellControllerAdapter}
    {input : RealShellConnectPlannerInput} {j : ℕ} {m : Launch}
    (hm : (a.beginLaunch platform input).launches[j]? = some m) :
    a.launches[j]? = some m ∨ (j = a.launches.length ∧ m = plannedLaunch platform input) := by
  rw [beginLaunch_launches, List.getElem?_append] at hm
  split at hm
  · exact .inl hm
  · rw [List.getElem?_singleton] at hm
    obtain ⟨hj, hm⟩ := Option.ite_none_right_eq_some.mp hm
    exact .inr ⟨by omega, (Option.some.inj hm).symm⟩

/-- A connect, up to the first time it waits. -/
def planConnect (platform : RuntimePlatform) (a : RealShellControllerAdapter)
    (command : ControllerCommand) : RealShellControllerAdapter × ConnectOutcome :=
  match platform.parse command with
  | .error error => (a, .threw error)
  | .ok none => (a, .refused .missingConnectInputs)
  | .ok (some input) =>
    if a.runningProcess.isSome then (a, .refused .processAlreadyRunning)
    else (a.beginLaunch platform input, .launched a.launches.length)

/-- A connect leaves the adapter as it is, or begins a launch. -/
theorem planConnect_cases (platform : RuntimePlatform) (a : RealShellControllerAdapter)
    (command : ControllerCommand) :
    (∃ error, a.planConnect platform command = (a, .threw error)) ∨
    (∃ error, a.planConnect platform command = (a, .refused error) ∧
      (error = .missingConnectInputs ∨ error = .processAlreadyRunning)) ∨
    ∃ input, platform.parse command = .ok (some input) ∧ a.runningProcess = none ∧
      a.planConnect platform command
        = (a.beginLaunch platform input, .launched a.launches.length) := by
  unfold planConnect
  split
  · exact .inl ⟨_, rfl⟩
  · exact .inr (.inl ⟨_, rfl, .inl rfl⟩)
  · rename_i input hparse
    split
    · exact .inr (.inl ⟨_, rfl, .inr rfl⟩)
    · exact .inr (.inr ⟨input, hparse, Option.not_isSome_iff_eq_none.mp ‹_›, rfl⟩)

def disconnect (a : RealShellControllerAdapter) (killed : Bool) :
    RealShellControllerAdapter × ControllerCommandResult :=
  match a.runningProcess with
  | none => (a, ⟨some .noRunningProcess⟩)
  | some _ =>
    if killed then (markSessionUpdated { a with disconnectRequested := true }, ⟨none⟩)
    else (a, ⟨some .killFailed⟩)

/-! ## A launch goes on -/

/-- A connect fails: the error is kept, and what there is of the file goes. -/
def fail (a : RealShellControllerAdapter) (i : ℕ) (l : Launch) (error : Text) :
    RealShellControllerAdapter :=
  { a.setLaunch i { l with
      stage := if l.configPath.trim.isEmpty then .failed error else .checkingConfig error } with
    lastError := some error
    runtimePhase := .failed }.markSessionUpdated

/-- The process is there: it becomes the running one, and its port is probed. -/
def attach (a : RealShellControllerAdapter) (i : ℕ) (l : Launch) : RealShellControllerAdapter :=
  { a.setLaunch i { l with
      stage := .started
      promotion := if 0 < a.expectedLocalSocksPort.getD 0 then .probing (a.now + 3000000)
        else .idle } with
    runningProcess := some i
    activeConfigPath := some l.configPath
    lastError := none
    lastExitCode := none
    runtimePhase := .alive }.markSessionUpdated

/-- The file is deleted for a launch. -/
def deleteFile (a : RealShellControllerAdapter) (i : ℕ) (path : Text) (file : ConfigFile) :
    RealShellControllerAdapter :=
  { a with
    files := Function.update a.files path none
    deletions := ⟨i, file.writer⟩ :: a.deletions }

/-- A cleanup has failed, which is kept in place of any other error. -/
def cleanupFailed (a : RealShellControllerAdapter) (error : Text) : RealShellControllerAdapter :=
  { a with
    lastError := some (Text.ofString "CONFIG_CLEANUP_FAILED: " ++ error) }.markSessionUpdated

/-- The process is about to be started. -/
def startProcess (a : RealShellControllerAdapter) (i : ℕ) (l : Launch) :
    RealShellControllerAdapter :=
  { a.setLaunch i { l with stage := .startingProcess } with
    runtimePhase := .launching }.markSessionUpdated

/-- What the task of a connect waits for is there, or has failed. -/
def continueLaunch (platform : RuntimePlatform) (a : RealShellControllerAdapter) (i : ℕ)
    (l : Launch) : Option Text → Option RealShellControllerAdapter
  | none =>
    match l.stage with
    | .creatingDirectory => some (a.setLaunch i { l with stage := .openingConfig })
    | .openingConfig =>
      some { a.setLaunch i { l with stage := .writingConfig } with
        files := Function.update a.files l.configPath (some ⟨some i, []⟩) }
    | .writingConfig =>
      -- what is written to a file that has been deleted in between is lost
      let written : RealShellControllerAdapter := { a with
        files := Function.update a.files l.configPath
          ((a.files l.configPath).map (fun file => { file with content := l.content })) }
      if platform.isWindows then some (written.startProcess i l)
      else some (written.setLaunch i { l with stage := .settingPermissions })
    | .settingPermissions => some (a.startProcess i l)
    | .startingProcess => some (a.setLaunch i { l with stage := .attaching, process := .alive })
    | .attaching => some (a.attach i l)
    | .started => none
    | .checkingConfig error =>
      some (a.setLaunch i { l with
        stage := if (a.files l.configPath).isSome then .deletingConfig error
          else .failed error })
    | .deletingConfig error =>
      -- there has to be a file for it to be deleted
      (a.files l.configPath).map (fun file =>
        (a.deleteFile i l.configPath file).setLaunch i { l with stage := .failed error })
    | .failed _ => none
  | some error =>
    match l.stage with
    | .creatingDirectory | .openingConfig | .writingConfig | .settingPermissions
    | .startingProcess => some (a.fail i l error)
    | .checkingConfig reason | .deletingConfig reason =>
      some ((a.cleanupFailed error).setLaunch i { l with stage := .failed reason })
    | .attaching | .started | .failed _ => none

/-! ## A process exits -/

/-- The exit handler notes how the session has ended. -/
def sessionEnded (a : RealShellControllerAdapter) (code : ℤ) : RealShellControllerAdapter :=
  { a with
    lastExitCode := some code
    lastError := if a.disconnectRequested then none else a.lastError
    runtimePhase := if a.disconnectRequested || code = 0 then .stopped
      else .failed }.markSessionUpdated

/-- The exit handler, up to the first time it waits. -/
def handleExit (a : RealShellControllerAdapter) (i : ℕ) (l : Launch) (code : ℤ) :
    RealShellControllerAdapter :=
  if a.runningProcess = some i then
    { (a.sessionEnded code).setLaunch i { l with
        process := .handled
        cleanup := if (a.activeConfigPath.getD []).trim.isEmpty then .idle
          else .checking (a.activeConfigPath.getD []) } with
      runningProcess := none
      activeConfigPath := none
      disconnectRequested := false }
  else (a.sessionEnded code).setLaunch i { l with process := .handled }

/-- What the cleanup of an exit handler waits for is there, or has failed. -/
def continueCleanup (a : RealShellControllerAdapter) (i : ℕ) (l : Launch) :
    Option Text → Option RealShellControllerAdapter
  | none =>
    match l.cleanup with
    | .idle => none
    | .checking path =>
      some (a.setLaunch i { l with
        cleanup := if (a.files path).isSome then .deleting path else .idle })
    | .deleting path =>
      (a.files path).map (fun file =>
        (a.deleteFile i path file).setLaunch i { l with cleanup := .idle })
  | some error =>
    match l.cleanup with
    | .idle => none
    | .checking _ | .deleting _ =>
      some ((a.cleanupFailed error).setLaunch i { l with cleanup := .idle })

/-! ## The port is probed -/

/-- A probe that finds the port open makes the session ready, and ends the task. -/
def completeProbe (a : RealShellControllerAdapter) (i : ℕ) (l : Launch) (isOpen : Bool) :
    Option RealShellControllerAdapter :=
  match l.promotion with
  | .probing deadline =>
    if isOpen then
      some { a.setLaunch i { l with promotion := .idle, probed := true } with
        runtimePhase := .sessionReady }.markSessionUpdated
    else some (a.setLaunch i { l with promotion := .waiting deadline })
  | .idle | .waiting _ => none

/-- The task looks at the time and at the running process before it probes again. -/
def wakePromotion (a : RealShellControllerAdapter) (i : ℕ) (l : Launch) :
    Option RealShellControllerAdapter :=
  match l.promotion with
  | .waiting deadline =>
    some (a.setLaunch i { l with
      promotion := if a.now < deadline ∧ a.runningProcess = some i then .probing deadline
        else .idle })
  | .idle | .probing _ => none

/-! ## All steps -/

/-- An event of the platform. -/
def runtimeStep (platform : RuntimePlatform) (a : RealShellControllerAdapter) :
    RuntimeEvent → Option RealShellControllerAdapter
  | .clock now => some { a with now := now }
  | .logged => some a.markSessionUpdated
  | .launchContinued i error =>
    a.launches[i]?.bind (fun l => a.continueLaunch platform i l error)
  | .processExited i code =>
    a.launches[i]?.bind (fun l =>
      if l.process = .alive then some (a.setLaunch i { l with process := .exited code })
      else none)
  | .exitHandled i =>
    a.launches[i]?.bind (fun l =>
      match l.stage, l.process with
      | .started, .exited code => some (a.handleExit i l code)
      | _, _ => none)
  | .cleanupContinued i error => a.launches[i]?.bind (fun l => a.continueCleanup i l error)
  | .probeCompleted i isOpen => a.launches[i]?.bind (fun l => a.completeProbe i l isOpen)
  | .promotionWoke i => a.launches[i]?.bind (fun l => a.wakePromotion i l)

def step (platform : RuntimePlatform) (a : RealShellControllerAdapter) :
    AdapterEvent → Option RealShellControllerAdapter
  | .connect command => some (a.planConnect platform command).1
  | .disconnect killed => some (a.disconnect killed).1
  | .runtime event => a.runtimeStep platform event

/-- The adapter when it is made, with the contents of the files there are. -/
def initial (now : ℤ) (contents : Text → Option Text) : RealShellControllerAdapter where
  now := now
  files path := (contents path).map (ConfigFile.mk none)
  sessionUpdatedAt := now

end RealShellControllerAdapter

/-! ## A platform

Its profiles differ only in their ids, and so do not differ in their
configurations. -/

namespace RuntimePlatform

@[irreducible] def sampleConfigText : Text :=
  ["\x7b\n  \"run_type\": \"client\",\n  \"local_addr\": \"127.0.0.1\",\n",
    "  \"local_port\": 1080,\n  \"remote_addr\": \"a.b\",\n  \"remote_port\": 443,\n",
    "  \"password\": [\n    \"secret\"\n  ],\n  \"log_level\": 1,\n  \"ssl\": \x7b\n",
    "    \"verify\": true,\n    \"verify_hostname\": true,\n    \"cert\": \"\",\n",
    "    \"sni\": \"a.b\",\n    \"alpn\": [\n      \"h2\",\n      \"http/1.1\"\n    ],\n",
    "    \"reuse_session\": true,\n    \"session_ticket\": false,\n",
    "    \"cipher\": \"ECDHE-ECDSA-AES128-GCM-SHA256:ECDHE-RSA-AES128-GCM-SHA256\",\n",
    "    \"cipher_tls13\": \"TLS_AES_128_GCM_SHA256:TLS_CHACHA20_POLY1305_SHA256\",\n",
    "    \"curves\": \"\"\n  \x7d,\n  \"tcp\": \x7b\n    \"no_delay\": true,\n",
    "    \"keep_alive\": true,\n    \"reuse_port\": false,\n    \"fast_open\": false,\n",
    "    \"fast_open_qlen\": 20\n  \x7d,\n  \"routing\": \x7b\n    \"mode\": \"rule\",\n",
    "    \"defaultAction\": \"proxy\",\n    \"globalAction\": \"proxy\",\n",
    "    \"policyGroups\": [],\n    \"rules\": []\n  \x7d\n\x7d"].flatMap Text.ofString

def sample : RuntimePlatform where
  toRoutingPlatform := ProfilePlatform.sampleWriter.toRoutingPlatform
  encodeIndented _ := sampleConfigText
  isWindows := false
  pathSeparator := Text.ofString "/"
  stateDirectoryPath := Text.ofString "/s"
  runtimeMode := Text.ofString "external-runtime-boundary"

end RuntimePlatform

/-- A process is launched: the events up to the first probe of its port. -/
def launchEvents (i : ℕ) : List RuntimeEvent := List.replicate 6 (.launchContinued i none)
