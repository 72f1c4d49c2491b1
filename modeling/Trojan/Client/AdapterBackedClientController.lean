import Mathlib.Data.Finset.Insert
import Trojan.Client.RealShellControllerAdapter

/-!
# Connecting and disconnecting

`AdapterBackedClientController` (`client/lib/features/controller/application`) is
what the rest of the client talks to. A *connect* reads the password, has the
adapter launch the profile, and tries the routing with a *mini smoke*. If that
fails it rolls back to the last profile that was good, and a profile that has
failed twice within half an hour is *quarantined*: it is not connected any more.
A *watcher* looks at the adapter from time to time and corrects the status.

An operation is a task like those of the adapter: what is kept of it is what it is
waiting for. A flag keeps a second operation from being started meanwhile, but not
the watcher, nor what the runtime does.

What is kept in the store of the client is the routing safety state, as the JSON
value that its text decodes to: there is none if there is no text, or one that is
not JSON. A controller without a store goes on as if every write succeeded. The
other records in the store, which are written as well as can be and never end an
operation, are left out, and with them the session that is recovered from them when
the client starts. So are messages, the history of events and metrics.
-/

inductive ClientConnectionPhase where
  | disconnected
  | connecting
  | connected
  | disconnecting
  | error
  deriving DecidableEq, Repr

structure ClientConnectionStatus where
  phase : ClientConnectionPhase
  activeProfileId : Option Text := none
  errorCode : Option ControllerError := none
  safeModeActive : Bool := false
  quarantineKey : Option Text := none
  rollbackReason : Option Text := none
  deriving DecidableEq, Repr

/-! ## Failures of a profile (`routing_runtime_safety.dart`) -/

/-- The times at which each candidate has failed. -/
abbrev RoutingRollbackWindowTracker : Type := Text → List ℤ

namespace RoutingRollbackWindowTracker

def maxRollbacks : ℕ := 2

/-- Half an hour. -/
def window : ℤ := 30 * 60 * 1000000

def recordFailure (history : RoutingRollbackWindowTracker) (candidateKey : Text) (time : ℤ) :
    RoutingRollbackWindowTracker × Bool :=
  let key := candidateKey.trim
  if key.isEmpty then (history, false)
  else
    let kept := (history key ++ [time]).filter (fun timestamp => time - window ≤ timestamp)
    (Function.update history key kept, maxRollbacks ≤ kept.length)

def clear (history : RoutingRollbackWindowTracker) (candidateKey : Text) :
    RoutingRollbackWindowTracker :=
  let key := candidateKey.trim
  if key.isEmpty then history else Function.update history key []

end RoutingRollbackWindowTracker

/-- The keys of the candidates that are quarantined. -/
abbrev RoutingQuarantineRegistry : Type := Finset Text

namespace RoutingQuarantineRegistry

def isQuarantined (registry : RoutingQuarantineRegistry) (candidateKey : Text) : Bool :=
  let key := candidateKey.trim
  !key.isEmpty && decide (key ∈ registry)

def quarantine (registry : RoutingQuarantineRegistry) (candidateKey : Text) :
    RoutingQuarantineRegistry :=
  let key := candidateKey.trim
  if key.isEmpty then registry else insert key registry

end RoutingQuarantineRegistry

/-! ## The state -/

structure RoutingMiniSmokeResult where
  passed : Bool
  reason : Text
  deriving DecidableEq, Repr

structure RoutingSafetyState where
  safeModeActive : Bool
  quarantineKey : Option Text
  rollbackReason : Option Text
  lastKnownGoodProfileId : Option Text
  deriving DecidableEq, Repr

/-- What a call gives: of which profile, by which launch, with which result. -/
structure Answer where
  profileId : Option Text
  launch : Option ℕ := none
  error : Option ControllerError
  deriving DecidableEq, Repr

/-- What an operation is waiting for. -/
inductive Operation where
  /-- The connect of a quarantined profile waits for the store. -/
  | storingQuarantine (profileId : Text) (payload : Json)
  | readingPassword (profile : ClientProfile)
  /-- The adapter is launching the profile. -/
  | launching (profile : ClientProfile) (launch : ℕ)
  /-- The adapter has refused to launch the profile. -/
  | refused (profile : ClientProfile) (error : ControllerError)
  | smoking (profile : ClientProfile) (launch : ℕ)
  /-- The adapter has been told to go back to the last good profile. It may be
  launching it. -/
  | rollingBack (profile : ClientProfile) (launch : ℕ) (quarantined : Bool) (reason : Text)
    (fallback : Option ℕ)
  | storingRollback (profileId : Text) (launch : ℕ) (quarantined : Bool) (payload : Json)
  | storingSuccess (profileId : Text) (launch : ℕ) (payload : Json)
  | disconnecting (activeProfileId : Option Text)
  | disconnectAnswered (activeProfileId : Option Text) (result : ControllerCommandResult)
  | finishing (answer : Answer)

/-- A call that has returned, and what there was at that moment: the running
process, the profile it was launched for, and the last good profile. -/
structure Returned where
  answer : Answer
  runningProcess : Option ℕ
  runningProfileId : Option Text
  lastKnownGoodProfileId : Option Text
  deriving DecidableEq, Repr

/-- The controller, with the adapter and the store it works with, and a record of
the calls that have returned. -/
structure AdapterBackedClientController where
  adapter : RealShellControllerAdapter
  status : ClientConnectionStatus := { phase := .disconnected }
  lastSessionUpdatedAt : ℤ
  operation : Option Operation := none
  lastKnownGoodProfileId : Option Text := none
  rollbackWindowTracker : RoutingRollbackWindowTracker := fun _ => []
  quarantineRegistry : RoutingQuarantineRegistry := ∅
  stored : Option Json := none
  returned : List Returned := []

/-- The calls, what an operation waits for, and what happens by itself. What may
throw an exception has `none` for it. -/
inductive ControllerEvent where
  | connect (profile : ClientProfile)
  | disconnect
  | passwordRead (password : Option (Option Text))
  | adapterAnswered
  | smokeCompleted (result : Option RoutingMiniSmokeResult)
  | stateStored (succeeded : Bool)
  /-- The disconnect goes on, and the process is told to stop. -/
  | disconnectRequested (killed : Bool)
  | finished
  | watcherTick
  | runtime (event : RuntimeEvent)

namespace AdapterBackedClientController

/-! ## What is stored -/

/-- The value that is stored of the routing safety state. -/
def routingSafetyState (c : AdapterBackedClientController) : Json :=
  .obj [("safeModeActive", .bool c.status.safeModeActive),
    ("quarantineKey", (c.status.quarantineKey.map Json.str).getD .null),
    ("rollbackReason", (c.status.rollbackReason.map Json.str).getD .null),
    ("lastKnownGoodProfileId", (c.lastKnownGoodProfileId.map Json.str).getD .null)]

/-- The routing safety state of this moment is written, which the operation waits
for. -/
def persistRoutingSafetyState (c : AdapterBackedClientController) (operation : Json → Operation) :
    AdapterBackedClientController :=
  { c with operation := some (operation c.routingSafetyState) }

/-- What is stored, if it can be read: a value of another type ends the reading. -/
def readRoutingSafetyState (stored : Option Json) : Option RoutingSafetyState := do
  let map ← stored.bind Json.fields?
  let quarantineKey ← (Json.field map "quarantineKey").asString.toOption
  let rollbackReason ← (Json.field map "rollbackReason").asString.toOption
  let lastKnownGoodProfileId ← (Json.field map "lastKnownGoodProfileId").asString.toOption
  return {
    safeModeActive := match Json.field map "safeModeActive" with
      | .bool value => value
      | _ => false
    quarantineKey := quarantineKey
    rollbackReason := rollbackReason
    lastKnownGoodProfileId := lastKnownGoodProfileId }

def restoreRoutingSafetyState (c : AdapterBackedClientController) :
    AdapterBackedClientController :=
  match readRoutingSafetyState c.stored with
  | none => c
  | some state =>
    { c with
      status := { c.status with
        safeModeActive := state.safeModeActive
        quarantineKey := state.quarantineKey.filter (fun key => !key.trim.isEmpty)
        rollbackReason := state.rollbackReason.filter (fun reason => !reason.trim.isEmpty) }
      lastKnownGoodProfileId := state.lastKnownGoodProfileId
      quarantineRegistry := c.quarantineRegistry.quarantine (state.quarantineKey.getD []) }

/-- A controller that has just been started, with what an earlier one has left in
the store. -/
def restarted (adapter : RealShellControllerAdapter) (stored : Option Json) :
    AdapterBackedClientController :=
  restoreRoutingSafetyState {
    adapter := adapter
    lastSessionUpdatedAt := adapter.sessionUpdatedAt
    stored := stored }

section Restarted

variable (adapter : RealShellControllerAdapter) (stored : Option Json)

@[simp] theorem restarted_adapter : (restarted adapter stored).adapter = adapter := by
  unfold restarted restoreRoutingSafetyState
  split
  · rfl
  · rfl

@[simp] theorem restarted_operation : (restarted adapter stored).operation = none := by
  unfold restarted restoreRoutingSafetyState
  split
  · rfl
  · rfl

@[simp] theorem restarted_returned : (restarted adapter stored).returned = [] := by
  unfold restarted restoreRoutingSafetyState
  split
  · rfl
  · rfl

@[simp] theorem restarted_stored : (restarted adapter stored).stored = stored := by
  unfold restarted restoreRoutingSafetyState
  split
  · rfl
  · rfl

end Restarted

/-! ## Connecting -/

variable (platform : RuntimePlatform) (c : AdapterBackedClientController)

/-- The name of a file keeps only letters, digits and a few marks of the id. -/
def safeUnit (unit : UInt16) : UInt16 :=
  if (0x41 ≤ unit ∧ unit ≤ 0x5A) ∨ (0x61 ≤ unit ∧ unit ≤ 0x7A) ∨ (0x30 ≤ unit ∧ unit ≤ 0x39) ∨
    unit = 0x2E ∨ unit = 0x5F ∨ unit = 0x2D then unit else 0x5F

def configPathFor (profileId : Text) : Text :=
  platform.stateDirectoryPath ++ platform.pathSeparator ++ Text.ofString "runtime" ++
    platform.pathSeparator ++ Text.ofString "runtime-profile-" ++ profileId.map safeUnit ++
    Text.ofString ".json"

def connectCommand (profile : ClientProfile) (password : Text) : ControllerCommand where
  issuedAt := ⟨c.adapter.now, false⟩
  profileId := some profile.id
  profileName := some profile.name
  serverHost := some profile.serverHost
  serverPort := some profile.serverPort
  localSocksPort := some profile.localSocksPort
  sni := some profile.sni
  verifyTls := some profile.verifyTls
  configPath := some (configPathFor platform profile.id)
  routing := .obj (RoutingProfileCodec.encodeToJsonMap platform.toRoutingPlatform profile.routing)
  trojanPassword := some password

/-- The command to go back has no arguments but its mark and the reason, which
nothing reads. -/
def rollbackCommand (fallbackProfileId : Text) : ControllerCommand where
  issuedAt := ⟨c.adapter.now, false⟩
  profileId := some fallbackProfileId

/-- An operation ends by an exception. -/
def thrown : AdapterBackedClientController := { c with operation := none }

/-- The profile that the running process was launched for. -/
def runningProfileId : Option Text :=
  c.adapter.runningProcess.bind (fun i => c.adapter.launches[i]?.map Launch.profileId)

/-- A call returns. -/
def returning (answer : Answer) : AdapterBackedClientController :=
  { c with
    returned := {
      answer := answer
      runningProcess := c.adapter.runningProcess
      runningProfileId := c.runningProfileId
      lastKnownGoodProfileId := c.lastKnownGoodProfileId } :: c.returned }

/-- A connect is not carried out: the status says so, and names the profile. -/
def refuseConnect (profile : ClientProfile) (error : ControllerError) :
    AdapterBackedClientController :=
  { c with
    status := { c.status with
      phase := .error
      activeProfileId := some profile.id
      errorCode := some error }
    operation := some (.finishing { profileId := some profile.id, error := some error }) }

/-- A connect, up to the first time it waits. -/
def connect (profile : ClientProfile) : AdapterBackedClientController :=
  if c.operation.isSome then
    c.returning { profileId := some profile.id, error := some .operationInProgress }
  else if c.quarantineRegistry.isQuarantined profile.id then
    { c with
      status := { c.status with
        phase := .error
        activeProfileId := some profile.id
        errorCode := some .routingQuarantined
        safeModeActive := true
        quarantineKey := some profile.id } }.persistRoutingSafetyState
      (.storingQuarantine profile.id)
  else { c with operation := some (.readingPassword profile) }

/-- The adapter is told to launch the profile. -/
def executeConnect (profile : ClientProfile) (password : Text) : AdapterBackedClientController :=
  match c.adapter.planConnect platform (c.connectCommand platform profile password) with
  | (adapter, .threw _) => { c with adapter := adapter, operation := none }
  | (adapter, .refused error) =>
    { c with adapter := adapter, operation := some (.refused profile error) }
  | (adapter, .launched launch) =>
    { c with adapter := adapter, operation := some (.launching profile launch) }

def acceptedPhaseForConnect : ClientConnectionPhase :=
  if Text.ofString "stubbed-local-boundary" <+: platform.runtimeMode then .connected
  else if c.adapter.runtimePhase = .sessionReady then .connected
  else .connecting

/-- The profile is launched, and its routing is tried. -/
def acceptConnect (profile : ClientProfile) (launch : ℕ) : AdapterBackedClientController :=
  { c with
    status := {
      phase := c.acceptedPhaseForConnect platform
      activeProfileId := some profile.id
      quarantineKey := c.status.quarantineKey }
    operation := some (.smoking profile launch) }

/-- The adapter is told to go back to the last good profile, if there is another
one. -/
def rollbackToLastKnownGood (profile : ClientProfile) (launch : ℕ) (quarantined : Bool)
    (reason : Text) : AdapterBackedClientController :=
  match c.lastKnownGoodProfileId with
  | none => { c with operation := some (.rollingBack profile launch quarantined reason none) }
  | some fallbackProfileId =>
    if fallbackProfileId = profile.id then
      { c with operation := some (.rollingBack profile launch quarantined reason none) }
    else
      match c.adapter.planConnect platform (c.rollbackCommand fallbackProfileId) with
      | (adapter, .threw _) => { c with adapter := adapter, operation := none }
      | (adapter, .refused _) =>
        { c with
          adapter := adapter
          operation := some (.rollingBack profile launch quarantined reason none) }
      | (adapter, .launched fallback) =>
        { c with
          adapter := adapter
          operation := some (.rollingBack profile launch quarantined reason (some fallback)) }

/-- A failure of the profile now would have it quarantined. -/
def quarantines (profile : ClientProfile) : Bool :=
  (c.rollbackWindowTracker.recordFailure profile.id c.adapter.now).2

/-- A failure of the profile is recorded. -/
def noteFailure (profile : ClientProfile) : AdapterBackedClientController :=
  { c with
    rollbackWindowTracker :=
      (c.rollbackWindowTracker.recordFailure profile.id c.adapter.now).1
    quarantineRegistry := if c.quarantines profile then c.quarantineRegistry.quarantine profile.id
      else c.quarantineRegistry }

/-- The mini smoke has failed. -/
def smokeFailed (profile : ClientProfile) (launch : ℕ) (reason : Text) :
    AdapterBackedClientController :=
  (c.noteFailure profile).rollbackToLastKnownGood platform profile launch (c.quarantines profile)
    reason

/-- The adapter has answered the command to go back, whatever it has answered. -/
def rolledBack (profile : ClientProfile) (launch : ℕ) (quarantined : Bool) (reason : Text) :
    AdapterBackedClientController :=
  { c with
    status := {
      phase := .error
      activeProfileId := some profile.id
      errorCode := some .routingApplyRolledBack
      safeModeActive := true
      quarantineKey := if quarantined then some profile.id else c.status.quarantineKey
      rollbackReason := some reason } }.persistRoutingSafetyState
    (.storingRollback profile.id launch quarantined)

/-- The mini smoke has passed. -/
def smokePassed (profile : ClientProfile) (launch : ℕ) : AdapterBackedClientController :=
  { c with
    lastKnownGoodProfileId := some profile.id
    rollbackWindowTracker :=
      c.rollbackWindowTracker.clear profile.id }.persistRoutingSafetyState
    (.storingSuccess profile.id launch)

/-! ## Disconnecting -/

/-- A disconnect, up to the first time it waits. -/
def disconnect : AdapterBackedClientController :=
  if c.operation.isSome then
    c.returning { profileId := none, error := some .operationInProgress }
  else
    { c with
      status := { c.status with phase := .disconnecting, errorCode := none }
      operation := some (.disconnecting c.status.activeProfileId) }

def executeDisconnect (activeProfileId : Option Text) (killed : Bool) :
    AdapterBackedClientController :=
  let executed := c.adapter.disconnect killed
  { c with
    adapter := executed.1
    operation := some (.disconnectAnswered activeProfileId executed.2) }

/-- The adapter has answered the command to disconnect. -/
def disconnectAnswered (activeProfileId : Option Text) (result : ControllerCommandResult) :
    AdapterBackedClientController :=
  { c with
    status :=
      if !result.accepted then
        { c.status with
          phase := .error
          activeProfileId := activeProfileId
          errorCode := result.error }
      else if c.adapter.isRunning then
        { c.status with
          phase := .disconnecting
          activeProfileId := activeProfileId
          errorCode := none }
      else
        { c.status with
          phase := .disconnected
          activeProfileId := none
          errorCode := none }
    operation := some (.finishing { profileId := none, error := result.error }) }

/-! ## The watcher -/

/-- The status after a session has ended. -/
def endedStatus : ClientConnectionStatus :=
  if c.status.phase = .disconnecting then
    { c.status with phase := .disconnected, activeProfileId := none, errorCode := none }
  else if !((c.adapter.lastError.getD []).trim.isEmpty) then
    { c.status with phase := .error, errorCode := some .runtimeSessionError }
  else if c.adapter.lastExitCode.getD 0 ≠ 0 then
    { c.status with phase := .error, errorCode := some .runtimeSessionExitNonzero }
  else { c.status with phase := .disconnected, activeProfileId := none, errorCode := none }

/-- The status that the watcher finds right. While a process is running it only
notices that its session is ready; the other changes it makes then are to the
message. -/
def reconcileStatusWithSession : ClientConnectionStatus :=
  if c.adapter.isRunning then
    if c.status.phase = .connecting ∧ c.adapter.runtimePhase = .sessionReady then
      { c.status with
        phase := .connected
        errorCode := none
        safeModeActive := false
        rollbackReason := none }
    else c.status
  else
    match c.status.phase with
    | .connected | .connecting | .disconnecting => c.endedStatus
    | .disconnected | .error => c.status

def watch : AdapterBackedClientController :=
  if c.lastSessionUpdatedAt = c.adapter.sessionUpdatedAt then c
  else
    { c with
      lastSessionUpdatedAt := c.adapter.sessionUpdatedAt
      status := c.reconcileStatusWithSession }

/-- The watcher changes the status, and sees the adapter as it is. -/
theorem watch_cases :
    c.watch = c ∨ c.watch = { c with
      lastSessionUpdatedAt := c.adapter.sessionUpdatedAt
      status := c.reconcileStatusWithSession } := by
  unfold watch
  split
  · exact .inl rfl
  · exact .inr rfl

/-! ## All steps -/

/-- Whether the task of a launch has ended, if there is one to wait for. -/
def answeredLaunch (fallback : Option ℕ) : Bool :=
  match fallback.bind (fun launch => c.adapter.launches[launch]?) with
  | none => true
  | some l =>
    match l.stage with
    | .started | .failed _ => true
    | _ => false

/-- The adapter answers the command that an operation waits for. -/
def continueAnswered : Operation → Option AdapterBackedClientController
  | .launching profile launch =>
    c.adapter.launches[launch]?.bind (fun l =>
      match l.stage with
      | .started => some (c.acceptConnect platform profile launch)
      | .failed error => some (c.refuseConnect profile (.exception error))
      | _ => none)
  | .refused profile error => some (c.refuseConnect profile error)
  | .rollingBack profile launch quarantined reason fallback =>
    if c.answeredLaunch fallback then some (c.rolledBack profile launch quarantined reason)
    else none
  | .disconnectAnswered activeProfileId result =>
    some (c.disconnectAnswered activeProfileId result)
  | _ => none

/-- The password has been read. -/
def continuePassword (profile : ClientProfile) :
    Option (Option Text) → AdapterBackedClientController
  | none => c.thrown
  | some password =>
    if (password.getD []).trim.isEmpty then c.refuseConnect profile .missingTrojanPassword
    else c.executeConnect platform profile (password.getD [])

/-- The mini smoke is over. -/
def continueSmoke (profile : ClientProfile) (launch : ℕ) :
    Option RoutingMiniSmokeResult → AdapterBackedClientController
  | none => c.thrown
  | some result =>
    if result.passed then c.smokePassed profile launch
    else c.smokeFailed platform profile launch result.reason

/-- What is written when an operation waits for the store, and what it answers
when it is. -/
def storing : Operation → Option (Json × Answer)
  | .storingQuarantine profileId payload =>
    some (payload, { profileId := some profileId, error := some .routingQuarantined })
  | .storingRollback profileId launch quarantined payload =>
    some (payload, {
      profileId := some profileId
      launch := some launch
      error := some (if quarantined then .routingApplyRolledBackQuarantined
        else .routingApplyRolledBack) })
  | .storingSuccess profileId launch payload =>
    some (payload, { profileId := some profileId, launch := some launch, error := none })
  | _ => none

/-- The store has written, or has failed to. -/
def continueStored (payload : Json) (answer : Answer) (succeeded : Bool) :
    AdapterBackedClientController :=
  if succeeded then
    { c with stored := some payload, operation := some (.finishing answer) }
  else c.thrown

def step : ControllerEvent → Option AdapterBackedClientController
  | .connect profile => some (c.connect profile)
  | .disconnect => some c.disconnect
  | .passwordRead password =>
    match c.operation with
    | some (.readingPassword profile) => some (c.continuePassword platform profile password)
    | _ => none
  | .adapterAnswered => c.operation.bind (c.continueAnswered platform)
  | .smokeCompleted result =>
    match c.operation with
    | some (.smoking profile launch) => some (c.continueSmoke platform profile launch result)
    | _ => none
  | .stateStored succeeded =>
    (c.operation.bind storing).map (fun written =>
      c.continueStored written.1 written.2 succeeded)
  | .disconnectRequested killed =>
    match c.operation with
    | some (.disconnecting activeProfileId) => some (c.executeDisconnect activeProfileId killed)
    | _ => none
  | .finished =>
    match c.operation with
    | some (.finishing answer) => some { c.returning answer with operation := none }
    | _ => none
  | .watcherTick => some c.watch
  | .runtime event =>
    (c.adapter.runtimeStep platform event).map (fun adapter => { c with adapter := adapter })

variable {platform c} {t : AdapterBackedClientController}

/-- Without the arguments of a connect there is nothing to launch. -/
theorem planConnect_rollbackCommand (fallbackProfileId : Text) :
    c.adapter.planConnect platform (c.rollbackCommand fallbackProfileId)
      = (c.adapter, .refused .missingConnectInputs) :=
  rfl

/-- **A rollback launches nothing**: the adapter stays as it is. -/
theorem rollbackToLastKnownGood_eq (profile : ClientProfile) (launch : ℕ) (quarantined : Bool)
    (reason : Text) :
    c.rollbackToLastKnownGood platform profile launch quarantined reason
      = { c with operation := some (.rollingBack profile launch quarantined reason none) } := by
  unfold rollbackToLastKnownGood
  split
  · rfl
  · split
    · rfl
    · rw [planConnect_rollbackCommand]

theorem step_passwordRead {password : Option (Option Text)}
    (h : c.step platform (.passwordRead password) = some t) :
    ∃ profile, c.operation = some (.readingPassword profile) ∧
      t = c.continuePassword platform profile password := by
  simp only [step] at h
  split at h
  · exact ⟨_, ‹_›, (Option.some.inj h).symm⟩
  · cases h

/-- What the adapter answers, and what comes of it. -/
theorem step_adapterAnswered (h : c.step platform .adapterAnswered = some t) :
    (∃ profile launch, ∃ l : Launch, c.operation = some (.launching profile launch) ∧
      c.adapter.launches[launch]? = some l ∧
      ((l.stage = .started ∧ t = c.acceptConnect platform profile launch) ∨
        ∃ error, l.stage = .failed error ∧ t = c.refuseConnect profile (.exception error))) ∨
    (∃ profile error, c.operation = some (.refused profile error) ∧
      t = c.refuseConnect profile error) ∨
    (∃ profile launch quarantined reason fallback,
      c.operation = some (.rollingBack profile launch quarantined reason fallback) ∧
      c.answeredLaunch fallback = true ∧ t = c.rolledBack profile launch quarantined reason) ∨
    ∃ activeProfileId result, c.operation = some (.disconnectAnswered activeProfileId result) ∧
      t = c.disconnectAnswered activeProfileId result := by
  obtain ⟨operation, hop, h⟩ := Option.bind_eq_some_iff.mp h
  cases operation with
  | launching profile launch =>
    obtain ⟨l, hl, h⟩ := Option.bind_eq_some_iff.mp h
    split at h
    · exact .inl ⟨profile, launch, l, hop, hl, .inl ⟨‹_›, (Option.some.inj h).symm⟩⟩
    · exact .inl ⟨profile, launch, l, hop, hl, .inr ⟨_, ‹_›, (Option.some.inj h).symm⟩⟩
    · cases h
  | refused profile error => exact .inr (.inl ⟨profile, error, hop, (Option.some.inj h).symm⟩)
  | rollingBack profile launch quarantined reason fallback =>
    obtain ⟨hanswered, h⟩ := Option.ite_none_right_eq_some.mp h
    exact .inr (.inr (.inl ⟨_, _, _, _, _, hop, hanswered, (Option.some.inj h).symm⟩))
  | disconnectAnswered activeProfileId result =>
    exact .inr (.inr (.inr ⟨_, _, hop, (Option.some.inj h).symm⟩))
  | storingQuarantine | readingPassword | smoking | storingRollback | storingSuccess
  | disconnecting | finishing => cases h

theorem step_smokeCompleted {result : Option RoutingMiniSmokeResult}
    (h : c.step platform (.smokeCompleted result) = some t) :
    ∃ profile launch, c.operation = some (.smoking profile launch) ∧
      t = c.continueSmoke platform profile launch result := by
  simp only [step] at h
  split at h
  · exact ⟨_, _, ‹_›, (Option.some.inj h).symm⟩
  · cases h

theorem step_stateStored {succeeded : Bool}
    (h : c.step platform (.stateStored succeeded) = some t) :
    ∃ operation payload answer, c.operation = some operation ∧
      storing operation = some (payload, answer) ∧
      t = c.continueStored payload answer succeeded := by
  obtain ⟨⟨payload, answer⟩, hwritten, rfl⟩ := Option.map_eq_some_iff.mp h
  obtain ⟨operation, hop, hwritten⟩ := Option.bind_eq_some_iff.mp hwritten
  exact ⟨operation, payload, answer, hop, hwritten, rfl⟩

theorem step_disconnectRequested {killed : Bool}
    (h : c.step platform (.disconnectRequested killed) = some t) :
    ∃ activeProfileId, c.operation = some (.disconnecting activeProfileId) ∧
      t = c.executeDisconnect activeProfileId killed := by
  simp only [step] at h
  split at h
  · exact ⟨_, ‹_›, (Option.some.inj h).symm⟩
  · cases h

theorem step_finished (h : c.step platform .finished = some t) :
    ∃ answer, c.operation = some (.finishing answer) ∧
      t = { c.returning answer with operation := none } := by
  simp only [step] at h
  split at h
  · exact ⟨_, ‹_›, (Option.some.inj h).symm⟩
  · cases h

theorem step_watcherTick (h : c.step platform .watcherTick = some t) :
    t = c ∨ t = { c with
      lastSessionUpdatedAt := c.adapter.sessionUpdatedAt
      status := c.reconcileStatusWithSession } := by
  obtain rfl := Option.some.inj h
  exact c.watch_cases

/-! ## Events to begin with -/

def sampleProfile (id : String) : ClientProfile :=
  { ProfilePlatform.sampleProfile with id := Text.ofString id, routing := .defaults }

/-- A controller that finds nothing in the store, and no files. -/
abbrev sampleStart : AdapterBackedClientController := restarted (.initial 0 (fun _ => none)) none

/-- A connect, up to its mini smoke. -/
def connectEvents (id : String) (launch : ℕ) : List ControllerEvent :=
  [.connect (sampleProfile id), .passwordRead (some (some (Text.ofString "secret")))] ++
    (launchEvents launch).map .runtime ++ [.adapterAnswered]

/-- A connect that succeeds. -/
def goodConnectEvents (id : String) (launch : ℕ) : List ControllerEvent :=
  connectEvents id launch ++ [.smokeCompleted (some ⟨true, []⟩), .stateStored true, .finished]

end AdapterBackedClientController
