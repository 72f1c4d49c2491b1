import Trojan.Client.ControllerReports
import Trojan.Util.FileTree
import Trojan.Util.Utf16

/-!
# Recovery from an interrupted session

A client that is started looks at the record of the session before
(`restorePersistedState`). If that was interrupted, the configuration file it names is
deleted, and the runtime directory as well if nothing is left in it.

Only what lies in the runtime directory is to be deleted. What is looked at is the text of
the path: it has to begin with the path of the directory, and a backslash counts as a slash.
Such a path need not lead there: it may go up again, and to the system a backslash is a
letter of a name. What is deleted lies in the directory exactly if the path enters it for
good (`RecoveryPlatform.deletesManaged_iff`).

The paths are those of POSIX. The failure that is read as well, and what is recorded
afterwards, are left out: nothing is deleted there.
-/

/-- What a recovery uses of its platform. -/
structure RecoveryPlatform extends ProfilePlatform where
  /-- `Directory.current` -/
  currentDirectory : Text
  /-- `Directory.systemTemp` -/
  systemTemp : Text
  /-- The bytes of a path, as the system is given them. -/
  encodePath : Text → List UInt8
  /-- The system lets the client delete what is at a location. -/
  mayDelete : Location (List UInt8) → Bool

/-- What is read of the store of the client. -/
structure RecoveryStore where
  /-- `controller.routingSafetyState` -/
  routingSafetyState : Option Text
  /-- `controller.runtimeSessionSnapshot` -/
  runtimeSessionSnapshot : Option Text

/-- What a recovery looks at of a controller that has been started. -/
structure RecoveringController where
  /-- Of the layout of the files, if there is one. -/
  stateDirectoryPath : Option Text
  /-- The session of the adapter is running. -/
  isRunning : Bool
  localStateStore : Option RecoveryStore

/-- **The record of a session.** -/
structure PersistedRuntimeSnapshot where
  statusPhase : Text
  sessionIsRunning : Bool
  sessionActiveConfigPath : Option Text

/-- `/` -/
def Text.slash : UInt16 := 0x2F

/-- `\` -/
def Text.backslash : UInt16 := 0x5C

namespace ClientConnectionPhase

def values : List ClientConnectionPhase :=
  [.disconnected, .connecting, .connected, .disconnecting, .error]

def phaseFromName (name : Text) : Option ClientConnectionPhase :=
  values.find? (fun phase => Text.ofString phase.name == name)

end ClientConnectionPhase

def PersistedRuntimeSnapshot.fromJson (platform : RecoveryPlatform) (value : Json) :
    Option PersistedRuntimeSnapshot := do
  let fields ← value.fields?
  match Json.field fields "statusPhase", Json.field fields "statusMessage",
    Json.field fields "statusUpdatedAt", Json.field fields "sessionIsRunning",
    Json.field fields "sessionUpdatedAt" with
  | .str statusPhase, .str _, .str statusUpdatedAt, .bool sessionIsRunning,
      .str sessionUpdatedAt =>
    let _ ← platform.tryParse statusUpdatedAt
    let _ ← platform.tryParse sessionUpdatedAt
    return {
      statusPhase := statusPhase
      sessionIsRunning := sessionIsRunning
      sessionActiveConfigPath :=
        match Json.field fields "sessionActiveConfigPath" with
        | .str path => some path
        | _ => none }
  | _, _, _, _, _ => none

def PersistedRuntimeSnapshot.shouldRecoverFromSnapshot (snapshot : PersistedRuntimeSnapshot)
    (isRunning : Bool) : Bool :=
  if isRunning then false
  else
    match ClientConnectionPhase.phaseFromName snapshot.statusPhase with
    | none => false
    | some snapshotPhase =>
      snapshot.sessionIsRunning || snapshotPhase == .connecting || snapshotPhase == .connected ||
        snapshotPhase == .disconnecting

/-- A part of a path. -/
def PathStep.ofSegment (segment : List UInt8) : PathStep (List UInt8) :=
  if segment = [] ∨ segment = [0x2E] then .stay
  else if segment = [0x2E, 0x2E] then .up
  else .down segment

namespace RecoveryPlatform

variable (platform : RecoveryPlatform)

/-! ## Paths -/

/-- The absolute path of a file or a directory. -/
def absolute (path : Text) : Text :=
  if path.head? = some Text.slash then path
  else if platform.currentDirectory.getLast? = some Text.slash then
    platform.currentDirectory ++ path
  else platform.currentDirectory ++ Text.slash :: path

/-- **The steps of a path**, from the top. -/
def pathSteps (path : Text) : List (PathStep (List UInt8)) :=
  ((platform.encodePath (platform.absolute path)).splitOnP (· == 0x2F)).map PathStep.ofSegment

def managedRuntimeDirectoryPath (c : RecoveringController) : Text :=
  c.stateDirectoryPath.getD platform.systemTemp ++ Text.slash :: Text.ofString "runtime"

def normalizePathForCompare (path : Text) : Text :=
  path.map (fun unit => if unit = Text.backslash then Text.slash else unit)

def isWithinManagedRuntimeDirectory (c : RecoveringController) (candidatePath : Text) : Bool :=
  let runtimeRoot :=
    normalizePathForCompare (platform.absolute (platform.managedRuntimeDirectoryPath c))
  let candidate := normalizePathForCompare (platform.absolute candidatePath)
  let rootPath :=
    if runtimeRoot.getLast? = some Text.slash then runtimeRoot else runtimeRoot ++ [Text.slash]
  rootPath.isPrefixOf candidate

/-! ## Reading the store -/

/-- The routing safety state is read, and what cannot be read ends the recovery. What is read
does not matter here. -/
def restoreRoutingSafetyState (raw : Option Text) : Except ReadError Unit := do
  let text := raw.getD []
  if text.trim = [] then return ()
  match (← platform.jsonDecode text).fields? with
  | none => return ()
  | some map =>
    let _ ← (Json.field map "quarantineKey").asString
    let _ ← (Json.field map "rollbackReason").asString
    let _ ← (Json.field map "lastKnownGoodProfileId").asString

def readRuntimeSnapshot (raw : Option Text) : Option PersistedRuntimeSnapshot := do
  let text ← raw
  if text.trim = [] then none
  else
    let value ← (platform.jsonDecode text).toOption
    PersistedRuntimeSnapshot.fromJson platform value

/-- The interrupted session, if one is found. -/
def interruptedSession (c : RecoveringController) : Option PersistedRuntimeSnapshot := do
  let store ← c.localStateStore
  let _ ← (platform.restoreRoutingSafetyState store.routingSafetyState).toOption
  let snapshot ← platform.readRuntimeSnapshot store.runtimeSessionSnapshot
  if snapshot.shouldRecoverFromSnapshot c.isRunning then some snapshot else none

/-! ## Deleting files -/

def cleanupRuntimeDirectoryIfEmpty (c : RecoveringController) (files : FileTree (List UInt8)) :
    FileTree (List UInt8) :=
  match files.find .directory (platform.pathSteps (platform.managedRuntimeDirectoryPath c)) with
  | none => files
  | some location =>
    if platform.mayDelete location then files.deleteDirectory location else files

def cleanupRecoveredRuntimeArtifacts (c : RecoveringController)
    (snapshot : PersistedRuntimeSnapshot) (files : FileTree (List UInt8)) :
    FileTree (List UInt8) :=
  match snapshot.sessionActiveConfigPath with
  | none => files
  | some configPath =>
    if configPath.trim = [] then files
    else if !platform.isWithinManagedRuntimeDirectory c configPath then files
    else
      match files.find .file (platform.pathSteps configPath) with
      | none => platform.cleanupRuntimeDirectoryIfEmpty c files
      | some location =>
        -- a deletion that fails ends the cleanup
        if platform.mayDelete location then
          platform.cleanupRuntimeDirectoryIfEmpty c (files.deleteFile location)
        else files

/-- **The files that are left** by a recovery. -/
def restorePersistedState (c : RecoveringController) (files : FileTree (List UInt8)) :
    FileTree (List UInt8) :=
  match platform.interruptedSession c with
  | none => files
  | some snapshot => platform.cleanupRecoveredRuntimeArtifacts c snapshot files

/-! ## What is deleted -/

/-- Where the runtime directory is. -/
def managedRuntimeLocation (c : RecoveringController) : Location (List UInt8) :=
  Location.follow [] (platform.pathSteps (platform.managedRuntimeDirectoryPath c))

/-- **A recovery deletes only managed files**: what was a file and is none any more was in
the runtime directory. -/
def DeletesManaged (c : RecoveringController) (files : FileTree (List UInt8)) : Prop :=
  ∀ location, files.kind location = some .file →
    (platform.restorePersistedState c files).kind location ≠ some .file →
    Location.IsInside (platform.managedRuntimeLocation c) location

/-- **A path is up for deletion**: an interrupted session names it, its text begins like the
runtime directory, and there is a file that may be deleted. -/
structure Condemns (c : RecoveringController) (files : FileTree (List UInt8)) (path : Text) :
    Prop where
  interrupted : ∃ snapshot, platform.interruptedSession c = some snapshot ∧
    snapshot.sessionActiveConfigPath = some path
  given : path.trim ≠ []
  within : platform.isWithinManagedRuntimeDirectory c path = true
  found : ∃ location, files.find .file (platform.pathSteps path) = some location ∧
    platform.mayDelete location = true

variable {platform} {c : RecoveringController} {files : FileTree (List UInt8)}
  {location : Location (List UInt8)}

/-- No file is deleted with the runtime directory. -/
theorem kind_cleanupRuntimeDirectoryIfEmpty_file :
    (platform.cleanupRuntimeDirectoryIfEmpty c files).kind location = some .file ↔
      files.kind location = some .file := by
  unfold cleanupRuntimeDirectoryIfEmpty
  split
  · exact Iff.rfl
  · split
    · exact FileTree.kind_deleteDirectory_file
    · exact Iff.rfl

/-- One path at most is up for deletion. -/
theorem Condemns.unique {path path' : Text} (h : Condemns platform c files path)
    (h' : Condemns platform c files path') : path = path' := by
  obtain ⟨snapshot, hsession, hpath⟩ := h.interrupted
  obtain ⟨snapshot', hsession', hpath'⟩ := h'.interrupted
  rw [hsession] at hsession'
  obtain rfl := Option.some_inj.mp hsession'
  exact Option.some_inj.mp (hpath.symm.trans hpath')

/-- A file whose path is up for deletion is deleted. -/
theorem Condemns.restorePersistedState_eq {path : Text} (h : Condemns platform c files path) :
    ∃ location, files.find .file (platform.pathSteps path) = some location ∧
      platform.restorePersistedState c files =
        platform.cleanupRuntimeDirectoryIfEmpty c (files.deleteFile location) := by
  obtain ⟨snapshot, hsession, hpath⟩ := h.interrupted
  obtain ⟨location, hfound, hmay⟩ := h.found
  refine ⟨location, hfound, ?_⟩
  unfold restorePersistedState cleanupRecoveredRuntimeArtifacts
  simp only [hsession, hpath, if_neg h.given, h.within, Bool.not_true, Bool.false_eq_true,
    if_false, hfound, hmay, if_true]

/-- No file is deleted if no path is up for deletion. -/
theorem kind_restorePersistedState_of_not_condemns
    (h : ∀ path, ¬ Condemns platform c files path) :
    (platform.restorePersistedState c files).kind location = some .file ↔
      files.kind location = some .file := by
  unfold restorePersistedState
  cases hsession : platform.interruptedSession c with
  | none => exact Iff.rfl
  | some snapshot =>
    unfold cleanupRecoveredRuntimeArtifacts
    cases hpath : snapshot.sessionActiveConfigPath with
    | none => simp only [hpath]
    | some path =>
      simp only [hpath]
      split
      · exact Iff.rfl
      · rename_i hgiven
        split
        · exact Iff.rfl
        · rename_i hwithin
          cases hfound : files.find .file (platform.pathSteps path) with
          | none => exact kind_cleanupRuntimeDirectoryIfEmpty_file
          | some found =>
            have hmay : ¬ platform.mayDelete found = true := by
              intro hmay
              exact h path ⟨⟨snapshot, hsession, hpath⟩, hgiven, by simpa using hwithin,
                ⟨found, hfound, hmay⟩⟩
            simp only [if_neg hmay]

/-- **The files that a recovery leaves** are all but the one whose path is up for deletion. -/
theorem kind_restorePersistedState_file :
    (platform.restorePersistedState c files).kind location = some .file ↔
      files.kind location = some .file ∧
        ∀ path, Condemns platform c files path →
          location ≠ Location.follow [] (platform.pathSteps path) := by
  by_cases hcondemned : ∃ path, Condemns platform c files path
  · obtain ⟨path, hpath⟩ := hcondemned
    obtain ⟨found, hfound, hleft⟩ := hpath.restorePersistedState_eq
    obtain ⟨hfollow, hkind⟩ := FileTree.find_eq_some hfound
    rw [hleft, kind_cleanupRuntimeDirectoryIfEmpty_file, FileTree.kind_deleteFile_file hkind,
      hfollow]
    constructor
    · rintro ⟨hfile, hne⟩
      refine ⟨hfile, fun path' hpath' => ?_⟩
      rw [← hpath.unique hpath']
      exact hne
    · rintro ⟨hfile, hall⟩
      exact ⟨hfile, hall path hpath⟩
  · have hnone : ∀ path, ¬ Condemns platform c files path := not_exists.mp hcondemned
    rw [kind_restorePersistedState_of_not_condemns hnone]
    exact ⟨fun hfile => ⟨hfile, fun path hpath => absurd hpath (hnone path)⟩, And.left⟩

/-- **When only managed files are deleted**: exactly if a path that is up for deletion enters
the runtime directory for good. -/
theorem deletesManaged_iff (platform : RecoveryPlatform) (c : RecoveringController)
    (files : FileTree (List UInt8)) :
    platform.DeletesManaged c files ↔
      ∀ path, Condemns platform c files path →
        Location.Enters (platform.managedRuntimeLocation c) (platform.pathSteps path) := by
  constructor
  · intro h path hpath
    obtain ⟨location, hfound, -⟩ := hpath.found
    obtain ⟨hfollow, hkind⟩ := FileTree.find_eq_some hfound
    have hgone : (platform.restorePersistedState c files).kind location ≠ some .file :=
      fun hleft => (kind_restorePersistedState_file.mp hleft).2 path hpath hfollow
    have hinside := h location hkind hgone
    rw [hfollow] at hinside
    exact Location.isInside_follow_iff.mp hinside
  · intro h location hkind hgone
    rw [Ne, kind_restorePersistedState_file, not_and] at hgone
    obtain ⟨path, hnot⟩ := not_forall.mp (hgone hkind)
    obtain ⟨hpath, hfollow⟩ := Classical.not_imp.mp hnot
    rw [not_not.mp hfollow]
    exact Location.isInside_follow_iff.mpr (h path hpath)

/-! ## A path that goes up again -/

/-- The name of a file. -/
def fileName (name : String) : List UInt8 := (Text.ofString name).utf8

/-- A path that begins in the runtime directory and leads to a home directory. -/
def climbingPath : Text := Text.ofString "/s/runtime/../../home/notes"

/-- The record of a session that was connected, with this path. -/
def climbingRecord : Text :=
  Text.ofString "\x7b\"statusPhase\":\"connected\",\"statusMessage\":\"\"," ++
    Text.ofString "\"statusUpdatedAt\":\"1970-01-01T00:00:00.000Z\"," ++
    Text.ofString "\"sessionIsRunning\":true," ++
    Text.ofString "\"sessionActiveConfigPath\":\"/s/runtime/../../home/notes\"," ++
    Text.ofString "\"sessionUpdatedAt\":\"1970-01-01T00:00:00.000Z\"\x7d"

/-- What the record says. -/
def climbingFields : List (String × Json) :=
  [("statusPhase", .str (Text.ofString "connected")),
    ("statusMessage", .str []),
    ("statusUpdatedAt", .str (Text.ofString "1970-01-01T00:00:00.000Z")),
    ("sessionIsRunning", .bool true),
    ("sessionActiveConfigPath", .str climbingPath),
    ("sessionUpdatedAt", .str (Text.ofString "1970-01-01T00:00:00.000Z"))]

/-- A platform that decodes this record. -/
def climbingPlatform : RecoveryPlatform :=
  { ProfilePlatform.sampleWriter with
    jsonDecode := fun text =>
      if text = climbingRecord then .ok (.obj climbingFields)
      else .error (.formatException "Unexpected character")
    currentDirectory := Text.ofString "/"
    systemTemp := Text.ofString "/tmp"
    encodePath := fun path => path.utf8.takeWhile (· != 0)
    mayDelete := fun _ => true }

/-- A client whose files are kept in a directory, started after this session. -/
def climbingController : RecoveringController where
  stateDirectoryPath := some (Text.ofString "/s")
  isRunning := false
  localStateStore := some ⟨none, some climbingRecord⟩

/-- An empty runtime directory, and a file in a home directory. -/
def climbingFiles : FileTree (List UInt8) where
  entries := [
    ([fileName "s"], .directory),
    ([fileName "runtime", fileName "s"], .directory),
    ([fileName "home"], .directory),
    ([fileName "notes", fileName "home"], .file)]
  nested := by decide +kernel

/-- The session of the record is taken for interrupted. -/
theorem interruptedSession_climbing :
    climbingPlatform.interruptedSession climbingController =
      some ⟨Text.ofString "connected", true, some climbingPath⟩ := by
  have hdecode : climbingPlatform.jsonDecode climbingRecord = .ok (.obj climbingFields) := by
    simp only [climbingPlatform, if_true]
  have hmem : (0x7B : UInt16) ∈ climbingRecord := by
    unfold climbingRecord
    simp only [List.mem_append]
    exact .inl (.inl (.inl (.inl (by decide +kernel))))
  have hblank : climbingRecord.trim ≠ [] := Text.trim_ne_nil hmem (by decide)
  have hjson : PersistedRuntimeSnapshot.fromJson climbingPlatform (.obj climbingFields) =
      some ⟨Text.ofString "connected", true, some climbingPath⟩ := by
    simp [PersistedRuntimeSnapshot.fromJson, climbingFields, climbingPlatform,
      ProfilePlatform.sampleWriter]
  have hrecover : PersistedRuntimeSnapshot.shouldRecoverFromSnapshot
      ⟨Text.ofString "connected", true, some climbingPath⟩ false = true := by
    decide +kernel
  simp [interruptedSession, readRuntimeSnapshot, climbingController, restoreRoutingSafetyState,
    hblank, hdecode, hjson, hrecover, Except.toOption, pure, Except.pure]

/-- Its path is up for deletion. -/
theorem condemns_climbing :
    Condemns climbingPlatform climbingController climbingFiles climbingPath where
  interrupted := ⟨_, interruptedSession_climbing, rfl⟩
  given := by decide +kernel
  within := by decide +kernel
  found := ⟨[fileName "notes", fileName "home"], by decide +kernel, rfl⟩

/-- The file in the home directory is deleted. -/
theorem not_deletesManaged_climbing :
    ¬ climbingPlatform.DeletesManaged climbingController climbingFiles := by
  intro h
  obtain ⟨location, hfound, -⟩ := condemns_climbing.found
  obtain ⟨hfollow, hkind⟩ := FileTree.find_eq_some hfound
  have hgone : (climbingPlatform.restorePersistedState climbingController climbingFiles).kind
      location ≠ some .file :=
    fun hleft => (kind_restorePersistedState_file.mp hleft).2 _ condemns_climbing hfollow
  obtain ⟨names, -, heq⟩ := h location hkind hgone
  have houtside : ¬ climbingPlatform.managedRuntimeLocation climbingController <:+
      Location.follow [] (climbingPlatform.pathSteps climbingPath) := by
    decide +kernel
  exact houtside ⟨names, (hfollow.symm.trans heq).symm⟩

end RecoveryPlatform
