import Mathlib.Data.Nat.Digits.Defs
import Trojan.Util.Machine
import Trojan.Util.Text

/-!
# One instance on a desktop

The client is to run once. A process that starts locks a file of the temporary directory
(`platform/services/desktop_instance_guard.dart`); the one that has the lock is the primary
instance, and opens a server on the loopback interface through which the others can ask it
to show its window. Where the server is, and what to say to it, stands in a second file:
the port, and a nonce of the time and the process id. A process that does not get the lock
reads that file, sends the nonce to that port and exits.

Every `await` of the source is a point where other processes run, and any process can crash
at any of them. So a process is in a phase, named after what it waits for, and an event is
the completion of one such wait. The lock, the file and the ports are those of the
operating system: a lock that is exclusive, and that goes with its process, a file that
stays, and is written piece by piece, and ports with one server each.
-/

/-- Where a process is in its calls. The phases are what it waits for: `refused` is the
`close` of the handle that it could not lock, `writing` the writing of the endpoint. -/
inductive DesktopInstanceGuard.Phase (Pid : Type) where
  | apart
  | opening
  | locking
  | refused
  | looking
  | reading
  /-- `seen` is who had the lock when the endpoint was read. -/
  | connecting (port : ℤ) (nonce : Text) (seen : Option Pid)
  | secondary
  | binding
  | writing
  | primary
  | closingServer
  | deleting
  | unlocking
  | closing
  | released
  /-- An exception that nothing catches. -/
  | failed
  | crashed
  deriving DecidableEq

open DesktopInstanceGuard in
/-- **The static fields of `DesktopInstanceGuard` in one process**, and what has become of
its focus handler: who has had it called, and who had the lock then. `listens` says that
`forEach` has been called on the server. -/
structure DesktopInstanceGuard (Pid : Type) where
  phase : Phase Pid := .apart
  lockHandle : Bool := false
  focusServer : Option ℕ := none
  focusNonce : Option Text := none
  listens : Bool := false
  focusRequestHandler : Bool := false
  focused : List (Pid × Option Pid) := []

namespace DesktopInstanceGuard

/-! ## Texts -/

/-- A digit of `toRadixString`. -/
def digit (d : ℕ) : UInt16 := if d < 10 then (0x30 + d).toUInt16 else (0x61 + (d - 10)).toUInt16

/-- `toRadixString`, of a number that is not negative. -/
def toRadixString (radix n : ℕ) : Text :=
  if n = 0 then [0x30] else (Nat.digits radix n).reverse.map digit

/-- The nonce that `_startFocusServer` makes. -/
def nonceOf (microseconds pid : ℕ) : Text := toRadixString 36 microseconds ++ toRadixString 36 pid

/-- What `_startFocusServer` writes to the endpoint file. -/
def endpointOf (port : ℕ) (nonce : Text) : Text := toRadixString 10 port ++ [0x3A] ++ nonce

/-- What `_notifyPrimaryToFocus` makes of the endpoint file. -/
def parseEndpoint (parseInt : Text → Option ℤ) (rawContent : Text) : Option (ℤ × Text) :=
  match rawContent.trim.splitOn 0x3A with
  | [port, nonce] => if nonce = [] then none else (parseInt port).map (·, nonce)
  | _ => none

/-- `focus:<nonce>`. -/
def messageOf (nonce : Text) : Text := Text.ofString "focus" ++ [0x3A] ++ nonce

/-- Whether `_startFocusServer` takes what it has received for a request. -/
def isRequest (focusNonce : Option Text) (payload : Text) : Bool :=
  let payload : Text := if payload.length > 256 then [] else payload
  match payload.trim.splitOn 0x3A with
  | [message, nonce] => message = Text.ofString "focus" && some nonce = focusNonce
  | _ => false

/-! ## The world -/

/-- A request on its way to the server of a process. -/
structure Request (Pid : Type) where
  sender : Pid
  server : Pid
  nonce : Text
  seen : Option Pid

/-- What the processes share. -/
structure World (Pid : Type) where
  process : Pid → DesktopInstanceGuard Pid
  lockOwner : Option Pid := none
  /-- The endpoint file, if there is one. -/
  endpoint : Option Text := none
  /-- Who listens on a port of the loopback interface. -/
  server : ℕ → Option Pid
  requests : List (Request Pid) := []

/-- What the operating system and the SDK do. -/
structure Platform (Pid : Type) where
  parseInt : Text → Option ℤ
  pid : Pid → ℕ

/-- **What can happen in a process**: its next wait is over, or it crashes. A wait of which
the outcome is not settled by the world says how it ends. -/
inductive Event (Pid : Type) where
  | tryAcquirePrimaryLock (p : Pid)
  | opened (p : Pid) (error : Bool)
  | locked (p : Pid) (error : Bool)
  | closedRefused (p : Pid)
  | looked (p : Pid)
  | read (p : Pid)
  /-- `reached`: the port is open, and takes the message. -/
  | connected (p : Pid) (reached : Bool)
  | bound (p : Pid) (port : Option ℕ) (microseconds : ℕ)
  /-- Some of the endpoint is in the file. -/
  | wroteSome (p : Pid) (length : ℕ)
  | wrote (p : Pid) (error : Bool)
  | setFocusRequestHandler (p : Pid)
  /-- The server has read a request, or some of it. -/
  | received (p : Pid) (request : ℕ) (length : ℕ)
  | release (p : Pid)
  | closedServer (p : Pid)
  | deleted (p : Pid) (error : Bool)
  | unlocked (p : Pid) (error : Bool)
  | closed (p : Pid) (error : Bool)
  | crash (p : Pid)

/-- The process in which an event happens. -/
def Event.process {Pid : Type} : Event Pid → Pid
  | tryAcquirePrimaryLock p => p
  | opened p _ => p
  | locked p _ => p
  | closedRefused p => p
  | looked p => p
  | read p => p
  | connected p _ => p
  | bound p _ _ => p
  | wroteSome p _ => p
  | wrote p _ => p
  | setFocusRequestHandler p => p
  | received p _ _ => p
  | release p => p
  | closedServer p => p
  | deleted p _ => p
  | unlocked p _ => p
  | closed p _ => p
  | crash p => p

namespace World

variable {Pid : Type} [DecidableEq Pid]

/-- A process goes on. -/
def put (x : World Pid) (p : Pid) (g : DesktopInstanceGuard Pid) : World Pid :=
  { x with process := Function.update x.process p g }

/-- A process goes on to another phase, and nothing else. -/
def goes (x : World Pid) (p : Pid) (phase : Phase Pid) : World Pid :=
  x.put p { x.process p with phase := phase }

section Put

variable (x : World Pid) (p : Pid) (g : DesktopInstanceGuard Pid)

@[simp] theorem process_put : (x.put p g).process p = g := by
  simp [put]

theorem process_put_of_ne {q : Pid} (h : q ≠ p) : (x.put p g).process q = x.process q := by
  simp [put, h]

@[simp] theorem lockOwner_put : (x.put p g).lockOwner = x.lockOwner := rfl

@[simp] theorem endpoint_put : (x.put p g).endpoint = x.endpoint := rfl

@[simp] theorem server_put : (x.put p g).server = x.server := rfl

@[simp] theorem requests_put : (x.put p g).requests = x.requests := rfl

end Put

/-- The ports of a process are closed. -/
def closePorts (x : World Pid) (p : Pid) : World Pid :=
  { x with server := fun port => if x.server port = some p then none else x.server port }

/-- The locks of a process are gone. -/
def unlock (x : World Pid) (p : Pid) : World Pid :=
  { x with lockOwner := if x.lockOwner = some p then none else x.lockOwner }

/-- The handler of `lockFile.lock`: a lock that is held by another process is an error. -/
def lockReturned (x : World Pid) (p : Pid) (error : Bool) : Option (World Pid) :=
  match x.lockOwner with
  | none =>
    if error then some (x.goes p .refused)
    else some ({ x with lockOwner := some p }.put p
      { x.process p with phase := .binding, lockHandle := true })
  | some _ => if error then some (x.goes p .refused) else none

/-- The end of `_notifyPrimaryToFocus`, which sends what it has read. -/
def connectReturned (x : World Pid) (p : Pid) (port : ℤ) (nonce : Text) (seen : Option Pid)
    (reached : Bool) : Option (World Pid) :=
  if !reached then some (x.goes p .secondary)
  else if port < 0 then none
  else (x.server port.toNat).map (fun server =>
    { x with requests := x.requests ++ [Request.mk p server nonce seen] }.goes p .secondary)

/-- `_startFocusServer`, once the port is open, or is not to be had. -/
def bindReturned (platform : Platform Pid) (x : World Pid) (p : Pid) (port : Option ℕ)
    (microseconds : ℕ) : Option (World Pid) :=
  match port with
  | none => some (x.goes p .primary)
  | some port =>
    if x.server port ≠ none then none
    else some ({ x with server := Function.update x.server port (some p) }.put p
      { x.process p with
          phase := .writing
          focusServer := some port
          focusNonce := some (nonceOf microseconds (platform.pid p)) })

/-- What a process writes to the endpoint file. -/
def endpointFor (x : World Pid) (p : Pid) : Text :=
  match (x.process p).focusServer, (x.process p).focusNonce with
  | some port, some nonce => endpointOf port nonce
  | _, _ => []

/-- The callback of the server: it reads a beginning of what was sent, and the handler is
called if that is a request. -/
def requestReceived (x : World Pid) (p : Pid) (r : Request Pid) (length : ℕ) : World Pid :=
  let g := x.process p
  if isRequest g.focusNonce ((messageOf r.nonce).take length) && g.focusRequestHandler then
    x.put p { g with focused := (r.sender, r.seen) :: g.focused }
  else x

/-- `release`, up to its first wait. -/
def released (x : World Pid) (p : Pid) : World Pid :=
  let g := x.process p
  x.put p
    { g with
        phase := if g.focusServer.isSome then .closingServer else .deleting
        lockHandle := false
        focusServer := none
        focusNonce := none }

/-- **One step**: the wait that a process is in is over. -/
def step (platform : Platform Pid) (x : World Pid) : Event Pid → Option (World Pid)
  | .tryAcquirePrimaryLock p =>
    if (x.process p).phase = .apart then some (x.goes p .opening) else none
  | .opened p error =>
    if (x.process p).phase = .opening then
      some (x.goes p (if error then .failed else .locking))
    else none
  | .locked p error =>
    if (x.process p).phase = .locking then x.lockReturned p error else none
  | .closedRefused p =>
    if (x.process p).phase = .refused then some (x.goes p .looking) else none
  | .looked p =>
    if (x.process p).phase = .looking then
      some (x.goes p (if x.endpoint.isSome then .reading else .secondary))
    else none
  | .read p =>
    if (x.process p).phase = .reading then
      match x.endpoint with
      | none => some (x.goes p .failed)
      | some rawContent =>
        match parseEndpoint platform.parseInt rawContent with
        | none => some (x.goes p .secondary)
        | some (port, nonce) => some (x.goes p (.connecting port nonce x.lockOwner))
    else none
  | .connected p reached =>
    match (x.process p).phase with
    | .connecting port nonce seen => x.connectReturned p port nonce seen reached
    | _ => none
  | .bound p port microseconds =>
    if (x.process p).phase = .binding then x.bindReturned platform p port microseconds else none
  | .wroteSome p length =>
    if (x.process p).phase = .writing then
      some { x with endpoint := some ((x.endpointFor p).take length) }
    else none
  | .wrote p error =>
    if (x.process p).phase = .writing then
      if error then some (x.goes p .primary)
      else some ({ x with endpoint := some (x.endpointFor p) }.put p
        { x.process p with phase := .primary, listens := true })
    else none
  | .setFocusRequestHandler p =>
    if (x.process p).phase = .primary then
      some (x.put p { x.process p with focusRequestHandler := true })
    else none
  | .received p request length =>
    if (x.process p).listens then
      match x.requests[request]? with
      | none => none
      | some r =>
        if r.server = p then
          some ({ x with requests := x.requests.eraseIdx request }.requestReceived p r length)
        else none
    else none
  | .release p => if (x.process p).phase = .primary then some (x.released p) else none
  | .closedServer p =>
    if (x.process p).phase = .closingServer then
      some ((x.closePorts p).put p { x.process p with phase := .deleting, listens := false })
    else none
  | .deleted p error =>
    if (x.process p).phase = .deleting then
      if error then some (x.goes p .unlocking)
      else some ({ x with endpoint := none }.goes p .unlocking)
    else none
  | .unlocked p error =>
    if (x.process p).phase = .unlocking then
      some ((if error then x else x.unlock p).goes p .closing)
    else none
  | .closed p error =>
    if (x.process p).phase = .closing then
      some ((if error then x else x.unlock p).goes p .released)
    else none
  | .crash p =>
    some (((x.unlock p).closePorts p).put p
      { x.process p with
          phase := .crashed
          lockHandle := false
          focusServer := none
          focusNonce := none
          listens := false })

/-- Before any process has started: nobody has the lock, and the endpoint file may be one
that was left behind. -/
def initial (endpoint : Option Text) : World Pid where
  process _ := {}
  endpoint := endpoint
  server _ := none

end World

end DesktopInstanceGuard
