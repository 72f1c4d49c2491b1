import Trojan.Config
import Trojan.Session
import Trojan.TrojanRequest
import Trojan.Util.Flight
import Trojan.Util.Machine

/-!
# The forward session and the NAT session

A `ForwardSession` (`session/forwardsession.cpp`) relays a TCP connection to a
target that is configured, a `NATSession` (`session/natsession.cpp`) to the one
the connection was going to before it was redirected. Neither speaks a protocol
with its peer: a session opens the tunnel as soon as it starts, and reads from
the peer in the meantime, once, so that the first bytes go out together with the
Trojan request.

The two classes differ in `start` and in nothing else; they are one machine here,
with the class as a parameter. The rest is as in `Trojan.ClientSession`.
-/

namespace ForwardSession

/-- The class of a session. -/
inductive Kind where
  | forward
  | nat
  deriving DecidableEq, Repr

/-- `ForwardSession::Status`, and `NATSession::Status`. -/
inductive Status where
  | connect
  | forward
  | destroy
  deriving DecidableEq, Repr

/-- The member buffers that are given to operations. -/
inductive Buffer where
  | inReadBuf
  | outReadBuf
  | inWriteData
  | outWriteData
  deriving DecidableEq, Repr

/-- The asynchronous operations of a session. -/
inductive Operation where
  | inRead
  | inWrite (data : Bytes)
  | resolve
  | tcpConnect (endpoint : IpAddress)
  | tlsHandshake
  | outRead
  | outWrite (data : Bytes)
  | tlsShutdown
  | shutdownTimer
  deriving DecidableEq

/-- **What can happen to a session**: its start, or the completion of one of
its operations. `target` is what `get_target_endpoint` returns, should the
session ask. -/
inductive Event where
  | start (remoteEndpoint : Option TcpEndpoint) (target : Bytes × UInt16)
  | inRead (data : Outcome Bytes)
  | inWrite (data : Bytes) (error : Bool)
  | resolve (results : Option (List IpAddress)) (openError : Bool)
  | tcpConnect (endpoint : IpAddress) (error : Bool)
  | tlsHandshake (error : Bool)
  | outRead (data : Option Bytes)
  | outWrite (data : Bytes) (error : Bool)
  | tlsShutdown (aborted : Bool)
  | shutdownTimer (aborted : Bool)
  deriving DecidableEq

/-- The operation an event completes. -/
def Event.operation : Event → Option Operation
  | start _ _ => none
  | inRead _ => some .inRead
  | inWrite data _ => some (.inWrite data)
  | resolve _ _ => some .resolve
  | tcpConnect endpoint _ => some (.tcpConnect endpoint)
  | tlsHandshake _ => some .tlsHandshake
  | outRead _ => some .outRead
  | outWrite data _ => some (.outWrite data)
  | tlsShutdown _ => some .tlsShutdown
  | shutdownTimer _ => some .shutdownTimer

/-- What a history records besides operations and buffers. -/
inductive Note where
  /-- An event was handled, in a status. -/
  | handled (status : Status) (event : Event)
  | openedOutSocket
  | tunnelEstablished
  | destroyed
  deriving DecidableEq

/-- A session's history, the newest mark first. -/
abbrev History := List (Flight.Mark Operation Buffer Note)

end ForwardSession

open ForwardSession in
/-- **A forward session**, or a NAT session. -/
structure ForwardSession where
  status : Status := .connect
  firstPacketRecv : Bool := false
  inReadBuf : Bytes := List.replicate defaultBufferSize 0
  outReadBuf : Bytes := List.replicate defaultBufferSize 0
  inWriteData : Bytes := []
  outWriteData : Bytes := []
  outWriteBuf : Bytes := []
  recvLen : ℕ := 0
  sentLen : ℕ := 0
  inSocketOpen : Bool := true
  outSocketOpen : Bool := false
  history : History := []

namespace ForwardSession

/-- The operations of a session that are in flight. -/
def pending (s : ForwardSession) : List Operation := Flight.inFlight s.history

/-- Begin an operation. -/
def begins (s : ForwardSession) (op : Operation) : ForwardSession :=
  { s with history := .began op :: s.history }

/-- Put a note into the history. -/
def notes (s : ForwardSession) (n : Note) : ForwardSession :=
  { s with history := .noted n :: s.history }

/-- **`destroy`**. What it cancels changes how operations complete, not the
session. -/
def destroy (s : ForwardSession) : ForwardSession :=
  if s.status = .destroy then s
  else
    let s := { s.notes .destroyed with status := .destroy, inSocketOpen := false }
    if s.outSocketOpen then (s.begins .tlsShutdown).begins .shutdownTimer else s

/-- `in_async_read`. -/
def inAsyncRead (s : ForwardSession) : ForwardSession := s.begins .inRead

/-- `in_async_write_buffer`. -/
def inAsyncWriteBuffer (s : ForwardSession) (data : Bytes) : ForwardSession :=
  { s with inWriteData := data, history := .modified .inWriteData :: s.history }.begins
    (.inWrite data)

/-- `out_async_read`. -/
def outAsyncRead (s : ForwardSession) : ForwardSession := s.begins .outRead

/-- `out_async_write_buffer`. -/
def outAsyncWriteBuffer (s : ForwardSession) (data : Bytes) : ForwardSession :=
  { s with outWriteData := data, history := .modified .outWriteData :: s.history }.begins
    (.outWrite data)

/-- `out_async_write`. -/
def outAsyncWrite (s : ForwardSession) (data : Bytes) : ForwardSession :=
  s.outAsyncWriteBuffer data

/-- The end of `start`, once the target is known. -/
def opensTunnel (config : Config) (s : ForwardSession) (target : Bytes × UInt16) :
    ForwardSession :=
  let s :=
    { s with
        outWriteBuf := TrojanRequest.generate config.firstPassword target.1 target.2 true }
  s.inAsyncRead.begins .resolve

/-- **`start`**. A NAT session does not start without a target. -/
def start (config : Config) (kind : Kind) (s : ForwardSession)
    (remoteEndpoint : Option TcpEndpoint) (target : Bytes × UInt16) : ForwardSession :=
  match remoteEndpoint, kind with
  | none, _ => s.destroy
  | some _, .forward => s.opensTunnel config (config.targetAddr, config.targetPort)
  | some _, .nat => if target.2 = 0 then s.destroy else s.opensTunnel config target

/-- The handler of the resolve of `start`. -/
def resolved (s : ForwardSession) (results : Option (List IpAddress)) (openError : Bool) :
    ForwardSession :=
  match results.bind List.head? with
  | none => s.destroy
  | some endpoint =>
    if openError then s.destroy
    else { s.notes .openedOutSocket with outSocketOpen := true }.begins (.tcpConnect endpoint)

/-- The handler of its connect. -/
def connected (s : ForwardSession) (error : Bool) : ForwardSession :=
  if error then s.destroy else s.begins .tlsHandshake

/-- The handler of its TLS handshake. The read that it cancels, if no first
packet has come, stays in flight. -/
def handshaken (s : ForwardSession) (error : Bool) : ForwardSession :=
  if error then s.destroy
  else
    let s := { s.notes .tunnelEstablished with status := .forward }.outAsyncRead
    s.outAsyncWrite s.outWriteBuf

/-- **`in_recv`**. -/
def inRecv (s : ForwardSession) (length : ℕ) : ForwardSession :=
  let s :=
    { s with
        inReadBuf := growAfterRead s.inReadBuf length
        history := .modified .inReadBuf :: s.history }
  let data := s.inReadBuf.take length
  match s.status with
  | .connect =>
    { s with
        sentLen := s.sentLen + length
        firstPacketRecv := true
        outWriteBuf := s.outWriteBuf ++ data }
  | .forward => { s with sentLen := s.sentLen + length }.outAsyncWriteBuffer data
  | .destroy => s

/-- `in_sent`. -/
def inSent (s : ForwardSession) : ForwardSession :=
  if s.status = .forward then s.outAsyncRead else s

/-- `out_recv`. -/
def outRecv (s : ForwardSession) (length : ℕ) : ForwardSession :=
  let s :=
    { s with
        outReadBuf := growAfterRead s.outReadBuf length
        history := .modified .outReadBuf :: s.history }
  if s.status = .forward then
    { s with recvLen := s.recvLen + length }.inAsyncWriteBuffer (s.outReadBuf.take length)
  else s

/-- `out_sent`. -/
def outSent (s : ForwardSession) : ForwardSession :=
  if s.status = .forward then s.inAsyncRead else s

/-- `ssl_shutdown_cb`. -/
def sslShutdownCb (s : ForwardSession) (aborted : Bool) : ForwardSession :=
  if aborted then s else { s with outSocketOpen := false }

/-- **The handler of an event**, once the operation has ended. -/
def handle (config : Config) (kind : Kind) (s : ForwardSession) : Event → ForwardSession
  | .start remoteEndpoint target => s.start config kind remoteEndpoint target
  | .inRead .aborted => s
  | .inRead .failed => s.destroy
  | .inRead (.success data) =>
    { s with inReadBuf := fillBuffer s.inReadBuf data }.inRecv data.length
  | .inWrite _ error => if error then s.destroy else s.inSent
  | .resolve results openError => s.resolved results openError
  | .tcpConnect _ error => s.connected error
  | .tlsHandshake error => s.handshaken error
  | .outRead none => s.destroy
  | .outRead (some data) =>
    { s with outReadBuf := fillBuffer s.outReadBuf data }.outRecv data.length
  | .outWrite _ error => if error then s.destroy else s.outSent
  | .tlsShutdown aborted => s.sslShutdownCb aborted
  | .shutdownTimer aborted => s.sslShutdownCb aborted

/-- A read delivers no more than its buffer has room for. -/
def Event.fits (s : ForwardSession) : Event → Bool
  | inRead (.success data) => data.length ≤ s.inReadBuf.length
  | outRead (some data) => data.length ≤ s.outReadBuf.length
  | _ => true

/-- The session as an event finds it. -/
def receives (s : ForwardSession) (e : Event) : ForwardSession :=
  match e.operation with
  | none => s.notes (.handled s.status e)
  | some op =>
    { s with history := .ended op :: .noted (.handled s.status e) :: s.history }

/-- Whether an event can happen: a session is started once, before anything
else, and an operation completes while it is in flight. -/
def accepts (s : ForwardSession) (e : Event) : Bool :=
  match e.operation with
  | none => s.history.isEmpty
  | some op => op ∈ s.pending && e.fits s

/-- **One step of a session.** -/
def step (config : Config) (kind : Kind) (s : ForwardSession) (e : Event) :
    Option ForwardSession :=
  if s.accepts e then some ((s.receives e).handle config kind e) else none

/-- A session as the service creates it. -/
def create : ForwardSession := {}

end ForwardSession
