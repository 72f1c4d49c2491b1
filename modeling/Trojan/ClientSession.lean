import Trojan.Config
import Trojan.Session
import Trojan.TrojanRequest
import Trojan.UdpPacket
import Trojan.Util.Flight
import Trojan.Util.Machine

/-!
# The client session

`ClientSession` (`session/clientsession.cpp`) is the local end of a tunnel: an
application speaks SOCKS5 to it, and it relays to the Trojan server what the
application sends – a TCP stream, or datagrams that arrive on a UDP socket of
the session's own. It is modelled as `Trojan.ServerSession` is: a machine driven
by the completions of its operations, one function for each handler of the
source, and a history from which the operations in flight are read off.

Two of its reads, from the application and from the UDP socket, are cancelled
as the tunnel is established, and their handlers tell the cancellation from a
failure; their events carry an `Outcome`.
-/

namespace ClientSession

/-- `ClientSession::Status`. -/
inductive Status where
  | handshake
  | request
  | connect
  | forward
  | udpForward
  | invalid
  | destroy
  deriving DecidableEq, Repr

/-- The member buffers that are given to operations. -/
inductive Buffer where
  | inReadBuf
  | outReadBuf
  | udpReadBuf
  | inWriteData
  | outWriteData
  | udpWriteData
  deriving DecidableEq, Repr

/-- The asynchronous operations of a session. -/
inductive Operation where
  | inRead
  | inWrite (data : Bytes)
  | resolve
  | tcpConnect (endpoint : IpAddress)
  | tlsHandshake
  | outRead
  | outWrite (data : Bytes)
  | udpReceive
  | udpSend (data : Bytes) (endpoint : UdpEndpoint)
  | tlsShutdown
  | shutdownTimer
  deriving DecidableEq

/-- **What can happen to a session**: its start, or the completion of one of
its operations. `bound` is the local endpoint of the UDP socket, should the
handler open one, and `none` if that fails. -/
inductive Event where
  | start (remoteEndpoint : Option TcpEndpoint)
  | inRead (data : Outcome Bytes) (bound : Option UdpEndpoint)
  | inWrite (data : Bytes) (error : Bool)
  | resolve (results : Option (List IpAddress)) (openError : Bool)
  | tcpConnect (endpoint : IpAddress) (error : Bool)
  | tlsHandshake (error : Bool)
  | outRead (data : Option Bytes)
  | outWrite (data : Bytes) (error : Bool)
  | udpReceive (received : Outcome (Bytes × UdpEndpoint))
  | udpSend (data : Bytes) (endpoint : UdpEndpoint) (error : Bool)
  | tlsShutdown (aborted : Bool)
  | shutdownTimer (aborted : Bool)
  deriving DecidableEq

/-- The operation an event completes. -/
def Event.operation : Event → Option Operation
  | start _ => none
  | inRead _ _ => some .inRead
  | inWrite data _ => some (.inWrite data)
  | resolve _ _ => some .resolve
  | tcpConnect endpoint _ => some (.tcpConnect endpoint)
  | tlsHandshake _ => some .tlsHandshake
  | outRead _ => some .outRead
  | outWrite data _ => some (.outWrite data)
  | udpReceive _ => some .udpReceive
  | udpSend data endpoint _ => some (.udpSend data endpoint)
  | tlsShutdown _ => some .tlsShutdown
  | shutdownTimer _ => some .shutdownTimer

/-- What a history records besides operations and buffers. -/
inductive Note where
  /-- A completion was handled, in a status. -/
  | handled (status : Status) (event : Event)
  | openedUdpSocket
  | openedOutSocket
  | tunnelEstablished
  | destroyed
  deriving DecidableEq

/-- A session's history, the newest mark first. -/
abbrev History := List (Flight.Mark Operation Buffer Note)

end ClientSession

open ClientSession in
/-- **A client session.** -/
structure ClientSession where
  status : Status := .handshake
  isUdp : Bool := false
  firstPacketRecv : Bool := false
  inReadBuf : Bytes := List.replicate defaultBufferSize 0
  outReadBuf : Bytes := List.replicate defaultBufferSize 0
  udpReadBuf : Bytes := List.replicate defaultBufferSize 0
  inWriteData : Bytes := []
  outWriteData : Bytes := []
  udpWriteData : Bytes := []
  outWriteBuf : Bytes := []
  udpDataBuf : Bytes := []
  udpRecvEndpoint : UdpEndpoint := ⟨.v4 (Vector.replicate 4 0), 0⟩
  recvLen : ℕ := 0
  sentLen : ℕ := 0
  inSocketOpen : Bool := true
  outSocketOpen : Bool := false
  udpSocketOpen : Bool := false
  history : History := []

namespace ClientSession

/-- The operations of a session that are in flight. -/
def pending (s : ClientSession) : List Operation := Flight.inFlight s.history

/-- Begin an operation. -/
def begins (s : ClientSession) (op : Operation) : ClientSession :=
  { s with history := .began op :: s.history }

/-- Put a note into the history. -/
def notes (s : ClientSession) (n : Note) : ClientSession :=
  { s with history := .noted n :: s.history }

/-- **`destroy`**. What it cancels changes how operations complete, not the
session. -/
def destroy (s : ClientSession) : ClientSession :=
  if s.status = .destroy then s
  else
    let s :=
      { s.notes .destroyed with status := .destroy, inSocketOpen := false, udpSocketOpen := false }
    if s.outSocketOpen then (s.begins .tlsShutdown).begins .shutdownTimer else s

theorem status_destroy (s : ClientSession) : s.destroy.status = .destroy := by
  unfold destroy
  split
  · assumption
  · dsimp only
    split <;> rfl

/-! ## Reads and writes -/

/-- `in_async_read`. -/
def inAsyncRead (s : ClientSession) : ClientSession := s.begins .inRead

/-- `in_async_write_buffer`. -/
def inAsyncWriteBuffer (s : ClientSession) (data : Bytes) : ClientSession :=
  { s with inWriteData := data, history := .modified .inWriteData :: s.history }.begins
    (.inWrite data)

/-- `in_async_write`. -/
def inAsyncWrite (s : ClientSession) (data : Bytes) : ClientSession := s.inAsyncWriteBuffer data

/-- `out_async_read`. -/
def outAsyncRead (s : ClientSession) : ClientSession := s.begins .outRead

/-- `out_async_write_buffer`. -/
def outAsyncWriteBuffer (s : ClientSession) (data : Bytes) : ClientSession :=
  { s with outWriteData := data, history := .modified .outWriteData :: s.history }.begins
    (.outWrite data)

/-- `out_async_write`. -/
def outAsyncWrite (s : ClientSession) (data : Bytes) : ClientSession := s.outAsyncWriteBuffer data

/-- `udp_async_read`. -/
def udpAsyncRead (s : ClientSession) : ClientSession := s.begins .udpReceive

/-- `udp_async_write`. -/
def udpAsyncWrite (s : ClientSession) (data : Bytes) (endpoint : UdpEndpoint) : ClientSession :=
  { s with udpWriteData := data, history := .modified .udpWriteData :: s.history }.begins
    (.udpSend data endpoint)

/-! ## SOCKS5 -/

/-- The value of a `char`, which is signed on the platforms the program is built
for. -/
def signedChar (b : UInt8) : ℤ := if b < 128 then b.toNat else b.toNat - 256

/-- The loop over the methods of a greeting. Its bound is the second byte, read
as a `char`: from 128 methods on it is negative, and the loop does not run. -/
def hasMethod (data : Bytes) : Bool :=
  ((data.drop 2).take (signedChar (data.getD 1 0)).toNat).any (· == 0)

/-- `in_recv` in `HANDSHAKE`: the greeting. -/
def recvGreeting (s : ClientSession) (data : Bytes) : ClientSession :=
  if data.length < 2 ∨ data.getD 0 0 ≠ 5 ∨ data.length ≠ (data.getD 1 0).toNat + 2 then s.destroy
  else if hasMethod data then s.inAsyncWrite [5, 0]
  else { s.inAsyncWrite [5, 255] with status := .invalid }

/-- The Trojan request that `in_recv` makes of a SOCKS5 request. -/
def requestBuffer (config : Config) (data : Bytes) : Bytes :=
  config.firstPassword ++ crlf ++ (data.drop 1).take 1 ++ data.drop 3 ++ crlf

/-- `in_recv` in `REQUEST`. -/
def recvRequest (config : Config) (s : ClientSession) (data : Bytes)
    (bound : Option UdpEndpoint) : ClientSession :=
  if data.length < 7 ∨ data.getD 0 0 ≠ 5 ∨ data.getD 2 0 ≠ 0 then s.destroy
  else
    let tempBuf := requestBuffer config data
    match ({} : TrojanRequest).parse tempBuf with
    | (_, none) => { s.inAsyncWrite [5, 7, 0, 1, 0, 0, 0, 0, 0, 0] with status := .invalid }
    | (req, some _) =>
      let s := { s with isUdp := req.command = some TrojanRequest.Command.udpAssociate }
      if s.isUdp then
        match bound with
        | none => s.destroy
        | some localEndpoint =>
          let s := { s.notes .openedUdpSocket with udpSocketOpen := true }
          { s.inAsyncWrite ([5, 0, 0] ++ SOCKS5Address.generate localEndpoint) with
              outWriteBuf := tempBuf }
      else
        { s.inAsyncWrite [5, 0, 0, 1, 0, 0, 0, 0, 0, 0] with outWriteBuf := tempBuf }

/-! ## The handlers -/

/-- **`in_recv`**. -/
def inRecv (config : Config) (s : ClientSession) (length : ℕ) (bound : Option UdpEndpoint) :
    ClientSession :=
  let s :=
    { s with
        inReadBuf := growAfterRead s.inReadBuf length
        history := .modified .inReadBuf :: s.history }
  let data := s.inReadBuf.take length
  match s.status with
  | .handshake => s.recvGreeting data
  | .request => s.recvRequest config data bound
  | .connect =>
    { s with
        sentLen := s.sentLen + length
        firstPacketRecv := true
        outWriteBuf := s.outWriteBuf ++ data }
  | .forward => { s with sentLen := s.sentLen + length }.outAsyncWriteBuffer data
  | .udpForward => s.destroy
  | _ => s

/-- **`in_sent`**. -/
def inSent (s : ClientSession) : ClientSession :=
  match s.status with
  | .handshake => { s with status := .request }.inAsyncRead
  | .request =>
    let s := { s with status := .connect }.inAsyncRead
    (if s.isUdp then s.udpAsyncRead else s).begins .resolve
  | .forward => s.outAsyncRead
  | .invalid => s.destroy
  | _ => s

/-- The handler of the resolve of `in_sent`. -/
def resolved (s : ClientSession) (results : Option (List IpAddress)) (openError : Bool) :
    ClientSession :=
  match results.bind List.head? with
  | none => s.destroy
  | some endpoint =>
    if openError then s.destroy
    else { s.notes .openedOutSocket with outSocketOpen := true }.begins (.tcpConnect endpoint)

/-- The handler of its connect. -/
def connected (s : ClientSession) (error : Bool) : ClientSession :=
  if error then s.destroy else s.begins .tlsHandshake

/-- The handler of its TLS handshake. The read that it cancels, if no first
packet has come, stays in flight. -/
def handshaken (s : ClientSession) (error : Bool) : ClientSession :=
  if error then s.destroy
  else
    let s :=
      { s.notes .tunnelEstablished with status := if s.isUdp then .udpForward else .forward }
    let s := s.outAsyncRead
    s.outAsyncWrite s.outWriteBuf

/-- **`udp_sent`**: the next frame of the tunnel goes to the application, or
the session waits for more. -/
def udpSent (s : ClientSession) : ClientSession :=
  if s.status = .udpForward then
    match ({} : UDPPacket).parse s.udpDataBuf with
    | (_, none) => if s.udpDataBuf.length > maxLength then s.destroy else s.outAsyncRead
    | (packet, some packetLen) =>
      match ({} : SOCKS5Address).parse s.udpDataBuf with
      | (_, none) => s.destroy
      | (_, some addressLen) =>
        let reply := [0, 0, 0] ++ s.udpDataBuf.take addressLen ++ packet.payload
        { s with
            udpDataBuf := s.udpDataBuf.drop packetLen
            recvLen := s.recvLen + packet.length }.udpAsyncWrite reply s.udpRecvEndpoint
  else s

/-- **`out_recv`**. -/
def outRecv (s : ClientSession) (length : ℕ) : ClientSession :=
  let s :=
    { s with
        outReadBuf := growAfterRead s.outReadBuf length
        history := .modified .outReadBuf :: s.history }
  if s.status = .forward then
    { s with recvLen := s.recvLen + length }.inAsyncWriteBuffer (s.outReadBuf.take length)
  else if s.status = .udpForward then
    { s with udpDataBuf := s.udpDataBuf ++ s.outReadBuf.take length }.udpSent
  else s

/-- `out_sent`. -/
def outSent (s : ClientSession) : ClientSession :=
  if s.status = .forward then s.inAsyncRead
  else if s.status = .udpForward then s.udpAsyncRead
  else s

/-- The frame `udp_recv` makes of a datagram, with the length of its payload;
`none` if it is a "bad UDP packet". -/
def framePacket (data : Bytes) : Option (ℕ × Bytes) :=
  if data.length < 3 ∨ data.getD 0 0 ≠ 0 ∨ data.getD 1 0 ≠ 0 ∨ data.getD 2 0 ≠ 0 then none
  else match ({} : SOCKS5Address).parse (data.drop 3) with
  | (_, none) => none
  | (_, some addressLen) =>
    let packetLength := data.length - 3 - addressLen
    some (packetLength, (data.drop 3).take addressLen ++ wordBytes packetLength ++ crlf
      ++ data.drop (addressLen + 3))

/-- **`udp_recv`**. An empty datagram is ignored, and nothing is begun. -/
def udpRecv (s : ClientSession) (length : ℕ) : ClientSession :=
  let s :=
    { s with
        udpReadBuf := growAfterRead s.udpReadBuf length
        history := .modified .udpReadBuf :: s.history }
  if length = 0 then s
  else match framePacket (s.udpReadBuf.take length) with
  | none => s.destroy
  | some (packetLength, packet) =>
    let s := { s with sentLen := s.sentLen + packetLength }
    if s.status = .connect then
      { s with firstPacketRecv := true, outWriteBuf := s.outWriteBuf ++ packet }
    else if s.status = .udpForward then s.outAsyncWrite packet
    else s

/-- `ssl_shutdown_cb`. -/
def sslShutdownCb (s : ClientSession) (aborted : Bool) : ClientSession :=
  if aborted then s else { s with outSocketOpen := false }

/-- `start`. -/
def start (s : ClientSession) (remoteEndpoint : Option TcpEndpoint) : ClientSession :=
  match remoteEndpoint with
  | none => s.destroy
  | some _ => s.inAsyncRead

/-- **The handler of an event**, once the operation has ended. -/
def handle (config : Config) (s : ClientSession) : Event → ClientSession
  | .start remoteEndpoint => s.start remoteEndpoint
  | .inRead .aborted _ => s
  | .inRead .failed _ => s.destroy
  | .inRead (.success data) bound =>
    { s with inReadBuf := fillBuffer s.inReadBuf data }.inRecv config data.length bound
  | .inWrite _ error => if error then s.destroy else s.inSent
  | .resolve results openError => s.resolved results openError
  | .tcpConnect _ error => s.connected error
  | .tlsHandshake error => s.handshaken error
  | .outRead none => s.destroy
  | .outRead (some data) =>
    { s with outReadBuf := fillBuffer s.outReadBuf data }.outRecv data.length
  | .outWrite _ error => if error then s.destroy else s.outSent
  | .udpReceive .aborted => s
  | .udpReceive .failed => s.destroy
  | .udpReceive (.success (data, endpoint)) =>
    { s with
        udpReadBuf := fillBuffer s.udpReadBuf data
        udpRecvEndpoint := endpoint }.udpRecv data.length
  | .udpSend _ _ error => if error then s.destroy else s.udpSent
  | .tlsShutdown aborted => s.sslShutdownCb aborted
  | .shutdownTimer aborted => s.sslShutdownCb aborted

/-- A read delivers no more than its buffer has room for, and a receive delivers
a datagram. -/
def Event.fits (s : ClientSession) : Event → Bool
  | inRead (.success data) _ => data.length ≤ s.inReadBuf.length
  | outRead (some data) => data.length ≤ s.outReadBuf.length
  | udpReceive (.success (data, _)) => data.length ≤ s.udpReadBuf.length && isDatagram data
  | _ => true

/-- The session as an event finds it. -/
def receives (s : ClientSession) (e : Event) : ClientSession :=
  match e.operation with
  | none => s.notes (.handled s.status e)
  | some op =>
    { s with history := .ended op :: .noted (.handled s.status e) :: s.history }

/-- Whether an event can happen: a session is started once, before anything
else, and an operation completes while it is in flight. -/
def accepts (s : ClientSession) (e : Event) : Bool :=
  match e.operation with
  | none => s.history.isEmpty
  | some op => op ∈ s.pending && e.fits s

/-- **One step of a session.** -/
def step (config : Config) (s : ClientSession) (e : Event) : Option ClientSession :=
  if s.accepts e then some ((s.receives e).handle config e) else none

/-- A session as the service creates it. -/
def create : ClientSession := {}

end ClientSession
