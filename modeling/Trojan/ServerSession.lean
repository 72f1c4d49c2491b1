import Trojan.Session
import Trojan.TrustedFront
import Trojan.UdpPacket
import Trojan.Util.Flight
import Trojan.Util.Machine

/-!
# The server session

`ServerSession` (`session/serversession.cpp`, on top of `session/session.cpp`)
is one client's connection: it takes the client's first bytes to the gate and
then relays, over TCP or over UDP, until something fails. It is a machine
driven by the completions of the operations it has begun. Every handler of the
source is a function on the session here, under the source's name, and
`ServerSession.step` runs the handler of one completion.

Two things are not in the source. A session carries its `history`: the
operations it began, which completion it handled in which status, and what it
asked of the service and the authenticator. The operations in flight are read
off it (`ServerSession.pending`), and so are the laws of the modules that
follow. And where the source calls a `std::function` that answers – the service
granting a fallback slot – the answer is part of the event.

An operation completes with whatever result the event says, in any order, also
after the session has cancelled it: asio may deliver a success that was queued
before the `cancel()`.
-/

/-- The endpoint a resolver's results are cut down to: the first, or with
`prefer_ipv4` the first IPv4 one if there is any. -/
def chooseEndpoint {α : Type} (preferIpv4 : Bool) (isV4 : α → Bool) (results : List α) :
    Option α :=
  if preferIpv4 then (results.find? isV4).or results.head? else results.head?

/-- Only an empty result leaves nothing to choose. -/
theorem chooseEndpoint_eq_none {α : Type} {preferIpv4 : Bool} {isV4 : α → Bool}
    {results : List α} :
    chooseEndpoint preferIpv4 isV4 results = none ↔ results = [] := by
  unfold chooseEndpoint
  split
  · rw [Option.or_eq_none_iff, List.head?_eq_none_iff]
    exact ⟨And.right, fun h => ⟨by rw [h]; rfl, h⟩⟩
  · exact List.head?_eq_none_iff

namespace ServerSession

/-- `ServerSession::Status`. -/
inductive Status where
  | handshake
  | forward
  | udpForward
  | destroy
  deriving DecidableEq, Repr

/-- `ServerSession::BootstrapMode`. -/
inductive BootstrapMode where
  | standardTls
  | trustedFrontIngress
  | trustedFrontIngressMtls
  deriving DecidableEq, Repr

/-- `ServerSession::UdpDispatchRequest`. -/
structure UdpDispatchRequest where
  payload : Bytes := []
  packetLength : ℕ := 0
  queryAddr : Bytes := []
  queryPort : UInt16 := 0
  deriving DecidableEq

/-- The member buffers that are given to operations. -/
inductive Buffer where
  | inReadBuf
  | outReadBuf
  | udpReadBuf
  | inWriteData
  | outWriteData
  | udpWriteData
  deriving DecidableEq, Repr

/-- **The asynchronous operations of a session.** A write carries the bytes its
buffer held as it began, and each operation carries what its handler
captures. -/
inductive Operation where
  | tlsHandshake
  | plainHttpWrite
  | trustedFrontRead
  | inRead
  | inWrite (data : Bytes)
  | outRead
  | outWrite (data : Bytes) (accountSentBytes : Bool)
  | tcpResolve (target : ConnectTarget)
  | tcpConnect (target : ConnectTarget) (endpoint : IpAddress)
  | udpResolve (request : UdpDispatchRequest)
  | udpSend (data : Bytes) (endpoint : UdpEndpoint) (accountedLength : ℕ)
  | udpReceive
  | tlsShutdown
  | shutdownTimer
  deriving DecidableEq

/-- The member buffer an operation reads from or writes into. -/
def Operation.buffer : Operation → Option Buffer
  | trustedFrontRead => some .inReadBuf
  | inRead => some .inReadBuf
  | inWrite _ => some .inWriteData
  | outRead => some .outReadBuf
  | outWrite _ _ => some .outWriteData
  | udpSend _ _ _ => some .udpWriteData
  | udpReceive => some .udpReadBuf
  | _ => none

/-- **What can happen to a session**: its start, or the completion of one of
its operations. `none` in place of a result is an error. `granted` is the
service's answer, should the handler ask for a fallback slot, and `openError`
whether the socket fails to open, should the handler open one. -/
inductive Event where
  | start (remoteEndpoint : Option TcpEndpoint)
  /-- `error` is the message of the error, if there is one. -/
  | tlsHandshake (error : Option Bytes)
  | plainHttpWrite
  | trustedFrontRead (data : Option Bytes) (granted : Bool)
  | inRead (data : Option Bytes) (granted : Bool)
  | inWrite (data : Bytes) (error : Bool)
  | outRead (data : Option Bytes)
  | outWrite (data : Bytes) (accountSentBytes : Bool) (error : Bool)
  | tcpResolve (target : ConnectTarget) (results : Option (List IpAddress)) (openError : Bool)
  | tcpConnect (target : ConnectTarget) (endpoint : IpAddress) (error : Bool)
  | udpResolve (request : UdpDispatchRequest) (results : Option (List UdpEndpoint))
      (openError : Bool)
  | udpSend (data : Bytes) (endpoint : UdpEndpoint) (accountedLength : ℕ) (error : Bool)
  | udpReceive (received : Option (Bytes × UdpEndpoint))
  | tlsShutdown (aborted : Bool)
  | shutdownTimer (aborted : Bool)
  deriving DecidableEq

/-- The operation an event completes. -/
def Event.operation : Event → Option Operation
  | start _ => none
  | tlsHandshake _ => some .tlsHandshake
  | plainHttpWrite => some .plainHttpWrite
  | trustedFrontRead _ _ => some .trustedFrontRead
  | inRead _ _ => some .inRead
  | inWrite data _ => some (.inWrite data)
  | outRead _ => some .outRead
  | outWrite data account _ => some (.outWrite data account)
  | tcpResolve target _ _ => some (.tcpResolve target)
  | tcpConnect target endpoint _ => some (.tcpConnect target endpoint)
  | udpResolve request _ _ => some (.udpResolve request)
  | udpSend data endpoint accounted _ => some (.udpSend data endpoint accounted)
  | udpReceive _ => some .udpReceive
  | tlsShutdown _ => some .tlsShutdown
  | shutdownTimer _ => some .shutdownTimer

/-- What a history records besides operations and buffers. -/
inductive Note where
  /-- A completion was handled, in a status. -/
  | handled (status : Status) (event : Event)
  | openedOutSocket
  /-- The outbound connection is there: "tunnel established". -/
  | tunnelEstablished
  | openedUdpSocket
  /-- `handle_handshake_payload` ran. -/
  | handshakePayload (data : Bytes)
  /-- `record_auth_success`. -/
  | authSuccess
  /-- `record_auth_failure`. -/
  | authFailure (endpoint : TcpEndpoint)
  /-- `record_fallback_connection`, with the service's answer. -/
  | fallbackSlot (granted : Bool)
  /-- `destroy` ran, past its guard. -/
  | destroyed
  /-- `release_connection_slot`. -/
  | releasedConnectionSlot (endpoint : TcpEndpoint)
  /-- `release_fallback_slot`. -/
  | releasedFallbackSlot
  /-- `Authenticator::record`. -/
  | recordedUsage (password : Bytes) (download upload : ℕ)
  deriving DecidableEq

/-- A session's history, the newest mark first. -/
abbrev History := List (Flight.Mark Operation Buffer Note)

/-- What the handlers read and never change. -/
structure Env where
  config : Config
  auth : Option Authenticator := none
  plainHttpResponse : Bytes := []
  /-- The TLS layer of `in_socket`. -/
  tls : TlsStream := {}
  readJson : JsonReader

end ServerSession

open ServerSession Flight in
/-- **A session.** -/
structure ServerSession where
  status : Status := .handshake
  bootstrapMode : BootstrapMode := .standardTls
  inEndpoint : TcpEndpoint := {}
  externalFrontHandoff : Option ExternalFrontHandoff := none
  trustedFrontBootstrapBuffer : Bytes := []
  connectionSlotAcquired : Bool := false
  fallbackSlotAcquired : Bool := false
  authPassword : Bytes := []
  inReadBuf : Bytes := List.replicate defaultBufferSize 0
  outReadBuf : Bytes := List.replicate defaultBufferSize 0
  udpReadBuf : Bytes := List.replicate defaultBufferSize 0
  inWriteData : Bytes := []
  outWriteData : Bytes := []
  udpWriteData : Bytes := []
  outWriteBuf : Bytes := []
  udpDataBuf : Bytes := []
  recvLen : ℕ := 0
  sentLen : ℕ := 0
  inSocketOpen : Bool := true
  outSocketOpen : Bool := false
  udpSocketOpen : Bool := false
  history : History := []

namespace ServerSession

/-- The operations of a session that are in flight. -/
def pending (s : ServerSession) : List Operation := Flight.inFlight s.history

/-- Begin an operation. -/
def begins (s : ServerSession) (op : Operation) : ServerSession :=
  { s with history := .began op :: s.history }

/-- Put a note into the history. -/
def notes (s : ServerSession) (n : Note) : ServerSession :=
  { s with history := .noted n :: s.history }

/-! ## The end of a session -/

/-- `SessionLifecycleRuntime::release_slots`. -/
def releaseSlots (s : ServerSession) : ServerSession :=
  let s := if s.connectionSlotAcquired then
      { s.notes (.releasedConnectionSlot s.inEndpoint) with connectionSlotAcquired := false }
    else s
  if s.fallbackSlotAcquired then
    { s.notes .releasedFallbackSlot with fallbackSlotAcquired := false }
  else s

/-- `SessionLifecycleRuntime::record_usage`. -/
def recordUsage (env : Env) (s : ServerSession) : ServerSession :=
  if env.auth.isSome ∧ s.authPassword ≠ [] then
    s.notes (.recordedUsage s.authPassword s.recvLen s.sentLen)
  else s

/-- `close_outbound_sockets`. -/
def closeOutboundSockets (s : ServerSession) : ServerSession :=
  { s with outSocketOpen := false, udpSocketOpen := false }

/-- `shutdown_inbound_tls`. -/
def shutdownInboundTls (s : ServerSession) : ServerSession :=
  if !s.inSocketOpen then s
  else match s.bootstrapMode with
  | .trustedFrontIngress => { s with inSocketOpen := false }
  | _ => (s.begins .tlsShutdown).begins .shutdownTimer

/-- **`destroy`**. Cancelling what is in flight (`cancel_runtime_io`, and the
`cancel` of each socket) changes how operations complete, not the session. -/
def destroy (env : Env) (s : ServerSession) : ServerSession :=
  if s.status = .destroy then s
  else
    let s := { s.notes .destroyed with status := .destroy }
    ((s.releaseSlots.recordUsage env).closeOutboundSockets).shutdownInboundTls

/-! ## Reads and writes -/

/-- `trusted_front_ingress_async_read`. -/
def trustedFrontIngressAsyncRead (s : ServerSession) : ServerSession :=
  s.begins .trustedFrontRead

/-- `in_async_read`. -/
def inAsyncRead (s : ServerSession) : ServerSession := s.begins .inRead

/-- `in_async_write_buffer`: the bytes are copied into the member buffer, and
written from there. -/
def inAsyncWriteBuffer (s : ServerSession) (data : Bytes) : ServerSession :=
  { s with inWriteData := data, history := .modified .inWriteData :: s.history }.begins
    (.inWrite data)

/-- `in_async_write`. -/
def inAsyncWrite (s : ServerSession) (data : Bytes) : ServerSession :=
  s.inAsyncWriteBuffer data

/-- `out_async_read`. -/
def outAsyncRead (s : ServerSession) : ServerSession := s.begins .outRead

/-- `out_async_write_buffer`. -/
def outAsyncWriteBuffer (s : ServerSession) (data : Bytes) (accountSentBytes : Bool) :
    ServerSession :=
  { s with outWriteData := data, history := .modified .outWriteData :: s.history }.begins
    (.outWrite data accountSentBytes)

/-- `out_async_write`. -/
def outAsyncWrite (s : ServerSession) (data : Bytes) (accountSentBytes : Bool) :
    ServerSession :=
  s.outAsyncWriteBuffer data accountSentBytes

/-- `udp_async_read`. -/
def udpAsyncRead (s : ServerSession) : ServerSession := s.begins .udpReceive

/-- `udp_async_write`. -/
def udpAsyncWrite (s : ServerSession) (data : Bytes) (endpoint : UdpEndpoint)
    (accountedLength : ℕ) : ServerSession :=
  { s with udpWriteData := data, history := .modified .udpWriteData :: s.history }.begins
    (.udpSend data endpoint accountedLength)

/-- The growth check on `in_read_buf`. It is marked as a modification of the
buffer whether or not the buffer grows. -/
def growInReadBuf (s : ServerSession) (length : ℕ) : ServerSession :=
  { s with
      inReadBuf := growAfterRead s.inReadBuf length
      history := .modified .inReadBuf :: s.history }

/-- The growth check on `out_read_buf`. -/
def growOutReadBuf (s : ServerSession) (length : ℕ) : ServerSession :=
  { s with
      outReadBuf := growAfterRead s.outReadBuf length
      history := .modified .outReadBuf :: s.history }

/-- The growth check on `udp_read_buf`. -/
def growUdpReadBuf (s : ServerSession) (length : ℕ) : ServerSession :=
  { s with
      udpReadBuf := growAfterRead s.udpReadBuf length
      history := .modified .udpReadBuf :: s.history }

/-! ## UDP -/

/-- `ServerSession::UdpDispatchDecision`. -/
inductive UdpDispatchDecision where
  | proceed
  | waitForMoreData
  | destroySession
  deriving DecidableEq, Repr

/-- **`try_parse_udp_packet`**: the decision, the request, and the session with
the packet taken off `udp_data_buf`. -/
def tryParseUdpPacket (s : ServerSession) :
    UdpDispatchDecision × UdpDispatchRequest × ServerSession :=
  match ({} : UDPPacket).parse s.udpDataBuf with
  | (_, none) =>
    if s.udpDataBuf.length > maxLength then (.destroySession, {}, s)
    else (.waitForMoreData, {}, s)
  | (packet, some packetLen) =>
    (.proceed,
      { payload := packet.payload
        packetLength := packet.length
        queryAddr := packet.address.address
        queryPort := packet.address.port },
      { s with udpDataBuf := s.udpDataBuf.drop packetLen })

/-- `resolve_udp_target`. -/
def resolveUdpTarget (s : ServerSession) (request : UdpDispatchRequest) : ServerSession :=
  s.begins (.udpResolve request)

/-- **`udp_sent`**: take the next packet off the buffer, or wait for more. -/
def udpSent (env : Env) (s : ServerSession) : ServerSession :=
  if s.status = .udpForward then
    match s.tryParseUdpPacket with
    | (.waitForMoreData, _, s) => s.inAsyncRead
    | (.destroySession, _, s) => s.destroy env
    | (.proceed, request, s) => s.resolveUdpTarget request
  else s

/-- `ensure_udp_socket_open`. -/
def ensureUdpSocketOpen (env : Env) (s : ServerSession) (openError : Bool) : ServerSession :=
  if s.udpSocketOpen then s
  else if openError then s.destroy env
  else { s.notes .openedUdpSocket with udpSocketOpen := true }.udpAsyncRead

/-- `dispatch_udp_payload`. -/
def dispatchUdpPayload (env : Env) (s : ServerSession) (payload : Bytes) (packetLength : ℕ)
    (endpoint : UdpEndpoint) (openError : Bool) : ServerSession :=
  let s := s.ensureUdpSocketOpen env openError
  if !s.udpSocketOpen then s else s.udpAsyncWrite payload endpoint packetLength

/-- The handler of `resolve_udp_target`: `evaluate_udp_resolve_result` gives up
on an error and on an empty result, else `handle_udp_resolved_packet`
dispatches to the endpoint `choose_udp_target_endpoint` finds. -/
def udpResolved (env : Env) (s : ServerSession) (request : UdpDispatchRequest)
    (results : Option (List UdpEndpoint)) (openError : Bool) : ServerSession :=
  match results.bind (chooseEndpoint env.config.tcp.preferIpv4 (·.address.isV4)) with
  | none => s.destroy env
  | some endpoint =>
    s.dispatchUdpPayload env request.payload request.packetLength endpoint openError

/-- `start_udp_forward`. -/
def startUdpForward (env : Env) (s : ServerSession) (plan : RelayExecutionPlan) :
    ServerSession :=
  { s with
      outWriteBuf := plan.initialOutboundPayload
      status := .udpForward
      udpDataBuf := plan.initialOutboundPayload }.udpSent env

/-! ## TCP -/

/-- `SessionAdmissionRuntime::try_acquire_fallback_slot`. -/
def tryAcquireFallbackSlot (s : ServerSession) (granted : Bool) : ServerSession :=
  { s.notes (.fallbackSlot granted) with fallbackSlotAcquired := granted }

/-- **`connect_outbound`**, with the first half of
`RelayExecutor::begin_tcp_relay`: without the slot it needs, the relay does not
begin. -/
def connectOutbound (env : Env) (s : ServerSession) (target : ConnectTarget)
    (requiresFallbackSlot granted : Bool) : ServerSession :=
  if requiresFallbackSlot then
    let s := s.tryAcquireFallbackSlot granted
    if granted then s.begins (.tcpResolve target) else s.destroy env
  else s.begins (.tcpResolve target)

/-- `OutboundDialer::resolve_tcp`'s handler, and `connect_tcp`. -/
def tcpResolved (env : Env) (s : ServerSession) (target : ConnectTarget)
    (results : Option (List IpAddress)) (openError : Bool) : ServerSession :=
  match results.bind (chooseEndpoint env.config.tcp.preferIpv4 IpAddress.isV4) with
  | none => s.destroy env
  | some endpoint =>
    if openError then s.destroy env
    else
      { s.notes .openedOutSocket with outSocketOpen := true }.begins
        (.tcpConnect target endpoint)

/-- `connect_tcp`'s handler, and the `on_success` of `connect_outbound`. -/
def tcpConnected (env : Env) (s : ServerSession) (error : Bool) : ServerSession :=
  if error then s.destroy env
  else
    let s := { s.notes .tunnelEstablished with status := .forward }.outAsyncRead
    if s.outWriteBuf ≠ [] then s.outAsyncWrite s.outWriteBuf true else s.inAsyncRead

/-! ## The handshake payload -/

/-- `select_ingress`. -/
def selectIngress (env : Env) (s : ServerSession) : ServerIngressSelector.Selection :=
  match s.externalFrontHandoff.bind (·.context) with
  | some front => ServerIngressSelector.selectExternalFront env.config front
  | none => ServerIngressSelector.selectDefault

/-- `SessionAdmissionRuntime::apply_auth_result`. -/
def applyAuthResult (s : ServerSession) (decision : SessionGate.SessionDecision) :
    ServerSession :=
  if decision.validTrojanRequest && decision.authenticated then
    if decision.usedExternalAuthenticator then
      { s.notes .authSuccess with authPassword := decision.authRecordPassword }
    else s.notes .authSuccess
  else if decision.validTrojanRequest then s.notes (.authFailure s.inEndpoint)
  else s

/-- **`execute_plan`**. -/
def executePlan (env : Env) (s : ServerSession) (plan : RelayExecutionPlan) (granted : Bool) :
    ServerSession :=
  match plan.mode with
  | .startUdpForward => s.startUdpForward env plan
  | .startTcpForward =>
    { s with outWriteBuf := plan.initialOutboundPayload }.connectOutbound env plan.target
      plan.requiresFallbackSlot granted
  | .rejectAndClose => { s with outWriteBuf := plan.initialOutboundPayload }.destroy env

/-- The gate's decision on the first bytes of a session. -/
def gateResult (env : Env) (s : ServerSession) (data : Bytes) :
    Except String SessionGate.SessionDecision :=
  ServerIngressSelector.evaluate env.config env.auth (s.selectIngress env) s.inEndpoint
    env.tls data

/-- **`handle_handshake_payload`**. -/
def handleHandshakePayload (env : Env) (s : ServerSession) (data : Bytes) (granted : Bool) :
    ServerSession :=
  let s := s.notes (.handshakePayload data)
  match s.gateResult env data with
  | .error _ => s
  | .ok decision =>
    (s.applyAuthResult decision).executePlan env (buildExecutionPlan decision) granted

/-! ## The handlers -/

/-- `in_recv`. -/
def inRecv (env : Env) (s : ServerSession) (length : ℕ) (granted : Bool) : ServerSession :=
  let s := s.growInReadBuf length
  match s.status with
  | .handshake => s.handleHandshakePayload env (s.inReadBuf.take length) granted
  | .forward => s.outAsyncWriteBuffer (s.inReadBuf.take length) true
  | .udpForward =>
    { s with udpDataBuf := s.udpDataBuf ++ s.inReadBuf.take length }.udpSent env
  | .destroy => s

/-- `in_sent`. -/
def inSent (s : ServerSession) : ServerSession :=
  match s.status with
  | .forward => s.outAsyncRead
  | .udpForward => s.udpAsyncRead
  | _ => s

/-- `out_recv`. -/
def outRecv (s : ServerSession) (length : ℕ) : ServerSession :=
  let s := s.growOutReadBuf length
  if s.status = .forward then
    { s with recvLen := s.recvLen + length }.inAsyncWriteBuffer (s.outReadBuf.take length)
  else s

/-- `out_sent`. -/
def outSent (s : ServerSession) : ServerSession :=
  if s.status = .forward then s.inAsyncRead else s

/-- `udp_recv`. -/
def udpRecv (s : ServerSession) (length : ℕ) (endpoint : UdpEndpoint) : ServerSession :=
  let s := s.growUdpReadBuf length
  if s.status = .udpForward then
    { s with recvLen := s.recvLen + length }.inAsyncWrite
      (UDPPacket.generate endpoint (s.udpReadBuf.take length))
  else s

/-- The handler of a read of `trusted_front_ingress_async_read`. -/
def trustedFrontRecv (env : Env) (s : ServerSession) (length : ℕ) (granted : Bool) :
    ServerSession :=
  let s :=
    { s with
        trustedFrontBootstrapBuffer :=
          s.trustedFrontBootstrapBuffer ++ s.inReadBuf.take length }
  let result := TrustedFrontIngressParser.parse env.readJson s.trustedFrontBootstrapBuffer
  if result.isParsed then
    { s with
        trustedFrontBootstrapBuffer := []
        externalFrontHandoff := result.handoff }.handleHandshakePayload env
      result.downstreamPayload granted
  else if result.status = .rejectedIncompleteFrame then s.trustedFrontIngressAsyncRead
  else s.destroy env

/-- The handler of the TLS handshake of `start`. -/
def tlsHandshaken (env : Env) (s : ServerSession) (error : Option Bytes) : ServerSession :=
  match s.bootstrapMode, error with
  | .trustedFrontIngressMtls, none => s.trustedFrontIngressAsyncRead
  | .trustedFrontIngressMtls, some _ => s.destroy env
  | _, none => s.inAsyncRead
  | _, some message =>
    if message = ascii "http request" ∧ env.plainHttpResponse ≠ [] then
      { s with recvLen := s.recvLen + env.plainHttpResponse.length }.begins .plainHttpWrite
    else s.destroy env

/-- `ssl_shutdown_cb`. -/
def sslShutdownCb (s : ServerSession) (aborted : Bool) : ServerSession :=
  if aborted then s else { s with inSocketOpen := false }

/-- **`start`**. -/
def start (env : Env) (s : ServerSession) (remoteEndpoint : Option TcpEndpoint) :
    ServerSession :=
  match remoteEndpoint with
  | none => { s with inEndpoint := {} }.destroy env
  | some endpoint =>
    let s := { s with inEndpoint := endpoint, connectionSlotAcquired := true }
    match s.bootstrapMode with
    | .trustedFrontIngress => s.trustedFrontIngressAsyncRead
    | _ => s.begins .tlsHandshake

/-- **The handler of an event**, once the operation has ended. -/
def handle (env : Env) (s : ServerSession) : Event → ServerSession
  | .start remoteEndpoint => s.start env remoteEndpoint
  | .tlsHandshake error => s.tlsHandshaken env error
  | .plainHttpWrite => s.destroy env
  | .trustedFrontRead none _ => s.destroy env
  | .trustedFrontRead (some data) granted =>
    { s with inReadBuf := fillBuffer s.inReadBuf data }.trustedFrontRecv env data.length granted
  | .inRead none _ => s.destroy env
  | .inRead (some data) granted =>
    { s with inReadBuf := fillBuffer s.inReadBuf data }.inRecv env data.length granted
  | .inWrite _ error => if error then s.destroy env else s.inSent
  | .outRead none => s.destroy env
  | .outRead (some data) =>
    { s with outReadBuf := fillBuffer s.outReadBuf data }.outRecv data.length
  | .outWrite data accountSentBytes error =>
    if error then s.destroy env
    else if accountSentBytes then { s with sentLen := s.sentLen + data.length }.outSent
    else s.outSent
  | .tcpResolve target results openError => s.tcpResolved env target results openError
  | .tcpConnect _ _ error => s.tcpConnected env error
  | .udpResolve request results openError => s.udpResolved env request results openError
  | .udpSend _ _ accountedLength error =>
    if error then s.destroy env
    else if accountedLength > 0 then
      { s with sentLen := s.sentLen + accountedLength }.udpSent env
    else s.udpSent env
  | .udpReceive none => s.destroy env
  | .udpReceive (some (data, endpoint)) =>
    { s with udpReadBuf := fillBuffer s.udpReadBuf data }.udpRecv data.length endpoint
  | .tlsShutdown aborted => s.sslShutdownCb aborted
  | .shutdownTimer aborted => s.sslShutdownCb aborted

/-- A read delivers no more than its buffer has room for, and a receive delivers
a datagram. -/
def Event.fits (s : ServerSession) : Event → Bool
  | trustedFrontRead (some data) _ => data.length ≤ s.inReadBuf.length
  | inRead (some data) _ => data.length ≤ s.inReadBuf.length
  | outRead (some data) => data.length ≤ s.outReadBuf.length
  | udpReceive (some (data, _)) => data.length ≤ s.udpReadBuf.length && isDatagram data
  | _ => true

/-- The session as an event finds it: its operation ended, and the completion
noted. -/
def receives (s : ServerSession) (e : Event) : ServerSession :=
  match e.operation with
  | none => s.notes (.handled s.status e)
  | some op =>
    { s with history := .ended op :: .noted (.handled s.status e) :: s.history }

/-- Whether an event can happen: a session is started once, before anything
else, and an operation completes while it is in flight. -/
def accepts (s : ServerSession) (e : Event) : Bool :=
  match e.operation with
  | none => s.history.isEmpty
  | some op => op ∈ s.pending && e.fits s

/-- **One step of a session**: an event that can happen, handled. -/
def step (env : Env) (s : ServerSession) (e : Event) : Option ServerSession :=
  if s.accepts e then some ((s.receives e).handle env e) else none

/-- A session as the service creates it: `create_server_session` with the
handoff it may apply, or `create_trusted_front_server_session` with a
bootstrap mode of the trusted front. -/
def create (mode : BootstrapMode) (handoff : Option ExternalFrontHandoff) : ServerSession :=
  { bootstrapMode := mode, externalFrontHandoff := handoff }

/-! ## What the parts of a step do -/

section Parts

variable (s : ServerSession) (op : Operation) (n : Note)

@[simp] theorem pending_begins : (s.begins op).pending = op :: s.pending := rfl

@[simp] theorem status_begins : (s.begins op).status = s.status := rfl

@[simp] theorem history_begins : (s.begins op).history = .began op :: s.history := rfl

@[simp] theorem udpSocketOpen_begins : (s.begins op).udpSocketOpen = s.udpSocketOpen := rfl

@[simp] theorem pending_notes : (s.notes n).pending = s.pending := rfl

@[simp] theorem status_notes : (s.notes n).status = s.status := rfl

@[simp] theorem history_notes : (s.notes n).history = .noted n :: s.history := rfl

end Parts

/-- **A read in the handshake** is its payload. -/
theorem inRecv_of_handshake (env : Env) {s : ServerSession} {data : Bytes}
    (hs : s.status = .handshake)
    (hbuf : (growAfterRead s.inReadBuf data.length).take data.length = data) (granted : Bool) :
    s.inRecv env data.length granted
      = (s.growInReadBuf data.length).handleHandshakePayload env data granted := by
  have htake : (s.growInReadBuf data.length).inReadBuf.take data.length = data := hbuf
  unfold inRecv
  dsimp only
  split
  · rw [htake]
  all_goals
    rename_i hother
    exact absurd (hs.symm.trans hother) (by simp)

/-- **A read of a UDP relay** goes to the end of `udp_data_buf`. -/
theorem inRecv_of_udpForward (env : Env) {s : ServerSession} {data : Bytes}
    (hs : s.status = .udpForward)
    (hbuf : (growAfterRead s.inReadBuf data.length).take data.length = data) (granted : Bool) :
    s.inRecv env data.length granted
      = { s.growInReadBuf data.length with udpDataBuf := s.udpDataBuf ++ data }.udpSent env := by
  have htake : (s.growInReadBuf data.length).inReadBuf.take data.length = data := hbuf
  unfold inRecv
  dsimp only
  split
  case h_3 =>
    rw [htake]
    rfl
  all_goals
    rename_i hother
    exact absurd (hs.symm.trans hother) (by simp)

/-- What `shutdown_inbound_tls` begins, the newest first. -/
def farewellOperations (s : ServerSession) : List Operation :=
  if s.inSocketOpen ∧ s.bootstrapMode ≠ .trustedFrontIngress then [.shutdownTimer, .tlsShutdown]
  else []

/-- The slots a session gives back as it is destroyed, the newest first. -/
def releaseNotes (s : ServerSession) : List Note :=
  (if s.fallbackSlotAcquired then [.releasedFallbackSlot] else [])
    ++ (if s.connectionSlotAcquired then [.releasedConnectionSlot s.inEndpoint] else [])

/-- The usage it reports. -/
def usageNotes (env : Env) (s : ServerSession) : List Note :=
  if env.auth.isSome ∧ s.authPassword ≠ [] then
    [.recordedUsage s.authPassword s.recvLen s.sentLen]
  else []

/-- **What a session does as it is destroyed**, the newest first. -/
def farewellNotes (env : Env) (s : ServerSession) : List Note :=
  s.usageNotes env ++ (s.releaseNotes ++ [.destroyed])

/-- The marks of a destruction. -/
def farewell (env : Env) (s : ServerSession) : History :=
  s.farewellOperations.map .began ++ (s.farewellNotes env).map .noted

/-- **A session, destroyed**: its slots are given back and its sockets closed,
and nothing else of it changes. -/
theorem destroy_eq (env : Env) (s : ServerSession) (h : s.status ≠ .destroy) :
    s.destroy env
      = { s with
          status := .destroy
          connectionSlotAcquired := false
          fallbackSlotAcquired := false
          outSocketOpen := false
          udpSocketOpen := false
          inSocketOpen := s.inSocketOpen && s.bootstrapMode ≠ .trustedFrontIngress
          history := s.farewell env ++ s.history } := by
  rw [destroy, if_neg h]
  obtain ⟨status, mode, ep, ho, tb, cs, fs, pw, ir, or', ur, iw, ow, uw, owb, ud, rl, sl, io, oo,
    uo, hist⟩ := s
  simp only [releaseSlots, recordUsage, closeOutboundSockets, shutdownInboundTls, farewell,
    farewellOperations, farewellNotes, usageNotes, releaseNotes, notes, begins]
  cases cs <;> cases fs <;> cases io <;> cases mode <;>
    by_cases hu : env.auth.isSome = true ∧ pw ≠ [] <;> simp [hu]

theorem destroy_of_destroy (env : Env) (s : ServerSession) (h : s.status = .destroy) :
    s.destroy env = s := if_pos h

@[simp] theorem status_destroy (env : Env) (s : ServerSession) :
    (s.destroy env).status = .destroy := by
  by_cases h : s.status = .destroy
  · rw [destroy_of_destroy env s h, h]
  · rw [destroy_eq env s h]

/-- **The gate decides about every session**, from its first bytes and some
context. -/
theorem exists_gateResult (env : Env) (s : ServerSession) (data : Bytes) :
    ∃ context, s.gateResult env data
      = .ok (SessionGate.evaluate env.config env.auth ⟨context, data⟩) := by
  unfold gateResult selectIngress
  split
  · rename_i front _
    exact ServerIngressSelector.exists_context_of_select env.config env.auth
      (.externalFront front) s.inEndpoint env.tls data
  · exact ServerIngressSelector.exists_context_of_select env.config env.auth .default
      s.inEndpoint env.tls data

/-! ## Nothing is forgotten -/

/-- What a session does as it is destroyed is: give back slots, report its
usage, be destroyed. -/
theorem mem_farewellNotes {env : Env} {s : ServerSession} {n : Note}
    (h : n ∈ s.farewellNotes env) :
    n = .recordedUsage s.authPassword s.recvLen s.sentLen ∨ n = .releasedFallbackSlot
      ∨ n = .releasedConnectionSlot s.inEndpoint ∨ n = .destroyed := by
  unfold farewellNotes usageNotes releaseNotes at h
  simp only [List.mem_append, List.mem_ite_nil_right, List.mem_singleton] at h
  rcases h with ⟨-, h⟩ | (⟨-, h⟩ | ⟨-, h⟩) | h
  · exact .inl h
  · exact .inr (.inl h)
  · exact .inr (.inr (.inl h))
  · exact .inr (.inr (.inr h))

/-- The mark of a completion. -/
def isHandled : Flight.Mark Operation Buffer Note → Bool
  | .noted (.handled _ _) => true
  | _ => false

/-- **The marks a handler makes**: no completion is among them, and failures
and slots are reported under the session's own endpoint. -/
def Own (endpoint : TcpEndpoint) : Flight.Mark Operation Buffer Note → Prop
  | .noted (.handled _ _) => False
  | .noted (.authFailure e) => e = endpoint
  | .noted (.releasedConnectionSlot e) => e = endpoint
  | _ => True

/-- **A session follows from another**, without another completion: it has the
endpoint, the handoff unless a frame was parsed, and the history of the other,
and it goes on from there. -/
structure Follows (env : Env) (s t : ServerSession) : Prop where
  endpoint : t.inEndpoint = s.inEndpoint
  handoff : t.externalFrontHandoff = s.externalFrontHandoff
    ∨ ∃ p, (TrustedFrontIngressParser.parse env.readJson p).isParsed = true
      ∧ t.externalFrontHandoff = (TrustedFrontIngressParser.parse env.readJson p).handoff
  marks : ∃ new, t.history = new ++ s.history ∧ ∀ m ∈ new, Own s.inEndpoint m

namespace Follows

variable {env : Env} {r s t : ServerSession}

theorem refl (env : Env) (s : ServerSession) : Follows env s s :=
  ⟨rfl, .inl rfl, [], rfl, by simp⟩

theorem trans (hs : Follows env r s) (ht : Follows env s t) : Follows env r t := by
  obtain ⟨new, hnew, hown⟩ := hs.marks
  obtain ⟨new', hnew', hown'⟩ := ht.marks
  refine ⟨ht.endpoint.trans hs.endpoint, ?_, new' ++ new, ?_, fun m hm => ?_⟩
  · rcases ht.handoff with h | h
    · rw [h]
      exact hs.handoff
    · exact .inr h
  · rw [hnew', hnew, List.append_assoc]
  · rcases List.mem_append.mp hm with hm | hm
    · exact hs.endpoint ▸ hown' m hm
    · exact hown m hm

/-- A session that has some more marks. -/
theorem adds (hs : Follows env r s) (new : History) (ht : t.history = new ++ s.history)
    (hown : ∀ m ∈ new, Own s.inEndpoint m) (hendpoint : t.inEndpoint = s.inEndpoint)
    (hhandoff : t.externalFrontHandoff = s.externalFrontHandoff) : Follows env r t :=
  hs.trans ⟨hendpoint, .inl hhandoff, new, ht, hown⟩

theorem destroy (hs : Follows env r s) : Follows env r (s.destroy env) := by
  by_cases hd : s.status = .destroy
  · rw [destroy_of_destroy env s hd]
    exact hs
  · rw [destroy_eq env s hd]
    refine hs.adds _ rfl (fun m hm => ?_) rfl rfl
    rcases List.mem_append.mp hm with hm | hm
    · obtain ⟨op, -, rfl⟩ := List.mem_map.mp hm
      trivial
    · obtain ⟨n, hn, rfl⟩ := List.mem_map.mp hm
      rcases mem_farewellNotes hn with rfl | rfl | rfl | rfl
      · trivial
      · trivial
      · rfl
      · trivial

theorem udpSent (hs : Follows env r s) : Follows env r (s.udpSent env) := by
  unfold ServerSession.udpSent tryParseUdpPacket
  split
  · rcases ({} : UDPPacket).parse s.udpDataBuf with ⟨p, _ | n⟩
    · by_cases hlong : s.udpDataBuf.length > maxLength
      · simp only [if_pos hlong]
        exact hs.destroy
      · simp only [if_neg hlong]
        exact hs.adds [_] rfl (by simp [Own]) rfl rfl
    · exact hs.adds [_] rfl (by simp [Own]) rfl rfl
  · exact hs

theorem dispatchUdpPayload (hs : Follows env r s) (payload : Bytes) (packetLength : ℕ)
    (endpoint : UdpEndpoint) (openError : Bool) :
    Follows env r (s.dispatchUdpPayload env payload packetLength endpoint openError) := by
  have hensure : Follows env r (s.ensureUdpSocketOpen env openError) := by
    unfold ensureUdpSocketOpen
    split
    · exact hs
    · split
      · exact hs.destroy
      · exact hs.adds [_, _] rfl (by simp [Own]) rfl rfl
  unfold ServerSession.dispatchUdpPayload
  dsimp only
  split
  · exact hensure
  · exact hensure.adds [_, _] rfl (by simp [Own]) rfl rfl

theorem connectOutbound (hs : Follows env r s) (target : ConnectTarget)
    (requiresFallbackSlot granted : Bool) :
    Follows env r (s.connectOutbound env target requiresFallbackSlot granted) := by
  have hslot : Follows env r (s.tryAcquireFallbackSlot granted) :=
    hs.adds [_] rfl (by simp [Own]) rfl rfl
  unfold ServerSession.connectOutbound
  split
  · dsimp only
    split
    · exact hslot.adds [_] rfl (by simp [Own]) rfl rfl
    · exact hslot.destroy
  · exact hs.adds [_] rfl (by simp [Own]) rfl rfl

/-- A failure is recorded under the session's endpoint. -/
theorem applyAuthResult (hs : Follows env r s) (decision : SessionGate.SessionDecision) :
    Follows env r (s.applyAuthResult decision) := by
  unfold ServerSession.applyAuthResult
  split
  · split
    · exact hs.adds [_] rfl (by simp [Own]) rfl rfl
    · exact hs.adds [_] rfl (by simp [Own]) rfl rfl
  · split
    · exact hs.adds [_] rfl (by simp [Own]) rfl rfl
    · exact hs

/-- The handshake payload is noted first. -/
theorem notesPayload (env : Env) (s : ServerSession) (data : Bytes) (granted : Bool) :
    Follows env (s.notes (.handshakePayload data))
      (s.handleHandshakePayload env data granted) := by
  have happly (decision : SessionGate.SessionDecision) :=
    (refl env (s.notes (.handshakePayload data))).applyAuthResult decision
  unfold ServerSession.handleHandshakePayload
  dsimp only
  split
  · exact refl env _
  · rename_i decision _
    unfold executePlan
    split
    · refine udpSent ?_
      exact (happly decision).adds [] rfl (by simp) rfl rfl
    · refine connectOutbound ?_ _ _ granted
      exact (happly decision).adds [] rfl (by simp) rfl rfl
    · refine destroy ?_
      exact (happly decision).adds [] rfl (by simp) rfl rfl

theorem handleHandshakePayload (hs : Follows env r s) (data : Bytes) (granted : Bool) :
    Follows env r (s.handleHandshakePayload env data granted) := by
  have hnoted : Follows env r (s.notes (.handshakePayload data)) :=
    hs.adds [_] rfl (by simp [Own]) rfl rfl
  exact hnoted.trans (notesPayload env s data granted)

theorem inRecv (hs : Follows env r s) (length : ℕ) (granted : Bool) :
    Follows env r (s.inRecv env length granted) := by
  have hgrow : Follows env r (s.growInReadBuf length) :=
    hs.adds [_] rfl (by simp [Own]) rfl rfl
  unfold ServerSession.inRecv
  dsimp only
  split
  · exact hgrow.handleHandshakePayload _ granted
  · exact hgrow.adds [_, _] rfl (by simp [Own]) rfl rfl
  · refine udpSent ?_
    exact hgrow.adds [] rfl (by simp) rfl rfl
  · exact hgrow

/-- A parsed frame hands its handoff over. -/
theorem trustedFrontRecv (hs : Follows env r s) (length : ℕ) (granted : Bool) :
    Follows env r (s.trustedFrontRecv env length granted) := by
  unfold ServerSession.trustedFrontRecv
  dsimp only
  split
  · rename_i hparsed
    refine handleHandshakePayload ?_ _ granted
    exact hs.trans ⟨rfl, .inr ⟨_, hparsed, rfl⟩, [], rfl, by simp⟩
  · split
    · exact hs.adds [_] rfl (by simp [Own]) rfl rfl
    · refine destroy ?_
      exact hs.adds [] rfl (by simp) rfl rfl

theorem sslShutdownCb (hs : Follows env r s) (aborted : Bool) :
    Follows env r (s.sslShutdownCb aborted) := by
  unfold ServerSession.sslShutdownCb
  split
  · exact hs
  · exact hs.adds [] rfl (by simp) rfl rfl

/-- **The handler of a completion only goes on from the session it finds.** -/
theorem handle (hs : Follows env r s) {e : Event} {op : Operation}
    (hop : e.operation = some op) : Follows env r (s.handle env e) := by
  cases e with
  | start remoteEndpoint => exact absurd hop (by simp [Event.operation])
  | tlsHandshake error =>
    show Follows env r (s.tlsHandshaken env error)
    unfold tlsHandshaken
    split
    · exact hs.adds [_] rfl (by simp [Own]) rfl rfl
    · exact hs.destroy
    · exact hs.adds [_] rfl (by simp [Own]) rfl rfl
    · split
      · exact hs.adds [_] rfl (by simp [Own]) rfl rfl
      · exact hs.destroy
  | plainHttpWrite => exact hs.destroy
  | trustedFrontRead data granted =>
    cases data with
    | none => exact hs.destroy
    | some data =>
      refine trustedFrontRecv ?_ data.length granted
      exact hs.adds [] rfl (by simp) rfl rfl
  | inRead data granted =>
    cases data with
    | none => exact hs.destroy
    | some data =>
      refine inRecv ?_ data.length granted
      exact hs.adds [] rfl (by simp) rfl rfl
  | inWrite data error =>
    cases error with
    | true => exact hs.destroy
    | false =>
      show Follows env r s.inSent
      unfold inSent
      split
      · exact hs.adds [_] rfl (by simp [Own]) rfl rfl
      · exact hs.adds [_] rfl (by simp [Own]) rfl rfl
      · exact hs
  | outRead data =>
    cases data with
    | none => exact hs.destroy
    | some data =>
      show Follows env r (ServerSession.outRecv _ data.length)
      unfold outRecv
      dsimp only
      split
      · exact hs.adds [_, _, _] rfl (by simp [Own]) rfl rfl
      · exact hs.adds [_] rfl (by simp [Own]) rfl rfl
  | outWrite data account error =>
    have hsent {t : ServerSession} (ht : Follows env r t) : Follows env r t.outSent := by
      unfold outSent
      split
      · exact ht.adds [_] rfl (by simp [Own]) rfl rfl
      · exact ht
    cases error with
    | true => exact hs.destroy
    | false =>
      cases account with
      | true =>
        refine hsent ?_
        exact hs.adds [] rfl (by simp) rfl rfl
      | false => exact hsent hs
  | tcpResolve target results openError =>
    show Follows env r (s.tcpResolved env target results openError)
    unfold tcpResolved
    split
    · exact hs.destroy
    · split
      · exact hs.destroy
      · exact hs.adds [_, _] rfl (by simp [Own]) rfl rfl
  | tcpConnect target endpoint error =>
    show Follows env r (s.tcpConnected env error)
    unfold tcpConnected
    split
    · exact hs.destroy
    · dsimp only
      split
      · exact hs.adds [_, _, _, _] rfl (by simp [Own]) rfl rfl
      · exact hs.adds [_, _, _] rfl (by simp [Own]) rfl rfl
  | udpResolve request results openError =>
    show Follows env r (s.udpResolved env request results openError)
    unfold udpResolved
    split
    · exact hs.destroy
    · exact hs.dispatchUdpPayload _ _ _ openError
  | udpSend data endpoint accounted error =>
    cases error with
    | true => exact hs.destroy
    | false =>
      show Follows env r (if accounted > 0 then _ else _ : ServerSession)
      split
      · refine udpSent ?_
        exact hs.adds [] rfl (by simp) rfl rfl
      · exact hs.udpSent
  | udpReceive received =>
    rcases received with _ | ⟨data, endpoint⟩
    · exact hs.destroy
    · show Follows env r (ServerSession.udpRecv _ data.length endpoint)
      unfold udpRecv
      dsimp only
      split
      · exact hs.adds [_, _, _] rfl (by simp [Own]) rfl rfl
      · exact hs.adds [_] rfl (by simp [Own]) rfl rfl
  | tlsShutdown aborted => exact hs.sslShutdownCb aborted
  | shutdownTimer aborted => exact hs.sslShutdownCb aborted

end Follows

/-- **A session remembers a history**: its own goes on from there, without
another completion. -/
def Remembers (s : ServerSession) (h : History) : Prop :=
  ∃ new, s.history = new ++ h ∧ ∀ m ∈ new, isHandled m = false

/-- What follows from a session remembers what it remembers. -/
theorem Follows.remembers {env : Env} {s t : ServerSession} {h : History}
    (ht : Follows env s t) (hs : s.Remembers h) : t.Remembers h := by
  obtain ⟨new, hnew, hown⟩ := ht.marks
  obtain ⟨old, hold, hnot⟩ := hs
  refine ⟨new ++ old, by rw [hnew, hold, List.append_assoc], fun m hm => ?_⟩
  rcases List.mem_append.mp hm with hm | hm
  · have hm' := hown m hm
    unfold isHandled
    split
    · exact hm'.elim
    · rfl
  · exact hnot m hm

/-- The handshake payload is noted first. -/
theorem Remembers.notesPayload (s : ServerSession) (env : Env) (data : Bytes) (granted : Bool) :
    (s.handleHandshakePayload env data granted).Remembers
      (.noted (.handshakePayload data) :: s.history) :=
  (Follows.notesPayload env s data granted).remembers ⟨[], rfl, by simp⟩

/-- **A handler only adds to the history.** -/
theorem Remembers.handle {s : ServerSession} {h : History} (hs : s.Remembers h) (env : Env)
    (e : Event) : (s.handle env e).Remembers h := by
  cases hop : e.operation with
  | some op => exact ((Follows.refl env s).handle hop).remembers hs
  | none =>
    cases e with
    | start remoteEndpoint =>
      cases remoteEndpoint with
      | none =>
        refine (Follows.refl env { s with inEndpoint := {} }).destroy.remembers ?_
        exact hs
      | some endpoint =>
        have hbegins (op : Operation) :=
          (Follows.refl env
            { s with inEndpoint := endpoint, connectionSlotAcquired := true }).adds
            (t := { s with inEndpoint := endpoint, connectionSlotAcquired := true }.begins op)
            [_] rfl (by simp [Own]) rfl rfl
        show Remembers (match s.bootstrapMode with | .trustedFrontIngress => _ | _ => _) h
        split
        · exact (hbegins .trustedFrontRead).remembers hs
        · exact (hbegins .tlsHandshake).remembers hs
    | _ => exact absurd hop (by simp [Event.operation])

/-- **A step adds to the history the completion that it handles**, and then
what its handler does. -/
theorem remembers_step {env : Env} {s t : ServerSession} {e : Event}
    (h : step env s e = some t) : t.Remembers (.noted (.handled s.status e) :: s.history) := by
  unfold step at h
  split at h
  · rw [← Option.some.inj h]
    refine Remembers.handle ?_ env e
    unfold receives
    split
    · exact ⟨[], rfl, by simp⟩
    · exact ⟨[_], rfl, by simp [isHandled]⟩
  · exact absurd h (by simp)

/-- **A step goes on from the session as its event finds it.** -/
theorem follows_step {env : Env} {s t : ServerSession} {e : Event} {op : Operation}
    (hop : e.operation = some op) (h : step env s e = some t) :
    Follows env (s.receives e) t := by
  unfold step at h
  split at h
  · rw [← Option.some.inj h]
    exact (Follows.refl env _).handle hop
  · exact absurd h (by simp)

theorem suffix_step {env : Env} {s t : ServerSession} {e : Event}
    (h : step env s e = some t) : s.history <:+ t.history := by
  obtain ⟨new, ht, -⟩ := remembers_step h
  exact (List.suffix_cons _ _).trans ⟨new, ht.symm⟩

theorem suffix_run {env : Env} {s t : ServerSession} {es : List Event}
    (h : Machine.run (step env) s es = some t) : s.history <:+ t.history :=
  Machine.run_invariant (P := fun t => s.history <:+ t.history)
    (fun _ _ _ hu hstep => hu.trans (suffix_step hstep)) (List.suffix_refl _) h

/-- The event a mark says was handled. -/
def handledEvents : Flight.Mark Operation Buffer Note → List Event
  | .noted (.handled _ e) => [e]
  | _ => []

/-- **The history is a record of the run**: the completions in it are those of
the run, in order. -/
theorem handledEvents_run {env : Env} {s t : ServerSession} {es : List Event}
    (h : Machine.run (step env) s es = some t) :
    Flight.collect handledEvents t.history = Flight.collect handledEvents s.history ++ es := by
  induction es generalizing s with
  | nil => rw [← Option.some.inj h, List.append_nil]
  | cons e es ih =>
    obtain ⟨u, hu, hrest⟩ := Machine.run_cons.mp h
    obtain ⟨new, hnew, hnot⟩ := remembers_step hu
    have hsilent : ∀ m ∈ new, handledEvents m = [] := by
      intro m hm
      have hm' := hnot m hm
      unfold isHandled at hm'
      unfold handledEvents
      split at hm'
      · exact absurd hm' (by simp)
      · rfl
    rw [ih hrest, hnew, Flight.collect_append_of_silent hsilent, Flight.collect_cons,
      List.append_assoc]
    rfl

end ServerSession
