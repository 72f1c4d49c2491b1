import Trojan.Config
import Trojan.Session
import Trojan.TrojanRequest
import Trojan.UdpPacket
import Trojan.Util.Flight
import Trojan.Util.Machine

/-!
# The UDP forward session

`UDPForwardSession` (`session/udpforwardsession.cpp`) carries the datagrams of
one local peer to a fixed target, through a tunnel of its own, and the answers
back. The service calls `process` with each datagram of the peer, and the
session calls the service's `in_write` with each answer; both are in the
model, the first as an event, the second as a note of the history. The rest is
as in `Trojan.ServerSession`: a machine driven by the completions of the
operations it has begun, one function for each handler of the source.

One read from the tunnel can bring any number of frames, and the handler takes
them off `udp_data_buf` in a loop (`UDPForwardSession.takeFrames`). It ends
because a frame is never empty.
-/

namespace UDPForwardSession

/-- `UDPForwardSession::Status`. -/
inductive Status where
  | connect
  | forward
  | forwarding
  | destroy
  deriving DecidableEq, Repr

/-- The member buffers that are given to operations. -/
inductive Buffer where
  | outReadBuf
  | outWriteData
  deriving DecidableEq, Repr

/-- The asynchronous operations of a session. -/
inductive Operation where
  | resolve
  | tcpConnect (endpoint : IpAddress)
  | tlsHandshake
  | outRead
  | outWrite (data : Bytes)
  /-- A wait on `gc_timer`. -/
  | timer
  | tlsShutdown
  | shutdownTimer
  deriving DecidableEq

/-- **What can happen to a session**: its start, a datagram from the service,
or the completion of one of its operations. -/
inductive Event where
  | start
  | resolve (results : Option (List IpAddress)) (openError : Bool)
  | tcpConnect (endpoint : IpAddress) (error : Bool)
  | tlsHandshake (error : Bool)
  | process (endpoint : UdpEndpoint) (data : Bytes)
  | outRead (data : Option Bytes)
  | outWrite (data : Bytes) (error : Bool)
  /-- A wait that was cancelled ends with an error. -/
  | timer (error : Bool)
  | tlsShutdown (aborted : Bool)
  | shutdownTimer (aborted : Bool)
  deriving DecidableEq

/-- The operation an event completes. -/
def Event.operation : Event → Option Operation
  | start => none
  | resolve _ _ => some .resolve
  | tcpConnect endpoint _ => some (.tcpConnect endpoint)
  | tlsHandshake _ => some .tlsHandshake
  | process _ _ => none
  | outRead _ => some .outRead
  | outWrite data _ => some (.outWrite data)
  | timer _ => some .timer
  | tlsShutdown _ => some .tlsShutdown
  | shutdownTimer _ => some .shutdownTimer

/-- What a history records besides operations and buffers. -/
inductive Note where
  /-- An event was handled, in a status. -/
  | handled (status : Status) (event : Event)
  | openedOutSocket
  | tunnelEstablished
  /-- The service's `in_write` was called. -/
  | inWrite (endpoint : UdpEndpoint) (payload : Bytes)
  | destroyed
  deriving DecidableEq

/-- A session's history, the newest mark first. -/
abbrev History := List (Flight.Mark Operation Buffer Note)

end UDPForwardSession

open UDPForwardSession in
/-- **A UDP forward session.** -/
structure UDPForwardSession where
  status : Status := .connect
  udpRecvEndpoint : UdpEndpoint
  outReadBuf : Bytes := List.replicate defaultBufferSize 0
  outWriteData : Bytes := []
  outWriteBuf : Bytes := []
  udpDataBuf : Bytes := []
  recvLen : ℕ := 0
  sentLen : ℕ := 0
  outSocketOpen : Bool := false
  history : History := []

namespace UDPForwardSession

/-- The operations of a session that are in flight. -/
def pending (s : UDPForwardSession) : List Operation := Flight.inFlight s.history

/-- Begin an operation. -/
def begins (s : UDPForwardSession) (op : Operation) : UDPForwardSession :=
  { s with history := .began op :: s.history }

/-- Put a note into the history. -/
def notes (s : UDPForwardSession) (n : Note) : UDPForwardSession :=
  { s with history := .noted n :: s.history }

/-- **`destroy`**. What it cancels changes how operations complete, not the
session. -/
def destroy (s : UDPForwardSession) : UDPForwardSession :=
  if s.status = .destroy then s
  else
    let s := { s.notes .destroyed with status := .destroy }
    if s.outSocketOpen then (s.begins .tlsShutdown).begins .shutdownTimer else s

/-- `out_async_read`. -/
def outAsyncRead (s : UDPForwardSession) : UDPForwardSession := s.begins .outRead

/-- `out_async_write_buffer`. -/
def outAsyncWriteBuffer (s : UDPForwardSession) (data : Bytes) : UDPForwardSession :=
  { s with outWriteData := data, history := .modified .outWriteData :: s.history }.begins
    (.outWrite data)

/-- `out_async_write`. -/
def outAsyncWrite (s : UDPForwardSession) (data : Bytes) : UDPForwardSession :=
  s.outAsyncWriteBuffer data

/-- `timer_async_wait`. -/
def timerAsyncWait (s : UDPForwardSession) : UDPForwardSession := s.begins .timer

/-- **`start`**. -/
def start (config : Config) (s : UDPForwardSession) : UDPForwardSession :=
  let s := s.timerAsyncWait
  { s with
      outWriteBuf := TrojanRequest.generate config.firstPassword config.targetAddr
        config.targetPort false }.begins .resolve

/-- The handler of the resolve of `start`. -/
def resolved (s : UDPForwardSession) (results : Option (List IpAddress)) (openError : Bool) :
    UDPForwardSession :=
  match results.bind List.head? with
  | none => s.destroy
  | some endpoint =>
    if openError then s.destroy
    else { s.notes .openedOutSocket with outSocketOpen := true }.begins (.tcpConnect endpoint)

/-- The handler of the connect of `start`. -/
def connected (s : UDPForwardSession) (error : Bool) : UDPForwardSession :=
  if error then s.destroy else s.begins .tlsHandshake

/-- The handler of the TLS handshake of `start`. -/
def handshaken (s : UDPForwardSession) (error : Bool) : UDPForwardSession :=
  if error then s.destroy
  else
    let s := { s.notes .tunnelEstablished with status := .forwarding }.outAsyncRead
    { s.outAsyncWrite s.outWriteBuf with outWriteBuf := [] }

/-- `in_recv`. -/
def inRecv (config : Config) (s : UDPForwardSession) (data : Bytes) : UDPForwardSession :=
  if s.status = .destroy then s
  else
    let s := s.timerAsyncWait
    let packet := UDPPacket.generateDomain config.targetAddr config.targetPort data
    let s := { s with sentLen := s.sentLen + data.length }
    if s.status = .forward then { s with status := .forwarding }.outAsyncWrite packet
    else { s with outWriteBuf := s.outWriteBuf ++ packet }

/-- **`process`**: whether the datagram is the session's, and the session. -/
def process (config : Config) (s : UDPForwardSession) (endpoint : UdpEndpoint) (data : Bytes) :
    Bool × UDPForwardSession :=
  if endpoint ≠ s.udpRecvEndpoint then (false, s) else (true, s.inRecv config data)

/-- What is left of a buffer behind a frame is shorter. -/
theorem length_drop_lt_of_parse {data : Bytes} {packet : UDPPacket} {n : ℕ}
    (h : ({} : UDPPacket).parse data = (packet, some n)) :
    (data.drop n).length < data.length := by
  have hdecode := UDPPacket.decode_eq_some.mpr h
  have hpos := udpFrameCode.decode_pos data packet n hdecode
  have hle := udpFrameCode.decode_le data packet n hdecode
  rw [List.length_drop]
  omega

/-- **The loop of `out_recv`**: frame after frame is taken off `udp_data_buf`
and its payload given to the service, until what is left is not a frame. If
that is too long the session is destroyed, else it reads on. -/
def takeFrames (s : UDPForwardSession) : UDPForwardSession :=
  match _h : ({} : UDPPacket).parse s.udpDataBuf with
  | (_, none) => if s.udpDataBuf.length > maxLength then s.destroy else s.outAsyncRead
  | (packet, some packetLen) =>
    takeFrames
      { s.notes (.inWrite s.udpRecvEndpoint packet.payload) with
          udpDataBuf := s.udpDataBuf.drop packetLen
          recvLen := s.recvLen + packet.length }
termination_by s.udpDataBuf.length
decreasing_by exact length_drop_lt_of_parse _h

/-- **`out_recv`**. -/
def outRecv (s : UDPForwardSession) (length : ℕ) : UDPForwardSession :=
  let s :=
    { s with
        outReadBuf := growAfterRead s.outReadBuf length
        history := .modified .outReadBuf :: s.history }
  if s.status = .forward ∨ s.status = .forwarding then
    let s := s.timerAsyncWait
    { s with udpDataBuf := s.udpDataBuf ++ s.outReadBuf.take length }.takeFrames
  else s

/-- `out_sent`. -/
def outSent (s : UDPForwardSession) : UDPForwardSession :=
  if s.status = .forwarding then
    if s.outWriteBuf.length = 0 then { s with status := .forward }
    else { s.outAsyncWrite s.outWriteBuf with outWriteBuf := [] }
  else s

/-- `ssl_shutdown_cb`. -/
def sslShutdownCb (s : UDPForwardSession) (aborted : Bool) : UDPForwardSession :=
  if aborted then s else { s with outSocketOpen := false }

/-- **The handler of an event**, once the operation has ended. -/
def handle (config : Config) (s : UDPForwardSession) : Event → UDPForwardSession
  | .start => s.start config
  | .resolve results openError => s.resolved results openError
  | .tcpConnect _ error => s.connected error
  | .tlsHandshake error => s.handshaken error
  | .process endpoint data => (s.process config endpoint data).2
  | .outRead none => s.destroy
  | .outRead (some data) =>
    { s with outReadBuf := fillBuffer s.outReadBuf data }.outRecv data.length
  | .outWrite _ error => if error then s.destroy else s.outSent
  | .timer error => if error then s else s.destroy
  | .tlsShutdown aborted => s.sslShutdownCb aborted
  | .shutdownTimer aborted => s.sslShutdownCb aborted

/-- A read delivers no more than its buffer has room for. -/
def Event.fits (s : UDPForwardSession) : Event → Bool
  | outRead (some data) => data.length ≤ s.outReadBuf.length
  | _ => true

/-- The session as an event finds it. -/
def receives (s : UDPForwardSession) (e : Event) : UDPForwardSession :=
  match e.operation with
  | none => s.notes (.handled s.status e)
  | some op =>
    { s with history := .ended op :: .noted (.handled s.status e) :: s.history }

/-- Whether an event can happen: a session is started once, before anything
else, the service gives it datagrams from then on, and an operation completes
while it is in flight. -/
def accepts (s : UDPForwardSession) (e : Event) : Bool :=
  match e, e.operation with
  | .start, _ => s.history.isEmpty
  | _, none => !s.history.isEmpty
  | _, some op => op ∈ s.pending && e.fits s

/-- **One step of a session.** -/
def step (config : Config) (s : UDPForwardSession) (e : Event) : Option UDPForwardSession :=
  if s.accepts e then some ((s.receives e).handle config e) else none

/-- A session as the service creates it, for a peer. -/
def create (endpoint : UdpEndpoint) : UDPForwardSession := { udpRecvEndpoint := endpoint }

/-! ## What the parts of a step do -/

@[simp] theorem pending_begins (s : UDPForwardSession) (op : Operation) :
    (s.begins op).pending = op :: s.pending := rfl

/-- A session that has given some payloads to the service, the newest first,
and has some bytes left. -/
def gave (s : UDPForwardSession) (payloads : List Bytes) (rest : Bytes) (len : ℕ) :
    UDPForwardSession :=
  { s with
      udpDataBuf := rest
      recvLen := len
      history := (payloads.map (.inWrite s.udpRecvEndpoint)).map .noted ++ s.history }

/-- **What the loop of `out_recv` does**: it gives some payloads to the service,
and then the session is destroyed or reads on. -/
theorem exists_takeFrames (s : UDPForwardSession) :
    ∃ payloads rest len, s.takeFrames = (s.gave payloads rest len).destroy
      ∨ s.takeFrames = (s.gave payloads rest len).outAsyncRead := by
  induction s using takeFrames.induct with
  | case1 s packet hparse hlong =>
    refine ⟨[], s.udpDataBuf, s.recvLen, .inl ?_⟩
    rw [takeFrames]
    split
    · rw [if_pos hlong]
      rfl
    · rename_i hparse'
      exact absurd (hparse.symm.trans hparse') (by simp)
  | case2 s packet hparse hshort =>
    refine ⟨[], s.udpDataBuf, s.recvLen, .inr ?_⟩
    rw [takeFrames]
    split
    · rw [if_neg hshort]
      rfl
    · rename_i hparse'
      exact absurd (hparse.symm.trans hparse') (by simp)
  | case3 s packet packetLen hparse ih =>
    obtain ⟨payloads, rest, len, h⟩ := ih
    refine ⟨payloads ++ [packet.payload], rest, len, ?_⟩
    rw [takeFrames]
    split
    · rename_i hparse'
      exact absurd (hparse.symm.trans hparse') (by simp)
    · rename_i packet' packetLen' hparse'
      obtain ⟨rfl, hlen⟩ := Prod.mk.inj (hparse.symm.trans hparse')
      obtain rfl := Option.some.inj hlen
      have hgave : gave { s.notes (.inWrite s.udpRecvEndpoint packet.payload) with
            udpDataBuf := s.udpDataBuf.drop packetLen
            recvLen := s.recvLen + packet.length } payloads rest len
          = s.gave (payloads ++ [packet.payload]) rest len := by
        simp [gave, notes]
      rwa [hgave] at h

/-- A session that is destroyed has that in its history. -/
theorem destroyed_mem_destroy {s : UDPForwardSession} (h : s.status ≠ .destroy) :
    .noted .destroyed ∈ s.destroy.history := by
  rw [destroy, if_neg h]
  dsimp only
  split
  · exact List.mem_cons_of_mem _ (List.mem_cons_of_mem _ List.mem_cons_self)
  · exact List.mem_cons_self

/-- An operation completes while it is in flight. -/
theorem mem_pending_of_accepts {s : UDPForwardSession} {e : Event} {op : Operation}
    (hop : e.operation = some op) (h : s.accepts e = true) : op ∈ s.pending := by
  unfold accepts at h
  split at h
  · exact absurd hop (by simp [Event.operation])
  · rename_i hnone
    exact absurd (hop.symm.trans hnone) (by simp)
  · rename_i hsome
    obtain rfl := Option.some.inj (hop.symm.trans hsome)
    exact of_decide_eq_true (Bool.and_eq_true_iff.mp h).1

/-- **A session follows from another**: it serves the same peer, and its history
goes on from the other's. -/
structure Follows (s t : UDPForwardSession) : Prop where
  peer : t.udpRecvEndpoint = s.udpRecvEndpoint
  suffix : s.history <:+ t.history

namespace Follows

variable {r s t : UDPForwardSession}

theorem refl (s : UDPForwardSession) : Follows s s := ⟨rfl, List.suffix_rfl⟩

theorem trans (hs : Follows r s) (ht : Follows s t) : Follows r t :=
  ⟨ht.peer.trans hs.peer, hs.suffix.trans ht.suffix⟩

/-- A session that has some more marks. -/
theorem adds (hs : Follows r s) (new : History) (ht : t.history = new ++ s.history)
    (hpeer : t.udpRecvEndpoint = s.udpRecvEndpoint) : Follows r t :=
  hs.trans ⟨hpeer, new, ht.symm⟩

theorem destroy (hs : Follows r s) : Follows r s.destroy := by
  unfold UDPForwardSession.destroy
  split
  · exact hs
  · dsimp only
    split
    · exact hs.adds [_, _, _] rfl rfl
    · exact hs.adds [_] rfl rfl

theorem takeFrames (hs : Follows r s) : Follows r s.takeFrames := by
  obtain ⟨payloads, rest, len, heq | heq⟩ := exists_takeFrames s
  · rw [heq]
    refine destroy ?_
    exact hs.adds _ rfl rfl
  · rw [heq]
    exact hs.adds (.began .outRead :: (payloads.map (.inWrite s.udpRecvEndpoint)).map .noted)
      rfl rfl

theorem outRecv (hs : Follows r s) (length : ℕ) : Follows r (s.outRecv length) := by
  unfold UDPForwardSession.outRecv
  dsimp only
  split
  · refine takeFrames ?_
    exact hs.adds [_, _] rfl rfl
  · exact hs.adds [_] rfl rfl

theorem process (hs : Follows r s) (config : Config) (endpoint : UdpEndpoint) (data : Bytes) :
    Follows r (s.process config endpoint data).2 := by
  unfold UDPForwardSession.process
  split
  · exact hs
  · show Follows r (inRecv config s data)
    unfold inRecv
    dsimp only
    split
    · exact hs
    · split
      · exact hs.adds [_, _, _] rfl rfl
      · exact hs.adds [_] rfl rfl

/-- **A handler only goes on from the session it finds.** -/
theorem handle (hs : Follows r s) (config : Config) (e : Event) :
    Follows r (s.handle config e) := by
  cases e with
  | start => exact hs.adds [_, _] rfl rfl
  | resolve results openError =>
    show Follows r (s.resolved results openError)
    unfold resolved
    split
    · exact hs.destroy
    · split
      · exact hs.destroy
      · exact hs.adds [_, _] rfl rfl
  | tcpConnect endpoint error =>
    cases error with
    | true => exact hs.destroy
    | false => exact hs.adds [_] rfl rfl
  | tlsHandshake error =>
    cases error with
    | true => exact hs.destroy
    | false => exact hs.adds [_, _, _, _] rfl rfl
  | process endpoint data => exact hs.process config endpoint data
  | outRead data =>
    cases data with
    | none => exact hs.destroy
    | some data =>
      refine outRecv ?_ data.length
      exact hs.adds [] rfl rfl
  | outWrite data error =>
    cases error with
    | true => exact hs.destroy
    | false =>
      show Follows r s.outSent
      unfold outSent
      split
      · split
        · exact hs.adds [] rfl rfl
        · exact hs.adds [_, _] rfl rfl
      · exact hs
  | timer error =>
    cases error with
    | true => exact hs
    | false => exact hs.destroy
  | tlsShutdown aborted =>
    cases aborted with
    | true => exact hs
    | false => exact hs.adds [] rfl rfl
  | shutdownTimer aborted =>
    cases aborted with
    | true => exact hs
    | false => exact hs.adds [] rfl rfl

theorem receives (hs : Follows r s) (e : Event) : Follows r (s.receives e) := by
  unfold UDPForwardSession.receives
  split
  · exact hs.adds [_] rfl rfl
  · exact hs.adds [_, _] rfl rfl

end Follows

/-- **A step goes on from the session it finds.** -/
theorem follows_step {config : Config} {s t : UDPForwardSession} {e : Event}
    (h : step config s e = some t) : Follows s t := by
  unfold step at h
  split at h
  · rw [← Option.some.inj h]
    exact ((Follows.refl s).receives e).handle config e
  · exact absurd h (by simp)

end UDPForwardSession
