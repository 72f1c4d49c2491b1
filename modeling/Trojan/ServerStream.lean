import Trojan.ServerBootstrap
import Trojan.ServerRelay
import Trojan.UdpDechunking

/-!
# What a server session makes of a stream

A session that is started with TLS reads one stream from its client. The first
read is the handshake payload, and the gate decides from it alone where the
session connects to; what is read later is relayed there. Here the reads of a
session are put side by side with that decision: `ServerSession.Streams` says of
every session that it has read the payload first and then what it relays, and
that it has asked for no other target than the one the gate named.

A stream begins with the header of a Trojan request. Where the header ends is
known to the session only if the first read has all of it, and the outcome turns
on just this (`ServerSession.authenticated_iff`).
-/

namespace ServerSession

open Flight

/-! ## Readings of the history -/

/-- The bytes of a read from the client, whatever becomes of it. -/
def fromWire : Mark Operation Buffer Note → Bytes
  | .noted (.handled _ (.inRead (some data) _)) => data
  | _ => []

/-- The bytes of a read of a relay, over TCP or UDP. -/
def relayed : Mark Operation Buffer Note → Bytes
  | .noted (.handled .udpForward (.inRead (some data) _)) => data
  | m => fromClient m

/-- The bytes of a read of a relay over UDP. -/
def buffered : Mark Operation Buffer Note → Bytes
  | .noted (.handled status (.inRead (some data) _)) =>
    if status = .udpForward then data else []
  | _ => []

/-- A completion that is not a read from the client brings no bytes. -/
theorem readings_of_not_read (status : Status) {e : Event}
    (h : ∀ data granted, e ≠ .inRead (some data) granted) :
    fromWire (.noted (.handled status e)) = [] ∧ relayed (.noted (.handled status e)) = [] := by
  cases e with
  | inRead data granted =>
    cases data with
    | none => cases status <;> exact ⟨rfl, rfl⟩
    | some data => exact absurd rfl (h data granted)
  | _ => cases status <;> exact ⟨rfl, rfl⟩

/-- A read brings a relay its bytes, and only a relay. -/
theorem relayed_inRead (status : Status) (data : Bytes) (granted : Bool) :
    relayed (.noted (.handled status (.inRead (some data) granted)))
      = if status = .forward ∨ status = .udpForward then data else [] := by
  cases status <;> rfl

/-- The marks of a handler that say nothing about a stream or a target. -/
def isAside : Mark Operation Buffer Note → Bool
  | .ended _ | .noted (.handled _ _) | .noted (.handshakePayload _) => false
  | .began (.tcpResolve _) | .began .trustedFrontRead => false
  | _ => true

/-- What such marks are to the readings. -/
theorem readings_of_isAside {m : Mark Operation Buffer Note} (h : isAside m = true) :
    fromWire m = [] ∧ relayed m = [] ∧ payloadData m = [] ∧ fromClient m = [] := by
  cases m with
  | noted n =>
    cases n with
    | handled status e => exact absurd h Bool.false_ne_true
    | handshakePayload data => exact absurd h Bool.false_ne_true
    | _ => exact ⟨rfl, rfl, rfl, rfl⟩
  | _ => exact ⟨rfl, rfl, rfl, rfl⟩

/-- A session that has relayed nothing has relayed nothing over TCP. -/
theorem collect_fromClient_of_relayed {h : History} (hnone : collect relayed h = []) :
    collect fromClient h = [] := by
  induction h with
  | nil => rfl
  | cons m h ih =>
    rw [collect_cons, List.append_eq_nil_iff] at hnone ⊢
    refine ⟨ih hnone.1, ?_⟩
    have hm := hnone.2
    unfold relayed at hm
    split at hm
    · rfl
    · exact hm

/-- **A session goes on beside its stream**: it adds such marks, keeps its mode, and
does not begin to relay datagrams. Of its buffer, behind which it may have put the bytes
of a read, it takes frames until it is destroyed, and asks for their destinations; it
reads on when there is no frame left. -/
structure Beside (read : Bytes) (sent : List (Bytes × UdpEndpoint)) (s t : ServerSession) :
    Prop where
  marks : ∃ new, t.history = new ++ s.history ∧ ∀ m ∈ new, isAside m = true
  mode : t.bootstrapMode = s.bootstrapMode
  udp : t.status = .udpForward → s.status = .udpForward
  takes : ∃ fs, collect requested t.history = collect requested s.history ++ fs.map requestOf
    ∧ s.udpDataBuf ++ read = udpFrameCode.stream fs ++ t.udpDataBuf
    ∧ (s.status = .destroy → fs = [])
  sends : collect dispatched t.history = collect dispatched s.history ++ sent
  waits : t.status = .udpForward → .inRead ∈ t.pending →
    .inRead ∈ s.pending ∨ udpFrameCode.decode t.udpDataBuf = none

namespace Beside

variable {env : Env} {r s t : ServerSession} {read : Bytes} {sent : List (Bytes × UdpEndpoint)}

theorem refl (s : ServerSession) : Beside [] [] s s :=
  ⟨⟨[], rfl, by simp⟩, rfl, id, ⟨[], by simp, List.append_nil _, fun _ => rfl⟩,
    (List.append_nil _).symm, fun _ => .inl⟩

/-- A session that has some more marks, and does not wait for a read of datagrams. -/
theorem adds (hs : Beside read sent r s) (new : History) (ht : t.history = new ++ s.history)
    (hnew : ∀ m ∈ new, isAside m = true ∧ requested m = [] ∧ dispatched m = []
      ∧ (m = .began .inRead → t.status ≠ .udpForward))
    (hmode : t.bootstrapMode = s.bootstrapMode)
    (hudp : t.status = .udpForward → s.status = .udpForward)
    (hbuf : t.udpDataBuf = s.udpDataBuf) : Beside read sent r t := by
  obtain ⟨old, hold, haside⟩ := hs.marks
  obtain ⟨fs, hfs, hstream, hnone⟩ := hs.takes
  refine ⟨⟨new ++ old, by rw [ht, hold, List.append_assoc], fun m hm => ?_⟩,
    hmode.trans hs.mode, fun ht => hs.udp (hudp ht), ⟨fs, ?_, by rw [hbuf, hstream], hnone⟩, ?_,
    fun htudp hread => ?_⟩
  · rcases List.mem_append.mp hm with hm | hm
    · exact (hnew m hm).1
    · exact haside m hm
  · rw [ht, collect_append_of_silent (fun m hm => (hnew m hm).2.1), hfs]
  · rw [ht, collect_append_of_silent (fun m hm => (hnew m hm).2.2.1), hs.sends]
  · rw [hbuf]
    refine hs.waits (hudp htudp) ?_
    rw [pending, ht] at hread
    refine (mem_inFlight_append (fun m hm => ⟨fun hbegan => ?_, fun hended => ?_⟩)).mp hread
    · exact (hnew m hm).2.2.2 hbegan htudp
    · have haside := (hnew m hm).1
      rw [hended] at haside
      exact Bool.false_ne_true haside

/-- A session that puts a read behind its buffer, and has not begun another one. -/
theorem buffers (hs : Beside [] sent r s) (hread : .inRead ∈ s.pending → .inRead ∈ r.pending)
    (data : Bytes) : Beside data sent r { s with udpDataBuf := s.udpDataBuf ++ data } := by
  obtain ⟨fs, hfs, hstream, hnone⟩ := hs.takes
  refine ⟨hs.marks, hs.mode, hs.udp, ⟨fs, hfs, ?_, hnone⟩, hs.sends,
    fun _ hmem => .inl (hread hmem)⟩
  rw [List.append_nil] at hstream
  rw [hstream, List.append_assoc]

/-- A session that waits for a read because it has no frame. -/
theorem begins_inRead (hs : Beside read sent r s)
    (hdecode : udpFrameCode.decode s.udpDataBuf = none) :
    Beside read sent r (s.begins .inRead) := by
  obtain ⟨old, hold, haside⟩ := hs.marks
  obtain ⟨fs, hfs, hstream, hnone⟩ := hs.takes
  refine ⟨⟨_ :: old, congrArg _ hold, ?_⟩, hs.mode, hs.udp,
    ⟨fs, (List.append_nil _).trans hfs, hstream, hnone⟩, (List.append_nil _).trans hs.sends,
    fun _ _ => .inr hdecode⟩
  simpa [isAside] using haside

/-- A session that takes a frame off its buffer. -/
theorem takesFrame (hs : Beside read sent r s) {f : UdpFrame} {rest : Bytes}
    (hudp : s.status = .udpForward) (hbuf : s.udpDataBuf = f.bytes ++ rest) :
    Beside read sent r ({ s with udpDataBuf := rest }.begins (.udpResolve (requestOf f))) := by
  obtain ⟨old, hold, haside⟩ := hs.marks
  obtain ⟨fs, hfs, hstream, -⟩ := hs.takes
  refine ⟨⟨_ :: old, congrArg _ hold, ?_⟩, hs.mode, hs.udp,
    ⟨fs ++ [f], ?_, ?_, fun hr => ?_⟩, (List.append_nil _).trans hs.sends, fun _ hread => ?_⟩
  · simpa [isAside] using haside
  · show collect requested s.history ++ [requestOf f] = _
    rw [hfs, List.map_append, List.append_assoc]
    rfl
  · rw [hstream, hbuf, FrameCode.stream, FrameCode.stream, List.flatMap_append, List.append_assoc]
    exact congrArg _ (congrArg (· ++ rest) (List.append_nil _).symm)
  · exact absurd (hr.symm.trans (hs.udp hudp)) Status.noConfusion
  · -- it was not waiting for a read, with a frame in its buffer
    refine .inl ((hs.waits hudp ?_).resolve_right (fun hnone => ?_))
    · exact (List.mem_cons.mp hread).resolve_left Operation.noConfusion
    · rw [hbuf] at hnone
      exact absurd (hnone.symm.trans (udpFrameCode.decode_encode_append f rest)) (by simp)

theorem destroy (hs : Beside read sent r s) : Beside read sent r (s.destroy env) := by
  by_cases hd : s.status = .destroy
  · rw [destroy_of_destroy env s hd]
    exact hs
  · rw [destroy_eq env s hd]
    refine hs.adds (s.farewell env) rfl (fun m hm => ?_) rfl Status.noConfusion rfl
    rcases List.mem_append.mp hm with hm | hm
    · obtain ⟨op, hop, rfl⟩ := List.mem_map.mp hm
      unfold farewellOperations at hop
      split at hop
      · rcases List.mem_cons.mp hop with rfl | hop
        · exact ⟨rfl, rfl, rfl, fun _ => Status.noConfusion⟩
        · rw [List.mem_singleton.mp hop]
          exact ⟨rfl, rfl, rfl, fun _ => Status.noConfusion⟩
      · exact absurd hop List.not_mem_nil
    · obtain ⟨n, hn, rfl⟩ := List.mem_map.mp hm
      rcases mem_farewellNotes hn with rfl | rfl | rfl | rfl
      all_goals exact ⟨rfl, rfl, rfl, fun _ => Status.noConfusion⟩

/-- A session that is destroyed keeps its buffer. -/
theorem udpDataBuf_destroy (env : Env) (s : ServerSession) :
    (s.destroy env).udpDataBuf = s.udpDataBuf := by
  by_cases hd : s.status = .destroy
  · rw [destroy_of_destroy env s hd]
  · rw [destroy_eq env s hd]

theorem udpSent (hs : Beside read sent r s) : Beside read sent r (s.udpSent env) := by
  unfold ServerSession.udpSent tryParseUdpPacket
  split
  · rename_i hudp
    rcases hparse : ({} : UDPPacket).parse s.udpDataBuf with ⟨p, _ | n⟩
    · by_cases hlong : s.udpDataBuf.length > maxLength
      · simp only [if_pos hlong]
        exact hs.destroy
      · simp only [if_neg hlong]
        refine hs.begins_inRead ?_
        show UDPPacket.decode s.udpDataBuf = none
        rw [UDPPacket.decode, hparse]
    · obtain ⟨f, rest, hbuf, rfl, rfl⟩ := UDPPacket.exists_bytes_of_parse hparse
      have hdrop : s.udpDataBuf.drop f.bytes.length = rest := by rw [hbuf, List.drop_left]
      dsimp only
      rw [hdrop]
      exact hs.takesFrame hudp hbuf
  · exact hs

/-- A session that sends a datagram. -/
theorem begins_udpSend (hs : Beside read [] r s) (data : Bytes) (endpoint : UdpEndpoint)
    (accounted : ℕ) :
    Beside read [(data, endpoint)] r (s.begins (.udpSend data endpoint accounted)) := by
  obtain ⟨old, hold, haside⟩ := hs.marks
  obtain ⟨fs, hfs, hstream, hnone⟩ := hs.takes
  refine ⟨⟨_ :: old, congrArg _ hold, ?_⟩, hs.mode, hs.udp,
    ⟨fs, (List.append_nil _).trans hfs, hstream, hnone⟩, ?_, fun hudp hread => ?_⟩
  · simpa [isAside] using haside
  · show collect dispatched s.history ++ [(data, endpoint)] = _
    rw [hs.sends, List.append_nil]
  · exact hs.waits hudp ((List.mem_cons.mp hread).resolve_left Operation.noConfusion)

/-- **A datagram is sent** where it is resolved to, unless its socket cannot be opened,
and that destroys the session. -/
theorem dispatchUdpPayload (hs : Beside read [] r s) (payload : Bytes) (packetLength : ℕ)
    (endpoint : UdpEndpoint) (openError : Bool) :
    ∃ sent, Beside read sent r (s.dispatchUdpPayload env payload packetLength endpoint openError)
      ∧ (sent = [(payload, endpoint)] ∨ sent = []
        ∧ (s.dispatchUdpPayload env payload packetLength endpoint openError).status = .destroy
        ∧ (s.dispatchUdpPayload env payload packetLength endpoint openError).udpDataBuf
          = s.udpDataBuf) := by
  have hensure : Beside read [] r (s.ensureUdpSocketOpen env openError)
      ∧ ((s.ensureUdpSocketOpen env openError).udpSocketOpen = false →
        (s.ensureUdpSocketOpen env openError).status = .destroy
          ∧ (s.ensureUdpSocketOpen env openError).udpDataBuf = s.udpDataBuf) := by
    unfold ensureUdpSocketOpen
    split
    · rename_i hopen
      exact ⟨hs, fun hclosed => absurd (hopen.symm.trans hclosed) Bool.noConfusion⟩
    · split
      · exact ⟨hs.destroy, fun _ => ⟨status_destroy env s, udpDataBuf_destroy env s⟩⟩
      · exact ⟨hs.adds [_, _] rfl (by simp [isAside, requested, dispatched]) rfl id rfl,
          fun hclosed => absurd hclosed.symm Bool.noConfusion⟩
  unfold ServerSession.dispatchUdpPayload
  dsimp only
  split
  · rename_i hclosed
    exact ⟨[], hensure.1, .inr ⟨rfl, hensure.2 (by simpa using hclosed)⟩⟩
  · refine ⟨_, begins_udpSend ?_ payload endpoint packetLength, .inl rfl⟩
    exact hensure.1.adds [_] rfl (by simp [isAside, requested, dispatched]) rfl id rfl

theorem tlsHandshaken (hs : Beside read sent r s) (hmode : s.bootstrapMode = .standardTls)
    (hudp : s.status ≠ .udpForward) (error : Option Bytes) :
    Beside read sent r (s.tlsHandshaken env error) := by
  unfold ServerSession.tlsHandshaken
  rw [hmode]
  cases error with
  | none =>
    refine hs.adds [_] rfl (fun m hm => ?_) rfl id rfl
    rw [List.mem_singleton.mp hm]
    exact ⟨rfl, rfl, rfl, fun _ => hudp⟩
  | some message =>
    dsimp only
    split
    · exact hs.adds [_] rfl (by simp [isAside, requested, dispatched]) hmode.symm id rfl
    · exact hs.destroy

/-- A read of a session that has had its payload. -/
theorem inRecv (hs : Beside [] [] r s) (hread : .inRead ∈ s.pending → .inRead ∈ r.pending)
    (hstatus : s.status ≠ .handshake) {data : Bytes}
    (hbuf : (growAfterRead s.inReadBuf data.length).take data.length = data) (granted : Bool) :
    Beside (if s.status = .udpForward then data else []) [] r
      (s.inRecv env data.length granted) := by
  have hgrow : Beside [] [] r (s.growInReadBuf data.length) :=
    hs.adds [_] rfl (by simp [isAside, requested, dispatched]) rfl id rfl
  by_cases hudp : s.status = .udpForward
  · rw [if_pos hudp, inRecv_of_udpForward env hudp hbuf]
    exact (hgrow.buffers hread data).udpSent
  · rw [if_neg hudp]
    unfold ServerSession.inRecv
    dsimp only
    split
    · rename_i hhandshake
      exact absurd hhandshake hstatus
    · exact hgrow.adds [_, _] rfl (by simp [isAside, requested, dispatched]) rfl id rfl
    · rename_i hudp'
      exact absurd hudp' hudp
    · exact hgrow

theorem inSent (hs : Beside read sent r s) : Beside read sent r s.inSent := by
  unfold ServerSession.inSent
  split
  · exact hs.adds [_] rfl (by simp [isAside, requested, dispatched]) rfl id rfl
  · exact hs.adds [_] rfl (by simp [isAside, requested, dispatched]) rfl id rfl
  · exact hs

theorem outRecv (hs : Beside read sent r s) (length : ℕ) :
    Beside read sent r (s.outRecv length) := by
  unfold ServerSession.outRecv
  dsimp only
  split
  · exact hs.adds [_, _, _] rfl (by simp [isAside, requested, dispatched]) rfl id rfl
  · exact hs.adds [_] rfl (by simp [isAside, requested, dispatched]) rfl id rfl

theorem outSent (hs : Beside read sent r s) : Beside read sent r s.outSent := by
  unfold ServerSession.outSent
  split
  · rename_i hforward
    refine hs.adds [_] rfl (fun m hm => ?_) rfl id rfl
    rw [List.mem_singleton.mp hm]
    exact ⟨rfl, rfl, rfl, fun _ hudp => Status.noConfusion (hforward.symm.trans hudp)⟩
  · exact hs

theorem tcpResolved (hs : Beside read sent r s) (target : ConnectTarget)
    (results : Option (List IpAddress)) (openError : Bool) :
    Beside read sent r (s.tcpResolved env target results openError) := by
  unfold ServerSession.tcpResolved
  split
  · exact hs.destroy
  · split
    · exact hs.destroy
    · exact hs.adds [_, _] rfl (by simp [isAside, requested, dispatched]) rfl id rfl

theorem tcpConnected (hs : Beside read sent r s) (error : Bool) :
    Beside read sent r (s.tcpConnected env error) := by
  unfold ServerSession.tcpConnected
  split
  · exact hs.destroy
  · dsimp only
    split
    · exact hs.adds [_, _, _, _] rfl (by simp [isAside, requested, dispatched]) rfl
        Status.noConfusion rfl
    · exact hs.adds [_, _, _] rfl
        (by simp [isAside, requested, dispatched, inAsyncRead, outAsyncRead, begins])
        rfl Status.noConfusion rfl

theorem udpRecv (hs : Beside read sent r s) (length : ℕ) (endpoint : UdpEndpoint) :
    Beside read sent r (s.udpRecv length endpoint) := by
  unfold ServerSession.udpRecv
  dsimp only
  split
  · exact hs.adds [_, _, _] rfl (by simp [isAside, requested, dispatched]) rfl id rfl
  · exact hs.adds [_] rfl (by simp [isAside, requested, dispatched]) rfl id rfl

/-- Every completion but the read of the payload and the one of a resolve is handled
beside the stream, and sends nothing. -/
theorem handle_of_ne {e : Event} {op : Operation} (hmode : s.bootstrapMode = .standardTls)
    (hop : e.operation = some op) (hallows : s.status.allows op = true)
    (hfront : op ≠ .trustedFrontRead)
    (hread : ∀ data granted, e = .inRead (some data) granted → s.status ≠ .handshake)
    (hresolve : ∀ request results openError, e ≠ .udpResolve request results openError) :
    Beside (buffered (.noted (.handled s.status e))) [] s (s.handle env e) := by
  have hs := refl s
  cases e with
  | start remoteEndpoint => exact absurd hop (by simp [Event.operation])
  | tlsHandshake error =>
    refine hs.tlsHandshaken hmode (fun hudp => ?_) error
    rw [hudp, ← Option.some.inj hop] at hallows
    exact absurd hallows Bool.false_ne_true
  | plainHttpWrite => exact hs.destroy
  | trustedFrontRead data granted => exact absurd (Option.some.inj hop).symm hfront
  | inRead data granted =>
    cases data with
    | none => exact hs.destroy
    | some data =>
      refine inRecv (r := s) (s := { s with inReadBuf := fillBuffer s.inReadBuf data }) ?_ id ?_
        ?_ granted
      · exact hs.adds [] rfl (by simp) rfl id rfl
      · exact hread data granted rfl
      · exact take_growAfterRead s.inReadBuf data
  | inWrite data error =>
    cases error with
    | true => exact hs.destroy
    | false => exact hs.inSent
  | outRead data =>
    cases data with
    | none => exact hs.destroy
    | some data =>
      refine outRecv ?_ data.length
      exact hs.adds [] rfl (by simp) rfl id rfl
  | outWrite data account error =>
    cases error with
    | true => exact hs.destroy
    | false =>
      cases account with
      | true =>
        refine outSent ?_
        exact hs.adds [] rfl (by simp) rfl id rfl
      | false => exact hs.outSent
  | tcpResolve target results openError => exact hs.tcpResolved target results openError
  | tcpConnect target endpoint error => exact hs.tcpConnected error
  | udpResolve request results openError =>
    exact absurd rfl (hresolve request results openError)
  | udpSend data endpoint accounted error =>
    cases error with
    | true => exact hs.destroy
    | false =>
      show Beside [] [] s (if accounted > 0 then _ else _ : ServerSession)
      split
      · refine udpSent ?_
        exact hs.adds [] rfl (by simp) rfl id rfl
      · exact hs.udpSent
  | udpReceive received =>
    rcases received with _ | ⟨data, endpoint⟩
    · exact hs.destroy
    · refine udpRecv ?_ data.length endpoint
      exact hs.adds [] rfl (by simp) rfl id rfl
  | tlsShutdown aborted =>
    cases aborted with
    | true => exact hs
    | false => exact hs.adds [] rfl (by simp) rfl id rfl
  | shutdownTimer aborted =>
    cases aborted with
    | true => exact hs
    | false => exact hs.adds [] rfl (by simp) rfl id rfl

/-- **Every completion but the read of the payload** is handled beside the stream. A
packet that is resolved is sent, or the session is destroyed. -/
theorem handle {e : Event} {op : Operation} (hmode : s.bootstrapMode = .standardTls)
    (hop : e.operation = some op) (hallows : s.status.allows op = true)
    (hfront : op ≠ .trustedFrontRead)
    (hread : ∀ data granted, e = .inRead (some data) granted → s.status ≠ .handshake) :
    ∃ sent, Beside (buffered (.noted (.handled s.status e))) sent s (s.handle env e)
      ∧ (sent.map some = (answered (.noted (.handled s.status e))).map (dispatchOf env)
        ∨ sent = [] ∧ (s.handle env e).status = .destroy
          ∧ (s.handle env e).udpDataBuf = s.udpDataBuf) := by
  have hs := refl s
  by_cases hresolve : ∃ request results openError, e = .udpResolve request results openError
  · obtain ⟨request, results, openError, rfl⟩ := hresolve
    show ∃ sent, Beside [] sent s (s.udpResolved env request results openError)
      ∧ (sent.map some = [dispatchOf env (request, results)]
        ∨ sent = [] ∧ (s.udpResolved env request results openError).status = .destroy
          ∧ (s.udpResolved env request results openError).udpDataBuf = s.udpDataBuf)
    unfold ServerSession.udpResolved dispatchOf
    split
    · exact ⟨[], hs.destroy, .inr ⟨rfl, status_destroy env s, udpDataBuf_destroy env s⟩⟩
    · rename_i endpoint hchoose
      obtain ⟨sent, hsent, hcases⟩ := hs.dispatchUdpPayload request.payload
        request.packetLength endpoint openError
      rw [hchoose]
      refine ⟨sent, hsent, hcases.imp_left (fun hone => ?_)⟩
      rw [hone]
      rfl
  · have hresolve (request : UdpDispatchRequest) (results : Option (List UdpEndpoint))
        (openError : Bool) : e ≠ .udpResolve request results openError :=
      fun heq => hresolve ⟨request, results, openError, heq⟩
    refine ⟨[], handle_of_ne hmode hop hallows hfront hread hresolve, .inl ?_⟩
    cases e with
    | udpResolve request results openError =>
      exact absurd rfl (hresolve request results openError)
    | _ => rfl

end Beside

/-! ## The payload -/

/-- **A target is named by the gate** from a payload, for a relay over TCP. -/
def Named (env : Env) (data : Bytes) (target : ConnectTarget) : Prop :=
  ∃ context,
    (buildExecutionPlan (SessionGate.evaluate env.config env.auth ⟨context, data⟩)).mode
        = .startTcpForward
      ∧ target
        = (buildExecutionPlan (SessionGate.evaluate env.config env.auth ⟨context, data⟩)).target

/-- The marks that the handler of a payload adds to a session, which it leaves in
a status. -/
def OfPayload (env : Env) (data : Bytes) (status : Status) (m : Mark Operation Buffer Note) :
    Prop :=
  isAside m = true
    ∨ status ≠ .udpForward ∧ ∃ target, m = .began (.tcpResolve target) ∧ Named env data target

theorem Beside.applyAuthResult {r s : ServerSession} (hs : Beside [] [] r s)
    (decision : SessionGate.SessionDecision) : Beside [] [] r (s.applyAuthResult decision) := by
  unfold ServerSession.applyAuthResult
  split
  · split
    · exact hs.adds [_] rfl (by simp [isAside, requested, dispatched]) rfl id rfl
    · exact hs.adds [_] rfl (by simp [isAside, requested, dispatched]) rfl id rfl
  · split
    · exact hs.adds [_] rfl (by simp [isAside, requested, dispatched]) rfl id rfl
    · exact hs

/-- **The handler of a payload** notes it, and asks for a target only if the gate
names it. -/
theorem marks_of_payload (env : Env) {s : ServerSession} (hs : s.status = .handshake)
    (data : Bytes) (granted : Bool) :
    (∃ new, (s.handleHandshakePayload env data granted).history
        = new ++ .noted (.handshakePayload data) :: s.history
      ∧ ∀ m ∈ new, OfPayload env data (s.handleHandshakePayload env data granted).status m)
    ∧ (s.handleHandshakePayload env data granted).bootstrapMode = s.bootstrapMode := by
  obtain ⟨context, hgate⟩ := exists_gateResult env (s.notes (.handshakePayload data)) data
  unfold handleHandshakePayload
  simp only [hgate]
  have happly := (Beside.refl (s.notes (.handshakePayload data))).applyAuthResult
    (SessionGate.evaluate env.config env.auth ⟨context, data⟩)
  generalize (s.notes (.handshakePayload data)).applyAuthResult
    (SessionGate.evaluate env.config env.auth ⟨context, data⟩) = u at happly ⊢
  -- what goes on from there without asking for a target
  have hgoes {v w : ServerSession} (hv : v.history = u.history)
      (hvmode : v.bootstrapMode = u.bootstrapMode) (hw : Beside [] [] v w) :
      (∃ new, w.history = new ++ .noted (.handshakePayload data) :: s.history
        ∧ ∀ m ∈ new, isAside m = true) ∧ w.bootstrapMode = s.bootstrapMode := by
    obtain ⟨old, hold, haside⟩ := happly.marks
    obtain ⟨new, hnew, hall⟩ := hw.marks
    refine ⟨⟨new ++ old, ?_, fun m hm => ?_⟩, hw.mode.trans (hvmode.trans happly.mode)⟩
    · rw [hnew, hv, hold, List.append_assoc]
      rfl
    · exact (List.mem_append.mp hm).elim (hall m) (haside m)
  have hplain {w : ServerSession} (h : (∃ new, w.history
      = new ++ .noted (.handshakePayload data) :: s.history ∧ ∀ m ∈ new, isAside m = true)
        ∧ w.bootstrapMode = s.bootstrapMode) :
      (∃ new, w.history = new ++ .noted (.handshakePayload data) :: s.history
        ∧ ∀ m ∈ new, OfPayload env data w.status m) ∧ w.bootstrapMode = s.bootstrapMode := by
    obtain ⟨⟨new, hnew, hall⟩, hmode⟩ := h
    exact ⟨⟨new, hnew, fun m hm => .inl (hall m hm)⟩, hmode⟩
  unfold executePlan
  split
  · refine hplain (hgoes ?_ ?_ (Beside.udpSent (Beside.refl _)))
    · rfl
    · rfl
  · rename_i htcp
    have hustatus : u.status ≠ .udpForward := by
      intro hu
      exact absurd (hs.symm.trans (happly.udp hu)) Status.noConfusion
    have hdials {w : ServerSession} (hw : Beside [] [] u w) :
        (∃ new, (w.begins (.tcpResolve (buildExecutionPlan (SessionGate.evaluate env.config
            env.auth ⟨context, data⟩)).target)).history
          = new ++ .noted (.handshakePayload data) :: s.history
          ∧ ∀ m ∈ new, OfPayload env data w.status m)
        ∧ w.bootstrapMode = s.bootstrapMode := by
      obtain ⟨⟨new, hnew, hall⟩, hmode⟩ := hgoes rfl rfl hw
      refine ⟨⟨_ :: new, congrArg _ hnew, fun m hm => ?_⟩, hmode⟩
      rcases List.mem_cons.mp hm with rfl | hm
      · exact .inr ⟨fun hudp => hustatus (hw.udp hudp), _, rfl, context, htcp, rfl⟩
      · exact .inl (hall m hm)
    unfold connectOutbound
    split
    · dsimp only
      have hslot := (Beside.refl u).adds (t := { u with
        outWriteBuf := (buildExecutionPlan (SessionGate.evaluate env.config env.auth
          ⟨context, data⟩)).initialOutboundPayload }.tryAcquireFallbackSlot granted)
        [_] rfl (by simp [isAside, requested, dispatched]) rfl id rfl
      split
      · exact hdials hslot
      · exact hplain (hgoes rfl rfl hslot.destroy)
    · exact hdials ((Beside.refl u).adds [] rfl (by simp) rfl id rfl)
  · refine hplain (hgoes ?_ ?_ (Beside.destroy (Beside.refl _)))
    · rfl
    · rfl

/-! ## Every session and its stream -/

/-- **What a session has made of its stream**: it has read nothing before its
payload, and behind the payload what it relays, until it is destroyed; and it has
asked for no target that the gate did not name from the payload. -/
structure Streams (env : Env) (s : ServerSession) : Prop where
  mode : s.bootstrapMode = .standardTls
  unfronted : .began .trustedFrontRead ∉ s.history
  unread : s.handshakePayloads = [] → s.status = .handshake → collect fromWire s.history = []
  unrelayed : s.handshakePayloads = [] → collect relayed s.history = [] ∧ s.status ≠ .udpForward
  read : ∀ data, s.handshakePayloads = [data] → ∃ late,
    collect fromWire s.history = data ++ collect relayed s.history ++ late
      ∧ (s.status ≠ .destroy → late = [])
  named : ∀ target, .began (.tcpResolve target) ∈ s.history →
    ∃ data, s.handshakePayloads = [data] ∧ Named env data target
  tcp : (∃ target, .began (.tcpResolve target) ∈ s.history) →
    collect relayed s.history = collect fromClient s.history ∧ s.status ≠ .udpForward

/-- A session has had a payload exactly if it is counted. -/
theorem handshakePayloads_eq_nil {s : ServerSession} (h : s.payloads = 0) :
    s.handshakePayloads = [] :=
  List.eq_nil_of_length_eq_zero ((length_handshakePayloads s).trans h)

/-- A TCP relay has had its payload. -/
theorem Orderly.handshakePayloads_ne_nil {env : Env} {s : ServerSession} (h : Orderly env s)
    (hs : s.status = .forward) : s.handshakePayloads ≠ [] := by
  obtain ⟨data, -, hdata, -⟩ := h.ledger.origin ⟨_, h.ledger.atForward hs, rfl⟩
  rw [handshakePayloads_eq h.pump hdata]
  exact List.cons_ne_nil _ _

/-- A reading of what follows a completion. -/
theorem collect_of_beside {α : Type} {f : Mark Operation Buffer Note → List α} {s t : ServerSession}
    {e : Event} {op : Operation} (he : e.operation = some op) {new : History}
    (ht : t.history = new ++ (s.receives e).history) (hnew : ∀ m ∈ new, f m = [])
    (hended : f (.ended op) = []) :
    collect f t.history = collect f s.history ++ f (.noted (.handled s.status e)) := by
  rw [ht, collect_append_of_silent hnew, receives, he]
  show collect f (.ended op :: .noted (.handled s.status e) :: s.history) = _
  rw [collect_cons, collect_cons, hended, List.append_nil]

/-- **The read of the payload** comes to its handler, and what the handler adds to the
history comes last. -/
theorem exists_of_payload {env : Env} {s t : ServerSession} {data : Bytes} {granted : Bool}
    (hstatus : s.status = .handshake)
    (ht : t = (s.receives (.inRead (some data) granted)).handle env (.inRead (some data) granted)) :
    ∃ (u : ServerSession) (new : History), t = u.handleHandshakePayload env data granted
      ∧ u.status = .handshake ∧ u.udpDataBuf = s.udpDataBuf
      ∧ u.history = .modified .inReadBuf :: (s.receives (.inRead (some data) granted)).history
      ∧ t.history = new ++ .noted (.handshakePayload data) :: .modified .inReadBuf
        :: .ended .inRead :: .noted (.handled .handshake (.inRead (some data) granted))
        :: s.history
      ∧ t.bootstrapMode = s.bootstrapMode ∧ ∀ m ∈ new, OfPayload env data t.status m := by
  obtain ⟨v, hv⟩ : ∃ v : ServerSession, v = { s.receives (.inRead (some data) granted) with
      inReadBuf := fillBuffer s.inReadBuf data } := ⟨_, rfl⟩
  have hvstatus : v.status = .handshake := by rw [hv]; exact hstatus
  have hvhistory : v.history = .ended .inRead
      :: .noted (.handled .handshake (.inRead (some data) granted)) :: s.history := by
    rw [hv, ← hstatus]
    rfl
  have hvmode : (v.growInReadBuf data.length).bootstrapMode = s.bootstrapMode := by rw [hv]; rfl
  have hu : t = (v.growInReadBuf data.length).handleHandshakePayload env data granted := by
    rw [ht, ← inRecv_of_handshake env hvstatus (by rw [hv]; exact take_growAfterRead _ _), hv]
    rfl
  obtain ⟨⟨new, hnew, hof⟩, hmode⟩ := marks_of_payload env
    (s := v.growInReadBuf data.length) hvstatus data granted
  rw [← hu] at hnew hmode hof
  refine ⟨v.growInReadBuf data.length, new, hu, hvstatus, by rw [hv]; rfl, by rw [hv]; rfl, ?_,
    hmode.trans hvmode, hof⟩
  rw [hnew, ← hvhistory]
  rfl

/-- What the marks of the handler of a payload are to the readings. -/
theorem readings_of_ofPayload {env : Env} {data : Bytes} {status : Status}
    {m : Mark Operation Buffer Note} (h : OfPayload env data status m) :
    fromWire m = [] ∧ relayed m = [] ∧ payloadData m = [] ∧ fromClient m = [] := by
  rcases h with haside | ⟨-, target, rfl, -⟩
  · exact readings_of_isAside haside
  · exact ⟨rfl, rfl, rfl, rfl⟩

/-- The payload of a session that has had none. -/
theorem handshakePayloads_of_payload {env : Env} {s t : ServerSession} {data : Bytes}
    {granted : Bool} (hnone : s.handshakePayloads = []) {new : History}
    (ht : t.history = new ++ .noted (.handshakePayload data) :: .modified .inReadBuf
      :: .ended .inRead :: .noted (.handled .handshake (.inRead (some data) granted)) :: s.history)
    (hof : ∀ m ∈ new, OfPayload env data t.status m) : t.handshakePayloads = [data] := by
  show collect payloadData t.history = [data]
  rw [ht, collect_append_of_silent (fun m hm => (readings_of_ofPayload (hof m hm)).2.2.1)]
  show ((((collect payloadData s.history ++ []) ++ []) ++ []) ++ [data] : List Bytes) = [data]
  rw [show collect payloadData s.history = [] from hnone]
  rfl

/-- **The read of the payload.** -/
theorem Streams.payload {env : Env} {s t : ServerSession} {data : Bytes} {granted : Bool}
    (hs : Streams env s) (hstatus : s.status = .handshake) (hnone : s.handshakePayloads = [])
    (ht : t = (s.receives (.inRead (some data) granted)).handle env (.inRead (some data) granted)) :
    Streams env t := by
  obtain ⟨u, new, -, -, -, -, hhistory, hmode, hof⟩ := exists_of_payload hstatus ht
  have hwire (m) (hm : m ∈ new) := readings_of_ofPayload (hof m hm)
  have hpayloads := handshakePayloads_of_payload hnone hhistory hof
  have hrelayed : collect relayed t.history = [] := by
    rw [hhistory, collect_append_of_silent (fun m hm => (hwire m hm).2.1)]
    show (((((collect relayed s.history ++ []) ++ []) ++ []) ++ []) : Bytes) = []
    rw [(hs.unrelayed hnone).1]
    rfl
  have hclient : collect fromClient t.history = [] := by
    have hold : collect fromClient s.history = [] :=
      collect_fromClient_of_relayed (hs.unrelayed hnone).1
    rw [hhistory, collect_append_of_silent (fun m hm => (hwire m hm).2.2.2)]
    show (((((collect fromClient s.history ++ []) ++ []) ++ []) ++ []) : Bytes) = []
    rw [hold]
    rfl
  have hfrom : collect fromWire t.history = data := by
    rw [hhistory, collect_append_of_silent (fun m hm => (hwire m hm).1)]
    show (((((collect fromWire s.history ++ data) ++ []) ++ []) ++ []) : Bytes) = data
    rw [hs.unread hnone hstatus]
    simp
  have hsome : t.handshakePayloads ≠ [] := by simp [hpayloads]
  have hold {op : Operation} (hop : .began op ∈ t.history) :
      (.began op : Mark Operation Buffer Note) ∈ new ∨ .began op ∈ s.history := by
    rw [hhistory, List.mem_append] at hop
    simpa using hop
  -- before the payload nothing was asked for
  have hnot (target : ConnectTarget) : .began (.tcpResolve target) ∉ s.history := by
    intro hmem
    obtain ⟨data', hdata', -⟩ := hs.named target hmem
    exact absurd (hnone.symm.trans hdata') (by simp)
  refine ⟨hmode.trans hs.mode, fun hfront => ?_, fun hnil => absurd hnil hsome,
    fun hnil => absurd hnil hsome, fun data' hdata' => ?_, fun target htarget => ?_, fun hex => ?_⟩
  · rcases hold hfront with hfront | hfront
    · rcases hof _ hfront with haside | ⟨-, target, htarget, -⟩
      · exact absurd haside Bool.false_ne_true
      · exact absurd htarget (by simp)
    · exact hs.unfronted hfront
  · obtain rfl : data = data' := List.singleton_inj.mp (hpayloads.symm.trans hdata')
    refine ⟨[], ?_, fun _ => rfl⟩
    rw [hfrom, hrelayed, List.append_nil, List.append_nil]
  · rcases hold htarget with hmem | hmem
    · rcases hof _ hmem with haside | ⟨-, target', htarget', hnamed⟩
      · exact absurd haside Bool.false_ne_true
      · obtain rfl : target = target' := by simpa using htarget'
        exact ⟨data, hpayloads, hnamed⟩
    · exact absurd hmem (hnot target)
  · obtain ⟨target, htarget⟩ := hex
    rcases hold htarget with hmem | hmem
    · rcases hof _ hmem with haside | ⟨hudp, -⟩
      · exact absurd haside Bool.false_ne_true
      · refine ⟨?_, hudp⟩
        rw [hrelayed, hclient]
    · exact absurd hmem (hnot target)

/-- **Any other completion.** -/
theorem Streams.beside {env : Env} {s t : ServerSession} {e : Event} {op : Operation}
    {read : Bytes} {sent : List (Bytes × UdpEndpoint)} (hs : Streams env s) (hord : Orderly env s)
    (hstep : step env s e = some t) (he : e.operation = some op)
    (hbeside : Beside read sent (s.receives e) t)
    (hread : ∀ data granted, e = .inRead (some data) granted → s.status ≠ .handshake) :
    Streams env t := by
  obtain ⟨new, hnew, haside⟩ := hbeside.marks
  have hwire (m) (hm : m ∈ new) := readings_of_isAside (haside m hm)
  have hpayloads : t.handshakePayloads = s.handshakePayloads :=
    (collect_of_beside he hnew (fun m hm => (hwire m hm).2.2.1) rfl).trans (List.append_nil _)
  have hfrom := collect_of_beside (f := fromWire) he hnew (fun m hm => (hwire m hm).1) rfl
  have hrelayed := collect_of_beside (f := relayed) he hnew (fun m hm => (hwire m hm).2.1) rfl
  have hold {op' : Operation} (hop : .began op' ∈ t.history)
      (hnot : isAside (.began op' : Mark Operation Buffer Note) = false) :
      .began op' ∈ s.history := by
    rw [hnew, receives, he, List.mem_append] at hop
    rcases hop with hop | hop
    · exact absurd ((haside _ hop).symm.trans hnot) (by simp)
    · simpa using hop
  have hmode : (s.receives e).bootstrapMode = s.bootstrapMode := by
    rw [receives, he]
  have hudp : (s.receives e).status = s.status := status_receives s e
  have hkeeps (hne : s.status ≠ .handshake) : KeepsStatus s t := hord.pump.keepsStatus hne hstep
  refine ⟨hbeside.mode.trans (hmode.trans hs.mode), fun hfront => hs.unfronted (hold hfront rfl),
    fun hnil hstatus => ?_, fun hnil => ?_, fun data hdata => ?_, fun target htarget => ?_,
    fun htcp => ?_⟩
  · rw [hpayloads] at hnil
    have hhandshake : s.status = .handshake := by
      by_contra hne
      rcases hkeeps hne with hk | hk
      · exact hne (hk.symm.trans hstatus)
      · exact absurd (hk.symm.trans hstatus) Status.noConfusion
    have hnot : ∀ data granted, e ≠ .inRead (some data) granted :=
      fun data granted heq => hread data granted heq hhandshake
    rw [hfrom, hs.unread hnil hhandshake, (readings_of_not_read s.status hnot).1]
    rfl
  · rw [hpayloads] at hnil
    obtain ⟨hrel, hnot⟩ := hs.unrelayed hnil
    refine ⟨?_, fun hudp' => hnot (hudp ▸ hbeside.udp hudp')⟩
    rw [hrelayed, hrel, List.nil_append]
    by_cases hsome : ∃ data granted, e = .inRead (some data) granted
    · obtain ⟨data, granted, rfl⟩ := hsome
      rw [relayed_inRead, if_neg]
      rintro (hforward | hudp')
      · exact hord.handshakePayloads_ne_nil hforward hnil
      · exact hnot hudp'
    · exact (readings_of_not_read s.status (fun data granted heq => hsome ⟨data, granted, heq⟩)).2
  · rw [hpayloads] at hdata
    obtain ⟨late, hlate, halive⟩ := hs.read data hdata
    rw [hfrom, hrelayed, hlate]
    by_cases hsome : ∃ data granted, e = .inRead (some data) granted
    · obtain ⟨more, granted, rfl⟩ := hsome
      have hne := hread more granted rfl
      rw [relayed_inRead]
      by_cases hrelays : s.status = .forward ∨ s.status = .udpForward
      · have hlive : s.status ≠ .destroy := by rcases hrelays with h | h <;> rw [h] <;> simp
        rw [if_pos hrelays, halive hlive]
        exact ⟨[], by simp [fromWire], fun _ => rfl⟩
      · have hdestroy : s.status = .destroy := by
          cases hstatus : s.status with
          | destroy => rfl
          | _ => simp_all
        rw [if_neg hrelays]
        refine ⟨late ++ more, by simp [fromWire], fun ht => absurd ?_ ht⟩
        rcases hkeeps hne with hk | hk
        · exact hk.trans hdestroy
        · exact hk
    · obtain ⟨hnowire, hnorelay⟩ :=
        readings_of_not_read s.status (fun data granted heq => hsome ⟨data, granted, heq⟩)
      rw [hnowire, hnorelay, List.append_nil, List.append_nil]
      refine ⟨late, rfl, fun ht => halive (fun hdestroy => ht ?_)⟩
      rcases hkeeps (by rw [hdestroy]; exact Status.noConfusion) with hk | hk
      · exact hk.trans hdestroy
      · exact hk
  · obtain ⟨data, hdata, hnamed⟩ := hs.named target (hold htarget rfl)
    exact ⟨data, hpayloads.trans hdata, hnamed⟩
  · obtain ⟨target, htarget⟩ := htcp
    obtain ⟨hsame, hnot⟩ := hs.tcp ⟨target, hold htarget rfl⟩
    refine ⟨?_, fun hudp' => hnot (hudp ▸ hbeside.udp hudp')⟩
    rw [hrelayed, collect_of_beside (f := fromClient) he hnew
      (fun m hm => (hwire m hm).2.2.2) rfl, hsame]
    refine congrArg _ ?_
    unfold relayed
    split
    · rename_i hm
      obtain ⟨hforward, -⟩ := Note.handled.inj (Flight.Mark.noted.inj hm)
      exact absurd hforward hnot
    · rfl

/-- **What a step can be**: the read of the payload, or one that goes on beside the
stream. -/
theorem Streams.step_cases {env : Env} {s t : ServerSession} {e : Event} (hs : Streams env s)
    (hord : Orderly env s) (hstep : ServerSession.step env s e = some t) :
    (∃ data granted, e = .inRead (some data) granted ∧ s.status = .handshake
        ∧ s.handshakePayloads = []
        ∧ t = (s.receives (.inRead (some data) granted)).handle env
          (.inRead (some data) granted))
      ∨ (∃ op, e.operation = some op ∧ op ∈ s.pending)
        ∧ (∀ data granted, e = .inRead (some data) granted → s.status ≠ .handshake)
        ∧ ∃ sent, Beside (buffered (.noted (.handled s.status e))) sent (s.receives e) t
          ∧ (sent.map some = (answered (.noted (.handled s.status e))).map (dispatchOf env)
            ∨ sent = [] ∧ t.status = .destroy ∧ t.udpDataBuf = s.udpDataBuf) := by
  obtain ⟨op, he, hop, -, ht⟩ := exists_operation_of_step hord.pump.started hstep
  by_cases hread : ∃ data granted, e = .inRead (some data) granted ∧ s.status = .handshake
  · obtain ⟨data, granted, rfl, hstatus⟩ := hread
    obtain rfl : Operation.inRead = op := Option.some.inj he
    exact .inl ⟨data, granted, rfl, hstatus,
      handshakePayloads_eq_nil (hord.pump.owes.unread hstatus ⟨_, hop, rfl⟩), ht⟩
  · have hread (data : Bytes) (granted : Bool) (heq : e = .inRead (some data) granted) :
        s.status ≠ .handshake := fun hstatus => hread ⟨data, granted, heq, hstatus⟩
    refine .inr ⟨⟨op, he, hop⟩, hread, ?_⟩
    have hbuf : (s.receives e).udpDataBuf = s.udpDataBuf := by rw [receives, he]
    rw [ht, ← status_receives s e, ← hbuf]
    refine Beside.handle ?_ he ?_ ?_ ?_
    · rw [receives, he]
      exact hs.mode
    · rw [status_receives]
      exact hord.pump.owes.allowed op hop
    · rintro rfl
      exact hs.unfronted (began_of_mem_inFlight hop)
    · intro data granted heq
      rw [status_receives]
      exact hread data granted heq

/-- **A step of a session.** -/
theorem Streams.step {env : Env} {s t : ServerSession} {e : Event} (hs : Streams env s)
    (hord : Orderly env s) (hstep : ServerSession.step env s e = some t) : Streams env t := by
  rcases hs.step_cases hord hstep with ⟨data, granted, rfl, hstatus, hnone, ht⟩
    | ⟨⟨op, he, -⟩, hread, sent, hbeside, -⟩
  · exact hs.payload hstatus hnone ht
  · exact hs.beside hord hstep he hbeside hread

/-- A session that is not started. -/
theorem streams_create (env : Env) (handoff : Option ExternalFrontHandoff) :
    Streams env (create .standardTls handoff) where
  mode := rfl
  unfronted := List.not_mem_nil
  unread _ _ := rfl
  unrelayed _ := ⟨rfl, Status.noConfusion⟩
  read _ hdata := absurd hdata.symm (List.cons_ne_nil _ _)
  named _ htarget := absurd htarget List.not_mem_nil
  tcp h := h.elim (fun _ htarget => absurd htarget List.not_mem_nil)

/-- A session that starts does so beside its stream. -/
theorem beside_start {env : Env} {handoff : Option ExternalFrontHandoff}
    {remoteEndpoint : Option TcpEndpoint} {t : ServerSession}
    (h : step env (create .standardTls handoff) (.start remoteEndpoint) = some t) :
    Beside [] [] ((create .standardTls handoff).receives (.start remoteEndpoint)) t := by
  rw [← Option.some.inj h]
  show Beside [] [] _ (start env _ remoteEndpoint)
  unfold start
  cases remoteEndpoint with
  | none =>
    refine Beside.destroy ?_
    exact (Beside.refl _).adds [] rfl (by simp) rfl id rfl
  | some endpoint =>
    exact (Beside.refl _).adds [_] rfl (by simp [isAside, requested, dispatched]) rfl id rfl

/-- A session that starts has read nothing yet. -/
theorem streams_start {env : Env} {handoff : Option ExternalFrontHandoff}
    {remoteEndpoint : Option TcpEndpoint} {t : ServerSession}
    (h : step env (create .standardTls handoff) (.start remoteEndpoint) = some t) :
    Streams env t := by
  have hbeside := beside_start h
  obtain ⟨new, hnew, haside⟩ := hbeside.marks
  have hread (m) (hm : m ∈ new) := readings_of_isAside (haside m hm)
  have hpayloads : t.handshakePayloads = [] := by
    show collect payloadData t.history = []
    rw [hnew, collect_append_of_silent (fun m hm => (hread m hm).2.2.1)]
    rfl
  have hrelayed : collect relayed t.history = [] := by
    rw [hnew, collect_append_of_silent (fun m hm => (hread m hm).2.1)]
    rfl
  have hfrom : collect fromWire t.history = [] := by
    rw [hnew, collect_append_of_silent (fun m hm => (hread m hm).1)]
    rfl
  have hnot (op : Operation) (hop : isAside (.began op : Mark Operation Buffer Note) = false) :
      .began op ∉ t.history := by
    intro hmem
    rw [hnew, List.mem_append] at hmem
    rcases hmem with hmem | hmem
    · exact absurd ((haside _ hmem).symm.trans hop) Bool.noConfusion
    · exact absurd (List.mem_singleton.mp hmem) (by simp)
  refine ⟨hbeside.mode, hnot _ rfl, fun _ _ => hfrom, fun _ => ⟨hrelayed, fun hudp => ?_⟩,
    fun data hdata => ?_, fun target htarget => absurd htarget (hnot _ rfl),
    fun h => h.elim (fun _ htarget => absurd htarget (hnot _ rfl))⟩
  · exact absurd (hbeside.udp hudp) Status.noConfusion
  · exact absurd (hpayloads.symm.trans hdata) (List.cons_ne_nil _ _).symm

/-- **Every session of a standard listener** is in order, with its stream. -/
theorem streams_run {env : Env} {handoff : Option ExternalFrontHandoff} {es : List Event}
    {t : ServerSession}
    (h : Machine.run (step env) (create .standardTls handoff) es = some t) :
    t = create .standardTls handoff ∨ Orderly env t ∧ Streams env t := by
  cases es with
  | nil => exact .inl (Option.some.inj h).symm
  | cons e es =>
    obtain ⟨u, hu, hrest⟩ := Machine.run_cons.mp h
    cases e with
    | start remoteEndpoint =>
      refine .inr (Machine.run_invariant (P := fun u => Orderly env u ∧ Streams env u)
        (fun v e w hv hstep => ⟨hv.1.step hstep, hv.2.step hv.1 hstep⟩)
        ⟨@orderly_run _ _ _ _ [] _ (Machine.run_cons.mpr ⟨u, hu, rfl⟩), streams_start hu⟩ hrest)
    | _ => simp [step, accepts, Event.operation, pending, create] at hu

/-! ## The header -/

/-- A password that the server accepts. -/
def Accepts (env : Env) (password : Bytes) : Bool :=
  (env.config.password.lookup password).isSome || env.auth.any (fun a => a password)

/-- A stream begins with one header at most. -/
theorem header_unique {password password' : Bytes} {command command' : TrojanRequest.Command}
    {host host' : Host} {port port' : UInt16} {rest rest' : Bytes} (h : CrlfFree password)
    (h' : CrlfFree password')
    (heq : TrojanRequest.header password command host port ++ rest
      = TrojanRequest.header password' command' host' port' ++ rest') :
    TrojanRequest.header password command host port
      = TrojanRequest.header password' command' host' port' := by
  have hparse := congrArg (fun data => (({} : TrojanRequest).parse data).1.payload) heq
  beta_reduce at hparse
  rw [TrojanRequest.parse_header_append _ h, TrojanRequest.parse_header_append _ h'] at hparse
  have hrest : rest = rest' := hparse
  rw [hrest] at heq
  exact List.append_cancel_right heq

/-- What the gate makes of a request that is all there. -/
theorem authenticate_header (env : Env) {password : Bytes} (hfree : CrlfFree password)
    (command : TrojanRequest.Command) (host : Host) (port : UInt16) (payload : Bytes) :
    (SessionGate.authenticate env.config env.auth
        (TrojanRequest.header password command host port ++ payload)).authenticated
      = Accepts env password := by
  unfold SessionGate.authenticate Accepts
  rw [TrojanRequest.parse_header_append _ hfree]
  dsimp only
  rw [if_pos (by rfl)]
  split
  · rename_i hknown
    rw [hknown]
    rfl
  · rename_i hunknown
    rw [Bool.eq_false_iff.mpr hunknown, Bool.false_or]
    split
    · rename_i hauth
      exact hauth.symm
    · rename_i hauth
      exact (Bool.eq_false_iff.mpr hauth).symm

/-- **When a stream is authenticated**: the server accepts the password of its
header, and the payload has all of the header. -/
theorem authenticated_iff (env : Env) {password : Bytes} (hfree : CrlfFree password)
    (command : TrojanRequest.Command) (host : Host) (port : UInt16) {data rest : Bytes}
    (hdata : data <+: TrojanRequest.header password command host port ++ rest) :
    (SessionGate.authenticate env.config env.auth data).authenticated = true
      ↔ Accepts env password = true
        ∧ TrojanRequest.header password command host port <+: data := by
  constructor
  · intro hauth
    obtain ⟨hrequest, hvalid⟩ := SessionGate.authenticate_request env.config env.auth data
    rw [SessionGate.valid_of_authenticated env.config env.auth hauth] at hvalid
    obtain ⟨n, hn⟩ := Option.isSome_iff_exists.mp hvalid.symm
    have hparse : ({} : TrojanRequest).parse data
        = ((({} : TrojanRequest).parse data).1, some n) := Prod.ext rfl hn
    obtain ⟨command', host', port', hwhole, -⟩ := TrojanRequest.eq_header_append_of_parse hparse
    obtain ⟨more, hmore⟩ := hdata
    have hheader : TrojanRequest.header password command host port
        = TrojanRequest.header (({} : TrojanRequest).parse data).1.password command' host'
          port' := by
      refine header_unique hfree (TrojanRequest.crlfFree_password_of_parse hparse)
        (?_ : _ ++ rest = _ ++ ((({} : TrojanRequest).parse data).1.payload ++ more))
      rw [← hmore, ← List.append_assoc, ← hwhole]
    have hprefix : TrojanRequest.header password command host port <+: data :=
      ⟨_, (congrArg (· ++ (({} : TrojanRequest).parse data).1.payload) hheader).trans hwhole.symm⟩
    refine ⟨?_, hprefix⟩
    obtain ⟨payload, rfl⟩ := hprefix
    rw [← authenticate_header env hfree command host port payload]
    exact hauth
  · rintro ⟨haccepts, payload, rfl⟩
    rw [authenticate_header env hfree]
    exact haccepts

/-- **What a TCP relay keeps to itself and what it has written to its target** are a
beginning of what it has read, and all of it while it relays. -/
theorem kept_append_toTarget {env : Env} {t : ServerSession} (hord : Orderly env t)
    (hs : Streams env t) {data kept payload : Bytes} (hdata : t.handshakePayloads = [data])
    (hdial : ∃ target, .began (.tcpResolve target) ∈ t.history) (hkept : data = kept ++ payload)
    (hplan : ∀ context, (buildExecutionPlan (SessionGate.evaluate env.config env.auth
      ⟨context, data⟩)).initialOutboundPayload = payload) :
    kept ++ collect toTarget t.history <+: collect fromWire t.history
      ∧ (t.status = .forward →
        kept ++ collect toTarget t.history = collect fromWire t.history) := by
  obtain ⟨late, hlate, halive⟩ := hs.read _ hdata
  by_cases hest : established t.history
  · obtain ⟨data', context, hmem, hbuf⟩ := hord.ledger.origin ⟨_, hest, rfl⟩
    obtain rfl : data' = data :=
      List.singleton_inj.mp ((handshakePayloads_eq hord.pump hmem).symm.trans hdata)
    have hup := hord.ledger.upward hest
    rw [List.append_nil, hbuf, hplan context, ← (hs.tcp hdial).1] at hup
    have hall : collect fromWire t.history = kept ++ collect toTarget t.history ++ late := by
      rw [hlate, ← hup, hkept, List.append_assoc kept payload]
    rw [hall]
    refine ⟨List.prefix_append _ _, fun hforward => ?_⟩
    rw [halive (by rw [hforward]; exact Status.noConfusion), List.append_nil]
  · rw [(hord.ledger.before hest).2, List.append_nil, hlate, hkept]
    refine ⟨⟨payload ++ collect relayed t.history ++ late, by simp⟩, fun hforward => ?_⟩
    exact absurd (hord.ledger.atForward hforward) hest

end ServerSession
