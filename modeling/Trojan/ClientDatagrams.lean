import Trojan.ClientStream
import Trojan.UdpRoundTrip

/-!
# The datagrams of an association

An application sends datagrams to an association, each in the form of SOCKS5, and the
session makes frames of them; the frames that it reads from the tunnel it sends to the
application as datagrams again. Both ways are followed here through every run, whatever
fails. Up, what the session carries are the frames of the datagrams it has taken, as long
as the application says nothing more on its connection
(`ClientSession.carried_eq_stream`). Down, what it has read in `UDP_FORWARD` are the
frames it has sent to the application, and its buffer (`ClientSession.Unframes`).
-/

namespace ClientSession

open Flight

/-! ## Readings of the history -/

/-- The datagram of SOCKS5 that a frame stands for. -/
def datagramOf (f : UdpFrame) : Bytes := [0, 0, 0] ++ f.host.wire f.port ++ f.payload

/-- What the application says on its connection behind its request. -/
def saidBehind : Mark Operation Buffer Note → Bytes
  | .noted (.handled status (.inRead (.success data) _)) =>
    if status = .connect ∨ status = .forward then data else []
  | _ => []

/-- The datagrams of the application that are taken. -/
def datagrams : Mark Operation Buffer Note → List Bytes
  | .noted (.handled status (.udpReceive (.success (data, _)))) =>
    if (status = .connect ∨ status = .udpForward) ∧ (framePacket data).isSome then [data] else []
  | _ => []

/-- The datagrams that are sent to the application. -/
def sentBack : Mark Operation Buffer Note → List Bytes
  | .began (.udpSend data _) => [data]
  | _ => []

/-- The note of a completion. -/
def isHandled : Mark Operation Buffer Note → Bool
  | .noted (.handled _ _) => true
  | _ => false

/-- What was received are datagrams. -/
def IsSized (h : History) : Prop :=
  ∀ status data endpoint, .noted (.handled status (.udpReceive (.success (data, endpoint)))) ∈ h →
    isDatagram data = true

/-- **A datagram that is taken is one of SOCKS5**, and its frame goes into the tunnel. -/
theorem exists_frame {data : Bytes} (hsize : isDatagram data = true)
    (h : (framePacket data).isSome = true) :
    ∃ f : UdpFrame, data = datagramOf f ∧ framed data = f.bytes := by
  obtain ⟨⟨n, frame⟩, hframe⟩ := Option.isSome_iff_exists.mp h
  obtain ⟨host, port, payload, hdata, -, hbytes⟩ := framePacket_eq_some.mp hframe
  have hfits : payload.length < 65536 := by
    have hlength : data.length < 65536 := of_decide_eq_true hsize
    rw [hdata, List.length_append] at hlength
    omega
  refine ⟨⟨host, port, payload, hfits⟩, hdata, ?_⟩
  rw [framed, hframe]
  show frame = host.wire port ++ (wordBytes payload.length ++ (crlf ++ payload))
  rw [hbytes, List.append_assoc, List.append_assoc]

/-- **An association carries the frames of its datagrams**, if the application says
nothing more on its connection. -/
theorem carried_eq_stream (config : Config) {h : History} (hsize : IsSized h)
    (hsaid : collect saidBehind h = []) :
    ∃ fs, collect datagrams h = fs.map datagramOf
      ∧ collect (Pump.Reading.byNote (reading config true).brings) h = udpFrameCode.stream fs := by
  induction h with
  | nil => exact ⟨[], rfl, rfl⟩
  | cons m h ih =>
    rw [collect_cons, List.append_eq_nil_iff] at hsaid
    obtain ⟨fs, hfs, hstream⟩ := ih
      (fun status data endpoint hm => hsize status data endpoint (List.mem_cons_of_mem _ hm))
      hsaid.1
    have hone : ∃ gs, datagrams m = gs.map datagramOf
        ∧ Pump.Reading.byNote (reading config true).brings m = udpFrameCode.stream gs := by
      cases m with
      | noted n =>
        cases n with
        | handled status e =>
          cases e with
          | inRead received bound =>
            cases received with
            | success data => exact ⟨[], rfl, hsaid.2⟩
            | _ => exact ⟨[], rfl, rfl⟩
          | udpReceive received =>
            cases received with
            | success received =>
              obtain ⟨data, endpoint⟩ := received
              by_cases hstatus : status = .connect ∨ status = .udpForward
              · by_cases hgood : (framePacket data).isSome = true
                · obtain ⟨f, hf, hframed⟩ :=
                    exists_frame (hsize status data endpoint List.mem_cons_self) hgood
                  refine ⟨[f], ?_, ?_⟩
                  · show (if _ then [data] else []) = [datagramOf f]
                    rw [if_pos ⟨hstatus, hgood⟩, ← hf]
                  · show (if _ then framed data else []) = f.bytes ++ []
                    rw [if_pos hstatus, List.append_nil, hframed]
                · refine ⟨[], if_neg (fun hboth => hgood hboth.2), ?_⟩
                  show (if _ then framed data else []) = []
                  rw [if_pos hstatus, framed, Option.not_isSome_iff_eq_none.mp hgood]
                  rfl
              · exact ⟨[], if_neg (fun hboth => hstatus hboth.1), if_neg hstatus⟩
            | _ => exact ⟨[], rfl, rfl⟩
          | _ => exact ⟨[], rfl, rfl⟩
        | _ => exact ⟨[], rfl, rfl⟩
      | _ => exact ⟨[], rfl, rfl⟩
    obtain ⟨gs, hgs, hbrings⟩ := hone
    refine ⟨fs ++ gs, by rw [collect_cons, hfs, hgs, List.map_append], ?_⟩
    rw [collect_cons, hstream, hbrings, FrameCode.stream, FrameCode.stream, FrameCode.stream,
      List.flatMap_append]

/-! ## What a handler does with its frames -/

/-- **A session takes frames off its buffer**, behind which it may have put the bytes of a
read, and sends them to the application. It notes no completion. -/
structure Unframes (read : Bytes) (s t : ClientSession) : Prop where
  marks : ∃ new, t.history = new ++ s.history ∧ ∀ m ∈ new, isHandled m = false
  frames : ∃ fs, collect sentBack t.history = collect sentBack s.history ++ fs.map datagramOf
    ∧ s.udpDataBuf ++ read = udpFrameCode.stream fs ++ t.udpDataBuf

namespace Unframes

variable {r s t : ClientSession} {read : Bytes}

theorem refl (s : ClientSession) : Unframes [] s s :=
  ⟨⟨[], rfl, by simp⟩, [], by simp, List.append_nil _⟩

/-- A session that has some more marks. -/
theorem adds (hs : Unframes read r s) (new : History) (ht : t.history = new ++ s.history)
    (hnew : ∀ m ∈ new, isHandled m = false ∧ sentBack m = [])
    (hbuf : t.udpDataBuf = s.udpDataBuf) : Unframes read r t := by
  obtain ⟨old, hold, hmarks⟩ := hs.marks
  obtain ⟨fs, hfs, hstream⟩ := hs.frames
  refine ⟨⟨new ++ old, by rw [ht, hold, List.append_assoc], fun m hm => ?_⟩, fs, ?_,
    by rw [hbuf, hstream]⟩
  · exact (List.mem_append.mp hm).elim (fun hm => (hnew m hm).1) (hmarks m)
  · rw [ht, collect_append_of_silent (fun m hm => (hnew m hm).2), hfs]

/-- A session that puts a read behind its buffer. -/
theorem buffers (hs : Unframes [] r s) (data : Bytes) :
    Unframes data r { s with udpDataBuf := s.udpDataBuf ++ data } := by
  obtain ⟨fs, hfs, hstream⟩ := hs.frames
  refine ⟨hs.marks, fs, hfs, ?_⟩
  rw [List.append_nil] at hstream
  rw [hstream, List.append_assoc]

theorem destroy (hs : Unframes read r s) : Unframes read r s.destroy := by
  unfold ClientSession.destroy
  split
  · exact hs
  · dsimp only
    split
    · exact hs.adds [_, _, _] rfl (by simp [isHandled, sentBack]) rfl
    · exact hs.adds [_] rfl (by simp [isHandled, sentBack]) rfl

/-- **The next frame goes to the application.** -/
theorem udpSent (hs : Unframes read r s) : Unframes read r s.udpSent := by
  by_cases hstatus : s.status = .udpForward
  · rcases hparse : ({} : UDPPacket).parse s.udpDataBuf with ⟨packet, _ | n⟩
    · rw [ClientSession.udpSent, if_pos hstatus, hparse]
      dsimp only
      split
      · exact hs.destroy
      · exact hs.adds [_] rfl (by simp [isHandled, sentBack]) rfl
    · obtain ⟨f, rest, hbuf, hpacket, hn⟩ := UDPPacket.exists_bytes_of_parse hparse
      have haddress : ({} : SOCKS5Address).parse s.udpDataBuf
          = (SOCKS5Address.ofHost f.host f.port, some (f.host.wire f.port).length) := by
        rw [hbuf, UdpFrame.bytes, List.append_assoc]
        exact SOCKS5Address.parse_wire {} f.host f.port _
      have htake : s.udpDataBuf.take (f.host.wire f.port).length = f.host.wire f.port := by
        rw [hbuf, UdpFrame.bytes, List.append_assoc, List.take_left]
      have hdrop : s.udpDataBuf.drop n = rest := by rw [hn, hbuf, List.drop_left]
      rw [ClientSession.udpSent, if_pos hstatus, hparse]
      dsimp only
      rw [haddress]
      dsimp only
      rw [htake, hdrop, hpacket]
      obtain ⟨old, hold, hmarks⟩ := hs.marks
      obtain ⟨fs, hfs, hstream⟩ := hs.frames
      refine ⟨⟨[_, _] ++ old, congrArg _ (congrArg _ hold), ?_⟩, fs ++ [f], ?_, ?_⟩
      · simpa [isHandled] using hmarks
      · show collect sentBack s.history ++ [] ++ [datagramOf f] = _
        rw [List.append_nil, hfs, List.map_append, List.append_assoc]
        rfl
      · rw [hstream, hbuf, FrameCode.stream, FrameCode.stream, List.flatMap_append,
          List.append_assoc]
        exact congrArg _ (congrArg (· ++ rest) (List.append_nil _).symm)
  · rw [ClientSession.udpSent, if_neg hstatus]
    exact hs

theorem inRecv (hs : Unframes [] r s) (config : Config) (length : ℕ)
    (bound : Option UdpEndpoint) : Unframes [] r (s.inRecv config length bound) := by
  have hgrow : Unframes [] r { s with
      inReadBuf := growAfterRead s.inReadBuf length
      history := .modified .inReadBuf :: s.history } :=
    hs.adds [_] rfl (by simp [isHandled, sentBack]) rfl
  unfold ClientSession.inRecv recvGreeting recvRequest
  dsimp only
  split
  · split
    · exact hgrow.destroy
    · split
      · exact hgrow.adds [_, _] rfl (by simp [isHandled, sentBack]) rfl
      · exact hgrow.adds [_, _] rfl (by simp [isHandled, sentBack]) rfl
  · split
    · exact hgrow.destroy
    · split
      · exact hgrow.adds [_, _] rfl (by simp [isHandled, sentBack]) rfl
      · split
        · split
          · exact destroy (hgrow.adds [] rfl (by simp) rfl)
          · exact hgrow.adds [_, _, _] rfl (by simp [isHandled, sentBack]) rfl
        · exact hgrow.adds [_, _] rfl (by simp [isHandled, sentBack]) rfl
  · exact hgrow.adds [] rfl (by simp) rfl
  · exact hgrow.adds [_, _] rfl (by simp [isHandled, sentBack]) rfl
  · exact hgrow.destroy
  · exact hgrow

theorem inSent (hs : Unframes [] r s) : Unframes [] r s.inSent := by
  unfold ClientSession.inSent
  dsimp only
  split
  · exact hs.adds [_] rfl (by simp [isHandled, sentBack]) rfl
  · split
    · exact hs.adds [_, _, _] rfl (by simp [isHandled, sentBack]) rfl
    · exact hs.adds [_, _] rfl (by simp [isHandled, sentBack]) rfl
  · exact hs.adds [_] rfl (by simp [isHandled, sentBack]) rfl
  · exact hs.destroy
  · exact hs

theorem resolved (hs : Unframes [] r s) (results : Option (List IpAddress)) (openError : Bool) :
    Unframes [] r (s.resolved results openError) := by
  unfold ClientSession.resolved
  split
  · exact hs.destroy
  · split
    · exact hs.destroy
    · exact hs.adds [_, _] rfl (by simp [isHandled, sentBack]) rfl

theorem handshaken (hs : Unframes [] r s) (error : Bool) : Unframes [] r (s.handshaken error) := by
  unfold ClientSession.handshaken
  split
  · exact hs.destroy
  · exact hs.adds [_, _, _, _] rfl (by simp [isHandled, sentBack]) rfl

/-- A read from the tunnel goes behind the buffer in `UDP_FORWARD`. -/
theorem outRecv (hs : Unframes [] r s) {data : Bytes}
    (hbuf : (growAfterRead s.outReadBuf data.length).take data.length = data) :
    Unframes (if s.status = .udpForward then data else []) r (s.outRecv data.length) := by
  have hgrow : Unframes [] r { s with
      outReadBuf := growAfterRead s.outReadBuf data.length
      history := .modified .outReadBuf :: s.history } :=
    hs.adds [_] rfl (by simp [isHandled, sentBack]) rfl
  unfold ClientSession.outRecv
  dsimp only
  rw [hbuf]
  by_cases hforward : s.status = .forward
  · rw [if_pos hforward, if_neg (by rw [hforward]; exact Status.noConfusion)]
    exact hgrow.adds [_, _] rfl (by simp [isHandled, sentBack]) rfl
  · rw [if_neg hforward]
    split
    · exact (hgrow.buffers data).udpSent
    · exact hgrow

theorem outSent (hs : Unframes [] r s) : Unframes [] r s.outSent := by
  unfold ClientSession.outSent
  split
  · exact hs.adds [_] rfl (by simp [isHandled, sentBack]) rfl
  · split
    · exact hs.adds [_] rfl (by simp [isHandled, sentBack]) rfl
    · exact hs

theorem udpRecv (hs : Unframes [] r s) (length : ℕ) : Unframes [] r (s.udpRecv length) := by
  have hgrow : Unframes [] r { s with
      udpReadBuf := growAfterRead s.udpReadBuf length
      history := .modified .udpReadBuf :: s.history } :=
    hs.adds [_] rfl (by simp [isHandled, sentBack]) rfl
  unfold ClientSession.udpRecv
  dsimp only
  split
  · exact hgrow
  · split
    · exact hgrow.destroy
    · split
      · exact hgrow.adds [] rfl (by simp) rfl
      · split
        · exact hgrow.adds [_, _] rfl (by simp [isHandled, sentBack]) rfl
        · exact hgrow.adds [] rfl (by simp) rfl

/-- **Every completion is handled so.** -/
theorem handle (s : ClientSession) (config : Config) (e : Event) :
    Unframes (returned .udpForward (.noted (.handled s.status e))) s (s.handle config e) := by
  have hs := refl s
  cases e with
  | start remoteEndpoint =>
    cases remoteEndpoint with
    | none => exact hs.destroy
    | some endpoint => exact hs.adds [_] rfl (by simp [isHandled, sentBack]) rfl
  | inRead received bound =>
    cases received with
    | aborted => exact hs
    | failed => exact hs.destroy
    | success data =>
      refine inRecv (s := { s with inReadBuf := fillBuffer s.inReadBuf data }) ?_ config
        data.length bound
      exact hs.adds [] rfl (by simp) rfl
  | inWrite data error =>
    cases error with
    | true => exact hs.destroy
    | false => exact hs.inSent
  | resolve results openError => exact hs.resolved results openError
  | tcpConnect endpoint error =>
    cases error with
    | true => exact hs.destroy
    | false => exact hs.adds [_] rfl (by simp [isHandled, sentBack]) rfl
  | tlsHandshake error => exact hs.handshaken error
  | outRead data =>
    cases data with
    | none => exact hs.destroy
    | some data =>
      exact outRecv (s := { s with outReadBuf := fillBuffer s.outReadBuf data })
        (hs.adds [] rfl (by simp) rfl) (take_growAfterRead s.outReadBuf data)
  | outWrite data error =>
    cases error with
    | true => exact hs.destroy
    | false => exact hs.outSent
  | udpReceive received =>
    cases received with
    | aborted => exact hs
    | failed => exact hs.destroy
    | success received =>
      refine udpRecv (s := { s with
        udpReadBuf := fillBuffer s.udpReadBuf received.1
        udpRecvEndpoint := received.2 }) ?_ received.1.length
      exact hs.adds [] rfl (by simp) rfl
  | udpSend data endpoint error =>
    cases error with
    | true => exact hs.destroy
    | false => exact hs.udpSent
  | tlsShutdown aborted =>
    cases aborted with
    | true => exact hs
    | false => exact hs.adds [] rfl (by simp) rfl
  | shutdownTimer aborted =>
    cases aborted with
    | true => exact hs
    | false => exact hs.adds [] rfl (by simp) rfl

end Unframes

/-! ## What the request asks for -/

section Request

variable {config : Config} {s t : ClientSession} {e : Event}

/-- A request asks for an association. -/
def asksForUdp (config : Config) (data : Bytes) : Bool :=
  (({} : TrojanRequest).parse (requestBuffer config data)).1.command
    = some TrojanRequest.Command.udpAssociate

/-- **A session does what the request asks for** that it has accepted. -/
def Chosen (config : Config) (s : ClientSession) : Prop :=
  ∀ data bound, .noted (.handled .request (.inRead (.success data) bound)) ∈ s.history →
    acceptedRequest config data bound ≠ none → s.isUdp = asksForUdp config data

theorem isUdp_destroy (s : ClientSession) : s.destroy.isUdp = s.isUdp := by
  unfold destroy
  split
  · rfl
  · dsimp only
    split <;> rfl

theorem isUdp_udpSent (s : ClientSession) : s.udpSent.isUdp = s.isUdp := by
  unfold udpSent
  dsimp only
  split
  · split
    · split
      · exact isUdp_destroy s
      · rfl
    · split
      · exact isUdp_destroy s
      · rfl
  · rfl

theorem isUdp_inSent (s : ClientSession) : s.inSent.isUdp = s.isUdp := by
  unfold inSent
  dsimp only
  split
  · rfl
  · split <;> rfl
  · rfl
  · exact isUdp_destroy s
  · rfl

theorem isUdp_resolved (s : ClientSession) (results : Option (List IpAddress))
    (openError : Bool) : (s.resolved results openError).isUdp = s.isUdp := by
  unfold resolved
  split
  · exact isUdp_destroy s
  · split
    · exact isUdp_destroy s
    · rfl

theorem isUdp_outRecv (s : ClientSession) (length : ℕ) : (s.outRecv length).isUdp = s.isUdp := by
  unfold outRecv
  dsimp only
  split
  · rfl
  · split
    · exact isUdp_udpSent _
    · rfl

theorem isUdp_outSent (s : ClientSession) : s.outSent.isUdp = s.isUdp := by
  unfold outSent
  split
  · rfl
  · split <;> rfl

theorem isUdp_udpRecv (s : ClientSession) (length : ℕ) : (s.udpRecv length).isUdp = s.isUdp := by
  unfold udpRecv
  dsimp only
  split
  · rfl
  · split
    · exact isUdp_destroy _
    · split
      · rfl
      · split <;> rfl

/-- Only a request decides what a session is for. -/
theorem isUdp_handle (config : Config) (s : ClientSession) {e : Event}
    (h : ∀ data bound, e = .inRead (.success data) bound → s.status ≠ .request) :
    (s.handle config e).isUdp = s.isUdp := by
  cases e with
  | start remoteEndpoint =>
    cases remoteEndpoint with
    | none => exact isUdp_destroy s
    | some endpoint => rfl
  | inRead received bound =>
    cases received with
    | aborted => rfl
    | failed => exact isUdp_destroy s
    | success data =>
      show (inRecv config { s with inReadBuf := fillBuffer s.inReadBuf data } data.length
        bound).isUdp = s.isUdp
      unfold inRecv recvGreeting
      dsimp only
      split
      · split
        · exact isUdp_destroy _
        · split <;> rfl
      · rename_i hrequest
        exact absurd hrequest (h data bound rfl)
      · rfl
      · rfl
      · exact isUdp_destroy _
      · rfl
  | inWrite data error =>
    cases error with
    | true => exact isUdp_destroy s
    | false => exact isUdp_inSent s
  | resolve results openError => exact isUdp_resolved s results openError
  | tcpConnect endpoint error =>
    cases error with
    | true => exact isUdp_destroy s
    | false => rfl
  | tlsHandshake error =>
    cases error with
    | true => exact isUdp_destroy s
    | false => rfl
  | outRead data =>
    cases data with
    | none => exact isUdp_destroy s
    | some data => exact isUdp_outRecv { s with outReadBuf := fillBuffer s.outReadBuf data } _
  | outWrite data error =>
    cases error with
    | true => exact isUdp_destroy s
    | false => exact isUdp_outSent s
  | udpReceive received =>
    cases received with
    | aborted => rfl
    | failed => exact isUdp_destroy s
    | success received => exact isUdp_udpRecv _ received.1.length
  | udpSend data endpoint error =>
    cases error with
    | true => exact isUdp_destroy s
    | false => exact isUdp_udpSent s
  | tlsShutdown aborted => cases aborted <;> rfl
  | shutdownTimer aborted => cases aborted <;> rfl

/-- **A request that is accepted** decides what a session is for. -/
theorem isUdp_of_accepted {data : Bytes} {bound : Option UdpEndpoint}
    (hstatus : s.status = .request) (haccepted : acceptedRequest config data bound ≠ none) :
    (s.handle config (.inRead (.success data) bound)).isUdp = asksForUdp config data := by
  have hhandled : s.handle config (.inRead (.success data) bound)
      = { s with inReadBuf := fillBuffer s.inReadBuf data }.inRecv config data.length bound := rfl
  rw [hhandled, inRecv]
  dsimp only
  rw [hstatus, take_growAfterRead]
  dsimp only
  unfold acceptedRequest at haccepted
  unfold recvRequest asksForUdp
  split
  · rename_i hbad
    exact absurd (if_pos hbad) haccepted
  · rename_i hgood
    rw [if_neg hgood] at haccepted
    dsimp only
    split
    · rename_i heq
      rw [heq] at haccepted
      exact absurd rfl haccepted
    · rename_i heq
      rw [heq]
      split
      · split
        · exact isUdp_destroy _
        · rfl
      · rfl

end Request

/-! ## Runs -/

section Runs

variable {config : Config} {s t : ClientSession} {e : Event}

/-- **What one step writes down**: the completion, which is one that could be waited for,
and marks of its handler, which notes no other and takes frames off the buffer. -/
theorem exists_of_step (h : step config s e = some t) :
    s.accepts e = true ∧ t = (s.receives e).handle config e
      ∧ (∃ new : History, t.history = new ++ .noted (.handled s.status e) :: s.history
        ∧ ∀ m ∈ new, isHandled m = false)
      ∧ ∃ gs : List UdpFrame,
        collect sentBack t.history = collect sentBack s.history ++ gs.map datagramOf
          ∧ s.udpDataBuf ++ returned .udpForward (.noted (.handled s.status e))
            = udpFrameCode.stream gs ++ t.udpDataBuf := by
  unfold step at h
  split at h
  case isFalse => exact absurd h (by simp)
  rename_i haccepts
  obtain ⟨⟨new, hnew, hmarks⟩, gs, hgs, hstream⟩ := Unframes.handle (s.receives e) config e
  rw [Option.some.inj h] at hnew hgs hstream
  have hreceived : ∃ ended : History, (s.receives e).history
      = ended ++ .noted (.handled s.status e) :: s.history
      ∧ (∀ m ∈ ended, isHandled m = false ∧ sentBack m = [])
      ∧ (s.receives e).status = s.status ∧ (s.receives e).udpDataBuf = s.udpDataBuf := by
    unfold receives
    split
    · exact ⟨[], rfl, by simp, rfl, rfl⟩
    · exact ⟨[_], rfl, by simp [isHandled, sentBack], rfl, rfl⟩
  obtain ⟨ended, hhistory, hended, hstatus, hbuf⟩ := hreceived
  rw [hstatus, hbuf] at hstream
  refine ⟨haccepts, (Option.some.inj h).symm, ⟨new ++ ended, ?_, ?_⟩, gs, ?_, hstream⟩
  · rw [hnew, hhistory, List.append_assoc]
  · exact fun m hm => (List.mem_append.mp hm).elim (hmarks m) (fun hm => (hended m hm).1)
  · have hsame : collect sentBack (s.receives e).history = collect sentBack s.history := by
      rw [hhistory, collect_append_of_silent (fun m hm => (hended m hm).2)]
      exact List.append_nil _
    rw [hgs, hsame]

/-- A completion that has been noted is the one of this step, or of an earlier one. -/
theorem handled_of_mem {new : History}
    (ht : t.history = new ++ .noted (.handled s.status e) :: s.history)
    (hnew : ∀ m ∈ new, isHandled m = false) {status : Status} {f : Event}
    (hm : .noted (.handled status f) ∈ t.history) :
    status = s.status ∧ f = e ∨ .noted (.handled status f) ∈ s.history := by
  rw [ht] at hm
  rcases List.mem_append.mp hm with hm | hm
  · have hnot : isHandled (.noted (.handled status f)) = false := hnew _ hm
    exact absurd hnot.symm Bool.false_ne_true
  · rcases List.mem_cons.mp hm with heq | hm
    · exact .inl (Note.handled.inj (Mark.noted.inj heq))
    · exact .inr hm

/-- **An association and its frames**: what it has received are datagrams, and what it has
read in `UDP_FORWARD` are the frames that it has sent to the application, and its
buffer. -/
structure Associates (s : ClientSession) : Prop where
  sized : IsSized s.history
  frames : ∃ fs, collect sentBack s.history = fs.map datagramOf
    ∧ collect (returned .udpForward) s.history = udpFrameCode.stream fs ++ s.udpDataBuf

/-- **One step** keeps a session with its frames. -/
theorem Associates.step (hs : Associates s) (h : ClientSession.step config s e = some t) :
    Associates t := by
  obtain ⟨haccepts, -, ⟨new, hnew, hmarks⟩, gs, hgs, hstream⟩ := exists_of_step h
  refine ⟨fun status data endpoint hm => ?_, ?_⟩
  · rcases handled_of_mem hnew hmarks hm with ⟨-, rfl⟩ | hm
    · exact (Bool.and_eq_true_iff.mp (Bool.and_eq_true_iff.mp haccepts).2).2
    · exact hs.sized status data endpoint hm
  · obtain ⟨fs, hfs, hread⟩ := hs.frames
    have hreturned : collect (returned .udpForward) t.history
        = collect (returned .udpForward) s.history
          ++ returned .udpForward (.noted (.handled s.status e)) := by
      rw [hnew, collect_append_of_silent (fun m hm => ?_)]
      · rfl
      · have hnot := hmarks m hm
        cases m with
        | noted n =>
          cases n with
          | handled status e => exact absurd hnot.symm Bool.false_ne_true
          | _ => rfl
        | _ => rfl
    refine ⟨fs ++ gs, by rw [hgs, hfs, List.map_append], ?_⟩
    rw [hreturned, hread, List.append_assoc, hstream, FrameCode.stream, FrameCode.stream,
      FrameCode.stream, List.flatMap_append, List.append_assoc]

/-- A session that is not started. -/
theorem associates_create : Associates create where
  sized _ _ _ hm := absurd hm List.not_mem_nil
  frames := ⟨[], rfl, rfl⟩

/-- A request that is accepted goes into the tunnel as a whole. -/
theorem acceptedRequest_eq_or (config : Config) (data : Bytes) (bound : Option UdpEndpoint) :
    acceptedRequest config data bound = none
      ∨ acceptedRequest config data bound = some (requestBuffer config data) := by
  unfold acceptedRequest
  split
  · exact .inl rfl
  · split
    · exact .inl rfl
    · split
      · exact .inl rfl
      · exact .inr rfl

/-- A request that was accepted is part of what was requested. -/
theorem requested_ne_nil {data : Bytes} {bound : Option UdpEndpoint}
    (hmem : .noted (.handled .request (.inRead (.success data) bound)) ∈ s.history)
    (haccepted : acceptedRequest config data bound ≠ none) : s.requested config ≠ [] := by
  obtain ⟨later, earlier, hsplit⟩ := List.append_of_mem hmem
  intro hnil
  rw [requested, hsplit, collect_append, List.append_eq_nil_iff, collect_cons,
    List.append_eq_nil_iff] at hnil
  have hempty : (acceptedRequest config data bound).getD [] = [] := hnil.1.2
  rcases acceptedRequest_eq_or config data bound with hnone | hsome
  · exact haccepted hnone
  · rw [hsome] at hempty
    exact absurd hempty (by simp [requestBuffer, crlf])

/-- **A session sticks to its choice**: a second request is not read. -/
theorem Chosen.step (hs : Chosen config s) (hacc : Accounted config s)
    (h : ClientSession.step config s e = some t) : Chosen config t := by
  obtain ⟨-, rfl, ⟨new, hnew, hmarks⟩, -⟩ := exists_of_step h
  intro data bound hm haccepted
  have hstatus : (s.receives e).status = s.status := by unfold receives; split <;> rfl
  have hudp : (s.receives e).isUdp = s.isUdp := by unfold receives; split <;> rfl
  rcases handled_of_mem hnew hmarks hm with ⟨hrequest, rfl⟩ | hold
  · exact isUdp_of_accepted (hstatus.trans hrequest.symm) haccepted
  · rw [isUdp_handle config (s.receives e) (fun data' bound' he => ?_), hudp]
    · exact hs data bound hold haccepted
    · -- it would be a read of a session that has accepted no request
      rintro hrequest
      rw [hstatus] at hrequest
      subst he
      obtain ⟨hmem, -⟩ := mem_of_step h rfl
      refine requested_ne_nil hold haccepted ?_
      rcases hacc.orderly with hgreets | hrelays
      · rw [Greets, hrequest] at hgreets
        rcases hgreets with ⟨hnone, -⟩ | ⟨-, answer, hanswer⟩
        · exact hnone
        · rw [hanswer] at hmem
          exact absurd hmem (by simp)
      · have hrel := hrelays.status
        rw [hrequest] at hrel
        exact absurd hrel Bool.false_ne_true

/-- A session that is not started has chosen nothing. -/
theorem chosen_create : Chosen config create := fun _ _ hm => absurd hm List.not_mem_nil

end Runs

end ClientSession
