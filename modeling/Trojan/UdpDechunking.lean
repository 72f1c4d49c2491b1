import Trojan.ServerRelay
import Trojan.UdpForwardSession

/-!
# Taking UDP frames off the tunnel

A UDP relay gets its frames from a stream, cut into reads anywhere, and takes
them off its buffer `udp_data_buf`. A server session does so from three
handlers – of the request, of a read and of a send – and takes one frame at a
time, going back to reading only when the buffer holds no frame. A UDP forward
session takes all the frames off in one loop. Neither knows about the other,
and both make the moves of `FrameCode.next`: so both are followed through their
runs by the place they are at in the stream (`FrameCode.At`), and that place
does not depend on the pieces.

For the forward session this is an invariant of every step
(`UDPForwardSession.Takes`). The server session is between two reads in one of
three stages (`ServerSession.Stage`), and that it is in no other is the pump
discipline: one upward operation is in flight at a time. The main result is
`udp_dechunked`.
-/

/-! ## The UDP forward session -/

namespace UDPForwardSession

open Flight

/-- The payloads a session has given to its service. -/
def handed : Mark Operation Buffer Note → List (UdpEndpoint × Bytes)
  | .noted (.inWrite endpoint payload) => [(endpoint, payload)]
  | _ => []

/-- What an event reads from the tunnel. -/
def Event.bytesRead : Event → Bytes
  | outRead (some data) => data
  | _ => []

/-- Nothing goes wrong: the tunnel is established and stays there, and the
session is not idle for too long. -/
def Event.succeeds : Event → Bool
  | resolve results openError => (results.bind List.head?).isSome && !openError
  | tcpConnect _ error | tlsHandshake error | outWrite _ error => !error
  | outRead data => data.isSome
  | timer error => error
  | _ => true

/-- The loop of `out_recv` makes the moves of a reader of frames. -/
theorem takeFrames_eq (s : UDPForwardSession) :
    s.takeFrames = match udpFrameCode.next maxLength s.udpDataBuf with
      | .deliver packet rest =>
        takeFrames
          { s.notes (.inWrite s.udpRecvEndpoint packet.payload) with
              udpDataBuf := rest
              recvLen := s.recvLen + packet.length }
      | .wait => s.outAsyncRead
      | .overflow => s.destroy := by
  rw [udpFrameCode_next, takeFrames]
  split
  · rename_i hparse
    rw [hparse]
    dsimp only
    split <;> rfl
  · rename_i hparse
    rw [hparse]

/-- **The loop of `out_recv`** on a buffer of a stream of frames: the frames
that are there are handed over in order, and the session reads on. -/
theorem takeFrames_of_stream {fs done : List UdpFrame} {unread : Bytes}
    (hlimit : ∀ f ∈ fs, f.bytes.length ≤ maxLength + 1) (s : UDPForwardSession)
    (hat : udpFrameCode.At fs done s.udpDataBuf unread) :
    ∃ more buf len, udpFrameCode.At fs (done ++ more) buf unread
      ∧ udpFrameCode.decode buf = none
      ∧ s.takeFrames =
        { s with
            udpDataBuf := buf
            recvLen := len
            history := .began .outRead :: ((more.map (fun f : UdpFrame =>
              .noted (.inWrite s.udpRecvEndpoint f.payload))).reverse ++ s.history) } := by
  induction hk : fs.length - done.length using Nat.strong_induction_on generalizing s done with
  | _ k ih =>
    rw [takeFrames_eq]
    rcases hat.next hlimit with ⟨f, rest, hnext, hat'⟩ | ⟨hnext, hdecode⟩
    · have hlength := hat'.done_le.length_le
      rw [List.length_append, List.length_singleton] at hlength
      rw [hnext]
      obtain ⟨more, buf, len, hmore, hdecode, heq⟩ :=
        ih (fs.length - (done ++ [f]).length) (by rw [List.length_append]; simp; omega)
          { s.notes (.inWrite s.udpRecvEndpoint f.payload) with
              udpDataBuf := rest
              recvLen := s.recvLen + f.packet.length } hat' rfl
      refine ⟨f :: more, buf, len, ?_, hdecode, ?_⟩
      · rwa [List.append_assoc] at hmore
      · show takeFrames _ = _
        rw [List.map_cons, List.reverse_cons, List.append_assoc]
        exact heq
    · rw [hnext]
      exact ⟨[], s.udpDataBuf, s.recvLen, by rwa [List.append_nil], hdecode, rfl⟩

/-- **Where a session is in the stream** of the frames `fs`, of which it has
still to read `unread`: it has handed over, for its peer, the payloads of the
frames that it has taken off its buffer. -/
def Placed (peer : UdpEndpoint) (fs : List UdpFrame) (s : UDPForwardSession)
    (unread : Bytes) : Prop :=
  s.udpRecvEndpoint = peer ∧ ∃ done, udpFrameCode.At fs done s.udpDataBuf unread
    ∧ collect handed s.history = done.map (fun f => (peer, f.payload))

/-- Marks that hand over nothing leave a session where it is. -/
theorem Placed.silent {peer : UdpEndpoint} {fs : List UdpFrame} {s t : UDPForwardSession}
    {unread : Bytes} (h : Placed peer fs s unread) (new : History) (hhist : t.history = new ++ s.history)
    (hnew : ∀ m ∈ new, handed m = []) (hbuf : t.udpDataBuf = s.udpDataBuf)
    (hend : t.udpRecvEndpoint = s.udpRecvEndpoint) : Placed peer fs t unread := by
  obtain ⟨hpeer, done, hat, hdone⟩ := h
  refine ⟨hend.trans hpeer, done, hbuf ▸ hat, ?_⟩
  rw [hhist, collect_append_of_silent hnew, hdone]

/-- What the loop notes as it hands over payloads, the newest first. -/
theorem collect_handed_notes (endpoint : UdpEndpoint) (more : List UdpFrame) (h : History) :
    collect handed ((more.map (fun f : UdpFrame =>
        .noted (.inWrite endpoint f.payload))).reverse ++ h)
      = collect handed h ++ more.map (fun f => (endpoint, f.payload)) := by
  induction more generalizing h with
  | nil => exact (List.append_nil _).symm
  | cons f more ih =>
    rw [List.map_cons, List.reverse_cons, List.append_assoc, ih, List.map_cons,
      List.singleton_append, collect_cons, List.append_assoc]
    rfl

/-- **A session is taking frames off the tunnel**: it reads from the moment the
tunnel is there, and between its steps what it holds is not a frame. -/
structure Takes (peer : UdpEndpoint) (fs : List UdpFrame) (s : UDPForwardSession)
    (unread : Bytes) : Prop where
  alive : s.status ≠ .destroy
  placed : Placed peer fs s unread
  incomplete : udpFrameCode.decode s.udpDataBuf = none
  reading : s.status ≠ .connect ↔ .outRead ∈ s.pending

namespace Takes

variable {peer : UdpEndpoint} {fs : List UdpFrame} {s : UDPForwardSession} {unread : Bytes}

/-- A mark that neither hands over a payload nor reads from the tunnel. -/
def isQuiet : Mark Operation Buffer Note → Bool
  | .noted (.inWrite _ _) | .began .outRead | .ended .outRead => false
  | _ => true

/-- What keeps the buffer and leaves only quiet marks. -/
theorem quiet (h : Takes peer fs s unread) {t : UDPForwardSession} (new : History)
    (hhist : t.history = new ++ s.history) (hnew : ∀ m ∈ new, isQuiet m = true)
    (hbuf : t.udpDataBuf = s.udpDataBuf) (hend : t.udpRecvEndpoint = s.udpRecvEndpoint)
    (halive : t.status ≠ .destroy) (hconnect : t.status = .connect ↔ s.status = .connect) :
    Takes peer fs t unread := by
  refine ⟨halive, h.placed.silent new hhist (fun m hm => ?_) hbuf hend, hbuf ▸ h.incomplete, ?_⟩
  · have hq := hnew m hm
    unfold isQuiet at hq
    unfold handed
    split
    · exact absurd hq (by simp)
    · rfl
  · rw [pending, hhist, mem_inFlight_append, ne_eq, hconnect]
    · exact h.reading
    · intro m hm
      refine ⟨?_, ?_⟩ <;>
      · rintro rfl
        exact absurd (hnew _ hm) (by simp [isQuiet])

/-- **The tunnel is there**: from now on the session reads. -/
theorem handshaken (h : Takes peer fs s unread) : Takes peer fs (s.handshaken false) unread := by
  refine ⟨Status.noConfusion, ?_, h.incomplete, fun _ => ?_, fun _ => Status.noConfusion⟩
  · exact h.placed.silent [_, _, _, _] rfl (by simp [handed]) rfl rfl
  · exact List.mem_cons_of_mem _ List.mem_cons_self

/-- **The loop takes the buffer apart.** -/
theorem takeFrames (hlimit : ∀ f ∈ fs, f.bytes.length ≤ maxLength + 1)
    (hs : s.status = .forward ∨ s.status = .forwarding) (hplaced : Placed peer fs s unread) :
    Takes peer fs s.takeFrames unread := by
  have hstatus (status : Status) (hne : status ≠ .forward ∧ status ≠ .forwarding) :
      s.status ≠ status := by
    rcases hs with hs | hs
    · exact hs ▸ hne.1.symm
    · exact hs ▸ hne.2.symm
  obtain ⟨hpeer, done, hat, hdone⟩ := hplaced
  obtain ⟨more, buf, len, hmore, hdecode, heq⟩ := takeFrames_of_stream hlimit s hat
  rw [heq]
  refine ⟨hstatus _ (by simp), ⟨hpeer, done ++ more, hmore, ?_⟩, hdecode,
    fun _ => List.mem_cons_self, fun _ => hstatus _ (by simp)⟩
  rw [collect_cons, collect_handed_notes, List.map_append, ← hdone, hpeer]
  exact List.append_nil _

/-- **A read is taken apart.** -/
theorem outRecv {data : Bytes} (hlimit : ∀ f ∈ fs, f.bytes.length ≤ maxLength + 1)
    (hs : s.status = .forward ∨ s.status = .forwarding)
    (hbuf : (growAfterRead s.outReadBuf data.length).take data.length = data)
    (hplaced : Placed peer fs s (data ++ unread)) :
    Takes peer fs (s.outRecv data.length) unread := by
  unfold UDPForwardSession.outRecv
  dsimp only
  rw [if_pos hs]
  refine takeFrames hlimit hs ?_
  obtain ⟨hpeer, done, hat, hdone⟩ := hplaced
  refine ⟨hpeer, done, ?_, ?_⟩
  · show udpFrameCode.At fs done
      (s.udpDataBuf ++ (growAfterRead s.outReadBuf data.length).take data.length) unread
    rw [hbuf]
    exact hat.read
  · show collect handed s.history ++ [] ++ [] = _
    rw [List.append_nil, List.append_nil]
    exact hdone

/-- **A step that goes well**: the bytes it reads are taken off what is
unread. -/
theorem step {config : Config} {t : UDPForwardSession} {e : Event}
    (hlimit : ∀ f ∈ fs, f.bytes.length ≤ maxLength + 1)
    (h : Takes peer fs s (e.bytesRead ++ unread)) (hok : e.succeeds = true)
    (hstep : UDPForwardSession.step config s e = some t) : Takes peer fs t unread := by
  unfold UDPForwardSession.step at hstep
  split at hstep
  case isFalse => exact absurd hstep (by simp)
  rename_i haccepts
  rw [← Option.some.inj hstep]
  cases e with
  | start => exact h.quiet [_, _, _] rfl (by simp [isQuiet]) rfl rfl h.alive Iff.rfl
  | resolve results openError =>
    obtain ⟨hresults, hopen⟩ := (Bool.and_eq_true _ _).mp hok
    obtain ⟨endpoint, hendpoint⟩ := Option.isSome_iff_exists.mp hresults
    show Takes peer fs (UDPForwardSession.resolved _ results openError) unread
    unfold resolved
    rw [hendpoint, show openError = false by simpa using hopen]
    exact h.quiet [_, _, _, _] rfl (by simp [isQuiet]) rfl rfl h.alive Iff.rfl
  | tcpConnect endpoint error =>
    rw [show error = false by simpa [Event.succeeds] using hok]
    exact h.quiet [_, _, _] rfl (by simp [isQuiet]) rfl rfl h.alive Iff.rfl
  | tlsHandshake error =>
    rw [show error = false by simpa [Event.succeeds] using hok]
    refine handshaken ?_
    exact h.quiet [_, _] rfl (by simp [isQuiet]) rfl rfl h.alive Iff.rfl
  | process endpoint data =>
    have hrec : Takes peer fs (s.receives (.process endpoint data)) unread :=
      h.quiet [_] rfl (by simp [isQuiet]) rfl rfl h.alive Iff.rfl
    show Takes peer fs (UDPForwardSession.process config _ endpoint data).2 unread
    unfold process
    split
    · exact hrec
    · show Takes peer fs (inRecv config _ data) unread
      unfold inRecv
      rw [if_neg hrec.alive]
      dsimp only
      split
      · rename_i hforward
        refine hrec.quiet [_, _, _] rfl (by simp [isQuiet]) rfl rfl Status.noConfusion ?_
        exact iff_of_false Status.noConfusion (fun hc => Status.noConfusion (hc.symm.trans hforward))
      · exact hrec.quiet [_] rfl (by simp [isQuiet]) rfl rfl hrec.alive Iff.rfl
  | outRead data =>
    obtain ⟨data, rfl⟩ := Option.isSome_iff_exists.mp hok
    have hop : .outRead ∈ s.pending := by
      simp only [accepts, Event.operation, Bool.and_eq_true, decide_eq_true_eq] at haccepts
      exact haccepts.1
    have hs : s.status = .forward ∨ s.status = .forwarding := by
      have hne := h.reading.mpr hop
      have hnd := h.alive
      cases hst : s.status with
      | connect => exact absurd hst hne
      | forward => exact .inl rfl
      | forwarding => exact .inr rfl
      | destroy => exact absurd hst hnd
    refine outRecv hlimit hs (take_growAfterRead s.outReadBuf data) ?_
    exact h.placed.silent [_, _] rfl (by simp [handed]) rfl rfl
  | outWrite data error =>
    rw [show error = false by simpa [Event.succeeds] using hok]
    have hrec : Takes peer fs (s.receives (.outWrite data false)) unread :=
      h.quiet [_, _] rfl (by simp [isQuiet]) rfl rfl h.alive Iff.rfl
    show Takes peer fs (outSent _) unread
    unfold outSent
    split
    · rename_i hforwarding
      have hconnect (status : Status) (hne : status ≠ .connect) :
          status = .connect ↔ (s.receives (.outWrite data false)).status = .connect :=
        iff_of_false hne (fun hc => Status.noConfusion (hc.symm.trans hforwarding))
      split
      · exact hrec.quiet [] rfl (by simp) rfl rfl Status.noConfusion
          (hconnect _ Status.noConfusion)
      · exact hrec.quiet [_, _] rfl (by simp [isQuiet]) rfl rfl hrec.alive Iff.rfl
    · exact hrec
  | timer error =>
    rw [show error = true from hok]
    exact h.quiet [_, _] rfl (by simp [isQuiet]) rfl rfl h.alive Iff.rfl
  | tlsShutdown aborted =>
    show Takes peer fs (sslShutdownCb _ aborted) unread
    unfold sslShutdownCb
    split <;> exact h.quiet [_, _] rfl (by simp [isQuiet]) rfl rfl h.alive Iff.rfl
  | shutdownTimer aborted =>
    show Takes peer fs (sslShutdownCb _ aborted) unread
    unfold sslShutdownCb
    split <;> exact h.quiet [_, _] rfl (by simp [isQuiet]) rfl rfl h.alive Iff.rfl

/-- **A run that goes well.** -/
theorem run {config : Config} {t : UDPForwardSession} {es : List Event}
    (hlimit : ∀ f ∈ fs, f.bytes.length ≤ maxLength + 1)
    (h : Takes peer fs s (es.flatMap Event.bytesRead ++ unread)) (hok : ∀ e ∈ es, e.succeeds = true)
    (hrun : Machine.run (UDPForwardSession.step config) s es = some t) : Takes peer fs t unread := by
  induction es generalizing s with
  | nil => exact Option.some.inj hrun ▸ h
  | cons e es ih =>
    obtain ⟨u, hu, hrest⟩ := Machine.run_cons.mp hrun
    rw [List.flatMap_cons, List.append_assoc] at h
    exact ih (h.step hlimit (hok e List.mem_cons_self) hu)
      (fun e he => hok e (List.mem_cons_of_mem _ he)) hrest

end Takes

/-- A session that has just been created is at the beginning of any stream. -/
theorem takes_create (peer : UdpEndpoint) (fs : List UdpFrame) :
    Takes peer fs (create peer) (udpFrameCode.stream fs) where
  alive := Status.noConfusion
  placed := ⟨rfl, [], .start rfl, rfl⟩
  incomplete := udpFrameCode.decode_nil
  reading := iff_of_false (fun h => h rfl) List.not_mem_nil

end UDPForwardSession

/-! ## The server session -/

namespace ServerSession

open Flight

/-- What the server dispatches for a frame. -/
def requestOf (f : UdpFrame) : UdpDispatchRequest where
  payload := f.payload
  packetLength := f.payload.length
  queryAddr := f.host.text
  queryPort := f.port

/-- The packets a session has begun to resolve. -/
def requested : Mark Operation Buffer Note → List UdpDispatchRequest
  | .began (.udpResolve request) => [request]
  | _ => []

/-- The packets it has resolved, with the results. -/
def answered : Mark Operation Buffer Note →
    List (UdpDispatchRequest × Option (List UdpEndpoint))
  | .noted (.handled _ (.udpResolve request results _)) => [(request, results)]
  | _ => []

/-- The datagrams it has sent, with their destinations. -/
def dispatched : Mark Operation Buffer Note → List (Bytes × UdpEndpoint)
  | .began (.udpSend data endpoint _) => [(data, endpoint)]
  | _ => []

/-- What is to be sent for a packet that has been resolved. -/
def dispatchOf (env : Env) (answer : UdpDispatchRequest × Option (List UdpEndpoint)) :
    Option (Bytes × UdpEndpoint) :=
  (answer.2.bind (chooseEndpoint env.config.tcp.preferIpv4 (·.address.isV4))).map
    (fun endpoint => (answer.1.payload, endpoint))

/-- What an event reads from the tunnel. -/
def Event.bytesRead : Event → Bytes
  | inRead (some data) _ => data
  | _ => []

/-- Nothing goes wrong in a UDP relay. -/
def Event.succeeds : Event → Bool
  | inRead data _ => data.isSome
  | udpResolve _ results openError => results.any (· ≠ []) && !openError
  | udpSend _ _ _ error | inWrite _ error => !error
  | udpReceive received => received.isSome
  | _ => true

/-- The events that move a packet on. -/
def Event.isMove : Event → Bool
  | udpResolve _ _ _ | udpSend _ _ _ _ => true
  | _ => false

/-- The handshake payload that an event brings a session: a read from the
client is one, and a read from the trusted front is one if it completes the
envelope. -/
def Event.payload (env : Env) (s : ServerSession) : Event → Option Bytes
  | inRead (some data) _ => some data
  | trustedFrontRead (some data) _ =>
    let result := TrustedFrontIngressParser.parse env.readJson
      (s.trustedFrontBootstrapBuffer ++ data)
    if result.isParsed then some result.downstreamPayload else none
  | _ => none

/-- **`udp_sent` makes the next move of a reader of frames.** -/
theorem udpSent_eq (env : Env) {s : ServerSession} (hs : s.status = .udpForward) :
    s.udpSent env = match udpFrameCode.next maxLength s.udpDataBuf with
      | .deliver packet rest =>
        { s with udpDataBuf := rest }.resolveUdpTarget
          { payload := packet.payload
            packetLength := packet.length
            queryAddr := packet.address.address
            queryPort := packet.address.port }
      | .wait => s.inAsyncRead
      | .overflow => s.destroy env := by
  unfold udpSent tryParseUdpPacket
  rw [if_pos hs, udpFrameCode_next]
  rcases ({} : UDPPacket).parse s.udpDataBuf with ⟨packet, _ | n⟩
  · dsimp only
    by_cases hlong : s.udpDataBuf.length > maxLength
    · simp only [if_pos hlong]
    · simp only [if_neg hlong]
  · rfl

/-- **What a session is doing with the stream** of the frames `fs`, of which it
has still to read `unread`: it waits for a read, or it has taken a frame off
its buffer and resolves its destination, or sends its payload. The number
bounds the moves it can make before it must read. -/
inductive Stage (fs : List UdpFrame) (s : ServerSession) (unread : Bytes) : ℕ → Prop where
  | reading (done : List UdpFrame) (hat : udpFrameCode.At fs done s.udpDataBuf unread)
      (hdecode : udpFrameCode.decode s.udpDataBuf = none) (hop : .inRead ∈ s.pending)
      (hreq : collect requested s.history = done.map requestOf)
      (hans : (collect answered s.history).map Prod.fst = done.map requestOf) :
      Stage fs s unread 0
  | resolving (done : List UdpFrame) (f : UdpFrame)
      (hat : udpFrameCode.At fs (done ++ [f]) s.udpDataBuf unread)
      (hop : .udpResolve (requestOf f) ∈ s.pending)
      (hreq : collect requested s.history = (done ++ [f]).map requestOf)
      (hans : (collect answered s.history).map Prod.fst = done.map requestOf) :
      Stage fs s unread (2 * (fs.length - done.length))
  | sending (done : List UdpFrame) (hat : udpFrameCode.At fs done s.udpDataBuf unread)
      (data : Bytes) (endpoint : UdpEndpoint) (accounted : ℕ)
      (hop : .udpSend data endpoint accounted ∈ s.pending)
      (hreq : collect requested s.history = done.map requestOf)
      (hans : (collect answered s.history).map Prod.fst = done.map requestOf) :
      Stage fs s unread (2 * (fs.length - done.length) + 1)

/-- **A session takes the next frame off its buffer**, or reads on. -/
theorem Stage.udpSent {fs done : List UdpFrame} {s : ServerSession} {unread : Bytes}
    (hlimit : ∀ f ∈ fs, f.bytes.length ≤ maxLength + 1) (hs : s.status = .udpForward)
    (hat : udpFrameCode.At fs done s.udpDataBuf unread)
    (hreq : collect requested s.history = done.map requestOf)
    (hans : (collect answered s.history).map Prod.fst = done.map requestOf) (env : Env) :
    (s.udpSent env).status = .udpForward
      ∧ (∃ left, left ≤ 2 * (fs.length - done.length) ∧ Stage fs (s.udpSent env) unread left)
      ∧ collect answered (s.udpSent env).history = collect answered s.history
      ∧ collect dispatched (s.udpSent env).history = collect dispatched s.history := by
  rw [udpSent_eq env hs]
  rcases hat.next hlimit with ⟨f, rest, hnext, hat'⟩ | ⟨hnext, hdecode⟩
  · rw [hnext]
    refine ⟨hs, ⟨_, Nat.le_refl _, .resolving done f hat' List.mem_cons_self ?_ ?_⟩,
      List.append_nil _, List.append_nil _⟩
    · show collect requested s.history ++ _ = _
      rw [hreq, List.map_append]
      rfl
    · show (collect answered s.history ++ []).map Prod.fst = _
      rw [List.append_nil, hans]
  · rw [hnext]
    refine ⟨hs, ⟨0, Nat.zero_le _, .reading done hat hdecode List.mem_cons_self ?_ ?_⟩,
      List.append_nil _, List.append_nil _⟩
    · show collect requested s.history ++ [] = _
      rw [List.append_nil, hreq]
    · show (collect answered s.history ++ []).map Prod.fst = _
      rw [List.append_nil, hans]

/-- The marks that have nothing to do with the upward direction. -/
def isDownward : Mark Operation Buffer Note → Bool
  | .began op | .ended op => !op.isUp
  | .noted (.handled _ (.udpResolve _ _ _)) => false
  | _ => true

/-- Marks that a session's readings do not see add nothing to them. -/
theorem readings_append (new h : History)
    (hnew : ∀ m ∈ new, requested m = [] ∧ answered m = [] ∧ dispatched m = []) :
    collect requested (new ++ h) = collect requested h
      ∧ collect answered (new ++ h) = collect answered h
      ∧ collect dispatched (new ++ h) = collect dispatched h :=
  ⟨collect_append_of_silent (fun m hm => (hnew m hm).1),
    collect_append_of_silent (fun m hm => (hnew m hm).2.1),
    collect_append_of_silent (fun m hm => (hnew m hm).2.2)⟩

/-- The readings of the upward direction do not see such marks. -/
theorem readings_of_isDownward {m : Mark Operation Buffer Note} (h : isDownward m = true) :
    requested m = [] ∧ answered m = [] ∧ dispatched m = [] := by
  refine ⟨?_, ?_, ?_⟩
  · unfold requested
    split
    · exact absurd h (by simp [isDownward, Operation.isUp])
    · rfl
  · unfold answered
    split
    · exact absurd h (by simp [isDownward])
    · rfl
  · unfold dispatched
    split
    · exact absurd h (by simp [isDownward, Operation.isUp])
    · rfl

/-- **A UDP relay of the stream of the frames `fs`**, of which it has still to
read `unread`, with at most `left` moves before it must. -/
structure Relays (env : Env) (fs : List UdpFrame) (s : ServerSession) (unread : Bytes)
    (left : ℕ) : Prop where
  status : s.status = .udpForward
  stage : Stage fs s unread left
  sent : (collect dispatched s.history).map some = (collect answered s.history).map (dispatchOf env)

namespace Relays

variable {env : Env} {fs : List UdpFrame} {s : ServerSession} {unread : Bytes} {left : ℕ}

/-- What happens downwards does not matter upwards. -/
theorem downward (h : Relays env fs s unread left) {t : ServerSession} (new : History)
    (hhist : t.history = new ++ s.history) (hnew : ∀ m ∈ new, isDownward m = true)
    (hbuf : t.udpDataBuf = s.udpDataBuf) (hs : t.status = s.status) :
    Relays env fs t unread left := by
  obtain ⟨hreq, hans, hsent⟩ :=
    readings_append new s.history (fun m hm => readings_of_isDownward (hnew m hm))
  rw [← hhist] at hreq hans hsent
  have hmem {op : Operation} (hup : op.isUp = true) (hop : op ∈ s.pending) : op ∈ t.pending := by
    rw [pending, hhist]
    refine (mem_inFlight_append (fun m hm => ⟨?_, ?_⟩)).mpr hop <;>
    · rintro rfl
      exact absurd (hnew _ hm) (by simp [isDownward, hup])
  refine ⟨hs.trans h.status, ?_, by rw [hans, hsent]; exact h.sent⟩
  cases h.stage with
  | reading done hat hdecode hop hr ha =>
    exact .reading done (hbuf ▸ hat) (hbuf ▸ hdecode) (hmem rfl hop) (hreq.trans hr)
      (by rw [hans, ha])
  | resolving done f hat hop hr ha =>
    exact .resolving done f (hbuf ▸ hat) (hmem rfl hop) (hreq.trans hr) (by rw [hans, ha])
  | sending done hat data endpoint accounted hop hr ha =>
    exact .sending done (hbuf ▸ hat) data endpoint accounted (hmem rfl hop) (hreq.trans hr)
      (by rw [hans, ha])

/-- **The session goes on with its buffer.** -/
theorem udpSent (done : List UdpFrame) (hlimit : ∀ f ∈ fs, f.bytes.length ≤ maxLength + 1)
    (hs : s.status = .udpForward) (hat : udpFrameCode.At fs done s.udpDataBuf unread)
    (hreq : collect requested s.history = done.map requestOf)
    (hans : (collect answered s.history).map Prod.fst = done.map requestOf)
    (hsent : (collect dispatched s.history).map some
      = (collect answered s.history).map (dispatchOf env)) :
    ∃ left, left ≤ 2 * (fs.length - done.length) ∧ Relays env fs (s.udpSent env) unread left := by
  obtain ⟨hs', ⟨left, hle, hstage⟩, ha, hd⟩ := Stage.udpSent hlimit hs hat hreq hans env
  exact ⟨left, hle, hs', hstage, by rw [ha, hd, hsent]⟩

/-- **A resolved packet is sent.** -/
theorem udpResolved {done : List UdpFrame} {f : UdpFrame} {results : Option (List UdpEndpoint)}
    (hs : s.status = .udpForward) (hat : udpFrameCode.At fs (done ++ [f]) s.udpDataBuf unread)
    (hreq : collect requested s.history = (done ++ [f]).map requestOf)
    (hans : (collect answered s.history).map Prod.fst = (done ++ [f]).map requestOf)
    {endpoint : UdpEndpoint}
    (hchoose : results.bind (chooseEndpoint env.config.tcp.preferIpv4 (·.address.isV4))
      = some endpoint)
    (hsent : (collect dispatched s.history).map some ++ [some (f.payload, endpoint)]
      = (collect answered s.history).map (dispatchOf env)) :
    Relays env fs (s.udpResolved env (requestOf f) results false) unread
      (2 * (fs.length - (done ++ [f]).length) + 1) := by
  unfold ServerSession.udpResolved
  rw [hchoose]
  show Relays env fs (s.dispatchUdpPayload env f.payload f.payload.length endpoint false) unread _
  have hensure : ∃ new open', s.ensureUdpSocketOpen env false
      = { s with udpSocketOpen := open', history := new ++ s.history }
        ∧ open' = true ∧ ∀ m ∈ new, isDownward m = true := by
    unfold ensureUdpSocketOpen
    split
    · rename_i hopen
      exact ⟨[], s.udpSocketOpen, rfl, hopen, by simp⟩
    · exact ⟨[_, _], true, rfl, rfl, by simp [isDownward, Operation.isUp]⟩
  obtain ⟨new, open', heq, hopen, hnew⟩ := hensure
  obtain ⟨hr, ha, hd⟩ :=
    readings_append new s.history (fun m hm => readings_of_isDownward (hnew m hm))
  unfold dispatchUdpPayload
  rw [heq]
  dsimp only
  rw [hopen, if_neg (by simp)]
  refine ⟨hs, .sending (done ++ [f]) hat f.payload endpoint f.payload.length List.mem_cons_self
    ?_ ?_, ?_⟩
  · show collect requested (new ++ s.history) ++ [] ++ [] = _
    rw [List.append_nil, List.append_nil, hr, hreq]
  · show (collect answered (new ++ s.history) ++ [] ++ []).map Prod.fst = _
    rw [List.append_nil, List.append_nil, ha, hans]
  · show (collect dispatched (new ++ s.history) ++ [] ++ [(f.payload, endpoint)]).map some
      = (collect answered (new ++ s.history) ++ [] ++ []).map (dispatchOf env)
    rw [List.append_nil, List.append_nil, List.append_nil, ha, hd, ← hsent, List.map_append]
    rfl

/-- The chosen endpoint of a resolve that succeeds. -/
theorem exists_endpoint {request : UdpDispatchRequest} {results : Option (List UdpEndpoint)}
    {openError : Bool} (hok : (Event.udpResolve request results openError).succeeds = true)
    (preferIpv4 : Bool) :
    openError = false ∧ ∃ endpoint,
      results.bind (chooseEndpoint preferIpv4 (·.address.isV4)) = some endpoint := by
  obtain ⟨hresults, hopen⟩ := (Bool.and_eq_true _ _).mp hok
  refine ⟨by simpa using hopen, ?_⟩
  obtain ⟨l, rfl, hl⟩ := Option.any_eq_true _ _ |>.mp hresults
  refine Option.ne_none_iff_exists'.mp (fun hnone => ?_)
  exact of_decide_eq_true hl (chooseEndpoint_eq_none.mp hnone)

/-- **A read goes to the end of the buffer**, and the session goes on. -/
theorem inRecv (done : List UdpFrame) {data : Bytes}
    (hlimit : ∀ f ∈ fs, f.bytes.length ≤ maxLength + 1) (hs : s.status = .udpForward)
    (hbuf : (growAfterRead s.inReadBuf data.length).take data.length = data)
    (hat : udpFrameCode.At fs done s.udpDataBuf (data ++ unread))
    (hreq : collect requested s.history = done.map requestOf)
    (hans : (collect answered s.history).map Prod.fst = done.map requestOf)
    (hsent : (collect dispatched s.history).map some
      = (collect answered s.history).map (dispatchOf env)) (granted : Bool) :
    ∃ left, Relays env fs (s.inRecv env data.length granted) unread left := by
  obtain ⟨hr, ha, hd⟩ := readings_append [.modified .inReadBuf] s.history
    (by simp [requested, answered, dispatched])
  rw [inRecv_of_udpForward env hs hbuf]
  obtain ⟨left, -, hrel⟩ := udpSent done hlimit
    (s := { s.growInReadBuf data.length with udpDataBuf := s.udpDataBuf ++ data }) hs hat.read
    (hr.trans hreq) ((congrArg _ ha).trans hans)
    ((congrArg _ hd).trans (hsent.trans (congrArg _ ha.symm)))
  exact ⟨left, hrel⟩

/-- **A step that goes well**: the bytes it reads are taken off what is
unread, and a packet that moves on brings the next read nearer. -/
theorem step {t : ServerSession} {e : Event}
    (hlimit : ∀ f ∈ fs, f.bytes.length ≤ maxLength + 1) (hp : Pump s)
    (h : Relays env fs s (e.bytesRead ++ unread) left) (hok : e.succeeds = true)
    (hstep : ServerSession.step env s e = some t) :
    ∃ left', Relays env fs t unread left' ∧ (e.isMove = true → left' < left) := by
  obtain ⟨op, he, hop, -, rfl⟩ := exists_operation_of_step hp.started hstep
  have hallow := hp.owes.allowed op hop
  rw [h.status] at hallow
  have hunique {op' : Operation} (hup : op.isUp = true) (hop' : op' ∈ s.pending)
      (hup' : op'.isUp = true) : op = op' := hp.owes.eq_of_isUp hop hop' hup hup'
  cases e with
  | inRead data granted =>
    obtain rfl := Option.some.inj he
    obtain ⟨data, rfl⟩ := Option.isSome_iff_exists.mp hok
    cases h.stage with
    | resolving done f hat hop' hr ha => exact absurd (hunique rfl hop' rfl) (by simp)
    | sending done hat d endpoint n hop' hr ha => exact absurd (hunique rfl hop' rfl) (by simp)
    | reading done hat hdecode hop' hr ha =>
      obtain ⟨hr', ha', hd'⟩ := readings_append
        [.ended .inRead, .noted (.handled s.status (.inRead (some data) granted))] s.history
        (by simp [requested, answered, dispatched])
      obtain ⟨left', hrel⟩ := inRecv done
        (s := { s.receives (.inRead (some data) granted) with
          inReadBuf := fillBuffer s.inReadBuf data }) hlimit h.status
        (take_growAfterRead s.inReadBuf data) hat (hr'.trans hr) ((congrArg _ ha').trans ha)
        ((congrArg _ hd').trans (h.sent.trans (congrArg _ ha'.symm))) granted
      exact ⟨left', hrel, fun hmove => absurd hmove (by simp [Event.isMove])⟩
  | udpResolve request results openError =>
    obtain rfl := Option.some.inj he
    obtain ⟨rfl, endpoint, hchoose⟩ := exists_endpoint hok env.config.tcp.preferIpv4
    cases h.stage with
    | reading done hat hdecode hop' hr ha => exact absurd (hunique rfl hop' rfl) (by simp)
    | sending done hat d endpoint n hop' hr ha => exact absurd (hunique rfl hop' rfl) (by simp)
    | resolving done f hat hop' hr ha =>
      obtain rfl : request = requestOf f := by simpa using hunique rfl hop' rfl
      refine ⟨_, udpResolved h.status hat ?_ ?_ hchoose ?_, fun _ => ?_⟩
      · show collect requested s.history ++ [] ++ [] = _
        rw [List.append_nil, List.append_nil, hr]
      · show (collect answered s.history ++ [(requestOf f, results)] ++ []).map Prod.fst = _
        rw [List.append_nil, List.map_append, ha, List.map_append]
        rfl
      · show (collect dispatched s.history ++ [] ++ []).map some ++ _
          = (collect answered s.history ++ [(requestOf f, results)] ++ []).map (dispatchOf env)
        rw [List.append_nil, List.append_nil, List.append_nil, List.map_append, h.sent]
        refine congrArg _ ?_
        show [_] = [dispatchOf env (requestOf f, results)]
        rw [dispatchOf, hchoose]
        rfl
      · have hlength := hat.done_le.length_le
        rw [List.length_append, List.length_singleton] at hlength ⊢
        omega
  | udpSend data endpoint accounted error =>
    obtain rfl := Option.some.inj he
    obtain rfl : error = false := by simpa [Event.succeeds] using hok
    cases h.stage with
    | reading done hat hdecode hop' hr ha => exact absurd (hunique rfl hop' rfl) (by simp)
    | resolving done f hat hop' hr ha => exact absurd (hunique rfl hop' rfl) (by simp)
    | sending done hat d ep n hop' hr ha =>
      obtain ⟨hr', ha', hd'⟩ := readings_append
        [.ended (.udpSend data endpoint accounted),
          .noted (.handled s.status (.udpSend data endpoint accounted false))] s.history
        (by simp [requested, answered, dispatched])
      have hgoes (sentLen : ℕ) : ∃ left' ≤ 2 * (fs.length - done.length), Relays env fs
          (ServerSession.udpSent env
            { s.receives (.udpSend data endpoint accounted false) with sentLen := sentLen })
          unread left' :=
        udpSent done hlimit h.status hat (hr'.trans hr) ((congrArg _ ha').trans ha)
          ((congrArg _ hd').trans (h.sent.trans (congrArg _ ha'.symm)))
      show ∃ left', Relays env fs (if accounted > 0 then _ else _) unread left' ∧ _
      split
      · obtain ⟨left', hle, hrel⟩ := hgoes (s.sentLen + accounted)
        exact ⟨left', hrel, fun _ => Nat.lt_succ_of_le hle⟩
      · obtain ⟨left', hle, hrel⟩ := hgoes s.sentLen
        exact ⟨left', hrel, fun _ => Nat.lt_succ_of_le hle⟩
  | inWrite data error =>
    obtain rfl := Option.some.inj he
    obtain rfl : error = false := by simpa [Event.succeeds] using hok
    refine ⟨left, ?_, fun hmove => absurd hmove (by simp [Event.isMove])⟩
    show Relays env fs (inSent _) unread left
    unfold inSent
    split
    · exact h.downward [_, _, _] rfl (by simp [isDownward, Operation.isUp]) rfl rfl
    · exact h.downward [_, _, _] rfl (by simp [isDownward, Operation.isUp]) rfl rfl
    · exact h.downward [_, _] rfl (by simp [isDownward, Operation.isUp]) rfl rfl
  | udpReceive received =>
    obtain rfl := Option.some.inj he
    obtain ⟨⟨data, endpoint⟩, rfl⟩ := Option.isSome_iff_exists.mp hok
    refine ⟨left, ?_, fun hmove => absurd hmove (by simp [Event.isMove])⟩
    show Relays env fs (udpRecv _ data.length endpoint) unread left
    unfold udpRecv
    dsimp only
    split
    · exact h.downward [_, _, _, _, _] rfl (by simp [isDownward, Operation.isUp]) rfl rfl
    · exact h.downward [_, _, _] rfl (by simp [isDownward, Operation.isUp]) rfl rfl
  | start remoteEndpoint => exact absurd he (by simp [Event.operation])
  | _ =>
    obtain rfl := Option.some.inj he
    exact absurd hallow (by simp [Status.allows])

/-- **A run that goes well.** -/
theorem run {t : ServerSession} {es : List Event}
    (hlimit : ∀ f ∈ fs, f.bytes.length ≤ maxLength + 1) (hp : Pump s)
    (h : Relays env fs s (es.flatMap Event.bytesRead ++ unread) left)
    (hok : ∀ e ∈ es, e.succeeds = true)
    (hrun : Machine.run (ServerSession.step env) s es = some t) :
    Pump t ∧ ∃ left', Relays env fs t unread left' := by
  induction es generalizing s left with
  | nil =>
    obtain rfl := Option.some.inj hrun
    exact ⟨hp, left, h⟩
  | cons e es ih =>
    obtain ⟨u, hu, hrest⟩ := Machine.run_cons.mp hrun
    rw [List.flatMap_cons, List.append_assoc] at h
    obtain ⟨left', hrel, -⟩ := h.step hlimit hp (hok e List.mem_cons_self) hu
    exact ih (hp.step hu) hrel (fun e he => hok e (List.mem_cons_of_mem _ he)) hrest

/-- **A session gets back to its reading**: as long as it does not read, the
packets that are there are sent one after the other. -/
theorem exists_run_reading (hlimit : ∀ f ∈ fs, f.bytes.length ≤ maxLength + 1) (hp : Pump s)
    (h : Relays env fs s unread left) :
    ∃ es t, (∀ e ∈ es, e.isMove = true ∧ e.succeeds = true)
      ∧ Machine.run (ServerSession.step env) s es = some t ∧ .inRead ∈ t.pending := by
  induction left using Nat.strong_induction_on generalizing s with
  | _ left ih =>
    have hmoves {e : Event} {op : Operation} (he : e.operation = some op) (hop : op ∈ s.pending)
        (hmove : e.isMove = true) (hok : e.succeeds = true) (hfits : e.fits s = true)
        (hread : e.bytesRead = []) :
        ∃ es t, (∀ e ∈ es, e.isMove = true ∧ e.succeeds = true)
          ∧ Machine.run (ServerSession.step env) s es = some t ∧ .inRead ∈ t.pending := by
      have hstep : ServerSession.step env s e = some ((s.receives e).handle env e) :=
        if_pos ((accepts_iff he).mpr ⟨hop, hfits⟩)
      have hnone : Relays env fs s (e.bytesRead ++ unread) left := by
        rw [hread]
        exact h
      obtain ⟨left', hrel, hless⟩ := hnone.step hlimit hp hok hstep
      obtain ⟨es, t, hes, hrun, hin⟩ := ih left' (hless hmove) (hp.step hstep) hrel
      refine ⟨e :: es, t, fun e' he' => ?_, Machine.run_cons.mpr ⟨_, hstep, hrun⟩, hin⟩
      rcases List.mem_cons.mp he' with rfl | he'
      · exact ⟨hmove, hok⟩
      · exact hes e' he'
    cases h.stage with
    | reading done hat hdecode hop hr ha => exact ⟨[], s, by simp, rfl, hop⟩
    | resolving done f hat hop hr ha =>
      exact hmoves (e := .udpResolve (requestOf f) (some [⟨.v4 (Vector.replicate 4 0), 0⟩]) false)
        rfl hop rfl (by simp [Event.succeeds]) rfl rfl
    | sending done hat data endpoint accounted hop hr ha =>
      exact hmoves (e := .udpSend data endpoint accounted false) rfl hop rfl rfl rfl rfl

end Relays

/-- A TCP relay, and a session that is not a relay yet, has nothing to do with
packets. -/
theorem TcpOnly.readings {s : ServerSession} (h : TcpOnly s) :
    collect requested s.history = [] ∧ collect answered s.history = []
      ∧ collect dispatched s.history = [] := by
  have hnone := readings_append s.history [] (fun m hm => ?_)
  · rw [List.append_nil] at hnone
    exact hnone
  · have htcp := h m hm
    refine ⟨?_, ?_, ?_⟩
    · unfold requested
      split
      · exact absurd htcp (by simp [isTcp])
      · rfl
    · unfold answered
      split
      · rename_i status _ _ _
        cases status <;> exact absurd htcp (by simp [isTcp])
      · rfl
    · unfold dispatched
      split
      · exact absurd htcp (by simp [isTcp])
      · rfl

/-- **The payload of a UDP request starts a UDP relay**, with what follows the
request in its buffer. -/
theorem handleHandshakePayload_udp {env : Env} {s : ServerSession} {data : Bytes}
    {request : TrojanRequest} {n : ℕ} (hparse : ({} : TrojanRequest).parse data = (request, some n))
    (hauth : (SessionGate.authenticate env.config env.auth data).authenticated = true)
    (hcommand : request.command = some .udpAssociate) (granted : Bool) :
    ∃ decision, s.handleHandshakePayload env data granted
      = { (s.notes (.handshakePayload data)).applyAuthResult decision with
          outWriteBuf := request.payload
          status := .udpForward
          udpDataBuf := request.payload }.udpSent env := by
  obtain ⟨context, hgate⟩ := exists_gateResult env (s.notes (.handshakePayload data)) data
  have hrequest : (SessionGate.authenticate env.config env.auth data).request = request := by
    rw [(SessionGate.authenticate_request env.config env.auth data).1, hparse]
  have hplan : (buildExecutionPlan (SessionGate.evaluate env.config env.auth
        ⟨context, data⟩)).mode = .startUdpForward
      ∧ (buildExecutionPlan (SessionGate.evaluate env.config env.auth
        ⟨context, data⟩)).initialOutboundPayload = request.payload := by
    rw [SessionGate.evaluate_of_authenticated env.config env.auth hauth, hrequest, if_pos hcommand]
    exact ⟨rfl, rfl⟩
  refine ⟨SessionGate.evaluate env.config env.auth ⟨context, data⟩, ?_⟩
  unfold handleHandshakePayload
  dsimp only
  rw [hgate]
  dsimp only
  unfold executePlan
  rw [hplan.1]
  dsimp only
  unfold startUdpForward
  rw [hplan.2]

/-- **The relay begins**, with the payload behind the request as its first
piece. -/
theorem Relays.begins {env : Env} {fs : List UdpFrame} {s : ServerSession} {data unread : Bytes}
    {request : TrojanRequest} {n : ℕ} (hlimit : ∀ f ∈ fs, f.bytes.length ≤ maxLength + 1)
    (htcp : TcpOnly s) (hparse : ({} : TrojanRequest).parse data = (request, some n))
    (hauth : (SessionGate.authenticate env.config env.auth data).authenticated = true)
    (hcommand : request.command = some .udpAssociate)
    (hall : request.payload ++ unread = udpFrameCode.stream fs) (granted : Bool) :
    ∃ left, Relays env fs (s.handleHandshakePayload env data granted) unread left := by
  obtain ⟨decision, heq⟩ := handleHandshakePayload_udp hparse hauth hcommand granted
  have hlook : TcpOnly (s.notes (.handshakePayload data)) := htcp.marks [_] rfl (by simp [isTcp])
  obtain ⟨hr, ha, hd⟩ := (hlook.applyAuthResult decision).readings
  rw [heq]
  generalize (s.notes (.handshakePayload data)).applyAuthResult decision = u at hr ha hd ⊢
  obtain ⟨left, -, hrel⟩ := Relays.udpSent []
    (s := { u with
        outWriteBuf := request.payload, status := .udpForward, udpDataBuf := request.payload })
    hlimit rfl (.start hall) hr (congrArg _ ha)
    ((congrArg _ hd).trans (congrArg (List.map (dispatchOf env)) ha).symm)
  exact ⟨left, hrel⟩

/-- **A session enters the relay** by the event that brings it a UDP
request. -/
theorem Relays.enters {env : Env} {fs : List UdpFrame} {s t : ServerSession} {e : Event}
    {data unread : Bytes} {request : TrojanRequest} {n : ℕ}
    (hlimit : ∀ f ∈ fs, f.bytes.length ≤ maxLength + 1) (hord : Orderly env s)
    (hs : s.status = .handshake) (hpayload : e.payload env s = some data)
    (hparse : ({} : TrojanRequest).parse data = (request, some n))
    (hauth : (SessionGate.authenticate env.config env.auth data).authenticated = true)
    (hcommand : request.command = some .udpAssociate)
    (hall : request.payload ++ unread = udpFrameCode.stream fs)
    (hstep : ServerSession.step env s e = some t) : ∃ left, Relays env fs t unread left := by
  obtain ⟨op, he, hop, -, rfl⟩ := exists_operation_of_step hord.pump.started hstep
  have htcp (hhttp : op ≠ .plainHttpWrite) : TcpOnly s := by
    rcases hord.tcp (.inl hs) with h | h
    · exact absurd (hord.pump.eq_plainHttpWrite hs h hop) hhttp
    · exact h
  cases e with
  | inRead received granted =>
    obtain rfl := Option.some.inj he
    cases received with
    | none => exact absurd hpayload (by simp [Event.payload])
    | some received =>
      obtain rfl : received = data := by simpa [Event.payload] using hpayload
      have hrecv {u : ServerSession} (hu : u.status = .handshake) (hutcp : TcpOnly u)
          (hbuf : (growAfterRead u.inReadBuf received.length).take received.length = received) :
          ∃ left, Relays env fs (u.inRecv env received.length granted) unread left := by
        rw [inRecv_of_handshake env hu hbuf]
        exact Relays.begins hlimit (hutcp.marks [_] rfl (by simp [isTcp])) hparse hauth hcommand
          hall granted
      refine hrecv hs ?_ (take_growAfterRead s.inReadBuf received)
      exact (htcp (by simp)).marks [_, _] rfl (by simp [isTcp, hs])
  | trustedFrontRead received granted =>
    obtain rfl := Option.some.inj he
    cases received with
    | none => exact absurd hpayload (by simp [Event.payload])
    | some received =>
      have hrec : TcpOnly (s.receives (.trustedFrontRead (some received) granted)) :=
        (htcp (by simp)).marks [_, _] rfl (by simp [isTcp, hs])
      have hbuf : (fillBuffer s.inReadBuf received).take received.length = received :=
        List.take_left
      show ∃ left, Relays env fs (trustedFrontRecv env _ received.length granted) unread left
      unfold trustedFrontRecv
      dsimp only
      have hbuffer : (s.receives (.trustedFrontRead (some received)
          granted)).trustedFrontBootstrapBuffer
          ++ (fillBuffer (s.receives (.trustedFrontRead (some received) granted)).inReadBuf
            received).take received.length = s.trustedFrontBootstrapBuffer ++ received := by
        show s.trustedFrontBootstrapBuffer
          ++ (fillBuffer s.inReadBuf received).take received.length = _
        rw [hbuf]
      rw [hbuffer]
      simp only [Event.payload, Option.ite_none_right_eq_some, Option.some.injEq] at hpayload
      obtain ⟨hparsed, rfl⟩ := hpayload
      rw [if_pos hparsed]
      refine Relays.begins hlimit ?_ hparse hauth hcommand hall granted
      exact hrec
  | _ => exact absurd hpayload (by simp [Event.payload])

/-- **A session has dispatched the packets of the frames `fs`**, in order and
each once: it has resolved the address and port of each, and sent its payload
to the endpoint that was chosen from the results. -/
structure Dispatched (env : Env) (fs : List UdpFrame) (s : ServerSession) : Prop where
  resolved : (collect answered s.history).map Prod.fst = fs.map requestOf
  sent : (collect dispatched s.history).map some = (collect answered s.history).map (dispatchOf env)
  payloads : (collect dispatched s.history).map Prod.fst = fs.map UdpFrame.payload

/-- What is sent for resolved packets are their payloads. -/
theorem map_fst_of_dispatchOf {env : Env} {sent : List (Bytes × UdpEndpoint)}
    {answers : List (UdpDispatchRequest × Option (List UdpEndpoint))}
    (h : sent.map some = answers.map (dispatchOf env)) :
    sent.map Prod.fst = (answers.map Prod.fst).map UdpDispatchRequest.payload := by
  induction answers generalizing sent with
  | nil => rw [List.map_eq_nil_iff.mp h]; rfl
  | cons answer answers ih =>
    cases sent with
    | nil => exact absurd h (by simp)
    | cons d sent =>
      obtain ⟨hd, hrest⟩ := List.cons.inj h
      obtain ⟨endpoint, -, hpair⟩ := Option.map_eq_some_iff.mp hd.symm
      rw [List.map_cons, ih hrest, ← hpair]
      rfl

/-- Where a relay is in the stream, it has dispatched the frames before. -/
theorem Relays.exists_dispatched {env : Env} {fs : List UdpFrame} {s : ServerSession}
    {unread : Bytes} {left : ℕ} (h : Relays env fs s unread left) :
    collect requested s.history <+: fs.map requestOf
      ∧ ∃ done, done <+: fs ∧ Dispatched env done s := by
  have hdispatched {done : List UdpFrame}
      (ha : (collect answered s.history).map Prod.fst = done.map requestOf) :
      Dispatched env done s :=
    ⟨ha, h.sent, by rw [map_fst_of_dispatchOf h.sent, ha, List.map_map]; rfl⟩
  cases h.stage with
  | reading done hat hdecode hop hr ha =>
    exact ⟨hr ▸ hat.done_le.map requestOf, done, hat.done_le, hdispatched ha⟩
  | resolving done f hat hop hr ha =>
    exact ⟨hr ▸ hat.done_le.map requestOf, done, (List.prefix_append _ _).trans hat.done_le,
      hdispatched ha⟩
  | sending done hat data endpoint accounted hop hr ha =>
    exact ⟨hr ▸ hat.done_le.map requestOf, done, hat.done_le, hdispatched ha⟩

/-- **A relay that reads on at the end of the stream** has dispatched
everything, and holds nothing. -/
theorem Relays.finished {env : Env} {fs : List UdpFrame} {s : ServerSession} {left : ℕ}
    (hp : Pump s) (h : Relays env fs s [] left) (hread : .inRead ∈ s.pending) :
    collect requested s.history = fs.map requestOf ∧ Dispatched env fs s ∧ s.udpDataBuf = [] := by
  cases h.stage with
  | reading done hat hdecode hop hr ha =>
    obtain ⟨rfl, hbuf⟩ := hat.finished hdecode
    refine ⟨hr, ⟨ha, h.sent, ?_⟩, hbuf⟩
    rw [map_fst_of_dispatchOf h.sent, ha, List.map_map]
    rfl
  | resolving done f hat hop hr ha =>
    exact absurd (hp.owes.eq_of_isUp hop hread rfl rfl) (by simp)
  | sending done hat data endpoint accounted hop hr ha =>
    exact absurd (hp.owes.eq_of_isUp hop hread rfl rfl) (by simp)

end ServerSession

open Flight in
/-- **Taking UDP frames off the tunnel.** Let `fs` be frames of at most
`MAX_LENGTH` bytes each.

A server session that is brought a UDP request, in a run from its start, gets
the stream of `fs` in pieces: the first is what follows the request, and the
others are its reads from then on. Whatever the pieces, and whatever else goes
on, as long as nothing fails: the session stays in `UDP_FORWARD`, it resolves
and sends the packets of `fs` in order, and from every state it gets back to
its reading by sending what is there. When it reads on with the stream at its
end, it has dispatched every packet, and `udp_data_buf` is empty.

A UDP forward session gets the stream through its tunnel. As long as nothing
fails it is not destroyed, it has handed the payloads of the complete frames to
the service in order, and it reads on; at the end of the stream it has handed
over every payload, and `udp_data_buf` is empty. -/
theorem udp_dechunked {fs : List UdpFrame} (hframes : ∀ f ∈ fs, f.bytes.length ≤ maxLength) :
    (∀ (env : ServerSession.Env) (mode : ServerSession.BootstrapMode)
        (handoff : Option ExternalFrontHandoff) (remoteEndpoint : Option TcpEndpoint)
        (before : List ServerSession.Event) (s : ServerSession) (e : ServerSession.Event)
        (t : ServerSession) (data : Bytes) (request : TrojanRequest) (n : ℕ)
        (es : List ServerSession.Event) (u : ServerSession),
      Machine.run (ServerSession.step env) (ServerSession.create mode handoff)
        (.start remoteEndpoint :: before) = some s →
      s.status = .handshake → ServerSession.step env s e = some t →
      e.payload env s = some data → ({} : TrojanRequest).parse data = (request, some n) →
      (SessionGate.authenticate env.config env.auth data).authenticated = true →
      request.command = some .udpAssociate →
      Machine.run (ServerSession.step env) t es = some u → (∀ e ∈ es, e.succeeds = true) →
      request.payload ++ es.flatMap ServerSession.Event.bytesRead <+: udpFrameCode.stream fs →
      u.status = .udpForward
        ∧ collect ServerSession.requested u.history <+: fs.map ServerSession.requestOf
        ∧ (∃ done, done <+: fs ∧ ServerSession.Dispatched env done u)
        ∧ (∃ moves v, (∀ e ∈ moves, e.isMove = true ∧ e.succeeds = true)
          ∧ Machine.run (ServerSession.step env) u moves = some v ∧ .inRead ∈ v.pending)
        ∧ (request.payload ++ es.flatMap ServerSession.Event.bytesRead = udpFrameCode.stream fs →
          .inRead ∈ u.pending →
          collect ServerSession.requested u.history = fs.map ServerSession.requestOf
            ∧ ServerSession.Dispatched env fs u ∧ u.udpDataBuf = []))
    ∧ ∀ (config : Config) (peer : UdpEndpoint) (es : List UDPForwardSession.Event)
        (s : UDPForwardSession),
      Machine.run (UDPForwardSession.step config) (UDPForwardSession.create peer) es = some s →
      (∀ e ∈ es, e.succeeds = true) →
      es.flatMap UDPForwardSession.Event.bytesRead <+: udpFrameCode.stream fs →
      s.status ≠ .destroy
        ∧ collect UDPForwardSession.handed s.history
          <+: fs.map (fun f => (peer, f.payload))
        ∧ (s.status ≠ .connect → .outRead ∈ s.pending)
        ∧ (es.flatMap UDPForwardSession.Event.bytesRead = udpFrameCode.stream fs →
          collect UDPForwardSession.handed s.history = fs.map (fun f => (peer, f.payload))
            ∧ s.udpDataBuf = []) := by
  have hlimit : ∀ f ∈ fs, f.bytes.length ≤ maxLength + 1 :=
    fun f hf => Nat.le_succ_of_le (hframes f hf)
  refine ⟨?_, ?_⟩
  · intro env mode handoff remoteEndpoint before s e t data request n es u hreach hs hstep
      hpayload hparse hauth hcommand hrun hok hread
    have hord := ServerSession.orderly_run hreach
    obtain ⟨unread, hall⟩ := hread
    rw [List.append_assoc] at hall
    obtain ⟨left, hrel⟩ := ServerSession.Relays.enters hlimit hord hs hpayload hparse hauth
      hcommand hall hstep
    obtain ⟨hp, left', hrelu⟩ := hrel.run hlimit (hord.pump.step hstep) hok hrun
    obtain ⟨hreq, hdone⟩ := hrelu.exists_dispatched
    refine ⟨hrelu.status, hreq, hdone, hrelu.exists_run_reading hlimit hp, fun hend hin => ?_⟩
    have hnil : unread = [] := by
      rw [← hend, ← List.append_assoc] at hall
      exact List.append_right_eq_self.mp hall
    subst hnil
    exact hrelu.finished hp hin
  · intro config peer es s hrun hok hread
    obtain ⟨unread, hall⟩ := hread
    have hstart := UDPForwardSession.takes_create peer fs
    rw [← hall] at hstart
    have htakes := hstart.run hlimit hok hrun
    obtain ⟨-, done, hat, hdone⟩ := htakes.placed
    refine ⟨htakes.alive, ?_, htakes.reading.mp, fun hend => ?_⟩
    · rw [hdone]
      exact hat.done_le.map _
    · rw [← hend] at hall
      obtain rfl := List.append_right_eq_self.mp hall
      obtain ⟨rfl, hbuf⟩ := hat.finished htakes.incomplete
      exact ⟨hdone, hbuf⟩

/-- An endpoint on the local host. -/
def localEndpoint : UdpEndpoint := ⟨.v4 IpAddress.loopback, 53⟩

/-- Two frames for it, with payloads of one byte. -/
def localFrames : List UdpFrame :=
  [.ofEndpoint localEndpoint [7] (by decide), .ofEndpoint localEndpoint [8] (by decide)]

/-- A server with one password. -/
def localEnv : ServerSession.Env where
  config := { password := [([112], [112])] }
  readJson := fun _ => none

/-- A request for a UDP relay, with the first five bytes of the frames. -/
def localRequest : Bytes :=
  TrojanRequest.header [112] .udpAssociate (.v4 IpAddress.unspecified) 0
    ++ (udpFrameCode.stream localFrames).take 5

/-- The rest of the frames is read at once, and both packets are sent. -/
def localEvents : List ServerSession.Event :=
  [.inRead (some ((udpFrameCode.stream localFrames).drop 5)) false,
    .udpResolve ⟨[7], 1, ascii "127.0.0.1", 53⟩ (some [localEndpoint]) false,
    .udpSend [7] localEndpoint 1 false,
    .udpResolve ⟨[8], 1, ascii "127.0.0.1", 53⟩ (some [localEndpoint]) false,
    .udpSend [8] localEndpoint 1 false]

/-- A tunnel is established, and brings the frames in two reads. -/
def tunnelEvents : List UDPForwardSession.Event :=
  [.start, .resolve (some [localEndpoint.address]) false,
    .tcpConnect localEndpoint.address false, .tlsHandshake false,
    .outRead (some ((udpFrameCode.stream localFrames).take 5)),
    .outRead (some ((udpFrameCode.stream localFrames).drop 5))]

open Flight in
/-- Both packets of two frames in two pieces arrive. -/
theorem udp_dechunked_two_pieces :
    (∃ u : ServerSession, ServerSession.Dispatched localEnv localFrames u ∧ u.udpDataBuf = [])
      ∧ ∃ s : UDPForwardSession,
        collect UDPForwardSession.handed s.history = [(localEndpoint, [7]), (localEndpoint, [8])]
          ∧ s.udpDataBuf = [] := by
  have hframes : ∀ f ∈ localFrames, f.bytes.length ≤ maxLength := by decide +kernel
  have hserver : (Machine.run (ServerSession.step localEnv) (.create .standardTls none)
      [.start (some {}), .tlsHandshake none]).any (fun s => s.status = .handshake ∧
        (ServerSession.step localEnv s (.inRead (some localRequest) false)).any (fun t =>
          (Machine.run (ServerSession.step localEnv) t localEvents).any (fun u =>
            .inRead ∈ u.pending))) = true := by
    decide +kernel
  have hforward : (Machine.run (UDPForwardSession.step {}) (.create localEndpoint)
      tunnelEvents).isSome = true := by
    decide +kernel
  refine ⟨?_, ?_⟩
  · obtain ⟨s, hs, hcond⟩ := Option.any_eq_true _ _ |>.mp hserver
    obtain ⟨hhandshake, hany⟩ := of_decide_eq_true hcond
    obtain ⟨t, ht, hany⟩ := Option.any_eq_true _ _ |>.mp hany
    obtain ⟨u, hu, hin⟩ := Option.any_eq_true _ _ |>.mp hany
    obtain ⟨-, -, -, -, hend⟩ := (udp_dechunked hframes).1 localEnv .standardTls none (some {})
      [.tlsHandshake none] s (.inRead (some localRequest) false) t localRequest
      (({} : TrojanRequest).parse localRequest).1 localRequest.length localEvents u hs hhandshake
      ht rfl (by decide +kernel) (by decide +kernel) (by decide +kernel) hu (by decide +kernel)
      (by decide +kernel)
    exact ⟨u, (hend (by decide +kernel) (of_decide_eq_true hin)).2⟩
  · obtain ⟨s, hs⟩ := Option.isSome_iff_exists.mp hforward
    obtain ⟨-, -, -, hend⟩ := (udp_dechunked hframes).2 {} localEndpoint tunnelEvents s hs
      (by decide +kernel) (by decide +kernel)
    exact ⟨s, hend (by decide +kernel)⟩
