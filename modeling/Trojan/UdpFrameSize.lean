import Trojan.ClientSession
import Trojan.UdpDechunking
import Trojan.Util.FrameReader

/-!
# The size of UDP frames

A datagram that a session receives goes through the tunnel as a frame. How long
it can be is settled by the receiver's buffer, which grows; whether the other
end delivers it is settled by the guard of its reader, "UDP packet too long",
which is on what it holds of a frame that is not complete, and does not grow.
The two do not agree: `udp_frame_delivered_iff` says for which datagrams every
way of cutting the frame into reads gets it delivered, and
`udp_frame_not_delivered` is a datagram that is not.

Both ends are readers in the sense of `Trojan.Util.FrameReader`, and what there
is to show of each is that its handlers make a reader's moves.
-/

namespace ServerSession

open Flight

/-! ## The read buffer of a server session -/

theorem inReadBuf_destroy (env : Env) (s : ServerSession) :
    (s.destroy env).inReadBuf = s.inReadBuf := by
  by_cases hs : s.status = .destroy
  · rw [destroy_of_destroy env s hs]
  · rw [destroy_eq env s hs]

theorem inReadBuf_udpSent (env : Env) (s : ServerSession) :
    (s.udpSent env).inReadBuf = s.inReadBuf := by
  by_cases hs : s.status = .udpForward
  · rw [udpSent_eq env hs]
    split
    · rfl
    · rfl
    · exact inReadBuf_destroy env s
  · rw [udpSent, if_neg hs]

theorem inReadBuf_udpResolved (env : Env) (s : ServerSession) (request : UdpDispatchRequest)
    (results : Option (List UdpEndpoint)) (openError : Bool) :
    (s.udpResolved env request results openError).inReadBuf = s.inReadBuf := by
  have hensure : (s.ensureUdpSocketOpen env openError).inReadBuf = s.inReadBuf := by
    unfold ensureUdpSocketOpen
    split
    · rfl
    · split
      · exact inReadBuf_destroy env s
      · rfl
  unfold udpResolved
  split
  · exact inReadBuf_destroy env s
  · unfold dispatchUdpPayload
    dsimp only
    split
    · exact hensure
    · exact hensure

theorem inReadBuf_handleHandshakePayload (env : Env) (s : ServerSession) (data : Bytes)
    (granted : Bool) : (s.handleHandshakePayload env data granted).inReadBuf = s.inReadBuf := by
  have happly (decision : SessionGate.SessionDecision) :
      ((s.notes (.handshakePayload data)).applyAuthResult decision).inReadBuf = s.inReadBuf := by
    unfold applyAuthResult
    split
    · split <;> rfl
    · split <;> rfl
  unfold handleHandshakePayload
  dsimp only
  split
  · rfl
  · rename_i decision _
    unfold executePlan
    split
    · exact (inReadBuf_udpSent env _).trans (happly decision)
    · unfold connectOutbound
      split
      · dsimp only
        split
        · exact happly decision
        · exact (inReadBuf_destroy env _).trans (happly decision)
      · exact happly decision
    · exact (inReadBuf_destroy env _).trans (happly decision)

theorem inReadBuf_tlsHandshaken (env : Env) (s : ServerSession) (error : Option Bytes) :
    (s.tlsHandshaken env error).inReadBuf = s.inReadBuf := by
  unfold tlsHandshaken
  split
  · rfl
  · exact inReadBuf_destroy env s
  · rfl
  · split
    · rfl
    · exact inReadBuf_destroy env s

theorem inReadBuf_trustedFrontRecv (env : Env) (s : ServerSession) (length : ℕ) (granted : Bool) :
    (s.trustedFrontRecv env length granted).inReadBuf = s.inReadBuf := by
  unfold trustedFrontRecv
  dsimp only
  split
  · exact inReadBuf_handleHandshakePayload env _ _ granted
  · split
    · rfl
    · exact inReadBuf_destroy env _

/-- Whatever is read, the buffer has only grown. -/
theorem inReadBuf_inRecv (env : Env) (s : ServerSession) (length : ℕ) (granted : Bool) :
    (s.inRecv env length granted).inReadBuf = growAfterRead s.inReadBuf length := by
  unfold inRecv
  dsimp only
  split
  · exact inReadBuf_handleHandshakePayload env _ _ granted
  · rfl
  · exact inReadBuf_udpSent env _
  · rfl

theorem inReadBuf_inSent (s : ServerSession) : s.inSent.inReadBuf = s.inReadBuf := by
  unfold inSent
  split <;> rfl

theorem inReadBuf_outRecv (s : ServerSession) (length : ℕ) :
    (s.outRecv length).inReadBuf = s.inReadBuf := by
  unfold outRecv
  dsimp only
  split <;> rfl

theorem inReadBuf_outSent (s : ServerSession) : s.outSent.inReadBuf = s.inReadBuf := by
  unfold outSent
  split <;> rfl

theorem inReadBuf_tcpResolved (env : Env) (s : ServerSession) (target : ConnectTarget)
    (results : Option (List IpAddress)) (openError : Bool) :
    (s.tcpResolved env target results openError).inReadBuf = s.inReadBuf := by
  unfold tcpResolved
  split
  · exact inReadBuf_destroy env s
  · split
    · exact inReadBuf_destroy env s
    · rfl

theorem inReadBuf_tcpConnected (env : Env) (s : ServerSession) (error : Bool) :
    (s.tcpConnected env error).inReadBuf = s.inReadBuf := by
  unfold tcpConnected
  split
  · exact inReadBuf_destroy env s
  · dsimp only
    split <;> rfl

theorem inReadBuf_udpRecv (s : ServerSession) (length : ℕ) (endpoint : UdpEndpoint) :
    (s.udpRecv length endpoint).inReadBuf = s.inReadBuf := by
  unfold udpRecv
  dsimp only
  split <;> rfl

theorem inReadBuf_sslShutdownCb (s : ServerSession) (aborted : Bool) :
    (s.sslShutdownCb aborted).inReadBuf = s.inReadBuf := by
  unfold sslShutdownCb
  split <;> rfl

/-- **The read buffer never shrinks.** -/
theorem length_inReadBuf_handle (env : Env) {s : ServerSession} {e : Event}
    (hfits : e.fits s = true) : s.inReadBuf.length ≤ (s.handle env e).inReadBuf.length := by
  have hkeeps {t : ServerSession} (ht : t.inReadBuf = s.inReadBuf) :
      s.inReadBuf.length ≤ t.inReadBuf.length := Nat.le_of_eq (congrArg List.length ht.symm)
  have hdestroy : s.inReadBuf.length ≤ (s.destroy env).inReadBuf.length :=
    hkeeps (inReadBuf_destroy env s)
  cases e with
  | start remoteEndpoint =>
    cases remoteEndpoint with
    | none => exact hkeeps (inReadBuf_destroy env _)
    | some endpoint =>
      unfold handle start
      dsimp only
      split <;> exact Nat.le_refl _
  | tlsHandshake error => exact hkeeps (inReadBuf_tlsHandshaken env s error)
  | plainHttpWrite => exact hdestroy
  | trustedFrontRead data granted =>
    cases data with
    | none => exact hdestroy
    | some data =>
      show _ ≤ (trustedFrontRecv env _ data.length granted).inReadBuf.length
      rw [inReadBuf_trustedFrontRecv]
      exact Nat.le_of_eq (length_fillBuffer (of_decide_eq_true hfits)).symm
  | inRead data granted =>
    cases data with
    | none => exact hdestroy
    | some data =>
      show _ ≤ (inRecv env _ data.length granted).inReadBuf.length
      rw [inReadBuf_inRecv, ← length_fillBuffer (of_decide_eq_true hfits)]
      exact length_le_growAfterRead _ _
  | inWrite data error =>
    cases error with
    | true => exact hdestroy
    | false => exact hkeeps (inReadBuf_inSent s)
  | outRead data =>
    cases data with
    | none => exact hdestroy
    | some data => exact hkeeps (inReadBuf_outRecv _ data.length)
  | outWrite data account error =>
    cases error with
    | true => exact hdestroy
    | false =>
      cases account with
      | true => exact hkeeps (inReadBuf_outSent _)
      | false => exact hkeeps (inReadBuf_outSent s)
  | tcpResolve target results openError =>
    exact hkeeps (inReadBuf_tcpResolved env s target results openError)
  | tcpConnect target endpoint error => exact hkeeps (inReadBuf_tcpConnected env s error)
  | udpResolve request results openError =>
    exact hkeeps (inReadBuf_udpResolved env s request results openError)
  | udpSend data endpoint accounted error =>
    cases error with
    | true => exact hdestroy
    | false =>
      show _ ≤ (if accounted > 0 then _ else _ : ServerSession).inReadBuf.length
      split
      · exact hkeeps (inReadBuf_udpSent env _)
      · exact hkeeps (inReadBuf_udpSent env s)
  | udpReceive received =>
    rcases received with _ | ⟨data, endpoint⟩
    · exact hdestroy
    · exact hkeeps (inReadBuf_udpRecv _ data.length endpoint)
  | tlsShutdown aborted => exact hkeeps (inReadBuf_sslShutdownCb s aborted)
  | shutdownTimer aborted => exact hkeeps (inReadBuf_sslShutdownCb s aborted)

theorem fits_receives (s : ServerSession) (e : Event) : e.fits (s.receives e) = e.fits s := by
  unfold receives
  split <;> cases e <;> rfl

/-- **A session of the server**, after any run from its start. -/
def Reachable (env : Env) (s : ServerSession) : Prop :=
  ∃ mode handoff remoteEndpoint es,
    Machine.run (step env) (create mode handoff) (.start remoteEndpoint :: es) = some s

/-- Every session has room for reads of `DEFAULT_BUFFER_SIZE` bytes. -/
theorem Reachable.room {env : Env} {s : ServerSession} (h : Reachable env s) :
    defaultBufferSize ≤ s.inReadBuf.length := by
  obtain ⟨mode, handoff, remoteEndpoint, es, hrun⟩ := h
  refine Machine.run_invariant (P := fun s : ServerSession =>
    defaultBufferSize ≤ s.inReadBuf.length) ?_ ?_ hrun
  · intro s e t hs hstep
    unfold step at hstep
    split at hstep
    · rename_i haccepts
      have hfits : e.fits (s.receives e) = true := by
        rw [fits_receives]
        cases he : e.operation with
        | none => cases e <;> first | rfl | exact absurd he (by simp [Event.operation])
        | some op => exact ((accepts_iff he).mp haccepts).2
      rw [← Option.some.inj hstep]
      refine Nat.le_trans ?_ (length_inReadBuf_handle env hfits)
      unfold receives
      split <;> exact hs
    · exact absurd hstep (by simp)
  · exact Nat.le_of_eq List.length_replicate.symm

/-! ## The server as a reader of frames -/

/-- A session in `UDP_FORWARD` waits for a frame. -/
structure Waits (s : ServerSession) : Prop where
  status : s.status = .udpForward
  buffer : s.udpDataBuf = []
  reading : .inRead ∈ s.pending

/-- The reads of some pieces. -/
def pieceReads (granted : Bool) (pieces : List Bytes) : List Event :=
  pieces.map (fun piece => .inRead (some piece) granted)

/-- **A session delivers a frame**, which asks for a dispatch: however a
beginning of the frame is cut into reads, the session is still a UDP relay
after them, and if it is the whole frame, the packet is on its way and
`udp_data_buf` empty; and it can be read, in pieces that fit the buffer. -/
def Delivers (env : Env) (s : ServerSession) (frame : Bytes) (request : UdpDispatchRequest) :
    Prop :=
  ∀ (granted : Bool) (pieces : List Bytes), (∀ p ∈ pieces, p ≠ []) →
    pieces.flatten <+: frame →
    (∀ t, Machine.run (step env) s (pieceReads granted pieces) = some t →
      t.status = .udpForward ∧ (pieces.flatten = frame →
        collect requested t.history = collect requested s.history ++ [request]
          ∧ t.udpDataBuf = []))
    ∧ ((∀ p ∈ pieces, p.length ≤ defaultBufferSize) →
      ∃ t, Machine.run (step env) s (pieceReads granted pieces) = some t)

/-- Since it waited in the state `s₀`, a session has read a part of a frame. -/
structure Holds (s₀ : ServerSession) (buf : Bytes) (s : ServerSession) : Prop where
  status : s.status = .udpForward
  buffer : s.udpDataBuf = buf
  reading : .inRead ∈ s.pending
  room : defaultBufferSize ≤ s.inReadBuf.length
  silent : collect requested s.history = collect requested s₀.history

/-- A read of a session that holds a part of a frame. -/
theorem Holds.step_eq {s₀ s : ServerSession} {buf piece : Bytes} (h : Holds s₀ buf s)
    (hfits : piece.length ≤ s.inReadBuf.length) (env : Env) (granted : Bool) :
    ∃ u : ServerSession, step env s (.inRead (some piece) granted) = some (u.udpSent env)
      ∧ u.status = .udpForward ∧ u.udpDataBuf = buf ++ piece
      ∧ defaultBufferSize ≤ u.inReadBuf.length
      ∧ collect requested u.history = collect requested s₀.history := by
  have haccepts : s.accepts (.inRead (some piece) granted) = true :=
    (accepts_iff rfl).mpr ⟨h.reading, decide_eq_true hfits⟩
  refine ⟨{ growInReadBuf { s.receives (.inRead (some piece) granted) with
      inReadBuf := fillBuffer s.inReadBuf piece } piece.length with
      udpDataBuf := s.udpDataBuf ++ piece }, ?_, h.status, ?_, ?_, ?_⟩
  · rw [step, if_pos haccepts]
    exact congrArg some (inRecv_of_udpForward env
      (s := { s.receives (.inRead (some piece) granted) with
        inReadBuf := fillBuffer s.inReadBuf piece })
      h.status (take_growAfterRead s.inReadBuf piece) granted)
  · exact congrArg (· ++ piece) h.buffer
  · have hroom := h.room
    have hlength := length_fillBuffer hfits
    have hgrow := length_le_growAfterRead (fillBuffer s.inReadBuf piece) piece.length
    show defaultBufferSize ≤ (growAfterRead (fillBuffer s.inReadBuf piece) piece.length).length
    omega
  · show collect requested s.history ++ [] ++ [] ++ [] = _
    rw [List.append_nil, List.append_nil, List.append_nil, h.silent]

/-- What a read of a session that holds a part of a frame leads to. -/
theorem Holds.of_step {s₀ s t : ServerSession} {buf piece : Bytes} (h : Holds s₀ buf s)
    {env : Env} {granted : Bool} (hstep : step env s (.inRead (some piece) granted) = some t) :
    ∃ u : ServerSession, t = u.udpSent env
      ∧ u.status = .udpForward ∧ u.udpDataBuf = buf ++ piece
      ∧ defaultBufferSize ≤ u.inReadBuf.length
      ∧ collect requested u.history = collect requested s₀.history := by
  have hfits : piece.length ≤ s.inReadBuf.length := by
    unfold step at hstep
    split at hstep
    · rename_i haccepts
      exact of_decide_eq_true ((accepts_iff rfl).mp haccepts).2
    · exact absurd hstep (by simp)
  obtain ⟨u, hu, hrest⟩ := h.step_eq hfits env granted
  exact ⟨u, Option.some.inj (hstep.symm.trans hu), hrest⟩

/-- **The server as a reader of frames**, from a state in which it waits. -/
def frameReader (env : Env) (granted : Bool) (s₀ : ServerSession) :
    FrameReader udpFrameCode maxLength defaultBufferSize ServerSession where
  read s piece := step env s (.inRead (some piece) granted)
  Holds := Holds s₀
  Delivered buf s := ∃ packet rest, udpFrameCode.next maxLength buf = .deliver packet rest
    ∧ s.status = .udpForward ∧ s.udpDataBuf = rest
    ∧ collect requested s.history = collect requested s₀.history
      ++ [⟨packet.payload, packet.length, packet.address.address, packet.address.port⟩]
  GaveUp s := s.status ≠ .udpForward
  reads buf s piece h hle := by
    obtain ⟨u, hstep, -⟩ := h.step_eq (Nat.le_trans hle h.room) env granted
    exact ⟨_, hstep⟩
  waits buf s piece t h hread hnext := by
    obtain ⟨u, rfl, hs, hbuf, hroom, hsilent⟩ := h.of_step hread
    rw [udpSent_eq env hs, hbuf, hnext]
    refine ⟨hs, hbuf, List.mem_cons_self, hroom, ?_⟩
    show collect requested u.history ++ [] = _
    rw [List.append_nil, hsilent]
  delivers buf s piece t packet rest h hread hnext := by
    obtain ⟨u, rfl, hs, hbuf, -, hsilent⟩ := h.of_step hread
    refine ⟨packet, rest, hnext, ?_⟩
    rw [udpSent_eq env hs, hbuf, hnext, ← hsilent]
    exact ⟨hs, rfl, rfl⟩
  givesUp buf s piece t h hread hnext := by
    obtain ⟨u, rfl, hs, hbuf, -⟩ := h.of_step hread
    rw [udpSent_eq env hs, hbuf, hnext]
    show (u.destroy env).status ≠ .udpForward
    rw [status_destroy]
    exact Status.noConfusion
  not_gaveUp_of_holds buf s h := not_not.mpr h.status
  not_gaveUp_of_delivered buf s h := by
    obtain ⟨packet, rest, -, hs, -⟩ := h
    exact not_not.mpr hs

/-- **When a session delivers a frame.** -/
theorem delivers_iff {env : Env} {s : ServerSession} (hreach : Reachable env s) (hs : s.Waits)
    (f : UdpFrame) :
    Delivers env s f.bytes (requestOf f) ↔ f.bytes.length ≤ maxLength + 1 := by
  have hholds (granted : Bool) : (frameReader env granted s).Holds [] s :=
    ⟨hs.status, hs.buffer, hs.reading, hreach.room, rfl⟩
  have hiff (granted : Bool) := (frameReader env granted s).agrees_iff (hholds granted)
    (show 0 < maxLength by decide) (Nat.le_refl _) f
  have hnext : udpFrameCode.next maxLength f.bytes = .deliver f.packet [] := by
    rcases FrameReader.next_of_beginning (c := udpFrameCode) (List.prefix_refl f.bytes) (.inl rfl)
      with h | h
    · exact h.2
    · exact absurd rfl h.1
  constructor
  · intro hdelivers
    refine (hiff false).mp (fun pieces hne hpre => ?_)
    obtain ⟨hgood, hruns⟩ := hdelivers false pieces hne hpre
    unfold pieceReads at hgood hruns
    rw [Machine.run_map] at hruns
    refine ⟨fun t ht => ?_, hruns⟩
    obtain ⟨hstatus, hend⟩ := hgood t (by rw [Machine.run_map]; exact ht)
    refine ⟨not_not.mpr hstatus, fun hwhole => ?_⟩
    obtain ⟨hreq, hbuf⟩ := hend hwhole
    exact ⟨f.packet, [], hnext, hstatus, hbuf, hreq⟩
  · intro hshort granted pieces hne hpre
    obtain ⟨hgood, hruns⟩ := (hiff granted).mpr hshort pieces hne hpre
    unfold pieceReads
    rw [Machine.run_map]
    refine ⟨fun t ht => ?_, hruns⟩
    obtain ⟨hstatus, hend⟩ := hgood t ht
    refine ⟨not_not.mp hstatus, fun hwhole => ?_⟩
    obtain ⟨packet, rest, hdeliver, -, hbuf, hreq⟩ := hend hwhole
    obtain ⟨rfl, rfl⟩ := FrameCode.Next.deliver.inj (hdeliver.symm.trans hnext)
    exact ⟨hreq, hbuf⟩

end ServerSession

namespace ClientSession

open Flight

/-! ## The read buffer of a client session -/

theorem outReadBuf_destroy (s : ClientSession) : s.destroy.outReadBuf = s.outReadBuf := by
  unfold destroy
  split
  · rfl
  · dsimp only
    split <;> rfl

theorem outReadBuf_udpSent (s : ClientSession) : s.udpSent.outReadBuf = s.outReadBuf := by
  unfold udpSent
  split
  · split
    · split
      · exact outReadBuf_destroy s
      · rfl
    · split
      · exact outReadBuf_destroy s
      · rfl
  · rfl

theorem outReadBuf_inRecv (config : Config) (s : ClientSession) (length : ℕ)
    (bound : Option UdpEndpoint) : (s.inRecv config length bound).outReadBuf = s.outReadBuf := by
  unfold inRecv
  dsimp only
  split
  · unfold recvGreeting
    split
    · exact outReadBuf_destroy _
    · split <;> rfl
  · unfold recvRequest
    split
    · exact outReadBuf_destroy _
    · dsimp only
      split
      · rfl
      · split
        · split
          · exact outReadBuf_destroy _
          · rfl
        · rfl
  · rfl
  · rfl
  · exact outReadBuf_destroy _
  · rfl

theorem outReadBuf_inSent (s : ClientSession) : s.inSent.outReadBuf = s.outReadBuf := by
  unfold inSent
  split
  · rfl
  · dsimp only
    split <;> rfl
  · rfl
  · exact outReadBuf_destroy s
  · rfl

theorem outReadBuf_resolved (s : ClientSession) (results : Option (List IpAddress))
    (openError : Bool) : (s.resolved results openError).outReadBuf = s.outReadBuf := by
  unfold resolved
  split
  · exact outReadBuf_destroy s
  · split
    · exact outReadBuf_destroy s
    · rfl

theorem outReadBuf_connected (s : ClientSession) (error : Bool) :
    (s.connected error).outReadBuf = s.outReadBuf := by
  unfold connected
  split
  · exact outReadBuf_destroy s
  · rfl

theorem outReadBuf_handshaken (s : ClientSession) (error : Bool) :
    (s.handshaken error).outReadBuf = s.outReadBuf := by
  unfold handshaken
  split
  · exact outReadBuf_destroy s
  · rfl

/-- Whatever is read, the buffer has only grown. -/
theorem outReadBuf_outRecv (s : ClientSession) (length : ℕ) :
    (s.outRecv length).outReadBuf = growAfterRead s.outReadBuf length := by
  unfold outRecv
  dsimp only
  split
  · rfl
  · split
    · exact outReadBuf_udpSent _
    · rfl

theorem outReadBuf_outSent (s : ClientSession) : s.outSent.outReadBuf = s.outReadBuf := by
  unfold outSent
  split
  · rfl
  · split <;> rfl

theorem outReadBuf_udpRecv (s : ClientSession) (length : ℕ) :
    (s.udpRecv length).outReadBuf = s.outReadBuf := by
  unfold udpRecv
  dsimp only
  split
  · rfl
  · split
    · exact outReadBuf_destroy _
    · split
      · rfl
      · split <;> rfl

theorem outReadBuf_sslShutdownCb (s : ClientSession) (aborted : Bool) :
    (s.sslShutdownCb aborted).outReadBuf = s.outReadBuf := by
  unfold sslShutdownCb
  split <;> rfl

/-- **The read buffer never shrinks.** -/
theorem length_outReadBuf_handle (config : Config) {s : ClientSession} {e : Event}
    (hfits : e.fits s = true) : s.outReadBuf.length ≤ (s.handle config e).outReadBuf.length := by
  have hkeeps {t : ClientSession} (ht : t.outReadBuf = s.outReadBuf) :
      s.outReadBuf.length ≤ t.outReadBuf.length := Nat.le_of_eq (congrArg List.length ht.symm)
  have hdestroy : s.outReadBuf.length ≤ s.destroy.outReadBuf.length :=
    hkeeps (outReadBuf_destroy s)
  cases e with
  | start remoteEndpoint =>
    cases remoteEndpoint with
    | none => exact hdestroy
    | some endpoint => exact Nat.le_refl _
  | inRead data bound =>
    cases data with
    | success data => exact hkeeps (outReadBuf_inRecv config _ data.length bound)
    | aborted => exact Nat.le_refl _
    | failed => exact hdestroy
  | inWrite data error =>
    cases error with
    | true => exact hdestroy
    | false => exact hkeeps (outReadBuf_inSent s)
  | resolve results openError => exact hkeeps (outReadBuf_resolved s results openError)
  | tcpConnect endpoint error => exact hkeeps (outReadBuf_connected s error)
  | tlsHandshake error => exact hkeeps (outReadBuf_handshaken s error)
  | outRead data =>
    cases data with
    | none => exact hdestroy
    | some data =>
      show _ ≤ (outRecv _ data.length).outReadBuf.length
      rw [outReadBuf_outRecv, ← length_fillBuffer (of_decide_eq_true hfits)]
      exact length_le_growAfterRead _ _
  | outWrite data error =>
    cases error with
    | true => exact hdestroy
    | false => exact hkeeps (outReadBuf_outSent s)
  | udpReceive received =>
    rcases received with ⟨data, endpoint⟩ | _ | _
    · exact hkeeps (outReadBuf_udpRecv _ data.length)
    · exact Nat.le_refl _
    · exact hdestroy
  | udpSend data endpoint error =>
    cases error with
    | true => exact hdestroy
    | false => exact hkeeps (outReadBuf_udpSent s)
  | tlsShutdown aborted => exact hkeeps (outReadBuf_sslShutdownCb s aborted)
  | shutdownTimer aborted => exact hkeeps (outReadBuf_sslShutdownCb s aborted)

theorem fits_receives (s : ClientSession) (e : Event) : e.fits (s.receives e) = e.fits s := by
  unfold receives
  split <;> cases e <;> rfl

theorem accepts_iff {s : ClientSession} {e : Event} {op : Operation}
    (he : e.operation = some op) :
    s.accepts e = true ↔ op ∈ s.pending ∧ e.fits s = true := by
  simp [accepts, he]

/-- **A session of the client**, after any run from its start. -/
def Reachable (config : Config) (s : ClientSession) : Prop :=
  ∃ remoteEndpoint es, Machine.run (step config) create (.start remoteEndpoint :: es) = some s

/-- Every session has room for reads of `DEFAULT_BUFFER_SIZE` bytes. -/
theorem Reachable.room {config : Config} {s : ClientSession} (h : Reachable config s) :
    defaultBufferSize ≤ s.outReadBuf.length := by
  obtain ⟨remoteEndpoint, es, hrun⟩ := h
  refine Machine.run_invariant (P := fun s : ClientSession =>
    defaultBufferSize ≤ s.outReadBuf.length) ?_ ?_ hrun
  · intro s e t hs hstep
    unfold step at hstep
    split at hstep
    · rename_i haccepts
      have hfits : e.fits (s.receives e) = true := by
        rw [fits_receives]
        cases he : e.operation with
        | none => cases e <;> first | rfl | exact absurd he (by simp [Event.operation])
        | some op => exact ((accepts_iff he).mp haccepts).2
      rw [← Option.some.inj hstep]
      refine Nat.le_trans ?_ (length_outReadBuf_handle config hfits)
      unfold receives
      split <;> exact hs
    · exact absurd hstep (by simp)
  · exact Nat.le_of_eq List.length_replicate.symm

/-! ## The client as a reader of frames -/

/-- The datagrams a session has sent to its application. -/
def replied : Mark Operation Buffer Note → List (Bytes × UdpEndpoint)
  | .began (.udpSend data endpoint) => [(data, endpoint)]
  | _ => []

/-- A session in `UDP_FORWARD` waits for a frame. -/
structure Waits (s : ClientSession) : Prop where
  status : s.status = .udpForward
  buffer : s.udpDataBuf = []
  reading : .outRead ∈ s.pending

/-- The reads of some pieces. -/
def pieceReads (pieces : List Bytes) : List Event := pieces.map (fun piece => .outRead (some piece))

/-- **A session delivers a frame** to its application, as a datagram: however a
beginning of the frame is cut into reads, the session is still a UDP relay
after them, and if it is the whole frame, the datagram is on its way and
`udp_data_buf` empty; and it can be read, in pieces that fit the buffer. -/
def Delivers (config : Config) (s : ClientSession) (frame reply : Bytes) : Prop :=
  ∀ pieces : List Bytes, (∀ p ∈ pieces, p ≠ []) → pieces.flatten <+: frame →
    (∀ t, Machine.run (step config) s (pieceReads pieces) = some t →
      t.status = .udpForward ∧ (pieces.flatten = frame →
        collect replied t.history = collect replied s.history ++ [(reply, s.udpRecvEndpoint)]
          ∧ t.udpDataBuf = []))
    ∧ ((∀ p ∈ pieces, p.length ≤ defaultBufferSize) →
      ∃ t, Machine.run (step config) s (pieceReads pieces) = some t)

/-- The datagram for the application of a frame at the front of some bytes,
whose address takes so many of them. -/
def replyOf (data : Bytes) (addressLen : ℕ) (packet : UDPPacket) : Bytes :=
  [0, 0, 0] ++ data.take addressLen ++ packet.payload

/-- **`udp_sent` makes the next move of a reader of frames**, and a frame that it
delivers has an address. -/
theorem udpSent_cases {s : ClientSession} (hs : s.status = .udpForward) :
    (udpFrameCode.next maxLength s.udpDataBuf = .wait ∧ s.udpSent = s.outAsyncRead)
      ∨ (udpFrameCode.next maxLength s.udpDataBuf = .overflow ∧ s.udpSent = s.destroy)
      ∨ ∃ packet n address addressLen,
        ({} : UDPPacket).parse s.udpDataBuf = (packet, some n)
          ∧ ({} : SOCKS5Address).parse s.udpDataBuf = (address, some addressLen)
          ∧ udpFrameCode.next maxLength s.udpDataBuf = .deliver packet (s.udpDataBuf.drop n)
          ∧ s.udpSent = { s with
              udpDataBuf := s.udpDataBuf.drop n
              recvLen := s.recvLen + packet.length }.udpAsyncWrite
            (replyOf s.udpDataBuf addressLen packet) s.udpRecvEndpoint := by
  unfold udpSent
  rw [if_pos hs, udpFrameCode_next]
  rcases hparse : ({} : UDPPacket).parse s.udpDataBuf with ⟨packet, _ | n⟩
  · dsimp only
    by_cases hlong : s.udpDataBuf.length > maxLength
    · rw [if_pos hlong, if_pos hlong]
      exact .inr (.inl ⟨rfl, rfl⟩)
    · rw [if_neg hlong, if_neg hlong]
      exact .inl ⟨rfl, rfl⟩
  · obtain ⟨f, rest, hbuf, -, -⟩ := UDPPacket.exists_bytes_of_parse hparse
    obtain ⟨addressLen, haddress⟩ :
        ∃ addressLen, ({} : SOCKS5Address).parse s.udpDataBuf
          = (SOCKS5Address.ofHost f.host f.port, some addressLen) := by
      refine ⟨(f.host.wire f.port).length, ?_⟩
      rw [hbuf, UdpFrame.bytes, List.append_assoc]
      exact SOCKS5Address.parse_wire _ f.host f.port _
    refine .inr (.inr ⟨packet, n, _, addressLen, rfl, haddress, rfl, ?_⟩)
    rw [haddress]
    rfl

/-- Since it waited in the state `s₀`, a session has read a part of a frame. -/
structure Holds (s₀ : ClientSession) (buf : Bytes) (s : ClientSession) : Prop where
  status : s.status = .udpForward
  buffer : s.udpDataBuf = buf
  reading : .outRead ∈ s.pending
  room : defaultBufferSize ≤ s.outReadBuf.length
  silent : collect replied s.history = collect replied s₀.history
  endpoint : s.udpRecvEndpoint = s₀.udpRecvEndpoint

/-- A read of a session that holds a part of a frame. -/
theorem Holds.step_eq {s₀ s : ClientSession} {buf piece : Bytes} (h : Holds s₀ buf s)
    (hfits : piece.length ≤ s.outReadBuf.length) (config : Config) :
    ∃ u : ClientSession, step config s (.outRead (some piece)) = some u.udpSent
      ∧ u.status = .udpForward ∧ u.udpDataBuf = buf ++ piece
      ∧ defaultBufferSize ≤ u.outReadBuf.length
      ∧ collect replied u.history = collect replied s₀.history
      ∧ u.udpRecvEndpoint = s₀.udpRecvEndpoint := by
  have haccepts : s.accepts (.outRead (some piece)) = true :=
    (accepts_iff rfl).mpr ⟨h.reading, decide_eq_true hfits⟩
  refine ⟨{ s with
      udpDataBuf := s.udpDataBuf ++ piece
      outReadBuf := growAfterRead (fillBuffer s.outReadBuf piece) piece.length
      history := .modified .outReadBuf :: .ended .outRead
        :: .noted (.handled s.status (.outRead (some piece))) :: s.history },
    ?_, h.status, ?_, ?_, ?_, h.endpoint⟩
  · have htake := take_growAfterRead s.outReadBuf piece
    have hrecv {w : ClientSession} (hw : w.status = .udpForward)
        (hbuf : (growAfterRead w.outReadBuf piece.length).take piece.length = piece) :
        w.outRecv piece.length = udpSent { w with
          udpDataBuf := w.udpDataBuf ++ piece
          outReadBuf := growAfterRead w.outReadBuf piece.length
          history := .modified .outReadBuf :: w.history } := by
      unfold outRecv
      dsimp only
      rw [if_neg (by rw [hw]; exact Status.noConfusion), if_pos hw, hbuf]
    rw [step, if_pos haccepts]
    exact congrArg some (hrecv
      (w := { s.receives (.outRead (some piece)) with
        outReadBuf := fillBuffer s.outReadBuf piece }) h.status htake)
  · exact congrArg (· ++ piece) h.buffer
  · have hroom := h.room
    have hlength := length_fillBuffer hfits
    have hgrow := length_le_growAfterRead (fillBuffer s.outReadBuf piece) piece.length
    show defaultBufferSize ≤ (growAfterRead (fillBuffer s.outReadBuf piece) piece.length).length
    omega
  · show collect replied s.history ++ [] ++ [] ++ [] = _
    rw [List.append_nil, List.append_nil, List.append_nil, h.silent]

/-- What a read of a session that holds a part of a frame leads to. -/
theorem Holds.of_step {s₀ s t : ClientSession} {buf piece : Bytes} (h : Holds s₀ buf s)
    {config : Config} (hstep : step config s (.outRead (some piece)) = some t) :
    ∃ u : ClientSession, t = u.udpSent
      ∧ u.status = .udpForward ∧ u.udpDataBuf = buf ++ piece
      ∧ defaultBufferSize ≤ u.outReadBuf.length
      ∧ collect replied u.history = collect replied s₀.history
      ∧ u.udpRecvEndpoint = s₀.udpRecvEndpoint := by
  have hfits : piece.length ≤ s.outReadBuf.length := by
    unfold step at hstep
    split at hstep
    · rename_i haccepts
      exact of_decide_eq_true ((accepts_iff rfl).mp haccepts).2
    · exact absurd hstep (by simp)
  obtain ⟨u, hu, hrest⟩ := h.step_eq hfits config
  exact ⟨u, Option.some.inj (hstep.symm.trans hu), hrest⟩

/-- **The client as a reader of frames**, from a state in which it waits. -/
def frameReader (config : Config) (s₀ : ClientSession) :
    FrameReader udpFrameCode maxLength defaultBufferSize ClientSession where
  read s piece := step config s (.outRead (some piece))
  Holds := Holds s₀
  Delivered buf s := ∃ packet n address addressLen,
    ({} : UDPPacket).parse buf = (packet, some n)
      ∧ ({} : SOCKS5Address).parse buf = (address, some addressLen)
      ∧ s.status = .udpForward ∧ s.udpDataBuf = buf.drop n
      ∧ collect replied s.history = collect replied s₀.history
        ++ [(replyOf buf addressLen packet, s₀.udpRecvEndpoint)]
  GaveUp s := s.status ≠ .udpForward
  reads buf s piece h hle := by
    obtain ⟨u, hstep, -⟩ := h.step_eq (Nat.le_trans hle h.room) config
    exact ⟨_, hstep⟩
  waits buf s piece t h hread hnext := by
    obtain ⟨u, rfl, hs, hbuf, hroom, hsilent, hend⟩ := h.of_step hread
    rw [← hbuf] at hnext
    rcases udpSent_cases hs with ⟨-, heq⟩ | ⟨hother, -⟩ | ⟨_, _, _, _, -, -, hother, -⟩
    · rw [heq]
      refine ⟨hs, hbuf, List.mem_cons_self, hroom, ?_, hend⟩
      show collect replied u.history ++ [] = _
      rw [List.append_nil, hsilent]
    · exact absurd (hnext.symm.trans hother) (by simp)
    · exact absurd (hnext.symm.trans hother) (by simp)
  delivers buf s piece t packet rest h hread hnext := by
    obtain ⟨u, rfl, hs, hbuf, -, hsilent, hend⟩ := h.of_step hread
    rw [← hbuf] at hnext ⊢
    rcases udpSent_cases hs with ⟨hother, -⟩ | ⟨hother, -⟩ | ⟨p, n, a, k, hp, ha, -, heq⟩
    · exact absurd (hnext.symm.trans hother) (by simp)
    · exact absurd (hnext.symm.trans hother) (by simp)
    · refine ⟨p, n, a, k, hp, ha, ?_⟩
      rw [heq]
      refine ⟨hs, rfl, ?_⟩
      show collect replied u.history ++ [] ++ _ = _
      rw [List.append_nil, hsilent, ← hend]
      rfl
  givesUp buf s piece t h hread hnext := by
    obtain ⟨u, rfl, hs, hbuf, -⟩ := h.of_step hread
    rw [← hbuf] at hnext
    rcases udpSent_cases hs with ⟨hother, -⟩ | ⟨-, heq⟩ | ⟨_, _, _, _, -, -, hother, -⟩
    · exact absurd (hnext.symm.trans hother) (by simp)
    · rw [heq, status_destroy]
      exact Status.noConfusion
    · exact absurd (hnext.symm.trans hother) (by simp)
  not_gaveUp_of_holds buf s h := not_not.mpr h.status
  not_gaveUp_of_delivered buf s h := by
    obtain ⟨_, _, _, _, -, -, hs, -⟩ := h
    exact not_not.mpr hs

/-- **When a session delivers a frame.** -/
theorem delivers_iff {config : Config} {s : ClientSession} (hreach : Reachable config s)
    (hs : s.Waits) (f : UdpFrame) :
    Delivers config s f.bytes ([0, 0, 0] ++ f.host.wire f.port ++ f.payload)
      ↔ f.bytes.length ≤ maxLength + 1 := by
  have hholds : (frameReader config s).Holds [] s :=
    ⟨hs.status, hs.buffer, hs.reading, hreach.room, rfl, rfl⟩
  have hiff := (frameReader config s).agrees_iff hholds (show 0 < maxLength by decide)
    (Nat.le_refl _) f
  have hparse : ({} : UDPPacket).parse f.bytes = (f.packet, some f.bytes.length) := by
    have h := UDPPacket.parse_bytes {} f []
    rwa [List.append_nil] at h
  have haddress : ({} : SOCKS5Address).parse f.bytes
      = (SOCKS5Address.ofHost f.host f.port, some (f.host.wire f.port).length) :=
    SOCKS5Address.parse_wire _ f.host f.port _
  have hreply : replyOf f.bytes (f.host.wire f.port).length f.packet
      = [0, 0, 0] ++ f.host.wire f.port ++ f.payload := by
    rw [replyOf, UdpFrame.bytes, List.take_left]
    rfl
  constructor
  · intro hdelivers
    refine hiff.mp (fun pieces hne hpre => ?_)
    obtain ⟨hgood, hruns⟩ := hdelivers pieces hne hpre
    unfold pieceReads at hgood hruns
    rw [Machine.run_map] at hruns
    refine ⟨fun t ht => ?_, hruns⟩
    obtain ⟨hstatus, hend⟩ := hgood t (by rw [Machine.run_map]; exact ht)
    refine ⟨not_not.mpr hstatus, fun hwhole => ?_⟩
    obtain ⟨hreq, hbuf⟩ := hend hwhole
    refine ⟨f.packet, _, _, _, hparse, haddress, hstatus, ?_, ?_⟩
    · rw [hbuf]
      exact List.drop_length.symm
    · rw [hreq]
      exact congrArg _ (congrArg (fun r => [(r, s.udpRecvEndpoint)]) hreply.symm)
  · intro hshort pieces hne hpre
    obtain ⟨hgood, hruns⟩ := hiff.mpr hshort pieces hne hpre
    unfold pieceReads
    rw [Machine.run_map]
    refine ⟨fun t ht => ?_, hruns⟩
    obtain ⟨hstatus, hend⟩ := hgood t ht
    refine ⟨not_not.mp hstatus, fun hwhole => ?_⟩
    obtain ⟨packet, n, address, addressLen, hp, ha, -, hbuf, hreq⟩ := hend hwhole
    obtain ⟨rfl, hn⟩ := Prod.mk.inj (hp.symm.trans hparse)
    obtain ⟨rfl, hk⟩ := Prod.mk.inj (ha.symm.trans haddress)
    obtain rfl := Option.some.inj hn
    obtain rfl := Option.some.inj hk
    refine ⟨?_, ?_⟩
    · rw [hreq]
      exact congrArg _ (congrArg (fun r => [(r, s.udpRecvEndpoint)]) hreply)
    · rw [hbuf]
      exact List.drop_length

end ClientSession

/-! ## The frames that are put on the tunnel -/

/-- How many bytes the address of an endpoint takes in a frame. -/
def UdpEndpoint.wireLength (e : UdpEndpoint) : ℕ :=
  if e.address.isV4 || e.address.isUnspecified then 7 else 19

theorem UdpEndpoint.length_wire (e : UdpEndpoint) :
    ((Host.ofEndpoint e).wire (Host.portOfEndpoint e)).length = e.wireLength := by
  rw [Host.length_wire, Host.ofEndpoint, UdpEndpoint.wireLength]
  by_cases hu : e.address.isUnspecified = true
  · rw [if_pos hu, hu, Bool.or_true, if_pos rfl]
    rfl
  · rw [if_neg hu, Bool.not_eq_true _ |>.mp hu, Bool.or_false]
    cases e.address with
    | v4 b => simp [Host.header, IpAddress.isV4]
    | v6 b => simp [Host.header, IpAddress.isV4]

namespace ServerSession

open Flight

/-- **A session puts a frame on the tunnel** as it receives a datagram. -/
def Emits (env : Env) (s : ServerSession) (data : Bytes) (endpoint : UdpEndpoint)
    (frame : Bytes) : Prop :=
  frame ≠ [] ∧ ∃ t, step env s (.udpReceive (some (data, endpoint))) = some t
    ∧ collect toClient t.history = collect toClient s.history ++ frame

/-- A UDP relay submits the frame of a datagram to the client. -/
theorem toClient_udpRecv {s : ServerSession} {data : Bytes} (endpoint : UdpEndpoint)
    (hbuf : (growAfterRead s.udpReadBuf data.length).take data.length = data) :
    collect toClient (s.udpRecv data.length endpoint).history = collect toClient s.history
      ++ if s.status = .udpForward then UDPPacket.generate endpoint data else [] := by
  have htake : (s.growUdpReadBuf data.length).udpReadBuf.take data.length = data := hbuf
  unfold udpRecv
  dsimp only
  by_cases hs : s.status = .udpForward
  · rw [if_pos (show (s.growUdpReadBuf data.length).status = .udpForward from hs), if_pos hs, htake]
    show collect toClient s.history ++ [] ++ [] ++ _ = _
    rw [List.append_nil, List.append_nil]
    rfl
  · rw [if_neg (show (s.growUdpReadBuf data.length).status ≠ .udpForward from hs), if_neg hs]
    rfl

/-- The frame of a datagram that a step receives. -/
theorem toClient_step {env : Env} {s t : ServerSession} {data : Bytes} {endpoint : UdpEndpoint}
    (hstep : step env s (.udpReceive (some (data, endpoint))) = some t) :
    collect toClient t.history = collect toClient s.history
      ++ if s.status = .udpForward then UDPPacket.generate endpoint data else [] := by
  unfold step at hstep
  split at hstep
  · rw [← Option.some.inj hstep]
    refine (toClient_udpRecv (s := { s.receives (.udpReceive (some (data, endpoint))) with
      udpReadBuf := fillBuffer s.udpReadBuf data }) endpoint
      (take_growAfterRead s.udpReadBuf data)).trans ?_
    show collect toClient s.history ++ [] ++ [] ++ _ = _
    rw [List.append_nil, List.append_nil]
    rfl
  · exact absurd hstep (by simp)

/-- **What a session puts on the tunnel** is a frame with the datagram's source
and payload. -/
theorem Emits.exists_fits {env : Env} {s : ServerSession} {data : Bytes} {endpoint : UdpEndpoint}
    {frame : Bytes} (h : Emits env s data endpoint frame) :
    ∃ fits, frame = (UdpFrame.ofEndpoint endpoint data fits).bytes := by
  obtain ⟨hne, t, hstep, hframe⟩ := h
  have hgenerate := List.append_cancel_left (hframe.symm.trans (toClient_step hstep))
  have hdatagram : data.length < 65536 := by
    unfold step at hstep
    split at hstep
    · rename_i haccepts
      have hfits := ((accepts_iff rfl).mp haccepts).2
      exact of_decide_eq_true ((Bool.and_eq_true _ _).mp hfits).2
    · exact absurd hstep (by simp)
  refine ⟨hdatagram, ?_⟩
  split at hgenerate
  · rw [hgenerate, UDPPacket.generate_eq_bytes]
  · exact absurd hgenerate hne

/-- A UDP relay with a receive in flight puts any datagram that its buffer can
receive on the tunnel. -/
theorem emits_of_pending (env : Env) {s : ServerSession} {data : Bytes} (endpoint : UdpEndpoint)
    (hs : s.status = .udpForward) (hop : .udpReceive ∈ s.pending)
    (hroom : data.length ≤ s.udpReadBuf.length) (hdatagram : data.length < 65536) :
    Emits env s data endpoint (UDPPacket.generate endpoint data) := by
  have hfits : Event.fits s (.udpReceive (some (data, endpoint))) = true :=
    (Bool.and_eq_true _ _).mpr ⟨decide_eq_true hroom, decide_eq_true hdatagram⟩
  have hstep : step env s (.udpReceive (some (data, endpoint)))
      = some ((s.receives (.udpReceive (some (data, endpoint)))).handle env
        (.udpReceive (some (data, endpoint)))) := if_pos ((accepts_iff rfl).mpr ⟨hop, hfits⟩)
  refine ⟨?_, _, hstep, ?_⟩
  · rw [UDPPacket.generate_eq_bytes endpoint data hdatagram]
    exact List.ne_nil_of_length_pos (udpFrameCode.encode_length_pos _)
  · rw [toClient_step hstep, if_pos hs]

end ServerSession

namespace ClientSession

open Flight

/-- The bytes submitted to the tunnel. -/
def toTunnel : Mark Operation Buffer Note → Bytes
  | .began (.outWrite data) => data
  | _ => []

/-- What a session has put on the tunnel, or will as soon as the tunnel is
there. -/
def uplink (s : ClientSession) : Bytes :=
  collect toTunnel s.history ++ if s.status = .connect then s.outWriteBuf else []

/-- **A session puts a frame on the tunnel** as it receives a datagram. -/
def Emits (config : Config) (s : ClientSession) (data : Bytes) (endpoint : UdpEndpoint)
    (frame : Bytes) : Prop :=
  frame ≠ [] ∧ ∃ t, step config s (.udpReceive (.success (data, endpoint))) = some t
    ∧ t.uplink = s.uplink ++ frame

/-- The frame that is made of a datagram, which is one byte longer. -/
theorem exists_frame_of_framePacket {data packet : Bytes} {n : ℕ}
    (hdatagram : data.length < 65536) (h : framePacket data = some (n, packet)) :
    ∃ f : UdpFrame, data = [0, 0, 0] ++ f.host.wire f.port ++ f.payload ∧ packet = f.bytes := by
  unfold framePacket at h
  split at h
  · exact absurd h (by simp)
  rename_i hgood
  push Not at hgood
  obtain ⟨hlength, h0, h1, h2⟩ := hgood
  have hhead : data = [0, 0, 0] ++ data.drop 3 := by
    match data, hlength, h0, h1, h2 with
    | a :: b :: c :: rest, _, h0, h1, h2 =>
      obtain rfl : a = 0 := h0
      obtain rfl : b = 0 := h1
      obtain rfl : c = 0 := h2
      rfl
  split at h
  · exact absurd h (by simp)
  · rename_i address addressLen haddress
    obtain ⟨host, port, payload, hwire, -, rfl⟩ := SOCKS5Address.exists_wire_of_parse haddress
    obtain ⟨-, hpacket⟩ := Prod.mk.inj (Option.some.inj h)
    have hpayload : data.drop ((host.wire port).length + 3) = payload := by
      rw [Nat.add_comm, ← List.drop_drop, hwire, List.drop_left]
    have hlen : data.length - 3 - (host.wire port).length = payload.length := by
      rw [← hpayload, List.length_drop]
      omega
    refine ⟨⟨host, port, payload, ?_⟩, ?_, ?_⟩
    · omega
    · rw [List.append_assoc, ← hwire]
      exact hhead
    · rw [← hpacket, hlen, hpayload, hwire, List.take_left, UdpFrame.bytes, List.append_assoc,
        List.append_assoc]

theorem history_destroy_toTunnel (s : ClientSession) :
    collect toTunnel s.destroy.history = collect toTunnel s.history := by
  unfold destroy
  split
  · rfl
  · dsimp only
    split
    · show collect toTunnel s.history ++ [] ++ [] ++ [] = _
      rw [List.append_nil, List.append_nil, List.append_nil]
    · exact List.append_nil _

/-- A datagram adds its frame to what goes through the tunnel, or nothing. -/
theorem uplink_udpRecv {s : ClientSession} {data : Bytes}
    (hbuf : (growAfterRead s.udpReadBuf data.length).take data.length = data) :
    (∃ n packet, framePacket data = some (n, packet)
        ∧ (s.udpRecv data.length).uplink = s.uplink ++ packet)
      ∨ (s.udpRecv data.length).uplink.length ≤ s.uplink.length := by
  have hsame {t : ClientSession} (hhist : collect toTunnel t.history = collect toTunnel s.history)
      (hstatus : t.status = s.status) (hwrite : t.outWriteBuf = s.outWriteBuf) :
      t.uplink.length ≤ s.uplink.length := by
    rw [uplink, uplink, hhist, hstatus, hwrite]
  unfold udpRecv
  dsimp only
  rw [hbuf]
  split
  · exact .inr (hsame (List.append_nil _) rfl rfl)
  · split
    · refine .inr ?_
      rw [uplink, status_destroy, if_neg Status.noConfusion, List.append_nil,
        history_destroy_toTunnel, uplink, List.length_append]
      show (collect toTunnel s.history ++ []).length ≤ _
      rw [List.append_nil]
      exact Nat.le_add_right _ _
    · rename_i n packet hframe
      split
      · rename_i hconnect
        refine .inl ⟨n, packet, hframe, ?_⟩
        change s.status = .connect at hconnect
        show collect toTunnel s.history ++ []
          ++ (if s.status = .connect then s.outWriteBuf ++ packet else [])
          = collect toTunnel s.history ++ (if s.status = .connect then s.outWriteBuf else []) ++ _
        rw [if_pos hconnect, if_pos hconnect, List.append_nil, List.append_assoc]
      · rename_i hconnect
        change s.status ≠ .connect at hconnect
        split
        · refine .inl ⟨n, packet, hframe, ?_⟩
          show collect toTunnel s.history ++ [] ++ [] ++ packet
            ++ (if s.status = .connect then s.outWriteBuf else [])
            = collect toTunnel s.history ++ (if s.status = .connect then s.outWriteBuf else []) ++ _
          rw [if_neg hconnect, List.append_nil, List.append_nil, List.append_nil]
        · exact .inr (hsame (List.append_nil _) rfl rfl)

/-- **What a session puts on the tunnel** is the frame made of the datagram. -/
theorem Emits.exists_frame {config : Config} {s : ClientSession} {data : Bytes}
    {endpoint : UdpEndpoint} {frame : Bytes} (h : Emits config s data endpoint frame) :
    ∃ f : UdpFrame, data = [0, 0, 0] ++ f.host.wire f.port ++ f.payload ∧ frame = f.bytes := by
  obtain ⟨hne, t, hstep, hframe⟩ := h
  unfold step at hstep
  split at hstep
  case isFalse => exact absurd hstep (by simp)
  rename_i haccepts
  have hfits := ((accepts_iff rfl).mp haccepts).2
  have hdatagram : data.length < 65536 :=
    of_decide_eq_true ((Bool.and_eq_true _ _).mp hfits).2
  have hbefore : uplink { s.receives (.udpReceive (.success (data, endpoint))) with
      udpReadBuf := fillBuffer s.udpReadBuf data, udpRecvEndpoint := endpoint } = s.uplink := by
    show collect toTunnel s.history ++ [] ++ [] ++ _ = _
    rw [List.append_nil, List.append_nil]
    rfl
  rw [← Option.some.inj hstep] at hframe
  rcases uplink_udpRecv (s := { s.receives (.udpReceive (.success (data, endpoint))) with
      udpReadBuf := fillBuffer s.udpReadBuf data, udpRecvEndpoint := endpoint })
      (take_growAfterRead s.udpReadBuf data) with ⟨n, packet, hpacket, hup⟩ | hle
  · obtain ⟨f, hdata, rfl⟩ := exists_frame_of_framePacket hdatagram hpacket
    refine ⟨f, hdata, ?_⟩
    rw [hbefore] at hup
    exact (List.append_cancel_left (hup.symm.trans hframe)).symm
  · rw [hbefore] at hle
    have hlength := congrArg List.length hframe
    rw [List.length_append] at hlength
    refine absurd (List.length_eq_zero_iff.mp ?_) hne
    exact Nat.le_zero.mp (Nat.le_of_add_le_add_left (hlength ▸ hle))

end ClientSession

/-- **When a frame that is put on the tunnel is delivered.** The guard of the
readers is on what they hold of an incomplete frame, `MAX_LENGTH` bytes, while
the buffers for datagrams grow up to four times that. A frame is delivered
however it is cut exactly when it is at most one byte longer than the guard:

* a datagram that the server receives is delivered by a waiting client exactly
  when it, its address and four bytes are at most `MAX_LENGTH + 1` bytes;
* a datagram that the client receives, with its SOCKS5 header, is delivered by a
  waiting server exactly when it is at most `MAX_LENGTH` bytes.

A longer frame has a cut at which its reader destroys the session. -/
theorem udp_frame_delivered_iff {env : ServerSession.Env} {config : Config} {s : ServerSession}
    {c : ClientSession} (hs : s.Reachable env) (hc : c.Reachable config) (data : Bytes)
    (endpoint : UdpEndpoint) (frame : Bytes) :
    (s.Emits env data endpoint frame → c.Waits →
      (c.Delivers config frame ([0, 0, 0] ++ SOCKS5Address.generate endpoint ++ data)
        ↔ endpoint.wireLength + 4 + data.length ≤ maxLength + 1))
    ∧ (c.Emits config data endpoint frame → s.Waits →
      ∃ f : UdpFrame, data = [0, 0, 0] ++ f.host.wire f.port ++ f.payload
        ∧ (s.Delivers env frame (ServerSession.requestOf f) ↔ data.length ≤ maxLength)) := by
  refine ⟨fun hemits hwaits => ?_, fun hemits hwaits => ?_⟩
  · obtain ⟨fits, rfl⟩ := hemits.exists_fits
    have hiff := ClientSession.delivers_iff hc hwaits (UdpFrame.ofEndpoint endpoint data fits)
    rw [UdpFrame.length_bytes] at hiff
    rw [SOCKS5Address.generate_eq_wire, ← endpoint.length_wire]
    exact hiff
  · obtain ⟨f, hdata, rfl⟩ := hemits.exists_frame
    refine ⟨f, hdata, (ServerSession.delivers_iff hs hwaits f).trans ?_⟩
    have hlength : data.length + 1 = f.bytes.length := by
      rw [hdata, UdpFrame.length_bytes, List.length_append, List.length_append]
      show 3 + _ + _ + 1 = _
      omega
    omega

/-- A UDP relay of the server, with nothing to do. -/
def idleEvents : List ServerSession.Event :=
  [.start (some {}), .tlsHandshake none,
    .inRead (some (TrojanRequest.header [112] .udpAssociate (.v4 IpAddress.unspecified) 0)) false]

/-- The relay sends a datagram, and so waits for others. -/
def busyEvents : List ServerSession.Event :=
  idleEvents ++ [.inRead (some (UDPPacket.generate localEndpoint [7])) false,
    .udpResolve ⟨[7], 1, ascii "127.0.0.1", 53⟩ (some [localEndpoint]) false]

/-- An application asks a client for a UDP relay, and the tunnel is
established. -/
def associateEvents : List ClientSession.Event :=
  [.start (some {}), .inRead (.success [5, 1, 0]) none, .inWrite [5, 0] false,
    .inRead (.success [5, 3, 0, 1, 0, 0, 0, 0, 0, 0]) (some localEndpoint),
    .inWrite ([5, 0, 0] ++ SOCKS5Address.generate localEndpoint) false,
    .resolve (some [localEndpoint.address]) false, .tcpConnect localEndpoint.address false,
    .tlsHandshake false]

/-- A session of the server that can receive a datagram of `MAX_LENGTH`
bytes. -/
theorem exists_busy : ∃ s : ServerSession, s.Reachable localEnv ∧ s.status = .udpForward
    ∧ .udpReceive ∈ s.pending ∧ maxLength ≤ s.udpReadBuf.length := by
  have hrun : (Machine.run (ServerSession.step localEnv) (.create .standardTls none)
      busyEvents).any (fun s => s.status = .udpForward ∧ .udpReceive ∈ s.pending
        ∧ maxLength ≤ s.udpReadBuf.length) = true := by
    decide +kernel
  obtain ⟨s, hs, hcond⟩ := Option.any_eq_true _ _ |>.mp hrun
  exact ⟨s, ⟨_, _, _, _, hs⟩, of_decide_eq_true hcond⟩

/-- A session of the client that waits for a frame. -/
theorem exists_waiting : ∃ c : ClientSession, c.Reachable localEnv.config ∧ c.Waits := by
  have hrun : (Machine.run (ClientSession.step localEnv.config) .create associateEvents).any
      (fun c => c.status = .udpForward ∧ c.udpDataBuf = [] ∧ .outRead ∈ c.pending) = true := by
    decide +kernel
  obtain ⟨c, hc, hcond⟩ := Option.any_eq_true _ _ |>.mp hrun
  obtain ⟨hstatus, hbuf, hop⟩ := of_decide_eq_true hcond
  exact ⟨c, ⟨_, _, hc⟩, hstatus, hbuf, hop⟩

/-- A datagram of one byte is delivered, in either direction. -/
theorem udp_frame_delivered_one_byte :
    (∃ (s : ServerSession) (c : ClientSession) (frame : Bytes),
      s.Emits localEnv [7] localEndpoint frame
        ∧ c.Delivers localEnv.config frame
          ([0, 0, 0] ++ SOCKS5Address.generate localEndpoint ++ [7]))
      ∧ ∃ (c : ClientSession) (s : ServerSession) (frame : Bytes) (f : UdpFrame),
        c.Emits localEnv.config ([0, 0, 0] ++ SOCKS5Address.generate localEndpoint ++ [7])
            localEndpoint frame
          ∧ s.Delivers localEnv frame (ServerSession.requestOf f) := by
  refine ⟨?_, ?_⟩
  · obtain ⟨s, hreach, hs, hop, hroom⟩ := exists_busy
    obtain ⟨c, hc, hwaits⟩ := exists_waiting
    have hemits : s.Emits localEnv [7] localEndpoint _ :=
      ServerSession.emits_of_pending localEnv localEndpoint hs hop
        (Nat.le_trans (by decide) hroom) (by decide)
    exact ⟨s, c, _, hemits, ((udp_frame_delivered_iff hreach hc [7] localEndpoint _).1 hemits
      hwaits).mpr (by decide)⟩
  · have hrun : (Machine.run (ClientSession.step localEnv.config) .create associateEvents).any
        (fun c => (ClientSession.step localEnv.config c (.udpReceive (.success
          ([0, 0, 0] ++ SOCKS5Address.generate localEndpoint ++ [7], localEndpoint)))).any
            (fun t => t.uplink = c.uplink ++ UDPPacket.generate localEndpoint [7])) = true := by
      decide +kernel
    have hidle : (Machine.run (ServerSession.step localEnv) (.create .standardTls none)
        idleEvents).any (fun s => s.status = .udpForward ∧ s.udpDataBuf = []
          ∧ .inRead ∈ s.pending) = true := by
      decide +kernel
    obtain ⟨c, hc, hcond⟩ := Option.any_eq_true _ _ |>.mp hrun
    obtain ⟨t, ht, hup⟩ := Option.any_eq_true _ _ |>.mp hcond
    obtain ⟨s, hs, hcond⟩ := Option.any_eq_true _ _ |>.mp hidle
    obtain ⟨hstatus, hbuf, hop⟩ := of_decide_eq_true hcond
    have hemits : c.Emits localEnv.config _ localEndpoint (UDPPacket.generate localEndpoint [7]) :=
      ⟨by decide, t, ht, of_decide_eq_true hup⟩
    obtain ⟨f, -, hiff⟩ := (udp_frame_delivered_iff ⟨_, _, _, _, hs⟩ ⟨_, _, hc⟩ _ localEndpoint
      _).2 hemits ⟨hstatus, hbuf, hop⟩
    exact ⟨c, s, _, f, hemits, hiff.mpr (by decide)⟩

/-- **A frame that its reader does not take.** A datagram of `MAX_LENGTH` bytes
from an IPv4 endpoint makes a frame of `MAX_LENGTH + 11` bytes. Read as
`MAX_LENGTH` bytes and then one, it makes the client destroy the session. -/
theorem udp_frame_not_delivered :
    ¬ ((∀ (env : ServerSession.Env) (s : ServerSession) (data : Bytes) (endpoint : UdpEndpoint)
          (frame : Bytes) (config : Config) (c : ClientSession),
        s.Reachable env → s.Emits env data endpoint frame → c.Reachable config → c.Waits →
        c.Delivers config frame ([0, 0, 0] ++ SOCKS5Address.generate endpoint ++ data))
      ∧ ∀ (config : Config) (c : ClientSession) (data : Bytes) (endpoint : UdpEndpoint)
          (frame : Bytes) (env : ServerSession.Env) (s : ServerSession),
        c.Reachable config → c.Emits config data endpoint frame → s.Reachable env → s.Waits →
        ∃ f : UdpFrame, data = [0, 0, 0] ++ f.host.wire f.port ++ f.payload
          ∧ s.Delivers env frame (ServerSession.requestOf f)) := by
  rintro ⟨hall, -⟩
  obtain ⟨s, hreach, hs, hop, hroom⟩ := exists_busy
  obtain ⟨c, hc, hwaits⟩ := exists_waiting
  obtain ⟨data, hlength⟩ : ∃ data : Bytes, data.length = maxLength :=
    ⟨List.replicate maxLength 0, List.length_replicate⟩
  have hdatagram : data.length < 65536 := by
    rw [hlength]
    decide
  have hemits := ServerSession.emits_of_pending localEnv localEndpoint hs hop
    (hlength.symm ▸ hroom) hdatagram
  have hdelivers := hall localEnv s _ localEndpoint _ localEnv.config c hreach hemits hc hwaits
  rw [UDPPacket.generate_eq_bytes _ _ hdatagram, SOCKS5Address.generate_eq_wire] at hdelivers
  have hle := (ClientSession.delivers_iff hc hwaits (.ofEndpoint localEndpoint data hdatagram)).mp
    hdelivers
  have hwire : ((UdpFrame.ofEndpoint localEndpoint data hdatagram).host.wire
      (UdpFrame.ofEndpoint localEndpoint data hdatagram).port).length = 7 :=
    localEndpoint.length_wire
  rw [UdpFrame.length_bytes, hwire] at hle
  change 7 + 4 + data.length ≤ maxLength + 1 at hle
  omega
