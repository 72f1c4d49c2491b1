import Trojan.ClientSession
import Trojan.Util.PumpHistory

/-!
# The uplink of a client session

What an application sends goes to the tunnel through a pump in the sense of
`Trojan.Util.Pump`. Its source is the connection of the application, or the UDP
socket of the session if the request was one for an association; its sink is the
tunnel, and its header the Trojan request. `in_sent` sets the pump up, once the
reply to the SOCKS5 request is sent.

The two modes are treated together: in both, the handler of the TLS handshake
cancels the read ahead unless a first packet has come, and the handler of a write
to the tunnel reads again. There is one difference. During `CONNECT` an
association reads from two places, and what comes from the application counts as
a first packet even though nothing was read from the UDP socket.
-/

namespace ClientSession

open Flight

/-- What an operation is to the uplink of a session, in either mode. -/
def Operation.kind (udp : Bool) : Operation → Pump.Kind UInt8
  | inRead => if udp then .other else .read
  | udpReceive => if udp then .read else .other
  | outWrite data => .write data
  | resolve => .opening
  | tcpConnect _ => .opening
  | tlsHandshake => .opening
  | _ => .other

/-- The Trojan request that a session makes of a SOCKS5 request, if it accepts
it. -/
def acceptedRequest (config : Config) (data : Bytes) (bound : Option UdpEndpoint) : Option Bytes :=
  if data.length < 7 ∨ data.getD 0 0 ≠ 5 ∨ data.getD 2 0 ≠ 0 then none
  else match ({} : TrojanRequest).parse (requestBuffer config data) with
  | (_, none) => none
  | (req, some _) =>
    if req.command = some TrojanRequest.Command.udpAssociate ∧ bound = none then none
    else some (requestBuffer config data)

/-- What a datagram of the application becomes in the tunnel. -/
def framed (data : Bytes) : Bytes := ((framePacket data).map Prod.snd).getD []

/-- **How the uplink is read off a history**: the header is the request that was
accepted, and what is carried is what was read afterwards and before the session
is destroyed. -/
def reading (config : Config) (udp : Bool) : Pump.Reading Operation Note UInt8 where
  kind := Operation.kind udp
  opens
    | .tunnelEstablished => true
    | _ => false
  header
    | .handled status (.inRead (.success data) bound) =>
      if status = .request then (acceptedRequest config data bound).getD [] else []
    | _ => []
  brings
    | .handled status (.inRead (.success data) _) =>
      if status = .connect ∨ status = .forward then data else []
    | .handled status (.udpReceive (.success (data, _))) =>
      if status = .connect ∨ status = .udpForward then framed data else []
    | _ => []

/-- The phase of the uplink. -/
def phase (s : ClientSession) : Pump.Phase :=
  match s.status with
  | .connect => .opening
  | .forward => .flowing
  | .udpForward => .flowing
  | .destroy => .closed
  | _ => .idle

/-- **The uplink of a session** that relays a stream, or datagrams. -/
def upstream (config : Config) (udp : Bool) :
    Pump.Program ClientSession Event Operation Buffer Note UInt8 where
  reading := reading config udp
  history := history
  phase := phase
  early := firstPacketRecv
  buffer := outWriteBuf
  operation := Event.operation
  note s e := .handled s.status e
  aborted
    | .inRead .aborted _ => true
    | .udpReceive .aborted => true
    | _ => false
  opens s e := e = .tlsHandshake false && s.isUdp = udp

/-- **A read that was cancelled brings data to the tunnel.** -/
def late (s : ClientSession) (e : Event) (cancelled : Bool) : Bool :=
  match e with
  | .inRead (.success _) _ => cancelled && s.status = .forward
  | _ => false

/-- The receives in flight. -/
def receivesInFlight (s : ClientSession) : ℕ := s.pending.count .udpReceive

/-- **What upsets an association**: an empty datagram, a receive that was
cancelled and brings a good one all the same, and a tunnel that is established
while a receive is in flight that a first packet of the application has kept from
being cancelled. -/
def upset (s : ClientSession) (stale : ℕ) (e : Event) (cancelled : Bool) : Bool :=
  match e with
  | .udpReceive (.success (data, _)) =>
    s.status = .udpForward && if cancelled then (framePacket data).isSome else data.isEmpty
  | .tlsHandshake false => s.isUdp && s.firstPacketRecv && stale < s.receivesInFlight
  | _ => false

/-! ## The relaying session -/

/-- The statuses of a session past its SOCKS5 request, in either mode. -/
def Status.relays (udp : Bool) : Status → Bool
  | connect => true
  | forward => !udp
  | udpForward => udp
  | destroy => true
  | _ => false

/-- **A session past its SOCKS5 request**, in one of the modes. If it relays a
stream, it receives no datagrams. -/
structure Relays (udp : Bool) (s : ClientSession) : Prop where
  isUdp : s.isUdp = udp
  status : s.status.relays udp = true
  quiet : udp = false → .udpReceive ∉ s.pending
  started : s.history ≠ []

namespace Relays

variable {udp : Bool} {s t : ClientSession}

/-- Such a session is past the idle phase. -/
theorem phase_ne_idle (hs : Relays udp s) : s.phase ≠ .idle := by
  have hstatus := hs.status
  unfold ClientSession.phase
  cases h : s.status <;> simp_all [Status.relays]

theorem eq_destroy (hs : Relays udp s) (hconnect : s.status ≠ .connect)
    (hforward : s.status ≠ .forward) (hudpForward : s.status ≠ .udpForward) :
    s.status = .destroy := by
  have hstatus := hs.status
  cases h : s.status <;> simp_all [Status.relays]

/-- Data flows in an association when it is in `UDP_FORWARD`. -/
theorem flowing_iff (hs : Relays true s) : s.phase = .flowing ↔ s.status = .udpForward := by
  have hstatus := hs.status
  unfold ClientSession.phase
  cases h : s.status <;> simp_all [Status.relays]

/-- A handler that keeps the mode. -/
theorem goesOn (hs : Relays udp s) (new : History) (ht : t.history = new ++ s.history)
    (hudp : t.isUdp = s.isUdp) (hstatus : t.status.relays udp = true)
    (hnew : udp = false → ∀ m ∈ new, m ≠ .began .udpReceive ∧ m ≠ .ended .udpReceive) :
    Relays udp t where
  isUdp := hudp.trans hs.isUdp
  status := hstatus
  quiet hfalse hmem := by
    rw [pending, ht, mem_inFlight_append (hnew hfalse)] at hmem
    exact hs.quiet hfalse hmem
  started := by
    rw [ht]
    exact List.append_ne_nil_of_right_ne_nil _ hs.started

/-- One that keeps the status as well. -/
theorem rests (hs : Relays udp s) (new : History) (ht : t.history = new ++ s.history)
    (hudp : t.isUdp = s.isUdp) (hstatus : t.status = s.status)
    (hnew : ∀ m ∈ new, m ≠ .began .udpReceive ∧ m ≠ .ended .udpReceive) : Relays udp t :=
  hs.goesOn new ht hudp (hstatus ▸ hs.status) (fun _ => hnew)

theorem destroy (hs : Relays udp s) : Relays udp s.destroy := by
  unfold ClientSession.destroy
  split
  · exact hs
  · dsimp only
    split
    · exact hs.goesOn [_, _, _] rfl rfl rfl (by simp)
    · exact hs.goesOn [_] rfl rfl rfl (by simp)

theorem receives (hs : Relays udp s) (e : Event) : Relays udp (s.receives e) := by
  unfold ClientSession.receives
  split
  · exact hs.rests [_] rfl rfl rfl (by simp)
  · exact ⟨hs.isUdp, hs.status, fun hfalse hmem => hs.quiet hfalse (List.mem_of_mem_erase hmem),
      List.cons_ne_nil _ _⟩

theorem inRecv (hs : Relays udp s) (config : Config) (length : ℕ) (bound : Option UdpEndpoint) :
    Relays udp (s.inRecv config length bound) := by
  have hmodified : Relays udp
      { s with
          inReadBuf := growAfterRead s.inReadBuf length
          history := .modified .inReadBuf :: s.history } :=
    hs.rests [_] rfl rfl rfl (by simp)
  have hstatus := hs.status
  unfold ClientSession.inRecv
  dsimp only
  split
  · rename_i hhandshake
    exact absurd (hhandshake ▸ hstatus) nofun
  · rename_i hrequest
    exact absurd (hrequest ▸ hstatus) nofun
  · exact hmodified.rests [] rfl rfl rfl (by simp)
  · exact hmodified.rests [_, _] rfl rfl rfl (by simp)
  · exact hmodified.destroy
  · exact hmodified

theorem inSent (hs : Relays udp s) : Relays udp s.inSent := by
  have hstatus := hs.status
  unfold ClientSession.inSent
  dsimp only
  split
  · rename_i hhandshake
    exact absurd (hhandshake ▸ hstatus) nofun
  · rename_i hrequest
    exact absurd (hrequest ▸ hstatus) nofun
  · exact hs.rests [_] rfl rfl rfl (by simp)
  · exact hs.destroy
  · exact hs

theorem resolved (hs : Relays udp s) (results : Option (List IpAddress)) (openError : Bool) :
    Relays udp (s.resolved results openError) := by
  unfold ClientSession.resolved
  split
  · exact hs.destroy
  · split
    · exact hs.destroy
    · exact hs.rests [_, _] rfl rfl rfl (by simp)

theorem connected (hs : Relays udp s) (error : Bool) : Relays udp (s.connected error) := by
  unfold ClientSession.connected
  split
  · exact hs.destroy
  · exact hs.rests [_] rfl rfl rfl (by simp)

theorem handshaken (hs : Relays udp s) (error : Bool) : Relays udp (s.handshaken error) := by
  unfold ClientSession.handshaken
  split
  · exact hs.destroy
  · refine hs.goesOn [_, _, _, _] rfl rfl ?_ (by simp)
    show (if s.isUdp then Status.udpForward else .forward).relays udp = true
    rw [hs.isUdp]
    cases udp <;> rfl

theorem udpSent (hs : Relays udp s) : Relays udp s.udpSent := by
  unfold ClientSession.udpSent
  dsimp only
  split
  · split
    · split
      · exact hs.destroy
      · exact hs.rests [_] rfl rfl rfl (by simp)
    · split
      · exact hs.destroy
      · exact hs.rests [_, _] rfl rfl rfl (by simp)
  · exact hs

theorem outRecv (hs : Relays udp s) (length : ℕ) : Relays udp (s.outRecv length) := by
  have hmodified : Relays udp
      { s with
          outReadBuf := growAfterRead s.outReadBuf length
          history := .modified .outReadBuf :: s.history } :=
    hs.rests [_] rfl rfl rfl (by simp)
  unfold ClientSession.outRecv
  dsimp only
  split
  · exact hmodified.rests [_, _] rfl rfl rfl (by simp)
  · split
    · exact udpSent (hmodified.rests [] rfl rfl rfl (by simp))
    · exact hmodified

theorem outSent (hs : Relays udp s) : Relays udp s.outSent := by
  unfold ClientSession.outSent
  split
  · exact hs.rests [_] rfl rfl rfl (by simp)
  · split
    · rename_i hudpForward
      have htrue : udp = true := by
        have hstatus := hs.status
        rwa [hudpForward] at hstatus
      exact hs.goesOn [_] rfl rfl hs.status
        (fun hfalse => absurd (htrue.symm.trans hfalse) Bool.noConfusion)
    · exact hs

theorem udpRecv (hs : Relays udp s) (length : ℕ) : Relays udp (s.udpRecv length) := by
  have hmodified : Relays udp
      { s with
          udpReadBuf := growAfterRead s.udpReadBuf length
          history := .modified .udpReadBuf :: s.history } :=
    hs.rests [_] rfl rfl rfl (by simp)
  unfold ClientSession.udpRecv
  dsimp only
  split
  · exact hmodified
  · split
    · exact hmodified.destroy
    · split
      · exact hmodified.rests [] rfl rfl rfl (by simp)
      · split
        · exact hmodified.rests [_, _] rfl rfl rfl (by simp)
        · exact hmodified.rests [] rfl rfl rfl (by simp)

/-- **A session stays past its request**, and keeps its mode. -/
theorem handle (hs : Relays udp s) (config : Config) {e : Event} (he : e.operation ≠ none) :
    Relays udp (s.handle config e) := by
  cases e with
  | start remoteEndpoint => exact absurd rfl he
  | inRead data bound =>
    cases data with
    | aborted => exact hs
    | failed => exact hs.destroy
    | success data =>
      refine inRecv ?_ config _ _
      exact hs.rests [] rfl rfl rfl (by simp)
  | inWrite data error =>
    cases error with
    | true => exact hs.destroy
    | false => exact hs.inSent
  | resolve results openError => exact hs.resolved results openError
  | tcpConnect endpoint error => exact hs.connected error
  | tlsHandshake error => exact hs.handshaken error
  | outRead data =>
    cases data with
    | none => exact hs.destroy
    | some data =>
      refine outRecv ?_ _
      exact hs.rests [] rfl rfl rfl (by simp)
  | outWrite data error =>
    cases error with
    | true => exact hs.destroy
    | false => exact hs.outSent
  | udpReceive received =>
    cases received with
    | aborted => exact hs
    | failed => exact hs.destroy
    | success received =>
      refine udpRecv ?_ _
      exact hs.rests [] rfl rfl rfl (by simp)
  | udpSend data endpoint error =>
    cases error with
    | true => exact hs.destroy
    | false => exact hs.udpSent
  | tlsShutdown aborted =>
    cases aborted with
    | true => exact hs
    | false => exact hs.rests [] rfl rfl rfl (by simp)
  | shutdownTimer aborted =>
    cases aborted with
    | true => exact hs
    | false => exact hs.rests [] rfl rfl rfl (by simp)

end Relays

/-! ## The events, one by one -/

variable {config : Config} {udp : Bool} {s t u : ClientSession} {e : Event} {op : Operation}
  {stale : ℕ} {cancelled : Bool}

/-- The marks of a handler. -/
theorem adds (hop : e.operation = some op) {new : History}
    (ht : t.history = new ++ (s.receives e).history) : (upstream config udp).Adds s e op t new := by
  unfold receives at ht
  rw [hop] at ht
  exact ht

/-- **A handler that destroys the session**, in the end. -/
theorem fails (h : (upstream config udp).Completes s stale e cancelled op) (mid : History)
    (hu : u.history = mid ++ (s.receives e).history)
    (hfirst : u.firstPacketRecv = s.firstPacketRecv) (hbuf : u.outWriteBuf = s.outWriteBuf)
    (hopens : (upstream config udp).opens s e = false)
    (hmid : mid.all (reading config udp).neutral = true)
    (hnote : (reading config udp).neutral
      (.noted (.handled s.status e) : Mark Operation Buffer Note) = true) :
    (upstream config udp).Does s stale e cancelled u.destroy
      (.closes ((op.kind udp).ended cancelled)) := by
  unfold destroy
  split
  · rename_i hdestroy
    refine h.closes mid (adds h.operation hu) ?_ hfirst hbuf hopens hmid hnote
    show u.phase = .closed
    rw [phase, hdestroy]
  · dsimp only
    split
    · exact h.closes (.began .shutdownTimer :: .began .tlsShutdown :: .noted .destroyed :: mid)
        (adds h.operation (congrArg (_ :: _ :: _ :: ·) hu)) rfl hfirst hbuf hopens hmid hnote
    · exact h.closes (.noted .destroyed :: mid) (adds h.operation (congrArg (_ :: ·) hu)) rfl hfirst
        hbuf hopens hmid hnote

/-- **A step is an act of the uplink.** If the session relays a stream, the act is
clean unless a cancelled read brings data; if it relays datagrams, it is fine
unless it upsets the association. -/
def Acts (config : Config) (udp : Bool) (s : ClientSession) (stale : ℕ) (e : Event)
    (cancelled : Bool) (t : ClientSession) : Prop :=
  ∃ a, (upstream config udp).Does s stale e cancelled t a
    ∧ (udp = false → s.late e cancelled = false → a.Clean)
    ∧ (udp = true →
      (((upstream config udp).pump s stale).Fine a ↔ s.upset stale e cancelled = false))

/-- Acts that are always clean and fine. -/
theorem acts_of_does {a : Pump.Act UInt8} (ha : (upstream config udp).Does s stale e cancelled t a)
    (hclean : a.Clean) (hfine : ((upstream config udp).pump s stale).Fine a)
    (hupset : s.upset stale e cancelled = false) : Acts config udp s stale e cancelled t :=
  ⟨a, ha, fun _ _ => hclean, fun _ => iff_of_true hfine hupset⟩

theorem acts_inRead {data : Outcome Bytes} {bound : Option UdpEndpoint} (hs : Relays udp s)
    (h : (upstream config udp).Completes s stale (.inRead data bound) cancelled op) :
    Acts config udp s stale (.inRead data bound) cancelled
      ((s.receives (.inRead data bound)).handle config (.inRead data bound)) := by
  obtain rfl := Option.some.inj h.operation
  cases data with
  | failed => exact acts_of_does (fails h [] rfl rfl rfl rfl rfl rfl) trivial trivial rfl
  | aborted =>
    cases udp with
    | true =>
      exact acts_of_does (h.rests rfl [] (adds rfl rfl) ⟨rfl, rfl, rfl⟩ rfl rfl rfl) trivial
        trivial rfl
    | false =>
      cases cancelled with
      | false => exact absurd (Watch.live_of_admits h.admits rfl).2 nofun
      | true =>
        exact acts_of_does
          (h.drops rfl [] (adds rfl rfl) hs.phase_ne_idle ⟨rfl, rfl, rfl⟩ rfl rfl rfl)
          rfl (.inl rfl) rfl
  | success data =>
    show Acts config udp s stale _ cancelled
      ({ s.receives (.inRead (.success data) bound) with
          inReadBuf := fillBuffer s.inReadBuf data }.inRecv config data.length bound)
    have hrelays := hs.status
    have hbrings (hstatus : s.status = .connect ∨ s.status = .forward) :
        (reading config udp).brings (.handled s.status (.inRead (.success data) bound)) = data :=
      if_pos hstatus
    have hheader : (reading config udp).header (.handled s.status (.inRead (.success data) bound))
        = [] := by
      refine if_neg (fun hrequest => ?_)
      exact absurd (hrequest ▸ hrelays) nofun
    have hnote (hconnect : s.status ≠ .connect) (hforward : s.status ≠ .forward) :
        (reading config udp).neutral (.noted (.handled s.status (.inRead (.success data) bound))
          : Mark Operation Buffer Note) = true :=
      Pump.Reading.neutral_noted.mpr ⟨rfl, hheader, if_neg (not_or.mpr ⟨hconnect, hforward⟩)⟩
    unfold inRecv
    dsimp only
    rw [take_growAfterRead]
    split
    · rename_i hhandshake
      exact absurd (hhandshake ▸ hrelays) nofun
    · rename_i hrequest
      exact absurd (hrequest ▸ hrelays) nofun
    · rename_i hconnect
      have hstatus : s.status = .connect := hconnect
      have hphase : s.phase = .opening := by rw [phase, hstatus]
      have hbuf : s.outWriteBuf ++ data = s.outWriteBuf
          ++ (reading config udp).brings (.handled s.status (.inRead (.success data) bound)) :=
        congrArg (s.outWriteBuf ++ ·) (hbrings (.inl hstatus)).symm
      cases udp with
      | false =>
        exact acts_of_does (h.keeps rfl [_] (adds rfl rfl) hphase hphase rfl hbuf rfl rfl rfl hheader)
          trivial trivial rfl
      | true =>
        exact ⟨_, h.marks rfl [_] (adds rfl rfl) hphase hphase rfl hbuf rfl rfl rfl hheader,
          nofun, fun _ => iff_of_true trivial rfl⟩
    · rename_i hforward
      have hstatus : s.status = .forward := hforward
      have hphase : s.phase = .flowing := by rw [phase, hstatus]
      obtain rfl : udp = false := by
        rw [hstatus] at hrelays
        simpa [Status.relays] using hrelays
      refine ⟨_, h.forwards rfl [_, _] (adds rfl rfl)
        (congrArg Pump.Kind.write (hbrings (.inr hstatus)).symm) hphase ⟨rfl, rfl, rfl⟩ rfl rfl rfl
        hheader, fun _ hlate => ?_, nofun⟩
      show cancelled = false
      simpa [late, hstatus] using hlate
    · rename_i hudpForward
      have hstatus : s.status = .udpForward := hudpForward
      exact acts_of_does (fails h [_] rfl rfl rfl rfl rfl
        (hnote (by simp [hstatus]) (by simp [hstatus]))) trivial trivial rfl
    · rename_i hconnect hforward hudpForward
      have hstatus : s.status = .destroy := hs.eq_destroy hconnect hforward hudpForward
      refine acts_of_does (h.closes [_] (adds rfl rfl) ?_ rfl rfl rfl rfl
        (hnote hconnect hforward)) trivial trivial rfl
      show s.phase = .closed
      rw [phase, hstatus]

/-- A handler that does nothing for the uplink. -/
theorem acts_rest (h : (upstream config udp).Completes s stale e cancelled op)
    (hkind : op.kind udp = .other) (new : History) (ht : t.history = new ++ (s.receives e).history)
    (hkeeps : (upstream config udp).Keeps s t) (hopens : (upstream config udp).opens s e = false)
    (hnew : new.all (reading config udp).neutral = true)
    (hnote : (reading config udp).neutral
      (.noted (.handled s.status e) : Mark Operation Buffer Note) = true)
    (hupset : s.upset stale e cancelled = false) : Acts config udp s stale e cancelled t :=
  acts_of_does (h.rests hkind new (adds h.operation ht) hkeeps hopens hnew hnote) trivial trivial
    hupset

/-- A handler that destroys the session. -/
theorem acts_fail (h : (upstream config udp).Completes s stale e cancelled op) (mid : History)
    (hu : u.history = mid ++ (s.receives e).history)
    (hfirst : u.firstPacketRecv = s.firstPacketRecv) (hbuf : u.outWriteBuf = s.outWriteBuf)
    (hopens : (upstream config udp).opens s e = false)
    (hmid : mid.all (reading config udp).neutral = true)
    (hnote : (reading config udp).neutral
      (.noted (.handled s.status e) : Mark Operation Buffer Note) = true)
    (hupset : s.upset stale e cancelled = false) : Acts config udp s stale e cancelled u.destroy :=
  acts_of_does (fails h mid hu hfirst hbuf hopens hmid hnote) trivial trivial hupset

theorem acts_resolve {results : Option (List IpAddress)} {openError : Bool}
    (h : (upstream config udp).Completes s stale (.resolve results openError) cancelled op) :
    Acts config udp s stale (.resolve results openError) cancelled
      ((s.receives (.resolve results openError)).handle config (.resolve results openError)) := by
  obtain rfl := Option.some.inj h.operation
  show Acts config udp s stale _ cancelled
    ((s.receives (.resolve results openError)).resolved results openError)
  unfold resolved
  split
  · exact acts_fail h [] rfl rfl rfl rfl rfl rfl rfl
  · split
    · exact acts_fail h [] rfl rfl rfl rfl rfl rfl rfl
    · exact acts_of_does (h.advances rfl [.noted .openedOutSocket] (adds rfl rfl) rfl
        ⟨rfl, rfl, rfl⟩ rfl rfl rfl) trivial trivial rfl

theorem acts_tcpConnect {endpoint : IpAddress} {error : Bool}
    (h : (upstream config udp).Completes s stale (.tcpConnect endpoint error) cancelled op) :
    Acts config udp s stale (.tcpConnect endpoint error) cancelled
      ((s.receives (.tcpConnect endpoint error)).handle config (.tcpConnect endpoint error)) := by
  obtain rfl := Option.some.inj h.operation
  cases error with
  | true => exact acts_fail h [] rfl rfl rfl rfl rfl rfl rfl
  | false =>
    exact acts_of_does (h.advances rfl [] (adds rfl rfl) rfl ⟨rfl, rfl, rfl⟩ rfl rfl rfl) trivial
      trivial rfl

/-- The receives in flight are the reads of the uplink of an association. -/
theorem receivesInFlight_eq (s : ClientSession) (stale : ℕ) :
    ((upstream config true).pump s stale).reads = s.receivesInFlight := by
  refine List.countP_congr (fun op _ => ?_)
  cases op <;> simp [upstream, Pump.Reading.isRead, reading, Operation.kind, Pump.Kind.isRead]

theorem acts_tlsHandshake {error : Bool} (hs : Relays udp s)
    (h : (upstream config udp).Completes s stale (.tlsHandshake error) cancelled op) :
    Acts config udp s stale (.tlsHandshake error) cancelled
      ((s.receives (.tlsHandshake error)).handle config (.tlsHandshake error)) := by
  obtain rfl := Option.some.inj h.operation
  cases error with
  | true => exact acts_fail h [] rfl rfl rfl rfl rfl rfl rfl
  | false =>
    refine ⟨.opens, h.opensSink rfl [.modified .outWriteData, .began .outRead] (adds rfl rfl) rfl
      ⟨rfl, rfl, rfl⟩ ?_ rfl rfl ?_ rfl rfl, fun _ _ => trivial, fun htrue => ?_⟩
    · have hstatus : ((s.receives (.tlsHandshake false)).handshaken false).status
          = if s.isUdp then .udpForward else .forward := rfl
      show ((s.receives (.tlsHandshake false)).handshaken false).phase = .flowing
      rw [phase, hstatus]
      cases s.isUdp <;> rfl
    · simp [upstream, hs.isUdp]
    · obtain rfl := htrue
      show ¬ (s.firstPacketRecv = true ∧ stale < ((upstream config true).pump s stale).reads)
        ↔ (s.isUdp && s.firstPacketRecv && decide (stale < s.receivesInFlight)) = false
      rw [receivesInFlight_eq, hs.isUdp]
      simp

/-- The downlink of an association does not touch its uplink. -/
theorem acts_udpSent (h : (upstream config udp).Completes s stale e cancelled op)
    (hkind : op.kind udp = .other) (mid : History)
    (hu : u.history = mid ++ (s.receives e).history) (hkeeps : (upstream config udp).Keeps s u)
    (hopens : (upstream config udp).opens s e = false)
    (hmid : mid.all (reading config udp).neutral = true)
    (hnote : (reading config udp).neutral
      (.noted (.handled s.status e) : Mark Operation Buffer Note) = true)
    (hupset : s.upset stale e cancelled = false) : Acts config udp s stale e cancelled u.udpSent := by
  unfold udpSent
  dsimp only
  split
  · split
    · split
      · exact acts_fail h mid hu hkeeps.early hkeeps.buffer hopens hmid hnote hupset
      · exact acts_rest h hkind (.began .outRead :: mid) (congrArg (_ :: ·) hu)
          ⟨hkeeps.phase, hkeeps.early, hkeeps.buffer⟩ hopens hmid hnote hupset
    · split
      · exact acts_fail h mid hu hkeeps.early hkeeps.buffer hopens hmid hnote hupset
      · exact acts_rest h hkind (.began (.udpSend _ _) :: .modified .udpWriteData :: mid)
          (congrArg (_ :: _ :: ·) hu) ⟨hkeeps.phase, hkeeps.early, hkeeps.buffer⟩ hopens hmid hnote
          hupset
  · exact acts_rest h hkind mid hu hkeeps hopens hmid hnote hupset

theorem acts_outRead {data : Option Bytes}
    (h : (upstream config udp).Completes s stale (.outRead data) cancelled op) :
    Acts config udp s stale (.outRead data) cancelled
      ((s.receives (.outRead data)).handle config (.outRead data)) := by
  obtain rfl := Option.some.inj h.operation
  cases data with
  | none => exact acts_fail h [] rfl rfl rfl rfl rfl rfl rfl
  | some data =>
    show Acts config udp s stale _ cancelled
      ({ s.receives (.outRead (some data)) with
          outReadBuf := fillBuffer s.outReadBuf data }.outRecv data.length)
    unfold outRecv
    dsimp only
    split
    · exact acts_rest h rfl [_, _, _] rfl ⟨rfl, rfl, rfl⟩ rfl rfl rfl rfl
    · split
      · exact acts_udpSent h rfl [_] rfl ⟨rfl, rfl, rfl⟩ rfl rfl rfl rfl
      · exact acts_rest h rfl [_] rfl ⟨rfl, rfl, rfl⟩ rfl rfl rfl rfl

theorem acts_udpSend {data : Bytes} {endpoint : UdpEndpoint} {error : Bool}
    (h : (upstream config udp).Completes s stale (.udpSend data endpoint error) cancelled op) :
    Acts config udp s stale (.udpSend data endpoint error) cancelled
      ((s.receives (.udpSend data endpoint error)).handle config (.udpSend data endpoint error)) := by
  obtain rfl := Option.some.inj h.operation
  cases error with
  | true => exact acts_fail h [] rfl rfl rfl rfl rfl rfl rfl
  | false => exact acts_udpSent h rfl [] rfl ⟨rfl, rfl, rfl⟩ rfl rfl rfl rfl

theorem acts_inWrite {data : Bytes} {error : Bool} (hs : Relays udp s)
    (h : (upstream config udp).Completes s stale (.inWrite data error) cancelled op) :
    Acts config udp s stale (.inWrite data error) cancelled
      ((s.receives (.inWrite data error)).handle config (.inWrite data error)) := by
  obtain rfl := Option.some.inj h.operation
  cases error with
  | true => exact acts_fail h [] rfl rfl rfl rfl rfl rfl rfl
  | false =>
    show Acts config udp s stale _ cancelled (s.receives (.inWrite data false)).inSent
    have hrelays := hs.status
    unfold inSent
    dsimp only
    split
    · rename_i hhandshake
      exact absurd (hhandshake ▸ hrelays) nofun
    · rename_i hrequest
      exact absurd (hrequest ▸ hrelays) nofun
    · exact acts_rest h rfl [.began .outRead] rfl ⟨rfl, rfl, rfl⟩ rfl rfl rfl rfl
    · exact acts_fail h [] rfl rfl rfl rfl rfl rfl rfl
    · exact acts_rest h rfl [] rfl ⟨rfl, rfl, rfl⟩ rfl rfl rfl rfl

theorem acts_outWrite {data : Bytes} {error : Bool} (hs : Relays udp s)
    (h : (upstream config udp).Completes s stale (.outWrite data error) cancelled op)
    (hsound : ((upstream config udp).pump s stale).Sound) :
    Acts config udp s stale (.outWrite data error) cancelled
      ((s.receives (.outWrite data error)).handle config (.outWrite data error)) := by
  obtain rfl := Option.some.inj h.operation
  cases error with
  | true => exact acts_fail h [] rfl rfl rfl rfl rfl rfl rfl
  | false =>
    show Acts config udp s stale _ cancelled (s.receives (.outWrite data false)).outSent
    have hrelays := hs.status
    unfold outSent
    split
    · rename_i hforward
      have hstatus : s.status = .forward := hforward
      obtain rfl : udp = false := by
        rw [hstatus] at hrelays
        simpa [Status.relays] using hrelays
      have hphase : s.phase = .flowing := by rw [phase, hstatus]
      exact acts_of_does (h.refills rfl [] (adds rfl rfl) rfl hphase ⟨rfl, rfl, rfl⟩ rfl rfl rfl)
        trivial trivial rfl
    · rename_i hforward
      split
      · rename_i hudpForward
        have hstatus : s.status = .udpForward := hudpForward
        obtain rfl : udp = true := by rwa [hstatus] at hrelays
        have hphase : s.phase = .flowing := by rw [phase, hstatus]
        exact acts_of_does (h.refills rfl [] (adds rfl rfl) rfl hphase ⟨rfl, rfl, rfl⟩ rfl rfl rfl)
          trivial trivial rfl
      · rename_i hudpForward
        by_cases hconnect : s.status = .connect
        · -- there is no write before the tunnel is established
          have hphase : ((upstream config udp).pump s stale).phase = .opening := by
            show s.phase = .opening
            rw [phase, hconnect]
          have hwrites : 0 < ((upstream config udp).pump s stale).writes := h.has
          have hsteady := hsound.steady
          simp only [Pump.Steady, hphase] at hsteady
          omega
        · have hstatus : s.status = .destroy := hs.eq_destroy hconnect hforward hudpForward
          refine acts_of_does (h.closes [] (adds rfl rfl) ?_ rfl rfl rfl rfl rfl) trivial trivial rfl
          show s.phase = .closed
          rw [phase, hstatus]

/-- A datagram is a good one, and the session is not destroyed. -/
theorem brings_of_framePacket {data packet : Bytes} {packetLength : ℕ} {endpoint : UdpEndpoint}
    (hframe : framePacket data = some (packetLength, packet))
    (hstatus : s.status = .connect ∨ s.status = .udpForward) :
    (reading config udp).brings (.handled s.status (.udpReceive (.success (data, endpoint))))
      = packet := by
  show (if s.status = .connect ∨ s.status = .udpForward then framed data else []) = packet
  rw [if_pos hstatus, framed, hframe]
  rfl

/-- A datagram that is not good brings nothing. -/
theorem neutral_of_framePacket {data : Bytes} {endpoint : UdpEndpoint}
    (hframe : framePacket data = none) :
    (reading config udp).neutral (.noted (.handled s.status (.udpReceive (.success (data, endpoint))))
      : Mark Operation Buffer Note) = true := by
  refine Pump.Reading.neutral_noted.mpr ⟨rfl, rfl, ?_⟩
  show (if s.status = .connect ∨ s.status = .udpForward then framed data else []) = []
  rw [framed, hframe]
  exact ite_self _

theorem acts_udpReceive {received : Outcome (Bytes × UdpEndpoint)} (hs : Relays udp s)
    (h : (upstream config udp).Completes s stale (.udpReceive received) cancelled op) :
    Acts config udp s stale (.udpReceive received) cancelled
      ((s.receives (.udpReceive received)).handle config (.udpReceive received)) := by
  obtain rfl := Option.some.inj h.operation
  cases udp with
  | false => exact absurd h.mem (hs.quiet rfl)
  | true =>
    cases received with
    | failed => exact acts_fail h [] rfl rfl rfl rfl rfl rfl rfl
    | aborted =>
      cases cancelled with
      | false => exact absurd (Watch.live_of_admits h.admits rfl).2 nofun
      | true =>
        exact acts_of_does (h.drops rfl [] (adds rfl rfl) hs.phase_ne_idle ⟨rfl, rfl, rfl⟩ rfl rfl rfl)
          rfl (.inl rfl) rfl
    | success received =>
      obtain ⟨data, endpoint⟩ := received
      show Acts config true s stale _ cancelled
        ({ s.receives (.udpReceive (.success (data, endpoint))) with
            udpReadBuf := fillBuffer s.udpReadBuf data, udpRecvEndpoint := endpoint }.udpRecv
          data.length)
      unfold udpRecv
      dsimp only
      rw [take_growAfterRead]
      split
      · -- nothing is begun for an empty datagram
        rename_i hempty
        obtain rfl := List.length_eq_zero_iff.mp hempty
        refine ⟨_, h.drops rfl [_] (adds rfl rfl) hs.phase_ne_idle ⟨rfl, rfl, rfl⟩ rfl rfl
          (neutral_of_framePacket rfl), nofun, fun _ => ?_⟩
        show (cancelled = true ∨ s.phase ≠ .flowing)
          ↔ (decide (s.status = .udpForward) && if cancelled then false else true) = false
        rw [Ne, hs.flowing_iff]
        cases cancelled <;> simp
      · rename_i hlength
        have hne : data.isEmpty = false := by
          cases data with
          | nil => exact absurd rfl hlength
          | cons b data => rfl
        split
        · rename_i hframe
          refine acts_fail h [_] rfl rfl rfl rfl rfl (neutral_of_framePacket hframe) ?_
          simp [upset, hframe, hne]
        · rename_i packetLength packet hframe
          split
          · rename_i hconnect
            have hstatus : s.status = .connect := hconnect
            have hphase : s.phase = .opening := by rw [phase, hstatus]
            refine acts_of_does (h.keeps rfl [_] (adds rfl rfl) hphase hphase rfl ?_ rfl rfl rfl rfl)
              trivial trivial (by simp [upset, hstatus])
            exact congrArg (s.outWriteBuf ++ ·)
              (brings_of_framePacket hframe (.inl hstatus)).symm
          · rename_i hconnect
            split
            · rename_i hudpForward
              have hstatus : s.status = .udpForward := hudpForward
              have hphase : s.phase = .flowing := hs.flowing_iff.mpr hstatus
              refine ⟨_, h.forwards rfl [_, _] (adds rfl rfl) ?_ hphase ⟨rfl, rfl, rfl⟩ rfl rfl rfl
                rfl, nofun, fun _ => ?_⟩
              · exact congrArg Pump.Kind.write
                  (brings_of_framePacket hframe (.inr hstatus)).symm
              · show cancelled = false ↔ s.upset stale _ cancelled = false
                cases cancelled <;> simp [upset, hstatus, hframe, hne]
            · rename_i hudpForward
              have hrelays := hs.status
              have hforward : s.status ≠ .forward := by
                intro hforward
                exact absurd (hforward ▸ hrelays) nofun
              have hstatus : s.status = .destroy := hs.eq_destroy hconnect hforward hudpForward
              refine acts_of_does (h.closes [_] (adds rfl rfl) ?_ rfl rfl rfl rfl ?_) trivial trivial
                (by simp [upset, hstatus])
              · show s.phase = .closed
                rw [phase, hstatus]
              · exact Pump.Reading.neutral_noted.mpr
                  ⟨rfl, rfl, if_neg (not_or.mpr ⟨hconnect, hudpForward⟩)⟩

/-! ## Before the request is answered -/

/-- The Trojan request that the session has made. -/
def requested (config : Config) (s : ClientSession) : Bytes :=
  collect (Pump.Reading.byNote (reading config false).header) s.history

/-- **A session that speaks SOCKS5**: it has one operation in flight at most, and
once it has answered the request, its buffer holds the Trojan request. -/
def Greets (config : Config) (s : ClientSession) : Prop :=
  match s.status with
  | .handshake =>
    s.requested config = []
      ∧ (s.pending = [] ∨ s.pending = [.inRead] ∨ ∃ data, s.pending = [.inWrite data])
  | .request =>
    s.requested config = [] ∧ (s.pending = [] ∨ s.pending = [.inRead])
      ∨ s.outWriteBuf = s.requested config ∧ ∃ data, s.pending = [.inWrite data]
  | .invalid => ∃ data, s.pending = [.inWrite data]
  | _ => False

theorem greets_of_handshake (hstatus : s.status = .handshake) (hrequested : s.requested config = [])
    (hp : s.pending = [] ∨ s.pending = [.inRead] ∨ ∃ data, s.pending = [.inWrite data]) :
    Greets config s := by
  rw [Greets, hstatus]
  exact ⟨hrequested, hp⟩

theorem greets_of_request (hstatus : s.status = .request)
    (h : s.requested config = [] ∧ (s.pending = [] ∨ s.pending = [.inRead])
      ∨ s.outWriteBuf = s.requested config ∧ ∃ data, s.pending = [.inWrite data]) :
    Greets config s := by
  rw [Greets, hstatus]
  exact h

theorem greets_of_invalid (hstatus : s.status = .invalid)
    (hp : ∃ data, s.pending = [.inWrite data]) : Greets config s := by
  rw [Greets, hstatus]
  exact hp

/-- What a handler adds to the request. -/
theorem requested_adds (hop : e.operation = some op) (new : History)
    (ht : t.history = new ++ (s.receives e).history)
    (hnew : collect (Pump.Reading.byNote (reading config false).header) new = []) :
    t.requested config
      = s.requested config ++ (reading config false).header (.handled s.status e) := by
  have hhistory : t.history = new ++ .ended op :: .noted (.handled s.status e) :: s.history := by
    unfold receives at ht
    rw [hop] at ht
    exact ht
  rw [requested, hhistory, collect_append, hnew, List.append_nil, collect_cons]
  exact List.append_nil _

namespace Greets

/-- What is in flight. -/
theorem pending_eq (hs : Greets config s) :
    s.pending = [] ∨ s.pending = [.inRead] ∨ ∃ data, s.pending = [.inWrite data] := by
  unfold Greets at hs
  split at hs
  · exact hs.2
  · rcases hs with ⟨-, hp | hp⟩ | hs
    · exact .inl hp
    · exact .inr (.inl hp)
    · exact .inr (.inr hs.2)
  · exact .inr (.inr hs)
  · exact hs.elim

theorem status_eq (hs : Greets config s) :
    s.status = .handshake ∨ s.status = .request ∨ s.status = .invalid := by
  unfold Greets at hs
  split at hs
  · exact .inl ‹_›
  · exact .inr (.inl ‹_›)
  · exact .inr (.inr ‹_›)
  · exact hs.elim

theorem phase_eq (hs : Greets config s) : s.phase = .idle := by
  unfold phase
  rcases hs.status_eq with hstatus | hstatus | hstatus <;> rw [hstatus]

/-- While it reads, it has made no request. -/
theorem asks (hs : Greets config s) (hp : s.pending = [.inRead]) :
    (s.status = .handshake ∨ s.status = .request) ∧ s.requested config = [] := by
  unfold Greets at hs
  split at hs
  · exact ⟨.inl ‹_›, hs.1⟩
  · rcases hs with hs | ⟨-, data, hwrite⟩
    · exact ⟨.inr ‹_›, hs.1⟩
    · exact absurd (hp.symm.trans hwrite) (by simp)
  · obtain ⟨data, hwrite⟩ := hs
    exact absurd (hp.symm.trans hwrite) (by simp)
  · exact hs.elim

theorem quiet (hs : Greets config s) : .udpReceive ∉ s.pending := by
  rcases hs.pending_eq with hp | hp | ⟨data, hp⟩ <;> simp [hp]

theorem reads_le (hs : Greets config s) (stale : ℕ) :
    ((upstream config udp).pump s stale).reads ≤ 1 := by
  refine Nat.le_trans List.countP_le_length ?_
  show s.pending.length ≤ 1
  rcases hs.pending_eq with hp | hp | ⟨data, hp⟩ <;> simp [hp]

end Greets

/-- A session is destroyed, in whichever mode. -/
theorem relays_destroy (hquiet : .udpReceive ∉ u.pending) (hstarted : u.history ≠ []) :
    Relays u.destroy.isUdp u.destroy := by
  have hnot (new : History)
      (hnew : ∀ m ∈ new, m ≠ .began .udpReceive ∧ m ≠ .ended .udpReceive) :
      .udpReceive ∉ inFlight (new ++ u.history) := by
    rw [mem_inFlight_append hnew]
    exact hquiet
  unfold destroy
  split
  · rename_i hstatus
    refine ⟨rfl, ?_, fun _ => hquiet, hstarted⟩
    rw [hstatus]
    rfl
  · dsimp only
    split
    · exact ⟨rfl, rfl, fun _ => hnot [_, _, _] (by simp), List.cons_ne_nil _ _⟩
    · exact ⟨rfl, rfl, fun _ => hnot [_] (by simp), List.cons_ne_nil _ _⟩

/-- **What becomes of a session that speaks SOCKS5**: it goes on to, or it is past
its request; and if its mode is known, the step is an act of its uplink. -/
structure Proceeds (config : Config) (s : ClientSession) (e : Event) (t : ClientSession) : Prop where
  next : Greets config t ∨ Relays t.isUdp t
  acts : ∀ {udp : Bool} {stale : ℕ} {cancelled : Bool} {op : Operation},
    (upstream config udp).Completes s stale e cancelled op →
    ((upstream config udp).pump s stale).Sound → t.isUdp = udp ∨ t.phase = .idle →
    Acts config udp s stale e cancelled t

theorem started_receives (s : ClientSession) (e : Event) : (s.receives e).history ≠ [] := by
  unfold receives
  split
  · exact List.cons_ne_nil _ _
  · exact List.cons_ne_nil _ _

/-- Before its pump is set up, nothing was cancelled. -/
theorem stale_eq_zero (hs : s.phase = .idle) (hsound : ((upstream config udp).pump s stale).Sound) :
    stale = 0 := by
  have hphase : ((upstream config udp).pump s stale).phase = .idle := hs
  have hsteady := hsound.steady
  simp only [Pump.Steady, hphase] at hsteady
  exact hsteady.2.2.1

/-- The session is destroyed. -/
theorem proceeds_fail (mid : History) (hu : u.history = mid ++ (s.receives e).history)
    (hquiet : .udpReceive ∉ u.pending) (hfirst : u.firstPacketRecv = s.firstPacketRecv)
    (hbuf : u.outWriteBuf = s.outWriteBuf) (he : e ≠ .tlsHandshake false)
    (hmid : ∀ udp, mid.all (reading config udp).neutral = true)
    (hnote : (reading config false).neutral
      (.noted (.handled s.status e) : Mark Operation Buffer Note) = true)
    (hupset : ∀ stale cancelled, s.upset stale e cancelled = false) :
    Proceeds config s e u.destroy where
  next := by
    refine .inr (relays_destroy hquiet ?_)
    rw [hu]
    exact List.append_ne_nil_of_right_ne_nil _ (started_receives s e)
  acts h _ _ := acts_fail h mid hu hfirst hbuf (by simp [upstream, he]) (hmid _) hnote (hupset _ _)

/-- The session answers. -/
theorem proceeds_answer (hs : s.phase = .idle) (hop : e.operation = some .inRead) (new : History)
    (ht : t.history = new ++ (s.receives e).history) (hgreets : Greets config t)
    (hfirst : t.firstPacketRecv = s.firstPacketRecv) (he : e ≠ .tlsHandshake false)
    (hnew : ∀ udp, new.all (reading config udp).neutral = true)
    (hbrings : (reading config false).brings (.handled s.status e) = [])
    (hupset : ∀ stale cancelled, s.upset stale e cancelled = false) :
    Proceeds config s e t where
  next := .inl hgreets
  acts {udp stale cancelled op} h hsound _ := by
    obtain rfl := stale_eq_zero hs hsound
    obtain rfl := Option.some.inj (hop.symm.trans h.operation)
    refine acts_of_does (h.idles ?_ new (adds hop ht) hs hgreets.phase_eq hfirst
      (by simp [upstream, he]) (hnew _) rfl hbrings (hgreets.reads_le 0)) trivial trivial
      (hupset _ _)
    cases udp with
    | true => exact .inl rfl
    | false => exact .inr rfl

theorem proceeds_recvGreeting {data : Bytes} {bound : Option UdpEndpoint}
    (hs : Greets config s) (hstatus : s.status = .handshake) (hp : s.pending = [.inRead])
    (buf : Bytes) :
    Proceeds config s (.inRead (.success data) bound)
      ({ s.receives (.inRead (.success data) bound) with
          inReadBuf := buf
          history := .modified .inReadBuf
            :: (s.receives (.inRead (.success data) bound)).history }.recvGreeting data) := by
  have hbrings : (reading config false).brings
      (.handled s.status (.inRead (.success data) bound)) = [] := by
    rw [hstatus]
    rfl
  have hheader : (reading config false).header
      (.handled s.status (.inRead (.success data) bound)) = [] := by
    rw [hstatus]
    rfl
  have hrequested : s.requested config = [] := (hs.asks hp).2
  have hpending (answer : Bytes) :
      Operation.inWrite answer :: s.pending.erase .inRead = [.inWrite answer] := by
    rw [hp]
    rfl
  unfold recvGreeting
  split
  · refine proceeds_fail [_] rfl ?_ rfl rfl nofun (fun _ => rfl)
      (Pump.Reading.neutral_noted.mpr ⟨rfl, hheader, hbrings⟩) (fun _ _ => rfl)
    show .udpReceive ∉ s.pending.erase .inRead
    rw [hp]
    simp
  · split
    · refine proceeds_answer hs.phase_eq rfl [_, _, _] rfl ?_ rfl nofun (fun _ => rfl) hbrings
        (fun _ _ => rfl)
      refine greets_of_handshake hstatus ?_ (.inr (.inr ⟨_, hpending _⟩))
      rw [requested_adds rfl [_, _, _] rfl rfl, hrequested, hheader]
      rfl
    · refine proceeds_answer hs.phase_eq rfl [_, _, _] rfl ?_ rfl nofun (fun _ => rfl) hbrings
        (fun _ _ => rfl)
      exact greets_of_invalid rfl ⟨_, hpending _⟩

/-- What `in_recv` makes of a SOCKS5 request that it does not accept. -/
theorem acceptedRequest_eq {data : Bytes} {bound : Option UdpEndpoint}
    (hwell : ¬ (data.length < 7 ∨ data.getD 0 0 ≠ 5 ∨ data.getD 2 0 ≠ 0)) :
    acceptedRequest config data bound
      = match ({} : TrojanRequest).parse (requestBuffer config data) with
        | (_, none) => none
        | (req, some _) =>
          if req.command = some TrojanRequest.Command.udpAssociate ∧ bound = none then none
          else some (requestBuffer config data) := if_neg hwell

theorem proceeds_recvRequest {data : Bytes} {bound : Option UdpEndpoint}
    (hs : Greets config s) (hstatus : s.status = .request) (hp : s.pending = [.inRead])
    (buf : Bytes) :
    Proceeds config s (.inRead (.success data) bound)
      ({ s.receives (.inRead (.success data) bound) with
          inReadBuf := buf
          history := .modified .inReadBuf
            :: (s.receives (.inRead (.success data) bound)).history }.recvRequest config data
        bound) := by
  have hbrings : (reading config false).brings
      (.handled s.status (.inRead (.success data) bound)) = [] := by
    rw [hstatus]
    rfl
  have hheader : (reading config false).header (.handled s.status (.inRead (.success data) bound))
      = (acceptedRequest config data bound).getD [] := if_pos hstatus
  have hnone (hnone : acceptedRequest config data bound = none) : (reading config false).neutral
      (.noted (.handled s.status (.inRead (.success data) bound)) : Mark Operation Buffer Note)
        = true := by
    refine Pump.Reading.neutral_noted.mpr ⟨rfl, ?_, hbrings⟩
    rw [hheader, hnone]
    rfl
  have hquiet : .udpReceive ∉ s.pending.erase .inRead := by
    rw [hp]
    simp
  have hpending (answer : Bytes) :
      Operation.inWrite answer :: s.pending.erase .inRead = [.inWrite answer] := by
    rw [hp]
    rfl
  have hrequested : s.requested config = [] := (hs.asks hp).2
  unfold recvRequest
  dsimp only
  split
  · rename_i hmalformed
    exact proceeds_fail [_] rfl hquiet rfl rfl nofun (fun _ => rfl) (hnone (if_pos hmalformed))
      (fun _ _ => rfl)
  · rename_i hwell
    have haccepted : acceptedRequest config data bound = _ := acceptedRequest_eq hwell
    have hgreets {u : ClientSession} (new : History)
        (hu : u.history = new ++ (s.receives (.inRead (.success data) bound)).history)
        (hnew : collect (Pump.Reading.byNote (reading config false).header) new = [])
        (hustatus : u.status = .request) (hbuf : u.outWriteBuf = requestBuffer config data)
        (hup : ∃ data, u.pending = [.inWrite data])
        (haccept : acceptedRequest config data bound = some (requestBuffer config data)) :
        Greets config u := by
      refine greets_of_request hustatus (.inr ⟨?_, hup⟩)
      rw [requested_adds rfl new hu hnew, hrequested, hheader, haccept, hbuf]
      rfl
    split
    · refine proceeds_answer hs.phase_eq rfl [_, _, _] rfl ?_ rfl nofun (fun _ => rfl) hbrings
        (fun _ _ => rfl)
      exact greets_of_invalid rfl ⟨_, hpending _⟩
    · rename_i req len hparse
      rw [hparse] at haccepted
      dsimp only at haccepted
      split
      · rename_i hudp
        split
        · refine proceeds_fail [_] rfl hquiet rfl rfl nofun (fun _ => rfl) (hnone ?_) (fun _ _ => rfl)
          rw [haccepted, if_pos ⟨of_decide_eq_true hudp, rfl⟩]
        · refine proceeds_answer hs.phase_eq rfl [_, _, _, _] rfl ?_ rfl nofun (fun _ => rfl) hbrings
            (fun _ _ => rfl)
          refine hgreets [_, _, _, _] rfl rfl hstatus rfl ⟨_, hpending _⟩ ?_
          rw [haccepted, if_neg (fun hnone => absurd hnone.2 nofun)]
      · rename_i htcp
        refine proceeds_answer hs.phase_eq rfl [_, _, _] rfl ?_ rfl nofun (fun _ => rfl) hbrings
          (fun _ _ => rfl)
        refine hgreets [_, _, _] rfl rfl hstatus rfl ⟨_, hpending _⟩ ?_
        rw [haccepted, if_neg (fun hudp => htcp (decide_eq_true hudp.1))]

theorem proceeds_inRead {data : Outcome Bytes} {bound : Option UdpEndpoint} (hs : Greets config s)
    (hmem : .inRead ∈ s.pending) :
    Proceeds config s (.inRead data bound)
      ((s.receives (.inRead data bound)).handle config (.inRead data bound)) := by
  have hp : s.pending = [.inRead] := by
    rcases hs.pending_eq with hp | hp | ⟨data, hp⟩ <;> simp_all
  have hnone : s.pending.erase .inRead = [] := by
    rw [hp]
    rfl
  cases data with
  | failed =>
    refine proceeds_fail [] rfl ?_ rfl rfl nofun (fun _ => rfl) rfl (fun _ _ => rfl)
    show .udpReceive ∉ s.pending.erase .inRead
    rw [hnone]
    exact List.not_mem_nil
  | aborted =>
    refine proceeds_answer hs.phase_eq rfl [] rfl ?_ rfl nofun (fun _ => rfl) rfl (fun _ _ => rfl)
    obtain ⟨hstatus, hrequested⟩ := hs.asks hp
    have hsame : (s.receives (.inRead .aborted bound)).requested config = [] := by
      rw [requested_adds rfl [] rfl rfl, hrequested]
      rfl
    rcases hstatus with hstatus | hstatus
    · exact greets_of_handshake hstatus hsame (.inl hnone)
    · exact greets_of_request hstatus (.inl ⟨hsame, .inl hnone⟩)
  | success data =>
    show Proceeds config s _
      ({ s.receives (.inRead (.success data) bound) with
          inReadBuf := fillBuffer s.inReadBuf data }.inRecv config data.length bound)
    unfold inRecv
    dsimp only
    rw [take_growAfterRead]
    split
    · rename_i hstatus
      exact proceeds_recvGreeting hs hstatus hp _
    · rename_i hstatus
      exact proceeds_recvRequest hs hstatus hp _
    all_goals
      rcases (hs.asks hp).1 with hstatus | hstatus <;>
        simp_all [receives, Event.operation]

/-- **The request is answered**, and the tunnel is opened. -/
theorem proceeds_connect {data : Bytes} (hs : Greets config s) (hstatus : s.status = .request)
    (hp : s.pending = [.inWrite data]) :
    Proceeds config s (.inWrite data false)
      ((if s.isUdp then
          ({ s.receives (.inWrite data false) with status := .connect }.inAsyncRead).udpAsyncRead
        else { s.receives (.inWrite data false) with status := .connect }.inAsyncRead).begins
        .resolve) := by
  have hnone : s.pending.erase (.inWrite data) = [] := by
    rw [hp, List.erase_cons_head]
  have hbuf : s.outWriteBuf = s.requested config := by
    rw [Greets, hstatus] at hs
    rcases hs with ⟨-, hp' | hp'⟩ | hs
    · exact absurd (hp.symm.trans hp') (by simp)
    · exact absurd (hp.symm.trans hp') (by simp)
    · exact hs.1
  have hzero {udp : Bool} : ((upstream config udp).pump s 0).opening = 0
      ∧ ((upstream config udp).pump s 0).reads = 0 := by
    constructor
    · show s.pending.countP _ = 0
      rw [hp]
      rfl
    · show s.pending.countP _ = 0
      rw [hp]
      rfl
  split
  · rename_i hudp
    refine ⟨.inr ⟨rfl, rfl, fun hfalse => absurd (hudp.symm.trans hfalse) nofun,
      List.cons_ne_nil _ _⟩,
      fun {udp stale cancelled op} h hsound hmode => ?_⟩
    obtain rfl := stale_eq_zero hs.phase_eq hsound
    obtain rfl := Option.some.inj h.operation
    obtain rfl : udp = true := (hmode.resolve_right nofun).symm.trans hudp
    exact acts_of_does (h.begins rfl [.began .inRead] (adds rfl rfl) rfl rfl hs.phase_eq rfl rfl rfl
      rfl rfl hzero hbuf) trivial trivial rfl
  · rename_i hudp
    have hudp : s.isUdp = false := Bool.eq_false_iff.mpr hudp
    refine ⟨.inr ⟨rfl, rfl, fun _ => ?_, List.cons_ne_nil _ _⟩,
      fun {udp stale cancelled op} h hsound hmode => ?_⟩
    · show .udpReceive ∉ Operation.resolve :: .inRead :: s.pending.erase (.inWrite data)
      rw [hnone]
      simp
    · obtain rfl := stale_eq_zero hs.phase_eq hsound
      obtain rfl := Option.some.inj h.operation
      obtain rfl : udp = false := (hmode.resolve_right nofun).symm.trans hudp
      exact acts_of_does (h.begins rfl [] (adds rfl rfl) rfl rfl hs.phase_eq rfl rfl rfl rfl rfl
        hzero hbuf) trivial trivial rfl

theorem proceeds_inWrite {data : Bytes} {error : Bool} (hs : Greets config s)
    (hmem : .inWrite data ∈ s.pending) :
    Proceeds config s (.inWrite data error)
      ((s.receives (.inWrite data error)).handle config (.inWrite data error)) := by
  have hp : s.pending = [.inWrite data] := by
    rcases hs.pending_eq with hp | hp | ⟨data, hp⟩ <;> simp_all
  have hnone : s.pending.erase (.inWrite data) = [] := by
    rw [hp, List.erase_cons_head]
  have hquiet : .udpReceive ∉ s.pending.erase (.inWrite data) := by
    rw [hnone]
    exact List.not_mem_nil
  cases error with
  | true => exact proceeds_fail [] rfl hquiet rfl rfl nofun (fun _ => rfl) rfl (fun _ _ => rfl)
  | false =>
    show Proceeds config s _ (s.receives (.inWrite data false)).inSent
    unfold inSent
    dsimp only
    rcases hs.status_eq with hstatus | hstatus | hstatus
    · rw [show (s.receives (.inWrite data false)).status = .handshake from hstatus]
      have hgreets : Greets config
          ({ s.receives (.inWrite data false) with status := .request }.inAsyncRead) := by
        refine greets_of_request rfl (.inl ⟨?_, .inr (congrArg (Operation.inRead :: ·) hnone)⟩)
        have hrequested : s.requested config = [] := by
          rw [Greets, hstatus] at hs
          exact hs.1
        rw [requested_adds (e := .inWrite data false) rfl [_] rfl rfl, hrequested]
        rfl
      refine ⟨.inl hgreets, fun {udp stale cancelled op} h hsound _ => ?_⟩
      obtain rfl := stale_eq_zero hs.phase_eq hsound
      obtain rfl := Option.some.inj h.operation
      refine acts_of_does (h.idlesReading rfl [] (adds rfl rfl) ?_ hs.phase_eq rfl rfl rfl rfl rfl rfl
        (hgreets.reads_le 0)) trivial trivial rfl
      cases udp with
      | true => exact .inl rfl
      | false => exact .inr rfl
    · rw [show (s.receives (.inWrite data false)).status = .request from hstatus]
      exact proceeds_connect hs hstatus hp
    · rw [show (s.receives (.inWrite data false)).status = .invalid from hstatus]
      exact proceeds_fail [] rfl hquiet rfl rfl nofun (fun _ => rfl) rfl (fun _ _ => rfl)

/-! ## Runs -/

/-- **One step of a session**, with whether the read of its uplink that completes
was cancelled. -/
def watchedStep (config : Config) (udp : Bool) (x : Watched ClientSession) (ev : Event × Bool) :
    Option (Watched ClientSession) :=
  (upstream config udp).reads.step (step config) x ev

/-- **A session is in order**: it speaks SOCKS5, or it relays. -/
def Orderly (config : Config) (s : ClientSession) : Prop := Greets config s ∨ Relays s.isUdp s

/-- A session that is not started. -/
theorem greets_create : Greets config create := ⟨rfl, .inl rfl⟩

/-- **A start** reads, or closes the pump at once. -/
theorem acts_start (remoteEndpoint : Option TcpEndpoint) :
    Acts config udp create 0 (.start remoteEndpoint) false
      ((create.receives (.start remoteEndpoint)).handle config (.start remoteEndpoint)) := by
  cases remoteEndpoint with
  | none =>
    exact acts_of_does (a := .closes .other) ⟨trivial, rfl, List.cons_ne_nil _ _⟩ trivial
      trivial rfl
  | some endpoint =>
    cases udp with
    | true =>
      exact acts_of_does (a := .idle 0 [] []) ⟨⟨rfl, Nat.zero_le _⟩, rfl, List.cons_ne_nil _ _⟩
        trivial trivial rfl
    | false =>
      exact acts_of_does (a := .idle 1 [] []) ⟨⟨rfl, Nat.le_refl _⟩, rfl, List.cons_ne_nil _ _⟩
        trivial trivial rfl

theorem orderly_start (remoteEndpoint : Option TcpEndpoint) :
    Orderly config
      ((create.receives (.start remoteEndpoint)).handle config (.start remoteEndpoint)) := by
  cases remoteEndpoint with
  | none => exact .inr (relays_destroy List.not_mem_nil (List.cons_ne_nil _ _))
  | some endpoint => exact .inl (greets_of_handshake rfl rfl (.inr (.inl rfl)))

/-- What happens to a session that speaks SOCKS5. -/
theorem Greets.proceeds (hs : Greets config s) (hop : e.operation = some op)
    (hmem : op ∈ s.pending) : Proceeds config s e ((s.receives e).handle config e) := by
  have hcases : op = .inRead ∨ ∃ data, op = .inWrite data := by
    rcases hs.pending_eq with hp | hp | ⟨data, hp⟩
    · exact absurd (hp ▸ hmem) List.not_mem_nil
    · exact .inl (List.mem_singleton.mp (hp ▸ hmem))
    · exact .inr ⟨data, List.mem_singleton.mp (hp ▸ hmem)⟩
  rcases hcases with rfl | ⟨data, rfl⟩
  · cases e with
    | inRead data bound => exact proceeds_inRead hs hmem
    | _ => exact absurd hop (by simp [Event.operation])
  · cases e with
    | inWrite data' error =>
      obtain rfl : data' = data := by simpa [Event.operation] using hop
      exact proceeds_inWrite hs hmem
    | _ => exact absurd hop (by simp [Event.operation])

/-- A step takes an operation of the session, unless it is the start. -/
theorem mem_of_step (h : step config s e = some t) (hop : e.operation = some op) :
    op ∈ s.pending ∧ t = (s.receives e).handle config e := by
  unfold step at h
  split at h
  · rename_i haccepts
    rw [accepts, hop] at haccepts
    exact ⟨of_decide_eq_true (Bool.and_eq_true_iff.mp haccepts).1, (Option.some.inj h).symm⟩
  · exact absurd h nofun

/-- A session that relays keeps its mode. -/
theorem Relays.step (hs : Relays udp s) (h : step config s e = some t) : Relays udp t := by
  cases hop : e.operation with
  | none =>
    unfold ClientSession.step accepts at h
    rw [hop] at h
    simp [hs.started] at h
  | some op =>
    obtain ⟨-, rfl⟩ := mem_of_step h hop
    exact (hs.receives e).handle config (by rw [hop]; exact Option.some_ne_none op)

/-- **A session that relays acts on its uplink.** -/
theorem Relays.acts (hs : Relays udp s)
    (h : (upstream config udp).Completes s stale e cancelled op)
    (hsound : ((upstream config udp).pump s stale).Sound) :
    Acts config udp s stale e cancelled ((s.receives e).handle config e) := by
  have hop : e.operation = some op := h.operation
  cases e with
  | start remoteEndpoint => exact absurd hop (by simp [Event.operation])
  | inRead data bound => exact acts_inRead hs h
  | inWrite data error => exact acts_inWrite hs h
  | resolve results openError => exact acts_resolve h
  | tcpConnect endpoint error => exact acts_tcpConnect h
  | tlsHandshake error => exact acts_tlsHandshake hs h
  | outRead data => exact acts_outRead h
  | outWrite data error => exact acts_outWrite hs h hsound
  | udpReceive received => exact acts_udpReceive hs h
  | udpSend data endpoint error => exact acts_udpSend h
  | tlsShutdown aborted =>
    obtain rfl := Option.some.inj hop
    cases aborted <;> exact acts_rest h rfl [] rfl ⟨rfl, rfl, rfl⟩ rfl rfl rfl rfl
  | shutdownTimer aborted =>
    obtain rfl := Option.some.inj hop
    cases aborted <;> exact acts_rest h rfl [] rfl ⟨rfl, rfl, rfl⟩ rfl rfl rfl rfl

/-- A session that is in a mode, or may come to it. -/
def MayBe (udp : Bool) (s : ClientSession) : Prop := s.isUdp = udp ∨ s.phase = .idle

/-- **The invariant of the uplink** of the sessions in a mode. -/
structure Pumping (config : Config) (udp : Bool) (x : Watched ClientSession) : Prop where
  orderly : Orderly config x.state
  sound : MayBe udp x.state → ((upstream config udp).pump x.state x.stale).Sound
  fresh : x.state.history = [] → x = ⟨create, 0⟩

/-- It holds of a session that is not started. -/
theorem pumping_create : Pumping config udp ⟨create, 0⟩ where
  orderly := .inl greets_create
  sound _ := ⟨Nat.le_refl _, rfl, rfl, Nat.zero_le _, rfl, rfl, rfl, rfl, rfl, rfl⟩
  fresh _ := rfl

namespace Pumping

variable {x y : Watched ClientSession}

/-- **The uplink is a pump**: a step keeps a session in order, and if the session is
then in the mode, it was before, and the step is an act of its pump. -/
theorem exists_act (hx : Pumping config udp x)
    (h : watchedStep config udp x (e, cancelled) = some y) :
    Orderly config y.state
      ∧ (MayBe udp y.state →
        MayBe udp x.state ∧ Acts config udp x.state x.stale e cancelled y.state) := by
  obtain ⟨hadmits, hstep, -⟩ := Watch.step_eq_some.mp h
  obtain ⟨s, stale⟩ := x
  obtain ⟨t, stale'⟩ := y
  cases hop : e.operation with
  | none =>
    have hstart : s.history = [] ∧ (s.receives e).handle config e = t := by
      unfold ClientSession.step accepts at hstep
      rw [hop] at hstep
      simpa using hstep
    obtain ⟨hnil, rfl⟩ := hstart
    obtain ⟨rfl, rfl⟩ := Watched.mk.inj (hx.fresh hnil)
    cases e with
    | start remoteEndpoint =>
      obtain rfl := Watch.stale_of_not_completes hadmits rfl
      exact ⟨orderly_start remoteEndpoint, fun _ => ⟨.inr rfl, acts_start remoteEndpoint⟩⟩
    | _ => exact absurd hop (by simp [Event.operation])
  | some op =>
    obtain ⟨hmem, rfl⟩ := mem_of_step hstep hop
    have hc : (upstream config udp).Completes s stale e cancelled op := ⟨hop, hmem, hadmits⟩
    rcases hx.orderly with hs | hs
    · have hproceeds := Greets.proceeds hs hop hmem
      have hmode : MayBe udp s := .inr hs.phase_eq
      exact ⟨hproceeds.next, fun hy => ⟨hmode, hproceeds.acts hc (hx.sound hmode) hy⟩⟩
    · have hnext := hs.step hstep
      refine ⟨.inr (hnext.isUdp ▸ hnext), fun hy => ?_⟩
      -- the session was past the idle phase, so it is in the mode
      obtain rfl : s.isUdp = udp := hnext.isUdp.symm.trans (hy.resolve_right hnext.phase_ne_idle)
      exact ⟨.inl rfl, hs.acts hc (hx.sound (.inl rfl))⟩

/-- **A step keeps the invariant**, if it keeps the pump sound. -/
theorem next (hx : Pumping config udp x)
    (h : watchedStep config udp x (e, cancelled) = some y)
    (hsound : MayBe udp y.state → ((upstream config udp).pump y.state y.stale).Sound) :
    Pumping config udp y := by
  obtain ⟨horderly, hacts⟩ := hx.exists_act h
  refine ⟨horderly, hsound, fun hnil => ?_⟩
  rcases horderly with hy | hy
  · obtain ⟨a, ha, -⟩ := (hacts (.inr hy.phase_eq)).2
    exact absurd hnil ha.marks
  · exact absurd hnil hy.started

/-- The pump after a step. -/
theorem pump_eq (h : watchedStep config udp x (e, cancelled) = some y)
    {a : Pump.Act UInt8} (ha : (upstream config udp).Does x.state x.stale e cancelled y.state a) :
    (upstream config udp).pump y.state y.stale
      = ((upstream config udp).pump x.state x.stale).act a := by
  rw [← ha.pump_eq]
  exact congrArg _ (Watch.step_eq_some.mp h).2.2

end Pumping

end ClientSession
