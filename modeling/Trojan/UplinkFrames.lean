import Trojan.UdpUplink

/-!
# What an association sends to its tunnel

While a client session that has accepted `UDP ASSOCIATE` waits for its tunnel, it reads
from two places: the UDP socket, whose datagrams it frames and keeps, and the connection
the application asked on, which has nothing more to say. In `UDP_FORWARD` bytes from that
connection end the session as unexpected. In `CONNECT` they are kept, in the same buffer
as the frames, and all of it goes to the tunnel behind the request when the tunnel is
established.

What a session has sent and received is read off its history (`ledger`). Until the session
is destroyed, the tunnel gets the request and the frames of the datagrams, and nothing
else, exactly if nothing has come from the connection by the time the tunnel is
established (`onlyFrames_iff`).
-/

namespace ClientSession

open Flight

/-- **What has gone through a session**, in the order of time. -/
structure Ledger where
  /-- The Trojan request. -/
  header : Bytes := []
  /-- What came from the connection of the application during `CONNECT`. -/
  control : Bytes := []
  /-- The frames of the datagrams. -/
  frames : Bytes := []
  /-- Both, as they came. -/
  brought : Bytes := []
  /-- What was written to the tunnel. -/
  submitted : Bytes := []
  established : Bool := false
  destroyed : Bool := false

/-- A completion that is handled in a status, in the ledger. -/
def Ledger.handled (config : Config) (l : Ledger) (status : Status) : Event → Ledger
  | .inRead (.success data) bound =>
    match status with
    -- a request that is not accepted makes no header
    | .request => { l with header := l.header ++ (acceptedRequest config data bound).getD [] }
    | .connect => { l with control := l.control ++ data, brought := l.brought ++ data }
    | _ => l
  | .udpReceive (.success (data, _)) =>
    match status with
    | .connect => { l with frames := l.frames ++ framed data, brought := l.brought ++ framed data }
    | .udpForward =>
      { l with frames := l.frames ++ framed data, brought := l.brought ++ framed data }
    | _ => l
  | _ => l

/-- **A mark of the history**, in the ledger. -/
def Ledger.mark (config : Config) (l : Ledger) : Mark Operation Buffer Note → Ledger
  | .began (.outWrite data) => { l with submitted := l.submitted ++ data }
  | .noted (.handled status event) => l.handled config status event
  | .noted .tunnelEstablished => { l with established := true }
  | .noted .destroyed => { l with destroyed := true }
  | _ => l

/-- **The ledger of a history.** -/
def ledger (config : Config) : History → Ledger
  | [] => {}
  | m :: h => (ledger config h).mark config m

/-- **An association carries only frames**: until it is destroyed, what it has written to
the tunnel is the request and the frames of the datagrams, once the tunnel is
established, and nothing before. -/
def OnlyFrames (config : Config) (s : ClientSession) : Prop :=
  s.isUdp = true → (ledger config s.history).destroyed = false →
    (ledger config s.history).submitted
      = if (ledger config s.history).established then
          (ledger config s.history).header ++ (ledger config s.history).frames
        else []

/-- **The tunnel of an association is established in silence**: nothing has come from the
connection of the application. -/
def EstablishesInSilence (config : Config) (s : ClientSession) (e : Event) : Prop :=
  e = .tlsHandshake false → s.isUdp = true → (ledger config s.history).destroyed = false →
    (ledger config s.history).control = []

instance (config : Config) (s : ClientSession) : Decidable (OnlyFrames config s) :=
  inferInstanceAs (Decidable (_ → _ → _))

instance (config : Config) (s : ClientSession) (e : Event) :
    Decidable (EstablishesInSilence config s e) :=
  inferInstanceAs (Decidable (_ → _ → _ → _))

/-! ## What a ledger says -/

variable {config : Config} {s t u : ClientSession} {e : Event} {op : Operation}

@[simp] theorem ledger_cons (config : Config) (m : Mark Operation Buffer Note) (h : History) :
    ledger config (m :: h) = (ledger config h).mark config m := rfl

/-- What a completion adds to the request. -/
theorem Ledger.header_handled (l : Ledger) (status : Status) (event : Event) :
    (l.handled config status event).header
      = l.header ++ (reading config false).header (.handled status event) := by
  cases event with
  | inRead data bound =>
    cases data with
    | success data => cases status <;> first | rfl | exact (List.append_nil _).symm
    | _ => exact (List.append_nil _).symm
  | udpReceive received =>
    cases received with
    | success received => cases status <;> exact (List.append_nil _).symm
    | _ => exact (List.append_nil _).symm
  | _ => exact (List.append_nil _).symm

/-- The request in the ledger is the one that the session has made. -/
theorem header_ledger (config : Config) (s : ClientSession) :
    (ledger config s.history).header = s.requested config := by
  unfold requested
  induction s.history with
  | nil => rfl
  | cons m h ih =>
    rw [ledger_cons, collect_cons, ← ih]
    cases m with
    | noted n =>
      cases n with
      | handled status event => exact (ledger config h).header_handled status event
      | _ => exact (List.append_nil _).symm
    | began op => cases op <;> exact (List.append_nil _).symm
    | _ => exact (List.append_nil _).symm

/-- What was brought is as long as what came from both sides, and is what came from one if
nothing came from the other. -/
def Ledger.Merged (l : Ledger) : Prop :=
  l.brought.length = l.control.length + l.frames.length ∧ (l.control = [] → l.brought = l.frames)

theorem Ledger.Merged.handled {l : Ledger} (h : l.Merged) (status : Status) (event : Event) :
    (l.handled config status event).Merged := by
  obtain ⟨hlength, hframes⟩ := h
  have hframe (data : Bytes) : Ledger.Merged
      { l with frames := l.frames ++ framed data, brought := l.brought ++ framed data } := by
    refine ⟨?_, fun hnone => congrArg (· ++ framed data) (hframes hnone)⟩
    dsimp only
    rw [List.length_append, List.length_append, hlength, Nat.add_assoc]
  cases event with
  | inRead data bound =>
    cases data with
    | success data =>
      cases status with
      | connect =>
        refine ⟨?_, fun hnone => ?_⟩
        · show (l.brought ++ data).length = (l.control ++ data).length + l.frames.length
          rw [List.length_append, List.length_append, hlength]
          omega
        · have hnone : l.control = [] ∧ data = [] := List.append_eq_nil_iff.mp hnone
          show l.brought ++ data = l.frames
          rw [hnone.2, List.append_nil, hframes hnone.1]
      | _ => exact ⟨hlength, hframes⟩
    | _ => exact ⟨hlength, hframes⟩
  | udpReceive received =>
    cases received with
    | success received =>
      cases status with
      | connect => exact hframe received.1
      | udpForward => exact hframe received.1
      | _ => exact ⟨hlength, hframes⟩
    | _ => exact ⟨hlength, hframes⟩
  | _ => exact ⟨hlength, hframes⟩

theorem merged_ledger (config : Config) (h : History) : (ledger config h).Merged := by
  -- only the completions that are handled bring something
  induction h with
  | nil => exact ⟨rfl, fun _ => rfl⟩
  | cons m h ih =>
    cases m with
    | noted n =>
      cases n with
      | handled status event => exact ih.handled status event
      | _ => exact ih
    | began op => cases op <;> exact ih
    | _ => exact ih

/-- **Nothing but frames was brought** exactly if nothing has come from the connection. -/
theorem brought_eq_frames_iff (config : Config) (h : History) :
    (ledger config h).brought = (ledger config h).frames ↔ (ledger config h).control = [] := by
  obtain ⟨hlength, hframes⟩ := merged_ledger config h
  refine ⟨fun hsame => ?_, hframes⟩
  rw [hsame] at hlength
  exact List.eq_nil_of_length_eq_zero (by omega)

/-! ## The uplink of an association, step by step -/

/-- An operation that opens the tunnel. -/
def Operation.opensTunnel : Operation → Bool
  | resolve => true
  | tcpConnect _ => true
  | tlsHandshake => true
  | _ => false

/-- The operations in flight that open the tunnel. -/
def openings (s : ClientSession) : ℕ := s.pending.countP Operation.opensTunnel

/-- **A session and its ledger**, until it is destroyed: what was brought waits behind the
request until the tunnel is established, which happens once. -/
def Uplinked (config : Config) (s : ClientSession) : Prop :=
  match s.status with
  | .handshake | .request | .invalid =>
    (ledger config s.history).submitted = [] ∧ (ledger config s.history).established = false
      ∧ (ledger config s.history).brought = []
  | .connect =>
    (ledger config s.history).submitted = [] ∧ (ledger config s.history).established = false
      ∧ s.outWriteBuf = (ledger config s.history).header ++ (ledger config s.history).brought
      ∧ s.openings ≤ 1
  | .udpForward => (ledger config s.history).established = true ∧ s.openings = 0
  | .forward | .destroy => False

/-- **A step of an association** that keeps it and its ledger together, and keeps the law
exactly if it establishes no tunnel after something has come from the connection. -/
structure Goes (config : Config) (s : ClientSession) (e : Event) (t : ClientSession) : Prop where
  uplinked : (ledger config t.history).destroyed = false → Uplinked config t
  law : OnlyFrames config s → (OnlyFrames config t ↔ EstablishesInSilence config s e)

/-- Only the handshake establishes the tunnel. -/
theorem establishesInSilence_of_ne (he : e ≠ .tlsHandshake false) :
    EstablishesInSilence config s e := fun h => absurd h he

/-- A session that is destroyed says so in its ledger. -/
theorem destroyed_ledger_destroy (hu : u.status ≠ .destroy) :
    (ledger config u.destroy.history).destroyed = true := by
  unfold destroy
  rw [if_neg hu]
  dsimp only
  split
  · rfl
  · rfl

/-- **A handler that destroys the session.** -/
theorem goes_destroy (hu : u.status ≠ .destroy) (he : e ≠ .tlsHandshake false) :
    Goes config s e u.destroy where
  uplinked halive := absurd ((destroyed_ledger_destroy hu).symm.trans halive) nofun
  law _ := by
    refine iff_of_true (fun _ halive => ?_) (establishesInSilence_of_ne he)
    exact absurd ((destroyed_ledger_destroy hu).symm.trans halive) nofun

/-- **A handler that does nothing to the uplink.** -/
theorem goes_rests (hs : Uplinked config s)
    (hledger : ledger config t.history = ledger config s.history) (hopen : t.openings = s.openings)
    (hstatus : t.status = s.status) (hudp : t.isUdp = s.isUdp)
    (hbuf : t.outWriteBuf = s.outWriteBuf) (he : e ≠ .tlsHandshake false) : Goes config s e t where
  uplinked _ := by
    unfold Uplinked at hs ⊢
    rw [hstatus, hledger, hbuf, hopen]
    exact hs
  law hlaw := by
    refine iff_of_true ?_ (establishesInSilence_of_ne he)
    unfold OnlyFrames at hlaw ⊢
    rw [hledger, hudp]
    exact hlaw

/-- Before the request is answered. -/
theorem goes_greeting
    (hstatus : t.status = .handshake ∨ t.status = .request ∨ t.status = .invalid)
    (hsubmitted : (ledger config t.history).submitted = [])
    (hestablished : (ledger config t.history).established = false)
    (hbrought : (ledger config t.history).brought = []) (he : e ≠ .tlsHandshake false) :
    Goes config s e t where
  uplinked _ := by
    unfold Uplinked
    rcases hstatus with hstatus | hstatus | hstatus
    all_goals
      rw [hstatus]
      exact ⟨hsubmitted, hestablished, hbrought⟩
  law _ := by
    refine iff_of_true (fun _ _ => ?_) (establishesInSilence_of_ne he)
    rw [hestablished, if_neg Bool.false_ne_true, hsubmitted]

/-- **A handler that keeps something** until the tunnel is established. -/
theorem goes_keeps (hs : Uplinked config s) (hconnect : s.status = .connect) {data : Bytes}
    {l : Ledger} (hledger : ledger config t.history = l)
    (hheader : l.header = (ledger config s.history).header)
    (hbrought : l.brought = (ledger config s.history).brought ++ data)
    (hsubmitted : l.submitted = (ledger config s.history).submitted)
    (hestablished : l.established = (ledger config s.history).established)
    (hbuf : t.outWriteBuf = s.outWriteBuf ++ data) (hopen : t.openings = s.openings)
    (hstatus : t.status = .connect) (he : e ≠ .tlsHandshake false) : Goes config s e t := by
  rw [Uplinked, hconnect] at hs
  obtain ⟨hnone, hclosed, hwaits, hone⟩ := hs
  refine ⟨fun _ => ?_, fun _ => iff_of_true (fun _ _ => ?_) (establishesInSilence_of_ne he)⟩
  · rw [Uplinked, hstatus]
    dsimp only
    rw [hledger, hheader, hbrought, hbuf, hopen, hwaits, List.append_assoc]
    exact ⟨hsubmitted.trans hnone, hestablished.trans hclosed, rfl, hone⟩
  · rw [hledger, hestablished, hclosed, if_neg Bool.false_ne_true]
    exact hsubmitted.trans hnone

/-- **A handler that writes a frame** to the tunnel. -/
theorem goes_forwards (hs : Uplinked config s) (hforward : s.status = .udpForward) {data : Bytes}
    {l : Ledger} (hledger : ledger config t.history = l)
    (hheader : l.header = (ledger config s.history).header)
    (hframes : l.frames = (ledger config s.history).frames ++ data)
    (hsubmitted : l.submitted = (ledger config s.history).submitted ++ data)
    (hestablished : l.established = (ledger config s.history).established)
    (hdestroyed : l.destroyed = (ledger config s.history).destroyed)
    (hudp : t.isUdp = s.isUdp) (hopen : t.openings = s.openings) (hstatus : t.status = .udpForward)
    (he : e ≠ .tlsHandshake false) : Goes config s e t := by
  rw [Uplinked, hforward] at hs
  obtain ⟨hopened, hzero⟩ := hs
  refine ⟨fun _ => ?_, fun hlaw => iff_of_true (fun hassociation halive => ?_)
    (establishesInSilence_of_ne he)⟩
  · rw [Uplinked, hstatus]
    dsimp only
    rw [hledger, hopen]
    exact ⟨hestablished.trans hopened, hzero⟩
  · rw [hledger] at halive ⊢
    have hall := hlaw (hudp.symm.trans hassociation) (hdestroyed.symm.trans halive)
    rw [hopened, if_pos rfl] at hall
    rw [hestablished, hopened, if_pos rfl, hsubmitted, hall, hheader, hframes, List.append_assoc]

/-- **The tunnel is established**, and what was kept goes into it. -/
theorem goes_establishes (hs : Uplinked config s) (hconnect : s.status = .connect)
    (hassociation : s.isUdp = true) {l : Ledger} (hledger : ledger config t.history = l)
    (hheader : l.header = (ledger config s.history).header)
    (hframes : l.frames = (ledger config s.history).frames)
    (hsubmitted : l.submitted = (ledger config s.history).submitted ++ s.outWriteBuf)
    (hestablished : l.established = true)
    (hdestroyed : l.destroyed = (ledger config s.history).destroyed)
    (hudp : t.isUdp = true) (hopen : t.openings = 0) (hstatus : t.status = .udpForward) :
    Goes config s (.tlsHandshake false) t := by
  rw [Uplinked, hconnect] at hs
  obtain ⟨hnone, hclosed, hwaits, hone⟩ := hs
  refine ⟨fun _ => ?_, fun _ => ?_⟩
  · rw [Uplinked, hstatus]
    dsimp only
    rw [hledger]
    exact ⟨hestablished, hopen⟩
  · have hlaw : l.submitted = (if l.established = true then l.header ++ l.frames else [])
        ↔ (ledger config s.history).control = [] := by
      rw [hestablished, if_pos rfl, hsubmitted, hnone, hwaits, hheader, hframes, List.nil_append,
        List.append_cancel_left_eq, brought_eq_frames_iff]
    unfold OnlyFrames EstablishesInSilence
    rw [hledger, hdestroyed, hlaw]
    exact ⟨fun h _ _ => h hudp, fun h _ => h rfl hassociation⟩

/-- The ledger, when an operation has ended. -/
theorem ledger_receives (hop : e.operation = some op) :
    ledger config (s.receives e).history
      = (ledger config s.history).handled config s.status e := by
  unfold receives
  rw [hop]
  rfl

/-- The operations that open the tunnel, when one has ended. -/
theorem openings_receives (hop : e.operation = some op) (hmem : op ∈ s.pending) :
    (s.receives e).openings = s.openings - op.opensTunnel.toNat := by
  unfold openings pending receives
  rw [hop]
  exact countP_inFlight_ended Operation.opensTunnel hmem

/-! ## The handlers -/

/-- The statuses of an association that is not destroyed. -/
theorem Uplinked.status_eq (hs : Uplinked config s) (hrelays : Relays true s) :
    s.status = .connect ∨ s.status = .udpForward := by
  have hstatus := hrelays.status
  unfold Uplinked at hs
  cases h : s.status <;> simp_all [Status.relays]

theorem Uplinked.ne_of_ne (hs : Uplinked config s) (hrelays : Relays true s) {status : Status}
    (hconnect : status ≠ .connect) (hudpForward : status ≠ .udpForward) : s.status ≠ status := by
  rintro rfl
  rcases hs.status_eq hrelays with hstatus | hstatus
  · exact hconnect hstatus
  · exact hudpForward hstatus

theorem Uplinked.ne_destroy (hs : Uplinked config s) : s.status ≠ .destroy := by
  intro hstatus
  rw [Uplinked, hstatus] at hs
  exact hs

/-- **What comes from the connection**: it is kept during `CONNECT`, and ends the session in
`UDP_FORWARD`. -/
theorem goes_inRead (hs : Uplinked config s) (hrelays : Relays true s)
    {received : Outcome Bytes} (bound : Option UdpEndpoint) (hmem : .inRead ∈ s.pending) :
    Goes config s (.inRead received bound)
      ((s.receives (.inRead received bound)).handle config (.inRead received bound)) := by
  have hopen : (s.receives (.inRead received bound)).openings = s.openings :=
    openings_receives rfl hmem
  cases received with
  -- a cancelled read returns before anything else
  | aborted => exact goes_rests hs rfl hopen rfl rfl rfl nofun
  | failed => exact goes_destroy hs.ne_destroy nofun
  | success data =>
    show Goes config s _ ({ s.receives (.inRead (.success data) bound) with
      inReadBuf := fillBuffer s.inReadBuf data }.inRecv config data.length bound)
    have hledger : ledger config
        (.modified .inReadBuf :: (s.receives (.inRead (.success data) bound)).history)
        = (ledger config s.history).handled config s.status (.inRead (.success data) bound) :=
      ledger_receives rfl
    unfold inRecv
    dsimp only
    rw [take_growAfterRead]
    split
    · rename_i hstatus
      exact absurd hstatus (hs.ne_of_ne hrelays nofun nofun)
    · rename_i hstatus
      exact absurd hstatus (hs.ne_of_ne hrelays nofun nofun)
    · -- `CONNECT` asks nothing about the kind of session: the bytes are kept as payload
      rename_i hstatus
      have hstatus : s.status = .connect := hstatus
      rw [hstatus] at hledger
      exact goes_keeps hs hstatus hledger rfl rfl rfl rfl rfl hopen hstatus nofun
    · rename_i hstatus
      exact absurd hstatus (hs.ne_of_ne hrelays nofun nofun)
    · -- `UDP_FORWARD`: unexpected data ends the session
      exact goes_destroy hs.ne_destroy nofun
    · rename_i hhandshake hrequest hconnect hforward hudpForward
      rcases hs.status_eq hrelays with hstatus | hstatus
      · exact absurd hstatus hconnect
      · exact absurd hstatus hudpForward

/-- **A datagram**: its frame is kept during `CONNECT`, and written to the tunnel in
`UDP_FORWARD`. -/
theorem goes_udpReceive (hs : Uplinked config s) (hrelays : Relays true s)
    {received : Outcome (Bytes × UdpEndpoint)} (hmem : .udpReceive ∈ s.pending) :
    Goes config s (.udpReceive received)
      ((s.receives (.udpReceive received)).handle config (.udpReceive received)) := by
  have hopen : (s.receives (.udpReceive received)).openings = s.openings :=
    openings_receives rfl hmem
  cases received with
  | aborted => exact goes_rests hs rfl hopen rfl rfl rfl nofun
  | failed => exact goes_destroy hs.ne_destroy nofun
  | success received =>
    obtain ⟨data, endpoint⟩ := received
    show Goes config s _ ({ s.receives (.udpReceive (.success (data, endpoint))) with
      udpReadBuf := fillBuffer s.udpReadBuf data
      udpRecvEndpoint := endpoint }.udpRecv data.length)
    have hledger : ledger config
        (.modified .udpReadBuf :: (s.receives (.udpReceive (.success (data, endpoint)))).history)
        = (ledger config s.history).handled config s.status
          (.udpReceive (.success (data, endpoint))) :=
      ledger_receives rfl
    unfold udpRecv
    dsimp only
    rw [take_growAfterRead]
    split
    · -- an empty datagram has no frame, in the source and in the ledger
      rename_i hempty
      have hnone : framed data = [] := by
        rw [List.eq_nil_of_length_eq_zero hempty]
        rfl
      refine goes_rests hs (hledger.trans ?_) hopen rfl rfl rfl nofun
      rcases hs.status_eq hrelays with hstatus | hstatus
      · rw [hstatus]
        simp [Ledger.handled, hnone]
      · rw [hstatus]
        simp [Ledger.handled, hnone]
    · split
      · exact goes_destroy hs.ne_destroy nofun
      · rename_i packetLength packet hframe
        have hframed : framed data = packet := by
          rw [framed, hframe]
          rfl
        split
        · rename_i hstatus
          have hstatus : s.status = .connect := hstatus
          rw [hstatus] at hledger
          exact goes_keeps hs hstatus hledger rfl (congrArg (_ ++ ·) hframed) rfl rfl rfl hopen
            hstatus nofun
        · split
          · rename_i hstatus
            have hstatus : s.status = .udpForward := hstatus
            rw [hstatus] at hledger
            have hwritten : ledger config (.began (.outWrite packet) :: .modified .outWriteData
                :: .modified .udpReadBuf
                :: (s.receives (.udpReceive (.success (data, endpoint)))).history)
                = { (ledger config s.history).handled config .udpForward
                    (.udpReceive (.success (data, endpoint))) with
                  submitted := (ledger config s.history).submitted ++ packet } := by
              rw [ledger_cons, ledger_cons, hledger]
              rfl
            exact goes_forwards hs hstatus hwritten rfl (congrArg (_ ++ ·) hframed) rfl rfl rfl rfl
              hopen hstatus nofun
          · rename_i hconnect hudpForward
            rcases hs.status_eq hrelays with hstatus | hstatus
            · exact absurd hstatus hconnect
            · exact absurd hstatus hudpForward

/-- **The handshake** establishes the tunnel with what was kept. -/
theorem goes_tlsHandshake (hs : Uplinked config s) (hrelays : Relays true s) {error : Bool}
    (hmem : .tlsHandshake ∈ s.pending) :
    Goes config s (.tlsHandshake error)
      ((s.receives (.tlsHandshake error)).handle config (.tlsHandshake error)) := by
  cases error with
  | true => exact goes_destroy hs.ne_destroy nofun
  | false =>
    -- a handshake in flight is the last of the openings, so nothing is established yet
    have hpos : 0 < s.openings := List.countP_pos_iff.mpr ⟨_, hmem, rfl⟩
    have hconnect : s.status = .connect := by
      rcases hs.status_eq hrelays with hstatus | hstatus
      · exact hstatus
      · rw [Uplinked, hstatus] at hs
        exact absurd hs.2 (Nat.pos_iff_ne_zero.mp hpos)
    have hone : s.openings ≤ 1 := by
      rw [Uplinked, hconnect] at hs
      exact hs.2.2.2
    have hopen : (s.receives (.tlsHandshake false)).openings = 0 := by
      rw [openings_receives rfl hmem]
      show s.openings - 1 = 0
      omega
    show Goes config s _ ((s.receives (.tlsHandshake false)).handshaken false)
    unfold handshaken
    rw [if_neg Bool.false_ne_true]
    dsimp only
    rw [show (s.receives (.tlsHandshake false)).isUdp = true from hrelays.isUdp, if_pos rfl]
    have hledger : ledger config (.began (.outWrite s.outWriteBuf) :: .modified .outWriteData
        :: .began .outRead :: .noted .tunnelEstablished
        :: (s.receives (.tlsHandshake false)).history)
        = { ledger config s.history with
          submitted := (ledger config s.history).submitted ++ s.outWriteBuf
          established := true } := by
      rw [ledger_cons, ledger_cons, ledger_cons, ledger_cons, ledger_receives rfl]
      rfl
    exact goes_establishes hs hconnect hrelays.isUdp hledger rfl rfl rfl rfl rfl hrelays.isUdp hopen
      rfl

/-- A datagram for the application, or the wait for one. -/
theorem goes_udpSent (hs : Uplinked config s)
    (hledger : ledger config u.history = ledger config s.history) (hopen : u.openings = s.openings)
    (hstatus : u.status = s.status) (hudp : u.isUdp = s.isUdp)
    (hbuf : u.outWriteBuf = s.outWriteBuf) (he : e ≠ .tlsHandshake false) :
    Goes config s e u.udpSent := by
  have halive : u.status ≠ .destroy := hstatus ▸ hs.ne_destroy
  unfold udpSent
  dsimp only
  split
  · split
    · split
      · exact goes_destroy halive he
      · exact goes_rests hs hledger hopen hstatus hudp hbuf he
    · split
      · exact goes_destroy halive he
      · exact goes_rests hs hledger hopen hstatus hudp hbuf he
  · exact goes_rests hs hledger hopen hstatus hudp hbuf he

/-- What comes from the tunnel. -/
theorem goes_outRead (hs : Uplinked config s) (hrelays : Relays true s) {data : Option Bytes}
    (hmem : .outRead ∈ s.pending) :
    Goes config s (.outRead data)
      ((s.receives (.outRead data)).handle config (.outRead data)) := by
  have hopen : (s.receives (.outRead data)).openings = s.openings := openings_receives rfl hmem
  cases data with
  | none => exact goes_destroy hs.ne_destroy nofun
  | some data =>
    show Goes config s _ ({ s.receives (.outRead (some data)) with
      outReadBuf := fillBuffer s.outReadBuf data }.outRecv data.length)
    unfold outRecv
    dsimp only
    split
    · rename_i hstatus
      exact absurd hstatus (hs.ne_of_ne hrelays nofun nofun)
    · split
      · exact goes_udpSent hs rfl hopen rfl rfl rfl nofun
      · exact goes_rests hs rfl hopen rfl rfl rfl nofun

/-- What has gone to the tunnel. -/
theorem goes_outWrite (hs : Uplinked config s) (hrelays : Relays true s) {data : Bytes}
    {error : Bool} (hmem : .outWrite data ∈ s.pending) :
    Goes config s (.outWrite data error)
      ((s.receives (.outWrite data error)).handle config (.outWrite data error)) := by
  have hopen : (s.receives (.outWrite data error)).openings = s.openings :=
    openings_receives rfl hmem
  cases error with
  | true => exact goes_destroy hs.ne_destroy nofun
  | false =>
    show Goes config s _ (s.receives (.outWrite data false)).outSent
    unfold outSent
    split
    · rename_i hstatus
      exact absurd hstatus (hs.ne_of_ne hrelays nofun nofun)
    · split
      · exact goes_rests hs rfl hopen rfl rfl rfl nofun
      · exact goes_rests hs rfl hopen rfl rfl rfl nofun

/-- What has gone to the application. -/
theorem goes_inWrite (hs : Uplinked config s) (hrelays : Relays true s) {data : Bytes}
    {error : Bool} (hmem : .inWrite data ∈ s.pending) :
    Goes config s (.inWrite data error)
      ((s.receives (.inWrite data error)).handle config (.inWrite data error)) := by
  have hopen : (s.receives (.inWrite data error)).openings = s.openings :=
    openings_receives rfl hmem
  cases error with
  | true => exact goes_destroy hs.ne_destroy nofun
  | false =>
    show Goes config s _ (s.receives (.inWrite data false)).inSent
    unfold inSent
    dsimp only
    split
    · rename_i hstatus
      exact absurd hstatus (hs.ne_of_ne hrelays nofun nofun)
    · rename_i hstatus
      exact absurd hstatus (hs.ne_of_ne hrelays nofun nofun)
    · rename_i hstatus
      exact absurd hstatus (hs.ne_of_ne hrelays nofun nofun)
    · exact goes_destroy hs.ne_destroy nofun
    · exact goes_rests hs rfl hopen rfl rfl rfl nofun

/-- One operation that opens the tunnel follows the other. -/
theorem openings_advance {next : Operation} (hop : e.operation = some op) (hmem : op ∈ s.pending)
    (hopens : op.opensTunnel = true) (hnext : next.opensTunnel = true)
    (hu : u.pending = (s.receives e).pending) : (u.begins next).openings = s.openings := by
  have hpos : 0 < s.openings := List.countP_pos_iff.mpr ⟨op, hmem, hopens⟩
  have hended : u.openings = s.openings - 1 := by
    rw [openings, hu]
    exact (openings_receives hop hmem).trans (by rw [hopens]; rfl)
  have hbegan : (u.begins next).openings = u.openings + 1 := List.countP_cons_of_pos hnext
  omega

/-- **What happens to an association** that is not destroyed. -/
theorem goes_of_relays (hs : Uplinked config s) (hrelays : Relays true s)
    (hop : e.operation = some op) (hmem : op ∈ s.pending) :
    Goes config s e ((s.receives e).handle config e) := by
  cases e with
  | start remoteEndpoint => exact absurd hop (by simp [Event.operation])
  | inRead received bound =>
    obtain rfl := Option.some.inj hop
    exact goes_inRead hs hrelays bound hmem
  | inWrite data error =>
    obtain rfl := Option.some.inj hop
    exact goes_inWrite hs hrelays hmem
  | resolve results openError =>
    obtain rfl := Option.some.inj hop
    show Goes config s _ ((s.receives (.resolve results openError)).resolved results openError)
    unfold resolved
    split
    · exact goes_destroy hs.ne_destroy (by simp)
    · split
      · exact goes_destroy hs.ne_destroy (by simp)
      · exact goes_rests hs rfl
          (openings_advance (e := .resolve results openError) rfl hmem rfl rfl rfl)
          rfl rfl rfl (by simp)
  | tcpConnect endpoint error =>
    obtain rfl := Option.some.inj hop
    cases error with
    | true => exact goes_destroy hs.ne_destroy (by simp)
    | false =>
      exact goes_rests hs rfl
        (openings_advance (e := .tcpConnect endpoint false) rfl hmem rfl rfl rfl) rfl rfl rfl (by simp)
  | tlsHandshake error =>
    obtain rfl := Option.some.inj hop
    exact goes_tlsHandshake hs hrelays hmem
  | outRead data =>
    obtain rfl := Option.some.inj hop
    exact goes_outRead hs hrelays hmem
  | outWrite data error =>
    obtain rfl := Option.some.inj hop
    exact goes_outWrite hs hrelays hmem
  | udpReceive received =>
    obtain rfl := Option.some.inj hop
    exact goes_udpReceive hs hrelays hmem
  | udpSend data endpoint error =>
    obtain rfl := Option.some.inj hop
    have hopen := openings_receives (e := .udpSend data endpoint error) rfl hmem
    cases error with
    | true => exact goes_destroy hs.ne_destroy (by simp)
    | false => exact goes_udpSent hs rfl hopen rfl rfl rfl (by simp)
  | tlsShutdown aborted =>
    obtain rfl := Option.some.inj hop
    have hopen := openings_receives (e := .tlsShutdown aborted) rfl hmem
    cases aborted <;> exact goes_rests hs rfl hopen rfl rfl rfl (by simp)
  | shutdownTimer aborted =>
    obtain rfl := Option.some.inj hop
    have hopen := openings_receives (e := .shutdownTimer aborted) rfl hmem
    cases aborted <;> exact goes_rests hs rfl hopen rfl rfl rfl (by simp)

/-- What a session that speaks SOCKS5 has sent and kept: nothing. -/
theorem Uplinked.greeting (hs : Uplinked config s) (hgreets : Greets config s) :
    (ledger config s.history).submitted = [] ∧ (ledger config s.history).established = false
      ∧ (ledger config s.history).brought = [] := by
  rcases hgreets.status_eq with hstatus | hstatus | hstatus
  all_goals
    rw [Uplinked, hstatus] at hs
    exact hs

theorem goes_recvGreeting (hstatus : u.status = .handshake)
    (hsubmitted : (ledger config u.history).submitted = [])
    (hestablished : (ledger config u.history).established = false)
    (hbrought : (ledger config u.history).brought = []) (he : e ≠ .tlsHandshake false)
    (data : Bytes) : Goes config s e (u.recvGreeting data) := by
  unfold recvGreeting
  split
  · exact goes_destroy (by rw [hstatus]; exact nofun) he
  · split
    · exact goes_greeting (.inl hstatus) hsubmitted hestablished hbrought he
    · exact goes_greeting (.inr (.inr rfl)) hsubmitted hestablished hbrought he

theorem goes_recvRequest (hstatus : u.status = .request)
    (hsubmitted : (ledger config u.history).submitted = [])
    (hestablished : (ledger config u.history).established = false)
    (hbrought : (ledger config u.history).brought = []) (he : e ≠ .tlsHandshake false)
    (data : Bytes) (bound : Option UdpEndpoint) :
    Goes config s e (u.recvRequest config data bound) := by
  have halive : u.status ≠ .destroy := by
    rw [hstatus]
    exact nofun
  unfold recvRequest
  dsimp only
  split
  · exact goes_destroy halive he
  · split
    · exact goes_greeting (.inr (.inr rfl)) hsubmitted hestablished hbrought he
    · split
      · split
        · exact goes_destroy halive he
        · exact goes_greeting (.inr (.inl hstatus)) hsubmitted hestablished hbrought he
      · exact goes_greeting (.inr (.inl hstatus)) hsubmitted hestablished hbrought he

/-- **A greeting, or a request.** -/
theorem goes_greets_inRead (hs : Uplinked config s) (hgreets : Greets config s)
    {received : Outcome Bytes} (bound : Option UdpEndpoint) (hmem : .inRead ∈ s.pending) :
    Goes config s (.inRead received bound)
      ((s.receives (.inRead received bound)).handle config (.inRead received bound)) := by
  obtain ⟨hsubmitted, hestablished, hbrought⟩ := hs.greeting hgreets
  cases received with
  | aborted =>
    have hopen := openings_receives (e := .inRead .aborted bound) rfl hmem
    exact goes_rests hs rfl hopen rfl rfl rfl nofun
  | failed => exact goes_destroy hs.ne_destroy nofun
  | success data =>
    show Goes config s _ ({ s.receives (.inRead (.success data) bound) with
      inReadBuf := fillBuffer s.inReadBuf data }.inRecv config data.length bound)
    have hp : s.pending = [.inRead] := by
      rcases hgreets.pending_eq with hp | hp | ⟨data, hp⟩ <;> simp_all
    have hasks := (hgreets.asks hp).1
    have hledger : ledger config
        (.modified .inReadBuf :: (s.receives (.inRead (.success data) bound)).history)
        = (ledger config s.history).handled config s.status (.inRead (.success data) bound) :=
      ledger_receives rfl
    unfold inRecv
    dsimp only
    rw [take_growAfterRead]
    split
    · rename_i hstatus
      rw [show s.status = .handshake from hstatus] at hledger
      refine goes_recvGreeting ?_ ?_ ?_ ?_ ?_ data
      · exact hstatus
      · exact (congrArg Ledger.submitted hledger).trans hsubmitted
      · exact (congrArg Ledger.established hledger).trans hestablished
      · exact (congrArg Ledger.brought hledger).trans hbrought
      · exact nofun
    · rename_i hstatus
      rw [show s.status = .request from hstatus] at hledger
      refine goes_recvRequest ?_ ?_ ?_ ?_ ?_ data bound
      · exact hstatus
      · exact (congrArg Ledger.submitted hledger).trans hsubmitted
      · exact (congrArg Ledger.established hledger).trans hestablished
      · exact (congrArg Ledger.brought hledger).trans hbrought
      · exact nofun
    all_goals
      rcases hasks with hstatus | hstatus <;> simp_all [receives, Event.operation]

/-- **The answer is sent**, and after that of the request the tunnel is opened. -/
theorem goes_greets_inWrite (hs : Uplinked config s) (hgreets : Greets config s) {data : Bytes}
    {error : Bool} (hmem : .inWrite data ∈ s.pending) :
    Goes config s (.inWrite data error)
      ((s.receives (.inWrite data error)).handle config (.inWrite data error)) := by
  obtain ⟨hsubmitted, hestablished, hbrought⟩ := hs.greeting hgreets
  have hp : s.pending = [.inWrite data] := by
    rcases hgreets.pending_eq with hp | hp | ⟨data, hp⟩ <;> simp_all
  cases error with
  | true => exact goes_destroy hs.ne_destroy (by simp)
  | false =>
    show Goes config s _ (s.receives (.inWrite data false)).inSent
    unfold inSent
    dsimp only
    split
    · exact goes_greeting (.inr (.inl rfl)) hsubmitted hestablished hbrought (by simp)
    · -- the buffer that waits for the tunnel holds the request and nothing behind it
      rename_i hstatus
      have hstatus : s.status = .request := hstatus
      have hbuf : s.outWriteBuf = (ledger config s.history).header := by
        rw [Greets, hstatus] at hgreets
        rcases hgreets with ⟨-, hp' | hp'⟩ | hgreets
        · exact absurd (hp.symm.trans hp') (by simp)
        · exact absurd (hp.symm.trans hp') (by simp)
        · exact hgreets.1.trans (header_ledger config s).symm
      have hnone : (s.receives (.inWrite data false)).pending = [] := by
        show s.pending.erase (.inWrite data) = []
        rw [hp, List.erase_cons_head]
      have hgoes {u : ClientSession} (hu : u.status = .connect)
          (hledger : ledger config u.history = ledger config s.history)
          (hkept : u.outWriteBuf = s.outWriteBuf) (hone : u.openings ≤ 1) :
          Goes config s (.inWrite data false) u := by
        refine ⟨fun _ => ?_, fun _ =>
          iff_of_true (fun _ _ => ?_) (establishesInSilence_of_ne (by simp))⟩
        · rw [Uplinked, hu]
          dsimp only
          rw [hledger, hkept, hbuf, hbrought, List.append_nil]
          exact ⟨hsubmitted, hestablished, rfl, hone⟩
        · rw [hledger, hestablished, if_neg Bool.false_ne_true, hsubmitted]
      split
      · refine hgoes rfl rfl rfl ?_
        show (Operation.resolve :: .udpReceive :: .inRead
          :: (s.receives (.inWrite data false)).pending).countP Operation.opensTunnel ≤ 1
        rw [hnone]
        exact Nat.le_refl _
      · refine hgoes rfl rfl rfl ?_
        show (Operation.resolve :: .inRead
          :: (s.receives (.inWrite data false)).pending).countP Operation.opensTunnel ≤ 1
        rw [hnone]
        exact Nat.le_refl _
    · rename_i hstatus
      have hstatus : s.status = .forward := hstatus
      rcases hgreets.status_eq with h | h | h <;> exact absurd (h.symm.trans hstatus) (by simp)
    · exact goes_destroy hs.ne_destroy (by simp)
    · rename_i hhandshake hrequest hforward hinvalid
      rcases hgreets.status_eq with h | h | h
      · exact absurd h hhandshake
      · exact absurd h hrequest
      · exact absurd h hinvalid

/-! ## Histories grow -/

section Suffixes

variable {h : History}

theorem suffix_destroy (hu : h <:+ u.history) : h <:+ u.destroy.history := by
  unfold destroy
  split
  · exact hu
  · dsimp only
    split
    · exact hu.trans ⟨[_, _, _], rfl⟩
    · exact hu.trans ⟨[_], rfl⟩

theorem suffix_udpSent (hu : h <:+ u.history) : h <:+ u.udpSent.history := by
  unfold udpSent
  dsimp only
  split
  · split
    · split
      · exact suffix_destroy hu
      · exact hu.trans ⟨[_], rfl⟩
    · split
      · exact suffix_destroy hu
      · exact hu.trans ⟨[_, _], rfl⟩
  · exact hu

theorem suffix_inRecv (hu : h <:+ u.history) (config : Config) (length : ℕ)
    (bound : Option UdpEndpoint) : h <:+ (u.inRecv config length bound).history := by
  have hread : h <:+ .modified .inReadBuf :: u.history := hu.trans (List.suffix_cons _ _)
  unfold inRecv recvGreeting recvRequest
  dsimp only
  split
  · split
    · exact suffix_destroy hread
    · split <;> exact hread.trans ⟨[_, _], rfl⟩
  · split
    · exact suffix_destroy hread
    · split
      · exact hread.trans ⟨[_, _], rfl⟩
      · split
        · split
          · exact suffix_destroy hread
          · exact hread.trans ⟨[_, _, _], rfl⟩
        · exact hread.trans ⟨[_, _], rfl⟩
  · exact hread
  · exact hread.trans ⟨[_, _], rfl⟩
  · exact suffix_destroy hread
  · exact hread

theorem suffix_inSent (hu : h <:+ u.history) : h <:+ u.inSent.history := by
  unfold inSent
  dsimp only
  split
  · exact hu.trans ⟨[_], rfl⟩
  · split
    · exact hu.trans ⟨[_, _, _], rfl⟩
    · exact hu.trans ⟨[_, _], rfl⟩
  · exact hu.trans ⟨[_], rfl⟩
  · exact suffix_destroy hu
  · exact hu

theorem suffix_outRecv (hu : h <:+ u.history) (length : ℕ) : h <:+ (u.outRecv length).history := by
  have hread : h <:+ .modified .outReadBuf :: u.history := hu.trans (List.suffix_cons _ _)
  unfold outRecv
  dsimp only
  split
  · exact hread.trans ⟨[_, _], rfl⟩
  · split
    · exact suffix_udpSent hread
    · exact hread

theorem suffix_udpRecv (hu : h <:+ u.history) (length : ℕ) : h <:+ (u.udpRecv length).history := by
  have hread : h <:+ .modified .udpReadBuf :: u.history := hu.trans (List.suffix_cons _ _)
  unfold udpRecv
  dsimp only
  split
  · exact hread
  · split
    · exact suffix_destroy hread
    · split
      · exact hread
      · split
        · exact hread.trans ⟨[_, _], rfl⟩
        · exact hread

/-- **A handler only adds to the history.** -/
theorem suffix_handle (hu : h <:+ u.history) (config : Config) (e : Event) :
    h <:+ (u.handle config e).history := by
  cases e with
  | start remoteEndpoint =>
    cases remoteEndpoint with
    | none => exact suffix_destroy hu
    | some endpoint => exact hu.trans ⟨[_], rfl⟩
  | inRead received bound =>
    cases received with
    | aborted => exact hu
    | failed => exact suffix_destroy hu
    | success data =>
      refine suffix_inRecv ?_ config _ bound
      exact hu
  | inWrite data error =>
    cases error with
    | true => exact suffix_destroy hu
    | false => exact suffix_inSent hu
  | resolve results openError =>
    show h <:+ (u.resolved results openError).history
    unfold resolved
    split
    · exact suffix_destroy hu
    · split
      · exact suffix_destroy hu
      · exact hu.trans ⟨[_, _], rfl⟩
  | tcpConnect endpoint error =>
    cases error with
    | true => exact suffix_destroy hu
    | false => exact hu.trans ⟨[_], rfl⟩
  | tlsHandshake error =>
    cases error with
    | true => exact suffix_destroy hu
    | false => exact hu.trans ⟨[_, _, _, _], rfl⟩
  | outRead data =>
    cases data with
    | none => exact suffix_destroy hu
    | some data =>
      refine suffix_outRecv ?_ _
      exact hu
  | outWrite data error =>
    cases error with
    | true => exact suffix_destroy hu
    | false =>
      show h <:+ u.outSent.history
      unfold outSent
      split
      · exact hu.trans ⟨[_], rfl⟩
      · split
        · exact hu.trans ⟨[_], rfl⟩
        · exact hu
  | udpReceive received =>
    cases received with
    | aborted => exact hu
    | failed => exact suffix_destroy hu
    | success received =>
      refine suffix_udpRecv ?_ _
      exact hu
  | udpSend data endpoint error =>
    cases error with
    | true => exact suffix_destroy hu
    | false => exact suffix_udpSent hu
  | tlsShutdown aborted => cases aborted <;> exact hu
  | shutdownTimer aborted => cases aborted <;> exact hu

end Suffixes

theorem Ledger.destroyed_handled (l : Ledger) (status : Status) (event : Event) :
    (l.handled config status event).destroyed = l.destroyed := by
  unfold Ledger.handled
  split
  · split <;> rfl
  · split <;> rfl
  · rfl

/-- What is destroyed stays so in the ledger. -/
theorem destroyed_ledger_of_suffix {h h' : History} (hsuffix : h <:+ h')
    (hdestroyed : (ledger config h).destroyed = true) : (ledger config h').destroyed = true := by
  obtain ⟨new, rfl⟩ := hsuffix
  induction new with
  | nil => exact hdestroyed
  | cons m new ih =>
    show ((ledger config (new ++ h)).mark config m).destroyed = true
    cases m with
    | noted n =>
      cases n with
      | handled status event => exact (Ledger.destroyed_handled _ status event).trans ih
      | destroyed => rfl
      | _ => exact ih
    | began op => cases op <;> exact ih
    | _ => exact ih

/-- **A step only adds to the history.** -/
theorem suffix_step (h : step config s e = some t) : s.history <:+ t.history ∧ t.history ≠ [] := by
  unfold step at h
  split at h
  · have hreceived : (s.receives e).history <:+ t.history :=
      Option.some.inj h ▸ suffix_handle (List.suffix_refl _) config e
    refine ⟨List.IsSuffix.trans ?_ hreceived, fun hnil => started_receives s e ?_⟩
    · unfold receives
      split
      · exact List.suffix_cons _ _
      · exact ⟨[_, _], rfl⟩
    · rw [hnil] at hreceived
      exact List.suffix_nil.mp hreceived
  · exact absurd h nofun

/-! ## Runs -/

/-- **The invariant of a session and its ledger.** -/
structure Accounted (config : Config) (s : ClientSession) : Prop where
  orderly : Orderly config s
  uplinked : MayBe true s → (ledger config s.history).destroyed = false → Uplinked config s
  fresh : s.history = [] → s = create

/-- It holds of a session that is not started. -/
theorem accounted_create : Accounted config create where
  orderly := .inl greets_create
  uplinked _ _ := ⟨rfl, rfl, rfl⟩
  fresh _ := rfl

/-- What a start does. -/
theorem goes_start (remoteEndpoint : Option TcpEndpoint) :
    Goes config create (.start remoteEndpoint)
      ((create.receives (.start remoteEndpoint)).handle config (.start remoteEndpoint)) := by
  cases remoteEndpoint with
  | none =>
    show Goes config create _ (create.receives (.start none)).destroy
    exact goes_destroy nofun nofun
  | some endpoint =>
    refine goes_greeting (.inl rfl) rfl rfl rfl ?_
    exact nofun

/-- What happens to a session that speaks SOCKS5. -/
theorem goes_of_greets (hs : Uplinked config s) (hgreets : Greets config s)
    (hop : e.operation = some op) (hmem : op ∈ s.pending) :
    Goes config s e ((s.receives e).handle config e) := by
  have hcases : op = .inRead ∨ ∃ data, op = .inWrite data := by
    rcases hgreets.pending_eq with hp | hp | ⟨data, hp⟩
    · exact absurd (hp ▸ hmem) List.not_mem_nil
    · exact .inl (List.mem_singleton.mp (hp ▸ hmem))
    · exact .inr ⟨data, List.mem_singleton.mp (hp ▸ hmem)⟩
  rcases hcases with rfl | ⟨data, rfl⟩
  · cases e with
    | inRead received bound => exact goes_greets_inRead hs hgreets bound hmem
    | _ => exact absurd hop (by simp [Event.operation])
  · cases e with
    | inWrite data' error =>
      obtain rfl : data' = data := by simpa [Event.operation] using hop
      exact goes_greets_inWrite hs hgreets hmem
    | _ => exact absurd hop (by simp [Event.operation])

namespace Accounted

/-- A step keeps a session in order. -/
theorem orderly_step (hs : Accounted config s) (h : step config s e = some t) :
    Orderly config t := by
  cases hop : e.operation with
  | none =>
    have hstart : s.history = [] ∧ (s.receives e).handle config e = t := by
      unfold ClientSession.step accepts at h
      rw [hop] at h
      simpa using h
    obtain ⟨hnil, rfl⟩ := hstart
    obtain rfl := hs.fresh hnil
    cases e with
    | start remoteEndpoint => exact orderly_start remoteEndpoint
    | _ => exact absurd hop (by simp [Event.operation])
  | some op =>
    rcases hs.orderly with hgreets | hrelays
    · obtain ⟨hmem, rfl⟩ := mem_of_step h hop
      exact (Greets.proceeds hgreets hop hmem).next
    · have hnext := hrelays.step h
      exact .inr (hnext.isUdp ▸ hnext)

/-- **A step of a session that is or may become an association**, and is not
destroyed. -/
theorem goes (hs : Accounted config s) (h : step config s e = some t) (hmode : MayBe true s)
    (halive : (ledger config s.history).destroyed = false) : Goes config s e t := by
  have hup := hs.uplinked hmode halive
  cases hop : e.operation with
  | none =>
    have hstart : s.history = [] ∧ (s.receives e).handle config e = t := by
      unfold ClientSession.step accepts at h
      rw [hop] at h
      simpa using h
    obtain ⟨hnil, rfl⟩ := hstart
    obtain rfl := hs.fresh hnil
    cases e with
    | start remoteEndpoint => exact goes_start remoteEndpoint
    | _ => exact absurd hop (by simp [Event.operation])
  | some op =>
    obtain ⟨hmem, rfl⟩ := mem_of_step h hop
    rcases hs.orderly with hgreets | hrelays
    · exact goes_of_greets hup hgreets hop hmem
    · rw [hmode.resolve_right hrelays.phase_ne_idle] at hrelays
      exact goes_of_relays hup hrelays hop hmem

/-- **One step** keeps the invariant, and keeps the law exactly if it establishes no tunnel
after something has come from the connection. -/
theorem step (hs : Accounted config s) (h : step config s e = some t) :
    Accounted config t
      ∧ (OnlyFrames config s → (OnlyFrames config t ↔ EstablishesInSilence config s e)) := by
  obtain ⟨hsuffix, hstarted⟩ := suffix_step h
  have horderly := hs.orderly_step h
  have hfresh : t.history = [] → t = create := fun hnil => absurd hnil hstarted
  by_cases hdestroyed : (ledger config s.history).destroyed = true
  · -- after that nothing is promised, and the history does not forget it
    have hstays := destroyed_ledger_of_suffix hsuffix hdestroyed
    refine ⟨⟨horderly, fun _ halive => absurd (hstays.symm.trans halive) nofun, hfresh⟩,
      fun _ => iff_of_true (fun _ halive => absurd (hstays.symm.trans halive) nofun)
        (fun _ _ halive => absurd (hdestroyed.symm.trans halive) nofun)⟩
  · have halive := Bool.eq_false_iff.mpr hdestroyed
    by_cases hmode : MayBe true s
    · obtain ⟨huplinked, hlaw⟩ := hs.goes h hmode halive
      exact ⟨⟨horderly, fun _ => huplinked, hfresh⟩, hlaw⟩
    · -- it relays a stream, and goes on with it
      obtain ⟨hstream, hphase⟩ := not_or.mp hmode
      have hrelays : Relays s.isUdp s := hs.orderly.resolve_left (fun hg => hphase hg.phase_eq)
      have hnext := hrelays.step h
      have hnot : t.isUdp ≠ true := fun htrue => hstream (hnext.isUdp.symm.trans htrue)
      refine ⟨⟨horderly, fun hmode' => ?_, hfresh⟩, fun _ => iff_of_true
        (fun htrue => absurd htrue hnot) (fun _ htrue => absurd htrue hstream)⟩
      exact absurd hmode' (not_or.mpr ⟨hnot, hnext.phase_ne_idle⟩)

end Accounted

end ClientSession
