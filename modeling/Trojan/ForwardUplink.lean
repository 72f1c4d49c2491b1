import Trojan.ForwardSession
import Trojan.Util.PumpHistory

/-!
# The uplink of a forward session

What a peer sends goes to the tunnel through a pump in the sense of
`Trojan.Util.Pump`: the source is the connection of the peer, the sink the
tunnel, the header the Trojan request. The read ahead is the one that `start`
begins, and the handler of the TLS handshake cancels it unless a first packet has
come. Here the sessions of both classes are shown to be such pumps
(`ForwardSession.exists_act`).
-/

namespace ForwardSession

open Flight

/-- Where a start opens the tunnel to, unless it fails. -/
def targetOf (config : Config) (kind : Kind) (remoteEndpoint : Option TcpEndpoint)
    (target : Bytes × UInt16) : Option (Bytes × UInt16) :=
  match remoteEndpoint, kind with
  | none, _ => none
  | some _, .forward => some (config.targetAddr, config.targetPort)
  | some _, .nat => if target.2 = 0 then none else some target

/-- The Trojan request for a target. -/
def requestHeader (config : Config) (target : Bytes × UInt16) : Bytes :=
  TrojanRequest.generate config.firstPassword target.1 target.2 true

/-- What an operation is to the uplink. -/
def Operation.kind : Operation → Pump.Kind UInt8
  | inRead => .read
  | outWrite data => .write data
  | resolve => .opening
  | tcpConnect _ => .opening
  | tlsHandshake => .opening
  | _ => .other

/-- **How the uplink is read off a history**: the header is the request of the
start, and what is carried is what was read before the session is destroyed. -/
def reading (config : Config) (kind : Kind) : Pump.Reading Operation Note UInt8 where
  kind := Operation.kind
  opens
    | .tunnelEstablished => true
    | _ => false
  header
    | .handled _ (.start remoteEndpoint target) =>
      ((targetOf config kind remoteEndpoint target).map (requestHeader config)).getD []
    | _ => []
  brings
    | .handled status (.inRead (.success data)) => if status = .destroy then [] else data
    | _ => []

/-- The phase of the uplink. -/
def phase (s : ForwardSession) : Pump.Phase :=
  match s.status with
  | .connect => if s.history = [] then .idle else .opening
  | .forward => .flowing
  | .destroy => .closed

/-- **The uplink of a session.** -/
def upstream (config : Config) (kind : Kind) :
    Pump.Program ForwardSession Event Operation Buffer Note UInt8 where
  reading := reading config kind
  history := history
  phase := phase
  early := firstPacketRecv
  buffer := outWriteBuf
  operation := Event.operation
  note s e := .handled s.status e
  aborted
    | .inRead .aborted => true
    | _ => false
  opens _ e := e = .tlsHandshake false

/-- **A read that was cancelled brings data to the tunnel.** -/
def late (s : ForwardSession) (e : Event) (cancelled : Bool) : Bool :=
  match e with
  | .inRead (.success _) => cancelled && s.status = .forward
  | _ => false

variable {config : Config} {kind : Kind} {s t : ForwardSession} {e : Event} {op : Operation}
  {stale : ℕ} {cancelled : Bool}

/-- The marks of a handler. -/
theorem adds (hop : e.operation = some op) {new : History}
    (ht : t.history = new ++ (s.receives e).history) : (upstream config kind).Adds s e op t new := by
  unfold receives at ht
  rw [hop] at ht
  exact ht

/-- A session that has been started is past the idle phase. -/
theorem phase_ne_idle (h : (upstream config kind).Completes s stale e cancelled op) :
    s.history ≠ [] ∧ s.phase ≠ .idle := by
  have hne : s.history ≠ [] := by
    intro hnil
    have hmem : op ∈ inFlight s.history := h.mem
    rw [hnil] at hmem
    exact List.not_mem_nil hmem
  refine ⟨hne, ?_⟩
  unfold phase
  split
  · rw [if_neg hne]
    exact Pump.Phase.noConfusion
  · exact Pump.Phase.noConfusion
  · exact Pump.Phase.noConfusion

/-- Where a session is then depends on its status. -/
theorem phase_eq (h : (upstream config kind).Completes s stale e cancelled op) (hne : t.history ≠ [])
    (hstatus : t.status = s.status) : t.phase = s.phase := by
  rw [phase, phase, hstatus, if_neg (phase_ne_idle h).1, if_neg hne]

/-- A handler that leaves the status, the flag and the buffer. -/
theorem keeps (h : (upstream config kind).Completes s stale e cancelled op) (hne : t.history ≠ [])
    (hstatus : t.status = s.status) (hfirst : t.firstPacketRecv = s.firstPacketRecv)
    (hbuf : t.outWriteBuf = s.outWriteBuf) : (upstream config kind).Keeps s t :=
  ⟨phase_eq h hne hstatus, hfirst, hbuf⟩

/-- **A handler that destroys the session.** -/
theorem fails (h : (upstream config kind).Completes s stale e cancelled op)
    (hopens : (upstream config kind).opens s e = false)
    (hnote : (reading config kind).neutral
      (.noted (.handled s.status e) : Mark Operation Buffer Note) = true) :
    (upstream config kind).Does s stale e cancelled (s.receives e).destroy
      (.closes (op.kind.ended cancelled)) := by
  have hfields : (s.receives e).status = s.status
      ∧ (s.receives e).firstPacketRecv = s.firstPacketRecv
      ∧ (s.receives e).outWriteBuf = s.outWriteBuf := by
    unfold receives
    split
    · exact ⟨rfl, rfl, rfl⟩
    · exact ⟨rfl, rfl, rfl⟩
  obtain ⟨hstatus, hfirst, hbuf⟩ := hfields
  unfold destroy
  split
  · rename_i hdestroy
    refine h.closes [] (adds h.operation rfl) ?_ hfirst hbuf hopens rfl hnote
    show (s.receives e).phase = .closed
    rw [phase, hdestroy]
  · dsimp only
    split
    · exact h.closes [_, _, _] (adds h.operation rfl) rfl hfirst hbuf hopens rfl hnote
    · exact h.closes [_] (adds h.operation rfl) rfl hfirst hbuf hopens rfl hnote

/-- A handler that finds the session destroyed. -/
theorem finds (h : (upstream config kind).Completes s stale e cancelled op)
    (hstatus : s.status = .destroy) (new : History)
    (ht : (upstream config kind).Adds s e op t new) (hstatus' : t.status = s.status)
    (hfirst : t.firstPacketRecv = s.firstPacketRecv) (hbuf : t.outWriteBuf = s.outWriteBuf)
    (hopens : (upstream config kind).opens s e = false)
    (hnew : new.all (reading config kind).neutral = true)
    (hnote : (reading config kind).neutral
      (.noted (.handled s.status e) : Mark Operation Buffer Note) = true) :
    (upstream config kind).Does s stale e cancelled t (.closes (op.kind.ended cancelled)) := by
  refine h.closes new ht ?_ hfirst hbuf hopens hnew hnote
  show t.phase = .closed
  rw [phase, hstatus', hstatus]

/-! ## The events, one by one -/

/-- **A step is a clean act of the pump.** -/
def Acts (config : Config) (kind : Kind) (s : ForwardSession) (stale : ℕ) (e : Event)
    (cancelled : Bool) (t : ForwardSession) : Prop :=
  ∃ a, (upstream config kind).Does s stale e cancelled t a ∧ a.Clean

theorem acts_inRead {data : Outcome Bytes}
    (h : (upstream config kind).Completes s stale (.inRead data) cancelled op)
    (hlate : s.late (.inRead data) cancelled = false) :
    Acts config kind s stale (.inRead data) cancelled
      ((s.receives (.inRead data)).handle config kind (.inRead data)) := by
  obtain rfl := Option.some.inj h.operation
  cases data with
  | failed => exact ⟨_, fails h rfl rfl, trivial⟩
  | aborted =>
    cases cancelled with
    | false => exact absurd (Watch.live_of_admits h.admits rfl).2 nofun
    | true =>
      exact ⟨_, h.drops rfl [] (adds rfl rfl) (phase_ne_idle h).2
        (keeps h (List.cons_ne_nil _ _) rfl rfl rfl) rfl rfl rfl, rfl⟩
  | success data =>
    show Acts config kind s stale _ cancelled
      ({ s.receives (.inRead (.success data)) with
          inReadBuf := fillBuffer s.inReadBuf data }.inRecv data.length)
    unfold inRecv
    dsimp only
    rw [take_growAfterRead]
    split
    · rename_i hconnect
      have hstatus : s.status = .connect := hconnect
      have hphase : s.phase = .opening := by
        rw [phase, hstatus]
        exact if_neg (phase_ne_idle h).1
      have hbrings : (reading config kind).brings (.handled s.status (.inRead (.success data)))
          = data := by
        rw [hstatus]
        rfl
      refine ⟨_, h.keeps rfl [_] (adds rfl rfl) hphase ?_ rfl ?_ rfl rfl rfl rfl, trivial⟩
      · show phase _ = .opening
        exact Eq.trans (phase_eq h (List.cons_ne_nil _ _) rfl) hphase
      · exact congrArg (s.outWriteBuf ++ ·) hbrings.symm
    · rename_i hforward
      have hstatus : s.status = .forward := hforward
      have hphase : s.phase = .flowing := by rw [phase, hstatus]
      have hbrings : (reading config kind).brings (.handled s.status (.inRead (.success data)))
          = data := by
        rw [hstatus]
        rfl
      refine ⟨_, h.forwards rfl [_, _] (adds rfl rfl) ?_ hphase
        (keeps h (List.cons_ne_nil _ _) rfl rfl rfl) rfl rfl rfl rfl, ?_⟩
      · exact congrArg Pump.Kind.write hbrings.symm
      · show cancelled = false
        simpa [late, hstatus] using hlate
    · rename_i hdestroy
      have hstatus : s.status = .destroy := hdestroy
      refine ⟨_, finds h hstatus [_] (adds rfl rfl) rfl rfl rfl rfl rfl ?_, trivial⟩
      rw [hstatus]
      rfl

/-- A handler that does nothing for the uplink. -/
theorem acts_rest (h : (upstream config kind).Completes s stale e cancelled op)
    (hkind : op.kind = .other) (new : History) (ht : (upstream config kind).Adds s e op t new)
    (hstatus : t.status = s.status) (hfirst : t.firstPacketRecv = s.firstPacketRecv)
    (hbuf : t.outWriteBuf = s.outWriteBuf) (hne : t.history ≠ [])
    (hopens : (upstream config kind).opens s e = false)
    (hnew : new.all (reading config kind).neutral = true)
    (hnote : (reading config kind).neutral
      (.noted (.handled s.status e) : Mark Operation Buffer Note) = true) :
    Acts config kind s stale e cancelled t :=
  ⟨_, h.rests hkind new ht (keeps h hne hstatus hfirst hbuf) hopens hnew hnote, trivial⟩

theorem acts_inWrite {data : Bytes} {error : Bool}
    (h : (upstream config kind).Completes s stale (.inWrite data error) cancelled op) :
    Acts config kind s stale (.inWrite data error) cancelled
      ((s.receives (.inWrite data error)).handle config kind (.inWrite data error)) := by
  obtain rfl := Option.some.inj h.operation
  cases error with
  | true => exact ⟨_, fails h rfl rfl, trivial⟩
  | false =>
    show Acts config kind s stale _ cancelled (s.receives (.inWrite data false)).inSent
    unfold inSent
    split
    · exact acts_rest h rfl [.began .outRead] (adds rfl rfl) rfl rfl rfl (List.cons_ne_nil _ _)
        rfl rfl rfl
    · exact acts_rest h rfl [] (adds rfl rfl) rfl rfl rfl (List.cons_ne_nil _ _) rfl rfl rfl

theorem acts_outRead {data : Option Bytes}
    (h : (upstream config kind).Completes s stale (.outRead data) cancelled op) :
    Acts config kind s stale (.outRead data) cancelled
      ((s.receives (.outRead data)).handle config kind (.outRead data)) := by
  obtain rfl := Option.some.inj h.operation
  cases data with
  | none => exact ⟨_, fails h rfl rfl, trivial⟩
  | some data =>
    show Acts config kind s stale _ cancelled
      ({ s.receives (.outRead (some data)) with
          outReadBuf := fillBuffer s.outReadBuf data }.outRecv data.length)
    unfold outRecv
    dsimp only
    split
    · exact acts_rest h rfl [_, _, _] (adds rfl rfl) rfl rfl rfl (List.cons_ne_nil _ _) rfl rfl rfl
    · exact acts_rest h rfl [_] (adds rfl rfl) rfl rfl rfl (List.cons_ne_nil _ _) rfl rfl rfl

theorem acts_resolve {results : Option (List IpAddress)} {openError : Bool}
    (h : (upstream config kind).Completes s stale (.resolve results openError) cancelled op) :
    Acts config kind s stale (.resolve results openError) cancelled
      ((s.receives (.resolve results openError)).handle config kind (.resolve results openError)) := by
  obtain rfl := Option.some.inj h.operation
  show Acts config kind s stale _ cancelled
    ((s.receives (.resolve results openError)).resolved results openError)
  unfold resolved
  split
  · exact ⟨_, fails h rfl rfl, trivial⟩
  · split
    · exact ⟨_, fails h rfl rfl, trivial⟩
    · exact ⟨_, h.advances rfl [.noted .openedOutSocket] (adds rfl rfl) rfl
        (keeps h (List.cons_ne_nil _ _) rfl rfl rfl) rfl rfl rfl, trivial⟩

theorem acts_tcpConnect {endpoint : IpAddress} {error : Bool}
    (h : (upstream config kind).Completes s stale (.tcpConnect endpoint error) cancelled op) :
    Acts config kind s stale (.tcpConnect endpoint error) cancelled
      ((s.receives (.tcpConnect endpoint error)).handle config kind (.tcpConnect endpoint error)) := by
  obtain rfl := Option.some.inj h.operation
  cases error with
  | true => exact ⟨_, fails h rfl rfl, trivial⟩
  | false =>
    exact ⟨_, h.advances rfl [] (adds rfl rfl) rfl (keeps h (List.cons_ne_nil _ _) rfl rfl rfl)
      rfl rfl rfl, trivial⟩

theorem acts_tlsHandshake {error : Bool}
    (h : (upstream config kind).Completes s stale (.tlsHandshake error) cancelled op) :
    Acts config kind s stale (.tlsHandshake error) cancelled
      ((s.receives (.tlsHandshake error)).handle config kind (.tlsHandshake error)) := by
  obtain rfl := Option.some.inj h.operation
  cases error with
  | true => exact ⟨_, fails h rfl rfl, trivial⟩
  | false =>
    exact ⟨_, h.opensSink rfl [.modified .outWriteData, .began .outRead] (adds rfl rfl) rfl
      ⟨rfl, rfl, rfl⟩ rfl rfl rfl rfl rfl rfl, trivial⟩

theorem acts_outWrite {data : Bytes} {error : Bool}
    (h : (upstream config kind).Completes s stale (.outWrite data error) cancelled op)
    (hsound : ((upstream config kind).pump s stale).Sound) :
    Acts config kind s stale (.outWrite data error) cancelled
      ((s.receives (.outWrite data error)).handle config kind (.outWrite data error)) := by
  obtain rfl := Option.some.inj h.operation
  cases error with
  | true => exact ⟨_, fails h rfl rfl, trivial⟩
  | false =>
    show Acts config kind s stale _ cancelled (s.receives (.outWrite data false)).outSent
    unfold outSent
    cases hstatus : s.status with
    | forward =>
      have hphase : s.phase = .flowing := by rw [phase, hstatus]
      rw [if_pos (show (s.receives (.outWrite data false)).status = .forward from hstatus)]
      exact ⟨_, h.refills rfl [] (adds rfl rfl) rfl hphase
        (keeps h (List.cons_ne_nil _ _) rfl rfl rfl) rfl rfl rfl, trivial⟩
    | connect =>
      -- there is no write before the tunnel is established
      have hphase : ((upstream config kind).pump s stale).phase = .opening := by
        show s.phase = .opening
        rw [phase, hstatus]
        exact if_neg (phase_ne_idle h).1
      have hwrites : 0 < ((upstream config kind).pump s stale).writes := h.has
      have hsteady := hsound.steady
      simp only [Pump.Steady, hphase] at hsteady
      omega
    | destroy =>
      rw [if_neg (by rw [show (s.receives _).status = s.status from rfl, hstatus]; simp)]
      exact ⟨_, finds h hstatus [] (adds rfl rfl) rfl rfl rfl rfl rfl rfl, trivial⟩

/-- A start opens the tunnel, if there is a target. -/
theorem start_eq (s : ForwardSession) (remoteEndpoint : Option TcpEndpoint)
    (target : Bytes × UInt16) :
    s.start config kind remoteEndpoint target
      = match targetOf config kind remoteEndpoint target with
        | none => s.destroy
        | some target => s.opensTunnel config target := by
  unfold start targetOf
  split
  · rfl
  · rfl
  · split
    · rfl
    · rfl

/-- **A start sets the pump up**, or closes it at once. -/
theorem acts_start (remoteEndpoint : Option TcpEndpoint) (target : Bytes × UInt16) :
    Acts config kind create 0 (.start remoteEndpoint target) false
      ((create.receives (.start remoteEndpoint target)).handle config kind
        (.start remoteEndpoint target)) := by
  show Acts config kind create 0 _ false
    ((create.receives (.start remoteEndpoint target)).start config kind remoteEndpoint target)
  rw [start_eq]
  have hheader (marks : History)
      (hmarks : collect (Pump.Reading.byNote (reading config kind).header) marks = []) :
      collect (Pump.Reading.byNote (reading config kind).header)
        (marks ++ [.noted (.handled .connect (.start remoteEndpoint target))])
        = ((targetOf config kind remoteEndpoint target).map (requestHeader config)).getD [] := by
    rw [collect_append, hmarks, List.append_nil]
    rfl
  cases htarget : targetOf config kind remoteEndpoint target with
  | none =>
    refine ⟨.closes .other, ⟨trivial, ?_, List.cons_ne_nil _ _⟩, trivial⟩
    have hnone := hheader [.noted .destroyed] rfl
    rw [htarget] at hnone
    unfold Pump.Program.pump Pump.Reading.pump
    dsimp only [upstream]
    rw [show collect (Pump.Reading.byNote (reading config kind).header)
      (create.receives (.start remoteEndpoint target)).destroy.history = [] from hnone]
    rfl
  | some target' =>
    refine ⟨.begins (requestHeader config target'), ⟨⟨rfl, rfl⟩, ?_, List.cons_ne_nil _ _⟩, trivial⟩
    have hsome := hheader [.began .resolve, .began .inRead] rfl
    rw [htarget] at hsome
    unfold Pump.Program.pump Pump.Reading.pump
    dsimp only [upstream]
    rw [show collect (Pump.Reading.byNote (reading config kind).header)
      ((create.receives (.start remoteEndpoint target)).opensTunnel config target').history
      = requestHeader config target' from hsome]
    rfl

/-! ## Runs -/

/-- **One step of a session**, with whether the read from the peer that completes
was cancelled. -/
def watchedStep (config : Config) (kind : Kind) (x : Watched ForwardSession) (ev : Event × Bool) :
    Option (Watched ForwardSession) :=
  (upstream config kind).reads.step (step config kind) x ev

/-- **The uplink is a pump**: each step of a session is a clean act of its pump,
unless a cancelled read brings data. -/
theorem exists_act {x y : Watched ForwardSession}
    (hfresh : x.state.history = [] → x = ⟨create, 0⟩)
    (hsound : ((upstream config kind).pump x.state x.stale).Sound)
    (h : watchedStep config kind x (e, cancelled) = some y)
    (hlate : x.state.late e cancelled = false) :
    Acts config kind x.state x.stale e cancelled y.state := by
  obtain ⟨hadmits, hstep, -⟩ := Watch.step_eq_some.mp h
  obtain ⟨s, stale⟩ := x
  unfold step at hstep
  split at hstep
  · rename_i haccepts
    rw [← Option.some.inj hstep]
    show Acts config kind s stale e cancelled ((s.receives e).handle config kind e)
    cases hop : e.operation with
    | none =>
      rw [accepts, hop] at haccepts
      obtain ⟨rfl, rfl⟩ := Watched.mk.inj (hfresh (List.isEmpty_iff.mp haccepts))
      cases e with
      | start remoteEndpoint target =>
        obtain rfl := Watch.stale_of_not_completes hadmits rfl
        exact acts_start remoteEndpoint target
      | _ => exact absurd hop (by simp [Event.operation])
    | some op =>
      rw [accepts, hop] at haccepts
      have hc : (upstream config kind).Completes s stale e cancelled op :=
        ⟨hop, of_decide_eq_true (Bool.and_eq_true_iff.mp haccepts).1, hadmits⟩
      cases e with
      | start remoteEndpoint target => exact absurd hop (by simp [Event.operation])
      | inRead data => exact acts_inRead hc hlate
      | inWrite data error => exact acts_inWrite hc
      | resolve results openError => exact acts_resolve hc
      | tcpConnect endpoint error => exact acts_tcpConnect hc
      | tlsHandshake error => exact acts_tlsHandshake hc
      | outRead data => exact acts_outRead hc
      | outWrite data error => exact acts_outWrite hc hsound
      | tlsShutdown aborted =>
        obtain rfl := Option.some.inj hop
        cases aborted <;>
          exact acts_rest hc rfl [] (adds rfl rfl) rfl rfl rfl (List.cons_ne_nil _ _) rfl rfl rfl
      | shutdownTimer aborted =>
        obtain rfl := Option.some.inj hop
        cases aborted <;>
          exact acts_rest hc rfl [] (adds rfl rfl) rfl rfl rfl (List.cons_ne_nil _ _) rfl rfl rfl
  · exact absurd hstep nofun

/-- The invariant of the uplink. -/
structure Pumping (config : Config) (kind : Kind) (x : Watched ForwardSession) : Prop where
  sound : ((upstream config kind).pump x.state x.stale).Sound
  prompt : ((upstream config kind).pump x.state x.stale).Prompt
  fresh : x.state.history = [] → x = ⟨create, 0⟩

/-- It holds of a session that is not started. -/
theorem pumping_create : Pumping config kind ⟨create, 0⟩ where
  sound := ⟨Nat.le_refl _, rfl, rfl, Nat.zero_le _, rfl, rfl, rfl, rfl, rfl, rfl⟩
  prompt hphase := absurd hphase Pump.Phase.noConfusion
  fresh _ := rfl

/-- **A step keeps it**, unless a cancelled read brings data. -/
theorem Pumping.step {x y : Watched ForwardSession} (hx : Pumping config kind x)
    (hlate : x.state.late e cancelled = false)
    (h : watchedStep config kind x (e, cancelled) = some y) : Pumping config kind y := by
  obtain ⟨a, ha, hclean⟩ := exists_act hx.fresh hx.sound h hlate
  have hstale : y.stale
      = (upstream config kind).staleAfter x.state x.stale e cancelled y.state :=
    (Watch.step_eq_some.mp h).2.2
  obtain ⟨hsound, hprompt⟩ := hx.sound.act_of_clean hx.prompt ha.allows hclean
  rw [← ha.pump_eq, ← hstale] at hsound hprompt
  exact ⟨hsound, hprompt, fun hnil => absurd hnil ha.marks⟩

end ForwardSession
