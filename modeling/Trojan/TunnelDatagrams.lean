import Trojan.ClientDatagrams
import Trojan.ServerDatagrams
import Trojan.Tunnel

/-!
# Datagrams through a tunnel

What `Trojan.Tunnel` shows of a stream holds of datagrams as well, although they go
through two buffers and two codes on their way: a datagram of SOCKS5 becomes a frame, the
frames go over one stream, in pieces of any size, and the server makes of each a datagram
to the host that the frame names.

Upwards the server asks for the destinations of the datagrams that the application has
sent, in their order and without a gap, and sends their payloads in this order
(`Tunnel.carries_datagrams_upwards`). This needs an application that says nothing on its
connection behind its request, since that would go among the frames. Downwards the
application receives the datagrams that the targets have sent, each with its sender, in
their order and without a gap (`Tunnel.carries_datagrams_downwards`); this holds of every
run, whatever fails.
-/

open Flight

namespace ClientSession

/-- **The uplink of an association is in order**, as long as nothing upsets it. -/
theorem inOrder_of_calm {config : Config} {es : List (Event × Bool)}
    (hcalm : Machine.Along (watchedStep config true)
      (fun x ev => x.state.upset x.stale ev.1 ev.2 = false) ⟨create, 0⟩ es)
    {y : Watched ClientSession}
    (hrun : Machine.run (watchedStep config true) ⟨create, 0⟩ es = some y)
    (hmode : y.state.isUdp = true) : (upstream config true).InOrder y := by
  have hpumping : Pumping config true y := by
    refine Machine.run_invariant_along (P := Pumping config true) (fun x ev z hx hev hstep => ?_)
      pumping_create hcalm hrun
    refine hx.next hstep (fun hmode => ?_)
    obtain ⟨hiff, hsound⟩ := hx.oneOutstanding_iff hstep hmode
    exact hsound (hiff.mpr hev)
  exact Pump.Program.inOrder_of_sound (hpumping.sound (.inl hmode))

/-- A session keeps to its frames and to its choice also while its reads are watched. -/
theorem associates_watched {config : Config} {udp : Bool} {es : List (Event × Bool)}
    {y : Watched ClientSession} (h : Machine.run (watchedStep config udp) ⟨create, 0⟩ es = some y) :
    Associates y.state ∧ Chosen config y.state := by
  have hall : Accounted config y.state ∧ Associates y.state ∧ Chosen config y.state := by
    refine Machine.run_invariant (P := fun x => Accounted config x.state ∧ Associates x.state
      ∧ Chosen config x.state) (fun x ev z hx hstep => ?_)
      ⟨accounted_create, associates_create, chosen_create⟩ h
    obtain ⟨-, hstep, -⟩ := Watch.step_eq_some.mp hstep
    exact ⟨(hx.1.step hstep).1, hx.2.1.step hstep, hx.2.2.step hx.1 hstep⟩
  exact hall.2

/-- **The request for an association and the header it becomes.** -/
theorem exists_header_of_association {config : Config} (hfree : CrlfFree config.firstPassword)
    {data : Bytes} {bound : Option UdpEndpoint} {request : Bytes}
    (h : acceptedRequest config data bound = some request)
    (hudp : asksForUdp config data = true) :
    ∃ address host port tail,
      data = [5, TrojanRequest.Command.byte .udpAssociate, 0] ++ address
      ∧ address ++ crlf = Host.wire host port ++ crlf ++ tail
      ∧ request = TrojanRequest.header config.firstPassword .udpAssociate host port ++ tail := by
  obtain ⟨command, address, host, port, tail, hdata, haddress, hrequest⟩ :=
    exists_header_of_accepted hfree h
  have hbuf : request = requestBuffer config data := by
    rcases acceptedRequest_eq_or config data bound with hnone | hsome
    · rw [hnone] at h
      exact absurd h (by simp)
    · exact Option.some.inj (h.symm.trans hsome)
  have hcommand : some command = some TrojanRequest.Command.udpAssociate := by
    have hparsed := of_decide_eq_true hudp
    rw [← hbuf, hrequest, TrojanRequest.parse_header_append {} hfree] at hparsed
    exact hparsed
  obtain rfl := Option.some.inj hcommand
  exact ⟨address, host, port, tail, hdata, haddress, hrequest⟩

end ClientSession

namespace Tunnel

/-- Something upsets the association at the client's end. -/
def upset (x : Watched ClientSession × ServerSession) :
    (ClientSession.Event × Bool) ⊕ ServerSession.Event → Bool
  | .inl e => x.1.state.upset x.1.stale e.1 e.2
  | .inr _ => false

/-- **Nothing upsets the association**, throughout a run. -/
def Calm (config : Config) (env : ServerSession.Env) (handoff : Option ExternalFrontHandoff)
    (es : List ((ClientSession.Event × Bool) ⊕ ServerSession.Event)) : Prop :=
  Machine.Along (step config env true) (fun x e => upset x e = false) (create handoff) es

instance (config : Config) (env : ServerSession.Env) (handoff : Option ExternalFrontHandoff)
    (es : List ((ClientSession.Event × Bool) ⊕ ServerSession.Event)) :
    Decidable (Calm config env handoff es) :=
  Machine.decidableAlong _ _

/-- The datagram that an application is sent for one from a target. -/
def replyOf (received : Bytes × UdpEndpoint) : Bytes :=
  [0, 0, 0] ++ SOCKS5Address.generate received.2 ++ received.1

variable {config : Config} {env : ServerSession.Env} {handoff : Option ExternalFrontHandoff}
  {es : List ((ClientSession.Event × Bool) ⊕ ServerSession.Event)}
  {y : Watched ClientSession × ServerSession}

/-- **What an association sends up a tunnel**, as long as nothing upsets it and the
application says nothing behind its request. Nothing reaches the server before the tunnel
is established. Then the application has asked for the association. The server asks for
the destinations of the datagrams that the application has sent, in their order, and only
if it accepts the password; it is answered in this order, and sends what it is answered in
this order. When it waits for a read and nothing is on the way, it has asked for all of
them. -/
theorem carries_datagrams_upwards (hfree : CrlfFree config.firstPassword)
    (hcalm : Calm config env handoff es)
    (hrun : Machine.run (step config env true) (create handoff) es = some y)
    (hudp : y.1.state.isUdp = true)
    (hsilent : collect ClientSession.saidBehind y.1.state.history = []) :
    (.noted .tunnelEstablished ∉ y.1.state.history →
      collect ServerSession.fromWire y.2.history = [])
    ∧ (.noted .tunnelEstablished ∈ y.1.state.history →
      ∃ (address : Bytes) (bound : Option UdpEndpoint) (host : Host) (port : UInt16) (tail : Bytes)
        (fs : List UdpFrame),
        .noted (.handled .request (.inRead (.success
            ([5, TrojanRequest.Command.byte .udpAssociate, 0] ++ address)) bound))
          ∈ y.1.state.history
        ∧ address ++ crlf = Host.wire host port ++ crlf ++ tail
        ∧ collect ClientSession.datagrams y.1.state.history = fs.map ClientSession.datagramOf
        ∧ (tail = [] →
          collect ServerSession.requested y.2.history <+: fs.map ServerSession.requestOf
          ∧ (collect ServerSession.requested y.2.history ≠ [] →
            ServerSession.Accepts env config.firstPassword = true)
          ∧ (collect ServerSession.answered y.2.history).map Prod.fst
            <+: collect ServerSession.requested y.2.history
          ∧ (collect ServerSession.dispatched y.2.history).map some
            <+: (collect ServerSession.answered y.2.history).map (ServerSession.dispatchOf env)
          ∧ (y.2.status = .udpForward → .inRead ∈ y.2.pending →
            collect ServerSession.fromWire y.2.history
              = (ClientSession.upstream config true).submitted y.1.state →
            collect ServerSession.requested y.2.history = fs.map ServerSession.requestOf))) := by
  have hclient := Party.run_lefts hrun
  obtain ⟨hacc, hspeaks, -⟩ := ClientSession.speaks_watched hclient
  have horder : (ClientSession.upstream config true).InOrder y.1 :=
    ClientSession.inOrder_of_calm (Party.along_lefts (fun _ _ hnot => hnot) hrun hcalm) hclient hudp
  have hwire := (wired hrun).2
  have hopened := ClientSession.opened_iff config true y.1.state
  rw [horder.submitted] at hwire ⊢
  constructor
  · intro hnot
    rw [if_neg (fun hopen => hnot (hopened.mp hopen))] at hwire
    exact List.prefix_nil.mp hwire
  · intro hest
    rw [if_pos (hopened.mpr hest)] at hwire ⊢
    obtain ⟨hmade, -⟩ := hspeaks.serves (.inr (.inr hest))
    obtain ⟨data, bound, hmem, haccepted⟩ := hspeaks.asked.resolve_left hmade
    obtain ⟨hassociates, hchosen⟩ := ClientSession.associates_watched hclient
    have hasks : ClientSession.asksForUdp config data = true := by
      rw [← hchosen data bound hmem (by simp [haccepted]), hudp]
    obtain ⟨address, host, port, tail, rfl, haddress, hrequest⟩ :=
      ClientSession.exists_header_of_association hfree haccepted hasks
    obtain ⟨fs, hfs, hcarried⟩ :=
      ClientSession.carried_eq_stream config hassociates.sized hsilent
    have hheader : (ClientSession.upstream config true).header y.1.state
        = TrojanRequest.header config.firstPassword .udpAssociate host port ++ tail := hrequest
    have hcarried : (ClientSession.upstream config true).carried y.1.state
        = udpFrameCode.stream fs := hcarried
    refine ⟨address, bound, host, port, tail, fs, hmem, haddress, hfs, ?_⟩
    rintro rfl
    rw [hheader, hcarried, List.append_nil] at hwire ⊢
    rcases ServerSession.datagrams_run (Party.run_rights hrun) with
      hcreate | ⟨hord, hstreams, hdispatches, -⟩
    · rw [hcreate]
      refine ⟨List.nil_prefix, fun hne => absurd rfl hne, List.nil_prefix, List.nil_prefix,
        fun hst => ServerSession.Status.noConfusion hst⟩
    · obtain ⟨unread, hunread⟩ := hwire
      obtain ⟨hbegins, haccepts, hall⟩ :=
        ServerSession.dispatches_stream hord hstreams hdispatches hfree hunread
      refine ⟨hbegins, haccepts, hdispatches.inOrder, ?_, fun hst hread hdrained => ?_⟩
      · rcases hdispatches.sent with hsame | ⟨-, -, hsent⟩
        · rw [hsame]
        · exact hsent
      · rw [hdrained] at hunread
        exact hall hst hread (List.append_right_eq_self.mp hunread)

theorem length_sample_lt : ([7] : Bytes).length < 65536 := by
  decide

/-- A datagram for a target, and the frame that the client makes of it. -/
def sampleFrame : UdpFrame := ⟨.v4 (IpAddress.example4 9), 53, [7], length_sample_lt⟩

/-- An application that asks for an association, and says where it sends from. -/
def sampleAssociation : Bytes := [5, 3, 0, 1, 0, 0, 0, 0, 0, 0]

/-- An application that sends one datagram, and is answered. -/
def sampleDatagrams : List ((ClientSession.Event × Bool) ⊕ ServerSession.Event) :=
  (ClientSession.associationEvents
      ++ [ClientSession.datagramEvent (ClientSession.datagramOf sampleFrame)]).map .inl
    ++ [.inr (.start (some {})), .inr (.tlsHandshake none),
      .inr (.inRead (some (ClientSession.requestBuffer ClientSession.clientConfig sampleAssociation
        ++ sampleFrame.bytes)) true),
      .inr (.udpResolve (ServerSession.requestOf sampleFrame)
        (some [⟨.v4 (IpAddress.example4 9), 53⟩]) false),
      .inr (.udpSend [7] ⟨.v4 (IpAddress.example4 9), 53⟩ 1 false),
      .inr (.udpReceive (some ([8], ⟨.v4 (IpAddress.example4 9), 53⟩))),
      .inl (.outRead (some [1, 192, 0, 2, 9, 0, 53, 0, 1, 13, 10, 8]), false)]

/-- The datagram has been asked for, and it is the only one. -/
theorem carries_datagrams_upwards_of_one :
    ∃ y, Machine.run (step ClientSession.clientConfig sampleEnv true) (create none) sampleDatagrams
        = some y
      ∧ collect ServerSession.requested y.2.history = [ServerSession.requestOf sampleFrame]
      ∧ ∃ address bound, .noted (.handled .request (.inRead (.success
          ([5, TrojanRequest.Command.byte .udpAssociate, 0] ++ address)) bound))
        ∈ y.1.state.history := by
  have hrun : (Machine.run (step ClientSession.clientConfig sampleEnv true) (create none)
      sampleDatagrams).any (fun y => y.1.state.isUdp = true
        ∧ collect ClientSession.saidBehind y.1.state.history = []
        ∧ .noted .tunnelEstablished ∈ y.1.state.history
        ∧ collect ServerSession.requested y.2.history
          = [ServerSession.requestOf sampleFrame]) = true := by
    decide +kernel
  obtain ⟨y, hy, hall⟩ := Option.any_eq_true _ _ |>.mp hrun
  obtain ⟨hudp, hsilent, hest, hasked⟩ := of_decide_eq_true hall
  obtain ⟨address, bound, host, port, tail, fs, hmem, -⟩ :=
    (carries_datagrams_upwards (by decide +kernel) (by decide +kernel) hy hudp hsilent).2 hest
  exact ⟨y, hy, hasked, address, bound, hmem⟩

/-- **What comes down a tunnel to an association**, if the server relays datagrams: the
application is sent the datagrams that have come from the targets, each with its sender,
in their order and without a gap. -/
theorem carries_datagrams_downwards {udp : Bool}
    (hrun : Machine.run (step config env udp) (create handoff) es = some y) {data : Bytes}
    (hdata : y.2.handshakePayloads = [data]) (hfor : ServerSession.ForUdp env data) :
    collect ClientSession.sentBack y.1.state.history
      <+: (collect ServerSession.receivedFrom y.2.history).map replyOf := by
  have hclient := Party.run_lefts hrun
  obtain ⟨-, -, hreturns⟩ := ClientSession.speaks_watched hclient
  obtain ⟨fs, hfs, hread⟩ := (ClientSession.associates_watched hclient).1.frames
  rcases ServerSession.datagrams_run (Party.run_rights hrun) with hcreate | ⟨hord, -, -, hhears⟩
  · rw [hcreate] at hdata
    exact absurd hdata.symm (List.cons_ne_nil _ _)
  · obtain ⟨gs, hgs, hmap⟩ := ServerSession.toClient_eq_stream hord hhears hdata hfor
    have hprefix := (hreturns .udpForward (by simp)).prefix_returned.trans (wired hrun).1
    rw [hread, hgs] at hprefix
    obtain ⟨more, hmore⟩ := hprefix
    rw [List.append_assoc] at hmore
    obtain ⟨rest, rfl, -⟩ :=
      udpFrameCode.exists_of_stream_append ServerSession.bytes_injective hmore
    refine ⟨rest.map ClientSession.datagramOf, ?_⟩
    have hreplies : (fs ++ rest).map ClientSession.datagramOf
        = ((fs ++ rest).map (fun f => f.host.wire f.port ++ f.payload)).map ([0, 0, 0] ++ ·) := by
      rw [List.map_map]
      exact List.map_congr_left (fun f _ => List.append_assoc _ _ _)
    rw [hfs, ← List.map_append, hreplies, hmap, List.map_map]
    exact List.map_congr_left (fun r _ => (List.append_assoc _ _ _).symm)

/-- The answer of the target has come to the application. -/
theorem carries_datagrams_downwards_of_one :
    ∃ y, Machine.run (step ClientSession.clientConfig sampleEnv true) (create none) sampleDatagrams
        = some y
      ∧ collect ClientSession.sentBack y.1.state.history = [[0, 0, 0, 1, 192, 0, 2, 9, 0, 53, 8]]
      ∧ collect ClientSession.sentBack y.1.state.history
        <+: (collect ServerSession.receivedFrom y.2.history).map replyOf := by
  have hrun : (Machine.run (step ClientSession.clientConfig sampleEnv true) (create none)
      sampleDatagrams).any (fun y => y.2.handshakePayloads
          = [TrojanRequest.header ClientSession.clientConfig.firstPassword .udpAssociate
            (.v4 IpAddress.unspecified) 0 ++ sampleFrame.bytes]
        ∧ collect ClientSession.sentBack y.1.state.history
          = [[0, 0, 0, 1, 192, 0, 2, 9, 0, 53, 8]]) = true := by
    decide +kernel
  obtain ⟨y, hy, hall⟩ := Option.any_eq_true _ _ |>.mp hrun
  obtain ⟨hdata, hsentBack⟩ := of_decide_eq_true hall
  refine ⟨y, hy, hsentBack, carries_datagrams_downwards hy hdata (fun context => ?_)⟩
  exact (ServerSession.evaluate_association _ (by decide +kernel) (by decide +kernel) _ _ _
    context).1

end Tunnel
