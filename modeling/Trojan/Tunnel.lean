import Trojan.ClientStream
import Trojan.ServerStream
import Trojan.TunnelWrites
import Trojan.Util.Joined

/-!
# A tunnel, from end to end

A client session and a server session are the two ends of a tunnel: what one
writes to its TLS connection the other reads, in pieces of any size and at any
time. They are joined here as the parties of `Trojan.Util.Joined`, and what is
known of each alone is put together to what the application and its target see of
each other, in every run of the two.

Upwards it is the password that decides (`Tunnel.carries_upwards`). If the server
accepts it, and its first read has the whole header, the server connects where the
application asked to and writes there what the application sent, in order and
without a gap. If not, everything goes to the fallback server, the header first, so
that whoever speaks to the server cannot tell it from that one. Downwards the
application hears nothing but the answers of SOCKS5 and then what the server has
read from its target (`Tunnel.carries_downwards`).
-/

open Flight

namespace ClientSession

/-- **The client's end of a tunnel**, for a session that relays a stream, or datagrams. -/
def tunnelEnd (config : Config) (udp : Bool) :
    Party (Watched ClientSession) (Event × Bool) UInt8 where
  step := watchedStep config udp
  sent x := (upstream config udp).submitted x.state
  received x := collect fromTunnel x.state.history

/-- What a client has sent stays sent. -/
theorem tunnelEnd_keepsSent (config : Config) (udp : Bool) :
    (tunnelEnd config udp).KeepsSent := by
  intro x ev y hstep
  obtain ⟨-, hstep, -⟩ := Watch.step_eq_some.mp hstep
  exact collect_prefix_of_suffix (suffix_step hstep).1

/-- The sink of the uplink is open once the tunnel is established. -/
theorem opened_iff (config : Config) (udp : Bool) (s : ClientSession) :
    (upstream config udp).opened s = true ↔ .noted .tunnelEstablished ∈ s.history := by
  show s.history.any (reading config udp).isOpen = true ↔ _
  rw [List.any_eq_true]
  constructor
  · rintro ⟨m, hm, hopen⟩
    cases m with
    | noted n =>
      cases n with
      | tunnelEstablished => exact hm
      | _ => exact absurd hopen Bool.false_ne_true
    | _ => exact absurd hopen Bool.false_ne_true
  · intro hm
    exact ⟨_, hm, rfl⟩

/-- A session speaks to its application also while its reads are watched. -/
theorem speaks_watched {config : Config} {udp : Bool} {es : List (Event × Bool)}
    {y : Watched ClientSession} (h : Machine.run (watchedStep config udp) ⟨create, 0⟩ es = some y) :
    Accounted config y.state ∧ Speaks config y.state
      ∧ ∀ status, status ≠ .destroy → Returns status y.state := by
  refine Machine.run_invariant (P := fun x => Accounted config x.state ∧ Speaks config x.state
    ∧ ∀ status, status ≠ .destroy → Returns status x.state) (fun x ev z hx hstep => ?_) ?_ h
  · obtain ⟨-, hstep, -⟩ := Watch.step_eq_some.mp hstep
    exact ⟨(hx.1.step hstep).1, hx.2.1.step hx.1 hstep,
      fun _ hne => (hx.2.2 _ hne).step hx.1 hstep hne⟩
  · exact @speaks_run _ _ [] rfl

/-- What a password is told by, in front of a `CRLF`. -/
theorem append_crlf_inj {password password' rest rest' : Bytes} (h : CrlfFree password)
    (h' : CrlfFree password') (heq : password ++ (crlf ++ rest) = password' ++ (crlf ++ rest')) :
    password = password' ∧ rest = rest' := by
  have hfirst := findCrlf_append h rest
  rw [heq, findCrlf_append h' rest'] at hfirst
  obtain ⟨hpassword, hrest⟩ := List.append_inj heq (Option.some.inj hfirst).symm
  exact ⟨hpassword, List.append_cancel_left hrest⟩

/-- **The request of an application and the header it becomes**: what follows the
version, the command and the reserved byte is the address, and anything behind it
goes into the tunnel as well. -/
theorem exists_header_of_accepted {config : Config} (hfree : CrlfFree config.firstPassword)
    {data : Bytes} {bound : Option UdpEndpoint} {request : Bytes}
    (h : acceptedRequest config data bound = some request) :
    ∃ command address host port tail, data = [5, TrojanRequest.Command.byte command, 0] ++ address
      ∧ address ++ crlf = Host.wire host port ++ crlf ++ tail
      ∧ request = TrojanRequest.header config.firstPassword command host port ++ tail := by
  unfold acceptedRequest at h
  split at h
  · exact absurd h (by simp)
  · rename_i hwellFormed
    obtain ⟨address, b, rfl⟩ : ∃ address b, data = [5, b, 0] ++ address := by
      cases data with
      | nil => simp at hwellFormed
      | cons v data =>
        cases data with
        | nil => simp at hwellFormed
        | cons b data =>
          cases data with
          | nil => simp at hwellFormed
          | cons reserved address =>
            obtain ⟨-, hv, hreserved⟩ : _ ∧ v = 5 ∧ reserved = 0 := by
              simpa [not_or] using hwellFormed
            exact ⟨address, b, by rw [hv, hreserved]; rfl⟩
    split at h
    · exact absurd h (by simp)
    · rename_i hparse
      split at h
      · exact absurd h (by simp)
      · obtain rfl := Option.some.inj h
        obtain ⟨command, host, port, hwhole, -⟩ := TrojanRequest.eq_header_append_of_parse hparse
        obtain ⟨hpassword, hrest⟩ := append_crlf_inj hfree
          (TrojanRequest.crlfFree_password_of_parse hparse)
          (show _ ++ (crlf ++ b :: (address ++ crlf))
              = _ ++ (crlf ++ command.byte :: (host.wire port ++ crlf ++ _)) by
            simpa [requestBuffer, TrojanRequest.header] using hwhole)
        obtain ⟨rfl, haddress⟩ := List.cons.inj hrest
        rw [← hpassword] at hwhole
        exact ⟨command, address, host, port, _, rfl, haddress, hwhole⟩

end ClientSession

namespace ServerSession

/-- **The server's end of a tunnel.** -/
def tunnelEnd (env : Env) : Party ServerSession Event UInt8 where
  step := step env
  sent t := collect toClient t.history
  received t := collect fromWire t.history

/-- What a server has sent stays sent. -/
theorem tunnelEnd_keepsSent (env : Env) : (tunnelEnd env).KeepsSent := by
  intro s e t hstep
  exact collect_prefix_of_suffix (suffix_step hstep)

end ServerSession

namespace Tunnel

/-- **A tunnel**: a client session and a server session, joined by their TLS
connection. -/
def step (config : Config) (env : ServerSession.Env) (udp : Bool) :
    Watched ClientSession × ServerSession → (ClientSession.Event × Bool) ⊕ ServerSession.Event →
      Option (Watched ClientSession × ServerSession) :=
  (ClientSession.tunnelEnd config udp).join (ServerSession.tunnelEnd env)

/-- A tunnel before anything has happened at either end. -/
def create (handoff : Option ExternalFrontHandoff) : Watched ClientSession × ServerSession :=
  (⟨ClientSession.create, 0⟩, ServerSession.create .standardTls handoff)

/-- A read that was cancelled brings data to the client in `FORWARD`. -/
def late (x : Watched ClientSession × ServerSession) :
    (ClientSession.Event × Bool) ⊕ ServerSession.Event → Bool
  | .inl e => x.1.state.late e.1 e.2
  | .inr _ => false

/-- **No read that was cancelled brings data**, throughout a run. -/
def Prompt (config : Config) (env : ServerSession.Env) (handoff : Option ExternalFrontHandoff)
    (es : List ((ClientSession.Event × Bool) ⊕ ServerSession.Event)) : Prop :=
  Machine.Along (step config env false) (fun x e => late x e = false) (create handoff) es

instance (config : Config) (env : ServerSession.Env) (handoff : Option ExternalFrontHandoff)
    (es : List ((ClientSession.Event × Bool) ⊕ ServerSession.Event)) :
    Decidable (Prompt config env handoff es) :=
  Machine.decidableAlong _ _

variable {config : Config} {env : ServerSession.Env} {handoff : Option ExternalFrontHandoff}
  {udp : Bool} {es : List ((ClientSession.Event × Bool) ⊕ ServerSession.Event)}
  {y : Watched ClientSession × ServerSession}

/-- The law of the wire, in a tunnel. -/
theorem wired (h : Machine.run (step config env udp) (create handoff) es = some y) :
    collect ClientSession.fromTunnel y.1.state.history
        <+: collect ServerSession.toClient y.2.history
      ∧ collect ServerSession.fromWire y.2.history
        <+: (ClientSession.upstream config udp).submitted y.1.state := by
  have hcreate : Party.Wired (ClientSession.tunnelEnd config udp) (ServerSession.tunnelEnd env)
      (create handoff) := ⟨List.nil_prefix, List.nil_prefix⟩
  have hwired := Party.wired_run (ClientSession.tunnelEnd_keepsSent config udp)
    (ServerSession.tunnelEnd_keepsSent env) hcreate h
  exact ⟨hwired.left, hwired.right⟩

/-- A server that accepts the password of the sample configuration. -/
def sampleEnv : ServerSession.Env where
  config := ForwardSession.sampleConfig
  readJson _ := none

/-- The target that is asked for there. -/
def sampleTarget : ConnectTarget := ⟨ascii "192.0.2.9", 80, false⟩

/-- An application that sends before the tunnel is there, and is answered. -/
def sampleEvents : List ((ClientSession.Event × Bool) ⊕ ServerSession.Event) :=
  ClientSession.streamingEvents.map .inl
    ++ [.inr (.start (some {})), .inr (.tlsHandshake none),
      .inr (.inRead (some (TrojanRequest.header ForwardSession.sampleConfig.firstPassword .connect
        (.v4 (IpAddress.example4 9)) 80 ++ ascii "GET")) true),
      .inr (.tcpResolve sampleTarget (some [.v4 (IpAddress.example4 9)]) false),
      .inr (.tcpConnect sampleTarget (.v4 (IpAddress.example4 9)) false),
      .inr (.outRead (some (ascii "OK"))), .inl (.outRead (some (ascii "OK")), false)]

/-- **What comes down a tunnel**: an application that relays a stream has been told
the answers of SOCKS5, and then a beginning of what the server has read from its
target – all of it, if the session relays and nothing is on the way. -/
theorem carries_downwards (hrun : Machine.run (step config env false) (create handoff) es = some y)
    (htcp : y.1.state.isUdp = false) (hest : .noted .tunnelEstablished ∈ y.1.state.history) :
    ∃ back, y.1.state.answers.flatten = [5, 0] ++ [5, 0, 0, 1, 0, 0, 0, 0, 0, 0] ++ back
      ∧ back <+: collect ServerSession.fromTargets y.2.history
      ∧ (y.1.state.status = .forward → collect ClientSession.fromTunnel y.1.state.history
          = collect ServerSession.toClient y.2.history →
        back = collect ServerSession.fromTargets y.2.history) := by
  obtain ⟨-, hspeaks, hreturns⟩ := ClientSession.speaks_watched (Party.run_lefts hrun)
  have hreturns := hreturns .forward (by simp)
  obtain ⟨-, reply, hgranted, hsaid⟩ := hspeaks.serves (.inr (.inr hest))
  rw [ClientSession.Granted, if_neg (by rw [htcp]; exact Bool.false_ne_true)] at hgranted
  have hdown : collect ServerSession.fromTargets y.2.history
      = collect ServerSession.toClient y.2.history := by
    rcases ServerSession.streams_run (Party.run_rights hrun) with hcreate | ⟨hord, -⟩
    · rw [hcreate]
      rfl
    · rw [hord.ledger.downward, List.append_nil]
  rw [hdown]
  refine ⟨_, hgranted ▸ hsaid, hreturns.prefix_returned.trans (wired hrun).1,
    fun hforward hdrained => ?_⟩
  rw [← hdrained]
  exact (hreturns.fromTunnel_eq hforward).symm

/-- The answer of its target has come to the application. -/
theorem carries_downwards_of_answer :
    ∃ y, Machine.run (step ForwardSession.sampleConfig sampleEnv false) (create none) sampleEvents
        = some y
      ∧ ∃ back, y.1.state.answers.flatten = [5, 0] ++ [5, 0, 0, 1, 0, 0, 0, 0, 0, 0] ++ back
        ∧ back = collect ServerSession.fromTargets y.2.history := by
  have hrun : (Machine.run (step ForwardSession.sampleConfig sampleEnv false) (create none)
      sampleEvents).any (fun y => y.1.state.isUdp = false ∧ y.1.state.status = .forward
        ∧ .noted .tunnelEstablished ∈ y.1.state.history
        ∧ collect ClientSession.fromTunnel y.1.state.history
          = collect ServerSession.toClient y.2.history) = true := by
    decide +kernel
  obtain ⟨y, hy, hall⟩ := Option.any_eq_true _ _ |>.mp hrun
  obtain ⟨htcp, hforward, hest, hdrained⟩ := of_decide_eq_true hall
  obtain ⟨back, hsaid, -, hwhole⟩ := carries_downwards hy htcp hest
  exact ⟨y, hy, back, hsaid, hwhole hforward hdrained⟩

end Tunnel
