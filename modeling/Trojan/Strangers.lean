import Trojan.ServerDatagrams

/-!
# Strangers

A server hides behind its fallback: whoever comes without a password that it accepts is
to find nothing there but the fallback server. Two things are needed for that. What the
session does with a stranger must not depend on the passwords that would have been
accepted, or on the authenticator (`ServerSession.strangers_run`), so that no number of
visits tells one server from another. And the stranger must really be relayed, every byte
both ways, with no datagram and no account (`ServerSession.strangers_meet_fallback`).

The first is a statement about two runs. The accounts of a server enter a session at its
gate and in the books that it keeps, and a session that is not authenticated keeps no
books.
-/

namespace ServerSession

open Flight

/-! ## Accounts -/

/-- The server with other passwords and another authenticator. -/
def Env.withAccounts (env : Env) (password : List (Bytes × Bytes)) (auth : Option Authenticator) :
    Env :=
  { env with config := { env.config with password := password }, auth := auth }

/-- **The gate refuses a payload.** -/
def Refuses (env : Env) (data : Bytes) : Prop :=
  (SessionGate.authenticate env.config env.auth data).authenticated = false

instance (env : Env) (data : Bytes) : Decidable (Refuses env data) :=
  inferInstanceAs (Decidable (_ = false))

/-- What the gate says of a payload that it refuses is in the payload. -/
theorem authenticate_of_refuses {env : Env} {data : Bytes} (h : Refuses env data) :
    SessionGate.authenticate env.config env.auth data
      = { request := (TrojanRequest.parse {} data).1
          validTrojanRequest := (TrojanRequest.parse {} data).2.isSome } := by
  unfold Refuses SessionGate.authenticate at h
  unfold SessionGate.authenticate
  generalize TrojanRequest.parse {} data = parsed at h ⊢
  obtain ⟨request, _ | n⟩ := parsed
  · rfl
  · simp only [Option.isSome_some, if_true] at h ⊢
    split at h
    · exact absurd h Bool.noConfusion
    · rename_i hunknown
      rw [if_neg hunknown]
      split at h
      · exact absurd h Bool.noConfusion
      · rename_i hauth
        rw [if_neg hauth]

section Accounts

variable {env : Env} {password : List (Bytes × Bytes)} {auth : Option Authenticator}
  {s : ServerSession}

/-- The gate decides alike on a payload that it refuses with either accounts. -/
theorem gateResult_withAccounts {data : Bytes} (h : Refuses env data)
    (h' : Refuses (env.withAccounts password auth) data) :
    s.gateResult (env.withAccounts password auth) data = s.gateResult env data := by
  have heval (context : SessionContext) :
      SessionGate.evaluate (env.withAccounts password auth).config auth ⟨context, data⟩
        = SessionGate.evaluate env.config env.auth ⟨context, data⟩ := by
    rw [@SessionGate.evaluate_of_not_authenticated env.config env.auth ⟨context, data⟩ h,
      @SessionGate.evaluate_of_not_authenticated (env.withAccounts password auth).config auth
        ⟨context, data⟩ h']
    dsimp only
    rw [authenticate_of_refuses h]
    have hother := authenticate_of_refuses h'
    unfold Env.withAccounts at hother ⊢
    dsimp only at hother ⊢
    rw [hother]
    rfl
  unfold gateResult ServerIngressSelector.evaluate
  have hselect : s.selectIngress (env.withAccounts password auth) = s.selectIngress env := rfl
  rw [hselect]
  split
  · split
    · rfl
    · exact congrArg Except.ok (heval _)
  · exact congrArg Except.ok (heval _)

/-! ## One step -/

/-- **Two sessions are the same**, and keep no books. -/
structure Alike (t u : ServerSession) : Prop where
  same : t = u
  unbooked : u.authPassword = []

theorem authPassword_destroy (env : Env) (s : ServerSession) :
    (s.destroy env).authPassword = s.authPassword := by
  by_cases hstatus : s.status = .destroy
  · rw [destroy_of_destroy _ s hstatus]
  · rw [destroy_eq _ s hstatus]

/-- A session that keeps no books closes alike. -/
theorem Alike.destroy (h : s.authPassword = []) :
    Alike (s.destroy (env.withAccounts password auth)) (s.destroy env) := by
  refine ⟨?_, (authPassword_destroy env s).trans h⟩
  by_cases hstatus : s.status = .destroy
  · rw [destroy_of_destroy _ s hstatus, destroy_of_destroy _ s hstatus]
  · have hnotes (env : Env) : s.usageNotes env = [] := by
      rw [usageNotes, if_neg (fun hboth => hboth.2 h)]
    rw [destroy_eq _ s hstatus, destroy_eq _ s hstatus]
    unfold farewell farewellNotes
    rw [hnotes, hnotes]

namespace Alike

theorem udpSent (h : s.authPassword = []) :
    Alike (s.udpSent (env.withAccounts password auth)) (s.udpSent env) := by
  unfold ServerSession.udpSent tryParseUdpPacket
  split
  · rcases ({} : UDPPacket).parse s.udpDataBuf with ⟨p, _ | n⟩
    · by_cases hlong : s.udpDataBuf.length > maxLength
      · simp only [if_pos hlong]
        exact Alike.destroy h
      · simp only [if_neg hlong]
        exact ⟨rfl, h⟩
    · exact ⟨rfl, h⟩
  · exact ⟨rfl, h⟩

theorem dispatchUdpPayload (h : s.authPassword = []) (payload : Bytes) (packetLength : ℕ)
    (endpoint : UdpEndpoint) (openError : Bool) :
    Alike (s.dispatchUdpPayload (env.withAccounts password auth) payload packetLength endpoint
        openError)
      (s.dispatchUdpPayload env payload packetLength endpoint openError) := by
  have hensure : Alike (s.ensureUdpSocketOpen (env.withAccounts password auth) openError)
      (s.ensureUdpSocketOpen env openError) := by
    unfold ensureUdpSocketOpen
    split
    · exact ⟨rfl, h⟩
    · split
      · exact Alike.destroy h
      · exact ⟨rfl, h⟩
  unfold ServerSession.dispatchUdpPayload
  dsimp only
  rw [hensure.same]
  split
  · exact ⟨rfl, hensure.unbooked⟩
  · exact ⟨rfl, hensure.unbooked⟩

theorem start (h : s.authPassword = []) (endpoint : TcpEndpoint) :
    Alike (s.start (env.withAccounts password auth) (some endpoint))
      (s.start env (some endpoint)) := by
  unfold ServerSession.start
  dsimp only
  split
  · exact ⟨rfl, h⟩
  · exact ⟨rfl, h⟩

theorem tlsHandshaken (h : s.authPassword = []) (error : Option Bytes) :
    Alike (s.tlsHandshaken (env.withAccounts password auth) error) (s.tlsHandshaken env error) := by
  unfold ServerSession.tlsHandshaken
  split
  · exact ⟨rfl, h⟩
  · exact Alike.destroy h
  · exact ⟨rfl, h⟩
  · rename_i message _ _
    have hresponse : (env.withAccounts password auth).plainHttpResponse
        = env.plainHttpResponse := rfl
    rw [hresponse]
    split
    · exact ⟨rfl, h⟩
    · exact Alike.destroy h

theorem tcpResolved (h : s.authPassword = []) (target : ConnectTarget) (results : Option (List IpAddress))
    (openError : Bool) :
    Alike (s.tcpResolved (env.withAccounts password auth) target results openError)
      (s.tcpResolved env target results openError) := by
  unfold ServerSession.tcpResolved
  have htcp : (env.withAccounts password auth).config.tcp = env.config.tcp := rfl
  rw [htcp]
  split
  · exact Alike.destroy h
  · split
    · exact Alike.destroy h
    · exact ⟨rfl, h⟩

theorem udpResolved (h : s.authPassword = []) (request : UdpDispatchRequest)
    (results : Option (List UdpEndpoint)) (openError : Bool) :
    Alike (s.udpResolved (env.withAccounts password auth) request results openError)
      (s.udpResolved env request results openError) := by
  unfold ServerSession.udpResolved
  have htcp : (env.withAccounts password auth).config.tcp = env.config.tcp := rfl
  rw [htcp]
  split
  · exact Alike.destroy h
  · exact dispatchUdpPayload h _ _ _ _

theorem connectOutbound (h : s.authPassword = []) (target : ConnectTarget)
    (requiresFallbackSlot granted : Bool) :
    Alike (s.connectOutbound (env.withAccounts password auth) target requiresFallbackSlot granted)
      (s.connectOutbound env target requiresFallbackSlot granted) := by
  unfold ServerSession.connectOutbound
  split
  · dsimp only
    split
    · exact ⟨rfl, h⟩
    · exact Alike.destroy (s := s.tryAcquireFallbackSlot granted) h
  · exact ⟨rfl, h⟩

/-- **A payload that is refused** goes the same way with either accounts. -/
theorem handleHandshakePayload (h : s.authPassword = []) {data : Bytes} (granted : Bool)
    (hrefused : Refuses env data) (hrefused' : Refuses (env.withAccounts password auth) data) :
    Alike (s.handleHandshakePayload (env.withAccounts password auth) data granted)
      (s.handleHandshakePayload env data granted) := by
  unfold ServerSession.handleHandshakePayload
  dsimp only
  rw [gateResult_withAccounts hrefused hrefused']
  obtain ⟨context, hgate⟩ := exists_gateResult env (s.notes (.handshakePayload data)) data
  obtain ⟨decision, hdecision⟩ : ∃ decision,
      decision = SessionGate.evaluate env.config env.auth ⟨context, data⟩ := ⟨_, rfl⟩
  rw [hgate, ← hdecision]
  have hnot : decision.authenticated = false := by
    rw [hdecision, (SessionGate.evaluate_authenticated env.config env.auth _).1]
    exact hrefused
  have hunbooked :
      ((s.notes (.handshakePayload data)).applyAuthResult decision).authPassword = [] := by
    unfold applyAuthResult
    rw [if_neg (by rw [hnot, Bool.and_false]; exact Bool.false_ne_true)]
    split
    · exact h
    · exact h
  dsimp only
  obtain ⟨u, hu⟩ : ∃ u, u = (s.notes (.handshakePayload data)).applyAuthResult decision := ⟨_, rfl⟩
  rw [← hu] at hunbooked ⊢
  unfold executePlan
  split
  · exact udpSent (s := { u with
      outWriteBuf := (buildExecutionPlan decision).initialOutboundPayload
      status := .udpForward
      udpDataBuf := (buildExecutionPlan decision).initialOutboundPayload }) hunbooked
  · exact connectOutbound (s := { u with
      outWriteBuf := (buildExecutionPlan decision).initialOutboundPayload }) hunbooked _ _ granted
  · exact Alike.destroy (s := { u with
      outWriteBuf := (buildExecutionPlan decision).initialOutboundPayload }) hunbooked

theorem inRecv (h : s.authPassword = []) (length : ℕ) (granted : Bool)
    (hrefused : s.status = .handshake →
      Refuses env ((growAfterRead s.inReadBuf length).take length)
        ∧ Refuses (env.withAccounts password auth)
          ((growAfterRead s.inReadBuf length).take length)) :
    Alike (s.inRecv (env.withAccounts password auth) length granted)
      (s.inRecv env length granted) := by
  unfold ServerSession.inRecv
  dsimp only
  split
  · rename_i hstatus
    obtain ⟨hno, hno'⟩ := hrefused hstatus
    exact handleHandshakePayload (s := s.growInReadBuf length) h granted hno hno'
  · exact ⟨rfl, h⟩
  · exact udpSent (s := { s.growInReadBuf length with
      udpDataBuf := s.udpDataBuf ++ (growAfterRead s.inReadBuf length).take length }) h
  · exact ⟨rfl, h⟩

theorem trustedFrontRecv (h : s.authPassword = []) (length : ℕ) (granted : Bool)
    (hrefused : (TrustedFrontIngressParser.parse env.readJson
        (s.trustedFrontBootstrapBuffer ++ s.inReadBuf.take length)).isParsed = true →
      Refuses env (TrustedFrontIngressParser.parse env.readJson
          (s.trustedFrontBootstrapBuffer ++ s.inReadBuf.take length)).downstreamPayload
        ∧ Refuses (env.withAccounts password auth) (TrustedFrontIngressParser.parse env.readJson
          (s.trustedFrontBootstrapBuffer ++ s.inReadBuf.take length)).downstreamPayload) :
    Alike (s.trustedFrontRecv (env.withAccounts password auth) length granted)
      (s.trustedFrontRecv env length granted) := by
  obtain ⟨result, hresult⟩ : ∃ result, result = TrustedFrontIngressParser.parse env.readJson
      (s.trustedFrontBootstrapBuffer ++ s.inReadBuf.take length) := ⟨_, rfl⟩
  rw [← hresult] at hrefused
  unfold ServerSession.trustedFrontRecv
  dsimp only
  have hresult' : TrustedFrontIngressParser.parse (env.withAccounts password auth).readJson
      (s.trustedFrontBootstrapBuffer ++ s.inReadBuf.take length) = result := hresult.symm
  rw [hresult', ← hresult]
  split
  · rename_i hparsed
    obtain ⟨hno, hno'⟩ := hrefused hparsed
    exact handleHandshakePayload (s := { s with
      trustedFrontBootstrapBuffer := []
      externalFrontHandoff := result.handoff }) h granted hno hno'
  · split
    · exact ⟨rfl, h⟩
    · exact Alike.destroy (s := { s with
        trustedFrontBootstrapBuffer := s.trustedFrontBootstrapBuffer ++ s.inReadBuf.take length }) h

end Alike

/-- **The payload that an event brings to the gate.** -/
def payloadOf (env : Env) (s : ServerSession) : Event → List Bytes
  | .inRead (some data) _ => if s.status = .handshake then [data] else []
  | .trustedFrontRead (some data) _ =>
    if (TrustedFrontIngressParser.parse env.readJson
        (s.trustedFrontBootstrapBuffer ++ data)).isParsed then
      [(TrustedFrontIngressParser.parse env.readJson
        (s.trustedFrontBootstrapBuffer ++ data)).downstreamPayload]
    else []
  | _ => []

/-- **A handler goes the same way with either accounts**, unless the gate takes a payload
that it is brought. -/
theorem alike_handle (h : s.authPassword = []) {e : Event}
    (hrefused : ∀ data ∈ payloadOf env s e,
      Refuses env data ∧ Refuses (env.withAccounts password auth) data) :
    Alike (s.handle (env.withAccounts password auth) e) (s.handle env e) := by
  have hshut (aborted : Bool) : (s.sslShutdownCb aborted).authPassword = [] := by
    unfold sslShutdownCb
    split <;> exact h
  cases e with
  | start remoteEndpoint =>
    cases remoteEndpoint with
    | none => exact Alike.destroy (s := { s with inEndpoint := {} }) h
    | some endpoint => exact @Alike.start env password auth s h endpoint
  | tlsHandshake error => exact Alike.tlsHandshaken h error
  | plainHttpWrite => exact Alike.destroy h
  | trustedFrontRead data granted =>
    cases data with
    | none => exact Alike.destroy h
    | some data =>
      have htake : (fillBuffer s.inReadBuf data).take data.length = data := List.take_left
      refine Alike.trustedFrontRecv (s := { s with inReadBuf := fillBuffer s.inReadBuf data }) h
        data.length granted (fun hparsed => ?_)
      dsimp only at hparsed ⊢
      rw [htake] at hparsed ⊢
      exact hrefused _ (by rw [payloadOf, if_pos hparsed]; exact List.mem_singleton_self _)
  | inRead data granted =>
    cases data with
    | none => exact Alike.destroy h
    | some data =>
      have htake : (growAfterRead (fillBuffer s.inReadBuf data) data.length).take data.length
          = data := take_growAfterRead s.inReadBuf data
      refine Alike.inRecv (s := { s with inReadBuf := fillBuffer s.inReadBuf data }) h
        data.length granted (fun hstatus => ?_)
      dsimp only at hstatus ⊢
      rw [htake]
      exact hrefused _ (by rw [payloadOf, if_pos hstatus]; exact List.mem_singleton_self _)
  | inWrite data error =>
    cases error with
    | true => exact Alike.destroy h
    | false =>
      refine ⟨rfl, ?_⟩
      show s.inSent.authPassword = []
      unfold inSent
      split <;> exact h
  | outRead data =>
    cases data with
    | none => exact Alike.destroy h
    | some data =>
      refine ⟨rfl, ?_⟩
      show (outRecv _ data.length).authPassword = []
      unfold outRecv
      dsimp only
      split <;> exact h
  | outWrite data account error =>
    have hsent {t : ServerSession} (ht : t.authPassword = []) : t.outSent.authPassword = [] := by
      unfold outSent
      split <;> exact ht
    cases error with
    | true => exact Alike.destroy h
    | false =>
      cases account with
      | true => exact ⟨rfl, hsent (t := { s with sentLen := s.sentLen + data.length }) h⟩
      | false => exact ⟨rfl, hsent h⟩
  | tcpResolve target results openError => exact Alike.tcpResolved h target results openError
  | tcpConnect target endpoint error =>
    cases error with
    | true => exact Alike.destroy h
    | false =>
      refine ⟨rfl, ?_⟩
      show (s.tcpConnected env false).authPassword = []
      rw [tcpConnected, if_neg Bool.false_ne_true]
      dsimp only
      split <;> exact h
  | udpResolve request results openError => exact Alike.udpResolved h request results openError
  | udpSend data endpoint accounted error =>
    cases error with
    | true => exact Alike.destroy h
    | false =>
      show Alike (if accounted > 0 then ServerSession.udpSent _ _ else ServerSession.udpSent _ _)
        (if accounted > 0 then ServerSession.udpSent _ _ else ServerSession.udpSent _ _)
      split
      · exact Alike.udpSent (s := { s with sentLen := s.sentLen + accounted }) h
      · exact Alike.udpSent h
  | udpReceive received =>
    cases received with
    | none => exact Alike.destroy h
    | some received =>
      refine ⟨rfl, ?_⟩
      show (udpRecv _ received.1.length received.2).authPassword = []
      unfold udpRecv
      dsimp only
      split <;> exact h
  | tlsShutdown aborted => exact ⟨rfl, hshut aborted⟩
  | shutdownTimer aborted => exact ⟨rfl, hshut aborted⟩

/-- A payload that is brought to the gate is noted there. -/
theorem mem_handshakePayloads_of_payloadOf {e : Event} {data : Bytes}
    (h : data ∈ payloadOf env s e) : data ∈ (s.handle env e).handshakePayloads := by
  have hnoted (u : ServerSession) (granted : Bool) :
      data ∈ (u.handleHandshakePayload env data granted).handshakePayloads := by
    have hfollows := Follows.notesPayload env u data granted
    obtain ⟨new, hnew, -⟩ := hfollows.marks
    rw [handshakePayloads, hnew, collect_append]
    exact List.mem_append_left _ (List.mem_append_right _ (List.mem_singleton_self data))
  cases e with
  | inRead received granted =>
    cases received with
    | none => exact absurd h List.not_mem_nil
    | some received =>
      by_cases hstatus : s.status = .handshake
      · rw [payloadOf, if_pos hstatus] at h
        obtain rfl := List.mem_singleton.mp h
        show data ∈ (ServerSession.inRecv env { s with inReadBuf := fillBuffer s.inReadBuf data }
          data.length granted).handshakePayloads
        rw [inRecv_of_handshake (s := { s with inReadBuf := fillBuffer s.inReadBuf data }) env
          hstatus (take_growAfterRead s.inReadBuf data)]
        exact hnoted _ granted
      · rw [payloadOf, if_neg hstatus] at h
        exact absurd h List.not_mem_nil
  | trustedFrontRead received granted =>
    cases received with
    | none => exact absurd h List.not_mem_nil
    | some received =>
      by_cases hparsed : (TrustedFrontIngressParser.parse env.readJson
          (s.trustedFrontBootstrapBuffer ++ received)).isParsed = true
      · rw [payloadOf, if_pos hparsed] at h
        obtain rfl := List.mem_singleton.mp h
        have htake : (fillBuffer s.inReadBuf received).take received.length = received :=
          List.take_left
        show _ ∈ (ServerSession.trustedFrontRecv env
          { s with inReadBuf := fillBuffer s.inReadBuf received } received.length
            granted).handshakePayloads
        unfold ServerSession.trustedFrontRecv
        dsimp only
        rw [htake, if_pos hparsed]
        exact hnoted _ granted
      · rw [payloadOf, if_neg hparsed] at h
        exact absurd h List.not_mem_nil
  | _ => exact absurd h List.not_mem_nil

/-! ## Runs -/

/-- **One step of a session** is the same with either accounts. -/
theorem step_withAccounts {t : ServerSession} {e : Event} (h : s.authPassword = [])
    (hstep : step env s e = some t)
    (hrefused : ∀ data ∈ t.handshakePayloads,
      Refuses env data ∧ Refuses (env.withAccounts password auth) data) :
    step (env.withAccounts password auth) s e = some t ∧ t.authPassword = [] := by
  unfold step at hstep ⊢
  split at hstep
  · rename_i haccepts
    obtain rfl := Option.some.inj hstep
    have hunbooked : (s.receives e).authPassword = [] := by
      unfold receives
      split <;> exact h
    have halike := @alike_handle env password auth _ hunbooked e (fun data hdata => hrefused data (mem_handshakePayloads_of_payloadOf hdata))
    exact ⟨by rw [if_pos haccepts, halike.same], halike.unbooked⟩
  · exact absurd hstep (by simp)

/-- **A stranger learns nothing of the accounts**: a session whose payload is refused with
either accounts has the same run with both. -/
theorem strangers_run {mode : BootstrapMode} {handoff : Option ExternalFrontHandoff}
    {es : List Event} {t : ServerSession}
    (hrun : Machine.run (step env) (create mode handoff) es = some t)
    (hrefused : ∀ data ∈ t.handshakePayloads,
      Refuses env data ∧ Refuses (env.withAccounts password auth) data) :
    Machine.run (step (env.withAccounts password auth)) (create mode handoff) es = some t := by
  have hgeneral : ∀ (es : List Event) (s : ServerSession), s.authPassword = [] →
      Machine.run (step env) s es = some t →
        Machine.run (step (env.withAccounts password auth)) s es = some t := by
    intro es
    induction es with
    | nil =>
      intro s _ hs
      exact hs
    | cons e es ih =>
      intro s hbooks hs
      obtain ⟨u, hstep, hrest⟩ := Machine.run_cons.mp hs
      obtain ⟨hother, hunbooked⟩ := step_withAccounts hbooks hstep (fun data hdata => by
        refine hrefused data ?_
        exact (collect_prefix_of_suffix (suffix_run hrest)).subset hdata)
      exact Machine.run_cons.mpr ⟨u, hother, ih u hunbooked hrest⟩
  exact hgeneral es _ rfl hrun

end Accounts

/-- A stranger is answered in the same way where any password would do. -/
theorem strangers_run_of_byte :
    ∃ t, Machine.run (step strangerEnv) (create .standardTls none)
        (.start (some {}) :: strangerEvents ++ [.outRead (some [7])]) = some t
      ∧ collect toClient t.history = [7]
      ∧ Machine.run (step (strangerEnv.withAccounts [(List.replicate 56 97, [])]
          (some (fun _ => true)))) (create .standardTls none)
        (.start (some {}) :: strangerEvents ++ [.outRead (some [7])]) = some t := by
  have hrun : (Machine.run (step strangerEnv) (create .standardTls none)
      (.start (some {}) :: strangerEvents ++ [.outRead (some [7])])).any
      (fun t => collect toClient t.history = [7] ∧ t.handshakePayloads = [[0]]) = true := by
    decide +kernel
  obtain ⟨t, ht, hall⟩ := Option.any_eq_true _ _ |>.mp hrun
  obtain ⟨hanswer, hpayload⟩ := of_decide_eq_true hall
  refine ⟨t, ht, hanswer, strangers_run ht (fun data hdata => ?_)⟩
  rw [hpayload] at hdata
  obtain rfl := List.mem_singleton.mp hdata
  exact ⟨by decide +kernel, by decide +kernel⟩

/-! ## The fallback server -/

/-- **A stranger meets the fallback server.** A session that refuses its payload asks for no
other target, and takes nothing for a datagram. It writes there what it reads, from the
first byte on – all of it, if it relays – and the stranger is sent what is read there. -/
theorem strangers_meet_fallback {env : Env} {handoff : Option ExternalFrontHandoff}
    {es : List Event} {t : ServerSession}
    (hrun : Machine.run (step env) (create .standardTls handoff) es = some t) {data : Bytes}
    (hdata : t.handshakePayloads = [data]) (hrefused : Refuses env data) :
    (∀ target, .began (.tcpResolve target) ∈ t.history →
      target.host = env.config.remoteAddr ∧ target.isFallback = true
        ∧ collect toTarget t.history <+: collect fromWire t.history
        ∧ (t.status = .forward → collect toTarget t.history = collect fromWire t.history))
      ∧ collect requested t.history = []
      ∧ collect dispatched t.history = []
      ∧ collect toClient t.history = collect fromTargets t.history := by
  have heval (context : SessionContext) :=
    @SessionGate.evaluate_of_not_authenticated env.config env.auth ⟨context, data⟩ hrefused
  have hnot : NotForUdp env data := by
    intro context
    rw [heval]
    exact RelayMode.noConfusion
  rcases datagrams_run hrun with hcreate | ⟨hord, hstreams, hdispatches, -⟩
  · rw [hcreate] at hdata
    exact absurd hdata.symm (List.cons_ne_nil _ _)
  · have hrequested : collect requested t.history = [] := by
      obtain ⟨first, fs, hrequested, htaken, -, hbegins⟩ := hdispatches.taken
      obtain ⟨context, hfirst⟩ := hbegins data hdata
      rw [if_neg (hnot context)] at hfirst
      rw [hfirst, (hdispatches.other data hdata hnot).2] at htaken
      obtain rfl : fs = [] := eq_nil_of_stream []
        (by rw [(List.append_eq_nil_iff.mp htaken.symm).1]; rfl)
      exact hrequested
    refine ⟨fun target hdial => ?_, hrequested, ?_, ?_⟩
    · obtain ⟨data', hdata', context, -, rfl⟩ := hstreams.named target hdial
      obtain rfl := List.singleton_inj.mp (hdata'.symm.trans hdata)
      refine ⟨?_, ?_, ?_⟩
      · rw [heval]
        rfl
      · rw [heval]
        rfl
      · have hkept := kept_append_toTarget hord hstreams hdata ⟨_, hdial⟩
          (List.nil_append data').symm (fun context => by rw [heval]; rfl)
        exact hkept
    · have hanswered : collect answered t.history = [] := by
        have hprefix := hdispatches.inOrder
        rw [hrequested] at hprefix
        exact List.map_eq_nil_iff.mp (List.prefix_nil.mp hprefix)
      rcases hdispatches.sent with hsent | ⟨-, -, hsent⟩
      · rw [hanswered] at hsent
        exact List.map_eq_nil_iff.mp hsent
      · rw [hanswered] at hsent
        exact List.map_eq_nil_iff.mp (List.prefix_nil.mp hsent)
    · rw [hord.ledger.downward, List.append_nil]

/-- The byte of the stranger has gone to the fallback server. -/
theorem strangers_meet_fallback_of_byte :
    ∃ t, Machine.run (step strangerEnv) (create .standardTls none)
        (.start (some {}) :: strangerEvents ++ [.outRead (some [7])]) = some t
      ∧ collect toTarget t.history = [0]
      ∧ collect toClient t.history = collect fromTargets t.history := by
  have hrun : (Machine.run (step strangerEnv) (create .standardTls none)
      (.start (some {}) :: strangerEvents ++ [.outRead (some [7])])).any
      (fun t => collect toTarget t.history = [0] ∧ t.handshakePayloads = [[0]]) = true := by
    decide +kernel
  obtain ⟨t, ht, hall⟩ := Option.any_eq_true _ _ |>.mp hrun
  obtain ⟨htarget, hdata⟩ := of_decide_eq_true hall
  obtain ⟨-, -, -, hclient⟩ := strangers_meet_fallback ht hdata (by decide +kernel)
  exact ⟨t, ht, htarget, hclient⟩

end ServerSession
