import Trojan.AbuseController
import Trojan.FallbackController
import Trojan.ServerSession

/-!
# The service: accepting and serving sessions

`Service` (`core/service.cpp`) accepts connections and gives each one a session.
On the public listener a connection must be admitted first, which takes a slot
of its IP; the listener of the trusted front has a policy of its own and takes
no slot. A session calls back into the service when authentication succeeds or
fails, and when it gives back what it was given.

Acquisition and release are far apart: the service takes the slot before
`start()`, `start()` sets the flag that permits the release, and `destroy()`
releases. `Service.step` puts the pieces together: an accept completion, with
the `start()` of the session that it may admit, an authentication failure of
one of the sessions, and a `destroy()`. The sessions are those of
`ServerSession`, and what they ask of the service is read off their histories.
-/

/-- `Service::AcceptDecision`. -/
inductive AcceptDecision where
  | startSession
  | rejectCooldown
  | rejectConnectionLimit
  deriving DecidableEq, Repr

/-- The listeners of a server: the public one, and the one of the trusted
front, whose connections are accepted with `bypass_public_admission`. -/
inductive Listener where
  | standard
  | trustedFront
  deriving DecidableEq, Repr

/-- `TrustedFrontAdmissionStatus`. -/
inductive TrustedFrontAdmissionStatus where
  | allowedLoopbackSource
  | allowedUnrestrictedSource
  | rejectedNonLoopbackSource
  deriving DecidableEq, Repr

namespace TrustedFrontAdmissionPolicy

/-- `TrustedFrontAdmissionPolicy::evaluate`. -/
def evaluate (config : Config) (endpoint : TcpEndpoint) : TrustedFrontAdmissionStatus :=
  if !config.externalFront.requireTrustedFrontLoopbackSource then .allowedUnrestrictedSource
  else if endpoint.isLoopback then .allowedLoopbackSource
  else .rejectedNonLoopbackSource

/-- `TrustedFrontAdmissionDecision::allowed`. -/
def allowed : TrustedFrontAdmissionStatus → Bool
  | .allowedLoopbackSource | .allowedUnrestrictedSource => true
  | .rejectedNonLoopbackSource => false

end TrustedFrontAdmissionPolicy

/-- The completion of an accept. If a connection is there, its peer is what
`remote_endpoint` says, unless that reports an error, and `startFails` is
whether the second `remote_endpoint`, that of `ServerSession::start`, does. -/
inductive AcceptCompletion where
  | aborted
  | failed
  | accepted (remoteEndpoint : Option TcpEndpoint) (startFails : Bool)
  deriving DecidableEq

/-- A connection the service has decided about, with its session. -/
structure Connection where
  endpoint : TcpEndpoint
  decision : AcceptDecision
  session : ServerSession

/-- **The state of a service**: its controllers, and for each listener the
connections it has decided about, in the order in which they came. -/
structure Service where
  abuseController : AbuseController := {}
  runtimeMetrics : RuntimeMetrics := {}
  connections : Listener → List Connection := fun _ => []

namespace Service

open ServerSession

/-- The trusted front has a listener. -/
def hasTrustedFrontListener (config : Config) : Bool :=
  config.runType = .server && config.externalFront.enabled
    && config.externalFront.enableTrustedFrontListener

variable (config : Config) (now : ℤ)

/-- **`Service::evaluate_incoming_connection`**. -/
def evaluateIncomingConnection (a : AbuseController) (endpoint : TcpEndpoint) :
    AcceptDecision × AbuseController :=
  if config.runType ≠ .server then (.startSession, a)
  else if a.isIpInCooldown config.abuseControl now endpoint then (.rejectCooldown, a)
  else match a.tryAcquireConnectionSlot config.abuseControl endpoint with
  | (false, a) => (.rejectConnectionLimit, a)
  | (true, a) => (.startSession, a)

/-- `Service::release_connection_slot`. -/
def releaseConnectionSlot (svc : Service) (endpoint : TcpEndpoint) : Service :=
  { svc with
      abuseController := svc.abuseController.releaseConnectionSlot config.abuseControl now endpoint
      runtimeMetrics :=
        { svc.runtimeMetrics with
            activeSessions :=
              if svc.runtimeMetrics.activeSessions > 0 then svc.runtimeMetrics.activeSessions - 1
              else svc.runtimeMetrics.activeSessions } }

/-- `Service::record_auth_success`. -/
def recordAuthSuccess (svc : Service) : Service :=
  { svc with
      runtimeMetrics :=
        { svc.runtimeMetrics with
            authSuccessTotal := svc.runtimeMetrics.authSuccessTotal + 1 } }

/-- `Service::record_auth_failure`. -/
def recordAuthFailure (svc : Service) (endpoint : TcpEndpoint) : Service :=
  { svc with
      abuseController := svc.abuseController.recordAuthFailure config.abuseControl now endpoint
      runtimeMetrics :=
        { svc.runtimeMetrics with
            authFailureTotal := svc.runtimeMetrics.authFailureTotal + 1 } }

/-- What a session has noted, at the service. -/
def call (svc : Service) : Flight.Mark Operation Buffer Note → Service
  | .noted (.releasedConnectionSlot endpoint) => svc.releaseConnectionSlot config now endpoint
  | .noted .authSuccess => svc.recordAuthSuccess
  | .noted (.authFailure endpoint) => svc.recordAuthFailure config now endpoint
  | .noted .releasedFallbackSlot =>
    { svc with runtimeMetrics := FallbackController.releaseSlot svc.runtimeMetrics }
  | .noted (.fallbackSlot _) =>
    { svc with
        runtimeMetrics :=
          (FallbackController.tryAcquireSlot config.abuseControl svc.runtimeMetrics).2 }
  | _ => svc

/-- **The service, after a session went on** from `s` to `t`: it has had the
calls that are new in the session's history, the oldest first. -/
def serve (svc : Service) (s t : ServerSession) : Service :=
  (t.history.take (t.history.length - s.history.length)).reverse.foldl (call config now) svc

/-- `Service::create_server_session`, with the handoff that it may apply, and
`Service::create_trusted_front_server_session`. -/
def createSession (listener : Listener) (handoff : Option ExternalFrontHandoff) : ServerSession :=
  match listener with
  | .standard => create .standardTls handoff
  | .trustedFront =>
    create
      (if config.externalFront.trustedFrontListenerUseMtls then .trustedFrontIngressMtls
      else .trustedFrontIngress) none

/-- Keep a connection. -/
def keep (svc : Service) (listener : Listener) (c : Connection) : Service :=
  { svc with
      connections :=
        Function.update svc.connections listener (svc.connections listener ++ [c]) }

/-- What `handle_accept_completion` does with a connection, once it is decided
about. -/
def settle (env : Env) (svc : Service) (listener : Listener) (session : ServerSession)
    (endpoint : TcpEndpoint) (startFails : Bool) (decision : AcceptDecision) : Service :=
  match decision with
  | .startSession =>
    let started := session.start env (if startFails then none else some endpoint)
    let svc :=
      { svc with
          runtimeMetrics :=
            { svc.runtimeMetrics with
                acceptedConnectionsTotal := svc.runtimeMetrics.acceptedConnectionsTotal + 1
                activeSessions :=
                  if config.runType = RunType.server then svc.runtimeMetrics.activeSessions + 1
                  else svc.runtimeMetrics.activeSessions } }
    (svc.serve config now session started).keep listener ⟨endpoint, decision, started⟩
  | _ =>
    { svc with
        runtimeMetrics :=
          { svc.runtimeMetrics with
              rejectedConnectionsTotal := svc.runtimeMetrics.rejectedConnectionsTotal + 1 }
      }.keep listener ⟨endpoint, decision, session⟩

/-- **`Service::handle_accept_completion`**, with whether to accept again. -/
def handleAcceptCompletion (env : Env) (svc : Service) (listener : Listener)
    (session : ServerSession) : AcceptCompletion → Service × Bool
  | .aborted => (svc, false)
  | .failed => (svc, true)
  | .accepted none _ => (svc, true)
  | .accepted (some endpoint) startFails =>
    match listener with
    | .trustedFront =>
      if !TrustedFrontAdmissionPolicy.allowed
          (TrustedFrontAdmissionPolicy.evaluate config endpoint) then
        ({ svc with
            runtimeMetrics :=
              { svc.runtimeMetrics with
                  rejectedConnectionsTotal :=
                    svc.runtimeMetrics.rejectedConnectionsTotal + 1 } }, true)
      else (svc.settle config now env .trustedFront session endpoint startFails .startSession, true)
    | .standard =>
      let (decision, a) := evaluateIncomingConnection config now svc.abuseController endpoint
      ({ svc with abuseController := a }.settle config now env .standard session endpoint
        startFails decision, true)

/-- **What can happen to a service.** The connection that an event concerns is
given by its listener and its place. -/
inductive Event where
  | accept (listener : Listener) (now : ℤ) (handoff : Option ExternalFrontHandoff)
      (completion : AcceptCompletion)
  | authFailure (listener : Listener) (i : ℕ) (now : ℤ)
  | destroy (listener : Listener) (i : ℕ) (now : ℤ)

/-- The listener an event concerns. -/
def Event.listener : Event → Listener
  | accept listener _ _ _ => listener
  | authFailure listener _ _ => listener
  | destroy listener _ _ => listener

/-- The service, with one of its sessions gone on to `t`. -/
def goesOn (svc : Service) (listener : Listener) (i : ℕ) (c : Connection) (t : ServerSession) :
    Service :=
  { svc.serve config now c.session t with
      connections :=
        Function.update svc.connections listener
          ((svc.connections listener).set i { c with session := t }) }

/-- **One step of a service.** Only a session that was started, and only in its
handshake, can fail to authenticate; `destroy()` can be called again and
again. -/
def step (env : Listener → ℕ → Env) (svc : Service) : Event → Option Service
  | .accept listener now handoff completion =>
    if listener = .trustedFront ∧ hasTrustedFrontListener config = false then none
    else some (svc.handleAcceptCompletion config now
      (env listener (svc.connections listener).length) listener
      (createSession config listener handoff) completion).1
  | .authFailure listener i now => do
    let c ← (svc.connections listener)[i]?
    if c.decision = .startSession ∧ c.session.status = .handshake then
      some (svc.goesOn config now listener i c
        (c.session.notes (.authFailure c.session.inEndpoint)))
    else none
  | .destroy listener i now => do
    let c ← (svc.connections listener)[i]?
    if c.decision = .startSession then
      some (svc.goesOn config now listener i c (c.session.destroy (env listener i)))
    else none

/-! ## What a session's steps do to the service -/

section Serve

variable {config now} {svc : Service} {s t : ServerSession}

/-- The new marks of a session are those before its old history. -/
theorem serve_of_append (new : History) (h : t.history = new ++ s.history) :
    svc.serve config now s t = new.reverse.foldl (call config now) svc := by
  rw [serve, h, List.length_append, Nat.add_sub_cancel, List.take_left]

/-- Calls do not touch the connections. -/
theorem connections_serve : (svc.serve config now s t).connections = svc.connections := by
  unfold serve
  generalize (t.history.take (t.history.length - s.history.length)).reverse = marks
  induction marks generalizing svc with
  | nil => rfl
  | cons m marks ih =>
    rw [List.foldl_cons, ih]
    unfold call
    split <;> rfl

/-- **A failed authentication, at the service.** -/
theorem serve_authFailure (endpoint : TcpEndpoint) :
    svc.serve config now s (s.notes (.authFailure endpoint))
      = svc.recordAuthFailure config now endpoint :=
  serve_of_append [.noted (.authFailure endpoint)] rfl

/-- The fallback slots are no business of the abuse controller, and of the
metrics they have their own. -/
theorem foldl_call_farewell (config : Config) (now : ℤ) (svc : Service) (env : Env)
    (s : ServerSession) :
    ((s.farewell env).reverse.foldl (call config now) svc).abuseController
        = (if s.connectionSlotAcquired then svc.releaseConnectionSlot config now s.inEndpoint
          else svc).abuseController
      ∧ ((s.farewell env).reverse.foldl (call config now) svc).runtimeMetrics.activeSessions
        = (if s.connectionSlotAcquired then svc.releaseConnectionSlot config now s.inEndpoint
          else svc).runtimeMetrics.activeSessions := by
  have hrelease (m : RuntimeMetrics) :
      (FallbackController.releaseSlot m).activeSessions = m.activeSessions := by
    unfold FallbackController.releaseSlot
    split <;> rfl
  unfold farewell farewellOperations farewellNotes usageNotes releaseNotes
  split <;> split <;> split <;> split <;> simp [call, hrelease]

/-- **A destruction, at the service**: a session that holds a connection slot
gives it back, under the endpoint that it has. -/
theorem serve_destroy (config : Config) (now : ℤ) (svc : Service) (env : Env)
    (s : ServerSession) :
    (svc.serve config now s (s.destroy env)).abuseController
        = (if s.status ≠ .destroy ∧ s.connectionSlotAcquired then
          svc.releaseConnectionSlot config now s.inEndpoint else svc).abuseController
      ∧ (svc.serve config now s (s.destroy env)).runtimeMetrics.activeSessions
        = (if s.status ≠ .destroy ∧ s.connectionSlotAcquired then
          svc.releaseConnectionSlot config now s.inEndpoint
          else svc).runtimeMetrics.activeSessions := by
  by_cases hd : s.status = .destroy
  · rw [destroy_of_destroy env s hd, serve_of_append [] rfl,
      if_neg (fun hc => hc.1 hd)]
    exact ⟨rfl, rfl⟩
  · rw [serve_of_append (s.farewell env) (by rw [destroy_eq env s hd])]
    have hfarewell := foldl_call_farewell config now svc env s
    cases hflag : s.connectionSlotAcquired with
    | true =>
      rw [hflag] at hfarewell
      rw [if_pos ⟨hd, rfl⟩]
      exact hfarewell
    | false =>
      rw [hflag] at hfarewell
      rw [if_neg (by simp)]
      exact hfarewell

/-- The public listener always accepts. -/
theorem step_accept_standard (config : Config) (env : Listener → ℕ → Env) (svc : Service)
    (now : ℤ) (handoff : Option ExternalFrontHandoff) (completion : AcceptCompletion) :
    step config env svc (.accept .standard now handoff completion)
      = some (svc.handleAcceptCompletion config now
        (env .standard (svc.connections .standard).length) .standard
        (create .standardTls handoff) completion).1 := by
  rw [step, if_neg (by simp)]
  rfl

theorem goesOn_connections (config : Config) (now : ℤ) (svc : Service) (listener : Listener)
    (i : ℕ) (c : Connection) (t : ServerSession) :
    (svc.goesOn config now listener i c t).connections listener
      = (svc.connections listener).set i { c with session := t } :=
  Function.update_self _ _ _

theorem goesOn_connections_of_ne (config : Config) (now : ℤ) (svc : Service)
    {listener other : Listener} (h : other ≠ listener) (i : ℕ) (c : Connection)
    (t : ServerSession) :
    (svc.goesOn config now listener i c t).connections other = svc.connections other :=
  Function.update_of_ne h _ _

theorem abuseController_goesOn (config : Config) (now : ℤ) (svc : Service) (listener : Listener)
    (i : ℕ) (c : Connection) (t : ServerSession) :
    (svc.goesOn config now listener i c t).abuseController
      = (svc.serve config now c.session t).abuseController := rfl

/-- **A start, at the service**: a session that has just been created has no
slot to give back, also when its start fails. -/
theorem serve_start (env : Env) (mode : BootstrapMode) (handoff : Option ExternalFrontHandoff)
    (remoteEndpoint : Option TcpEndpoint) :
    (svc.serve config now (create mode handoff)
        ((create mode handoff).start env remoteEndpoint)).abuseController = svc.abuseController
      ∧ (svc.serve config now (create mode handoff)
        ((create mode handoff).start env remoteEndpoint)).runtimeMetrics.activeSessions
        = svc.runtimeMetrics.activeSessions := by
  cases remoteEndpoint with
  | none =>
    have hfarewell := foldl_call_farewell config now svc env
      { create mode handoff with inEndpoint := {} }
    rw [if_neg (by simp [create])] at hfarewell
    rw [serve_of_append (farewell env { create mode handoff with inEndpoint := {} })]
    · exact hfarewell
    · exact congrArg ServerSession.history (destroy_eq env _ (by simp [create]))
  | some endpoint =>
    have hbegins : ∃ op, ((create mode handoff).start env (some endpoint)).history
        = [.began op] ++ (create mode handoff).history := by
      unfold ServerSession.start
      dsimp only
      split
      · exact ⟨_, rfl⟩
      · exact ⟨_, rfl⟩
    obtain ⟨op, hop⟩ := hbegins
    rw [serve_of_append _ hop]
    exact ⟨rfl, rfl⟩

/-- A connection that is admitted is kept with its started session, and counted
as a session. -/
theorem settle_startSession (hserver : config.runType = .server) (now : ℤ) (svc : Service)
    (env : Env) (listener : Listener) (mode : BootstrapMode) (handoff : Option ExternalFrontHandoff)
    (endpoint : TcpEndpoint) (startFails : Bool) :
    (svc.settle config now env listener (create mode handoff) endpoint startFails
        .startSession).abuseController = svc.abuseController
      ∧ (svc.settle config now env listener (create mode handoff) endpoint startFails
        .startSession).runtimeMetrics.activeSessions = svc.runtimeMetrics.activeSessions + 1
      ∧ (svc.settle config now env listener (create mode handoff) endpoint startFails
        .startSession).connections
        = Function.update svc.connections listener (svc.connections listener ++
          [⟨endpoint, .startSession,
            (create mode handoff).start env (if startFails then none else some endpoint)⟩]) := by
  unfold settle keep
  dsimp only
  rw [if_pos hserver]
  refine ⟨(serve_start env mode handoff _).1, (serve_start env mode handoff _).2, ?_⟩
  rw [connections_serve]

/-- A connection that is refused is kept, and nothing else happens. -/
theorem settle_of_ne {decision : AcceptDecision} (h : decision ≠ .startSession)
    (config : Config) (now : ℤ) (svc : Service) (env : Env) (listener : Listener)
    (session : ServerSession) (endpoint : TcpEndpoint) (startFails : Bool) :
    (svc.settle config now env listener session endpoint startFails decision).abuseController
        = svc.abuseController
      ∧ (svc.settle config now env listener session endpoint startFails
        decision).runtimeMetrics.activeSessions = svc.runtimeMetrics.activeSessions
      ∧ (svc.settle config now env listener session endpoint startFails decision).connections
        = Function.update svc.connections listener (svc.connections listener ++
          [⟨endpoint, decision, session⟩]) := by
  cases decision with
  | startSession => exact absurd rfl h
  | rejectCooldown => exact ⟨rfl, rfl, rfl⟩
  | rejectConnectionLimit => exact ⟨rfl, rfl, rfl⟩

/-- **A connection of the public listener** is kept with the decision about it,
and with its session, which was started if it was admitted. -/
theorem connections_accept (hserver : config.runType = .server) (now : ℤ) (svc : Service)
    (env : Env) (handoff : Option ExternalFrontHandoff) (endpoint : TcpEndpoint)
    (startFails : Bool) :
    (svc.handleAcceptCompletion config now env .standard (create .standardTls handoff)
        (.accepted (some endpoint) startFails)).1.connections
      = Function.update svc.connections .standard (svc.connections .standard ++
        [⟨endpoint, (evaluateIncomingConnection config now svc.abuseController endpoint).1,
          if (evaluateIncomingConnection config now svc.abuseController endpoint).1
              = .startSession then
            (create .standardTls handoff).start env
              (if startFails then none else some endpoint)
          else create .standardTls handoff⟩]) := by
  show (settle config now env
    { svc with
      abuseController := (evaluateIncomingConnection config now svc.abuseController endpoint).2 }
    .standard (create .standardTls handoff) endpoint startFails
    (evaluateIncomingConnection config now svc.abuseController endpoint).1).connections = _
  generalize evaluateIncomingConnection config now svc.abuseController endpoint = answer
  obtain ⟨decision, a⟩ := answer
  by_cases hd : decision = .startSession
  · subst hd
    rw [(settle_startSession hserver now { svc with abuseController := a } env .standard
      .standardTls handoff endpoint startFails).2.2, if_pos rfl]
  · rw [(settle_of_ne hd config now { svc with abuseController := a } env .standard
      (create .standardTls handoff) endpoint startFails).2.2, if_neg hd]

/-- What an accept completion does to the table is what the decision did. -/
theorem abuseController_accept (hserver : config.runType = .server) (now : ℤ) (svc : Service)
    (env : Env) (handoff : Option ExternalFrontHandoff) (endpoint : TcpEndpoint)
    (startFails : Bool) :
    (svc.handleAcceptCompletion config now env .standard (create .standardTls handoff)
        (.accepted (some endpoint) startFails)).1.abuseController
      = (evaluateIncomingConnection config now svc.abuseController endpoint).2 := by
  show (settle config now env
    { svc with
      abuseController := (evaluateIncomingConnection config now svc.abuseController endpoint).2 }
    .standard (create .standardTls handoff) endpoint startFails
    (evaluateIncomingConnection config now svc.abuseController endpoint).1).abuseController = _
  generalize evaluateIncomingConnection config now svc.abuseController endpoint = answer
  obtain ⟨decision, a⟩ := answer
  by_cases hd : decision = .startSession
  · subst hd
    rw [(settle_startSession hserver now { svc with abuseController := a } env .standard
      .standardTls handoff endpoint startFails).1]
  · rw [(settle_of_ne hd config now { svc with abuseController := a } env .standard
      (create .standardTls handoff) endpoint startFails).1]

/-- **The trusted front's connections** are not seen by the public listener:
they change neither its connections nor the table. -/
theorem accept_trustedFront (hserver : config.runType = .server) (now : ℤ) (svc : Service)
    (env : Env) (handoff : Option ExternalFrontHandoff) (completion : AcceptCompletion) :
    (svc.handleAcceptCompletion config now env .trustedFront
        (createSession config .trustedFront handoff) completion).1.abuseController
        = svc.abuseController
      ∧ (svc.handleAcceptCompletion config now env .trustedFront
        (createSession config .trustedFront handoff) completion).1.connections .standard
        = svc.connections .standard := by
  rcases completion with _ | _ | ⟨_ | endpoint, startFails⟩
  · exact ⟨rfl, rfl⟩
  · exact ⟨rfl, rfl⟩
  · exact ⟨rfl, rfl⟩
  · unfold handleAcceptCompletion createSession
    dsimp only
    split
    · exact ⟨rfl, rfl⟩
    · obtain ⟨habuse, -, hconnections⟩ := settle_startSession hserver now svc env .trustedFront
        (if config.externalFront.trustedFrontListenerUseMtls then .trustedFrontIngressMtls
        else .trustedFrontIngress) none endpoint startFails
      exact ⟨habuse, by rw [hconnections, Function.update_of_ne (by simp)]⟩

/-- **An admitted connection takes one slot of its IP**, of which there must be
one left; one that is not admitted takes none. -/
theorem active_evaluateIncomingConnection (hserver : config.runType = .server)
    (hlimits : AbuseController.limitsConnections config.abuseControl = true) (now : ℤ)
    (a : AbuseController) (endpoint : TcpEndpoint) (ip : Bytes) :
    (evaluateIncomingConnection config now a endpoint).2.active ip
        = a.active ip + (if endpoint.ip = ip
          ∧ (evaluateIncomingConnection config now a endpoint).1 = .startSession then 1 else 0)
      ∧ ((evaluateIncomingConnection config now a endpoint).1 = .startSession →
        a.active endpoint.ip < config.abuseControl.perIpMaxConnections.toNat) := by
  unfold evaluateIncomingConnection
  rw [if_neg (fun hc => hc hserver)]
  split
  · exact ⟨by simp, fun hc => absurd hc (by simp)⟩
  · obtain ⟨hactive, hroom⟩ :=
      AbuseController.active_tryAcquireConnectionSlot hlimits a endpoint ip
    generalize AbuseController.tryAcquireConnectionSlot config.abuseControl a endpoint = answer
      at hactive hroom ⊢
    obtain ⟨_ | _, a'⟩ := answer
    · refine ⟨?_, fun hc => absurd hc (by simp)⟩
      simpa using hactive
    · refine ⟨?_, fun _ => hroom rfl⟩
      simpa using hactive

end Serve

end Service
