import Trojan.SessionGate

/-!
# Server ingress

Between a session and its gate stands the choice of an ingress: the context
the gate sees is read off the session's own TLS layer, or it is the metadata a
front in front of the server vouches for (`core/server_ingress_selector.cpp`,
`core/external_front_inbound.cpp`, `core/external_front_trust_policy.cpp`).
After the gate stands the relay planner, which turns the decision into what is
connected to whom with which first bytes (`core/relay_executor.cpp`).

The result of this module is that the metadata stays metadata
(`ServerIngressSelector.evaluate_indifferent`): of any two ingress selections,
trusted or not, the decisions differ in the port of the fallback target at
most, and the plan an unauthenticated client gets still carries all it sent.
-/

/-- `ExternalFrontContext`. -/
structure ExternalFrontContext where
  trustedFrontId : Bytes := []
  originalClientIp : Bytes := []
  originalClientPort : UInt16 := 0
  serverName : Bytes := []
  negotiatedAlpn : Bytes := []
  ingressMode : Bytes := []
  tlsTerminatedByFront : Bool := false
  metadataVerified : Bool := false
  deriving DecidableEq

/-! ## Trust policy -/

/-- `ExternalFrontValidationStatus`. -/
inductive ExternalFrontValidationStatus where
  | trusted
  | missingTrustedFrontId
  | missingOriginalClientIdentity
  | missingVerifiedTlsTermination
  deriving DecidableEq, Repr

/-- `external_front_validation_status_name`. -/
def ExternalFrontValidationStatus.name : ExternalFrontValidationStatus → String
  | trusted => "trusted"
  | missingTrustedFrontId => "missing_trusted_front_id"
  | missingOriginalClientIdentity => "missing_original_client_identity"
  | missingVerifiedTlsTermination => "missing_verified_tls_termination"

namespace ExternalFrontTrustPolicy

def requiresVerifiedTlsTermination : Bool := true

def requiresOriginalClientIdentity : Bool := true

def requiresTrustedFrontId : Bool := true

/-- **`ExternalFrontTrustPolicy::validate`**. -/
def validate (context : ExternalFrontContext) : ExternalFrontValidationStatus :=
  if requiresTrustedFrontId && context.trustedFrontId.isEmpty then .missingTrustedFrontId
  else if requiresOriginalClientIdentity && context.originalClientIp.isEmpty then
    .missingOriginalClientIdentity
  else if requiresVerifiedTlsTermination
      && (!context.metadataVerified || !context.tlsTerminatedByFront) then
    .missingVerifiedTlsTermination
  else .trusted

/-- `is_trusted`. -/
def isTrusted (context : ExternalFrontContext) : Bool := validate context = .trusted

end ExternalFrontTrustPolicy

/-! ## The two inbounds -/

/-- The TLS stream of a session, as far as the ingress reads it: the protocol
`SSL_get0_alpn_selected` reports, if any. -/
structure TlsStream where
  alpnSelected : Option Bytes := none

namespace EmbeddedTlsInbound

/-- `EmbeddedTlsEdgeContextBuilder::build_context`. -/
def buildContext (endpoint : TcpEndpoint) (socket : TlsStream) : SessionContext where
  sourceIp := endpoint.ip
  sourcePort := endpoint.port
  tlsHandshakeCompleted := true
  inboundMode := .embeddedTls
  selectedAlpn := socket.alpnSelected.getD []

/-- `EmbeddedTlsInbound::evaluate_initial_data`. -/
def evaluateInitialData (config : Config) (auth : Option Authenticator)
    (endpoint : TcpEndpoint) (socket : TlsStream) (initialData : Bytes) :
    SessionGate.SessionDecision :=
  SessionGate.evaluate config auth ⟨buildContext endpoint socket, initialData⟩

end EmbeddedTlsInbound

namespace ExternalFrontInbound

/-- `ExternalFrontInbound::build_context`. Identity and transport are taken
from the metadata under the same condition, that it is trusted. -/
def buildContext (front : ExternalFrontContext) : SessionContext :=
  let context : SessionContext := { inboundMode := .externalFront }
  let status := ExternalFrontTrustPolicy.validate front
  let context := if status = .trusted then
      { context with
          sourceIp := front.originalClientIp
          sourcePort := front.originalClientPort }
    else context
  if status = .trusted then
    { context with selectedAlpn := front.negotiatedAlpn, tlsHandshakeCompleted := true }
  else context

/-- `ExternalFrontInbound::evaluate_initial_data`. -/
def evaluateInitialData (config : Config) (auth : Option Authenticator)
    (front : ExternalFrontContext) (initialData : Bytes) : SessionGate.SessionDecision :=
  SessionGate.evaluate config auth ⟨buildContext front, initialData⟩

end ExternalFrontInbound

/-! ## The selector -/

namespace ServerIngressSelector

/-- `ServerIngressSelector::ObservationStatus`. -/
inductive ObservationStatus where
  | embeddedTlsDefault
  | externalFrontDisabled
  | externalFrontTrusted
  | externalFrontRejected
  deriving DecidableEq, Repr

/-- `ServerIngressSelector::Observation`. -/
structure Observation where
  status : ObservationStatus := .embeddedTlsDefault
  reason : String
  deriving DecidableEq

/-- `ServerIngressSelector::Selection`. -/
structure Selection where
  mode : InboundMode := .embeddedTls
  externalFrontContext : Option ExternalFrontContext := none
  deriving DecidableEq

variable (config : Config) (auth : Option Authenticator)

/-- `ServerIngressSelector::observe_external_front`. -/
def observeExternalFront (front : ExternalFrontContext) : Observation :=
  if !config.externalFront.enabled then ⟨.externalFrontDisabled, "external_front_disabled"⟩
  else
    let status := ExternalFrontTrustPolicy.validate front
    if status ≠ .trusted then ⟨.externalFrontRejected, status.name⟩
    else ⟨.externalFrontTrusted, status.name⟩

/-- `ServerIngressSelector::select_default`. -/
def selectDefault : Selection := {}

/-- `ServerIngressSelector::select_external_front`. -/
def selectExternalFront (front : ExternalFrontContext) : Selection :=
  if (observeExternalFront config front).status ≠ .externalFrontTrusted then selectDefault
  else { mode := .externalFront, externalFrontContext := some front }

/-- **`ServerIngressSelector::evaluate`**. A selection of the external front
without a context is the `logic_error` of the source. -/
def evaluate (selection : Selection) (endpoint : TcpEndpoint) (socket : TlsStream)
    (initialData : Bytes) : Except String SessionGate.SessionDecision :=
  if selection.mode = .externalFront then
    match selection.externalFrontContext with
    | none => .error "external front selection requires external front context"
    | some front =>
      .ok (ExternalFrontInbound.evaluateInitialData config auth front initialData)
  else .ok (EmbeddedTlsInbound.evaluateInitialData config auth endpoint socket initialData)

/-- What a session can ask the selector for: the default ingress, or the
external front with the metadata it holds. -/
inductive Ingress where
  | default
  | externalFront (front : ExternalFrontContext)

/-- The selection made for an ingress. -/
def Ingress.select : Ingress → Selection
  | default => selectDefault
  | externalFront front => selectExternalFront config front

/-- Metadata that is not trusted, or a front that is not enabled, selects the
default. -/
theorem selectExternalFront_eq_default {front : ExternalFrontContext}
    (h : config.externalFront.enabled = false
      ∨ ExternalFrontTrustPolicy.isTrusted front = false) :
    selectExternalFront config front = selectDefault := by
  unfold selectExternalFront observeExternalFront
  rcases h with h | h
  · simp [h]
  · have hs : ExternalFrontTrustPolicy.validate front ≠ .trusted := of_decide_eq_false h
    by_cases he : config.externalFront.enabled = true
    · simp [he, hs]
    · simp [he]

/-- **A selection is a gate call.** Whatever the ingress, the gate is asked
about the same bytes, under some context. -/
theorem exists_context_of_select (ingress : Ingress) (endpoint : TcpEndpoint)
    (socket : TlsStream) (initialData : Bytes) :
    ∃ context, evaluate config auth (ingress.select config) endpoint socket initialData
      = .ok (SessionGate.evaluate config auth ⟨context, initialData⟩) := by
  cases ingress with
  | default => exact ⟨_, rfl⟩
  | externalFront front =>
    by_cases ht : (observeExternalFront config front).status ≠ .externalFrontTrusted
    · exact ⟨_, by rw [Ingress.select, selectExternalFront, if_pos ht]; rfl⟩
    · exact ⟨_, by rw [Ingress.select, selectExternalFront, if_neg ht]; rfl⟩

end ServerIngressSelector

/-! ## The relay plan -/

/-- `RelayMode`. -/
inductive RelayMode where
  | startTcpForward
  | startUdpForward
  | rejectAndClose
  deriving DecidableEq, Repr

/-- `RelayExecutionPlan`. -/
structure RelayExecutionPlan where
  mode : RelayMode := .rejectAndClose
  target : ConnectTarget := {}
  initialOutboundPayload : Bytes := []
  logMessage : Bytes := []
  logAsWarning : Bool := false
  requiresFallbackSlot : Bool := false
  deriving DecidableEq

/-- **`RelayExecutor::build_execution_plan`**. -/
def buildExecutionPlan (decision : SessionGate.SessionDecision) : RelayExecutionPlan :=
  let plan : RelayExecutionPlan :=
    { target := decision.target, initialOutboundPayload := decision.outboundPayload }
  let requested := decision.request.address.address ++ 58
    :: decimal decision.request.address.port.toNat
  match decision.path with
  | .authenticatedUdp =>
    { plan with
        mode := .startUdpForward
        logMessage := ascii "requested UDP associate to " ++ requested
        logAsWarning := false }
  | .authenticatedTcp =>
    { plan with
        mode := .startTcpForward
        logMessage := ascii "requested connection to " ++ requested
        logAsWarning := false }
  | .fallback =>
    { plan with
        mode := .startTcpForward
        logMessage := ascii "not trojan request, connecting to " ++ decision.target.host
          ++ 58 :: decimal decision.target.port.toNat
        logAsWarning := true
        requiresFallbackSlot := true }

namespace SessionGate

/-- **Two decisions agree** on who is authenticated and on what is relayed:
the port of the target may differ on the fallback path, and nothing else
may. -/
structure SessionDecision.Agree (d e : SessionDecision) : Prop where
  valid : d.validTrojanRequest = e.validTrojanRequest
  authenticated : d.authenticated = e.authenticated
  path : d.path = e.path
  request : d.request = e.request
  payload : d.outboundPayload = e.outboundPayload
  host : d.target.host = e.target.host
  port : d.path ≠ .fallback → d.target.port = e.target.port

variable (config : Config) (auth : Option Authenticator)

/-- Every decision agrees with the verdict on its bytes. -/
theorem evaluate_agree_verdict (input : SessionGateInput) :
    (evaluate config auth input).Agree (verdict config auth input.initialData) := by
  rw [evaluate_eq_withPort]
  split
  · rename_i hpath
    exact ⟨rfl, rfl, rfl, rfl, rfl, rfl, fun hne => absurd hpath hne⟩
  · exact ⟨rfl, rfl, rfl, rfl, rfl, rfl, fun _ => rfl⟩

theorem SessionDecision.Agree.symm {d e : SessionDecision} (h : d.Agree e) : e.Agree d :=
  ⟨h.valid.symm, h.authenticated.symm, h.path.symm, h.request.symm, h.payload.symm,
    h.host.symm, fun hne => (h.port (h.path ▸ hne)).symm⟩

theorem SessionDecision.Agree.trans {d e f : SessionDecision} (h : d.Agree e)
    (h' : e.Agree f) : d.Agree f :=
  ⟨h.valid.trans h'.valid, h.authenticated.trans h'.authenticated, h.path.trans h'.path,
    h.request.trans h'.request, h.payload.trans h'.payload, h.host.trans h'.host,
    fun hne => (h.port hne).trans (h'.port (h.path ▸ hne))⟩

/-- **What the plan made of a decision carries.** A stranger's plan carries all
the bytes it sent and takes a fallback slot; an authenticated session's plan
carries the bytes behind its request's header, goes where the request says, and
takes no slot. -/
structure PlanCarries (data : Bytes) (d : SessionDecision) : Prop where
  stranger : d.authenticated = false →
    (buildExecutionPlan d).initialOutboundPayload = data
      ∧ (buildExecutionPlan d).requiresFallbackSlot = true
  authenticated : d.authenticated = true →
    (∃ command host port,
      data = TrojanRequest.header d.request.password command host port
          ++ (buildExecutionPlan d).initialOutboundPayload
        ∧ d.request.address = SOCKS5Address.ofHost host port
        ∧ (buildExecutionPlan d).target.host = host.text
        ∧ (buildExecutionPlan d).target.port = port)
      ∧ (buildExecutionPlan d).requiresFallbackSlot = false

/-- The plan made of the gate's decision carries what it should. -/
theorem planCarries_evaluate (input : SessionGateInput) :
    PlanCarries input.initialData (evaluate config auth input) := by
  cases ha : (authenticate config auth input.initialData).authenticated with
  | true =>
    obtain ⟨hreq, hvalid⟩ := authenticate_request config auth input.initialData
    rw [valid_of_authenticated config auth ha] at hvalid
    obtain ⟨n, hn⟩ := Option.isSome_iff_exists.mp hvalid.symm
    obtain ⟨command, host, port, hdata, -, haddr, -⟩ :=
      TrojanRequest.eq_header_append_of_parse
        (show TrojanRequest.parse {} input.initialData
          = ((authenticate config auth input.initialData).request, some n) from
          Prod.ext hreq.symm hn)
    rw [evaluate_of_authenticated config auth ha]
    refine ⟨fun h => absurd (ha.symm.trans h) (by simp), fun _ => ⟨?_, ?_⟩⟩
    · refine ⟨command, host, port, ?_⟩
      unfold buildExecutionPlan
      rw [haddr]
      split
      · exact ⟨hdata, rfl, rfl, rfl⟩
      · exact ⟨hdata, rfl, rfl, rfl⟩
    · -- an authenticated path is not the fallback path
      unfold buildExecutionPlan
      by_cases hc : (authenticate config auth input.initialData).request.command
          = some .udpAssociate
      · simp only [if_pos hc]
      · simp only [if_neg hc]
  | false =>
    rw [evaluate_of_not_authenticated config auth ha]
    exact ⟨fun _ => ⟨rfl, rfl⟩, fun h => absurd (ha.symm.trans h) (by simp)⟩

end SessionGate

namespace ServerIngressSelector

variable (config : Config) (auth : Option Authenticator)

/-- **Ingress metadata cannot change who is authenticated or what is
relayed.** Take any two ingress selections for the same first bytes, from any
endpoints and over any TLS layers. Both reach the gate, their decisions agree,
and the plans made of them carry what the bytes alone determine. A front that
is not trusted, or not enabled, is no front at all. -/
theorem evaluate_indifferent (initialData : Bytes) (ingress₁ ingress₂ : Ingress)
    (endpoint₁ endpoint₂ : TcpEndpoint) (socket₁ socket₂ : TlsStream) :
    (∃ d₁ d₂,
      evaluate config auth (ingress₁.select config) endpoint₁ socket₁ initialData = .ok d₁
        ∧ evaluate config auth (ingress₂.select config) endpoint₂ socket₂ initialData = .ok d₂
        ∧ d₁.Agree d₂
        ∧ SessionGate.PlanCarries initialData d₁ ∧ SessionGate.PlanCarries initialData d₂)
      ∧ ∀ front, (config.externalFront.enabled = false
          ∨ ExternalFrontTrustPolicy.isTrusted front = false) →
        evaluate config auth ((Ingress.externalFront front).select config) endpoint₁ socket₁
            initialData
          = evaluate config auth (Ingress.default.select config) endpoint₁ socket₁
            initialData := by
  constructor
  · obtain ⟨c₁, h₁⟩ := exists_context_of_select config auth ingress₁ endpoint₁ socket₁ initialData
    obtain ⟨c₂, h₂⟩ := exists_context_of_select config auth ingress₂ endpoint₂ socket₂ initialData
    have a₁ := SessionGate.evaluate_agree_verdict config auth ⟨c₁, initialData⟩
    have a₂ := SessionGate.evaluate_agree_verdict config auth ⟨c₂, initialData⟩
    exact ⟨_, _, h₁, h₂, a₁.trans a₂.symm,
      SessionGate.planCarries_evaluate config auth ⟨c₁, initialData⟩,
      SessionGate.planCarries_evaluate config auth ⟨c₂, initialData⟩⟩
  · intro front h
    show evaluate config auth (selectExternalFront config front) _ _ _ = _
    rw [selectExternalFront_eq_default config h]
    rfl

end ServerIngressSelector
