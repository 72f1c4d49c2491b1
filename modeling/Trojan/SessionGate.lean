import Trojan.Config
import Trojan.TrojanRequest

/-!
# The session gate

`SessionGate::evaluate` decides what a session is, from the first bytes it
sends: an authenticated TCP or UDP relay, or a stranger who is handed to the
fallback server together with every byte it sent (`core/session_gate.cpp`).

The gate also gets a context – where the client comes from, which protocol its
TLS layer negotiated – and that context is not all the gate's own observation:
behind a front it is what the front says. What the decision may depend on is
therefore worth saying separately. `SessionGate.verdict` is the decision with
everything the context could touch removed, and
`SessionGate.evaluate_eq_withPort` says that the context decides the port of
the fallback target and nothing else.
-/

/-- `InboundMode`. -/
inductive InboundMode where
  | embeddedTls
  | externalFront
  | quicIngress
  | unknown
  deriving DecidableEq, Repr

/-- `SessionContext`. -/
structure SessionContext where
  sourceIp : Bytes := []
  sourcePort : UInt16 := 0
  selectedAlpn : Bytes := []
  tlsHandshakeCompleted : Bool := false
  inboundMode : InboundMode := .unknown
  deriving DecidableEq

/-- `ConnectTarget`. -/
structure ConnectTarget where
  host : Bytes := []
  port : UInt16 := 0
  isFallback : Bool := false
  deriving DecidableEq

/-- `SessionGateInput`. -/
structure SessionGateInput where
  context : SessionContext
  initialData : Bytes

/-- An external authenticator, as the fixed function of the password that one
session sees. -/
abbrev Authenticator := Bytes → Bool

namespace SessionGate

/-- `SessionGate::Path`. -/
inductive Path where
  | authenticatedTcp
  | authenticatedUdp
  | fallback
  deriving DecidableEq, Repr

/-- `SessionGate::SessionDecision`. -/
structure SessionDecision where
  path : Path := .fallback
  validTrojanRequest : Bool := false
  authenticated : Bool := false
  usedExternalAuthenticator : Bool := false
  request : TrojanRequest := {}
  target : ConnectTarget := {}
  outboundPayload : Bytes := []
  authRecordPassword : Bytes := []
  deriving DecidableEq

variable (config : Config) (auth : Option Authenticator)

/-- The parse and the two ways to authenticate: a configured password, or the
external authenticator. -/
def authenticate (initialData : Bytes) : SessionDecision :=
  let (request, returned) := TrojanRequest.parse {} initialData
  let result : SessionDecision := { request := request, validTrojanRequest := returned.isSome }
  if result.validTrojanRequest then
    if (config.password.lookup request.password).isSome then
      { result with authenticated := true }
    else if auth.any (fun a => a request.password) then
      { result with
          authenticated := true
          usedExternalAuthenticator := true
          authRecordPassword := request.password }
    else result
  else result

/-- The port of the fallback target: the one configured for the negotiated
protocol, if there is one. -/
def fallbackPort (context : SessionContext) : UInt16 :=
  if context.selectedAlpn ≠ [] then
    (config.ssl.alpnPortOverride.lookup context.selectedAlpn).getD config.remotePort
  else config.remotePort

/-- **`SessionGate::evaluate`**. -/
def evaluate (input : SessionGateInput) : SessionDecision :=
  let result := authenticate config auth input.initialData
  if result.validTrojanRequest && result.authenticated then
    { result with
        target :=
          { host := result.request.address.address
            port := result.request.address.port
            isFallback := false }
        outboundPayload := result.request.payload
        path := if result.request.command = some .udpAssociate then .authenticatedUdp
          else .authenticatedTcp }
  else
    { result with
        target :=
          { host := config.remoteAddr
            port := fallbackPort config input.context
            isFallback := true }
        outboundPayload := input.initialData
        path := .fallback }

/-- A decision with its target port replaced. -/
def SessionDecision.withPort (d : SessionDecision) (port : UInt16) : SessionDecision :=
  { d with target := { d.target with port := port } }

/-- **What the gate decides from the bytes alone**: the decision with a blank
context. -/
def verdict (initialData : Bytes) : SessionDecision :=
  evaluate config auth ⟨{}, initialData⟩

/-- **The context decides the port of the fallback target and nothing
else.** -/
theorem evaluate_eq_withPort (input : SessionGateInput) :
    evaluate config auth input
      = if (verdict config auth input.initialData).path = .fallback then
          (verdict config auth input.initialData).withPort (fallbackPort config input.context)
        else verdict config auth input.initialData := by
  unfold verdict evaluate
  by_cases h : ((authenticate config auth input.initialData).validTrojanRequest
      && (authenticate config auth input.initialData).authenticated) = true
  · -- an authenticated path is never the fallback path
    simp only [if_pos h]
    by_cases hc : (authenticate config auth input.initialData).request.command
        = some .udpAssociate
    · rw [if_pos hc, if_neg (by simp)]
    · rw [if_neg hc, if_neg (by simp)]
  · simp only [if_neg h]
    rfl

/-- The request a decision carries is the one parsed from the bytes, and it is
valid when the parse succeeds. -/
theorem authenticate_request (initialData : Bytes) :
    (authenticate config auth initialData).request = (TrojanRequest.parse {} initialData).1
      ∧ (authenticate config auth initialData).validTrojanRequest
        = (TrojanRequest.parse {} initialData).2.isSome := by
  unfold authenticate
  generalize TrojanRequest.parse {} initialData = parsed
  obtain ⟨request, _ | n⟩ := parsed
  · exact ⟨rfl, rfl⟩
  · simp only [Option.isSome_some, if_true]
    split
    · exact ⟨rfl, rfl⟩
    · split
      · exact ⟨rfl, rfl⟩
      · exact ⟨rfl, rfl⟩

/-- A session is authenticated only through a request that was parsed. -/
theorem valid_of_authenticated {initialData : Bytes}
    (h : (authenticate config auth initialData).authenticated = true) :
    (authenticate config auth initialData).validTrojanRequest = true := by
  unfold authenticate at h ⊢
  generalize TrojanRequest.parse {} initialData = parsed at h ⊢
  obtain ⟨request, _ | n⟩ := parsed
  · exact absurd h (by simp)
  · simp only [Option.isSome_some, if_true]
    split
    · rfl
    · split
      · rfl
      · rfl

/-- Who is authenticated, and how, is settled before the target is. -/
theorem evaluate_authenticated (input : SessionGateInput) :
    (evaluate config auth input).authenticated
        = (authenticate config auth input.initialData).authenticated
      ∧ (evaluate config auth input).usedExternalAuthenticator
        = (authenticate config auth input.initialData).usedExternalAuthenticator
      ∧ (evaluate config auth input).authRecordPassword
        = (authenticate config auth input.initialData).authRecordPassword := by
  unfold evaluate
  dsimp only
  split
  · exact ⟨rfl, rfl, rfl⟩
  · exact ⟨rfl, rfl, rfl⟩

/-- A session that authenticates is relayed where its request says. -/
theorem evaluate_of_authenticated {input : SessionGateInput}
    (h : (authenticate config auth input.initialData).authenticated = true) :
    evaluate config auth input
      = { authenticate config auth input.initialData with
          target :=
            { host := (authenticate config auth input.initialData).request.address.address
              port := (authenticate config auth input.initialData).request.address.port
              isFallback := false }
          outboundPayload := (authenticate config auth input.initialData).request.payload
          path := if (authenticate config auth input.initialData).request.command
              = some .udpAssociate then .authenticatedUdp else .authenticatedTcp } := by
  rw [evaluate, if_pos (by rw [valid_of_authenticated config auth h, h]; rfl)]

/-- A session that does not is relayed to the fallback server, with all it
sent. -/
theorem evaluate_of_not_authenticated {input : SessionGateInput}
    (h : (authenticate config auth input.initialData).authenticated = false) :
    evaluate config auth input
      = { authenticate config auth input.initialData with
          target :=
            { host := config.remoteAddr
              port := fallbackPort config input.context
              isFallback := true }
          outboundPayload := input.initialData
          path := .fallback } := by
  rw [evaluate, if_neg (by rw [h, Bool.and_false]; simp)]

end SessionGate
