import Mathlib.Data.Int.Notation
import Trojan.Socks5Address

/-!
# Configuration and endpoints

The part of `core/config.h` that the modelled code reads. Maps are association
lists, read with `List.lookup`; `int` settings stay integers, because the code
takes a limit that is zero or negative to mean that the control is off.
-/

/-- `Config::RunType`. -/
inductive RunType where
  | server
  | client
  | forward
  | nat
  deriving DecidableEq, Repr

/-- `Config::SSLConfig`. -/
structure SSLConfig where
  alpn : Bytes := []
  alpnPortOverride : List (Bytes × UInt16) := []

/-- `Config::TCPConfig`. -/
structure TCPConfig where
  preferIpv4 : Bool := false

/-- `Config::AbuseControlConfig`. -/
structure AbuseControlConfig where
  enabled : Bool := true
  perIpMaxConnections : ℤ := 64
  authFailWindowSeconds : ℤ := 60
  authFailMax : ℤ := 20
  cooldownSeconds : ℤ := 60
  fallbackMaxActive : ℤ := 32

/-- `Config::ExternalFrontConfig`. -/
structure ExternalFrontConfig where
  enabled : Bool := false
  enableTrustedFrontListener : Bool := false
  trustedFrontListenerUseMtls : Bool := false
  requireTrustedFrontLoopbackSource : Bool := true

/-- `Config`. -/
structure Config where
  runType : RunType := .server
  remoteAddr : Bytes := []
  remotePort : UInt16 := 0
  targetAddr : Bytes := []
  targetPort : UInt16 := 0
  password : List (Bytes × Bytes) := []
  ssl : SSLConfig := {}
  tcp : TCPConfig := {}
  abuseControl : AbuseControlConfig := {}
  externalFront : ExternalFrontConfig := {}

/-- `config.password.cbegin()->first`: the password of a client, which is the
first key of the map. A client is configured with one. -/
def Config.firstPassword (config : Config) : Bytes := (config.password.head?.map (·.1)).getD []

/-- A TCP endpoint. Its address is used in two ways only: through its text
`address().to_string()`, which is what the controllers key their tables by,
and through `is_loopback()`. -/
structure TcpEndpoint where
  ip : Bytes := []
  port : UInt16 := 0
  isLoopback : Bool := false
  deriving DecidableEq
