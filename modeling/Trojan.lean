import Trojan.Acceptors
import Trojan.Client.CanonicalRouting
import Trojan.Client.CidrMatching
import Trojan.Client.ClientBundle
import Trojan.Client.ConfigCleanup
import Trojan.Client.HostConditions
import Trojan.Client.LastKnownGood
import Trojan.Client.LeastRule
import Trojan.Client.PasswordIndependence
import Trojan.Client.ProfileStore
import Trojan.Client.Quarantine
import Trojan.Client.ReportedStatus
import Trojan.Client.RollbackWindow
import Trojan.Client.RoutingGuardrail
import Trojan.Client.RuntimeRecovery
import Trojan.Client.RuntimeTrueMetric
import Trojan.Client.SecretDurability
import Trojan.Client.SessionReady
import Trojan.Client.UxMetrics
import Trojan.Cooldown
import Trojan.ErasedEntries
import Trojan.FallbackBudget
import Trojan.FrontClients
import Trojan.Install.InstalledPassword
import Trojan.Install.PasswordRotation
import Trojan.Install.SourceOfTruth
import Trojan.ParserBounds
import Trojan.ServerBootstrap
import Trojan.ServerInert
import Trojan.ServerRelay
import Trojan.ServiceFront
import Trojan.ServiceSlots
import Trojan.Socks5Dialogue
import Trojan.StaysDestroyed
import Trojan.Strangers
import Trojan.TunnelDatagrams
import Trojan.UdpForwardOrder
import Trojan.UdpFrameSize
import Trojan.UdpRoundTrip
import Trojan.UdpService
import Trojan.UplinkFrames
import Trojan.Client.DesktopInstanceGuard
import Trojan.Client.SingleInstance
