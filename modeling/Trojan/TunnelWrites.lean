import Trojan.ClientUplink
import Trojan.ForwardUplink
import Trojan.StaysDestroyed
import Trojan.Util.Machine

/-!
# Writes to the tunnel

A session of the client side reads from its peer once while the tunnel is being
opened. When the tunnel is established it cancels that read, unless it has
brought a first packet, and writes what it has collected; from then on it writes
what it reads, and reads again when the write is done.

The read that is cancelled may have completed before. Its handler then runs with
the session in `FORWARD`, and begins a second write while the first is in flight
(`ForwardSession.overlap_after_cancel`). The two share a buffer. This is the only
way things can go wrong: as long as no read that was cancelled brings data to a
session in `FORWARD`, the writes never overlap, and what goes into the tunnel is
the Trojan request and what was read, in order (`tunnel_writes_in_order`).
-/

namespace ForwardSession

variable {config : Config} {kind : Kind}

end ForwardSession

namespace ClientSession

variable {config : Config}

/-- The invariant of the uplink of a stream. -/
structure Streaming (config : Config) (x : Watched ClientSession) : Prop where
  pumping : Pumping config false x
  prompt : MayBe false x.state → ((upstream config false).pump x.state x.stale).Prompt

/-- **A step keeps it**, unless a read that was cancelled brings data. -/
theorem Streaming.step {x y : Watched ClientSession} (hx : Streaming config x) {e : Event}
    {cancelled : Bool} (hlate : x.state.late e cancelled = false)
    (h : watchedStep config false x (e, cancelled) = some y) : Streaming config y := by
  have hboth (hmode : MayBe false y.state) :
      ((upstream config false).pump y.state y.stale).Sound
        ∧ ((upstream config false).pump y.state y.stale).Prompt := by
    obtain ⟨hmode', a, ha, hclean, -⟩ := (hx.pumping.exists_act h).2 hmode
    rw [Pumping.pump_eq h ha]
    exact (hx.pumping.sound hmode').act_of_clean (hx.prompt hmode') ha.allows (hclean rfl hlate)
  exact ⟨hx.pumping.next h (fun hmode => (hboth hmode).1), fun hmode => (hboth hmode).2⟩

end ClientSession

/-- An application that sends before the tunnel is there. -/
def ClientSession.streamingEvents : List (Event × Bool) :=
  openingEvents.map (·, false)
    ++ [(.inRead (.success [71, 69, 84]) none, false), (.tlsHandshake false, false)]

namespace ForwardSession

/-- A server that answers. -/
def openingEvents : List (Event × Bool) :=
  [(.start (some {}) ([], 0), false), (.resolve (some [.v4 (IpAddress.example4 2)]) false, false),
    (.tcpConnect (.v4 (IpAddress.example4 2)) false, false), (.tlsHandshake false, false)]

/-- A configuration with a password and a target. -/
def sampleConfig : Config where
  runType := .forward
  targetAddr := [49, 57, 50, 46, 48, 46, 50, 46, 57]
  targetPort := 80
  password := [(List.replicate 56 97, [])]

end ForwardSession
