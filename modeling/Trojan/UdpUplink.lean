import Trojan.ClientUplink
import Trojan.Util.Machine

/-!
# The uplink of an association

A client session that relays datagrams receives them one at a time: it writes
what it has received to the tunnel, and receives again when the write is done.
If at some moment neither is outstanding, no datagram of the application is ever
picked up again; if both are, there will be two receives, and they share a
buffer.

Three things upset this (`ClientSession.upset`). An empty datagram is dropped, and
nothing is begun in its place. A receive that was cancelled as the tunnel was
established may have completed before. And bytes that the application sends on
its connection during `CONNECT` count as a first packet, so that the receive is
not cancelled although it is in flight. As long as none of them happens, one
operation is outstanding at all times, and the first of them that happens breaks
this at once (`ClientSession.one_outstanding_iff`).
-/

namespace ClientSession

open Flight

/-- A write to the tunnel. -/
def Operation.isOutWrite : Operation → Bool
  | outWrite _ => true
  | _ => false

/-- The writes to the tunnel in flight. -/
def writesInFlight (s : ClientSession) : ℕ := s.pending.countP Operation.isOutWrite

/-- **One operation is outstanding** in `UDP_FORWARD`: a receive that was not
cancelled, or a write to the tunnel. -/
def OneOutstanding (x : Watched ClientSession) : Prop :=
  x.state.status = .udpForward →
    x.stale ≤ x.state.receivesInFlight
      ∧ x.state.receivesInFlight - x.stale + x.state.writesInFlight = 1

variable {config : Config} {x y : Watched ClientSession} {e : Event} {cancelled : Bool}

/-- The writes in flight are those of the uplink. -/
theorem writesInFlight_eq (s : ClientSession) (stale : ℕ) :
    ((upstream config true).pump s stale).writes = s.writesInFlight := by
  refine List.countP_congr (fun op _ => ?_)
  cases op <;> simp [upstream, Pump.Reading.isWrite, reading, Operation.kind, Pump.Kind.isWrite,
    Operation.isOutWrite]

/-- Data flows in a session that may be an association when it is in
`UDP_FORWARD`. -/
theorem flowing_iff {s : ClientSession} (hs : Orderly config s) (hmode : MayBe true s) :
    s.phase = .flowing ↔ s.status = .udpForward := by
  rcases hs with hs | hs
  · rw [hs.phase_eq]
    rcases hs.status_eq with hstatus | hstatus | hstatus <;> simp [hstatus]
  · have htrue := hmode.resolve_right hs.phase_ne_idle
    rw [htrue] at hs
    exact hs.flowing_iff

/-- A sound pump has one operation outstanding. -/
theorem oneOutstanding_of_sound (hx : Orderly config x.state) (hmode : MayBe true x.state)
    (hsound : ((upstream config true).pump x.state x.stale).Sound) : OneOutstanding x := by
  intro hstatus
  have hbounded := hsound.bounded
  have hbalance := hsound.balanced ((flowing_iff hx hmode).mpr hstatus)
  rw [receivesInFlight_eq, writesInFlight_eq] at hbalance
  rw [receivesInFlight_eq] at hbounded
  have hstale : ((upstream config true).pump x.state x.stale).stale = x.stale := rfl
  rw [hstale] at hbounded hbalance
  exact ⟨hbounded, by omega⟩

/-- One operation is outstanding only if the pump is balanced. -/
theorem balanced_of_oneOutstanding (hx : Orderly config x.state) (hmode : MayBe true x.state)
    (hone : OneOutstanding x) : ((upstream config true).pump x.state x.stale).Balanced := by
  intro hphase
  obtain ⟨hbounded, hsum⟩ := hone ((flowing_iff hx hmode).mp hphase)
  rw [receivesInFlight_eq, writesInFlight_eq]
  show x.state.receivesInFlight + x.state.writesInFlight = x.stale + 1
  omega

/-- **A step in the mode** keeps one operation outstanding exactly when it upsets
nothing, and then it keeps the pump sound. -/
theorem Pumping.oneOutstanding_iff (hx : Pumping config true x)
    (h : watchedStep config true x (e, cancelled) = some y) (hmode : MayBe true y.state) :
    (OneOutstanding y ↔ x.state.upset x.stale e cancelled = false)
      ∧ (OneOutstanding y → ((upstream config true).pump y.state y.stale).Sound) := by
  obtain ⟨horderly, hacts⟩ := hx.exists_act h
  obtain ⟨hmode', a, ha, -, hfine⟩ := hacts hmode
  have hsound := hx.sound hmode'
  have hpump := Pumping.pump_eq h ha
  have hbalanced (hone : OneOutstanding y) : ((upstream config true).pump x.state x.stale).Fine a := by
    have hbalanced := balanced_of_oneOutstanding horderly hmode hone
    rw [hpump] at hbalanced
    exact (hsound.balanced_act_iff ha.allows).mp hbalanced
  have hkeeps (hfine : ((upstream config true).pump x.state x.stale).Fine a) :
      ((upstream config true).pump y.state y.stale).Sound := by
    rw [hpump]
    exact hsound.act ha.allows hfine
  refine ⟨⟨fun hone => (hfine rfl).mp (hbalanced hone), fun hupset => ?_⟩,
    fun hone => hkeeps (hbalanced hone)⟩
  exact oneOutstanding_of_sound horderly hmode (hkeeps ((hfine rfl).mpr hupset))

/-- Nothing upsets a session that is no association. -/
theorem Orderly.upset_eq_false (hx : Orderly config x.state)
    (h : watchedStep config true x (e, cancelled) = some y) (hmode : ¬ MayBe true y.state) :
    x.state.upset x.stale e cancelled = false := by
  obtain ⟨-, hstep, -⟩ := Watch.step_eq_some.mp h
  rcases hx with hs | hs
  · -- it reads or writes, or it is started
    cases e with
    | udpReceive received =>
      exact absurd (mem_of_step hstep rfl).1 hs.quiet
    | tlsHandshake error =>
      have hmem := (mem_of_step hstep rfl).1
      rcases hs.pending_eq with hp | hp | ⟨data, hp⟩ <;> simp [hp] at hmem
    | _ => rfl
  · -- it relays a stream
    have hfalse : x.state.isUdp = false := by
      refine Bool.eq_false_iff.mpr (fun htrue => hmode (.inl ?_))
      exact (hs.step hstep).isUdp.trans htrue
    rw [hfalse] at hs
    cases e with
    | udpReceive received => exact absurd (mem_of_step hstep rfl).1 (hs.quiet rfl)
    | tlsHandshake error => cases error <;> simp [upset, hfalse]
    | _ => rfl

/-- Only an association comes to `UDP_FORWARD`. -/
theorem Orderly.oneOutstanding (hy : Orderly config y.state) (hmode : ¬ MayBe true y.state) :
    OneOutstanding y := by
  intro hstatus
  rcases hy with hs | hs
  · exact absurd (.inr hs.phase_eq) hmode
  · have hrelays := hs.status
    rw [hstatus] at hrelays
    exact absurd (.inl hrelays) hmode

/-- **One operation is outstanding exactly as long as nothing upsets the
association**, in every state of every run. -/
theorem one_outstanding_iff (config : Config) (es : List (Event × Bool)) (u : Watched ClientSession)
    (hrun : Machine.run (watchedStep config true) ⟨create, 0⟩ es = some u) :
    (∀ y, Machine.Visits (watchedStep config true) ⟨create, 0⟩ es y → OneOutstanding y)
      ↔ Machine.Along (watchedStep config true)
        (fun x ev => x.state.upset x.stale ev.1 ev.2 = false) ⟨create, 0⟩ es := by
  refine Machine.forall_visits_iff_along (I := Pumping config true) (P := OneOutstanding)
    (fun x ev y hx _ hstep hone => ?_) (fun x ev y hx _ hstep => ?_) pumping_create nofun hrun
  · exact hx.next hstep (fun hmode => (hx.oneOutstanding_iff hstep hmode).2 hone)
  · by_cases hmode : MayBe true y.state
    · exact (hx.oneOutstanding_iff hstep hmode).1
    · have horderly := (hx.exists_act hstep).1
      exact iff_of_true (horderly.oneOutstanding hmode) (hx.orderly.upset_eq_false hstep hmode)

/-- The configuration of a client. -/
def clientConfig : Config where
  runType := .client
  password := [(List.replicate 56 97, [])]

/-- An application that asks for an association, and a server that answers. The
first receive is aborted, and another one is begun when the request is written. -/
def associationEvents : List (Event × Bool) :=
  [(.start (some {}), false), (.inRead (.success [5, 1, 0]) none, false),
    (.inWrite [5, 0] false, false),
    (.inRead (.success [5, 3, 0, 1, 0, 0, 0, 0, 0, 0]) (some ⟨.v4 IpAddress.loopback, 4000⟩), false),
    (.inWrite ([5, 0, 0] ++ SOCKS5Address.generate ⟨.v4 IpAddress.loopback, 4000⟩) false, false),
    (.resolve (some [.v4 (IpAddress.example4 2)]) false, false),
    (.tcpConnect (.v4 (IpAddress.example4 2)) false, false), (.tlsHandshake false, false),
    (.udpReceive .aborted, true),
    (.outWrite (requestBuffer clientConfig [5, 3, 0, 1, 0, 0, 0, 0, 0, 0]) false, false)]

/-- A datagram for a host, in the form of SOCKS5, or an empty one. -/
def datagramEvent (data : Bytes) : Event × Bool :=
  (.udpReceive (.success (data, ⟨.v4 IpAddress.loopback, 5000⟩)), false)

/-- A good datagram is written to the tunnel, and one operation is outstanding at
all times. -/
theorem one_outstanding_of_datagram :
    ∃ u, Machine.run (watchedStep clientConfig true) ⟨create, 0⟩
        (associationEvents ++ [datagramEvent [0, 0, 0, 1, 192, 0, 2, 9, 0, 53, 7]]) = some u
      ∧ u.state.status = .udpForward
      ∧ .outWrite [1, 192, 0, 2, 9, 0, 53, 0, 1, 13, 10, 7] ∈ u.state.pending
      ∧ OneOutstanding u := by
  have hrun : (Machine.run (watchedStep clientConfig true) ⟨create, 0⟩
      (associationEvents ++ [datagramEvent [0, 0, 0, 1, 192, 0, 2, 9, 0, 53, 7]])).any
      (fun u => u.state.status = .udpForward
        ∧ .outWrite [1, 192, 0, 2, 9, 0, 53, 0, 1, 13, 10, 7] ∈ u.state.pending) = true := by
    decide +kernel
  obtain ⟨u, hu, hall⟩ := Option.any_eq_true _ _ |>.mp hrun
  obtain ⟨hstatus, hwrite⟩ := of_decide_eq_true hall
  refine ⟨u, hu, hstatus, hwrite, ?_⟩
  exact (one_outstanding_iff _ _ u hu).mpr (by decide +kernel) u ⟨_, List.prefix_rfl, hu⟩

/-- **An empty datagram stalls the uplink**: the session is in `UDP_FORWARD`, and
of its operations in flight none is a receive or a write. -/
theorem stalled_by_empty_datagram :
    ∃ u, Machine.run (watchedStep clientConfig true) ⟨create, 0⟩
        (associationEvents ++ [datagramEvent []]) = some u
      ∧ u.state.status = .udpForward ∧ u.state.pending = [.outRead, .inRead]
      ∧ ¬ OneOutstanding u := by
  have hrun : (Machine.run (watchedStep clientConfig true) ⟨create, 0⟩
      (associationEvents ++ [datagramEvent []])).any
      (fun u => u.state.status = .udpForward ∧ u.state.pending = [.outRead, .inRead]) = true := by
    decide +kernel
  obtain ⟨u, hu, hall⟩ := Option.any_eq_true _ _ |>.mp hrun
  obtain ⟨hstatus, hpending⟩ := of_decide_eq_true hall
  refine ⟨u, hu, hstatus, hpending, fun hone => ?_⟩
  have hsum := (hone hstatus).2
  rw [receivesInFlight, writesInFlight, hpending] at hsum
  exact absurd hsum (by simp [Operation.isOutWrite])

end ClientSession
