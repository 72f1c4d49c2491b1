import Mathlib.Data.List.Induction
import Mathlib.Logic.Function.Basic
import Trojan.UdpForwardSession

/-!
# The UDP side of a forward service

A service that forwards reads the datagrams of all its peers from one socket
(`Service::udp_async_read`, `core/service.cpp`) and gives each of them to the
session of its peer. It finds the session in a table of weak pointers,
`udp_sessions`. If the pointer has expired the session is gone, and the datagram
opens a new one.

But a pointer expires when nobody holds the session any more, not when the
session is destroyed. A session is held by the handlers of its operations, and a
destroyed one has such operations for a while: those that its destruction
cancelled, and those of its TLS shutdown. A datagram that comes in this while is
given to the destroyed session, which accepts it and drops it
(`UdpService.datagram_given_to_destroyed`). `UdpService.dispatches_iff` says that
nothing else can go wrong.
-/

/-- A datagram that was given to a session, and the session as it was then. -/
structure Handover where
  endpoint : UdpEndpoint
  data : Bytes
  /-- The session, by its place among all that were created. -/
  session : ℕ
  found : UDPForwardSession

/-- The session that was given a datagram was not destroyed. -/
def Handover.Alive (h : Handover) : Prop := .noted .destroyed ∉ h.found.history

/-- **The UDP side of a forward service**, with all the sessions it has ever
created and all it has given to them, the newest first. -/
structure UdpService where
  udpSessions : UdpEndpoint → Option ℕ := fun _ => none
  sessions : List UDPForwardSession := []
  /-- A receive is outstanding. -/
  receiving : Bool := true
  handovers : List Handover := []

namespace UdpService

open UDPForwardSession (Follows create)

/-- `Service::MAX_LENGTH`, the size of `udp_read_buf`. -/
def maxLength : ℕ := 8192

/-- **What can happen**: the receive completes, or an operation of a session. -/
inductive Event where
  | received (result : Outcome (UdpEndpoint × Bytes))
  | session (i : ℕ) (event : UDPForwardSession.Event)
  deriving DecidableEq

/-- Whether the weak pointer to a session has expired. Every handler of the
session holds it, and between the handlers nothing else does. -/
def expired (s : UDPForwardSession) : Bool := s.pending.isEmpty

/-- The session in the table for an endpoint. -/
def find (svc : UdpService) (endpoint : UdpEndpoint) : Option (ℕ × UDPForwardSession) :=
  (svc.udpSessions endpoint).bind (fun i => svc.sessions[i]?.map (fun s => (i, s)))

/-- A session takes a call of the service. -/
def called (config : Config) (s : UDPForwardSession) (e : UDPForwardSession.Event) :
    UDPForwardSession :=
  (s.receives e).handle config e

/-- A datagram is given to a session. -/
def gives (config : Config) (svc : UdpService) (i : ℕ) (s : UDPForwardSession)
    (endpoint : UdpEndpoint) (data : Bytes) : UdpService :=
  { svc with
      sessions := svc.sessions.set i (called config s (.process endpoint data))
      handovers := ⟨endpoint, data, i, s⟩ :: svc.handovers }

/-- The new session of an endpoint, once it is started. -/
def started (config : Config) (endpoint : UdpEndpoint) : UDPForwardSession :=
  called config (create endpoint) .start

/-- A datagram opens a new session. -/
def opens (config : Config) (svc : UdpService) (endpoint : UdpEndpoint) (data : Bytes) :
    UdpService :=
  gives config
    { svc with
        udpSessions := Function.update svc.udpSessions endpoint (some svc.sessions.length)
        sessions := svc.sessions ++ [started config endpoint] }
    svc.sessions.length (started config endpoint) endpoint data

/-- What `udp_async_read` does with a datagram. -/
def dispatch (config : Config) (svc : UdpService) (endpoint : UdpEndpoint) (data : Bytes) :
    UdpService :=
  match svc.find endpoint with
  | none => svc.opens config endpoint data
  | some (i, s) =>
    if expired s then
      opens config { svc with udpSessions := Function.update svc.udpSessions endpoint none }
        endpoint data
    else if (s.process config endpoint data).1 then svc.gives config i s endpoint data
    else svc.opens config endpoint data

/-- **The handler of `udp_async_read`**. It receives again unless there was an
error; one that is not a cancellation stops the service. -/
def udpAsyncRead (config : Config) (svc : UdpService) :
    Outcome (UdpEndpoint × Bytes) → UdpService
  | .aborted => { svc with receiving := false }
  | .failed => { svc with receiving := false }
  | .success (endpoint, data) => svc.dispatch config endpoint data

/-- A receive delivers no more than its buffer has room for. -/
def fits : Outcome (UdpEndpoint × Bytes) → Bool
  | .success (_, data) => data.length ≤ maxLength
  | _ => true

/-- **One step of the service.** -/
def step (config : Config) (svc : UdpService) : Event → Option UdpService
  | .received result =>
    if svc.receiving && fits result then some (svc.udpAsyncRead config result) else none
  | .session i e =>
    -- the other events of a session are calls of the service
    if e.operation.isSome then
      svc.sessions[i]?.bind (fun s =>
        (UDPForwardSession.step config s e).map (fun t =>
          { svc with sessions := svc.sessions.set i t }))
    else none

/-! ## What a step does -/

variable {config : Config} {svc t : UdpService} {endpoint : UdpEndpoint} {data : Bytes}

/-- A call leaves a session of the same peer, with the call in its history. -/
theorem follows_called (config : Config) (s : UDPForwardSession) (e : UDPForwardSession.Event) :
    Follows (s.receives e) (called config s e) :=
  (Follows.refl _).handle config e

theorem peer_started (config : Config) (endpoint : UdpEndpoint) :
    (started config endpoint).udpRecvEndpoint = endpoint := rfl

/-- A session that was just started is not destroyed. -/
theorem started_alive (config : Config) (endpoint : UdpEndpoint) :
    .noted .destroyed ∉ (started config endpoint).history := by
  simp [started, called, create, UDPForwardSession.receives, UDPForwardSession.Event.operation,
    UDPForwardSession.handle, UDPForwardSession.start, UDPForwardSession.timerAsyncWait,
    UDPForwardSession.begins, UDPForwardSession.notes]

/-- A session that is in the table. -/
theorem find_eq_some {i : ℕ} {s : UDPForwardSession} :
    svc.find endpoint = some (i, s)
      ↔ svc.udpSessions endpoint = some i ∧ svc.sessions[i]? = some s := by
  simp only [find, Option.bind_eq_some_iff, Option.map_eq_some_iff, Prod.mk.injEq]
  constructor
  · rintro ⟨j, hj, s', hs', rfl, rfl⟩
    exact ⟨hj, hs'⟩
  · rintro ⟨hi, hs⟩
    exact ⟨i, hi, s, hs, rfl, rfl⟩

/-- The sessions there were are still there, and have gone on. -/
def Grows (l l' : List UDPForwardSession) : Prop :=
  ∀ (i : ℕ) (s : UDPForwardSession), l[i]? = some s → ∃ s', l'[i]? = some s' ∧ Follows s s'

theorem Grows.trans {l l' l'' : List UDPForwardSession} (h : Grows l l') (h' : Grows l' l'') :
    Grows l l'' := by
  intro i s hs
  obtain ⟨s', hs', hfollows⟩ := h i s hs
  obtain ⟨s'', hs'', hfollows'⟩ := h' i s' hs'
  exact ⟨s'', hs'', hfollows.trans hfollows'⟩

/-- A session goes on. -/
theorem grows_set {l : List UDPForwardSession} {i : ℕ} {s t : UDPForwardSession}
    (hs : l[i]? = some s) (ht : Follows s t) : Grows l (l.set i t) := by
  intro j r hr
  by_cases hj : i = j
  · subst hj
    obtain rfl := Option.some.inj (hs.symm.trans hr)
    exact ⟨t, List.getElem?_set_self (List.getElem?_eq_some_iff.mp hs).1, ht⟩
  · exact ⟨r, (List.getElem?_set_ne hj).trans hr, .refl r⟩

/-- A session is created. -/
theorem grows_append (l new : List UDPForwardSession) : Grows l (l ++ new) := by
  intro i s hs
  exact ⟨s, (List.getElem?_append_left (List.getElem?_eq_some_iff.mp hs).1).trans hs, .refl s⟩

/-- **The table and the sessions**: what was handed over is in the history of a
session of that peer, and the table has for each endpoint the session that was
last given a datagram of it. -/
structure Kept (svc : UdpService) : Prop where
  given : ∀ h ∈ svc.handovers, h.found.udpRecvEndpoint = h.endpoint
    ∧ ∃ s, svc.sessions[h.session]? = some s
      ∧ Follows (h.found.receives (.process h.endpoint h.data)) s
  latest : ∀ endpoint, svc.udpSessions endpoint
    = (svc.handovers.find? (fun h => h.endpoint = endpoint)).map Handover.session

namespace Kept

/-- Nothing is lost when the sessions go on. -/
theorem grows (hsvc : Kept svc) (hsessions : Grows svc.sessions t.sessions)
    (hhandovers : t.handovers = svc.handovers) (htable : t.udpSessions = svc.udpSessions) :
    Kept t where
  given h hh := by
    rw [hhandovers] at hh
    obtain ⟨hpeer, s, hs, hfollows⟩ := hsvc.given h hh
    obtain ⟨s', hs', hfollows'⟩ := hsessions _ s hs
    exact ⟨hpeer, s', hs', hfollows.trans hfollows'⟩
  latest endpoint := by
    rw [htable, hhandovers]
    exact hsvc.latest endpoint

/-- The session in the table for an endpoint is a session of that endpoint. -/
theorem peer (hsvc : Kept svc) {i : ℕ} {s : UDPForwardSession}
    (h : svc.find endpoint = some (i, s)) : s.udpRecvEndpoint = endpoint := by
  obtain ⟨htable, hs⟩ := find_eq_some.mp h
  rw [hsvc.latest endpoint, Option.map_eq_some_iff] at htable
  obtain ⟨handover, hfind, rfl⟩ := htable
  have hendpoint : handover.endpoint = endpoint := by
    simpa using List.find?_some hfind
  obtain ⟨hpeer, s', hs', hfollows⟩ := hsvc.given handover (List.mem_of_find?_eq_some hfind)
  obtain rfl := Option.some.inj (hs.symm.trans hs')
  exact hfollows.peer.trans (hpeer.trans hendpoint)

/-- **A datagram is given to a session of its peer**, which is or becomes the
one in the table. -/
theorem gives (hsvc : Kept svc) {i : ℕ} {s : UDPForwardSession}
    (hgrows : Grows svc.sessions t.sessions) (hs : t.sessions[i]? = some s)
    (hpeer : s.udpRecvEndpoint = endpoint) (hhandovers : t.handovers = svc.handovers)
    (htable : t.udpSessions = Function.update svc.udpSessions endpoint (some i)) :
    Kept (t.gives config i s endpoint data) where
  given h hh := by
    have hcalled : Follows s (called config s (.process endpoint data)) :=
      ((Follows.refl s).receives _).trans (follows_called config s _)
    have hset := grows_set hs hcalled
    rcases List.mem_cons.mp hh with rfl | hh
    · refine ⟨hpeer, _, ?_, follows_called config s _⟩
      exact List.getElem?_set_self (List.getElem?_eq_some_iff.mp hs).1
    · rw [hhandovers] at hh
      obtain ⟨hp, s', hs', hfollows⟩ := hsvc.given h hh
      obtain ⟨s'', hs'', hfollows'⟩ := hgrows.trans hset _ s' hs'
      exact ⟨hp, s'', hs'', hfollows.trans hfollows'⟩
  latest other := by
    show t.udpSessions other
      = ((⟨endpoint, data, i, s⟩ :: t.handovers).find? (fun h => h.endpoint = other)).map
        Handover.session
    rw [htable, hhandovers]
    by_cases h : other = endpoint
    · subst h
      rw [Function.update_self, List.find?_cons_of_pos (by simp)]
      rfl
    · rw [Function.update_of_ne h, List.find?_cons_of_neg (by simpa using Ne.symm h)]
      exact hsvc.latest other

theorem opens (hsvc : Kept svc) (hsessions : t.sessions = svc.sessions)
    (hhandovers : t.handovers = svc.handovers)
    (htable : ∀ other ≠ endpoint, t.udpSessions other = svc.udpSessions other) :
    Kept (t.opens config endpoint data) := by
  refine hsvc.gives ?_ ?_ (peer_started config endpoint) ?_ ?_
  · rw [← hsessions]
    exact grows_append _ _
  · exact List.getElem?_concat_length
  · exact hhandovers
  · funext other
    show Function.update t.udpSessions endpoint (some t.sessions.length) other = _
    by_cases h : other = endpoint
    · subst h
      rw [Function.update_self, Function.update_self]
    · rw [Function.update_of_ne h, Function.update_of_ne h]
      exact htable other h

end Kept

/-- **Where a datagram goes**: to the session in the table, if its pointer has
not expired, else to a new one. -/
theorem dispatch_cases (hsvc : Kept svc) (config : Config) (endpoint : UdpEndpoint)
    (data : Bytes) :
    (∃ i s, svc.find endpoint = some (i, s) ∧ expired s = false
        ∧ svc.dispatch config endpoint data = svc.gives config i s endpoint data)
      ∨ ((∀ i s, svc.find endpoint = some (i, s) → expired s = true)
        ∧ ∃ t : UdpService, t.sessions = svc.sessions ∧ t.handovers = svc.handovers
          ∧ (∀ other ≠ endpoint, t.udpSessions other = svc.udpSessions other)
          ∧ svc.dispatch config endpoint data = t.opens config endpoint data) := by
  unfold dispatch
  split
  · rename_i hnone
    refine .inr ⟨fun i s hs => ?_, svc, rfl, rfl, fun _ _ => rfl, rfl⟩
    exact absurd (hnone.symm.trans hs) (by simp)
  · rename_i i s hfind
    split
    · rename_i hexpired
      refine .inr ⟨fun j r hr => ?_,
        { svc with udpSessions := Function.update svc.udpSessions endpoint none }, rfl, rfl,
        fun other hother => ?_, rfl⟩
      · obtain ⟨rfl, rfl⟩ := Prod.mk.inj (Option.some.inj (hfind.symm.trans hr))
        exact hexpired
      · exact Function.update_of_ne hother _ _
    · rename_i hexpired
      have haccepts : (s.process config endpoint data).1 = true := by
        rw [UDPForwardSession.process, if_neg (fun hne => hne (hsvc.peer hfind).symm)]
      rw [if_pos haccepts]
      exact .inl ⟨i, s, hfind, by simpa using hexpired, rfl⟩

/-- The datagram that an event brings. -/
def datagram : Event → Option (UdpEndpoint × Bytes)
  | .received (.success received) => some received
  | _ => none

/-- **No dead session is still held**: when a datagram comes, the session in the
table for its peer is not destroyed, unless its pointer has expired. -/
def deadReleased (svc : UdpService) (e : Event) : Bool :=
  ((datagram e).bind (fun d => svc.find d.1)).all (fun found =>
    .noted .destroyed ∉ found.2.history || expired found.2)

theorem deadReleased_datagram (svc : UdpService) (endpoint : UdpEndpoint) (data : Bytes) :
    svc.deadReleased (.received (.success (endpoint, data)))
      = (svc.find endpoint).all (fun found =>
        .noted .destroyed ∉ found.2.history || expired found.2) := rfl

theorem deadReleased_of_none {e : Event} (h : datagram e = none) : svc.deadReleased e = true := by
  rw [deadReleased, h]
  rfl

/-- **What the dispatch of the datagrams should be**: each one that was received
was given to a session of its peer that was not destroyed, and the table has for
each endpoint the session that accepted a datagram of it last. -/
structure Dispatches (received : List (UdpEndpoint × Bytes)) (svc : UdpService) : Prop where
  each : svc.handovers.reverse.map (fun h => (h.endpoint, h.data)) = received
  given : ∀ h ∈ svc.handovers, h.found.udpRecvEndpoint = h.endpoint
    ∧ ∃ s, svc.sessions[h.session]? = some s
      ∧ Follows (h.found.receives (.process h.endpoint h.data)) s
  alive : ∀ h ∈ svc.handovers, h.Alive
  latest : ∀ endpoint, svc.udpSessions endpoint
    = (svc.handovers.find? (fun h => h.endpoint = endpoint)).map Handover.session

/-- **A step of a session** changes that session only. -/
theorem step_session {i : ℕ} {e : UDPForwardSession.Event}
    (h : step config svc (.session i e) = some t) :
    ∃ s s', svc.sessions[i]? = some s ∧ Follows s s'
      ∧ t = { svc with sessions := svc.sessions.set i s' } := by
  simp only [step] at h
  split at h
  · obtain ⟨s, hs, hmap⟩ := Option.bind_eq_some_iff.mp h
    obtain ⟨s', hs', rfl⟩ := Option.map_eq_some_iff.mp hmap
    exact ⟨s, s', hs, UDPForwardSession.follows_step hs', rfl⟩
  · exact absurd h (by simp)

/-- **A step, as the datagrams see it**: one that brings a datagram gives it to
one session, and to one that is not destroyed exactly when no dead session is
still held; any other gives nothing to anyone. -/
theorem step_handovers {e : Event} (hsvc : Kept svc) (h : step config svc e = some t) :
    Kept t ∧ ((t.handovers = svc.handovers ∧ datagram e = none)
      ∨ ∃ handover, t.handovers = handover :: svc.handovers
        ∧ datagram e = some (handover.endpoint, handover.data)
        ∧ (handover.Alive ↔ svc.deadReleased e = true)) := by
  cases e with
  | session i e =>
    obtain ⟨s, s', hs, hfollows, rfl⟩ := step_session h
    exact ⟨hsvc.grows (grows_set hs hfollows) rfl rfl, .inl ⟨rfl, rfl⟩⟩
  | received result =>
    simp only [step] at h
    split at h
    · obtain rfl := Option.some.inj h
      rcases result with ⟨endpoint, data⟩ | _ | _
      · show Kept (svc.dispatch config endpoint data) ∧ (_ ∨ _)
        rcases dispatch_cases hsvc config endpoint data with
          ⟨i, s, hfind, hexpired, heq⟩ | ⟨hnone, t, hsessions, hhandovers, htable, heq⟩
        · obtain ⟨hi, hs⟩ := find_eq_some.mp hfind
          refine ⟨?_, .inr ⟨⟨endpoint, data, i, s⟩, congrArg handovers heq, rfl, ?_⟩⟩
          · rw [heq]
            refine hsvc.gives (fun j r hr => ⟨r, hr, .refl r⟩) hs (hsvc.peer hfind) rfl ?_
            exact (Function.update_eq_self_iff.mpr hi.symm).symm
          · rw [deadReleased_datagram, hfind, Option.all_some, hexpired, Bool.or_false,
              decide_eq_true_iff]
            exact Iff.rfl
        · refine ⟨?_, .inr ⟨⟨endpoint, data, t.sessions.length, started config endpoint⟩, ?_, rfl,
            ?_⟩⟩
          · rw [heq]
            exact hsvc.opens hsessions hhandovers htable
          · rw [← hhandovers]
            exact congrArg handovers heq
          · refine iff_of_true (started_alive config endpoint) ?_
            rw [deadReleased_datagram, Option.all_eq_true]
            intro found hfound
            rw [hnone found.1 found.2 hfound, Bool.or_true]
      · exact ⟨hsvc.grows (fun i s hs => ⟨s, hs, .refl s⟩) rfl rfl, .inl ⟨rfl, rfl⟩⟩
      · exact ⟨hsvc.grows (fun i s hs => ⟨s, hs, .refl s⟩) rfl rfl, .inl ⟨rfl, rfl⟩⟩
    · exact absurd h (by simp)

/-- A service that has received nothing keeps its table. -/
theorem kept_empty : Kept {} where
  given _ hh := absurd hh List.not_mem_nil
  latest _ := rfl

/-- **Every run hands over what it receives**, one by one. -/
theorem handovers_run {es : List Event} (h : Machine.run (step config) {} es = some t) :
    Kept t ∧ t.handovers.reverse.map (fun h => (h.endpoint, h.data)) = es.filterMap datagram := by
  induction es using List.reverseRecOn generalizing t with
  | nil =>
    obtain rfl := Option.some.inj h
    exact ⟨kept_empty, rfl⟩
  | append_singleton es e ih =>
    obtain ⟨svc, hsvc, hstep⟩ := Machine.run_concat.mp h
    obtain ⟨hkept, heach⟩ := ih hsvc
    rw [List.filterMap_append, ← heach]
    obtain ⟨hkept', ⟨hsame, hnone⟩ | ⟨handover, hnew, hsome, -⟩⟩ := step_handovers hkept hstep
    · rw [hsame, List.filterMap_cons_none hnone]
      exact ⟨hkept', (List.append_nil _).symm⟩
    · rw [hnew, List.filterMap_cons_some hsome, List.reverse_cons, List.map_append]
      exact ⟨hkept', rfl⟩

/-- **When no datagram goes to a destroyed session.** In every run of a forward
service, each datagram received so far was given to a session of its peer that
was not destroyed, and the table has for each endpoint the session that accepted
last, at every moment exactly when no datagram comes while a destroyed session
of its peer is still held by a handler. -/
theorem dispatches_iff {config : Config} {es : List Event} {svc : UdpService}
    (hrun : Machine.run (step config) {} es = some svc) :
    (∀ pre t, pre <+: es → Machine.run (step config) {} pre = some t →
        t.Dispatches (pre.filterMap datagram))
      ↔ Machine.Along (step config) (fun t e => t.deadReleased e = true) {} es := by
  have hexact := Machine.forall_visits_iff_along (I := Kept)
    (P := fun svc => ∀ h ∈ svc.handovers, h.Alive) (C := fun svc e => svc.deadReleased e = true)
    (fun s e t hs _ hstep _ => (step_handovers hs hstep).1) (fun s e t hs halive hstep => ?_)
    kept_empty (fun _ hh => absurd hh List.not_mem_nil) hrun
  · rw [← hexact]
    constructor
    · rintro hall t ⟨pre, hpre, ht⟩
      exact (hall pre t hpre ht).alive
    · intro hall pre t hpre ht
      obtain ⟨hkept, heach⟩ := handovers_run ht
      exact ⟨heach, hkept.given, hall t ⟨pre, hpre, ht⟩, hkept.latest⟩
  · obtain ⟨-, ⟨hsame, hnone⟩ | ⟨handover, hnew, -, hiff⟩⟩ := step_handovers hs hstep
    · rw [hsame]
      exact iff_of_true halive (deadReleased_of_none hnone)
    · rw [hnew, List.forall_mem_cons, hiff]
      exact and_iff_left halive

/-- A peer. -/
def localPeer : UdpEndpoint := ⟨.v4 (IpAddress.example4 1), 5353⟩

/-- A tunnel that stands until its session times out. The TLS shutdown of the
session is in flight when the peer sends again. -/
def timeoutEvents (later : Bytes) : List Event :=
  [.received (.success (localPeer, [1])),
    .session 0 (.resolve (some [.v4 (IpAddress.example4 2)]) false),
    .session 0 (.tcpConnect (.v4 (IpAddress.example4 2)) false),
    .session 0 (.tlsHandshake false),
    .session 0 (.timer false),
    .received (.success (localPeer, later))]

/-- **A peer that sends twice**: both of its datagrams are given to one session. -/
theorem dispatches_two_datagrams :
    ∃ svc, Machine.run (step {}) {}
        [.received (.success (localPeer, [1])), .received (.success (localPeer, [2]))] = some svc
      ∧ svc.sessions.length = 1 ∧ svc.Dispatches [(localPeer, [1]), (localPeer, [2])] := by
  have hrun : (Machine.run (step {}) {}
      [.received (.success (localPeer, [1])), .received (.success (localPeer, [2]))]).any
      (fun svc => svc.sessions.length = 1) = true := by
    decide +kernel
  obtain ⟨svc, hsvc, hall⟩ := Option.any_eq_true _ _ |>.mp hrun
  refine ⟨svc, hsvc, of_decide_eq_true hall, ?_⟩
  exact (dispatches_iff hsvc).mpr (by decide +kernel) _ svc List.prefix_rfl hsvc

/-- **A datagram that nobody gets**: it is given to the session that has timed
out, which accepts it and does nothing with it. -/
theorem datagram_given_to_destroyed :
    ∃ svc, Machine.run (step {}) {} (timeoutEvents [2]) = some svc
      ∧ (∃ h ∈ svc.handovers, h.data = [2] ∧ ¬ h.Alive)
      ∧ ¬ svc.Dispatches ((timeoutEvents [2]).filterMap datagram) := by
  have hrun : (Machine.run (step {}) {} (timeoutEvents [2])).any (fun svc =>
      svc.handovers.any (fun h => h.data = [2] ∧ .noted .destroyed ∈ h.found.history)) = true := by
    decide +kernel
  obtain ⟨svc, hsvc, hany⟩ := Option.any_eq_true _ _ |>.mp hrun
  obtain ⟨h, hh, hall⟩ := List.any_eq_true.mp hany
  obtain ⟨hdata, hdestroyed⟩ := of_decide_eq_true hall
  refine ⟨svc, hsvc, ⟨h, hh, hdata, fun halive => halive hdestroyed⟩, fun hdispatches => ?_⟩
  exact hdispatches.alive h hh hdestroyed

end UdpService
