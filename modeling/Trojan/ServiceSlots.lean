import Mathlib.Algebra.BigOperators.Finprod
import Trojan.Service
import Trojan.Util.Machine

/-!
# The connection slots of the public listener

A connection from the public listener that is admitted takes a slot of its IP,
and its session gives the slot back when it is destroyed. The abuse controller
should therefore count, for each IP, the sessions that were admitted from it
and are not destroyed.

It counts more than that. The flag that permits the release is set inside
`start()`, after its own look at the peer; when that look reports an error, the
session is destroyed with the flag unset, and its slot is never returned. What
the controller really counts are the admitted connections whose session has
released nothing (`Service.Balanced`), and this is the law one wants exactly as
long as no admitted session fails to start: `Service.accounted_iff`.
-/

namespace ServerSession

open Flight

/-- The slot release that a mark records, by its endpoint. -/
def releasedEndpoint : Mark Operation Buffer Note → List TcpEndpoint
  | .noted (.releasedConnectionSlot endpoint) => [endpoint]
  | _ => []

/-- **The connection slots a session has given back.** -/
def releases (s : ServerSession) : List TcpEndpoint := collect releasedEndpoint s.history

/-- A destruction gives back the connection slot, if the flag is set. -/
theorem releases_destroy (env : Env) {s : ServerSession} (h : s.status ≠ .destroy) :
    (s.destroy env).releases
      = s.releases ++ (if s.connectionSlotAcquired then [s.inEndpoint] else []) := by
  have hhist : (s.destroy env).history = s.farewell env ++ s.history := by
    rw [destroy_eq env s h]
  rw [releases, hhist, releases]
  unfold farewell farewellNotes usageNotes releaseNotes farewellOperations
  split <;> split <;> split <;> split <;> simp [releasedEndpoint]

/-- **The courses a connection slot can take**, for a session that was admitted
with an endpoint: it is held, it has been returned, or it was lost in the
start. -/
inductive ConnectionCourse (endpoint : TcpEndpoint) (s : ServerSession) : Prop
  | held (hs : s.status ≠ .destroy) (hflag : s.connectionSlotAcquired = true)
      (hendpoint : s.inEndpoint = endpoint) (hreleases : s.releases = [])
  | returned (hs : s.status = .destroy) (hreleases : s.releases = [endpoint])
  | lost (hs : s.status = .destroy) (hreleases : s.releases = [])

/-- **A start**: the session holds its slot, or has lost it; nothing is given
back yet. -/
theorem connectionCourse_start (env : Env) (mode : BootstrapMode)
    (handoff : Option ExternalFrontHandoff) (endpoint : TcpEndpoint) (startFails : Bool) :
    ConnectionCourse endpoint
        ((create mode handoff).start env (if startFails then none else some endpoint))
      ∧ ((create mode handoff).start env
        (if startFails then none else some endpoint)).releases = []
      ∧ (((create mode handoff).start env
        (if startFails then none else some endpoint)).status = .destroy ↔ startFails = true) := by
  cases startFails with
  | true =>
    have hstatus : ((create mode handoff).start env none).status = .destroy := status_destroy _ _
    have hnone : ((create mode handoff).start env none).releases = [] := by
      show (ServerSession.destroy env { create mode handoff with inEndpoint := {} }).releases = []
      rw [releases_destroy env (by simp [create])]
      rfl
    exact ⟨.lost hstatus hnone, hnone, fun _ => rfl, fun _ => hstatus⟩
  | false =>
    rw [if_neg Bool.false_ne_true]
    unfold ServerSession.start
    dsimp only
    split
    · exact ⟨.held (by simp [trustedFrontIngressAsyncRead, create]) rfl rfl rfl, rfl,
        by simp [trustedFrontIngressAsyncRead, create]⟩
    · exact ⟨.held (by simp [create]) rfl rfl rfl, rfl, by simp [create]⟩

/-- A failed authentication leaves the slot where it is. -/
theorem ConnectionCourse.authFailure {endpoint : TcpEndpoint} {s : ServerSession}
    (h : ConnectionCourse endpoint s) (e : TcpEndpoint) :
    ConnectionCourse endpoint (s.notes (.authFailure e)) := by
  have hreleases : (s.notes (.authFailure e)).releases = s.releases := List.append_nil _
  cases h with
  | held hs hflag hendpoint hr => exact .held hs hflag hendpoint (hreleases.trans hr)
  | returned hs hr => exact .returned hs (hreleases.trans hr)
  | lost hs hr => exact .lost hs (hreleases.trans hr)

/-- **Being destroyed returns a slot that is held**, and does nothing to one
that is not. -/
theorem ConnectionCourse.destroy {endpoint : TcpEndpoint} {s : ServerSession}
    (h : ConnectionCourse endpoint s) (env : Env) : ConnectionCourse endpoint (s.destroy env) := by
  cases h with
  | held hs hflag hendpoint hr =>
    refine .returned (status_destroy env s) ?_
    rw [releases_destroy env hs, hr, hflag, if_pos rfl, hendpoint]
    rfl
  | returned hs hr =>
    rw [destroy_of_destroy env s hs]
    exact .returned hs hr
  | lost hs hr =>
    rw [destroy_of_destroy env s hs]
    exact .lost hs hr

end ServerSession

namespace Service

open ServerSession

/-- The connection was admitted from the IP, and its session has not given the
slot back. -/
def holdsSlot (ip : Bytes) (c : Connection) : Bool :=
  c.decision = .startSession && c.endpoint.ip = ip && c.session.releases = []

/-- The connection was admitted from the IP, and its session is not
destroyed. -/
def isLive (ip : Bytes) (c : Connection) : Bool :=
  c.decision = .startSession && c.endpoint.ip = ip && c.session.status ≠ .destroy

/-- The connection was admitted, and its session has not given the slot
back. -/
def isCounted (c : Connection) : Bool := c.decision = .startSession && c.session.releases = []

/-- **What the controllers count**: for every IP the connections that hold a
slot, never more than the limit, and over all IPs all of them. -/
structure Balanced (config : Config) (svc : Service) : Prop where
  course : ∀ c ∈ svc.connections .standard, c.decision = .startSession →
    ConnectionCourse c.endpoint c.session
  slots : ∀ ip, svc.abuseController.active ip
    = (svc.connections .standard).countP (holdsSlot ip)
  bounded : ∀ ip, svc.abuseController.active ip ≤ config.abuseControl.perIpMaxConnections.toNat
  total : svc.runtimeMetrics.activeSessions = (svc.connections .standard).countP isCounted
  noFront : svc.connections .trustedFront = []

namespace Balanced

variable {config : Config} {env : Listener → ℕ → Env} {svc svc' : Service}

/-- **A new connection** keeps the balance if its slot is counted. -/
theorem adds (h : Balanced config svc) (c : Connection)
    (hconnections : svc'.connections
      = Function.update svc.connections .standard (svc.connections .standard ++ [c]))
    (hcourse : c.decision = .startSession → ConnectionCourse c.endpoint c.session)
    (hactive : ∀ ip, svc'.abuseController.active ip
      = svc.abuseController.active ip + (holdsSlot ip c).toNat)
    (hbounded : ∀ ip, svc'.abuseController.active ip
      ≤ config.abuseControl.perIpMaxConnections.toNat)
    (htotal : svc'.runtimeMetrics.activeSessions
      = svc.runtimeMetrics.activeSessions + (isCounted c).toNat) :
    Balanced config svc' := by
  have hstandard : svc'.connections .standard = svc.connections .standard ++ [c] := by
    rw [hconnections, Function.update_self]
  have hone (p : Connection → Bool) : [c].countP p = (p c).toNat := by
    cases hp : p c <;> simp [hp]
  refine ⟨fun d hd => ?_, fun ip => ?_, hbounded, ?_, ?_⟩
  · rw [hstandard] at hd
    rcases List.mem_append.mp hd with hd | hd
    · exact h.course d hd
    · obtain rfl := List.mem_singleton.mp hd
      exact hcourse
  · rw [hactive, hstandard, List.countP_append, hone, h.slots]
  · rw [htotal, hstandard, List.countP_append, hone, h.total]
  · rw [hconnections, Function.update_of_ne (by simp), h.noFront]

/-- **A connection whose session goes on** keeps the balance if the slot it may
give back is no longer counted. -/
theorem sets (h : Balanced config svc) {i : ℕ} {c : Connection} {t : ServerSession}
    (hc : (svc.connections .standard)[i]? = some c)
    (hconnections : svc'.connections = Function.update svc.connections .standard
      ((svc.connections .standard).set i { c with session := t }))
    (hcourse : c.decision = .startSession → ConnectionCourse c.endpoint t)
    (hactive : ∀ ip, svc'.abuseController.active ip + (holdsSlot ip c).toNat
      = svc.abuseController.active ip + (holdsSlot ip { c with session := t }).toNat)
    (hless : ∀ ip, svc'.abuseController.active ip ≤ svc.abuseController.active ip)
    (htotal : svc'.runtimeMetrics.activeSessions + (isCounted c).toNat
      = svc.runtimeMetrics.activeSessions + (isCounted { c with session := t }).toNat) :
    Balanced config svc' := by
  have hstandard : svc'.connections .standard
      = (svc.connections .standard).set i { c with session := t } := by
    rw [hconnections, Function.update_self]
  refine ⟨fun d hd => ?_, fun ip => ?_, fun ip => (hless ip).trans (h.bounded ip), ?_, ?_⟩
  · rw [hstandard] at hd
    rcases List.mem_or_eq_of_mem_set hd with hd | rfl
    · exact h.course d hd
    · exact hcourse
  · have hcount := Machine.countP_set_add hc { c with session := t } (holdsSlot ip)
    have hslots := h.slots ip
    have hact := hactive ip
    rw [hstandard]
    omega
  · have hcount := Machine.countP_set_add hc { c with session := t } isCounted
    have hcounted := h.total
    rw [hstandard]
    omega
  · rw [hconnections, Function.update_of_ne (by simp), h.noFront]

/-- **An accept completion** on the public listener keeps the balance. -/
theorem accept (h : Balanced config svc) (hserver : config.runType = .server)
    (hlimits : AbuseController.limitsConnections config.abuseControl = true) (now : ℤ)
    (e : Env) (handoff : Option ExternalFrontHandoff) (completion : AcceptCompletion) :
    Balanced config (svc.handleAcceptCompletion config now e .standard
      (create .standardTls handoff) completion).1 := by
  rcases completion with _ | _ | ⟨_ | endpoint, startFails⟩
  · exact h
  · exact h
  · exact h
  have hactive := active_evaluateIncomingConnection hserver hlimits now
    svc.abuseController endpoint
  show Balanced config (settle config now e
    { svc with
      abuseController := (evaluateIncomingConnection config now svc.abuseController endpoint).2 }
    .standard (create .standardTls handoff) endpoint startFails
    (evaluateIncomingConnection config now svc.abuseController endpoint).1)
  generalize evaluateIncomingConnection config now svc.abuseController endpoint = answer
    at hactive ⊢
  obtain ⟨decision, a⟩ := answer
  by_cases hd : decision = .startSession
  · subst hd
    obtain ⟨habuse, hsessions, hconnections⟩ :=
      settle_startSession hserver now { svc with abuseController := a } e .standard .standardTls
        handoff endpoint startFails
    obtain ⟨hcourse, hnone, -⟩ := connectionCourse_start e .standardTls handoff endpoint startFails
    refine h.adds _ hconnections (fun _ => hcourse) (fun ip => ?_) (fun ip => ?_) ?_
    · rw [habuse, (hactive ip).1]
      by_cases hip : endpoint.ip = ip
      · simp [holdsSlot, hip, hnone]
      · simp [holdsSlot, hip]
    · rw [habuse, (hactive ip).1]
      by_cases hip : endpoint.ip = ip
      · subst hip
        rw [if_pos ⟨rfl, rfl⟩]
        exact (hactive endpoint.ip).2 rfl
      · rw [if_neg (fun hc => hip hc.1)]
        exact h.bounded ip
    · rw [hsessions]
      simp [isCounted, hnone]
  · obtain ⟨habuse, hsessions, hconnections⟩ :=
      settle_of_ne hd config now { svc with abuseController := a } e .standard
        (create .standardTls handoff) endpoint startFails
    have hsame (ip : Bytes) : a.active ip = svc.abuseController.active ip := by
      rw [(hactive ip).1, if_neg (fun hc => hd hc.2), Nat.add_zero]
    refine h.adds _ hconnections (fun hc => absurd hc hd) (fun ip => ?_) (fun ip => ?_) ?_
    · rw [habuse, hsame]
      simp [holdsSlot, hd]
    · rw [habuse, hsame]
      exact h.bounded ip
    · rw [hsessions]
      simp [isCounted, hd]

/-- **A failed authentication** opens and closes no connection. -/
theorem authFailure (h : Balanced config svc) {i : ℕ} {c : Connection}
    (hc : (svc.connections .standard)[i]? = some c) (now : ℤ) (endpoint : TcpEndpoint) :
    Balanced config
      (svc.goesOn config now .standard i c (c.session.notes (.authFailure endpoint))) := by
  have hreleases : (c.session.notes (.authFailure endpoint)).releases = c.session.releases :=
    List.append_nil _
  have hactive (ip : Bytes) : (svc.goesOn config now .standard i c
      (c.session.notes (.authFailure endpoint))).abuseController.active ip
        = svc.abuseController.active ip := by
    show (serve _ _ svc c.session _).abuseController.active ip = _
    rw [serve_authFailure]
    exact AbuseController.active_recordAuthFailure svc.abuseController endpoint ip
  refine h.sets hc rfl (fun hd => ?_) (fun ip => ?_) (fun ip => (hactive ip).le) ?_
  · exact (h.course c (List.mem_of_getElem? hc) hd).authFailure endpoint
  · rw [hactive]
    simp only [holdsSlot, hreleases]
  · show (serve _ _ svc c.session _).runtimeMetrics.activeSessions + _ = _
    rw [serve_authFailure]
    simp only [isCounted, hreleases]
    rfl

/-- **A destruction** gives back the slot that the session holds, and a session
that holds none gives back nothing. -/
theorem destroy (h : Balanced config svc)
    (hlimits : AbuseController.limitsConnections config.abuseControl = true) {i : ℕ}
    {c : Connection} (hc : (svc.connections .standard)[i]? = some c)
    (hd : c.decision = .startSession) (now : ℤ) (e : Env) :
    Balanced config (svc.goesOn config now .standard i c (c.session.destroy e)) := by
  have hmem : c ∈ svc.connections .standard := List.mem_of_getElem? hc
  have hcourse := h.course c hmem hd
  obtain ⟨habuse, hsessions⟩ := serve_destroy config now svc e c.session
  cases hcourse with
  | held hs hflag hendpoint hnone =>
    rw [if_pos ⟨hs, hflag⟩, hendpoint] at habuse hsessions
    have hreleases : (c.session.destroy e).releases = [c.endpoint] := by
      rw [releases_destroy e hs, hnone, hflag, if_pos rfl, hendpoint]
      rfl
    have hactive (ip : Bytes) :
        (svc.goesOn config now .standard i c (c.session.destroy e)).abuseController.active ip
          = svc.abuseController.active ip - (if c.endpoint.ip = ip then 1 else 0) := by
      show (serve _ _ svc c.session _).abuseController.active ip = _
      rw [habuse]
      exact AbuseController.active_releaseConnectionSlot hlimits svc.abuseController c.endpoint ip
    -- the slot that is given back was counted
    have hheld : 0 < svc.abuseController.active c.endpoint.ip := by
      rw [h.slots]
      exact List.countP_pos_iff.mpr ⟨c, hmem, by simp [holdsSlot, hd, hnone]⟩
    have hcounted : 0 < svc.runtimeMetrics.activeSessions := by
      rw [h.total]
      exact List.countP_pos_iff.mpr ⟨c, hmem, by simp [isCounted, hd, hnone]⟩
    refine h.sets hc rfl (fun _ => (h.course c hmem hd).destroy e) (fun ip => ?_)
      (fun ip => ?_) ?_
    · rw [hactive]
      by_cases hip : c.endpoint.ip = ip
      · subst hip
        simp [holdsSlot, hd, hnone, hreleases]
        omega
      · simp [holdsSlot, hip]
    · rw [hactive]
      exact Nat.sub_le _ _
    · show (serve _ _ svc c.session _).runtimeMetrics.activeSessions + _ = _
      rw [hsessions, releaseConnectionSlot]
      simp [isCounted, hd, hnone, hreleases, hcounted]
      omega
  | returned hs _ | lost hs _ =>
    rw [if_neg (fun hc => hc.1 hs)] at habuse hsessions
    have hsame := destroy_of_destroy e c.session hs
    have hactive (ip : Bytes) :
        (svc.goesOn config now .standard i c (c.session.destroy e)).abuseController.active ip
          = svc.abuseController.active ip := by
      show (serve _ _ svc c.session _).abuseController.active ip = _
      rw [habuse]
    refine h.sets hc rfl (fun _ => (h.course c hmem hd).destroy e) (fun ip => ?_)
      (fun ip => (hactive ip).le) ?_
    · rw [hactive, hsame]
    · show (serve _ _ svc c.session _).runtimeMetrics.activeSessions + _ = _
      rw [hsessions, hsame]

/-- **A step of a service without a trusted front** keeps the balance. -/
theorem step (h : Balanced config svc) (hserver : config.runType = .server)
    (hlimits : AbuseController.limitsConnections config.abuseControl = true)
    (hfront : hasTrustedFrontListener config = false) {e : Event}
    (hstep : Service.step config env svc e = some svc') : Balanced config svc' := by
  have hempty (i : ℕ) : (svc.connections .trustedFront)[i]? = none := by
    rw [h.noFront]
    rfl
  cases e with
  | accept listener now handoff completion =>
    cases listener with
    | trustedFront =>
      rw [Service.step, if_pos ⟨rfl, hfront⟩] at hstep
      exact absurd hstep (by simp)
    | standard =>
      rw [step_accept_standard] at hstep
      obtain rfl := Option.some.inj hstep
      exact h.accept hserver hlimits now _ handoff completion
  | authFailure listener i now =>
    obtain ⟨c, hc, hrest⟩ := Option.bind_eq_some_iff.mp hstep
    cases listener with
    | trustedFront =>
      rw [hempty] at hc
      exact absurd hc (by simp)
    | standard =>
      split at hrest
      · obtain rfl := Option.some.inj hrest
        exact h.authFailure hc now _
      · exact absurd hrest (by simp)
  | destroy listener i now =>
    obtain ⟨c, hc, hrest⟩ := Option.bind_eq_some_iff.mp hstep
    cases listener with
    | trustedFront =>
      rw [hempty] at hc
      exact absurd hc (by simp)
    | standard =>
      split at hrest
      · rename_i hd
        obtain rfl := Option.some.inj hrest
        exact h.destroy hlimits hc hd now _
      · exact absurd hrest (by simp)

end Balanced

/-! ## The law of the slots -/

/-- **The slots are accounted for.** For each IP the controller counts the
sessions that were admitted from it and are not destroyed, and never more than
the limit; every session that was admitted and is destroyed has given back its
slot, once, and no other has; and the number of active sessions is the sum over
all IPs. -/
structure Accounted (config : Config) (svc : Service) : Prop where
  slots : ∀ ip, svc.abuseController.active ip = (svc.connections .standard).countP (isLive ip)
  returned : ∀ c ∈ svc.connections .standard, c.decision = .startSession →
    c.session.releases = if c.session.status = .destroy then [c.endpoint] else []
  bounded : ∀ ip, (svc.abuseController.active ip : ℤ) ≤ config.abuseControl.perIpMaxConnections
  total : svc.runtimeMetrics.activeSessions = ∑ᶠ ip, svc.abuseController.active ip

/-- No slot was lost in a start. -/
def Lossless (svc : Service) : Prop :=
  ∀ c ∈ svc.connections .standard, c.decision = .startSession → c.session.status = .destroy →
    c.session.releases ≠ []

/-- **The start of an admitted session does not fail**: its `remote_endpoint`
reports no error. -/
def startsCleanly (config : Config) (svc : Service) : Event → Prop
  | .accept .standard now _ (.accepted (some endpoint) true) =>
    (evaluateIncomingConnection config now svc.abuseController endpoint).1 ≠ .startSession
  | _ => True

/-- Counting by a key and adding up over the keys is counting. -/
theorem finsum_countP {α K : Type} [DecidableEq K] (key : α → K) (p : α → Bool) (l : List α) :
    ∑ᶠ k, l.countP (fun c => p c && key c = k) = l.countP p := by
  have hcount (k : K) : l.countP (fun c => p c && key c = k) = ((l.filter p).map key).count k := by
    rw [List.count, List.countP_map, List.countP_filter]
    refine List.countP_congr (fun c _ => ?_)
    simp [and_comm]
  have hsupport : Function.support (fun k => l.countP (fun c => p c && key c = k))
      ⊆ (((l.filter p).map key).toFinset : Set K) := by
    intro k hk
    rw [Function.mem_support, hcount] at hk
    exact List.mem_toFinset.mpr (List.count_pos_iff.mp (Nat.pos_of_ne_zero hk))
  rw [finsum_eq_sum_of_support_subset _ hsupport, Finset.sum_congr rfl (fun k _ => hcount k),
    List.sum_toFinset_count_eq_length, List.length_map, ← List.countP_eq_length_filter]

variable {config : Config} {env : Listener → ℕ → Env} {svc svc' : Service}

/-- **Where no slot was lost, the slots are accounted for.** -/
theorem Balanced.accounted (h : Balanced config svc) (hlossless : Lossless svc)
    (hmax : 0 < config.abuseControl.perIpMaxConnections) : Accounted config svc := by
  have hreleases (c : Connection) (hc : c ∈ svc.connections .standard)
      (hd : c.decision = .startSession) :
      c.session.releases = if c.session.status = .destroy then [c.endpoint] else [] := by
    cases h.course c hc hd with
    | held hs _ _ hr => rw [hr, if_neg hs]
    | returned hs hr => rw [hr, if_pos hs]
    | lost hs hr => exact absurd hr (hlossless c hc hd hs)
  refine ⟨fun ip => ?_, hreleases, fun ip => ?_, ?_⟩
  · rw [h.slots]
    refine List.countP_congr (fun c hc => ?_)
    by_cases hd : c.decision = .startSession
    · have hr := hreleases c hc hd
      by_cases hs : c.session.status = .destroy
      · rw [if_pos hs] at hr
        simp [holdsSlot, isLive, hs, hr]
      · rw [if_neg hs] at hr
        simp [holdsSlot, isLive, hs, hr]
    · simp [holdsSlot, isLive, hd]
  · have hle := h.bounded ip
    omega
  · rw [h.total, ← finsum_countP (fun c => c.endpoint.ip) isCounted]
    refine finsum_congr (fun ip => ?_)
    rw [h.slots]
    refine List.countP_congr (fun c _ => ?_)
    simp only [holdsSlot, isCounted, Bool.and_eq_true]
    tauto

/-- A connection whose session goes on loses no slot, if the session does
not. -/
theorem Lossless.sets (h : Lossless svc) {i : ℕ} {c : Connection} {t : ServerSession}
    (hconnections : svc'.connections .standard
      = (svc.connections .standard).set i { c with session := t })
    (ht : c.decision = .startSession → t.status = .destroy → t.releases ≠ []) :
    Lossless svc' := by
  intro d hmem hd hs
  rw [hconnections] at hmem
  rcases List.mem_or_eq_of_mem_set hmem with hmem | rfl
  · exact h d hmem hd hs
  · exact ht hd hs

/-- **A step in which no admitted session fails to start** loses no slot. -/
theorem Lossless.step (h : Lossless svc) (hb : Balanced config svc) {e : Event}
    (hclean : startsCleanly config svc e) (hserver : config.runType = .server)
    (hfront : hasTrustedFrontListener config = false)
    (hstep : Service.step config env svc e = some svc') : Lossless svc' := by
  have hempty (i : ℕ) : (svc.connections .trustedFront)[i]? = none := by
    rw [hb.noFront]
    rfl
  cases e with
  | accept listener now handoff completion =>
    cases listener with
    | trustedFront =>
      rw [Service.step, if_pos ⟨rfl, hfront⟩] at hstep
      exact absurd hstep (by simp)
    | standard =>
      rw [step_accept_standard] at hstep
      obtain rfl := Option.some.inj hstep
      rcases completion with _ | _ | ⟨_ | endpoint, startFails⟩
      · exact h
      · exact h
      · exact h
      · intro c hc hd hs
        have hnew := connections_accept hserver now svc
          (env .standard (svc.connections .standard).length) handoff endpoint startFails
        rw [hnew, Function.update_self] at hc
        rcases List.mem_append.mp hc with hc | hc
        · exact h c hc hd hs
        · -- the new session is destroyed only if its start failed
          obtain rfl := List.mem_singleton.mp hc
          change (evaluateIncomingConnection _ _ _ _).1 = _ at hd
          simp only [if_pos hd] at hs
          have hfails := (connectionCourse_start _ .standardTls handoff endpoint
            startFails).2.2.mp hs
          subst hfails
          exact absurd hd hclean
  | authFailure listener i now =>
    obtain ⟨c, hc, hrest⟩ := Option.bind_eq_some_iff.mp hstep
    cases listener with
    | trustedFront =>
      rw [hempty] at hc
      exact absurd hc (by simp)
    | standard =>
      split at hrest
      · rename_i hshake
        obtain rfl := Option.some.inj hrest
        refine h.sets (goesOn_connections config now svc .standard i c _) (fun _ hs => ?_)
        exact absurd (hshake.2.symm.trans hs) (by simp)
      · exact absurd hrest (by simp)
  | destroy listener i now =>
    obtain ⟨c, hc, hrest⟩ := Option.bind_eq_some_iff.mp hstep
    cases listener with
    | trustedFront =>
      rw [hempty] at hc
      exact absurd hc (by simp)
    | standard =>
      split at hrest
      · rename_i hd
        obtain rfl := Option.some.inj hrest
        have hmem : c ∈ svc.connections .standard := List.mem_of_getElem? hc
        refine h.sets (goesOn_connections config now svc .standard i c _) (fun _ _ => ?_)
        cases hb.course c hmem hd with
        | held hs hflag _ hr =>
          rw [releases_destroy _ hs, hflag]
          simp
        | returned hs hr =>
          rw [destroy_of_destroy _ _ hs, hr]
          simp
        | lost hs hr => exact absurd hr (h c hmem hd hs)
      · exact absurd hrest (by simp)

/-- A service before its first connection. -/
theorem balanced_init (config : Config) : Balanced config {} where
  course := fun _ hc => absurd hc List.not_mem_nil
  slots := fun _ => rfl
  bounded := fun _ => Nat.zero_le _
  total := rfl
  noFront := rfl

/-- **When the slots are accounted for.** Take a server that limits the
connections of an IP and has no trusted front, and any sequence of accept
completions, failed authentications and destructions. The slots are accounted
for in every state that it leads to exactly when no admitted session of it
fails to start. -/
theorem accounted_iff (hserver : config.runType = .server)
    (henabled : config.abuseControl.enabled = true)
    (hmax : 0 < config.abuseControl.perIpMaxConnections)
    (hfront : hasTrustedFrontListener config = false) (es : List Event) :
    Machine.Along (Service.step config env) (startsCleanly config) {} es
      ↔ ∀ svc, Machine.Visits (Service.step config env) {} es svc → Accounted config svc := by
  have hlimits : AbuseController.limitsConnections config.abuseControl = true := by
    rw [AbuseController.limitsConnections, henabled, Bool.true_and, decide_eq_true hmax]
  constructor
  · rintro hclean svc ⟨pre, hpre, hrun⟩
    have hinv : Balanced config svc ∧ Lossless svc := by
      refine Machine.run_invariant_along (P := fun svc => Balanced config svc ∧ Lossless svc)
        (fun s e t hs hC hst => ?_) ?_ (hclean.beginning hpre) hrun
      · exact ⟨hs.1.step hserver hlimits hfront hst, hs.2.step hs.1 hC hserver hfront hst⟩
      · exact ⟨balanced_init config, fun _ hc => absurd hc List.not_mem_nil⟩
    exact hinv.1.accounted hinv.2 hmax
  · intro hall
    refine Machine.along_iff.mpr (fun pre e hpre svc hrun => ?_)
    -- a session that fails to start is destroyed, and has given nothing back
    rcases e with ⟨_ | _, now, handoff, _ | _ | ⟨_ | endpoint, _ | _⟩⟩ | _ | _ <;> try trivial
    intro hd
    have hstep := step_accept_standard config env svc now handoff (.accepted (some endpoint) true)
    have hacc := hall _ ⟨_, hpre, Machine.run_concat.mpr ⟨svc, hrun, hstep⟩⟩
    have hnew := connections_accept hserver now svc
      (env .standard (svc.connections .standard).length) handoff endpoint true
    rw [if_pos hd] at hnew
    have hret := hacc.returned
    rw [hnew, Function.update_self] at hret
    have hlast := hret _ (List.mem_append_right _ List.mem_cons_self) hd
    obtain ⟨-, hnone, hstatus⟩ := connectionCourse_start
      (env .standard (svc.connections .standard).length) .standardTls handoff endpoint true
    exact absurd ((hnone.symm.trans hlast).trans (if_pos (hstatus.mpr rfl))) (by simp)

/-- A server that admits one connection for each IP. -/
def oneEachConfig : Config := { abuseControl := { perIpMaxConnections := 1 } }

/-- Its sessions need nothing of their environment here. -/
def plainEnv : Listener → ℕ → Env :=
  fun _ _ => { config := oneEachConfig, readJson := fun _ => none }

/-- A client comes, is refused a second connection, and leaves. -/
def guestEvents : List Event :=
  [.accept .standard 0 none (.accepted (some {}) false),
    .accept .standard 0 none (.accepted (some {}) false), .destroy .standard 0 0]

/-- The slot of a client that leaves is free again. -/
theorem accounted_of_guest :
    ∃ svc : Service, svc.connections .standard ≠ [] ∧ svc.abuseController.active [] = 0
      ∧ Accounted oneEachConfig svc := by
  have hclean : Machine.Along (Service.step oneEachConfig plainEnv) (startsCleanly oneEachConfig)
      {} guestEvents := ⟨trivial, fun _ _ => ⟨trivial, fun _ _ => ⟨trivial, fun _ _ => trivial⟩⟩⟩
  have hrun : (Machine.run (Service.step oneEachConfig plainEnv) {} guestEvents).any
      (fun svc => (svc.connections .standard).length = 2
        ∧ svc.abuseController.active [] = 0) = true := by
    decide +kernel
  obtain ⟨svc, hsvc, hall⟩ := Option.any_eq_true _ _ |>.mp hrun
  obtain ⟨hlength, hzero⟩ := of_decide_eq_true hall
  refine ⟨svc, fun hnil => ?_, hzero, ?_⟩
  · rw [hnil] at hlength
    exact absurd hlength (by simp)
  · exact (accounted_iff rfl rfl (by decide) rfl guestEvents).mp hclean svc
      ⟨guestEvents, List.prefix_rfl, hsvc⟩

/-- The slot of a session whose start fails is lost: nobody is there, and the
next client from the IP is refused. -/
theorem not_accounted_of_failed_start :
    ∃ svc, Machine.run (Service.step oneEachConfig plainEnv) {}
        [.accept .standard 0 none (.accepted (some {}) true),
          .accept .standard 0 none (.accepted (some {}) false)] = some svc
      ∧ svc.abuseController.active [] = 1
      ∧ (svc.connections .standard).countP (isLive []) = 0
      ∧ (svc.connections .standard).map (·.decision) = [.startSession, .rejectConnectionLimit]
      ∧ svc.runtimeMetrics.activeSessions = 1
      ∧ ¬ Accounted oneEachConfig svc := by
  have hrun : (Machine.run (Service.step oneEachConfig plainEnv) {}
      [.accept .standard 0 none (.accepted (some {}) true),
        .accept .standard 0 none (.accepted (some {}) false)]).any
      (fun svc => svc.abuseController.active [] = 1
        ∧ (svc.connections .standard).countP (isLive []) = 0
        ∧ (svc.connections .standard).map (·.decision) = [.startSession, .rejectConnectionLimit]
        ∧ svc.runtimeMetrics.activeSessions = 1) = true := by
    decide +kernel
  obtain ⟨svc, hsvc, hall⟩ := Option.any_eq_true _ _ |>.mp hrun
  obtain ⟨hactive, hlive, hdecisions, hsessions⟩ := of_decide_eq_true hall
  refine ⟨svc, hsvc, hactive, hlive, hdecisions, hsessions, fun hacc => ?_⟩
  have hslots := hacc.slots []
  rw [hactive, hlive] at hslots
  exact absurd hslots (by simp)

end Service
