import Trojan.Service

/-!
# The trusted front and the public listener

The sessions of the trusted front take no slot of the public listener, and the
public listener should not notice them: what it decides about a connection
should be what it would decide if the front and all its connections were not
there.

It does notice them. A session of the front sets the flag that permits the
release of a slot like any other, and so gives back, when it is destroyed, a
slot of its socket's IP that it never took; and a client of the front that
fails to authenticate is counted as a failure of that IP. What the public
listener decides is affected exactly through the entries of the controller's
table, and `Service.front_unnoticed_iff` says when it is not: when no such step
of the front changes the entry of an IP that public connections come from.
-/

namespace AbuseController

/-- **Two tables agree** on the entries of some IPs. -/
def AgreeOn (ips : List Bytes) (a a' : AbuseController) : Prop :=
  ∀ ip ∈ ips, a.perIp ip = a'.perIp ip

variable {ips : List Bytes} {a a' : AbuseController}

/-- What is done to an entry is done to it alone, and by what it is. -/
theorem AgreeOn.modify (h : AgreeOn ips a a') (ip : Bytes)
    (f : Option IpAbuseStats → Option IpAbuseStats) :
    AgreeOn ips (a.modify ip f) (a'.modify ip f) := by
  intro ip' hip'
  by_cases heq : ip' = ip
  · subst heq
    rw [perIp_modify_self, perIp_modify_self, h ip' hip']
  · rw [perIp_modify_of_ne f heq, perIp_modify_of_ne f heq, h ip' hip']

variable {config : AbuseControlConfig} {now : ℤ} {endpoint : TcpEndpoint}

theorem AgreeOn.releaseConnectionSlot (h : AgreeOn ips a a') :
    AgreeOn ips (a.releaseConnectionSlot config now endpoint)
      (a'.releaseConnectionSlot config now endpoint) := by
  unfold AbuseController.releaseConnectionSlot
  split
  · exact h
  · exact h.modify _ _

theorem AgreeOn.recordAuthFailure (h : AgreeOn ips a a') :
    AgreeOn ips (a.recordAuthFailure config now endpoint)
      (a'.recordAuthFailure config now endpoint) := by
  unfold AbuseController.recordAuthFailure
  split
  · exact h
  · exact h.modify _ _

/-- On an IP on which they agree, two tables decide alike. -/
theorem AgreeOn.isIpInCooldown (h : AgreeOn ips a a') (hip : endpoint.ip ∈ ips) :
    a.isIpInCooldown config now endpoint = a'.isIpInCooldown config now endpoint := by
  unfold AbuseController.isIpInCooldown
  rw [h _ hip]

theorem AgreeOn.tryAcquireConnectionSlot (h : AgreeOn ips a a') (hip : endpoint.ip ∈ ips)
    (config : AbuseControlConfig) :
    (a.tryAcquireConnectionSlot config endpoint).1 = (a'.tryAcquireConnectionSlot config endpoint).1
      ∧ AgreeOn ips (a.tryAcquireConnectionSlot config endpoint).2
        (a'.tryAcquireConnectionSlot config endpoint).2 := by
  unfold AbuseController.tryAcquireConnectionSlot
  split
  · exact ⟨rfl, h⟩
  · refine ⟨?_, h.modify endpoint.ip (fun entry => (acquireEntry config entry).2)⟩
    show (acquireEntry config (a.perIp endpoint.ip)).1 = _
    rw [h _ hip]

/-- A table is left alone exactly when the entry that is changed is. -/
theorem agreeOn_modify_iff {ip : Bytes} {f : Option IpAbuseStats → Option IpAbuseStats} :
    AgreeOn ips (a.modify ip f) a ↔ (ip ∈ ips → f (a.perIp ip) = a.perIp ip) := by
  refine ⟨fun h hip => ?_, fun h ip' hip' => ?_⟩
  · have hentry := h ip hip
    rwa [perIp_modify_self] at hentry
  · by_cases heq : ip' = ip
    · subst heq
      rw [perIp_modify_self, h hip']
    · rw [perIp_modify_of_ne f heq]

/-- **Which entries a release leaves alone**: none at all, or one without a
connection that is kept, because failures are counted or a cooldown runs. -/
theorem releaseEntry_eq_self_iff {entry : Option IpAbuseStats} :
    releaseEntry now entry = entry
      ↔ ∀ stats, entry = some stats → stats.activeConnections = 0
        ∧ (stats.authFailCount ≠ 0 ∨ now < stats.cooldownUntil) := by
  cases entry with
  | none => exact ⟨fun _ stats hstats => absurd hstats (by simp), fun _ => rfl⟩
  | some stats =>
    constructor
    · intro h stats' hstats'
      obtain rfl := Option.some.inj hstats'
      by_cases hpos : stats.activeConnections > 0
      · -- the entry has one connection less, or is gone
        rw [releaseEntry, if_pos hpos] at h
        dsimp only at h
        split at h
        · exact absurd h (by simp)
        · have hactive := congrArg IpAbuseStats.activeConnections (Option.some.inj h)
          change stats.activeConnections - 1 = stats.activeConnections at hactive
          omega
      · have hzero : stats.activeConnections = 0 := Nat.eq_zero_of_not_pos hpos
        rw [releaseEntry, if_neg hpos] at h
        split at h
        · exact absurd h (by simp)
        · rename_i hkept
          refine ⟨hzero, ?_⟩
          by_cases hcount : stats.authFailCount = 0
          · exact .inr (Int.not_le.mp (fun hle => hkept ⟨hzero, hcount, hle⟩))
          · exact .inl hcount
    · intro h
      obtain ⟨hzero, hkept⟩ := h stats rfl
      have hpos : ¬ stats.activeConnections > 0 := by omega
      rw [releaseEntry, if_neg hpos, if_neg]
      rintro ⟨-, hcount, hle⟩
      rcases hkept with hkept | hkept
      · exact hkept hcount
      · exact absurd hle (Int.not_le.mpr hkept)

theorem agreeOn_releaseConnectionSlot_iff :
    AgreeOn ips (a.releaseConnectionSlot config now endpoint) a
      ↔ (limitsConnections config = true → endpoint.ip ∈ ips →
        ∀ stats, a.perIp endpoint.ip = some stats → stats.activeConnections = 0
          ∧ (stats.authFailCount ≠ 0 ∨ now < stats.cooldownUntil)) := by
  unfold AbuseController.releaseConnectionSlot
  split
  · rename_i hoff
    exact ⟨fun _ hlimits => absurd hoff (limitsConnections_iff.mp hlimits), fun _ _ _ => rfl⟩
  · rename_i hon
    rw [agreeOn_modify_iff, releaseEntry_eq_self_iff]
    exact ⟨fun h _ => h, fun h => h (limitsConnections_iff.mpr hon)⟩

theorem agreeOn_recordAuthFailure_iff :
    AgreeOn ips (a.recordAuthFailure config now endpoint) a
      ↔ (recordsFailures config = true → endpoint.ip ∈ ips →
        recordEntry config now (a.perIp endpoint.ip) = a.perIp endpoint.ip) := by
  unfold AbuseController.recordAuthFailure
  split
  · rename_i hoff
    exact ⟨fun _ hrecords => absurd hoff (recordsFailures_iff.mp hrecords), fun _ _ _ => rfl⟩
  · rename_i hon
    rw [agreeOn_modify_iff]
    exact ⟨fun h _ => h, fun h => h (recordsFailures_iff.mpr hon)⟩

end AbuseController

namespace Service

open ServerSession AbuseController

/-- The decisions about the connections of the public listener, in order. -/
def decisions (svc : Service) : List AcceptDecision :=
  (svc.connections .standard).map (·.decision)

/-- The event concerns the public listener. -/
def Event.isPublic (e : Event) : Bool := e.listener = .standard

/-- The IP that an event shows a public connection to come from. -/
def Event.publicIp : Event → List Bytes
  | accept .standard _ _ (.accepted (some endpoint) _) => [endpoint.ip]
  | _ => []

/-- The IPs that the public connections of some events come from. -/
def publicIps (es : List Event) : List Bytes := es.flatMap Event.publicIp

/-- **A step spares some IPs.** If a session of the trusted front fails to
authenticate, or is destroyed while its flag is set, and its IP is one of them,
then nothing comes of it: the control is off; or there is no slot to give back,
and an entry that must be kept; or the failure is already in the entry. -/
def spares (config : Config) (ips : List Bytes) (svc : Service) : Event → Prop
  | .authFailure .trustedFront i now =>
    ∀ c, (svc.connections .trustedFront)[i]? = some c →
      recordsFailures config.abuseControl = true → c.session.inEndpoint.ip ∈ ips →
      recordEntry config.abuseControl now (svc.abuseController.perIp c.session.inEndpoint.ip)
        = svc.abuseController.perIp c.session.inEndpoint.ip
  | .destroy .trustedFront i now =>
    ∀ c, (svc.connections .trustedFront)[i]? = some c →
      c.session.status ≠ .destroy → c.session.connectionSlotAcquired = true →
      limitsConnections config.abuseControl = true → c.session.inEndpoint.ip ∈ ips →
      ∀ stats, svc.abuseController.perIp c.session.inEndpoint.ip = some stats →
        stats.activeConnections = 0 ∧ (stats.authFailCount ≠ 0 ∨ now < stats.cooldownUntil)
  | _ => True

/-- **Two services look alike to the public**: the same public connections, and
tables that agree on some IPs. -/
structure Alike (ips : List Bytes) (svc svc' : Service) : Prop where
  connections : svc.connections .standard = svc'.connections .standard
  agree : AgreeOn ips svc.abuseController svc'.abuseController

variable {config : Config} {env : Listener → ℕ → Env} {ips : List Bytes}
  {svc svc' t : Service}

/-- Where the tables agree on its IP, a connection is decided about alike. -/
theorem agreeOn_evaluateIncomingConnection {a a' : AbuseController} {endpoint : TcpEndpoint}
    (h : AgreeOn ips a a') (hip : endpoint.ip ∈ ips) (config : Config) (now : ℤ) :
    (evaluateIncomingConnection config now a endpoint).1
        = (evaluateIncomingConnection config now a' endpoint).1
      ∧ AgreeOn ips (evaluateIncomingConnection config now a endpoint).2
        (evaluateIncomingConnection config now a' endpoint).2 := by
  unfold evaluateIncomingConnection
  split
  · exact ⟨rfl, h⟩
  · rw [h.isIpInCooldown hip]
    split
    · exact ⟨rfl, h⟩
    · obtain ⟨hanswer, hagree⟩ := h.tryAcquireConnectionSlot hip config.abuseControl
      generalize AbuseController.tryAcquireConnectionSlot config.abuseControl a endpoint = answer,
        AbuseController.tryAcquireConnectionSlot config.abuseControl a' endpoint = answer'
        at hanswer hagree ⊢
      obtain ⟨granted, b⟩ := answer
      obtain ⟨granted', b'⟩ := answer'
      obtain rfl : granted = granted' := hanswer
      cases granted with
      | true => exact ⟨rfl, hagree⟩
      | false => exact ⟨rfl, hagree⟩

/-- **A step of the public listener** is the same step in both services. -/
theorem Alike.step_public (h : Alike ips svc svc') (hserver : config.runType = .server)
    {e : Event} (hpublic : e.isPublic = true) (hips : ∀ ip ∈ e.publicIp, ip ∈ ips)
    (hstep : step config env svc e = some t) :
    ∃ t', step config env svc' e = some t' ∧ Alike ips t t' := by
  cases e with
  | accept listener now handoff completion =>
    obtain rfl : listener = .standard := of_decide_eq_true hpublic
    rw [step_accept_standard] at hstep
    obtain rfl := Option.some.inj hstep
    refine ⟨_, step_accept_standard config env svc' now handoff completion, ?_⟩
    rw [h.connections]
    rcases completion with _ | _ | ⟨_ | endpoint, startFails⟩
    · exact h
    · exact h
    · exact h
    · obtain ⟨hdecision, hagree⟩ := agreeOn_evaluateIncomingConnection h.agree
        (hips endpoint.ip List.mem_cons_self) config now
      refine ⟨?_, ?_⟩
      · rw [connections_accept hserver, connections_accept hserver, Function.update_self,
          Function.update_self, hdecision, h.connections]
      · rw [abuseController_accept hserver, abuseController_accept hserver]
        exact hagree
  | authFailure listener i now =>
    obtain rfl : listener = .standard := of_decide_eq_true hpublic
    obtain ⟨c, hc, hrest⟩ := Option.bind_eq_some_iff.mp hstep
    split at hrest
    · rename_i hshake
      obtain rfl := Option.some.inj hrest
      rw [h.connections] at hc
      refine ⟨svc'.goesOn config now .standard i c _, Option.bind_eq_some_iff.mpr
        ⟨c, hc, if_pos hshake⟩, ?_, ?_⟩
      · rw [goesOn_connections, goesOn_connections, h.connections]
      · rw [abuseController_goesOn, abuseController_goesOn, serve_authFailure,
          serve_authFailure]
        exact h.agree.recordAuthFailure
    · exact absurd hrest (by simp)
  | destroy listener i now =>
    obtain rfl : listener = .standard := of_decide_eq_true hpublic
    obtain ⟨c, hc, hrest⟩ := Option.bind_eq_some_iff.mp hstep
    split at hrest
    · rename_i hd
      obtain rfl := Option.some.inj hrest
      rw [h.connections] at hc
      refine ⟨svc'.goesOn config now .standard i c _, Option.bind_eq_some_iff.mpr
        ⟨c, hc, if_pos hd⟩, ?_, ?_⟩
      · rw [goesOn_connections, goesOn_connections, h.connections]
      · rw [abuseController_goesOn, abuseController_goesOn, (serve_destroy _ _ _ _ _).1,
          (serve_destroy _ _ _ _ _).1]
        split
        · exact h.agree.releaseConnectionSlot
        · exact h.agree
    · exact absurd hrest (by simp)

/-- **A step of the trusted front** leaves the public connections as they are,
and it leaves the table alone exactly when it spares the IPs. -/
theorem step_trustedFront (hserver : config.runType = .server) {e : Event}
    (hfront : e.isPublic = false) (hstep : step config env svc e = some t) :
    t.connections .standard = svc.connections .standard
      ∧ (AgreeOn ips t.abuseController svc.abuseController ↔ spares config ips svc e) := by
  have hlistener : e.listener = .trustedFront := by
    cases hl : e.listener with
    | standard => simp [Event.isPublic, hl] at hfront
    | trustedFront => rfl
  cases e with
  | accept listener now handoff completion =>
    obtain rfl : listener = .trustedFront := hlistener
    rw [step] at hstep
    split at hstep
    · exact absurd hstep (by simp)
    · obtain rfl := Option.some.inj hstep
      obtain ⟨habuse, hconnections⟩ := accept_trustedFront hserver now svc
        (env .trustedFront (svc.connections .trustedFront).length) handoff completion
      refine ⟨hconnections, ?_⟩
      rw [habuse]
      exact ⟨fun _ => trivial, fun _ _ _ => rfl⟩
  | authFailure listener i now =>
    obtain rfl : listener = .trustedFront := hlistener
    obtain ⟨c, hc, hrest⟩ := Option.bind_eq_some_iff.mp hstep
    split at hrest
    · obtain rfl := Option.some.inj hrest
      refine ⟨goesOn_connections_of_ne config now svc (by simp) i c _, ?_⟩
      rw [abuseController_goesOn, serve_authFailure]
      refine agreeOn_recordAuthFailure_iff.trans ⟨fun h c' hc' => ?_, fun h => h c hc⟩
      obtain rfl := Option.some.inj (hc.symm.trans hc')
      exact h
    · exact absurd hrest (by simp)
  | destroy listener i now =>
    obtain rfl : listener = .trustedFront := hlistener
    obtain ⟨c, hc, hrest⟩ := Option.bind_eq_some_iff.mp hstep
    split at hrest
    · obtain rfl := Option.some.inj hrest
      refine ⟨goesOn_connections_of_ne config now svc (by simp) i c _, ?_⟩
      rw [abuseController_goesOn, (serve_destroy _ _ _ _ _).1]
      split
      · rename_i hheld
        refine agreeOn_releaseConnectionSlot_iff.trans ⟨fun h c' hc' => ?_, fun h => ?_⟩
        · obtain rfl := Option.some.inj (hc.symm.trans hc')
          exact fun _ _ => h
        · exact h c hc hheld.1 hheld.2
      · rename_i hnone
        refine ⟨fun _ c' hc' hs hflag => ?_, fun _ _ _ => rfl⟩
        obtain rfl := Option.some.inj (hc.symm.trans hc')
        exact absurd ⟨hs, hflag⟩ hnone
    · exact absurd hrest (by simp)

/-- The public listener spares every IP. -/
theorem spares_of_isPublic {e : Event} (h : e.isPublic = true) : spares config ips svc e := by
  rcases e with ⟨_ | _, now, handoff, completion⟩ | ⟨_ | _, i, now⟩ | ⟨_ | _, i, now⟩ <;> trivial

/-- **When the public listener does not notice the trusted front.** Take any
run of a server. The public connections are decided about as in the run without
the front's events, and the entries of their IPs are the same there, in every
state of the run, exactly when every step of the front spares the IPs that
public connections come from: it releases no slot of such an IP and records no
failed authentication of one, or changes nothing in doing so. -/
theorem front_unnoticed_iff (hserver : config.runType = .server) {es : List Event}
    (hrun : Machine.run (step config env) {} es = some t) :
    Machine.Along (step config env) (spares config (publicIps es)) {} es
      ↔ ∀ pre svc, pre <+: es → Machine.run (step config env) {} pre = some svc →
        ∃ svc', Machine.run (step config env) {} (pre.filter Event.isPublic) = some svc'
          ∧ svc.decisions = svc'.decisions
          ∧ ∀ ip ∈ publicIps es,
            svc.abuseController.perIp ip = svc'.abuseController.perIp ip := by
  have hips : ∀ e ∈ es, ∀ ip ∈ e.publicIp, ip ∈ publicIps es :=
    fun e he ip hip => List.mem_flatMap.mpr ⟨e, he, hip⟩
  constructor
  · intro hspares pre svc hpre hsvc
    have halong := Machine.along_and_of_forall (hspares.beginning hpre)
      (fun e he => hips e (hpre.subset he))
    have hkept (s s' : Service) (e : Event) (u : Service) (hR : Alike (publicIps es) s s')
        (hC : spares config (publicIps es) s e ∧ ∀ ip ∈ e.publicIp, ip ∈ publicIps es)
        (hkeep : e.isPublic = true) (hstep : step config env s e = some u) :
        ∃ u', step config env s' e = some u' ∧ Alike (publicIps es) u u' :=
      hR.step_public hserver hkeep hC.2 hstep
    have hdeleted (s s' : Service) (e : Event) (u : Service) (hR : Alike (publicIps es) s s')
        (hC : spares config (publicIps es) s e ∧ ∀ ip ∈ e.publicIp, ip ∈ publicIps es)
        (hkeep : e.isPublic = false) (hstep : step config env s e = some u) :
        Alike (publicIps es) u s' := by
      obtain ⟨hconnections, hagree⟩ := step_trustedFront hserver hkeep hstep
      refine ⟨hconnections.trans hR.connections, fun ip hip => ?_⟩
      exact (hagree.mpr hC.1 ip hip).trans (hR.agree ip hip)
    obtain ⟨svc', hsvc', halike⟩ := Machine.run_filter hkept hdeleted ⟨rfl, fun _ _ => rfl⟩
      halong hsvc
    refine ⟨svc', hsvc', ?_, halike.agree⟩
    rw [decisions, halike.connections, decisions]
  · intro hall
    refine Machine.along_iff.mpr (fun pre e hpre svc hsvc => ?_)
    cases hpublic : e.isPublic with
    | true => exact spares_of_isPublic hpublic
    | false =>
      -- before and after the step, the other run is at the same place
      obtain ⟨u, hu⟩ := Machine.exists_run_of_beginning hrun hpre
      obtain ⟨svc₁, hsvc₁, hstep⟩ := Machine.run_concat.mp hu
      obtain rfl := Option.some.inj (hsvc.symm.trans hsvc₁)
      obtain ⟨svc', hsvc', -, hbefore⟩ := hall pre svc
        ((List.prefix_append pre [e]).trans hpre) hsvc
      obtain ⟨svc'', hsvc'', -, hafter⟩ := hall _ u hpre hu
      rw [List.filter_append, List.filter_cons_of_neg (by simp [hpublic]), List.filter_nil,
        List.append_nil] at hsvc''
      obtain rfl := Option.some.inj (hsvc'.symm.trans hsvc'')
      refine (step_trustedFront hserver hpublic hstep).2.mp (fun ip hip => ?_)
      rw [hafter ip hip, hbefore ip hip]

/-- A server with a trusted front that admits one public connection for each
IP. -/
def frontConfig : Config :=
  { abuseControl := { perIpMaxConnections := 1 }
    externalFront := { enabled := true, enableTrustedFrontListener := true } }

/-- Its sessions need nothing of their environment here. -/
def frontEnv : Listener → ℕ → Env :=
  fun _ _ => { config := frontConfig, readJson := fun _ => none }

/-- Where the front runs. -/
def loopback : TcpEndpoint := { ip := ascii "127.0.0.1", isLoopback := true }

/-- A client of the public listener comes from the given endpoint, a client of
the front comes and goes, and another one comes to the public listener. -/
def visitEvents (endpoint : TcpEndpoint) : List Event :=
  [.accept .standard 0 none (.accepted (some endpoint) false),
    .accept .trustedFront 0 none (.accepted (some loopback) false),
    .authFailure .trustedFront 0 0, .destroy .trustedFront 0 0,
    .accept .standard 0 none (.accepted (some endpoint) false)]

/-- The front is not noticed by clients from elsewhere. -/
theorem front_unnoticed_elsewhere :
    ∃ svc svc' : Service, svc.connections .trustedFront ≠ []
      ∧ svc'.connections .trustedFront = []
      ∧ svc.decisions = [.startSession, .rejectConnectionLimit]
      ∧ svc.decisions = svc'.decisions := by
  have hspares : Machine.Along (step frontConfig frontEnv)
      (spares frontConfig (publicIps (visitEvents {}))) {} (visitEvents {}) := by
    refine ⟨trivial, fun t₁ h₁ => ⟨trivial, fun t₂ h₂ => ⟨fun c hc _ hip => ?_, fun t₃ h₃ =>
      ⟨fun c hc _ _ _ hip _ _ => ?_, fun _ _ => ⟨trivial, fun _ _ => trivial⟩⟩⟩⟩⟩
    · have hfar : ((Machine.run (step frontConfig frontEnv) {} ((visitEvents {}).take 2)).bind
          (fun svc => (svc.connections .trustedFront)[0]?)).all
          (fun c => c.session.inEndpoint.ip ∉ publicIps (visitEvents {})) = true := by
        decide +kernel
      have hrun : Machine.run (step frontConfig frontEnv) {} ((visitEvents {}).take 2) = some t₂ :=
        Machine.run_cons.mpr ⟨t₁, h₁, Machine.run_cons.mpr ⟨t₂, h₂, rfl⟩⟩
      rw [hrun, Option.bind_some, hc] at hfar
      exact absurd hip (of_decide_eq_true hfar)
    · have hfar : ((Machine.run (step frontConfig frontEnv) {} ((visitEvents {}).take 3)).bind
          (fun svc => (svc.connections .trustedFront)[0]?)).all
          (fun c => c.session.inEndpoint.ip ∉ publicIps (visitEvents {})) = true := by
        decide +kernel
      have hrun : Machine.run (step frontConfig frontEnv) {} ((visitEvents {}).take 3) = some t₃ :=
        Machine.run_cons.mpr ⟨t₁, h₁, Machine.run_cons.mpr ⟨t₂, h₂,
          Machine.run_cons.mpr ⟨t₃, h₃, rfl⟩⟩⟩
      rw [hrun, Option.bind_some, hc] at hfar
      exact absurd hip (of_decide_eq_true hfar)
  have hrun : (Machine.run (step frontConfig frontEnv) {} (visitEvents {})).any
      (fun svc => (svc.connections .trustedFront).length = 1
        ∧ svc.decisions = [.startSession, .rejectConnectionLimit]) = true := by
    decide +kernel
  obtain ⟨svc, hsvc, hall⟩ := Option.any_eq_true _ _ |>.mp hrun
  obtain ⟨hlength, hdecisions⟩ := of_decide_eq_true hall
  obtain ⟨svc', hsvc', hsame, -⟩ := (front_unnoticed_iff rfl hsvc).mp hspares _ svc
    List.prefix_rfl hsvc
  refine ⟨svc, svc', fun hnil => ?_, ?_, hdecisions, hsame⟩
  · rw [hnil] at hlength
    exact absurd hlength (by simp)
  · have halone : (Machine.run (step frontConfig frontEnv) {}
        ((visitEvents {}).filter Event.isPublic)).all
        (fun svc => (svc.connections .trustedFront).length = 0) = true := by
      decide +kernel
    rw [hsvc'] at halone
    exact List.length_eq_zero_iff.mp (of_decide_eq_true halone)

/-- A client of the front, gone, has freed the slot of a public connection from
the front's own IP: a second one is admitted there, which without the front is
refused. -/
theorem front_noticed_on_loopback :
    ∃ svc svc' : Service,
      Machine.run (step frontConfig frontEnv) {} (visitEvents loopback) = some svc
      ∧ Machine.run (step frontConfig frontEnv) {}
        ((visitEvents loopback).filter Event.isPublic) = some svc'
      ∧ svc.decisions = [.startSession, .startSession]
      ∧ svc'.decisions = [.startSession, .rejectConnectionLimit] := by
  have hwith : (Machine.run (step frontConfig frontEnv) {} (visitEvents loopback)).any
      (fun svc => svc.decisions = [.startSession, .startSession]) = true := by
    decide +kernel
  have hwithout : (Machine.run (step frontConfig frontEnv) {}
      ((visitEvents loopback).filter Event.isPublic)).any
      (fun svc => svc.decisions = [.startSession, .rejectConnectionLimit]) = true := by
    decide +kernel
  obtain ⟨svc, hsvc, hd⟩ := Option.any_eq_true _ _ |>.mp hwith
  obtain ⟨svc', hsvc', hd'⟩ := Option.any_eq_true _ _ |>.mp hwithout
  exact ⟨svc, svc', hsvc, hsvc', of_decide_eq_true hd, of_decide_eq_true hd'⟩

end Service
