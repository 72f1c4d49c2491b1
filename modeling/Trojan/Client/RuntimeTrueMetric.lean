import Trojan.Client.ReportedSteps

/-!
# Evidence of an earlier connect

A metric counts the session of a profile as runtime true if the status is connected and
the evidence begins with a record that is. The evidence is that of the last mini smoke
that gave any, and is kept when the next connect begins. Until the mini smoke of that
connect is over the controller has evidence of another connect, perhaps of another
profile; and the listeners are notified meanwhile, when the connect is accepted and
each time the watcher finds something new.

`metrics_backed_iff` says when each such event rests on the evidence of its own connect:
exactly when no session is found ready before its mini smoke is over, while there is
runtime true evidence from before.
-/

/-- **An event rests on the evidence of its own connect**: the connect that was accepted
last is of the profile, its mini smoke is over, and the evidence it gave begins with a
record that is runtime true. -/
def CapturedUxEvent.Backed (x : CapturedUxEvent) : Prop :=
  x.event.name = .runtimeSessionReadyRuntimeTrue →
    ∃ connect, x.connect = some connect ∧ connect.profileId = x.event.userId ∧
      x.probed = some connect ∧ ∃ record ∈ x.evidence.head?, record.runtimePosture = .runtimeTrue

namespace AdapterBackedClientController

variable {c : AdapterBackedClientController}

/-- The watcher leaves a session only if it is running, and then with its profile. It is
connected if it was, or if it is found ready. -/
theorem live_reconcile (h : c.reconcileStatusWithSession.phase.live = true) :
    c.status.phase.live = true ∧
      c.reconcileStatusWithSession.activeProfileId = c.status.activeProfileId ∧
      (c.reconcileStatusWithSession.phase = .connected → c.status.phase = .connected ∨
        (c.adapter.isRunning = true ∧ c.status.phase = .connecting ∧
          c.adapter.runtimePhase = .sessionReady)) := by
  unfold reconcileStatusWithSession at h ⊢
  by_cases hrunning : c.adapter.isRunning = true
  · rw [if_pos hrunning] at h ⊢
    split
    · rename_i hready
      refine ⟨by rw [hready.1]; rfl, rfl, fun _ => .inr ⟨hrunning, hready.1, hready.2⟩⟩
    · rename_i hready
      rw [if_neg hready] at h
      exact ⟨h, rfl, .inl⟩
  · exfalso
    rw [if_neg hrunning] at h
    unfold endedStatus at h
    cases hphase : c.status.phase with
    | disconnected | error =>
      rw [hphase] at h
      simp [hphase, ClientConnectionPhase.live] at h
    | disconnecting => simp [hphase, ClientConnectionPhase.live] at h
    | connected | connecting =>
      simp only [hphase, reduceCtorEq, if_false] at h
      split at h
      · exact nomatch h
      · split at h
        · exact nomatch h
        · exact nomatch h

end AdapterBackedClientController

namespace ReportingController

variable {platform : ReportPlatform} {s t : ReportingController} {e : ReportingEvent}

/-- **The law of the metric**: every event rests on the evidence of its own connect. -/
def MetricsBacked (s : ReportingController) : Prop := ∀ x ∈ s.uxEvents, x.Backed

/-- The evidence begins with a record that is runtime true. -/
def evidenceTrue (s : ReportingController) : Bool :=
  s.latestRoutingProbeEvidence.head?.any RoutingProbeEvidenceRecord.isRuntimeTrueDataplane

/-- A session of the profile is counted, if its status is connected. -/
def counts (s : ReportingController) (profileId : Text) : Bool :=
  !s.disposed && !profileId.trim.isEmpty && s.evidenceTrue

/-- A session is found ready before the mini smoke of its connect is over, while there is
runtime true evidence from before: when the connect is accepted, or by the watcher. -/
def readyTooSoon (platform : ReportPlatform) (s : ReportingController) (e : ReportingEvent) :
    Bool :=
  match e with
  | .controller .adapterAnswered =>
    match s.controller.operation with
    | some (.launching profile launch) =>
      decide (s.controller.adapter.launches[launch]?.map Launch.stage = some .started) &&
        decide (s.controller.acceptedPhaseForConnect platform.toRuntimePlatform = .connected) &&
        s.counts profile.id
    | _ => false
  | .controller .watcherTick =>
    s.updated && s.controller.adapter.isRunning &&
      decide (s.controller.status.phase = .connecting) &&
      decide (s.controller.adapter.runtimePhase = .sessionReady) &&
      decide (s.probed ≠ s.accepted) &&
      s.controller.status.activeProfileId.any s.counts
  | _ => false

/-! ## Taking the metrics -/

theorem runtimePosture_eq_true :
    s.runtimePosture platform = .runtimeTrue ↔ s.evidenceTrue = true := by
  unfold runtimePosture evidenceTrue
  cases s.latestRoutingProbeEvidence with
  | nil =>
    simp only [List.head?_nil, Option.any_none, Bool.false_eq_true, iff_false]
    split
    · exact nofun
    · exact nofun
  | cons record rest =>
    exact (decide_eq_true_iff (p := record.runtimePosture = .runtimeTrue)).symm

/-- What is known of a session between two steps: it is of the connect that was accepted
last, and if it is counted the evidence is of that connect too. -/
structure SessionProbed (s : ReportingController) : Prop where
  bounded : ∀ connect, s.probed = some connect → connect.number ≤ s.acceptedCount
  session : s.controller.status.phase.live = true → ∃ connect, s.accepted = some connect ∧
    s.controller.status.activeProfileId = some connect.profileId
  probed : s.controller.status.phase = .connected →
    ∀ profileId, s.controller.status.activeProfileId = some profileId →
      s.counts profileId = true → s.probed = s.accepted

/-- The metrics of a session that is probed are backed. -/
theorem SessionProbed.notify (h : s.SessionProbed) (hbacked : s.MetricsBacked) :
    (s.notifyIfActive platform).MetricsBacked := by
  intro x hx
  unfold notifyIfActive at hx
  dsimp only at hx
  split at hx
  · exact hbacked x hx
  · rename_i hdisposed
    rcases List.mem_append.mp hx with hx | hx
    · exact hbacked x hx
    · obtain ⟨event, hevent, rfl⟩ := List.mem_map.mp hx
      intro hname
      unfold uxEventsFromStatus at hevent
      split at hevent
      · exact nomatch hevent
      · rename_i profileId hactive
        split at hevent
        · exact nomatch hevent
        · rename_i hid
          obtain ⟨hphase, hposture, huser⟩ := mem_fromConnectionSnapshot hevent hname
          have htrue := runtimePosture_eq_true.mp hposture
          obtain ⟨connect, haccepted, hprofile⟩ := h.session (by rw [hphase]; rfl)
          have hprobed := h.probed hphase profileId hactive (by simp [counts, *])
          refine ⟨connect, haccepted, ?_, hprobed.trans haccepted, ?_⟩
          · rw [huser]
            exact (Option.some.inj (hactive.symm.trans hprofile)).symm
          · obtain ⟨record, hrecord, htrue⟩ := (Option.any_eq_true _ _).mp htrue
            exact ⟨record, hrecord, of_decide_eq_true htrue⟩

/-- The metrics of a session that is counted are not, if the evidence is not of its
connect. -/
theorem not_backed_notify {profileId : Text} (hphase : s.controller.status.phase = .connected)
    (hactive : s.controller.status.activeProfileId = some profileId)
    (hcounts : s.counts profileId = true) (hprobed : s.probed ≠ s.accepted) :
    ¬ (s.notifyIfActive platform).MetricsBacked := by
  simp only [counts, Bool.and_eq_true, Bool.not_eq_true'] at hcounts
  obtain ⟨⟨hdisposed, hid⟩, htrue⟩ := hcounts
  intro h
  have hmem : ∃ event : UxEvent, event.name = .runtimeSessionReadyRuntimeTrue ∧
      { event := event, connect := s.accepted, evidence := s.latestRoutingProbeEvidence,
        probed := s.probed } ∈ (s.notifyIfActive platform).uxEvents := by
    refine ⟨⟨profileId, profileId, .runtimeSessionReadyRuntimeTrue, s.journal.statusUpdatedAt,
      [("runtimePosture", "runtime_true")]⟩, rfl, ?_⟩
    simp [notifyIfActive, hdisposed, uxEventsFromStatus, hactive, hid, hphase,
      fromConnectionSnapshot, runtimePosture_eq_true.mpr htrue]
  obtain ⟨event, hname, hmem⟩ := hmem
  obtain ⟨connect, hconnect, -, hprobed', -⟩ := h _ hmem hname
  exact hprobed (hprobed'.trans hconnect.symm)

/-! ## Steps -/

theorem counts_of_keeps (h : s.Keeps t) (profileId : Text) :
    t.counts profileId = s.counts profileId := by
  rw [counts, counts, evidenceTrue, evidenceTrue, h.disposed, h.evidence]

/-- A calm step leaves what is known of a session. -/
theorem SessionProbed.of_calm (h : s.SessionProbed) (hkeeps : s.Keeps t)
    (hcalm : s.controller.Calm t.controller) : t.SessionProbed := by
  refine ⟨fun connect hconnect => ?_, fun hlive => ?_, fun hphase profileId hactive hcounts => ?_⟩
  · rw [acceptedCount, hkeeps.accepted]
    exact h.bounded connect (hkeeps.probed ▸ hconnect)
  · obtain ⟨hphase, hactive⟩ := hcalm.session hlive
    rw [hkeeps.accepted, hactive]
    exact h.session (hphase ▸ hlive)
  · obtain ⟨hphase', hactive'⟩ := hcalm.session (by rw [hphase]; rfl)
    rw [hkeeps.probed, hkeeps.accepted]
    exact h.probed (hphase'.symm.trans hphase) profileId (hactive' ▸ hactive)
      (counts_of_keeps hkeeps profileId ▸ hcounts)

theorem metricsBacked_of_eq (h : s.MetricsBacked) (hux : t.uxEvents = s.uxEvents) :
    t.MetricsBacked := by
  rw [MetricsBacked, hux]
  exact h

/-- The controller when a connect has been accepted, and before the listeners are
notified. -/
theorem acceptConnect_eq (profile : ClientProfile) (launch : ℕ) (result : CommandReport) :
    ∃ u : ReportingController,
      s.acceptConnect platform profile launch result = u.notifyIfActive platform ∧
      u.controller = s.controller.acceptConnect platform.toRuntimePlatform profile launch ∧
      u.accepted = some ⟨s.acceptedCount + 1, profile.id⟩ ∧ u.probed = s.probed ∧
      u.uxEvents = s.uxEvents ∧ ∀ profileId, u.counts profileId = s.counts profileId :=
  ⟨_, rfl, rfl, rfl, rfl, rfl, fun _ => rfl⟩

/-- **What the acceptance of a connect does to the metrics.** -/
theorem backed_acceptConnect (h : s.SessionProbed) (hbacked : s.MetricsBacked)
    {profile : ClientProfile} {launch : ℕ} (result : CommandReport)
    (hop : s.controller.operation = some (.launching profile launch))
    (hstarted : s.controller.adapter.launches[launch]?.map Launch.stage = some .started) :
    if s.readyTooSoon platform (.controller .adapterAnswered) then
      ¬ (s.acceptConnect platform profile launch result).MetricsBacked
    else (s.acceptConnect platform profile launch result).SessionProbed ∧
      (s.acceptConnect platform profile launch result).MetricsBacked := by
  obtain ⟨u, hu, hcontroller, haccepted, hprobed, hux, hcounts⟩ :=
    @acceptConnect_eq platform s profile launch result
  have hphase : u.controller.status.phase
      = s.controller.acceptedPhaseForConnect platform.toRuntimePlatform := hcontroller ▸ rfl
  have hactive : u.controller.status.activeProfileId = some profile.id := hcontroller ▸ rfl
  rw [hu]
  split
  · rename_i hsoon
    simp only [readyTooSoon, hop, Bool.and_eq_true, decide_eq_true_eq] at hsoon
    refine not_backed_notify (hphase.trans hsoon.1.2) hactive ((hcounts _).trans hsoon.2) ?_
    intro heq
    rw [hprobed, haccepted] at heq
    exact absurd (h.bounded _ heq) (Nat.not_succ_le_self _)
  · rename_i hsoon
    have hknown : u.SessionProbed := by
      refine ⟨fun connect hconnect => ?_, fun _ => ⟨_, haccepted, hactive⟩,
        fun hconnected profileId hprofile hcount => absurd ?_ hsoon⟩
      · rw [acceptedCount, haccepted]
        exact (h.bounded connect (hprobed ▸ hconnect)).trans (Nat.le_succ _)
      · obtain rfl := Option.some.inj (hactive.symm.trans hprofile)
        simp only [readyTooSoon, hop, hstarted, decide_true, Bool.true_and, Bool.and_eq_true,
          decide_eq_true_eq]
        exact ⟨hphase.symm.trans hconnected, (hcounts _).symm.trans hcount⟩
    exact ⟨⟨hknown.bounded, hknown.session, hknown.probed⟩,
      hknown.notify (metricsBacked_of_eq hbacked hux)⟩

/-- **What the watcher does to the metrics.** -/
theorem backed_watch (h : s.SessionProbed) (hbacked : s.MetricsBacked) :
    if s.readyTooSoon platform (.controller .watcherTick) then
      ¬ (s.watch platform).MetricsBacked
    else (s.watch platform).SessionProbed ∧ (s.watch platform).MetricsBacked := by
  cases hupdated : s.updated with
  | false =>
    rw [watch_of_not_updated hupdated, if_neg (by simp [readyTooSoon, hupdated])]
    exact ⟨h, hbacked⟩
  | true =>
    obtain ⟨hkeeps, hux, -⟩ := @keeps_reconcile platform s
    have hstatus : (s.reconcileStatusWithSession platform).controller.status
        = s.controller.reconcileStatusWithSession := by
      rw [reconcile_controller, AdapterBackedClientController.watch,
        if_neg (of_decide_eq_true hupdated)]
    have hcounts := counts_of_keeps hkeeps
    rw [watch_of_updated hupdated]
    split
    · rename_i hsoon
      simp only [readyTooSoon, hupdated, Bool.true_and, Bool.and_eq_true,
        decide_eq_true_eq] at hsoon
      obtain ⟨⟨⟨⟨hrunning, hphase⟩, hready⟩, hprobed⟩, hactive⟩ := hsoon
      obtain ⟨profileId, hactive, hcount⟩ := (Option.any_eq_true _ _).mp hactive
      have hreconcile : s.controller.reconcileStatusWithSession
          = { s.controller.status with
              phase := .connected
              errorCode := none
              safeModeActive := false
              rollbackReason := none } := by
        rw [AdapterBackedClientController.reconcileStatusWithSession, if_pos hrunning,
          if_pos ⟨hphase, hready⟩]
      refine not_backed_notify ?_ ?_ ((hcounts profileId).trans hcount) ?_
      · rw [hstatus, hreconcile]
      · rw [hstatus, hreconcile]
        exact hactive
      · rw [hkeeps.probed, hkeeps.accepted]
        exact hprobed
    · rename_i hsoon
      have hknown : (s.reconcileStatusWithSession platform).SessionProbed := by
        refine ⟨fun connect hconnect => ?_, fun hlive => ?_,
          fun hphase profileId hactive hcount => ?_⟩
        · rw [acceptedCount, hkeeps.accepted]
          exact h.bounded connect (hkeeps.probed ▸ hconnect)
        · rw [hstatus] at hlive ⊢
          obtain ⟨hlive, hactive, -⟩ := AdapterBackedClientController.live_reconcile hlive
          rw [hkeeps.accepted, hactive]
          exact h.session hlive
        · rw [hstatus] at hphase hactive
          obtain ⟨-, hsame, hconnected⟩ := AdapterBackedClientController.live_reconcile
            (show s.controller.reconcileStatusWithSession.phase.live = true by rw [hphase]; rfl)
          rw [hsame] at hactive
          rw [hkeeps.probed, hkeeps.accepted]
          rcases hconnected hphase with hconnected | ⟨hrunning, hconnecting, hready⟩
          · exact h.probed hconnected profileId hactive ((hcounts profileId).symm.trans hcount)
          · by_contra hprobed
            refine hsoon ?_
            simp [readyTooSoon, hupdated, hrunning, hconnecting, hready, hprobed, hactive,
              (hcounts profileId).symm.trans hcount]
      exact ⟨⟨hknown.bounded, hknown.session, hknown.probed⟩,
        hknown.notify (metricsBacked_of_eq hbacked hux)⟩

theorem probed_continueSmoke (profile : ClientProfile) (launch : ℕ) (smoke : RoutingMiniSmoke) :
    (s.continueSmoke platform profile launch (some smoke)).probed = s.accepted := by
  simp only [ReportingController.continueSmoke]
  split
  · rfl
  · simp only [smokeFailed, attemptRollback]
    split
    · rfl
    · split
      · rfl
      · rfl

/-- A mini smoke that gives evidence gives that of its own connect. -/
theorem SessionProbed.continueSmoke (h : s.SessionProbed) {profile : ClientProfile} {launch : ℕ}
    (hop : s.controller.operation = some (.smoking profile launch))
    (smoke : Option RoutingMiniSmoke) :
    (s.continueSmoke platform profile launch smoke).SessionProbed := by
  cases smoke with
  | none =>
    exact h.of_calm ⟨rfl, rfl, rfl, rfl⟩ (AdapterBackedClientController.calm_of_status rfl rfl)
  | some smoke =>
    obtain ⟨-, haccepted, -, -⟩ := @keeps_continueSmoke platform s profile launch (some smoke)
    have hprobed := @probed_continueSmoke platform s profile launch smoke
    have hcalm : s.controller.Calm
        (s.continueSmoke platform profile launch (some smoke)).controller := by
      rw [continueSmoke_controller]
      exact AdapterBackedClientController.calm_continueSmoke hop _
    refine ⟨fun connect hconnect => ?_, fun hlive => ?_, fun _ _ _ _ => ?_⟩
    · rw [acceptedCount, haccepted, ← hprobed, hconnect]
      exact le_rfl
    · obtain ⟨hphase, hactive⟩ := hcalm.session hlive
      rw [haccepted, hactive]
      exact h.session (hphase ▸ hlive)
    · rw [hprobed, haccepted]

/-- The steps that find a session ready too soon. -/
theorem step_of_readyTooSoon (ht : s.step platform e = some t)
    (hsoon : s.readyTooSoon platform e = true) :
    (e = .controller .adapterAnswered ∧ ∃ profile launch result,
      s.controller.operation = some (.launching profile launch) ∧
      s.controller.adapter.launches[launch]?.map Launch.stage = some .started ∧
      t = s.acceptConnect platform profile launch result) ∨
    (e = .controller .watcherTick ∧ t = s.watch platform) := by
  unfold readyTooSoon at hsoon
  split at hsoon
  · split at hsoon
    · rename_i profile launch hop
      simp only [Bool.and_eq_true, decide_eq_true_eq] at hsoon
      obtain ⟨l, hl, hstage⟩ := Option.map_eq_some_iff.mp hsoon.1.1
      simp only [step, controllerStep, hop, Option.bind_some, continueAnswered, hl, hstage,
        Option.some.injEq] at ht
      exact .inl ⟨rfl, profile, launch, _, hop, hsoon.1.1, ht.symm⟩
    · cases hsoon
  · simp only [step, controllerStep] at ht
    split at ht
    · cases ht
    · exact .inr ⟨rfl, (Option.some.inj ht).symm⟩
  · cases hsoon

theorem not_backed_of_readyTooSoon (h : s.SessionProbed) (hbacked : s.MetricsBacked)
    (ht : s.step platform e = some t) (hsoon : s.readyTooSoon platform e = true) :
    ¬ t.MetricsBacked := by
  rcases step_of_readyTooSoon ht hsoon with
    ⟨rfl, profile, launch, result, hop, hstarted, rfl⟩ | ⟨rfl, rfl⟩
  · have hmetrics := @backed_acceptConnect platform s h hbacked profile launch result hop
      hstarted
    rwa [if_pos hsoon] at hmetrics
  · have hmetrics := @backed_watch platform s h hbacked
    rwa [if_pos hsoon] at hmetrics

/-- A step that does not find a session ready too soon. -/
theorem backed_step (h : s.SessionProbed) (hbacked : s.MetricsBacked)
    (ht : s.step platform e = some t) (hsoon : s.readyTooSoon platform e ≠ true) :
    t.SessionProbed ∧ t.MetricsBacked := by
  cases change_step ht with
  | said quiet calm =>
    exact ⟨h.of_calm quiet.toKeeps calm, metricsBacked_of_eq hbacked quiet.uxEvents⟩
  | recorded failure keeps failures uxEvents calm candidate =>
    exact ⟨h.of_calm keeps calm, metricsBacked_of_eq hbacked uxEvents⟩
  | notified keeps failures uxEvents calm status =>
    exact ⟨h.of_calm keeps calm, metricsBacked_of_eq (h.notify hbacked) uxEvents⟩
  | accepted profile launch result operation started =>
    have hmetrics := @backed_acceptConnect platform s h hbacked profile launch result
      operation started
    rwa [if_neg hsoon] at hmetrics
  | smoked profile launch smoke operation =>
    obtain ⟨-, -, -, hux⟩ := @keeps_continueSmoke platform s profile launch smoke
    exact ⟨h.continueSmoke operation smoke, metricsBacked_of_eq hbacked hux⟩
  | watched active =>
    have hmetrics := @backed_watch platform s h hbacked
    rwa [if_neg hsoon] at hmetrics
  | disposed => exact ⟨⟨h.bounded, h.session, fun _ _ _ hcounts => nomatch hcounts⟩, hbacked⟩

theorem sessionProbed_restarted (adapter : RealShellControllerAdapter) (stored : Option Json)
    (failure : Option LastRuntimeFailureSummary) :
    (restarted adapter stored failure).SessionProbed := by
  have hphase : (restarted adapter stored failure).controller.status.phase = .disconnected :=
    AdapterBackedClientController.restarted_phase adapter stored
  refine ⟨nofun, fun hlive => ?_, fun hconnected => ?_⟩
  · rw [hphase] at hlive
    exact nomatch hlive
  · exact nomatch hphase.symm.trans hconnected

/-- **When the metric rests on the evidence of its own connect**: all along a run exactly
when no session is found ready before its mini smoke is over, while there is runtime true
evidence from before. -/
theorem metrics_backed_iff (platform : ReportPlatform) (now : ℤ)
    (contents : Text → Option Text) (stored : Option Json)
    (failure : Option LastRuntimeFailureSummary) (es : List ReportingEvent)
    (u : ReportingController)
    (hrun : Machine.run (step platform) (restarted (.initial now contents) stored failure) es
      = some u) :
    (∀ s, Machine.Visits (step platform) (restarted (.initial now contents) stored failure) es s →
        s.MetricsBacked) ↔
      Machine.Along (step platform) (fun s e => s.readyTooSoon platform e = false)
        (restarted (.initial now contents) stored failure) es := by
  refine Machine.forall_visits_iff_along (I := SessionProbed) ?_ ?_ ?_ nofun hrun
  · intro s e t h hbacked ht hbacked'
    refine (backed_step h hbacked ht (fun hsoon => ?_)).1
    exact not_backed_of_readyTooSoon h hbacked ht hsoon hbacked'
  · intro s e t h hbacked ht
    cases hsoon : s.readyTooSoon platform e with
    | true => exact iff_of_false (not_backed_of_readyTooSoon h hbacked ht hsoon) nofun
    | false => exact iff_of_true (backed_step h hbacked ht (by simp [hsoon])).2 rfl
  · exact sessionProbed_restarted _ stored failure

/-! ### Two connects -/

/-- The session is found ready a moment later. -/
def readyEvents (launch : ℕ) (now : ℤ) : List ReportingEvent :=
  [.controller (.runtime (.clock now)), .controller (.runtime (.probeCompleted launch true)),
    .controller .watcherTick]

/-- A session that is found ready when the mini smoke is over. -/
def readyAfterwards : List ReportingEvent := goodConnectEvents "p" 0 ++ readyEvents 0 1

theorem metrics_backed_readyAfterwards :
    (Machine.run (step .sample) sampleStart readyAfterwards).isSome = true ∧
      ∀ s, Machine.Visits (step .sample) sampleStart readyAfterwards s → s.MetricsBacked := by
  have hsome : (Machine.run (step .sample) sampleStart readyAfterwards).isSome = true := by
    decide +kernel
  obtain ⟨u, hrun⟩ := Option.isSome_iff_exists.mp hsome
  exact ⟨hsome, (metrics_backed_iff .sample 0 (fun _ => none) none none _ u hrun).mpr
    (by decide +kernel)⟩

/-- The profile is connected once more, and its session is found ready before the mini
smoke is over. -/
def readyMeanwhile : List ReportingEvent :=
  goodConnectEvents "p" 0 ++ exitEvents 0 1 0 ++ connectEvents "p" 1 ++ readyEvents 1 2

theorem metrics_of_earlier_evidence :
    ¬ ∀ (platform : ReportPlatform) (now : ℤ) (contents : Text → Option Text)
      (stored : Option Json) (failure : Option LastRuntimeFailureSummary)
      (es : List ReportingEvent) (s : ReportingController),
      Machine.run (step platform) (restarted (.initial now contents) stored failure) es = some s →
        s.MetricsBacked := by
  intro h
  have hend : (Machine.run (step .sample) sampleStart readyMeanwhile).any (fun s =>
      s.uxEvents.any (fun x => decide (x.event.name = .runtimeSessionReadyRuntimeTrue) &&
        decide (x.probed ≠ x.connect))) = true := by
    decide +kernel
  obtain ⟨s, hrun, hs⟩ := (Option.any_eq_true _ _).mp hend
  obtain ⟨x, hx, hbad⟩ := List.any_eq_true.mp hs
  simp only [Bool.and_eq_true, decide_eq_true_eq] at hbad
  obtain ⟨connect, hconnect, -, hprobed, -⟩ :=
    h .sample 0 (fun _ => none) none none _ s hrun x hx hbad.1
  exact hbad.2 (hprobed.trans hconnect.symm)

end ReportingController
