import Trojan.Client.ReportedSteps

/-!
# A failed session that is taken for good

The mini smoke of a connect takes its time, and the watcher goes on looking meanwhile.
When it finds that the session has failed it says so: the status becomes an error, and
the failure is recorded. The connect does not look at either when it goes on. If the mini
smoke has passed, it makes the profile the last good one, and clears the failure that has
just been recorded of it.

`never_recognizes_failed` says when this does not happen: in every run in which the
watcher, as long as a connect is being tried, finds no session that has failed, a connect
that succeeds does so with a status that is no error, and without a failure of its own.
-/

namespace ReportingController

variable {platform : ReportPlatform} {s t : ReportingController} {e : ReportingEvent}

/-- The profile that a step takes for good: it becomes the last good one when the mini
smoke has passed, and the failure is cleared when that is stored. -/
def recognizes (s : ReportingController) (e : ReportingEvent) : Option Text :=
  match e, s.controller.operation with
  | .smokeCompleted (some smoke), some (.smoking profile _) =>
    if smoke.verdict.passed then some profile.id else none
  | .controller (.stateStored true), some (.storingSuccess profileId _ _) => some profileId
  | _, _ => none

/-- **The session is good**: the status is not an error of the profile, and since the
connect of the profile was accepted no failure has been recorded. -/
def SessionGood (s : ReportingController) (profileId : Text) : Prop :=
  ¬ (s.controller.status.phase = .error ∧
      s.controller.status.activeProfileId = some profileId) ∧
    ∃ connect, s.accepted = some connect ∧ connect.profileId = profileId ∧
      ∀ f ∈ s.failures, f.connect ≠ some connect

/-- The watcher does not find that a session has failed while it is being tried. -/
def undisturbed (s : ReportingController) (e : ReportingEvent) : Bool :=
  match e with
  | .controller .watcherTick =>
    s.controller.candidate.isNone || !(s.updated && s.findsFailure)
  | _ => true

/-! ## What is recognized -/

/-- A profile that is recognized becomes the last good one, and no failure is left in the
end. -/
theorem lastKnownGood_of_recognizes {profileId : Text} (h : s.step platform e = some t)
    (hgood : s.recognizes e = some profileId) :
    (∃ smoke, e = .smokeCompleted (some smoke) ∧
      t.controller.lastKnownGoodProfileId = some profileId) ∨
    (e = .controller (.stateStored true) ∧ t.lastRuntimeFailure = none) := by
  unfold recognizes at hgood
  split at hgood
  · rename_i smoke profile launch hop
    obtain ⟨hpassed, hgood⟩ := Option.ite_none_right_eq_some.mp hgood
    refine .inl ⟨smoke, rfl, ?_⟩
    simp only [step, hop, Option.some.injEq] at h
    rw [← h, continueSmoke_controller]
    simp only [AdapterBackedClientController.continueSmoke, Option.map_some, if_pos hpassed]
    exact hgood
  · rename_i profileId launch payload hop
    refine .inr ⟨rfl, ?_⟩
    simp only [step, controllerStep, hop, Option.bind_some,
      AdapterBackedClientController.storing, Option.map_some, Option.some.injEq] at h
    rw [← h]
    rfl
  · cases hgood

/-- What is recognized is the candidate. -/
theorem candidate_of_recognizes {profileId : Text} (h : s.recognizes e = some profileId) :
    s.controller.candidate = some profileId := by
  unfold recognizes at h
  split at h
  · obtain ⟨-, h⟩ := Option.ite_none_right_eq_some.mp h
    rw [AdapterBackedClientController.candidate, ‹s.controller.operation = _›]
    exact h
  · rw [AdapterBackedClientController.candidate, ‹s.controller.operation = _›]
    exact h
  · cases h

/-! ## The invariant -/

/-- Failures are of connects that have been accepted, and of a candidate there are none. -/
structure CandidateGood (s : ReportingController) : Prop where
  bounded : ∀ f ∈ s.failures, ∀ connect, f.connect = some connect →
    connect.number ≤ s.acceptedCount
  candidate : ∀ profileId, s.controller.candidate = some profileId →
    s.controller.status.phase ≠ .error ∧
      ∃ connect, s.accepted = some connect ∧ connect.profileId = profileId ∧
        ∀ f ∈ s.failures, f.connect ≠ some connect

theorem CandidateGood.sessionGood {profileId : Text} (h : s.CandidateGood)
    (hcandidate : s.controller.candidate = some profileId) : s.SessionGood profileId := by
  obtain ⟨hphase, hconnect⟩ := h.candidate profileId hcandidate
  exact ⟨fun herror => hphase herror.1, hconnect⟩

/-- A calm step that records nothing. -/
theorem CandidateGood.of_calm (h : s.CandidateGood)
    (hcalm : s.controller.Calm t.controller) (haccepted : t.accepted = s.accepted)
    (hfailures : t.failures = s.failures) : t.CandidateGood := by
  refine ⟨fun f hf connect hconnect => ?_, fun profileId hcandidate => ?_⟩
  · rw [acceptedCount, haccepted]
    exact h.bounded f (hfailures ▸ hf) connect hconnect
  · obtain ⟨hs, hstatus⟩ := hcalm.candidate profileId hcandidate
    rw [hstatus, haccepted, hfailures]
    exact h.candidate profileId hs

/-- A failure that is recorded is bounded, whatever it is of. -/
theorem bounded_cons (h : s.CandidateGood) {failure : LastRuntimeFailureSummary}
    (haccepted : t.accepted = s.accepted)
    (hfailures : t.failures = ⟨failure, s.accepted⟩ :: s.failures) :
    ∀ f ∈ t.failures, ∀ connect, f.connect = some connect →
      connect.number ≤ t.acceptedCount := by
  intro f hf connect hconnect
  rw [acceptedCount, haccepted]
  rw [hfailures] at hf
  rcases List.mem_cons.mp hf with rfl | hf
  · rw [show s.accepted = some connect from hconnect]
    exact le_rfl
  · exact h.bounded f hf connect hconnect

theorem CandidateGood.acceptConnect (h : s.CandidateGood) (profile : ClientProfile)
    (launch : ℕ) (result : CommandReport) :
    (s.acceptConnect platform profile launch result).CandidateGood := by
  refine ⟨fun f hf connect hconnect => ?_, fun profileId hcandidate => ⟨?_, _, rfl, ?_, ?_⟩⟩
  · exact (h.bounded f hf connect hconnect).trans (Nat.le_succ _)
  · show s.controller.acceptedPhaseForConnect platform.toRuntimePlatform ≠ .error
    unfold AdapterBackedClientController.acceptedPhaseForConnect
    split
    · exact nofun
    · split
      · exact nofun
      · exact nofun
  · exact Option.some.inj hcandidate
  · intro f hf hconnect
    exact absurd (h.bounded f hf _ hconnect) (Nat.not_succ_le_self _)

/-! ## The watcher -/

theorem sessionError_isSome :
    s.sessionError.isSome = !((s.controller.adapter.lastError.getD []).trim.isEmpty) := by
  unfold sessionError
  dsimp only
  split
  · simp [*]
  · simp [*]

theorem abnormalExitCode_isSome :
    s.abnormalExitCode.isSome = decide (s.controller.adapter.lastExitCode.getD 0 ≠ 0) := by
  unfold abnormalExitCode
  cases s.controller.adapter.lastExitCode with
  | none => rfl
  | some code => simp [Option.isSome_filter]

/-- The watcher makes an error of a session only if it finds a failure. -/
theorem phase_watch_ne_error (h : s.controller.status.phase ≠ .error)
    (hfinds : (s.updated && s.findsFailure) = false) :
    s.controller.watch.status.phase ≠ .error := by
  unfold AdapterBackedClientController.watch
  split
  · exact h
  · have hupdated : s.updated = true := decide_eq_true ‹_›
    rw [hupdated, Bool.true_and, findsFailure, sessionError_isSome, abnormalExitCode_isSome]
      at hfinds
    show s.controller.reconcileStatusWithSession.phase ≠ .error
    unfold AdapterBackedClientController.reconcileStatusWithSession
    by_cases hrunning : s.controller.adapter.isRunning = true
    · rw [if_pos hrunning]
      split
      · exact nofun
      · exact h
    · rw [if_neg hrunning]
      rw [Bool.eq_false_iff.mpr hrunning] at hfinds
      cases hphase : s.controller.status.phase with
      | error => exact absurd hphase h
      | disconnected => simp [hphase]
      | disconnecting => simp [AdapterBackedClientController.endedStatus, hphase]
      | connected | connecting =>
        simp only [hphase, ClientConnectionPhase.live, Bool.not_false, Bool.true_and,
          Bool.or_eq_false_iff, decide_eq_false_iff_not, not_not] at hfinds
        simp [AdapterBackedClientController.endedStatus, hphase, hfinds.1, hfinds.2]

theorem watch_candidate :
    s.controller.watch.candidate = s.controller.candidate := by
  rcases s.controller.watch_cases with heq | heq
  · rw [heq]
  · rw [heq]
    rfl

theorem CandidateGood.watch (h : s.CandidateGood)
    (hundisturbed : s.undisturbed (.controller .watcherTick) = true) :
    (s.watch platform).CandidateGood := by
  cases hupdated : s.updated with
  | false =>
    rw [watch_of_not_updated hupdated]
    exact h
  | true =>
    obtain ⟨hkeeps, -, hfailures⟩ := @keeps_reconcile platform s
    have hwatch := @watch_of_updated platform s hupdated
    have haccepted : (s.watch platform).accepted = s.accepted := hwatch ▸ hkeeps.accepted
    have hsame : (s.watch platform).failures
        = (s.reconcileStatusWithSession platform).failures := hwatch ▸ rfl
    rw [← hsame] at hfailures
    refine ⟨?_, fun profileId hcandidate => ?_⟩
    · split at hfailures
      · obtain ⟨failure, hfailures⟩ := hfailures
        exact bounded_cons h haccepted hfailures
      · intro f hf connect hconnect
        rw [acceptedCount, haccepted]
        exact h.bounded f (hfailures ▸ hf) connect hconnect
    · rw [watch_controller, watch_candidate] at hcandidate
      have hfinds : s.findsFailure = false := by
        simpa [undisturbed, hcandidate, hupdated] using hundisturbed
      obtain ⟨hphase, hconnect⟩ := h.candidate profileId hcandidate
      rw [hfinds] at hfailures
      rw [watch_controller, haccepted, hfailures]
      exact ⟨phase_watch_ne_error hphase (by rw [hfinds, Bool.and_false]), hconnect⟩

/-! ## All steps -/

theorem CandidateGood.step (h : s.CandidateGood) (hundisturbed : s.undisturbed e = true)
    (ht : s.step platform e = some t) : t.CandidateGood := by
  cases change_step ht with
  | said quiet calm => exact h.of_calm calm quiet.accepted quiet.failures
  | recorded failure keeps failures uxEvents calm candidate =>
    refine ⟨bounded_cons h keeps.accepted failures, fun profileId hcandidate => ?_⟩
    exact nomatch candidate.symm.trans hcandidate
  | notified keeps failures uxEvents calm status => exact h.of_calm calm keeps.accepted failures
  | accepted profile launch result operation started =>
    exact h.acceptConnect profile launch result
  | smoked profile launch smoke operation =>
    obtain ⟨-, haccepted, hfailures, -⟩ := @keeps_continueSmoke platform s profile launch smoke
    refine h.of_calm ?_ haccepted hfailures
    rw [continueSmoke_controller]
    exact AdapterBackedClientController.calm_continueSmoke operation _
  | watched active => exact h.watch hundisturbed
  | disposed => exact h.of_calm (AdapterBackedClientController.calm_of_eq rfl rfl) rfl rfl

theorem candidateGood_restarted (adapter : RealShellControllerAdapter) (stored : Option Json)
    (failure : Option LastRuntimeFailureSummary) :
    (restarted adapter stored failure).CandidateGood := by
  refine ⟨fun profileId hlast => ?_, fun profileId hcandidate => ?_⟩
  · cases hlast
  · have hop : (restarted adapter stored failure).controller.operation = none :=
      AdapterBackedClientController.restarted_operation adapter stored
    rw [AdapterBackedClientController.candidate, hop] at hcandidate
    cases hcandidate

/-- **A failed session is not taken for good**, in every run in which the watcher finds no
failed session while a connect is being tried. -/
theorem never_recognizes_failed (platform : ReportPlatform) (now : ℤ)
    (contents : Text → Option Text) (stored : Option Json)
    (failure : Option LastRuntimeFailureSummary) (es : List ReportingEvent)
    (hundisturbed : Machine.Along (step platform) (fun s e => s.undisturbed e = true)
      (restarted (.initial now contents) stored failure) es) :
    Machine.Along (step platform)
      (fun s e => ∀ profileId, s.recognizes e = some profileId → s.SessionGood profileId)
      (restarted (.initial now contents) stored failure) es :=
  Machine.Along.imp_of_invariant (fun _ _ _ h hC ht => CandidateGood.step h hC ht)
    (fun _ _ h _ _ hgood => h.sessionGood (candidate_of_recognizes hgood))
    (candidateGood_restarted _ stored failure) hundisturbed

/-- The process of a profile that has been connected exits with an error, and the watcher
finds it so. -/
def failedAfterwards : List ReportingEvent :=
  goodConnectEvents "p" 0 ++ exitEvents 0 1 1 ++ [.controller .watcherTick]

theorem never_recognizes_failedAfterwards :
    (Machine.run (step .sample) sampleStart failedAfterwards).isSome = true ∧
      Machine.Along (step .sample)
        (fun s e => ∀ profileId, s.recognizes e = some profileId → s.SessionGood profileId)
        sampleStart failedAfterwards :=
  ⟨by decide +kernel,
    never_recognizes_failed .sample 0 (fun _ => none) none none _ (by decide +kernel)⟩

/-- The process exits with an error before the mini smoke is over, and the watcher finds it
so. -/
def failedMeanwhile : List ReportingEvent :=
  connectEvents "p" 0 ++ exitEvents 0 1 1 ++ [.controller .watcherTick]

theorem failed_is_recognized :
    ¬ ∀ (platform : ReportPlatform) (now : ℤ) (contents : Text → Option Text)
      (stored : Option Json) (failure : Option LastRuntimeFailureSummary)
      (es : List ReportingEvent),
      Machine.Along (step platform)
        (fun s e => ∀ profileId, s.recognizes e = some profileId → s.SessionGood profileId)
        (restarted (.initial now contents) stored failure) es := by
  intro h
  have hend : (Machine.run (step .sample) sampleStart failedMeanwhile).any (fun s =>
      decide (s.recognizes (.smokeCompleted (some passedSmoke)) = some (Text.ofString "p")) &&
        decide (s.controller.status.phase = .error) &&
        decide (s.controller.status.activeProfileId = some (Text.ofString "p"))) = true := by
    decide +kernel
  obtain ⟨s, hrun, hs⟩ := (Option.any_eq_true _ _).mp hend
  simp only [Bool.and_eq_true, decide_eq_true_eq] at hs
  obtain ⟨⟨hgood, hphase⟩, hactive⟩ := hs
  have halong := h .sample 0 (fun _ => none) none none
    (failedMeanwhile ++ [.smokeCompleted (some passedSmoke)])
  have hsession := Machine.along_iff.mp halong failedMeanwhile _ (List.prefix_refl _) s hrun _ hgood
  exact hsession.1 ⟨hphase, hactive⟩

end ReportingController
