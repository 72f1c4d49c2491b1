import Trojan.Client.RuntimeProcesses

/-!
# What a rollback stops

When the mini smoke of a profile fails, the connect rolls back: it tells the
adapter to launch the last profile that was good. But the process of the profile
that has failed is still running, and nothing tells it to stop; and the command to
go back has none of the arguments of a connect, so that the adapter refuses it
before it looks at anything else. The connect then says that it has been rolled
back, and the process goes on.

`rollback_stops_iff` says when it is true nevertheless: exactly when the process of
the profile has exited by itself, and its exit has been handled, before the connect
returns.
-/

/-- The error says that a profile has been rolled back. -/
def ControllerError.rolledBack : ControllerError → Bool
  | .routingApplyRolledBack | .routingApplyRolledBackQuarantined => true
  | _ => false

def Answer.rolledBack (answer : Answer) : Bool := answer.error.any ControllerError.rolledBack

/-! ## The launch of an operation -/

/-- The last launch is one that has started the process, for the profile. -/
def RealShellControllerAdapter.StartedLast (a : RealShellControllerAdapter) (launch : ℕ)
    (profileId : Text) : Prop :=
  launch + 1 = a.launches.length ∧ ∃ l : Launch, a.launches[launch]? = some l ∧
    l.stage = .started ∧ l.profileId = profileId

/-- What an operation knows of its launch. Only the connect that has been rolled
back answers so. -/
def Operation.Sound (a : RealShellControllerAdapter) : Operation → Prop
  | .launching profile launch =>
    ∃ l : Launch, a.launches[launch]? = some l ∧ l.profileId = profile.id
  | .refused _ error => error.rolledBack = false
  | .smoking profile launch => a.StartedLast launch profile.id
  | .rollingBack profile launch _ _ fallback =>
    fallback = none ∧ a.StartedLast launch profile.id
  | .storingRollback profileId launch _ _ => a.StartedLast launch profileId
  | .storingSuccess profileId launch _ => a.StartedLast launch profileId
  | .disconnectAnswered _ result => result.error.any ControllerError.rolledBack = false
  | .finishing answer => answer.rolledBack = true →
    ∃ launch profileId, answer.launch = some launch ∧ a.StartedLast launch profileId
  | .storingQuarantine _ _ | .readingPassword _ | .disconnecting _ => True

namespace RealShellControllerAdapter

variable {a t : RealShellControllerAdapter} {launch : ℕ} {profileId : Text}

theorem StartedLast.continues (h : a.StartedLast launch profileId) (ht : a.Continues t) :
    t.StartedLast launch profileId := by
  obtain ⟨hlast, l, hl, hstage, hid⟩ := h
  obtain ⟨l', hl', hid', hstage'⟩ := ht.launch launch l hl
  exact ⟨ht.length ▸ hlast, l', hl', hstage' hstage, hid'.trans hid⟩

/-- What an operation knows stays true while the platform goes on. -/
theorem sound_of_continues {operation : Operation} (h : operation.Sound a)
    (ht : a.Continues t) : operation.Sound t := by
  cases operation with
  | launching profile launch =>
    obtain ⟨l, hl, hid⟩ := h
    obtain ⟨l', hl', hid', -⟩ := ht.launch launch l hl
    exact ⟨l', hl', hid'.trans hid⟩
  | smoking => exact StartedLast.continues h ht
  | rollingBack => exact ⟨h.1, h.2.continues ht⟩
  | storingRollback => exact StartedLast.continues h ht
  | storingSuccess => exact StartedLast.continues h ht
  | finishing answer =>
    intro hrolled
    obtain ⟨launch, profileId, hlaunch, hstarted⟩ := h hrolled
    exact ⟨launch, profileId, hlaunch, hstarted.continues ht⟩
  | refused | disconnectAnswered | storingQuarantine | readingPassword | disconnecting => exact h

end RealShellControllerAdapter

namespace AdapterBackedClientController

variable {platform : RuntimePlatform} {c t : AdapterBackedClientController}

/-- The operation in progress knows its launch. -/
def KnowsLaunch (c : AdapterBackedClientController) : Prop :=
  ∀ operation, c.operation = some operation → operation.Sound c.adapter

theorem knowsLaunch_of_eq {operation : Operation} (hop : t.operation = some operation)
    (h : operation.Sound t.adapter) : t.KnowsLaunch := by
  intro operation' hop'
  exact Option.some.inj (hop.symm.trans hop') ▸ h

theorem knowsLaunch_of_none (hop : t.operation = none) : t.KnowsLaunch :=
  fun _ h => nomatch hop.symm.trans h

theorem knowsLaunch_refuseConnect (profile : ClientProfile) {error : ControllerError}
    (herror : error.rolledBack = false) : (c.refuseConnect profile error).KnowsLaunch :=
  knowsLaunch_of_eq rfl (fun hrolled => nomatch herror.symm.trans hrolled)

theorem knowsLaunch_executeConnect (profile : ClientProfile) (password : Text) :
    (c.executeConnect platform profile password).KnowsLaunch := by
  unfold executeConnect
  rcases RealShellControllerAdapter.planConnect_cases platform c.adapter
    (c.connectCommand platform profile password) with ⟨error, heq⟩ | ⟨error, heq, herror⟩ |
    ⟨input, hparse, -, heq⟩
  · rw [heq]
    exact knowsLaunch_of_none rfl
  · rw [heq]
    refine knowsLaunch_of_eq rfl ?_
    rcases herror with rfl | rfl
    · rfl
    · rfl
  · rw [heq]
    exact knowsLaunch_of_eq rfl ⟨_, List.getElem?_concat_length, (platform.of_parse hparse).1⟩

theorem knowsLaunch_continuePassword (profile : ClientProfile)
    (password : Option (Option Text)) :
    (c.continuePassword platform profile password).KnowsLaunch := by
  unfold continuePassword
  split
  · exact knowsLaunch_of_none rfl
  · split
    · exact knowsLaunch_refuseConnect profile rfl
    · exact knowsLaunch_executeConnect profile _

theorem knowsLaunch_continueSmoke {profile : ClientProfile} {launch : ℕ}
    (h : c.adapter.StartedLast launch profile.id) (result : Option RoutingMiniSmokeResult) :
    (c.continueSmoke platform profile launch result).KnowsLaunch := by
  unfold continueSmoke
  split
  · exact knowsLaunch_of_none rfl
  · split
    · exact knowsLaunch_of_eq rfl h
    · rw [smokeFailed, rollbackToLastKnownGood_eq]
      exact knowsLaunch_of_eq rfl ⟨rfl, h⟩

theorem knowsLaunch_continueStored {operation : Operation} {payload : Json} {answer : Answer}
    (h : operation.Sound c.adapter) (hstoring : storing operation = some (payload, answer))
    (succeeded : Bool) : (c.continueStored payload answer succeeded).KnowsLaunch := by
  unfold continueStored
  split
  · refine knowsLaunch_of_eq rfl (fun hrolled => ?_)
    cases operation with
    | storingQuarantine profileId payload =>
      obtain ⟨-, rfl⟩ := Prod.mk.inj (Option.some.inj hstoring)
      exact nomatch hrolled
    | storingRollback profileId launch quarantined payload =>
      obtain ⟨-, rfl⟩ := Prod.mk.inj (Option.some.inj hstoring)
      exact ⟨launch, profileId, rfl, h⟩
    | storingSuccess profileId launch payload =>
      obtain ⟨-, rfl⟩ := Prod.mk.inj (Option.some.inj hstoring)
      exact nomatch hrolled
    | readingPassword | launching | refused | smoking | rollingBack | disconnecting
    | disconnectAnswered | finishing => cases hstoring
  · exact knowsLaunch_of_none rfl

theorem knowsLaunch_step {e : ControllerEvent} (hattends : c.Attends) (h : c.KnowsLaunch)
    (ht : c.step platform e = some t) : t.KnowsLaunch := by
  cases e with
  | connect profile =>
    obtain rfl := Option.some.inj ht
    unfold connect
    split
    · exact h
    · split
      · exact knowsLaunch_of_eq rfl trivial
      · exact knowsLaunch_of_eq rfl trivial
  | disconnect =>
    obtain rfl := Option.some.inj ht
    unfold disconnect
    split
    · exact h
    · exact knowsLaunch_of_eq rfl trivial
  | passwordRead password =>
    obtain ⟨profile, -, rfl⟩ := step_passwordRead ht
    exact knowsLaunch_continuePassword profile password
  | adapterAnswered =>
    rcases step_adapterAnswered ht with ⟨profile, launch, l, hop, hl, hend⟩ |
      ⟨profile, error, hop, rfl⟩ | ⟨profile, launch, quarantined, reason, fallback, hop, -, rfl⟩ |
      ⟨activeProfileId, result, hop, rfl⟩
    · rcases hend with ⟨hstage, rfl⟩ | ⟨error, -, rfl⟩
      · rw [Attends, awaited, hop] at hattends
        obtain ⟨l', hl', hid⟩ := h _ hop
        obtain rfl := Option.some.inj (hl.symm.trans hl')
        exact knowsLaunch_of_eq rfl ⟨hattends.last launch rfl, l, hl, hstage, hid⟩
      · exact knowsLaunch_refuseConnect profile rfl
    · exact knowsLaunch_refuseConnect profile (h _ hop)
    · exact knowsLaunch_of_eq rfl (h _ hop).2
    · refine knowsLaunch_of_eq rfl (fun hrolled => ?_)
      cases (h _ hop).symm.trans hrolled
  | smokeCompleted result =>
    obtain ⟨profile, launch, hop, rfl⟩ := step_smokeCompleted ht
    exact knowsLaunch_continueSmoke (h _ hop) result
  | stateStored succeeded =>
    obtain ⟨operation, payload, answer, hop, hstoring, rfl⟩ := step_stateStored ht
    exact knowsLaunch_continueStored (h operation hop) hstoring succeeded
  | disconnectRequested killed =>
    obtain ⟨activeProfileId, -, rfl⟩ := step_disconnectRequested ht
    refine knowsLaunch_of_eq rfl ?_
    show (c.adapter.disconnect killed).2.error.any ControllerError.rolledBack = false
    unfold RealShellControllerAdapter.disconnect
    split
    · rfl
    · split
      · rfl
      · rfl
  | finished =>
    obtain ⟨answer, -, rfl⟩ := step_finished ht
    exact knowsLaunch_of_none rfl
  | watcherTick =>
    obtain rfl | rfl := step_watcherTick ht
    · exact h
    · exact h
  | runtime event =>
    obtain ⟨adapter, hadapter, rfl⟩ := Option.map_eq_some_iff.mp ht
    exact fun operation hop => RealShellControllerAdapter.sound_of_continues (h operation hop)
      (RealShellControllerAdapter.continues_runtimeStep hadapter)

/-! ## What has been returned -/

/-- What happens by itself returns nothing, nor does an operation before its end. A
call that comes while there is one returns at once. -/
theorem mem_returned_step {e : ControllerEvent} (hne : e ≠ .finished)
    (ht : c.step platform e = some t) {r : Returned} (hr : r ∈ t.returned) :
    r ∈ c.returned ∨ r.answer.error = some .operationInProgress := by
  cases e with
  | connect profile =>
    obtain rfl := Option.some.inj ht
    unfold connect at hr
    split at hr
    · rcases List.mem_cons.mp hr with rfl | hr
      · exact .inr rfl
      · exact .inl hr
    · split at hr
      · exact .inl hr
      · exact .inl hr
  | disconnect =>
    obtain rfl := Option.some.inj ht
    unfold disconnect at hr
    split at hr
    · rcases List.mem_cons.mp hr with rfl | hr
      · exact .inr rfl
      · exact .inl hr
    · exact .inl hr
  | passwordRead password =>
    obtain ⟨profile, -, rfl⟩ := step_passwordRead ht
    unfold continuePassword at hr
    split at hr
    · exact .inl hr
    · split at hr
      · exact .inl hr
      · unfold executeConnect at hr
        split at hr <;> exact .inl hr
  | adapterAnswered =>
    rcases step_adapterAnswered ht with ⟨profile, launch, l, -, -, hend⟩ |
      ⟨profile, error, -, rfl⟩ | ⟨profile, launch, quarantined, reason, fallback, -, -, rfl⟩ |
      ⟨activeProfileId, result, -, rfl⟩
    · rcases hend with ⟨-, rfl⟩ | ⟨error, -, rfl⟩
      · exact .inl hr
      · exact .inl hr
    · exact .inl hr
    · exact .inl hr
    · exact .inl hr
  | smokeCompleted result =>
    obtain ⟨profile, launch, -, rfl⟩ := step_smokeCompleted ht
    unfold continueSmoke at hr
    split at hr
    · exact .inl hr
    · split at hr
      · exact .inl hr
      · rw [smokeFailed, rollbackToLastKnownGood_eq] at hr
        exact .inl hr
  | stateStored succeeded =>
    obtain ⟨operation, payload, answer, -, -, rfl⟩ := step_stateStored ht
    unfold continueStored at hr
    split at hr
    · exact .inl hr
    · exact .inl hr
  | disconnectRequested killed =>
    obtain ⟨activeProfileId, -, rfl⟩ := step_disconnectRequested ht
    exact .inl hr
  | finished => exact absurd rfl hne
  | watcherTick =>
    obtain rfl | rfl := step_watcherTick ht
    · exact .inl hr
    · exact .inl hr
  | runtime event =>
    obtain ⟨adapter, -, rfl⟩ := Option.map_eq_some_iff.mp ht
    exact .inl hr

/-- **A rollback stops the candidate**: whenever a connect has returned that its
profile was rolled back, the process it had launched was not the running one, and
what was running, if anything, was launched for the last good profile. -/
def RollbackStops (c : AdapterBackedClientController) : Prop :=
  ∀ r ∈ c.returned, r.answer.rolledBack = true → r.runningProcess ≠ r.answer.launch ∧
    (r.runningProcess = none ∨
      ∃ id, r.lastKnownGoodProfileId = some id ∧ r.runningProfileId = some id)

/-- When a connect that was rolled back returns, the process it had launched has
exited, and its exit has been handled. -/
def candidateHandled (c : AdapterBackedClientController) (e : ControllerEvent) : Bool :=
  match e, c.operation with
  | .finished, some (.finishing answer) =>
    !answer.rolledBack || answer.launch.all (fun i =>
      c.adapter.launches[i]?.all (fun l => l.process == .handled))
  | _, _ => true

/-- The process of the last launch, once it is handed over, is running exactly until
its exit has been handled. -/
theorem runningProcess_of_startedLast {awaited : Option ℕ} {i : ℕ} {profileId : Text} {l : Launch}
    (hattended : c.adapter.Attended awaited) (hstarted : c.adapter.StartedLast i profileId)
    (hl : c.adapter.launches[i]? = some l) :
    c.adapter.runningProcess = if l.process = .handled then none else some i := by
  obtain ⟨hlast, l', hl', hstage, -⟩ := hstarted
  obtain rfl := Option.some.inj (hl.symm.trans hl')
  split
  · rename_i hprocess
    cases hrunning : c.adapter.runningProcess with
    | none => rfl
    | some j =>
      obtain ⟨hlast', m, hm, hattached, -⟩ := hattended.running j hrunning
      obtain rfl : i = j := by omega
      obtain rfl := Option.some.inj (hl.symm.trans hm)
      simp [Launch.attached, hprocess, ProcessState.unhandled] at hattached
  · refine hattended.attached i l hl ?_
    have hconsistent := hattended.consistent i l hl
    cases hprocess : l.process <;>
      simp_all [Launch.attached, Launch.Consistent, ProcessState.unhandled]

theorem rollbackStops_step {e : ControllerEvent} (hattends : c.Attends) (hknows : c.KnowsLaunch)
    (h : c.RollbackStops) (ht : c.step platform e = some t) :
    t.RollbackStops ↔ c.candidateHandled e = true := by
  by_cases hne : e = .finished
  · subst hne
    obtain ⟨answer, hop, rfl⟩ := step_finished ht
    have hstops : RollbackStops { c.returning answer with operation := none } ↔
        (answer.rolledBack = true → c.adapter.runningProcess ≠ answer.launch ∧
          (c.adapter.runningProcess = none ∨
            ∃ id, c.lastKnownGoodProfileId = some id ∧ c.runningProfileId = some id)) :=
      List.forall_mem_cons.trans (and_iff_left h)
    have hhandled : c.candidateHandled .finished = true ↔ (answer.rolledBack = true →
        answer.launch.all (fun i =>
          c.adapter.launches[i]?.all (fun l => l.process == .handled)) = true) := by
      simp only [candidateHandled, hop, Bool.or_eq_true, Bool.not_eq_true']
      rw [← Bool.not_eq_true, ← imp_iff_not_or]
    rw [hstops, hhandled]
    refine imp_congr_right (fun hrolled => ?_)
    obtain ⟨i, profileId, hlaunch, hstarted⟩ := hknows _ hop hrolled
    obtain ⟨-, l, hl, -⟩ := id hstarted
    rw [runningProcess_of_startedLast hattends hstarted hl, hlaunch, Option.all_some, hl,
      Option.all_some, beq_iff_eq]
    constructor
    · rintro ⟨hne, -⟩
      by_contra hprocess
      exact hne (if_neg hprocess)
    · intro hprocess
      rw [if_pos hprocess]
      exact ⟨nofun, .inl rfl⟩
  · have hstops : t.RollbackStops := by
      intro r hr hrolled
      rcases mem_returned_step hne ht hr with hr | herror
      · exact h r hr hrolled
      · rw [Answer.rolledBack, herror] at hrolled
        exact nomatch hrolled
    refine iff_of_true hstops ?_
    cases e with
    | finished => exact absurd rfl hne
    | _ => rfl

/-- **When a rollback stops the candidate.** It does so all along a run exactly when,
each time a connect that was rolled back returns, the process it has launched has
exited by then and its exit has been handled. -/
theorem rollback_stops_iff (platform : RuntimePlatform) (now : ℤ)
    (contents : Text → Option Text) (stored : Option Json) (es : List ControllerEvent)
    (u : AdapterBackedClientController)
    (hrun : Machine.run (step platform) (restarted (.initial now contents) stored) es = some u) :
    (∀ c, Machine.Visits (step platform) (restarted (.initial now contents) stored) es c →
        c.RollbackStops) ↔
      Machine.Along (step platform) (fun c e => c.candidateHandled e = true)
        (restarted (.initial now contents) stored) es := by
  refine Machine.forall_visits_iff_along (I := fun c => c.Attends ∧ c.KnowsLaunch)
    (fun _ _ _ hI _ ht _ => ⟨attends_step hI.1 ht, knowsLaunch_step hI.1 hI.2 ht⟩)
    (fun _ _ _ hI h ht => rollbackStops_step hI.1 hI.2 h ht)
    ⟨attends_restarted (RealShellControllerAdapter.attended_initial now contents) stored,
      knowsLaunch_of_none (restarted_operation _ stored)⟩ ?_ hrun
  rw [RollbackStops, restarted_returned]
  exact List.forall_mem_nil _

/-! ### A profile that fails -/

/-- A connect whose mini smoke fails, up to its return. What happens before that is
given. -/
def failedConnectEvents (id : String) (launch : ℕ) (events : List RuntimeEvent) :
    List ControllerEvent :=
  connectEvents id launch ++
    [.smokeCompleted (some ⟨false, Text.ofString "Mini smoke failed"⟩), .adapterAnswered,
      .stateStored true] ++ events.map .runtime ++ [.finished]

/-- The process exits in time. -/
def candidateExits : List ControllerEvent :=
  failedConnectEvents "p" 0 [.processExited 0 1, .exitHandled 0]

theorem rollback_stops_candidateExits :
    (Machine.run (step .sample) sampleStart candidateExits).any
        (fun c => c.returned.any (fun r => r.answer.rolledBack)) = true ∧
      ∀ c, Machine.Visits (step .sample) sampleStart candidateExits c → c.RollbackStops := by
  have hend : (Machine.run (step .sample) sampleStart candidateExits).any
      (fun c => c.returned.any (fun r => r.answer.rolledBack)) = true := by
    decide +kernel
  obtain ⟨u, hrun, -⟩ := (Option.any_eq_true _ _).mp hend
  exact ⟨hend, (rollback_stops_iff .sample 0 (fun _ => none) none _ u hrun).mpr
    (by decide +kernel)⟩

/-- The connect is rolled back, and the process it has launched is running. -/
theorem rolled_back_and_running :
    ¬ ∀ (platform : RuntimePlatform) (now : ℤ) (contents : Text → Option Text)
      (stored : Option Json) (es : List ControllerEvent) (c : AdapterBackedClientController),
      Machine.run (step platform) (restarted (.initial now contents) stored) es = some c →
        c.RollbackStops := by
  intro h
  have hend : (Machine.run (step .sample) sampleStart (failedConnectEvents "p" 0 [])).any
      (fun c => c.returned.any (fun r =>
        r.answer.rolledBack && decide (r.runningProcess = r.answer.launch))) = true := by
    decide +kernel
  obtain ⟨c, hrun, hc⟩ := (Option.any_eq_true _ _).mp hend
  obtain ⟨r, hr, hrolled⟩ := List.any_eq_true.mp hc
  obtain ⟨hrolled, hrunning⟩ := Bool.and_eq_true_iff.mp hrolled
  exact (h .sample 0 (fun _ => none) none _ c hrun r hr hrolled).1 (of_decide_eq_true hrunning)

end AdapterBackedClientController
