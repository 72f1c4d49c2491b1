import Trojan.Client.AdapterBackedClientController

/-!
# One process at a time

A connect looks for a running process once, before it waits for the first time,
and the process that it launches becomes the running one only at the end. Two
connects of the adapter at the same time could therefore launch two processes. The
controller has one operation at a time, and an operation waits for the launch it
has begun: all the other launches have come to an end.

`Attended` is what follows for the adapter, given the launch that an operation
waits for. The launch which is in progress is that one, it is the last one, and
there is no running process meanwhile. A process that has been launched is the
running one until its exit is handled. `at_most_one_process` reads off what is
claimed of the processes.
-/

/-- The task of the connect has not come to an end. -/
def LaunchStage.inProgress : LaunchStage → Bool
  | .started | .failed _ => false
  | _ => true

/-- The process has been started, and its exit has not been handled. -/
def ProcessState.unhandled : ProcessState → Bool
  | .alive | .exited _ => true
  | .absent | .handled => false

namespace Launch

/-- There is a process from the moment it is started. -/
def Consistent (l : Launch) : Prop :=
  match l.stage with
  | .attaching => l.process.unhandled = true
  | .started => l.process ≠ .absent
  | _ => l.process = .absent

/-- The process has been handed over, and its exit has not been handled. -/
def attached (l : Launch) : Bool := decide (l.stage = .started) && l.process.unhandled

/-- What the task and the process of a launch may do by themselves. -/
structure Moves (l l' : Launch) : Prop where
  profileId : l'.profileId = l.profileId
  configPath : l'.configPath = l.configPath
  inProgress : l'.stage.inProgress = true → l.stage.inProgress = true
  started : l.stage = .started → l'.stage = .started
  attached : l'.attached = l.attached
  consistent : l.Consistent → l'.Consistent

/-- A launch whose process and whose task stay where they are. -/
theorem Moves.of_same {l l' : Launch} (hid : l'.profileId = l.profileId)
    (hpath : l'.configPath = l.configPath) (hstage : l'.stage = l.stage)
    (hprocess : l'.process = l.process) : l.Moves l' where
  profileId := hid
  configPath := hpath
  inProgress h := hstage ▸ h
  started h := hstage.trans h
  attached := by rw [Launch.attached, hstage, hprocess, Launch.attached]
  consistent h := by rwa [Launch.Consistent, hstage, hprocess]

/-- A launch in progress, without a process, whose task goes on. -/
theorem Moves.of_absent {l : Launch} {stage : LaunchStage}
    (hprogress : l.stage.inProgress = true) (hne : stage ≠ .started ∧ stage ≠ .attaching)
    (habsent : l.Consistent → l.process = .absent) :
    l.Moves { l with stage := stage } where
  profileId := rfl
  configPath := rfl
  inProgress _ := hprogress
  started h := absurd (h ▸ hprogress) nofun
  attached := by
    have hstarted : l.stage ≠ .started := fun h => absurd (h ▸ hprogress) nofun
    simp [Launch.attached, hstarted, hne.1]
  consistent h := by
    cases stage with
    | attaching => exact absurd rfl hne.2
    | started => exact absurd rfl hne.1
    | _ => exact habsent h

end Launch

namespace RealShellControllerAdapter

/-! ## What an event of the platform does -/

/-- Nothing happens to the launches. -/
structure Rests (a t : RealShellControllerAdapter) : Prop where
  launches : t.launches = a.launches
  runningProcess : t.runningProcess = a.runningProcess
  activeConfigPath : t.activeConfigPath = a.activeConfigPath

/-- One launch moves, and the running process is what it was. -/
structure MovesLaunch (a t : RealShellControllerAdapter) (i : ℕ) (l l' : Launch) : Prop where
  before : a.launches[i]? = some l
  launches : t.launches = (a.setLaunch i l').launches
  runningProcess : t.runningProcess = a.runningProcess
  activeConfigPath : t.activeConfigPath = a.activeConfigPath
  moves : l.Moves l'

variable {a t : RealShellControllerAdapter} {i : ℕ} {l : Launch} {platform : RuntimePlatform}

theorem continueLaunch_cases {error : Option Text} (hl : a.launches[i]? = some l)
    (ht : a.continueLaunch platform i l error = some t) :
    (∃ l', a.MovesLaunch t i l l') ∨ (l.stage = .attaching ∧ t = a.attach i l) := by
  -- the stages before the process is started, and those of a connect that has failed
  have hmoved {stage : LaunchStage}
      (hlaunches : t.launches = (a.setLaunch i { l with stage := stage }).launches)
      (hrunning : t.runningProcess = a.runningProcess)
      (hpath : t.activeConfigPath = a.activeConfigPath) (hprogress : l.stage.inProgress = true)
      (hne : stage ≠ .started ∧ stage ≠ .attaching)
      (habsent : l.Consistent → l.process = .absent) : ∃ l', a.MovesLaunch t i l l' :=
    ⟨_, hl, hlaunches, hrunning, hpath, .of_absent hprogress hne habsent⟩
  cases error with
  | none =>
    cases hstage : l.stage with
    | creatingDirectory | openingConfig | settingPermissions =>
      simp only [continueLaunch, hstage, Option.some.injEq] at ht
      subst ht
      exact .inl (hmoved rfl rfl rfl (by rw [hstage]; rfl) ⟨nofun, nofun⟩
        (fun h => by simpa [Launch.Consistent, hstage] using h))
    | writingConfig =>
      simp only [continueLaunch, hstage] at ht
      split at ht <;> obtain rfl := Option.some.inj ht <;>
        exact .inl (hmoved rfl rfl rfl (by rw [hstage]; rfl) ⟨nofun, nofun⟩
          (fun h => by simpa [Launch.Consistent, hstage] using h))
    | startingProcess =>
      simp only [continueLaunch, hstage, Option.some.injEq] at ht
      subst ht
      refine .inl ⟨_, hl, rfl, rfl, rfl, rfl, rfl, fun _ => by rw [hstage]; rfl, ?_, ?_, ?_⟩
      · exact fun h => absurd (hstage.symm.trans h) nofun
      · simp [Launch.attached, hstage]
      · exact fun _ => rfl
    | attaching =>
      simp only [continueLaunch, hstage, Option.some.injEq] at ht
      exact .inr ⟨rfl, ht.symm⟩
    | started | failed => simp [continueLaunch, hstage] at ht
    | checkingConfig error =>
      simp only [continueLaunch, hstage, Option.some.injEq] at ht
      subst ht
      refine .inl (hmoved rfl rfl rfl (by rw [hstage]; rfl) ?_
        (fun h => by simpa [Launch.Consistent, hstage] using h))
      split <;> exact ⟨nofun, nofun⟩
    | deletingConfig error =>
      simp only [continueLaunch, hstage, Option.map_eq_some_iff] at ht
      obtain ⟨file, -, rfl⟩ := ht
      exact .inl (hmoved rfl rfl rfl (by rw [hstage]; rfl) ⟨nofun, nofun⟩
        (fun h => by simpa [Launch.Consistent, hstage] using h))
  | some error =>
    cases hstage : l.stage with
    | creatingDirectory | openingConfig | writingConfig | settingPermissions | startingProcess =>
      simp only [continueLaunch, hstage, Option.some.injEq] at ht
      subst ht
      refine .inl (hmoved rfl rfl rfl (by rw [hstage]; rfl) ?_
        (fun h => by simpa [Launch.Consistent, hstage] using h))
      split <;> exact ⟨nofun, nofun⟩
    | checkingConfig reason | deletingConfig reason =>
      simp only [continueLaunch, hstage, Option.some.injEq] at ht
      subst ht
      exact .inl (hmoved rfl rfl rfl (by rw [hstage]; rfl) ⟨nofun, nofun⟩
        (fun h => by simpa [Launch.Consistent, hstage] using h))
    | attaching | started | failed => simp [continueLaunch, hstage] at ht

theorem continueCleanup_cases {error : Option Text} (hl : a.launches[i]? = some l)
    (ht : a.continueCleanup i l error = some t) : ∃ l', a.MovesLaunch t i l l' := by
  cases error with
  | none =>
    cases hcleanup : l.cleanup with
    | idle => simp [continueCleanup, hcleanup] at ht
    | checking path =>
      simp only [continueCleanup, hcleanup, Option.some.injEq] at ht
      subst ht
      exact ⟨_, hl, rfl, rfl, rfl, .of_same rfl rfl rfl rfl⟩
    | deleting path =>
      simp only [continueCleanup, hcleanup, Option.map_eq_some_iff] at ht
      obtain ⟨file, -, rfl⟩ := ht
      exact ⟨_, hl, rfl, rfl, rfl, .of_same rfl rfl rfl rfl⟩
  | some error =>
    cases hcleanup : l.cleanup with
    | idle => simp [continueCleanup, hcleanup] at ht
    | checking path | deleting path =>
      simp only [continueCleanup, hcleanup, Option.some.injEq] at ht
      subst ht
      exact ⟨_, hl, rfl, rfl, rfl, .of_same rfl rfl rfl rfl⟩

theorem completeProbe_cases {isOpen : Bool} (hl : a.launches[i]? = some l)
    (ht : a.completeProbe i l isOpen = some t) : ∃ l', a.MovesLaunch t i l l' := by
  cases hpromotion : l.promotion with
  | idle | waiting => simp [completeProbe, hpromotion] at ht
  | probing deadline =>
    simp only [completeProbe, hpromotion] at ht
    split at ht <;> obtain rfl := Option.some.inj ht <;>
      exact ⟨_, hl, rfl, rfl, rfl, .of_same rfl rfl rfl rfl⟩

theorem wakePromotion_cases (hl : a.launches[i]? = some l)
    (ht : a.wakePromotion i l = some t) : ∃ l', a.MovesLaunch t i l l' := by
  cases hpromotion : l.promotion with
  | idle | probing => simp [wakePromotion, hpromotion] at ht
  | waiting deadline =>
    simp only [wakePromotion, hpromotion, Option.some.injEq] at ht
    subst ht
    exact ⟨_, hl, rfl, rfl, rfl, .of_same rfl rfl rfl rfl⟩

/-- **What the platform does to the launches.** It leaves them alone, or moves one
of them, or hands a process over, or has the exit of a process handled. -/
theorem runtimeStep_cases {e : RuntimeEvent} (ht : a.runtimeStep platform e = some t) :
    a.Rests t ∨ (∃ i l l', a.MovesLaunch t i l l') ∨
      (∃ i l, a.launches[i]? = some l ∧ l.stage = .attaching ∧ t = a.attach i l) ∨
      (∃ i l code, a.launches[i]? = some l ∧ l.stage = .started ∧ l.process = .exited code ∧
        t = a.handleExit i l code) := by
  cases e with
  | clock now => exact .inl (Option.some.inj ht ▸ ⟨rfl, rfl, rfl⟩)
  | logged => exact .inl (Option.some.inj ht ▸ ⟨rfl, rfl, rfl⟩)
  | launchContinued i error =>
    obtain ⟨l, hl, ht⟩ := Option.bind_eq_some_iff.mp ht
    rcases continueLaunch_cases hl ht with ⟨l', hmoves⟩ | ⟨hstage, ht⟩
    · exact .inr (.inl ⟨i, l, l', hmoves⟩)
    · exact .inr (.inr (.inl ⟨i, l, hl, hstage, ht⟩))
  | processExited i code =>
    obtain ⟨l, hl, ht⟩ := Option.bind_eq_some_iff.mp ht
    obtain ⟨halive, ht⟩ := Option.ite_none_right_eq_some.mp ht
    obtain rfl := Option.some.inj ht
    refine .inr (.inl ⟨i, l, _, hl, rfl, rfl, rfl, rfl, rfl, id, id, ?_, fun h => ?_⟩)
    · simp [Launch.attached, halive, ProcessState.unhandled]
    · cases hstage : l.stage <;> simp_all [Launch.Consistent, ProcessState.unhandled]
  | exitHandled i =>
    obtain ⟨l, hl, ht⟩ := Option.bind_eq_some_iff.mp ht
    split at ht
    · exact .inr (.inr (.inr ⟨i, l, _, hl, ‹_›, ‹_›, (Option.some.inj ht).symm⟩))
    · cases ht
  | cleanupContinued i error =>
    obtain ⟨l, hl, ht⟩ := Option.bind_eq_some_iff.mp ht
    exact .inr (.inl ⟨i, l, continueCleanup_cases hl ht⟩)
  | probeCompleted i isOpen =>
    obtain ⟨l, hl, ht⟩ := Option.bind_eq_some_iff.mp ht
    exact .inr (.inl ⟨i, l, completeProbe_cases hl ht⟩)
  | promotionWoke i =>
    obtain ⟨l, hl, ht⟩ := Option.bind_eq_some_iff.mp ht
    exact .inr (.inl ⟨i, l, wakePromotion_cases hl ht⟩)

/-! ## Launches that are attended to -/

/-- **Every launch is attended to.** The one in progress is the one that is waited
for. A process that has been handed over is the running one, until its exit has
been handled. -/
structure Attended (awaited : Option ℕ) (a : RealShellControllerAdapter) : Prop where
  consistent : ∀ (i : ℕ) (l : Launch), a.launches[i]? = some l → l.Consistent
  inProgress : ∀ (i : ℕ) (l : Launch), a.launches[i]? = some l → l.stage.inProgress = true →
    awaited = some i ∧ a.runningProcess = none
  last : ∀ i : ℕ, awaited = some i → i + 1 = a.launches.length
  attached : ∀ (i : ℕ) (l : Launch), a.launches[i]? = some l → l.attached = true →
    a.runningProcess = some i
  running : ∀ i : ℕ, a.runningProcess = some i → i + 1 = a.launches.length ∧
    ∃ l : Launch, a.launches[i]? = some l ∧ l.attached = true ∧
      a.activeConfigPath = some l.configPath

variable {awaited : Option ℕ}

theorem attended_initial (now : ℤ) (contents : Text → Option Text) :
    Attended none (initial now contents) where
  consistent _ _ h := nomatch h
  inProgress _ _ h := nomatch h
  last _ h := nomatch h
  attached _ _ h := nomatch h
  running _ h := nomatch h

theorem Attended.rests (h : Attended awaited a) (ht : a.Rests t) : Attended awaited t where
  consistent := ht.launches ▸ h.consistent
  inProgress := ht.launches ▸ ht.runningProcess ▸ h.inProgress
  last := ht.launches ▸ h.last
  attached := ht.launches ▸ ht.runningProcess ▸ h.attached
  running := ht.launches ▸ ht.runningProcess ▸ ht.activeConfigPath ▸ h.running

/-- A launch after one of them has moved. -/
theorem MovesLaunch.getElem? {l' : Launch} (h : a.MovesLaunch t i l l') (j : ℕ) :
    t.launches[j]? = if i = j then some l' else a.launches[j]? := by
  rw [h.launches, getElem?_setLaunch h.before]

theorem MovesLaunch.length {l' : Launch} (h : a.MovesLaunch t i l l') :
    t.launches.length = a.launches.length := by
  rw [h.launches, length_setLaunch]

/-- Each launch comes from one that may move to it. -/
theorem MovesLaunch.exists_moves {l' : Launch} (h : a.MovesLaunch t i l l') {j : ℕ} {m : Launch}
    (hm : t.launches[j]? = some m) : ∃ n, a.launches[j]? = some n ∧ n.Moves m := by
  rw [h.getElem?] at hm
  split at hm
  · subst i
    exact ⟨l, h.before, Option.some.inj hm ▸ h.moves⟩
  · exact ⟨m, hm, .of_same rfl rfl rfl rfl⟩

/-- Each launch is there afterwards, and may have moved. -/
theorem MovesLaunch.exists_moved {l' : Launch} (h : a.MovesLaunch t i l l') {j : ℕ} {n : Launch}
    (hn : a.launches[j]? = some n) : ∃ m, t.launches[j]? = some m ∧ n.Moves m := by
  rw [h.getElem?]
  split
  · subst i
    obtain rfl := Option.some.inj (h.before.symm.trans hn)
    exact ⟨l', rfl, h.moves⟩
  · exact ⟨n, hn, .of_same rfl rfl rfl rfl⟩

theorem Attended.movesLaunch {l' : Launch} (h : Attended awaited a)
    (ht : a.MovesLaunch t i l l') : Attended awaited t where
  consistent j m hm := by
    obtain ⟨n, hn, hmoves⟩ := ht.exists_moves hm
    exact hmoves.consistent (h.consistent j n hn)
  inProgress j m hm hprogress := by
    obtain ⟨n, hn, hmoves⟩ := ht.exists_moves hm
    rw [ht.runningProcess]
    exact h.inProgress j n hn (hmoves.inProgress hprogress)
  last j hj := ht.length ▸ h.last j hj
  attached j m hm hattached := by
    obtain ⟨n, hn, hmoves⟩ := ht.exists_moves hm
    rw [ht.runningProcess]
    exact h.attached j n hn (hmoves.attached ▸ hattached)
  running j hj := by
    rw [ht.runningProcess] at hj
    obtain ⟨hlast, n, hn, hattached, hpath⟩ := h.running j hj
    obtain ⟨m, hm, hmoves⟩ := ht.exists_moved hn
    refine ⟨ht.length ▸ hlast, m, hm, hmoves.attached.trans hattached, ?_⟩
    rw [ht.activeConfigPath, hpath, hmoves.configPath]

/-- Handing a process over ends the launch that was in progress. -/
theorem Attended.attach (h : Attended awaited a) (hl : a.launches[i]? = some l)
    (hstage : l.stage = .attaching) : Attended awaited (a.attach i l) := by
  obtain ⟨hawaited, hnone⟩ := h.inProgress i l hl (by rw [hstage]; rfl)
  have hunhandled : l.process.unhandled = true := by
    simpa [Launch.Consistent, hstage] using h.consistent i l hl
  constructor
  · intro j m hm
    rcases getElem?_setLaunch_cases hl hm with ⟨-, rfl⟩ | ⟨-, hm⟩
    · exact fun habsent => by
        rw [show l.process = .absent from habsent] at hunhandled
        exact nomatch hunhandled
    · exact h.consistent j m hm
  · intro j m hm hprogress
    rcases getElem?_setLaunch_cases hl hm with ⟨-, rfl⟩ | ⟨hne, hm⟩
    · exact absurd hprogress nofun
    · have hawaited' := (h.inProgress j m hm hprogress).1
      exact absurd (Option.some.inj (hawaited.symm.trans hawaited')) hne.symm
  · intro j hj
    exact (length_setLaunch a i _).symm ▸ h.last j hj
  · intro j m hm hattached
    rcases getElem?_setLaunch_cases hl hm with ⟨rfl, -⟩ | ⟨-, hm⟩
    · rfl
    · exact nomatch hnone.symm.trans (h.attached j m hm hattached)
  · intro j hj
    obtain rfl := Option.some.inj hj
    refine ⟨(length_setLaunch a i _).symm ▸ h.last i hawaited, _,
      (getElem?_setLaunch hl _ i).trans (if_pos rfl), ?_, rfl⟩
    simp [Launch.attached, hunhandled]

/-- Handling the exit of a process lets go of it. -/
theorem Attended.handleExit {code : ℤ} (h : Attended awaited a) (hl : a.launches[i]? = some l)
    (hstage : l.stage = .started) (hprocess : l.process = .exited code) :
    Attended awaited (a.handleExit i l code) := by
  have hrunning : a.runningProcess = some i :=
    h.attached i l hl (by simp [Launch.attached, hstage, hprocess, ProcessState.unhandled])
  have hprogress (j : ℕ) (m : Launch) (hm : a.launches[j]? = some m) :
      m.stage.inProgress = false := by
    by_contra hne
    exact nomatch (h.inProgress j m hm (by simpa using hne)).2.symm.trans hrunning
  unfold RealShellControllerAdapter.handleExit
  rw [if_pos hrunning]
  constructor
  · intro j m hm
    rcases getElem?_setLaunch_cases hl hm with ⟨-, rfl⟩ | ⟨-, hm⟩
    · simp [Launch.Consistent, hstage]
    · exact h.consistent j m hm
  · intro j m hm hin
    rcases getElem?_setLaunch_cases hl hm with ⟨-, rfl⟩ | ⟨-, hm⟩
    · exact nomatch (hprogress i l hl).symm.trans hin
    · exact nomatch (hprogress j m hm).symm.trans hin
  · intro j hj
    exact (length_setLaunch (a.sessionEnded code) i _).symm ▸ h.last j hj
  · intro j m hm hattached
    rcases getElem?_setLaunch_cases hl hm with ⟨-, rfl⟩ | ⟨hne, hm⟩
    · simp [Launch.attached, ProcessState.unhandled] at hattached
    · exact absurd (Option.some.inj (hrunning.symm.trans (h.attached j m hm hattached))) hne.symm
  · exact fun j hj => nomatch hj

/-! ## What stays of the launches -/

/-- The launches are the same ones, for the same profiles, and what has been started
has been started. -/
structure Continues (a t : RealShellControllerAdapter) : Prop where
  length : t.launches.length = a.launches.length
  launch : ∀ (i : ℕ) (l : Launch), a.launches[i]? = some l → ∃ l', t.launches[i]? = some l' ∧
    l'.profileId = l.profileId ∧ (l.stage = .started → l'.stage = .started)

theorem continues_setLaunch {l' : Launch} (hl : a.launches[i]? = some l)
    (hlaunches : t.launches = (a.setLaunch i l').launches) (hid : l'.profileId = l.profileId)
    (hstage : l.stage = .started → l'.stage = .started) : a.Continues t where
  length := by rw [hlaunches, length_setLaunch]
  launch j m hm := by
    rw [hlaunches, getElem?_setLaunch hl]
    split
    · subst i
      obtain rfl := Option.some.inj (hl.symm.trans hm)
      exact ⟨l', rfl, hid, hstage⟩
    · exact ⟨m, hm, rfl, id⟩

theorem continues_runtimeStep {e : RuntimeEvent} (ht : a.runtimeStep platform e = some t) :
    a.Continues t := by
  rcases runtimeStep_cases ht with hrests | ⟨i, l, l', hmoves⟩ | ⟨i, l, hl, -, rfl⟩ |
    ⟨i, l, code, hl, hstage, -, rfl⟩
  · exact ⟨congrArg _ hrests.launches, fun i l hl => ⟨l, hrests.launches ▸ hl, rfl, id⟩⟩
  · exact continues_setLaunch hmoves.before hmoves.launches hmoves.moves.profileId
      hmoves.moves.started
  · exact continues_setLaunch hl rfl rfl (fun _ => rfl)
  · unfold handleExit
    split
    · exact continues_setLaunch hl rfl rfl id
    · exact continues_setLaunch hl rfl rfl id

/-- A process becomes the running one only for an operation that waits for it. -/
theorem Attended.running_of_runtimeStep {e : RuntimeEvent} (h : Attended none a)
    (ht : a.runtimeStep platform e = some t) (hi : t.runningProcess = some i) :
    a.runningProcess = some i := by
  rcases runtimeStep_cases ht with hrests | ⟨j, l, l', hmoves⟩ | ⟨j, l, hl, hstage, rfl⟩ |
    ⟨j, l, code, -, -, -, rfl⟩
  · exact hrests.runningProcess ▸ hi
  · exact hmoves.runningProcess ▸ hi
  · exact nomatch (h.inProgress j l hl (by rw [hstage]; rfl)).1
  · unfold RealShellControllerAdapter.handleExit at hi
    split at hi
    · exact nomatch hi
    · exact hi

theorem Attended.runtimeStep {e : RuntimeEvent} (h : Attended awaited a)
    (ht : a.runtimeStep platform e = some t) : Attended awaited t := by
  rcases runtimeStep_cases ht with hrests | ⟨i, l, l', hmoves⟩ | ⟨i, l, hl, hstage, rfl⟩ |
    ⟨i, l, code, hl, hstage, hprocess, rfl⟩
  · exact h.rests hrests
  · exact h.movesLaunch hmoves
  · exact h.attach hl hstage
  · exact h.handleExit hl hstage hprocess

/-- The launch that is waited for has come to an end. -/
theorem Attended.release (h : Attended (some i) a) (hl : a.launches[i]? = some l)
    (hdone : l.stage.inProgress = false) : Attended none a where
  consistent := h.consistent
  inProgress j m hm hprogress := by
    obtain rfl := Option.some.inj (h.inProgress j m hm hprogress).1
    obtain rfl := Option.some.inj (hl.symm.trans hm)
    exact nomatch hdone.symm.trans hprogress
  last _ hj := nomatch hj
  attached := h.attached
  running := h.running

theorem Attended.beginLaunch (h : Attended none a) (hrunning : a.runningProcess = none)
    (input : RealShellConnectPlannerInput) :
    Attended (some a.launches.length) (a.beginLaunch platform input) := by
  constructor
  · intro j m hm
    rcases getElem?_beginLaunch_cases hm with hm | ⟨-, rfl⟩
    · exact h.consistent j m hm
    · rfl
  · intro j m hm hprogress
    rcases getElem?_beginLaunch_cases hm with hm | ⟨rfl, -⟩
    · exact nomatch (h.inProgress j m hm hprogress).1
    · exact ⟨rfl, hrunning⟩
  · intro j hj
    obtain rfl := Option.some.inj hj
    rw [beginLaunch_launches, List.length_append, List.length_singleton]
  · intro j m hm hattached
    rcases getElem?_beginLaunch_cases hm with hm | ⟨-, rfl⟩
    · exact nomatch hrunning.symm.trans (h.attached j m hm hattached)
    · exact absurd hattached nofun
  · exact fun j hj => nomatch hrunning.symm.trans hj

end RealShellControllerAdapter

/-- The launch that an operation waits for. -/
def Operation.awaited : Operation → Option ℕ
  | .launching _ launch => some launch
  | .rollingBack _ _ _ _ fallback => fallback
  | _ => none

namespace AdapterBackedClientController

variable {platform : RuntimePlatform} {c t : AdapterBackedClientController}

def awaited (c : AdapterBackedClientController) : Option ℕ := c.operation.bind Operation.awaited

/-- The launches are attended to by the operation in progress. -/
def Attends (c : AdapterBackedClientController) : Prop := c.adapter.Attended c.awaited

theorem attends_restarted {adapter : RealShellControllerAdapter} (h : adapter.Attended none)
    (stored : Option Json) : (restarted adapter stored).Attends := by
  rwa [Attends, awaited, restarted_operation, restarted_adapter]

theorem attends_connect (h : c.Attends) (profile : ClientProfile) :
    (c.connect profile).Attends := by
  unfold connect
  split
  · exact h
  · have hnone : c.operation = none := Option.not_isSome_iff_eq_none.mp ‹_›
    have hattended : c.adapter.Attended none := by rwa [Attends, awaited, hnone] at h
    split
    · exact hattended
    · exact hattended

theorem attends_disconnect (h : c.Attends) : c.disconnect.Attends := by
  unfold disconnect
  split
  · exact h
  · have hnone : c.operation = none := Option.not_isSome_iff_eq_none.mp ‹_›
    have hattended : c.adapter.Attended none := by rwa [Attends, awaited, hnone] at h
    exact hattended

theorem attends_executeConnect (h : c.adapter.Attended none) (profile : ClientProfile)
    (password : Text) : (c.executeConnect platform profile password).Attends := by
  unfold executeConnect
  rcases RealShellControllerAdapter.planConnect_cases platform c.adapter
    (c.connectCommand platform profile password) with ⟨error, heq⟩ | ⟨error, heq, -⟩ |
    ⟨input, -, hnone, heq⟩
  · rw [heq]
    exact h
  · rw [heq]
    exact h
  · rw [heq]
    exact h.beginLaunch hnone input

/-- The launch that an operation waits for has come to an end. -/
theorem attended_of_answeredLaunch {fallback : Option ℕ} (h : c.adapter.Attended fallback)
    (hanswered : c.answeredLaunch fallback = true) : c.adapter.Attended none := by
  cases fallback with
  | none => exact h
  | some i =>
    have hlt : i < c.adapter.launches.length := Nat.lt_of_succ_le (h.last i rfl).le
    have hget := List.getElem?_eq_getElem hlt
    refine h.release hget ?_
    rw [answeredLaunch, Option.bind_some, hget] at hanswered
    cases hstage : c.adapter.launches[i].stage <;> simp_all [LaunchStage.inProgress]

theorem attends_continuePassword (h : c.adapter.Attended none) (profile : ClientProfile)
    (password : Option (Option Text)) :
    (c.continuePassword platform profile password).Attends := by
  unfold continuePassword
  split
  · exact h
  · split
    · exact h
    · exact attends_executeConnect h profile _

theorem attends_continueSmoke (h : c.adapter.Attended none) (profile : ClientProfile)
    (launch : ℕ) (result : Option RoutingMiniSmokeResult) :
    (c.continueSmoke platform profile launch result).Attends := by
  unfold continueSmoke
  split
  · exact h
  · split
    · exact h
    · rw [smokeFailed, rollbackToLastKnownGood_eq]
      exact h

/-- A disconnect leaves the launches alone. -/
theorem rests_disconnect (a : RealShellControllerAdapter) (killed : Bool) :
    a.Rests (a.disconnect killed).1 := by
  unfold RealShellControllerAdapter.disconnect
  split
  · exact ⟨rfl, rfl, rfl⟩
  · split
    · exact ⟨rfl, rfl, rfl⟩
    · exact ⟨rfl, rfl, rfl⟩

theorem attends_step {e : ControllerEvent} (h : c.Attends) (ht : c.step platform e = some t) :
    t.Attends := by
  have hattended {operation : Operation} (hop : c.operation = some operation) :
      c.adapter.Attended operation.awaited := by
    rwa [Attends, awaited, hop] at h
  cases e with
  | connect profile => exact Option.some.inj ht ▸ attends_connect h profile
  | disconnect => exact Option.some.inj ht ▸ attends_disconnect h
  | passwordRead password =>
    obtain ⟨profile, hop, rfl⟩ := step_passwordRead ht
    exact attends_continuePassword (hattended hop) profile password
  | adapterAnswered =>
    rcases step_adapterAnswered ht with ⟨profile, launch, l, hop, hl, hend⟩ |
      ⟨profile, error, hop, rfl⟩ |
      ⟨profile, launch, quarantined, reason, fallback, hop, hans, rfl⟩ |
      ⟨activeProfileId, result, hop, rfl⟩
    · rcases hend with ⟨hstage, rfl⟩ | ⟨error, hstage, rfl⟩
      · exact (hattended hop).release hl (by rw [hstage]; rfl)
      · exact (hattended hop).release hl (by rw [hstage]; rfl)
    · exact hattended hop
    · exact attended_of_answeredLaunch (hattended hop) hans
    · exact hattended hop
  | smokeCompleted result =>
    obtain ⟨profile, launch, hop, rfl⟩ := step_smokeCompleted ht
    exact attends_continueSmoke (hattended hop) profile launch result
  | stateStored succeeded =>
    obtain ⟨operation, payload, answer, hop, hwritten, rfl⟩ := step_stateStored ht
    have hnone : c.adapter.Attended none := by
      cases operation with
      | storingQuarantine | storingRollback | storingSuccess => exact hattended hop
      | readingPassword | launching | refused | smoking | rollingBack | disconnecting
      | disconnectAnswered | finishing => cases hwritten
    unfold continueStored
    split
    · exact hnone
    · exact hnone
  | disconnectRequested killed =>
    obtain ⟨activeProfileId, hop, rfl⟩ := step_disconnectRequested ht
    exact RealShellControllerAdapter.Attended.rests (hattended hop)
      (rests_disconnect c.adapter killed)
  | finished =>
    obtain ⟨answer, hop, rfl⟩ := step_finished ht
    exact hattended hop
  | watcherTick =>
    obtain rfl | rfl := step_watcherTick ht
    · exact h
    · exact h
  | runtime event =>
    obtain ⟨adapter, hadapter, rfl⟩ := Option.map_eq_some_iff.mp ht
    exact h.runtimeStep hadapter

/-- The launches are attended to in every state of a run. -/
theorem attends_run {now : ℤ} {contents : Text → Option Text} {stored : Option Json}
    {es : List ControllerEvent}
    (hrun : Machine.run (step platform) (restarted (.initial now contents) stored) es = some t) :
    t.Attends :=
  Machine.run_invariant (fun _ _ _ h ht => attends_step h ht)
    (attends_restarted (RealShellControllerAdapter.attended_initial now contents) stored) hrun

end AdapterBackedClientController

/-! ## Processes -/

namespace RealShellControllerAdapter

/-- The process of a launch is alive. -/
def isAlive (a : RealShellControllerAdapter) (i : ℕ) : Bool :=
  a.launches[i]?.any (fun l => l.process == .alive)

/-- The exit handlers of the processes that have exited have run. -/
def exitsHandled (a : RealShellControllerAdapter) : Bool :=
  a.launches.all (fun l => l.stage != .started ||
    match l.process with
    | .exited _ => false
    | _ => true)

variable {a : RealShellControllerAdapter} {awaited : Option ℕ} {i : ℕ}

/-- A process that is alive belongs to the last launch. -/
theorem Attended.last_of_isAlive (h : Attended awaited a) (hi : a.isAlive i = true) :
    i + 1 = a.launches.length := by
  obtain ⟨l, hl, halive⟩ := (Option.any_eq_true _ _).mp hi
  have hprocess : l.process = .alive := beq_iff_eq.mp halive
  by_cases hprogress : l.stage.inProgress = true
  · exact h.last i (h.inProgress i l hl hprogress).1
  · have hstage : l.stage = .started := by
      have hconsistent := h.consistent i l hl
      cases hs : l.stage <;> simp_all [LaunchStage.inProgress, Launch.Consistent]
    have hattached : l.attached = true := by
      simp [Launch.attached, hstage, hprocess, ProcessState.unhandled]
    exact (h.running i (h.attached i l hl hattached)).1

/-- Once the exits have been handled, the running process is alive. -/
theorem Attended.isAlive_of_running (h : Attended awaited a) (hhandled : a.exitsHandled = true)
    (hi : a.runningProcess = some i) : a.isAlive i = true := by
  obtain ⟨-, l, hl, hattached, -⟩ := h.running i hi
  have hall := List.all_eq_true.mp hhandled l (List.mem_of_getElem? hl)
  refine (Option.any_eq_true _ _).mpr ⟨l, hl, ?_⟩
  cases hprocess : l.process <;>
    simp_all [Launch.attached, ProcessState.unhandled]

end RealShellControllerAdapter

namespace AdapterBackedClientController

/-- **One process at a time.** However the calls, the watcher, the launches and the
exits follow each other, no two processes are alive, and once the exits have been
handled the session is running exactly if the process that is stored as the running
one is alive. -/
theorem at_most_one_process (platform : RuntimePlatform) (now : ℤ)
    (contents : Text → Option Text) (stored : Option Json) (es : List ControllerEvent)
    (c : AdapterBackedClientController)
    (hrun : Machine.run (step platform) (restarted (.initial now contents) stored) es = some c) :
    (∀ i j, c.adapter.isAlive i = true → c.adapter.isAlive j = true → i = j) ∧
      (c.adapter.exitsHandled = true → (c.adapter.isRunning = true ↔
        ∃ i, c.adapter.isAlive i = true ∧ c.adapter.runningProcess = some i)) := by
  have hattends : c.Attends := attends_run hrun
  constructor
  · intro i j hi hj
    have hlast_i := hattends.last_of_isAlive hi
    have hlast_j := hattends.last_of_isAlive hj
    omega
  · intro hhandled
    constructor
    · intro hrunning
      obtain ⟨i, hi⟩ := Option.isSome_iff_exists.mp hrunning
      exact ⟨i, hattends.isAlive_of_running hhandled hi, hi⟩
    · rintro ⟨i, -, hi⟩
      exact Option.isSome_iff_exists.mpr ⟨i, hi⟩

/-- After a connect there is a process. -/
theorem at_most_one_process_connected :
    ∃ c, Machine.run (step .sample) sampleStart (connectEvents "p" 0) = some c ∧
      c.adapter.isAlive 0 = true ∧
      (∀ i j, c.adapter.isAlive i = true → c.adapter.isAlive j = true → i = j) ∧
      (c.adapter.exitsHandled = true → (c.adapter.isRunning = true ↔
        ∃ i, c.adapter.isAlive i = true ∧ c.adapter.runningProcess = some i)) := by
  have hend : (Machine.run (step .sample) sampleStart (connectEvents "p" 0)).any
      (fun c => c.adapter.isAlive 0) = true := by
    decide +kernel
  obtain ⟨c, hrun, halive⟩ := (Option.any_eq_true _ _).mp hend
  exact ⟨c, hrun, halive, at_most_one_process .sample 0 (fun _ => none) none _ c hrun⟩

end AdapterBackedClientController
