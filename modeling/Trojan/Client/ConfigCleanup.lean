import Trojan.Client.RuntimeProcesses

/-!
# The file of a session

A launch writes the configuration to a file whose name comes from the id of the
profile, and the file has to be there as long as the process may read it. When the
process exits, its exit handler first lets go of it, and then deletes the file: it
looks whether there is one, waits for the answer, and waits again for the deletion.
Meanwhile the next connect may have begun. If it is for a profile whose file has the
same name, the file that the handler deletes is the new one.

`configs_kept` says when this does not happen: as long as a launch opens its file
only after every cleanup of that file has come to its end. Then each cleanup deletes
what its own launch or an earlier one has written, and the file of a launch has the
contents it should have, from the moment it is written until the process exits.
-/

/-- The file that a cleanup is about to delete. -/
def ExitCleanup.path : ExitCleanup → Option Text
  | .idle => none
  | .checking path | .deleting path => some path

/-- The configuration has been written, and nothing has failed since. -/
def LaunchStage.written : LaunchStage → Bool
  | .settingPermissions | .startingProcess | .attaching | .started => true
  | _ => false

/-- The configuration has been written, and the process has not exited. -/
def Launch.holdsConfig (l : Launch) : Bool :=
  l.stage.written &&
    match l.process with
    | .absent | .alive => true
    | .exited _ | .handled => false

/-- A launch that has a file afterwards has had it before, and so with its cleanup. -/
structure Launch.KeepsFile (l l' : Launch) : Prop where
  configPath : l'.configPath = l.configPath
  content : l'.content = l.content
  opened : l'.stage = .writingConfig → l.stage = .writingConfig
  holds : l'.holdsConfig = true → l.holdsConfig = true
  cleanup : ∀ path, l'.cleanup.path = some path → l.cleanup.path = some path
  handled : l.process = .handled → l'.process = .handled

namespace RealShellControllerAdapter

variable {a t : RealShellControllerAdapter} {i : ℕ} {l : Launch} {platform : RuntimePlatform}
  {awaited : Option ℕ}

/-- **The configurations are kept.** No file is deleted for a launch that a later
launch has opened, and a configuration that has been written is there until the
process exits. -/
structure ConfigsKept (a : RealShellControllerAdapter) : Prop where
  deletions : ∀ d ∈ a.deletions, ∀ w, d.writer = some w → w ≤ d.cleaner
  written : ∀ (i : ℕ) (l : Launch), a.launches[i]? = some l → l.holdsConfig = true →
    a.files l.configPath = some ⟨some i, l.content⟩

/-- What keeps them: a file that is being written is there, and a cleanup finds no
file of a later launch. -/
structure FilesKept (a : RealShellControllerAdapter) : Prop extends ConfigsKept a where
  writers : ∀ path file w, a.files path = some file → file.writer = some w →
    w < a.launches.length
  opened : ∀ (i : ℕ) (l : Launch), a.launches[i]? = some l → l.stage = .writingConfig →
    ∃ content, a.files l.configPath = some ⟨some i, content⟩
  cleaning : ∀ (i : ℕ) (l : Launch) (path : Text), a.launches[i]? = some l →
    l.cleanup.path = some path → l.process = .handled ∧
      ∀ file w, a.files path = some file → file.writer = some w → w ≤ i

theorem filesKept_initial (now : ℤ) (contents : Text → Option Text) :
    FilesKept (initial now contents) where
  deletions _ h := nomatch h
  written _ _ h := nomatch h
  writers path file w hfile hwriter := by
    obtain ⟨content, -, rfl⟩ := Option.map_eq_some_iff.mp hfile
    exact nomatch hwriter
  opened _ _ h := nomatch h
  cleaning _ _ _ h := nomatch h

/-! ## Launches that have no file -/

/-- Only the last launch may have a file: one that it is writing, or one that its
process is running on. -/
theorem Attended.last_of_file (h : Attended awaited a) (hl : a.launches[i]? = some l)
    (hfile : l.stage.inProgress = true ∨ l.holdsConfig = true) : i + 1 = a.launches.length := by
  by_cases hprogress : l.stage.inProgress = true
  · exact h.last i (h.inProgress i l hl hprogress).1
  · have hholds : l.holdsConfig = true := hfile.resolve_left hprogress
    have hattached : l.attached = true := by
      have hconsistent := h.consistent i l hl
      cases hstage : l.stage <;> cases hprocess : l.process <;>
        simp_all [Launch.holdsConfig, LaunchStage.written, LaunchStage.inProgress, Launch.attached,
          Launch.Consistent, ProcessState.unhandled]
    exact (h.running i (h.attached i l hl hattached)).1

/-! ## Steps that leave the files alone -/

theorem FilesKept.setLaunch {l' : Launch} (h : FilesKept a) (hl : a.launches[i]? = some l)
    (hlaunches : t.launches = (a.setLaunch i l').launches) (hfiles : t.files = a.files)
    (hdeletions : t.deletions = a.deletions) (hk : l.KeepsFile l') : FilesKept t where
  deletions := hdeletions ▸ h.deletions
  written j m hm hholds := by
    rw [hfiles]
    rw [hlaunches] at hm
    rcases getElem?_setLaunch_cases hl hm with ⟨rfl, rfl⟩ | ⟨-, hm⟩
    · rw [hk.configPath, hk.content]
      exact h.written j l hl (hk.holds hholds)
    · exact h.written j m hm hholds
  writers path file w hfile hwriter := by
    rw [hlaunches, length_setLaunch]
    exact h.writers path file w (hfiles ▸ hfile) hwriter
  opened j m hm hstage := by
    rw [hfiles]
    rw [hlaunches] at hm
    rcases getElem?_setLaunch_cases hl hm with ⟨rfl, rfl⟩ | ⟨-, hm⟩
    · rw [hk.configPath]
      exact h.opened j l hl (hk.opened hstage)
    · exact h.opened j m hm hstage
  cleaning j m path hm hpath := by
    rw [hfiles]
    rw [hlaunches] at hm
    rcases getElem?_setLaunch_cases hl hm with ⟨rfl, rfl⟩ | ⟨-, hm⟩
    · obtain ⟨hhandled, hwriters⟩ := h.cleaning j l path hl (hk.cleanup path hpath)
      exact ⟨hk.handled hhandled, hwriters⟩
    · exact h.cleaning j m path hm hpath

/-- A launch that is only planned has no file. -/
theorem FilesKept.beginLaunch (h : FilesKept a) (input : RealShellConnectPlannerInput) :
    FilesKept (a.beginLaunch platform input) := by
  refine ⟨⟨h.deletions, ?_⟩, ?_, ?_, ?_⟩
  · intro j m hm hholds
    rcases getElem?_beginLaunch_cases hm with hm | ⟨-, rfl⟩
    · exact h.written j m hm hholds
    · exact nomatch hholds
  · intro path file w hfile hwriter
    have hlt := h.writers path file w hfile hwriter
    rw [beginLaunch_launches, List.length_append]
    omega
  · intro j m hm hstage
    rcases getElem?_beginLaunch_cases hm with hm | ⟨-, rfl⟩
    · exact h.opened j m hm hstage
    · exact nomatch hstage
  · intro j m path hm hpath
    rcases getElem?_beginLaunch_cases hm with hm | ⟨-, rfl⟩
    · exact h.cleaning j m path hm hpath
    · exact nomatch hpath

/-! ## A file is opened, written and deleted -/

/-- A launch in progress replaces its file, which no other launch has. -/
theorem FilesKept.setFile {l' : Launch} {new : Option ConfigFile} (h : FilesKept a)
    (hattended : Attended awaited a) (hl : a.launches[i]? = some l)
    (hprogress : l.stage.inProgress = true)
    (hlaunches : t.launches = (a.setLaunch i l').launches)
    (hfiles : t.files = Function.update a.files l.configPath new)
    (hdeletions : ∀ d ∈ t.deletions, ∀ w, d.writer = some w → w ≤ d.cleaner)
    (hpath : l'.configPath = l.configPath) (hcleanup : l'.cleanup = l.cleanup)
    (hprocess : l'.process = l.process)
    (hnew : ∀ file w, new = some file → file.writer = some w → w ≤ i ∧
      ∀ (j : ℕ) (m : Launch), a.launches[j]? = some m → m.cleanup.path = some l.configPath → w ≤ j)
    (hopened : l'.stage = .writingConfig → ∃ content, new = some ⟨some i, content⟩)
    (hholds : l'.holdsConfig = true → new = some ⟨some i, l'.content⟩) : FilesKept t := by
  have hlast : i + 1 = a.launches.length := hattended.last_of_file hl (.inl hprogress)
  have hother {j : ℕ} {m : Launch} (hm : a.launches[j]? = some m) (hne : j ≠ i) :
      ¬ (m.stage.inProgress = true ∨ m.holdsConfig = true) := by
    intro hfile
    have hlast' := hattended.last_of_file hm hfile
    omega
  refine ⟨⟨hdeletions, ?_⟩, ?_, ?_, ?_⟩
  · intro j m hm hm'
    rw [hlaunches] at hm
    rcases getElem?_setLaunch_cases hl hm with ⟨rfl, rfl⟩ | ⟨hne, hm⟩
    · rw [hfiles, hpath, Function.update_self]
      exact hholds hm'
    · exact absurd (.inr hm') (hother hm hne)
  · intro path file w hfile hwriter
    rw [hlaunches, length_setLaunch]
    rw [hfiles, Function.update_apply] at hfile
    split at hfile
    · have hle := (hnew file w hfile hwriter).1
      omega
    · exact h.writers path file w hfile hwriter
  · intro j m hm hm'
    rw [hlaunches] at hm
    rcases getElem?_setLaunch_cases hl hm with ⟨rfl, rfl⟩ | ⟨hne, hm⟩
    · rw [hfiles, hpath, Function.update_self]
      exact hopened hm'
    · exact absurd (.inl (by rw [hm']; rfl)) (hother hm hne)
  · intro j m path hm hm'
    rw [hlaunches] at hm
    have hbefore : ∃ n, a.launches[j]? = some n ∧ n.cleanup = m.cleanup ∧
        n.process = m.process := by
      rcases getElem?_setLaunch_cases hl hm with ⟨rfl, rfl⟩ | ⟨-, hm⟩
      · exact ⟨l, hl, hcleanup.symm, hprocess.symm⟩
      · exact ⟨m, hm, rfl, rfl⟩
    obtain ⟨n, hn, hcleanup, hprocess⟩ := hbefore
    obtain ⟨hhandled, hwriters⟩ := h.cleaning j n path hn (hcleanup ▸ hm')
    refine ⟨hprocess ▸ hhandled, fun file w hfile hwriter => ?_⟩
    rw [hfiles, Function.update_apply] at hfile
    split at hfile
    · subst path
      exact (hnew file w hfile hwriter).2 j n hn (hcleanup ▸ hm')
    · exact hwriters file w hfile hwriter

/-- A launch deletes its file, or the one that an earlier launch has left. -/
theorem FilesKept.deletion {file : ConfigFile} (h : FilesKept a) (path : Text)
    (hwriter : ∀ w, file.writer = some w → w ≤ i) :
    ∀ d ∈ (a.deleteFile i path file).deletions, ∀ w, d.writer = some w → w ≤ d.cleaner :=
  List.forall_mem_cons.mpr ⟨hwriter, h.deletions⟩

/-- An exit handler deletes a file that no launch has. -/
theorem FilesKept.cleanup {file : ConfigFile} {path : Text} (h : FilesKept a)
    (hattended : Attended awaited a) (hl : a.launches[i]? = some l)
    (hcleanup : l.cleanup = .deleting path) (hfile : a.files path = some file) :
    FilesKept ((a.deleteFile i path file).setLaunch i { l with cleanup := .idle }) := by
  obtain ⟨hhandled, hwriters⟩ := h.cleaning i l path hl (by rw [hcleanup]; rfl)
  have hlt : i < a.launches.length := (List.getElem?_eq_some_iff.mp hl).1
  -- a launch with this file would be a later one, and the last one
  have hother {j : ℕ} {m : Launch} {content : Text} (hm : a.launches[j]? = some m)
      (hm' : m.stage.inProgress = true ∨ m.holdsConfig = true) (hj : j ≠ i)
      (hfile' : a.files m.configPath = some ⟨some j, content⟩) : m.configPath ≠ path := by
    intro heq
    have hle := hwriters ⟨some j, content⟩ j (heq ▸ hfile') rfl
    have hlast := hattended.last_of_file hm hm'
    omega
  refine ⟨⟨h.deletion path (fun w => hwriters file w hfile), ?_⟩, ?_, ?_, ?_⟩
  · intro j m hm hholds
    rcases getElem?_setLaunch_cases hl hm with ⟨rfl, rfl⟩ | ⟨hne, hm⟩
    · have hprocess : l.holdsConfig = true := hholds
      simp [Launch.holdsConfig, hhandled] at hprocess
    · have hwritten := h.written j m hm hholds
      exact (Function.update_of_ne (hother hm (.inr hholds) hne hwritten) _ _).trans hwritten
  · intro path' file' w hfile' hwriter
    rw [length_setLaunch]
    rw [show ((a.deleteFile i path file).setLaunch i { l with cleanup := .idle }).files
      = Function.update a.files path none from rfl, Function.update_apply] at hfile'
    split at hfile'
    · cases hfile'
    · exact h.writers path' file' w hfile' hwriter
  · intro j m hm hstage
    rcases getElem?_setLaunch_cases hl hm with ⟨rfl, rfl⟩ | ⟨hne, hm⟩
    · have habsent : l.process = .absent := by
        simpa [Launch.Consistent, show l.stage = .writingConfig from hstage]
          using hattended.consistent j l hl
      cases habsent.symm.trans hhandled
    · obtain ⟨content, hopened⟩ := h.opened j m hm hstage
      exact ⟨content, (Function.update_of_ne
        (hother hm (.inl (by rw [hstage]; rfl)) hne hopened) _ _).trans hopened⟩
  · intro j m path' hm hpath'
    rcases getElem?_setLaunch_cases hl hm with ⟨rfl, rfl⟩ | ⟨hne, hm⟩
    · cases hpath'
    · obtain ⟨hhandled', hwriters'⟩ := h.cleaning j m path' hm hpath'
      refine ⟨hhandled', fun file' w hfile' hwriter => hwriters' file' w ?_ hwriter⟩
      rw [show ((a.deleteFile i path file).setLaunch i { l with cleanup := .idle }).files
        = Function.update a.files path none from rfl, Function.update_apply] at hfile'
      split at hfile'
      · cases hfile'
      · exact hfile'

/-! ## Steps of the platform -/

theorem FilesKept.handleExit {code : ℤ} (h : FilesKept a) (hattended : Attended awaited a)
    (hl : a.launches[i]? = some l) (hstage : l.stage = .started)
    (hprocess : l.process = .exited code) : FilesKept (a.handleExit i l code) := by
  have hrunning : a.runningProcess = some i := hattended.attached i l hl
    (by simp [Launch.attached, hstage, hprocess, ProcessState.unhandled])
  obtain ⟨hlast, -⟩ := hattended.running i hrunning
  unfold RealShellControllerAdapter.handleExit
  rw [if_pos hrunning]
  refine ⟨⟨h.deletions, ?_⟩, ?_, ?_, ?_⟩
  · intro j m hm hholds
    rcases getElem?_setLaunch_cases hl hm with ⟨-, rfl⟩ | ⟨-, hm⟩
    · simp [Launch.holdsConfig, hstage] at hholds
    · exact h.written j m hm hholds
  · intro path file w hfile hwriter
    exact (length_setLaunch (a.sessionEnded code) i _).symm ▸ h.writers path file w hfile hwriter
  · intro j m hm hwriting
    rcases getElem?_setLaunch_cases hl hm with ⟨-, rfl⟩ | ⟨-, hm⟩
    · cases hstage.symm.trans hwriting
    · exact h.opened j m hm hwriting
  · intro j m path hm hpath
    rcases getElem?_setLaunch_cases hl hm with ⟨rfl, rfl⟩ | ⟨-, hm⟩
    · refine ⟨rfl, fun file w hfile hwriter => ?_⟩
      have hlt := h.writers path file w hfile hwriter
      omega
    · exact h.cleaning j m path hm hpath

/-- A launch opens its file only if no cleanup is about to delete it. -/
def opensClean (a : RealShellControllerAdapter) : RuntimeEvent → Bool
  | .launchContinued i none =>
    a.launches[i]?.all (fun l => l.stage != .openingConfig ||
      a.launches.all (fun m => m.cleanup.path != some l.configPath))
  | _ => true

theorem FilesKept.continueLaunch {error : Option Text} (h : FilesKept a)
    (hattended : Attended awaited a) (hl : a.launches[i]? = some l)
    (hclean : a.opensClean (.launchContinued i error) = true)
    (ht : a.continueLaunch platform i l error = some t) : FilesKept t := by
  have hconsistent := hattended.consistent i l hl
  -- a stage before the file is written, or after the connect has failed
  have hkeeps {stage : LaunchStage} (hopened : stage ≠ .writingConfig)
      (hwritten : stage.written = false) : l.KeepsFile { l with stage := stage } := by
    refine ⟨rfl, rfl, fun heq => absurd heq hopened, fun hholds => ?_, fun _ => id, id⟩
    simp [Launch.holdsConfig, hwritten] at hholds
  cases error with
  | none =>
    cases hstage : l.stage with
    | creatingDirectory =>
      simp only [RealShellControllerAdapter.continueLaunch, hstage, Option.some.injEq] at ht
      subst ht
      exact h.setLaunch hl rfl rfl rfl (hkeeps (by simp) rfl)
    | openingConfig =>
      simp only [RealShellControllerAdapter.continueLaunch, hstage, Option.some.injEq] at ht
      subst ht
      refine h.setFile hattended hl (by rw [hstage]; rfl) rfl rfl h.deletions rfl rfl rfl ?_
        (fun _ => ⟨[], rfl⟩) (by simp [Launch.holdsConfig, LaunchStage.written])
      intro file w hfile hwriter
      obtain rfl := Option.some.inj hfile
      obtain rfl := Option.some.inj hwriter
      refine ⟨le_rfl, fun j m hm hpath => ?_⟩
      simp only [opensClean, hl, Option.all_some, hstage, bne_self_eq_false, Bool.false_or]
        at hclean
      have hne := List.all_eq_true.mp hclean m (List.mem_of_getElem? hm)
      exact absurd hpath (bne_iff_ne.mp hne)
    | writingConfig =>
      obtain ⟨content, hopened⟩ := h.opened i l hl hstage
      have hset {stage : LaunchStage}
          (hlaunches : t.launches = (a.setLaunch i { l with stage := stage }).launches)
          (hfiles : t.files = Function.update a.files l.configPath
            ((a.files l.configPath).map (fun file => { file with content := l.content })))
          (hdeletions : t.deletions = a.deletions) (hne : stage ≠ .writingConfig) :
          FilesKept t := by
        rw [hopened] at hfiles
        refine h.setFile hattended hl (by rw [hstage]; rfl) hlaunches hfiles
          (hdeletions ▸ h.deletions) rfl rfl rfl ?_ (fun heq => absurd heq hne) (fun _ => rfl)
        intro file w hfile hwriter
        obtain rfl := Option.some.inj hfile
        obtain rfl := Option.some.inj hwriter
        refine ⟨le_rfl, fun j m hm hpath => ?_⟩
        exact (h.cleaning j m l.configPath hm hpath).2 _ i hopened rfl
      simp only [RealShellControllerAdapter.continueLaunch, hstage] at ht
      split at ht
      · obtain rfl := Option.some.inj ht
        exact hset rfl rfl rfl (by simp)
      · obtain rfl := Option.some.inj ht
        exact hset rfl rfl rfl (by simp)
    | settingPermissions =>
      simp only [RealShellControllerAdapter.continueLaunch, hstage, Option.some.injEq] at ht
      subst ht
      refine h.setLaunch hl rfl rfl rfl ⟨rfl, rfl, (by simp), fun hholds => ?_, fun _ => id, id⟩
      rw [Launch.holdsConfig, hstage]
      exact hholds
    | startingProcess =>
      simp only [RealShellControllerAdapter.continueLaunch, hstage, Option.some.injEq] at ht
      subst ht
      have habsent : l.process = .absent := by
        simpa [Launch.Consistent, hstage] using hconsistent
      refine h.setLaunch hl rfl rfl rfl ⟨rfl, rfl, (by simp), fun _ => ?_, fun _ => id, fun heq => ?_⟩
      · rw [Launch.holdsConfig, hstage, habsent]
        rfl
      · cases habsent.symm.trans heq
    | attaching =>
      simp only [RealShellControllerAdapter.continueLaunch, hstage, Option.some.injEq] at ht
      subst ht
      refine h.setLaunch hl rfl rfl rfl ⟨rfl, rfl, (by simp), fun hholds => ?_, fun _ => id, id⟩
      rw [Launch.holdsConfig, hstage]
      exact hholds
    | started | failed => simp [RealShellControllerAdapter.continueLaunch, hstage] at ht
    | checkingConfig error =>
      simp only [RealShellControllerAdapter.continueLaunch, hstage, Option.some.injEq] at ht
      subst ht
      refine h.setLaunch hl rfl rfl rfl (hkeeps ?_ ?_)
      · split <;> simp
      · split <;> rfl
    | deletingConfig error =>
      simp only [RealShellControllerAdapter.continueLaunch, hstage, Option.map_eq_some_iff] at ht
      obtain ⟨file, hfile, rfl⟩ := ht
      have hlast := hattended.last_of_file hl (.inl (by rw [hstage]; rfl))
      refine h.setFile hattended hl (by rw [hstage]; rfl) rfl rfl
        (h.deletion l.configPath (fun w hwriter => ?_)) rfl rfl rfl (by simp) (by simp)
        (by simp [Launch.holdsConfig, LaunchStage.written])
      have hlt := h.writers l.configPath file w hfile hwriter
      omega
  | some error =>
    cases hstage : l.stage with
    | creatingDirectory | openingConfig | writingConfig | settingPermissions | startingProcess =>
      simp only [RealShellControllerAdapter.continueLaunch, hstage, Option.some.injEq] at ht
      subst ht
      refine h.setLaunch hl rfl rfl rfl (hkeeps ?_ ?_)
      · split <;> simp
      · split <;> rfl
    | checkingConfig reason | deletingConfig reason =>
      simp only [RealShellControllerAdapter.continueLaunch, hstage, Option.some.injEq] at ht
      subst ht
      exact h.setLaunch hl rfl rfl rfl (hkeeps (by simp) rfl)
    | attaching | started | failed =>
      simp [RealShellControllerAdapter.continueLaunch, hstage] at ht

theorem FilesKept.continueCleanup {error : Option Text} (h : FilesKept a)
    (hattended : Attended awaited a) (hl : a.launches[i]? = some l)
    (ht : a.continueCleanup i l error = some t) : FilesKept t := by
  cases error with
  | none =>
    cases hcleanup : l.cleanup with
    | idle => simp [RealShellControllerAdapter.continueCleanup, hcleanup] at ht
    | checking path =>
      simp only [RealShellControllerAdapter.continueCleanup, hcleanup, Option.some.injEq] at ht
      subst ht
      refine h.setLaunch hl rfl rfl rfl ⟨rfl, rfl, id, id, fun path' hpath => ?_, id⟩
      rw [hcleanup]
      show some path = some path'
      split at hpath
      · exact hpath
      · cases hpath
    | deleting path =>
      simp only [RealShellControllerAdapter.continueCleanup, hcleanup,
        Option.map_eq_some_iff] at ht
      obtain ⟨file, hfile, rfl⟩ := ht
      exact h.cleanup hattended hl hcleanup hfile
  | some error =>
    cases hcleanup : l.cleanup with
    | idle => simp [RealShellControllerAdapter.continueCleanup, hcleanup] at ht
    | checking path | deleting path =>
      simp only [RealShellControllerAdapter.continueCleanup, hcleanup, Option.some.injEq] at ht
      subst ht
      exact h.setLaunch hl rfl rfl rfl ⟨rfl, rfl, id, id, by simp [ExitCleanup.path], id⟩

theorem FilesKept.of_eq (h : FilesKept a) (hlaunches : t.launches = a.launches)
    (hfiles : t.files = a.files) (hdeletions : t.deletions = a.deletions) : FilesKept t where
  deletions := hdeletions ▸ h.deletions
  written := hlaunches ▸ hfiles ▸ h.written
  writers := hlaunches ▸ hfiles ▸ h.writers
  opened := hlaunches ▸ hfiles ▸ h.opened
  cleaning := hlaunches ▸ hfiles ▸ h.cleaning

theorem FilesKept.runtimeStep {e : RuntimeEvent} (h : FilesKept a)
    (hattended : Attended awaited a) (hclean : a.opensClean e = true)
    (ht : a.runtimeStep platform e = some t) : FilesKept t := by
  cases e with
  | clock now => exact Option.some.inj ht ▸ h.of_eq rfl rfl rfl
  | logged => exact Option.some.inj ht ▸ h.of_eq rfl rfl rfl
  | launchContinued i error =>
    obtain ⟨l, hl, ht⟩ := Option.bind_eq_some_iff.mp ht
    exact h.continueLaunch hattended hl hclean ht
  | processExited i code =>
    obtain ⟨l, hl, ht⟩ := Option.bind_eq_some_iff.mp ht
    obtain ⟨halive, ht⟩ := Option.ite_none_right_eq_some.mp ht
    obtain rfl := Option.some.inj ht
    refine h.setLaunch hl rfl rfl rfl ⟨rfl, rfl, id, fun hholds => ?_, fun _ => id, fun heq => ?_⟩
    · simp [Launch.holdsConfig] at hholds
    · exact nomatch halive.symm.trans heq
  | exitHandled i =>
    obtain ⟨l, hl, ht⟩ := Option.bind_eq_some_iff.mp ht
    split at ht
    · exact Option.some.inj ht ▸ h.handleExit hattended hl ‹_› ‹_›
    · cases ht
  | cleanupContinued i error =>
    obtain ⟨l, hl, ht⟩ := Option.bind_eq_some_iff.mp ht
    exact h.continueCleanup hattended hl ht
  | probeCompleted i isOpen =>
    obtain ⟨l, hl, ht⟩ := Option.bind_eq_some_iff.mp ht
    cases hpromotion : l.promotion with
    | idle | waiting => simp [completeProbe, hpromotion] at ht
    | probing deadline =>
      simp only [completeProbe, hpromotion] at ht
      split at ht <;> obtain rfl := Option.some.inj ht <;>
        exact h.setLaunch hl rfl rfl rfl ⟨rfl, rfl, id, id, fun _ => id, id⟩
  | promotionWoke i =>
    obtain ⟨l, hl, ht⟩ := Option.bind_eq_some_iff.mp ht
    cases hpromotion : l.promotion with
    | idle | probing => simp [wakePromotion, hpromotion] at ht
    | waiting deadline =>
      simp only [wakePromotion, hpromotion, Option.some.injEq] at ht
      subst ht
      exact h.setLaunch hl rfl rfl rfl ⟨rfl, rfl, id, id, fun _ => id, id⟩

theorem FilesKept.disconnect (h : FilesKept a) (killed : Bool) :
    FilesKept (a.disconnect killed).1 := by
  unfold RealShellControllerAdapter.disconnect
  split
  · exact h
  · split
    · exact h.of_eq rfl rfl rfl
    · exact h

end RealShellControllerAdapter

/-! ## Along a run -/

namespace AdapterBackedClientController

variable {platform : RuntimePlatform} {c t : AdapterBackedClientController}

theorem executeConnect_adapter (profile : ClientProfile) (password : Text) :
    (c.executeConnect platform profile password).adapter = c.adapter ∨
      ∃ input, input.configPath = configPathFor platform profile.id ∧
        (c.executeConnect platform profile password).adapter
          = c.adapter.beginLaunch platform input := by
  unfold executeConnect
  rcases RealShellControllerAdapter.planConnect_cases platform c.adapter
    (c.connectCommand platform profile password) with ⟨error, heq⟩ | ⟨error, heq, -⟩ |
    ⟨input, hparse, -, heq⟩
  · rw [heq]
    exact .inl rfl
  · rw [heq]
    exact .inl rfl
  · rw [heq]
    exact .inr ⟨input, (Option.some.inj (platform.of_parse hparse).2).symm, rfl⟩

/-- What the steps of the controller do to the adapter. -/
theorem adapter_step {e : ControllerEvent} (ht : c.step platform e = some t) :
    t.adapter = c.adapter ∨
      (∃ input profileId, input.configPath = configPathFor platform profileId ∧
        t.adapter = c.adapter.beginLaunch platform input) ∨
      (∃ killed, t.adapter = (c.adapter.disconnect killed).1) ∨
      ∃ event, e = .runtime event ∧ c.adapter.runtimeStep platform event = some t.adapter := by
  cases e with
  | connect profile =>
    obtain rfl := Option.some.inj ht
    unfold connect
    split
    · exact .inl rfl
    · split
      · exact .inl rfl
      · exact .inl rfl
  | disconnect =>
    obtain rfl := Option.some.inj ht
    unfold disconnect
    split
    · exact .inl rfl
    · exact .inl rfl
  | passwordRead password =>
    obtain ⟨profile, -, rfl⟩ := step_passwordRead ht
    unfold continuePassword
    split
    · exact .inl rfl
    · split
      · exact .inl rfl
      · rcases executeConnect_adapter profile _ with heq | ⟨input, hpath, heq⟩
        · exact .inl heq
        · exact .inr (.inl ⟨input, profile.id, hpath, heq⟩)
  | adapterAnswered =>
    rcases step_adapterAnswered ht with ⟨profile, launch, l, -, -, hend⟩ |
      ⟨profile, error, -, rfl⟩ | ⟨profile, launch, quarantined, reason, fallback, -, -, rfl⟩ |
      ⟨activeProfileId, result, -, rfl⟩
    · rcases hend with ⟨-, rfl⟩ | ⟨error, -, rfl⟩
      · exact .inl rfl
      · exact .inl rfl
    · exact .inl rfl
    · exact .inl rfl
    · exact .inl rfl
  | smokeCompleted result =>
    obtain ⟨profile, launch, -, rfl⟩ := step_smokeCompleted ht
    unfold continueSmoke
    split
    · exact .inl rfl
    · split
      · exact .inl rfl
      · rw [smokeFailed, rollbackToLastKnownGood_eq]
        exact .inl rfl
  | stateStored succeeded =>
    obtain ⟨operation, payload, answer, -, -, rfl⟩ := step_stateStored ht
    unfold continueStored
    split
    · exact .inl rfl
    · exact .inl rfl
  | disconnectRequested killed =>
    obtain ⟨activeProfileId, -, rfl⟩ := step_disconnectRequested ht
    exact .inr (.inr (.inl ⟨killed, rfl⟩))
  | finished =>
    obtain ⟨answer, -, rfl⟩ := step_finished ht
    exact .inl rfl
  | watcherTick =>
    obtain rfl | rfl := step_watcherTick ht
    · exact .inl rfl
    · exact .inl rfl
  | runtime event =>
    obtain ⟨adapter, hadapter, rfl⟩ := Option.map_eq_some_iff.mp ht
    exact .inr (.inr (.inr ⟨event, rfl, hadapter⟩))

/-- A launch opens its file only if no cleanup is about to delete it. -/
def opensClean (c : AdapterBackedClientController) : ControllerEvent → Bool
  | .runtime event => c.adapter.opensClean event
  | _ => true

theorem filesKept_step {e : ControllerEvent} (hattends : c.Attends) (h : c.adapter.FilesKept)
    (hclean : c.opensClean e = true) (ht : c.step platform e = some t) : t.adapter.FilesKept := by
  rcases adapter_step ht with heq | ⟨input, -, -, heq⟩ | ⟨killed, heq⟩ | ⟨event, rfl, hevent⟩
  · exact heq ▸ h
  · exact heq ▸ h.beginLaunch input
  · exact heq ▸ h.disconnect killed
  · exact h.runtimeStep hattends hclean hevent

/-- **When the configurations are kept.** They are in every state of a run in which a
launch opens its file only after the cleanups of that file have come to their end. -/
theorem configs_kept (platform : RuntimePlatform) (now : ℤ) (contents : Text → Option Text)
    (stored : Option Json) (es : List ControllerEvent)
    (hclean : Machine.Along (step platform) (fun c e => c.opensClean e = true)
      (restarted (.initial now contents) stored) es)
    (c : AdapterBackedClientController)
    (hc : Machine.Visits (step platform) (restarted (.initial now contents) stored) es c) :
    c.adapter.ConfigsKept := by
  obtain ⟨pre, hpre, hrun⟩ := hc
  have hkept : c.Attends ∧ c.adapter.FilesKept := by
    refine Machine.run_invariant_along (P := fun c => c.Attends ∧ c.adapter.FilesKept) ?_ ?_
      (hclean.beginning hpre) hrun
    · rintro c e t ⟨hattends, hfiles⟩ hclean ht
      exact ⟨attends_step hattends ht, filesKept_step hattends hfiles hclean ht⟩
    · have hattended := RealShellControllerAdapter.attended_initial now contents
      refine ⟨attends_restarted hattended stored, ?_⟩
      rw [restarted_adapter]
      exact RealShellControllerAdapter.filesKept_initial now contents
  exact hkept.2.toConfigsKept

/-! ### A profile that is connected again -/

/-- A profile is connected twice, and what happens in between is given: first before
the second connect, then after it has written its file. -/
def connectAgain (before after : List RuntimeEvent) : List ControllerEvent :=
  goodConnectEvents "p" 0 ++
    ([RuntimeEvent.processExited 0 0, .exitHandled 0] ++ before).map .runtime ++
    [.connect (sampleProfile "p"), .passwordRead (some (some (Text.ofString "secret")))] ++
    (List.replicate 3 (RuntimeEvent.launchContinued 1 none) ++ after ++
      List.replicate 3 (RuntimeEvent.launchContinued 1 none)).map .runtime

/-- The two steps of a cleanup. -/
def cleanupEvents : List RuntimeEvent := List.replicate 2 (.cleanupContinued 0 none)

/-- The file of the first session is deleted before the second connect. -/
theorem configs_kept_cleanup_first :
    ∃ c, Machine.run (step .sample) sampleStart (connectAgain cleanupEvents []) = some c ∧
      c.adapter.launches.any (fun l => l.holdsConfig) = true ∧ c.adapter.ConfigsKept := by
  have hend : (Machine.run (step .sample) sampleStart (connectAgain cleanupEvents [])).any
      (fun c => c.adapter.launches.any (fun l => l.holdsConfig)) = true := by
    decide +kernel
  obtain ⟨c, hrun, hholds⟩ := (Option.any_eq_true _ _).mp hend
  exact ⟨c, hrun, hholds, configs_kept .sample 0 (fun _ => none) none _ (by decide +kernel) c
    ⟨_, List.prefix_rfl, hrun⟩⟩

/-- The file of the second session is deleted for the first one, and the process of the
second is running without it. -/
theorem config_deleted :
    ¬ ∀ (platform : RuntimePlatform) (now : ℤ) (contents : Text → Option Text)
      (stored : Option Json) (es : List ControllerEvent) (c : AdapterBackedClientController),
      Machine.run (step platform) (restarted (.initial now contents) stored) es = some c →
        c.adapter.ConfigsKept := by
  intro h
  have hend : (Machine.run (step .sample) sampleStart (connectAgain [] cleanupEvents)).any
      (fun c => c.adapter.launches[1]?.any (fun l =>
        l.holdsConfig && (c.adapter.files l.configPath).isNone)) = true := by
    decide +kernel
  obtain ⟨c, hrun, hc⟩ := (Option.any_eq_true _ _).mp hend
  obtain ⟨l, hl, hgone⟩ := (Option.any_eq_true _ _).mp hc
  obtain ⟨hholds, hnone⟩ := Bool.and_eq_true_iff.mp hgone
  have hwritten := (h .sample 0 (fun _ => none) none _ c hrun).written 1 l hl hholds
  exact nomatch (Option.isNone_iff_eq_none.mp hnone).symm.trans hwritten

end AdapterBackedClientController
