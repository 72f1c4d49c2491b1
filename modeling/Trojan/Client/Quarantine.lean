import Trojan.Client.RolledBack

/-!
# Quarantine over a restart

A profile whose routing fails again and again is quarantined: its id goes to a
registry, and no connect of it is carried out any more. The registry is in memory.
What outlives the controller is the routing safety state in the store, and that has
one key: the one of the status, which is the profile that was quarantined last. A
controller that is started on it quarantines that profile and no other.

`quarantine_survives` says when nothing is lost by it: as long as no profile is
quarantined while there is another one in the registry. Ids are compared without
the white space around them.
-/

namespace RoutingQuarantineRegistry

/-- The registry that holds at most one key. -/
def ofKey (key : Option Text) : RoutingQuarantineRegistry := quarantine ∅ (key.getD [])

theorem ofKey_some (key : Text) :
    ofKey (some key) = if key.trim.isEmpty then ∅ else {key.trim} := rfl

/-- A blank key is no key. -/
theorem ofKey_filter (key : Option Text) :
    ofKey (key.filter (fun key => !key.trim.isEmpty)) = ofKey key := by
  cases key with
  | none => rfl
  | some key =>
    cases hblank : key.trim.isEmpty with
    | true => simp [Option.filter, hblank, ofKey, quarantine]
    | false => simp [Option.filter, hblank]

/-- Adding a key to a registry that holds no other. -/
theorem quarantine_of_subset {registry : RoutingQuarantineRegistry} {key : Text}
    (hkey : key.trim.isEmpty = false) (h : registry ⊆ {key.trim}) :
    registry.quarantine key = ofKey (some key) := by
  rw [ofKey_some, if_neg (by simp [hkey])]
  show (if key.trim.isEmpty then registry else insert key.trim registry) = {key.trim}
  rw [if_neg (by simp [hkey])]
  refine Finset.Subset.antisymm (Finset.insert_subset (Finset.mem_singleton_self _) h) ?_
  exact Finset.singleton_subset_iff.mpr (Finset.mem_insert_self _ _)

/-- The key of a registry that holds only one. -/
theorem ofKey_of_isQuarantined {key : Option Text} {id : Text}
    (h : (ofKey key).isQuarantined id = true) : ofKey (some id) = ofKey key := by
  obtain ⟨hne, hmem⟩ := Bool.and_eq_true_iff.mp h
  have hmem := of_decide_eq_true hmem
  rw [ofKey_some, if_neg (by simpa using hne)]
  cases key with
  | none => exact absurd hmem (Finset.notMem_empty _)
  | some key =>
    rw [ofKey_some] at hmem ⊢
    split at hmem
    · exact absurd hmem (Finset.notMem_empty _)
    · rw [if_neg ‹_›, Finset.mem_singleton.mp hmem]

end RoutingQuarantineRegistry

/-- A failure of a blank key is not counted. -/
theorem RoutingRollbackWindowTracker.nonblank_of_recordFailure
    {history : RoutingRollbackWindowTracker} {candidateKey : Text} {time : ℤ}
    (h : (history.recordFailure candidateKey time).2 = true) :
    candidateKey.trim.isEmpty = false := by
  by_contra hblank
  rw [Bool.not_eq_false] at hblank
  have hcounted : (history.recordFailure candidateKey time).2 = false := by
    simp [recordFailure, hblank]
  exact nomatch hcounted.symm.trans h

namespace AdapterBackedClientController

variable {platform : RuntimePlatform} {c t : AdapterBackedClientController}

/-! ## What a restart finds -/

/-- The registry of a controller that is started on what is stored. -/
def restoredRegistry (stored : Option Json) : RoutingQuarantineRegistry :=
  match readRoutingSafetyState stored with
  | none => ∅
  | some state => .ofKey state.quarantineKey

theorem restarted_quarantineRegistry (adapter : RealShellControllerAdapter)
    (stored : Option Json) :
    (restarted adapter stored).quarantineRegistry = restoredRegistry stored := by
  unfold restarted restoreRoutingSafetyState restoredRegistry
  cases readRoutingSafetyState stored with
  | none => rfl
  | some state => rfl

theorem restarted_quarantineKey (adapter : RealShellControllerAdapter) (stored : Option Json) :
    RoutingQuarantineRegistry.ofKey (restarted adapter stored).status.quarantineKey
      = restoredRegistry stored := by
  unfold restarted restoreRoutingSafetyState restoredRegistry
  cases readRoutingSafetyState stored with
  | none => rfl
  | some state => exact RoutingQuarantineRegistry.ofKey_filter _

theorem asString_getD (text : Option Text) :
    ((text.map Json.str).getD .null).asString = .ok text := by
  cases text with
  | none => rfl
  | some text => rfl

/-- A restart on what is written now finds the key of the status. -/
theorem restoredRegistry_routingSafetyState (c : AdapterBackedClientController) :
    restoredRegistry (some c.routingSafetyState) = .ofKey c.status.quarantineKey := by
  simp [restoredRegistry, readRoutingSafetyState, routingSafetyState, asString_getD,
    Except.toOption]

/-! ## The registry, the status and the store -/

/-- The registry holds the key of the status. -/
def Keyed (c : AdapterBackedClientController) : Prop :=
  c.quarantineRegistry = .ofKey c.status.quarantineKey

/-- A restart would find the registry as it is. -/
def Kept (c : AdapterBackedClientController) : Prop :=
  restoredRegistry c.stored = c.quarantineRegistry

end AdapterBackedClientController

/-- What an operation knows of the quarantine: the profile that it has quarantined
is not in the status yet, or what is being stored has its key. -/
def Operation.Keeps (c : AdapterBackedClientController) : Operation → Prop
  | .rollingBack profile _ quarantined _ _ =>
    c.quarantineRegistry = .ofKey (if quarantined then some profile.id else c.status.quarantineKey)
  | .storingQuarantine _ payload | .storingRollback _ _ _ payload
  | .storingSuccess _ _ payload =>
    c.Keyed ∧ AdapterBackedClientController.restoredRegistry (some payload) = c.quarantineRegistry
  | .readingPassword _ | .launching _ _ | .refused _ _ | .smoking _ _ | .disconnecting _
  | .disconnectAnswered _ _ | .finishing _ => c.Keyed ∧ c.Kept

namespace AdapterBackedClientController

variable {platform : RuntimePlatform} {c t : AdapterBackedClientController}

/-- The quarantine is kept, as far as the operation in progress has got. -/
def KeepsQuarantine (c : AdapterBackedClientController) : Prop :=
  match c.operation with
  | none => c.Keyed ∧ c.Kept
  | some operation => operation.Keeps c

theorem keepsQuarantine_restarted (adapter : RealShellControllerAdapter) (stored : Option Json) :
    (restarted adapter stored).KeepsQuarantine := by
  rw [KeepsQuarantine, restarted_operation, Keyed, Kept, restarted_quarantineRegistry,
    restarted_stored, restarted_quarantineKey]
  exact ⟨rfl, rfl⟩

/-- A step that leaves registry, key and store alone. -/
structure SameQuarantine (c t : AdapterBackedClientController) : Prop where
  registry : t.quarantineRegistry = c.quarantineRegistry
  key : t.status.quarantineKey = c.status.quarantineKey
  stored : t.stored = c.stored

theorem SameQuarantine.keyed (h : c.SameQuarantine t) (hc : c.Keyed) : t.Keyed := by
  rw [Keyed, h.registry, h.key]
  exact hc

theorem SameQuarantine.kept (h : c.SameQuarantine t) (hc : c.Kept) : t.Kept := by
  rw [Kept, h.registry, h.stored]
  exact hc

theorem SameQuarantine.keeps {operation : Operation} (h : c.SameQuarantine t)
    (hc : operation.Keeps c) : operation.Keeps t := by
  cases operation with
  | rollingBack =>
    simp only [Operation.Keeps, h.registry, h.key]
    exact hc
  | storingQuarantine | storingRollback | storingSuccess =>
    simp only [Operation.Keeps, h.registry]
    exact ⟨h.keyed hc.1, hc.2⟩
  | readingPassword | launching | refused | smoking | disconnecting | disconnectAnswered
  | finishing => exact ⟨h.keyed hc.1, h.kept hc.2⟩

/-- With the operation, nothing changes for the quarantine either. -/
theorem SameQuarantine.keepsQuarantine (h : c.SameQuarantine t)
    (hop : t.operation = c.operation) (hc : c.KeepsQuarantine) : t.KeepsQuarantine := by
  rw [KeepsQuarantine, hop]
  rw [KeepsQuarantine] at hc
  cases hoperation : c.operation with
  | none =>
    rw [hoperation] at hc
    exact ⟨h.keyed hc.1, h.kept hc.2⟩
  | some operation =>
    rw [hoperation] at hc
    exact h.keeps hc

theorem keepsQuarantine_of_eq {operation : Operation} (hop : t.operation = some operation)
    (h : operation.Keeps t) : t.KeepsQuarantine := by
  rw [KeepsQuarantine, hop]
  exact h

theorem keepsQuarantine_of_none (hop : t.operation = none) (h : t.Keyed ∧ t.Kept) :
    t.KeepsQuarantine := by
  rw [KeepsQuarantine, hop]
  exact h

theorem KeepsQuarantine.keeps {operation : Operation} (h : c.KeepsQuarantine)
    (hop : c.operation = some operation) : operation.Keeps c := by
  rwa [KeepsQuarantine, hop] at h

theorem KeepsQuarantine.idle (h : c.KeepsQuarantine) (hop : c.operation = none) :
    c.Keyed ∧ c.Kept := by
  rwa [KeepsQuarantine, hop] at h

/-- What is written has the key of the registry. -/
theorem Keyed.written (h : c.Keyed) :
    restoredRegistry (some c.routingSafetyState) = c.quarantineRegistry := by
  rw [restoredRegistry_routingSafetyState]
  exact h.symm

/-! ## Steps -/

theorem keepsQuarantine_connect (h : c.KeepsQuarantine) (profile : ClientProfile) :
    (c.connect profile).KeepsQuarantine := by
  unfold connect
  split
  · exact SameQuarantine.keepsQuarantine (c := c) ⟨rfl, rfl, rfl⟩ rfl h
  · obtain ⟨hkeyed, hkept⟩ := h.idle (Option.not_isSome_iff_eq_none.mp ‹_›)
    split
    · rename_i hquarantined
      -- the registry has one key, so that the profile is the one of the status
      have hkeyed' : c.quarantineRegistry = .ofKey (some profile.id) := by
        rw [hkeyed] at hquarantined
        exact hkeyed.trans (RoutingQuarantineRegistry.ofKey_of_isQuarantined hquarantined).symm
      exact keepsQuarantine_of_eq rfl ⟨hkeyed', (restoredRegistry_routingSafetyState _).trans
        hkeyed'.symm⟩
    · exact keepsQuarantine_of_eq rfl ⟨hkeyed, hkept⟩

theorem keepsQuarantine_executeConnect (h : c.Keyed ∧ c.Kept) (profile : ClientProfile)
    (password : Text) : (c.executeConnect platform profile password).KeepsQuarantine := by
  unfold executeConnect
  split
  · exact keepsQuarantine_of_none rfl h
  · exact keepsQuarantine_of_eq rfl h
  · exact keepsQuarantine_of_eq rfl h

theorem keepsQuarantine_continuePassword (h : c.Keyed ∧ c.Kept) (profile : ClientProfile)
    (password : Option (Option Text)) :
    (c.continuePassword platform profile password).KeepsQuarantine := by
  unfold continuePassword
  split
  · exact keepsQuarantine_of_none rfl h
  · split
    · exact keepsQuarantine_of_eq rfl h
    · exact keepsQuarantine_executeConnect h profile _

theorem disconnectAnswered_quarantineKey (activeProfileId : Option Text)
    (result : ControllerCommandResult) :
    (c.disconnectAnswered activeProfileId result).status.quarantineKey
      = c.status.quarantineKey := by
  simp only [disconnectAnswered]
  split
  · rfl
  · split <;> rfl

theorem reconcile_quarantineKey :
    c.reconcileStatusWithSession.quarantineKey = c.status.quarantineKey := by
  unfold reconcileStatusWithSession endedStatus
  repeat' split
  all_goals rfl

/-- A failure that quarantines the profile quarantines it alone. -/
theorem keeps_noteFailure {profile : ClientProfile} (h : c.Keyed)
    (hfirst : c.quarantines profile = true → c.quarantineRegistry ⊆ {profile.id.trim}) :
    (c.noteFailure profile).quarantineRegistry
      = .ofKey (if c.quarantines profile then some profile.id else c.status.quarantineKey) := by
  show (if c.quarantines profile then c.quarantineRegistry.quarantine profile.id
    else c.quarantineRegistry) = _
  split
  · rename_i hquarantines
    exact RoutingQuarantineRegistry.quarantine_of_subset
      (RoutingRollbackWindowTracker.nonblank_of_recordFailure hquarantines) (hfirst hquarantines)
  · exact h

/-- No profile is quarantined while there is another one in the registry. -/
def quarantinesAlone (c : AdapterBackedClientController) (e : ControllerEvent) : Bool :=
  match e, c.operation with
  | .smokeCompleted (some result), some (.smoking profile _) =>
    result.passed || !c.quarantines profile || decide (c.quarantineRegistry ⊆ {profile.id.trim})
  | _, _ => true

theorem keepsQuarantine_continueSmoke {profile : ClientProfile} {launch : ℕ}
    {result : Option RoutingMiniSmokeResult} (hop : c.operation = some (.smoking profile launch))
    (h : c.Keyed ∧ c.Kept) (halone : c.quarantinesAlone (.smokeCompleted result) = true) :
    (c.continueSmoke platform profile launch result).KeepsQuarantine := by
  unfold continueSmoke
  split
  · exact keepsQuarantine_of_none rfl h
  · split
    · exact keepsQuarantine_of_eq rfl ⟨h.1, (restoredRegistry_routingSafetyState _).trans h.1.symm⟩
    · rename_i result hfailed
      rw [smokeFailed, rollbackToLastKnownGood_eq]
      refine keepsQuarantine_of_eq rfl (keeps_noteFailure h.1 (fun hquarantines => ?_))
      simpa [quarantinesAlone, hop, hfailed, hquarantines] using halone

theorem keepsQuarantine_stored {operation : Operation} {payload : Json} {answer : Answer}
    (hstoring : storing operation = some (payload, answer)) (h : operation.Keeps c) :
    (c.continueStored payload answer true).KeepsQuarantine := by
  refine keepsQuarantine_of_eq rfl ?_
  cases operation with
  | storingQuarantine | storingRollback | storingSuccess =>
    obtain ⟨rfl, -⟩ := Prod.mk.inj (Option.some.inj hstoring)
    exact h
  | readingPassword | launching | refused | smoking | rollingBack | disconnecting
  | disconnectAnswered | finishing => cases hstoring

theorem keepsQuarantine_step {e : ControllerEvent} (h : c.KeepsQuarantine)
    (halone : c.quarantinesAlone e = true) (hstored : e ≠ .stateStored false)
    (ht : c.step platform e = some t) : t.KeepsQuarantine := by
  cases e with
  | connect profile => exact Option.some.inj ht ▸ keepsQuarantine_connect h profile
  | disconnect =>
    obtain rfl := Option.some.inj ht
    show c.disconnect.KeepsQuarantine
    unfold disconnect
    split
    · exact SameQuarantine.keepsQuarantine (c := c) ⟨rfl, rfl, rfl⟩ rfl h
    · exact keepsQuarantine_of_eq rfl (h.idle (Option.not_isSome_iff_eq_none.mp ‹_›))
  | passwordRead password =>
    obtain ⟨profile, hop, rfl⟩ := step_passwordRead ht
    exact keepsQuarantine_continuePassword (h.keeps hop) profile password
  | adapterAnswered =>
    rcases step_adapterAnswered ht with ⟨profile, launch, l, hop, -, hend⟩ |
      ⟨profile, error, hop, rfl⟩ | ⟨profile, launch, quarantined, reason, fallback, hop, -, rfl⟩ |
      ⟨activeProfileId, result, hop, rfl⟩
    · rcases hend with ⟨-, rfl⟩ | ⟨error, -, rfl⟩
      · exact keepsQuarantine_of_eq rfl (h.keeps hop)
      · exact keepsQuarantine_of_eq rfl (h.keeps hop)
    · exact keepsQuarantine_of_eq rfl (h.keeps hop)
    · exact keepsQuarantine_of_eq rfl ⟨h.keeps hop,
        (restoredRegistry_routingSafetyState _).trans (h.keeps hop).symm⟩
    · have hsame : c.SameQuarantine (c.disconnectAnswered activeProfileId result) :=
        ⟨rfl, disconnectAnswered_quarantineKey activeProfileId result, rfl⟩
      exact keepsQuarantine_of_eq rfl ⟨hsame.keyed (h.keeps hop).1, hsame.kept (h.keeps hop).2⟩
  | smokeCompleted result =>
    obtain ⟨profile, launch, hop, rfl⟩ := step_smokeCompleted ht
    exact keepsQuarantine_continueSmoke hop (h.keeps hop) halone
  | stateStored succeeded =>
    obtain ⟨operation, payload, answer, hop, hstoring, rfl⟩ := step_stateStored ht
    cases succeeded with
    | true => exact keepsQuarantine_stored hstoring (h.keeps hop)
    | false => exact absurd rfl hstored
  | disconnectRequested killed =>
    obtain ⟨activeProfileId, hop, rfl⟩ := step_disconnectRequested ht
    exact keepsQuarantine_of_eq rfl (h.keeps hop)
  | finished =>
    obtain ⟨answer, hop, rfl⟩ := step_finished ht
    exact keepsQuarantine_of_none rfl (h.keeps hop)
  | watcherTick =>
    obtain rfl | rfl := step_watcherTick ht
    · exact h
    · exact SameQuarantine.keepsQuarantine (c := c) ⟨rfl, reconcile_quarantineKey, rfl⟩ rfl h
  | runtime event =>
    obtain ⟨adapter, -, rfl⟩ := Option.map_eq_some_iff.mp ht
    exact SameQuarantine.keepsQuarantine (c := c) ⟨rfl, rfl, rfl⟩ rfl h

/-! ## Along a run -/

/-- The controller is refusing a connect because the profile is quarantined. -/
def refusesQuarantined (c : AdapterBackedClientController) : Bool :=
  match c.operation with
  | some (.storingQuarantine _ _) => true
  | _ => false

/-- **The quarantine survives a restart**: a controller that is started on what is
stored quarantines the same profiles, and refuses the same connects. -/
def QuarantineSurvives (c : AdapterBackedClientController) : Prop :=
  ∀ (adapter : RealShellControllerAdapter) (profile : ClientProfile),
    (restarted adapter c.stored).quarantineRegistry.isQuarantined profile.id
        = c.quarantineRegistry.isQuarantined profile.id ∧
      ((restarted adapter c.stored).connect profile).refusesQuarantined
        = (c.connect profile).refusesQuarantined

theorem refusesQuarantined_connect (h : c.operation = none) (profile : ClientProfile) :
    (c.connect profile).refusesQuarantined = c.quarantineRegistry.isQuarantined profile.id := by
  unfold connect
  rw [if_neg (by simp [h])]
  split
  · exact Eq.symm ‹_›
  · exact (Bool.eq_false_iff.mpr ‹_›).symm

theorem quarantineSurvives_of_kept (hop : c.operation = none) (h : c.Kept) :
    c.QuarantineSurvives := by
  intro adapter profile
  rw [refusesQuarantined_connect (restarted_operation adapter c.stored),
    refusesQuarantined_connect hop, restarted_quarantineRegistry, h]
  exact ⟨rfl, rfl⟩

/-- **When the quarantine survives a restart.** If the store does not fail, it does in
every state between operations of a run in which no profile is quarantined while
there is another one in the registry. -/
theorem quarantine_survives (platform : RuntimePlatform) (now : ℤ)
    (contents : Text → Option Text) (stored : Option Json) (es : List ControllerEvent)
    (hstored : ∀ e ∈ es, e ≠ .stateStored false)
    (halone : Machine.Along (step platform) (fun c e => c.quarantinesAlone e = true)
      (restarted (.initial now contents) stored) es)
    (c : AdapterBackedClientController)
    (hc : Machine.Visits (step platform) (restarted (.initial now contents) stored) es c)
    (hop : c.operation = none) : c.QuarantineSurvives := by
  obtain ⟨pre, hpre, hrun⟩ := hc
  have hkeeps : c.KeepsQuarantine :=
    Machine.run_invariant_along
      (fun _ _ _ h hC ht => keepsQuarantine_step h hC.1 hC.2 ht)
      (keepsQuarantine_restarted _ stored)
      ((Machine.along_and_of_forall halone hstored).beginning hpre) hrun
  exact quarantineSurvives_of_kept hop (hkeeps.idle hop).2

/-! ### Profiles that fail twice -/

/-- A profile fails twice, and its process exits each time. -/
def failsTwice (id : String) (launch : ℕ) : List ControllerEvent :=
  failedConnectEvents id launch [.processExited launch 1, .exitHandled launch] ++
    failedConnectEvents id (launch + 1) [.processExited (launch + 1) 1, .exitHandled (launch + 1)]

/-- A write of the state that is answered is one that succeeded. -/
def ControllerEvent.isStored : ControllerEvent → Bool
  | .stateStored succeeded => succeeded
  | _ => true

/-- One profile that fails is quarantined after a restart, too. -/
theorem quarantine_survives_one :
    ∃ c, Machine.run (step .sample) sampleStart (failsTwice "p" 0) = some c ∧
      c.quarantineRegistry = {Text.ofString "p"} ∧ c.QuarantineSurvives := by
  have hend : (Machine.run (step .sample) sampleStart (failsTwice "p" 0)).any (fun c =>
      c.operation.isNone && decide (c.quarantineRegistry = {Text.ofString "p"})) = true := by
    decide +kernel
  obtain ⟨c, hrun, hc⟩ := (Option.any_eq_true _ _).mp hend
  obtain ⟨hnone, hregistry⟩ := Bool.and_eq_true_iff.mp hc
  have hall : (failsTwice "p" 0).all
      ControllerEvent.isStored = true := by
    decide +kernel
  refine ⟨c, hrun, of_decide_eq_true hregistry, quarantine_survives .sample 0 (fun _ => none) none
    (failsTwice "p" 0) ?_ (by decide +kernel) c ⟨_, List.prefix_rfl, hrun⟩
    (Option.isNone_iff_eq_none.mp hnone)⟩
  rintro e he rfl
  cases List.all_eq_true.mp hall _ he

/-- Of two profiles that fail, the first can be connected again after a restart. -/
theorem quarantine_lost :
    ¬ ∀ (platform : RuntimePlatform) (now : ℤ) (contents : Text → Option Text)
      (stored : Option Json) (es : List ControllerEvent) (c : AdapterBackedClientController),
      (∀ e ∈ es, e ≠ .stateStored false) →
      Machine.run (step platform) (restarted (.initial now contents) stored) es = some c →
      c.operation = none → c.QuarantineSurvives := by
  intro h
  have hend : (Machine.run (step .sample) sampleStart (failsTwice "p" 0 ++ failsTwice "q" 2)).any
      (fun c => c.operation.isNone && c.quarantineRegistry.isQuarantined (Text.ofString "p") &&
        !(restoredRegistry c.stored).isQuarantined (Text.ofString "p")) = true := by
    decide +kernel
  obtain ⟨c, hrun, hc⟩ := (Option.any_eq_true _ _).mp hend
  obtain ⟨hc, hlost⟩ := Bool.and_eq_true_iff.mp hc
  obtain ⟨hnone, hquarantined⟩ := Bool.and_eq_true_iff.mp hc
  have hall : (failsTwice "p" 0 ++ failsTwice "q" 2).all
      ControllerEvent.isStored = true := by
    decide +kernel
  have hstored : ∀ e ∈ failsTwice "p" 0 ++ failsTwice "q" 2, e ≠ .stateStored false := by
    rintro e he rfl
    cases List.all_eq_true.mp hall _ he
  have hsurvives := h .sample 0 (fun _ => none) none _ c hstored hrun
    (Option.isNone_iff_eq_none.mp hnone) c.adapter (sampleProfile "p")
  rw [restarted_quarantineRegistry] at hsurvives
  have hsame : (restoredRegistry c.stored).isQuarantined (Text.ofString "p")
      = c.quarantineRegistry.isQuarantined (Text.ofString "p") := hsurvives.1
  rw [hsame, hquarantined] at hlost
  cases hlost

end AdapterBackedClientController
