import Trojan.Client.ProfileSerialization
import Trojan.Util.Machine

/-!
# The store of profiles

`profile_store.dart` keeps the profiles and which of them is selected, each under a
key of its own in the local store. The list is written some time after a change, the
selection at once – by those operations that write it. Choosing a profile and
removing one do; adding a profile and changing one select it too, and do not.

What a fresh store makes of the two keys is a function of them
(`ProfileStore.loadedSelection`): the saved id, trimmed, if some profile has it, and
else the first profile. The list is always read back, up to what the codec does to
routing configurations. `ProfileStore.survives_iff` says exactly which sequences of
operations leave a selection that is read back as well.
-/

/-- The two keys of the local store. -/
structure LocalState where
  /-- `profiles.json` -/
  profiles : Option Text := none
  /-- `profiles.selectedId` -/
  selectedId : Option Text := none
  deriving DecidableEq, Repr

/-- A store that has been loaded, with the local store it writes to. -/
structure ProfileStore where
  profiles : List ClientProfile
  selectedProfileId : Option Text
  /-- `_saveDebounce` is active. -/
  saveScheduled : Bool := false
  stored : LocalState

namespace ProfileStore

variable (platform : ProfilePlatform)

/-- The ids of the profiles. -/
def ids (self : ProfileStore) : List Text := self.profiles.map ClientProfile.id

def selectedProfile (self : ProfileStore) : Option ClientProfile :=
  match self.selectedProfileId with
  | none => self.profiles.head?
  | some selectedId =>
    (self.profiles.find? (fun profile => profile.id == selectedId)).or self.profiles.head?

/-- The selection that is loaded. -/
def loadedSelection (ids : List Text) (savedSelectedId : Option Text) : Option Text :=
  match savedSelectedId with
  | none => ids.head?
  | some saved => if saved.trim ≠ [] ∧ saved.trim ∈ ids then some saved.trim else ids.head?

/-- The profiles that are loaded, into a store with some initial ones. -/
def loadedProfiles (clock : ℕ → DateTime) (initialProfiles : List ClientProfile)
    (raw : Option Text) : Except ReadError (List ClientProfile) :=
  match raw with
  | none => .ok initialProfiles
  | some raw => if raw.trim = [] then .ok initialProfiles else platform.decodeProfileList clock raw

/-- **`load`**. -/
def load (clock : ℕ → DateTime) (initialProfiles : List ClientProfile) (stored : LocalState) :
    Except ReadError ProfileStore := do
  let profiles ← loadedProfiles platform clock initialProfiles stored.profiles
  return {
    profiles := profiles
    selectedProfileId := loadedSelection (profiles.map ClientProfile.id) stored.selectedId
    stored := stored }

def save (self : ProfileStore) : ProfileStore :=
  { self with stored :=
    { self.stored with profiles := some (platform.encodeProfileList self.profiles) } }

/-- `_scheduleDebouncedSave`; without a delay, the list is saved at once. -/
def scheduleDebouncedSave (noDelay : Bool) (self : ProfileStore) : ProfileStore :=
  if noDelay then save platform { self with saveScheduled := false }
  else { self with saveScheduled := true }

/-- `_persistSelectedProfile` -/
def persistSelectedProfile (self : ProfileStore) : ProfileStore :=
  { self with stored := { self.stored with selectedId := self.selectedProfileId } }

def flushPendingSave (self : ProfileStore) : ProfileStore :=
  save platform { self with saveScheduled := false }

/-- What happens to a store. -/
inductive Event where
  | upsertProfile (profile : ClientProfile) (now : DateTime)
  | addSampleProfile (nowForId now : DateTime)
  | selectProfile (id : Text)
  | removeSelectedProfile
  | syncStoredPasswordFlags (flagsByProfileId : List (Text × Bool))
  /-- The timer of a scheduled save. -/
  | saveTimer

def upsertProfile (noDelay : Bool) (profile : ClientProfile) (now : DateTime)
    (self : ProfileStore) : ProfileStore :=
  let profiles := match self.profiles.findIdx? (fun item => item.id == profile.id) with
    | none => self.profiles ++ [profile]
    | some index => self.profiles.set index { profile with updatedAt := now }
  scheduleDebouncedSave platform noDelay
    { self with profiles := profiles, selectedProfileId := some profile.id }

def newSampleProfile (nowForId now : DateTime) (self : ProfileStore) : ClientProfile where
  id := Text.ofString ("sample-" ++ toString nowForId.microsecondsSinceEpoch)
  name := Text.ofString "New Sample Profile"
  serverHost := Text.ofString "new-edge.example.com"
  serverPort := 443
  sni := Text.ofString "front.example.com"
  localSocksPort := 1080 + self.profiles.length
  verifyTls := true
  notes := Text.ofString "Created from the desktop client shell skeleton."
  updatedAt := now

def addSampleProfile (noDelay : Bool) (profile : ClientProfile) (self : ProfileStore) :
    ProfileStore :=
  scheduleDebouncedSave platform noDelay
    { self with
      profiles := self.profiles ++ [profile]
      selectedProfileId := some profile.id }

def selectProfile (id : Text) (self : ProfileStore) : ProfileStore :=
  if self.selectedProfileId = some id then self
  else persistSelectedProfile { self with selectedProfileId := some id }

def removeSelectedProfile (noDelay : Bool) (self : ProfileStore) : ProfileStore :=
  match self.selectedProfile with
  | none => self
  | some selected =>
    let profiles := self.profiles.filter (fun item => item.id != selected.id)
    persistSelectedProfile (scheduleDebouncedSave platform noDelay
      { self with
        profiles := profiles
        selectedProfileId := (profiles.map ClientProfile.id).head? })

/-- The flag that a profile is to have. -/
def withFlag (flagsByProfileId : List (Text × Bool)) (profile : ClientProfile) : ClientProfile :=
  { profile with hasStoredPassword := (flagsByProfileId.lookup profile.id).getD false }

def syncStoredPasswordFlags (noDelay : Bool) (flagsByProfileId : List (Text × Bool))
    (self : ProfileStore) : ProfileStore :=
  let profiles := self.profiles.map (withFlag flagsByProfileId)
  if profiles = self.profiles then self
  else scheduleDebouncedSave platform noDelay { self with profiles := profiles }

/-- **A step.** The ids of profiles are unique, so that a sample whose id is taken is
refused; and only a profile that exists can be selected. -/
def step (noDelay : Bool) (self : ProfileStore) : Event → Option ProfileStore
  | .upsertProfile profile now => some (self.upsertProfile platform noDelay profile now)
  | .addSampleProfile nowForId now =>
    let profile := self.newSampleProfile nowForId now
    if profile.id ∈ self.ids then none else some (self.addSampleProfile platform noDelay profile)
  | .selectProfile id => if id ∈ self.ids then some (self.selectProfile id) else none
  | .removeSelectedProfile => some (self.removeSelectedProfile platform noDelay)
  | .syncStoredPasswordFlags flagsByProfileId =>
    some (self.syncStoredPasswordFlags platform noDelay flagsByProfileId)
  | .saveTimer =>
    if self.saveScheduled then some (save platform { self with saveScheduled := false }) else none

/-! ## What is read back -/

/-- A profile with the routing configuration that is read where that of the other was
written. -/
def SameProfile (profile reloaded : ClientProfile) : Prop :=
  reloaded = { profile with routing := reloaded.routing } ∧
    RoutingProfileCodec.decodeFromObject platform.toRoutingPlatform
      (.obj (RoutingProfileCodec.encodeToJsonMap platform.toRoutingPlatform
        (platform.normalizeRouting profile.routing))) = .ok reloaded.routing

/-- **The store survives a reload**: whatever it is loaded into, and whenever, the list
and the selection are the same. -/
def Survives (self : ProfileStore) : Prop :=
  ∀ clock initialProfiles, ∃ reloaded,
    load platform clock initialProfiles (self.flushPendingSave platform).stored = .ok reloaded
      ∧ List.Forall₂ (SameProfile platform) self.profiles reloaded.profiles
      ∧ reloaded.selectedProfileId = self.selectedProfileId

/-- What is needed of the libraries for a list of profiles: its JSON and its dates are
read back, and the text of a JSON object is not blank. -/
structure ReadsBack (profiles : List ClientProfile) : Prop where
  json : platform.jsonDecode (platform.encodeProfileList profiles)
    = .ok (platform.profileListPayload profiles)
  notBlank : (platform.encodeProfileList profiles).trim ≠ []
  date : ∀ profile ∈ profiles,
    platform.tryParse (platform.toIso8601String profile.updatedAt) = some profile.updatedAt

/-- The two keys agree: what would be loaded is what is selected. -/
def Consistent (self : ProfileStore) : Prop :=
  self.selectedProfileId = loadedSelection self.ids self.stored.selectedId

variable {platform}

/-- Every profile is read back, whatever its routing configuration. -/
theorem fromJson_toJson_sameProfile {profile : ClientProfile} (nowForId now : DateTime)
    (hdate : platform.tryParse (platform.toIso8601String profile.updatedAt)
      = some profile.updatedAt) :
    ∃ reloaded, platform.fromJson nowForId now (platform.toJson profile) = .ok reloaded
      ∧ SameProfile platform profile reloaded := by
  obtain ⟨routing, hrouting⟩ := RoutingProfileCodec.exists_decode_encode
    platform.toRoutingPlatform (platform.normalizeRouting profile.routing)
  refine ⟨{ profile with routing := routing },
    platform.readProfile_profileFields "profile-" nowForId now hdate ?_ hrouting, rfl, hrouting⟩
  simp [ProfilePlatform.toJson, ProfilePlatform.profileFields, bind, Except.bind, pure, Except.pure]

/-- The ids are read back. -/
theorem ids_of_sameProfile {profiles reloaded : List ClientProfile}
    (h : List.Forall₂ (SameProfile platform) profiles reloaded) :
    reloaded.map ClientProfile.id = profiles.map ClientProfile.id := by
  induction h with
  | nil => rfl
  | cons hfirst _ ih =>
    rw [List.map_cons, List.map_cons, ih, hfirst.1]

/-- A store that has been loaded is consistent. -/
theorem consistent_of_load {clock : ℕ → DateTime} {initialProfiles : List ClientProfile}
    {stored : LocalState} {self : ProfileStore}
    (h : load platform clock initialProfiles stored = .ok self) : Consistent self := by
  unfold load at h
  cases hprofiles : loadedProfiles platform clock initialProfiles stored.profiles with
  | error error =>
    rw [hprofiles] at h
    exact nomatch h
  | ok profiles =>
    rw [hprofiles] at h
    obtain rfl := Except.ok.inj h
    rfl

/-- A store that survives is consistent. -/
theorem consistent_of_survives {self : ProfileStore} (h : Survives platform self) :
    Consistent self := by
  obtain ⟨reloaded, hload, hsame, hselected⟩ := h (fun _ => ⟨0, true⟩) []
  have hconsistent := consistent_of_load hload
  have hstored : reloaded.stored = (self.flushPendingSave platform).stored := by
    unfold load at hload
    cases hprofiles : loadedProfiles platform (fun _ => ⟨0, true⟩) []
        (self.flushPendingSave platform).stored.profiles with
    | error error =>
      rw [hprofiles] at hload
      exact nomatch hload
    | ok profiles =>
      rw [hprofiles] at hload
      exact (congrArg ProfileStore.stored (Except.ok.inj hload)).symm
  unfold Consistent at hconsistent ⊢
  rw [← hselected, hconsistent, hstored]
  exact congrArg (loadedSelection · self.stored.selectedId) (ids_of_sameProfile hsame)

/-- **The list survives, and so does the selection exactly if the keys agree.** -/
theorem survives_iff_consistent {self : ProfileStore}
    (h : ReadsBack platform self.profiles) : Survives platform self ↔ Consistent self := by
  have hload (clock : ℕ → DateTime) (initialProfiles : List ClientProfile) :
      ∃ profiles, List.Forall₂ (SameProfile platform) self.profiles profiles
        ∧ load platform clock initialProfiles (self.flushPendingSave platform).stored
          = .ok {
              profiles := profiles
              selectedProfileId := loadedSelection self.ids self.stored.selectedId
              stored := (self.flushPendingSave platform).stored } := by
    obtain ⟨profiles, hdecode, hsame⟩ :=
      ProfilePlatform.decodeProfileList_encodeProfileList clock h.json
        (fun profile hprofile nowForId now =>
          fromJson_toJson_sameProfile nowForId now (h.date profile hprofile))
    refine ⟨profiles, hsame, ?_⟩
    simp only [load, loadedProfiles, flushPendingSave, save, if_neg h.notBlank, hdecode, bind,
      Except.bind, pure, Except.pure, ids_of_sameProfile hsame]
    rfl
  refine ⟨consistent_of_survives, fun hconsistent clock initialProfiles => ?_⟩
  obtain ⟨profiles, hsame, hloaded⟩ := hload clock initialProfiles
  exact ⟨_, hloaded, hsame, hconsistent.symm⟩

/-! ## What an operation does to the two keys -/

@[simp] theorem ids_scheduleDebouncedSave (noDelay : Bool) (self : ProfileStore) :
    (scheduleDebouncedSave platform noDelay self).ids = self.ids := by
  cases noDelay <;> rfl

@[simp] theorem selected_scheduleDebouncedSave (noDelay : Bool) (self : ProfileStore) :
    (scheduleDebouncedSave platform noDelay self).selectedProfileId = self.selectedProfileId := by
  cases noDelay <;> rfl

@[simp] theorem selectedId_scheduleDebouncedSave (noDelay : Bool) (self : ProfileStore) :
    (scheduleDebouncedSave platform noDelay self).stored.selectedId = self.stored.selectedId := by
  cases noDelay <;> rfl

theorem ids_upsertProfile (noDelay : Bool) (profile : ClientProfile) (now : DateTime)
    (self : ProfileStore) :
    (self.upsertProfile platform noDelay profile now).ids
      = if profile.id ∈ self.ids then self.ids else self.ids ++ [profile.id] := by
  unfold upsertProfile
  rw [ids_scheduleDebouncedSave]
  cases hindex : self.profiles.findIdx? (fun item => item.id == profile.id) with
  | none =>
    have hnot : profile.id ∉ self.ids := by
      intro hmem
      obtain ⟨item, hitem, hid⟩ := List.mem_map.mp hmem
      have := List.findIdx?_eq_none_iff.mp hindex item hitem
      simp [hid] at this
    rw [if_neg hnot]
    simp [ids]
  | some index =>
    obtain ⟨hlt, hid, -⟩ := List.findIdx?_eq_some_iff_getElem.mp hindex
    have hid' : (self.profiles[index]).id = profile.id := by simpa using hid
    have hmem : profile.id ∈ self.ids := List.mem_map.mpr ⟨_, List.getElem_mem hlt, hid'⟩
    rw [if_pos hmem]
    simp only [ids, List.map_set]
    refine List.ext_getElem (by simp) (fun i h₁ h₂ => ?_)
    rw [List.getElem_set]
    split
    · rename_i hi
      subst hi
      simpa using hid'.symm
    · rfl

theorem ids_syncStoredPasswordFlags (noDelay : Bool) (flags : List (Text × Bool))
    (self : ProfileStore) :
    (self.syncStoredPasswordFlags platform noDelay flags).ids = self.ids := by
  unfold syncStoredPasswordFlags
  dsimp only
  split
  · rfl
  · rw [ids_scheduleDebouncedSave]
    simp [ids, withFlag]

/-! ## When the keys agree -/

/-- An id that is read back as the selection from among some ids: one without white
space around it, or one that is not found when it is trimmed, and is the first. -/
def IdReadBack (ids : List Text) (id : Text) : Prop :=
  (id.trim = id ∧ id ≠ []) ∨ ((id.trim = [] ∨ id.trim ∉ ids) ∧ ids.head? = some id)

/-- A new profile that is selected without being saved as such: it is the only one, or
its id is the one that was saved before. -/
def NamedAlready (self : ProfileStore) (id : Text) : Prop :=
  self.profiles = [] ∨ ∃ saved, self.stored.selectedId = some saved ∧ saved.trim = id ∧ id ≠ []

/-- The ids that are left without the selected profile. -/
def remainingIds (self : ProfileStore) : List Text :=
  match self.selectedProfile with
  | none => self.ids
  | some selected => self.ids.filter (fun id => id != selected.id)

/-- **The operation leaves a selection that is read back.** -/
def Persists (self : ProfileStore) : Event → Prop
  | .upsertProfile profile _ =>
    if profile.id ∈ self.ids then self.selectedProfileId = some profile.id
    else NamedAlready self profile.id
  | .addSampleProfile nowForId now => NamedAlready self (self.newSampleProfile nowForId now).id
  | .selectProfile id => self.selectedProfileId = some id ∨ IdReadBack self.ids id
  | .removeSelectedProfile =>
    ∀ id, self.remainingIds.head? = some id → IdReadBack self.remainingIds id
  | .syncStoredPasswordFlags _ => True
  | .saveTimer => True

theorem loadedSelection_self_iff {ids : List Text} {id : Text} (hid : id ∈ ids) :
    some id = loadedSelection ids (some id) ↔ IdReadBack ids id := by
  unfold loadedSelection IdReadBack
  dsimp only
  by_cases hfound : id.trim ≠ [] ∧ id.trim ∈ ids
  · rw [if_pos hfound, Option.some.injEq]
    constructor
    · exact fun h => .inl ⟨h.symm, fun hnil => hfound.1 (by rw [← h, hnil])⟩
    · rintro (⟨htrim, -⟩ | ⟨hnot | hnot, -⟩)
      · exact htrim.symm
      · exact absurd hnot hfound.1
      · exact absurd hfound.2 hnot
  · rw [if_neg hfound]
    constructor
    · intro h
      refine .inr ⟨?_, h.symm⟩
      by_cases hnil : id.trim = []
      · exact .inl hnil
      · exact .inr (fun hmem => hfound ⟨hnil, hmem⟩)
    · rintro (⟨htrim, hne⟩ | ⟨-, hhead⟩)
      · exact absurd ⟨by rwa [htrim], by rwa [htrim]⟩ hfound
      · exact hhead.symm

theorem head?_append_singleton_iff {ids : List Text} {id : Text} (hid : id ∉ ids) :
    some id = (ids ++ [id]).head? ↔ ids = [] := by
  cases ids with
  | nil => exact iff_of_true rfl rfl
  | cons first rest =>
    refine iff_of_false (fun h => hid ?_) (by simp)
    rw [Option.some.inj h]
    exact List.mem_cons_self

theorem loadedSelection_new_iff {ids : List Text} {id : Text} (hid : id ∉ ids)
    (saved : Option Text) :
    some id = loadedSelection (ids ++ [id]) saved ↔
      ids = [] ∨ ∃ text, saved = some text ∧ text.trim = id ∧ id ≠ [] := by
  cases saved with
  | none =>
    rw [loadedSelection, head?_append_singleton_iff hid]
    simp
  | some text =>
    unfold loadedSelection
    dsimp only
    by_cases hfound : text.trim ≠ [] ∧ text.trim ∈ ids ++ [id]
    · rw [if_pos hfound, Option.some.injEq]
      constructor
      · exact fun h => .inr ⟨text, rfl, h.symm, h ▸ hfound.1⟩
      · rintro (rfl | ⟨text', htext, htrim, -⟩)
        · exact (List.mem_singleton.mp hfound.2).symm
        · rw [Option.some.inj htext, htrim]
    · rw [if_neg hfound, head?_append_singleton_iff hid]
      refine ⟨.inl, ?_⟩
      rintro (hnil | ⟨text', htext, htrim, hne⟩)
      · exact hnil
      · refine absurd ⟨?_, ?_⟩ hfound
        · rwa [Option.some.inj htext, htrim]
        · rw [Option.some.inj htext, htrim]
          exact List.mem_append_right _ List.mem_cons_self

theorem namedAlready_iff (self : ProfileStore) (id : Text) :
    NamedAlready self id ↔ self.ids = [] ∨
      ∃ saved, self.stored.selectedId = some saved ∧ saved.trim = id ∧ id ≠ [] := by
  rw [ids, List.map_eq_nil_iff]
  exact Iff.rfl

/-- There is a profile to remove unless there is none at all. -/
theorem profiles_of_selectedProfile {self : ProfileStore} (h : self.selectedProfile = none) :
    self.profiles = [] := by
  unfold selectedProfile at h
  split at h
  · exact List.head?_eq_none_iff.mp h
  · exact List.head?_eq_none_iff.mp (Option.or_eq_none_iff.mp h).2

/-- An operation that keeps the ids and the selection, and saves none, keeps the
agreement. -/
theorem consistent_congr {self next : ProfileStore} (hself : Consistent self)
    (hids : next.ids = self.ids) (hselected : next.selectedProfileId = self.selectedProfileId)
    (hsaved : next.stored.selectedId = self.stored.selectedId) : Consistent next := by
  unfold Consistent at hself ⊢
  rw [hids, hselected, hsaved, hself]

theorem ids_removeSelectedProfile (noDelay : Bool) (self : ProfileStore) :
    (self.removeSelectedProfile platform noDelay).ids = self.remainingIds := by
  unfold removeSelectedProfile remainingIds
  cases hselected : self.selectedProfile with
  | none => rfl
  | some selected =>
    show (scheduleDebouncedSave platform noDelay _).ids = _
    rw [ids_scheduleDebouncedSave]
    simp only [ids, List.filter_map]
    rfl

/-- Removing a profile saves that the first one is selected. -/
theorem selected_removeSelectedProfile {noDelay : Bool} {self : ProfileStore}
    {selected : ClientProfile} (h : self.selectedProfile = some selected) :
    (self.removeSelectedProfile platform noDelay).selectedProfileId = self.remainingIds.head?
      ∧ (self.removeSelectedProfile platform noDelay).stored.selectedId
        = self.remainingIds.head? := by
  have hids := @ids_removeSelectedProfile platform noDelay self
  unfold removeSelectedProfile at hids ⊢
  rw [h] at hids ⊢
  rw [← hids]
  constructor
  · show (scheduleDebouncedSave platform noDelay _).selectedProfileId
      = (scheduleDebouncedSave platform noDelay _).ids.head?
    rw [selected_scheduleDebouncedSave, ids_scheduleDebouncedSave]
    rfl
  · show (scheduleDebouncedSave platform noDelay _).selectedProfileId
      = (scheduleDebouncedSave platform noDelay _).ids.head?
    rw [selected_scheduleDebouncedSave, ids_scheduleDebouncedSave]
    rfl

/-- **The step lemma**: an operation keeps the agreement of the two keys exactly if it
leaves a selection that is read back. -/
theorem consistent_step_iff {noDelay : Bool} {self next : ProfileStore} {event : Event}
    (hself : Consistent self) (h : step platform noDelay self event = some next) :
    Consistent next ↔ Persists self event := by
  cases event with
  | upsertProfile profile now =>
    obtain rfl := Option.some.inj h
    have hselected : (self.upsertProfile platform noDelay profile now).selectedProfileId
        = some profile.id := selected_scheduleDebouncedSave noDelay _
    have hsaved : (self.upsertProfile platform noDelay profile now).stored.selectedId
        = self.stored.selectedId := selectedId_scheduleDebouncedSave noDelay _
    simp only [Consistent, Persists, hselected, hsaved, ids_upsertProfile]
    split
    · -- the profile was there: the keys still say what was selected before
      rw [← hself]
      exact eq_comm
    · rename_i hnew
      rw [loadedSelection_new_iff hnew, namedAlready_iff]
  | addSampleProfile nowForId now =>
    simp only [step] at h
    split at h
    · exact nomatch h
    · rename_i hnew
      obtain rfl := Option.some.inj h
      simp only [Persists]
      generalize self.newSampleProfile nowForId now = profile at hnew ⊢
      have hids : (self.addSampleProfile platform noDelay profile).ids
          = self.ids ++ [profile.id] := by
        unfold addSampleProfile
        rw [ids_scheduleDebouncedSave]
        simp [ids]
      have hselected : (self.addSampleProfile platform noDelay profile).selectedProfileId
          = some profile.id := selected_scheduleDebouncedSave noDelay _
      have hsaved : (self.addSampleProfile platform noDelay profile).stored.selectedId
          = self.stored.selectedId := selectedId_scheduleDebouncedSave noDelay _
      rw [Consistent, hids, hselected, hsaved, loadedSelection_new_iff hnew, namedAlready_iff]
  | selectProfile id =>
    simp only [step] at h
    split at h
    · rename_i hid
      obtain rfl := Option.some.inj h
      simp only [selectProfile, Persists]
      split
      · rename_i hsame
        exact iff_of_true hself (.inl hsame)
      · rename_i hother
        rw [or_iff_right hother]
        exact loadedSelection_self_iff hid
    · exact nomatch h
  | removeSelectedProfile =>
    obtain rfl := Option.some.inj h
    cases hprofile : self.selectedProfile with
    | none =>
      have hempty := profiles_of_selectedProfile hprofile
      refine iff_of_true ?_ (fun id hid => ?_)
      · rw [removeSelectedProfile, hprofile]
        exact hself
      · rw [remainingIds, hprofile] at hid
        simp [ids, hempty] at hid
    | some selected =>
      obtain ⟨hselected, hsaved⟩ := @selected_removeSelectedProfile platform noDelay self selected
        hprofile
      unfold Consistent Persists
      rw [hselected, hsaved, ids_removeSelectedProfile]
      cases hhead : self.remainingIds.head? with
      | none => exact iff_of_true (by rw [loadedSelection, hhead]) nofun
      | some first =>
        rw [loadedSelection_self_iff (List.mem_of_head? hhead)]
        exact ⟨fun hback id hid => Option.some.inj hid ▸ hback, fun hall => hall first rfl⟩
  | syncStoredPasswordFlags flags =>
    obtain rfl := Option.some.inj h
    refine iff_of_true (consistent_congr hself (ids_syncStoredPasswordFlags noDelay flags self) ?_ ?_)
      trivial
    · unfold syncStoredPasswordFlags
      dsimp only
      split
      · rfl
      · rw [selected_scheduleDebouncedSave]
    · unfold syncStoredPasswordFlags
      dsimp only
      split
      · rfl
      · rw [selectedId_scheduleDebouncedSave]
  | saveTimer =>
    simp only [step] at h
    split at h
    · obtain rfl := Option.some.inj h
      exact iff_of_true (consistent_congr hself rfl rfl rfl) trivial
    · exact nomatch h

/-- **Which operations a reload survives.** In a run of a store that has been loaded, as
long as the libraries read back what they write: a flush and a reload into a fresh
store give the same profiles, up to what the codec makes of their routing
configurations, and the same selection, in every state, exactly if every operation
of the run leaves a selection that is read back. -/
theorem survives_iff (platform : ProfilePlatform) (noDelay : Bool) {clock : ℕ → DateTime}
    {initialProfiles : List ClientProfile} {stored : LocalState} {start last : ProfileStore}
    {events : List Event} (hload : load platform clock initialProfiles stored = .ok start)
    (hrun : Machine.run (step platform noDelay) start events = some last)
    (hplatform : ∀ store, Machine.Visits (step platform noDelay) start events store →
      ReadsBack platform store.profiles) :
    (∀ store, Machine.Visits (step platform noDelay) start events store → Survives platform store) ↔
      Machine.Along (step platform noDelay) Persists start events := by
  rw [← Machine.forall_visits_iff_along (I := fun _ => True) (P := Consistent)
    (fun _ _ _ _ _ _ _ => trivial)
    (fun self event next _ hself h => consistent_step_iff hself h) trivial
    (consistent_of_load hload) hrun]
  exact forall_congr' (fun store => forall_congr' (fun hvisits =>
    survives_iff_consistent (hplatform store hvisits)))

/-! ## A profile that is saved, and one that is added -/

open ProfilePlatform (samplePlatform sampleProfile)

/-- A store with one profile, and nothing saved. -/
def sampleStore : ProfileStore where
  profiles := [sampleProfile]
  selectedProfileId := some (Text.ofString "p")
  stored := {}

theorem load_sample : load samplePlatform (fun _ => ⟨0, true⟩) [sampleProfile] {} = .ok sampleStore :=
  rfl

theorem readsBack_sample : ReadsBack samplePlatform [sampleProfile] where
  json := ProfilePlatform.jsonDecode_sampleList
  notBlank := by
    have htext : samplePlatform.encodeProfileList [sampleProfile]
        = ProfilePlatform.sampleListText := rfl
    have hbrace : 0x7B ∈ ProfilePlatform.sampleListText := by
      unfold ProfilePlatform.sampleListText
      exact List.mem_flatMap.mpr ⟨_, List.mem_cons_self, by decide +kernel⟩
    rw [htext]
    exact Text.trim_ne_nil hbrace (by decide)
  date := List.forall_mem_singleton.mpr rfl

/-- The profile is changed, and the store survives. -/
theorem survives_sample :
    ∃ store, Machine.run (step samplePlatform false) sampleStore
        [.upsertProfile sampleProfile ⟨0, true⟩] = some store
      ∧ Survives samplePlatform store := by
  have hstep : step samplePlatform false sampleStore (.upsertProfile sampleProfile ⟨0, true⟩)
      = some { sampleStore with saveScheduled := true } := rfl
  have hrun : Machine.run (step samplePlatform false) sampleStore
      [.upsertProfile sampleProfile ⟨0, true⟩] = some { sampleStore with saveScheduled := true } :=
    Machine.run_cons.mpr ⟨_, hstep, rfl⟩
  refine ⟨_, hrun, (survives_iff samplePlatform false load_sample hrun
    (fun store hvisits => ?_)).mpr ⟨?_, fun _ _ => trivial⟩ _ ⟨_, List.prefix_rfl, hrun⟩⟩
  · rcases (Machine.visits_cons hstep).mp hvisits with rfl | ⟨pre, hpre, hstore⟩
    · exact readsBack_sample
    · rw [List.prefix_nil.mp hpre] at hstore
      obtain rfl := Option.some.inj hstore
      exact readsBack_sample
  · have hmem : sampleProfile.id ∈ sampleStore.ids := List.mem_cons_self
    rw [Persists, if_pos hmem]
    rfl

/-- **A profile that is added is selected, until the next start**: then it is the first
one again. -/
theorem added_selection_lost :
    ∃ store, Machine.run (step samplePlatform false) sampleStore
        [.addSampleProfile ⟨0, true⟩ ⟨0, true⟩] = some store
      ∧ ¬ Survives samplePlatform store := by
  refine ⟨_, rfl, fun hsurvives => ?_⟩
  have hconsistent := consistent_of_survives hsurvives
  revert hconsistent
  unfold Consistent
  decide +kernel

end ProfileStore
