import Trojan.Client.RoutingProfileCodec

/-!
# Saving and exporting profiles

The client keeps its profiles in a JSON text (`profile_serialization.dart`), and
exports single ones to be imported elsewhere (`profile_portability_service.dart`).
Saving first replaces the action of a rule that names a policy group which does
not exist by the default action; exporting does not. Neither keeps the routing
configuration as it is, and both keep what it means: `ProfilePlatform.reloaded_same`
says so of every list of profiles whose configurations the codec has read.

The JSON library and the texts of dates are parameters, and so is the clock, which
is read for what is missing in a text.
-/

structure DateTime where
  microsecondsSinceEpoch : ℤ
  isUtc : Bool
  deriving DecidableEq, Repr

structure ClientProfile where
  id : Text
  name : Text
  serverHost : Text
  serverPort : ℤ
  sni : Text
  localSocksPort : ℤ
  verifyTls : Bool
  notes : Text := []
  updatedAt : DateTime
  hasStoredPassword : Bool := false
  routing : RoutingProfileConfig := .defaults
  deriving DecidableEq, Repr

structure ProfileImportBundle where
  profile : ClientProfile
  trojanPasswordIncluded : Bool
  sourceDeviceHadStoredPassword : Bool
  importBehavior : Option Text
  deriving DecidableEq, Repr

/-- What saving uses of the platform. -/
structure ProfilePlatform extends RoutingPlatform where
  jsonEncode : Json → Text
  jsonDecode : Text → Except ReadError Json
  toIso8601String : DateTime → Text
  tryParse : Text → Option DateTime

namespace ProfilePlatform

variable (platform : ProfilePlatform)

/-- A profile from its JSON. The two readers differ in the label of an id that is
made up, and in what is known of a password. The clock is read for an id and for
a time. -/
def readProfile (label : String) (nowForId now : DateTime)
    (hasStoredPassword : Except ReadError Bool) (json : List (String × Json)) :
    Except ReadError ClientProfile := do
  let id ← (Json.field json "id").asString
  let name ← (Json.field json "name").asString
  let serverHost ← (Json.field json "serverHost").asString
  let serverPort ← (Json.field json "serverPort").asInt
  let sni ← (Json.field json "sni").asString
  let localSocksPort ← (Json.field json "localSocksPort").asInt
  let verifyTls ← (Json.field json "verifyTls").asBool
  let notes ← (Json.field json "notes").asString
  let updatedAt ← (Json.field json "updatedAt").asString
  let hasStoredPassword ← hasStoredPassword
  let routing ← RoutingProfileCodec.decodeFromObject platform.toRoutingPlatform
    (Json.field json "routing")
  return {
    id := id.getD (Text.ofString (label ++ toString nowForId.microsecondsSinceEpoch))
    name := name.getD (Text.ofString "Imported Profile")
    serverHost := serverHost.getD (Text.ofString "example.com")
    serverPort := serverPort.getD 443
    sni := sni.getD (Text.ofString "example.com")
    localSocksPort := localSocksPort.getD 1080
    verifyTls := verifyTls.getD true
    notes := notes.getD []
    updatedAt := (platform.tryParse (updatedAt.getD [])).getD now
    hasStoredPassword := hasStoredPassword
    routing := routing }

/-- The fields that are written of every profile. -/
def profileFields (profile : ClientProfile) : List (String × Json) :=
  [("id", .str profile.id),
    ("name", .str profile.name),
    ("serverHost", .str profile.serverHost),
    ("serverPort", .int profile.serverPort),
    ("sni", .str profile.sni),
    ("localSocksPort", .int profile.localSocksPort),
    ("verifyTls", .bool profile.verifyTls),
    ("notes", .str profile.notes),
    ("updatedAt", .str (platform.toIso8601String profile.updatedAt))]

/-! ## Saving -/

/-- A rule that names a policy group which is not there does the default. -/
def normalizeRule (routing : RoutingProfileConfig) (rule : RoutingRule) : RoutingRule :=
  if !rule.action.usesPolicyGroup then rule
  else if rule.action.targetGroupId ∈ routing.policyGroups.map RoutingPolicyGroup.id then rule
  else { rule with action := .direct (some routing.defaultAction) }

def normalizeRouting (routing : RoutingProfileConfig) : RoutingProfileConfig :=
  { routing with
    rules := platform.sorter.sort RoutingRule.precedes
      (routing.rules.map (normalizeRule routing)) }

def toJson (profile : ClientProfile) : List (String × Json) :=
  platform.profileFields profile ++
    [("hasStoredPassword", .bool profile.hasStoredPassword),
      ("routing", .obj (RoutingProfileCodec.encodeToJsonMap platform.toRoutingPlatform
        (platform.normalizeRouting profile.routing)))]

def fromJson (nowForId now : DateTime) (json : List (String × Json)) :
    Except ReadError ClientProfile :=
  platform.readProfile "profile-" nowForId now
    (return (← (Json.field json "hasStoredPassword").asBool).getD false) json

/-- The value that is saved for a list of profiles. -/
def profileListPayload (profiles : List ClientProfile) : Json :=
  .obj [("version", .int 2),
    ("profiles", .arr (profiles.map (fun profile => .obj (platform.toJson profile))))]

def encodeProfileList (profiles : List ClientProfile) : Text :=
  platform.jsonEncode (platform.profileListPayload profiles)

/-- The clock is read up to twice for each profile. -/
def decodeProfileList (clock : ℕ → DateTime) (text : Text) :
    Except ReadError (List ClientProfile) := do
  match (← platform.jsonDecode text).fields? with
  | none => .error .typeError
  | some decoded =>
    let items := (← (Json.field decoded "profiles").asList).getD []
    (items.filterMap Json.fields?).zipIdx.mapM
      (fun (json, i) => platform.fromJson (clock (2 * i)) (clock (2 * i + 1)) json)

/-! ## Exporting -/

def profilePayload (profile : ClientProfile) : List (String × Json) :=
  platform.profileFields profile ++
    [("routing", .obj (RoutingProfileCodec.encodeToJsonMap platform.toRoutingPlatform
      profile.routing))]

def secretsPayload (profile : ClientProfile) : List (String × Json) :=
  [("trojanPasswordIncluded", .bool false),
    ("sourceDeviceHadStoredPassword", .bool profile.hasStoredPassword),
    ("importBehavior", .str (Text.ofString "reenter_or_restore_secure_storage"))]

/-- The value that is exported for a profile. -/
def exportPayload (profile : ClientProfile) : Json :=
  .obj [("version", .int 2),
    ("kind", .str (Text.ofString "trojan-pro-client-profile")),
    ("profile", .obj (platform.profilePayload profile)),
    ("secrets", .obj (secretsPayload profile))]

def exportProfile (profile : ClientProfile) : Text :=
  platform.jsonEncode (platform.exportPayload profile)

def importBundle (nowForId now : DateTime) (text : Text) :
    Except ReadError ProfileImportBundle := do
  match (← platform.jsonDecode text).fields? with
  | none => .error .typeError
  | some decoded =>
    let kind := ((← (Json.field decoded "kind").asString).map Text.trim).getD []
    if !kind.isEmpty && kind ≠ Text.ofString "trojan-pro-client-profile" then
      .error (.formatException
        "Import failed: only trojan-pro-client-profile payload is supported.")
    else
      match (Json.field decoded "profile").fields? with
      | none => .error (.formatException "Import failed: profile payload is missing or invalid.")
      | some profile =>
        let secrets := (Json.field decoded "secrets").fieldsOrEmpty
        let profile ← platform.readProfile "imported-" nowForId now (.ok false) profile
        let included ← (Json.field secrets "trojanPasswordIncluded").asBool
        let hadPassword ← (Json.field secrets "sourceDeviceHadStoredPassword").asBool
        let importBehavior ← (Json.field secrets "importBehavior").asString
        return {
          profile := profile
          trojanPasswordIncluded := included.getD false
          sourceDeviceHadStoredPassword := hadPassword.getD false
          importBehavior := importBehavior }

def importProfile (nowForId now : DateTime) (text : Text) : Except ReadError ClientProfile :=
  return (← platform.importBundle nowForId now text).profile

/-! ## Reading back -/

/-- The fields of a profile are read as they were written. -/
theorem readProfile_profileFields {profile : ClientProfile} {rest : List (String × Json)}
    {hasStoredPassword : Except ReadError Bool} {stored : Bool} {routing : RoutingProfileConfig}
    (label : String) (nowForId now : DateTime)
    (hdate : platform.tryParse (platform.toIso8601String profile.updatedAt)
      = some profile.updatedAt)
    (hstored : hasStoredPassword = .ok stored)
    (hrouting : RoutingProfileCodec.decodeFromObject platform.toRoutingPlatform
      (Json.field rest "routing") = .ok routing) :
    platform.readProfile label nowForId now hasStoredPassword
        (platform.profileFields profile ++ rest)
      = .ok { profile with hasStoredPassword := stored, routing := routing } := by
  simp [readProfile, profileFields, bind, Except.bind, pure, Except.pure, hdate, hstored, hrouting]

/-- Only the action of a rule is ever replaced. -/
theorem normalizeRule_eq (routing : RoutingProfileConfig) (rule : RoutingRule) :
    ∃ action, normalizeRule routing rule = { rule with action := action } := by
  unfold normalizeRule
  split
  · exact ⟨rule.action, rfl⟩
  · split
    · exact ⟨rule.action, rfl⟩
    · exact ⟨_, rfl⟩

theorem keepsPlace_normalizeRule (routing : RoutingProfileConfig) :
    RoutingDecisionEngine.KeepsPlace (normalizeRule routing) where
  id rule := by
    obtain ⟨action, heq⟩ := normalizeRule_eq routing rule
    rw [heq]
  priority rule := by
    obtain ⟨action, heq⟩ := normalizeRule_eq routing rule
    rw [heq]
  enabled rule := by
    obtain ⟨action, heq⟩ := normalizeRule_eq routing rule
    rw [heq]

/-- The default that replaces the action of a rule without its group is what the
rule has always done. -/
theorem ruleAction_normalizeRule (routing : RoutingProfileConfig) (rule : RoutingRule) :
    RoutingDecisionEngine.ruleAction (platform.normalizeRouting routing)
        (normalizeRule routing rule).action
      = RoutingDecisionEngine.ruleAction routing rule.action := by
  unfold normalizeRule
  split
  · rfl
  · rename_i huses
    split
    · rfl
    · rename_i hmissing
      have hnone : RoutingDecisionEngine.findPolicyGroup routing rule.action.targetGroupId
          = none := by
        refine List.find?_eq_none.mpr (fun group hgroup hid => hmissing ?_)
        exact List.mem_map.mpr ⟨group, hgroup, eq_of_beq hid⟩
      have huses : rule.action.usesPolicyGroup = true := by simpa using huses
      have hdirect : RoutingDecisionEngine.ruleAction (platform.normalizeRouting routing)
          (.direct (some routing.defaultAction)) = routing.defaultAction := rfl
      rw [hdirect, RoutingDecisionEngine.ruleAction, if_pos huses, hnone]
      rfl

/-- Replacing the actions of rules without their groups changes no decision. -/
theorem sameDecision_normalizeRouting {routing : RoutingProfileConfig}
    (htold : RoutingRule.Told routing.rules) :
    RoutingDecisionEngine.SameDecision platform.toRoutingPlatform routing
      (platform.normalizeRouting routing) := by
  refine RoutingDecisionEngine.sameDecision_of_map (keepsPlace_normalizeRule routing) htold
    rfl rfl rfl (platform.sorter.perm _ _) ?_ (platform.ruleAction_normalizeRule routing)
  intro rule request
  obtain ⟨action, heq⟩ := normalizeRule_eq routing rule
  rw [heq]

theorem readable_normalizeRouting {routing : RoutingProfileConfig}
    (h : RoutingProfileCodec.Readable routing) :
    RoutingProfileCodec.Readable (platform.normalizeRouting routing) := by
  refine ⟨h.groups, fun rule hrule => ?_⟩
  obtain ⟨rule, hmem, rfl⟩ := List.mem_map.mp (platform.sorter.mem_sort.mp hrule)
  obtain ⟨action, heq⟩ := normalizeRule_eq routing rule
  rw [heq]
  exact h.rules rule hmem

theorem told_normalizeRouting {routing : RoutingProfileConfig}
    (h : RoutingRule.Told routing.rules) :
    RoutingRule.Told (platform.normalizeRouting routing).rules :=
  RoutingDecisionEngine.told_of_perm ((keepsPlace_normalizeRule routing).told h)
    (platform.sorter.perm _ _)

/-- A configuration that the codec has read, with distinct policy groups and rules
that are told apart. -/
structure Sound (routing : RoutingProfileConfig) : Prop where
  decoded : ∃ value,
    RoutingProfileCodec.decodeFromObject platform.toRoutingPlatform value = .ok routing
  groups : RoutingDecisionEngine.DistinctGroups routing
  rules : RoutingRule.Told routing.rules

/-- A profile is what another one is, except perhaps for a routing configuration
that decides as that of the other. -/
def Reloads (profile reloaded : ClientProfile) : Prop :=
  reloaded = { profile with routing := reloaded.routing } ∧
    RoutingDecisionEngine.SameDecision platform.toRoutingPlatform profile.routing reloaded.routing

variable {platform}

/-- A saved profile is read back. -/
theorem fromJson_toJson {profile : ClientProfile} (nowForId now : DateTime)
    (hsound : platform.Sound profile.routing)
    (hdate : platform.tryParse (platform.toIso8601String profile.updatedAt)
      = some profile.updatedAt) :
    ∃ reloaded, platform.fromJson nowForId now (platform.toJson profile) = .ok reloaded ∧
      platform.Reloads profile reloaded := by
  obtain ⟨value, hvalue⟩ := hsound.decoded
  have hreadable := RoutingProfileCodec.readable_of_decode platform.toRoutingPlatform hvalue
  have hdecode := RoutingProfileCodec.decode_encode platform.toRoutingPlatform
    (platform.readable_normalizeRouting hreadable)
  have hreloaded : RoutingDecisionEngine.SameDecision platform.toRoutingPlatform
      (platform.normalizeRouting profile.routing) _ :=
    RoutingDecisionEngine.sameDecision_reloaded hsound.groups
      (platform.told_normalizeRouting hsound.rules)
  refine ⟨_, platform.readProfile_profileFields "profile-" nowForId now hdate ?_ hdecode, rfl, ?_⟩
  · simp [toJson, profileFields, bind, Except.bind, pure, Except.pure]
  · exact (platform.sameDecision_normalizeRouting hsound.rules).trans hreloaded

/-- An exported profile is imported, without its password. -/
theorem importProfile_exportProfile {profile : ClientProfile} (nowForId now : DateTime)
    (hsound : platform.Sound profile.routing)
    (hjson : platform.jsonDecode (platform.jsonEncode (platform.exportPayload profile))
      = .ok (platform.exportPayload profile))
    (hdate : platform.tryParse (platform.toIso8601String profile.updatedAt)
      = some profile.updatedAt) :
    ∃ imported, platform.importProfile nowForId now (platform.exportProfile profile)
        = .ok imported ∧
      platform.Reloads { profile with hasStoredPassword := false } imported := by
  obtain ⟨value, hvalue⟩ := hsound.decoded
  have hreadable := RoutingProfileCodec.readable_of_decode platform.toRoutingPlatform hvalue
  have hdecode := RoutingProfileCodec.decode_encode platform.toRoutingPlatform hreadable
  have hread : platform.readProfile "imported-" nowForId now (.ok false)
      (platform.profilePayload profile) = .ok { profile with
        hasStoredPassword := false
        routing := RoutingProfileCodec.reloaded platform.toRoutingPlatform profile.routing } :=
    platform.readProfile_profileFields "imported-" nowForId now hdate rfl hdecode
  have hkind : (Text.ofString "trojan-pro-client-profile").trim
      = Text.ofString "trojan-pro-client-profile" := by decide +kernel
  refine ⟨{ profile with
    hasStoredPassword := false
    routing := RoutingProfileCodec.reloaded platform.toRoutingPlatform profile.routing }, ?_, rfl,
    RoutingDecisionEngine.sameDecision_reloaded hsound.groups hsound.rules⟩
  unfold importProfile importBundle exportProfile
  rw [hjson]
  simp [exportPayload, bind, Except.bind, pure, Except.pure, hkind, hread, secretsPayload]

/-- The profiles of a list are read back one by one, whatever the clock. -/
theorem fromJson_zipIdx {Same : ClientProfile → ClientProfile → Prop}
    {profiles : List ClientProfile} (clock : ℕ → DateTime) (start : ℕ)
    (h : ∀ profile ∈ profiles, ∀ nowForId now, ∃ reloaded,
      platform.fromJson nowForId now (platform.toJson profile) = .ok reloaded ∧
        Same profile reloaded) :
    ∃ reloaded, ((profiles.map platform.toJson).zipIdx start).mapM
        (fun (json, i) => platform.fromJson (clock (2 * i)) (clock (2 * i + 1)) json)
          = .ok reloaded ∧
      List.Forall₂ Same profiles reloaded := by
  induction profiles generalizing start with
  | nil => exact ⟨[], rfl, .nil⟩
  | cons profile profiles ih =>
    obtain ⟨first, hfirst, hsame⟩ := h profile List.mem_cons_self (clock (2 * start))
      (clock (2 * start + 1))
    obtain ⟨others, hothers, hforall⟩ := ih (start + 1)
      (fun p hp => h p (List.mem_cons_of_mem profile hp))
    refine ⟨first :: others, ?_, .cons hsame hforall⟩
    rw [List.map_cons, List.zipIdx_cons, Json.mapM_eq_ok_iff]
    exact .cons hfirst (Json.mapM_eq_ok_iff.mp hothers)

/-- Saved profiles are read back, in their order, if each of them is. -/
theorem decodeProfileList_encodeProfileList {Same : ClientProfile → ClientProfile → Prop}
    {profiles : List ClientProfile} (clock : ℕ → DateTime)
    (hjson : platform.jsonDecode (platform.jsonEncode (platform.profileListPayload profiles))
      = .ok (platform.profileListPayload profiles))
    (h : ∀ profile ∈ profiles, ∀ nowForId now, ∃ reloaded,
      platform.fromJson nowForId now (platform.toJson profile) = .ok reloaded ∧
        Same profile reloaded) :
    ∃ reloaded, platform.decodeProfileList clock (platform.encodeProfileList profiles)
        = .ok reloaded ∧
      List.Forall₂ Same profiles reloaded := by
  obtain ⟨reloaded, hmapM, hforall⟩ := fromJson_zipIdx clock 0 h
  refine ⟨reloaded, ?_, hforall⟩
  have hfields : (profiles.map (fun profile => Json.obj (platform.toJson profile))).filterMap
      Json.fields? = profiles.map platform.toJson := by
    rw [List.filterMap_map]
    exact List.filterMap_eq_map (f := platform.toJson) ▸ rfl
  unfold decodeProfileList encodeProfileList
  rw [hjson]
  simp only [profileListPayload, bind, Except.bind, Json.fields?_obj, Json.field_cons,
    Json.asList_arr, Option.getD_some, hfields, String.reduceEq, if_false, if_true]
  exact hmapM

variable (platform)

/-- **Saving and exporting keep what profiles mean.** Profiles whose routing
configurations the codec has read are read back in their order, with all their
fields and with configurations that decide every request by the same rule and
with the same action; so is a profile that was exported, except that it has no
stored password. What is asked of the libraries is that they read back what they
have written of these profiles. -/
theorem reloaded_same (clock : ℕ → DateTime) (profiles : List ClientProfile)
    (hsound : ∀ profile ∈ profiles, platform.Sound profile.routing)
    (hdate : ∀ profile ∈ profiles,
      platform.tryParse (platform.toIso8601String profile.updatedAt) = some profile.updatedAt)
    (hlist : platform.jsonDecode (platform.jsonEncode (platform.profileListPayload profiles))
      = .ok (platform.profileListPayload profiles))
    (hexport : ∀ profile ∈ profiles,
      platform.jsonDecode (platform.jsonEncode (platform.exportPayload profile))
        = .ok (platform.exportPayload profile)) :
    (∃ reloaded, platform.decodeProfileList clock (platform.encodeProfileList profiles)
        = .ok reloaded ∧
      List.Forall₂ platform.Reloads profiles reloaded) ∧
    ∀ profile ∈ profiles, ∃ imported,
      platform.importProfile (clock 0) (clock 1) (platform.exportProfile profile) = .ok imported ∧
        platform.Reloads { profile with hasStoredPassword := false } imported := by
  refine ⟨decodeProfileList_encodeProfileList clock hlist (fun profile hprofile nowForId now =>
    fromJson_toJson nowForId now (hsound profile hprofile) (hdate profile hprofile)),
    fun profile hprofile => ?_⟩
  exact importProfile_exportProfile (clock 0) (clock 1) (hsound profile hprofile)
    (hexport profile hprofile) (hdate profile hprofile)

/-! ### A profile that is saved and exported

Its only rule names a policy group that is not there. -/

def sampleRule : RoutingRule where
  id := Text.ofString "r"
  name := Text.ofString "r"
  enabled := true
  priority := 100
  ruleMatch := { port := some 25 }
  action := .policyGroup (some (Text.ofString "gone"))

def sampleProfile : ClientProfile where
  id := Text.ofString "p"
  name := Text.ofString "Home"
  serverHost := Text.ofString "a.b"
  serverPort := 443
  sni := Text.ofString "a.b"
  localSocksPort := 1080
  verifyTls := true
  updatedAt := ⟨0, true⟩
  hasStoredPassword := true
  routing :=
    { RoutingProfileConfig.defaults with defaultAction := .direct, rules := [sampleRule] }

/-- What the codec has read the routing of the profile from. -/
def sampleRouting : Json :=
  .obj [("defaultAction", .str (Text.ofString "direct")),
    ("rules", .arr [.obj [("id", .str (Text.ofString " r ")),
      ("match", .obj [("port", .int 25)]),
      ("action", .obj [("kind", .str (Text.ofString "policyGroup")),
        ("policyGroupId", .str (Text.ofString "gone"))])]])]

@[irreducible] def sampleListText : Text :=
  ["\x7b\n  \"version\": 2,\n  \"profiles\": [\n    \x7b\n      \"id\": \"p\",\n",
    "      \"name\": \"Home\",\n      \"serverHost\": \"a.b\",\n      \"serverPort\": 443,\n",
    "      \"sni\": \"a.b\",\n      \"localSocksPort\": 1080,\n      \"verifyTls\": true,\n",
    "      \"notes\": \"\",\n      \"updatedAt\": \"1970-01-01T00:00:00.000Z\",\n",
    "      \"hasStoredPassword\": true,\n      \"routing\": \x7b\n        \"mode\": \"rule\",\n",
    "        \"defaultAction\": \"direct\",\n        \"globalAction\": \"proxy\",\n",
    "        \"policyGroups\": [],\n        \"rules\": [\n          \x7b\n",
    "            \"id\": \"r\",\n            \"name\": \"r\",\n            \"enabled\": true,\n",
    "            \"priority\": 100,\n            \"match\": \x7b\n              \"port\": 25\n",
    "            \x7d,\n            \"action\": \x7b\n              \"kind\": \"direct\",\n",
    "              \"directAction\": \"direct\"\n            \x7d\n          \x7d\n        ]\n",
    "      \x7d\n    \x7d\n  ]\n\x7d"].flatMap Text.ofString

@[irreducible] def sampleExportText : Text :=
  ["\x7b\n  \"version\": 2,\n  \"kind\": \"trojan-pro-client-profile\",\n  \"profile\": \x7b\n",
    "    \"id\": \"p\",\n    \"name\": \"Home\",\n    \"serverHost\": \"a.b\",\n",
    "    \"serverPort\": 443,\n    \"sni\": \"a.b\",\n    \"localSocksPort\": 1080,\n",
    "    \"verifyTls\": true,\n    \"notes\": \"\",\n",
    "    \"updatedAt\": \"1970-01-01T00:00:00.000Z\",\n    \"routing\": \x7b\n",
    "      \"mode\": \"rule\",\n      \"defaultAction\": \"direct\",\n",
    "      \"globalAction\": \"proxy\",\n      \"policyGroups\": [],\n      \"rules\": [\n",
    "        \x7b\n          \"id\": \"r\",\n          \"name\": \"r\",\n",
    "          \"enabled\": true,\n          \"priority\": 100,\n          \"match\": \x7b\n",
    "            \"port\": 25\n          \x7d,\n          \"action\": \x7b\n",
    "            \"kind\": \"policyGroup\",\n            \"policyGroupId\": \"gone\"\n",
    "          \x7d\n        \x7d\n      ]\n    \x7d\n  \x7d,\n  \"secrets\": \x7b\n",
    "    \"trojanPasswordIncluded\": false,\n    \"sourceDeviceHadStoredPassword\": true,\n",
    "    \"importBehavior\": \"reenter_or_restore_secure_storage\"\n  \x7d\n\x7d"].flatMap Text.ofString

/-- Enough of a platform to write the values that are to be encoded. -/
def sampleWriter : ProfilePlatform where
  sorter := Sorter.insertion
  toLowerCase := Text.asciiLower
  toLowerCase_nil := Text.asciiLower_nil
  hasMatch _ _ := some false
  parseInt _ := none
  parseAddress _ := none
  toIso8601String _ := Text.ofString "1970-01-01T00:00:00.000Z"
  tryParse _ := some ⟨0, true⟩
  jsonEncode _ := []
  jsonDecode _ := .error (.formatException "Unexpected end of input")

/-- A platform whose library encodes and decodes the values of the profile. -/
def samplePlatform : ProfilePlatform :=
  { sampleWriter with
    jsonEncode := fun value =>
      match Json.field value.fieldsOrEmpty "kind" with
      | .null => sampleListText
      | _ => sampleExportText
    jsonDecode := fun text =>
      if text = sampleListText then .ok (sampleWriter.profileListPayload [sampleProfile])
      else .ok (sampleWriter.exportPayload sampleProfile) }

theorem sound_sampleProfile : samplePlatform.Sound sampleProfile.routing where
  decoded := ⟨sampleRouting, by rfl⟩
  groups := List.nodup_nil
  rules := by
    intro a ha b hb _ _
    rw [List.mem_singleton.mp ha, List.mem_singleton.mp hb]

theorem jsonDecode_sampleList :
    samplePlatform.jsonDecode (samplePlatform.jsonEncode
      (samplePlatform.profileListPayload [sampleProfile]))
      = .ok (samplePlatform.profileListPayload [sampleProfile]) := by
  have hencode : samplePlatform.jsonEncode (samplePlatform.profileListPayload [sampleProfile])
      = sampleListText := rfl
  rw [hencode]
  exact if_pos rfl

theorem jsonDecode_sampleExport :
    samplePlatform.jsonDecode (samplePlatform.jsonEncode
      (samplePlatform.exportPayload sampleProfile))
      = .ok (samplePlatform.exportPayload sampleProfile) := by
  have hencode : samplePlatform.jsonEncode (samplePlatform.exportPayload sampleProfile)
      = sampleExportText := rfl
  have hne : sampleExportText ≠ sampleListText := by decide +kernel
  rw [hencode]
  exact if_neg hne

/-- The profile is read back, and imported. -/
theorem reloaded_sampleProfile :
    (∃ reloaded, samplePlatform.decodeProfileList (fun _ => ⟨0, true⟩)
        (samplePlatform.encodeProfileList [sampleProfile]) = .ok reloaded ∧
      List.Forall₂ samplePlatform.Reloads [sampleProfile] reloaded) ∧
    ∀ profile ∈ [sampleProfile], ∃ imported,
      samplePlatform.importProfile ⟨0, true⟩ ⟨0, true⟩ (samplePlatform.exportProfile profile)
        = .ok imported ∧
        samplePlatform.Reloads { profile with hasStoredPassword := false } imported :=
  samplePlatform.reloaded_same (fun _ => ⟨0, true⟩) [sampleProfile]
    (List.forall_mem_singleton.mpr sound_sampleProfile)
    (List.forall_mem_singleton.mpr rfl) jsonDecode_sampleList
    (List.forall_mem_singleton.mpr jsonDecode_sampleExport)

end ProfilePlatform
