import Mathlib.Data.List.ReduceOption
import Trojan.Client.RoutingDecisionEngine
import Trojan.Util.Json

/-!
# Routing configurations as JSON

`RoutingProfileCodec` (`routing_profile_codec.dart`) reads a routing configuration
from a JSON value and writes one. Reading is lenient: a group or a rule without an
id is passed over, what is missing has a default, and texts are trimmed. Writing
leaves out what is blank, and writes the action of a rule without a group as a
direct one.

What is written and read again is therefore not the configuration there was. It
is `reloaded`: the same lists in the order of their ids and priorities, with the
constraints of each rule cleaned up (`RoutingProfileCodec.decode_encode`). For
every request it means the same (`RoutingDecisionEngine.sameDecision_reloaded`).
-/

namespace RoutingProfileCodec

/-- The value of an enumeration that has a name, or a default. -/
def safeEnum {α : Type} (values : List α) (nameOf : α → Text) (name : Option Text)
    (fallback : α) : α :=
  match name with
  | none => fallback
  | some name => (values.find? (fun value => nameOf value == name)).getD fallback

/-- A name that is not blank, or the id in its place. -/
def nameOrId (name : Option Text) (id : Text) : Text :=
  if Text.isNotBlank name then (name.getD []).trim else id

def decodePolicyGroup (map : List (String × Json)) :
    Except ReadError (Option RoutingPolicyGroup) := do
  let id := ((← (Json.field map "id").asString).map Text.trim).getD []
  if id.isEmpty then return none
  let name ← (Json.field map "name").asString
  let action ← (Json.field map "action").asString
  return some
    { id := id
      name := nameOrId name id
      action := safeEnum RoutingAction.values RoutingAction.name action .proxy }

def decodeRuleMatch (matchMap : List (String × Json)) : Except ReadError RoutingRuleMatch := do
  let domainExact ← (Json.field matchMap "domainExact").asString
  let domainSuffix ← (Json.field matchMap "domainSuffix").asString
  let domainKeyword ← (Json.field matchMap "domainKeyword").asString
  let domainRegex ← (Json.field matchMap "domainRegex").asString
  let ipCidr ← (Json.field matchMap "ipCidr").asString
  let port ← (Json.field matchMap "port").asInt
  let protocol ← (Json.field matchMap "protocol").asString
  let processName ← (Json.field matchMap "processName").asString
  let processPath ← (Json.field matchMap "processPath").asString
  return {
    domainExact := domainExact.map Text.trim
    domainSuffix := domainSuffix.map Text.trim
    domainKeyword := domainKeyword.map Text.trim
    domainRegex := domainRegex.map Text.trim
    ipCidr := ipCidr.map Text.trim
    port := port
    protocol := protocol.map Text.trim
    processName := processName.map Text.trim
    processPath := processPath.map Text.trim }

def decodeRuleAction (defaultAction : RoutingAction) (actionMap : List (String × Json)) :
    Except ReadError RoutingRuleAction := do
  let actionKind := (← (Json.field actionMap "kind").asString).map Text.trim
  if actionKind = some (Text.ofString "policyGroup") then
    let policyGroupId ← (Json.field actionMap "policyGroupId").asString
    return .policyGroup (policyGroupId.map Text.trim)
  else
    let directAction ← (Json.field actionMap "directAction").asString
    return .direct
      (some (safeEnum RoutingAction.values RoutingAction.name directAction defaultAction))

def decodeRule (defaultAction : RoutingAction) (map : List (String × Json)) :
    Except ReadError (Option RoutingRule) := do
  let id := ((← (Json.field map "id").asString).map Text.trim).getD []
  if id.isEmpty then return none
  let action ← decodeRuleAction defaultAction (Json.field map "action").fieldsOrEmpty
  let name ← (Json.field map "name").asString
  let enabled ← (Json.field map "enabled").asBool
  let priority ← (Json.field map "priority").asInt
  let ruleMatch ← decodeRuleMatch (Json.field map "match").fieldsOrEmpty
  return some
    { id := id
      name := nameOrId name id
      enabled := enabled.getD true
      priority := priority.getD 100
      ruleMatch := ruleMatch
      action := action }

/-- The objects of a list that may be absent, each decoded, without those that
are passed over. -/
def decodeList {α : Type} (value : Json)
    (decode : List (String × Json) → Except ReadError (Option α)) :
    Except ReadError (List α) := do
  let items := (← value.asList).getD []
  let decoded ← (items.filterMap Json.fields?).mapM decode
  return decoded.reduceOption

variable (platform : RoutingPlatform)

def decodeFromJsonMap (json : List (String × Json)) :
    Except ReadError RoutingProfileConfig := do
  let mode := safeEnum RoutingMode.values RoutingMode.name
    (← (Json.field json "mode").asString) .rule
  let defaultAction := safeEnum RoutingAction.values RoutingAction.name
    (← (Json.field json "defaultAction").asString) .proxy
  let globalAction := safeEnum RoutingAction.values RoutingAction.name
    (← (Json.field json "globalAction").asString) .proxy
  let policyGroups ← decodeList (Json.field json "policyGroups") decodePolicyGroup
  let rules ← decodeList (Json.field json "rules") (decodeRule defaultAction)
  return {
    mode := mode
    defaultAction := defaultAction
    globalAction := globalAction
    policyGroups := policyGroups
    rules := platform.sorter.sort RoutingRule.precedes rules }

def decodeFromObject (value : Json) : Except ReadError RoutingProfileConfig :=
  match value.fields? with
  | some json => decodeFromJsonMap platform json
  | none => .ok .defaults

/-! ## Writing -/

/-- A text of a constraint is written unless it is blank. -/
def encodeText (value : Option Text) : Option Json :=
  if Text.isNotBlank value then value.map (fun t => .str t.trim) else none

def encodePolicyGroup (group : RoutingPolicyGroup) : List (String × Json) :=
  [("id", .str group.id), ("name", .str group.name), ("action", .str group.action.name)]

def encodeRuleMatch (m : RoutingRuleMatch) : List (String × Json) :=
  [Json.optional "domainExact" (encodeText m.domainExact),
    Json.optional "domainSuffix" (encodeText m.domainSuffix),
    Json.optional "domainKeyword" (encodeText m.domainKeyword),
    Json.optional "domainRegex" (encodeText m.domainRegex),
    Json.optional "ipCidr" (encodeText m.ipCidr),
    Json.optional "port" (m.port.map Json.int),
    Json.optional "protocol" (encodeText m.protocol),
    Json.optional "processName" (encodeText m.processName),
    Json.optional "processPath" (encodeText m.processPath)].flatten

def encodeRuleAction (defaultAction : RoutingAction) (action : RoutingRuleAction) :
    List (String × Json) :=
  if action.usesPolicyGroup then
    [("kind", .str (Text.ofString "policyGroup")), ("policyGroupId", .str action.targetGroupId)]
  else
    [("kind", .str (Text.ofString "direct")),
      ("directAction", .str (action.directAction.getD defaultAction).name)]

def encodeRule (defaultAction : RoutingAction) (rule : RoutingRule) : List (String × Json) :=
  [("id", .str rule.id), ("name", .str rule.name), ("enabled", .bool rule.enabled),
    ("priority", .int rule.priority), ("match", .obj (encodeRuleMatch rule.ruleMatch)),
    ("action", .obj (encodeRuleAction defaultAction rule.action))]

/-- The comparison that policy groups are written in. -/
def groupPrecedes (a b : RoutingPolicyGroup) : Bool := a.id ≤ b.id

def encodeToJsonMap (config : RoutingProfileConfig) : List (String × Json) :=
  let sortedPolicyGroups := platform.sorter.sort groupPrecedes config.policyGroups
  let sortedRules := platform.sorter.sort RoutingRule.precedes config.rules
  [("mode", .str config.mode.name),
    ("defaultAction", .str config.defaultAction.name),
    ("globalAction", .str config.globalAction.name),
    ("policyGroups", .arr (sortedPolicyGroups.map (fun group => .obj (encodePolicyGroup group)))),
    ("rules",
      .arr (sortedRules.map (fun rule => .obj (encodeRule config.defaultAction rule))))]

/-! ## Reading what was written -/

/-- A text that is blank is as good as none, and others are trimmed. -/
def cleaned (value : Option Text) : Option Text :=
  if Text.isNotBlank value then value.map Text.trim else none

/-- The constraints of a rule after they were written and read. -/
def reloadedMatch (m : RoutingRuleMatch) : RoutingRuleMatch where
  domainExact := cleaned m.domainExact
  domainSuffix := cleaned m.domainSuffix
  domainKeyword := cleaned m.domainKeyword
  domainRegex := cleaned m.domainRegex
  ipCidr := cleaned m.ipCidr
  port := m.port
  protocol := cleaned m.protocol
  processName := cleaned m.processName
  processPath := cleaned m.processPath

/-- The action of a rule after it was written and read. -/
def reloadedAction (defaultAction : RoutingAction) (action : RoutingRuleAction) :
    RoutingRuleAction :=
  if action.usesPolicyGroup then .policyGroup (some action.targetGroupId)
  else .direct (some (action.directAction.getD defaultAction))

/-- An action that uses a group still does, and the same one, with the trimmed id. -/
theorem usesPolicyGroup_targetGroupId {action : RoutingRuleAction}
    (h : action.usesPolicyGroup = true) :
    (RoutingRuleAction.policyGroup (some action.targetGroupId)).usesPolicyGroup = true ∧
      (RoutingRuleAction.policyGroup (some action.targetGroupId)).targetGroupId
        = action.targetGroupId := by
  have htrim : action.targetGroupId.trim = action.targetGroupId := Text.trim_trim _
  have hne : action.targetGroupId ≠ [] := by
    unfold RoutingRuleAction.usesPolicyGroup at h
    unfold RoutingRuleAction.targetGroupId
    cases hid : action.policyGroupId with
    | none => simp [hid, Text.isNotBlank] at h
    | some t => simpa [hid, Text.isNotBlank] using h
  refine ⟨?_, htrim⟩
  simp [RoutingRuleAction.usesPolicyGroup, RoutingRuleAction.policyGroupId, Text.isNotBlank,
    htrim, hne]

/-- A rule after it was written and read. -/
def reloadedRule (defaultAction : RoutingAction) (rule : RoutingRule) : RoutingRule :=
  { rule with
    ruleMatch := reloadedMatch rule.ruleMatch
    action := reloadedAction defaultAction rule.action }

/-- An id or a name as the codec reads it: trimmed, and not empty. -/
def Proper (t : Text) : Prop := t.trim = t ∧ t ≠ []

/-- What the codec reads: every id and every name is proper. -/
structure Readable (config : RoutingProfileConfig) : Prop where
  groups : ∀ group ∈ config.policyGroups, Proper group.id ∧ Proper group.name
  rules : ∀ rule ∈ config.rules, Proper rule.id ∧ Proper rule.name

@[simp] theorem safeEnum_mode (mode fallback : RoutingMode) :
    safeEnum RoutingMode.values RoutingMode.name (some mode.name) fallback = mode := by
  cases mode <;> rfl

@[simp] theorem safeEnum_action (action fallback : RoutingAction) :
    safeEnum RoutingAction.values RoutingAction.name (some action.name) fallback = action := by
  cases action <;> rfl

theorem isNotBlank_of_proper {t : Text} (h : Proper t) : Text.isNotBlank (some t) = true := by
  obtain ⟨htrim, hne⟩ := h
  simp [Text.isNotBlank, htrim, hne]

theorem nameOrId_of_proper {name : Text} (h : Proper name) (id : Text) :
    nameOrId (some name) id = name := by
  rw [nameOrId, if_pos (isNotBlank_of_proper h)]
  exact h.1

theorem decodePolicyGroup_encode {group : RoutingPolicyGroup} (hid : Proper group.id)
    (hname : Proper group.name) :
    decodePolicyGroup (encodePolicyGroup group) = .ok (some group) := by
  simp [decodePolicyGroup, encodePolicyGroup, bind, Except.bind, pure, Except.pure, hid.1, hid.2,
    nameOrId_of_proper hname]

/-- A constraint that was written is read cleaned up. -/
theorem asString_encodeText (value : Option Text) :
    ((encodeText value).getD .null).asString = .ok (cleaned value) := by
  unfold encodeText cleaned
  split
  · cases value <;> rfl
  · rfl

@[simp] theorem map_trim_cleaned (value : Option Text) :
    (cleaned value).map Text.trim = cleaned value := by
  unfold cleaned
  split
  · cases value <;> simp
  · rfl

theorem asInt_encodePort (port : Option ℤ) :
    ((port.map Json.int).getD .null).asInt = .ok port := by
  cases port <;> rfl

theorem decodeRuleMatch_encode (m : RoutingRuleMatch) :
    decodeRuleMatch (encodeRuleMatch m) = .ok (reloadedMatch m) := by
  simp [decodeRuleMatch, encodeRuleMatch, bind, Except.bind, pure, Except.pure,
    asString_encodeText, asInt_encodePort, reloadedMatch]

theorem decodeRuleAction_encode (defaultAction : RoutingAction) (action : RoutingRuleAction) :
    decodeRuleAction defaultAction (encodeRuleAction defaultAction action)
      = .ok (reloadedAction defaultAction action) := by
  have hgroup : (Text.ofString "policyGroup").trim = Text.ofString "policyGroup" := by
    decide +kernel
  have hdirect : (Text.ofString "direct").trim ≠ Text.ofString "policyGroup" := by
    decide +kernel
  unfold encodeRuleAction reloadedAction
  split
  · simp [decodeRuleAction, bind, Except.bind, pure, Except.pure, hgroup,
      RoutingRuleAction.targetGroupId]
  · simp [decodeRuleAction, bind, Except.bind, pure, Except.pure, hdirect]

theorem decodeRule_encode (defaultAction : RoutingAction) {rule : RoutingRule}
    (hid : Proper rule.id) (hname : Proper rule.name) :
    decodeRule defaultAction (encodeRule defaultAction rule)
      = .ok (some (reloadedRule defaultAction rule)) := by
  simp [decodeRule, encodeRule, bind, Except.bind, pure, Except.pure, hid.1, hid.2,
    nameOrId_of_proper hname, decodeRuleAction_encode, decodeRuleMatch_encode, reloadedRule]

/-- A list of objects that are all decoded. -/
theorem decodeList_map {α β : Type} {encode : α → List (String × Json)} {f : α → β}
    {decode : List (String × Json) → Except ReadError (Option β)} {l : List α}
    (h : ∀ a ∈ l, decode (encode a) = .ok (some (f a))) :
    decodeList (.arr (l.map (fun a => .obj (encode a)))) decode = .ok (l.map f) := by
  have hfields : (l.map (fun a => Json.obj (encode a))).filterMap Json.fields? = l.map encode := by
    rw [List.filterMap_map]
    exact List.filterMap_eq_map (f := encode) ▸ rfl
  have hmapM : (l.map encode).mapM decode = .ok (l.map (fun a => some (f a))) := by
    rw [Json.mapM_eq_ok_iff, List.forall₂_map_left_iff, List.forall₂_map_right_iff,
      List.forall₂_same]
    exact h
  have hreduce : (l.map (fun a => some (f a))).reduceOption = l.map f := by
    rw [List.reduceOption, List.filterMap_map]
    exact List.filterMap_eq_map (f := f) ▸ rfl
  simp [decodeList, bind, Except.bind, pure, Except.pure, hfields, hmapM, hreduce]

/-! ### What is read is proper -/

theorem proper_trim {t : Text} (h : t.trim ≠ []) : Proper t.trim := ⟨Text.trim_trim t, h⟩

theorem proper_nameOrId {id : Text} (h : Proper id) (name : Option Text) :
    Proper (nameOrId name id) := by
  unfold nameOrId
  split
  · rename_i hname
    cases name with
    | none => exact absurd hname (by simp [Text.isNotBlank])
    | some t => exact proper_trim (by simpa [Text.isNotBlank] using hname)
  · exact h

/-- An id that is not passed over is proper. -/
theorem proper_id {id : Option Text} (h : ¬ ((id.map Text.trim).getD []).isEmpty = true) :
    Proper ((id.map Text.trim).getD []) := by
  cases id with
  | none => exact absurd rfl h
  | some t => exact proper_trim (by simpa using h)

theorem decodePolicyGroup_proper {map : List (String × Json)} {group : RoutingPolicyGroup}
    (h : decodePolicyGroup map = .ok (some group)) : Proper group.id ∧ Proper group.name := by
  unfold decodePolicyGroup at h
  simp only [bind, Except.bind, pure, Except.pure] at h
  split at h
  · exact nomatch h
  · split at h
    · exact nomatch h
    · rename_i hid
      split at h
      · exact nomatch h
      · split at h
        · exact nomatch h
        · obtain rfl := Option.some.inj (Except.ok.inj h)
          exact ⟨proper_id hid, proper_nameOrId (proper_id hid) _⟩

theorem decodeRule_proper {defaultAction : RoutingAction} {map : List (String × Json)}
    {rule : RoutingRule} (h : decodeRule defaultAction map = .ok (some rule)) :
    Proper rule.id ∧ Proper rule.name := by
  unfold decodeRule at h
  simp only [bind, Except.bind, pure, Except.pure] at h
  split at h
  · exact nomatch h
  · split at h
    · exact nomatch h
    · rename_i hid
      iterate 5
        split at h
        · exact nomatch h
      obtain rfl := Option.some.inj (Except.ok.inj h)
      exact ⟨proper_id hid, proper_nameOrId (proper_id hid) _⟩

/-- What is in a list that was decoded was decoded from one of its objects. -/
theorem mem_decodeList {α : Type} {value : Json}
    {decode : List (String × Json) → Except ReadError (Option α)} {l : List α}
    (h : decodeList value decode = .ok l) {a : α} (ha : a ∈ l) :
    ∃ map, decode map = .ok (some a) := by
  unfold decodeList at h
  simp only [bind, Except.bind, pure, Except.pure] at h
  split at h
  · exact nomatch h
  · split at h
    · exact nomatch h
    · rename_i decoded hdecoded
      obtain rfl := Except.ok.inj h
      rw [List.reduceOption_mem_iff] at ha
      obtain ⟨map, -, hmap⟩ := Json.exists_of_mem_mapM hdecoded ha
      exact ⟨map, hmap⟩

variable (platform : RoutingPlatform)

/-- What the codec reads has proper ids and names. -/
theorem readable_of_decode {value : Json} {config : RoutingProfileConfig}
    (h : decodeFromObject platform value = .ok config) : Readable config := by
  unfold decodeFromObject at h
  split at h
  · unfold decodeFromJsonMap at h
    simp only [bind, Except.bind, pure, Except.pure] at h
    iterate 3
      split at h
      · exact nomatch h
    split at h
    · exact nomatch h
    · rename_i hgroups
      split at h
      · exact nomatch h
      · rename_i hrules
        obtain rfl := Except.ok.inj h
        refine ⟨fun group hgroup => ?_, fun rule hrule => ?_⟩
        · obtain ⟨map, hmap⟩ := mem_decodeList hgroups hgroup
          exact decodePolicyGroup_proper hmap
        · obtain ⟨map, hmap⟩ := mem_decodeList hrules (platform.sorter.mem_sort.mp hrule)
          exact decodeRule_proper hmap
  · obtain rfl := Except.ok.inj h
    exact { groups := fun _ hgroup => (nomatch hgroup), rules := fun _ hrule => (nomatch hrule) }

/-- A configuration after it was written and read. -/
def reloaded (config : RoutingProfileConfig) : RoutingProfileConfig :=
  { config with
    policyGroups := platform.sorter.sort groupPrecedes config.policyGroups
    rules := platform.sorter.sort RoutingRule.precedes
      ((platform.sorter.sort RoutingRule.precedes config.rules).map
        (reloadedRule config.defaultAction)) }

/-- **What was written is read**, cleaned up and in order. -/
theorem decode_encode {config : RoutingProfileConfig} (h : Readable config) :
    decodeFromObject platform (.obj (encodeToJsonMap platform config))
      = .ok (reloaded platform config) := by
  have hgroups : decodeList (.arr ((platform.sorter.sort groupPrecedes config.policyGroups).map
      (fun group => .obj (encodePolicyGroup group)))) decodePolicyGroup
      = .ok ((platform.sorter.sort groupPrecedes config.policyGroups).map id) :=
    decodeList_map (fun group hgroup =>
      decodePolicyGroup_encode (h.groups group (platform.sorter.mem_sort.mp hgroup)).1
        (h.groups group (platform.sorter.mem_sort.mp hgroup)).2)
  have hrules := decodeList_map (l := platform.sorter.sort RoutingRule.precedes config.rules)
    (fun rule hrule => decodeRule_encode config.defaultAction
      (h.rules rule (platform.sorter.mem_sort.mp hrule)).1
      (h.rules rule (platform.sorter.mem_sort.mp hrule)).2)
  simp [decodeFromObject, decodeFromJsonMap, encodeToJsonMap, bind, Except.bind, pure, Except.pure,
    hgroups, hrules, reloaded]

/-- A list of objects that are all decoded, or passed over. -/
theorem exists_decodeList_map {α β : Type} {encode : α → List (String × Json)}
    {decode : List (String × Json) → Except ReadError (Option β)} (l : List α)
    (h : ∀ a, ∃ b, decode (encode a) = .ok b) :
    ∃ out, decodeList (.arr (l.map (fun a => .obj (encode a)))) decode = .ok out := by
  have hfields : (l.map (fun a => Json.obj (encode a))).filterMap Json.fields? = l.map encode := by
    rw [List.filterMap_map]
    exact List.filterMap_eq_map (f := encode) ▸ rfl
  choose f hf using h
  have hmapM : (l.map encode).mapM decode = .ok (l.map f) := by
    rw [Json.mapM_eq_ok_iff, List.forall₂_map_left_iff, List.forall₂_map_right_iff,
      List.forall₂_same]
    exact fun a _ => hf a
  exact ⟨(l.map f).reduceOption, by
    simp [decodeList, bind, Except.bind, pure, Except.pure, hfields, hmapM]⟩

/-- **Whatever was written is read**: a group or a rule may be passed over, but the
reading does not fail. -/
theorem exists_decode_encode (config : RoutingProfileConfig) :
    ∃ config', decodeFromObject platform (.obj (encodeToJsonMap platform config))
      = .ok config' := by
  obtain ⟨groups, hgroups⟩ := @exists_decodeList_map _ _ encodePolicyGroup
    decodePolicyGroup (platform.sorter.sort groupPrecedes config.policyGroups)
    (fun group => by
      by_cases hid : group.id.trim = [] <;>
        simp [decodePolicyGroup, encodePolicyGroup, bind, Except.bind, pure, Except.pure, hid])
  obtain ⟨rules, hrules⟩ := @exists_decodeList_map _ _ (encodeRule config.defaultAction)
    (decodeRule config.defaultAction)
    (platform.sorter.sort RoutingRule.precedes config.rules)
    (fun rule => by
      by_cases hid : rule.id.trim = [] <;>
        simp [decodeRule, encodeRule, bind, Except.bind, pure, Except.pure, hid,
          decodeRuleAction_encode, decodeRuleMatch_encode])
  refine ⟨{ config with
    policyGroups := groups
    rules := platform.sorter.sort RoutingRule.precedes rules }, ?_⟩
  simp [decodeFromObject, decodeFromJsonMap, encodeToJsonMap, bind, Except.bind, pure, Except.pure,
    hgroups, hrules]

end RoutingProfileCodec

/-! ## What was written means the same -/

namespace RoutingPlatform

variable (platform : RoutingPlatform)

theorem isNotBlank_cleaned (value : Option Text) :
    Text.isNotBlank (RoutingProfileCodec.cleaned value) = Text.isNotBlank value := by
  unfold RoutingProfileCodec.cleaned
  split
  · rename_i h
    cases value with
    | none => exact absurd h (by simp [Text.isNotBlank])
    | some t => simp [Text.isNotBlank]
  · rename_i h
    rw [Bool.eq_false_iff.mpr h]
    rfl

/-- A constraint that is blank is none. -/
theorem normalizeMaybe_of_blank {value : Option Text} (h : Text.isNotBlank value = false) :
    platform.normalizeMaybe value = none := by
  cases value with
  | none => rfl
  | some t =>
    have hblank : t.trim = [] := by simpa [Text.isNotBlank] using h
    unfold normalizeMaybe
    rw [Option.map_some, hblank, platform.toLowerCase_nil]
    rfl

/-- A constraint that is cleaned up is the same constraint. -/
theorem normalizeMaybe_cleaned (value : Option Text) :
    platform.normalizeMaybe (RoutingProfileCodec.cleaned value)
      = platform.normalizeMaybe value := by
  unfold RoutingProfileCodec.cleaned
  split
  · cases value with
    | none => rfl
    | some t => simp [normalizeMaybe]
  · rename_i h
    exact (platform.normalizeMaybe_of_blank (by simpa using h)).symm

/-- A rule that was written and read matches as before. -/
theorem matchesRule_reloadedMatch (m : RoutingRuleMatch) (request : RoutingRequestMetadata) :
    platform.matchesRule (RoutingProfileCodec.reloadedMatch m) request
      = platform.matchesRule m request := by
  have hany : (RoutingProfileCodec.reloadedMatch m).hasAnyConstraint = m.hasAnyConstraint := by
    simp only [RoutingRuleMatch.hasAnyConstraint, RoutingProfileCodec.reloadedMatch,
      isNotBlank_cleaned]
  unfold matchesRule
  rw [hany]
  simp only [RoutingProfileCodec.reloadedMatch, normalizeMaybe_cleaned]

end RoutingPlatform

namespace RoutingDecisionEngine

variable (platform : RoutingPlatform)

/-- Two configurations decide alike: every request meets the same action, by the
same rule. -/
def SameDecision (config config' : RoutingProfileConfig) : Prop :=
  ∀ request, (resolve platform config' request).action = (resolve platform config request).action ∧
    (resolve platform config' request).matchedRuleId
      = (resolve platform config request).matchedRuleId

variable {platform}

theorem SameDecision.trans {a b c : RoutingProfileConfig} (hab : SameDecision platform a b)
    (hbc : SameDecision platform b c) : SameDecision platform a c :=
  fun request => ⟨(hbc request).1.trans (hab request).1, (hbc request).2.trans (hab request).2⟩

/-- A change of the rules that leaves their place and what they match. -/
structure KeepsPlace (f : RoutingRule → RoutingRule) : Prop where
  id : ∀ rule, (f rule).id = rule.id
  priority : ∀ rule, (f rule).priority = rule.priority
  enabled : ∀ rule, (f rule).enabled = rule.enabled

theorem KeepsPlace.precedes {f : RoutingRule → RoutingRule} (hf : KeepsPlace f)
    (a b : RoutingRule) : (f a).precedes (f b) = a.precedes b := by
  simp only [RoutingRule.precedes, hf.id, hf.priority]

/-- Rules that are told apart still are, after such a change. -/
theorem KeepsPlace.told {f : RoutingRule → RoutingRule} (hf : KeepsPlace f)
    {rules : List RoutingRule} (h : RoutingRule.Told rules) :
    RoutingRule.Told (rules.map f) := by
  refine List.forall_mem_map.mpr (fun a ha => List.forall_mem_map.mpr (fun b hb => ?_))
  rw [hf.priority, hf.priority, hf.id, hf.id]
  intro hpriority hid
  exact congrArg f (h a ha b hb hpriority hid)

theorem told_filter {p : RoutingRule → Bool} {rules : List RoutingRule}
    (h : RoutingRule.Told rules) : RoutingRule.Told (rules.filter p) :=
  fun a ha b hb => h a (List.mem_of_mem_filter ha) b (List.mem_of_mem_filter hb)

theorem told_of_perm {rules rules' : List RoutingRule} (h : RoutingRule.Told rules)
    (hp : rules'.Perm rules) : RoutingRule.Told rules' :=
  fun a ha b hb => h a (hp.mem_iff.mp ha) b (hp.mem_iff.mp hb)

/-- **Changing the rules one by one** changes no decision, if each rule keeps its
place, matches as before and decides as before. -/
theorem sameDecision_of_map {config config' : RoutingProfileConfig}
    {f : RoutingRule → RoutingRule} (hf : KeepsPlace f)
    (htold : RoutingRule.Told config.rules)
    (hmode : config'.mode = config.mode) (hdefault : config'.defaultAction = config.defaultAction)
    (hglobal : config'.globalAction = config.globalAction)
    (hrules : config'.rules.Perm (config.rules.map f))
    (hmatch : ∀ rule request, platform.matchesRule (f rule).ruleMatch request
      = platform.matchesRule rule.ruleMatch request)
    (haction : ∀ rule, ruleAction config' (f rule).action = ruleAction config rule.action) :
    SameDecision platform config config' := by
  intro request
  unfold resolve
  rw [hmode]
  cases config.mode with
  | direct => exact ⟨rfl, rfl⟩
  | global => exact ⟨hglobal, rfl⟩
  | rule =>
    have htold' := told_filter (p := RoutingRule.enabled) htold
    have hfilter : (config.rules.map f).filter RoutingRule.enabled
        = (config.rules.filter RoutingRule.enabled).map f := by
      rw [List.filter_map]
      exact congrArg (List.map f) (List.filter_congr (fun rule _ => hf.enabled rule))
    -- the sorted rules of the one are those of the other, changed
    have hsorted : platform.sorter.sort RoutingRule.precedes
        (config'.rules.filter RoutingRule.enabled)
        = (platform.sorter.sort RoutingRule.precedes
            (config.rules.filter RoutingRule.enabled)).map f := by
      rw [platform.sorter.map_sort RoutingRule.isPreorderedBy_precedes
        RoutingRule.isPreorderedBy_precedes hf.precedes (hf.told htold').distinguishes, ← hfilter]
      refine platform.sorter.sort_eq_of_perm platform.sorter
        RoutingRule.isPreorderedBy_precedes ?_ (hrules.filter RoutingRule.enabled)
      exact (told_filter (told_of_perm (hf.told htold) hrules)).distinguishes
    dsimp only
    rw [hsorted, resolveRules_eq_find?, resolveRules_eq_find?, List.find?_map]
    have hpred : ((fun rule => (platform.matchesRule rule.ruleMatch request).isSome) ∘ f)
        = (fun rule => (platform.matchesRule rule.ruleMatch request).isSome) :=
      funext (fun rule => congrArg Option.isSome (hmatch rule request))
    rw [hpred]
    cases (platform.sorter.sort RoutingRule.precedes
        (config.rules.filter RoutingRule.enabled)).find?
        (fun rule => (platform.matchesRule rule.ruleMatch request).isSome) with
    | none => exact ⟨hdefault, rfl⟩
    | some rule =>
      simp only [Option.map_some, decisionOf_action, decisionOf_matchedRuleId, haction, hf.id,
        and_self]

/-- The ids of the policy groups are distinct. -/
def DistinctGroups (config : RoutingProfileConfig) : Prop :=
  (config.policyGroups.map RoutingPolicyGroup.id).Nodup

/-- A policy group is found as before after the groups were sorted. -/
theorem findPolicyGroup_reloaded {config : RoutingProfileConfig} (h : DistinctGroups config)
    (policyGroupId : Text) :
    findPolicyGroup (RoutingProfileCodec.reloaded platform config) policyGroupId
      = findPolicyGroup config policyGroupId := by
  refine platform.sorter.find?_sort_of_unique (fun a ha b hb hida hidb => ?_)
  have hid : a.id = b.id := (eq_of_beq hida).trans (eq_of_beq hidb).symm
  exact List.inj_on_of_nodup_map h ha hb hid

theorem keepsPlace_reloadedRule (defaultAction : RoutingAction) :
    KeepsPlace (RoutingProfileCodec.reloadedRule defaultAction) :=
  ⟨fun _ => rfl, fun _ => rfl, fun _ => rfl⟩

/-- An action that was written and read does the same. -/
theorem ruleAction_reloaded {config : RoutingProfileConfig} (hgroups : DistinctGroups config)
    (action : RoutingRuleAction) :
    ruleAction (RoutingProfileCodec.reloaded platform config)
      (RoutingProfileCodec.reloadedAction config.defaultAction action)
      = ruleAction config action := by
  unfold ruleAction RoutingProfileCodec.reloadedAction
  cases huses : action.usesPolicyGroup with
  | false => rfl
  | true =>
    obtain ⟨huses', htarget⟩ := RoutingProfileCodec.usesPolicyGroup_targetGroupId huses
    rw [if_pos rfl, if_pos huses', if_pos rfl, htarget, findPolicyGroup_reloaded hgroups]
    rfl

/-- **What was written and read decides as before.** -/
theorem sameDecision_reloaded {config : RoutingProfileConfig} (hgroups : DistinctGroups config)
    (htold : RoutingRule.Told config.rules) :
    SameDecision platform config (RoutingProfileCodec.reloaded platform config) := by
  refine sameDecision_of_map (keepsPlace_reloadedRule config.defaultAction) htold rfl rfl rfl ?_
    (fun rule request => platform.matchesRule_reloadedMatch rule.ruleMatch request)
    (fun rule => ruleAction_reloaded hgroups rule.action)
  exact (platform.sorter.perm _ _).trans ((platform.sorter.perm _ _).map _)

end RoutingDecisionEngine
