import Trojan.Client.RoutingProfileCodec

/-!
# The canonical form of a routing configuration

The codec reads leniently and writes strictly, and both sort. Whatever JSON object
a configuration was read from, what is written of it is a fixpoint: reading it and
writing it again gives the same (`RoutingProfileCodec.canonical_fixpoint`).

The configuration that is read the second time need not be the first one. The
policy groups are in the order of their ids then. An empty text of a constraint,
which the first reading keeps, is not there any more, and a rule that refers to a
group by an empty id, or by none, does what is done by default.
-/

namespace RoutingProfileCodec

/-! ## What may differ -/

/-- A text is what it was, or it was empty and is absent. -/
def SameText (value value' : Option Text) : Prop :=
  value' = value ∨ (value = some [] ∧ value' = none)

structure SameMatch (m m' : RoutingRuleMatch) : Prop where
  domainExact : SameText m.domainExact m'.domainExact
  domainSuffix : SameText m.domainSuffix m'.domainSuffix
  domainKeyword : SameText m.domainKeyword m'.domainKeyword
  domainRegex : SameText m.domainRegex m'.domainRegex
  ipCidr : SameText m.ipCidr m'.ipCidr
  port : m'.port = m.port
  protocol : SameText m.protocol m'.protocol
  processName : SameText m.processName m'.processName
  processPath : SameText m.processPath m'.processPath

/-- An action is what it was, or it referred to no group and is the default. -/
def SameAction (defaultAction : RoutingAction) (action action' : RoutingRuleAction) : Prop :=
  action' = action ∨
    ((action = .policyGroup none ∨ action = .policyGroup (some [])) ∧
      action' = .direct (some defaultAction))

structure SameRule (defaultAction : RoutingAction) (rule rule' : RoutingRule) : Prop where
  eq : rule' = { rule with ruleMatch := rule'.ruleMatch, action := rule'.action }
  ruleMatch : SameMatch rule.ruleMatch rule'.ruleMatch
  action : SameAction defaultAction rule.action rule'.action

/-- Two configurations are the same up to the order of the groups, and what is
empty in the rules of the first. -/
structure SameConfig (config config' : RoutingProfileConfig) : Prop where
  mode : config'.mode = config.mode
  defaultAction : config'.defaultAction = config.defaultAction
  globalAction : config'.globalAction = config.globalAction
  policyGroups : config'.policyGroups.Perm config.policyGroups
  rules : List.Forall₂ (SameRule config.defaultAction) config.rules config'.rules

/-! ## What is read is trimmed -/

/-- The texts of the constraints and the action of a rule, as the codec reads
them. -/
structure Trimmed (rule : RoutingRule) : Prop where
  ruleMatch : ∃ m : RoutingRuleMatch, rule.ruleMatch = {
    domainExact := m.domainExact.map Text.trim
    domainSuffix := m.domainSuffix.map Text.trim
    domainKeyword := m.domainKeyword.map Text.trim
    domainRegex := m.domainRegex.map Text.trim
    ipCidr := m.ipCidr.map Text.trim
    port := m.port
    protocol := m.protocol.map Text.trim
    processName := m.processName.map Text.trim
    processPath := m.processPath.map Text.trim }
  action : (∃ id : Option Text, rule.action = .policyGroup (id.map Text.trim)) ∨
    ∃ action, rule.action = .direct (some action)

theorem decodeRuleMatch_eq {map : List (String × Json)} {decoded : RoutingRuleMatch}
    (h : decodeRuleMatch map = .ok decoded) :
    ∃ m : RoutingRuleMatch, decoded = {
      domainExact := m.domainExact.map Text.trim
      domainSuffix := m.domainSuffix.map Text.trim
      domainKeyword := m.domainKeyword.map Text.trim
      domainRegex := m.domainRegex.map Text.trim
      ipCidr := m.ipCidr.map Text.trim
      port := m.port
      protocol := m.protocol.map Text.trim
      processName := m.processName.map Text.trim
      processPath := m.processPath.map Text.trim } := by
  unfold decodeRuleMatch at h
  simp only [bind, Except.bind, pure, Except.pure] at h
  iterate 9
    split at h
    · exact nomatch h
  rename_i _ domainExact _ _ domainSuffix _ _ domainKeyword _ _ domainRegex _ _ ipCidr _ _ port _
    _ protocol _ _ processName _ _ processPath _
  exact ⟨⟨domainExact, domainSuffix, domainKeyword, domainRegex, ipCidr, port, protocol,
    processName, processPath⟩, (Except.ok.inj h).symm⟩

theorem decodeRuleAction_cases {defaultAction : RoutingAction} {map : List (String × Json)}
    {action : RoutingRuleAction} (h : decodeRuleAction defaultAction map = .ok action) :
    (∃ id : Option Text, action = .policyGroup (id.map Text.trim)) ∨
      ∃ directAction, action = .direct (some directAction) := by
  unfold decodeRuleAction at h
  simp only [bind, Except.bind, pure, Except.pure] at h
  split at h
  · exact nomatch h
  · split at h
    · split at h
      · exact nomatch h
      · exact .inl ⟨_, (Except.ok.inj h).symm⟩
    · split at h
      · exact nomatch h
      · exact .inr ⟨_, (Except.ok.inj h).symm⟩

theorem decodeRule_trimmed {defaultAction : RoutingAction} {map : List (String × Json)}
    {rule : RoutingRule} (h : decodeRule defaultAction map = .ok (some rule)) : Trimmed rule := by
  unfold decodeRule at h
  simp only [bind, Except.bind, pure, Except.pure] at h
  split at h
  · exact nomatch h
  · split at h
    · exact nomatch h
    · split at h
      · exact nomatch h
      · rename_i haction
        iterate 3
          split at h
          · exact nomatch h
        split at h
        · exact nomatch h
        · rename_i hmatch
          obtain rfl := Option.some.inj (Except.ok.inj h)
          exact ⟨decodeRuleMatch_eq hmatch, decodeRuleAction_cases haction⟩

/-- The id of the policy group that a rule names is trimmed. -/
theorem Trimmed.trim_policyGroupId {rule : RoutingRule} (h : Trimmed rule) {id : Text}
    (hid : rule.action.policyGroupId = some id) : id.trim = id := by
  rcases h.action with ⟨raw, haction⟩ | ⟨action, haction⟩
  · rw [haction] at hid
    obtain ⟨t, -, rfl⟩ := Option.map_eq_some_iff.mp hid
    exact Text.trim_trim t
  · rw [haction] at hid
    cases hid

/-- The pattern of a rule is trimmed. -/
theorem Trimmed.trim_domainRegex {rule : RoutingRule} (h : Trimmed rule) {pattern : Text}
    (hpattern : rule.ruleMatch.domainRegex = some pattern) : pattern.trim = pattern := by
  obtain ⟨m, hmatch⟩ := h.ruleMatch
  rw [hmatch] at hpattern
  obtain ⟨t, -, rfl⟩ := Option.map_eq_some_iff.mp hpattern
  exact Text.trim_trim t

variable {platform : RoutingPlatform} {json : List (String × Json)}
  {config : RoutingProfileConfig}

/-- The rules that are read are trimmed, and in order. -/
theorem rules_of_decode (h : decodeFromJsonMap platform json = .ok config) :
    (∀ rule ∈ config.rules, Trimmed rule) ∧
      ∃ rules, config.rules = platform.sorter.sort RoutingRule.precedes rules := by
  unfold decodeFromJsonMap at h
  simp only [bind, Except.bind, pure, Except.pure] at h
  iterate 4
    split at h
    · exact nomatch h
  split at h
  · exact nomatch h
  · rename_i hrules
    obtain rfl := Except.ok.inj h
    refine ⟨fun rule hrule => ?_, _, rfl⟩
    obtain ⟨map, hmap⟩ := mem_decodeList hrules (platform.sorter.mem_sort.mp hrule)
    exact decodeRule_trimmed hmap

/-! ## Reading again -/

theorem sameText_cleaned (value : Option Text) :
    SameText (value.map Text.trim) (cleaned (value.map Text.trim)) := by
  unfold cleaned
  cases value with
  | none => exact .inl rfl
  | some t =>
    split
    · exact .inl (by simp)
    · rename_i hblank
      have hempty : t.trim = [] := by simpa [Text.isNotBlank] using hblank
      exact .inr ⟨congrArg some hempty, rfl⟩

theorem sameRule_reloadedRule (defaultAction : RoutingAction) {rule : RoutingRule}
    (h : Trimmed rule) : SameRule defaultAction rule (reloadedRule defaultAction rule) := by
  refine ⟨rfl, ?_, ?_⟩
  · obtain ⟨m, hm⟩ := h.ruleMatch
    show SameMatch rule.ruleMatch (reloadedMatch rule.ruleMatch)
    rw [hm]
    exact ⟨sameText_cleaned _, sameText_cleaned _, sameText_cleaned _, sameText_cleaned _,
      sameText_cleaned _, rfl, sameText_cleaned _, sameText_cleaned _, sameText_cleaned _⟩
  · show SameAction defaultAction rule.action (reloadedAction defaultAction rule.action)
    obtain ⟨id, hid⟩ | ⟨action, haction⟩ := h.action
    · rw [hid]
      cases id with
      | none => exact .inr ⟨.inl rfl, rfl⟩
      | some t =>
        unfold reloadedAction
        split
        · exact .inl (by simp [RoutingRuleAction.targetGroupId, RoutingRuleAction.policyGroupId])
        · rename_i hblank
          have hempty : t.trim = [] := by
            simpa [RoutingRuleAction.usesPolicyGroup, RoutingRuleAction.policyGroupId,
              Text.isNotBlank] using hblank
          exact .inr ⟨.inr (by simp [hempty]), rfl⟩
    · rw [haction]
      exact .inl rfl

/-- Rules with distinct priorities and ids are told apart. -/
theorem told_of_nodup {rules : List RoutingRule}
    (h : (rules.map (fun rule => (rule.priority, rule.id))).Nodup) : RoutingRule.Told rules :=
  fun _ ha _ hb hpriority hid => List.inj_on_of_nodup_map h ha hb (Prod.ext hpriority hid)

theorem isPreorderedBy_groupPrecedes : IsPreorderedBy groupPrecedes where
  total a b := by
    simp only [groupPrecedes, decide_eq_true_eq]
    exact List.le_total a.id b.id
  trans a b c hab hbc := by
    simp only [groupPrecedes, decide_eq_true_eq] at *
    exact List.le_trans hab hbc

theorem distinguishes_groupPrecedes
    (h : RoutingDecisionEngine.DistinctGroups config) :
    Distinguishes groupPrecedes config.policyGroups := by
  intro a ha b hb hab hba
  simp only [groupPrecedes, decide_eq_true_eq] at hab hba
  exact List.inj_on_of_nodup_map h ha hb (List.le_antisymm hab hba)

/-- **Rules that are in order stay where they are** when they are written and read. -/
theorem reloaded_rules (hsorted : ∃ rules,
    config.rules = platform.sorter.sort RoutingRule.precedes rules)
    (htold : RoutingRule.Told config.rules) :
    platform.sorter.sort RoutingRule.precedes config.rules = config.rules ∧
      (reloaded platform config).rules
        = config.rules.map (reloadedRule config.defaultAction) := by
  have hsort : platform.sorter.sort RoutingRule.precedes config.rules = config.rules := by
    obtain ⟨rules, hrules⟩ := hsorted
    have hperm := platform.sorter.perm RoutingRule.precedes rules
    have heq := platform.sorter.sort_eq_of_perm platform.sorter
      RoutingRule.isPreorderedBy_precedes htold.distinguishes (hrules ▸ hperm)
    exact heq.trans hrules.symm
  have hkeeps := RoutingDecisionEngine.keepsPlace_reloadedRule config.defaultAction
  have hmap := platform.sorter.map_sort RoutingRule.isPreorderedBy_precedes
    RoutingRule.isPreorderedBy_precedes hkeeps.precedes (hkeeps.told htold).distinguishes
  refine ⟨hsort, ?_⟩
  show platform.sorter.sort RoutingRule.precedes
    ((platform.sorter.sort RoutingRule.precedes config.rules).map _) = _
  rw [hsort, ← hmap, hsort]

/-! ## Writing again -/

theorem encodeText_cleaned (value : Option Text) :
    encodeText (cleaned value) = encodeText value := by
  unfold encodeText
  rw [RoutingPlatform.isNotBlank_cleaned]
  split
  · rename_i h
    rw [cleaned, if_pos h]
    cases value <;> simp
  · rfl

theorem encodeRuleAction_reloadedAction (defaultAction : RoutingAction)
    (action : RoutingRuleAction) :
    encodeRuleAction defaultAction (reloadedAction defaultAction action)
      = encodeRuleAction defaultAction action := by
  unfold reloadedAction
  cases huses : action.usesPolicyGroup with
  | false =>
    have hdirect : (RoutingRuleAction.direct
        (some (action.directAction.getD defaultAction))).usesPolicyGroup ≠ true := nofun
    rw [if_neg Bool.false_ne_true, encodeRuleAction, encodeRuleAction, if_neg hdirect,
      if_neg (by simp [huses])]
    rfl
  | true =>
    obtain ⟨huses', htarget⟩ := usesPolicyGroup_targetGroupId huses
    rw [if_pos rfl, encodeRuleAction, encodeRuleAction, if_pos huses', if_pos huses, htarget]

theorem encodeRule_reloadedRule (defaultAction : RoutingAction) (rule : RoutingRule) :
    encodeRule defaultAction (reloadedRule defaultAction rule) = encodeRule defaultAction rule := by
  simp [encodeRule, reloadedRule, encodeRuleMatch, reloadedMatch, encodeText_cleaned,
    encodeRuleAction_reloadedAction]

theorem encode_reloaded (hgroups : RoutingDecisionEngine.DistinctGroups config)
    (hsorted : ∃ rules, config.rules = platform.sorter.sort RoutingRule.precedes rules)
    (htold : RoutingRule.Told config.rules) :
    encodeToJsonMap platform (reloaded platform config) = encodeToJsonMap platform config := by
  obtain ⟨hsort, hrules⟩ := reloaded_rules hsorted htold
  have hsortedGroups : platform.sorter.sort groupPrecedes
      (platform.sorter.sort groupPrecedes config.policyGroups)
      = platform.sorter.sort groupPrecedes config.policyGroups :=
    (platform.sorter.sort_eq_of_perm platform.sorter isPreorderedBy_groupPrecedes
      (distinguishes_groupPrecedes hgroups) (platform.sorter.perm _ _).symm).symm
  have hkeeps := RoutingDecisionEngine.keepsPlace_reloadedRule config.defaultAction
  have hmap := platform.sorter.map_sort RoutingRule.isPreorderedBy_precedes
    RoutingRule.isPreorderedBy_precedes hkeeps.precedes (hkeeps.told htold).distinguishes
  unfold encodeToJsonMap
  rw [hrules, ← hmap, hsort]
  simp only [reloaded, hsortedGroups, List.map_map, Function.comp_def, encodeRule_reloadedRule]

/-- **The canonical form is a fixpoint.** A JSON object that the codec reads, and in
which the rules that can be used have distinct priorities and ids, and the groups
distinct ids, is written in a form that is read and written the same. What is read
from that form is the configuration that was read first, up to the order of the groups
and to what was empty. -/
theorem canonical_fixpoint (platform : RoutingPlatform) (json : List (String × Json))
    (config : RoutingProfileConfig) (h : decodeFromJsonMap platform json = .ok config)
    (hrules : (config.rules.map (fun rule => (rule.priority, rule.id))).Nodup)
    (hgroups : (config.policyGroups.map RoutingPolicyGroup.id).Nodup) :
    ∃ config', decodeFromJsonMap platform (encodeToJsonMap platform config) = .ok config' ∧
      encodeToJsonMap platform config' = encodeToJsonMap platform config ∧
      SameConfig config config' := by
  have htold := told_of_nodup hrules
  obtain ⟨htrimmed, hsorted⟩ := rules_of_decode h
  have hreadable := @readable_of_decode platform (.obj json) config h
  refine ⟨reloaded platform config, decode_encode platform hreadable,
    encode_reloaded hgroups hsorted htold, rfl, rfl, rfl, platform.sorter.perm _ _, ?_⟩
  rw [(reloaded_rules hsorted htold).2, List.forall₂_map_right_iff, List.forall₂_same]
  exact fun rule hrule => sameRule_reloadedRule config.defaultAction (htrimmed rule hrule)

/-! ### A configuration with something empty in it -/

/-- Two groups out of order, and a rule that refers to none of them. -/
def sampleJson : List (String × Json) :=
  [("mode", .str (Text.ofString "rule")),
    ("policyGroups", .arr [
      .obj [("id", .str (Text.ofString "b")), ("action", .str (Text.ofString "block"))],
      .obj [("id", .str (Text.ofString " a "))], .obj [("id", .str [])]]),
    ("rules", .arr [.obj [("id", .str (Text.ofString "r")),
      ("match", .obj [("domainExact", .str (Text.ofString " ")), ("port", .int 25)]),
      ("action", .obj [("kind", .str (Text.ofString "policyGroup")), ("policyGroupId", .str [])])]])]

/-- The configuration that is read. -/
def sampleConfig : RoutingProfileConfig where
  mode := .rule
  defaultAction := .proxy
  globalAction := .proxy
  policyGroups := [⟨Text.ofString "b", Text.ofString "b", .block⟩,
    ⟨Text.ofString "a", Text.ofString "a", .proxy⟩]
  rules := [{
    id := Text.ofString "r"
    name := Text.ofString "r"
    enabled := true
    priority := 100
    ruleMatch := { domainExact := some [], port := some 25 }
    action := .policyGroup (some []) }]

def samplePlatform : RoutingPlatform where
  sorter := Sorter.insertion
  toLowerCase := Text.asciiLower
  toLowerCase_nil := Text.asciiLower_nil
  hasMatch _ _ := some false
  parseInt _ := none
  parseAddress _ := none

/-- The form that is written of it is read and written the same. -/
theorem canonical_fixpoint_sample :
    ∃ config', decodeFromJsonMap samplePlatform (encodeToJsonMap samplePlatform sampleConfig)
        = .ok config' ∧
      encodeToJsonMap samplePlatform config' = encodeToJsonMap samplePlatform sampleConfig ∧
      SameConfig sampleConfig config' :=
  canonical_fixpoint samplePlatform sampleJson sampleConfig (by rfl) (List.nodup_singleton _)
    (by decide +kernel)

end RoutingProfileCodec
