import Trojan.Client.CanonicalRouting
import Trojan.Client.LeastRule

/-!
# The guardrail of routing configurations

Before a configuration is applied, `RoutingGuardrailService`
(`routing_guardrail_service.dart`) looks at its enabled rules. One that names a policy group
which is not there blocks the configuration; one that sends a whole top-level domain out
directly asks for confirmation.

What blocks is what the engine would have to make up for: it takes the default action
where a group is missing (`RoutingDecisionEngine.FallsBack`). The guardrail compares the
id of the group as it stands and the engine trims it first, which is the same for what the
codec has read (`RoutingProfileCodec.Trimmed`). The two agree
(`RoutingGuardrailService.evaluate_agrees`), where the engine looks at rules at all: in the
other modes it does not, and the guardrail blocks a configuration all the same.
-/

/-! ## What the guardrail reports (`routing_change_gate.dart`) -/

inductive RoutingRiskLevel where
  | low
  | medium
  | high
  deriving DecidableEq, Repr

inductive RoutingApplyDisposition where
  | allowed
  | requiresConfirm
  | blocked
  deriving DecidableEq, Repr

structure RoutingGuardrailIssue where
  code : Text
  message : Text
  blocking : Bool
  ruleId : Option Text := none
  deriving DecidableEq, Repr

structure RoutingGuardrailReport where
  level : RoutingRiskLevel
  applyDisposition : RoutingApplyDisposition
  issues : List RoutingGuardrailIssue
  deriving DecidableEq, Repr

namespace RoutingGuardrailService

def missingPolicyGroupCode : Text := Text.ofString "MISSING_POLICY_GROUP"

def wideDirectMatchCode : Text := Text.ofString "WIDE_DIRECT_MATCH"

def missingPolicyGroup (rule : RoutingRule) : RoutingGuardrailIssue where
  code := missingPolicyGroupCode
  message := Text.ofString "Rule \"" ++ rule.id ++
    Text.ofString "\" references a missing policy group and cannot be applied safely."
  blocking := true
  ruleId := rule.id

def wideDirectMatch (rule : RoutingRule) (keyword : Text) : RoutingGuardrailIssue where
  code := wideDirectMatchCode
  message := Text.ofString "Rule \"" ++ rule.id ++
    Text.ofString "\" uses wide direct keyword \"" ++ keyword ++
    Text.ofString "\" and may bypass proxy unexpectedly."
  blocking := false
  ruleId := rule.id

/-- The policy groups contain an id, which may be null. -/
def containsPolicyId (config : RoutingProfileConfig) (policyGroupId : Option Text) : Bool :=
  config.policyGroups.any (fun group => some group.id == policyGroupId)

variable (platform : RoutingPlatform)

/-- What the loop finds to report of a rule. -/
def issuesOf (config : RoutingProfileConfig) (rule : RoutingRule) : List RoutingGuardrailIssue :=
  let missing := rule.action.usesPolicyGroup && !containsPolicyId config rule.action.policyGroupId
  let keyword := platform.toLowerCase (rule.ruleMatch.domainKeyword.getD []).trim
  let isWideKeyword := keyword == Text.ofString "com" || keyword == Text.ofString "net" ||
    keyword == Text.ofString "org"
  let wide := rule.action.directAction == some .direct && isWideKeyword
  (if missing then [missingPolicyGroup rule] else []) ++
    (if wide then [wideDirectMatch rule keyword] else [])

def evaluate (config : RoutingProfileConfig) : RoutingGuardrailReport :=
  let issues := (config.rules.filter RoutingRule.enabled).flatMap (issuesOf platform config)
  if issues.any RoutingGuardrailIssue.blocking then
    { level := .high
      applyDisposition := .blocked
      issues := issues }
  else if !issues.isEmpty then
    { level := .medium
      applyDisposition := .requiresConfirm
      issues := issues }
  else
    { level := .low
      applyDisposition := .allowed
      issues := [] }

/-! ## What is reported -/

variable {platform} {config : RoutingProfileConfig} {rule : RoutingRule}
  {issue : RoutingGuardrailIssue}

/-- **A rule misses its policy group**: it uses one, and none has its id. -/
def Misses (config : RoutingProfileConfig) (rule : RoutingRule) : Prop :=
  rule.action.usesPolicyGroup = true ∧
    ∀ group ∈ config.policyGroups, some group.id ≠ rule.action.policyGroupId

theorem issues_evaluate :
    (evaluate platform config).issues
      = (config.rules.filter RoutingRule.enabled).flatMap (issuesOf platform config) := by
  unfold evaluate
  dsimp only
  split
  · rfl
  · split
    · rfl
    · rename_i hempty
      exact (by simpa using hempty : _ = []).symm

/-- The codes tell the issues apart. -/
theorem missingPolicyGroupCode_ne : wideDirectMatchCode ≠ missingPolicyGroupCode := by
  decide +kernel

/-- An issue of a rule says by its code whether it blocks. -/
theorem blocking_iff_of_mem_issuesOf (h : issue ∈ issuesOf platform config rule) :
    issue.blocking = true ↔ issue.code = missingPolicyGroupCode := by
  unfold issuesOf at h
  rcases List.mem_append.mp h with h | h
  · obtain ⟨-, h⟩ := List.mem_ite_nil_right.mp h
    obtain rfl := List.mem_singleton.mp h
    exact iff_of_true rfl rfl
  · obtain ⟨-, h⟩ := List.mem_ite_nil_right.mp h
    obtain rfl := List.mem_singleton.mp h
    exact iff_of_false Bool.false_ne_true missingPolicyGroupCode_ne

/-- **What blocks a configuration**: an issue of a rule with the code of a missing policy
group is that of a rule that misses one. -/
theorem mem_issuesOf_missing_iff :
    issue ∈ issuesOf platform config rule ∧ issue.code = missingPolicyGroupCode ↔
      issue = missingPolicyGroup rule ∧ Misses config rule := by
  have hmisses : (rule.action.usesPolicyGroup &&
      !containsPolicyId config rule.action.policyGroupId) = true ↔ Misses config rule := by
    simp [containsPolicyId, Misses]
  unfold issuesOf
  simp only [List.mem_append, List.mem_ite_nil_right, List.mem_singleton, hmisses]
  constructor
  · rintro ⟨⟨h, rfl⟩ | ⟨-, rfl⟩, hcode⟩
    · exact ⟨rfl, h⟩
    · exact absurd hcode missingPolicyGroupCode_ne
  · rintro ⟨rfl, h⟩
    exact ⟨.inl ⟨h, rfl⟩, rfl⟩

theorem Misses.mem_issuesOf (h : Misses config rule) :
    missingPolicyGroup rule ∈ issuesOf platform config rule :=
  (mem_issuesOf_missing_iff.mpr ⟨rfl, h⟩).1

/-- **The guardrail blocks exactly** if an enabled rule misses its policy group. -/
theorem blocked_iff :
    (evaluate platform config).applyDisposition = .blocked ↔
      ∃ rule ∈ config.rules, rule.enabled = true ∧ Misses config rule := by
  have hany : (evaluate platform config).applyDisposition = .blocked ↔
      ((config.rules.filter RoutingRule.enabled).flatMap (issuesOf platform config)).any
        RoutingGuardrailIssue.blocking = true := by
    unfold evaluate
    dsimp only
    split
    · rename_i hblocking
      exact iff_of_true rfl hblocking
    · rename_i hblocking
      split
      · exact iff_of_false (fun h => by cases h) hblocking
      · exact iff_of_false (fun h => by cases h) hblocking
  rw [hany, List.any_eq_true]
  constructor
  · rintro ⟨issue, hissue, hblocking⟩
    obtain ⟨rule, hrule, hmem⟩ := List.mem_flatMap.mp hissue
    obtain ⟨hrules, henabled⟩ := List.mem_filter.mp hrule
    have hcode := (blocking_iff_of_mem_issuesOf hmem).mp hblocking
    exact ⟨rule, hrules, henabled, (mem_issuesOf_missing_iff.mp ⟨hmem, hcode⟩).2⟩
  · rintro ⟨rule, hrules, henabled, hmisses⟩
    exact ⟨missingPolicyGroup rule, List.mem_flatMap.mpr
      ⟨rule, List.mem_filter.mpr ⟨hrules, henabled⟩, hmisses.mem_issuesOf⟩, rfl⟩

end RoutingGuardrailService

/-! ## What the engine does -/

namespace RoutingDecisionEngine

/-- **The engine falls back**: it decides for a policy group that is not there. -/
def FallsBack (platform : RoutingPlatform) (config : RoutingProfileConfig)
    (request : RoutingRequestMetadata) : Prop :=
  ∃ id, (resolve platform config request).policyGroupId = some id
    ∧ ∀ group ∈ config.policyGroups, group.id ≠ id

variable {platform : RoutingPlatform} {config : RoutingProfileConfig}
  {request : RoutingRequestMetadata} {rule : RoutingRule}

/-- The policy group of a decision: the one that is found, or the id it was looked for by. -/
theorem decisionOf_policyGroupId (rule : RoutingRule) (explain : Text) :
    (decisionOf config rule explain).policyGroupId =
      if rule.action.usesPolicyGroup then some rule.action.targetGroupId else none := by
  unfold decisionOf
  dsimp only
  split
  · cases hfind : findPolicyGroup config rule.action.targetGroupId with
    | none => rfl
    | some group =>
      unfold findPolicyGroup at hfind
      have hid := List.find?_some hfind
      exact congrArg some (eq_of_beq hid)
  · rfl

/-- A rule that uses a policy group names it. -/
theorem exists_of_usesPolicyGroup {action : RoutingRuleAction}
    (h : action.usesPolicyGroup = true) : ∃ id, action.policyGroupId = some id := by
  unfold RoutingRuleAction.usesPolicyGroup at h
  cases hid : action.policyGroupId with
  | none => simp [hid, Text.isNotBlank] at h
  | some id => exact ⟨id, rfl⟩

/-- **A rule that matches first makes the engine fall back** exactly if it misses its
group. -/
theorem fallsBack_iff_misses (hmode : config.mode = .rule)
    (htrimmed : ∀ rule ∈ config.rules, RoutingProfileCodec.Trimmed rule)
    (h : leastMatching platform config request = some rule) :
    FallsBack platform config request ↔ RoutingGuardrailService.Misses config rule := by
  unfold FallsBack RoutingGuardrailService.Misses
  rw [resolve_of_leastMatching hmode h, decisionOf_policyGroupId]
  cases huses : rule.action.usesPolicyGroup with
  | false => simp
  | true =>
    obtain ⟨id, hid⟩ := exists_of_usesPolicyGroup huses
    have htarget : rule.action.targetGroupId = id := by
      unfold RoutingRuleAction.targetGroupId
      rw [hid]
      exact (htrimmed rule (decides_of_leastMatching h).mem).trim_policyGroupId hid
    simp [hid, htarget]

/-- No rule is asked in the other modes, and none matched: no policy group is named. -/
theorem not_fallsBack_of_policyGroupId
    (h : (resolve platform config request).policyGroupId = none) :
    ¬ FallsBack platform config request := by
  rintro ⟨id, hid, -⟩
  rw [h] at hid
  cases hid

theorem not_fallsBack_of_mode (hmode : config.mode ≠ .rule) :
    ¬ FallsBack platform config request := by
  refine not_fallsBack_of_policyGroupId ?_
  unfold resolve
  cases h : config.mode with
  | rule => exact absurd h hmode
  | global => rfl
  | direct => rfl

end RoutingDecisionEngine

namespace RoutingGuardrailService

open RoutingDecisionEngine

/-- **The guardrail and the engine agree on policy groups.** Of a configuration that the
codec has read: if it is not blocked, the engine never falls back; only missing policy
groups block it; and an issue that says so is about an enabled rule, by which the engine
falls back whenever this is the rule that matches first and rules are asked at all. -/
theorem evaluate_agrees (platform : RoutingPlatform) (json : List (String × Json))
    (config : RoutingProfileConfig)
    (h : RoutingProfileCodec.decodeFromJsonMap platform json = .ok config) :
    ((evaluate platform config).applyDisposition ≠ .blocked →
        ∀ request, ¬ FallsBack platform config request)
      ∧ ((evaluate platform config).applyDisposition = .blocked →
        ∃ issue ∈ (evaluate platform config).issues, issue.code = missingPolicyGroupCode)
      ∧ (∀ issue ∈ (evaluate platform config).issues, issue.code = missingPolicyGroupCode →
        ∃ rule ∈ config.rules, rule.enabled = true ∧ issue = missingPolicyGroup rule
          ∧ (config.mode = .rule → ∀ request,
            leastMatching platform config request = some rule →
              FallsBack platform config request))
      ∧ (config.mode ≠ .rule → ∀ request, ¬ FallsBack platform config request) := by
  have htrimmed := (RoutingProfileCodec.rules_of_decode h).1
  refine ⟨fun hallowed request hback => ?_, fun hblocked => ?_, fun issue hissue hcode => ?_,
    fun hmode request => not_fallsBack_of_mode hmode⟩
  · have hmode : config.mode = .rule := by
      by_contra hmode
      exact not_fallsBack_of_mode hmode hback
    cases hleast : leastMatching platform config request with
    | none =>
      refine not_fallsBack_of_policyGroupId ?_ hback
      rw [resolve_of_leastMatching_eq_none hmode hleast]
      rfl
    | some rule =>
      have hmisses := (fallsBack_iff_misses hmode htrimmed hleast).mp hback
      have hdecides := decides_of_leastMatching hleast
      exact hallowed (blocked_iff.mpr ⟨rule, hdecides.mem, hdecides.enabled, hmisses⟩)
  · obtain ⟨rule, hmem, henabled, hmisses⟩ := blocked_iff.mp hblocked
    refine ⟨missingPolicyGroup rule, ?_, rfl⟩
    rw [issues_evaluate]
    exact List.mem_flatMap.mpr ⟨rule, List.mem_filter.mpr ⟨hmem, henabled⟩, hmisses.mem_issuesOf⟩
  · rw [issues_evaluate] at hissue
    obtain ⟨rule, hrule, hmem⟩ := List.mem_flatMap.mp hissue
    obtain ⟨hrules, henabled⟩ := List.mem_filter.mp hrule
    obtain ⟨heq, hmisses⟩ := mem_issuesOf_missing_iff.mp ⟨hmem, hcode⟩
    refine ⟨rule, hrules, henabled, heq, fun hmode request hleast => ?_⟩
    exact (fallsBack_iff_misses hmode htrimmed hleast).mpr hmisses

/-! ### A rule for a group that is not there -/

/-- A rule that sends port 25 through a policy group. -/
def abroadRule : RoutingRule where
  id := Text.ofString "mail"
  name := Text.ofString "mail"
  enabled := true
  priority := 100
  ruleMatch := { port := some 25 }
  action := .policyGroup (some (Text.ofString "abroad"))

/-- A configuration with this rule, and no policy groups. -/
def abroadConfig (mode : RoutingMode) : RoutingProfileConfig :=
  { RoutingProfileConfig.defaults with
    mode := mode
    rules := [abroadRule] }

/-- The same as JSON. -/
def abroadJson (mode : RoutingMode) : List (String × Json) :=
  [("mode", .str mode.name),
    ("rules", .arr [.obj [("id", .str (Text.ofString "mail")),
      ("match", .obj [("port", .int 25)]),
      ("action", .obj [("kind", .str (Text.ofString "policyGroup")),
        ("policyGroupId", .str (Text.ofString " abroad "))])]])]

theorem decode_abroadJson (mode : RoutingMode) :
    RoutingProfileCodec.decodeFromJsonMap plainPlatform (abroadJson mode)
      = .ok (abroadConfig mode) := by
  cases mode <;> rfl

/-- In rule mode, the engine falls back. -/
theorem evaluate_agrees_rule : FallsBack plainPlatform (abroadConfig .rule) mailRequest := by
  have hissue : missingPolicyGroup abroadRule
      ∈ (evaluate plainPlatform (abroadConfig .rule)).issues := by decide +kernel
  obtain ⟨rule, hmem, -, -, hback⟩ := (evaluate_agrees plainPlatform (abroadJson .rule)
    (abroadConfig .rule) (decode_abroadJson .rule)).2.2.1 (missingPolicyGroup abroadRule) hissue rfl
  obtain rfl := List.mem_singleton.mp hmem
  exact hback rfl mailRequest (by decide +kernel)

/-- In direct mode it does not, but the configuration is blocked all the same, by an issue
about the rule that matches first. -/
theorem not_fallsBack_direct :
    RoutingProfileCodec.decodeFromJsonMap plainPlatform (abroadJson .direct)
        = .ok (abroadConfig .direct)
      ∧ (evaluate plainPlatform (abroadConfig .direct)).applyDisposition = .blocked
      ∧ (evaluate plainPlatform (abroadConfig .direct)).issues = [missingPolicyGroup abroadRule]
      ∧ leastMatching plainPlatform (abroadConfig .direct) mailRequest = some abroadRule
      ∧ ¬ FallsBack plainPlatform (abroadConfig .direct) mailRequest :=
  ⟨decode_abroadJson .direct, by decide +kernel, by decide +kernel, by decide +kernel,
    not_fallsBack_of_policyGroupId rfl⟩

end RoutingGuardrailService
