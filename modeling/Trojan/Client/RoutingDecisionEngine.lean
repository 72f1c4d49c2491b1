import Mathlib.Data.List.Infix
import Trojan.Util.Sorting
import Trojan.Util.Text

/-!
# Routing: rules and the decision on a request

A routing profile of the client (`client/lib/features/routing/domain`) has a list
of rules. The first enabled rule that matches a request, by priority and then by
id, decides what is done with it: directly, or through a policy group that the
profile defines. `RoutingDecisionEngine.resolve`
(`routing_decision_engine.dart`) makes the decision.

A profile has an id, a name and a time as well, which the engine does not read;
what is left of it is its configuration. The rules are sorted by a routine that
need not be stable. Of the platform, the engine uses conversion to lower case,
regular expressions and the parsing of numbers and addresses; they are parameters.
-/

inductive RoutingMode where
  | rule
  | global
  | direct
  deriving DecidableEq, Repr

inductive RoutingAction where
  | proxy
  | direct
  | block
  deriving DecidableEq, Repr

namespace RoutingMode

def name : RoutingMode → Text
  | .rule => Text.ofString "rule"
  | .global => Text.ofString "global"
  | .direct => Text.ofString "direct"

def values : List RoutingMode := [.rule, .global, .direct]

end RoutingMode

namespace RoutingAction

def name : RoutingAction → Text
  | .proxy => Text.ofString "proxy"
  | .direct => Text.ofString "direct"
  | .block => Text.ofString "block"

def values : List RoutingAction := [.proxy, .direct, .block]

end RoutingAction

structure RoutingPolicyGroup where
  id : Text
  name : Text
  action : RoutingAction
  deriving DecidableEq, Repr

structure RoutingRuleMatch where
  domainExact : Option Text := none
  domainSuffix : Option Text := none
  domainKeyword : Option Text := none
  domainRegex : Option Text := none
  ipCidr : Option Text := none
  port : Option ℤ := none
  protocol : Option Text := none
  processName : Option Text := none
  processPath : Option Text := none
  deriving DecidableEq, Repr

/-- A text that is there, and not blank. -/
def Text.isNotBlank : Option Text → Bool
  | none => false
  | some t => !t.trim.isEmpty

namespace RoutingRuleMatch

def hasAnyConstraint (m : RoutingRuleMatch) : Bool :=
  Text.isNotBlank m.domainExact || Text.isNotBlank m.domainSuffix ||
    Text.isNotBlank m.domainKeyword || Text.isNotBlank m.domainRegex ||
    Text.isNotBlank m.ipCidr || m.port.isSome || Text.isNotBlank m.protocol ||
    Text.isNotBlank m.processName || Text.isNotBlank m.processPath

end RoutingRuleMatch

/-- What a rule does. It is built with one of the two fields, the other is null;
the one that is given may be null too. -/
inductive RoutingRuleAction where
  | direct (directAction : Option RoutingAction)
  | policyGroup (policyGroupId : Option Text)
  deriving DecidableEq, Repr

namespace RoutingRuleAction

def directAction : RoutingRuleAction → Option RoutingAction
  | .direct action => action
  | .policyGroup _ => none

def policyGroupId : RoutingRuleAction → Option Text
  | .direct _ => none
  | .policyGroup id => id

def usesPolicyGroup (action : RoutingRuleAction) : Bool := Text.isNotBlank action.policyGroupId

/-- The id of the policy group of an action that uses one. -/
def targetGroupId (action : RoutingRuleAction) : Text := (action.policyGroupId.getD []).trim

end RoutingRuleAction

structure RoutingRule where
  id : Text
  name : Text
  enabled : Bool
  priority : ℤ
  ruleMatch : RoutingRuleMatch
  action : RoutingRuleAction
  deriving DecidableEq, Repr

namespace RoutingRule

/-- The comparison that rules are sorted by: the priority, then the id. -/
def precedes (a b : RoutingRule) : Bool :=
  a.priority < b.priority || (a.priority == b.priority && a.id ≤ b.id)

end RoutingRule

structure RoutingProfileConfig where
  mode : RoutingMode
  defaultAction : RoutingAction
  globalAction : RoutingAction
  policyGroups : List RoutingPolicyGroup
  rules : List RoutingRule
  deriving DecidableEq, Repr

def RoutingProfileConfig.defaults : RoutingProfileConfig where
  mode := .rule
  defaultAction := .proxy
  globalAction := .proxy
  policyGroups := []
  rules := []

structure RoutingRequestMetadata where
  host : Text
  ip : Option Text := none
  port : ℤ
  protocol : Text
  processName : Option Text := none
  processPath : Option Text := none
  deriving DecidableEq, Repr

structure RoutingDecision where
  action : RoutingAction
  explain : Text
  matchedRuleId : Option Text := none
  policyGroupId : Option Text := none
  deriving DecidableEq, Repr

/-- The kinds of addresses, of which only the internet ones come from a text. -/
inductive InternetAddressType where
  | ipv4
  | ipv6
  deriving DecidableEq, Repr

structure InternetAddress where
  type : InternetAddressType
  rawAddress : List UInt8
  deriving DecidableEq, Repr

/-- What the engine uses of the platform. -/
structure RoutingPlatform where
  sorter : Sorter
  toLowerCase : Text → Text
  toLowerCase_nil : toLowerCase [] = []
  /-- Whether a pattern has a match in a text, ignoring case; nothing if it is
  not a regular expression. -/
  hasMatch : Text → Text → Option Bool
  parseInt : Text → Option ℤ
  parseAddress : Text → Option InternetAddress

namespace RoutingPlatform

variable (platform : RoutingPlatform)

def normalizeHost (host : Text) : Text :=
  let value := platform.toLowerCase host.trim
  if Text.ofString "." <:+ value then value.dropLast else value

def normalizeSuffix (suffix : Text) : Text :=
  let value := platform.toLowerCase suffix.trim
  if Text.ofString "." <+: value then value else Text.ofString "." ++ value

def normalizeMaybe (value : Option Text) : Option Text :=
  (value.map (fun t => platform.toLowerCase t.trim)).filter (fun t => !t.isEmpty)

/-- The loop over the bytes of two addresses, with the bits still to compare. -/
def sameNetwork : List UInt8 → List UInt8 → ℤ → Bool
  | byte :: bytes, network :: networks, remaining =>
    if remaining ≤ 0 then true
    else
      let mask : UInt8 := if 8 ≤ remaining then 0xFF else 0xFF <<< (8 - remaining).toNat.toUInt8
      if byte &&& mask ≠ network &&& mask then false
      else sameNetwork bytes networks (remaining - 8)
  | _, _, _ => true

def ipInCidr (ipValue cidrValue : Text) : Bool :=
  let delimiter := cidrValue.idxOf 0x2F
  if delimiter = cidrValue.length ∨ delimiter = 0 ∨ delimiter = cidrValue.length - 1 then false
  else
    let networkValue := Text.trim (cidrValue.take delimiter)
    let prefixValue := Text.trim (cidrValue.drop (delimiter + 1))
    match platform.parseInt prefixValue, platform.parseAddress ipValue.trim,
      platform.parseAddress networkValue with
    | some prefixBits, some ip, some network =>
      if ip.type ≠ network.type then false
      else if prefixBits < 0 ∨ prefixBits > ip.rawAddress.length * 8 then false
      else sameNetwork ip.rawAddress network.rawAddress prefixBits
    | _, _, _ => false

/-- One constraint of a rule: if it is there it must hold, and is explained. -/
def constrain (label : String) (expected : Option Text) (holds : Text → Bool) :
    Option (List Text) :=
  match expected with
  | none => some []
  | some value => if holds value then some [Text.ofString (label ++ "=") ++ value] else none

/-- Whether a rule matches a request, and the explanation if it does. -/
def matchesRule (m : RoutingRuleMatch) (request : RoutingRequestMetadata) : Option Text :=
  if !m.hasAnyConstraint then none
  else do
    let normalizedHost := platform.normalizeHost request.host
    let tokens ← [
      constrain "domainExact" (platform.normalizeMaybe m.domainExact)
        (fun domainExact => normalizedHost == domainExact),
      constrain "domainSuffix" (platform.normalizeMaybe m.domainSuffix)
        (fun domainSuffixRaw =>
          let domainSuffix := platform.normalizeSuffix domainSuffixRaw
          domainSuffix <:+ normalizedHost || normalizedHost == domainSuffix.tail),
      constrain "domainKeyword" (platform.normalizeMaybe m.domainKeyword)
        (fun domainKeyword => domainKeyword <:+: normalizedHost),
      constrain "domainRegex" (platform.normalizeMaybe m.domainRegex)
        (fun domainRegex => (platform.hasMatch domainRegex request.host).getD false),
      constrain "ipCidr" (platform.normalizeMaybe m.ipCidr)
        (fun ipCidr => (platform.normalizeMaybe request.ip).any (platform.ipInCidr · ipCidr)),
      match m.port with
      | none => some []
      | some port =>
        if request.port = port then
          some [Text.ofString "port=" ++ Text.ofString (toString port)]
        else none,
      constrain "protocol" (platform.normalizeMaybe m.protocol)
        (fun expected =>
          (platform.normalizeMaybe (some request.protocol)).getD [] == expected),
      constrain "processName" (platform.normalizeMaybe m.processName)
        (fun expected => platform.normalizeMaybe request.processName == some expected),
      constrain "processPath" (platform.normalizeMaybe m.processPath)
        (fun expected => platform.normalizeMaybe request.processPath == some expected)
      ].mapM id
    some ([0x20].intercalate tokens.flatten)

end RoutingPlatform

namespace RoutingDecisionEngine

variable (platform : RoutingPlatform)

def findPolicyGroup (profile : RoutingProfileConfig) (policyGroupId : Text) :
    Option RoutingPolicyGroup :=
  profile.policyGroups.find? (fun policyGroup => policyGroup.id == policyGroupId)

/-- The decision of a rule that matches. -/
def decisionOf (profile : RoutingProfileConfig) (rule : RoutingRule) (explain : Text) :
    RoutingDecision :=
  let matched := Text.ofString "mode=rule matchedRule=" ++ rule.id ++ [0x20] ++ explain
  if rule.action.usesPolicyGroup then
    let policyGroupId := rule.action.targetGroupId
    match findPolicyGroup profile policyGroupId with
    | some policyGroup =>
      { action := policyGroup.action
        matchedRuleId := rule.id
        policyGroupId := policyGroup.id
        explain := matched ++ Text.ofString " -> policyGroup=" ++ policyGroup.id ++
          Text.ofString " action=" ++ policyGroup.action.name }
    | none =>
      { action := profile.defaultAction
        matchedRuleId := rule.id
        policyGroupId := policyGroupId
        explain := matched ++ Text.ofString " -> missingPolicyGroup=" ++ policyGroupId ++
          Text.ofString " fallback=defaultAction:" ++ profile.defaultAction.name }
  else
    let directAction := rule.action.directAction.getD profile.defaultAction
    { action := directAction
      matchedRuleId := rule.id
      explain := matched ++ Text.ofString " -> action=" ++ directAction.name }

/-- The decision on a request that no rule matches. -/
def noRuleMatched (profile : RoutingProfileConfig) : RoutingDecision where
  action := profile.defaultAction
  explain := Text.ofString "mode=rule no_rule_matched -> defaultAction=" ++
    profile.defaultAction.name

/-- The loop over the rules: the first that matches decides. -/
def resolveRules (profile : RoutingProfileConfig) (request : RoutingRequestMetadata) :
    List RoutingRule → RoutingDecision
  | [] => noRuleMatched profile
  | rule :: rules =>
    match platform.matchesRule rule.ruleMatch request with
    | none => resolveRules profile request rules
    | some explain => decisionOf profile rule explain

def resolve (profile : RoutingProfileConfig) (request : RoutingRequestMetadata) :
    RoutingDecision :=
  match profile.mode with
  | .direct =>
    { action := .direct
      explain := Text.ofString "mode=direct -> action=direct" }
  | .global =>
    { action := profile.globalAction
      explain := Text.ofString "mode=global -> action=" ++ profile.globalAction.name }
  | .rule =>
    resolveRules platform profile request
      (platform.sorter.sort RoutingRule.precedes (profile.rules.filter RoutingRule.enabled))

end RoutingDecisionEngine

/-! ## The order of the rules -/

namespace RoutingRule

theorem precedes_iff {a b : RoutingRule} :
    a.precedes b = true ↔ a.priority < b.priority ∨ (a.priority = b.priority ∧ a.id ≤ b.id) := by
  simp [precedes]

/-- Rules are compared by a total preorder. -/
theorem isPreorderedBy_precedes : IsPreorderedBy precedes where
  total a b := by
    rw [precedes_iff, precedes_iff]
    rcases lt_trichotomy a.priority b.priority with h | h | h
    · exact .inl (.inl h)
    · exact (List.le_total a.id b.id).imp (fun hid => .inr ⟨h, hid⟩)
        (fun hid => .inr ⟨h.symm, hid⟩)
    · exact .inr (.inl h)
  trans a b c := by
    rw [precedes_iff, precedes_iff, precedes_iff]
    rintro (hab | ⟨hab, hid⟩) (hbc | ⟨hbc, hid'⟩)
    · exact .inl (hab.trans hbc)
    · exact .inl (hbc ▸ hab)
    · exact .inl (hab ▸ hbc)
    · exact .inr ⟨hab.trans hbc, List.le_trans hid hid'⟩

/-- The rules of a list are told apart by their priorities and ids. -/
def Told (rules : List RoutingRule) : Prop :=
  ∀ a ∈ rules, ∀ b ∈ rules, a.priority = b.priority → a.id = b.id → a = b

/-- Rules that are told apart by priority and id are told apart by the
comparison. -/
theorem Told.distinguishes {rules : List RoutingRule} (h : Told rules) :
    Distinguishes precedes rules := by
  intro a ha b hb hab hba
  rw [precedes_iff] at hab hba
  have hpriority : a.priority = b.priority := by omega
  refine h a ha b hb hpriority ?_
  have hle : a.id ≤ b.id := hab.elim (fun hlt => absurd hpriority hlt.ne) And.right
  have hge : b.id ≤ a.id := hba.elim (fun hlt => absurd hpriority.symm hlt.ne) And.right
  exact List.le_antisymm hle hge

end RoutingRule

namespace RoutingDecisionEngine

variable (platform : RoutingPlatform)

/-- What is done with a request that a rule matches. -/
def ruleAction (profile : RoutingProfileConfig) (action : RoutingRuleAction) : RoutingAction :=
  if action.usesPolicyGroup then
    ((findPolicyGroup profile action.targetGroupId).map RoutingPolicyGroup.action).getD
      profile.defaultAction
  else action.directAction.getD profile.defaultAction

@[simp] theorem decisionOf_action (profile : RoutingProfileConfig) (rule : RoutingRule)
    (explain : Text) :
    (decisionOf profile rule explain).action = ruleAction profile rule.action := by
  unfold decisionOf ruleAction
  dsimp only
  split
  · cases findPolicyGroup profile rule.action.targetGroupId <;> rfl
  · rfl

@[simp] theorem decisionOf_matchedRuleId (profile : RoutingProfileConfig) (rule : RoutingRule)
    (explain : Text) : (decisionOf profile rule explain).matchedRuleId = some rule.id := by
  unfold decisionOf
  dsimp only
  split
  · cases findPolicyGroup profile rule.action.targetGroupId <;> rfl
  · rfl

/-- The loop over the rules stops at the first one that matches. -/
theorem resolveRules_eq_find? (profile : RoutingProfileConfig)
    (request : RoutingRequestMetadata) (rules : List RoutingRule) :
    resolveRules platform profile request rules =
      match rules.find? (fun rule => (platform.matchesRule rule.ruleMatch request).isSome) with
      | some rule =>
        decisionOf profile rule ((platform.matchesRule rule.ruleMatch request).getD [])
      | none => noRuleMatched profile := by
  induction rules with
  | nil => rfl
  | cons rule rules ih =>
    rw [resolveRules, List.find?_cons]
    cases hmatch : platform.matchesRule rule.ruleMatch request with
    | none => simpa using ih
    | some explain => simp [hmatch]

end RoutingDecisionEngine
