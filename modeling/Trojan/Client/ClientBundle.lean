import Mathlib.Data.Nat.Digits.Defs
import Mathlib.Tactic.IntervalCases
import Trojan.Client.ProfileSerialization

/-!
# Bundles that a server generates for its clients

`generate-client-bundle.py` turns three lists of rules – what to reject, what to
reach directly, what to proxy – into a profile that clients import. The lists are
meant to take precedence in that order, and each rule is given a priority from a
range of its list: from 101 on for what is rejected, from 201 for what is direct,
from 301 for what is proxied. The client knows only the priorities.

The ranges have room for a hundred rules. In a longer list the later rules have
priorities of the next range, and lose against its first ones
(`ClientBundle.rejected_goes_direct`). `ClientBundle.decides_iff` says exactly for
which requests the lists mean on the client what they were meant to mean.
-/

/-- The types of rules; any other text is not supported. -/
inductive RuleType where
  | domain
  | domainSuffix
  | domainKeyword
  | ipCidr
  | unsupported (name : Text)
  deriving DecidableEq, Repr

structure ParsedRule where
  ruleType : RuleType
  value : Text
  deriving DecidableEq, Repr

inductive ValueError where
  | emptyRuleSet
  | unsupportedRuleType (name : Text)
  deriving DecidableEq, Repr

namespace ValueError

def message : ValueError → Text
  | .emptyRuleSet => Text.ofString "effective rule set is empty"
  | .unsupportedRuleType name => Text.ofString "unsupported rule type: " ++ name

end ValueError

namespace ClientBundle

/-- The name of a type in lower case. -/
def loweredType (toLower : Text → Text) : RuleType → Text
  | .domain => Text.ofString "domain"
  | .domainSuffix => Text.ofString "domain-suffix"
  | .domainKeyword => Text.ofString "domain-keyword"
  | .ipCidr => Text.ofString "ip-cidr"
  | .unsupported name => toLower name

def matchPayload (rule : ParsedRule) : Except ValueError (List (String × Json)) :=
  match rule.ruleType with
  | .domain => .ok [("domainExact", .str rule.value)]
  | .domainSuffix => .ok [("domainSuffix", .str (Text.ofString "." ++ rule.value))]
  | .domainKeyword => .ok [("domainKeyword", .str rule.value)]
  | .ipCidr => .ok [("ipCidr", .str rule.value)]
  | .unsupported name => .error (.unsupportedRuleType name)

def ruleName (toLower : Text → Text) (kind : String) (rule : ParsedRule) : Text :=
  Text.ofString kind ++ [0x20] ++ loweredType toLower rule.ruleType ++ [0x20] ++ rule.value

/-- The decimal digits of a number, four at least. -/
def fourDigits (index : ℕ) : Text :=
  let digits := (Nat.digits 10 index).reverse.map (fun digit => (0x30 + digit).toUInt16)
  List.replicate (4 - digits.length) 0x30 ++ digits

/-- A rule of the bundle, before it is written. -/
structure BundleRule where
  id : Text
  name : Text
  priority : ℤ
  matchPayload : List (String × Json)
  policyGroupId : Text

namespace BundleRule

def toJson (rule : BundleRule) : List (String × Json) :=
  [("id", .str rule.id),
    ("name", .str rule.name),
    ("enabled", .bool true),
    ("priority", .int rule.priority),
    ("match", .obj rule.matchPayload),
    ("action", .obj [("kind", .str (Text.ofString "policyGroup")),
      ("policyGroupId", .str rule.policyGroupId)])]

/-- The key that rules are sorted by. -/
def precedes (a b : BundleRule) : Bool :=
  a.priority < b.priority || (a.priority == b.priority && a.id ≤ b.id)

end BundleRule

/-- The body of the loop over the rules of a list. -/
def buildRoutingRule (toLower : Text → Text) (category : String) (basePriority : ℤ)
    (policyGroupId : String) (rule : ParsedRule) (index : ℕ) : Except ValueError BundleRule := do
  let payload ← matchPayload rule
  return {
    id := Text.ofString "rule-" ++ Text.ofString category ++ Text.ofString "-" ++ fourDigits index
    name := ruleName toLower category rule
    priority := basePriority + index
    matchPayload := payload
    policyGroupId := Text.ofString policyGroupId }

def buildRoutingRules (toLower : Text → Text) (category : String) (rules : List ParsedRule)
    (basePriority : ℤ) (policyGroupId : String) : Except ValueError (List BundleRule) :=
  (rules.zipIdx 1).mapM (fun (rule, index) =>
    buildRoutingRule toLower category basePriority policyGroupId rule index)

/-- What a bundle is built with besides the rules. -/
structure BundleOptions where
  sourceMeta : List (String × Json) := []
  serverHost : Text := Text.ofString "example.com"
  serverPort : ℤ := 443
  sni : Text := Text.ofString "example.com"
  profileName : Text := Text.ofString "Generated Clash Rules Bundle"
  /-- The time, as text. -/
  generatedAt : Text

def policyGroup (id name : String) (action : RoutingAction) : Json :=
  .obj [("id", .str (Text.ofString id)), ("name", .str (Text.ofString name)),
    ("action", .str action.name)]

/-- The routing section of a bundle. -/
def routingSection (rules : List BundleRule) : Json :=
  .obj [("mode", .str RoutingMode.rule.name),
    ("defaultAction", .str RoutingAction.proxy.name),
    ("globalAction", .str RoutingAction.proxy.name),
    ("policyGroups", .arr [
      policyGroup "direct-group" "Direct" .direct,
      policyGroup "proxy-group" "Proxy" .proxy,
      policyGroup "reject-group" "Reject" .block]),
    ("rules", .arr (rules.map (fun rule => .obj rule.toJson)))]

def buildBundle (toLower : Text → Text) (options : BundleOptions)
    (directRules proxyRules rejectRules : List ParsedRule) : Except ValueError Json := do
  if directRules.isEmpty && proxyRules.isEmpty && rejectRules.isEmpty then
    throw .emptyRuleSet
  let reject ← buildRoutingRules toLower "reject" rejectRules 100 "reject-group"
  let direct ← buildRoutingRules toLower "direct" directRules 200 "direct-group"
  let proxy ← buildRoutingRules toLower "proxy" proxyRules 300 "proxy-group"
  let routingRules := Sorter.insertion.sort BundleRule.precedes (reject ++ direct ++ proxy)
  return .obj [("version", .int 2),
    ("kind", .str (Text.ofString "trojan-pro-client-profile")),
    ("metadata", .obj [
      ("generatedAt", .str options.generatedAt),
      ("source", .str (Text.ofString "clash-rules")),
      ("lock", .obj options.sourceMeta)]),
    ("profile", .obj [
      ("id", .str (Text.ofString "generated-clash-rules-profile")),
      ("name", .str options.profileName),
      ("serverHost", .str options.serverHost),
      ("serverPort", .int options.serverPort),
      ("sni", .str options.sni),
      ("localSocksPort", .int 1080),
      ("verifyTls", .bool true),
      ("notes", .str (Text.ofString ("Generated from clash-rules snapshots; " ++
        "replace server fields before production use."))),
      ("updatedAt", .str options.generatedAt),
      ("routing", routingSection routingRules)]),
    ("secrets", .obj [
      ("trojanPasswordIncluded", .bool false),
      ("sourceDeviceHadStoredPassword", .bool false),
      ("importBehavior", .str (Text.ofString "reenter_or_restore_secure_storage"))])]

/-- The routing section of a bundle, as the client finds it. -/
def routingOf (bundle : Json) : Json :=
  Json.field (Json.field bundle.fieldsOrEmpty "profile").fieldsOrEmpty "routing"

/-! ## The rules as the client reads them -/

/-- The lists of rules. -/
inductive Category where
  | reject
  | direct
  | proxy
  deriving DecidableEq, Repr

namespace Category

def label : Category → String
  | .reject => "reject"
  | .direct => "direct"
  | .proxy => "proxy"

def basePriority : Category → ℤ
  | .reject => 100
  | .direct => 200
  | .proxy => 300

def policyGroupId : Category → String
  | .reject => "reject-group"
  | .direct => "direct-group"
  | .proxy => "proxy-group"

/-- What the client does with what a rule of the list matches. -/
def action : Category → RoutingAction
  | .reject => .block
  | .direct => .direct
  | .proxy => .proxy

/-- The letter that tells the ids of the lists apart. -/
def initial : Category → UInt16
  | .reject => 0x72
  | .direct => 0x64
  | .proxy => 0x70

end Category

/-- A rule of one of the lists, with its place in it. -/
structure Entry where
  category : Category
  index : ℕ
  rule : ParsedRule
  deriving DecidableEq, Repr

/-- The entries of a list. -/
def entries (category : Category) (rules : List ParsedRule) : List Entry :=
  (rules.zipIdx 1).map (fun (rule, index) => ⟨category, index, rule⟩)

namespace Entry

def id (e : Entry) : Text :=
  Text.ofString "rule-" ++ Text.ofString e.category.label ++ Text.ofString "-" ++
    fourDigits e.index

def priority (e : Entry) : ℤ := e.category.basePriority + e.index

end Entry

/-- What a rule asks of a request, as the client reads it. -/
def clientMatch (rule : ParsedRule) : RoutingRuleMatch :=
  match rule.ruleType with
  | .domain => { domainExact := some rule.value.trim }
  | .domainSuffix => { domainSuffix := some (Text.trim (Text.ofString "." ++ rule.value)) }
  | .domainKeyword => { domainKeyword := some rule.value.trim }
  | .ipCidr => { ipCidr := some rule.value.trim }
  | .unsupported _ => {}

/-- A rule of the bundle as the client reads it. -/
def clientRule (b : BundleRule) : RoutingRule where
  id := b.id
  name := RoutingProfileCodec.nameOrId (some b.name) b.id
  enabled := true
  priority := b.priority
  ruleMatch :=
    match RoutingProfileCodec.decodeRuleMatch b.matchPayload with
    | .ok ruleMatch => ruleMatch
    | .error _ => {}
  action := .policyGroup (some b.policyGroupId)

theorem isWhitespace_digit {digit : ℕ} (h : digit < 10) :
    Text.isWhitespace (0x30 + digit).toUInt16 = false := by
  interval_cases digit <;> decide

/-- The id of a rule has no white space in it. -/
theorem trim_id (e : Entry) : e.id.trim = e.id := by
  refine Text.trim_of_forall (fun unit hunit => ?_)
  rcases List.mem_append.mp hunit with hlabel | hdigits
  · have hall : ∀ category : Category, (Text.ofString "rule-" ++
        Text.ofString category.label ++ Text.ofString "-").all
          (fun unit => !Text.isWhitespace unit) = true := by
      intro category
      cases category <;> decide +kernel
    simpa using List.all_eq_true.mp (hall e.category) unit hlabel
  · rcases List.mem_append.mp hdigits with hzero | hdigit
    · rw [List.eq_of_mem_replicate hzero]
      decide
    · obtain ⟨digit, hmem, rfl⟩ := List.mem_map.mp hdigit
      exact isWhitespace_digit (Nat.digits_lt_base (by decide) (List.mem_reverse.mp hmem))

theorem Category.label_eq (category : Category) :
    Text.ofString "rule-" ++ Text.ofString category.label ++ Text.ofString "-"
      = [0x72, 0x75, 0x6C, 0x65, 0x2D, category.initial] ++
        ((Text.ofString category.label).tail ++ [0x2D]) := by
  cases category <;> decide +kernel

theorem Category.initial_injective : Function.Injective Category.initial := by
  intro a b
  cases a <;> cases b <;> decide

/-- The ids of two lists are in the order of the letters of the lists. -/
theorem id_le_iff_of_ne {e e' : Entry} (h : e.category ≠ e'.category) :
    e.id ≤ e'.id ↔ e.category.initial < e'.category.initial := by
  have hinitial : e.category.initial ≠ e'.category.initial :=
    fun heq => h (Category.initial_injective heq)
  unfold Entry.id
  rw [e.category.label_eq, e'.category.label_eq]
  simp [List.cons_le_cons_iff, hinitial]

theorem id_eq_of_category {e e' : Entry} (h : e.id = e'.id) : e.category = e'.category := by
  by_contra hne
  have hle := (id_le_iff_of_ne hne).mp (h ▸ List.le_refl _)
  have hge := (id_le_iff_of_ne (Ne.symm hne)).mp (h ▸ List.le_refl _)
  exact absurd hle (UInt16.lt_asymm hge)

/-- A rule whose type is supported. -/
def Supported (rule : ParsedRule) : Prop := ∃ payload, matchPayload rule = .ok payload

/-- The rule of the bundle for an entry. -/
def bundleRule (toLower : Text → Text) (e : Entry) : BundleRule where
  id := e.id
  name := ruleName toLower e.category.label e.rule
  priority := e.priority
  matchPayload :=
    match matchPayload e.rule with
    | .ok payload => payload
    | .error _ => []
  policyGroupId := Text.ofString e.category.policyGroupId

/-- The entries of a bundle: those of its lists. -/
def allEntries (directRules proxyRules rejectRules : List ParsedRule) : List Entry :=
  entries .reject rejectRules ++ entries .direct directRules ++ entries .proxy proxyRules

section Building

variable {toLower : Text → Text}

theorem buildRoutingRule_eq_ok {e : Entry} {built : BundleRule}
    (h : buildRoutingRule toLower e.category.label e.category.basePriority
      e.category.policyGroupId e.rule e.index = .ok built) :
    Supported e.rule ∧ built = bundleRule toLower e := by
  unfold buildRoutingRule at h
  cases hpayload : matchPayload e.rule with
  | error error =>
    rw [hpayload] at h
    exact nomatch h
  | ok payload =>
    rw [hpayload] at h
    obtain rfl := Except.ok.inj h
    exact ⟨⟨payload, hpayload⟩, by simp [bundleRule, hpayload, Entry.id, Entry.priority]⟩

/-- Building the rules of a list succeeds only if all are supported, and numbers
them. -/
theorem buildRoutingRules_eq_ok (category : Category) {rules : List ParsedRule}
    {built : List BundleRule}
    (h : buildRoutingRules toLower category.label rules category.basePriority
      category.policyGroupId = .ok built) :
    (∀ e ∈ entries category rules, Supported e.rule) ∧
      built = (entries category rules).map (bundleRule toLower) := by
  have hall := Json.mapM_eq_ok_iff.mp h
  unfold entries
  clear h
  generalize rules.zipIdx 1 = numbered at hall
  induction hall with
  | nil => exact ⟨List.forall_mem_nil _, rfl⟩
  | @cons numbered b rest built hhead _ ih =>
    obtain ⟨hsupported, rfl⟩ := buildRoutingRule_eq_ok
      (e := ⟨category, numbered.2, numbered.1⟩) hhead
    rw [List.map_cons, List.map_cons, List.forall_mem_cons, ← ih.2]
    exact ⟨⟨hsupported, ih.1⟩, rfl⟩

/-- **The bundle that is built**: its routing section has the rules of all the
lists, all of them supported. -/
theorem routingOf_buildBundle {options : BundleOptions}
    {directRules proxyRules rejectRules : List ParsedRule} {bundle : Json}
    (h : buildBundle toLower options directRules proxyRules rejectRules = .ok bundle) :
    (∀ e ∈ allEntries directRules proxyRules rejectRules, Supported e.rule) ∧
      routingOf bundle = routingSection (Sorter.insertion.sort BundleRule.precedes
        ((allEntries directRules proxyRules rejectRules).map (bundleRule toLower))) := by
  unfold buildBundle at h
  simp only [bind, Except.bind, pure, Except.pure] at h
  split at h
  · exact nomatch h
  · split at h
    · exact nomatch h
    · rename_i hreject
      split at h
      · exact nomatch h
      · rename_i hdirect
        split at h
        · exact nomatch h
        · rename_i hproxy
          obtain ⟨hr, rfl⟩ := buildRoutingRules_eq_ok .reject hreject
          obtain ⟨hd, rfl⟩ := buildRoutingRules_eq_ok .direct hdirect
          obtain ⟨hp, rfl⟩ := buildRoutingRules_eq_ok .proxy hproxy
          obtain rfl := Except.ok.inj h
          refine ⟨?_, ?_⟩
          · unfold allEntries
            rw [List.forall_mem_append, List.forall_mem_append]
            exact ⟨⟨hr, hd⟩, hp⟩
          · simp [routingOf, allEntries]

end Building

/-! ## What the client makes of the bundle -/

theorem decodeRuleMatch_matchPayload {rule : ParsedRule} {payload : List (String × Json)}
    (h : matchPayload rule = .ok payload) :
    RoutingProfileCodec.decodeRuleMatch payload = .ok (clientMatch rule) := by
  obtain ⟨ruleType, value⟩ := rule
  cases ruleType with
  | unsupported name => exact nomatch h
  | _ =>
    obtain rfl := Except.ok.inj h
    simp [RoutingProfileCodec.decodeRuleMatch, clientMatch, bind, Except.bind, pure, Except.pure]

theorem ruleMatch_clientRule {toLower : Text → Text} {e : Entry} (h : Supported e.rule) :
    (clientRule (bundleRule toLower e)).ruleMatch = clientMatch e.rule := by
  obtain ⟨payload, hpayload⟩ := h
  simp only [clientRule, bundleRule, hpayload, decodeRuleMatch_matchPayload hpayload]

theorem decodeRule_bundleRule (toLower : Text → Text) (defaultAction : RoutingAction) {e : Entry}
    (h : Supported e.rule) :
    RoutingProfileCodec.decodeRule defaultAction (bundleRule toLower e).toJson
      = .ok (some (clientRule (bundleRule toLower e))) := by
  have hkind : (Text.ofString "policyGroup").trim = Text.ofString "policyGroup" := by
    decide +kernel
  have hgroup : (Text.ofString e.category.policyGroupId).trim
      = Text.ofString e.category.policyGroupId := by
    cases e.category <;> decide +kernel
  have hid : e.id ≠ [] := by
    unfold Entry.id
    rw [e.category.label_eq]
    simp
  obtain ⟨payload, hpayload⟩ := h
  simp [RoutingProfileCodec.decodeRule, RoutingProfileCodec.decodeRuleAction, BundleRule.toJson,
    bundleRule, clientRule, bind, Except.bind, pure, Except.pure, trim_id, hid, hkind, hgroup,
    hpayload, decodeRuleMatch_matchPayload hpayload]

variable (platform : RoutingPlatform) (toLower : Text → Text)

/-- The policy groups that the client reads. -/
def clientGroups : List RoutingPolicyGroup :=
  [⟨Text.ofString "direct-group", Text.ofString "Direct", .direct⟩,
    ⟨Text.ofString "proxy-group", Text.ofString "Proxy", .proxy⟩,
    ⟨Text.ofString "reject-group", Text.ofString "Reject", .block⟩]

/-- The configuration that the client reads. -/
def clientConfig (rules : List BundleRule) : RoutingProfileConfig where
  mode := .rule
  defaultAction := .proxy
  globalAction := .proxy
  policyGroups := clientGroups
  rules := platform.sorter.sort RoutingRule.precedes (rules.map clientRule)

theorem decode_policyGroups :
    RoutingProfileCodec.decodeList (.arr [
      policyGroup "direct-group" "Direct" .direct,
      policyGroup "proxy-group" "Proxy" .proxy,
      policyGroup "reject-group" "Reject" .block]) RoutingProfileCodec.decodePolicyGroup
      = .ok clientGroups := by
  rfl

/-- The client reads the routing section. -/
theorem decode_routingSection {rules : List BundleRule}
    (h : ∀ b ∈ rules, ∃ e : Entry, Supported e.rule ∧ b = bundleRule toLower e) :
    RoutingProfileCodec.decodeFromObject platform (routingSection rules)
      = .ok (clientConfig platform rules) := by
  have hrules := RoutingProfileCodec.decodeList_map (l := rules) (fun b hb => by
    obtain ⟨e, hsupported, rfl⟩ := h b hb
    exact decodeRule_bundleRule toLower .proxy hsupported)
  simp only [RoutingProfileCodec.decodeFromObject, RoutingProfileCodec.decodeFromJsonMap,
    routingSection, bind, Except.bind, pure, Except.pure, Json.fields?_obj, Json.field_cons,
    String.reduceEq, if_false, if_true, Json.asString_str, RoutingProfileCodec.safeEnum_mode,
    RoutingProfileCodec.safeEnum_action, decode_policyGroups, hrules]
  rfl

/-- The policy group of a list does what the list is for. -/
theorem ruleAction_clientConfig (rules : List BundleRule) (e : Entry) :
    RoutingDecisionEngine.ruleAction (clientConfig platform rules)
      (clientRule (bundleRule toLower e)).action = e.category.action := by
  have hgroup (category : Category) :
      (RoutingRuleAction.policyGroup (some (Text.ofString category.policyGroupId))).usesPolicyGroup
        = true ∧
      (clientGroups.find? (fun group => group.id ==
        (RoutingRuleAction.policyGroup
          (some (Text.ofString category.policyGroupId))).targetGroupId)).map
        RoutingPolicyGroup.action = some category.action := by
    cases category <;> decide +kernel
  obtain ⟨huses, hfind⟩ := hgroup e.category
  refine (if_pos huses).trans ?_
  exact congrArg (fun action => Option.getD action _) hfind

/-! ## The rule that decides -/

/-- The list of a category. -/
def listOf (directRules proxyRules rejectRules : List ParsedRule) : Category → List ParsedRule
  | .reject => rejectRules
  | .direct => directRules
  | .proxy => proxyRules

/-- Whether a rule matches a request, for the client. -/
def Matches (request : RoutingRequestMetadata) (rule : ParsedRule) : Bool :=
  (platform.matchesRule (clientMatch rule) request).isSome

theorem mem_entries {category : Category} {rules : List ParsedRule} {e : Entry} :
    e ∈ entries category rules ↔
      e.category = category ∧ 1 ≤ e.index ∧ rules[e.index - 1]? = some e.rule := by
  obtain ⟨category', index, rule⟩ := e
  simp only [entries, List.mem_map, Prod.exists, Entry.mk.injEq]
  constructor
  · rintro ⟨rule', index', hmem, rfl, rfl, rfl⟩
    exact ⟨rfl, List.mk_mem_zipIdx_iff_le_and_getElem?_sub.mp hmem⟩
  · rintro ⟨rfl, hget⟩
    exact ⟨rule, index, List.mk_mem_zipIdx_iff_le_and_getElem?_sub.mpr hget, rfl, rfl, rfl⟩

section Deciding

variable {directRules proxyRules rejectRules : List ParsedRule}

theorem mem_allEntries {e : Entry} :
    e ∈ allEntries directRules proxyRules rejectRules ↔
      1 ≤ e.index ∧
        (listOf directRules proxyRules rejectRules e.category)[e.index - 1]? = some e.rule := by
  simp only [allEntries, List.mem_append, mem_entries]
  obtain ⟨category, index, rule⟩ := e
  cases category <;> simp [listOf]

/-- An entry is given by its list and its place in it. -/
theorem entry_eq {e e' : Entry} (he : e ∈ allEntries directRules proxyRules rejectRules)
    (he' : e' ∈ allEntries directRules proxyRules rejectRules)
    (hcategory : e.category = e'.category) (hindex : e.index = e'.index) : e = e' := by
  obtain ⟨category, index, rule⟩ := e
  obtain ⟨category', index', rule'⟩ := e'
  obtain rfl : category = category' := hcategory
  obtain rfl : index = index' := hindex
  have hrule := (mem_allEntries.mp he).2.symm.trans (mem_allEntries.mp he').2
  exact congrArg (Entry.mk category index) (Option.some.inj hrule)

/-- The rules of a bundle are told apart by priority and id. -/
theorem told_clientRules {rules : List BundleRule}
    (h : ∀ b ∈ rules, ∃ e ∈ allEntries directRules proxyRules rejectRules,
      b = bundleRule toLower e) : RoutingRule.Told (rules.map clientRule) := by
  refine List.forall_mem_map.mpr (fun b hb => List.forall_mem_map.mpr (fun b' hb' => ?_))
  obtain ⟨e, he, rfl⟩ := h b hb
  obtain ⟨e', he', rfl⟩ := h b' hb'
  intro hpriority hid
  have hcategory : e.category = e'.category := id_eq_of_category hid
  have hindex : e.index = e'.index := by
    have : e.category.basePriority + e.index = e'.category.basePriority + e'.index := hpriority
    rw [hcategory] at this
    omega
  rw [entry_eq he he' hcategory hindex]

/-- An entry that comes before another in the order of the client. -/
def Before (e e' : Entry) : Prop :=
  e.priority < e'.priority ∨ (e.priority = e'.priority ∧ e.id ≤ e'.id)

/-- **What the client does with a request**: it follows the first entry that
matches, and proxies the request if there is none. -/
theorem resolve_clientConfig {rules : List BundleRule}
    (hrules : rules.Perm ((allEntries directRules proxyRules rejectRules).map (bundleRule toLower)))
    (hsupported : ∀ e ∈ allEntries directRules proxyRules rejectRules, Supported e.rule)
    (request : RoutingRequestMetadata) :
    (∃ e ∈ allEntries directRules proxyRules rejectRules, Matches platform request e.rule = true ∧
      (∀ e' ∈ allEntries directRules proxyRules rejectRules,
        Matches platform request e'.rule = true → Before e e') ∧
      (RoutingDecisionEngine.resolve platform (clientConfig platform rules) request).action
        = e.category.action) ∨
    ((∀ e ∈ allEntries directRules proxyRules rejectRules,
        Matches platform request e.rule = false) ∧
      (RoutingDecisionEngine.resolve platform (clientConfig platform rules) request).action
        = .proxy) := by
  have hmem (b : BundleRule) (hb : b ∈ rules) :
      ∃ e ∈ allEntries directRules proxyRules rejectRules, b = bundleRule toLower e := by
    obtain ⟨e, he, heq⟩ := List.mem_map.mp (hrules.mem_iff.mp hb)
    exact ⟨e, he, heq.symm⟩
  -- the rules that are enabled, in any order: those of the entries
  set enabled := (clientConfig platform rules).rules.filter RoutingRule.enabled with henabled
  have hin (rule : RoutingRule) : rule ∈ enabled ↔
      ∃ e ∈ allEntries directRules proxyRules rejectRules,
        clientRule (bundleRule toLower e) = rule := by
    rw [henabled, List.mem_filter, clientConfig, Sorter.mem_sort, List.mem_map]
    constructor
    · rintro ⟨⟨b, hb, rfl⟩, -⟩
      obtain ⟨e, he, rfl⟩ := hmem b hb
      exact ⟨e, he, rfl⟩
    · rintro ⟨e, he, rfl⟩
      exact ⟨⟨_, hrules.mem_iff.mpr (List.mem_map_of_mem he), rfl⟩, rfl⟩
  have htold : RoutingRule.Told enabled := by
    refine RoutingDecisionEngine.told_filter (RoutingDecisionEngine.told_of_perm
      (told_clientRules toLower hmem) (platform.sorter.perm _ _))
  have hmatch (e : Entry) (he : e ∈ allEntries directRules proxyRules rejectRules) :
      (platform.matchesRule (clientRule (bundleRule toLower e)).ruleMatch request).isSome
        = Matches platform request e.rule := by
    rw [ruleMatch_clientRule (hsupported e he)]
    rfl
  have hresolve : RoutingDecisionEngine.resolve platform (clientConfig platform rules) request
      = RoutingDecisionEngine.resolveRules platform (clientConfig platform rules) request
        (platform.sorter.sort RoutingRule.precedes enabled) := rfl
  rw [hresolve, RoutingDecisionEngine.resolveRules_eq_find?]
  cases hfind : (platform.sorter.sort RoutingRule.precedes enabled).find?
      (fun rule => (platform.matchesRule rule.ruleMatch request).isSome) with
  | none =>
    refine .inr ⟨fun e he => ?_, rfl⟩
    rw [← hmatch e he]
    have hnone := List.find?_eq_none.mp hfind _
      (platform.sorter.mem_sort.mpr ((hin _).mpr ⟨e, he, rfl⟩))
    exact Bool.eq_false_iff.mpr hnone
  | some rule =>
    obtain ⟨hrule, hrulematch, hleast⟩ :=
      (platform.sorter.find?_sort RoutingRule.isPreorderedBy_precedes htold.distinguishes).mp hfind
    obtain ⟨e, he, rfl⟩ := (hin rule).mp hrule
    refine .inl ⟨e, he, (hmatch e he).symm.trans hrulematch, fun e' he' hmatch' => ?_, ?_⟩
    · have hprecedes := hleast _ ((hin _).mpr ⟨e', he', rfl⟩) ((hmatch e' he').trans hmatch')
      exact RoutingRule.precedes_iff.mp hprecedes
    · dsimp only
      rw [RoutingDecisionEngine.decisionOf_action]
      exact ruleAction_clientConfig platform toLower rules e

/-- The place of the first rule of a list that matches, counted from zero. -/
def first (request : RoutingRequestMetadata)
    (directRules proxyRules rejectRules : List ParsedRule) (category : Category) : Option ℕ :=
  (listOf directRules proxyRules rejectRules category).findIdx? (Matches platform request)

/-- The first rule of a list that matches has an entry. -/
theorem exists_entry_of_first {request : RoutingRequestMetadata} {category : Category} {i : ℕ}
    (h : first platform request directRules proxyRules rejectRules category = some i) :
    ∃ rule, ⟨category, i + 1, rule⟩ ∈ allEntries directRules proxyRules rejectRules ∧
      Matches platform request rule = true := by
  obtain ⟨hlen, hmatch, -⟩ := List.findIdx?_eq_some_iff_getElem.mp h
  exact ⟨_, mem_allEntries.mpr ⟨by simp, by simp [hlen]⟩, hmatch⟩

/-- No entry that matches comes before the first rule of its list. -/
theorem exists_first_of_entry {request : RoutingRequestMetadata} {e : Entry}
    (he : e ∈ allEntries directRules proxyRules rejectRules)
    (hmatch : Matches platform request e.rule = true) :
    ∃ i, first platform request directRules proxyRules rejectRules e.category = some i ∧
      i + 1 ≤ e.index := by
  obtain ⟨hindex, hget⟩ := mem_allEntries.mp he
  cases hfirst : first platform request directRules proxyRules rejectRules e.category with
  | none =>
    have hnone := List.findIdx?_eq_none_iff.mp hfirst e.rule (List.mem_of_getElem? hget)
    exact absurd hmatch (by simp [hnone])
  | some i =>
    obtain ⟨_, -, hbefore⟩ := List.findIdx?_eq_some_iff_getElem.mp hfirst
    refine ⟨i, rfl, ?_⟩
    by_contra hlt
    obtain ⟨hlen, hrule⟩ := List.getElem?_eq_some_iff.mp hget
    have hno := hbefore (e.index - 1) (by omega)
    rw [hrule] at hno
    exact hno hmatch

/-- The first rule of a list that matches comes before those of the other lists. -/
def Leads (request : RoutingRequestMetadata)
    (directRules proxyRules rejectRules : List ParsedRule) (category : Category) (i : ℕ) : Prop :=
  first platform request directRules proxyRules rejectRules category = some i ∧
    ∀ other ≠ category, ∀ j : ℕ,
      first platform request directRules proxyRules rejectRules other = some j →
      category.basePriority + i < other.basePriority + j ∨
        (category.basePriority + i = other.basePriority + j ∧ category.initial < other.initial)

/-- The entry that decides is the first of its list, and comes before the first
ones of the others. -/
theorem leads_of_least {request : RoutingRequestMetadata} {e : Entry}
    (he : e ∈ allEntries directRules proxyRules rejectRules)
    (hmatch : Matches platform request e.rule = true)
    (hleast : ∀ e' ∈ allEntries directRules proxyRules rejectRules,
      Matches platform request e'.rule = true → Before e e') :
    ∃ i, Leads platform request directRules proxyRules rejectRules e.category i := by
  obtain ⟨i, hi, hindex⟩ := exists_first_of_entry platform he hmatch
  have hsame : e.index = i + 1 := by
    obtain ⟨rule, hrule, hrulematch⟩ := exists_entry_of_first platform hi
    have hle : e.priority ≤ e.category.basePriority + (i + 1 : ℕ) :=
      (hleast _ hrule hrulematch).elim le_of_lt (fun h => h.1.le)
    unfold Entry.priority at hle
    omega
  refine ⟨i, hi, fun category hne j hj => ?_⟩
  obtain ⟨rule, hrule, hrulematch⟩ := exists_entry_of_first platform hj
  have hpriority : e.priority = e.category.basePriority + (i + 1) := by
    rw [Entry.priority, hsame]
    norm_cast
  have hpriority' : Entry.priority ⟨category, j + 1, rule⟩ = category.basePriority + (j + 1) := by
    rw [Entry.priority]
    norm_cast
  rcases hleast _ hrule hrulematch with hlt | ⟨heq, hid⟩
  · rw [hpriority, hpriority'] at hlt
    exact .inl (by omega)
  · rw [hpriority, hpriority'] at heq
    exact .inr ⟨by omega, (id_le_iff_of_ne (Ne.symm hne)).mp hid⟩

/-- **What the lists are meant to say** about a request. -/
def intended (request : RoutingRequestMetadata) (directRules rejectRules : List ParsedRule) :
    RoutingAction :=
  if rejectRules.any (Matches platform request) then .block
  else if directRules.any (Matches platform request) then .direct
  else .proxy

/-- The first rules that match are in the order of their lists: what is rejected is
so by a rule less than a hundred places after the first direct one, and two
hundred after the first proxied one; what is direct, by a rule at most a hundred
places after the first proxied one. -/
def InOrder (request : RoutingRequestMetadata)
    (directRules proxyRules rejectRules : List ParsedRule) : Prop :=
  let first := first platform request directRules proxyRules rejectRules
  (∀ r ∈ first .reject, (∀ d ∈ first .direct, r < d + 100) ∧ ∀ p ∈ first .proxy, r < p + 200) ∧
  (first .reject = none → ∀ d ∈ first .direct, ∀ p ∈ first .proxy, d ≤ p + 100)

instance (request : RoutingRequestMetadata) (directRules proxyRules rejectRules : List ParsedRule) :
    Decidable (InOrder platform request directRules proxyRules rejectRules) :=
  inferInstanceAs (Decidable (_ ∧ _))

theorem intended_eq (proxyRules : List ParsedRule) (request : RoutingRequestMetadata) :
    intended platform request directRules rejectRules
      = if (first platform request directRules proxyRules rejectRules .reject).isSome then .block
        else if (first platform request directRules proxyRules rejectRules .direct).isSome then
          .direct
        else .proxy := by
  unfold intended first listOf
  rw [List.findIdx?_isSome, List.findIdx?_isSome]

section Leading

variable {platform} {request : RoutingRequestMetadata} {i : ℕ}

/-- A rule that rejects and leads is what was meant. -/
theorem inOrder_of_reject
    (h : Leads platform request directRules proxyRules rejectRules .reject i) :
    intended platform request directRules rejectRules = .block ∧
      InOrder platform request directRules proxyRules rejectRules := by
  obtain ⟨hi, hlt⟩ := h
  refine ⟨by rw [intended_eq platform proxyRules, hi]; rfl, fun r hr => ?_, fun hnone => ?_⟩
  · obtain rfl := Option.some.inj (hi.symm.trans hr)
    refine ⟨fun d hd => ?_, fun p hp => ?_⟩
    · rcases hlt .direct (by decide) d hd with hlt | ⟨-, hlt⟩
      · simp only [Category.basePriority] at hlt
        omega
      · exact absurd hlt (by decide)
    · rcases hlt .proxy (by decide) p hp with hlt | ⟨-, hlt⟩
      · simp only [Category.basePriority] at hlt
        omega
      · exact absurd hlt (by decide)
  · exact absurd (hi.symm.trans hnone) (by simp)

/-- A direct rule that leads is what was meant, unless a rule rejects. -/
theorem inOrder_iff_of_direct
    (h : Leads platform request directRules proxyRules rejectRules .direct i) :
    .direct = intended platform request directRules rejectRules ↔
      InOrder platform request directRules proxyRules rejectRules := by
  obtain ⟨hi, hlt⟩ := h
  rw [intended_eq platform proxyRules, hi]
  cases hreject : first platform request directRules proxyRules rejectRules .reject with
  | some r =>
    refine iff_of_false (by simp) (fun h => ?_)
    have hr := hlt .reject (by decide) r hreject
    have hrd := (h.1 r hreject).1 i hi
    simp only [Category.basePriority] at hr
    omega
  | none =>
    refine iff_of_true rfl ⟨fun r hr => ?_, fun _ d hd p hp => ?_⟩
    · exact absurd (hreject.symm.trans hr) (by simp)
    · obtain rfl := Option.some.inj (hi.symm.trans hd)
      have hp := hlt .proxy (by decide) p hp
      simp only [Category.basePriority] at hp
      omega

/-- A rule that proxies and leads is what was meant, unless another rule matches. -/
theorem inOrder_iff_of_proxy
    (h : Leads platform request directRules proxyRules rejectRules .proxy i) :
    .proxy = intended platform request directRules rejectRules ↔
      InOrder platform request directRules proxyRules rejectRules := by
  obtain ⟨hi, hlt⟩ := h
  rw [intended_eq platform proxyRules]
  cases hreject : first platform request directRules proxyRules rejectRules .reject with
  | some r =>
    refine iff_of_false (by simp) (fun h => ?_)
    have hr := hlt .reject (by decide) r hreject
    have hrp := (h.1 r hreject).2 i hi
    simp only [Category.basePriority] at hr
    omega
  | none =>
    cases hdirect : first platform request directRules proxyRules rejectRules .direct with
    | some d =>
      refine iff_of_false (by simp) (fun h => ?_)
      have hdp := h.2 hreject d hdirect i hi
      rcases hlt .direct (by decide) d hdirect with hlt | ⟨-, hlt⟩
      · simp only [Category.basePriority] at hlt
        omega
      · exact absurd hlt (by decide)
    | none =>
      refine iff_of_true rfl ⟨fun r hr => ?_, fun _ d hd => ?_⟩
      · exact absurd (hreject.symm.trans hr) (by simp)
      · exact absurd (hdirect.symm.trans hd) (by simp)

end Leading

/-- **When the client does what was meant**: exactly when the first rules that
match are in order. -/
theorem action_eq_intended_iff {rules : List BundleRule}
    (hrules : rules.Perm ((allEntries directRules proxyRules rejectRules).map (bundleRule toLower)))
    (hsupported : ∀ e ∈ allEntries directRules proxyRules rejectRules, Supported e.rule)
    (request : RoutingRequestMetadata) :
    (RoutingDecisionEngine.resolve platform (clientConfig platform rules) request).action
        = intended platform request directRules rejectRules ↔
      InOrder platform request directRules proxyRules rejectRules := by
  rcases resolve_clientConfig platform toLower hrules hsupported request with
    ⟨e, he, hmatch, hleast, haction⟩ | ⟨hnone, haction⟩
  · rw [haction]
    obtain ⟨i, hleads⟩ := leads_of_least platform he hmatch hleast
    cases hcategory : e.category with
    | reject =>
      rw [hcategory] at hleads
      obtain ⟨hintended, horder⟩ := inOrder_of_reject hleads
      exact iff_of_true hintended.symm horder
    | direct =>
      rw [hcategory] at hleads
      exact inOrder_iff_of_direct hleads
    | proxy =>
      rw [hcategory] at hleads
      exact inOrder_iff_of_proxy hleads
  · have hfirst (category : Category) :
        first platform request directRules proxyRules rejectRules category = none := by
      by_contra hsome
      obtain ⟨i, hi⟩ := Option.ne_none_iff_exists'.mp hsome
      obtain ⟨rule, hrule, hmatch⟩ := exists_entry_of_first platform hi
      exact absurd hmatch (by simp [hnone _ hrule])
    rw [haction, intended_eq platform proxyRules]
    simp [InOrder, hfirst]

end Deciding

/-- The client reads the bundle that was built. -/
theorem exists_decode_buildBundle {toLower : Text → Text} {options : BundleOptions}
    {directRules proxyRules rejectRules : List ParsedRule} {bundle : Json}
    (h : buildBundle toLower options directRules proxyRules rejectRules = .ok bundle) :
    ∃ rules : List BundleRule,
      rules.Perm ((allEntries directRules proxyRules rejectRules).map (bundleRule toLower)) ∧
      (∀ e ∈ allEntries directRules proxyRules rejectRules, Supported e.rule) ∧
      RoutingProfileCodec.decodeFromObject platform (routingOf bundle)
        = .ok (clientConfig platform rules) := by
  obtain ⟨hsupported, hrouting⟩ := routingOf_buildBundle h
  refine ⟨_, Sorter.insertion.perm BundleRule.precedes _, hsupported, ?_⟩
  rw [hrouting]
  refine decode_routingSection platform toLower (fun b hb => ?_)
  obtain ⟨e, he, rfl⟩ := List.mem_map.mp (Sorter.insertion.mem_sort.mp hb)
  exact ⟨e, hsupported e he, rfl⟩

/-- **What a bundle means on the client**: for every bundle that is built and every
request, the client reads the routing section, and does with the request what the
lists were meant to say exactly when the first rules of the lists that match are
in order. -/
theorem decides_iff {options : BundleOptions}
    {directRules proxyRules rejectRules : List ParsedRule} {bundle : Json}
    (h : buildBundle toLower options directRules proxyRules rejectRules = .ok bundle)
    (request : RoutingRequestMetadata) :
    ∃ config, RoutingProfileCodec.decodeFromObject platform (routingOf bundle) = .ok config ∧
      ((RoutingDecisionEngine.resolve platform config request).action
          = intended platform request directRules rejectRules ↔
        InOrder platform request directRules proxyRules rejectRules) := by
  obtain ⟨rules, hrules, hsupported, hdecode⟩ := exists_decode_buildBundle platform h
  exact ⟨_, hdecode, action_eq_intended_iff platform toLower hrules hsupported request⟩

/-! ### A hundred rules and one more -/

def sampleRule (value : String) : ParsedRule := ⟨.domain, Text.ofString value⟩

def sampleRequest : RoutingRequestMetadata where
  host := Text.ofString "b"
  port := 443
  protocol := Text.ofString "tcp"

def sampleOptions : BundleOptions where
  generatedAt := Text.ofString "1970-01-01T00:00:00Z"

theorem exists_buildBundle (directRules proxyRules rejectRules : List ParsedRule)
    (h : (buildBundle id sampleOptions directRules proxyRules rejectRules).toBool = true) :
    ∃ bundle, buildBundle id sampleOptions directRules proxyRules rejectRules = .ok bundle := by
  cases hbuild : buildBundle id sampleOptions directRules proxyRules rejectRules with
  | ok bundle => exact ⟨bundle, rfl⟩
  | error e =>
    rw [hbuild] at h
    exact nomatch h

/-- A request that a rule rejects and another one reaches directly is rejected, if
the lists are short. -/
theorem decides_of_short_lists :
    ∃ bundle, buildBundle id sampleOptions [sampleRule "b"] [] [sampleRule "a", sampleRule "b"]
        = .ok bundle ∧
      ∃ config, RoutingProfileCodec.decodeFromObject
          ProfilePlatform.samplePlatform.toRoutingPlatform (routingOf bundle) = .ok config ∧
        (RoutingDecisionEngine.resolve ProfilePlatform.samplePlatform.toRoutingPlatform config
          sampleRequest).action = .block := by
  obtain ⟨bundle, hbundle⟩ := exists_buildBundle [sampleRule "b"] []
    [sampleRule "a", sampleRule "b"] (by decide +kernel)
  obtain ⟨config, hdecode, hiff⟩ := decides_iff ProfilePlatform.samplePlatform.toRoutingPlatform
    id hbundle sampleRequest
  have horder : InOrder ProfilePlatform.samplePlatform.toRoutingPlatform sampleRequest
      [sampleRule "b"] [] [sampleRule "a", sampleRule "b"] := by decide +kernel
  exact ⟨bundle, hbundle, config, hdecode, (hiff.mpr horder).trans (by decide +kernel)⟩

/-- The hundred and first rule that rejects has the priority of the first direct
one, and a greater id: what both match goes directly. -/
theorem rejected_goes_direct :
    ¬ ∀ (platform : RoutingPlatform) (toLower : Text → Text) (options : BundleOptions)
      (directRules proxyRules rejectRules : List ParsedRule) (bundle : Json)
      (request : RoutingRequestMetadata),
      buildBundle toLower options directRules proxyRules rejectRules = .ok bundle →
      ∃ config, RoutingProfileCodec.decodeFromObject platform (routingOf bundle) = .ok config ∧
        (RoutingDecisionEngine.resolve platform config request).action
          = intended platform request directRules rejectRules := by
  intro h
  let platform := ProfilePlatform.samplePlatform.toRoutingPlatform
  let rejectRules := List.replicate 100 (sampleRule "a") ++ [sampleRule "b"]
  obtain ⟨bundle, hbundle⟩ := exists_buildBundle [sampleRule "b"] [] rejectRules
    (by decide +kernel)
  obtain ⟨config, hdecode, haction⟩ := h platform id sampleOptions _ _ _ bundle sampleRequest
    hbundle
  obtain ⟨rules, hrules, hsupported, hdecode'⟩ := exists_decode_buildBundle platform hbundle
  obtain rfl := Except.ok.inj (hdecode.symm.trans hdecode')
  have horder := (action_eq_intended_iff platform id hrules hsupported sampleRequest).mp haction
  exact absurd horder (by decide +kernel)

end ClientBundle
