import Trojan.Client.CanonicalRouting
import Trojan.Client.LeastRule

/-!
# Conditions on the host

Four of the conditions that a rule may have are on the host of a request. Three of them,
the exact name, the suffix and the keyword, look at its normal form: trimmed, in lower case,
without the dot at its end. The fourth, the regular expression, looks at the host as it
stands, and is itself put into lower case before it is read.

So how a host is spelled can make a difference. The normal form is one spelling more, and
not always its own normal form, since of several dots one is taken. Which rules tell the
two apart is said by `RoutingPlatform.HostHolds`, and what comes of it by
`RoutingDecisionEngine.resolve_normalizeHost_iff`. And a pattern can mean something else in
lower case (`RoutingPlatform.matchesRule_domainRegex_iff`): there are escapes that differ
only in that.
-/

namespace RoutingPlatform

variable (platform : RoutingPlatform)

/-- **The conditions on the host**, of a host and what is taken for its normal form. -/
structure HostHolds (m : RoutingRuleMatch) (normalizedHost host : Text) : Prop where
  domainExact : ∀ expected, platform.normalizeMaybe m.domainExact = some expected →
    normalizedHost = expected
  domainSuffix : ∀ expected, platform.normalizeMaybe m.domainSuffix = some expected →
    platform.normalizeSuffix expected <:+ normalizedHost
      ∨ normalizedHost = (platform.normalizeSuffix expected).tail
  domainKeyword : ∀ expected, platform.normalizeMaybe m.domainKeyword = some expected →
    expected <:+: normalizedHost
  domainRegex : ∀ expected, platform.normalizeMaybe m.domainRegex = some expected →
    platform.hasMatch expected host = some true

/-- The other conditions, and that there is one at all. -/
structure OthersHold (m : RoutingRuleMatch) (request : RoutingRequestMetadata) : Prop where
  constrained : m.hasAnyConstraint = true
  ipCidr : ∀ expected, platform.normalizeMaybe m.ipCidr = some expected →
    ∃ ip, platform.normalizeMaybe request.ip = some ip ∧ platform.ipInCidr ip expected = true
  port : ∀ expected, m.port = some expected → request.port = expected
  protocol : ∀ expected, platform.normalizeMaybe m.protocol = some expected →
    platform.normalizeMaybe (some request.protocol) = some expected
  processName : ∀ expected, platform.normalizeMaybe m.processName = some expected →
    platform.normalizeMaybe request.processName = some expected
  processPath : ∀ expected, platform.normalizeMaybe m.processPath = some expected →
    platform.normalizeMaybe request.processPath = some expected

/-- The request with the normal form of its host. -/
def respelled (request : RoutingRequestMetadata) : RoutingRequestMetadata :=
  { request with host := platform.normalizeHost request.host }

variable {platform} {m : RoutingRuleMatch} {request : RoutingRequestMetadata}

/-- A rule holds if its conditions on the host do, and the others. -/
theorem holds_iff : platform.Holds m request ↔
    platform.OthersHold m request ∧
      platform.HostHolds m (platform.normalizeHost request.host) request.host := by
  constructor
  · intro h
    exact ⟨⟨h.constrained, h.ipCidr, h.port, h.protocol, h.processName, h.processPath⟩,
      ⟨h.domainExact, h.domainSuffix, h.domainKeyword, h.domainRegex⟩⟩
  · rintro ⟨hothers, hhost⟩
    exact ⟨hothers.constrained, hhost.domainExact, hhost.domainSuffix, hhost.domainKeyword,
      hhost.domainRegex, hothers.ipCidr, hothers.port, hothers.protocol, hothers.processName,
      hothers.processPath⟩

/-- The other conditions do not look at the host. -/
theorem othersHold_respelled_iff :
    platform.OthersHold m (platform.respelled request) ↔ platform.OthersHold m request :=
  ⟨fun h => ⟨h.constrained, h.ipCidr, h.port, h.protocol, h.processName, h.processPath⟩,
    fun h => ⟨h.constrained, h.ipCidr, h.port, h.protocol, h.processName, h.processPath⟩⟩

/-- Whether a rule is matched, by its conditions on the host and the others. -/
theorem isSome_matchesRule_iff_hostHolds :
    (platform.matchesRule m request).isSome = true ↔ platform.OthersHold m request ∧
      platform.HostHolds m (platform.normalizeHost request.host) request.host :=
  isSome_matchesRule_iff.trans holds_iff

/-- The same of the request with the normal form. -/
theorem isSome_matchesRule_respelled_iff :
    (platform.matchesRule m (platform.respelled request)).isSome = true ↔
      platform.OthersHold m request ∧
        platform.HostHolds m (platform.normalizeHost (platform.normalizeHost request.host))
          (platform.normalizeHost request.host) := by
  rw [isSome_matchesRule_iff_hostHolds, othersHold_respelled_iff]
  exact Iff.rfl

end RoutingPlatform

namespace RoutingDecisionEngine

variable (platform : RoutingPlatform) (profile : RoutingProfileConfig)
  (request : RoutingRequestMetadata)

/-- Two decisions come to the same: the same action, in the name of the same rule. -/
def SameOutcome (decision decision' : RoutingDecision) : Prop :=
  decision.action = decision'.action ∧ decision.matchedRuleId = decision'.matchedRuleId

/-- **A rule stands in for another**: of some rules it is the first that matches, and it has
the id and the action of the other. -/
def StandsIn (rule : RoutingRule) (rules : List RoutingRule) : Prop :=
  ∃ other, rules.find? (fun other => (platform.matchesRule other.ruleMatch request).isSome)
      = some other
    ∧ other.id = rule.id ∧ ruleAction profile other.action = ruleAction profile rule.action

/-- **The spelling of the host makes no difference** to the rules, taken in order. At the
first that matches under one spelling or the other, the conditions on the host hold under
both, or there is a later rule that stands in for it under the spelling that does not. -/
def Indifferent : List RoutingRule → Prop
  | [] => True
  | rule :: rules =>
    let normal := platform.normalizeHost request.host
    let others := platform.OthersHold rule.ruleMatch request
    let asGiven := platform.HostHolds rule.ruleMatch normal request.host
    let asNormal := platform.HostHolds rule.ruleMatch (platform.normalizeHost normal) normal
    (others ∧ asGiven ∧ asNormal)
      ∨ (others ∧ asGiven ∧ ¬ asNormal
        ∧ StandsIn platform profile (platform.respelled request) rule rules)
      ∨ (others ∧ ¬ asGiven ∧ asNormal ∧ StandsIn platform profile request rule rules)
      ∨ (¬ (others ∧ (asGiven ∨ asNormal)) ∧ Indifferent rules)

variable {platform profile request} {rule : RoutingRule} {rules : List RoutingRule}

theorem SameOutcome.symm {decision decision' : RoutingDecision}
    (h : SameOutcome decision decision') : SameOutcome decision' decision :=
  ⟨h.1.symm, h.2.symm⟩

theorem sameOutcome_decisionOf (explain explain' : Text) :
    SameOutcome (decisionOf profile rule explain) (decisionOf profile rule explain') := by
  simp [SameOutcome]

/-- A rule is stood in for exactly if the loop comes to the same without it. -/
theorem sameOutcome_resolveRules_iff (explain : Text) :
    SameOutcome (resolveRules platform profile request rules) (decisionOf profile rule explain) ↔
      StandsIn platform profile request rule rules := by
  unfold StandsIn
  rw [resolveRules_eq_find?]
  cases rules.find? (fun other => (platform.matchesRule other.ruleMatch request).isSome) with
  | none => simp [SameOutcome, noRuleMatched]
  | some other => simp [SameOutcome, and_comm]

/-- **The loop over the rules** comes to the same under both spellings exactly if the
spelling makes no difference to the rules. -/
theorem sameOutcome_respelled_iff (rules : List RoutingRule) :
    SameOutcome (resolveRules platform profile (platform.respelled request) rules)
        (resolveRules platform profile request rules) ↔
      Indifferent platform profile request rules := by
  induction rules with
  | nil => exact iff_of_true ⟨rfl, rfl⟩ trivial
  | cons rule rules ih =>
    have hgiven : (platform.matchesRule rule.ruleMatch request).isSome = true ↔ _ :=
      RoutingPlatform.isSome_matchesRule_iff_hostHolds
    have hnormal : (platform.matchesRule rule.ruleMatch (platform.respelled request)).isSome = true
        ↔ _ := RoutingPlatform.isSome_matchesRule_respelled_iff
    unfold resolveRules Indifferent
    dsimp only
    generalize platform.OthersHold rule.ruleMatch request = others at *
    generalize platform.HostHolds rule.ruleMatch (platform.normalizeHost request.host)
      request.host = asGiven at *
    generalize platform.HostHolds rule.ruleMatch
      (platform.normalizeHost (platform.normalizeHost request.host))
      (platform.normalizeHost request.host) = asNormal at *
    cases h : platform.matchesRule rule.ruleMatch request with
    | none =>
      have hfails : ¬ (others ∧ asGiven) := by simp [← hgiven, h]
      cases h' : platform.matchesRule rule.ruleMatch (platform.respelled request) with
      | none =>
        -- the rule is passed over under both spellings
        have hfails' : ¬ (others ∧ asNormal) := by simp [← hnormal, h']
        have hneither : ¬ (others ∧ (asGiven ∨ asNormal)) := by
          rw [and_or_left]
          exact not_or.mpr ⟨hfails, hfails'⟩
        refine ih.trans ⟨fun hrest => .inr (.inr (.inr ⟨hneither, hrest⟩)), ?_⟩
        rintro (⟨ho, hg, -⟩ | ⟨ho, hg, -⟩ | ⟨ho, -, hn, -⟩ | ⟨-, hrest⟩)
        · exact absurd ⟨ho, hg⟩ hfails
        · exact absurd ⟨ho, hg⟩ hfails
        · exact absurd ⟨ho, hn⟩ hfails'
        · exact hrest
      | some explain' =>
        obtain ⟨ho, hn⟩ : others ∧ asNormal := hnormal.mp (by simp [h'])
        have hg : ¬ asGiven := fun hg => hfails ⟨ho, hg⟩
        have hstands : _ ↔ StandsIn platform profile request rule rules :=
          sameOutcome_resolveRules_iff explain'
        constructor
        · intro hsame
          exact .inr (.inr (.inl ⟨ho, hg, hn, hstands.mp hsame.symm⟩))
        · rintro (⟨-, hg', -⟩ | ⟨-, hg', -⟩ | ⟨-, -, -, hother⟩ | ⟨hneither, -⟩)
          · exact absurd hg' hg
          · exact absurd hg' hg
          · exact (hstands.mpr hother).symm
          · exact absurd ⟨ho, .inr hn⟩ hneither
    | some explain =>
      obtain ⟨ho, hg⟩ : others ∧ asGiven := hgiven.mp (by simp [h])
      cases h' : platform.matchesRule rule.ruleMatch (platform.respelled request) with
      | none =>
        have hn : ¬ asNormal := by
          intro hn
          have hsome := hnormal.mpr ⟨ho, hn⟩
          simp [h'] at hsome
        refine (sameOutcome_resolveRules_iff explain).trans
          ⟨fun hother => .inr (.inl ⟨ho, hg, hn, hother⟩), ?_⟩
        rintro (⟨-, -, hn'⟩ | ⟨-, -, -, hother⟩ | ⟨-, -, hn', -⟩ | ⟨hneither, -⟩)
        · exact absurd hn' hn
        · exact hother
        · exact absurd hn' hn
        · exact absurd ⟨ho, .inl hg⟩ hneither
      | some explain' =>
        obtain ⟨-, hn⟩ : others ∧ asNormal := hnormal.mp (by simp [h'])
        exact iff_of_true (sameOutcome_decisionOf explain' explain) (.inl ⟨ho, hg, hn⟩)

/-- Where the normal form is its own, and no regular expression tells the host from it, the
spelling makes no difference. -/
theorem indifferent_of_fixed
    (hfixed : platform.normalizeHost (platform.normalizeHost request.host)
      = platform.normalizeHost request.host)
    (hregex : ∀ rule ∈ rules, ∀ expected,
      platform.normalizeMaybe rule.ruleMatch.domainRegex = some expected →
        (platform.hasMatch expected request.host = some true ↔
          platform.hasMatch expected (platform.normalizeHost request.host) = some true)) :
    Indifferent platform profile request rules := by
  induction rules with
  | nil => trivial
  | cons rule rules ih =>
    obtain ⟨hfirst, hrest⟩ := List.forall_mem_cons.mp hregex
    have hspelling : platform.HostHolds rule.ruleMatch (platform.normalizeHost request.host)
          request.host ↔
        platform.HostHolds rule.ruleMatch (platform.normalizeHost request.host)
          (platform.normalizeHost request.host) :=
      ⟨fun h => ⟨h.domainExact, h.domainSuffix, h.domainKeyword,
        fun expected hexpected => (hfirst expected hexpected).mp (h.domainRegex expected hexpected)⟩,
        fun h => ⟨h.domainExact, h.domainSuffix, h.domainKeyword,
        fun expected hexpected => (hfirst expected hexpected).mpr
          (h.domainRegex expected hexpected)⟩⟩
    unfold Indifferent
    dsimp only
    rw [hfixed, ← hspelling, or_self]
    by_cases h : platform.OthersHold rule.ruleMatch request
        ∧ platform.HostHolds rule.ruleMatch (platform.normalizeHost request.host) request.host
    · exact .inl ⟨h.1, h.2, h.2⟩
    · exact .inr (.inr (.inr ⟨h, ih hrest⟩))

/-- The rules are asked in rule mode only. -/
theorem sameOutcome_of_mode (hmode : profile.mode ≠ .rule) (request' : RoutingRequestMetadata) :
    SameOutcome (resolve platform profile request') (resolve platform profile request) := by
  unfold resolve
  cases h : profile.mode with
  | rule => exact absurd h hmode
  | global => exact ⟨rfl, rfl⟩
  | direct => exact ⟨rfl, rfl⟩

/-- **A host whose normal form is its own** is routed as that form is, by rules without a
regular expression. -/
theorem sameOutcome_of_fixed
    (hfixed : platform.normalizeHost (platform.normalizeHost request.host)
      = platform.normalizeHost request.host)
    (hnoRegex : ∀ rule ∈ profile.rules, platform.normalizeMaybe rule.ruleMatch.domainRegex = none) :
    SameOutcome (resolve platform profile (platform.respelled request))
      (resolve platform profile request) := by
  by_cases hmode : profile.mode = .rule
  · rw [resolve_of_mode hmode, resolve_of_mode hmode, sameOutcome_respelled_iff]
    refine indifferent_of_fixed hfixed (fun rule hrule expected hexpected => ?_)
    have hmem := (mem_filter_enabled.mp (platform.sorter.mem_sort.mp hrule)).1
    rw [hnoRegex rule hmem] at hexpected
    cases hexpected
  · exact sameOutcome_of_mode hmode _

/-- **Whether the spelling of a host matters.** The normal form of the host is routed as
the host is exactly if rules are not asked, or the spelling makes no difference to the
enabled rules in their order. -/
theorem resolve_normalizeHost_iff (platform : RoutingPlatform) (profile : RoutingProfileConfig)
    (request : RoutingRequestMetadata) :
    SameOutcome
        (resolve platform profile { request with host := platform.normalizeHost request.host })
        (resolve platform profile request) ↔
      (profile.mode = .rule → Indifferent platform profile request
        (platform.sorter.sort RoutingRule.precedes (profile.rules.filter RoutingRule.enabled))) := by
  by_cases hmode : profile.mode = .rule
  · rw [resolve_of_mode hmode, resolve_of_mode hmode]
    exact (sameOutcome_respelled_iff _).trans ⟨fun h _ => h, fun h => h hmode⟩
  · exact iff_of_true (sameOutcome_of_mode hmode _) (fun h => absurd h hmode)

end RoutingDecisionEngine

/-! ## A platform that knows three patterns -/

/-- A digit. -/
def Text.isDigit (unit : UInt16) : Bool := 0x30 ≤ unit && unit ≤ 0x39

/-- A platform that knows the patterns `com$`, `\d` and `\D`. -/
def patternPlatform : RoutingPlatform where
  sorter := Sorter.insertion
  toLowerCase := Text.asciiLower
  toLowerCase_nil := Text.asciiLower_nil
  hasMatch pattern text :=
    if pattern = Text.ofString "com$" then some (Text.ofString "com" <:+ text.asciiLower)
    else if pattern = Text.ofString "\\d" then some (text.any Text.isDigit)
    else if pattern = Text.ofString "\\D" then some (text.any (fun unit => !Text.isDigit unit))
    else none
  parseInt _ := none
  parseAddress _ := none

/-- A rule that sends hosts with a match of a pattern out directly. -/
def patternRule (pattern : Text) : RoutingRule where
  id := Text.ofString "pattern"
  name := Text.ofString "pattern"
  enabled := true
  priority := 100
  ruleMatch := { domainRegex := some pattern }
  action := .direct (some .direct)

/-- A configuration with this rule. -/
def patternConfig (pattern : Text) : RoutingProfileConfig :=
  { RoutingProfileConfig.defaults with rules := [patternRule pattern] }

/-- A request for a host. -/
def hostRequest (host : Text) : RoutingRequestMetadata where
  host := host
  port := 443
  protocol := Text.ofString "tcp"

namespace RoutingDecisionEngine

/-- A host with a dot at its end does not match `com$`, and its normal form does. -/
theorem not_sameOutcome_dot :
    ¬ SameOutcome
      (resolve patternPlatform (patternConfig (Text.ofString "com$"))
        { hostRequest (Text.ofString "example.com.") with
          host := patternPlatform.normalizeHost (Text.ofString "example.com.") })
      (resolve patternPlatform (patternConfig (Text.ofString "com$"))
        (hostRequest (Text.ofString "example.com."))) :=
  fun h => absurd h.1 (by decide +kernel)

end RoutingDecisionEngine

/-! ## Patterns in lower case -/

/-- **The only condition of a rule** is a regular expression. -/
structure RoutingRuleMatch.OnlyRegex (m : RoutingRuleMatch) : Prop where
  domainRegex : Text.isNotBlank m.domainRegex = true
  domainExact : Text.isNotBlank m.domainExact = false
  domainSuffix : Text.isNotBlank m.domainSuffix = false
  domainKeyword : Text.isNotBlank m.domainKeyword = false
  ipCidr : Text.isNotBlank m.ipCidr = false
  port : m.port = none
  protocol : Text.isNotBlank m.protocol = false
  processName : Text.isNotBlank m.processName = false
  processPath : Text.isNotBlank m.processPath = false

namespace RoutingPlatform

variable {platform : RoutingPlatform}

/-- Lower case leaves something of a text that is not empty. -/
def KeepsTexts (platform : RoutingPlatform) : Prop :=
  ∀ text, platform.toLowerCase text = [] → text = []

/-- The pattern that is read is the trimmed one, in lower case. -/
theorem normalizeMaybe_of_not_blank (hkeeps : platform.KeepsTexts) {text : Text}
    (h : Text.isNotBlank (some text) = true) :
    platform.normalizeMaybe (some text) = some (platform.toLowerCase text.trim) := by
  have hne : platform.toLowerCase text.trim ≠ [] :=
    fun hnil => absurd (hkeeps _ hnil) (by simpa [Text.isNotBlank] using h)
  simp [normalizeMaybe, hne]

/-- A rule with a regular expression only holds if that has a match. -/
theorem holds_iff_of_onlyRegex {m : RoutingRuleMatch} (honly : m.OnlyRegex)
    {request : RoutingRequestMetadata} {expected : Text}
    (hexpected : platform.normalizeMaybe m.domainRegex = some expected) :
    platform.Holds m request ↔ platform.hasMatch expected request.host = some true := by
  refine ⟨fun h => h.domainRegex expected hexpected, fun h => ?_⟩
  have hnone {value : Option Text} (hblank : Text.isNotBlank value = false) (t : Text) :
      platform.normalizeMaybe value ≠ some t := by
    simp [platform.normalizeMaybe_of_blank hblank]
  exact {
    constrained := by simp [RoutingRuleMatch.hasAnyConstraint, honly.domainRegex]
    domainExact := fun t ht => absurd ht (hnone honly.domainExact t)
    domainSuffix := fun t ht => absurd ht (hnone honly.domainSuffix t)
    domainKeyword := fun t ht => absurd ht (hnone honly.domainKeyword t)
    domainRegex := fun t ht => by
      rw [hexpected] at ht
      rw [← Option.some_inj.mp ht]
      exact h
    ipCidr := fun t ht => absurd ht (hnone honly.ipCidr t)
    port := fun port hport => by
      rw [honly.port] at hport
      cases hport
    protocol := fun t ht => absurd ht (hnone honly.protocol t)
    processName := fun t ht => absurd ht (hnone honly.processName t)
    processPath := fun t ht => absurd ht (hnone honly.processPath t) }

/-- **Whether a regular expression means what was configured.** A rule that was read from a
configuration, with a pattern as its only condition, is matched exactly if the pattern has
a match in the host: this is so exactly if the pattern in lower case has a match where the
pattern has one. -/
theorem matchesRule_domainRegex_iff (platform : RoutingPlatform) (hkeeps : platform.KeepsTexts)
    (json : List (String × Json)) (config : RoutingProfileConfig)
    (h : RoutingProfileCodec.decodeFromJsonMap platform json = .ok config)
    (rule : RoutingRule) (hrule : rule ∈ config.rules) (honly : rule.ruleMatch.OnlyRegex)
    (pattern : Text) (hpattern : rule.ruleMatch.domainRegex = some pattern)
    (request : RoutingRequestMetadata) :
    ((platform.matchesRule rule.ruleMatch request).isSome = true ↔
        platform.hasMatch pattern request.host = some true) ↔
      (platform.hasMatch (platform.toLowerCase pattern) request.host = some true ↔
        platform.hasMatch pattern request.host = some true) := by
  have htrim := ((RoutingProfileCodec.rules_of_decode h).1 rule hrule).trim_domainRegex hpattern
  have hnotBlank := honly.domainRegex
  rw [hpattern] at hnotBlank
  have hexpected : platform.normalizeMaybe rule.ruleMatch.domainRegex
      = some (platform.toLowerCase pattern) := by
    rw [hpattern, normalizeMaybe_of_not_blank hkeeps hnotBlank, htrim]
  rw [isSome_matchesRule_iff, holds_iff_of_onlyRegex honly hexpected]

/-- A configuration with a rule for a pattern, as JSON. -/
def patternJson (pattern : Text) : List (String × Json) :=
  [("rules", .arr [.obj [("id", .str (Text.ofString "pattern")),
    ("match", .obj [("domainRegex", .str pattern)]),
    ("action", .obj [("kind", .str (Text.ofString "direct")),
      ("directAction", .str (Text.ofString "direct"))])]])]

theorem onlyRegex_patternRule {pattern : Text} (h : Text.isNotBlank (some pattern) = true) :
    (patternRule pattern).ruleMatch.OnlyRegex :=
  ⟨h, rfl, rfl, rfl, rfl, rfl, rfl, rfl, rfl⟩

/-- The pattern `com$` is the same in lower case. -/
theorem matchesRule_domainRegex_iff_com :
    patternPlatform.matchesRule (patternRule (Text.ofString "com$")).ruleMatch
        (hostRequest (Text.ofString "EXAMPLE.COM")) ≠ none := by
  have hkeeps : patternPlatform.KeepsTexts := fun text hnil => List.map_eq_nil_iff.mp hnil
  have hmatch := (matchesRule_domainRegex_iff patternPlatform hkeeps
    (patternJson (Text.ofString "com$")) (patternConfig (Text.ofString "com$")) rfl
    (patternRule (Text.ofString "com$")) List.mem_cons_self
    (onlyRegex_patternRule (by decide +kernel)) (Text.ofString "com$") rfl
    (hostRequest (Text.ofString "EXAMPLE.COM"))).mpr (by decide +kernel)
  exact Option.isSome_iff_ne_none.mp (hmatch.mpr (by decide +kernel))

/-- The pattern `\D` has a match in a host without digits, and the rule that was read with
it does not match: in lower case, the pattern asks for a digit. -/
theorem not_matchesRule_nonDigit :
    RoutingProfileCodec.decodeFromJsonMap patternPlatform (patternJson (Text.ofString "\\D"))
        = .ok (patternConfig (Text.ofString "\\D"))
      ∧ (patternRule (Text.ofString "\\D")).ruleMatch.OnlyRegex
      ∧ patternPlatform.hasMatch (Text.ofString "\\D") (Text.ofString "example.com") = some true
      ∧ patternPlatform.matchesRule (patternRule (Text.ofString "\\D")).ruleMatch
        (hostRequest (Text.ofString "example.com")) = none :=
  ⟨rfl, onlyRegex_patternRule (by decide +kernel), by decide +kernel, by decide +kernel⟩

end RoutingPlatform
