import Trojan.Client.RoutingDecisionEngine

/-!
# The rule that decides

In rule mode the engine sorts the enabled rules and takes the first that matches. What it
does is said here without sorting and without a first: a rule *holds* of a request if it
has a condition and all of its conditions are met (`RoutingPlatform.Holds`), and of the
enabled rules that hold, the one with the least priority and id *decides*
(`RoutingDecisionEngine.Decides`).

If the enabled rules are told apart by priority and id, one rule decides at most, and the
engine does what that rule says (`RoutingDecisionEngine.resolve_rule`). The order of the
rules is nothing to it, nor is any rule that is disabled or greater than the one that
decides – not even one that is not told apart from others.
-/

/-- A list of options has all its values exactly if each of them has one. -/
theorem isSome_mapM_id_iff {α : Type} (options : List (Option α)) :
    (options.mapM id).isSome = true ↔ ∀ option ∈ options, option.isSome = true := by
  induction options with
  | nil => simp
  | cons option options ih =>
    rw [List.mapM_cons, List.forall_mem_cons, ← ih]
    cases option with
    | none => simp
    | some value => cases h : options.mapM id <;> simp

namespace RoutingPlatform

variable (platform : RoutingPlatform)

/-- **A rule holds of a request**: it has a condition, and those that it has are met. -/
structure Holds (m : RoutingRuleMatch) (request : RoutingRequestMetadata) : Prop where
  constrained : m.hasAnyConstraint = true
  domainExact : ∀ expected, platform.normalizeMaybe m.domainExact = some expected →
    platform.normalizeHost request.host = expected
  domainSuffix : ∀ expected, platform.normalizeMaybe m.domainSuffix = some expected →
    platform.normalizeSuffix expected <:+ platform.normalizeHost request.host
      ∨ platform.normalizeHost request.host = (platform.normalizeSuffix expected).tail
  domainKeyword : ∀ expected, platform.normalizeMaybe m.domainKeyword = some expected →
    expected <:+: platform.normalizeHost request.host
  domainRegex : ∀ expected, platform.normalizeMaybe m.domainRegex = some expected →
    platform.hasMatch expected request.host = some true
  ipCidr : ∀ expected, platform.normalizeMaybe m.ipCidr = some expected →
    ∃ ip, platform.normalizeMaybe request.ip = some ip ∧ platform.ipInCidr ip expected = true
  port : ∀ expected, m.port = some expected → request.port = expected
  protocol : ∀ expected, platform.normalizeMaybe m.protocol = some expected →
    platform.normalizeMaybe (some request.protocol) = some expected
  processName : ∀ expected, platform.normalizeMaybe m.processName = some expected →
    platform.normalizeMaybe request.processName = some expected
  processPath : ∀ expected, platform.normalizeMaybe m.processPath = some expected →
    platform.normalizeMaybe request.processPath = some expected

theorem isSome_constrain_iff (label : String) (expected : Option Text) (holds : Text → Bool) :
    (constrain label expected holds).isSome = true
      ↔ ∀ value, expected = some value → holds value = true := by
  unfold constrain
  cases expected with
  | none => simp
  | some value => cases h : holds value <;> simp [h]

variable {platform} {m : RoutingRuleMatch} {request : RoutingRequestMetadata}

/-- What is left of a text is not empty, so it is no default. -/
theorem getD_eq_iff_of_normalizeMaybe {value other : Option Text} {t : Text}
    (h : platform.normalizeMaybe value = some t) : other.getD [] = t ↔ other = some t := by
  have ht : t ≠ [] := by
    have hfilter := (Option.filter_eq_some_iff.mp h).2
    simpa using hfilter
  cases other with
  | none => exact ⟨fun hnil => absurd hnil.symm ht, nofun⟩
  | some other => exact Option.some_inj.symm

/-- The condition on the port. -/
theorem isSome_port_iff (expected : Option ℤ) (actual : ℤ) (tokens : ℤ → List Text) :
    (match expected with
      | none => some []
      | some port => if actual = port then some (tokens port) else none).isSome = true
      ↔ ∀ port, expected = some port → actual = port := by
  cases expected with
  | none => simp
  | some port => by_cases h : actual = port <;> simp [h]

/-- **A rule is matched exactly if it holds.** -/
theorem isSome_matchesRule_iff :
    (platform.matchesRule m request).isSome = true ↔ platform.Holds m request := by
  unfold matchesRule
  cases hconstrained : m.hasAnyConstraint with
  | false => exact ⟨nofun, fun h => absurd h.constrained (by simp [hconstrained])⟩
  | true =>
    have hbind (tokens : Option (List (List Text))) :
        (tokens.bind (fun tokens => some ([0x20].intercalate tokens.flatten))).isSome
          = tokens.isSome := by
      cases tokens <;> rfl
    show Option.isSome (Option.bind _ _) = true ↔ _
    have hfound (found : Option Bool) : found.getD false = true ↔ found = some true := by
      cases found <;> simp
    -- every condition adds its token to a list, and the list is there if all tokens are
    rw [hbind, isSome_mapM_id_iff]
    simp only [List.forall_mem_cons, isSome_constrain_iff, beq_iff_eq, Bool.or_eq_true,
      decide_eq_true_eq, Option.any_eq_true, hfound]
    constructor
    · rintro ⟨hexact, hsuffix, hkeyword, hregex, hcidr, hport, hprotocol, hname, hpath, -⟩
      exact {
        constrained := hconstrained
        domainExact := hexact
        domainSuffix := hsuffix
        domainKeyword := hkeyword
        domainRegex := hregex
        ipCidr := hcidr
        port := (isSome_port_iff m.port request.port _).mp hport
        protocol := fun expected h =>
          (getD_eq_iff_of_normalizeMaybe h).mp (hprotocol expected h)
        processName := hname
        processPath := hpath }
    · intro h
      exact ⟨h.domainExact, h.domainSuffix, h.domainKeyword, h.domainRegex, h.ipCidr,
        (isSome_port_iff m.port request.port _).mpr h.port,
        fun expected hexpected => (getD_eq_iff_of_normalizeMaybe hexpected).mpr
          (h.protocol expected hexpected),
        h.processName, h.processPath, fun _ hnil => absurd hnil List.not_mem_nil⟩

end RoutingPlatform

/-- The order of rules: by priority, and by id where that is the same. -/
def RoutingRule.KeyLE (a b : RoutingRule) : Prop :=
  a.priority < b.priority ∨ (a.priority = b.priority ∧ a.id ≤ b.id)

namespace RoutingDecisionEngine

variable (platform : RoutingPlatform) (profile : RoutingProfileConfig)
  (request : RoutingRequestMetadata)

/-- **A rule decides** on a request: it is enabled and holds, and of the rules that are
and do, it is the least. -/
structure Decides (rule : RoutingRule) : Prop where
  mem : rule ∈ profile.rules
  enabled : rule.enabled = true
  holds : platform.Holds rule.ruleMatch request
  least : ∀ other ∈ profile.rules, other.enabled = true →
    platform.Holds other.ruleMatch request → rule.KeyLE other

/-- **Other rules, which differ where it does not matter**: they have the enabled rules up
to the one that decides, and all of them if none does. -/
def Concur (rules : List RoutingRule) : Prop :=
  ∀ rule, rule.enabled = true →
    (∀ least, Decides platform profile request least → rule.KeyLE least) →
    (rule ∈ rules ↔ rule ∈ profile.rules)

variable {platform profile request} {rule : RoutingRule}

/-- The enabled rules that the engine sorts. -/
theorem mem_filter_enabled :
    rule ∈ profile.rules.filter RoutingRule.enabled ↔ rule ∈ profile.rules ∧ rule.enabled = true :=
  List.mem_filter

/-- A rule that is no greater than the one that decides, and holds as well, is that rule. -/
theorem Decides.eq_of_keyLE (htold : RoutingRule.Told (profile.rules.filter RoutingRule.enabled))
    (h : Decides platform profile request rule) {other : RoutingRule} (hmem : other ∈ profile.rules)
    (henabled : other.enabled = true) (hholds : platform.Holds other.ruleMatch request)
    (hle : other.KeyLE rule) : other = rule := by
  refine htold.distinguishes other (mem_filter_enabled.mpr ⟨hmem, henabled⟩) rule
    (mem_filter_enabled.mpr ⟨h.mem, h.enabled⟩) ?_ ?_
  · exact RoutingRule.precedes_iff.mpr hle
  · exact RoutingRule.precedes_iff.mpr (h.least other hmem henabled hholds)

/-- At most one rule decides. -/
theorem Decides.unique (htold : RoutingRule.Told (profile.rules.filter RoutingRule.enabled))
    {other : RoutingRule} (h : Decides platform profile request rule)
    (h' : Decides platform profile request other) : other = rule :=
  h.eq_of_keyLE htold h'.mem h'.enabled h'.holds (h'.least rule h.mem h.enabled h.holds)

/-- **The rule that matches first**: of the enabled rules that match a request, the one that
the engine sorts to the front. -/
def leastMatching (platform : RoutingPlatform) (profile : RoutingProfileConfig)
    (request : RoutingRequestMetadata) : Option RoutingRule :=
  (platform.sorter.sort RoutingRule.precedes (profile.rules.filter RoutingRule.enabled)).find?
    (fun rule => (platform.matchesRule rule.ruleMatch request).isSome)

/-- The rule that matches first decides. -/
theorem decides_of_leastMatching (h : leastMatching platform profile request = some rule) :
    Decides platform profile request rule := by
  obtain ⟨hmem, hmatch, hleast⟩ :=
    platform.sorter.least_of_find?_sort RoutingRule.isPreorderedBy_precedes h
  obtain ⟨hrules, henabled⟩ := mem_filter_enabled.mp hmem
  refine ⟨hrules, henabled, RoutingPlatform.isSome_matchesRule_iff.mp hmatch, ?_⟩
  intro other hother henabled hholds
  exact RoutingRule.precedes_iff.mp (hleast other (mem_filter_enabled.mpr ⟨hother, henabled⟩)
    (RoutingPlatform.isSome_matchesRule_iff.mpr hholds))

/-- The rule that decides matches first, if no other that holds is as little as it. -/
theorem leastMatching_of_decides (h : Decides platform profile request rule)
    (honly : ∀ other ∈ profile.rules, other.enabled = true →
      platform.Holds other.ruleMatch request → other.KeyLE rule → other = rule) :
    leastMatching platform profile request = some rule := by
  refine platform.sorter.find?_sort_of_least RoutingRule.isPreorderedBy_precedes
    (mem_filter_enabled.mpr ⟨h.mem, h.enabled⟩)
    (RoutingPlatform.isSome_matchesRule_iff.mpr h.holds) ?_
  intro other hother hmatch hle
  obtain ⟨hmem, henabled⟩ := mem_filter_enabled.mp hother
  exact honly other hmem henabled (RoutingPlatform.isSome_matchesRule_iff.mp hmatch)
    (RoutingRule.precedes_iff.mp hle)

/-- No rule matches first exactly if none holds. -/
theorem leastMatching_eq_none_iff :
    leastMatching platform profile request = none ↔
      ∀ rule ∈ profile.rules, rule.enabled = true → ¬ platform.Holds rule.ruleMatch request := by
  unfold leastMatching
  rw [List.find?_eq_none]
  constructor
  · intro h rule hmem henabled hholds
    exact h rule (platform.sorter.mem_sort.mpr (mem_filter_enabled.mpr ⟨hmem, henabled⟩))
      (RoutingPlatform.isSome_matchesRule_iff.mpr hholds)
  · intro h rule hrule hmatch
    obtain ⟨hmem, henabled⟩ := mem_filter_enabled.mp (platform.sorter.mem_sort.mp hrule)
    exact h rule hmem henabled (RoutingPlatform.isSome_matchesRule_iff.mp hmatch)

/-- A rule decides, or none holds. -/
theorem exists_decides_or (platform : RoutingPlatform) (profile : RoutingProfileConfig)
    (request : RoutingRequestMetadata) :
    (∃ rule, Decides platform profile request rule) ∨
      ∀ rule ∈ profile.rules, rule.enabled = true → ¬ platform.Holds rule.ruleMatch request := by
  cases hfind : leastMatching platform profile request with
  | none => exact .inr (leastMatching_eq_none_iff.mp hfind)
  | some rule => exact .inl ⟨rule, decides_of_leastMatching hfind⟩

/-! ## What the engine does -/

theorem resolve_of_mode (hmode : profile.mode = .rule) :
    resolve platform profile request = resolveRules platform profile request
      (platform.sorter.sort RoutingRule.precedes (profile.rules.filter RoutingRule.enabled)) := by
  unfold resolve
  rw [hmode]

/-- The rule that matches first says what is done. -/
theorem resolve_of_leastMatching (hmode : profile.mode = .rule)
    (h : leastMatching platform profile request = some rule) :
    resolve platform profile request
      = decisionOf profile rule ((platform.matchesRule rule.ruleMatch request).getD []) := by
  rw [resolve_of_mode hmode, resolveRules_eq_find?]
  unfold leastMatching at h
  rw [h]

/-- If no rule matches, the default is done. -/
theorem resolve_of_leastMatching_eq_none (hmode : profile.mode = .rule)
    (h : leastMatching platform profile request = none) :
    resolve platform profile request = noRuleMatched profile := by
  rw [resolve_of_mode hmode, resolveRules_eq_find?]
  unfold leastMatching at h
  rw [h]

/-- **The rule that decides is the first** that matches, if no other that holds is as
little as it. -/
theorem resolve_of_decides (hmode : profile.mode = .rule)
    (h : Decides platform profile request rule)
    (honly : ∀ other ∈ profile.rules, other.enabled = true →
      platform.Holds other.ruleMatch request → other.KeyLE rule → other = rule) :
    resolve platform profile request
      = decisionOf profile rule ((platform.matchesRule rule.ruleMatch request).getD []) :=
  resolve_of_leastMatching hmode (leastMatching_of_decides h honly)

/-- Without a rule that holds, the default is done. -/
theorem resolve_of_none (hmode : profile.mode = .rule)
    (hnone : ∀ rule ∈ profile.rules, rule.enabled = true →
      ¬ platform.Holds rule.ruleMatch request) :
    resolve platform profile request = noRuleMatched profile :=
  resolve_of_leastMatching_eq_none hmode (leastMatching_eq_none_iff.mpr hnone)

/-! ## What does not matter -/

/-- Among rules that concur, the same rule decides, and no other that holds is as little as
it. -/
theorem Concur.decides (htold : RoutingRule.Told (profile.rules.filter RoutingRule.enabled))
    {rules : List RoutingRule} (hconcur : Concur platform profile request rules)
    (h : Decides platform profile request rule) :
    Decides platform { profile with rules := rules } request rule
      ∧ ∀ other ∈ rules, other.enabled = true →
        platform.Holds other.ruleMatch request → other.KeyLE rule → other = rule := by
  have hup {other : RoutingRule} (henabled : other.enabled = true) (hle : other.KeyLE rule) :
      other ∈ rules ↔ other ∈ profile.rules := by
    refine hconcur other henabled (fun least hleast => ?_)
    rw [h.unique htold hleast]
    exact hle
  have honly : ∀ other ∈ rules, other.enabled = true →
      platform.Holds other.ruleMatch request → other.KeyLE rule → other = rule :=
    fun other hmem henabled hholds hle =>
      h.eq_of_keyLE htold ((hup henabled hle).mp hmem) henabled hholds hle
  have hself : rule.KeyLE rule := .inr ⟨rfl, List.le_refl rule.id⟩
  refine ⟨⟨(hup h.enabled hself).mpr h.mem, h.enabled, h.holds, ?_⟩, honly⟩
  intro other hmem henabled hholds
  -- what is greater than the rule that decides may be anything
  rcases RoutingRule.isPreorderedBy_precedes.total rule other with hle | hle
  · exact RoutingRule.precedes_iff.mp hle
  · obtain rfl := honly other hmem henabled hholds (RoutingRule.precedes_iff.mp hle)
    exact hself

/-- **Rules that concur decide the same.** -/
theorem resolve_of_concur (hmode : profile.mode = .rule)
    (htold : RoutingRule.Told (profile.rules.filter RoutingRule.enabled))
    {rules : List RoutingRule} (hconcur : Concur platform profile request rules) :
    resolve platform { profile with rules := rules } request
      = resolve platform profile request := by
  rcases exists_decides_or platform profile request with ⟨rule, h⟩ | hnone
  · obtain ⟨h', honly⟩ := hconcur.decides htold h
    rw [resolve_of_decides hmode h
      (fun other hmem henabled hholds => h.eq_of_keyLE htold hmem henabled hholds)]
    exact resolve_of_decides hmode h' honly
  · have hnone' : ∀ rule ∈ rules, rule.enabled = true →
        ¬ platform.Holds rule.ruleMatch request := by
      intro rule hmem henabled
      -- where none decides, the two have the same enabled rules
      have hall := hconcur rule henabled
        (fun least hleast => absurd hleast.holds (hnone least hleast.mem hleast.enabled))
      exact hnone rule (hall.mp hmem) henabled
    rw [resolve_of_none hmode hnone]
    exact resolve_of_none hmode hnone'

/-- **The least rule that holds decides.** In rule mode, with enabled rules that are told
apart by priority and id: there is a rule that decides and what it says is done in its
name, or no rule holds and the default is done in no rule's name; and neither another
order of the rules nor other rules that concur make a difference. -/
theorem resolve_rule (platform : RoutingPlatform) (profile : RoutingProfileConfig)
    (request : RoutingRequestMetadata) (hmode : profile.mode = .rule)
    (htold : RoutingRule.Told (profile.rules.filter RoutingRule.enabled)) :
    ((∃ rule, Decides platform profile request rule) ∨
        ∀ rule ∈ profile.rules, rule.enabled = true → ¬ platform.Holds rule.ruleMatch request)
      ∧ (∀ rule, Decides platform profile request rule →
        (resolve platform profile request).action = ruleAction profile rule.action
          ∧ (resolve platform profile request).matchedRuleId = some rule.id)
      ∧ ((∀ rule ∈ profile.rules, rule.enabled = true →
          ¬ platform.Holds rule.ruleMatch request) →
        (resolve platform profile request).action = profile.defaultAction
          ∧ (resolve platform profile request).matchedRuleId = none)
      ∧ (∀ rules : List RoutingRule, rules.Perm profile.rules →
        resolve platform { profile with rules := rules } request
          = resolve platform profile request)
      ∧ ∀ rules, Concur platform profile request rules →
        resolve platform { profile with rules := rules } request
          = resolve platform profile request := by
  refine ⟨exists_decides_or platform profile request, fun rule h => ?_, fun hnone => ?_,
    fun rules hperm => ?_, fun rules hconcur => resolve_of_concur hmode htold hconcur⟩
  · rw [resolve_of_decides hmode h
      (fun other hmem henabled hholds => h.eq_of_keyLE htold hmem henabled hholds)]
    exact ⟨decisionOf_action profile rule _, decisionOf_matchedRuleId profile rule _⟩
  · rw [resolve_of_none hmode hnone]
    exact ⟨rfl, rfl⟩
  · exact resolve_of_concur hmode htold (fun rule _ _ => hperm.mem_iff)

/-- A platform that knows no regular expressions, numbers or addresses. -/
def plainPlatform : RoutingPlatform where
  sorter := Sorter.insertion
  toLowerCase := id
  toLowerCase_nil := rfl
  hasMatch _ _ := none
  parseInt _ := none
  parseAddress _ := none

/-- A rule for port 25. -/
def mailRule (id : String) (enabled : Bool) (priority : ℤ) (action : RoutingAction) :
    RoutingRule where
  id := Text.ofString id
  name := Text.ofString id
  enabled := enabled
  priority := priority
  ruleMatch := { port := some 25 }
  action := .direct (some action)

/-- Three rules for port 25, the least of which is disabled. -/
def mailProfile : RoutingProfileConfig :=
  { RoutingProfileConfig.defaults with
    rules := [mailRule "a" true 2 .block, mailRule "b" true 1 .direct,
      mailRule "c" false 0 .block] }

/-- A request for port 25. -/
def mailRequest : RoutingRequestMetadata where
  host := Text.ofString "mail.example"
  port := 25
  protocol := Text.ofString "tcp"

theorem holds_mailRule (id : String) (enabled : Bool) (priority : ℤ) (action : RoutingAction) :
    plainPlatform.Holds (mailRule id enabled priority action).ruleMatch mailRequest where
  constrained := rfl
  domainExact := nofun
  domainSuffix := nofun
  domainKeyword := nofun
  domainRegex := nofun
  ipCidr := nofun
  port _ h := Option.some.inj h
  protocol := nofun
  processName := nofun
  processPath := nofun

/-- The rule that is second in the list, and least of those that are enabled, decides. -/
theorem resolve_rule_mail :
    (resolve plainPlatform mailProfile mailRequest).action = .direct
      ∧ (resolve plainPlatform mailProfile mailRequest).matchedRuleId
        = some (Text.ofString "b") := by
  have htold : RoutingRule.Told (mailProfile.rules.filter RoutingRule.enabled) := by
    unfold RoutingRule.Told
    decide
  have hleast : ∀ other ∈ mailProfile.rules, other.enabled = true →
      (mailRule "b" true 1 .direct).precedes other = true := by decide
  refine (resolve_rule plainPlatform mailProfile mailRequest rfl htold).2.1
    (mailRule "b" true 1 .direct) ⟨by decide, rfl, holds_mailRule _ _ _ _, ?_⟩
  exact fun other hmem henabled _ => RoutingRule.precedes_iff.mp (hleast other hmem henabled)

end RoutingDecisionEngine
