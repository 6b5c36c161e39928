import GateSentry.Policy.Normalize
import GateSentry.Proxy.Types

/-!
# The first match decides

The policy service evaluates the domain first and hands the URL patterns and content types
of conditional rules on to the proxy, which tests them later.  Together they deny what a
plain walk over the rules denies.
-/

namespace GateSentry.Proxy

open Foundation ByteText Policy

/-! ## From the policy to the proxy -/

/-- `policyReason`; without a policy service there is no snapshot. -/
def policyReason (snap : Option PolicySnapshot) (result : ProxyMatch) : Bytes :=
  let name :=
    match snap.bind (·.groups.lookup result.groupID) with
    | some group => group.name
    | none => result.groupID
  if result.reason.isEmpty then utf8 "policy " ++ name
  else utf8 "policy " ++ name ++ utf8 ": " ++ result.reason

def proxyDecisionFromMatch (snap : Option PolicySnapshot) (result : ProxyMatch) :
    Option PolicyDecision :=
  if !result.isMatched then none
  else
    some { block := result.shouldBlock, allow := result.allowed, inspect := result.shouldMITM
           blockURLRegexes := result.blockURLRegexes
           blockContentTypes := result.blockContentTypes
           reason := policyReason snap result }

/-- The checks of a decision on an exchange: `Block`, `BlocksURL` and `BlocksContentType`. -/
def PolicyDecision.denies (matchString : Bytes → Bytes → Bool) (d : PolicyDecision)
    (requestURL contentType : Bytes) : Bool :=
  d.block || d.blocksURL matchString requestURL || d.blocksContentType contentType

structure ProxiedExchange where
  domain : Bytes
  user : Bytes
  now : Calendar.Time
  index : Option CategoryIndex
  gatewayCategories : List Bytes
  requestURL : Bytes
  contentType : Bytes

def ProxiedExchange.request (exchange : ProxiedExchange) : EvalRequest where
  domain := exchange.domain
  user := exchange.user
  now := exchange.now
  layer := .explicitProxy
  paused := false
  index := exchange.index
  gatewayCategories := exchange.gatewayCategories

/-- The policy is evaluated, the outcome becomes a decision, and the decision is applied to
the exchange. -/
def pipelineDenies (platform : Platform) (matchString : Bytes → Bytes → Bool)
    (snap : Option PolicySnapshot) (group : PolicyGroup) (exchange : ProxiedExchange) : Bool :=
  match proxyDecisionFromMatch snap
      ((evaluateGroup platform group exchange.request).proxyMatch group) with
  | none => false
  | some decision => decision.denies matchString exchange.requestURL exchange.contentType

/-! ## The plain walk -/

def targetCovers (target : RuleTarget) (domain : Bytes) (index : Option CategoryIndex) : Bool :=
  target.allTraffic || target.domains.any (matchDomain · domain) ||
    target.categories.any (CategoryIndex.covers index · domain)

def ruleApplies (platform : Platform) (exchange : ProxiedExchange) (rule : GroupRule) : Bool :=
  rule.enabled && targetCovers rule.target exchange.domain exchange.index &&
    (rule.schedule.map (·.isActive platform exchange.now)).getD true &&
    (rule.users.isEmpty || rule.users.contains exchange.user)

def conditionHolds (matchString : Bytes → Bytes → Bool) (exchange : ProxiedExchange)
    (rule : GroupRule) : Bool :=
  rule.urlRegexes.any (matchString · exchange.requestURL) ||
    rule.blockedContentTypes.any (·.isPrefixOf exchange.contentType)

def listsDeny (group : PolicyGroup) (exchange : ProxiedExchange) : Bool :=
  if group.allowedDomains.any (matchDomain · exchange.domain) then false
  else
    group.blockedDomains.any (matchDomain · exchange.domain) ||
      group.blockedCategories.any (CategoryIndex.covers exchange.index · exchange.domain) ||
      exchange.gatewayCategories.any (CategoryIndex.covers exchange.index · exchange.domain)

/-- The rules from top to bottom: an allow or an unconditional block decides, a conditional
block decides if its condition holds. -/
def walkDenies (platform : Platform) (matchString : Bytes → Bytes → Bool)
    (group : PolicyGroup) (exchange : ProxiedExchange) : List GroupRule → Bool
  | [] => listsDeny group exchange
  | rule :: rest =>
    if !ruleApplies platform exchange rule then
      walkDenies platform matchString group exchange rest
    else if rule.action = .allow then false
    else if rule.urlRegexes.isEmpty && rule.blockedContentTypes.isEmpty then true
    else if conditionHolds matchString exchange rule then true
    else walkDenies platform matchString group exchange rest

/-! ## Targets and lists -/

theorem isEmpty_find? {p : Bytes → Bool} {items : List Bytes}
    (hne : ∀ item ∈ items, p item = true → item ≠ []) :
    ((items.find? p).getD []).isEmpty = !items.any p := by
  cases hfind : items.find? p with
  | none => simpa using hfind
  | some item =>
    have hmem := List.mem_of_find?_eq_some hfind
    have hitem := List.find?_some hfind
    have hany : items.any p = true := List.any_eq_true.mpr ⟨item, hmem, hitem⟩
    simp [hany, hne item hmem hitem]

theorem isEmpty_matchDomainList (patterns : List Bytes) (domain : Bytes) :
    (matchDomainList patterns domain).isEmpty = !patterns.any (matchDomain · domain) := by
  apply isEmpty_find?
  rintro pattern - hmatch rfl
  cases hmatch

theorem isEmpty_matchCategoryList {ids : List Bytes} (hids : ∀ id ∈ ids, id ≠ [])
    (domain : Bytes) (index : Option CategoryIndex) :
    (matchCategoryList ids domain index).isEmpty =
      !ids.any (CategoryIndex.covers index · domain) :=
  isEmpty_find? fun id hid _ => hids id hid

theorem isEmpty_matchTarget {target : RuleTarget} (hcategories : ∀ id ∈ target.categories, id ≠ [])
    (domain : Bytes) (index : Option CategoryIndex) :
    (matchTarget target domain index).isEmpty = !targetCovers target domain index := by
  have hstar : (utf8 "*").isEmpty = false := by decide
  have hprefixed : ∀ id, (utf8 "category:" ++ id).isEmpty = false := by
    intro id
    rfl
  unfold matchTarget targetCovers
  dsimp only
  rw [isEmpty_matchDomainList, isEmpty_matchCategoryList hcategories]
  cases target.allTraffic with
  | true => simp [hstar]
  | false =>
    cases hdomains : target.domains.any (matchDomain · domain) with
    | true => simp [isEmpty_matchDomainList, hdomains]
    | false =>
      cases target.categories.any (CategoryIndex.covers index · domain) with
      | true => simp [hprefixed]
      | false => simp

/-! ## Outcomes -/

section Outcomes

variable (platform : Platform) (matchString : Bytes → Bytes → Bool)
  (exchange : ProxiedExchange)

def collectedHolds (out : GroupOutcome) : Bool :=
  out.urlRegexes.any (matchString · exchange.requestURL) ||
    (!exchange.contentType.isEmpty && out.contentTypes.any (·.isPrefixOf exchange.contentType))

def outcomeDenies (out : GroupOutcome) : Bool :=
  out.action = .block || collectedHolds matchString exchange out

theorem pipelineDenies_eq (snap : Option PolicySnapshot) (group : PolicyGroup) :
    pipelineDenies platform matchString snap group exchange = outcomeDenies matchString exchange
        (evaluateGroup platform group exchange.request) := by
  generalize hout : evaluateGroup platform group exchange.request = out
  unfold pipelineDenies outcomeDenies collectedHolds
  rw [hout]
  unfold GroupOutcome.proxyMatch proxyDecisionFromMatch
  by_cases hblock : out.action = .block
  · simp [hblock, PolicyDecision.denies]
  · by_cases hconditions : out.urlRegexes = [] ∧ out.contentTypes = []
    · obtain ⟨hurls, htypes⟩ := hconditions
      by_cases hallow : out.action = .allow
      · simp [hallow, hurls, htypes, PolicyDecision.denies, PolicyDecision.blocksURL,
          PolicyDecision.blocksContentType]
      · simp [hblock, hallow, hurls, htypes]
    · have hsome : (out.urlRegexes.isEmpty && out.contentTypes.isEmpty) = false := by
        simpa [not_and_or] using hconditions
      simp [hblock, hsome, PolicyDecision.denies, PolicyDecision.blocksURL,
        PolicyDecision.blocksContentType]

def inSchedule (rule : GroupRule) : Bool :=
  (rule.schedule.map (·.isActive platform exchange.now)).getD true

theorem outsideSchedule_eq (rule : GroupRule) :
    (rule.schedule.map fun s => !s.isActive platform exchange.now).getD false =
      !inSchedule platform exchange rule := by
  unfold inSchedule
  cases rule.schedule with
  | none | some => rfl

variable {rule : GroupRule}

theorem evaluateRule_of_not_applies (hrule : rule.Normal)
    (happlies : ruleApplies platform exchange rule = false) (index : Nat) (out : GroupOutcome) :
    ∃ out', evaluateRule platform exchange.request index rule out = (out', false) ∧
      out'.action = out.action ∧
      collectedHolds matchString exchange out' = collectedHolds matchString exchange out := by
  have htarget := isEmpty_matchTarget hrule.categories exchange.domain exchange.index
  have hschedule := outsideSchedule_eq platform exchange rule
  simp only [evaluateRule, ProxiedExchange.request, htarget, hschedule]
  cases henabled : rule.enabled with
  | false => exact ⟨out, rfl, rfl, rfl⟩
  | true =>
    cases hcovers : targetCovers rule.target exchange.domain exchange.index with
    | false => exact ⟨out, rfl, rfl, rfl⟩
    | true =>
      cases hactive : inSchedule platform exchange rule with
      | false => exact ⟨_, rfl, rfl, rfl⟩
      | true =>
        have huser : (rule.users.isEmpty || rule.users.contains exchange.user) = false := by
          rw [inSchedule] at hactive
          simpa [ruleApplies, henabled, hcovers, hactive] using happlies
        rw [Bool.or_eq_false_iff] at huser
        have hother : exchange.user ∉ rule.users := by simpa using huser.2
        simp [huser.1, hother]

theorem any_isPrefixOf_eq {types : List Bytes} (htypes : ∀ t ∈ types, t ≠ [])
    (contentType : Bytes) :
    types.any (·.isPrefixOf contentType) =
      (!contentType.isEmpty && types.any (·.isPrefixOf contentType)) := by
  cases contentType with
  | cons b rest => simp
  | nil =>
    simp only [List.isEmpty_nil, Bool.not_true, Bool.false_and, List.any_eq_false]
    intro t ht
    have hne := htypes t ht
    simpa using hne

theorem evaluateRule_of_applies (hrule : rule.Normal)
    (happlies : ruleApplies platform exchange rule = true) (index : Nat) (out : GroupOutcome) :
    ∃ out', evaluateRule platform exchange.request index rule out =
        (out', rule.urlRegexes.isEmpty && rule.blockedContentTypes.isEmpty) ∧
      out'.action = (if rule.urlRegexes.isEmpty && rule.blockedContentTypes.isEmpty
        then rule.action else out.action) ∧
      collectedHolds matchString exchange out' =
        (collectedHolds matchString exchange out ||
          conditionHolds matchString exchange rule) := by
  have htarget := isEmpty_matchTarget hrule.categories exchange.domain exchange.index
  have hschedule := outsideSchedule_eq platform exchange rule
  simp only [ruleApplies, Bool.and_eq_true] at happlies
  obtain ⟨⟨⟨henabled, hcovers⟩, hactive⟩, huser⟩ := happlies
  have huser' : (!rule.users.isEmpty && !rule.users.contains exchange.user) = false := by
    rw [← Bool.not_or, huser]
    rfl
  simp only [evaluateRule, ProxiedExchange.request, htarget, hschedule, inSchedule, henabled,
    hcovers, hactive, huser', ne_eq, reduceCtorEq, not_false_eq_true, decide_true, Bool.and_false,
      Bool.true_and]
  cases hconditions : (rule.urlRegexes.isEmpty && rule.blockedContentTypes.isEmpty) with
  | false =>
    refine ⟨_, rfl, rfl, ?_⟩
    have htypes := any_isPrefixOf_eq hrule.contentTypes exchange.contentType
    simp only [collectedHolds, conditionHolds, GroupOutcome.step]
    rw [htypes]
    cases exchange.contentType.isEmpty with
    | true => simp
    | false => simp [Bool.or_assoc, Bool.or_left_comm]
  | true =>
    refine ⟨_, rfl, rfl, ?_⟩
    simp only [Bool.and_eq_true, List.isEmpty_iff] at hconditions
    simp [collectedHolds, conditionHolds, GroupOutcome.step, hconditions]

variable {group : PolicyGroup}

section

variable (hcategories : ∀ id ∈ group.blockedCategories, id ≠ [])

include hcategories

section

variable (hgateway : ∀ id ∈ exchange.gatewayCategories, id ≠ [])

include hgateway

variable {out : GroupOutcome}

theorem outcomeDenies_evaluateLists (hout : out.action = .none) :
    outcomeDenies matchString exchange (evaluateLists group exchange.request out) =
      (collectedHolds matchString exchange out || listsDeny group exchange) := by
  have hallowed := isEmpty_matchDomainList group.allowedDomains exchange.domain
  have hblocked := isEmpty_matchDomainList group.blockedDomains exchange.domain
  have hlisted := isEmpty_matchCategoryList hcategories exchange.domain exchange.index
  have hselected := isEmpty_matchCategoryList hgateway exchange.domain exchange.index
  unfold listsDeny
  simp only [evaluateLists, ProxiedExchange.request, evaluateBlocked, hallowed, hblocked, hlisted,
    hselected]
  cases group.allowedDomains.any (matchDomain · exchange.domain) with
  | true => simp [outcomeDenies, collectedHolds, GroupOutcome.decide, GroupOutcome.step]
  | false =>
    cases group.blockedDomains.any (matchDomain · exchange.domain) with
    | true => simp [outcomeDenies, GroupOutcome.decide, GroupOutcome.step]
    | false =>
      cases group.blockedCategories.any
          (CategoryIndex.covers exchange.index · exchange.domain) with
      | true => simp [outcomeDenies, GroupOutcome.decide, GroupOutcome.step]
      | false =>
        cases exchange.gatewayCategories.any
            (CategoryIndex.covers exchange.index · exchange.domain) with
        | true => simp [outcomeDenies, GroupOutcome.decide, GroupOutcome.step]
        | false => simp [outcomeDenies, collectedHolds, GroupOutcome.step, hout]

theorem outcomeDenies_evaluateRules {rules : List GroupRule} (hrules : ∀ rule ∈ rules, rule.Normal)
    (index : Nat) (hout : out.action = .none) :
    outcomeDenies matchString exchange
        (match evaluateRules platform exchange.request index rules out with
        | (out, true) => out
        | (out, false) => evaluateLists group exchange.request out) =
      (collectedHolds matchString exchange out ||
        walkDenies platform matchString group exchange rules) := by
  induction rules generalizing index out with
  | nil => exact outcomeDenies_evaluateLists matchString exchange hcategories hgateway hout
  | cons rule rest ih =>
    have hrule := hrules rule List.mem_cons_self
    have hrest : ∀ rule ∈ rest, rule.Normal :=
      fun other hmem => hrules other (List.mem_cons_of_mem rule hmem)
    simp only [evaluateRules, walkDenies]
    cases happlies : ruleApplies platform exchange rule with
    | false =>
      obtain ⟨out', heval, haction, hcollected⟩ :=
        evaluateRule_of_not_applies platform matchString exchange hrule happlies index out
      rw [heval]
      simpa [hcollected] using ih hrest (index + 1) (haction.trans hout)
    | true =>
      obtain ⟨out', heval, haction, hcollected⟩ :=
        evaluateRule_of_applies platform matchString exchange hrule happlies index out
      rw [heval]
      cases hconditions : (rule.urlRegexes.isEmpty && rule.blockedContentTypes.isEmpty) with
      | false =>
        have hblock : rule.action = .block := by
          apply hrule.conditional
          simpa [imp_iff_not_or] using hconditions
        simp only [hconditions] at haction
        simp only [hblock]
        rw [ih hrest (index + 1) (haction.trans hout), hcollected]
        cases conditionHolds matchString exchange rule with
        | true | false => simp
      | true =>
        simp only [hconditions] at haction
        rw [Bool.and_eq_true, List.isEmpty_iff, List.isEmpty_iff] at hconditions
        have hnothing : conditionHolds matchString exchange rule = false := by
          simp [conditionHolds, hconditions]
        rw [hnothing] at hcollected
        simp only [outcomeDenies, haction, hcollected]
        cases hdecides : rule.action with
        | none => exact absurd hdecides hrule.decides
        | allow | block => simp

end

end

theorem pipelineDenies_of_normal (hgroup : group.Normal)
    (hgateway : ∀ id ∈ exchange.gatewayCategories, id ≠ []) (snap : Option PolicySnapshot) :
    pipelineDenies platform matchString snap group exchange =
      walkDenies platform matchString group exchange group.rules := by
  have hundecided : ({} : GroupOutcome).action = .none := rfl
  have hwalk := outcomeDenies_evaluateRules platform matchString exchange
    hgroup.blockedCategories hgateway hgroup.rules 0 hundecided
  rw [pipelineDenies_eq]
  refine hwalk.trans ?_
  simp [collectedHolds]

end Outcomes

/-- For a policy that is accepted, the proxy denies an exchange exactly if the first match
of the plain walk does. -/
theorem pipelineDenies_eq_walkDenies (platform : CheckPlatform)
    (matchString : Bytes → Bytes → Bool) (snap : Option PolicySnapshot)
    {raw group : PolicyGroup} (haccepted : normalizeGroup platform raw = .ok group)
    (selection : Option (Stored (List Bytes))) {exchange : ProxiedExchange}
    (hgateway : exchange.gatewayCategories = loadEnabledCategories selection) :
    pipelineDenies platform.toPlatform matchString snap group exchange =
      walkDenies platform.toPlatform matchString group exchange group.rules := by
  apply pipelineDenies_of_normal
  · exact normal_normalizeGroup haccepted
  · rw [hgateway]
    exact ne_nil_of_loadEnabledCategories selection

def noVideos : PolicyGroup where
  id := utf8 "kids"
  name := utf8 "Kids"
  rules :=
    [{ id := utf8 "videos", enabled := true, action := .block
       target := { domains := [utf8 "site.example"] }
       blockedContentTypes := [utf8 "video/"] },
      { id := utf8 "site", enabled := true, action := .allow
        target := { domains := [utf8 "site.example"] } }]

def videoExchange : ProxiedExchange where
  domain := utf8 "www.site.example"
  user := []
  now := 0
  index := none
  gatewayCategories := []
  requestURL := utf8 "http://www.site.example/clip"
  contentType := utf8 "video/mp4"

theorem pipelineDenies_noVideos :
    pipelineDenies compilingPlatform.toPlatform (fun _ _ => false) none noVideos videoExchange =
        walkDenies compilingPlatform.toPlatform (fun _ _ => false) noVideos videoExchange
          noVideos.rules ∧
      pipelineDenies compilingPlatform.toPlatform (fun _ _ => false) none noVideos videoExchange =
        true := by
  have haccepted : normalizeGroup compilingPlatform noVideos = .ok noVideos := rfl
  exact ⟨pipelineDenies_eq_walkDenies compilingPlatform _ none haccepted none rfl, by decide⟩

end GateSentry.Proxy
