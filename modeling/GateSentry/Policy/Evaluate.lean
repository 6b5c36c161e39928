import GateSentry.Foundation.Folds
import GateSentry.Foundation.Net
import GateSentry.Policy.Types

/-!
# The decision for one request

What a rule applies to, and when; `evaluateGroup` walks the rules and lists of one policy;
`evaluate` puts the exceptions before it and tells it whether the policy is paused.
-/

namespace GateSentry.Policy

open Foundation ByteText Calendar

/-! ## Domains -/

def canonicalDomain (domain : Bytes) : Bytes :=
  trimSuffix (toLower (trimSpace domain)) (utf8 ".")

def matchDomain (pattern domain : Bytes) : Bool :=
  let pattern := toLower (trimSpace pattern)
  let domain := canonicalDomain domain
  if pattern.isEmpty || domain.isEmpty then false
  else if (utf8 "*.").isPrefixOf pattern then (pattern.drop 1).isSuffixOf domain
  else domain = pattern || (utf8 "." ++ pattern).isSuffixOf domain

def matchDomainList (patterns : List Bytes) (domain : Bytes) : Bytes :=
  (patterns.find? (matchDomain · domain)).getD []

/-! ## Categories -/

structure CategoryIndex where
  sets : Dict Bytes (List Bytes)

def normalizeCategoryDomain (domain : Bytes) : Bytes :=
  trimSuffix (trimPrefix (toLower (trimSpace domain)) (utf8 "*.")) (utf8 ".")

def parentDomains : Bytes → List Bytes
  | [] => []
  | b :: rest => if b = Net.dot then rest :: parentDomains rest else parentDomains rest

/-- `Contains`: the category lists the domain or one above it; an index that is
not there lists nothing. -/
def CategoryIndex.covers (index : Option CategoryIndex) (categoryID domain : Bytes) : Bool :=
  match index with
  | none => false
  | some index =>
    let set := (index.sets.lookup categoryID).getD []
    let domain := normalizeCategoryDomain domain
    (domain :: parentDomains domain).any fun candidate =>
      !candidate.isEmpty && set.contains candidate

def matchCategoryList (ids : List Bytes) (domain : Bytes) (index : Option CategoryIndex) :
    Bytes :=
  (ids.find? (CategoryIndex.covers index · domain)).getD []

def matchTarget (target : RuleTarget) (domain : Bytes) (index : Option CategoryIndex) :
    Bytes :=
  if target.allTraffic then utf8 "*"
  else
    let pattern := matchDomainList target.domains domain
    if !pattern.isEmpty then pattern
    else
      let id := matchCategoryList target.categories domain index
      if !id.isEmpty then utf8 "category:" ++ id else []

/-! ## Schedules -/

def atoi (digits : Bytes) : Option Nat :=
  if digits.all fun b => 48 ≤ b && b ≤ 57 then
    some (digits.foldl (fun n b => n * 10 + (b.toNat - 48)) 0)
  else none

def parseTimeOfDay (s : Bytes) : Option Int :=
  let s := trimSpace s
  if s.length ≠ 5 || s.getD 2 0 ≠ Net.colon then none
  else
    match atoi (s.take 2), atoi (s.drop 3) with
    | some h, some m => if 23 < h || 59 < m then none else some (h * 60 + m)
    | _, _ => none

def Schedule.isWeekdayActive (schedule : Schedule) (weekday : Int) : Bool :=
  schedule.weekdays.isEmpty || schedule.weekdays.contains weekday

def Schedule.isWindowActive (schedule : Schedule) (weekday timeOfDay : Int)
    (window : TimeWindow) : Bool :=
  match parseTimeOfDay window.fromTime, parseTimeOfDay window.toTime with
  | some fromMin, some toMin =>
    if fromMin ≤ toMin then
      fromMin ≤ timeOfDay && timeOfDay < toMin && schedule.isWeekdayActive weekday
    else if fromMin ≤ timeOfDay then schedule.isWeekdayActive weekday
    else timeOfDay < toMin && schedule.isWeekdayActive ((weekday + 6) % 7)
  | _, _ => false

def Schedule.location (platform : Platform) (schedule : Schedule) : Location :=
  if schedule.timezone.isEmpty then utc
  else (platform.loadLocation schedule.timezone).getD utc

def Schedule.isActive (platform : Platform) (schedule : Schedule) (now : Time) : Bool :=
  let location := schedule.location platform
  schedule.windows.any
    (schedule.isWindowActive (weekday location now) (minuteOfDay location now))

def TimeWindow.Contains (window : TimeWindow) (day localMinute : Int) : Prop :=
  ∃ fromMin toMin, parseTimeOfDay window.fromTime = some fromMin ∧
    parseTimeOfDay window.toTime = some toMin ∧
    day * 1440 + fromMin ≤ localMinute ∧
    localMinute < (if toMin < fromMin then day + 1 else day) * 1440 + toMin

theorem parseTimeOfDay_bounds {s : Bytes} {minutes : Int} (h : parseTimeOfDay s = some minutes) :
    0 ≤ minutes ∧ minutes < 1440 := by
  unfold parseTimeOfDay at h
  dsimp only at h
  split at h
  · cases h
  · split at h
    · split at h
      · cases h
      · rename_i hours mins _ _ hsmall
        cases h
        simp only [Bool.or_eq_true, decide_eq_true_eq] at hsmall
        omega
    · cases h

theorem schedule_isActive_iff (platform : Platform) (schedule : Schedule) (now : Time) :
    schedule.isActive platform now = true ↔ ∃ window ∈ schedule.windows, ∃ day : Int,
        schedule.isWeekdayActive ((day + 4) % 7) = true ∧
          window.Contains day (localSeconds (schedule.location platform) now / 60) := by
  change schedule.windows.any _ = true ↔ _
  rw [List.any_eq_true]
  refine exists_congr fun window => and_congr_right fun _ => ?_
  unfold Schedule.isWindowActive TimeWindow.Contains weekday minuteOfDay
  generalize localSeconds (schedule.location platform) now = seconds
  cases hfrom : parseTimeOfDay window.fromTime with
  | none => simp
  | some fromMin =>
    cases hto : parseTimeOfDay window.toTime with
    | none => simp
    | some toMin =>
      have hfromMin := parseTimeOfDay_bounds hfrom
      have htoMin := parseTimeOfDay_bounds hto
      -- a window that has not ended began today, or yesterday if it runs past midnight
      have hday (day : Int) : (day * 1440 + fromMin ≤ seconds / 60 ∧
          seconds / 60 < (if toMin < fromMin then day + 1 else day) * 1440 + toMin) ↔
          day = seconds / 86400 ∧ fromMin ≤ seconds % 86400 / 60 ∧
            (toMin < fromMin ∨ seconds % 86400 / 60 < toMin) ∨
          day = seconds / 86400 - 1 ∧ toMin < fromMin ∧ seconds % 86400 / 60 < toMin := by
        split <;> omega
      have hyesterday : (seconds / 86400 - 1 + 4) % 7 = ((seconds / 86400 + 4) % 7 + 6) % 7 := by
        omega
      simp only [Option.some.injEq, exists_and_left, exists_eq_left', hday, and_or_left, exists_or,
        and_left_comm, exists_eq_left, hyesterday]
      generalize schedule.isWeekdayActive ((seconds / 86400 + 4) % 7) = today
      generalize schedule.isWeekdayActive (((seconds / 86400 + 4) % 7 + 6) % 7) = yesterday
      cases today <;> cases yesterday <;> split_ifs <;> simp <;> omega

/-! ## One policy -/

structure EvalRequest where
  domain : Bytes
  user : Bytes
  now : Time
  layer : DecisionLayer
  paused : Bool
  index : Option CategoryIndex
  gatewayCategories : List Bytes

structure TraceStep where
  stage : Bytes
  applied : Bool := false
  action : PolicyAction := .none
  detail : Bytes

structure GroupOutcome where
  action : PolicyAction := .none
  ruleID : Bytes := []
  matched : Bytes := []
  reason : Bytes := []
  urlRegexes : List Bytes := []
  contentTypes : List Bytes := []
  conditionRuleID : Bytes := []
  conditionReason : Bytes := []
  proxyOnly : List Bytes := []
  trace : List TraceStep := []

def GroupOutcome.step (out : GroupOutcome) (step : TraceStep) : GroupOutcome :=
  { out with trace := out.trace ++ [step] }

def GroupOutcome.decide (out : GroupOutcome) (action : PolicyAction) (matched reason : Bytes) :
    GroupOutcome :=
  { out with action, matched, reason }

def conditionURL : Bytes := utf8 "url_regex"
def conditionContentType : Bytes := utf8 "content_type"
def conditionUser : Bytes := utf8 "user"

def ruleConditionsNeedingProxy (rule : GroupRule) : List Bytes :=
  (if rule.urlRegexes.isEmpty then [] else [conditionURL]) ++
  (if rule.blockedContentTypes.isEmpty then [] else [conditionContentType]) ++
  (if rule.users.isEmpty then [] else [conditionUser])

def joinComma : List Bytes → Bytes
  | [] => []
  | [value] => value
  | value :: rest => value ++ utf8 ", " ++ joinComma rest

def ruleLabel (platform : Platform) (rule : GroupRule) (index : Nat) : Bytes :=
  if rule.name.isEmpty then utf8 "#" ++ utf8 (toString (index + 1))
  else platform.quote rule.name

/-- One turn of the loop over the rules: the outcome so far, and whether the rule
has decided. -/
def evaluateRule (platform : Platform) (req : EvalRequest) (index : Nat) (rule : GroupRule)
    (out : GroupOutcome) : GroupOutcome × Bool :=
  let label := ruleLabel platform rule index
  let proxy := req.layer ≠ .dns
  let matched := matchTarget rule.target req.domain req.index
  let conditions := ruleConditionsNeedingProxy rule
  if !rule.enabled || matched.isEmpty then (out, false)
  else if (rule.schedule.map fun s => !s.isActive platform req.now).getD false then
    (out.step { stage := utf8 "rule", detail := label ++ utf8 ": outside its schedule" }, false)
  else if rule.action = .block && req.paused then
    (out.step { stage := utf8 "rule", detail := label ++ utf8 ": paused" }, false)
  else if !proxy && !conditions.isEmpty then
    ({ out with proxyOnly := conditions.foldl appendUnique out.proxyOnly }.step
      { stage := utf8 "rule",
        detail := label ++ utf8 ": decided by the proxy (" ++ joinComma conditions ++
          utf8 ")" }, false)
  else if proxy && !rule.users.isEmpty && !rule.users.contains req.user then (out, false)
  else if proxy && !(rule.urlRegexes.isEmpty && rule.blockedContentTypes.isEmpty) then
    let first := out.conditionRuleID.isEmpty
    ({ out with
        urlRegexes := out.urlRegexes ++ rule.urlRegexes
        contentTypes := out.contentTypes ++ rule.blockedContentTypes
        conditionRuleID := if first then rule.id else out.conditionRuleID
        conditionReason := if first then utf8 "rule " ++ label else out.conditionReason }.step
      { stage := utf8 "rule", applied := true, action := .block,
        detail := label ++ utf8 ": blocks matching URLs and response types" }, false)
  else
    ({ out with
        action := rule.action, ruleID := rule.id, matched
        reason := utf8 "rule " ++ label }.step
      { stage := utf8 "rule", applied := true, action := rule.action,
        detail := label ++ utf8 " matched " ++ matched }, true)

def evaluateRules (platform : Platform) (req : EvalRequest) :
    Nat → List GroupRule → GroupOutcome → GroupOutcome × Bool
  | _, [], out => (out, false)
  | index, rule :: rest, out =>
    match evaluateRule platform req index rule out with
    | (out, true) => (out, true)
    | (out, false) => evaluateRules platform req (index + 1) rest out

def evaluateBlocked (stage matched prefixed reason : Bytes) (paused : Bool)
    (out : GroupOutcome) : GroupOutcome × Bool :=
  if matched.isEmpty then (out, false)
  else if paused then (out.step { stage, detail := matched ++ utf8 ": paused" }, false)
  else
    ((out.decide .block (prefixed ++ matched) (reason ++ matched)).step
      { stage, applied := true, action := .block, detail := matched }, true)

def evaluateLists (group : PolicyGroup) (req : EvalRequest) (out : GroupOutcome) :
    GroupOutcome :=
  let allowed := matchDomainList group.allowedDomains req.domain
  if !allowed.isEmpty then
    (out.decide .allow allowed (utf8 "allowed domain " ++ allowed)).step
      { stage := utf8 "allowed_domains", applied := true, action := .allow,
        detail := allowed }
  else
    match evaluateBlocked (utf8 "blocked_domains")
        (matchDomainList group.blockedDomains req.domain) [] (utf8 "blocked domain ")
        req.paused out with
    | (out, true) => out
    | (out, false) =>
      match evaluateBlocked (utf8 "blocked_categories")
          (matchCategoryList group.blockedCategories req.domain req.index)
          (utf8 "category:") (utf8 "blocked category ") req.paused out with
      | (out, true) => out
      | (out, false) =>
        match evaluateBlocked (utf8 "gateway_categories")
            (matchCategoryList req.gatewayCategories req.domain req.index)
            (utf8 "category:") (utf8 "gateway category ") false out with
        | (out, true) => out
        | (out, false) =>
          out.step { stage := utf8 "policy",
                     detail := utf8 "nothing in the policy covers this domain" }

def evaluateGroup (platform : Platform) (group : PolicyGroup) (req : EvalRequest) :
    GroupOutcome :=
  match evaluateRules platform req 0 group.rules {} with
  | (out, true) => out
  | (out, false) => evaluateLists group req out

/-! ## Exceptions and pauses -/

def activeExceptions (exceptions : List Exception) (now : Time) : List Exception :=
  exceptions.filter fun e => e.active && now < e.expiresAt

def pausesActiveAt (pauses : List Pause) (now : Time) : List Pause :=
  pauses.filter fun p => p.active && now < p.untilTime

def evaluateExceptionIn (identity : Identity) (domain : Bytes) (exceptions : List Exception) :
    Option Exception :=
  exceptions.find? (fun e =>
    e.scope = .device && e.deviceID = identity.deviceID && matchDomain e.domain domain) <|>
  exceptions.find? (fun e =>
    e.scope = .group && e.groupID = identity.groupID && matchDomain e.domain domain) <|>
  exceptions.find? (fun e => e.scope = .installation && matchDomain e.domain domain)

def evaluatePauseIn (identity : Identity) (pauses : List Pause) : Option Pause :=
  pauses.find? (fun p => p.scope = .device && p.deviceID = identity.deviceID) <|>
  pauses.find? (fun p => p.scope = .group && p.groupID = identity.groupID) <|>
  pauses.find? (fun p => p.scope = .installation)

/-! ## Decisions -/

structure EvalContext where
  snap : PolicySnapshot
  exceptions : List Exception
  pauses : List Pause
  now : Time
  index : Option CategoryIndex
  gatewayCategories : List Bytes

def PolicySnapshot.groupOf (snap : PolicySnapshot) (groupID : Bytes) : PolicyGroup :=
  (snap.groups.lookup groupID).getD ((snap.groups.lookup defaultGroupID).getD default)

def evaluate (platform : Platform) (identity : Identity) (domain : Bytes)
    (layer : DecisionLayer) (ctx : EvalContext) : GroupOutcome × PolicyGroup :=
  let domain := canonicalDomain domain
  let group := ctx.snap.groupOf identity.groupID
  match evaluateExceptionIn identity domain ctx.exceptions with
  | some e =>
    ({ action := .allow, matched := e.domain
       reason := utf8 "exception (" ++ e.scope.text ++ utf8 ")"
       trace := [{ stage := utf8 "exception", applied := true, action := .allow
                   detail := e.scope.text ++ utf8 " exception for " ++ e.domain }] },
      group)
  | none =>
    let pause := evaluatePauseIn identity ctx.pauses
    let out := evaluateGroup platform group {
      domain, user := identity.authUser, now := ctx.now, layer, paused := pause.isSome
      index := ctx.index, gatewayCategories := ctx.gatewayCategories }
    match pause with
    | none => (out, group)
    | some pause =>
      if out.action ≠ .block && out.reason.isEmpty &&
          out.trace.any fun step => (utf8 ": paused").isSuffixOf step.detail then
        ({ out with reason := utf8 "paused: " ++ pause.scope.text }, group)
      else (out, group)

def evaluateDNSIn (platform : Platform) (identity : Identity) (domain : Bytes)
    (ctx : EvalContext) : DNSDecision :=
  let (out, group) := evaluate platform identity domain .dns ctx
  { action := out.action, groupID := group.id, matchedDomain := out.matched
    ruleID := out.ruleID, proxyOnly := out.proxyOnly, safeSearch := group.safeSearch
    reason := out.reason }

def GroupOutcome.proxyMatch (out : GroupOutcome) (group : PolicyGroup) : ProxyMatch :=
  let result : ProxyMatch :=
    { groupID := group.id, ruleID := out.ruleID, matchedDomain := out.matched
      reason := out.reason }
  if out.action = .block then { result with isMatched := true, shouldBlock := true }
  else if !(out.urlRegexes.isEmpty && out.contentTypes.isEmpty) then
    { result with
      isMatched := true, shouldMITM := true, blockURLRegexes := out.urlRegexes
      blockContentTypes := out.contentTypes, ruleID := out.conditionRuleID
      reason := out.conditionReason, allowed := out.action = .allow }
  else if out.action = .allow then { result with isMatched := true, allowed := true }
  else result

def evaluateProxyIn (platform : Platform) (identity : Identity) (domain : Bytes)
    (ctx : EvalContext) : ProxyMatch :=
  let (out, group) := evaluate platform identity domain .explicitProxy ctx
  out.proxyMatch group

end GateSentry.Policy
