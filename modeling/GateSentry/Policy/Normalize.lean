import GateSentry.Foundation.Folds
import GateSentry.Policy.Stored

/-!
# Policies as they are accepted

`NormalizeGroup` checks a policy before it is stored and returns its canonical form.
-/

namespace GateSentry.Policy

open Foundation ByteText Calendar

/-- What a check calls in Go's library: whether a pattern compiles, the error for a zone that
is not known, and fresh random ids. -/
structure CheckPlatform extends Platform where
  compiles : Bytes → Bool
  locationError : Bytes → Bytes
  newGroupID : Nat → Bytes

def checkPlatform (compiles : Bytes → Bool) : CheckPlatform where
  toPlatform := plainPlatform
  compiles := compiles
  locationError _ := []
  newGroupID _ := []

def compilingPlatform : CheckPlatform := checkPlatform fun _ => true

/-! ## Entries -/

def afterFirst (separator : Bytes) : Bytes → Option Bytes
  | [] => none
  | b :: rest =>
    if separator.isPrefixOf (b :: rest) then some ((b :: rest).drop separator.length)
    else afterFirst separator rest

def collect (normalize : Bytes → Except Bytes Bytes) (raw : List Bytes) :
    Except Bytes (List Bytes) :=
  raw.foldlM (fun out entry => do
    let value ← normalize entry
    return if value.isEmpty || out.contains value then out else out ++ [value]) []

section Entries

variable (platform : CheckPlatform)

def normalizeDomainPattern (raw : Bytes) : Except Bytes Bytes :=
  let pattern := toLower (trimSpace raw)
  if pattern.isEmpty then .ok []
  else
    let pattern := (afterFirst (utf8 "://") pattern).getD pattern
    let pattern := pattern.takeWhile fun b => !(utf8 "/?#").contains b
    let pattern :=
      match Net.splitHostPort pattern with
      | .ok (host, _) => host
      | .error _ => pattern
    let pattern := trimSuffix pattern (utf8 ".")
    let host := trimPrefix pattern (utf8 "*.")
    if host.isEmpty || host.any (utf8 " *\t").contains then
      .error (platform.quote (trimSpace raw) ++ utf8 " is not a domain")
    else if (utf8 "*.").isPrefixOf pattern then .ok (utf8 "*." ++ host)
    else .ok host

def normalizeDomainList (label : Bytes) (raw : List Bytes) : Except Bytes (List Bytes) :=
  collect (fun entry => (normalizeDomainPattern platform entry).mapError fun err =>
    label ++ utf8 ": " ++ err) raw

def normalizeUsers (raw : List Bytes) : Except Bytes (List Bytes) :=
  collect (fun entry =>
    let user := trimSpace entry
    if isAddressLike user then
      .error (platform.quote user ++
        utf8 " is an address, not a proxy user; assign the device instead")
    else .ok user) raw

def isUnknownCategory (raw : Bytes) : Bool :=
  let id := toLower (trimSpace raw)
  !id.isEmpty && (builtInCategories.lookup id).isNone

def checkCategories (ids : List Bytes) : Except Bytes (List Bytes) :=
  match normalizeCategories ids with
  | some ids => .ok ids
  | none => .error (utf8 "unknown domain category " ++
      platform.quote ((ids.find? isUnknownCategory).getD []))

end Entries

/-! ## Schedules -/

section Schedules

variable (platform : CheckPlatform)

def validateWindow (index : Nat) (window : TimeWindow) : Except Bytes Unit :=
  let label := utf8 "window " ++ utf8 (toString index) ++ utf8 ": "
  match parseTimeOfDay window.fromTime, parseTimeOfDay window.toTime with
  | none, _ => .error (label ++ utf8 "from " ++ platform.quote window.fromTime ++
      utf8 " is not HH:MM")
  | some _, none => .error (label ++ utf8 "to " ++ platform.quote window.toTime ++
      utf8 " is not HH:MM")
  | some fromMin, some toMin =>
    if fromMin = toMin then .error (label ++ utf8 "from and to are identical") else .ok ()

def Schedule.validate (schedule : Schedule) : Except Bytes Unit := do
  if schedule.windows.isEmpty then
    throw (utf8 "schedule needs at least one time window")
  if !schedule.timezone.isEmpty && (platform.loadLocation schedule.timezone).isNone then
    throw (utf8 "schedule timezone " ++ platform.quote schedule.timezone ++ utf8 ": " ++
      platform.locationError schedule.timezone)
  for (window, index) in schedule.windows.zipIdx do
    validateWindow platform index window
  for (weekday, index) in schedule.weekdays.zipIdx do
    if weekday < 0 || 6 < weekday then
      throw (utf8 "weekday " ++ utf8 (toString index) ++ utf8 " is out of range (0-6)")

end Schedules

/-! ## Rules -/

section Rules

variable (platform : CheckPlatform)

def ruleNumber (index : Nat) : Bytes := utf8 "rule " ++ utf8 (toString (index + 1))

def inRule {α : Type} (index : Nat) (result : Except Bytes α) : Except Bytes α :=
  result.mapError fun err => ruleNumber index ++ utf8 ": " ++ err

def normalizeURLRegexes (index : Nat) (raw : List Bytes) : Except Bytes (List Bytes) :=
  let patterns := (raw.map trimSpace).filter fun pattern => !pattern.isEmpty
  match patterns.find? fun pattern => !platform.compiles pattern with
  | some pattern => .error (ruleNumber index ++ utf8 " URL pattern " ++ platform.quote pattern ++
      utf8 " is not a valid regular expression")
  | none => .ok patterns

def normalizeContentTypes (raw : List Bytes) : List Bytes :=
  (raw.map fun contentType => toLower (trimSpace contentType)).filter fun contentType =>
    !contentType.isEmpty

def normalizeTarget (allTraffic : Bool) (domains categories : List Bytes) : RuleTarget :=
  if allTraffic then { allTraffic := true } else { domains, categories }

/-- One turn of the loop of `NormalizeGroupRules`. -/
def normalizeRule (index : Nat) (rule : GroupRule) : Except Bytes GroupRule := do
  if rule.action = .none then
    throw (ruleNumber index ++ utf8 " needs an allow or block action")
  let domains ← normalizeDomainList platform (ruleNumber index) rule.target.domains
  let categories ← inRule index (checkCategories platform rule.target.categories)
  let target := normalizeTarget rule.target.allTraffic domains categories
  if rule.enabled && !target.allTraffic && target.domains.isEmpty &&
      target.categories.isEmpty then
    throw (ruleNumber index ++ utf8 " needs a target: all traffic, domains, or categories")
  let urlRegexes ← normalizeURLRegexes platform index rule.urlRegexes
  let blockedContentTypes := normalizeContentTypes rule.blockedContentTypes
  if !(urlRegexes.isEmpty && blockedContentTypes.isEmpty) && rule.action ≠ .block then
    throw (ruleNumber index ++
      utf8 ": URL and content conditions narrow a block; an allow rule cannot carry them")
  let users ← inRule index (normalizeUsers platform rule.users)
  let _ ← inRule index ((rule.schedule.map (·.validate platform)).getD (.ok ()))
  return { rule with
    id := if rule.id.isEmpty then platform.newGroupID index else rule.id
    name := trimSpace rule.name
    target, urlRegexes, blockedContentTypes, users }

def normalizeGroupRules (rules : List GroupRule) : Except Bytes (List GroupRule) :=
  rules.zipIdx.mapM fun (rule, index) => normalizeRule platform index rule

def normalizeGroup (group : PolicyGroup) : Except Bytes PolicyGroup := do
  let name := trimSpace group.name
  if name.isEmpty then throw (utf8 "policy needs a name")
  let blockedCategories ← checkCategories platform group.blockedCategories
  let blockedDomains ← normalizeDomainList platform (utf8 "blocked domains") group.blockedDomains
  let allowedDomains ← normalizeDomainList platform (utf8 "allowed domains") group.allowedDomains
  let users ← normalizeUsers platform group.users
  let rules ← normalizeGroupRules platform group.rules
  return { group with
    name, description := trimSpace group.description, blockedCategories, blockedDomains
    allowedDomains, users, rules }

end Rules

/-! ## What is accepted -/

structure GroupRule.Normal (rule : GroupRule) : Prop where
  decides : rule.action ≠ .none
  conditional : rule.urlRegexes ≠ [] ∨ rule.blockedContentTypes ≠ [] → rule.action = .block
  categories : ∀ id ∈ rule.target.categories, id ≠ []
  contentTypes : ∀ contentType ∈ rule.blockedContentTypes, contentType ≠ []

structure PolicyGroup.Normal (group : PolicyGroup) : Prop where
  rules : ∀ rule ∈ group.rules, rule.Normal
  blockedCategories : ∀ id ∈ group.blockedCategories, id ≠ []

variable {ids selected : List Bytes}

theorem ne_nil_of_normalizeCategories (h : normalizeCategories ids = some selected) :
    ∀ id ∈ selected, id ≠ [] := by
  refine @foldlM_holds _ _ (fun out => ∀ id ∈ out, id ≠ []) _ ids ?_ [] selected (by simp) h
  intro raw _ out next hout hnext
  dsimp only at hnext
  split at hnext
  · cases hnext
    exact hout
  · next hid =>
    split at hnext
    · cases hnext
    · split at hnext
      · cases hnext
        exact hout
      · cases hnext
        intro id hmem
        rcases List.mem_append.mp hmem with hold | hnew
        · exact hout id hold
        · rw [List.mem_singleton.mp hnew]
          simpa using hid

variable {platform : CheckPlatform}

theorem ne_nil_of_checkCategories (h : checkCategories platform ids = .ok selected) :
    ∀ id ∈ selected, id ≠ [] := by
  unfold checkCategories at h
  cases hids : normalizeCategories ids with
  | none => simp [hids] at h
  | some out =>
    simp only [hids, Except.ok.injEq] at h
    subst h
    exact ne_nil_of_normalizeCategories hids

theorem ne_nil_of_loadEnabledCategories (raw : Option (Stored (List Bytes))) :
    ∀ id ∈ loadEnabledCategories raw, id ≠ [] := by
  unfold loadEnabledCategories
  cases hread : readCategories raw with
  | none => simp
  | some selected =>
    cases raw with
    | none => cases hread
    | some stored =>
      cases stored with
      | empty =>
        cases hread
        simp
      | malformed => cases hread
      | encoded ids => exact ne_nil_of_normalizeCategories hread

variable {rule accepted : GroupRule}

theorem ok_normalizeRule {index : Nat} (h : normalizeRule platform index rule = .ok accepted) :
    ∃ domains categories urlRegexes users,
      normalizeDomainList platform (ruleNumber index) rule.target.domains = .ok domains ∧
      checkCategories platform rule.target.categories = .ok categories ∧
      normalizeURLRegexes platform index rule.urlRegexes = .ok urlRegexes ∧
      normalizeUsers platform rule.users = .ok users ∧
      rule.action ≠ .none ∧
      (urlRegexes ≠ [] ∨ normalizeContentTypes rule.blockedContentTypes ≠ [] →
        rule.action = .block) ∧
      accepted = { rule with
        id := if rule.id.isEmpty then platform.newGroupID index else rule.id
        name := trimSpace rule.name
        target := normalizeTarget rule.target.allTraffic domains categories
        urlRegexes, users
        blockedContentTypes := normalizeContentTypes rule.blockedContentTypes } := by
  unfold normalizeRule at h
  dsimp only at h
  split at h
  · cases h
  · next haction =>
    obtain ⟨domains, hdomains, h⟩ := ok_of_bind h
    obtain ⟨categories, hcategories, h⟩ := ok_of_bind h
    split at h
    · cases h
    · obtain ⟨urlRegexes, hurls, h⟩ := ok_of_bind h
      split at h
      · cases h
      · next hconditions =>
        obtain ⟨users, husers, h⟩ := ok_of_bind h
        obtain ⟨-, -, h⟩ := ok_of_bind h
        cases h
        refine ⟨domains, categories, urlRegexes, users, hdomains, ok_of_mapError hcategories,
          hurls, ok_of_mapError husers, haction, ?_, rfl⟩
        intro hconditional
        by_contra hblock
        apply hconditions
        rcases hconditional with hurls | htypes
        · simp [hurls, hblock]
        · simp [htypes, hblock]

theorem normal_normalizeRule {index : Nat} (h : normalizeRule platform index rule = .ok accepted) :
    accepted.Normal := by
  obtain ⟨domains, categories, urlRegexes, users, -, hcategories, -, -, haction, hconditional,
    rfl⟩ := ok_normalizeRule h
  constructor
  · exact haction
  · exact hconditional
  · intro id hmem
    unfold normalizeTarget at hmem
    dsimp only at hmem
    split at hmem
    · cases hmem
    · exact ne_nil_of_checkCategories hcategories id hmem
  · intro contentType hmem
    have hkept := (List.mem_filter.mp hmem).2
    simpa using hkept

variable {group accepted : PolicyGroup}

section

variable (h : normalizeGroup platform group = .ok accepted)

include h

theorem ok_normalizeGroup :
    ∃ blockedCategories blockedDomains allowedDomains users rules,
      checkCategories platform group.blockedCategories = .ok blockedCategories ∧
      normalizeDomainList platform (utf8 "blocked domains") group.blockedDomains =
        .ok blockedDomains ∧
      normalizeDomainList platform (utf8 "allowed domains") group.allowedDomains =
        .ok allowedDomains ∧
      normalizeUsers platform group.users = .ok users ∧
      normalizeGroupRules platform group.rules = .ok rules ∧
      accepted = { group with
        name := trimSpace group.name, description := trimSpace group.description
        blockedCategories, blockedDomains, allowedDomains, users, rules } := by
  unfold normalizeGroup at h
  dsimp only at h
  split at h
  · cases h
  · obtain ⟨blockedCategories, hcategories, h⟩ := ok_of_bind h
    obtain ⟨blockedDomains, hblocked, h⟩ := ok_of_bind h
    obtain ⟨allowedDomains, hallowed, h⟩ := ok_of_bind h
    obtain ⟨users, husers, h⟩ := ok_of_bind h
    obtain ⟨rules, hrules, h⟩ := ok_of_bind h
    cases h
    exact ⟨blockedCategories, blockedDomains, allowedDomains, users, rules, hcategories, hblocked,
      hallowed, husers, hrules, rfl⟩

theorem id_normalizeGroup : accepted.id = group.id := by
  obtain ⟨categories, blocked, allowed, users, rules, -, -, -, -, -, rfl⟩ := ok_normalizeGroup h
  rfl

theorem normal_normalizeGroup : accepted.Normal := by
  obtain ⟨blockedCategories, -, -, -, rules, hcategories, -, -, -, hrules, rfl⟩ :=
    ok_normalizeGroup h
  constructor
  · intro rule hmem
    obtain ⟨⟨raw, index⟩, -, hrule⟩ := exists_of_mem_mapM hrules hmem
    exact normal_normalizeRule hrule
  · exact ne_nil_of_checkCategories hcategories

end

/-! ## Lists of entries -/

variable {normalize : Bytes → Except Bytes Bytes} {raw out kept : List Bytes}

theorem mem_of_foldlM_collect
    (h : raw.foldlM (fun out entry => do
      let value ← normalize entry
      return if value.isEmpty || out.contains value then out else out ++ [value]) out =
        .ok kept) {value : Bytes} :
    value ∈ kept ↔ value ∈ out ∨ value ≠ [] ∧ ∃ entry ∈ raw, normalize entry = .ok value := by
  induction raw generalizing out with
  | nil =>
    cases h
    simp
  | cons entry rest ih =>
    obtain ⟨next, hnext, hrest⟩ := ok_of_bind h
    obtain ⟨first, hfirst, hnext⟩ := ok_of_bind hnext
    cases hnext
    rw [ih hrest]
    have hstep : value ∈ (if first.isEmpty || out.contains first then out else out ++ [first]) ↔
        value ∈ out ∨ value ≠ [] ∧ value = first := by
      split
      · next hskip => grind
      · next hadd =>
        rw [Bool.or_eq_true] at hadd
        grind
    have hhead : normalize entry = .ok value ↔ value = first := by
      rw [hfirst, Except.ok.injEq, eq_comm]
    simp only [hstep, List.mem_cons, exists_eq_or_imp, hhead, and_or_left, or_assoc]

theorem mem_of_collect {raw kept : List Bytes} (h : collect normalize raw = .ok kept)
    {value : Bytes} : value ∈ kept ↔ value ≠ [] ∧ ∃ entry ∈ raw, normalize entry = .ok value := by
  rw [mem_of_foldlM_collect h]
  simp

theorem exists_ok_of_foldlM_collect
    (h : raw.foldlM (fun out entry => do
      let value ← normalize entry
      return if value.isEmpty || out.contains value then out else out ++ [value]) out =
        .ok kept) {entry : Bytes} (hentry : entry ∈ raw) :
    ∃ value, normalize entry = .ok value := by
  induction raw generalizing out with
  | nil => cases hentry
  | cons first rest ih =>
    obtain ⟨next, hnext, hrest⟩ := ok_of_bind h
    rcases List.mem_cons.mp hentry with rfl | hother
    · obtain ⟨value, hvalue, -⟩ := ok_of_bind hnext
      exact ⟨value, hvalue⟩
    · exact ih hrest hother

theorem mem_of_normalizeUsers {raw users : List Bytes}
    (h : normalizeUsers platform raw = .ok users) {user : Bytes} :
    user ∈ users ↔ user ∈ (raw.map trimSpace).filter fun user => !user.isEmpty := by
  rw [mem_of_collect h, List.mem_filter, List.mem_map]
  constructor
  · rintro ⟨hne, entry, hentry, hok⟩
    dsimp only at hok
    split at hok
    · cases hok
    · cases hok
      exact ⟨⟨entry, hentry, rfl⟩, by simpa using hne⟩
  · rintro ⟨⟨entry, hentry, rfl⟩, hne⟩
    obtain ⟨value, hvalue⟩ := exists_ok_of_foldlM_collect h hentry
    refine ⟨by simpa using hne, entry, hentry, ?_⟩
    dsimp only at hvalue ⊢
    split at hvalue
    · cases hvalue
    · next haddress => rw [if_neg haddress]

end GateSentry.Policy
