import GateSentry.Policy.Normalize

/-!
# The retired rules

`legacy_rules.go` and `migration.go`: the records of the retired rule store and the labels
of devices become policies.
-/

namespace GateSentry.Policy

open Foundation ByteText Calendar

/-! ## Rules -/

structure LegacyTimeRestriction where
  fromTime : Bytes
  toTime : Bytes

structure LegacyRule where
  id : Bytes := []
  name : Bytes := []
  enabled : Bool := false
  domain : Bytes := []
  action : Bytes := []
  mitmAction : Bytes := []
  blockType : Bytes := []
  blockedContentTypes : List Bytes := []
  urlRegexPatterns : List Bytes := []
  timeRestriction : Option LegacyTimeRestriction := none
  users : List Bytes := []
  description : Bytes := []

def decodeLegacyRules : Stored (List LegacyRule) → Except ReadError (List LegacyRule)
  | .empty => .ok []
  | .malformed => .error .parse
  | .encoded rules => .ok rules

def mitmActionEnableV1 : Bytes := utf8 "enable"

def policyAction (text : Bytes) : Option PolicyAction :=
  if text = utf8 "allow" then some .allow
  else if text = utf8 "block" then some .block
  else none

structure LegacyConditions where
  urls : List Bytes := []
  contentTypes : List Bytes := []

section Rules

variable (platform : CheckPlatform)

def LegacyRule.selectedConditions (rule : LegacyRule) : LegacyConditions :=
  let blockType := trimSpace rule.blockType
  if blockType = utf8 "content_type" then { contentTypes := rule.blockedContentTypes }
  else if blockType = utf8 "url_regex" then { urls := rule.urlRegexPatterns }
  else if blockType = utf8 "both" then
    { urls := rule.urlRegexPatterns, contentTypes := rule.blockedContentTypes }
  else {}

def legacyRuleConditions (rule : LegacyRule) : LegacyConditions :=
  if trimSpace rule.mitmAction ≠ mitmActionEnableV1 then {}
  else if policyAction (trimSpace rule.action) ≠ some .block then {}
  else
    let conditions := rule.selectedConditions
    { conditions with
      urls := (conditions.urls.map trimSpace).filter fun pattern =>
        !pattern.isEmpty && platform.compiles pattern }

def legacySchedule (restriction : Option LegacyTimeRestriction) (timezone : Bytes) :
    Option Schedule × Bytes :=
  match restriction with
  | none => (none, [])
  | some restriction =>
    let schedule : Schedule :=
      { timezone := trimSpace timezone, weekdays := []
        windows := [⟨trimSpace restriction.fromTime, trimSpace restriction.toTime⟩] }
    match schedule.validate platform with
    | .ok _ => (some schedule, [])
    | .error _ =>
      (none, utf8 "The old time window " ++ restriction.fromTime ++ utf8 "-" ++
        restriction.toTime ++
        utf8 " could not be represented and was dropped; edit this rule to set one.")

def LegacyRule.plainDomain (rule : LegacyRule) : Bytes :=
  trimPrefix (toLower (trimSpace rule.domain)) (utf8 "*.")

def legacyRulePrefix : Bytes := utf8 "legacy-rule-"

/-- What follows the fixed part of the id of the policy; a rule without an id gets a fresh
one. -/
def LegacyRule.importID (rule : LegacyRule) (fresh : Bytes) : Bytes :=
  if (trimSpace rule.id).isEmpty then fresh else trimSpace rule.id

def LegacyRule.importName (rule : LegacyRule) : Bytes :=
  let name := trimSpace rule.name
  if name.isEmpty then rule.plainDomain else name

def LegacyRule.importDescription (rule : LegacyRule) (dropped : Bytes) : Bytes :=
  utf8 "Imported from the retired rule store. " ++
    utf8 "Assign devices to it before it changes any device's filtering." ++
    (if dropped.isEmpty then [] else utf8 " " ++ dropped) ++
    (if (trimSpace rule.description).isEmpty then [] else utf8 " " ++ trimSpace rule.description)

def legacyRuleNumber (index : Nat) : Bytes :=
  utf8 "legacy rule " ++ utf8 (toString (index + 1))

def LegacyRule.groupRule (rule : LegacyRule) (timezone : Bytes) (action : PolicyAction) :
    GroupRule :=
  let conditions := legacyRuleConditions platform rule
  { id := rule.id, name := rule.importName, enabled := rule.enabled, action
    target := { domains := [rule.plainDomain] }
    urlRegexes := conditions.urls
    blockedContentTypes := conditions.contentTypes
    schedule := (legacySchedule platform rule.timeRestriction timezone).1
    users := rule.users }

def LegacyRule.group (rule : LegacyRule) (timezone fresh : Bytes) (action : PolicyAction) :
    PolicyGroup where
  id := legacyRulePrefix ++ rule.importID fresh
  name := rule.importName
  description := rule.importDescription (legacySchedule platform rule.timeRestriction timezone).2
  rules := [rule.groupRule platform timezone action]

/-- One turn of the loop of `MigrateLegacyRules`.  The random ids drawn in it are `draws`, the
first for the policy and the others for its rules. -/
def migrateLegacyRule (timezone : Bytes) (draws : Nat → Bytes) (index : Nat)
    (rule : LegacyRule) : Except Bytes PolicyGroup :=
  if rule.plainDomain.isEmpty then .error (legacyRuleNumber index ++ utf8 " has no domain")
  else
    match policyAction (trimSpace rule.action) with
    | none => .error (legacyRuleNumber index ++ utf8 " has action " ++ platform.quote rule.action)
    | some action =>
      (normalizeGroup { platform with newGroupID := fun index => draws (index + 1) }
        (rule.group platform timezone (draws 0) action)).mapError fun err =>
          legacyRuleNumber index ++ utf8 ": " ++ err

def migrateLegacyRules (timezone : Bytes) (draws : Nat → Nat → Bytes)
    (rules : List LegacyRule) : Except Bytes (List PolicyGroup) :=
  rules.zipIdx.mapM fun (rule, index) =>
    migrateLegacyRule platform timezone (draws index) index rule

end Rules

/-! ## What a rule becomes -/

def LegacyRule.targetDomains (platform : CheckPlatform) (rule : LegacyRule) : List Bytes :=
  match normalizeDomainPattern platform rule.plainDomain with
  | .ok pattern => if pattern.isEmpty then [] else [pattern]
  | .error _ => []

def LegacyRule.namedUsers (rule : LegacyRule) : List Bytes :=
  (rule.users.map trimSpace).filter fun user => !user.isEmpty

structure LegacyRule.Carries (platform : CheckPlatform) (timezone : Bytes) (rule : LegacyRule)
    (imported : GroupRule) : Prop where
  name : imported.name = trimSpace rule.importName
  enabled : imported.enabled = rule.enabled
  action : policyAction (trimSpace rule.action) = some imported.action
  target : imported.target = { domains := rule.targetDomains platform }
  urls : imported.urlRegexes = (legacyRuleConditions platform rule).urls
  contentTypes : imported.blockedContentTypes =
    normalizeContentTypes (legacyRuleConditions platform rule).contentTypes
  schedule : imported.schedule = (legacySchedule platform rule.timeRestriction timezone).1
  users : ∀ user, user ∈ imported.users ↔ user ∈ rule.namedUsers

section Carries

variable {platform : CheckPlatform} {timezone : Bytes}

theorem collect_singleton (normalize : Bytes → Except Bytes Bytes) (entry : Bytes) :
    collect normalize [entry] =
      (normalize entry).map fun value => if value.isEmpty then [] else [value] := by
  unfold collect
  rw [List.foldlM_cons]
  cases normalize entry with
  | error err => rfl
  | ok value => simp [bind, Except.bind, pure, Except.pure, Except.map]

variable {rule : LegacyRule}

theorem of_mem_legacyURLs {pattern : Bytes}
    (h : pattern ∈ (legacyRuleConditions platform rule).urls) :
    trimSpace pattern = pattern ∧ pattern ≠ [] ∧ platform.compiles pattern = true := by
  unfold legacyRuleConditions at h
  split at h
  · cases h
  · split at h
    · cases h
    · obtain ⟨hmap, hkept⟩ := List.mem_filter.mp h
      obtain ⟨raw, -, rfl⟩ := List.mem_map.mp hmap
      rw [Bool.and_eq_true] at hkept
      exact ⟨trimSpace_trimSpace raw, by simpa using hkept.1, hkept.2⟩

theorem normalizeURLRegexes_legacy (index : Nat) (rule : LegacyRule) :
    normalizeURLRegexes platform index (legacyRuleConditions platform rule).urls =
      .ok (legacyRuleConditions platform rule).urls := by
  have htrimmed : ((legacyRuleConditions platform rule).urls.map trimSpace).filter
      (fun pattern => !pattern.isEmpty) = (legacyRuleConditions platform rule).urls := by
    rw [List.map_congr_left fun pattern hpattern => (of_mem_legacyURLs hpattern).1, List.map_id']
    rw [List.filter_eq_self]
    intro pattern hpattern
    simpa using (of_mem_legacyURLs hpattern).2.1
  have hcompile : (legacyRuleConditions platform rule).urls.find?
      (fun pattern => !platform.compiles pattern) = none := by
    rw [List.find?_eq_none]
    intro pattern hpattern
    simp [(of_mem_legacyURLs hpattern).2.2]
  unfold normalizeURLRegexes
  dsimp only
  rw [htrimmed, hcompile]

theorem normalizeDomainList_legacy {label : Bytes} {domains : List Bytes}
    (h : normalizeDomainList platform label [rule.plainDomain] = .ok domains) :
    domains = rule.targetDomains platform := by
  rw [normalizeDomainList, collect_singleton] at h
  unfold LegacyRule.targetDomains
  cases hpattern : normalizeDomainPattern platform rule.plainDomain with
  | error err => simp [hpattern, Except.mapError, Except.map] at h
  | ok pattern =>
    simp only [hpattern, Except.mapError, Except.map, Except.ok.injEq] at h
    exact h.symm

variable {draws : Nat → Bytes} {index : Nat}

theorem carries_normalizeRule {action : PolicyAction}
    (haction : policyAction (trimSpace rule.action) = some action) {imported : GroupRule}
    (h : normalizeRule { platform with newGroupID := draws } index
      (rule.groupRule platform timezone action) = .ok imported) :
    rule.Carries platform timezone imported := by
  obtain ⟨domains, categories, urlRegexes, users, hdomains, hcategories, hurls, husers, -, -,
    rfl⟩ := ok_normalizeRule h
  cases hcategories
  have hpatterns : normalizeURLRegexes platform index (legacyRuleConditions platform rule).urls =
    .ok urlRegexes := hurls
  rw [normalizeURLRegexes_legacy] at hpatterns
  cases hpatterns
  have htarget : domains = rule.targetDomains platform := normalizeDomainList_legacy hdomains
  rw [htarget]
  constructor
  · rfl
  · rfl
  · exact haction
  · rfl
  · rfl
  · rfl
  · rfl
  · intro user
    exact mem_of_normalizeUsers husers

theorem normalizeGroupRules_singleton (platform : CheckPlatform) (rule : GroupRule) :
    normalizeGroupRules platform [rule] =
      (normalizeRule platform 0 rule).map fun accepted => [accepted] := by
  unfold normalizeGroupRules
  rw [List.zipIdx_singleton, List.mapM_cons]
  dsimp only
  cases normalizeRule platform 0 rule with
  | error | ok => rfl

variable {group : PolicyGroup}

section

variable (h : migrateLegacyRule platform timezone draws index rule = .ok group)

include h

theorem ok_migrateLegacyRule :
    ∃ action, policyAction (trimSpace rule.action) = some action ∧
      normalizeGroup { platform with newGroupID := fun index => draws (index + 1) }
        (rule.group platform timezone (draws 0) action) = .ok group := by
  unfold migrateLegacyRule at h
  split at h
  · cases h
  · split at h
    · cases h
    · next action haction => exact ⟨action, haction, ok_of_mapError h⟩

theorem carries_migrateLegacyRule :
    ∃ imported, rule.Carries platform timezone imported ∧
      group.id = legacyRulePrefix ++ rule.importID (draws 0) ∧ group.rules = [imported] ∧
      group.blockedCategories = [] ∧ group.blockedDomains = [] ∧ group.allowedDomains = [] := by
  obtain ⟨action, haction, hgroup⟩ := ok_migrateLegacyRule h
  obtain ⟨categories, blocked, allowed, users, rules, hcategories, hblocked, hallowed, -, hrules,
    rfl⟩ := ok_normalizeGroup hgroup
  cases hcategories
  cases hblocked
  cases hallowed
  rw [LegacyRule.group, normalizeGroupRules_singleton] at hrules
  cases hrule : normalizeRule { platform with newGroupID := fun index => draws (index + 1) }
      0 (rule.groupRule platform timezone action) with
  | error err => simp [hrule, Except.map] at hrules
  | ok imported =>
    simp only [hrule, Except.map, Except.ok.injEq] at hrules
    subst hrules
    exact ⟨imported, carries_normalizeRule haction hrule, rfl, rfl, rfl, rfl, rfl⟩

theorem users_migrateLegacyRule : group.users = [] := by
  obtain ⟨action, -, hgroup⟩ := ok_migrateLegacyRule h
  obtain ⟨categories, blocked, allowed, users, rules, -, -, -, husers, -, rfl⟩ :=
    ok_normalizeGroup hgroup
  cases husers
  rfl

end

theorem getElem?_migrateLegacyRules {draws : Nat → Nat → Bytes} {rules : List LegacyRule}
    {groups : List PolicyGroup}
    (h : migrateLegacyRules platform timezone draws rules = .ok groups) (i : Nat) :
    (rules[i]?.map fun rule => migrateLegacyRule platform timezone (draws i) i rule) =
      groups[i]?.map .ok := by
  have hplace := congrArg (·[i]?) (map_eq_of_mapM h)
  simpa [Function.comp_def] using hplace

end Carries

/-! ## Devices -/

structure LegacyDevice where
  id : Bytes
  owner : Bytes
  category : Bytes

/-- `strings.Fields` from within a field: its bytes so far, and the bytes of a white-space
character still to be passed by. -/
def fieldsFrom : Bytes → Nat → Bytes → List Bytes
  | field, _, [] => if field.isEmpty then [] else [field]
  | field, skip + 1, _ :: rest => fieldsFrom field skip rest
  | field, 0, b :: rest =>
    match whiteSpace.find? (·.isPrefixOf (b :: rest)) with
    | none => fieldsFrom (field ++ [b]) 0 rest
    | some item =>
      if field.isEmpty then fieldsFrom [] (item.length - 1) rest
      else field :: fieldsFrom [] (item.length - 1) rest

def migratedGroupName (label : Bytes) : Bytes :=
  toLower (Net.joinWith (utf8 "-") (fieldsFrom [] 0 label))

def LegacyDevice.group (device : LegacyDevice) (now : Time) : Option PolicyGroup :=
  let (kind, label) :=
    if device.category.isEmpty then (utf8 "owner", device.owner)
    else (utf8 "category", device.category)
  if label.isEmpty || (migratedGroupName label).isEmpty then none
  else
    some
      { id := kind ++ utf8 "-" ++ migratedGroupName label
        name := label
        description := utf8 "Migrated from legacy device " ++ kind ++
          utf8 " metadata; edit before relying on it."
        createdAt := now, updatedAt := now }

/-- One turn of the loop of `MigrateLegacyDevices`. -/
def migrateLegacyDevice (now : Time)
    (out : Dict Bytes PolicyGroup × List DeviceAssignment) (device : LegacyDevice) :
    Except Bytes (Dict Bytes PolicyGroup × List DeviceAssignment) :=
  if device.id.isEmpty then .error (utf8 "legacy device has empty ID")
  else
    match device.group now with
    | none => .ok out
    | some group =>
      .ok (if group.id ∈ out.1 then out.1 else out.1.insert group.id group,
        out.2 ++ [⟨device.id, group.id, now⟩])

def migrateLegacyDevices (now : Time) (devices : List LegacyDevice) :
    Except Bytes (List PolicyGroup × List DeviceAssignment) := do
  let (groups, assignments) ← devices.foldlM (migrateLegacyDevice now) (∅, [])
  return ((groups.entries.map (·.2)).mergeSort fun a b => a.id ≤ b.id,
    assignments.mergeSort fun a b => a.deviceID ≤ b.deviceID)

end GateSentry.Policy
