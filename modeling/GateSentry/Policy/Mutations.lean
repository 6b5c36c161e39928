import GateSentry.Policy.Migration

/-!
# Changes of the policy document

The writers of `service.go`: groups are created, edited, deleted and replaced, assignments are
set and replaced.  Each is a check before the transaction and a transform within it.
-/

namespace GateSentry.Policy

open Foundation ByteText Calendar

/-! ## Transforms -/

def containsString (items : List Bytes) (item : Bytes) : Bool := items.contains item

def conflictingGroup (snap : PolicySnapshot) (group : PolicyGroup) : Option PolicyGroup :=
  (snap.groups.entries.map (·.2)).find? fun other =>
    other.id ≠ group.id && group.users.any (containsString other.users)

def checkUserConflicts (platform : CheckPlatform) (snap : PolicySnapshot) (group : PolicyGroup) :
    Except PolicyError Unit :=
  match conflictingGroup snap group with
  | none => .ok ()
  | some other => .error (.refused
      (utf8 "proxy user already belongs to another policy: " ++
        (group.users.find? (containsString other.users)).getD [] ++ utf8 " is in " ++
        platform.quote other.name))

def putGroup (snap : PolicySnapshot) (group : PolicyGroup) : PolicySnapshot :=
  { snap with groups := snap.groups.insert group.id group }

def addGroup (platform : CheckPlatform) (snap : PolicySnapshot) (group : PolicyGroup) :
    Except PolicyError PolicySnapshot := do
  checkUserConflicts platform snap group
  return putGroup snap group

def notFound (groupID : Bytes) : PolicyError :=
  .refused (utf8 "policy group not found: " ++ groupID)

def createTransform (platform : CheckPlatform) (group : PolicyGroup) (snap : PolicySnapshot) :
    Except PolicyError PolicySnapshot :=
  if group.id ∈ snap.groups then
    .error (.refused (utf8 "policy group already exists: " ++ group.id))
  else addGroup platform snap group

def updateTransform (platform : CheckPlatform) (groupID : Bytes) (group : PolicyGroup)
    (now : Time) (snap : PolicySnapshot) : Except PolicyError PolicySnapshot :=
  match snap.groups.lookup groupID with
  | none => .error (notFound groupID)
  | some current =>
    if groupID = defaultGroupID && !group.users.isEmpty then
      .error (.refused (utf8 "the default policy already applies to every user that has no " ++
        utf8 "policy; assign users to another policy"))
    else
      addGroup platform snap
        { group with id := groupID, createdAt := current.createdAt, updatedAt := now }

def withoutGroup (assignments : Dict Bytes Bytes) (groupID : Bytes) : Dict Bytes Bytes where
  entries := assignments.entries.filter fun entry => entry.2 ≠ groupID
  nodupKeys := assignments.nodupKeys.sublist List.filter_sublist

def deleteTransform (groupID : Bytes) (snap : PolicySnapshot) :
    Except PolicyError PolicySnapshot :=
  if groupID ∉ snap.groups then .error (notFound groupID)
  else
    .ok { snap with
      groups := snap.groups.erase groupID
      assignments := withoutGroup snap.assignments groupID }

/-- The groups are put into an empty map one after the other, in the order of a `range`. -/
def saveGroupsTransform (platform : CheckPlatform) (next : List PolicyGroup)
    (snap : PolicySnapshot) : Except PolicyError PolicySnapshot :=
  next.foldlM (addGroup platform) { snap with groups := ∅ }

def saveAssignmentsTransform (assignments : List DeviceAssignment) (snap : PolicySnapshot) :
    Except PolicyError PolicySnapshot :=
  .ok { snap with
    assignments := Dict.assign (assignments.map fun a => (a.deviceID, a.groupID)) ∅ }

/-! ## Before the transaction -/

/-- One turn of the first loop of `SaveGroups`. -/
def saveGroupEntry (platform : CheckPlatform) (next : Dict Bytes PolicyGroup)
    (group : PolicyGroup) : Except PolicyError (Dict Bytes PolicyGroup) :=
  if (trimSpace group.id).isEmpty then
    .error (.refused (utf8 "every policy group needs a stable id"))
  else
    let named := if (trimSpace group.name).isEmpty then { group with name := group.id } else group
    match normalizeGroup platform named with
    | .error err => .error (.refused
        (utf8 "policy " ++ platform.quote group.id ++ utf8 ": " ++ err))
    | .ok normalized => .ok (next.insert group.id normalized)

def saveGroupsMap (platform : CheckPlatform) (groups : List PolicyGroup) :
    Except PolicyError (Dict Bytes PolicyGroup) := do
  let next ← groups.foldlM (saveGroupEntry platform) ∅
  return if defaultGroupID ∈ next then next else next.insert defaultGroupID defaultGroup

def checkedGroup (platform : CheckPlatform) (groupID : Bytes) (group : PolicyGroup) :
    Except PolicyError PolicyGroup :=
  if (trimSpace groupID).isEmpty then .error (.refused (utf8 "policy group needs an id"))
  else (normalizeGroup platform group).mapError .refused

/-! ## Operations -/

structure MigrationOutput (platform : CheckPlatform) where
  devices : List LegacyDevice
  rules : List LegacyRule
  timezone : Bytes
  draws : Nat → Nat → Bytes
  migratedAt : Time
  deviceGroups : List PolicyGroup
  assignments : List DeviceAssignment
  ruleGroups : List PolicyGroup
  fromDevices : migrateLegacyDevices migratedAt devices = .ok (deviceGroups, assignments)
  fromRules : migrateLegacyRules platform timezone draws rules = .ok ruleGroups

inductive PolicyCall (platform : CheckPlatform) where
  | createGroup (group : PolicyGroup)
  | updateGroup (groupID : Bytes) (group : PolicyGroup)
  | deleteGroup (groupID : Bytes)
  | saveGroups (groups : List PolicyGroup) (order : RangeOrder PolicyGroup)
  | saveAssignments (assignments : List DeviceAssignment)
  | setDeviceAssignment (deviceID groupID : Bytes)
  | saveMigration (output : MigrationOutput platform) (migratedFrom : Bytes)

def PolicyCall.apply {platform : CheckPlatform} (now : Time) (draws : Nat → Bytes)
    (raw : PolicyText) : PolicyCall platform → Except PolicyError PolicyText
  | .createGroup group => do
    let group ← checkedGroup { platform with newGroupID := draws } group.id group
    let createdAt := if group.createdAt = zeroTime then now else group.createdAt
    updatePolicy (createTransform platform { group with createdAt, updatedAt := now }) now raw
  | .updateGroup groupID group => do
    let group ← checkedGroup { platform with newGroupID := draws } groupID group
    updatePolicy (updateTransform platform groupID group now) now raw
  | .deleteGroup groupID =>
    if (trimSpace groupID).isEmpty then .error (.refused (utf8 "policy group needs an id"))
    else if groupID = defaultGroupID then
      .error (.refused (utf8 "the default policy cannot be deleted"))
    else updatePolicy (deleteTransform groupID) now raw
  | .saveGroups groups order => do
    let next ← saveGroupsMap { platform with newGroupID := draws } groups
    updatePolicy (saveGroupsTransform platform (order.values next)) now raw
  | .saveAssignments assignments => updatePolicy (saveAssignmentsTransform assignments) now raw
  | .setDeviceAssignment deviceID groupID =>
    updatePolicy (GateSentry.Policy.setDeviceAssignment deviceID groupID) now raw
  | .saveMigration output migratedFrom =>
    .ok (GateSentry.Policy.saveMigration (output.deviceGroups ++ output.ruleGroups)
      output.assignments migratedFrom now raw)

structure PolicyEvent (platform : CheckPlatform) where
  call : PolicyCall platform
  now : Time
  draws : Nat → Bytes
  commits : Bool

def PolicyEvent.step {platform : CheckPlatform} (raw : PolicyText)
    (event : PolicyEvent platform) : PolicyText :=
  match event.call.apply event.now event.draws raw with
  | .error _ => raw
  | .ok next => if event.commits then next else raw

def runPolicy {platform : CheckPlatform} (raw : PolicyText)
    (events : List (PolicyEvent platform)) : PolicyText :=
  events.foldl PolicyEvent.step raw

end GateSentry.Policy
