import GateSentry.Foundation.ByteText
import GateSentry.Foundation.Calendar
import GateSentry.Foundation.Dict

/-!
# Policies and what requests are decided by

`types.go` of the policy service, with the exceptions and pauses of `exception.go` and
`pause.go`, and the groups and assignments as they are stored.  The JSON that holds a document
is not looked into: a document is what it decodes to.
-/

namespace GateSentry.Policy

open Foundation ByteText Calendar

inductive PolicyAction where
  | none
  | allow
  | block
  deriving DecidableEq, Inhabited

def defaultGroupID : Bytes := utf8 "default"

/-! ## Policies -/

/-- One on-period, both ends as `HH:MM`. -/
structure TimeWindow where
  fromTime : Bytes
  toTime : Bytes
  deriving DecidableEq

structure Schedule where
  timezone : Bytes
  weekdays : List Int
  windows : List TimeWindow
  deriving DecidableEq

structure RuleTarget where
  allTraffic : Bool := false
  domains : List Bytes := []
  categories : List Bytes := []
  deriving DecidableEq, Inhabited

structure GroupRule where
  id : Bytes := []
  name : Bytes := []
  enabled : Bool := false
  action : PolicyAction := .none
  target : RuleTarget := {}
  urlRegexes : List Bytes := []
  blockedContentTypes : List Bytes := []
  schedule : Option Schedule := none
  users : List Bytes := []
  deriving DecidableEq, Inhabited

structure PolicyGroup where
  id : Bytes := []
  name : Bytes := []
  description : Bytes := []
  blockedCategories : List Bytes := []
  blockedDomains : List Bytes := []
  allowedDomains : List Bytes := []
  rules : List GroupRule := []
  safeSearch : Bool := false
  users : List Bytes := []
  priority : Int := 0
  createdAt : Time := zeroTime
  updatedAt : Time := zeroTime
  deriving DecidableEq

instance : Inhabited PolicyGroup := ⟨{}⟩

structure PolicySnapshot where
  groups : Dict Bytes PolicyGroup
  assignments : Dict Bytes Bytes
  version : Int
  updatedAt : Time

/-! ## Exceptions and pauses -/

inductive Scope where
  | device
  | group
  | installation
  deriving DecidableEq

def Scope.text : Scope → Bytes
  | .device => utf8 "device"
  | .group => utf8 "group"
  | .installation => utf8 "installation"

structure Exception where
  id : Bytes
  domain : Bytes
  scope : Scope
  deviceID : Bytes := []
  groupID : Bytes := []
  createdBy : Bytes := []
  createdAt : Time
  expiresAt : Time
  reason : Bytes := []
  active : Bool
  revokedBy : Bytes := []
  revokedAt : Option Time := none
  deriving DecidableEq

structure Pause where
  id : Bytes
  scope : Scope
  deviceID : Bytes := []
  groupID : Bytes := []
  createdBy : Bytes := []
  createdAt : Time
  untilTime : Time
  reason : Bytes := []
  active : Bool
  revokedBy : Bytes := []
  revokedAt : Option Time := none

/-! ## Identities and decisions -/

inductive SourceKind where
  | device
  | authUser
  | unknown
  | unknownNAT
  | staleDevice
  deriving DecidableEq

structure Identity where
  deviceID : Bytes := []
  authUser : Bytes := []
  groupID : Bytes := []
  source : SourceKind := .unknown
  explanation : Bytes := []

inductive DecisionLayer where
  | dns
  | explicitProxy
  | transparentProxy
  | content
  deriving DecidableEq

structure ProxyMatch where
  isMatched : Bool := false
  allowed : Bool := false
  groupID : Bytes
  ruleID : Bytes
  matchedDomain : Bytes
  reason : Bytes
  shouldBlock : Bool := false
  shouldMITM : Bool := false
  blockURLRegexes : List Bytes := []
  blockContentTypes : List Bytes := []

structure DNSDecision where
  action : PolicyAction := .none
  groupID : Bytes := []
  matchedDomain : Bytes := []
  ruleID : Bytes := []
  proxyOnly : List Bytes := []
  safeSearch : Bool := false
  reason : Bytes := []

/-- What the policy service calls in Go's library: `time.LoadLocation`, and the
quoting of `fmt` for `%q`. -/
structure Platform where
  loadLocation : Bytes → Option Location
  quote : Bytes → Bytes

/-- No time zone is installed. -/
def plainPlatform : Platform := ⟨fun _ => none, id⟩

/-! ## The policy document -/

structure DeviceAssignment where
  deviceID : Bytes
  groupID : Bytes
  assignedAt : Time := zeroTime
  deriving DecidableEq

structure PolicyDocument where
  version : Int
  groups : List PolicyGroup
  assignments : List DeviceAssignment
  migratedFrom : Bytes
  updatedAt : Time
  deriving DecidableEq

def documentVersion : Int := 2

def defaultGroup : PolicyGroup where
  id := defaultGroupID
  name := utf8 "Default"
  description := utf8
    "Applies to every device and user that is not assigned to another policy."

def withDefaultGroup (doc : PolicyDocument) : PolicyDocument :=
  if doc.groups.any (·.id = defaultGroupID) then doc
  else { doc with groups := doc.groups ++ [defaultGroup] }

def snapshotFromDocument (doc : PolicyDocument) : PolicySnapshot where
  groups := Dict.assign (doc.groups.map fun group => (group.id, group)) ∅
  assignments := Dict.assign (doc.assignments.map fun a => (a.deviceID, a.groupID)) ∅
  version := doc.version
  updatedAt := doc.updatedAt

structure PolicySnapshot.WellFormed (snap : PolicySnapshot) : Prop where
  keyed : ∀ key group, snap.groups.lookup key = some group → group.id = key
  hasDefault : defaultGroupID ∈ snap.groups

theorem exists_defaultGroup (doc : PolicyDocument) :
    ∃ group ∈ (withDefaultGroup doc).groups, group.id = defaultGroupID := by
  unfold withDefaultGroup
  split
  · rename_i hany
    simpa using hany
  · exact ⟨defaultGroup, by simp, rfl⟩

theorem snapshot_wellFormed (doc : PolicyDocument) :
    (snapshotFromDocument (withDefaultGroup doc)).WellFormed where
  keyed := by
    intro key group hlookup
    obtain ⟨other, -, hentry⟩ := Dict.exists_of_lookup_assign hlookup
    cases hentry
    rfl
  hasDefault := by
    obtain ⟨group, hgroup, hid⟩ := exists_defaultGroup doc
    refine (Dict.mem_assign _ _ _).mpr (.inr ?_)
    rw [List.map_map]
    exact List.mem_map.mpr ⟨group, hgroup, hid⟩

end GateSentry.Policy
