import GateSentry.Policy.Evaluate

/-!
# Who a request belongs to

`ResolveIdentity`: an address is looked up among the observed devices, and the policy follows
from the authenticated user or the device.  The decision records of `decision.go` and the hosts
of `safesearch.go` follow.
-/

namespace GateSentry.Policy

open Foundation ByteText Calendar

structure Sighting where
  deviceID : Bytes
  ambiguous : Bool
  stale : Bool

def isAddressLike (user : Bytes) : Bool :=
  !user.isEmpty && ((Net.parseIP user).isSome ||
    match Net.splitHostPort user with
    | .ok (host, _) => (Net.parseIP host).isSome
    | .error _ => false)

def loginOf (authUser : Bytes) : Bytes := if isAddressLike authUser then [] else authUser

def sightedIdentity (sighting : Sighting) (requestConfirmsAddress : Bool) : Identity :=
  let deviceID := sighting.deviceID
  if sighting.ambiguous then
    { source := .unknownNAT
      explanation := utf8 "multiple devices share this address; using the default policy" }
  else if sighting.stale && !requestConfirmsAddress then
    { deviceID, source := .staleDevice
      explanation := utf8 "device observation is stale; using the default policy" }
  else if deviceID.isEmpty then
    { explanation := utf8 "no device observed for this address; using the default policy" }
  else if sighting.stale then
    { deviceID, source := .device
      explanation := utf8 "device attributed from observed address; live query confirms " ++
        utf8 "the address is active" }
  else { deviceID, source := .device
         explanation := utf8 "device resolved from observed address" }

/-- `resolveBaseIdentity`; without a device store there are no `devices`. -/
def resolveBaseIdentity (devices : Option (Bytes → Sighting)) (clientIP authUser : Bytes)
    (requestConfirmsAddress : Bool) : Identity :=
  let authUser := loginOf authUser
  let identity : Identity :=
    match devices with
    | none => { explanation := utf8 "no client address available" }
    | some resolve =>
      if clientIP.isEmpty then { explanation := utf8 "no client address available" }
      else sightedIdentity (resolve clientIP) requestConfirmsAddress
  if authUser.isEmpty then identity
  else { identity with authUser, source := .authUser
                       explanation := utf8 "authenticated proxy user" }

def maxInt : Int := 2 ^ 63 - 1

def visitUser (user : Bytes) (group : PolicyGroup) (best : Bytes × Int) (candidate : Bytes) :
    Bytes × Int :=
  if candidate ≠ user then best
  else if group.priority < best.2 ||
      (group.priority = best.2 && !best.1.isEmpty && group.id < best.1) then
    (group.id, group.priority)
  else best

def groupForUserIn (snap : PolicySnapshot) (user : Bytes) : Bytes :=
  (snap.groups.entries.foldl
    (fun best entry => entry.2.users.foldl (visitUser user entry.2) best) ([], maxInt)).1

def PolicySnapshot.assignedGroup (snap : PolicySnapshot) (deviceID : Bytes) : Bytes :=
  match snap.assignments.lookup deviceID with
  | none => defaultGroupID
  | some id => if id ∈ snap.groups then id else defaultGroupID

def groupIDForSnapshot (identity : Identity) (snap : PolicySnapshot) : Bytes :=
  let userGroup :=
    if identity.authUser.isEmpty then [] else groupForUserIn snap identity.authUser
  if !userGroup.isEmpty then userGroup
  else if !identity.deviceID.isEmpty &&
      (identity.source = .device || identity.source = .authUser) then
    snap.assignedGroup identity.deviceID
  else defaultGroupID

def resolveIdentity (devices : Option (Bytes → Sighting)) (clientIP authUser : Bytes)
    (requestConfirmsAddress : Bool) (snap : PolicySnapshot) : Identity :=
  let identity := resolveBaseIdentity devices clientIP authUser requestConfirmsAddress
  { identity with groupID := groupIDForSnapshot identity snap }

/-! ## The live service -/

structure Service where
  snapshot : PolicySnapshot
  exceptions : List Exception
  pauses : List Pause
  categories : Option CategoryIndex
  enabledCategories : List Bytes

def Service.liveContext (s : Service) (now : Time) : EvalContext where
  snap := s.snapshot
  exceptions := activeExceptions s.exceptions now
  pauses := pausesActiveAt s.pauses now
  now := now
  index := s.categories
  gatewayCategories := s.enabledCategories

def Service.decideProxy (platform : Platform) (s : Service)
    (devices : Option (Bytes → Sighting)) (clientIP authUser domain : Bytes) (now : Time) :
    ProxyMatch :=
  evaluateProxyIn platform (resolveIdentity devices clientIP authUser false s.snapshot) domain
    (s.liveContext now)

/-! ## Decision records -/

inductive DecisionAction where
  | allow
  | block
  | inspect
  | bypass
  | error
  | unknown

structure Decision where
  action : DecisionAction
  responseType : Bytes
  matchedRule : Bytes
  reason : Bytes
  layer : DecisionLayer
  domain : Bytes
  clientIP : Bytes
  deviceID : Bytes
  groupID : Bytes
  source : SourceKind
  policyRevision : Int

def builtInCategories : List (Bytes × Bytes) :=
  [(utf8 "ads", utf8 "Ads and trackers"),
    (utf8 "social", utf8 "Social media"),
    (utf8 "adult", utf8 "Adult content"),
    (utf8 "gambling", utf8 "Gambling"),
    (utf8 "piracy", utf8 "Piracy"),
    (utf8 "malware", utf8 "Malware and phishing"),
    (utf8 "shorteners", utf8 "Link shorteners")]

def categoryMatchLabel (categoryID : Bytes) : Bytes :=
  utf8 "category " ++ (builtInCategories.lookup categoryID).getD categoryID

def policyMatchLabel (decision : DNSDecision) : Bytes :=
  let matched := match cutPrefix decision.matchedDomain (utf8 "category:") with
    | some id => categoryMatchLabel id
    | none => decision.matchedDomain
  let matched := if matched = utf8 "*" then utf8 "all traffic" else matched
  utf8 "policy " ++ decision.groupID ++ utf8 ": " ++ matched ++
    if decision.ruleID.isEmpty then []
    else utf8 " (rule " ++ decision.ruleID ++ utf8 ")"

/-! ## Safe search -/

def safeSearchTargets : List (Bytes × Bytes) :=
  [(utf8 "www.youtube.com", utf8 "restrict.youtube.com"),
    (utf8 "m.youtube.com", utf8 "restrict.youtube.com"),
    (utf8 "youtubei.googleapis.com", utf8 "restrict.youtube.com"),
    (utf8 "youtube.googleapis.com", utf8 "restrict.youtube.com"),
    (utf8 "www.youtube-nocookie.com", utf8 "restrict.youtube.com"),
    (utf8 "www.bing.com", utf8 "strict.bing.com"),
    (utf8 "duckduckgo.com", utf8 "safe.duckduckgo.com"),
    (utf8 "www.duckduckgo.com", utf8 "safe.duckduckgo.com")]

def isGoogleSearchSuffix (rest : Bytes) : Bool :=
  rest = utf8 "com" || match Strings.pieces Net.dot rest with
    | [country] => country.length = 2
    | [kind, country] => (kind = utf8 "co" || kind = utf8 "com") && country.length = 2
    | _ => false

def safeSearchTarget (domain : Bytes) : Bytes :=
  let domain := trimSuffix (toLower (trimSpace domain)) (utf8 ".")
  match safeSearchTargets.lookup domain with
  | some target => target
  | none =>
    match cutPrefix domain (utf8 "www.google.") with
    | some rest =>
      if isGoogleSearchSuffix rest then utf8 "forcesafesearch.google.com" else []
    | none => []

end GateSentry.Policy
