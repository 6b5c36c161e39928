import GateSentry.Policy.Types

/-!
# Exceptions and pauses

The requests of `exception.go` and `pause.go`: what an input has to satisfy, and how a
request changes the stored list.
-/

namespace GateSentry.Policy

open Foundation ByteText Calendar

inductive GrantErrorKind where
  | invalid
  | notFound

structure GrantError where
  kind : GrantErrorKind
  message : Bytes

structure GrantLimits where
  label : Bytes
  min : Int
  max : Int
  minText : Bytes
  maxText : Bytes

def maxExceptionDuration : Int := 7 * 24 * hour
def maxPauseDuration : Int := 24 * hour

def exceptionLimits : GrantLimits :=
  ⟨utf8 "exception", minute, maxExceptionDuration, utf8 "1m0s", utf8 "168h0m0s"⟩

def pauseLimits : GrantLimits :=
  ⟨utf8 "pause", minute, maxPauseDuration, utf8 "1m0s", utf8 "24h0m0s"⟩

def GrantLimits.invalid (limits : GrantLimits) (text : Bytes) : GrantError :=
  ⟨.invalid, utf8 "invalid " ++ limits.label ++ utf8 ": " ++ text⟩

def GrantLimits.notFound (limits : GrantLimits) (text : Bytes) : GrantError :=
  ⟨.notFound, limits.label ++ utf8 " not found: " ++ text⟩

def Scope.ofText (text : Bytes) : Option Scope :=
  [Scope.device, .group, .installation].find? (·.text = text)

/-! ## Inputs -/

structure GrantInput where
  domain : Bytes := []
  scope : Bytes
  deviceID : Bytes := []
  groupID : Bytes := []
  duration : Bytes
  reason : Bytes := []

section Validate

variable (platform : Platform) (parseDuration : Bytes → Option Int)

def GrantLimits.validateScope (limits : GrantLimits) (input : GrantInput) :
    Except GrantError Scope :=
  match Scope.ofText input.scope with
  | some .device =>
    if (trimSpace input.deviceID).isEmpty then
      .error (limits.invalid (utf8 "device scope requires a device_id"))
    else .ok .device
  | some .group =>
    if (trimSpace input.groupID).isEmpty then
      .error (limits.invalid (utf8 "group scope requires a group_id"))
    else .ok .group
  | some .installation => .ok .installation
  | none => .error (limits.invalid (utf8 "invalid scope " ++ platform.quote input.scope))

def GrantLimits.validateDuration (limits : GrantLimits) (input : GrantInput) :
    Except GrantError Int :=
  if (trimSpace input.duration).isEmpty then
    .error (limits.invalid (utf8 "duration is required"))
  else
    match parseDuration input.duration with
    | none => .error (limits.invalid (utf8 "invalid duration " ++ platform.quote input.duration))
    | some d =>
      if d < limits.min then
        .error (limits.invalid (utf8 "duration " ++ input.duration ++
          utf8 " is shorter than minimum " ++ limits.minText))
      else if limits.max < d then
        .error (limits.invalid (utf8 "duration " ++ input.duration ++
          utf8 " exceeds maximum " ++ limits.maxText))
      else .ok d

def validatePause (input : GrantInput) : Except GrantError (Scope × Int) := do
  let scope ← pauseLimits.validateScope platform input
  let d ← pauseLimits.validateDuration platform parseDuration input
  return (scope, d)

def validateException (input : GrantInput) : Except GrantError (Scope × Int) := do
  if (trimSpace input.domain).isEmpty then
    throw (exceptionLimits.invalid (utf8 "domain is required"))
  let scope ← exceptionLimits.validateScope platform input
  let d ← exceptionLimits.validateDuration platform parseDuration input
  return (scope, d)

def newException (input : GrantInput) (createdBy id : Bytes) (now : Time) :
    Except GrantError Exception := do
  let (scope, d) ← validateException platform parseDuration input
  if (trimSpace createdBy).isEmpty then
    throw (exceptionLimits.invalid (utf8 "created_by is required"))
  return { id, domain := toLower (trimSpace input.domain), scope, deviceID := input.deviceID
           groupID := input.groupID, createdBy, createdAt := now, expiresAt := now + d
           reason := input.reason, active := true }

def newPause (input : GrantInput) (createdBy id : Bytes) (now : Time) :
    Except GrantError Pause := do
  let (scope, d) ← validatePause platform parseDuration input
  if (trimSpace createdBy).isEmpty then
    throw (pauseLimits.invalid (utf8 "created_by is required"))
  return { id, scope, deviceID := input.deviceID, groupID := input.groupID, createdBy
           createdAt := now, untilTime := now + d, reason := input.reason, active := true }

end Validate

/-! ## Changes of the stored list -/

structure GrantKind (grant : Type) where
  limits : GrantLimits
  id : grant → Bytes
  scope : grant → Scope
  groupID : grant → Bytes
  active : grant → Bool
  endsAt : grant → Time
  revokedAt : grant → Option Time
  revoked : grant → (revokedBy : Bytes) → (now : Time) → grant

def exceptionKind : GrantKind Exception where
  limits := exceptionLimits
  id := Exception.id
  scope := Exception.scope
  groupID := Exception.groupID
  active := Exception.active
  endsAt := Exception.expiresAt
  revokedAt := Exception.revokedAt
  revoked e revokedBy now := { e with active := false, revokedBy, revokedAt := some now }

def pauseKind : GrantKind Pause where
  limits := pauseLimits
  id := Pause.id
  scope := Pause.scope
  groupID := Pause.groupID
  active := Pause.active
  endsAt := Pause.untilTime
  revokedAt := Pause.revokedAt
  revoked p revokedBy now := { p with active := false, revokedBy, revokedAt := some now }

section Changes

variable {grant : Type} (kind : GrantKind grant)

def addGrant (new : grant) (live : PolicySnapshot) (grants : List grant) :
    Except GrantError (List grant) :=
  if kind.scope new = .group ∧ kind.groupID new ∉ live.groups then
    .error (kind.limits.invalid (utf8 "group " ++ kind.groupID new ++
      utf8 ": unknown policy group"))
  else .ok (grants ++ [new])

def revokeGrant (id revokedBy : Bytes) (now : Time) : List grant → Except GrantError (List grant)
  | [] => .error (kind.limits.notFound id)
  | g :: rest =>
    if kind.id g = id then
      if kind.active g then .ok (kind.revoked g revokedBy now :: rest)
      else .error (kind.limits.notFound (utf8 "already revoked"))
    else (revokeGrant id revokedBy now rest).map (g :: ·)

def keepsGrant (cutoff : Time) (g : grant) : Bool :=
  (kind.active g && cutoff < kind.endsAt g) ||
    (!kind.active g && ((kind.revokedAt g).any (cutoff < ·) || cutoff < kind.endsAt g))

def pruneGrants (now : Time) (grants : List grant) : List grant :=
  grants.filter (keepsGrant kind (now - kind.limits.max))

end Changes

def revokeByID {grant : Type} (kind : GrantKind grant) (id revokedBy : Bytes) (now : Time)
    (grants : List grant) : Except GrantError (List grant) :=
  if (trimSpace id).isEmpty then .error (kind.limits.invalid (utf8 "id is required"))
  else revokeGrant kind id revokedBy now grants

theorem revokeGrant_eq {grant : Type} {kind : GrantKind grant} {id revokedBy : Bytes} {now : Time}
    {grants next : List grant} (h : revokeGrant kind id revokedBy now grants = .ok next) :
    ∃ before g after, grants = before ++ g :: after ∧
      grants.find? (fun g => kind.id g = id) = some g ∧
      next = before ++ kind.revoked g revokedBy now :: after := by
  induction grants generalizing next with
  | nil => cases h
  | cons g rest ih =>
    rw [revokeGrant] at h
    split at h
    · next hid =>
      split at h
      · cases h
        exact ⟨[], g, rest, rfl, by simp [hid], rfl⟩
      · cases h
    · next hid =>
      cases hrest : revokeGrant kind id revokedBy now rest with
      | error err => simp [hrest, Except.map] at h
      | ok others =>
        simp only [hrest, Except.map, Except.ok.injEq] at h
        subst h
        obtain ⟨before, found, after, rfl, hfind, rfl⟩ := ih hrest
        exact ⟨g :: before, found, after, rfl, by simp [hid, hfind], rfl⟩

end GateSentry.Policy
