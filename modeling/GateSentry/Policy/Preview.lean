import GateSentry.Policy.Identity

/-!
# Preview

`Preview` evaluates a request that an administrator describes, at another time if one is
given.  The exceptions it looks at are those in force at the service clock.
-/

namespace GateSentry.Policy

open Foundation ByteText Calendar

structure ProposedPolicy where
  groups : List PolicyGroup
  assignments : List DeviceAssignment

structure PreviewRequest where
  clientIP : Bytes
  user : Bytes
  domain : Bytes
  protocol : Bytes := []
  url : Bytes := []
  time : Bytes := []
  proposed : Option ProposedPolicy := none

structure PreviewEvaluation where
  action : PolicyAction
  groupID : Bytes
  groupName : Bytes
  ruleID : Bytes
  matchedDomain : Bytes
  reason : Bytes
  safeSearch : Bool
  trace : List TraceStep
  proxyOnly : List Bytes
  blockURLRegexes : List Bytes
  blockContentTypes : List Bytes
  urlBlocked : Bool
  policyRevision : Int

structure PreviewResult where
  identity : Identity
  active : PreviewEvaluation
  proposed : PreviewEvaluation
  changed : Bool

/-- What a preview calls in Go's library: `time.Parse` for RFC 3339, the host name of
`url.Parse`, and compiled patterns. -/
structure PreviewPlatform extends Platform where
  parseTime : Bytes → Option Time
  hostnameOf : Bytes → Option Bytes
  compile : Bytes → Option (Bytes → Bool)

def snapshotFromProposed (proposed : ProposedPolicy) (version : Int) (now : Time) :
    PolicySnapshot where
  groups := Dict.assign ((defaultGroupID, defaultGroup) ::
    proposed.groups.map fun group => (group.id, group)) ∅
  assignments := Dict.assign (proposed.assignments.map fun a => (a.deviceID, a.groupID)) ∅
  version := version
  updatedAt := now

def PreviewRequest.protocolDNS (req : PreviewRequest) : Bool :=
  req.protocol.isEmpty || equalFold req.protocol (utf8 "dns")

def PreviewRequest.layer (req : PreviewRequest) : DecisionLayer :=
  if req.protocolDNS then .dns else .explicitProxy

section Preview

variable (platform : PreviewPlatform)

def PreviewRequest.effectiveDomain (req : PreviewRequest) : Bytes :=
  if req.domain.isEmpty && !req.url.isEmpty then (platform.hostnameOf req.url).getD req.domain
  else req.domain

def previewEvaluation (base : Identity) (domain requestURL : Bytes) (ctx : EvalContext)
    (layer : DecisionLayer) : PreviewEvaluation :=
  let identity := { base with groupID := groupIDForSnapshot base ctx.snap }
  let (out, group) := evaluate platform.toPlatform identity domain layer ctx
  { action := out.action
    groupID := group.id
    groupName := group.name
    ruleID := out.ruleID
    matchedDomain := out.matched
    reason := out.reason
    safeSearch := group.safeSearch
    trace := out.trace
    proxyOnly := out.proxyOnly
    blockURLRegexes := out.urlRegexes
    blockContentTypes := out.contentTypes
    urlBlocked := !requestURL.isEmpty && out.urlRegexes.any fun pattern =>
      (platform.compile pattern).any (· requestURL)
    policyRevision := ctx.snap.version }

/-- The context of a preview: the instant and the pauses are those of the time given, if it
can be read. -/
def Service.previewContext (s : Service) (clock : Time) (time : Bytes) : EvalContext :=
  let ctx := s.liveContext clock
  if time.isEmpty then ctx
  else
    match platform.parseTime time with
    | none => ctx
    | some t => { ctx with now := t, pauses := pausesActiveAt s.pauses t }

def Service.preview (s : Service) (devices : Option (Bytes → Sighting)) (clock : Time)
    (req : PreviewRequest) : PreviewResult :=
  let ctx := s.previewContext platform clock req.time
  let domain := req.effectiveDomain platform
  let base := resolveBaseIdentity devices req.clientIP req.user req.protocolDNS
  let active := previewEvaluation platform base domain req.url ctx req.layer
  let proposed :=
    match req.proposed with
    | none => active
    | some proposed =>
      previewEvaluation platform base domain req.url
        { ctx with snap := snapshotFromProposed proposed ctx.snap.version clock } req.layer
  { identity := { base with groupID := active.groupID }
    active
    proposed
    changed := proposed.action ≠ active.action || proposed.groupID ≠ active.groupID ||
      proposed.urlBlocked ≠ active.urlBlocked }

/-- What live enforcement evaluates for the request with the service clock at `now`:
`ResolveIdentity` or `ResolveIdentityForDNS`, and `evaluate` for the layer. -/
def Service.enforce (s : Service) (devices : Option (Bytes → Sighting)) (now : Time)
    (req : PreviewRequest) : GroupOutcome × PolicyGroup :=
  evaluate platform.toPlatform
    (resolveIdentity devices req.clientIP req.user req.protocolDNS s.snapshot)
    (req.effectiveDomain platform) req.layer (s.liveContext now)

/-! ## Previews and decisions -/

/-- The preview shows the action, policy, rule, matched domain and conditions that are
enforced. -/
structure PreviewEvaluation.Shows (eval : PreviewEvaluation) (out : GroupOutcome)
    (group : PolicyGroup) : Prop where
  action : eval.action = out.action
  groupID : eval.groupID = group.id
  ruleID : eval.ruleID = out.ruleID
  matchedDomain : eval.matchedDomain = out.matched
  urlRegexes : eval.blockURLRegexes = out.urlRegexes
  contentTypes : eval.blockContentTypes = out.contentTypes

/-- The pattern of the exception that applies to the request, of those in force at an
instant. -/
def Service.exemptAt (s : Service) (devices : Option (Bytes → Sighting))
    (req : PreviewRequest) (now : Time) : Option Bytes :=
  (evaluateExceptionIn (resolveIdentity devices req.clientIP req.user req.protocolDNS s.snapshot)
    (canonicalDomain (req.effectiveDomain platform)) (activeExceptions s.exceptions now)).map
    Exception.domain

def Service.unexempted (s : Service) (devices : Option (Bytes → Sighting)) (now : Time)
    (req : PreviewRequest) : GroupOutcome × PolicyGroup :=
  { s with exceptions := [] }.enforce platform devices now req

def GroupOutcome.decision (out : GroupOutcome) :
    PolicyAction × Bytes × Bytes × List Bytes × List Bytes :=
  (out.action, out.ruleID, out.matched, out.urlRegexes, out.contentTypes)

def Service.AllowsAlone (s : Service) (devices : Option (Bytes → Sighting)) (now : Time)
    (req : PreviewRequest) (pattern : Bytes) : Prop :=
  (s.unexempted platform devices now req).1.decision = (.allow, [], pattern, [], [])

end Preview

section Exemptions

variable (platform : Platform) (identity : Identity) (domain : Bytes) (layer : DecisionLayer)

theorem decision_evaluate (ctx : EvalContext) :
    (evaluate platform identity domain layer ctx).1.decision =
      match (evaluateExceptionIn identity (canonicalDomain domain) ctx.exceptions).map
          Exception.domain with
      | some pattern => (.allow, [], pattern, [], [])
      | none =>
        (evaluate platform identity domain layer { ctx with exceptions := [] }).1.decision := by
  have hnone : evaluateExceptionIn identity (canonicalDomain domain) [] = none := rfl
  cases hexempt : evaluateExceptionIn identity (canonicalDomain domain) ctx.exceptions with
  | some e => simp [evaluate, hexempt, GroupOutcome.decision]
  | none => simp [evaluate, hexempt, hnone]

theorem evaluate_group (ctx : EvalContext) :
    (evaluate platform identity domain layer ctx).2 = ctx.snap.groupOf identity.groupID := by
  unfold evaluate
  dsimp only
  split
  · rfl
  · split
    · rfl
    · split
      · rfl
      · rfl

end Exemptions

section Truth

variable {platform : PreviewPlatform} {s : Service} {devices : Option (Bytes → Sighting)}
  {clock t : Time} {req : PreviewRequest}

theorem shows_previewEvaluation_iff {base : Identity} {domain requestURL : Bytes}
    {ctx : EvalContext} {layer : DecisionLayer} {out : GroupOutcome} :
    (previewEvaluation platform base domain requestURL ctx layer).Shows out
        (ctx.snap.groupOf (groupIDForSnapshot base ctx.snap)) ↔
      (evaluate platform.toPlatform { base with groupID := groupIDForSnapshot base ctx.snap }
        domain layer ctx).1.decision = out.decision := by
  constructor
  · intro h
    simp only [GroupOutcome.decision, Prod.mk.injEq]
    exact ⟨h.action, h.ruleID, h.matchedDomain, h.urlRegexes, h.contentTypes⟩
  · intro h
    simp only [GroupOutcome.decision, Prod.mk.injEq] at h
    refine ⟨h.1, ?_, h.2.1, h.2.2.1, h.2.2.2.1, h.2.2.2.2⟩
    exact congrArg PolicyGroup.id (evaluate_group platform.toPlatform _ domain layer ctx)

theorem shows_preview_iff (hgiven : req.time ≠ []) (htime : platform.parseTime req.time = some t) :
    (s.preview platform devices clock req).active.Shows (s.enforce platform devices t req).1
        (s.enforce platform devices t req).2 ↔
      (evaluate platform.toPlatform
        (resolveIdentity devices req.clientIP req.user req.protocolDNS s.snapshot)
        (req.effectiveDomain platform) req.layer
        { s.liveContext t with
          exceptions := activeExceptions s.exceptions clock }).1.decision =
      (s.enforce platform devices t req).1.decision := by
  have hempty : req.time.isEmpty = false := by simpa using hgiven
  have hactive : (s.preview platform devices clock req).active = previewEvaluation platform
        (resolveBaseIdentity devices req.clientIP req.user req.protocolDNS)
        (req.effectiveDomain platform) req.url
        { s.liveContext t with exceptions := activeExceptions s.exceptions clock }
        req.layer := by
    simp only [Service.preview, Service.previewContext, hempty, htime]
    rfl
  have hgroup : (s.enforce platform devices t req).2 = s.snapshot.groupOf
      (resolveIdentity devices req.clientIP req.user req.protocolDNS s.snapshot).groupID :=
    evaluate_group _ _ _ _ _
  rw [hactive, hgroup]
  exact shows_previewEvaluation_iff

/-- A preview at another time is true exactly if the exceptions of the clock and those of
that time exempt the request by the same pattern or not at all, or the policy on its own
allows the request just as the exception does. -/
theorem preview_true_iff (hgiven : req.time ≠ [])
    (htime : platform.parseTime req.time = some t) :
    (s.preview platform devices clock req).active.Shows (s.enforce platform devices t req).1
        (s.enforce platform devices t req).2 ↔
      s.exemptAt platform devices req clock = s.exemptAt platform devices req t ∨
        ∃ pattern, s.AllowsAlone platform devices t req pattern ∧
          ((s.exemptAt platform devices req clock = some pattern ∧
              s.exemptAt platform devices req t = none) ∨
            (s.exemptAt platform devices req clock = none ∧
              s.exemptAt platform devices req t = some pattern)) := by
  rw [shows_preview_iff hgiven htime]
  unfold Service.exemptAt Service.AllowsAlone Service.unexempted Service.enforce
  -- without exceptions, both contexts are the one of the policy on its own
  have halone : ({ s with exceptions := [] } : Service).liveContext t =
      { s.liveContext t with exceptions := [] } := rfl
  have hexceptions : (s.liveContext t).exceptions = activeExceptions s.exceptions t := rfl
  rw [halone, decision_evaluate, decision_evaluate _ _ _ _ (s.liveContext t), hexceptions]
  split
  · next pattern hclock =>
    rw [hclock]
    split
    · next other hother => simp [hother]
    · next hnone => simp [hnone, eq_comm]
  · next hclock =>
    rw [hclock]
    split
    · next other hother => simp [hother]
    · next hnone => simp [hnone]

end Truth

def fixedTimePlatform (t : Time) : PreviewPlatform where
  loadLocation _ := none
  quote text := text
  parseTime _ := some t
  hostnameOf _ := none
  compile _ := none

def hourGrantService : Service where
  snapshot := snapshotFromDocument
    { version := documentVersion, assignments := [], migratedFrom := [], updatedAt := zeroTime
      groups := [{ defaultGroup with blockedDomains := [utf8 "games.example"] }] }
  exceptions :=
    [{ id := utf8 "e", domain := utf8 "games.example", scope := .installation, createdAt := 0
       expiresAt := hour, active := true }]
  pauses := []
  categories := none
  enabledCategories := []

def gamesPreview : PreviewRequest where
  clientIP := []
  user := []
  domain := utf8 "games.example"
  time := utf8 "2026-01-01T00:00:00Z"

theorem preview_true_minute :
    (hourGrantService.preview (fixedTimePlatform minute) none 0 gamesPreview).active.Shows
      (hourGrantService.enforce (fixedTimePlatform minute) none minute gamesPreview).1
      (hourGrantService.enforce (fixedTimePlatform minute) none minute gamesPreview).2 := by
  apply (preview_true_iff (by decide) rfl).mpr
  left
  decide

/-- The preview for two hours later allows the domain by an exception that has expired. -/
theorem preview_false_twoHours :
    (hourGrantService.preview (fixedTimePlatform (2 * hour)) none 0 gamesPreview).active.action =
        .allow ∧
      (hourGrantService.enforce (fixedTimePlatform (2 * hour)) none (2 * hour)
        gamesPreview).1.action = .block := by
  decide

end GateSentry.Policy
