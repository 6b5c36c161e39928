import GateSentry.Policy.Identity

/-!
# Devices that an address does not tell reliably

A stale or shared address does not tell which device sent a request.  A shared
one names no device at all; a stale one keeps the last device, and what follows
from it for a decision of the proxy is worked out here.
-/

namespace GateSentry.Policy

open Foundation ByteText Calendar

def ProxyMatch.enforced (result : ProxyMatch) : ProxyMatch := { result with reason := [] }

structure Rulebook where
  rules : List GroupRule := []
  allowedDomains : List Bytes := []
  blockedDomains : List Bytes := []
  blockedCategories : List Bytes := []

def PolicyGroup.saying (book : Rulebook) (group : PolicyGroup) : PolicyGroup :=
  { group with
    rules := book.rules, allowedDomains := book.allowedDomains
    blockedDomains := book.blockedDomains, blockedCategories := book.blockedCategories }

def Service.saying (s : Service) (book : Bytes → Rulebook) (index : Option CategoryIndex)
    (gatewayCategories : List Bytes) : Service :=
  { s with
    snapshot := { s.snapshot with
      groups := Dict.mapValues (fun group => group.saying (book group.id)) s.snapshot.groups }
    categories := index, enabledCategories := gatewayCategories }

/-- The policy that applies when the address is stale and `deviceID` the last device
seen there. -/
def PolicySnapshot.staleGroup (snap : PolicySnapshot) (authUser deviceID : Bytes) : Bytes :=
  let login := loginOf authUser
  if login.isEmpty then defaultGroupID
  else if !(groupForUserIn snap login).isEmpty then groupForUserIn snap login
  else if deviceID.isEmpty then defaultGroupID
  else snap.assignedGroup deviceID

def Service.staleIdentity (s : Service) (authUser deviceID : Bytes) : Identity :=
  { deviceID, groupID := s.snapshot.staleGroup authUser deviceID }

def Service.staleException (s : Service) (authUser domain : Bytes) (now : Time)
    (deviceID : Bytes) : Option Bytes :=
  (evaluateExceptionIn (s.staleIdentity authUser deviceID) (canonicalDomain domain)
    (activeExceptions s.exceptions now)).map (·.domain)

def Service.stalePaused (s : Service) (authUser : Bytes) (now : Time) (deviceID : Bytes) :
    Bool :=
  (evaluatePauseIn (s.staleIdentity authUser deviceID) (pausesActiveAt s.pauses now)).isSome

/-- Both devices are in one policy, the same exception pattern applies to both or
none to either, and in the latter case both are paused or neither. -/
def Service.TreatsAlike (s : Service) (authUser domain : Bytes) (now : Time)
    (first second : Bytes) : Prop :=
  s.snapshot.staleGroup authUser first = s.snapshot.staleGroup authUser second ∧
    s.staleException authUser domain now first = s.staleException authUser domain now second ∧
    (s.staleException authUser domain now first = none →
      s.stalePaused authUser now first = s.stalePaused authUser now second)

/-! ## What a decision depends on -/

def enforcedProxy (platform : Platform) (ctx : EvalContext) (domain authUser groupID : Bytes)
    (exempt : Option Bytes) (paused : Bool) : ProxyMatch :=
  let group := ctx.snap.groupOf groupID
  match exempt with
  | some pattern =>
    { isMatched := true, allowed := true, groupID := group.id, ruleID := []
      matchedDomain := pattern, reason := [] }
  | none =>
    ((evaluateGroup platform group {
      domain := canonicalDomain domain, user := authUser, now := ctx.now
      layer := .explicitProxy, paused, index := ctx.index
      gatewayCategories := ctx.gatewayCategories }).proxyMatch group).enforced

variable (out : GroupOutcome)

theorem enforced_proxyMatch_reason (group : PolicyGroup) (reason : Bytes) :
    ({ out with reason }.proxyMatch group).enforced = (out.proxyMatch group).enforced := by
  unfold GroupOutcome.proxyMatch
  split
  · rfl
  · split
    · rfl
    · split
      · rfl
      · rfl

variable (platform : Platform)

theorem enforced_evaluateProxyIn (identity : Identity) (domain : Bytes) (ctx : EvalContext) :
    (evaluateProxyIn platform identity domain ctx).enforced =
      enforcedProxy platform ctx domain identity.authUser identity.groupID
        ((evaluateExceptionIn identity (canonicalDomain domain) ctx.exceptions).map (·.domain))
        (evaluatePauseIn identity ctx.pauses).isSome := by
  unfold evaluateProxyIn evaluate enforcedProxy
  dsimp only
  cases evaluateExceptionIn identity (canonicalDomain domain) ctx.exceptions with
  | some e => rfl
  | none =>
    cases evaluatePauseIn identity ctx.pauses with
    | none => rfl
    | some pause =>
      dsimp only [Option.isSome_some]
      split
      · exact enforced_proxyMatch_reason _ _ _
      · rfl

/-! ## Identities -/

section Identities

variable (resolve : Bytes → Sighting) {clientIP : Bytes}

theorem resolveIdentity_ambiguous (h : (resolve clientIP).ambiguous = true)
    (authUser : Bytes) (confirms : Bool) (snap : PolicySnapshot) :
    resolveIdentity (some resolve) clientIP authUser confirms snap =
      resolveIdentity (some fun _ => ⟨[], true, false⟩) clientIP authUser confirms snap := by
  unfold resolveIdentity resolveBaseIdentity sightedIdentity
  simp [h]

theorem resolveIdentity_stale (hip : clientIP ≠ [])
    (hambiguous : (resolve clientIP).ambiguous = false)
    (hstale : (resolve clientIP).stale = true) (authUser : Bytes) (snap : PolicySnapshot) :
    ∃ source explanation, resolveIdentity (some resolve) clientIP authUser false snap =
      { deviceID := (resolve clientIP).deviceID, authUser := loginOf authUser
        groupID := snap.staleGroup authUser (resolve clientIP).deviceID
        source, explanation } := by
  have hempty : clientIP.isEmpty = false := by simpa using hip
  cases hlogin : loginOf authUser with
  | nil | cons =>
    simp [resolveIdentity, resolveBaseIdentity, sightedIdentity, hempty, hambiguous, hstale,
      hlogin, groupIDForSnapshot, PolicySnapshot.staleGroup]

end Identities

theorem enforced_decideProxy_stale (s : Service) {sighting : Sighting} {clientIP : Bytes}
    (hip : clientIP ≠ []) (hambiguous : sighting.ambiguous = false)
    (hstale : sighting.stale = true) (authUser domain : Bytes) (now : Time) :
    (s.decideProxy platform (some fun _ => sighting) clientIP authUser domain now).enforced =
      enforcedProxy platform (s.liveContext now) domain (loginOf authUser)
        (s.snapshot.staleGroup authUser sighting.deviceID)
        (s.staleException authUser domain now sighting.deviceID)
        (s.stalePaused authUser now sighting.deviceID) := by
  obtain ⟨source, explanation, hidentity⟩ := resolveIdentity_stale
    (fun _ => sighting) hip hambiguous hstale authUser s.snapshot
  unfold Service.decideProxy
  rw [hidentity, enforced_evaluateProxyIn]
  rfl

/-! ## Rulebooks -/

section Rulebooks

variable (s : Service) (book : Bytes → Rulebook) (index : Option CategoryIndex)
  (gatewayCategories : List Bytes)

theorem lookup_saying (key : Bytes) :
    (s.saying book index gatewayCategories).snapshot.groups.lookup key =
      (s.snapshot.groups.lookup key).map fun group => group.saying (book group.id) :=
  Dict.lookup_mapValues _ _ _

theorem mem_groups_saying (key : Bytes) :
    key ∈ (s.saying book index gatewayCategories).snapshot.groups ↔ key ∈ s.snapshot.groups := by
  rw [← AList.lookup_isSome, lookup_saying, Option.isSome_map, AList.lookup_isSome]

theorem groupForUserIn_saying (user : Bytes) :
    groupForUserIn (s.saying book index gatewayCategories).snapshot user =
      groupForUserIn s.snapshot user := by
  unfold groupForUserIn Service.saying Dict.mapValues
  rw [List.foldl_map]
  rfl

theorem assignedGroup_saying (deviceID : Bytes) :
    (s.saying book index gatewayCategories).snapshot.assignedGroup deviceID =
      s.snapshot.assignedGroup deviceID := by
  have hassignments : (s.saying book index gatewayCategories).snapshot.assignments =
      s.snapshot.assignments := rfl
  unfold PolicySnapshot.assignedGroup
  rw [hassignments]
  cases s.snapshot.assignments.lookup deviceID with
  | none => rfl
  | some id => simp only [mem_groups_saying]

theorem staleGroup_saying (authUser deviceID : Bytes) :
    (s.saying book index gatewayCategories).snapshot.staleGroup authUser deviceID =
      s.snapshot.staleGroup authUser deviceID := by
  unfold PolicySnapshot.staleGroup
  dsimp only
  rw [groupForUserIn_saying, assignedGroup_saying]

theorem staleException_saying (authUser domain : Bytes) (now : Time) (deviceID : Bytes) :
    (s.saying book index gatewayCategories).staleException authUser domain now deviceID =
      s.staleException authUser domain now deviceID := by
  unfold Service.staleException Service.staleIdentity
  rw [staleGroup_saying]
  rfl

theorem stalePaused_saying (authUser : Bytes) (now : Time) (deviceID : Bytes) :
    (s.saying book index gatewayCategories).stalePaused authUser now deviceID =
      s.stalePaused authUser now deviceID := by
  unfold Service.stalePaused Service.staleIdentity
  rw [staleGroup_saying]
  rfl

end Rulebooks

theorem groupForUserIn_mem (snap : PolicySnapshot) (user : Bytes)
    (h : groupForUserIn snap user ≠ []) :
    ∃ entry ∈ snap.groups.entries, entry.2.id = groupForUserIn snap user := by
  -- the best policy so far is one of those visited
  let Known (best : Bytes × Int) : Prop :=
    best.1 = [] ∨ ∃ entry ∈ snap.groups.entries, entry.2.id = best.1
  have hfound : Known (snap.groups.entries.foldl
      (fun best entry => entry.2.users.foldl (visitUser user entry.2) best) ([], maxInt)) := by
    apply List.foldlRecOn (motive := Known) _ _ (.inl rfl)
    intro best hbest entry hentry
    apply List.foldlRecOn (motive := Known) _ _ hbest
    intro best hbest candidate _
    unfold visitUser
    split
    · exact hbest
    · split
      · exact .inr ⟨entry, hentry, rfl⟩
      · exact hbest
  exact hfound.resolve_left h

variable {snap : PolicySnapshot}

theorem assignedGroup_mem (h : snap.WellFormed) (deviceID : Bytes) :
    snap.assignedGroup deviceID ∈ snap.groups := by
  unfold PolicySnapshot.assignedGroup
  split
  · exact h.hasDefault
  · split
    · assumption
    · exact h.hasDefault

theorem staleGroup_mem (h : snap.WellFormed) (authUser deviceID : Bytes) :
    snap.staleGroup authUser deviceID ∈ snap.groups := by
  unfold PolicySnapshot.staleGroup
  dsimp only
  split
  · exact h.hasDefault
  · split
    · rename_i huser
      obtain ⟨entry, hentry, hid⟩ := groupForUserIn_mem snap (loginOf authUser)
        (by simpa using huser)
      have hlookup : snap.groups.lookup entry.1 = some entry.2 :=
        AList.mem_lookup_iff.mpr hentry
      rw [← hid, h.keyed _ _ hlookup, ← AList.lookup_isSome, hlookup]
      rfl
    · split
      · exact h.hasDefault
      · exact assignedGroup_mem h deviceID

theorem groupOf_saying {s : Service} (h : s.snapshot.WellFormed)
    (book : Bytes → Rulebook) (index : Option CategoryIndex) (gatewayCategories : List Bytes)
    {groupID : Bytes} (hgroup : groupID ∈ s.snapshot.groups) :
    ∃ group : PolicyGroup, group.id = groupID ∧
      (s.saying book index gatewayCategories).snapshot.groupOf groupID =
        group.saying (book groupID) := by
  rw [← AList.lookup_isSome, Option.isSome_iff_exists] at hgroup
  obtain ⟨group, hlookup⟩ := hgroup
  have hid := h.keyed _ _ hlookup
  refine ⟨group, hid, ?_⟩
  unfold PolicySnapshot.groupOf
  rw [lookup_saying, hlookup, Option.map_some, Option.getD_some, hid]

/-! ## Devices and decisions -/

section

variable (group : PolicyGroup)

include group

theorem evaluateGroup_silent (req : EvalRequest) (hgateway : req.gatewayCategories = []) :
    (evaluateGroup platform (group.saying {}) req).action = .none ∧
      (evaluateGroup platform (group.saying {}) req).urlRegexes = [] ∧
      (evaluateGroup platform (group.saying {}) req).contentTypes = [] := by
  simp [evaluateGroup, PolicyGroup.saying, evaluateRules, evaluateLists, matchDomainList,
    matchCategoryList, evaluateBlocked, hgateway, GroupOutcome.step]

def blockAll : Rulebook :=
  { rules := [{ enabled := true, action := .block, target := { allTraffic := true } }] }

theorem evaluateGroup_blockAll (req : EvalRequest) (hgateway : req.gatewayCategories = []) :
    (evaluateGroup platform (group.saying blockAll) req).action =
      if req.paused then .none else .block := by
  have hstar : (utf8 "*").isEmpty = false := by decide
  cases hpaused : req.paused with
  | true =>
    simp [evaluateGroup, PolicyGroup.saying, blockAll, evaluateRules, evaluateRule,
      matchTarget, hstar, hpaused, evaluateLists, matchDomainList, matchCategoryList,
      evaluateBlocked, hgateway, GroupOutcome.step]
  | false =>
    simp [evaluateGroup, PolicyGroup.saying, blockAll, evaluateRules, evaluateRule,
      matchTarget, hstar, hpaused, ruleConditionsNeedingProxy, GroupOutcome.step]

theorem groupID_proxyMatch : (out.proxyMatch group).groupID = group.id := by
  unfold GroupOutcome.proxyMatch
  split
  · rfl
  · split
    · rfl
    · split
      · rfl
      · rfl

theorem shouldBlock_proxyMatch :
    (out.proxyMatch group).shouldBlock = decide (out.action = .block) := by
  unfold GroupOutcome.proxyMatch
  split
  · simp_all
  · split
    · simp_all
    · split
      · simp_all
      · simp_all

end

section Decisions

variable (platform : Platform) {s : Service} (now : Time) (domain authUser : Bytes)
  {groupID : Bytes}

section

variable (h : s.snapshot.WellFormed)

include h

theorem groupID_enforcedProxy (book : Bytes → Rulebook) (hgroup : groupID ∈ s.snapshot.groups)
    (exempt : Option Bytes) (paused : Bool) :
    (enforcedProxy platform ((s.saying book none []).liveContext now) domain authUser groupID
      exempt paused).groupID = groupID := by
  obtain ⟨group, hid, hgroupOf⟩ := groupOf_saying h book none [] hgroup
  have hfound : ((s.saying book none []).liveContext now).snap.groupOf groupID =
    group.saying (book groupID) := hgroupOf
  cases exempt with
  | some pattern =>
    simp only [enforcedProxy, hfound]
    exact hid
  | none =>
    simp only [enforcedProxy, ProxyMatch.enforced, groupID_proxyMatch, hfound]
    exact hid

theorem isMatched_enforcedProxy (hgroup : groupID ∈ s.snapshot.groups) (exempt : Option Bytes)
    (paused : Bool) :
    (enforcedProxy platform ((s.saying (fun _ => {}) none []).liveContext now) domain authUser
      groupID exempt paused).isMatched = exempt.isSome := by
  obtain ⟨group, -, hgroupOf⟩ := groupOf_saying h (fun _ => {}) none [] hgroup
  have hfound : ((s.saying (fun _ => {}) none []).liveContext now).snap.groupOf groupID =
    group.saying {} := hgroupOf
  cases exempt with
  | some pattern => rfl
  | none =>
    unfold enforcedProxy
    rw [hfound]
    obtain ⟨haction, hurls, htypes⟩ := evaluateGroup_silent platform group
      { domain := canonicalDomain domain, user := authUser, now
        layer := .explicitProxy, paused, index := none, gatewayCategories := [] } rfl
    simp [ProxyMatch.enforced, GroupOutcome.proxyMatch, Service.liveContext, Service.saying,
      haction, hurls, htypes]

theorem shouldBlock_enforcedProxy (hgroup : groupID ∈ s.snapshot.groups) (paused : Bool) :
    (enforcedProxy platform ((s.saying (fun _ => blockAll) none []).liveContext now) domain
      authUser groupID none paused).shouldBlock = !paused := by
  obtain ⟨group, -, hgroupOf⟩ := groupOf_saying h (fun _ => blockAll) none [] hgroup
  have hfound : ((s.saying (fun _ => blockAll) none []).liveContext now).snap.groupOf groupID =
    group.saying blockAll := hgroupOf
  unfold enforcedProxy
  rw [hfound]
  have haction := evaluateGroup_blockAll platform group
    { domain := canonicalDomain domain, user := authUser, now
      layer := .explicitProxy, paused, index := none, gatewayCategories := [] } rfl
  change (GroupOutcome.proxyMatch _ _).shouldBlock = _
  rw [shouldBlock_proxyMatch]
  refine (congrArg (fun action => decide (action = .block)) haction).trans ?_
  cases paused with
  | false | true => rfl

end

end Decisions

theorem treatsAlike_of_enforced {s : Service} (h : s.snapshot.WellFormed) (platform : Platform)
    (authUser domain : Bytes) (now : Time) (first second : Bytes)
    (halike : ∀ book : Bytes → Rulebook,
      enforcedProxy platform ((s.saying book none []).liveContext now) domain
        (loginOf authUser) (s.snapshot.staleGroup authUser first)
        (s.staleException authUser domain now first) (s.stalePaused authUser now first) =
      enforcedProxy platform ((s.saying book none []).liveContext now) domain
        (loginOf authUser) (s.snapshot.staleGroup authUser second)
        (s.staleException authUser domain now second)
        (s.stalePaused authUser now second)) : s.TreatsAlike authUser domain now first second := by
  have hfirst := staleGroup_mem h authUser first
  have hsecond := staleGroup_mem h authUser second
  refine ⟨?_, ?_, ?_⟩
  · have hgroup := congrArg ProxyMatch.groupID (halike fun _ => {})
    rwa [groupID_enforcedProxy _ _ _ _ h _ hfirst,
      groupID_enforcedProxy _ _ _ _ h _ hsecond] at hgroup
  · have hmatched := congrArg ProxyMatch.isMatched (halike fun _ => {})
    rw [isMatched_enforcedProxy _ _ _ _ h hfirst,
      isMatched_enforcedProxy _ _ _ _ h hsecond] at hmatched
    have hdomain := congrArg ProxyMatch.matchedDomain (halike fun _ => {})
    cases hone : s.staleException authUser domain now first with
    | none =>
      rw [hone] at hmatched
      exact (Option.isSome_eq_false_iff.mp hmatched.symm |> Option.isNone_iff_eq_none.mp).symm
    | some pattern =>
      rw [hone] at hmatched hdomain
      obtain ⟨other, hother⟩ := Option.isSome_iff_exists.mp hmatched.symm
      rw [hother] at hdomain ⊢
      exact congrArg some hdomain
  · intro hnone
    have hblock := congrArg ProxyMatch.shouldBlock (halike fun _ => blockAll)
    have hnone' : s.staleException authUser domain now second = none := by
      have hmatched := congrArg ProxyMatch.isMatched (halike fun _ => {})
      rw [isMatched_enforcedProxy _ _ _ _ h hfirst,
        isMatched_enforcedProxy _ _ _ _ h hsecond, hnone] at hmatched
      exact Option.isSome_eq_false_iff.mp hmatched.symm |> Option.isNone_iff_eq_none.mp
    rw [hnone, hnone', shouldBlock_enforcedProxy _ _ _ _ h hfirst,
      shouldBlock_enforcedProxy _ _ _ _ h hsecond] at hblock
    exact Bool.not_inj hblock

theorem decideProxy_ambiguous (s : Service) {first second : Sighting}
    (hfirst : first.ambiguous = true) (hsecond : second.ambiguous = true)
    (clientIP authUser domain : Bytes) (now : Time) :
    s.decideProxy platform (some fun _ => first) clientIP authUser domain now =
      s.decideProxy platform (some fun _ => second) clientIP authUser domain now := by
  unfold Service.decideProxy
  rw [resolveIdentity_ambiguous (fun _ => first) hfirst,
    resolveIdentity_ambiguous (fun _ => second) hsecond]

/-- Two sightings of a stale or shared address that differ in the device lead to the
same decision, whatever the policies say, exactly if there is no address to look
up, it is shared, or the two devices are treated alike. -/
theorem decideProxy_ignoresDevice_iff (platform : Platform) (s : Service)
    (hs : s.snapshot.WellFormed) (clientIP authUser domain : Bytes) (now : Time)
    (first second : Sighting) (hambiguous : first.ambiguous = second.ambiguous)
    (hstale : first.stale = second.stale)
    (huntrusted : first.ambiguous = true ∨ first.stale = true) :
    (∀ book index gatewayCategories,
      ((s.saying book index gatewayCategories).decideProxy platform (some fun _ => first)
        clientIP authUser domain now).enforced =
      ((s.saying book index gatewayCategories).decideProxy platform (some fun _ => second)
        clientIP authUser domain now).enforced) ↔
      clientIP = [] ∨ first.ambiguous = true ∨
        s.TreatsAlike authUser domain now first.deviceID second.deviceID := by
  have hold : first.ambiguous = false → first.stale = true := by
    intro hshared
    rw [hshared] at huntrusted
    exact huntrusted.resolve_left Bool.false_ne_true
  by_cases hip : clientIP = []
  · subst hip
    exact ⟨fun _ => .inl rfl, fun _ _ _ _ => rfl⟩
  cases hshared : first.ambiguous with
  | true =>
    refine ⟨fun _ => .inr (.inl rfl), fun _ book index gatewayCategories => ?_⟩
    rw [decideProxy_ambiguous platform _ hshared (hambiguous ▸ hshared)]
  | false =>
    have hfirst := fun s' : Service => enforced_decideProxy_stale platform s' hip hshared
      (hold hshared) authUser domain now
    have hsecond := fun s' : Service => enforced_decideProxy_stale platform s' hip
      (hambiguous ▸ hshared) (hstale ▸ hold hshared) authUser domain now
    simp only [hfirst, hsecond, staleGroup_saying, staleException_saying, stalePaused_saying]
    constructor
    · intro h
      exact .inr (.inr (treatsAlike_of_enforced hs platform _ _ _ _ _ fun book =>
        h book none []))
    · intro h book index gatewayCategories
      obtain ⟨hgroup, hexception, hpaused⟩ :=
        (h.resolve_left hip).resolve_left Bool.false_ne_true
      rw [← hgroup, ← hexception]
      cases hnone : s.staleException authUser domain now first.deviceID with
      | none => rw [hpaused hnone]
      | some pattern => rfl

/-! ## A stale address -/

def tabletService : Service where
  snapshot := snapshotFromDocument (withDefaultGroup
    { version := documentVersion, groups := [], assignments := [], migratedFrom := []
      updatedAt := zeroTime })
  exceptions := [{ id := utf8 "e1", domain := utf8 "example.com", scope := .device
                   deviceID := utf8 "tablet", createdAt := 0, expiresAt := 60 * minute
                   active := true }]
  pauses := []
  categories := none
  enabledCategories := []

theorem decideProxy_ignoresDevice_otherDomain :
    tabletService.TreatsAlike [] (utf8 "other.org") minute (utf8 "tablet") (utf8 "laptop") ∧
    ∀ book index gatewayCategories,
      ((tabletService.saying book index gatewayCategories).decideProxy plainPlatform
        (some fun _ => ⟨utf8 "tablet", false, true⟩) (utf8 "10.0.0.7") [] (utf8 "other.org")
        minute).enforced =
      ((tabletService.saying book index gatewayCategories).decideProxy plainPlatform
        (some fun _ => ⟨utf8 "laptop", false, true⟩) (utf8 "10.0.0.7") [] (utf8 "other.org")
        minute).enforced := by
  have hs : tabletService.snapshot.WellFormed := snapshot_wellFormed _
  have halike : tabletService.TreatsAlike [] (utf8 "other.org") minute (utf8 "tablet")
      (utf8 "laptop") :=
    ⟨by decide +kernel, by decide +kernel, fun _ => by decide +kernel⟩
  refine ⟨halike, ?_⟩
  apply (decideProxy_ignoresDevice_iff plainPlatform tabletService hs _ _ _ _
    ⟨utf8 "tablet", false, true⟩ ⟨utf8 "laptop", false, true⟩ rfl rfl (.inr rfl)).mpr
  exact .inr (.inr halike)

/-- The stale tablet is exempt where the stale laptop is not. -/
theorem decideProxy_differs_staleTablet :
    (tabletService.decideProxy plainPlatform (some fun _ => ⟨utf8 "tablet", false, true⟩)
      (utf8 "10.0.0.7") [] (utf8 "example.com") minute).allowed = true ∧
    (tabletService.decideProxy plainPlatform (some fun _ => ⟨utf8 "laptop", false, true⟩)
      (utf8 "10.0.0.7") [] (utf8 "example.com") minute).allowed = false := by
  decide +kernel

end GateSentry.Policy
