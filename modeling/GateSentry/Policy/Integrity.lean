import GateSentry.Policy.Mutations

/-!
# Well-formed policy documents

Whatever is written, the stored document has a default policy, each policy once under its
id, no user in two policies, and no address among the users.
-/

namespace GateSentry.Policy

open Foundation ByteText Calendar

/-! ## Documents -/

def NoAddress (user : Bytes) : Prop :=
  Net.parseIP user = none ∧
    ∀ host port, Net.splitHostPort user = .ok (host, port) → Net.parseIP host = none

def PolicyGroup.listedUsers (group : PolicyGroup) : List Bytes :=
  group.users ++ group.rules.flatMap (·.users)

structure PolicyDocument.WellFormed (doc : PolicyDocument) : Prop where
  hasDefault : ∃ group ∈ doc.groups, group.id = defaultGroupID
  once : (doc.groups.map (·.id)).Nodup
  users : ∀ group ∈ doc.groups, ∀ other ∈ doc.groups, ∀ user ∈ group.users,
    user ∈ other.users → group = other
  names : ∀ group ∈ doc.groups, ∀ user ∈ group.listedUsers, NoAddress user

def PolicyText.WellFormed (raw : PolicyText) : Prop :=
  raw = .empty ∨ ∃ doc, raw = .current doc ∧ doc.WellFormed

/-! ## Snapshots -/

structure PolicySnapshot.Integral (snap : PolicySnapshot) : Prop where
  keyed : ∀ id group, snap.groups.lookup id = some group → group.id = id
  users : ∀ id group id' other, snap.groups.lookup id = some group →
    snap.groups.lookup id' = some other → ∀ user ∈ group.users, user ∈ other.users → id = id'
  names : ∀ id group, snap.groups.lookup id = some group → ∀ user ∈ group.listedUsers,
    NoAddress user

theorem noAddress_of_not_isAddressLike {user : Bytes} (hne : user ≠ [])
    (h : isAddressLike user = false) : NoAddress user := by
  have hfilled : user.isEmpty = false := by simpa using hne
  simp only [isAddressLike, hfilled, Bool.not_false, Bool.true_and, Bool.or_eq_false_iff,
    Option.isSome_eq_false_iff, Option.isNone_iff_eq_none] at h
  refine ⟨h.1, fun host port hsplit => ?_⟩
  have hhost := h.2
  rw [hsplit] at hhost
  simpa using hhost

variable {platform : CheckPlatform}

theorem noAddress_of_normalizeUsers {raw users : List Bytes}
    (h : normalizeUsers platform raw = .ok users) : ∀ user ∈ users, NoAddress user := by
  intro user huser
  obtain ⟨hne, entry, -, hok⟩ := (mem_of_collect h).mp huser
  dsimp only at hok
  split at hok
  · cases hok
  · next haddress =>
    cases hok
    exact noAddress_of_not_isAddressLike hne (by simpa using haddress)

theorem noAddress_of_normalizeGroup {raw group : PolicyGroup}
    (h : normalizeGroup platform raw = .ok group) :
    ∀ user ∈ group.listedUsers, NoAddress user := by
  obtain ⟨categories, blocked, allowed, users, rules, -, -, -, husers, hrules, rfl⟩ :=
    ok_normalizeGroup h
  intro user huser
  rcases List.mem_append.mp huser with hown | hrule
  · exact noAddress_of_normalizeUsers husers user hown
  · obtain ⟨rule, hmem, hlisted⟩ := List.mem_flatMap.mp hrule
    obtain ⟨⟨other, index⟩, -, hnormal⟩ := exists_of_mem_mapM hrules hmem
    obtain ⟨domains, categories, urls, names, -, -, -, hnames, -, -, rfl⟩ :=
      ok_normalizeRule hnormal
    exact noAddress_of_normalizeUsers hnames user hlisted

theorem defaultGroup_listedUsers : defaultGroup.listedUsers = [] := rfl

theorem PolicySnapshot.Integral.document {snap : PolicySnapshot} (h : snap.Integral)
    (hdefault : defaultGroupID ∈ snap.groups) (migratedFrom : Bytes) (now : Time) :
    (documentFromSnapshot snap migratedFrom now).WellFormed where
  hasDefault := by
    obtain ⟨group, hgroup⟩ := Dict.mem_iff_lookup.mp hdefault
    exact ⟨group, mem_groups_document.mpr ⟨_, hgroup⟩, h.keyed _ _ hgroup⟩
  once := (ids_documentFromSnapshot h.keyed migratedFrom now).nodup_iff.mpr
    snap.groups.keys_nodup
  users := by
    intro group hgroup other hother user huser hlisted
    obtain ⟨id, hid⟩ := mem_groups_document.mp hgroup
    obtain ⟨id', hid'⟩ := mem_groups_document.mp hother
    have hsame := h.users id group id' other hid hid' user huser hlisted
    rw [hsame, hid', Option.some.injEq] at hid
    exact hid.symm
  names := by
    intro group hgroup
    obtain ⟨id, hid⟩ := mem_groups_document.mp hgroup
    exact h.names id group hid

variable {doc : PolicyDocument}

theorem lookup_snapshot {id : Bytes} {group : PolicyGroup}
    (h : (snapshotFromDocument doc).groups.lookup id = some group) :
    group ∈ doc.groups ∧ group.id = id := by
  obtain ⟨other, hother, hentry⟩ := Dict.exists_of_lookup_assign h
  cases hentry
  exact ⟨hother, rfl⟩

theorem PolicyDocument.WellFormed.snapshot (h : doc.WellFormed) :
    (snapshotFromDocument doc).Integral where
  keyed := fun id group hlookup => (lookup_snapshot hlookup).2
  users := by
    intro id group id' other hgroup hother user huser hlisted
    obtain ⟨hmem, rfl⟩ := lookup_snapshot hgroup
    obtain ⟨hmem', rfl⟩ := lookup_snapshot hother
    rw [h.users group hmem other hmem' user huser hlisted]
  names := fun id group hlookup => h.names group (lookup_snapshot hlookup).1

theorem withDefaultGroup_of_wellFormed (h : doc.WellFormed) : withDefaultGroup doc = doc := by
  obtain ⟨group, hgroup, hid⟩ := h.hasDefault
  unfold withDefaultGroup
  rw [if_pos]
  rw [List.any_eq_true]
  exact ⟨group, hgroup, by simpa using hid⟩

theorem empty_wellFormed : (withDefaultGroup
    { version := documentVersion, groups := [], assignments := [], migratedFrom := []
      updatedAt := zeroTime }).WellFormed where
  hasDefault := exists_defaultGroup _
  once := by simp [withDefaultGroup]
  users := by simp [withDefaultGroup]
  names := by simp [withDefaultGroup, defaultGroup_listedUsers]

variable {raw : PolicyText}

theorem PolicyText.WellFormed.decode (h : raw.WellFormed) :
    ∃ doc, decodeDocument raw = .ok doc ∧ doc.WellFormed := by
  rcases h with rfl | ⟨doc, rfl, hdoc⟩
  · exact ⟨_, rfl, empty_wellFormed⟩
  · exact ⟨doc, by rw [decodeDocument, withDefaultGroup_of_wellFormed hdoc], hdoc⟩

/-! ## Transforms -/

section Transforms

variable {platform : CheckPlatform} {snap snap' : PolicySnapshot} {group : PolicyGroup}

theorem no_conflict {other : PolicyGroup} (hnone : conflictingGroup snap group = none)
    {id : Bytes} (hother : snap.groups.lookup id = some other) (hne : other.id ≠ group.id) :
    ∀ user ∈ group.users, user ∉ other.users := by
  intro user huser hlisted
  have hmem : other ∈ snap.groups.entries.map (·.2) :=
    List.mem_map_of_mem (f := Sigma.snd) (AList.mem_lookup_iff.mp hother)
  have hfree := List.find?_eq_none.mp hnone other hmem
  apply hfree
  rw [Bool.and_eq_true, List.any_eq_true]
  refine ⟨by simpa using hne, user, huser, ?_⟩
  simpa [containsString] using hlisted

theorem addGroup_eq (h : addGroup platform snap group = .ok snap') :
    conflictingGroup snap group = none ∧ snap' = putGroup snap group := by
  unfold addGroup checkUserConflicts at h
  cases hconflict : conflictingGroup snap group with
  | some other =>
    rw [hconflict] at h
    cases h
  | none =>
    rw [hconflict] at h
    cases h
    exact ⟨rfl, rfl⟩

theorem createTransform_ok (h : createTransform platform group snap = .ok snap') :
    group.id ∉ snap.groups ∧ addGroup platform snap group = .ok snap' := by
  unfold createTransform at h
  split at h
  · cases h
  · next hnew => exact ⟨hnew, h⟩

variable {groupID : Bytes}

theorem updateTransform_ok {now : Time}
    (h : updateTransform platform groupID group now snap = .ok snap') :
    (groupID = defaultGroupID → group.users = []) ∧ ∃ createdAt, addGroup platform snap
      { group with id := groupID, createdAt, updatedAt := now } = .ok snap' := by
  unfold updateTransform at h
  split at h
  · cases h
  · next current hcurrent =>
    split at h
    · cases h
    · next hrefused =>
      refine ⟨fun hdefault => ?_, current.createdAt, h⟩
      simpa [hdefault] using hrefused

theorem deleteTransform_ok (h : deleteTransform groupID snap = .ok snap') :
    snap' = { snap with
      groups := snap.groups.erase groupID
      assignments := withoutGroup snap.assignments groupID } := by
  unfold deleteTransform at h
  split at h
  · cases h
  · cases h
    rfl

theorem PolicySnapshot.Integral.addGroup (hsnap : snap.Integral)
    (hnames : ∀ user ∈ group.listedUsers, NoAddress user)
    (h : addGroup platform snap group = .ok snap') : snap'.Integral := by
  obtain ⟨hconflict, rfl⟩ := addGroup_eq h
  have hlookup (id : Bytes) (other : PolicyGroup)
      (hother : (putGroup snap group).groups.lookup id = some other) :
      (id = group.id ∧ other = group) ∨ (id ≠ group.id ∧ snap.groups.lookup id = some other) :=
    Dict.lookup_of_insert hother
  have hfree {id : Bytes} {other : PolicyGroup} (hid : id ≠ group.id)
      (hother : snap.groups.lookup id = some other) : ∀ user ∈ group.users, user ∉ other.users := by
    apply no_conflict hconflict hother
    rw [hsnap.keyed id other hother]
    exact hid
  constructor
  · intro id other hother
    rcases hlookup id other hother with ⟨rfl, rfl⟩ | ⟨-, hold⟩
    · rfl
    · exact hsnap.keyed id other hold
  · intro id first id' second hfirst hsecond user huser hlisted
    rcases hlookup id first hfirst with ⟨rfl, rfl⟩ | ⟨hid, hold⟩
    · rcases hlookup id' second hsecond with ⟨rfl, rfl⟩ | ⟨hid', hold'⟩
      · rfl
      · exact absurd hlisted (hfree hid' hold' user huser)
    · rcases hlookup id' second hsecond with ⟨rfl, rfl⟩ | ⟨-, hold'⟩
      · exact absurd huser (hfree hid hold user hlisted)
      · exact hsnap.users id first id' second hold hold' user huser hlisted
  · intro id other hother
    rcases hlookup id other hother with ⟨-, rfl⟩ | ⟨-, hold⟩
    · exact hnames
    · exact hsnap.names id other hold

theorem PolicySnapshot.Integral.of_lookup (hsnap : snap.Integral)
    (h : ∀ id group, snap'.groups.lookup id = some group → snap.groups.lookup id = some group) :
    snap'.Integral where
  keyed := fun id group hgroup => hsnap.keyed id group (h id group hgroup)
  users := fun id group id' other hgroup hother =>
    hsnap.users id group id' other (h id group hgroup) (h id' other hother)
  names := fun id group hgroup => hsnap.names id group (h id group hgroup)

theorem integral_saveGroupsTransform {next : List PolicyGroup}
    (hnames : ∀ group ∈ next, ∀ user ∈ group.listedUsers, NoAddress user)
    (h : saveGroupsTransform platform next snap = .ok snap') : snap'.Integral := by
  have hempty : ({ snap with groups := ∅ } : PolicySnapshot).Integral := by
    constructor
    · intro id group hgroup
      cases hgroup
    · intro id group id' other hgroup
      cases hgroup
    · intro id group hgroup
      cases hgroup
  exact holds_of_foldlM _ (fun group hgroup _ _ hsnap => hsnap.addGroup (hnames group hgroup))
    hempty h

end Transforms

/-! ## Calls -/

section Calls

variable {platform : CheckPlatform} {group : PolicyGroup}

theorem checkedGroup_ok {groupID : Bytes} {raw : PolicyGroup}
    (h : checkedGroup platform groupID raw = .ok group) :
    normalizeGroup platform raw = .ok group := by
  unfold checkedGroup at h
  split at h
  · cases h
  · exact ok_of_mapError h

variable {next : Dict Bytes PolicyGroup} {other : PolicyGroup} {id : Bytes}

theorem lookup_saveGroupEntry {next' : Dict Bytes PolicyGroup}
    (h : saveGroupEntry platform next group = .ok next') (hother : next'.lookup id = some other) :
    next.lookup id = some other ∨ ∃ raw, raw.id = id ∧ normalizeGroup platform raw = .ok other := by
  unfold saveGroupEntry at h
  split at h
  · cases h
  · dsimp only at h
    split at h
    · cases h
    · next normalized hnormalized =>
      cases h
      rcases Dict.lookup_of_insert hother with ⟨rfl, rfl⟩ | ⟨-, hold⟩
      · refine .inr ⟨_, ?_, hnormalized⟩
        split
        · rfl
        · rfl
      · exact .inl hold

variable {groups : List PolicyGroup}

section

variable (h : saveGroupsMap platform groups = .ok next)

include h

theorem lookup_saveGroupsMap (hother : next.lookup id = some other) :
    (id = defaultGroupID ∧ other = defaultGroup) ∨
      ∃ raw, raw.id = id ∧ normalizeGroup platform raw = .ok other := by
  obtain ⟨filled, hfold, hnext⟩ := ok_of_bind h
  have hfilled : ∀ id other, filled.lookup id = some other →
      ∃ raw, raw.id = id ∧ normalizeGroup platform raw = .ok other := by
    apply holds_of_foldlM
      (fun next : Dict Bytes PolicyGroup => ∀ id other, next.lookup id = some other →
        ∃ raw, raw.id = id ∧ normalizeGroup platform raw = .ok other) _ _ hfold
    · intro group _ next next' hnext hstep id other hother
      rcases lookup_saveGroupEntry hstep hother with hold | hnew
      · exact hnext id other hold
      · exact hnew
    · intro id other hempty
      cases hempty
  cases hnext
  split at hother
  · exact .inr (hfilled id other hother)
  · rcases Dict.lookup_of_insert hother with hdefault | ⟨-, hold⟩
    · exact .inl hdefault
    · exact .inr (hfilled id other hold)

theorem noAddress_of_saveGroupsMap (hother : next.lookup id = some other) :
    ∀ user ∈ other.listedUsers, NoAddress user := by
  rcases lookup_saveGroupsMap h hother with ⟨-, rfl⟩ | ⟨raw, -, hnormalized⟩
  · intro user huser
    cases huser
  · exact noAddress_of_normalizeGroup hnormalized

theorem noAddress_of_visited (order : RangeOrder PolicyGroup) :
    ∀ group ∈ order.values next, ∀ user ∈ group.listedUsers, NoAddress user := by
  intro group hgroup
  obtain ⟨id, hlookup⟩ := order.mem_values_iff.mp hgroup
  exact noAddress_of_saveGroupsMap h hlookup

end

variable {draws : Nat → Bytes}

theorem noAddress_of_migrateLegacyRule {timezone : Bytes} {index : Nat} {rule : LegacyRule}
    (h : migrateLegacyRule platform timezone draws index rule = .ok group) :
    ∀ user ∈ group.listedUsers, NoAddress user := by
  obtain ⟨action, -, hgroup⟩ := ok_migrateLegacyRule h
  exact noAddress_of_normalizeGroup hgroup

variable (output : MigrationOutput platform)

theorem listedUsers_migrated :
    ∀ group ∈ output.deviceGroups ++ output.ruleGroups, group.users = [] ∧
      ∀ user ∈ group.listedUsers, NoAddress user := by
  intro group hgroup
  rcases List.mem_append.mp hgroup with hdevice | hrule
  · obtain ⟨device, hmade⟩ := exists_device_of_migrate output.fromDevices hdevice
    obtain ⟨-, husers, hrules⟩ := LegacyDevice.group_eq hmade
    refine ⟨husers, ?_⟩
    simp [PolicyGroup.listedUsers, husers, hrules]
  · obtain ⟨⟨rule, index⟩, -, hmigrated⟩ := exists_of_mem_mapM output.fromRules hrule
    exact ⟨users_migrateLegacyRule hmigrated, noAddress_of_migrateLegacyRule hmigrated⟩

theorem plain_migrationSnapshot
    (hgroup : (migrationSnapshot (output.deviceGroups ++ output.ruleGroups)
      output.assignments).groups.lookup id = some group) :
    group.users = [] ∧ ∀ user ∈ group.listedUsers, NoAddress user := by
  rcases (lookup_migrationSnapshot hgroup).2 with rfl | hmem
  · refine ⟨rfl, ?_⟩
    intro user huser
    cases huser
  · exact listedUsers_migrated output group hmem

theorem integral_migrationSnapshot :
    (migrationSnapshot (output.deviceGroups ++ output.ruleGroups) output.assignments).Integral := by
  constructor
  · exact (migrated_wellFormed _ _).keyed
  · intro id group id' other hgroup hother user huser
    rw [(plain_migrationSnapshot output hgroup).1] at huser
    cases huser
  · exact fun id group hgroup => (plain_migrationSnapshot output hgroup).2

/-- What a call makes of the policies that it has read.  `SaveMigration` writes without a look at
them. -/
inductive PolicyCall.Makes (now : Time) (draws : Nat → Bytes) (snap : PolicySnapshot) :
    PolicyCall platform → PolicySnapshot → Prop where
  | createGroup {raw group : PolicyGroup} {createdAt : Time} {snap' : PolicySnapshot}
      (hgroup : normalizeGroup { platform with newGroupID := draws } raw = .ok group)
      (hnew : group.id ∉ snap.groups)
      (hadd : addGroup platform snap { group with createdAt, updatedAt := now } = .ok snap') :
      Makes now draws snap (.createGroup raw) snap'
  | updateGroup {groupID : Bytes} {raw group : PolicyGroup} {createdAt : Time}
      {snap' : PolicySnapshot}
      (hgroup : normalizeGroup { platform with newGroupID := draws } raw = .ok group)
      (hbare : groupID = defaultGroupID → group.users = [])
      (hadd : addGroup platform snap { group with id := groupID, createdAt, updatedAt := now } =
        .ok snap') :
      Makes now draws snap (.updateGroup groupID raw) snap'
  | deleteGroup {groupID : Bytes} : Makes now draws snap (.deleteGroup groupID)
        { snap with
          groups := snap.groups.erase groupID
          assignments := withoutGroup snap.assignments groupID }
  | saveGroups {groups : List PolicyGroup} {order : RangeOrder PolicyGroup} {next : Dict Bytes PolicyGroup}
      {snap' : PolicySnapshot}
      (hnext : saveGroupsMap { platform with newGroupID := draws } groups = .ok next)
      (hsave : saveGroupsTransform platform (order.values next) snap = .ok snap') :
      Makes now draws snap (.saveGroups groups order) snap'
  | saveAssignments {assignments : List DeviceAssignment} :
      Makes now draws snap (.saveAssignments assignments)
        { snap with
          assignments := Dict.assign (assignments.map fun a => (a.deviceID, a.groupID)) ∅ }
  | setDeviceAssignment {deviceID groupID : Bytes} {snap' : PolicySnapshot}
      (hset : GateSentry.Policy.setDeviceAssignment deviceID groupID snap = .ok snap') :
      Makes now draws snap (.setDeviceAssignment deviceID groupID) snap'

variable {now : Time} {call : PolicyCall platform} {raw next : PolicyText}

theorem PolicyCall.apply_ok (h : call.apply now draws raw = .ok next) :
    (∃ output migratedFrom, call = .saveMigration output migratedFrom) ∨
      ∃ doc snap, decodeDocument raw = .ok doc ∧
        call.Makes now draws (snapshotFromDocument doc) snap ∧ defaultGroupID ∈ snap.groups ∧
        next = .current (documentFromSnapshot snap doc.migratedFrom now) := by
  have hmade {transform : PolicySnapshot → Except PolicyError PolicySnapshot}
      (hupdate : updatePolicy transform now raw = .ok next)
      (hmakes : ∀ snap snap', transform snap = .ok snap' → call.Makes now draws snap snap') :
      ∃ doc snap, decodeDocument raw = .ok doc ∧
        call.Makes now draws (snapshotFromDocument doc) snap ∧ defaultGroupID ∈ snap.groups ∧
        next = .current (documentFromSnapshot snap doc.migratedFrom now) := by
    obtain ⟨doc, snap, hdecode, hsnap, hstored⟩ := updatePolicy_ok hupdate
    exact ⟨doc, snap, hdecode, hmakes _ _ hsnap, hstored⟩
  cases call with
  | createGroup group =>
    obtain ⟨checked, hchecked, hupdate⟩ := ok_of_bind h
    refine .inr (hmade hupdate fun snap snap' hsnap => ?_)
    obtain ⟨hnew, hadd⟩ := createTransform_ok hsnap
    exact .createGroup (checkedGroup_ok hchecked) hnew hadd
  | updateGroup groupID group =>
    obtain ⟨checked, hchecked, hupdate⟩ := ok_of_bind h
    refine .inr (hmade hupdate fun snap snap' hsnap => ?_)
    obtain ⟨hbare, createdAt, hadd⟩ := updateTransform_ok hsnap
    exact .updateGroup (checkedGroup_ok hchecked) hbare hadd
  | deleteGroup groupID =>
    simp only [apply] at h
    split at h
    · cases h
    · split at h
      · cases h
      · refine .inr (hmade h fun snap snap' hsnap => ?_)
        rw [deleteTransform_ok hsnap]
        exact .deleteGroup
  | saveGroups groups order =>
    obtain ⟨saved, hsaved, hupdate⟩ := ok_of_bind h
    exact .inr (hmade hupdate fun snap snap' hsnap => .saveGroups hsaved hsnap)
  | saveAssignments assignments =>
    refine .inr (@hmade (saveAssignmentsTransform assignments) h fun snap snap' hsnap => ?_)
    cases hsnap
    exact .saveAssignments
  | setDeviceAssignment deviceID groupID =>
    exact .inr (hmade h fun snap snap' hsnap => .setDeviceAssignment hsnap)
  | saveMigration output migratedFrom => exact .inl ⟨output, migratedFrom, rfl⟩

theorem PolicyCall.Makes.integral {snap snap' : PolicySnapshot}
    (h : call.Makes now draws snap snap') (hsnap : snap.Integral) : snap'.Integral := by
  cases h with
  | createGroup hgroup _ hadd | updateGroup hgroup _ hadd =>
    have hnames := noAddress_of_normalizeGroup hgroup
    refine hsnap.addGroup ?_ hadd
    exact hnames
  | deleteGroup => exact hsnap.of_lookup fun id group hgroup => Dict.lookup_of_erase hgroup
  | saveGroups hnext hsave =>
    exact integral_saveGroupsTransform (noAddress_of_visited hnext _) hsave
  | saveAssignments => exact hsnap.of_lookup fun _ _ hgroup => hgroup
  | setDeviceAssignment hset =>
    rcases setDeviceAssignment_ok hset with rfl | ⟨-, -, rfl⟩
    · exact hsnap.of_lookup fun _ _ hgroup => hgroup
    · exact hsnap.of_lookup fun _ _ hgroup => hgroup

theorem PolicyCall.wellFormed (call : PolicyCall platform) (hraw : raw.WellFormed)
    (h : call.apply now draws raw = .ok next) : next.WellFormed := by
  rcases apply_ok h with ⟨output, migratedFrom, rfl⟩ | ⟨doc, snap, hdecode, hmakes, hdefault, rfl⟩
  · cases h
    rcases hraw with rfl | ⟨doc, rfl, hdoc⟩
    · right
      refine ⟨_, rfl, (integral_migrationSnapshot output).document ?_ _ _⟩
      exact (migrated_wellFormed _ _).hasDefault
    · exact .inr ⟨doc, rfl, hdoc⟩
  · obtain ⟨same, hsame, hdoc⟩ := hraw.decode
    cases hdecode.symm.trans hsame
    exact .inr ⟨_, rfl, (hmakes.integral hdoc.snapshot).document hdefault _ _⟩

theorem PolicyEvent.wellFormed_step (hraw : raw.WellFormed) (event : PolicyEvent platform) :
    (event.step raw).WellFormed := by
  unfold step
  split
  · exact hraw
  · next next hnext =>
    split
    · exact event.call.wellFormed hraw hnext
    · exact hraw

/-- From a new installation on, whatever the calls and whichever of them fail, the stored
policy document is well formed. -/
theorem runPolicy_wellFormed (events : List (PolicyEvent platform)) :
    (runPolicy .empty events).WellFormed := by
  apply List.foldlRecOn events PolicyEvent.step (motive := PolicyText.WellFormed)
  · exact .inl rfl
  · intro raw hraw event _
    exact event.wellFormed_step hraw

end Calls

end GateSentry.Policy
