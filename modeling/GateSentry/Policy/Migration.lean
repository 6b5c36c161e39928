import Mathlib.Data.List.Dedup
import GateSentry.Policy.Legacy
import GateSentry.Policy.Reload

/-!
# The migration

`SaveMigration`, and `policy_migration.go` that calls it once when there is no policy
document.  The policies of retired rules stand under ids made of the ids of the rules.
-/

namespace GateSentry.Policy

open Foundation ByteText Calendar

/-! ## Saving -/

def migrationSnapshot (groups : List PolicyGroup) (assignments : List DeviceAssignment) :
    PolicySnapshot where
  groups := Dict.assign (groups.map fun group => (group.id, group))
    (AList.insert defaultGroupID defaultGroup ∅)
  assignments := Dict.assign (assignments.map fun a => (a.deviceID, a.groupID)) ∅
  version := 0
  updatedAt := zeroTime

def saveMigration (groups : List PolicyGroup) (assignments : List DeviceAssignment)
    (migratedFrom : Bytes) (now : Time) (raw : PolicyText) : PolicyText :=
  match raw with
  | .empty => .current (documentFromSnapshot (migrationSnapshot groups assignments) migratedFrom now)
  | raw => raw

inductive MigrationError where
  | read
  | devices (message : Bytes)
  | decode (err : ReadError)
  | rules (message : Bytes)

structure MigrationReads where
  policy : Option PolicyText
  rules : Option (Stored (List LegacyRule))
  timezone : Option Bytes

def LegacyDevice.trimmed (device : LegacyDevice) : LegacyDevice :=
  { device with owner := trimSpace device.owner, category := trimSpace device.category }

def migrateInventory (now : Time) (devices : Option (List LegacyDevice)) :
    Except Bytes (List PolicyGroup × List DeviceAssignment) :=
  match devices with
  | none => .ok ([], [])
  | some devices => migrateLegacyDevices now (devices.map LegacyDevice.trimmed)

def migrateLegacyPolicy (platform : CheckPlatform) (draws : Nat → Nat → Bytes) (now : Time)
    (reads : MigrationReads) (devices : Option (List LegacyDevice)) :
    Except MigrationError PolicyText := do
  let some raw := reads.policy | throw .read
  if raw ≠ .empty then return raw
  let (deviceGroups, assignments) ← (migrateInventory now devices).mapError .devices
  let some stored := reads.rules | throw .read
  let rules ← (decodeLegacyRules stored).mapError .decode
  let mut groups := deviceGroups
  if !rules.isEmpty then
    let some timezone := reads.timezone | throw .read
    let imported ← (migrateLegacyRules platform timezone draws rules).mapError .rules
    groups := groups ++ imported
  if groups.isEmpty && assignments.isEmpty then return raw
  return saveMigration groups assignments (utf8 "legacy_device_metadata_and_rules") now raw

/-! ## What is saved -/

section Saved

variable {groups : List PolicyGroup} {assignments : List DeviceAssignment} {id : Bytes}

theorem mem_migrationSnapshot : id ∈ (migrationSnapshot groups assignments).groups ↔
      id = defaultGroupID ∨ ∃ group ∈ groups, group.id = id := by
  rw [migrationSnapshot, Dict.mem_assign, AList.mem_insert, List.map_map, List.mem_map]
  simp

variable {group : PolicyGroup}

theorem lookup_migrationSnapshot
    (h : (migrationSnapshot groups assignments).groups.lookup id = some group) :
    group.id = id ∧ (group = defaultGroup ∨ group ∈ groups) := by
  rcases Dict.lookup_assign h with hdefault | hassigned
  · rcases Dict.lookup_of_insert hdefault with ⟨rfl, rfl⟩ | ⟨-, hempty⟩
    · exact ⟨rfl, .inl rfl⟩
    · cases hempty
  · obtain ⟨other, hother, hentry⟩ := List.mem_map.mp hassigned
    cases hentry
    exact ⟨rfl, .inr hother⟩

theorem migrated_wellFormed (groups : List PolicyGroup)
    (assignments : List DeviceAssignment) :
    (migrationSnapshot groups assignments).WellFormed where
  keyed := fun _ _ hlookup => (lookup_migrationSnapshot hlookup).1
  hasDefault := mem_migrationSnapshot.mpr (.inl rfl)

theorem lookup_saveMigration (migratedFrom : Bytes) (now : Time) (s : Service)
    {reads : ReloadReads} (hcompletes : Service.Completes reads)
    (hpolicy : reads.policy = some (saveMigration groups assignments migratedFrom now .empty)) :
    (s.reload reads).2.snapshot.groups.lookup id = some group ↔
      (migrationSnapshot groups assignments).groups.lookup id = some group := by
  have hdoc : loadDocument reads.policy =
      .ok (documentFromSnapshot (migrationSnapshot groups assignments) migratedFrom now) := by
    rw [hpolicy, loadDocument, saveMigration, decodeDocument,
      withDefaultGroup_document (migrated_wellFormed _ _)]
  rw [s.snapshot_reload hcompletes hdoc]
  exact lookup_groups_document (migrated_wellFormed _ _).keyed migratedFrom
    now

end Saved

/-! ## Imported policies -/

def PolicySnapshot.importedGroups (snap : PolicySnapshot) : List PolicyGroup :=
  (snap.groups.entries.map (·.2)).filter fun group => legacyRulePrefix.isPrefixOf group.id

def importIDs (draws : Nat → Nat → Bytes) (rules : List LegacyRule) : List Bytes :=
  rules.zipIdx.map fun (rule, index) => rule.importID (draws index 0)

section Imported

variable {platform : CheckPlatform} {timezone : Bytes} {draws : Nat → Nat → Bytes} {now : Time}
  {rules : List LegacyRule} {groups : List PolicyGroup} {devices : Option (List LegacyDevice)}
  {inventory : List PolicyGroup × List DeviceAssignment}

theorem ids_migrateLegacyRules (h : migrateLegacyRules platform timezone draws rules = .ok groups) :
    groups.map (·.id) = (importIDs draws rules).map (legacyRulePrefix ++ ·) := by
  apply List.ext_getElem?
  intro i
  have hplace := getElem?_migrateLegacyRules h i
  simp only [importIDs, List.getElem?_map]
  cases hgroup : groups[i]? with
  | none =>
    rw [hgroup, Option.map_none, Option.map_eq_none_iff] at hplace
    simp [hplace]
  | some group =>
    rw [hgroup, Option.map_some, Option.map_eq_some_iff] at hplace
    obtain ⟨rule, hrule, hmigrated⟩ := hplace
    obtain ⟨-, -, hid, -⟩ := carries_migrateLegacyRule hmigrated
    simp [hrule, hid]

variable {group : PolicyGroup} {device : LegacyDevice}

theorem LegacyDevice.group_eq (h : device.group now = some group) :
    legacyRulePrefix.isPrefixOf group.id = false ∧ group.users = [] ∧ group.rules = [] := by
  unfold LegacyDevice.group at h
  cases hcategory : device.category.isEmpty with
  | true =>
    simp only [hcategory, if_true] at h
    split at h
    · cases h
    · cases h
      exact ⟨rfl, rfl, rfl⟩
  | false =>
    simp only [hcategory, Bool.false_eq_true, if_false] at h
    split at h
    · cases h
    · cases h
      exact ⟨rfl, rfl, rfl⟩

theorem exists_device_migrateLegacy
    {out out' : Dict Bytes PolicyGroup × List DeviceAssignment}
    (hout : ∀ id group, out.1.lookup id = some group →
      ∃ device : LegacyDevice, device.group now = some group)
    (h : migrateLegacyDevice now out device = .ok out') :
    ∀ id group, out'.1.lookup id = some group →
      ∃ device : LegacyDevice, device.group now = some group := by
  unfold migrateLegacyDevice at h
  split at h
  · cases h
  · cases hgroup : device.group now with
    | none =>
      simp only [hgroup, Except.ok.injEq] at h
      rw [← h]
      exact hout
    | some group =>
      simp only [hgroup, Except.ok.injEq] at h
      subst h
      split
      · exact hout
      · intro id other hlookup
        rcases Dict.lookup_of_insert hlookup with ⟨rfl, rfl⟩ | ⟨-, hold⟩
        · exact ⟨device, hgroup⟩
        · exact hout id other hold

theorem exists_device_of_migrate {devices : List LegacyDevice}
    (h : migrateLegacyDevices now devices = .ok inventory)
    (hmem : group ∈ inventory.1) : ∃ device : LegacyDevice, device.group now = some group := by
  obtain ⟨out, hfold, hsorted⟩ := ok_of_bind h
  cases hsorted
  rw [List.mem_mergeSort, List.mem_map] at hmem
  obtain ⟨⟨id, other⟩, hentry, rfl⟩ := hmem
  have hall := holds_of_foldlM
    (fun out : Dict Bytes PolicyGroup × List DeviceAssignment =>
      ∀ id group, out.1.lookup id = some group →
        ∃ device : LegacyDevice, device.group now = some group)
    (fun _ _ _ _ hout hstep => exists_device_migrateLegacy hout hstep)
    (fun _ _ hempty => by cases hempty) hfold
  exact hall id other (AList.mem_lookup_iff.mpr hentry)

theorem not_imported_migrateInventory (h : migrateInventory now devices = .ok inventory) :
    ∀ group ∈ inventory.1, legacyRulePrefix.isPrefixOf group.id = false := by
  intro group hmem
  cases devices with
  | none =>
    cases h
    cases hmem
  | some devices =>
    obtain ⟨device, hdevice⟩ := exists_device_of_migrate h hmem
    exact (LegacyDevice.group_eq hdevice).1

variable {snap : PolicySnapshot}

theorem importedGroups_ids (hsnap : snap.WellFormed) :
    snap.importedGroups.map (·.id) = snap.groups.keys.filter legacyRulePrefix.isPrefixOf := by
  have hids : (snap.groups.entries.map (·.2)).map (·.id) = snap.groups.keys := by
    rw [List.map_map]
    apply List.map_congr_left
    intro entry hentry
    exact hsnap.keyed entry.1 entry.2 (AList.mem_lookup_iff.mpr hentry)
  rw [← hids, List.filter_map]
  rfl

theorem length_importedGroups (hsnap : snap.WellFormed) {ids : List Bytes}
    (hids : ∀ id, id ∈ snap.groups ∧ legacyRulePrefix.isPrefixOf id = true ↔
      id ∈ ids.map (legacyRulePrefix ++ ·)) : snap.importedGroups.length = ids.dedup.length := by
  have hperm : (snap.groups.keys.filter legacyRulePrefix.isPrefixOf).Perm
      (ids.dedup.map (legacyRulePrefix ++ ·)) := by
    rw [List.perm_ext_iff_of_nodup (snap.groups.keys_nodup.filter _)
      (ids.nodup_dedup.map (List.append_right_injective legacyRulePrefix))]
    intro id
    rw [List.mem_filter, ← AList.mem_keys, hids]
    simp
  rw [← List.length_map (·.id), importedGroups_ids hsnap, hperm.length_eq, List.length_map]

def LegacyRule.Kept (platform : CheckPlatform) (timezone : Bytes) (snap : PolicySnapshot)
    (rule : LegacyRule) : Prop :=
  ∃ group, snap.groups.lookup group.id = some group ∧
    ∃ imported ∈ group.rules, rule.Carries platform timezone imported

section Accepted

variable (haccepted : migrateLegacyRules platform timezone draws rules = .ok groups)

include haccepted

section

variable (hdevices : migrateInventory now devices = .ok inventory)

include hdevices

theorem migrateLegacyPolicy_eq :
    migrateLegacyPolicy platform draws now
        ⟨some .empty, some (.encoded rules), some timezone⟩ devices =
      .ok (if (inventory.1 ++ groups).isEmpty && inventory.2.isEmpty then .empty
        else saveMigration (inventory.1 ++ groups) inventory.2
          (utf8 "legacy_device_metadata_and_rules") now .empty) := by
  cases rules with
  | nil =>
    cases haccepted
    simp only [migrateLegacyPolicy, hdevices, List.reverse_nil, List.append_nil]
    exact (apply_ite Except.ok _ _ _).symm
  | cons rule rest =>
    simp only [migrateLegacyPolicy, hdevices, haccepted, decodeLegacyRules, bind, Except.bind,
      Except.mapError]
    exact (apply_ite Except.ok _ _ _).symm

theorem lookup_migrateLegacyPolicy {text : PolicyText}
    (htext : migrateLegacyPolicy platform draws now
      ⟨some .empty, some (.encoded rules), some timezone⟩ devices = .ok text) (s : Service)
    {reads : ReloadReads} (hcompletes : Service.Completes reads)
    (hpolicy : reads.policy = some text) {id : Bytes} :
    (s.reload reads).2.snapshot.groups.lookup id = some group ↔
      (migrationSnapshot (inventory.1 ++ groups) inventory.2).groups.lookup id = some group := by
  rw [migrateLegacyPolicy_eq haccepted hdevices, Except.ok.injEq] at htext
  split at htext
  · next hnothing =>
    rw [Bool.and_eq_true, List.isEmpty_iff] at hnothing
    have hdoc : loadDocument reads.policy = decodeDocument .empty := by
      rw [hpolicy, ← htext]
      rfl
    rw [s.snapshot_reload hcompletes hdoc, hnothing.1]
    exact Iff.rfl
  · rw [← htext] at hpolicy
    exact lookup_saveMigration _ now s hcompletes hpolicy

theorem mem_migrated_iff {assignments : List DeviceAssignment} (id : Bytes) :
    id ∈ (migrationSnapshot (inventory.1 ++ groups) assignments).groups ∧
        legacyRulePrefix.isPrefixOf id = true ↔
      id ∈ (importIDs draws rules).map (legacyRulePrefix ++ ·) := by
  rw [← ids_migrateLegacyRules haccepted, mem_migrationSnapshot, List.mem_map]
  constructor
  · rintro ⟨rfl | ⟨group, hmem, rfl⟩, himported⟩
    · cases himported
    · rcases List.mem_append.mp hmem with hdevice | hrule
      · rw [not_imported_migrateInventory hdevices group hdevice] at himported
        cases himported
      · exact ⟨group, hrule, rfl⟩
  · rintro ⟨group, hmem, rfl⟩
    refine ⟨.inr ⟨group, List.mem_append_right _ hmem, rfl⟩, ?_⟩
    have hid := List.mem_map_of_mem (f := PolicyGroup.id) hmem
    rw [ids_migrateLegacyRules haccepted] at hid
    obtain ⟨rest, -, heq⟩ := List.mem_map.mp hid
    rw [← heq, List.isPrefixOf_iff_prefix]
    exact List.prefix_append _ _

end

theorem lookup_migrated_of_mem (hids : (importIDs draws rules).Nodup)
    (deviceGroups : List PolicyGroup) (assignments : List DeviceAssignment)
    (hmem : group ∈ groups) :
    (migrationSnapshot (deviceGroups ++ groups) assignments).groups.lookup group.id =
      some group := by
  have hnodup : (groups.map (·.id)).Nodup := by
    rw [ids_migrateLegacyRules haccepted]
    exact hids.map (List.append_right_injective legacyRulePrefix)
  rw [migrationSnapshot, List.map_append, Dict.assign, List.foldl_append]
  apply Dict.lookup_assign_of_mem
  · rw [List.map_map]
    exact hnodup
  · exact List.mem_map_of_mem hmem

theorem exists_of_mem_rules {rule : LegacyRule} (hrule : rule ∈ rules) :
    ∃ group ∈ groups, ∃ imported ∈ group.rules, rule.Carries platform timezone imported := by
  obtain ⟨i, hi⟩ := List.getElem?_of_mem hrule
  have hplace := getElem?_migrateLegacyRules haccepted i
  rw [hi, Option.map_some, eq_comm, Option.map_eq_some_iff] at hplace
  obtain ⟨group, hgroup, hmigrated⟩ := hplace
  obtain ⟨imported, hcarries, -, hrules, -⟩ := carries_migrateLegacyRule hmigrated.symm
  refine ⟨group, List.mem_of_getElem? hgroup, imported, ?_, hcarries⟩
  rw [hrules]
  exact List.mem_singleton_self imported

end Accepted

/-- The migration keeps every retired rule, each in a policy of its own, exactly if no two of
them have the same id. -/
theorem migration_keeps_rules_iff
    (haccepted : migrateLegacyRules platform timezone draws rules = .ok groups)
    (hdevices : migrateInventory now devices = .ok inventory) (s : Service) :
    ∃ text, migrateLegacyPolicy platform draws now
        ⟨some .empty, some (.encoded rules), some timezone⟩ devices = .ok text ∧
      ∀ reads : ReloadReads, reads.policy = some text → Service.Completes reads →
        ((∀ rule ∈ rules, rule.Kept platform timezone (s.reload reads).2.snapshot) ∧
            (s.reload reads).2.snapshot.importedGroups.length = rules.length ↔
          (importIDs draws rules).Nodup) := by
  refine ⟨_, migrateLegacyPolicy_eq haccepted hdevices, ?_⟩
  intro reads hpolicy hcompletes
  generalize hlive : (s.reload reads).2.snapshot = live
  have hlookup : ∀ id group, live.groups.lookup id = some group ↔
      (migrationSnapshot (inventory.1 ++ groups) inventory.2).groups.lookup id = some group := by
    intro id group
    rw [← hlive]
    exact lookup_migrateLegacyPolicy haccepted hdevices (migrateLegacyPolicy_eq haccepted hdevices)
      s hcompletes hpolicy
  have hmem : ∀ id, id ∈ live.groups ↔
      id ∈ (migrationSnapshot (inventory.1 ++ groups) inventory.2).groups := by
    intro id
    simp only [Dict.mem_iff_lookup, hlookup]
  have hsaved := migrated_wellFormed (inventory.1 ++ groups) inventory.2
  have hwellFormed : live.WellFormed := by
    constructor
    · intro id group h
      exact hsaved.keyed id group ((hlookup id group).mp h)
    · exact (hmem _).mpr hsaved.hasDefault
  have hcount : live.importedGroups.length = (importIDs draws rules).dedup.length := by
    apply length_importedGroups hwellFormed
    intro id
    rw [hmem, mem_migrated_iff haccepted hdevices]
  have hlength : (importIDs draws rules).length = rules.length := by simp [importIDs]
  rw [hcount, ← hlength]
  constructor
  · rintro ⟨-, hall⟩
    rw [← List.dedup_eq_self]
    exact (List.dedup_sublist _).eq_of_length hall
  · intro hnodup
    refine ⟨?_, by rw [hnodup.dedup]⟩
    intro rule hrule
    obtain ⟨group, hgroup, himported⟩ := exists_of_mem_rules haccepted hrule
    exact ⟨group, (hlookup _ _).mpr (lookup_migrated_of_mem haccepted hnodup _ _ hgroup),
      himported⟩

end Imported

def noDraws : Nat → Nat → Bytes := fun _ _ => []

def gamesRule (id : Bytes) : LegacyRule :=
  { id, name := utf8 "Games", enabled := true, domain := utf8 "*.games.example"
    action := utf8 "block" }

def videoRule (id : Bytes) : LegacyRule :=
  { id, name := utf8 "Video", enabled := true, domain := utf8 "video.example"
    action := utf8 "block" }

def importedBy (rules : List LegacyRule) : List PolicyGroup :=
  (migrateLegacyRules compilingPlatform [] noDraws rules).toOption.getD []

def migratedText (rules : List LegacyRule) : PolicyText :=
  (migrateLegacyPolicy compilingPlatform noDraws 0 ⟨some .empty, some (.encoded rules), some []⟩
    none).toOption.getD .empty

def readsOf (policy : PolicyText) : ReloadReads where
  policy := some policy
  exceptions := some .empty
  pauses := some .empty
  categories := some .empty

theorem completes_readsOf {policy : PolicyText}
    (h : (decodeDocument policy).toOption.isSome = true) : Service.Completes (readsOf policy) := by
  refine ⟨Option.isSome_iff_ne_none.mp h, ?_, ?_⟩
  · simp [readsOf, loadGrants, decodeGrants, Except.toOption]
  · simp [readsOf, loadGrants, decodeGrants, Except.toOption]

def liveAfter (rules : List LegacyRule) : PolicySnapshot :=
  ((plainService [] []).reload (readsOf (migratedText rules))).2.snapshot

def distinctRules : List LegacyRule := [gamesRule (utf8 "r1"), videoRule (utf8 "r2")]

theorem migration_keeps_distinctRules :
    (∀ rule ∈ distinctRules, rule.Kept compilingPlatform [] (liveAfter distinctRules)) ∧
      (liveAfter distinctRules).importedGroups.length = 2 := by
  have haccepted : migrateLegacyRules compilingPlatform [] noDraws distinctRules =
    .ok (importedBy distinctRules) := eq_ok_of_isSome (by decide +kernel) []
  have hdevices : migrateInventory 0 none = .ok ([], []) := rfl
  have hmigrated : migrateLegacyPolicy compilingPlatform noDraws 0
    ⟨some .empty, some (.encoded distinctRules), some []⟩ none =
      .ok (migratedText distinctRules) := eq_ok_of_isSome (by decide +kernel) .empty
  obtain ⟨text, htext, hkept⟩ :=
    migration_keeps_rules_iff haccepted hdevices (plainService [] [])
  rw [hmigrated, Except.ok.injEq] at htext
  subst htext
  apply (hkept _ rfl (completes_readsOf (by decide +kernel))).mpr
  decide +kernel

def paddedRules : List LegacyRule := [gamesRule (utf8 "r1"), videoRule (utf8 "r1 ")]

theorem migration_loses_rule :
    migrateLegacyRules compilingPlatform [] noDraws paddedRules = .ok (importedBy paddedRules) ∧
      migrateLegacyPolicy compilingPlatform noDraws 0
        ⟨some .empty, some (.encoded paddedRules), some []⟩ none =
          .ok (migratedText paddedRules) ∧
      ¬ (gamesRule (utf8 "r1")).Kept compilingPlatform [] (liveAfter paddedRules) := by
  have haccepted : migrateLegacyRules compilingPlatform [] noDraws paddedRules =
    .ok (importedBy paddedRules) := eq_ok_of_isSome (by decide +kernel) []
  have hdevices : migrateInventory 0 none = .ok ([], []) := rfl
  have hmigrated : migrateLegacyPolicy compilingPlatform noDraws 0
    ⟨some .empty, some (.encoded paddedRules), some []⟩ none =
      .ok (migratedText paddedRules) := eq_ok_of_isSome (by decide +kernel) .empty
  refine ⟨haccepted, hmigrated, ?_⟩
  rintro ⟨group, hlookup, imported, himported, hcarries⟩
  have hcompletes : Service.Completes (readsOf (migratedText paddedRules)) :=
    completes_readsOf (by decide +kernel)
  have hsaved := (lookup_migrateLegacyPolicy haccepted hdevices hmigrated (plainService [] [])
    hcompletes rfl).mp hlookup
  have hothers : ((migrationSnapshot (importedBy paddedRules) []).groups.entries.all fun entry =>
      entry.2.rules.all fun rule => rule.target.domains ≠ [utf8 "games.example"]) = true := by
    decide +kernel
  have hentry := List.all_eq_true.mp hothers _ (AList.mem_lookup_iff.mp hsaved)
  have hrule := List.all_eq_true.mp hentry _ himported
  have htarget : (gamesRule (utf8 "r1")).targetDomains compilingPlatform = [utf8 "games.example"] := by
    decide +kernel
  rw [hcarries.target, htarget] at hrule
  simp at hrule

end GateSentry.Policy
