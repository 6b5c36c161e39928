import GateSentry.Policy.Grants
import GateSentry.Policy.Identity
import Mathlib.Data.List.Chain
import Mathlib.Data.List.Pairwise

/-!
# The stored documents

The policy, exception and pause documents under their keys of the settings store, how
they are read into live state, and how a transaction rewrites them.
-/

namespace GateSentry.Policy

open Foundation ByteText Calendar

/-! ## Texts -/

/-- The text under the policy key as its parser sees it.  A version 1 document stands for
what its upgrade yields, if it succeeds. -/
inductive PolicyText where
  | empty
  | malformed
  | legacy (upgraded : Option PolicyDocument)
  | current (doc : PolicyDocument)
  | unsupported (version : Int)
  deriving DecidableEq

inductive Stored (document : Type) where
  | empty
  | malformed
  | encoded (doc : document)

/-- `ExceptionDocument` and `PauseDocument`. -/
structure GrantDocument (grant : Type) where
  version : Int
  grants : List grant
  updatedAt : Time

def grantDocumentVersion : Int := 1

inductive ReadError where
  | read
  | parse
  | unsupportedVersion (version : Int)
  deriving DecidableEq

/-! ## Reading -/

def decodeDocument : PolicyText → Except ReadError PolicyDocument
  | .empty => .ok (withDefaultGroup
      { version := documentVersion, groups := [], assignments := [], migratedFrom := []
        updatedAt := zeroTime })
  | .malformed => .error .parse
  | .legacy none => .error .parse
  | .legacy (some doc) => .ok (withDefaultGroup doc)
  | .current doc => .ok (withDefaultGroup doc)
  | .unsupported version => .error (.unsupportedVersion version)

def loadDocument (raw : Option PolicyText) : Except ReadError PolicyDocument :=
  match raw with
  | none => .error .read
  | some raw => decodeDocument raw

def decodeGrants {grant : Type} : Stored (GrantDocument grant) → Except ReadError (List grant)
  | .empty => .ok []
  | .malformed => .error .parse
  | .encoded doc =>
    if doc.version ≠ grantDocumentVersion then .error (.unsupportedVersion doc.version)
    else .ok doc.grants

def loadGrants {grant : Type} (raw : Option (Stored (GrantDocument grant))) :
    Except ReadError (List grant) :=
  match raw with
  | none => .error .read
  | some raw => decodeGrants raw

def normalizeCategories (ids : List Bytes) : Option (List Bytes) :=
  ids.foldlM (fun out raw =>
    let id := toLower (trimSpace raw)
    if id.isEmpty then some out
    else if (builtInCategories.lookup id).isNone then none
    else if out.contains id then some out
    else some (out ++ [id])) []

def readCategories (raw : Option (Stored (List Bytes))) : Option (List Bytes) :=
  match raw with
  | none => none
  | some .empty => some []
  | some .malformed => none
  | some (.encoded ids) => normalizeCategories ids

/-- `LoadEnabledCategories`: a selection that cannot be read is taken to be empty. -/
def loadEnabledCategories (raw : Option (Stored (List Bytes))) : List Bytes :=
  (readCategories raw).getD []

/-! ## Writing -/

def groupBefore (a b : PolicyGroup) : Bool :=
  if a.priority ≠ b.priority then a.priority < b.priority else a.id ≤ b.id

def documentFromSnapshot (snap : PolicySnapshot) (migratedFrom : Bytes) (now : Time) :
    PolicyDocument where
  version := documentVersion
  groups := (snap.groups.entries.map (·.2)).mergeSort groupBefore
  assignments := (snap.assignments.entries.map fun entry => ⟨entry.1, entry.2, zeroTime⟩).mergeSort
    fun a b => a.deviceID ≤ b.deviceID
  migratedFrom := migratedFrom
  updatedAt := now

variable {snap : PolicySnapshot} {now : Time} {migratedFrom : Bytes} {group : PolicyGroup}

theorem mem_groups_document :
    group ∈ (documentFromSnapshot snap migratedFrom now).groups ↔
      ∃ id, snap.groups.lookup id = some group := by
  rw [documentFromSnapshot, List.mem_mergeSort]
  exact Dict.mem_values_iff

theorem mem_assignments_document {assignment : DeviceAssignment} :
    assignment ∈ (documentFromSnapshot snap migratedFrom now).assignments ↔
      snap.assignments.lookup assignment.deviceID = some assignment.groupID ∧
        assignment.assignedAt = zeroTime := by
  rw [documentFromSnapshot, List.mem_mergeSort, List.mem_map]
  constructor
  · rintro ⟨⟨id, other⟩, hentry, rfl⟩
    exact ⟨AList.mem_lookup_iff.mpr hentry, rfl⟩
  · rintro ⟨hlookup, htime⟩
    refine ⟨⟨_, _⟩, AList.mem_lookup_iff.mp hlookup, ?_⟩
    rw [← htime]

section

variable (hkeyed : ∀ id group, snap.groups.lookup id = some group → group.id = id)

include hkeyed

theorem ids_documentFromSnapshot (migratedFrom : Bytes) (now : Time) :
    ((documentFromSnapshot snap migratedFrom now).groups.map (·.id)).Perm snap.groups.keys := by
  have hids : (snap.groups.entries.map (·.2)).map (·.id) = snap.groups.keys := by
    rw [List.map_map]
    apply List.map_congr_left
    intro entry hentry
    exact hkeyed entry.1 entry.2 (AList.mem_lookup_iff.mpr hentry)
  rw [← hids]
  exact (List.mergeSort_perm _ _).map _

theorem lookup_groups_document (migratedFrom : Bytes) (now : Time) {id : Bytes} :
    (snapshotFromDocument (documentFromSnapshot snap migratedFrom now)).groups.lookup id =
        some group ↔
      snap.groups.lookup id = some group := by
  rw [snapshotFromDocument, Dict.lookup_assign_empty, List.mem_map]
  · constructor
    · rintro ⟨other, hother, heq⟩
      cases heq
      obtain ⟨key, hkey⟩ := mem_groups_document.mp hother
      rw [hkeyed key group hkey]
      exact hkey
    · intro hlookup
      refine ⟨group, mem_groups_document.mpr ⟨id, hlookup⟩, ?_⟩
      rw [hkeyed id group hlookup]
  · rw [List.map_map]
    exact (ids_documentFromSnapshot hkeyed migratedFrom now).nodup_iff.mpr snap.groups.keys_nodup

end

variable {deviceID groupID : Bytes}

theorem lookup_assignments_document (snap : PolicySnapshot) (migratedFrom : Bytes)
    (now : Time) :
    (snapshotFromDocument (documentFromSnapshot snap migratedFrom now)).assignments.lookup
        deviceID = some groupID ↔
      snap.assignments.lookup deviceID = some groupID := by
  have hkeys : ((documentFromSnapshot snap migratedFrom now).assignments.map
      (·.deviceID)).Perm snap.assignments.keys := by
    have hids : (snap.assignments.entries.map
        fun entry => (⟨entry.1, entry.2, zeroTime⟩ : DeviceAssignment)).map (·.deviceID) =
          snap.assignments.keys := by
      rw [List.map_map]
      rfl
    rw [← hids]
    exact (List.mergeSort_perm _ _).map _
  rw [snapshotFromDocument, Dict.lookup_assign_empty, List.mem_map]
  · constructor
    · rintro ⟨assignment, hassignment, heq⟩
      cases heq
      exact (mem_assignments_document.mp hassignment).1
    · intro hlookup
      exact ⟨⟨deviceID, groupID, zeroTime⟩,
        mem_assignments_document.mpr ⟨hlookup, rfl⟩, rfl⟩
  · rw [List.map_map]
    exact hkeys.nodup_iff.mpr snap.assignments.keys_nodup

theorem withDefaultGroup_document (h : snap.WellFormed)
    (migratedFrom : Bytes) (now : Time) :
    withDefaultGroup (documentFromSnapshot snap migratedFrom now) =
      documentFromSnapshot snap migratedFrom now := by
  obtain ⟨group, hgroup⟩ := Dict.mem_iff_lookup.mp h.hasDefault
  unfold withDefaultGroup
  rw [if_pos]
  rw [List.any_eq_true]
  refine ⟨group, mem_groups_document.mpr ⟨_, hgroup⟩, ?_⟩
  simpa using h.keyed _ _ hgroup

theorem PolicySnapshot.WellFormed.stored (h : snap.WellFormed)
    (migratedFrom : Bytes) (now : Time) :
    (snapshotFromDocument (documentFromSnapshot snap migratedFrom now)).WellFormed := by
  rw [← withDefaultGroup_document h]
  exact snapshot_wellFormed _

inductive PolicyError where
  | read (err : ReadError)
  | noDefault
  | refused (message : Bytes)

def updatePolicy (transform : PolicySnapshot → Except PolicyError PolicySnapshot) (now : Time)
    (raw : PolicyText) : Except PolicyError PolicyText :=
  match decodeDocument raw with
  | .error err => .error (.read err)
  | .ok doc =>
    match transform (snapshotFromDocument doc) with
    | .error err => .error err
    | .ok snap =>
      if defaultGroupID ∈ snap.groups then
        .ok (.current (documentFromSnapshot snap doc.migratedFrom now))
      else .error .noDefault

theorem updatePolicy_ok {transform : PolicySnapshot → Except PolicyError PolicySnapshot}
    {raw next : PolicyText} (h : updatePolicy transform now raw = .ok next) :
    ∃ doc snap, decodeDocument raw = .ok doc ∧ transform (snapshotFromDocument doc) = .ok snap ∧
      defaultGroupID ∈ snap.groups ∧
      next = .current (documentFromSnapshot snap doc.migratedFrom now) := by
  unfold updatePolicy at h
  cases hdecode : decodeDocument raw with
  | error err => simp [hdecode] at h
  | ok doc =>
    simp only [hdecode] at h
    cases hnext : transform (snapshotFromDocument doc) with
    | error err => simp [hnext] at h
    | ok snap =>
      simp only [hnext] at h
      split at h
      · next hdefault =>
        cases h
        exact ⟨doc, snap, rfl, hnext, hdefault, rfl⟩
      · cases h

inductive GrantUpdateError where
  | read (err : ReadError)
  | refused (err : GrantError)

def updateGrants {grant : Type} (transform : List grant → Except GrantError (List grant))
    (now : Time) (raw : Stored (GrantDocument grant)) :
    Except GrantUpdateError (Stored (GrantDocument grant)) :=
  match decodeGrants raw with
  | .error err => .error (.read err)
  | .ok grants =>
    match transform grants with
    | .error err => .error (.refused err)
    | .ok grants => .ok (.encoded { version := grantDocumentVersion, grants, updatedAt := now })

/-! ## Device ids in the policy state -/

/-- The transform of `SetDeviceAssignment`.  An assignment to the default policy is stored
as none. -/
def setDeviceAssignment (deviceID groupID : Bytes) (snap : PolicySnapshot) :
    Except PolicyError PolicySnapshot :=
  if deviceID.isEmpty then .error (.refused (utf8 "policy assignment needs a device id"))
  else if groupID.isEmpty || groupID = defaultGroupID then
    .ok { snap with assignments := snap.assignments.erase deviceID }
  else if groupID ∉ snap.groups then
    .error (.refused (utf8 "unknown policy group: " ++ groupID))
  else .ok { snap with assignments := snap.assignments.insert deviceID groupID }

theorem setDeviceAssignment_ok {snap' : PolicySnapshot}
    (h : setDeviceAssignment deviceID groupID snap = .ok snap') :
    snap' = { snap with assignments := snap.assignments.erase deviceID } ∨
      (groupID ∈ snap.groups ∧ groupID ≠ defaultGroupID ∧
        snap' = { snap with assignments := snap.assignments.insert deviceID groupID }) := by
  unfold setDeviceAssignment at h
  split at h
  · cases h
  · split at h
    · cases h
      exact .inl rfl
    · next hgroup =>
      rw [Bool.or_eq_true, decide_eq_true_eq, not_or] at hgroup
      split at h
      · cases h
      · next hknown =>
        cases h
        exact .inr ⟨not_not.mp hknown, hgroup.2, rfl⟩

namespace Service

def referencedDeviceIDs (s : Service) : List Bytes :=
  let assigned := s.snapshot.assignments.entries.map (·.1)
  let paused := (s.pauses.filter (·.scope = .device)).map (·.deviceID)
  let excepted := (s.exceptions.filter (·.scope = .device)).map (·.deviceID)
  (assigned ++ paused ++ excepted).filter fun id => !(trimSpace id).isEmpty

/-- An assignment request and the reload after it: the policy that is stored is live. -/
def assign (s : Service) (deviceID groupID : Bytes) : Service :=
  match setDeviceAssignment deviceID groupID s.snapshot with
  | .error _ => s
  | .ok snapshot => { s with snapshot }

end Service

/-! ## The policies as they are shown -/

def shownBefore (a b : PolicyGroup) : Bool :=
  if (a.id = defaultGroupID) ≠ (b.id = defaultGroupID) then a.id = defaultGroupID
  else if a.name ≠ b.name then toLower a.name < toLower b.name
  else a.id < b.id

/-- What `OrderedGroups` may return: the policies in an order in which no policy stands right
behind one that it is to be shown before. -/
structure OrderedGroups (snap : PolicySnapshot) (shown : List PolicyGroup) : Prop where
  perm : shown.Perm (snap.groups.entries.map (·.2))
  sorted : shown.IsChain fun a b => shownBefore b a = false

abbrev SameRank (a b : PolicyGroup) : Prop :=
  (a.id = defaultGroupID ↔ b.id = defaultGroupID) ∧ toLower a.name = toLower b.name

abbrev InOrder (a b : PolicyGroup) : Prop :=
  (b.id = defaultGroupID → a.id = defaultGroupID) ∧
    ((a.id = defaultGroupID ↔ b.id = defaultGroupID) → toLower a.name ≤ toLower b.name)

variable {a b c : PolicyGroup}

theorem InOrder.trans (hab : InOrder a b) (hbc : InOrder b c) :
    InOrder a c ∧ (SameRank a c → SameRank a b ∧ SameRank b c) := by
  grind [List.le_trans, List.le_antisymm]

theorem not_shownBefore_iff : shownBefore b a = false ↔
    InOrder a b ∧ (SameRank a b → a.name = b.name → a.id ≤ b.id) := by
  have hlower : ¬toLower b.name < toLower a.name ↔ toLower a.name ≤ toLower b.name := List.not_lt
  have hids : ¬b.id < a.id ↔ a.id ≤ b.id := List.not_lt
  grind [shownBefore, List.le_refl]

/-- The order in which `r` decides between names that differ in their letter case only. -/
def OrderedBy (r : Bytes → Bytes → Prop) (a b : PolicyGroup) : Prop :=
  InOrder a b ∧ (SameRank a b → r a.name b.name ∧ (a.name = b.name → a.id ≤ b.id))

theorem OrderedBy.trans {r : Bytes → Bytes → Prop} [IsTrans Bytes r] [Std.Antisymm r]
    (hab : OrderedBy r a b) (hbc : OrderedBy r b c) : OrderedBy r a c := by
  obtain ⟨horder, hbetween⟩ := InOrder.trans hab.1 hbc.1
  refine ⟨horder, fun hsame => ?_⟩
  obtain ⟨hfirst, hfirstID⟩ := hab.2 (hbetween hsame).1
  obtain ⟨hsecond, hsecondID⟩ := hbc.2 (hbetween hsame).2
  refine ⟨trans_of r hfirst hsecond, fun hname => ?_⟩
  have hnames := antisymm hfirst (hname ▸ hsecond)
  exact List.le_trans (hfirstID hnames) (hsecondID (hnames.symm.trans hname))

theorem exists_ordered (snap : PolicySnapshot) (r : Bytes → Bytes → Prop) [IsTrans Bytes r]
    [Std.Antisymm r] [Std.Total r] :
    ∃ shown, OrderedGroups snap shown ∧ shown.Pairwise (OrderedBy r) := by
  classical
  have hsorted : ((snap.groups.entries.map (·.2)).mergeSort (OrderedBy r · ·)).Pairwise
      fun a b => decide (OrderedBy r a b) = true := by
    apply List.pairwise_mergeSort
    · simp only [decide_eq_true_eq]
      exact fun a b c => .trans
    · intro a b
      have hname := total_of r a.name b.name
      have hlower := List.le_total (toLower a.name) (toLower b.name)
      have hid := List.le_total a.id b.id
      simp only [Bool.or_eq_true, OrderedBy]
      grind [List.le_antisymm]
  simp only [decide_eq_true_eq] at hsorted
  refine ⟨_, ⟨List.mergeSort_perm _ _, ?_⟩, hsorted⟩
  exact (hsorted.imp fun h => not_shownBefore_iff.mpr ⟨h.1, fun hsame => (h.2 hsame).2⟩).isChain

/-- Policies whose names differ in their letter case only. -/
abbrev NamedAlike (a b : PolicyGroup) : Prop := SameRank a b ∧ a.name ≠ b.name

/-- The list is sorted as it is meant to be; it is the only such list exactly if no two
policies have names that differ in their letter case only. -/
theorem orderedGroups_unique_iff {snap : PolicySnapshot} {shown : List PolicyGroup}
    (hkeyed : ∀ id group, snap.groups.lookup id = some group → group.id = id)
    (h : OrderedGroups snap shown) :
    (shown.Pairwise fun a b => (b.id = defaultGroupID → a.id = defaultGroupID) ∧
        (a.id ≠ defaultGroupID → toLower a.name ≤ toLower b.name)) ∧
      ((∀ other, OrderedGroups snap other → other = shown) ↔
        ∀ a ∈ shown, ∀ b ∈ shown, ¬NamedAlike a b) := by
  refine ⟨?_, ?_, ?_⟩
  · have : Trans InOrder InOrder InOrder := ⟨fun hab hbc => (InOrder.trans hab hbc).1⟩
    have horder := (h.sorted.imp fun a b hnot => (not_shownBefore_iff.mp hnot).1).pairwise
    exact horder.imp fun hab => ⟨hab.1, fun hid => hab.2 (iff_of_false hid (mt hab.1 hid))⟩
  · intro honly
    obtain ⟨rising, hrising, hup⟩ := exists_ordered snap (· ≤ ·)
    obtain ⟨falling, hfalling, hdown⟩ := exists_ordered snap (Function.swap (· ≤ ·))
    rw [honly rising hrising] at hup
    rw [honly falling hfalling] at hdown
    have hapart : shown.Pairwise fun a b => ¬NamedAlike a b := by
      refine (hup.and hdown).imp fun hboth halike => halike.2 ?_
      exact List.le_antisymm (hboth.1.2 halike.1).1 (hboth.2.2 halike.1).1
    have hsymm : Std.Symm fun a b => ¬NamedAlike a b :=
      ⟨fun a b hab hba => hab ⟨⟨hba.1.1.symm, hba.1.2.symm⟩, hba.2.symm⟩⟩
    exact hapart.forall_of_forall fun a _ hself => hself.2 rfl
  · intro hapart other hother
    have : Std.Antisymm (@Eq Bytes) := ⟨fun _ _ hname _ => hname⟩
    have : Trans (OrderedBy Eq) (OrderedBy Eq) (OrderedBy Eq) := ⟨.trans⟩
    have hpairwise {list : List PolicyGroup} (hlist : OrderedGroups snap list) :
        list.Pairwise (OrderedBy Eq) := by
      have hshown {a : PolicyGroup} (ha : a ∈ list) : a ∈ shown :=
        (hlist.perm.trans h.perm.symm).subset ha
      refine (hlist.sorted.imp_of_mem_imp fun a b ha hb hnot => ?_).pairwise
      obtain ⟨horder, hids⟩ := not_shownBefore_iff.mp hnot
      exact ⟨horder, fun hsame => ⟨not_not.mp fun hname =>
        hapart a (hshown ha) b (hshown hb) ⟨hsame, hname⟩, hids hsame⟩⟩
    refine List.Perm.eq_of_pairwise (fun a b ha hb hab hba => ?_) (hpairwise hother)
      (hpairwise h) (hother.perm.trans h.perm.symm)
    have hdefault : a.id = defaultGroupID ↔ b.id = defaultGroupID := ⟨hba.1.1, hab.1.1⟩
    have hsame : SameRank a b :=
      ⟨hdefault, List.le_antisymm (hab.1.2 hdefault) (hba.1.2 hdefault.symm)⟩
    obtain ⟨hname, hle⟩ := hab.2 hsame
    have hid : a.id = b.id := List.le_antisymm (hle hname)
      ((hba.2 ⟨hsame.1.symm, hsame.2.symm⟩).2 hname.symm)
    obtain ⟨id, ha⟩ := Dict.mem_values_iff.mp (hother.perm.subset ha)
    obtain ⟨id', hb⟩ := Dict.mem_values_iff.mp (h.perm.subset hb)
    rw [← hkeyed id a ha] at ha
    rw [← hkeyed id' b hb, ← hid] at hb
    exact Option.some.inj (ha.symm.trans hb)

def policies (names : List String) : List PolicyGroup :=
  names.map fun name => { id := utf8 name, name := utf8 name }

def policySnapshot (names : List String) : PolicySnapshot :=
  ⟨Dict.assign ((policies names).map fun group => (group.id, group)) ∅, ∅, 2, zeroTime⟩

theorem orderedGroups_unique_guests :
    OrderedGroups (policySnapshot ["kids", "Guests"]) (policies ["Guests", "kids"]) ∧
      ∀ other, OrderedGroups (policySnapshot ["kids", "Guests"]) other →
        other = policies ["Guests", "kids"] := by
  refine ⟨⟨by decide, by decide⟩, (orderedGroups_unique_iff ?_ ⟨by decide, by decide⟩).2.mpr
    (by decide)⟩
  intro id group hlookup
  rcases Dict.lookup_assign hlookup with hempty | hentry
  · cases hempty
  · obtain ⟨group, -, hentry⟩ := List.mem_map.mp hentry
    cases hentry
    rfl

/-- Both orders are possible, and the list may change from one load to the next. -/
theorem orderedGroups_two_orders :
    OrderedGroups (policySnapshot ["kids", "Kids"]) (policies ["kids", "Kids"]) ∧
      OrderedGroups (policySnapshot ["kids", "Kids"]) (policies ["Kids", "kids"]) :=
  ⟨⟨by decide, by decide⟩, ⟨by decide, by decide⟩⟩

end GateSentry.Policy
