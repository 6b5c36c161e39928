import GateSentry.Policy.Assignments

/-!
# What an edit leaves alone

The calls that name one group or one device, and the records of the document that they are not
about.  Each reads the whole document into a snapshot and writes the whole snapshot back.
-/

namespace GateSentry.Policy

open Foundation ByteText Calendar

section Spared

variable {platform : CheckPlatform}

def PolicyCall.SparesGroup : PolicyCall platform → PolicyGroup → Prop
  | .createGroup group, other => other.id ≠ group.id
  | .updateGroup groupID _, other => other.id ≠ groupID
  | .deleteGroup groupID, other => other.id ≠ groupID
  | .setDeviceAssignment _ _, _ => True
  | _, _ => False

def PolicyCall.SparesAssignment : PolicyCall platform → DeviceAssignment → Prop
  | .createGroup _, _ => True
  | .updateGroup _ _, _ => True
  | .deleteGroup groupID, assignment => assignment.groupID ≠ groupID
  | .setDeviceAssignment deviceID _, assignment => assignment.deviceID ≠ deviceID
  | _, _ => False

structure PolicyCall.Frames (call : PolicyCall platform) (snap snap' : PolicySnapshot) : Prop where
  keyed : ∀ id group, snap'.groups.lookup id = some group → group.id = id
  groups : ∀ group, call.SparesGroup group →
    (snap'.groups.lookup group.id = some group ↔ snap.groups.lookup group.id = some group)
  assignments : ∀ assignment, call.SparesAssignment assignment →
    (snap'.assignments.lookup assignment.deviceID = some assignment.groupID ↔
      snap.assignments.lookup assignment.deviceID = some assignment.groupID)

variable {call : PolicyCall platform} {snap : PolicySnapshot}

section

variable (hkeyed : ∀ id group, snap.groups.lookup id = some group → group.id = id)

include hkeyed

theorem PolicyCall.frames_putGroup {group : PolicyGroup}
    (hspares : ∀ other, call.SparesGroup other → other.id ≠ group.id) :
    call.Frames snap (putGroup snap group) where
  keyed id other hlookup := by
    rcases Dict.lookup_of_insert hlookup with ⟨rfl, rfl⟩ | ⟨-, hother⟩
    · rfl
    · exact hkeyed id other hother
  groups other hother := by rw [putGroup, AList.lookup_insert_ne (hspares other hother)]
  assignments _ _ := Iff.rfl

theorem PolicyCall.frames_deleteGroup {groupID : Bytes} :
    (deleteGroup groupID : PolicyCall platform).Frames snap { snap with
      groups := snap.groups.erase groupID
      assignments := withoutGroup snap.assignments groupID } where
  keyed id group hlookup := hkeyed id group (Dict.lookup_of_erase hlookup)
  groups group hgroup := by rw [AList.lookup_erase_ne hgroup]
  assignments assignment hassignment := by
    rw [lookup_withoutGroup]
    exact and_iff_right hassignment

theorem PolicyCall.frames_setDeviceAssignment {deviceID groupID : Bytes} {snap' : PolicySnapshot}
    (h : Policy.setDeviceAssignment deviceID groupID snap = .ok snap') :
    (setDeviceAssignment deviceID groupID : PolicyCall platform).Frames snap snap' := by
  rcases setDeviceAssignment_ok h with rfl | ⟨-, -, rfl⟩
  · refine ⟨hkeyed, fun _ _ => Iff.rfl, fun assignment hassignment => ?_⟩
    rw [AList.lookup_erase_ne hassignment]
  · refine ⟨hkeyed, fun _ _ => Iff.rfl, fun assignment hassignment => ?_⟩
    rw [AList.lookup_insert_ne hassignment]

end

/-- The groups and assignments that the call is not about are in both documents or in none. -/
structure PolicyCall.Keeps (call : PolicyCall platform) (doc doc' : PolicyDocument) : Prop where
  groups : ∀ group, call.SparesGroup group → (group ∈ doc.groups ↔ group ∈ doc'.groups)
  assignments : ∀ assignment, call.SparesAssignment assignment →
    (assignment ∈ doc.assignments ↔ assignment ∈ doc'.assignments)

structure PolicyCall.Recovers (call : PolicyCall platform) (doc : PolicyDocument) : Prop where
  groups : ∀ group ∈ doc.groups, call.SparesGroup group →
    (snapshotFromDocument doc).groups.lookup group.id = some group
  assignments : ∀ assignment ∈ doc.assignments, call.SparesAssignment assignment →
    (snapshotFromDocument doc).assignments.lookup assignment.deviceID = some assignment.groupID ∧
      assignment.assignedAt = zeroTime

variable {doc : PolicyDocument}

theorem mem_assignments_of_lookup {deviceID groupID : Bytes}
    (h : (snapshotFromDocument doc).assignments.lookup deviceID = some groupID) :
    ∃ assignment ∈ doc.assignments,
      assignment.deviceID = deviceID ∧ assignment.groupID = groupID := by
  obtain ⟨assignment, hassignment, hentry⟩ := Dict.exists_of_lookup_assign h
  cases hentry
  exact ⟨assignment, hassignment, rfl, rfl⟩

theorem PolicyCall.Frames.keeps_iff
    (h : call.Frames (snapshotFromDocument doc) snap) (migratedFrom : Bytes) (now : Time) :
    call.Keeps doc (documentFromSnapshot snap migratedFrom now) ↔ call.Recovers doc := by
  have hgroups (group : PolicyGroup) (hspared : call.SparesGroup group) :
      group ∈ (documentFromSnapshot snap migratedFrom now).groups ↔
        (snapshotFromDocument doc).groups.lookup group.id = some group := by
    rw [mem_groups_document, ← h.groups group hspared]
    constructor
    · rintro ⟨id, hlookup⟩
      rwa [h.keyed id group hlookup]
    · exact fun hlookup => ⟨group.id, hlookup⟩
  have hassignments (assignment : DeviceAssignment) (hspared : call.SparesAssignment assignment) :
      assignment ∈ (documentFromSnapshot snap migratedFrom now).assignments ↔
        (snapshotFromDocument doc).assignments.lookup assignment.deviceID =
            some assignment.groupID ∧ assignment.assignedAt = zeroTime := by
    rw [mem_assignments_document, h.assignments assignment hspared]
  constructor
  · intro hkeeps
    constructor
    · intro group hgroup hspared
      exact (hgroups group hspared).mp ((hkeeps.groups group hspared).mp hgroup)
    · intro assignment hassignment hspared
      exact (hassignments assignment hspared).mp
        ((hkeeps.assignments assignment hspared).mp hassignment)
  · intro hrecovers
    constructor
    · intro group hspared
      rw [hgroups group hspared]
      exact ⟨fun hgroup => hrecovers.groups group hgroup hspared,
        fun hlookup => (lookup_snapshot hlookup).1⟩
    · intro assignment hspared
      rw [hassignments assignment hspared]
      refine ⟨fun hmem => hrecovers.assignments assignment hmem hspared, ?_⟩
      rintro ⟨hlookup, htime⟩
      obtain ⟨stored, hstored, hdevice, hgroup⟩ := mem_assignments_of_lookup hlookup
      -- The stored record has the same ids, and its time is zero because it is read back.
      have hsame : stored.assignedAt = assignment.assignedAt := by
        rw [htime]
        refine (hrecovers.assignments stored hstored ?_).2
        revert hspared
        cases call <;> simp [SparesAssignment, hdevice, hgroup]
      obtain ⟨deviceID', groupID', assignedAt'⟩ := assignment
      cases hdevice
      cases hgroup
      cases hsame
      exact hstored

theorem PolicyCall.frames_of_apply {now : Time} {draws : Nat → Bytes} {raw : PolicyText}
    {doc' : PolicyDocument} (hdecode : decodeDocument raw = .ok doc)
    (h : call.apply now draws raw = .ok (.current doc')) :
    (∀ group, ¬ call.SparesGroup group) ∧ (∀ assignment, ¬ call.SparesAssignment assignment) ∨
      ∃ snap migratedFrom, call.Frames (snapshotFromDocument doc) snap ∧
        doc' = documentFromSnapshot snap migratedFrom now := by
  have hkeyed (id : Bytes) (group : PolicyGroup)
      (hlookup : (snapshotFromDocument doc).groups.lookup id = some group) : group.id = id :=
    (lookup_snapshot hlookup).2
  rcases apply_ok h with ⟨output, migratedFrom, rfl⟩ | ⟨same, snap, hsame, hmakes, -, hnext⟩
  · exact .inl ⟨fun _ hspared => hspared, fun _ hspared => hspared⟩
  · cases hdecode.symm.trans hsame
    cases hnext
    cases hmakes with
    | createGroup hgroup hnew hadd =>
      rw [(addGroup_eq hadd).2]
      refine .inr ⟨_, _, frames_putGroup hkeyed fun other hother => ?_, rfl⟩
      rwa [id_normalizeGroup hgroup]
    | updateGroup hgroup hbare hadd =>
      rw [(addGroup_eq hadd).2]
      refine .inr ⟨_, _, frames_putGroup hkeyed fun other hother => ?_, rfl⟩
      exact hother
    | deleteGroup => exact .inr ⟨_, _, frames_deleteGroup hkeyed, rfl⟩
    | setDeviceAssignment hset => exact .inr ⟨_, _, frames_setDeviceAssignment hkeyed hset, rfl⟩
    | saveGroups | saveAssignments => exact .inl ⟨fun _ hspared => hspared, fun _ hspared => hspared⟩

/-- An edit keeps every other record exactly if the snapshot of the document can say what they
were: no two groups with one id, no two assignments of one device, and no times. -/
theorem edit_keeps_others_iff (call : PolicyCall platform) (now : Time) (draws : Nat → Bytes)
    (raw : PolicyText) (doc doc' : PolicyDocument) (hdecode : decodeDocument raw = .ok doc)
    (h : call.apply now draws raw = .ok (.current doc')) :
    call.Keeps doc doc' ↔ call.Recovers doc := by
  rcases PolicyCall.frames_of_apply hdecode h with ⟨hgroups, hassignments⟩ |
    ⟨snap, migratedFrom, hframes, rfl⟩
  · refine iff_of_true ⟨fun group hspared => absurd hspared (hgroups group),
      fun assignment hspared => absurd hspared (hassignments assignment)⟩ ?_
    exact ⟨fun group _ hspared => absurd hspared (hgroups group),
      fun assignment _ hspared => absurd hspared (hassignments assignment)⟩
  · exact hframes.keeps_iff migratedFrom now

end Spared

def laptopDocument (assignedAt : Time) : PolicyDocument :=
  { version := documentVersion, groups := [defaultGroup, kidsGroup]
    assignments := [⟨laptopID, kidsID, assignedAt⟩], migratedFrom := [], updatedAt := 5 }

def tabletID : Bytes := utf8 "tablet"

def assignTablet : PolicyCall compilingPlatform := .setDeviceAssignment tabletID kidsID

def tabletSnapshot (assignedAt : Time) : PolicySnapshot :=
  let snap := snapshotFromDocument (laptopDocument assignedAt)
  { snap with assignments := snap.assignments.insert tabletID kidsID }

theorem assignTablet_apply (assignedAt : Time) :
    assignTablet.apply 7 (fun _ => []) (.current (laptopDocument assignedAt)) =
      .ok (.current (documentFromSnapshot (tabletSnapshot assignedAt) [] 7)) := by
  rfl

theorem assignTablet_keeps_laptop : assignTablet.Keeps (laptopDocument zeroTime)
      (documentFromSnapshot (tabletSnapshot zeroTime) [] 7) := by
  apply (edit_keeps_others_iff assignTablet 7 (fun _ => []) (.current (laptopDocument zeroTime))
    (laptopDocument zeroTime) _ rfl (assignTablet_apply zeroTime)).mpr
  constructor
  · rintro group hgroup -
    revert group
    decide
  · rintro assignment hassignment -
    revert assignment
    decide

/-- The assignment of the tablet takes the laptop's time away. -/
theorem assignTablet_takes_time :
    assignTablet.apply 7 (fun _ => []) (.current (laptopDocument 5)) =
        .ok (.current (documentFromSnapshot (tabletSnapshot 5) [] 7)) ∧
      ¬ assignTablet.Keeps (laptopDocument 5) (documentFromSnapshot (tabletSnapshot 5) [] 7) := by
  refine ⟨rfl, fun hkeeps => ?_⟩
  have hspared : assignTablet.SparesAssignment ⟨laptopID, kidsID, 5⟩ := by
    unfold assignTablet PolicyCall.SparesAssignment
    decide
  have hkept := (hkeeps.assignments _ hspared).mp List.mem_cons_self
  exact absurd (mem_assignments_document.mp hkept).2 (by decide)

end GateSentry.Policy
