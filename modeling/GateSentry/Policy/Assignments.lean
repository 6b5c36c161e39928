import GateSentry.Foundation.Interleaving
import GateSentry.Policy.Integrity

/-!
# Assignments and the policies they name

The handlers of `handler_policy.go` and `handler_device_policy.go` that change groups and
assignments, run at the same time.  The two that replace a whole collection do not look at the
other collection within their transaction.
-/

namespace GateSentry.Policy

open Foundation ByteText Calendar

/-! ## Handlers -/

inductive Replacement where
  | groups (next : Dict Bytes PolicyGroup) (met : PolicySnapshot)
  | assignments (next : Dict Bytes Bytes) (met : PolicySnapshot)

/-- The stored text and the live policies.  The replacements written so far are remembered to
speak about them. -/
structure GroupState where
  raw : PolicyText
  live : PolicySnapshot
  replaced : List Replacement

/-- What a step meets: the instant, the drawn ids, whether a write takes effect, and whether
it is reported to fail. -/
structure PolicyAnswer where
  now : Time
  draws : Nat → Bytes
  commits : Bool
  fails : Bool

inductive PolicyReply where
  | done
  | rejected
  | failed
  deriving DecidableEq

abbrev Handling := Proc PolicyAnswer GroupState

section Handlers

variable {platform : CheckPlatform}

def PolicyCall.replacement (draws : Nat → Bytes) (met : PolicySnapshot) :
    PolicyCall platform → List Replacement
  | .saveGroups groups _ =>
    match saveGroupsMap { platform with newGroupID := draws } groups with
    | .ok next => [.groups next met]
    | .error _ => []
  | .saveAssignments assignments =>
    [.assignments (Dict.assign (assignments.map fun a => (a.deviceID, a.groupID)) ∅) met]
  | _ => []

def storedSnapshot (raw : PolicyText) : PolicySnapshot :=
  match decodeDocument raw with
  | .ok doc => snapshotFromDocument doc
  | .error _ => ⟨∅, ∅, 0, zeroTime⟩

def PolicyCall.effect (call : PolicyCall platform) (answer : PolicyAnswer) (s : GroupState) :
    GroupState :=
  match call.apply answer.now answer.draws s.raw with
  | .error _ => s
  | .ok next =>
    if answer.commits then
      { s with
        raw := next
        replaced := s.replaced ++ call.replacement answer.draws (storedSnapshot s.raw) }
    else s

def PolicyCall.reply (call : PolicyCall platform) (answer : PolicyAnswer) (s : GroupState) :
    PolicyReply :=
  match call.apply answer.now answer.draws s.raw with
  | .error _ => .rejected
  | .ok _ => if answer.fails || !answer.commits then .failed else .done

def transact (call : PolicyCall platform) : Handling PolicyReply :=
  Proc.step call.effect call.reply

/-- `Reload` reads the document, and publishes it if nothing else fails to be read. -/
def reloadLive : Handling PolicyReply := do
  let read ← Proc.look fun (answer : PolicyAnswer) (s : GroupState) =>
    if answer.fails then none else (decodeDocument s.raw).toOption
  match read with
  | none => return .failed
  | some doc =>
    Proc.step
      (fun answer s => if answer.fails then s else { s with live := snapshotFromDocument doc })
      (fun answer _ => if answer.fails then .failed else .done)

def changeThenReload (call : PolicyCall platform) : Handling PolicyReply := do
  let reply ← transact call
  if reply = .done then reloadLive else return reply

def assignable (live : PolicySnapshot) (assignments : List DeviceAssignment) : Bool :=
  assignments.all fun a =>
    !a.deviceID.isEmpty && !a.groupID.isEmpty && decide (a.groupID ∈ live.groups)

inductive GroupRequest where
  | groupCreate (group : PolicyGroup)
  | templateApply (group : PolicyGroup)
  | groupUpdate (groupID : Bytes) (group : PolicyGroup)
  | groupDelete (groupID : Bytes)
  | groupsReplace (groups : List PolicyGroup) (order : RangeOrder PolicyGroup)
  | assignmentSet (deviceID groupID : Bytes) (known : Bool)
  | assignmentsReplace (assignments : List DeviceAssignment)

def GroupRequest.handler (platform : CheckPlatform) : GroupRequest → Handling PolicyReply
  | .groupCreate group => do
    let id ← Proc.look fun (answer : PolicyAnswer) (_ : GroupState) => answer.draws 0
    changeThenReload (.createGroup { group with id } : PolicyCall platform)
  | .templateApply group => changeThenReload (.createGroup group : PolicyCall platform)
  | .groupUpdate groupID group =>
    changeThenReload (.updateGroup groupID group : PolicyCall platform)
  | .groupDelete groupID => changeThenReload (.deleteGroup groupID : PolicyCall platform)
  | .groupsReplace groups order =>
    changeThenReload (.saveGroups groups order : PolicyCall platform)
  | .assignmentSet deviceID groupID known =>
    if known then
      changeThenReload (.setDeviceAssignment deviceID groupID : PolicyCall platform)
    else return .rejected
  | .assignmentsReplace assignments => do
    let live ← Proc.look fun (_ : PolicyAnswer) (s : GroupState) => s.live
    if assignable live assignments then
      changeThenReload (.saveAssignments assignments : PolicyCall platform)
    else return .rejected

end Handlers

/-! ## References -/

def Refers (groups : Dict Bytes PolicyGroup) (assignments : Dict Bytes Bytes) : Prop :=
  ∀ deviceID groupID, assignments.lookup deviceID = some groupID →
    groupID ∈ groups ∧ groupID ≠ defaultGroupID

def PolicyDocument.Refers (doc : PolicyDocument) : Prop :=
  ∀ assignment ∈ doc.assignments, assignment.groupID ≠ defaultGroupID ∧
    ∃ group ∈ doc.groups, group.id = assignment.groupID

def PolicyText.Refers (raw : PolicyText) : Prop :=
  raw = .empty ∨ ∃ doc, raw = .current doc ∧ doc.Refers

def Replacement.Safe : Replacement → Prop
  | .groups next met => ∀ deviceID groupID, met.assignments.lookup deviceID = some groupID →
      groupID ∈ next
  | .assignments next met => Policy.Refers met.groups next

variable {snap : PolicySnapshot}

theorem refers_of_document (hsnap : snap.Integral)
    (h : Refers snap.groups snap.assignments) (migratedFrom : Bytes) (now : Time) :
    (documentFromSnapshot snap migratedFrom now).Refers := by
  intro assignment hassignment
  obtain ⟨hmem, hne⟩ := h _ _ (mem_assignments_document.mp hassignment).1
  obtain ⟨group, hgroup⟩ := Dict.mem_iff_lookup.mp hmem
  exact ⟨hne, group, mem_groups_document.mpr ⟨_, hgroup⟩, hsnap.keyed _ _ hgroup⟩

variable {doc : PolicyDocument}

theorem refers_snapshotFromDocument (h : doc.Refers) :
    Refers (snapshotFromDocument doc).groups (snapshotFromDocument doc).assignments := by
  intro deviceID groupID hlookup
  obtain ⟨assignment, hassignment, hentry⟩ := Dict.exists_of_lookup_assign hlookup
  cases hentry
  obtain ⟨hne, group, hgroup, hid⟩ := h assignment hassignment
  refine ⟨?_, hne⟩
  rw [snapshotFromDocument, Dict.mem_assign, List.map_map]
  exact .inr (List.mem_map.mpr ⟨group, hgroup, hid⟩)

theorem refers_withDefaultGroup (h : doc.Refers) : (withDefaultGroup doc).Refers := by
  unfold withDefaultGroup
  split
  · exact h
  · intro assignment hassignment
    obtain ⟨hne, group, hgroup, hid⟩ := h assignment hassignment
    exact ⟨hne, group, List.mem_append_left _ hgroup, hid⟩

variable {raw : PolicyText}

theorem refers_storedSnapshot (h : raw.Refers) :
    Refers (storedSnapshot raw).groups (storedSnapshot raw).assignments := by
  rcases h with rfl | ⟨doc, rfl, hdoc⟩
  · intro deviceID groupID hlookup
    cases hlookup
  · exact refers_snapshotFromDocument (refers_withDefaultGroup hdoc)

/-! ## Transforms -/

section Transforms

variable {platform : CheckPlatform} {snap snap' : PolicySnapshot}

theorem refers_addGroup {group : PolicyGroup} (hsnap : Refers snap.groups snap.assignments)
    (h : addGroup platform snap group = .ok snap') : Refers snap'.groups snap'.assignments := by
  obtain ⟨-, rfl⟩ := addGroup_eq h
  intro deviceID groupID hlookup
  obtain ⟨hmem, hne⟩ := hsnap deviceID groupID hlookup
  exact ⟨AList.mem_insert _ |>.mpr (.inr hmem), hne⟩

theorem lookup_withoutGroup {assignments : Dict Bytes Bytes} {removed deviceID groupID : Bytes} :
    (withoutGroup assignments removed).lookup deviceID = some groupID ↔
      groupID ≠ removed ∧ assignments.lookup deviceID = some groupID := by
  constructor
  · intro h
    obtain ⟨hmem, hkept⟩ := List.mem_filter.mp (AList.mem_lookup_iff.mp h)
    exact ⟨by simpa using hkept, AList.mem_lookup_iff.mpr hmem⟩
  · rintro ⟨hkept, h⟩
    apply AList.mem_lookup_iff.mpr
    exact List.mem_filter.mpr ⟨AList.mem_lookup_iff.mp h, by simpa using hkept⟩

theorem refers_setDeviceAssignment {deviceID groupID : Bytes}
    (hsnap : Refers snap.groups snap.assignments)
    (h : setDeviceAssignment deviceID groupID snap = .ok snap') :
    Refers snap'.groups snap'.assignments := by
  rcases setDeviceAssignment_ok h with rfl | ⟨hknown, hgroup, rfl⟩
  · exact fun other otherGroup hlookup =>
      hsnap other otherGroup (Dict.lookup_of_erase hlookup)
  · intro other otherGroup hlookup
    rcases Dict.lookup_of_insert hlookup with ⟨rfl, rfl⟩ | ⟨-, hother⟩
    · exact ⟨hknown, hgroup⟩
    · exact hsnap other otherGroup hother

theorem foldl_putGroup (next : List PolicyGroup) (snap : PolicySnapshot) :
    next.foldl putGroup snap = { snap with
        groups := Dict.assign (next.map fun group => (group.id, group)) snap.groups } := by
  induction next generalizing snap with
  | nil => rfl
  | cons group rest ih =>
    rw [List.foldl_cons, ih]
    rfl

theorem saveGroupsTransform_eq {next : List PolicyGroup}
    (h : saveGroupsTransform platform next snap = .ok snap') :
    snap' = { snap with
      groups := Dict.assign (next.map fun group => (group.id, group)) ∅ } := by
  have hplain := eq_foldl_of_foldlM (fun _ _ _ hadd => (addGroup_eq hadd).2) h
  rw [hplain, foldl_putGroup]

end Transforms

/-! ## Requests -/

section Requests

variable {platform : CheckPlatform} {next : Dict Bytes PolicyGroup} {groups : List PolicyGroup}

theorem keyed_saveGroupsMap (h : saveGroupsMap platform groups = .ok next) {id : Bytes}
    {other : PolicyGroup} (hother : next.lookup id = some other) : other.id = id := by
  rcases lookup_saveGroupsMap h hother with ⟨rfl, rfl⟩ | ⟨raw, hid, hnormalized⟩
  · rfl
  · rw [id_normalizeGroup hnormalized, hid]

variable {snap snap' : PolicySnapshot}

theorem refers_saveGroups (hnext : saveGroupsMap platform groups = .ok next)
    (order : RangeOrder PolicyGroup) (hsnap : Refers snap.groups snap.assignments)
    (hsafe : ∀ deviceID groupID, snap.assignments.lookup deviceID = some groupID → groupID ∈ next)
    (h : saveGroupsTransform platform (order.values next) snap = .ok snap') :
    Refers snap'.groups snap'.assignments := by
  rw [saveGroupsTransform_eq h]
  intro deviceID groupID hlookup
  refine ⟨?_, (hsnap deviceID groupID hlookup).2⟩
  obtain ⟨group, hgroup⟩ := Dict.mem_iff_lookup.mp (hsafe deviceID groupID hlookup)
  have hvisited : group ∈ order.values next := order.mem_values_iff.mpr ⟨groupID, hgroup⟩
  rw [Dict.mem_assign, List.map_map]
  exact .inr (List.mem_map.mpr ⟨group, hvisited, keyed_saveGroupsMap hnext hgroup⟩)

theorem stored_of_decode (h : decodeDocument raw = .ok doc) :
    storedSnapshot raw = snapshotFromDocument doc := by
  simp [storedSnapshot, h]

theorem integral_storedSnapshot (h : raw.WellFormed) : (storedSnapshot raw).Integral := by
  obtain ⟨doc, hdecode, hdoc⟩ := h.decode
  rw [stored_of_decode hdecode]
  exact hdoc.snapshot

def PolicyCall.migrates : PolicyCall platform → Bool
  | .saveMigration _ _ => true
  | _ => false

variable {draws : Nat → Bytes}

theorem PolicyCall.Makes.refers {call : PolicyCall platform} {now : Time}
    (h : call.Makes now draws snap snap') (hsnap : Refers snap.groups snap.assignments)
    (hsafe : ∀ replacement ∈ call.replacement draws snap, replacement.Safe) :
    Refers snap'.groups snap'.assignments := by
  cases h with
  | createGroup _ _ hadd | updateGroup _ _ hadd => exact refers_addGroup hsnap hadd
  | deleteGroup =>
    intro deviceID groupID hlookup
    obtain ⟨hother, hold⟩ := lookup_withoutGroup.mp hlookup
    obtain ⟨hmem, hne⟩ := hsnap deviceID groupID hold
    exact ⟨AList.mem_erase.mpr ⟨hother, hmem⟩, hne⟩
  | @saveGroups groups order next _ hnext hsave =>
    have hkept := hsafe (.groups next snap) (by simp [replacement, hnext])
    exact refers_saveGroups hnext order hsnap hkept hsave
  | saveAssignments => exact hsafe _ List.mem_cons_self
  | setDeviceAssignment hset => exact refers_setDeviceAssignment hsnap hset

variable (call : PolicyCall platform)

theorem PolicyCall.refers (hcall : call.migrates = false) {now : Time} {raw next : PolicyText}
    (hraw : raw.WellFormed) (hrefers : raw.Refers)
    (hsafe : ∀ replacement ∈ call.replacement draws (storedSnapshot raw), replacement.Safe)
    (h : call.apply now draws raw = .ok next) : next.Refers := by
  rcases apply_ok h with ⟨output, migratedFrom, rfl⟩ | ⟨doc, snap, hdecode, hmakes, -, rfl⟩
  · cases hcall
  · rw [← stored_of_decode hdecode] at hmakes
    have hintegral := hmakes.integral (integral_storedSnapshot hraw)
    have hstored := hmakes.refers (refers_storedSnapshot hrefers) hsafe
    exact .inr ⟨_, rfl, refers_of_document hintegral hstored _ _⟩

def GroupState.Whole (s : GroupState) : Prop :=
  s.raw.WellFormed ∧ ((∀ replacement ∈ s.replaced, replacement.Safe) → s.raw.Refers)

abbrev KeepsWhole {α : Type} (p : Handling α) (s : GroupState) : Prop :=
  p.Endures GroupState.Whole (fun _ _ => True) (fun _ _ => True) s

theorem whole_effect (hcall : call.migrates = false)
    (answer : PolicyAnswer) {s : GroupState} (hs : s.Whole) : (call.effect answer s).Whole := by
  obtain ⟨hraw, hrefers⟩ := hs
  unfold PolicyCall.effect
  split
  · exact ⟨hraw, hrefers⟩
  · next next hnext =>
    split
    · refine ⟨call.wellFormed hraw hnext, fun hsafe => ?_⟩
      have hbefore := hrefers fun replacement hmem =>
        hsafe replacement (List.mem_append_left _ hmem)
      exact call.refers hcall hraw hbefore
        (fun replacement hmem => hsafe replacement (List.mem_append_right _ hmem)) hnext
    · exact ⟨hraw, hrefers⟩

theorem keepsWhole_reloadLive (s : GroupState) : KeepsWhole reloadLive s := by
  refine Proc.endures_bind (Proc.endures_look (fun _ => trivial) fun s' _ hs' answer => ?_)
  split
  · exact Proc.endures_pure trivial
  · refine Proc.endures_step fun s'' _ hs'' answer => ⟨?_, trivial, trivial⟩
    split
    · exact hs''
    · exact hs''

theorem keepsWhole_changeThenReload (hcall : call.migrates = false)
    (s : GroupState) : KeepsWhole (changeThenReload call) s := by
  refine Proc.endures_bind (Proc.endures_step fun s' _ hs' answer =>
    ⟨whole_effect call hcall answer hs', trivial, ?_⟩)
  split
  · exact keepsWhole_reloadLive _
  · exact Proc.endures_pure trivial

theorem keepsWhole_handler (request : GroupRequest) (s : GroupState) :
    KeepsWhole (request.handler platform) s := by
  cases request with
  | groupCreate group =>
    exact Proc.endures_bind (Proc.endures_look (fun _ => trivial) fun s' _ _ _ =>
      keepsWhole_changeThenReload _ rfl s')
  | templateApply | groupUpdate | groupDelete | groupsReplace =>
    exact keepsWhole_changeThenReload _ rfl s
  | assignmentSet deviceID groupID known =>
    simp only [GroupRequest.handler]
    split
    · exact keepsWhole_changeThenReload _ rfl s
    · exact Proc.endures_pure trivial
  | assignmentsReplace assignments =>
    refine Proc.endures_bind (Proc.endures_look (fun _ => trivial) fun s' _ _ _ => ?_)
    split
    · exact keepsWhole_changeThenReload _ rfl s'
    · exact Proc.endures_pure trivial

end Requests

def newInstallation {ι : Type} (platform : CheckPlatform) (requests : ι → GroupRequest) :
    Pool ι PolicyAnswer GroupState PolicyReply where
  state := ⟨.empty, storedSnapshot .empty, []⟩
  threads i := (requests i).handler platform

/-- However the requests are interleaved: if every replacement was safe for what it met, every
assignment of the stored document names a policy of it, and not the default one. -/
theorem assignments_refer_of_safe {ι : Type} [DecidableEq ι] (platform : CheckPlatform)
    (requests : ι → GroupRequest) (schedule : List (ι × PolicyAnswer))
    (hsafe : ∀ replacement ∈ ((newInstallation platform requests).run schedule).state.replaced,
      replacement.Safe) :
    ((newInstallation platform requests).run schedule).state.raw.Refers := by
  have hstart : (newInstallation platform requests).Stands GroupState.Whole (fun _ _ => True) := by
    refine ⟨⟨.inl rfl, fun _ => .inl rfl⟩, fun i => ?_⟩
    exact keepsWhole_handler (requests i) _
  have hend := hstart.run (fun _ => trivial) (fun _ _ _ _ _ => trivial) schedule
  exact hend.1.2 hsafe

/-! ## Two runs -/

def kidsID : Bytes := utf8 "kids"

def kidsGroup : PolicyGroup := { id := kidsID, name := utf8 "Kids" }

def laptopID : Bytes := utf8 "laptop"

def wellAnswered : PolicyAnswer where
  now := 0
  draws _ := kidsID
  commits := true
  fails := false

variable {call : PolicyCall platform} {platform : CheckPlatform}

theorem mem_replaced_effect {answer : PolicyAnswer} {s : GroupState} {replacement : Replacement}
    (h : replacement ∈ (call.effect answer s).replaced) :
    replacement ∈ s.replaced ∨
      replacement ∈ call.replacement answer.draws (storedSnapshot s.raw) := by
  unfold PolicyCall.effect at h
  split at h
  · exact .inl h
  · split at h
    · exact List.mem_append.mp h
    · exact .inl h

def keepRequests : Nat → GroupRequest
  | 0 => .groupsReplace [kidsGroup] .asListed
  | _ => .assignmentSet laptopID kidsID true

def keepSchedule : List (Nat × PolicyAnswer) := [(0, wellAnswered), (1, wellAnswered)]

theorem assignments_refer_keepRequests :
    ((newInstallation compilingPlatform keepRequests).run keepSchedule).state.raw.Refers := by
  apply assignments_refer_of_safe
  intro replacement hmem
  rcases mem_replaced_effect hmem with hfirst | hassigned
  · rcases mem_replaced_effect hfirst with hnone | hreplaced
    · cases hnone
    · rw [PolicyCall.replacement] at hreplaced
      split at hreplaced
      · rw [List.mem_singleton] at hreplaced
        subst hreplaced
        intro deviceID groupID hlookup
        cases hlookup
      · cases hreplaced
  · cases hassigned

theorem raw_effect {s : GroupState} {raw next : PolicyText} (hs : s.raw = raw)
    (h : call.apply 0 (fun _ => kidsID) raw = .ok next) :
    (call.effect wellAnswered s).raw = next := by
  subst hs
  have happly : call.apply wellAnswered.now wellAnswered.draws s.raw = .ok next := h
  simp only [PolicyCall.effect, happly]
  rfl

theorem updatePolicy_document {next : PolicySnapshot} (hsnap : snap.WellFormed)
    {transform : PolicySnapshot → Except PolicyError PolicySnapshot} {migratedFrom : Bytes}
    (h : transform (snapshotFromDocument (documentFromSnapshot snap migratedFrom 0)) = .ok next)
    (hdefault : defaultGroupID ∈ next.groups) :
    updatePolicy transform 0 (.current (documentFromSnapshot snap migratedFrom 0)) =
      .ok (.current (documentFromSnapshot next migratedFrom 0)) := by
  simp only [updatePolicy, decodeDocument, withDefaultGroup_document hsnap, h,
    if_pos hdefault]
  rfl

theorem wellFormed_putGroup (h : snap.WellFormed) (group : PolicyGroup) :
    (putGroup snap group).WellFormed where
  keyed := by
    intro id other hlookup
    rcases Dict.lookup_of_insert hlookup with ⟨rfl, rfl⟩ | ⟨-, hold⟩
    · rfl
    · exact h.keyed id other hold
  hasDefault := (AList.mem_insert _).mpr (.inr h.hasDefault)

def dropRequests : Nat → GroupRequest
  | 0 => .templateApply kidsGroup
  | 1 => .assignmentSet laptopID kidsID true
  | _ => .groupsReplace [] .asListed

def dropSchedule : List (Nat × PolicyAnswer) :=
  [(0, wellAnswered), (1, wellAnswered), (2, wellAnswered)]

def createdSnapshot : PolicySnapshot :=
  putGroup (storedSnapshot .empty) { kidsGroup with createdAt := 0, updatedAt := 0 }

def assignedSnapshot : PolicySnapshot :=
  let created := snapshotFromDocument (documentFromSnapshot createdSnapshot [] 0)
  { created with assignments := created.assignments.insert laptopID kidsID }

def droppedSnapshot : PolicySnapshot :=
  let assigned := snapshotFromDocument (documentFromSnapshot assignedSnapshot [] 0)
  { assigned with groups := AList.insert defaultGroupID defaultGroup ∅ }

theorem created_wellFormed : createdSnapshot.WellFormed :=
  wellFormed_putGroup (snapshot_wellFormed _) _

theorem assigned_wellFormed : assignedSnapshot.WellFormed :=
  ⟨(created_wellFormed.stored [] 0).keyed,
    (created_wellFormed.stored [] 0).hasDefault⟩

theorem created_apply : (PolicyCall.createGroup kidsGroup : PolicyCall compilingPlatform).apply 0
    (fun _ => kidsID) .empty = .ok (.current (documentFromSnapshot createdSnapshot [] 0)) := by
  rfl

theorem assigned_apply :
    (PolicyCall.setDeviceAssignment laptopID kidsID : PolicyCall compilingPlatform).apply 0
        (fun _ => kidsID) (.current (documentFromSnapshot createdSnapshot [] 0)) =
      .ok (.current (documentFromSnapshot assignedSnapshot [] 0)) := by
  have hlookup : createdSnapshot.groups.lookup kidsID =
    some { kidsGroup with createdAt := 0, updatedAt := 0 } := AList.lookup_insert _
  have hmem : kidsID ∈
      (snapshotFromDocument (documentFromSnapshot createdSnapshot [] 0)).groups := by
    rw [Dict.mem_iff_lookup]
    exact ⟨_, (lookup_groups_document created_wellFormed.keyed [] 0).mpr
      hlookup⟩
  apply updatePolicy_document created_wellFormed
  · unfold setDeviceAssignment
    rw [if_neg (not_not.mpr hmem)]
    rfl
  · exact assigned_wellFormed.hasDefault

theorem dropped_apply : (PolicyCall.saveGroups [] .asListed : PolicyCall compilingPlatform).apply 0
        (fun _ => kidsID) (.current (documentFromSnapshot assignedSnapshot [] 0)) =
      .ok (.current (documentFromSnapshot droppedSnapshot [] 0)) := by
  simp only [PolicyCall.apply, bind, Except.bind]
  apply updatePolicy_document assigned_wellFormed
  · rfl
  · exact (AList.mem_insert _).mpr (.inl rfl)

/-- The device stays assigned to a policy that is gone. -/
theorem assignments_dangle :
    ¬ ((newInstallation compilingPlatform dropRequests).run dropSchedule).state.raw.Refers := by
  have hraw : ((newInstallation compilingPlatform dropRequests).run dropSchedule).state.raw =
      .current (documentFromSnapshot droppedSnapshot [] 0) := by
    exact raw_effect (raw_effect (raw_effect rfl created_apply) assigned_apply) dropped_apply
  rw [hraw]
  rintro (hempty | ⟨doc, hdoc, hrefers⟩)
  · cases hempty
  · cases hdoc
    have hassigned : (⟨laptopID, kidsID, zeroTime⟩ : DeviceAssignment) ∈
        (documentFromSnapshot droppedSnapshot [] 0).assignments := by
      refine mem_assignments_document.mpr ⟨?_, rfl⟩
      apply (lookup_assignments_document assignedSnapshot [] 0).mpr
      exact AList.lookup_insert _
    obtain ⟨-, group, hgroup, hid⟩ := hrefers _ hassigned
    obtain ⟨id, hlookup⟩ := mem_groups_document.mp hgroup
    rcases Dict.lookup_of_insert hlookup with ⟨-, rfl⟩ | ⟨-, hempty⟩
    · revert hid
      decide
    · cases hempty

end GateSentry.Policy
