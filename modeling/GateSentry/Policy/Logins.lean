import GateSentry.Policy.Assignments

/-!
# The policy of a login

A login belongs to the first policy that lists it, by priority and id.  The default policy is
for those that no policy lists, and lists nobody itself.
-/

namespace GateSentry.Policy

open Foundation ByteText Calendar

/-! ## The first policy that lists a user -/

def Leads (listed : PolicyGroup → Prop) (best : Bytes × Int) : Prop :=
  (best = ([], maxInt) ∧ ∀ group, listed group → maxInt ≤ group.priority) ∨
    ∃ group, listed group ∧ best = (group.id, group.priority) ∧ group.priority < maxInt ∧
      ∀ other, listed other → groupBefore group other = true

theorem groupBefore_iff (a b : PolicyGroup) : groupBefore a b = true ↔
      a.priority < b.priority ∨ (a.priority = b.priority ∧ a.id ≤ b.id) := by
  unfold groupBefore
  split
  · next hne => simp [hne]
  · next heq =>
    rw [not_not] at heq
    simp [heq]

variable {listed : PolicyGroup → Prop} {best : Bytes × Int}

theorem Leads.congr {other : PolicyGroup → Prop}
    (h : Leads listed best) (hsame : ∀ group, listed group ↔ other group) : Leads other best := by
  have heq : listed = other := funext fun group => propext (hsame group)
  rwa [← heq]

theorem leads_visitUser (h : Leads listed best) (user : Bytes) (group : PolicyGroup) :
    Leads (fun other => listed other ∨ other = group) (visitUser user group best user) := by
  have hstep : visitUser user group best user =
      if group.priority < best.2 ||
        (group.priority = best.2 && !best.1.isEmpty && group.id < best.1) then
        (group.id, group.priority) else best := by
    simp [visitUser]
  rw [hstep]
  rcases h with ⟨rfl, hlate⟩ | ⟨first, hfirst, rfl, hsmall, hbefore⟩
  · by_cases hpriority : group.priority < maxInt
    · right
      refine ⟨group, .inr rfl, by simp [hpriority], hpriority, ?_⟩
      rintro other (hother | rfl)
      · exact (groupBefore_iff group other).mpr (.inl (by have := hlate other hother; omega))
      · exact (groupBefore_iff other other).mpr (.inr ⟨rfl, List.le_refl _⟩)
    · left
      refine ⟨by simp [hpriority], ?_⟩
      rintro other (hother | rfl)
      · exact hlate other hother
      · omega
  · right
    by_cases hearlier : group.priority < first.priority ∨
        (group.priority = first.priority ∧ first.id ≠ [] ∧ group.id < first.id)
    · refine ⟨group, .inr rfl, ?_, by omega, ?_⟩
      · rw [if_pos]
        simpa [and_assoc] using hearlier
      · rintro other (hother | rfl)
        · have hnext := (groupBefore_iff first other).mp (hbefore other hother)
          rw [groupBefore_iff]
          rcases hearlier with hless | ⟨heq, -, hid⟩
          · omega
          · rcases hnext with hless | ⟨hsame, hle⟩
            · omega
            · exact .inr ⟨heq.trans hsame, List.le_trans (List.le_of_lt hid) hle⟩
        · exact (groupBefore_iff other other).mpr (.inr ⟨rfl, List.le_refl _⟩)
    · refine ⟨first, .inl hfirst, ?_, hsmall, ?_⟩
      · rw [if_neg]
        simpa [and_assoc] using hearlier
      · rintro other (hother | rfl)
        · exact hbefore other hother
        · rw [groupBefore_iff]
          by_cases hsame : first.priority = other.priority
          · right
            refine ⟨hsame, ?_⟩
            by_cases hid : first.id = []
            · rw [hid]
              exact List.nil_le _
            · exact List.not_lt.mp fun hless => hearlier (.inr ⟨hsame.symm, hid, hless⟩)
          · omega

theorem leads_users (user : Bytes) (group : PolicyGroup) (users : List Bytes)
    (h : Leads listed best) :
    Leads (fun other => listed other ∨ (other = group ∧ user ∈ users))
      (users.foldl (visitUser user group) best) := by
  induction users generalizing listed best with
  | nil => exact h.congr (by simp)
  | cons candidate rest ih =>
    rw [List.foldl_cons]
    by_cases hsame : candidate = user
    · subst hsame
      refine (ih (leads_visitUser h candidate group)).congr fun other => ?_
      tauto
    · have hskip : visitUser user group best candidate = best := by simp [visitUser, hsame]
      rw [hskip]
      refine (ih h).congr fun other => ?_
      simp [Ne.symm hsame]

theorem leads_entries (user : Bytes) (entries : List (Sigma fun _ : Bytes => PolicyGroup))
    (h : Leads listed best) :
    Leads (fun other => listed other ∨ ∃ entry ∈ entries, other = entry.2 ∧ user ∈ entry.2.users)
      (entries.foldl (fun best entry => entry.2.users.foldl (visitUser user entry.2) best)
        best) := by
  induction entries generalizing listed best with
  | nil => exact h.congr (by simp)
  | cons entry rest ih =>
    refine (ih (leads_users user entry.2 entry.2.users h)).congr fun other => ?_
    simp [or_assoc]

namespace PolicySnapshot

def Lists (snap : PolicySnapshot) (user : Bytes) (group : PolicyGroup) : Prop :=
  (∃ id, snap.groups.lookup id = some group) ∧ user ∈ group.users

def First (snap : PolicySnapshot) (user : Bytes) (group : PolicyGroup) : Prop :=
  snap.Lists user group ∧ ∀ other, snap.Lists user other → groupBefore group other = true

theorem exists_leads (snap : PolicySnapshot) (user : Bytes) :
    ∃ priority, Leads (snap.Lists user) (groupForUserIn snap user, priority) := by
  have hstart : Leads (fun _ => False) ([], maxInt) := .inl ⟨rfl, fun _ hfalse => hfalse.elim⟩
  refine ⟨_, (leads_entries user snap.groups.entries hstart).congr fun group => ?_⟩
  simp only [false_or]
  constructor
  · rintro ⟨entry, hentry, rfl, huser⟩
    exact ⟨⟨entry.1, AList.mem_lookup_iff.mpr hentry⟩, huser⟩
  · rintro ⟨⟨id, hlookup⟩, huser⟩
    exact ⟨⟨id, group⟩, AList.mem_lookup_iff.mp hlookup, rfl, huser⟩

theorem lists_of_perm {snap other : PolicySnapshot}
    (h : other.groups.entries.Perm snap.groups.entries) (user : Bytes) (group : PolicyGroup) :
    other.Lists user group ↔ snap.Lists user group := by
  unfold Lists
  simp only [← Option.mem_def, AList.mem_lookup_iff, h.mem_iff]

/-- In whatever order the map is visited, the login gets the first policy that lists it, and
none exactly if no policy does. -/
def ResolvesLogin (snap : PolicySnapshot) (user : Bytes) : Prop :=
  ∀ visited : PolicySnapshot, visited.groups.entries.Perm snap.groups.entries →
    (groupForUserIn visited user = [] ↔ ∀ group, ¬ snap.Lists user group) ∧
      ∀ group, snap.First user group → groupForUserIn visited user = group.id

/-- A login is resolved exactly if the first policy that lists it, should there be one, has a
priority below the largest integer, and an id. -/
theorem resolvesLogin_iff (snap : PolicySnapshot) (user : Bytes) :
    snap.ResolvesLogin user ↔ ∀ listed, snap.Lists user listed →
      ∃ group, snap.First user group ∧ group.priority < maxInt ∧ group.id ≠ [] := by
  constructor
  · intro h listed hlisted
    obtain ⟨hnone, -⟩ := h snap (List.Perm.refl _)
    have hfound : groupForUserIn snap user ≠ [] := fun hempty => hnone.mp hempty listed hlisted
    obtain ⟨priority, ⟨hstart, -⟩ | ⟨group, hgroup, hbest, hsmall, hbefore⟩⟩ :=
      snap.exists_leads user
    · exact absurd (congrArg Prod.fst hstart) hfound
    · exact ⟨group, ⟨hgroup, hbefore⟩, hsmall,
        fun hid => hfound ((congrArg Prod.fst hbest).trans hid)⟩
  · intro h visited hperm
    obtain ⟨priority, hleads⟩ := visited.exists_leads user
    have hleads := hleads.congr (lists_of_perm hperm user)
    rcases hleads with ⟨hstart, hlate⟩ | ⟨found, hfound, hbest, -, hbefore⟩
    · have hunlisted : ∀ group, ¬ snap.Lists user group := by
        intro listed hlisted
        obtain ⟨group, hfirst, hsmall, -⟩ := h listed hlisted
        have := hlate group hfirst.1
        omega
      refine ⟨iff_of_true (congrArg Prod.fst hstart) hunlisted, fun group hfirst => ?_⟩
      exact absurd hfirst.1 (hunlisted group)
    · have hid : groupForUserIn visited user = found.id := congrArg Prod.fst hbest
      have hsame : ∀ group, snap.First user group → found.id = group.id := by
        intro group hfirst
        have hleft := (groupBefore_iff found group).mp (hbefore group hfirst.1)
        have hright := (groupBefore_iff group found).mp (hfirst.2 found hfound)
        rcases hleft with hless | ⟨hpriority, hle⟩
        · rcases hright with hmore | ⟨hpriority, -⟩ <;> omega
        · rcases hright with hless | ⟨-, hge⟩
          · omega
          · exact List.le_antisymm hle hge
      obtain ⟨group, hfirst, -, hnonempty⟩ := h found hfound
      refine ⟨iff_of_false ?_ fun hunlisted => hunlisted found hfound, fun other hother => ?_⟩
      · rw [hid, hsame group hfirst]
        exact hnonempty
      · rw [hid, hsame other hother]

end PolicySnapshot

def lastGroup : PolicyGroup :=
  { id := utf8 "kids", name := utf8 "Kids", users := [utf8 "alice"], priority := maxInt }

def lastSnapshot : PolicySnapshot :=
  ⟨AList.insert (utf8 "kids") lastGroup ∅, ∅, documentVersion, zeroTime⟩

/-- The only policy that lists the user has the largest priority, and is not found. -/
theorem lastSnapshot_not_resolved : lastSnapshot.Lists (utf8 "alice") lastGroup ∧
      groupForUserIn lastSnapshot (utf8 "alice") = [] ∧
      ¬ lastSnapshot.ResolvesLogin (utf8 "alice") := by
  have hlisted : lastSnapshot.Lists (utf8 "alice") lastGroup :=
    ⟨⟨utf8 "kids", AList.lookup_insert _⟩, by decide⟩
  have hnone : groupForUserIn lastSnapshot (utf8 "alice") = [] := by decide
  refine ⟨hlisted, hnone, fun h => ?_⟩
  exact (h lastSnapshot (List.Perm.refl _)).1.mp hnone lastGroup hlisted

/-! ## The default policy -/

def PolicySnapshot.DefaultBare (snap : PolicySnapshot) : Prop :=
  ∀ id group, snap.groups.lookup id = some group → group.id = defaultGroupID → group.users = []

def PolicyText.DefaultBare (raw : PolicyText) : Prop :=
  ∀ doc, decodeDocument raw = .ok doc →
    (∀ group ∈ doc.groups, group.id = defaultGroupID → group.users = []) ∧
      ∀ user, groupForUserIn (snapshotFromDocument doc) user ≠ defaultGroupID

variable {snap : PolicySnapshot}

theorem PolicySnapshot.DefaultBare.login (h : snap.DefaultBare) (user : Bytes) :
    groupForUserIn snap user ≠ defaultGroupID := by
  intro hdefault
  obtain ⟨priority, ⟨hstart, -⟩ | ⟨group, ⟨⟨id, hlookup⟩, huser⟩, hbest, -⟩⟩ :=
    snap.exists_leads user
  · have hempty : groupForUserIn snap user = [] := congrArg Prod.fst hstart
    exact absurd (hdefault.symm.trans hempty) (by decide)
  · have hid : groupForUserIn snap user = group.id := congrArg Prod.fst hbest
    rw [h id group hlookup (hid.symm.trans hdefault)] at huser
    cases huser

variable {doc : PolicyDocument} {raw : PolicyText}

theorem defaultBare_of_groups (hdecode : decodeDocument raw = .ok doc)
    (h : ∀ group ∈ doc.groups, group.id = defaultGroupID → group.users = []) :
    raw.DefaultBare := by
  intro same hsame
  cases hdecode.symm.trans hsame
  refine ⟨h, PolicySnapshot.DefaultBare.login fun id group hlookup => ?_⟩
  exact h group (lookup_snapshot hlookup).1

theorem defaultBare_current (h : snap.DefaultBare) (migratedFrom : Bytes) (now : Time) :
    (PolicyText.current (documentFromSnapshot snap migratedFrom now)).DefaultBare := by
  refine defaultBare_of_groups rfl fun group hgroup hid => ?_
  have hmem : group ∈ (documentFromSnapshot snap migratedFrom now).groups ∨
      group = defaultGroup := by
    unfold withDefaultGroup at hgroup
    split at hgroup
    · exact .inl hgroup
    · simpa using hgroup
  rcases hmem with hstored | rfl
  · obtain ⟨key, hlookup⟩ := mem_groups_document.mp hstored
    exact h key group hlookup hid
  · rfl

section Calls

variable {platform : CheckPlatform} {snap snap' : PolicySnapshot}

theorem defaultBare_addGroup {group : PolicyGroup} (hsnap : snap.DefaultBare)
    (hgroup : group.id = defaultGroupID → group.users = [])
    (h : addGroup platform snap group = .ok snap') : snap'.DefaultBare := by
  rw [(addGroup_eq h).2]
  intro id other hlookup hid
  rcases Dict.lookup_of_insert hlookup with ⟨-, rfl⟩ | ⟨-, hother⟩
  · exact hgroup hid
  · exact hsnap id other hother hid

/-- The groups that `SaveGroups` writes do not list users for the default policy. -/
def PolicyCall.SparesDefault (draws : Nat → Bytes) : PolicyCall platform → Prop
  | .saveGroups groups _ => ∀ next group,
      saveGroupsMap { platform with newGroupID := draws } groups = .ok next →
        next.lookup defaultGroupID = some group → group.users = []
  | _ => True

theorem hasDefault_of_decode (h : decodeDocument raw = .ok doc) :
    defaultGroupID ∈ (snapshotFromDocument doc).groups := by
  unfold decodeDocument at h
  split at h <;> cases h <;> exact (snapshot_wellFormed _).hasDefault

theorem wellFormed_of_decode (h : decodeDocument raw = .ok doc) :
    (snapshotFromDocument doc).WellFormed :=
  ⟨fun _ _ hlookup => (lookup_snapshot hlookup).2, hasDefault_of_decode h⟩

theorem lookup_storedSnapshot (h : snap.WellFormed) (migratedFrom : Bytes) (now : Time)
    (id : Bytes) :
    (storedSnapshot (.current (documentFromSnapshot snap migratedFrom now))).groups.lookup id =
      snap.groups.lookup id := by
  rw [@stored_of_decode (documentFromSnapshot snap migratedFrom now)]
  · exact Option.ext fun group => lookup_groups_document h.keyed _ _
  · rw [decodeDocument, withDefaultGroup_document h]

variable {now : Time}

theorem mem_storedSnapshot_iff (h : snap.WellFormed) {migratedFrom : Bytes} {id : Bytes} :
    id ∈ (storedSnapshot (.current (documentFromSnapshot snap migratedFrom now))).groups ↔
      id ∈ snap.groups := by
  rw [← AList.lookup_isSome, lookup_storedSnapshot h, AList.lookup_isSome]

variable {draws : Nat → Bytes}

theorem PolicyCall.Makes.defaultBare {call : PolicyCall platform}
    (h : call.Makes now draws snap snap') (hcall : call.SparesDefault draws)
    (hdefault : defaultGroupID ∈ snap.groups) (hsnap : snap.DefaultBare) : snap'.DefaultBare := by
  cases h with
  | createGroup hgroup hnew hadd =>
    refine defaultBare_addGroup hsnap (fun hid => absurd hdefault ?_) hadd
    rwa [← hid]
  | updateGroup hgroup hbare hadd => exact defaultBare_addGroup hsnap hbare hadd
  | deleteGroup => exact fun id group hlookup => hsnap id group (Dict.lookup_of_erase hlookup)
  | @saveGroups groups order next _ hnext hsave =>
    rw [saveGroupsTransform_eq hsave]
    intro id group hlookup hid
    obtain ⟨other, hother, hentry⟩ := Dict.exists_of_lookup_assign hlookup
    cases hentry
    obtain ⟨key, hentry⟩ := order.mem_values_iff.mp hother
    rw [← keyed_saveGroupsMap hnext hentry, hid] at hentry
    exact hcall next group hnext hentry
  | saveAssignments => exact hsnap
  | setDeviceAssignment hset =>
    rcases setDeviceAssignment_ok hset with rfl | ⟨-, -, rfl⟩
    · exact hsnap
    · exact hsnap

theorem PolicyCall.defaultBare (call : PolicyCall platform) {raw next : PolicyText}
    (hcall : call.SparesDefault draws) (hraw : raw.DefaultBare)
    (h : call.apply now draws raw = .ok next) : next.DefaultBare := by
  rcases apply_ok h with ⟨output, migratedFrom, rfl⟩ | ⟨doc, snap, hdecode, hmakes, -, rfl⟩
  · cases h
    unfold Policy.saveMigration
    split
    · apply defaultBare_current
      exact fun id group hlookup _ => (plain_migrationSnapshot output hlookup).1
    · exact hraw
  · apply defaultBare_current
    refine hmakes.defaultBare hcall (hasDefault_of_decode hdecode) fun id group hlookup => ?_
    exact (hraw doc hdecode).1 group (lookup_snapshot hlookup).1

/-- From a new installation on, as long as no `SaveGroups` lists users for the default policy,
it lists nobody and no login belongs to it. -/
theorem default_lists_nobody (events : List (PolicyEvent platform))
    (hevents : ∀ event ∈ events, event.call.SparesDefault event.draws) :
    (runPolicy .empty events).DefaultBare := by
  apply List.foldlRecOn events PolicyEvent.step (motive := PolicyText.DefaultBare)
  · exact defaultBare_of_groups rfl (by simp [withDefaultGroup, defaultGroup])
  · intro raw hraw event hevent
    unfold PolicyEvent.step
    split
    · exact hraw
    · next next hnext =>
      split
      · exact event.call.defaultBare (hevents event hevent) hraw hnext
      · exact hraw

end Calls

def writes (call : PolicyCall compilingPlatform) : PolicyEvent compilingPlatform where
  call := call
  now := 0
  draws _ := kidsID
  commits := true

def savesGroups (groups : List PolicyGroup) : PolicyEvent compilingPlatform :=
  writes (.saveGroups groups .asListed)

def kidsUsers : PolicyGroup := { kidsGroup with users := [utf8 "alice", utf8 "bob"] }

def savedSnapshot : PolicySnapshot :=
  { snapshotFromDocument (documentFromSnapshot assignedSnapshot [] 0) with
    groups := Dict.assign [(defaultGroupID, defaultGroup), (kidsID, kidsUsers)] ∅ }

theorem saved_apply :
    (PolicyCall.saveGroups [kidsUsers, defaultGroup] .asListed :
        PolicyCall compilingPlatform).apply 0 (fun _ => kidsID)
        (.current (documentFromSnapshot assignedSnapshot [] 0)) =
      .ok (.current (documentFromSnapshot savedSnapshot [] 0)) := by
  simp only [PolicyCall.apply, bind, Except.bind]
  apply updatePolicy_document assigned_wellFormed
  · rfl
  · exact (Dict.mem_assign _ _ _).mpr (.inr (by simp))

def kidsEvents : List (PolicyEvent compilingPlatform) :=
  [writes (.createGroup kidsGroup), writes (.setDeviceAssignment laptopID kidsID),
    savesGroups [kidsUsers, defaultGroup]]

theorem default_lists_nobody_kidsEvents : (runPolicy .empty kidsEvents).DefaultBare ∧
    runPolicy .empty kidsEvents = .current (documentFromSnapshot savedSnapshot [] 0) ∧
    savedSnapshot.groups.lookup kidsID = some kidsUsers := by
  refine ⟨?_, ?_, by decide +kernel⟩
  · apply default_lists_nobody
    simp only [kidsEvents, savesGroups, writes, List.forall_mem_cons]
    refine ⟨trivial, trivial, fun next group hnext hlookup => ?_, nofun⟩
    cases hnext
    cases hlookup
    rfl
  · simp only [runPolicy, kidsEvents, savesGroups, writes, List.foldl_cons, List.foldl_nil,
      PolicyEvent.step, created_apply, assigned_apply, saved_apply, if_true]

def aliceDefault : PolicyGroup := { defaultGroup with users := [utf8 "alice"] }

/-- A default policy with a user is stored, and the login belongs to it. -/
theorem default_lists_alice :
    ∃ doc, decodeDocument (runPolicy .empty [savesGroups [aliceDefault]]) = .ok doc ∧
      doc.groups.map (fun group => (group.id, group.users)) = [(defaultGroupID, [utf8 "alice"])] ∧
      groupForUserIn (snapshotFromDocument doc) (utf8 "alice") = defaultGroupID :=
  ⟨_, rfl, by decide +kernel, by decide +kernel⟩

end GateSentry.Policy
