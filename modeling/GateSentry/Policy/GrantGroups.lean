import GateSentry.Policy.Logins

/-!
# The policies that grants name

`CreateException` and `CreatePause` look for the group of a group-scoped grant in the live
policies, which lag behind the stored document until a `Reload` publishes it.
-/

namespace GateSentry.Policy

open Foundation ByteText Calendar

abbrev Grant := Exception ⊕ Pause

def Grant.group : Grant → Option Bytes
  | .inl e => if e.scope = .group then some e.groupID else none
  | .inr p => if p.scope = .group then some p.groupID else none

/-- The check within the transaction of `CreateException` or `CreatePause`. -/
def Grant.admitted (live : PolicySnapshot) : Grant → Bool
  | .inl e => (addGrant exceptionKind e live []).isOk
  | .inr p => (addGrant pauseKind p live []).isOk

variable {live : PolicySnapshot}

theorem mem_of_addGrant {grant : Type} {kind : GrantKind grant} {new : grant}
    (h : (addGrant kind new live []).isOk = true) (hscope : kind.scope new = .group) :
    kind.groupID new ∈ live.groups := by
  by_contra hunknown
  rw [addGrant, if_pos ⟨hscope, hunknown⟩] at h
  cases h

variable {groupID : Bytes}

theorem Grant.mem_of_admitted {new : Grant} (h : new.admitted live = true)
    (hgroup : new.group = some groupID) : groupID ∈ live.groups := by
  cases new with
  | inl | inr =>
    obtain ⟨hscope, ⟨⟩⟩ := Option.ite_none_right_eq_some.mp hgroup
    exact mem_of_addGrant h hscope

inductive GroupEdit where
  | create (group : PolicyGroup)
  | update (groupID : Bytes) (group : PolicyGroup)
  | delete (groupID : Bytes)

def GroupEdit.deletes : GroupEdit → List Bytes
  | .delete groupID => [groupID]
  | _ => []

section Steps

variable (platform : CheckPlatform)

def GroupEdit.call : GroupEdit → PolicyCall platform
  | .create group => .createGroup group
  | .update groupID group => .updateGroup groupID group
  | .delete groupID => .deleteGroup groupID

/-- The document and the live policies, what each reload has read and each creation has checked,
and what was committed.  A mark counts the deletions up to the read behind a snapshot. -/
structure GrantPool where
  raw : PolicyText
  live : PolicySnapshot
  mark : Nat
  reads : Nat → Option (PolicySnapshot × Nat)
  checked : Nat → Option (Grant × Nat)
  deleted : List Bytes
  committed : List (Grant × PolicyText)

inductive GrantStep where
  | edit (edit : GroupEdit) (now : Time) (draws : Nat → Bytes)
  | read (reload : Nat)
  | publish (reload : Nat)
  | check (creation : Nat) (new : Grant)
  | commit (creation : Nat)

def GrantPool.step (s : GrantPool) : GrantStep → GrantPool
  | .edit edit now draws =>
    match (edit.call platform).apply now draws s.raw with
    | .error _ => s
    | .ok raw => { s with raw, deleted := s.deleted ++ edit.deletes }
  | .read reload =>
    match decodeDocument s.raw with
    | .error _ => s
    | .ok doc =>
      { s with
        reads := Function.update s.reads reload
          (some (snapshotFromDocument doc, s.deleted.length)) }
  | .publish reload =>
    match s.reads reload with
    | none => s
    | some (live, mark) => { s with live, mark }
  | .check creation new =>
    if new.admitted s.live then
      { s with checked := Function.update s.checked creation (some (new, s.mark)) }
    else s
  | .commit creation =>
    match s.checked creation with
    | none => s
    | some (new, _) => { s with committed := (new, s.raw) :: s.committed }

def GrantPool.start (raw : PolicyText) : GrantPool :=
  ⟨raw, storedSnapshot raw, 0, fun _ => none, fun _ => none, [], []⟩

/-- The group of a grant that is committed was not deleted since the read behind the policies
that the check saw. -/
def GrantStep.Timely (s : GrantPool) : GrantStep → Prop
  | .commit creation => ∀ new mark groupID, s.checked creation = some (new, mark) →
      new.group = some groupID → groupID ∉ s.deleted.drop mark
  | _ => True

def TimelyRun : GrantPool → List GrantStep → Prop
  | _, [] => True
  | s, step :: rest => step.Timely s ∧ TimelyRun (s.step platform step) rest

def GrantPool.Grounded (s : GrantPool) : Prop :=
  ∀ entry ∈ s.committed, ∀ groupID, entry.1.group = some groupID →
    groupID ∈ (storedSnapshot entry.2).groups

end Steps

section Runs

variable {platform : CheckPlatform}

/-- The groups are stored, or were deleted after the mark. -/
def GrantPool.Known (s : GrantPool) (mark : Nat) (named : Bytes → Prop) : Prop :=
  mark ≤ s.deleted.length ∧ ∀ groupID, named groupID →
      groupID ∈ (storedSnapshot s.raw).groups ∨ groupID ∈ s.deleted.drop mark

structure GrantPool.Inv (s : GrantPool) : Prop where
  live : s.Known s.mark (· ∈ s.live.groups)
  reads : ∀ i snap mark, s.reads i = some (snap, mark) → s.Known mark (· ∈ snap.groups)
  checked : ∀ i new mark, s.checked i = some (new, mark) → s.Known mark (new.group = some ·)
  grounded : s.Grounded

theorem of_update {α : Type} {f : Nat → Option α} {i j : Nat} {new x : α}
    (h : Function.update f i (some new) j = some x) : new = x ∨ f j = some x := by
  rcases eq_or_ne j i with rfl | hne
  · rw [Function.update_self, Option.some.injEq] at h
    exact .inl h
  · rw [Function.update_of_ne hne] at h
    exact .inr h

theorem mem_of_edit {edit : GroupEdit} {now : Time} {draws : Nat → Bytes} {raw next : PolicyText}
    (h : (edit.call platform).apply now draws raw = .ok next)
    (hmem : groupID ∈ (storedSnapshot raw).groups) :
    groupID ∈ (storedSnapshot next).groups ∨ groupID ∈ edit.deletes := by
  rcases PolicyCall.apply_ok h with ⟨output, migratedFrom, hcall⟩ |
    ⟨doc, snap, hdecode, hmakes, hdefault, rfl⟩
  · cases edit <;> cases hcall
  · rw [stored_of_decode hdecode] at hmem
    have hbefore := wellFormed_of_decode hdecode
    have hput {group : PolicyGroup} (hadd : addGroup platform (snapshotFromDocument doc) group =
        .ok snap) : groupID ∈ (storedSnapshot (.current
          (documentFromSnapshot snap doc.migratedFrom now))).groups := by
      rw [(addGroup_eq hadd).2, mem_storedSnapshot_iff (wellFormed_putGroup hbefore group)]
      exact (AList.mem_insert _).mpr (.inr hmem)
    cases edit with
    | create group =>
      cases hmakes with
      | createGroup hgroup hnew hadd => exact .inl (hput hadd)
    | update id group =>
      cases hmakes with
      | updateGroup hgroup hbare hadd => exact .inl (hput hadd)
    | delete id =>
      cases hmakes
      by_cases hid : groupID = id
      · exact .inr (List.mem_singleton.mpr hid)
      · refine .inl ((mem_storedSnapshot_iff ⟨?_, hdefault⟩).mpr ?_)
        · exact fun key group hlookup => hbefore.keyed key group (Dict.lookup_of_erase hlookup)
        · exact AList.mem_erase.mpr ⟨hid, hmem⟩

namespace GrantPool

variable {s : GrantPool}

theorem Known.mono {mark : Nat} {named : Bytes → Prop} (h : s.Known mark named) {t : GrantPool}
    (log : List Bytes) (hdeleted : t.deleted = s.deleted ++ log)
    (hstored : ∀ groupID ∈ (storedSnapshot s.raw).groups,
      groupID ∈ (storedSnapshot t.raw).groups ∨ groupID ∈ log) : t.Known mark named := by
  unfold Known
  rw [hdeleted, List.length_append, List.drop_append_of_le_length h.1]
  refine ⟨h.1.trans (Nat.le_add_right _ _), fun groupID hnamed => ?_⟩
  rw [List.mem_append]
  rcases h.2 groupID hnamed with hold | hdropped
  · rcases hstored groupID hold with hnew | hlog
    · exact .inl hnew
    · exact .inr (.inr hlog)
  · exact .inr (.inl hdropped)

theorem Inv.edit (h : s.Inv) {raw : PolicyText} (log : List Bytes)
    (hstored : ∀ groupID ∈ (storedSnapshot s.raw).groups,
      groupID ∈ (storedSnapshot raw).groups ∨ groupID ∈ log) :
    ({ s with raw, deleted := s.deleted ++ log } : GrantPool).Inv where
  live := h.live.mono log rfl hstored
  reads := fun i snap mark hread => (h.reads i snap mark hread).mono log rfl hstored
  checked := fun i new mark hcheck => (h.checked i new mark hcheck).mono log rfl hstored
  grounded := h.grounded

theorem known_stored (s : GrantPool) {snap : PolicySnapshot}
    (h : storedSnapshot s.raw = snap) : s.Known s.deleted.length (· ∈ snap.groups) :=
  ⟨le_rfl, fun _ hmem => .inl (h ▸ hmem)⟩

theorem Inv.step (h : s.Inv) {step : GrantStep} (htimely : step.Timely s) :
    (s.step platform step).Inv := by
  cases step with
  | edit edit now draws =>
    simp only [GrantPool.step]
    split
    · exact h
    · next raw happly => exact h.edit edit.deletes fun _ => mem_of_edit happly
  | read reload =>
    simp only [GrantPool.step]
    split
    · exact h
    · next doc hdecode =>
      refine ⟨h.live, fun i snap mark hread => ?_, h.checked, h.grounded⟩
      rcases of_update hread with hnew | hold
      · cases hnew
        exact s.known_stored (stored_of_decode hdecode)
      · exact h.reads i snap mark hold
  | publish reload =>
    simp only [GrantPool.step]
    split
    · exact h
    · next live mark hread => exact ⟨h.reads reload live mark hread, h.reads, h.checked, h.grounded⟩
  | check creation new =>
    simp only [GrantPool.step]
    split
    · next hadmitted =>
      refine ⟨h.live, h.reads, fun i other mark hcheck => ?_, h.grounded⟩
      rcases of_update hcheck with hnew | hold
      · cases hnew
        exact ⟨h.live.1, fun groupID hgroup =>
          h.live.2 groupID (Grant.mem_of_admitted hadmitted hgroup)⟩
      · exact h.checked i other mark hold
    · exact h
  | commit creation =>
    simp only [GrantPool.step]
    split
    · exact h
    · next new mark hcheck =>
      refine ⟨h.live, h.reads, h.checked, fun entry hentry groupID hgroup => ?_⟩
      rcases List.mem_cons.mp hentry with rfl | hold
      · rcases (h.checked creation new mark hcheck).2 groupID hgroup with hstored | hdropped
        · exact hstored
        · exact absurd hdropped (htimely new mark groupID hcheck hgroup)
      · exact h.grounded entry hold groupID hgroup

theorem Inv.run (h : s.Inv) {steps : List GrantStep} (htimely : TimelyRun platform s steps) :
    (steps.foldl (GrantPool.step platform) s).Inv := by
  induction steps generalizing s with
  | nil => exact h
  | cons step rest ih => exact ih (h.step htimely.1) htimely.2

end GrantPool

end Runs

/-- A run in which no group is deleted between the read behind a check and the commit of the
grant commits no grant for a group that is not stored. -/
theorem grants_grounded (platform : CheckPlatform) (raw : PolicyText) (steps : List GrantStep)
    (htimely : TimelyRun platform (.start raw) steps) :
    (steps.foldl (GrantPool.step platform) (.start raw)).Grounded := by
  have hstart : (GrantPool.start raw).Inv := by
    refine ⟨(GrantPool.start raw).known_stored rfl, ?_, ?_, ?_⟩
    · intro _ _ _ hread
      cases hread
    · intro _ _ _ hcheck
      cases hcheck
    · intro _ hentry
      cases hentry
  exact (hstart.run htimely).grounded

def kidsText : PolicyText :=
  .current { version := documentVersion, groups := [defaultGroup, kidsGroup], assignments := []
             migratedFrom := [], updatedAt := 0 }

def kidsPause : Grant :=
  .inr { id := utf8 "p", scope := .group, deviceID := [], groupID := kidsID, createdBy := utf8 "admin"
         createdAt := 0, untilTime := 9, reason := [], active := true }

theorem grants_grounded_kids :
    ([GrantStep.check 0 kidsPause, .commit 0].foldl (GrantPool.step compilingPlatform)
      (.start kidsText)).Grounded := by
  refine grants_grounded compilingPlatform kidsText _ ⟨trivial, ?_, trivial⟩
  have hdeleted : ((GrantPool.start kidsText).step compilingPlatform (.check 0 kidsPause)).deleted =
      [] := rfl
  simp [GrantStep.Timely, hdeleted]

/-- The group is deleted, its pause is checked against the live policies and committed, and only
then would the deletion be published. -/
theorem pause_of_deleted_group :
    ¬ ([GrantStep.edit (.delete kidsID) 1 (fun _ => []), .check 0 kidsPause, .commit 0].foldl
      (GrantPool.step compilingPlatform) (.start kidsText)).Grounded := by
  intro h
  have hstored := h (kidsPause, _) List.mem_cons_self kidsID rfl
  revert hstored
  decide +kernel

end GateSentry.Policy
