import GateSentry.Policy.Logins
import Mathlib.Data.Finset.Lattice.Lemmas

/-!
# Moving the block list into the policies

`migrateLegacyBlockList` adds the entries of the retired list to one policy after the other and
empties the list at the end.  It may stop at each step and is run again at the next start.
-/

namespace GateSentry.Policy

open Foundation ByteText Calendar

def legacyBlockListStock : Bytes := utf8 "snapads.com"

section Migration

variable (platform : CheckPlatform)

def legacyBlockListDomains (keywords : List Bytes) : List Bytes :=
  let domains := keywords.filterMap fun content =>
    (normalizeDomainPattern platform content).toOption.filter fun pattern => !pattern.isEmpty
  if domains = [legacyBlockListStock] then [] else domains

/-- The policies are updated in turn, until a write fails or the gateway stops.  Either may be
after the write took effect. -/
def addLegacyDomains (domains : List Bytes) :
    List PolicyGroup → (Nat → PolicyAnswer) → PolicyText → PolicyText × Bool
  | [], _, raw => (raw, true)
  | group :: rest, answers, raw =>
    let moved := { group with blockedDomains := group.blockedDomains ++ domains }
    let update : PolicyCall platform := .updateGroup group.id moved
    match update.apply (answers 0).now (answers 0).draws raw with
    | .error _ => (raw, false)
    | .ok next =>
      if !(answers 0).commits then (raw, false)
      else if (answers 0).fails then (next, false)
      else addLegacyDomains domains rest (fun n => answers (n + 1)) next

def moveLegacyDomains (domains : List Bytes) (groups : List PolicyGroup)
    (answers : Nat → PolicyAnswer) (raw : PolicyText) : PolicyText × Bool :=
  if domains.isEmpty then (raw, true) else addLegacyDomains platform domains groups answers raw

/-- `OrderedGroups` sorts by name; the policies come in any order here. -/
structure Attempt where
  order : RangeOrder PolicyGroup
  answers : Nat → PolicyAnswer
  finishes : Bool

/-- The stored policies and the entries of the list after a start, whose service has read the
policies.  The list is emptied if the `Reload` and the write of the file succeed. -/
def migrateLegacyBlockList (s : PolicyText × List Bytes) (a : Attempt) : PolicyText × List Bytes :=
  match decodeDocument s.1 with
  | .error _ => s
  | .ok doc =>
    if s.2.isEmpty then s
    else
      let moved := moveLegacyDomains platform (legacyBlockListDomains platform s.2)
        (a.order.values (snapshotFromDocument doc).groups) a.answers s.1
      (moved.1, if moved.2 && a.finishes then [] else s.2)

/-- The pattern is in the form that `NormalizeDomainPattern` brings it to. -/
def Settled (pattern : Bytes) : Prop :=
  normalizeDomainPattern platform pattern = .ok pattern ∧ pattern ≠ []

end Migration

def PolicySnapshot.blockedAt (snap : PolicySnapshot) (id : Bytes) : Option (Finset Bytes) :=
  (snap.groups.lookup id).map fun group => group.blockedDomains.toFinset

section Runs

variable {platform : CheckPlatform} {before : PolicySnapshot} {domains : List Bytes}

/-! ## One policy -/

theorem toFinset_normalizeDomainList {label : Bytes} {raw kept : List Bytes}
    (hraw : ∀ d ∈ raw, Settled platform d)
    (h : normalizeDomainList platform label raw = .ok kept) : kept.toFinset = raw.toFinset := by
  ext d
  rw [List.mem_toFinset, List.mem_toFinset, mem_of_collect h]
  constructor
  · rintro ⟨-, entry, hentry, hd⟩
    rw [(hraw entry hentry).1] at hd
    cases hd
    exact hentry
  · intro hd
    refine ⟨(hraw d hd).2, d, hd, ?_⟩
    rw [(hraw d hd).1]
    rfl

variable {raw next : PolicyText} {draws : Nat → Bytes} {group : PolicyGroup}

theorem blockedAt_updateGroup {id : Bytes} {now : Time}
    (hgroup : ∀ d ∈ group.blockedDomains, Settled platform d)
    (h : (PolicyCall.updateGroup id group : PolicyCall platform).apply now draws raw = .ok next)
    (key : Bytes) : (storedSnapshot next).blockedAt key =
      if key = id then some group.blockedDomains.toFinset
      else (storedSnapshot raw).blockedAt key := by
  obtain ⟨checked, hchecked, hupdate⟩ := ok_of_bind h
  obtain ⟨doc, snap, hdecode, hsnap, -, rfl⟩ := updatePolicy_ok hupdate
  obtain ⟨-, createdAt, hadd⟩ := updateTransform_ok hsnap
  obtain rfl := (addGroup_eq hadd).2
  obtain ⟨categories, blocked, allowed, users, rules, -, hblocked, -, -, -, rfl⟩ :=
    ok_normalizeGroup (checkedGroup_ok hchecked)
  rw [PolicySnapshot.blockedAt,
    lookup_storedSnapshot (wellFormed_putGroup (wellFormed_of_decode hdecode) _),
    stored_of_decode hdecode, putGroup]
  split
  · next hkey =>
    rw [hkey, AList.lookup_insert, ← toFinset_normalizeDomainList hgroup hblocked]
    rfl
  · next hkey => rw [AList.lookup_insert_ne hkey, PolicySnapshot.blockedAt]

/-! ## All policies -/

def Moved (before : PolicySnapshot) (domains : List Bytes) (snap : PolicySnapshot) (id : Bytes) :
    Prop :=
  snap.blockedAt id = (before.blockedAt id).map (· ∪ domains.toFinset)

/-- Every policy is as it was or has been given the domains. -/
def Moves (before : PolicySnapshot) (domains : List Bytes) (snap after : PolicySnapshot) : Prop :=
  ∀ id, after.blockedAt id = snap.blockedAt id ∨ Moved before domains after id

theorem Moved.mono {snap after : PolicySnapshot} {id : Bytes} (h : Moved before domains snap id)
    (hmoves : Moves before domains snap after) : Moved before domains after id := by
  rcases hmoves id with hsame | hmoved
  · rwa [Moved, hsame]
  · exact hmoved

theorem Moves.trans {snap mid after : PolicySnapshot} (h : Moves before domains snap mid)
    (hafter : Moves before domains mid after) : Moves before domains snap after := by
  intro id
  rcases h id with hsame | hmoved
  · rw [← hsame]
    exact hafter id
  · exact .inr (hmoved.mono hafter)

section Settled

variable (hbefore : ∀ id blocked, before.blockedAt id = some blocked →
    ∀ d ∈ blocked, Settled platform d)
  (hdomains : ∀ d ∈ domains, Settled platform d)
include hbefore hdomains

variable {live : PolicySnapshot}

section

variable (hlive : Moves before domains before live)

include hlive

theorem moves_update (hgroup : live.groups.lookup group.id = some group) {now : Time}
    (h : (PolicyCall.updateGroup group.id
      { group with blockedDomains := group.blockedDomains ++ domains } :
        PolicyCall platform).apply now draws raw = .ok next) :
    Moves before domains (storedSnapshot raw) (storedSnapshot next) ∧
      Moved before domains (storedSnapshot next) group.id := by
  have hblocked : live.blockedAt group.id = some group.blockedDomains.toFinset := by
    rw [PolicySnapshot.blockedAt, hgroup]
    rfl
  obtain ⟨blocked, hold, hnew⟩ : ∃ blocked, before.blockedAt group.id = some blocked ∧
      (group.blockedDomains.toFinset = blocked ∨
        group.blockedDomains.toFinset = blocked ∪ domains.toFinset) := by
    rcases hlive group.id with hsame | hmoved
    · exact ⟨_, hsame.symm.trans hblocked, .inl rfl⟩
    · rw [Moved, hblocked] at hmoved
      obtain ⟨blocked, hold, heq⟩ := Option.map_eq_some_iff.mp hmoved.symm
      exact ⟨blocked, hold, .inr heq.symm⟩
  have hsettled : ∀ d ∈ group.blockedDomains ++ domains, Settled platform d := by
    intro d hd
    have hall : d ∈ blocked ∨ d ∈ domains := by
      rw [List.mem_append, ← List.mem_toFinset] at hd
      rcases hnew with heq | heq <;> rw [heq] at hd <;> simpa using hd
    exact hall.elim (hbefore _ _ hold d) (hdomains d)
  have hnext := blockedAt_updateGroup hsettled h
  have hunion : (group.blockedDomains ++ domains).toFinset = blocked ∪ domains.toFinset := by
    rcases hnew with heq | heq <;> simp [heq]
  have hmoved : Moved before domains (storedSnapshot next) group.id := by
    rw [Moved, hnext, if_pos rfl, hold, hunion]
    rfl
  refine ⟨fun id => ?_, hmoved⟩
  by_cases hid : id = group.id
  · exact .inr (hid ▸ hmoved)
  · exact .inl (by rw [hnext, if_neg hid])

theorem moves_addLegacyDomains {groups : List PolicyGroup}
    (hgroups : ∀ g ∈ groups, live.groups.lookup g.id = some g) (answers : Nat → PolicyAnswer)
    (raw : PolicyText) :
    Moves before domains (storedSnapshot raw)
        (storedSnapshot (addLegacyDomains platform domains groups answers raw).1) ∧
      ((addLegacyDomains platform domains groups answers raw).2 = true → ∀ g ∈ groups,
        Moved before domains
          (storedSnapshot (addLegacyDomains platform domains groups answers raw).1) g.id) := by
  induction groups generalizing answers raw with
  | nil => exact ⟨fun _ => .inl rfl, fun _ g hg => by cases hg⟩
  | cons group rest ih =>
    rw [addLegacyDomains]
    split
    · exact ⟨fun _ => .inl rfl, fun hfalse => by cases hfalse⟩
    · next next hnext =>
      obtain ⟨hmoves, hmoved⟩ := moves_update hbefore hdomains hlive
        (hgroups group List.mem_cons_self) hnext
      split
      · exact ⟨fun _ => .inl rfl, fun hfalse => by cases hfalse⟩
      · split
        · exact ⟨hmoves, fun hfalse => by cases hfalse⟩
        · obtain ⟨hafter, hrest⟩ := ih (fun g hg => hgroups g (List.mem_cons_of_mem _ hg)) _ next
          refine ⟨hmoves.trans hafter, fun hdone g hg => ?_⟩
          rcases List.mem_cons.mp hg with rfl | hother
          · exact hmoved.mono hafter
          · exact hrest hdone g hother

end

theorem moves_moveLegacyDomains (hformed : live.WellFormed)
    (hlive : Moves before domains before live) (order : RangeOrder PolicyGroup)
    (answers : Nat → PolicyAnswer)
    {raw : PolicyText} (hraw : storedSnapshot raw = live) :
    Moves before domains before (storedSnapshot
        (moveLegacyDomains platform domains (order.values live.groups) answers raw).1) ∧
      ((moveLegacyDomains platform domains (order.values live.groups) answers raw).2 = true →
        ∀ id, Moved before domains (storedSnapshot
          (moveLegacyDomains platform domains (order.values live.groups) answers raw).1) id) := by
  unfold moveLegacyDomains
  split
  · next hnone =>
    rw [List.isEmpty_iff] at hnone
    refine ⟨hraw ▸ hlive, fun _ id => ?_⟩
    rcases hlive id with hsame | hmoved
    · simp [Moved, hraw, hsame, hnone]
    · rwa [hraw]
  · have hgroups {g : PolicyGroup} : g ∈ order.values live.groups ↔
        live.groups.lookup g.id = some g := by
      rw [order.mem_values_iff]
      exact ⟨fun ⟨id, h⟩ => by rwa [hformed.keyed id g h], fun h => ⟨g.id, h⟩⟩
    obtain ⟨hmoves, hdone⟩ := moves_addLegacyDomains hbefore hdomains hlive
      (fun g => hgroups.mp) answers raw
    rw [hraw] at hmoves
    refine ⟨hlive.trans hmoves, fun hfinished id => ?_⟩
    cases hlookup : live.groups.lookup id with
    | none =>
      -- A policy that is not live has not been there before either.
      have hnone : live.blockedAt id = none := by rw [PolicySnapshot.blockedAt, hlookup]; rfl
      rcases hmoves id with hsame | hmoved
      · rcases hlive id with hlive | hlive
        · rw [Moved, hsame, ← hlive, hnone]
          rfl
        · rw [Moved, hsame]
          exact hlive
      · exact hmoved
    | some group =>
      have hid := hformed.keyed id group hlookup
      rw [← hid]
      exact hdone hfinished group (hgroups.mpr (by rwa [hid]))

end Settled

/-! ## Runs of the migration -/

def MovedIfEmptied (platform : CheckPlatform) (before : PolicySnapshot) (keywords : List Bytes)
    (s : PolicyText × List Bytes) : Prop :=
  Moves before (legacyBlockListDomains platform keywords) before (storedSnapshot s.1) ∧
    (s.2 = keywords ∨ s.2 = [] ∧
      ∀ id, Moved before (legacyBlockListDomains platform keywords) (storedSnapshot s.1) id)

theorem movedIfEmptied_migrate {keywords : List Bytes} {s : PolicyText × List Bytes}
    (hbefore : ∀ id blocked, before.blockedAt id = some blocked →
      ∀ d ∈ blocked, Settled platform d)
    (hdomains : ∀ d ∈ legacyBlockListDomains platform keywords, Settled platform d)
    (h : MovedIfEmptied platform before keywords s) (a : Attempt) :
    MovedIfEmptied platform before keywords (migrateLegacyBlockList platform s a) := by
  unfold migrateLegacyBlockList
  split
  · exact h
  · next doc hdecode =>
    have hstored := stored_of_decode hdecode
    split
    · exact h
    · next hsome =>
      have hkeywords : s.2 = keywords := h.2.resolve_right fun hempty => by
        simp [hempty.1] at hsome
      obtain ⟨hmoves, hdone⟩ := moves_moveLegacyDomains hbefore hdomains
        (wellFormed_of_decode hdecode) (hstored ▸ h.1) a.order a.answers hstored
      rw [hkeywords]
      refine ⟨hmoves, ?_⟩
      dsimp only
      split
      · next hfinishes => exact .inr ⟨rfl, hdone (Bool.and_eq_true_iff.mp hfinishes).1⟩
      · exact .inl rfl

end Runs

/-- However often the migration is cut short and run again, once the list is empty every policy
blocks what it did and the domains of the list, and nothing else. -/
theorem blockList_moved_once (platform : CheckPlatform) (raw : PolicyText) (keywords : List Bytes)
    (attempts : List Attempt)
    (hstored : ∀ id blocked, (storedSnapshot raw).blockedAt id = some blocked →
      ∀ d ∈ blocked, Settled platform d)
    (hdomains : ∀ d ∈ legacyBlockListDomains platform keywords, Settled platform d)
    (hempty : (attempts.foldl (migrateLegacyBlockList platform) (raw, keywords)).2 = [])
    (id : Bytes) :
    (storedSnapshot
        (attempts.foldl (migrateLegacyBlockList platform) (raw, keywords)).1).blockedAt id =
      ((storedSnapshot raw).blockedAt id).map
        (· ∪ (legacyBlockListDomains platform keywords).toFinset) := by
  have hstart : MovedIfEmptied platform (storedSnapshot raw) keywords (raw, keywords) :=
    ⟨fun _ => .inl rfl, .inl rfl⟩
  have hafter := List.foldlRecOn (motive := MovedIfEmptied platform (storedSnapshot raw) keywords)
    attempts (migrateLegacyBlockList platform) hstart
    fun _ h a _ => movedIfEmptied_migrate hstored hdomains h a
  rcases hafter.2 with hsame | ⟨-, hmoved⟩
  · rcases hafter.1 id with hkept | hmoved
    · rw [hkept, ← hsame, hempty]
      simp [legacyBlockListDomains]
    · exact hmoved
  · exact hmoved id

def wholeAttempt (finishes : Bool) : Attempt := ⟨.asListed, fun _ => wellAnswered, finishes⟩

theorem blockList_moved_once_ads :
    (storedSnapshot ([wholeAttempt false, wholeAttempt true].foldl
      (migrateLegacyBlockList compilingPlatform) (.empty, [utf8 "Ads.example"])).1).blockedAt
        defaultGroupID = some {utf8 "ads.example"} := by
  rw [blockList_moved_once compilingPlatform .empty [utf8 "Ads.example"]]
  · decide +kernel
  · intro id blocked hblocked d hd
    obtain ⟨group, hlookup, rfl⟩ := Option.map_eq_some_iff.mp hblocked
    cases List.mem_singleton.mp (lookup_snapshot hlookup).1
    cases hd
  · have hdomains : legacyBlockListDomains compilingPlatform [utf8 "Ads.example"] =
        [utf8 "ads.example"] := by decide +kernel
    rw [hdomains, List.forall_mem_singleton]
    constructor <;> decide +kernel
  · decide +kernel

/-- Each run takes one more dot from the end of an entry. -/
theorem blockList_dots_differ : ∃ one two, one ≠ two ∧
      (storedSnapshot ([wholeAttempt true].foldl (migrateLegacyBlockList compilingPlatform)
        (.empty, [utf8 "ads..."])).1).blockedAt defaultGroupID = some one ∧
      (storedSnapshot ([wholeAttempt false, wholeAttempt true].foldl
        (migrateLegacyBlockList compilingPlatform) (.empty, [utf8 "ads..."])).1).blockedAt
          defaultGroupID = some two :=
  ⟨{utf8 "ads."}, {utf8 "ads", utf8 "ads."}, by decide +kernel, by decide +kernel,
    by decide +kernel⟩

end GateSentry.Policy
