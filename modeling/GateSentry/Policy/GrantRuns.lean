import Mathlib.Data.List.Induction
import GateSentry.Policy.Stored

/-!
# Grants over time

Exceptions and pauses are created, revoked and pruned.  Entries may share an id, so the proofs
tell them apart by the number of the request that created them.
-/

namespace GateSentry.Policy

open Foundation ByteText Calendar

/-! ## Runs -/

inductive GrantTarget where
  | exceptions
  | pauses
  deriving DecidableEq

inductive GrantOp where
  | create (input : GrantInput) (createdBy id : Bytes) (live : PolicySnapshot)
  | revoke (id revokedBy : Bytes)
  | prune

structure GrantEvent where
  target : GrantTarget
  op : GrantOp
  now : Time
  commits : Bool

structure GrantForm (grant : Type) where
  target : GrantTarget
  kind : GrantKind grant
  validate : GrantInput → Except GrantError (Scope × Int)
  make : GrantInput → (createdBy id : Bytes) → Time → Except GrantError grant
  activeAt : List grant → Time → List grant

def exceptionForm (platform : Platform) (parseDuration : Bytes → Option Int) :
    GrantForm Exception where
  target := .exceptions
  kind := exceptionKind
  validate := validateException platform parseDuration
  make := newException platform parseDuration
  activeAt := activeExceptions

def pauseForm (platform : Platform) (parseDuration : Bytes → Option Int) : GrantForm Pause where
  target := .pauses
  kind := pauseKind
  validate := validatePause platform parseDuration
  make := newPause platform parseDuration
  activeAt := pausesActiveAt

namespace GrantForm

variable {grant : Type} (form : GrantForm grant)

def transform (now : Time) (op : GrantOp) (grants : List grant) :
    Except GrantError (List grant) :=
  match op with
  | .create input createdBy id live => do
    let new ← form.make input createdBy id now
    addGrant form.kind new live grants
  | .revoke id revokedBy => revokeByID form.kind id revokedBy now grants
  | .prune => .ok (pruneGrants form.kind now grants)

def stepDocument (raw : Stored (GrantDocument grant)) (event : GrantEvent) :
    Stored (GrantDocument grant) :=
  if event.target ≠ form.target then raw
  else
    match updateGrants (form.transform event.now event.op) event.now raw with
    | .error _ => raw
    | .ok next => if event.commits then next else raw

def document (events : List GrantEvent) : Stored (GrantDocument grant) :=
  events.foldl form.stepDocument .empty

def InForce (g : grant) (t : Time) : Prop :=
  form.kind.active g = true ∧ t < form.kind.endsAt g

instance (g : grant) (t : Time) : Decidable (form.InForce g t) :=
  inferInstanceAs (Decidable (_ ∧ _))

/-! ## Numbered entries -/

end GrantForm

def GrantKind.numbered {grant : Type} (kind : GrantKind grant) : GrantKind (Nat × grant) where
  limits := kind.limits
  id entry := kind.id entry.2
  scope entry := kind.scope entry.2
  groupID entry := kind.groupID entry.2
  active entry := kind.active entry.2
  endsAt entry := kind.endsAt entry.2
  revokedAt entry := kind.revokedAt entry.2
  revoked entry revokedBy now := (entry.1, kind.revoked entry.2 revokedBy now)

namespace GrantForm

variable {grant : Type} (form : GrantForm grant)

def numbered (n : Nat) : GrantForm (Nat × grant) where
  target := form.target
  kind := form.kind.numbered
  validate := form.validate
  make input createdBy id now := (form.make input createdBy id now).map fun new => (n, new)
  activeAt entries t := entries.filter fun entry => form.InForce entry.2 t

def stepLedger (entries : List (Nat × grant)) (turn : GrantEvent × Nat) : List (Nat × grant) :=
  if turn.1.target ≠ form.target then entries
  else
    match (form.numbered turn.2).transform turn.1.now turn.1.op entries with
    | .error _ => entries
    | .ok next => if turn.1.commits then next else entries

def ledger (events : List GrantEvent) : List (Nat × grant) :=
  events.zipIdx.foldl form.stepLedger []

variable (events : List GrantEvent)

theorem ledger_append (event : GrantEvent) :
    form.ledger (events ++ [event]) = form.stepLedger (form.ledger events) (event,
      events.length) := by
  simp [ledger, List.zipIdx_append]

theorem revokeGrant_numbered (kind : GrantKind grant) (id revokedBy : Bytes) (now : Time)
    (entries : List (Nat × grant)) :
    (revokeGrant kind.numbered id revokedBy now entries).map (List.map Prod.snd) =
      revokeGrant kind id revokedBy now (entries.map Prod.snd) := by
  induction entries with
  | nil => rfl
  | cons entry rest ih =>
    have hid : kind.numbered.id entry = kind.id entry.2 := rfl
    have hactive : kind.numbered.active entry = kind.active entry.2 := rfl
    simp only [revokeGrant, List.map_cons, hid, hactive]
    by_cases hfound : kind.id entry.2 = id
    · rw [if_pos hfound]
      split
      · rfl
      · rfl
    · rw [if_neg hfound, if_neg hfound, ← ih]
      cases revokeGrant kind.numbered id revokedBy now rest with
      | error | ok => rfl

theorem pruneGrants_numbered (kind : GrantKind grant) (now : Time) (entries : List (Nat × grant)) :
    (pruneGrants kind.numbered now entries).map Prod.snd =
      pruneGrants kind now (entries.map Prod.snd) := by
  unfold pruneGrants
  rw [List.filter_map]
  rfl

theorem transform_numbered (n : Nat) (now : Time) (op : GrantOp) (entries : List (Nat × grant)) :
    ((form.numbered n).transform now op entries).map (List.map Prod.snd) =
      form.transform now op (entries.map Prod.snd) := by
  cases op with
  | create input createdBy id live =>
    simp only [transform, numbered]
    cases form.make input createdBy id now with
    | error err => rfl
    | ok new =>
      have hscope : form.kind.numbered.scope (n, new) = form.kind.scope new := rfl
      have hgroup : form.kind.numbered.groupID (n, new) = form.kind.groupID new := rfl
      have hnew : (Except.ok new : Except GrantError grant).map (fun new => (n, new)) =
        .ok (n, new) := rfl
      simp only [hnew, bind, Except.bind, addGrant, hscope, hgroup]
      by_cases hunknown : form.kind.scope new = .group ∧ form.kind.groupID new ∉ live.groups
      · rw [if_pos hunknown, if_pos hunknown]
        rfl
      · rw [if_neg hunknown, if_neg hunknown]
        simp [Except.map]
  | revoke id revokedBy =>
    simp only [transform, revokeByID]
    split
    · rfl
    · exact revokeGrant_numbered form.kind id revokedBy now entries
  | prune =>
    simp only [transform, numbered, Except.map]
    rw [pruneGrants_numbered]

theorem decodeGrants_document :
    decodeGrants (form.document events) = .ok ((form.ledger events).map Prod.snd) := by
  induction events using List.reverseRecOn with
  | nil => rfl
  | append_singleton events event ih =>
    have hstep : form.document (events ++ [event]) =
        form.stepDocument (form.document events) event := by
      simp [document]
    rw [hstep, ledger_append, stepDocument, stepLedger]
    split
    · exact ih
    · have hnumbered := form.transform_numbered events.length event.now event.op
        (form.ledger events)
      simp only [updateGrants, ih, ← hnumbered]
      cases (form.numbered events.length).transform event.now event.op (form.ledger events) with
      | error err => exact ih
      | ok next =>
        simp only [Except.map]
        split
        · rfl
        · exact ih

/-! ## What a request does -/

def Creates (event : GrantEvent) (g : grant) : Prop :=
  event.target = form.target ∧ event.commits = true ∧
    ∃ input createdBy id live, event.op = .create input createdBy id live ∧
      form.make input createdBy id event.now = .ok g

/-- Request `m` revokes the entry with the number: it is accepted and committed, and the entry is
the first with its id. -/
def Revokes (events : List GrantEvent) (m n : Nat) : Prop :=
  ∃ event id revokedBy next g, events[m]? = some event ∧ event.target = form.target ∧
    event.commits = true ∧ event.op = .revoke id revokedBy ∧
    (form.numbered m).transform event.now event.op (form.ledger (events.take m)) = .ok next ∧
    (form.ledger (events.take m)).find? (fun entry => form.kind.id entry.2 = id) = some (n, g)

inductive LedgerStep (entries : List (Nat × grant)) (turn : GrantEvent × Nat) :
    List (Nat × grant) → Prop where
  | same : LedgerStep entries turn entries
  | created {g : grant} (h : form.Creates turn.1 g) :
      LedgerStep entries turn (entries ++ [(turn.2, g)])
  | revoked {before after : List (Nat × grant)} {n : Nat} {g : grant} {id revokedBy : Bytes}
      (hop : turn.1.op = .revoke id revokedBy)
      (hfind : entries.find? (fun entry => form.kind.id entry.2 = id) = some (n, g))
      (hentries : entries = before ++ (n, g) :: after) :
      LedgerStep entries turn (before ++ (n, form.kind.revoked g revokedBy turn.1.now) :: after)
  | pruned (keep : Nat × grant → Bool) : LedgerStep entries turn (entries.filter keep)

variable {turn : GrantEvent × Nat} {entries next : List (Nat × grant)}

theorem ledgerStep_of_transform (htarget : turn.1.target = form.target)
    (hcommits : turn.1.commits = true)
    (h : (form.numbered turn.2).transform turn.1.now turn.1.op entries = .ok next) :
    form.LedgerStep entries turn next := by
  cases hop : turn.1.op with
  | create input createdBy id live =>
    rw [hop] at h
    obtain ⟨entry, hentry, hadd⟩ := ok_of_bind h
    cases hmade : form.make input createdBy id turn.1.now with
    | error err => simp [numbered, hmade, Except.map] at hentry
    | ok g =>
      simp only [numbered, hmade, Except.map, Except.ok.injEq] at hentry
      subst hentry
      unfold addGrant at hadd
      split at hadd
      · cases hadd
      · cases hadd
        exact .created ⟨htarget, hcommits, input, createdBy, id, live, hop, hmade⟩
  | revoke id revokedBy =>
    rw [hop] at h
    simp only [transform, revokeByID] at h
    split at h
    · cases h
    · obtain ⟨before, ⟨n, g⟩, after, hentries, hfind, rfl⟩ := revokeGrant_eq h
      exact .revoked hop hfind hentries
  | prune =>
    rw [hop] at h
    cases h
    exact .pruned _

theorem ledgerStep (entries : List (Nat × grant)) (turn : GrantEvent × Nat) :
    form.LedgerStep entries turn (form.stepLedger entries turn) := by
  unfold stepLedger
  split
  · exact .same
  · next htarget =>
    split
    · exact .same
    · next next hnext =>
      split
      · next hcommits =>
        have haccepted := form.ledgerStep_of_transform (not_not.mp htarget) hcommits hnext
        exact haccepted
      · exact .same

/-! ## Invariants -/

variable {form}

structure Lawful (form : GrantForm grant) : Prop where
  made : ∀ {input createdBy id now g}, form.make input createdBy id now = .ok g →
    form.kind.active g = true ∧ ∃ scope d, form.validate input = .ok (scope, d) ∧
      form.kind.limits.min ≤ d ∧ d ≤ form.kind.limits.max ∧ form.kind.endsAt g = now + d
  revoked_active : ∀ g revokedBy now, form.kind.active (form.kind.revoked g revokedBy now) = false
  revoked_endsAt : ∀ g revokedBy now,
    form.kind.endsAt (form.kind.revoked g revokedBy now) = form.kind.endsAt g
  activeAt : ∀ grants t, form.activeAt grants t = grants.filter fun g => form.InForce g t

def Continues (form : GrantForm grant) (g g' : grant) : Prop :=
  g' = g ∨ (form.kind.active g' = false ∧ form.kind.endsAt g' = form.kind.endsAt g)

variable {n : Nat} {g' : grant}

theorem LedgerStep.mem (hform : form.Lawful) (h : form.LedgerStep entries turn next)
    (hmem : (n, g') ∈ next) :
    (∃ g, (n, g) ∈ entries ∧ form.Continues g g') ∨ n = turn.2 ∧ form.Creates turn.1 g' := by
  cases h with
  | same => exact .inl ⟨g', hmem, .inl rfl⟩
  | created hcreates =>
    rcases List.mem_append.mp hmem with hbefore | hnew
    · exact .inl ⟨g', hbefore, .inl rfl⟩
    · cases List.mem_singleton.mp hnew
      exact .inr ⟨rfl, hcreates⟩
  | @revoked before after n' g id revokedBy hop hfind hentries =>
    left
    subst hentries
    rw [List.mem_append, List.mem_cons] at hmem
    rcases hmem with hbefore | hhere | hafter
    · exact ⟨g', by simp [hbefore], .inl rfl⟩
    · cases hhere
      exact ⟨g, by simp, .inr ⟨hform.revoked_active _ _ _, hform.revoked_endsAt _ _ _⟩⟩
    · exact ⟨g', by simp [hafter], .inl rfl⟩
  | pruned keep => exact .inl ⟨g', (List.mem_filter.mp hmem).1, .inl rfl⟩

theorem LedgerStep.numbers (h : form.LedgerStep entries turn next)
    (hnodup : (entries.map Prod.fst).Nodup) (hbound : ∀ n ∈ entries.map Prod.fst, n < turn.2) :
    (next.map Prod.fst).Nodup ∧ ∀ n ∈ next.map Prod.fst, n < turn.2 + 1 := by
  cases h with
  | same => exact ⟨hnodup, fun n hn => by have := hbound n hn; omega⟩
  | created hcreates =>
    rw [List.map_append, List.map_singleton]
    constructor
    · apply List.Nodup.append hnodup (List.nodup_singleton _)
      intro n hn hnew
      rw [List.mem_singleton] at hnew
      have := hbound n hn
      omega
    · intro n hn
      rcases List.mem_append.mp hn with hbefore | hnew
      · have := hbound n hbefore
        omega
      · rw [List.mem_singleton] at hnew
        omega
  | @revoked before after n' g id revokedBy hop hfind hentries =>
    subst hentries
    have hsame : (before ++ (n', form.kind.revoked g revokedBy turn.1.now) :: after).map Prod.fst =
        (before ++ (n', g) :: after).map Prod.fst := by
      simp
    rw [hsame]
    exact ⟨hnodup, fun n hn => by have := hbound n hn; omega⟩
  | pruned keep =>
    have hsublist : ((entries.filter keep).map Prod.fst).Sublist (entries.map Prod.fst) :=
      List.filter_sublist.map _
    refine ⟨hnodup.sublist hsublist, fun n hn => ?_⟩
    have := hbound n (hsublist.subset hn)
    omega

theorem numbers_ledger : ((form.ledger events).map Prod.fst).Nodup ∧
      ∀ n ∈ (form.ledger events).map Prod.fst, n < events.length := by
  induction events using List.reverseRecOn with
  | nil => simp [ledger]
  | append_singleton events event ih =>
    rw [ledger_append, List.length_append]
    exact (form.ledgerStep (form.ledger events) (event, events.length)).numbers ih.1 ih.2

variable {events : List GrantEvent} {g : grant}

theorem eq_of_mem_ledger
    (h : (n, g) ∈ form.ledger events) (h' : (n, g') ∈ form.ledger events) : g = g' := by
  have hinj := List.inj_on_of_nodup_map (form.numbers_ledger events).1 h h' rfl
  exact congrArg Prod.snd hinj

theorem Continues.trans {a b c : grant} (hab : form.Continues a b) (hbc : form.Continues b c) :
    form.Continues a c := by
  rcases hbc with rfl | ⟨hinactive, hends⟩
  · exact hab
  · rcases hab with rfl | ⟨-, hends'⟩
    · exact .inr ⟨hinactive, hends⟩
    · exact .inr ⟨hinactive, hends.trans hends'⟩

theorem Continues.inForce (h : form.Continues g g') {t t' : Time} (ht : t ≤ t')
    (hforce : form.InForce g' t') : form.InForce g t := by
  rcases h with rfl | ⟨hinactive, -⟩
  · exact ⟨hforce.1, Int.lt_of_le_of_lt ht hforce.2⟩
  · rw [hforce.1] at hinactive
    cases hinactive

theorem exists_creates (hform : form.Lawful) (hmem : (n, g) ∈ form.ledger events) :
    ∃ event made, events[n]? = some event ∧ form.Creates event made ∧ form.Continues made g := by
  induction events using List.reverseRecOn generalizing g with
  | nil => cases hmem
  | append_singleton events event ih =>
    rw [ledger_append] at hmem
    rcases (form.ledgerStep _ _).mem hform hmem with
      ⟨before, hbefore, hcontinues⟩ | ⟨rfl, hcreates⟩
    · obtain ⟨creator, made, hcreator, hcreates, hmade⟩ := ih hbefore
      refine ⟨creator, made, ?_, hcreates, hmade.trans hcontinues⟩
      rw [List.getElem?_append_left (List.getElem?_eq_some_iff.mp hcreator).1]
      exact hcreator
    · exact ⟨event, g, by simp, hcreates, .inl rfl⟩

theorem exists_before (hform : form.Lawful) (events later : List GrantEvent)
    (hn : n < events.length) (hmem : (n, g') ∈ form.ledger (events ++ later)) :
    ∃ g, (n, g) ∈ form.ledger events ∧ form.Continues g g' := by
  induction later using List.reverseRecOn generalizing g' with
  | nil =>
    rw [List.append_nil] at hmem
    exact ⟨g', hmem, .inl rfl⟩
  | append_singleton later event ih =>
    rw [← List.append_assoc, ledger_append] at hmem
    rcases (form.ledgerStep _ _).mem hform hmem with ⟨middle, hmiddle, hcontinues⟩ | ⟨rfl, -⟩
    · obtain ⟨g, hg, hmade⟩ := ih hmiddle
      exact ⟨g, hg, hmade.trans hcontinues⟩
    · rw [List.length_append] at hn
      omega

theorem stepLedger_of_transform (htarget : turn.1.target = form.target)
    (hcommits : turn.1.commits = true)
    (h : (form.numbered turn.2).transform turn.1.now turn.1.op entries = .ok next) :
    form.stepLedger entries turn = next := by
  unfold stepLedger
  rw [if_neg (not_not.mpr htarget)]
  simp only [h, hcommits, if_true]

theorem inactive_of_revokes (hform : form.Lawful) {m : Nat} (hrevokes : form.Revokes events m n)
    (hmem : (n, g) ∈ form.ledger events) : form.kind.active g = false := by
  obtain ⟨event, id, revokedBy, next, found, hevent, htarget, hcommits, hop, hnext, hfind⟩ :=
    hrevokes
  obtain ⟨hm, hget⟩ := List.getElem?_eq_some_iff.mp hevent
  have htake : events.take (m + 1) = events.take m ++ [event] := by
    rw [← hget]
    exact List.take_succ_eq_append_getElem hm
  have hlength : (events.take m).length = m := by
    rw [List.length_take]
    omega
  have hledger : form.ledger (events.take (m + 1)) = next := by
    rw [htake, ledger_append, hlength]
    exact stepLedger_of_transform htarget hcommits hnext
  have hfound := List.mem_of_find?_eq_some hfind
  have hn : n < m := by
    have := (form.numbers_ledger (events.take m)).2 n (List.mem_map_of_mem (f := Prod.fst) hfound)
    omega
  have hrevoked : ∀ g', (n, g') ∈ next → form.kind.active g' = false := by
    intro g' hg'
    rw [hop, transform, revokeByID] at hnext
    split at hnext
    · cases hnext
    · obtain ⟨before, entry, after, -, hentry, rfl⟩ := revokeGrant_eq hnext
      have hsame : entry = (n, found) := Option.some.inj (hentry.symm.trans hfind)
      subst hsame
      have hthere : (n, form.kind.revoked found revokedBy event.now) ∈
          form.ledger (events.take (m + 1)) := by
        rw [hledger]
        exact List.mem_append_right _ List.mem_cons_self
      rw [← hledger] at hg'
      rw [eq_of_mem_ledger hg' hthere]
      exact hform.revoked_active _ _ _
  rw [← List.take_append_drop (m + 1) events] at hmem
  have hlate : n < (events.take (m + 1)).length := by
    simp
    omega
  obtain ⟨g', hg', hcontinues⟩ := exists_before hform _ _ hlate hmem
  rw [hledger] at hg'
  rcases hcontinues with rfl | ⟨hinactive, -⟩
  · exact hrevoked g hg'
  · exact hinactive

/-! ## Bounds -/

/-- The grants are bounded: the document is the ledger without its numbers, what is in force was
created not longer ago than it accepts and never revoked, and what is not in force never is
again. -/
structure Bounded (form : GrantForm grant) (events : List GrantEvent) (t : Time) : Prop where
  document : ∃ grants, decodeGrants (form.document events) = .ok grants ∧
    grants = (form.ledger events).map Prod.snd ∧
    form.activeAt grants t =
      ((form.ledger events).filter fun entry => form.InForce entry.2 t).map Prod.snd
  inForce : ∀ n g, (n, g) ∈ form.ledger events → form.InForce g t →
    ∃ event input createdBy id live scope d, events[n]? = some event ∧
      event.target = form.target ∧ event.commits = true ∧
      event.op = .create input createdBy id live ∧
      form.make input createdBy id event.now = .ok g ∧ form.validate input = .ok (scope, d) ∧
      form.kind.limits.min ≤ d ∧ d ≤ form.kind.limits.max ∧
      event.now ≤ t ∧ t < event.now + d ∧ ∀ m, ¬ form.Revokes events m n
  once : ∀ later n g g' t', (n, g) ∈ form.ledger events →
    (n, g') ∈ form.ledger (events ++ later) → t ≤ t' → form.InForce g' t' → form.InForce g t

theorem Lawful.bounded (hform : form.Lawful) {t : Time}
    (hclock : ∀ event ∈ events, event.now ≤ t) : form.Bounded events t where
  document := by
    refine ⟨_, form.decodeGrants_document events, rfl, ?_⟩
    rw [hform.activeAt, List.filter_map]
    rfl
  inForce := by
    intro n g hmem hforce
    obtain ⟨event, made, hevent, hcreates, hcontinues⟩ := exists_creates hform hmem
    obtain ⟨htarget, hcommits, input, createdBy, id, live, hop, hmade⟩ := hcreates
    have hsame : g = made := by
      rcases hcontinues with hsame | ⟨hinactive, -⟩
      · exact hsame
      · rw [hforce.1] at hinactive
        cases hinactive
    subst hsame
    obtain ⟨-, scope, d, hvalidate, hmin, hmax, hends⟩ := hform.made hmade
    have hends' := hforce.2
    rw [hends] at hends'
    refine ⟨event, input, createdBy, id, live, scope, d, hevent, htarget, hcommits, hop, hmade,
      hvalidate, hmin, hmax, hclock event (List.mem_of_getElem? hevent), hends', ?_⟩
    intro m hrevokes
    have hinactive := inactive_of_revokes hform hrevokes hmem
    rw [hforce.1] at hinactive
    cases hinactive
  once := by
    intro later n g g' t' hmem hmem' ht hforce
    have hn := (form.numbers_ledger events).2 n (List.mem_map_of_mem (f := Prod.fst) hmem)
    obtain ⟨before, hbefore, hcontinues⟩ := exists_before hform events later hn hmem'
    rw [eq_of_mem_ledger hmem hbefore]
    exact hcontinues.inForce ht hforce

end GrantForm

/-! ## Exceptions and pauses -/

section Forms

variable (platform : Platform) (parseDuration : Bytes → Option Int) {input : GrantInput} {d : Int}

theorem bounds_of_validateDuration {limits : GrantLimits}
    (h : limits.validateDuration platform parseDuration input = .ok d) :
    limits.min ≤ d ∧ d ≤ limits.max := by
  unfold GrantLimits.validateDuration at h
  split at h
  · cases h
  · split at h
    · cases h
    · split at h
      · cases h
      · split at h
        · cases h
        · cases h
          omega

theorem bounds_of_validateException {scope : Scope}
    (h : validateException platform parseDuration input = .ok (scope, d)) :
    exceptionLimits.min ≤ d ∧ d ≤ exceptionLimits.max := by
  unfold validateException at h
  split at h
  · cases h
  · obtain ⟨found, -, h⟩ := ok_of_bind h
    obtain ⟨accepted, haccepted, h⟩ := ok_of_bind h
    cases h
    exact bounds_of_validateDuration platform parseDuration haccepted

theorem bounds_of_validatePause {scope : Scope}
    (h : validatePause platform parseDuration input = .ok (scope, d)) :
    pauseLimits.min ≤ d ∧ d ≤ pauseLimits.max := by
  obtain ⟨found, -, h⟩ := ok_of_bind h
  obtain ⟨accepted, haccepted, h⟩ := ok_of_bind h
  cases h
  exact bounds_of_validateDuration platform parseDuration haccepted

theorem lawful_exceptionForm : (exceptionForm platform parseDuration).Lawful where
  made := by
    intro input createdBy id now g h
    obtain ⟨⟨scope, d⟩, hvalidate, h⟩ := ok_of_bind h
    have hbounds := bounds_of_validateException platform parseDuration hvalidate
    dsimp only at h
    split at h
    · cases h
    · cases h
      exact ⟨rfl, scope, d, hvalidate, hbounds.1, hbounds.2, rfl⟩
  revoked_active _ _ _ := rfl
  revoked_endsAt _ _ _ := rfl
  activeAt grants t := by
    apply List.filter_congr
    intro g _
    rw [Bool.eq_iff_iff, decide_eq_true_iff]
    simp [exceptionForm, GrantForm.InForce, exceptionKind]

theorem lawful_pauseForm : (pauseForm platform parseDuration).Lawful where
  made := by
    intro input createdBy id now g h
    obtain ⟨⟨scope, d⟩, hvalidate, h⟩ := ok_of_bind h
    have hbounds := bounds_of_validatePause platform parseDuration hvalidate
    dsimp only at h
    split at h
    · cases h
    · cases h
      exact ⟨rfl, scope, d, hvalidate, hbounds.1, hbounds.2, rfl⟩
  revoked_active _ _ _ := rfl
  revoked_endsAt _ _ _ := rfl
  activeAt grants t := by
    apply List.filter_congr
    intro g _
    rw [Bool.eq_iff_iff, decide_eq_true_iff]
    simp [pauseForm, GrantForm.InForce, pauseKind]

/-- After any requests on exceptions and pauses, at an instant that is not before any of them,
the grants in force are bounded. -/
theorem grants_bounded {events : List GrantEvent} {t : Time}
    (hclock : ∀ event ∈ events, event.now ≤ t) :
    (exceptionForm platform parseDuration).Bounded events t ∧
      (pauseForm platform parseDuration).Bounded events t :=
  ⟨(lawful_exceptionForm platform parseDuration).bounded hclock,
    (lawful_pauseForm platform parseDuration).bounded hclock⟩

end Forms

def hourly : Bytes → Option Int := fun _ => some hour

def hourEvents : List GrantEvent :=
  [⟨.exceptions, .create { domain := utf8 "site.example", scope := utf8 "installation"
                           duration := utf8 "1h" } (utf8 "admin") (utf8 "e1")
      ⟨∅, ∅, documentVersion, zeroTime⟩, 0, true⟩]

theorem grants_bounded_hourEvents :
    ((exceptionForm plainPlatform hourly).Bounded hourEvents (30 * minute) ∧
      (pauseForm plainPlatform hourly).Bounded hourEvents (30 * minute)) ∧
    ((exceptionForm plainPlatform hourly).ledger hourEvents).any (fun entry =>
      (exceptionForm plainPlatform hourly).InForce entry.2 (30 * minute)) = true := by
  refine ⟨grants_bounded plainPlatform hourly ?_, by decide +kernel⟩
  intro event hevent
  cases List.mem_singleton.mp hevent
  decide

/-! ## Pruning and decisions -/

def Service.pruneExpiredExceptions (s : Service) (now : Time) : Service :=
  { s with exceptions := pruneGrants exceptionKind now s.exceptions }

def Service.pruneExpiredPauses (s : Service) (now : Time) : Service :=
  { s with pauses := pruneGrants pauseKind now s.pauses }

theorem filter_pruneGrants {grant : Type} (kind : GrantKind grant) (hmax : 0 ≤ kind.limits.max)
    {n t : Time} (h : n ≤ t) (grants : List grant) :
    (pruneGrants kind n grants).filter (fun g => kind.active g && t < kind.endsAt g) =
      grants.filter fun g => kind.active g && t < kind.endsAt g := by
  rw [pruneGrants, List.filter_filter]
  apply List.filter_congr
  intro g _
  cases hlive : kind.active g && decide (t < kind.endsAt g) with
  | false => rfl
  | true =>
    rw [Bool.and_eq_true, decide_eq_true_eq] at hlive
    have hkept : n - kind.limits.max < kind.endsAt g :=
      Int.lt_of_le_of_lt (Int.le_trans (Int.sub_le_self n hmax) h) hlive.2
    simp [keepsGrant, hkept]

/-- An exception or a pause that a prune removes is not in force then or later. -/
theorem prune_keeps_decisions (platform : Platform) (s : Service) {n t : Time} (h : n ≤ t)
    (identity : Identity) (domain : Bytes) (layer : DecisionLayer) :
    evaluate platform identity domain layer ((s.pruneExpiredExceptions n).liveContext t) =
        evaluate platform identity domain layer (s.liveContext t) ∧
      evaluate platform identity domain layer ((s.pruneExpiredPauses n).liveContext t) =
        evaluate platform identity domain layer (s.liveContext t) := by
  have hexceptions : (s.pruneExpiredExceptions n).liveContext t = s.liveContext t := by
    unfold Service.liveContext
    congr 1
    exact filter_pruneGrants exceptionKind (by decide) h s.exceptions
  have hpauses : (s.pruneExpiredPauses n).liveContext t = s.liveContext t := by
    unfold Service.liveContext
    congr 1
    exact filter_pruneGrants pauseKind (by decide) h s.pauses
  rw [hexceptions, hpauses]
  exact ⟨rfl, rfl⟩

def gamesException (id : Bytes) (expiresAt : Time) : Exception where
  id := id
  domain := utf8 "games.example"
  scope := .installation
  createdAt := expiresAt - hour
  expiresAt := expiresAt
  active := true

def gamesPause (id : Bytes) (untilTime : Time) : Pause where
  id := id
  scope := .installation
  createdAt := untilTime - hour
  untilTime := untilTime
  active := true

/-- Grants that expired 40 days ago, and grants in force. -/
def grantedService : Service where
  snapshot := ⟨AList.insert defaultGroupID
    { defaultGroup with blockedDomains := [utf8 "games.example", utf8 "video.example"] } ∅, ∅,
    documentVersion, zeroTime⟩
  exceptions := [gamesException (utf8 "old") (-40 * 24 * hour), gamesException (utf8 "new") hour]
  pauses := [gamesPause (utf8 "old") (-40 * 24 * hour), gamesPause (utf8 "new") hour]
  categories := none
  enabledCategories := []

theorem prune_keeps_decisions_grantedService :
    let s := grantedService
    let decision (domain : Bytes) (s : Service) :=
      evaluate plainPlatform {} domain .dns (s.liveContext minute)
    let fewerExceptions := s.pruneExpiredExceptions 0
    let fewerPauses := s.pruneExpiredPauses 0
    (fewerExceptions.exceptions.map Exception.id = [utf8 "new"] ∧
      (decision (utf8 "games.example") s).1.reason = utf8 "exception (installation)" ∧
      decision (utf8 "games.example") fewerExceptions = decision (utf8 "games.example") s) ∧
    fewerPauses.pauses.map Pause.id = [utf8 "new"] ∧
      (decision (utf8 "video.example") s).1.reason = utf8 "paused: installation" ∧
      decision (utf8 "video.example") fewerPauses = decision (utf8 "video.example") s :=
  ⟨⟨by decide +kernel, by decide +kernel,
      (prune_keeps_decisions plainPlatform grantedService (by decide) {} _ .dns).1⟩,
    by decide +kernel, by decide +kernel,
    (prune_keeps_decisions plainPlatform grantedService (by decide) {} _ .dns).2⟩

end GateSentry.Policy
