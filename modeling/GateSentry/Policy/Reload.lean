import GateSentry.Policy.Stored

/-!
# Reloading the service

`Reload` reads the documents one after the other and publishes exceptions and pauses as
soon as each is read.
-/

namespace GateSentry.Policy

open Foundation ByteText Calendar

structure ReloadReads where
  policy : Option PolicyText
  exceptions : Option (Stored (GrantDocument Exception))
  pauses : Option (Stored (GrantDocument Pause))
  categories : Option (Stored (List Bytes))

namespace Service

def loadExceptions (s : Service) (raw : Option (Stored (GrantDocument Exception))) :
    Except ReadError Service :=
  (loadGrants raw).map fun exceptions => { s with exceptions }

def loadPauses (s : Service) (raw : Option (Stored (GrantDocument Pause))) :
    Except ReadError Service :=
  (loadGrants raw).map fun pauses => { s with pauses }

def reload (s : Service) (reads : ReloadReads) : Option ReadError × Service :=
  match loadDocument reads.policy with
  | .error err => (some err, s)
  | .ok doc =>
    match s.loadExceptions reads.exceptions with
    | .error err => (some err, s)
    | .ok s =>
      match s.loadPauses reads.pauses with
      | .error err => (some err, s)
      | .ok s =>
        (none, { s with
          snapshot := snapshotFromDocument doc
          enabledCategories := loadEnabledCategories reads.categories })

/-! ## What a failed read does -/

structure KeepsUnread (s : Service) (reads : ReloadReads) (after : Service) : Prop where
  snapshot : (loadDocument reads.policy).toOption = none → after.snapshot = s.snapshot
  exceptions : (loadGrants reads.exceptions).toOption = none → after.exceptions = s.exceptions
  pauses : (loadGrants reads.pauses).toOption = none → after.pauses = s.pauses
  categories : readCategories reads.categories = none →
    after.enabledCategories = s.enabledCategories

def AllOrNothing (s : Service) (reads : ReloadReads) : Prop :=
  ((s.reload reads).1 ≠ none → (s.reload reads).2 = s) ∧
    ((s.reload reads).1 = none → KeepsUnread s reads (s.reload reads).2)

def StopsAtPauses (reads : ReloadReads) (exceptions : List Exception) : Prop :=
  (loadDocument reads.policy).toOption ≠ none ∧ loadGrants reads.exceptions = .ok exceptions ∧
    (loadGrants reads.pauses).toOption = none

def Completes (reads : ReloadReads) : Prop :=
  (loadDocument reads.policy).toOption ≠ none ∧ (loadGrants reads.exceptions).toOption ≠ none ∧
    (loadGrants reads.pauses).toOption ≠ none

theorem reload_cases (s : Service) (reads : ReloadReads) :
    (¬Completes reads ∧ (∀ exceptions, ¬StopsAtPauses reads exceptions) ∧
        ∃ err, s.reload reads = (some err, s)) ∨
      (¬Completes reads ∧ ∃ exceptions, StopsAtPauses reads exceptions ∧
        ∃ err, s.reload reads = (some err, { s with exceptions })) ∨
      (Completes reads ∧ (∀ exceptions, ¬StopsAtPauses reads exceptions) ∧
        ∃ snapshot exceptions pauses, s.reload reads =
          (none, { s with
            snapshot, exceptions, pauses
            enabledCategories := loadEnabledCategories reads.categories })) := by
  unfold reload loadExceptions loadPauses Completes StopsAtPauses
  cases hpolicy : loadDocument reads.policy with
  | error err => simp [Except.toOption]
  | ok doc =>
    cases hexceptions : loadGrants reads.exceptions with
    | error err => simp [Except.toOption, Except.map]
    | ok exceptions =>
      cases hpauses : loadGrants reads.pauses with
      | error | ok => simp [Except.toOption, Except.map]

theorem snapshot_reload (s : Service) {reads : ReloadReads} {doc : PolicyDocument}
    (hcompletes : Completes reads) (hdoc : loadDocument reads.policy = .ok doc) :
    (s.reload reads).2.snapshot = snapshotFromDocument doc := by
  obtain ⟨-, hexceptions, hpauses⟩ := hcompletes
  unfold reload loadExceptions loadPauses
  rw [hdoc]
  cases hread : loadGrants reads.exceptions with
  | error err => simp [hread, Except.toOption] at hexceptions
  | ok exceptions =>
    cases hpaused : loadGrants reads.pauses with
    | error err => simp [hpaused, Except.toOption] at hpauses
    | ok pauses => simp [Except.map]

/-- A reload is all or nothing exactly if it does not stop at the pauses with exceptions
other than the live ones, and does not complete without the selection of categories where
one is live. -/
theorem reload_allOrNothing_iff (s : Service) (reads : ReloadReads) : AllOrNothing s reads ↔
      (∀ exceptions, StopsAtPauses reads exceptions → exceptions = s.exceptions) ∧
      (Completes reads → readCategories reads.categories = none → s.enabledCategories = []) := by
  unfold AllOrNothing
  rcases reload_cases s reads with ⟨hstops, hpauses, err, hreload⟩ |
    ⟨hstops, exceptions, hpauses, err, hreload⟩ |
    ⟨hcompletes, hpauses, snapshot, exceptions, pauses, hreload⟩
  · simp [hreload, hstops, hpauses]
  · have hsame : { s with exceptions } = s ↔ exceptions = s.exceptions := by
      constructor
      · intro h
        exact congrArg Service.exceptions h
      · rintro rfl
        rfl
    have honly : ∀ others, StopsAtPauses reads others → others = exceptions := by
      intro others hothers
      have := hothers.2.1.symm.trans hpauses.2.1
      simpa using this
    simp only [hreload, ne_eq, reduceCtorEq, not_false_eq_true, forall_const, hsame,
      false_implies, and_true, hstops]
    constructor
    · rintro rfl others hothers
      exact honly others hothers
    · intro h
      exact h exceptions hpauses
  · simp only [hreload, ne_eq, not_true_eq_false, false_implies, true_and, forall_const,
      hpauses, hcompletes]
    constructor
    · intro hkeeps hunread
      have hlive := hkeeps.categories hunread
      simpa [loadEnabledCategories, hunread] using hlive.symm
    · intro hempty
      refine ⟨fun h => absurd h hcompletes.1, fun h => absurd h hcompletes.2.1,
        fun h => absurd h hcompletes.2.2, ?_⟩
      intro hunread
      simp [loadEnabledCategories, hunread, hempty hunread]

end Service

def plainService (exceptions : List Exception) (enabledCategories : List Bytes) : Service where
  snapshot := ⟨∅, ∅, documentVersion, zeroTime⟩
  exceptions := exceptions
  pauses := []
  categories := none
  enabledCategories := enabledCategories

def failsAtPauses : ReloadReads where
  policy := some .empty
  exceptions := some .empty
  pauses := none
  categories := none

def failsAtCategories : ReloadReads where
  policy := some .empty
  exceptions := some .empty
  pauses := some .empty
  categories := none

/-- The error comes after the exceptions have been replaced; and the reload succeeds with
the selection of categories gone. -/
theorem reload_not_allOrNothing :
    let exception : Exception :=
      { id := utf8 "e", domain := utf8 "games.example", scope := .installation,
        createdAt := 0, expiresAt := hour, active := true }
    let service := plainService [exception] [utf8 "adult"]
    (service.reload failsAtPauses).1 = some .read ∧ service.exceptions = [exception] ∧
      (service.reload failsAtPauses).2.exceptions = [] ∧
      (service.reload failsAtCategories).1 = none ∧
      service.enabledCategories = [utf8 "adult"] ∧
      (service.reload failsAtCategories).2.enabledCategories = [] := by
  decide

end GateSentry.Policy
