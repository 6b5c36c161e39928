import GateSentry.Storage.MapStore

/-!
# Transactions are atomic

An update of a map store succeeds, or leaves everything as it was, or leaves the new values
in a handle that refuses to go on.
-/

namespace GateSentry.Storage

open Foundation ByteText

section Atomic

variable (c : Cipher) (location : KeyLocation)

/-! ## Outcomes -/

inductive MapCall where
  | update (op : MapUpdate)
  | getE (key : Bytes)
  | snapshot

def errorOf {α : Type} : Except MapError α → Option MapError
  | .ok _ => none
  | .error err => some err

def MapCall.program (m : Store) : MapCall → Files (Store × Option MapError)
  | .update op => m.update c location op
  | .getE key => do
    let (m, _, err) ← m.getE c location key
    return (m, err)
  | .snapshot => do
    let (m, result) ← m.snapshot c location
    return (m, errorOf result)

/-- Every operation fails, whatever there is on disk, and leaves the handle as it is. -/
def Store.Barred (m : Store) : Prop :=
  ∀ (call : MapCall) (answers : List Answer) (disk disk' : Disk)
    (result : Store × Option MapError),
    (call.program c location m).run answers disk = (disk', some result) →
      result.1 = m ∧ result.2.isSome = true

/-- A map store that is loaded: the file and the memory of the handle hold the values. -/
structure Store.Loaded (m : Store) (disk : Disk) (values : Values) : Prop where
  accepted : storagePath m.id = .ok m.id
  checked : m.validate = fun data => (parseMap data).isSome
  loadErr : m.loadErr = none
  durabilityErr : m.durabilityErr = none
  file : m.fileData c location disk = some m.data
  values : parseMap m.data = some values

def Represents (data : Bytes) (values : Values) : Prop :=
  ∃ read, parseMap data = some read ∧ SameValues read values

def Store.Has (m : Store) (disk : Disk) (values : Values) : Prop :=
  Represents m.data values ∧
    ∃ data, m.fileData c location disk = some data ∧ Represents data values

inductive MapOutcome where
  | succeeded
  | unchanged
  | uncertain

/-- What an outcome says about the handle and the file after an update of the old values.
The handle notes an error after the rename. -/
def MapOutcome.Describes (op : MapUpdate) (old : Values) (m : Store) (err : Option MapError)
    (disk : Disk) : MapOutcome → Prop
  | .succeeded => err = none ∧ ∃ new, op.next old = some new ∧ m.Has c location disk new
  | .unchanged => err.isSome = true ∧ m.durabilityErr = none ∧ m.Has c location disk old
  | .uncertain => err.isSome = true ∧ m.durabilityErr.isSome = true ∧
      (∃ new, op.next old = some new ∧ m.Has c location disk new) ∧ m.Barred c location

def Store.Atomic (m : Store) (disk : Disk) (old : Values) (op : MapUpdate) : Prop :=
  ∀ (answers : List Answer) (disk' : Disk) (m' : Store) (err : Option MapError),
    (m.update c location op).run answers disk = (disk', some (m', err)) →
      ∃! outcome : MapOutcome, outcome.Describes c location op old m' err disk'

variable {c} {location} {m : Store}

theorem describes_unique {op : MapUpdate} {old : Values} {err : Option MapError}
    {disk : Disk} {a b : MapOutcome} (ha : a.Describes c location op old m err disk)
    (hb : b.Describes c location op old m err disk) : a = b := by
  cases err with
  | none =>
    cases a with
    | succeeded =>
      cases b with
      | succeeded => rfl
      | unchanged | uncertain => cases hb.1
    | unchanged | uncertain => cases ha.1
  | some err =>
    cases a with
    | succeeded => cases ha.1
    | unchanged =>
      cases b with
      | succeeded => cases hb.1
      | unchanged => rfl
      | uncertain =>
        have hsome := hb.2.1
        rw [ha.2.1] at hsome
        cases hsome
    | uncertain =>
      cases b with
      | succeeded => cases hb.1
      | unchanged =>
        have hsome := ha.2.1
        rw [hb.2.1] at hsome
        cases hsome
      | uncertain => rfl

theorem MapCall.program_of_durabilityErr {errors : List FileStep}
    (h : m.durabilityErr = some errors) (call : MapCall) :
    call.program c location m = pure (m, some (.store (.durability errors))) := by
  have hload : m.loadLocked c location = pure (m, some (.durability errors)) := by
    rw [Store.loadLocked, h]
  cases call with
  | update op =>
    rw [MapCall.program, Store.update, hload]
    rfl
  | getE key =>
    rw [MapCall.program, Store.getE, hload]
    rfl
  | snapshot =>
    rw [MapCall.program, Store.snapshot, hload]
    rfl

theorem barred_of_durabilityErr (h : m.durabilityErr.isSome = true) : m.Barred c location := by
  obtain ⟨errors, herrors⟩ := Option.isSome_iff_exists.mp h
  intro call answers disk disk' result hrun
  rw [MapCall.program_of_durabilityErr herrors] at hrun
  cases hrun
  exact ⟨rfl, rfl⟩

/-! ## Loading a store that is loaded -/

theorem Store.loaded_self (h : m.loadErr = none) : m.loaded m.data = (m, none) := by
  cases m
  cases h
  rfl

theorem Store.path_ne_nil {s : Store} (h : storagePath s.id = .ok s.id) : s.path ≠ [] := by
  rw [Store.path_of_accepted h]
  intro hempty
  rw [hempty] at h
  cases h

section Loaded

variable {m : Store} {disk : Disk} {old : Values} {data : Bytes}
  {post : Store × Option StoreError → Disk → Prop} {allowed : Answer → Prop}

theorem delivers_loadLocked_fileData (hopen : m.durabilityErr = none)
    (hfile : m.fileData c location disk = some data)
    (hfailed : MayFail allowed → ∀ err, post (m.failedLoad err) disk)
    (hloaded : post (m.loaded data) disk) :
    (m.loadLocked c location).Delivers allowed post disk := by
  cases hcontent : disk.lookup m.path with
  | none =>
    rw [Store.fileData, hcontent, Option.some.injEq] at hfile
    unfold Store.loadLocked
    rw [hopen]
    refine Proc.delivers_bind (delivers_readFile (fun hmay => hfailed hmay _) ?_)
    rw [hcontent]
    rw [hfile]
    exact hloaded
  | some content =>
    cases hparse : parseEnvelope content with
    | error err =>
      rw [Store.fileData, hcontent] at hfile
      simp only [hparse] at hfile
      cases hfile
    | ok parsed =>
      have hcurrent : parsed.Current := by
        rw [Store.fileData, hcontent] at hfile
        simp only [hparse, Store.envelopeData] at hfile
        split at hfile
        · cases hfile
        · split at hfile
          · next hdecrypt => exact (current_iff_of_decrypt hdecrypt).mpr rfl
          · cases hfile
      apply Storage.delivers_loadLocked hopen hcontent hparse hcurrent
      · rintro (hmay | hnone)
        · exact hfailed hmay
        · cases hnone.symm.trans hfile
      · intro payload hpayload
        cases hpayload.symm.trans hfile
        exact hloaded

theorem Store.Loaded.delivers_loadLocked (h : m.Loaded c location disk old)
    (hfailed : MayFail allowed → ∀ err, post (m.failedLoad err) disk)
    (hloaded : post (m, none) disk) : (m.loadLocked c location).Delivers allowed post disk := by
  apply delivers_loadLocked_fileData h.durabilityErr h.file hfailed
  rw [Store.loaded_self h.loadErr]
  exact hloaded

theorem Store.Loaded.holds (h : m.Loaded c location disk old) {values : Values}
    (hsame : SameValues old values) : m.Has c location disk values :=
  ⟨⟨old, h.values, hsame⟩, m.data, h.file, old, h.values, hsame⟩

variable {disk' : Disk}

theorem fileData_insert_ne {path : Bytes} (hpath : m.path ≠ path) (hkeys : location.path ≠ path)
    (content : Content) :
    m.fileData c location (disk.insert path content) = m.fileData c location disk := by
  unfold Store.fileData Store.envelopeData keysOnDisk
  rw [AList.lookup_insert_ne hpath, AList.lookup_insert_ne hkeys]

theorem fileData_keyed (hkeyed : KeyAdded location disk disk')
    (hpath : disk' ≠ disk → m.path ≠ location.path)
    (h : m.fileData c location disk = some data) : m.fileData c location disk' = some data := by
  by_cases hsame : disk' = disk
  · rw [hsame]
    exact h
  · have hne := hpath hsame
    rcases hkeyed with hdisk | ⟨key, hcreatable, rfl⟩
    · exact absurd hdisk hsame
    · have hnone : keysOnDisk location disk = none := by
        unfold keysOnDisk
        rw [AList.lookup_eq_none.mpr hcreatable.2.1]
        rfl
      unfold Store.fileData Store.envelopeData at h ⊢
      rw [AList.lookup_insert_ne hne]
      cases hcontent : disk.lookup m.path with
      | none =>
        rw [hcontent] at h
        exact h
      | some content =>
        rw [hcontent] at h
        cases hparse : parseEnvelope content with
        | error err =>
          simp only [hparse] at h
          cases h
        | ok parsed =>
          simp only [hparse, hnone] at h ⊢
          cases hencrypted : parsed.encrypted with
          | false =>
            rw [decryptEnvelope_plain hencrypted _ none]
            rw [hencrypted] at h
            exact h
          | true =>
            split at h
            · cases h
            · split at h
              · next hdecrypt =>
                rw [decryptEnvelope_noKeys hencrypted
                  ((current_iff_of_decrypt hdecrypt).mpr rfl)] at hdecrypt
                cases hdecrypt
              · cases h

/-! ## Updates -/

def MapUpdate.Writes (op : MapUpdate) (m : Store) (old : Values) : Prop :=
  ∃ data, op.replacement m.data old = .ok (some data)

def MapUpdate.CanWrite (location : KeyLocation) (op : MapUpdate) (m : Store) (disk : Disk)
    (old : Values) : Prop :=
  op.Writes m old → m.encrypted = true → Loadable location disk

def MapUpdate.Storable (location : KeyLocation) (op : MapUpdate) (m : Store) (old : Values) :
    Prop :=
  (∀ new, op.next old = some new → TextValues new) ∧
    (op.Writes m old → m.encrypted = true → m.path ≠ location.path)

variable {content : Content}

theorem loadable_of_encodes
    (hkeyed : m.Keyed location disk disk') (hencrypted : m.encrypted = true)
    (hcontent : m.Encodes c location data disk' content) : Loadable location disk := by
  rw [Store.Encodes, if_pos hencrypted] at hcontent
  obtain ⟨keys, _, hkeys, _⟩ := hcontent
  rcases hkeyed with rfl | ⟨_, rfl | ⟨key, hcreatable, _⟩⟩
  · exact .inl (by rw [hkeys]; rfl)
  · exact .inl (by rw [hkeys]; rfl)
  · exact .inr hcreatable

theorem represents_marshalMap {values : Values} (h : TextValues values) :
    Represents (marshalMap values) values :=
  (sameValues_marshalMap_iff values).mpr h

variable {new : Values}

theorem loaded_of_encodes (hsound : c.Sound) (hloaded : m.Loaded c location disk old)
    (htext : TextValues new) (hpath : m.encrypted = true → m.path ≠ location.path)
    (hcontent : m.Encodes c location (marshalMap new) disk' content) :
    ∃ read, SameValues read new ∧ ({ m with data := marshalMap new } : Store).Loaded c location
      (disk'.insert m.path content) read := by
  obtain ⟨read, hread, hsame⟩ := represents_marshalMap htext
  have hfile : m.fileData c location (disk'.insert m.path content) = some (marshalMap new) := by
    refine (hcontent.fileData_iff hsound).mpr ⟨?_, ?_⟩
    · unfold Store.Keeps
      split
      · next hencrypted => exact hpath hencrypted
      · refine ⟨StringObject.validUTF8_encode _, ?_⟩
        rintro ⟨rest, hrest⟩
        cases hrest
    · simp [hloaded.checked, hread]
  exact ⟨read, hsame, { hloaded with file := hfile, values := hread }⟩

variable {op : MapUpdate}

/-- What an update does to the values.  After an error that comes too late the new ones are
stored, and no update has an effect any more. -/
inductive MapState where
  | live (values : Values)
  | barred (values : Values)

inductive MapStep : MapState → MapUpdate × Option MapError → MapState → Prop where
  | done {op : MapUpdate} {old new read : Values} (hnew : op.next old = some new)
      (hsame : SameValues read new) : MapStep (.live old) (op, none) (.live read)
  | failed {op : MapUpdate} {state : MapState} {err : MapError} :
      MapStep state (op, some err) state
  | uncertain {op : MapUpdate} {old new : Values} {err : MapError}
      (hnew : op.next old = some new) : MapStep (.live old) (op, some err) (.barred new)

variable (c location) in
def Store.Shows (m : Store) (disk : Disk) : MapState → Prop
  | .live values => ({ m with loadErr := none } : Store).Loaded c location disk values
  | .barred values => m.durabilityErr.isSome = true ∧ m.Has c location disk values

theorem delivers_update_step (hsound : c.Sound) (hloaded : m.Loaded c location disk old)
    (hstorable : op.CanWrite location m disk old → op.Storable location m old) :
    (m.update c location op).Delivers (fun _ => True)
      (fun result disk' => (∃ state, MapStep (.live old) (op, result.2) state ∧
          result.1.Shows c location disk' state) ∧
        result.1.encrypted = m.encrypted ∧ result.1.path = m.path) disk := by
  refine Proc.delivers_bind (hloaded.delivers_loadLocked (fun _ err => ?_) ?_)
  · exact ⟨⟨_, .failed, { hloaded with loadErr := rfl }⟩, rfl, rfl⟩
  · simp only [hloaded.values]
    cases hreplacement : op.replacement m.data old with
    | error err => exact ⟨⟨_, .failed, { hloaded with loadErr := rfl }⟩, rfl, rfl⟩
    | ok replacement =>
      cases replacement with
      | none =>
        obtain ⟨new, hnew, hsame⟩ := MapUpdate.next_of_keeps hreplacement
        have hcan : op.CanWrite location m disk old := by
          rintro ⟨data, hdata⟩
          cases hdata.symm.trans hreplacement
        have htext := (hstorable hcan).1 new hnew
        have hsame : SameValues old new := by
          rcases hsame with hsame | hsame
          · exact hsame
          · obtain ⟨read, hread, hsame'⟩ := represents_marshalMap htext
            rw [hsame, hloaded.values] at hread
            cases hread
            exact hsame'
        exact ⟨⟨_, .done hnew hsame, { hloaded with loadErr := rfl }⟩, rfl, rfl⟩
      | some data =>
        obtain ⟨new, hnew, rfl⟩ := MapUpdate.next_of_writes hreplacement
        have hwrites : op.Writes m old := ⟨_, hreplacement⟩
        refine Proc.delivers_bind ((ensures_persisted m _ disk).delivers.mono
          fun result disk' hpersisted => ?_)
        cases hpersisted with
        | refused err hkeys =>
          have hfile : m.fileData c location disk' = some m.data := by
            apply fileData_keyed hkeys.added _ hloaded.file
            intro hchanged
            rcases hkeys with hsame | ⟨hencrypted, hsame | ⟨key, hcreatable, _⟩⟩
            · exact absurd hsame hchanged
            · exact absurd hsame hchanged
            · exact (hstorable fun _ _ => .inr hcreatable).2 hwrites hencrypted
          exact ⟨⟨_, .failed, { hloaded with loadErr := rfl, file := hfile }⟩, rfl, rfl⟩
        | written hkeys hcontent =>
          have hstored := hstorable fun _ hencrypted =>
            loadable_of_encodes hkeys hencrypted hcontent
          obtain ⟨read, hsame, hread⟩ := loaded_of_encodes hsound hloaded
            (hstored.1 new hnew) (hstored.2 hwrites) hcontent
          exact ⟨⟨_, .done hnew hsame, { hread with loadErr := rfl }⟩, rfl, rfl⟩
        | uncertain hkeys hcontent errors =>
          have hstored := hstorable fun _ hencrypted =>
            loadable_of_encodes hkeys hencrypted hcontent
          obtain ⟨read, hsame, hread⟩ := loaded_of_encodes hsound hloaded
            (hstored.1 new hnew) (hstored.2 hwrites) hcontent
          exact ⟨⟨_, .uncertain hnew, rfl, hread.holds hsame⟩, rfl, rfl⟩

theorem delivers_update (hsound : c.Sound) (hloaded : m.Loaded c location disk old)
    (hstorable : op.CanWrite location m disk old → op.Storable location m old) :
    (m.update c location op).Delivers (fun _ => True)
      (fun result disk' => ∃ outcome : MapOutcome,
        outcome.Describes c location op old result.1 result.2 disk') disk := by
  refine (delivers_update_step hsound hloaded hstorable).mono ?_
  rintro ⟨m', err⟩ disk' ⟨⟨state, hstep, hshows⟩, _⟩
  cases hstep with
  | done hnew hsame => exact ⟨.succeeded, rfl, _, hnew, hshows.holds hsame⟩
  | failed => exact ⟨.unchanged, rfl, hshows.durabilityErr, hshows.holds fun _ => rfl⟩
  | uncertain hnew =>
    exact ⟨.uncertain, rfl, hshows.1, ⟨_, hnew, hshows.2⟩, barred_of_durabilityErr hshows.1⟩

theorem textValues_of_sameValues {a b : Values} (h : SameValues a b) (ha : TextValues a) :
    TextValues b := by
  intro key value hvalue
  rw [← h key] at hvalue
  exact ha key value hvalue

theorem delivers_update_succeeds (hloaded : m.Loaded c location disk old)
    (hnew : op.next old = some new) (hcan : op.CanWrite location m disk old)
    {post : Store × Option MapError → Disk → Prop}
    (hkept : ¬ op.Writes m old → post (m, none) disk)
    (hwritten : op.Writes m old → ∀ disk' content,
      m.Encodes c location (marshalMap new) disk' content →
      post ({ m with data := marshalMap new }, none) (disk'.insert m.path content)) :
    (m.update c location op).Delivers (·.fails = false) post disk := by
  refine Proc.delivers_bind (hloaded.delivers_loadLocked ?_ ?_)
  · rintro ⟨answer, hsteady, hfails⟩
    cases hsteady.symm.trans hfails
  · simp only [hloaded.values]
    cases hreplacement : op.replacement m.data old with
    | error err => cases (MapUpdate.next_of_error hreplacement).symm.trans hnew
    | ok replacement =>
      cases replacement with
      | none =>
        apply hkept
        rintro ⟨data, hdata⟩
        cases hdata.symm.trans hreplacement
      | some data =>
        obtain ⟨written, hwritten', rfl⟩ := MapUpdate.next_of_writes hreplacement
        cases hwritten'.symm.trans hnew
        have hwrites : op.Writes m old := ⟨_, hreplacement⟩
        refine Proc.delivers_bind (delivers_persistLocked hloaded.loadErr ?_
          (hcan hwrites) fun disk' content hcontent => ?_)
        · exact Store.path_ne_nil hloaded.accepted
        · exact hwritten hwrites disk' content hcontent

theorem Store.Atomic.holds (h : m.Atomic c location disk old op)
    (post : Store → Disk → Prop) (hdelivers : (m.update c location op).Delivers (·.fails = false)
      (fun result disk' => result.2 = none ∧ post result.1 disk') disk) :
    ∃ m' disk' new, post m' disk' ∧ op.next old = some new ∧ m'.Has c location disk' new := by
  obtain ⟨n, hrun⟩ := Proc.exists_run_finish (m.update c location op) steadyAnswer disk
  have hsteady : steadyAnswer.fails = false := rfl
  obtain ⟨herr, hpost⟩ := hdelivers.finish hsteady
  obtain ⟨outcome, houtcome, _⟩ := h _ _ _ _ hrun
  rw [herr] at houtcome
  cases outcome with
  | succeeded =>
    obtain ⟨_, new, hnew, hholds⟩ := houtcome
    exact ⟨_, _, new, hpost, hnew, hholds⟩
  | unchanged | uncertain => cases houtcome.1

theorem Store.Atomic.storable (hsound : c.Sound) (hloaded : m.Loaded c location disk old)
    (h : m.Atomic c location disk old op)
    (hcan : op.CanWrite location m disk old) (hnew : op.next old = some new) :
    TextValues new ∧ (op.Writes m old → m.encrypted = true → m.path ≠ location.path) := by
  let post (m' : Store) (disk' : Disk) : Prop := (¬ op.Writes m old ∧ m' = m) ∨
    ∃ before content, m.Encodes c location (marshalMap new) before content ∧
      m' = { m with data := marshalMap new } ∧ disk' = before.insert m.path content
  have hdelivers : (m.update c location op).Delivers (·.fails = false)
      (fun result disk' => result.2 = none ∧ post result.1 disk') disk :=
    delivers_update_succeeds hloaded hnew hcan (fun hkept => ⟨rfl, .inl ⟨hkept, rfl⟩⟩)
      fun _ before content hcontent => ⟨rfl, .inr ⟨before, content, hcontent, rfl, rfl⟩⟩
  obtain ⟨m', disk', left, hpost, hleft, hmemory, data, hfile, _⟩ := h.holds post hdelivers
  cases hleft.symm.trans hnew
  rcases hpost with ⟨hkept, rfl⟩ | ⟨before, content, hcontent, rfl, rfl⟩
  · obtain ⟨read, hread, hsame⟩ := hmemory
    have htext := textValues_of_parseMap hread
    exact ⟨textValues_of_sameValues hsame htext, fun hwrites => absurd hwrites hkept⟩
  · refine ⟨(sameValues_marshalMap_iff new).mp hmemory, fun _ hencrypted hpath => ?_⟩
    rw [Store.Encodes, if_pos hencrypted] at hcontent
    obtain ⟨keys, nonce, hkeys, rfl⟩ := hcontent
    have hlost : m.fileData c location (before.insert m.path
        (sealedEnvelope c (marshalMap new) keys.current m.id nonce)) = none := by
      rw [fileData_sealed hsound hkeys, if_neg fun hstored => hstored.1 hpath]
    cases hlost.symm.trans hfile

/-- An update of a loaded map store is atomic, exactly if what it writes can be stored. -/
theorem update_atomic_iff (hsound : c.Sound) (hloaded : m.Loaded c location disk old)
    (op : MapUpdate) :
    m.Atomic c location disk old op ↔
      (op.CanWrite location m disk old → op.Storable location m old) := by
  constructor
  · intro hatomic hcan
    refine ⟨fun new hnew => (hatomic.storable hsound hloaded hcan hnew).1, fun hwrites => ?_⟩
    obtain ⟨data, hdata⟩ := hwrites
    obtain ⟨new, hnew, _⟩ := MapUpdate.next_of_writes hdata
    exact (hatomic.storable hsound hloaded hcan hnew).2 ⟨data, hdata⟩
  · intro hstorable answers disk' m' err hrun
    obtain ⟨outcome, houtcome⟩ :=
      (delivers_update hsound hloaded hstorable).run (fun _ _ => trivial) hrun
    exact ⟨outcome, houtcome, fun other hother => describes_unique hother houtcome⟩

/-! ## Runs -/

/-- The updates one after the other, each with the error that it returns. -/
def Store.updates (c : Cipher) (location : KeyLocation) (m : Store) :
    List MapUpdate → Files (Store × List (MapUpdate × Option MapError))
  | [] => return (m, [])
  | op :: rest => do
    let (m, err) ← m.update c location op
    let (m, calls) ← m.updates c location rest
    return (m, (op, err) :: calls)

def MapState.Explains (state final : MapState) : List (MapUpdate × Option MapError) → Prop
  | [] => state = final
  | call :: rest => ∃ next, MapStep state call next ∧ next.Explains final rest

def MapUpdate.KeepsText (op : MapUpdate) : Prop :=
  ∀ old new, TextValues old → op.next old = some new → TextValues new

variable {state : MapState}

theorem delivers_update_shows (hsound : c.Sound) (hshows : m.Shows c location disk state)
    (hpath : m.encrypted = true → m.path ≠ location.path) (htext : op.KeepsText) :
    (m.update c location op).Delivers (fun _ => True)
      (fun result disk' => (∃ next, MapStep state (op, result.2) next ∧
          result.1.Shows c location disk' next) ∧
        result.1.encrypted = m.encrypted ∧ result.1.path = m.path) disk := by
  cases state with
  | live old =>
    have hstep := delivers_update_step hsound hshows fun _ => ⟨fun new hnew =>
      htext old new (textValues_of_parseMap hshows.values) hnew, fun _ => hpath⟩
    -- a load overwrites the error of the last one
    cases m
    cases hshows.durabilityErr
    exact hstep
  | barred values =>
    obtain ⟨errors, herrors⟩ := Option.isSome_iff_exists.mp hshows.1
    have hrefused : m.update c location op = _ :=
      MapCall.program_of_durabilityErr herrors (.update op)
    rw [hrefused]
    exact ⟨⟨_, .failed, hshows⟩, rfl, rfl⟩

/-- Whatever fails, the file and the handle go through the values that the updates say they
stored, until one of them cannot tell. -/
theorem updates_refine (hsound : c.Sound) {ops : List MapUpdate}
    (hshows : m.Shows c location disk state)
    (hpath : m.encrypted = true → m.path ≠ location.path) (htext : ∀ op ∈ ops, op.KeepsText) :
    (m.updates c location ops).Delivers (fun _ => True)
      (fun result disk' => ∃ final, state.Explains final result.2 ∧
        result.1.Shows c location disk' final) disk := by
  induction ops generalizing m disk state with
  | nil => exact ⟨state, rfl, hshows⟩
  | cons op rest ih =>
    rw [List.forall_mem_cons] at htext
    refine Proc.delivers_bind ((delivers_update_shows hsound hshows hpath htext.1).mono ?_)
    rintro ⟨m', err⟩ disk' ⟨⟨next, hstep, hnext⟩, hencrypted, hfile⟩
    rw [← hencrypted, ← hfile] at hpath
    refine Proc.delivers_bind ((ih hnext hpath htext.2).mono ?_)
    rintro ⟨last, calls⟩ disk'' ⟨final, hexplains, hfinal⟩
    exact ⟨final, ⟨next, hstep, hexplains⟩, hfinal⟩

end Loaded

end Atomic

/-! ## A map that is text, and another -/

def settingsMap : Store where
  id := utf8 "GSSettings"
  encrypted := false
  validate data := (parseMap data).isSome

theorem loaded_settingsMap : settingsMap.Loaded clearCipher unmanagedKey ∅ ∅ where
  accepted := by decide
  checked := rfl
  loadErr := rfl
  durabilityErr := rfl
  file := rfl
  values := rfl

theorem textValues_insert {values : Values} {key value : Bytes} (h : TextValues values)
    (htext : ValidUTF8 key ∧ ValidUTF8 value) : TextValues (values.insert key value) := by
  intro other found hfound
  rcases Dict.lookup_of_insert hfound with ⟨rfl, rfl⟩ | ⟨-, hold⟩
  · exact htext
  · exact h other found hold

/-- The second update reads what the first has stored. -/
def themeUpdates : List MapUpdate :=
  [.setDefault (utf8 "theme") (utf8 "dark"),
    .updateValue (utf8 "theme") fun old =>
      if old = utf8 "dark" then some (utf8 "light") else none]

theorem updates_refine_themeUpdates :
    (settingsMap.updates clearCipher unmanagedKey themeUpdates).Delivers (fun _ => True)
      (fun result disk' => ∃ final, (MapState.live ∅).Explains final result.2 ∧
        result.1.Shows clearCipher unmanagedKey disk' final) ∅ ∧
    (((settingsMap.updates clearCipher unmanagedKey themeUpdates).run (answersOf 1 80) ∅).2.map
      fun result => (result.2.map (·.2), (parseMap result.1.data).bind (·.lookup (utf8 "theme")))) =
      some ([none, none], some (utf8 "light")) := by
  refine ⟨?_, by decide +kernel⟩
  apply updates_refine clearCipher_sound
  · exact loaded_settingsMap
  · nofun
  · simp only [themeUpdates, List.forall_mem_cons]
    refine ⟨fun old new hold hnew => ?_, fun old new hold hnew => ?_, nofun⟩
    · cases hnew
      split
      · exact hold
      · exact textValues_insert hold (by decide)
    · obtain ⟨value, hvalue, rfl⟩ := Option.map_eq_some_iff.mp hnew
      dsimp only at hvalue
      split at hvalue
      · cases hvalue
        exact textValues_insert hold (by decide)
      · cases hvalue

theorem update_atomic_setDefault :
    settingsMap.Atomic clearCipher unmanagedKey ∅ ∅ (.setDefault (utf8 "theme") (utf8 "dark")) := by
  apply (update_atomic_iff clearCipher_sound loaded_settingsMap _).mpr
  intro _
  refine ⟨fun new hnew => ?_, nofun⟩
  cases hnew
  exact textValues_insert nofun (by decide)

/-- The update succeeds, and another value is stored. -/
theorem update_replaces_value :
    (((settingsMap.update clearCipher unmanagedKey
        (.replaceAll (AList.insert (utf8 "theme") [0xff] ∅))).run (answersOf 1 40) ∅).2.map
      fun result => (result.2, (parseMap result.1.data).bind (·.lookup (utf8 "theme")))) =
      some (none, some (utf8 "\ufffd")) := by
  decide +kernel

end GateSentry.Storage
