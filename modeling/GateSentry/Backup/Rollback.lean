import GateSentry.Backup.Archive

/-!
# Failed restores

What a restore that fails leaves in the two stores.  A write that fails before its rename
leaves nothing behind; one that fails after it leaves the restored map.
-/

namespace GateSentry.Backup

open Foundation ByteText Calendar Json Storage

/-! ## Archives are text -/

theorem textValues_of_decodeMap {value : Json} {before after : Option Values}
    (hbefore : TextValues (before.getD ∅))
    (h : decodeMap decodeString [] value before = some after) : TextValues (after.getD ∅) := by
  refine decodeMap_holds (fun key item entry hkey hentry => ⟨hkey, ?_⟩) hbefore h
  cases item with
  | null =>
    cases hentry
    rfl
  | string literal =>
    cases hentry
    exact (unquote literal).2
  | bool | number | array | object => cases hentry

theorem textValues_empty : TextValues ∅ := by
  intro key value h
  cases h

def Archive.Text (archive : Archive) : Prop :=
  TextValues (archive.settings.getD ∅) ∧ TextValues (archive.devices.getD ∅)

theorem text_archiveFields (parseTime : Bytes → Option Time) :
    ∀ field ∈ archiveFields parseTime, ∀ item (s s' : Archive), s.Text →
      field.2 item s = some s' → s'.Text := by
  intro field hfield item s s' hs h
  simp only [archiveFields, List.mem_cons, List.not_mem_nil, or_false] at hfield
  rcases hfield with rfl | rfl | rfl | rfl | rfl | rfl | rfl <;>
    obtain ⟨decoded, hdecoded, rfl⟩ := Option.map_eq_some_iff.mp h
  · exact hs
  · exact hs
  · exact hs
  · exact ⟨textValues_of_decodeMap hs.1 hdecoded, hs.2⟩
  · exact ⟨hs.1, textValues_of_decodeMap hs.2 hdecoded⟩
  · exact hs
  · exact hs

structure Archive.Checked (parseTime : Bytes → Option Time) (data : Bytes) (archive : Archive) :
    Prop where
  read : unmarshal (decodeStruct (archiveFields parseTime)) data {} = some archive
  schema : checkSchema (archive.settings.getD ∅) = .ok ()
  assignments : checkAssignments (archive.devices.getD ∅) = .ok ()

variable {archive : Archive} {data : Bytes} {parseTime : Bytes → Option Time}

section

variable (h : validateArchive parseTime data = .ok archive)

include h

theorem checked_of_validateArchive : archive.Checked parseTime data := by
  unfold validateArchive at h
  split at h
  · cases h
  · split at h
    · cases h
    · next read hread =>
      split at h
      · cases h
      · split at h
        · cases h
        · split at h
          · cases h
          · cases h
          · next settings devices hsettings hdevices =>
            cases hschema : checkSchema settings with
            | error err =>
              rw [hschema] at h
              cases h
            | ok _ =>
              cases hassignments : checkAssignments devices with
              | error err =>
                rw [hschema, hassignments] at h
                cases h
              | ok _ =>
                rw [hschema, hassignments] at h
                cases h
                refine ⟨hread, ?_, ?_⟩
                · rw [hsettings]
                  exact hschema
                · rw [hdevices]
                  exact hassignments

theorem text_of_validateArchive : archive.Text := by
  obtain ⟨value, -, hdecode⟩ :=
    Option.bind_eq_some_iff.mp (checked_of_validateArchive h).read
  have hempty : Archive.Text {} := ⟨textValues_empty, textValues_empty⟩
  exact decodeStruct_holds (text_archiveFields parseTime) hempty hdecode

end

/-! ## Stores and the maps they hold -/

section Restore

variable (c : Cipher) (location : KeyLocation)

structure Held (m : Store) (disk : Disk) (values : Values) : Prop where
  accepted : storagePath m.id = .ok m.id
  checked : m.validate = fun data => (parseMap data).isSome
  apart : m.path ≠ location.path
  file : ∃ data, m.fileData c location disk = some data ∧ parseMap data = some values

structure Kept (before after : Store) (disk : Disk) (values : Values) : Prop where
  file : ∃ data, after.fileData c location disk = some data ∧ Represents data values
  memory : Represents before.data values → Represents after.data values

structure Alike (m m' : Store) : Prop where
  id : m'.id = m.id
  encrypted : m'.encrypted = m.encrypted
  validate : m'.validate = m.validate

inductive Replaced (m : Store) (new : Values) (disk : Disk) :
    Store × Option MapError → Disk → Prop where
  | refused {m' : Store} {disk' : Disk} (err : MapError) (halike : Alike m m')
      (hdata : m'.data = m.data) (hopen : m'.durabilityErr = none)
      (hkeys : KeyAdded location disk disk') : Replaced m new disk (m', some err) disk'
  | written {disk' : Disk} {content : Content} (hkeys : KeyAdded location disk disk')
      (hcontent : m.Encodes c location (marshalMap new) disk' content) :
      Replaced m new disk ({ m with data := marshalMap new }, none) (disk'.insert m.path content)
  | uncertain {disk' : Disk} {content : Content} (hkeys : KeyAdded location disk disk')
      (hcontent : m.Encodes c location (marshalMap new) disk' content) (err : MapError)
      (errors : List FileStep) :
      Replaced m new disk ({ m with data := marshalMap new, durabilityErr := some errors },
        some err) (disk'.insert m.path content)

/-- The write of the settings that has failed may have taken effect. -/
def RestoreError.LateSettings (settings : Store) : RestoreError → Prop
  | .writeSettings _ => settings.durabilityErr.isSome = true
  | _ => False

def RestoreError.LateDevices (devices : Store) : RestoreError → Prop
  | .writeDevices _ _ => devices.durabilityErr.isSome = true
  | _ => False

variable {c location}

theorem Alike.fileData {m m' : Store} (h : Alike m m') (disk : Disk) :
    m'.fileData c location disk = m.fileData c location disk := by
  unfold Store.fileData Store.envelopeData Store.path
  rw [h.id, h.encrypted, h.validate]

theorem Alike.path {m m' : Store} (h : Alike m m') : m'.path = m.path := by
  unfold Store.path
  rw [h.id]

theorem Alike.refl (m : Store) : Alike m m := ⟨rfl, rfl, rfl⟩

section Store

variable {m : Store} {disk : Disk} {old : Values}

theorem represents_of_parseMap {values : Values} (h : parseMap data = some values) :
    Represents data values :=
  ⟨values, h, fun _ => rfl⟩

theorem Held.delivers_loadLocked (h : Held c location m disk old)
    {post : Store × Option StoreError → Disk → Prop}
    (hfailed : ∀ m' err, Alike m m' → m'.data = m.data → post (m', some err) disk)
    (hloaded : ∀ m', Alike m m' → m'.Loaded c location disk old → post (m', none) disk) :
    (m.loadLocked c location).Delivers (fun _ => True) post disk := by
  obtain ⟨data, hfile, hvalues⟩ := h.file
  cases hopen : m.durabilityErr with
  | some errors =>
    rw [Store.loadLocked, hopen]
    exact hfailed m _ (.refl m) rfl
  | none =>
    apply delivers_loadLocked_fileData hopen hfile
    · intro _ err
      exact hfailed _ err ⟨rfl, rfl, rfl⟩ rfl
    · apply hloaded (m.loaded data).1 ⟨rfl, rfl, rfl⟩
      exact ⟨h.accepted, h.checked, rfl, hopen, hfile, hvalues⟩

theorem Held.delivers_snapshot (h : Held c location m disk old)
    {post : Store × Except MapError Values → Disk → Prop}
    (hfailed : ∀ m' err, Alike m m' → m'.data = m.data → post (m', .error err) disk)
    (hloaded : ∀ m', Alike m m' → m'.Loaded c location disk old → post (m', .ok old) disk) :
    (m.snapshot c location).Delivers (fun _ => True) post disk := by
  refine Proc.delivers_bind (h.delivers_loadLocked (fun m' err halike hdata => ?_)
    fun m' halike hloaded' => ?_)
  · exact hfailed m' _ halike hdata
  · simp only [hloaded'.values]
    exact hloaded m' halike hloaded'

theorem delivers_replaceAll (h : m.Loaded c location disk old) (new : Values) :
    (m.update c location (.replaceAll new)).Delivers (fun _ => True)
      (Replaced c location m new disk) disk := by
  refine Proc.delivers_bind (h.delivers_loadLocked (fun _ err => ?_) ?_)
  · exact .refused _ ⟨rfl, rfl, rfl⟩ rfl h.durabilityErr (.inl rfl)
  · simp only [h.values]
    refine Proc.delivers_bind ((ensures_persisted m _ disk).delivers.mono
      fun result disk' hpersisted => ?_)
    cases hpersisted with
    | refused err hkeys => exact .refused _ (.refl m) rfl h.durabilityErr hkeys.added
    | written hkeys hcontent => exact .written hkeys.added hcontent
    | uncertain hkeys hcontent errors => exact .uncertain hkeys.added hcontent _ errors

variable {m' : Store}

theorem Held.kept (h : Held c location m disk old) (halike : Alike m m') (hdata : m'.data = m.data) :
    Kept c location m m' disk old := by
  obtain ⟨data, hfile, hvalues⟩ := h.file
  refine ⟨⟨data, ?_, represents_of_parseMap hvalues⟩, fun hbefore => ?_⟩
  · rw [halike.fileData, hfile]
  · rw [hdata]
    exact hbefore

theorem kept_of_loaded (hloaded : m'.Loaded c location disk old) {disk' : Disk}
    (hfile : m'.fileData c location disk' = some m'.data) : Kept c location m m' disk' old :=
  ⟨⟨_, hfile, represents_of_parseMap hloaded.values⟩,
    fun _ => represents_of_parseMap hloaded.values⟩

theorem kept_of_holds {disk' : Disk} (h : m'.Has c location disk' old) :
    Kept c location m m' disk' old :=
  ⟨h.2, fun _ => h.1⟩

variable {new : Values} {result : Store × Option MapError} {disk' : Disk}

section

variable (h : Replaced c location m new disk result disk')

include h

theorem Replaced.frame {n : Store} (hpath : n.path ≠ m.path) (hn : n.path ≠ location.path)
    (hm : m.path ≠ location.path) (hfile : n.fileData c location disk = some data) :
    n.fileData c location disk' = some data := by
  cases h with
  | refused err halike hdata hopen hkeys => exact fileData_keyed hkeys (fun _ => hn) hfile
  | written hkeys | uncertain hkeys =>
    rw [fileData_insert_ne hpath hm.symm]
    exact fileData_keyed hkeys (fun _ => hn) hfile

theorem Replaced.holds (hsound : c.Sound) (hloaded : m.Loaded c location disk old)
    (htext : TextValues new) (hm : m.path ≠ location.path)
    (hdone : result.2 = none ∨ result.1.durabilityErr.isSome = true) :
    result.1.Has c location disk' new := by
  cases h with
  | refused err halike hdata hopen hkeys =>
    rcases hdone with hnone | hlate
    · cases hnone
    · rw [hopen] at hlate
      cases hlate
  | written hkeys hcontent | uncertain hkeys hcontent =>
    obtain ⟨read, hsame, hread⟩ := loaded_of_encodes hsound hloaded htext (fun _ => hm) hcontent
    exact hread.holds hsame

end

theorem Replaced.loaded (h : Replaced c location m new disk (m', none) disk') (hsound : c.Sound)
    (hloaded : m.Loaded c location disk old) (htext : TextValues new) (hm : m.path ≠ location.path) :
    ∃ read, m'.Loaded c location disk' read := by
  cases h with
  | written hkeys hcontent =>
    obtain ⟨read, _, hread⟩ := loaded_of_encodes hsound hloaded htext (fun _ => hm) hcontent
    exact ⟨read, hread⟩

theorem Replaced.kept {m' before : Store} {err : MapError}
    (h : Replaced c location m new disk (m', some err) disk')
    (hloaded : m.Loaded c location disk old) (hm : m.path ≠ location.path)
    (hearly : ¬ m'.durabilityErr.isSome = true) : Kept c location before m' disk' old := by
  cases h with
  | refused _ halike hdata hopen hkeys =>
    have hrepresents := represents_of_parseMap hloaded.values
    refine ⟨⟨m.data, ?_, hrepresents⟩, fun _ => ?_⟩
    · rw [halike.fileData]
      exact fileData_keyed hkeys (fun _ => hm) hloaded.file
    · rw [hdata]
      exact hrepresents
  | uncertain hkeys hcontent _ errors => exact absurd rfl hearly

theorem Replaced.alike (h : Replaced c location m new disk result disk') : Alike m result.1 := by
  cases h with
  | refused err halike hdata hopen hkeys => exact halike
  | written | uncertain => exact ⟨rfl, rfl, rfl⟩

end Store

/-! ## Restores -/

section Restores

variable {settings devices : Store} {disk : Disk} {oldSettings oldDevices : Values}

variable (c location settings devices disk oldSettings oldDevices) in
inductive Prepared : Store × Store × Except RestoreError Values → Disk → Prop where
  | failed {s d : Store} {err : RestoreError} (hearly : ∀ m, ¬ err.LateSettings m ∧ ¬ err.LateDevices m)
      (hs : Kept c location settings s disk oldSettings)
      (hd : Kept c location devices d disk oldDevices) : Prepared (s, d, .error err) disk
  | ready {s d : Store} (hs : Alike settings s) (hsettings : s.Loaded c location disk oldSettings)
      (hd : Alike devices d) (hdevices : d.Loaded c location disk oldDevices) :
      Prepared (s, d, .ok oldSettings) disk

theorem delivers_unchanged {α : Type} {p : Files α} (h : p.Yields fun _ => True)
    {post : α → Disk → Prop} (hpost : ∀ value, post value disk) :
    p.Delivers (fun _ => True) post disk := by
  have hensures : p.Ensures (fun _ => True) post disk := h trivial fun value _ => hpost value
  exact hensures.delivers

theorem yields_createRecoveryPoint : (createRecoveryPoint location).Yields fun _ => True := by
  have hdone {err : Option RecoveryError} :
      (pure err : Files (Option RecoveryError)).Yields fun _ => True := Proc.yields_pure trivial
  have hcopy : (copyFile location).Yields fun _ => True := by
    apply Proc.yields_bind (Proc.yields_look _)
    intro read _
    cases read with
    | error _ => exact hdone
    | ok content =>
      cases content with
      | none => exact hdone
      | some _ => exact yields_unless hdone (yields_unless hdone (yields_unless hdone hdone))
  apply yields_unless hdone
  apply yields_unless hdone
  exact yields_unless hdone hcopy

theorem delivers_prepare (hsettings : Held c location settings disk oldSettings)
    (hdevices : Held c location devices disk oldDevices) :
    (prepare c location settings devices).Delivers (fun _ => True)
      (Prepared c location settings devices disk oldSettings oldDevices) disk := by
  refine Proc.delivers_bind (hsettings.delivers_snapshot (fun s err halike hdata => ?_)
    fun s hs hsloaded => ?_)
  · exact .failed (fun _ => ⟨id, id⟩) (hsettings.kept halike hdata) (hdevices.kept (.refl _) rfl)
  · have hskept := kept_of_loaded (m := settings) hsloaded hsloaded.file
    refine Proc.delivers_bind (hdevices.delivers_snapshot (fun d err halike hdata => ?_)
      fun d hd hdloaded => ?_)
    · exact .failed (fun _ => ⟨id, id⟩) hskept (hdevices.kept halike hdata)
    · refine Proc.delivers_bind (delivers_unchanged yields_createRecoveryPoint fun value => ?_)
      cases value with
      | some err =>
        exact .failed (fun _ => ⟨id, id⟩) hskept (kept_of_loaded hdloaded hdloaded.file)
      | none => exact .ready hs hsloaded hd hdloaded

variable (c location settings devices oldSettings oldDevices) in
inductive Ending (archive : Archive) :
    Store × Store × Except RestoreError RestoreResult → Disk → Prop where
  | kept {disk' : Disk} {s d : Store} {err : RestoreError} (hsettings : ¬ err.LateSettings s)
      (hdevices : ¬ err.LateDevices d) (hs : Kept c location settings s disk' oldSettings)
      (hd : Kept c location devices d disk' oldDevices) : Ending archive (s, d, .error err) disk'
  | settingsReplaced {disk' : Disk} {s d : Store} {err : MapError}
      (hlate : s.durabilityErr.isSome = true)
      (hs : s.Has c location disk' (archive.settings.getD ∅))
      (hd : Kept c location devices d disk' oldDevices) :
      Ending archive (s, d, .error (.writeSettings err)) disk'
  | devicesReplaced {disk' : Disk} {s d : Store} {err : MapError} {recoveryPoint : Bytes}
      (hlate : d.durabilityErr.isSome = true)
      (hs : Kept c location settings s disk' oldSettings)
      (hd : d.Has c location disk' (archive.devices.getD ∅)) :
      Ending archive (s, d, .error (.writeDevices err recoveryPoint)) disk'
  | rollbackFailed {disk' : Disk} {s d : Store} {err rollbackErr : MapError}
      {recoveryPoint : Bytes} :
      Ending archive (s, d, .error (.rollback err rollbackErr recoveryPoint)) disk'
  | restored {disk' : Disk} {s d : Store} (result : RestoreResult)
      (hs : s.Has c location disk' (archive.settings.getD ∅))
      (hd : d.Has c location disk' (archive.devices.getD ∅)) :
      Ending archive (s, d, .ok result) disk'

theorem delivers_restoreDevices (hsound : c.Sound) {s d : Store} {restored : Values}
    (hsloaded : s.Loaded c location disk restored) (hdloaded : d.Loaded c location disk oldDevices)
    (hs : s.path ≠ location.path) (hd : d.path ≠ location.path) (hsd : s.path ≠ d.path)
    (hsholds : s.Has c location disk (archive.settings.getD ∅))
    (htext : TextValues (archive.devices.getD ∅)) (hold : TextValues oldSettings)
    (recoveryDir : Bytes) :
    (restoreDevices c location recoveryDir archive oldSettings s d).Delivers (fun _ => True)
      (Ending c location settings devices oldSettings oldDevices archive) disk := by
  refine Proc.delivers_bind ((delivers_replaceAll hdloaded (archive.devices.getD ∅)).mono
    fun write disk₁ hwrite => ?_)
  obtain ⟨d₁, err⟩ := write
  have hsfile := hwrite.frame hsd hs hd hsloaded.file
  cases err with
  | none =>
    refine .restored _ ⟨hsholds.1, _, hsfile, hsholds.1⟩ ?_
    exact hwrite.holds hsound hdloaded htext hd (.inl rfl)
  | some err =>
    have hsloaded₁ : s.Loaded c location disk₁ restored := { hsloaded with file := hsfile }
    refine Proc.delivers_bind ((delivers_replaceAll hsloaded₁ oldSettings).mono
      fun rollback disk₂ hrollback => ?_)
    obtain ⟨s₂, rollbackErr⟩ := rollback
    cases rollbackErr with
    | some rollbackErr => exact .rollbackFailed
    | none =>
      have hskept : Kept c location settings s₂ disk₂ oldSettings :=
        kept_of_holds (hrollback.holds hsound hsloaded₁ hold hs (.inl rfl))
      have hdpath : d₁.path = d.path := hwrite.alike.path
      have hframe {data : Bytes} (hfile : d₁.fileData c location disk₁ = some data) :
          d₁.fileData c location disk₂ = some data := by
        apply hrollback.frame _ _ hs hfile
        · rw [hdpath]
          exact hsd.symm
        · rw [hdpath]
          exact hd
      by_cases hlate : d₁.durabilityErr.isSome = true
      · obtain ⟨hmemory, data, hfile, hdata⟩ :=
          hwrite.holds hsound hdloaded htext hd (.inr hlate)
        exact .devicesReplaced hlate hskept ⟨hmemory, data, hframe hfile, hdata⟩
      · have hdkept : Kept c location devices d₁ disk₁ oldDevices :=
          hwrite.kept hdloaded hd hlate
        obtain ⟨data, hfile, hdata⟩ := hdkept.file
        exact .kept id hlate hskept ⟨⟨data, hframe hfile, hdata⟩, hdkept.memory⟩

theorem delivers_restoreArchive (hsound : c.Sound)
    (hsettings : Held c location settings disk oldSettings)
    (hdevices : Held c location devices disk oldDevices) (hapart : settings.path ≠ devices.path)
    (htext : archive.Text) (recoveryDir : Bytes) :
    (restoreArchive c location recoveryDir archive settings devices).Delivers (fun _ => True)
      (Ending c location settings devices oldSettings oldDevices archive) disk := by
  refine Proc.delivers_bind ((delivers_prepare hsettings hdevices).mono
    fun prepared disk₁ hprepared => ?_)
  cases hprepared with
  | failed hearly hs hd => exact .kept (hearly _).1 (hearly _).2 hs hd
  | @ready s d hs hsloaded hd hdloaded =>
    have hspath : s.path ≠ location.path := by
      rw [hs.path]
      exact hsettings.apart
    have hdpath : d.path ≠ location.path := by
      rw [hd.path]
      exact hdevices.apart
    have hsd : s.path ≠ d.path := by
      rw [hs.path, hd.path]
      exact hapart
    refine Proc.delivers_bind ((delivers_replaceAll hsloaded (archive.settings.getD ∅)).mono
      fun write disk₂ hwrite => ?_)
    obtain ⟨s₂, err⟩ := write
    have hdfile := hwrite.frame hsd.symm hdpath hspath hdloaded.file
    have hdkept : Kept c location devices d disk₂ oldDevices := kept_of_loaded hdloaded hdfile
    cases err with
    | some err =>
      by_cases hlate : s₂.durabilityErr.isSome = true
      · exact .settingsReplaced hlate
          (hwrite.holds hsound hsloaded htext.1 hspath (.inr hlate)) hdkept
      · exact .kept hlate id (hwrite.kept hsloaded hspath hlate) hdkept
    | none =>
      have hsholds := hwrite.holds hsound hsloaded htext.1 hspath (.inl rfl)
      obtain ⟨restored, hsloaded₂⟩ := hwrite.loaded hsound hsloaded htext.1 hspath
      have hdloaded₂ : d.Loaded c location disk₂ oldDevices := { hdloaded with file := hdfile }
      rw [← hwrite.alike.path] at hspath hsd
      exact delivers_restoreDevices hsound hsloaded₂ hdloaded₂ hspath hdpath hsd hsholds htext.2
        (textValues_of_parseMap hsloaded.values) recoveryDir

variable {old new : Values} {m before : Store}

theorem sameValues_of_holds {disk' : Disk} (h : m.Has c location disk' new)
    (hkept : Kept c location before m disk' old) : SameValues new old := by
  obtain ⟨_, data, hfile, read, hread, hnew⟩ := h
  obtain ⟨data', hfile', read', hread', hold⟩ := hkept.file
  cases hfile.symm.trans hfile'
  cases hread.symm.trans hread'
  intro key
  rw [← hnew key, hold key]

theorem kept_of_sameValues {disk' : Disk} (h : m.Has c location disk' new)
    (hsame : SameValues new old) : Kept c location before m disk' old := by
  have hrepresents {data : Bytes} (hdata : Represents data new) : Represents data old := by
    obtain ⟨read, hread, hnew⟩ := hdata
    exact ⟨read, hread, fun key => (hnew key).trans (hsame key)⟩
  obtain ⟨hmemory, data, hfile, hdata⟩ := h
  exact ⟨⟨data, hfile, hrepresents hdata⟩, fun _ => hrepresents hmemory⟩

/-- A restore that fails, with a rollback that does not, leaves both maps, exactly if no write
that fails late has brought another map. -/
theorem failed_restore_keeps_iff (hsound : c.Sound)
    (hsettings : Held c location settings disk oldSettings)
    (hdevices : Held c location devices disk oldDevices) (hapart : settings.path ≠ devices.path)
    (parseTime : Bytes → Option Time) (recoveryDir data : Bytes) (answers : Nat → Answer)
    {disk' : Disk} {settings' devices' : Store} {result : Except RestoreError RestoreResult}
    (hrun : (restoreBackup c location parseTime recoveryDir data settings devices).drive answers
      disk = (disk', settings', devices', result))
    {err : RestoreError} (herr : result = .error err)
    (hrollback : ∀ writeErr rollbackErr point, err ≠ .rollback writeErr rollbackErr point) :
    Kept c location settings settings' disk' oldSettings ∧
        Kept c location devices devices' disk' oldDevices ↔
      ∀ archive, validateArchive parseTime data = .ok archive →
        (err.LateSettings settings' → SameValues (archive.settings.getD ∅) oldSettings) ∧
        (err.LateDevices devices' → SameValues (archive.devices.getD ∅) oldDevices) := by
  unfold restoreBackup at hrun
  cases hvalid : validateArchive parseTime data with
  | error invalid =>
    rw [hvalid] at hrun
    cases hrun
    refine ⟨fun _ archive harchive => ?_, fun _ => ?_⟩
    · cases harchive
    · exact ⟨hsettings.kept (.refl _) rfl, hdevices.kept (.refl _) rfl⟩
  | ok archive =>
    rw [hvalid] at hrun
    have hending := (delivers_restoreArchive hsound hsettings hdevices hapart
      (text_of_validateArchive hvalid) recoveryDir).drive answers fun _ => trivial
    rw [hrun] at hending
    subst herr
    simp only [Except.ok.injEq, forall_eq']
    cases hending with
    | kept hs hd hskept hdkept =>
      exact ⟨fun _ => ⟨fun hlate => absurd hlate hs, fun hlate => absurd hlate hd⟩,
        fun _ => ⟨hskept, hdkept⟩⟩
    | settingsReplaced hlate hsholds hdkept =>
      constructor
      · intro hkept
        exact ⟨fun _ => sameValues_of_holds hsholds hkept.1, False.elim⟩
      · intro hsame
        exact ⟨kept_of_sameValues hsholds (hsame.1 hlate), hdkept⟩
    | devicesReplaced hlate hskept hdholds =>
      constructor
      · intro hkept
        exact ⟨False.elim, fun _ => sameValues_of_holds hdholds hkept.2⟩
      · intro hsame
        exact ⟨hskept, kept_of_sameValues hdholds (hsame.2 hlate)⟩
    | rollbackFailed => exact absurd rfl (hrollback _ _ _)

end Restores

end Restore

/-! ## A rename that fails, and a directory that is not synced -/

def devicesMap : Store where
  id := utf8 "GSDevices"
  encrypted := false
  validate data := (parseMap data).isSome

theorem held_empty {m : Store} (haccepted : storagePath m.id = .ok m.id)
    (hchecked : m.validate = fun data => (parseMap data).isSome)
    (hapart : m.path ≠ unmanagedKey.path) : Held clearCipher unmanagedKey m ∅ ∅ :=
  ⟨haccepted, hchecked, hapart, [], rfl, rfl⟩

def plainArchive (schema : String) : Bytes :=
  utf8 "\x7b\"format_version\":1,\"settings\":\x7b\"settings_schema_version\":\"" ++ utf8 schema ++
    utf8 "\"\x7d,\"devices\":\x7b\"assignments\":" ++
    utf8 "\"\x7b\\\"version\\\":2,\\\"assignments\\\":\x7b\x7d\x7d\"\x7d\x7d"

def plainContents (schema : String) : Archive where
  formatVersion := 1
  settings := some (AList.insert settingsSchemaKey (utf8 schema) ∅)
  devices := some (AList.insert deviceAssignmentsKey
    (utf8 "\x7b\"version\":2,\"assignments\":\x7b\x7d\x7d") ∅)

theorem validateArchive_first :
    validateArchive (fun _ => none) (plainArchive "1") = .ok (plainContents "1") := by
  decide +kernel

def failsAt (step n : Nat) : Answer := { steadyAnswer with fails := n = step }

def plainRestore (schema : String) (step : Nat) :
    Disk × Store × Store × Except RestoreError RestoreResult :=
  (restoreBackup clearCipher unmanagedKey (fun _ => none) (utf8 "recovery") (plainArchive schema)
    settingsMap devicesMap).drive (failsAt step) ∅

theorem plainRestore_eq {schema : String}
    (hvalid : validateArchive (fun _ => none) (plainArchive schema) = .ok (plainContents schema))
    (step : Nat) : plainRestore schema step =
      (restoreArchive clearCipher unmanagedKey (utf8 "recovery") (plainContents schema) settingsMap
        devicesMap).drive (failsAt step) ∅ := by
  unfold plainRestore restoreBackup
  rw [hvalid]

theorem held_settingsMap : Held clearCipher unmanagedKey settingsMap ∅ ∅ :=
  held_empty (by decide) rfl (by decide)

theorem held_devicesMap : Held clearCipher unmanagedKey devicesMap ∅ ∅ :=
  held_empty (by decide) rfl (by decide)

theorem failed_restore_keeps_rename :
    Kept clearCipher unmanagedKey settingsMap (plainRestore "1" 12).2.1 (plainRestore "1" 12).1 ∅ ∧
      Kept clearCipher unmanagedKey devicesMap (plainRestore "1" 12).2.2.1
        (plainRestore "1" 12).1 ∅ := by
  have hapart : settingsMap.path ≠ devicesMap.path := by decide +kernel
  have herr : (plainRestore "1" 12).2.2.2 =
      .error (.writeSettings (.store (.write false [.rename]))) := by
    rw [plainRestore_eq validateArchive_first]
    decide +kernel
  have hopen : (plainRestore "1" 12).2.1.durabilityErr = none := by
    rw [plainRestore_eq validateArchive_first]
    decide +kernel
  generalize hrun : plainRestore "1" 12 = run at herr hopen ⊢
  obtain ⟨disk', settings', devices', result⟩ := run
  apply (failed_restore_keeps_iff clearCipher_sound held_settingsMap held_devicesMap hapart _ _ _ _
    hrun herr nofun).mpr
  intro archive _
  refine ⟨fun hlate => ?_, False.elim⟩
  change settings'.durabilityErr.isSome = true at hlate
  rw [hopen] at hlate
  cases hlate

/-- The settings are replaced, and the restore fails. -/
theorem failed_restore_replaces_settings :
    (plainRestore "1" 13).2.2.2 =
        .error (.writeSettings (.store (.durability [.openDirectory]))) ∧
      (settingsMap.fileData clearCipher unmanagedKey ∅).bind parseMap = some ∅ ∧
      ((settingsMap.fileData clearCipher unmanagedKey (plainRestore "1" 13).1).bind parseMap).bind
        (·.lookup settingsSchemaKey) = some (utf8 "1") := by
  rw [plainRestore_eq validateArchive_first]
  refine ⟨?_, ?_, ?_⟩
  · decide +kernel
  · decide +kernel
  · decide +kernel

end GateSentry.Backup
