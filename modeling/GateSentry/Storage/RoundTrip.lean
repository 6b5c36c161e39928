import GateSentry.Storage.RotationSafety

/-!
# What is stored is what is loaded

What a write through a handle leaves on disk, and what a handle that is opened afterwards
finds there.
-/

namespace GateSentry.Storage

open Foundation ByteText StringObject

section RoundTrip

variable (c : Cipher) (location : KeyLocation)

namespace Store

def set (s : Store) (data : Bytes) : Files (Store × Option StoreError) :=
  s.persistLocked c location data

def persist (s : Store) : Files (Store × Option StoreError) := s.persistLocked c location s.data

/-- The payload of an envelope.  A legacy payload does not count, as loading replaces it. -/
def envelopeData (s : Store) (parsed : Envelope) (disk : Disk) : Option Bytes :=
  match decryptEnvelope c parsed (keysOnDisk location disk) s.id with
  | .ok (payload, false) => if s.validate payload then some payload else none
  | _ => none

def fileData (s : Store) (disk : Disk) : Option Bytes :=
  match disk.lookup s.path with
  | none => some []
  | some content =>
    match parseEnvelope content with
    | .error _ => none
    | .ok parsed =>
      if s.encrypted && !parsed.encrypted then none
      else s.envelopeData c location parsed disk

end Store

variable {c} {location}

variable {s : Store} {data : Bytes}

/-! ## Writing without failures -/

section Steady

variable {α : Type} {disk : Disk} {path : Bytes} {content : Content}

theorem delivers_unless {failed next : Files α} {post : α → Disk → Prop}
    (h : next.Delivers (·.fails = false) post disk) :
    (do if !(← attempt) then failed else next : Files α).Delivers (·.fails = false) post disk := by
  intro answer hanswer
  simp only [hanswer]
  exact h

variable {post : List FileStep → Disk → Prop}

theorem delivers_discardTemporary (h : post [] disk) :
    (discardTemporary true []).Delivers (·.fails = false) post disk := by
  intro answer hanswer
  simp only [hanswer]
  exact h

theorem delivers_writeTemporary {post : Option (List FileStep) → Disk → Prop}
    (h : post none disk) : writeTemporary.Delivers (·.fails = false) post disk := by
  apply delivers_unless
  apply delivers_unless
  apply delivers_unless
  apply delivers_unless
  apply delivers_unless
  exact h

theorem delivers_syncDirectory {joinsClose : Bool} (h : post [] disk) :
    (syncDirectory joinsClose).Delivers (·.fails = false) post disk := by
  apply delivers_unless
  apply delivers_unless
  apply delivers_unless
  exact h

theorem delivers_atomicWrite {post : Bool × List FileStep → Disk → Prop} (hpath : path ≠ [])
    (h : post (true, []) (disk.insert path content)) :
    (atomicWrite path content).Delivers (·.fails = false) post disk := by
  have hnonempty : path.isEmpty = false := by simpa using hpath
  refine Proc.delivers_bind (delivers_writeTemporary ?_)
  refine Proc.delivers_bind fun answer hanswer => ?_
  simp only [hanswer, hnonempty]
  refine Proc.delivers_bind (delivers_syncDirectory ?_)
  exact Proc.delivers_bind (delivers_discardTemporary h)

theorem delivers_atomicCreate {post : Creation → Disk → Prop} (hmissing : path ∉ disk)
    (h : post ⟨true, true, []⟩ (disk.insert path content)) :
    (atomicCreate path content).Delivers (·.fails = false) post disk := by
  refine Proc.delivers_bind (delivers_writeTemporary ?_)
  refine Proc.delivers_bind fun answer hanswer => ?_
  simp only [hanswer, hmissing]
  apply delivers_unless
  refine Proc.delivers_bind (delivers_syncDirectory ?_)
  exact Proc.delivers_bind (delivers_discardTemporary h)

def Loadable (location : KeyLocation) (disk : Disk) : Prop :=
  (keysOnDisk location disk).isSome = true ∨ Creatable location disk

variable {post : Except KeyError InstallationKeys → Disk → Prop}

theorem delivers_createKey (hcreatable : Creatable location disk)
    (hpost : ∀ keys disk', KeyAdded location disk disk' →
      keysOnDisk location disk' = some keys → post (.ok keys) disk') :
    (createInstallationKey location).Delivers (·.fails = false) post disk := by
  refine Proc.delivers_bind fun answer hanswer => ?_
  simp only [hanswer]
  refine Proc.delivers_bind (delivers_atomicCreate hcreatable.2.1 ?_)
  exact hpost _ _ (.inr ⟨_, hcreatable, rfl⟩) (keysOnDisk_insert_self (keysOfContent_bytes _))

theorem delivers_loadKeys_create (hloadable : Loadable location disk)
    (hpost : ∀ keys disk', KeyAdded location disk disk' →
      keysOnDisk location disk' = some keys → post (.ok keys) disk') :
    (loadInstallationKeys location true).Delivers (·.fails = false) post disk := by
  refine Proc.delivers_bind fun answer hanswer => ?_
  rcases hloadable with hsome | hcreatable
  · obtain ⟨keys, hkeys⟩ := Option.isSome_iff_exists.mp hsome
    obtain ⟨content, hfile, hcontent⟩ := Option.bind_eq_some_iff.mp hkeys
    have hok : keysOfContent content = .ok keys := by
      simpa [hcontent] using eq_ok_of_isSome (x := keysOfContent content) (by simp [hcontent]) keys
    simp only [hanswer, hfile, hok]
    exact hpost _ _ (.inl rfl) hkeys
  · have hfile := AList.lookup_eq_none.mpr hcreatable.2.1
    simp only [hanswer, hfile, hcreatable.1]
    refine Proc.delivers_bind fun answer hanswer => ?_
    have hstores : (disk.entries.filter fun entry =>
        entry.1 ≠ location.path && isKeyDependentEnvelope entry.2) = [] := by
      rw [List.filter_eq_nil_iff]
      intro entry hentry
      by_cases hpath : entry.1 = location.path
      · simp [hpath]
      · simp [hcreatable.2.2 entry hentry hpath]
    simp only [hanswer, hstores]
    exact delivers_createKey hcreatable hpost

theorem delivers_persistLocked {s : Store} {data : Bytes}
    {post : Store × Option StoreError → Disk → Prop} (hopen : s.loadErr = none)
    (hpath : s.path ≠ []) (hloadable : s.encrypted = true → Loadable location disk)
    (hpost : ∀ disk' content, s.Encodes c location data disk' content →
      post ({ s with data }, none) (disk'.insert s.path content)) :
    (s.persistLocked c location data).Delivers (·.fails = false) post disk := by
  have hencode : (encodeEnvelope c location data s.encrypted s.id).Delivers (·.fails = false)
      (fun result disk' => ∃ content, result = .ok content ∧
        s.Encodes c location data disk' content) disk := by
    unfold encodeEnvelope Store.Encodes
    cases hencrypted : s.encrypted with
    | false => exact ⟨_, rfl, rfl⟩
    | true =>
      refine Proc.delivers_bind (delivers_loadKeys_create (hloadable hencrypted)
        fun keys disk' _ hkeys => ?_)
      refine Proc.delivers_bind fun answer hanswer => ?_
      simp only [hanswer]
      exact ⟨_, rfl, keys, _, hkeys, rfl⟩
  unfold Store.persistLocked
  rw [hopen] at hpost ⊢
  refine Proc.delivers_bind (hencode.mono fun result disk' hresult => ?_)
  obtain ⟨content, rfl, hcontent⟩ := hresult
  exact Proc.delivers_bind (delivers_atomicWrite hpath (hpost disk' content hcontent))

end Steady

/-! ## Reading -/

theorem decryptEnvelope_encryptGCM (hsound : c.Sound) (data : Bytes) (keys : InstallationKeys)
    (name nonce : Bytes) :
    decryptEnvelope c ⟨encryptGCM c data keys.current name nonce, true, gcmEnvelopeVersion⟩
      (some keys) name = .ok (data, false) := by
  have hversion : gcmEnvelopeVersion.isEmpty = false := by decide
  unfold decryptEnvelope allKeys
  simp [hversion, decryptGCM_encryptGCM hsound]

theorem keysOfContent_sealedEnvelope (data : Bytes) (key : Key) (name nonce : Bytes) :
    ∃ err, keysOfContent (sealedEnvelope c data key name nonce) = .error err := by
  have hlength : (sealedEnvelope c data key name nonce).text.length ≠ keySize := by
    have hflag : (quote (utf8 "encrypted") ++ 58 :: quote (utf8 "true")).length +
        (quote (utf8 "version") ++ 58 :: quote gcmEnvelopeVersion).length >
          keySize := by decide
    unfold sealedEnvelope Content.text
    simp only [List.map_cons, separated, List.length_cons,
      List.length_append, Option.toList_none, List.map_nil, List.append_nil]
      at hflag ⊢
    omega
  unfold keysOfContent
  by_cases hlimit : (sealedEnvelope c data key name nonce).text.length > keyFileLimit
  · rw [if_pos hlimit]
    exact ⟨_, rfl⟩
  · rw [if_neg hlimit, dif_neg hlength]
    exact ⟨_, rfl⟩

def MayFail (allowed : Answer → Prop) : Prop := ∃ answer, allowed answer ∧ answer.fails = true

variable {allowed : Answer → Prop} {disk : Disk}

theorem delivers_readFile {path : Bytes} {post : Except Unit (Option Content) → Disk → Prop}
    (hfailed : MayFail allowed → post (.error ()) disk)
    (hpost : post (.ok (disk.lookup path)) disk) : (readFile path).Delivers allowed post disk := by
  intro answer hanswer
  cases hfails : answer.fails with
  | true =>
    simp only [hfails]
    exact hfailed ⟨answer, hanswer, hfails⟩
  | false =>
    simp only [hfails]
    exact hpost

section Keys

variable {post : Except KeyError InstallationKeys → Disk → Prop}

section

variable (hfailed : MayFail allowed → ∀ err, post (.error err) disk)

include hfailed

section

variable (hpost : ∀ result, result.toOption = keysOnDisk location disk → post result disk)

include hpost

theorem delivers_readKeys :
    (readInstallationKeys location.path).Delivers allowed post disk := by
  intro answer hanswer
  cases hfails : answer.fails with
  | true =>
    simp only [hfails]
    exact hfailed ⟨answer, hanswer, hfails⟩ _
  | false =>
    simp only [hfails]
    apply hpost
    unfold keysOnDisk
    cases disk.lookup location.path with
    | none | some => rfl

theorem delivers_loadKeys :
    (loadInstallationKeys location false).Delivers allowed post disk := by
  refine Proc.delivers_bind (delivers_readKeys (fun hmay err => ?_)
    fun result hresult => ?_)
  · split
    · split
      · exact hfailed hmay _
      · exact hfailed hmay _
    · exact hfailed hmay _
  · split
    · split
      · exact hpost _ hresult
      · exact hpost _ hresult
    · exact hpost _ hresult

end

end

end Keys

def Envelope.Current (parsed : Envelope) : Prop :=
  parsed.encrypted = true → parsed.version = gcmEnvelopeVersion

variable {parsed : Envelope}

theorem current_iff_of_decrypt {keys : Option InstallationKeys} {name payload : Bytes}
    {legacy : Bool} (h : decryptEnvelope c parsed keys name = .ok (payload, legacy)) :
    parsed.Current ↔ legacy = false := by
  unfold decryptEnvelope at h
  split at h
  · next hplain =>
    split_ifs at h
    cases h
    refine iff_of_true (fun hencrypted => ?_) rfl
    simp [hencrypted] at hplain
  · next hencrypted =>
    split at h
    · next hversion =>
      refine iff_of_false (fun hcurrent => ?_) ?_
      · rw [hcurrent (by simpa using hencrypted)] at hversion
        cases hversion
      · grind
    · split at h
      · cases h
      · next hversion =>
        refine iff_of_true (fun _ => not_not.mp hversion) ?_
        grind

theorem decryptEnvelope_plain (h : parsed.encrypted = false) (keys other : Option InstallationKeys)
    (name : Bytes) : decryptEnvelope c parsed keys name = decryptEnvelope c parsed other name := by
  unfold decryptEnvelope
  simp only [h, Bool.not_false, if_true]

theorem decryptEnvelope_noKeys (h : parsed.encrypted = true) (hcurrent : parsed.Current)
    (name : Bytes) : decryptEnvelope c parsed none name = .error .keyUnavailable := by
  have hversion : gcmEnvelopeVersion.isEmpty = false := by decide
  unfold decryptEnvelope
  simp [h, hcurrent h, hversion]

theorem delivers_keysFor (hcurrent : parsed.Current)
    {post : Except KeyError (Option InstallationKeys) → Disk → Prop}
    (hfailed : MayFail allowed ∨ parsed.encrypted = true ∧ keysOnDisk location disk = none →
      ∀ err, post (.error err) disk)
    (hpost : ∀ keys, (∀ name, decryptEnvelope c parsed keys name =
      decryptEnvelope c parsed (keysOnDisk location disk) name) → post (.ok keys) disk) :
    (Store.keysFor location parsed).Delivers allowed post disk := by
  unfold Store.keysFor
  cases hencrypted : parsed.encrypted with
  | false => exact hpost _ fun name => decryptEnvelope_plain hencrypted _ _ name
  | true =>
    simp only [hcurrent hencrypted]
    refine Proc.delivers_bind (delivers_loadKeys
      (fun hmay err => hfailed (.inl hmay) err) fun result hresult => ?_)
    cases result with
    | error err => exact hfailed (.inr ⟨hencrypted, hresult.symm⟩) _
    | ok keys => exact hpost _ fun name => by rw [← hresult]; rfl

section Load

variable {post : Store × Option StoreError → Disk → Prop} {s : Store} {parsed : Envelope}

theorem delivers_loadEnvelope (hcurrent : parsed.Current)
    (hfailed : MayFail allowed ∨ s.envelopeData c location parsed disk = none → ∀ err,
      post (s.failedLoad err) disk)
    (hloaded : ∀ payload, s.envelopeData c location parsed disk = some payload →
      post (s.loaded payload) disk) :
    (s.loadEnvelope c location parsed).Delivers allowed post disk := by
  unfold Store.envelopeData at hfailed hloaded
  refine Proc.delivers_bind (delivers_keysFor (c := c) hcurrent (fun hnone err => ?_)
    fun keys hkeys => ?_)
  · rcases hnone with hmay | ⟨hencrypted, hnone⟩
    · exact hfailed (.inl hmay) _
    · rw [hnone, decryptEnvelope_noKeys hencrypted hcurrent] at hfailed
      exact hfailed (.inr rfl) _
  · simp only [hkeys]
    cases hdecrypt : decryptEnvelope c parsed (keysOnDisk location disk) s.id with
    | error err =>
      rw [hdecrypt] at hfailed
      exact hfailed (.inr rfl) _
    | ok result =>
      obtain ⟨payload, legacy⟩ := result
      obtain rfl := (current_iff_of_decrypt hdecrypt).mp hcurrent
      rw [hdecrypt] at hfailed hloaded
      simp only at hfailed hloaded ⊢
      cases hvalid : s.validate payload with
      | false => exact hfailed (.inr (by rw [hvalid]; rfl)) _
      | true => exact hloaded payload (by rw [hvalid]; rfl)

theorem delivers_loadLocked {content : Content} (hquarantine : s.durabilityErr = none)
    (hfile : disk.lookup s.path = some content) (hparse : parseEnvelope content = .ok parsed)
    (hcurrent : parsed.Current)
    (hfailed : MayFail allowed ∨ s.fileData c location disk = none → ∀ err,
      post (s.failedLoad err) disk)
    (hloaded : ∀ payload, s.fileData c location disk = some payload →
      post (s.loaded payload) disk) : (s.loadLocked c location).Delivers allowed post disk := by
  unfold Store.fileData at hfailed hloaded
  simp only [hfile, hparse] at hfailed hloaded
  unfold Store.loadLocked
  rw [hquarantine]
  refine Proc.delivers_bind (delivers_readFile (fun hmay => hfailed (.inl hmay) _) ?_)
  simp only [hfile, hparse]
  cases hplain : s.encrypted && !parsed.encrypted with
  | true =>
    rw [hplain] at hfailed
    exact hfailed (.inr rfl) _
  | false =>
    simp only [hplain] at hfailed hloaded ⊢
    exact delivers_loadEnvelope hcurrent hfailed hloaded

end Load

/-! ## Round trips -/

theorem Store.path_of_accepted (h : storagePath s.id = .ok s.id) : s.path = s.id := by
  rw [Store.path, h]
  rfl

/-- The payload survives: an encrypted store is not the key file, and what is stored as
plain text is text that does not look encrypted. -/
def Store.Keeps (location : KeyLocation) (s : Store) (data : Bytes) : Prop :=
  if s.encrypted then s.path ≠ location.path
  else ValidUTF8 data ∧ ¬ gcmPayloadPrefix <+: data

theorem fileData_sealed (hsound : c.Sound) {nonce : Bytes}
    {keys : InstallationKeys} (hkeys : keysOnDisk location disk = some keys) :
    s.fileData c location
        (disk.insert s.path (sealedEnvelope c data keys.current s.id nonce)) =
      if s.path ≠ location.path ∧ s.validate data = true then some data else none := by
  unfold Store.fileData Store.envelopeData
  rw [AList.lookup_insert]
  simp only [parse_sealedEnvelope hsound]
  by_cases hpath : s.path = location.path
  · obtain ⟨err, herr⟩ := keysOfContent_sealedEnvelope (c := c) data keys.current s.id nonce
    have hnone : keysOnDisk location
        (disk.insert s.path (sealedEnvelope c data keys.current s.id nonce)) = none := by
      unfold keysOnDisk
      rw [hpath, AList.lookup_insert, Option.bind_some, herr]
      rfl
    rw [hnone, decryptEnvelope_noKeys rfl fun _ => rfl]
    simp [hpath]
  · rw [keysOnDisk_insert_of_ne hpath, hkeys, decryptEnvelope_encryptGCM hsound]
    simp [hpath]

theorem fileData_plain (hplain : s.encrypted = false) :
    s.fileData c location (disk.insert s.path (plainEnvelope data)) =
      if ¬ gcmPayloadPrefix <+: toValidUTF8 data ∧ s.validate (toValidUTF8 data) = true then
        some (toValidUTF8 data) else none := by
  have hparse : parseEnvelope (plainEnvelope data) = .ok ⟨toValidUTF8 data, false, []⟩ := rfl
  unfold Store.fileData Store.envelopeData
  rw [AList.lookup_insert]
  simp only [hparse, hplain]
  unfold decryptEnvelope
  by_cases hmarked : gcmPayloadPrefix <+: toValidUTF8 data
  · simp [hmarked]
  · simp [hmarked]

variable {content : Content}

theorem Store.Encodes.fileData_iff (hsound : c.Sound)
    (h : s.Encodes c location data disk content) :
    s.fileData c location (disk.insert s.path content) = some data ↔
      s.Keeps location data ∧ s.validate data = true := by
  unfold Store.Encodes at h
  unfold Store.Keeps
  cases hencrypted : s.encrypted with
  | true =>
    rw [hencrypted] at h
    obtain ⟨keys, nonce, hkeys, rfl⟩ := h
    rw [fileData_sealed hsound hkeys]
    simp
  | false =>
    rw [hencrypted] at h
    obtain rfl := h
    rw [fileData_plain hencrypted]
    simp only [Option.ite_none_right_eq_some, Option.some.injEq]
    constructor
    · rintro ⟨⟨hmarked, hvalid⟩, hdata⟩
      rw [hdata] at hmarked hvalid
      exact ⟨⟨hdata, hmarked⟩, hvalid⟩
    · rintro ⟨⟨hdata, hmarked⟩, hvalid⟩
      rw [hdata]
      exact ⟨⟨hmarked, hvalid⟩, rfl⟩

theorem Store.Encodes.current (hsound : c.Sound) (h : s.Encodes c location data disk content) :
    ∃ parsed, parseEnvelope content = .ok parsed ∧ parsed.Current := by
  unfold Store.Encodes at h
  cases hencrypted : s.encrypted with
  | true =>
    rw [hencrypted] at h
    obtain ⟨keys, nonce, _, rfl⟩ := h
    exact ⟨_, parse_sealedEnvelope hsound _ _ _ _, fun _ => rfl⟩
  | false =>
    rw [hencrypted] at h
    obtain rfl := h
    exact ⟨⟨toValidUTF8 data, false, []⟩, rfl, nofun⟩

def steadyAnswer : Answer := ⟨false, ⟨List.replicate keySize 0, rfl⟩⟩

theorem delivers_openStore_iff (hsound : c.Sound) (hname : storagePath s.id = .ok s.id)
    (hcontent : s.Encodes c location data disk content) :
    (openStore c location s.id s.encrypted fun _ => true).Delivers (·.fails = false)
        (fun result _ => result.2 = none ∧ result.1.data = data) (disk.insert s.path content) ↔
      s.Keeps location data := by
  let opened : Store := { id := s.id, encrypted := s.encrypted, validate := fun _ => true }
  have hiff : opened.fileData c location (disk.insert s.path content) = some data ↔
      s.Keeps location data := by
    have hencodes : opened.Encodes c location data disk content := hcontent
    exact (hencodes.fileData_iff hsound).trans (and_iff_left rfl)
  have hopen : openStore c location s.id s.encrypted (fun _ => true) =
      opened.loadLocked c location := by
    unfold openStore
    rw [hname]
  obtain ⟨parsed, hparse, hcurrent⟩ := hcontent.current hsound
  have hfile : (disk.insert s.path content).lookup opened.path = some content :=
    AList.lookup_insert disk
  rw [hopen, ← hiff]
  constructor
  · intro h
    have hfound : (opened.loadLocked c location).Delivers (·.fails = false)
        (fun result _ => result.2 = none →
          opened.fileData c location (disk.insert s.path content) = some result.1.data)
        (disk.insert s.path content) :=
      delivers_loadLocked rfl hfile hparse hcurrent (fun _ err hnone => nomatch hnone)
        fun payload hpayload _ => hpayload
    have hsteady : steadyAnswer.fails = false := rfl
    have hresult := h.finish hsteady
    rw [← hresult.2]
    exact hfound.finish hsteady hresult.1
  · intro hdata
    apply delivers_loadLocked rfl hfile hparse hcurrent
    · rintro (⟨answer, hallowed, hfails⟩ | hnone)
      · cases hallowed.symm.trans hfails
      · cases hnone.symm.trans hdata
    · intro payload hpayload
      rw [hdata] at hpayload
      cases hpayload
      exact ⟨rfl, rfl⟩

/-- A payload that was set is what a handle opened afterwards finds, exactly if it survives
its envelope. -/
theorem set_reopen_iff (hsound : c.Sound) {s : Store} (hname : storagePath s.id = .ok s.id)
    (payload : Bytes) (answers : List Answer)
    (hset : ((s.set c location payload).run answers disk).2.map Prod.snd = some none) :
    (openStore c location s.id s.encrypted fun _ => true).Delivers (·.fails = false)
        (fun result _ => result.2 = none ∧ result.1.data = payload)
        ((s.set c location payload).run answers disk).1 ↔
      s.Keeps location payload := by
  obtain ⟨⟨s', err⟩, hresult, rfl⟩ := Option.map_eq_some_iff.mp hset
  have hpersisted : s.Persisted c location payload disk (s', none)
      ((s.set c location payload).run answers disk).1 :=
    (ensures_persisted s payload disk).run (Prod.ext rfl hresult)
  generalize ((s.set c location payload).run answers disk).1 = disk' at hpersisted ⊢
  cases hpersisted with
  | written hkeys hcontent => exact delivers_openStore_iff hsound hname hcontent

end RoundTrip

/-! ## Payloads that survive, and others -/

def notesStore : Store := { id := utf8 "notes", encrypted := false }

def afterSet (s : Store) (payload : Bytes) : Disk :=
  ((s.set clearCipher unmanagedKey payload).run (answersOf 1 40) ∅).1

theorem set_reopen_text :
    (openStore clearCipher unmanagedKey notesStore.id notesStore.encrypted
        fun _ => true).Delivers (·.fails = false)
      (fun result _ => result.2 = none ∧ result.1.data = utf8 "é") (afterSet notesStore (utf8 "é")) ↔
    notesStore.Keeps unmanagedKey (utf8 "é") :=
  set_reopen_iff clearCipher_sound (by decide) _ _ (by decide +kernel)

/-- A payload that is not text comes back changed, and one that looks encrypted does not
come back. -/
theorem set_reopen_changed :
    (((notesStore.set clearCipher unmanagedKey [0xff]).run (answersOf 1 40) ∅).2.map
        Prod.snd = some none ∧
      ((openStore clearCipher unmanagedKey notesStore.id false fun _ => true).finish
        steadyAnswer (afterSet notesStore [0xff])).2.1.data = utf8 "\ufffd") ∧
    (((notesStore.set clearCipher unmanagedKey gcmPayloadPrefix).run (answersOf 1 40) ∅).2.map
        Prod.snd = some none ∧
      ((openStore clearCipher unmanagedKey notesStore.id false fun _ => true).finish
        steadyAnswer (afterSet notesStore gcmPayloadPrefix)).2.2 =
          some (.decrypt .markedPlaintext)) := by
  decide +kernel

end GateSentry.Storage
