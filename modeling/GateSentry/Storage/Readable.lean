import GateSentry.Storage.Store

/-!
# Encrypted stores stay readable

Every write, rotation and pruning keeps the stores readable with the keyring on disk, in
every state that it passes through, except for a store in the place of the key file.
-/

namespace GateSentry.Storage

open Foundation ByteText

section Readable

variable (c : Cipher) (location : KeyLocation)

def keysOnDisk (disk : Disk) : Option InstallationKeys :=
  (disk.lookup location.path).bind fun content => (keysOfContent content).toOption

def Opens (keys : Option InstallationKeys) (name : Bytes) (content : Content) : Prop :=
  ∀ parsed, parseEnvelope content = .ok parsed → parsed.encrypted = true →
    ∃ result, decryptEnvelope c parsed keys name = .ok result

def Readable (disk : Disk) : Prop :=
  ∀ name content, storagePath name = .ok name → disk.lookup name = some content →
    Opens c (keysOnDisk location disk) name content

/-! ## Decryption -/

variable {c} {location} {content : Content} {keys : Option InstallationKeys} {name : Bytes}

theorem Opens.mono {more : InstallationKeys} (h : Opens c keys name content)
    (hkeys : ∀ known, keys = some known → allKeys known ⊆ allKeys more) :
    Opens c (some more) name content := by
  intro parsed hparsed hencrypted
  obtain ⟨result, hresult⟩ := h parsed hparsed hencrypted
  unfold decryptEnvelope at hresult ⊢
  simp only [hencrypted, Bool.not_true, Bool.false_eq_true, if_false] at hresult ⊢
  split at hresult
  · next hlegacy =>
    rw [if_pos hlegacy]
    exact ⟨result, hresult⟩
  · next hversion =>
    rw [if_neg hversion]
    split at hresult
    · cases hresult
    · next hgcm =>
      rw [if_neg hgcm]
      cases keys with
      | none => cases hresult
      | some known =>
        dsimp only at hresult ⊢
        split at hresult
        · cases hresult
        · next plaintext hfound =>
          obtain ⟨key, hkey, hopens⟩ := List.exists_of_findSome?_eq_some hfound
          have hsome : ((allKeys more).findSome?
              (decryptGCM c parsed.data · name)).isSome = true := by
            rw [List.findSome?_isSome_iff]
            exact ⟨key, hkeys known rfl hkey, by rw [hopens]; rfl⟩
          obtain ⟨other, hother⟩ := Option.isSome_iff_exists.mp hsome
          rw [hother]
          exact ⟨_, rfl⟩

variable {err : EnvelopeError}

theorem opens_of_parse_error (h : parseEnvelope content = .error err) :
    Opens c keys name content := by
  intro parsed hparsed
  cases h.symm.trans hparsed

section

variable (hsound : c.Sound)

include hsound

theorem toValidUTF8_encryptGCM (data : Bytes) (key : Key) (name nonce : Bytes) :
    toValidUTF8 (encryptGCM c data key name nonce) = encryptGCM c data key name nonce := by
  apply toValidUTF8_of_ascii
  intro b hb
  rcases List.mem_append.mp hb with hmarker | hpayload
  · have hall : ∀ b ∈ gcmPayloadPrefix, b < 0x80 := by decide +kernel
    exact hall b hmarker
  · exact hsound.ascii _ _ _ _ b hpayload

theorem parse_sealedEnvelope (data : Bytes) (key : Key) (name nonce : Bytes) :
    parseEnvelope (sealedEnvelope c data key name nonce) =
      .ok ⟨encryptGCM c data key name nonce, true, gcmEnvelopeVersion⟩ := by
  unfold sealedEnvelope
  rw [toValidUTF8_encryptGCM hsound]
  rfl

theorem decryptGCM_encryptGCM (data : Bytes) (key : Key) (name nonce : Bytes) :
    decryptGCM c (encryptGCM c data key name nonce) key name = some data := by
  unfold decryptGCM encryptGCM cutPrefix
  simp [hsound.open_seal]

theorem opens_sealedEnvelope {keys : InstallationKeys} {key : Key} (hkey : key ∈ allKeys keys)
    (data name nonce : Bytes) :
    Opens c (some keys) name (sealedEnvelope c data key name nonce) := by
  intro parsed hparsed _
  cases (parse_sealedEnvelope hsound data key name nonce).symm.trans hparsed
  have hsome : ((allKeys keys).findSome?
      (decryptGCM c (encryptGCM c data key name nonce) · name)).isSome = true := by
    rw [List.findSome?_isSome_iff]
    exact ⟨key, hkey, by rw [decryptGCM_encryptGCM hsound]; rfl⟩
  obtain ⟨plaintext, hplaintext⟩ := Option.isSome_iff_exists.mp hsome
  unfold decryptEnvelope
  simp only [hplaintext]
  exact ⟨_, rfl⟩

end

theorem opens_plainEnvelope (data : Bytes) : Opens c keys name (plainEnvelope data) := by
  intro parsed hparsed hencrypted
  cases hparsed
  cases hencrypted

/-! ## Changes of the disk -/

variable {disk : Disk} {path : Bytes}

theorem keysOnDisk_insert_of_ne (hpath : path ≠ location.path) (content : Content) :
    keysOnDisk location (disk.insert path content) = keysOnDisk location disk := by
  unfold keysOnDisk
  rw [AList.lookup_insert_ne hpath.symm]

variable {keys : InstallationKeys}

theorem keysOnDisk_insert_self (h : keysOfContent content = .ok keys) :
    keysOnDisk location (disk.insert location.path content) = some keys := by
  unfold keysOnDisk
  rw [AList.lookup_insert, Option.bind_some, h]
  rfl

theorem Readable.insert_store (h : Readable c location disk)
    (hpath : path ≠ location.path) (hcontent : Opens c (keysOnDisk location disk) path content) :
    Readable c location (disk.insert path content) := by
  intro name stored hname hstored
  rw [keysOnDisk_insert_of_ne hpath]
  rcases Dict.lookup_of_insert hstored with ⟨rfl, rfl⟩ | ⟨-, hold⟩
  · exact hcontent
  · exact h name stored hname hold

theorem readable_insert_keys (hkeys : keysOfContent content = .ok keys)
    (hparse : parseEnvelope content = .error err)
    (hopens : ∀ name stored, storagePath name = .ok name → disk.lookup name = some stored →
      Opens c (some keys) name stored) :
    Readable c location (disk.insert location.path content) := by
  intro name stored hname hstored
  rw [keysOnDisk_insert_self hkeys]
  rcases Dict.lookup_of_insert hstored with ⟨-, rfl⟩ | ⟨-, hold⟩
  · exact opens_of_parse_error hparse
  · exact hopens name stored hname hold

theorem parse_encodeKeyring (keys : InstallationKeys) :
    ∃ err, parseEnvelope (encodeKeyring keys) = .error err := by
  unfold encodeKeyring
  cases keys.previous.isEmpty with
  | true => exact ⟨.missingData, rfl⟩
  | false => exact ⟨.parse, rfl⟩

theorem keysOfContent_bytes (key : Key) : keysOfContent (.bytes key.val) = .ok ⟨key, []⟩ := by
  have hlength : (Content.bytes key.val).text.length = keySize := key.property
  have hlimit : ¬ (Content.bytes key.val).text.length > keyFileLimit := by
    rw [hlength]
    decide
  unfold keysOfContent
  rw [if_neg hlimit, dif_pos hlength]
  rfl

/-! ## Loading keys -/

def Loaded (location : KeyLocation) (result : Except KeyError InstallationKeys)
    (disk : Disk) : Prop :=
  ∀ keys, result = .ok keys → keysOnDisk location disk = some keys

section Programs

variable {inv : Disk → Prop} {disk : Disk}
  {post : Except KeyError InstallationKeys → Disk → Prop}

theorem keysOfContent_ne_missing (content : Content) :
    keysOfContent content ≠ .error .missing := by
  have hprevious (position : Nat) (keys : List Bytes) :
      decodePrevious position keys ≠ .error .missing := by
    induction keys generalizing position with
    | nil =>
      intro h
      cases h
    | cons encoded rest ih =>
      rw [decodePrevious]
      split
      · intro h
        cases h
      · exact map_ne_error (ih _) _
  unfold keysOfContent
  dsimp only
  split
  · intro h
    cases h
  · split
    · intro h
      cases h
    · split
      · intro h
        cases h
      · split
        · intro h
          cases h
        · split
          · intro h
            cases h
          · exact map_ne_error (hprevious _ _) _

theorem ensures_readInstallationKeys (hinv : inv disk)
    (hpost : ∀ result, Loaded location result disk →
      (result = .error .missing → location.path ∉ disk) → post result disk) :
    (readInstallationKeys location.path).Ensures inv post disk := by
  refine Proc.ensures_look hinv fun answer => hpost _ (fun keys hkeys => ?_) fun hmissing => ?_
  · split at hkeys
    · cases hkeys
    · split at hkeys
      · cases hkeys
      · next content hcontent =>
        unfold keysOnDisk
        rw [hcontent, Option.bind_some, hkeys]
        rfl
  · split at hmissing
    · cases hmissing
    · split at hmissing
      · next hnone => exact AList.lookup_eq_none.mp hnone
      · exact absurd hmissing (keysOfContent_ne_missing _)

theorem loaded_error (err : KeyError) : Loaded location (.error err) disk := by
  intro keys hkeys
  cases hkeys

theorem ensures_loadKeys_existing (hinv : inv disk)
    (hpost : ∀ result, Loaded location result disk → post result disk) :
    (loadInstallationKeys location false).Ensures inv post disk := by
  refine Proc.ensures_bind (ensures_readInstallationKeys hinv fun result hloaded _ => ?_)
  split
  · split
    · exact Proc.ensures_pure hinv (hpost _ (loaded_error _))
    · exact Proc.ensures_pure hinv (hpost _ (loaded_error _))
  · exact Proc.ensures_pure hinv (hpost _ hloaded)

def Creatable (location : KeyLocation) (disk : Disk) : Prop :=
  location.managed = false ∧ location.path ∉ disk ∧
    ∀ entry ∈ disk.entries, entry.1 ≠ location.path → isKeyDependentEnvelope entry.2 = false

def KeyAdded (location : KeyLocation) (disk disk' : Disk) : Prop :=
  disk' = disk ∨ ∃ key : Key, Creatable location disk ∧
    disk' = disk.insert location.path (.bytes key.val)

theorem ensures_createKey (hcreatable : Creatable location disk)
    (hinv : ∀ disk', KeyAdded location disk disk' → inv disk')
    (hpost : ∀ result disk', KeyAdded location disk disk' → Loaded location result disk' →
      post result disk') : (createInstallationKey location).Ensures inv post disk := by
  have hkept : KeyAdded location disk disk := .inl rfl
  refine Proc.ensures_bind (Proc.yields_look _ (hinv _ hkept) fun random _ => ?_)
  cases random with
  | none => exact Proc.ensures_pure (hinv _ hkept) (hpost _ _ hkept (loaded_error _))
  | some key =>
    have hnew : KeyAdded location disk (disk.insert location.path (.bytes key.val)) :=
      .inr ⟨key, hcreatable, rfl⟩
    refine Proc.ensures_bind (ensures_atomicCreate (hinv _ hkept) (fun _ => hinv _ hnew)
      (fun errors => ?_) fun _ errors => ?_)
    · split
      · exact Proc.ensures_pure (hinv _ hkept) (hpost _ _ hkept (loaded_error _))
      · exact ensures_readInstallationKeys (hinv _ hkept) fun result hloaded _ =>
          hpost _ _ hkept hloaded
    · split
      · exact Proc.ensures_pure (hinv _ hnew) (hpost _ _ hnew (loaded_error _))
      · refine Proc.ensures_pure (hinv _ hnew) (hpost _ _ hnew fun keys hkeys => ?_)
        cases hkeys
        exact keysOnDisk_insert_self (keysOfContent_bytes key)

theorem ensures_loadKeys (hinv : ∀ disk', KeyAdded location disk disk' → inv disk')
    (hpost : ∀ result disk', KeyAdded location disk disk' → Loaded location result disk' →
      post result disk') : (loadInstallationKeys location true).Ensures inv post disk := by
  have hkept : KeyAdded location disk disk := .inl rfl
  have hsame := hinv _ hkept
  refine Proc.ensures_bind (ensures_readInstallationKeys hsame fun result hloaded hmissing => ?_)
  split
  · split
    · exact Proc.ensures_pure hsame (hpost _ _ hkept (loaded_error _))
    · next hmanaged =>
      refine Proc.ensures_bind (Proc.ensures_look hsame fun answer => ?_)
      split
      · exact Proc.ensures_pure hsame (hpost _ _ hkept (loaded_error _))
      · next hstores =>
        refine ensures_createKey ⟨by simpa using hmanaged, hmissing rfl, ?_⟩
          hinv hpost
        intro entry hentry hpath
        split at hstores
        · cases hstores
        · simp only [Except.ok.injEq, List.map_eq_nil_iff, List.filter_eq_nil_iff,
            Bool.and_eq_true, decide_eq_true_eq, not_and, Bool.not_eq_true] at hstores
          exact hstores entry hentry hpath
      · refine Proc.ensures_bind (ensures_readInstallationKeys hsame fun result hloaded _ => ?_)
        split
        · exact Proc.ensures_pure hsame (hpost _ _ hkept (loaded_error _))
        · exact Proc.ensures_pure hsame (hpost _ _ hkept hloaded)
  · exact Proc.ensures_pure hsame (hpost _ _ hkept hloaded)

theorem Readable.keyAdded {disk' : Disk} (h : Readable c location disk)
    (hadded : KeyAdded location disk disk') : Readable c location disk' := by
  rcases hadded with rfl | ⟨key, ⟨_, hmissing, _⟩, rfl⟩
  · exact h
  · have hnone : keysOnDisk location disk = none := by
      unfold keysOnDisk
      rw [AList.lookup_eq_none.mpr hmissing]
      rfl
    apply readable_insert_keys (keysOfContent_bytes key) rfl
    intro name stored hname hstored
    apply (h name stored hname hstored).mono
    intro known hknown
    cases hnone.symm.trans hknown

theorem ensures_loadKeys_readable (h : Readable c location disk)
    (hpost : ∀ result disk', Readable c location disk' → Loaded location result disk' →
      post result disk') :
    (loadInstallationKeys location true).Ensures (Readable c location) post disk :=
  ensures_loadKeys (fun _ hadded => h.keyAdded hadded)
    fun result disk' hadded hloaded => hpost result disk' (h.keyAdded hadded) hloaded

end Programs

/-! ## Writing stores -/

theorem storagePath_ok (h : storagePath name = .ok path) : path = name := by
  unfold storagePath at h
  dsimp only at h
  split at h
  · cases h
  · split at h
    · cases h
    · cases h
      rfl

theorem Store.path_eq_id {s : Store} (h : s.path ≠ []) : s.path = s.id := by
  unfold Store.path at h ⊢
  cases hpath : storagePath s.id with
  | error err =>
    rw [hpath] at h
    exact absurd rfl h
  | ok path => exact storagePath_ok hpath

theorem ensures_storeWrite {post : Bool × List FileStep → Disk → Prop}
    (h : Readable c location disk) (hpath : path ≠ location.path)
    (hname : path ≠ [] → path = name) (hopens : Opens c (keysOnDisk location disk) name content)
    (hpost : ∀ value disk', Readable c location disk' →
      disk'.lookup location.path = disk.lookup location.path → post value disk') :
    (atomicWrite path content).Ensures (Readable c location) post disk := by
  have hnew (hne : path ≠ []) : Readable c location (disk.insert path content) := by
    apply h.insert_store hpath
    rw [hname hne]
    exact hopens
  exact ensures_atomicWrite h hnew (fun errors _ => hpost _ _ h rfl)
    fun hne errors => hpost _ _ (hnew hne) (AList.lookup_insert_ne hpath.symm)

namespace Store

section

variable (c location)

def Encodes (s : Store) (data : Bytes) (disk : Disk) (content : Content) : Prop :=
  if s.encrypted then
    ∃ keys nonce, keysOnDisk location disk = some keys ∧
      content = sealedEnvelope c data keys.current s.id nonce
  else content = plainEnvelope data

def Keyed (s : Store) (disk disk' : Disk) : Prop :=
  disk' = disk ∨ s.encrypted = true ∧ KeyAdded location disk disk'

inductive Persisted (s : Store) (data : Bytes) (disk : Disk) :
    Store × Option StoreError → Disk → Prop where
  | refused {disk' : Disk} (err : StoreError) (hkeys : s.Keyed location disk disk') :
      Persisted s data disk (s, some err) disk'
  | written {disk' : Disk} {content : Content} (hkeys : s.Keyed location disk disk')
      (hcontent : s.Encodes c location data disk' content) :
      Persisted s data disk ({ s with data }, none) (disk'.insert s.path content)
  | uncertain {disk' : Disk} {content : Content} (hkeys : s.Keyed location disk disk')
      (hcontent : s.Encodes c location data disk' content) (errors : List FileStep) :
      Persisted s data disk ({ s with data, durabilityErr := some errors },
        some (.durability errors)) (disk'.insert s.path content)

end

end Store

section Persisting

variable {s : Store} {data : Bytes} {disk disk' : Disk} {inv : Disk → Prop}

theorem Store.Keyed.added (h : s.Keyed location disk disk') : KeyAdded location disk disk' := by
  rcases h with hsame | ⟨_, hadded⟩
  · exact .inl hsame
  · exact hadded

section

variable (hinv : ∀ disk', s.Keyed location disk disk' → inv disk')

include hinv

theorem ensures_encodeEnvelope {post : Except StoreError Content → Disk → Prop}
    (hfailed : ∀ err disk', s.Keyed location disk disk' → post (.error err) disk')
    (hpost : ∀ content disk', s.Keyed location disk disk' →
      s.Encodes c location data disk' content → post (.ok content) disk') :
    (encodeEnvelope c location data s.encrypted s.id).Ensures inv post disk := by
  cases hencrypted : s.encrypted with
  | false =>
    refine Proc.ensures_pure (hinv _ (.inl rfl)) (hpost _ _ (.inl rfl) ?_)
    rw [Store.Encodes, hencrypted]
    rfl
  | true =>
    refine Proc.ensures_bind (ensures_loadKeys
      (fun _ hadded => hinv _ (.inr ⟨hencrypted, hadded⟩)) fun result disk' hadded hloaded => ?_)
    have hkeyed : s.Keyed location disk disk' := .inr ⟨hencrypted, hadded⟩
    have hheld := hinv _ hkeyed
    cases result with
    | error err => exact Proc.ensures_pure hheld (hfailed _ _ hkeyed)
    | ok keys =>
      refine Proc.ensures_bind (Proc.ensures_look hheld fun answer => ?_)
      cases hfails : answer.fails with
      | true => exact Proc.ensures_pure hheld (hfailed _ _ hkeyed)
      | false =>
        refine Proc.ensures_pure hheld (hpost _ _ hkeyed ?_)
        rw [Store.Encodes, hencrypted]
        exact ⟨keys, _, hloaded keys rfl, rfl⟩

theorem ensures_persisting (hwritten : ∀ disk' content, s.Keyed location disk disk' →
      s.Encodes c location data disk' content → s.path ≠ [] → inv (disk'.insert s.path content)) :
    (s.persistLocked c location data).Ensures inv (s.Persisted c location data disk) disk := by
  unfold Store.persistLocked
  split
  · exact Proc.ensures_pure (hinv _ (.inl rfl)) (.refused _ (.inl rfl))
  · refine Proc.ensures_bind (ensures_encodeEnvelope hinv (fun err disk' hkeys =>
      Proc.ensures_pure (hinv _ hkeys) (.refused _ hkeys)) fun content disk' hkeys hcontent => ?_)
    have hnew := hwritten _ _ hkeys hcontent
    refine Proc.ensures_bind (ensures_atomicWrite (hinv _ hkeys) hnew
      (fun errors _ => Proc.ensures_pure (hinv _ hkeys) (.refused _ hkeys)) fun hne errors => ?_)
    cases errors with
    | nil => exact Proc.ensures_pure (hnew hne) (.written hkeys hcontent)
    | cons step rest => exact Proc.ensures_pure (hnew hne) (.uncertain hkeys hcontent _)

end

theorem ensures_persisted (s : Store) (data : Bytes) (disk : Disk) :
    (s.persistLocked c location data).Ensures (fun _ => True)
      (s.Persisted c location data disk) disk :=
  ensures_persisting (fun _ _ => trivial) fun _ _ _ _ _ => trivial

theorem Store.Encodes.opens (hsound : c.Sound) (h : s.Encodes c location data disk content) :
    Opens c (keysOnDisk location disk) s.id content := by
  unfold Store.Encodes at h
  split at h
  · obtain ⟨keys, nonce, hkeys, rfl⟩ := h
    rw [hkeys]
    exact opens_sealedEnvelope hsound List.mem_cons_self data s.id nonce
  · rw [h]
    exact opens_plainEnvelope data

end Persisting

section Writes

variable (hsound : c.Sound) {disk : Disk}
include hsound

theorem ensures_encodeWithKey {inv : Disk → Prop} {post : Option Content → Disk → Prop}
    (hinv : inv disk) (hkeys : keysOnDisk location disk = some keys) (data name : Bytes)
    (hfailed : post none disk)
    (hsealed : ∀ content, Opens c (keysOnDisk location disk) name content →
      post (some content) disk) :
    (encodeEnvelopeWithKey c data keys.current name).Ensures inv post disk := by
  refine Proc.ensures_look hinv fun answer => ?_
  split
  · exact hfailed
  · apply hsealed
    rw [hkeys]
    exact opens_sealedEnvelope hsound List.mem_cons_self data name _

section

variable (h : Readable c location disk)

include h

variable {s : Store}

section

variable (hpath : s.path ≠ location.path)

include hpath

theorem ensures_persistLocked (data : Bytes) :
    (s.persistLocked c location data).Ensures (Readable c location) (fun _ _ => True) disk := by
  refine (ensures_persisting (fun _ hkeys => h.keyAdded hkeys.added)
    fun disk' content hkeys hcontent hne => ?_).mono fun _ _ _ _ => trivial
  apply (h.keyAdded hkeys.added).insert_store hpath
  rw [Store.path_eq_id hne]
  exact hcontent.opens hsound

theorem ensures_migrate (payload : Bytes) :
    (s.migrate c location payload).Ensures (Readable c location) (fun _ _ => True) disk := by
  refine Proc.ensures_bind (ensures_loadKeys_readable h
      fun result disk' h' hloaded => ?_)
  cases result with
  | error err => exact Proc.ensures_pure h' trivial
  | ok keys =>
    refine Proc.ensures_bind (ensures_encodeWithKey hsound h' (hloaded keys rfl)
      payload s.id (Proc.ensures_pure h' trivial) fun content hopens => ?_)
    refine Proc.ensures_bind (ensures_storeWrite h' hpath Store.path_eq_id hopens
      fun value disk'' h'' _ => ?_)
    split
    · exact Proc.ensures_pure h'' trivial
    · exact Proc.ensures_pure h'' trivial

theorem ensures_loadEnvelope (parsed : Envelope) :
    (s.loadEnvelope c location parsed).Ensures (Readable c location) (fun _ _ => True)
      disk := by
  have hkeys {post : Except KeyError (Option InstallationKeys) → Disk → Prop}
      (hpost : ∀ result, post result disk) :
      (Store.keysFor location parsed).Ensures (Readable c location) post disk := by
    unfold Store.keysFor
    split
    · refine Proc.ensures_bind (ensures_loadKeys_existing h fun result _ => ?_)
      cases result with
      | error | ok => exact Proc.ensures_pure h (hpost _)
    · exact Proc.ensures_pure h (hpost _)
  refine Proc.ensures_bind (hkeys fun result => ?_)
  split
  · exact Proc.ensures_pure h trivial
  · split
    · exact Proc.ensures_pure h trivial
    · split
      · exact Proc.ensures_pure h trivial
      · split
        · exact ensures_migrate hsound h hpath _
        · exact Proc.ensures_pure h trivial

theorem ensures_loadLocked :
    (s.loadLocked c location).Ensures (Readable c location) (fun _ _ => True) disk := by
  unfold Store.loadLocked
  split
  · exact Proc.ensures_pure h trivial
  · refine Proc.ensures_bind (Proc.yields_look _ h fun file _ => ?_)
    split
    · exact Proc.ensures_pure h trivial
    · exact Proc.ensures_pure h trivial
    · split
      · exact Proc.ensures_pure h trivial
      · split
        · exact Proc.ensures_pure h trivial
        · exact ensures_loadEnvelope hsound h hpath _

end

end

end Writes

end Readable

end GateSentry.Storage
