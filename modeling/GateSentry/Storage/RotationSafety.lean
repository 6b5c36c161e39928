import GateSentry.Storage.Readable

/-!
# Rotation keeps stores readable

A run is a sequence of calls, each of which may fail or be interrupted at every step.
-/

namespace GateSentry.Storage

open Foundation ByteText

section Rotation

variable {c : Cipher} {location : KeyLocation} {disk : Disk}

def Fits (keys : InstallationKeys) : Prop := (encodeKeyring keys).text.length ≤ keyFileLimit

/-! ## Rotating -/

variable {inv : Disk → Prop} {keys : InstallationKeys}

/-- Stores that are encrypted with the current key may be written beside the keys. -/
def AdmitsKeys (c : Cipher) (location : KeyLocation) (inv : Disk → Prop) (keys : InstallationKeys) :
    Prop :=
  ∀ disk name data nonce, inv disk → disk.lookup location.path = some (encodeKeyring keys) →
    name ≠ location.path → inv (disk.insert name (sealedEnvelope c data keys.current name nonce))

theorem ensures_writeKeys {post : Option KeyError → Disk → Prop} (h : inv disk)
    (hnew : inv (disk.insert location.path (encodeKeyring keys)))
    (hfailed : ∀ err after, inv after → post (some err) after)
    (hwritten : ∀ after, inv after → after.lookup location.path = some (encodeKeyring keys) →
      post none after) : (writeInstallationKeys location keys).Ensures inv post disk := by
  refine Proc.ensures_bind (ensures_atomicWrite h (fun _ => hnew) (fun errors herrors => ?_)
    fun _ errors => ?_)
  · cases errors with
    | nil => exact absurd rfl herrors
    | cons step rest => exact Proc.ensures_pure h (hfailed _ _ h)
  · cases errors with
    | nil => exact Proc.ensures_pure hnew (hwritten _ hnew (AList.lookup_insert _))
    | cons step rest => exact Proc.ensures_pure hnew (hfailed _ _ hnew)

theorem ensures_reencryptStore {post : Option StoreError → Disk → Prop}
    (hadmits : AdmitsKeys c location inv keys) (h : inv disk)
    (hfile : disk.lookup location.path = some (encodeKeyring keys)) (name : Bytes)
    (hpost : ∀ result after, inv after →
      after.lookup location.path = some (encodeKeyring keys) → post result after) :
    (reencryptStore c name keys).Ensures inv post disk := by
  have hsame (result : Option StoreError) :
      (pure result : Files (Option StoreError)).Ensures inv post disk :=
    Proc.ensures_pure h (hpost _ _ h hfile)
  unfold reencryptStore
  split
  · exact hsame _
  · next path hpath =>
    cases storagePath_ok hpath
    refine Proc.ensures_bind (Proc.ensures_look h fun answer => ?_)
    split
    · exact hsame _
    · exact hsame _
    · next content hcontent =>
      split
      · exact hsame _
      · next parsed hparsed =>
        -- The key file is no envelope, so the store is another file.
        have hother : name ≠ location.path := by
          rintro rfl
          split at hcontent
          · cases hcontent
          · rw [hfile] at hcontent
            cases hcontent
            obtain ⟨err, herr⟩ := parse_encodeKeyring keys
            cases herr.symm.trans hparsed
        split
        · exact hsame _
        · split
          · exact hsame _
          · refine Proc.ensures_bind (Proc.ensures_look h fun answer => ?_)
            split
            · exact hsame _
            · next encoded hencoded =>
              have hnew : inv (disk.insert name encoded) := by
                split at hencoded
                · cases hencoded
                · cases hencoded
                  exact hadmits disk name _ _ h hfile hother
              have hkept : (disk.insert name encoded).lookup location.path =
                  some (encodeKeyring keys) := (AList.lookup_insert_ne hother.symm).trans hfile
              refine Proc.ensures_bind (ensures_atomicWrite h (fun _ => hnew)
                (fun errors _ => ?_) fun _ errors => ?_)
              · cases errors <;> exact hsame _
              · cases errors <;> exact Proc.ensures_pure hnew (hpost _ _ hnew hkept)

theorem ensures_reencryptStores (hadmits : AdmitsKeys c location inv keys) (h : inv disk)
    (hfile : disk.lookup location.path = some (encodeKeyring keys)) (names : List Bytes) :
    (reencryptStores c keys names).Ensures inv
      (fun _ after => after.lookup location.path = some (encodeKeyring keys)) disk := by
  induction names generalizing disk with
  | nil => exact Proc.ensures_pure h hfile
  | cons name rest ih =>
    refine Proc.ensures_bind (ensures_reencryptStore hadmits h hfile name
      fun result after h' hfile' => ?_)
    cases result with
    | some err => exact Proc.ensures_pure h' hfile'
    | none => exact ih h' hfile'

theorem ensures_rotateKey (h : inv disk)
    (hkeys : ∀ keys newKey, keysOnDisk location disk = some keys →
      inv (disk.insert location.path (encodeKeyring (rotatedKeys newKey keys))) ∧
        AdmitsKeys c location inv (rotatedKeys newKey keys)) (names : List Bytes) :
    (rotateInstallationKey c location names).Ensures inv
      (fun result after => result = none → ∃ keys newKey,
        keysOnDisk location disk = some keys ∧
          after.lookup location.path = some (encodeKeyring (rotatedKeys newKey keys))) disk := by
  unfold rotateInstallationKey
  split
  · exact Proc.ensures_pure h (by simp)
  · split
    · exact Proc.ensures_pure h (by simp)
    · next valid _ =>
      refine Proc.ensures_bind (ensures_loadKeys_existing h fun result hloaded => ?_)
      cases result with
      | error err => exact Proc.ensures_pure h (by simp)
      | ok keys =>
        refine Proc.ensures_bind (Proc.yields_look _ h fun random _ => ?_)
        cases random with
        | none => exact Proc.ensures_pure h (by simp)
        | some newKey =>
          obtain ⟨hnew, hadmits⟩ := hkeys keys newKey (hloaded keys rfl)
          refine Proc.ensures_bind (ensures_writeKeys h hnew
            (fun err after h' => Proc.ensures_pure h' (by simp)) fun after h' hfile => ?_)
          refine (ensures_reencryptStores hadmits h' hfile valid).mono
            fun result after _ hkept _ => ?_
          exact ⟨keys, newKey, hloaded keys rfl, hkept⟩

/-! ## Pruning -/

def NamesStores (names : List Bytes) (disk : Disk) : Prop :=
  ∀ name content parsed, storagePath name = .ok name → disk.lookup name = some content →
    parseEnvelope content = .ok parsed → parsed.encrypted = true → name ∈ names

variable {keys : InstallationKeys}

theorem opens_of_verifyEnvelope {name : Bytes} {content : Content}
    (h : verifyEnvelope c name keys content = none) : Opens c (some keys) name content := by
  intro parsed hparsed _
  unfold verifyEnvelope at h
  rw [hparsed] at h
  dsimp only at h
  split at h
  · cases h
  · split at h
    · cases h
    · next result hresult => exact ⟨result, hresult⟩

theorem yields_verifyStores (keys : InstallationKeys) (names : List Bytes)
    {inv : Disk → Prop} {post : Option RotationError → Disk → Prop} (hinv : inv disk)
    (hfailed : ∀ err, post (some err) disk)
    (hverified : (∀ name ∈ names, ∀ content, disk.lookup name = some content →
      Opens c (some keys) name content) → post none disk) :
    (verifyStores c keys names).Ensures inv post disk := by
  induction names with
  | nil =>
    apply Proc.ensures_pure hinv
    exact hverified fun name hname => by cases hname
  | cons name rest ih =>
    rw [verifyStores]
    split
    · exact Proc.ensures_pure hinv (hfailed _)
    · next path hpath =>
      cases storagePath_ok hpath
      refine Proc.ensures_bind (Proc.ensures_look hinv fun answer => ?_)
      split
      · exact Proc.ensures_pure hinv (hfailed _)
      · next hnone =>
        apply ih
        intro hrest
        apply hverified
        rw [List.forall_mem_cons]
        refine ⟨fun content hcontent => ?_, hrest⟩
        split at hnone
        · cases hnone
        · rw [hcontent] at hnone
          cases hnone
      · next stored hstored =>
        split
        · exact Proc.ensures_pure hinv (hfailed _)
        · next hvalid =>
          apply ih
          intro hrest
          apply hverified
          rw [List.forall_mem_cons]
          refine ⟨fun content hcontent => ?_, hrest⟩
          split at hstored
          · cases hstored
          · rw [hcontent] at hstored
            cases hstored
            exact opens_of_verifyEnvelope hvalid

theorem fits_iff : Fits keys ↔ keys.previous.length ≤ 1422 := by
  unfold Fits keyFileLimit
  rw [length_encodeKeyring]
  cases keys.previous with
  | nil => simp
  | cons key rest =>
    simp only [List.isEmpty_cons, Bool.false_eq_true, if_false]
    omega

theorem ensures_pruneKeys (h : inv disk) {names : List Bytes}
    (hkeys : ∀ keys valid, keysOnDisk location disk = some keys →
      validateStoreNames names = .ok valid →
      (∀ name ∈ valid, ∀ content, disk.lookup name = some content →
        Opens c (some (currentOnly keys)) name content) →
      inv (disk.insert location.path (encodeKeyring (currentOnly keys)))) :
    (prunePreviousInstallationKeys c location names).Ensures inv
      (fun result after => result = none → ∃ keys, keysOnDisk location disk = some keys ∧
        after.lookup location.path = some (encodeKeyring (currentOnly keys))) disk := by
  unfold prunePreviousInstallationKeys
  split
  · exact Proc.ensures_pure h (by simp)
  · refine Proc.ensures_bind (ensures_loadKeys_existing h fun result hloaded => ?_)
    cases result with
    | error err => exact Proc.ensures_pure h (by simp)
    | ok keys =>
      dsimp only
      split
      · exact Proc.ensures_pure h (by simp)
      · next valid hvalid =>
        refine Proc.ensures_bind (yields_verifyStores (currentOnly keys) valid h
          (fun err => Proc.ensures_pure h (by simp)) fun hverified => ?_)
        refine Proc.ensures_bind (ensures_writeKeys h
          (hkeys keys valid (hloaded keys rfl) hvalid hverified)
          (fun err after h' => Proc.ensures_pure h' (by simp)) fun after h' hfile => ?_)
        exact Proc.ensures_pure h' fun _ => ⟨keys, hloaded keys rfl, hfile⟩

/-! ## Readable stores -/

theorem readable_encodeKeyring (hfits : Fits keys)
    (hopens : ∀ name stored, storagePath name = .ok name → disk.lookup name = some stored →
      Opens c (some keys) name stored) :
    Readable c location (disk.insert location.path (encodeKeyring keys)) := by
  obtain ⟨err, hparse⟩ := parse_encodeKeyring keys
  exact readable_insert_keys (keysOf_encodeKeyring hfits) hparse hopens

theorem admits_readable (hsound : c.Sound) (hfits : Fits keys) :
    AdmitsKeys c location (Readable c location) keys := by
  intro disk name data nonce h hfile hother
  have hkeys : keysOnDisk location disk = some keys := by
    unfold keysOnDisk
    rw [hfile, Option.bind_some, keysOf_encodeKeyring hfits]
    rfl
  apply h.insert_store hother
  rw [hkeys]
  exact opens_sealedEnvelope hsound List.mem_cons_self data name nonce

end Rotation

/-! ## Runs -/

inductive Call where
  | load (s : Store)
  | persist (s : Store) (data : Bytes)
  | rotate (storeNames : List Bytes)
  | prune (storeNames : List Bytes)

namespace Call

variable (c : Cipher) (location : KeyLocation)

def program : Call → Files Unit
  | .load s => do let _ ← s.loadLocked c location
  | .persist s data => do let _ ← s.persistLocked c location data
  | .rotate storeNames => do let _ ← rotateInstallationKey c location storeNames
  | .prune storeNames => do let _ ← prunePreviousInstallationKeys c location storeNames

/-- What is assumed of the operator: the key file stays within the size that its reader
accepts, and no encrypted store is forgotten. -/
def Assumes (disk : Disk) : Call → Prop
  | .rotate _ => ∀ keys newKey, keysOnDisk location disk = some keys →
      Fits (rotatedKeys newKey keys)
  | .prune storeNames => NamesStores storeNames disk
  | _ => True

def SparesKeyFile : Call → Prop
  | .load s => s.path ≠ location.path
  | .persist s _ => s.path ≠ location.path
  | _ => True

end Call

/-- The states of runs whose calls meet a condition.  A call may stop at every step, with
an error or with the process, before the next one starts. -/
inductive Reached (c : Cipher) (location : KeyLocation) (meets : Call → Prop) (start : Disk) :
    Disk → Prop where
  | start : Reached c location meets start start
  | call {before after : Disk} (h : Reached c location meets start before) (call : Call)
      (hmeets : meets call) (hassumes : call.Assumes location before)
      (hvisits : (call.program c location).Visits before after) :
      Reached c location meets start after

theorem ensures_program {c : Cipher} {location : KeyLocation} (hsound : c.Sound) {disk : Disk}
    (h : Readable c location disk) {call : Call} (hspares : call.SparesKeyFile location)
    (hassumes : call.Assumes location disk) :
    (call.program c location).Ensures (Readable c location) (fun _ _ => True) disk := by
  have hends {α : Type} {p : Files α} {post : α → Disk → Prop}
      (hp : p.Ensures (Readable c location) post disk) :
      (do let _ ← p : Files Unit).Ensures (Readable c location) (fun _ _ => True) disk :=
    Proc.ensures_bind (hp.mono fun _ _ h' _ => Proc.ensures_pure h' trivial)
  cases call with
  | load s => exact hends (ensures_loadLocked hsound h hspares)
  | persist s data => exact hends (ensures_persistLocked hsound h hspares data)
  | rotate storeNames =>
    refine hends (ensures_rotateKey h (fun keys newKey hkeys => ?_) storeNames)
    have hfits := hassumes keys newKey hkeys
    refine ⟨readable_encodeKeyring hfits fun name stored hname hstored => ?_,
      admits_readable hsound hfits⟩
    apply (h name stored hname hstored).mono
    intro known hknown
    cases hkeys.symm.trans hknown
    exact allKeys_rotatedKeys
  | prune storeNames =>
    refine hends (ensures_pruneKeys h fun keys valid _ hvalid hverified => ?_)
    refine readable_encodeKeyring (fits_iff.mpr (Nat.zero_le _)) ?_
    intro name stored hname hstored parsed hparsed hencrypted
    have hmem : name ∈ valid := (mem_validateStoreNames hvalid).mpr
      (hassumes name stored parsed hname hstored hparsed hencrypted)
    exact hverified name hmem stored hstored parsed hparsed hencrypted

/-- In every run that spares the key file, every encrypted store can be decrypted at every
point with the keyring that is then on disk. -/
theorem reached_readable {c : Cipher} {location : KeyLocation} (hsound : c.Sound)
    {start disk : Disk} (hstart : Readable c location start)
    (h : Reached c location (Call.SparesKeyFile location) start disk) :
    Readable c location disk := by
  induction h with
  | start => exact hstart
  | call _ call hspares hassumes hvisits ih =>
    exact (ensures_program hsound ih hspares hassumes).visits hvisits

/-! ## A cipher in the clear -/

def clearCipher : Cipher where
  gcmSeal plaintext key additional _ := Base64.rawEncode (key ++ additional ++ plaintext)
  gcmOpen payload key additional :=
    (Base64.rawDecode payload).bind (cutPrefix · (key ++ additional))
  decryptLegacy _ := none

theorem clearCipher_sound : clearCipher.Sound where
  open_seal plaintext key additional nonce := by
    simp [clearCipher, Base64.rawDecode_rawEncode, cutPrefix]
  ascii plaintext key additional nonce := by
    intro b hb
    have hsymbol := Base64.encode_bytes _ b (List.mem_filter.mp hb).1
    revert hsymbol
    apply byte_forall _ b
    decide +kernel

def answersOf (random : UInt8) (n : Nat) : List Answer :=
  List.replicate n ⟨false, ⟨List.replicate 32 random, by simp [keySize]⟩⟩

def settingsStore : Store := { id := utf8 "GSSettings", encrypted := true }

def afterCall (call : Call) (random : UInt8) (disk : Disk) : Disk :=
  ((call.program clearCipher unmanagedKey).run (answersOf random 40) disk).1

def writtenDisk : Disk := afterCall (.persist settingsStore (utf8 "a")) 1 ∅

def rotatedDisk : Disk := afterCall (.rotate [utf8 "GSSettings"]) 2 writtenDisk

def prunedDisk : Disk := afterCall (.prune [utf8 "GSSettings"]) 3 rotatedDisk

theorem Reached.after {meets : Call → Prop} {start disk : Disk}
    (h : Reached clearCipher unmanagedKey meets start disk) (call : Call) (hmeets : meets call)
    (hassumes : call.Assumes unmanagedKey disk) (random : UInt8) :
    Reached clearCipher unmanagedKey meets start (afterCall call random disk) :=
  h.call call hmeets hassumes (Proc.visits_run _ _ _)

theorem readable_empty (c : Cipher) (location : KeyLocation) : Readable c location ∅ := by
  intro name content _ hcontent
  simp at hcontent

theorem assumes_rotate_writtenDisk (names : List Bytes) :
    (Call.rotate names).Assumes unmanagedKey writtenDisk := by
  intro keys newKey hkeys
  have hnone : (keysOnDisk unmanagedKey writtenDisk).map (fun keys => keys.previous) =
      some [] := by decide +kernel
  rw [hkeys, Option.map_some, Option.some.injEq] at hnone
  rw [fits_iff]
  simp [rotatedKeys, hnone, appendUnique]

theorem assumes_prune_rotatedDisk :
    (Call.prune [utf8 "GSSettings"]).Assumes unmanagedKey rotatedDisk := by
  intro name content parsed _ hcontent hparsed hencrypted
  have hall : ∀ entry ∈ rotatedDisk.entries, (parseEnvelope entry.2).toOption.all
      (fun parsed => !parsed.encrypted || entry.1 = utf8 "GSSettings") = true := by
    decide +kernel
  have hentry := hall _ (AList.mem_lookup_iff.mp hcontent)
  rw [hparsed] at hentry
  simpa [Except.toOption, hencrypted] using hentry

/-- A first write, a rotation and a pruning leave the store readable with one key. -/
theorem reached_readable_prunedDisk :
    (keysOnDisk unmanagedKey prunedDisk).map (fun keys => (keys.current.val, keys.previous)) =
      some (List.replicate 32 2, []) ∧
    utf8 "GSSettings" ∈ prunedDisk ∧ Readable clearCipher unmanagedKey prunedDisk := by
  have hstore : settingsStore.path ≠ unmanagedKey.path := by decide +kernel
  have hwritten : Reached clearCipher unmanagedKey (Call.SparesKeyFile unmanagedKey) ∅
      writtenDisk := Reached.start.after (.persist settingsStore (utf8 "a")) hstore trivial 1
  have hrotated :=
    hwritten.after (.rotate [utf8 "GSSettings"]) trivial (assumes_rotate_writtenDisk _) 2
  have hpruned :=
    hrotated.after (.prune [utf8 "GSSettings"]) trivial assumes_prune_rotatedDisk 3
  exact ⟨by decide +kernel, by decide +kernel,
    reached_readable clearCipher_sound (readable_empty _ _) hpruned⟩

def keyFileStore : Store := { id := installationKeyFilename, encrypted := true }

/-- Its first write replaces the key that it is encrypted with. -/
theorem not_readable_keyFileStore :
    (openStore clearCipher unmanagedKey installationKeyFilename true fun _ => true).run
      (answersOf 1 40) ∅ = (∅, some (keyFileStore, none)) ∧
    ((keyFileStore.persistLocked clearCipher unmanagedKey (utf8 "a")).run
      (answersOf 1 40) ∅).2.map (·.2) = some none ∧
    ¬ Readable clearCipher unmanagedKey
      (afterCall (.persist keyFileStore (utf8 "a")) 1 ∅) := by
  refine ⟨rfl, by decide +kernel, fun h => ?_⟩
  have hlost : ((afterCall (.persist keyFileStore (utf8 "a")) 1 ∅).lookup
      installationKeyFilename).any (fun content => (parseEnvelope content).toOption.any
        fun parsed => parsed.encrypted && !(decryptEnvelope clearCipher parsed
          (keysOnDisk unmanagedKey (afterCall (.persist keyFileStore (utf8 "a")) 1 ∅))
          installationKeyFilename).isOk) = true := by decide +kernel
  simp only [Option.any_eq_true, Bool.and_eq_true] at hlost
  obtain ⟨content, hcontent, parsed, hparsed, hencrypted, herror⟩ := hlost
  cases hresult : parseEnvelope content with
  | error err =>
    rw [hresult] at hparsed
    cases hparsed
  | ok envelope =>
    rw [hresult] at hparsed
    cases hparsed
    obtain ⟨result, hopens⟩ := h _ content (by decide +kernel) hcontent parsed hresult hencrypted
    rw [hopens] at herror
    cases herror

end GateSentry.Storage
