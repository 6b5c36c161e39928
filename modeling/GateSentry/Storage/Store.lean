import GateSentry.Foundation.Folds
import GateSentry.Storage.Keys

/-!
# Stores

Envelopes, their encryption, the handles that load and persist them, and
`RotateInstallationKey` and `PrunePreviousInstallationKeys`.
-/

namespace GateSentry.Storage

open Foundation ByteText

/-! ## Names -/

def lastIndex (text part : Bytes) : Option Nat :=
  ((List.range (text.length + 1)).filter fun i => part.isPrefixOf (text.drop i)).getLast?

def isAtomicTemporaryName (name : Bytes) : Bool :=
  name.head? = some 46 && [utf8 ".tmp-", utf8 ".create-"].any fun marker =>
    match lastIndex name marker with
    | none => false
    | some markerAt =>
      let digits := name.drop (markerAt + marker.length)
      2 ≤ markerAt && !digits.isEmpty && digits.all isDigit

inductive NameError where
  | invalid
  | reserved
  deriving DecidableEq

/-- `storagePath` in a directory without symbolic links.  A component `..` is refused
whether or not `filepath.Clean` keeps it. -/
def storagePath (name : Bytes) : Except NameError Bytes :=
  let components := Strings.pieces 47 name
  if components.any fun part => part.isEmpty || part = utf8 "." || part = utf8 ".." then
    .error .invalid
  else if components.any isAtomicTemporaryName then .error .reserved
  else .ok name

/-! ## Encryption -/

structure Cipher where
  gcmSeal : (plaintext key additional nonce : Bytes) → Bytes
  gcmOpen : (payload key additional : Bytes) → Option Bytes
  decryptLegacy : Bytes → Option Bytes

structure Cipher.Sound (c : Cipher) : Prop where
  open_seal : ∀ plaintext (key : Key) additional nonce,
    c.gcmOpen (c.gcmSeal plaintext key.val additional nonce) key.val additional = some plaintext
  ascii : ∀ plaintext (key : Key) additional nonce,
    ∀ b ∈ c.gcmSeal plaintext key.val additional nonce, b < 0x80

def gcmEnvelopeVersion : Bytes := utf8 "aes-256-gcm-v1"

def gcmAdditionalData (storeName : Bytes) : Bytes :=
  utf8 "gatesentry-storage:" ++ gcmEnvelopeVersion ++ 0 :: storeName

variable (c : Cipher)

def encryptGCM (plaintext : Bytes) (key : Key) (storeName nonce : Bytes) : Bytes :=
  gcmPayloadPrefix ++ c.gcmSeal plaintext key.val (gcmAdditionalData storeName) nonce

def decryptGCM (encoded : Bytes) (key : Key) (storeName : Bytes) : Option Bytes :=
  match cutPrefix encoded gcmPayloadPrefix with
  | none => none
  | some payload => c.gcmOpen payload key.val (gcmAdditionalData storeName)

/-! ## Envelopes -/

structure Envelope where
  data : Bytes
  encrypted : Bool
  version : Bytes

inductive EnvelopeError where
  | empty
  | parse
  | missingData
  | missingEncrypted
  | invalidEncrypted (value : Bytes)
  deriving DecidableEq

def parseEnvelope : Content → Except EnvelopeError Envelope
  | .bytes text => .error (if text.isEmpty then .empty else .parse)
  | .object _ (some _) => .error .parse
  | .object fields none =>
    match fields.lookup (utf8 "data"), fields.lookup (utf8 "encrypted") with
    | none, _ => .error .missingData
    | some _, none => .error .missingEncrypted
    | some data, some encrypted =>
      let version := (fields.lookup (utf8 "version")).getD []
      if encrypted = utf8 "false" then .ok ⟨data, false, version⟩
      else if encrypted = utf8 "true" then .ok ⟨data, true, version⟩
      else .error (.invalidEncrypted encrypted)

inductive DecryptError where
  | markedPlaintext
  | plaintextVersion (version : Bytes)
  | missingVersion
  | legacy
  | unsupportedVersion (version : Bytes)
  | keyUnavailable
  | noKey
  deriving DecidableEq

def decryptEnvelope (parsed : Envelope) (keys : Option InstallationKeys) (storeName : Bytes) :
    Except DecryptError (Bytes × Bool) :=
  if !parsed.encrypted then
    if gcmPayloadPrefix.isPrefixOf parsed.data then .error .markedPlaintext
    else if !parsed.version.isEmpty then .error (.plaintextVersion parsed.version)
    else .ok (parsed.data, false)
  else if parsed.version.isEmpty then
    if gcmPayloadPrefix.isPrefixOf parsed.data then .error .missingVersion
    else
      match c.decryptLegacy parsed.data with
      | none => .error .legacy
      | some plaintext => .ok (plaintext, true)
  else if parsed.version ≠ gcmEnvelopeVersion then
    .error (.unsupportedVersion parsed.version)
  else
    match keys with
    | none => .error .keyUnavailable
    | some keys =>
      match (allKeys keys).findSome? (decryptGCM c parsed.data · storeName) with
      | none => .error .noKey
      | some plaintext => .ok (plaintext, false)

def sealedEnvelope (data : Bytes) (key : Key) (storeName nonce : Bytes) : Content :=
  .object [(utf8 "data", toValidUTF8 (encryptGCM c data key storeName nonce)),
    (utf8 "encrypted", utf8 "true"), (utf8 "version", gcmEnvelopeVersion)] none

def plainEnvelope (data : Bytes) : Content :=
  .object [(utf8 "data", toValidUTF8 data), (utf8 "encrypted", utf8 "false")] none

def encodeEnvelopeWithKey (data : Bytes) (key : Key) (storeName : Bytes) :
    Files (Option Content) :=
  Proc.look fun answer _ =>
    if answer.fails then none
    else some (sealedEnvelope c data key storeName (answer.random.val.take 12))

/-! ## Handles -/

inductive StoreError where
  | name (err : NameError)
  | read
  | envelope (err : EnvelopeError)
  | plaintextEnvelope
  | keys (err : KeyError)
  | decrypt (err : DecryptError)
  | invalid
  | random
  | write (committed : Bool) (errors : List FileStep)
  | durability (errors : List FileStep)
  | notEncrypted
  deriving DecidableEq

structure Store where
  id : Bytes
  encrypted : Bool
  validate : Bytes → Bool := fun _ => true
  data : Bytes := []
  loadErr : Option StoreError := none
  durabilityErr : Option (List FileStep) := none

variable (location : KeyLocation)

def encodeEnvelope (data : Bytes) (encrypted : Bool) (storeName : Bytes) :
    Files (Except StoreError Content) :=
  if !encrypted then pure (.ok (plainEnvelope data))
  else do
    match ← loadInstallationKeys location true with
    | .error err => return .error (.keys err)
    | .ok keys =>
      match ← encodeEnvelopeWithKey c data keys.current storeName with
      | none => return .error .random
      | some content => return .ok content

namespace Store

def path (s : Store) : Bytes := (storagePath s.id).toOption.getD []

def failedLoad (s : Store) (err : StoreError) : Store × Option StoreError :=
  ({ s with loadErr := some err }, some err)

def loaded (s : Store) (data : Bytes) : Store × Option StoreError :=
  ({ s with data, loadErr := none }, none)

def migrate (s : Store) (payload : Bytes) : Files (Store × Option StoreError) := do
  match ← loadInstallationKeys location true with
  | .error err => return s.failedLoad (.keys err)
  | .ok keys =>
    match ← encodeEnvelopeWithKey c payload keys.current s.id with
    | none => return s.failedLoad .random
    | some upgraded =>
      match ← atomicWrite s.path upgraded with
      | (_, []) => return s.loaded payload
      | (committed, errors) =>
        let durabilityErr := if committed then some errors else s.durabilityErr
        return { s with durabilityErr }.failedLoad (.write committed errors)

def keysFor (parsed : Envelope) : Files (Except KeyError (Option InstallationKeys)) :=
  if parsed.encrypted && parsed.version = gcmEnvelopeVersion then do
    match ← loadInstallationKeys location false with
    | .error err => return .error err
    | .ok keys => return .ok (some keys)
  else pure (.ok none)

def loadEnvelope (s : Store) (parsed : Envelope) : Files (Store × Option StoreError) := do
  match ← keysFor location parsed with
  | .error err => return s.failedLoad (.keys err)
  | .ok keys =>
    match decryptEnvelope c parsed keys s.id with
    | .error err => return s.failedLoad (.decrypt err)
    | .ok (payload, legacy) =>
      if !s.validate payload then return s.failedLoad .invalid
      else if legacy then s.migrate c location payload
      else return s.loaded payload

def loadLocked (s : Store) : Files (Store × Option StoreError) :=
  match s.durabilityErr with
  | some errors => pure (s, some (.durability errors))
  | none => do
    match ← readFile s.path with
    | .error _ => return s.failedLoad .read
    | .ok none => return s.loaded []
    | .ok (some content) =>
      match parseEnvelope content with
      | .error err => return s.failedLoad (.envelope err)
      | .ok parsed =>
        if s.encrypted && !parsed.encrypted then return s.failedLoad .plaintextEnvelope
        else s.loadEnvelope c location parsed

def persistLocked (s : Store) (data : Bytes) : Files (Store × Option StoreError) :=
  match s.loadErr with
  | some err => pure (s, some err)
  | none => do
    match ← encodeEnvelope c location data s.encrypted s.id with
    | .error err => return (s, some err)
    | .ok envelope =>
      match ← atomicWrite s.path envelope with
      | (true, []) => return ({ s with data }, none)
      | (true, errors) =>
        return ({ s with data, durabilityErr := some errors }, some (.durability errors))
      | (false, errors) =>
        let uncertain := s.durabilityErr.map StoreError.durability
        return (s, some (uncertain.getD (.write false errors)))

end Store

def openStore (name : Bytes) (encrypted : Bool) (validate : Bytes → Bool) :
    Files (Store × Option StoreError) :=
  match storagePath name with
  | .error err => pure (Store.failedLoad { id := name, encrypted, validate } (.name err))
  | .ok _ => Store.loadLocked c location { id := name, encrypted, validate }

/-! ## Rotating the key -/

def nameError (name : Bytes) : Option NameError :=
  match storagePath name with
  | .error err => some err
  | .ok _ => none

def validateStoreNames (names : List Bytes) : Except NameError (List Bytes) :=
  match names.findSome? nameError with
  | some err => .error err
  | none => .ok (names.foldl appendUnique [])

inductive RotationError where
  | noStores
  | name (err : NameError)
  | keys (err : KeyError)
  | random
  | store (name : Bytes) (err : StoreError)

section Rotation

variable (c : Cipher) (location : KeyLocation)

/-! ## Rotating -/

def reencryptStore (name : Bytes) (keys : InstallationKeys) : Files (Option StoreError) :=
  match storagePath name with
  | .error err => pure (some (.name err))
  | .ok path => do
    match ← readFile path with
    | .error _ => return some .read
    | .ok none => return none
    | .ok (some content) =>
      match parseEnvelope content with
      | .error err => return some (.envelope err)
      | .ok parsed =>
        if !parsed.encrypted then return some .notEncrypted
        else
          match decryptEnvelope c parsed (some keys) name with
          | .error err => return some (.decrypt err)
          | .ok (plaintext, _) =>
            match ← encodeEnvelopeWithKey c plaintext keys.current name with
            | none => return some .random
            | some encoded =>
              match ← atomicWrite path encoded with
              | (_, []) => return none
              | (committed, errors) => return some (.write committed errors)

def reencryptStores (keys : InstallationKeys) : List Bytes → Files (Option RotationError)
  | [] => pure none
  | name :: rest => do
    match ← reencryptStore c name keys with
    | some err => return some (.store name err)
    | none => reencryptStores keys rest

def rotatedKeys (newKey : Key) (keys : InstallationKeys) : InstallationKeys :=
  ⟨newKey, keys.previous.foldl appendUnique (appendUnique [] keys.current)⟩

def rotateInstallationKey (storeNames : List Bytes) : Files (Option RotationError) :=
  if storeNames.isEmpty then pure (some .noStores)
  else
    match validateStoreNames storeNames with
    | .error err => pure (some (.name err))
    | .ok names => do
      match ← loadInstallationKeys location false with
      | .error err => return some (.keys err)
      | .ok keys =>
        match ← randomKey with
        | none => return some .random
        | some newKey =>
          match ← writeInstallationKeys location (rotatedKeys newKey keys) with
          | some err => return some (.keys err)
          | none => reencryptStores c (rotatedKeys newKey keys) names

/-! ## Pruning -/

def currentOnly (keys : InstallationKeys) : InstallationKeys := ⟨keys.current, []⟩

def verifyEnvelope (name : Bytes) (keys : InstallationKeys) (content : Content) :
    Option StoreError :=
  match parseEnvelope content with
  | .error err => some (.envelope err)
  | .ok parsed =>
    if !parsed.encrypted || parsed.version ≠ gcmEnvelopeVersion then some .notEncrypted
    else
      match decryptEnvelope c parsed (some keys) name with
      | .error err => some (.decrypt err)
      | .ok _ => none

def verifyStores (keys : InstallationKeys) : List Bytes → Files (Option RotationError)
  | [] => pure none
  | name :: rest =>
    match storagePath name with
    | .error err => pure (some (.name err))
    | .ok path => do
      match ← readFile path with
      | .error _ => return some (.store name .read)
      | .ok none => verifyStores keys rest
      | .ok (some content) =>
        match verifyEnvelope c name keys content with
        | some err => return some (.store name err)
        | none => verifyStores keys rest

def prunePreviousInstallationKeys (storeNames : List Bytes) : Files (Option RotationError) :=
  if storeNames.isEmpty then pure (some .noStores)
  else do
    match ← loadInstallationKeys location false with
    | .error err => return some (.keys err)
    | .ok keys =>
      match validateStoreNames storeNames with
      | .error err => return some (.name err)
      | .ok names =>
        match ← verifyStores c (currentOnly keys) names with
        | some err => return some err
        | none =>
          match ← writeInstallationKeys location (currentOnly keys) with
          | some err => return some (.keys err)
          | none => return none

end Rotation

/-! ## What the names and the keys keep -/

theorem allKeys_rotatedKeys {newKey : Key} {keys : InstallationKeys} :
    allKeys keys ⊆ allKeys (rotatedKeys newKey keys) := by
  intro key hkey
  apply List.mem_cons_of_mem
  rw [rotatedKeys, mem_foldl_appendUnique, mem_appendUnique]
  simpa [allKeys] using hkey

theorem mem_validateStoreNames {names valid : List Bytes} {name : Bytes}
    (h : validateStoreNames names = .ok valid) : name ∈ valid ↔ name ∈ names := by
  unfold validateStoreNames at h
  split at h
  · cases h
  · cases h
    simp [mem_foldl_appendUnique]

end GateSentry.Storage
