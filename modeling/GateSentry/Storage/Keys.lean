import GateSentry.Foundation.Base64
import GateSentry.Storage.Files

/-!
# Installation keys

The key file, its keyring format, and the creation of a first key.
-/

namespace GateSentry.Storage

open Foundation ByteText StringObject

structure InstallationKeys where
  current : Key
  previous : List Key

def allKeys (keys : InstallationKeys) : List Key := keys.current :: keys.previous

/-- `installationKeyPath`, with a path in the data directory below it. -/
structure KeyLocation where
  path : Bytes
  managed : Bool

def installationKeyFilename : Bytes := utf8 "installation.key"

def unmanagedKey : KeyLocation := ⟨installationKeyFilename, false⟩

def keyringFormat : Bytes := utf8 "gatesentry-keyring-v1"

def keyFileLimit : Nat := 64 * 1024

inductive KeyError where
  | missing
  | failed
  | tooLarge
  | malformed
  | unsupportedFormat (format : Bytes)
  | invalidCurrent
  | invalidPrevious (position : Nat)
  | managedMissing
  | lost (store : Bytes)
  | random
  | create (committed : Bool) (errors : List FileStep)
  | write (committed : Bool) (errors : List FileStep)
  deriving DecidableEq

/-! ## The key file -/

def decodeKey (encoded : Bytes) : Option Key :=
  match Base64.rawDecode encoded with
  | none => none
  | some key => if h : key.length = keySize then some ⟨key, h⟩ else none

def decodePrevious (position : Nat) : List Bytes → Except KeyError (List Key)
  | [] => .ok []
  | encoded :: rest =>
    match decodeKey encoded with
    | none => .error (.invalidPrevious position)
    | some key => (decodePrevious (position + 1) rest).map (key :: ·)

def keysOfContent (content : Content) : Except KeyError InstallationKeys :=
  let data := content.text
  if data.length > keyFileLimit then .error .tooLarge
  else if h : data.length = keySize then .ok ⟨⟨data, h⟩, []⟩
  else
    match content with
    | .bytes _ => .error .malformed
    | .object fields previous =>
      let format := (fields.lookup (utf8 "format")).getD []
      if format ≠ keyringFormat then .error (.unsupportedFormat format)
      else
        match decodeKey ((fields.lookup (utf8 "current")).getD []) with
        | none => .error .invalidCurrent
        | some current =>
          (decodePrevious 1 (previous.getD [])).map fun previous => ⟨current, previous⟩

def encodeKey (key : Key) : Bytes := Base64.rawEncode key.val

def encodeKeyring (keys : InstallationKeys) : Content :=
  .object [(utf8 "format", keyringFormat), (utf8 "current", encodeKey keys.current)]
    (if keys.previous.isEmpty then none else some (keys.previous.map encodeKey))

def readInstallationKeys (path : Bytes) : Files (Except KeyError InstallationKeys) :=
  Proc.look fun answer disk =>
    if answer.fails then .error .failed
    else
      match disk.lookup path with
      | none => .error .missing
      | some content => keysOfContent content

/-! ## A first key -/

def gcmPayloadPrefix : Bytes := utf8 "gcm1:"

def envelopeInspectionBytes : Nat := 32 * 1024

def removeJSONWhitespace (data : Bytes) : Bytes :=
  data.filter fun b => !(b = 32 || b = 9 || b = 13 || b = 10)

def isKeyDependentEnvelope (content : Content) : Bool :=
  let data := content.text
  let front := data.take envelopeInspectionBytes
  let compactFront := removeJSONWhitespace front
  if (trimSpace front).head? ≠ some 123 || !Strings.occurs (utf8 "\"data\":") compactFront then
    false
  else
    let rest := data.drop envelopeInspectionBytes
    let tail := rest.drop (rest.length - envelopeInspectionBytes)
    let compact := removeJSONWhitespace (front ++ tail)
    let gcmMarked := Strings.occurs (utf8 "\"data\":\"" ++ gcmPayloadPrefix) compact
    let versioned := Strings.occurs (utf8 "\"version\":") compact
    let encrypted := Strings.occurs (utf8 "\"encrypted\":\"true\"") compact
    gcmMarked || (encrypted && versioned)

def authenticatedStoresWithoutKey (keyPath : Bytes) : Files (Except KeyError (List Bytes)) :=
  Proc.look fun answer disk =>
    if answer.fails then .error .failed
    else .ok ((disk.entries.filter fun entry =>
      entry.1 ≠ keyPath && isKeyDependentEnvelope entry.2).map (·.1))

def randomKey : Files (Option Key) :=
  Proc.look fun answer _ => if answer.fails then none else some answer.random

/-- The end of `loadInstallationKeysLocked`, where no store needs a key that is lost. -/
def createInstallationKey (location : KeyLocation) :
    Files (Except KeyError InstallationKeys) := do
  match ← randomKey with
  | none => return .error .random
  | some key =>
    let creation ← atomicCreate location.path (.bytes key.val)
    if !creation.errors.isEmpty then
      return .error (.create creation.committed creation.errors)
    else if !creation.created then readInstallationKeys location.path
    else return .ok ⟨key, []⟩

/-- `loadInstallationKeysLocked`, where `files` does what is done with the key file and `stores`
looks for the stores that need a key. -/
def loadInstallationKeysLocked {σ : Type}
    (files : Files (Except KeyError InstallationKeys) →
      Proc Answer σ (Except KeyError InstallationKeys))
    (stores : Proc Answer σ (Except KeyError (List Bytes))) (location : KeyLocation)
    (allowGenerate : Bool) : Proc Answer σ (Except KeyError InstallationKeys) := do
  match ← files (readInstallationKeys location.path) with
  | .error .missing =>
    if location.managed then return .error .managedMissing
    else if !allowGenerate then return .error .missing
    else
      match ← stores with
      | .error err => return .error err
      | .ok [] => files (createInstallationKey location)
      | .ok (store :: _) =>
        match ← files (readInstallationKeys location.path) with
        | .error .missing => return .error (.lost store)
        | result => return result
  | result => return result

def loadInstallationKeys (location : KeyLocation) (allowGenerate : Bool) :
    Files (Except KeyError InstallationKeys) :=
  loadInstallationKeysLocked id (authenticatedStoresWithoutKey location.path) location allowGenerate

def writeInstallationKeys (location : KeyLocation) (keys : InstallationKeys) :
    Files (Option KeyError) := do
  match ← atomicWrite location.path (encodeKeyring keys) with
  | (_, []) => return none
  | (committed, errors) => return some (.write committed errors)

/-! ## What is read back -/

@[simp] theorem decodeKey_encodeKey (key : Key) : decodeKey (encodeKey key) = some key := by
  unfold decodeKey encodeKey
  rw [Base64.rawDecode_rawEncode]
  simp [key.property]

theorem decodePrevious_encodeKey (keys : List Key) (position : Nat) :
    decodePrevious position (keys.map encodeKey) = .ok keys := by
  induction keys generalizing position with
  | nil => rfl
  | cons key rest ih =>
    rw [List.map_cons, decodePrevious, decodeKey_encodeKey, ih]
    rfl

theorem encodeKeyring_ne_keySize (keys : InstallationKeys) :
    (encodeKeyring keys).text.length ≠ keySize := by
  have hformat : (quote (utf8 "format") ++ 58 :: quote keyringFormat).length =
      keySize := by decide
  unfold encodeKeyring Content.text
  simp only [List.map_cons, List.cons_append, separated, List.length_cons,
    List.length_append] at hformat ⊢
  omega

theorem keysOf_encodeKeyring {keys : InstallationKeys}
    (h : (encodeKeyring keys).text.length ≤ keyFileLimit) :
    keysOfContent (encodeKeyring keys) = .ok keys := by
  have hprevious : decodePrevious 1 ((if keys.previous.isEmpty then none
      else some (keys.previous.map encodeKey)).getD []) = .ok keys.previous := by
    cases hempty : keys.previous with
    | nil => rfl
    | cons key rest => exact decodePrevious_encodeKey (key :: rest) 1
  have hcurrent : ((([(utf8 "format", keyringFormat), (utf8 "current", encodeKey keys.current)] :
      List (Bytes × Bytes)).lookup (utf8 "current")).getD []) = encodeKey keys.current := rfl
  unfold keysOfContent
  rw [if_neg (not_lt.mpr h), dif_neg (encodeKeyring_ne_keySize keys)]
  unfold encodeKeyring
  dsimp only
  rw [hcurrent, hprevious, decodeKey_encodeKey]
  rfl

/-! ## The size of the key file -/

theorem writtenRune_of_isEncodingByte {b : UInt8} (h : Base64.isEncodingByte b = true) :
    b < 0x80 ∧ writtenRune (Char.ofNat b.toNat) 1 = [b] := by
  revert h
  apply byte_forall _ b
  decide +kernel

theorem quoteBody_of_isEncodingByte {text : Bytes}
    (h : ∀ b ∈ text, Base64.isEncodingByte b = true) : quoteBody text.length text = text := by
  induction text with
  | nil => rfl
  | cons b rest ih =>
    rw [List.forall_mem_cons] at h
    obtain ⟨hascii, hwritten⟩ := writtenRune_of_isEncodingByte h.1
    simp [quoteBody, decodeRune, hascii, hwritten, ih h.2]

theorem length_quote_encodeKey (key : Key) : (quote (encodeKey key)).length = 45 := by
  have hlength : (encodeKey key).length = 43 := by
    unfold encodeKey
    rw [Base64.rawEncode_length, key.property]
    rfl
  have hbody : quoteBody (encodeKey key).length (encodeKey key) = encodeKey key :=
    quoteBody_of_isEncodingByte fun b hb =>
      Base64.encode_bytes key.val b (List.mem_filter.mp hb).1
  rw [quote, hbody]
  simp [hlength]

theorem length_separated {items : List Bytes} {n : Nat} (h : ∀ item ∈ items, item.length = n)
    (hne : items ≠ []) : (separated items).length + 1 = items.length * (n + 1) := by
  induction items with
  | nil => exact absurd rfl hne
  | cons item rest ih =>
    have hitem := h item List.mem_cons_self
    cases rest with
    | nil => simp [separated, hitem]
    | cons next others =>
      have hrest := ih (fun other hother => h other (List.mem_cons_of_mem _ hother)) (by simp)
      rw [separated, List.length_append, List.length_cons, hrest]
      · simp only [List.length_cons, Nat.add_mul]
        omega
      · simp

theorem length_encodeKeyring (keys : InstallationKeys) :
    (encodeKeyring keys).text.length =
      if keys.previous.isEmpty then 90 else 103 + 46 * keys.previous.length := by
  have hformat : (quote (utf8 "format") ++ 58 :: quote keyringFormat).length =
      32 := by decide
  have hname : (quote (utf8 "current")).length = 9 := by decide
  have hlist : (quote (utf8 "previous")).length = 10 := by decide
  have hcurrent := length_quote_encodeKey keys.current
  unfold encodeKeyring Content.text
  cases hprevious : keys.previous with
  | nil =>
    simp only [List.map_cons, List.map_nil, List.cons_append, List.nil_append,
      separated, List.length_cons, List.length_append, List.length_nil, if_true,
      Option.toList_none, List.isEmpty_nil] at hformat ⊢
    omega
  | cons key rest =>
    have hitems : ∀ item ∈ ((key :: rest).map encodeKey).map quote,
        item.length = 45 := by
      intro item hitem
      obtain ⟨encoded, hencoded, rfl⟩ := List.mem_map.mp hitem
      obtain ⟨other, -, rfl⟩ := List.mem_map.mp hencoded
      exact length_quote_encodeKey other
    have hkeys := length_separated hitems (by simp)
    simp only [List.length_map, List.map_cons, List.map_nil, List.cons_append, List.nil_append,
      separated, List.length_cons, List.length_append, List.length_nil,
      Option.toList_some, List.isEmpty_cons, Bool.false_eq_true, if_false] at hformat hkeys ⊢
    omega

end GateSentry.Storage
