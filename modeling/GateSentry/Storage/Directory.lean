import GateSentry.Foundation.Net
import GateSentry.Storage.RoundTrip

/-!
# A lost key in a data directory

The data directory as a tree, the walk over it that looks for stores before a first key is
created, and the names under which a store can be in the tree.
-/

namespace GateSentry.Storage

open Foundation ByteText

/-! ## The tree -/

mutual

inductive Entry where
  | file (content : Content)
  | directory (entries : Entries)
  | link
  | other

inductive Entries where
  | nil
  | cons (name : Bytes) (entry : Entry) (rest : Entries)

end

namespace Entries

def get? (name : Bytes) : Entries → Option Entry
  | .nil => none
  | .cons other entry rest => if other = name then some entry else rest.get? name

def find? : List Bytes → Entries → Option Entry
  | [], _ => none
  | [name], entries => entries.get? name
  | name :: rest, entries =>
    match entries.get? name with
    | some (.directory inner) => inner.find? rest
    | _ => none

/-- The loop of `os.Lstat` in `storagePath`: it ends where nothing exists, and fails at a
link and below a file. -/
def passes : List Bytes → Entries → Bool
  | [], _ => true
  | name :: rest, entries =>
    match entries.get? name with
    | none => true
    | some .link => false
    | some (.directory inner) => inner.passes rest
    | some _ => rest.isEmpty

end Entries

/-- The data directory, which may be reached through a link.  The walk passes by the key
file, which is kept apart. -/
structure DataDirectory where
  linked : Bool
  entries : Entries
  keyFiles : Disk

namespace DataDirectory

def storagePath (dir : DataDirectory) (name : Bytes) : Option Bytes :=
  match Storage.storagePath name with
  | .error _ => none
  | .ok path => if dir.entries.passes (Strings.pieces 47 name) then some path else none

end DataDirectory

/-! ## The walk -/

mutual

def Entry.keyDependent (keyPath path : Bytes) : Entry → List Bytes
  | .file content => if path ≠ keyPath ∧ isKeyDependentEnvelope content then [path] else []
  | .directory entries => entries.keyDependent keyPath (path ++ [47])
  | .link => []
  | .other => []

def Entries.keyDependent (keyPath lead : Bytes) : Entries → List Bytes
  | .nil => []
  | .cons name entry rest =>
    (if isAtomicTemporaryName name then []
      else entry.keyDependent keyPath (lead ++ name)) ++ rest.keyDependent keyPath lead

end

namespace DataDirectory

/-- `authenticatedStoresWithoutKey`: `filepath.WalkDir` does not descend from a link. -/
def authenticatedStores (keyPath : Bytes) (dir : DataDirectory) : List Bytes :=
  if dir.linked then [] else dir.entries.keyDependent keyPath []

def authenticatedStoresWithoutKey (keyPath : Bytes) :
    Proc Answer DataDirectory (Except KeyError (List Bytes)) :=
  Proc.look fun answer dir =>
    if answer.fails then .error .failed else .ok (dir.authenticatedStores keyPath)

def onKeyFiles {α : Type} (p : Files α) : Proc Answer DataDirectory α :=
  p.within keyFiles fun keyFiles dir => { dir with keyFiles }

def loadInstallationKeys (location : KeyLocation) (allowGenerate : Bool) :
    Proc Answer DataDirectory (Except KeyError InstallationKeys) :=
  loadInstallationKeysLocked onKeyFiles (authenticatedStoresWithoutKey location.path) location
    allowGenerate

end DataDirectory

/-! ## The walk covers the names of stores -/

theorem Entries.keyDependent_of_get? {keyPath lead name : Bytes} {entry : Entry}
    (hname : isAtomicTemporaryName name = false) {path : Bytes}
    (hpath : path ∈ entry.keyDependent keyPath (lead ++ name)) :
    ∀ {entries : Entries}, entries.get? name = some entry →
      path ∈ entries.keyDependent keyPath lead
  | .nil, h => by cases h
  | .cons other found rest, h => by
    rw [Entries.get?] at h
    rw [Entries.keyDependent, List.mem_append]
    split at h
    · next hsame =>
      cases h
      rw [hsame, hname]
      exact .inl hpath
    · exact .inr (keyDependent_of_get? hname hpath h)

def joinPath (components : List Bytes) : Bytes := Net.joinWith [47] components

theorem joinPath_pieces (name : Bytes) : joinPath (Strings.pieces 47 name) = name := by
  induction name with
  | nil => rfl
  | cons b rest ih =>
    rw [Strings.pieces]
    cases hpieces : Strings.pieces 47 rest with
    | nil => exact absurd hpieces (Strings.pieces_ne_nil 47 rest)
    | cons first others =>
      rw [hpieces] at ih
      split
      · next hslash =>
        rw [hslash, ← ih]
        rfl
      · rw [← ih]
        cases others with
        | nil | cons => rfl

variable {content : Content}

theorem Entries.mem_keyDependent {keyPath : Bytes}
    (hdependent : isKeyDependentEnvelope content = true) {components : List Bytes}
    (hcomponents : ∀ name ∈ components, isAtomicTemporaryName name = false) {lead : Bytes}
    {entries : Entries} (hfind : entries.find? components = some (.file content))
    (hpath : lead ++ joinPath components ≠ keyPath) :
    lead ++ joinPath components ∈ entries.keyDependent keyPath lead := by
  induction components generalizing lead entries with
  | nil => cases hfind
  | cons name rest ih =>
    have hname := hcomponents name List.mem_cons_self
    cases rest with
    | nil =>
      refine Entries.keyDependent_of_get? hname ?_ hfind
      rw [Entry.keyDependent, if_pos ⟨hpath, hdependent⟩]
      exact List.mem_singleton_self _
    | cons next rest =>
      rw [Entries.find?] at hfind
      · split at hfind
        · next inner hget =>
          have hjoin : lead ++ joinPath (name :: next :: rest) =
              (lead ++ name ++ [47]) ++ joinPath (next :: rest) := by
            simp [joinPath, Net.joinWith]
          rw [hjoin] at hpath ⊢
          apply Entries.keyDependent_of_get? hname _ hget
          exact ih (fun other hother => hcomponents other (List.mem_cons_of_mem _ hother))
            hfind hpath
        · cases hfind
      · simp

/-! ## What this package writes is recognized -/

def envelopeLead : Bytes := utf8 "\x7b\"data\":\"" ++ gcmPayloadPrefix

theorem text_sealedEnvelope {c : Cipher} (hsound : c.Sound) (data : Bytes) (key : Key)
    (name nonce : Bytes) :
    ∃ rest, (sealedEnvelope c data key name nonce).text = envelopeLead ++ rest := by
  rw [sealedEnvelope, toValidUTF8_encryptGCM hsound]
  exact ⟨_, rfl⟩

theorem keyDependent_of_lead {rest : Bytes} (h : content.text = envelopeLead ++ rest) :
    isKeyDependentEnvelope content = true := by
  have hplain : (envelopeLead.all isPlain) = true := by decide
  have hfront : (envelopeLead ++ rest).take envelopeInspectionBytes =
      envelopeLead ++ rest.take (envelopeInspectionBytes - envelopeLead.length) := by
    have hlength : envelopeLead.length ≤ envelopeInspectionBytes := by decide
    rw [List.take_append, List.take_of_length_le hlength]
  have hnonempty : envelopeLead ≠ [] := by decide
  obtain ⟨kept, _, htrim⟩ := trimSpace_append hnonempty (List.all_eq_true.mp hplain)
    (rest.take (envelopeInspectionBytes - envelopeLead.length))
  unfold isKeyDependentEnvelope
  simp only [h, hfront, htrim]
  rfl

/-! ## A lost key -/

namespace DataDirectory

variable {location : KeyLocation} {dir : DataDirectory}

theorem mem_authenticatedStores {c : Cipher} (hsound : c.Sound) (hlinked : dir.linked = false)
    {name data nonce : Bytes} {key : Key} (hname : dir.storagePath name = some name)
    (hkey : name ≠ location.path) (hstore : dir.entries.find? (Strings.pieces 47 name) =
      some (.file (sealedEnvelope c data key name nonce))) :
    name ∈ dir.authenticatedStores location.path := by
  obtain ⟨rest, hrest⟩ := text_sealedEnvelope hsound data key name nonce
  have hdependent := keyDependent_of_lead hrest
  have hcomponents : ∀ component ∈ Strings.pieces 47 name,
      isAtomicTemporaryName component = false := by
    intro component hcomponent
    by_contra hreserved
    have hany : (Strings.pieces 47 name).any isAtomicTemporaryName = true :=
      List.any_eq_true.mpr ⟨component, hcomponent, by simpa using hreserved⟩
    unfold storagePath Storage.storagePath at hname
    simp only at hname
    split at hname
    · cases hname
    · next hok =>
      split at hok
      · cases hok
      · cases hok
  have hpath : [] ++ joinPath (Strings.pieces 47 name) ≠ location.path := by
    rw [joinPath_pieces]
    exact hkey
  have hmem := Entries.mem_keyDependent hdependent hcomponents hstore hpath
  rw [joinPath_pieces] at hmem
  rw [authenticatedStores, hlinked]
  exact hmem

theorem ensures_readKeys (hmissing : dir.keyFiles = ∅) {inv : DataDirectory → Prop}
    {post : Except KeyError InstallationKeys → DataDirectory → Prop} (hinv : inv dir)
    (hpost : ∀ err, post (.error err) dir) :
    (onKeyFiles (readInstallationKeys location.path)).Ensures inv post dir := by
  refine ⟨hinv, fun answer => ⟨hinv, ?_⟩⟩
  have hlookup : dir.keyFiles.lookup location.path = none := by rw [hmissing, AList.lookup_empty]
  simp only [hlookup]
  split
  · exact hpost _
  · exact hpost _

theorem ensures_refuses (hmissing : dir.keyFiles = ∅)
    (hstores : location.managed = true ∨ dir.authenticatedStores location.path ≠ []) :
    (loadInstallationKeys location true).Ensures (fun dir => dir.keyFiles = ∅)
      (fun result _ => ∃ err, result = .error err) dir := by
  have hrefused (err : KeyError) :
      (pure (.error err) : Proc Answer DataDirectory (Except KeyError InstallationKeys)).Ensures
        (fun dir => dir.keyFiles = ∅) (fun result _ => ∃ err, result = .error err) dir :=
    Proc.ensures_pure hmissing ⟨err, rfl⟩
  refine Proc.ensures_bind (ensures_readKeys hmissing hmissing fun err => ?_)
  split
  · split
    · exact hrefused _
    · next hmanaged =>
      refine Proc.ensures_bind (Proc.ensures_look hmissing fun answer => ?_)
      split
      · exact hrefused _
      · next hnone =>
        split at hnone
        · cases hnone
        · rw [Except.ok.injEq] at hnone
          rcases hstores with hstores | hstores
          · exact absurd hstores hmanaged
          · exact absurd hnone hstores
      · refine Proc.ensures_bind (ensures_readKeys hmissing hmissing fun err => ?_)
        split
        · exact hrefused _
        · exact hrefused _
  · exact hrefused _

theorem delivers_onKeyFiles {α : Type} {p : Files α} {good : Answer → Prop}
    {post : α → DataDirectory → Prop}
    (h : p.Delivers good (fun value keyFiles => post value { dir with keyFiles }) dir.keyFiles) :
    (onKeyFiles p).Delivers good post dir := by
  apply Proc.Delivers.within
  · intro keyFiles dir
    rfl
  · intro keyFiles other dir
    rfl
  · intro dir
    rfl
  · exact h

theorem delivers_creates (hmissing : dir.keyFiles = ∅) (hmanaged : location.managed = false)
    (hlinked : dir.linked = true) :
    (loadInstallationKeys location true).Delivers (·.fails = false)
      (fun result _ => ∃ keys, result = .ok keys) dir := by
  have hcreatable : Creatable location ∅ := ⟨hmanaged, AList.notMem_empty _, nofun⟩
  refine Proc.delivers_bind (delivers_onKeyFiles fun answer hanswer => ?_)
  simp only [hanswer, hmissing, hmanaged]
  refine Proc.delivers_bind fun answer hanswer => ?_
  simp only [hanswer, hlinked]
  exact delivers_onKeyFiles (delivers_createKey hcreatable
    fun keys _ _ _ => ⟨keys, rfl⟩)

/-- Without a key file, a new key is refused for the sake of a store in the tree, exactly if
the key is managed or the data directory is not a link. -/
theorem lostKey_refused_iff {c : Cipher} (hsound : c.Sound) (hmissing : dir.keyFiles = ∅)
    (habsent : dir.entries.find? (Strings.pieces 47 location.path) = none)
    {name data nonce : Bytes} {key : Key} (hname : dir.storagePath name = some name)
    (hstore : dir.entries.find? (Strings.pieces 47 name) =
      some (.file (sealedEnvelope c data key name nonce))) :
    (loadInstallationKeys location true).Ensures (fun dir => dir.keyFiles = ∅)
        (fun result _ => ∃ err, result = .error err) dir ↔
      location.managed = true ∨ dir.linked = false := by
  constructor
  · intro h
    by_contra hnot
    rw [not_or, Bool.not_eq_true, Bool.not_eq_false] at hnot
    have hsteady : steadyAnswer.fails = false := rfl
    obtain ⟨err, herr⟩ := h.finish steadyAnswer
    obtain ⟨keys, hkeys⟩ := (delivers_creates hmissing hnot.1 hnot.2).finish hsteady
    cases hkeys.symm.trans herr
  · rintro (hmanaged | hlinked)
    · exact ensures_refuses hmissing (.inl hmanaged)
    · have hkey : name ≠ location.path := by
        rintro rfl
        cases habsent.symm.trans hstore
      have hmem := mem_authenticatedStores hsound hlinked hname hkey hstore
      exact ensures_refuses hmissing (.inr (List.ne_nil_of_mem hmem))

end DataDirectory

/-! ## A directory and a link to it -/

def familyDirectory (linked : Bool) : DataDirectory where
  linked := linked
  entries :=
    .cons (utf8 ".GSSettings.tmp-17") (.file (.bytes []))
      (.cons (utf8 "policies")
        (.directory (.cons (utf8 "family")
          (.file (sealedEnvelope clearCipher (utf8 "a") steadyAnswer.random
            (utf8 "policies/family") [])) .nil))
        (.cons (utf8 "log.db") (.file (.bytes (utf8 "bolt"))) .nil))
  keyFiles := ∅

theorem lostKey_refused_family :
    (DataDirectory.loadInstallationKeys unmanagedKey true).Ensures (fun dir => dir.keyFiles = ∅)
      (fun result _ => ∃ err, result = .error err) (familyDirectory false) :=
  (DataDirectory.lostKey_refused_iff clearCipher_sound rfl (by rfl)
    (show (familyDirectory false).storagePath (utf8 "policies/family") = _ by rfl)
    (by rfl)).mpr (.inr rfl)

/-- The same directory through a link gets a new key. -/
theorem lostKey_replaced_family :
    ((familyDirectory true).storagePath (utf8 "policies/family")).isSome = true ∧
      ((DataDirectory.loadInstallationKeys unmanagedKey true).finish steadyAnswer
        (familyDirectory true)).1.keyFiles.lookup installationKeyFilename =
          some (.bytes steadyAnswer.random.val) := by
  decide +kernel

end GateSentry.Storage
