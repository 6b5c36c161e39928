import GateSentry.Storage.RoundTrip

/-!
# The key file after rotations

Every rotation retains the keys before it, so the key file grows until a pruning.  Whether
the file that a call leaves behind is read back, over any number of calls.
-/

namespace GateSentry.Storage

open Foundation ByteText

inductive KeyCall where
  | rotate (storeNames : List Bytes)
  | prune (storeNames : List Bytes)

def retainedKeys (keys : InstallationKeys) : List Key := (allKeys keys).foldl appendUnique []

namespace KeyCall

variable (c : Cipher) (location : KeyLocation)

def program : KeyCall → Files (Option RotationError)
  | .rotate storeNames => rotateInstallationKey c location storeNames
  | .prune storeNames => prunePreviousInstallationKeys c location storeNames

def Writes (keys written : InstallationKeys) : KeyCall → Prop
  | .rotate _ => ∃ newKey, written = rotatedKeys newKey keys
  | .prune _ => written = currentOnly keys

end KeyCall

/-! ## What a successful call leaves behind -/

section Calls

variable {c : Cipher} {location : KeyLocation} {disk : Disk}

def Leaves (location : KeyLocation) (disk : Disk) (call : KeyCall)
    (result : Option RotationError) (after : Disk) : Prop :=
  result = none → ∃ keys written, keysOnDisk location disk = some keys ∧
    call.Writes keys written ∧ after.lookup location.path = some (encodeKeyring written)

theorem call_leaves (call : KeyCall) (answers : Nat → Answer) :
    Leaves location disk call ((call.program c location).drive answers disk).2
      ((call.program c location).drive answers disk).1 := by
  intro hresult
  cases call with
  | rotate names =>
    have hrotate : (rotateInstallationKey c location names).Ensures (fun _ => True) _ disk :=
      ensures_rotateKey trivial
        (fun _ _ _ => ⟨trivial, fun _ _ _ _ _ _ _ => trivial⟩) names
    obtain ⟨keys, newKey, hkeys, hfile⟩ := hrotate.drive answers hresult
    exact ⟨keys, _, hkeys, ⟨newKey, rfl⟩, hfile⟩
  | prune names =>
    have hprune : (prunePreviousInstallationKeys c location names).Ensures (fun _ => True) _ disk :=
      ensures_pruneKeys trivial fun _ _ _ _ _ => trivial
    obtain ⟨keys, hkeys, hfile⟩ := hprune.drive answers hresult
    exact ⟨keys, _, hkeys, rfl, hfile⟩

end Calls

/-! ## Runs of calls -/

structure KeyStep where
  call : KeyCall
  before : Disk
  result : Option RotationError
  after : Disk

def keySteps (c : Cipher) (location : KeyLocation) :
    List (KeyCall × (Nat → Answer)) → Disk → List KeyStep
  | [], _ => []
  | (call, answers) :: rest, disk =>
    let (after, result) := (call.program c location).drive answers disk
    ⟨call, disk, result, after⟩ :: keySteps c location rest after

namespace KeyStep

def ReadsBack (location : KeyLocation) (step : KeyStep) : Prop :=
  ∃ keys written, keysOnDisk location step.before = some keys ∧ step.call.Writes keys written ∧
    step.after.lookup location.path = some (encodeKeyring written) ∧
    keysOfContent (encodeKeyring written) = .ok written

/-- A rotation finds no more keys than the reader of the key file accepts as previous ones. -/
def WithinLimit (location : KeyLocation) (step : KeyStep) : Prop :=
  ∀ storeNames keys, step.call = .rotate storeNames →
    keysOnDisk location step.before = some keys → (retainedKeys keys).length ≤ 1422

theorem keysOf_encodeKeyring_iff {keys : InstallationKeys} :
    keysOfContent (encodeKeyring keys) = .ok keys ↔ keys.previous.length ≤ 1422 := by
  rw [← fits_iff]
  constructor
  · intro hread
    by_contra hlarge
    unfold keysOfContent at hread
    rw [if_pos (Nat.lt_of_not_le hlarge)] at hread
    cases hread
  · exact keysOf_encodeKeyring

theorem readsBack_iff {location : KeyLocation} {step : KeyStep}
    (hleaves : Leaves location step.before step.call step.result step.after)
    (hsucceeds : step.result = none) : step.ReadsBack location ↔ step.WithinLimit location := by
  constructor
  · rintro ⟨keys, written, hkeys, hwrites, -, hread⟩ storeNames found hcall hfound
    cases hkeys.symm.trans hfound
    rw [hcall] at hwrites
    obtain ⟨newKey, rfl⟩ := hwrites
    exact keysOf_encodeKeyring_iff.mp hread
  · intro hwithin
    obtain ⟨keys, written, hkeys, hwrites, hfile⟩ := hleaves hsucceeds
    refine ⟨keys, written, hkeys, hwrites, hfile, keysOf_encodeKeyring_iff.mpr ?_⟩
    cases hcall : step.call with
    | rotate storeNames =>
      rw [hcall] at hwrites
      obtain ⟨newKey, rfl⟩ := hwrites
      exact hwithin storeNames keys hcall hkeys
    | prune storeNames =>
      rw [hcall] at hwrites
      cases hwrites
      exact Nat.zero_le _

end KeyStep

theorem leaves_of_mem_keySteps {c : Cipher} {location : KeyLocation}
    {calls : List (KeyCall × (Nat → Answer))} {disk : Disk} {step : KeyStep}
    (h : step ∈ keySteps c location calls disk) :
    Leaves location step.before step.call step.result step.after := by
  induction calls generalizing disk with
  | nil => cases h
  | cons head rest ih =>
    rcases List.mem_cons.mp h with rfl | hrest
    · exact call_leaves head.1 head.2
    · exact ih hrest

/-- In a run of rotations and prunings, every successful call leaves a key file that is read
back as written, exactly when every successful rotation finds at most 1422 keys. -/
theorem key_file_reads_back_iff (c : Cipher) (location : KeyLocation)
    (calls : List (KeyCall × (Nat → Answer))) (disk : Disk) :
    (∀ step ∈ keySteps c location calls disk, step.result = none → step.ReadsBack location) ↔
    ∀ step ∈ keySteps c location calls disk, step.result = none → step.WithinLimit location := by
  constructor
  · intro hreads step hstep hsucceeds
    exact (KeyStep.readsBack_iff (leaves_of_mem_keySteps hstep) hsucceeds).mp
      (hreads step hstep hsucceeds)
  · intro hwithin step hstep hsucceeds
    exact (KeyStep.readsBack_iff (leaves_of_mem_keySteps hstep) hsucceeds).mpr
      (hwithin step hstep hsucceeds)

/-! ## A full key file -/

def numberedKey (n : Nat) : Key :=
  ⟨UInt8.ofNat (n / 256) :: UInt8.ofNat n :: List.replicate 30 0, by simp [keySize]⟩

theorem numberedKey_inj {m n : Nat} (hm : m < 65536) (hn : n < 65536)
    (h : numberedKey m = numberedKey n) : m = n := by
  have hbytes := congrArg Subtype.val h
  simp only [numberedKey, List.cons.injEq, and_true] at hbytes
  have hhigh := congrArg UInt8.toNat hbytes.1
  have hlow := congrArg UInt8.toNat hbytes.2
  simp only [UInt8.toNat_ofNat'] at hhigh hlow
  omega

def numberedKeys (n : Nat) : InstallationKeys :=
  ⟨numberedKey n, (List.range n).map numberedKey⟩

theorem length_retained_numbered {n : Nat} (hn : n < 65536) :
    n < (retainedKeys (numberedKeys n)).length := by
  have hnodup : ((List.range (n + 1)).map numberedKey).Nodup := by
    apply List.Nodup.map_on _ List.nodup_range
    intro i hi j hj h
    rw [List.mem_range] at hi hj
    exact numberedKey_inj (by omega) (by omega) h
  have hsubset : (List.range (n + 1)).map numberedKey ⊆ retainedKeys (numberedKeys n) := by
    intro key hkey
    apply mem_foldl_appendUnique.mpr
    rw [List.range_succ, List.map_append, List.mem_append] at hkey
    rcases hkey with hprevious | hcurrent
    · exact .inr (List.mem_cons_of_mem _ hprevious)
    · rw [List.mem_singleton.mp hcurrent]
      exact .inr List.mem_cons_self
  have hlength := (List.subperm_of_subset hnodup hsubset).length_le
  rwa [List.length_map, List.length_range] at hlength

def keyDisk (keys : InstallationKeys) : Disk :=
  (∅ : Disk).insert installationKeyFilename (encodeKeyring keys)

variable {keys : InstallationKeys}

section

variable (hkeys : keysOnDisk unmanagedKey (keyDisk keys) = some keys)

include hkeys

theorem delivers_rotate_keyDisk :
    (rotateInstallationKey clearCipher unmanagedKey [utf8 "GSSettings"]).Delivers
      (·.fails = false) (fun result _ => result = none) (keyDisk keys) := by
  have hother : utf8 "GSSettings" ≠ unmanagedKey.path := by decide +kernel
  have hmissing (content : Content) : ((keyDisk keys).insert unmanagedKey.path content).lookup
      (utf8 "GSSettings") = none := by
    exact AList.lookup_insert_ne hother
  have hfails : ¬ MayFail fun answer => answer.fails = false := by
    rintro ⟨answer, hanswer, hfails⟩
    cases hanswer.symm.trans hfails
  refine Proc.delivers_bind (delivers_loadKeys (fun hmay => absurd hmay hfails)
    fun result hresult => ?_)
  rw [hkeys] at hresult
  cases result with
  | error err => cases hresult
  | ok found =>
    refine Proc.delivers_bind fun answer hanswer => ?_
    simp only [hanswer]
    refine Proc.delivers_bind (Proc.delivers_bind (delivers_atomicWrite (by decide +kernel) ?_))
    refine Proc.delivers_bind ?_
    refine Proc.delivers_bind (delivers_readFile (fun hmay => absurd hmay hfails) ?_)
    rw [hmissing]
    exact rfl

def oneRotation : List (KeyCall × (Nat → Answer)) :=
  [(.rotate [utf8 "GSSettings"], fun _ => ⟨false, numberedKey 0⟩)]

theorem rotation_refused (hlarge : 1422 < (retainedKeys keys).length) :
    ∃ step ∈ keySteps clearCipher unmanagedKey oneRotation (keyDisk keys),
      step.result = none ∧ ¬ step.ReadsBack unmanagedKey := by
  have hsucceeds := (delivers_rotate_keyDisk hkeys).drive (fun _ => ⟨false, numberedKey 0⟩)
    fun _ => rfl
  refine ⟨_, List.mem_cons_self, hsucceeds, fun hreads => ?_⟩
  have hwithin := (KeyStep.readsBack_iff (call_leaves (.rotate _) _) hsucceeds).mp hreads
  exact Nat.not_lt.mpr (hwithin _ keys rfl hkeys) hlarge

end

/-- A key file with as many previous keys as its reader accepts: the rotation succeeds and
leaves a file that is refused. -/
theorem full_key_file_refused :
    keysOnDisk unmanagedKey (keyDisk (numberedKeys 1422)) = some (numberedKeys 1422) ∧
    ∃ step ∈ keySteps clearCipher unmanagedKey oneRotation (keyDisk (numberedKeys 1422)),
      step.result = none ∧ ¬ step.ReadsBack unmanagedKey := by
  have hfits : (numberedKeys 1422).previous.length ≤ 1422 := by simp [numberedKeys]
  have hkeys : keysOnDisk unmanagedKey (keyDisk (numberedKeys 1422)) =
      some (numberedKeys 1422) := by
    apply keysOnDisk_insert_self
    exact KeyStep.keysOf_encodeKeyring_iff.mpr hfits
  exact ⟨hkeys, rotation_refused hkeys (length_retained_numbered (by decide))⟩

end GateSentry.Storage
