import GateSentry.Discovery.Types

/-!
# The durable part of the devices

`persistence.go`: the stored document of device assignments and the transactions
on it.
-/

namespace GateSentry.Discovery

open Foundation ByteText Calendar

structure DeviceAssignment where
  id : Bytes
  dnsName : Bytes
  manualName : Bytes
  owner : Bytes
  category : Bytes
  hostnames : List Bytes
  mdnsNames : List Bytes
  macs : List Bytes
  firstSeen : Time
  persistent : Bool
  tailscaleNodes : List TailscaleIdentity
  deriving DecidableEq

def deviceAssignmentsVersion : Int := 2

structure DeviceAssignments where
  version : Int
  assignments : Option (Dict Bytes DeviceAssignment)

inductive StoredText where
  | empty
  | malformed
  | encoded (document : DeviceAssignments)

def StoredText.records : StoredText → Dict Bytes DeviceAssignment
  | .encoded ⟨_, some assignments⟩ => assignments
  | _ => ∅

/-! ## Reading -/

inductive DecodeError where
  | parse
  | unsupportedVersion (version : Int)
  | noAssignments
  | emptyID
  | keyMismatch (id recordID : Bytes)
  | sharedNode (nodeID owner deviceID : Bytes)
  deriving DecidableEq

def recordError (id : Bytes) (assignment : DeviceAssignment) : Option DecodeError :=
  if id.isEmpty then some .emptyID
  else if assignment.id ≠ id then some (.keyMismatch id assignment.id)
  else none

def nodeClaims (assignments : Dict Bytes DeviceAssignment) : List (Bytes × Bytes) :=
  assignments.entries.flatMap fun entry =>
    ((entry.2.tailscaleNodes.map fun identity => normalizeNodeID identity.nodeID).filter
      (!·.isEmpty)).map (·, entry.1)

def sharedNodeError : List (Bytes × Bytes) → Dict Bytes Bytes → Option DecodeError
  | [], _ => none
  | (nodeID, deviceID) :: rest, nodeOwners =>
    match nodeOwners.lookup nodeID with
    | none => sharedNodeError rest (nodeOwners.insert nodeID deviceID)
    | some owner =>
      if owner ≠ deviceID then some (.sharedNode nodeID owner deviceID)
      else sharedNodeError rest nodeOwners

def decodeDeviceAssignments : StoredText → Except DecodeError (Dict Bytes DeviceAssignment)
  | .empty => .ok ∅
  | .malformed => .error .parse
  | .encoded document =>
    if document.version ≠ 1 ∧ document.version ≠ deviceAssignmentsVersion then
      .error (.unsupportedVersion document.version)
    else
      match document.assignments with
      | none => .error .noAssignments
      | some assignments =>
        let shared :=
          if document.version = deviceAssignmentsVersion then
            sharedNodeError (nodeClaims assignments) ∅
          else none
        match assignments.entries.findSome? (fun entry => recordError entry.1 entry.2),
          shared with
        | some err, _ => .error err
        | none, some err => .error err
        | none, none => .ok assignments

def encodeDeviceAssignments (assignments : Dict Bytes DeviceAssignment) : StoredText :=
  .encoded { version := deviceAssignmentsVersion, assignments := some assignments }

theorem decode_records {text : StoredText}
    {assignments : Dict Bytes DeviceAssignment}
    (hdecode : decodeDeviceAssignments text = .ok assignments) : text.records = assignments := by
  cases text with
  | empty =>
    cases hdecode
    rfl
  | malformed => cases hdecode
  | encoded document =>
    obtain ⟨version, stored⟩ := document
    simp only [decodeDeviceAssignments] at hdecode
    split at hdecode
    · cases hdecode
    · cases stored with
      | none => cases hdecode
      | some stored =>
        dsimp only at hdecode
        split at hdecode
        · cases hdecode
        · cases hdecode
        · cases hdecode
          rfl

/-! ## Transactions -/

/-- How the storage behaves in one transaction.  It may be unreadable, and a write
may fail, or take effect and yet report an error. -/
inductive StorageResult where
  | unreadable
  | written
  | failed
  | uncertain
  deriving DecidableEq

inductive PersistError where
  | storage
  | decode (err : DecodeError)
  deriving DecidableEq

structure Persistence where
  present : Bool
  text : StoredText

namespace Persistence

/-- `UpdateValue` on the key of the assignments; an update without a new text keeps
the current one. -/
def updateValue (p : Persistence) (update : StoredText → Except DecodeError (Option StoredText))
    (storage : StorageResult) : Persistence × Option PersistError :=
  if storage = .unreadable then (p, some .storage)
  else
    match update p.text with
    | .error err => (p, some (.decode err))
    | .ok next =>
      if p.present && next.isNone then (p, none)
      else
        let updated := { present := true, text := next.getD p.text }
        match storage with
        | .written => (updated, none)
        | .uncertain => (updated, some .storage)
        | _ => (p, some .storage)

theorem text_updateValue (p : Persistence)
    (update : StoredText → Except DecodeError (Option StoredText)) (storage : StorageResult) :
    (p.updateValue update storage).1.text = p.text ∨
      update p.text = .ok (some (p.updateValue update storage).1.text) := by
  unfold updateValue
  split
  · exact .inl rfl
  · cases hupdate : update p.text with
    | error err => exact .inl rfl
    | ok next =>
      cases next with
      | none =>
        left
        dsimp only
        split
        · rfl
        · cases storage <;> rfl
      | some text =>
        simp only [Option.isNone_some, Bool.and_false]
        cases storage with
        | written | uncertain => exact .inr rfl
        | unreadable | failed => exact .inl rfl

end Persistence

def durableTailscaleIdentities (identities : List TailscaleIdentity) :
    List TailscaleIdentity :=
  identities.filterMap fun identity =>
    let nodeID := normalizeNodeID identity.nodeID
    if nodeID.isEmpty then none
    else some { nodeID, name := trimSpace identity.name, dnsName := trimSpace identity.dnsName }

def assignmentRecord (d : Device) : DeviceAssignment where
  id := d.id
  dnsName := d.dnsName
  manualName := d.manualName
  owner := d.owner
  category := d.category
  hostnames := d.hostnames
  mdnsNames := d.mdnsNames
  macs := d.macs
  firstSeen := d.firstSeen
  persistent := d.persistent
  tailscaleNodes := durableTailscaleIdentities d.tailscaleNodes

def shouldPersistDevice (d : Device) : Bool :=
  d.persistent || !(trimSpace d.manualName).isEmpty || !(trimSpace d.owner).isEmpty ||
    !(trimSpace d.category).isEmpty || !d.tailscaleNodes.isEmpty ||
    d.source = some .manual || d.hasSource .manual

def assignDevice (assignments : Dict Bytes DeviceAssignment) (d : Device) :
    Option (Dict Bytes DeviceAssignment) :=
  if !shouldPersistDevice d then
    if d.id ∈ assignments then some (assignments.erase d.id) else none
  else if assignments.lookup d.id = some (assignmentRecord d) then none
  else some (assignments.insert d.id (assignmentRecord d))

def storeDevice (d : Device) (current : StoredText) : Except DecodeError (Option StoredText) :=
  (decodeDeviceAssignments current).map fun decoded =>
    (assignDevice decoded d).map encodeDeviceAssignments

def assignDevices (assignments : Dict Bytes DeviceAssignment) :
    List Device → Option (Dict Bytes DeviceAssignment)
  | [] => none
  | d :: rest =>
    match assignDevice assignments d with
    | none => assignDevices assignments rest
    | some changed => some ((assignDevices changed rest).getD changed)

def storeDevices (devices : List Device) (current : StoredText) :
    Except DecodeError (Option StoredText) :=
  (decodeDeviceAssignments current).map fun decoded =>
    (assignDevices decoded devices).map encodeDeviceAssignments

def dropRecord (id : Bytes) (current : StoredText) : Except DecodeError (Option StoredText) :=
  (decodeDeviceAssignments current).map fun decoded =>
    if id ∈ decoded then some (encodeDeviceAssignments (decoded.erase id)) else none

namespace Persistence

def persistIfChanged (p : Persistence) (d : Device) (storage : StorageResult) :
    Persistence × Option PersistError :=
  p.updateValue (storeDevice d) storage

def persistDevicesIfChanged (p : Persistence) (devices : List Device)
    (storage : StorageResult) : Persistence × Option PersistError :=
  p.updateValue (storeDevices devices) storage

def remove (p : Persistence) (id : Bytes) (storage : StorageResult) :
    Persistence × Option PersistError :=
  p.updateValue (dropRecord id) storage

def records (p : Persistence) : Dict Bytes DeviceAssignment := p.text.records

end Persistence

variable (p : Persistence)

theorem Persistence.persistDevices_singleton (d : Device) (storage : StorageResult) :
    p.persistDevicesIfChanged [d] storage = p.persistIfChanged d storage := by
  unfold persistDevicesIfChanged persistIfChanged
  congr 1
  funext text
  unfold storeDevices storeDevice
  congr 1
  funext decoded
  unfold assignDevices
  cases assignDevice decoded d <;> rfl

/-! ## The records after a transaction -/

def StorageResult.writes : StorageResult → Bool
  | .written => true
  | .uncertain => true
  | _ => false

namespace Persistence

def Writes (p : Persistence) (storage : StorageResult) : Prop :=
  (∃ assignments, decodeDeviceAssignments p.text = .ok assignments) ∧ storage.writes = true

variable {storage : StorageResult} {p : Persistence}

theorem text_updateValue_of_writes
    {update : StoredText → Except DecodeError (Option StoredText)} {next : Option StoredText}
    (hupdate : update p.text = .ok next) (hstorage : storage.writes = true) :
    (p.updateValue update storage).1.text = next.getD p.text := by
  have hreadable : storage ≠ .unreadable := by
    rintro rfl
    cases hstorage
  unfold updateValue
  rw [hupdate, if_neg hreadable]
  dsimp only
  split
  · next hnone =>
    simp only [Bool.and_eq_true, Option.isNone_iff_eq_none] at hnone
    rw [hnone.2, Option.getD_none]
  · cases storage with
    | unreadable | failed => cases hstorage
    | written | uncertain => rfl

theorem updateValue_of_not_writes
    (h : ¬ p.Writes storage) (f : Dict Bytes DeviceAssignment → Option StoredText) :
    (p.updateValue (fun text => (decodeDeviceAssignments text).map f) storage).1 = p := by
  unfold updateValue
  dsimp only
  split
  · rfl
  · cases hdecode : decodeDeviceAssignments p.text with
    | error err => rfl
    | ok assignments =>
      dsimp only [Except.map]
      split
      · rfl
      · cases storage with
        | unreadable | failed => rfl
        | written | uncertain => exact absurd ⟨⟨assignments, hdecode⟩, rfl⟩ h

theorem records_update_of_writes (h : p.Writes storage)
    (f : Dict Bytes DeviceAssignment → Option (Dict Bytes DeviceAssignment)) :
    (p.updateValue (fun text => (decodeDeviceAssignments text).map fun assignments =>
      (f assignments).map encodeDeviceAssignments) storage).1.records =
      (f p.records).getD p.records := by
  obtain ⟨⟨assignments, hdecode⟩, hstorage⟩ := h
  have hrecords : p.records = assignments := decode_records hdecode
  have hupdate : (decodeDeviceAssignments p.text).map (fun assignments =>
      (f assignments).map encodeDeviceAssignments) =
      .ok ((f assignments).map encodeDeviceAssignments) := by
    rw [hdecode]
    rfl
  unfold records at hrecords ⊢
  rw [text_updateValue_of_writes hupdate hstorage, hrecords]
  cases f assignments with
  | none => exact hrecords
  | some changed => rfl

end Persistence

variable {id : Bytes}

theorem lookup_assignDevice {assignments changed : Dict Bytes DeviceAssignment} {d : Device}
    (hid : id ≠ d.id) (hchanged : assignDevice assignments d = some changed) :
    changed.lookup id = assignments.lookup id := by
  unfold assignDevice at hchanged
  split at hchanged
  · split at hchanged
    · cases hchanged
      rw [AList.lookup_erase_ne hid]
    · cases hchanged
  · split at hchanged
    · cases hchanged
    · cases hchanged
      rw [AList.lookup_insert_ne hid]

theorem lookup_storeDevice {text next : StoredText} {d : Device}
    (hid : id ≠ d.id) (hnext : storeDevice d text = .ok (some next)) :
    next.records.lookup id = text.records.lookup id := by
  unfold storeDevice at hnext
  cases hdecode : decodeDeviceAssignments text with
  | error err => simp [hdecode, Except.map] at hnext
  | ok assignments =>
    cases hchanged : assignDevice assignments d with
    | none => simp [hdecode, hchanged, Except.map] at hnext
    | some changed =>
      simp only [hdecode, hchanged, Except.map, Option.map_some, Except.ok.injEq,
        Option.some.injEq] at hnext
      rw [← hnext, decode_records hdecode]
      exact lookup_assignDevice hid hchanged

theorem Persistence.lookup_persistIfChanged (d : Device) (storage : StorageResult)
    (hid : id ≠ d.id) :
    (p.persistIfChanged d storage).1.records.lookup id = p.records.lookup id := by
  cases p.text_updateValue (storeDevice d) storage with
  | inl hkept => exact congrArg (fun text => text.records.lookup id) hkept
  | inr hnext => exact lookup_storeDevice hid hnext

variable (assignments : Dict Bytes DeviceAssignment)

theorem lookup_assignDevice_self (d : Device) :
    ((assignDevice assignments d).getD assignments).lookup d.id =
      if shouldPersistDevice d then some (assignmentRecord d) else none := by
  unfold assignDevice
  cases hworth : shouldPersistDevice d with
  | false =>
    simp only [Bool.not_false, if_true, Bool.false_eq_true, if_false]
    split
    · rw [Option.getD_some, AList.lookup_erase]
    · next habsent => exact AList.lookup_eq_none.mpr habsent
  | true =>
    simp only [Bool.not_true, Bool.false_eq_true, if_false, if_true]
    split
    · next hsame => rwa [Option.getD_none]
    · rw [Option.getD_some, AList.lookup_insert]

theorem dropRecord_eq (id : Bytes) :
    dropRecord id = fun text => (decodeDeviceAssignments text).map fun decoded =>
      (if id ∈ decoded then some (decoded.erase id) else none).map
        encodeDeviceAssignments := by
  funext text
  unfold dropRecord
  congr 1
  funext decoded
  split <;> rfl

theorem getD_erase (records : Dict Bytes DeviceAssignment) (id : Bytes) :
    (if id ∈ records then some (records.erase id) else none).getD records = records.erase id := by
  split
  · rfl
  · next habsent => exact (AList.ext (List.kerase_of_notMem_keys habsent)).symm

namespace Persistence

variable {storage : StorageResult} {p : Persistence}

theorem persistIfChanged_of_not_writes
    (h : ¬ p.Writes storage) (d : Device) : (p.persistIfChanged d storage).1 = p :=
  updateValue_of_not_writes h _

theorem lookup_persistIfChanged_self (h : p.Writes storage) (d : Device) :
    (p.persistIfChanged d storage).1.records.lookup d.id =
      if shouldPersistDevice d then some (assignmentRecord d) else none := by
  have hrecords := records_update_of_writes h fun assignments => assignDevice assignments d
  rw [← lookup_assignDevice_self p.records d, ← hrecords]
  rfl

theorem remove_of_not_writes
    (h : ¬ p.Writes storage) (id : Bytes) : (p.remove id storage).1 = p := by
  exact updateValue_of_not_writes h _

theorem records_remove_of_writes (h : p.Writes storage) (id : Bytes) :
    (p.remove id storage).1.records = p.records.erase id := by
  unfold remove
  rw [dropRecord_eq, records_update_of_writes h, getD_erase]

theorem lookup_remove (storage : StorageResult) {id other : Bytes} (hid : other ≠ id) :
    (p.remove id storage).1.records.lookup other = p.records.lookup other := by
  by_cases h : p.Writes storage
  · rw [records_remove_of_writes h, AList.lookup_erase_ne hid]
  · rw [remove_of_not_writes h]

end Persistence

/-! ## Reported results -/

theorem assignDevices_cons (d : Device) (rest : List Device) :
    (assignDevices assignments (d :: rest)).getD assignments =
      (assignDevices ((assignDevice assignments d).getD assignments) rest).getD
        ((assignDevice assignments d).getD assignments) := by
  rw [assignDevices]
  cases assignDevice assignments d <;> rfl

namespace Persistence

variable {storage : StorageResult} {p : Persistence}

theorem updateValue_ok {f : Dict Bytes DeviceAssignment → Option (Dict Bytes DeviceAssignment)}
    (h : (p.updateValue (fun text => (decodeDeviceAssignments text).map fun assignments =>
      (f assignments).map encodeDeviceAssignments) storage).2 = none) :
    (p.updateValue (fun text => (decodeDeviceAssignments text).map fun assignments =>
      (f assignments).map encodeDeviceAssignments) storage).1.records =
      (f p.records).getD p.records := by
  by_cases hwrites : p.Writes storage
  · exact records_update_of_writes hwrites f
  · rw [updateValue_of_not_writes hwrites]
    unfold updateValue at h
    dsimp only at h
    split at h
    · cases h
    · cases hdecode : decodeDeviceAssignments p.text with
      | error err =>
        rw [hdecode] at h
        cases h
      | ok assignments =>
        rw [hdecode] at h
        dsimp only [Except.map] at h
        have hrecords : p.records = assignments := decode_records hdecode
        rw [hrecords]
        cases hf : f assignments with
        | none => rfl
        | some changed =>
          rw [hf] at h
          simp only [Option.map_some, Option.isNone_some, Bool.and_false] at h
          cases storage with
          | unreadable | failed => cases h
          | written => exact absurd ⟨⟨assignments, hdecode⟩, rfl⟩ hwrites
          | uncertain => cases h

variable {err : PersistError}

theorem updateValue_error (hstorage : storage ≠ .uncertain)
    {update : StoredText → Except DecodeError (Option StoredText)}
    (h : (p.updateValue update storage).2 = some err) : (p.updateValue update storage).1 = p := by
  unfold updateValue at h ⊢
  split at h
  · next hunreadable => rw [if_pos hunreadable]
  · next hreadable =>
    rw [if_neg hreadable]
    cases hupdate : update p.text with
    | error err => rfl
    | ok next =>
      rw [hupdate] at h
      dsimp only at h ⊢
      split at h
      · cases h
      · next hchanged =>
        rw [if_neg hchanged]
        cases storage with
        | unreadable | failed => rfl
        | written => cases h
        | uncertain => exact absurd rfl hstorage

variable {p written : Persistence} {devices : List Device}

theorem persistDevicesIfChanged_ok
    (h : p.persistDevicesIfChanged devices storage = (written, none)) :
    written.records = (assignDevices p.records devices).getD p.records := by
  have hstored : (p.persistDevicesIfChanged devices storage).2 = none →
      (p.persistDevicesIfChanged devices storage).1.records =
        (assignDevices p.records devices).getD p.records := updateValue_ok
  rw [h] at hstored
  exact hstored rfl

theorem remove_ok {id : Bytes} (h : p.remove id storage = (written, none)) :
    written.records = p.records.erase id := by
  have hstored : (p.remove id storage).2 = none →
      (p.remove id storage).1.records = p.records.erase id := by
    unfold remove
    rw [dropRecord_eq, ← getD_erase]
    exact updateValue_ok
  rw [h] at hstored
  exact hstored rfl

theorem persistDevices_error (hstorage : storage ≠ .uncertain)
    (h : p.persistDevicesIfChanged devices storage = (written, some err)) : written = p := by
  have hsame : (p.persistDevicesIfChanged devices storage).2 = some err →
      (p.persistDevicesIfChanged devices storage).1 = p := updateValue_error hstorage
  rw [h] at hsame
  exact hsame rfl

end Persistence

end GateSentry.Discovery
