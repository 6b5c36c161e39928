import GateSentry.Discovery.Store

/-!
# Loading the devices at startup

`AttachPersistenceWithProtectedIDs`: the stored document is migrated and its records
become devices again.
-/

namespace GateSentry.Discovery

open Foundation ByteText Calendar

def newDeviceStoreMultiZone (zones : List Bytes) : DeviceStore :=
  let filtered := (zones.map trimSpace).filter (!·.isEmpty)
  { devices := ∅
    zones := if filtered.isEmpty then [utf8 "local"] else filtered
    indexes := {}
    persistence := none
    identified := identified_empty
    zoned := by
      split
      · simp
      · next hfiltered => simpa using hfiltered
    indexed := ⟨[], .refl _, rfl⟩ }

/-! ## Migration -/

def StoredText.sourceVersion : StoredText → Int
  | .encoded document => document.version
  | _ => deviceAssignmentsVersion

def DeviceAssignment.isChosen (a : DeviceAssignment) : Bool :=
  a.persistent || !(trimSpace a.manualName).isEmpty || !(trimSpace a.owner).isEmpty ||
    !(trimSpace a.category).isEmpty

def DeviceAssignment.migrated (a : DeviceAssignment) (id : Bytes) : DeviceAssignment :=
  { a with id, tailscaleNodes := durableTailscaleIdentities a.tailscaleNodes }

def keepsRecord (sourceVersion : Int) (protectedIDs : List Bytes) (id : Bytes)
    (a : DeviceAssignment) : Bool :=
  sourceVersion ≠ 1 || a.isChosen || protectedIDs.contains id

def migrateDeviceAssignments (assignments : Dict Bytes DeviceAssignment) (sourceVersion : Int)
    (protectedIDs : List Bytes) : Dict Bytes DeviceAssignment :=
  Dict.assign ((assignments.entries.filter fun entry =>
    keepsRecord sourceVersion protectedIDs entry.1 entry.2).map fun entry =>
      (entry.1, entry.2.migrated entry.1)) ∅

/-- Whether the migrated document is written: it is compared with the stored one by
`reflect.DeepEqual`, to which an absent list of nodes differs from an empty one. -/
def needsMigration (assignments : Dict Bytes DeviceAssignment) (sourceVersion : Int)
    (protectedIDs : List Bytes) : Bool :=
  sourceVersion ≠ deviceAssignmentsVersion || assignments.entries.any fun entry =>
    entry.2.tailscaleNodes.isEmpty || entry.2.migrated entry.1 ≠ entry.2 ||
      !keepsRecord sourceVersion protectedIDs entry.1 entry.2

variable {assignments : Dict Bytes DeviceAssignment} {protectedIDs : List Bytes} {id : Bytes}
  {sourceVersion : Int}

theorem mem_migrateAssignments :
    id ∈ migrateDeviceAssignments assignments sourceVersion protectedIDs ↔
      ∃ a, assignments.lookup id = some a ∧
        keepsRecord sourceVersion protectedIDs id a = true := by
  unfold migrateDeviceAssignments
  rw [Dict.mem_assign, List.map_map]
  simp only [AList.notMem_empty, false_or, List.mem_map, List.mem_filter]
  constructor
  · rintro ⟨⟨key, a⟩, ⟨hentry, hkeeps⟩, rfl⟩
    exact ⟨a, AList.mem_lookup_iff.mpr hentry, hkeeps⟩
  · rintro ⟨a, hlookup, hkeeps⟩
    exact ⟨⟨id, a⟩, ⟨AList.mem_lookup_iff.mp hlookup, hkeeps⟩, rfl⟩

variable {migrated : DeviceAssignment}

section

variable (h : (migrateDeviceAssignments assignments sourceVersion protectedIDs).lookup id = some migrated)

include h

theorem lookup_migrated : ∃ a, assignments.lookup id = some a ∧ migrated = a.migrated id := by
  obtain ⟨⟨key, a⟩, hmem, hentry⟩ := Dict.exists_of_lookup_assign h
  cases hentry
  exact ⟨a, AList.mem_lookup_iff.mpr (List.mem_filter.mp hmem).1, rfl⟩

theorem lookup_migrateAssignments : migrated.id = id ∧ id ∈ assignments := by
  obtain ⟨a, hlookup, rfl⟩ := lookup_migrated h
  exact ⟨rfl, Dict.mem_iff_lookup.mpr ⟨a, hlookup⟩⟩

end

/-! ## Devices from records -/

def assignmentDevice (a : DeviceAssignment) : Device :=
  { id := a.id, dnsName := a.dnsName, manualName := a.manualName, owner := a.owner
    category := a.category, hostnames := a.hostnames, mdnsNames := a.mdnsNames, macs := a.macs
    firstSeen := a.firstSeen, persistent := a.persistent
    tailscaleNodes := durableTailscaleIdentities a.tailscaleNodes }

def mergePersistedDevice (existing persisted : Device) : Device :=
  let merged := { existing with
    dnsName := if persisted.dnsName.isEmpty then existing.dnsName else persisted.dnsName
    manualName := persisted.manualName
    owner := persisted.owner
    category := persisted.category
    hostnames := mergeStringSlice existing.hostnames persisted.hostnames
    mdnsNames := mergeStringSlice existing.mdnsNames persisted.mdnsNames
    macs := mergeStringSlice existing.macs persisted.macs
    tailscaleNodes :=
      mergeTailscaleIdentities existing.tailscaleNodes persisted.tailscaleNodes
    firstSeen := if persisted.firstSeen = zeroTime then existing.firstSeen
      else persisted.firstSeen
    persistent := existing.persistent || persisted.persistent }
  { merged with displayName := merged.getDisplayName }

def DeviceStore.restoredDevice (ds : DeviceStore) (id : Bytes) (a : DeviceAssignment) :
    Device :=
  let device := match ds.devices.lookup id with
    | none => assignmentDevice a
    | some existing => mergePersistedDevice existing (assignmentDevice a)
  let device := { device with lastSeen := zeroTime, online := false }
  let device := { device with
    dnsName := if device.dnsName.isEmpty then device.deriveDNSName else device.dnsName }
  { device with displayName := device.getDisplayName }

variable {a : DeviceAssignment}

theorem DeviceStore.id_restoredDevice (ds : DeviceStore)
    (ha : a.id = id) : (ds.restoredDevice id a).id = id := by
  unfold DeviceStore.restoredDevice
  split
  · exact ha
  · next existing hlookup => exact (ds.identified hlookup).1

def DeviceStore.restoredDevices (ds : DeviceStore) (records : Dict Bytes DeviceAssignment) :
    Dict Bytes Device :=
  Dict.assign (records.entries.map fun entry =>
    (entry.1, ds.restoredDevice entry.1 entry.2)) ds.devices

variable {records : Dict Bytes DeviceAssignment} {ds : DeviceStore}

theorem DeviceStore.mem_restoredDevices :
    id ∈ ds.restoredDevices records ↔ id ∈ ds.devices ∨ id ∈ records := by
  unfold DeviceStore.restoredDevices
  rw [Dict.mem_assign, List.map_map]
  exact or_congr Iff.rfl AList.mem_keys

theorem DeviceStore.lookup_restoredDevices {d : Device}
    (h : (ds.restoredDevices records).lookup id = some d) :
    ds.devices.lookup id = some d ∨
      ∃ a, records.lookup id = some a ∧ d = ds.restoredDevice id a := by
  rcases Dict.lookup_assign h with hkept | hrestored
  · exact .inl hkept
  · obtain ⟨⟨key, a⟩, hentry, hpair⟩ := List.mem_map.mp hrestored
    cases hpair
    exact .inr ⟨a, AList.mem_lookup_iff.mpr hentry, rfl⟩

theorem DeviceStore.identified_restoredDevices
    (hrecords : ∀ {id a}, records.lookup id = some a → a.id = id ∧ id ≠ []) {d : Device}
    (h : (ds.restoredDevices records).lookup id = some d) : d.id = id ∧ id ≠ [] := by
  rcases DeviceStore.lookup_restoredDevices h with hkept | ⟨a, hlookup, rfl⟩
  · exact ds.identified hkept
  · obtain ⟨ha, hkey⟩ := hrecords hlookup
    exact ⟨ds.id_restoredDevice ha, hkey⟩

/-! ## Attaching -/

variable {text : StoredText}

section

variable (h : decodeDeviceAssignments text = .ok assignments)

include h

theorem identified_of_decode (hlookup : assignments.lookup id = some a) : a.id = id ∧ id ≠ [] := by
  have hentry := AList.mem_lookup_iff.mp hlookup
  cases text with
  | empty =>
    cases h
    simp at hlookup
  | malformed => cases h
  | encoded document =>
    simp only [decodeDeviceAssignments] at h
    split at h
    · cases h
    · split at h
      · cases h
      · split at h
        · cases h
        · cases h
        · next hvalid _ =>
          cases h
          have hrecord := List.findSome?_eq_none_iff.mp hvalid _ hentry
          by_cases hempty : id = []
          · subst hempty
            simp [recordError] at hrecord
          · by_contra hid
            rw [and_iff_left hempty] at hid
            simp [recordError, hempty, hid] at hrecord

inductive AttachError where
  | alreadyAttached
  | persist (err : PersistError)

theorem identified_migrated
    (hlookup : (migrateDeviceAssignments assignments sourceVersion protectedIDs).lookup id =
      some a) : a.id = id ∧ id ≠ [] := by
  obtain ⟨record, hrecord, rfl⟩ := lookup_migrated hlookup
  exact ⟨rfl, (identified_of_decode h hrecord).2⟩

end

/-- `AttachPersistenceWithProtectedIDs`, with the result of the storage for the reading
and, where it is needed, the writing of the migrated document. -/
def attachPersistenceWithProtectedIDs (ds : DeviceStore) (p : Persistence)
    (protectedIDs : List Bytes) (storage : StorageResult) (order : DeviceOrder) :
    Except AttachError DeviceStore :=
  if ds.persistence.isSome then .error .alreadyAttached
  else if storage = .unreadable then .error (.persist .storage)
  else
    match hdecode : decodeDeviceAssignments p.text with
    | .error err => .error (.persist (.decode err))
    | .ok decoded =>
      let migrated := migrateDeviceAssignments decoded p.text.sourceVersion protectedIDs
      let written :=
        if needsMigration decoded p.text.sourceVersion protectedIDs then
          p.updateValue (fun _ => .ok (some (encodeDeviceAssignments migrated))) storage
        else (p, none)
      match written.2 with
      | some err => .error (.persist err)
      | none => .ok ((ds.withDevices order (ds.restoredDevices migrated)
          (DeviceStore.identified_restoredDevices (identified_migrated hdecode))).withPersistence
            written.1)

def attachedDocument (p : Persistence) (protectedIDs : List Bytes) (storage : StorageResult) :
    Persistence :=
  match decodeDeviceAssignments p.text with
  | .error _ => p
  | .ok decoded =>
    if needsMigration decoded p.text.sourceVersion protectedIDs then
      (p.updateValue (fun _ => .ok (some (encodeDeviceAssignments
        (migrateDeviceAssignments decoded p.text.sourceVersion protectedIDs)))) storage).1
    else p

theorem attach_document {ds after : DeviceStore} {p : Persistence} {protectedIDs : List Bytes}
    {storage : StorageResult} {order : DeviceOrder}
    (h : attachPersistenceWithProtectedIDs ds p protectedIDs storage order = .ok after) :
    after.persistence = some (attachedDocument p protectedIDs storage) ∧
      ∃ decoded, decodeDeviceAssignments p.text = .ok decoded ∧ after.devices = ds.restoredDevices
          (migrateDeviceAssignments decoded p.text.sourceVersion protectedIDs) := by
  unfold attachPersistenceWithProtectedIDs at h
  split at h
  · cases h
  · split at h
    · cases h
    · split at h
      · cases h
      · next decoded hdecode =>
        have hdocument : attachedDocument p protectedIDs storage =
            (if needsMigration decoded p.text.sourceVersion protectedIDs then
              p.updateValue (fun _ => .ok (some (encodeDeviceAssignments
                (migrateDeviceAssignments decoded p.text.sourceVersion protectedIDs)))) storage
            else (p, none)).1 := by
          unfold attachedDocument
          rw [hdecode]
          dsimp only
          split <;> rfl
        dsimp only at h
        split at h
        · cases h
        · cases h
          rw [hdocument]
          exact ⟨rfl, decoded, hdecode, rfl⟩

section Attach

variable (ds : DeviceStore) {p : Persistence} (protectedIDs : List Bytes) (order : DeviceOrder)
  {decoded : Dict Bytes DeviceAssignment}

theorem attach_written (hnew : ds.persistence = none)
    (hdecode : decodeDeviceAssignments p.text = .ok decoded) :
    ∃ after, attachPersistenceWithProtectedIDs ds p protectedIDs .written order = .ok after ∧
      after.devices = ds.restoredDevices
        (migrateDeviceAssignments decoded p.text.sourceVersion protectedIDs) := by
  have hdetached : ds.persistence.isSome = false := by rw [hnew]; rfl
  unfold attachPersistenceWithProtectedIDs
  rw [hdetached]
  simp only [if_false, reduceCtorEq]
  split
  · next err herr => cases hdecode.symm.trans herr
  · next stored hstored =>
    cases hdecode.symm.trans hstored
    split
    · next err herr =>
      split at herr
      · simp [Persistence.updateValue] at herr
      · cases herr
    · exact ⟨_, rfl, rfl⟩

theorem mem_migrated_of_unneeded {assignments : Dict Bytes DeviceAssignment}
    {sourceVersion : Int} {protectedIDs : List Bytes}
    (h : ¬ needsMigration assignments sourceVersion protectedIDs = true) {id : Bytes} :
    id ∈ assignments ↔ id ∈ migrateDeviceAssignments assignments sourceVersion protectedIDs := by
  rw [mem_migrateAssignments, ← AList.lookup_isSome, Option.isSome_iff_exists]
  simp only [needsMigration, Bool.or_eq_true, List.any_eq_true, not_or, not_exists, not_and,
    Bool.not_eq_true', Bool.not_eq_false] at h
  constructor
  · rintro ⟨a, hlookup⟩
    exact ⟨a, hlookup, (h.2 ⟨id, a⟩ (AList.mem_lookup_iff.mp hlookup)).2⟩
  · rintro ⟨a, hlookup, -⟩
    exact ⟨a, hlookup⟩

theorem attach_records {after : DeviceStore}
    (hdecode : decodeDeviceAssignments p.text = .ok decoded)
    (h : attachPersistenceWithProtectedIDs ds p protectedIDs .written order = .ok after) :
    after.persistence.isSome = true ∧ ∀ {id}, id ∈ after.records ↔
      id ∈ migrateDeviceAssignments decoded p.text.sourceVersion protectedIDs := by
  have hdocument := (attach_document h).1
  rw [attachedDocument, hdecode] at hdocument
  rw [DeviceStore.records, hdocument]
  refine ⟨rfl, fun {id} => ?_⟩
  dsimp only
  split
  · have htext (next : StoredText) : (p.updateValue (fun _ => .ok (some next)) .written).1.text =
        (some next).getD p.text := Persistence.text_updateValue_of_writes rfl rfl
    change id ∈ (p.updateValue _ .written).1.text.records ↔ _
    rw [htext]
    rfl
  · next hneeded =>
    change id ∈ p.text.records ↔ _
    rw [decode_records hdecode]
    exact mem_migrated_of_unneeded hneeded

theorem attach_unreadable {err : DecodeError} (storage : StorageResult)
    (hdecode : decodeDeviceAssignments p.text = .error err) :
    ∃ err, attachPersistenceWithProtectedIDs ds p protectedIDs storage order = .error err := by
  cases hattach : attachPersistenceWithProtectedIDs ds p protectedIDs storage order with
  | error err => exact ⟨err, rfl⟩
  | ok after =>
    obtain ⟨-, decoded, hdecoded, -⟩ := attach_document hattach
    cases hdecode.symm.trans hdecoded

end Attach

variable {p : Persistence} {storage : StorageResult}

theorem lookup_attachedDocument
    (h : (attachedDocument p protectedIDs storage).records.lookup id = some a) :
    p.records.lookup id = some a ∨ ∃ b, p.records.lookup id = some b ∧ a = b.migrated id := by
  unfold attachedDocument at h
  cases hdecode : decodeDeviceAssignments p.text with
  | error err =>
    rw [hdecode] at h
    exact .inl h
  | ok decoded =>
    rw [hdecode] at h
    dsimp only at h
    split at h
    · rcases p.text_updateValue (fun _ => .ok (some (encodeDeviceAssignments
        (migrateDeviceAssignments decoded p.text.sourceVersion protectedIDs)))) storage with
        hkept | hwritten
      · unfold Persistence.records at h
        rw [hkept] at h
        exact .inl h
      · rw [Except.ok.injEq, Option.some.injEq] at hwritten
        unfold Persistence.records at h
        rw [← hwritten] at h
        obtain ⟨b, hb, rfl⟩ := lookup_migrated h
        rw [← decode_records hdecode] at hb
        exact .inr ⟨b, hb, rfl⟩
    · exact .inl h

variable {order : DeviceOrder}

def startDevices (zones : List Bytes) (p : Persistence) (protectedIDs : List Bytes)
    (storage : StorageResult) (order : DeviceOrder) : DeviceStore :=
  let fresh := newDeviceStoreMultiZone zones
  match attachPersistenceWithProtectedIDs fresh p protectedIDs storage order with
  | .ok ds => ds
  | .error _ => fresh

theorem mem_startDevices {zones : List Bytes} :
    id ∈ (startDevices zones p protectedIDs .written order).devices ↔
      ∃ decoded, decodeDeviceAssignments p.text = .ok decoded ∧
        id ∈ migrateDeviceAssignments decoded p.text.sourceVersion protectedIDs := by
  have hfresh : id ∉ (newDeviceStoreMultiZone zones).devices := AList.notMem_empty id
  unfold startDevices
  dsimp only
  cases hdecode : decodeDeviceAssignments p.text with
  | error err =>
    obtain ⟨err, herr⟩ := attach_unreadable (newDeviceStoreMultiZone zones) protectedIDs order
      .written hdecode
    rw [herr]
    simp [hfresh]
  | ok decoded =>
    obtain ⟨after, hafter, hdevices⟩ := attach_written (newDeviceStoreMultiZone zones)
      protectedIDs order rfl hdecode
    rw [hafter]
    rw [hdevices, DeviceStore.mem_restoredDevices]
    simp [hfresh]

end GateSentry.Discovery
