import GateSentry.Discovery.Links
import GateSentry.Discovery.Recognition

/-!
# What the operations change

For each operation of the device store, the devices that are new after it: every device
afterwards, and every record on disk, stood there before or is that of a new device.
-/

namespace GateSentry.Discovery

open Foundation ByteText Calendar

/-! ## Records -/

variable {a : DeviceAssignment} {id : Bytes} {assignments : Dict Bytes DeviceAssignment}

theorem lookup_assignDevice_cases {d : Device}
    (h : ((assignDevice assignments d).getD assignments).lookup id = some a) :
    assignments.lookup id = some a ∨ a = assignmentRecord d := by
  by_cases hid : id = d.id
  · subst hid
    rw [lookup_assignDevice_self] at h
    split at h
    · exact .inr (Option.some.inj h).symm
    · cases h
  · left
    cases hchanged : assignDevice assignments d with
    | none => rwa [hchanged] at h
    | some changed =>
      rw [hchanged, Option.getD_some, lookup_assignDevice hid hchanged] at h
      exact h

variable {devices : List Device}

theorem lookup_assignDevices
    (h : ((assignDevices assignments devices).getD assignments).lookup id = some a) :
    assignments.lookup id = some a ∨ ∃ d ∈ devices, a = assignmentRecord d := by
  induction devices generalizing assignments with
  | nil => exact .inl h
  | cons d rest ih =>
    rw [assignDevices_cons] at h
    rcases ih h with hassigned | ⟨e, he, hrecord⟩
    · rcases lookup_assignDevice_cases hassigned with hbefore | hrecord
      · exact .inl hbefore
      · exact .inr ⟨d, List.mem_cons_self, hrecord⟩
    · exact .inr ⟨e, List.mem_cons_of_mem d he, hrecord⟩

theorem Persistence.lookup_persistDevicesIfChanged {p : Persistence} {storage : StorageResult}
    (h : (p.persistDevicesIfChanged devices storage).1.records.lookup id = some a) :
    p.records.lookup id = some a ∨ ∃ d ∈ devices, a = assignmentRecord d := by
  by_cases hwrites : p.Writes storage
  · apply lookup_assignDevices
    rw [← records_update_of_writes hwrites fun assignments =>
      assignDevices assignments devices]
    exact h
  · have hsame : (p.persistDevicesIfChanged devices storage).1 = p :=
      updateValue_of_not_writes hwrites _
    rw [hsame] at h
    exact .inl h

def ObserveError.storageError : ObserveError → Option PersistError
  | .persist err => some err
  | _ => none

def LinkError.storageError : LinkError → Option PersistError
  | .persist err => some err
  | _ => none

def unlinkError : Except LinkError Device → Option PersistError
  | .ok _ => none
  | .error err => err.storageError

namespace DeviceStore

/-- Every device and every record afterwards was there before, or is a new device, or the
record of one. -/
structure Changes (ds after : DeviceStore) (new : Device → Prop) : Prop where
  devices : ∀ {id d}, after.devices.lookup id = some d → ds.devices.lookup id = some d ∨ new d
  records : ∀ {id a}, after.records.lookup id = some a →
    ds.records.lookup id = some a ∨ ∃ d, new d ∧ a = assignmentRecord d

variable {ds after : DeviceStore} {new : Device → Prop}

def Known (ds : DeviceStore) (f : Device → Device) (d : Device) : Prop :=
  ∃ known, ds.devices.lookup d.id = some known ∧ d = f known

theorem Changes.refl (ds : DeviceStore) (new : Device → Prop) : ds.Changes ds new :=
  ⟨.inl, .inl⟩

theorem Changes.mono {other : Device → Prop} (h : ds.Changes after new)
    (hnew : ∀ d, new d → other d) : ds.Changes after other := by
  constructor
  · exact fun hlookup => (h.devices hlookup).imp_right (hnew _)
  · intro id a hlookup
    rcases h.records hlookup with hbefore | ⟨d, hd, hrecord⟩
    · exact .inl hbefore
    · exact .inr ⟨d, hnew d hd, hrecord⟩

variable {d : Device}

theorem records_persist {storage : StorageResult} {id : Bytes}
    {a : DeviceAssignment} (h : (ds.persist d storage).1.records.lookup id = some a) :
    ds.records.lookup id = some a ∨ a = assignmentRecord d := by
  unfold persist at h
  unfold records
  cases hp : ds.persistence with
  | none =>
    simp only [records, hp] at h
    exact .inl h
  | some p =>
    rw [hp] at h
    change (p.persistIfChanged d storage).1.records.lookup id = some a at h
    rw [← Persistence.persistDevices_singleton] at h
    rcases Persistence.lookup_persistDevicesIfChanged h with hbefore | ⟨e, he, hrecord⟩
    · exact .inl hbefore
    · rw [List.mem_singleton.mp he] at hrecord
      exact .inr hrecord

theorem devices_persist (ds : DeviceStore) (d : Device) (storage : StorageResult) :
    (ds.persist d storage).1.devices = ds.devices := by
  unfold persist
  cases ds.persistence <;> rfl

theorem lookup_insert_cases {devices : Dict Bytes Device} {key id : Bytes} {changed : Device}
    (h : (devices.insert key changed).lookup id = some d) :
    devices.lookup id = some d ∨ d = changed :=
  (Dict.lookup_of_insert h).symm.imp And.right And.right

theorem lookup_id (ds : DeviceStore) {id : Bytes}
    (h : ds.devices.lookup id = some d) : ds.devices.lookup d.id = some d := by
  rw [(ds.identified h).1]
  exact h

theorem changes_persist (ds : DeviceStore) (d : Device) (storage : StorageResult) :
    ds.Changes (ds.persist d storage).1 (· = d) := by
  constructor
  · intro id e hlookup
    rw [devices_persist] at hlookup
    exact .inl hlookup
  · exact fun hlookup => (records_persist hlookup).imp_right fun hrecord => ⟨d, rfl, hrecord⟩

/-! ## The operations -/

theorem changes_saveDevice (ds : DeviceStore) (d : Device) (hid : d.id ≠ [])
    (storage : StorageResult) (order : DeviceOrder) :
    ds.Changes (saveDevice ds d hid storage order).2 (· = d) := by
  have hdevices := devices_persist ds d storage
  have hrecords {id a} := @records_persist ds d storage id a
  unfold saveDevice
  generalize ds.persist d storage = saved at hdevices hrecords ⊢
  obtain ⟨saved, err⟩ := saved
  have hsaved : ∀ {id a}, saved.records.lookup id = some a →
      ds.records.lookup id = some a ∨ ∃ e, e = d ∧ a = assignmentRecord e :=
    fun hlookup => (hrecords hlookup).imp_right fun hrecord => ⟨d, rfl, hrecord⟩
  cases err with
  | none =>
    refine ⟨fun {id e} hlookup => ?_, hsaved⟩
    change (saved.devices.insert d.id d).lookup id = some e at hlookup
    rw [hdevices] at hlookup
    exact lookup_insert_cases hlookup
  | some err =>
    refine ⟨fun {id e} hlookup => ?_, hsaved⟩
    rw [hdevices] at hlookup
    exact .inl hlookup

/-- The store is left, or one of these devices is saved. -/
inductive Saves (ds : DeviceStore) (storage : StorageResult) (order : DeviceOrder)
    (new : Device → Prop) : Option PersistError × DeviceStore → Prop where
  | kept : ds.Saves storage order new (none, ds)
  | saved {d : Device} (hid : d.id ≠ []) (hnew : new d) :
      ds.Saves storage order new (saveDevice ds d hid storage order)

section Saves

variable {storage : StorageResult} {order : DeviceOrder}

theorem Saves.changes {result : Option PersistError × DeviceStore}
    (h : ds.Saves storage order new result) : ds.Changes result.2 new := by
  cases h with
  | kept => exact .refl ds _
  | saved hid hnew =>
    apply (changes_saveDevice ds _ hid storage order).mono
    rintro d rfl
    exact hnew

theorem Saves.mono {result : Option PersistError × DeviceStore} {other : Device → Prop}
    (h : ds.Saves storage order new result) (hnew : ∀ d, new d → other d) :
    ds.Saves storage order other result := by
  cases h with
  | kept => exact .kept
  | saved hid hd => exact .saved hid (hnew _ hd)

theorem saves_upsertDevice (ds : DeviceStore) (d : Device) (c : Circumstances) :
    ds.Saves c.storage c.order (· = prepareUpsertDevice ds d c.reading)
      (upsertDevice ds d c).2 := by
  have hid : (prepareUpsertDevice ds d c.reading).id ≠ [] := by
    rw [id_prepareUpsert]
    exact storedID_ne_nil d c.reading.idTime
  rw [upsertDevice_eq_saveDevice ds d c hid]
  exact .saved hid rfl

theorem saves_observeDevice (ds : DeviceStore) (observation : Device) (c : Circumstances) :
    ds.Saves c.storage c.order
      (fun d => ∃ seen : Device, seen.tailscaleNodes = observation.tailscaleNodes ∧
        d = prepareUpsertDevice ds seen c.reading)
      ((observeDevice ds observation c).1.2.2.bind ObserveError.storageError,
        (observeDevice ds observation c).2) := by
  have hupsert (seen : Device) (hnodes : seen.tailscaleNodes = observation.tailscaleNodes) :
      ds.Saves c.storage c.order
        (fun d => ∃ seen : Device, seen.tailscaleNodes = observation.tailscaleNodes ∧
          d = prepareUpsertDevice ds seen c.reading)
        (((upsertDevice ds seen c).2.1.map ObserveError.persist).bind ObserveError.storageError,
          (upsertDevice ds seen c).2.2) := by
    have herr : ((upsertDevice ds seen c).2.1.map ObserveError.persist).bind
        ObserveError.storageError = (upsertDevice ds seen c).2.1 := by
      cases (upsertDevice ds seen c).2.1 <;> rfl
    rw [herr]
    refine (saves_upsertDevice ds seen c).mono ?_
    rintro d rfl
    exact ⟨seen, hnodes, rfl⟩
  unfold observeDevice
  dsimp only
  split
  · exact .kept
  · split
    · exact .kept
    · exact .kept
    · exact hupsert _ rfl
    · exact hupsert _ rfl

theorem saves_known {id : Bytes} {known : Device} (hknown : ds.devices.lookup id = some known)
    {f : Device → Device} (hid : (f known).id = known.id) (storage : StorageResult)
    (order : DeviceOrder) :
    ds.Saves storage order (ds.Known f)
      (saveDevice ds (f known) (ds.id_ne_nil hknown hid) storage order) :=
  .saved _ ⟨known, hid ▸ ds.lookup_id hknown, rfl⟩

theorem saves_updateManualFields (ds : DeviceStore) (id : Bytes) (update : ManualFieldsUpdate)
    (storage : StorageResult) (order : DeviceOrder) :
    ds.Saves storage order (ds.Known (·.withManualFields update))
      ((updateManualFields ds id update storage order).1.2.2,
        (updateManualFields ds id update storage order).2) := by
  unfold updateManualFields
  split
  · exact .kept
  · next known hknown =>
    have hsaved := saves_known hknown (f := (·.withManualFields update)) rfl storage order
    dsimp only
    split
    · next after hafter => rwa [hafter] at hsaved
    · next err after hafter => rwa [hafter] at hsaved

theorem saves_unlinkIdentity (ds : DeviceStore) (deviceID nodeID : Bytes)
    (storage : StorageResult) (order : DeviceOrder) :
    ds.Saves storage order (ds.Known (·.unlinkedFrom (normalizeNodeID nodeID)))
      (unlinkError (unlinkTailscaleIdentity ds deviceID nodeID storage order).1,
        (unlinkTailscaleIdentity ds deviceID nodeID storage order).2) := by
  unfold unlinkTailscaleIdentity
  dsimp only
  split
  · exact .kept
  · next known hknown =>
    split
    · exact .kept
    · have hsaved := saves_known hknown (f := (·.unlinkedFrom (normalizeNodeID nodeID))) rfl
        storage order
      split
      · next after hafter => rwa [hafter] at hsaved
      · next err after hafter => rwa [hafter] at hsaved

end Saves

def LinkCarriedOut (ds : DeviceStore) (deviceID : Bytes) (identity : TailscaleIdentity)
    (protectedIDs : List Bytes) (c : Circumstances) : Prop :=
  (identity.prepared c.reading.now).nodeID.isEmpty = false ∧
    linkConflict ds deviceID (identity.prepared c.reading.now) protectedIDs = false ∧
    ∃ known, ds.devices.lookup deviceID = some known ∧
      (ds.persist (known.linkedTo (identity.prepared c.reading.now)) c.storage).2 = none

def linkResult : LinkResult → Except (Dict Bytes Device) (Option PersistError × DeviceStore)
  | .linked _ ds => .ok (none, ds)
  | .refused (.persist err) ds => .ok (some err, ds)
  | .refused _ ds => .ok (none, ds)
  | .panicked devices => .error devices

theorem linkResult_of_store {result : LinkResult} (h : result.store = some after) :
    ∃ err, linkResult result = .ok (err, after) := by
  cases result with
  | linked device ds =>
    cases h
    exact ⟨none, rfl⟩
  | refused err ds =>
    cases h
    cases err <;> exact ⟨_, rfl⟩
  | panicked devices => cases h

section Link

variable {deviceID : Bytes} {identity node : TailscaleIdentity} {protectedIDs : List Bytes}
  {c : Circumstances}

theorem linkResult_cases (hnode : identity.prepared c.reading.now = node) {result}
    (hresult : linkResult (linkTailscaleIdentityProtected ds deviceID identity protectedIDs c) =
      result) :
    (¬ ds.LinkCarriedOut deviceID identity protectedIDs c ∧ ∃ err after, result = .ok (err, after) ∧
      (after = ds ∨ ∃ known persisted, ds.devices.lookup deviceID = some known ∧
        (ds.persist (known.linkedTo node) c.storage).2 = some persisted ∧
        after = (ds.persist (known.linkedTo node) c.storage).1)) ∨
    ds.LinkCarriedOut deviceID identity protectedIDs c ∧
      linkConflict ds deviceID node protectedIDs = false ∧
      ∃ known, ds.devices.lookup deviceID = some known ∧
        (ds.persist (known.linkedTo node) c.storage).2 = none ∧
        match dropAliases deviceID protectedIDs
          (node.addresses.flatMap ds.indexes.deviceByIPClaims.entriesAt)
          (ds.devices.insert deviceID (known.linkedTo node)) with
        | .error left => result = .error left
        | .ok devices => ∃ after, result = .ok (none, after) ∧ after.devices = devices ∧
            after.persistence = (ds.persist (known.linkedTo node) c.storage).1.persistence := by
  subst hnode hresult
  unfold linkTailscaleIdentityProtected
  dsimp only
  split
  · next hempty =>
    refine .inl ⟨fun hcarried => ?_, _, _, rfl, .inl rfl⟩
    cases hempty.symm.trans hcarried.1
  · next hnamed =>
    split
    · next hlookup =>
      refine .inl ⟨fun hcarried => ?_, _, _, rfl, .inl rfl⟩
      obtain ⟨-, -, known, hknown, -⟩ := hcarried
      cases hlookup.symm.trans hknown
    · next device hlookup =>
      split
      · next hconflict =>
        refine .inl ⟨fun hcarried => ?_, _, _, rfl, .inl rfl⟩
        cases hconflict.symm.trans hcarried.2.1
      · next hconflict =>
        rw [Bool.not_eq_true] at hconflict
        split
        · next err herr =>
          refine .inl ⟨fun hcarried => ?_, _, _, rfl, .inr ⟨device, err, hlookup, herr, rfl⟩⟩
          obtain ⟨-, -, known, hknown, hok⟩ := hcarried
          cases hlookup.symm.trans hknown
          cases herr.symm.trans hok
        · next hok =>
          refine .inr ⟨⟨by simpa using hnamed, hconflict, device, hlookup, hok⟩, hconflict, device,
            hlookup, hok, ?_⟩
          split
          · next left hleft =>
            split
            · next same hsame =>
              cases hleft.symm.trans hsame
              rfl
            · next devices hdropped => cases hleft.symm.trans hdropped
          · next devices hdropped =>
            split
            · next left hleft => cases hdropped.symm.trans hleft
            · next same hsame =>
              cases hdropped.symm.trans hsame
              exact ⟨_, rfl, rfl, rfl⟩

theorem changes_linkIdentity
    (h : (linkTailscaleIdentityProtected ds deviceID identity protectedIDs c).store = some after) :
    ds.Changes after (ds.Known (·.linkedTo (identity.prepared c.reading.now))) := by
  obtain ⟨err, hresult⟩ := linkResult_of_store h
  generalize hnode : identity.prepared c.reading.now = node
  have hpersist {known : Device} (hknown : ds.devices.lookup deviceID = some known) :
      ds.Changes (ds.persist (known.linkedTo node) c.storage).1 (ds.Known (·.linkedTo node)) := by
    apply (changes_persist ds (known.linkedTo node) c.storage).mono
    rintro d rfl
    exact ⟨known, (id_linkedTo known node).symm ▸ ds.lookup_id hknown, rfl⟩
  rcases linkResult_cases hnode hresult with
    ⟨-, _, _, ⟨⟩, hsame⟩ | ⟨-, -, known, hknown, -, hdropped⟩
  · rcases hsame with rfl | ⟨known, _, hknown, -, rfl⟩
    · exact .refl _ _
    · exact hpersist hknown
  · split at hdropped
    · cases hdropped
    · next devices hdevices =>
      obtain ⟨_, ⟨⟩, rfl, hpersistence⟩ := hdropped
      refine ⟨fun hfound => ?_, ?_⟩
      · refine (lookup_insert_cases (lookup_dropAliases hdevices hfound)).imp_right ?_
        rintro rfl
        exact ⟨known, (id_linkedTo known node).symm ▸ ds.lookup_id hknown, rfl⟩
      · unfold records
        rw [hpersistence]
        exact (hpersist hknown).records

end Link

theorem lookup_mapped {f : Device → Device} (hf : ∀ d, (f d).id = d.id) {id : Bytes}
    (h : (ds.devices.mapValues f).lookup id = some d) :
    ds.Known f d := by
  rw [Dict.lookup_mapValues] at h
  obtain ⟨known, hknown, rfl⟩ := Option.map_eq_some_iff.mp h
  unfold Known
  rw [hf]
  exact ⟨known, ds.lookup_id hknown, rfl⟩

theorem changes_applySnapshot (ds : DeviceStore) (peers : List TailscaleIdentity)
    (c : Circumstances) :
    ds.Changes (applyTailscaleSnapshot ds peers c).2
      (ds.Known (·.refreshed peers c.reading.now)) := by
  have hrecords {p : Persistence} (hp : ds.persistence = some p) {id : Bytes}
      {a : DeviceAssignment} (hlookup : (p.persistDevicesIfChanged
        (((ds.devices.entries.map (·.2)).filter fun d => !d.tailscaleNodes.isEmpty).map
          fun d => d.refreshed peers c.reading.now) c.storage).1.records.lookup id = some a) :
      ds.records.lookup id = some a ∨
        ∃ d, ds.Known (·.refreshed peers c.reading.now) d ∧ a = assignmentRecord d := by
    rcases Persistence.lookup_persistDevicesIfChanged hlookup with hbefore | ⟨d, hd, hrecord⟩
    · unfold records
      rw [hp]
      exact .inl hbefore
    · obtain ⟨known, hknown, rfl⟩ := List.mem_map.mp hd
      rw [List.mem_filter, mem_visited (List.Perm.refl _)] at hknown
      refine .inr ⟨_, ⟨known, ?_, rfl⟩, hrecord⟩
      rw [id_refreshed]
      exact hknown.1
  have hrefreshed : ∀ d : Device, (d.refreshed peers c.reading.now).id = d.id :=
    fun d => id_refreshed d peers c.reading.now
  unfold applyTailscaleSnapshot
  cases hp : ds.persistence with
  | none => exact ⟨fun hlookup => .inr (lookup_mapped hrefreshed hlookup), .inl⟩
  | some p =>
    have hwritten {id a} := @hrecords p hp id a
    dsimp only
    generalize p.persistDevicesIfChanged _ c.storage = written at hwritten
    obtain ⟨written, err⟩ := written
    cases err with
    | none => exact ⟨fun hlookup => .inr (lookup_mapped hrefreshed hlookup), hwritten⟩
    | some err => exact ⟨.inl, hwritten⟩

theorem changes_clearObservations (ds : DeviceStore) (order : DeviceOrder) :
    ds.Changes (clearTailscaleObservations ds order) (ds.Known (·.withoutObservations)) := by
  have hid : ∀ d : Device, d.withoutObservations.id = d.id := fun _ => rfl
  exact ⟨fun hlookup => .inr (lookup_mapped hid hlookup), .inl⟩

theorem changes_markOffline (ds : DeviceStore) (threshold : Int) (now : Time) :
    ds.Changes (markOffline ds threshold now) (ds.Known (·.sweptAt (now - threshold))) :=
  ⟨fun hlookup => .inr (lookup_mapped (id_sweptAt (now - threshold)) hlookup), .inl⟩

theorem changes_clearDeviceAddress (ds : DeviceStore) (id : Bytes) (clearIPv4 clearIPv6 : Bool)
    (order : DeviceOrder) :
    ds.Changes (clearDeviceAddress ds id clearIPv4 clearIPv6 order) (ds.Known fun known =>
      { known with
        ipv4 := if clearIPv4 then [] else known.ipv4
        ipv6 := if clearIPv6 then [] else known.ipv6 }) := by
  unfold clearDeviceAddress
  split
  · exact .refl ds _
  · next known hknown =>
    refine ⟨fun hlookup => (lookup_insert_cases hlookup).imp_right ?_, .inl⟩
    rintro rfl
    exact ⟨known, ds.lookup_id hknown, rfl⟩

theorem changes_removeDevice (ds : DeviceStore) (id : Bytes) (storage : StorageResult)
    (order : DeviceOrder) : ds.Changes (removeDevice ds id storage order) fun _ => False := by
  by_cases hmem : id ∈ ds.devices
  · constructor
    · intro other d hlookup
      left
      rcases (removeDevice_cases hmem storage order).1 with ⟨-, hdevices⟩ | ⟨-, hdevices⟩
      · rwa [hdevices] at hlookup
      · rw [hdevices] at hlookup
        exact Dict.lookup_of_erase hlookup
    · intro other a hlookup
      left
      by_cases hwrites : ds.Writes storage
      · have hother : other ≠ id := by
          rintro rfl
          have habsent := not_mem_records_removeDevice hmem hwrites order
          rw [← AList.lookup_eq_none, hlookup] at habsent
          cases habsent
        rwa [(removeDevice_other ds hother storage order).2] at hlookup
      · rwa [records_removeDevice_of_not_writes hwrites] at hlookup
  · rw [removeDevice_of_absent hmem]
    exact .refl ds _

end DeviceStore

end GateSentry.Discovery
