import GateSentry.Discovery.Effects

/-!
# Memory and disk agree

Where no write is uncertain, every operation of the store leaves each device and its record on
disk in the relation they stood in, and an error of the storage leaves the store as it was.
-/

namespace GateSentry.Discovery

open Foundation ByteText Calendar

def durableRecord (d : Device) : Option DeviceAssignment :=
  if shouldPersistDevice d then some (assignmentRecord d) else none

/-- What is asked of a device and its record, where a device that is saved has the record it is
worth, one that is removed has none, and a device may change in what its record leaves out. -/
structure RecordLaw (fits : Option Device → Option DeviceAssignment → Prop) : Prop where
  saved : ∀ d, fits (some d) (durableRecord d)
  removed : fits none none
  changed : ∀ {d after a}, durableRecord after = durableRecord d → fits (some d) a →
    fits (some after) a

def worthRecorded (d : Option Device) (a : Option DeviceAssignment) : Prop :=
  ∀ known, d = some known → (a.isSome = true ↔ shouldPersistDevice known = true)

theorem isSome_durableRecord (d : Device) :
    (durableRecord d).isSome = true ↔ shouldPersistDevice d = true := by
  unfold durableRecord
  cases shouldPersistDevice d <;> simp

theorem recordLaw_worth : RecordLaw worthRecorded where
  saved d := by
    rintro known ⟨⟩
    exact isSome_durableRecord d
  removed := by rintro known ⟨⟩
  changed := by
    rintro d after a hsame hfit known ⟨⟩
    rw [hfit d rfl, ← isSome_durableRecord, ← isSome_durableRecord, hsame]

namespace DeviceStore

structure Follows (ds : DeviceStore) (fits : Option Device → Option DeviceAssignment → Prop) :
    Prop where
  attached : ds.persistence.isSome = true
  recorded : ∀ id, fits (ds.devices.lookup id) (ds.records.lookup id)

structure Obeys (ds : DeviceStore) (fits : Option Device → Option DeviceAssignment → Prop)
    (result : Option PersistError × DeviceStore) : Prop where
  follows : result.2.Follows fits
  unchanged : result.1 ≠ none → result.2 = ds

variable {ds : DeviceStore} {fits : Option Device → Option DeviceAssignment → Prop}
  {after : DeviceStore}

theorem Follows.obeys (h : after.Follows fits) : ds.Obeys fits (none, after) :=
  ⟨h, fun hnone => absurd rfl hnone⟩

theorem Follows.refused (h : ds.Follows fits) (err : Option PersistError) :
    ds.Obeys fits (err, ds) :=
  ⟨h, fun _ => rfl⟩

theorem Follows.of_same (h : ds.Follows fits) (hpersistence : after.persistence = ds.persistence)
    (hdevices : ∀ id, fits (ds.devices.lookup id) (ds.records.lookup id) →
      fits (after.devices.lookup id) (ds.records.lookup id)) : after.Follows fits := by
  refine ⟨by rw [hpersistence]; exact h.attached, fun id => ?_⟩
  have hafter := hdevices id (h.recorded id)
  unfold records at hafter ⊢
  rwa [hpersistence]

/-! ## Saving -/

variable {storage : StorageResult} {d : Device}

theorem lookup_persist {ds : DeviceStore} (hattached : ds.persistence.isSome = true)
    (h : (ds.persist d storage).2 = none) (id : Bytes) :
    (ds.persist d storage).1.records.lookup id =
      if id = d.id then durableRecord d else ds.records.lookup id := by
  obtain ⟨p, hp⟩ := Option.isSome_iff_exists.mp hattached
  have hstored : (p.persistIfChanged d storage).2 = none →
      (p.persistIfChanged d storage).1.records =
        (assignDevice p.records d).getD p.records := Persistence.updateValue_ok
  unfold persist at h ⊢
  unfold records
  rw [hp] at h ⊢
  change (p.persistIfChanged d storage).1.records.lookup id = _
  split
  · next hid =>
    rw [hid, hstored h, lookup_assignDevice_self]
    rfl
  · next hid => exact p.lookup_persistIfChanged d storage hid

theorem attached_persist (d : Device) (storage : StorageResult)
    (hattached : ds.persistence.isSome = true) :
    (ds.persist d storage).1.persistence.isSome = true := by
  obtain ⟨p, hp⟩ := Option.isSome_iff_exists.mp hattached
  unfold persist
  rw [hp]
  rfl

theorem persist_error (hstorage : storage ≠ .uncertain) {err : PersistError}
    (h : (ds.persist d storage).2 = some err) : (ds.persist d storage).1 = ds := by
  unfold persist at h ⊢
  cases hp : ds.persistence with
  | none => rfl
  | some p =>
    rw [hp] at h
    dsimp only at h ⊢
    have hsame : (p.persistIfChanged d storage).1 = p := Persistence.updateValue_error hstorage h
    rw [hsame]
    cases ds
    cases hp
    rfl

section Laws

variable (hfits : RecordLaw fits)
include hfits

variable {storage : StorageResult}

theorem Follows.saveDevice (h : ds.Follows fits) (hid : d.id ≠ [])
    (hstorage : storage ≠ .uncertain) (order : DeviceOrder) :
    ds.Obeys fits (saveDevice ds d hid storage order) := by
  unfold Discovery.saveDevice
  split
  · next saved hsaved =>
    have hrecords := lookup_persist h.attached (congrArg Prod.snd hsaved)
    have hdevices := devices_persist ds d storage
    have hattached := attached_persist d storage h.attached
    rw [hsaved] at hrecords hdevices hattached
    refine Follows.obeys ⟨hattached, fun id => ?_⟩
    change fits ((saved.devices.insert d.id d).lookup id) (saved.records.lookup id)
    rw [hrecords, hdevices]
    split
    · next hsame =>
      rw [hsame, AList.lookup_insert]
      exact hfits.saved d
    · next hother =>
      rw [AList.lookup_insert_ne hother]
      exact h.recorded id
  · next saved err hsaved =>
    have hsame := persist_error hstorage (congrArg Prod.snd hsaved)
    rw [hsaved] at hsame
    subst hsame
    exact h.refused _

theorem Follows.saves (h : ds.Follows fits) (hstorage : storage ≠ .uncertain) {order : DeviceOrder}
    {new : Device → Prop} {result : Option PersistError × DeviceStore}
    (hsaves : ds.Saves storage order new result) : ds.Obeys fits result := by
  cases hsaves with
  | kept => exact h.obeys
  | saved hid _ => exact h.saveDevice hfits hid hstorage order

/-! ## Removing -/

theorem Follows.clearDeviceAddress (h : ds.Follows fits) (id : Bytes) (clearIPv4 clearIPv6 : Bool)
    (order : DeviceOrder) : (clearDeviceAddress ds id clearIPv4 clearIPv6 order).Follows fits := by
  unfold Discovery.clearDeviceAddress
  split
  · exact h
  · next d hd =>
    refine h.of_same rfl fun other hfit => ?_
    change fits ((ds.devices.insert id _).lookup other) _
    by_cases hother : other = id
    · subst hother
      rw [hd] at hfit
      rw [AList.lookup_insert]
      exact hfits.changed (d := d) rfl hfit
    · rwa [AList.lookup_insert_ne hother]

omit hfits in
theorem withPersistence_self {p : Persistence} (h : ds.persistence = some p) :
    ds.withPersistence p = ds := by
  cases ds
  cases h
  rfl

theorem Follows.removeDeviceE (h : ds.Follows fits) (id : Bytes) (hstorage : storage ≠ .uncertain)
    (order : DeviceOrder) : ds.Obeys fits (removeDeviceE ds id storage order) := by
  obtain ⟨p, hp⟩ := Option.isSome_iff_exists.mp h.attached
  unfold Discovery.removeDeviceE
  split
  · exact h.obeys
  · rw [hp]
    dsimp only
    split
    · next written hwritten =>
      refine Follows.obeys ⟨rfl, fun other => ?_⟩
      have hbefore := h.recorded other
      unfold records at hbefore
      rw [hp] at hbefore
      change fits ((ds.devices.erase id).lookup other) (written.records.lookup other)
      rw [Persistence.remove_ok hwritten]
      by_cases hother : other = id
      · rw [hother, AList.lookup_erase, AList.lookup_erase]
        exact hfits.removed
      · rwa [AList.lookup_erase_ne hother, AList.lookup_erase_ne hother]
    · next written err hwritten =>
      have hsame : (p.remove id storage).2 = some err → (p.remove id storage).1 = p :=
        Persistence.updateValue_error hstorage
      rw [hwritten] at hsame
      have hsame : written = p := hsame rfl
      rw [hsame, withPersistence_self hp]
      exact h.refused _

theorem Follows.removeDevice (h : ds.Follows fits) (id : Bytes) (hstorage : storage ≠ .uncertain)
    (order : DeviceOrder) : (removeDevice ds id storage order).Follows fits :=
  (h.removeDeviceE hfits id hstorage order).follows

/-! ## Snapshots -/

omit hfits in
theorem durable_withoutObservations (d : Device) :
    durableRecord d.withoutObservations = durableRecord d := by
  have hworth : shouldPersistDevice d.withoutObservations = shouldPersistDevice d := by
    simp only [shouldPersistDevice, Device.withoutObservations, List.isEmpty_map]
    rfl
  have hrecord : assignmentRecord d.withoutObservations = assignmentRecord d := by
    unfold assignmentRecord durableTailscaleIdentities Device.withoutObservations
    simp
  rw [durableRecord, hworth, hrecord]
  rfl

theorem Follows.clearTailscaleObservations (h : ds.Follows fits) (order : DeviceOrder) :
    (clearTailscaleObservations ds order).Follows fits := by
  refine h.of_same rfl fun id hfit => ?_
  change fits ((ds.devices.mapValues Device.withoutObservations).lookup id) _
  rw [Dict.lookup_mapValues]
  cases hlookup : ds.devices.lookup id with
  | none => rwa [hlookup] at hfit
  | some d =>
    rw [hlookup] at hfit
    exact hfits.changed (durable_withoutObservations d) hfit

end Laws

end DeviceStore

variable {devices : List Device}

theorem lookup_assignDevices_other {assignments : Dict Bytes DeviceAssignment} {id : Bytes}
    (h : id ∉ devices.map (·.id)) :
    ((assignDevices assignments devices).getD assignments).lookup id = assignments.lookup id := by
  induction devices generalizing assignments with
  | nil => rfl
  | cons d rest ih =>
    rw [List.map_cons, List.mem_cons, not_or] at h
    rw [assignDevices_cons, ih h.2]
    cases hchanged : assignDevice assignments d with
    | none => rfl
    | some changed => exact lookup_assignDevice h.1 hchanged

theorem lookup_assignDevices_self (assignments : Dict Bytes DeviceAssignment)
    (hnodup : (devices.map (·.id)).Nodup) {d : Device} (h : d ∈ devices) :
    ((assignDevices assignments devices).getD assignments).lookup d.id = durableRecord d := by
  induction devices generalizing assignments with
  | nil => cases h
  | cons first rest ih =>
    rw [List.map_cons, List.nodup_cons] at hnodup
    rw [assignDevices_cons]
    rcases List.mem_cons.mp h with rfl | hrest
    · rw [lookup_assignDevices_other hnodup.1, lookup_assignDevice_self]
      rfl
    · exact ih _ hnodup.2 hrest

namespace DeviceStore

variable {ds : DeviceStore} {fits : Option Device → Option DeviceAssignment → Prop}

def refreshedDevices (ds : DeviceStore) (peers : List TailscaleIdentity) (now : Time) :
    List Device :=
  ((ds.devices.entries.map (·.2)).filter fun d => !d.tailscaleNodes.isEmpty).map fun d =>
    d.refreshed peers now

theorem nodup_refreshedDevices (ds : DeviceStore) (peers : List TailscaleIdentity) (now : Time) :
    ((ds.refreshedDevices peers now).map (·.id)).Nodup := by
  unfold refreshedDevices
  rw [List.map_map]
  have hids : ((·.id) ∘ fun d : Device => d.refreshed peers now) = Device.id := by
    funext d
    exact id_refreshed d peers now
  rw [hids]
  exact (List.filter_sublist.map Device.id).nodup ds.nodup_ids

theorem mem_refreshedDevices {peers : List TailscaleIdentity} {now : Time} {d : Device} :
    d ∈ ds.refreshedDevices peers now ↔ ∃ known, ds.devices.lookup known.id = some known ∧
      known.tailscaleNodes ≠ [] ∧ d = known.refreshed peers now := by
  unfold refreshedDevices
  simp only [List.mem_map, List.mem_filter, mem_visited (List.Perm.refl _), Bool.not_eq_true',
    List.isEmpty_eq_false_iff, and_assoc, eq_comm (b := d)]

theorem fits_refreshed (hfits : RecordLaw fits) (assignments : Dict Bytes DeviceAssignment)
    (hrecorded : ∀ id, fits (ds.devices.lookup id) (assignments.lookup id))
    (peers : List TailscaleIdentity) (now : Time) (id : Bytes) :
    fits ((ds.devices.lookup id).map fun d => d.refreshed peers now)
      (((assignDevices assignments (ds.refreshedDevices peers now)).getD
        assignments).lookup id) := by
  have hother (hnot : ∀ known, ds.devices.lookup id = some known → known.tailscaleNodes = []) :
      id ∉ (ds.refreshedDevices peers now).map (·.id) := by
    intro hmem
    obtain ⟨d, hd, rfl⟩ := List.mem_map.mp hmem
    obtain ⟨known, hknown, hlinked, rfl⟩ := mem_refreshedDevices.mp hd
    rw [id_refreshed] at hnot
    exact hlinked (hnot known hknown)
  have hfit := hrecorded id
  cases hlookup : ds.devices.lookup id with
  | none =>
    rw [lookup_assignDevices_other (hother fun known hknown => by
      rw [hlookup] at hknown
      cases hknown)]
    rwa [hlookup] at hfit
  | some known =>
    rw [hlookup] at hfit
    have hid := (ds.identified hlookup).1
    by_cases hlinked : known.tailscaleNodes = []
    · rw [lookup_assignDevices_other (hother fun other hknown => by
        rw [hlookup, Option.some.injEq] at hknown
        rw [← hknown, hlinked])]
      have hsame : known.refreshed peers now = known := by
        unfold Device.refreshed
        rw [hlinked]
        rfl
      rwa [Option.map_some, hsame]
    · have hmem : known.refreshed peers now ∈ ds.refreshedDevices peers now :=
        mem_refreshedDevices.mpr ⟨known, by rw [hid]; exact hlookup, hlinked, rfl⟩
      have hself := lookup_assignDevices_self assignments
        (ds.nodup_refreshedDevices peers now) hmem
      rw [id_refreshed, hid] at hself
      rw [hself]
      exact hfits.saved _

variable {c : Circumstances}

theorem Follows.applyTailscaleSnapshot (hfits : RecordLaw fits) (h : ds.Follows fits)
    (peers : List TailscaleIdentity) (hstorage : c.storage ≠ .uncertain) :
    ds.Obeys fits (applyTailscaleSnapshot ds peers c) := by
  obtain ⟨p, hp⟩ := Option.isSome_iff_exists.mp h.attached
  unfold Discovery.applyTailscaleSnapshot
  rw [hp]
  dsimp only
  split
  · next written hwritten =>
    have hrecords := Persistence.persistDevicesIfChanged_ok hwritten
    refine Follows.obeys ⟨rfl, fun id => ?_⟩
    change fits ((ds.devices.mapValues _).lookup id) (written.records.lookup id)
    rw [hrecords, Dict.lookup_mapValues]
    apply fits_refreshed hfits
    intro other
    have hbefore := h.recorded other
    unfold records at hbefore
    rwa [hp] at hbefore
  · next written err hwritten =>
    have hsame := Persistence.persistDevices_error hstorage hwritten
    subst hsame
    rw [withPersistence_self hp]
    exact h.refused _

/-! ## Records of the devices that are worth one -/

/-- The durable part is kept somewhere, and has the records of the devices that are
worth one. -/
structure Synced (ds : DeviceStore) : Prop where
  attached : ds.persistence.isSome = true
  recorded : ∀ {id d}, ds.devices.lookup id = some d →
    (id ∈ ds.records ↔ shouldPersistDevice d = true)

theorem synced_iff : ds.Synced ↔ ds.Follows worthRecorded := by
  constructor
  · refine fun h => ⟨h.attached, fun id known hlookup => ?_⟩
    rw [← h.recorded hlookup]
    exact AList.lookup_isSome
  · refine fun h => ⟨h.attached, fun {id known} hlookup => ?_⟩
    rw [← h.recorded id known hlookup]
    exact AList.lookup_isSome.symm

theorem Follows.linkTailscaleIdentity {after : DeviceStore} (h : ds.Follows worthRecorded)
    {deviceID : Bytes} {identity : TailscaleIdentity} {protectedIDs : List Bytes}
    (hstorage : c.storage ≠ .uncertain)
    (hlink : (linkTailscaleIdentityProtected ds deviceID identity protectedIDs c).store =
      some after) : after.Follows worthRecorded := by
  obtain ⟨err, hresult⟩ := linkResult_of_store hlink
  rcases linkResult_cases rfl hresult with
    ⟨-, _, _, ⟨⟩, hsame⟩ | ⟨-, -, known, hknown, hok, hdropped⟩
  · rcases hsame with rfl | ⟨known, persisted, -, herr, rfl⟩
    · exact h
    · rw [persist_error hstorage herr]
      exact h
  · have hrecords := lookup_persist h.attached hok
    rw [id_linkedTo, (ds.identified hknown).1] at hrecords
    split at hdropped
    · cases hdropped
    · next devices hdevices =>
      obtain ⟨_, ⟨⟩, rfl, hpersistence⟩ := hdropped
      refine ⟨hpersistence ▸ attached_persist _ _ h.attached, fun id found hfound => ?_⟩
      unfold records at hrecords ⊢
      rw [hpersistence, hrecords]
      rcases Dict.lookup_of_insert (lookup_dropAliases hdevices hfound) with
        ⟨rfl, rfl⟩ | ⟨hother, hold⟩
      · rw [if_pos rfl]
        exact isSome_durableRecord _
      · rw [if_neg hother]
        exact h.recorded id found hold

end DeviceStore

end GateSentry.Discovery
