import GateSentry.Discovery.Durable
import GateSentry.Discovery.Recognition
import GateSentry.Dns.Update
import GateSentry.Foundation.Folds

/-!
# Durable devices under dynamic updates

Every accepted update ends with a sweep over the whole store.  The sweep removes the
devices without an address that are not marked persistent, durable for another reason or
not.
-/

namespace GateSentry.Dns

open Foundation Discovery ByteText

/-! ## The steps of an update -/

def updateZone (r : Msg) : Bytes :=
  match r.question with
  | [] => []
  | question :: _ => toLower (trimSuffix question.name (utf8 "."))

def deleteStep (world : UpdateWorld) (ds : DeviceStore) (item : DdnsUpdate × Nat) :
    DeviceStore :=
  applyDDNSDelete ds item.1 (world.deletes item.2)

def addStep (world : UpdateWorld) (zone : Bytes) (ds : DeviceStore)
    (item : DdnsUpdate × Nat) : DeviceStore :=
  applyDDNSAdd ds ds item.1 zone (world.adds item.2)

def sweepStep (world : CleanupWorld) (ds : DeviceStore) (item : Device × Nat) : DeviceStore :=
  removeDevice ds item.1.id (world.removals item.2).1 (world.removals item.2).2

def isOrphan (d : Device) : Bool := d.ipv4.isEmpty && d.ipv6.isEmpty && !d.persistent

def orphans (ds : DeviceStore) (world : CleanupWorld) : List (Device × Nat) :=
  ((world.listing.visit (ds.devices.entries.map (·.2))).filter isOrphan).zipIdx

section Update

variable (ds : DeviceStore) (rrs : List RR) (zone : Bytes) (world : UpdateWorld)

def deletedStore : DeviceStore := (parseDDNSUpdates rrs).2.zipIdx.foldl (deleteStep world) ds

def addedStore : DeviceStore :=
  (parseDDNSUpdates rrs).1.zipIdx.foldl (addStep world zone) (deletedStore ds rrs world)

theorem applyUpdates_eq :
    applyUpdates ds rrs zone world =
      (orphans (addedStore ds rrs zone world) world.cleanup).foldl (sweepStep world.cleanup)
        (addedStore ds rrs zone world) := rfl

end Update

/-! ## Deletions and additions -/

variable {zone : Bytes}

theorem matchedDevice_isTransient {seen : DeviceStore} {update : DdnsUpdate}
    {lookupARPEntry : Bytes → Bytes} {m : Device}
    (h : matchedDevice seen update zone lookupARPEntry = some m) : m.IsTransient := by
  unfold matchedDevice at h
  dsimp only at h
  split at h
  · cases h
  · obtain ⟨device, hdevice, rfl⟩ := Option.map_eq_some_iff.mp h
    unfold ddnsDevice at hdevice
    split at hdevice
    · cases hdevice
      constructor <;> simp
    · split at hdevice
      · cases hdevice
        constructor <;> simp
      · cases hdevice

section Keeps

variable {id : Bytes} {fields : DurableFields} {onDisk : Prop}

def Keeps (id : Bytes) (fields : DurableFields) (onDisk : Prop) (ds : DeviceStore) : Prop :=
  ds.HoldsInMemory id fields ∧ (onDisk → ds.HoldsOnDisk id fields)

variable {ds : DeviceStore}

theorem clearDeviceAddress_keeps (h : Keeps id fields onDisk ds)
    (target : Bytes) (clearIPv4 clearIPv6 : Bool) (order : DeviceOrder) :
    Keeps id fields onDisk (clearDeviceAddress ds target clearIPv4 clearIPv6 order) := by
  obtain ⟨existing, hlookup, rfl⟩ := Option.map_eq_some_iff.mp h.1
  obtain ⟨after, hafter, hfields, -⟩ :=
    clearDeviceAddress_known hlookup target clearIPv4 clearIPv6 order
  refine ⟨Option.map_eq_some_iff.mpr ⟨after, hafter, hfields⟩, fun hdisk => ?_⟩
  unfold DeviceStore.HoldsOnDisk
  rw [records_clearDeviceAddress]
  exact h.2 hdisk

/-- What every cleared address keeps, a deletion keeps. -/
theorem applyDDNSDelete_induction {P : DeviceStore → Prop} (h : P ds)
    (hclear : ∀ ds deviceID ipv4 ipv6 order, P ds →
      P (clearDeviceAddress ds deviceID ipv4 ipv6 order))
    (update : DdnsUpdate) (orders : Nat → DeviceOrder) : P (applyDDNSDelete ds update orders) := by
  unfold applyDDNSDelete
  dsimp only
  split
  · exact h
  · split
    · exact hclear _ _ _ _ _ h
    · split
      · exact List.foldlRecOn (motive := P) _ _ h fun ds hds _ _ => hclear ds _ _ _ _ hds
      · exact h

theorem deleteStep_keeps (world : UpdateWorld) (h : Keeps id fields onDisk ds)
    (item : DdnsUpdate × Nat) : Keeps id fields onDisk (deleteStep world ds item) :=
  applyDDNSDelete_induction h (fun _ _ _ _ _ hds => clearDeviceAddress_keeps hds _ _ _ _) _ _

/-- An addition that is written for the device finds it worth a record, where its record
is asked for. -/
def SparesRecord (world : UpdateWorld) (zone id : Bytes) (onDisk : Prop) (ds : DeviceStore)
    (item : DdnsUpdate × Nat) : Prop :=
  onDisk → ∀ m d, matchedDevice ds item.1 zone (world.adds item.2).lookupARPEntry = some m →
    storedID m (world.adds item.2).circumstances.reading.idTime = id →
    ds.devices.lookup id = some d → ds.Writes (world.adds item.2).circumstances.storage →
    worthKeeping d = true

variable {item : DdnsUpdate × Nat} {world : UpdateWorld}

theorem addStep_keeps (h : Keeps id fields onDisk ds)
    (hspares : SparesRecord world zone id onDisk ds item) :
    Keeps id fields onDisk (addStep world zone ds item) := by
  unfold addStep applyDDNSAdd
  split
  · exact h
  · next m hmatched =>
    have htransient := matchedDevice_isTransient hmatched
    refine ⟨upsertDevice_holds htransient h.1, fun hdisk => ?_⟩
    obtain ⟨existing, hlookup, rfl⟩ := Option.map_eq_some_iff.mp h.1
    apply upsertDevice_holdsOnDisk htransient hlookup (h.2 hdisk)
    exact fun hid hwrites => hspares hdisk m existing hmatched hid hlookup hwrites

theorem addStep_forgets (hspares : ¬ SparesRecord world zone id onDisk ds item) :
    onDisk ∧ (addStep world zone ds item).Forgets id := by
  unfold SparesRecord at hspares
  push Not at hspares
  obtain ⟨honDisk, m, d, hmatched, hid, hlookup, hwrites, hworth⟩ := hspares
  refine ⟨honDisk, ?_⟩
  unfold addStep applyDDNSAdd
  rw [hmatched]
  exact upsertDevice_forgets (matchedDevice_isTransient hmatched) hlookup
    (by simpa using hworth) (.inr ⟨hid, hwrites⟩)

theorem addStep_stays_forgotten (world : UpdateWorld) (zone : Bytes) (h : ds.Forgets id)
    (item : DdnsUpdate × Nat) : (addStep world zone ds item).Forgets id := by
  have hforgets := h
  obtain ⟨⟨d, hlookup, hworth⟩, habsent⟩ := h
  unfold addStep applyDDNSAdd
  split
  · exact hforgets
  · next m hmatched =>
    exact upsertDevice_forgets (matchedDevice_isTransient hmatched) hlookup hworth
      (.inl habsent)

/-! ## The sweep -/

/-- A removal of the device is refused, with its record untouched where it is asked for. -/
def SparesDevice (world : CleanupWorld) (id : Bytes) (onDisk : Prop) (ds : DeviceStore)
    (item : Device × Nat) : Prop :=
  item.1.id = id → ds.RefusesRemoval id (world.removals item.2).1 ∧
    (onDisk → ¬ ds.Writes (world.removals item.2).1)

def Loses (id : Bytes) (onDisk : Prop) (ds : DeviceStore) : Prop :=
  id ∉ ds.devices ∨ (onDisk ∧ id ∉ ds.records)

theorem not_keeps_of_loses (h : Loses id onDisk ds) : ¬ Keeps id fields onDisk ds := by
  rintro ⟨hmemory, hdisk⟩
  rcases h with habsent | ⟨honDisk, habsent⟩
  · unfold DeviceStore.HoldsInMemory at hmemory
    rw [AList.lookup_eq_none.mpr habsent] at hmemory
    cases hmemory
  · have hdisk := hdisk honDisk
    unfold DeviceStore.HoldsOnDisk at hdisk
    rw [AList.lookup_eq_none.mpr habsent] at hdisk
    cases hdisk

theorem mem_devices_of_holds (h : ds.HoldsInMemory id fields) : id ∈ ds.devices := by
  obtain ⟨d, hlookup, -⟩ := Option.map_eq_some_iff.mp h
  exact AList.lookup_isSome.mp (by rw [hlookup]; rfl)

variable {world : CleanupWorld} {item : Device × Nat}

theorem sweepStep_keeps
    (h : Keeps id fields onDisk ds) (hspares : SparesDevice world id onDisk ds item) :
    Keeps id fields onDisk (sweepStep world ds item) := by
  unfold sweepStep
  by_cases hid : item.1.id = id
  · obtain ⟨hrefuses, hdisk⟩ := hspares hid
    rw [hid]
    rcases (removeDevice_cases (mem_devices_of_holds h.1) (world.removals item.2).1
      (world.removals item.2).2).1 with ⟨-, hdevices⟩ | ⟨haccepts, -⟩
    · unfold Keeps DeviceStore.HoldsInMemory DeviceStore.HoldsOnDisk at h ⊢
      rw [hdevices]
      refine ⟨h.1, fun honDisk => ?_⟩
      rw [records_removeDevice_of_not_writes (hdisk honDisk)]
      exact h.2 honDisk
    · exact absurd hrefuses haccepts
  · obtain ⟨hdevices, hrecords⟩ := removeDevice_other ds (Ne.symm hid)
      (world.removals item.2).1 (world.removals item.2).2
    unfold Keeps DeviceStore.HoldsInMemory DeviceStore.HoldsOnDisk at h ⊢
    rw [hdevices, hrecords]
    exact h

theorem sweepStep_loses
    (h : Keeps id fields onDisk ds) (hspares : ¬ SparesDevice world id onDisk ds item) :
    Loses id onDisk (sweepStep world ds item) := by
  unfold SparesDevice at hspares
  rw [Classical.not_imp, not_and_or, Classical.not_imp, not_not] at hspares
  obtain ⟨hid, hspares⟩ := hspares
  have hmem := mem_devices_of_holds h.1
  unfold sweepStep Loses
  rw [hid]
  rcases hspares with haccepts | ⟨honDisk, hwrites⟩
  · rcases (removeDevice_cases hmem (world.removals item.2).1 (world.removals item.2).2).1 with
      ⟨hrefuses, -⟩ | ⟨-, hdevices⟩
    · exact absurd hrefuses haccepts
    · left
      rw [hdevices, AList.mem_erase]
      exact fun h => h.1 rfl
  · exact .inr ⟨honDisk, not_mem_records_removeDevice hmem hwrites _⟩

theorem sweepStep_stays_lost (world : CleanupWorld)
    (h : Loses id onDisk ds) (item : Device × Nat) :
    Loses id onDisk (sweepStep world ds item) := by
  obtain ⟨hdevices, hrecords⟩ := removeDevice_absent ds id item.1.id
    (world.removals item.2).1 (world.removals item.2).2
  rcases h with habsent | ⟨honDisk, habsent⟩
  · exact .inl (hdevices habsent)
  · exact .inr ⟨honDisk, hrecords habsent⟩

theorem mem_orphans (h : item ∈ orphans ds world) :
    ds.devices.lookup item.1.id = some item.1 ∧ isOrphan item.1 = true := by
  have hlisted := List.fst_mem_of_mem_zipIdx h
  rw [List.mem_filter, DeviceStore.mem_visited (world.listing.perm _)] at hlisted
  exact hlisted

end Keeps

/-! ## Accepted updates -/

def IsSwept (ds : DeviceStore) (id : Bytes) : Prop :=
  ∃ d, ds.devices.lookup id = some d ∧ isOrphan d = true

/-- What a device needs to come through an update: an addition that is written for it
finds it worth its record, and the sweep does not find it without an address, or is
refused its removal. -/
structure Outlives (ds : DeviceStore) (rrs : List RR) (zone : Bytes) (world : UpdateWorld)
    (id : Bytes) (onDisk : Prop) : Prop where
  additions : EachMeets (addStep world zone) (SparesRecord world zone id onDisk)
    (deletedStore ds rrs world) (parseDDNSUpdates rrs).1.zipIdx
  sweep : IsSwept (addedStore ds rrs zone world) id →
    EachMeets (sweepStep world.cleanup) (SparesDevice world.cleanup id onDisk)
      (addedStore ds rrs zone world) (orphans (addedStore ds rrs zone world) world.cleanup)

/-- After the update the device is in memory as before in its durable fields, and on disk
if it was on disk with them. -/
def KeepsDurable (before after : DeviceStore) (id : Bytes) (d : Device) : Prop :=
  Keeps id d.durableFields (before.HoldsOnDisk id d.durableFields) after

variable {ds : DeviceStore} {fields : DurableFields} {onDisk : Prop} {id : Bytes}

theorem sweep_keeps_iff (h : Keeps id fields onDisk ds) (world : CleanupWorld) :
    Keeps id fields onDisk ((orphans ds world).foldl (sweepStep world) ds) ↔
      (IsSwept ds id → EachMeets (sweepStep world) (SparesDevice world id onDisk) ds
        (orphans ds world)) := by
  have hspared : ¬ IsSwept ds id →
      EachMeets (sweepStep world) (SparesDevice world id onDisk) ds (orphans ds world) := by
    intro hswept
    apply eachMeets_of_forall
    intro _ item hitem hid
    obtain ⟨hlookup, horphan⟩ := mem_orphans hitem
    rw [hid] at hlookup
    exact absurd ⟨item.1, hlookup, horphan⟩ hswept
  rcases foldl_kept_or_lost (fun _ _ hkeeps hmeets => sweepStep_keeps hkeeps hmeets)
    (fun _ _ hkeeps hmeets => sweepStep_loses hkeeps hmeets)
    (fun _ item hloses => sweepStep_stays_lost world hloses item) h (orphans ds world) with
    ⟨heach, hkeeps⟩ | ⟨heach, hloses⟩
  · exact ⟨fun _ _ => heach, fun _ => hkeeps⟩
  · refine ⟨fun hkeeps => absurd hkeeps (not_keeps_of_loses hloses), fun hcond => ?_⟩
    by_cases hswept : IsSwept ds id
    · exact absurd (hcond hswept) heach
    · exact absurd (hspared hswept) heach

variable {world : UpdateWorld}

theorem additions_keep_or_forget {rrs : List RR}
    (h : Keeps id fields onDisk (deletedStore ds rrs world)) (zone : Bytes) :
    (EachMeets (addStep world zone) (SparesRecord world zone id onDisk)
        (deletedStore ds rrs world) (parseDDNSUpdates rrs).1.zipIdx ∧
      Keeps id fields onDisk (addedStore ds rrs zone world)) ∨
    (¬ EachMeets (addStep world zone) (SparesRecord world zone id onDisk)
        (deletedStore ds rrs world) (parseDDNSUpdates rrs).1.zipIdx ∧
      onDisk ∧ (addedStore ds rrs zone world).Forgets id) :=
  foldl_kept_or_lost (fun _ _ hkeeps hspares => addStep_keeps hkeeps hspares)
    (fun _ _ _ hspares => addStep_forgets hspares)
    (fun s item (hforgets : onDisk ∧ s.Forgets id) =>
      ⟨hforgets.1, addStep_stays_forgotten world zone hforgets.2 item⟩) h _

theorem applyUpdates_keeps_iff
    (h : Keeps id fields onDisk ds) (rrs : List RR) (zone : Bytes) (world : UpdateWorld) :
    Keeps id fields onDisk (applyUpdates ds rrs zone world) ↔
      Outlives ds rrs zone world id onDisk := by
  have hdeleted : Keeps id fields onDisk (deletedStore ds rrs world) :=
    List.foldlRecOn (motive := Keeps id fields onDisk) _ _ h
      fun _ hkeeps item _ => deleteStep_keeps world hkeeps item
  rw [applyUpdates_eq]
  rcases additions_keep_or_forget hdeleted zone with ⟨heach, hadded⟩ | ⟨heach, honDisk, hforgets⟩
  · rw [sweep_keeps_iff hadded]
    exact ⟨fun hsweep => ⟨heach, hsweep⟩, fun hsurvives => hsurvives.sweep⟩
  · have hloses : Loses id onDisk ((orphans (addedStore ds rrs zone world) world.cleanup).foldl
        (sweepStep world.cleanup) (addedStore ds rrs zone world)) :=
      List.foldlRecOn (motive := Loses id onDisk) _ _ (.inr ⟨honDisk, hforgets.2⟩)
        fun _ hloses item _ => sweepStep_stays_lost world.cleanup hloses item
    exact ⟨fun hkeeps => absurd hkeeps (not_keeps_of_loses hloses),
      fun hsurvives => absurd hsurvives.additions heach⟩

theorem handleDDNSUpdate_cases (config : DdnsConfig) (tsigStatus : Bool)
    (sign : Msg → Tsig → Tsig) (ds : DeviceStore) (r : Msg) (world : UpdateWorld) :
    ((handleDDNSUpdate config tsigStatus sign ds r world).1.rcode ≠ rcodeSuccess ∧
        (handleDDNSUpdate config tsigStatus sign ds r world).2 = ds) ∨
      (handleDDNSUpdate config tsigStatus sign ds r world).2 =
        applyUpdates ds r.ns (updateZone r) world := by
  unfold handleDDNSUpdate updateZone
  split
  · exact .inl ⟨nofun, rfl⟩
  · split
    · exact .inl ⟨nofun, rfl⟩
    · split
      · exact .inl ⟨nofun, rfl⟩
      · cases r.question with
        | nil => exact .inl ⟨nofun, rfl⟩
        | cons question rest =>
          dsimp only
          split
          · exact .inl ⟨nofun, rfl⟩
          · exact .inr rfl

/-- An accepted update keeps a device, durable or not, with its durable fields in memory
and on disk exactly if the device survives it. -/
theorem handleDDNSUpdate_keepsDurable_iff (config : DdnsConfig) (tsigStatus : Bool)
    (sign : Msg → Tsig → Tsig) (ds : DeviceStore) (r : Msg) (world : UpdateWorld)
    (haccepted : (handleDDNSUpdate config tsigStatus sign ds r world).1.rcode = rcodeSuccess)
    {id : Bytes} {d : Device} (hd : ds.devices.lookup id = some d) :
    KeepsDurable ds (handleDDNSUpdate config tsigStatus sign ds r world).2 id d ↔
      Outlives ds r.ns (updateZone r) world id (ds.HoldsOnDisk id d.durableFields) := by
  have happlied := (handleDDNSUpdate_cases _ _ _ _ _ _).resolve_left fun h => h.1 haccepted
  rw [happlied]
  apply applyUpdates_keeps_iff
  refine ⟨?_, fun hdisk => hdisk⟩
  unfold DeviceStore.HoldsInMemory
  rw [hd, Option.map_some]

def linkedPhone (ipv4 : Bytes) : Device where
  id := utf8 "phone"
  dnsName := utf8 "phone"
  ipv4 := ipv4
  tailscaleNodes := [{ nodeID := utf8 "n1" }]

def phoneStore (ipv4 : Bytes) : DeviceStore :=
  let record := assignmentRecord (linkedPhone ipv4)
  have hid : utf8 "phone" ≠ [] := by decide
  (commitUpsertDevice (newDeviceStore (utf8 "local")) (linkedPhone ipv4) hid
    .asListed).withPersistence
    ⟨true, encodeDeviceAssignments (AList.insert record.id record ∅)⟩

def printerUpdate : Msg where
  opcode := opcodeUpdate
  question := [⟨utf8 "local.", 6, 1⟩]
  ns := [⟨utf8 "printer.local.", typeA, classINET, 60, .a (some [10, 0, 0, 9])⟩]

def openConfig : DdnsConfig := { enabled := true, tsigRequired := false }

/-- A linked phone with an address comes through the update of another device. -/
theorem keepsDurable_phoneStore : KeepsDurable (phoneStore (utf8 "10.0.0.5"))
      (handleDDNSUpdate openConfig true (fun _ t => t) (phoneStore (utf8 "10.0.0.5"))
        printerUpdate plainUpdateWorld).2 (utf8 "phone") (linkedPhone (utf8 "10.0.0.5")) := by
  rw [handleDDNSUpdate_keepsDurable_iff openConfig true (fun _ t => t) _ _ _
    (by decide +kernel) (by decide +kernel)]
  refine ⟨⟨?_, trivial⟩, ?_⟩
  · intro _ m d _ _ hlookup _
    have hphone : (phoneStore (utf8 "10.0.0.5")).devices.lookup (utf8 "phone") =
        some (linkedPhone (utf8 "10.0.0.5")) := by decide +kernel
    cases hphone.symm.trans hlookup
    decide +kernel
  · rintro ⟨d, hlookup, horphan⟩
    have hphone : (addedStore (phoneStore (utf8 "10.0.0.5")) printerUpdate.ns
        (updateZone printerUpdate) plainUpdateWorld).devices.lookup (utf8 "phone") =
        some (linkedPhone (utf8 "10.0.0.5")) := by decide +kernel
    cases hphone.symm.trans hlookup
    exact absurd horphan (by decide +kernel)

/-- A linked phone without an address is removed by the update of another device, from
memory and from disk. -/
theorem not_keepsDurable_phoneStore : isDurableDevice (linkedPhone []) = true ∧
    (phoneStore []).devices.lookup (utf8 "phone") = some (linkedPhone []) ∧
    (phoneStore []).records.lookup (utf8 "phone") = some (assignmentRecord (linkedPhone [])) ∧
    (handleDDNSUpdate openConfig true (fun _ t => t) (phoneStore []) printerUpdate
      plainUpdateWorld).1.rcode = rcodeSuccess ∧
    (handleDDNSUpdate openConfig true (fun _ t => t) (phoneStore []) printerUpdate
      plainUpdateWorld).2.devices.lookup (utf8 "phone") = none ∧
    (handleDDNSUpdate openConfig true (fun _ t => t) (phoneStore []) printerUpdate
      plainUpdateWorld).2.records.lookup (utf8 "phone") = none := by
  decide +kernel

end GateSentry.Dns
