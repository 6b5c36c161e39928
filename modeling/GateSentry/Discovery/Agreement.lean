import GateSentry.Discovery.Lookups
import GateSentry.Discovery.Mirrored
import GateSentry.Discovery.Restart

/-!
# Runs on an attached store

Memory and disk stay in agreement over a run of the operations exactly if its links spare
what the document holds, and the indexes agree with the devices exactly if no link panics.
-/

namespace GateSentry.Discovery

open Foundation ByteText Calendar

/-! ## Runs -/

inductive StoreOperation where
  | observeDevice (observation : Device) (c : Circumstances)
  | upsertDevice (d : Device) (c : Circumstances)
  | linkTailscaleIdentity (deviceID : Bytes) (identity : TailscaleIdentity)
      (protectedIDs : List Bytes) (c : Circumstances)
  | unlinkTailscaleIdentity (deviceID nodeID : Bytes) (storage : StorageResult)
      (order : DeviceOrder)
  | applyTailscaleSnapshot (peers : List TailscaleIdentity) (c : Circumstances)
  | clearTailscaleObservations (order : DeviceOrder)
  | updateManualFields (id : Bytes) (update : ManualFieldsUpdate) (storage : StorageResult)
      (order : DeviceOrder)
  | clearDeviceAddress (id : Bytes) (clearIPv4 clearIPv6 : Bool) (order : DeviceOrder)
  | removeDevice (id : Bytes) (storage : StorageResult) (order : DeviceOrder)

namespace StoreOperation

/-- What the storage said and the new store, or the devices that a panic leaves. -/
def apply (ds : DeviceStore) :
    StoreOperation → Except (Dict Bytes Device) (Option PersistError × DeviceStore)
  | observeDevice observation c =>
    let result := Discovery.observeDevice ds observation c
    .ok (result.1.2.2.bind ObserveError.storageError, result.2)
  | upsertDevice d c => .ok (Discovery.upsertDevice ds d c).2
  | linkTailscaleIdentity deviceID identity protectedIDs c =>
    DeviceStore.linkResult
      (linkTailscaleIdentityProtected ds deviceID identity protectedIDs c)
  | unlinkTailscaleIdentity deviceID nodeID storage order =>
    let result := Discovery.unlinkTailscaleIdentity ds deviceID nodeID storage order
    .ok (unlinkError result.1, result.2)
  | applyTailscaleSnapshot peers c => .ok (Discovery.applyTailscaleSnapshot ds peers c)
  | clearTailscaleObservations order => .ok (none, Discovery.clearTailscaleObservations ds order)
  | updateManualFields id update storage order =>
    let result := Discovery.updateManualFields ds id update storage order
    .ok (result.1.2.2, result.2)
  | clearDeviceAddress id clearIPv4 clearIPv6 order =>
    .ok (none, Discovery.clearDeviceAddress ds id clearIPv4 clearIPv6 order)
  | removeDevice id storage order => .ok (removeDeviceE ds id storage order)

def Certain : StoreOperation → Prop
  | observeDevice _ c => c.storage ≠ .uncertain
  | upsertDevice _ c => c.storage ≠ .uncertain
  | linkTailscaleIdentity _ _ _ c => c.storage ≠ .uncertain
  | unlinkTailscaleIdentity _ _ storage _ => storage ≠ .uncertain
  | applyTailscaleSnapshot _ c => c.storage ≠ .uncertain
  | clearTailscaleObservations _ => True
  | updateManualFields _ _ storage _ => storage ≠ .uncertain
  | clearDeviceAddress _ _ _ _ => True
  | removeDevice _ storage _ => storage ≠ .uncertain

def Spares (ds : DeviceStore) : StoreOperation → Prop
  | linkTailscaleIdentity deviceID identity protectedIDs c =>
    ds.LinkSpares deviceID identity protectedIDs c
  | _ => True

end StoreOperation

namespace DeviceStore

variable {ds : DeviceStore}

theorem Mirrored.apply_agrees_iff (h : ds.Mirrored) {op : StoreOperation} (hcertain : op.Certain) :
    (∃ result, op.apply ds = .ok result ∧ ds.Agrees result) ↔ op.Spares ds := by
  have hfree {result : Option PersistError × DeviceStore} (happly : op.apply ds = .ok result)
      (hspares : op.Spares ds) (hobeys : ds.Obeys mirrors result) :
      (∃ result, op.apply ds = .ok result ∧ ds.Agrees result) ↔ op.Spares ds :=
    ⟨fun _ => hspares, fun _ => ⟨result, happly, hobeys.agrees⟩⟩
  have hlaw := recordLaw_mirrors
  have hds := h.follows
  cases op with
  | observeDevice observation c =>
    exact hfree rfl trivial (hds.saves hlaw hcertain (saves_observeDevice ds observation c))
  | upsertDevice d c =>
    exact hfree rfl trivial (hds.saves hlaw hcertain (saves_upsertDevice ds d c))
  | linkTailscaleIdentity deviceID identity protectedIDs c =>
    exact h.link_agrees_iff deviceID identity protectedIDs hcertain
  | unlinkTailscaleIdentity deviceID nodeID storage order =>
    exact hfree rfl trivial (hds.saves hlaw hcertain
      (saves_unlinkIdentity ds deviceID nodeID storage order))
  | applyTailscaleSnapshot peers c =>
    exact hfree rfl trivial (hds.applyTailscaleSnapshot hlaw peers hcertain)
  | clearTailscaleObservations order =>
    exact hfree rfl trivial (hds.clearTailscaleObservations hlaw order).obeys
  | updateManualFields id update storage order =>
    exact hfree rfl trivial (hds.saves hlaw hcertain
      (saves_updateManualFields ds id update storage order))
  | clearDeviceAddress id clearIPv4 clearIPv6 order =>
    exact hfree rfl trivial (hds.clearDeviceAddress hlaw id clearIPv4 clearIPv6 order).obeys
  | removeDevice id storage order =>
    exact hfree rfl trivial (hds.removeDeviceE hlaw id hcertain order)

def RunAgrees : DeviceStore → List StoreOperation → Prop
  | _, [] => True
  | ds, op :: rest => ∃ result, op.apply ds = .ok result ∧ ds.Agrees result ∧
      RunAgrees result.2 rest

def EachSpares : DeviceStore → List StoreOperation → Prop
  | _, [] => True
  | ds, op :: rest => op.Spares ds ∧ ∀ result, op.apply ds = .ok result →
      EachSpares result.2 rest

theorem Mirrored.runAgrees_iff (h : ds.Mirrored) {ops : List StoreOperation}
    (hcertain : ∀ op ∈ ops, op.Certain) : ds.RunAgrees ops ↔ ds.EachSpares ops := by
  induction ops generalizing ds with
  | nil => exact Iff.rfl
  | cons op rest ih =>
    rw [List.forall_mem_cons] at hcertain
    have hop := h.apply_agrees_iff hcertain.1
    constructor
    · rintro ⟨result, happly, hagrees, hrest⟩
      refine ⟨hop.mp ⟨result, happly, hagrees⟩, fun same hsame => ?_⟩
      cases happly.symm.trans hsame
      exact (ih hagrees.mirrored hcertain.2).mp hrest
    · rintro ⟨hspares, hrest⟩
      obtain ⟨result, happly, hagrees⟩ := hop.mpr hspares
      exact ⟨result, happly, hagrees, (ih hagrees.mirrored hcertain.2).mpr (hrest result happly)⟩

end DeviceStore

/-! ## Claims -/

inductive StoreEvent where
  | operation (op : StoreOperation)
  | markOffline (threshold : Int) (now : Time)
  | restart (zones : List Bytes) (p : Persistence) (protectedIDs : List Bytes)
      (storage : StorageResult) (order : DeviceOrder)

namespace StoreEvent

def apply (ds : DeviceStore) : StoreEvent → Except (Dict Bytes Device) DeviceStore
  | operation op => (op.apply ds).map (·.2)
  | markOffline threshold now => .ok (Discovery.markOffline ds threshold now)
  | restart zones p protectedIDs storage order =>
    .ok (startDevices zones p protectedIDs storage order)

def LeavesExact (ds : DeviceStore) (event : StoreEvent) : Prop :=
  match event.apply ds with
  | .ok after => ExactClaims after.devices after.indexes
  | .error left => ExactClaims left ds.indexes

/-- A link that is carried out finds no other device at two addresses of the node. -/
def LinksApart (ds : DeviceStore) : StoreEvent → Prop
  | operation (.linkTailscaleIdentity deviceID identity protectedIDs c) =>
    ds.LinkCarriedOut deviceID identity protectedIDs c →
      (ds.otherClaimants deviceID identity c.reading.now).Nodup
  | _ => True

theorem not_leavesExact {ds : DeviceStore} {event : StoreEvent} {left : Dict Bytes Device}
    (h : event.apply ds = .error left) {owner address : Bytes}
    (hclaims : owner ∈ ds.indexes.deviceByIPClaims.entriesAt address)
    (hgone : left.lookup owner = none) : ¬ event.LeavesExact ds := by
  unfold LeavesExact
  rw [h]
  intro hexact
  exact AList.lookup_eq_none.mp hgone (hexact.known owner (.inr (.inl ⟨address, hclaims⟩)))

theorem leavesExact_link_iff (ds : DeviceStore) (deviceID : Bytes) (identity : TailscaleIdentity)
    (protectedIDs : List Bytes) (c : Circumstances) :
    (operation (.linkTailscaleIdentity deviceID identity protectedIDs c)).LeavesExact ds ↔
      (ds.LinkCarriedOut deviceID identity protectedIDs c →
        (ds.otherClaimants deviceID identity c.reading.now).Nodup) := by
  generalize hlink : DeviceStore.linkResult
    (linkTailscaleIdentityProtected ds deviceID identity protectedIDs c) = link
  have happly : (operation (.linkTailscaleIdentity deviceID identity protectedIDs c)).apply ds =
      link.map (·.2) := by
    rw [← hlink]
    rfl
  have hok {result : Option PersistError × DeviceStore} (hresult : link = .ok result) :
      (operation (.linkTailscaleIdentity deviceID identity protectedIDs c)).LeavesExact ds := by
    unfold LeavesExact
    rw [happly, hresult]
    exact exactClaims result.2
  rcases DeviceStore.linkResult_cases rfl hlink with
    ⟨hcarried, err, after, hresult, -⟩ | ⟨hcarried, hconflict, known, -, -, hdropped⟩
  · exact iff_of_true (hok hresult) fun hagain => absurd hagain hcarried
  · rw [imp_iff_right hcarried]
    rcases DeviceStore.dropAliases_claimants hconflict
        (known.linkedTo (identity.prepared c.reading.now)) rfl with
      ⟨hnodup, devices, hdevices, -⟩ | ⟨hshared, left, hleft⟩
    · rw [hdevices] at hdropped
      obtain ⟨after, hresult, -⟩ := hdropped
      exact iff_of_true (hok hresult) hnodup
    · rw [hleft] at hdropped
      obtain ⟨owner, howner, hgone⟩ := gone_of_dropAliases hleft
      obtain ⟨address, -, hclaims⟩ := List.mem_flatMap.mp howner
      rw [hdropped] at happly
      exact iff_of_false (not_leavesExact happly hclaims hgone) hshared

theorem leavesExact_iff (ds : DeviceStore) (event : StoreEvent) :
    event.LeavesExact ds ↔ event.LinksApart ds := by
  cases event with
  | operation op =>
    cases op with
    | linkTailscaleIdentity deviceID identity protectedIDs c =>
      exact leavesExact_link_iff ds deviceID identity protectedIDs c
    | _ => exact iff_of_true (exactClaims _) trivial
  | markOffline threshold now => exact iff_of_true (exactClaims _) trivial
  | restart zones p protectedIDs storage order => exact iff_of_true (exactClaims _) trivial

end StoreEvent

def DeviceStore.Throughout (holds : DeviceStore → StoreEvent → Prop) :
    DeviceStore → List StoreEvent → Prop
  | _, [] => True
  | ds, event :: rest => holds ds event ∧ ∀ after, event.apply ds = .ok after →
      Throughout holds after rest

/-- The claims are exact after every operation of a run exactly if each of its links that is
carried out finds no other device at two addresses of the node. -/
theorem claims_exact_iff (ds : DeviceStore) (events : List StoreEvent) :
    ds.Throughout (fun ds event => event.LeavesExact ds) events ↔
      ds.Throughout (fun ds event => event.LinksApart ds) events := by
  induction events generalizing ds with
  | nil => exact Iff.rfl
  | cons event rest ih =>
    exact and_congr (event.leavesExact_iff ds)
      (forall_congr' fun after => imp_congr_right fun _ => ih after)

/-! ## The attached document -/

def DurableDocument (zones : List Bytes) (p : Persistence) : Prop :=
  ∃ decoded, decodeDeviceAssignments p.text = .ok decoded ∧ ∀ id a, decoded.lookup id = some a →
    durableRecord ((newDeviceStoreMultiZone zones).restoredDevice id a) = some a

theorem durable_durable (nodes : List TailscaleIdentity) :
    durableTailscaleIdentities (durableTailscaleIdentities nodes) =
      durableTailscaleIdentities nodes := by
  have hidem (node : Bytes) : normalizeNodeID (normalizeNodeID node) = normalizeNodeID node :=
    trimSpace_trimSpace node
  unfold durableTailscaleIdentities
  rw [List.filterMap_filterMap]
  congr 1
  funext node
  by_cases hempty : (normalizeNodeID node.nodeID).isEmpty = true
  · simp [hempty]
  · simp only [hempty, Bool.false_eq_true, if_false, Option.bind_some, hidem, trimSpace_trimSpace]

variable (zones : List Bytes) {a : DeviceAssignment}

theorem nodes_of_durableRecord {zones : List Bytes} {id : Bytes}
    (h : durableRecord ((newDeviceStoreMultiZone zones).restoredDevice id a) = some a) :
    durableTailscaleIdentities a.tailscaleNodes = a.tailscaleNodes := by
  unfold durableRecord at h
  split at h
  · have hnodes := congrArg DeviceAssignment.tailscaleNodes (Option.some.inj h)
    have hrestored : ((newDeviceStoreMultiZone zones).restoredDevice id a).tailscaleNodes =
        durableTailscaleIdentities a.tailscaleNodes := by
      rfl
    rw [assignmentRecord, hrestored, durable_durable] at hnodes
    exact hnodes
  · cases h

variable {protectedIDs : List Bytes} {decoded : Dict Bytes DeviceAssignment}

theorem lookup_migrated_durable {zones : List Bytes} {text : StoredText}
    (hdecode : decodeDeviceAssignments text = .ok decoded)
    (hdurable : ∀ id a, decoded.lookup id = some a →
      durableRecord ((newDeviceStoreMultiZone zones).restoredDevice id a) = some a)
    {sourceVersion : Int} {id : Bytes}
    (h : (migrateDeviceAssignments decoded sourceVersion protectedIDs).lookup id = some a) :
    decoded.lookup id = some a := by
  obtain ⟨record, hrecord, rfl⟩ := lookup_migrated h
  have hid := (identified_of_decode hdecode hrecord).1
  have hnodes := nodes_of_durableRecord (hdurable id record hrecord)
  rw [hrecord, DeviceAssignment.migrated, hnodes, ← hid]

theorem DeviceStore.lookup_restored_new (records : Dict Bytes DeviceAssignment) (id : Bytes) :
    ((newDeviceStoreMultiZone zones).restoredDevices records).lookup id =
      (records.lookup id).map ((newDeviceStoreMultiZone zones).restoredDevice id) := by
  cases hlookup : ((newDeviceStoreMultiZone zones).restoredDevices records).lookup id with
  | none =>
    have habsent : id ∉ records := by
      intro hmem
      rw [AList.lookup_eq_none] at hlookup
      exact hlookup (DeviceStore.mem_restoredDevices.mpr (.inr hmem))
    rw [AList.lookup_eq_none.mpr habsent]
    rfl
  | some d =>
    rcases DeviceStore.lookup_restoredDevices hlookup with hkept | ⟨a, ha, rfl⟩
    · cases hkept
    · rw [ha]
      rfl

variable {p : Persistence}

theorem records_attachedDocument (hdecode : decodeDeviceAssignments p.text = .ok decoded)
    (hkeeps : ∀ id a, (migrateDeviceAssignments decoded p.text.sourceVersion
      protectedIDs).lookup id = some a → decoded.lookup id = some a) (id : Bytes) :
    (attachedDocument p protectedIDs .written).records.lookup id =
      (migrateDeviceAssignments decoded p.text.sourceVersion protectedIDs).lookup id := by
  have hrecords : p.records = decoded := decode_records hdecode
  unfold attachedDocument
  rw [hdecode]
  dsimp only
  split
  · have htext (next : StoredText) :
        (p.updateValue (fun _ => .ok (some next)) .written).1.text = (some next).getD p.text :=
      Persistence.text_updateValue_of_writes rfl rfl
    unfold Persistence.records
    rw [htext]
    rfl
  · next hneeded =>
    rw [hrecords]
    cases hlookup : (migrateDeviceAssignments decoded p.text.sourceVersion
        protectedIDs).lookup id with
    | some a => exact hkeeps id a hlookup
    | none =>
      rw [AList.lookup_eq_none] at hlookup ⊢
      exact fun hmem => hlookup ((mem_migrated_of_unneeded hneeded).mp hmem)

variable {ds : DeviceStore}

theorem attach_mirrored {zones : List Bytes} {order : DeviceOrder}
    (hdocument : DurableDocument zones p)
    (h : attachPersistenceWithProtectedIDs (newDeviceStoreMultiZone zones) p protectedIDs .written
      order = .ok ds) : ds.Mirrored := by
  obtain ⟨decoded, hdecode, hdurable⟩ := hdocument
  obtain ⟨hpersistence, same, hsame, hdevices⟩ := attach_document h
  cases hdecode.symm.trans hsame
  have hkeeps : ∀ id a, (migrateDeviceAssignments decoded p.text.sourceVersion
      protectedIDs).lookup id = some a → decoded.lookup id = some a :=
    fun id a hlookup => lookup_migrated_durable hdecode hdurable hlookup
  refine ⟨by rw [hpersistence]; rfl, fun id => ?_⟩
  unfold DeviceStore.records
  rw [hpersistence, hdevices, DeviceStore.lookup_restored_new]
  rw [records_attachedDocument hdecode hkeeps]
  cases hlookup : (migrateDeviceAssignments decoded p.text.sourceVersion
      protectedIDs).lookup id with
  | none => rfl
  | some a => exact (hdurable id a (hkeeps id a hlookup)).symm

/-- From a store attached to a document of durable records, memory and disk agree after every
operation of a run, and no operation that reports an error of the storage changes anything,
exactly if every link of the run spares what the document holds. -/
theorem document_mirrors_devices_iff {zones : List Bytes} {p : Persistence}
    {protectedIDs : List Bytes} {order : DeviceOrder} {ds : DeviceStore}
    (hdocument : DurableDocument zones p)
    (hattach : attachPersistenceWithProtectedIDs (newDeviceStoreMultiZone zones) p protectedIDs
      .written order = .ok ds)
    {ops : List StoreOperation} (hcertain : ∀ op ∈ ops, op.Certain) :
    (ds.Mirrored ∧ ds.RunAgrees ops) ↔ ds.EachSpares ops := by
  have hmirrored := attach_mirrored hdocument hattach
  rw [and_iff_right hmirrored]
  exact hmirrored.runAgrees_iff hcertain

def DeviceStore.finalStore (ds : DeviceStore) (ops : List StoreOperation) : Option DeviceStore :=
  ops.foldlM (fun ds op => (op.apply ds).toOption.map (·.2)) ds

theorem DeviceStore.RunAgrees.finalStore {ops : List StoreOperation} (h : ds.RunAgrees ops)
    (hds : ds.Mirrored) : ∃ after, ds.finalStore ops = some after ∧ after.Mirrored := by
  induction ops generalizing ds with
  | nil => exact ⟨ds, rfl, hds⟩
  | cons op rest ih =>
    obtain ⟨result, happly, hagrees, hrest⟩ := h
    obtain ⟨after, hafter, hmirrored⟩ := ih hrest hagrees.mirrored
    refine ⟨after, ?_, hmirrored⟩
    unfold DeviceStore.finalStore
    rw [List.foldlM_cons, happly]
    exact hafter

/-! ### A link in a small inventory -/

def noDocument : Persistence := ⟨false, .empty⟩

def attachedStore : DeviceStore := startDevices [utf8 "local"] noDocument [] .written .asListed

def workingAt (t : Time) : Circumstances := ⟨⟨t, t⟩, .written, .asListed⟩

def phoneLink (address : Bytes) : StoreOperation :=
  .linkTailscaleIdentity (utf8 "phone") { nodeID := utf8 "n1", addresses := [address] } []
    (workingAt 2)

def phoneRun : List StoreOperation :=
  [.upsertDevice { id := utf8 "phone", ipv4 := utf8 "192.168.1.7" } (workingAt 1),
    phoneLink (utf8 "100.64.0.8")]

def cameraRun : List StoreOperation :=
  [.upsertDevice { id := utf8 "phone", ipv4 := utf8 "192.168.1.7" } (workingAt 1),
    .upsertDevice { id := utf8 "camera", ipv4 := utf8 "100.64.0.9", source := some .manual }
      (workingAt 1),
    phoneLink (utf8 "100.64.0.9")]

def doorbell : Device :=
  { id := utf8 "doorbell", ipv4 := utf8 "100.64.0.9", ipv6 := utf8 "fd7a::9" }

def doorbellStore : DeviceStore :=
  (upsertDevice (upsertDevice attachedStore { id := utf8 "phone" } (workingAt 1)).2.2 doorbell
    (workingAt 1)).2.2

def doorbellLink : StoreEvent :=
  .operation (.linkTailscaleIdentity (utf8 "phone")
    { nodeID := utf8 "n1", addresses := [utf8 "100.64.0.9", utf8 "fd7a::9"] } [] (workingAt 2))

/-- The doorbell is deleted for the first address and dereferenced for the second, and the indexes
still name it. -/
theorem link_leaves_claims : ¬ attachedStore.Throughout (fun ds event => event.LeavesExact ds)
    [.operation (.upsertDevice { id := utf8 "phone" } (workingAt 1)),
      .operation (.upsertDevice doorbell (workingAt 1)), doorbellLink] := by
  have hpanics : (match doorbellLink.apply doorbellStore with
      | .error left => (left.lookup (utf8 "doorbell")).isNone
      | .ok _ => false) = true := by decide +kernel
  have hclaims : utf8 "doorbell" ∈
      doorbellStore.indexes.deviceByIPClaims.entriesAt (utf8 "fd7a::9") := by decide +kernel
  rintro ⟨-, hphone⟩
  obtain ⟨-, hdoorbell⟩ := hphone _ rfl
  have hexact : doorbellLink.LeavesExact doorbellStore := (hdoorbell _ rfl).1
  cases hleft : doorbellLink.apply doorbellStore with
  | ok after =>
    rw [hleft] at hpanics
    cases hpanics
  | error left =>
    rw [hleft] at hpanics
    exact StoreEvent.not_leavesExact hleft hclaims (Option.isNone_iff_eq_none.mp hpanics) hexact

theorem durableDocument_noDocument : DurableDocument zones noDocument := by
  refine ⟨∅, rfl, fun id a hlookup => ?_⟩
  cases (AList.lookup_empty id).symm.trans hlookup

theorem document_mirrors_phone : attachedStore.Mirrored ∧ attachedStore.RunAgrees phoneRun := by
  have hcertain : ∀ op ∈ phoneRun, op.Certain := by
    simp [phoneRun, phoneLink, StoreOperation.Certain, workingAt]
  refine (document_mirrors_devices_iff (durableDocument_noDocument _) rfl hcertain).mpr ?_
  refine ⟨trivial, fun result hresult => ?_⟩
  have hphone : Except.ok (upsertDevice attachedStore
      { id := utf8 "phone", ipv4 := utf8 "192.168.1.7" } (workingAt 1)).2 = .ok result := hresult
  obtain rfl := Except.ok.inj hphone
  have hnone : (upsertDevice attachedStore
      { id := utf8 "phone", ipv4 := utf8 "192.168.1.7" } (workingAt 1)).2.2.otherClaimants
      (utf8 "phone") { nodeID := utf8 "n1", addresses := [utf8 "100.64.0.8"] }
      (workingAt 2).reading.now = [] := by
    decide +kernel
  refine ⟨fun _ => ?_, fun _ _ => trivial⟩
  rw [hnone]
  simp

/-- The camera is gone from memory, and its record is still on disk. -/
theorem link_leaves_record : DurableDocument [utf8 "local"] noDocument ∧
    attachPersistenceWithProtectedIDs (newDeviceStoreMultiZone [utf8 "local"]) noDocument []
      .written .asListed = .ok attachedStore ∧
    (∀ op ∈ cameraRun, op.Certain) ∧
    (attachedStore.finalStore cameraRun).map (fun after =>
      ((after.devices.lookup (utf8 "camera")).isSome,
        (after.records.lookup (utf8 "camera")).isSome)) = some (false, true) ∧
    ¬ attachedStore.RunAgrees cameraRun := by
  have hfinal : (attachedStore.finalStore cameraRun).map (fun after =>
      ((after.devices.lookup (utf8 "camera")).isSome,
        (after.records.lookup (utf8 "camera")).isSome)) = some (false, true) := by
    decide +kernel
  refine ⟨durableDocument_noDocument _, rfl, ?_, hfinal, ?_⟩
  · simp [cameraRun, phoneLink, StoreOperation.Certain, workingAt]
  · intro hagrees
    obtain ⟨after, hafter, hmirrored⟩ :=
      hagrees.finalStore (attach_mirrored (durableDocument_noDocument _) rfl)
    rw [hafter, Option.map_some, Option.some.injEq, Prod.mk.injEq] at hfinal
    have hgone : after.devices.lookup (utf8 "camera") = none := by
      rw [← Option.not_isSome_iff_eq_none, hfinal.1]
      decide
    have hrecord := hfinal.2
    rw [hmirrored.recorded, hgone] at hrecord
    cases hrecord

end GateSentry.Discovery
