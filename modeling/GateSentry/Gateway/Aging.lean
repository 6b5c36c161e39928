import GateSentry.Discovery.Activity
import GateSentry.Dns.DurableUpdate

/-!
# Ages of addresses over whole runs

The devices of the gateway from its first start on: observations, dynamic updates, links,
snapshots of the overlay, labels, sweeps and restarts, in any order.
-/

namespace GateSentry.Gateway.Aging

open Foundation Discovery Dns ByteText Calendar

/-! ## Dynamic updates -/

theorem lanStep_foldl {α : Type} {step : DeviceStore → α → DeviceStore}
    (h : ∀ (ds : DeviceStore) item, ds.LanStep (step ds item)) (items : List α)
    (ds : DeviceStore) :
    ds.LanStep (items.foldl step ds) := by
  induction items generalizing ds with
  | nil => exact .refl ds
  | cons item rest ih => exact (h ds item).trans (ih (step ds item))

theorem lanStep_deleteStep (world : UpdateWorld) (ds : DeviceStore) (item : DdnsUpdate × Nat) :
    ds.LanStep (deleteStep world ds item) :=
  applyDDNSDelete_induction (.refl ds) (fun after _ _ _ _ hafter =>
    hafter.trans ((DeviceStore.changes_clearDeviceAddress after _ _ _ _).lanStep
      (fun hd => hd.cleared _ _) fun _ => rfl)) _ _

variable {world : UpdateWorld}

section

variable (hclock : ∀ i, (world.adds i).circumstances.reading.now ≠ zeroTime)

include hclock

theorem lanStep_addStep (zone : Bytes) (ds : DeviceStore) (item : DdnsUpdate × Nat) :
    ds.LanStep (addStep world zone ds item) := by
  unfold addStep applyDDNSAdd
  split
  · exact .refl ds
  · next m hmatched =>
    exact DeviceStore.lanStep_upsertDevice ds (matchedDevice_isTransient hmatched).tailscaleNodes
      (hclock item.2)

theorem lanStep_applyUpdates (ds : DeviceStore) (rrs : List RR) (zone : Bytes) :
    ds.LanStep (applyUpdates ds rrs zone world) := by
  have hdeleted := lanStep_foldl (lanStep_deleteStep world) (parseDDNSUpdates rrs).2.zipIdx ds
  have hadded := hdeleted.trans
    (lanStep_foldl (lanStep_addStep hclock zone) (parseDDNSUpdates rrs).1.zipIdx _)
  exact hadded.trans
    (lanStep_foldl (fun ds _ => DeviceStore.lanStep_removeDevice ds _ _ _) _ _)

end

theorem lanStep_handleDDNSUpdate (config : DdnsConfig) (tsigStatus : Bool)
    (sign : Msg → Tsig → Tsig) (ds : DeviceStore) (r : Msg)
    (hclock : ∀ i, (world.adds i).circumstances.reading.now ≠ zeroTime) :
    ds.LanStep (handleDDNSUpdate config tsigStatus sign ds r world).2 := by
  rcases handleDDNSUpdate_cases config tsigStatus sign ds r world with ⟨-, hsame⟩ | happlied
  · rw [hsame]
    exact .refl ds
  · rw [happlied]
    exact lanStep_applyUpdates hclock ds _ _

/-! ## Runs -/

/-- An operation on the devices.  What observes the LAN knows of no linked node, and no
reading of the clock is the zero time. -/
inductive Operation where
  | observation (observation : Device) (hlan : observation.tailscaleNodes = [])
      (c : Circumstances) (hclock : c.reading.now ≠ zeroTime)
  | ddnsUpdate (config : DdnsConfig) (tsigStatus : Bool) (sign : Msg → Tsig → Tsig) (r : Msg)
      (world : UpdateWorld)
      (hclock : ∀ i, (world.adds i).circumstances.reading.now ≠ zeroTime)
  | manualEdit (id : Bytes) (update : ManualFieldsUpdate) (storage : StorageResult)
      (order : DeviceOrder)
  | link (deviceID : Bytes) (identity : TailscaleIdentity) (protectedIDs : List Bytes)
      (c : Circumstances)
  | unlink (deviceID nodeID : Bytes) (storage : StorageResult) (order : DeviceOrder)
  | snapshot (peers : List TailscaleIdentity) (c : Circumstances)
  | clear (order : DeviceOrder)
  | offlineSweep (threshold : Int) (now : Time)

namespace Operation

def apply (ds : DeviceStore) : Operation → Option DeviceStore
  | observation device _ c _ => some (observeDevice ds device c).2
  | ddnsUpdate config tsigStatus sign r world _ =>
    some (handleDDNSUpdate config tsigStatus sign ds r world).2
  | manualEdit id update storage order => some (updateManualFields ds id update storage order).2
  | link deviceID identity protectedIDs c =>
    (linkTailscaleIdentityProtected ds deviceID identity protectedIDs c).store
  | unlink deviceID nodeID storage order =>
    some (unlinkTailscaleIdentity ds deviceID nodeID storage order).2
  | snapshot peers c => some (applyTailscaleSnapshot ds peers c).2
  | clear order => some (clearTailscaleObservations ds order)
  | offlineSweep threshold now => some (markOffline ds threshold now)

/-- The document after the operation.  A link that panics has stored the linked device. -/
def document (ds : DeviceStore) (disk : Persistence) (op : Operation) : Persistence :=
  match op.apply ds, op with
  | some after, _ => after.persistence.getD disk
  | none, link deviceID identity _ c =>
    ((ds.devices.lookup deviceID).bind fun known =>
      (ds.persist (known.linkedTo (identity.prepared c.reading.now)) c.storage).1.persistence
    ).getD disk
  | none, _ => disk

def isLAN : Operation → Bool
  | observation _ _ _ _ => true
  | ddnsUpdate _ _ _ _ _ _ => true
  | manualEdit _ _ _ _ => true
  | _ => false

def isOverlay : Operation → Bool
  | snapshot _ _ => true
  | clear _ => true
  | _ => false

end Operation

inductive Event where
  | operation (op : Operation)
  | restart (zones protectedIDs : List Bytes) (storage : StorageResult) (order : DeviceOrder)

/-- The store in memory, none before the first start and none that a panic has left locked,
and the document on disk. -/
structure Running where
  store : Option DeviceStore
  disk : Persistence

namespace Running

def step (s : Running) : Event → Running
  | .operation op =>
    match s.store with
    | none => s
    | some ds => ⟨op.apply ds, op.document ds s.disk⟩
  | .restart zones protectedIDs storage order =>
    ⟨some (startDevices zones s.disk protectedIDs storage order),
      attachedDocument s.disk protectedIDs storage⟩

def afterEvents (events : List Event) : Running := events.foldl step ⟨none, false, .empty⟩

structure Sound (s : Running) : Prop where
  store : ∀ ds, s.store = some ds → ds.Sound
  disk : ∀ id a, s.disk.records.lookup id = some a → DistinctNodes a.tailscaleNodes

end Running

/-! ## Sound states -/

theorem sound_migrated {decoded : Dict Bytes DeviceAssignment} {sourceVersion : Int}
    {protectedIDs : List Bytes} {id : Bytes} {a : DeviceAssignment}
    (h : ∀ id a, decoded.lookup id = some a → DistinctNodes a.tailscaleNodes)
    (hlookup : (migrateDeviceAssignments decoded sourceVersion protectedIDs).lookup id = some a) :
    DistinctNodes a.tailscaleNodes := by
  obtain ⟨record, hrecord, rfl⟩ := lookup_migrated hlookup
  exact (h id record hrecord).durable

variable {p : Persistence}

theorem sound_attachedDocument (protectedIDs : List Bytes) (storage : StorageResult)
    (h : ∀ id a, p.records.lookup id = some a → DistinctNodes a.tailscaleNodes) (id : Bytes)
    (a : DeviceAssignment)
    (hlookup : (attachedDocument p protectedIDs storage).records.lookup id = some a) :
    DistinctNodes a.tailscaleNodes := by
  rcases lookup_attachedDocument hlookup with hkept | ⟨record, hrecord, rfl⟩
  · exact h id a hkept
  · exact (h id record hrecord).durable

theorem sound_startDevices (zones : List Bytes) (protectedIDs : List Bytes)
    (storage : StorageResult) (order : DeviceOrder)
    (h : ∀ id a, p.records.lookup id = some a → DistinctNodes a.tailscaleNodes) :
    (startDevices zones p protectedIDs storage order).Sound := by
  unfold startDevices
  dsimp only
  split
  · next after hattach =>
    obtain ⟨hdocument, decoded, hdecode, hdevices⟩ := attach_document hattach
    constructor
    · intro id d hlookup
      rw [hdevices] at hlookup
      rcases DeviceStore.lookup_restoredDevices hlookup with hkept | ⟨a, ha, rfl⟩
      · cases hkept
      · rw [← decode_records hdecode] at ha
        have hdistinct := (sound_migrated h ha).durable
        exact ⟨fun _ => ⟨rfl, rfl⟩, hdistinct⟩
    · intro id a hlookup
      unfold DeviceStore.records at hlookup
      rw [hdocument] at hlookup
      exact sound_attachedDocument protectedIDs storage h id a hlookup
  · constructor
    · intro id d hlookup
      cases hlookup
    · intro id a hlookup
      cases (AList.lookup_empty id).symm.trans hlookup

variable {ds : DeviceStore} {disk : Persistence}

theorem sound_persistence (hds : ds.Sound)
    (hdisk : ∀ id a, disk.records.lookup id = some a → DistinctNodes a.tailscaleNodes) (id : Bytes)
    (a : DeviceAssignment) (hlookup : (ds.persistence.getD disk).records.lookup id = some a) :
    DistinctNodes a.tailscaleNodes := by
  cases hp : ds.persistence with
  | none =>
    rw [hp] at hlookup
    exact hdisk id a hlookup
  | some p =>
    rw [hp] at hlookup
    have hrecords : ds.records = p.records := by
      unfold DeviceStore.records
      rw [hp]
    rw [Option.getD_some, ← hrecords] at hlookup
    exact hds.records hlookup

theorem Operation.lanStep {op : Operation} {after : DeviceStore} (h : op.isLAN = true)
    (happly : op.apply ds = some after) : ds.LanStep after := by
  cases op with
  | observation device hlan c hclock =>
    cases happly
    exact DeviceStore.lanStep_observeDevice ds hlan hclock
  | ddnsUpdate config tsigStatus sign r world hclock =>
    cases happly
    exact lanStep_handleDDNSUpdate config tsigStatus sign ds r hclock
  | manualEdit id update storage order =>
    cases happly
    exact (DeviceStore.saves_updateManualFields ds id update storage order).changes.lanStep
      (fun hd => hd.withManualFields update) fun _ => rfl
  | link | unlink | snapshot | clear | offlineSweep => cases h

theorem Operation.sound_apply {after : DeviceStore} (hds : ds.Sound) (op : Operation)
    (h : op.apply ds = some after) : after.Sound := by
  cases op with
  | observation | ddnsUpdate | manualEdit => exact (lanStep rfl h).sound hds
  | link deviceID identity protectedIDs c =>
    exact (DeviceStore.changes_linkIdentity h).sound_of_known hds fun hd =>
      hd.linkedTo _
  | unlink deviceID nodeID storage order =>
    cases h
    exact (DeviceStore.saves_unlinkIdentity ds deviceID nodeID storage
      order).changes.sound_of_known hds fun hd => hd.unlinkedFrom _
  | snapshot peers c =>
    cases h
    exact (DeviceStore.changes_applySnapshot ds peers c).sound_of_known hds fun hd =>
      hd.refreshed peers _
  | clear order =>
    cases h
    exact (DeviceStore.changes_clearObservations ds order).sound_of_known hds fun hd =>
      hd.withoutObservations
  | offlineSweep threshold now =>
    cases h
    exact (DeviceStore.changes_markOffline ds threshold now).sound_of_known hds fun hd =>
      hd.sweptAt _

theorem Operation.sound_document (hds : ds.Sound)
    (hdisk : ∀ id a, disk.records.lookup id = some a → DistinctNodes a.tailscaleNodes)
    (op : Operation) (id : Bytes) (a : DeviceAssignment)
    (hlookup : (op.document ds disk).records.lookup id = some a) :
    DistinctNodes a.tailscaleNodes := by
  cases happly : op.apply ds with
  | some after =>
    have hdocument : op.document ds disk = after.persistence.getD disk := by
      unfold document
      rw [happly]
    rw [hdocument] at hlookup
    exact sound_persistence (op.sound_apply hds happly) hdisk id a hlookup
  | none =>
    cases op with
    | link deviceID identity protectedIDs c =>
      unfold document at hlookup
      rw [happly] at hlookup
      dsimp only at hlookup
      cases hknown : ds.devices.lookup deviceID with
      | none =>
        rw [hknown] at hlookup
        exact hdisk id a hlookup
      | some known =>
        rw [hknown] at hlookup
        have hpersist := (DeviceStore.changes_persist ds
          (known.linkedTo (identity.prepared c.reading.now)) c.storage).sound hds (by
            rintro d rfl
            exact (hds.devices hknown).linkedTo _)
        exact sound_persistence hpersist hdisk id a hlookup
    | observation | ddnsUpdate | manualEdit | unlink | snapshot | clear | offlineSweep =>
      cases happly

theorem Running.step_sound {s : Running} (h : s.Sound) (event : Event) : (s.step event).Sound := by
  cases event with
  | restart zones protectedIDs storage order =>
    constructor
    · rintro ds ⟨⟩
      exact sound_startDevices zones protectedIDs storage order h.disk
    · exact sound_attachedDocument protectedIDs storage h.disk
  | operation op =>
    unfold step
    cases hstore : s.store with
    | none => exact h
    | some ds =>
      have hds := h.store ds hstore
      exact ⟨fun after hafter => op.sound_apply hds hafter, op.sound_document hds h.disk⟩

theorem Running.sound_afterEvents (events : List Event) : (afterEvents events).Sound := by
  apply List.foldlRecOn (motive := Running.Sound)
  · constructor
    · rintro ds ⟨⟩
    · intro id a hlookup
      cases (AList.lookup_empty id).symm.trans hlookup
  · exact fun s hs event _ => step_sound hs event

/-! ## Ages -/

variable {op : Operation}

theorem Operation.lanKept {after : DeviceStore} (h : op.isOverlay = true)
    (happly : op.apply ds = some after) : ds.LanKept after := by
  cases op with
  | snapshot peers c =>
    cases happly
    exact DeviceStore.lanKept_of_known (DeviceStore.changes_applySnapshot ds peers c)
      fun d => (refreshed_lan d peers c.reading.now).1
  | clear order =>
    cases happly
    exact DeviceStore.lanKept_of_known (DeviceStore.changes_clearObservations ds order)
      fun _ => rfl
  | observation | ddnsUpdate | manualEdit | link | unlink | offlineSweep => cases h

theorem Running.apply_of_after {events : List Event} {later : DeviceStore}
    (hstore : (afterEvents events).store = some ds)
    (hlater : (afterEvents (events ++ [.operation op])).store = some later) :
    op.apply ds = some later := by
  unfold afterEvents at hstore hlater
  rw [List.foldl_append, List.foldl_cons] at hlater
  generalize events.foldl step _ = s at hstore hlater
  unfold step at hlater
  rw [hstore] at hlater
  exact hlater

/-- In every run, what is heard of the overlay leaves the age of an address that one device
has in the LAN alone, and activity in the LAN leaves the age of an address that it has as a
linked node alone. -/
theorem activity_ages_apart (events : List Event) (op : Operation) {before later : DeviceStore}
    (hbefore : (Running.afterEvents events).store = some before)
    (hlater : (Running.afterEvents (events ++ [.operation op])).store = some later) (id ip : Bytes) :
    (op.isOverlay = true → before.SolelyClaimed Device.InLAN id ip →
      later.SolelyClaimed Device.InLAN id ip → later.lastSeenForIP ip = before.lastSeenForIP ip) ∧
    (op.isLAN = true → before.SolelyClaimed Device.InOverlay id ip →
      later.SolelyClaimed Device.InOverlay id ip →
        later.lastSeenForIP ip = before.lastSeenForIP ip) := by
  have hsound := (Running.sound_afterEvents events).store before hbefore
  have happly := Running.apply_of_after hbefore hlater
  constructor
  · intro hoverlay
    exact (Operation.lanKept hoverlay happly).lastSeenForIP_eq hsound
  · intro hlan
    exact ((Operation.lanStep hlan happly).overlay hsound).lastSeenForIP_eq

/-! ### A linked phone -/

theorem solelyClaimed_of_index {way : Device → Bytes → Prop} {id ip : Bytes}
    {d : Device} (hlookup : ds.devices.lookup id = some d) (hway : way d (normalizeIP ip))
    (hclaims : ds.indexes.deviceByIPClaims.entriesAt (normalizeIP ip) = [id]) :
    ds.SolelyClaimed way id ip := by
  refine ⟨⟨d, hlookup, hway⟩, fun other hother => ?_⟩
  have hmem := (ds.mem_claims_iff (normalizeIP ip) other).mpr hother
  rw [hclaims] at hmem
  exact List.mem_singleton.mp hmem

def phoneNode (lastSeen : Time) : TailscaleIdentity :=
  { nodeID := utf8 "n1", addresses := [utf8 "100.64.0.8"], online := true, lastSeen }

def phoneObserved (t : Time) (ht : t ≠ zeroTime) : Operation :=
  .observation (phoneAt (utf8 "192.168.1.7")) rfl (seenAt t) ht

def phoneLinked : List Event :=
  [.restart [utf8 "local"] [] .written .asListed,
    .operation (phoneObserved 1 (by decide)),
    .operation (.link (generateID 1) (phoneNode 2) [] (seenAt 2))]

def phoneRefreshed : Operation := .snapshot [phoneNode 50] (seenAt 50)

def storeAfter (events : List Event) : DeviceStore :=
  ((Running.afterEvents events).store).getD (newDeviceStore [])

theorem phone_ages_apart : (storeAfter (phoneLinked ++ [.operation phoneRefreshed])).lastSeenForIP
        (utf8 "192.168.1.7") = (storeAfter phoneLinked).lastSeenForIP (utf8 "192.168.1.7") ∧
      (storeAfter (phoneLinked ++ [.operation (phoneObserved 90 (by decide))])).lastSeenForIP
        (utf8 "100.64.0.8") = (storeAfter phoneLinked).lastSeenForIP (utf8 "100.64.0.8") := by
  constructor
  · refine (activity_ages_apart phoneLinked phoneRefreshed rfl rfl (generateID 1) _).1 rfl ?_ ?_
    · exact solelyClaimed_of_index rfl (by decide +kernel) (by decide +kernel)
    · exact solelyClaimed_of_index rfl (by decide +kernel) (by decide +kernel)
  · refine (activity_ages_apart phoneLinked (phoneObserved 90 (by decide)) rfl rfl
      (generateID 1) _).2 rfl ?_ ?_
    · exact solelyClaimed_of_index rfl (by decide +kernel) (by decide +kernel)
    · exact solelyClaimed_of_index rfl (by decide +kernel) (by decide +kernel)

end GateSentry.Gateway.Aging
