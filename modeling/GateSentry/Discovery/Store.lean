import GateSentry.Discovery.Persistence

/-!
# The device store

Devices by id, the indexes derived from them, and the document that keeps the
durable part.  Every mutation holds the mutation lock from start to end, so an
operation is one step from a state to the next.
-/

namespace GateSentry.Discovery

open Foundation ByteText Calendar

/-! ## Indexes -/

structure Indexes where
  recordsByName : Dict Bytes (List DnsRecord) := ∅
  recordsByReverse : Dict Bytes (List DnsRecord) := ∅
  deviceByHostname : Dict Bytes Bytes := ∅
  deviceByMAC : Dict Bytes Bytes := ∅
  deviceByIP : Dict Bytes Bytes := ∅
  deviceByIPClaims : Dict Bytes (List Bytes) := ∅
  deviceByTailscaleNode : Dict Bytes Bytes := ∅

def claimLowest (id : Bytes) (dict : Dict Bytes Bytes) (key : Bytes) : Dict Bytes Bytes :=
  let current := (dict.lookup key).getD []
  if current.isEmpty || id < current then dict.insert key id else dict

def Device.hostKeys (d : Device) : List Bytes :=
  (d.hostnames ++ d.mdnsNames).map toLower ++ if d.dnsName.isEmpty then [] else [d.dnsName]

def Device.forwardRecords (d : Device) (fqdn : Bytes) : List DnsRecord :=
  let ttl := if d.persistent then manualTTL else defaultTTL
  let record (rtype : RecordType) (value : Bytes) : List DnsRecord :=
    if value.isEmpty then []
    else [{ name := fqdn, rtype, value, ttl, deviceID := d.id, source := d.source }]
  record .a d.ipv4 ++ record .aaaa d.ipv6

def Device.reverseRecords (d : Device) (reverseName target : Bytes) : List DnsRecord :=
  let ttl := if d.persistent then manualTTL else defaultTTL
  if reverseName.isEmpty then []
  else [{ name := reverseName, rtype := .ptr, value := target, ttl, deviceID := d.id
          source := d.source }]

def Indexes.addRecords (zones : List Bytes) (idx : Indexes) (d : Device) : Indexes :=
  let fqdn (zone : Bytes) := d.dnsName ++ utf8 "." ++ zone
  let primary := fqdn (zones.headD [])
  let byName := zones.foldl (fun byName zone =>
    byName.appendAt (toLower (fqdn zone)) (d.forwardRecords (fqdn zone))) idx.recordsByName
  let reverse4 := if d.ipv4.isEmpty then [] else reverseIPv4 d.ipv4
  let reverse6 := if d.ipv6.isEmpty then [] else reverseIPv6 d.ipv6
  let byReverse := idx.recordsByReverse.appendAt (toLower reverse4)
    (d.reverseRecords reverse4 primary)
  let byReverse := byReverse.appendAt (toLower reverse6) (d.reverseRecords reverse6 primary)
  let bareKey := toLower d.dnsName
  let primaryKey := toLower primary
  { idx with
    recordsByName :=
      if bareKey = primaryKey then byName
      else byName.appendAt bareKey (byName.entriesAt primaryKey)
    recordsByReverse := byReverse }

/-- One turn of the loop of `rebuildIndexes`. -/
def Indexes.addDevice (zones : List Bytes) (idx : Indexes) (d : Device) : Indexes :=
  let nodeIDs := (d.tailscaleNodes.map fun node => normalizeNodeID node.nodeID).filter
    (!·.isEmpty)
  let idx := { idx with
    deviceByHostname := Dict.assign (d.hostKeys.map (·, d.id)) idx.deviceByHostname
    deviceByMAC := Dict.assign (d.macs.map fun mac => (toLower mac, d.id)) idx.deviceByMAC
    deviceByIPClaims := d.addresses.foldl (fun claims address =>
      claims.appendAt address [d.id]) idx.deviceByIPClaims
    deviceByIP := d.addresses.foldl (claimLowest d.id) idx.deviceByIP
    deviceByTailscaleNode := nodeIDs.foldl (claimLowest d.id) idx.deviceByTailscaleNode }
  if d.dnsName.isEmpty then idx else idx.addRecords zones d

def rebuildIndexes (zones : List Bytes) (visited : List Device) : Indexes :=
  visited.foldl (Indexes.addDevice zones) {}

/-! ## The store -/

/-- Each device is stored under its own id, and the indexes are those of the devices,
visited in some order. -/
structure DeviceStore where
  devices : Dict Bytes Device
  zones : List Bytes
  indexes : Indexes
  persistence : Option Persistence
  identified : ∀ {id : Bytes} {d : Device}, devices.lookup id = some d → d.id = id ∧ id ≠ []
  zoned : zones ≠ []
  indexed : ∃ visited : List Device,
    visited.Perm (devices.entries.map (·.2)) ∧ indexes = rebuildIndexes zones visited

abbrev DeviceOrder := RangeOrder Device

variable {d : Device}

theorem identified_empty {id : Bytes}
    (h : (∅ : Dict Bytes Device).lookup id = some d) : d.id = id ∧ id ≠ [] := by
  simp at h

def newDeviceStore (zone : Bytes) : DeviceStore where
  devices := ∅
  zones := [if zone.isEmpty then utf8 "local" else zone]
  indexes := {}
  persistence := none
  identified := identified_empty
  zoned := by simp
  indexed := ⟨[], .refl _, rfl⟩

namespace DeviceStore

def withDevices (ds : DeviceStore) (order : DeviceOrder) (devices : Dict Bytes Device)
    (identified : ∀ {id : Bytes} {d : Device}, devices.lookup id = some d → d.id = id ∧ id ≠ []) :
    DeviceStore where
  devices := devices
  zones := ds.zones
  indexes := rebuildIndexes ds.zones (order.visit (devices.entries.map (·.2)))
  persistence := ds.persistence
  identified := identified
  zoned := ds.zoned
  indexed := ⟨_, order.perm _, rfl⟩

def withPersistence (ds : DeviceStore) (p : Persistence) : DeviceStore :=
  { ds with persistence := some p }

def lookupName (ds : DeviceStore) (fqdn : Bytes) (qtype : Nat) : List DnsRecord :=
  (ds.indexes.recordsByName.entriesAt (toLower (trimSuffix fqdn (utf8 ".")))).filter
    (·.rtype.code = qtype)

def lookupReverse (ds : DeviceStore) (reverseName : Bytes) : List DnsRecord :=
  ds.indexes.recordsByReverse.entriesAt (toLower (trimSuffix reverseName (utf8 ".")))

def lookupAll (ds : DeviceStore) (fqdn : Bytes) : List DnsRecord :=
  ds.indexes.recordsByName.entriesAt (toLower (trimSuffix fqdn (utf8 ".")))

def deviceAt (ds : DeviceStore) (index : Dict Bytes Bytes) (key : Bytes) : Option Device :=
  match index.lookup key with
  | none => none
  | some id => if id.isEmpty then none else ds.devices.lookup id

def findDeviceByHostname (ds : DeviceStore) (hostname : Bytes) : Option Device :=
  ds.deviceAt ds.indexes.deviceByHostname (toLower hostname)

def findDeviceByIP (ds : DeviceStore) (ip : Bytes) : Option Device :=
  ds.deviceAt ds.indexes.deviceByIP (normalizeIP ip)

def records (ds : DeviceStore) : Dict Bytes DeviceAssignment :=
  match ds.persistence with
  | none => ∅
  | some p => p.records

end DeviceStore

theorem DeviceStore.nodup_ids (ds : DeviceStore) :
    ((ds.devices.entries.map (·.2)).map (·.id)).Nodup := by
  have hkeys : ds.devices.entries.map ((·.id) ∘ (·.2)) = ds.devices.keys := by
    apply List.map_congr_left
    rintro ⟨key, d⟩ hentry
    exact (ds.identified (AList.mem_lookup_iff.mpr hentry)).1
  rw [List.map_map, hkeys]
  exact ds.devices.keys_nodup

variable {devices : Dict Bytes Device}

section

variable (hdevices : ∀ {id : Bytes} {d : Device}, devices.lookup id = some d → d.id = id ∧ id ≠ [])

include hdevices

theorem identified_insert {key : Bytes} {changed : Device} (hid : changed.id = key)
    (hkey : key ≠ []) {id : Bytes} (hlookup : (devices.insert key changed).lookup id = some d) :
    d.id = id ∧ id ≠ [] := by
  rcases Dict.lookup_of_insert hlookup with ⟨rfl, rfl⟩ | ⟨-, hold⟩
  · exact ⟨hid, hkey⟩
  · exact hdevices hold

theorem identified_erase {key id : Bytes} (hlookup : (devices.erase key).lookup id = some d) :
    d.id = id ∧ id ≠ [] :=
  hdevices (Dict.lookup_of_erase hlookup)

end

/-! ## Storing a device -/

/-- The two readings of the clock while a device is stored: one for its times, and
a later one where an id is generated. -/
structure Reading where
  now : Time
  idTime : Time

def generateID (t : Time) : Bytes := utf8 "dev-" ++ utf8 (toString t)

def storedID (d : Device) (idTime : Time) : Bytes :=
  if d.id.isEmpty then generateID idTime else d.id

theorem storedID_ne_nil (d : Device) (idTime : Time) : storedID d idTime ≠ [] := by
  unfold storedID
  split
  · apply List.append_ne_nil_of_left_ne_nil
    decide
  · next hid => simpa using hid

def Device.mergedWith (d existing : Device) : Device :=
  let d := existing.sources.foldl Device.addSource d
  { d with
    manualName := if d.manualName.isEmpty then existing.manualName else d.manualName
    owner := if d.owner.isEmpty then existing.owner else d.owner
    category := if d.category.isEmpty then existing.category else d.category
    firstSeen := if d.firstSeen = zeroTime then existing.firstSeen else d.firstSeen
    hostnames := mergeStringSlice d.hostnames existing.hostnames
    mdnsNames := mergeStringSlice d.mdnsNames existing.mdnsNames
    macs := mergeStringSlice d.macs existing.macs
    tailscaleNodes := mergeTailscaleIdentities d.tailscaleNodes existing.tailscaleNodes
    ipv4 := if d.ipv4.isEmpty then existing.ipv4 else d.ipv4
    ipv6 := if d.ipv6.isEmpty then existing.ipv6 else d.ipv6
    persistent := d.persistent || existing.persistent }

def prepareUpsertDevice (ds : DeviceStore) (d : Device) (reading : Reading) : Device :=
  let d := { d with id := storedID d reading.idTime }
  let d := match ds.devices.lookup d.id with
    | some existing => d.mergedWith existing
    | none => { d with firstSeen := if d.firstSeen = zeroTime then reading.now else d.firstSeen }
  let d := { d with lastSeen := reading.now, lanLastSeen := reading.now, online := true }
  let d := { d with dnsName := if d.dnsName.isEmpty then d.deriveDNSName else d.dnsName }
  { d with displayName := d.getDisplayName }

theorem id_addSources (sources : List DiscoverySource) (d : Device) :
    (sources.foldl Device.addSource d).id = d.id := by
  induction sources generalizing d with
  | nil => rfl
  | cons source rest ih =>
    rw [List.foldl_cons, ih]
    unfold Device.addSource
    split <;> rfl

theorem id_prepareUpsert (ds : DeviceStore) (d : Device) (reading : Reading) :
    (prepareUpsertDevice ds d reading).id = storedID d reading.idTime := by
  unfold prepareUpsertDevice
  dsimp only
  split
  · exact id_addSources _ _
  · rfl

def commitUpsertDevice (ds : DeviceStore) (stored : Device) (hid : stored.id ≠ [])
    (order : DeviceOrder) : DeviceStore :=
  ds.withDevices order (ds.devices.insert stored.id stored)
    (identified_insert ds.identified rfl hid)

structure Circumstances where
  reading : Reading
  storage : StorageResult
  order : DeviceOrder

/-- `UpsertDeviceE`, and the end of `ObserveDevice`: prepare the device, make its
durable part durable, commit it. -/
def upsertDevice (ds : DeviceStore) (d : Device) (c : Circumstances) :
    Bytes × Option PersistError × DeviceStore :=
  let stored := prepareUpsertDevice ds d c.reading
  have hid : stored.id ≠ [] := by
    rw [id_prepareUpsert]
    exact storedID_ne_nil d c.reading.idTime
  match ds.persistence with
  | none => (stored.id, none, commitUpsertDevice ds stored hid c.order)
  | some p =>
    match p.persistIfChanged stored c.storage with
    | (p, none) => (stored.id, none, commitUpsertDevice (ds.withPersistence p) stored hid c.order)
    | (p, some err) => (stored.id, some err, ds.withPersistence p)

theorem upsertDevice_ok {ds : DeviceStore} {c : Circumstances}
    (h : (upsertDevice ds d c).2.1 = none) :
    (upsertDevice ds d c).2.2.devices = ds.devices.insert (storedID d c.reading.idTime)
      (prepareUpsertDevice ds d c.reading) := by
  rw [← id_prepareUpsert ds d c.reading]
  unfold upsertDevice at h ⊢
  cases hpersistence : ds.persistence with
  | none => rfl
  | some p =>
    rw [hpersistence] at h
    dsimp only at h ⊢
    cases hwrite : p.persistIfChanged (prepareUpsertDevice ds d c.reading) c.storage with
    | mk written err =>
      cases err with
      | none => rfl
      | some err =>
        rw [hwrite] at h
        cases h

/-! ## Changing and removing devices -/

def clearDeviceAddress (ds : DeviceStore) (id : Bytes) (clearIPv4 clearIPv6 : Bool)
    (order : DeviceOrder) : DeviceStore :=
  match hlookup : ds.devices.lookup id with
  | none => ds
  | some d =>
    let cleared := { d with
      ipv4 := if clearIPv4 then [] else d.ipv4
      ipv6 := if clearIPv6 then [] else d.ipv6 }
    ds.withDevices order (ds.devices.insert id cleared)
      (identified_insert ds.identified (show cleared.id = id from (ds.identified hlookup).1)
        (ds.identified hlookup).2)

def removeDeviceE (ds : DeviceStore) (id : Bytes) (storage : StorageResult)
    (order : DeviceOrder) : Option PersistError × DeviceStore :=
  if id ∉ ds.devices then (none, ds)
  else
    match ds.persistence with
    | none => (none, ds.withDevices order (ds.devices.erase id) (identified_erase ds.identified))
    | some p =>
      match p.remove id storage with
      | (p, none) => (none, (ds.withPersistence p).withDevices order (ds.devices.erase id)
          (identified_erase ds.identified))
      | (p, some err) => (some err, ds.withPersistence p)

def removeDevice (ds : DeviceStore) (id : Bytes) (storage : StorageResult)
    (order : DeviceOrder) : DeviceStore :=
  (removeDeviceE ds id storage order).2

def Device.sweptAt (d : Device) (cutoff : Time) : Device :=
  if d.lastSeen < cutoff then { d with online := false } else d

theorem id_sweptAt (cutoff : Time) (d : Device) : (d.sweptAt cutoff).id = d.id := by
  unfold Device.sweptAt
  split <;> rfl

theorem addDevice_sweptAt (zones : List Bytes) (idx : Indexes) (cutoff : Time) (d : Device) :
    idx.addDevice zones (d.sweptAt cutoff) = idx.addDevice zones d := by
  unfold Device.sweptAt
  split <;> rfl

theorem rebuildIndexes_swept (zones : List Bytes) (cutoff : Time) (visited : List Device) :
    rebuildIndexes zones (visited.map (·.sweptAt cutoff)) = rebuildIndexes zones visited := by
  unfold rebuildIndexes
  rw [List.foldl_map]
  congr 1
  funext idx d
  exact addDevice_sweptAt zones idx cutoff d

def markOffline (ds : DeviceStore) (threshold : Int) (now : Time) : DeviceStore :=
  let cutoff := now - threshold
  { ds with
    devices := ds.devices.mapValues (·.sweptAt cutoff)
    identified := by
      intro id d hlookup
      rw [Dict.lookup_mapValues] at hlookup
      obtain ⟨known, hknown, rfl⟩ := Option.map_eq_some_iff.mp hlookup
      rw [id_sweptAt]
      exact ds.identified hknown
    indexed := by
      obtain ⟨visited, hperm, hbuilt⟩ := ds.indexed
      refine ⟨visited.map (·.sweptAt cutoff), ?_, ?_⟩
      · have hentries : (ds.devices.mapValues (·.sweptAt cutoff)).entries.map (·.2) =
            (ds.devices.entries.map (·.2)).map (·.sweptAt cutoff) := by
          rw [List.map_map]
          exact List.map_map
        rw [hentries]
        exact hperm.map _
      · rw [rebuildIndexes_swept]
        exact hbuilt }

/-! ## Observations -/

inductive ObserveError where
  | noAddress
  | ambiguous
  | persist (err : PersistError)
  deriving DecidableEq

def normalizeObservation (d : Device) : Device :=
  { d with
    ipv4 := normalizeIP d.ipv4
    ipv6 := normalizeIP d.ipv6
    macs := mergeStringSlice ((d.macs.map normalizeMAC).filter (!·.isEmpty)) [] }

def candidatesByMAC (ds : DeviceStore) (d : Device) : List Bytes :=
  (ds.devices.entries.filter fun entry =>
    d.macs.any fun mac => entry.2.macs.any (normalizeMAC · = mac)).map (·.1)

def claimants (ds : DeviceStore) (d : Device) : List Bytes :=
  ([d.ipv4, d.ipv6].flatMap ds.indexes.deviceByIPClaims.entriesAt).dedup

def candidatesByAddress (ds : DeviceStore) (d : Device) : List Bytes :=
  ([d.ipv4, d.ipv6].flatMap fun address =>
    (ds.indexes.deviceByIPClaims.entriesAt address).filter fun id =>
      ((ds.devices.lookup id).map (·.hasLANIP address)).getD false).dedup

inductive Match where
  | fresh
  | known (id : Bytes)
  | overlay (id : Bytes)
  | ambiguous
  deriving DecidableEq

def matchObservation (ds : DeviceStore) (d : Device) : Match :=
  match candidatesByMAC ds d with
  | [id] => .known id
  | _ :: _ :: _ => .ambiguous
  | [] =>
    match claimants ds d, candidatesByAddress ds d with
    | _ :: _ :: _, _ => .ambiguous
    | [id], [] => .overlay id
    | _, [] => .fresh
    | _, [id] => .known id
    | _, _ :: _ :: _ => .ambiguous

/-- The observation under the id of the device that it belongs to; a link-local
address does not replace a wider one. -/
def observedAs (ds : DeviceStore) (d : Device) (id : Bytes) : Device :=
  let existing := (ds.devices.lookup id).getD {}
  let keepsIPv6 := !d.ipv6.isEmpty && !existing.ipv6.isEmpty && isLinkLocalIPv6 d.ipv6 &&
    !isLinkLocalIPv6 existing.ipv6
  { d with id, ipv6 := if keepsIPv6 then existing.ipv6 else d.ipv6 }

def observeDevice (ds : DeviceStore) (observation : Device) (c : Circumstances) :
    (Bytes × Bool × Option ObserveError) × DeviceStore :=
  let d := normalizeObservation observation
  if d.ipv4.isEmpty && d.ipv6.isEmpty && d.tailscaleNodes.isEmpty then
    (([], false, some .noAddress), ds)
  else
    match matchObservation ds d with
    | .ambiguous => (([], false, some .ambiguous), ds)
    | .overlay id => ((id, false, none), ds)
    | .fresh =>
      let (id, err, ds) := upsertDevice ds d c
      ((id, true, err.map .persist), ds)
    | .known id =>
      let (id, err, ds) := upsertDevice ds (observedAs ds d id) c
      ((id, false, err.map .persist), ds)

end GateSentry.Discovery
