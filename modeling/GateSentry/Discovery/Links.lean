import GateSentry.Discovery.Durable

/-!
# Labels and links

The operations of `store.go` by which a user labels a device and links it to the nodes of
a Tailscale network, and those that refresh the linked nodes.
-/

namespace GateSentry.Discovery

open Foundation ByteText Calendar

/-! ## Saving a device -/

def DeviceStore.persist (ds : DeviceStore) (d : Device) (storage : StorageResult) :
    DeviceStore × Option PersistError :=
  match ds.persistence with
  | none => (ds, none)
  | some p =>
    let (p, err) := p.persistIfChanged d storage
    (ds.withPersistence p, err)

def saveDevice (ds : DeviceStore) (d : Device) (hid : d.id ≠ []) (storage : StorageResult)
    (order : DeviceOrder) : Option PersistError × DeviceStore :=
  match ds.persist d storage with
  | (ds, none) => (none, commitUpsertDevice ds d hid order)
  | (ds, some err) => (some err, ds)

variable (ds : DeviceStore) (d : Device)

theorem upsertDevice_eq_saveDevice (c : Circumstances)
    (hid : (prepareUpsertDevice ds d c.reading).id ≠ []) :
    (upsertDevice ds d c).2 =
      saveDevice ds (prepareUpsertDevice ds d c.reading) hid c.storage c.order := by
  unfold upsertDevice saveDevice DeviceStore.persist
  cases ds.persistence with
  | none => rfl
  | some p =>
    dsimp only
    cases p.persistIfChanged (prepareUpsertDevice ds d c.reading) c.storage with
    | mk p err => cases err <;> rfl

/-! ## Labels -/

structure ManualFieldsUpdate where
  manualName : Bytes := []
  owner : Bytes := []
  category : Bytes := []
  setManualName : Bool := false
  setOwner : Bool := false
  setCategory : Bool := false

def Device.withManualFields (d : Device) (update : ManualFieldsUpdate) : Device :=
  let d := { d with
    manualName := if update.setManualName then update.manualName else d.manualName
    owner := if update.setOwner then update.owner else d.owner
    category := if update.setCategory then update.category else d.category
    persistent := true }
  { d with displayName := d.getDisplayName }

def updateManualFields (ds : DeviceStore) (id : Bytes) (update : ManualFieldsUpdate)
    (storage : StorageResult) (order : DeviceOrder) :
    (Option Device × Bool × Option PersistError) × DeviceStore :=
  match hlookup : ds.devices.lookup id with
  | none => ((none, false, none), ds)
  | some original =>
    let updated := original.withManualFields update
    have hid : updated.id ≠ [] := by
      change original.id ≠ []
      rw [(ds.identified hlookup).1]
      exact (ds.identified hlookup).2
    match saveDevice ds updated hid storage order with
    | (none, ds) => ((some updated, true, none), ds)
    | (some err, ds) => ((some original, true, some err), ds)

theorem DeviceStore.id_ne_nil {id : Bytes} {known d : Device}
    (h : ds.devices.lookup id = some known) (hid : d.id = known.id) : d.id ≠ [] := by
  rw [hid, (ds.identified h).1]
  exact (ds.identified h).2

/-! ## Links -/

inductive LinkError where
  | nodeRequired
  | notFound (deviceID : Bytes)
  | conflict
  | notLinked (nodeID : Bytes)
  | persist (err : PersistError)

inductive LinkResult where
  | linked (device : Device) (ds : DeviceStore)
  | refused (err : LinkError) (ds : DeviceStore)
  /-- In the middle of its deletions, with these devices in memory and the indexes as they were. -/
  | panicked (devices : Dict Bytes Device)

def LinkResult.store : LinkResult → Option DeviceStore
  | .linked _ ds => some ds
  | .refused _ ds => some ds
  | .panicked _ => none

def TailscaleIdentity.prepared (identity : TailscaleIdentity) (now : Time) :
    TailscaleIdentity :=
  { identity with
    nodeID := normalizeNodeID identity.nodeID
    addresses := mergeStringSlice ((identity.addresses.map normalizeIP).filter (!·.isEmpty)) []
    lastSeen := if identity.online && identity.lastSeen = zeroTime then now
      else identity.lastSeen }

def linkConflict (ds : DeviceStore) (deviceID : Bytes) (identity : TailscaleIdentity)
    (protectedIDs : List Bytes) : Bool :=
  let owner := (ds.indexes.deviceByTailscaleNode.lookup identity.nodeID).getD []
  (!owner.isEmpty && owner ≠ deviceID) || identity.addresses.any fun address =>
      (ds.indexes.deviceByIPClaims.entriesAt address).any fun owner =>
        owner ≠ deviceID && (ds.devices.lookup owner).any fun other =>
          isDurableDevice other || protectedIDs.contains owner

def Device.linkedTo (d : Device) (identity : TailscaleIdentity) : Device :=
  let d := { d with tailscaleNodes := mergeTailscaleIdentities [identity] d.tailscaleNodes }
  let d := d.addSource .tailscale
  let d := { d with source := d.source.or (some .tailscale) }
  { d with displayName := d.getDisplayName }

/-- The transient claimants of the addresses are deleted, one claim after the other.  One
that is deleted already is a nil pointer. -/
def dropAliases (deviceID : Bytes) (protectedIDs : List Bytes) :
    List Bytes → Dict Bytes Device → Except (Dict Bytes Device) (Dict Bytes Device)
  | [], devices => .ok devices
  | owner :: rest, devices =>
    if owner = deviceID then dropAliases deviceID protectedIDs rest devices
    else
      match devices.lookup owner with
      | none => .error devices
      | some other =>
        if !isDurableDevice other && !protectedIDs.contains owner then
          dropAliases deviceID protectedIDs rest (devices.erase owner)
        else dropAliases deviceID protectedIDs rest devices

theorem lookup_dropAliases {deviceID : Bytes} {protectedIDs owners : List Bytes}
    {devices dropped : Dict Bytes Device}
    (h : dropAliases deviceID protectedIDs owners devices = .ok dropped) {id : Bytes}
    {d : Device} (hlookup : dropped.lookup id = some d) : devices.lookup id = some d := by
  induction owners generalizing devices with
  | nil =>
    cases h
    exact hlookup
  | cons owner rest ih =>
    rw [dropAliases] at h
    split at h
    · exact ih h
    · split at h
      · cases h
      · split at h
        · exact Dict.lookup_of_erase (ih h)
        · exact ih h

theorem id_linkedTo (identity : TailscaleIdentity) : (d.linkedTo identity).id = d.id := by
  unfold Device.linkedTo Device.addSource
  dsimp only
  split <;> rfl

def linkTailscaleIdentityProtected (ds : DeviceStore) (deviceID : Bytes)
    (identity : TailscaleIdentity) (protectedIDs : List Bytes) (c : Circumstances) :
    LinkResult :=
  let identity := identity.prepared c.reading.now
  if identity.nodeID.isEmpty then .refused .nodeRequired ds
  else
    match hlookup : ds.devices.lookup deviceID with
    | none => .refused (.notFound deviceID) ds
    | some device =>
      if linkConflict ds deviceID identity protectedIDs then .refused .conflict ds
      else
        let updated := device.linkedTo identity
        let owners := identity.addresses.flatMap ds.indexes.deviceByIPClaims.entriesAt
        match (ds.persist updated c.storage).2 with
        | some err => .refused (.persist err) (ds.persist updated c.storage).1
        | none =>
          match hdropped : dropAliases deviceID protectedIDs owners
            (ds.devices.insert deviceID updated) with
          | .error devices => .panicked devices
          | .ok devices =>
            .linked updated ((ds.persist updated c.storage).1.withDevices c.order devices
              fun hfound => identified_insert ds.identified
                ((id_linkedTo device identity).trans (ds.identified hlookup).1)
                (ds.identified hlookup).2 (lookup_dropAliases hdropped hfound))

def Device.unlinkedFrom (d : Device) (nodeID : Bytes) : Device :=
  let d := { d with
    tailscaleNodes := d.tailscaleNodes.filter (normalizeNodeID ·.nodeID ≠ nodeID) }
  { d with displayName := d.getDisplayName }

def unlinkTailscaleIdentity (ds : DeviceStore) (deviceID nodeID : Bytes)
    (storage : StorageResult) (order : DeviceOrder) : Except LinkError Device × DeviceStore :=
  let nodeID := normalizeNodeID nodeID
  match hlookup : ds.devices.lookup deviceID with
  | none => (.error (.notFound deviceID), ds)
  | some device =>
    if !device.tailscaleNodes.any (normalizeNodeID ·.nodeID = nodeID) then
      (.error (.notLinked nodeID), ds)
    else
      let updated := device.unlinkedFrom nodeID
      have hid : updated.id ≠ [] := by
        change device.id ≠ []
        rw [(ds.identified hlookup).1]
        exact (ds.identified hlookup).2
      match saveDevice ds updated hid storage order with
      | (none, ds) => (.ok updated, ds)
      | (some err, ds) => (.error (.persist err), ds)

/-! ## Snapshots of the network -/

def peerByID (peers : List TailscaleIdentity) (nodeID : Bytes) : Option TailscaleIdentity :=
  (peers.reverse.find? fun peer =>
    normalizeNodeID peer.nodeID = nodeID && !nodeID.isEmpty).map fun peer =>
      { peer with nodeID }

def TailscaleIdentity.refreshed (linked : TailscaleIdentity) (peers : List TailscaleIdentity)
    (now : Time) : TailscaleIdentity :=
  match peerByID peers (normalizeNodeID linked.nodeID) with
  | none => { linked with addresses := [], online := false }
  | some peer =>
    { peer with
      nodeID := linked.nodeID
      name := if peer.name.isEmpty then linked.name else peer.name
      dnsName := if peer.dnsName.isEmpty then linked.dnsName else peer.dnsName
      addresses := if peer.online then peer.addresses else []
      lastSeen := if peer.online && peer.lastSeen = zeroTime then now else peer.lastSeen }

def latestSeen (nodes : List TailscaleIdentity) (since : Time) : Time :=
  nodes.foldl (fun seen node => max seen node.lastSeen) since

/-- The device with its linked nodes refreshed.  It goes offline with its nodes where
nothing newer has been seen of it. -/
def Device.refreshed (d : Device) (peers : List TailscaleIdentity) (now : Time) : Device :=
  if d.tailscaleNodes.isEmpty then d
  else
    let nodes := d.tailscaleNodes.map fun linked => linked.refreshed peers now
    let online := nodes.filter (·.online)
    let previousSeen := latestSeen d.tailscaleNodes zeroTime
    let d := { d with
      tailscaleNodes := nodes
      online :=
        if !online.isEmpty then true
        else if d.tailscaleNodes.any (·.online) && previousSeen ≠ zeroTime &&
            d.lastSeen ≤ previousSeen then false
        else d.online
      lastSeen := latestSeen online d.lastSeen }
    { d with displayName := d.getDisplayName }

theorem id_refreshed (peers : List TailscaleIdentity) (now : Time) :
    (d.refreshed peers now).id = d.id := by
  unfold Device.refreshed
  split <;> rfl

def DeviceStore.mapDevices (ds : DeviceStore) (order : DeviceOrder) (f : Device → Device)
    (hf : ∀ d, (f d).id = d.id) : DeviceStore :=
  ds.withDevices order (ds.devices.mapValues f) (by
    intro id d hlookup
    rw [Dict.lookup_mapValues] at hlookup
    obtain ⟨known, hknown, rfl⟩ := Option.map_eq_some_iff.mp hlookup
    rw [hf]
    exact ds.identified hknown)

def applyTailscaleSnapshot (ds : DeviceStore) (peers : List TailscaleIdentity)
    (c : Circumstances) : Option PersistError × DeviceStore :=
  let refresh := fun d : Device => d.refreshed peers c.reading.now
  let changed := ((ds.devices.entries.map (·.2)).filter fun d =>
    !d.tailscaleNodes.isEmpty).map refresh
  let apply := fun ds : DeviceStore =>
    ds.mapDevices c.order refresh fun d => id_refreshed d peers c.reading.now
  match ds.persistence with
  | none => (none, apply ds)
  | some p =>
    match p.persistDevicesIfChanged changed c.storage with
    | (p, none) => (none, apply (ds.withPersistence p))
    | (p, some err) => (some err, ds.withPersistence p)

def Device.withoutObservations (d : Device) : Device :=
  { d with tailscaleNodes := d.tailscaleNodes.map fun node =>
      { node with addresses := [], online := false } }

def clearTailscaleObservations (ds : DeviceStore) (order : DeviceOrder) : DeviceStore :=
  ds.mapDevices order Device.withoutObservations fun _ => rfl

end GateSentry.Discovery
