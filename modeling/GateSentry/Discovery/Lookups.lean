import GateSentry.Discovery.Recognition

/-!
# Lookups in the indexes

Which device an index names, whatever order the rebuild visits the devices in.
-/

namespace GateSentry.Discovery

open Foundation ByteText

/-! ## Host names and hardware addresses -/

theorem find?_of_unique {p : Device → Bool} {devices others : List Device}
    (hmem : ∀ d, d ∈ devices ↔ d ∈ others)
    (honly : ∀ d ∈ others, ∀ d' ∈ others, p d = true → p d' = true → d = d') :
    devices.find? p = others.find? p := by
  cases hother : others.find? p with
  | none =>
    rw [List.find?_eq_none] at hother ⊢
    exact fun d hd => hother d ((hmem d).mp hd)
  | some other =>
    have hothers := List.mem_of_find?_eq_some hother
    have hp := List.find?_some hother
    cases hfind : devices.find? p with
    | none => exact absurd hp (List.find?_eq_none.mp hfind other ((hmem other).mpr hothers))
    | some d =>
      rw [honly d ((hmem d).mp (List.mem_of_find?_eq_some hfind)) other hothers
        (List.find?_some hfind) hp]

def DeviceStore.rebuilt (ds : DeviceStore) (order : DeviceOrder) : DeviceStore :=
  ds.withDevices order ds.devices ds.identified

def DeviceOrder.visitLast (last : Device) : DeviceOrder where
  visit devices := if last ∈ devices then devices.erase last ++ [last] else devices
  perm devices := by
    split
    · next hlast => exact (List.perm_append_singleton _ _).trans (List.perm_cons_erase hlast).symm
    · exact .refl _

theorem AssignedIndex.sameForOrders_iff {index : Indexes → Dict Bytes Bytes}
    {keys : Device → List Bytes} (h : AssignedIndex index keys) (ds : DeviceStore) (key : Bytes) :
    (∀ order, (ds.rebuilt order).deviceAt (index (ds.rebuilt order).indexes) key =
        ds.deviceAt (index ds.indexes) key) ↔
      ∀ {id id' d d'}, ds.devices.lookup id = some d → ds.devices.lookup id' = some d' →
        key ∈ keys d → key ∈ keys d' → d = d' := by
  have hrebuilt (order : DeviceOrder) :
      (ds.rebuilt order).deviceAt (index (ds.rebuilt order).indexes) key =
        (order.visit (ds.devices.entries.map (·.2))).reverse.find? (key ∈ keys ·) :=
    h.deviceAt_of_order (ds.rebuilt order) (order.perm _) key rfl
  constructor
  · intro hsame id id' d d' hlookup hlookup' hkey hkey'
    -- the device that is visited last is found
    have hlast {id : Bytes} {d : Device} (hlookup : ds.devices.lookup id = some d)
        (hkey : key ∈ keys d) : ds.deviceAt (index ds.indexes) key = some d := by
      have hmem : d ∈ ds.devices.entries.map (·.2) := Dict.mem_values_iff.mpr ⟨id, hlookup⟩
      rw [← hsame (.visitLast d), hrebuilt]
      change (if d ∈ _ then _ else _ : List Device).reverse.find? _ = _
      rw [if_pos hmem, List.reverse_append]
      simp [hkey]
    exact Option.some.inj ((hlast hlookup hkey).symm.trans (hlast hlookup' hkey'))
  · intro honly order
    obtain ⟨visited, hperm, hbuilt⟩ := ds.indexed
    rw [hrebuilt, h.deviceAt_of_order ds hperm key hbuilt]
    apply find?_of_unique
    · intro d
      rw [List.mem_reverse, List.mem_reverse, (order.perm _).mem_iff, hperm.mem_iff]
    · intro d hd d' hd' hkey hkey'
      rw [List.mem_reverse, DeviceStore.mem_visited hperm] at hd hd'
      exact honly hd hd' (of_decide_eq_true hkey) (of_decide_eq_true hkey')

def DeviceStore.findDeviceByMAC (ds : DeviceStore) (mac : Bytes) : Option Device :=
  ds.deviceAt ds.indexes.deviceByMAC (toLower mac)

/-- A device is found the same in every order exactly if no other has the name, or the hardware
address. -/
theorem found_in_every_order_iff (ds : DeviceStore) (hostname mac : Bytes) :
    ((∀ order, (ds.rebuilt order).findDeviceByHostname hostname =
        ds.findDeviceByHostname hostname) ↔
      ∀ {id id' d d'}, ds.devices.lookup id = some d → ds.devices.lookup id' = some d' →
        toLower hostname ∈ d.hostKeys → toLower hostname ∈ d'.hostKeys → d = d') ∧
    ((∀ order, (ds.rebuilt order).findDeviceByMAC mac = ds.findDeviceByMAC mac) ↔
      ∀ {id id' d d'}, ds.devices.lookup id = some d → ds.devices.lookup id' = some d' →
        toLower mac ∈ d.macKeys → toLower mac ∈ d'.macKeys → d = d') :=
  ⟨assignedIndex_hostname.sameForOrders_iff ds (toLower hostname),
    assignedIndex_mac.sameForOrders_iff ds (toLower mac)⟩

def twoPrinters : DeviceStore :=
  let seen := fun (ds : DeviceStore) (id : Bytes) => (upsertDevice ds
    { id, hostnames := [utf8 "printer"] } ⟨⟨0, 0⟩, .written, .asListed⟩).2.2
  seen (seen (newDeviceStore []) (utf8 "a")) (utf8 "b")

theorem printer_found_by_order :
    ((twoPrinters.rebuilt .asListed).findDeviceByHostname (utf8 "printer")).map (·.id) ≠
      ((twoPrinters.rebuilt ⟨List.reverse, List.reverse_perm⟩).findDeviceByHostname
        (utf8 "printer")).map (·.id) := by
  decide +kernel

/-! ## Devices that the indexes mention -/

def Indexes.Mentions (idx : Indexes) (id : Bytes) : Prop :=
  (∃ index ∈ [idx.deviceByHostname, idx.deviceByMAC, idx.deviceByIP, idx.deviceByTailscaleNode],
    ∃ key, index.lookup key = some id) ∨
  (∃ key, id ∈ idx.deviceByIPClaims.entriesAt key) ∨
  ∃ index ∈ [idx.recordsByName, idx.recordsByReverse],
    ∃ key, ∃ record ∈ index.entriesAt key, record.deviceID = id

variable {id : Bytes}

theorem lookup_foldl_claimLowest {keys : List Bytes} {dict : Dict Bytes Bytes} {k v : Bytes}
    (h : (keys.foldl (claimLowest id) dict).lookup k = some v) :
    dict.lookup k = some v ∨ v = id := by
  induction keys generalizing dict with
  | nil => exact .inl h
  | cons key rest ih =>
    rcases ih h with hclaimed | hid
    · rw [lookup_claimLowest_eq, lowestOf] at hclaimed
      split_ifs at hclaimed with hkey
      · exact .inr (Option.some.inj hclaimed).symm
      · exact .inl (hkey ▸ hclaimed)
      · exact .inl hclaimed
    · exact .inr hid

variable {zones : List Bytes} {record : DnsRecord}

theorem mem_foldl_append {index : Dict Bytes (List DnsRecord)} {key : Bytes → Bytes}
    {records : Bytes → List DnsRecord} {k : Bytes} :
    record ∈ (zones.foldl (fun index zone =>
        index.appendAt (key zone) (records zone)) index).entriesAt k ↔
      record ∈ index.entriesAt k ∨ ∃ zone ∈ zones, k = key zone ∧ record ∈ records zone := by
  induction zones generalizing index with
  | nil => simp
  | cons zone rest ih =>
    rw [List.foldl_cons, ih, Dict.mem_entriesAt_appendAt, or_assoc]
    simp

variable {d : Device}

theorem deviceID_forwardRecords {name : Bytes} (h : record ∈ d.forwardRecords name) :
    record.deviceID = d.id := by
  unfold Device.forwardRecords at h
  rcases List.mem_append.mp h with hipv4 | hipv6
  · dsimp only at hipv4
    split at hipv4
    · cases hipv4
    · rw [List.mem_singleton.mp hipv4]
  · dsimp only at hipv6
    split at hipv6
    · cases hipv6
    · rw [List.mem_singleton.mp hipv6]

theorem deviceID_reverseRecords {name target : Bytes} (h : record ∈ d.reverseRecords name target) :
    record.deviceID = d.id := by
  unfold Device.reverseRecords at h
  dsimp only at h
  split at h
  · cases h
  · rw [List.mem_singleton.mp h]

variable {idx : Indexes}

def Indexes.Serves (idx : Indexes) (record : DnsRecord) : Prop :=
  (∃ key, record ∈ idx.recordsByName.entriesAt key) ∨
    ∃ key, record ∈ idx.recordsByReverse.entriesAt key

theorem deviceID_addRecords (h : (idx.addRecords zones d).Serves record) :
    record.deviceID = d.id ∨ idx.Serves record := by
  unfold Indexes.addRecords at h
  have hforward {k : Bytes} (hrecord : record ∈ (zones.foldl (fun byName zone =>
      byName.appendAt (toLower (d.dnsName ++ utf8 "." ++ zone))
        (d.forwardRecords (d.dnsName ++ utf8 "." ++ zone))) idx.recordsByName).entriesAt k) :
      record.deviceID = d.id ∨ idx.Serves record := by
    rcases mem_foldl_append.mp hrecord with hold | ⟨zone, -, -, hnew⟩
    · exact .inr (.inl ⟨k, hold⟩)
    · exact .inl (deviceID_forwardRecords hnew)
  rcases h with ⟨key, hname⟩ | ⟨key, hreverse⟩
  · dsimp only at hname
    split at hname
    · exact hforward hname
    · rcases (Dict.mem_entriesAt_appendAt _ _ _ _ _).mp hname with hfull | ⟨-, hbare⟩
      · exact hforward hfull
      · exact hforward hbare
  · rcases (Dict.mem_entriesAt_appendAt _ _ _ _ _).mp hreverse with hrest | ⟨-, hipv6⟩
    · rcases (Dict.mem_entriesAt_appendAt _ _ _ _ _).mp hrest with hold | ⟨-, hipv4⟩
      · exact .inr (.inr ⟨key, hold⟩)
      · exact .inl (deviceID_reverseRecords hipv4)
    · exact .inl (deviceID_reverseRecords hipv6)

theorem records_addDevice (h : (idx.addDevice zones d).Serves record) :
    record.deviceID = d.id ∨ idx.Serves record := by
  unfold Indexes.addDevice at h
  split at h
  · exact .inr h
  · exact deviceID_addRecords h

theorem deviceByTailscaleNode_addDevice (zones : List Bytes) (idx : Indexes) (d : Device) :
    (idx.addDevice zones d).deviceByTailscaleNode =
      ((d.tailscaleNodes.map fun node => normalizeNodeID node.nodeID).filter
        (!·.isEmpty)).foldl (claimLowest d.id) idx.deviceByTailscaleNode := by
  unfold Indexes.addDevice
  split <;> rfl

theorem Indexes.Mentions.of_addDevice (h : (idx.addDevice zones d).Mentions id) :
    idx.Mentions id ∨ id = d.id := by
  have hassigned {keys : List Bytes} {index : Dict Bytes Bytes} {key : Bytes}
      (hlookup : (Dict.assign (keys.map (·, d.id)) index).lookup key = some id) :
      index.lookup key = some id ∨ id = d.id := by
    rw [lookup_assign_keys] at hlookup
    split at hlookup
    · exact .inr (Option.some.inj hlookup).symm
    · exact .inl hlookup
  rcases h with ⟨index, hindex, key, hlookup⟩ | ⟨key, hclaim⟩ |
    ⟨index, hindex, key, record, hmem, rfl⟩
  · simp only [List.mem_cons, List.not_mem_nil, or_false] at hindex
    rcases hindex with rfl | rfl | rfl | rfl
    · rw [deviceByHostname_addDevice] at hlookup
      exact (hassigned hlookup).imp_left fun hold => .inl ⟨_, by simp, key, hold⟩
    · rw [assignedIndex_mac.addDevice] at hlookup
      exact (hassigned hlookup).imp_left fun hold => .inl ⟨_, by simp, key, hold⟩
    · rw [(owners_addDevice ..).2] at hlookup
      exact (lookup_foldl_claimLowest hlookup).imp_left fun hold => .inl ⟨_, by simp, key, hold⟩
    · rw [deviceByTailscaleNode_addDevice] at hlookup
      exact (lookup_foldl_claimLowest hlookup).imp_left fun hold => .inl ⟨_, by simp, key, hold⟩
  · rw [(owners_addDevice ..).1, entriesAt_foldl_appendAt (nodup_addresses d),
      List.mem_append] at hclaim
    refine hclaim.imp (fun hold => .inr (.inl ⟨key, hold⟩)) fun hnew => ?_
    split at hnew
    · exact List.mem_singleton.mp hnew
    · cases hnew
  · have hrecord : (idx.addDevice zones d).Serves record := by
      simp only [List.mem_cons, List.not_mem_nil, or_false] at hindex
      rcases hindex with rfl | rfl
      · exact .inl ⟨key, hmem⟩
      · exact .inr ⟨key, hmem⟩
    rcases records_addDevice hrecord with hid | ⟨key, hname⟩ | ⟨key, hreverse⟩
    · exact .inr hid
    · exact .inl (.inr (.inr ⟨_, by simp, key, record, hname, rfl⟩))
    · exact .inl (.inr (.inr ⟨_, List.mem_cons_of_mem _ List.mem_cons_self, key, record,
        hreverse, rfl⟩))

theorem Indexes.Mentions.of_foldl {visited : List Device}
    (h : (visited.foldl (Indexes.addDevice zones) idx).Mentions id) :
    idx.Mentions id ∨ ∃ d ∈ visited, id = d.id := by
  induction visited generalizing idx with
  | nil => exact .inl h
  | cons d rest ih =>
    rcases ih h with hadded | ⟨other, hother, hid⟩
    · exact hadded.of_addDevice.imp_right fun hid => ⟨d, List.mem_cons_self, hid⟩
    · exact .inr ⟨other, List.mem_cons_of_mem d hother, hid⟩

def Device.HasAddress (d : Device) (address : Bytes) : Prop :=
  address ≠ [] ∧ (normalizeIP d.ipv4 = address ∨ normalizeIP d.ipv6 = address ∨
    ∃ value, (∃ node ∈ d.tailscaleNodes, value ∈ node.addresses) ∧ normalizeIP value = address)

structure ExactClaims (devices : Dict Bytes Device) (indexes : Indexes) : Prop where
  claims : ∀ address id, id ∈ indexes.deviceByIPClaims.entriesAt address ↔
    ∃ d, devices.lookup id = some d ∧ d.HasAddress address
  once : ∀ address, (indexes.deviceByIPClaims.entriesAt address).Nodup
  owner : ∀ address, OwnedByLeast (indexes.deviceByIPClaims.entriesAt address)
    (indexes.deviceByIP.lookup address)
  known : ∀ id, indexes.Mentions id → id ∈ devices

theorem exactClaims (ds : DeviceStore) : ExactClaims ds.devices ds.indexes := by
  refine ⟨fun address id => ?_, ds.nodup_claims, ds.owner_spec, fun id hmentions => ?_⟩
  · rw [ds.mem_claims_iff]
    refine exists_congr fun d => and_congr_right fun _ => ?_
    rw [mem_addresses_iff, Device.HasAddress]
    simp
  · obtain ⟨visited, hperm, hbuilt⟩ := ds.indexed
    rw [hbuilt, rebuildIndexes] at hmentions
    rcases hmentions.of_foldl with hnone | ⟨d, hd, rfl⟩
    · simp [Indexes.Mentions, Dict.entriesAt] at hnone
    · exact Dict.mem_iff_lookup.mpr ⟨d, (DeviceStore.mem_visited hperm d).mp hd⟩

end GateSentry.Discovery
