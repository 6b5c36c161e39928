import GateSentry.Discovery.Store
import GateSentry.Foundation.AddressText
import Mathlib.Data.List.Dedup
import Mathlib.Data.List.Induction

/-!
# Recognising a device

What the indexes say about the devices of the store, and from that when an
observation, a name or an address belongs to none of them.
-/

namespace GateSentry.Discovery

open Foundation ByteText

/-! ## Canonical texts -/

variable (value : Bytes)

theorem normalizeIP_cases :
    normalizeIP value = [] ∨ ∃ ip, ip.length = 16 ∧ normalizeIP value = Net.formatIP ip ∧
      (Net.isUnspecified ip || Net.isLoopback ip) = false := by
  unfold normalizeIP
  split
  · exact .inl rfl
  · next ip hip =>
    split
    · exact .inl rfl
    · next hkept => exact .inr ⟨ip, Net.length_parseIP hip, rfl, by simpa using hkept⟩

theorem normalizeIP_normalizeIP : normalizeIP (normalizeIP value) = normalizeIP value := by
  rcases normalizeIP_cases value with hnone | ⟨ip, hlength, htext, hkept⟩
  · rw [hnone]
    decide
  · rw [htext]
    unfold normalizeIP
    rw [Net.trimSpace_of_isAddressByte fun b hb => Net.isAddressByte_formatIP hb,
      Net.parseIP_formatIP hlength]
    simp [hkept]

theorem toLower_normalizeIP : toLower (normalizeIP value) = normalizeIP value := by
  rcases normalizeIP_cases value with hnone | ⟨ip, -, htext, -⟩
  · rw [hnone]
    rfl
  · rw [htext]
    exact Net.toLower_of_isAddressByte fun b hb => Net.isAddressByte_formatIP hb

theorem toLower_normalizeMAC : toLower (normalizeMAC value) = normalizeMAC value := by
  unfold normalizeMAC
  split
  · rfl
  · split
    · rfl
    · exact Net.toLower_of_isAddressByte fun b hb => Net.isAddressByte_formatMAC hb

/-- One turn of the loop of `mergeStringSlice`. -/
def mergeString (merged : List Bytes × List Bytes) (s : Bytes) : List Bytes × List Bytes :=
  if merged.2.contains (toLower s) then merged else (merged.1 ++ [s], toLower s :: merged.2)

theorem mergeStringSlice_eq (a b : List Bytes) :
    mergeStringSlice a b = ((a ++ b).foldl mergeString ([], [])).1 := rfl

variable {items : List Bytes}

section

variable (hlower : ∀ s ∈ items, toLower s = s)

include hlower

theorem foldl_mergeString {merged : List Bytes × List Bytes}
    (hseen : ∀ s, s ∈ merged.2 ↔ s ∈ merged.1) (hnodup : merged.1.Nodup) :
    (∀ s, s ∈ (items.foldl mergeString merged).1 ↔ s ∈ merged.1 ∨ s ∈ items) ∧
      (items.foldl mergeString merged).1.Nodup := by
  induction items generalizing merged with
  | nil => simpa using hnodup
  | cons item rest ih =>
    have hitem : toLower item = item := hlower item List.mem_cons_self
    have hrest : ∀ s ∈ rest, toLower s = s := fun s hs => hlower s (List.mem_cons_of_mem _ hs)
    rw [List.foldl_cons]
    by_cases hknown : item ∈ merged.1
    · have hstep : mergeString merged item = merged := by
        rw [mergeString, hitem, if_pos (by simpa using (hseen item).mpr hknown)]
      rw [hstep]
      obtain ⟨hmem, hkept⟩ := ih hrest hseen hnodup
      refine ⟨fun s => ?_, hkept⟩
      rw [hmem, List.mem_cons]
      constructor
      · rintro (hs | hs)
        · exact .inl hs
        · exact .inr (.inr hs)
      · rintro (hs | rfl | hs)
        · exact .inl hs
        · exact .inl hknown
        · exact .inr hs
    · have hstep : mergeString merged item = (merged.1 ++ [item], item :: merged.2) := by
        rw [mergeString, hitem, if_neg (by simpa using mt (hseen item).mp hknown)]
      rw [hstep]
      obtain ⟨hmem, hkept⟩ := @ih hrest (merged.1 ++ [item], item :: merged.2)
        (fun s => by simp [hseen, or_comm]) (by
          rw [List.nodup_append]
          refine ⟨hnodup, by simp, fun s hs t ht => ?_⟩
          rw [List.mem_singleton.mp ht]
          rintro rfl
          exact hknown hs)
      refine ⟨fun s => ?_, hkept⟩
      rw [hmem, List.mem_append, List.mem_singleton, List.mem_cons, or_assoc]

theorem mem_mergeStringSlice (s : Bytes) : s ∈ mergeStringSlice items [] ↔ s ∈ items := by
  rw [mergeStringSlice_eq, List.append_nil, (foldl_mergeString hlower (by simp) (by simp)).1]
  simp

theorem nodup_mergeStringSlice : (mergeStringSlice items []).Nodup := by
  rw [mergeStringSlice_eq, List.append_nil]
  exact (foldl_mergeString hlower (by simp) (by simp)).2

end

/-! ## Host names and hardware addresses -/

variable {visited : List Device}

theorem DeviceStore.mem_visited {ds : DeviceStore}
    (hvisited : visited.Perm (ds.devices.entries.map (·.2))) (d : Device) :
    d ∈ visited ↔ ds.devices.lookup d.id = some d := by
  rw [hvisited.mem_iff, Dict.mem_values_iff]
  constructor
  · rintro ⟨id, hlookup⟩
    rwa [(ds.identified hlookup).1]
  · exact fun hlookup => ⟨d.id, hlookup⟩

variable (zones : List Bytes)

theorem deviceByHostname_addDevice (idx : Indexes) (d : Device) :
    (idx.addDevice zones d).deviceByHostname =
      Dict.assign (d.hostKeys.map (·, d.id)) idx.deviceByHostname := by
  unfold Indexes.addDevice
  split <;> rfl

/-- An index in which the device that is visited last takes the keys it shares. -/
structure AssignedIndex (index : Indexes → Dict Bytes Bytes) (keys : Device → List Bytes) :
    Prop where
  init : index {} = ∅
  addDevice : ∀ zones idx d, index (Indexes.addDevice zones idx d) =
    Dict.assign ((keys d).map (·, d.id)) (index idx)

def Device.macKeys (d : Device) : List Bytes := d.macs.map toLower

theorem assignedIndex_hostname : AssignedIndex (·.deviceByHostname) Device.hostKeys :=
  ⟨rfl, deviceByHostname_addDevice⟩

theorem assignedIndex_mac : AssignedIndex (·.deviceByMAC) Device.macKeys := by
  refine ⟨rfl, fun zones idx d => ?_⟩
  unfold Indexes.addDevice Device.macKeys
  rw [List.map_map]
  split <;> rfl

theorem lookup_assign_keys (keys : List Bytes) (id : Bytes) (dict : Dict Bytes Bytes)
    (k : Bytes) : (Dict.assign (keys.map (·, id)) dict).lookup k =
      if k ∈ keys then some id else dict.lookup k := by
  induction keys generalizing dict with
  | nil => rfl
  | cons key rest ih =>
    change (Dict.assign (rest.map (·, id)) (dict.insert key id)).lookup k = _
    rw [ih]
    by_cases hkey : k = key
    · subst hkey
      simp
    · simp [hkey, AList.lookup_insert_ne]

section Assigned

variable {index : Indexes → Dict Bytes Bytes} {keys : Device → List Bytes}

theorem AssignedIndex.lookup_foldl (h : AssignedIndex index keys) (zones : List Bytes)
    (visited : List Device) (idx : Indexes) (k : Bytes) :
    (index (visited.foldl (Indexes.addDevice zones) idx)).lookup k =
      ((visited.reverse.find? (k ∈ keys ·)).map (·.id)).or ((index idx).lookup k) := by
  induction visited generalizing idx with
  | nil => rfl
  | cons d rest ih =>
    rw [List.foldl_cons, ih, h.addDevice, lookup_assign_keys, List.reverse_cons,
      List.find?_append]
    cases rest.reverse.find? (k ∈ keys ·) with
    | some other => rfl
    | none => by_cases hkey : k ∈ keys d <;> simp [hkey]

variable (ds : DeviceStore)

theorem AssignedIndex.deviceAt_of_order (h : AssignedIndex index keys)
    (hperm : visited.Perm (ds.devices.entries.map (·.2))) (key : Bytes)
    (hbuilt : ds.indexes = rebuildIndexes ds.zones visited) :
    ds.deviceAt (index ds.indexes) key = visited.reverse.find? (key ∈ keys ·) := by
  rw [DeviceStore.deviceAt, hbuilt, rebuildIndexes, h.lookup_foldl, h.init]
  cases hfind : visited.reverse.find? (key ∈ keys ·) with
  | none => rfl
  | some d =>
    have hd : d ∈ visited := List.mem_reverse.mp (List.mem_of_find?_eq_some hfind)
    have hlookup := (DeviceStore.mem_visited hperm d).mp hd
    have hid := (ds.identified hlookup).2
    simp [hid, hlookup]

end Assigned

variable (ds : DeviceStore)

theorem DeviceStore.findDeviceByHostname_eq_none_iff (hostname : Bytes) :
    ds.findDeviceByHostname hostname = none ↔
      ∀ {id d}, ds.devices.lookup id = some d → toLower hostname ∉ d.hostKeys := by
  obtain ⟨visited, hperm, hbuilt⟩ := ds.indexed
  rw [findDeviceByHostname, assignedIndex_hostname.deviceAt_of_order ds hperm _ hbuilt,
    List.find?_eq_none]
  simp only [List.mem_reverse, mem_visited hperm, decide_eq_true_eq]
  constructor
  · intro hnone id d hlookup
    exact hnone d ((ds.identified hlookup).1.symm ▸ hlookup)
  · exact fun hnone d hlookup => hnone hlookup

/-! ## Claims of an address -/

variable (d : Device) (address : Bytes)

theorem mem_addresses_iff : address ∈ d.addresses ↔ address ≠ [] ∧
      ∃ value ∈ [d.ipv4, d.ipv6] ++ d.tailscaleNodes.flatMap (·.addresses),
        normalizeIP value = address := by
  unfold Device.addresses
  rw [mem_mergeStringSlice, List.mem_filter, List.mem_map, and_comm]
  · simp
  · intro s hs
    obtain ⟨value, -, rfl⟩ := List.mem_map.mp (List.mem_filter.mp hs).1
    exact toLower_normalizeIP value

theorem nodup_addresses : d.addresses.Nodup := by
  apply nodup_mergeStringSlice
  intro s hs
  obtain ⟨value, -, rfl⟩ := List.mem_map.mp (List.mem_filter.mp hs).1
  exact toLower_normalizeIP value

variable {keys : List Bytes}

theorem entriesAt_foldl_appendAt (hnodup : keys.Nodup) (id : Bytes)
    (claims : Dict Bytes (List Bytes)) (k : Bytes) :
    (keys.foldl (fun claims key => claims.appendAt key [id]) claims).entriesAt k =
      claims.entriesAt k ++ if k ∈ keys then [id] else [] := by
  induction keys generalizing claims with
  | nil => simp
  | cons key rest ih =>
    rw [List.nodup_cons] at hnodup
    rw [List.foldl_cons, ih hnodup.2, Dict.entriesAt_appendAt]
    by_cases hkey : k = key
    · subst hkey
      simp [hnodup.1]
    · simp [hkey]

theorem owners_addDevice (idx : Indexes) (d : Device) :
    (idx.addDevice zones d).deviceByIPClaims =
        d.addresses.foldl (fun claims key => claims.appendAt key [d.id]) idx.deviceByIPClaims ∧
      (idx.addDevice zones d).deviceByIP =
        d.addresses.foldl (claimLowest d.id) idx.deviceByIP := by
  unfold Indexes.addDevice
  split <;> exact ⟨rfl, rfl⟩

def lowestOf (current : Option Bytes) (id : Bytes) : Option Bytes :=
  if (current.getD []).isEmpty || id < current.getD [] then some id else current

theorem lookup_claimLowest_eq (id : Bytes) (dict : Dict Bytes Bytes) (key k : Bytes) :
    (claimLowest id dict key).lookup k =
      if k = key then lowestOf (dict.lookup key) id else dict.lookup k := by
  unfold claimLowest lowestOf
  by_cases hkey : k = key
  · subst hkey
    dsimp only
    split <;> simp
  · dsimp only
    split <;> simp [hkey, AList.lookup_insert_ne]

theorem lookup_foldl_claimLowest_eq (hnodup : keys.Nodup) (id : Bytes) (dict : Dict Bytes Bytes)
    (k : Bytes) : (keys.foldl (claimLowest id) dict).lookup k =
      if k ∈ keys then lowestOf (dict.lookup k) id else dict.lookup k := by
  induction keys generalizing dict with
  | nil => rfl
  | cons key rest ih =>
    rw [List.nodup_cons] at hnodup
    rw [List.foldl_cons, ih hnodup.2, lookup_claimLowest_eq]
    by_cases hkey : k = key
    · subst hkey
      simp [hnodup.1]
    · simp [hkey]

theorem index_foldl (visited : List Device) (idx : Indexes) (address : Bytes) :
    let built := visited.foldl (Indexes.addDevice zones) idx
    let ids := (visited.filter (address ∈ ·.addresses)).map (·.id)
    built.deviceByIPClaims.entriesAt address = idx.deviceByIPClaims.entriesAt address ++ ids ∧
      built.deviceByIP.lookup address = ids.foldl lowestOf (idx.deviceByIP.lookup address) := by
  induction visited generalizing idx with
  | nil => simp
  | cons d rest ih =>
    obtain ⟨hclaims, howner⟩ := owners_addDevice zones idx d
    dsimp only
    rw [List.foldl_cons, (ih _).1, (ih _).2, hclaims, howner, List.filter_cons,
      entriesAt_foldl_appendAt (nodup_addresses d), lookup_foldl_claimLowest_eq (nodup_addresses d)]
    by_cases haddress : address ∈ d.addresses <;> simp [haddress]

def OwnedByLeast (ids : List Bytes) (owner : Option Bytes) : Prop :=
  (owner = none ∧ ids = []) ∨ ∃ least ∈ ids, owner = some least ∧ ∀ id ∈ ids, ¬ id < least

theorem ownedByLeast_foldl {ids : List Bytes} (h : [] ∉ ids) :
    OwnedByLeast ids (ids.foldl lowestOf none) := by
  induction ids using List.reverseRecOn with
  | nil => exact .inl ⟨rfl, rfl⟩
  | append_singleton ids id ih =>
    rw [List.mem_append, not_or] at h
    rw [List.foldl_append, List.foldl_cons, List.foldl_nil]
    rcases ih h.1 with ⟨hnone, rfl⟩ | ⟨least, hleast, howner, hall⟩
    · refine .inr ⟨id, by simp, by simp [lowestOf], ?_⟩
      simp
    · have hne : least ≠ [] := by
        rintro rfl
        exact h.1 hleast
      have hfull : least.isEmpty = false := List.isEmpty_eq_false_iff.mpr hne
      rw [howner, lowestOf, Option.getD_some, hfull, Bool.false_or]
      by_cases hlower : id < least
      · refine .inr ⟨id, by simp, by simp [hlower], fun other hother hless => ?_⟩
        rcases List.mem_append.mp hother with hold | hnew
        · exact hall other hold (List.lt_trans hless hlower)
        · rw [List.mem_singleton.mp hnew] at hless
          exact List.lt_irrefl id hless
      · refine .inr ⟨least, by simp [hleast], by simp [hlower], fun other hother => ?_⟩
        rcases List.mem_append.mp hother with hold | hnew
        · exact hall other hold
        · rwa [List.mem_singleton.mp hnew]

namespace DeviceStore

theorem claims_eq : ∃ visited : List Device, visited.Perm (ds.devices.entries.map (·.2)) ∧
    ∀ address, ds.indexes.deviceByIPClaims.entriesAt address =
      (visited.filter (address ∈ ·.addresses)).map (·.id) ∧
      ds.indexes.deviceByIP.lookup address =
        ((visited.filter (address ∈ ·.addresses)).map (·.id)).foldl lowestOf none := by
  obtain ⟨visited, hperm, hbuilt⟩ := ds.indexed
  refine ⟨visited, hperm, fun address => ?_⟩
  rw [hbuilt, rebuildIndexes]
  exact index_foldl ..

theorem mem_claims_iff (address id : Bytes) : id ∈ ds.indexes.deviceByIPClaims.entriesAt address ↔
      ∃ d, ds.devices.lookup id = some d ∧ address ∈ d.addresses := by
  obtain ⟨visited, hperm, hclaims⟩ := ds.claims_eq
  rw [(hclaims address).1, List.mem_map]
  simp only [List.mem_filter, mem_visited hperm, decide_eq_true_eq]
  constructor
  · rintro ⟨d, ⟨hlookup, haddress⟩, rfl⟩
    exact ⟨d, hlookup, haddress⟩
  · rintro ⟨d, hlookup, haddress⟩
    obtain ⟨rfl, -⟩ := ds.identified hlookup
    exact ⟨d, ⟨hlookup, haddress⟩, rfl⟩

theorem nodup_claims : (ds.indexes.deviceByIPClaims.entriesAt address).Nodup := by
  obtain ⟨visited, hperm, hclaims⟩ := ds.claims_eq
  have hids : (visited.map (·.id)).Nodup := by
    rw [(hperm.map (·.id)).nodup_iff]
    exact ds.nodup_ids
  rw [(hclaims address).1]
  exact (List.filter_sublist.map Device.id).nodup hids

theorem owner_spec :
    OwnedByLeast (ds.indexes.deviceByIPClaims.entriesAt address)
      (ds.indexes.deviceByIP.lookup address) := by
  obtain ⟨visited, -, hclaims⟩ := ds.claims_eq
  rw [(hclaims address).2, ← (hclaims address).1]
  apply ownedByLeast_foldl
  rw [ds.mem_claims_iff]
  rintro ⟨d, hlookup, -⟩
  exact (ds.identified hlookup).2 rfl

theorem findDeviceByIP_eq_none_iff (ip : Bytes) : ds.findDeviceByIP ip = none ↔
      ∀ {id d}, ds.devices.lookup id = some d → normalizeIP ip ∉ d.addresses := by
  unfold findDeviceByIP deviceAt
  rcases ds.owner_spec (normalizeIP ip) with ⟨hnone, hclaims⟩ | ⟨least, hleast, howner, -⟩
  · rw [hnone, eq_self, true_iff]
    intro id d hlookup haddress
    have hmem := (ds.mem_claims_iff _ id).mpr ⟨d, hlookup, haddress⟩
    rw [hclaims] at hmem
    cases hmem
  · obtain ⟨d, hlookup, haddress⟩ := (ds.mem_claims_iff _ least).mp hleast
    have hid := (ds.identified hlookup).2
    simp only [howner, List.isEmpty_iff, hid, if_false, hlookup, reduceCtorEq, false_iff]
    exact fun hnone => hnone hlookup haddress

end DeviceStore

/-! ## Observations -/

def Device.SharesMAC (known observed : Device) : Prop :=
  ∃ mac ∈ observed.macs, ∃ other ∈ known.macs, normalizeMAC other = mac

def Device.SharesAddress (known observed : Device) : Prop :=
  observed.ipv4 ∈ known.addresses ∨ observed.ipv6 ∈ known.addresses

theorem candidatesByMAC_eq_nil_iff : candidatesByMAC ds d = [] ↔
      ∀ {id known}, ds.devices.lookup id = some known → ¬ known.SharesMAC d := by
  unfold candidatesByMAC Device.SharesMAC
  simp only [List.map_eq_nil_iff, List.filter_eq_nil_iff, List.any_eq_true, decide_eq_true_eq]
  constructor
  · intro hnone id known hlookup
    exact hnone ⟨id, known⟩ (AList.mem_lookup_iff.mp hlookup)
  · intro hnone entry hentry
    exact hnone (AList.mem_lookup_iff.mpr hentry)

theorem claimants_eq_nil_iff : claimants ds d = [] ↔
      ∀ {id known}, ds.devices.lookup id = some known → ¬ known.SharesAddress d := by
  unfold claimants Device.SharesAddress
  rw [List.eq_nil_iff_forall_not_mem]
  simp only [List.mem_dedup, List.flatMap_cons, List.flatMap_nil, List.append_nil,
    List.mem_append, ds.mem_claims_iff]
  constructor
  · intro hnone id known hlookup hshares
    apply hnone id
    cases hshares with
    | inl hipv4 => exact .inl ⟨known, hlookup, hipv4⟩
    | inr hipv6 => exact .inr ⟨known, hlookup, hipv6⟩
  · rintro hnone id (⟨known, hlookup, hipv4⟩ | ⟨known, hlookup, hipv6⟩)
    · exact hnone hlookup (.inl hipv4)
    · exact hnone hlookup (.inr hipv6)

theorem candidatesByAddress_subset : candidatesByAddress ds d ⊆ claimants ds d := by
  intro id hid
  unfold candidatesByAddress at hid
  unfold claimants
  simp only [List.mem_dedup, List.mem_flatMap, List.mem_filter] at hid ⊢
  obtain ⟨address, haddress, hclaim, _⟩ := hid
  exact ⟨address, haddress, hclaim⟩

theorem matchObservation_eq_fresh_iff : matchObservation ds d = .fresh ↔
      ∀ {id known}, ds.devices.lookup id = some known →
        ¬ known.SharesMAC d ∧ ¬ known.SharesAddress d := by
  have hparts : matchObservation ds d = .fresh ↔
      candidatesByMAC ds d = [] ∧ claimants ds d = [] := by
    have hsubset := candidatesByAddress_subset ds d
    unfold matchObservation
    cases hmacs : candidatesByMAC ds d with
    | cons id rest => cases rest <;> simp
    | nil =>
      cases hclaims : claimants ds d with
      | nil =>
        rw [hclaims] at hsubset
        simp [List.subset_nil.mp hsubset]
      | cons id rest =>
        cases rest with
        | cons id' rest => simp
        | nil =>
          cases hlan : candidatesByAddress ds d with
          | nil => simp
          | cons id' rest => cases rest <;> simp
  rw [hparts, candidatesByMAC_eq_nil_iff, claimants_eq_nil_iff]
  constructor
  · intro hnone id known hlookup
    exact ⟨hnone.1 hlookup, hnone.2 hlookup⟩
  · intro hnone
    exact ⟨fun hlookup => (hnone hlookup).1, fun hlookup => (hnone hlookup).2⟩

end GateSentry.Discovery
