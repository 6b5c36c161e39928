import GateSentry.Discovery.Store
import Mathlib.Data.Finset.Lattice.Lemmas

/-!
# Durable devices

What makes a device durable, and what the operations of the store do to it in memory
and on disk.
-/

namespace GateSentry.Discovery

open Foundation ByteText

def isDurableDevice (d : Device) : Bool :=
  d.persistent || !d.manualName.isEmpty || !d.owner.isEmpty || !d.category.isEmpty ||
    !d.tailscaleNodes.isEmpty

def linkedNodes (nodes : List TailscaleIdentity) : Finset Bytes :=
  ((nodes.map fun node => normalizeNodeID node.nodeID).filter (!·.isEmpty)).toFinset

structure DurableFields where
  persistent : Bool
  manualName : Bytes
  owner : Bytes
  category : Bytes
  links : Finset Bytes

def Device.durableFields (d : Device) : DurableFields :=
  ⟨d.persistent, d.manualName, d.owner, d.category, linkedNodes d.tailscaleNodes⟩

def DeviceAssignment.durableFields (a : DeviceAssignment) : DurableFields :=
  ⟨a.persistent, a.manualName, a.owner, a.category, linkedNodes a.tailscaleNodes⟩

namespace DeviceStore

def HoldsInMemory (ds : DeviceStore) (id : Bytes) (fields : DurableFields) : Prop :=
  (ds.devices.lookup id).map Device.durableFields = some fields

def HoldsOnDisk (ds : DeviceStore) (id : Bytes) (fields : DurableFields) : Prop :=
  (ds.records.lookup id).map DeviceAssignment.durableFields = some fields

def Writes (ds : DeviceStore) (storage : StorageResult) : Prop :=
  ∃ p, ds.persistence = some p ∧ p.Writes storage

end DeviceStore

/-! ## Links -/

variable {id : Bytes}

theorem mem_linkedNodes {nodes : List TailscaleIdentity} :
    id ∈ linkedNodes nodes ↔ (∃ node ∈ nodes, normalizeNodeID node.nodeID = id) ∧ id ≠ [] := by
  simp [linkedNodes]

theorem linkedNodes_append (a b : List TailscaleIdentity) :
    linkedNodes (a ++ b) = linkedNodes a ∪ linkedNodes b := by
  simp [linkedNodes]

/-- One turn of the loop of `mergeTailscaleIdentities`. -/
def mergeIdentity (merged : List TailscaleIdentity) (identity : TailscaleIdentity) :
    List TailscaleIdentity :=
  let identity := { identity with nodeID := normalizeNodeID identity.nodeID }
  if identity.nodeID.isEmpty then merged
  else if merged.any (·.nodeID = identity.nodeID) then
    merged.map fun current =>
      if current.nodeID = identity.nodeID then identity.completedFrom current else current
  else merged ++ [identity.completedFrom {}]

variable (primary secondary : List TailscaleIdentity)

theorem mergeIdentities_eq :
    mergeTailscaleIdentities primary secondary =
      (secondary ++ primary).foldl mergeIdentity [] := rfl

theorem normalizeNodeID_idem (id : Bytes) :
    normalizeNodeID (normalizeNodeID id) = normalizeNodeID id := trimSpace_trimSpace id

theorem nodeIDs_mergeIdentity (merged : List TailscaleIdentity) (identity : TailscaleIdentity) :
    (mergeIdentity merged identity).map (·.nodeID) =
      if normalizeNodeID identity.nodeID = [] ∨
        normalizeNodeID identity.nodeID ∈ merged.map (·.nodeID) then merged.map (·.nodeID)
      else merged.map (·.nodeID) ++ [normalizeNodeID identity.nodeID] := by
  unfold mergeIdentity
  simp only [List.isEmpty_iff, List.any_eq_true, decide_eq_true_eq, ← List.mem_map]
  by_cases hempty : normalizeNodeID identity.nodeID = []
  · rw [if_pos hempty, if_pos (.inl hempty)]
  · rw [if_neg hempty]
    split
    · next hknown =>
      rw [if_pos (.inr hknown), List.map_map]
      refine List.map_congr_left fun current _ => ?_
      dsimp only [Function.comp]
      split
      · next hsame => exact hsame.symm
      · rfl
    · next hunknown =>
      rw [if_neg (not_or.mpr ⟨hempty, hunknown⟩), List.map_append]
      rfl

theorem linkedNodes_mergeIdentity (merged : List TailscaleIdentity)
    (identity : TailscaleIdentity) :
    linkedNodes (mergeIdentity merged identity) =
      linkedNodes merged ∪ linkedNodes [identity] := by
  have hlinked {id : Bytes} (nodes : List TailscaleIdentity) : id ∈ linkedNodes nodes ↔
      (∃ nodeID ∈ nodes.map (·.nodeID), normalizeNodeID nodeID = id) ∧ id ≠ [] := by
    simp [mem_linkedNodes]
  ext id
  rw [Finset.mem_union, hlinked, nodeIDs_mergeIdentity, hlinked merged, hlinked [identity]]
  split
  · next hknown =>
    refine (or_iff_left_of_imp ?_).symm
    rintro ⟨⟨nodeID, hnode, rfl⟩, hne⟩
    cases List.mem_singleton.mp hnode
    exact ⟨⟨_, hknown.resolve_left hne, normalizeNodeID_idem _⟩, hne⟩
  · simp [normalizeNodeID_idem, or_and_right, exists_or]

theorem linkedNodes_merge :
    linkedNodes (mergeTailscaleIdentities primary secondary) =
      linkedNodes secondary ∪ linkedNodes primary := by
  rw [mergeIdentities_eq]
  have hfold : ∀ merged, linkedNodes ((secondary ++ primary).foldl mergeIdentity merged) =
      linkedNodes merged ∪ linkedNodes (secondary ++ primary) := by
    induction secondary ++ primary with
    | nil =>
      simp [linkedNodes]
    | cons identity rest ih =>
      intro merged
      rw [List.foldl_cons, ih, linkedNodes_mergeIdentity, Finset.union_assoc,
        ← linkedNodes_append, List.singleton_append]
  rw [hfold]
  simp [linkedNodes]

theorem linkedNodes_durable (nodes : List TailscaleIdentity) :
    linkedNodes (durableTailscaleIdentities nodes) = linkedNodes nodes := by
  ext id
  simp only [mem_linkedNodes, durableTailscaleIdentities, List.mem_filterMap]
  constructor
  · rintro ⟨⟨node, ⟨source, hsource, hnode⟩, hid⟩, hne⟩
    split at hnode
    · cases hnode
    · cases hnode
      exact ⟨⟨source, hsource, (trimSpace_trimSpace _).symm.trans hid⟩, hne⟩
  · rintro ⟨⟨node, hnode, rfl⟩, hne⟩
    refine ⟨⟨_, ⟨node, hnode, if_neg (by simpa using hne)⟩, ?_⟩, hne⟩
    exact trimSpace_trimSpace _

theorem durableFields_assignmentRecord (d : Device) :
    (assignmentRecord d).durableFields = d.durableFields := by
  simp only [DeviceAssignment.durableFields, assignmentRecord, linkedNodes_durable,
    Device.durableFields]

theorem named_of_mem_merge {primary secondary : List TailscaleIdentity}
    {node : TailscaleIdentity} (h : node ∈ mergeTailscaleIdentities primary secondary) :
    normalizeNodeID node.nodeID ≠ [] := by
  have hall : ∀ id ∈ ((secondary ++ primary).foldl mergeIdentity []).map (·.nodeID),
      normalizeNodeID id ≠ [] := by
    apply List.foldlRecOn
      (motive := fun merged : List TailscaleIdentity =>
        ∀ id ∈ merged.map (·.nodeID), normalizeNodeID id ≠ [])
    · simp
    · intro merged hmerged identity _ id hid
      rw [nodeIDs_mergeIdentity] at hid
      split at hid
      · exact hmerged id hid
      · next hnew =>
        rcases List.mem_append.mp hid with hold | hid
        · exact hmerged id hold
        · rw [List.mem_singleton.mp hid, normalizeNodeID_idem]
          exact fun hempty => hnew (.inl hempty)
  exact hall node.nodeID (List.mem_map_of_mem h)

theorem merge_eq_nil_iff :
    mergeTailscaleIdentities primary secondary = [] ↔
      linkedNodes secondary ∪ linkedNodes primary = ∅ := by
  rw [← linkedNodes_merge, Finset.eq_empty_iff_forall_notMem, List.eq_nil_iff_forall_not_mem]
  constructor
  · intro hnil id hid
    obtain ⟨⟨node, hnode, -⟩, -⟩ := mem_linkedNodes.mp hid
    exact hnil node hnode
  · intro hempty node hnode
    apply hempty (normalizeNodeID node.nodeID)
    rw [mem_linkedNodes]
    exact ⟨⟨node, hnode, rfl⟩, named_of_mem_merge hnode⟩

/-! ## Storing over a device -/

theorem addSources_eq (sources : List DiscoverySource) (d : Device) :
    ∃ all, sources.foldl Device.addSource d = { d with sources := all } ∧
      ∀ source, source ∈ all ↔ source ∈ d.sources ∨ source ∈ sources := by
  induction sources generalizing d with
  | nil => exact ⟨d.sources, rfl, by simp⟩
  | cons first rest ih =>
    obtain ⟨all, hall, hmem⟩ := ih (d.addSource first)
    refine ⟨all, ?_, fun source => ?_⟩
    · rw [List.foldl_cons, hall]
      unfold Device.addSource
      split <;> rfl
    · rw [hmem]
      unfold Device.addSource Device.hasSource
      split
      · next hhas =>
        rw [List.contains_iff_mem] at hhas
        simp only [List.mem_cons]
        constructor
        · rintro (h | h)
          · exact .inl h
          · exact .inr (.inr h)
        · rintro (h | rfl | h)
          · exact .inl h
          · exact .inl hhas
          · exact .inr h
      · rw [List.mem_append, List.mem_singleton, List.mem_cons, or_assoc]

structure Device.IsTransient (d : Device) : Prop where
  persistent : d.persistent = false
  manualName : d.manualName = []
  owner : d.owner = []
  category : d.category = []
  tailscaleNodes : d.tailscaleNodes = []
  source : d.source ≠ some .manual
  sources : .manual ∉ d.sources

def worthKeeping (d : Device) : Bool :=
  d.persistent || !(trimSpace d.manualName).isEmpty || !(trimSpace d.owner).isEmpty ||
    !(trimSpace d.category).isEmpty || linkedNodes d.tailscaleNodes ≠ ∅ ||
    d.hasSource .manual

section Transient

variable {ds : DeviceStore} {d existing : Device} {reading : Reading}

theorem prepareUpsert_known
    (hlookup : ds.devices.lookup (storedID d reading.idTime) = some existing) :
    ∃ dnsName displayName, prepareUpsertDevice ds d reading =
      { Device.mergedWith { d with id := storedID d reading.idTime } existing with
        lastSeen := reading.now, lanLastSeen := reading.now, online := true
        dnsName, displayName } := by
  unfold prepareUpsertDevice
  dsimp only
  rw [hlookup]
  exact ⟨_, _, rfl⟩

theorem mergedWith_transient (hd : d.IsTransient) (existing : Device) :
    (d.mergedWith existing).durableFields = existing.durableFields ∧
      shouldPersistDevice (d.mergedWith existing) = worthKeeping existing ∧
      worthKeeping (d.mergedWith existing) = worthKeeping existing := by
  obtain ⟨hpersistent, hname, howner, hcategory, hnodes, hsource, hsources⟩ := hd
  obtain ⟨all, hall, hmem⟩ := addSources_eq existing.sources d
  have hmanual : all.contains DiscoverySource.manual =
      existing.sources.contains DiscoverySource.manual := by
    rw [Bool.eq_iff_iff, List.contains_iff_mem, hmem]
    simp [hsources]
  have hmerged : linkedNodes (mergeTailscaleIdentities [] existing.tailscaleNodes) =
      linkedNodes existing.tailscaleNodes := by
    rw [linkedNodes_merge]
    simp [linkedNodes]
  have hempty : (mergeTailscaleIdentities [] existing.tailscaleNodes).isEmpty =
      decide (linkedNodes existing.tailscaleNodes = ∅) := by
    rw [Bool.eq_iff_iff, List.isEmpty_iff, merge_eq_nil_iff]
    simp [linkedNodes]
  unfold Device.mergedWith
  simp only [hall]
  refine ⟨?_, ?_, ?_⟩
  · simp [Device.durableFields, hpersistent, hname, howner, hcategory, hnodes, hmerged]
  · simp only [shouldPersistDevice, worthKeeping, Device.hasSource, hpersistent, hname, howner,
      hcategory, hnodes, hempty, hmanual, List.isEmpty_nil, if_true, Bool.false_or, decide_not,
        decide_eq_false hsource, Bool.or_false]
  · simp only [worthKeeping, Device.hasSource, hpersistent, hname, howner, hcategory, hnodes,
      hmerged, hmanual, List.isEmpty_nil, if_true, Bool.false_or]

theorem prepareUpsert_transient (hd : d.IsTransient)
    (hlookup : ds.devices.lookup (storedID d reading.idTime) = some existing) :
    (prepareUpsertDevice ds d reading).durableFields = existing.durableFields ∧
      shouldPersistDevice (prepareUpsertDevice ds d reading) = worthKeeping existing ∧
      worthKeeping (prepareUpsertDevice ds d reading) = worthKeeping existing := by
  obtain ⟨dnsName, displayName, hstored⟩ := prepareUpsert_known hlookup
  have hidentified : Device.IsTransient { d with id := storedID d reading.idTime } :=
    ⟨hd.persistent, hd.manualName, hd.owner, hd.category, hd.tailscaleNodes, hd.source,
      hd.sources⟩
  rw [hstored]
  exact mergedWith_transient hidentified existing

end Transient

/-! ## What the operations do -/

theorem upsertDevice_cases (ds : DeviceStore) (d : Device) (c : Circumstances) :
    ((upsertDevice ds d c).2.2.devices = ds.devices ∨
      (upsertDevice ds d c).2.2.devices = ds.devices.insert (storedID d c.reading.idTime)
        (prepareUpsertDevice ds d c.reading)) ∧
    (upsertDevice ds d c).2.2.persistence = ds.persistence.map fun p =>
      (p.persistIfChanged (prepareUpsertDevice ds d c.reading) c.storage).1 := by
  rw [← id_prepareUpsert ds d c.reading]
  unfold upsertDevice
  cases hpersistence : ds.persistence with
  | none => exact ⟨.inr rfl, hpersistence⟩
  | some p =>
    dsimp only
    cases hwrite : p.persistIfChanged (prepareUpsertDevice ds d c.reading) c.storage with
    | mk written err =>
      cases err with
      | none => exact ⟨.inr rfl, by simp [hwrite]; rfl⟩
      | some err => exact ⟨.inl rfl, by simp [hwrite]; rfl⟩

def DeviceStore.RefusesRemoval (ds : DeviceStore) (id : Bytes) (storage : StorageResult) :
    Prop :=
  ∃ p err, ds.persistence = some p ∧ (p.remove id storage).2 = some err

variable {ds : DeviceStore}

theorem removeDevice_cases (hid : id ∈ ds.devices) (storage : StorageResult) (order : DeviceOrder) :
    ((ds.RefusesRemoval id storage ∧
        (removeDevice ds id storage order).devices = ds.devices) ∨
      (¬ ds.RefusesRemoval id storage ∧
        (removeDevice ds id storage order).devices = ds.devices.erase id)) ∧
    (removeDevice ds id storage order).persistence = ds.persistence.map fun p =>
      (p.remove id storage).1 := by
  unfold removeDevice removeDeviceE DeviceStore.RefusesRemoval
  rw [if_neg (not_not_intro hid)]
  cases hpersistence : ds.persistence with
  | none => exact ⟨.inr ⟨by simp, rfl⟩, hpersistence⟩
  | some p =>
    dsimp only
    cases hremove : p.remove id storage with
    | mk removed err =>
      cases err with
      | none =>
        refine ⟨.inr ⟨?_, rfl⟩, by simp [hremove]; rfl⟩
        rintro ⟨p', err, hp', herr⟩
        cases hp'
        rw [hremove] at herr
        cases herr
      | some err => exact ⟨.inl ⟨⟨p, err, rfl, by rw [hremove]⟩, rfl⟩, by simp [hremove]; rfl⟩

theorem removeDevice_of_absent (hid : id ∉ ds.devices)
    (storage : StorageResult) (order : DeviceOrder) : removeDevice ds id storage order = ds := by
  unfold removeDevice removeDeviceE
  rw [if_pos hid]

theorem DeviceStore.lookup_records_of_map {after : DeviceStore}
    {f : Persistence → Persistence} (h : after.persistence = ds.persistence.map f)
    (hf : ∀ p, (f p).records.lookup id = p.records.lookup id) :
    after.records.lookup id = ds.records.lookup id := by
  unfold DeviceStore.records
  rw [h]
  cases ds.persistence with
  | none => rfl
  | some p => exact hf p

variable {storage : StorageResult}

theorem DeviceStore.not_writes (h : ¬ ds.Writes storage) {p : Persistence}
    (hp : ds.persistence = some p) : ¬ p.Writes storage :=
  fun hwrites => h ⟨p, hp, hwrites⟩

/-! ## Transient devices leave durable ones alone -/

def DeviceStore.Forgets (ds : DeviceStore) (id : Bytes) : Prop :=
  (∃ d, ds.devices.lookup id = some d ∧ worthKeeping d = false) ∧ id ∉ ds.records

section Upsert

variable {ds : DeviceStore} {d existing : Device} {c : Circumstances} {id : Bytes}

theorem upsertDevice_known (hd : d.IsTransient) (hlookup : ds.devices.lookup id = some existing) :
    ∃ after, (upsertDevice ds d c).2.2.devices.lookup id = some after ∧
      after.durableFields = existing.durableFields ∧
      worthKeeping after = worthKeeping existing := by
  rcases (upsertDevice_cases ds d c).1 with hsame | hstored
  · exact ⟨existing, by rw [hsame, hlookup], rfl, rfl⟩
  · rw [hstored]
    by_cases hid : id = storedID d c.reading.idTime
    · subst hid
      obtain ⟨hfields, -, hworth⟩ := prepareUpsert_transient hd hlookup
      exact ⟨_, AList.lookup_insert _, hfields, hworth⟩
    · exact ⟨existing, by rw [AList.lookup_insert_ne hid, hlookup], rfl, rfl⟩

theorem lookup_records_upsert_transient (hd : d.IsTransient)
    (hid : storedID d c.reading.idTime = id) (hlookup : ds.devices.lookup id = some existing)
    (hwrites : ds.Writes c.storage) :
    ((upsertDevice ds d c).2.2.records.lookup id).map DeviceAssignment.durableFields =
      if worthKeeping existing then some existing.durableFields else none := by
  subst hid
  obtain ⟨hfields, hpersist, -⟩ := prepareUpsert_transient hd hlookup
  obtain ⟨p, hp, hwrites⟩ := hwrites
  have hafter := (upsertDevice_cases ds d c).2
  rw [hp, Option.map_some] at hafter
  have hself := Persistence.lookup_persistIfChanged_self hwrites
    (prepareUpsertDevice ds d c.reading)
  rw [id_prepareUpsert, hpersist] at hself
  unfold DeviceStore.records
  rw [hafter]
  rw [hself]
  split
  · rw [Option.map_some, durableFields_assignmentRecord, hfields]
  · rfl

theorem lookup_records_upsert_other
    (h : storedID d c.reading.idTime = id → ¬ ds.Writes c.storage) :
    (upsertDevice ds d c).2.2.records.lookup id = ds.records.lookup id := by
  have hafter := (upsertDevice_cases ds d c).2
  unfold DeviceStore.records
  rw [hafter]
  cases hp : ds.persistence with
  | none => rfl
  | some p =>
    dsimp only [Option.map_some]
    by_cases hid : storedID d c.reading.idTime = id
    · rw [Persistence.persistIfChanged_of_not_writes (DeviceStore.not_writes (h hid) hp)]
    · apply Persistence.lookup_persistIfChanged
      rw [id_prepareUpsert]
      exact Ne.symm hid

theorem upsertDevice_holds {fields : DurableFields} (hd : d.IsTransient)
    (h : ds.HoldsInMemory id fields) : (upsertDevice ds d c).2.2.HoldsInMemory id fields := by
  obtain ⟨existing, hlookup, rfl⟩ := Option.map_eq_some_iff.mp h
  obtain ⟨after, hafter, hfields, -⟩ := upsertDevice_known (c := c) hd hlookup
  exact Option.map_eq_some_iff.mpr ⟨after, hafter, hfields⟩

theorem upsertDevice_holdsOnDisk (hd : d.IsTransient)
    (hlookup : ds.devices.lookup id = some existing) (h : ds.HoldsOnDisk id existing.durableFields)
    (hworth : storedID d c.reading.idTime = id → ds.Writes c.storage →
      worthKeeping existing = true) :
    (upsertDevice ds d c).2.2.HoldsOnDisk id existing.durableFields := by
  unfold DeviceStore.HoldsOnDisk at h ⊢
  by_cases hself : storedID d c.reading.idTime = id ∧ ds.Writes c.storage
  · obtain ⟨hid, hwrites⟩ := hself
    rw [lookup_records_upsert_transient hd hid hlookup hwrites, hworth hid hwrites,
      if_pos rfl]
  · rw [lookup_records_upsert_other fun hid hwrites => hself ⟨hid, hwrites⟩]
    exact h

theorem upsertDevice_forgets (hd : d.IsTransient)
    (hlookup : ds.devices.lookup id = some existing) (hworth : worthKeeping existing = false)
    (h : id ∉ ds.records ∨ (storedID d c.reading.idTime = id ∧ ds.Writes c.storage)) :
    (upsertDevice ds d c).2.2.Forgets id := by
  obtain ⟨after, hafter, -, hworthAfter⟩ := upsertDevice_known (c := c) hd hlookup
  refine ⟨⟨after, hafter, hworthAfter.trans hworth⟩, ?_⟩
  rw [← AList.lookup_eq_none]
  by_cases hself : storedID d c.reading.idTime = id ∧ ds.Writes c.storage
  · obtain ⟨hid, hwrites⟩ := hself
    have hrecord := lookup_records_upsert_transient hd hid hlookup hwrites
    rw [hworth, if_neg Bool.false_ne_true, Option.map_eq_none_iff] at hrecord
    exact hrecord
  · rw [lookup_records_upsert_other fun hid hwrites => hself ⟨hid, hwrites⟩]
    exact AList.lookup_eq_none.mpr (h.resolve_right hself)

end Upsert

/-! ## Clearing addresses and removing devices -/

theorem clearDeviceAddress_known {existing : Device}
    (hlookup : ds.devices.lookup id = some existing) (target : Bytes)
    (clearIPv4 clearIPv6 : Bool) (order : DeviceOrder) :
    ∃ after, (clearDeviceAddress ds target clearIPv4 clearIPv6 order).devices.lookup id =
        some after ∧
      after.durableFields = existing.durableFields ∧
      worthKeeping after = worthKeeping existing := by
  unfold clearDeviceAddress
  split
  · exact ⟨existing, hlookup, rfl, rfl⟩
  · next cleared hcleared =>
    by_cases hid : id = target
    · subst hid
      rw [hlookup, Option.some.injEq] at hcleared
      subst hcleared
      exact ⟨_, AList.lookup_insert _, rfl, rfl⟩
    · exact ⟨existing, (AList.lookup_insert_ne hid).trans hlookup, rfl, rfl⟩

theorem records_clearDeviceAddress (ds : DeviceStore) (target : Bytes)
    (clearIPv4 clearIPv6 : Bool) (order : DeviceOrder) :
    (clearDeviceAddress ds target clearIPv4 clearIPv6 order).records = ds.records := by
  unfold clearDeviceAddress
  split <;> rfl

theorem removeDevice_other (ds : DeviceStore) {target : Bytes} (hid : id ≠ target)
    (storage : StorageResult) (order : DeviceOrder) :
    (removeDevice ds target storage order).devices.lookup id = ds.devices.lookup id ∧
      (removeDevice ds target storage order).records.lookup id = ds.records.lookup id := by
  by_cases htarget : target ∈ ds.devices
  · obtain ⟨hdevices, hafter⟩ := removeDevice_cases htarget storage order
    constructor
    · rcases hdevices with ⟨-, hdevices⟩ | ⟨-, hdevices⟩
      · rw [hdevices]
      · rw [hdevices, AList.lookup_erase_ne hid]
    · exact DeviceStore.lookup_records_of_map hafter fun p => p.lookup_remove storage hid
  · rw [removeDevice_of_absent htarget]
    exact ⟨rfl, rfl⟩

theorem removeDevice_absent (ds : DeviceStore) (id target : Bytes)
    (storage : StorageResult) (order : DeviceOrder) :
    (id ∉ ds.devices → id ∉ (removeDevice ds target storage order).devices) ∧
      (id ∉ ds.records → id ∉ (removeDevice ds target storage order).records) := by
  by_cases hid : id = target
  · subst hid
    by_cases hmem : id ∈ ds.devices
    · refine ⟨fun habsent => absurd hmem habsent, fun habsent => ?_⟩
      have hafter := (removeDevice_cases hmem storage order).2
      unfold DeviceStore.records at habsent ⊢
      rw [hafter]
      cases hp : ds.persistence with
      | none => simp
      | some p =>
        rw [hp] at habsent
        dsimp only [Option.map_some] at habsent ⊢
        by_cases hwrites : p.Writes storage
        · rw [Persistence.records_remove_of_writes hwrites, AList.mem_erase]
          exact fun h => h.1 rfl
        · rwa [Persistence.remove_of_not_writes hwrites]
    · rw [removeDevice_of_absent hmem]
      exact ⟨fun h => h, fun h => h⟩
  · obtain ⟨hdevices, hrecords⟩ := removeDevice_other ds hid storage order
    rw [← AList.lookup_eq_none, ← AList.lookup_eq_none, ← AList.lookup_eq_none,
      ← AList.lookup_eq_none, hdevices, hrecords]
    exact ⟨fun h => h, fun h => h⟩

theorem not_mem_records_removeDevice (hid : id ∈ ds.devices) (hwrites : ds.Writes storage)
    (order : DeviceOrder) : id ∉ (removeDevice ds id storage order).records := by
  obtain ⟨p, hp, hwrites⟩ := hwrites
  have hafter := (removeDevice_cases hid storage order).2
  unfold DeviceStore.records
  rw [hafter, hp]
  dsimp only [Option.map_some]
  rw [Persistence.records_remove_of_writes hwrites, AList.mem_erase]
  exact fun h => h.1 rfl

theorem records_removeDevice_of_not_writes (hwrites : ¬ ds.Writes storage) (order : DeviceOrder) :
    (removeDevice ds id storage order).records = ds.records := by
  by_cases hid : id ∈ ds.devices
  · have hafter := (removeDevice_cases hid storage order).2
    unfold DeviceStore.records
    rw [hafter]
    cases hp : ds.persistence with
    | none => rfl
    | some p =>
      dsimp only [Option.map_some]
      rw [Persistence.remove_of_not_writes (DeviceStore.not_writes hwrites hp)]
  · rw [removeDevice_of_absent hid]

end GateSentry.Discovery
