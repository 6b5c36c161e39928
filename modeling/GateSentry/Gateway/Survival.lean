import GateSentry.Discovery.Restart
import GateSentry.Discovery.Synced
import GateSentry.Dns.DurableUpdate
import GateSentry.Policy.Stored

/-!
# Policies of devices over a restart

Runs of the gateway, and what becomes of the devices that policies name when it is
started again.  Naming a device does not make it durable.
-/

namespace GateSentry.Gateway

open Foundation Discovery Dns Policy ByteText

/-! ## Runs -/

structure State where
  devices : DeviceStore
  policy : Service

/-- What happens to the devices and to the policies that name them.  Exceptions and pauses
are given as a request leaves them. -/
inductive Event where
  | observe (d : Device) (c : Circumstances)
  | update (config : DdnsConfig) (tsigStatus : Bool) (sign : Msg → Tsig → Tsig) (r : Msg)
      (world : UpdateWorld)
  | link (deviceID : Bytes) (identity : TailscaleIdentity) (c : Circumstances)
  | unlink (deviceID nodeID : Bytes) (c : Circumstances)
  | snapshot (peers : List TailscaleIdentity) (c : Circumstances)
  | clearObservations (order : DeviceOrder)
  | edit (deviceID : Bytes) (fields : ManualFieldsUpdate) (c : Circumstances)
  | assign (deviceID groupID : Bytes)
  | except (exceptions : List Exception)
  | pause (pauses : List Pause)

/-- The gateway after an event, unless the device store is locked by a panic.  A link
protects the devices that policies name. -/
def step (g : State) : Event → Option State
  | .observe d c => some { g with devices := (observeDevice g.devices d c).2 }
  | .update config tsigStatus sign r world =>
    some { g with devices := (handleDDNSUpdate config tsigStatus sign g.devices r world).2 }
  | .link deviceID identity c =>
    (linkTailscaleIdentityProtected g.devices deviceID identity
      g.policy.referencedDeviceIDs c).store.map fun devices => { g with devices }
  | .unlink deviceID nodeID c =>
    some { g with
      devices := (unlinkTailscaleIdentity g.devices deviceID nodeID c.storage c.order).2 }
  | .snapshot peers c => some { g with devices := (applyTailscaleSnapshot g.devices peers c).2 }
  | .clearObservations order =>
    some { g with devices := clearTailscaleObservations g.devices order }
  | .edit deviceID fields c =>
    some { g with
      devices := (updateManualFields g.devices deviceID fields c.storage c.order).2 }
  | .assign deviceID groupID =>
    if deviceID ∈ g.devices.devices then
      some { g with policy := g.policy.assign deviceID groupID }
    else some g
  | .except exceptions => some { g with policy := { g.policy with exceptions } }
  | .pause pauses => some { g with policy := { g.policy with pauses } }

def run (g : State) (events : List Event) : Option State := events.foldlM step g

def Event.IsCertain : Event → Prop
  | .observe _ c => c.storage ≠ .uncertain
  | .update _ _ _ _ world => ∀ i, (world.adds i).circumstances.storage ≠ .uncertain ∧
      (world.cleanup.removals i).1 ≠ .uncertain
  | .link _ _ c => c.storage ≠ .uncertain
  | .unlink _ _ c => c.storage ≠ .uncertain
  | .snapshot _ c => c.storage ≠ .uncertain
  | .edit _ _ c => c.storage ≠ .uncertain
  | _ => True

/-! ## Memory and disk agree in every run -/

variable {ds : DeviceStore}

section

variable (h : ds.Follows worthRecorded)

include h

variable {world : UpdateWorld}

theorem applyUpdates_synced (rrs : List RR) (zone : Bytes)
    (hcertain : ∀ i,
      (world.adds i).circumstances.storage ≠ .uncertain ∧
      (world.cleanup.removals i).1 ≠ .uncertain) :
    (applyUpdates ds rrs zone world).Follows worthRecorded := by
  have hdeleted : (deletedStore ds rrs world).Follows worthRecorded :=
    List.foldlRecOn (motive := (DeviceStore.Follows · worthRecorded)) _ _ h fun _ hds _ _ =>
      applyDDNSDelete_induction (P := (DeviceStore.Follows · worthRecorded)) hds
        (fun _ _ _ _ _ hds => hds.clearDeviceAddress recordLaw_worth _ _ _ _) _ _
  have hadded : (addedStore ds rrs zone world).Follows worthRecorded := by
    apply List.foldlRecOn (motive := (DeviceStore.Follows · worthRecorded)) _ _ hdeleted
    intro ds hds item _
    unfold addStep applyDDNSAdd
    split
    · exact hds
    · exact (hds.saves recordLaw_worth (hcertain item.2).1
        (DeviceStore.saves_upsertDevice _ _ _)).follows
  exact List.foldlRecOn (motive := (DeviceStore.Follows · worthRecorded)) _ _ hadded
    fun _ hds item _ => hds.removeDevice recordLaw_worth item.1.id (hcertain item.2).2 _

theorem handleDDNSUpdate_synced (config : DdnsConfig) (tsigStatus : Bool)
    (sign : Msg → Tsig → Tsig) (r : Msg)
    (hcertain : ∀ i, (world.adds i).circumstances.storage ≠ .uncertain ∧
      (world.cleanup.removals i).1 ≠ .uncertain) :
    (handleDDNSUpdate config tsigStatus sign ds r world).2.Follows worthRecorded := by
  rcases handleDDNSUpdate_cases config tsigStatus sign ds r world with ⟨-, hsame⟩ | happlied
  · rwa [hsame]
  · rw [happlied]
    exact applyUpdates_synced h _ _ hcertain

end

variable {g after : State}

theorem step_synced {e : Event} (h : g.devices.Follows worthRecorded) (hcertain : e.IsCertain)
    (hstep : step g e = some after) : after.devices.Follows worthRecorded := by
  cases e with
  | observe d c =>
    cases hstep
    exact (h.saves recordLaw_worth hcertain (DeviceStore.saves_observeDevice _ d c)).follows
  | update config tsigStatus sign r world =>
    cases hstep
    exact handleDDNSUpdate_synced h config tsigStatus sign r hcertain
  | link deviceID identity c =>
    obtain ⟨devices, hlink, rfl⟩ := Option.map_eq_some_iff.mp hstep
    exact h.linkTailscaleIdentity hcertain hlink
  | unlink deviceID nodeID c =>
    cases hstep
    exact (h.saves recordLaw_worth hcertain
      (DeviceStore.saves_unlinkIdentity _ deviceID nodeID _ c.order)).follows
  | snapshot peers c =>
    cases hstep
    exact (h.applyTailscaleSnapshot recordLaw_worth peers hcertain).follows
  | clearObservations order =>
    cases hstep
    exact h.clearTailscaleObservations recordLaw_worth order
  | edit deviceID fields c =>
    cases hstep
    exact (h.saves recordLaw_worth hcertain
      (DeviceStore.saves_updateManualFields _ deviceID fields _ c.order)).follows
  | assign deviceID groupID =>
    rw [step] at hstep
    split at hstep
    · cases hstep
      exact h
    · cases hstep
      exact h
  | except | pause =>
    cases hstep
    exact h

theorem run_synced {events : List Event} (h : g.devices.Follows worthRecorded)
    (hcertain : ∀ e ∈ events, e.IsCertain) (hrun : run g events = some after) :
    after.devices.Follows worthRecorded := by
  induction events generalizing g with
  | nil =>
    cases hrun
    exact h
  | cons e rest ih =>
    obtain ⟨next, hstep, hrest⟩ := Option.bind_eq_some_iff.mp hrun
    have hnext := step_synced h (hcertain e List.mem_cons_self) hstep
    exact ih hnext (fun e' he' => hcertain e' (List.mem_cons_of_mem e he')) hrest

/-! ## Seen again -/

variable {d : Device}

theorem known_mem_devices {id : Bytes} (h : matchObservation ds d = .known id) :
    id ∈ ds.devices := by
  have hmac : id ∈ candidatesByMAC ds d → id ∈ ds.devices := by
    intro hid
    obtain ⟨entry, hentry, rfl⟩ := List.mem_map.mp hid
    exact AList.mem_keys.mpr (List.mem_map_of_mem (List.mem_filter.mp hentry).1)
  have haddress : id ∈ candidatesByAddress ds d → id ∈ ds.devices := by
    intro hid
    simp only [candidatesByAddress, List.mem_dedup, List.mem_flatMap, List.mem_filter] at hid
    obtain ⟨_, _, _, hlan⟩ := hid
    cases hlookup : ds.devices.lookup id with
    | none => simp [hlookup] at hlan
    | some known => exact AList.lookup_isSome.mp (by rw [hlookup]; rfl)
  unfold matchObservation at h
  split at h
  · next found hfound =>
    cases h
    exact hmac (by rw [hfound]; exact List.mem_singleton_self id)
  · cases h
  · split at h
    · cases h
    · cases h
    · cases h
    · next found hfound _ =>
      cases h
      exact haddress (by rw [hfound]; exact List.mem_singleton_self id)
    · cases h

theorem mem_upsertDevice (ds : DeviceStore) (d : Device) (c : Circumstances) (id : Bytes) :
    (id ∈ ds.devices → id ∈ (upsertDevice ds d c).2.2.devices) ∧
      (id ∈ (upsertDevice ds d c).2.2.devices →
        id ∈ ds.devices ∨ id = storedID d c.reading.idTime) := by
  rcases (upsertDevice_cases ds d c).1 with hsame | hstored
  · rw [hsame]
    exact ⟨fun hid => hid, .inl⟩
  · rw [hstored, AList.mem_insert]
    exact ⟨.inr, Or.symm⟩

theorem mem_observeDevice (ds : DeviceStore) (hd : d.id = []) (c : Circumstances) (id : Bytes) :
    (id ∈ ds.devices → id ∈ (observeDevice ds d c).2.devices) ∧
      (id ∈ (observeDevice ds d c).2.devices →
        id ∈ ds.devices ∨ id = generateID c.reading.idTime) := by
  unfold observeDevice
  dsimp only
  split
  · exact ⟨fun hid => hid, .inl⟩
  · split
    · exact ⟨fun hid => hid, .inl⟩
    · exact ⟨fun hid => hid, .inl⟩
    · obtain ⟨hkept, hnew⟩ := mem_upsertDevice ds (normalizeObservation d) c id
      have hstored : storedID (normalizeObservation d) c.reading.idTime =
          generateID c.reading.idTime := if_pos (by change d.id.isEmpty = true; rw [hd]; rfl)
      rw [hstored] at hnew
      exact ⟨hkept, hnew⟩
    · next found hfound =>
      obtain ⟨hkept, hnew⟩ := mem_upsertDevice ds
        (observedAs ds (normalizeObservation d) found) c id
      refine ⟨hkept, fun hid => ?_⟩
      rcases hnew hid with hold | hstored
      · exact .inl hold
      · change id = if found.isEmpty then _ else found at hstored
        split at hstored
        · exact .inr hstored
        · rw [hstored]
          exact .inl (known_mem_devices hfound)

theorem exists_generateID_ne (id : Bytes) : ∃ t, generateID t ≠ id := by
  by_cases h : generateID 0 = id
  · refine ⟨1, fun h' => ?_⟩
    exact absurd (h.trans h'.symm) (by decide)
  · exact ⟨0, h⟩

/-! ## Started again -/

namespace State

def restarted (g : State) (zones : List Bytes) (order : DeviceOrder) : DeviceStore :=
  match g.devices.persistence with
  | none => newDeviceStoreMultiZone zones
  | some p => startDevices zones p g.policy.referencedDeviceIDs .written order

def Loads (g : State) : Prop :=
  ∃ p decoded, g.devices.persistence = some p ∧ decodeDeviceAssignments p.text = .ok decoded

/-- Every device that a policy names is in the store when, after a restart, it has been
seen again by one of its MAC addresses. -/
def Survives (g : State) : Prop :=
  ∀ id ∈ g.policy.referencedDeviceIDs, ∀ d, g.devices.devices.lookup id = some d →
    ∀ zones order sight c, sight.id = [] → d.SharesMAC (normalizeObservation sight) →
      id ∈ (observeDevice (g.restarted zones order) sight c).2.devices

theorem mem_restarted_iff {g : State} {zones : List Bytes} {order : DeviceOrder} {id : Bytes}
    (hid : id ∈ g.policy.referencedDeviceIDs) :
    id ∈ (g.restarted zones order).devices ↔ g.Loads ∧ id ∈ g.devices.records := by
  unfold restarted Loads DeviceStore.records
  cases hp : g.devices.persistence with
  | none =>
    constructor
    · intro hmem
      exact absurd hmem (AList.notMem_empty id)
    · rintro ⟨⟨_, _, hsome, _⟩, _⟩
      cases hsome
  | some p =>
    dsimp only
    rw [mem_startDevices]
    constructor
    · rintro ⟨decoded, hdecode, hmem⟩
      obtain ⟨a, hlookup, _⟩ := mem_migrateAssignments.mp hmem
      refine ⟨⟨p, decoded, rfl, hdecode⟩, ?_⟩
      rw [Persistence.records, decode_records hdecode]
      exact AList.lookup_isSome.mp (by rw [hlookup]; rfl)
    · rintro ⟨⟨_, decoded, hsome, hdecode⟩, hmem⟩
      cases hsome
      rw [Persistence.records, decode_records hdecode] at hmem
      obtain ⟨a, hlookup⟩ := Option.isSome_iff_exists.mp (AList.lookup_isSome.mpr hmem)
      refine ⟨decoded, hdecode, mem_migrateAssignments.mpr ⟨a, hlookup, ?_⟩⟩
      simp [keepsRecord, hid]

def HasMAC (d : Device) : Prop := ∃ mac ∈ d.macs, normalizeMAC mac ≠ []

theorem hasMAC_of_sharesMAC {d sight : Device}
    (h : d.SharesMAC (normalizeObservation sight)) : HasMAC d := by
  obtain ⟨mac, hmac, other, hother, rfl⟩ := h
  refine ⟨other, hother, fun hempty => ?_⟩
  have hlisted := mem_of_mem_mergeStringSlice hmac
  simp [hempty] at hlisted

theorem sharesMAC_of_hasMAC (h : HasMAC d) :
    ∃ sight : Device, sight.id = [] ∧ d.SharesMAC (normalizeObservation sight) := by
  obtain ⟨mac, hmac, hvalid⟩ := h
  refine ⟨{ ipv4 := utf8 "192.168.1.2", macs := [mac] }, rfl, normalizeMAC mac, ?_, mac, hmac, rfl⟩
  have hlist : ([mac].map normalizeMAC).filter (!·.isEmpty) = [normalizeMAC mac] := by
    simp [hvalid]
  change _ ∈ mergeStringSlice (([mac].map normalizeMAC).filter (!·.isEmpty)) []
  rw [hlist]
  exact List.mem_singleton_self _

theorem survives_iff_recorded (g : State) : g.Survives ↔ ∀ id ∈ g.policy.referencedDeviceIDs, ∀ d,
      g.devices.devices.lookup id = some d → HasMAC d → g.Loads ∧ id ∈ g.devices.records := by
  constructor
  · intro h id hid d hlookup hmac
    obtain ⟨sight, hsight, hshares⟩ := sharesMAC_of_hasMAC hmac
    obtain ⟨t, ht⟩ := exists_generateID_ne id
    let order : DeviceOrder := ⟨fun ids => ids, fun _ => .refl _⟩
    have hseen := h id hid d hlookup [] order sight ⟨⟨t, t⟩, .written, order⟩ hsight hshares
    rcases (mem_observeDevice _ hsight _ id).2 hseen with hmem | hnew
    · exact (mem_restarted_iff hid).mp hmem
    · exact absurd hnew.symm ht
  · intro h id hid d hlookup zones order sight c hsight hshares
    have hmem : id ∈ (g.restarted zones order).devices :=
      (mem_restarted_iff hid).mpr (h id hid d hlookup (hasMAC_of_sharesMAC hshares))
    exact (mem_observeDevice _ hsight c id).1 hmem

end State

/-- After every run without an uncertain write, the devices that policies name come through
a restart exactly if each of them that has a MAC address is worth a record of its own. -/
theorem run_survives_iff {start after : State} {events : List Event}
    (hsynced : start.devices.Synced) (hcertain : ∀ e ∈ events, e.IsCertain)
    (hrun : run start events = some after) :
    after.Survives ↔ ∀ id ∈ after.policy.referencedDeviceIDs, ∀ d,
      after.devices.devices.lookup id = some d → State.HasMAC d →
        after.Loads ∧ shouldPersistDevice d = true := by
  have hafter := DeviceStore.synced_iff.mpr
    (run_synced (DeviceStore.synced_iff.mp hsynced) hcertain hrun)
  rw [State.survives_iff_recorded]
  constructor
  · intro h id hid d hlookup hmac
    obtain ⟨hloads, hrecorded⟩ := h id hid d hlookup hmac
    exact ⟨hloads, (hafter.recorded hlookup).mp hrecorded⟩
  · intro h id hid d hlookup hmac
    obtain ⟨hloads, hworth⟩ := h id hid d hlookup hmac
    exact ⟨hloads, (hafter.recorded hlookup).mpr hworth⟩

theorem startDevices_synced {zones : List Bytes} {p : Persistence} {protectedIDs : List Bytes}
    {order : DeviceOrder} {decoded : Dict Bytes Discovery.DeviceAssignment}
    (hdecode : decodeDeviceAssignments p.text = .ok decoded)
    (hworth : ∀ {id a}, (migrateDeviceAssignments decoded p.text.sourceVersion
      protectedIDs).lookup id = some a → shouldPersistDevice (assignmentDevice a) = true) :
    (startDevices zones p protectedIDs .written order).Synced := by
  obtain ⟨after, hafter, hdevices⟩ := attach_written (newDeviceStoreMultiZone zones)
    protectedIDs order rfl hdecode
  obtain ⟨hattached, hrecords⟩ := attach_records _ protectedIDs order hdecode hafter
  unfold startDevices
  dsimp only
  rw [hafter]
  refine ⟨hattached, fun {id d} hlookup => ?_⟩
  rw [hdevices] at hlookup
  rcases DeviceStore.lookup_restoredDevices hlookup with hnew | ⟨a, ha, rfl⟩
  · simp [newDeviceStoreMultiZone] at hnew
  · have hmem : id ∈ after.records :=
      hrecords.mpr (AList.lookup_isSome.mp (by rw [ha]; rfl))
    exact iff_of_true hmem (hworth ha)

/-! ## A laptop on the children's policy -/

def mapOrder : DeviceOrder := ⟨fun ids => ids, fun _ => .refl _⟩

def firstStart : State where
  devices := startDevices [utf8 "local"] ⟨false, .empty⟩ [] .written mapOrder
  policy := {
    snapshot := {
      groups := AList.insert (utf8 "kids") { id := utf8 "kids" }
        (AList.insert defaultGroupID { id := defaultGroupID } ∅)
      assignments := ∅
      version := 2
      updatedAt := 0 }
    exceptions := []
    pauses := []
    categories := none
    enabledCategories := [] }

def laptop : Device where
  ipv4 := utf8 "192.168.1.20"
  macs := [utf8 "aa:bb:cc:dd:ee:ff"]

def laptopID : Bytes := utf8 "dev-1"

def writtenAt (t : Calendar.Time) : Circumstances := ⟨⟨t, t⟩, .written, mapOrder⟩

def laptopEvents : List Event := [.observe laptop (writtenAt 1), .assign laptopID (utf8 "kids")]

def namedLaptopEvents : List Event :=
  laptopEvents ++
    [.edit laptopID { manualName := utf8 "Laptop", setManualName := true } (writtenAt 2)]

theorem firstStart_synced : firstStart.devices.Synced := by
  have hdecode : decodeDeviceAssignments .empty = .ok ∅ := rfl
  change (startDevices _ ⟨false, .empty⟩ [] .written mapOrder).Synced
  refine startDevices_synced hdecode fun {id a} hlookup => ?_
  exact absurd (lookup_migrateAssignments hlookup).2 (AList.notMem_empty id)

/-- A laptop with a name comes through. -/
theorem run_survives_namedLaptop : ∃ after, run firstStart namedLaptopEvents = some after ∧
      after.policy.referencedDeviceIDs = [laptopID] ∧ after.Survives := by
  have hsome : (run firstStart namedLaptopEvents).isSome = true := by decide +kernel
  have hnamed : (run firstStart namedLaptopEvents).map (fun g =>
      g.policy.referencedDeviceIDs) = some [laptopID] := by decide +kernel
  have hworth : (run firstStart namedLaptopEvents).map (fun g =>
      (g.devices.devices.lookup laptopID).map shouldPersistDevice) = some (some true) := by
    decide +kernel
  have hloads : (run firstStart namedLaptopEvents).map (fun g =>
      g.devices.persistence.map fun p => (decodeDeviceAssignments p.text).isOk) =
      some (some true) := by decide +kernel
  obtain ⟨after, hrun⟩ := Option.isSome_iff_exists.mp hsome
  have hcertain : ∀ e ∈ namedLaptopEvents, e.IsCertain := by
    simp [namedLaptopEvents, laptopEvents, Event.IsCertain, writtenAt]
  rw [hrun] at hnamed hworth hloads
  have hreferenced : after.policy.referencedDeviceIDs = [laptopID] := Option.some.inj hnamed
  refine ⟨after, hrun, hreferenced, ?_⟩
  rw [run_survives_iff firstStart_synced hcertain hrun]
  intro id hid d hlookup _
  rw [hreferenced, List.mem_singleton] at hid
  subst hid
  simp only [Option.map_some, Option.some.injEq, hlookup] at hworth
  obtain ⟨p, hp, hok⟩ := Option.map_eq_some_iff.mp (Option.some.inj hloads)
  refine ⟨?_, hworth⟩
  cases hdecode : decodeDeviceAssignments p.text with
  | error err =>
    rw [hdecode] at hok
    cases hok
  | ok decoded => exact ⟨p, decoded, hp, hdecode⟩

def policyAt (devices : DeviceStore) (policy : Service) (ip : Bytes) : Option Bytes :=
  (devices.findDeviceByIP ip).map fun d => policy.snapshot.assignedGroup d.id

/-- A laptop without a name is gone after a restart.  When it is seen again, by the same
MAC address, it gets a new id and the default policy. -/
theorem not_survives_laptop :
    (run firstStart laptopEvents).map (fun g =>
      (g.policy.referencedDeviceIDs, policyAt g.devices g.policy laptop.ipv4)) =
      some ([laptopID], some (utf8 "kids")) ∧
    (run firstStart laptopEvents).map (fun g =>
      let again := (observeDevice (g.restarted [utf8 "local"] mapOrder) laptop (writtenAt 9)).2
      (decide (laptopID ∈ again.devices), policyAt again g.policy laptop.ipv4)) =
      some (false, some defaultGroupID) := by
  decide +kernel

end GateSentry.Gateway
