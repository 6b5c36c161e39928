import GateSentry.Discovery.Durable
import GateSentry.Discovery.Recognition
import GateSentry.Dns.Update

/-!
# New devices

Runs of observations and additions, and what an arrival that matches no device does
to the devices that are there.
-/

namespace GateSentry.Dns

open Foundation Discovery ByteText Calendar

/-! ## Arrivals -/

/-- What reaches the store: an observation, or an addition together with the store
that its lookups have seen. -/
inductive Arrival where
  | observation (d : Device)
  | addition (seen : DeviceStore) (update : DdnsUpdate) (zone : Bytes)
      (lookupARPEntry : Bytes → Bytes)

structure Event where
  arrival : Arrival
  circumstances : Circumstances

namespace Event

def apply (ds : DeviceStore) (e : Event) : DeviceStore :=
  match e.arrival with
  | .observation d => (observeDevice ds d e.circumstances).2
  | .addition seen update zone lookupARPEntry =>
    applyDDNSAdd seen ds update zone ⟨lookupARPEntry, e.circumstances⟩

def handedOver (ds : DeviceStore) (e : Event) : Option Device :=
  match e.arrival with
  | .observation d =>
    let d := normalizeObservation d
    if d.ipv4.isEmpty && d.ipv6.isEmpty && d.tailscaleNodes.isEmpty then none
    else
      match matchObservation ds d with
      | .fresh => some d
      | .known id => some (observedAs ds d id)
      | _ => none
  | .addition seen update zone lookupARPEntry => matchedDevice seen update zone lookupARPEntry

theorem apply_eq (ds : DeviceStore) (e : Event) : e.apply ds = match e.handedOver ds with
      | none => ds
      | some d => (upsertDevice ds d e.circumstances).2.2 := by
  unfold apply handedOver
  cases e.arrival with
  | observation d =>
    unfold observeDevice
    dsimp only
    split
    · rfl
    · cases matchObservation ds (normalizeObservation d) <;> rfl
  | addition seen update zone lookupARPEntry => rfl

def MatchesNone (ds : DeviceStore) (e : Event) : Prop :=
  match e.arrival with
  | .observation d =>
    d.id ∉ ds.devices ∧ ∀ {id known}, ds.devices.lookup id = some known →
      ¬ known.SharesMAC (normalizeObservation d) ∧ ¬ known.SharesAddress (normalizeObservation d)
  | .addition seen update zone _ =>
    ∀ {id known}, seen.devices.lookup id = some known →
      toLower (extractHostname update.name zone) ∉ known.hostKeys ∧
        normalizeIP update.value ∉ known.addresses

def Stores (ds : DeviceStore) (e : Event) : Prop :=
  ∃ d, e.handedOver ds = some d ∧ (upsertDevice ds d e.circumstances).2.1 = none

def IsNew (ds : DeviceStore) (e : Event) : Prop := e.MatchesNone ds ∧ e.Stores ds

/-- The id that a new device gets: the one an observation carries, else one made
from the clock. -/
def newID (e : Event) : Bytes :=
  match e.arrival with
  | .observation d => storedID d e.circumstances.reading.idTime
  | .addition _ _ _ _ => generateID e.circumstances.reading.idTime

end Event

def Knows (ds : DeviceStore) (id : Bytes) : Prop := id ∈ ds.devices ∨ id ∈ ds.records

/-- Exactly one device is added, under an id not known before, and all others keep
their fields and their durable records. -/
def GainsOne (ds ds' : DeviceStore) : Prop :=
  ∃ id, ¬ Knows ds id ∧ id ∈ ds'.devices ∧
    ∀ {other}, other ≠ id → ds'.devices.lookup other = ds.devices.lookup other ∧
      ds'.records.lookup other = ds.records.lookup other

theorem ddnsMatch_eq_none {seen : DeviceStore} {update : DdnsUpdate} {hostname : Bytes}
    {device : Device} (hdevice : ddnsDevice update hostname = some device)
    (hnone : ∀ {id known}, seen.devices.lookup id = some known →
      toLower hostname ∉ known.hostKeys ∧ normalizeIP update.value ∉ known.addresses) :
    ddnsMatch seen device hostname = none := by
  have hname : seen.findDeviceByHostname hostname = none := by
    rw [seen.findDeviceByHostname_eq_none_iff]
    intro id known hlookup
    exact (hnone hlookup).1
  have haddress : seen.findDeviceByIP update.value = none := by
    rw [seen.findDeviceByIP_eq_none_iff]
    intro id known hlookup
    exact (hnone hlookup).2
  unfold ddnsDevice at hdevice
  split at hdevice
  · cases hdevice
    simp [ddnsMatch, hname, haddress]
  · split at hdevice
    · cases hdevice
      simp [ddnsMatch, hname, haddress]
    · cases hdevice

variable {ds : DeviceStore}

theorem Event.storedID_of_matchesNone {e : Event} {d : Device} (hnone : e.MatchesNone ds)
    (hdevice : e.handedOver ds = some d) :
    storedID d e.circumstances.reading.idTime = e.newID := by
  obtain ⟨arrival, c⟩ := e
  unfold handedOver at hdevice
  cases arrival with
  | observation observed =>
    dsimp only at hnone hdevice ⊢
    have hfresh := (matchObservation_eq_fresh_iff ds (normalizeObservation observed)).mpr hnone.2
    split at hdevice
    · cases hdevice
    · rw [hfresh] at hdevice
      cases hdevice
      rfl
  | addition seen update zone lookupARPEntry =>
    unfold matchedDevice at hdevice
    dsimp only at hdevice
    split at hdevice
    · cases hdevice
    · rw [Option.map_eq_some_iff] at hdevice
      obtain ⟨unmatched, hunmatched, rfl⟩ := hdevice
      rw [ddnsMatch_eq_none hunmatched hnone]
      rfl

theorem Event.gainsOne_iff {e : Event} (hnew : e.IsNew ds) :
    GainsOne ds (e.apply ds) ↔ ¬ Knows ds e.newID := by
  obtain ⟨hnone, d, hdevice, hstored⟩ := hnew
  have hid := Event.storedID_of_matchesNone hnone hdevice
  have hdevices := upsertDevice_ok hstored
  rw [hid] at hdevices
  rw [e.apply_eq, hdevice]
  constructor
  · rintro ⟨id, hunknown, hmem, -⟩
    rw [hdevices, AList.mem_insert] at hmem
    cases hmem with
    | inl heq => rwa [← heq]
    | inr hbefore => exact absurd (.inl hbefore) hunknown
  · intro hunknown
    refine ⟨e.newID, hunknown, ?_, ?_⟩
    · rw [hdevices, AList.mem_insert]
      exact .inl rfl
    · intro other hother
      constructor
      · rw [hdevices, AList.lookup_insert_ne hother]
      · apply lookup_records_upsert_other
        intro hsame
        rw [hid] at hsame
        exact absurd hsame.symm hother

/-! ## Runs -/

def EveryNew (property : DeviceStore → Event → Prop) : DeviceStore → List Event → Prop
  | _, [] => True
  | ds, e :: rest => (e.IsNew ds → property ds e) ∧ EveryNew property (e.apply ds) rest

/-- In a run, no new device takes over an identity exactly when each of them gets an id
that neither a device nor a durable record has at that moment. -/
theorem everyNew_gainsOne_iff (ds : DeviceStore) (events : List Event) :
    EveryNew (fun ds e => GainsOne ds (e.apply ds)) ds events ↔
      EveryNew (fun ds e => ¬ Knows ds e.newID) ds events := by
  induction events generalizing ds with
  | nil => exact Iff.rfl
  | cons e rest ih =>
    unfold EveryNew
    rw [ih]
    constructor
    · rintro ⟨hstep, hrest⟩
      exact ⟨fun hnew => (Event.gainsOne_iff hnew).mp (hstep hnew), hrest⟩
    · rintro ⟨hstep, hrest⟩
      exact ⟨fun hnew => (Event.gainsOne_iff hnew).mpr (hstep hnew), hrest⟩

def passiveSighting (address : Bytes) (instant : Time) : Event where
  arrival := .observation
    { ipv4 := address, source := some .passive, sources := [.passive], online := true }
  circumstances :=
    { reading := ⟨instant, instant⟩, storage := .written, order := .asListed }

/-- Two addresses seen at the same reading of the clock become one device. -/
theorem not_everyNew_gainsOne_repeatedReading :
    ¬ EveryNew (fun ds e => GainsOne ds (e.apply ds)) (newDeviceStore (utf8 "local"))
      [passiveSighting (utf8 "10.0.0.7") 1700000000000000000,
        passiveSighting (utf8 "10.0.0.8") 1700000000000000000] := by
  rintro ⟨-, hsecond, -⟩
  have hnew : (passiveSighting (utf8 "10.0.0.8") 1700000000000000000).IsNew
      ((passiveSighting (utf8 "10.0.0.7") 1700000000000000000).apply
        (newDeviceStore (utf8 "local"))) := by
    constructor
    · exact ⟨by decide +kernel, (matchObservation_eq_fresh_iff _ _).mp (by decide +kernel)⟩
    · exact ⟨_, rfl, rfl⟩
  apply (Event.gainsOne_iff hnew).mp (hsecond hnew)
  left
  decide +kernel

end GateSentry.Dns
