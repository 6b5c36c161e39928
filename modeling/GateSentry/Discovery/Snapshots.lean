import GateSentry.Discovery.Links
import GateSentry.Discovery.Recognition

/-!
# Snapshots of the overlay network

What the devices claim after a list of peers has been applied to them.
-/

namespace GateSentry.Discovery

open Foundation ByteText Calendar

variable {peers : List TailscaleIdentity}

def Device.overlayAddresses (d : Device) : List Bytes :=
  ({ d with ipv4 := [], ipv6 := [] } : Device).addresses

theorem mem_overlayAddresses_iff (d : Device) (address : Bytes) :
    address ∈ d.overlayAddresses ↔ address ≠ [] ∧
      ∃ node ∈ d.tailscaleNodes, ∃ value ∈ node.addresses, normalizeIP value = address := by
  have hblank : normalizeIP [] = [] := by decide
  rw [Device.overlayAddresses, mem_addresses_iff]
  apply and_congr_right
  intro haddress
  simp only [List.mem_append, List.mem_cons, List.not_mem_nil, or_false, or_self, or_and_right,
    exists_or, exists_eq_left, hblank, haddress.symm, false_or, List.mem_flatMap]
  grind

def LastUnder (peers : List TailscaleIdentity) (nodeID : Bytes) (peer : TailscaleIdentity) :
    Prop :=
  nodeID ≠ [] ∧ normalizeNodeID peer.nodeID = nodeID ∧ ∃ before after,
    peers = before ++ peer :: after ∧ ∀ other ∈ after, normalizeNodeID other.nodeID ≠ nodeID

theorem peerByID_eq_some_iff {nodeID : Bytes} {found : TailscaleIdentity} :
    peerByID peers nodeID = some found ↔
      ∃ peer, LastUnder peers nodeID peer ∧ { peer with nodeID } = found := by
  rw [peerByID, Option.map_eq_some_iff]
  apply exists_congr
  intro peer
  apply and_congr_left
  intro _
  rw [List.find?_eq_some_iff_append]
  constructor
  · rintro ⟨hid, after, before, hpeers, hafter⟩
    rw [List.reverse_eq_iff] at hpeers
    simp only [Bool.and_eq_true, decide_eq_true_eq, Bool.not_eq_true', List.isEmpty_eq_false_iff]
      at hid
    refine ⟨hid.2, hid.1, before.reverse, after.reverse, by simpa using hpeers, ?_⟩
    intro other hother
    simpa [hid.2] using hafter other (List.mem_reverse.mp hother)
  · rintro ⟨hnodeID, hid, before, after, rfl, hafter⟩
    refine ⟨by simp [hid, hnodeID], after.reverse, before.reverse, by simp, ?_⟩
    intro other hother
    simp [hafter other (List.mem_reverse.mp hother)]

theorem mem_addresses_refreshed_iff (linked : TailscaleIdentity) (now : Time) (value : Bytes) :
    value ∈ (linked.refreshed peers now).addresses ↔
      ∃ peer, LastUnder peers (normalizeNodeID linked.nodeID) peer ∧ peer.online = true ∧
        value ∈ peer.addresses := by
  have hfound : (∃ peer, LastUnder peers (normalizeNodeID linked.nodeID) peer ∧
      peer.online = true ∧ value ∈ peer.addresses) ↔
      ∃ found, peerByID peers (normalizeNodeID linked.nodeID) = some found ∧
        found.online = true ∧ value ∈ found.addresses := by
    simp only [peerByID_eq_some_iff]
    constructor
    · rintro ⟨peer, hlast, hvalue⟩
      exact ⟨_, ⟨peer, hlast, rfl⟩, hvalue⟩
    · rintro ⟨_, ⟨peer, hlast, rfl⟩, hvalue⟩
      exact ⟨peer, hlast, hvalue⟩
  rw [hfound]
  unfold TailscaleIdentity.refreshed
  cases peerByID peers (normalizeNodeID linked.nodeID) with
  | none => simp
  | some found => cases honline : found.online <;> simp [honline]

theorem nodeID_refreshed (linked : TailscaleIdentity) (now : Time) :
    (linked.refreshed peers now).nodeID = linked.nodeID := by
  unfold TailscaleIdentity.refreshed
  split <;> rfl

theorem tailscaleNodes_refreshed (d : Device) (now : Time) :
    (d.refreshed peers now).tailscaleNodes = d.tailscaleNodes.map (·.refreshed peers now) := by
  unfold Device.refreshed
  split
  · next hnone => rw [List.isEmpty_iff.mp hnone, List.map_nil]
  · rfl

/-- The device with what is seen of its linked nodes replaced by what the peers say. -/
structure Device.RefreshedBy (known : Device) (peers : List TailscaleIdentity) (d : Device) :
    Prop where
  claimed : ∀ address, address ∈ d.overlayAddresses ↔ address ≠ [] ∧
    ∃ linked ∈ known.tailscaleNodes, ∃ peer, LastUnder peers (normalizeNodeID linked.nodeID) peer ∧
      peer.online = true ∧ ∃ value ∈ peer.addresses, normalizeIP value = address
  linked : d.tailscaleNodes.map (·.nodeID) = known.tailscaleNodes.map (·.nodeID)
  kept : { d with
    tailscaleNodes := known.tailscaleNodes, online := known.online
    lastSeen := known.lastSeen, displayName := known.displayName } = known
  unlinked : known.tailscaleNodes = [] → d = known

theorem refreshedBy_refreshed (known : Device) (now : Time) :
    known.RefreshedBy peers (known.refreshed peers now) where
  claimed address := by
    rw [mem_overlayAddresses_iff, tailscaleNodes_refreshed]
    simp only [List.mem_map, exists_exists_and_eq_and, mem_addresses_refreshed_iff]
    apply and_congr_right
    intro _
    constructor
    · rintro ⟨linked, hlinked, value, ⟨peer, hlast, honline, hvalue⟩, hip⟩
      exact ⟨linked, hlinked, peer, hlast, honline, value, hvalue, hip⟩
    · rintro ⟨linked, hlinked, peer, hlast, honline, value, hvalue, hip⟩
      exact ⟨linked, hlinked, value, ⟨peer, hlast, honline, hvalue⟩, hip⟩
  linked := by
    rw [tailscaleNodes_refreshed, List.map_map]
    exact List.map_congr_left fun linked _ => nodeID_refreshed linked now
  kept := by
    unfold Device.refreshed
    split <;> rfl
  unlinked hnone := by
    rw [Device.refreshed, hnone]
    rfl

/-- A snapshot that is applied refreshes every device and keeps their number; one that is not
leaves them as they are. -/
theorem applyTailscaleSnapshot_exact (ds : DeviceStore) (peers : List TailscaleIdentity)
    (c : Circumstances) :
    match applyTailscaleSnapshot ds peers c with
    | (none, after) => ∀ id, Option.Rel (·.RefreshedBy peers ·) (ds.devices.lookup id)
        (after.devices.lookup id)
    | (some _, after) => after.devices = ds.devices := by
  have hmapped (id : Bytes) : Option.Rel (·.RefreshedBy peers ·) (ds.devices.lookup id)
      ((ds.devices.mapValues (·.refreshed peers c.reading.now)).lookup id) := by
    rw [Dict.lookup_mapValues]
    cases ds.devices.lookup id with
    | none => exact .none
    | some known => exact .some (refreshedBy_refreshed known c.reading.now)
  unfold applyTailscaleSnapshot
  cases ds.persistence with
  | none => exact hmapped
  | some p =>
    dsimp only
    generalize p.persistDevicesIfChanged _ c.storage = written
    obtain ⟨written, err⟩ := written
    cases err with
    | none => exact hmapped
    | some err => rfl

def onePhone : DeviceStore :=
  (upsertDevice (newDeviceStore []) { id := utf8 "phone", tailscaleNodes := [⟨utf8 "n", [], [], [],
    false, zeroTime, []⟩] } ⟨⟨0, 0⟩, .written, .asListed⟩).2.2

/-- Of two peers under one ID the earlier is online with an address, but not counted. -/
theorem earlier_peer_ignored :
    let online : TailscaleIdentity :=
      { nodeID := utf8 "n", addresses := [utf8 "100.64.0.1"], online := true }
    let applied := applyTailscaleSnapshot onePhone [online, { nodeID := utf8 "n" }]
      ⟨⟨0, 0⟩, .written, .asListed⟩
    applied.1 = none ∧ normalizeIP (utf8 "100.64.0.1") = utf8 "100.64.0.1" ∧
      (applied.2.devices.lookup (utf8 "phone")).map (·.overlayAddresses) = some [] := by
  decide +kernel

end GateSentry.Discovery
