import GateSentry.Discovery.Effects
import GateSentry.Discovery.Resolver
import GateSentry.Discovery.Restart
import GateSentry.Foundation.AddressCase

/-!
# Activity in the LAN and in the overlay

When a device was last seen at an address is kept apart for its addresses in the LAN and
for those of its linked nodes.
-/

namespace GateSentry.Discovery

open Foundation ByteText Calendar

/-! ## Addresses up to letter case -/

theorem normalizeIP_of_toLower_eq {s t : Bytes} (h : toLower s = toLower t) :
    normalizeIP s = normalizeIP t := by
  rw [normalizeIP, normalizeIP, Net.parseIP_trimSpace_congr h]

theorem foldl_mergeString_covers (items : List Bytes) (merged : List Bytes × List Bytes)
    (hseen : ∀ key ∈ merged.2, ∃ kept ∈ merged.1, toLower kept = key) :
    (∀ s ∈ merged.1, s ∈ (items.foldl mergeString merged).1) ∧
      ∀ s ∈ items, ∃ kept ∈ (items.foldl mergeString merged).1, toLower kept = toLower s := by
  induction items generalizing merged with
  | nil => exact ⟨fun s hs => hs, by simp⟩
  | cons item rest ih =>
    rw [List.foldl_cons]
    by_cases hknown : toLower item ∈ merged.2
    · have hstep : mergeString merged item = merged := by
        rw [mergeString, if_pos (by simpa using hknown)]
      rw [hstep]
      obtain ⟨hkept, hrest⟩ := ih merged hseen
      refine ⟨hkept, ?_⟩
      simp only [List.mem_cons, forall_eq_or_imp]
      obtain ⟨kept, hmem, hsame⟩ := hseen _ hknown
      exact ⟨⟨kept, hkept kept hmem, hsame⟩, hrest⟩
    · have hstep : mergeString merged item = (merged.1 ++ [item], toLower item :: merged.2) := by
        rw [mergeString, if_neg (by simpa using hknown)]
      rw [hstep]
      obtain ⟨hkept, hrest⟩ := ih (merged.1 ++ [item], toLower item :: merged.2) (by
        intro key hkey
        rcases List.mem_cons.mp hkey with rfl | hold
        · exact ⟨item, by simp, rfl⟩
        · obtain ⟨kept, hmem, hsame⟩ := hseen key hold
          exact ⟨kept, List.mem_append_left _ hmem, hsame⟩)
      refine ⟨fun s hs => hkept s (List.mem_append_left _ hs), ?_⟩
      simp only [List.mem_cons, forall_eq_or_imp]
      exact ⟨⟨item, hkept item (by simp), rfl⟩, hrest⟩

theorem exists_mem_mergeStringSlice {items : List Bytes} {s : Bytes} (h : s ∈ items) :
    ∃ kept ∈ mergeStringSlice items [], toLower kept = toLower s := by
  rw [mergeStringSlice_eq, List.append_nil]
  exact (foldl_mergeString_covers items ([], []) (by simp)).2 s h

theorem any_normalizeIP_merge (addresses : List Bytes) (ip : Bytes) :
    (mergeStringSlice addresses []).any (normalizeIP · = ip) =
      addresses.any (normalizeIP · = ip) := by
  rw [Bool.eq_iff_iff]
  simp only [List.any_eq_true, decide_eq_true_eq]
  constructor
  · rintro ⟨address, hmem, hip⟩
    have hmem := mem_of_mem_mergeStringSlice hmem
    rw [List.append_nil] at hmem
    exact ⟨address, hmem, hip⟩
  · rintro ⟨address, hmem, hip⟩
    obtain ⟨kept, hkept, hsame⟩ := exists_mem_mergeStringSlice hmem
    exact ⟨kept, hkept, (normalizeIP_of_toLower_eq hsame).trans hip⟩

/-! ## Distinct nodes -/

def nodeKeys (nodes : List TailscaleIdentity) : List Bytes :=
  nodes.map fun node => normalizeNodeID node.nodeID

structure DistinctNodes (nodes : List TailscaleIdentity) : Prop where
  nodup : (nodeKeys nodes).Nodup
  named : [] ∉ nodeKeys nodes

theorem distinctNodes_nil : DistinctNodes [] := ⟨List.nodup_nil, List.not_mem_nil⟩

variable {nodes : List TailscaleIdentity} {other : List TailscaleIdentity}

theorem DistinctNodes.of_keys (h : DistinctNodes nodes) (hkeys : nodeKeys other = nodeKeys nodes) :
    DistinctNodes other :=
  ⟨by rw [hkeys]; exact h.nodup, by rw [hkeys]; exact h.named⟩

theorem DistinctNodes.sublist (h : DistinctNodes nodes)
    (hsub : (nodeKeys other).Sublist (nodeKeys nodes)) : DistinctNodes other :=
  ⟨h.nodup.sublist hsub, fun hmem => h.named (hsub.subset hmem)⟩

theorem nodeKeys_durable (nodes : List TailscaleIdentity) :
    nodeKeys (durableTailscaleIdentities nodes) = (nodeKeys nodes).filter (!·.isEmpty) := by
  unfold nodeKeys durableTailscaleIdentities
  induction nodes with
  | nil => rfl
  | cons node rest ih =>
    rw [List.filterMap_cons, List.map_cons, List.filter_cons]
    by_cases hempty : (normalizeNodeID node.nodeID).isEmpty = true
    · simp only [hempty]
      exact ih
    · simp only [hempty, Bool.not_false, Bool.false_eq_true, if_true, if_false, List.map_cons,
        normalizeNodeID_idem]
      rw [ih]

theorem DistinctNodes.durable (h : DistinctNodes nodes) :
    DistinctNodes (durableTailscaleIdentities nodes) := by
  apply h.sublist
  rw [nodeKeys_durable]
  exact List.filter_sublist

def Canonical (merged : List TailscaleIdentity) : Prop :=
  ∀ node ∈ merged, normalizeNodeID node.nodeID = node.nodeID

variable {merged : List TailscaleIdentity}

theorem canonical_iff :
    Canonical merged ↔ ∀ id ∈ merged.map (·.nodeID), normalizeNodeID id = id := by
  simp [Canonical]

theorem nodeKeys_of_canonical (h : Canonical merged) : nodeKeys merged = merged.map (·.nodeID) :=
  List.map_congr_left h

theorem mergeIdentity_distinct (hcanonical : Canonical merged) (h : DistinctNodes merged)
    (identity : TailscaleIdentity) :
    Canonical (mergeIdentity merged identity) ∧
      DistinctNodes (mergeIdentity merged identity) := by
  have hids := nodeIDs_mergeIdentity merged identity
  have hkeys := nodeKeys_of_canonical hcanonical
  rw [canonical_iff] at hcanonical
  split at hids
  · have hcanonical' : Canonical (mergeIdentity merged identity) := by
      rwa [canonical_iff, hids]
    refine ⟨hcanonical', h.of_keys ?_⟩
    rw [nodeKeys_of_canonical hcanonical', hids, hkeys]
  · next hnew =>
    rw [not_or, ← hkeys] at hnew
    have hcanonical' : Canonical (mergeIdentity merged identity) := by
      rw [canonical_iff, hids, List.forall_mem_append, List.forall_mem_singleton]
      exact ⟨hcanonical, normalizeNodeID_idem _⟩
    have hmerged := (nodeKeys_of_canonical hcanonical').trans hids
    rw [← hkeys] at hmerged
    refine ⟨hcanonical', ?_, ?_⟩
    · rw [hmerged, ← List.concat_eq_append]
      exact h.nodup.concat hnew.2
    · rw [hmerged, List.mem_append, List.mem_singleton, not_or]
      exact ⟨h.named, fun hempty => hnew.1 hempty.symm⟩

theorem distinctNodes_merge (primary secondary : List TailscaleIdentity) :
    DistinctNodes (mergeTailscaleIdentities primary secondary) := by
  have hfold : ∀ merged : List TailscaleIdentity, Canonical merged → DistinctNodes merged →
      DistinctNodes ((secondary ++ primary).foldl mergeIdentity merged) := by
    induction secondary ++ primary with
    | nil => exact fun merged _ h => h
    | cons identity rest ih =>
      intro merged hcanonical h
      obtain ⟨hcanonical, h⟩ := mergeIdentity_distinct hcanonical h identity
      exact ih _ hcanonical h
  exact hfold [] (by simp [Canonical]) distinctNodes_nil

def TailscaleIdentity.settled (node : TailscaleIdentity) : TailscaleIdentity :=
  TailscaleIdentity.completedFrom { node with nodeID := normalizeNodeID node.nodeID } {}

theorem foldl_mergeIdentity_distinct (h : DistinctNodes nodes) (merged : List TailscaleIdentity)
    (hapart : ∀ key ∈ nodeKeys nodes, key ∉ merged.map (·.nodeID)) :
    nodes.foldl mergeIdentity merged = merged ++ nodes.map (·.settled) := by
  induction nodes generalizing merged with
  | nil => simp
  | cons node rest ih =>
    obtain ⟨hnodup, hnamed⟩ := h
    simp only [nodeKeys, List.map_cons, List.nodup_cons, List.mem_cons, not_or] at hnodup hnamed
    simp only [nodeKeys, List.map_cons, List.mem_cons, forall_eq_or_imp] at hapart
    have hstep : mergeIdentity merged node = merged ++ [node.settled] := by
      have hunknown : merged.any (·.nodeID = normalizeNodeID node.nodeID) = false := by
        rw [List.any_eq_false]
        intro current hcurrent
        simp only [decide_eq_true_eq]
        exact fun hsame => hapart.1 (hsame ▸ List.mem_map_of_mem hcurrent)
      have hname : (normalizeNodeID node.nodeID).isEmpty = false := by
        rw [List.isEmpty_eq_false_iff]
        exact fun hempty => hnamed.1 hempty.symm
      unfold mergeIdentity
      simp only [hname, hunknown]
      rfl
    rw [List.foldl_cons, hstep, ih ⟨hnodup.2, hnamed.2⟩, List.append_assoc]
    · rfl
    · intro key hkey
      rw [List.map_append, List.mem_append, not_or]
      refine ⟨hapart.2 key hkey, ?_⟩
      intro hsame
      simp only [List.map_cons, List.map_nil, List.mem_singleton] at hsame
      apply hnodup.1
      rw [hsame] at hkey
      exact hkey

theorem merge_of_distinct (h : DistinctNodes nodes) :
    mergeTailscaleIdentities [] nodes = nodes.map (·.settled) := by
  rw [mergeIdentities_eq, List.append_nil,
    foldl_mergeIdentity_distinct h [] (by simp), List.nil_append]

/-! ## The age of a claim -/

def TailscaleIdentity.hasIP (node : TailscaleIdentity) (ip : Bytes) : Bool :=
  node.addresses.any (normalizeIP · = ip)

def overlaySeen (nodes : List TailscaleIdentity) (ip : Bytes) (since : Time) : Time :=
  nodes.foldl (fun latest node =>
    if node.hasIP ip then max latest node.lastSeen else latest) since

theorem foldl_addresses (addresses : List Bytes) (ip : Bytes) (lastSeen latest : Time) :
    addresses.foldl (fun latest address =>
      if normalizeIP address = ip ∧ latest < lastSeen then lastSeen else latest) latest =
      if addresses.any (normalizeIP · = ip) then max latest lastSeen else latest := by
  induction addresses generalizing latest with
  | nil => rfl
  | cons address rest ih =>
    rw [List.foldl_cons, ih]
    by_cases hip : normalizeIP address = ip
    · by_cases hlater : latest < lastSeen
      · simp [hip, hlater, max_eq_right (le_of_lt hlater)]
      · simp [hlater, max_eq_left (not_lt.mp hlater)]
    · simp [hip]

variable {d : Device} {ip : Bytes} {ds : DeviceStore}

theorem lastSeenForIP_of_found (h : ds.findDeviceByIP ip = some d) :
    ds.lastSeenForIP ip = overlaySeen d.tailscaleNodes (normalizeIP ip)
      (if d.hasLANIP (normalizeIP ip) then
        if d.lanLastSeen = zeroTime then d.lastSeen else d.lanLastSeen
      else zeroTime) := by
  unfold DeviceStore.findDeviceByIP at h
  simp only [DeviceStore.lastSeenForIP, h, foldl_addresses]
  rfl

theorem overlaySeen_of_none
    (h : nodes.any (·.hasIP ip) = false) (since : Time) : overlaySeen nodes ip since = since := by
  unfold overlaySeen
  induction nodes generalizing since with
  | nil => rfl
  | cons node rest ih =>
    rw [List.any_cons, Bool.or_eq_false_iff] at h
    rw [List.foldl_cons, h.1]
    exact ih h.2 since

theorem overlaySeen_settled (nodes : List TailscaleIdentity) (ip : Bytes) (since : Time) :
    overlaySeen (nodes.map (·.settled)) ip since = overlaySeen nodes ip since := by
  unfold overlaySeen
  rw [List.foldl_map]
  congr 1
  funext latest node
  have hip : node.settled.hasIP ip = node.hasIP ip := any_normalizeIP_merge node.addresses ip
  have hseen : node.settled.lastSeen = node.lastSeen := by
    change (if node.lastSeen = zeroTime then zeroTime else node.lastSeen) = node.lastSeen
    split
    · next hzero => exact hzero.symm
    · rfl
  rw [hip, hseen]

def Device.InLAN (d : Device) (ip : Bytes) : Prop :=
  d.hasLANIP ip = true ∧ d.tailscaleNodes.any (·.hasIP ip) = false

def Device.InOverlay (d : Device) (ip : Bytes) : Prop :=
  ip ≠ [] ∧ d.hasLANIP ip = false ∧ d.tailscaleNodes.any (·.hasIP ip) = true

instance (d : Device) (ip : Bytes) : Decidable (d.InLAN ip) :=
  inferInstanceAs (Decidable (_ ∧ _))

instance (d : Device) (ip : Bytes) : Decidable (d.InOverlay ip) :=
  inferInstanceAs (Decidable (_ ∧ _ ∧ _))

namespace DeviceStore

structure SolelyClaimed (ds : DeviceStore) (way : Device → Bytes → Prop) (id ip : Bytes) :
    Prop where
  claimed : ∃ d, ds.devices.lookup id = some d ∧ way d (normalizeIP ip)
  only : ∀ other, ds.Claims other ip → other = id

theorem mem_addresses_of_inLAN {d : Device} {ip : Bytes} (h : d.InLAN ip) : ip ∈ d.addresses := by
  obtain ⟨hlan, -⟩ := h
  simp only [Device.hasLANIP, Bool.and_eq_true, Bool.or_eq_true, decide_eq_true_eq,
    Bool.not_eq_true', List.isEmpty_eq_false_iff] at hlan
  rw [mem_addresses_iff]
  refine ⟨hlan.1, ?_⟩
  rcases hlan.2 with hip | hip
  · exact ⟨d.ipv4, by simp, hip⟩
  · exact ⟨d.ipv6, by simp, hip⟩

theorem mem_addresses_of_inOverlay {d : Device} {ip : Bytes} (h : d.InOverlay ip) :
    ip ∈ d.addresses := by
  obtain ⟨hne, -, hnode⟩ := h
  simp only [List.any_eq_true, TailscaleIdentity.hasIP, decide_eq_true_eq] at hnode
  obtain ⟨node, hnode, address, haddress, hip⟩ := hnode
  rw [mem_addresses_iff]
  refine ⟨hne, address, ?_, hip⟩
  rw [List.mem_append, List.mem_flatMap]
  exact .inr ⟨node, hnode, haddress⟩

theorem SolelyClaimed.lastSeen_inLAN {id ip : Bytes} (h : ds.SolelyClaimed Device.InLAN id ip) :
    ∃ d, ds.devices.lookup id = some d ∧
      d.InLAN (normalizeIP ip) ∧
      ds.lastSeenForIP ip = if d.lanLastSeen = zeroTime then d.lastSeen else d.lanLastSeen := by
  obtain ⟨d, hlookup, hlan⟩ := h.claimed
  refine ⟨d, hlookup, hlan, ?_⟩
  rw [lastSeenForIP_of_found (findDeviceByIP_of_sole hlookup (mem_addresses_of_inLAN hlan)
    fun hclaims => h.only _ hclaims), overlaySeen_of_none hlan.2, if_pos hlan.1]

theorem SolelyClaimed.lastSeen_inOverlay {id ip : Bytes}
    (h : ds.SolelyClaimed Device.InOverlay id ip) : ∃ d, ds.devices.lookup id = some d ∧
      d.InOverlay (normalizeIP ip) ∧
      ds.lastSeenForIP ip = overlaySeen d.tailscaleNodes (normalizeIP ip) zeroTime := by
  obtain ⟨d, hlookup, hoverlay⟩ := h.claimed
  refine ⟨d, hlookup, hoverlay, ?_⟩
  rw [lastSeenForIP_of_found (findDeviceByIP_of_sole hlookup
    (mem_addresses_of_inOverlay hoverlay) fun hclaims => h.only _ hclaims), hoverlay.2.1,
    if_neg Bool.false_ne_true]

end DeviceStore

/-! ## Devices that the operations leave -/

/-- A device with an address in the LAN was seen there, and its linked nodes are distinct. -/
structure Device.Sound (d : Device) : Prop where
  seen : d.lanLastSeen = zeroTime → d.ipv4 = [] ∧ d.ipv6 = []
  distinct : DistinctNodes d.tailscaleNodes

theorem Device.Sound.of_same {other : Device} (h : d.Sound)
    (hseen : other.lanLastSeen = d.lanLastSeen)
    (hipv4 : d.ipv4 = [] → other.ipv4 = []) (hipv6 : d.ipv6 = [] → other.ipv6 = [])
    (hdistinct : DistinctNodes other.tailscaleNodes) : other.Sound :=
  ⟨fun hzero => (h.seen (hseen ▸ hzero)).imp hipv4 hipv6, hdistinct⟩

theorem Device.Sound.lanLastSeen_ne (h : d.Sound)
    (hlan : d.hasLANIP ip = true) : d.lanLastSeen ≠ zeroTime := by
  intro hzero
  obtain ⟨hipv4, hipv6⟩ := h.seen hzero
  simp only [Device.hasLANIP, hipv4, hipv6, Bool.and_eq_true, Bool.or_self,
    decide_eq_true_eq, Bool.not_eq_true', List.isEmpty_eq_false_iff] at hlan
  exact hlan.1 hlan.2.symm

theorem nodeKeys_refreshed (nodes : List TailscaleIdentity) (peers : List TailscaleIdentity)
    (now : Time) : nodeKeys (nodes.map fun node => node.refreshed peers now) = nodeKeys nodes := by
  unfold nodeKeys
  rw [List.map_map]
  apply List.map_congr_left
  intro node _
  unfold TailscaleIdentity.refreshed
  dsimp only [Function.comp_apply]
  split <;> rfl

theorem refreshed_lan (d : Device) (peers : List TailscaleIdentity) (now : Time) :
    (d.refreshed peers now).lanLastSeen = d.lanLastSeen ∧
      (d.refreshed peers now).ipv4 = d.ipv4 ∧ (d.refreshed peers now).ipv6 = d.ipv6 := by
  unfold Device.refreshed
  split
  · exact ⟨rfl, rfl, rfl⟩
  · exact ⟨rfl, rfl, rfl⟩

namespace Device.Sound

variable {d : Device}

section

variable (h : d.Sound)

include h

theorem refreshed (peers : List TailscaleIdentity) (now : Time) :
    (d.refreshed peers now).Sound := by
  obtain ⟨hseen, hipv4, hipv6⟩ := refreshed_lan d peers now
  refine h.of_same hseen (fun hnone => hipv4.trans hnone) (fun hnone => hipv6.trans hnone) ?_
  unfold Device.refreshed
  split
  · exact h.distinct
  · exact h.distinct.of_keys (nodeKeys_refreshed d.tailscaleNodes peers now)

theorem withoutObservations : d.withoutObservations.Sound := by
  refine h.of_same rfl (fun hnone => hnone) (fun hnone => hnone) (h.distinct.of_keys ?_)
  unfold nodeKeys Device.withoutObservations
  rw [List.map_map]
  rfl

theorem withManualFields (update : ManualFieldsUpdate) : (d.withManualFields update).Sound :=
  h.of_same rfl (fun hnone => hnone) (fun hnone => hnone) h.distinct

theorem unlinkedFrom (nodeID : Bytes) : (d.unlinkedFrom nodeID).Sound := by
  refine h.of_same rfl (fun hnone => hnone) (fun hnone => hnone) (h.distinct.sublist ?_)
  exact List.filter_sublist.map _

theorem linkedTo (identity : TailscaleIdentity) : (d.linkedTo identity).Sound := by
  have hlinked : (d.linkedTo identity).lanLastSeen = d.lanLastSeen ∧
      (d.linkedTo identity).ipv4 = d.ipv4 ∧ (d.linkedTo identity).ipv6 = d.ipv6 ∧
      (d.linkedTo identity).tailscaleNodes =
        mergeTailscaleIdentities [identity] d.tailscaleNodes := by
    unfold Device.linkedTo Device.addSource
    dsimp only
    split
    · exact ⟨rfl, rfl, rfl, rfl⟩
    · exact ⟨rfl, rfl, rfl, rfl⟩
  obtain ⟨hseen, hipv4, hipv6, hnodes⟩ := hlinked
  refine h.of_same hseen (fun hnone => hipv4.trans hnone) (fun hnone => hipv6.trans hnone) ?_
  rw [hnodes]
  exact distinctNodes_merge _ _

theorem sweptAt (cutoff : Time) : (d.sweptAt cutoff).Sound := by
  unfold Device.sweptAt
  split
  · exact h.of_same rfl (fun hnone => hnone) (fun hnone => hnone) h.distinct
  · exact h

theorem cleared (clearIPv4 clearIPv6 : Bool) : Device.Sound { d with
      ipv4 := if clearIPv4 then [] else d.ipv4
      ipv6 := if clearIPv6 then [] else d.ipv6 } := by
  refine h.of_same rfl ?_ ?_ h.distinct
  · intro hnone
    rw [hnone, ite_self]
  · intro hnone
    rw [hnone, ite_self]

end

end Device.Sound

theorem prepareUpsert_spec (ds : DeviceStore) (d : Device) (reading : Reading) :
    (prepareUpsertDevice ds d reading).lanLastSeen = reading.now ∧
      ((prepareUpsertDevice ds d reading).tailscaleNodes = d.tailscaleNodes ∨
        ∃ known, ds.devices.lookup (prepareUpsertDevice ds d reading).id = some known ∧
          (prepareUpsertDevice ds d reading).tailscaleNodes =
            mergeTailscaleIdentities d.tailscaleNodes known.tailscaleNodes) := by
  rw [id_prepareUpsert]
  cases hlookup : ds.devices.lookup (storedID d reading.idTime) with
  | none =>
    unfold prepareUpsertDevice
    dsimp only
    rw [hlookup]
    exact ⟨rfl, .inl rfl⟩
  | some known =>
    obtain ⟨dnsName, displayName, hstored⟩ := prepareUpsert_known hlookup
    obtain ⟨all, hall, -⟩ := addSources_eq known.sources
      { d with id := storedID d reading.idTime }
    rw [hstored]
    refine ⟨rfl, .inr ⟨known, rfl, ?_⟩⟩
    unfold Device.mergedWith
    rw [hall]

theorem sound_prepareUpsert (ds : DeviceStore)
    (hlan : d.tailscaleNodes = []) {reading : Reading} (hclock : reading.now ≠ zeroTime) :
    (prepareUpsertDevice ds d reading).Sound := by
  obtain ⟨hseen, hnodes⟩ := prepareUpsert_spec ds d reading
  refine ⟨fun hzero => absurd (hseen.symm.trans hzero) hclock, ?_⟩
  rcases hnodes with hnodes | ⟨known, -, hnodes⟩
  · rw [hnodes, hlan]
    exact distinctNodes_nil
  · rw [hnodes]
    exact distinctNodes_merge _ _

namespace DeviceStore

structure Sound (ds : DeviceStore) : Prop where
  devices : ∀ {id d}, ds.devices.lookup id = some d → d.Sound
  records : ∀ {id a}, ds.records.lookup id = some a → DistinctNodes a.tailscaleNodes

variable {ds after : DeviceStore} {new : Device → Prop}

theorem Changes.sound (h : ds.Changes after new) (hds : ds.Sound) (hnew : ∀ d, new d → d.Sound) :
    after.Sound := by
  constructor
  · exact fun hlookup => (h.devices hlookup).elim hds.devices (hnew _)
  · intro id a hlookup
    rcases h.records hlookup with hbefore | ⟨d, hd, rfl⟩
    · exact hds.records hbefore
    · exact (hnew d hd).distinct.durable

variable {f : Device → Device}

theorem Changes.sound_of_known (h : ds.Changes after (ds.Known f))
    (hds : ds.Sound) (hf : ∀ {d : Device}, d.Sound → (f d).Sound) : after.Sound := by
  apply h.sound hds
  rintro d ⟨known, hknown, rfl⟩
  exact hf (hds.devices hknown)

/-! ## The overlay under activity in the LAN -/

/-- Every linked node that is left is one of the device before, as old at each address. -/
def OverlayKept (ds after : DeviceStore) : Prop :=
  ∀ id d, after.devices.lookup id = some d → d.tailscaleNodes = [] ∨
    ∃ known, ds.devices.lookup id = some known ∧ known.tailscaleNodes ≠ [] ∧ ∀ ip since,
      overlaySeen d.tailscaleNodes ip since = overlaySeen known.tailscaleNodes ip since

theorem overlayKept_refl (ds : DeviceStore) : ds.OverlayKept ds := by
  intro id d hlookup
  by_cases hnone : d.tailscaleNodes = []
  · exact .inl hnone
  · exact .inr ⟨d, hlookup, hnone, fun _ _ => rfl⟩

variable {later : DeviceStore}

theorem OverlayKept.trans (h : ds.OverlayKept after) (hlater : after.OverlayKept later) :
    ds.OverlayKept later := by
  intro id d hlookup
  rcases hlater id d hlookup with hnone | ⟨middle, hmiddle, hlinked, hsame⟩
  · exact .inl hnone
  · rcases h id middle hmiddle with hnone | ⟨known, hknown, hlinkedBefore, hsameBefore⟩
    · exact absurd hnone hlinked
    · refine .inr ⟨known, hknown, hlinkedBefore, fun ip since => ?_⟩
      rw [hsame, hsameBefore]

theorem Changes.overlayKept (h : ds.Changes after new)
    (hnew : ∀ d, new d → d.tailscaleNodes = [] ∨ ∃ known, ds.devices.lookup d.id = some known ∧
      known.tailscaleNodes ≠ [] ∧ ∀ ip since,
        overlaySeen d.tailscaleNodes ip since = overlaySeen known.tailscaleNodes ip since) :
    ds.OverlayKept after := by
  intro id d hlookup
  rcases h.devices hlookup with hbefore | hd
  · exact overlayKept_refl ds id d hbefore
  · have hkept := hnew d hd
    rw [(after.identified hlookup).1] at hkept
    exact hkept

theorem Changes.overlayKept_of_known (h : ds.Changes after (ds.Known f))
    (hf : ∀ d, (f d).tailscaleNodes = d.tailscaleNodes) : ds.OverlayKept after := by
  apply h.overlayKept
  rintro d ⟨known, hknown, rfl⟩
  rw [hf]
  by_cases hnone : known.tailscaleNodes = []
  · exact .inl hnone
  · exact .inr ⟨known, hknown, hnone, fun _ _ => rfl⟩

theorem overlay_prepareUpsert (hds : ds.Sound) {d : Device} (hlan : d.tailscaleNodes = [])
    (reading : Reading) : (prepareUpsertDevice ds d reading).tailscaleNodes = [] ∨
      ∃ known, ds.devices.lookup (prepareUpsertDevice ds d reading).id = some known ∧
        known.tailscaleNodes ≠ [] ∧ ∀ ip since,
          overlaySeen (prepareUpsertDevice ds d reading).tailscaleNodes ip since =
            overlaySeen known.tailscaleNodes ip since := by
  rcases (prepareUpsert_spec ds d reading).2 with hnodes | ⟨known, hknown, hnodes⟩
  · exact .inl (hnodes.trans hlan)
  · rw [hlan, merge_of_distinct (hds.devices hknown).distinct] at hnodes
    rw [hnodes]
    by_cases hnone : known.tailscaleNodes = []
    · rw [hnone]
      exact .inl rfl
    · exact .inr ⟨known, hknown, hnone, fun ip since => overlaySeen_settled _ ip since⟩

/-- What activity in the LAN does: the store stays sound, and the linked nodes as old. -/
structure LanStep (ds after : DeviceStore) : Prop where
  sound : ds.Sound → after.Sound
  overlay : ds.Sound → ds.OverlayKept after

theorem LanStep.refl (ds : DeviceStore) : ds.LanStep ds := ⟨id, fun _ => overlayKept_refl ds⟩

theorem LanStep.trans (h : ds.LanStep after) (hlater : after.LanStep later) : ds.LanStep later :=
  ⟨fun hds => hlater.sound (h.sound hds),
    fun hds => (h.overlay hds).trans (hlater.overlay (h.sound hds))⟩

variable {c : Circumstances}

theorem Saves.lanStep {storage : StorageResult} {order : DeviceOrder}
    {result : Option PersistError × DeviceStore} (h : ds.Saves storage order new result)
    (hnew : ∀ d, new d → ∃ seen : Device, seen.tailscaleNodes = [] ∧
      d = prepareUpsertDevice ds seen c.reading)
    (hclock : c.reading.now ≠ zeroTime) : ds.LanStep result.2 := by
  constructor
  · intro hds
    apply h.changes.sound hds
    intro d hd
    obtain ⟨seen, hlan, rfl⟩ := hnew d hd
    exact sound_prepareUpsert ds hlan hclock
  · intro hds
    apply h.changes.overlayKept
    intro d hd
    obtain ⟨seen, hlan, rfl⟩ := hnew d hd
    exact overlay_prepareUpsert hds hlan c.reading

theorem lanStep_upsertDevice (ds : DeviceStore) {d : Device} (hlan : d.tailscaleNodes = [])
    (hclock : c.reading.now ≠ zeroTime) : ds.LanStep (upsertDevice ds d c).2.2 :=
  (saves_upsertDevice ds d c).lanStep (fun _ hstored => ⟨d, hlan, hstored⟩) hclock

theorem lanStep_observeDevice (ds : DeviceStore) {observation : Device}
    (hlan : observation.tailscaleNodes = []) (hclock : c.reading.now ≠ zeroTime) :
    ds.LanStep (observeDevice ds observation c).2 := by
  refine (saves_observeDevice ds observation c).lanStep ?_ hclock
  rintro stored ⟨seen, hnodes, hstored⟩
  exact ⟨seen, hnodes.trans hlan, hstored⟩

theorem Changes.lanStep (h : ds.Changes after (ds.Known f))
    (hsound : ∀ {d : Device}, d.Sound → (f d).Sound)
    (hnodes : ∀ d, (f d).tailscaleNodes = d.tailscaleNodes) : ds.LanStep after :=
  ⟨fun hds => h.sound_of_known hds hsound, fun _ => h.overlayKept_of_known hnodes⟩

theorem lanStep_removeDevice (ds : DeviceStore) (id : Bytes) (storage : StorageResult)
    (order : DeviceOrder) : ds.LanStep (removeDevice ds id storage order) := by
  have hchanges := changes_removeDevice ds id storage order
  exact ⟨fun hds => hchanges.sound hds fun _ hnone => hnone.elim,
    fun _ => hchanges.overlayKept fun _ hnone => hnone.elim⟩

theorem OverlayKept.lastSeenForIP_eq (h : ds.OverlayKept after) {id ip : Bytes}
    (hbefore : ds.SolelyClaimed Device.InOverlay id ip)
    (hafter : after.SolelyClaimed Device.InOverlay id ip) :
    after.lastSeenForIP ip = ds.lastSeenForIP ip := by
  obtain ⟨known, hknown, -, hknownSeen⟩ := hbefore.lastSeen_inOverlay
  obtain ⟨d, hlookup, hoverlay, hseen⟩ := hafter.lastSeen_inOverlay
  rw [hknownSeen, hseen]
  rcases h id d hlookup with hnone | ⟨before, hlookupBefore, -, hsame⟩
  · have hclaimed := hoverlay.2.2
    rw [hnone] at hclaimed
    cases hclaimed
  · cases hknown.symm.trans hlookupBefore
    exact hsame _ _

/-! ## The LAN under activity in the overlay -/

def LanKept (ds after : DeviceStore) : Prop :=
  ∀ id d, after.devices.lookup id = some d → ∃ known, ds.devices.lookup id = some known ∧
    d.lanLastSeen = known.lanLastSeen

theorem LanKept.lastSeenForIP_eq (h : ds.LanKept after) (hds : ds.Sound) {id ip : Bytes}
    (hbefore : ds.SolelyClaimed Device.InLAN id ip)
    (hafter : after.SolelyClaimed Device.InLAN id ip) :
    after.lastSeenForIP ip = ds.lastSeenForIP ip := by
  obtain ⟨known, hknown, hlan, hknownSeen⟩ := hbefore.lastSeen_inLAN
  obtain ⟨d, hlookup, -, hseen⟩ := hafter.lastSeen_inLAN
  obtain ⟨before, hlookupBefore, hsame⟩ := h id d hlookup
  cases hknown.symm.trans hlookupBefore
  have hset := (hds.devices hknown).lanLastSeen_ne hlan.1
  rw [hseen, hknownSeen, hsame, if_neg hset, if_neg hset]

theorem lanKept_of_known (h : ds.Changes after (ds.Known f))
    (hf : ∀ d, (f d).lanLastSeen = d.lanLastSeen) : ds.LanKept after := by
  intro id d hlookup
  rcases h.devices hlookup with hbefore | ⟨known, hknown, hd⟩
  · exact ⟨d, hbefore, rfl⟩
  · rw [(after.identified hlookup).1] at hknown
    refine ⟨known, hknown, ?_⟩
    rw [hd]
    exact hf known

end DeviceStore

end GateSentry.Discovery
