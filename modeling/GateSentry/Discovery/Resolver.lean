import GateSentry.Discovery.Links
import GateSentry.Discovery.Recognition

/-!
# The device at an address

`ResolveDeviceByIP`: which device the policies take a client address for, and what
an observation of a device at an address changes about that.
-/

namespace GateSentry.Discovery

open Foundation ByteText Calendar

/-! ## The resolver -/

def DeviceStore.lastSeenForIP (ds : DeviceStore) (ip : Bytes) : Time :=
  let ip := normalizeIP ip
  match ds.deviceAt ds.indexes.deviceByIP ip with
  | none => zeroTime
  | some device =>
    let latest :=
      if device.hasLANIP ip then
        if device.lanLastSeen = zeroTime then device.lastSeen else device.lanLastSeen
      else zeroTime
    device.tailscaleNodes.foldl (fun latest identity =>
      identity.addresses.foldl (fun latest address =>
        if normalizeIP address = ip ∧ latest < identity.lastSeen then identity.lastSeen
        else latest) latest) latest

def DeviceStore.ipClaimCount (ds : DeviceStore) (ip : Bytes) : Nat :=
  (ds.indexes.deviceByIPClaims.entriesAt (normalizeIP ip)).length

def policyStaleDeviceThreshold : Int := 3600 * second

def resolveDeviceByIP (store : Option DeviceStore) (now : Time) (ip : Bytes) :
    Bytes × Bool × Bool :=
  match store with
  | none => ([], false, false)
  | some ds =>
    match ds.findDeviceByIP ip with
    | none => ([], false, false)
    | some device =>
      let ambiguous := decide (1 < ds.ipClaimCount ip)
      let lastSeen := ds.lastSeenForIP ip
      let stale := decide (lastSeen = zeroTime) ||
        decide (policyStaleDeviceThreshold < now - lastSeen)
      (device.id, ambiguous, stale)

/-! ## Claims -/

namespace DeviceStore

def Claims (ds : DeviceStore) (id ip : Bytes) : Prop :=
  ∃ d, ds.devices.lookup id = some d ∧ normalizeIP ip ∈ d.addresses

variable {ds : DeviceStore} {id ip : Bytes}

theorem claims_of_owner
    (h : ds.indexes.deviceByIP.lookup (normalizeIP ip) = some id) : ds.Claims id ip := by
  rw [Claims, ← ds.mem_claims_iff]
  rcases ds.owner_spec (normalizeIP ip) with ⟨hnone, -⟩ | ⟨least, hleast, howner, -⟩
  · rw [hnone] at h
    cases h
  · rw [howner] at h
    rwa [← Option.some.inj h]

theorem ipClaimCount_le_one_iff (hclaims : ds.Claims id ip) :
    ds.ipClaimCount ip ≤ 1 ↔ ∀ {other}, ds.Claims other ip → other = id := by
  have hmem := fun other => ds.mem_claims_iff (normalizeIP ip) other
  have hnodup := ds.nodup_claims (normalizeIP ip)
  have hid := (hmem id).mpr hclaims
  unfold ipClaimCount
  constructor
  · intro hcount other hother
    have hother := (hmem other).mpr hother
    match hlist : ds.indexes.deviceByIPClaims.entriesAt (normalizeIP ip) with
    | [] =>
      rw [hlist] at hid
      cases hid
    | [sole] =>
      rw [hlist] at hid hother
      rw [List.mem_singleton.mp hother, List.mem_singleton.mp hid]
    | first :: second :: rest =>
      rw [hlist] at hcount
      simp at hcount
  · intro honly
    match hlist : ds.indexes.deviceByIPClaims.entriesAt (normalizeIP ip) with
    | [] | [sole] => simp
    | first :: second :: rest =>
      have hfirst := honly ((hmem first).mp (by simp [hlist]))
      have hsecond := honly ((hmem second).mp (by simp [hlist]))
      rw [hlist] at hnodup
      simp [hfirst, hsecond] at hnodup

theorem findDeviceByIP_of_sole {d : Device} (hlookup : ds.devices.lookup id = some d)
    (haddress : normalizeIP ip ∈ d.addresses)
    (honly : ∀ {other}, ds.Claims other ip → other = id) : ds.findDeviceByIP ip = some d := by
  have hfound : ds.findDeviceByIP ip ≠ none := by
    rw [Ne, ds.findDeviceByIP_eq_none_iff]
    intro hnone
    exact hnone hlookup haddress
  unfold findDeviceByIP deviceAt at hfound ⊢
  cases howner : ds.indexes.deviceByIP.lookup (normalizeIP ip) with
  | none => simp [howner] at hfound
  | some owner =>
    have hsame := honly (claims_of_owner howner)
    subst hsame
    have hne := (ds.identified hlookup).2
    simp [hne, hlookup]

theorem exists_owner (hclaims : ds.Claims id ip) :
    ∃ owner d, ds.findDeviceByIP ip = some d ∧ d.id = owner ∧ ds.Claims owner ip := by
  obtain ⟨claimant, hlookup, haddress⟩ := hclaims
  cases hfound : ds.findDeviceByIP ip with
  | none => exact absurd haddress ((ds.findDeviceByIP_eq_none_iff ip).mp hfound hlookup)
  | some d =>
    unfold findDeviceByIP deviceAt at hfound
    cases howner : ds.indexes.deviceByIP.lookup (normalizeIP ip) with
    | none => simp [howner] at hfound
    | some owner =>
      simp only [howner] at hfound
      split at hfound
      · cases hfound
      · exact ⟨owner, d, rfl, (ds.identified hfound).1, claims_of_owner howner⟩

end DeviceStore

/-! ## Observing a known device -/

def Device.Knows (d : Device) (mac : Bytes) : Prop :=
  ∃ known ∈ d.macs, normalizeMAC known = normalizeMAC mac

def DeviceStore.KnownOnlyTo (ds : DeviceStore) (mac id : Bytes) : Prop :=
  ∀ other, (∃ d, ds.devices.lookup other = some d ∧ d.Knows mac) ↔ other = id

instance (d : Device) (mac : Bytes) : Decidable (d.Knows mac) :=
  decidable_of_iff ((d.macs.any fun known => normalizeMAC known = normalizeMAC mac) = true) (by
    simp [Device.Knows])

instance (ds : DeviceStore) (mac id : Bytes) : Decidable (ds.KnownOnlyTo mac id) :=
  decidable_of_iff ((ds.devices.entries.all fun entry =>
      decide (entry.2.Knows mac ↔ entry.1 = id)) = true ∧ id ∈ ds.devices) (by
    unfold DeviceStore.KnownOnlyTo
    rw [List.all_eq_true, Dict.mem_iff_lookup]
    simp only [decide_eq_true_eq]
    constructor
    · rintro ⟨hall, hid⟩ other
      constructor
      · rintro ⟨d, hlookup, hknows⟩
        exact (hall ⟨other, d⟩ (AList.mem_lookup_iff.mp hlookup)).mp hknows
      · rintro rfl
        obtain ⟨d, hlookup⟩ := hid
        exact ⟨d, hlookup, (hall ⟨other, d⟩ (AList.mem_lookup_iff.mp hlookup)).mpr rfl⟩
    · intro hknown
      obtain ⟨d, hlookup, hknows⟩ := (hknown id).mpr rfl
      refine ⟨?_, d, hlookup⟩
      rintro ⟨other, found⟩ hentry
      have hfound := AList.mem_lookup_iff.mpr hentry
      constructor
      · intro hknows
        exact (hknown other).mp ⟨found, hfound, hknows⟩
      · rintro rfl
        cases hlookup.symm.trans hfound
        exact hknows)

def DeviceStore.withholds (ds : DeviceStore) (id ip : Bytes) : Bool :=
  let existing := (ds.devices.lookup id).getD {}
  isLinkLocalIPv6 (normalizeIP ip) && !existing.ipv6.isEmpty && !isLinkLocalIPv6 existing.ipv6

def DeviceStore.Confirms (ds : DeviceStore) (observation : Device) (id ip : Bytes) : Prop :=
  normalizeIP ip ≠ [] ∧
    (ip = observation.ipv4 ∨ (ip = observation.ipv6 ∧ ds.withholds id ip = false))

variable {observation : Device}

theorem mem_macs_normalizeObservation {mac : Bytes} (hmac : mac ∈ observation.macs)
    (hvalid : normalizeMAC mac ≠ []) :
    normalizeMAC mac ∈ (normalizeObservation observation).macs := by
  unfold normalizeObservation
  rw [mem_mergeStringSlice]
  · rw [List.mem_filter]
    exact ⟨List.mem_map.mpr ⟨mac, hmac, rfl⟩, by simpa using hvalid⟩
  · intro s hs
    obtain ⟨value, -, rfl⟩ := List.mem_map.mp (List.mem_filter.mp hs).1
    exact toLower_normalizeMAC value

variable {ds : DeviceStore}

theorem mem_candidatesByMAC {d : Device} {id : Bytes} {known : Device}
    (hlookup : ds.devices.lookup id = some known) (hshares : known.SharesMAC d) :
    id ∈ candidatesByMAC ds d := by
  obtain ⟨mac, hmac, other, hother, hsame⟩ := hshares
  unfold candidatesByMAC
  rw [List.mem_map]
  refine ⟨⟨id, known⟩, ?_, rfl⟩
  simp only [List.mem_filter, List.any_eq_true, decide_eq_true_eq]
  exact ⟨AList.mem_lookup_iff.mp hlookup, mac, hmac, other, hother, hsame⟩

theorem candidatesByMAC_of_observed {c : Circumstances} {mac id : Bytes}
    (hmac : mac ∈ observation.macs) (hvalid : normalizeMAC mac ≠ [])
    (hknown : ds.KnownOnlyTo mac id) (hsucceeds : (observeDevice ds observation c).1.2.2 = none) :
    candidatesByMAC ds (normalizeObservation observation) = [id] := by
  obtain ⟨d, hlookup, known, hmem, hsame⟩ := (hknown id).mpr rfl
  have hid := mem_candidatesByMAC hlookup
    ⟨normalizeMAC mac, mem_macs_normalizeObservation hmac hvalid, known, hmem, hsame⟩
  unfold observeDevice matchObservation at hsucceeds
  dsimp only at hsucceeds
  match hlist : candidatesByMAC ds (normalizeObservation observation) with
  | [] =>
    rw [hlist] at hid
    cases hid
  | [sole] =>
    rw [hlist] at hid
    rw [List.mem_singleton.mp hid]
  | first :: second :: rest =>
    rw [hlist] at hsucceeds
    split at hsucceeds <;> cases hsucceeds

def DeviceStore.observed (ds : DeviceStore) (observation : Device) (id : Bytes)
    (reading : Reading) : Device :=
  prepareUpsertDevice ds (observedAs ds (normalizeObservation observation) id) reading

section Observed

variable {ds : DeviceStore} {observation existing : Device} {c : Circumstances}
  {id ip : Bytes}

theorem observeDevice_known (hlookup : ds.devices.lookup id = some existing)
    (hcandidates : candidatesByMAC ds (normalizeObservation observation) = [id])
    (hsucceeds : (observeDevice ds observation c).1.2.2 = none) :
    (observeDevice ds observation c).2.devices =
      ds.devices.insert id (ds.observed observation id c.reading) := by
  have hmatch : matchObservation ds (normalizeObservation observation) = .known id := by
    unfold matchObservation
    rw [hcandidates]
  have hid : storedID (observedAs ds (normalizeObservation observation) id) c.reading.idTime =
      id := by
    have hne := (ds.identified hlookup).2
    simp [storedID, observedAs, hne]
  unfold observeDevice at hsucceeds ⊢
  dsimp only at hsucceeds ⊢
  rw [hmatch] at hsucceeds ⊢
  split at hsucceeds
  · cases hsucceeds
  · next haddressed =>
    rw [if_neg haddressed]
    have herr : (upsertDevice ds (observedAs ds (normalizeObservation observation) id) c).2.1 =
        none := by
      simpa using hsucceeds
    have hdevices := upsertDevice_ok herr
    rw [hid] at hdevices
    exact hdevices

theorem observed_eq (observation : Device) (hlookup : ds.devices.lookup id = some existing)
    (reading : Reading) :
    ∃ dnsName displayName, ds.observed observation id reading =
      { (observedAs ds (normalizeObservation observation) id).mergedWith existing with
        lastSeen := reading.now, lanLastSeen := reading.now, online := true
        dnsName, displayName } := by
  have hne := (ds.identified hlookup).2
  have hid : storedID (observedAs ds (normalizeObservation observation) id) reading.idTime =
      id := by
    simp [storedID, observedAs, hne]
  obtain ⟨dnsName, displayName, hprepared⟩ :=
    prepareUpsert_known (show ds.devices.lookup
      (storedID (observedAs ds (normalizeObservation observation) id) reading.idTime) =
        some existing from hid.symm ▸ hlookup)
  rw [hid] at hprepared
  exact ⟨dnsName, displayName, hprepared⟩

theorem addresses_mergedWith (d existing : Device) :
    (d.mergedWith existing).ipv4 = (if d.ipv4.isEmpty then existing.ipv4 else d.ipv4) ∧
      (d.mergedWith existing).ipv6 = (if d.ipv6.isEmpty then existing.ipv6 else d.ipv6) := by
  obtain ⟨all, hall, -⟩ := addSources_eq existing.sources d
  unfold Device.mergedWith
  simp only [hall]
  trivial

section

variable (hlookup : ds.devices.lookup id = some existing)

include hlookup

section

variable (hconfirms : ds.Confirms observation id ip)

include hconfirms

theorem observed_address (reading : Reading) :
    (ds.observed observation id reading).ipv4 = normalizeIP ip ∨
      (ds.observed observation id reading).ipv6 = normalizeIP ip := by
  obtain ⟨hvalid, hfield⟩ := hconfirms
  obtain ⟨dnsName, displayName, hobserved⟩ := observed_eq observation hlookup reading
  obtain ⟨hipv4, hipv6⟩ := addresses_mergedWith
    (observedAs ds (normalizeObservation observation) id) existing
  rw [hobserved]
  rw [hipv4, hipv6]
  rcases hfield with rfl | ⟨rfl, hwithholds⟩
  · simp [observedAs, normalizeObservation, hvalid]
  · unfold DeviceStore.withholds at hwithholds
    rw [hlookup] at hwithholds
    simp only [Option.getD_some] at hwithholds
    have hkept : (!(normalizeIP observation.ipv6).isEmpty && !existing.ipv6.isEmpty &&
        isLinkLocalIPv6 (normalizeIP observation.ipv6) && !isLinkLocalIPv6 existing.ipv6) =
          false := by
      rw [Bool.and_assoc, Bool.and_assoc, Bool.and_left_comm (!existing.ipv6.isEmpty),
        ← Bool.and_assoc (isLinkLocalIPv6 _), hwithholds, Bool.and_false]
    simp [observedAs, normalizeObservation, hlookup, hkept, hvalid]

theorem observed_spec (reading : Reading) :
    normalizeIP ip ∈ (ds.observed observation id reading).addresses ∧
      (ds.observed observation id reading).hasLANIP (normalizeIP ip) = true := by
  have hvalid := hconfirms.1
  have haddress := observed_address hlookup hconfirms reading
  constructor
  · rw [mem_addresses_iff]
    refine ⟨hvalid, normalizeIP ip, ?_, normalizeIP_normalizeIP ip⟩
    rcases haddress with hipv4 | hipv6
    · simp [hipv4]
    · simp [hipv6]
  · unfold Device.hasLANIP
    rcases haddress with hipv4 | hipv6
    · simp [hipv4, hvalid, normalizeIP_normalizeIP]
    · simp [hipv6, hvalid, normalizeIP_normalizeIP]

theorem claims_observed {after : DeviceStore} {reading : Reading}
    (hafter : after.devices = ds.devices.insert id (ds.observed observation id reading)) :
    after.Claims id ip ∧ ∀ other, other ≠ id → (after.Claims other ip ↔ ds.Claims other ip) := by
  unfold DeviceStore.Claims
  rw [hafter]
  constructor
  · exact ⟨_, AList.lookup_insert _, (observed_spec hlookup hconfirms reading).1⟩
  · intro other hother
    rw [AList.lookup_insert_ne hother]

end

end

theorem le_foldl_lastSeen (nodes : List TailscaleIdentity) (address : Bytes) (latest : Time) :
    latest ≤ nodes.foldl (fun latest identity =>
      identity.addresses.foldl (fun latest value =>
        if normalizeIP value = address ∧ latest < identity.lastSeen then identity.lastSeen
        else latest) latest) latest := by
  induction nodes generalizing latest with
  | nil => exact Int.le_refl _
  | cons identity rest ih =>
    rw [List.foldl_cons]
    refine Int.le_trans ?_ (ih _)
    generalize identity.addresses = addresses
    induction addresses generalizing latest with
    | nil => exact Int.le_refl _
    | cons value others ihAddresses =>
      rw [List.foldl_cons]
      refine Int.le_trans ?_ (ihAddresses _)
      split
      · next hlater => exact Int.le_of_lt hlater.2
      · exact Int.le_refl _

theorem le_lastSeenForIP (hlookup : ds.devices.lookup id = some existing)
    (hconfirms : ds.Confirms observation id ip) {after : DeviceStore} {reading : Reading}
    (hset : reading.now ≠ zeroTime)
    (hfound : after.findDeviceByIP ip = some (ds.observed observation id reading)) :
    reading.now ≤ after.lastSeenForIP ip := by
  have hlan := (observed_spec hlookup hconfirms reading).2
  have hseen : (ds.observed observation id reading).lanLastSeen = reading.now := by
    obtain ⟨dnsName, displayName, hobserved⟩ := observed_eq observation hlookup reading
    rw [hobserved]
  unfold DeviceStore.findDeviceByIP at hfound
  unfold DeviceStore.lastSeenForIP
  simp only [hfound, hlan, if_true, hseen, if_neg hset]
  exact le_foldl_lastSeen _ _ _

end Observed

/-- A device that was observed by its MAC address at an address is resolved there as itself,
neither ambiguous nor stale for the next hour, exactly when no other device claims the
address; otherwise the address is ambiguous. -/
theorem observed_device_resolves_iff (ds : DeviceStore) {observation : Device}
    {c : Circumstances} {mac id ip : Bytes} {now : Time} (hmac : mac ∈ observation.macs)
    (hvalid : normalizeMAC mac ≠ []) (hknown : ds.KnownOnlyTo mac id)
    (hconfirms : ds.Confirms observation id ip)
    (hsucceeds : (observeDevice ds observation c).1.2.2 = none)
    (hset : zeroTime < c.reading.now)
    (hrecent : now - c.reading.now ≤ policyStaleDeviceThreshold) :
    (resolveDeviceByIP (some (observeDevice ds observation c).2) now ip = (id, false, false) ↔
      ∀ other, ds.Claims other ip → other = id) ∧
    ((∃ other, ds.Claims other ip ∧ other ≠ id) →
      (resolveDeviceByIP (some (observeDevice ds observation c).2) now ip).2.1 = true) := by
  obtain ⟨existing, hlookup, -⟩ := (hknown id).mpr rfl
  have hafter := observeDevice_known hlookup
    (candidatesByMAC_of_observed hmac hvalid hknown hsucceeds) hsucceeds
  generalize (observeDevice ds observation c).2 = after at hafter ⊢
  obtain ⟨hself, hothers⟩ := claims_observed hlookup hconfirms hafter
  have hsole : (∀ {other}, after.Claims other ip → other = id) ↔
      ∀ other, ds.Claims other ip → other = id := by
    constructor
    · intro honly other hclaims
      by_contra hother
      exact hother (honly ((hothers other hother).mpr hclaims))
    · intro honly other hclaims
      by_contra hother
      exact hother (honly other ((hothers other hother).mp hclaims))
  have hcount := DeviceStore.ipClaimCount_le_one_iff hself
  have hambiguous : ¬ (∀ other, ds.Claims other ip → other = id) →
      (resolveDeviceByIP (some after) now ip).2.1 = true := by
    intro hshared
    obtain ⟨owner, d, hfound, -, -⟩ := DeviceStore.exists_owner hself
    have hmany : 1 < after.ipClaimCount ip := by
      rw [← Nat.not_le, hcount, hsole]
      exact hshared
    simp [resolveDeviceByIP, hfound, hmany]
  constructor
  · constructor
    · intro hresolved
      by_contra hshared
      have hflag := hambiguous hshared
      rw [hresolved] at hflag
      cases hflag
    · intro honly
      obtain ⟨haddress, -⟩ := observed_spec hlookup hconfirms c.reading
      have hstored : after.devices.lookup id = some (ds.observed observation id c.reading) := by
        rw [hafter]
        exact AList.lookup_insert _
      have hfound := DeviceStore.findDeviceByIP_of_sole hstored haddress (hsole.mpr honly)
      have hseen := le_lastSeenForIP hlookup hconfirms (ne_of_gt hset) hfound
      have hfew : ¬ 1 < after.ipClaimCount ip := by
        rw [Nat.not_lt, hcount, hsole]
        exact honly
      have hnonzero : after.lastSeenForIP ip ≠ zeroTime :=
        ne_of_gt (Int.lt_of_lt_of_le hset hseen)
      have hfresh :=
        Int.not_lt.mpr (Int.le_trans (Int.sub_le_sub_left hseen now) hrecent)
      have hid := (after.identified hstored).1
      simp [resolveDeviceByIP, hfound, hfew, hnonzero, hfresh, hid]
  · rintro ⟨other, hclaims, hother⟩
    apply hambiguous
    intro honly
    exact hother (honly other hclaims)

/-! ### Two devices -/

def seenAt (t : Time) : Circumstances := ⟨⟨t, t⟩, .written, .asListed⟩

def phoneAt (ipv4 : Bytes) : Device := { macs := [utf8 "aa:bb:cc:dd:ee:01"], ipv4 }

def laptopAt (ipv4 : Bytes) : Device := { macs := [utf8 "aa:bb:cc:dd:ee:02"], ipv4 }

def phoneSeen : DeviceStore :=
  (observeDevice (newDeviceStore []) (phoneAt (utf8 "192.168.1.7")) (seenAt 1)).2

def bothSeen : DeviceStore :=
  (observeDevice phoneSeen (laptopAt (utf8 "192.168.1.8")) (seenAt 2)).2

theorem observed_device_resolves_phone : resolveDeviceByIP
      (some (observeDevice phoneSeen (phoneAt (utf8 "192.168.1.9")) (seenAt 60)).2) 60
      (utf8 "192.168.1.9") = (generateID 1, false, false) := by
  have hclaims : phoneSeen.indexes.deviceByIPClaims.entriesAt
      (normalizeIP (utf8 "192.168.1.9")) = [] := by
    decide +kernel
  have hknown : phoneSeen.KnownOnlyTo (utf8 "aa:bb:cc:dd:ee:01") (generateID 1) := by
    decide +kernel
  refine (observed_device_resolves_iff phoneSeen (by decide +kernel) (by decide +kernel) hknown
    ⟨by decide +kernel, .inl rfl⟩ (by decide +kernel) (by decide) (by decide)).1.mpr ?_
  intro other hother
  have hmem := (phoneSeen.mem_claims_iff (normalizeIP (utf8 "192.168.1.9")) other).mpr hother
  rw [hclaims] at hmem
  cases hmem

/-- The laptop takes over the address of the phone a day after the phone was seen there. -/
theorem observed_device_ambiguous :
    bothSeen.KnownOnlyTo (utf8 "aa:bb:cc:dd:ee:02") (generateID 2) ∧
      (observeDevice bothSeen (laptopAt (utf8 "192.168.1.7")) (seenAt (86400 * second))).1 =
        (generateID 2, false, none) ∧
      resolveDeviceByIP (some (observeDevice bothSeen (laptopAt (utf8 "192.168.1.7"))
        (seenAt (86400 * second))).2) (86400 * second) (utf8 "192.168.1.7") =
          (generateID 1, true, true) := by
  decide +kernel

end GateSentry.Discovery
