import GateSentry.Discovery.Synced

/-!
# The document mirrors the devices

Over whole runs of the operations, with writes that may fail but not in doubt, the document
has the record of each device that is worth one, and of no other.  The one operation that
breaks this is a link: it drops the other claimants of the node's addresses from memory and
leaves their records.
-/

namespace GateSentry.Discovery

open Foundation ByteText Calendar

/-! ## The relation -/

namespace DeviceStore

structure Mirrored (ds : DeviceStore) : Prop where
  attached : ds.persistence.isSome = true
  recorded : ∀ id, ds.records.lookup id = (ds.devices.lookup id).bind durableRecord

/-- The document mirrors the devices after an operation, and one that reports an error of
the storage has changed nothing. -/
structure Agrees (ds : DeviceStore) (result : Option PersistError × DeviceStore) : Prop where
  mirrored : result.2.Mirrored
  unchanged : result.1 ≠ none → result.2 = ds

variable {ds : DeviceStore}

def mirrors (d : Option Device) (a : Option DeviceAssignment) : Prop :=
  a = d.bind durableRecord

theorem recordLaw_mirrors : RecordLaw mirrors where
  saved _ := rfl
  removed := rfl
  changed hsame hfit := hfit.trans hsame.symm

theorem Mirrored.follows (h : ds.Mirrored) : ds.Follows mirrors := ⟨h.attached, h.recorded⟩

theorem Obeys.agrees {result : Option PersistError × DeviceStore} (h : ds.Obeys mirrors result) :
    ds.Agrees result :=
  ⟨⟨h.follows.attached, h.follows.recorded⟩, h.unchanged⟩

theorem Mirrored.agrees (h : ds.Mirrored) (err : Option PersistError) : ds.Agrees (err, ds) :=
  ⟨h, fun _ => rfl⟩

end DeviceStore

/-! ## Links -/

section DropAliases

variable {deviceID : Bytes} {protectedIDs : List Bytes} {devices : Dict Bytes Device}
  {owners : List Bytes}

/-- Where every device at hand may be dropped, the others are dropped one by one, unless one of
them is met a second time or was never there. -/
theorem dropAliases_cases (htransient : ∀ owner ∈ owners, ∀ other,
      devices.lookup owner = some other → owner ≠ deviceID →
        (!isDurableDevice other && !protectedIDs.contains owner) = true)
    {others : List Bytes} (hothers : owners.filter (· ≠ deviceID) = others) :
    ((others.Nodup ∧ ∀ owner ∈ others, owner ∈ devices) ∧
      ∃ dropped, dropAliases deviceID protectedIDs owners devices = .ok dropped ∧
        ∀ id, dropped.lookup id = if id ∈ others then none else devices.lookup id) ∨
    ¬ (others.Nodup ∧ ∀ owner ∈ others, owner ∈ devices) ∧
      ∃ left, dropAliases deviceID protectedIDs owners devices = .error left := by
  subst hothers
  induction owners generalizing devices with
  | nil => exact .inl ⟨by simp, devices, rfl, fun id => by simp⟩
  | cons owner rest ih =>
    have hrest := fun other hother => htransient other (List.mem_cons_of_mem owner hother)
    rw [dropAliases]
    by_cases howner : owner = deviceID
    · rw [if_pos howner, List.filter_cons_of_neg (by simpa using howner)]
      exact ih hrest
    · rw [if_neg howner, List.filter_cons_of_pos (by simpa using howner)]
      cases hlookup : devices.lookup owner with
      | none =>
        refine .inr ⟨fun h => ?_, devices, rfl⟩
        exact AList.lookup_eq_none.mp hlookup (h.2 owner List.mem_cons_self)
      | some other =>
        have hmem : owner ∈ devices := AList.lookup_isSome.mp (by rw [hlookup]; rfl)
        dsimp only
        rw [if_pos (htransient owner List.mem_cons_self other hlookup howner)]
        -- what is met again is gone by then, so the conditions before and after agree
        have hiff : (owner :: rest.filter (· ≠ deviceID)).Nodup ∧
            (∀ next ∈ owner :: rest.filter (· ≠ deviceID), next ∈ devices) ↔
            (rest.filter (· ≠ deviceID)).Nodup ∧
              ∀ next ∈ rest.filter (· ≠ deviceID), next ∈ devices.erase owner := by
          simp only [List.nodup_cons, List.forall_mem_cons, AList.mem_erase]
          grind
        rw [hiff]
        refine (ih fun next hnext found hfound =>
          hrest next hnext found (Dict.lookup_of_erase hfound)).imp_left ?_
        rintro ⟨happart, dropped, hsome, hspec⟩
        refine ⟨happart, dropped, hsome, fun id => ?_⟩
        rw [hspec]
        by_cases hid : id = owner
        · subst hid
          simp
        · simp [hid]

theorem gone_of_dropAliases {left : Dict Bytes Device}
    (h : dropAliases deviceID protectedIDs owners devices = .error left) :
    ∃ owner ∈ owners, left.lookup owner = none := by
  induction owners generalizing devices with
  | nil => cases h
  | cons owner rest ih =>
    have hrest {devices : Dict Bytes Device}
        (hlater : dropAliases deviceID protectedIDs rest devices = .error left) :
        ∃ other ∈ owner :: rest, left.lookup other = none := by
      obtain ⟨other, hother, hgone⟩ := ih hlater
      exact ⟨other, List.mem_cons_of_mem owner hother, hgone⟩
    rw [dropAliases] at h
    split at h
    · exact hrest h
    · split at h
      · next hgone =>
        cases h
        exact ⟨owner, List.mem_cons_self, hgone⟩
      · split at h
        · exact hrest h
        · exact hrest h

end DropAliases

namespace DeviceStore

variable {ds : DeviceStore}

def otherClaimants (ds : DeviceStore) (deviceID : Bytes) (identity : TailscaleIdentity)
    (now : Time) : List Bytes :=
  ((identity.prepared now).addresses.flatMap ds.indexes.deviceByIPClaims.entriesAt).filter
    (· ≠ deviceID)

/-- The other claimants of a link that is carried out claim one address of the node each, and
none is worth a record. -/
def LinkSpares (ds : DeviceStore) (deviceID : Bytes) (identity : TailscaleIdentity)
    (protectedIDs : List Bytes) (c : Circumstances) : Prop :=
  ds.LinkCarriedOut deviceID identity protectedIDs c →
    (ds.otherClaimants deviceID identity c.reading.now).Nodup ∧
      ∀ owner ∈ ds.otherClaimants deviceID identity c.reading.now, ∀ d,
        ds.devices.lookup owner = some d → shouldPersistDevice d = false

variable {deviceID : Bytes} {identity : TailscaleIdentity} {protectedIDs : List Bytes}

theorem transient_of_no_conflict (h : linkConflict ds deviceID identity protectedIDs = false)
    {owner : Bytes}
    (hmem : owner ∈ identity.addresses.flatMap ds.indexes.deviceByIPClaims.entriesAt)
    (howner : owner ≠ deviceID) : ∃ other, ds.devices.lookup owner = some other ∧
      (!isDurableDevice other && !protectedIDs.contains owner) = true := by
  obtain ⟨address, haddress, hclaims⟩ := List.mem_flatMap.mp hmem
  obtain ⟨other, hother, -⟩ := (ds.mem_claims_iff address owner).mp hclaims
  refine ⟨other, hother, ?_⟩
  unfold linkConflict at h
  rw [Bool.or_eq_false_iff] at h
  have hnone := h.2
  rw [List.any_eq_false] at hnone
  have hnone := hnone address haddress
  rw [Bool.not_eq_true, List.any_eq_false] at hnone
  have hnone := hnone owner hclaims
  simpa [howner, hother] using hnone

theorem dropAliases_claimants (h : linkConflict ds deviceID identity protectedIDs = false)
    (updated : Device) {owners : List Bytes}
    (howners : identity.addresses.flatMap ds.indexes.deviceByIPClaims.entriesAt = owners) :
    ((owners.filter (· ≠ deviceID)).Nodup ∧ ∃ dropped,
      dropAliases deviceID protectedIDs owners (ds.devices.insert deviceID updated) = .ok dropped ∧
        ∀ id, dropped.lookup id = if id ∈ owners.filter (· ≠ deviceID) then none
          else (ds.devices.insert deviceID updated).lookup id) ∨
    ¬ (owners.filter (· ≠ deviceID)).Nodup ∧ ∃ left,
      dropAliases deviceID protectedIDs owners (ds.devices.insert deviceID updated) =
        .error left := by
  subst howners
  have hpresent : ∀ owner ∈ (identity.addresses.flatMap
      ds.indexes.deviceByIPClaims.entriesAt).filter (· ≠ deviceID),
      owner ∈ ds.devices.insert deviceID updated := by
    intro owner hmem
    obtain ⟨hmem, howner⟩ := List.mem_filter.mp hmem
    obtain ⟨other, hother, -⟩ := transient_of_no_conflict h hmem (by simpa using howner)
    exact (AList.mem_insert _).mpr (.inr (AList.lookup_isSome.mp (by rw [hother]; rfl)))
  rw [← and_iff_left (a := List.Nodup _) hpresent]
  refine dropAliases_cases (fun owner hmem other hother howner => ?_) rfl
  rw [AList.lookup_insert_ne howner] at hother
  obtain ⟨found, hfound, hdrops⟩ := transient_of_no_conflict h hmem howner
  cases hother.symm.trans hfound
  exact hdrops

theorem mirrored_dropped_iff (h : ds.Mirrored) {updated : Device}
    {storage : StorageResult} {others : List Bytes} {dropped : Dict Bytes Device}
    (hid : updated.id = deviceID) (hapart : deviceID ∉ others)
    (hok : (ds.persist updated storage).2 = none) (hspec : ∀ id, dropped.lookup id =
      if id ∈ others then none else (ds.devices.insert deviceID updated).lookup id)
    (hknown : ∀ owner ∈ others, ∃ other, ds.devices.lookup owner = some other) :
    (∀ id, (ds.persist updated storage).1.records.lookup id =
      (dropped.lookup id).bind durableRecord) ↔
    ∀ owner ∈ others, ∀ d, ds.devices.lookup owner = some d → shouldPersistDevice d = false := by
  have hrecords := lookup_persist h.attached hok
  rw [hid] at hrecords
  constructor
  · intro hmirrored owner hmem d hd
    have hother : owner ≠ deviceID := by
      rintro rfl
      exact hapart hmem
    have hnone := hmirrored owner
    rw [hrecords, if_neg hother, h.recorded, hd, hspec, if_pos hmem] at hnone
    by_contra hworth
    simp [durableRecord, hworth] at hnone
  · intro hworthless id
    rw [hrecords, hspec]
    by_cases hmem : id ∈ others
    · have hother : id ≠ deviceID := by
        rintro rfl
        exact hapart hmem
      obtain ⟨other, hlookup⟩ := hknown id hmem
      rw [if_neg hother, if_pos hmem, h.recorded, hlookup]
      simp [durableRecord, hworthless id hmem other hlookup]
    · rw [if_neg hmem]
      by_cases hself : id = deviceID
      · rw [if_pos hself, hself, AList.lookup_insert]
        rfl
      · rw [if_neg hself, AList.lookup_insert_ne hself, h.recorded]

variable {c : Circumstances}

theorem Mirrored.dropped_iff (h : ds.Mirrored) {updated : Device} {node : TailscaleIdentity}
    (hid : updated.id = deviceID) (hnode : identity.prepared c.reading.now = node)
    (hconflict : linkConflict ds deviceID node protectedIDs = false)
    (hok : (ds.persist updated c.storage).2 = none) :
    (∃ dropped, dropAliases deviceID protectedIDs
        (node.addresses.flatMap ds.indexes.deviceByIPClaims.entriesAt)
        (ds.devices.insert deviceID updated) = .ok dropped ∧
      ∀ id, (ds.persist updated c.storage).1.records.lookup id =
        (dropped.lookup id).bind durableRecord) ↔
    (ds.otherClaimants deviceID identity c.reading.now).Nodup ∧
      ∀ owner ∈ ds.otherClaimants deviceID identity c.reading.now, ∀ d,
        ds.devices.lookup owner = some d → shouldPersistDevice d = false := by
  subst hnode
  have hmem_other {owner : Bytes} : owner ∈ ds.otherClaimants deviceID identity c.reading.now ↔
      owner ∈ (identity.prepared c.reading.now).addresses.flatMap
        ds.indexes.deviceByIPClaims.entriesAt ∧ owner ≠ deviceID := by
    simp [otherClaimants]
  rcases dropAliases_claimants hconflict updated rfl with
    ⟨hnodup, dropped, hdropped, hspec⟩ | ⟨hshared, left, hleft⟩
  · have hiff := mirrored_dropped_iff h hid (fun hmem => (hmem_other.mp hmem).2 rfl) hok hspec
      fun owner hmem => by
        obtain ⟨other, hother, -⟩ := transient_of_no_conflict hconflict (hmem_other.mp hmem).1
          (hmem_other.mp hmem).2
        exact ⟨other, hother⟩
    rw [hdropped]
    constructor
    · rintro ⟨same, ⟨⟩, hrecords⟩
      exact ⟨hnodup, hiff.mp hrecords⟩
    · exact fun hspares => ⟨dropped, rfl, hiff.mpr hspares.2⟩
  · rw [hleft]
    constructor
    · rintro ⟨dropped, ⟨⟩, -⟩
    · exact fun hspares => absurd hspares.1 hshared

theorem Mirrored.link_agrees_iff (h : ds.Mirrored) (deviceID : Bytes)
    (identity : TailscaleIdentity) (protectedIDs : List Bytes) (hstorage : c.storage ≠ .uncertain) :
    (∃ result, linkResult (linkTailscaleIdentityProtected ds deviceID identity protectedIDs c) =
      .ok result ∧ ds.Agrees result) ↔ ds.LinkSpares deviceID identity protectedIDs c := by
  unfold LinkSpares
  generalize hlink : linkResult (linkTailscaleIdentityProtected ds deviceID identity protectedIDs c)
    = link
  generalize hnode : identity.prepared c.reading.now = node
  rcases linkResult_cases hnode hlink with
    ⟨hcarried, err, after, rfl, hsame⟩ | ⟨hcarried, hconflict, known, hlookup, hok, hdropped⟩
  · have hafter : after = ds := by
      rcases hsame with rfl | ⟨known, persisted, -, herr, rfl⟩
      · rfl
      · exact persist_error hstorage herr
    rw [hafter]
    exact iff_of_true ⟨_, rfl, h.agrees err⟩ fun hagain => absurd hagain hcarried
  · have hid : (known.linkedTo node).id = deviceID := by
      rw [id_linkedTo]
      exact (ds.identified hlookup).1
    rw [imp_iff_right hcarried, ← h.dropped_iff hid hnode hconflict hok]
    split at hdropped
    · next left hleft =>
      subst hdropped
      rw [hleft]
      constructor
      · rintro ⟨result, ⟨⟩, -⟩
      · rintro ⟨dropped, ⟨⟩, -⟩
    · next devices hdevices =>
      obtain ⟨after, rfl, rfl, hpersistence⟩ := hdropped
      have hrecords : after.records = (ds.persist (known.linkedTo node) c.storage).1.records := by
        unfold records
        rw [hpersistence]
      rw [hdevices]
      constructor
      · rintro ⟨result, ⟨⟩, hagrees⟩
        exact ⟨_, rfl, hrecords ▸ hagrees.mirrored.recorded⟩
      · rintro ⟨_, ⟨⟩, hmirrored⟩
        refine ⟨_, rfl, ⟨?_, hrecords ▸ hmirrored⟩, fun hnone => absurd rfl hnone⟩
        rw [hpersistence]
        exact attached_persist _ _ h.attached

end DeviceStore

end GateSentry.Discovery
