import GateSentry.Backup.Rollback
import GateSentry.Discovery.Persistence
import GateSentry.Policy.Stored

/-!
# Starting from a restored archive

What the next start asks of the two maps: the schema of the settings, the device assignments,
and the policy, exception and pause documents.
-/

namespace GateSentry.Backup

open Foundation ByteText Calendar Json Storage
open Discovery (TailscaleIdentity DeviceAssignments StoredText decodeDeviceAssignments
  deviceAssignmentsVersion normalizeNodeID recordError nodeClaims sharedNodeError)
open Policy (documentVersion grantDocumentVersion)

/-! ## The schema of the settings -/

def currentSettingsSchema : Int := 1

inductive MigrateError where
  | parseSchema (raw : Bytes)
  | negativeSchema (version : Int)
  | newerSchema (version : Int)
  deriving DecidableEq

/-- What `MigrateSettings` refuses.  No migration is registered: it writes no other key than that
of the schema. -/
def readSchema (values : Values) : Except MigrateError Int :=
  let rawVersion := (values.lookup settingsSchemaKey).getD []
  if rawVersion.isEmpty then .ok 0
  else
    match parseInt rawVersion with
    | none => .error (.parseSchema rawVersion)
    | some current =>
      if current < 0 then .error (.negativeSchema current)
      else if current > currentSettingsSchema then .error (.newerSchema current)
      else .ok current

/-! ## Device assignments -/

variable (parseTime : Bytes → Option Time)

def decodeStrings : Decoder (List Bytes) := decodeSlice decodeString []

def identityFields : List (Bytes × Decoder TailscaleIdentity) :=
  [field "node_id" decodeString (·.nodeID) fun v t => { t with nodeID := v },
    field "name" decodeString (·.name) fun v t => { t with name := v },
    field "dns_name" decodeString (·.dnsName) fun v t => { t with dnsName := v },
    field "addresses" decodeStrings (·.addresses) fun v t => { t with addresses := v },
    field "online" decodeBool (·.online) fun v t => { t with online := v },
    field "last_seen" (decodeLiteral parseTime) (·.lastSeen) fun v t => { t with lastSeen := v },
    field "wol_macs" decodeStrings (·.wolMACs) fun v t => { t with wolMACs := v }]

def recordFields : List (Bytes × Decoder Discovery.DeviceAssignment) :=
  [field "id" decodeString (·.id) fun v d => { d with id := v },
    field "dns_name" decodeString (·.dnsName) fun v d => { d with dnsName := v },
    field "manual_name" decodeString (·.manualName) fun v d => { d with manualName := v },
    field "owner" decodeString (·.owner) fun v d => { d with owner := v },
    field "category" decodeString (·.category) fun v d => { d with category := v },
    field "hostnames" decodeStrings (·.hostnames) fun v d => { d with hostnames := v },
    field "mdns_names" decodeStrings (·.mdnsNames) fun v d => { d with mdnsNames := v },
    field "macs" decodeStrings (·.macs) fun v d => { d with macs := v },
    field "first_seen" (decodeLiteral parseTime) (·.firstSeen) fun v d => { d with firstSeen := v },
    field "persistent" decodeBool (·.persistent) fun v d => { d with persistent := v },
    field "tailscale_nodes" (decodeSlice (decodeStruct (identityFields parseTime)) {})
      (·.tailscaleNodes) fun v d => { d with tailscaleNodes := v }]

def zeroRecord : Discovery.DeviceAssignment where
  id := []
  dnsName := []
  manualName := []
  owner := []
  category := []
  hostnames := []
  mdnsNames := []
  macs := []
  firstSeen := zeroTime
  persistent := false
  tailscaleNodes := []

def documentFields : List (Bytes × Decoder DeviceAssignments) :=
  [field "version" decodeInt (·.version) fun v d => { d with version := v },
    field "assignments" (decodeMap (decodeStruct (recordFields parseTime)) zeroRecord)
      (·.assignments) fun v d => { d with assignments := v }]

def unmarshalAssignments (current : Bytes) : Option DeviceAssignments :=
  unmarshal (decodeStruct (documentFields parseTime)) current
    { version := deviceAssignmentsVersion, assignments := some ∅ }

def storedText (current : Bytes) : StoredText :=
  if current.isEmpty then .empty
  else
    match unmarshalAssignments parseTime current with
    | none => .malformed
    | some document => .encoded document

/-! ## Documents of the policy service -/

section Documents

variable {σ α : Type}

def typed (name : String) (decode : Decoder α) (zero : α) : Bytes × Decoder σ :=
  field name decode (fun _ => zero) fun _ state => state

def texts (names : List String) : List (Bytes × Decoder σ) :=
  names.map fun name => typed name decodeString []

def textLists (names : List String) : List (Bytes × Decoder σ) :=
  names.map fun name => typed name decodeStrings []

def times (names : List String) : List (Bytes × Decoder σ) :=
  names.map fun name => typed name (decodeLiteral parseTime) zeroTime

abbrev Typed := List (Bytes × Decoder Unit)

def structOf (name : String) (fields : Typed) : Bytes × Decoder σ :=
  typed name (decodeStruct fields) ()

def listOf (name : String) (fields : Typed) : Bytes × Decoder σ :=
  typed name (decodeSlice (decodeStruct fields) ()) []

def pointerTo (name : String) (fields : Typed) : Bytes × Decoder σ :=
  typed name (decodePointer (decodeStruct fields) ()) none

def timeWindow : Typed := texts ["from", "to"]

def schedule : Typed :=
  texts ["timezone", "preset"] ++
    [typed "weekdays" (decodeSlice decodeInt 0) [], listOf "windows" timeWindow]

def ruleTarget : Typed :=
  typed "all_traffic" decodeBool false :: textLists ["domains", "categories"]

def groupRule : Typed :=
  texts ["id", "name", "action"] ++ textLists ["url_regexes", "blocked_content_types", "users"] ++
    [typed "enabled" decodeBool false, structOf "target" ruleTarget, pointerTo "schedule" schedule]

def policyGroup : Typed :=
  texts ["id", "name", "description"] ++
    textLists ["blocked_categories", "blocked_domains", "allowed_domains", "users"] ++
    times parseTime ["created_at", "updated_at"] ++
    [listOf "rules" groupRule, typed "safe_search" decodeBool false, typed "priority" decodeInt 0]

def deviceAssignment : Typed :=
  texts ["device_id", "group_id"] ++ times parseTime ["assigned_at"]

def ruleV1 : Typed :=
  texts ["id", "name", "action", "mitm_action"] ++
    textLists ["url_regexes", "blocked_content_types", "users"] ++
    [typed "enabled" decodeBool false, typed "priority" decodeInt 0,
      pointerTo "schedule" schedule]

def groupV1 : Typed :=
  texts ["id", "name", "description", "action"] ++ textLists ["domains", "categories", "users"] ++
    times parseTime ["created_at", "updated_at"] ++
    [listOf "rules" ruleV1, typed "priority" decodeInt 0, pointerTo "schedule" schedule]

def documentV1 : Typed :=
  texts ["migrated_from"] ++ times parseTime ["updated_at"] ++
    [listOf "groups" (groupV1 parseTime), listOf "assignments" (deviceAssignment parseTime)]

def policyDocument : Typed :=
  texts ["migrated_from"] ++ times parseTime ["updated_at"] ++
    [listOf "groups" (policyGroup parseTime), listOf "assignments" (deviceAssignment parseTime)]

def grantFields : Typed :=
  texts ["id", "scope", "device_id", "group_id", "created_by", "reason", "revoked_by"] ++
    times parseTime ["created_at"] ++
    [typed "active" decodeBool false,
      typed "revoked_at" (decodePointer (decodeLiteral parseTime) zeroTime) none]

def exceptionFields : Typed :=
  texts ["domain"] ++ times parseTime ["expires_at"] ++ grantFields parseTime

def pauseFields : Typed := times parseTime ["until"] ++ grantFields parseTime

def exceptionDocument : Typed :=
  listOf "exceptions" (exceptionFields parseTime) :: times parseTime ["updated_at"]

def pauseDocument : Typed :=
  listOf "pauses" (pauseFields parseTime) :: times parseTime ["updated_at"]

def versionField : Decoder Int := decodeStruct [(utf8 "version", decodeInt)]

def fits (fields : Typed) (raw : Bytes) : Bool :=
  (unmarshal (decodeStruct fields) raw ()).isSome

def decodeDocument (raw : Bytes) : Except Policy.ReadError Unit :=
  if (trimSpace raw).isEmpty then .ok ()
  else
    match unmarshal versionField raw 0 with
    | none => .error .parse
    | some version =>
      if version = 1 then
        if fits (documentV1 parseTime) raw then .ok () else .error .parse
      else if version = documentVersion then
        if fits (policyDocument parseTime) raw then .ok () else .error .parse
      else .error (.unsupportedVersion version)

def decodeGrantDocument (fields : Typed) (raw : Bytes) : Except Policy.ReadError Unit :=
  if raw.isEmpty then .ok ()
  else
    match unmarshal versionField raw 0 with
    | none => .error .parse
    | some version =>
      if !fits fields raw then .error .parse
      else if version ≠ grantDocumentVersion then .error (.unsupportedVersion version)
      else .ok ()

end Documents

/-! ## The start -/

inductive StartError where
  | settings (err : MigrateError)
  | policy (err : Policy.ReadError)
  | exceptions (err : Policy.ReadError)
  | pauses (err : Policy.ReadError)
  | devices (err : Discovery.DecodeError)
  deriving DecidableEq

def policyKey : Bytes := utf8 "policy_groups"
def exceptionKey : Bytes := utf8 "policy_exceptions"
def pauseKey : Bytes := utf8 "policy_pauses"

def valueOf (values : Values) (key : Bytes) : Bytes := (values.lookup key).getD []

def start (settings devices : Values) : Except StartError Unit := do
  let _ ← (readSchema settings).mapError .settings
  (decodeDocument parseTime (valueOf settings policyKey)).mapError .policy
  (decodeGrantDocument (exceptionDocument parseTime)
    (valueOf settings exceptionKey)).mapError .exceptions
  (decodeGrantDocument (pauseDocument parseTime) (valueOf settings pauseKey)).mapError .pauses
  let _ ← (decodeDeviceAssignments (storedText parseTime
    (valueOf devices deviceAssignmentsKey))).mapError .devices

/-! ## Documents as JSON -/

/-- The text is JSON that says its version, and the types of its fields are right. -/
def IsDocument (version : Int) (fields : Typed) (raw : Bytes) : Prop :=
  ∃ value, parse raw = some value ∧ versionField.Fits value ∧
    ((numbersOf (utf8 "version") value).getLast?).getD 0 = version ∧
    (decodeStruct fields).Fits value

theorem isDocument_iff {version : Int} {fields : Typed} {raw : Bytes} :
    IsDocument version fields raw ↔
      unmarshal versionField raw 0 = some version ∧ fits fields raw = true := by
  unfold IsDocument fits unmarshal
  cases parse raw with
  | none => simp
  | some value =>
    simp only [Option.some.injEq, exists_eq_left', Option.bind_some, Decoder.isSome_decode]
    constructor
    · rintro ⟨hversion, rfl, hfields⟩
      exact ⟨decode_number hversion, hfields⟩
    · rintro ⟨hversion, hfields⟩
      have hfits : versionField.Fits value :=
        (versionField.isSome_decode value 0).mp (Option.isSome_of_eq_some hversion)
      exact ⟨hfits, Option.some.inj ((decode_number hfits).symm.trans hversion), hfields⟩

theorem decodeDocument_ok_iff (raw : Bytes) : decodeDocument parseTime raw = .ok () ↔
    trimSpace raw = [] ∨ IsDocument 1 (documentV1 parseTime) raw ∨
      IsDocument documentVersion (policyDocument parseTime) raw := by
  rw [isDocument_iff, isDocument_iff, ← List.isEmpty_iff]
  unfold decodeDocument
  split
  · next hempty => simp [hempty]
  · next hempty =>
    split
    · next hversion => simp [hempty, hversion]
    · next version hversion =>
      rw [hversion]
      by_cases hfirst : version = 1
      · simp [hempty, hfirst, documentVersion]
      · by_cases hcurrent : version = documentVersion
        · simp [hempty, hcurrent, documentVersion]
        · simp [hempty, hfirst, hcurrent]

theorem decodeGrantDocument_ok_iff (fields : Typed) (raw : Bytes) :
    decodeGrantDocument fields raw = .ok () ↔
      raw = [] ∨ IsDocument grantDocumentVersion fields raw := by
  rw [isDocument_iff, ← List.isEmpty_iff]
  unfold decodeGrantDocument
  split
  · next hempty => simp [hempty]
  · next hempty =>
    split
    · next hversion => simp [hempty, hversion]
    · next version hversion =>
      cases hfits : fits fields raw <;>
        by_cases hcurrent : version = grantDocumentVersion <;> simp [hempty, hversion, hcurrent]

/-! ## Device records -/

def Keyed (records : Dict Bytes Discovery.DeviceAssignment) : Prop :=
  ∀ id record, records.lookup id = some record → id ≠ [] ∧ record.id = id

def Owned (records : Dict Bytes Discovery.DeviceAssignment) : Prop :=
  ∀ id record id' record', records.lookup id = some record → records.lookup id' = some record' →
    ∀ node ∈ record.tailscaleNodes, ∀ node' ∈ record'.tailscaleNodes,
      normalizeNodeID node.nodeID = normalizeNodeID node'.nodeID →
      normalizeNodeID node.nodeID ≠ [] → id = id'

structure RecordsSound (document : DeviceAssignments) : Prop where
  keyed : Keyed (document.assignments.getD ∅)
  owned : document.version = deviceAssignmentsVersion → Owned (document.assignments.getD ∅)

theorem sharedNodeError_eq_none_iff (claims : List (Bytes × Bytes)) (owners : Dict Bytes Bytes) :
    sharedNodeError claims owners = none ↔
      (∀ claim ∈ claims, ∀ owner, owners.lookup claim.1 = some owner → owner = claim.2) ∧
        ∀ claim ∈ claims, ∀ other ∈ claims, claim.1 = other.1 → claim.2 = other.2 := by
  induction claims generalizing owners with
  | nil => simp [sharedNodeError]
  | cons claim rest ih =>
    obtain ⟨node, device⟩ := claim
    have hinsert (key : Bytes) : (owners.insert node device).lookup key =
        if key = node then some device else owners.lookup key := by
      split
      · next hkey => rw [hkey, AList.lookup_insert]
      · next hkey => rw [AList.lookup_insert_ne hkey]
    unfold sharedNodeError
    cases howner : owners.lookup node with
    | none =>
      simp only [List.forall_mem_cons]
      grind
    | some owner =>
      simp only [List.forall_mem_cons]
      by_cases hsame : owner = device
      · grind
      · grind

theorem mem_nodeClaims {assignments : Dict Bytes Discovery.DeviceAssignment}
    {claim : Bytes × Bytes} :
    claim ∈ nodeClaims assignments ↔ ∃ record, assignments.lookup claim.2 = some record ∧
      ∃ node ∈ record.tailscaleNodes, normalizeNodeID node.nodeID = claim.1 ∧ claim.1 ≠ [] := by
  unfold nodeClaims
  simp only [List.mem_flatMap, List.mem_map, List.mem_filter]
  constructor
  · rintro ⟨⟨id, record⟩, hentry, node, ⟨⟨identity, hidentity, rfl⟩, hnonempty⟩, rfl⟩
    refine ⟨record, AList.mem_lookup_iff.mpr hentry, identity, hidentity, rfl, ?_⟩
    intro hempty
    dsimp only at hempty
    rw [hempty] at hnonempty
    cases hnonempty
  · rintro ⟨record, hrecord, identity, hidentity, hnode, hnonempty⟩
    refine ⟨⟨claim.2, record⟩, AList.mem_lookup_iff.mp hrecord, claim.1,
      ⟨⟨identity, hidentity, hnode⟩, ?_⟩, rfl⟩
    cases hclaim : claim.1 with
    | nil => exact absurd hclaim hnonempty
    | cons first rest => rfl

theorem recordError_eq_none_iff (id : Bytes) (record : Discovery.DeviceAssignment) :
    recordError id record = none ↔ id ≠ [] ∧ record.id = id := by
  unfold recordError
  cases id with
  | nil | cons => simp

variable {records : Dict Bytes Discovery.DeviceAssignment}

theorem recordErrors_eq_none_iff :
    records.entries.findSome? (fun entry => recordError entry.1 entry.2) = none ↔
      Keyed records := by
  rw [List.findSome?_eq_none_iff]
  constructor
  · intro h id record hrecord
    exact (recordError_eq_none_iff id record).mp (h _ (AList.mem_lookup_iff.mp hrecord))
  · intro h entry hentry
    exact (recordError_eq_none_iff _ _).mpr (h _ _ (AList.mem_lookup_iff.mpr hentry))

theorem nodeErrors_eq_none_iff :
    sharedNodeError (nodeClaims records) ∅ = none ↔ Owned records := by
  rw [sharedNodeError_eq_none_iff]
  constructor
  · intro h id record id' record' hrecord hrecord' node hnode node' hnode' heq hnonempty
    refine h.2 (normalizeNodeID node.nodeID, id) ?_ (normalizeNodeID node.nodeID, id') ?_ rfl
    · exact mem_nodeClaims.mpr ⟨record, hrecord, node, hnode, rfl, hnonempty⟩
    · exact mem_nodeClaims.mpr ⟨record', hrecord', node', hnode', heq.symm, hnonempty⟩
  · intro h
    refine ⟨fun claim _ owner howner => ?_, fun claim hclaim other hother heq => ?_⟩
    · cases howner
    · obtain ⟨record, hrecord, node, hnode, hname, hnonempty⟩ := mem_nodeClaims.mp hclaim
      obtain ⟨record', hrecord', node', hnode', hname', _⟩ := mem_nodeClaims.mp hother
      apply h _ record _ record' hrecord hrecord' node hnode node' hnode'
      · rw [hname, hname', heq]
      · rw [hname]
        exact hnonempty

variable {document : DeviceAssignments}

theorem decodeDeviceAssignments_ok_iff
    (hversion : document.version = 1 ∨ document.version = deviceAssignmentsVersion)
    (hassignments : document.assignments.isSome = true) :
    (∃ records, decodeDeviceAssignments (.encoded document) = .ok records) ↔
      RecordsSound document := by
  obtain ⟨version, assignments⟩ := document
  obtain ⟨records, rfl⟩ := Option.isSome_iff_exists.mp hassignments
  have hsupported : ¬ (version ≠ 1 ∧ version ≠ deviceAssignmentsVersion) := by
    rintro ⟨hfirst, hsecond⟩
    exact hversion.elim hfirst hsecond
  simp only [decodeDeviceAssignments, if_neg hsupported]
  constructor
  · rintro ⟨records, hrecords⟩
    split at hrecords
    · cases hrecords
    · cases hrecords
    · next hkeyed hshared =>
      refine ⟨recordErrors_eq_none_iff.mp hkeyed, fun hcurrent => ?_⟩
      rw [if_pos hcurrent] at hshared
      exact nodeErrors_eq_none_iff.mp hshared
  · intro hsound
    have hkeyed : Keyed records := hsound.keyed
    rw [recordErrors_eq_none_iff.mpr hkeyed]
    by_cases hcurrent : version = deviceAssignmentsVersion
    · have howned : Owned records := hsound.owned hcurrent
      rw [if_pos hcurrent, nodeErrors_eq_none_iff.mpr howned]
      exact ⟨_, rfl⟩
    · rw [if_neg hcurrent]
      exact ⟨_, rfl⟩

/-! ## What validation says about the records -/

/-- The two readers of one document agree: on the version, unless the last one is null, and on
the assignments, if the last one is an object. -/
def Agrees (probe : AssignmentsProbe) (document : DeviceAssignments) : Prop :=
  (∀ version, probe.version = some version → document.version = version) ∧
    ∀ members, probe.assignments = some (.object members) → document.assignments.isSome = true

theorem agree_documentFields :
    List.Forall₂ (FieldsAgree Agrees) probeFields (documentFields parseTime) := by
  refine .cons ⟨rfl, ?_⟩ (.cons ⟨rfl, ?_⟩ .nil)
  · intro item probe document probe' document' hagrees hprobe hdocument
    obtain ⟨version, hversion, rfl⟩ := Option.map_eq_some_iff.mp hprobe
    obtain ⟨read, hread, rfl⟩ := Option.map_eq_some_iff.mp hdocument
    refine ⟨fun n hn => ?_, hagrees.2⟩
    cases hn
    cases item with
    | null => cases hversion
    | number literal =>
      obtain ⟨n, hn, heq⟩ := Option.map_eq_some_iff.mp hversion
      cases heq
      exact Option.some.inj (hread.symm.trans hn)
    | bool | string | array | object => cases hread
  · intro item probe document probe' document' hagrees hprobe hdocument
    obtain ⟨records, hrecords, rfl⟩ := Option.map_eq_some_iff.mp hdocument
    cases hprobe
    refine ⟨hagrees.1, fun members hmembers => ?_⟩
    cases hmembers
    obtain ⟨dict, _, rfl⟩ := Option.map_eq_some_iff.mp hrecords
    rfl

theorem object_of_decodeMap {value : Json} {dict : Dict Bytes (Option Json)}
    (h : decodeMap decodeRaw none value none = some (some dict)) :
    ∃ members, value = .object members := by
  cases value with
  | object members => exact ⟨members, rfl⟩
  | null | bool | number | string | array => cases h

variable {raw : Bytes}

theorem supported_of_validate (hvalid : validateDeviceAssignmentsVersion raw = .ok ())
    (hdocument : unmarshalAssignments parseTime raw = some document) :
    (document.version = 1 ∨ document.version = deviceAssignmentsVersion) ∧
      document.assignments.isSome = true := by
  obtain ⟨value, hvalue, hdocument⟩ := Option.bind_eq_some_iff.mp hdocument
  unfold validateDeviceAssignmentsVersion unmarshal at hvalid
  rw [hvalue, Option.bind_some] at hvalid
  cases hprobe : decodeStruct probeFields value {} with
  | none =>
    rw [hprobe] at hvalid
    cases hvalid
  | some probe =>
    have hstart : Agrees {} { version := deviceAssignmentsVersion, assignments := some ∅ } := by
      refine ⟨fun version hversion => ?_, fun members hmembers => ?_⟩
      · cases hversion
      · cases hmembers
    have hagrees := decodeStruct_related (agree_documentFields parseTime) hstart hprobe hdocument
    rw [hprobe] at hvalid
    dsimp only at hvalid
    split at hvalid
    · cases hvalid
    · next version hversion =>
      split at hvalid
      · cases hvalid
      · next hrange =>
        split at hvalid
        · cases hvalid
        · next assignments hassignments =>
          split at hvalid
          · next hobject =>
            obtain ⟨members, rfl⟩ := object_of_decodeMap hobject
            refine ⟨?_, hagrees.2 members hassignments⟩
            rw [hagrees.1 version hversion]
            unfold maxDeviceAssignmentsVersion at hrange
            unfold deviceAssignmentsVersion
            omega
          · cases hvalid

theorem decodeAssignments_ok_iff (hraw : raw ≠ [])
    (hvalid : validateDeviceAssignmentsVersion raw = .ok ()) :
    (∃ records, decodeDeviceAssignments (storedText parseTime raw) = .ok records) ↔
      (∃ value, parse raw = some value ∧
        (decodeStruct (documentFields parseTime)).Fits value) ∧
      ∀ document, unmarshalAssignments parseTime raw = some document → RecordsSound document := by
  unfold storedText
  rw [if_neg (by simpa using hraw), ← isSome_unmarshal]
  cases hdocument : unmarshalAssignments parseTime raw with
  | none =>
    unfold unmarshalAssignments at hdocument
    rw [hdocument]
    constructor
    · rintro ⟨records, hrecords⟩
      cases hrecords
    · rintro ⟨hsome, -⟩
      cases hsome
  | some document =>
    obtain ⟨hversion, hassignments⟩ := supported_of_validate parseTime hvalid hdocument
    have hsome := Option.isSome_of_eq_some hdocument
    rw [decodeDeviceAssignments_ok_iff hversion hassignments]
    constructor
    · intro hsound
      refine ⟨hsome, fun _ heq => ?_⟩
      cases heq
      exact hsound
    · rintro ⟨-, hsound⟩
      exact hsound document rfl

/-! ## What a start asks -/

theorem start_ok_iff (settings devices : Values) : start parseTime settings devices = .ok () ↔
      (∃ current, readSchema settings = .ok current) ∧
      decodeDocument parseTime (valueOf settings policyKey) = .ok () ∧
      decodeGrantDocument (exceptionDocument parseTime) (valueOf settings exceptionKey) = .ok () ∧
      decodeGrantDocument (pauseDocument parseTime) (valueOf settings pauseKey) = .ok () ∧
      ∃ records, decodeDeviceAssignments (storedText parseTime
        (valueOf devices deviceAssignmentsKey)) = .ok records := by
  simp only [start, mapError_bind_ok_iff]
  constructor
  · rintro ⟨current, hschema, _, hdocument, _, hexceptions, _, hpauses, records, hrecords, _⟩
    exact ⟨⟨current, hschema⟩, hdocument, hexceptions, hpauses, records, hrecords⟩
  · rintro ⟨⟨current, hschema⟩, hdocument, hexceptions, hpauses, records, hrecords⟩
    exact ⟨current, hschema, (), hdocument, (), hexceptions, (), hpauses, records, hrecords, rfl⟩

/-- The schema of the settings is not negative, the policy, the exceptions and the pauses are empty
or JSON of a version and types that are known, and so are the devices, whose records are sound. -/
structure Startable (archive : Archive) : Prop where
  schema : ∀ version, parseInt (valueOf (archive.settings.getD ∅) settingsSchemaKey) =
    some version → 0 ≤ version
  policy : trimSpace (valueOf (archive.settings.getD ∅) policyKey) = [] ∨
    IsDocument 1 (documentV1 parseTime) (valueOf (archive.settings.getD ∅) policyKey) ∨
    IsDocument documentVersion (policyDocument parseTime)
      (valueOf (archive.settings.getD ∅) policyKey)
  exceptions : valueOf (archive.settings.getD ∅) exceptionKey = [] ∨
    IsDocument grantDocumentVersion (exceptionDocument parseTime)
      (valueOf (archive.settings.getD ∅) exceptionKey)
  pauses : valueOf (archive.settings.getD ∅) pauseKey = [] ∨
    IsDocument grantDocumentVersion (pauseDocument parseTime)
      (valueOf (archive.settings.getD ∅) pauseKey)
  devices : ∃ value, parse (valueOf (archive.devices.getD ∅) deviceAssignmentsKey) = some value ∧
    (decodeStruct (documentFields parseTime)).Fits value
  records : ∀ document, unmarshalAssignments parseTime
    (valueOf (archive.devices.getD ∅) deviceAssignmentsKey) = some document → RecordsSound document

theorem readSchema_ok_iff {settings : Values} (h : checkSchema settings = .ok ()) :
    (∃ current, readSchema settings = .ok current) ↔
      ∀ version, parseInt (valueOf settings settingsSchemaKey) = some version → 0 ≤ version := by
  unfold checkSchema at h
  unfold readSchema valueOf
  dsimp only at h ⊢
  split at h
  · cases h
  · next hraw =>
    rw [if_neg hraw]
    split at h
    · cases h
    · next version hversion =>
      split at h
      · cases h
      · next hsupported =>
        simp only [hversion, Option.some.injEq, forall_eq']
        rw [maxSettingsSchemaVersion, ← currentSettingsSchema] at hsupported
        by_cases hnegative : version < 0
        · rw [if_pos hnegative]
          constructor
          · rintro ⟨current, hcurrent⟩
            cases hcurrent
          · intro hpositive
            exact absurd hnegative (by omega)
        · rw [if_neg hnegative, if_neg hsupported]
          exact ⟨fun _ => by omega, fun _ => ⟨version, rfl⟩⟩

theorem start_archive_iff {data : Bytes} {archive : Archive}
    (hvalid : validateArchive parseTime data = .ok archive) :
    start parseTime (archive.settings.getD ∅) (archive.devices.getD ∅) = .ok () ↔
      Startable parseTime archive := by
  have hchecked := checked_of_validateArchive hvalid
  have hassignments := hchecked.assignments
  unfold checkAssignments at hassignments
  dsimp only at hassignments
  split at hassignments
  · cases hassignments
  · next hraw =>
    have hnonempty : valueOf (archive.devices.getD ∅) deviceAssignmentsKey ≠ [] := by
      intro hempty
      unfold valueOf at hempty
      rw [hempty] at hraw
      exact hraw rfl
    split at hassignments
    · cases hassignments
    · next hversion =>
      rw [start_ok_iff, readSchema_ok_iff hchecked.schema, decodeDocument_ok_iff,
        decodeGrantDocument_ok_iff, decodeGrantDocument_ok_iff,
        decodeAssignments_ok_iff parseTime hnonempty hversion]
      constructor
      · rintro ⟨hschema, hpolicy, hexceptions, hpauses, hdevices, hrecords⟩
        exact ⟨hschema, hpolicy, hexceptions, hpauses, hdevices, hrecords⟩
      · intro h
        exact ⟨h.schema, h.policy, h.exceptions, h.pauses, h.devices, h.records⟩

theorem start_congr {settings settings' devices devices' : Values}
    (hsettings : SameValues settings settings') (hdevices : SameValues devices devices') :
    start parseTime settings devices = .ok () ↔ start parseTime settings' devices' = .ok () := by
  have hsettingsOf (key : Bytes) : valueOf settings key = valueOf settings' key := by
    rw [valueOf, hsettings key, valueOf]
  have hdevicesOf (key : Bytes) : valueOf devices key = valueOf devices' key := by
    rw [valueOf, hdevices key, valueOf]
  have hschema : readSchema settings = readSchema settings' := by
    unfold readSchema
    rw [hsettings settingsSchemaKey]
  rw [start_ok_iff, start_ok_iff, hschema, hsettingsOf, hsettingsOf, hsettingsOf, hdevicesOf]

/-! ## Restored maps -/

section Restored

variable {c : Cipher} {location : KeyLocation} {settings devices settings' devices' : Store}
  {disk disk' : Disk} {oldSettings oldDevices : Values}

/-- After a restore that succeeds the files can be read, and the next start accepts them,
exactly if the archive can be started from. -/
theorem restored_archive_starts_iff (hsound : c.Sound)
    (hsettings : Held c location settings disk oldSettings)
    (hdevices : Held c location devices disk oldDevices) (hapart : settings.path ≠ devices.path)
    (recoveryDir data : Bytes) (answers : Nat → Answer) {archive : Archive}
    (hvalid : validateArchive parseTime data = .ok archive) {result : RestoreResult}
    (hrun : (restoreBackup c location parseTime recoveryDir data settings devices).drive answers
      disk = (disk', settings', devices', .ok result)) :
    ∃ restoredSettings restoredDevices,
      (settings'.fileData c location disk').bind parseMap = some restoredSettings ∧
      (devices'.fileData c location disk').bind parseMap = some restoredDevices ∧
      (start parseTime restoredSettings restoredDevices = .ok () ↔
        Startable parseTime archive) := by
  unfold restoreBackup at hrun
  rw [hvalid] at hrun
  have hending := (delivers_restoreArchive hsound hsettings hdevices hapart
    (text_of_validateArchive hvalid) recoveryDir).drive answers fun _ => trivial
  rw [hrun] at hending
  cases hending with
  | restored _ hs hd =>
    obtain ⟨_, settingsData, hsfile, restoredSettings, hsparse, hssame⟩ := hs
    obtain ⟨_, devicesData, hdfile, restoredDevices, hdparse, hdsame⟩ := hd
    refine ⟨restoredSettings, restoredDevices, ?_, ?_, ?_⟩
    · rw [hsfile]
      exact hsparse
    · rw [hdfile]
      exact hdparse
    · rw [start_congr parseTime hssame hdsame]
      exact start_archive_iff parseTime hvalid

end Restored

theorem restored_archive_starts_first : ∃ restoredSettings restoredDevices,
    ((plainRestore "1" 100).2.1.fileData clearCipher unmanagedKey (plainRestore "1" 100).1).bind
      parseMap = some restoredSettings ∧
    ((plainRestore "1" 100).2.2.1.fileData clearCipher unmanagedKey (plainRestore "1" 100).1).bind
      parseMap = some restoredDevices ∧
    start (fun _ => none) restoredSettings restoredDevices = .ok () := by
  have hapart : settingsMap.path ≠ devicesMap.path := by decide +kernel
  have hresult : (plainRestore "1" 100).2.2.2 = .ok ⟨1, 1, utf8 "recovery"⟩ := by
    rw [plainRestore_eq validateArchive_first]
    decide +kernel
  have hstart : start (fun _ => none) ((plainContents "1").settings.getD ∅)
      ((plainContents "1").devices.getD ∅) = .ok () := by decide +kernel
  generalize hrun : plainRestore "1" 100 = run at hresult ⊢
  obtain ⟨disk', settings', devices', result⟩ := run
  unfold plainRestore at hrun
  dsimp only at hresult
  rw [hresult] at hrun
  obtain ⟨restoredSettings, restoredDevices, hs, hd, hstarts⟩ := restored_archive_starts_iff
    (fun _ => none) clearCipher_sound held_settingsMap held_devicesMap hapart _ _ _
    validateArchive_first hrun
  exact ⟨restoredSettings, restoredDevices, hs, hd,
    hstarts.mpr ((start_archive_iff _ validateArchive_first).mp hstart)⟩

theorem validateArchive_negative :
    validateArchive (fun _ => none) (plainArchive "-1") = .ok (plainContents "-1") := by
  decide +kernel

/-- A schema below zero is valid and restored, and refused by the next start. -/
theorem restored_archive_refused :
    validateArchive (fun _ => none) (plainArchive "-1") = .ok (plainContents "-1") ∧
      (plainRestore "-1" 100).2.2.2 = .ok ⟨1, 1, utf8 "recovery"⟩ ∧
      ((settingsMap.fileData clearCipher unmanagedKey (plainRestore "-1" 100).1).bind
        parseMap).map (fun settings => start (fun _ => none) settings
          ((plainContents "-1").devices.getD ∅)) = some (.error (.settings (.negativeSchema (-1)))) := by
  refine ⟨validateArchive_negative, ?_, ?_⟩
  · rw [plainRestore_eq validateArchive_negative]
    decide +kernel
  · rw [plainRestore_eq validateArchive_negative]
    decide +kernel

end GateSentry.Backup
