import GateSentry.Foundation.Json
import GateSentry.Foundation.Calendar
import GateSentry.Storage.Transactions

/-!
# Backup archives

`backup.go`: what is checked of an archive before it is restored, how the two stores are
replaced by it, and the recovery points that restores leave.
-/

namespace GateSentry.Backup

open Foundation ByteText Calendar Json Storage

def backupFormatVersion : Int := 1
def maxSettingsSchemaVersion : Int := 1
def maxDeviceAssignmentsVersion : Int := 2

def settingsSchemaKey : Bytes := utf8 "settings_schema_version"
def deviceAssignmentsKey : Bytes := utf8 "assignments"

/-! ## Validation -/

structure Archive where
  formatVersion : Int := 0
  createdAt : Time := zeroTime
  binaryVersion : Bytes := []
  settings : Option Values := none
  devices : Option Values := none
  installationKey : Bytes := []
  installationKeyManaged : Bool := false
  deriving DecidableEq

def archiveFields (parseTime : Bytes → Option Time) : List (Bytes × Decoder Archive) :=
  [field "format_version" decodeInt (·.formatVersion) fun v a => { a with formatVersion := v },
    field "created_at" (decodeLiteral parseTime) (·.createdAt) fun v a => { a with createdAt := v },
    field "binary_version" decodeString (·.binaryVersion) fun v a => { a with binaryVersion := v },
    field "settings" (decodeMap decodeString []) (·.settings) fun v a => { a with settings := v },
    field "devices" (decodeMap decodeString []) (·.devices) fun v a => { a with devices := v },
    field "installation_key" decodeString (·.installationKey)
      fun v a => { a with installationKey := v },
    field "installation_key_managed" decodeBool (·.installationKeyManaged)
      fun v a => { a with installationKeyManaged := v }]

inductive AssignmentsError where
  | parse
  | missingVersion
  | unsupportedVersion (version : Int)
  | noAssignments
  deriving DecidableEq

structure AssignmentsProbe where
  version : Option Int := none
  assignments : Option Json := none

def probeFields : List (Bytes × Decoder AssignmentsProbe) :=
  [field "version" (decodePointer decodeInt 0) (·.version) fun v p => { p with version := v },
    field "assignments" decodeRaw (·.assignments) fun v p => { p with assignments := v }]

/-- The second reading is of a value that has been read before: its text is not scanned again. -/
def validateDeviceAssignmentsVersion (raw : Bytes) : Except AssignmentsError Unit :=
  match unmarshal (decodeStruct probeFields) raw {} with
  | none => .error .parse
  | some doc =>
    match doc.version with
    | none => .error .missingVersion
    | some version =>
      if version < 1 ∨ version > maxDeviceAssignmentsVersion then
        .error (.unsupportedVersion version)
      else
        match doc.assignments with
        | none => .error .noAssignments
        | some assignments =>
          match decodeMap decodeRaw none assignments none with
          | some (some _) => .ok ()
          | _ => .error .noAssignments

inductive ArchiveError where
  | empty
  | parse
  | missingFormatVersion
  | newerFormat (version : Int)
  | missingSettings
  | missingDevices
  | missingSchema
  | invalidSchema (raw : Bytes)
  | newerSchema (version : Int)
  | missingAssignments
  | assignments (err : AssignmentsError)
  deriving DecidableEq

def checkSchema (settings : Values) : Except ArchiveError Unit :=
  let rawVersion := (settings.lookup settingsSchemaKey).getD []
  if rawVersion.isEmpty then .error .missingSchema
  else
    match parseInt rawVersion with
    | none => .error (.invalidSchema rawVersion)
    | some schemaVersion =>
      if schemaVersion > maxSettingsSchemaVersion then .error (.newerSchema schemaVersion)
      else .ok ()

def checkAssignments (devices : Values) : Except ArchiveError Unit :=
  let assignments := (devices.lookup deviceAssignmentsKey).getD []
  if assignments.isEmpty then .error .missingAssignments
  else
    match validateDeviceAssignmentsVersion assignments with
    | .error err => .error (.assignments err)
    | .ok () => .ok ()

def validateArchive (parseTime : Bytes → Option Time) (data : Bytes) :
    Except ArchiveError Archive :=
  if data.isEmpty then .error .empty
  else
    match unmarshal (decodeStruct (archiveFields parseTime)) data {} with
    | none => .error .parse
    | some archive =>
      if archive.formatVersion = 0 then .error .missingFormatVersion
      else if archive.formatVersion > backupFormatVersion then
        .error (.newerFormat archive.formatVersion)
      else
        match archive.settings, archive.devices with
        | none, _ => .error .missingSettings
        | some _, none => .error .missingDevices
        | some settings, some devices => do
          checkSchema settings
          checkAssignments devices
          return archive

/-! ## Restoring -/

inductive RecoveryError where
  | createDirectory
  | saveSettings
  | saveDevices
  | copyKey
  deriving DecidableEq

inductive RestoreError where
  | archive (err : ArchiveError)
  | snapshotSettings (err : MapError)
  | snapshotDevices (err : MapError)
  | recoveryPoint (err : RecoveryError)
  | writeSettings (err : MapError)
  | writeDevices (err : MapError) (recoveryPoint : Bytes)
  | rollback (err rollbackErr : MapError) (recoveryPoint : Bytes)
  deriving DecidableEq

structure RestoreResult where
  settingsKeys : Nat
  deviceKeys : Nat
  recoveryPoint : Bytes
  deriving DecidableEq

section Restore

variable (c : Cipher) (location : KeyLocation)

def copyFile : Files (Option RecoveryError) := do
  match ← readFile location.path with
  | .error _ => return some .copyKey
  | .ok none => return none
  | .ok (some _) =>
    if !(← attempt) then return some .copyKey
    if !(← attempt) then return some .copyKey
    if !(← attempt) then return some .copyKey
    return none

/-- The files of a recovery point are in a directory of their own, where no store has its
file. -/
def createRecoveryPoint : Files (Option RecoveryError) := do
  if !(← attempt) then return some .createDirectory
  if !(← attempt) then return some .saveSettings
  if !(← attempt) then return some .saveDevices
  copyFile location

def prepare (settings devices : Store) : Files (Store × Store × Except RestoreError Values) := do
  match ← settings.snapshot c location with
  | (settings, .error err) => return (settings, devices, .error (.snapshotSettings err))
  | (settings, .ok currentSettings) =>
    match ← devices.snapshot c location with
    | (devices, .error err) => return (settings, devices, .error (.snapshotDevices err))
    | (devices, .ok _) =>
      match ← createRecoveryPoint location with
      | some err => return (settings, devices, .error (.recoveryPoint err))
      | none => return (settings, devices, .ok currentSettings)

def restoreDevices (recoveryDir : Bytes) (archive : Archive) (currentSettings : Values)
    (settings devices : Store) : Files (Store × Store × Except RestoreError RestoreResult) := do
  match ← devices.update c location (.replaceAll (archive.devices.getD ∅)) with
  | (devices, none) =>
    return (settings, devices, .ok {
      settingsKeys := (archive.settings.getD ∅).keys.length
      deviceKeys := (archive.devices.getD ∅).keys.length
      recoveryPoint := recoveryDir })
  | (devices, some err) =>
    match ← settings.update c location (.replaceAll currentSettings) with
    | (settings, some rollbackErr) =>
      return (settings, devices, .error (.rollback err rollbackErr recoveryDir))
    | (settings, none) => return (settings, devices, .error (.writeDevices err recoveryDir))

def restoreArchive (recoveryDir : Bytes) (archive : Archive) (settings devices : Store) :
    Files (Store × Store × Except RestoreError RestoreResult) := do
  match ← prepare c location settings devices with
  | (settings, devices, .error err) => return (settings, devices, .error err)
  | (settings, devices, .ok currentSettings) =>
    match ← settings.update c location (.replaceAll (archive.settings.getD ∅)) with
    | (settings, some err) => return (settings, devices, .error (.writeSettings err))
    | (settings, none) =>
      restoreDevices c location recoveryDir archive currentSettings settings devices

def restoreBackup (parseTime : Bytes → Option Time) (recoveryDir data : Bytes)
    (settings devices : Store) : Files (Store × Store × Except RestoreError RestoreResult) :=
  match validateArchive parseTime data with
  | .error err => pure (settings, devices, .error (.archive err))
  | .ok archive => restoreArchive c location recoveryDir archive settings devices

end Restore

/-! ## Recovery points -/

/-- A restore of a sequence: the maps that it finds, and the run of its `createRecoveryPoint`.  A
write that fails may spoil its file. -/
structure Restore (map : Type) where
  now : Int
  settings : map
  devices : map
  location : KeyLocation
  answers : Nat → Answer
  disk : Disk
  spoiled : Option map → Option map

namespace Restore

variable {map : Type}

/-- What the format `20060102-150405` shows of the clock, which counts nanoseconds. -/
def timestamp (r : Restore map) : Int := r.now / 1000000000

def outcome (r : Restore map) : Option RecoveryError :=
  ((createRecoveryPoint r.location).drive r.answers r.disk).2

/-- The two files of its directory after the restore. -/
def files (r : Restore map) (dir : Option map × Option map) : Option map × Option map :=
  match r.outcome with
  | some .createDirectory => dir
  | some .saveSettings => (r.spoiled dir.1, dir.2)
  | some .saveDevices => (some r.settings, r.spoiled dir.2)
  | some .copyKey | none => (some r.settings, some r.devices)

/-- The files of every directory after the restores, of which the first of the list is the last. -/
def saved : List (Restore map) → Int → Option map × Option map
  | [] => fun _ => (none, none)
  | last :: earlier =>
    Function.update (saved earlier) last.timestamp (last.files (saved earlier last.timestamp))

end Restore

open Restore

end GateSentry.Backup
