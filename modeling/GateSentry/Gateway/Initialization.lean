import GateSentry.Accounts.Users
import GateSentry.Backup.Startup
import GateSentry.Webserver.Auth

/-!
# Initialisation of the runtime

`GSRuntime.Init`, which every change of the settings, the accounts or the filters runs again
on the live runtime.  It replaces what it initialises before the steps that may fail.
-/

namespace GateSentry.Gateway

open Foundation ByteText Json Storage
open Accounts (GSUser)
open Webserver (GeneralSettings)
open Backup (MigrateError readSchema settingsSchemaKey currentSettingsSchema)

/-! ## The runtime -/

/-- A `*MapStore`: which handle it is, and what the handle holds. -/
structure MapHandle where
  pointer : Nat
  store : Store

structure FilterLine where
  content : Bytes
  score : Int

/-- `GSFilter` without its names and its function. -/
structure GSFilter where
  handles : Bytes
  id : Bytes
  fileName : Bytes
  hasStrength : Bool
  fileContents : List FilterLine
  strictness : Int := 0

structure LiveUser extends GSUser where
  dataConsumed : Nat
  toDelete : Bool

structure GSRuntime where
  opened : Nat
  gsSettings : MapHandle
  gsDevices : MapHandle
  gsUpdateLog : MapHandle
  filters : List GSFilter
  authUsers : List LiveUser
  logger : Bool
  settings_opened : gsSettings.pointer < opened
  devices_opened : gsDevices.pointer < opened

/-- What `Init` finds around it. -/
structure Environment where
  baseDir : Bytes
  getenv : Bytes → Bytes
  applicationVersion : Bytes
  now : Bytes
  filterLines : Bytes → List FilterLine
  loggerOpens : Bytes → Bool
  caCertificate : Bytes
  caPrivateKey : Bytes
  customEntries : Bytes

inductive IntError where
  | map (err : MapError)
  | parse

inductive MigrationFailure where
  | readVersion (err : MapError)
  | schema (err : MigrateError)
  | migration (version : Int) (err : MapError)
  | stamp (err : MapError)

inductive CertificateError where
  | certificate (err : MapError)
  | privateKey (err : MapError)

inductive InitError where
  | openSettings (err : StoreError)
  | migrateSettings (err : MigrationFailure)
  | openDevices (err : StoreError)
  | openUpdateLog (err : StoreError)
  | setDefault (key : Bytes) (err : MapError)
  | updateResolver (err : MapError)
  | persistAISetting (key : Bytes) (err : MapError)
  | readAISetting (key : Bytes) (err : MapError)
  | updateLogDefault (err : MapError)
  | readVersion (err : MapError)
  | recordVersion (err : MapError)
  | updateVersion (err : MapError)
  | readGeneralSettings (err : MapError)
  | parseGeneralSettings
  | openLogger
  | readStrictness (err : IntError)
  | readUsers (err : MapError)
  | parseUsers
  | reloadCertificate (err : CertificateError)

abbrev Phase := GSRuntime → Files (GSRuntime × Option InitError)

def Phase.chain : List Phase → Phase
  | [], runtime => pure (runtime, none)
  | phase :: rest, runtime => do
    match ← phase runtime with
    | (runtime, some err) => return (runtime, some err)
    | (runtime, none) => chain rest runtime

namespace GSRuntime

def onSettings {α : Type} (runtime : GSRuntime) (p : Store → Files (Store × α)) :
    Files (GSRuntime × α) := do
  let (store, value) ← p runtime.gsSettings.store
  return ({ runtime with gsSettings := { runtime.gsSettings with store } }, value)

def onUpdateLog {α : Type} (runtime : GSRuntime) (p : Store → Files (Store × α)) :
    Files (GSRuntime × α) := do
  let (store, value) ← p runtime.gsUpdateLog.store
  return ({ runtime with gsUpdateLog := { runtime.gsUpdateLog with store } }, value)

end GSRuntime

variable (c : Cipher) (location : KeyLocation) (env : Environment)

/-! ## Opening the stores -/

def openSettings : Phase := fun runtime => do
  let (store, err) ← openMapStore c location (utf8 "GSSettings") true
  return ({ runtime with
    opened := runtime.opened + 1
    gsSettings := ⟨runtime.opened, store⟩
    settings_opened := Nat.lt_succ_self _
    devices_opened := Nat.lt_succ_of_lt runtime.devices_opened }, err.map .openSettings)

def openDevices : Phase := fun runtime => do
  let (store, err) ← openMapStore c location (utf8 "GSDevices") true
  return ({ runtime with
    opened := runtime.opened + 1
    gsDevices := ⟨runtime.opened, store⟩
    settings_opened := Nat.lt_succ_of_lt runtime.settings_opened
    devices_opened := Nat.lt_succ_self _ }, err.map .openDevices)

def openUpdateLog : Phase := fun runtime => do
  let (store, err) ← openMapStore c location (utf8 "GSUpdateLog") false
  return ({ runtime with
    opened := runtime.opened + 1
    gsUpdateLog := ⟨runtime.opened, store⟩
    settings_opened := Nat.lt_succ_of_lt runtime.settings_opened
    devices_opened := Nat.lt_succ_of_lt runtime.devices_opened }, err.map .openUpdateLog)

def updateKey (store : Store) (key value : Bytes) : Files (Store × Option MapError) :=
  store.update c location (.updateValue key fun _ => some value)

structure SettingsMigration where
  version : Int
  apply : Values → Option Values

def settingsMigrations : List SettingsMigration := []

def schemaText (version : Int) : Bytes := utf8 (toString version)

def runMigrations (store : Store) (current : Int) :
    List SettingsMigration → Files (Store × Except MigrationFailure Int)
  | [] => pure (store, .ok current)
  | migration :: rest =>
    if current ≥ migration.version then runMigrations store current rest
    else do
      let (store, err) ← store.update c location (.updateMap fun values =>
        (migration.apply values).map fun next =>
          Dict.assign (listed (next.insert settingsSchemaKey (schemaText migration.version)))
            values)
      match err with
      | some err => return (store, .error (.migration migration.version err))
      | none => runMigrations store migration.version rest

/-- `MigrateSettings`; the error of the handle is asked by the read as well. -/
def migrateStore (store : Store) : Files (Store × Option MigrationFailure) := do
  match ← store.snapshot c location with
  | (store, .error err) => return (store, some (.readVersion err))
  | (store, .ok values) =>
    match readSchema values with
    | .error err => return (store, some (.schema err))
    | .ok current =>
      match ← runMigrations c location store current settingsMigrations with
      | (store, .error err) => return (store, some err)
      | (store, .ok current) =>
        if current < currentSettingsSchema then do
          let (store, err) ← updateKey c location store settingsSchemaKey
            (schemaText currentSettingsSchema)
          return (store, err.map .stamp)
        else return (store, none)

def migrateSettings : Phase := fun runtime => do
  let (runtime, err) ← runtime.onSettings (migrateStore c location)
  return (runtime, err.map .migrateSettings)

/-! ## Defaults -/

abbrev Seeding := GSRuntime × Option InitError

def setDefault (state : Seeding) (setting : Bytes × Bytes) : Files Seeding :=
  match state with
  | (runtime, some err) => pure (runtime, some err)
  | (runtime, none) => do
    let (runtime, err) ← runtime.onSettings fun store =>
      store.update c location (.setDefault setting.1 setting.2)
    return (runtime, err.map (.setDefault setting.1))

def updateSetting (state : Seeding) (failure : MapError → InitError) (key value : Bytes) :
    Files Seeding := do
  let (runtime, err) ← state.1.onSettings fun store => updateKey c location store key value
  return (runtime, (err.map failure).or state.2)

def generalDefaults : List (Bytes × Bytes) :=
  [(utf8 "strictness", utf8 "2000"),
    (utf8 "general_settings", utf8 "\x7b\"log_location\": \"./log.db\"\x7d"),
    (utf8 "blocktimes",
      utf8 "\x7b\"fromhours\":0,\"tohours\":0,\"fromminutes\":58,\"tominutes\":59\x7d"),
    (utf8 "authusers", utf8 ("[\x7b\"username\": \"guest\", \"password\": \"\"," ++
      "\"Base64String\":\"Z3Vlc3Q6cGFzc3dvcmQ=\", \"allowaccess\": true, " ++
      "\"dataconsumed\": 0 \x7d]")),
    (utf8 "EnableUsers", utf8 "false"),
    (utf8 "NonAlives", utf8 "0"),
    (utf8 "Noheartbeat", utf8 "0"),
    (utf8 "Noheartbeatmessage", []),
    (utf8 "timezone", utf8 "Europe/Oslo"),
    (utf8 "enable_https_filtering", utf8 "false"),
    (utf8 "enable_dns_server", utf8 "true"),
    (utf8 "tailscale_identity_enabled", utf8 "false")]

def scannerDefaults : List (Bytes × Bytes) :=
  [(utf8 "idemail", []),
    (utf8 "enable_ai_image_filtering", utf8 "false"),
    (utf8 "ai_image_filtering_mode", utf8 "disabled"),
    (utf8 "ai_grok_api_key", []),
    (utf8 "ai_openai_api_key", []),
    (utf8 "ai_local_llm_url", []),
    (utf8 "ai_local_llm_model", []),
    (utf8 "ai_grok_model", []),
    (utf8 "ai_openai_model", []),
    (utf8 "ai_scanner_url", [])]

def seedResolver (state : Seeding) : Files Seeding :=
  let envResolver := env.getenv (utf8 "GATESENTRY_DNS_RESOLVER")
  if envResolver.isEmpty then
    setDefault c location state (utf8 "dns_resolver", utf8 "8.8.8.8:53")
  else
    let dnsResolverValue := match Net.splitHostPort envResolver with
      | .ok _ => envResolver
      | .error _ => Net.joinHostPort envResolver (utf8 "53")
    updateSetting c location state .updateResolver (utf8 "dns_resolver") dnsResolverValue

/-! ### Settings from the environment -/

def aiEnvBindings : List (Bytes × Bytes) :=
  [(utf8 "ai_grok_api_key", utf8 "GS_AI_GROK_API_KEY"),
    (utf8 "ai_openai_api_key", utf8 "GS_AI_OPENAI_API_KEY"),
    (utf8 "ai_local_llm_url", utf8 "GS_AI_OLLAMA_URL"),
    (utf8 "ai_local_llm_model", utf8 "GS_AI_OLLAMA_MODEL"),
    (utf8 "ai_grok_model", utf8 "GS_AI_GROK_MODEL"),
    (utf8 "ai_openai_model", utf8 "GS_AI_OPENAI_MODEL"),
    (utf8 "ai_image_filtering_mode", utf8 "GS_AI_IMAGE_FILTERING_MODE")]

/-- `strings.ToUpper` as far as it gives letters of ASCII: of the dotless i and of the long s
too. -/
def upperASCII : Bytes → Bytes
  | 0xc4 :: 0xb1 :: rest => 73 :: upperASCII rest
  | 0xc5 :: 0xbf :: rest => 83 :: upperASCII rest
  | b :: rest => (if 97 ≤ b ∧ b ≤ 122 then b - 32 else b) :: upperASCII rest
  | [] => []

def envLooksUnset (v : Bytes) : Bool :=
  let v := trimSpace v
  let u := upperASCII v
  v.isEmpty || [utf8 "CHANGE_ME", utf8 "CHANGEME", utf8 "TODO", utf8 "PLACEHOLDER"].contains u ||
    [utf8 "CHANGE_ME", utf8 "YOUR-", utf8 "PASTE_"].any (·.isPrefixOf u)

def seedEmpty (current env : Bytes) : Option Bytes :=
  if !(trimSpace current).isEmpty then none
  else if envLooksUnset env then none
  else some (trimSpace env)

def filteringMode : Bytes := utf8 "ai_image_filtering_mode"

def seedValue (setting next : Bytes) : Option Bytes :=
  if setting = filteringMode then
    let mode := toLower next
    if [utf8 "disabled", utf8 "grok", utf8 "chatgpt", utf8 "local"].contains mode then some mode
    else none
  else some next

def applyAIEnvSeed (state : Seeding) (binding : Bytes × Bytes) : Files Seeding := do
  let (runtime, current, err) ← state.1.onSettings fun store => store.getE c location binding.1
  let state : Seeding := (runtime, state.2.or (err.map (.readAISetting binding.1)))
  match (seedEmpty current (env.getenv binding.2)).bind (seedValue binding.1) with
  | none => return state
  | some next =>
    let state ← updateSetting c location state (.persistAISetting binding.1) binding.1 next
    if binding.1 = filteringMode ∧ next ≠ utf8 "disabled" then
      let key := utf8 "enable_ai_image_filtering"
      updateSetting c location state (.persistAISetting key) key (utf8 "true")
    else return state

def seedDefaults : Phase := fun runtime => do
  let state ← generalDefaults.foldlM (setDefault c location) (runtime, none)
  let state ← seedResolver c location env state
  let state ← scannerDefaults.foldlM (setDefault c location) state
  let state ← aiEnvBindings.foldlM (applyAIEnvSeed c location env) state
  let (runtime, initializationErr) ← setDefault c location state
    (utf8 "version", env.applicationVersion)
  let (runtime, err) ← runtime.onUpdateLog fun store =>
    store.update c location (.setDefault (utf8 "versions") [])
  match err with
  | some err => return (runtime, some (.updateLogDefault err))
  | none => return (runtime, initializationErr)

/-! ## The version -/

def writeVersion : Phase := fun runtime => do
  let (runtime, err) ← runtime.onSettings fun store =>
    updateKey c location store (utf8 "version") env.applicationVersion
  return (runtime, err.map .updateVersion)

def gsWasUpdated : Phase := fun runtime => do
  let (runtime, version, err) ← runtime.onSettings fun store =>
    store.getE c location (utf8 "version")
  match err with
  | some err => return (runtime, some (.readVersion err))
  | none =>
    let versionRecord := version ++ utf8 " - " ++ env.applicationVersion ++ utf8 " on = " ++
      env.now ++ utf8 ","
    let (runtime, err) ← runtime.onUpdateLog fun store => store.update c location
      (.updateValue (utf8 "versions") fun previous => some (previous ++ versionRecord))
    match err with
    | some err => return (runtime, some (.recordVersion err))
    | none => writeVersion c location env runtime

def recordVersion : Phase := fun runtime => do
  let (runtime, storedVersion, err) ← runtime.onSettings fun store =>
    store.getE c location (utf8 "version")
  match err with
  | some err => return (runtime, some (.readVersion err))
  | none =>
    if env.applicationVersion ≠ storedVersion then gsWasUpdated c location env runtime
    else writeVersion c location env runtime

def seedCertificates : Phase := fun runtime =>
  [(utf8 "capem", env.caCertificate), (utf8 "keypem", env.caPrivateKey),
    (utf8 "dns_custom_entries", env.customEntries)].foldlM (setDefault c location) (runtime, none)

/-! ## The logger, the filters and the accounts -/

def generalFields : List (Bytes × Decoder GeneralSettings) :=
  [field "log_location" decodeString (·.logLocation) fun v s => { s with logLocation := v },
    field "admin_password" decodeString (·.adminPassword) fun v s => { s with adminPassword := v },
    field "admin_username" decodeString (·.adminUser) fun v s => { s with adminUser := v }]

/-- `strings.Replace` of every `./` by nothing. -/
def withoutDotSlash : Bytes → Bytes
  | 46 :: 47 :: rest => withoutDotSlash rest
  | b :: rest => b :: withoutDotSlash rest
  | [] => []

def logPath (logLocation : Bytes) : Bytes :=
  let logLocation := withoutDotSlash logLocation
  if (utf8 "/tmp").isPrefixOf logLocation then logLocation else env.baseDir ++ logLocation

def openLogger : Phase := fun runtime => do
  let (runtime, general, err) ← runtime.onSettings fun store =>
    store.getE c location (utf8 "general_settings")
  match err with
  | some err => return (runtime, some (.readGeneralSettings err))
  | none =>
    match unmarshal (decodeStruct generalFields) general {} with
    | none => return (runtime, some .parseGeneralSettings)
    | some parsed =>
      if runtime.logger then return (runtime, none)
      else if env.loggerOpens (logPath env parsed.logLocation) then
        return ({ runtime with logger := true }, none)
      else return (runtime, some .openLogger)

def newGSFilter (handles id : String) (file : String) (hasStrength : Bool) : GSFilter :=
  let fileName := env.baseDir ++ utf8 "filterfiles/" ++ utf8 file
  { handles := utf8 handles, id := utf8 id, fileName, hasStrength
    fileContents := env.filterLines fileName }

def loadFilters : List GSFilter :=
  [newGSFilter env "url/all_exception_urls" "JHGJiwjkGOeglsd" "exceptionsitelist.json" false,
    newGSFilter env "url/https_dontbump" "CeBqssmRbqXzbHR" "dontbump.json" false,
    newGSFilter env "url/all_blocked_mimes" "JHGJiwjkGOeglsk" "blockedmimes.json" false,
    newGSFilter env "url/all_blocked_urls" "bTXmTXgTuXpJuOZ" "blockedsites.json" false,
    newGSFilter env "text/html" "bVxTPTOXiqGRbhF" "stopwords.json" true]

def getIntE (store : Store) (key : Bytes) : Files (Store × Except IntError Int) := do
  let (store, value, err) ← store.getE c location key
  match err with
  | some err => return (store, .error (.map err))
  | none =>
    match parseInt value with
    | none => return (store, .error .parse)
    | some i => return (store, .ok i)

def strictnessFrom (done : List GSFilter) :
    List GSFilter → GSRuntime → Files (GSRuntime × Option InitError)
  | [], runtime => pure ({ runtime with filters := done }, none)
  | filter :: rest, runtime => do
    let (runtime, strictness) ← runtime.onSettings fun store =>
      getIntE c location store (utf8 "strictness")
    match strictness with
    | .error err =>
      return ({ runtime with filters := done ++ filter :: rest }, some (.readStrictness err))
    | .ok strictness => strictnessFrom (done ++ [{ filter with strictness }]) rest runtime

def applyStrictness : Phase := fun runtime =>
  strictnessFrom c location [] runtime.filters runtime

def parseUint64 (literal : Bytes) : Option Nat :=
  match scanDigits literal with
  | some (digits, []) =>
    let n := digits.foldl (fun n b => n * 10 + (b.toNat - 48)) 0
    if n < 2 ^ 64 then some n else none
  | _ => none

def userFields : List (Bytes × Decoder LiveUser) :=
  [field "username" decodeString (·.user) fun v u => { u with user := v },
    field "password" decodeString (·.pass) fun v u => { u with pass := v },
    field "Base64String" decodeString (·.base64String) fun v u => { u with base64String := v },
    field "dataconsumed" (decodeNumber parseUint64) (·.dataConsumed)
      fun v u => { u with dataConsumed := v },
    field "allowaccess" decodeBool (·.allowAccess) fun v u => { u with allowAccess := v },
    field "todelete" decodeBool (·.toDelete) fun v u => { u with toDelete := v }]

def zeroUser : LiveUser where
  user := []
  base64String := []
  allowAccess := false
  dataConsumed := 0
  toDelete := false

def loadUsers : Phase := fun runtime => do
  let (runtime, usersString, err) ← runtime.onSettings fun store =>
    store.getE c location (utf8 "authusers")
  match err with
  | some err => return (runtime, some (.readUsers err))
  | none =>
    match unmarshal (decodeSlice (decodeStruct userFields) zeroUser) usersString [] with
    | none => return (runtime, some .parseUsers)
    | some users => return ({ runtime with authUsers := users }, none)

def reloadCertificate : Phase := fun runtime => do
  let (runtime, _, err) ← runtime.onSettings fun store => store.getE c location (utf8 "capem")
  match err with
  | some err => return (runtime, some (.reloadCertificate (.certificate err)))
  | none =>
    let (runtime, _, err) ← runtime.onSettings fun store =>
      store.getE c location (utf8 "keypem")
    return (runtime, err.map fun err => .reloadCertificate (.privateKey err))

/-! ## The initialisation -/

def preparation : List Phase :=
  [migrateSettings c location, openDevices c location, openUpdateLog c location,
    seedDefaults c location env, recordVersion c location env, seedCertificates c location env,
    openLogger c location env, applyStrictness c location]

/-- `Init`, up to the workers that it starts at its end. -/
def init : Phase := fun runtime =>
  Phase.chain (openSettings c location :: preparation c location env ++
    [loadUsers c location, reloadCertificate c location])
    { runtime with filters := loadFilters env, authUsers := [] }

/-! ## What a failed initialisation leaves -/

section Failures

variable {c location env}

def UsersAt (pointer : Nat) (users : List LiveUser) (runtime : GSRuntime) : Prop :=
  runtime.gsSettings.pointer = pointer ∧ runtime.authUsers = users

def Phase.Keeps (phase : Phase) : Prop :=
  ∀ {pointer users runtime}, UsersAt pointer users runtime →
    (phase runtime).Returns fun result => UsersAt pointer users result.1

variable {pointer : Nat} {users : List LiveUser} {runtime : GSRuntime}

section OnStores

variable {α β : Type} {p : Store → Files (Store × α)} {f : GSRuntime × α → Files β}
  {good : β → Prop} (h : UsersAt pointer users runtime)
  (hf : ∀ after value, UsersAt pointer users after → (f (after, value)).Returns good)
include h hf

theorem returns_onSettings : (runtime.onSettings p >>= f).Returns good :=
  Proc.returns_bind (q := fun result => UsersAt pointer users result.1)
    (Proc.returns_bind_any _ fun _ => Proc.returns_pure h) fun result => hf result.1 result.2

theorem returns_onUpdateLog : (runtime.onUpdateLog p >>= f).Returns good :=
  Proc.returns_bind (q := fun result => UsersAt pointer users result.1)
    (Proc.returns_bind_any _ fun _ => Proc.returns_pure h) fun result => hf result.1 result.2

end OnStores

theorem migrateSettings_keeps : (migrateSettings c location).Keeps := by
  intro pointer users runtime h
  exact returns_onSettings h fun after err hafter => Proc.returns_pure hafter

theorem openDevices_keeps : (openDevices c location).Keeps := by
  intro pointer users runtime h
  exact Proc.returns_bind_any _ fun result => Proc.returns_pure h

theorem openUpdateLog_keeps : (openUpdateLog c location).Keeps := by
  intro pointer users runtime h
  exact Proc.returns_bind_any _ fun result => Proc.returns_pure h

section Seeding

variable {state : Seeding} (h : UsersAt pointer users state.1)
include h

theorem setDefault_holds (setting : Bytes × Bytes) :
    (setDefault c location state setting).Returns fun result => UsersAt pointer users result.1 := by
  obtain ⟨runtime, err⟩ := state
  cases err with
  | some err => exact Proc.returns_pure h
  | none => exact returns_onSettings h fun after err hafter => Proc.returns_pure hafter

theorem setDefaults_holds (settings : List (Bytes × Bytes)) :
    (settings.foldlM (setDefault c location) state).Returns
      fun result => UsersAt pointer users result.1 :=
  Proc.returns_foldlM (fun _ setting hstate => setDefault_holds hstate setting) h

theorem updateSetting_holds {failure : MapError → InitError} {key value : Bytes} :
    (updateSetting c location state failure key value).Returns
      fun result => UsersAt pointer users result.1 :=
  returns_onSettings h fun _ _ hafter => Proc.returns_pure hafter

theorem seedResolver_holds :
    (seedResolver c location env state).Returns fun result => UsersAt pointer users result.1 := by
  unfold seedResolver
  dsimp only
  split
  · exact setDefault_holds h _
  · exact updateSetting_holds h

theorem applyAIEnvSeed_holds (binding : Bytes × Bytes) :
    (applyAIEnvSeed c location env state binding).Returns
      fun result => UsersAt pointer users result.1 := by
  refine returns_onSettings h fun after value hafter => ?_
  dsimp only
  split
  · exact Proc.returns_pure hafter
  · refine Proc.returns_bind (updateSetting_holds hafter) fun state hstate => ?_
    split
    · exact updateSetting_holds hstate
    · exact Proc.returns_pure hstate

end Seeding

theorem seedDefaults_keeps : (seedDefaults c location env).Keeps := by
  intro pointer users runtime h
  refine Proc.returns_bind (setDefaults_holds h _) fun state hgeneral => ?_
  refine Proc.returns_bind (seedResolver_holds hgeneral) fun state hresolver => ?_
  refine Proc.returns_bind (setDefaults_holds hresolver _) fun state hscanner => ?_
  refine Proc.returns_bind (Proc.returns_foldlM
    (fun _ binding hstate => applyAIEnvSeed_holds hstate binding) hscanner)
    fun state hseeded => ?_
  refine Proc.returns_bind (setDefault_holds hseeded _) fun state hversion => ?_
  refine returns_onUpdateLog hversion fun after err hafter => ?_
  cases err with
  | some | none => exact Proc.returns_pure hafter

theorem writeVersion_keeps : (writeVersion c location env).Keeps := by
  intro pointer users runtime h
  exact returns_onSettings h fun _ _ hafter => Proc.returns_pure hafter

theorem gsWasUpdated_keeps : (gsWasUpdated c location env).Keeps := by
  intro pointer users runtime h
  refine returns_onSettings h fun after value hafter => ?_
  obtain ⟨version, err⟩ := value
  cases err with
  | some err => exact Proc.returns_pure hafter
  | none =>
    refine returns_onUpdateLog hafter fun logged err hlogged => ?_
    cases err with
    | some err => exact Proc.returns_pure hlogged
    | none => exact writeVersion_keeps hlogged

theorem recordVersion_keeps : (recordVersion c location env).Keeps := by
  intro pointer users runtime h
  refine returns_onSettings h fun after value hafter => ?_
  obtain ⟨storedVersion, err⟩ := value
  cases err with
  | some err => exact Proc.returns_pure hafter
  | none =>
    dsimp only
    split
    · exact gsWasUpdated_keeps hafter
    · exact writeVersion_keeps hafter

theorem seedCertificates_keeps : (seedCertificates c location env).Keeps := by
  intro pointer users runtime h
  exact setDefaults_holds h _

theorem openLogger_keeps : (openLogger c location env).Keeps := by
  intro pointer users runtime h
  refine returns_onSettings h fun after value hafter => ?_
  obtain ⟨general, err⟩ := value
  cases err with
  | some err => exact Proc.returns_pure hafter
  | none =>
    dsimp only
    repeat' split
    all_goals exact Proc.returns_pure hafter

theorem strictnessFrom_holds (done rest : List GSFilter) (h : UsersAt pointer users runtime) :
    (strictnessFrom c location done rest runtime).Returns
      fun result => UsersAt pointer users result.1 := by
  induction rest generalizing done runtime with
  | nil => exact Proc.returns_pure h
  | cons filter rest ih =>
    refine returns_onSettings h fun after strictness hafter => ?_
    cases strictness with
    | error err => exact Proc.returns_pure hafter
    | ok strictness => exact ih _ hafter

theorem applyStrictness_keeps : (applyStrictness c location).Keeps := by
  intro pointer users runtime h
  exact strictnessFrom_holds [] runtime.filters h

theorem preparation_keeps : ∀ phase ∈ preparation c location env, phase.Keeps := by
  unfold preparation
  simp only [List.forall_mem_cons]
  exact ⟨migrateSettings_keeps, openDevices_keeps, openUpdateLog_keeps, seedDefaults_keeps,
    recordVersion_keeps, seedCertificates_keeps, openLogger_keeps, applyStrictness_keeps, nofun⟩

theorem returns_chain {phases rest : List Phase} {good : GSRuntime × Option InitError → Prop}
    (hphases : ∀ phase ∈ phases, phase.Keeps)
    (hfailed : ∀ after err, UsersAt pointer users after → good (after, some err))
    (hrest : ∀ after, UsersAt pointer users after → (Phase.chain rest after).Returns good)
    (h : UsersAt pointer users runtime) : (Phase.chain (phases ++ rest) runtime).Returns good := by
  induction phases generalizing runtime with
  | nil => exact hrest runtime h
  | cons phase later ih =>
    have hphase : phase.Keeps := hphases phase List.mem_cons_self
    refine Proc.returns_bind (hphase h) fun result hresult => ?_
    obtain ⟨after, err⟩ := result
    cases err with
    | some err => exact Proc.returns_pure (hfailed _ _ hresult)
    | none => exact ih (fun other hother => hphases other (List.mem_cons_of_mem _ hother)) hresult

def Loses (result : GSRuntime × Option InitError) : Prop :=
  result.2 ≠ none → result.1.authUsers = [] ∨ ∃ err, result.2 = some (.reloadCertificate err)

theorem reloadCertificate_loses (h : runtime.gsSettings.pointer = pointer) :
    (reloadCertificate c location runtime).Returns
      fun result => result.1.gsSettings.pointer = pointer ∧ Loses result := by
  have hholds : UsersAt pointer runtime.authUsers runtime := ⟨h, rfl⟩
  refine returns_onSettings hholds fun after value hafter => ?_
  obtain ⟨capem, err⟩ := value
  cases err with
  | some err => exact Proc.returns_pure ⟨hafter.1, fun _ => .inr ⟨_, rfl⟩⟩
  | none =>
    refine returns_onSettings hafter fun last value hlast => ?_
    obtain ⟨keypem, err⟩ := value
    cases err with
    | some err => exact Proc.returns_pure ⟨hlast.1, fun _ => .inr ⟨_, rfl⟩⟩
    | none => exact Proc.returns_pure ⟨hlast.1, fun herr => absurd rfl herr⟩

theorem loadUsers_loses (h : UsersAt pointer [] runtime) :
    (Phase.chain [loadUsers c location, reloadCertificate c location] runtime).Returns
      fun result => result.1.gsSettings.pointer = pointer ∧ Loses result := by
  refine Proc.returns_bind (q := fun result => result.1.gsSettings.pointer = pointer ∧
    (result.2 ≠ none → result.1.authUsers = [])) ?_ ?_
  · refine returns_onSettings h fun after value hafter => ?_
    obtain ⟨usersString, err⟩ := value
    cases err with
    | some err => exact Proc.returns_pure ⟨hafter.1, fun _ => hafter.2⟩
    | none =>
      dsimp only
      split
      · exact Proc.returns_pure ⟨hafter.1, fun _ => hafter.2⟩
      · exact Proc.returns_pure ⟨hafter.1, fun herr => absurd rfl herr⟩
  · rintro ⟨after, err⟩ ⟨hpointer, hcleared⟩
    cases err with
    | some err => exact Proc.returns_pure ⟨hpointer, fun herr => .inl (hcleared herr)⟩
    | none =>
      refine Proc.returns_bind (reloadCertificate_loses hpointer) fun result hresult => ?_
      obtain ⟨last, err⟩ := result
      cases err with
      | some | none => exact Proc.returns_pure hresult

theorem init_loses (runtime : GSRuntime) : (init c location env runtime).Returns
      fun result => result.1.gsSettings.pointer = runtime.opened ∧ Loses result := by
  have hfailed : ∀ after err, UsersAt runtime.opened [] after →
      after.gsSettings.pointer = runtime.opened ∧ Loses (after, some err) :=
    fun after err hafter => ⟨hafter.1, fun _ => .inl hafter.2⟩
  refine Proc.returns_bind (q := fun result => UsersAt runtime.opened [] result.1)
    (Proc.returns_bind_any _ ?_) ?_
  · rintro ⟨store, err⟩
    cases err with
    | some | none => exact Proc.returns_pure ⟨rfl, rfl⟩
  · rintro ⟨after, err⟩ hafter
    cases err with
    | some err => exact Proc.returns_pure (hfailed after err hafter)
    | none => exact returns_chain preparation_keeps hfailed (fun _ => loadUsers_loses) hafter

end Failures

structure Undisturbed (before after : GSRuntime) : Prop where
  accounts : after.authUsers = before.authUsers
  settings : after.gsSettings.pointer = before.gsSettings.pointer
  devices : after.gsDevices.pointer = before.gsDevices.pointer
  filters : after.filters = before.filters

/-- No initialisation that fails leaves the runtime as it was, and all but those that fail at
the certificate leave it without accounts. -/
theorem failed_init_undisturbed_iff (runtime : GSRuntime) (answers : Nat → Answer)
    (disk : Disk) :
    let result := ((init c location env runtime).drive answers disk).2
    ((result.2 ≠ none → Undisturbed runtime result.1) ↔ result.2 = none) ∧
      (result.2 ≠ none → result.1.authUsers = [] ∨
        ∃ err, result.2 = some (.reloadCertificate err)) := by
  intro result
  have hinit : result.1.gsSettings.pointer = runtime.opened ∧ Loses result :=
    init_loses runtime answers disk
  refine ⟨⟨fun hkept => ?_, fun hnone herr => absurd hnone herr⟩, hinit.2⟩
  by_contra hfailed
  have hsettings := (hkept hfailed).settings
  have hopened := runtime.settings_opened
  omega

/-! ## A settings file that cannot be read -/

def plainEnvironment : Environment where
  baseDir := utf8 "/data/"
  getenv := fun _ => []
  applicationVersion := utf8 "2.0"
  now := utf8 "now"
  filterLines := fun _ => []
  loggerOpens := fun _ => true
  caCertificate := []
  caPrivateKey := []
  customEntries := utf8 "[]"

def guestUser : LiveUser where
  user := utf8 "guest"
  base64String := utf8 "Z3Vlc3Q6cGFzc3dvcmQ="
  allowAccess := true
  dataConsumed := 0
  toDelete := false

def liveRuntime : GSRuntime where
  opened := 3
  gsSettings := ⟨0, { id := utf8 "GSSettings", encrypted := true }⟩
  gsDevices := ⟨1, { id := utf8 "GSDevices", encrypted := true }⟩
  gsUpdateLog := ⟨2, { id := utf8 "GSUpdateLog", encrypted := false }⟩
  filters := (loadFilters plainEnvironment).map fun filter => { filter with strictness := 2000 }
  authUsers := [guestUser]
  logger := true
  settings_opened := by decide
  devices_opened := by decide

theorem unreadable_settings_lose_accounts :
    let result := ((init clearCipher unmanagedKey plainEnvironment liveRuntime).drive
      (fun _ => ⟨true, ⟨List.replicate 32 0, by decide⟩⟩) ∅).2
    result.2 = some (.openSettings .read) ∧ result.1.authUsers = [] ∧
      result.1.filters = loadFilters plainEnvironment ∧
      ¬ Undisturbed liveRuntime result.1 := by
  intro result
  have hresult : result.2 = some (.openSettings .read) ∧ result.1.authUsers = [] ∧
      result.1.filters = loadFilters plainEnvironment := ⟨rfl, rfl, rfl⟩
  refine ⟨hresult.1, hresult.2.1, hresult.2.2, fun h => ?_⟩
  cases hresult.2.1.symm.trans h.accounts

end GateSentry.Gateway
