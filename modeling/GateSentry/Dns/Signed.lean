import GateSentry.Dns.Update

/-!
# Signed updates

The settings from which start-up builds the key map, the library that verifies
signatures against it, and the update handler that reads the library's verdict.
-/

namespace GateSentry.Dns

open Foundation Discovery ByteText

/-! ## Settings -/

/-- What one read meets: whether loading the map store fails, whether the store holds an error,
and its values in memory unless they do not parse. -/
structure SettingRead where
  loadFails : Bool
  failed : Bool
  values : Option (Dict Bytes Bytes)

def SettingRead.getE (m : SettingRead) (key : Bytes) : Bytes × Bool :=
  match m.values with
  | none => ([], true)
  | some values =>
    let value := (values.lookup key).getD []
    if m.loadFails then (value, true)
    else if m.failed then ([], true)
    else (value, false)

def readSetting (settings : Bytes → SettingRead) (key conservativeFallback : Bytes) : Bytes :=
  let (value, err) := (settings key).getE key
  if err && value.isEmpty then conservativeFallback else value

def ddnsConfig (settings : Bytes → SettingRead) : DdnsConfig where
  enabled := readSetting settings (utf8 "ddns_enabled") (utf8 "false") ≠ utf8 "false"
  tsigRequired := readSetting settings (utf8 "ddns_tsig_required") (utf8 "true") = utf8 "true"

def tsigKeyName (settings : Bytes → SettingRead) : Bytes :=
  readSetting settings (utf8 "ddns_tsig_key_name") []

def tsigKeySecret (settings : Bytes → SettingRead) : Bytes :=
  readSetting settings (utf8 "ddns_tsig_key_secret") []

def tsigSecrets (settings : Bytes → SettingRead) : Option (Bytes × Bytes) :=
  let keyName := tsigKeyName settings
  let keySecret := tsigKeySecret settings
  if !keyName.isEmpty && !keySecret.isEmpty then
    some (if (utf8 ".").isSuffixOf keyName then keyName else keyName ++ utf8 ".", keySecret)
  else none

/-! ## Verification -/

/-- What the DNS library does with signatures: `tsigStatus` is `true` for no error. -/
structure TsigLibrary where
  valid : Bytes → Bytes → Msg → Bool
  tsigStatus : Option (Bytes × Bytes) → Msg → Bool
  sign : Msg → Tsig → Tsig
  status_without_keys : ∀ r, tsigStatus none r = true
  status_with_key : ∀ keyName keySecret r, r.tsig.isSome →
    tsigStatus (some (keyName, keySecret)) r = valid keyName keySecret r

def serveUpdate (library : TsigLibrary) (settings : Bytes → SettingRead) (ds : DeviceStore)
    (r : Msg) (world : UpdateWorld) : Msg × DeviceStore :=
  handleDDNSUpdate (ddnsConfig settings) (library.tsigStatus (tsigSecrets settings) r)
    library.sign ds r world

def Signed (library : TsigLibrary) (settings : Bytes → SettingRead) (r : Msg) : Prop :=
  r.tsig.isSome ∧ ∃ keyName keySecret, tsigSecrets settings = some (keyName, keySecret) ∧
    library.valid keyName keySecret r = true

def Refuses (ds : DeviceStore) (outcome : Msg × DeviceStore) : Prop :=
  outcome.1.rcode = rcodeRefused ∧ outcome.2 = ds

section Handler

variable {config : DdnsConfig} {tsigStatus : Bool} {sign : Msg → Tsig → Tsig}
  {ds : DeviceStore} {r : Msg} {world : UpdateWorld}

theorem handleDDNSUpdate_refuses
    (h : config.enabled = false ∨ (config.tsigRequired = true ∧ r.tsig = none) ∨
      (r.tsig.isSome ∧ tsigStatus = false)) :
    Refuses ds (handleDDNSUpdate config tsigStatus sign ds r world) := by
  unfold handleDDNSUpdate
  rcases h with hdisabled | ⟨hrequired, hunsigned⟩ | ⟨hsigned, hinvalid⟩
  · rw [if_pos (by simp [hdisabled])]
    exact ⟨rfl, rfl⟩
  · split
    · exact ⟨rfl, rfl⟩
    · rw [if_pos (by simp [hrequired, hunsigned])]
      exact ⟨rfl, rfl⟩
  · split
    · exact ⟨rfl, rfl⟩
    · split
      · exact ⟨rfl, rfl⟩
      · rw [if_pos (by simp [hsigned, hinvalid])]
        exact ⟨rfl, rfl⟩

theorem not_refuses_handleDDNSUpdate (henabled : config.enabled = true)
    (hsigned : r.tsig.isSome) (hstatus : tsigStatus = true) :
    ¬ Refuses ds (handleDDNSUpdate config tsigStatus sign ds r world) := by
  rintro ⟨hrcode, -⟩
  unfold handleDDNSUpdate at hrcode
  rw [if_neg (by simp [henabled]), if_neg (by simp [Option.isNone_eq_false_iff.mpr hsigned]),
    if_neg (by simp [hstatus])] at hrcode
  cases hquestion : r.question with
  | nil =>
    rw [hquestion] at hrcode
    have hcode : rcodeFormatError = rcodeRefused := hrcode
    cases hcode
  | cons question rest =>
    rw [hquestion] at hrcode
    dsimp only at hrcode
    split at hrcode
    · have hcode : rcodeNotZone = rcodeRefused := hrcode
      cases hcode
    · have hcode : rcodeSuccess = rcodeRefused := hrcode
      cases hcode

end Handler

theorem tsigSecrets_eq_none_iff (settings : Bytes → SettingRead) :
    tsigSecrets settings = none ↔ tsigKeyName settings = [] ∨ tsigKeySecret settings = [] := by
  unfold tsigSecrets
  dsimp only
  split
  · next hboth => simpa using hboth
  · next hmissing => simpa [imp_iff_not_or] using hmissing

/-- With the requirement on, a message is validly signed or refused exactly when updates
are disabled, the key is configured or the message carries no signature. -/
theorem serveUpdate_signed_or_refuses_iff (library : TsigLibrary)
    (settings : Bytes → SettingRead) (ds : DeviceStore) (r : Msg) (world : UpdateWorld)
    (hrequired : (ddnsConfig settings).tsigRequired = true) :
    (Signed library settings r ∨ Refuses ds (serveUpdate library settings ds r world)) ↔
      (ddnsConfig settings).enabled = false ∨
        (tsigKeyName settings ≠ [] ∧ tsigKeySecret settings ≠ []) ∨ r.tsig = none := by
  constructor
  · intro h
    by_contra hcond
    simp only [not_or, Bool.not_eq_false] at hcond
    obtain ⟨henabled, hkey, htsig⟩ := hcond
    have hsecrets : tsigSecrets settings = none := by
      rw [tsigSecrets_eq_none_iff]
      by_contra hboth
      exact hkey (not_or.mp hboth)
    cases h with
    | inl hsigned =>
      obtain ⟨-, keyName, keySecret, hsome, -⟩ := hsigned
      rw [hsecrets] at hsome
      cases hsome
    | inr hrefuses =>
      refine not_refuses_handleDDNSUpdate henabled (Option.isSome_iff_ne_none.mpr htsig) ?_
        hrefuses
      rw [hsecrets]
      exact library.status_without_keys r
  · rintro (hdisabled | hkey | hunsigned)
    · right
      exact handleDDNSUpdate_refuses (.inl hdisabled)
    · cases hsecrets : tsigSecrets settings with
      | none =>
        rw [tsigSecrets_eq_none_iff] at hsecrets
        cases hsecrets with
        | inl hname => exact absurd hname hkey.1
        | inr hsecret => exact absurd hsecret hkey.2
      | some key =>
        obtain ⟨keyName, keySecret⟩ := key
        cases htsig : r.tsig with
        | none =>
          right
          exact handleDDNSUpdate_refuses (.inr (.inl ⟨hrequired, htsig⟩))
        | some tsig =>
          have hsome : r.tsig.isSome := by simp [htsig]
          have hstatus := library.status_with_key keyName keySecret r hsome
          cases hvalid : library.valid keyName keySecret r with
          | true => exact .inl ⟨hsome, keyName, keySecret, hsecrets, hvalid⟩
          | false =>
            right
            apply handleDDNSUpdate_refuses
            right
            right
            rw [hsecrets, hstatus]
            exact ⟨hsome, hvalid⟩
    · right
      exact handleDDNSUpdate_refuses (.inr (.inl ⟨hrequired, hunsigned⟩))

def plainSecretLibrary : TsigLibrary where
  valid keyName keySecret r := r.tsig.any fun tsig =>
    tsig.keyName = keyName && tsig.mac = keySecret
  tsigStatus keys r := match keys with
    | none => true
    | some (keyName, keySecret) => r.tsig.any fun tsig =>
      tsig.keyName = keyName && tsig.mac = keySecret
  sign _ tsig := tsig
  status_without_keys _ := rfl
  status_with_key _ _ _ _ := rfl

def requiringSettings (keyName keySecret : Bytes) (_ : Bytes) : SettingRead where
  loadFails := false
  failed := false
  values := some (Dict.assign
    [(utf8 "ddns_enabled", utf8 "true"), (utf8 "ddns_tsig_required", utf8 "true"),
      (utf8 "ddns_tsig_key_name", keyName), (utf8 "ddns_tsig_key_secret", keySecret)] ∅)

def forgedUpdate : Msg where
  opcode := opcodeUpdate
  question := [⟨utf8 "local.", 6, classINET⟩]
  ns := [⟨utf8 "printer.local.", typeA, classINET, 60, .a (some [10, 0, 0, 9])⟩]
  tsig := some ⟨utf8 "nobody.", utf8 "hmac-sha256.", utf8 "forged"⟩

theorem serveUpdate_refuses_forgedUpdate :
    Signed plainSecretLibrary (requiringSettings (utf8 "home") (utf8 "secret")) forgedUpdate ∨
      Refuses (newDeviceStore (utf8 "local"))
        (serveUpdate plainSecretLibrary (requiringSettings (utf8 "home") (utf8 "secret"))
          (newDeviceStore (utf8 "local")) forgedUpdate plainUpdateWorld) := by
  apply (serveUpdate_signed_or_refuses_iff plainSecretLibrary
    (requiringSettings (utf8 "home") (utf8 "secret")) (newDeviceStore (utf8 "local"))
    forgedUpdate plainUpdateWorld (by decide)).mpr
  decide

/-- With an empty key name the same update is applied, although it is required to be
signed. -/
theorem serveUpdate_applies_forgedUpdate :
    (ddnsConfig (requiringSettings [] (utf8 "secret"))).tsigRequired = true ∧
      ¬ Signed plainSecretLibrary (requiringSettings [] (utf8 "secret")) forgedUpdate ∧
      (serveUpdate plainSecretLibrary (requiringSettings [] (utf8 "secret"))
        (newDeviceStore (utf8 "local")) forgedUpdate plainUpdateWorld).1.rcode = rcodeSuccess ∧
      (serveUpdate plainSecretLibrary (requiringSettings [] (utf8 "secret"))
        (newDeviceStore (utf8 "local")) forgedUpdate plainUpdateWorld).2.devices.entries.map
          (·.2.hostnames) = [[utf8 "printer"]] := by
  refine ⟨by decide, ?_, by decide, by decide +kernel⟩
  rintro ⟨-, keyName, keySecret, hsome, -⟩
  cases hsome

end GateSentry.Dns
