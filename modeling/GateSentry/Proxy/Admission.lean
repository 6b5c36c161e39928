import GateSentry.Proxy.AuthSoundness

/-!
# Which requests authentication can let in

With authentication on, a header alone decides whether some list of accounts lets
the request in: it must fit the buffer it is decoded into, and it must name
somebody.
-/

namespace GateSentry.Proxy

open Foundation ByteText Outcome Accounts

def Oversized (auth : Bytes) : Prop :=
  ∃ rest, auth = basic ++ rest ∧ smallBufferSize < Base64.decodedLength (trimSpace rest)

def HeaderNames (auth user : Bytes) : Prop :=
  ∃ rest password, auth = basic ++ rest ∧ Net.colon ∉ user ∧
    Base64.decode smallBufferSize (trimSpace rest) = .ok (user ++ Net.colon :: password)

def Nobody (user : Bytes) : Prop := user = [] ∨ user = loopback

/-- The user of the connection, else the one the header names, else the client's
address, is nobody. -/
def Refused (handlerUser auth client : Bytes) : Prop :=
  if handlerUser = [] then
    (∃ user, HeaderNames auth user ∧ Nobody user) ∨
      ((∀ user, ¬ HeaderNames auth user) ∧ Nobody client)
  else Nobody handlerUser

/-! ## Headers -/

variable {auth : Bytes}

theorem HeaderNames.unique {user other : Bytes} (h : HeaderNames auth user)
    (h' : HeaderNames auth other) : user = other := by
  obtain ⟨rest, password, rfl, hcolon, hdecode⟩ := h
  obtain ⟨rest', password', hauth, hcolon', hdecode'⟩ := h'
  rw [← List.append_cancel_left hauth, hdecode] at hdecode'
  have hcut := Strings.cut_append Net.colon hcolon password
  rw [Except.ok.inj hdecode', Strings.cut_append Net.colon hcolon' password'] at hcut
  exact (congrArg Prod.fst (Option.some.inj hcut)).symm

theorem decodeCredentials_panics_iff (rest : Bytes) :
    Panics (decodeBase64Credentials rest) ↔
      smallBufferSize < Base64.decodedLength (trimSpace rest) := by
  rw [← Base64.decode_panics_iff, decodeBase64Credentials]
  split
  · rename_i hdecode
    simp [hdecode]
  · rename_i hdecode
    rw [hdecode]
    exact iff_of_false (not_panics_ok _) (not_panics_fail _)
  · rename_i reason hdecode
    rw [hdecode]
    exact iff_of_true (panics_panicked _) (panics_panicked _)

theorem headerNames_iff_decode (rest user : Bytes) : HeaderNames (basic ++ rest) user ↔
      ∃ password, decodeBase64Credentials rest = .ok (some (user, password)) := by
  constructor
  · rintro ⟨rest', password, hauth, hcolon, hdecode⟩
    rw [← List.append_cancel_left hauth] at hdecode
    refine ⟨password, ?_⟩
    rw [decodeBase64Credentials, hdecode]
    exact congrArg Except.ok (Strings.cut_append Net.colon hcolon password)
  · rintro ⟨password, hdecoded⟩
    unfold decodeBase64Credentials at hdecoded
    split at hdecoded
    · rename_i bytes hdecode
      obtain ⟨rfl, hcolon⟩ := Strings.eq_append_of_cut (Except.ok.inj hdecoded)
      exact ⟨rest, password, rfl, hcolon, hdecode⟩
    · cases hdecoded
    · cases hdecoded

variable {cache : UsersCache}

theorem proxyCredentials_panics (h : Panics (proxyCredentials cache auth)) : Oversized auth := by
  unfold proxyCredentials at h
  split at h
  · exact absurd h (not_panics_ok _)
  · split at h
    · exact absurd h (not_panics_ok _)
    · rename_i hheader
      simp only [Bool.or_eq_true, Bool.not_eq_true', not_or,
        Bool.not_eq_false, List.isPrefixOf_iff_prefix] at hheader
      obtain ⟨-, rest, rfl⟩ := hheader
      rw [panics_bind_iff, decodeCredentials_panics_iff] at h
      rcases h with hlong | ⟨decoded, -, hreturn⟩
      · exact ⟨rest, rfl, hlong⟩
      · exact absurd hreturn (not_panics_pure _)

theorem proxyCredentials_nil_basic (rest : Bytes) :
    proxyCredentials [] (basic ++ rest) = (do
      let decoded ← decodeBase64Credentials rest
      let (user, pass) := decoded.getD ([], [])
      return (⟨user, pass, decoded.isSome⟩, [(basic ++ rest, ⟨user, pass⟩)])) := by
  have hheader : (basic ++ rest).isEmpty = false := by simp [show basic ≠ [] by decide]
  simp [proxyCredentials, hheader]

/-! ## Panics -/

variable {handlerUser client : Bytes} {users : List GSUser}

theorem handleAuth_panics (hcache : cache.Reachable) {authEnabled : Bool}
    (h : Panics (handleAuthAndAssignUser (isUserValid users) cache auth handlerUser
      authEnabled client)) : authEnabled = true ∧ Oversized auth := by
  cases authEnabled with
  | false => exact absurd h (not_panics_ok _)
  | true =>
    refine ⟨rfl, ?_⟩
    simp only [handleAuthAndAssignUser, if_true, panics_bind_iff] at h
    rcases h with hcredentials | ⟨⟨credentials, next⟩, hcredentials, h⟩
    · exact proxyCredentials_panics hcredentials
    -- a header with credentials starts like one, so the token is there to be read
    · cases hok : credentials.ok with
      | false =>
        simp only [hok, Bool.false_eq_true, if_false] at h
        split at h
        · exact absurd h (not_panics_pure _)
        · exact absurd h (not_panics_pure _)
      | true =>
        obtain ⟨rest, _, rfl, -, -⟩ := proxyCredentials_ok hcache hcredentials hok
        simp only [hok, if_true, isUserValid_basic, ok_bind] at h
        split at h
        · exact absurd h (not_panics_pure _)
        · split at h
          · exact absurd h (not_panics_pure _)
          · exact absurd h (not_panics_pure _)

theorem handleAuth_panics_of_oversized (authHandler : Bytes → Outcome Empty Bool)
    (h : Oversized auth) (handlerUser client : Bytes) :
    Panics (handleAuthAndAssignUser authHandler [] auth handlerUser true client) := by
  obtain ⟨rest, rfl, hlong⟩ := h
  have hcredentials : Panics (proxyCredentials [] (basic ++ rest)) := by
    rw [proxyCredentials_nil_basic, panics_bind_iff]
    exact .inl ((decodeCredentials_panics_iff rest).mpr hlong)
  simp only [handleAuthAndAssignUser, if_true, panics_bind_iff]
  exact .inl hcredentials

variable {next : UsersCache} {credentials : Credentials}

theorem not_oversized_of_ok (hcache : cache.Reachable)
    (h : proxyCredentials cache auth = .ok (credentials, next)) : ¬ Oversized auth := by
  rintro ⟨rest, rfl, hlong⟩
  have hpanics := (decodeCredentials_panics_iff rest).mpr hlong
  have hreturns : ∀ decoded, decodeBase64Credentials rest ≠ .ok decoded := by
    intro decoded hdecoded
    rw [hdecoded] at hpanics
    exact not_panics_ok _ hpanics
  obtain ⟨value, hlookup, -, -⟩ | ⟨-, hfront, -⟩ | ⟨rest', decoded, hauth, hdecoded, -, -⟩ :=
    proxyCredentials_cases h
  · obtain ⟨rest', decoded, hauth, hdecoded, -⟩ := hcache.cachedAs hlookup
    rw [← List.append_cancel_left hauth] at hdecoded
    exact hreturns decoded hdecoded
  · exact hfront (List.prefix_append _ _)
  · rw [← List.append_cancel_left hauth] at hdecoded
    exact hreturns decoded hdecoded

/-! ## Users -/

theorem nobody_of_refused (hcache : cache.Reachable) {result : AuthResult}
    (h : handleAuthAndAssignUser (isUserValid users) cache auth handlerUser true client =
      .ok (result, next)) (hrefused : Refused handlerUser auth client) : Nobody result.user := by
  obtain ⟨credentials, hcredentials, hcase⟩ := handleAuth_cases h
  unfold Refused at hrefused
  by_cases hhandler : handlerUser = []
  · rw [if_pos hhandler] at hrefused
    simp only [hhandler] at hcase
    rcases hcase with ⟨hok, huser⟩ | ⟨-, -, huser⟩ | ⟨hok, -, huser⟩
    · rw [huser]
      rcases hrefused with ⟨user, hnames, -⟩ | ⟨-, hclient⟩
      · obtain ⟨rest, password, rfl, hcolon, hdecode⟩ := id hnames
        obtain ⟨_, hdecoded⟩ := (headerNames_iff_decode rest user).mp hnames
        obtain ⟨_, -, rfl, -⟩ | ⟨-, hfront, -⟩ | ⟨rest', decoded, hauth, hother, rfl, -⟩ :=
          proxyCredentials_cases hcredentials
        · exact nomatch hok
        · exact absurd (List.prefix_append _ _) hfront
        · rw [← List.append_cancel_left hauth, hdecoded] at hother
          cases hother
          exact nomatch hok
      · exact hclient
    · exact .inl huser
    · by_cases hne : result.user = []
      · exact .inl hne
      · obtain ⟨rest, decoded, rfl, hdecoded, hname⟩ :=
          proxyCredentials_ok hcache hcredentials hok
        rw [huser, hname] at hne
        obtain ⟨name, password, rfl, -, -, -⟩ := decodeCredentials_user hdecoded hne
        have hnames := (headerNames_iff_decode rest name).mpr ⟨password, hdecoded⟩
        rcases hrefused with ⟨user, hother, hnobody⟩ | ⟨hnone, -⟩
        · rw [huser, hname, hnames.unique hother]
          exact hnobody
        · exact absurd hnames (hnone name)
  · rw [if_neg hhandler] at hrefused
    have hempty : handlerUser.isEmpty = false := by simpa using hhandler
    simp only [hempty] at hcase
    rcases hcase with ⟨-, huser⟩ | ⟨-, -, huser⟩ | ⟨-, -, huser⟩
    · rw [huser]
      exact hrefused
    · exact .inl huser
    · rw [huser]
      exact hrefused

theorem handleAuth_returns {authHandler : Bytes → Outcome Empty Bool}
    (hcredentials : proxyCredentials cache auth = .ok (credentials, next))
    (hvalid : credentials.ok = true → authHandler auth = .ok true) (handlerUser client : Bytes) :
    ∃ result, handleAuthAndAssignUser authHandler cache auth handlerUser true client =
        .ok (result, next) ∧
      result.user = if handlerUser.isEmpty then
        (if credentials.ok then credentials.user else client) else handlerUser := by
  simp only [handleAuthAndAssignUser, hcredentials, ok_bind]
  cases hok : credentials.ok with
  | false =>
    have hnone := proxyCredentials_not_ok hcredentials hok
    cases hempty : handlerUser.isEmpty with
    | true =>
      refine ⟨_, rfl, ?_⟩
      cases client with
      | nil => simp [hnone]
      | cons b client => rfl
    | false => exact ⟨_, rfl, by simp⟩
  | true =>
    simp only [hvalid hok]
    cases hempty : handlerUser.isEmpty with
    | true | false => exact ⟨_, rfl, by simp⟩

theorem proxyCredentials_nil (hfits : ¬ Oversized auth) :
    ∃ credentials next, proxyCredentials [] auth = .ok (credentials, next) ∧
      (credentials.ok = true → HeaderNames auth credentials.user) ∧
      (credentials.ok = false → ∀ user, ¬ HeaderNames auth user) := by
  cases hcredentials : proxyCredentials [] auth with
  | error fault =>
    cases fault with
    | failure error => exact nomatch error
    | panic reason =>
      have hpanics : Panics (proxyCredentials [] auth) := ⟨reason, hcredentials⟩
      exact absurd (proxyCredentials_panics hpanics) hfits
  | ok pair =>
    obtain ⟨credentials, next⟩ := pair
    refine ⟨credentials, next, rfl, ?_⟩
    obtain ⟨_, hlookup, -, -⟩ | ⟨rfl, hfront, -⟩ | ⟨rest, decoded, rfl, hdecoded, rfl, -⟩ :=
      proxyCredentials_cases hcredentials
    · exact nomatch hlookup
    · refine ⟨fun hok => (nomatch hok), fun _ user hnames => ?_⟩
      obtain ⟨rest, _, rfl, -, -⟩ := hnames
      exact hfront (List.prefix_append _ _)
    · cases decoded with
      | none =>
        refine ⟨fun hok => (nomatch hok), fun _ user hnames => ?_⟩
        obtain ⟨password, hsome⟩ := (headerNames_iff_decode rest user).mp hnames
        rw [hdecoded] at hsome
        exact nomatch hsome
      | some pair =>
        obtain ⟨user, password⟩ := pair
        refine ⟨fun _ => ?_, fun hok => nomatch hok⟩
        exact (headerNames_iff_decode rest user).mpr ⟨password, hdecoded⟩

theorem exists_admitted (hfits : ¬ Oversized auth) (hallowed : ¬ Refused handlerUser auth client) :
    ∃ users result next,
      handleAuthAndAssignUser (isUserValid users) [] auth handlerUser true client =
        .ok (result, next) ∧ ¬ Nobody result.user ∧
      userExists users result.user = true ∧ isUserActive users result.user = true := by
  obtain ⟨credentials, next, hcredentials, hnamed, hunnamed⟩ := proxyCredentials_nil hfits
  -- one account, with the name the request will have and the token it carries
  let account : GSUser := {
    user := if handlerUser.isEmpty then
      (if credentials.ok then credentials.user else client) else handlerUser
    base64String := (auth.drop basic.length).takeWhile (· ≠ 32)
    allowAccess := true }
  have hvalid : credentials.ok = true → isUserValid [account] auth = .ok true := by
    intro hok
    obtain ⟨rest, _, rfl, -, -⟩ := hnamed hok
    rw [isUserValid_basic]
    simp [account]
  obtain ⟨result, hresult, huser⟩ :=
    handleAuth_returns hcredentials hvalid handlerUser client
  refine ⟨[account], result, next, hresult, ?_, ?_, ?_⟩
  · intro hnobody
    apply hallowed
    rw [huser] at hnobody
    unfold Refused
    by_cases hhandler : handlerUser = []
    · rw [if_pos hhandler]
      simp only [hhandler] at hnobody
      cases hok : credentials.ok with
      | true =>
        rw [hok] at hnobody
        exact .inl ⟨credentials.user, hnamed hok, hnobody⟩
      | false =>
        rw [hok] at hnobody
        exact .inr ⟨hunnamed hok, hnobody⟩
    · rw [if_neg hhandler]
      have hempty : handlerUser.isEmpty = false := by simpa using hhandler
      rw [hempty] at hnobody
      exact hnobody
  · rw [huser]
    simp [userExists, account]
  · rw [huser]
    simp [isUserActive, account]

end GateSentry.Proxy
