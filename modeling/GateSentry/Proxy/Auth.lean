import GateSentry.Accounts.Users

/-!
# Proxy authentication

`auth.go`, and `decodeBase64Credentials` of `proxy.go`: how the user of a request
is found from the `Proxy-Authorization` header, the cache of decoded headers and
the client's address.
-/

namespace GateSentry.Proxy

open Foundation ByteText Outcome Accounts

def smallBufferSize : Nat := 4096

/-- The user and password, or nothing where the source returns `ok` as false. -/
def decodeBase64Credentials (auth : Bytes) : Outcome Empty (Option (Bytes × Bytes)) :=
  match Base64.decode smallBufferSize (trimSpace auth) with
  | .ok decoded => .ok (Strings.cut Net.colon decoded)
  | .error (.failure _) => .ok none
  | .error (.panic reason) => panicked reason

structure GSUserCached where
  user : Bytes
  pass : Bytes

abbrev UsersCache := List (Bytes × GSUserCached)

structure Credentials where
  user : Bytes
  pass : Bytes
  ok : Bool

def basic : Bytes := utf8 "Basic "

def proxyCredentials (cache : UsersCache) (auth : Bytes) :
    Outcome Empty (Credentials × UsersCache) :=
  match cache.lookup auth with
  | some value => .ok (⟨value.user, value.pass, true⟩, cache)
  | none =>
    if auth.isEmpty || !basic.isPrefixOf auth then .ok (⟨[], [], false⟩, cache)
    else do
      let decoded ← decodeBase64Credentials (auth.drop basic.length)
      -- a header that cannot be decoded is cached as the empty user
      let (user, pass) := decoded.getD ([], [])
      return (⟨user, pass, decoded.isSome⟩, (auth, ⟨user, pass⟩) :: cache)

structure AuthResult where
  user : Bytes
  pass : Bytes
  authUser : Bytes
  deriving DecidableEq

/-- `HandleAuthAndAssignUser`; `handlerUser` is the user of an inspected
connection and `defaultUser` the address of the client. -/
def handleAuthAndAssignUser (authHandler : Bytes → Outcome Empty Bool)
    (cache : UsersCache) (auth handlerUser : Bytes) (authEnabled : Bool)
    (defaultUser : Bytes) : Outcome Empty (AuthResult × UsersCache) :=
  let assign (user pass authUser : Bytes) : AuthResult :=
    ⟨if authUser.isEmpty then user else authUser, pass, authUser⟩
  if authEnabled then do
    let (credentials, cache) ← proxyCredentials cache auth
    let authUser := if credentials.ok then credentials.user else defaultUser
    let isAuth ← if credentials.ok then authHandler auth else pure true
    if !isAuth then return (⟨[], credentials.pass, authUser⟩, cache)
    else if handlerUser.isEmpty then
      return (assign credentials.user credentials.pass authUser, cache)
    else return (assign handlerUser credentials.pass handlerUser, cache)
  else return (assign [] [] defaultUser, cache)

def loopback : Bytes := utf8 "127.0.0.1"

/-! ## The cache -/

inductive UsersCache.Reachable : UsersCache → Prop where
  | empty : UsersCache.Reachable []
  | request {cache next : UsersCache} {auth : Bytes} {credentials : Credentials} :
      UsersCache.Reachable cache →
      proxyCredentials cache auth = .ok (credentials, next) →
      UsersCache.Reachable next

def CachedAs (auth : Bytes) (value : GSUserCached) : Prop :=
  ∃ rest decoded, auth = basic ++ rest ∧ decodeBase64Credentials rest = .ok decoded ∧
    (value.user, value.pass) = decoded.getD ([], [])

variable {auth : Bytes} {credentials : Credentials} {cache : UsersCache} {next : UsersCache}

theorem proxyCredentials_cases (h : proxyCredentials cache auth = .ok (credentials, next)) :
    (∃ value, cache.lookup auth = some value ∧
      credentials = ⟨value.user, value.pass, true⟩ ∧ next = cache) ∨
    (credentials = ⟨[], [], false⟩ ∧ ¬ basic <+: auth ∧ next = cache) ∨
    (∃ rest decoded, auth = basic ++ rest ∧
      decodeBase64Credentials rest = .ok decoded ∧
      credentials = ⟨(decoded.getD ([], [])).1, (decoded.getD ([], [])).2, decoded.isSome⟩ ∧
      next = (auth, ⟨(decoded.getD ([], [])).1, (decoded.getD ([], [])).2⟩) :: cache) := by
  unfold proxyCredentials at h
  split at h
  · rename_i value hlookup
    cases h
    exact .inl ⟨value, hlookup, rfl, rfl⟩
  · split at h
    · rename_i hheader
      cases h
      refine .inr (.inl ⟨rfl, ?_, rfl⟩)
      rintro ⟨rest, rfl⟩
      have hbasic : basic ≠ [] := by decide
      have hfront : basic.isPrefixOf (basic ++ rest) = true :=
        List.isPrefixOf_iff_prefix.mpr (List.prefix_append _ _)
      simp [hbasic, hfront] at hheader
    · rename_i hheader
      simp only [Bool.or_eq_true, Bool.not_eq_true', not_or,
        Bool.not_eq_false, List.isPrefixOf_iff_prefix] at hheader
      obtain ⟨-, rest, rfl⟩ := hheader
      rw [List.drop_left] at h
      cases hdecoded : decodeBase64Credentials rest with
      | error fault =>
        rw [hdecoded] at h
        exact nomatch h
      | ok decoded =>
        rw [hdecoded] at h
        cases h
        exact .inr (.inr ⟨rest, decoded, rfl, hdecoded, rfl, rfl⟩)

variable {value : GSUserCached}

theorem UsersCache.Reachable.cachedAs_of_mem (h : cache.Reachable) (hmem : (auth, value) ∈ cache) :
    CachedAs auth value := by
  induction h with
  | empty => exact nomatch hmem
  | request _ hrequest ih =>
    obtain ⟨_, -, -, rfl⟩ | ⟨-, -, rfl⟩ | ⟨rest, decoded, rfl, hdecoded, -, rfl⟩ :=
      proxyCredentials_cases hrequest
    · exact ih hmem
    · exact ih hmem
    · rcases List.mem_cons.mp hmem with heq | hold
      · cases heq
        exact ⟨rest, decoded, rfl, hdecoded, rfl⟩
      · exact ih hold

theorem UsersCache.Reachable.cachedAs (h : cache.Reachable)
    (hlookup : cache.lookup auth = some value) : CachedAs auth value := by
  obtain ⟨front, back, rfl, -⟩ := List.lookup_eq_some_iff.mp hlookup
  exact h.cachedAs_of_mem (List.mem_append_right front (List.mem_cons_self ..))

theorem proxyCredentials_ok (hcache : cache.Reachable)
    (h : proxyCredentials cache auth = .ok (credentials, next)) (hok : credentials.ok = true) :
    ∃ rest decoded, auth = basic ++ rest ∧ decodeBase64Credentials rest = .ok decoded ∧
      credentials.user = (decoded.getD ([], [])).1 := by
  obtain ⟨value, hlookup, rfl, -⟩ | ⟨rfl, -, -⟩ | ⟨rest, decoded, rfl, hdecoded, rfl, -⟩ :=
    proxyCredentials_cases h
  · obtain ⟨rest, decoded, rfl, hdecoded, hvalue⟩ := hcache.cachedAs hlookup
    exact ⟨rest, decoded, rfl, hdecoded, congrArg Prod.fst hvalue⟩
  · exact nomatch hok
  · exact ⟨rest, decoded, rfl, hdecoded, rfl⟩

theorem proxyCredentials_not_ok (h : proxyCredentials cache auth = .ok (credentials, next))
    (hok : credentials.ok = false) : credentials.user = [] := by
  obtain ⟨_, -, rfl, -⟩ | ⟨rfl, -, -⟩ | ⟨rest, decoded, -, -, rfl, -⟩ :=
    proxyCredentials_cases h
  · exact nomatch hok
  · rfl
  · cases decoded with
    | none => rfl
    | some pair => exact nomatch hok

/-! ## The user of a request -/

theorem handleAuth_cases {authHandler : Bytes → Outcome Empty Bool}
    {handlerUser client : Bytes} {result : AuthResult}
    (h : handleAuthAndAssignUser authHandler cache auth handlerUser true client =
      .ok (result, next)) :
    ∃ credentials, proxyCredentials cache auth = .ok (credentials, next) ∧
      ((credentials.ok = false ∧
          result.user = if handlerUser.isEmpty then client else handlerUser) ∨
        (credentials.ok = true ∧ authHandler auth = .ok false ∧ result.user = []) ∨
        (credentials.ok = true ∧ authHandler auth = .ok true ∧
          result.user = if handlerUser.isEmpty then credentials.user else handlerUser)) := by
  simp only [handleAuthAndAssignUser] at h
  cases hcredentials : proxyCredentials cache auth with
  | error fault =>
    rw [hcredentials] at h
    exact nomatch h
  | ok pair =>
    obtain ⟨credentials, after⟩ := pair
    rw [hcredentials, ok_bind] at h
    cases hok : credentials.ok with
    | false =>
      have hnone := proxyCredentials_not_ok hcredentials hok
      simp only [hok] at h
      cases hempty : handlerUser.isEmpty with
      | true =>
        simp only [hempty] at h
        cases h
        refine ⟨credentials, rfl, .inl ⟨hok, ?_⟩⟩
        cases client with
        | nil => simp [hnone]
        | cons b client => rfl
      | false =>
        simp only [hempty] at h
        cases h
        exact ⟨credentials, rfl, .inl ⟨hok, rfl⟩⟩
    | true =>
      simp only [hok] at h
      cases hvalid : authHandler auth with
      | error fault =>
        rw [hvalid] at h
        exact nomatch h
      | ok valid =>
        rw [hvalid, ok_bind] at h
        cases valid with
        | false =>
          cases h
          exact ⟨credentials, rfl, .inr (.inl ⟨hok, rfl, rfl⟩)⟩
        | true =>
          cases hempty : handlerUser.isEmpty with
          | true | false =>
            simp only [hempty] at h
            cases h
            exact ⟨credentials, rfl, .inr (.inr ⟨hok, rfl, by simp⟩)⟩

end GateSentry.Proxy
