import GateSentry.Proxy.Admission

/-!
# Accounts under their names

An account is created under a name, gets another password and is removed.  The name is kept in
lower case, while the credential and every later request have it as it is written.
-/

namespace GateSentry.Proxy

open Foundation ByteText Outcome Accounts

def namedText (name password : Bytes) : Bytes := name ++ Net.colon :: password

def Fits (name password : Bytes) : Prop := (namedText name password).length ≤ smallBufferSize

instance (name password : Bytes) : Decidable (Fits name password) :=
  inferInstanceAs (Decidable (_ ≤ _))

/-- A request with this credential passes under this name, and the account is active. -/
def Works (users : List GSUser) (cache : UsersCache) (client name password : Bytes) : Prop :=
  AuthenticatedAs users cache (basic ++ Base64.encode (namedText name password)) client name ∧
    isUserActive users name = true

/-! ## Which credentials pass -/

section Credential

variable {users : List GSUser} {cache : UsersCache} {client name password : Bytes}

theorem fits_of_not_oversized
    (h : ¬ Oversized (basic ++ Base64.encode (namedText name password))) :
    Fits name password := by
  by_contra hlong
  apply h
  refine ⟨_, rfl, ?_⟩
  rw [trimSpace_encode, Base64.decodedLength_encode]
  unfold Fits at hlong
  omega

theorem decodeCredentials_encode (hfits : Fits name password) :
    decodeBase64Credentials (Base64.encode (namedText name password)) =
      .ok (Strings.cut Net.colon (namedText name password)) := by
  unfold decodeBase64Credentials
  rw [trimSpace_encode, Base64.decode_encode _ _ hfits]

theorem isUserValid_encode (data : Bytes) :
    isUserValid users (basic ++ Base64.encode data) =
      .ok (users.any (·.base64String = Base64.encode data)) := by
  rw [isUserValid_basic, takeWhile_encode]

theorem cut_namedText (hcolon : Net.colon ∉ name) :
    Strings.cut Net.colon (namedText name password) = some (name, password) :=
  Strings.cut_append Net.colon hcolon password

theorem proxyCredentials_encode (hcache : cache.Reachable) (hfits : Fits name password) :
    ∃ user pass next, Strings.cut Net.colon (namedText name password) = some (user, pass) ∧
      proxyCredentials cache (basic ++ Base64.encode (namedText name password)) =
        .ok (⟨user, pass, true⟩, next) := by
  obtain ⟨⟨user, pass⟩, hcut⟩ := Strings.exists_cut Net.colon name password
  have hdecoded := decodeCredentials_encode hfits
  rw [namedText, hcut] at hdecoded
  unfold proxyCredentials
  cases hlookup : cache.lookup (basic ++ Base64.encode (namedText name password)) with
  | some value =>
    obtain ⟨rest, decoded, hauth, hvalue, hpair⟩ := hcache.cachedAs hlookup
    rw [← List.append_cancel_left hauth, namedText, hdecoded] at hvalue
    cases hvalue
    cases hpair
    exact ⟨_, _, cache, hcut, rfl⟩
  | none =>
    simp only [List.drop_left]
    rw [namedText, hdecoded]
    exact ⟨user, pass, _, hcut, rfl⟩

theorem authenticatedAs_encode_iff (hcache : cache.Reachable) :
    AuthenticatedAs users cache (basic ++ Base64.encode (namedText name password)) client name ↔
      Usable name ∧ Fits name password ∧
        (∃ account ∈ users, account.base64String = Base64.encode (namedText name password)) ∧
        userExists users name = true := by
  constructor
  · rintro ⟨result, next, hresult, rfl, hne, hloopback, hexists⟩
    obtain ⟨credentials, hcredentials, hcase⟩ := handleAuth_cases hresult
    have hfits := fits_of_not_oversized (not_oversized_of_ok hcache hcredentials)
    obtain ⟨user, pass, next', hcut, hsame⟩ := proxyCredentials_encode hcache hfits
    cases hcredentials.symm.trans hsame
    rcases hcase with ⟨hok, -⟩ | ⟨-, -, hnone⟩ | ⟨-, hvalid, huser⟩
    · cases hok
    · exact absurd hnone hne
    · have huser : result.user = user := huser
      rw [isUserValid_encode] at hvalid
      have hany := Except.ok.inj hvalid
      have hcolon := (Strings.eq_append_of_cut hcut).2
      rw [← huser] at hcolon
      have hlength : result.user.length + 1 ≤ smallBufferSize := by
        simp only [Fits, namedText, List.length_append, List.length_cons] at hfits
        omega
      exact ⟨⟨hne, hloopback, hcolon, hlength⟩, hfits, by simpa using hany, hexists⟩
  · rintro ⟨⟨hne, hloopback, hcolon, -⟩, hfits, htoken, hexists⟩
    obtain ⟨user, pass, next, hcut, hcredentials⟩ := proxyCredentials_encode hcache hfits
    rw [cut_namedText hcolon] at hcut
    cases hcut
    have hvalid : isUserValid users (basic ++ Base64.encode (namedText name password)) =
        .ok true := by
      rw [isUserValid_encode]
      simpa using htoken
    obtain ⟨result, hresult, huser⟩ := handleAuth_returns hcredentials (fun _ => hvalid) [] client
    exact ⟨result, next, hresult, by simpa using huser, hne, hloopback, hexists⟩

end Credential

/-! ## One account through its life -/

section Life

variable (runtime : GSRuntime) (username password newPassword : String)

def createdRuntime : GSRuntime := (AccountOp.create ⟨username, password, true⟩).run runtime

def changedRuntime : GSRuntime :=
  (AccountOp.put ⟨username, newPassword, true⟩).run (createdRuntime runtime username password)

def deletedRuntime (before : GSRuntime) : GSRuntime :=
  (AccountOp.delete (utf8 username)).run before

structure AddressedByName (cache : UsersCache) (client : Bytes) : Prop where
  created : Works (createdRuntime runtime username password).authUsers cache client
    (utf8 username) (utf8 password)
  changed : ∀ other, Works (changedRuntime runtime username password newPassword).authUsers cache
    client (utf8 username) other ↔ other = utf8 newPassword
  deleted : ∀ other, ¬ Works (deletedRuntime username
    (createdRuntime runtime username password)).authUsers cache client (utf8 username) other
  deletedChanged : ∀ other, ¬ Works (deletedRuntime username
    (changedRuntime runtime username password newPassword)).authUsers cache client
    (utf8 username) other

def Unused : Prop :=
  ∀ account ∈ runtime.stored, ∀ variant, Strings.toLower variant = Strings.toLower username →
    account.user ≠ utf8 variant

/-- The name is in lower case and has no colon, both credentials fit, and no other account has
a credential of that name. -/
structure NameHolds : Prop where
  lower : Strings.toLower username = username
  noColon : Net.colon ∉ utf8 username
  notLoopback : utf8 username ≠ loopback
  fits : Fits (utf8 username) (utf8 password)
  fitsNew : Fits (utf8 username) (utf8 newPassword)
  noOther : ∀ account ∈ runtime.stored, ∀ other, Fits (utf8 username) other →
    account.base64String = Base64.encode (namedText (utf8 username) other) →
    other = utf8 newPassword

def newAccount : GSUser where
  user := utf8 (Strings.toLower username)
  base64String := credential username password
  allowAccess := true

end Life

section Life

variable {runtime : GSRuntime} {username password newPassword : String} {cache : UsersCache}
  {client : Bytes}

theorem credential_eq (username password : String) :
    credential username password = Base64.encode (namedText (utf8 username) (utf8 password)) := by
  unfold credential namedText
  rw [List.append_assoc]
  rfl

theorem authUsers_created
    (hcreate : (gsApiUserCreate ⟨username, password, true⟩ runtime.stored).1 = .ok) :
    (createdRuntime runtime username password).authUsers =
      runtime.stored ++ [newAccount username password] := by
  change (gsApiUserCreate ⟨username, password, true⟩ runtime.stored).2 = _
  unfold gsApiUserCreate at hcreate ⊢
  split at hcreate
  · cases hcreate
  · next hvalid =>
    rw [if_neg hvalid]
    dsimp only at hcreate ⊢
    split at hcreate
    · cases hcreate
    · next hnew =>
      rw [if_neg hnew]
      rfl

theorem Unused.ne (h : Unused runtime username) {account : GSUser}
    (haccount : account ∈ runtime.stored) : account.user ≠ utf8 username :=
  h account haccount username rfl

theorem authUsers_changed
    (hcreate : (gsApiUserCreate ⟨username, password, true⟩ runtime.stored).1 = .ok)
    (hunused : Unused runtime username)
    (hchange : validateUserInput ⟨username, newPassword, true⟩ = true)
    (hlower : utf8 (Strings.toLower username) = utf8 username) :
    (changedRuntime runtime username password newPassword).authUsers =
      runtime.stored ++ [newAccount username newPassword] := by
  have hnonempty : (utf8 newPassword).isEmpty = false := by
    simpa using password_ne_nil_of_valid hchange
  have hkept : runtime.stored.map (fun account =>
      if account.user = utf8 username then
        { account with
          allowAccess := true
          base64String := credential username newPassword }
      else account) = runtime.stored := by
    conv_rhs => rw [← List.map_id runtime.stored]
    apply List.map_congr_left
    intro account haccount
    rw [if_neg (hunused.ne haccount)]
    rfl
  change (gsApiUserPUT ⟨username, newPassword, true⟩
    (createdRuntime runtime username password).authUsers).2 = _
  rw [authUsers_created hcreate]
  simp only [gsApiUserPUT, hchange, hnonempty, Bool.false_eq_true,
    if_false, List.map_append, hkept]
  simp [newAccount, hlower]

theorem authUsers_deleted (hunused : Unused runtime username)
    (hlower : utf8 (Strings.toLower username) = utf8 username) {before : GSRuntime}
    {password : String}
    (hbefore : before.authUsers = runtime.stored ++ [newAccount username password])
    (hstored : before.stored = before.authUsers) :
    (deletedRuntime username before).authUsers = runtime.stored := by
  change (gsApiUserDELETE (utf8 username) before.stored).2 = _
  rw [hstored, hbefore]
  have hkept : runtime.stored.filter (fun account => decide (account.user ≠ utf8 username)) =
      runtime.stored := by
    rw [List.filter_eq_self]
    intro account haccount
    exact decide_eq_true (hunused.ne haccount)
  simp only [gsApiUserDELETE, List.filter_append, hkept]
  simp [newAccount, hlower]

theorem isUserActive_newAccount (hunused : Unused runtime username)
    (hlower : utf8 (Strings.toLower username) = utf8 username) :
    isUserActive (runtime.stored ++ [newAccount username password]) (utf8 username) = true := by
  have hnone : runtime.stored.find? (·.user = utf8 username) = none := by
    rw [List.find?_eq_none]
    intro account haccount
    simpa using hunused.ne haccount
  simp [isUserActive, hnone, newAccount, hlower]

theorem user_newAccount (username password : String) :
    (newAccount username password).user = utf8 (Strings.toLower username) := rfl

theorem userExists_newAccount_iff (hunused : Unused runtime username) :
    userExists (runtime.stored ++ [newAccount username password]) (utf8 username) = true ↔
      utf8 (Strings.toLower username) = utf8 username := by
  rw [userExists_iff]
  constructor
  · rintro ⟨account, haccount, hname⟩
    rcases List.mem_append.mp haccount with hstored | hnew
    · exact absurd hname (hunused.ne hstored)
    · rw [List.mem_singleton.mp hnew, user_newAccount] at hname
      exact hname
  · intro hlower
    exact ⟨_, List.mem_append_right _ (List.mem_singleton_self _),
      (user_newAccount username password).trans hlower⟩

theorem works_newAccount_iff (hcache : cache.Reachable) (hunused : Unused runtime username)
    (hlower : utf8 (Strings.toLower username) = utf8 username) (husable : Usable (utf8 username))
    (other : Bytes) :
    Works (runtime.stored ++ [newAccount username password]) cache client (utf8 username) other ↔
      Fits (utf8 username) other ∧ (other = utf8 password ∨ ∃ account ∈ runtime.stored,
        account.base64String = Base64.encode (namedText (utf8 username) other)) := by
  unfold Works
  rw [authenticatedAs_encode_iff hcache]
  simp only [husable, isUserActive_newAccount hunused hlower,
    (userExists_newAccount_iff hunused).mpr hlower, true_and, and_true]
  constructor
  · rintro ⟨hfits, account, haccount, htoken⟩
    refine ⟨hfits, ?_⟩
    rcases List.mem_append.mp haccount with hstored | hnew
    · exact .inr ⟨account, hstored, htoken⟩
    · rw [List.mem_singleton.mp hnew] at htoken
      have hsame :=
        Base64.encode_injective ((credential_eq username password).symm.trans htoken)
      exact .inl (List.cons.inj (List.append_cancel_left hsame)).2.symm
  · rintro ⟨hfits, rfl | ⟨account, hstored, htoken⟩⟩
    · exact ⟨hfits, _, List.mem_append_right _ (List.mem_singleton_self _),
        credential_eq username password⟩
    · exact ⟨hfits, account, List.mem_append_left _ hstored, htoken⟩

theorem not_works_stored (hcache : cache.Reachable) (hunused : Unused runtime username)
    (other : Bytes) : ¬ Works runtime.stored cache client (utf8 username) other := by
  rintro ⟨hauthenticated, -⟩
  obtain ⟨-, -, -, hexists⟩ := (authenticatedAs_encode_iff hcache).mp hauthenticated
  obtain ⟨account, haccount, hname⟩ := (userExists_iff _ _).mp hexists
  exact hunused.ne haccount hname

/-- The name that an account is created with addresses it exactly if it is in lower case and
can be told from the password in a credential. -/
theorem account_addressed_iff
    (hcreate : (gsApiUserCreate ⟨username, password, true⟩ runtime.stored).1 = .ok)
    (hunused : Unused runtime username)
    (hchange : validateUserInput ⟨username, newPassword, true⟩ = true) :
    (∀ cache : UsersCache, cache.Reachable →
      AddressedByName runtime username password newPassword cache client) ↔
      NameHolds runtime username password newPassword := by
  have hcreated := authUsers_created hcreate
  constructor
  · intro haddressed
    have hempty := haddressed [] .empty
    have hworks := hempty.created
    rw [hcreated] at hworks
    obtain ⟨husable, hfits, -, hexists⟩ :=
      (authenticatedAs_encode_iff UsersCache.Reachable.empty).mp hworks.1
    have hlower := (userExists_newAccount_iff hunused).mp hexists
    have hchanged := hempty.changed
    rw [authUsers_changed hcreate hunused hchange hlower] at hchanged
    have hpasses (other : Bytes) : Works (runtime.stored ++ [newAccount username newPassword])
        [] client (utf8 username) other ↔ _ :=
      works_newAccount_iff UsersCache.Reachable.empty hunused hlower husable other
    refine ⟨utf8_injective hlower, husable.2.2.1, husable.2.1, hfits, ?_, ?_⟩
    · exact ((hpasses _).mp ((hchanged _).mpr rfl)).1
    · intro account haccount other hother htoken
      exact (hchanged other).mp ((hpasses other).mpr ⟨hother, .inr ⟨account, haccount, htoken⟩⟩)
  · intro hname cache hcache
    have hlower : utf8 (Strings.toLower username) = utf8 username := congrArg utf8 hname.lower
    have hchanged := authUsers_changed hcreate hunused hchange hlower
    have husable : Usable (utf8 username) := by
      refine ⟨?_, hname.notLoopback, hname.noColon, ?_⟩
      · intro hnil
        simp [validateUserInput, hnil] at hchange
      · have hfits := hname.fits
        simp only [Fits, namedText, List.length_append, List.length_cons] at hfits
        omega
    constructor
    · rw [hcreated, works_newAccount_iff hcache hunused hlower husable]
      exact ⟨hname.fits, .inl rfl⟩
    · intro other
      rw [hchanged, works_newAccount_iff hcache hunused hlower husable]
      constructor
      · rintro ⟨hother, rfl | ⟨account, haccount, htoken⟩⟩
        · rfl
        · exact hname.noOther account haccount other hother htoken
      · rintro rfl
        exact ⟨hname.fitsNew, .inl rfl⟩
    · intro other
      rw [authUsers_deleted hunused hlower hcreated rfl]
      exact not_works_stored hcache hunused other
    · intro other
      rw [authUsers_deleted hunused hlower hchanged rfl]
      exact not_works_stored hcache hunused other

end Life

theorem unused_initial {username : String} (h : Strings.toLower "guest" ≠ Strings.toLower username) :
    Unused GSRuntime.initial username := by
  intro account haccount variant hvariant hname
  rw [List.mem_singleton.mp haccount] at hname
  rw [← utf8_injective hname] at hvariant
  exact h hvariant

theorem account_addressed_bob :
    AddressedByName GSRuntime.initial "bob" "0123456789" "abcdefghij" [] (utf8 "10.0.0.7") := by
  refine (account_addressed_iff (by decide) (unused_initial (by decide)) (by decide)).mpr ?_ []
    .empty
  refine ⟨by decide, by decide, by decide, by decide, by decide, ?_⟩
  intro account haccount other _ htoken
  rw [List.mem_singleton.mp haccount] at htoken
  have hguest : guest.base64String = Base64.encode (namedText (utf8 "guest") (utf8 "password")) := by
    decide
  have hsame := Base64.encode_injective (htoken.symm.trans hguest)
  have hhead : some (98 : UInt8) = some 103 := congrArg List.head? hsame
  exact absurd hhead (by decide)

/-- A name with a capital letter: the new account cannot be used, its password cannot be
changed, and it cannot be removed. -/
theorem account_not_addressed_bob :
    (gsApiUserCreate ⟨"Bob", "0123456789", true⟩ GSRuntime.initial.stored).1 = .ok ∧
      Unused GSRuntime.initial "Bob" ∧
      ¬ Works (createdRuntime GSRuntime.initial "Bob" "0123456789").authUsers []
        (utf8 "10.0.0.7") (utf8 "Bob") (utf8 "0123456789") ∧
      (deletedRuntime "Bob" (changedRuntime GSRuntime.initial "Bob" "0123456789"
        "abcdefghij")).authUsers = (createdRuntime GSRuntime.initial "Bob" "0123456789").authUsers := by
  refine ⟨by decide, unused_initial (by decide), ?_, by decide⟩
  rintro ⟨-, hactive⟩
  exact absurd hactive (by decide)

end GateSentry.Proxy
