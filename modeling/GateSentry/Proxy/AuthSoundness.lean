import Mathlib.Data.List.TakeWhile
import GateSentry.Proxy.Auth

/-!
# Who a header authenticates as

The user comes from decoding the header, while the credential is compared as
text with those of all accounts.  The two agree only for account lists in which
every credential names its own account; the three ways in which a list can fail
to be like that are the three fields of `CredentialsSeparate`.
-/

namespace GateSentry.Proxy

open Foundation ByteText Outcome Accounts

/-- With authentication on, the request passes as a request of `user`. -/
def AuthenticatedAs (users : List GSUser) (cache : UsersCache) (auth client user : Bytes) :
    Prop :=
  ∃ result next,
    handleAuthAndAssignUser (isUserValid users) cache auth [] true client = .ok (result, next) ∧
    result.user = user ∧ user ≠ [] ∧ user ≠ loopback ∧ userExists users user = true

def CarriesCredential (users : List GSUser) (auth user : Bytes) : Prop :=
  ∃ account ∈ users, ∃ password rest, account.user = user ∧
    account.base64String = Base64.encode (user ++ Net.colon :: password) ∧
    auth = basic ++ rest ∧ trimSpace rest = account.base64String

def Usable (user : Bytes) : Prop :=
  user ≠ [] ∧ user ≠ loopback ∧ Net.colon ∉ user ∧ user.length + 1 ≤ smallBufferSize

structure CredentialsSeparate (users : List GSUser) (client : Bytes) : Prop where
  /-- No account is named like the address of the client. -/
  address : ∀ account ∈ users, account.user = client → client = [] ∨ client = loopback
  /-- An account without a credential stands beside unusable names only. -/
  empty : (∃ account ∈ users, account.base64String = []) →
    ∀ account ∈ users, ¬ Usable account.user
  /-- A credential that names an account is a credential of that account. -/
  named : ∀ account ∈ users, ∀ user password,
    account.base64String = Base64.encode (user ++ Net.colon :: password) →
    Usable user → (user ++ Net.colon :: password).length ≤ smallBufferSize →
    (∃ other ∈ users, other.user = user) →
    ∃ other ∈ users, other.user = user ∧ other.base64String = account.base64String

/-! ## The two readings of a header -/

theorem isUserValid_basic (users : List GSUser) (rest : Bytes) :
    isUserValid users (basic ++ rest) =
      .ok (users.any (·.base64String = rest.takeWhile (· ≠ 32))) := by
  have hbasic : basic ++ rest = utf8 "Basic" ++ 32 :: rest := by rfl
  have hindex : (Slice.index (Strings.pieces 32 (basic ++ rest)) 1 : Outcome Empty Bytes) =
      .ok (rest.takeWhile (· ≠ 32)) := by
    rw [hbasic, Strings.pieces_append 32 (by decide), Slice.index_cons_succ, Slice.index,
      Strings.pieces_head]
  rw [isUserValid, hindex]
  rfl

private theorem isPlain_of_isEncodingByte (b : UInt8)
    (h : Base64.isEncodingByte b = true) : isPlain b = true := by
  revert h
  apply byte_forall _ b
  decide +kernel

theorem trimSpace_encode (data : Bytes) : trimSpace (Base64.encode data) = Base64.encode data :=
  trimSpace_of_isPlain fun b hb =>
    isPlain_of_isEncodingByte b (Base64.encode_bytes data b hb)

theorem trimSpace_eq_of_takeWhile {capacity : Nat} {rest data decoded : Bytes}
    (hdata : Base64.encode data ≠ []) (htoken : rest.takeWhile (· ≠ 32) = Base64.encode data)
    (hdecode : Base64.decode capacity (trimSpace rest) = .ok decoded) :
    trimSpace rest = Base64.encode data := by
  have hrest : rest = Base64.encode data ++ rest.dropWhile (· ≠ 32) := by
    rw [← htoken]
    exact List.takeWhile_append_dropWhile.symm
  obtain ⟨kept, hkept, htrim⟩ := trimSpace_append hdata
    (fun b hb => isPlain_of_isEncodingByte b (Base64.encode_bytes data b hb))
    (rest.dropWhile (· ≠ 32))
  rw [← hrest] at htrim
  cases kept with
  | nil => simpa using htrim
  | cons first others =>
    have hfirst : first = 32 := by
      have hhead := List.head?_dropWhile_not (fun b : UInt8 => decide (b ≠ 32)) rest
      obtain ⟨more, hmore⟩ := hkept
      rw [← hmore] at hhead
      simpa using hhead
    have hspace : (32 : UInt8) ∈ trimSpace rest := by
      rw [htrim, hfirst]
      simp
    have hbytes := Base64.decode_ok_bytes hdecode 32 hspace
    exact absurd hbytes (by decide)

theorem userExists_iff (users : List GSUser) (user : Bytes) :
    userExists users user = true ↔ ∃ account ∈ users, account.user = user := by
  simp [userExists]

theorem decodeCredentials_user {rest : Bytes} {decoded : Option (Bytes × Bytes)}
    (h : decodeBase64Credentials rest = .ok decoded) (huser : (decoded.getD ([], [])).1 ≠ []) :
    ∃ user password, decoded = some (user, password) ∧ Net.colon ∉ user ∧
      (user ++ Net.colon :: password).length ≤ smallBufferSize ∧
      Base64.decode smallBufferSize (trimSpace rest) = .ok (user ++ Net.colon :: password) := by
  unfold decodeBase64Credentials at h
  split at h
  · rename_i bytes hdecode
    cases h
    cases hcut : Strings.cut Net.colon bytes with
    | none => simp [hcut] at huser
    | some pair =>
      obtain ⟨user, password⟩ := pair
      obtain ⟨rfl, hcolon⟩ := Strings.eq_append_of_cut hcut
      exact ⟨user, password, rfl, hcolon, Base64.decode_ok_length hdecode, hdecode⟩
  · cases h
    exact absurd rfl huser
  · exact nomatch h

/-! ## Separate credentials are enough -/

private theorem carriesCredential_of_valid {users : List GSUser} {rest user password : Bytes}
    {client : Bytes} (hproper : ∀ account ∈ users, HasCredential account)
    (hseparate : CredentialsSeparate users client)
    (hvalid : isUserValid users (basic ++ rest) = .ok true)
    (husable : Usable user)
    (hlength : (user ++ Net.colon :: password).length ≤ smallBufferSize)
    (hdecode : Base64.decode smallBufferSize (trimSpace rest) =
      .ok (user ++ Net.colon :: password))
    (hexists : ∃ account ∈ users, account.user = user) :
    CarriesCredential users (basic ++ rest) user := by
  rw [isUserValid_basic] at hvalid
  have hany := Except.ok.inj hvalid
  simp only [List.any_eq_true, decide_eq_true_eq] at hany
  obtain ⟨account, haccount, htoken⟩ := hany
  rcases hproper account haccount with hempty | ⟨name, secret, -, hencoded⟩
  · obtain ⟨other, hother, rfl⟩ := hexists
    exact absurd husable (hseparate.empty ⟨account, haccount, hempty⟩ other hother)
  · have hne : Base64.encode (name ++ Net.colon :: secret) ≠ [] := by
      intro hnil
      have hlen := Base64.cleanLength_encode (name ++ Net.colon :: secret)
      rw [hnil, Base64.cleanLength_nil] at hlen
      simp at hlen
    have htrim := trimSpace_eq_of_takeWhile hne (htoken.symm.trans hencoded) hdecode
    -- the credential decodes, so it fits the buffer and decodes to itself
    have hfits : (name ++ Net.colon :: secret).length ≤ smallBufferSize := by
      have hnot : ¬ Panics (Base64.decode smallBufferSize (trimSpace rest)) := by
        rw [hdecode]
        simp
      rw [htrim, Base64.decode_panics_iff, Base64.decodedLength_encode] at hnot
      omega
    rw [htrim, Base64.decode_encode _ _ hfits] at hdecode
    rw [Except.ok.inj hdecode] at hencoded htrim
    obtain ⟨other, hother, hname, hsame⟩ :=
      hseparate.named account haccount user password hencoded husable hlength hexists
    rw [hencoded] at hsame
    exact ⟨other, hother, password, rest, hname, hsame, rfl, htrim.trans hsame.symm⟩

variable {users : List GSUser} {client : Bytes}

theorem carriesCredential_of_separate (hproper : ∀ account ∈ users, HasCredential account)
    (hseparate : CredentialsSeparate users client) {cache : UsersCache} (hcache : cache.Reachable)
    {auth user : Bytes} (h : AuthenticatedAs users cache auth client user) :
    CarriesCredential users auth user := by
  obtain ⟨result, next, hresult, rfl, hne, hloopback, hexists⟩ := h
  rw [userExists_iff] at hexists
  obtain ⟨credentials, hcredentials, hcase⟩ := handleAuth_cases hresult
  rcases hcase with ⟨-, hclient⟩ | ⟨-, -, hnone⟩ | ⟨hok, hvalid, huser⟩
  · obtain ⟨account, haccount, hname⟩ := hexists
    rw [hclient] at hne hloopback hname
    rcases hseparate.address account haccount hname with hempty | hloop
    · exact absurd hempty hne
    · exact absurd hloop hloopback
  · exact absurd hnone hne
  · obtain ⟨rest, decoded, rfl, hdecoded, hname⟩ :=
      proxyCredentials_ok hcache hcredentials hok
    rw [huser, hname] at hne
    obtain ⟨name, password, rfl, hcolon, hlength, hdecode⟩ :=
      decodeCredentials_user hdecoded hne
    have hname' : result.user = name := huser.trans hname
    rw [hname'] at hexists hloopback ⊢
    have hbound : name.length + 1 ≤ smallBufferSize := by
      simp only [List.length_append, List.length_cons] at hlength
      omega
    exact carriesCredential_of_valid hproper hseparate hvalid
      ⟨hne, hloopback, hcolon, hbound⟩ hlength hdecode hexists

/-! ## Headers that are accepted -/

theorem authenticatedAs_of_decode {rest user password : Bytes} (client : Bytes)
    (htoken : ∃ account ∈ users, account.base64String = rest.takeWhile (· ≠ 32))
    (hdecode : Base64.decode smallBufferSize (trimSpace rest) =
      .ok (user ++ Net.colon :: password)) (husable : Usable user)
    (hexists : ∃ account ∈ users, account.user = user) :
    AuthenticatedAs users [] (basic ++ rest) client user := by
  have hcredentials : proxyCredentials [] (basic ++ rest) =
      .ok (⟨user, password, true⟩, [(basic ++ rest, ⟨user, password⟩)]) := by
    simp only [proxyCredentials, List.drop_left,
      decodeBase64Credentials, hdecode, Strings.cut_append _ husable.2.2.1]
    rfl
  have hvalid : isUserValid users (basic ++ rest) = .ok true := by
    rw [isUserValid_basic]
    simpa using htoken
  refine ⟨⟨user, password, user⟩, [(basic ++ rest, ⟨user, password⟩)], ?_, rfl,
    husable.1, husable.2.1, (userExists_iff users user).mpr hexists⟩
  simp only [handleAuthAndAssignUser, if_true, hcredentials, ok_bind, hvalid, ite_self]
  rfl

theorem authenticatedAs_client (hne : client ≠ [])
    (hloopback : client ≠ loopback) (hexists : ∃ account ∈ users, account.user = client) :
    AuthenticatedAs users [] [] client client := by
  refine ⟨⟨client, [], client⟩, [], ?_, rfl, hne, hloopback,
    (userExists_iff users client).mpr hexists⟩
  simp [handleAuthAndAssignUser, proxyCredentials, hne]
  rfl

theorem takeWhile_encode (data : Bytes) :
    (Base64.encode data).takeWhile (· ≠ 32) = Base64.encode data := by
  rw [List.takeWhile_eq_self_iff]
  intro b hb
  have hbyte := Base64.encode_bytes data b hb
  by_contra hspace
  rw [show b = 32 by simpa using hspace] at hbyte
  exact absurd hbyte (by decide)

theorem not_hasCredential_emptyPassword {account : GSUser} {user : Bytes}
    (hproper : HasCredential account) (hcolon : Net.colon ∉ user)
    (h : account.base64String = Base64.encode (user ++ [Net.colon])) : False := by
  rcases hproper with hempty | ⟨name, password, hpassword, hencoded⟩
  · have hlength := Base64.cleanLength_encode (user ++ [Net.colon])
    rw [← h, hempty, Base64.cleanLength_nil] at hlength
    simp at hlength
  · have hsame := Base64.encode_injective (h.symm.trans hencoded)
    obtain ⟨front, last, rfl⟩ : ∃ front last, password = front ++ [last] :=
      ⟨_, _, (List.dropLast_concat_getLast hpassword).symm⟩
    have hsplit : user ++ [Net.colon] = (name ++ Net.colon :: front) ++ [last] := by
      simpa using hsame
    have huser := (List.append_inj' hsplit rfl).1
    rw [huser] at hcolon
    simp at hcolon

/-! ## Separate credentials are needed -/

theorem separate_of_carriesCredential (hproper : ∀ account ∈ users, HasCredential account)
    (h : ∀ auth user, AuthenticatedAs users [] auth client user →
      CarriesCredential users auth user) :
    CredentialsSeparate users client where
  address := by
    intro account haccount hname
    by_contra hother
    rw [not_or] at hother
    obtain ⟨_, _, _, rest, -, -, hauth, -⟩ :=
      h [] client (authenticatedAs_client hother.1 hother.2 ⟨account, haccount, hname⟩)
    have hlength := congrArg List.length hauth
    rw [List.length_append, show basic.length = 6 by decide, List.length_nil] at hlength
    omega
  empty := by
    rintro ⟨account, haccount, hempty⟩ other hother husable
    -- two spaces before the token: the text compared is empty, the decoded one is not
    have htrim : trimSpace (32 :: Base64.encode (other.user ++ [Net.colon])) =
        Base64.encode (other.user ++ [Net.colon]) := by
      rw [trimSpace_space_cons, trimSpace_encode]
    have hdecode : Base64.decode smallBufferSize
        (trimSpace (32 :: Base64.encode (other.user ++ [Net.colon]))) =
          .ok (other.user ++ [Net.colon]) := by
      rw [htrim, Base64.decode_encode]
      simpa using husable.2.2.2
    obtain ⟨owner, howner, password, rest, hname, hcredential, hauth, htoken⟩ :=
      h _ other.user (authenticatedAs_of_decode client
        ⟨account, haccount, by rw [hempty]; rfl⟩ hdecode husable ⟨other, hother, rfl⟩)
    rw [← List.append_cancel_left hauth, htrim] at htoken
    exact not_hasCredential_emptyPassword (hproper owner howner) husable.2.2.1 htoken.symm
  named := by
    intro account haccount user password hencoded husable hlength hexists
    have hdecode : Base64.decode smallBufferSize
        (trimSpace (Base64.encode (user ++ Net.colon :: password))) =
          .ok (user ++ Net.colon :: password) := by
      rw [trimSpace_encode, Base64.decode_encode _ _ hlength]
    have htoken : account.base64String =
        (Base64.encode (user ++ Net.colon :: password)).takeWhile (· ≠ 32) := by
      rw [takeWhile_encode, hencoded]
    obtain ⟨owner, howner, _, rest, hname, -, hauth, hcarried⟩ :=
      h _ user (authenticatedAs_of_decode client ⟨account, haccount, htoken⟩
        hdecode husable hexists)
    rw [← List.append_cancel_left hauth, trimSpace_encode] at hcarried
    exact ⟨owner, howner, hname, hcarried.symm.trans hencoded.symm⟩

/-! ## Soundness -/

/-- Authentication is sound for just those account lists in which every
credential names its own account. -/
theorem authentication_sound_iff (runtime : GSRuntime) (hruntime : runtime.Reachable)
    (client : Bytes) :
    (∀ cache : UsersCache, cache.Reachable → ∀ auth user,
      AuthenticatedAs runtime.authUsers cache auth client user →
        CarriesCredential runtime.authUsers auth user) ↔
      CredentialsSeparate runtime.authUsers client := by
  have hproper := hruntime.proper.2
  constructor
  · intro h
    exact separate_of_carriesCredential hproper (h [] .empty)
  · intro hseparate cache hcache auth user hauthenticated
    exact carriesCredential_of_separate hproper hseparate hcache hauthenticated

theorem user_of_credential {name user password other : Bytes} (hname : Net.colon ∉ name)
    (huser : Usable user) (h : Base64.encode (name ++ Net.colon :: password) =
      Base64.encode (user ++ Net.colon :: other)) : name = user := by
  have hparts := congrArg (Strings.cut Net.colon) (Base64.encode_injective h)
  rw [Strings.cut_append _ hname, Strings.cut_append _ huser.2.2.1] at hparts
  exact congrArg Prod.fst (Option.some.inj hparts)

def bobRuntime : GSRuntime :=
  [AccountOp.create ⟨"bob", "0123456789", true⟩, AccountOp.put ⟨"guest", "abcdefghij", true⟩,
    AccountOp.updateUser ⟨"bob", "", false⟩ {}].foldl AccountOp.run GSRuntime.initial

theorem credentialsSeparate_bobRuntime :
    CredentialsSeparate bobRuntime.authUsers (utf8 "10.0.0.7") where
  address := by decide
  empty := by
    intro h
    exact absurd h (by decide)
  named := by
    have hown : ∀ account ∈ bobRuntime.authUsers, Net.colon ∉ account.user ∧
        ∃ password ∈ [utf8 "0123456789", utf8 "abcdefghij"],
          account.base64String = Base64.encode (account.user ++ Net.colon :: password) := by
      decide
    intro account haccount user password hcredential husable _ _
    obtain ⟨hname, own, -, hown⟩ := hown account haccount
    exact ⟨account, haccount, user_of_credential hname husable (hown.symm.trans hcredential), rfl⟩

theorem authentication_sound_bobRuntime :
    bobRuntime.Reachable ∧ bobRuntime.authUsers.map (·.user) = [utf8 "guest", utf8 "bob"] ∧
      ∀ cache : UsersCache, cache.Reachable → ∀ auth user,
        AuthenticatedAs bobRuntime.authUsers cache auth (utf8 "10.0.0.7") user →
          CarriesCredential bobRuntime.authUsers auth user :=
  ⟨⟨_, rfl⟩, by decide, (authentication_sound_iff bobRuntime ⟨_, rfl⟩ _).mpr
    credentialsSeparate_bobRuntime⟩

def colonRuntime : GSRuntime :=
  [AccountOp.create ⟨"bob", "0123456789", true⟩,
    AccountOp.create ⟨"bob:x", "0123456789", true⟩].foldl AccountOp.run GSRuntime.initial

/-- The header of the account `bob:x` passes as one of the account `bob`. -/
theorem authenticatedAs_bob_colon :
    colonRuntime.Reachable ∧ AuthenticatedAs colonRuntime.authUsers []
        (basic ++ credential "bob:x" "0123456789") (utf8 "10.0.0.7") (utf8 "bob") ∧
      ¬ CarriesCredential colonRuntime.authUsers
        (basic ++ credential "bob:x" "0123456789") (utf8 "bob") := by
  refine ⟨⟨_, rfl⟩, ⟨⟨utf8 "bob", utf8 "x:0123456789", utf8 "bob"⟩, _, rfl, rfl,
    by decide, by decide, by decide⟩, ?_⟩
  rintro ⟨account, haccount, password, rest, hname, -, hauth, hcarried⟩
  rw [← List.append_cancel_left hauth] at hcarried
  have hnone : ∀ account ∈ colonRuntime.authUsers, account.user = utf8 "bob" →
      trimSpace (credential "bob:x" "0123456789") ≠ account.base64String := by decide
  exact hnone account haccount hname hcarried

end GateSentry.Proxy
