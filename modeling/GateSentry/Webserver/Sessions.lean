import GateSentry.Foundation.Interleaving
import GateSentry.Webserver.Auth

/-!
# What backs a session

Logins, setup and changes of the credentials run at the same time.  A stored state is only
ever replaced by one of a later session generation, so a token that is still accepted was
created from the state that is stored.  That state need not be the one that the password of
the login was verified against.
-/

namespace GateSentry.Webserver

open Foundation ByteText

/-! ## Generations -/

def AuthState.Valid (state : AuthState) : Prop := validateAuthState state = .ok ()

variable {state : AuthState}

theorem AuthState.Valid.generation_ne_zero (h : state.Valid) : state.sessionGeneration ≠ 0 := by
  intro hzero
  simp [AuthState.Valid, validateAuthState, hzero] at h

def Moves (s s' : Sessions) : Prop :=
  s'.stored = s.stored ∨ ∃ state, s.stored = some state ∧ state.Valid ∧
    ∀ next, s'.stored = some next → next.Valid → state.sessionGeneration < next.sessionGeneration

theorem moves_refl (s : Sessions) : Moves s s := .inl rfl

theorem moves_trans (a b c : Sessions) (hab : Moves a b) (hbc : Moves b c) : Moves a c := by
  rcases hab with hab | ⟨first, hfirst, hvalid, hlater⟩
  · unfold Moves at hbc ⊢
    rwa [hab] at hbc
  · right
    refine ⟨first, hfirst, hvalid, ?_⟩
    intro next hnext hnextValid
    rcases hbc with hbc | ⟨second, hsecond, hsecondValid, hlast⟩
    · exact hlater next (hbc ▸ hnext) hnextValid
    · exact UInt64.lt_trans (hlater second hsecond hsecondValid) (hlast next hnext hnextValid)

/-- The state was stored, and what is stored now is the same or of a later generation. -/
def Attested (state : AuthState) (s : Sessions) : Prop :=
  ∀ current, s.stored = some current → current.Valid →
    current = state ∨ state.sessionGeneration < current.sessionGeneration

variable {s : Sessions} {s' : Sessions}

theorem Attested.moves (h : Attested state s) (hmoves : Moves s s') : Attested state s' := by
  intro next hnext hvalid
  rcases hmoves with hsame | ⟨current, hcurrent, hcurrentValid, hlater⟩
  · exact h next (hsame ▸ hnext) hvalid
  · right
    have hlt := hlater next hnext hvalid
    rcases h current hcurrent hcurrentValid with rfl | hearlier
    · exact hlt
    · exact UInt64.lt_trans hearlier hlt

theorem Attested.eq_of_generation {current : AuthState}
    (h : Attested state s) (hstored : s.stored = some current) (hvalid : current.Valid)
    (hgeneration : current.sessionGeneration = state.sessionGeneration) : current = state := by
  rcases h current hstored hvalid with heq | hlt
  · exact heq
  · rw [hgeneration] at hlt
    exact absurd hlt (UInt64.lt_irrefl _)

/-! ## Reads and transactions -/

variable {answer : Answer}

theorem readAuth_ok (h : readAuth answer s = .ok state) : s.stored = some state ∧ state.Valid := by
  unfold readAuth at h
  split at h
  · cases h
  · cases hstored : s.stored with
    | none => simp [hstored] at h
    | some current =>
      cases hvalid : validateAuthState current with
      | error error =>
        simp only [hstored, hvalid] at h
        cases h
      | ok value =>
        simp only [hstored, hvalid] at h
        cases h
        exact ⟨rfl, hvalid⟩

theorem attested_of_readAuth (h : readAuth answer s = .ok state) : Attested state s := by
  intro current hcurrent _
  rw [(readAuth_ok h).1] at hcurrent
  cases hcurrent
  exact .inl rfl

def Advances (update : Answer → AuthState → Except AuthError AuthState) : Prop :=
  ∀ answer state next, update answer state = .ok next →
    next.sessionGeneration = state.sessionGeneration + 1

theorem advances_completeSetup (username hash : Bytes) :
    Advances fun _ => completeSetup username hash := by
  intro answer state next h
  simp only [completeSetup] at h
  split at h
  · cases h
  · cases h
    rfl

theorem advances_changedCredentials (crypto : Crypto) (username password : Bytes) :
    Advances (changedCredentials crypto username password) := by
  intro answer state next h
  unfold changedCredentials at h
  split at h
  · cases h
  · obtain ⟨-, -, h⟩ := ok_of_bind h
    obtain ⟨hash, -, h⟩ := ok_of_bind h
    cases h
    rfl

theorem advances_changedGeneral (crypto : Crypto) (username password : Bytes) :
    Advances (changedGeneral crypto username password) := by
  intro answer state next h
  unfold changedGeneral at h
  split at h
  · cases h
  · obtain ⟨-, -, h⟩ := ok_of_bind h
    obtain ⟨hash, -, h⟩ := ok_of_bind h
    cases h
    rfl

structure Places (place : AuthState → Sessions → Sessions) : Prop where
  stored : ∀ next s, (place next s).stored = some next
  issued : ∀ next s, (place next s).issued = s.issued

theorem places_placeState : Places placeState where
  stored := fun _ _ => rfl
  issued := fun _ _ => rfl

theorem places_placeStateAndGeneral (general : GeneralSettings) :
    Places (placeStateAndGeneral general) where
  stored := fun _ _ => rfl
  issued := fun _ _ => rfl

theorem lt_of_advanced {next : AuthState} (hvalid : (marshalAuthState next).Valid)
    (h : next.sessionGeneration = state.sessionGeneration + 1) :
    state.sessionGeneration < next.sessionGeneration := by
  have hne : next.sessionGeneration ≠ 0 := hvalid.generation_ne_zero
  rw [h] at hne ⊢
  rw [UInt64.lt_iff_toNat_lt]
  rw [ne_eq, ← UInt64.toNat_inj] at hne
  simp only [UInt64.toNat_add, UInt64.toNat_one, UInt64.toNat_zero] at hne ⊢
  have := state.sessionGeneration.toNat_lt
  omega

/-! ## The invariant -/

def Accepts (crypto : Crypto) (state : AuthState) (password : Bytes) : Prop :=
  crypto.compareHashAndPassword state.passwordHash (crypto.passwordHashInput password) = .matching

instance (crypto : Crypto) (state : AuthState) (password : Bytes) :
    Decidable (Accepts crypto state password) :=
  inferInstanceAs (Decidable (_ = _))

structure Issue.Sound (crypto : Crypto) (issue : Issue) (s : Sessions) : Prop where
  verified : Attested issue.verified s
  created : Attested issue.created s
  accepted : Accepts crypto issue.verified issue.password
  username : issue.created.username = issue.username
  generation : issue.token.claims.generation = issue.created.sessionGeneration

def AllSound (crypto : Crypto) (s : Sessions) : Prop := ∀ issue ∈ s.issued, issue.Sound crypto s

variable {crypto : Crypto} {issue : Issue}

theorem Issue.Sound.moves (h : issue.Sound crypto s)
    (hmoves : Moves s s') : issue.Sound crypto s' :=
  ⟨h.verified.moves hmoves, h.created.moves hmoves, h.accepted, h.username, h.generation⟩

theorem AllSound.moves (h : AllSound crypto s) (hmoves : Moves s s')
    (hissued : s'.issued = s.issued) : AllSound crypto s' := by
  intro issue hissue
  rw [hissued] at hissue
  exact (h issue hissue).moves hmoves

abbrev Keeps {α : Type} (crypto : Crypto) (post : α → Sessions → Prop)
    (p : Authenticating α) (s : Sessions) : Prop :=
  p.Endures (AllSound crypto) Moves post s

theorem keeps_read {post : Except AuthError AuthState → Sessions → Prop}
    (herror : ∀ error s', Moves s s' → post (.error error) s')
    (hok : ∀ state s', Moves s s' → Attested state s' → post (.ok state) s') :
    Keeps crypto post readAuthState s := by
  apply Proc.endures_look moves_refl
  intro s' hmoves _ answer
  cases hread : readAuth answer s' with
  | error error => exact herror error s' hmoves
  | ok state => exact hok state s' hmoves (attested_of_readAuth hread)

theorem keeps_updateWith {update : Answer → AuthState → Except AuthError AuthState}
    {place : AuthState → Sessions → Sessions} (hupdate : Advances update) (hplace : Places place)
    (s : Sessions) : Keeps crypto (fun _ _ => True) (updateWith update place) s := by
  apply Proc.endures_step
  intro s' _ hinv answer
  cases hread : readAuth answer s' with
  | error error => exact ⟨hinv, moves_refl s', trivial⟩
  | ok state =>
    cases hnext : update answer state with
    | error error =>
      simp only [bind, Except.bind, hnext]
      exact ⟨hinv, moves_refl s', trivial⟩
    | ok next =>
      simp only [bind, Except.bind, hnext]
      split
      · exact ⟨hinv, moves_refl s', trivial⟩
      · obtain ⟨hcurrent, hvalid⟩ := readAuth_ok hread
        have hmoves : Moves s' (place (marshalAuthState next) s') := by
          right
          refine ⟨state, hcurrent, hvalid, ?_⟩
          intro written hwritten hwrittenValid
          rw [hplace.stored, Option.some.injEq] at hwritten
          rw [← hwritten] at hwrittenValid ⊢
          have hlt := lt_of_advanced hwrittenValid (hupdate answer state next hnext)
          exact hlt
        exact ⟨hinv.moves hmoves (hplace.issued _ _), hmoves, trivial⟩

variable (username password : Bytes)

theorem keeps_bootstrap (s : Sessions) :
    Keeps crypto (fun _ _ => True) (bootstrap crypto username password) s := by
  unfold bootstrap
  cases validateCredentials username password with
  | error error => exact Proc.endures_pure trivial
  | ok value =>
    apply Proc.endures_bind
    apply keeps_read
    · intro error s' _
      exact Proc.endures_pure trivial
    · intro state s' _ _
      dsimp only
      split
      · exact Proc.endures_pure trivial
      · apply Proc.endures_bind
        apply Proc.endures_look moves_refl
        intro s'' _ _ answer
        cases passwordHash crypto answer.salt password with
        | error error => exact Proc.endures_pure trivial
        | ok hash =>
          exact keeps_updateWith (advances_completeSetup username hash) places_placeState s''

theorem keeps_changeCredentials (s : Sessions) :
    Keeps crypto (fun _ _ => True) (changeCredentials crypto username password) s := by
  unfold changeCredentials
  split
  · exact Proc.endures_pure trivial
  · exact keeps_updateWith (advances_changedCredentials crypto username password)
      places_placeState s

theorem keeps_changeBoth (general : GeneralSettings) (s : Sessions) :
    Keeps crypto (fun _ _ => True)
      (changeCredentialsAndGeneral crypto username password general) s := by
  unfold changeCredentialsAndGeneral
  split
  · exact Proc.endures_pure trivial
  · exact keeps_updateWith (advances_changedGeneral crypto username password)
      (places_placeStateAndGeneral general) s

/-! ## Logins -/

theorem accepts_of_verifyAgainst {username password : Bytes}
    (h : verifyAgainst crypto state username password = .ok true) :
    Accepts crypto state password := by
  unfold verifyAgainst at h
  split at h
  · cases h
  · cases hcompare : crypto.compareHashAndPassword state.passwordHash
        (crypto.passwordHashInput password) with
    | matching => exact hcompare
    | mismatched | broken => simp [hcompare] at h

theorem keeps_verify {post : Except AuthError (Bool × AuthState) → Sessions → Prop}
    {username password : Bytes} (herror : ∀ error s', post (.error error) s')
    (hrefused : ∀ state s', post (.ok (false, state)) s')
    (hverified : ∀ state s', Attested state s' → Accepts crypto state password →
      post (.ok (true, state)) s') : Keeps crypto post (verify crypto username password) s := by
  apply Proc.endures_bind
  apply keeps_read
  · intro error s' _
    exact Proc.endures_pure (herror error s')
  · intro state s' _ hattested
    cases hverify : verifyAgainst crypto state username password with
    | error error =>
      simp only [hverify]
      exact Proc.endures_pure (herror error s')
    | ok verified =>
      simp only [hverify]
      cases verified with
      | false => exact Proc.endures_pure (hrefused state s')
      | true =>
        exact Proc.endures_pure
          (hverified state s' hattested (accepts_of_verifyAgainst hverify))

theorem keeps_createToken {post : Except AuthError (Token × AuthState) → Sessions → Prop}
    {username : Bytes} (herror : ∀ error s', post (.error error) s')
    (hcreated : ∀ state token s', Moves s s' → Attested state s' → state.username = username →
      token.claims.generation = state.sessionGeneration → post (.ok (token, state)) s') :
    Keeps crypto post (createToken crypto username) s := by
  apply Proc.endures_bind
  apply keeps_read
  · intro error s' _
    exact Proc.endures_pure (herror error s')
  · intro state s' hmoves hattested
    dsimp only
    split
    · exact Proc.endures_pure (herror _ s')
    · rename_i hchecked
      have husername : state.username = username := by
        simp only [Bool.or_eq_true, not_or, decide_eq_true_eq, not_not] at hchecked
        exact hchecked.2.symm
      apply Proc.endures_bind
      apply Proc.endures_look moves_refl
      intro s'' hlater _ answer
      refine Proc.endures_pure (hcreated state _ s'' (moves_trans s s' s'' hmoves hlater)
        (hattested.moves hlater) husername ?_)
      rw [crypto.claims_signedString]
      rfl

theorem keeps_sendToken (h : issue.Sound crypto s) :
    Keeps crypto (fun _ _ => True) (sendToken issue) s := by
  intro s' hmoves hinv answer
  have hsent : Moves s' { s' with issued := s'.issued ++ [issue] } := .inl rfl
  refine ⟨?_, hsent, trivial⟩
  intro other hother
  rcases List.mem_append.mp hother with hold | hnew
  · exact (hinv other hold).moves hsent
  · rw [List.mem_singleton.mp hnew]
    exact h.moves (moves_trans s s' _ hmoves hsent)

theorem keeps_login (s : Sessions) :
    Keeps crypto (fun _ _ => True) (login crypto username password) s := by
  apply Proc.endures_bind
  apply keeps_verify
  · intro error s'
    exact Proc.endures_pure trivial
  · intro state s'
    exact Proc.endures_pure trivial
  · intro verified s' hverified haccepts
    apply Proc.endures_bind
    apply keeps_createToken
    · intro error s''
      exact Proc.endures_pure trivial
    · intro created token s'' hmoves hcreated husername hgeneration
      have hsound : Issue.Sound crypto ⟨token, username, password, verified, created⟩ s'' :=
        ⟨hverified.moves hmoves, hcreated, haccepts, husername, hgeneration⟩
      exact keeps_sendToken hsound

theorem keeps_program (call : Call) (s : Sessions) :
    Keeps crypto (fun _ _ => True) (call.program crypto) s := by
  cases call with
  | login username password => exact keeps_login username password s
  | bootstrap username password => exact Proc.endures_bind (keeps_bootstrap username password s)
  | changeCredentials username password =>
    exact Proc.endures_bind (keeps_changeCredentials username password s)
  | changeCredentialsAndGeneral username password general =>
    exact Proc.endures_bind (keeps_changeBoth username password general s)

/-! ## Runs -/

section Runs

variable {ι : Type} [DecidableEq ι]

def startOf (crypto : Crypto) (calls : ι → Call) (stored : Option AuthState)
    (general : Option GeneralSettings) : Pool ι Answer Sessions Reply where
  state := ⟨stored, general, []⟩
  threads := fun i => (calls i).program crypto

def sessionsAfter (crypto : Crypto) (calls : ι → Call) (stored : Option AuthState)
    (general : Option GeneralSettings) (schedule : List (ι × Answer)) : Sessions :=
  ((startOf crypto calls stored general).run schedule).state

theorem allSound_sessionsAfter (calls : ι → Call) (stored : Option AuthState)
    (general : Option GeneralSettings) (schedule : List (ι × Answer)) :
    AllSound crypto (sessionsAfter crypto calls stored general schedule) := by
  have hstart : (startOf crypto calls stored general).Stands (AllSound crypto) Moves := by
    constructor
    · intro issue hissue
      cases hissue
    · intro i
      exact keeps_program (calls i) _
  exact (hstart.run moves_refl moves_trans schedule).1

end Runs

def Admits (crypto : Crypto) (s : Sessions) (answer : Answer) (token : Token) : Prop :=
  ∃ username, ((verifyToken crypto token).finish answer s).2 = .ok username

def Backed (crypto : Crypto) (s : Sessions) (issue : Issue) : Prop :=
  ∃ state, s.stored = some state ∧ state.sessionGeneration = issue.token.claims.generation ∧
    state.username = issue.username ∧ Accepts crypto state issue.password

theorem admits_stored {token : Token} (h : Admits crypto s answer token) :
    ∃ state, s.stored = some state ∧ state.Valid ∧ crypto.Signed state.jwtSecret token ∧
      state.sessionGeneration = token.claims.generation := by
  obtain ⟨username, h⟩ := h
  simp only [verifyToken, Proc.look, Proc.step, Proc.finish] at h
  cases hread : readAuth answer s with
  | error error => simp [hread, bind, Except.bind] at h
  | ok state =>
    obtain ⟨hstored, hvalid⟩ := readAuth_ok hread
    simp only [hread, bind, Except.bind] at h
    split at h
    · cases h
    · rename_i claims hparse
      obtain ⟨hsigned, rfl⟩ := crypto.of_parseWithClaims hparse
      split at h
      · cases h
      · rename_i hsame
        simp only [Bool.or_eq_true, not_or, decide_eq_true_eq, not_not] at hsame
        exact ⟨state, hstored, hvalid, hsigned, hsame.1.2.symm⟩

theorem Issue.Sound.backed_iff
    (h : issue.Sound crypto s) (hstored : s.stored = some state) (hvalid : state.Valid)
    (hgeneration : state.sessionGeneration = issue.token.claims.generation) :
    Backed crypto s issue ↔ Accepts crypto issue.created issue.password := by
  have hcreated : state = issue.created :=
    h.created.eq_of_generation hstored hvalid (hgeneration.trans h.generation)
  constructor
  · rintro ⟨current, hcurrent, _, _, haccepts⟩
    rw [hstored, Option.some.injEq] at hcurrent
    rwa [← hcreated, hcurrent]
  · intro haccepts
    rw [← hcreated] at haccepts
    exact ⟨state, hstored, hgeneration, hcreated ▸ h.username, haccepts⟩

theorem Issue.Sound.accepts_created (h : issue.Sound crypto s) (hstored : s.stored = some state)
    (hvalid : state.Valid) (hgeneration : state.sessionGeneration = issue.token.claims.generation)
    (hsame : issue.created.sessionGeneration = issue.verified.sessionGeneration) :
    Accepts crypto issue.created issue.password := by
  have hcreated : state.sessionGeneration = issue.created.sessionGeneration :=
    hgeneration.trans h.generation
  have hstate : state = issue.created := h.created.eq_of_generation hstored hvalid hcreated
  have hverified : state = issue.verified :=
    h.verified.eq_of_generation hstored hvalid (hcreated.trans hsame)
  rw [← hstate, hverified]
  exact h.accepted

/-- Whatever the interleaving, a token that is accepted was sent to a login.  The credentials
of its generation back that login exactly if the state that `CreateToken` read accepts the
password, and they do if no change came between the two reads of the login. -/
theorem admitted_backed_iff {ι : Type} [DecidableEq ι] (calls : ι → Call)
    (stored : Option AuthState) (general : Option GeneralSettings)
    (schedule : List (ι × Answer)) (token : Token) (answer : Answer)
    (hunforged : ∀ state, (sessionsAfter crypto calls stored general schedule).stored = some state →
      crypto.Signed state.jwtSecret token →
      ∃ issue ∈ (sessionsAfter crypto calls stored general schedule).issued, issue.token = token)
    (hadmits : Admits crypto (sessionsAfter crypto calls stored general schedule) answer token) :
    (∃ issue ∈ (sessionsAfter crypto calls stored general schedule).issued, issue.token = token) ∧
    ∀ issue ∈ (sessionsAfter crypto calls stored general schedule).issued, issue.token = token →
        (Backed crypto (sessionsAfter crypto calls stored general schedule) issue ↔
          Accepts crypto issue.created issue.password) ∧
        (issue.created.sessionGeneration = issue.verified.sessionGeneration →
          Backed crypto (sessionsAfter crypto calls stored general schedule) issue) := by
  obtain ⟨state, hstored, hvalid, hsigned, hgeneration⟩ := admits_stored hadmits
  refine ⟨hunforged state hstored hsigned, ?_⟩
  intro issue hissue htoken
  have hsound := allSound_sessionsAfter calls stored general schedule issue hissue
  rw [← htoken] at hgeneration
  have hiff := hsound.backed_iff hstored hvalid hgeneration
  exact ⟨hiff, fun hsame => hiff.mpr (hsound.accepts_created hstored hvalid hgeneration hsame)⟩

/-! ## A change between the two reads -/

def plainCrypto : Crypto where
  generateFromPassword _ password := if password.length ≤ 72 then some (1 :: password) else none
  compareHashAndPassword hash input := if hash = 1 :: input then .matching else .mismatched
  legacyPrehash password := password.take 32
  sha256 text := text
  newNumericDate time := time / nanosPerSecond
  signedString secret claims := ⟨claims, secret ++ claims.username⟩
  parseWithClaims secret token now :=
    if token.signature = secret ++ token.claims.username &&
        token.claims.expiresAt.all (fun time => now < time * nanosPerSecond) then
      some token.claims
    else none
  Signed secret token := token.signature = secret ++ token.claims.username
  claims_signedString _ _ := rfl
  of_parseWithClaims := by
    intro secret token now claims h
    split at h
    · next hchecks =>
      rw [Bool.and_eq_true, decide_eq_true_eq] at hchecks
      cases h
      exact ⟨hchecks.1, rfl⟩
    · cases h

theorem exact_plainCrypto : plainCrypto.Exact := by
  intro salt password hash h input
  simp only [plainCrypto] at h ⊢
  split at h
  · cases h
    simp [eq_comm]
  · cases h

def oldPassword : Bytes := utf8 "correct horse"

def newPassword : Bytes := utf8 "battery staple"

def adminState : AuthState where
  version := 1
  bootstrapComplete := true
  username := utf8 "admin"
  passwordHash := 1 :: oldPassword
  sessionGeneration := 2
  jwtSecret := utf8 "secret"

def changedState : AuthState :=
  { adminState with passwordHash := 1 :: newPassword, sessionGeneration := 3 }

def loginAndChange (password : Bytes) (logsIn : Bool) : Call :=
  if logsIn then .login (utf8 "admin") password else .changeCredentials [] newPassword

def promptAnswer : Answer := ⟨.written, [], 0⟩

/-- The sessions after the login, where it is the turn of `true`, and the change. -/
def afterTurns (password : Bytes) (turns : List Bool) : Sessions :=
  sessionsAfter plainCrypto (loginAndChange password) (some adminState) none
    (turns.map (·, promptAnswer))

def sentToken : Token :=
  plainCrypto.signedString (utf8 "secret") (plainCrypto.sessionClaims (utf8 "admin") 3 0)

theorem admitted_backed_newPassword :
    Backed plainCrypto (afterTurns newPassword [false, true, true, true, true])
      ⟨sentToken, utf8 "admin", newPassword, changedState, changedState⟩ := by
  have hissued : (⟨sentToken, utf8 "admin", newPassword, changedState, changedState⟩ : Issue) ∈
      (afterTurns newPassword [false, true, true, true, true]).issued := by decide +kernel
  have hadmits : Admits plainCrypto (afterTurns newPassword [false, true, true, true, true])
      promptAnswer sentToken := ⟨utf8 "admin", by decide +kernel⟩
  exact ((admitted_backed_iff (loginAndChange newPassword) (some adminState) none _ sentToken
    promptAnswer (fun _ _ _ => ⟨_, hissued, rfl⟩) hadmits).2 _ hissued rfl).2 rfl

/-- The change commits between the two reads of a login with the old password.  The login
is sent a token of the new generation. -/
theorem not_backed_oldPassword : plainCrypto.Exact ∧
    Admits plainCrypto (afterTurns oldPassword [true, false, true, true, true]) promptAnswer
      sentToken ∧
    (afterTurns oldPassword [true, false, true, true, true]).stored = some changedState ∧
    (afterTurns oldPassword [true, false, true, true, true]).issued =
      [⟨sentToken, utf8 "admin", oldPassword, adminState, changedState⟩] ∧
    ¬ Backed plainCrypto (afterTurns oldPassword [true, false, true, true, true])
      ⟨sentToken, utf8 "admin", oldPassword, adminState, changedState⟩ := by
  have hstored : (afterTurns oldPassword [true, false, true, true, true]).stored =
      some changedState := by decide +kernel
  refine ⟨exact_plainCrypto, ⟨utf8 "admin", by decide +kernel⟩, hstored, by decide +kernel, ?_⟩
  rintro ⟨state, hstate, -, -, haccepts⟩
  rw [hstored, Option.some.injEq] at hstate
  rw [← hstate] at haccepts
  revert haccepts
  decide +kernel

end GateSentry.Webserver
