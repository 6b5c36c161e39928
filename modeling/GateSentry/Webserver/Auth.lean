import GateSentry.Foundation.ByteText
import GateSentry.Foundation.Interruption

/-!
# Administrator sessions

The credentials of the administrator are one stored value.  A login reads it twice, once
to verify the password and once to create the token; setup and changes of the credentials
rewrite it in one transaction each.  Bcrypt, SHA-256 and the tokens are parameters.
-/

namespace GateSentry.Webserver

open Foundation ByteText

/-! ## Stored credentials -/

structure AuthState where
  version : Int
  bootstrapComplete : Bool
  username : Bytes
  passwordHash : Bytes
  sessionGeneration : UInt64
  jwtSecret : Bytes
  deriving DecidableEq

structure GeneralSettings where
  logLocation : Bytes := []
  adminPassword : Bytes := []
  adminUser : Bytes := []

/-- The errors of the manager.  The store, the hash and its comparison have texts of their
own. -/
inductive AuthError where
  | storage
  | parse
  | hash
  | comparison
  | text (message : Bytes)
  deriving DecidableEq

def errSetupComplete : AuthError := .text (utf8 "setup is already complete")

def errInvalidLogin : AuthError := .text (utf8 "invalid credentials")

def validateUsername (username : Bytes) : Except AuthError Unit :=
  if trimSpace username = [] || username ≠ trimSpace username then
    .error (.text (utf8 "username must be non-empty and have no surrounding whitespace"))
  else if username.length > 128 then
    .error (.text (utf8 "username must contain at most 128 bytes"))
  else .ok ()

def validatePassword (password : Bytes) : Except AuthError Unit :=
  if password.length < 12 || password.length > 72 then
    .error (.text (utf8 "password must contain between 12 and 72 bytes"))
  else .ok ()

def validateCredentials (username password : Bytes) : Except AuthError Unit := do
  validateUsername username
  validatePassword password

def validateAuthState (state : AuthState) : Except AuthError Unit :=
  if state.version ≠ 1 || state.jwtSecret.isEmpty || state.sessionGeneration = 0 then
    .error (.text (utf8 "unsupported authentication state"))
  else if state.bootstrapComplete then
    if state.passwordHash.isEmpty then
      .error (.text (utf8 "authentication state is inconsistent"))
    else .ok ()
  else if !state.username.isEmpty || !state.passwordHash.isEmpty then
    .error (.text (utf8 "authentication state is inconsistent"))
  else .ok ()

def marshalAuthState (state : AuthState) : AuthState :=
  { state with
    username := toValidUTF8 state.username
    passwordHash := toValidUTF8 state.passwordHash
    jwtSecret := toValidUTF8 state.jwtSecret }

/-! ## Tokens -/

structure SessionClaims where
  username : Bytes
  generation : UInt64
  issuedAt : Option Int
  notBefore : Option Int
  expiresAt : Option Int
  deriving DecidableEq

structure Token where
  claims : SessionClaims
  signature : Bytes
  deriving DecidableEq

inductive Comparison where
  | matching
  | mismatched
  | broken
  deriving DecidableEq

/-- Bcrypt, SHA-256 and the package of the tokens, with what is assumed of the tokens. -/
structure Crypto where
  generateFromPassword : (salt password : Bytes) → Option Bytes
  compareHashAndPassword : (hash input : Bytes) → Comparison
  legacyPrehash : Bytes → Bytes
  sha256 : Bytes → Bytes
  newNumericDate : Int → Int
  signedString : (secret : Bytes) → SessionClaims → Token
  parseWithClaims : (secret : Bytes) → Token → (now : Int) → Option SessionClaims
  Signed : (secret : Bytes) → Token → Prop
  claims_signedString : ∀ secret claims, (signedString secret claims).claims = claims
  of_parseWithClaims : ∀ {secret token now claims},
    parseWithClaims secret token now = some claims → Signed secret token ∧ claims = token.claims

def Crypto.passwordHashInput (crypto : Crypto) (password : Bytes) : Bytes :=
  if password.length ≤ 72 then password else crypto.legacyPrehash password

def Crypto.Exact (crypto : Crypto) : Prop :=
  ∀ salt password hash, crypto.generateFromPassword salt password = some hash →
    ∀ input, crypto.compareHashAndPassword hash input = .matching ↔ input = password

def nanosPerSecond : Int := 1000000000

def Crypto.sessionClaims (crypto : Crypto) (username : Bytes) (generation : UInt64) (now : Int) :
    SessionClaims where
  username := toValidUTF8 username
  generation := generation
  issuedAt := some (crypto.newNumericDate now)
  notBefore := some (crypto.newNumericDate now)
  expiresAt := some (crypto.newNumericDate (now + 3600 * nanosPerSecond))

/-! ## Programs -/

/-- What a transaction of the store comes to.  After a rename whose directory could not be
synced the new value is in place although an error is returned. -/
inductive Storing where
  | unreadable
  | unwritten
  | uncertain
  | written
  deriving DecidableEq

structure Answer where
  storing : Storing
  salt : Bytes
  now : Int

/-- A token that was sent, the login that it was sent to, and the states that `Verify` and
`CreateToken` read for it. -/
structure Issue where
  token : Token
  username : Bytes
  password : Bytes
  verified : AuthState
  created : AuthState
  deriving DecidableEq

/-- The stored values, of which `none` cannot be parsed, and the tokens sent so far. -/
structure Sessions where
  stored : Option AuthState
  general : Option GeneralSettings
  issued : List Issue

abbrev Authenticating := Proc Answer Sessions

def readAuth (answer : Answer) (s : Sessions) : Except AuthError AuthState :=
  if answer.storing = .unreadable then .error .storage
  else
    match s.stored with
    | none => .error .parse
    | some state => do
      validateAuthState state
      return state

def readAuthState : Authenticating (Except AuthError AuthState) := Proc.look readAuth

/-- `UpdateValue` and `UpdateMap`, with what the transaction makes of the parsed state. -/
def updateWith (update : Answer → AuthState → Except AuthError AuthState)
    (place : AuthState → Sessions → Sessions) : Authenticating (Except AuthError Unit) :=
  Proc.step
    (fun answer s =>
      match readAuth answer s >>= update answer with
      | .error _ => s
      | .ok next => if answer.storing = .unwritten then s else place (marshalAuthState next) s)
    fun answer s =>
      match readAuth answer s >>= update answer with
      | .error error => .error error
      | .ok _ => if answer.storing = .written then .ok () else .error .storage

def placeState (next : AuthState) (s : Sessions) : Sessions := { s with stored := some next }

def placeStateAndGeneral (general : GeneralSettings) (next : AuthState) (s : Sessions) : Sessions :=
  { s with
    stored := some next
    general := some ⟨toValidUTF8 general.logLocation, [], []⟩ }

section Manager

variable (crypto : Crypto)

def passwordHash (salt password : Bytes) : Except AuthError Bytes :=
  match crypto.generateFromPassword salt password with
  | some hash => .ok hash
  | none => .error .hash

def completeSetup (username hash : Bytes) (state : AuthState) : Except AuthError AuthState :=
  if state.bootstrapComplete then .error errSetupComplete
  else
    .ok { state with
      bootstrapComplete := true
      username := username
      passwordHash := hash
      sessionGeneration := state.sessionGeneration + 1 }

def bootstrap (username password : Bytes) : Authenticating (Except AuthError Unit) := do
  match validateCredentials username password with
  | .error error => return .error error
  | .ok () =>
    match ← readAuthState with
    | .error error => return .error error
    | .ok state =>
      if state.bootstrapComplete then return .error errSetupComplete
      else
        match ← Proc.look fun answer _ => passwordHash crypto answer.salt password with
        | .error error => return .error error
        | .ok hash => updateWith (fun _ => completeSetup username hash) placeState

def verifyAgainst (state : AuthState) (username password : Bytes) : Except AuthError Bool :=
  if !state.bootstrapComplete then .ok false
  else
    match crypto.compareHashAndPassword state.passwordHash (crypto.passwordHashInput password) with
    | .mismatched => .ok false
    | .broken => .error .comparison
    | .matching => .ok (crypto.sha256 state.username = crypto.sha256 username)

/-- `Verify`, with the state that it read beside its answer. -/
def verify (username password : Bytes) : Authenticating (Except AuthError (Bool × AuthState)) := do
  match ← readAuthState with
  | .error error => return .error error
  | .ok state =>
    match verifyAgainst crypto state username password with
    | .error error => return .error error
    | .ok verified => return .ok (verified, state)

/-- `CreateToken`, with the state that it read beside the token. -/
def createToken (username : Bytes) : Authenticating (Except AuthError (Token × AuthState)) := do
  match ← readAuthState with
  | .error error => return .error error
  | .ok state =>
    if !state.bootstrapComplete || username ≠ state.username then return .error errInvalidLogin
    else
      let now ← Proc.look fun answer _ => answer.now
      let claims := crypto.sessionClaims username state.sessionGeneration now
      return .ok (crypto.signedString state.jwtSecret claims, state)

def verifyToken (token : Token) : Authenticating (Except AuthError Bytes) :=
  Proc.look fun answer s => do
    let state ← readAuth answer s
    match crypto.parseWithClaims state.jwtSecret token answer.now with
    | none => .error errInvalidLogin
    | some claims =>
      if claims.issuedAt.isNone || claims.notBefore.isNone || claims.expiresAt.isNone ||
          claims.username ≠ state.username ||
          claims.generation ≠ state.sessionGeneration || !state.bootstrapComplete then
        .error errInvalidLogin
      else .ok claims.username

def changedCredentials (username password : Bytes) (answer : Answer) (state : AuthState) :
    Except AuthError AuthState := do
  if !state.bootstrapComplete then .error (.text (utf8 "setup is incomplete"))
  else
    let username := if username.isEmpty then state.username else username
    validateCredentials username password
    let hash ← passwordHash crypto answer.salt password
    return { state with
      username := username
      passwordHash := hash
      sessionGeneration := state.sessionGeneration + 1 }

def changeCredentials (username password : Bytes) : Authenticating (Except AuthError Unit) :=
  if password.isEmpty then return .error (.text (utf8 "a new password is required"))
  else updateWith (changedCredentials crypto username password) placeState

def changedHash (password : Bytes) (answer : Answer) (state : AuthState) :
    Except AuthError Bytes :=
  if password.isEmpty then .ok state.passwordHash
  else do
    validatePassword password
    passwordHash crypto answer.salt password

def changedGeneral (username password : Bytes) (answer : Answer) (state : AuthState) :
    Except AuthError AuthState := do
  if !state.bootstrapComplete then .error (.text (utf8 "setup is incomplete"))
  else
    let username := if username.isEmpty then state.username else username
    validateUsername username
    let hash ← changedHash crypto password answer state
    return { state with
      username := username
      passwordHash := hash
      sessionGeneration := state.sessionGeneration + 1 }

def changeCredentialsAndGeneral (username password : Bytes) (general : GeneralSettings) :
    Authenticating (Except AuthError Unit) :=
  if username.isEmpty && password.isEmpty then
    return .error (.text (utf8 "a new username or password is required"))
  else updateWith (changedGeneral crypto username password) (placeStateAndGeneral general)

/-! ## Requests -/

inductive Reply where
  | refused (message : Bytes) (status : Nat)
  | notValidated
  | session (token : Token) (username : Bytes)
  | changed (result : Except AuthError Unit)

def sendToken (issue : Issue) : Authenticating Unit :=
  Proc.step (fun _ s => { s with issued := s.issued ++ [issue] }) fun _ _ => ()

/-- The handler of `/api/auth/token`. -/
def login (username password : Bytes) : Authenticating Reply := do
  match ← verify crypto username password with
  | .error _ => return .refused (utf8 "unable to verify login") 500
  | .ok (false, _) => return .notValidated
  | .ok (true, verified) =>
    match ← createToken crypto username with
    | .error _ => return .refused (utf8 "unable to create session") 500
    | .ok (token, created) =>
      sendToken ⟨token, username, password, verified, created⟩
      return .session token username

inductive Call where
  | login (username password : Bytes)
  | bootstrap (username password : Bytes)
  | changeCredentials (username password : Bytes)
  | changeCredentialsAndGeneral (username password : Bytes) (general : GeneralSettings)

def Call.program : Call → Authenticating Reply
  | .login username password => Webserver.login crypto username password
  | .bootstrap username password => do
    return .changed (← Webserver.bootstrap crypto username password)
  | .changeCredentials username password => do
    return .changed (← Webserver.changeCredentials crypto username password)
  | .changeCredentialsAndGeneral username password general => do
    return .changed (← Webserver.changeCredentialsAndGeneral crypto username password general)

end Manager

end GateSentry.Webserver
