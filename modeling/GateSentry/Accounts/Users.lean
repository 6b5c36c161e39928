import GateSentry.Foundation.Net
import GateSentry.Foundation.Base64

/-!
# Accounts

The accounts of `users.go` and the user endpoints: the list in the settings
store, the list the runtime holds, and the operations on both.  Byte counters
and the unused `ToDelete` flag are left out.
-/

namespace GateSentry.Accounts

open Foundation ByteText

structure GSUser where
  user : Bytes
  pass : Bytes := []
  base64String : Bytes
  allowAccess : Bool
  deriving DecidableEq

def credential (username password : String) : Bytes :=
  Base64.encode (utf8 username ++ utf8 ":" ++ utf8 password)

/-- `UserInputJsonSingle`. -/
structure UserInput where
  username : String
  password : String
  allowAccess : Bool

/-- `GSUserPublic`. -/
structure UserPublic where
  user : String
  password : String
  allowAccess : Bool

inductive UserReply where
  | ok
  | error (message : String)
  deriving DecidableEq

def errorFailedValidation : String :=
  "Username or password too short. Username must be at least 3 characters and password must be at least 10 characters"

def validateUserInput (input : UserInput) : Bool :=
  !((utf8 input.username).length < 3 || (utf8 input.password).length < 10)

/-! ## The endpoints, on the stored list -/

def gsApiUserCreate (input : UserInput) (stored : List GSUser) :
    UserReply × List GSUser :=
  if !validateUserInput input then (.error errorFailedValidation, stored)
  else
    let newUser : GSUser := {
      user := utf8 (Strings.toLower input.username)
      base64String := credential input.username input.password
      allowAccess := input.allowAccess }
    if stored.any (·.user = newUser.user) then (.error "User already exists", stored)
    else (.ok, stored ++ [newUser])

def gsApiUserPUT (input : UserInput) (stored : List GSUser) : UserReply × List GSUser :=
  if !(utf8 input.password).isEmpty && !validateUserInput input then
    (.error errorFailedValidation, stored)
  else
    (.ok, stored.map fun account =>
      if account.user = utf8 input.username then
        { account with
          allowAccess := input.allowAccess
          base64String :=
            if (utf8 input.password).isEmpty then account.base64String
            else credential input.username input.password }
      else account)

def gsApiUserDELETE (username : Bytes) (stored : List GSUser) : UserReply × List GSUser :=
  (.ok, stored.filter (·.user ≠ username))

/-! ## The runtime -/

/-- The list in the settings store and the list `AuthUsers` in memory. -/
structure GSRuntime where
  stored : List GSUser
  authUsers : List GSUser

/-- The new list is stored and read back, or stored only, or neither. -/
inductive AccountWrite where
  | loaded
  | stored
  | failed
  deriving DecidableEq

structure UpdateAnswer where
  initLoads : Bool := true
  write : AccountWrite := .loaded

namespace GSRuntime

def loadUsers (runtime : GSRuntime) : GSRuntime :=
  { runtime with authUsers := runtime.stored }

def removeUser (runtime : GSRuntime) (username : Bytes) : GSRuntime :=
  { runtime with authUsers := runtime.authUsers.filter (·.user ≠ username) }

def addUser (runtime : GSRuntime) (user pass : Bytes) (write : AccountWrite) : GSRuntime :=
  if runtime.authUsers.any (·.user = user) then runtime
  else if user.isEmpty || pass.isEmpty then runtime
  else
    let newUser : GSUser := { user, pass, base64String := [], allowAccess := false }
    let written := { runtime with stored := runtime.authUsers ++ [newUser] }
    match write with
    | .loaded => loadUsers written
    | .stored => written
    | .failed => runtime

/-- `Init` empties the list in memory before the steps that may fail. -/
def init (runtime : GSRuntime) (loads : Bool) : GSRuntime :=
  if loads then loadUsers runtime else { runtime with authUsers := [] }

/-- `UpdateUser`; a new password goes through `UpdatePassword`, which calls `Init`.  Where a name
is listed twice the last `Init` counts. -/
def updateUser (runtime : GSRuntime) (data : UserPublic) (answer : UpdateAnswer) : GSRuntime :=
  if runtime.authUsers.any (·.user = utf8 data.user) then
    if (utf8 data.password).isEmpty then
      { runtime with
        authUsers := runtime.authUsers.map fun account =>
          if account.user = utf8 data.user then
            { account with allowAccess := data.allowAccess }
          else account }
    else init runtime answer.initLoads
  else addUser runtime (utf8 data.user) (utf8 data.password) answer.write

end GSRuntime

inductive AccountOp where
  | create (input : UserInput)
  | put (input : UserInput)
  | delete (username : Bytes)
  | removeUser (username : Bytes)
  | updateUser (data : UserPublic) (answer : UpdateAnswer)
  | reload
  | reloadFailed

/-- One operation; the endpoints reload the runtime after the write, and a reload
that fails leaves the runtime without accounts. -/
def AccountOp.run (runtime : GSRuntime) : AccountOp → GSRuntime
  | .create input => { runtime with stored := (gsApiUserCreate input runtime.stored).2 }.loadUsers
  | .put input => { runtime with stored := (gsApiUserPUT input runtime.stored).2 }.loadUsers
  | .delete username =>
    { runtime with stored := (gsApiUserDELETE username runtime.stored).2 }.loadUsers
  | .removeUser username => runtime.removeUser username
  | .updateUser data answer => runtime.updateUser data answer
  | .reload => runtime.init true
  | .reloadFailed => runtime.init false

def guest : GSUser :=
  { user := utf8 "guest", base64String := utf8 "Z3Vlc3Q6cGFzc3dvcmQ=", allowAccess := true }

def GSRuntime.initial : GSRuntime := { stored := [guest], authUsers := [guest] }

def GSRuntime.Reachable (runtime : GSRuntime) : Prop :=
  ∃ ops : List AccountOp, runtime = ops.foldl AccountOp.run GSRuntime.initial

/-! ## Looking accounts up -/

def isUserValid (users : List GSUser) (base64string : Bytes) : Outcome Empty Bool := do
  let base64Main ← Slice.index (Strings.pieces 32 base64string) 1
  return users.any (·.base64String = base64Main)

def isUserActive (users : List GSUser) (username : Bytes) : Bool :=
  ((users.find? (·.user = username)).map (·.allowAccess)).getD false

def userExists (users : List GSUser) (username : Bytes) : Bool :=
  users.any (·.user = username)

/-! ## What the operations can store -/

def HasCredential (account : GSUser) : Prop :=
  account.base64String = [] ∨ ∃ name password, password ≠ [] ∧
      account.base64String = Base64.encode (name ++ Net.colon :: password)

def GSRuntime.CredentialsProper (runtime : GSRuntime) : Prop :=
  (∀ account ∈ runtime.stored, HasCredential account) ∧
    ∀ account ∈ runtime.authUsers, HasCredential account

theorem hasCredential_credential {username password : String} {account : GSUser}
    (hpassword : utf8 password ≠ []) (h : account.base64String = credential username password) :
    HasCredential account := by
  refine .inr ⟨utf8 username, utf8 password, hpassword, ?_⟩
  rw [h, credential, List.append_assoc]
  rfl

theorem password_ne_nil_of_valid {input : UserInput}
    (h : validateUserInput input = true) : utf8 input.password ≠ [] := by
  intro hempty
  simp [validateUserInput, hempty] at h

variable {stored : List GSUser}

theorem gsApiUserCreate_proper (input : UserInput) (h : ∀ account ∈ stored, HasCredential account) :
    ∀ account ∈ (gsApiUserCreate input stored).2, HasCredential account := by
  unfold gsApiUserCreate
  split
  · exact h
  · rename_i hvalid
    dsimp only
    split
    · exact h
    · intro account haccount
      rw [List.mem_append, List.mem_singleton] at haccount
      rcases haccount with hold | rfl
      · exact h account hold
      · exact hasCredential_credential
          (password_ne_nil_of_valid (by simpa using hvalid)) rfl

theorem gsApiUserPUT_proper (input : UserInput) (h : ∀ account ∈ stored, HasCredential account) :
    ∀ account ∈ (gsApiUserPUT input stored).2, HasCredential account := by
  unfold gsApiUserPUT
  split
  · exact h
  · intro account haccount
    obtain ⟨old, hold, rfl⟩ := List.mem_map.mp haccount
    by_cases hname : old.user = utf8 input.username
    · rw [if_pos hname]
      by_cases hpassword : (utf8 input.password).isEmpty = true
      · simpa [HasCredential, hpassword] using h old hold
      · have hnonempty : utf8 input.password ≠ [] := by simpa using hpassword
        apply hasCredential_credential hnonempty
        simp only [hpassword]
        rfl
    · rw [if_neg hname]
      exact h old hold

variable {runtime : GSRuntime}

theorem GSRuntime.loadUsers_proper (h : ∀ account ∈ runtime.stored, HasCredential account) :
    runtime.loadUsers.CredentialsProper :=
  ⟨h, h⟩

section

variable (h : runtime.CredentialsProper)

include h

theorem GSRuntime.addUser_proper (user pass : Bytes) (write : AccountWrite) :
    (runtime.addUser user pass write).CredentialsProper := by
  have hwritten : ∀ account ∈ runtime.authUsers ++
      [{ user, pass, base64String := [], allowAccess := false }], HasCredential account := by
    intro account haccount
    rw [List.mem_append, List.mem_singleton] at haccount
    rcases haccount with hold | rfl
    · exact h.2 account hold
    · exact .inl rfl
  unfold GSRuntime.addUser
  split
  · exact h
  · split
    · exact h
    · cases write with
      | loaded => exact GSRuntime.loadUsers_proper hwritten
      | stored => exact ⟨hwritten, h.2⟩
      | failed => exact h

theorem GSRuntime.init_proper (loads : Bool) : (runtime.init loads).CredentialsProper := by
  cases loads with
  | true => exact GSRuntime.loadUsers_proper h.1
  | false => exact ⟨h.1, nofun⟩

theorem GSRuntime.updateUser_proper (data : UserPublic) (answer : UpdateAnswer) :
    (runtime.updateUser data answer).CredentialsProper := by
  unfold GSRuntime.updateUser
  split
  · split
    · refine ⟨h.1, ?_⟩
      intro account haccount
      obtain ⟨old, hold, rfl⟩ := List.mem_map.mp haccount
      split
      · exact h.2 old hold
      · exact h.2 old hold
    · exact GSRuntime.init_proper h _
  · exact GSRuntime.addUser_proper h _ _ _

theorem AccountOp.run_proper (op : AccountOp) : (op.run runtime).CredentialsProper := by
  cases op with
  | create input => exact GSRuntime.loadUsers_proper (gsApiUserCreate_proper input h.1)
  | put input => exact GSRuntime.loadUsers_proper (gsApiUserPUT_proper input h.1)
  | delete username =>
    apply GSRuntime.loadUsers_proper
    intro account haccount
    exact h.1 account (List.mem_of_mem_filter haccount)
  | removeUser username =>
    refine ⟨h.1, ?_⟩
    intro account haccount
    exact h.2 account (List.mem_of_mem_filter haccount)
  | updateUser data answer => exact GSRuntime.updateUser_proper h data answer
  | reload | reloadFailed => exact GSRuntime.init_proper h _

end

theorem GSRuntime.initial_proper : GSRuntime.initial.CredentialsProper := by
  have hguest : HasCredential guest :=
    .inr ⟨utf8 "guest", utf8 "password", by decide, by decide⟩
  constructor
  · intro account haccount
    exact List.mem_singleton.mp haccount ▸ hguest
  · intro account haccount
    exact List.mem_singleton.mp haccount ▸ hguest

theorem AccountOp.runs_proper (ops : List AccountOp) (h : runtime.CredentialsProper) :
    (ops.foldl AccountOp.run runtime).CredentialsProper := by
  induction ops generalizing runtime with
  | nil => exact h
  | cons op ops ih => exact ih (AccountOp.run_proper h op)

theorem GSRuntime.Reachable.proper (h : runtime.Reachable) : runtime.CredentialsProper := by
  obtain ⟨ops, rfl⟩ := h
  exact AccountOp.runs_proper ops GSRuntime.initial_proper

end GateSentry.Accounts
