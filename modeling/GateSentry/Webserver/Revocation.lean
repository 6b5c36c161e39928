import GateSentry.Webserver.Sessions

/-!
# Revoked sessions

Setup, logins, changes of the credentials, restarts, and restores of archives that the
installation made.  All but the restores only count the session generation up, so that a
token of an earlier generation stays rejected; a restore puts the generation back.
-/

namespace GateSentry.Webserver

open Foundation ByteText

/-! ## Starting -/

/-- What a start finds beside the stored record: the bootstrap file, if a path is given, the
administrator in the general settings, and a random secret. -/
structure StartInput where
  bootstrap : Option (Except AuthError (Bytes × Bytes))
  generalParses : Bool
  legacyUser : Option Bytes
  legacyPassword : Option Bytes
  secret : Option Bytes

def readRecord (answer : Answer) (s : Sessions) : Except AuthError (Option AuthState) :=
  if answer.storing = .unreadable then .error .storage
  else
    match s.stored with
    | none => .ok none
    | some state => do
      validateAuthState state
      return some state

section Start

variable (crypto : Crypto)

def legacyState (input : StartInput) (salt : Bytes) (state : AuthState) :
    Except AuthError AuthState :=
  match input.legacyUser, input.legacyPassword with
  | none, none => .ok state
  | some username, some password => do
    let hash ← passwordHash crypto salt (crypto.passwordHashInput password)
    return { state with
      bootstrapComplete := true
      username := username
      passwordHash := hash
      sessionGeneration := state.sessionGeneration + 1 }
  | _, _ => .error (.text (utf8 "legacy administrator credentials are incomplete"))

def unattendedState (unattended : Option (Bytes × Bytes)) (state : AuthState) : AuthState :=
  match unattended with
  | some (username, hash) =>
    if state.bootstrapComplete then state
    else
      { state with
        bootstrapComplete := true
        username := username
        passwordHash := hash
        sessionGeneration := state.sessionGeneration + 1 }
  | none => state

/-- What the transaction of a start makes of the record; a complete one is left alone. -/
def startedState (input : StartInput) (unattended : Option (Bytes × Bytes)) (secret salt : Bytes)
    (found : Option AuthState) : Except AuthError (Option AuthState) := do
  let state := found.getD ⟨1, false, [], [], 1, secret⟩
  if !input.generalParses then .error .parse
  else if state.bootstrapComplete then .ok none
  else
    let state ← legacyState crypto input salt state
    return some (unattendedState unattended state)

def startTransaction (input : StartInput) (unattended : Option (Bytes × Bytes))
    (secret : Bytes) : Authenticating (Except AuthError Unit) :=
  let started (answer : Answer) (s : Sessions) :=
    readRecord answer s >>= startedState crypto input unattended secret answer.salt
  Proc.step
    (fun answer s =>
      match started answer s with
      | .ok (some next) =>
        if answer.storing = .unwritten then s else placeState (marshalAuthState next) s
      | _ => s)
    fun answer s =>
      match started answer s with
      | .error error => .error error
      | .ok none => .ok ()
      | .ok (some _) => if answer.storing = .written then .ok () else .error .storage

def bootstrapInput (input : StartInput) (found : Option AuthState) :
    Except AuthError (Option (Bytes × Bytes)) :=
  if found.any (·.bootstrapComplete) then .ok none
  else
    match input.bootstrap with
    | none => .ok none
    | some (.error error) => .error error
    | some (.ok credentials) => .ok (some credentials)

def unattendedHash (salt : Bytes) :
    Option (Bytes × Bytes) → Except AuthError (Option (Bytes × Bytes))
  | none => .ok none
  | some (username, password) => do
    let hash ← passwordHash crypto salt password
    return some (username, hash)

def newAuthManager (input : StartInput) : Authenticating (Except AuthError Unit) := do
  match ← Proc.look readRecord with
  | .error error => return .error error
  | .ok found =>
    match bootstrapInput input found with
    | .error error => return .error error
    | .ok credentials =>
      match ← Proc.look fun answer _ => unattendedHash crypto answer.salt credentials with
      | .error error => return .error error
      | .ok unattended =>
        match if found.isSome then some [] else input.secret with
        | none => return .error .storage
        | some secret => startTransaction crypto input unattended secret

end Start

/-! ## Backups -/

/-- The sessions, and the record in each archive that was made.  What else is in the
settings and in an archive is left out. -/
structure Installation where
  sessions : Sessions
  archives : List AuthState

abbrev Operating := Proc Answer Installation

def readable (answer : Answer) : Bool := answer.storing ≠ .unreadable

/-- `CreateBackup`.  A server that answers has its record. -/
def createBackup : Operating Bool :=
  Proc.step
    (fun answer s =>
      match s.sessions.stored with
      | some record => if readable answer then { s with archives := s.archives ++ [record] } else s
      | none => s)
    fun answer _ => readable answer

def replaceRecord (record : Option AuthState) : Operating Bool :=
  Proc.step
    (fun answer s =>
      if answer.storing = .unreadable ∨ answer.storing = .unwritten then s
      else { s with sessions := { s.sessions with stored := record } })
    fun answer _ => answer.storing = .written

def succeeds : Operating Bool := Proc.look fun answer _ => answer.storing = .written

/-- `RestoreBackup`, with the rollback of the settings where the devices are not written. -/
def restoreBackup (index : Nat) : Operating Bool := do
  match ← Proc.look fun _ s => s.archives[index]? with
  | none => return false
  | some record =>
    match ← Proc.look fun answer s =>
      if readable answer then some s.sessions.stored else none with
    | none => return false
    | some current =>
      if !(← succeeds) then return false
      else if !(← replaceRecord (some record)) then return false
      else if !(← succeeds) then
        let _ ← replaceRecord current
        return false
      else return true

inductive Operation where
  | request (call : Call)
  | start (input : StartInput)
  | backup
  | restore (index : Nat)

def Operation.isRestore : Operation → Bool
  | .restore _ => true
  | _ => false

inductive OperationReply where
  | reply (reply : Reply)
  | started (result : Except AuthError Unit)
  | done (success : Bool)

def onSessions {α : Type} (p : Authenticating α) : Operating α :=
  p.within (·.sessions) fun sessions s => { s with sessions }

def Operation.program (crypto : Crypto) : Operation → Operating OperationReply
  | .request call => do return .reply (← onSessions (call.program crypto))
  | .start input => do return .started (← onSessions (newAuthManager crypto input))
  | .backup => do return .done (← createBackup)
  | .restore index => do return .done (← restoreBackup index)

/-! ## Generations over a run -/

def Forward (s s' : Sessions) : Prop :=
  ∀ state, s.stored = some state → ∃ next, s'.stored = some next ∧
    (next = state ∨ state.Valid ∧ (next.Valid → state.sessionGeneration ≤ next.sessionGeneration))

theorem forward_refl (s : Sessions) : Forward s s :=
  fun state hstate => ⟨state, hstate, .inl rfl⟩

def AtLeast (generation : UInt64) (s : Sessions) : Prop :=
  ∃ current, s.stored = some current ∧ (current.Valid → generation ≤ current.sessionGeneration)

variable {generation : UInt64}

theorem AtLeast.forward {s s' : Sessions} (h : AtLeast generation s) (hforward : Forward s s') :
    AtLeast generation s' := by
  obtain ⟨current, hcurrent, hleast⟩ := h
  obtain ⟨next, hnext, rfl | ⟨hvalid, hlater⟩⟩ := hforward current hcurrent
  · exact ⟨_, hnext, hleast⟩
  · exact ⟨next, hnext, fun hnextValid => UInt64.le_trans (hleast hvalid) (hlater hnextValid)⟩

variable {state next : AuthState} {s : Sessions}

theorem forward_of_written (hstored : s.stored = some state) (hvalid : state.Valid)
    (hlater : (marshalAuthState next).Valid → state.sessionGeneration ≤ next.sessionGeneration)
    {s' : Sessions} (hs' : s'.stored = some (marshalAuthState next)) : Forward s s' := by
  intro current hcurrent
  cases hstored.symm.trans hcurrent
  exact ⟨_, hs', .inr ⟨hvalid, hlater⟩⟩

theorem le_of_advanced (hvalid : (marshalAuthState next).Valid)
    (h : next.sessionGeneration = state.sessionGeneration + 1) :
    state.sessionGeneration ≤ next.sessionGeneration :=
  UInt64.le_of_lt (lt_of_advanced hvalid h)

variable {crypto : Crypto}

theorem forward_updateWith {update : Answer → AuthState → Except AuthError AuthState}
    {place : AuthState → Sessions → Sessions} (hupdate : Advances update)
    (hplace : Places place) : (updateWith update place).Obeys Forward := by
  apply Proc.obeys_step
  intro answer s
  cases hread : readAuth answer s with
  | error error => exact forward_refl s
  | ok state =>
    cases hnext : update answer state with
    | error error =>
      simp only [bind, Except.bind, hnext]
      exact forward_refl s
    | ok next =>
      simp only [bind, Except.bind, hnext]
      split
      · exact forward_refl s
      · obtain ⟨hstored, hvalid⟩ := readAuth_ok hread
        exact forward_of_written hstored hvalid
          (fun hwritten => le_of_advanced hwritten (hupdate answer state next hnext))
          (hplace.stored _ _)

theorem forward_read : readAuthState.Obeys Forward := Proc.obeys_look forward_refl _

theorem forward_bootstrap (username password : Bytes) :
    (bootstrap crypto username password).Obeys Forward := by
  unfold bootstrap
  cases validateCredentials username password with
  | error error => exact Proc.obeys_pure _
  | ok value =>
    refine Proc.obeys_bind forward_read fun result => ?_
    cases result with
    | error error => exact Proc.obeys_pure _
    | ok state =>
      dsimp only
      split
      · exact Proc.obeys_pure _
      · refine Proc.obeys_bind (Proc.obeys_look forward_refl _) fun hashed => ?_
        cases hashed with
        | error error => exact Proc.obeys_pure _
        | ok hash =>
          exact forward_updateWith (advances_completeSetup username hash) places_placeState

theorem forward_login (username password : Bytes) :
    (login crypto username password).Obeys Forward := by
  have hverify : (verify crypto username password).Obeys Forward := by
    refine Proc.obeys_bind forward_read fun result => ?_
    cases result with
    | error error => exact Proc.obeys_pure _
    | ok state =>
      dsimp only
      split
      · exact Proc.obeys_pure _
      · exact Proc.obeys_pure _
  have hcreate : (createToken crypto username).Obeys Forward := by
    refine Proc.obeys_bind forward_read fun result => ?_
    cases result with
    | error error => exact Proc.obeys_pure _
    | ok state =>
      dsimp only
      split
      · exact Proc.obeys_pure _
      · exact Proc.obeys_bind (Proc.obeys_look forward_refl _) fun now => Proc.obeys_pure _
  have hsend (issue : Issue) : (sendToken issue).Obeys Forward :=
    Proc.obeys_step fun _ s => forward_refl s
  refine Proc.obeys_bind hverify fun verified => ?_
  split
  · exact Proc.obeys_pure _
  · exact Proc.obeys_pure _
  · refine Proc.obeys_bind hcreate fun created => ?_
    split
    · exact Proc.obeys_pure _
    · exact Proc.obeys_bind (hsend _) fun _ => Proc.obeys_pure _

theorem forward_call (call : Call) : (call.program crypto).Obeys Forward := by
  cases call with
  | login username password => exact forward_login username password
  | bootstrap username password =>
    exact Proc.obeys_bind (forward_bootstrap username password) fun _ => Proc.obeys_pure _
  | changeCredentials username password =>
    refine Proc.obeys_bind ?_ fun _ => Proc.obeys_pure _
    unfold changeCredentials
    split
    · exact Proc.obeys_pure _
    · exact forward_updateWith (advances_changedCredentials crypto username password)
        places_placeState
  | changeCredentialsAndGeneral username password general =>
    refine Proc.obeys_bind ?_ fun _ => Proc.obeys_pure _
    unfold changeCredentialsAndGeneral
    split
    · exact Proc.obeys_pure _
    · exact forward_updateWith (advances_changedGeneral crypto username password)
        (places_placeStateAndGeneral general)

/-! ### Starts -/

variable {answer : Answer}

theorem readRecord_some {state : AuthState} {found : Option AuthState}
    (hstored : s.stored = some state) (h : readRecord answer s = .ok found) :
    found = some state ∧ state.Valid := by
  unfold readRecord at h
  rw [hstored] at h
  split at h
  · cases h
  · obtain ⟨value, hvalid, h⟩ := ok_of_bind h
    cases h
    exact ⟨rfl, hvalid⟩

def Counted (state next : AuthState) : Prop :=
  next.sessionGeneration = state.sessionGeneration ∨
    next.sessionGeneration = state.sessionGeneration + 1

theorem counted_started {input : StartInput} {unattended : Option (Bytes × Bytes)}
    {secret salt : Bytes}
    (h : startedState crypto input unattended secret salt (some state) = .ok (some next)) :
    Counted state next := by
  unfold startedState at h
  simp only [Option.getD_some] at h
  split at h
  · cases h
  · split at h
    · cases h
    · next hincomplete =>
      obtain ⟨migrated, hmigrated, h⟩ := ok_of_bind h
      cases h
      unfold legacyState at hmigrated
      split at hmigrated
      · cases hmigrated
        unfold unattendedState
        split
        · split
          · exact .inl rfl
          · exact .inr rfl
        · exact .inl rfl
      · obtain ⟨hash, -, hmigrated⟩ := ok_of_bind hmigrated
        cases hmigrated
        unfold unattendedState
        split
        · exact .inr rfl
        · exact .inr rfl
      · cases hmigrated

theorem forward_startTransaction (input : StartInput) (unattended : Option (Bytes × Bytes))
    (secret : Bytes) : (startTransaction crypto input unattended secret).Obeys Forward := by
  apply Proc.obeys_step
  intro answer s
  split
  · next next hstarted =>
    split
    · exact forward_refl s
    · intro state hstored
      obtain ⟨found, hfound, hnext⟩ := ok_of_bind hstarted
      obtain ⟨rfl, hvalid⟩ := readRecord_some hstored hfound
      refine forward_of_written hstored hvalid (fun hwritten => ?_) rfl state hstored
      rcases counted_started hnext with hsame | hadvanced
      · exact UInt64.le_of_eq hsame.symm
      · exact le_of_advanced hwritten hadvanced
  · exact forward_refl s

theorem forward_newAuthManager (input : StartInput) :
    (newAuthManager crypto input).Obeys Forward := by
  refine Proc.obeys_bind (Proc.obeys_look forward_refl _) fun found => ?_
  split
  · exact Proc.obeys_pure _
  · split
    · exact Proc.obeys_pure _
    · refine Proc.obeys_bind (Proc.obeys_look forward_refl _) fun unattended => ?_
      split
      · exact Proc.obeys_pure _
      · split
        · exact Proc.obeys_pure _
        · exact forward_startTransaction _ _ _

/-! ## Runs -/

def OperationMoves (operation : Operation) (s s' : Installation) : Prop :=
  operation.isRestore = false → Forward s.sessions s'.sessions

theorem forward_onSessions {α : Type} {p : Authenticating α} (h : p.Obeys Forward) :
    (onSessions p).Obeys fun s s' => Forward s.sessions s'.sessions := by
  apply Proc.obeys_within _ h
  intro s sessions hforward
  exact hforward

theorem obeys_program (operation : Operation) :
    (operation.program crypto).Obeys (OperationMoves operation) := by
  have hmono {p : Operating OperationReply}
      (h : p.Obeys fun s s' => Forward s.sessions s'.sessions) :
      p.Obeys (OperationMoves operation) :=
    h.mono fun _ _ hforward _ => hforward
  cases operation with
  | request call =>
    exact hmono (Proc.obeys_bind (forward_onSessions (forward_call call))
      fun _ => Proc.obeys_pure _)
  | start input =>
    exact hmono (Proc.obeys_bind (forward_onSessions (forward_newAuthManager input))
      fun _ => Proc.obeys_pure _)
  | backup =>
    refine hmono (Proc.obeys_bind (Proc.obeys_step fun answer s => ?_) fun _ =>
      Proc.obeys_pure _)
    split
    · split
      · exact forward_refl _
      · exact forward_refl _
    · exact forward_refl _
  | restore index =>
    apply Proc.obeys_always
    intro s s' hrestore
    cases hrestore

section Runs

variable {ι : Type} [DecidableEq ι]

def operationsOn (crypto : Crypto) (operations : ι → Operation) (record : AuthState)
    (general : Option GeneralSettings) : Pool ι Answer Installation OperationReply where
  state := ⟨⟨some record, general, []⟩, []⟩
  threads := fun i => (operations i).program crypto

def revocationsAfter (crypto : Crypto) (operations : ι → Operation) (record : AuthState)
    (general : Option GeneralSettings) (schedule : List (ι × Answer)) : Sessions :=
  ((operationsOn crypto operations record general).run schedule).state.sessions

theorem forward_turn (operations : ι → Operation) (record : AuthState)
    (general : Option GeneralSettings) (schedule : List (ι × Answer)) (turn : ι × Answer)
    (hturn : (operations turn.1).isRestore = false) :
    Forward (revocationsAfter crypto operations record general schedule)
      (revocationsAfter crypto operations record general (schedule ++ [turn])) := by
  unfold revocationsAfter
  rw [Pool.run_append]
  have hstart (i : ι) : ((operationsOn crypto operations record general).threads i).Obeys
      (OperationMoves (operations i)) := obeys_program (operations i)
  have hobeys := Pool.obeys_of_run hstart schedule
  exact Pool.moves_step (fun _ s _ => forward_refl s.sessions) hobeys turn.1 turn.2 hturn

/-- `VerifyToken` reads the record and the token, whose generation is an earlier one. -/
def Superseded (crypto : Crypto) (s : Sessions) (answer : Answer) (token : Token) : Prop :=
  ∃ state claims, readAuth answer s = .ok state ∧
    crypto.parseWithClaims state.jwtSecret token answer.now = some claims ∧
    claims.generation < state.sessionGeneration

variable {token : Token}

theorem Superseded.atLeast (h : Superseded crypto s answer token) :
    ∃ generation, token.claims.generation < generation ∧ AtLeast generation s := by
  obtain ⟨state, claims, hread, hparse, hearlier⟩ := h
  rw [(crypto.of_parseWithClaims hparse).2] at hearlier
  exact ⟨state.sessionGeneration, hearlier, state, (readAuth_ok hread).1,
    fun _ => UInt64.le_refl _⟩

theorem AtLeast.not_admits (h : AtLeast generation s)
    (hearlier : token.claims.generation < generation) : ¬ Admits crypto s answer token := by
  intro hadmits
  obtain ⟨state, hstored, hvalid, -, hgeneration⟩ := admits_stored hadmits
  obtain ⟨current, hcurrent, hleast⟩ := h
  cases hstored.symm.trans hcurrent
  have hle := hleast hvalid
  rw [hgeneration] at hle
  exact absurd hearlier (UInt64.not_lt.mpr hle)

/-- Every restore of the schedule goes forward: whenever it takes a turn, the record that it
puts in place is of no earlier generation than the one it replaces. -/
def RestoresForward (crypto : Crypto) (operations : ι → Operation) (record : AuthState)
    (general : Option GeneralSettings) (schedule : List (ι × Answer)) : Prop :=
  ∀ before turn after, schedule = before ++ turn :: after → (operations turn.1).isRestore = true →
    Forward (revocationsAfter crypto operations record general before)
      (revocationsAfter crypto operations record general (before ++ [turn]))

theorem AtLeast.run {operations : ι → Operation} {record : AuthState}
    {general : Option GeneralSettings} {first second : List (ι × Answer)}
    (hrestores : RestoresForward crypto operations record general (first ++ second))
    (h : AtLeast generation (revocationsAfter crypto operations record general first)) :
    AtLeast generation
      (revocationsAfter crypto operations record general (first ++ second)) := by
  induction second generalizing first with
  | nil => rwa [List.append_nil]
  | cons turn rest ih =>
    have hstep : Forward (revocationsAfter crypto operations record general first)
        (revocationsAfter crypto operations record general (first ++ [turn])) := by
      cases hrestore : (operations turn.1).isRestore with
      | false => exact forward_turn operations record general first turn hrestore
      | true => exact hrestores first turn rest rfl hrestore
    have happend : first ++ turn :: rest = first ++ [turn] ++ rest := by simp
    rw [happend] at hrestores ⊢
    exact ih hrestores (h.forward hstep)

/-- Whatever the interleaving of setup, logins, changes of the credentials, starts, backups
and restores, as long as the restores go forward: a token that was rejected for its earlier
generation is never accepted again. -/
theorem revoked_stays_revoked {ι : Type} [DecidableEq ι] (operations : ι → Operation)
    (record : AuthState) (general : Option GeneralSettings) (first second : List (ι × Answer))
    (hrestores : RestoresForward crypto operations record general (first ++ second))
    (token : Token) (answer later : Answer)
    (hsuperseded : Superseded crypto
      (revocationsAfter crypto operations record general first) answer token) :
    ¬ Admits crypto (revocationsAfter crypto operations record general (first ++ second))
      later token := by
  obtain ⟨generation, hearlier, hleast⟩ := hsuperseded.atLeast
  exact (hleast.run hrestores).not_admits hearlier

end Runs

/-! ## A session that a restore revives -/

def silentStart : StartInput := ⟨none, true, none, none, none⟩

def restoredOperations : Nat → Operation
  | 0 => .request (.login (utf8 "admin") oldPassword)
  | 1 => .backup
  | 2 => .request (.changeCredentials [] newPassword)
  | 3 => .start silentStart
  | _ => .restore 0

def turnsOf (turns : List Nat) : List (Nat × Answer) := turns.map (·, promptAnswer)

def revokedToken : Token :=
  plainCrypto.signedString (utf8 "secret") (plainCrypto.sessionClaims (utf8 "admin") 2 0)

theorem superseded_revokedToken :
    Superseded plainCrypto (revocationsAfter plainCrypto restoredOperations adminState none
      (turnsOf [0, 0, 0, 0, 1, 2])) promptAnswer revokedToken :=
  ⟨changedState, revokedToken.claims, by decide +kernel⟩

/-- The backup is made after the change, so that the restore brings the changed record back. -/
def laterBackup : List (Nat × Answer) :=
  turnsOf [0, 0, 0, 0, 2] ++ turnsOf [1, 3, 3, 3, 4, 4, 4, 4, 4]

theorem stored_laterBackup : ∀ n < 15, 5 ≤ n →
    (revocationsAfter plainCrypto restoredOperations adminState none
      (laterBackup.take n)).stored = some changedState := by
  decide +kernel

theorem restoresForward_laterBackup :
    RestoresForward plainCrypto restoredOperations adminState none laterBackup := by
  intro before turn after hschedule hrestore
  have hturn : laterBackup[before.length]? = some turn := by simp [hschedule]
  have hbefore : laterBackup.take before.length = before := by simp [hschedule]
  have hbound : before.length < 14 := List.getElem?_eq_some_iff.mp hturn |>.1
  have hlate : ∀ n < 14, (laterBackup[n]?.any fun turn =>
      (restoredOperations turn.1).isRestore) = true → 5 ≤ n := by decide
  have hrestored := hlate _ hbound (by rw [hturn]; exact hrestore)
  have hnext := stored_laterBackup (before.length + 1) (by omega) (by omega)
  rw [List.take_add_one, hturn, hbefore] at hnext
  intro state hstate
  have hstored := stored_laterBackup before.length (by omega) hrestored
  rw [hbefore, hstate] at hstored
  exact ⟨changedState, hnext, .inl (Option.some.inj hstored).symm⟩

theorem revoked_stays_revoked_laterBackup :
    (∃ turn ∈ laterBackup, (restoredOperations turn.1).isRestore = true) ∧
    ¬ Admits plainCrypto (revocationsAfter plainCrypto restoredOperations adminState none
      laterBackup) promptAnswer revokedToken :=
  ⟨by decide, revoked_stays_revoked restoredOperations adminState none (turnsOf [0, 0, 0, 0, 2])
    (turnsOf [1, 3, 3, 3, 4, 4, 4, 4, 4]) restoresForward_laterBackup revokedToken promptAnswer
    promptAnswer ⟨changedState, revokedToken.claims, by decide +kernel⟩⟩

/-- The token is rejected after the change, and accepted after the restore. -/
theorem restored_session_revived :
    (∃ issue ∈ (revocationsAfter plainCrypto restoredOperations adminState none
      (turnsOf [0, 0, 0, 0])).issued, issue.token = revokedToken) ∧
    Superseded plainCrypto (revocationsAfter plainCrypto restoredOperations adminState none
      (turnsOf [0, 0, 0, 0, 1, 2])) promptAnswer revokedToken ∧
    Admits plainCrypto (revocationsAfter plainCrypto restoredOperations adminState none
      (turnsOf [0, 0, 0, 0, 1, 2] ++ turnsOf [4, 4, 4, 4, 4])) promptAnswer revokedToken :=
  ⟨⟨⟨revokedToken, utf8 "admin", oldPassword, adminState, adminState⟩, by decide +kernel, rfl⟩,
    superseded_revokedToken, utf8 "admin", by decide +kernel⟩

end GateSentry.Webserver
