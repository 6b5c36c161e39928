import GateSentry.Foundation.Publication
import GateSentry.Policy.Stored

/-!
# Live state and stored documents

Requests commit, read and publish the policy documents in steps that interleave.  They
leave the live state at what is stored, provided that no publication is overtaken.
-/

namespace GateSentry.Policy

open Foundation Publication ByteText Calendar

inductive DocumentKey where
  | policy
  | exceptions
  | pauses
  deriving DecidableEq

def DocumentText : DocumentKey → Type
  | .policy => PolicyText
  | .exceptions => Stored (GrantDocument Exception)
  | .pauses => Stored (GrantDocument Pause)

def LiveView : DocumentKey → Type
  | .policy => PolicySnapshot
  | .exceptions => List Exception
  | .pauses => List Pause

def readDocument : (k : DocumentKey) → DocumentText k → Option (LiveView k)
  | .policy => fun raw => ((decodeDocument raw).map snapshotFromDocument).toOption
  | .exceptions => fun raw => (decodeGrants raw).toOption
  | .pauses => fun raw => (decodeGrants raw).toOption

/-! ## Requests -/

abbrev PolicyInstr := Instr DocumentText LiveView

abbrev PolicyState := State DocumentText LiveView

/-- `Reload`: the policy document is read first and published last. -/
def reloadProgram : List PolicyInstr :=
  [.read .policy, .read .exceptions, .publish .exceptions, .read .pauses, .publish .pauses,
    .publish .policy]

def exceptionProgram (now : Time)
    (transform : PolicySnapshot → List Exception → Except GrantError (List Exception)) :
    List PolicyInstr :=
  [.commit .exceptions fun live raw =>
      (updateGrants (transform (live .policy)) now raw).toOption,
    .read .exceptions, .publish .exceptions]

def pauseProgram (now : Time)
    (transform : PolicySnapshot → List Pause → Except GrantError (List Pause)) :
    List PolicyInstr :=
  [.commit .pauses fun live raw => (updateGrants (transform (live .policy)) now raw).toOption,
    .read .pauses, .publish .pauses]

/-- A request on the policies.  The requests on groups and assignments differ in how they
change the snapshot only, and are followed by a reload. -/
inductive PolicyRequest where
  | changePolicy (transform : PolicySnapshot → Except PolicyError PolicySnapshot) (now : Time)
  | createException (new : Exception) (now : Time)
  | revokeException (id revokedBy : Bytes) (now : Time)
  | pruneExceptions (now : Time)
  | createPause (new : Pause) (now : Time)
  | revokePause (id revokedBy : Bytes) (now : Time)
  | prunePauses (now : Time)
  | reload

def PolicyRequest.program : PolicyRequest → List PolicyInstr
  | .changePolicy transform now =>
    .commit .policy (fun _ raw => (updatePolicy transform now raw).toOption) :: reloadProgram
  | .createException new now => exceptionProgram now (addGrant exceptionKind new)
  | .revokeException id revokedBy now =>
    exceptionProgram now fun _ => revokeByID exceptionKind id revokedBy now
  | .pruneExceptions now =>
    exceptionProgram now fun _ grants => .ok (pruneGrants exceptionKind now grants)
  | .createPause new now => pauseProgram now (addGrant pauseKind new)
  | .revokePause id revokedBy now =>
    pauseProgram now fun _ => revokeByID pauseKind id revokedBy now
  | .prunePauses now => pauseProgram now fun _ grants => .ok (pruneGrants pauseKind now grants)
  | .reload => reloadProgram

theorem PolicyRequest.republishes (request : PolicyRequest) : Republishes request.program := by
  cases request with
  | changePolicy transform now => simp [program, reloadProgram, Republishes, Owes]
  | createException | revokeException | pruneExceptions =>
    simp [program, exceptionProgram, Republishes, Owes]
  | createPause | revokePause | prunePauses => simp [program, pauseProgram, Republishes, Owes]
  | reload => simp [program, reloadProgram, Republishes]

/-! ## Runs -/

section Runs

variable {thread : Type} [DecidableEq thread]

def startOf (stored : (k : DocumentKey) → DocumentText k) (live : (k : DocumentKey) → LiveView k)
    (requests : thread → PolicyRequest) : PolicyState thread where
  stored := stored
  version _ := 0
  live := live
  liveVersion _ := none
  threads i := { program := (requests i).program, held := fun _ => none, failed := false }

omit [DecidableEq thread] in
theorem starts_startOf (stored : (k : DocumentKey) → DocumentText k)
    (live : (k : DocumentKey) → LiveView k) (requests : thread → PolicyRequest) :
    Starts (startOf stored live requests) where
  version _ := rfl
  liveVersion _ := rfl
  held _ _ := rfl

/-- If no request replaces live state by an older read, then once all have returned
success the live groups, assignments, exceptions and pauses are what the documents decode
to, except where neither the document nor the live state has changed. -/
theorem live_eq_stored_of_inOrder (stored : (k : DocumentKey) → DocumentText k)
    (live : (k : DocumentKey) → LiveView k) (requests : thread → PolicyRequest)
    {s : PolicyState thread} (hrun : Reaches readDocument (startOf stored live requests) s)
    (hreturned : AllReturned s) (k : DocumentKey) :
    readDocument k (s.stored k) = some (s.live k) ∨
      (s.live k = live k ∧ s.stored k = stored k) :=
  settled_of_reaches (starts_startOf stored live requests)
    (fun i => (requests i).republishes) hrun hreturned k

/-- In every interleaving, with any failures, whatever is enforced was live at the start or
was what its document decoded to at some instant of the run. -/
theorem enforced_was_stored (stored : (k : DocumentKey) → DocumentText k)
    (live : (k : DocumentKey) → LiveView k) (requests : thread → PolicyRequest)
    {s : PolicyState thread} (hrun : Runs readDocument (startOf stored live requests) s)
    (k : DocumentKey) : s.live k = live k ∨
      WasStored readDocument (startOf stored live requests) s k (s.live k) :=
  (live_wasStored (starts_startOf stored live requests) hrun).1 k

end Runs

def hourException (id : Bytes) : Exception where
  id := id
  domain := utf8 "games.example"
  scope := .installation
  createdAt := 0
  expiresAt := hour
  active := true

def oneExceptionStored : (k : DocumentKey) → DocumentText k
  | .policy => PolicyText.empty
  | .exceptions => Stored.encoded ⟨grantDocumentVersion, [hourException (utf8 "old")], 0⟩
  | .pauses => (Stored.empty : Stored (GrantDocument Pause))

def oneExceptionLive : (k : DocumentKey) → LiveView k
  | .policy => (⟨∅, ∅, documentVersion, zeroTime⟩ : PolicySnapshot)
  | .exceptions => [hourException (utf8 "old")]
  | .pauses => ([] : List Pause)

def revokeAndCreate (revokes : Bool) : PolicyRequest :=
  if revokes then .revokeException (utf8 "old") (utf8 "admin") minute
  else .createException (hourException (utf8 "new")) 0

def afterSchedule (schedule : List Bool) : PolicyState Bool :=
  let start := startOf oneExceptionStored oneExceptionLive revokeAndCreate
  (runSchedule readDocument schedule start).getD start

def serialSchedule : List Bool := [false, false, false, true, true, true]

theorem live_eq_stored_serialSchedule :
    Reaches readDocument (startOf oneExceptionStored oneExceptionLive revokeAndCreate)
        (afterSchedule serialSchedule) ∧
      readDocument .exceptions ((afterSchedule serialSchedule).stored .exceptions) =
        some ((afterSchedule serialSchedule).live .exceptions) ∧
      ((afterSchedule serialSchedule).live .exceptions).map Exception.active = [false, true] := by
  have hschedule : runSchedule readDocument serialSchedule
      (startOf oneExceptionStored oneExceptionLive revokeAndCreate) =
        some (afterSchedule serialSchedule) := rfl
  have hrun := reaches_of_runSchedule hschedule (by decide)
  have hreturned : AllReturned (afterSchedule serialSchedule) := by
    intro i
    cases i with
    | false | true => exact ⟨rfl, rfl⟩
  refine ⟨hrun, ?_, by decide⟩
  rcases live_eq_stored_of_inOrder oneExceptionStored oneExceptionLive revokeAndCreate hrun
    hreturned .exceptions with hlive | ⟨hlive, _⟩
  · exact hlive
  · exact absurd (congrArg List.length hlive) (by decide)

def overtakenSchedule : List Bool := [false, false, true, true, true, false]

/-- Both requests return success and the revoked exception is still enforced. -/
theorem revoked_exception_live_overtakenSchedule :
    Runs readDocument (startOf oneExceptionStored oneExceptionLive revokeAndCreate)
        (afterSchedule overtakenSchedule) ∧
      AllReturned (afterSchedule overtakenSchedule) ∧
      readDocument .exceptions (oneExceptionStored .exceptions) =
        some (oneExceptionLive .exceptions) ∧
      ((afterSchedule overtakenSchedule).live .exceptions).map Exception.active = [true, true] ∧
      ∃ stored, readDocument .exceptions
          ((afterSchedule overtakenSchedule).stored .exceptions) = some stored ∧
        stored.map Exception.active = [false, true] := by
  have hschedule : runSchedule readDocument overtakenSchedule
      (startOf oneExceptionStored oneExceptionLive revokeAndCreate) =
        some (afterSchedule overtakenSchedule) := rfl
  refine ⟨runs_of_runSchedule hschedule, ?_, rfl, by decide, _, rfl, by decide⟩
  intro i
  cases i with
  | false | true => exact ⟨rfl, rfl⟩

theorem enforced_was_stored_overtakenSchedule :
    (afterSchedule overtakenSchedule).live .exceptions ≠ oneExceptionLive .exceptions ∧
      WasStored readDocument (startOf oneExceptionStored oneExceptionLive revokeAndCreate)
        (afterSchedule overtakenSchedule) .exceptions
        ((afterSchedule overtakenSchedule).live .exceptions) := by
  have hschedule : runSchedule readDocument overtakenSchedule
      (startOf oneExceptionStored oneExceptionLive revokeAndCreate) =
        some (afterSchedule overtakenSchedule) := rfl
  have hchanged : (afterSchedule overtakenSchedule).live .exceptions ≠
      oneExceptionLive .exceptions := fun h => absurd (congrArg List.length h) (by decide)
  have horigin := enforced_was_stored oneExceptionStored oneExceptionLive revokeAndCreate
    (runs_of_runSchedule hschedule) .exceptions
  exact ⟨hchanged, horigin.resolve_left hchanged⟩

end GateSentry.Policy
