import GateSentry.Foundation.Publication
import GateSentry.Policy.AccessRequest
import GateSentry.Policy.Stored

/-!
# Approving access requests

`ApproveAccessRequest` stores its exception in one transaction, refreshes the live ones,
and marks the request in another transaction.  Approvals, rejections, submissions and
changes of exceptions interleave.
-/

namespace GateSentry.Policy

open Foundation Publication ByteText Calendar

inductive ReviewKey where
  | exceptions
  | requests
  deriving DecidableEq

def ReviewText : ReviewKey → Type
  | .exceptions => Stored (GrantDocument Exception)
  | .requests => Stored (GrantDocument AccessRequest)

def ReviewView : ReviewKey → Type
  | .exceptions => List Exception
  | .requests => Unit

def readReview : (k : ReviewKey) → ReviewText k → Option (ReviewView k)
  | .exceptions => fun raw => (decodeGrants raw).toOption
  | .requests => fun _ => some ()

abbrev ReviewInstr := Instr ReviewText ReviewView

abbrev ReviewState := State ReviewText ReviewView

/-! ## Calls -/

/-- A call with what it draws from the clock and the random ids, the policies that it sees,
and the answer of the rate limiter. -/
inductive AccessCall where
  | approve (requestID adminUser : Bytes) (input : GrantInput) (exceptionID : Bytes)
      (policies : PolicySnapshot) (now reviewedAt : Time)
  | reject (requestID adminUser : Bytes) (now : Time)
  | submit (domain reason clientIP id : Bytes) (now : Time) (allowed : Bool)
  | createException (input : GrantInput) (createdBy exceptionID : Bytes)
      (policies : PolicySnapshot) (now : Time)
  | revokeException (id revokedBy : Bytes) (now : Time)
  | pruneExceptions (now : Time)

def commitExceptions (now : Time)
    (transform : List Exception → Except GrantError (List Exception)) : ReviewInstr :=
  .commit .exceptions fun _ raw => (updateGrants transform now raw).toOption

def commitRequests (now : Time)
    (transform : List AccessRequest → Except GrantError (List AccessRequest)) : ReviewInstr :=
  .commit .requests fun _ raw => (updateGrants transform now raw).toOption

section Programs

variable (platform : Platform) (parseDuration : Bytes → Option Int)

def AccessCall.program : AccessCall → List ReviewInstr
  | .approve requestID adminUser input exceptionID policies now reviewedAt =>
    [commitExceptions now fun grants => do
        let exception ←
          checkApproval platform parseDuration requestID adminUser input exceptionID now
        addGrant exceptionKind exception policies grants,
      .read .exceptions, .publish .exceptions,
      commitRequests reviewedAt
        (reviewRequest requestID (AccessRequest.approved adminUser exceptionID reviewedAt))]
  | .reject requestID adminUser now =>
    [commitRequests now (rejectRequest requestID adminUser now)]
  | .submit domain reason clientIP id now allowed =>
    match newAccessRequest domain reason clientIP id now allowed with
    | .error _ => [.commit .requests fun _ _ => none]
    | .ok request => [commitRequests now fun requests => .ok (appendRequest request requests)]
  | .createException input createdBy exceptionID policies now =>
    [commitExceptions now fun grants => do
        let exception ← newException platform parseDuration input createdBy exceptionID now
        addGrant exceptionKind exception policies grants,
      .read .exceptions, .publish .exceptions]
  | .revokeException id revokedBy now =>
    [commitExceptions now (revokeByID exceptionKind id revokedBy now),
      .read .exceptions, .publish .exceptions]
  | .pruneExceptions now =>
    [commitExceptions now fun grants => .ok (pruneGrants exceptionKind now grants),
      .read .exceptions, .publish .exceptions]

end Programs

namespace AccessCall

def approval : AccessCall → Option (Bytes × Bytes)
  | .approve requestID _ _ exceptionID _ _ _ => some (requestID, exceptionID)
  | _ => none

def grants : AccessCall → Option Bytes
  | .approve _ _ _ exceptionID _ _ _ => some exceptionID
  | .createException _ _ exceptionID _ _ => some exceptionID
  | _ => none

variable {call : AccessCall}

theorem grants_of_approval {requestID exceptionID : Bytes}
    (h : call.approval = some (requestID, exceptionID)) : call.grants = some exceptionID := by
  cases call with
  | approve =>
    cases h
    rfl
  | reject | submit | createException | revokeException | pruneExceptions => cases h

def submits : AccessCall → Option Bytes
  | .submit _ _ _ id _ _ => some id
  | _ => none

def rejects : AccessCall → Option Bytes
  | .reject requestID _ _ => some requestID
  | _ => none

theorem rejects_of_approval (h : call.approval ≠ none) :
    call.rejects = none ∧ call.submits = none := by
  cases call with
  | approve => exact ⟨rfl, rfl⟩
  | reject | submit | createException | revokeException | pruneExceptions => exact absurd rfl h

end AccessCall

/-! ## What is stored -/

def exceptionIDs (raw : Stored (GrantDocument Exception)) : List Bytes :=
  ((decodeGrants raw).toOption.getD []).map Exception.id

def requestsIn (raw : Stored (GrantDocument AccessRequest)) : List AccessRequest :=
  (decodeGrants raw).toOption.getD []

variable {now : Time}

theorem updateGrants_ok {grant : Type} {transform : List grant → Except GrantError (List grant)}
    {raw next : Stored (GrantDocument grant)}
    (h : (updateGrants transform now raw).toOption = some next) :
    ∃ changed, transform ((decodeGrants raw).toOption.getD []) = .ok changed ∧
      (decodeGrants next).toOption.getD [] = changed := by
  unfold updateGrants at h
  cases hread : decodeGrants raw with
  | error err => simp [hread, Except.toOption] at h
  | ok grants =>
    simp only [hread] at h
    cases hchange : transform grants with
    | error err => simp [hchange, Except.toOption] at h
    | ok changed =>
      simp only [hchange, Except.toOption, Option.some.injEq] at h
      subst h
      exact ⟨changed, hchange, by simp [decodeGrants, Except.toOption]⟩

theorem ids_revokeGrant {id revokedBy : Bytes} {grants revoked : List Exception}
    (h : revokeGrant exceptionKind id revokedBy now grants = .ok revoked) :
    revoked.map Exception.id = grants.map Exception.id := by
  obtain ⟨before, g, after, rfl, -, rfl⟩ := revokeGrant_eq h
  simp [exceptionKind]

theorem ids_addGrant {checked : Except GrantError Exception} {id : Bytes}
    (hid : ∀ exception, checked = .ok exception → exception.id = id) {policies : PolicySnapshot}
    {grants added : List Exception} (h : (do
      let exception ← checked
      addGrant exceptionKind exception policies grants) = .ok added) :
    added.map Exception.id = grants.map Exception.id ++ [id] := by
  cases checked with
  | error err => simp [bind, Except.bind] at h
  | ok exception =>
    simp only [bind, Except.bind, addGrant] at h
    split at h
    · cases h
    · cases h
      simp [hid exception rfl]

variable {requests : List AccessRequest} {request other : AccessRequest}

theorem mem_appendRequest (h : other ∈ appendRequest request requests) :
    other ∈ requests ∨ other = request := by
  have hmem := List.mem_of_mem_drop h
  simpa using hmem

theorem mem_appendRequest_of_mem_drop
    (h : other ∈ requests.drop (requests.length + 1 - maxAccessRequests)) :
    other ∈ appendRequest request requests := by
  unfold appendRequest
  rw [List.drop_append]
  exact List.mem_append_left _ h

/-! ## What the steps of a call do -/

inductive RequestChange (call : AccessCall) (before after : List AccessRequest) : Prop where
  | approved {requestID exceptionID : Bytes} {mark : AccessRequest → AccessRequest}
      (happroval : call.approval = some (requestID, exceptionID))
      (hid : ∀ request, (mark request).id = request.id)
      (hstatus : ∀ request, (mark request).status = .approved)
      (hreview : reviewRequest requestID mark before = .ok after)
  | rejected {requestID : Bytes} {mark : AccessRequest → AccessRequest}
      (hrejects : call.rejects = some requestID)
      (hid : ∀ request, (mark request).id = request.id)
      (hreview : reviewRequest requestID mark before = .ok after)
  | submitted {request : AccessRequest} (hsubmits : call.submits = some request.id)
      (hafter : after = appendRequest request before)

/-- The rest of a program adds no exception but the call's own and changes the requests
last.  An approval has four steps, of which the first one adds its exception. -/
def Lawful (call : AccessCall) : List ReviewInstr → Prop
  | [] => True
  | .commit .exceptions change :: rest =>
    (∀ live raw next, change live raw = some next →
      ∀ id ∈ exceptionIDs next, id ∈ exceptionIDs raw ∨ call.grants = some id) ∧
    (call.approval ≠ none → rest.length = 3) ∧ Lawful call rest
  | .commit .requests change :: rest =>
    (∀ live raw next, change live raw = some next →
      RequestChange call (requestsIn raw) (requestsIn next)) ∧ rest = []
  | _ :: rest => (call.approval ≠ none → 0 < rest.length ∧ rest.length < 3) ∧ Lawful call rest

section Programs

variable (platform : Platform) (parseDuration : Bytes → Option Int)

theorem mem_exceptionIDs_of_update
    {transform : List Exception → Except GrantError (List Exception)} {grants : Option Bytes}
    (htransform : ∀ before after, transform before = .ok after →
      ∀ id ∈ after.map Exception.id, id ∈ before.map Exception.id ∨ grants = some id)
    (raw next : Stored (GrantDocument Exception))
    (h : (updateGrants transform now raw).toOption = some next) (id : Bytes)
    (hid : id ∈ exceptionIDs next) : id ∈ exceptionIDs raw ∨ grants = some id := by
  obtain ⟨changed, hchange, hnext⟩ := updateGrants_ok h
  unfold exceptionIDs at hid ⊢
  rw [hnext] at hid
  exact htransform _ _ hchange id hid

theorem lawful_program (call : AccessCall) :
    Lawful call (call.program platform parseDuration) := by
  cases call with
  | approve requestID adminUser input exceptionID policies now reviewedAt =>
    refine ⟨fun _ => mem_exceptionIDs_of_update ?_, by simp, ⟨by simp, ⟨by simp, ?_, rfl⟩⟩⟩
    · intro before after htransform id hid
      rw [ids_addGrant (fun _ => id_checkApproval) htransform] at hid
      simpa [AccessCall.grants, eq_comm] using hid
    · intro live raw next hchange
      obtain ⟨changed, hreview, hnext⟩ := updateGrants_ok hchange
      refine .approved rfl ?_ ?_ (hreview.trans (congrArg Except.ok hnext.symm))
      · intro request
        rfl
      · intro request
        rfl
  | reject requestID adminUser now =>
    refine ⟨?_, rfl⟩
    intro live raw next hchange
    obtain ⟨changed, hreview, hnext⟩ := updateGrants_ok hchange
    unfold rejectRequest at hreview
    split at hreview
    · cases hreview
    · split at hreview
      · cases hreview
      · refine .rejected rfl ?_ (hreview.trans (congrArg Except.ok hnext.symm))
        intro request
        rfl
  | submit domain reason clientIP id now allowed =>
    simp only [AccessCall.program]
    cases hnew : newAccessRequest domain reason clientIP id now allowed with
    | error err => simp [Lawful]
    | ok request =>
      refine ⟨?_, rfl⟩
      intro live raw next hchange
      obtain ⟨changed, happend, hnext⟩ := updateGrants_ok hchange
      have hrequest : request.id = id := by
        unfold newAccessRequest at hnew
        split at hnew
        · cases hnew
        · split at hnew
          · cases hnew
          · cases hnew
            rfl
      refine @RequestChange.submitted _ _ _ request (by rw [AccessCall.submits, hrequest]) ?_
      exact hnext.trans (Except.ok.inj happend).symm
  | createException input createdBy exceptionID policies now =>
    refine ⟨fun _ => mem_exceptionIDs_of_update ?_, (absurd rfl ·), (absurd rfl ·),
      (absurd rfl ·), trivial⟩
    intro before after htransform id hid
    rw [ids_addGrant (fun _ => id_newException) htransform] at hid
    simpa [AccessCall.grants, eq_comm] using hid
  | revokeException revokedID revokedBy now =>
    refine ⟨fun _ => mem_exceptionIDs_of_update ?_, (absurd rfl ·), (absurd rfl ·),
      (absurd rfl ·), trivial⟩
    intro before after htransform id hid
    unfold revokeByID at htransform
    split at htransform
    · cases htransform
    · rw [ids_revokeGrant htransform] at hid
      exact .inl hid
  | pruneExceptions now =>
    refine ⟨fun _ => mem_exceptionIDs_of_update ?_, (absurd rfl ·), (absurd rfl ·),
      (absurd rfl ·), trivial⟩
    intro before after htransform id hid
    cases htransform
    obtain ⟨grant, hmem, rfl⟩ := List.mem_map.mp hid
    exact .inl (List.mem_map_of_mem (List.mem_of_mem_filter hmem))

end Programs

end GateSentry.Policy
