import Mathlib.Data.List.Nodup
import GateSentry.Policy.Grants

/-!
# Access requests

A blocked user asks for a domain; an administrator approves or rejects.  The requests of
`access_request.go`: their checks, and how each changes the stored list.
-/

namespace GateSentry.Policy

open Foundation ByteText Calendar

inductive AccessRequestStatus where
  | pending
  | approved
  | rejected
  deriving DecidableEq

structure AccessRequest where
  id : Bytes
  domain : Bytes
  clientIP : Bytes
  reason : Bytes
  status : AccessRequestStatus
  createdAt : Time
  reviewedBy : Bytes := []
  reviewedAt : Option Time := none
  exceptionID : Bytes := []

inductive AccessRequestError where
  | domainRequired
  | rateLimited

/-! ## Submitting -/

/-- `CreateAccessRequest` up to its transaction; the rate limiter has answered. -/
def newAccessRequest (domain reason clientIP id : Bytes) (now : Time) (allowed : Bool) :
    Except AccessRequestError AccessRequest :=
  if (trimSpace domain).isEmpty then .error .domainRequired
  else if !allowed then .error .rateLimited
  else .ok { id, domain := toLower (trimSpace domain), clientIP, reason, status := .pending
             createdAt := now }

def maxAccessRequests : Nat := 200

def appendRequest (request : AccessRequest) (requests : List AccessRequest) :
    List AccessRequest :=
  (requests ++ [request]).drop (requests.length + 1 - maxAccessRequests)

/-! ## Reviewing -/

def reviewRequest (id : Bytes) (mark : AccessRequest → AccessRequest) :
    List AccessRequest → Except GrantError (List AccessRequest)
  | [] => .error (exceptionLimits.notFound (utf8 "access request " ++ id ++ utf8 " not found"))
  | request :: rest =>
    if request.id = id then
      if request.status ≠ .pending then
        .error (exceptionLimits.invalid (utf8 "request already reviewed"))
      else .ok (mark request :: rest)
    else (reviewRequest id mark rest).map (request :: ·)

def AccessRequest.approved (adminUser exceptionID : Bytes) (now : Time)
    (request : AccessRequest) : AccessRequest :=
  { request with
    status := .approved, reviewedBy := adminUser, reviewedAt := some now, exceptionID }

def AccessRequest.rejected (adminUser : Bytes) (now : Time) (request : AccessRequest) :
    AccessRequest :=
  { request with status := .rejected, reviewedBy := adminUser, reviewedAt := some now }

section Checks

variable (platform : Platform) (parseDuration : Bytes → Option Int)

/-- `ApproveAccessRequest` up to the transaction of `CreateException`. -/
def checkApproval (requestID adminUser : Bytes) (input : GrantInput) (exceptionID : Bytes)
    (now : Time) : Except GrantError Exception := do
  if (trimSpace requestID).isEmpty then
    throw (exceptionLimits.invalid (utf8 "request id is required"))
  let _ ← validateException platform parseDuration input
  if (trimSpace adminUser).isEmpty then
    throw (exceptionLimits.invalid (utf8 "admin user is required"))
  newException platform parseDuration input adminUser exceptionID now

end Checks

def rejectRequest (requestID adminUser : Bytes) (now : Time) (requests : List AccessRequest) :
    Except GrantError (List AccessRequest) :=
  if (trimSpace requestID).isEmpty then
    .error (exceptionLimits.invalid (utf8 "request id is required"))
  else if (trimSpace adminUser).isEmpty then
    .error (exceptionLimits.invalid (utf8 "admin user is required"))
  else reviewRequest requestID (AccessRequest.rejected adminUser now) requests

/-! ## What the stored list looks like after a change -/

def Pending (id : Bytes) (requests : List AccessRequest) : Prop :=
  ∃ request ∈ requests, request.id = id ∧ request.status = .pending

variable {parseDuration : Bytes → Option Int} {exception : Exception} {platform : Platform}
  {input : GrantInput}

theorem id_newException {createdBy id : Bytes} {now : Time}
    (h : newException platform parseDuration input createdBy id now = .ok exception) :
    exception.id = id := by
  obtain ⟨⟨scope, d⟩, -, h⟩ := ok_of_bind h
  dsimp only at h
  split at h
  · cases h
  · cases h
    rfl

theorem id_checkApproval {requestID adminUser exceptionID : Bytes} {now : Time}
    (h : checkApproval platform parseDuration requestID adminUser input exceptionID now =
      .ok exception) : exception.id = exceptionID := by
  unfold checkApproval at h
  dsimp only at h
  split at h
  · cases h
  · obtain ⟨accepted, -, h⟩ := ok_of_bind h
    split at h
    · cases h
    · exact id_newException h

theorem reviewRequest_ok {id : Bytes} {mark : AccessRequest → AccessRequest}
    {requests marked : List AccessRequest} (h : reviewRequest id mark requests = .ok marked) :
    ∃ before request after, requests = before ++ request :: after ∧
      request.id = id ∧ request.status = .pending ∧
      marked = before ++ mark request :: after := by
  induction requests generalizing marked with
  | nil => cases h
  | cons request rest ih =>
    simp only [reviewRequest] at h
    split at h
    · next hid =>
      split at h
      · cases h
      · next hpending =>
        cases h
        exact ⟨[], request, rest, rfl, hid, not_not.mp hpending, rfl⟩
    · cases hrest : reviewRequest id mark rest with
      | error err => simp [hrest, Except.map] at h
      | ok tail =>
        simp only [hrest, Except.map, Except.ok.injEq] at h
        obtain ⟨before, found, after, hrequests, hid, hpending, hmarked⟩ := ih hrest
        refine ⟨request :: before, found, after, ?_, hid, hpending, ?_⟩
        · rw [hrequests, List.cons_append]
        · rw [← h, hmarked, List.cons_append]

section Review

variable {id : Bytes} {mark : AccessRequest → AccessRequest}
  {requests marked : List AccessRequest}

theorem pending_of_review (h : reviewRequest id mark requests = .ok marked) :
    Pending id requests := by
  obtain ⟨before, request, after, rfl, hid, hpending, rfl⟩ := reviewRequest_ok h
  exact ⟨request, by simp, hid, hpending⟩

section

variable (hmark : ∀ request, (mark request).id = request.id)

include hmark

section

variable (h : reviewRequest id mark requests = .ok marked)

include h

theorem ids_review : marked.map AccessRequest.id = requests.map AccessRequest.id := by
  obtain ⟨before, request, after, rfl, hid, hpending, rfl⟩ := reviewRequest_ok h
  simp [hmark]

theorem mem_review_of_ne {other : AccessRequest} (hother : other.id ≠ id) :
    other ∈ marked ↔ other ∈ requests := by
  obtain ⟨before, request, after, rfl, hid, hpending, rfl⟩ := reviewRequest_ok h
  have hne : other ≠ request := by
    rintro rfl
    exact hother hid
  have hne' : other ≠ mark request := by
    rintro rfl
    exact hother ((hmark request).trans hid)
  simp [hne, hne']

end

end

theorem marked_of_mem_review (hnodup : (requests.map AccessRequest.id).Nodup)
    (h : reviewRequest id mark requests = .ok marked) {reviewed : AccessRequest}
    (hmem : reviewed ∈ marked) (hid : reviewed.id = id) : ∃ request, reviewed = mark request := by
  obtain ⟨before, request, after, rfl, hrequest, hpending, rfl⟩ := reviewRequest_ok h
  refine ⟨request, ?_⟩
  simp only [List.map_append, List.map_cons, List.nodup_append, List.nodup_cons, List.mem_map,
    hrequest] at hnodup
  obtain ⟨_, ⟨hafter, _⟩, hbefore⟩ := hnodup
  simp only [List.mem_append, List.mem_cons] at hmem
  rcases hmem with hmem | rfl | hmem
  · exact absurd hid (hbefore reviewed.id ⟨reviewed, hmem, rfl⟩ id (by simp))
  · rfl
  · exact absurd ⟨reviewed, hmem, hid⟩ hafter

end Review

theorem status_of_pending {id : Bytes} {requests : List AccessRequest}
    (hnodup : (requests.map AccessRequest.id).Nodup) (hpending : Pending id requests)
    {request : AccessRequest} (hmem : request ∈ requests) (hid : request.id = id) :
    request.status = .pending := by
  obtain ⟨waiting, hwaiting, hwaitingID, hstatus⟩ := hpending
  have heq : waiting = request :=
    List.inj_on_of_nodup_map hnodup hwaiting hmem (hwaitingID.trans hid.symm)
  rw [← heq, hstatus]

end GateSentry.Policy
