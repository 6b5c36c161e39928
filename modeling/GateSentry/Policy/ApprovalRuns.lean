import GateSentry.Policy.Approval

/-!
# Runs of approvals

Approvals, rejections, submissions and changes of exceptions take their steps in any order.
While no approval is disturbed between its two transactions, each one is all or nothing.
-/

namespace GateSentry.Policy

open Foundation Publication ByteText Calendar

section Runs

variable {thread : Type} [DecidableEq thread] (calls : thread → AccessCall)

def Approves (i : thread) (requestID exceptionID : Bytes) : Prop :=
  (calls i).approval = some (requestID, exceptionID)

def Begun (s : ReviewState thread) (i : thread) : Prop := (s.threads i).program.length < 4

def InFlight (s : ReviewState thread) (i : thread) : Prop :=
  Begun s i ∧ (s.threads i).program ≠ []

def Waits (s : ReviewState thread) (i : thread) : Prop :=
  (s.threads i).program ≠ [] ∧ (s.threads i).failed = false

def requestsOf (s : ReviewState thread) : List AccessRequest := requestsIn (s.stored .requests)

/-- The step of thread `i` lets every approval be completed: one begins while its request is
pending and no other approval of it is in flight; it does not fail once it has begun, and a
failure before that stores nothing; no request whose approval is in flight is rejected or
evicted. -/
structure Undisturbed (s : ReviewState thread) (i : thread) (s' : ReviewState thread) : Prop where
  opens : ∀ requestID exceptionID, Approves calls i requestID exceptionID →
    ¬Begun s i → Begun s' i → Pending requestID (requestsOf s) ∧
      ∀ j otherID, Approves calls j requestID otherID → ¬InFlight s j
  completes : (calls i).approval ≠ none → (s'.threads i).failed = true →
    ¬Begun s i ∧ s'.stored .exceptions = s.stored .exceptions
  spares : s'.stored .requests ≠ s.stored .requests →
    ∀ j requestID exceptionID, Approves calls j requestID exceptionID → InFlight s j →
      (calls i).rejects ≠ some requestID
  leavesRoom : s'.stored .requests ≠ s.stored .requests → (calls i).submits ≠ none →
    ∀ j requestID exceptionID, Approves calls j requestID exceptionID → InFlight s j →
      requestID ∈ ((requestsOf s).drop ((requestsOf s).length + 1 - maxAccessRequests)).map
        AccessRequest.id

inductive Traces (s : ReviewState thread) (exceptionID : Bytes) : Prop where
  | stored (h : exceptionID ∈ exceptionIDs (s.stored .exceptions))
  | live (h : exceptionID ∈ List.map Exception.id (s.live .exceptions))
  | held {j : thread} {value : List Exception} {n : Nat}
      (hheld : (s.threads j).held .exceptions = some (value, n))
      (h : exceptionID ∈ value.map Exception.id)

/-- Random ids are drawn once: no two calls add the same exception or the same request. -/
structure DistinctIDs : Prop where
  exceptions : ∀ i j exceptionID, (calls i).grants = some exceptionID →
    (calls j).grants = some exceptionID → i = j
  requests : ∀ i j requestID, (calls i).submits = some requestID →
    (calls j).submits = some requestID → i = j

/-- No request is listed twice, and none before it is submitted. -/
structure RequestInv (s : ReviewState thread) : Prop where
  lawful : ∀ i, Lawful (calls i) (s.threads i).program
  nodup : ((requestsOf s).map AccessRequest.id).Nodup
  fresh : ∀ j requestID, (calls j).submits = some requestID → Waits s j →
    requestID ∉ (requestsOf s).map AccessRequest.id

structure ReviewInv (s : ReviewState thread) : Prop extends RequestInv calls s where
  traced : ∀ i requestID exceptionID, Approves calls i requestID exceptionID →
    Traces s exceptionID → Begun s i
  clean : ∀ i, (calls i).approval ≠ none → (s.threads i).failed = true → ¬Begun s i
  waiting : ∀ i requestID exceptionID, Approves calls i requestID exceptionID →
    InFlight s i → Pending requestID (requestsOf s)
  settled : ∀ i requestID exceptionID, Approves calls i requestID exceptionID →
    (s.threads i).program = [] →
      (∀ request ∈ requestsOf s, request.id = requestID → request.status = .approved) ∧
      ∀ j, (calls j).submits = some requestID → ¬Waits s j
  single : ∀ i j requestID exceptionID otherID, Approves calls i requestID exceptionID →
    Approves calls j requestID otherID → Begun s i → Begun s j → i = j

/-! ## One step -/

section Steps

variable {calls} {s s' : ReviewState thread} {i : thread}

omit [DecidableEq thread] in
theorem Lawful.tail {call : AccessCall} {instr : ReviewInstr} {rest : List ReviewInstr}
    (h : Lawful call (instr :: rest)) : Lawful call rest := by
  cases instr with
  | commit k change =>
    cases k with
    | exceptions => exact h.2.2
    | requests =>
      rw [h.2]
      trivial
  | read | publish => exact h.2

variable {j : thread} {requestID : Bytes} {exceptionID : Bytes}

omit [DecidableEq thread] in
theorem approval_ne_none
    (h : Approves calls j requestID exceptionID) : (calls j).approval ≠ none := by
  rw [h]
  simp

variable (hstep : Step readReview i s s')

include hstep

theorem lawful_step (hlawful : ∀ j, Lawful (calls j) (s.threads j).program) (j : thread) :
    Lawful (calls j) (s'.threads j).program := by
  by_cases hj : j = i
  · subst hj
    rcases hstep.moves with ⟨_, hsame⟩ | ⟨_, instr, hnext⟩
    · rw [hsame]
      exact hlawful j
    · have h := hlawful j
      rw [hnext] at h
      exact h.tail
  · rw [hstep.threads_of_ne hj]
    exact hlawful j

theorem begun_mono (h : Begun s j) : Begun s' j :=
  lt_of_le_of_lt (hstep.program_suffix j).length_le h

theorem waits_of_waits (h : Waits s' j) : Waits s j := by
  constructor
  · intro hnil
    have hsuffix := hstep.program_suffix j
    rw [hnil, List.suffix_nil] at hsuffix
    exact h.1 hsuffix
  · cases hfailed : (s.threads j).failed with
    | false => rfl
    | true =>
      have := hstep.failed_mono hfailed
      rw [h.2] at this
      cases this

section

variable (hlawful : Lawful (calls i) (s.threads i).program)

include hlawful

theorem requests_step :
    s'.stored .requests = s.stored .requests ∨
      (RequestChange (calls i) (requestsOf s) (requestsOf s') ∧
        (s.threads i).program.length = 1) := by
  rcases hstep.stored_cases .requests with hsame | ⟨change, rest, hprogram, hchange, _⟩
  · exact .inl hsame
  · right
    rw [hprogram] at hlawful
    exact ⟨hlawful.1 _ _ _ hchange, by simp [hprogram, hlawful.2]⟩

theorem traces_step (h : Traces s' exceptionID) :
    Traces s exceptionID ∨
      ((calls i).grants = some exceptionID ∧
        s'.stored .exceptions ≠ s.stored .exceptions ∧
        ((calls i).approval ≠ none → (s'.threads i).failed = false → Begun s' i)) := by
  cases h with
  | stored h =>
    by_cases hsame : s'.stored .exceptions = s.stored .exceptions
    · rw [hsame] at h
      exact .inl (.stored h)
    · rcases hstep.stored_cases .exceptions with hkept |
        ⟨change, rest, hprogram, hchange, hmoves⟩
      · exact absurd hkept hsame
      · rw [hprogram] at hlawful
        rcases hlawful.1 _ _ _ hchange exceptionID h with hold | hnew
        · exact .inl (.stored hold)
        · refine .inr ⟨hnew, hsame, ?_⟩
          intro happroval hgoes
          have hlength := hlawful.2.1 happroval
          rw [Begun, hmoves hgoes]
          omega
  | live h =>
    rcases hstep.live_cases .exceptions with hsame | ⟨n, hheld⟩
    · rw [hsame] at h
      exact .inl (.live h)
    · exact .inl (.held hheld h)
  | held hheld h =>
    rcases hstep.held_cases hheld with hbefore | hread
    · exact .inl (.held hbefore h)
    · left
      apply Traces.stored
      have hdecode : (decodeGrants (s.stored .exceptions)).toOption = some _ := hread
      simpa [exceptionIDs, hdecode] using h

end

theorem program_nil_mono (h : (s.threads j).program = []) : (s'.threads j).program = [] := by
  have hsuffix := hstep.program_suffix j
  rwa [h, List.suffix_nil] at hsuffix

theorem waits_of_last (hlength : (s.threads i).program.length = 1) : Waits s i ∧ ¬Waits s' i := by
  constructor
  · refine ⟨?_, hstep.goes⟩
    intro hnil
    simp [hnil] at hlength
  · rintro ⟨hprogram, hgoes⟩
    rcases hstep.moves with ⟨hfailed, _⟩ | ⟨_, instr, hnext⟩
    · rw [hgoes] at hfailed
      cases hfailed
    · rw [hnext, List.length_cons, Nat.add_eq_right, List.length_eq_zero_iff] at hlength
      exact hprogram hlength

theorem mem_requests_step (hlawful : Lawful (calls i) (s.threads i).program)
    {request : AccessRequest} (hmem : request ∈ requestsOf s') :
    request ∈ requestsOf s ∨ Pending request.id (requestsOf s) ∨
      ((calls i).submits = some request.id ∧ Waits s i ∧ ¬Waits s' i) := by
  rcases requests_step hstep hlawful with hsame | ⟨hchange, hlength⟩
  · left
    rwa [requestsOf, hsame] at hmem
  · cases hchange with
    | @approved reviewedID _ mark _ hmark _ hreview
    | @rejected reviewedID mark _ hmark hreview =>
      by_cases heq : request.id = reviewedID
      · rw [← heq] at hreview
        exact .inr (.inl (pending_of_review hreview))
      · exact .inl ((mem_review_of_ne hmark hreview heq).mp hmem)
    | submitted hsubmits hafter =>
      rw [hafter] at hmem
      rcases mem_appendRequest hmem with hold | rfl
      · exact .inl hold
      · exact .inr (.inr ⟨hsubmits, waits_of_last hstep hlength⟩)

theorem mover_of_begins (hbefore : ¬Begun s j) (h : Begun s' j) : j = i := by
  by_contra hne
  rw [Begun, hstep.threads_of_ne hne] at h
  exact hbefore h

/-- What is listed under the id is good, and nothing is submitted under it any more. -/
def Closed (calls : thread → AccessCall) (s : ReviewState thread) (requestID : Bytes)
    (good : AccessRequest → Prop) : Prop :=
  (∀ request ∈ requestsOf s, request.id = requestID → good request) ∧
    ∀ j, (calls j).submits = some requestID → ¬Waits s j

theorem closed_step (hlawful : Lawful (calls i) (s.threads i).program)
    {good : AccessRequest → Prop} (hgood : ∀ request, good request → request.status ≠ .pending)
    (h : Closed calls s requestID good) : Closed calls s' requestID good := by
  refine ⟨?_, fun j hsubmits hwaits => h.2 j hsubmits (waits_of_waits hstep hwaits)⟩
  intro request hmem hid
  rcases mem_requests_step hstep hlawful hmem with
    hold | ⟨waiting, hwaiting, hwaitingID, hpending⟩ | ⟨hsubmits, hwaits, -⟩
  · exact h.1 request hold hid
  · exact absurd hpending (hgood waiting (h.1 waiting hwaiting (hwaitingID.trans hid)))
  · exact absurd hwaits (h.2 i (hid ▸ hsubmits))

def Spent (calls : thread → AccessCall) (s : ReviewState thread) (requestID : Bytes) : Prop :=
  ¬Pending requestID (requestsOf s) ∧ ∀ j, (calls j).submits = some requestID → ¬Waits s j

theorem spent_step (hlawful : Lawful (calls i) (s.threads i).program)
    (h : Spent calls s requestID) : Spent calls s' requestID := by
  have hclosed : Closed calls s requestID fun request => request.status ≠ .pending :=
    ⟨fun request hmem hid hstatus => h.1 ⟨request, hmem, hid, hstatus⟩, h.2⟩
  obtain ⟨hreviewed, hnone⟩ := closed_step hstep hlawful (fun _ hgood => hgood) hclosed
  exact ⟨fun ⟨request, hmem, hid, hstatus⟩ => hreviewed request hmem hid hstatus, hnone⟩

section

variable (hinv : RequestInv calls s)

include hinv

theorem nodup_step : ((requestsOf s').map AccessRequest.id).Nodup := by
  rcases requests_step hstep (hinv.lawful i) with hsame | ⟨hchange, hlength⟩
  · rw [requestsOf, hsame]
    exact hinv.nodup
  · cases hchange with
    | approved _ hid _ hreview | rejected _ hid hreview =>
      rw [ids_review hid hreview]
      exact hinv.nodup
    | @submitted request hsubmits hafter =>
      have hfresh := hinv.fresh i request.id hsubmits (waits_of_last hstep hlength).1
      rw [hafter, appendRequest, List.map_drop]
      apply List.Nodup.sublist (List.drop_sublist _ _)
      rw [List.map_append, List.map_cons, List.map_nil, List.nodup_append]
      refine ⟨hinv.nodup, by simp, ?_⟩
      intro id hid other hother heq
      rw [List.mem_singleton] at hother
      subst hother
      exact hfresh (heq ▸ hid)

theorem fresh_step (hids : DistinctIDs calls) (j : thread) (requestID : Bytes)
    (hsubmits : (calls j).submits = some requestID) (hwaits : Waits s' j) :
    requestID ∉ (requestsOf s').map AccessRequest.id := by
  intro hmem
  obtain ⟨request, hrequest, rfl⟩ := List.mem_map.mp hmem
  have hfresh := hinv.fresh j request.id hsubmits (waits_of_waits hstep hwaits)
  rcases mem_requests_step hstep (hinv.lawful i) hrequest with
    hold | ⟨other, hother, hid, -⟩ | ⟨hsubmitter, -, hdone⟩
  · exact hfresh (List.mem_map_of_mem hold)
  · exact hfresh (hid ▸ List.mem_map_of_mem hother)
  · have heq := hids.requests j i _ hsubmits hsubmitter
    subst heq
    exact hdone hwaits

theorem requestInv_step (hids : DistinctIDs calls) : RequestInv calls s' :=
  ⟨lawful_step hstep hinv.lawful, nodup_step hstep hinv, fresh_step hstep hinv hids⟩

end

variable (hinv : ReviewInv calls s)

include hinv

theorem approved_of_last (happroves : Approves calls i requestID exceptionID)
    (hgoes : (s'.threads i).failed = false) (hdone : (s'.threads i).program = []) :
    ∃ mark : AccessRequest → AccessRequest, (∀ request, (mark request).status = .approved) ∧
      reviewRequest requestID mark (requestsOf s) = .ok (requestsOf s') := by
  have happroval := approval_ne_none happroves
  have hlawful := hinv.lawful i
  rcases hstep.moves with ⟨hfailed, _⟩ | ⟨_, instr, hnext⟩
  · rw [hgoes] at hfailed
    cases hfailed
  · rw [hdone] at hnext
    rw [hnext] at hlawful
    cases instr with
    | read | publish => exact absurd (hlawful.1 happroval).1 (by simp)
    | commit k change =>
      cases k with
      | exceptions => exact absurd (hlawful.2.1 happroval) (by simp)
      | requests =>
        have hchange := hlawful.1 _ _ _ (hstep.committed hnext hgoes)
        obtain ⟨hnotRejects, hnotSubmits⟩ := AccessCall.rejects_of_approval happroval
        cases hchange with
        | @approved reviewedID otherID mark hreviewed _ hstatus hreview =>
          rw [happroves, Option.some.injEq, Prod.mk.injEq] at hreviewed
          rw [← hreviewed.1] at hreview
          exact ⟨mark, hstatus, hreview⟩
        | rejected hrejects _ _ =>
          rw [hnotRejects] at hrejects
          cases hrejects
        | submitted hsubmits _ =>
          rw [hnotSubmits] at hsubmits
          cases hsubmits

variable (hundisturbed : Undisturbed calls s i s')

include hundisturbed

theorem traced_step (hids : DistinctIDs calls) (j : thread)
    (requestID exceptionID : Bytes) (happroves : Approves calls j requestID exceptionID)
    (h : Traces s' exceptionID) : Begun s' j := by
  have hgrants := AccessCall.grants_of_approval happroves
  rcases traces_step hstep (hinv.lawful i) h with hold | ⟨hadds, hstored, hbegins⟩
  · exact begun_mono hstep (hinv.traced j requestID exceptionID happroves hold)
  · have heq := hids.exceptions j i exceptionID hgrants hadds
    subst heq
    have happroval := approval_ne_none happroves
    apply hbegins happroval
    cases hfailed : (s'.threads j).failed with
    | false => rfl
    | true => exact absurd (hundisturbed.completes happroval hfailed).2 hstored

theorem clean_step (j : thread) (happroval : (calls j).approval ≠ none)
    (hfailed : (s'.threads j).failed = true) : ¬Begun s' j := by
  by_cases hj : j = i
  · subst hj
    rcases hstep.moves with ⟨_, hsame⟩ | ⟨hgoes, _⟩
    · have hbefore := (hundisturbed.completes happroval hfailed).1
      rwa [Begun, hsame]
    · rw [hgoes] at hfailed
      cases hfailed
  · have hbefore := hinv.clean j happroval
    rw [Begun, hstep.threads_of_ne hj] at *
    exact hbefore hfailed

theorem eq_of_begins {otherID : Bytes}
    (hi : Approves calls i requestID exceptionID) (hj : Approves calls j requestID otherID)
    (hbefore : ¬Begun s i) (hafter : Begun s' i) (hbegun : Begun s' j) : j = i := by
  by_contra hne
  obtain ⟨hpending, halone⟩ := hundisturbed.opens requestID exceptionID hi hbefore hafter
  by_cases hdone : (s.threads j).program = []
  · obtain ⟨request, hmem, hid, hstatus⟩ := hpending
    have happroved := (hinv.settled j requestID otherID hj hdone).1 request hmem hid
    rw [hstatus] at happroved
    cases happroved
  · have hbegunj : Begun s j := by_contra fun hnot => hne (mover_of_begins hstep hnot hbegun)
    exact halone j otherID hj ⟨hbegunj, hdone⟩

theorem single_step (j k : thread) (requestID exceptionID otherID : Bytes)
    (hj : Approves calls j requestID exceptionID) (hk : Approves calls k requestID otherID)
    (hbegunj : Begun s' j) (hbegunk : Begun s' k) : j = k := by
  by_cases hbeforej : Begun s j
  · by_cases hbeforek : Begun s k
    · exact hinv.single j k requestID exceptionID otherID hj hk hbeforej hbeforek
    · obtain rfl := mover_of_begins hstep hbeforek hbegunk
      exact eq_of_begins hstep hinv hundisturbed hk hj hbeforek hbegunk hbegunj
  · obtain rfl := mover_of_begins hstep hbeforej hbegunj
    exact (eq_of_begins hstep hinv hundisturbed hj hk hbeforej hbegunj hbegunk).symm

theorem pending_of_ne (hj : j ≠ i) (happroves : Approves calls j requestID exceptionID)
    (hflight : InFlight s j) : Pending requestID (requestsOf s') := by
  obtain ⟨request, hmem, hid, hstatus⟩ := hinv.waiting j requestID exceptionID happroves hflight
  by_cases hsame : s'.stored .requests = s.stored .requests
  · rw [requestsOf, hsame]
    exact ⟨request, hmem, hid, hstatus⟩
  · rcases requests_step hstep (hinv.lawful i) with hkept | ⟨hchange, hlength⟩
    · exact absurd hkept hsame
    · cases hchange with
      | @approved reviewedID otherID mark happroval hmark _ hreview =>
        have hne : request.id ≠ reviewedID := by
          intro heq
          have hbegun : Begun s i := by
            rw [Begun]
            omega
          rw [← heq, hid] at happroval
          exact hj (hinv.single j i requestID exceptionID otherID happroves happroval
            hflight.1 hbegun)
        exact ⟨request, (mem_review_of_ne hmark hreview hne).mpr hmem, hid, hstatus⟩
      | @rejected reviewedID mark hrejects hmark hreview =>
        have hne : request.id ≠ reviewedID := by
          intro heq
          rw [← heq, hid] at hrejects
          exact hundisturbed.spares hsame j requestID exceptionID happroves hflight hrejects
        exact ⟨request, (mem_review_of_ne hmark hreview hne).mpr hmem, hid, hstatus⟩
      | @submitted added hsubmits hafter =>
        have hsubmits' : (calls i).submits ≠ none := by
          rw [hsubmits]
          simp
        obtain ⟨kept, hkept, hkeptID⟩ := List.mem_map.mp
          (hundisturbed.leavesRoom hsame hsubmits' j requestID exceptionID happroves hflight)
        have heq : kept = request := List.inj_on_of_nodup_map hinv.nodup
          (List.mem_of_mem_drop hkept) hmem (hkeptID.trans hid.symm)
        subst heq
        rw [hafter]
        exact ⟨kept, mem_appendRequest_of_mem_drop hkept, hid, hstatus⟩

theorem waiting_step (j : thread) (requestID exceptionID : Bytes)
    (happroves : Approves calls j requestID exceptionID) (hflight : InFlight s' j) :
    Pending requestID (requestsOf s') := by
  by_cases hj : j = i
  · subst hj
    have hgoes : (s'.threads j).failed = false := by
      cases hfailed : (s'.threads j).failed with
      | false => rfl
      | true =>
        exact absurd hflight.1 (clean_step hstep hinv hundisturbed j
          (approval_ne_none happroves) hfailed)
    have hsame : requestsOf s' = requestsOf s := by
      rcases requests_step hstep (hinv.lawful j) with hsame | ⟨_, hlength⟩
      · rw [requestsOf, hsame, requestsOf]
      · exact absurd ⟨hflight.2, hgoes⟩ (waits_of_last hstep hlength).2
    rw [hsame]
    by_cases hbegun : Begun s j
    · apply hinv.waiting j requestID exceptionID happroves
      refine ⟨hbegun, ?_⟩
      intro hnil
      exact hflight.2 (program_nil_mono hstep hnil)
    · exact (hundisturbed.opens requestID exceptionID happroves hbegun hflight.1).1
  · apply pending_of_ne hstep hinv hundisturbed hj happroves
    rwa [InFlight, Begun, hstep.threads_of_ne hj] at hflight

theorem settled_step (j : thread) (requestID exceptionID : Bytes)
    (happroves : Approves calls j requestID exceptionID) (hdone : (s'.threads j).program = []) :
    (∀ request ∈ requestsOf s', request.id = requestID → request.status = .approved) ∧
      ∀ k, (calls k).submits = some requestID → ¬Waits s' k := by
  by_cases hj : j = i
  · subst hj
    have hgoes : (s'.threads j).failed = false := by
      cases hfailed : (s'.threads j).failed with
      | false => rfl
      | true =>
        exact absurd (by simp [Begun, hdone]) (clean_step hstep hinv hundisturbed j
          (approval_ne_none happroves) hfailed)
    obtain ⟨mark, hstatus, hreview⟩ := approved_of_last hstep hinv happroves hgoes hdone
    constructor
    · intro request hmem hid
      obtain ⟨marked, rfl⟩ := marked_of_mem_review hinv.nodup hreview hmem hid
      exact hstatus marked
    · intro k hsubmits hwaits
      obtain ⟨waiting, hwaiting, hid, _⟩ := pending_of_review hreview
      apply hinv.fresh k requestID hsubmits (waits_of_waits hstep hwaits)
      exact List.mem_map.mpr ⟨waiting, hwaiting, hid⟩
  · have hdone' : (s.threads j).program = [] := by rwa [hstep.threads_of_ne hj] at hdone
    refine closed_step hstep (hinv.lawful i) ?_
      (hinv.settled j requestID exceptionID happroves hdone')
    intro request hstatus
    simp [hstatus]

theorem reviewInv_step (hids : DistinctIDs calls) : ReviewInv calls s' where
  toRequestInv := requestInv_step hstep hinv.toRequestInv hids
  traced := traced_step hstep hinv hundisturbed hids
  clean := clean_step hstep hinv hundisturbed
  waiting := waiting_step hstep hinv hundisturbed
  settled := settled_step hstep hinv hundisturbed
  single := single_step hstep hinv hundisturbed

end Steps

/-! ## Whole runs -/

def callsStart (platform : Platform) (parseDuration : Bytes → Option Int)
    (stored : (k : ReviewKey) → ReviewText k) (live : List Exception) :
    ReviewState thread where
  stored := stored
  version _ := 0
  live := fun
    | .exceptions => live
    | .requests => ()
  liveVersion _ := none
  threads i :=
    { program := (calls i).program platform parseDuration, held := fun _ => none
      failed := false }

structure RandomIDs (stored : (k : ReviewKey) → ReviewText k) (live : List Exception) : Prop
    extends DistinctIDs calls where
  nodup : ((requestsIn (stored .requests)).map AccessRequest.id).Nodup
  freshRequests : ∀ i requestID, (calls i).submits = some requestID →
    requestID ∉ (requestsIn (stored .requests)).map AccessRequest.id
  freshExceptions : ∀ i exceptionID, (calls i).grants = some exceptionID →
    exceptionID ∉ exceptionIDs (stored .exceptions) ∧ exceptionID ∉ live.map Exception.id

structure ReviewsWhole (run : Nat → ReviewState thread) : Prop where
  /-- An approval that returns an error has done nothing, and its exception is never there. -/
  failed : ∀ i requestID exceptionID, Approves calls i requestID exceptionID →
    ∀ n, ((run n).threads i).failed = true →
      ((run n).threads i).program = ((run 0).threads i).program ∧ ∀ m, ¬Traces (run m) exceptionID
  /-- A request yields one exception at most. -/
  single : ∀ i j requestID exceptionID otherID, Approves calls i requestID exceptionID →
    Approves calls j requestID otherID →
    ∀ m n, Traces (run m) exceptionID → Traces (run n) otherID → i = j
  /-- A request that yields an exception has been submitted. -/
  submitted : ∀ i requestID exceptionID, Approves calls i requestID exceptionID →
    ∀ m, Traces (run m) exceptionID →
      ∃ k ≤ m, requestID ∈ (requestsOf (run k)).map AccessRequest.id
  /-- A request that yields an exception is never rejected. -/
  rejected : ∀ i requestID exceptionID, Approves calls i requestID exceptionID →
    ∀ m, Traces (run m) exceptionID →
      ∀ n, ∀ request ∈ requestsOf (run n), request.id = requestID → request.status ≠ .rejected
  /-- A request that yields an exception is evicted after its approval only. -/
  evicted : ∀ i requestID exceptionID, Approves calls i requestID exceptionID →
    ∀ m, Traces (run m) exceptionID →
      ∀ k n, k ≤ n → requestID ∈ (requestsOf (run k)).map AccessRequest.id →
        requestID ∉ (requestsOf (run n)).map AccessRequest.id →
        ((run n).threads i).program = []

variable {calls} {platform : Platform} {parseDuration : Bytes → Option Int}
  {stored : (k : ReviewKey) → ReviewText k} {live : List Exception}

omit [DecidableEq thread] in
theorem length_program_of_approves (platform : Platform)
    (parseDuration : Bytes → Option Int) {i : thread} (h : (calls i).approval ≠ none) :
    ((calls i).program platform parseDuration).length = 4 := by
  cases hcall : calls i with
  | approve => rfl
  | reject | submit | createException | revokeException | pruneExceptions =>
    rw [hcall] at h
    exact absurd rfl h

omit [DecidableEq thread] in
theorem not_begun_start {i : thread} (h : (calls i).approval ≠ none) :
    ¬Begun (callsStart calls platform parseDuration stored live) i := by
  have hlength := length_program_of_approves platform parseDuration h
  simp [Begun, callsStart, hlength]

omit [DecidableEq thread] in
theorem reviewInv_start (hids : RandomIDs calls stored live) :
    ReviewInv calls (callsStart calls platform parseDuration stored live) where
  lawful i := lawful_program platform parseDuration (calls i)
  nodup := hids.nodup
  fresh j requestID hsubmits _ := hids.freshRequests j requestID hsubmits
  traced i requestID exceptionID happroves htraces := by
    have hfresh := hids.freshExceptions i exceptionID (AccessCall.grants_of_approval happroves)
    cases htraces with
    | stored h => exact absurd h hfresh.1
    | live h => exact absurd h hfresh.2
    | held hheld _ => cases hheld
  clean i happroval _ := not_begun_start happroval
  waiting i requestID exceptionID happroves hflight :=
    absurd hflight.1 (not_begun_start (approval_ne_none happroves))
  settled i requestID exceptionID happroves hdone := by
    have hlength := length_program_of_approves platform parseDuration
      (approval_ne_none happroves)
    have hprogram : (calls i).program platform parseDuration = [] := hdone
    rw [hprogram] at hlength
    cases hlength
  single i j requestID exceptionID otherID hi _ hbegun _ :=
    absurd hbegun (not_begun_start (approval_ne_none hi))

section Run

variable {run : Nat → ReviewState thread}
  (hrun : ∀ n, run (n + 1) = run n ∨
    ∃ i, Step readReview i (run n) (run (n + 1)) ∧ Undisturbed calls (run n) i (run (n + 1)))
include hrun

theorem reviewInv_run (hids : DistinctIDs calls) (hstart : ReviewInv calls (run 0)) (n : Nat) :
    ReviewInv calls (run n) := by
  induction n with
  | zero => exact hstart
  | succ n ih =>
    rcases hrun n with hsame | ⟨i, hstep, hundisturbed⟩
    · rw [hsame]
      exact ih
    · exact reviewInv_step hstep ih hundisturbed hids

variable {m n : Nat}

theorem program_suffix_run (h : m ≤ n) (i : thread) :
    ((run n).threads i).program <:+ ((run m).threads i).program := by
  induction n, h using Nat.le_induction with
  | base => exact List.suffix_rfl
  | succ n _ ih =>
    rcases hrun n with hsame | ⟨j, hstep, _⟩
    · rw [hsame]
      exact ih
    · exact (hstep.program_suffix i).trans ih

variable {i : thread}

theorem begun_run (h : m ≤ n) (hbegun : Begun (run m) i) : Begun (run n) i :=
  lt_of_le_of_lt (program_suffix_run hrun h i).length_le hbegun

theorem failed_run (h : m ≤ n) (hfailed : ((run m).threads i).failed = true) :
    ((run n).threads i).failed = true := by
  induction n, h using Nat.le_induction with
  | base => exact hfailed
  | succ n _ ih =>
    rcases hrun n with hsame | ⟨j, hstep, _⟩
    · rw [hsame]
      exact ih
    · exact hstep.failed_mono ih

variable {requestID exceptionID : Bytes}

theorem not_begun_of_spent (hinv : ∀ n, ReviewInv calls (run n)) (h : m ≤ n)
    (happroves : Approves calls i requestID exceptionID) (hspent : Spent calls (run m) requestID)
    (hbefore : ¬Begun (run m) i) : Spent calls (run n) requestID ∧ ¬Begun (run n) i := by
  induction n, h using Nat.le_induction with
  | base => exact ⟨hspent, hbefore⟩
  | succ n _ ih =>
    rcases hrun n with hsame | ⟨j, hstep, hundisturbed⟩
    · rw [hsame]
      exact ih
    · refine ⟨spent_step hstep ((hinv n).lawful j) ih.1, ?_⟩
      intro hbegun
      obtain rfl := mover_of_begins hstep ih.2 hbegun
      exact ih.1.1 (hundisturbed.opens requestID exceptionID happroves ih.2 hbegun).1

theorem begun_of_spent (hinv : ∀ n, ReviewInv calls (run n))
    (happroves : Approves calls i requestID exceptionID) (hbegun : Begun (run m) i)
    (hspent : Spent calls (run n) requestID) : Begun (run n) i := by
  by_contra hbefore
  rcases Nat.le_total m n with hmn | hnm
  · exact hbefore (begun_run hrun hmn hbegun)
  · exact (not_begun_of_spent hrun hinv hnm happroves hspent hbefore).2 hbegun

theorem waits_run (h : m ≤ n) (hwaits : Waits (run n) i) : Waits (run m) i := by
  induction n, h using Nat.le_induction with
  | base => exact hwaits
  | succ n _ ih =>
    rcases hrun n with hsame | ⟨j, hstep, _⟩
    · rw [hsame] at hwaits
      exact ih hwaits
    · exact ih (waits_of_waits hstep hwaits)

theorem submitted_of_begun (happroves : Approves calls i requestID exceptionID)
    (hstart : ¬Begun (run 0) i) {n : Nat} (hbegun : Begun (run n) i) :
    ∃ k ≤ n, requestID ∈ (requestsOf (run k)).map AccessRequest.id := by
  induction n with
  | zero => exact absurd hbegun hstart
  | succ n ih =>
    by_cases hbefore : Begun (run n) i
    · obtain ⟨k, hk, hmem⟩ := ih hbefore
      exact ⟨k, by omega, hmem⟩
    · rcases hrun n with hsame | ⟨j, hstep, hundisturbed⟩
      · rw [hsame] at hbegun
        exact absurd hbegun hbefore
      · obtain rfl := mover_of_begins hstep hbefore hbegun
        obtain ⟨⟨request, hmem, hid, _⟩, _⟩ :=
          hundisturbed.opens requestID exceptionID happroves hbefore hbegun
        exact ⟨n, by omega, List.mem_map.mpr ⟨request, hmem, hid⟩⟩

end Run

theorem requestInv_runs {s t : ReviewState thread} (hids : DistinctIDs calls)
    (hinv : RequestInv calls s) (h : Runs readReview s t) : RequestInv calls t := by
  induction h with
  | refl => exact hinv
  | tail _ hstep ih =>
    obtain ⟨i, hstep⟩ := hstep
    exact requestInv_step hstep ih hids

/-- However the calls interleave, a request that is reviewed never changes again. -/
theorem reviewed_final (hids : RandomIDs calls stored live) {s t : ReviewState thread}
    (hs : Runs readReview (callsStart calls platform parseDuration stored live) s)
    (ht : Runs readReview s t) {request : AccessRequest} (hmem : request ∈ requestsOf s)
    (hreviewed : request.status ≠ .pending) :
    ∀ other ∈ requestsOf t, other.id = request.id → other = request := by
  have hinv := requestInv_runs hids.toDistinctIDs (reviewInv_start hids).toRequestInv hs
  have hclosed : Closed calls t request.id (· = request) := by
    induction ht with
    | refl =>
      refine ⟨fun other hother hid => List.inj_on_of_nodup_map hinv.nodup hother hmem hid, ?_⟩
      exact fun j hsubmits hwaits => hinv.fresh j _ hsubmits hwaits (List.mem_map_of_mem hmem)
    | tail hbefore hstep ih =>
      obtain ⟨i, hstep⟩ := hstep
      have hlawful := (requestInv_runs hids.toDistinctIDs hinv hbefore).lawful i
      exact closed_step hstep hlawful (fun _ heq => heq ▸ hreviewed) ih
  exact hclosed.1

/-- In every run whose steps leave the approvals undisturbed, each approval is all or
nothing. -/
theorem approvals_allOrNothing (platform : Platform) (parseDuration : Bytes → Option Int)
    (stored : (k : ReviewKey) → ReviewText k) (live : List Exception)
    (hids : RandomIDs calls stored live) (run : Nat → ReviewState thread)
    (hstart : run 0 = callsStart calls platform parseDuration stored live)
    (hrun : ∀ n, run (n + 1) = run n ∨
      ∃ i, Step readReview i (run n) (run (n + 1)) ∧
        Undisturbed calls (run n) i (run (n + 1))) :
    ReviewsWhole calls run := by
  have hinv := reviewInv_run hrun hids.toDistinctIDs (hstart ▸ reviewInv_start hids)
  have hnotBegun : ∀ {i requestID exceptionID}, Approves calls i requestID exceptionID →
      ¬Begun (run 0) i := by
    intro i requestID exceptionID happroves
    rw [hstart]
    exact not_begun_start (approval_ne_none happroves)
  constructor
  · intro i requestID exceptionID happroves n hfailed
    have happroval := approval_ne_none happroves
    constructor
    · have hlength := length_program_of_approves platform parseDuration happroval
      have hbefore := (hinv n).clean i happroval hfailed
      apply (program_suffix_run hrun (Nat.zero_le n) i).eq_of_length_le
      rw [Begun] at hbefore
      rw [hstart]
      change ((calls i).program platform parseDuration).length ≤ _
      omega
    · intro m htraces
      have hbegun := (hinv m).traced i requestID exceptionID happroves htraces
      rcases Nat.le_total m n with hmn | hnm
      · exact (hinv n).clean i happroval hfailed (begun_run hrun hmn hbegun)
      · exact (hinv m).clean i happroval (failed_run hrun hnm hfailed) hbegun
  · intro i j requestID exceptionID otherID hi hj m n hm hn
    have hbeguni := (hinv m).traced i requestID exceptionID hi hm
    have hbegunj := (hinv n).traced j requestID otherID hj hn
    exact (hinv (max m n)).single i j requestID exceptionID otherID hi hj
      (begun_run hrun (Nat.le_max_left m n) hbeguni)
      (begun_run hrun (Nat.le_max_right m n) hbegunj)
  · intro i requestID exceptionID happroves m htraces
    exact submitted_of_begun hrun happroves (hnotBegun happroves)
      ((hinv m).traced i requestID exceptionID happroves htraces)
  · intro i requestID exceptionID happroves m htraces n request hmem hid hrejected
    have hbegun := (hinv m).traced i requestID exceptionID happroves htraces
    have hnotPending : ¬Pending requestID (requestsOf (run n)) := by
      intro hpending
      rw [status_of_pending (hinv n).nodup hpending hmem hid] at hrejected
      cases hrejected
    have hspent : Spent calls (run n) requestID := by
      refine ⟨hnotPending, ?_⟩
      intro j hsubmits hwaits
      exact (hinv n).fresh j requestID hsubmits hwaits (List.mem_map.mpr ⟨request, hmem, hid⟩)
    by_cases hdone : ((run n).threads i).program = []
    · rw [((hinv n).settled i requestID exceptionID happroves hdone).1 request hmem hid]
        at hrejected
      cases hrejected
    · exact hnotPending ((hinv n).waiting i requestID exceptionID happroves
        ⟨begun_of_spent hrun hinv happroves hbegun hspent, hdone⟩)
  · intro i requestID exceptionID happroves m htraces k n hkn hk hn
    have hbegun := (hinv m).traced i requestID exceptionID happroves htraces
    have hnotPending : ¬Pending requestID (requestsOf (run n)) := by
      rintro ⟨request, hmem, hid, _⟩
      exact hn (List.mem_map.mpr ⟨request, hmem, hid⟩)
    have hspent : Spent calls (run n) requestID := by
      refine ⟨hnotPending, ?_⟩
      intro j hsubmits hwaits
      exact (hinv k).fresh j requestID hsubmits (waits_run hrun hkn hwaits) hk
    by_contra hdone
    exact hnotPending ((hinv n).waiting i requestID exceptionID happroves
      ⟨begun_of_spent hrun hinv happroves hbegun hspent, hdone⟩)

end Runs

/-! ## One approval -/

def approveCall : AccessCall :=
  .approve (utf8 "r") (utf8 "admin")
    { domain := utf8 "games.example", scope := utf8 "installation", duration := utf8 "1h" }
    (utf8 "e") ⟨∅, ∅, documentVersion, zeroTime⟩ 0 0

def storedRequests (requests : List AccessRequest) : (k : ReviewKey) → ReviewText k
  | .exceptions => (Stored.empty : Stored (GrantDocument Exception))
  | .requests => Stored.encoded ⟨grantDocumentVersion, requests, 0⟩

def approvalStart (requests : List AccessRequest) : ReviewState Unit :=
  callsStart (fun _ => approveCall) plainPlatform (fun _ => some hour) (storedRequests requests) []

def approvalRun (requests : List AccessRequest) (n : Nat) : ReviewState Unit :=
  (runSchedule readReview (List.replicate (min n 4) ()) (approvalStart requests)).getD
    (approvalStart requests)

def waitingRequest : AccessRequest where
  id := utf8 "r"
  domain := utf8 "games.example"
  clientIP := utf8 "192.0.2.7"
  reason := []
  status := .pending
  createdAt := 0

theorem approvals_allOrNothing_waitingRequest :
    ReviewsWhole (fun _ : Unit => approveCall) (approvalRun [waitingRequest]) ∧
      ((approvalRun [waitingRequest] 4).live .exceptions).map Exception.id = [utf8 "e"] ∧
      (requestsOf (approvalRun [waitingRequest] 4)).map AccessRequest.status = [.approved] := by
  refine ⟨?_, by decide, by decide⟩
  apply approvals_allOrNothing plainPlatform (fun _ => some hour)
    (storedRequests [waitingRequest]) []
  · refine ⟨⟨fun _ _ _ _ _ => rfl, fun _ _ _ _ _ => rfl⟩, by decide, ?_, ?_⟩
    · intro i requestID hsubmits
      cases hsubmits
    · intro i exceptionID _
      constructor
      · change exceptionID ∉ []
        simp
      · simp
  · rfl
  · have hsteps : ∀ n, n < 4 → Step readReview () (approvalRun [waitingRequest] n)
          (approvalRun [waitingRequest] (n + 1)) ∧
        (n ≠ 0 → ((approvalRun [waitingRequest] n).threads ()).program.length < 4) ∧
        ((approvalRun [waitingRequest] (n + 1)).threads ()).failed = false := by
      intro n hn
      match n, hn with
      | 0, _ => exact ⟨step_of_exec rfl, by simp, rfl⟩
      | 1, _ => exact ⟨step_of_exec rfl, fun _ => by decide, rfl⟩
      | 2, _ => exact ⟨step_of_exec rfl, fun _ => by decide, rfl⟩
      | 3, _ => exact ⟨step_of_exec rfl, fun _ => by decide, rfl⟩
    intro n
    by_cases hn : n < 4
    · obtain ⟨hstep, hbegun, hgoes⟩ := hsteps n hn
      refine .inr ⟨(), hstep, ⟨?_, ?_, ?_, ?_⟩⟩
      · intro requestID exceptionID happroves hbefore _
        cases happroves
        have hzero : n = 0 := by
          by_contra hne
          exact hbefore (hbegun hne)
        subst hzero
        refine ⟨⟨waitingRequest, List.mem_singleton_self _, rfl, rfl⟩, ?_⟩
        intro j otherID _ hflight
        exact Nat.lt_irrefl 4 hflight.1
      · intro _ hfailed
        rw [hgoes] at hfailed
        cases hfailed
      · intro _ j requestID exceptionID _ _ hrejects
        cases hrejects
      · intro _ hsubmits
        exact absurd rfl hsubmits
    · left
      have hmin : min n 4 = 4 := by omega
      have hmin' : min (n + 1) 4 = 4 := by omega
      rw [approvalRun, approvalRun, hmin, hmin']

theorem reviewed_final_rejected :
    let rejected := { waitingRequest with status := .rejected }
    rejected ∈ requestsOf (approvalStart [rejected]) ∧
      ∀ other ∈ requestsOf (approvalRun [rejected] 3), other.id = utf8 "r" → other = rejected := by
  intro rejected
  have hids : RandomIDs (fun _ : Unit => approveCall) (storedRequests [rejected]) [] :=
    ⟨⟨fun _ _ _ _ _ => rfl, fun _ _ _ _ _ => rfl⟩, by decide, nofun, fun _ _ _ => ⟨nofun, nofun⟩⟩
  have hrun : runSchedule readReview (List.replicate 3 ()) (approvalStart [rejected]) =
      some (approvalRun [rejected] 3) := rfl
  have hmem : rejected ∈ requestsOf (approvalStart [rejected]) := List.mem_singleton_self _
  exact ⟨hmem, reviewed_final hids .refl (runs_of_runSchedule hrun) hmem nofun⟩

/-- The exception is live although no such request was ever submitted and the approval has
returned an error. -/
theorem approval_of_unsubmitted_grants :
    ∃ s, Runs readReview (approvalStart []) s ∧ (s.threads ()).failed = true ∧
      requestsOf (approvalStart []) = [] ∧
      ((approvalStart []).live .exceptions).map Exception.id = [] ∧
      (s.live .exceptions).map Exception.id = [utf8 "e"] ∧
      exceptionIDs (s.stored .exceptions) = [utf8 "e"] := by
  have hschedule : runSchedule readReview (List.replicate 3 ()) (approvalStart []) =
      some (approvalRun [] 3) := rfl
  have hfail : Step readReview () (approvalRun [] 3) ((approvalRun [] 3).fail ()) := by
    apply Step.fail
    · rfl
    · intro hnil
      have hlength : (((approvalRun [] 3).threads ()).program).length = 1 := rfl
      rw [hnil] at hlength
      cases hlength
  refine ⟨_, .tail (runs_of_runSchedule hschedule) ⟨(), hfail⟩, rfl, rfl, rfl, ?_, ?_⟩
  · decide
  · decide

end GateSentry.Policy
