import GateSentry.Foundation.Net
import GateSentry.Foundation.Calendar
import GateSentry.Policy.AccessRequest

/-!
# The rate limit of the request form

`GSApiAccessRequestSubmit`: a submission is charged to the client that
`clientIPFromRequest` makes out, and each client has a rolling window.
-/

namespace GateSentry.Policy

open Foundation ByteText Calendar

/-! ## The limiter -/

def maxAccessRequestsPerMinute : Nat := 5

structure RateLimiter where
  hits : Dict Bytes (List Time)
  window : Int
  maxHits : Nat

def newAccessRequestRateLimiter : RateLimiter :=
  ⟨∅, 60 * second, maxAccessRequestsPerMinute⟩

def RateLimiter.allow (rl : RateLimiter) (ip : Bytes) (now : Time) : Bool × RateLimiter :=
  let cutoff := now - rl.window
  let kept := (rl.hits.entriesAt ip).filter (cutoff < ·)
  if rl.maxHits ≤ kept.length then (false, { rl with hits := rl.hits.insert ip kept })
  else (true, { rl with hits := rl.hits.insert ip (kept ++ [now]) })

/-! ## A submission -/

def comma : UInt8 := 44

def clientIPFromRequest (remoteAddr forwardedFor : Bytes) : Bytes :=
  if !forwardedFor.isEmpty then
    match Strings.cut comma forwardedFor with
    | some (first, _) => trimSpace first
    | none => trimSpace forwardedFor
  else
    match Net.splitHostPort remoteAddr with
    | .error _ => remoteAddr
    | .ok (host, _) => host

structure AccessRequestInput where
  domain : Bytes
  reason : Bytes := []

/-- A request to the form, and what the outside does while it is served: the two readings of
the clock, the random id, and whether the transaction succeeds.  There is no input if the
body is not valid JSON. -/
structure Submission where
  remoteAddr : Bytes
  forwardedFor : Bytes
  input : Option AccessRequestInput
  now : Time
  createdAt : Time
  id : Bytes
  stores : Bool

structure RequestForm where
  limiter : RateLimiter
  requests : List AccessRequest

inductive SubmitResponse where
  | invalidJSON
  | rejected (err : AccessRequestError)
  | failed
  | created (request : AccessRequest)

/-- `CreateAccessRequest`: the limiter is asked once the domain is there. -/
def createAccessRequest (form : RequestForm) (input : AccessRequestInput) (clientIP : Bytes)
    (s : Submission) : SubmitResponse × RequestForm :=
  if (trimSpace input.domain).isEmpty then (.rejected .domainRequired, form)
  else
    let (allowed, limiter) := form.limiter.allow clientIP s.now
    match newAccessRequest input.domain input.reason clientIP s.id s.createdAt allowed with
    | .error err => (.rejected err, { form with limiter })
    | .ok request =>
      if s.stores then (.created request, ⟨limiter, appendRequest request form.requests⟩)
      else (.failed, { form with limiter })

/-- `GSApiAccessRequestSubmit`. -/
def submitAccessRequest (form : RequestForm) (s : Submission) : SubmitResponse × RequestForm :=
  match s.input with
  | none => (.invalidJSON, form)
  | some input =>
    createAccessRequest form input (clientIPFromRequest s.remoteAddr s.forwardedFor) s

def serveSubmissions (form : RequestForm) : List Submission → List SubmitResponse × RequestForm
  | [] => ([], form)
  | s :: rest =>
    let (response, form) := submitAccessRequest form s
    let (responses, form) := serveSubmissions form rest
    (response :: responses, form)

/-! ## Senders -/

def senderOf (remoteAddr : Bytes) : Bytes := clientIPFromRequest remoteAddr []

def SubmitResponse.accepted : SubmitResponse → Bool
  | .created _ => true
  | _ => false

def acceptedTimes (sender : Bytes) (submissions : List Submission)
    (responses : List SubmitResponse) : List Time :=
  ((submissions.zip responses).filter fun (s, response) =>
    senderOf s.remoteAddr = sender && response.accepted).map (·.1.now)

def Ordered (submissions : List Submission) : Prop :=
  (submissions.map (·.now)).Pairwise (· ≤ ·)

theorem clientIPFromRequest_of_sender {remoteAddr other : Bytes}
    (h : senderOf other = senderOf remoteAddr) (forwardedFor : Bytes) :
    clientIPFromRequest other forwardedFor = clientIPFromRequest remoteAddr forwardedFor := by
  cases forwardedFor with
  | nil => exact h
  | cons b rest => rfl

/-! ## The calls of the limiter -/

open SlidingWindow

namespace RateLimiter

/-- The limiter after the calls, of which the latest is the first of the list. -/
def afterCalls (rl : RateLimiter) : List (Bytes × Time) → RateLimiter
  | [] => rl
  | (ip, now) :: earlier => ((rl.afterCalls earlier).allow ip now).2

def allowedTimes (rl : RateLimiter) (key : Bytes) : List (Bytes × Time) → List Time
  | [] => []
  | (ip, now) :: earlier => rl.allowedTimes key earlier ++
      if ip = key ∧ ((rl.afterCalls earlier).allow ip now).1 then [now] else []

end RateLimiter

def Clocked (calls : List (Bytes × Time)) : Prop :=
  calls.Pairwise fun later earlier => earlier.2 ≤ later.2

section Calls

variable (rl : RateLimiter) (key ip : Bytes) (now : Time)

theorem allow_hits :
    (rl.allow ip now).2.window = rl.window ∧ (rl.allow ip now).2.maxHits = rl.maxHits ∧
      (∀ other, other ≠ ip → (rl.allow ip now).2.hits.lookup other = rl.hits.lookup other) ∧
      (rl.allow ip now).2.hits.entriesAt ip = counting rl.window now (rl.hits.entriesAt ip) ++
          (if (rl.allow ip now).1 then [now] else []) := by
  unfold RateLimiter.allow
  dsimp only
  split
  · exact ⟨rfl, rfl, fun other hother => AList.lookup_insert_ne hother,
      by simp [Dict.entriesAt, counting]⟩
  · exact ⟨rfl, rfl, fun other hother => AList.lookup_insert_ne hother,
      by simp [Dict.entriesAt, counting]⟩

theorem allow_iff_room : (rl.allow ip now).1 = true ↔
    (counting rl.window now (rl.hits.entriesAt ip)).length < rl.maxHits := by
  rw [← Nat.not_le]
  unfold RateLimiter.allow counting
  dsimp only
  split
  · next hfull => simpa using hfull
  · next hroom => simpa using hroom

theorem after_config (calls : List (Bytes × Time)) :
    (rl.afterCalls calls).window = rl.window ∧ (rl.afterCalls calls).maxHits = rl.maxHits := by
  induction calls with
  | nil => exact ⟨rfl, rfl⟩
  | cons call earlier ih =>
    obtain ⟨hwindow, hmaxHits, -⟩ := allow_hits (rl.afterCalls earlier) call.1 call.2
    exact ⟨hwindow.trans ih.1, hmaxHits.trans ih.2⟩

theorem after_concat (calls : List (Bytes × Time)) :
    rl.afterCalls (calls ++ [(ip, now)]) = (rl.allow ip now).2.afterCalls calls := by
  induction calls with
  | nil => rfl
  | cons call later ih => rw [List.cons_append, RateLimiter.afterCalls, ih, RateLimiter.afterCalls]

theorem allowedTimes_concat (calls : List (Bytes × Time)) :
    rl.allowedTimes key (calls ++ [(ip, now)]) =
      (if ip = key ∧ (rl.allow ip now).1 then [now] else []) ++
        (rl.allow ip now).2.allowedTimes key calls := by
  induction calls with
  | nil =>
    rw [RateLimiter.allowedTimes, List.append_nil]
    rfl
  | cons call later ih =>
    simp only [List.cons_append, RateLimiter.allowedTimes, ih, after_concat, List.append_assoc]

variable {calls : List (Bytes × Time)}

/-- Of its hits and of what it has allowed since, the limiter remembers what still counts. -/
theorem counting_after {later : Time} (hlater : ∀ call ∈ calls, call.2 ≤ later) :
    counting rl.window later ((rl.afterCalls calls).hits.entriesAt key) =
      counting rl.window later (rl.hits.entriesAt key ++ rl.allowedTimes key calls) := by
  induction calls with
  | nil => simp [RateLimiter.afterCalls, RateLimiter.allowedTimes]
  | cons call earlier ih =>
    obtain ⟨ip, now⟩ := call
    obtain ⟨hnow, hearlier⟩ := List.forall_mem_cons.mp hlater
    obtain ⟨-, -, hothers, hself⟩ := allow_hits (rl.afterCalls earlier) ip now
    rw [(after_config rl earlier).1] at hself
    unfold RateLimiter.afterCalls RateLimiter.allowedTimes
    rw [← List.append_assoc, counting_append, ← ih hearlier]
    by_cases hkey : key = ip
    · subst hkey
      simp [hself, counting_append, counting_counting hnow]
    · simp [Dict.entriesAt, hothers key hkey, Ne.symm hkey, counting]

theorem allowedTimes_bounded (hclock : Clocked calls) :
    Bounded rl.window rl.maxHits (rl.allowedTimes key calls) := by
  induction calls with
  | nil => exact fun _ => Nat.zero_le _
  | cons call earlier ih =>
    obtain ⟨hlatest, hearlier⟩ := List.pairwise_cons.mp hclock
    unfold RateLimiter.allowedTimes
    split
    · next hallowed =>
      obtain ⟨rfl, hallowed⟩ := hallowed
      have hroom := (allow_iff_room ..).mp hallowed
      rw [(after_config rl earlier).1, (after_config rl earlier).2,
        counting_after rl call.1 hlatest, counting_append, List.length_append] at hroom
      exact Bounded.admit (ih hearlier) (by omega)
    · simpa using ih hearlier

end Calls

/-- What is allowed is bounded, and refused only for the bound; a call leaves no key whose hits
have all expired exactly if there was none but its own. -/
theorem limiter_exact (rl : RateLimiter) (hnew : rl.hits = ∅) (hwindow : 0 < rl.window)
    (hmaxHits : 0 < rl.maxHits) (ip : Bytes) (now : Time) (earlier : List (Bytes × Time))
    (hclock : Clocked ((ip, now) :: earlier)) :
    (∀ key, Bounded rl.window rl.maxHits (rl.allowedTimes key ((ip, now) :: earlier))) ∧
      (((rl.afterCalls earlier).allow ip now).1 = false →
        rl.maxHits ≤ (counting rl.window now (rl.allowedTimes ip earlier)).length) ∧
      ((∀ key times, (rl.afterCalls ((ip, now) :: earlier)).hits.lookup key = some times →
          counting rl.window now times ≠ []) ↔
        ∀ key times, key ≠ ip → (rl.afterCalls earlier).hits.lookup key = some times →
          counting rl.window now times ≠ []) := by
  obtain ⟨hsameWindow, hsameMax⟩ := after_config rl earlier
  obtain ⟨-, -, hothers, hself⟩ := allow_hits (rl.afterCalls earlier) ip now
  have hroom := allow_iff_room (rl.afterCalls earlier) ip now
  rw [hsameWindow] at hself hroom
  refine ⟨fun key => allowedTimes_bounded rl key hclock, fun hrefused => ?_,
    fun h key times hkey hlookup => ?_, fun h key times hlookup => ?_⟩
  · rw [hsameMax, counting_after rl ip (List.pairwise_cons.mp hclock).1, hrefused] at hroom
    have hnone : rl.hits.entriesAt ip = [] := by
      rw [hnew]
      rfl
    simpa [hnone] using hroom
  · exact h key times ((hothers key hkey).trans hlookup)
  · by_cases hkey : key = ip
    · subst hkey
      have htimes : ((rl.afterCalls earlier).allow key now).2.hits.entriesAt key = times := by
        rw [Dict.entriesAt]
        exact congrArg (·.getD []) hlookup
      rw [← htimes, hself, counting_append, counting_counting (Int.le_refl now)]
      intro hempty
      -- with no hit that counts there is room, and the call itself counts
      obtain ⟨hkept, hadded⟩ := List.append_eq_nil_iff.mp hempty
      rw [hroom.mpr (by rw [hkept, hsameMax]; exact hmaxHits), if_pos rfl, counting,
        List.filter_eq_nil_iff] at hadded
      exact hadded now List.mem_cons_self (decide_eq_true (Int.sub_lt_self now hwindow))
    · exact h key times hkey ((hothers key hkey).symm.trans hlookup)

theorem limiter_exact_minute :
    Bounded (60 * second) maxAccessRequestsPerMinute (newAccessRequestRateLimiter.allowedTimes
      (utf8 "a") [(utf8 "a", 2 * second), (utf8 "b", second), (utf8 "a", 0)]) :=
  (limiter_exact newAccessRequestRateLimiter rfl (by decide) (by decide) (utf8 "a") (2 * second)
    [(utf8 "b", second), (utf8 "a", 0)] (by simp [Clocked, second])).1 (utf8 "a")

/-- The hit of the first key has expired for an hour, and stays. -/
theorem expired_key_remains : (newAccessRequestRateLimiter.afterCalls
    [(utf8 "b", 3600 * second), (utf8 "a", 0)]).hits.lookup (utf8 "a") = some [0] := by
  decide

theorem limiter_submitAccessRequest (form : RequestForm) (s : Submission) :
    ((submitAccessRequest form s).1.accepted = false ∧
        (submitAccessRequest form s).2.limiter = form.limiter) ∨
      ((submitAccessRequest form s).2.limiter =
          (form.limiter.allow (clientIPFromRequest s.remoteAddr s.forwardedFor) s.now).2 ∧
        ((submitAccessRequest form s).1.accepted = true →
          (form.limiter.allow (clientIPFromRequest s.remoteAddr s.forwardedFor) s.now).1 =
            true)) := by
  unfold submitAccessRequest
  split
  · exact .inl ⟨rfl, rfl⟩
  · next input hinput =>
    unfold createAccessRequest
    split
    · exact .inl ⟨rfl, rfl⟩
    · next hdomain =>
      right
      cases hallow : form.limiter.allow (clientIPFromRequest s.remoteAddr s.forwardedFor)
          s.now with
      | mk allowed limiter =>
        cases allowed with
        | true =>
          refine ⟨?_, fun _ => rfl⟩
          dsimp only
          repeat' split
          all_goals rfl
        | false =>
          have hrefused : newAccessRequest input.domain input.reason
              (clientIPFromRequest s.remoteAddr s.forwardedFor) s.id s.createdAt false =
                .error .rateLimited := by
            simp [newAccessRequest, hdomain]
          simp only [hrefused, true_and]
          exact fun haccepted => haccepted

theorem serveSubmissions_cons (form : RequestForm) (s : Submission) (rest : List Submission) :
    (serveSubmissions form (s :: rest)).1 =
      (submitAccessRequest form s).1 ::
        (serveSubmissions (submitAccessRequest form s).2 rest).1 := rfl

theorem acceptedTimes_cons (sender : Bytes) (s : Submission) (rest : List Submission)
    (response : SubmitResponse) (responses : List SubmitResponse) :
    acceptedTimes sender (s :: rest) (response :: responses) =
      (if senderOf s.remoteAddr = sender ∧ response.accepted = true then [s.now] else []) ++
        acceptedTimes sender rest responses := by
  unfold acceptedTimes
  by_cases haccepted : senderOf s.remoteAddr = sender ∧ response.accepted = true
  · simp [haccepted.1, haccepted.2]
  · rw [List.zip_cons_cons, List.filter_cons_of_neg (by simpa using haccepted),
      if_neg haccepted, List.nil_append]

/-- What is accepted of a sender is allowed to its key, in the calls that the submissions make. -/
theorem acceptedTimes_sublist {key sender : Bytes} (form : RequestForm)
    {submissions : List Submission} (hordered : Ordered submissions)
    (hkey : ∀ s ∈ submissions, senderOf s.remoteAddr = sender →
      clientIPFromRequest s.remoteAddr s.forwardedFor = key) :
    ∃ calls, Clocked calls ∧ (∀ call ∈ calls, call.2 ∈ submissions.map (·.now)) ∧
      (acceptedTimes sender submissions (serveSubmissions form submissions).1).Sublist
        (form.limiter.allowedTimes key calls) := by
  induction submissions generalizing form with
  | nil => exact ⟨[], .nil, by simp, List.nil_sublist _⟩
  | cons s rest ih =>
    obtain ⟨hnext, hrest⟩ := List.pairwise_cons.mp hordered
    obtain ⟨calls, hclock, htimes, hsub⟩ := ih (submitAccessRequest form s).2 hrest
      fun other hother => hkey other (List.mem_cons_of_mem _ hother)
    have htimes' : ∀ call ∈ calls, call.2 ∈ (s :: rest).map (·.now) := fun call hcall =>
      List.mem_cons_of_mem _ (htimes call hcall)
    rw [serveSubmissions_cons, acceptedTimes_cons]
    rcases limiter_submitAccessRequest form s with ⟨hrefused, hsame⟩ | ⟨hasked, hallowed⟩
    · rw [hsame] at hsub
      exact ⟨calls, hclock, htimes', by simpa [hrefused] using hsub⟩
    · rw [hasked] at hsub
      refine ⟨calls ++ [(clientIPFromRequest s.remoteAddr s.forwardedFor, s.now)],
        List.pairwise_append.mpr ⟨hclock, by simp, ?_⟩, ?_, ?_⟩
      · simpa using fun ip now hcall => hnext now (htimes (ip, now) hcall)
      · simpa [or_imp, forall_and] using htimes'
      · rw [allowedTimes_concat]
        refine List.Sublist.append ?_ hsub
        split
        · next haccepted =>
          rw [if_pos ⟨hkey s List.mem_cons_self haccepted.1, hallowed haccepted.2⟩]
        · exact List.nil_sublist _

/-! ## Two keys -/

def plainSubmission (remoteAddr forwardedFor : Bytes) : Submission where
  remoteAddr := remoteAddr
  forwardedFor := forwardedFor
  input := some { domain := utf8 "a" }
  now := 0
  createdAt := 0
  id := []
  stores := true

def emptyForm : RequestForm := ⟨newAccessRequestRateLimiter, []⟩

theorem submit_plain (form : RequestForm) (remoteAddr forwardedFor : Bytes) :
    (submitAccessRequest form (plainSubmission remoteAddr forwardedFor)).1.accepted =
        (form.limiter.allow (clientIPFromRequest remoteAddr forwardedFor) 0).1 ∧
      (submitAccessRequest form (plainSubmission remoteAddr forwardedFor)).2.limiter =
        (form.limiter.allow (clientIPFromRequest remoteAddr forwardedFor) 0).2 := by
  have hdomain : (trimSpace (utf8 "a")).isEmpty = false := by decide
  unfold submitAccessRequest createAccessRequest plainSubmission newAccessRequest
  cases form.limiter.allow (clientIPFromRequest remoteAddr forwardedFor) 0 with
  | mk allowed limiter => cases allowed <;> simp [hdomain, SubmitResponse.accepted]

theorem not_bounded_of_two_keys {remoteAddr header header' : Bytes}
    (h : clientIPFromRequest remoteAddr header ≠ clientIPFromRequest remoteAddr header') :
    ¬ Bounded newAccessRequestRateLimiter.window newAccessRequestRateLimiter.maxHits
      (acceptedTimes (senderOf remoteAddr)
        (List.replicate maxAccessRequestsPerMinute (plainSubmission remoteAddr header) ++
          [plainSubmission remoteAddr header'])
        (serveSubmissions emptyForm
          (List.replicate maxAccessRequestsPerMinute (plainSubmission remoteAddr header) ++
            [plainSubmission remoteAddr header'])).1) := by
  intro hbounded
  have hminute := hbounded 0
  -- each of the six submissions is asked of its own key, which has room
  simp only [maxAccessRequestsPerMinute, List.replicate, List.cons_append, List.nil_append,
    serveSubmissions_cons, acceptedTimes_cons, submit_plain] at hminute
  simp [emptyForm, plainSubmission, newAccessRequestRateLimiter, RateLimiter.allow, second,
    maxAccessRequestsPerMinute, Dict.entriesAt, acceptedTimes, h.symm,
    -AList.insert_empty] at hminute

/-- The submissions of a sender are limited in every run, whatever the other senders do,
exactly when all the `X-Forwarded-For` values it may use are charged to one key. -/
theorem submissions_limited_iff (remoteAddr : Bytes) (headers : Set Bytes) :
    (∀ (form : RequestForm) (submissions : List Submission),
      form.limiter.window = newAccessRequestRateLimiter.window →
      form.limiter.maxHits = newAccessRequestRateLimiter.maxHits →
      Ordered submissions →
      (∀ s ∈ submissions, senderOf s.remoteAddr = senderOf remoteAddr →
        s.forwardedFor ∈ headers) →
      Bounded minute maxAccessRequestsPerMinute
        (acceptedTimes (senderOf remoteAddr) submissions (serveSubmissions form submissions).1)) ↔
    ∀ header ∈ headers, ∀ header' ∈ headers,
      clientIPFromRequest remoteAddr header = clientIPFromRequest remoteAddr header' := by
  constructor
  · intro hbounded header hheader header' hheader'
    by_contra hkeys
    apply not_bounded_of_two_keys hkeys
    apply hbounded emptyForm _ rfl rfl
    · change List.Pairwise (· ≤ ·) ([0, 0, 0, 0, 0, 0] : List Time)
      decide
    · intro s hs _
      rcases List.mem_append.mp hs with hfirst | hlast
      · rw [List.eq_of_mem_replicate hfirst]
        exact hheader
      · rw [List.mem_singleton.mp hlast]
        exact hheader'
  · intro hkeys form submissions hwindow hmaxHits hordered hheaders
    obtain ⟨key, hkey⟩ : ∃ key, ∀ s ∈ submissions, senderOf s.remoteAddr = senderOf remoteAddr →
        clientIPFromRequest s.remoteAddr s.forwardedFor = key := by
      by_cases hsends : ∃ s ∈ submissions, senderOf s.remoteAddr = senderOf remoteAddr
      · obtain ⟨first, hfirst, hsender⟩ := hsends
        refine ⟨clientIPFromRequest remoteAddr first.forwardedFor, fun s hs hsame => ?_⟩
        rw [clientIPFromRequest_of_sender hsame]
        exact hkeys _ (hheaders s hs hsame) _ (hheaders first hfirst hsender)
      · exact ⟨[], fun s hs hsame => absurd ⟨s, hs, hsame⟩ hsends⟩
    obtain ⟨calls, hclock, -, hsub⟩ := acceptedTimes_sublist form hordered hkey
    have hbounded := (allowedTimes_bounded form.limiter key hclock).sublist hsub
    rw [hwindow, hmaxHits] at hbounded
    exact hbounded

def renamedSubmissions : List Submission :=
  (List.range 6).map fun n =>
    plainSubmission (utf8 "192.0.2.10:4711") (utf8 "203.0.113." ++ utf8 (toString n))

theorem renamed_submissions_accepted :
    ((serveSubmissions emptyForm renamedSubmissions).1.all SubmitResponse.accepted) = true ∧
      ¬ Bounded minute maxAccessRequestsPerMinute
        (acceptedTimes (utf8 "192.0.2.10") renamedSubmissions
          (serveSubmissions emptyForm renamedSubmissions).1) := by
  have htimes : acceptedTimes (utf8 "192.0.2.10") renamedSubmissions
      (serveSubmissions emptyForm renamedSubmissions).1 = [0, 0, 0, 0, 0, 0] := by
    decide +kernel
  refine ⟨by decide +kernel, fun hbounded => ?_⟩
  have hminute := hbounded 0
  rw [htimes] at hminute
  exact absurd hminute (by decide)

end GateSentry.Policy
