import GateSentry.Dns.Enforcement

/-!
# Forwarded answers

A query that nothing here decides is sent to the external resolver.  The reply is built anew, and
of the resolver's response only the answer section gets into it.
-/

namespace GateSentry.Dns

open Foundation Discovery Policy Handler ByteText

structure Undecided (platform : Platform) (client : Client) (turn : Turn) (q : Question) :
    Prop where
  noDevice : ∀ ds, turn.deviceStore = some ds → deviceRecords ds q (domainOf q) = []
  noRecord : turn.isException (domainOf q) = true ∨
    turn.tables.internalRecords.lookup (domainOf q) = none
  notRestricted : ¬ Restricted platform client turn q

section Question

variable {platform : Platform} {client : Client} {r : Msg} {q : Question} {turn : Turn}

section

variable (h : Undecided platform client turn q)

include h

theorem answerFromDevices_next : (answerFromDevices client r q turn).flow = .next () := by
  unfold answerFromDevices
  cases hstore : turn.deviceStore with
  | none => rfl
  | some ds => simp [h.noDevice ds hstore]; rfl

theorem answerFromRecords_next : (answerFromRecords client r q turn).flow = .next () := by
  unfold answerFromRecords
  split
  · rfl
  · rename_i hexception
    rw [h.noRecord.resolve_left hexception]
    rfl

theorem enforcePolicy_next : (enforcePolicy platform client r q turn).flow = .next () := by
  have hblock : decide ((turn.policyDecision platform client.clientIP (domainOf q)).action =
      .block) = false := by
    rw [decide_eq_false_iff_not]
    exact fun hblock => h.notRestricted (.inl hblock)
  have hlisted : (decide ((turn.policyDecision platform client.clientIP (domainOf q)).action ≠
      .allow) && turn.isBlocked (domainOf q)) = false := by
    rw [Bool.eq_false_iff]
    intro hlisted
    rw [Bool.and_eq_true, decide_eq_true_eq] at hlisted
    exact h.notRestricted (.inr (.inl hlisted))
  unfold enforcePolicy
  dsimp only
  rw [hblock, hlisted]
  cases decide ((turn.policyDecision platform client.clientIP (domainOf q)).action = .allow) &&
    turn.isBlocked (domainOf q) <;> rfl

theorem enforceSafeSearch_next : (enforceSafeSearch platform client r q turn).flow = .next () := by
  have htarget : turn.safeSearch platform client.clientIP (domainOf q) = [] := by
    by_contra htarget
    exact h.notRestricted (.inr (.inr htarget))
  unfold enforceSafeSearch
  rw [htarget]
  rfl

end

theorem answerQuestion_next (hname : q.name ≠ []) (h : Undecided platform client turn q)
    {upstream : Msg}
    (hforward : forwardDNSRequest turn.exchange r client.overTCP = some upstream) :
    (answerQuestion platform client r q turn).flow = .next upstream.answer := by
  have hnonempty : q.name.isEmpty = false := by simpa using hname
  unfold answerQuestion
  rw [hnonempty, whenever_false, Handler.pure_bind,
    flow_bind_next (answerFromDevices_next h), flow_bind_next (answerFromRecords_next h),
    flow_bind_next (enforcePolicy_next h), flow_bind_next (enforceSafeSearch_next h)]
  unfold forwardQuestion
  rw [hforward]
  rfl

end Question

/-! ## The reply -/

section Reply

variable {platform : Platform} {client : Client} {turns : Nat → Turn} {r : Msg}
  {upstream : Nat → Msg}

/-- Every question is undecided, and the resolver responds to the message forwarded for it. -/
def Forwarded (platform : Platform) (client : Client) (turns : Nat → Turn) (r : Msg)
    (upstream : Nat → Msg) : Prop :=
  ∀ i q, r.question[i]? = some q → q.name ≠ [] ∧ Undecided platform client (turns i) q ∧
    forwardDNSRequest (turns i).exchange r client.overTCP = some (upstream i)

def collected (upstream : Nat → Msg) (count : Nat) : List RR :=
  (List.range count).flatMap fun i => (upstream i).answer

theorem answerQuestions_next (h : Forwarded platform client turns r upstream)
    (questions : List Question) (i : Nat) (hsuffix : r.question.drop i = questions) :
    (answerQuestions platform client r turns questions i (collected upstream i)).flow =
      .next (collected upstream (i + questions.length)) := by
  induction questions generalizing i with
  | nil => rfl
  | cons q rest ih =>
    have hq : r.question[i]? = some q := by
      rw [← List.head?_drop, hsuffix]
      rfl
    have hrest : r.question.drop (i + 1) = rest := by
      rw [← List.tail_drop, hsuffix]
      rfl
    have hnext : collected upstream i ++ (upstream i).answer = collected upstream (i + 1) := by
      simp [collected, List.range_succ]
    obtain ⟨hname, hundecided, hforward⟩ := h i q hq
    unfold answerQuestions
    rw [flow_bind_next (answerQuestion_next hname hundecided hforward), hnext,
      ih (i + 1) hrest, List.length_cons]
    congr 2
    omega

theorem responses_forwarded {server : ServerState} (hrunning : server.serverRunning = true)
    (hquery : r.opcode ≠ opcodeUpdate) (h : Forwarded platform client turns r upstream) :
    responses (handleDNSRequest platform server client turns r) =
      [collectedAnswer r (collected upstream r.question.length)] := by
  have hflow : (answerQuestions platform client r turns r.question 0 []).flow =
      .next (collected upstream r.question.length) := by
    have hloop := answerQuestions_next h r.question 0 rfl
    rw [Nat.zero_add] at hloop
    exact hloop
  have hbefore := (respondsOnce_answerQuestions platform client r turns r.question 0
    []).none_before _ hflow
  unfold handleDNSRequest
  rw [hrunning, if_neg (by decide), if_neg hquery, responses_bind, hflow]
  rw [hbefore]
  rfl

def Mirrors (response upstream : Msg) : Prop :=
  response.rcode = upstream.rcode ∧ response.answer = upstream.answer

/-- The client gets what the resolver has responded exactly if that is a success.  With several
questions the message is forwarded for each, and the answers of all are put together. -/
theorem forwarded_mirrors_iff {server : ServerState} (hrunning : server.serverRunning = true)
    (hquery : r.opcode ≠ opcodeUpdate) (h : Forwarded platform client turns r upstream) :
    (∃ response, responses (handleDNSRequest platform server client turns r) = [response] ∧
      ∀ i < r.question.length, Mirrors response (upstream i)) ↔
      ∀ i < r.question.length, (upstream i).rcode = rcodeSuccess ∧
        (upstream i).answer = collected upstream r.question.length := by
  rw [responses_forwarded hrunning hquery h]
  constructor
  · rintro ⟨response, hresponse, hmirrors⟩ i hi
    obtain rfl := List.singleton_inj.mp hresponse
    exact ⟨(hmirrors i hi).1.symm, (hmirrors i hi).2.symm⟩
  · intro hsuccess
    refine ⟨_, rfl, fun i hi => ?_⟩
    exact ⟨(hsuccess i hi).1.symm, (hsuccess i hi).2.symm⟩

end Reply

def questionTurn (rcode : Nat) (answer : List RR) : Turn where
  policy := none
  deviceStore := none
  tables := ⟨∅, ∅, ∅⟩
  exchange _ m := some { m.reply rcode with answer }

def oneQuestion : Msg where
  question := [⟨utf8 "site.example.", typeA, classINET⟩]

def siteRecord : RR where
  name := utf8 "site.example."
  rrtype := typeA
  rrclass := classINET
  ttl := 60
  data := .a (Net.parseIP (utf8 "192.0.2.1"))

theorem forwarded_oneQuestion (rcode : Nat) (answer : List RR) :
    Forwarded plainPlatform questionClient (fun _ => questionTurn rcode answer) oneQuestion
      fun _ => { oneQuestion.reply rcode with answer } := by
  intro i q hq
  have hundecided : Undecided plainPlatform questionClient (questionTurn rcode answer) q := by
    refine ⟨nofun, .inr rfl, ?_⟩
    rintro (hblock | ⟨-, hlisted⟩ | htarget)
    · cases hblock
    · cases hlisted
    · exact htarget rfl
  refine ⟨?_, hundecided, rfl⟩
  obtain rfl := List.mem_singleton.mp (List.mem_of_getElem? hq)
  decide

theorem forwarded_mirrors_oneQuestion :
    ∃ response, responses (handleDNSRequest plainPlatform queryServer questionClient
        (fun _ => questionTurn rcodeSuccess [siteRecord]) oneQuestion) = [response] ∧
      ∀ i < 1, Mirrors response { oneQuestion.reply rcodeSuccess with answer := [siteRecord] } := by
  apply (forwarded_mirrors_iff rfl (by decide)
    (forwarded_oneQuestion rcodeSuccess [siteRecord])).mpr
  intro i _
  exact ⟨rfl, rfl⟩

/-- The resolver says that the name does not exist; the client is told that it does. -/
theorem forwarded_nameError_lost :
    forwardDNSRequest (questionTurn rcodeNameError []).exchange oneQuestion false =
        some (oneQuestion.reply rcodeNameError) ∧
      responses (handleDNSRequest plainPlatform queryServer questionClient
        (fun _ => questionTurn rcodeNameError []) oneQuestion) =
        [{ oneQuestion.reply rcodeSuccess with authoritative := true }] := by
  constructor
  · rfl
  · decide +kernel

end GateSentry.Dns
