import GateSentry.Foundation.Outcome

/-!
# Request handlers

A handler performs visible actions one after the other.  It may return at any
point, and it may panic; either way what it did before has been done.
-/

namespace GateSentry.Foundation

inductive Flow (α : Type) where
  | next (value : α)
  | returned
  | panicked (reason : Panic)
  deriving DecidableEq

structure Handler (ε α : Type) where
  trace : List ε
  flow : Flow α
  deriving DecidableEq

namespace Handler

variable {ε α β : Type}

protected def pure (value : α) : Handler ε α := ⟨[], .next value⟩

protected def bind (m : Handler ε α) (f : α → Handler ε β) : Handler ε β :=
  match m.flow with
  | .next value => ⟨m.trace ++ (f value).trace, (f value).flow⟩
  | .returned => ⟨m.trace, .returned⟩
  | .panicked reason => ⟨m.trace, .panicked reason⟩

instance : Monad (Handler ε) where
  pure := Handler.pure
  bind := Handler.bind

def emit (event : ε) : Handler ε Unit := ⟨[event], .next ()⟩

def stop : Handler ε α := ⟨[], .returned⟩

def crash (reason : Panic) : Handler ε α := ⟨[], .panicked reason⟩

def whenever (condition : Bool) (m : Handler ε Unit) : Handler ε Unit :=
  if condition then m else Handler.pure ()

def ofOutcome (x : Outcome Empty α) : Handler ε α :=
  match x with
  | .ok value => Handler.pure value
  | .error (.panic reason) => crash reason

def scope (m : Handler ε Unit) : Handler ε Unit :=
  match m.flow with
  | .returned => ⟨m.trace, .next ()⟩
  | _ => m

/-- `m` under a deferred `recover`: a panic is answered by `rescue`. -/
def recovering (m rescue : Handler ε α) : Handler ε α :=
  match m.flow with
  | .panicked _ => ⟨m.trace ++ rescue.trace, rescue.flow⟩
  | _ => m

def Crashes (m : Handler ε α) : Prop := ∃ reason, m.flow = .panicked reason

/-! ## Equations -/

variable (value : α)

@[simp] theorem pure_bind (f : α → Handler ε β) :
    (pure value >>= f : Handler ε β) = f value := rfl

@[simp] theorem stop_bind (f : α → Handler ε β) : ((stop : Handler ε α) >>= f) = stop := rfl

theorem bind_assoc {γ : Type} (m : Handler ε α) (f : α → Handler ε β)
    (g : β → Handler ε γ) : (m >>= f) >>= g = m >>= fun value => f value >>= g := by
  change Handler.bind (Handler.bind m f) g = Handler.bind m fun value => Handler.bind (f value) g
  cases hm : m.flow with
  | returned | panicked => simp [Handler.bind, hm]
  | next value => cases hf : (f value).flow <;> simp [Handler.bind, hm, hf]

@[simp] theorem whenever_true (m : Handler ε Unit) : whenever true m = m := rfl

@[simp] theorem whenever_false (m : Handler ε Unit) : whenever false m = pure () := rfl

@[simp] theorem ofOutcome_ok :
    (ofOutcome (.ok value) : Handler ε α) = pure value := rfl

/-! ## Panics -/

@[simp] theorem not_crashes_pure : ¬ Crashes (pure value : Handler ε α) := by
  rintro ⟨_, h⟩
  cases h

@[simp] theorem not_crashes_stop : ¬ Crashes (stop : Handler ε α) := by
  rintro ⟨_, h⟩
  cases h

variable (event : ε)

@[simp] theorem not_crashes_emit : ¬ Crashes (emit event) := by
  rintro ⟨_, h⟩
  cases h

variable (reason : Panic)

@[simp] theorem crashes_crash :
    Crashes (crash reason : Handler ε α) := ⟨reason, rfl⟩

theorem crashes_bind_iff (m : Handler ε α) (f : α → Handler ε β) :
    Crashes (m >>= f) ↔ Crashes m ∨ ∃ value, m.flow = .next value ∧ Crashes (f value) := by
  change Crashes (Handler.bind m f) ↔ _
  cases hm : m.flow with
  | returned | panicked | next => simp [Crashes, Handler.bind, hm]

@[simp] theorem flow_emit : (emit event).flow = .next () := rfl

theorem crashes_ofOutcome_iff (x : Outcome Empty α) :
    Crashes (ofOutcome x : Handler ε α) ↔ Outcome.Panics x := by
  match x with
  | .ok value => simp [ofOutcome_ok]
  | .error (.panic reason) =>
    exact iff_of_true (crashes_crash reason) (Outcome.panics_panicked reason)

/-! ## Actions -/

theorem mem_trace_bind_iff (m : Handler ε α) (f : α → Handler ε β) :
    event ∈ (m >>= f).trace ↔
      event ∈ m.trace ∨ ∃ value, m.flow = .next value ∧ event ∈ (f value).trace := by
  change event ∈ (Handler.bind m f).trace ↔ _
  cases hm : m.flow with
  | returned | panicked | next => simp [Handler.bind, hm]

@[simp] theorem trace_pure : (pure value : Handler ε α).trace = [] := rfl

@[simp] theorem trace_stop : (stop : Handler ε α).trace = [] := rfl

@[simp] theorem trace_crash : (crash reason : Handler ε α).trace = [] := rfl

@[simp] theorem trace_emit : (emit event).trace = [event] := rfl

variable {m : Handler ε α} {f : α → Handler ε β} {value : α}

section

variable (hm : m.flow = .next value)

include hm

theorem mem_trace_bind_next {event : ε} (h : event ∈ (f value).trace) : event ∈ (m >>= f).trace :=
  (mem_trace_bind_iff event m f).mpr (.inr ⟨value, hm, h⟩)

theorem flow_bind_next (f : α → Handler ε β) : (m >>= f).flow = (f value).flow := by
  change (Handler.bind m f).flow = _
  simp only [Handler.bind, hm]

theorem trace_bind_next (f : α → Handler ε β) : (m >>= f).trace = m.trace ++ (f value).trace := by
  change (Handler.bind m f).trace = _
  simp only [Handler.bind, hm]

end

theorem crashes_emit_bind (f : Unit → Handler ε β) :
    Crashes (emit event >>= f) ↔ Crashes (f ()) := by
  rw [Crashes, flow_bind_next rfl]
  rfl

variable {condition : Bool}

theorem trace_whenever_stop {m : Handler ε Unit} (hm : m.flow = .next ()) (k : Handler ε β) :
    (whenever condition (m >>= fun _ => stop) >>= fun _ => k).trace =
      if condition then m.trace else k.trace := by
  cases condition with
  | false => rfl
  | true =>
    change (Handler.bind (Handler.bind m fun _ => stop) fun _ => k).trace = m.trace
    simp [Handler.bind, hm, stop]

theorem crashes_bind_next (hm : m.flow = .next value)
    (h : Crashes (f value)) : Crashes (m >>= f) :=
  (crashes_bind_iff m f).mpr (.inr ⟨value, hm, h⟩)

@[simp] theorem trace_scope (m : Handler ε Unit) : (scope m).trace = m.trace := by
  unfold scope
  split <;> rfl

@[simp] theorem crashes_scope_iff (m : Handler ε Unit) : Crashes (scope m) ↔ Crashes m := by
  unfold scope Crashes
  cases hflow : m.flow <;> simp [hflow]

/-! ## What a handler ensures -/

/-- Every action of the handler is a `good` one, it panics only if `crash`, and
where it goes on its value satisfies `post`. -/
structure Ensures (m : Handler ε α) (good : ε → Prop) (crash : Prop)
    (post : α → Prop := fun _ => True) : Prop where
  events : ∀ event ∈ m.trace, good event
  crashes : Crashes m → crash
  next : ∀ value, m.flow = .next value → post value

variable {good : ε → Prop} {crash : Prop} {post post' : α → Prop} {goal : β → Prop}

theorem ensures_pure (h : post value) : Ensures (pure value : Handler ε α) good crash post := by
  refine ⟨by simp, fun hcrash => absurd hcrash (not_crashes_pure value), ?_⟩
  intro result hresult
  cases hresult
  exact h

theorem ensures_stop : Ensures (stop : Handler ε α) good crash post :=
  ⟨by simp, fun h => absurd h not_crashes_stop, fun _ h => nomatch h⟩

variable {done : Unit → Prop}

theorem ensures_emit {event : ε} (h : good event) (hdone : done ()) :
    Ensures (emit event) good crash done := by
  refine ⟨?_, fun hcrash => absurd hcrash (not_crashes_emit event), fun _ _ => hdone⟩
  intro other hother
  rw [trace_emit, List.mem_singleton] at hother
  exact hother ▸ h

theorem ensures_crash {reason : Panic} (h : crash) :
    Ensures (Handler.crash reason : Handler ε α) good crash post :=
  ⟨by simp, fun _ => h, fun _ hnext => nomatch hnext⟩

theorem Ensures.bind (hm : Ensures m good crash post)
    (hf : ∀ value, post value → Ensures (f value) good crash goal) :
    Ensures (m >>= f) good crash goal where
  events := by
    intro event hevent
    rcases (mem_trace_bind_iff event m f).mp hevent with hfirst | ⟨value, hnext, hlater⟩
    · exact hm.events event hfirst
    · exact (hf value (hm.next value hnext)).events event hlater
  crashes := by
    intro hcrash
    rcases (crashes_bind_iff m f).mp hcrash with hfirst | ⟨value, hnext, hlater⟩
    · exact hm.crashes hfirst
    · exact (hf value (hm.next value hnext)).crashes hlater
  next := by
    intro result hresult
    change (Handler.bind m f).flow = .next result at hresult
    cases hflow : m.flow with
    | returned | panicked => simp [Handler.bind, hflow] at hresult
    | next value =>
      simp only [Handler.bind, hflow] at hresult
      exact (hf value (hm.next value hflow)).next result hresult

variable {k : Handler ε β}

theorem Ensures.seq (hm : Ensures m good crash) (hk : Ensures k good crash goal) :
    Ensures (m >>= fun _ => k) good crash goal :=
  hm.bind fun _ _ => hk

theorem Ensures.bind_never (hm : Ensures m good crash fun _ => False)
    (f : α → Handler ε β) : Ensures (m >>= f) good crash goal :=
  hm.bind fun _ hfalse => hfalse.elim

theorem Ensures.mono (hm : Ensures m good crash post)
    (h : ∀ value, post value → post' value) : Ensures m good crash post' :=
  ⟨hm.events, hm.crashes, fun value hvalue => h value (hm.next value hvalue)⟩

theorem ensures_whenever {m : Handler ε Unit} (hm : condition = true → Ensures m good crash done)
    (hdone : condition = false → done ()) : Ensures (whenever condition m) good crash done := by
  cases condition with
  | true => exact hm rfl
  | false => exact ensures_pure (hdone rfl)

theorem ensures_optional {m : Handler ε Unit} (hm : condition = true → Ensures m good crash)
    (hk : Ensures k good crash goal) :
    Ensures (whenever condition m >>= fun _ => k) good crash goal :=
  (ensures_whenever hm fun _ => trivial).seq hk

theorem ensures_early {m : Handler ε Unit} (hm : Ensures m good crash)
    (hk : Ensures k good crash goal) :
    Ensures (whenever condition (m >>= fun _ => stop) >>= fun _ => k) good crash goal :=
  ensures_optional (fun _ => hm.seq ensures_stop) hk

theorem ensures_ite {condition : Prop} [Decidable condition] {k : Handler ε α}
    (hm : condition → Ensures m good crash post) (hk : ¬ condition → Ensures k good crash post) :
    Ensures (if condition then m else k) good crash post := by
  split
  · exact hm ‹_›
  · exact hk ‹_›

theorem ensures_guard {m : Handler ε Unit}
    (hm : condition = true → Ensures m good crash fun _ => False) :
    Ensures (whenever condition m) good crash fun _ => condition = false :=
  ensures_whenever (fun h => (hm h).mono fun _ hfalse => hfalse.elim) fun h => h

theorem ensures_ofOutcome {x : Outcome Empty α} (hcrash : Outcome.Panics x → crash)
    (hpost : ∀ value, x = .ok value → post value) :
    Ensures (ofOutcome x : Handler ε α) good crash post := by
  match x with
  | .ok value => exact ensures_pure (hpost value rfl)
  | .error (.panic reason) => exact ensures_crash (hcrash (Outcome.panics_panicked reason))

theorem ensures_scope {m : Handler ε Unit} (hm : Ensures m good crash) :
    Ensures (scope m) good crash :=
  ⟨by simpa using hm.events, by simpa using hm.crashes, fun _ _ => trivial⟩

variable {rescue : Handler ε α}

theorem ensures_recovering (hm : Ensures m good True post)
    (hrescue : Ensures rescue good crash post) :
    Ensures (recovering m rescue) good crash post := by
  unfold recovering
  cases hflow : m.flow with
  | next | returned =>
    refine ⟨hm.events, ?_, hm.next⟩
    rintro ⟨reason, hpanic⟩
    cases hflow.symm.trans hpanic
  | panicked reason =>
    refine ⟨?_, hrescue.crashes, hrescue.next⟩
    intro event hevent
    rcases List.mem_append.mp hevent with hfirst | hlater
    · exact hm.events event hfirst
    · exact hrescue.events event hlater

/-! ## Actions of one kind -/

def Does (kind : ε → Bool) (m : Handler ε α) : Prop := ∃ event ∈ m.trace, kind event = true

variable {kind : ε → Bool}

@[simp] theorem not_does_pure : ¬ Does kind (pure value : Handler ε α) := by
  simp [Does]

@[simp] theorem not_does_stop : ¬ Does kind (stop : Handler ε α) := by
  simp [Does]

@[simp] theorem not_does_crash : ¬ Does kind (Handler.crash reason : Handler ε α) := by
  simp [Does]

@[simp] theorem does_emit_iff : Does kind (emit event) ↔ kind event = true := by
  simp [Does]

theorem does_bind_iff (m : Handler ε α) (f : α → Handler ε β) :
    Does kind (m >>= f) ↔ Does kind m ∨ ∃ value, m.flow = .next value ∧ Does kind (f value) := by
  simp only [Does, mem_trace_bind_iff]
  constructor
  · rintro ⟨event, hfirst | ⟨value, hnext, hlater⟩, hkind⟩
    · exact .inl ⟨event, hfirst, hkind⟩
    · exact .inr ⟨value, hnext, event, hlater, hkind⟩
  · rintro (⟨event, hfirst, hkind⟩ | ⟨value, hnext, event, hlater, hkind⟩)
    · exact ⟨event, .inl hfirst, hkind⟩
    · exact ⟨event, .inr ⟨value, hnext, hlater⟩, hkind⟩

@[simp] theorem does_emit_bind_iff (f : Unit → Handler ε β) :
    Does kind (emit event >>= f) ↔ kind event = true ∨ Does kind (f ()) := by
  rw [Does, trace_bind_next rfl]
  simp [Does]

@[simp] theorem does_scope_iff (m : Handler ε Unit) : Does kind (scope m) ↔ Does kind m := by
  rw [Does, trace_scope]
  rfl

theorem does_recovering_iff (m : Handler ε α) (hrescue : ¬ Does kind rescue) :
    Does kind (recovering m rescue) ↔ Does kind m := by
  unfold recovering
  split
  · constructor
    · rintro ⟨event, hevent, hkind⟩
      rcases List.mem_append.mp hevent with hfirst | hlater
      · exact ⟨event, hfirst, hkind⟩
      · exact absurd ⟨event, hlater, hkind⟩ hrescue
    · rintro ⟨event, hevent, hkind⟩
      exact ⟨event, List.mem_append_left _ hevent, hkind⟩
  · rfl

theorem Ensures.not_does (hm : Ensures m good crash post)
    (h : ∀ event, good event → kind event = false) : ¬ Does kind m := by
  rintro ⟨event, hevent, hkind⟩
  cases hkind.symm.trans (h event (hm.events event hevent))

end Handler

end GateSentry.Foundation
