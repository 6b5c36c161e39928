import Mathlib.Logic.Basic

/-!
# Programs that may be interrupted

A program acts on a state in atomic steps.  The environment answers every step, and may
stop the program between two of them.  A property that is to survive this has to hold in
every state that the program passes through, not only at its end.
-/

namespace GateSentry.Foundation

/-- A program whose steps take answers in `ρ`, act on states in `σ` and end in a value. -/
inductive Proc (ρ σ α : Type) where
  | done (value : α)
  | act (effect : ρ → σ → σ) (next : ρ → σ → Proc ρ σ α)

namespace Proc

variable {ρ σ α β γ : Type}

protected def bind : Proc ρ σ α → (α → Proc ρ σ β) → Proc ρ σ β
  | .done value, f => f value
  | .act effect next, f => .act effect fun answer s => (next answer s).bind f

instance : Monad (Proc ρ σ) where
  pure := .done
  bind := Proc.bind

def step (effect : ρ → σ → σ) (value : ρ → σ → α) : Proc ρ σ α :=
  .act effect fun answer s => .done (value answer s)

def look (value : ρ → σ → α) : Proc ρ σ α := step (fun _ s => s) value

def within {τ : Type} (get : τ → σ) (put : σ → τ → τ) : Proc ρ σ α → Proc ρ τ α
  | .done value => .done value
  | .act effect next => .act (fun answer t => put (effect answer (get t)) t)
      fun answer t => (next answer (get t)).within get put

/-! ## Runs -/

inductive Visits : Proc ρ σ α → σ → σ → Prop where
  | here (p : Proc ρ σ α) (s : σ) : Visits p s s
  | later {effect : ρ → σ → σ} {next : ρ → σ → Proc ρ σ α} {s s' : σ} (answer : ρ)
      (h : Visits (next answer s) (effect answer s) s') : Visits (.act effect next) s s'

/-- The state after as many steps as there are answers, and the value if it is the end. -/
def run : Proc ρ σ α → List ρ → σ → σ × Option α
  | .done value, _, s => (s, some value)
  | .act _ _, [], s => (s, none)
  | .act effect next, answer :: rest, s => (next answer s).run rest (effect answer s)

theorem visits_run (p : Proc ρ σ α) (answers : List ρ) (s : σ) :
    p.Visits s (p.run answers s).1 := by
  induction answers generalizing p s with
  | nil =>
    cases p with
    | done | act => exact .here _ s
  | cons answer rest ih =>
    cases p with
    | done value => exact .here _ s
    | act effect next => exact .later answer (ih (next answer s) (effect answer s))

def finish (answer : ρ) : Proc ρ σ α → σ → σ × α
  | .done value, s => (s, value)
  | .act effect next, s => (next answer s).finish answer (effect answer s)

def drive : (answers : Nat → ρ) → Proc ρ σ α → σ → σ × α
  | _, .done value, s => (s, value)
  | answers, .act effect next, s =>
    (next (answers 0) s).drive (fun n => answers (n + 1)) (effect (answers 0) s)

def remaining : (answers : Nat → ρ) → Proc ρ σ α → σ → Nat → ρ
  | answers, .done _, _ => answers
  | answers, .act effect next, s =>
    (next (answers 0) s).remaining (fun n => answers (n + 1)) (effect (answers 0) s)

theorem drive_bind (p : Proc ρ σ β) (f : β → Proc ρ σ α) (answers : Nat → ρ) (s : σ) :
    (p >>= f).drive answers s =
      (f (p.drive answers s).2).drive (p.remaining answers s) (p.drive answers s).1 := by
  induction p generalizing answers s with
  | done value => rfl
  | act effect next ih => exact ih (answers 0) s (fun n => answers (n + 1)) _

/-! ## Rules -/

/-- Every state that the program passes through meets the invariant, and its end meets the
postcondition. -/
def Ensures (inv : σ → Prop) (post : α → σ → Prop) : Proc ρ σ α → σ → Prop
  | .done value, s => inv s ∧ post value s
  | .act effect next, s => inv s ∧ ∀ answer, Ensures inv post (next answer s) (effect answer s)

variable {inv : σ → Prop} {post : α → σ → Prop} {p : Proc ρ σ α} {s : σ}

section

variable (h : p.Ensures inv post s)

include h

theorem Ensures.holds : inv s := by
  cases p with
  | done | act => exact h.1

theorem Ensures.visits {s' : σ} (hvisits : p.Visits s s') : inv s' := by
  induction hvisits with
  | here p s => exact h.holds
  | later answer _ ih => exact ih (h.2 answer)

end

variable {value : α}

theorem ensures_pure (hinv : inv s) (hpost : post value s) :
    (pure value : Proc ρ σ α).Ensures inv post s :=
  ⟨hinv, hpost⟩

variable {f : β → Proc ρ σ α}

theorem ensures_bind {p : Proc ρ σ β}
    (h : p.Ensures inv (fun value s => (f value).Ensures inv post s) s) :
    (p >>= f).Ensures inv post s := by
  induction p generalizing s with
  | done value => exact h.2
  | act effect next ih => exact ⟨h.1, fun answer => ih answer s (h.2 answer)⟩

theorem ensures_step {effect : ρ → σ → σ} {value : ρ → σ → α} (hinv : inv s)
    (h : ∀ answer, inv (effect answer s) ∧ post (value answer s) (effect answer s)) :
    (step effect value).Ensures inv post s :=
  ⟨hinv, h⟩

theorem ensures_look {value : ρ → σ → α} (hinv : inv s)
    (h : ∀ answer, post (value answer s) s) : (look value).Ensures inv post s :=
  ⟨hinv, fun answer => ⟨hinv, h answer⟩⟩

variable {post' : α → σ → Prop}

theorem Ensures.mono (h : p.Ensures inv post s)
    (hpost : ∀ value s, inv s → post value s → post' value s) : p.Ensures inv post' s := by
  induction p generalizing s with
  | done value => exact ⟨h.1, hpost value s h.1 h.2⟩
  | act effect next ih => exact ⟨h.1, fun answer => ih answer s (h.2 answer)⟩

def Yields (good : α → Prop) (p : Proc ρ σ α) : Prop :=
  ∀ {inv : σ → Prop} {post : α → σ → Prop} {s : σ}, inv s →
    (∀ value, good value → post value s) → p.Ensures inv post s

variable {good : α → Prop}

theorem yields_pure (h : good value) : (pure value : Proc ρ σ α).Yields good :=
  fun hinv hpost => ensures_pure hinv (hpost value h)

theorem yields_look (value : ρ → σ → α) : (look value).Yields fun _ => True :=
  fun hinv hpost => ensures_look hinv fun _ => hpost _ trivial

theorem yields_bind {p : Proc ρ σ β} {first : β → Prop} (hp : p.Yields first)
    (hf : ∀ value, first value → (f value).Yields good) : (p >>= f).Yields good :=
  fun hinv hpost => ensures_bind (hp hinv fun value hfirst => hf value hfirst hinv hpost)

theorem yields_ite {c : Prop} [Decidable c] {q : Proc ρ σ α}
    (hp : p.Yields good) (hq : q.Yields good) : (if c then p else q).Yields good := by
  split
  · exact hp
  · exact hq

/-- Whatever the answers and the state, the program ends with a good value. -/
def Returns (good : α → Prop) (p : Proc ρ σ α) : Prop :=
  ∀ answers s, good (p.drive answers s).2

theorem returns_pure (h : good value) : (pure value : Proc ρ σ α).Returns good :=
  fun _ _ => h

theorem returns_bind {p : Proc ρ σ β} {q : β → Prop} (hp : p.Returns q)
    (hf : ∀ value, q value → (f value).Returns good) : (p >>= f).Returns good := by
  intro answers s
  rw [drive_bind]
  exact hf _ (hp answers s) _ _

theorem returns_bind_any (p : Proc ρ σ β) (hf : ∀ value, (f value).Returns good) :
    (p >>= f).Returns good :=
  returns_bind (fun _ _ => trivial) fun value (_ : True) => hf value

theorem returns_foldlM {f : β → γ → Proc ρ σ β} {good : β → Prop} {items : List γ} {state : β}
    (hstep : ∀ state item, good state → (f state item).Returns good) (h : good state) :
    (items.foldlM f state).Returns good := by
  induction items generalizing state with
  | nil => exact returns_pure h
  | cons item rest ih => exact returns_bind (hstep state item h) fun _ => ih

/-! ## Runs without failures -/

def Delivers (good : ρ → Prop) (post : α → σ → Prop) : Proc ρ σ α → σ → Prop
  | .done value, s => post value s
  | .act effect next, s =>
    ∀ answer, good answer → Delivers good post (next answer s) (effect answer s)

variable {good : ρ → Prop}

theorem Ensures.delivers (h : p.Ensures inv post s) : p.Delivers good post s := by
  induction p generalizing s with
  | done value => exact h.2
  | act effect next ih => exact fun answer _ => ih answer s (h.2 answer)

section

variable (h : p.Delivers good post s)

include h

theorem Delivers.finish {answer : ρ} (hanswer : good answer) :
    post (p.finish answer s).2 (p.finish answer s).1 := by
  induction p generalizing s with
  | done value => exact h
  | act effect next ih => exact ih answer s (h answer hanswer)

theorem Delivers.drive (answers : Nat → ρ) (hanswers : ∀ n, good (answers n)) :
    post (p.drive answers s).2 (p.drive answers s).1 := by
  induction p generalizing s answers with
  | done value => exact h
  | act effect next ih => exact ih _ s (h _ (hanswers 0)) _ fun n => hanswers (n + 1)

theorem Delivers.run {s' : σ} {answers : List ρ} (hanswers : ∀ answer ∈ answers, good answer)
    (hrun : p.run answers s = (s', some value)) : post value s' := by
  induction p generalizing s answers with
  | done result =>
    cases hrun
    exact h
  | act effect next ih =>
    cases answers with
    | nil => cases hrun
    | cons answer rest =>
      rw [List.forall_mem_cons] at hanswers
      exact ih answer s (h answer hanswers.1) hanswers.2 hrun

end

section

variable (h : p.Ensures inv post s)

include h

theorem Ensures.always : p.Delivers (fun _ => True) post s := h.delivers

theorem Ensures.finish (answer : ρ) : post (p.finish answer s).2 (p.finish answer s).1 :=
  h.always.finish trivial

theorem Ensures.drive (answers : Nat → ρ) : post (p.drive answers s).2 (p.drive answers s).1 :=
  h.always.drive answers fun _ => trivial

theorem Ensures.run {s' : σ} {answers : List ρ} (hrun : p.run answers s = (s', some value)) :
    post value s' :=
  h.always.run (fun _ _ => trivial) hrun

end

theorem exists_run_finish (p : Proc ρ σ α) (answer : ρ) (s : σ) :
    ∃ n, p.run (List.replicate n answer) s =
      ((p.finish answer s).1, some (p.finish answer s).2) := by
  induction p generalizing s with
  | done value => exact ⟨0, rfl⟩
  | act effect next ih =>
    obtain ⟨n, hn⟩ := ih answer s (effect answer s)
    exact ⟨n + 1, hn⟩

theorem delivers_bind {p : Proc ρ σ β}
    (h : p.Delivers good (fun value s => (f value).Delivers good post s) s) :
    (p >>= f).Delivers good post s := by
  induction p generalizing s with
  | done value => exact h
  | act effect next ih => exact fun answer hanswer => ih answer s (h answer hanswer)

theorem Delivers.within {τ : Type} {get : τ → σ} {put : σ → τ → τ}
    (hget : ∀ s t, get (put s t) = s) (hput : ∀ s s' t, put s (put s' t) = put s t)
    (hself : ∀ t, put (get t) t = t) {post : α → τ → Prop} {t : τ}
    (h : p.Delivers good (fun value s => post value (put s t)) (get t)) :
    (p.within get put).Delivers good post t := by
  induction p generalizing t with
  | done value =>
    change post value (put (get t) t) at h
    rw [hself] at h
    exact h
  | act effect next ih =>
    intro answer hanswer
    apply ih
    rw [hget]
    simp only [hput]
    exact h answer hanswer

theorem Delivers.mono (h : p.Delivers good post s)
    (hpost : ∀ value s, post value s → post' value s) : p.Delivers good post' s := by
  induction p generalizing s with
  | done value => exact hpost value s h
  | act effect next ih => exact fun answer hanswer => ih answer s (h answer hanswer)

end Proc

end GateSentry.Foundation
