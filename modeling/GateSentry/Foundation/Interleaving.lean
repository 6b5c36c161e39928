import GateSentry.Foundation.Interruption
import Mathlib.Logic.Function.Basic

/-!
# Programs that run at the same time

A pool of programs shares one state.  A schedule says which program takes the next step,
and with which answer.  What the programs do to one another is bounded by a relation on
states, which every step of every program obeys and every assertion has to withstand.
-/

namespace GateSentry.Foundation

structure Pool (ι ρ σ α : Type) where
  state : σ
  threads : ι → Proc ρ σ α

variable {ι ρ σ α β : Type}

namespace Pool

variable [DecidableEq ι]

def step (pool : Pool ι ρ σ α) (i : ι) (answer : ρ) : Pool ι ρ σ α :=
  match pool.threads i with
  | .done _ => pool
  | .act effect next =>
    { state := effect answer pool.state
      threads := Function.update pool.threads i (next answer pool.state) }

def run (pool : Pool ι ρ σ α) (schedule : List (ι × ρ)) : Pool ι ρ σ α :=
  schedule.foldl (fun pool turn => pool.step turn.1 turn.2) pool

end Pool

namespace Proc

variable {inv : σ → Prop} {moves : σ → σ → Prop} {post : α → σ → Prop}

/-- Whatever the others do between its steps, every step of the program keeps the
invariant and moves as it may, and its end meets the postcondition. -/
def Endures (inv : σ → Prop) (moves : σ → σ → Prop) (post : α → σ → Prop) : Proc ρ σ α → σ → Prop
  | .done value, s => post value s
  | .act effect next, s => ∀ s', moves s s' → inv s' → ∀ answer,
      inv (effect answer s') ∧ moves s' (effect answer s') ∧
        Endures inv moves post (next answer s') (effect answer s')

variable {s : σ}

theorem endures_pure {value : α} (hpost : post value s) :
    (pure value : Proc ρ σ α).Endures inv moves post s :=
  hpost

variable {value : ρ → σ → α} {effect : ρ → σ → σ}

theorem endures_step
    (h : ∀ s', moves s s' → inv s' → ∀ answer, inv (effect answer s') ∧
      moves s' (effect answer s') ∧ post (value answer s') (effect answer s')) :
    (step effect value).Endures inv moves post s :=
  h

theorem endures_look (hrefl : ∀ s, moves s s)
    (h : ∀ s', moves s s' → inv s' → ∀ answer, post (value answer s') s') :
    (look value).Endures inv moves post s :=
  fun s' hmoves hinv answer => ⟨hinv, hrefl s', h s' hmoves hinv answer⟩

variable {f : β → Proc ρ σ α}

theorem endures_bind {p : Proc ρ σ β}
    (h : p.Endures inv moves (fun value s => (f value).Endures inv moves post s) s) :
    (p >>= f).Endures inv moves post s := by
  induction p generalizing s with
  | done value => exact h
  | act effect next ih =>
    intro s' hmoves hinv answer
    obtain ⟨hkept, hmoved, hrest⟩ := h s' hmoves hinv answer
    exact ⟨hkept, hmoved, ih answer s' hrest⟩

variable {p : Proc ρ σ α}

theorem Endures.of_moves (htrans : ∀ a b c, moves a b → moves b c → moves a c)
    {s' : σ} (h : p.Endures inv moves (fun _ _ => True) s)
    (hmoves : moves s s') : p.Endures inv moves (fun _ _ => True) s' := by
  cases p with
  | done value => trivial
  | act effect next =>
    intro s'' hlater hinv answer
    exact h s'' (htrans s s' s'' hmoves hlater) hinv answer

def Obeys (moves : σ → σ → Prop) : Proc ρ σ α → Prop
  | .done _ => True
  | .act effect next => ∀ answer s, moves s (effect answer s) ∧ Obeys moves (next answer s)

theorem obeys_pure (value : α) : (pure value : Proc ρ σ α).Obeys moves := trivial

theorem obeys_step (h : ∀ answer s, moves s (effect answer s)) : (step effect value).Obeys moves :=
  fun answer s => ⟨h answer s, trivial⟩

theorem obeys_look (hrefl : ∀ s, moves s s) (value : ρ → σ → α) : (look value).Obeys moves :=
  obeys_step fun _ s => hrefl s

theorem obeys_bind {p : Proc ρ σ β} (hp : p.Obeys moves) (hf : ∀ value, (f value).Obeys moves) :
    (p >>= f).Obeys moves := by
  induction p with
  | done value => exact hf value
  | act effect next ih =>
    intro answer s
    obtain ⟨hmoved, hrest⟩ := hp answer s
    exact ⟨hmoved, ih answer s hrest⟩

theorem Obeys.mono {wider : σ → σ → Prop} (h : p.Obeys moves)
    (hwider : ∀ s s', moves s s' → wider s s') : p.Obeys wider := by
  induction p with
  | done value => trivial
  | act effect next ih =>
    intro answer s
    obtain ⟨hmoved, hrest⟩ := h answer s
    exact ⟨hwider _ _ hmoved, ih answer s hrest⟩

theorem obeys_always (hmoves : ∀ s s', moves s s') (p : Proc ρ σ α) : p.Obeys moves := by
  induction p with
  | done value => trivial
  | act effect next ih => exact fun answer s => ⟨hmoves _ _, ih answer s⟩

theorem obeys_within {τ : Type} {get : τ → σ} {put : σ → τ → τ} {outer : τ → τ → Prop}
    (hput : ∀ t s, moves (get t) s → outer t (put s t)) (hp : p.Obeys moves) :
    (p.within get put).Obeys outer := by
  induction p with
  | done value => trivial
  | act effect next ih =>
    intro answer t
    obtain ⟨hmoved, hrest⟩ := hp answer (get t)
    exact ⟨hput t _ hmoved, ih answer (get t) hrest⟩

end Proc

namespace Pool

section Obeying

variable [DecidableEq ι] {moves : ι → σ → σ → Prop} {pool : Pool ι ρ σ α}

theorem obeys_of_step (h : ∀ i, (pool.threads i).Obeys (moves i))
    (i : ι) (answer : ρ) (j : ι) : ((pool.step i answer).threads j).Obeys (moves j) := by
  unfold Pool.step
  cases hthread : pool.threads i with
  | done value => exact h j
  | act effect next =>
    have hi := h i
    rw [hthread] at hi
    by_cases hj : j = i
    · subst hj
      simpa using (hi answer pool.state).2
    · simpa [Function.update_of_ne hj] using h j

theorem moves_step (hrefl : ∀ i s, moves i s s) (h : ∀ i, (pool.threads i).Obeys (moves i)) (i : ι)
    (answer : ρ) : moves i pool.state (pool.step i answer).state := by
  unfold Pool.step
  cases hthread : pool.threads i with
  | done value => exact hrefl i _
  | act effect next =>
    have hi := h i
    rw [hthread] at hi
    exact (hi answer pool.state).1

theorem obeys_of_run (h : ∀ i, (pool.threads i).Obeys (moves i))
    (schedule : List (ι × ρ)) (j : ι) : ((pool.run schedule).threads j).Obeys (moves j) := by
  induction schedule generalizing pool with
  | nil => exact h j
  | cons turn rest ih => exact ih (obeys_of_step h turn.1 turn.2)

end Obeying

variable [DecidableEq ι] {inv : σ → Prop} {moves : σ → σ → Prop}

theorem run_append (pool : Pool ι ρ σ α) (first second : List (ι × ρ)) :
    pool.run (first ++ second) = (pool.run first).run second :=
  List.foldl_append

def Stands (inv : σ → Prop) (moves : σ → σ → Prop) (pool : Pool ι ρ σ α) : Prop :=
  inv pool.state ∧ ∀ i, (pool.threads i).Endures inv moves (fun _ _ => True) pool.state

variable {pool : Pool ι ρ σ α}

theorem Stands.step (hrefl : ∀ s, moves s s) (htrans : ∀ a b c, moves a b → moves b c → moves a c)
    (h : pool.Stands inv moves) (i : ι) (answer : ρ) : (pool.step i answer).Stands inv moves := by
  obtain ⟨hinv, hthreads⟩ := h
  unfold Pool.step
  cases hthread : pool.threads i with
  | done value => exact ⟨hinv, hthreads⟩
  | act effect next =>
    have hi := hthreads i
    rw [hthread] at hi
    obtain ⟨hkept, hmoved, hrest⟩ := hi pool.state (hrefl _) hinv answer
    refine ⟨hkept, fun j => ?_⟩
    by_cases hj : j = i
    · subst hj
      simpa using hrest
    · simpa [Function.update_of_ne hj] using (hthreads j).of_moves htrans hmoved

theorem Stands.run (hrefl : ∀ s, moves s s) (htrans : ∀ a b c, moves a b → moves b c → moves a c)
    (h : pool.Stands inv moves) (schedule : List (ι × ρ)) :
    (pool.run schedule).Stands inv moves := by
  induction schedule generalizing pool with
  | nil => exact h
  | cons turn rest ih => exact ih (h.step hrefl htrans turn.1 turn.2)

end Pool

end GateSentry.Foundation
