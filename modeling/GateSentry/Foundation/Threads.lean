import Mathlib.Logic.Function.Basic

/-!
# Threads at places of their programs

Threads share one state, and each stands at a place of its own program; a thread that has
to wait stays where it is.  An invariant of the state and an assertion for every place hold
throughout a run when a thread's own step restores them, and what a step grants the other
threads leaves their assertions standing.
-/

namespace GateSentry.Foundation

structure Threads (ι κ σ : Type) where
  state : σ
  place : ι → κ

namespace Threads

variable {ι κ ρ σ : Type}

def step [DecidableEq ι] (move : ι → ρ → κ → σ → κ × σ) (threads : Threads ι κ σ) (i : ι)
    (answer : ρ) : Threads ι κ σ :=
  let next := move i answer (threads.place i) threads.state
  { state := next.2, place := Function.update threads.place i next.1 }

def run [DecidableEq ι] (move : ι → ρ → κ → σ → κ × σ) (threads : Threads ι κ σ)
    (schedule : List (ι × ρ)) : Threads ι κ σ :=
  schedule.foldl (fun threads turn => threads.step move turn.1 turn.2) threads

structure Asserted (inv : σ → Prop) (holds : ι → κ → σ → Prop)
    (threads : Threads ι κ σ) : Prop where
  state : inv threads.state
  place : ∀ i, holds i (threads.place i) threads.state

/-- Steps that are taken under a guard keep the invariant and the thread's assertion, and
grant the other threads what theirs withstand. -/
structure Sound (move : ι → ρ → κ → σ → κ × σ) (guard : ι → κ → σ → Prop) (inv : σ → Prop)
    (holds : ι → κ → σ → Prop) (grants : ι → σ → σ → Prop) : Prop where
  kept : ∀ i answer k s, guard i k s → inv s → holds i k s → inv (move i answer k s).2
  own : ∀ i answer k s, guard i k s → inv s → holds i k s →
    holds i (move i answer k s).1 (move i answer k s).2
  granted : ∀ i answer k s, guard i k s → inv s → holds i k s → grants i s (move i answer k s).2
  stable : ∀ i j k s s', j ≠ i → grants i s s' → holds j k s → holds j k s'

variable [DecidableEq ι] {move : ι → ρ → κ → σ → κ × σ} {guard : ι → κ → σ → Prop}
  {inv : σ → Prop} {holds : ι → κ → σ → Prop} {grants : ι → σ → σ → Prop}

def Guarded (move : ι → ρ → κ → σ → κ × σ) (guard : ι → κ → σ → Prop)
    (threads : Threads ι κ σ) : List (ι × ρ) → Prop
  | [] => True
  | turn :: rest => guard turn.1 (threads.place turn.1) threads.state ∧
      (threads.step move turn.1 turn.2).Guarded move guard rest

instance instDecidableGuarded [∀ i k s, Decidable (guard i k s)] (threads : Threads ι κ σ) :
    (schedule : List (ι × ρ)) → Decidable (threads.Guarded move guard schedule)
  | [] => inferInstanceAs (Decidable True)
  | turn :: rest =>
    have := instDecidableGuarded (threads.step move turn.1 turn.2) rest
    inferInstanceAs (Decidable (_ ∧ _))

theorem guarded_of_forall (h : ∀ i k s, guard i k s) (threads : Threads ι κ σ)
    (schedule : List (ι × ρ)) : threads.Guarded move guard schedule := by
  induction schedule generalizing threads with
  | nil => trivial
  | cons turn rest ih => exact ⟨h _ _ _, ih _⟩

variable {threads : Threads ι κ σ}

theorem Guarded.mono {schedule : List (ι × ρ)} {weaker : ι → κ → σ → Prop}
    (h : threads.Guarded move guard schedule) (hweaker : ∀ i k s, guard i k s → weaker i k s) :
    threads.Guarded move weaker schedule := by
  induction schedule generalizing threads with
  | nil => trivial
  | cons turn rest ih => exact ⟨hweaker _ _ _ h.1, ih h.2⟩

theorem Asserted.step (sound : Sound move guard inv holds grants) (h : threads.Asserted inv holds)
    (i : ι) (answer : ρ) (hguard : guard i (threads.place i) threads.state) :
    (threads.step move i answer).Asserted inv holds := by
  have hi := h.place i
  constructor
  · exact sound.kept i answer _ _ hguard h.state hi
  · intro j
    by_cases hj : j = i
    · subst hj
      simpa [Threads.step] using sound.own j answer _ _ hguard h.state hi
    · simpa [Threads.step, Function.update_of_ne hj] using
        sound.stable i j _ _ _ hj (sound.granted i answer _ _ hguard h.state hi) (h.place j)

theorem Asserted.run (sound : Sound move guard inv holds grants) (h : threads.Asserted inv holds)
    (schedule : List (ι × ρ)) (hguarded : threads.Guarded move guard schedule) :
    (threads.run move schedule).Asserted inv holds := by
  induction schedule generalizing threads with
  | nil => exact h
  | cons turn rest ih => exact ih (h.step sound turn.1 turn.2 hguarded.1) hguarded.2

end Threads

end GateSentry.Foundation
