import Mathlib.Logic.Function.Basic
import Mathlib.Logic.Relation

/-!
# Publishing what was read

Documents are committed under a lock.  Threads read them and publish what they have
read as live views, each in a step of its own.  If no publication replaces a newer
read by an older one, the live views end up at what is stored.
-/

namespace GateSentry.Foundation.Publication

variable {key : Type} [DecidableEq key] {text view : key → Type} {thread : Type}
  [DecidableEq thread]

inductive Instr (text view : key → Type) where
  | commit (k : key) (change : ((k : key) → view k) → text k → Option (text k))
  | read (k : key)
  | publish (k : key)

structure Thread (text view : key → Type) where
  program : List (Instr text view)
  held : (k : key) → Option (view k × Nat)
  failed : Bool

/-- The documents with the number of their commits, and the live views with the version
that they were read from, if they have been published at all. -/
structure State (text view : key → Type) (thread : Type) where
  stored : (k : key) → text k
  version : key → Nat
  live : (k : key) → view k
  liveVersion : key → Option Nat
  threads : thread → Thread text view

namespace State

def advance (s : State text view thread) (i : thread) (rest : List (Instr text view)) :
    State text view thread :=
  { s with threads := Function.update s.threads i { s.threads i with program := rest } }

def commitText (s : State text view thread) (k : key) (next : text k) :
    State text view thread :=
  { s with
    stored := Function.update s.stored k next
    version := Function.update s.version k (s.version k + 1) }

def holdView (s : State text view thread) (i : thread) (k : key) (value : view k) :
    State text view thread :=
  { s with threads := Function.update s.threads i { s.threads i with
      held := Function.update (s.threads i).held k (some (value, s.version k)) } }

def publishView (s : State text view thread) (k : key) (value : view k) (n : Nat) :
    State text view thread :=
  { s with
    live := Function.update s.live k value
    liveVersion := Function.update s.liveVersion k (some n) }

def fail (s : State text view thread) (i : thread) : State text view thread :=
  { s with threads := Function.update s.threads i { s.threads i with failed := true } }

end State

/-- One step of thread `i`.  A step may fail, and a commit that reports an error may have
taken effect. -/
inductive Step (decode : (k : key) → text k → Option (view k)) (i : thread) :
    State text view thread → State text view thread → Prop where
  | commit {s k change rest next} (hgoes : (s.threads i).failed = false)
      (hprogram : (s.threads i).program = .commit k change :: rest)
      (hchange : change s.live (s.stored k) = some next) :
      Step decode i s ((s.commitText k next).advance i rest)
  | read {s k rest value} (hgoes : (s.threads i).failed = false)
      (hprogram : (s.threads i).program = .read k :: rest)
      (hread : decode k (s.stored k) = some value) :
      Step decode i s ((s.holdView i k value).advance i rest)
  | publish {s k rest value n} (hgoes : (s.threads i).failed = false)
      (hprogram : (s.threads i).program = .publish k :: rest)
      (hheld : (s.threads i).held k = some (value, n)) :
      Step decode i s ((s.publishView k value n).advance i rest)
  | fail {s} (hgoes : (s.threads i).failed = false) (hprogram : (s.threads i).program ≠ []) :
      Step decode i s (s.fail i)
  | uncertain {s k change rest next} (hgoes : (s.threads i).failed = false)
      (hprogram : (s.threads i).program = .commit k change :: rest)
      (hchange : change s.live (s.stored k) = some next) :
      Step decode i s ((s.commitText k next).fail i)

def inOrder (s : State text view thread) (i : thread) : Bool :=
  match (s.threads i).program with
  | .publish k :: _ =>
    match (s.threads i).held k, s.liveVersion k with
    | some (_, n), some w => w ≤ n
    | _, _ => true
  | _ => true

def Runs (decode : (k : key) → text k → Option (view k)) :
    State text view thread → State text view thread → Prop :=
  Relation.ReflTransGen fun s s' => ∃ i, Step decode i s s'

def Reaches (decode : (k : key) → text k → Option (view k)) :
    State text view thread → State text view thread → Prop :=
  Relation.ReflTransGen fun s s' => ∃ i, inOrder s i = true ∧ Step decode i s s'

variable {decode : (k : key) → text k → Option (view k)}

section StepEffect

variable {i : thread} {s s' : State text view thread} (h : Step decode i s s')

include h

variable {j : thread}

theorem Step.threads_of_ne (hj : j ≠ i) : s'.threads j = s.threads j := by
  cases h with
  | commit | read | publish | fail | uncertain =>
    simp [State.advance, State.commitText, State.holdView, State.publishView, State.fail,
      Function.update_of_ne hj]

theorem Step.goes : (s.threads i).failed = false := by
  cases h with
  | commit hgoes _ _ | read hgoes _ _ | publish hgoes _ _ | fail hgoes _
  | uncertain hgoes _ _ => exact hgoes

theorem Step.moves :
    ((s'.threads i).failed = true ∧ (s'.threads i).program = (s.threads i).program) ∨
      ((s'.threads i).failed = false ∧
        ∃ instr, (s.threads i).program = instr :: (s'.threads i).program) := by
  cases h with
  | commit hgoes hprogram _ | read hgoes hprogram _ | publish hgoes hprogram _ =>
    simp [State.advance, State.commitText, State.holdView, State.publishView, hgoes, hprogram]
  | fail | uncertain =>
    simp [State.fail, State.commitText]

theorem Step.program_suffix (j : thread) : (s'.threads j).program <:+ (s.threads j).program := by
  by_cases hj : j = i
  · subst hj
    rcases h.moves with ⟨_, hsame⟩ | ⟨_, instr, hnext⟩
    · simp only [hsame, List.suffix_rfl]
    · rw [hnext]
      exact List.suffix_cons instr _
  · simp [h.threads_of_ne hj]

theorem Step.failed_mono
    (hfailed : (s.threads j).failed = true) : (s'.threads j).failed = true := by
  have hj : j ≠ i := by
    rintro rfl
    rw [h.goes] at hfailed
    cases hfailed
  rw [h.threads_of_ne hj]
  exact hfailed

theorem Step.stored_cases (k : key) : s'.stored k = s.stored k ∨
      ∃ change rest, (s.threads i).program = .commit k change :: rest ∧
        change s.live (s.stored k) = some (s'.stored k) ∧
        ((s'.threads i).failed = false → (s'.threads i).program = rest) := by
  cases h with
  | read | publish | fail => exact .inl rfl
  | @commit committed change rest next hgoes hprogram hchange
  | @uncertain committed change rest next hgoes hprogram hchange =>
    by_cases hk : k = committed
    · subst hk
      right
      refine ⟨change, rest, hprogram, ?_, ?_⟩
      · simpa [State.advance, State.fail, State.commitText] using hchange
      · simp [State.advance, State.fail]
    · simp [State.advance, State.fail, State.commitText, hk]

theorem Step.committed {k : key} {change : ((k : key) → view k) → text k → Option (text k)}
    {rest : List (Instr text view)} (hprogram : (s.threads i).program = .commit k change :: rest)
    (hgoes : (s'.threads i).failed = false) : change s.live (s.stored k) = some (s'.stored k) := by
  cases h with
  | commit _ hcommit hchange =>
    rw [hprogram] at hcommit
    cases hcommit
    simpa [State.advance, State.commitText] using hchange
  | read _ hread _ =>
    rw [hprogram] at hread
    cases hread
  | publish _ hpublish _ =>
    rw [hprogram] at hpublish
    cases hpublish
  | fail | uncertain => simp [State.fail] at hgoes

theorem Step.live_cases (k : key) :
    s'.live k = s.live k ∨ ∃ n, (s.threads i).held k = some (s'.live k, n) := by
  cases h with
  | @publish published rest value n hgoes hprogram hheld =>
    by_cases hk : k = published
    · subst hk
      right
      exact ⟨n, by simpa [State.advance, State.publishView] using hheld⟩
    · simp [State.advance, State.publishView, hk]
  | commit | read | fail | uncertain => exact .inl rfl

theorem Step.held_cases {k : key} {value : view k}
    {n : Nat} (hheld : (s'.threads j).held k = some (value, n)) :
    (s.threads j).held k = some (value, n) ∨ decode k (s.stored k) = some value := by
  by_cases hj : j = i
  · subst hj
    cases h with
    | @read k' rest value' hgoes hprogram hread =>
      by_cases hk : k = k'
      · subst hk
        right
        simp only [State.advance, State.holdView, Function.update_self, Option.some.injEq,
          Prod.mk.injEq] at hheld
        rw [hread, hheld.1]
      · left
        simpa [State.advance, State.holdView, hk] using hheld
    | commit | publish | fail | uncertain =>
      left
      simpa [State.advance, State.commitText, State.publishView, State.fail] using hheld
  · left
    rwa [h.threads_of_ne hj] at hheld

end StepEffect

/-! ## Executing a schedule -/

def exec (decode : (k : key) → text k → Option (view k)) (s : State text view thread)
    (i : thread) : Option (State text view thread) :=
  if (s.threads i).failed then none
  else
    match (s.threads i).program with
    | [] => none
    | .commit k change :: rest =>
      (change s.live (s.stored k)).map fun next => (s.commitText k next).advance i rest
    | .read k :: rest =>
      (decode k (s.stored k)).map fun value => (s.holdView i k value).advance i rest
    | .publish k :: rest =>
      ((s.threads i).held k).map fun held => (s.publishView k held.1 held.2).advance i rest

variable {s s' : State text view thread}

theorem step_of_exec {i : thread} (h : exec decode s i = some s') : Step decode i s s' := by
  unfold exec at h
  split at h
  · cases h
  · next hgoes =>
    have hgoes : (s.threads i).failed = false := by simpa using hgoes
    cases hprogram : (s.threads i).program with
    | nil => simp [hprogram] at h
    | cons instr rest =>
      rw [hprogram] at h
      cases instr with
      | commit k change =>
        obtain ⟨next, hchange, rfl⟩ := Option.map_eq_some_iff.mp h
        exact .commit hgoes hprogram hchange
      | read k =>
        obtain ⟨value, hread, rfl⟩ := Option.map_eq_some_iff.mp h
        exact .read hgoes hprogram hread
      | publish k =>
        obtain ⟨⟨value, n⟩, hheld, rfl⟩ := Option.map_eq_some_iff.mp h
        exact .publish hgoes hprogram hheld

def runSchedule (decode : (k : key) → text k → Option (view k)) :
    List thread → State text view thread → Option (State text view thread)
  | [], s => some s
  | i :: rest, s => (exec decode s i).bind (runSchedule decode rest)

variable {schedule : List thread}

section

variable (h : runSchedule decode schedule s = some s')

include h

theorem runs_of_runSchedule : Runs decode s s' := by
  induction schedule generalizing s with
  | nil =>
    cases h
    exact .refl
  | cons i rest ih =>
    obtain ⟨middle, hstep, hrest⟩ := Option.bind_eq_some_iff.mp h
    exact .head ⟨i, step_of_exec hstep⟩ (ih hrest)

def scheduleInOrder (decode : (k : key) → text k → Option (view k)) :
    List thread → State text view thread → Bool
  | [], _ => true
  | i :: rest, s => inOrder s i && ((exec decode s i).map (scheduleInOrder decode rest)).getD true

theorem reaches_of_runSchedule (horder : scheduleInOrder decode schedule s = true) :
    Reaches decode s s' := by
  induction schedule generalizing s with
  | nil =>
    cases h
    exact .refl
  | cons i rest ih =>
    obtain ⟨middle, hstep, hrest⟩ := Option.bind_eq_some_iff.mp h
    simp only [scheduleInOrder, hstep, Bool.and_eq_true] at horder
    exact .head ⟨i, horder.1, step_of_exec hstep⟩ (ih hrest horder.2)

end

structure Starts (s : State text view thread) : Prop where
  version : ∀ k, s.version k = 0
  liveVersion : ∀ k, s.liveVersion k = none
  held : ∀ i k, (s.threads i).held k = none

/-! ## Where a view comes from -/

/-- At some instant of the run the value was what the document decoded to. -/
def WasStored (decode : (k : key) → text k → Option (view k))
    (start s : State text view thread) (k : key) (value : view k) : Prop :=
  ∃ middle, Runs decode start middle ∧ Runs decode middle s ∧
    decode k (middle.stored k) = some value

theorem live_wasStored {start s : State text view thread} (hstart : Starts start)
    (hrun : Runs decode start s) :
    (∀ k, s.live k = start.live k ∨ WasStored decode start s k (s.live k)) ∧
      ∀ i k value n, (s.threads i).held k = some (value, n) →
        WasStored decode start s k value := by
  induction hrun with
  | refl =>
    refine ⟨fun _ => .inl rfl, fun i k value n hheld => ?_⟩
    rw [hstart.held] at hheld
    cases hheld
  | @tail s s' hrun hstep ih =>
    have hlater {k : key} {value : view k} (h : WasStored decode start s k value) :
        WasStored decode start s' k value := by
      obtain ⟨middle, hbefore, hafter, hread⟩ := h
      exact ⟨middle, hbefore, hafter.tail hstep, hread⟩
    have hnow : Runs decode s s' := .single hstep
    obtain ⟨i, hstep⟩ := hstep
    constructor
    · intro k
      rcases hstep.live_cases k with hsame | ⟨n, hheld⟩
      · rw [hsame]
        exact (ih.1 k).imp_right hlater
      · exact .inr (hlater (ih.2 i k _ n hheld))
    · intro j k value n hheld
      rcases hstep.held_cases hheld with hbefore | hread
      · exact hlater (ih.2 j k value n hbefore)
      · exact ⟨s, hrun, hnow, hread⟩

/-! ## What a thread is still going to publish -/

/-- With this rest of its program and this version held, a thread is going to publish the
document at version `v` or later. -/
def Owes (k : key) (v : Nat) : List (Instr text view) → Option Nat → Prop
  | [], _ => False
  | .commit _ _ :: rest, held => Owes k v rest held
  | .read k' :: rest, held => if k' = k then .publish k ∈ rest else Owes k v rest held
  | .publish k' :: rest, held => (k' = k ∧ ∃ w, held = some w ∧ v ≤ w) ∨ Owes k v rest held

def Republishes : List (Instr text view) → Prop
  | [] => True
  | .commit k _ :: rest => (∀ v, Owes k v rest none) ∧ Republishes rest
  | .read _ :: rest => Republishes rest
  | .publish _ :: rest => Republishes rest

variable {program : List (Instr text view)}

theorem Owes.of_none {k : key} {v : Nat} (h : Owes k v program none) (held : Option Nat) :
    Owes k v program held := by
  induction program with
  | nil => exact h
  | cons instr rest ih =>
    cases instr with
    | commit k' change => exact ih h
    | read k' =>
      unfold Owes at h ⊢
      split at h
      · next hkey => rwa [if_pos hkey]
      · next hkey => rw [if_neg hkey]; exact ih h
    | publish k' =>
      rcases h with ⟨_, w, hnone, _⟩ | hrest
      · cases hnone
      · exact .inr (ih hrest)

theorem owes_of_mem {k : key} {v w : Nat} (hpublish : .publish k ∈ program) (hw : v ≤ w) :
    Owes k v program (some w) := by
  induction program with
  | nil => cases hpublish
  | cons instr rest ih =>
    cases instr with
    | commit k' change =>
      rw [List.mem_cons] at hpublish
      rcases hpublish with heq | hrest
      · cases heq
      · exact ih hrest
    | read k' =>
      have hrest : .publish k ∈ rest := by simpa using hpublish
      unfold Owes
      split
      · exact hrest
      · exact ih hrest
    | publish k' =>
      rw [List.mem_cons] at hpublish
      rcases hpublish with heq | hrest
      · cases heq
        exact .inl ⟨rfl, w, rfl, hw⟩
      · exact .inr (ih hrest)

/-! ## The invariant -/

def Thread.heldVersion (t : Thread text view) (k : key) : Option Nat := (t.held k).map (·.2)

structure Inv (decode : (k : key) → text k → Option (view k))
    (start s : State text view thread) : Prop where
  republishes : ∀ i, Republishes (s.threads i).program
  held : ∀ {i k value n}, (s.threads i).held k = some (value, n) →
    n ≤ s.version k ∧ (n = s.version k → decode k (s.stored k) = some value)
  live : ∀ {k n}, s.liveVersion k = some n →
    n ≤ s.version k ∧ (n = s.version k → decode k (s.stored k) = some (s.live k))
  unpublished : ∀ {k}, s.liveVersion k = none → s.live k = start.live k
  uncommitted : ∀ {k}, s.version k = 0 → s.stored k = start.stored k
  owed : ∀ k, s.liveVersion k = some (s.version k) ∨ (s.liveVersion k = none ∧ s.version k = 0) ∨
    ∃ i, Owes k (s.version k) (s.threads i).program ((s.threads i).heldVersion k)

section Steps

variable {start s s' : State text view thread}
  {i : thread}

omit [DecidableEq key] in
theorem threads_advance_of_ne (s : State text view thread) {i j : thread} (hj : j ≠ i)
    (rest : List (Instr text view)) : (s.advance i rest).threads j = s.threads j :=
  Function.update_of_ne hj _ _

omit [DecidableEq key] in
theorem threads_advance_self (s : State text view thread) (i : thread)
    (rest : List (Instr text view)) :
    (s.advance i rest).threads i = { s.threads i with program := rest } :=
  Function.update_self _ _ _

omit [DecidableEq key] in
theorem held_advance (s : State text view thread) (i : thread) (rest : List (Instr text view))
    (j : thread) : ((s.advance i rest).threads j).held = (s.threads j).held := by
  by_cases hj : j = i
  · subst hj
    rw [threads_advance_self]
  · rw [threads_advance_of_ne _ hj]

variable {k : key}

theorem owed_of_step (hinv : Inv decode start s)
    (hothers : ∀ j, j ≠ i → s'.threads j = s.threads j)
    (hversion : s'.version k = s.version k) (hlive : s'.liveVersion k = s.liveVersion k)
    (hmoved : Owes k (s.version k) (s.threads i).program ((s.threads i).heldVersion k) →
      Owes k (s.version k) (s'.threads i).program ((s'.threads i).heldVersion k)) :
    s'.liveVersion k = some (s'.version k) ∨ (s'.liveVersion k = none ∧ s'.version k = 0) ∨
      ∃ j, Owes k (s'.version k) (s'.threads j).program ((s'.threads j).heldVersion k) := by
  rw [hversion, hlive]
  refine (hinv.owed k).imp_right (Or.imp_right ?_)
  rintro ⟨j, hj⟩
  by_cases heq : j = i
  · subst heq
    exact ⟨j, hmoved hj⟩
  · refine ⟨j, ?_⟩
    rw [hothers j heq]
    exact hj

section

variable (hinv : Inv decode start s)

include hinv

theorem republishes_of_step (hothers : ∀ j, j ≠ i → s'.threads j = s.threads j)
    (hmoved : Republishes (s.threads i).program → Republishes (s'.threads i).program)
    (j : thread) : Republishes (s'.threads j).program := by
  by_cases heq : j = i
  · subst heq
    exact hmoved (hinv.republishes j)
  · rw [hothers j heq]
    exact hinv.republishes j

variable {rest : List (Instr text view)}

theorem inv_commit {change : ((k : key) → view k) → text k → Option (text k)} {next : text k}
    (hprogram : (s.threads i).program = .commit k change :: rest) :
    Inv decode start ((s.commitText k next).advance i rest) := by
  have hcommit : (∀ v, Owes k v rest none) ∧ Republishes rest := by
    have hrepublishes := hinv.republishes i
    rwa [hprogram] at hrepublishes
  have hothers : ∀ j, j ≠ i →
      ((s.commitText k next).advance i rest).threads j = s.threads j :=
    fun j hj => threads_advance_of_ne _ hj rest
  -- an older read is behind the new version
  have hbehind {k' : key} {n : Nat} {value : view k'} (h : n ≤ s.version k' ∧
      (n = s.version k' → decode k' (s.stored k') = some value)) :
      n ≤ (s.commitText k next).version k' ∧ (n = (s.commitText k next).version k' →
        decode k' ((s.commitText k next).stored k') = some value) := by
    by_cases hkey : k' = k
    · subst hkey
      simp only [State.commitText, Function.update_self]
      exact ⟨by omega, fun heq => by omega⟩
    · simpa only [State.commitText, Function.update_of_ne hkey] using h
  constructor
  · apply republishes_of_step hinv hothers
    rw [threads_advance_self]
    exact fun _ => hcommit.2
  · intro j k' value n hj
    rw [held_advance] at hj
    exact hbehind (hinv.held hj)
  · exact fun hlive => hbehind (hinv.live hlive)
  · exact hinv.unpublished
  · intro k' hzero
    by_cases hkey : k' = k
    · subst hkey
      simp [State.advance, State.commitText] at hzero
    · simp only [State.advance, State.commitText, Function.update_of_ne hkey] at hzero ⊢
      exact hinv.uncommitted hzero
  · intro k'
    by_cases hkey : k' = k
    · subst hkey
      right
      right
      refine ⟨i, ?_⟩
      rw [threads_advance_self]
      exact (hcommit.1 _).of_none _
    · have hversion : ((s.commitText k next).advance i rest).version k' = s.version k' :=
        Function.update_of_ne hkey _ _
      refine owed_of_step hinv hothers hversion rfl ?_
      rw [hprogram, threads_advance_self]
      exact id

theorem inv_read {value : view k} (hprogram : (s.threads i).program = .read k :: rest)
    (hread : decode k (s.stored k) = some value) :
    Inv decode start ((s.holdView i k value).advance i rest) := by
  have hothers : ∀ j, j ≠ i →
      ((s.holdView i k value).advance i rest).threads j = s.threads j := by
    intro j hj
    rw [threads_advance_of_ne _ hj]
    exact Function.update_of_ne hj _ _
  have hself : ((s.holdView i k value).advance i rest).threads i = { s.threads i with
        program := rest
        held := Function.update (s.threads i).held k (some (value, s.version k)) } := by
    rw [threads_advance_self]
    simp [State.holdView]
  constructor
  · apply republishes_of_step hinv hothers
    rw [hprogram, hself]
    exact id
  · intro j k' held n hj
    by_cases heq : j = i
    · subst heq
      rw [hself] at hj
      by_cases hkey : k' = k
      · subst hkey
        simp only [Function.update_self] at hj
        obtain ⟨rfl, rfl⟩ := hj
        exact ⟨Nat.le_refl _, fun _ => hread⟩
      · simp only [Function.update_of_ne hkey] at hj
        exact hinv.held hj
    · rw [hothers j heq] at hj
      exact hinv.held hj
  · exact hinv.live
  · exact hinv.unpublished
  · exact hinv.uncommitted
  · intro k'
    refine owed_of_step hinv hothers rfl rfl fun hi => ?_
    rw [hprogram] at hi
    rw [hself]
    unfold Owes at hi
    by_cases hkey : k' = k
    · subst hkey
      rw [if_pos rfl] at hi
      simp only [Thread.heldVersion, Function.update_self]
      exact owes_of_mem hi (Nat.le_refl _)
    · rw [if_neg (Ne.symm hkey)] at hi
      simpa only [Thread.heldVersion, Function.update_of_ne hkey] using hi

theorem inv_publish {value : view k} {n : Nat}
    (hprogram : (s.threads i).program = .publish k :: rest)
    (hheld : (s.threads i).held k = some (value, n))
    (horder : ∀ {w}, s.liveVersion k = some w → w ≤ n) :
    Inv decode start ((s.publishView k value n).advance i rest) := by
  obtain ⟨hle, hcurrent⟩ := hinv.held hheld
  have hothers : ∀ j, j ≠ i →
      ((s.publishView k value n).advance i rest).threads j = s.threads j :=
    fun j hj => threads_advance_of_ne _ hj rest
  constructor
  · apply republishes_of_step hinv hothers
    rw [hprogram, threads_advance_self]
    exact id
  · intro j k' held n' hj
    rw [held_advance] at hj
    exact hinv.held hj
  · intro k' n' hlive
    by_cases hkey : k' = k
    · subst hkey
      simp only [State.advance, State.publishView, Function.update_self,
        Option.some.injEq] at hlive ⊢
      subst hlive
      exact ⟨hle, hcurrent⟩
    · simp only [State.advance, State.publishView, Function.update_of_ne hkey] at hlive ⊢
      exact hinv.live hlive
  · intro k' hnone
    by_cases hkey : k' = k
    · subst hkey
      simp [State.advance, State.publishView] at hnone
    · simp only [State.advance, State.publishView, Function.update_of_ne hkey] at hnone ⊢
      exact hinv.unpublished hnone
  · exact hinv.uncommitted
  · intro k'
    by_cases hkey : k' = k
    · subst hkey
      have hcaughtUp : s.version k' ≤ n →
          ((s.publishView k' value n).advance i rest).liveVersion k' =
            some (((s.publishView k' value n).advance i rest).version k') := by
        intro hn
        have heq : n = s.version k' := by omega
        simp [State.advance, State.publishView, heq]
      rcases hinv.owed k' with hlive | hnone | howed
      · exact .inl (hcaughtUp (horder hlive))
      · exact .inl (hcaughtUp (by omega))
      · obtain ⟨j, hj⟩ := howed
        by_cases heq : j = i
        · subst heq
          rw [hprogram] at hj
          rcases hj with ⟨_, w, hw, hvw⟩ | hrest
          · rw [Thread.heldVersion, hheld, Option.map_some, Option.some.injEq] at hw
            subst hw
            exact .inl (hcaughtUp hvw)
          · right
            right
            refine ⟨j, ?_⟩
            rw [threads_advance_self]
            exact hrest
        · right
          right
          refine ⟨j, ?_⟩
          rw [hothers j heq]
          exact hj
    · refine owed_of_step hinv hothers rfl (Function.update_of_ne hkey _ _) fun hi => ?_
      rw [hprogram] at hi
      rw [threads_advance_self]
      rcases hi with ⟨heq, _⟩ | hrest
      · exact absurd heq.symm hkey
      · exact hrest

end

end Steps

/-! ## Runs -/

def AllReturned (s : State text view thread) : Prop :=
  ∀ i, (s.threads i).program = [] ∧ (s.threads i).failed = false

variable {start s : State text view thread} (hstart : Starts start)
  (hrepublishes : ∀ i, Republishes (start.threads i).program)

include hstart hrepublishes

omit [DecidableEq thread] in
theorem inv_start : Inv decode start start where
  republishes := hrepublishes
  held := by
    intro i k value n hheld
    rw [hstart.held] at hheld
    cases hheld
  live := by
    intro k n hlive
    rw [hstart.liveVersion] at hlive
    cases hlive
  unpublished := fun _ => rfl
  uncommitted := fun _ => rfl
  owed := fun k => .inr (.inl ⟨hstart.liveVersion k, hstart.version k⟩)

theorem inv_or_failed_of_reaches (hreaches : Reaches decode start s) :
    Inv decode start s ∨ ∃ i, (s.threads i).failed = true := by
  induction hreaches with
  | refl => exact .inl (inv_start hstart hrepublishes)
  | @tail s s' _ hstep ih =>
    obtain ⟨i, horder, hstep⟩ := hstep
    rcases ih with hinv | hfailed
    · cases hstep with
      | commit _ hprogram _ => exact .inl (inv_commit hinv hprogram)
      | read _ hprogram hread => exact .inl (inv_read hinv hprogram hread)
      | publish _ hprogram hheld =>
        apply Or.inl
        apply inv_publish hinv hprogram hheld
        intro w hlive
        simpa [inOrder, hprogram, hheld, hlive] using horder
      | fail | uncertain => exact .inr ⟨i, by simp [State.fail]⟩
    · obtain ⟨j, hj⟩ := hfailed
      exact .inr ⟨j, hstep.failed_mono hj⟩

theorem settled_of_reaches (hreaches : Reaches decode start s) (hreturned : AllReturned s)
    (k : key) : decode k (s.stored k) = some (s.live k) ∨
      (s.live k = start.live k ∧ s.stored k = start.stored k) := by
  rcases inv_or_failed_of_reaches hstart hrepublishes hreaches with hinv | ⟨i, hfailed⟩
  · rcases hinv.owed k with hlive | ⟨hnone, hzero⟩ | ⟨i, howes⟩
    · exact .inl ((hinv.live hlive).2 rfl)
    · exact .inr ⟨hinv.unpublished hnone, hinv.uncommitted hzero⟩
    · rw [(hreturned i).1] at howes
      exact howes.elim
  · rw [(hreturned i).2] at hfailed
    cases hfailed

end GateSentry.Foundation.Publication
