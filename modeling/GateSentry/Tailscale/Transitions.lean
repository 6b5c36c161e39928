import GateSentry.Tailscale.Manager
import Mathlib.Data.Fin.VecNotation

/-!
# The order of the calls on the applier

Every call on the applier is made by the thread that has the transition token.  A snapshot
is applied only while the last transition that took effect has enabled the collection, and
the clear of `Stop` comes after everything else.
-/

namespace GateSentry.Tailscale

open Foundation ByteText

variable {ι : Type}

/-! ## Lawful records -/

def StopCleared (trace : List Event) : Prop :=
  .ends (.clearTailscaleObservations .stopping) ∈ trace

def Event.Allowed (before : List Event) : Event → Prop
  | .begins call => openCall before = none ∧ ¬StopCleared before ∧
      ∀ peers, call = .applyTailscaleSnapshot peers → lastEffect before = true
  | .ends call => openCall before = some call ∧
      (call = .clearTailscaleObservations .disabling → lastEffect before = false)
  | .takesEffect _ => True
  | .stopReturns => StopCleared before

def Lawful : List Event → Prop
  | [] => True
  | event :: before => event.Allowed before ∧ Lawful before

variable {after before : List Event}

theorem Lawful.tail (h : Lawful (after ++ before)) : Lawful before := by
  induction after with
  | nil => exact h
  | cons event rest ih => exact ih h.2

theorem lastEffect_append {mid before : List Event} (h : .takesEffect true ∉ mid)
    (hbefore : lastEffect before = false) : lastEffect (mid ++ before) = false := by
  induction mid with
  | nil => exact hbefore
  | cons event rest ih =>
    simp only [List.mem_cons, not_or] at h
    cases event with
    | takesEffect enabled =>
      cases enabled with
      | false => rfl
      | true => exact absurd rfl h.1
    | _ => exact ih h.2

theorem StopCleared.begins_not_mem (h : Lawful (after ++ before)) (hcleared : StopCleared before)
    (call : ApplierCall) : .begins call ∉ after := by
  induction after with
  | nil => simp
  | cons event rest ih =>
    intro hmem
    rcases List.mem_cons.mp hmem with rfl | hrest
    · exact h.1.2.1 (List.mem_append_right rest hcleared)
    · exact ih h.2 hrest

theorem lastCall_append (h : ∀ call, .begins call ∉ after) :
    lastCall (after ++ before) = lastCall before := by
  induction after with
  | nil => rfl
  | cons event rest ih =>
    have hrest := ih fun call hmem => h call (List.mem_cons_of_mem _ hmem)
    cases event with
    | begins call => exact absurd List.mem_cons_self (h call)
    | _ => exact hrest

variable {trace : List Event} {call : ApplierCall}

theorem lastCall_of_openCall (h : openCall trace = some call) : lastCall trace = some call := by
  induction trace with
  | nil => cases h
  | cons event rest ih =>
    cases event with
    | begins c => exact h
    | ends c => cases h
    | _ => exact ih h

theorem StopCleared.lastCall (h : Lawful trace) (hcleared : StopCleared trace) :
    Tailscale.lastCall trace = some (.clearTailscaleObservations .stopping) := by
  obtain ⟨after, before, rfl⟩ := List.append_of_mem hcleared
  have hbefore := h.tail
  rw [lastCall_append (StopCleared.begins_not_mem h List.mem_cons_self)]
  change Tailscale.lastCall before = _
  exact lastCall_of_openCall hbefore.1.1

/-! ## What holds at each place -/

structure Orderly (m : Manager ι) : Prop where
  free : m.transitionToken = none → openCall m.trace = none
  enabled : m.enabled = true → lastEffect m.trace = true
  cleared : StopCleared m.trace → m.stopped = true ∧ m.done = true
  fresh : m.stopOnce = .fresh → ¬StopCleared m.trace
  finished : m.stopOnce = .finished → StopCleared m.trace
  lawful : Lawful m.trace

def Resting (thread : Thread ι) (m : Manager ι) : Prop :=
  m.transitionToken = some thread ∧ openCall m.trace = none

def Calling (thread : Thread ι) (call : ApplierCall) (m : Manager ι) : Prop :=
  m.transitionToken = some thread ∧ openCall m.trace = some call

def RefreshAt.Holds (thread : Thread ι) (m : Manager ι) : RefreshAt → Prop
  | .applying _ => Resting thread m ∧ ¬StopCleared m.trace ∧ lastEffect m.trace = true
  | .inApplier status => Calling thread (.applyTailscaleSnapshot status.peers) m ∧
      ¬StopCleared m.trace
  | _ => Resting thread m ∧ ¬StopCleared m.trace

def SetEnabledAt.Holds (thread : Thread ι) (m : Manager ι) : SetEnabledAt → Prop
  | .rechecking _ | .deciding _ | .unlocking _ => Resting thread m
  | .clearing => Resting thread m ∧ ¬StopCleared m.trace ∧ lastEffect m.trace = false
  | .inApplier => Calling thread (.clearTailscaleObservations .disabling) m ∧
      lastEffect m.trace = false
  | .refreshing place => place.Holds thread m
  | _ => True

def RunAt.Holds (thread : Thread ι) (m : Manager ι) : RunAt → Prop
  | .selecting | .locking => m.done = false
  | .polling | .detecting | .unlocking => m.done = false ∧ Resting thread m
  | .refreshing place => m.done = false ∧ place.Holds thread m
  | .returned => True

def StopAt.Holds (thread : Thread ι) (m : Manager ι) : StopAt → Prop
  | .entering | .returned => True
  | .closing | .marking => m.stopOnce = .inside thread ∧ ¬StopCleared m.trace
  | .locking => m.stopOnce = .inside thread ∧ ¬StopCleared m.trace ∧ m.stopped = true
  | .draining => m.stopOnce = .inside thread ∧ ¬StopCleared m.trace ∧ m.stopped = true ∧
      Resting thread m
  | .clearing => m.stopOnce = .inside thread ∧ ¬StopCleared m.trace ∧ m.stopped = true ∧
      Resting thread m ∧ m.done = true
  | .inApplier => m.stopOnce = .inside thread ∧ m.stopped = true ∧
      Calling thread (.clearTailscaleObservations .stopping) m ∧ m.done = true
  | .unlocking => m.stopOnce = .inside thread ∧ StopCleared m.trace ∧ Resting thread m
  | .leaving => m.stopOnce = .inside thread ∧ StopCleared m.trace

def Place.Holds (thread : Thread ι) : Place → Manager ι → Prop
  | .setEnabled _ _ place, m => place.Holds thread m
  | .run place, m => thread = none ∧ place.Holds thread m
  | .stop place, m => thread ≠ none ∧ place.Holds thread m

structure Grants (thread : Thread ι) (m m' : Manager ι) : Prop where
  token : ∀ other, other ≠ thread → m.transitionToken = some other →
    m'.transitionToken = some other ∧ openCall m'.trace = openCall m.trace ∧
      lastEffect m'.trace = lastEffect m.trace ∧ (StopCleared m'.trace ↔ StopCleared m.trace)
  once : ∀ other, other ≠ thread → m.stopOnce = .inside other →
    m'.stopOnce = .inside other ∧ (StopCleared m'.trace ↔ StopCleared m.trace)
  stopped : m.stopped = true → m'.stopped = true
  done : m.done = true → m'.done = true
  loop : thread ≠ none → m'.done = m.done

section Stable

variable {thread other : Thread ι} {m m' : Manager ι}

variable (hne : other ≠ thread) (hgrants : Grants thread m m')

include hne hgrants

theorem Resting.stable (h : Resting other m) : Resting other m' := by
  obtain ⟨htoken, hopen, -⟩ := hgrants.token other hne h.1
  exact ⟨htoken, hopen.trans h.2⟩

theorem Calling.stable (h : Calling other call m) : Calling other call m' := by
  obtain ⟨htoken, hopen, -⟩ := hgrants.token other hne h.1
  exact ⟨htoken, hopen.trans h.2⟩

theorem RefreshAt.Holds.stable {place : RefreshAt} (h : place.Holds other m) :
    place.Holds other m' := by
  have htoken := hgrants.token other hne
  cases place with
  | applying status =>
    obtain ⟨hrest, hcleared, heffect⟩ := h
    obtain ⟨-, -, heffect', hcleared'⟩ := htoken hrest.1
    exact ⟨hrest.stable hne hgrants, mt hcleared'.mp hcleared, heffect'.trans heffect⟩
  | _ => exact ⟨h.1.stable hne hgrants, mt (htoken h.1.1).2.2.2.mp h.2⟩

theorem SetEnabledAt.Holds.stable {place : SetEnabledAt} (h : place.Holds other m) :
    place.Holds other m' := by
  have htoken := hgrants.token other hne
  cases place with
  | rechecking | deciding | unlocking => exact Resting.stable hne hgrants h
  | clearing =>
    obtain ⟨hrest, hcleared, heffect⟩ := h
    obtain ⟨-, -, heffect', hcleared'⟩ := htoken hrest.1
    exact ⟨hrest.stable hne hgrants, mt hcleared'.mp hcleared, heffect'.trans heffect⟩
  | inApplier => exact ⟨h.1.stable hne hgrants, (htoken h.1.1).2.2.1.trans h.2⟩
  | refreshing place => exact RefreshAt.Holds.stable hne hgrants h
  | _ => trivial

omit hne in
theorem RunAt.Holds.stable {place : RunAt} (hne : none ≠ thread)
    (h : place.Holds none m) : place.Holds none m' := by
  have hdone := hgrants.loop hne.symm
  cases place with
  | selecting | locking => exact hdone.trans h
  | refreshing place => exact ⟨hdone.trans h.1, h.2.stable hne hgrants⟩
  | returned => trivial
  | _ => exact ⟨hdone.trans h.1, h.2.stable hne hgrants⟩

theorem StopAt.Holds.stable {place : StopAt} (h : place.Holds other m) : place.Holds other m' := by
  have honce := hgrants.once other hne
  cases place with
  | entering | returned => trivial
  | locking =>
    obtain ⟨hinside, hcleared, hstopped⟩ := h
    exact ⟨(honce hinside).1, mt (honce hinside).2.mp hcleared, hgrants.stopped hstopped⟩
  | draining =>
    obtain ⟨hinside, hcleared, hstopped, hrest⟩ := h
    exact ⟨(honce hinside).1, mt (honce hinside).2.mp hcleared, hgrants.stopped hstopped,
      hrest.stable hne hgrants⟩
  | clearing =>
    obtain ⟨hinside, hcleared, hstopped, hrest, hdone⟩ := h
    exact ⟨(honce hinside).1, mt (honce hinside).2.mp hcleared, hgrants.stopped hstopped,
      hrest.stable hne hgrants, hgrants.done hdone⟩
  | inApplier =>
    obtain ⟨hinside, hstopped, hcall, hdone⟩ := h
    exact ⟨(honce hinside).1, hgrants.stopped hstopped, hcall.stable hne hgrants,
      hgrants.done hdone⟩
  | unlocking =>
    obtain ⟨hinside, hcleared, hrest⟩ := h
    exact ⟨(honce hinside).1, (honce hinside).2.mpr hcleared, hrest.stable hne hgrants⟩
  | leaving => exact ⟨(honce h.1).1, (honce h.1).2.mpr h.2⟩
  | _ => exact ⟨(honce h.1).1, mt (honce h.1).2.mp h.2⟩

theorem Place.Holds.stable {place : Place} (h : place.Holds other m) : place.Holds other m' := by
  cases place with
  | setEnabled hasContext enabled place => exact SetEnabledAt.Holds.stable hne hgrants h
  | run place =>
    obtain ⟨rfl, hplace⟩ := h
    exact ⟨rfl, hplace.stable hgrants hne⟩
  | stop place => exact ⟨h.1, h.2.stable hne hgrants⟩

end Stable

/-! ## The steps -/

structure Framed (m m' : Manager ι) : Prop where
  token : m'.transitionToken = m.transitionToken
  once : m'.stopOnce = m.stopOnce
  stopped : m'.stopped = m.stopped
  done : m'.done = m.done
  trace : m'.trace = m.trace

structure Advances (thread : Thread ι) (m m' : Manager ι) : Prop where
  orderly : Orderly m'
  grants : Grants thread m m'

section Steps

variable {thread : Thread ι} {m m' : Manager ι}

theorem Grants.refl (thread : Thread ι) (m : Manager ι) : Grants thread m m where
  token _ _ h := ⟨h, rfl, rfl, Iff.rfl⟩
  once _ _ h := ⟨h, Iff.rfl⟩
  stopped := id
  done := id
  loop _ := rfl

theorem Framed.advances (h : Framed m m') (henabled : m'.enabled = true → m.enabled = true)
    (hm : Orderly m) : Advances thread m m' := by
  obtain ⟨htoken, honce, hstopped, hdone, htrace⟩ := h
  constructor
  · constructor
    · rw [htoken, htrace]
      exact hm.free
    · rw [htrace]
      exact fun h => hm.enabled (henabled h)
    · rw [htrace, hstopped, hdone]
      exact hm.cleared
    · rw [honce, htrace]
      exact hm.fresh
    · rw [honce, htrace]
      exact hm.finished
    · rw [htrace]
      exact hm.lawful
  · constructor
    · intro other _ hother
      simp [htoken, htrace, hother]
    · intro other _ hother
      simp [honce, htrace, hother]
    · rw [hstopped]
      exact id
    · rw [hdone]
      exact id
    · exact fun _ => hdone

theorem Framed.resting (h : Framed m m') (hm : Resting thread m) : Resting thread m' :=
  ⟨h.token.trans hm.1, by rw [h.trace]; exact hm.2⟩

theorem advances_of_eq (hm : Orderly m) : Advances thread m m :=
  Framed.advances ⟨rfl, rfl, rfl, rfl, rfl⟩ id hm

theorem stopCleared_cons {event : Event}
    (h : event ≠ .ends (.clearTailscaleObservations .stopping)) :
    StopCleared (event :: trace) ↔ StopCleared trace := by
  simp [StopCleared, Ne.symm h]

section

variable (hm : Orderly m)

include hm

theorem advances_record {event : Event} (hframe : Framed m m')
    (htoken : m.transitionToken = some thread) (hallowed : event.Allowed m.trace)
    (hevent : event ≠ .ends (.clearTailscaleObservations .stopping))
    (henabled : m'.enabled = true → lastEffect (event :: m.trace) = true) :
    Advances thread m (m'.record event) := by
  have htrace : (m'.record event).trace = event :: m.trace := by
    rw [← hframe.trace]
    rfl
  have hcleared : StopCleared (event :: m.trace) ↔ StopCleared m.trace :=
    stopCleared_cons hevent
  constructor
  · constructor
    · intro hfree
      exact absurd (hframe.token.symm.trans hfree) (by simp [htoken])
    · rw [htrace]
      exact henabled
    · rw [htrace, hcleared]
      intro h
      have hdone := hm.cleared h
      rw [← hframe.stopped, ← hframe.done] at hdone
      exact hdone
    · rw [htrace, hcleared]
      intro h
      exact hm.fresh (hframe.once.symm.trans h)
    · rw [htrace, hcleared]
      intro h
      exact hm.finished (hframe.once.symm.trans h)
    · rw [htrace]
      exact ⟨hallowed, hm.lawful⟩
  · constructor
    · intro other hne hother
      rw [htoken] at hother
      exact absurd (Option.some.inj hother).symm hne
    · intro other _ hother
      rw [htrace]
      exact ⟨hframe.once.trans hother, hcleared⟩
    · intro h
      exact hframe.stopped.trans h
    · intro h
      exact hframe.done.trans h
    · exact fun _ => hframe.done

section

variable (hfree : m.transitionToken.isNone = true)

include hfree

theorem advances_take : Advances thread m { m with transitionToken := some thread } := by
  rw [Option.isNone_iff_eq_none] at hfree
  refine ⟨{ hm with free := fun h => absurd h (by simp) }, { Grants.refl thread m with token := ?_ }⟩
  intro other _ hother
  cases hfree.symm.trans hother

theorem resting_take : Resting thread { m with transitionToken := some thread } :=
  ⟨rfl, hm.free (Option.isNone_iff_eq_none.mp hfree)⟩

end

theorem advances_release (hrest : Resting thread m) :
    Advances thread m { m with transitionToken := none } := by
  refine ⟨{ hm with free := fun _ => hrest.2 }, { Grants.refl thread m with token := ?_ }⟩
  intro other hne hother
  exact absurd (Option.some.inj (hrest.1.symm.trans hother)).symm hne

end

end Steps

/-! ## Refreshing -/

section Refreshing

variable {thread : Thread ι} {m : Manager ι}

theorem framed_fail : Framed m m.fail ∧ m.fail.enabled = m.enabled := by
  unfold Manager.fail
  split <;> exact ⟨⟨rfl, rfl, rfl, rfl, rfl⟩, rfl⟩

def RefreshAt.calls : RefreshAt → Bool
  | .applying _ => true
  | .inApplier _ => true
  | _ => false

variable {place : RefreshAt} (answer : Answer)

theorem refreshLocked_framed (h : place.calls = false) :
    Framed m (refreshLocked m answer place).2 ∧
      (refreshLocked m answer place).2.enabled = m.enabled := by
  have hsame : Framed m m ∧ m.enabled = m.enabled := ⟨⟨rfl, rfl, rfl, rfl, rfl⟩, rfl⟩
  cases place with
  | applying | inApplier => cases h
  | detecting =>
    simp only [refreshLocked]
    split
    · have hfail := framed_fail (m := { m with detected := answer.detected })
      exact ⟨⟨hfail.1.token, hfail.1.once, hfail.1.stopped, hfail.1.done, hfail.1.trace⟩, hfail.2⟩
    · split <;> exact ⟨⟨rfl, rfl, rfl, rfl, rfl⟩, rfl⟩
  | failing err => exact framed_fail
  | settling sequence reply =>
    simp only [refreshLocked]
    repeat' split
    all_goals exact ⟨⟨rfl, rfl, rfl, rfl, rfl⟩, rfl⟩
  | _ =>
    simp only [refreshLocked]
    repeat' split
    all_goals first
      | exact hsame
      | exact ⟨hsame.1, trivial⟩
      | exact ⟨⟨rfl, rfl, rfl, rfl, rfl⟩, rfl⟩

def Refreshed.Holds (thread : Thread ι) (m : Manager ι) : Refreshed → Prop
  | .goesOn place => place.Holds thread m
  | .returns _ => Resting thread m

theorem refreshLocked_next (h : place.calls = false) {m' : Manager ι} (hrest : Resting thread m')
    (hcleared : ¬StopCleared m'.trace) (henabled : m.enabled = true → lastEffect m'.trace = true) :
    (refreshLocked m answer place).1.Holds thread m' := by
  have hresting : Resting thread m' ∧ ¬StopCleared m'.trace := ⟨hrest, hcleared⟩
  cases place with
  | applying | inApplier => cases h
  | admitting status =>
    simp only [refreshLocked]
    split
    · exact hrest
    · rename_i hcond
      refine ⟨hrest, hcleared, henabled ?_⟩
      cases hm : m.enabled with
      | true => rfl
      | false => simp [hm] at hcond
  | requesting sequence => exact hresting
  | failing err => exact hrest
  | _ =>
    simp only [refreshLocked]
    repeat' split
    all_goals first | exact hrest | exact hresting

theorem RefreshAt.Holds.resting (h : place.Holds thread m)
    (hcalls : place.calls = false) : Resting thread m ∧ ¬StopCleared m.trace := by
  cases place with
  | applying | inApplier => cases hcalls
  | _ => exact h

theorem refreshLocked_holds (hm : Orderly m) (h : place.Holds thread m) :
    Advances thread m (refreshLocked m answer place).2 ∧
      (refreshLocked m answer place).1.Holds thread (refreshLocked m answer place).2 ∧
      (refreshLocked m answer place).2.done = m.done := by
  cases hcalls : place.calls with
  | false =>
    obtain ⟨hrest, hcleared⟩ := h.resting hcalls
    obtain ⟨hframe, henabled⟩ := refreshLocked_framed (m := m) answer hcalls
    refine ⟨hframe.advances (fun h => henabled.symm.trans h) hm, ?_, hframe.done⟩
    apply refreshLocked_next answer hcalls (hframe.resting hrest)
    · rw [hframe.trace]
      exact hcleared
    · rw [hframe.trace]
      exact hm.enabled
  | true =>
    have hsame : Framed m m := ⟨rfl, rfl, rfl, rfl, rfl⟩
    cases place with
    | applying status =>
      obtain ⟨hrest, hcleared, heffect⟩ := h
      have hallowed : Event.Allowed m.trace (.begins (.applyTailscaleSnapshot status.peers)) :=
        ⟨hrest.2, hcleared, fun _ _ => heffect⟩
      refine ⟨advances_record hm hsame hrest.1 hallowed (by simp) fun _ => heffect, ?_, rfl⟩
      exact ⟨⟨hrest.1, rfl⟩, (stopCleared_cons (by simp)).not.mpr hcleared⟩
    | inApplier status =>
      obtain ⟨⟨htoken, hopen⟩, hcleared⟩ := h
      have hallowed : Event.Allowed m.trace (.ends (.applyTailscaleSnapshot status.peers)) :=
        ⟨hopen, fun h => by cases h⟩
      refine ⟨advances_record hm hsame htoken hallowed (by simp) hm.enabled, ?_, rfl⟩
      exact ⟨⟨htoken, rfl⟩, (stopCleared_cons (by simp)).not.mpr hcleared⟩
    | _ => cases hcalls

end Refreshing

/-! ## The callers and the loop -/

section Callers

variable {thread : Thread ι} {m : Manager ι}

theorem setEnabled_holds (hasContext enabled : Bool) (answer : Answer) {place : SetEnabledAt}
    (hm : Orderly m) (h : place.Holds thread m) :
    Advances thread m (setEnabled thread hasContext enabled answer m place).2 ∧
      (setEnabled thread hasContext enabled answer m place).1.Holds thread
        (setEnabled thread hasContext enabled answer m place).2 := by
  have hsame : Framed m m := ⟨rfl, rfl, rfl, rfl, rfl⟩
  have hstays : Advances thread m m := advances_of_eq hm
  cases place with
  | entering =>
    simp only [setEnabled]
    repeat' split
    all_goals exact ⟨hstays, trivial⟩
  | requesting =>
    simp only [setEnabled]
    split
    · exact ⟨hstays, trivial⟩
    · exact ⟨Framed.advances ⟨rfl, rfl, rfl, rfl, rfl⟩ id hm, trivial⟩
  | locking sequence =>
    simp only [setEnabled]
    repeat' split
    all_goals first
      | exact ⟨hstays, trivial⟩
      | exact ⟨advances_take hm (by assumption), resting_take hm (by assumption)⟩
  | rechecking sequence =>
    simp only [setEnabled]
    split <;> exact ⟨hstays, h⟩
  | deciding sequence =>
    have hrest : Resting thread m := h
    have hcleared (hstopped : ¬m.stopped = true) : ¬StopCleared m.trace :=
      fun hcleared => hstopped (hm.cleared hcleared).1
    simp only [setEnabled]
    split
    · exact ⟨hstays, h⟩
    rename_i hstopped
    split
    · exact ⟨hstays, h⟩
    split
    · refine ⟨advances_record hm ⟨rfl, rfl, rfl, rfl, rfl⟩ hrest.1 trivial (by simp)
        (fun h => by cases h), ⟨hrest.1, hrest.2⟩, ?_, rfl⟩
      exact (stopCleared_cons (by simp)).not.mpr (hcleared hstopped)
    · refine ⟨advances_record hm ⟨rfl, rfl, rfl, rfl, rfl⟩ hrest.1 trivial (by simp)
        (fun _ => rfl), ⟨hrest.1, hrest.2⟩, ?_⟩
      exact (stopCleared_cons (by simp)).not.mpr (hcleared hstopped)
  | clearing =>
    obtain ⟨hrest, hcleared, heffect⟩ := h
    have hallowed : Event.Allowed m.trace (.begins (.clearTailscaleObservations .disabling)) :=
      ⟨hrest.2, hcleared, fun _ h => by cases h⟩
    exact ⟨advances_record hm hsame hrest.1 hallowed (by simp) hm.enabled,
      ⟨hrest.1, rfl⟩, heffect⟩
  | inApplier =>
    obtain ⟨⟨htoken, hopen⟩, heffect⟩ := h
    have hallowed : Event.Allowed m.trace (.ends (.clearTailscaleObservations .disabling)) :=
      ⟨hopen, fun _ => heffect⟩
    exact ⟨advances_record hm hsame htoken hallowed (by simp) hm.enabled, htoken, rfl⟩
  | refreshing place =>
    obtain ⟨hadvances, hnext, -⟩ := refreshLocked_holds answer hm h
    simp only [setEnabled]
    split
    · rename_i place' m' heq
      simp only [heq] at hadvances hnext
      exact ⟨hadvances, hnext⟩
    · rename_i err m' heq
      simp only [heq] at hadvances hnext
      exact ⟨hadvances, hnext⟩
  | unlocking err => exact ⟨advances_release hm h, trivial⟩
  | returned err => exact ⟨hstays, trivial⟩

theorem framed_detect (detected : Bool) :
    Framed m (m.detect detected) ∧ (m.detect detected).enabled = m.enabled := by
  simp only [Manager.detect]
  split <;> exact ⟨⟨rfl, rfl, rfl, rfl, rfl⟩, rfl⟩

theorem advances_done (hm : Orderly m) : Advances none m { m with done := true } := by
  refine ⟨{ hm with cleared := fun h => ⟨(hm.cleared h).1, rfl⟩ },
    { Grants.refl none m with done := fun _ => rfl, loop := fun h => absurd rfl h }⟩

theorem run_holds (answer : Answer) {place : RunAt} (hm : Orderly m) (h : place.Holds none m) :
    Advances none m (run none answer m place).2 ∧
      (run none answer m place).1.Holds none (run none answer m place).2 := by
  have hstays : Advances none m m := advances_of_eq hm
  cases place with
  | selecting =>
    simp only [run]
    repeat' split
    · exact ⟨hstays, h⟩
    · exact ⟨advances_done hm, trivial⟩
    · exact ⟨hstays, h⟩
  | locking =>
    simp only [run]
    repeat' split
    · exact ⟨advances_take hm (by assumption), h, resting_take hm (by assumption)⟩
    · exact ⟨hstays, h⟩
    · exact ⟨advances_done hm, trivial⟩
    · exact ⟨hstays, h⟩
  | polling =>
    obtain ⟨hdone, hrest⟩ := h
    have hcleared : ¬StopCleared m.trace := fun hcleared => by
      simp [(hm.cleared hcleared).2] at hdone
    simp only [run]
    split
    · exact ⟨hstays, hdone, hrest, hcleared⟩
    · exact ⟨hstays, hdone, hrest⟩
  | refreshing place =>
    obtain ⟨hadvances, hnext, hdone⟩ := refreshLocked_holds answer hm h.2
    rw [h.1] at hdone
    simp only [run]
    split
    · rename_i place' m' heq
      simp only [heq] at hadvances hnext hdone
      exact ⟨hadvances, hdone, hnext⟩
    · rename_i err m' heq
      simp only [heq] at hadvances hnext hdone
      exact ⟨hadvances, hdone, hnext⟩
  | detecting =>
    obtain ⟨hframe, henabled⟩ := framed_detect (m := m) answer.detected
    exact ⟨hframe.advances (fun h => henabled.symm.trans h) hm, hframe.done.trans h.1,
      hframe.resting h.2⟩
  | unlocking => exact ⟨advances_release hm h.2, h.1⟩
  | returned => exact ⟨hstays, trivial⟩

section

variable (hm : Orderly m)

include hm

theorem advances_enter (hfresh : m.stopOnce = .fresh) :
    Advances thread m { m with stopOnce := .inside thread } := by
  refine ⟨{ hm with fresh := nofun, finished := nofun }, { Grants.refl thread m with once := ?_ }⟩
  intro other _ hother
  cases hfresh.symm.trans hother

theorem advances_stopped {status : ManagerStatus} : Advances thread m { m with
      stopped := true, enabled := false, status := status, self := none, peers := ∅ } := by
  exact ⟨{ hm with enabled := nofun, cleared := fun h => ⟨rfl, (hm.cleared h).2⟩ },
    { Grants.refl thread m with stopped := fun _ => rfl }⟩

theorem advances_cleared (honce : m.stopOnce = .inside thread) (hstopped : m.stopped = true)
    (hdone : m.done = true) (hcall : Calling thread (.clearTailscaleObservations .stopping) m) :
    Advances thread m (m.record (.ends (.clearTailscaleObservations .stopping))) := by
  constructor
  · constructor
    · exact fun _ => rfl
    · exact hm.enabled
    · exact fun _ => ⟨hstopped, hdone⟩
    · intro h
      cases honce.symm.trans h
    · exact fun _ => List.mem_cons_self
    · exact ⟨⟨hcall.2, fun h => by cases h⟩, hm.lawful⟩
  · refine { Grants.refl thread m with token := ?_, once := ?_ }
    · intro other hne hother
      exact absurd (Option.some.inj (hcall.1.symm.trans hother)).symm hne
    · intro other hne hother
      cases honce.symm.trans hother
      exact absurd rfl hne

theorem advances_returns {once : Once ι} (hcleared : StopCleared m.trace) (hfresh : once ≠ .fresh)
    (honce : ∀ other, other ≠ thread → m.stopOnce = .inside other → once = .inside other) :
    Advances thread m (Manager.record { m with stopOnce := once } .stopReturns) := by
  have hiff : StopCleared (.stopReturns :: m.trace) ↔ StopCleared m.trace :=
    stopCleared_cons (by simp)
  constructor
  · constructor
    · exact hm.free
    · exact hm.enabled
    · exact fun h => hm.cleared (hiff.mp h)
    · exact fun h => absurd h hfresh
    · exact fun _ => hiff.mpr hcleared
    · exact ⟨hcleared, hm.lawful⟩
  · exact { Grants.refl thread m with
      token := fun other _ hother => ⟨hother, rfl, rfl, hiff⟩
      once := fun other hne hother => ⟨honce other hne hother, hiff⟩ }

theorem stop_holds {place : StopAt} (h : place.Holds thread m) :
    Advances thread m (stop thread m place).2 ∧
      (stop thread m place).1.Holds thread (stop thread m place).2 := by
  have hsame : Framed m m := ⟨rfl, rfl, rfl, rfl, rfl⟩
  have hstays : Advances thread m m := advances_of_eq hm
  cases place with
  | entering =>
    cases honce : m.stopOnce with
    | fresh =>
      simp only [stop, honce]
      exact ⟨advances_enter hm honce, rfl, hm.fresh honce⟩
    | inside other =>
      simp only [stop, honce]
      exact ⟨hstays, trivial⟩
    | finished =>
      simp only [stop, honce]
      have hreturns : Advances thread m (Manager.record { m with stopOnce := m.stopOnce }
          .stopReturns) :=
        advances_returns hm (hm.finished honce) (by simp [honce]) fun _ _ hother => hother
      exact ⟨hreturns, trivial⟩
  | closing => exact ⟨Framed.advances ⟨rfl, rfl, rfl, rfl, rfl⟩ id hm, h⟩
  | marking => exact ⟨advances_stopped hm, h.1, h.2, rfl⟩
  | locking =>
    obtain ⟨hinside, hcleared, hstopped⟩ := h
    simp only [stop]
    split
    · exact ⟨advances_take hm (by assumption), hinside, hcleared, hstopped,
        resting_take hm (by assumption)⟩
    · exact ⟨hstays, hinside, hcleared, hstopped⟩
  | draining =>
    obtain ⟨hinside, hcleared, hstopped, hrest⟩ := h
    simp only [stop]
    split
    · exact ⟨hstays, hinside, hcleared, hstopped, hrest, by assumption⟩
    · exact ⟨hstays, hinside, hcleared, hstopped, hrest⟩
  | clearing =>
    obtain ⟨hinside, hcleared, hstopped, hrest, hdone⟩ := h
    have hallowed : Event.Allowed m.trace (.begins (.clearTailscaleObservations .stopping)) :=
      ⟨hrest.2, hcleared, fun _ h => by cases h⟩
    exact ⟨advances_record hm hsame hrest.1 hallowed (by simp) hm.enabled, hinside, hstopped,
      ⟨hrest.1, rfl⟩, hdone⟩
  | inApplier =>
    obtain ⟨hinside, hstopped, hcall, hdone⟩ := h
    exact ⟨advances_cleared hm hinside hstopped hdone hcall, hinside, List.mem_cons_self,
      hcall.1, rfl⟩
  | unlocking => exact ⟨advances_release hm h.2.2, h.1, h.2.1⟩
  | leaving =>
    obtain ⟨hinside, hcleared⟩ := h
    refine ⟨advances_returns hm hcleared (by simp) ?_, trivial⟩
    intro other hne hother
    rw [hinside] at hother
    cases hother
    exact absurd rfl hne
  | returned => exact ⟨hstays, trivial⟩

end

end Callers

/-! ## Every run -/

theorem sound_move : Threads.Sound (@move ι) (fun _ _ _ => True) Orderly Place.Holds Grants := by
  have hstep : ∀ (thread : Thread ι) (answer : Answer) (place : Place) (m : Manager ι),
      Orderly m → place.Holds thread m → Advances thread m (move thread answer place m).2 ∧
          (move thread answer place m).1.Holds thread (move thread answer place m).2 := by
    intro thread answer place m hm h
    cases place with
    | setEnabled hasContext enabled place => exact setEnabled_holds hasContext enabled answer hm h
    | run place =>
      obtain ⟨rfl, hplace⟩ := h
      obtain ⟨hadvances, hnext⟩ := run_holds answer hm hplace
      exact ⟨hadvances, rfl, hnext⟩
    | stop place =>
      obtain ⟨hadvances, hnext⟩ := stop_holds hm h.2
      exact ⟨hadvances, h.1, hnext⟩
  constructor
  · exact fun thread answer place m _ hm h => (hstep thread answer place m hm h).1.orderly
  · exact fun thread answer place m _ hm h => (hstep thread answer place m hm h).2
  · exact fun thread answer place m _ hm h => (hstep thread answer place m hm h).1.grants
  · exact fun thread other place m m' hne hgrants h => h.stable hne hgrants

theorem asserted_newManager (detected : Bool) (calls : ι → Call) :
    (newManager detected calls).Asserted Orderly Place.Holds := by
  constructor
  · constructor
    · exact fun _ => rfl
    · intro h
      cases h
    · intro h
      cases h
    · intro _ h
      cases h
    · intro h
      cases h
    · trivial
  · intro thread
    cases thread with
    | none => exact ⟨rfl, rfl⟩
    | some i =>
      simp only [newManager]
      cases calls i with
      | setEnabled hasContext enabled => trivial
      | stop => exact ⟨by simp, trivial⟩

def applierTrace [DecidableEq ι] (detected : Bool) (calls : ι → Call)
    (schedule : List (Thread ι × Answer)) : List Event :=
  ((newManager detected calls).run move schedule).state.trace

theorem lawful_applierTrace [DecidableEq ι] (detected : Bool) (calls : ι → Call)
    (schedule : List (Thread ι × Answer)) : Lawful (applierTrace detected calls schedule) :=
  ((asserted_newManager detected calls).run sound_move schedule
    (Threads.guarded_of_forall (fun _ _ _ => trivial) _ schedule)).state.lawful

/-- No two calls on the applier are open at once, no snapshot is applied between a clear of
`SetEnabled(false)` and the next `SetEnabled(true)` that takes effect, and no call begins
after `Stop` has returned, whose clear is the last call. -/
theorem applier_calls_in_order [DecidableEq ι] (detected : Bool) (calls : ι → Call)
    (schedule : List (Thread ι × Answer)) :
    (∀ after call before,
      applierTrace detected calls schedule = after ++ .begins call :: before →
        openCall before = none) ∧
    (∀ after peers mid before,
      applierTrace detected calls schedule =
          after ++ .begins (.applyTailscaleSnapshot peers) ::
            (mid ++ .ends (.clearTailscaleObservations .disabling) :: before) →
        .takesEffect true ∈ mid) ∧
    (∀ after before,
      applierTrace detected calls schedule = after ++ .stopReturns :: before →
        (∀ call, .begins call ∉ after) ∧
          lastCall (applierTrace detected calls schedule) =
            some (.clearTailscaleObservations .stopping)) := by
  have hlawful := lawful_applierTrace detected calls schedule
  refine ⟨?_, ?_, ?_⟩
  · intro after call before htrace
    rw [htrace] at hlawful
    exact hlawful.tail.1.1
  · intro after peers mid before htrace
    rw [htrace] at hlawful
    have hsnapshot := hlawful.tail
    have hclear := hsnapshot.2.tail
    by_contra hmid
    have heffect : lastEffect (mid ++ .ends (.clearTailscaleObservations .disabling) :: before) =
        false := lastEffect_append hmid (hclear.1.2 rfl)
    rw [hsnapshot.1.2.2 peers rfl] at heffect
    cases heffect
  · intro after before htrace
    rw [htrace] at hlawful ⊢
    have hreturns : StopCleared (.stopReturns :: before) :=
      List.mem_cons_of_mem _ hlawful.tail.1
    exact ⟨hreturns.begins_not_mem hlawful,
      StopCleared.lastCall hlawful (List.mem_append_right after hreturns)⟩

/-! ## After the stop -/

variable {m : Manager ι}

def Silenced (m : Manager ι) : Prop :=
  m.stopped = true → m.enabled = false ∧ m.status = .stopped ∧ m.self = none ∧ m.peers = ∅

theorem silenced_refreshLocked (h : Silenced m) (answer : Answer) (place : RefreshAt) :
    Silenced (refreshLocked m answer place).2 := by
  unfold Silenced at h ⊢
  fun_cases refreshLocked m answer place <;>
    grind [Manager.fail, Manager.record, Manager.publish]

theorem silenced_move (h : Silenced m) (thread : Thread ι) (answer : Answer) (place : Place) :
    Silenced (move thread answer place m).2 := by
  have hrefresh := silenced_refreshLocked h answer
  unfold Silenced at h hrefresh ⊢
  cases place with
  | setEnabled hasContext enabled place =>
    cases place <;> grind [move, setEnabled, Manager.record]
  | run place => cases place <;> grind [move, run, Manager.detect]
  | stop place => cases place <;> grind [move, stop, Manager.record]

/-- A manager that `Stop` has marked stays disabled and shows neither itself nor a peer,
whatever transitions and refreshes are still under way. -/
theorem stopped_shows_nothing [DecidableEq ι] (detected : Bool) (calls : ι → Call)
    (schedule : List (Thread ι × Answer)) :
    let m := ((newManager detected calls).run move schedule).state
    m.stopped = true → m.enabled = false ∧ m.status = .stopped ∧ m.self = none ∧ m.peers = ∅ := by
  have hstart : Silenced (newManager detected calls).state := nofun
  generalize newManager detected calls = threads at hstart ⊢
  induction schedule generalizing threads with
  | nil => exact hstart
  | cons turn rest ih => exact ih _ (silenced_move hstart turn.1 turn.2 _)

def laptopStatus : LocalStatus :=
  { backendState := utf8 "Running", peers := [{ nodeID := utf8 "n1", online := true }] }

def turns (thread : Thread Bool) (n : Nat) : List (Thread Bool × Answer) :=
  List.replicate n (thread, { ended := false, reply := some laptopStatus })

/-- The first caller enables the manager and sees the peer, and a refresh has asked again. -/
def refreshTurns : List (Thread Bool × Answer) :=
  turns (some true) 16 ++ (none, { ready := .tick }) :: turns none 6

theorem stopped_shows_nothing_refreshTurns :
    let start := newManager true fun enables => cond enables (.setEnabled true true) .stop
    let refreshing := (start.run move refreshTurns).state
    let m := (start.run move (refreshTurns ++ turns (some false) 3 ++ turns none 2)).state
    (refreshing.enabled = true ∧ refreshing.activeCancel.isSome ∧
      refreshing.peers.keys = [utf8 "n1"]) ∧
    m.enabled = false ∧ m.status = .stopped ∧ m.self = none ∧ m.peers = ∅ :=
  ⟨by decide +kernel, stopped_shows_nothing true _ _ (by decide +kernel)⟩

end GateSentry.Tailscale
