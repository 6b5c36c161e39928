import GateSentry.Storage.Transactions

/-!
# The quarantine of an uncertain write

A write that fails after its rename is noted by the handle it went through.  What later
operations of the process make of it depends on the handle and on the operation.
-/

namespace GateSentry.Storage

open Foundation ByteText

section Quarantine

variable (c : Cipher) (location : KeyLocation)

/-! ## Operations on one path -/

inductive HandleCall where
  | load
  | set (data : Bytes)
  | persist
  | map (call : MapCall)

def HandleCall.program (s : Store) : HandleCall → Files (Store × Bool)
  | .load => do
    let (s, err) ← s.loadLocked c location
    return (s, err.isNone)
  | .set data => do
    let (s, err) ← s.set c location data
    return (s, err.isNone)
  | .persist => do
    let (s, err) ← s.persist c location
    return (s, err.isNone)
  | .map call => do
    let (s, err) ← call.program c location s
    return (s, err.isNone)

def HandleCall.reloads : HandleCall → Bool
  | .load => true
  | .set _ => false
  | .persist => false
  | .map _ => true

inductive Operation where
  | openStore (encrypted : Bool)
  | openMapStore (encrypted : Bool)
  | call (handle : Nat) (action : HandleCall)

variable (name : Bytes)

def Operation.program (handles : List Store) : Operation → Files (List Store × Bool)
  | .openStore encrypted => do
    let (s, err) ← Storage.openStore c location name encrypted fun _ => true
    return (handles ++ [s], err.isNone)
  | .openMapStore encrypted => do
    let (s, err) ← Storage.openMapStore c location name encrypted
    return (handles ++ [s], err.isNone)
  | .call handle action =>
    match handles[handle]? with
    | none => pure (handles, false)
    | some s => do
      let (s, ok) ← action.program c location s
      return (handles.set handle s, ok)

/-! ## Runs of a process -/

structure Process where
  disk : Disk
  handles : List Store

def Process.uncertain (p : Process) : Bool := p.handles.any (·.durabilityErr.isSome)

/-- An operation with the answers to its steps, or a change of the disk by someone else. -/
inductive Item where
  | elsewhere (change : Disk → Disk)
  | operation (op : Operation) (answers : Nat → Answer)

/-- Whether an operation reports success, and whether a write has failed after its rename
by then. -/
structure Event where
  ok : Bool
  uncertain : Bool
  deriving DecidableEq

namespace Process

def step (p : Process) : Item → Process × Option Event
  | .elsewhere change => ({ p with disk := change p.disk }, none)
  | .operation op answers =>
    let (disk, handles, ok) := (op.program c location name p.handles).drive answers p.disk
    let after : Process := ⟨disk, handles⟩
    (after, some ⟨ok, after.uncertain⟩)

def events (p : Process) : List Item → List Event
  | [] => []
  | item :: rest =>
    (p.step c location name item).2.toList ++ (p.step c location name item).1.events rest

/-- After a failure, the operation reloads and goes through a handle that has noted it. -/
def Guarded (p : Process) : Item → Prop
  | .elsewhere _ => True
  | .operation op _ => p.uncertain = true → ∃ handle action s, op = .call handle action ∧
      action.reloads = true ∧ p.handles[handle]? = some s ∧ s.durabilityErr.isSome = true

def AllGuarded (p : Process) : List Item → Prop
  | [] => True
  | item :: rest => p.Guarded item ∧ (p.step c location name item).1.AllGuarded rest

end Process

/-! ## Steps -/

variable {c} {location} {name}

theorem HandleCall.program_of_reloads {s : Store} (hnoted : s.durabilityErr.isSome = true)
    {action : HandleCall} (hreloads : action.reloads = true) :
    action.program c location s = pure (s, false) := by
  obtain ⟨errors, herrors⟩ := Option.isSome_iff_exists.mp hnoted
  cases action with
  | load =>
    rw [HandleCall.program, Store.loadLocked, herrors]
    rfl
  | set | persist => cases hreloads
  | map call =>
    rw [HandleCall.program, MapCall.program_of_durabilityErr herrors]
    rfl

variable {p : Process}

theorem step_guarded (huncertain : p.uncertain = true) {item : Item} (h : p.Guarded item) :
    (p.step c location name item).1.uncertain = true ∧
      ∀ event ∈ (p.step c location name item).2, event.ok = false := by
  cases item with
  | elsewhere change => exact ⟨huncertain, nofun⟩
  | operation op answers =>
    obtain ⟨handle, action, s, rfl, hreloads, hs, hnoted⟩ := h huncertain
    have hsame : p.handles.set handle s = p.handles := by
      obtain ⟨hlt, hget⟩ := List.getElem?_eq_some_iff.mp hs
      rw [← hget, List.set_getElem_self]
    have hprogram : (Operation.call handle action).program c location name p.handles =
        pure (p.handles.set handle s, false) := by
      rw [Operation.program, hs]
      simp only [HandleCall.program_of_reloads hnoted hreloads]
      rfl
    rw [Process.step, hprogram, hsame]
    refine ⟨huncertain, ?_⟩
    rintro event ⟨⟩
    rfl

/-! ## Runs -/

theorem events_fail (huncertain : p.uncertain = true) {items : List Item}
    (h : p.AllGuarded c location name items) :
    ∀ event ∈ p.events c location name items, event.ok = false := by
  induction items generalizing p with
  | nil => nofun
  | cons item rest ih =>
    obtain ⟨hafter, hevent⟩ : (p.step c location name item).1.uncertain = true ∧
        ∀ event ∈ (p.step c location name item).2, event.ok = false :=
      step_guarded huncertain h.1
    intro event hmem
    rcases List.mem_append.mp hmem with hfirst | hrest
    · exact hevent event (Option.mem_toList.mp hfirst)
    · exact ih hafter h.2 event hrest

theorem uncertain_of_event {item : Item} {event : Event}
    (h : event ∈ (p.step c location name item).2) (huncertain : event.uncertain = true) :
    (p.step c location name item).1.uncertain = true := by
  cases item with
  | elsewhere change => cases h
  | operation op answers =>
    cases h
    exact huncertain

/-- As long as the operations after a failure reload, and go through handles that noted it,
none of them reports success. -/
theorem events_quarantined {p : Process} {items : List Item}
    (h : p.AllGuarded c location name items) :
    (p.events c location name items).Pairwise fun earlier later =>
      earlier.uncertain = true → later.ok = false := by
  induction items generalizing p with
  | nil => exact .nil
  | cons item rest ih =>
    rw [Process.events, List.pairwise_append]
    refine ⟨?_, ih h.2, fun event hevent later hlater huncertain => ?_⟩
    · cases hitem : (p.step c location name item).2 with
      | none => exact .nil
      | some event => exact List.pairwise_singleton _ _
    · exact events_fail (uncertain_of_event (Option.mem_toList.mp hevent) huncertain) h.2
        later hlater

end Quarantine

/-! ## A second handle, and a second write -/

def failingAt (failing : Nat) (n : Nat) : Answer := ⟨n = failing, ⟨List.replicate 32 1, rfl⟩⟩

def reloadedItems : List Item :=
  [.operation (.openMapStore false) (failingAt 100),
    .operation (.call 0 (.set (utf8 "\x7b\x7d"))) (failingAt 7),
    .operation (.call 0 .load) (failingAt 100)]

def openedProcess : Process :=
  ((Process.mk ∅ []).step clearCipher unmanagedKey (utf8 "settings")
    (.operation (.openMapStore false) (failingAt 100))).1

def failedProcess : Process :=
  (openedProcess.step clearCipher unmanagedKey (utf8 "settings")
    (.operation (.call 0 (.set (utf8 "\x7b\x7d"))) (failingAt 7))).1

theorem allGuarded_reloadedItems :
    (Process.mk ∅ []).AllGuarded clearCipher unmanagedKey (utf8 "settings") reloadedItems := by
  have hopened : openedProcess.uncertain = false := by decide +kernel
  have hnoted : (failedProcess.handles[0]?).map (·.durabilityErr.isSome) = some true := by
    decide +kernel
  obtain ⟨s, hs, hsome⟩ := Option.map_eq_some_iff.mp hnoted
  refine ⟨nofun, fun huncertain => ?_, fun _ => ⟨0, .load, s, rfl, rfl, hs, hsome⟩, trivial⟩
  cases hopened.symm.trans huncertain

theorem events_quarantined_reloaded :
    (Process.mk ∅ []).events clearCipher unmanagedKey (utf8 "settings") reloadedItems =
      [⟨true, false⟩, ⟨false, true⟩, ⟨false, true⟩] ∧
    ((Process.mk ∅ []).events clearCipher unmanagedKey (utf8 "settings") reloadedItems).Pairwise
      fun earlier later => earlier.uncertain = true → later.ok = false :=
  ⟨by decide +kernel, events_quarantined allGuarded_reloadedItems⟩

/-- The same handle writes again, and a second handle loads what may be lost. -/
theorem events_not_quarantined :
    (Process.mk ∅ []).events clearCipher unmanagedKey (utf8 "settings")
        [.operation (.openMapStore false) (failingAt 100),
          .operation (.call 0 (.set (utf8 "\x7b\x7d"))) (failingAt 7),
          .operation (.call 0 (.set (utf8 "\x7b\x7d"))) (failingAt 100),
          .operation (.openMapStore false) (failingAt 100)] =
      [⟨true, false⟩, ⟨false, true⟩, ⟨true, true⟩, ⟨true, true⟩] := by
  decide +kernel

end GateSentry.Storage
