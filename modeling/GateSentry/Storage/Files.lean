import GateSentry.Foundation.Dict
import GateSentry.Foundation.Interruption
import GateSentry.Foundation.StringObject

/-!
# Files of the data directory

The files as their readers see them, and the two ways to replace one: `atomicWrite` and
`atomicCreate`.  Every step may fail, and the process may stop after every step.
-/

namespace GateSentry.Storage

open Foundation ByteText

def keySize : Nat := 32

abbrev Key := { bytes : Bytes // bytes.length = keySize }

/-! ## Contents -/

/-- A file is an object of JSON with string fields, and maybe a list of previous keys, or
it is none. -/
inductive Content where
  | bytes (text : Bytes)
  | object (fields : List (Bytes × Bytes)) (previous : Option (List Bytes))
  deriving DecidableEq

namespace Content

open StringObject (quote separated)

def text : Content → Bytes
  | .bytes text => text
  | .object fields previous =>
    let strings := fields.map fun field => quote field.1 ++ 58 :: quote field.2
    let list := previous.toList.map fun keys =>
      quote (utf8 "previous") ++ 58 :: 91 :: separated (keys.map quote) ++ [93]
    123 :: separated (strings ++ list) ++ [125]

end Content

abbrev Disk := Dict Bytes Content

/-! ## Steps -/

structure Answer where
  fails : Bool
  random : Key

abbrev Files := Proc Answer Disk

inductive FileStep where
  | createTemporary
  | permissions
  | write
  | sync
  | close
  | rename
  | publish
  | removePublished
  | openDirectory
  | syncDirectory
  | closeDirectory
  | cleanTemporary
  deriving DecidableEq

def attempt : Files Bool := Proc.look fun answer _ => !answer.fails

def readFile (path : Bytes) : Files (Except Unit (Option Content)) :=
  Proc.look fun answer disk => if answer.fails then .error () else .ok (disk.lookup path)

def closeTemporary (closed : Bool) : Files Bool := if closed then pure true else attempt

def discardTemporary (closed : Bool) (errors : List FileStep) : Files (List FileStep) := do
  let closes ← closeTemporary closed
  let removes ← attempt
  let errors := if closes then errors else errors ++ [.close]
  return if removes then errors else errors ++ [.cleanTemporary]

def renameFile (path : Bytes) (content : Content) : Files Bool :=
  let fails (answer : Answer) : Bool := answer.fails || path.isEmpty
  Proc.step (fun answer disk => if fails answer then disk else disk.insert path content)
    fun answer _ => !fails answer

def linkFile (path : Bytes) (content : Content) : Files (Except Unit Bool) :=
  Proc.step
    (fun answer disk =>
      if answer.fails ∨ path ∈ disk then disk else disk.insert path content)
    fun answer disk => if answer.fails then .error () else .ok (path ∉ disk)

def writeTemporary : Files (Option (List FileStep)) := do
  if !(← attempt) then return some [.createTemporary]
  if !(← attempt) then return some (← discardTemporary false [.permissions])
  if !(← attempt) then return some (← discardTemporary false [.write])
  if !(← attempt) then return some (← discardTemporary false [.sync])
  if !(← attempt) then return some (← discardTemporary true [.close])
  return none

/-- The directory after the file is in place, and the errors.  One of the writers ignores
that a directory which is not synced cannot be closed. -/
def syncDirectory (joinsClose : Bool) : Files (List FileStep) := do
  if !(← attempt) then return [.openDirectory]
  if !(← attempt) then
    let closes ← attempt
    return if closes || !joinsClose then [.syncDirectory]
      else [.syncDirectory, .closeDirectory]
  if !(← attempt) then return [.closeDirectory]
  return []

def atomicWrite (path : Bytes) (content : Content) : Files (Bool × List FileStep) := do
  if let some errors ← writeTemporary then return (false, errors)
  if !(← renameFile path content) then return (false, ← discardTemporary true [.rename])
  let errors ← syncDirectory true
  return (true, ← discardTemporary true errors)

structure Creation where
  created : Bool
  committed : Bool
  errors : List FileStep

def atomicCreate (path : Bytes) (content : Content) : Files Creation := do
  if let some errors ← writeTemporary then return ⟨false, false, errors⟩
  match ← linkFile path content with
  | .error _ => return ⟨false, false, ← discardTemporary true [.publish]⟩
  | .ok false => return ⟨false, false, ← discardTemporary true []⟩
  | .ok true =>
    if !(← attempt) then return ⟨true, true, ← discardTemporary true [.removePublished]⟩
    let errors ← syncDirectory false
    return ⟨true, true, ← discardTemporary true errors⟩

/-! ## What the writers do -/

theorem yields_attempt : attempt.Yields fun _ => True := Proc.yields_look _

theorem yields_unless {α : Type} {failed next : Files α} {good : α → Prop}
    (hfailed : failed.Yields good) (hnext : next.Yields good) :
    (do if !(← attempt) then failed else next : Files α).Yields good := by
  apply Proc.yields_bind yields_attempt
  intro succeeds _
  exact Proc.yields_ite hfailed hnext

theorem yields_discardTemporary (closed : Bool) (errors : List FileStep) :
    (discardTemporary closed errors).Yields fun after => errors ≠ [] → after ≠ [] := by
  have hclosed : (closeTemporary closed).Yields fun _ => True :=
    Proc.yields_ite (Proc.yields_pure trivial) yields_attempt
  apply Proc.yields_bind hclosed
  intro closes _
  apply Proc.yields_bind yields_attempt
  intro removes _
  apply Proc.yields_pure
  intro herrors
  cases closes <;> cases removes <;> simp [herrors]

theorem yields_writeTemporary :
    writeTemporary.Yields fun failed => ∀ errors, failed = some errors → errors ≠ [] := by
  have hdiscarded (closed : Bool) (step : FileStep) :
      (do return some (← discardTemporary closed [step]) : Files _).Yields
        fun failed => ∀ errors, failed = some errors → errors ≠ [] := by
    apply Proc.yields_bind (yields_discardTemporary closed [step])
    intro after hafter
    apply Proc.yields_pure
    intro errors herrors
    cases herrors
    exact hafter (List.cons_ne_nil _ _)
  apply yields_unless
  · apply Proc.yields_pure
    intro errors herrors
    cases herrors
    exact List.cons_ne_nil _ _
  · apply yields_unless (hdiscarded _ _)
    apply yields_unless (hdiscarded _ _)
    apply yields_unless (hdiscarded _ _)
    apply yields_unless (hdiscarded _ _)
    apply Proc.yields_pure
    intro errors herrors
    cases herrors

theorem yields_syncDirectory (joinsClose : Bool) :
    (syncDirectory joinsClose).Yields fun _ => True := by
  apply yields_unless (Proc.yields_pure trivial)
  apply yields_unless
  · exact Proc.yields_bind yields_attempt fun _ _ => Proc.yields_pure trivial
  · exact yields_unless (Proc.yields_pure trivial) (Proc.yields_pure trivial)

section Writers

variable {inv : Disk → Prop} {disk : Disk} {path : Bytes} {content : Content}

theorem ensures_atomicWrite {post : Bool × List FileStep → Disk → Prop} (hinv : inv disk)
    (hwritten : path ≠ [] → inv (disk.insert path content))
    (hfailed : ∀ errors, errors ≠ [] → post (false, errors) disk)
    (hcommitted : path ≠ [] → ∀ errors, post (true, errors) (disk.insert path content)) :
    (atomicWrite path content).Ensures inv post disk := by
  refine Proc.ensures_bind (yields_writeTemporary hinv fun temporary htemporary => ?_)
  cases temporary with
  | some errors => exact Proc.ensures_pure hinv (hfailed errors (htemporary errors rfl))
  | none =>
    refine Proc.ensures_bind (Proc.ensures_step hinv fun answer => ?_)
    by_cases hfails : (answer.fails || path.isEmpty) = true
    · simp only [hfails]
      refine ⟨hinv, Proc.ensures_bind (yields_discardTemporary _ _ hinv fun errors herrors => ?_)⟩
      exact Proc.ensures_pure hinv (hfailed errors (herrors (List.cons_ne_nil _ _)))
    · have hpath : path ≠ [] := by
        rintro rfl
        simp at hfails
      have hnew := hwritten hpath
      simp only [hfails]
      refine ⟨hnew, Proc.ensures_bind (yields_syncDirectory _ hnew fun errors _ => ?_)⟩
      exact Proc.ensures_bind (yields_discardTemporary _ _ hnew fun errors _ =>
        Proc.ensures_pure hnew (hcommitted hpath errors))

theorem ensures_atomicCreate {post : Creation → Disk → Prop} (hinv : inv disk)
    (hwritten : path ∉ disk → inv (disk.insert path content))
    (hkept : ∀ errors, post ⟨false, false, errors⟩ disk)
    (hcreated : path ∉ disk → ∀ errors, post ⟨true, true, errors⟩ (disk.insert path content)) :
    (atomicCreate path content).Ensures inv post disk := by
  have hdiscarded (steps : List FileStep) :
      (do return ⟨false, false, ← discardTemporary true steps⟩ : Files Creation).Ensures
        inv post disk :=
    Proc.ensures_bind (yields_discardTemporary _ _ hinv fun errors _ =>
      Proc.ensures_pure hinv (hkept errors))
  refine Proc.ensures_bind (yields_writeTemporary hinv fun temporary _ => ?_)
  cases temporary with
  | some errors => exact Proc.ensures_pure hinv (hkept errors)
  | none =>
    refine Proc.ensures_bind (Proc.ensures_step hinv fun answer => ?_)
    by_cases hfails : answer.fails = true
    · simp only [hfails]
      exact ⟨hinv, hdiscarded _⟩
    · by_cases hmem : path ∈ disk
      · simp only [hfails, hmem]
        exact ⟨hinv, hdiscarded _⟩
      · simp only [hfails, hmem]
        have hnew := hwritten hmem
        have hpublished (steps : List FileStep) :
            (do return ⟨true, true, ← discardTemporary true steps⟩ : Files Creation).Ensures
              inv post (disk.insert path content) :=
          Proc.ensures_bind (yields_discardTemporary _ _ hnew fun errors _ =>
            Proc.ensures_pure hnew (hcreated hmem errors))
        refine ⟨hnew, Proc.ensures_bind (yields_attempt hnew fun removed _ => ?_)⟩
        cases removed with
        | false => exact hpublished _
        | true =>
          exact Proc.ensures_bind (yields_syncDirectory _ hnew fun errors _ =>
            hpublished errors)

end Writers

end GateSentry.Storage
