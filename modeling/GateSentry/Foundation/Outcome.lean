import Mathlib.Data.Nat.Bitwise

/-!
# Computations that may fail or panic

A Go function that returns an `error` and may also stop the process with a
run-time panic.  The two ways to fail are kept apart: callers handle the first
and cannot handle the second.
-/

namespace GateSentry.Foundation

inductive Panic where
  | indexOutOfRange
  | sliceOutOfRange
  | typeAssertion
  | nilDereference
  deriving DecidableEq

inductive Fault (ε : Type) where
  | failure (error : ε)
  | panic (reason : Panic)
  deriving DecidableEq

abbrev Outcome (ε α : Type) := Except (Fault ε) α

abbrev Bytes := List UInt8

variable {α β ε : Type} {f : α → Except ε β}

theorem ok_of_bind {x : Except ε α} {result : β} (h : (x >>= f) = .ok result) :
    ∃ value, x = .ok value ∧ f value = .ok result := by
  cases x with
  | error err => cases h
  | ok value => exact ⟨value, rfl, h⟩

theorem eq_ok_of_isSome {α ε : Type} {x : Except ε α} (h : x.toOption.isSome = true)
    (other : α) : x = .ok (x.toOption.getD other) := by
  cases x with
  | error err => cases h
  | ok value => rfl

theorem map_ne_error {x : Except ε α} {err : ε} (h : x ≠ .error err) (f : α → β) :
    x.map f ≠ .error err := by
  cases x with
  | ok value => nofun
  | error other =>
    intro hmap
    cases hmap
    exact h rfl

theorem ok_of_mapError {α ε δ : Type} {f : ε → δ} {result : Except ε α} {value : α}
    (h : result.mapError f = .ok value) : result = .ok value := by
  cases result with
  | error err => cases h
  | ok selected =>
    cases h
    rfl

theorem mapError_bind_ok_iff {α β ε δ : Type} {result : Except ε α} {f : ε → δ}
    {next : α → Except δ β} {value : β} :
    (result.mapError f >>= next) = .ok value ↔ ∃ a, result = .ok a ∧ next a = .ok value := by
  cases result with
  | error err =>
    constructor
    · intro h
      cases h
    · rintro ⟨a, ha, _⟩
      cases ha
  | ok a =>
    constructor
    · intro h
      exact ⟨a, rfl, h⟩
    · rintro ⟨a', ha, h⟩
      cases ha
      exact h

variable {results : List β}

theorem map_eq_of_mapM {items : List α} (h : items.mapM f = .ok results) :
    items.map f = results.map .ok := by
  induction items generalizing results with
  | nil =>
    cases h
    rfl
  | cons item rest ih =>
    rw [List.mapM_cons] at h
    obtain ⟨first, hfirst, h⟩ := ok_of_bind h
    obtain ⟨others, hothers, h⟩ := ok_of_bind h
    cases h
    rw [List.map_cons, List.map_cons, hfirst, ih hothers]

theorem exists_of_mem_mapM {items : List α} (h : items.mapM f = .ok results) {result : β}
    (hmem : result ∈ results) : ∃ item ∈ items, f item = .ok result := by
  rw [← List.mem_map, map_eq_of_mapM h]
  exact List.mem_map_of_mem hmem

variable {σ α ε : Type}

theorem holds_of_foldlM {step : σ → α → Except ε σ} (holds : σ → Prop) {items : List α}
    (hstep : ∀ a ∈ items, ∀ s s', holds s → step s a = .ok s' → holds s') {s s' : σ}
    (hs : holds s) (h : items.foldlM step s = .ok s') : holds s' := by
  induction items generalizing s with
  | nil =>
    cases h
    exact hs
  | cons item rest ih =>
    obtain ⟨next, hnext, hrest⟩ := ok_of_bind h
    rw [List.forall_mem_cons] at hstep
    exact ih hstep.2 (hstep.1 s next hs hnext) hrest

theorem eq_foldl_of_foldlM {step : σ → α → Except ε σ} {plain : σ → α → σ}
    (hstep : ∀ s a s', step s a = .ok s' → s' = plain s a) {items : List α} {s s' : σ}
    (h : items.foldlM step s = .ok s') : s' = items.foldl plain s := by
  induction items generalizing s with
  | nil =>
    cases h
    rfl
  | cons item rest ih =>
    obtain ⟨next, hnext, hrest⟩ := ok_of_bind h
    rw [List.foldl_cons, ← hstep s item next hnext]
    exact ih hrest

namespace Outcome

variable {ε α β : Type}

def fail (error : ε) : Outcome ε α := .error (.failure error)

def panicked (reason : Panic) : Outcome ε α := .error (.panic reason)

def Panics (x : Outcome ε α) : Prop := ∃ reason, x = panicked reason

instance (x : Outcome ε α) : Decidable (Panics x) :=
  match x with
  | .ok _ => .isFalse (fun h => by obtain ⟨_, h⟩ := h; cases h)
  | .error (.failure _) => .isFalse (fun h => by obtain ⟨_, h⟩ := h; cases h)
  | .error (.panic reason) => .isTrue ⟨reason, rfl⟩

@[simp] theorem ok_bind (a : α) (f : α → Outcome ε β) :
    (Except.ok a >>= f : Outcome ε β) = f a := rfl

@[simp] theorem fail_bind (error : ε) (f : α → Outcome ε β) :
    (fail error >>= f : Outcome ε β) = fail error := rfl

@[simp] theorem panicked_bind (reason : Panic) (f : α → Outcome ε β) :
    (panicked reason >>= f : Outcome ε β) = panicked reason := rfl

@[simp] theorem panicked_map (f : α → β) (reason : Panic) :
    (f <$> panicked reason : Outcome ε β) = panicked reason := rfl

@[simp] theorem not_panics_ok (a : α) : ¬ Panics (.ok a : Outcome ε α) := by
  rintro ⟨_, h⟩
  cases h

@[simp] theorem not_panics_pure (a : α) : ¬ Panics (pure a : Outcome ε α) :=
  not_panics_ok a

@[simp] theorem not_panics_fail (error : ε) : ¬ Panics (fail error : Outcome ε α) := by
  rintro ⟨_, h⟩
  cases h

@[simp] theorem panics_panicked (reason : Panic) :
    Panics (panicked reason : Outcome ε α) := ⟨reason, rfl⟩

theorem not_panics_iff_returns (x : Outcome ε α) :
    ¬ Panics x ↔ (∃ a, x = .ok a) ∨ ∃ error, x = fail error := by
  cases x with
  | ok a => simp
  | error fault =>
    cases fault with
    | failure error => exact iff_of_true (not_panics_fail error) (.inr ⟨error, rfl⟩)
    | panic reason =>
      refine iff_of_false (fun h => h (panics_panicked reason)) ?_
      rintro (⟨_, h⟩ | ⟨_, h⟩) <;> cases h

theorem panics_bind_iff (x : Outcome ε α) (f : α → Outcome ε β) :
    Panics (x >>= f) ↔ Panics x ∨ ∃ a, x = .ok a ∧ Panics (f a) := by
  cases x with
  | ok a => simp
  | error fault =>
    cases fault with
    | failure error =>
      change Panics (fail error >>= f) ↔ Panics (fail error) ∨ _
      simp
    | panic reason =>
      change Panics (panicked reason >>= f) ↔ Panics (panicked reason) ∨ _
      simp

structure Decides (x : Outcome ε α) (good bad : Prop) : Prop where
  ok_iff : (∃ a, x = .ok a) ↔ good
  panics_iff : Panics x ↔ bad

variable {x : Outcome ε α} {good bad : Prop}

theorem Decides.of_ok {a : α} (h : x = .ok a) (hgood : good) (hbad : ¬ bad) :
    Decides x good bad := by
  subst h
  exact ⟨⟨fun _ => hgood, fun _ => ⟨a, rfl⟩⟩, by simpa using hbad⟩

theorem Decides.of_fail (error : ε) (h : x = fail error) (hgood : ¬ good) (hbad : ¬ bad) :
    Decides x good bad := by
  subst h
  exact ⟨by simpa [fail] using hgood, by simpa using hbad⟩

theorem Decides.bind_pure (h : Decides x good bad) (f : α → β) :
    Decides (x >>= fun a => pure (f a)) good bad := by
  constructor
  · rw [← h.ok_iff]
    cases x <;> simp [bind, Except.bind, pure, Except.pure]
  · rw [panics_bind_iff, h.panics_iff]
    simp

end Outcome

/-! ## Slices -/

namespace Slice

variable {ε α : Type}

def index (xs : List α) (i : Nat) : Outcome ε α :=
  match xs[i]? with
  | some a => .ok a
  | none => Outcome.panicked .indexOutOfRange

def sliceFrom (xs : List α) (low : Nat) : Outcome ε (List α) :=
  if low ≤ xs.length then .ok (xs.drop low)
  else Outcome.panicked .sliceOutOfRange

def sliceTo (xs : List α) (high : Nat) : Outcome ε (List α) :=
  if high ≤ xs.length then .ok (xs.take high)
  else Outcome.panicked .sliceOutOfRange

/-- `xs[low:high]` of a slice without spare capacity. -/
def slice (xs : List α) (low high : Nat) : Outcome ε (List α) :=
  if low ≤ high ∧ high ≤ xs.length then .ok ((xs.take high).drop low)
  else Outcome.panicked .sliceOutOfRange

@[simp] theorem index_cons_zero (a : α) (rest : List α) :
    (index (a :: rest) 0 : Outcome ε α) = .ok a := rfl

@[simp] theorem index_cons_succ (a : α) (rest : List α) (i : Nat) :
    (index (a :: rest) (i + 1) : Outcome ε α) = index rest i := rfl

variable {xs : List α}

theorem index_of_lt {i : Nat} (h : i < xs.length) : (index xs i : Outcome ε α) = .ok (xs[i]) := by
  simp [index, h]

theorem index_of_le {i : Nat} (h : xs.length ≤ i) :
    (index xs i : Outcome ε α) = Outcome.panicked .indexOutOfRange := by
  simp [index, List.getElem?_eq_none h]

theorem sliceFrom_of_le {low : Nat} (h : low ≤ xs.length) :
    (sliceFrom xs low : Outcome ε (List α)) = .ok (xs.drop low) := by
  simp [sliceFrom, h]

theorem sliceFrom_of_lt {low : Nat} (h : xs.length < low) :
    (sliceFrom xs low : Outcome ε (List α)) = Outcome.panicked .sliceOutOfRange := by
  simp [sliceFrom, Nat.not_le.mpr h]

theorem sliceTo_of_le {high : Nat} (h : high ≤ xs.length) :
    (sliceTo xs high : Outcome ε (List α)) = .ok (xs.take high) := by
  simp [sliceTo, h]

end Slice

/-! ## Big-endian numbers -/

def bigEndian16 (high low : UInt8) : Nat := high.toNat <<< 8 ||| low.toNat

def bigEndian24 (a b c : UInt8) : Nat :=
  a.toNat <<< 16 ||| b.toNat <<< 8 ||| c.toNat

end GateSentry.Foundation
