import Mathlib.Data.List.Basic

/-!
# Folds

A property that a fold either keeps at every item, or loses for good, one that every step
keeps, and the fold that collects items once.
-/

namespace GateSentry.Foundation

variable {σ α : Type} {step : σ → α → σ} {meets : σ → α → Prop} {holds lost : σ → Prop}

def EachMeets (step : σ → α → σ) (meets : σ → α → Prop) : σ → List α → Prop
  | _, [] => True
  | s, a :: rest => meets s a ∧ EachMeets step meets (step s a) rest

theorem eachMeets_of_forall {items : List α} (h : ∀ s, ∀ a ∈ items, meets s a) (s : σ) :
    EachMeets step meets s items := by
  induction items generalizing s with
  | nil => trivial
  | cons a rest ih =>
    refine ⟨h s a (by simp), ih (fun s b hb => h s b ?_) _⟩
    exact List.mem_cons_of_mem a hb

theorem foldl_kept_or_lost (hkept : ∀ s a, holds s → meets s a → holds (step s a))
    (hbroken : ∀ s a, holds s → ¬ meets s a → lost (step s a))
    (hlost : ∀ s a, lost s → lost (step s a)) {s : σ} (hs : holds s) (items : List α) :
    (EachMeets step meets s items ∧ holds (items.foldl step s)) ∨
      (¬ EachMeets step meets s items ∧ lost (items.foldl step s)) := by
  induction items generalizing s with
  | nil => exact .inl ⟨trivial, hs⟩
  | cons a rest ih =>
    by_cases hmeets : meets s a
    · rcases ih (hkept s a hs hmeets) with ⟨hrest, hholds⟩ | ⟨hrest, hfinal⟩
      · exact .inl ⟨⟨hmeets, hrest⟩, hholds⟩
      · exact .inr ⟨fun heach => hrest heach.2, hfinal⟩
    · refine .inr ⟨fun heach => hmeets heach.1, ?_⟩
      exact List.foldlRecOn rest step (hbroken s a hs hmeets) fun s hs b _ => hlost s b hs

variable {next : σ → α → Option σ}

theorem foldlM_holds {items : List α}
    (hnext : ∀ a ∈ items, ∀ s s', holds s → next s a = some s' → holds s') {s s' : σ}
    (hs : holds s) (h : items.foldlM next s = some s') : holds s' := by
  induction items generalizing s with
  | nil =>
    cases h
    exact hs
  | cons a rest ih =>
    obtain ⟨middle, hmiddle, h⟩ := Option.bind_eq_some_iff.mp h
    rw [List.forall_mem_cons] at hnext
    exact ih hnext.2 (hnext.1 s middle hs hmiddle) h

theorem isSome_foldlM {fits : α → Prop} (hnext : ∀ a s, (next s a).isSome = true ↔ fits a)
    {items : List α} (s : σ) :
    (items.foldlM next s).isSome = true ↔ ∀ a ∈ items, fits a := by
  induction items generalizing s with
  | nil => simp
  | cons a rest ih =>
    rw [List.foldlM_cons, List.forall_mem_cons, ← hnext a s]
    cases next s a with
    | none => simp
    | some middle => simpa using ih middle

theorem isSome_mapM {f : α → Option σ} {fits : α → Prop}
    (hf : ∀ a, (f a).isSome = true ↔ fits a) {items : List α} :
    (items.mapM f).isSome = true ↔ ∀ a ∈ items, fits a := by
  induction items with
  | nil => simp
  | cons a rest ih =>
    rw [List.mapM_cons, List.forall_mem_cons, ← hf a, ← ih]
    cases f a with
    | none => simp
    | some b => cases rest.mapM f <;> simp

theorem foldlM_related {τ : Type} {next' : τ → α → Option τ} {related : σ → τ → Prop}
    {items : List α}
    (hnext : ∀ a ∈ items, ∀ s t s' t', related s t → next s a = some s' → next' t a = some t' →
      related s' t') {s s' : σ} {t t' : τ} (hs : related s t) (h : items.foldlM next s = some s')
    (h' : items.foldlM next' t = some t') : related s' t' := by
  induction items generalizing s t with
  | nil =>
    cases h
    cases h'
    exact hs
  | cons a rest ih =>
    obtain ⟨middle, hmiddle, h⟩ := Option.bind_eq_some_iff.mp h
    obtain ⟨middle', hmiddle', h'⟩ := Option.bind_eq_some_iff.mp h'
    rw [List.forall_mem_cons] at hnext
    exact ih hnext.2 (hnext.1 s t middle middle' hs hmiddle hmiddle') h h'

/-! ## Items collected once -/

def appendUnique {α : Type} [DecidableEq α] (items : List α) (candidate : α) : List α :=
  if candidate ∈ items then items else items ++ [candidate]

theorem mem_appendUnique {α : Type} [DecidableEq α] {items : List α} {candidate a : α} :
    a ∈ appendUnique items candidate ↔ a ∈ items ∨ a = candidate := by
  unfold appendUnique
  split
  · next hmem =>
    constructor
    · exact .inl
    · rintro (ha | rfl)
      · exact ha
      · exact hmem
  · simp

theorem mem_foldl_appendUnique {α : Type} [DecidableEq α] {candidates items : List α} {a : α} :
    a ∈ candidates.foldl appendUnique items ↔ a ∈ items ∨ a ∈ candidates := by
  induction candidates generalizing items with
  | nil => simp
  | cons candidate rest ih => rw [List.foldl_cons, ih, mem_appendUnique, List.mem_cons, or_assoc]

end GateSentry.Foundation
