import GateSentry.Foundation.Outcome

/-!
# Walking over a slice

The loop `for len(data) > 0 { … }` whose body consumes the front of `data`.  A
walk panics exactly when it meets a bad element after a row of good ones.
-/

namespace GateSentry.Foundation

open Outcome

variable {ε σ α : Type}

def walkFor (body : σ → List α → Outcome ε (σ × List α)) : Nat → σ → List α → Outcome ε σ
  | 0, state, _ => .ok state
  | fuel + 1, state, data =>
    if data.isEmpty then .ok state
    else body state data >>= fun next => walkFor body fuel next.1 next.2

/-- `for len(data) > 0 { body }`; a body that consumes something never needs
more rounds than there are elements. -/
def walk (body : σ → List α → Outcome ε (σ × List α)) (state : σ) (data : List α) :
    Outcome ε σ :=
  walkFor body data.length state data

def Consumes (limit : Nat) (body : σ → List α → Outcome ε (σ × List α)) : Prop :=
  ∀ state data next rest, data.length ≤ limit →
    body state data = .ok (next, rest) → data ≠ [] → rest.length < data.length

variable {limit : Nat} {body : σ → List α → Outcome ε (σ × List α)}

theorem walkFor_eq_walk (hbody : Consumes limit body) (fuel : Nat) (state : σ)
    (data : List α) (hlimit : data.length ≤ limit) (hfuel : data.length ≤ fuel) :
    walkFor body fuel state data = walk body state data := by
  induction fuel using Nat.strongRecOn generalizing state data with
  | ind fuel ih =>
    cases data with
    | nil => cases fuel <;> rfl
    | cons a rest =>
      obtain ⟨fuel, rfl⟩ : ∃ k, fuel = k + 1 :=
        ⟨fuel - 1, by simp only [List.length_cons] at hfuel; omega⟩
      simp only [walk, List.length_cons, walkFor]
      cases hround : body state (a :: rest) with
      | error fault => rfl
      | ok next =>
        have hshorter : next.2.length < (a :: rest).length :=
          hbody state (a :: rest) next.1 next.2 hlimit hround (by simp)
        simp only [List.length_cons] at hshorter hfuel hlimit
        simp only [ok_bind]
        rw [ih fuel (by omega) next.1 next.2 (by omega) (by omega),
          ih rest.length (by omega) next.1 next.2 (by omega) (by omega)]

@[simp] theorem walk_nil (state : σ) : walk body state [] = .ok state := rfl

variable {data : List α}

section

variable (hbody : Consumes limit body)

include hbody

theorem walk_of_ne_nil (state : σ) (hlimit : data.length ≤ limit) (h : data ≠ []) :
    walk body state data = body state data >>= fun next => walk body next.1 next.2 := by
  cases data with
  | nil => exact absurd rfl h
  | cons a rest =>
    simp only [walk, List.length_cons, walkFor]
    cases hround : body state (a :: rest) with
    | error fault => rfl
    | ok next =>
      have hshorter : next.2.length < (a :: rest).length :=
        hbody state (a :: rest) next.1 next.2 hlimit hround h
      simp only [List.length_cons] at hshorter hlimit
      exact walkFor_eq_walk hbody _ _ _ (by omega) (by omega)

variable {state final : σ}

theorem walk_rule {p : σ → List α → Prop} (hnil : p final [])
    (hround : ∀ state data next rest, data ≠ [] → data.length ≤ limit →
      body state data = .ok (next, rest) → p next rest → p state data)
    (hlimit : data.length ≤ limit) (h : walk body state data = .ok final) : p state data := by
  induction hlength : data.length using Nat.strongRecOn generalizing state data with
  | ind length ih =>
    by_cases hdata : data = []
    · subst hdata
      cases h
      exact hnil
    · rw [walk_of_ne_nil hbody state hlimit hdata] at h
      cases hnext : body state data with
      | error fault =>
        rw [hnext] at h
        exact nomatch h
      | ok next =>
        have hshorter := hbody state data next.1 next.2 hlimit hnext hdata
        rw [hnext] at h
        exact hround state data next.1 next.2 hdata hlimit hnext
          (ih _ (by omega) (by omega) h rfl)

end

/-! ## When a walk panics and when it completes -/

inductive Complete (good : List α → List α → Prop) : List α → Prop where
  | nil : Complete good []
  | cons {data rest : List α} : good data rest → Complete good rest → Complete good data

inductive After (good : List α → List α → Prop) (bad : List α → Prop) : List α → Prop where
  | here {data : List α} : bad data → After good bad data
  | later {data rest : List α} : good data rest → After good bad rest → After good bad data

/-- What the body of a walk does with the front of at most `limit` elements. -/
structure WalkSpec (limit : Nat) (body : σ → List α → Outcome ε (σ × List α))
    (good : List α → List α → Prop) (bad : List α → Prop) : Prop where
  panics_iff : ∀ state data, data ≠ [] → data.length ≤ limit →
    (Panics (body state data) ↔ bad data)
  ok_iff : ∀ state data rest, data ≠ [] → data.length ≤ limit →
    ((∃ next, body state data = .ok (next, rest)) ↔ good data rest)
  good_shorter : ∀ data rest, good data rest → rest.length < data.length
  bad_ne_nil : ∀ data, bad data → data ≠ []

variable {good : List α → List α → Prop} {bad : List α → Prop}

section

variable (spec : WalkSpec limit body good bad)

include spec

theorem WalkSpec.consumes : Consumes limit body := by
  intro state data next rest hlimit hround hdata
  exact spec.good_shorter data rest
    ((spec.ok_iff state data rest hdata hlimit).mp ⟨next, hround⟩)

theorem WalkSpec.walk_of_good (state : σ) {data rest : List α} (hlimit : data.length ≤ limit)
    (hgood : good data rest) :
    rest.length ≤ limit ∧ ∃ next, walk body state data = walk body next rest := by
  have hshorter := spec.good_shorter _ _ hgood
  have hdata : data ≠ [] := List.ne_nil_of_length_pos (by omega)
  obtain ⟨next, hround⟩ := (spec.ok_iff state data rest hdata hlimit).mpr hgood
  rw [walk_of_ne_nil spec.consumes state hlimit hdata, hround]
  exact ⟨by omega, next, rfl⟩

theorem walk_panics_iff (state : σ) (data : List α) (hlimit : data.length ≤ limit) :
    Panics (walk body state data) ↔ After good bad data := by
  constructor
  · intro hpanics
    induction hlength : data.length using Nat.strongRecOn generalizing state data with
    | ind length ih =>
      by_cases hdata : data = []
      · subst hdata
        exact absurd hpanics (not_panics_ok state)
      · rw [walk_of_ne_nil spec.consumes state hlimit hdata, panics_bind_iff,
          spec.panics_iff state data hdata hlimit] at hpanics
        rcases hpanics with hbad | ⟨⟨next, rest⟩, hround, hrest⟩
        · exact .here hbad
        · have hgood := (spec.ok_iff state data rest hdata hlimit).mp ⟨next, hround⟩
          have hshorter := spec.good_shorter _ _ hgood
          exact .later hgood (ih _ (by omega) next rest (by omega) hrest rfl)
  · intro hafter
    induction hafter generalizing state with
    | here hbad =>
      have hdata := spec.bad_ne_nil _ hbad
      rw [walk_of_ne_nil spec.consumes state hlimit hdata, panics_bind_iff]
      exact .inl ((spec.panics_iff state _ hdata hlimit).mpr hbad)
    | later hgood _ ih =>
      obtain ⟨hrest, next, hwalk⟩ := spec.walk_of_good state hlimit hgood
      rw [hwalk]
      exact ih next hrest

theorem walk_ok_iff (state : σ) (data : List α) (hlimit : data.length ≤ limit) :
    (∃ final, walk body state data = .ok final) ↔ Complete good data := by
  constructor
  · rintro ⟨final, hfinal⟩
    refine walk_rule spec.consumes (p := fun _ => Complete good) .nil ?_ hlimit hfinal
    intro state data next rest hdata hlimit hround hrest
    exact .cons ((spec.ok_iff state data rest hdata hlimit).mp ⟨next, hround⟩) hrest
  · intro hcomplete
    induction hcomplete generalizing state with
    | nil => exact ⟨state, walk_nil state⟩
    | cons hgood _ ih =>
      obtain ⟨hrest, next, hwalk⟩ := spec.walk_of_good state hlimit hgood
      rw [hwalk]
      exact ih next hrest

end

end GateSentry.Foundation
