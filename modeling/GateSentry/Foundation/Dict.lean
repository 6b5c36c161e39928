import Mathlib.Data.List.AList

/-!
# Finite maps

A Go map is an association list with distinct keys.  The order of the entries
stands for one order in which a `range` may visit them.
-/

namespace GateSentry.Foundation

abbrev Dict (key value : Type) := AList fun _ : key => value

namespace Dict

variable {key value : Type} [DecidableEq key]

/-- Equality that can be evaluated, which that of `AList` cannot. -/
instance [DecidableEq value] : DecidableEq (Dict key value) := fun a b =>
  decidable_of_iff (a.entries = b.entries) AList.ext_iff.symm

variable {dict : Dict key value} {k : key}

theorem mem_iff_lookup : k ∈ dict ↔ ∃ v, dict.lookup k = some v := by
  rw [← AList.lookup_isSome, Option.isSome_iff_exists]

variable {v : value}

theorem mem_values_iff : v ∈ dict.entries.map (·.2) ↔ ∃ k, dict.lookup k = some v := by
  rw [List.mem_map]
  constructor
  · rintro ⟨⟨k, same⟩, hentry, rfl⟩
    exact ⟨k, AList.mem_lookup_iff.mpr hentry⟩
  · rintro ⟨k, hlookup⟩
    exact ⟨⟨k, v⟩, AList.mem_lookup_iff.mp hlookup, rfl⟩

theorem lookup_of_erase {erased : key}
    (h : (dict.erase erased).lookup k = some v) : dict.lookup k = some v := by
  by_cases hkey : k = erased
  · subst hkey
    rw [AList.lookup_erase] at h
    cases h
  · rwa [AList.lookup_erase_ne hkey] at h

theorem lookup_of_insert {inserted : key} {new : value}
    (h : (dict.insert inserted new).lookup k = some v) :
    (k = inserted ∧ v = new) ∨ (k ≠ inserted ∧ dict.lookup k = some v) := by
  by_cases hkey : k = inserted
  · subst hkey
    rw [AList.lookup_insert] at h
    exact .inl ⟨rfl, (Option.some.inj h).symm⟩
  · rw [AList.lookup_insert_ne hkey] at h
    exact .inr ⟨hkey, h⟩

def assign (entries : List (key × value)) (dict : Dict key value) : Dict key value :=
  entries.foldl (fun dict entry => dict.insert entry.1 entry.2) dict

theorem mem_assign (entries : List (key × value)) (dict : Dict key value) (k : key) :
    k ∈ assign entries dict ↔ k ∈ dict ∨ k ∈ entries.map Prod.fst := by
  induction entries generalizing dict with
  | nil => simp [assign]
  | cons entry rest ih =>
    have hstep : assign (entry :: rest) dict = assign rest (dict.insert entry.1 entry.2) := rfl
    rw [hstep, ih, AList.mem_insert, List.map_cons, List.mem_cons, or_comm (a := k = entry.1),
      or_assoc]

variable {entries : List (key × value)}

theorem lookup_assign (h : (assign entries dict).lookup k = some v) :
    dict.lookup k = some v ∨ (k, v) ∈ entries := by
  induction entries generalizing dict with
  | nil => exact .inl h
  | cons entry rest ih =>
    rcases ih h with hinserted | hrest
    · rcases lookup_of_insert hinserted with ⟨rfl, rfl⟩ | ⟨-, hdict⟩
      · exact .inr (by simp)
      · exact .inl hdict
    · exact .inr (by simp [hrest])

theorem exists_of_lookup_assign {α : Type} {items : List α} {f : α → key × value}
    (h : (assign (items.map f) ∅).lookup k = some v) : ∃ item ∈ items, f item = (k, v) := by
  rcases lookup_assign h with hempty | hentry
  · cases hempty
  · exact List.mem_map.mp hentry

theorem lookup_assign_of_mem (hnodup : (entries.map Prod.fst).Nodup)
    (h : (k, v) ∈ entries) : (assign entries dict).lookup k = some v := by
  induction entries generalizing dict with
  | nil => cases h
  | cons entry rest ih =>
    rw [List.map_cons, List.nodup_cons] at hnodup
    have hstep : assign (entry :: rest) dict = assign rest (dict.insert entry.1 entry.2) := rfl
    rw [hstep]
    rcases List.mem_cons.mp h with rfl | hrest
    · have hmem : k ∈ assign rest (dict.insert k v) := by
        rw [mem_assign, AList.mem_insert]
        exact .inl (.inl rfl)
      obtain ⟨found, hfound⟩ := mem_iff_lookup.mp hmem
      rw [hfound]
      rcases lookup_assign hfound with hinserted | hrest
      · rw [AList.lookup_insert] at hinserted
        exact hinserted.symm
      · exact absurd (List.mem_map_of_mem (f := Prod.fst) hrest) hnodup.1
    · exact ih hnodup.2 hrest

theorem lookup_assign_empty (hnodup : (entries.map Prod.fst).Nodup) :
    (assign entries ∅).lookup k = some v ↔ (k, v) ∈ entries := by
  constructor
  · intro hlookup
    rcases lookup_assign hlookup with hempty | hentry
    · cases hempty
    · exact hentry
  · exact lookup_assign_of_mem hnodup

def changeValue (f : value → value) (entry : Sigma fun _ : key => value) :
    Sigma fun _ : key => value :=
  ⟨entry.1, f entry.2⟩

def mapValues (f : value → value) (dict : Dict key value) : Dict key value where
  entries := dict.entries.map (changeValue f)
  nodupKeys := by
    have hkeys : (dict.entries.map (changeValue f)).keys = dict.entries.keys := by
      simp [List.keys, changeValue]
    rw [List.NodupKeys, hkeys]
    exact dict.nodupKeys

theorem lookup_mapValues (f : value → value) (dict : Dict key value) (k : key) :
    (dict.mapValues f).lookup k = (dict.lookup k).map f := by
  change (dict.entries.map (changeValue f)).dlookup k = Option.map f (dict.entries.dlookup k)
  induction dict.entries with
  | nil => rfl
  | cons entry rest ih =>
    obtain ⟨k', v⟩ := entry
    by_cases hkey : k = k'
    · subst hkey
      simp [changeValue]
    · rw [List.map_cons, List.dlookup_cons_ne rest ⟨k', v⟩ hkey,
        List.dlookup_cons_ne _ (changeValue f ⟨k', v⟩) hkey, ih]

/-! ## Maps to lists -/

section Lists

variable {α : Type}

def entriesAt (dict : Dict key (List α)) (k : key) : List α := (dict.lookup k).getD []

def appendAt (dict : Dict key (List α)) (k : key) (values : List α) : Dict key (List α) :=
  if values.isEmpty then dict else dict.insert k (dict.entriesAt k ++ values)

theorem entriesAt_appendAt (dict : Dict key (List α)) (k k' : key) (values : List α) :
    (dict.appendAt k values).entriesAt k' =
      dict.entriesAt k' ++ if k' = k then values else [] := by
  unfold appendAt
  by_cases hempty : values = []
  · simp [hempty]
  · rw [if_neg (by simp [hempty])]
    by_cases hkey : k' = k
    · subst hkey
      simp [entriesAt]
    · simp [entriesAt, hkey]

theorem mem_entriesAt_appendAt (dict : Dict key (List α)) (k k' : key) (values : List α) (x : α) :
    x ∈ (dict.appendAt k values).entriesAt k' ↔
      x ∈ dict.entriesAt k' ∨ (k' = k ∧ x ∈ values) := by
  rw [entriesAt_appendAt]
  by_cases hkey : k' = k <;> simp [hkey]

end Lists

end Dict

/-- The order in which a `range` over values visits them. -/
structure RangeOrder (α : Type) where
  visit : List α → List α
  perm : ∀ items, (visit items).Perm items

def RangeOrder.asListed {α : Type} : RangeOrder α := ⟨id, fun _ => .refl _⟩

def RangeOrder.values {key value : Type} (order : RangeOrder value) (dict : Dict key value) :
    List value :=
  order.visit (dict.entries.map (·.2))

theorem RangeOrder.mem_values_iff {key value : Type} [DecidableEq key] (order : RangeOrder value)
    {dict : Dict key value} {v : value} :
    v ∈ order.values dict ↔ ∃ k, dict.lookup k = some v := by
  rw [values, (order.perm _).mem_iff, Dict.mem_values_iff]

end GateSentry.Foundation
