import GateSentry.Foundation.StringObject
import GateSentry.Storage.RoundTrip

/-!
# Map stores

Transactions over a store whose payload is a map of strings.  Whatever step fails, the file
and the memory of the handle agree on the old values or on the new ones.
-/

namespace GateSentry.Storage

open Foundation ByteText

abbrev Values := Dict Bytes Bytes

def parseMap (data : Bytes) : Option Values :=
  if data.isEmpty then some ∅
  else (StringObject.parse data).map fun entries => Dict.assign (StringObject.entryBytes entries) ∅

def listed (values : Values) : List (Bytes × Bytes) := values.entries.map fun e => (e.1, e.2)

/-- `json.Marshal` of a map, which sorts the keys. -/
def marshalMap (values : Values) : Bytes :=
  StringObject.encode ((listed values).mergeSort fun a b => decide (a.1 ≤ b.1))

inductive MapError where
  | store (err : StoreError)
  | parse
  | callback
  deriving DecidableEq

/-! ## Transactions -/

inductive MapUpdate where
  | updateValue (key : Bytes) (update : Bytes → Option Bytes)
  | updateValues (updates : Values)
  | updateMap (update : Values → Option Values)
  | setDefault (key value : Bytes)
  | replaceAll (values : Values)

namespace MapUpdate

def replacement (original : Bytes) (values : Values) : MapUpdate → Except MapError (Option Bytes)
  | .updateValue key update =>
    match update ((values.lookup key).getD []) with
    | none => .error .callback
    | some next =>
      if values.lookup key = some next then .ok none
      else .ok (some (marshalMap (values.insert key next)))
  | .updateValues updates => .ok (some (marshalMap (Dict.assign (listed updates) values)))
  | .updateMap update =>
    match update values with
    | none => .error .callback
    | some next =>
      let data := marshalMap next
      if data = original then .ok none else .ok (some data)
  | .setDefault key value =>
    if key ∈ values then .ok none else .ok (some (marshalMap (values.insert key value)))
  | .replaceAll next => .ok (some (marshalMap next))

end MapUpdate

section Transactions

variable (c : Cipher) (location : KeyLocation)

/-- An update of a map store.  A load that succeeds leaves no error behind, so that the
`Err` of the handle is not asked again. -/
def Store.update (m : Store) (op : MapUpdate) : Files (Store × Option MapError) := do
  match ← m.loadLocked c location with
  | (m, some err) => return (m, some (.store err))
  | (m, none) =>
    match parseMap m.data with
    | none => return (m, some .parse)
    | some values =>
      match op.replacement m.data values with
      | .error err => return (m, some err)
      | .ok none => return (m, none)
      | .ok (some data) =>
        let (m, err) ← m.persistLocked c location data
        return (m, err.map .store)

/-- With the error of a load, `GetE` returns the value of the last snapshot. -/
def Store.getE (m : Store) (key : Bytes) : Files (Store × Bytes × Option MapError) := do
  match ← m.loadLocked c location with
  | (m, some err) =>
    return (m, ((parseMap m.data).bind (·.lookup key)).getD [], some (.store err))
  | (m, none) =>
    match parseMap m.data with
    | none => return (m, [], some .parse)
    | some values => return (m, (values.lookup key).getD [], none)

def Store.snapshot (m : Store) : Files (Store × Except MapError Values) := do
  match ← m.loadLocked c location with
  | (m, some err) => return (m, .error (.store err))
  | (m, none) =>
    match parseMap m.data with
    | none => return (m, .error .parse)
    | some values => return (m, .ok values)

def openMapStore (name : Bytes) (encrypted : Bool) : Files (Store × Option StoreError) :=
  openStore c location name encrypted fun data => (parseMap data).isSome

end Transactions

/-! ## The text of a map -/

def SameValues (a b : Values) : Prop := ∀ key, a.lookup key = b.lookup key

def TextValues (values : Values) : Prop :=
  ∀ key value, values.lookup key = some value → ValidUTF8 key ∧ ValidUTF8 value

theorem mem_listed {values : Values} {key value : Bytes} :
    (key, value) ∈ listed values ↔ values.lookup key = some value := by
  rw [← Option.mem_def, AList.mem_lookup_iff, listed, List.mem_map]
  constructor
  · rintro ⟨entry, hentry, heq⟩
    cases heq
    exact hentry
  · intro hentry
    exact ⟨_, hentry, rfl⟩

variable (values : Values)

theorem listed_nodup : ((listed values).map Prod.fst).Nodup := by
  have hkeys : (listed values).map Prod.fst = values.keys := by
    rw [listed, List.map_map]
    rfl
  rw [hkeys]
  exact values.keys_nodup

theorem entryBytes_of_text {entries : List (Bytes × Bytes)}
    (h : ∀ entry ∈ entries, ValidUTF8 entry.1 ∧ ValidUTF8 entry.2) :
    StringObject.entryBytes (entries.map StringObject.validEntry) = entries := by
  rw [StringObject.entryBytes, List.map_map]
  refine (List.map_congr_left fun entry hentry => ?_).trans (List.map_id entries)
  exact Prod.ext (h entry hentry).1 (h entry hentry).2

theorem parseMap_marshalMap :
    parseMap (marshalMap values) = some (Dict.assign (StringObject.entryBytes
      (((listed values).mergeSort fun a b => decide (a.1 ≤ b.1)).map StringObject.validEntry))
      ∅) := by
  rw [parseMap, marshalMap, StringObject.parse_encode]
  rfl

theorem sameValues_marshalMap_iff :
    (∃ read, parseMap (marshalMap values) = some read ∧ SameValues read values) ↔
      TextValues values := by
  rw [parseMap_marshalMap]
  simp only [Option.some.injEq, exists_eq_left']
  have hmem {entry : Bytes × Bytes} :
      entry ∈ (listed values).mergeSort (fun a b => decide (a.1 ≤ b.1)) ↔
        values.lookup entry.1 = some entry.2 := by
    rw [List.mem_mergeSort, mem_listed]
  constructor
  · intro hsame key value hvalue
    rw [← hsame key] at hvalue
    obtain ⟨entry, _, heq⟩ := Dict.exists_of_lookup_assign hvalue
    cases heq
    exact ⟨entry.1.2, entry.2.2⟩
  · intro htext key
    rw [entryBytes_of_text fun entry hentry => htext _ _ (hmem.mp hentry)]
    cases hvalue : values.lookup key with
    | some value =>
      apply Dict.lookup_assign_of_mem
      · exact ((List.mergeSort_perm _ _).map _).nodup_iff.mpr (listed_nodup values)
      · exact hmem.mpr hvalue
    | none =>
      rw [AList.lookup_eq_none, Dict.mem_assign]
      rintro (hempty | hkey)
      · cases hempty
      · obtain ⟨entry, hentry, rfl⟩ := List.mem_map.mp hkey
        cases hvalue.symm.trans (hmem.mp hentry)

theorem textValues_of_parseMap {data : Bytes} {values : Values}
    (h : parseMap data = some values) : TextValues values := by
  intro key value hvalue
  unfold parseMap at h
  split at h
  · cases h
    cases hvalue
  · obtain ⟨entries, hentries, rfl⟩ := Option.map_eq_some_iff.mp h
    obtain ⟨entry, -, heq⟩ := Dict.exists_of_lookup_assign hvalue
    cases heq
    exact ⟨entry.1.2, entry.2.2⟩

/-! ## What an update is for -/

namespace MapUpdate

def next (values : Values) : MapUpdate → Option Values
  | .updateValue key update =>
    (update ((values.lookup key).getD [])).map fun value => values.insert key value
  | .updateValues updates => some (Dict.assign (listed updates) values)
  | .updateMap update => update values
  | .setDefault key value => some (if key ∈ values then values else values.insert key value)
  | .replaceAll next => some next

variable {op : MapUpdate} {original : Bytes} {values : Values}

variable (op original values) in
theorem replacement_spec :
    match op.replacement original values with
    | .error _ => op.next values = none
    | .ok none =>
      ∃ new, op.next values = some new ∧ (SameValues values new ∨ marshalMap new = original)
    | .ok (some data) => ∃ new, op.next values = some new ∧ data = marshalMap new := by
  cases op with
  | updateValue key update =>
    rw [replacement, next]
    cases update ((values.lookup key).getD []) with
    | none => rfl
    | some value =>
      by_cases hsame : values.lookup key = some value
      · simp only [if_pos hsame]
        refine ⟨_, rfl, .inl fun other => ?_⟩
        by_cases hother : other = key
        · rw [hother, hsame, AList.lookup_insert]
        · rw [AList.lookup_insert_ne hother]
      · simp only [if_neg hsame]
        exact ⟨_, rfl, rfl⟩
  | updateValues updates => exact ⟨_, rfl, rfl⟩
  | updateMap update =>
    rw [replacement, next]
    cases update values with
    | none => rfl
    | some new =>
      by_cases hsame : marshalMap new = original
      · simp only [if_pos hsame]
        exact ⟨new, rfl, .inr hsame⟩
      · simp only [if_neg hsame]
        exact ⟨new, rfl, rfl⟩
  | setDefault key value =>
    rw [replacement, next]
    by_cases hmem : key ∈ values
    · simp only [if_pos hmem]
      exact ⟨values, rfl, .inl fun _ => rfl⟩
    · simp only [if_neg hmem]
      exact ⟨_, rfl, rfl⟩
  | replaceAll new => exact ⟨new, rfl, rfl⟩

theorem next_of_error {err : MapError} (h : op.replacement original values = .error err) :
    op.next values = none := by
  simpa only [h] using replacement_spec op original values

theorem next_of_keeps (h : op.replacement original values = .ok none) :
    ∃ new, op.next values = some new ∧ (SameValues values new ∨ marshalMap new = original) := by
  simpa only [h] using replacement_spec op original values

theorem next_of_writes {data : Bytes} (h : op.replacement original values = .ok (some data)) :
    ∃ new, op.next values = some new ∧ data = marshalMap new := by
  simpa only [h] using replacement_spec op original values

end MapUpdate

end GateSentry.Storage
