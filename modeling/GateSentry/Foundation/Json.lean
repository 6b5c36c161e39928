import GateSentry.Foundation.Dict
import GateSentry.Foundation.Folds
import GateSentry.Foundation.StringObject

/-!
# JSON

The values that `encoding/json` reads, and how it stores them into typed ones.  A decoder gets
the value that is there already: what a text does not mention stays, and of two members with
one name the second is read on top of the first.
-/

namespace GateSentry.Foundation

open ByteText

inductive Json where
  | null
  | bool (value : Bool)
  | number (literal : Bytes)
  | string (literal : Bytes)
  | array (items : List Json)
  | object (members : List (Text × Json))

namespace Json

open StringObject (skipSpace scanString joinPieces)

/-! ## Texts -/

def scanDigits (text : Bytes) : Option (Bytes × Bytes) :=
  match text.takeWhile isDigit with
  | [] => none
  | digits => some (digits, text.dropWhile isDigit)

def scanFraction (text : Bytes) : Option (Bytes × Bytes) :=
  match text with
  | 46 :: rest => (scanDigits rest).map fun (digits, rest) => (46 :: digits, rest)
  | _ => some ([], text)

def scanExponent (text : Bytes) : Option (Bytes × Bytes) :=
  match text with
  | letter :: rest =>
    if letter = 101 ∨ letter = 69 then
      let sign := (rest.take 1).filter fun b => b = 43 || b = 45
      (scanDigits (rest.drop sign.length)).map fun (digits, rest) =>
        (letter :: sign ++ digits, rest)
    else some ([], text)
  | [] => some ([], text)

def scanNumber (text : Bytes) : Option (Bytes × Bytes) := do
  let sign := (text.take 1).filter (· = 45)
  let (whole, rest) ← scanDigits (text.drop sign.length)
  if whole.head? = some 48 ∧ 1 < whole.length then none
  else
    let (fraction, rest) ← scanFraction rest
    let (exponent, rest) ← scanExponent rest
    return (sign ++ whole ++ fraction ++ exponent, rest)

def scanLiteral (text : Bytes) : Option (Bytes × Bytes) :=
  match text with
  | 34 :: body => (scanString body).map fun (_, rest) =>
    (body.take (body.length - rest.length - 1), rest)
  | _ => none

def unquote (literal : Bytes) : Text :=
  match scanString (literal ++ [34]) with
  | some (pieces, _) => validText (joinPieces pieces)
  | none => validText []

section Nested

variable (value : Bytes → Option (Json × Bytes))

def parseItems : Nat → Bytes → Option (List Json × Bytes)
  | 0, _ => none
  | fuel + 1, text => do
    let (item, rest) ← value (skipSpace text)
    match skipSpace rest with
    | 44 :: rest =>
      let (items, rest) ← parseItems fuel rest
      return (item :: items, rest)
    | 93 :: rest => return ([item], rest)
    | _ => none

def parseMembers : Nat → Bytes → Option (List (Text × Json) × Bytes)
  | 0, _ => none
  | fuel + 1, text => do
    let (key, rest) ← scanLiteral (skipSpace text)
    let rest ← cutPrefix (skipSpace rest) [58]
    let (item, rest) ← value (skipSpace rest)
    match skipSpace rest with
    | 44 :: rest =>
      let (members, rest) ← parseMembers fuel rest
      return ((unquote key, item) :: members, rest)
    | 125 :: rest => return ([(unquote key, item)], rest)
    | _ => none

def parseArray (text : Bytes) : Option (Json × Bytes) :=
  match skipSpace text with
  | 93 :: rest => some (array [], rest)
  | items => (parseItems value items.length items).map fun (items, rest) => (array items, rest)

def parseObject (text : Bytes) : Option (Json × Bytes) :=
  match skipSpace text with
  | 125 :: rest => some (object [], rest)
  | members =>
    (parseMembers value members.length members).map fun (members, rest) =>
      (object members, rest)

end Nested

def parseWord (text : Bytes) : Option (Json × Bytes) :=
  [(utf8 "null", null), (utf8 "true", bool true), (utf8 "false", bool false)].findSome?
    fun (word, value) => (cutPrefix text word).map fun rest => (value, rest)

def parseValue : Nat → Bytes → Option (Json × Bytes)
  | _, 34 :: rest => (scanLiteral (34 :: rest)).map fun (literal, rest) => (string literal, rest)
  | 0, text => scalar text
  | depth + 1, 91 :: rest => parseArray (parseValue depth) rest
  | depth + 1, 123 :: rest => parseObject (parseValue depth) rest
  | _ + 1, text => scalar text
where
  scalar (text : Bytes) : Option (Json × Bytes) :=
    (parseWord text).or ((scanNumber text).map fun (literal, rest) => (number literal, rest))

def maxNestingDepth : Nat := 10000

def parse (text : Bytes) : Option Json :=
  match parseValue maxNestingDepth (skipSpace text) with
  | some (value, rest) => if (skipSpace rest).isEmpty then some value else none
  | none => none

/-! ## Typed values -/

def parseInt (text : Bytes) : Option Int :=
  let sign := (text.take 1).filter fun b => b = 43 || b = 45
  match scanDigits (text.drop sign.length) with
  | some (digits, []) =>
    let size : Int := digits.foldl (fun n b => n * 10 + (b.toNat - 48 : Nat)) 0
    let n := if sign = [45] then -size else size
    if -2 ^ 63 ≤ n ∧ n < 2 ^ 63 then some n else none
  | _ => none

/-- How a value is stored over the one that is there, without a result where the types do
not fit; and which values fit, whatever is there. -/
structure Decoder (α : Type) where
  decode : Json → α → Option α
  Fits : Json → Prop
  isSome_decode : ∀ value state, (decode value state).isSome = true ↔ Fits value

instance {α : Type} : CoeFun (Decoder α) fun _ => Json → α → Option α := ⟨Decoder.decode⟩

def decodeNumber {α : Type} (parse : Bytes → Option α) : Decoder α where
  decode
    | .null, n => some n
    | .number literal, _ => parse literal
    | _, _ => none
  Fits
    | .null => True
    | .number literal => (parse literal).isSome = true
    | _ => False
  isSome_decode value n := by cases value <;> simp

def decodeInt : Decoder Int := decodeNumber parseInt

def decodeString : Decoder Bytes where
  decode
    | .null, text => some text
    | .string literal, _ => some (unquote literal).1
    | _, _ => none
  Fits
    | .null | .string _ => True
    | _ => False
  isSome_decode value text := by cases value <;> simp

def decodeBool : Decoder Bool where
  decode
    | .null, b => some b
    | .bool value, _ => some value
    | _, _ => none
  Fits
    | .null | .bool _ => True
    | _ => False
  isSome_decode value b := by cases value <;> simp

section Compound

variable {α σ : Type}

def decodePointer (decode : Decoder α) (zero : α) : Decoder (Option α) where
  decode
    | .null, _ => some none
    | value, pointer => (decode value (pointer.getD zero)).map some
  Fits
    | .null => True
    | value => decode.Fits value
  isSome_decode value pointer := by cases value <;> simp [decode.isSome_decode]

def decodeSlice (decode : Decoder α) (zero : α) : Decoder (List α) where
  decode
    | .null, _ => some []
    | .array items, _ => items.mapM fun item => decode item zero
    | _, _ => none
  Fits
    | .null => True
    | .array items => ∀ item ∈ items, decode.Fits item
    | _ => False
  isSome_decode value state := by
    cases value with
    | array items => exact isSome_mapM fun item => decode.isSome_decode item zero
    | null | bool | number | string | object => simp

def decodeMap (decode : Decoder α) (zero : α) : Decoder (Option (Dict Bytes α)) where
  decode
    | .null, _ => some none
    | .object members, dict =>
      (members.foldlM (fun (dict : Dict Bytes α) (member : Text × Json) =>
        (decode member.2 zero).map fun entry => dict.insert member.1.1 entry) (dict.getD ∅)).map
          some
    | _, _ => none
  Fits
    | .null => True
    | .object members => ∀ member ∈ members, decode.Fits member.2
    | _ => False
  isSome_decode value state := by
    cases value with
    | object members =>
      rw [Option.isSome_map]
      refine isSome_foldlM (fun member dict => ?_) _
      rw [Option.isSome_map]
      exact decode.isSome_decode member.2 zero
    | null | bool | number | string | array => simp

def fieldFor (fields : List (Bytes × Decoder σ)) (key : Bytes) : Option (Decoder σ) :=
  ((fields.find? (·.1 = key)).or (fields.find? fun field => equalFold field.1 key)).map (·.2)

def decodeMember (fields : List (Bytes × Decoder σ)) (state : σ) (member : Text × Json) :
    Option σ :=
  match fieldFor fields member.1.1 with
  | some decode => decode member.2 state
  | none => some state

def decodeStruct (fields : List (Bytes × Decoder σ)) : Decoder σ where
  decode
    | .null, state => some state
    | .object members, state => members.foldlM (decodeMember fields) state
    | _, _ => none
  Fits
    | .null => True
    | .object members => ∀ member ∈ members, ∀ decode ∈ fieldFor fields member.1.1,
        decode.Fits member.2
    | _ => False
  isSome_decode value state := by
    cases value with
    | object members =>
      refine isSome_foldlM (fun member state => ?_) state
      unfold decodeMember
      cases fieldFor fields member.1.1 with
      | none => simp
      | some decode => simp [decode.isSome_decode]
    | null | bool | number | string | array => simp

/-- A type that reads the text between the quotation marks as it is written, such as
`time.Time`. -/
def decodeLiteral (parse : Bytes → Option α) : Decoder α where
  decode
    | .null, value => some value
    | .string literal, _ => parse literal
    | _, _ => none
  Fits
    | .null => True
    | .string literal => (parse literal).isSome = true
    | _ => False
  isSome_decode value state := by cases value <;> simp

def decodeRaw : Decoder (Option Json) where
  decode value _ := some (some value)
  Fits _ := True
  isSome_decode _ _ := by simp

def field (name : String) (decode : Decoder α) (get : σ → α) (set : α → σ → σ) :
    Bytes × Decoder σ :=
  (utf8 name, {
    decode := fun value state => (decode value (get state)).map (set · state)
    Fits := decode.Fits
    isSome_decode := fun value state => by rw [Option.isSome_map, decode.isSome_decode] })

def unmarshal (decode : Decoder α) (text : Bytes) (initial : α) : Option α :=
  (parse text).bind fun value => decode value initial

theorem isSome_unmarshal {decode : Decoder α} {text : Bytes} {initial : α} :
    (unmarshal decode text initial).isSome = true ↔
      ∃ value, parse text = some value ∧ decode.Fits value := by
  unfold unmarshal
  cases parse text with
  | none => simp
  | some value => simp [decode.isSome_decode]

end Compound

/-- The numbers that an object has under a name, which is compared without its case. -/
def numbersOf (name : Bytes) : Json → List Int
  | .object members => members.filterMap fun (key, item) =>
    match item with
    | .number literal => if key.1 = name ∨ equalFold name key.1 then parseInt literal else none
    | _ => none
  | _ => []

theorem fieldFor_singleton {σ : Type} (name key : Bytes) (decode : Decoder σ) :
    fieldFor [(name, decode)] key =
      if key = name ∨ equalFold name key then some decode else none := by
  unfold fieldFor
  by_cases hname : name = key
  · simp [hname]
  · cases hfold : equalFold name key <;> simp [hname, Ne.symm hname, hfold]

theorem decode_number {name : Bytes} {value : Json} {n : Int}
    (h : (decodeStruct [(name, decodeInt)]).Fits value) :
    decodeStruct [(name, decodeInt)] value n = some (((numbersOf name value).getLast?).getD n) := by
  cases value with
  | object members =>
    induction members generalizing n with
    | nil => rfl
    | cons member rest ih =>
      obtain ⟨key, item⟩ := member
      have hitem := h (key, item) List.mem_cons_self
      have hrest {m : Int} := ih (n := m) fun member hmember => h member (.tail _ hmember)
      have hnext : decodeStruct [(name, decodeInt)] (.object ((key, item) :: rest)) n =
          (decodeMember [(name, decodeInt)] n (key, item)).bind fun m =>
            decodeStruct [(name, decodeInt)] (.object rest) m := rfl
      rw [hnext]
      unfold decodeMember
      dsimp only at hitem ⊢
      rw [fieldFor_singleton] at hitem ⊢
      by_cases hkey : key.1 = name ∨ equalFold name key.1
      · rw [if_pos hkey] at hitem ⊢
        cases item with
        | null => simpa [decodeInt, decodeNumber, numbersOf] using hrest
        | number literal =>
          obtain ⟨m, hm⟩ := Option.isSome_iff_exists.mp (hitem decodeInt rfl)
          have hlast : numbersOf name (.object ((key, .number literal) :: rest)) =
              m :: numbersOf name (.object rest) := by
            simp [numbersOf, hkey, hm]
          rw [hlast, List.getLast?_cons]
          simpa [decodeInt, decodeNumber, hm] using hrest
        | bool | string | array | object => exact (hitem decodeInt rfl).elim
      · rw [if_neg hkey]
        have hlast : numbersOf name (.object ((key, item) :: rest)) =
            numbersOf name (.object rest) := by
          cases item <;> simp [numbersOf, hkey]
        rw [hlast]
        exact hrest
  | null => rfl
  | bool | number | string | array => cases h

example : unmarshal (decodeSlice decodeInt 0) (utf8 " [1, -20,null ]") [] = some [1, -20, 0] := by
  decide +kernel

/-! ## What is read -/

section Decoded

variable {α σ : Type} {value : Json}

theorem decodeMap_holds {decode : Decoder α} {zero : α} {good : Bytes → α → Prop}
    (hdecode : ∀ key item entry, ValidUTF8 key → decode item zero = some entry → good key entry)
    {before after : Option (Dict Bytes α)}
    (hbefore : ∀ key entry, (before.getD ∅).lookup key = some entry → good key entry)
    (h : decodeMap decode zero value before = some after) :
    ∀ key entry, (after.getD ∅).lookup key = some entry → good key entry := by
  cases value with
  | null =>
    cases h
    intro key entry hentry
    cases hentry
  | object members =>
    obtain ⟨dict, hdict, rfl⟩ := Option.map_eq_some_iff.mp h
    let held (dict : Dict Bytes α) : Prop :=
      ∀ key entry, dict.lookup key = some entry → good key entry
    have hstart : held (before.getD ∅) := hbefore
    refine foldlM_holds (fun member _ s s' hs hnext => ?_) hstart hdict
    obtain ⟨item, hitem, rfl⟩ := Option.map_eq_some_iff.mp hnext
    intro key entry hentry
    rcases Dict.lookup_of_insert hentry with ⟨rfl, rfl⟩ | ⟨-, hold⟩
    · exact hdecode _ _ _ member.1.2 hitem
    · exact hs key entry hold
  | bool | number | string | array => cases h

variable {fields : List (Bytes × Decoder σ)}

theorem mem_of_fieldFor {key : Bytes} {decode : Decoder σ} (h : fieldFor fields key = some decode) :
    ∃ field ∈ fields, field.2 = decode := by
  obtain ⟨field, hfield, rfl⟩ := Option.map_eq_some_iff.mp h
  refine ⟨field, ?_, rfl⟩
  rcases Option.or_eq_some_iff.mp hfield with hname | ⟨_, hfold⟩
  · exact List.mem_of_find?_eq_some hname
  · exact List.mem_of_find?_eq_some hfold

theorem decodeStruct_holds {good : σ → Prop}
    (hfields : ∀ field ∈ fields, ∀ item s s', good s → field.2 item s = some s' → good s')
    {s s' : σ} (hs : good s) (h : decodeStruct fields value s = some s') : good s' := by
  cases value with
  | null =>
    cases h
    exact hs
  | object members =>
    refine foldlM_holds (fun member _ s s' hs hnext => ?_) hs h
    unfold decodeMember at hnext
    split at hnext
    · next hfield =>
      obtain ⟨field, hmem, rfl⟩ := mem_of_fieldFor hfield
      exact hfields field hmem _ s s' hs hnext
    · cases hnext
      exact hs
  | bool | number | string | array => cases h

/-! ## Two readers of one text -/

section Related

variable {τ : Type} {fields : List (Bytes × Decoder σ)} {fields' : List (Bytes × Decoder τ)}
  {related : σ → τ → Prop}

structure FieldsAgree (related : σ → τ → Prop) (field : Bytes × Decoder σ)
    (field' : Bytes × Decoder τ) : Prop where
  name : field.1 = field'.1
  keeps : ∀ item s t s' t', related s t → field.2 item s = some s' → field'.2 item t = some t' →
    related s' t'

section

variable (hfields : List.Forall₂ (FieldsAgree related) fields fields')

include hfields

theorem find?_agree (p : Bytes → Bool) :
    (fields.find? (fun field => p field.1) = none ∧
        fields'.find? (fun field => p field.1) = none) ∨
      ∃ field field', FieldsAgree related field field' ∧
        fields.find? (fun field => p field.1) = some field ∧
        fields'.find? (fun field => p field.1) = some field' := by
  induction hfields with
  | nil => exact .inl ⟨rfl, rfl⟩
  | @cons field field' rest rest' hagree _ ih =>
    rw [List.find?_cons, List.find?_cons, ← hagree.name]
    cases hp : p field.1 with
    | true => exact .inr ⟨field, field', hagree, rfl, rfl⟩
    | false => exact ih

theorem fieldFor_agree (key : Bytes) :
    (fieldFor fields key = none ∧ fieldFor fields' key = none) ∨
      ∃ field field', FieldsAgree related field field' ∧ fieldFor fields key = some field.2 ∧
        fieldFor fields' key = some field'.2 := by
  unfold fieldFor
  rcases find?_agree hfields fun name => name = key with ⟨hnone, hnone'⟩ | ⟨f, f', hagree, hf, hf'⟩
  · rcases find?_agree hfields fun name => equalFold name key with
      ⟨hfold, hfold'⟩ | ⟨f, f', hagree, hf, hf'⟩
    · exact .inl ⟨by rw [hnone, hfold]; rfl, by rw [hnone', hfold']; rfl⟩
    · exact .inr ⟨f, f', hagree, by rw [hnone, hf]; rfl, by rw [hnone', hf']; rfl⟩
  · exact .inr ⟨f, f', hagree, by rw [hf]; rfl, by rw [hf']; rfl⟩

theorem decodeStruct_related {s s' : σ} {t t' : τ} (hs : related s t)
    (h : decodeStruct fields value s = some s') (h' : decodeStruct fields' value t = some t') :
    related s' t' := by
  cases value with
  | null =>
    cases h
    cases h'
    exact hs
  | object members =>
    refine foldlM_related (fun member _ s t s' t' hs hnext hnext' => ?_) hs h h'
    unfold decodeMember at hnext hnext'
    rcases fieldFor_agree hfields member.1.1 with ⟨hnone, hnone'⟩ | ⟨f, f', hagree, hf, hf'⟩
    · rw [hnone] at hnext
      rw [hnone'] at hnext'
      cases hnext
      cases hnext'
      exact hs
    · rw [hf] at hnext
      rw [hf'] at hnext'
      exact hagree.keeps _ s t s' t' hs hnext hnext'
  | bool | number | string | array => cases h

end

end Related

end Decoded

end Json

end GateSentry.Foundation
