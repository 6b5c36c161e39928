import GateSentry.Foundation.Walk

/-!
# Standard base64

`base64.StdEncoding` of Go: the padded standard alphabet, line breaks ignored,
spare bits of the last symbol ignored.  `decode` writes into a buffer of fixed
capacity, as `Encoding.Decode` does, and panics when the bytes do not fit.
-/

namespace GateSentry.Foundation.Base64

open Outcome

/-! ## Symbols -/

def encodeSymbol (n : Nat) : UInt8 :=
  if n < 26 then UInt8.ofNat (n + 65)
  else if n < 52 then UInt8.ofNat (n + 71)
  else if n < 62 then UInt8.ofNat (n - 4)
  else if n = 62 then 43
  else 47

def decodeSymbol (b : UInt8) : Option Nat :=
  if 65 ≤ b ∧ b ≤ 90 then some (b.toNat - 65)
  else if 97 ≤ b ∧ b ≤ 122 then some (b.toNat - 71)
  else if 48 ≤ b ∧ b ≤ 57 then some (b.toNat + 4)
  else if b = 43 then some 62
  else if b = 47 then some 63
  else none

def padding : UInt8 := 61

def isNewline (b : UInt8) : Bool := b = 10 || b = 13

theorem decode_encodeSymbol (n : Nat) (h : n < 64) :
    decodeSymbol (encodeSymbol n) = some n := by
  have hall : ∀ n < 64, decodeSymbol (encodeSymbol n) = some n := by decide
  exact hall n h

/-! ## Encoding -/

def encode : Bytes → Bytes
  | a :: b :: c :: rest =>
    encodeSymbol (a.toNat / 4) ::
    encodeSymbol (a.toNat % 4 * 16 + b.toNat / 16) ::
    encodeSymbol (b.toNat % 16 * 4 + c.toNat / 64) ::
    encodeSymbol (c.toNat % 64) :: encode rest
  | [a, b] =>
    [encodeSymbol (a.toNat / 4),
      encodeSymbol (a.toNat % 4 * 16 + b.toNat / 16),
      encodeSymbol (b.toNat % 16 * 4), padding]
  | [a] => [encodeSymbol (a.toNat / 4), encodeSymbol (a.toNat % 4 * 16), padding, padding]
  | [] => []

/-! ## Decoding -/

inductive DecodeError where
  | corruptInput

/-- The bytes of one group of four symbols, what follows it, and whether the
group or what follows it is corrupt. -/
structure Quantum where
  out : Bytes
  rest : Bytes
  corrupt : Bool

def firstByte (d0 d1 : Nat) : UInt8 := UInt8.ofNat (d0 * 4 + d1 / 16)
def secondByte (d1 d2 : Nat) : UInt8 := UInt8.ofNat (d1 % 16 * 16 + d2 / 4)
def thirdByte (d2 d3 : Nat) : UInt8 := UInt8.ofNat (d2 % 4 * 64 + d3)

/-- `decodeQuantum` on a source without line breaks. -/
def decodeQuantum : Bytes → Quantum
  | c0 :: c1 :: c2 :: c3 :: rest =>
    match decodeSymbol c0, decodeSymbol c1, decodeSymbol c2, decodeSymbol c3 with
    | some d0, some d1, some d2, some d3 =>
      ⟨[firstByte d0 d1, secondByte d1 d2, thirdByte d2 d3], rest, false⟩
    | some d0, some d1, some d2, none =>
      if c3 = padding then
        ⟨[firstByte d0 d1, secondByte d1 d2], rest, !rest.isEmpty⟩
      else ⟨[], rest, true⟩
    | some d0, some d1, none, _ =>
      if c2 = padding ∧ c3 = padding then ⟨[firstByte d0 d1], rest, !rest.isEmpty⟩
      else ⟨[], rest, true⟩
    | _, _, _, _ => ⟨[], rest, true⟩
  | _ => ⟨[], [], true⟩

/-- One round of `Decode`; the bytes are written before an error is returned. -/
def decodeRound (capacity : Nat) (decoded src : Bytes) :
    Outcome DecodeError (Bytes × Bytes) :=
  let quantum := decodeQuantum src
  if capacity < decoded.length + quantum.out.length then panicked .indexOutOfRange
  else if quantum.corrupt then fail .corruptInput
  else .ok (decoded ++ quantum.out, quantum.rest)

def decode (capacity : Nat) (src : Bytes) : Outcome DecodeError Bytes :=
  walk (decodeRound capacity) [] (src.filter fun b => !isNewline b)

@[simp] theorem decodeQuantum_rest (c0 c1 c2 c3 : UInt8) (rest : Bytes) :
    (decodeQuantum (c0 :: c1 :: c2 :: c3 :: rest)).rest = rest := by
  simp only [decodeQuantum]
  split
  · rfl
  · split <;> rfl
  · split <;> rfl
  · rfl

theorem decodeQuantum_rest_length {src : Bytes} (h : src ≠ []) :
    (decodeQuantum src).rest.length < src.length := by
  match src with
  | [] => exact absurd rfl h
  | [_] | [_, _] | [_, _, _] => simp [decodeQuantum]
  | c0 :: c1 :: c2 :: c3 :: rest =>
    simp only [decodeQuantum_rest, List.length_cons]
    omega

variable {capacity : Nat}

theorem decodeRound_eq_ok {decoded src next rest : Bytes}
    (h : decodeRound capacity decoded src = .ok (next, rest)) :
    decoded.length + (decodeQuantum src).out.length ≤ capacity ∧
      (decodeQuantum src).corrupt = false ∧
      next = decoded ++ (decodeQuantum src).out ∧ rest = (decodeQuantum src).rest := by
  simp only [decodeRound] at h
  split at h
  · exact nomatch h
  · split at h
    · exact nomatch h
    · rename_i hcorrupt
      cases h
      exact ⟨by omega, by simpa using hcorrupt, rfl, rfl⟩

theorem decodeRound_consumes (capacity limit : Nat) : Consumes limit (decodeRound capacity) := by
  intro decoded src next rest _ hround hne
  obtain ⟨-, -, -, rfl⟩ := decodeRound_eq_ok hround
  exact decodeQuantum_rest_length hne

/-! ## Decoding what was encoded -/

theorem firstByte_encode (a : UInt8) (k : Nat) (h : k < 16) :
    firstByte (a.toNat / 4) (a.toNat % 4 * 16 + k) = a := by
  have hsum : a.toNat / 4 * 4 + (a.toNat % 4 * 16 + k) / 16 = a.toNat := by omega
  rw [firstByte, hsum, UInt8.ofNat_toNat]

theorem secondByte_encode (b : UInt8) (k l : Nat) (h : l < 4) :
    secondByte (k * 16 + b.toNat / 16) (b.toNat % 16 * 4 + l) = b := by
  have hb := b.toNat_lt
  have hsum : (k * 16 + b.toNat / 16) % 16 * 16 + (b.toNat % 16 * 4 + l) / 4 = b.toNat := by omega
  rw [secondByte, hsum, UInt8.ofNat_toNat]

theorem thirdByte_encode (c : UInt8) (k : Nat) :
    thirdByte (k * 4 + c.toNat / 64) (c.toNat % 64) = c := by
  have hc := c.toNat_lt
  have hsum : (k * 4 + c.toNat / 64) % 4 * 64 + c.toNat % 64 = c.toNat := by omega
  rw [thirdByte, hsum, UInt8.ofNat_toNat]

theorem decodeQuantum_three (a b c : UInt8) (src : Bytes) : decodeQuantum
      (encodeSymbol (a.toNat / 4) ::
        encodeSymbol (a.toNat % 4 * 16 + b.toNat / 16) ::
        encodeSymbol (b.toNat % 16 * 4 + c.toNat / 64) ::
        encodeSymbol (c.toNat % 64) :: src) = ⟨[a, b, c], src, false⟩ := by
  have ha := a.toNat_lt
  have hb := b.toNat_lt
  have hc := c.toNat_lt
  simp only [decodeQuantum, decode_encodeSymbol (a.toNat / 4) (by omega),
    decode_encodeSymbol (a.toNat % 4 * 16 + b.toNat / 16) (by omega),
    decode_encodeSymbol (b.toNat % 16 * 4 + c.toNat / 64) (by omega),
    decode_encodeSymbol (c.toNat % 64) (by omega)]
  rw [firstByte_encode a _ (by omega), secondByte_encode b _ _ (by omega), thirdByte_encode c]

theorem decodeQuantum_two (a b : UInt8) : decodeQuantum (encode [a, b]) = ⟨[a, b], [], false⟩ := by
  have ha := a.toNat_lt
  have hb := b.toNat_lt
  have hpadding : decodeSymbol padding = none := by decide
  simp only [encode, decodeQuantum, decode_encodeSymbol (a.toNat / 4) (by omega),
    decode_encodeSymbol (a.toNat % 4 * 16 + b.toNat / 16) (by omega),
    decode_encodeSymbol (b.toNat % 16 * 4) (by omega), hpadding]
  have hsecond := secondByte_encode b (a.toNat % 4) 0 (by omega)
  rw [Nat.add_zero] at hsecond
  rw [firstByte_encode a _ (by omega), hsecond]
  rfl

theorem decodeQuantum_one (a : UInt8) : decodeQuantum (encode [a]) = ⟨[a], [], false⟩ := by
  have ha := a.toNat_lt
  have hpadding : decodeSymbol padding = none := by decide
  simp only [encode, decodeQuantum, decode_encodeSymbol (a.toNat / 4) (by omega),
    decode_encodeSymbol (a.toNat % 4 * 16) (by omega), hpadding]
  have hfirst := firstByte_encode a 0 (by omega)
  rw [Nat.add_zero] at hfirst
  rw [hfirst]
  rfl

private theorem decodeRound_of_quantum {capacity : Nat} {decoded src out rest : Bytes}
    (h : decodeQuantum src = ⟨out, rest, false⟩) :
    decodeRound capacity decoded src =
      if capacity < decoded.length + out.length then panicked .indexOutOfRange
      else .ok (decoded ++ out, rest) := by
  simp [decodeRound, h]

theorem walk_encode (capacity : Nat) (decoded data : Bytes)
    (h : decoded.length + data.length ≤ capacity) :
    walk (decodeRound capacity) decoded (encode data) = .ok (decoded ++ data) := by
  induction data using encode.induct generalizing decoded with
  | case1 a b c rest ih =>
    rw [walk_of_ne_nil (decodeRound_consumes capacity _) _ le_rfl (by simp [encode]),
      encode, decodeRound_of_quantum (decodeQuantum_three a b c (encode rest)),
      if_neg (by simp at h ⊢; omega), ok_bind, ih _ (by simp at h ⊢; omega)]
    simp
  | case2 a b =>
    rw [walk_of_ne_nil (decodeRound_consumes capacity _) _ le_rfl (by simp [encode]),
      decodeRound_of_quantum (decodeQuantum_two a b),
      if_neg (by omega), ok_bind, walk_nil]
  | case3 a =>
    rw [walk_of_ne_nil (decodeRound_consumes capacity _) _ le_rfl (by simp [encode]),
      decodeRound_of_quantum (decodeQuantum_one a),
      if_neg (by omega), ok_bind, walk_nil]
  | case4 => simp [encode]

def isEncodingByte (b : UInt8) : Bool := (decodeSymbol b).isSome || b = padding

private theorem isEncodingByte_of_some {b : UInt8} {n : Nat}
    (h : decodeSymbol b = some n) : isEncodingByte b = true := by
  simp [isEncodingByte, h]

theorem decodeQuantum_bytes {c0 c1 c2 c3 : UInt8} {rest : Bytes}
    (h : (decodeQuantum (c0 :: c1 :: c2 :: c3 :: rest)).corrupt = false) :
    ∀ b ∈ [c0, c1, c2, c3], isEncodingByte b = true := by
  have hpadding : isEncodingByte padding = true := by decide
  simp only [decodeQuantum] at h
  split at h
  · rename_i h0 h1 h2 h3
    simp [isEncodingByte_of_some h0, isEncodingByte_of_some h1,
      isEncodingByte_of_some h2, isEncodingByte_of_some h3]
  · rename_i h0 h1 h2 h3
    split at h
    · rename_i hpad
      simp [isEncodingByte_of_some h0, isEncodingByte_of_some h1,
        isEncodingByte_of_some h2, hpad, hpadding]
    · exact nomatch h
  · rename_i h0 h1 h2
    split at h
    · rename_i hpad
      simp [isEncodingByte_of_some h0, isEncodingByte_of_some h1, hpad, hpadding]
    · exact nomatch h
  · exact nomatch h

theorem walk_ok_bytes {decoded src data : Bytes}
    (h : walk (decodeRound capacity) decoded src = .ok data) :
    ∀ b ∈ src, isEncodingByte b = true := by
  refine walk_rule (p := fun _ src => ∀ b ∈ src, isEncodingByte b = true)
    (decodeRound_consumes capacity _) (by simp) ?_ le_rfl h
  intro decoded src next rest hne _ hround ih
  obtain ⟨-, hcorrupt, -, rfl⟩ := decodeRound_eq_ok hround
  match src with
  | [] => exact absurd rfl hne
  | [_] | [_, _] | [_, _, _] => exact nomatch hcorrupt
  | c0 :: c1 :: c2 :: c3 :: rest =>
    have hfront := decodeQuantum_bytes hcorrupt
    rw [decodeQuantum_rest] at ih
    intro b hb
    rw [show c0 :: c1 :: c2 :: c3 :: rest = [c0, c1, c2, c3] ++ rest from rfl,
      List.mem_append] at hb
    exact hb.elim (hfront b) (ih b)

theorem encode_bytes (data : Bytes) : ∀ b ∈ encode data, isEncodingByte b = true :=
  walk_ok_bytes (walk_encode data.length [] data (by simp))

theorem not_isNewline_of_isEncodingByte {b : UInt8} (h : isEncodingByte b = true) :
    isNewline b = false := by
  by_contra hnewline
  simp only [isNewline, Bool.not_eq_false, Bool.or_eq_true, decide_eq_true_eq] at hnewline
  rcases hnewline with rfl | rfl
  · exact absurd h (by decide)
  · exact absurd h (by decide)

theorem filter_newlines_encode (data : Bytes) :
    (encode data).filter (fun b => !isNewline b) = encode data := by
  rw [List.filter_eq_self]
  intro b hb
  simp [not_isNewline_of_isEncodingByte (encode_bytes data b hb)]

theorem decode_encode (capacity : Nat) (data : Bytes) (h : data.length ≤ capacity) :
    decode capacity (encode data) = .ok data := by
  rw [decode, filter_newlines_encode, walk_encode capacity [] data (by simpa using h),
    List.nil_append]

/-! ## Without padding -/

def rawEncode (data : Bytes) : Bytes := (encode data).filter (· ≠ padding)

def paddingFor (symbols : Bytes) : Bytes :=
  List.replicate ((4 - symbols.length % 4) % 4) padding

def rawDecode (src : Bytes) : Option Bytes :=
  let symbols := src.filter fun b => !isNewline b
  if symbols.contains padding then none
  else (decode symbols.length (symbols ++ paddingFor symbols)).toOption

theorem symbol_ne_padding (n : Nat) : encodeSymbol n ≠ padding := by
  have hall : ∀ n < 64, encodeSymbol n ≠ padding := by decide
  by_cases h : n < 64
  · exact hall n h
  · have hlast : encodeSymbol n = 47 := by grind [encodeSymbol]
    rw [hlast]
    decide

theorem rawEncode_three (a b c : UInt8) (rest : Bytes) :
    rawEncode (a :: b :: c :: rest) =
      encodeSymbol (a.toNat / 4) :: encodeSymbol (a.toNat % 4 * 16 + b.toNat / 16) ::
      encodeSymbol (b.toNat % 16 * 4 + c.toNat / 64) :: encodeSymbol (c.toNat % 64) ::
      rawEncode rest := by
  simp [rawEncode, encode, symbol_ne_padding]

theorem rawEncode_two (a b : UInt8) :
    rawEncode [a, b] = [encodeSymbol (a.toNat / 4),
      encodeSymbol (a.toNat % 4 * 16 + b.toNat / 16), encodeSymbol (b.toNat % 16 * 4)] := by
  simp [rawEncode, encode, symbol_ne_padding]

theorem rawEncode_one (a : UInt8) :
    rawEncode [a] = [encodeSymbol (a.toNat / 4), encodeSymbol (a.toNat % 4 * 16)] := by
  simp [rawEncode, encode, symbol_ne_padding]

theorem encode_eq_rawEncode (data : Bytes) :
    encode data = rawEncode data ++ paddingFor (rawEncode data) := by
  induction data using encode.induct with
  | case1 a b c rest ih =>
    have hpadding : paddingFor (rawEncode (a :: b :: c :: rest)) =
        paddingFor (rawEncode rest) := by
      simp only [rawEncode_three, paddingFor, List.length_cons]
      congr 1
      omega
    rw [hpadding, rawEncode_three, encode, ih]
    rfl
  | case2 a b =>
    rw [rawEncode_two]
    rfl
  | case3 a =>
    rw [rawEncode_one]
    rfl
  | case4 => rfl

theorem rawEncode_length (data : Bytes) : (rawEncode data).length = (4 * data.length + 2) / 3 := by
  induction data using encode.induct with
  | case1 a b c rest ih =>
    simp only [rawEncode_three, List.length_cons]
    omega
  | case2 a b => simp [rawEncode_two]
  | case3 a => simp [rawEncode_one]
  | case4 => rfl

theorem rawDecode_rawEncode (data : Bytes) : rawDecode (rawEncode data) = some data := by
  have hsymbols : (rawEncode data).filter (fun b => !isNewline b) = rawEncode data := by
    rw [List.filter_eq_self]
    intro b hb
    simp [not_isNewline_of_isEncodingByte (encode_bytes data b (List.mem_filter.mp hb).1)]
  have hclean : (rawEncode data).contains padding = false := by simp [rawEncode]
  have hfits : data.length ≤ (rawEncode data).length := by
    rw [rawEncode_length]
    omega
  unfold rawDecode
  dsimp only
  rw [hsymbols, hclean, ← encode_eq_rawEncode, decode_encode _ _ hfits]
  rfl

/-! ## What a source decodes to -/

variable {src data : Bytes}

theorem decode_ok_bytes (h : decode capacity src = .ok data) :
    ∀ b ∈ src, isEncodingByte b = true ∨ isNewline b = true := by
  have hclean := walk_ok_bytes h
  intro b hb
  cases hnewline : isNewline b with
  | true => exact .inr rfl
  | false => exact .inl (hclean b (List.mem_filter.mpr ⟨hb, by simp [hnewline]⟩))

theorem decode_ok_length (h : decode capacity src = .ok data) : data.length ≤ capacity := by
  refine walk_rule (p := fun decoded _ => decoded.length ≤ capacity → data.length ≤ capacity)
    (decodeRound_consumes capacity _) id ?_ le_rfl h (by simp)
  intro decoded src next rest _ _ hround ih _
  obtain ⟨hfits, -, rfl, -⟩ := decodeRound_eq_ok hround
  apply ih
  rw [List.length_append]
  exact hfits

theorem encode_injective : Function.Injective encode := by
  intro a b h
  have ha := decode_encode (max a.length b.length) a (le_max_left _ _)
  have hb := decode_encode (max a.length b.length) b (le_max_right _ _)
  rw [h, hb] at ha
  exact (Except.ok.inj ha).symm

/-! ## How much a source decodes to -/

def isSymbol (b : UInt8) : Bool := (decodeSymbol b).isSome

/-- The number of bytes decoded from a source without line breaks before it ends
or is found corrupt: three for every four leading symbols, and those of a padded
last group. -/
def cleanLength (src : Bytes) : Nat :=
  let symbols := (src.takeWhile isSymbol).length
  let after := src.drop symbols
  symbols / 4 * 3 +
    if symbols % 4 = 2 ∧ [padding, padding] <+: after then 1
    else if symbols % 4 = 3 ∧ [padding] <+: after then 2
    else 0

def decodedLength (src : Bytes) : Nat := cleanLength (src.filter fun b => !isNewline b)

theorem cleanLength_nil : cleanLength [] = 0 := rfl

private theorem cleanLength_short {src : Bytes} (h : src.length < 4) : cleanLength src = 0 := by
  have hsymbols : (src.takeWhile isSymbol).length ≤ src.length :=
    (List.takeWhile_prefix isSymbol).length_le
  have hafter : (src.drop (src.takeWhile isSymbol).length).length =
      src.length - (src.takeWhile isSymbol).length := List.length_drop
  simp only [cleanLength]
  rw [if_neg, if_neg]
  · omega
  all_goals
    rintro ⟨hmod, hpre⟩
    have := hpre.length_le
    simp only [List.length_cons] at this
    omega

private theorem isSymbol_of_some {b : UInt8} {n : Nat} (h : decodeSymbol b = some n) :
    isSymbol b = true := by
  simp [isSymbol, h]

private theorem isSymbol_of_none {b : UInt8} (h : decodeSymbol b = none) :
    isSymbol b = false := by
  simp [isSymbol, h]

private theorem cleanLength_group {c0 c1 c2 c3 : UInt8} (rest : Bytes)
    (h : ∀ b ∈ [c0, c1, c2, c3], isSymbol b = true) :
    cleanLength (c0 :: c1 :: c2 :: c3 :: rest) = 3 + cleanLength rest := by
  simp only [List.forall_mem_cons] at h
  obtain ⟨h0, h1, h2, h3, -⟩ := h
  have hdiv : ∀ k, (k + 1 + 1 + 1 + 1) / 4 * 3 = 3 + k / 4 * 3 := by omega
  have hmod : ∀ k, (k + 1 + 1 + 1 + 1) % 4 = k % 4 := by omega
  simp only [cleanLength, List.takeWhile_cons, h0, h1, h2, h3, if_true, List.length_cons,
    List.drop_succ_cons, hdiv, hmod]
  omega

theorem cleanLength_eq (src : Bytes) : cleanLength src = (decodeQuantum src).out.length +
      if (decodeQuantum src).corrupt then 0 else cleanLength (decodeQuantum src).rest := by
  match src with
  | [] | [_] | [_, _] | [_, _, _] =>
    rw [cleanLength_short (by simp)]
    rfl
  | c0 :: c1 :: c2 :: c3 :: rest =>
    rw [decodeQuantum_rest]
    cases h0 : decodeSymbol c0 with
    | none => simp [cleanLength, decodeQuantum, h0, isSymbol_of_none h0]
    | some d0 =>
      have hs0 := isSymbol_of_some h0
      cases h1 : decodeSymbol c1 with
      | none => simp [cleanLength, decodeQuantum, h0, h1, hs0, isSymbol_of_none h1]
      | some d1 =>
        have hs1 := isSymbol_of_some h1
        cases h2 : decodeSymbol c2 with
        | none =>
          by_cases hpad : c2 = padding ∧ c3 = padding
          · obtain ⟨rfl, rfl⟩ := hpad
            simp only [decodeQuantum, h0, h1, h2, and_self, if_true]
            cases rest with
            | nil | cons => simp [cleanLength, hs0, hs1, isSymbol_of_none h2]
          · simp [cleanLength, decodeQuantum, h0, h1, h2, hs0, hs1,
              isSymbol_of_none h2, hpad, eq_comm]
        | some d2 =>
          have hs2 := isSymbol_of_some h2
          cases h3 : decodeSymbol c3 with
          | none =>
            by_cases hpad : c3 = padding
            · subst hpad
              simp only [decodeQuantum, h0, h1, h2, h3, if_true]
              cases rest with
              | nil | cons => simp [cleanLength, hs0, hs1, hs2, isSymbol_of_none h3]
            · simp [cleanLength, decodeQuantum, h0, h1, h2, h3, hs0, hs1, hs2,
                isSymbol_of_none h3, hpad, eq_comm]
          | some d3 =>
            rw [cleanLength_group rest (by simp [hs0, hs1, hs2, isSymbol_of_some h3])]
            simp [decodeQuantum, h0, h1, h2, h3]

theorem walk_panics_iff_length (capacity : Nat) (decoded src : Bytes)
    (h : decoded.length ≤ capacity) :
    Panics (walk (decodeRound capacity) decoded src) ↔
      capacity < decoded.length + cleanLength src := by
  induction hlength : src.length using Nat.strongRecOn generalizing decoded src with
  | ind length ih =>
    by_cases hsrc : src = []
    · subst hsrc
      rw [walk_nil, cleanLength_nil]
      simp only [not_panics_ok, false_iff]
      omega
    · rw [walk_of_ne_nil (decodeRound_consumes capacity _) _ le_rfl hsrc,
        cleanLength_eq src, decodeRound]
      have hshorter := decodeQuantum_rest_length hsrc
      split
      · simp only [panicked_bind, panics_panicked, true_iff]
        omega
      · split
        · simp only [fail_bind, not_panics_fail, false_iff]
          omega
        · have hroom : (decoded ++ (decodeQuantum src).out).length ≤ capacity := by
            rw [List.length_append]
            omega
          rw [ok_bind, ih _ (hlength ▸ hshorter) _ _ hroom rfl, List.length_append, Nat.add_assoc]

theorem cleanLength_encode (data : Bytes) : cleanLength (encode data) = data.length := by
  induction data using encode.induct with
  | case1 a b c rest ih =>
    rw [cleanLength_eq, encode, decodeQuantum_three a b c (encode rest)]
    simp only [Bool.false_eq_true, if_false, List.length_cons, List.length_nil]
    omega
  | case2 a b =>
    rw [cleanLength_eq, decodeQuantum_two a b]
    simp [cleanLength_nil]
  | case3 a =>
    rw [cleanLength_eq, decodeQuantum_one a]
    simp [cleanLength_nil]
  | case4 => rfl

theorem decodedLength_encode (data : Bytes) : decodedLength (encode data) = data.length := by
  rw [decodedLength, filter_newlines_encode, cleanLength_encode]

theorem decode_panics_iff (capacity : Nat) (src : Bytes) :
    Panics (decode capacity src) ↔ capacity < decodedLength src := by
  rw [decode, walk_panics_iff_length capacity [] _ (by simp), decodedLength,
    List.length_nil, Nat.zero_add]

end GateSentry.Foundation.Base64
