import GateSentry.Foundation.AddressText

/-!
# Letter case of address texts

Texts that agree up to letter case are texts of the same address, with the white
space around them and whatever their bytes are.
-/

namespace GateSentry.Foundation.ByteText

/-! ## Characters of a text -/

theorem toNat_val_ofNat {v : Nat} (h : v < 0xd800 ∨ 0xdfff < v ∧ v < 0x110000) :
    (Char.ofNat v).val.toNat = v := by
  have hvalid : v.isValidChar := h
  rw [Char.ofNat, dif_pos hvalid]
  rfl

theorem decodeRune_exact {first : UInt8} {rest : Bytes}
    (h : (decodeRune first rest).1 ≠ runeError) : ∃ others, others <+: rest ∧
      (decodeRune first rest).2 = others.length + 1 ∧
        String.utf8EncodeChar (decodeRune first rest).1 = first :: others := by
  unfold decodeRune at h ⊢
  split
  · next hascii => exact ⟨[], List.nil_prefix, rfl, utf8EncodeChar_ascii hascii⟩
  · next hascii =>
    rw [if_neg hascii] at h
    cases hdecode : (first :: rest).toByteArray.utf8DecodeChar? 0 with
    | none =>
      rw [hdecode] at h
      exact absurd rfl h
    | some rune =>
      obtain ⟨more, hmore⟩ := ByteArray.exists_of_utf8DecodeChar?_eq_some hdecode
      have hbytes : first :: rest = String.utf8EncodeChar rune ++ more.data.toList := by
        simpa using congrArg (·.data.toList) hmore
      have hsize := String.length_utf8EncodeChar rune
      obtain ⟨_, others, hencode, -⟩ := decodeRune_utf8EncodeChar rune
      rw [hencode] at hsize
      rw [hencode, List.cons_append] at hbytes
      cases hbytes
      exact ⟨others, List.prefix_append _ _, hsize.symm, hencode⟩

theorem flatMap_runes {fuel : Nat} {bytes : Bytes} (hfuel : bytes.length ≤ fuel)
    (h : ∀ c ∈ runes fuel bytes, c ≠ runeError) :
    (runes fuel bytes).flatMap String.utf8EncodeChar = bytes := by
  induction fuel generalizing bytes with
  | zero =>
    rw [List.length_eq_zero_iff.mp (Nat.le_zero.mp hfuel)]
    rfl
  | succ fuel ih =>
    cases bytes with
    | nil => rfl
    | cons first rest =>
      have hcons : runes (fuel + 1) (first :: rest) = (decodeRune first rest).1 ::
          runes fuel (rest.drop ((decodeRune first rest).2 - 1)) := rfl
      rw [hcons] at h ⊢
      rw [List.forall_mem_cons] at h
      obtain ⟨others, ⟨more, rfl⟩, hsize, hencode⟩ := decodeRune_exact h.1
      rw [hsize, Nat.add_sub_cancel, List.drop_left] at h ⊢
      simp only [List.length_cons, List.length_append] at hfuel
      rw [List.flatMap_cons, hencode, ih (by omega) h.2]
      rfl

/-! ## White space around a text -/

theorem exists_dropped (table : List Bytes) (fuel : Nat) (bytes : Bytes) :
    ∃ items : List Bytes, (∀ item ∈ items, item ∈ table) ∧
      bytes = items.flatten ++ dropItems table fuel bytes := by
  induction fuel generalizing bytes with
  | zero => exact ⟨[], by simp, rfl⟩
  | succ fuel ih =>
    rw [dropItems]
    cases hfind : table.find? (·.isPrefixOf bytes) with
    | none => exact ⟨[], by simp, rfl⟩
    | some item =>
      obtain ⟨items, hitems, hbytes⟩ := ih (bytes.drop item.length)
      have hmatches := List.find?_some hfind
      have hlead : item <+: bytes := List.isPrefixOf_iff_prefix.mp hmatches
      refine ⟨item :: items, ?_, ?_⟩
      · simp only [List.mem_cons, forall_eq_or_imp]
        exact ⟨List.mem_of_find?_eq_some hfind, hitems⟩
      · rw [List.flatten_cons, List.append_assoc, ← hbytes]
        exact (List.prefix_iff_eq_append.mp hlead).symm

theorem exists_spaces_around (bytes : Bytes) : ∃ front back : List Bytes,
    (∀ item ∈ front, item ∈ whiteSpace) ∧ (∀ item ∈ back, item ∈ whiteSpace) ∧
      bytes = front.flatten ++ (trimSpace bytes ++ back.flatten) := by
  obtain ⟨front, hfront, hleft⟩ := exists_dropped whiteSpace bytes.length bytes
  generalize hrest : dropItems whiteSpace bytes.length bytes = left at hleft
  obtain ⟨back, hback, hright⟩ :=
    exists_dropped (whiteSpace.map List.reverse) left.length left.reverse
  refine ⟨front, (back.map List.reverse).reverse, hfront, ?_, ?_⟩
  · intro item hitem
    rw [List.mem_reverse, List.mem_map] at hitem
    obtain ⟨reversed, hreversed, rfl⟩ := hitem
    obtain ⟨space, hspace, rfl⟩ := List.mem_map.mp (hback reversed hreversed)
    rwa [List.reverse_reverse]
  · rw [trimSpace, hrest, ← List.reverse_flatten, ← List.reverse_append, ← hright,
      List.reverse_reverse]
    exact hleft

theorem isPrefixOf_map {f : UInt8 → UInt8} {item : Bytes} (hf : ∀ b ∈ item, ∀ c, f c = b ↔ c = b)
    (bytes : Bytes) : item.isPrefixOf (bytes.map f) = item.isPrefixOf bytes := by
  induction item generalizing bytes with
  | nil => rfl
  | cons b more ih =>
    rw [List.forall_mem_cons] at hf
    cases bytes with
    | nil => rfl
    | cons c rest =>
      have hb : (b == f c) = (b == c) := by
        rw [Bool.eq_iff_iff, beq_iff_eq, beq_iff_eq, eq_comm, hf.1, eq_comm]
      simp only [List.map_cons, List.isPrefixOf_cons_cons, hb, ih hf.2 rest]

theorem dropItems_map {f : UInt8 → UInt8} {table : List Bytes}
    (hf : ∀ item ∈ table, ∀ b ∈ item, ∀ c, f c = b ↔ c = b) (fuel : Nat) (bytes : Bytes) :
    dropItems table fuel (bytes.map f) = (dropItems table fuel bytes).map f := by
  induction fuel generalizing bytes with
  | zero => rfl
  | succ fuel ih =>
    have hfind : table.find? (·.isPrefixOf (bytes.map f)) =
        table.find? (·.isPrefixOf bytes) := by
      rw [← List.head?_filter, ← List.head?_filter]
      rw [List.filter_congr fun item hitem => isPrefixOf_map (hf item hitem) bytes]
    rw [dropItems, dropItems, hfind]
    cases table.find? (·.isPrefixOf bytes) with
    | none => rfl
    | some item =>
      dsimp only
      rw [← List.map_drop, ih]

theorem trimSpace_map {f : UInt8 → UInt8}
    (hf : ∀ item ∈ whiteSpace, ∀ b ∈ item, ∀ c, f c = b ↔ c = b) (bytes : Bytes) :
    trimSpace (bytes.map f) = (trimSpace bytes).map f := by
  have hreversed : ∀ item ∈ whiteSpace.map List.reverse, ∀ b ∈ item, ∀ c, f c = b ↔ c = b := by
    intro item hitem b hb
    obtain ⟨space, hspace, rfl⟩ := List.mem_map.mp hitem
    exact hf space hspace b (List.mem_reverse.mp hb)
  simp only [trimSpace, List.length_map, dropItems_map hf, ← List.map_reverse,
    dropItems_map hreversed]

end GateSentry.Foundation.ByteText

namespace GateSentry.Foundation.Net

open ByteText

/-! ## Reading an address in either letter case -/

variable (b : UInt8)

theorem toNat_lowerByte : (lowerByte b).toNat =
    if 65 ≤ b.toNat ∧ b.toNat ≤ 90 then b.toNat + 32 else b.toNat := by
  have hb := b.toNat_lt
  rw [lowerByte, UInt8.toNat_ofNat', asciiToLower]
  split <;> omega

theorem lowerByte_lowerByte : ∀ b, lowerByte (lowerByte b) = lowerByte b := by
  apply byte_forall
  decide +kernel

variable (bytes : Bytes)

theorem parseIP_map : parseIP (bytes.map lowerByte) = parseIP bytes := by
  have hlowered : (bytes.map lowerByte).map lowerByte = bytes.map lowerByte := by
    rw [List.map_map]
    exact List.map_congr_left fun b _ => lowerByte_lowerByte b
  rw [parseIP, parseIP, hlowered]

def isAddressLetter (b : UInt8) : Bool := isAddressByte (lowerByte b)

theorem letters_of_parseIP {text ip : Bytes} (h : parseIP text = some ip) :
    ∀ b ∈ text, isAddressLetter b = true := by
  unfold parseIP at h
  dsimp only at h
  split at h
  · next hall => exact fun b hb => List.all_eq_true.mp hall _ (List.mem_map_of_mem hb)
  · cases h

/-! ## Texts that agree up to letter case -/

def addressCodes : List Nat :=
  spaceCodes ++ [46, 48, 49, 50, 51, 52, 53, 54, 55, 56, 57, 58, 65, 66, 67, 68, 69, 70, 97, 98,
    99, 100, 101, 102]

/-- Intervals around the codes above that no run moves anything into. -/
def addressGaps : List (Nat × Nat) :=
  [(9, 102), (0x85, 0xa0), (0x1680, 0x1680), (0x2000, 0x205f), (0x3000, 0x3000)]

theorem lowerCaseRuns_gaps : ∀ run ∈ lowerCaseRuns, ∀ gap ∈ addressGaps,
    (run.last : Int) + run.shift < gap.1 ∨ gap.2 < run.first + run.shift := by
  decide +kernel

theorem addressCodes_gap : ∀ code ∈ addressCodes, code < 0xd800 ∧
    ∃ gap ∈ addressGaps, 0 < gap.1 ∧ gap.1 ≤ code ∧ code ≤ gap.2 := by
  decide

theorem isAddressLetter_spec : ∀ b, isAddressLetter b = true →
    b < 0x80 ∧ b.toNat ∈ addressCodes := by
  apply byte_forall
  decide +kernel

theorem mem_addressCodes_of_runeToLower {rune : Char}
    (h : (runeToLower rune).toNat ∈ addressCodes) : rune.toNat ∈ addressCodes := by
  rw [runeToLower] at h
  by_cases hascii : rune.toNat < 128
  · have hall : ∀ n < 128, (Char.ofNat (asciiToLower n)).toNat ∈ addressCodes →
        n ∈ addressCodes := by
      decide
    rw [if_pos hascii] at h
    exact hall rune.toNat hascii h
  · rw [if_neg hascii] at h
    cases hfind : lowerCaseRuns.find? (·.covers rune.toNat) with
    | none =>
      rw [hfind] at h
      exact h
    | some run =>
      rw [hfind] at h
      dsimp only at h
      obtain ⟨-, gap, hgap, hgapPos, hlow, hhigh⟩ := addressCodes_gap _ h
      have hcovers := List.find?_some hfind
      have hapart := lowerCaseRuns_gaps run (List.mem_of_find?_eq_some hfind) gap hgap
      simp only [CaseRun.covers, Bool.and_eq_true, decide_eq_true_eq] at hcovers
      by_cases hvalid : ((rune.toNat : Int) + run.shift).toNat.isValidChar
      · have hmoved : (Char.ofNat ((rune.toNat : Int) + run.shift).toNat).toNat = _ :=
          toNat_val_ofNat hvalid
        omega
      · rw [Char.ofNat, dif_neg hvalid] at hlow
        change gap.1 ≤ 0 at hlow
        omega

/-- A text of white space and of the characters of an address. -/
def AddressLike (bytes : Bytes) : Prop :=
  ∃ chars : List Char, (∀ c ∈ chars, c.toNat ∈ addressCodes) ∧
    bytes = chars.flatMap String.utf8EncodeChar

theorem AddressLike.append {a b : Bytes} (ha : AddressLike a) (hb : AddressLike b) :
    AddressLike (a ++ b) := by
  obtain ⟨front, hfront, rfl⟩ := ha
  obtain ⟨back, hback, rfl⟩ := hb
  exact ⟨front ++ back, List.forall_mem_append.mpr ⟨hfront, hback⟩, List.flatMap_append.symm⟩

theorem addressLike_flatten {items : List Bytes} (h : ∀ item ∈ items, AddressLike item) :
    AddressLike items.flatten := by
  induction items with
  | nil => exact ⟨[], nofun, rfl⟩
  | cons item more ih =>
    rw [List.forall_mem_cons] at h
    exact h.1.append (ih h.2)

theorem addressLike_of_code {code : Nat} (h : code ∈ addressCodes) :
    AddressLike (String.utf8EncodeChar (Char.ofNat code)) := by
  have hcode : (Char.ofNat code).toNat = code :=
    toNat_val_ofNat (.inl (addressCodes_gap code h).1)
  refine ⟨[Char.ofNat code], ?_, (List.append_nil _).symm⟩
  rw [List.forall_mem_singleton, hcode]
  exact h

theorem addressLike_of_parseIP {ip : Bytes} (h : parseIP (trimSpace bytes) = some ip) :
    AddressLike bytes := by
  have hspace {items : List Bytes} (hitems : ∀ item ∈ items, item ∈ whiteSpace) :
      AddressLike items.flatten := by
    refine addressLike_flatten fun item hitem => ?_
    obtain ⟨code, hcode, rfl⟩ := List.mem_map.mp (hitems item hitem)
    exact addressLike_of_code (List.mem_append_left _ hcode)
  have htext : AddressLike (trimSpace bytes) := by
    have hsingle : ((trimSpace bytes).map fun b => [b]).flatten = trimSpace bytes :=
      List.flatMap_singleton' _
    rw [← hsingle]
    refine addressLike_flatten fun item hitem => ?_
    obtain ⟨b, hb, rfl⟩ := List.mem_map.mp hitem
    obtain ⟨hascii, hcode⟩ := isAddressLetter_spec b (letters_of_parseIP h b hb)
    rw [← utf8EncodeChar_ascii hascii]
    exact addressLike_of_code hcode
  obtain ⟨front, back, hfront, hback, hbytes⟩ := exists_spaces_around bytes
  rw [hbytes]
  exact (hspace hfront).append (htext.append (hspace hback))

theorem AddressLike.toLower_eq (h : AddressLike bytes) : toLower bytes = bytes.map lowerByte := by
  have hcodes : ∀ code ∈ addressCodes, String.utf8EncodeChar (runeToLower (Char.ofNat code)) =
      (String.utf8EncodeChar (Char.ofNat code)).map lowerByte := by
    decide +kernel
  obtain ⟨chars, hchars, rfl⟩ := h
  rw [toLower, runes_flatMap _ le_rfl, List.map_flatMap]
  refine List.flatMap_congr fun c hc => ?_
  have hc := hcodes c.toNat (hchars c hc)
  rwa [Char.ofNat_toNat] at hc

theorem AddressLike.of_toLower (h : AddressLike (toLower bytes)) : AddressLike bytes := by
  obtain ⟨chars, hchars, hbytes⟩ := h
  have hlower : (runes bytes.length bytes).map runeToLower = chars := by
    rw [← runes_flatMap ((runes bytes.length bytes).map runeToLower) le_rfl,
      ← runes_flatMap chars le_rfl, ← hbytes, toLower, List.flatMap_map]
  have hrunes : ∀ c ∈ runes bytes.length bytes, c.toNat ∈ addressCodes := by
    intro c hc
    apply mem_addressCodes_of_runeToLower
    exact hchars _ (hlower ▸ List.mem_map_of_mem hc)
  refine ⟨_, hrunes, (flatMap_runes le_rfl ?_).symm⟩
  rintro c hc rfl
  exact absurd (addressCodes_gap _ (hrunes _ hc)).1 (by decide)

theorem parseIP_trimSpace_toLower :
    parseIP (trimSpace (toLower bytes)) = parseIP (trimSpace bytes) := by
  by_cases hlike : AddressLike bytes
  · have hspace : ∀ item ∈ whiteSpace, ∀ b ∈ item, ∀ c, lowerByte c = b ↔ c = b := by
      have hbytes : ∀ item ∈ whiteSpace, ∀ b ∈ item, b.toNat < 65 ∨ 122 < b.toNat := by
        decide +kernel
      intro item hitem b hb c
      have hb := hbytes item hitem b hb
      rw [← UInt8.toNat_inj, ← UInt8.toNat_inj, toNat_lowerByte]
      split <;> omega
    rw [hlike.toLower_eq, trimSpace_map hspace, parseIP_map]
  · have hnone {s : Bytes} (hs : ¬ AddressLike s) : parseIP (trimSpace s) = none := by
      cases hip : parseIP (trimSpace s) with
      | none => rfl
      | some ip => exact absurd (addressLike_of_parseIP s hip) hs
    rw [hnone hlike, hnone (mt (AddressLike.of_toLower bytes) hlike)]

theorem parseIP_trimSpace_congr {s t : Bytes} (h : toLower s = toLower t) :
    parseIP (trimSpace s) = parseIP (trimSpace t) := by
  rw [← parseIP_trimSpace_toLower s, h, parseIP_trimSpace_toLower]

end GateSentry.Foundation.Net
