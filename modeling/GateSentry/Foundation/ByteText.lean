import GateSentry.Foundation.Strings
import GateSentry.Foundation.Outcome

/-!
# Go strings as bytes

What a client sends need not be valid UTF-8.  Where the gateway handles such
text, a Go string is its bytes, and the functions of the `strings` package work
on these.
-/

namespace GateSentry.Foundation.ByteText

def utf8 (s : String) : Bytes := s.toList.flatMap String.utf8EncodeChar

def isDigit (b : UInt8) : Bool := 48 ≤ b && b ≤ 57

def hexDigit (n : Nat) : UInt8 := UInt8.ofNat (if n < 10 then n + 48 else n + 87)

def hexValue (b : UInt8) : Option Nat :=
  if 48 ≤ b ∧ b ≤ 57 then some (b.toNat - 48)
  else if 97 ≤ b ∧ b ≤ 102 then some (b.toNat - 87)
  else if 65 ≤ b ∧ b ≤ 70 then some (b.toNat - 55)
  else none

/-! ## Letter case -/

def runeError : Char := Char.ofNat 0xfffd

/-- `utf8.DecodeRune`: the first character and how many bytes it takes. -/
def decodeRune (first : UInt8) (rest : Bytes) : Char × Nat :=
  if first < 0x80 then (Char.ofNat first.toNat, 1)
  else
    match (first :: rest).toByteArray.utf8DecodeChar? 0 with
    | some rune => (rune, rune.utf8Size)
    | none => (runeError, 1)

def runes : Nat → Bytes → List Char
  | 0, _ => []
  | _, [] => []
  | fuel + 1, first :: rest =>
    let (rune, size) := decodeRune first rest
    rune :: runes fuel (rest.drop (size - 1))

def toLower (bytes : Bytes) : Bytes :=
  (runes bytes.length bytes).flatMap fun c => String.utf8EncodeChar (runeToLower c)

/-- Fold to lower case, as far as folding can reach an ASCII letter: the long s
and the Kelvin sign fold like `s` and `k`. -/
def foldCase : Bytes → Bytes
  | 0xc5 :: 0xbf :: rest => 115 :: foldCase rest
  | 0xe2 :: 0x84 :: 0xaa :: rest => 107 :: foldCase rest
  | b :: rest => (if 65 ≤ b ∧ b ≤ 90 then b + 32 else b) :: foldCase rest
  | [] => []

/-- `strings.EqualFold` with an ASCII text. -/
def equalFold (bytes text : Bytes) : Bool := foldCase bytes = foldCase text

example : equalFold (utf8 "WebSocKet") (utf8 "websocket") = true := by decide

/-! ## Valid text -/

/-- The bytes with every invalid sequence replaced, as `encoding/json` stores a string. -/
def toValidUTF8 (bytes : Bytes) : Bytes :=
  (runes bytes.length bytes).flatMap String.utf8EncodeChar

theorem byte_forall {p : UInt8 → Prop} (h : ∀ n < 256, p (UInt8.ofNat n)) (b : UInt8) : p b := by
  rw [← UInt8.ofNat_toNat (x := b)]
  exact h b.toNat b.toNat_lt

variable {b : UInt8}

theorem utf8EncodeChar_ascii (h : b < 0x80) :
    String.utf8EncodeChar (Char.ofNat b.toNat) = [b] := by
  have hall : ∀ n < 128, String.utf8EncodeChar (Char.ofNat n) = [UInt8.ofNat n] := by decide
  have hb : b.toNat < 128 := h
  rw [hall b.toNat hb, UInt8.ofNat_toNat]

variable {bytes : Bytes}

theorem runes_of_ascii (h : ∀ b ∈ bytes, b < 0x80) :
    runes bytes.length bytes = bytes.map fun b => Char.ofNat b.toNat := by
  induction bytes with
  | nil => rfl
  | cons b rest ih =>
    have hrune : decodeRune b rest = (Char.ofNat b.toNat, 1) := if_pos (h b List.mem_cons_self)
    rw [List.map_cons, ← ih fun b hb => h b (List.mem_cons_of_mem _ hb)]
    simp only [List.length_cons, runes, hrune]
    rfl

theorem toValidUTF8_of_ascii (h : ∀ b ∈ bytes, b < 0x80) : toValidUTF8 bytes = bytes := by
  rw [toValidUTF8, runes_of_ascii h, List.flatMap_map,
    List.flatMap_congr fun b hb => utf8EncodeChar_ascii (h b hb), List.flatMap_singleton']

theorem utf8DecodeChar_encoded (c : Char) (rest : Bytes) :
    (String.utf8EncodeChar c ++ rest).toByteArray.utf8DecodeChar? 0 = some c := by
  rw [List.toByteArray_append]
  exact ByteArray.utf8DecodeChar?_utf8EncodeChar_append

theorem decodeRune_utf8EncodeChar (c : Char) : ∃ first others,
    String.utf8EncodeChar c = first :: others ∧
      ∀ rest, decodeRune first (others ++ rest) = (c, others.length + 1) := by
  have hsize := String.length_utf8EncodeChar c
  cases hencode : String.utf8EncodeChar c with
  | nil =>
    rw [hencode] at hsize
    exact absurd hsize.symm (Nat.ne_of_gt c.utf8Size_pos)
  | cons first others =>
    rw [hencode] at hsize
    refine ⟨first, others, rfl, fun rest => ?_⟩
    have hdecode := utf8DecodeChar_encoded c rest
    rw [hencode, List.cons_append] at hdecode
    unfold decodeRune
    split
    · next hascii =>
      have hone := utf8DecodeChar_encoded (Char.ofNat first.toNat) (others ++ rest)
      rw [utf8EncodeChar_ascii hascii, List.singleton_append, hdecode] at hone
      rw [Option.some.inj hone, utf8EncodeChar_ascii hascii] at hencode
      cases hencode
      rw [Option.some.inj hone]
      rfl
    · rw [hdecode]
      exact Prod.ext rfl hsize.symm

theorem runes_utf8EncodeChar (c : Char) (rest : Bytes) {fuel : Nat}
    (h : (String.utf8EncodeChar c ++ rest).length ≤ fuel + 1) :
    runes (fuel + 1) (String.utf8EncodeChar c ++ rest) = c :: runes fuel rest ∧
      rest.length ≤ fuel := by
  obtain ⟨first, others, hencode, hdecode⟩ := decodeRune_utf8EncodeChar c
  rw [hencode, List.cons_append] at h ⊢
  rw [runes, hdecode]
  simp only [Nat.add_one_sub_one, List.drop_left, true_and]
  rw [List.length_cons, List.length_append] at h
  omega

theorem runes_flatMap (chars : List Char) {fuel : Nat}
    (h : (chars.flatMap String.utf8EncodeChar).length ≤ fuel) :
    runes fuel (chars.flatMap String.utf8EncodeChar) = chars := by
  induction chars generalizing fuel with
  | nil =>
    cases fuel with
    | zero | succ => rfl
  | cons c rest ih =>
    rw [List.flatMap_cons] at h ⊢
    cases fuel with
    | zero =>
      obtain ⟨first, others, hencode, _⟩ := decodeRune_utf8EncodeChar c
      rw [hencode] at h
      simp at h
    | succ fuel =>
      obtain ⟨hrunes, hlength⟩ := runes_utf8EncodeChar c _ h
      rw [hrunes, ih hlength]

theorem utf8_injective : Function.Injective utf8 := by
  intro a b h
  have hchars : a.toList = b.toList := by
    rw [← runes_flatMap a.toList le_rfl, ← runes_flatMap b.toList le_rfl]
    change runes (utf8 a).length (utf8 a) = runes (utf8 b).length (utf8 b)
    rw [h]
  exact String.toList_inj.mp hchars

theorem toValidUTF8_flatMap (chars : List Char) :
    toValidUTF8 (chars.flatMap String.utf8EncodeChar) = chars.flatMap String.utf8EncodeChar := by
  rw [toValidUTF8, runes_flatMap _ le_rfl]

theorem toValidUTF8_toValidUTF8 (bytes : Bytes) :
    toValidUTF8 (toValidUTF8 bytes) = toValidUTF8 bytes :=
  toValidUTF8_flatMap _

def ValidUTF8 (bytes : Bytes) : Prop := toValidUTF8 bytes = bytes

instance (bytes : Bytes) : Decidable (ValidUTF8 bytes) :=
  inferInstanceAs (Decidable (toValidUTF8 bytes = bytes))

abbrev Text : Type := { bytes : Bytes // ValidUTF8 bytes }

def validText (bytes : Bytes) : Text := ⟨toValidUTF8 bytes, toValidUTF8_toValidUTF8 bytes⟩

theorem ValidUTF8.append {a b : Bytes} (ha : ValidUTF8 a) (hb : ValidUTF8 b) :
    ValidUTF8 (a ++ b) := by
  have hchars : a ++ b = (runes a.length a ++ runes b.length b).flatMap String.utf8EncodeChar := by
    rw [List.flatMap_append]
    exact congrArg₂ (· ++ ·) ha.symm hb.symm
  rw [hchars]
  exact toValidUTF8_flatMap _

/-! ## Prefixes and suffixes -/

def cutPrefix (bytes lead : Bytes) : Option Bytes :=
  if lead.isPrefixOf bytes then some (bytes.drop lead.length) else none

def trimPrefix (bytes lead : Bytes) : Bytes := (cutPrefix bytes lead).getD bytes

def trimSuffix (bytes tail : Bytes) : Bytes :=
  if tail.isSuffixOf bytes then bytes.take (bytes.length - tail.length) else bytes

/-! ## White space -/

/-- The characters with the property `White_Space`. -/
def spaceCodes : List Nat :=
  [9, 10, 11, 12, 13, 32, 0x85, 0xa0, 0x1680, 0x2000, 0x2001, 0x2002, 0x2003, 0x2004, 0x2005,
    0x2006, 0x2007, 0x2008, 0x2009, 0x200a, 0x2028, 0x2029, 0x202f, 0x205f, 0x3000]

def whiteSpace : List Bytes :=
  spaceCodes.map fun code => String.utf8EncodeChar (Char.ofNat code)

def dropItems (table : List Bytes) : Nat → Bytes → Bytes
  | 0, bytes => bytes
  | fuel + 1, bytes =>
    match table.find? (·.isPrefixOf bytes) with
    | some item => dropItems table fuel (bytes.drop item.length)
    | none => bytes

def trimSpace (bytes : Bytes) : Bytes :=
  let left := dropItems whiteSpace bytes.length bytes
  (dropItems (whiteSpace.map List.reverse) left.length left.reverse).reverse

def isPlain (b : UInt8) : Bool := b < 0x80 && !(b = 32 || (9 ≤ b && b ≤ 13))

theorem whiteSpace_not_isPlain : ∀ item ∈ whiteSpace, ∀ b ∈ item, isPlain b = false := by
  decide +kernel

theorem reverse_not_isPlain :
    ∀ item ∈ whiteSpace.map List.reverse, ∀ b ∈ item, isPlain b = false := by
  decide +kernel

variable {table : List Bytes}

section

variable (htable : ∀ item ∈ table, ∀ b ∈ item, isPlain b = false)

include htable

theorem dropItems_append (fuel : Nat) (front : Bytes) (hplain : isPlain b = true) (rest : Bytes) :
    ∃ kept, kept <:+ front ∧ dropItems table fuel (front ++ b :: rest) = kept ++ b :: rest := by
  induction fuel generalizing front with
  | zero => exact ⟨front, List.suffix_refl front, rfl⟩
  | succ fuel ih =>
    rw [dropItems]
    cases hfind : table.find? (·.isPrefixOf (front ++ b :: rest)) with
    | none => exact ⟨front, List.suffix_refl front, rfl⟩
    | some item =>
      have hitem := List.mem_of_find?_eq_some hfind
      have hmatches := List.find?_some hfind
      have hpre : item <+: front ++ b :: rest :=
        List.isPrefixOf_iff_prefix.mp hmatches
      -- an item that reached the plain byte would contain it
      have hlength : item.length ≤ front.length := by
        by_contra hlong
        have hmem : b ∈ item := by
          have hfront : front ++ [b] <+: item :=
            List.prefix_of_prefix_length_le
              ⟨rest, by simp⟩ hpre (by simp; omega)
          exact hfront.subset (by simp)
        rw [htable item hitem b hmem] at hplain
        exact nomatch hplain
      obtain ⟨kept, hkept, hdrop⟩ := ih (front.drop item.length)
      refine ⟨kept, hkept.trans (List.drop_suffix _ _), ?_⟩
      simp only [List.drop_append_of_le_length hlength, hdrop]

theorem dropItems_of_isPlain (fuel : Nat) (hplain : isPlain b = true) (rest : Bytes) :
    dropItems table fuel (b :: rest) = b :: rest := by
  obtain ⟨kept, hkept, hdrop⟩ := dropItems_append htable fuel [] hplain rest
  rw [List.suffix_nil.mp hkept] at hdrop
  exact hdrop

end

theorem trimSpace_append {front : Bytes} (hne : front ≠ [])
    (hplain : ∀ b ∈ front, isPlain b = true) (rest : Bytes) :
    ∃ kept, kept <+: rest ∧ trimSpace (front ++ rest) = front ++ kept := by
  obtain ⟨first, others, rfl⟩ := List.exists_cons_of_ne_nil hne
  obtain ⟨init, last, hlast⟩ : ∃ init last, first :: others = init ++ [last] :=
    ⟨_, _, (List.dropLast_append_getLast (List.cons_ne_nil first others)).symm⟩
  have hfirst : isPlain first = true := hplain first (by simp)
  have hlastPlain : isPlain last = true := hplain last (by rw [hlast]; simp)
  have hleft : dropItems whiteSpace (first :: others ++ rest).length
      (first :: others ++ rest) = first :: others ++ rest :=
    dropItems_of_isPlain whiteSpace_not_isPlain _ hfirst _
  have hreverse : (first :: others ++ rest).reverse = rest.reverse ++ last :: init.reverse := by
    rw [hlast]
    simp
  obtain ⟨kept, hkept, hdrop⟩ := dropItems_append reverse_not_isPlain
    (first :: others ++ rest).length rest.reverse hlastPlain init.reverse
  refine ⟨kept.reverse, ?_, ?_⟩
  · rw [← List.reverse_suffix, List.reverse_reverse]
    exact hkept
  · simp only [trimSpace, hleft, hreverse, hdrop]
    rw [hlast]
    simp

theorem trimSpace_of_isPlain (hplain : ∀ b ∈ bytes, isPlain b = true) :
    trimSpace bytes = bytes := by
  by_cases hne : bytes = []
  · subst hne
    rfl
  · obtain ⟨kept, hkept, htrim⟩ := trimSpace_append hne hplain []
    rw [List.prefix_nil.mp hkept, List.append_nil] at htrim
    exact htrim

theorem trimSpace_space_cons (bytes : Bytes) : trimSpace (32 :: bytes) = trimSpace bytes := by
  have hdrop : dropItems whiteSpace (32 :: bytes).length (32 :: bytes) =
      dropItems whiteSpace bytes.length bytes := rfl
  unfold trimSpace
  rw [hdrop]

example : trimSpace (utf8 " \t a b   ") = utf8 "a b" := by decide

theorem whiteSpace_ne_nil : ∀ item ∈ whiteSpace, item ≠ [] := by
  decide

theorem dropItems_no_item (htable : ∀ item ∈ table, item ≠ [])
    (fuel : Nat) (hfuel : bytes.length ≤ fuel) {item : Bytes}
    (hitem : item ∈ table) : ¬ item <+: dropItems table fuel bytes := by
  induction fuel generalizing bytes with
  | zero =>
    rw [dropItems, List.length_eq_zero_iff.mp (Nat.le_zero.mp hfuel), List.prefix_nil]
    exact htable item hitem
  | succ fuel ih =>
    rw [dropItems]
    cases hfind : table.find? (·.isPrefixOf bytes) with
    | none =>
      have hnone := List.find?_eq_none.mp hfind item hitem
      rwa [List.isPrefixOf_iff_prefix] at hnone
    | some dropped =>
      have hpos : 0 < dropped.length :=
        List.length_pos_iff.mpr (htable dropped (List.mem_of_find?_eq_some hfind))
      apply ih
      rw [List.length_drop]
      omega

theorem dropItems_of_no_item (fuel : Nat)
    (h : ∀ item ∈ table, ¬ item <+: bytes) : dropItems table fuel bytes = bytes := by
  cases fuel with
  | zero => rfl
  | succ fuel =>
    have hfind : table.find? (·.isPrefixOf bytes) = none := by
      rw [List.find?_eq_none]
      intro item hitem
      rw [List.isPrefixOf_iff_prefix]
      exact h item hitem
    rw [dropItems, hfind]

theorem dropItems_suffix (table : List Bytes) (fuel : Nat) (bytes : Bytes) :
    dropItems table fuel bytes <:+ bytes := by
  induction fuel generalizing bytes with
  | zero => exact List.suffix_refl bytes
  | succ fuel ih =>
    rw [dropItems]
    split
    · exact (ih _).trans (List.drop_suffix _ _)
    · exact List.suffix_refl bytes

theorem trimSpace_trimSpace (bytes : Bytes) : trimSpace (trimSpace bytes) = trimSpace bytes := by
  have hreversed : ∀ item ∈ whiteSpace.map List.reverse, item ≠ [] := by decide
  have hfront : ∀ item ∈ whiteSpace, ¬ item <+: trimSpace bytes := by
    intro item hitem hpre
    apply dropItems_no_item whiteSpace_ne_nil bytes.length le_rfl hitem
    apply hpre.trans
    rw [trimSpace, ← List.reverse_suffix, List.reverse_reverse]
    exact dropItems_suffix _ _ _
  have hback : ∀ item ∈ whiteSpace.map List.reverse, ¬ item <+: (trimSpace bytes).reverse := by
    intro item hitem
    rw [trimSpace, List.reverse_reverse]
    exact dropItems_no_item hreversed _ (by rw [List.length_reverse]) hitem
  rw [trimSpace, dropItems_of_no_item _ hfront, dropItems_of_no_item _ hback,
    List.reverse_reverse]

end GateSentry.Foundation.ByteText
