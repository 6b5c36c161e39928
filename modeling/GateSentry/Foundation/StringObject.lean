import GateSentry.Foundation.ByteText

/-!
# JSON objects of strings

What `encoding/json` writes for a map of strings and reads into one.  Invalid UTF-8 is
replaced on the way, everything else is read back as it was written.
-/

namespace GateSentry.Foundation.StringObject

open ByteText

/-! ## Strings -/

def unicodeEscape (n : Nat) : Bytes :=
  [92, 117, hexDigit (n / 4096 % 16), hexDigit (n / 256 % 16), hexDigit (n / 16 % 16),
    hexDigit (n % 16)]

def unicodeValue (a b c d : UInt8) : Option Nat := do
  return (((← hexValue a) * 16 + (← hexValue b)) * 16 + (← hexValue c)) * 16 + (← hexValue d)

def shortEscapes : List (UInt8 × UInt8) :=
  [(34, 34), (92, 92), (98, 8), (102, 12), (110, 10), (114, 13), (116, 9)]

/-- The characters that are escaped by their number, HTML and the line separators among
them. -/
def needsUnicodeEscape (n : Nat) : Bool :=
  n < 32 || n = 38 || n = 60 || n = 62 || n = 0x2028 || n = 0x2029

def escapeRune (c : Char) : Bytes :=
  match shortEscapes.find? (·.2.toNat = c.toNat) with
  | some (letter, _) => [92, letter]
  | none => if needsUnicodeEscape c.toNat then unicodeEscape c.toNat else String.utf8EncodeChar c

def writtenRune (rune : Char) (size : Nat) : Bytes :=
  if rune = runeError ∧ size = 1 then unicodeEscape 0xfffd else escapeRune rune

def quoteBody : Nat → Bytes → Bytes
  | 0, _ => []
  | _, [] => []
  | fuel + 1, first :: rest =>
    let (rune, size) := decodeRune first rest
    writtenRune rune size ++ quoteBody fuel (rest.drop (size - 1))

def quote (text : Bytes) : Bytes := 34 :: quoteBody text.length text ++ [34]

/-- A part of a string: a byte, or the number of an escape, which may be half of a pair. -/
inductive Piece where
  | byte (b : UInt8)
  | unit (code : Nat)

def isHigh (code : Nat) : Bool := 0xd800 ≤ code && code < 0xdc00

def isLow (code : Nat) : Bool := 0xdc00 ≤ code && code < 0xe000

def encodeUnit (code : Nat) : Bytes :=
  String.utf8EncodeChar (if isHigh code || isLow code then runeError else Char.ofNat code)

def joinPieces : List Piece → Bytes
  | [] => []
  | .byte b :: rest => b :: joinPieces rest
  | .unit high :: .unit low :: rest =>
    if isHigh high && isLow low then
      String.utf8EncodeChar (Char.ofNat ((high - 0xd800) * 1024 + (low - 0xdc00) + 0x10000)) ++
        joinPieces rest
    else encodeUnit high ++ joinPieces (.unit low :: rest)
  | .unit code :: rest => encodeUnit code ++ joinPieces rest

def addPiece (piece : Piece) (scanned : Option (List Piece × Bytes)) :
    Option (List Piece × Bytes) :=
  scanned.map fun result => (piece :: result.1, result.2)

def scanString : Bytes → Option (List Piece × Bytes)
  | [] => none
  | b :: rest =>
    if b = 34 then some ([], rest)
    else if b < 32 then none
    else if b ≠ 92 then addPiece (.byte b) (scanString rest)
    else
      match rest with
      | 117 :: x :: y :: z :: w :: more =>
        match unicodeValue x y z w with
        | none => none
        | some code => addPiece (.unit code) (scanString more)
      | letter :: more =>
        match ((47, 47) :: shortEscapes).lookup letter with
        | none => none
        | some b => addPiece (.byte b) (scanString more)
      | [] => none

def parseString : Bytes → Option (Text × Bytes)
  | 34 :: rest => (scanString rest).map fun result => (validText (joinPieces result.1), result.2)
  | _ => none

/-! ## Objects -/

def skipSpace (text : Bytes) : Bytes :=
  text.dropWhile fun b => b = 32 || b = 9 || b = 13 || b = 10

def parseValue (text : Bytes) : Option (Text × Bytes) :=
  match cutPrefix text (utf8 "null") with
  | some rest => some (validText [], rest)
  | none => parseString text

def parseMember (text : Bytes) : Option ((Text × Text) × Bytes) := do
  let (key, rest) ← parseString (skipSpace text)
  let rest ← cutPrefix (skipSpace rest) [58]
  let (value, rest) ← parseValue (skipSpace rest)
  return ((key, value), skipSpace rest)

def parseMembers : Nat → Bytes → Option (List (Text × Text) × Bytes)
  | 0, _ => none
  | fuel + 1, text =>
    match parseMember text with
    | some (member, 44 :: rest) =>
      (parseMembers fuel rest).map fun result => (member :: result.1, result.2)
    | some (member, 125 :: rest) => some ([member], rest)
    | _ => none

def parseBody (text : Bytes) : Option (List (Text × Text) × Bytes) :=
  match skipSpace text with
  | 125 :: rest => some ([], rest)
  | members => parseMembers members.length members

def parse (text : Bytes) : Option (List (Text × Text)) :=
  match skipSpace text with
  | 123 :: body =>
    match parseBody body with
    | some (members, rest) => if (skipSpace rest).isEmpty then some members else none
    | none => none
  | _ => none

def entryBytes (entries : List (Text × Text)) : List (Bytes × Bytes) :=
  entries.map fun entry => (entry.1.1, entry.2.1)

def separated : List Bytes → Bytes
  | [] => []
  | [item] => item
  | item :: rest => item ++ 44 :: separated rest

def member (entry : Bytes × Bytes) : Bytes := quote entry.1 ++ 58 :: quote entry.2

def encode (entries : List (Bytes × Bytes)) : Bytes :=
  123 :: separated (entries.map member) ++ [125]

/-! ## Strings read back -/

theorem hexValue_hexDigit : ∀ n < 16, hexValue (hexDigit n) = some n := by
  decide

theorem unicodeValue_hexDigit {n : Nat} (h : n < 65536) :
    unicodeValue (hexDigit (n / 4096 % 16)) (hexDigit (n / 256 % 16)) (hexDigit (n / 16 % 16))
      (hexDigit (n % 16)) = some n := by
  have hcode : ((n / 4096 % 16 * 16 + n / 256 % 16) * 16 + n / 16 % 16) * 16 + n % 16 = n := by
    omega
  unfold unicodeValue
  rw [hexValue_hexDigit _ (by omega), hexValue_hexDigit _ (by omega),
    hexValue_hexDigit _ (by omega), hexValue_hexDigit _ (by omega)]
  exact congrArg some hcode

theorem scanString_unicodeEscape {n : Nat} (h : n < 65536) (rest : Bytes) :
    scanString (unicodeEscape n ++ rest) = addPiece (.unit n) (scanString rest) := by
  have hscan : scanString (unicodeEscape n ++ rest) =
      match unicodeValue (hexDigit (n / 4096 % 16)) (hexDigit (n / 256 % 16))
        (hexDigit (n / 16 % 16)) (hexDigit (n % 16)) with
      | none => none
      | some code => addPiece (.unit code) (scanString rest) := rfl
  rw [hscan, unicodeValue_hexDigit h]

theorem joinPieces_unit {code : Nat} (hhigh : isHigh code = false) (hlow : isLow code = false)
    (more : List Piece) :
    joinPieces (.unit code :: more) =
      String.utf8EncodeChar (Char.ofNat code) ++ joinPieces more := by
  have hunit : encodeUnit code = String.utf8EncodeChar (Char.ofNat code) := by
    simp [encodeUnit, hhigh, hlow]
  cases more with
  | nil =>
    rw [← hunit]
    rfl
  | cons piece rest =>
    cases piece with
    | byte b =>
      rw [← hunit]
      rfl
    | unit low => simp [joinPieces, hhigh, hunit]

def Writes (text : Bytes) (c : Char) : Prop :=
  ∃ pieces, (∀ rest, scanString (text ++ rest) =
      (scanString rest).map fun result => (pieces ++ result.1, result.2)) ∧
    ∀ more, joinPieces (pieces ++ more) = String.utf8EncodeChar c ++ joinPieces more

variable (c : Char)

theorem writes_unicodeEscape (h : c.toNat < 65536) : Writes (unicodeEscape c.toNat) c := by
  have hvalid : c.toNat < 0xd800 ∨ 0xdfff < c.toNat ∧ c.toNat < 0x110000 := c.valid
  have hhigh : isHigh c.toNat = false := by
    simp only [isHigh, Bool.and_eq_false_iff, decide_eq_false_iff_not]
    omega
  have hlow : isLow c.toNat = false := by
    simp only [isLow, Bool.and_eq_false_iff, decide_eq_false_iff_not]
    omega
  refine ⟨[.unit c.toNat], fun rest => scanString_unicodeEscape h rest, fun more => ?_⟩
  rw [List.singleton_append, joinPieces_unit hhigh hlow, Char.ofNat_toNat]

def isLiteral (b : UInt8) : Bool := !(b = 34 || b = 92 || b < 32)

theorem scanString_literal {b : UInt8} (h : isLiteral b = true) (rest : Bytes) :
    scanString (b :: rest) = addPiece (.byte b) (scanString rest) := by
  simp only [isLiteral, Bool.not_eq_true', Bool.or_eq_false_iff, decide_eq_false_iff_not] at h
  rw [scanString.eq_def]
  simp [h]

theorem scanString_literals {bytes : Bytes} (h : ∀ b ∈ bytes, isLiteral b = true) (rest : Bytes) :
    scanString (bytes ++ rest) =
      (scanString rest).map fun result => (bytes.map Piece.byte ++ result.1, result.2) := by
  induction bytes with
  | nil => simp
  | cons b bytes ih =>
    rw [List.cons_append, scanString_literal (h b List.mem_cons_self),
      ih fun b hb => h b (List.mem_cons_of_mem _ hb), addPiece, Option.map_map]
    rfl

theorem joinPieces_bytes (bytes : Bytes) (more : List Piece) :
    joinPieces (bytes.map Piece.byte ++ more) = bytes ++ joinPieces more := by
  induction bytes with
  | nil => rfl
  | cons b bytes ih => rw [List.map_cons, List.cons_append, joinPieces, ih, List.cons_append]

theorem writes_literals {c : Char} (h : ∀ b ∈ String.utf8EncodeChar c, isLiteral b = true) :
    Writes (String.utf8EncodeChar c) c :=
  ⟨_, scanString_literals h, joinPieces_bytes _⟩

theorem isLiteral_utf8EncodeChar {c : Char} (hquote : c.toNat ≠ 34) (hslash : c.toNat ≠ 92)
    (hcontrol : 32 ≤ c.toNat) : ∀ b ∈ String.utf8EncodeChar c, isLiteral b = true := by
  have hbyte (n : Nat) (hn : n < 256) (h : n ≠ 34 ∧ n ≠ 92 ∧ 32 ≤ n) :
      isLiteral (UInt8.ofNat n) = true := by
    have hall : ∀ n < 256, n ≠ 34 ∧ n ≠ 92 ∧ 32 ≤ n → isLiteral (UInt8.ofNat n) = true := by
      decide +kernel
    exact hall n hn h
  change c.val.toNat ≠ 34 at hquote
  change c.val.toNat ≠ 92 at hslash
  change 32 ≤ c.val.toNat at hcontrol
  intro b hb
  unfold String.utf8EncodeChar at hb
  dsimp only at hb
  split at hb
  · obtain rfl := List.mem_singleton.mp hb
    exact hbyte _ (by omega) (by omega)
  · repeat' split at hb
    all_goals
      simp only [List.mem_cons, List.not_mem_nil, or_false] at hb
      rcases hb with rfl | rfl | rfl | rfl <;> exact hbyte _ (by omega) (by omega)

theorem scanString_shortEscape {entry : UInt8 × UInt8} (h : entry ∈ shortEscapes) (rest : Bytes) :
    scanString (92 :: entry.1 :: rest) = addPiece (.byte entry.2) (scanString rest) := by
  simp only [shortEscapes, List.mem_cons, List.not_mem_nil, or_false] at h
  rcases h with rfl | rfl | rfl | rfl | rfl | rfl | rfl <;> rfl

theorem writes_escapeRune : Writes (escapeRune c) c := by
  unfold escapeRune
  cases hfind : shortEscapes.find? (·.2.toNat = c.toNat) with
  | some entry =>
    have hmem := List.mem_of_find?_eq_some hfind
    have hcode : entry.2.toNat = c.toNat := by simpa using List.find?_some hfind
    have hall : (shortEscapes.all fun entry => decide (entry.2 < 0x80)) = true := by decide
    have hascii : entry.2 < 0x80 := by simpa using List.all_eq_true.mp hall entry hmem
    have hencode : String.utf8EncodeChar c = [entry.2] := by
      rw [← utf8EncodeChar_ascii hascii, hcode, Char.ofNat_toNat]
    refine ⟨[.byte entry.2], fun rest => scanString_shortEscape hmem rest, fun more => ?_⟩
    rw [hencode]
    rfl
  | none =>
    have hshort : ∀ entry ∈ shortEscapes, entry.2.toNat ≠ c.toNat := by
      simpa using List.find?_eq_none.mp hfind
    dsimp only
    split
    · next hneeds =>
      apply writes_unicodeEscape
      simp only [needsUnicodeEscape, Bool.or_eq_true, decide_eq_true_eq] at hneeds
      omega
    · next hplain =>
      simp only [needsUnicodeEscape, Bool.or_eq_true, decide_eq_true_eq] at hplain
      apply writes_literals
      apply isLiteral_utf8EncodeChar
      · exact (hshort (34, 34) (by decide)).symm
      · exact (hshort (92, 92) (by decide)).symm
      · omega

theorem writes_writtenRune (size : Nat) : Writes (writtenRune c size) c := by
  unfold writtenRune
  split
  · next herror =>
    rw [herror.1]
    exact writes_unicodeEscape runeError (by decide)
  · exact writes_escapeRune c

theorem scanString_quoteBody (fuel : Nat) (text : Bytes) : ∃ pieces,
    (∀ rest, scanString (quoteBody fuel text ++ 34 :: rest) = some (pieces, rest)) ∧
      joinPieces pieces = (runes fuel text).flatMap String.utf8EncodeChar := by
  have hclosed (rest : Bytes) : scanString (34 :: rest) = some ([], rest) := by
    rw [scanString.eq_def]
    exact if_pos rfl
  induction fuel generalizing text with
  | zero =>
    refine ⟨[], fun rest => ?_, by rfl⟩
    exact hclosed rest
  | succ fuel ih =>
    cases text with
    | nil => exact ⟨[], hclosed, rfl⟩
    | cons first rest =>
      obtain ⟨pieces, hscan, hjoin⟩ := ih (rest.drop ((decodeRune first rest).2 - 1))
      obtain ⟨front, hfront, hjoinFront⟩ :=
        writes_writtenRune (decodeRune first rest).1 (decodeRune first rest).2
      refine ⟨front ++ pieces, fun after => ?_, ?_⟩
      · rw [quoteBody]
        rw [List.append_assoc, hfront, hscan]
        rfl
      · rw [hjoinFront, hjoin]
        rfl

theorem parseString_quote (text rest : Bytes) :
    parseString (quote text ++ rest) = some (validText text, rest) := by
  obtain ⟨pieces, hscan, hjoin⟩ := scanString_quoteBody text.length text
  have hquote : quote text ++ rest = 34 :: (quoteBody text.length text ++ 34 :: rest) := by
    simp [quote]
  rw [hquote, parseString, hscan, Option.map_some, hjoin]
  exact congrArg (fun read => some (read, rest)) (Subtype.ext (toValidUTF8_toValidUTF8 text))

/-! ## Objects read back -/

theorem skipSpace_of_not {b : UInt8} (h : (b = 32 || b = 9 || b = 13 || b = 10) = false)
    (rest : Bytes) : skipSpace (b :: rest) = b :: rest := by
  rw [skipSpace, List.dropWhile_cons_of_neg]
  simpa using h

def validEntry (entry : Bytes × Bytes) : Text × Text := (validText entry.1, validText entry.2)

theorem parseMember_member (entry : Bytes × Bytes) (rest : Bytes) :
    parseMember (member entry ++ rest) = some (validEntry entry, skipSpace rest) := by
  have hkey : member entry ++ rest = quote entry.1 ++ 58 :: (quote entry.2 ++ rest) := by
    simp [member]
  have hskip (text rest : Bytes) : skipSpace (quote text ++ rest) = quote text ++ rest :=
    skipSpace_of_not (by decide) _
  have hvalue : parseValue (quote entry.2 ++ rest) = some (validText entry.2, rest) := by
    rw [← parseString_quote]
    rfl
  rw [hkey, parseMember, hskip, parseString_quote]
  simp only [bind, Option.bind]
  rw [skipSpace_of_not (by decide)]
  have hcolon (rest : Bytes) : cutPrefix (58 :: rest) [58] = some rest := by simp [cutPrefix]
  simp only [hcolon, hskip, hvalue]
  rfl

variable {entries : List (Bytes × Bytes)}

theorem parseMembers_separated (hne : entries ≠ [])
    {fuel : Nat} (hfuel : entries.length ≤ fuel) (rest : Bytes) :
    parseMembers fuel (separated (entries.map member) ++ 125 :: rest) =
      some (entries.map validEntry, rest) := by
  induction entries generalizing fuel with
  | nil => exact absurd rfl hne
  | cons entry entries ih =>
    cases fuel with
    | zero => simp at hfuel
    | succ fuel =>
      cases entries with
      | nil =>
        have htext : separated ([entry].map member) ++ 125 :: rest =
            member entry ++ 125 :: rest := rfl
        rw [htext, parseMembers, parseMember_member]
        rfl
      | cons other entries =>
        have htext : separated ((entry :: other :: entries).map member) ++ 125 :: rest =
            member entry ++ 44 :: (separated ((other :: entries).map member) ++ 125 :: rest) := by
          simp [separated]
        rw [htext, parseMembers, parseMember_member, skipSpace_of_not (by decide)]
        simp only
        rw [ih (List.cons_ne_nil _ _) (by simpa using hfuel)]
        rfl

theorem length_le_separated (entries : List (Bytes × Bytes)) :
    entries.length ≤ (separated (entries.map member)).length := by
  induction entries with
  | nil => simp
  | cons entry entries ih =>
    cases entries with
    | nil => simp [separated, member, quote]
    | cons other entries =>
      simp only [List.map_cons, separated, List.length_append, List.length_cons] at ih ⊢
      omega

theorem parse_encode (entries : List (Bytes × Bytes)) :
    parse (encode entries) = some (entries.map validEntry) := by
  have hopen : skipSpace (encode entries) = encode entries := skipSpace_of_not (by decide) _
  have hbody : parseBody (separated (entries.map member) ++ [125]) =
      some (entries.map validEntry, []) := by
    cases entries with
    | nil => rfl
    | cons entry rest =>
      have hquoted : ∃ more, separated ((entry :: rest).map member) ++ [125] = 34 :: more := by
        cases rest with
        | nil | cons => exact ⟨_, rfl⟩
      have hlength := length_le_separated (entry :: rest)
      have hfuel : (entry :: rest).length ≤
          (separated ((entry :: rest).map member) ++ [125]).length := by
        rw [List.length_append]
        omega
      have hmembers := parseMembers_separated (List.cons_ne_nil entry rest) hfuel []
      obtain ⟨more, hmore⟩ := hquoted
      rw [hmore] at hmembers ⊢
      exact hmembers
  unfold parse
  rw [hopen]
  simp only [encode]
  rw [List.cons_append]
  simp only [hbody]
  rfl

example : (parse (encode [(utf8 "a\n\"", utf8 "<é\u2028"), ([0xff], [])])).map entryBytes =
    some [(utf8 "a\n\"", utf8 "<é\u2028"), (utf8 "\ufffd", [])] := by
  decide +kernel

example : (parse (utf8 " \x7b\"a\" : null , \"\\ud83d\\ude00\":\"\\ud83d\"\x7d ")).map
    entryBytes = some [(utf8 "a", []), (utf8 "😀", utf8 "\ufffd")] := by
  decide +kernel

/-! ## What is written is text -/

theorem hexDigit_lt : ∀ n < 16, hexDigit n < 0x80 := by
  decide

theorem validUTF8_unicodeEscape (n : Nat) : ValidUTF8 (unicodeEscape n) := by
  apply toValidUTF8_of_ascii
  intro b hb
  simp only [unicodeEscape, List.mem_cons, List.not_mem_nil, or_false] at hb
  rcases hb with rfl | rfl | rfl | rfl | rfl | rfl
  · decide
  · decide
  all_goals exact hexDigit_lt _ (by omega)

theorem validUTF8_escapeRune : ValidUTF8 (escapeRune c) := by
  unfold escapeRune
  split
  · next letter byte hfind =>
    have hall : (shortEscapes.all fun entry => decide (ValidUTF8 [92, entry.1])) = true := by
      decide
    have hmem := List.mem_of_find?_eq_some hfind
    exact of_decide_eq_true (List.all_eq_true.mp hall (letter, byte) hmem)
  · split
    · exact validUTF8_unicodeEscape _
    · have hchar := toValidUTF8_flatMap [c]
      rwa [List.flatMap_singleton] at hchar

theorem validUTF8_writtenRune (size : Nat) : ValidUTF8 (writtenRune c size) := by
  unfold writtenRune
  split
  · exact validUTF8_unicodeEscape _
  · exact validUTF8_escapeRune c

theorem validUTF8_quoteBody (fuel : Nat) (text : Bytes) : ValidUTF8 (quoteBody fuel text) := by
  induction fuel generalizing text with
  | zero => rfl
  | succ fuel ih =>
    cases text with
    | nil => rfl
    | cons first rest => exact (validUTF8_writtenRune _ _).append (ih _)

theorem validUTF8_quote (text : Bytes) : ValidUTF8 (quote text) := by
  have hquote : ValidUTF8 [34] := by decide
  exact (hquote.append (validUTF8_quoteBody _ _)).append hquote

theorem validUTF8_member (entry : Bytes × Bytes) : ValidUTF8 (member entry) := by
  have hcolon : ValidUTF8 [58] := by decide
  exact (validUTF8_quote _).append (hcolon.append (validUTF8_quote _))

theorem validUTF8_separated {items : List Bytes} (h : ∀ item ∈ items, ValidUTF8 item) :
    ValidUTF8 (separated items) := by
  have hcomma : ValidUTF8 [44] := by decide
  induction items with
  | nil => rfl
  | cons item rest ih =>
    have hitem := h item List.mem_cons_self
    have hrest := ih fun other hother => h other (List.mem_cons_of_mem _ hother)
    cases rest with
    | nil => exact hitem
    | cons other rest => exact hitem.append (hcomma.append hrest)

theorem validUTF8_encode (entries : List (Bytes × Bytes)) : ValidUTF8 (encode entries) := by
  have hopen : ValidUTF8 [123] := by decide
  have hclose : ValidUTF8 [125] := by decide
  have hmembers : ValidUTF8 (separated (entries.map member)) := by
    apply validUTF8_separated
    intro item hitem
    obtain ⟨entry, _, rfl⟩ := List.mem_map.mp hitem
    exact validUTF8_member entry
  exact (hopen.append hmembers).append hclose

end GateSentry.Foundation.StringObject
