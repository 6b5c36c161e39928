import GateSentry.Foundation.Net

/-!
# Addresses as texts

The text of an address is read back as that address, and it has no letter or
space that a normalization would change.
-/

namespace GateSentry.Foundation.Net

open ByteText

/-! ## Bytes of a text -/

theorem isAddressByte_keeps : ∀ b, isAddressByte b = true →
    isPlain b = true ∧ b < 0x80 ∧ lowerByte b = b := by
  apply byte_forall
  decide +kernel

variable {b : UInt8}

theorem utf8EncodeChar_runeToLower (h : b < 0x80) :
    String.utf8EncodeChar (runeToLower (Char.ofNat b.toNat)) = [lowerByte b] := by
  have hall : ∀ n < 128, String.utf8EncodeChar (runeToLower (Char.ofNat n)) =
      [UInt8.ofNat (asciiToLower n)] := by decide
  exact hall b.toNat h

variable {bytes : Bytes}

theorem toLower_of_ascii (h : ∀ b ∈ bytes, b < 0x80) :
    toLower bytes = bytes.map lowerByte := by
  rw [toLower, runes_of_ascii h, List.flatMap_map, List.map_eq_flatMap]
  exact List.flatMap_congr fun b hb => utf8EncodeChar_runeToLower (h b hb)

section

variable (h : ∀ b ∈ bytes, isAddressByte b = true)

include h

theorem map_lowerByte : bytes.map lowerByte = bytes :=
  (List.map_congr_left fun b hb => (isAddressByte_keeps b (h b hb)).2.2).trans (List.map_id bytes)

theorem toLower_of_isAddressByte : toLower bytes = bytes := by
  rw [toLower_of_ascii fun b hb => (isAddressByte_keeps b (h b hb)).2.1, map_lowerByte h]

theorem trimSpace_of_isAddressByte : trimSpace bytes = bytes :=
  trimSpace_of_isPlain fun b hb => (isAddressByte_keeps b (h b hb)).1

end

theorem mem_joinWith {α : Type} {f : α → Bytes} {separator : Bytes} {items : List α}
    (h : b ∈ joinWith separator (items.map f)) : b ∈ separator ∨ ∃ item ∈ items, b ∈ f item := by
  induction items with
  | nil => cases h
  | cons item rest ih =>
    cases rest with
    | nil => exact .inr ⟨item, List.mem_cons_self, h⟩
    | cons next more =>
      rw [List.map_cons, joinWith, List.mem_append, List.mem_append] at h
      · rcases h with (hitem | hseparator) | hrest
        · exact .inr ⟨item, List.mem_cons_self, hitem⟩
        · exact .inl hseparator
        · rcases ih hrest with hseparator | ⟨other, hother, hb⟩
          · exact .inl hseparator
          · exact .inr ⟨other, List.mem_cons_of_mem _ hother, hb⟩
      · simp

/-! ## Four octets -/

def octetText (b : UInt8) : Bytes := utf8 (toString b.toNat)

theorem digits_of_parseOctet {field : Bytes} {value : UInt8} (h : parseOctet field = some value) :
    ∀ b ∈ field, (48 ≤ b && b ≤ 57) = true := by
  unfold parseOctet at h
  split at h
  · cases h
  · next hfield =>
    rw [not_or, not_not, List.all_eq_true] at hfield
    exact hfield.2

theorem octetText_table : ∀ n < 256,
    parseOctet ((Nat.toDigits 10 n).flatMap String.utf8EncodeChar) = some (UInt8.ofNat n) := by
  decide +kernel

theorem parseOctet_octetText (b : UInt8) : parseOctet (octetText b) = some b := by
  have hall := octetText_table b.toNat b.toNat_lt
  simpa [octetText, utf8] using hall

theorem digit_of_mem_octetText {digit : UInt8} (h : digit ∈ octetText b) :
    48 ≤ digit ∧ digit ≤ 57 := by
  simpa using digits_of_parseOctet (parseOctet_octetText b) digit h

theorem pieces_of_not_mem {separator : UInt8} (h : separator ∉ bytes) :
    Strings.pieces separator bytes = [bytes] := by
  induction bytes with
  | nil => rfl
  | cons b rest ih =>
    simp only [List.mem_cons, not_or] at h
    rw [Strings.pieces, if_neg (fun heq => h.1 heq.symm), ih h.2]

theorem dot_not_mem_octetText (b : UInt8) : dot ∉ octetText b := by
  intro h
  exact absurd (digit_of_mem_octetText h).1 (by decide)

theorem parseIPv4Fields_join (a b c d : UInt8) :
    parseIPv4Fields (joinWith [dot] ([a, b, c, d].map octetText)) = some [a, b, c, d] := by
  have hpieces : Strings.pieces dot (joinWith [dot] ([a, b, c, d].map octetText)) =
      [a, b, c, d].map octetText := by
    simp only [List.map_cons, List.map_nil, joinWith, List.append_assoc, List.singleton_append]
    rw [Strings.pieces_append dot (dot_not_mem_octetText a),
      Strings.pieces_append dot (dot_not_mem_octetText b),
      Strings.pieces_append dot (dot_not_mem_octetText c),
      pieces_of_not_mem (dot_not_mem_octetText d)]
  rw [parseIPv4Fields, hpieces]
  simp only [List.map_cons, List.map_nil, parseOctet_octetText]
  rfl

variable {text : Bytes}

theorem find?_separator {mark : UInt8} (hmem : mark ∈ text) (hmark : mark = dot ∨ mark = colon)
    (honly : ∀ b ∈ text, b = dot ∨ b = colon → b = mark) :
    text.find? (fun b => b = dot || b = colon) = some mark := by
  cases hfind : text.find? (fun b => b = dot || b = colon) with
  | none =>
    have hnone := List.find?_eq_none.mp hfind mark hmem
    rcases hmark with rfl | rfl <;> simp at hnone
  | some b =>
    have hb := List.find?_some hfind
    simp only [Bool.or_eq_true, decide_eq_true_eq] at hb
    rw [honly b (List.mem_of_find?_eq_some hfind) hb]

theorem parseLowered_join (a b c d : UInt8) :
    parseLowered (joinWith [dot] ([a, b, c, d].map octetText)) = some (v4InV6 ++ [a, b, c, d]) := by
  have hfind : (joinWith [dot] ([a, b, c, d].map octetText)).find?
      (fun b => b = dot || b = colon) = some dot := by
    apply find?_separator _ (.inl rfl)
    · intro mark hmark hseparator
      rcases mem_joinWith hmark with hdot | ⟨octet, -, hdigit⟩
      · exact List.mem_singleton.mp hdot
      · have hhigh := (digit_of_mem_octetText hdigit).2
        rcases hseparator with rfl | rfl
        · rfl
        · exact absurd hhigh (by decide)
    · simp [joinWith]
  simp only [parseLowered, hfind, if_true, parseIPv4Fields_join, Option.map_some]

/-! ## Groups of sixteen bits -/

def groupBytes (n : Nat) : Bytes := [UInt8.ofNat (n / 256), UInt8.ofNat n]

def groupsText (groups : List Nat) : Bytes := joinWith [colon] (groups.map hexGroup)

theorem hexDigit_table : ∀ n < 16,
    hexValue (hexDigit n) = some n ∧ isAddressByte (hexDigit n) = true ∧
      hexDigit n ≠ colon ∧ hexDigit n ≠ dot := by
  decide

variable {n : Nat}

def hexDigits (n : Nat) : List Nat :=
  [n / 4096 % 16, n / 256 % 16, n / 16 % 16].dropWhile (· = 0) ++ [n % 16]

theorem hexGroup_eq (n : Nat) : hexGroup n = (hexDigits n).map hexDigit := by
  simp [hexGroup, hexDigits]

theorem hexDigits_lt {digit : Nat} (h : digit ∈ hexDigits n) : digit < 16 := by
  rcases List.mem_append.mp h with hfront | hlast
  · have hmem := (List.dropWhile_suffix _).subset hfront
    simp only [List.mem_cons, List.not_mem_nil, or_false] at hmem
    rcases hmem with rfl | rfl | rfl <;> exact Nat.mod_lt _ (by decide)
  · rw [List.mem_singleton.mp hlast]
    exact Nat.mod_lt _ (by decide)

theorem mem_hexGroup (h : b ∈ hexGroup n) : ∃ digit < 16, b = hexDigit digit := by
  rw [hexGroup_eq] at h
  obtain ⟨digit, hdigit, rfl⟩ := List.mem_map.mp h
  exact ⟨digit, hexDigits_lt hdigit, rfl⟩

theorem hexGroup_ne_nil (n : Nat) : hexGroup n ≠ [] := by
  simp [hexGroup]

theorem length_hexGroup_le (n : Nat) : (hexGroup n).length ≤ 4 := by
  have hlength := (List.dropWhile_suffix (p := fun d : Nat => decide (d = 0))
    (l := [n / 4096 % 16, n / 256 % 16, n / 16 % 16])).length_le
  simp only [hexGroup, List.length_append, List.length_map]
  simp only [List.length_cons, List.length_nil] at hlength ⊢
  omega

theorem foldl_hexDigit (digits : List Nat) (h : ∀ digit ∈ digits, digit < 16) (acc : Nat) :
    (digits.map hexDigit).foldl (fun acc b => acc * 16 + (hexValue b).getD 0) acc =
      digits.foldl (fun acc digit => acc * 16 + digit) acc := by
  induction digits generalizing acc with
  | nil => rfl
  | cons digit rest ih =>
    have hdigit := (hexDigit_table digit (h digit List.mem_cons_self)).1
    rw [List.map_cons, List.foldl_cons, hdigit]
    exact ih (fun d hd => h d (List.mem_cons_of_mem _ hd)) _

theorem foldl_dropWhile_zero (digits : List Nat) :
    (digits.dropWhile (· = 0)).foldl (fun acc digit => acc * 16 + digit) 0 =
      digits.foldl (fun acc digit => acc * 16 + digit) 0 := by
  induction digits with
  | nil => rfl
  | cons digit rest ih =>
    by_cases hzero : digit = 0
    · subst hzero
      simpa using ih
    · simp [hzero]

theorem value_hexGroup (h : n < 65536) :
    (hexGroup n).foldl (fun acc b => acc * 16 + (hexValue b).getD 0) 0 = n := by
  rw [hexGroup_eq, foldl_hexDigit _ fun _ => hexDigits_lt, hexDigits, List.foldl_append,
    foldl_dropWhile_zero]
  simp only [List.foldl_cons, List.foldl_nil]
  omega

theorem takeWhile_hexGroup (n : Nat) (rest : Bytes)
    (hrest : ∀ b ∈ rest.head?, (hexValue b).isSome = false) :
    (hexGroup n ++ rest).takeWhile (fun b => (hexValue b).isSome) = hexGroup n := by
  have hall : ∀ b ∈ hexGroup n, (hexValue b).isSome = true := by
    intro b hb
    obtain ⟨digit, hdigit, rfl⟩ := mem_hexGroup hb
    rw [(hexDigit_table digit hdigit).1]
    rfl
  rw [List.takeWhile_append_of_pos hall]
  cases rest with
  | nil => simp
  | cons b rest =>
    have hb := hrest b rfl
    simp [hb]

theorem hexGroup_bounds (n : Nat) :
    ¬ ((hexGroup n).isEmpty = true ∨ 4 < (hexGroup n).length) := by
  have hle := length_hexGroup_le n
  have hne := hexGroup_ne_nil n
  simp only [List.isEmpty_iff, not_or]
  exact ⟨hne, by omega⟩

theorem parseGroups_hexGroup (hn : n < 65536) (fuel : Nat) (ip : Bytes)
    (next : UInt8) (more : Bytes) (ellipsis : Option Nat) :
    parseGroups (fuel + 1) ip (hexGroup n ++ colon :: next :: more) ellipsis =
      if next = colon then
        if ellipsis.isSome then none
        else if more.isEmpty then
          some (ip ++ groupBytes n, some (ip ++ groupBytes n).length, [])
        else parseGroups fuel (ip ++ groupBytes n) more (some (ip ++ groupBytes n).length)
      else parseGroups fuel (ip ++ groupBytes n) (next :: more) ellipsis := by
  have hdigits := takeWhile_hexGroup n (colon :: next :: more) (by
    intro b hb
    cases hb
    decide)
  rw [parseGroups]
  simp only [hdigits, value_hexGroup hn, if_neg (hexGroup_bounds n)]
  have hcolon : ¬ colon = dot := by decide
  simp [if_neg hcolon, groupBytes]

theorem parseGroups_last (hn : n < 65536) (fuel : Nat) (ip : Bytes) (ellipsis : Option Nat) :
    parseGroups (fuel + 1) ip (hexGroup n) ellipsis =
      some (ip ++ groupBytes n, ellipsis, []) := by
  have hdigits := takeWhile_hexGroup n [] (by intro b hb; cases hb)
  rw [List.append_nil] at hdigits
  rw [parseGroups]
  simp only [hdigits, value_hexGroup hn, if_neg (hexGroup_bounds n), List.drop_length, groupBytes]

theorem groupsText_cons (n : Nat) {rest : List Nat} (h : rest ≠ []) :
    groupsText (n :: rest) = hexGroup n ++ colon :: groupsText rest := by
  cases rest with
  | nil => exact absurd rfl h
  | cons next more => simp [groupsText, joinWith]

variable {groups : List Nat}

theorem exists_head_groupsText (h : groups ≠ []) :
    ∃ digit < 16, ∃ more, groupsText groups = hexDigit digit :: more := by
  cases groups with
  | nil => exact absurd rfl h
  | cons n rest =>
    have hhead : ∃ tail, groupsText (n :: rest) = hexGroup n ++ tail := by
      cases rest with
      | nil => exact ⟨[], by simp [groupsText, joinWith]⟩
      | cons next more => exact ⟨_, groupsText_cons n (by simp)⟩
    obtain ⟨tail, htail⟩ := hhead
    cases hgroup : hexGroup n with
    | nil => exact absurd hgroup (hexGroup_ne_nil n)
    | cons b others =>
      obtain ⟨digit, hdigit, rfl⟩ := mem_hexGroup (n := n) (b := b) (by rw [hgroup]; simp)
      exact ⟨digit, hdigit, others ++ tail, by rw [htail, hgroup]; rfl⟩

theorem groupsText_singleton (n : Nat) : groupsText [n] = hexGroup n := by
  simp [groupsText, joinWith]

theorem parseGroups_dropLast (hne : groups ≠ []) (hbound : ∀ n ∈ groups, n < 65536) (fuel : Nat)
    (ip after : Bytes) (ellipsis : Option Nat) :
    parseGroups (fuel + groups.length) ip (groupsText groups ++ after) ellipsis =
      parseGroups (fuel + 1) (ip ++ groups.dropLast.flatMap groupBytes)
        (hexGroup (groups.getLast hne) ++ after) ellipsis := by
  induction groups generalizing ip with
  | nil => exact absurd rfl hne
  | cons n rest ih =>
    cases rest with
    | nil => simp [groupsText_singleton]
    | cons next others =>
      have hrest : next :: others ≠ [] := by simp
      obtain ⟨digit, hdigit, tail, htail⟩ := exists_head_groupsText hrest
      rw [groupsText_cons n hrest, htail, List.append_assoc, List.cons_append,
        List.cons_append, List.length_cons, ← Nat.add_assoc,
        parseGroups_hexGroup (hbound n List.mem_cons_self),
        if_neg (hexDigit_table digit hdigit).2.2.1, ← List.cons_append, ← htail,
        ih hrest fun m hm => hbound m (List.mem_cons_of_mem _ hm)]
      simp

theorem bytes_dropLast (hne : groups ≠ []) (ip : Bytes) :
    ip ++ groups.dropLast.flatMap groupBytes ++ groupBytes (groups.getLast hne) =
      ip ++ groups.flatMap groupBytes := by
  conv_rhs => rw [← List.dropLast_append_getLast hne]
  simp

theorem parseGroups_groupsText (hne : groups ≠ []) (hbound : ∀ n ∈ groups, n < 65536) {fuel : Nat}
    (hfuel : groups.length ≤ fuel) (ip : Bytes) (ellipsis : Option Nat) :
    parseGroups fuel ip (groupsText groups) ellipsis =
      some (ip ++ groups.flatMap groupBytes, ellipsis, []) := by
  have hread := parseGroups_dropLast hne hbound (fuel - groups.length) ip [] ellipsis
  rw [Nat.sub_add_cancel hfuel, List.append_nil, List.append_nil,
    parseGroups_last (hbound _ (List.getLast_mem hne)), bytes_dropLast] at hread
  exact hread

theorem parseGroups_ellipsis (hne : groups ≠ []) (hbound : ∀ n ∈ groups, n < 65536) (fuel : Nat)
    (ip more : Bytes) :
    parseGroups (fuel + groups.length) ip (groupsText groups ++ colon :: colon :: more) none =
      if more.isEmpty then
        some (ip ++ groups.flatMap groupBytes, some (ip ++ groups.flatMap groupBytes).length, [])
      else parseGroups fuel (ip ++ groups.flatMap groupBytes) more
        (some (ip ++ groups.flatMap groupBytes).length) := by
  rw [parseGroups_dropLast hne hbound, parseGroups_hexGroup (hbound _ (List.getLast_mem hne)),
    bytes_dropLast]
  simp

theorem groupBytes_pair (high low : UInt8) :
    groupBytes (high.toNat * 256 + low.toNat) = [high, low] := by
  have hlow := low.toNat_lt
  have hdiv : (high.toNat * 256 + low.toNat) / 256 = high.toNat := by omega
  have hmod : UInt8.ofNat (high.toNat * 256 + low.toNat) = low := by
    apply UInt8.toNat_inj.mp
    rw [UInt8.toNat_ofNat']
    omega
  rw [groupBytes, hdiv, hmod, UInt8.ofNat_toNat]

variable {ip : Bytes}

theorem groupsOf_spec {count : Nat} (h : ip.length = 2 * count) :
    (groupsOf ip).flatMap groupBytes = ip ∧ (groupsOf ip).length = count ∧
      ∀ n ∈ groupsOf ip, n < 65536 := by
  induction count generalizing ip with
  | zero =>
    rw [List.eq_nil_of_length_eq_zero h]
    simp [groupsOf]
  | succ count ih =>
    match ip, h with
    | high :: low :: rest, h =>
      simp only [List.length_cons] at h
      obtain ⟨hbytes, hlength, hbound⟩ := @ih rest (by omega)
      have hhigh := high.toNat_lt
      have hlow := low.toNat_lt
      simp only [groupsOf, List.flatMap_cons, groupBytes_pair, hbytes, List.length_cons,
        hlength, List.cons_append, List.nil_append, List.mem_cons, true_and]
      rintro n (rfl | hn)
      · omega
      · exact hbound n hn

theorem groupBytes_zero : groupBytes 0 = List.replicate 2 0 := by decide

theorem flatMap_groupBytes_replicate (length : Nat) :
    (List.replicate length 0).flatMap groupBytes = List.replicate (2 * length) 0 := by
  induction length with
  | zero => rfl
  | succ length ih =>
    rw [List.replicate_succ, List.flatMap_cons, ih, groupBytes_zero,
      List.replicate_append_replicate]
    congr 1
    omega

theorem length_flatMap_groupBytes (groups : List Nat) :
    (groups.flatMap groupBytes).length = 2 * groups.length := by
  induction groups with
  | nil => rfl
  | cons n rest ih =>
    rw [List.flatMap_cons, List.length_append, groupBytes]
    simp only [List.length_cons, List.length_nil]
    omega

theorem zeroRun_spec (groups : List Nat) : (zeroRun groups).2 = 0 ∨ (zeroRun groups).2 ≠ 0 ∧
        ((groups.drop (zeroRun groups).1).takeWhile (· = 0)).length = (zeroRun groups).2 := by
  apply List.foldlRecOn (motive := fun best : Nat × Nat => best.2 = 0 ∨
    best.2 ≠ 0 ∧ ((groups.drop best.1).takeWhile (· = 0)).length = best.2)
  · exact .inl rfl
  · intro best hbest start _
    dsimp only
    split
    · next hlonger =>
      simp only [Bool.and_eq_true, decide_eq_true_eq] at hlonger
      exact .inr ⟨by omega, rfl⟩
    · exact hbest

theorem take_zeroRun_drop (groups : List Nat) :
    groups.take (zeroRun groups).1 ++ List.replicate (zeroRun groups).2 0 ++
      groups.drop ((zeroRun groups).1 + (zeroRun groups).2) = groups := by
  cases zeroRun_spec groups with
  | inl hnone => simp [hnone]
  | inr hrun =>
    obtain ⟨-, hlength⟩ := hrun
    have hzeros : (groups.drop (zeroRun groups).1).take (zeroRun groups).2 =
        List.replicate (zeroRun groups).2 0 := by
      rw [← hlength, ← List.prefix_iff_eq_take.mp (List.takeWhile_prefix _),
        List.eq_replicate_iff]
      refine ⟨rfl, fun n hn => ?_⟩
      simpa using List.all_eq_true.mp List.all_takeWhile n hn
    rw [← hzeros, ← List.drop_drop, List.append_assoc, List.take_append_drop,
      List.take_append_drop]

/-! ## Round trips -/

theorem mem_groupsText (h : b ∈ groupsText groups) :
    b = colon ∨ ∃ digit < 16, b = hexDigit digit := by
  rcases mem_joinWith h with hcolon | ⟨n, -, hb⟩
  · exact .inl (List.mem_singleton.mp hcolon)
  · exact .inr (mem_hexGroup hb)

theorem colon_mem_groupsText (h : 2 ≤ groups.length) : colon ∈ groupsText groups := by
  match groups, h with
  | n :: m :: rest, _ =>
    rw [groupsText_cons n (by simp)]
    simp

theorem isPrefixOf_colons {digit : Nat} (hdigit : digit < 16) (more : Bytes) :
    [colon, colon].isPrefixOf (hexDigit digit :: more) = false := by
  have hne := (hexDigit_table digit hdigit).2.2.1
  simp [List.isPrefixOf, Ne.symm hne]

theorem isEmpty_groupsText (hne : groups ≠ []) : (groupsText groups).isEmpty = false := by
  obtain ⟨digit, -, more, hmore⟩ := exists_head_groupsText hne
  rw [hmore]
  rfl

theorem parseIPv6_groupsText (hlength : groups.length = 8) (hbound : ∀ n ∈ groups, n < 65536) :
    parseIPv6 (groupsText groups) = some (groups.flatMap groupBytes) := by
  have hne : groups ≠ [] := by
    rintro rfl
    simp at hlength
  obtain ⟨digit, hdigit, more, hmore⟩ := exists_head_groupsText hne
  have hparsed := parseGroups_groupsText hne hbound (Nat.le_of_eq hlength) [] none
  have hbytes := length_flatMap_groupBytes groups
  rw [hmore] at hparsed ⊢
  unfold parseIPv6
  simp only [isPrefixOf_colons hdigit, Bool.false_eq_true, if_false, Option.isSome_none,
    false_and, hparsed, List.nil_append]
  simp only [Option.bind_eq_bind, Option.bind_some, List.isEmpty_nil, not_true_eq_false, if_false]
  rw [if_neg (by omega)]

variable {zeros : Nat}

theorem fill_ellipsis (front back : Bytes) (hzeros : zeros ≠ 0)
    (hlength : front.length + zeros + back.length = 16) :
    (if (front ++ back).length < 16 then
      some ((front ++ back).take front.length ++
        List.replicate (16 - (front ++ back).length) 0 ++ (front ++ back).drop front.length)
    else none) = some (front ++ List.replicate zeros 0 ++ back) := by
  rw [List.length_append, if_pos (by omega), List.take_left, List.drop_left,
    show 16 - (front.length + back.length) = zeros by omega]

theorem parseIPv6_ellipsis_front {back : List Nat} (hzeros : zeros ≠ 0)
    (hlength : zeros + back.length = 8) (hback : ∀ n ∈ back, n < 65536) :
    parseIPv6 (colon :: colon :: groupsText back) =
      some (List.replicate (2 * zeros) 0 ++ back.flatMap groupBytes) := by
  unfold parseIPv6
  cases back with
  | nil =>
    have hall : zeros = 8 := by simpa using hlength
    simp [groupsText, joinWith, hall]
  | cons n more =>
    have hne : n :: more ≠ [] := by simp
    have hparsed := parseGroups_groupsText hne hback (show _ ≤ 8 by omega) [] (some 0)
    have hbytes := length_flatMap_groupBytes (n :: more)
    have hfilled := fill_ellipsis [] ((n :: more).flatMap groupBytes)
      (show 2 * zeros ≠ 0 by omega) (by rw [List.length_nil]; omega)
    simp only [List.isPrefixOf, beq_self_eq_true, Bool.and_self, if_true,
      List.drop_succ_cons, List.drop_zero, isEmpty_groupsText hne, hparsed]
    exact hfilled

theorem parseIPv6_ellipsis {front back : List Nat} (hzeros : zeros ≠ 0)
    (hlength : front.length + zeros + back.length = 8)
    (hfront : ∀ n ∈ front, n < 65536) (hback : ∀ n ∈ back, n < 65536) :
    parseIPv6 (groupsText front ++ [colon, colon] ++ groupsText back) =
      some ((front ++ List.replicate zeros 0 ++ back).flatMap groupBytes) := by
  rw [List.flatMap_append, List.flatMap_append, flatMap_groupBytes_replicate]
  cases front with
  | nil =>
    simp only [List.length_nil, Nat.zero_add] at hlength
    exact parseIPv6_ellipsis_front hzeros hlength hback
  | cons n others =>
    have hne : n :: others ≠ [] := by simp
    obtain ⟨digit, hdigit, tail, htail⟩ := exists_head_groupsText hne
    have hparsed := parseGroups_ellipsis hne hfront (8 - (n :: others).length) []
      (groupsText back)
    rw [Nat.sub_add_cancel (by omega), List.nil_append] at hparsed
    have hfrontBytes := length_flatMap_groupBytes (n :: others)
    have hbackBytes := length_flatMap_groupBytes back
    have hfilled := fill_ellipsis ((n :: others).flatMap groupBytes)
      (back.flatMap groupBytes) (show 2 * zeros ≠ 0 by omega) (by omega)
    -- with nothing behind the colons the groups are read to their end there
    have hread : parseGroups 8 [] (groupsText (n :: others) ++ colon :: colon :: groupsText back)
        none = some ((n :: others).flatMap groupBytes ++ back.flatMap groupBytes,
          some ((n :: others).flatMap groupBytes).length, []) := by
      rw [hparsed]
      cases back with
      | nil => simp [groupsText, joinWith]
      | cons m more =>
        have hmore : m :: more ≠ [] := by simp
        rw [isEmpty_groupsText hmore, if_neg Bool.false_ne_true,
          parseGroups_groupsText hmore hback (by omega)]
    have htext : groupsText (n :: others) ++ [colon, colon] ++ groupsText back =
        hexDigit digit :: (tail ++ colon :: colon :: groupsText back) := by
      simp [htail]
    rw [htail, List.cons_append] at hread
    rw [htext]
    unfold parseIPv6
    simp only [isPrefixOf_colons hdigit, Bool.false_eq_true, if_false, hread]
    exact hfilled

theorem parseLowered_eq_parseIPv6 (hcolon : colon ∈ text)
    (hbytes : ∀ b ∈ text, b = colon ∨ ∃ digit < 16, b = hexDigit digit) :
    parseLowered text = parseIPv6 text := by
  have hother : ∀ b ∈ text, b = dot ∨ b = colon → b = colon := by
    intro b hb hseparator
    rcases hbytes b hb with heq | ⟨digit, hlt, rfl⟩
    · exact heq
    · exact hseparator.resolve_left (hexDigit_table digit hlt).2.2.2
  have hnot : ¬ colon = dot := by decide
  simp [parseLowered, find?_separator hcolon (.inr rfl) hother, if_neg hnot]

variable {fields : Bytes}

theorem formatIP_of_to4 (h : to4 ip = some fields) :
    formatIP ip = joinWith [dot] (fields.map octetText) := by
  unfold formatIP
  rw [h]
  rfl

theorem formatIP_of_groups (h : to4 ip = none) :
    formatIP ip =
      if (zeroRun (groupsOf ip)).2 = 0 then groupsText (groupsOf ip)
      else groupsText ((groupsOf ip).take (zeroRun (groupsOf ip)).1) ++ [colon, colon] ++
        groupsText ((groupsOf ip).drop
          ((zeroRun (groupsOf ip)).1 + (zeroRun (groupsOf ip)).2)) := by
  unfold formatIP
  rw [h]
  rfl

theorem mem_formatIP (hto4 : to4 ip = none) (h : b ∈ formatIP ip) :
    b = colon ∨ ∃ digit < 16, b = hexDigit digit := by
  rw [formatIP_of_groups hto4] at h
  split at h
  · exact mem_groupsText h
  · rcases List.mem_append.mp h with hfront | hback
    · rcases List.mem_append.mp hfront with hfront | hcolons
      · exact mem_groupsText hfront
      · exact .inl (by simpa using hcolons)
    · exact mem_groupsText hback

theorem to4_eq_some (hlength : ip.length = 16) (h : to4 ip = some fields) :
    ∃ a b c d, fields = [a, b, c, d] ∧ ip = v4InV6 ++ fields := by
  unfold to4 at h
  split at h
  · next hpre =>
    rw [List.isPrefixOf_iff_prefix] at hpre
    obtain ⟨tail, rfl⟩ := hpre
    have htail : fields = tail := by
      rw [Option.some.injEq] at h
      rw [← h]
      rfl
    subst htail
    have hfour : fields.length = 4 := by simpa [v4InV6] using hlength
    match fields, hfour with
    | [a, b, c, d], _ => exact ⟨a, b, c, d, rfl, rfl⟩
  · cases h

theorem isAddressByte_formatIP (h : b ∈ formatIP ip) : isAddressByte b = true := by
  cases hto4 : to4 ip with
  | some fields =>
    rw [formatIP_of_to4 hto4] at h
    rcases mem_joinWith h with hdot | ⟨octet, -, hdigit⟩
    · rw [List.mem_singleton.mp hdot]
      decide
    · obtain ⟨hlow, hhigh⟩ := digit_of_mem_octetText hdigit
      simp [isAddressByte, hlow, hhigh]
  | none =>
    rcases mem_formatIP hto4 h with rfl | ⟨digit, hdigit, rfl⟩
    · decide
    · exact (hexDigit_table digit hdigit).2.1

theorem parseIP_formatIP (hlength : ip.length = 16) : parseIP (formatIP ip) = some ip := by
  have htext : ∀ b ∈ formatIP ip, isAddressByte b = true := fun b => isAddressByte_formatIP
  rw [parseIP, map_lowerByte htext, if_pos (List.all_eq_true.mpr htext)]
  cases hto4 : to4 ip with
  | some fields =>
    obtain ⟨a, b, c, d, rfl, hip⟩ := to4_eq_some hlength hto4
    rw [formatIP_of_to4 hto4, parseLowered_join, hip]
  | none =>
    obtain ⟨hbytes, hcount, hbound⟩ := groupsOf_spec (show ip.length = 2 * 8 from hlength)
    have hmem := fun b => mem_formatIP (b := b) hto4
    rw [formatIP_of_groups hto4] at hmem ⊢
    by_cases hzeros : (zeroRun (groupsOf ip)).2 = 0
    · rw [if_pos hzeros] at hmem ⊢
      rw [parseLowered_eq_parseIPv6 (colon_mem_groupsText (by omega)) hmem,
        parseIPv6_groupsText hcount hbound, hbytes]
    · rw [if_neg hzeros] at hmem ⊢
      have hsplit := take_zeroRun_drop (groupsOf ip)
      have htotal := congrArg List.length hsplit
      rw [List.length_append, List.length_append, List.length_replicate, hcount] at htotal
      rw [parseLowered_eq_parseIPv6 (by simp) hmem, parseIPv6_ellipsis hzeros htotal, hsplit, hbytes]
      · exact fun n hn => hbound n (List.mem_of_mem_take hn)
      · exact fun n hn => hbound n (List.mem_of_mem_drop hn)

/-! ## Sixteen bytes -/

theorem length_parseIPv4Fields (h : parseIPv4Fields text = some fields) : fields.length = 4 := by
  unfold parseIPv4Fields at h
  split at h
  · simp only [Option.bind_eq_bind, Option.bind_eq_some_iff, Option.pure_def,
      Option.some.injEq] at h
    obtain ⟨_, _, _, _, _, _, _, _, rfl⟩ := h
    rfl
  · cases h

theorem length_parseGroups {fuel : Nat} {ellipsis : Option Nat}
    {ip' rest : Bytes} {ellipsis' : Option Nat} (hroom : ip.length + 2 * fuel ≤ 16)
    (h : parseGroups fuel ip text ellipsis = some (ip', ellipsis', rest)) : ip'.length ≤ 16 := by
  induction fuel generalizing ip text ellipsis with
  | zero =>
    simp only [parseGroups, Option.some.injEq, Prod.mk.injEq] at h
    rw [← h.1]
    omega
  | succ fuel ih =>
    have hgroup (a b : UInt8) : (ip ++ [a, b]).length = ip.length + 2 := List.length_append
    rw [parseGroups] at h
    split at h
    · cases h
    · split at h
      · simp only [Option.some.injEq, Prod.mk.injEq] at h
        rw [← h.1, hgroup]
        omega
      · split at h
        · split at h
          · cases h
          · next hposition =>
            simp only [Option.map_eq_some_iff, Prod.mk.injEq] at h
            obtain ⟨fields, hfields, rfl, _, _⟩ := h
            have hfour := length_parseIPv4Fields hfields
            rw [List.length_append, hfour]
            omega
        · split at h
          · cases h
          · split at h
            · cases h
            · split at h
              · split at h
                · cases h
                · split at h
                  · simp only [Option.some.injEq, Prod.mk.injEq] at h
                    rw [← h.1, hgroup]
                    omega
                  · refine ih ?_ h
                    rw [hgroup]
                    omega
              · refine ih ?_ h
                rw [hgroup]
                omega

theorem length_parseIPv6 (h : parseIPv6 text = some ip) : ip.length = 16 := by
  unfold parseIPv6 at h
  generalize (if [colon, colon].isPrefixOf text then (some 0, text.drop 2)
    else (none, text) : Option Nat × Bytes) = start at h
  dsimp only at h
  split at h
  · rw [Option.some.injEq] at h
    rw [← h, List.length_replicate]
  · simp only [Option.bind_eq_bind, Option.bind_eq_some_iff] at h
    obtain ⟨⟨read, ellipsis, rest⟩, hread, h⟩ := h
    have hle := length_parseGroups (by simp) hread
    dsimp only at h
    split at h
    · cases h
    · split at h
      · split at h
        · cases h
        · rw [Option.some.injEq] at h
          subst h
          omega
      · next position =>
        split at h
        · rw [Option.some.injEq] at h
          rw [← h, List.length_append, List.length_append, List.length_replicate,
            List.length_take, List.length_drop]
          omega
        · cases h

theorem length_parseIP (h : parseIP text = some ip) : ip.length = 16 := by
  unfold parseIP parseLowered at h
  dsimp only at h
  split at h
  · split at h
    · cases h
    · split at h
      · obtain ⟨fields, hfields, rfl⟩ := Option.map_eq_some_iff.mp h
        rw [List.length_append, length_parseIPv4Fields hfields]
        rfl
      · exact length_parseIPv6 h
  · cases h

theorem isAddressByte_formatMAC {mac : Bytes} (h : b ∈ formatMAC mac) :
    isAddressByte b = true := by
  rcases mem_joinWith h with hcolon | ⟨octet, -, hb⟩
  · rw [List.mem_singleton.mp hcolon]
    decide
  · have hoctet := octet.toNat_lt
    simp only [List.mem_cons, List.not_mem_nil, or_false] at hb
    rcases hb with rfl | rfl
    · exact (hexDigit_table _ (by omega)).2.1
    · exact (hexDigit_table _ (by omega)).2.1

end GateSentry.Foundation.Net
