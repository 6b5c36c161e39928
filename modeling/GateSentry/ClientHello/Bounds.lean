import GateSentry.ClientHello.Read
import GateSentry.ClientHello.Unmarshall

/-!
# Which ClientHello records make the parser panic

The parser trusts three kinds of inner length: the length of the cipher-suite
list, of a server name and of a protocol name.  The grammar below describes the
records in which one of them, once it is reached, claims more bytes than there
are; these are exactly the accepted records on which `Unmarshall` panics.
-/

namespace GateSentry.GsClientHello

open Foundation Outcome Slice

/-! ## The grammar -/

def NameEntry (data rest : Bytes) : Prop :=
  ∃ type high low name, data = type :: high :: low :: (name ++ rest) ∧
    name.length = bigEndian16 high low

def NameOverrun (data : Bytes) : Prop :=
  ∃ type high low rest, data = type :: high :: low :: rest ∧ rest.length < bigEndian16 high low

def ProtocolEntry (data rest : Bytes) : Prop :=
  ∃ length name, data = length :: (name ++ rest) ∧ name.length = length.toNat

def ProtocolOverrun (data : Bytes) : Prop :=
  ∃ length rest, data = length :: rest ∧ rest.length < length.toNat

def ExtensionFits (extType : Nat) (data : Bytes) : Prop :=
  if extType = extServerName then
    ∃ high low names, data = high :: low :: names ∧
      bigEndian16 high low ≤ names.length ∧ Complete NameEntry names
  else if extType = extSignatureAlgs ∨ extType = extSupportedGroups then
    ∃ high low words, data = high :: low :: words ∧ bigEndian16 high low ≤ words.length
  else if extType = extECPointFormats then
    ∃ length points, data = length :: points ∧ length.toNat ≤ points.length
  else if extType = extStatusRequest then data ≠ []
  else if extType = extALPN then
    ∃ high low names, data = high :: low :: names ∧
      bigEndian16 high low = names.length ∧ Complete ProtocolEntry names
  else True

def ExtensionOverrun (extType : Nat) (data : Bytes) : Prop :=
  ∃ high low names, data = high :: low :: names ∧
    ((extType = extServerName ∧ bigEndian16 high low ≤ names.length ∧
        After NameEntry NameOverrun names) ∨
      (extType = extALPN ∧ bigEndian16 high low = names.length ∧
        After ProtocolEntry ProtocolOverrun names))

def ExtensionWith (p : Nat → Bytes → Prop) (hs rest : Bytes) : Prop :=
  ∃ t1 t2 l1 l2 data, hs = t1 :: t2 :: l1 :: l2 :: (data ++ rest) ∧
    data.length = bigEndian16 l1 l2 ∧ p (bigEndian16 t1 t2) data

def ExtensionsOverrun : Bytes → Prop :=
  After (ExtensionWith ExtensionFits) (fun hs => ∃ rest, ExtensionWith ExtensionOverrun hs rest)

def ExtensionPartOverrun (hs : Bytes) : Prop :=
  ∃ e1 e2 rest, hs = e1 :: e2 :: rest ∧ bigEndian16 e1 e2 ≤ rest.length + 2 ∧
    ExtensionsOverrun rest

def MethodsPartOverrun (hs : Bytes) : Prop :=
  ∃ count methods rest, hs = count :: (methods ++ rest) ∧
    methods.length = count.toNat ∧ ExtensionPartOverrun rest

def SuitesPartOverrun (hs : Bytes) : Prop :=
  ∃ high low rest, hs = high :: low :: rest ∧
    ((rest.length < bigEndian16 high low ∧ bigEndian16 high low ≤ rest.length + 2) ∨
      ∃ suites after, rest = suites ++ after ∧
        suites.length = bigEndian16 high low ∧ MethodsPartOverrun after)

/-- A record in which a length the parser trusts, once reached, is too large.  The
first 43 bytes are the headers, the version and the random data. -/
def LengthOverrun (record : Bytes) : Prop :=
  ∃ front length sessionID rest,
    record = front ++ length :: (sessionID ++ rest) ∧ front.length = 43 ∧
    sessionID.length = length.toNat ∧ SuitesPartOverrun rest

/-! ## Splitting at a length -/

private theorem exists_append_iff (n : Nat) (data rest : Bytes) :
    (∃ front, data = front ++ rest ∧ front.length = n) ↔
      n ≤ data.length ∧ rest = data.drop n := by
  constructor
  · rintro ⟨front, rfl, rfl⟩
    simp
  · rintro ⟨hle, rfl⟩
    exact ⟨data.take n, (List.take_append_drop n data).symm, by simp [hle]⟩

private theorem exists_split_iff {n : Nat} {data : Bytes} (h : n ≤ data.length)
    (q : Bytes → Prop) :
    (∃ front rest, data = front ++ rest ∧ front.length = n ∧ q rest) ↔ q (data.drop n) := by
  constructor
  · rintro ⟨front, rest, rfl, rfl, hq⟩
    simpa using hq
  · intro hq
    exact ⟨data.take n, data.drop n, (List.take_append_drop n data).symm, by simp [h], hq⟩

private theorem panics_iff_of_fail {α : Type} {x : Parse α} {e : HandshakeError} {p : Prop}
    (hfail : x = fail e) (hp : ¬ p) : Panics x ↔ p := by
  rw [hfail]
  exact iff_of_false (not_panics_fail e) hp

/-! ## Lists of names -/

variable {rest : Bytes} (sni : Bytes)

private theorem entry_iff {σ : Type} {round : Parse (σ × Bytes)} {n : Nat}
    (hfits : n ≤ rest.length → ∃ next, round = .ok (next, rest.drop n))
    (hover : rest.length < n → round = panicked .sliceOutOfRange) :
    (Panics round ↔ rest.length < n) ∧ ∀ rest', (∃ next, round = .ok (next, rest')) ↔
      ∃ front, rest = front ++ rest' ∧ front.length = n := by
  simp only [exists_append_iff]
  rcases Nat.lt_or_ge rest.length n with hlt | hge
  · rw [hover hlt]
    refine ⟨iff_of_true (panics_panicked _) hlt, fun rest' => ?_⟩
    simp [panicked, Nat.not_le.mpr hlt]
  · obtain ⟨next, hok⟩ := hfits hge
    rw [hok]
    simp [hge, eq_comm]

theorem serverNameRound_fits (type high low : UInt8) (h : bigEndian16 high low ≤ rest.length) :
    ∃ next, serverNameRound sni (type :: high :: low :: rest) =
      .ok (next, rest.drop (bigEndian16 high low)) := by
  by_cases htype : type = sniNameTypeDNS
  · refine ⟨rest.take (bigEndian16 high low), ?_⟩
    simp [serverNameRound, sliceFrom, sliceTo, htype, h]
  · refine ⟨sni, ?_⟩
    simp [serverNameRound, sliceFrom, htype, h]

theorem serverNameRound_overrun (type high low : UInt8) (h : rest.length < bigEndian16 high low) :
    serverNameRound sni (type :: high :: low :: rest) = panicked .sliceOutOfRange := by
  simp [serverNameRound, sliceFrom, Nat.not_le.mpr h]

theorem serverNameRound_short {data : Bytes} (hne : data ≠ [])
    (h : data.length < 3) : serverNameRound sni data = fail .extBadLength := by
  match data, hne, h with
  | [_], _, _ => rfl
  | [_, _], _, _ => rfl

theorem serverNameRound_spec (limit : Nat) :
    WalkSpec limit serverNameRound NameEntry NameOverrun where
  panics_iff sni data hne _ := by
    match data, hne with
    | [a], hne | [a, b], hne =>
      rw [serverNameRound_short sni hne (by simp)]
      simp [NameOverrun]
    | type :: high :: low :: rest, _ =>
      rw [(entry_iff (serverNameRound_fits sni type high low)
        (serverNameRound_overrun sni type high low)).1]
      simp [NameOverrun, and_assoc]
  ok_iff sni data rest' hne _ := by
    match data, hne with
    | [a], hne | [a, b], hne =>
      rw [serverNameRound_short sni hne (by simp)]
      simp [NameEntry, fail]
    | type :: high :: low :: rest, _ =>
      rw [(entry_iff (serverNameRound_fits sni type high low)
        (serverNameRound_overrun sni type high low)).2]
      simp [NameEntry, and_assoc]
  good_shorter data rest := by
    rintro ⟨type, high, low, name, rfl, _⟩
    simp only [List.length_cons, List.length_append]
    omega
  bad_ne_nil data := by
    rintro ⟨type, high, low, rest, rfl, _⟩
    simp

theorem alpnRound_fits (alpns : List Bytes) (length : UInt8) (h : length.toNat ≤ rest.length) :
    alpnRound alpns (length :: rest) =
      .ok (alpns ++ [rest.take length.toNat], rest.drop length.toNat) := by
  simp [alpnRound, sliceFrom, sliceTo, h]

theorem alpnRound_overrun (alpns : List Bytes) (length : UInt8) (h : rest.length < length.toNat) :
    alpnRound alpns (length :: rest) = panicked .sliceOutOfRange := by
  simp [alpnRound, sliceFrom, sliceTo, Nat.not_le.mpr h]

theorem alpnRound_spec (limit : Nat) :
    WalkSpec limit alpnRound ProtocolEntry ProtocolOverrun where
  panics_iff alpns data hne _ := by
    match data, hne with
    | length :: rest, _ =>
      rw [(entry_iff (fun hfits => ⟨_, alpnRound_fits alpns length hfits⟩)
        (alpnRound_overrun alpns length)).1]
      simp [ProtocolOverrun, and_assoc]
  ok_iff alpns data rest' hne _ := by
    match data, hne with
    | length :: rest, _ =>
      rw [(entry_iff (fun hfits => ⟨_, alpnRound_fits alpns length hfits⟩)
        (alpnRound_overrun alpns length)).2]
      simp [ProtocolEntry, and_assoc]
  good_shorter data rest := by
    rintro ⟨length, name, rfl, _⟩
    simp only [List.length_cons, List.length_append]
    omega
  bad_ne_nil data := by
    rintro ⟨length, rest, rfl, _⟩
    simp

/-! ## Loops that copy numbers -/

theorem readWords_fits (data : Bytes) (offset count : Nat) (h : offset + 2 * count ≤ data.length) :
    ∃ words, readWords data offset count = .ok words := by
  induction count generalizing offset with
  | zero => exact ⟨[], rfl⟩
  | succ count ih =>
    obtain ⟨words, hwords⟩ := ih (offset + 2) (by omega)
    rw [readWords, index_of_lt (by omega), index_of_lt (by omega)]
    exact ⟨_, by rw [hwords]; rfl⟩

theorem readWords_overrun (data : Bytes) (offset count : Nat) (hoffset : offset ≤ data.length)
    (h : data.length < offset + 2 * count) : Panics (readWords data offset count) := by
  induction count generalizing offset with
  | zero => omega
  | succ count ih =>
    rw [readWords]
    rcases Nat.lt_or_ge (offset + 1) data.length with hlt | hge
    · rw [index_of_lt (by omega), index_of_lt hlt]
      simp only [ok_bind]
      rw [panics_bind_iff]
      exact .inl (ih (offset + 2) (by omega) (by omega))
    · rcases Nat.lt_or_ge offset data.length with hlt | hle
      · rw [index_of_lt hlt, index_of_le hge]
        simp
      · rw [index_of_le hle]
        simp

theorem readBytes_fits (data : Bytes) (offset count : Nat) (h : offset + count ≤ data.length) :
    ∃ bytes, readBytes data offset count = .ok bytes := by
  induction count generalizing offset with
  | zero => exact ⟨[], rfl⟩
  | succ count ih =>
    obtain ⟨bytes, hbytes⟩ := ih (offset + 1) (by omega)
    rw [readBytes, index_of_lt (by omega)]
    exact ⟨_, by rw [hbytes]; rfl⟩

/-! ## Extensions -/

@[simp] theorem listLength_cons (high low : UInt8) (rest : Bytes) :
    listLength (high :: low :: rest) = .ok (bigEndian16 high low, rest) := by
  simp [listLength, sliceFrom]

theorem listLength_short {data : Bytes} (h : data.length < 2) :
    listLength data = fail .extBadLength := by
  simp [listLength, h]

private theorem cons_cons_or_short (data : Bytes) :
    (∃ high low rest, data = high :: low :: rest) ∨ data.length < 2 := by
  match data with
  | [] | [_] => simp
  | high :: low :: rest => exact .inl ⟨high, low, rest, rfl⟩

private theorem not_cons_cons_of_short {data : Bytes} (h : data.length < 2)
    {high low : UInt8} {rest : Bytes} : data ≠ high :: low :: rest := by
  rintro rfl
  simp only [List.length_cons] at h
  omega

variable {p : Nat → Bytes → Prop}

theorem list_decides {α β : Type} [∀ n names, Decidable (p n names)] {b : Nat → Bytes → Parse α}
    {g o : Bytes → Prop} (hbody : ∀ n names, ¬ p n names → Decides (b n names) (g names) (o names))
    (f : α → β) (data : Bytes) :
    Decides (listLength data >>= fun entry =>
        if p entry.1 entry.2 then fail .extBadLength
        else b entry.1 entry.2 >>= fun a => pure (f a))
      (∃ high low names, data = high :: low :: names ∧ ¬ p (bigEndian16 high low) names ∧ g names)
      (∃ high low names, data = high :: low :: names ∧
        ¬ p (bigEndian16 high low) names ∧ o names) := by
  have hcons {q : Bytes → Prop} (high low : UInt8) (names : Bytes) :
      (∃ high' low' names', high :: low :: names = high' :: low' :: names' ∧
        ¬ p (bigEndian16 high' low') names' ∧ q names') ↔
        ¬ p (bigEndian16 high low) names ∧ q names := by
    simp [and_assoc]
  rcases cons_cons_or_short data with ⟨high, low, names, rfl⟩ | hshort
  · rw [listLength_cons, ok_bind, propext (hcons high low names), propext (hcons high low names)]
    by_cases hbad : p (bigEndian16 high low) names
    · exact .of_fail .extBadLength (if_pos hbad) (fun h => h.1 hbad) (fun h => h.1 hbad)
    · rw [if_neg hbad, and_iff_right hbad, and_iff_right hbad]
      exact (hbody _ names hbad).bind_pure f
  · refine .of_fail .extBadLength ?_ ?_ ?_
    · rw [listLength_short hshort, fail_bind]
    · rintro ⟨_, _, _, hdata, -⟩
      exact not_cons_cons_of_short hshort hdata
    · rintro ⟨_, _, _, hdata, -⟩
      exact not_cons_cons_of_short hshort hdata

variable (ch : ClientHello) (length : Nat)

theorem serverName_decides (data : Bytes) :
    Decides (unmarshallExtension ch extServerName length data)
      (ExtensionFits extServerName data) (ExtensionOverrun extServerName data) := by
  have hlist := list_decides (p := fun n names => names.length < n)
    (b := fun _ names => walk serverNameRound ch.sni names) (fun _ names _ =>
      ⟨walk_ok_iff (serverNameRound_spec names.length) _ _ le_rfl,
        walk_panics_iff (serverNameRound_spec names.length) _ _ le_rfl⟩)
    (fun sni => { ch with sni }) data
  have hother : extServerName ≠ extALPN := by decide
  simp only [Nat.not_lt] at hlist
  simp only [ExtensionOverrun, hother, true_and, false_and, or_false]
  exact hlist

theorem alpn_decides (data : Bytes) :
    Decides (unmarshallExtension ch extALPN length data)
      (ExtensionFits extALPN data) (ExtensionOverrun extALPN data) := by
  have hlist := list_decides (p := fun n names => names.length ≠ n)
    (b := fun _ names => walk alpnRound ch.alpns names) (fun _ names _ =>
      ⟨walk_ok_iff (alpnRound_spec names.length) _ _ le_rfl,
        walk_panics_iff (alpnRound_spec names.length) _ _ le_rfl⟩)
    (fun alpns => { ch with alpns }) data
  have hother : extALPN ≠ extServerName := by decide
  have hflip {q : Bytes → Prop} : (∃ high low names, data = high :: low :: names ∧
      ¬ (names.length ≠ bigEndian16 high low) ∧ q names) ↔
      ∃ high low names, data = high :: low :: names ∧
        bigEndian16 high low = names.length ∧ q names := by
    simp only [not_not, eq_comm]
  refine ⟨hlist.ok_iff.trans hflip, hlist.panics_iff.trans (hflip.trans ?_)⟩
  simp [ExtensionOverrun, hother]

theorem not_extensionOverrun {extType : Nat} (hname : extType ≠ extServerName)
    (halpn : extType ≠ extALPN) (data : Bytes) : ¬ ExtensionOverrun extType data := by
  rintro ⟨_, _, _, -, ⟨htype, -⟩ | ⟨htype, -⟩⟩
  · exact hname htype
  · exact halpn htype

theorem wordList_decides (data : Bytes) : Decides (wordList data)
      (∃ high low words, data = high :: low :: words ∧
        bigEndian16 high low ≤ words.length) False := by
  have hlist := list_decides (p := fun n words => words.length < n)
    (b := fun n words => readWords words 0 (n / 2)) (g := fun _ => True) (o := fun _ => False)
    (fun n words hlength => by
      obtain ⟨numbers, hnumbers⟩ := readWords_fits words 0 (n / 2) (by omega)
      exact .of_ok hnumbers trivial id) id data
  simpa [wordList] using hlist

theorem pointFormats_decides (data : Bytes) :
    Decides (unmarshallExtension ch extECPointFormats length data)
      (ExtensionFits extECPointFormats data) False := by
  cases data with
  | nil =>
    refine .of_fail .extBadLength rfl ?_ id
    rintro ⟨_, _, hdata, -⟩
    exact nomatch hdata
  | cons pointLen points =>
    have hround : unmarshallExtension ch extECPointFormats length
        (pointLen :: points) =
        if points.length < pointLen.toNat then fail .extBadLength
        else readBytes points 0 pointLen.toNat >>= fun supportedPoints =>
          pure { ch with supportedPoints } := by
      simp [unmarshallExtension, extECPointFormats, extServerName,
        extSignatureAlgs, extSupportedGroups, sliceFrom]
    rw [hround]
    by_cases hlength : points.length < pointLen.toNat
    · refine .of_fail .extBadLength (if_pos hlength) ?_ id
      rintro ⟨_, _, hdata, hle⟩
      cases hdata
      omega
    · rw [if_neg hlength]
      obtain ⟨bytes, hbytes⟩ :=
        readBytes_fits points 0 pointLen.toNat (by omega)
      refine Decides.bind_pure (.of_ok hbytes ?_ id) _
      exact ⟨pointLen, points, rfl, by omega⟩

theorem statusRequest_decides (data : Bytes) :
    Decides (unmarshallExtension ch extStatusRequest length data)
      (ExtensionFits extStatusRequest data) False := by
  cases data with
  | nil => exact .of_fail .extBadLength rfl (fun h => h rfl) id
  | cons statusType rest =>
    refine .of_ok (a := if statusType = ocspStatusRequest then
      { ch with oscp := true } else ch) ?_ (List.cons_ne_nil _ _) id
    simp [unmarshallExtension, extStatusRequest, extServerName,
      extSignatureAlgs, extSupportedGroups, extECPointFormats]

theorem unmarshallExtension_decides (extType length : Nat) (data : Bytes) :
    Decides (unmarshallExtension ch extType length data)
      (ExtensionFits extType data) (ExtensionOverrun extType data) := by
  by_cases hname : extType = extServerName
  · subst hname
    exact serverName_decides ch length data
  by_cases halpn : extType = extALPN
  · subst halpn
    exact alpn_decides ch length data
  have hnone : ExtensionOverrun extType data ↔ False :=
    iff_false_intro (not_extensionOverrun hname halpn data)
  rw [propext hnone]
  by_cases hsignature : extType = extSignatureAlgs
  · subst hsignature
    exact (wordList_decides data).bind_pure _
  by_cases hgroups : extType = extSupportedGroups
  · subst hgroups
    exact (wordList_decides data).bind_pure _
  by_cases hpoints : extType = extECPointFormats
  · subst hpoints
    exact pointFormats_decides ch length data
  by_cases hstatus : extType = extStatusRequest
  · subst hstatus
    exact statusRequest_decides ch length data
  · refine .of_ok (a := { ch with
      extensions := (extType, length) :: ch.extensions.filter (·.1 ≠ extType) }) ?_ ?_ id
    · simp [unmarshallExtension, hname, halpn, hsignature, hgroups, hpoints, hstatus]
      rfl
    · simp [ExtensionFits, hname, halpn, hsignature, hgroups, hpoints, hstatus]

/-! ## The list of extensions -/

private theorem exists_extension {hs : Bytes} (h : ¬ hs.length < 4) :
    ∃ t1 t2 l1 l2 rest, hs = t1 :: t2 :: l1 :: l2 :: rest := by
  match hs, h with
  | t1 :: t2 :: l1 :: l2 :: rest, _ => exact ⟨t1, t2, l1, l2, rest, rfl⟩
  | [], h | [_], h | [_, _], h | [_, _, _], h => exact absurd (by simp) h

variable {hs : Bytes}

theorem extensionRound_short (h : hs.length < 4) : extensionRound ch hs = fail .extBadLength := by
  simp [extensionRound, h]

theorem extensionRound_cons (t1 t2 l1 l2 : UInt8) (hlimit : rest.length + 4 ≤ 65535) :
    extensionRound ch (t1 :: t2 :: l1 :: l2 :: rest) =
      if rest.length < bigEndian16 l1 l2 then fail .extBadLength
      else
        unmarshallExtension ch (bigEndian16 t1 t2) (bigEndian16 l1 l2)
            (rest.take (bigEndian16 l1 l2)) >>= fun ch =>
          pure (ch, rest.drop (bigEndian16 l1 l2)) := by
  by_cases hlength : rest.length < bigEndian16 l1 l2
  · have hover : rest.length + 1 + 1 + 1 + 1 < 4 + bigEndian16 l1 l2 := by omega
    simp [extensionRound, hover, hlength]
  · have hfits : ¬ rest.length + 1 + 1 + 1 + 1 < 4 + bigEndian16 l1 l2 := by omega
    have hmod : (4 + bigEndian16 l1 l2) % 65536 = bigEndian16 l1 l2 + 4 := by omega
    have hle : bigEndian16 l1 l2 ≤ rest.length := by omega
    simp [extensionRound, hfits, hmod, slice, sliceFrom, hlength, hle]

theorem extensionWith_cons_iff (p : Nat → Bytes → Prop) (t1 t2 l1 l2 : UInt8)
    (rest rest' : Bytes) :
    ExtensionWith p (t1 :: t2 :: l1 :: l2 :: rest) rest' ↔
      bigEndian16 l1 l2 ≤ rest.length ∧ rest' = rest.drop (bigEndian16 l1 l2) ∧
        p (bigEndian16 t1 t2) (rest.take (bigEndian16 l1 l2)) := by
  constructor
  · rintro ⟨_, _, _, _, data, hhs, hlength, hp⟩
    cases hhs
    rw [← hlength]
    simpa using hp
  · rintro ⟨hle, rfl, hp⟩
    exact ⟨t1, t2, l1, l2, rest.take (bigEndian16 l1 l2), by simp, by simp [hle], hp⟩

theorem extensionWith_length (h : ExtensionWith p hs rest) : rest.length + 4 ≤ hs.length := by
  obtain ⟨_, _, _, _, data, rfl, -, -⟩ := h
  simp only [List.length_cons, List.length_append]
  omega

theorem extensionRound_spec : WalkSpec 65535 extensionRound (ExtensionWith ExtensionFits)
      (fun hs => ∃ rest, ExtensionWith ExtensionOverrun hs rest) where
  panics_iff ch hs _ hlimit := by
    by_cases hshort : hs.length < 4
    · rw [extensionRound_short ch hshort]
      simp only [not_panics_fail, false_iff]
      rintro ⟨rest, hover⟩
      have := extensionWith_length hover
      omega
    · obtain ⟨t1, t2, l1, l2, rest, rfl⟩ := exists_extension hshort
      rw [extensionRound_cons ch t1 t2 l1 l2 (by omega)]
      simp only [extensionWith_cons_iff]
      split
      · simp only [not_panics_fail, false_iff]
        omega
      · rw [((unmarshallExtension_decides ch _ _ _).bind_pure _).panics_iff]
        constructor
        · intro hover
          exact ⟨_, by omega, rfl, hover⟩
        · rintro ⟨_, -, -, hover⟩
          exact hover
  ok_iff ch hs rest' _ hlimit := by
    by_cases hshort : hs.length < 4
    · rw [extensionRound_short ch hshort]
      simp only [fail, reduceCtorEq, exists_false, false_iff]
      intro hfits
      have := extensionWith_length hfits
      omega
    · obtain ⟨t1, t2, l1, l2, rest, rfl⟩ := exists_extension hshort
      rw [extensionRound_cons ch t1 t2 l1 l2 (by omega), extensionWith_cons_iff]
      split
      · simp only [fail, reduceCtorEq, exists_false, false_iff]
        omega
      · rw [← (unmarshallExtension_decides ch _ (bigEndian16 l1 l2) _).ok_iff]
        constructor
        · rintro ⟨next, hnext⟩
          cases hround : unmarshallExtension ch (bigEndian16 t1 t2)
              (bigEndian16 l1 l2) (rest.take (bigEndian16 l1 l2)) with
          | error fault =>
            rw [hround] at hnext
            exact nomatch hnext
          | ok next =>
            rw [hround] at hnext
            cases hnext
            exact ⟨by omega, rfl, next, rfl⟩
        · rintro ⟨-, rfl, next, hround⟩
          rw [hround]
          exact ⟨next, rfl⟩
  good_shorter hs rest h := by
    have := extensionWith_length h
    omega
  bad_ne_nil hs := by
    rintro ⟨rest, hover⟩ rfl
    have := extensionWith_length hover
    simp at this

/-! ## The message body -/

theorem extensions_panics_iff (hlimit : hs.length ≤ 0x3000) :
    Panics (unmarshallExtensions ch hs) ↔ ExtensionPartOverrun hs := by
  rcases cons_cons_or_short hs with ⟨e1, e2, rest, rfl⟩ | hshort
  · simp only [List.length_cons] at hlimit
    by_cases hlength : rest.length + 1 + 1 < bigEndian16 e1 e2
    · refine panics_iff_of_fail (e := .extBadLength)
        (by simp [unmarshallExtensions, hlength]) ?_
      rintro ⟨_, _, _, hhs, hle, -⟩
      cases hhs
      omega
    · have hwalk : unmarshallExtensions ch (e1 :: e2 :: rest) =
          walk extensionRound { ch with extensionLen := bigEndian16 e1 e2 } rest := by
        simp [unmarshallExtensions, hlength, sliceFrom]
      rw [hwalk, walk_panics_iff extensionRound_spec _ _ (by omega)]
      constructor
      · intro hafter
        exact ⟨e1, e2, rest, rfl, by omega, hafter⟩
      · rintro ⟨_, _, _, hhs, -, hafter⟩
        cases hhs
        exact hafter
  · refine panics_iff_of_fail (e := .badLength) (by simp [unmarshallExtensions, hshort]) ?_
    rintro ⟨_, _, _, hhs, -⟩
    exact not_cons_cons_of_short hshort hhs

theorem compressMethods_panics_iff (hlimit : hs.length ≤ 0x3000) :
    Panics (unmarshallCompressMethods ch hs) ↔ MethodsPartOverrun hs := by
  cases hs with
  | nil =>
    have hfail : unmarshallCompressMethods ch [] = fail .badLength := rfl
    rw [hfail]
    simp [MethodsPartOverrun]
  | cons count rest =>
    simp only [List.length_cons] at hlimit
    by_cases hlength : rest.length < count.toNat
    · have hover : rest.length + 1 < 1 + count.toNat := by omega
      refine panics_iff_of_fail (e := .badLength) (by simp [unmarshallCompressMethods, hover]) ?_
      rintro ⟨_, methods, after, hhs, hmethods, -⟩
      cases hhs
      simp only [List.length_append] at hlength
      omega
    · have hle : count.toNat ≤ rest.length := by omega
      obtain ⟨bytes, hbytes⟩ := readBytes_fits (count :: rest) 1 count.toNat
        (by simp only [List.length_cons]; omega)
      have hnext : unmarshallCompressMethods ch (count :: rest) =
          unmarshallExtensions { ch with compressMethods := bytes }
            (rest.drop count.toNat) := by
        simp [unmarshallCompressMethods, hbytes, sliceFrom, hle, Nat.add_comm 1]
      rw [hnext, extensions_panics_iff _ (by simp; omega),
        ← exists_split_iff hle ExtensionPartOverrun]
      simp [MethodsPartOverrun, and_assoc]

private theorem cipherSuites_overrun {β : Type} (hs : Bytes) (n : Nat)
    (hhead : 2 ≤ hs.length) (h : hs.length < 2 + n) (hn : n < 65534)
    (f : List Nat → Bytes → Parse β) :
    Panics (readWords hs 2 (n / 2) >>= fun suites =>
      sliceFrom hs ((2 + n) % 65536) >>= fun rest => f suites rest) := by
  rcases Nat.lt_or_ge hs.length (2 + 2 * (n / 2)) with hlt | hge
  · rw [panics_bind_iff]
    exact .inl (readWords_overrun hs 2 (n / 2) hhead hlt)
  · obtain ⟨suites, hsuites⟩ := readWords_fits hs 2 (n / 2) hge
    rw [hsuites, Nat.mod_eq_of_lt (by omega), sliceFrom_of_lt h]
    simp

theorem cipherSuites_panics_iff (hlimit : hs.length ≤ 0x3000) :
    Panics (unmarshallCipherSuites ch hs) ↔ SuitesPartOverrun hs := by
  rcases cons_cons_or_short hs with ⟨high, low, rest, rfl⟩ | hshort
  · simp only [List.length_cons] at hlimit
    rcases Nat.lt_or_ge (rest.length + 2) (bigEndian16 high low) with hbig | hsmall
    · refine panics_iff_of_fail (e := .badLength) (by simp [unmarshallCipherSuites, hbig]) ?_
      rintro ⟨_, _, _, hhs, ⟨-, hle⟩ | ⟨suites, after, hsplit, hsuites, -⟩⟩
      · cases hhs
        omega
      · cases hhs
        have := congrArg List.length hsplit
        simp only [List.length_append] at this
        omega
    · have hchecked : unmarshallCipherSuites ch (high :: low :: rest) =
          readWords (high :: low :: rest) 2 (bigEndian16 high low / 2) >>= fun suites =>
            sliceFrom (high :: low :: rest) ((2 + bigEndian16 high low) % 65536) >>=
              fun after => unmarshallCompressMethods
                { ch with cipherSuiteLen := bigEndian16 high low, cipherSuites := suites }
                after := by
        simp [unmarshallCipherSuites, Nat.not_lt.mpr hsmall]
      rw [hchecked]
      rcases Nat.lt_or_ge rest.length (bigEndian16 high low) with hlt | hge
      · have hpanics := cipherSuites_overrun (high :: low :: rest)
          (bigEndian16 high low) (by simp) (by simp; omega) (by omega)
          (fun suites after => unmarshallCompressMethods
            { ch with cipherSuiteLen := bigEndian16 high low, cipherSuites := suites }
            after)
        exact iff_of_true hpanics ⟨high, low, rest, rfl, .inl ⟨hlt, by omega⟩⟩
      · obtain ⟨suites, hsuites⟩ := readWords_fits (high :: low :: rest) 2
          (bigEndian16 high low / 2) (by simp; omega)
        rw [hsuites, ok_bind, Nat.mod_eq_of_lt (by omega),
          sliceFrom_of_le (by simp; omega), ok_bind, Nat.add_comm 2,
          List.drop_succ_cons, List.drop_succ_cons,
          compressMethods_panics_iff _ (by simp; omega), ← exists_split_iff hge MethodsPartOverrun]
        simp [SuitesPartOverrun, and_assoc, Nat.not_lt.mpr hge]
  · refine panics_iff_of_fail (e := .badLength) (by simp [unmarshallCipherSuites, hshort]) ?_
    rintro ⟨_, _, _, hhs, -⟩
    exact not_cons_cons_of_short hshort hhs

theorem sessionID_panics_iff (hlimit : hs.length ≤ 0x3000) :
    Panics (unmarshallSessionID ch hs) ↔
      ∃ length sessionID rest, hs = length :: (sessionID ++ rest) ∧
        sessionID.length = length.toNat ∧ SuitesPartOverrun rest := by
  cases hs with
  | nil =>
    have hfail : unmarshallSessionID ch [] = fail .badLength := rfl
    rw [hfail]
    simp
  | cons length rest =>
    simp only [List.length_cons] at hlimit
    rcases Nat.lt_or_ge rest.length length.toNat with hlt | hge
    · refine panics_iff_of_fail (e := .badLength) (by simp [unmarshallSessionID, sliceFrom, hlt]) ?_
      rintro ⟨_, sessionID, after, hhs, hlength, -⟩
      cases hhs
      simp only [List.length_append] at hlt
      omega
    · obtain ⟨ch', hnext⟩ : ∃ ch', unmarshallSessionID ch (length :: rest) =
          unmarshallCipherSuites ch' (rest.drop length.toNat) := by
        by_cases hzero : length = 0
        · refine ⟨{ ch with sessionIDLen := length.toNat }, ?_⟩
          simp [unmarshallSessionID, sliceFrom, hzero]
        · refine ⟨{ ch with
            sessionIDLen := length.toNat
            sessionID := rest.take length.toNat }, ?_⟩
          simp [unmarshallSessionID, sliceFrom, sliceTo, hzero, hge]
      rw [hnext, cipherSuites_panics_iff _ (by simp; omega),
        ← exists_split_iff hge SuitesPartOverrun]
      simp [and_assoc]

theorem unmarshallRandom_long (h : 32 ≤ hs.length) :
    unmarshallRandom ch hs =
      unmarshallSessionID { ch with random := hs.take 32 } (hs.drop 32) := by
  have hlong : ¬ hs.length < clientHelloRandomLen := Nat.not_lt.mpr h
  rw [unmarshallRandom, if_neg hlong, clientHelloRandomLen, sliceTo_of_le h, ok_bind,
    sliceFrom_of_le h, ok_bind]

theorem unmarshallHandshake_long (a b c v1 v2 : UInt8) (hs : Bytes) :
    ∃ ch', unmarshallHandshake ch (1 :: a :: b :: c :: v1 :: v2 :: hs) =
      unmarshallRandom ch' hs := by
  rw [unmarshallHandshake, if_neg (by simp), index_cons_zero, ok_bind]
  simp only [index_cons_succ]
  exact ⟨_, rfl⟩

theorem unmarshall_header (minor high low : UInt8) (hs : Bytes) :
    ∃ ch, unmarshall (22 :: 3 :: minor :: high :: low :: hs) = unmarshallHandshake ch hs := by
  rw [unmarshall]
  exact ⟨_, rfl⟩

private theorem unmarshall_front {record : Bytes} (h : IsHelloRecord record) :
    (record.length < 43 ∧ unmarshall record = fail .badLength) ∨
      (43 ≤ record.length ∧ ∃ ch,
        unmarshall record = unmarshallSessionID ch (record.drop 43)) := by
  obtain ⟨minor, high, low, a, b, c, body, rfl, -, -, -⟩ := h
  obtain ⟨ch, hheader⟩ := unmarshall_header minor high low (1 :: a :: b :: c :: body)
  rw [hheader]
  rcases cons_cons_or_short body with ⟨v1, v2, hs, rfl⟩ | hshort
  · obtain ⟨ch', hrandom⟩ := unmarshallHandshake_long ch a b c v1 v2 hs
    rw [hrandom]
    simp only [List.length_cons]
    rcases Nat.lt_or_ge hs.length 32 with hlt | hge
    · left
      constructor
      · omega
      · rw [unmarshallRandom, if_pos (by exact hlt)]
    · exact .inr ⟨by omega, _, unmarshallRandom_long ch' hge⟩
  · left
    constructor
    · simp only [List.length_cons]
      omega
    · rw [unmarshallHandshake, if_pos (by simp only [List.length_cons]; omega)]

theorem unmarshall_panics_iff {record : Bytes} (h : IsHelloRecord record) :
    Panics (unmarshall record) ↔ LengthOverrun record := by
  rcases unmarshall_front h with ⟨hshort, hfail⟩ | ⟨hlong, ch, hnext⟩
  · rw [hfail]
    simp only [not_panics_fail, false_iff]
    rintro ⟨front, length, sessionID, rest, rfl, hfront, -⟩
    simp only [List.length_append] at hshort
    omega
  · have hlimit : (record.drop 43).length ≤ 0x3000 := by
      obtain ⟨_, _, _, _, _, _, body, rfl, -, -, hmax⟩ := h
      simp only [List.length_drop, List.length_cons]
      omega
    rw [hnext, sessionID_panics_iff ch hlimit]
    constructor
    · rintro ⟨length, sessionID, rest, hdrop, hlength, hover⟩
      refine ⟨record.take 43, length, sessionID, rest, ?_, by simp; omega, hlength, hover⟩
      rw [← hdrop, List.take_append_drop]
    · rintro ⟨front, length, sessionID, rest, rfl, hfront, hlength, hover⟩
      refine ⟨length, sessionID, rest, ?_, hlength, hover⟩
      rw [← hfront, List.drop_left]

/-! ## Safety of the two functions together -/

/-- A record that `ReadClientHello` accepted is parsed to a result or an error,
unless a trusted length overruns. -/
theorem unmarshall_returns_iff (stream rest : Stream) (hello : Bytes)
    (haccepted : readClientHello stream = (hello, none, rest)) :
    ((∃ ch, unmarshall hello = .ok ch) ∨ ∃ error, unmarshall hello = fail error) ↔
      ¬ LengthOverrun hello := by
  rw [← unmarshall_panics_iff (readClientHello_record haccepted).1, not_panics_iff_returns]

def plainHello : Bytes :=
  [22, 3, 1, 0, 57, 1, 0, 0, 53, 3, 3] ++ List.replicate 32 0 ++
    [0, 0, 0, 1, 0, 0, 12, 0, 0, 0, 8, 0, 6, 0, 0, 3, 97, 46, 98]

theorem plainHello_accepted :
    readClientHello ⟨[plainHello], .eof⟩ = (plainHello, none, ⟨[], .eof⟩) := by
  decide +kernel

theorem unmarshall_returns_iff_plainHello : ¬ LengthOverrun plainHello := by
  refine (unmarshall_returns_iff _ _ plainHello plainHello_accepted).mp (.inl ?_)
  exact ⟨{
    raw := plainHello, type := 22, version := 0x301, messageLen := 57
    handshakeType := 1, handshakeLen := 53, handshakeVersion := 0x303
    random := List.replicate 32 0, compressMethods := [0], extensionLen := 12
    sni := [97, 46, 98] }, by decide +kernel⟩

def shortSuitesHello : Bytes :=
  [22, 3, 1, 0, 41, 1, 0, 0, 37, 3, 3] ++ List.replicate 32 0 ++ [0, 0, 2]

theorem unmarshall_panics_shortSuitesHello :
    readClientHello ⟨[shortSuitesHello], .eof⟩ = (shortSuitesHello, none, ⟨[], .eof⟩) ∧
      unmarshall shortSuitesHello = panicked .indexOutOfRange := by
  decide +kernel

end GateSentry.GsClientHello
