import GateSentry.Foundation.ByteText

/-!
# Addresses

`net.SplitHostPort`, `net.JoinHostPort` and `net.ParseIP` of Go, on bytes.
-/

namespace GateSentry.Foundation.Net

open ByteText

def colon : UInt8 := 58
def dot : UInt8 := 46
def openBracket : UInt8 := 91
def closeBracket : UInt8 := 93

/-! ## Host and port -/

inductive AddrError where
  | missingPort
  | tooManyColons
  | missingBracket
  | unexpectedBracket
  deriving DecidableEq

def cutLastColon (bytes : Bytes) : Option (Bytes × Bytes) :=
  (Strings.cut colon bytes.reverse).map fun (port, host) => (host.reverse, port.reverse)

theorem eq_append_of_cutLastColon {bytes host port : Bytes}
    (h : cutLastColon bytes = some (host, port)) : bytes = host ++ colon :: port := by
  unfold cutLastColon at h
  cases hcut : Strings.cut colon bytes.reverse with
  | none =>
    rw [hcut] at h
    exact nomatch h
  | some pair =>
    rw [hcut] at h
    cases h
    have hreverse := (Strings.eq_append_of_cut hcut).1
    rw [← List.reverse_reverse bytes, hreverse]
    simp

def splitHostPort (hostport : Bytes) : Except AddrError (Bytes × Bytes) :=
  match cutLastColon hostport with
  | none => .error .missingPort
  | some (before, port) =>
    match hostport with
    | [] => .error .missingPort
    | first :: rest =>
      if first = openBracket then
        match Strings.cut closeBracket rest with
        | none => .error .missingBracket
        | some (_, []) => .error .missingPort
        | some (host, after :: _) =>
          if before = openBracket :: host ++ [closeBracket] then
            if openBracket ∈ rest ∨ closeBracket ∈ port then
              .error .unexpectedBracket
            else .ok (host, port)
          else if after = colon then .error .tooManyColons
          else .error .missingPort
      else if colon ∈ before then .error .tooManyColons
      else if openBracket ∈ hostport ∨ closeBracket ∈ hostport then
        .error .unexpectedBracket
      else .ok (before, port)

def joinHostPort (host port : Bytes) : Bytes :=
  if colon ∈ host then openBracket :: host ++ closeBracket :: colon :: port
  else host ++ colon :: port

/-! ## IP addresses -/

def lowerByte (b : UInt8) : UInt8 := UInt8.ofNat (asciiToLower b.toNat)

def isAddressByte (b : UInt8) : Bool :=
  (48 ≤ b && b ≤ 57) || (97 ≤ b && b ≤ 102) || b = dot || b = colon

def parseOctet (field : Bytes) : Option UInt8 :=
  if field.isEmpty ∨ ¬ field.all (fun b => 48 ≤ b && b ≤ 57) then none
  else if 1 < field.length ∧ field.head? = some 48 then none
  else
    let value := field.foldl (fun value b => value * 10 + (b.toNat - 48)) 0
    if value > 255 then none else some (UInt8.ofNat value)

def parseIPv4Fields (bytes : Bytes) : Option Bytes :=
  match Strings.pieces dot bytes with
  | [a, b, c, d] => do
    let a ← parseOctet a
    let b ← parseOctet b
    let c ← parseOctet c
    let d ← parseOctet d
    return [a, b, c, d]
  | _ => none

/-- The groups of an IPv6 address: the bytes so far, where `::` stood, and what
could not be read. -/
def parseGroups : Nat → Bytes → Bytes → Option Nat → Option (Bytes × Option Nat × Bytes)
  | 0, ip, s, ellipsis => some (ip, ellipsis, s)
  | fuel + 1, ip, s, ellipsis =>
    let digits := s.takeWhile (fun b => (hexValue b).isSome)
    let value := digits.foldl (fun acc b => acc * 16 + (hexValue b).getD 0) 0
    if digits.isEmpty ∨ 4 < digits.length then none
    else
      match s.drop digits.length with
      | [] => some (ip ++ [UInt8.ofNat (value / 256), UInt8.ofNat value], ellipsis, [])
      | separator :: rest =>
        if separator = dot then
          if ellipsis.isNone ∧ ip.length ≠ 12 ∨ 12 < ip.length then none
          else (parseIPv4Fields s).map fun fields => (ip ++ fields, ellipsis, [])
        else if separator ≠ colon ∨ rest.isEmpty then none
        else
          let ip := ip ++ [UInt8.ofNat (value / 256), UInt8.ofNat value]
          match rest with
          | [] => none
          | next :: more =>
            if next = colon then
              if ellipsis.isSome then none
              else if more.isEmpty then some (ip, some ip.length, [])
              else parseGroups fuel ip more (some ip.length)
            else parseGroups fuel ip rest ellipsis

def parseIPv6 (s : Bytes) : Option Bytes :=
  let (ellipsis, s) :=
    if [colon, colon].isPrefixOf s then (some 0, s.drop 2) else (none, s)
  if ellipsis.isSome ∧ s.isEmpty then some (List.replicate 16 0)
  else do
    let (ip, ellipsis, rest) ← parseGroups 8 [] s ellipsis
    if ¬ rest.isEmpty then none
    else
      match ellipsis with
      | none => if ip.length < 16 then none else some ip
      | some position =>
        if ip.length < 16 then
          some (ip.take position ++ List.replicate (16 - ip.length) 0 ++ ip.drop position)
        else none

def v4InV6 : Bytes := List.replicate 10 0 ++ [0xff, 0xff]

def parseLowered (s : Bytes) : Option Bytes :=
  match s.find? (fun b => b = dot || b = colon) with
  | none => none
  | some b =>
    if b = dot then (parseIPv4Fields s).map fun fields => v4InV6 ++ fields
    else parseIPv6 s

/-- `net.ParseIP`: digits in either letter case, dots and colons, and no other byte. -/
def parseIP (s : Bytes) : Option Bytes :=
  let s := s.map lowerByte
  if s.all isAddressByte then parseLowered s else none

def to4 (ip : Bytes) : Option Bytes :=
  if v4InV6.isPrefixOf ip then some (ip.drop 12) else none

/-! ## Texts of addresses -/

def hexGroup (n : Nat) : Bytes :=
  let digits := [n / 4096 % 16, n / 256 % 16, n / 16 % 16]
  (digits.dropWhile (· = 0)).map hexDigit ++ [hexDigit (n % 16)]

def joinWith (separator : Bytes) : List Bytes → Bytes
  | [] => []
  | [item] => item
  | item :: rest => item ++ separator ++ joinWith separator rest

def groupsOf : Bytes → List Nat
  | high :: low :: rest => (high.toNat * 256 + low.toNat) :: groupsOf rest
  | _ => []

def zeroRun (groups : List Nat) : Nat × Nat :=
  (List.range groups.length).foldl (fun best start =>
    let length := ((groups.drop start).takeWhile (· = 0)).length
    if 2 ≤ length && best.2 < length then (start, length) else best) (0, 0)

def formatIP (ip : Bytes) : Bytes :=
  match to4 ip with
  | some fields => joinWith [dot] (fields.map fun b => utf8 (toString b.toNat))
  | none =>
    let groups := groupsOf ip
    let (start, length) := zeroRun groups
    let text (groups : List Nat) := joinWith [colon] (groups.map hexGroup)
    if length = 0 then text groups
    else text (groups.take start) ++ [colon, colon] ++ text (groups.drop (start + length))

def isUnspecified (ip : Bytes) : Bool :=
  ip = List.replicate 16 0 || to4 ip = some [0, 0, 0, 0]

def isLoopback (ip : Bytes) : Bool :=
  match to4 ip with
  | some fields => fields.head? = some 127
  | none => ip = List.replicate 15 0 ++ [1]

def isLinkLocalUnicast (ip : Bytes) : Bool :=
  match to4 ip with
  | some fields => fields.take 2 = [169, 254]
  | none => ip.getD 0 0 = 0xfe && ip.getD 1 0 &&& 0xc0 = 0x80

def hexBytes : Bytes → Option Bytes
  | [] => some []
  | high :: low :: rest => do
    let high ← hexValue high
    let low ← hexValue low
    let more ← hexBytes rest
    return UInt8.ofNat (high * 16 + low) :: more
  | _ => none

/-- `net.ParseMAC`, as far as it yields six bytes: six pairs of digits, or three
groups of four. -/
def parseMAC48 (s : Bytes) : Option Bytes :=
  let separated (separator : UInt8) (count width : Nat) : Option Bytes :=
    let fields := Strings.pieces separator s
    if fields.length = count && fields.all (·.length = width) then hexBytes fields.flatten
    else none
  let mark := s.getD 2 0
  if mark = colon || mark = 45 then separated mark 6 2
  else if s.getD 4 0 = dot then separated dot 3 4
  else none

def formatMAC (mac : Bytes) : Bytes :=
  joinWith [colon] (mac.map fun b => [hexDigit (b.toNat / 16), hexDigit (b.toNat % 16)])

example : (parseIP (utf8 "2001:DB8:0:0:1::7")).map formatIP =
    some (utf8 "2001:db8::1:0:0:7") := by decide

example : (parseMAC48 (utf8 "AA-bb-CC-dd-EE-0f")).map formatMAC =
    some (utf8 "aa:bb:cc:dd:ee:0f") := by decide

end GateSentry.Foundation.Net
