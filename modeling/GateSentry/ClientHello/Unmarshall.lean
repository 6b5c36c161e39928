import GateSentry.Foundation.Walk

/-!
# Parsing a ClientHello

`ClientHello.Unmarshall` of `clienthello/clientHello.go`, cut at the points where
the source re-slices `hs`.  Every index and slice expression of the source is an
operation that may panic.

The slices are modelled without their spare capacity.  The one place where the
source slices past the length, `data[:stringLen]` for a protocol name, is
followed by `data[stringLen:]`, which panics whatever the capacity is.
-/

namespace GateSentry.GsClientHello

open Foundation Outcome Slice

inductive HandshakeError where
  | wrongType
  | badLength
  | extBadLength
  deriving DecidableEq

structure ClientHello where
  raw : Bytes := []
  type : UInt8 := 0
  version : Nat := 0
  messageLen : Nat := 0
  handshakeType : UInt8 := 0
  handshakeLen : Nat := 0
  handshakeVersion : Nat := 0
  random : Bytes := []
  sessionIDLen : Nat := 0
  sessionID : Bytes := []
  cipherSuiteLen : Nat := 0
  cipherSuites : List Nat := []
  compressMethods : List UInt8 := []
  extensionLen : Nat := 0
  extensions : List (Nat × Nat) := []
  sni : Bytes := []
  signatureAlgs : List Nat := []
  supportedGroups : List Nat := []
  supportedPoints : List UInt8 := []
  oscp : Bool := false
  alpns : List Bytes := []
  deriving DecidableEq

def sniNameTypeDNS : UInt8 := 0
def ocspStatusRequest : UInt8 := 1
def clientHelloRandomLen : Nat := 32

def extServerName : Nat := 0
def extStatusRequest : Nat := 5
def extSupportedGroups : Nat := 10
def extECPointFormats : Nat := 11
def extSignatureAlgs : Nat := 13
def extALPN : Nat := 16

abbrev Parse (α : Type) := Outcome HandshakeError α

/-! ## Loops that copy numbers -/

def readWords (data : Bytes) : Nat → Nat → Parse (List Nat)
  | _, 0 => .ok []
  | offset, count + 1 => do
    let high ← index data offset
    let low ← index data (offset + 1)
    let words ← readWords data (offset + 2) count
    return bigEndian16 high low :: words

def readBytes (data : Bytes) : Nat → Nat → Parse Bytes
  | _, 0 => .ok []
  | offset, count + 1 => do
    let byte ← index data offset
    let bytes ← readBytes data (offset + 1) count
    return byte :: bytes

/-! ## Extensions -/

def serverNameRound (sni data : Bytes) : Parse (Bytes × Bytes) := do
  let nameType ← index data 0
  if data.length < 3 then fail .extBadLength
  else
    let high ← index data 1
    let low ← index data 2
    let nameLen := bigEndian16 high low
    let data ← sliceFrom data 3
    let sni ←
      if nameType = sniNameTypeDNS ∧ nameLen ≤ data.length then sliceTo data nameLen
      else pure sni
    let data ← sliceFrom data nameLen
    return (sni, data)

def alpnRound (alpns : List Bytes) (data : Bytes) : Parse (List Bytes × Bytes) := do
  let stringLen ← index data 0
  let data ← sliceFrom data 1
  let name ← sliceTo data stringLen.toNat
  let data ← sliceFrom data stringLen.toNat
  return (alpns ++ [name], data)

def listLength (data : Bytes) : Parse (Nat × Bytes) :=
  if data.length < 2 then fail .extBadLength
  else do
    let high ← index data 0
    let low ← index data 1
    let data ← sliceFrom data 2
    return (bigEndian16 high low, data)

def wordList (data : Bytes) : Parse (List Nat) := do
  let (length, data) ← listLength data
  if data.length < length then fail .extBadLength
  else readWords data 0 (length / 2)

def unmarshallExtension (ch : ClientHello) (extType length : Nat) (data : Bytes) :
    Parse ClientHello :=
  if extType = extServerName then do
    let (sniLen, data) ← listLength data
    if data.length < sniLen then fail .extBadLength
    else
      let sni ← walk serverNameRound ch.sni data
      return { ch with sni }
  else if extType = extSignatureAlgs then do
    let signatureAlgs ← wordList data
    return { ch with signatureAlgs }
  else if extType = extSupportedGroups then do
    let supportedGroups ← wordList data
    return { ch with supportedGroups }
  else if extType = extECPointFormats then
    if data.length < 1 then fail .extBadLength
    else do
      let pointLen ← index data 0
      let data ← sliceFrom data 1
      if data.length < pointLen.toNat then fail .extBadLength
      else
        let supportedPoints ← readBytes data 0 pointLen.toNat
        return { ch with supportedPoints }
  else if extType = extStatusRequest then
    if data.length < 1 then fail .extBadLength
    else do
      let statusType ← index data 0
      return if statusType = ocspStatusRequest then { ch with oscp := true } else ch
  else if extType = extALPN then do
    let (alpnLen, data) ← listLength data
    if data.length ≠ alpnLen then fail .extBadLength
    else
      let alpns ← walk alpnRound ch.alpns data
      return { ch with alpns }
  else
    return { ch with
      extensions := (extType, length) :: ch.extensions.filter (·.1 ≠ extType) }

/-- One round of the loop over the extensions; `4+length` is a `uint16`. -/
def extensionRound (ch : ClientHello) (hs : Bytes) : Parse (ClientHello × Bytes) :=
  if hs.length < 4 then fail .extBadLength
  else do
    let t1 ← index hs 0
    let t2 ← index hs 1
    let l1 ← index hs 2
    let l2 ← index hs 3
    let length := bigEndian16 l1 l2
    if hs.length < 4 + length then fail .extBadLength
    else
      let data ← slice hs 4 ((4 + length) % 65536)
      let hs ← sliceFrom hs ((4 + length) % 65536)
      let ch ← unmarshallExtension ch (bigEndian16 t1 t2) length data
      return (ch, hs)

/-! ## The message -/

def unmarshallExtensions (ch : ClientHello) (hs : Bytes) : Parse ClientHello :=
  if hs.length < 2 then fail .badLength
  else do
    let high ← index hs 0
    let low ← index hs 1
    let extensionLen := bigEndian16 high low
    if hs.length < extensionLen then fail .extBadLength
    else
      let hs ← sliceFrom hs 2
      walk extensionRound { ch with extensionLen } hs

def unmarshallCompressMethods (ch : ClientHello) (hs : Bytes) : Parse ClientHello :=
  if hs.length < 1 then fail .badLength
  else do
    let numCompressMethods ← index hs 0
    if hs.length < 1 + numCompressMethods.toNat then fail .badLength
    else
      let compressMethods ← readBytes hs 1 numCompressMethods.toNat
      let hs ← sliceFrom hs (1 + numCompressMethods.toNat)
      unmarshallExtensions { ch with compressMethods } hs

/-- The cipher suites; `2+ch.CipherSuiteLen` is a `uint16`. -/
def unmarshallCipherSuites (ch : ClientHello) (hs : Bytes) : Parse ClientHello :=
  if hs.length < 2 then fail .badLength
  else do
    let high ← index hs 0
    let low ← index hs 1
    let cipherSuiteLen := bigEndian16 high low
    if hs.length < cipherSuiteLen then fail .badLength
    else
      let cipherSuites ← readWords hs 2 (cipherSuiteLen / 2)
      let hs ← sliceFrom hs ((2 + cipherSuiteLen) % 65536)
      unmarshallCompressMethods { ch with cipherSuiteLen, cipherSuites } hs

def unmarshallSessionID (ch : ClientHello) (hs : Bytes) : Parse ClientHello :=
  if hs.length < 1 then fail .badLength
  else do
    let sessionIDLen ← index hs 0
    let hs ← sliceFrom hs 1
    if hs.length < sessionIDLen.toNat then fail .badLength
    else
      let sessionID ←
        if sessionIDLen ≠ 0 then sliceTo hs sessionIDLen.toNat else pure ch.sessionID
      let hs ← sliceFrom hs sessionIDLen.toNat
      unmarshallCipherSuites
        { ch with sessionIDLen := sessionIDLen.toNat, sessionID } hs

def unmarshallRandom (ch : ClientHello) (hs : Bytes) : Parse ClientHello :=
  if hs.length < clientHelloRandomLen then fail .badLength
  else do
    let random ← sliceTo hs clientHelloRandomLen
    let hs ← sliceFrom hs clientHelloRandomLen
    unmarshallSessionID { ch with random } hs

def unmarshallHandshake (ch : ClientHello) (hs : Bytes) : Parse ClientHello :=
  if hs.length < 6 then fail .badLength
  else do
    let handshakeType ← index hs 0
    if handshakeType ≠ 1 then fail .wrongType
    else
      let a ← index hs 1
      let b ← index hs 2
      let c ← index hs 3
      let high ← index hs 4
      let low ← index hs 5
      let hs ← sliceFrom hs 6
      unmarshallRandom
        { ch with
          handshakeType
          handshakeLen := bigEndian24 a b c
          handshakeVersion := bigEndian16 high low } hs

def unmarshall (payload : Bytes) : Parse ClientHello := do
  let type ← index payload 0
  let major ← index payload 1
  let minor ← index payload 2
  let high ← index payload 3
  let low ← index payload 4
  if type ≠ 22 then fail .wrongType
  else
    let hs ← sliceFrom payload 5
    unmarshallHandshake
      { raw := payload
        type
        version := bigEndian16 major minor
        messageLen := bigEndian16 high low } hs

end GateSentry.GsClientHello
