import GateSentry.Discovery.Store

/-!
# Dynamic updates

The parts of a message that the server reads or writes, and `ddns.go`: an UPDATE message is
checked, taken apart into additions and deletions, and applied to the device store.
-/

namespace GateSentry.Dns

open Foundation Discovery ByteText

/-! ## Messages -/

def typeA : Nat := 1
def typeCNAME : Nat := 5
def typePTR : Nat := 12
def typeAAAA : Nat := 28
def typeANY : Nat := 255

def classINET : Nat := 1
def classNONE : Nat := 254
def classANY : Nat := 255

def opcodeQuery : Nat := 0
def opcodeUpdate : Nat := 5

def rcodeSuccess : Nat := 0
def rcodeFormatError : Nat := 1
def rcodeServerFailure : Nat := 2
def rcodeNameError : Nat := 3
def rcodeRefused : Nat := 5
def rcodeNotZone : Nat := 10

structure Question where
  name : Bytes
  qtype : Nat
  qclass : Nat
  deriving DecidableEq

inductive RData where
  | a (ip : Option Bytes)
  | aaaa (ip : Option Bytes)
  | ptr (target : Bytes)
  | cname (target : Bytes)
  | other (data : Bytes)
  deriving DecidableEq

structure RR where
  name : Bytes
  rrtype : Nat
  rrclass : Nat
  ttl : Nat
  data : RData
  deriving DecidableEq

structure Tsig where
  keyName : Bytes
  algorithm : Bytes
  mac : Bytes
  deriving DecidableEq

structure Msg where
  id : Nat := 0
  response : Bool := false
  opcode : Nat := opcodeQuery
  authoritative : Bool := false
  truncated : Bool := false
  recursionDesired : Bool := false
  recursionAvailable : Bool := false
  rcode : Nat := rcodeSuccess
  question : List Question := []
  answer : List RR := []
  ns : List RR := []
  tsig : Option Tsig := none
  deriving DecidableEq

/-- `SetRcode`: a reply repeats the first question only. -/
def Msg.reply (r : Msg) (rcode : Nat) : Msg where
  id := r.id
  response := true
  opcode := r.opcode
  recursionDesired := r.opcode = opcodeQuery && r.recursionDesired
  rcode := rcode
  question := r.question.take 1

def ipText (ip : Bytes) : Bytes :=
  Net.formatIP (if ip.length = 4 then Net.v4InV6 ++ ip else ip)

structure DdnsUpdate where
  name : Bytes
  rrtype : Nat
  rrclass : Nat
  ttl : Nat
  value : Bytes

/-! ## Taking a message apart -/

def RR.updateValue (rr : RR) : Bytes :=
  match rr.data with
  | .a ip => (ip.map ipText).getD []
  | .aaaa ip => (ip.map ipText).getD []
  | .ptr target => trimSuffix target (utf8 ".")
  | _ => []

def RR.toUpdate (rr : RR) : DdnsUpdate where
  name := toLower (trimSuffix rr.name (utf8 "."))
  rrtype := rr.rrtype
  rrclass := rr.rrclass
  ttl := rr.ttl
  value := rr.updateValue

def parseDDNSUpdates (rrs : List RR) : List DdnsUpdate × List DdnsUpdate :=
  let updates := rrs.map RR.toUpdate
  (updates.filter fun update => update.rrclass = classINET && !update.value.isEmpty,
    updates.filter fun update => update.rrclass = classANY || update.rrclass = classNONE)

def extractHostname (name zone : Bytes) : Bytes :=
  let name := toLower name
  let tail := utf8 "." ++ toLower zone
  if tail.isSuffixOf name then name.take (name.length - tail.length) else []

/-! ## Additions -/

/-- The outside of one addition: the kernel's ARP table, and what `UpsertDevice` meets. -/
structure AddWorld where
  lookupARPEntry : Bytes → Bytes
  circumstances : Circumstances

def ddnsDevice (update : DdnsUpdate) (hostname : Bytes) : Option Device :=
  let device : Device := { hostnames := [hostname], source := some .ddns, sources := [.ddns] }
  if update.rrtype = typeA then some { device with ipv4 := update.value }
  else if update.rrtype = typeAAAA then some { device with ipv6 := update.value }
  else none

def ddnsMatch (ds : DeviceStore) (device : Device) (hostname : Bytes) : Option Device :=
  (ds.findDeviceByHostname hostname).or
    ((if device.ipv4.isEmpty then none else ds.findDeviceByIP device.ipv4).or
      (if device.ipv6.isEmpty then none else ds.findDeviceByIP device.ipv6))

def matchedDevice (seen : DeviceStore) (update : DdnsUpdate) (zone : Bytes)
    (lookupARPEntry : Bytes → Bytes) : Option Device :=
  let hostname := extractHostname update.name zone
  if hostname.isEmpty then none
  else
    (ddnsDevice update hostname).map fun device =>
      let mac := if device.ipv4.isEmpty then [] else lookupARPEntry device.ipv4
      { device with
        id := ((ddnsMatch seen device hostname).map (·.id)).getD []
        macs := if mac.isEmpty then [] else [mac] }

/-- `applyDDNSAdd`.  Its lookups take the lock on their own, so that what they have
`seen` may be an earlier store. -/
def applyDDNSAdd (seen ds : DeviceStore) (update : DdnsUpdate) (zone : Bytes)
    (world : AddWorld) : DeviceStore :=
  match matchedDevice seen update zone world.lookupARPEntry with
  | none => ds
  | some device => (upsertDevice ds device world.circumstances).2.2

/-! ## Deletions -/

/-- `applyDDNSDelete`; `orders` are those of the rebuilds, one after the other. -/
def applyDDNSDelete (ds : DeviceStore) (update : DdnsUpdate) (orders : Nat → DeviceOrder) :
    DeviceStore :=
  let records :=
    if update.rrtype = typeANY then ds.lookupAll update.name
    else ds.lookupName update.name update.rrtype
  match records with
  | [] => ds
  | first :: _ =>
    if update.rrclass = classANY then
      clearDeviceAddress ds first.deviceID (update.rrtype = typeANY || update.rrtype = typeA)
        (update.rrtype = typeANY || update.rrtype = typeAAAA) (orders 0)
    else if update.rrclass = classNONE then
      (records.filter (·.value = update.value)).zipIdx.foldl (fun ds (record, i) =>
        clearDeviceAddress ds record.deviceID (update.rrtype = typeA)
          (update.rrtype = typeAAAA) (orders i)) ds
    else ds

/-- The outside of a cleanup: the order of the listing, and of each removal the
storage and the order of the rebuild. -/
structure CleanupWorld where
  listing : DeviceOrder
  removals : Nat → StorageResult × DeviceOrder

def cleanupOrphanedDevices (ds : DeviceStore) (world : CleanupWorld) : DeviceStore :=
  let listed := world.listing.visit (ds.devices.entries.map (·.2))
  let orphaned := listed.filter fun d => d.ipv4.isEmpty && d.ipv6.isEmpty && !d.persistent
  orphaned.zipIdx.foldl (fun ds (d, i) =>
    removeDevice ds d.id (world.removals i).1 (world.removals i).2) ds

/-! ## The handler -/

structure DdnsConfig where
  enabled : Bool
  tsigRequired : Bool

def isAuthorizedZone (ds : DeviceStore) (zone : Bytes) : Bool := ds.zones.any (equalFold zone)

structure UpdateWorld where
  deletes : Nat → Nat → DeviceOrder
  adds : Nat → AddWorld
  cleanup : CleanupWorld

def plainUpdateWorld : UpdateWorld :=
  let order : DeviceOrder := .asListed
  { deletes := fun _ _ => order
    adds := fun _ => ⟨fun _ => [], ⟨⟨0, 0⟩, .written, order⟩⟩
    cleanup := ⟨order, fun _ => (.written, order)⟩ }

def applyUpdates (ds : DeviceStore) (rrs : List RR) (zone : Bytes) (world : UpdateWorld) :
    DeviceStore :=
  let (adds, deletes) := parseDDNSUpdates rrs
  let ds := deletes.zipIdx.foldl (fun ds (update, i) =>
    applyDDNSDelete ds update (world.deletes i)) ds
  let ds := adds.zipIdx.foldl (fun ds (update, i) =>
    applyDDNSAdd ds ds update zone (world.adds i)) ds
  cleanupOrphanedDevices ds world.cleanup

/-- `sendDDNSResponse`; the library computes the signature that answers a signed
request. -/
def ddnsResponse (sign : Msg → Tsig → Tsig) (r : Msg) (rcode : Nat) : Msg :=
  let m := r.reply rcode
  { m with tsig := r.tsig.map (sign m) }

/-- `handleDDNSUpdate`, with the verification status that the library reports
(`true` for no error): the response and the store. -/
def handleDDNSUpdate (config : DdnsConfig) (tsigStatus : Bool) (sign : Msg → Tsig → Tsig)
    (ds : DeviceStore) (r : Msg) (world : UpdateWorld) : Msg × DeviceStore :=
  let respond := ddnsResponse sign r
  if !config.enabled then (respond rcodeRefused, ds)
  else if config.tsigRequired && r.tsig.isNone then (respond rcodeRefused, ds)
  else if r.tsig.isSome && !tsigStatus then (respond rcodeRefused, ds)
  else
    match r.question with
    | [] => (respond rcodeFormatError, ds)
    | question :: _ =>
      let zone := toLower (trimSuffix question.name (utf8 "."))
      if !isAuthorizedZone ds zone then (respond rcodeNotZone, ds)
      else (respond rcodeSuccess, applyUpdates ds r.ns zone world)

end GateSentry.Dns
