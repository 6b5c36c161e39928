import GateSentry.Foundation.Calendar
import GateSentry.Foundation.Dict
import GateSentry.Foundation.Net

/-!
# Devices

`types.go` of the device discovery, and the texts by which devices are recognised.
-/

namespace GateSentry.Discovery

open Foundation ByteText Calendar

inductive DiscoverySource where
  | ddns
  | lease
  | mdns
  | passive
  | manual
  | tailscale
  deriving DecidableEq

structure TailscaleIdentity where
  nodeID : Bytes := []
  name : Bytes := []
  dnsName : Bytes := []
  addresses : List Bytes := []
  online : Bool := false
  lastSeen : Time := zeroTime
  wolMACs : List Bytes := []
  deriving DecidableEq

structure Device where
  id : Bytes := []
  displayName : Bytes := []
  dnsName : Bytes := []
  hostnames : List Bytes := []
  mdnsNames : List Bytes := []
  macs : List Bytes := []
  tailscaleNodes : List TailscaleIdentity := []
  ipv4 : Bytes := []
  ipv6 : Bytes := []
  source : Option DiscoverySource := none
  sources : List DiscoverySource := []
  firstSeen : Time := zeroTime
  lastSeen : Time := zeroTime
  lanLastSeen : Time := zeroTime
  online : Bool := false
  manualName : Bytes := []
  owner : Bytes := []
  category : Bytes := []
  persistent : Bool := false
  deriving DecidableEq

inductive RecordType where
  | a
  | aaaa
  | ptr

def RecordType.code : RecordType → Nat
  | .a => 1
  | .aaaa => 28
  | .ptr => 12

structure DnsRecord where
  name : Bytes
  rtype : RecordType
  value : Bytes
  ttl : Nat
  deviceID : Bytes
  source : Option DiscoverySource

def defaultTTL : Nat := 60
def manualTTL : Nat := 300

/-! ## Names and addresses -/

def normalizeIP (value : Bytes) : Bytes :=
  match Net.parseIP (trimSpace value) with
  | none => []
  | some ip => if Net.isUnspecified ip || Net.isLoopback ip then [] else Net.formatIP ip

def normalizeMAC (value : Bytes) : Bytes :=
  match Net.parseMAC48 (trimSpace value) with
  | none => []
  | some mac => if mac = List.replicate 6 0 then [] else Net.formatMAC mac

def normalizeNodeID (value : Bytes) : Bytes := trimSpace value

def isLinkLocalIPv6 (value : Bytes) : Bool :=
  ((Net.parseIP value).map Net.isLinkLocalUnicast).getD false

def hyphen : UInt8 := 45

def collapseHyphens : Bytes → Bytes
  | [] => []
  | [b] => [b]
  | b :: c :: rest =>
    if b = hyphen ∧ c = hyphen then collapseHyphens (c :: rest)
    else b :: collapseHyphens (c :: rest)

def trimRightHyphens (name : Bytes) : Bytes :=
  (name.reverse.dropWhile (· = hyphen)).reverse

def sanitizeDNSName (name : Bytes) : Bytes :=
  let allowed (b : UInt8) : Bool := (97 ≤ b && b ≤ 122) || (48 ≤ b && b ≤ 57) || b = hyphen
  let replaced := (toLower (trimSpace name)).map fun b => if allowed b then b else hyphen
  let trimmed := trimRightHyphens ((collapseHyphens replaced).dropWhile (· = hyphen))
  if 63 < trimmed.length then trimRightHyphens (trimmed.take 63) else trimmed

def mergeStringSlice (a b : List Bytes) : List Bytes :=
  ((a ++ b).foldl (fun (result, seen) s =>
    let key := toLower s
    if seen.contains key then (result, seen) else (result ++ [s], key :: seen))
    (([], []) : List Bytes × List Bytes)).1

theorem mem_of_mem_mergeStringSlice {a b : List Bytes} {x : Bytes}
    (h : x ∈ mergeStringSlice a b) : x ∈ a ++ b := by
  suffices hall : ∀ x ∈ mergeStringSlice a b, x ∈ a ++ b from hall x h
  apply List.foldlRecOn (motive := fun acc : List Bytes × List Bytes => ∀ x ∈ acc.1, x ∈ a ++ b)
  · intro x hx
    cases hx
  · rintro ⟨result, seen⟩ hresult s hs
    dsimp only
    split
    · exact hresult
    · intro x hx
      rcases List.mem_append.mp hx with hold | hnew
      · exact hresult x hold
      · rw [List.mem_singleton.mp hnew]
        exact hs

def reverseIPv4 (ip : Bytes) : Bytes :=
  match Strings.pieces Net.dot ip with
  | [a, b, c, d] => Net.joinWith [Net.dot] [d, c, b, a] ++ utf8 ".in-addr.arpa"
  | _ => []

def reverseIPv6 (ip : Bytes) : Bytes :=
  match Net.parseIP ip with
  | none => []
  | some ip =>
    let nibbles := ip.reverse.flatMap fun b =>
      [[hexDigit (b.toNat % 16)], [hexDigit (b.toNat / 16)]]
    Net.joinWith [Net.dot] nibbles ++ utf8 ".ip6.arpa"

/-! ## Devices -/

namespace Device

def hasSource (d : Device) (source : DiscoverySource) : Bool := d.sources.contains source

def addSource (d : Device) (source : DiscoverySource) : Device :=
  if d.hasSource source then d else { d with sources := d.sources ++ [source] }

def overlayName (d : Device) : Option Bytes :=
  (d.tailscaleNodes.flatMap fun node => [node.name, node.dnsName]).find? (!·.isEmpty)

def getDisplayName (d : Device) : Bytes :=
  if !d.manualName.isEmpty then d.manualName
  else
    match d.macs, d.hostnames with
    | mac :: _, _ => mac
    | [], hostname :: _ => hostname
    | [], [] =>
      if !d.dnsName.isEmpty then d.dnsName
      else
        match d.overlayName, d.mdnsNames with
        | some name, _ => name
        | none, name :: _ => name
        | none, [] =>
          if !d.ipv4.isEmpty then d.ipv4
          else if !d.ipv6.isEmpty then d.ipv6
          else utf8 "Unknown"

def hasLANIP (d : Device) (ip : Bytes) : Bool :=
  !ip.isEmpty && (normalizeIP d.ipv4 = ip || normalizeIP d.ipv6 = ip)

def addresses (d : Device) : List Bytes :=
  let values := [d.ipv4, d.ipv6] ++ d.tailscaleNodes.flatMap (·.addresses)
  mergeStringSlice ((values.map normalizeIP).filter (!·.isEmpty)) []

def deriveDNSName (d : Device) : Bytes :=
  let fromMDNS (name : Bytes) := trimSuffix (trimSuffix name (utf8 ".local")) (utf8 ".local.")
  ((d.hostnames ++ d.mdnsNames.map fromMDNS).map sanitizeDNSName |>.find? (!·.isEmpty)).getD []

end Device

def TailscaleIdentity.completedFrom (identity current : TailscaleIdentity) :
    TailscaleIdentity :=
  { identity with
    name := if identity.name.isEmpty then current.name else identity.name
    dnsName := if identity.dnsName.isEmpty then current.dnsName else identity.dnsName
    addresses := mergeStringSlice identity.addresses current.addresses
    wolMACs := mergeStringSlice identity.wolMACs current.wolMACs
    lastSeen := if identity.lastSeen = zeroTime then current.lastSeen else identity.lastSeen }

def mergeTailscaleIdentities (primary secondary : List TailscaleIdentity) :
    List TailscaleIdentity :=
  (secondary ++ primary).foldl (fun merged identity =>
    let identity := { identity with nodeID := normalizeNodeID identity.nodeID }
    if identity.nodeID.isEmpty then merged
    else if merged.any (·.nodeID = identity.nodeID) then
      merged.map fun current =>
        if current.nodeID = identity.nodeID then identity.completedFrom current else current
    else merged ++ [identity.completedFrom {}]) []

end GateSentry.Discovery
