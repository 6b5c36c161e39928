import GateSentry.Dns.Update
import GateSentry.Foundation.Handler
import GateSentry.Policy.Identity

/-!
# Queries

`handleDNSRequest`: each question of a message is answered locally, blocked, rewritten
or forwarded, and the first one that is not forwarded ends the call.
-/

namespace GateSentry.Dns

open Foundation Discovery Policy ByteText Calendar

/-! ## What a question meets -/

/-- The policy service while a question is decided: the identity is resolved first, and
the policies that decide may be newer ones. -/
structure PolicyTurn where
  resolving : Service
  devices : Option (Bytes → Sighting)
  revision : Int
  deciding : Service
  now : Time

structure Tables where
  exceptionDomains : Dict Bytes Bool
  internalRecords : Dict Bytes Bytes
  blockedDomains : Dict Bytes Bool

/-- All that a question meets; another question of the same message may meet other
policies, tables, devices and another upstream. -/
structure Turn where
  policy : Option PolicyTurn
  deviceStore : Option DeviceStore
  tables : Tables
  exchange : (useTCP : Bool) → Msg → Option Msg

/-- The client of a message: its address and whether it came over TCP; with the id that the
library draws for a query of its own, and its `dns.Fqdn`. -/
structure Client where
  clientIP : Bytes
  overTCP : Bool
  lookupID : Nat
  fqdn : Bytes → Bytes

inductive Action where
  | log (decision : Decision)
  | write (m : Msg)
  | close
  | update (ds : DeviceStore)

/-! ## Answers -/

def DnsRecord.toRR (fqdn : Bytes → Bytes) (record : DnsRecord) : RR where
  name := fqdn record.name
  rrtype := record.rtype.code
  rrclass := classINET
  ttl := record.ttl
  data := match record.rtype with
    | .a => .a (Net.parseIP record.value)
    | .aaaa => .aaaa (Net.parseIP record.value)
    | .ptr => .ptr (fqdn record.value)

def isReverseDomain (domain : Bytes) : Bool :=
  (utf8 ".in-addr.arpa").isSuffixOf domain || (utf8 ".ip6.arpa").isSuffixOf domain

def deviceRecords (ds : DeviceStore) (q : Question) (domain : Bytes) : List DnsRecord :=
  if q.qtype = typePTR && isReverseDomain domain then ds.lookupReverse domain
  else ds.lookupName domain q.qtype

def deviceAnswer (client : Client) (r : Msg) (records : List DnsRecord) : Msg :=
  { r.reply rcodeSuccess with
    authoritative := true, answer := records.map (DnsRecord.toRR client.fqdn) }

def internalAnswer (r : Msg) (q : Question) (internalIP : Bytes) : Msg :=
  { r.reply rcodeSuccess with
    answer := [⟨q.name, typeA, classINET, 60, .a (Net.parseIP internalIP)⟩] }

def blockedAnswerTTL : Nat := 60

def blockAnswer (r : Msg) (domain : Bytes) : Msg :=
  { r.reply rcodeNameError with
    answer := [⟨domain ++ utf8 ".", typeCNAME, classINET, blockedAnswerTTL,
      .cname (utf8 "blocked.local.")⟩] }

def failureAnswer (r : Msg) : Msg := r.reply rcodeServerFailure

def forwardDNSRequest (exchange : Bool → Msg → Option Msg) (r : Msg) (useTCP : Bool) :
    Option Msg :=
  match exchange useTCP r with
  | none => none
  | some resp =>
    if resp.truncated && !useTCP then some ((exchange true r).getD resp) else some resp

def safeSearchLookup (client : Client) (q : Question) (target : Bytes) : Msg where
  id := client.lookupID
  recursionDesired := true
  question := [⟨client.fqdn target, q.qtype, classINET⟩]

def safeSearchAnswer (client : Client) (r : Msg) (q : Question) (target : Bytes) (upstream : Msg) :
    Msg :=
  { r.reply rcodeSuccess with
    recursionAvailable := true
    answer := ⟨q.name, typeCNAME, classINET, 300, .cname (client.fqdn target)⟩ :: upstream.answer }

def safeSearchResponse (exchange : Bool → Msg → Option Msg) (client : Client) (r : Msg)
    (q : Question) (target : Bytes) : Option Msg :=
  match forwardDNSRequest exchange (safeSearchLookup client q target) false with
  | none => none
  | some upstream =>
    if upstream.rcode ≠ rcodeSuccess then none
    else some (safeSearchAnswer client r q target upstream)

/-! ## One question -/

def PolicyTurn.identity (p : PolicyTurn) (clientIP : Bytes) : Identity :=
  resolveIdentity p.devices clientIP [] true p.resolving.snapshot

def Turn.identity (turn : Turn) (clientIP : Bytes) : Identity :=
  (turn.policy.map (·.identity clientIP)).getD {}

def Turn.revision (turn : Turn) : Int := (turn.policy.map (·.revision)).getD 0

def Turn.policyDecision (platform : Platform) (turn : Turn) (clientIP domain : Bytes) :
    DNSDecision :=
  match turn.policy with
  | none => {}
  | some p => evaluateDNSIn platform (p.identity clientIP) domain (p.deciding.liveContext p.now)

def Turn.isBlocked (turn : Turn) (domain : Bytes) : Bool :=
  (turn.tables.blockedDomains.lookup domain).getD false

def Turn.isException (turn : Turn) (domain : Bytes) : Bool :=
  (turn.tables.exceptionDomains.lookup domain).getD false

def Turn.safeSearch (platform : Platform) (turn : Turn) (clientIP domain : Bytes) : Bytes :=
  if (turn.policyDecision platform clientIP domain).safeSearch then safeSearchTarget domain
  else []

def dnsDecision (turn : Turn) (client : Client) (domain : Bytes) (action : DecisionAction)
    (responseLabel matchedRule reason : Bytes) : Decision :=
  let identity := turn.identity client.clientIP
  { action, responseType := responseLabel, matchedRule, reason, layer := .dns, domain
    clientIP := client.clientIP, deviceID := identity.deviceID, groupID := identity.groupID
    source := identity.source, policyRevision := turn.revision }

def domainOf (q : Question) : Bytes := (toLower q.name).dropLast

section Question

variable (platform : Platform) (client : Client) (r : Msg) (q : Question) (turn : Turn)

def answerFromDevices : Handler Action Unit :=
  let records := (turn.deviceStore.map (deviceRecords · q (domainOf q))).getD []
  Handler.whenever (!records.isEmpty) do
    Handler.emit (.log (dnsDecision turn client (domainOf q) .allow (utf8 "device")
      (utf8 "device store") (utf8 "local device record")))
    Handler.emit (.write (deviceAnswer client r records))
    Handler.stop

def answerFromRecords : Handler Action Unit :=
  if turn.isException (domainOf q) then
    Handler.emit (.log (dnsDecision turn client (domainOf q) .bypass (utf8 "exception")
      (utf8 "exception") (utf8 "exception domain")))
  else
    match turn.tables.internalRecords.lookup (domainOf q) with
    | none => pure ()
    | some internalIP => do
      Handler.emit (.log (dnsDecision turn client (domainOf q) .allow (utf8 "internal")
        (utf8 "internal record") (utf8 "internal record")))
      Handler.emit (.write (internalAnswer r q internalIP))
      Handler.stop

def enforcePolicy : Handler Action Unit := do
  let decision := turn.policyDecision platform client.clientIP (domainOf q)
  Handler.whenever (decision.action = .block) do
    Handler.emit (.log (dnsDecision turn client (domainOf q) .block (utf8 "blocked")
      (policyMatchLabel decision) decision.reason))
    Handler.emit (.write (blockAnswer r (domainOf q)))
    Handler.stop
  Handler.whenever (decision.action = .allow && turn.isBlocked (domainOf q)) do
    Handler.emit (.log (dnsDecision turn client (domainOf q) .bypass (utf8 "exception")
      (policyMatchLabel decision) (decision.reason ++ utf8 " exempts the blocklist")))
  Handler.whenever (decision.action ≠ .allow && turn.isBlocked (domainOf q)) do
    Handler.emit (.log (dnsDecision turn client (domainOf q) .block (utf8 "blocked")
      (utf8 "blocklist") (utf8 "global blocklist")))
    Handler.emit (.write (blockAnswer r (domainOf q)))
    Handler.stop

def enforceSafeSearch : Handler Action Unit :=
  let target := turn.safeSearch platform client.clientIP (domainOf q)
  Handler.whenever (!target.isEmpty)
    (match safeSearchResponse turn.exchange client r q target with
    | none => do
      Handler.emit (.write (failureAnswer r))
      Handler.stop
    | some response => do
      Handler.emit (.log (dnsDecision turn client (domainOf q) .allow (utf8 "safesearch")
        (utf8 "safe search") (utf8 "rewritten to " ++ target)))
      Handler.emit (.write response)
      Handler.stop)

def forwardQuestion : Handler Action (List RR) := do
  Handler.emit (.log (dnsDecision turn client (domainOf q) .allow (utf8 "forward") []
    (utf8 "no matching rule")))
  match forwardDNSRequest turn.exchange r client.overTCP with
  | none => do
    Handler.emit (.write (failureAnswer r))
    Handler.stop
  | some resp => pure resp.answer

def answerQuestion : Handler Action (List RR) := do
  Handler.whenever q.name.isEmpty (Handler.crash .sliceOutOfRange)
  answerFromDevices client r q turn
  answerFromRecords client r q turn
  enforcePolicy platform client r q turn
  enforceSafeSearch platform client r q turn
  forwardQuestion client r q turn

end Question

/-! ## The handler -/

def answerQuestions (platform : Platform) (client : Client) (r : Msg) (turns : Nat → Turn) :
    List Question → Nat → List RR → Handler Action (List RR)
  | [], _, answers => pure answers
  | q :: rest, i, answers => do
    let more ← answerQuestion platform client r q (turns i)
    answerQuestions platform client r turns rest (i + 1) (answers ++ more)

def collectedAnswer (r : Msg) (answers : List RR) : Msg :=
  { r.reply rcodeSuccess with authoritative := true, answer := answers }

structure ServerState where
  serverRunning : Bool
  ddnsConfig : DdnsConfig
  deviceStore : DeviceStore
  tsigStatus : Msg → Bool
  sign : Msg → Tsig → Tsig
  updateWorld : UpdateWorld

def handleDNSRequest (platform : Platform) (server : ServerState) (client : Client)
    (turns : Nat → Turn) (r : Msg) : Handler Action Unit :=
  if !server.serverRunning then Handler.emit .close
  else if r.opcode = opcodeUpdate then do
    let (response, ds) := handleDDNSUpdate server.ddnsConfig (server.tsigStatus r) server.sign
      server.deviceStore r server.updateWorld
    Handler.emit (.update ds)
    Handler.emit (.write response)
  else do
    let answers ← answerQuestions platform client r turns r.question 0 []
    Handler.emit (.write (collectedAnswer r answers))

end GateSentry.Dns
