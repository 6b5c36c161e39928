import GateSentry.Foundation.Handler
import GateSentry.Foundation.Stream
import GateSentry.Proxy.Auth

/-!
# What the proxy works with

The parts of `net/url` and `net/http` that the request handler reads, the types of `types.go` and
`constants.go`, the handlers that `main.go` gives to the proxy, the world outside it, and the
actions it can be seen to perform.
-/

namespace GateSentry.Proxy

open Foundation ByteText Accounts

/-! ## URLs -/

/-- A URL as the server parses it.  `user` and `path` are in their escaped form;
a request's URL never has a fragment. -/
structure URL where
  scheme : Bytes := []
  opaquePart : Bytes := []
  user : Option Bytes := none
  host : Bytes := []
  omitHost : Bool := false
  path : Bytes := []
  forceQuery : Bool := false
  rawQuery : Bytes := []
  deriving DecidableEq, Inhabited

def keepsInHost (b : UInt8) : Bool :=
  (97 ≤ b && b ≤ 122) || (65 ≤ b && b ≤ 90) || (48 ≤ b && b ≤ 57) ||
    (utf8 "!$&'()*+,;=:[]<>\"-_.~").contains b

def upperHexDigit (n : Nat) : UInt8 := UInt8.ofNat (if n < 10 then 48 + n else 55 + n)

def escapeByte (b : UInt8) : Bytes :=
  if keepsInHost b then [b] else [37, upperHexDigit (b.toNat / 16), upperHexDigit (b.toNat % 16)]

def escapeHost (host : Bytes) : Bytes := host.flatMap escapeByte

namespace URL

def userText (u : URL) : Bytes :=
  match u.user with
  | some user => user ++ utf8 "@"
  | none => []

def authority (u : URL) : Bytes :=
  if u.scheme.isEmpty ∧ u.host.isEmpty ∧ u.user.isNone then []
  else if u.omitHost ∧ u.host.isEmpty ∧ u.user.isNone then []
  else
    (if u.host.isEmpty ∧ u.path.isEmpty ∧ u.user.isNone then [] else utf8 "//") ++
      u.userText ++ escapeHost u.host

def pathLead (u : URL) : Bytes :=
  if ¬ u.path.isEmpty ∧ u.path.head? ≠ some 47 ∧ ¬ u.host.isEmpty then utf8 "/"
  else if u.scheme.isEmpty ∧ u.authority.isEmpty ∧
      (u.path.takeWhile (· ≠ 47)).contains Net.colon then utf8 "./"
  else []

def queryText (u : URL) : Bytes :=
  if u.forceQuery ∨ ¬ u.rawQuery.isEmpty then utf8 "?" ++ u.rawQuery else []

def string (u : URL) : Bytes :=
  (if u.scheme.isEmpty then [] else u.scheme ++ utf8 ":") ++
    (if u.opaquePart.isEmpty then u.authority ++ u.pathLead ++ u.path
      else u.opaquePart) ++
    u.queryText

end URL

/-! ## Headers and requests -/

abbrev Header := List (Bytes × Bytes)

def isToken (b : UInt8) : Bool :=
  (97 ≤ b && b ≤ 122) || (65 ≤ b && b ≤ 90) || (48 ≤ b && b ≤ 57) ||
    (utf8 "!#$%&'*+-.^_|~").contains b || b = 96

def canonicalKey (key : Bytes) : Bytes :=
  if key.all isToken then
    (key.foldl (fun (done, upper) b =>
      let c := if upper && 97 ≤ b && b ≤ 122 then b - 32
        else if !upper && 65 ≤ b && b ≤ 90 then b + 32 else b
      (done ++ [c], c = 45)) ([], true)).1
  else key

namespace Header

def get (header : Header) (key : Bytes) : Bytes :=
  ((header.find? (·.1 = key)).map (·.2)).getD []

def values (header : Header) (key : Bytes) : List Bytes :=
  (header.filter (·.1 = key)).map (·.2)

def del (header : Header) (key : Bytes) : Header :=
  header.filter (·.1 ≠ canonicalKey key)

def set (header : Header) (key value : Bytes) : Header :=
  header.filter (·.1 ≠ key) ++ [(key, value)]

end Header

def hopByHop : List Bytes :=
  ["Connection", "Keep-Alive", "Proxy-Authenticate", "Proxy-Authorization",
    "Proxy-Connection", "TE", "Trailer", "Transfer-Encoding", "Upgrade"].map utf8

def removeHopByHopHeaders (header : Header) : Header :=
  let connection := header.get (utf8 "Connection")
  let listed := if connection.isEmpty then []
    else (Strings.pieces 44 connection).map trimSpace
  (hopByHop ++ listed).foldl Header.del header

structure Request where
  method : Bytes
  url : URL
  host : Bytes
  remoteAddr : Bytes
  header : Header
  deriving DecidableEq, Inhabited

def Request.IsOriginForm (r : Request) : Prop :=
  r.url.scheme = [] ∧ r.url.opaquePart = [] ∧ r.url.user = none ∧ r.url.host = [] ∧
    r.url.omitHost = false ∧ r.url.path.head? = some 47

instance (r : Request) : Decidable r.IsOriginForm := by
  unfold Request.IsOriginForm
  infer_instance

/-! ## Verdicts -/

inductive ProxyAction where
  | blockedTextContent
  | blockedMediaContent
  | blockedFileType
  | blockedTime
  | blockedInternetForUser
  | userNotFound
  | userActive
  | blockedUrl
  | sslDirect
  | sslBump
  | filterNone
  deriving DecidableEq

/-- What a filter fills in: `FilterResponseAction`, if any, and `FilterResponse`. -/
structure Verdict where
  action : Option ProxyAction := none
  response : Bytes := []

structure PolicyDecision where
  block : Bool := false
  allow : Bool := false
  inspect : Bool := false
  blockURLRegexes : List Bytes := []
  blockContentTypes : List Bytes := []
  reason : Bytes := []
  deriving DecidableEq

namespace PolicyDecision

/-- `BlocksURL`; a pattern that does not compile matches nothing. -/
def blocksURL (matchString : Bytes → Bytes → Bool) (d : PolicyDecision)
    (requestURL : Bytes) : Bool :=
  d.blockURLRegexes.any fun pattern => matchString pattern requestURL

def blocksContentType (d : PolicyDecision) (contentType : Bytes) : Bool :=
  !contentType.isEmpty && d.blockContentTypes.any (·.isPrefixOf contentType)

end PolicyDecision

/-! ## Actions -/

inductive Layer where
  | unset
  | explicitProxy
  | transparentProxy
  | content
  deriving DecidableEq

structure GSLogData where
  url : Bytes
  user : Bytes
  action : ProxyAction
  clientIP : Bytes := []
  layer : Layer := .unset
  reason : Bytes := []
  deriving DecidableEq

inductive Link where
  | plain
  | tls
  deriving DecidableEq

/-- `*http.Transport` or `*http2.Transport`, and whether a
`hardValidationTransport` is around it. -/
structure Transport where
  http2 : Bool
  hardValidation : Bool
  deriving DecidableEq

structure ProxyHandler where
  tls : Bool := false
  user : Bytes := []
  transparent : Bool := false
  rt : Option Transport := none
  deriving DecidableEq

def httpTransport : Transport := { http2 := false, hardValidation := false }

inductive Event where
  | setHeader (key value : Bytes)
  | addHeader (key value : Bytes)
  | delHeader (key : Bytes)
  | writeHeader (status : Nat)
  | write (content : Bytes)
  /-- Content through the gzip writer. -/
  | writeGzip (content : Bytes)
  | httpError (message : Bytes) (status : Nat)
  | log (entry : GSLogData)
  | hijack
  /-- To the client, past the response writer. -/
  | connWrite (content : Bytes)
  /-- To the client, in a TLS connection that the proxy terminates. -/
  | connWriteTLS (content : Bytes)
  | closeConn
  /-- A connection to an upstream server that is opened, or taken for reuse. -/
  | upstream (link : Link) (address : Bytes)
  | relay (address : Bytes)
  /-- The client's connection is decrypted and served by this handler. -/
  | intercept (handler : ProxyHandler)
  deriving DecidableEq

/-! ## The gateway and the world -/

/-- The settings and handlers of a running gateway: `GSProxy` as `main.go` fills
it in.  The accounts answer for `AuthHandler` and `UserAccessHandler`. -/
structure GSProxy where
  users : List GSUser
  authEnabled : Bool
  usersCache : UsersCache
  transparentProxyEnabled : Bool
  accessDisabledPage : Bytes
  contentHandler : (url contentType content : Bytes) → Verdict
  contentTypeHandler : (url contentType : Bytes) → Verdict
  timeAccessHandler : (url user : Bytes) → Verdict
  urlAccessHandler : (url user : Bytes) → Verdict
  proxyErrorHandler : (error : Bytes) → Bytes
  doMitm : (host : Bytes) → Bool
  isExceptionUrl : (url : Bytes) → Bool
  ruleMatchHandler : (domain user clientIP : Bytes) → Option PolicyDecision
  policyBlockPage : (reason : Bytes) → Bytes
  matchString : (pattern text : Bytes) → Bool

def GSProxy.userAccessHandler (proxy : GSProxy) (user : Bytes) : Verdict :=
  if userExists proxy.users user then
    if isUserActive proxy.users user then { action := some .userActive }
    else { action := some .blockedInternetForUser, response := proxy.accessDisabledPage }
  else { action := some .userNotFound }

structure Response where
  statusCode : Nat
  header : Header
  contentLength : Int
  body : Stream
  deriving DecidableEq

/-- How a request to an upstream server goes: no connection, an error on it, or
an answer, of which `certificate` says whether the transport accepts it. -/
inductive Fetch where
  | unreachable (error : Bytes)
  | failed (error : Bytes)
  | answered (response : Response) (certificate : Bool)

/-- The state of a TLS connection to a server, as far as `SSLBump` reads it. -/
structure ServerState where
  h2 : Bool
  validWithDefaultRoots : Bool

/-- `CertificateCache`: what is kept for each server, and since when.  Expired entries stay, as
`get` does not return them. -/
structure CertificateCache (server α : Type) where
  ttl : Int := 0
  cache : server → Option (α × Int) := fun _ => none

namespace CertificateCache

variable {server α : Type}

def get (c : CertificateCache server α) (now : Int) (name : server) : Option α :=
  match c.cache name with
  | some (value, added) => if now - added > c.ttl then none else some value
  | none => none

def put [DecidableEq server] (c : CertificateCache server α) (now : Int) (name : server)
    (value : α) : CertificateCache server α :=
  { c with cache := Function.update c.cache name (some (value, now)) }

end CertificateCache

structure World where
  now : Int := 0
  /-- `http.ReadRequest`. -/
  readRequest : Stream → Option Request
  dial : (address : Bytes) → Bool
  lookupAddr : (address : Bytes) → List Bytes
  certCache : CertificateCache (Bytes × Bytes) Transport := {}
  tlsDial : (serverName serverAddr : Bytes) → Except Bytes ServerState
  /-- No result where it panics, as without a certificate authority. -/
  signCertificate : (serverName : Bytes) → Option Bool
  selfSignedConfig : Bool
  clientHandshake : Bool
  fetch : Transport → Request → Fetch
  mimeByExtension : (extension : Bytes) → Bytes
  /-- `filetype.Match`: the media type found, if any. -/
  fileKind : Bytes → Option Bytes
  /-- `filetype.IsAudio`, `IsVideo` or `IsImage`. -/
  isMedia : Bytes → Bool
  createEmptyImage : List Bytes → Bytes
  /-- The reasons as a JSON list of strings. -/
  decodeReasons : Bytes → Option (List Bytes)
  /-- `strconv.ParseFloat` succeeds with a number above zero. -/
  parsesPositive : Bytes → Bool

inductive Hijacker where
  /-- Not an `http.Hijacker`. -/
  | unsupported
  | failing (error : Bytes)
  /-- The connection, with what the client sends next. -/
  | hijackable (flushError : Option Bytes) (stream : Stream)

/-- The writer after a `Hijack`: a connection is given away once. -/
def Hijacker.taken : Hijacker → Hijacker
  | .hijackable _ _ => .failing (utf8 "http: connection has been hijacked")
  | writer => writer

structure Context where
  proxy : GSProxy
  world : World
  writer : Hijacker

end GateSentry.Proxy
