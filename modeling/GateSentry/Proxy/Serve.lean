import GateSentry.ClientHello.Read
import GateSentry.ClientHello.Unmarshall
import GateSentry.Proxy.Respond

/-!
# Serving a request

`ssl.go` and `websocket.go` join a client's connection to an upstream server.
`ProxyHandler.ServeHTTP` of `proxy.go` goes stage by stage: each stage answers the client and
returns, or hands the request on to the next one.  `transparent_listener.go` serves a connection
that was routed to the gateway, and recovers from no panic.
-/

namespace GateSentry.Proxy

open Foundation ByteText Handler GsClientHello

/-! ## Tunnels and interception -/

def newHijackedConn : Hijacker → Except Bytes Stream
  | .unsupported => .error (utf8 "connection doesn't support hijacking")
  | .failing error => .error error
  | .hijackable (some error) _ => .error error
  | .hijackable none stream => .ok stream

/-- A connection that cannot be flushed has been hijacked, and is closed. -/
def failedHijack : Hijacker → Handler Event Unit
  | .hijackable _ _ => do
    emit .hijack
    emit .closeConn
  | _ => pure ()

def connectionEstablished : Bytes := utf8 "HTTP/1.1 200 Connection Established\r\n\r\n"

def connectDirect (world : World) (serverAddr : Bytes) : Handler Event Unit :=
  if world.dial serverAddr then do
    emit (.upstream .plain serverAddr)
    emit (.relay serverAddr)
  else emit .closeConn

def websocketAddr (r : Request) : Bytes :=
  let upstreamAddr := if r.url.host.isEmpty then r.host else r.url.host
  match Net.splitHostPort upstreamAddr with
  | .ok _ => upstreamAddr
  | .error _ => Net.joinHostPort upstreamAddr (utf8 "80")

def handleWebsocketConnection (ctx : Context) (r : Request) : Handler Event Unit :=
  match ctx.writer with
  | .unsupported => httpError "Hijacking not supported" 500
  | .failing error => emit (.httpError error 500)
  | .hijackable _ _ => do
    emit .hijack
    whenever (ctx.world.dial (websocketAddr r)) do
      emit (.upstream .plain (websocketAddr r))
      emit (.relay (websocketAddr r))
    emit .closeConn

def isNetError : ReadHelloError → Bool
  | .read .timeout => true
  | .read .reset => true
  | _ => false

def hostOf (address : Bytes) : Bytes :=
  match Net.splitHostPort address with
  | .ok (host, _) => host
  | .error _ => address

/-- The name that the server is known by: from the client hello, else from the
address, else from a reverse lookup. -/
def bumpServerName (world : World) (sni serverAddr : Bytes) : Bytes :=
  if !sni.isEmpty then sni
  else
    let host := hostOf serverAddr
    match Net.parseIP host, world.lookupAddr host with
    | some _, name :: _ => if name.getLast? = some Net.dot then name.dropLast else name
    | _, _ => host

def clientHelloServerName (hello : Bytes) : Handler Event Bytes :=
  match unmarshall hello with
  | .ok parsed => pure parsed.sni
  | .error (.failure _) => pure []
  | .error (.panic reason) => crash reason

/-- The transport for an intercepted server, from the cache or from a first
connection to it; without one the client is tunnelled. -/
def bumpTransport (world : World) (serverName serverAddr user : Bytes) :
    Handler Event Transport :=
  match world.certCache.get world.now (serverName, serverAddr) with
  | some rt => pure rt
  | none =>
    match world.tlsDial serverName serverAddr with
    | .error _ => do
      connectDirect world serverAddr
      stop
    | .ok state => do
      emit (.upstream .tls serverAddr)
      match world.signCertificate serverName with
      | none => crash .nilDereference
      | some true =>
        emit (.log { url := serverAddr, user, action := .sslBump })
        pure { http2 := state.h2, hardValidation := !state.validWithDefaultRoots }
      | some false =>
        connectDirect world serverAddr
        stop

def bumpHello (world : World) (serverAddr user authUser clientHello : Bytes) :
    Handler Event Unit := do
  let sni ← clientHelloServerName clientHello
  let rt ← bumpTransport world (bumpServerName world sni serverAddr) serverAddr user
  if world.clientHandshake then
    emit (.intercept { tls := true, user := authUser, rt := some rt })
  else emit .closeConn

def bump (world : World) (stream : Stream) (serverAddr user authUser : Bytes)
    (clientHelloData : Option Bytes) : Handler Event Unit := do
  let clientHello ← match clientHelloData with
    | some data => pure data
    | none =>
      match readClientHello stream with
      | (hello, none, _) => pure hello
      | (_, some error, _) => do
        if isNetError error then emit .closeConn
        else if error = .obsoleteSSLVersion then emit .closeConn
        else connectDirect world serverAddr
        stop
  bumpHello world serverAddr user authUser clientHello

def sslBump (world : World) (stream : Stream) (serverAddr user authUser : Bytes)
    (clientHelloData : Option Bytes) : Handler Event Unit :=
  scope (recovering (bump world stream serverAddr user authUser clientHelloData)
    (emit .closeConn))

def handleSSLBump (ctx : Context) (r : Request) (user authUser : Bytes) :
    Handler Event Unit :=
  match newHijackedConn ctx.writer with
  | .error error => do
    failedHijack ctx.writer
    let message := utf8 "Error hijacking connection for CONNECT request to " ++
      r.url.host ++ utf8 ": " ++ error
    sendBlockMessageBytes { ctx with writer := ctx.writer.taken } r
      (ctx.proxy.proxyErrorHandler message) none
  | .ok stream => do
    emit .hijack
    emit (.connWrite connectionEstablished)
    sslBump ctx.world stream r.url.host user authUser none

def handleSSLConnectDirect (ctx : Context) (r : Request) : Handler Event Unit :=
  match newHijackedConn ctx.writer with
  | .error _ => failedHijack ctx.writer
  | .ok _ => do
    emit .hijack
    emit (.connWrite connectionEstablished)
    connectDirect ctx.world r.url.host

def roundTrip (world : World) (rt : Transport) (r : Request) :
    Handler Event (Except Bytes Response) := do
  let secure := r.url.scheme = utf8 "https"
  if !secure && (rt.http2 || r.url.scheme ≠ utf8 "http") then
    if rt.http2 then pure (.error (utf8 "http2: unsupported scheme"))
    else pure (.error (utf8 "unsupported protocol scheme \"" ++ r.url.scheme ++ utf8 "\""))
  else
    let link := if secure then Link.tls else .plain
    match world.fetch rt r with
    | .unreachable error => pure (.error error)
    | .failed error => do
      emit (.upstream link r.url.host)
      pure (.error error)
    | .answered response certificate => do
      emit (.upstream link r.url.host)
      -- the validation reads the certificates of the response, which only TLS has
      whenever (rt.hardValidation && !secure) (crash .nilDereference)
      if rt.hardValidation && !certificate then
        pure (.error (utf8 "could not verify server certificate"))
      else pure (.ok response)

/-! ## Tests on addresses and texts -/

def isLanAddress (addr : Bytes) : Bool :=
  match Net.parseIP addr with
  | none => false
  | some ip =>
    match Net.to4 ip with
    | some ip4 =>
      let (a, b) := (ip4.getD 0 0, ip4.getD 1 0)
      a = 10 || a = 127 || (a = 172 && b &&& 0xf0 = 16) || (a = 192 && b = 168)
    | none =>
      let (a, b) := (ip.getD 0 0, ip.getD 1 0)
      a &&& 0xfe = 0xfc || (a = 0xfe && b &&& 0xfc = 0x80) || some ip = Net.parseIP (utf8 "::1")

def getFileExtensionFromUrl (urlString : Bytes) : Bytes :=
  let path := before 63 urlString
  (path.reverse.takeWhile (· ≠ Net.dot)).reverse

def getMimeByExtension (world : World) (extension : Bytes) : Bytes :=
  before 59 (world.mimeByExtension (utf8 "." ++ extension))

def encodingAccepted (world : World) (parameters : List Bytes) : Bool :=
  parameters.foldl (fun accepted parameter =>
    match Strings.cut 61 (trimSpace parameter) with
    | some (key, value) =>
      if equalFold (trimSpace key) (utf8 "q") then world.parsesPositive (trimSpace value)
      else accepted
    | none => accepted) true

def acceptsEncoding (world : World) (header encoding : Bytes) : Bool :=
  let entries := (Strings.pieces 44 header).map fun value =>
    let parts := Strings.pieces 59 value
    (trimSpace (parts.headD []), encodingAccepted world parts.tail)
  let last (accepts : Bytes → Bool) : Option Bool :=
    ((entries.filter fun entry => accepts entry.1).getLast?).map (·.2)
  match last fun name => equalFold name encoding with
  | some accepted => accepted
  | none => (last fun name => name = utf8 "*").getD false

/-- `IsTransparentProxyRequest`; its second test also asks for an empty host, so
it never accepts more than the first. -/
def isTransparentProxyRequest (r : Request) : Bool :=
  r.url.host.isEmpty || r.url.scheme.isEmpty

/-! ## The stages -/

def rewriteTransparent (proxy : GSProxy) (r : Request) : Handler Event Request :=
  if proxy.transparentProxyEnabled && isTransparentProxyRequest r then
    if r.host.isEmpty then do
      httpError "No Host header" 400
      stop
    else
      let originalDst :=
        if r.host.contains Net.colon then r.host else Net.joinHostPort r.host (utf8 "80")
      pure { r with url := { r.url with scheme := utf8 "http", host := originalDst } }
  else pure r

def completeURL (handler : ProxyHandler) (r : Request) : Handler Event Request := do
  whenever (10000 < r.url.string.length) do
    httpError "URL too long" 414
    stop
  let scheme := if !r.url.scheme.isEmpty then r.url.scheme
    else if handler.tls then utf8 "https" else utf8 "http"
  if !r.url.host.isEmpty then pure { r with url := { r.url with scheme } }
  else if !r.host.isEmpty then pure { r with url := { r.url with scheme, host := r.host } }
  else do
    httpError "No host in request URL, and no Host header." 400
    stop

def authenticationRequired : Handler Event Unit := do
  emit (.setHeader (utf8 "Proxy-Authenticate") (utf8 "Basic realm=gsrealm"))
  httpError "Proxy authentication required" 407

def authenticate (ctx : Context) (handler : ProxyHandler) (client : Bytes)
    (isHostLanAddress : Bool) (r : Request) : Handler Event AuthResult := do
  let proxy := ctx.proxy
  let (result, _) ← ofOutcome (handleAuthAndAssignUser (Accounts.isUserValid proxy.users)
    proxy.usersCache (r.header.get (utf8 "Proxy-Authorization")) handler.user
    proxy.authEnabled client)
  whenever proxy.authEnabled do
    whenever (result.user.isEmpty || result.user = loopback) do
      authenticationRequired
      stop
    let access := proxy.userAccessHandler result.user
    whenever (access.action = some .userNotFound) do
      authenticationRequired
      stop
    whenever (access.action ≠ some .userActive && !isHostLanAddress) do
      sendBlockMessageBytes ctx r access.response none
      stop
  pure result

def checkTime (ctx : Context) (client user : Bytes) (r : Request) : Handler Event Unit := do
  let verdict := ctx.proxy.timeAccessHandler r.url.string user
  whenever (verdict.action = some .blockedTime) do
    emit (.log { url := r.url.string, user, action := .blockedTime, clientIP := client,
                 layer := .explicitProxy })
    sendBlockMessageBytes ctx r verdict.response none
    stop

/-- An IPv6 address without brackets in a `CONNECT` request gets them. -/
def fixConnectHost (r : Request) : Request :=
  if r.method = utf8 "CONNECT" && Net.splitHostPort r.url.host = .error .tooManyColons then
    match Net.cutLastColon r.url.host with
    | none => r
    | some (host, port) =>
      if (Net.parseIP host).isSome then
        { r with url := { r.url with host := Net.joinHostPort host port } }
      else r
  else r

def policyHost (r : Request) : Bytes :=
  match Net.splitHostPort r.url.host with
  | .ok (host, _) => if host.isEmpty then r.url.host else host
  | .error _ => r.url.host

def ProxyHandler.layer (handler : ProxyHandler) : Layer :=
  if handler.transparent then .transparentProxy else .explicitProxy

def checkPolicy (ctx : Context) (layer : Layer) (client user : Bytes) (r : Request) :
    Handler Event (Option PolicyDecision) := do
  let policy := ctx.proxy.ruleMatchHandler (policyHost r) user client
  match policy with
  | none => pure ()
  | some decision =>
    whenever (decision.block || decision.blocksURL ctx.proxy.matchString r.url.string) do
      emit (.log { url := r.url.string, user, action := .blockedUrl, clientIP := client,
                   layer, reason := decision.reason })
      sendBlockMessageBytes ctx r (ctx.proxy.policyBlockPage decision.reason) none
      stop
  pure policy

def checkURLFilter (ctx : Context) (layer : Layer) (client user : Bytes)
    (policyAllows : Bool) (r : Request) : Handler Event Unit := do
  let verdict : Verdict := if policyAllows then {}
    else ctx.proxy.urlAccessHandler r.url.string user
  whenever (verdict.action = some .blockedUrl) do
    emit (.log { url := r.url.string, user, action := .blockedUrl, clientIP := client, layer })
    sendBlockMessageBytes ctx r verdict.response none
    stop

def redirectedURL (u : URL) : URL :=
  { u with host := utf8 "blocked.gatesentryguard.com", scheme := utf8 "https",
           path := utf8 "/file/gatesentryguard/blocked.svg" }

def redirectFileType (ctx : Context) (client user : Bytes) (policyAllows : Bool)
    (r : Request) : Handler Event Request := do
  let fileMime := getMimeByExtension ctx.world (getFileExtensionFromUrl r.url.string)
  let verdict : Verdict := if policyAllows then {}
    else ctx.proxy.contentTypeHandler r.url.string fileMime
  if verdict.action = some .blockedFileType then
    emit (.log { url := r.url.string, user, action := .blockedUrl, clientIP := client,
                 layer := .explicitProxy })
    emit (.setHeader (utf8 "Location") (redirectedURL r.url).string)
    emit (.writeHeader 301)
    pure { r with url := redirectedURL r.url }
  else pure r

def intercepts (proxy : GSProxy) (isHostLanAddress : Bool) (policy : Option PolicyDecision)
    (r : Request) : Bool :=
  let inspect := (policy.map (·.inspect)).getD false
  (proxy.doMitm r.url.host || inspect) && !isHostLanAddress &&
    (inspect || !proxy.isExceptionUrl r.url.string)

def divert (ctx : Context) (isHostLanAddress : Bool) (layer : Layer) (client : Bytes)
    (auth : AuthResult) (policy : Option PolicyDecision) (r : Request) :
    Handler Event Unit := do
  whenever (r.method = utf8 "CONNECT") do
    if intercepts ctx.proxy isHostLanAddress policy r then
      handleSSLBump ctx r auth.user auth.authUser
    else
      emit (.log { url := r.url.string, user := auth.user, action := .sslDirect,
                   clientIP := client, layer })
      handleSSLConnectDirect ctx r
    stop
  let upgrade := trimSpace (r.header.get (utf8 "Upgrade"))
  whenever (!upgrade.isEmpty) do
    if equalFold upgrade (utf8 "websocket") then handleWebsocketConnection ctx r
    else httpError "Unsupported protocol upgrade" 501
    stop
  whenever (10 ≤ (r.header.values (utf8 "X-Forwarded-For")).length) do
    httpError "Proxy forwarding loop" 400
    stop

def forward (ctx : Context) (handler : ProxyHandler) (exchange : Exchange) :
    Handler Event Unit := do
  let r := exchange.request
  let header := removeHopByHopHeaders (r.header.del (utf8 "Accept-Encoding"))
  let outgoing := { r with header }
  let result ← roundTrip ctx.world (handler.rt.getD httpTransport) outgoing
  match result with
  | .error error => sendBlockMessageBytes ctx outgoing (ctx.proxy.proxyErrorHandler error) none
  | .ok response => respond ctx { exchange with request := outgoing } response

def process (ctx : Context) (handler : ProxyHandler) (client : Bytes)
    (isHostLanAddress : Bool) (auth : AuthResult) (r : Request) : Handler Event Unit := do
  checkTime ctx client auth.user r
  let r := fixConnectHost r
  let policy ← checkPolicy ctx handler.layer client auth.user r
  let policyAllows := (policy.map (·.allow)).getD false
  checkURLFilter ctx handler.layer client auth.user policyAllows r
  let r ← redirectFileType ctx client auth.user policyAllows r
  divert ctx isHostLanAddress handler.layer client auth policy r
  forward ctx handler {
    request := r, client, user := auth.user, layer := handler.layer, policy,
    gzipOK := acceptsEncoding ctx.world (r.header.get (utf8 "Accept-Encoding"))
      (utf8 "gzip") && !isLanAddress client }

def serveHTTP (ctx : Context) (handler : ProxyHandler) (request : Request) :
    Handler Event Unit :=
  scope do
    let client := hostOf request.remoteAddr
    let r ← rewriteTransparent ctx.proxy request
    let isHostLanAddress := isLanAddress (before Net.colon r.url.host)
    let r ← completeURL handler r
    let auth ← authenticate ctx handler client isHostLanAddress r
    process ctx handler client isHostLanAddress auth r

/-! ## The transparent listener -/

structure SocketAddr where
  host : Bytes
  port : Bytes

def SocketAddr.text (addr : SocketAddr) : Bytes := Net.joinHostPort addr.host addr.port

structure Conn where
  remoteAddr : Bytes
  originalDst : SocketAddr
  stream : Stream

def transparentHandler : ProxyHandler := { transparent := true }

def transparentRequest (conn : Conn) (req : Request) : Request :=
  { req with
    url := { req.url with scheme := utf8 "http", host := conn.originalDst.text }
    host := if req.host.isEmpty then conn.originalDst.text else req.host
    remoteAddr := conn.remoteAddr }

/-- `handleTransparentHTTP`; its response writer cannot be hijacked. -/
def handleTransparentHTTP (proxy : GSProxy) (world : World) (conn : Conn) :
    Handler Event Unit :=
  match world.readRequest conn.stream with
  | none => pure ()
  | some req =>
    serveHTTP { proxy, world, writer := .unsupported } transparentHandler
      (transparentRequest conn req)

def clientIPOf (remoteAddr : Bytes) : Bytes :=
  match Net.splitHostPort remoteAddr with
  | .ok (host, _) => host
  | .error _ => []

def destinationPort (originalDst : Bytes) : Bytes :=
  match Net.splitHostPort originalDst with
  | .ok (_, port) => port
  | .error _ => utf8 "443"

def handleClientHello (proxy : GSProxy) (world : World) (conn : Conn) (clientHello : Bytes) :
    Handler Event Unit := do
  let host := hostOf conn.originalDst.text
  let port := destinationPort conn.originalDst.text
  let serverAddr := Net.joinHostPort host port
  let clientIP := clientIPOf conn.remoteAddr
  let serverName ← clientHelloServerName clientHello
  let ruleMatchHost := if serverName.isEmpty then host else serverName
  let policy := proxy.ruleMatchHandler ruleMatchHost [] clientIP
  let logUrl := utf8 "https://" ++ if serverName.isEmpty then serverAddr else serverName
  let logged (action : ProxyAction) (reason : Bytes) : GSLogData :=
    ⟨logUrl, [], action, clientIP, .transparentProxy, reason⟩
  match policy with
  | none => pure ()
  | some decision =>
    whenever decision.block do
      emit (.log (logged .blockedUrl decision.reason))
      emit .closeConn
      stop
  let mitmCheckHost :=
    if serverName.isEmpty then serverAddr else Net.joinHostPort serverName port
  if proxy.doMitm mitmCheckHost || (policy.map (·.inspect)).getD false then
    sslBump world conn.stream serverAddr [] [] (some clientHello)
  else
    emit (.log (logged .sslDirect []))
    connectDirect world serverAddr

def handleTransparentHTTPS (proxy : GSProxy) (world : World) (conn : Conn) :
    Handler Event Unit :=
  scope <| match readClientHello conn.stream with
  | (clientHello, some _, _) =>
    if clientHello.isEmpty then emit .closeConn
    else do
      let serverAddr := Net.joinHostPort (hostOf conn.originalDst.text)
        (destinationPort conn.originalDst.text)
      emit (.log ⟨utf8 "https://" ++ serverAddr, [], .sslDirect,
        clientIPOf conn.remoteAddr, .transparentProxy, []⟩)
      connectDirect world serverAddr
  | (clientHello, none, _) => handleClientHello proxy world conn clientHello

def isTLS (buf : Bytes) : Bool :=
  buf.getD 0 0 = 0x16 && buf.getD 1 0 = 0x03 && 0x01 ≤ buf.getD 2 0

/-- `handleConnection`: three bytes are read to see what the client speaks, and
put back in front of the rest. -/
def handleConnection (proxy : GSProxy) (world : World) (conn : Conn) :
    Handler Event Unit :=
  match conn.stream.readFull 3 with
  | (_, some _, _) => emit .closeConn
  | (buf, none, rest) => do
    let wrappedConn := { conn with stream := rest.prepend buf }
    if isTLS buf then handleTransparentHTTPS proxy world wrappedConn
    else handleTransparentHTTP proxy world wrappedConn
    emit .closeConn

end GateSentry.Proxy
