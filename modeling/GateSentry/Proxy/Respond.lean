import GateSentry.Proxy.Types

/-!
# Answering the client

Block pages, error pages and the upstream's response, from `proxy.go` and
`contentscanner.go`.  Writes to the client are actions; that a client went away
in the middle of one is not modelled.
-/

namespace GateSentry.Proxy

open Foundation ByteText Handler

/-! ## Texts -/

def isImage (contentType : Bytes) : Bool :=
  (["image/png", "image/avif", "image/gif", "image/jpeg", "image/jpg", "image/webp",
    "image/svg+xml", "image/bmp", "image/x-icon"].map utf8).contains contentType

def isVideo (contentType : Bytes) : Bool :=
  (["video/webm", "video/mp4", "video/x-ms-wmv", "audio/mpeg", "video/x-msvideo",
    "video/jpeg"].map utf8).contains contentType

def contains (text part : Bytes) : Bool := Strings.occurs part text

def before (separator : UInt8) (text : Bytes) : Bytes := text.takeWhile (· ≠ separator)

def decimal (n : Int) : Bytes := utf8 (toString n)

/-! ## Pages -/

def httpError (message : String) (status : Nat) : Handler Event Unit :=
  emit (.httpError (utf8 message) status)

def imageReasons : List Bytes :=
  ["", "Image blocked by Gatesentry", "Reason(s) for blocking",
    "1. The content type is blocked"].map utf8

def writePage (contentType content : Bytes) : Handler Event Unit := do
  emit (.setHeader (utf8 "Content-Type") contentType)
  emit (.setHeader (utf8 "Content-Length") (decimal content.length))
  emit (.writeHeader 200)
  emit (.write content)

def sendInsecureBlockBytes (world : World) (content : Bytes) (contentType : Option Bytes) :
    Handler Event Unit := do
  emit (.delHeader (utf8 "Content-Encoding"))
  if (contentType.map isImage).getD false then
    writePage (utf8 "image/jpeg; charset=utf-8") (world.createEmptyImage imageReasons)
  else writePage (utf8 "text/html; charset=utf-8") content

def sendSecureBlockBytes (world : World) (content : Bytes) : Handler Event Unit := do
  emit .hijack
  emit (.connWrite (utf8 "HTTP/1.1 200 OK\r\n\r\n"))
  whenever (world.selfSignedConfig && world.clientHandshake) do
    emit (.connWriteTLS (utf8 "HTTP/1.1 403 Forbidden\r\n"))
    emit (.connWriteTLS (utf8 "Content-Type: text/html\r\n\r\n"))
    emit (.connWriteTLS content)
  emit .closeConn

def sendBlockMessageBytes (ctx : Context) (r : Request) (content : Bytes)
    (contentType : Option Bytes) : Handler Event Unit :=
  if contains r.url.string (utf8 ":443") then
    match ctx.writer with
    | .unsupported => crash .typeAssertion
    | .failing _ => sendInsecureBlockBytes ctx.world content contentType
    | .hijackable _ _ => sendSecureBlockBytes ctx.world content
  else sendInsecureBlockBytes ctx.world content contentType

/-! ## The response of the upstream -/

/-- What `ServeHTTP` has decided by the time it asks the upstream. -/
structure Exchange where
  request : Request
  client : Bytes
  user : Bytes
  layer : Layer
  policy : Option PolicyDecision
  gzipOK : Bool

def Exchange.policyAllows (exchange : Exchange) : Bool :=
  (exchange.policy.map (·.allow)).getD false

def maxContentScanSize : Nat := 10000000

def responseHasNoBody (method : Bytes) (status : Nat) : Bool :=
  method = utf8 "HEAD" || (100 ≤ status && status < 200) || status = 204 || status = 304

def responseContentNeedsInspection (contentType : Bytes) : Bool :=
  let mediaType := toLower (trimSpace (before 59 contentType))
  mediaType.isEmpty || mediaType = utf8 "application/octet-stream" ||
    contains mediaType (utf8 "html") || (utf8 "image/").isPrefixOf mediaType ||
    (utf8 "audio/").isPrefixOf mediaType || (utf8 "video/").isPrefixOf mediaType

def canDynamicCompress (r : Request) (resp : Response) (gzipOK : Bool) : Bool :=
  gzipOK && resp.statusCode ≠ 206 && (r.header.get (utf8 "Range")).isEmpty &&
    (resp.header.get (utf8 "Content-Range")).isEmpty &&
    (resp.header.get (utf8 "Content-Encoding")).isEmpty

def deleteHeaderFold (header : Header) (name : Bytes) : Header :=
  header.filter fun field => !equalFold field.1 name

def stripTransformedRepresentationHeaders (header : Header) : Header :=
  (["Content-Length", "Content-Range", "Accept-Ranges", "ETag", "Digest",
    "Content-Digest", "Content-MD5"].map utf8).foldl deleteHeaderFold header

def stripReplacementRepresentationHeaders (header : Header) : Header :=
  deleteHeaderFold (stripTransformedRepresentationHeaders header) (utf8 "Last-Modified")

def addVary (header : Header) (value : Bytes) : Header :=
  let tokens := (header.values (utf8 "Vary")).flatMap fun existing =>
    (Strings.pieces 44 existing).map trimSpace
  if tokens.any fun token => equalFold token value || token = utf8 "*" then header
  else header ++ [(utf8 "Vary", value)]

def compressedHeader (header : Header) : Header :=
  addVary (stripTransformedRepresentationHeaders
    (header.set (utf8 "Content-Encoding") (utf8 "gzip"))) (utf8 "Accept-Encoding")

def copyResponseHeader (header : Header) (status : Nat) : Handler Event Unit :=
  ⟨((removeHopByHopHeaders header).filter (·.1 ≠ utf8 "Content-Length")).map
      (fun field => .addHeader field.1 field.2) ++ [.writeHeader status], .next ()⟩

def writeResponseStream (resp : Response) (content : Bytes) (gzipOK : Bool) :
    Handler Event Unit := do
  let compress := gzipOK && resp.statusCode ≠ 206 &&
    (resp.header.get (utf8 "Content-Range")).isEmpty &&
    (resp.header.get (utf8 "Content-Encoding")).isEmpty
  if compress then
    copyResponseHeader (compressedHeader resp.header) resp.statusCode
    emit (.writeGzip content)
  else
    whenever (0 ≤ resp.contentLength)
      (emit (.setHeader (utf8 "Content-Length") (decimal resp.contentLength)))
    copyResponseHeader resp.header resp.statusCode
    emit (.write content)

def blockedMediaReasons (world : World) (response : Bytes) : List Bytes :=
  match world.decodeReasons response with
  | some reasons =>
    ["", "Image blocked by Gatesentry", "Reason(s) for blocking"].map utf8 ++ reasons
  | none =>
    let reason := trimSpace response
    ["", "Image blocked by Gatesentry", "Reason for blocking"].map utf8 ++
      [if reason.isEmpty then utf8 "Blocked by image policy" else reason]

/-- `ScanMedia`: whether the response has been sent, and the action taken. -/
def scanMedia (ctx : Context) (data contentType : Bytes) (r : Request) (resp : Response) :
    Handler Event (Bool × ProxyAction) :=
  if !(ctx.world.isMedia data || isImage contentType || isVideo contentType) then
    pure (false, .filterNone)
  else do
    let verdict := ctx.proxy.contentHandler r.url.string contentType data
    if verdict.action = some .blockedMediaContent then
      let image := ctx.world.createEmptyImage (blockedMediaReasons ctx.world verdict.response)
      let header := ((stripReplacementRepresentationHeaders resp.header).set
        (utf8 "Content-Type") (utf8 "image/jpeg")).del (utf8 "Content-Encoding")
      emit (.setHeader (utf8 "Content-Length") (decimal image.length))
      copyResponseHeader header 200
      emit (.write image)
      pure (true, .blockedMediaContent)
    else
      emit (.setHeader (utf8 "Content-Length") (decimal data.length))
      copyResponseHeader resp.header resp.statusCode
      emit (.write data)
      pure (true, .filterNone)

def scanText (ctx : Context) (data contentType : Bytes) (r : Request) :
    Handler Event (Bool × ProxyAction) :=
  let verdict := ctx.proxy.contentHandler r.url.string contentType data
  if (contains contentType (utf8 "html") || contentType.isEmpty) &&
      verdict.action = some .blockedTextContent then do
    sendBlockMessageBytes ctx r verdict.response none
    pure (true, .blockedTextContent)
  else pure (false, .filterNone)

def blockedContentType : Bytes :=
  utf8 "This content type is blocked by your administrator"

def responseContentType (resp : Response) : Bytes :=
  before 59 (toLower (resp.header.get (utf8 "Content-Type")))

def respondWithoutBody (method : Bytes) (resp : Response) : Handler Event Unit := do
  let contentLength := resp.header.get (utf8 "Content-Length")
  if !contentLength.isEmpty then
    emit (.setHeader (utf8 "Content-Length") contentLength)
  else
    whenever (method = utf8 "HEAD" && 0 ≤ resp.contentLength)
      (emit (.setHeader (utf8 "Content-Length") (decimal resp.contentLength)))
  copyResponseHeader resp.header resp.statusCode

def checkContentType (ctx : Context) (exchange : Exchange) (contentType : Bytes) :
    Handler Event Unit := do
  let url := exchange.request.url.string
  let logged (reason : Bytes) : GSLogData :=
    ⟨url, exchange.user, .blockedFileType, exchange.client, exchange.layer, reason⟩
  match exchange.policy with
  | some policy =>
    whenever (policy.blocksContentType contentType) do
      emit (.log (logged policy.reason))
      sendBlockMessageBytes ctx exchange.request (ctx.proxy.policyBlockPage policy.reason)
        (some contentType)
      stop
  | none => pure ()
  let verdict : Verdict := if exchange.policyAllows then {}
    else ctx.proxy.contentTypeHandler url contentType
  whenever (verdict.action = some .blockedFileType) do
    emit (.log (logged []))
    sendBlockMessageBytes ctx exchange.request blockedContentType (some contentType)
    stop

def scanBody (ctx : Context) (exchange : Exchange) (resp : Response)
    (declaredType body : Bytes) : Handler Event Unit := do
  let r := exchange.request
  let contentType := (ctx.world.fileKind body).getD declaredType
  let logged (action : ProxyAction) : GSLogData :=
    { url := r.url.string, user := exchange.user, action, clientIP := exchange.client,
      layer := .content }
  let (sentMedia, mediaAction) ← scanMedia ctx body contentType r resp
  whenever sentMedia do
    emit (.log (logged mediaAction))
    stop
  let (sentText, textAction) ← scanText ctx body contentType r
  whenever sentText do
    emit (.log (logged textAction))
    stop
  if canDynamicCompress r resp exchange.gzipOK && 1000 < body.length then
    copyResponseHeader (compressedHeader resp.header) resp.statusCode
    emit (.writeGzip body)
  else
    emit (.setHeader (utf8 "Content-Length") (decimal body.length))
    copyResponseHeader resp.header resp.statusCode
    emit (.write body)

def respond (ctx : Context) (exchange : Exchange) (resp : Response) : Handler Event Unit := do
  let r := exchange.request
  whenever (resp.statusCode = 101) do
    httpError "Unsupported upstream protocol upgrade" 502
    stop
  let contentType := responseContentType resp
  whenever (responseHasNoBody r.method resp.statusCode) do
    respondWithoutBody r.method resp
    stop
  checkContentType ctx exchange contentType
  let compress := canDynamicCompress r resp exchange.gzipOK
  let body := resp.body.bytes
  whenever (!responseContentNeedsInspection contentType) do
    writeResponseStream resp body compress
    stop
  whenever (!(resp.header.get (utf8 "Content-Encoding")).isEmpty) do
    writeResponseStream resp body false
    stop
  whenever (resp.contentLength > maxContentScanSize) do
    writeResponseStream resp body compress
    stop
  -- the body is read up to one byte past the limit, unless it breaks off before
  whenever (body.length ≤ maxContentScanSize && resp.body.ending ≠ .eof) do
    httpError "Bad gateway" 502
    stop
  whenever (maxContentScanSize < body.length) do
    writeResponseStream resp body compress
    stop
  scanBody ctx exchange resp contentType body

end GateSentry.Proxy
