import GateSentry.Proxy.Inspection
import GateSentry.Proxy.Plaintext

/-!
# Delivering a response

The response of an upstream as `ServeHTTP` reads and copies it, piece by piece, and what the
client gets of it: the status, the header as it stands when the status is written, and the
bytes of the body.
-/

namespace GateSentry.Proxy

open Foundation ByteText Handler

/-! ## Reading and copying in pieces -/

def copyStream (write : Bytes → Event) (stream : Stream) : Handler Event Unit :=
  ⟨stream.chunks.map write, .next ()⟩

/-- `readBoundedBody`: the bytes, whether they go past the limit, whether the read failed,
and what is left to read. -/
def readBoundedBody (src : Stream) (limit : Int) : Bytes × Bool × Bool × Stream :=
  let (data, error, rest) := src.readFull (limit.toNat + 1)
  (data, decide (limit.toNat < data.length), error.isSome && src.ending ≠ .eof, rest)

variable (src : Stream) (limit : Int)

theorem readBoundedBody_append :
    (readBoundedBody src limit).1 ++ (readBoundedBody src limit).2.2.2.bytes = src.bytes := by
  change (src.readFull _).1 ++ (src.readFull _).2.2.bytes = _
  rw [Stream.readFull_bytes, Stream.readFull_rest, List.take_append_drop]

theorem readBoundedBody_overLimit :
    (readBoundedBody src limit).2.1 = decide (limit.toNat < src.bytes.length) := by
  change decide (limit.toNat < (src.readFull (limit.toNat + 1)).1.length) = _
  rw [Stream.readFull_bytes, List.length_take, decide_eq_decide]
  omega

theorem readBoundedBody_failed :
    (readBoundedBody src limit).2.2.1 =
      (decide (src.bytes.length ≤ limit.toNat) && src.ending ≠ .eof) := by
  change ((src.readFull (limit.toNat + 1)).2.1.isSome && _) = _
  congr 1
  rw [Bool.eq_iff_iff, Option.isSome_iff_ne_none, ne_eq, Stream.readFull_complete_iff,
    decide_eq_true_eq]
  omega

theorem readBoundedBody_of_fits {src : Stream} {limit : Int}
    (h : ¬limit.toNat < src.bytes.length) : (readBoundedBody src limit).1 = src.bytes := by
  change (src.readFull _).1 = _
  rw [Stream.readFull_bytes, List.take_of_length_le (by omega)]

/-- `writeResponseStream` of what was read already and of the unread body. -/
def writeResponseStreamInPieces (resp : Response) (buffered : Bytes) (body : Stream)
    (gzipOK : Bool) : Handler Event Unit := do
  let compress := gzipOK && resp.statusCode ≠ 206 &&
    (resp.header.get (utf8 "Content-Range")).isEmpty &&
    (resp.header.get (utf8 "Content-Encoding")).isEmpty
  if compress then
    copyResponseHeader (compressedHeader resp.header) resp.statusCode
    copyStream .writeGzip (body.prepend buffered)
    -- the gzip writer is closed
    emit (.writeGzip [])
  else
    whenever (0 ≤ resp.contentLength)
      (emit (.setHeader (utf8 "Content-Length") (decimal resp.contentLength)))
    copyResponseHeader resp.header resp.statusCode
    copyStream .write (body.prepend buffered)

variable (resp : Response)

theorem flow_writeStreamInPieces (buffered : Bytes) (stream : Stream) (gzipOK : Bool) :
    (writeResponseStreamInPieces resp buffered stream gzipOK).flow = .next () := by
  unfold writeResponseStreamInPieces
  dsimp only
  split
  · rfl
  · cases decide (0 ≤ resp.contentLength) <;> rfl

/-- What `ServeHTTP` does with the body of a response that is not blocked by its type. -/
def deliverBody (maxContentScanSize : Int) (ctx : Context) (exchange : Exchange)
    (resp : Response) (contentType : Bytes) : Handler Event Unit := do
  let compress := canDynamicCompress exchange.request resp exchange.gzipOK
  whenever (!responseContentNeedsInspection contentType) do
    writeResponseStreamInPieces resp [] resp.body compress
    stop
  whenever (!(resp.header.get (utf8 "Content-Encoding")).isEmpty) do
    writeResponseStreamInPieces resp [] resp.body false
    stop
  whenever (resp.contentLength > maxContentScanSize) do
    writeResponseStreamInPieces resp [] resp.body compress
    stop
  let (localCopyData, overLimit, failed, rest) := readBoundedBody resp.body maxContentScanSize
  whenever failed do
    httpError "Bad gateway" 502
    stop
  whenever overLimit do
    writeResponseStreamInPieces resp localCopyData rest compress
    stop
  scanBody ctx exchange resp contentType localCopyData

def respondInPieces (maxContentScanSize : Int) (ctx : Context) (exchange : Exchange)
    (resp : Response) : Handler Event Unit := do
  whenever (resp.statusCode = 101) do
    httpError "Unsupported upstream protocol upgrade" 502
    stop
  whenever (responseHasNoBody exchange.request.method resp.statusCode) do
    respondWithoutBody exchange.request.method resp
    stop
  checkContentType ctx exchange (responseContentType resp)
  deliverBody maxContentScanSize ctx exchange resp (responseContentType resp)

def Exchange.outgoing (exchange : Exchange) : Exchange :=
  let r := exchange.request
  { exchange with request := { r with
      header := removeHopByHopHeaders (r.header.del (utf8 "Accept-Encoding")) } }

def forwardInPieces (maxContentScanSize : Int) (ctx : Context) (handler : ProxyHandler)
    (exchange : Exchange) : Handler Event Unit := do
  let exchange := exchange.outgoing
  let result ← roundTrip ctx.world (handler.rt.getD httpTransport) exchange.request
  match result with
  | .error error =>
    sendBlockMessageBytes ctx exchange.request (ctx.proxy.proxyErrorHandler error) none
  | .ok response => respondInPieces maxContentScanSize ctx exchange response

def Passage.exchange (passage : Passage) (world : World) (layer : Layer) (client : Bytes) :
    Exchange where
  request := passage.request
  client := client
  user := passage.auth.user
  layer := layer
  policy := passage.policy
  gzipOK := acceptsEncoding world (passage.request.header.get (utf8 "Accept-Encoding"))
    (utf8 "gzip") && !isLanAddress client

/-- `ServeHTTP`, with a scan limit, piece by piece. -/
def serveHTTPInPieces (maxContentScanSize : Int) (ctx : Context) (handler : ProxyHandler)
    (request : Request) : Handler Event Unit :=
  scope do
    let client := hostOf request.remoteAddr
    let passage ← approach ctx handler request
    divert ctx passage.isHostLanAddress handler.layer client passage.auth passage.policy
      passage.request
    forwardInPieces maxContentScanSize ctx handler
      (passage.exchange ctx.world handler.layer client)

/-! ## What the client gets -/

/-- The response writer: the header so far, the status and the header that were sent, the
bytes of the body that are written as they are, and those given to the gzip writer. -/
structure Delivery where
  header : Header := []
  sent : Option (Nat × Header) := none
  plain : Bytes := []
  gzipped : List Bytes := []

namespace Delivery

def writeHeader (d : Delivery) (status : Nat) : Delivery :=
  if d.sent.isSome then d else { d with sent := some (status, d.header) }

def after (d : Delivery) : Event → Delivery
  | .setHeader key value => { d with header := d.header.set (canonicalKey key) value }
  | .addHeader key value => { d with header := d.header ++ [(canonicalKey key, value)] }
  | .delHeader key => { d with header := d.header.del key }
  | .writeHeader status => d.writeHeader status
  | .write content =>
    let d := d.writeHeader 200
    { d with plain := d.plain ++ content }
  | .writeGzip content =>
    let d := d.writeHeader 200
    { d with gzipped := d.gzipped ++ [content] }
  | .httpError message status =>
    let header := ((d.header.del (utf8 "Content-Length")).set (utf8 "Content-Type")
      (utf8 "text/plain; charset=utf-8")).set (utf8 "X-Content-Type-Options") (utf8 "nosniff")
    let d := writeHeader { d with header } status
    { d with plain := d.plain ++ message ++ utf8 "\n" }
  | _ => d

/-- What is sent as the body, when `gzip` is what comes out of the gzip writer. -/
def wire (gzip : List Bytes → Bytes) (d : Delivery) : Bytes :=
  d.plain ++ if d.gzipped.isEmpty then [] else gzip d.gzipped

def content (gzip : List Bytes → Bytes) (gunzip : Bytes → Option Bytes) (d : Delivery) :
    Option Bytes :=
  if d.gzipped.isEmpty then some (d.wire gzip) else gunzip (d.wire gzip)

def contentLengths (d : Delivery) : List Bytes :=
  (d.sent.map fun sent => sent.2.values (utf8 "Content-Length")).getD []

end Delivery

def delivery (trace : List Event) : Delivery := trace.foldl Delivery.after {}

/-! ## Headers on the way -/

def Header.Canonical (header : Header) : Prop :=
  ∀ field ∈ header, canonicalKey field.1 = field.1

variable {header : Header} {field : Bytes × Bytes}

theorem foldl_del (keys : List Bytes) (header : Header) :
    keys.foldl Header.del header = header.filter (·.1 ∉ keys.map canonicalKey) := by
  induction keys generalizing header with
  | nil => simp
  | cons key rest ih =>
    rw [List.foldl_cons, ih, Header.del, List.filter_filter]
    apply List.filter_congr
    intro field _
    simp [Bool.and_comm]

theorem mem_foldl_deleteHeaderFold {names : List Bytes}
    (h : field ∈ names.foldl deleteHeaderFold header) : field ∈ header := by
  induction names generalizing header with
  | nil => exact h
  | cons name rest ih => exact List.mem_of_mem_filter (ih h)

theorem Header.Canonical.compressedHeader (h : header.Canonical) :
    (Proxy.compressedHeader header).Canonical := by
  have hset : ∀ field ∈ stripTransformedRepresentationHeaders
      (header.set (utf8 "Content-Encoding") (utf8 "gzip")), canonicalKey field.1 = field.1 := by
    intro field hfield
    have hmem := mem_foldl_deleteHeaderFold hfield
    rcases List.mem_append.mp hmem with hold | hnew
    · exact h field (List.mem_of_mem_filter hold)
    · rw [List.mem_singleton.mp hnew]
      decide
  intro field hfield
  unfold Proxy.compressedHeader addVary at hfield
  dsimp only at hfield
  split at hfield
  · exact hset field hfield
  · rcases List.mem_append.mp hfield with hold | hnew
    · exact hset field hold
    · rw [List.mem_singleton.mp hnew]
      decide

def connectionOptions (line : Bytes) : List Bytes :=
  if line.isEmpty then [] else (Strings.pieces 44 line).map trimSpace

/-- The fields that the fixed list or a line of `Connection` names. -/
def Header.hopByHopNames (header : Header) : List Bytes :=
  (hopByHop ++ (header.values (utf8 "Connection")).flatMap connectionOptions).map canonicalKey

/-- Exactly the named fields are removed if the first line of `Connection` or the fixed list names
them. -/
theorem removeHopByHopHeaders_exact_iff (header : Header) :
    removeHopByHopHeaders header = header.filter (·.1 ∉ header.hopByHopNames) ↔
      ∀ field ∈ header, field.1 ∈ header.hopByHopNames → field.1 ∈
        (hopByHop ++ connectionOptions (header.get (utf8 "Connection"))).map canonicalKey := by
  have hremoved : removeHopByHopHeaders header = header.filter (·.1 ∉
      (hopByHop ++ connectionOptions (header.get (utf8 "Connection"))).map canonicalKey) :=
    foldl_del _ _
  have hfirst : connectionOptions (header.get (utf8 "Connection")) ⊆
      (header.values (utf8 "Connection")).flatMap connectionOptions := by
    intro option hoption
    unfold Header.get at hoption
    cases hfound : header.find? (·.1 = utf8 "Connection") with
    | none => simp [hfound, connectionOptions] at hoption
    | some field =>
      rw [hfound] at hoption
      have hline : field ∈ header.filter (·.1 = utf8 "Connection") :=
        List.mem_filter.mpr ⟨List.mem_of_find?_eq_some hfound, by simpa using List.find?_some hfound⟩
      exact List.mem_flatMap.mpr ⟨field.2, List.mem_map_of_mem hline, hoption⟩
  rw [hremoved]
  constructor
  · intro heq field hfield hnamed
    by_contra hkept
    have hmem : field ∈ header.filter (·.1 ∉ header.hopByHopNames) :=
      heq ▸ List.mem_filter.mpr ⟨hfield, by simpa using hkept⟩
    simp [hnamed] at hmem
  · intro h
    apply List.filter_congr
    intro field hfield
    simp only [decide_eq_decide, not_iff_not]
    refine ⟨fun hread => ?_, h field hfield⟩
    rw [List.map_append, List.mem_append] at hread
    rw [Header.hopByHopNames, List.map_append, List.mem_append]
    exact hread.imp_right fun hoption => List.map_subset _ hfirst hoption

def twoConnections : Header :=
  [(utf8 "Connection", utf8 "close"), (utf8 "Connection", utf8 "X-Secret"), (utf8 "X-Secret", [])]

/-- A field that only the second line names goes on to the server. -/
theorem removeHopByHopHeaders_second :
    removeHopByHopHeaders twoConnections = [(utf8 "X-Secret", [])] := by
  decide

def copiedFields (header : Header) : Header :=
  ((removeHopByHopHeaders header).filter (·.1 ≠ utf8 "Content-Length")).map fun field =>
    (canonicalKey field.1, field.2)

theorem values_copiedFields (h : header.Canonical) :
    (copiedFields header).values (utf8 "Content-Length") = [] := by
  unfold Header.values copiedFields
  rw [List.map_eq_nil_iff, List.filter_eq_nil_iff]
  intro field hfield hlength
  obtain ⟨source, hsource, rfl⟩ := List.mem_map.mp hfield
  obtain ⟨hmem, hname⟩ := List.mem_filter.mp hsource
  rw [removeHopByHopHeaders, foldl_del] at hmem
  have hcanonical := h source (List.mem_of_mem_filter hmem)
  simp only [hcanonical, decide_eq_true_eq] at hlength hname
  exact hname hlength

namespace Delivery

theorem foldl_addHeader (fields : Header) (d : Delivery) :
    (fields.map fun field => Event.addHeader field.1 field.2).foldl after d =
      { d with header := d.header ++ fields.map fun field => (canonicalKey field.1, field.2) } := by
  induction fields generalizing d with
  | nil => simp
  | cons field rest ih =>
    simp only [List.map_cons, List.foldl_cons]
    rw [ih]
    simp [after]

variable {d : Delivery}

theorem foldl_copyResponseHeader (hsent : d.sent = none) (header : Header) (status : Nat) :
    (copyResponseHeader header status).trace.foldl after d = { d with
        header := d.header ++ copiedFields header
        sent := some (status, d.header ++ copiedFields header) } := by
  unfold copyResponseHeader
  rw [List.foldl_append, foldl_addHeader]
  simp [after, writeHeader, hsent, copiedFields]

theorem foldl_write (chunks : List Bytes) (hsent : d.sent.isSome = true) :
    (chunks.map Event.write).foldl after d = { d with plain := d.plain ++ chunks.flatten } := by
  induction chunks generalizing d with
  | nil => simp
  | cons chunk rest ih =>
    have hstep : after d (.write chunk) = { d with plain := d.plain ++ chunk } := by
      simp [after, writeHeader, hsent]
    simp only [List.map_cons, List.foldl_cons, hstep]
    rw [ih (d := { d with plain := d.plain ++ chunk }) hsent]
    simp

theorem foldl_writeGzip (chunks : List Bytes) (hsent : d.sent.isSome = true) :
    (chunks.map Event.writeGzip).foldl after d = { d with gzipped := d.gzipped ++ chunks } := by
  induction chunks generalizing d with
  | nil => simp
  | cons chunk rest ih =>
    have hstep : after d (.writeGzip chunk) = { d with gzipped := d.gzipped ++ [chunk] } := by
      simp [after, writeHeader, hsent]
    simp only [List.map_cons, List.foldl_cons, hstep]
    rw [ih (d := { d with gzipped := d.gzipped ++ [chunk] }) hsent]
    simp

/-- The client gets this status and body, and no other length than that of what is sent. -/
structure Intact (gzip : List Bytes → Bytes) (gunzip : Bytes → Option Bytes) (status : Nat)
    (body : Bytes) (d : Delivery) : Prop where
  status : d.sent.map (·.1) = some status
  content : d.content gzip gunzip = some body
  lengths : ∀ length ∈ d.contentLengths, length = decimal (d.wire gzip).length

def announced : Option Int → List Event
  | none => []
  | some length => [.setHeader (utf8 "Content-Length") (decimal length)]

variable {gzip : List Bytes → Bytes} {gunzip : Bytes → Option Bytes} {header : Header}

theorem foldl_announced (length : Option Int) :
    (announced length).foldl after {} =
      { header := (length.map fun n => (utf8 "Content-Length", decimal n)).toList } := by
  cases length with
  | none => rfl
  | some n =>
    have hkey : canonicalKey (utf8 "Content-Length") = utf8 "Content-Length" := by decide
    simp [announced, after, Header.set, hkey]

theorem intact_plain (gzip : List Bytes → Bytes) (gunzip : Bytes → Option Bytes)
    (hheader : header.Canonical) (status : Nat) (chunks : List Bytes) (length : Option Int)
    (hlength : ∀ n ∈ length, n = chunks.flatten.length) :
    (delivery (announced length ++ ((copyResponseHeader header status).trace ++
      chunks.map Event.write))).Intact gzip gunzip status chunks.flatten := by
  rw [delivery, List.foldl_append, foldl_announced, List.foldl_append,
    foldl_copyResponseHeader rfl, foldl_write _ rfl]
  constructor
  · rfl
  · simp [content, wire]
  · intro text htext
    simp only [contentLengths, Option.map_some, Option.getD_some, Header.values,
      List.filter_append, List.map_append] at htext
    have hcopied := values_copiedFields hheader
    rw [Header.values] at hcopied
    rw [hcopied, List.append_nil] at htext
    cases length with
    | none => simp at htext
    | some n =>
      simp only [Option.map_some, Option.toList_some, List.filter_cons, decide_true,
        if_true, List.filter_nil, List.map_cons, List.map_nil, List.mem_singleton] at htext
      rw [htext, hlength n rfl]
      simp [wire]

theorem intact_gzip (hgzip : ∀ pieces, gunzip (gzip pieces) = some pieces.flatten)
    (hheader : header.Canonical) (status : Nat) {chunks : List Bytes} (hchunks : chunks ≠ []) :
    (delivery ((copyResponseHeader header status).trace ++
      chunks.map Event.writeGzip)).Intact gzip gunzip status chunks.flatten := by
  rw [delivery, List.foldl_append, foldl_copyResponseHeader rfl, foldl_writeGzip _ rfl]
  constructor
  · rfl
  · simp [content, wire, hchunks, hgzip]
  · intro length hlength
    simp [contentLengths, values_copiedFields hheader] at hlength

theorem Intact.log {status : Nat} {body : Bytes} {trace : List Event} (entry : GSLogData)
    (h : (delivery trace).Intact gzip gunzip status body) :
    (delivery (trace ++ [.log entry])).Intact gzip gunzip status body := by
  rw [delivery, List.foldl_append]
  exact h

end Delivery

/-! ## The ways of delivery -/

def Response.Scanned (resp : Response) (maxContentScanSize : Int) : Prop :=
  responseContentNeedsInspection (responseContentType resp) = true ∧
    (resp.header.get (utf8 "Content-Encoding")).isEmpty = true ∧
    resp.contentLength ≤ maxContentScanSize ∧
    resp.body.bytes.length ≤ maxContentScanSize.toNat

def contentBlocked (ctx : Context) (url contentType body : Bytes) : Bool :=
  let verdict := ctx.proxy.contentHandler url contentType body
  if ctx.world.isMedia body || isImage contentType || isVideo contentType then
    verdict.action = some .blockedMediaContent
  else (contains contentType (utf8 "html") || contentType.isEmpty) &&
    verdict.action = some .blockedTextContent

structure Unblocked (maxContentScanSize : Int) (ctx : Context) (exchange : Exchange)
    (resp : Response) : Prop where
  policy : ∀ policy, exchange.policy = some policy →
    policy.blocksContentType (responseContentType resp) = false
  contentType : exchange.policyAllows = true ∨
    (ctx.proxy.contentTypeHandler exchange.request.url.string
      (responseContentType resp)).action ≠ some .blockedFileType
  content : resp.Scanned maxContentScanSize → contentBlocked ctx exchange.request.url.string
      ((ctx.world.fileKind resp.body.bytes).getD (responseContentType resp))
      resp.body.bytes = false

section Ways

open Delivery

variable {gzip : List Bytes → Bytes} {gunzip : Bytes → Option Bytes}
  (hgzip : ∀ pieces, gunzip (gzip pieces) = some pieces.flatten)
  {ctx : Context} {exchange : Exchange} {resp : Response} (hheader : resp.header.Canonical)

include hgzip hheader

theorem intact_stream {buffered body : Bytes} {stream : Stream}
    (hbody : buffered ++ stream.bytes = body)
    (hlength : 0 ≤ resp.contentLength → resp.contentLength = body.length) (gzipOK : Bool) :
    (delivery (writeResponseStreamInPieces resp buffered stream gzipOK).trace).Intact gzip gunzip
      resp.statusCode body := by
  have hchunks : (stream.prepend buffered).chunks.flatten = body := hbody
  unfold writeResponseStreamInPieces
  dsimp only
  split
  · have hpieces := intact_gzip hgzip hheader.compressedHeader resp.statusCode
      (List.append_ne_nil_of_right_ne_nil (stream.prepend buffered).chunks
        (List.cons_ne_nil ([] : Bytes) []))
    rw [List.flatten_append, hchunks] at hpieces
    simpa [copyStream, trace_bind_next, copyResponseHeader] using hpieces
  · cases hknown : decide (0 ≤ resp.contentLength) with
    | false =>
      have hpieces := intact_plain gzip gunzip hheader resp.statusCode
        (stream.prepend buffered).chunks none fun n hn => by cases hn
      rw [hchunks] at hpieces
      simpa [copyStream, trace_bind_next, copyResponseHeader, announced] using hpieces
    | true =>
      have hpieces := intact_plain gzip gunzip hheader resp.statusCode
        (stream.prepend buffered).chunks (some resp.contentLength) fun n hn => by
          rw [hchunks, ← Option.some.inj hn]
          exact hlength (of_decide_eq_true hknown)
      rw [hchunks] at hpieces
      simpa [copyStream, trace_bind_next, copyResponseHeader, announced] using hpieces

theorem intact_scanBody {declaredType body : Bytes}
    (hcontent : contentBlocked ctx exchange.request.url.string
      ((ctx.world.fileKind body).getD declaredType) body = false) :
    (delivery (scanBody ctx exchange resp declaredType body).trace).Intact gzip gunzip
      resp.statusCode body := by
  have hplain := intact_plain gzip gunzip hheader resp.statusCode [body]
    (some (body.length : Int)) fun n hn => by
      rw [← Option.some.inj hn]
      simp
  have hcompressed := intact_gzip hgzip hheader.compressedHeader resp.statusCode
    (List.cons_ne_nil body [])
  unfold scanBody scanMedia scanText
  dsimp only
  unfold contentBlocked at hcontent
  split at hcontent
  · rename_i hmedia
    have hlogged := Intact.log {
      url := exchange.request.url.string, user := exchange.user, action := .filterNone,
      clientIP := exchange.client, layer := .content } hplain
    rw [if_neg (by simp [hmedia]), if_neg (by simpa using hcontent)]
    simpa [announced, copyResponseHeader, bind, Handler.bind, stop, pure,
      Handler.pure] using hlogged
  · rename_i hmedia
    rw [if_pos (by simp [hmedia]), if_neg (by simp [hcontent])]
    simp only [Handler.pure_bind, whenever_false]
    split
    · simpa [copyResponseHeader, bind, Handler.bind] using hcompressed
    · simpa [announced, copyResponseHeader, bind, Handler.bind] using hplain

theorem intact_deliverBody {maxContentScanSize : Int} (heof : resp.body.ending = .eof)
    (hlength : 0 ≤ resp.contentLength → resp.contentLength = resp.body.bytes.length)
    (hcontent : resp.Scanned maxContentScanSize →
      contentBlocked ctx exchange.request.url.string
        ((ctx.world.fileKind resp.body.bytes).getD (responseContentType resp))
        resp.body.bytes = false) :
    (delivery (deliverBody maxContentScanSize ctx exchange resp
      (responseContentType resp)).trace).Intact gzip gunzip resp.statusCode resp.body.bytes := by
  have hflow := flow_writeStreamInPieces resp
  have hwhole (gzipOK : Bool) := intact_stream hgzip hheader
    (List.nil_append resp.body.bytes) hlength gzipOK
  unfold deliverBody
  dsimp only
  rw [trace_whenever_stop (hflow _ _ _)]
  split
  · exact hwhole _
  rename_i hinspected
  rw [trace_whenever_stop (hflow _ _ _)]
  split
  · exact hwhole _
  rename_i hencoded
  rw [trace_whenever_stop (hflow _ _ _)]
  split
  · exact hwhole _
  rename_i hknown
  have hfailed : (readBoundedBody resp.body maxContentScanSize).2.2.1 = false := by
    simp [readBoundedBody_failed, heof]
  rw [hfailed, whenever_false, Handler.pure_bind, trace_whenever_stop (hflow _ _ _),
    readBoundedBody_overLimit]
  split
  · exact intact_stream hgzip hheader (readBoundedBody_append _ _) hlength _
  · rename_i hfits
    rw [decide_eq_true_eq] at hfits
    rw [readBoundedBody_of_fits hfits]
    apply intact_scanBody hgzip hheader
    apply hcontent
    simp only [Bool.not_eq_true, Bool.not_eq_false',
      decide_eq_true_eq] at hinspected hencoded hknown
    exact ⟨hinspected, hencoded, by omega, by omega⟩

end Ways

/-! ## The whole of `ServeHTTP` -/

variable {exchange : Exchange}

theorem checkContentType_unblocked {maxContentScanSize : Int} {ctx : Context} {resp : Response}
    (h : Unblocked maxContentScanSize ctx exchange resp) :
    checkContentType ctx exchange (responseContentType resp) = pure () := by
  have hverdict : decide ((if exchange.policyAllows = true then ({} : Verdict)
      else ctx.proxy.contentTypeHandler exchange.request.url.string
        (responseContentType resp)).action = some .blockedFileType) = false := by
    rw [decide_eq_false_iff_not]
    split
    · simp
    · rename_i hallows
      exact h.contentType.resolve_left hallows
  unfold checkContentType
  dsimp only
  rw [hverdict]
  cases hpolicy : exchange.policy with
  | none => rfl
  | some policy =>
    simp only [h.policy policy hpolicy]
    rfl

def Response.MayHaveBody (resp : Response) : Prop :=
  200 ≤ resp.statusCode ∧ resp.statusCode ≠ 204 ∧ resp.statusCode ≠ 304

theorem trace_respondInPieces {maxContentScanSize : Int} {ctx : Context} {resp : Response}
    (hmethod : exchange.request.method ≠ utf8 "HEAD") (hstatus : resp.MayHaveBody)
    (h : Unblocked maxContentScanSize ctx exchange resp) :
    (respondInPieces maxContentScanSize ctx exchange resp).trace =
      (deliverBody maxContentScanSize ctx exchange resp (responseContentType resp)).trace := by
  obtain ⟨hfinal, hcontent, hmodified⟩ := hstatus
  have hupgrade : decide (resp.statusCode = 101) = false := by
    rw [decide_eq_false_iff_not]
    omega
  have hbody : responseHasNoBody exchange.request.method resp.statusCode = false := by
    unfold responseHasNoBody
    simp only [hmethod, hcontent, hmodified, decide_false, Bool.false_or, Bool.or_false,
      Bool.and_eq_false_iff, decide_eq_false_iff_not]
    omega
  unfold respondInPieces
  simp [hupgrade, hbody, checkContentType_unblocked h]

/-! ## The same delivery at once

`respond` writes a body at once; the client cannot tell the difference. -/

namespace Delivery

structure Same (d d' : Delivery) : Prop where
  header : d.header = d'.header
  sent : d.sent = d'.sent
  plain : d.plain = d'.plain
  gzipped : d.gzipped.flatten = d'.gzipped.flatten

end Delivery

def DeliversSame (m k : Handler Event Unit) : Prop :=
  ∀ d : Delivery, (m.trace.foldl Delivery.after d).Same (k.trace.foldl Delivery.after d)

theorem DeliversSame.refl (m : Handler Event Unit) : DeliversSame m m :=
  fun _ => ⟨rfl, rfl, rfl, rfl⟩

theorem DeliversSame.bind {α : Type} (m : Handler Event α) {f g : α → Handler Event Unit}
    (h : ∀ value, DeliversSame (f value) (g value)) : DeliversSame (m >>= f) (m >>= g) := by
  intro d
  change Delivery.Same ((Handler.bind m f).trace.foldl _ _) ((Handler.bind m g).trace.foldl _ _)
  unfold Handler.bind
  cases hflow : m.flow with
  | next value =>
    simp only [List.foldl_append]
    exact h value _
  | returned | panicked => exact ⟨rfl, rfl, rfl, rfl⟩

theorem DeliversSame.whenever_stop {condition : Bool} {m m' : Handler Event Unit}
    (hm : DeliversSame m m') (hflow : m.flow = .next ()) (hflow' : m'.flow = .next ())
    {k k' : Handler Event Unit} (hk : condition = false → DeliversSame k k') :
    DeliversSame (whenever condition (m >>= fun _ => stop) >>= fun _ => k)
      (whenever condition (m' >>= fun _ => stop) >>= fun _ => k') := by
  intro d
  rw [trace_whenever_stop hflow, trace_whenever_stop hflow']
  cases condition with
  | true => exact hm d
  | false => exact hk rfl d

theorem flow_writeStream (content : Bytes) (gzipOK : Bool) :
    (writeResponseStream resp content gzipOK).flow = .next () := by
  unfold writeResponseStream
  dsimp only
  split
  · rfl
  · cases decide (0 ≤ resp.contentLength) <;> rfl

theorem Delivery.sent_copyResponseHeader (header : Header) (status : Nat) (d : Delivery) :
    ((copyResponseHeader header status).trace.foldl Delivery.after d).sent.isSome = true := by
  unfold copyResponseHeader
  rw [List.foldl_append]
  simp only [List.foldl_cons, after, writeHeader]
  split
  · assumption
  · rfl

section Same

variable (header : Header) (status : Nat)

theorem deliversSame_after_header {k k' : Handler Event Unit}
    (h : ∀ d : Delivery, d.sent.isSome = true →
      (k.trace.foldl Delivery.after d).Same (k'.trace.foldl Delivery.after d)) :
    DeliversSame (copyResponseHeader header status >>= fun _ => k)
      (copyResponseHeader header status >>= fun _ => k') := by
  intro d
  rw [trace_bind_next rfl, trace_bind_next rfl, List.foldl_append, List.foldl_append]
  exact h _ (Delivery.sent_copyResponseHeader header status d)

variable {stream : Stream} {body : Bytes} (hbody : stream.bytes = body)

include hbody

theorem deliversSame_plain :
    DeliversSame (copyResponseHeader header status >>= fun _ => copyStream .write stream)
      (copyResponseHeader header status >>= fun _ => emit (.write body)) := by
  refine deliversSame_after_header header status fun d hsent => ?_
  change Delivery.Same ((stream.chunks.map Event.write).foldl Delivery.after d)
    (([body].map Event.write).foldl Delivery.after d)
  rw [Delivery.foldl_write _ hsent, Delivery.foldl_write _ hsent, List.flatten_singleton, ← hbody]
  exact ⟨rfl, rfl, rfl, rfl⟩

theorem deliversSame_gzip : DeliversSame
      (copyResponseHeader header status >>= fun _ => copyStream .writeGzip stream >>= fun _ =>
        emit (.writeGzip []))
      (copyResponseHeader header status >>= fun _ => emit (.writeGzip body)) := by
  refine deliversSame_after_header header status fun d hsent => ?_
  have hpieces : (copyStream .writeGzip stream >>= fun _ => emit (.writeGzip [])).trace =
      (stream.chunks ++ [[]]).map Event.writeGzip := by
    rw [List.map_append]
    rfl
  rw [hpieces]
  change Delivery.Same (((stream.chunks ++ [[]]).map Event.writeGzip).foldl Delivery.after d)
    (([body].map Event.writeGzip).foldl Delivery.after d)
  rw [Delivery.foldl_writeGzip _ hsent, Delivery.foldl_writeGzip _ hsent]
  refine ⟨rfl, rfl, rfl, ?_⟩
  simp only [List.flatten_append, ← hbody]
  rfl

end Same

theorem deliversSame_stream {buffered body : Bytes} {stream : Stream}
    (hbody : buffered ++ stream.bytes = body) (gzipOK : Bool) :
    DeliversSame (writeResponseStreamInPieces resp buffered stream gzipOK)
      (writeResponseStream resp body gzipOK) := by
  have hpieces : (stream.prepend buffered).bytes = body := hbody
  unfold writeResponseStreamInPieces writeResponseStream
  dsimp only
  split
  · exact deliversSame_gzip _ _ hpieces
  · exact DeliversSame.bind _ fun _ => deliversSame_plain _ _ hpieces

theorem respond_delivers_same (ctx : Context) (exchange : Exchange) (resp : Response) :
    DeliversSame (respondInPieces maxContentScanSize ctx exchange resp)
      (respond ctx exchange resp) := by
  have hstream (gzipOK : Bool) : DeliversSame
      (writeResponseStreamInPieces resp [] resp.body gzipOK)
      (writeResponseStream resp resp.body.bytes gzipOK) :=
    deliversSame_stream resp (List.nil_append _) gzipOK
  have hpieces := flow_writeStreamInPieces resp
  have hwhole := flow_writeStream resp
  unfold respondInPieces respond deliverBody
  dsimp only
  refine DeliversSame.bind _ fun _ => DeliversSame.bind _ fun _ => DeliversSame.bind _ fun _ => ?_
  refine (hstream _).whenever_stop (hpieces _ _ _) (hwhole _ _) fun _ => ?_
  refine (hstream _).whenever_stop (hpieces _ _ _) (hwhole _ _) fun _ => ?_
  refine (hstream _).whenever_stop (hpieces _ _ _) (hwhole _ _) fun _ => ?_
  have hfailed : (readBoundedBody resp.body maxContentScanSize).2.2.1 =
      (decide (resp.body.bytes.length ≤ maxContentScanSize) && resp.body.ending ≠ .eof) := by
    simpa using readBoundedBody_failed resp.body maxContentScanSize
  have hlimit : (readBoundedBody resp.body maxContentScanSize).2.1 =
      decide (maxContentScanSize < resp.body.bytes.length) := by
    simpa using readBoundedBody_overLimit resp.body maxContentScanSize
  rw [hfailed, hlimit]
  refine DeliversSame.bind _ fun _ => ?_
  refine (deliversSame_stream resp ?_ _).whenever_stop (hpieces _ _ _) (hwhole _ _) fun hfits => ?_
  · exact readBoundedBody_append resp.body maxContentScanSize
  · have hshort : ¬(maxContentScanSize : Int).toNat < resp.body.bytes.length := by
      simpa using hfits
    rw [readBoundedBody_of_fits hshort]
    exact DeliversSame.refl _

theorem serveHTTP_delivers_same (ctx : Context) (handler : ProxyHandler) (request : Request) :
    DeliversSame (serveHTTPInPieces maxContentScanSize ctx handler request)
      (serveHTTP ctx handler request) := by
  rw [serveHTTP_eq_approach]
  intro d
  unfold serveHTTPInPieces
  rw [trace_scope, trace_scope]
  revert d
  refine DeliversSame.bind _ fun passage => DeliversSame.bind _ fun _ => ?_
  refine DeliversSame.bind _ fun result => ?_
  cases result with
  | error error => exact DeliversSame.refl _
  | ok response => exact respond_delivers_same _ _ _

theorem delivery_upstream_append {events : List Event}
    (h : ∀ event ∈ events, event.isUpstream = true) (trace : List Event) :
    delivery (events ++ trace) = delivery trace := by
  induction events with
  | nil => rfl
  | cons event rest ih =>
    have hrest := ih fun other hother => h other (List.mem_cons_of_mem _ hother)
    cases event with
    | upstream link address => exact hrest
    | _ => cases h _ List.mem_cons_self

/-- The answer of the upstream, to a plain request that the stages before hand on without a
word to the client, reaches the client unchanged when nothing blocks it. -/
theorem unblocked_content_intact {gzip : List Bytes → Bytes} {gunzip : Bytes → Option Bytes}
    (hgzip : ∀ pieces, gunzip (gzip pieces) = some pieces.flatten) (maxContentScanSize : Int)
    (ctx : Context) (handler : ProxyHandler) (request : Request) (passage : Passage)
    (exchange : Exchange) (resp : Response)
    (hpasses : approach ctx handler request = ⟨[], .next passage⟩)
    (hplain : IsPlain passage.request) (hmethod : passage.request.method ≠ utf8 "HEAD")
    (hexchange : exchange =
      (passage.exchange ctx.world handler.layer (hostOf request.remoteAddr)).outgoing)
    (hanswer : (roundTrip ctx.world (handler.rt.getD httpTransport) exchange.request).flow =
      .next (.ok resp))
    (hstatus : resp.MayHaveBody) (hheader : resp.header.Canonical)
    (hunblocked : Unblocked maxContentScanSize ctx exchange resp)
    (heof : resp.body.ending = .eof)
    (hlength : 0 ≤ resp.contentLength → resp.contentLength = resp.body.bytes.length) :
    (delivery (serveHTTPInPieces maxContentScanSize ctx handler request).trace).Intact
      gzip gunzip resp.statusCode resp.body.bytes := by
  have hupstream : Ensures (roundTrip ctx.world (handler.rt.getD httpTransport) exchange.request)
      (fun event => event.isUpstream = true) True :=
    roundTrip_ensures ctx.world (fun _ => rfl) (fun _ _ => rfl) fun _ _ _ => trivial
  have hserve : (serveHTTPInPieces maxContentScanSize ctx handler request).trace =
      (roundTrip ctx.world (handler.rt.getD httpTransport) exchange.request).trace ++
        (respondInPieces maxContentScanSize ctx exchange resp).trace := by
    subst hexchange
    unfold serveHTTPInPieces
    rw [trace_scope, hpasses, trace_bind_next rfl, List.nil_append,
      divert_eq_pure _ _ _ _ _ _ hplain, Handler.pure_bind, forwardInPieces,
      trace_bind_next hanswer]
  rw [hserve, delivery_upstream_append hupstream.events,
    trace_respondInPieces (by rw [hexchange]; exact hmethod) hstatus hunblocked]
  exact intact_deliverBody hgzip hheader heof hlength hunblocked.content

def helloResponse : Response where
  statusCode := 200
  header := [(utf8 "Content-Type", utf8 "text/html")]
  contentLength := -1
  body := ⟨[utf8 "hel", utf8 "lo wo", utf8 "rld"], .eof⟩

def helloContext : Context where
  proxy := openProxy
  world := { openWorld pageRequest with fetch := fun _ _ => .answered helloResponse true }
  writer := .unsupported

def helloPassage : Passage where
  isHostLanAddress := false
  auth := { user := utf8 "10.0.0.7", pass := [], authUser := utf8 "10.0.0.7" }
  policy := none
  request := { pageRequest with url := { pageRequest.url with
    scheme := utf8 "http", host := utf8 "example.com" } }

/-- Beyond a limit of four bytes the page is streamed after a bounded read. -/
theorem unblocked_content_intact_hello :
    (delivery (serveHTTPInPieces 4 helloContext {} pageRequest).trace).Intact List.flatten some
      200 (utf8 "hello world") := by
  refine unblocked_content_intact (fun _ => rfl) 4 helloContext {} pageRequest helloPassage _
    helloResponse (by decide +kernel) ?_ (by decide) rfl (by decide +kernel) ?_ ?_ ?_ rfl ?_
  · exact ⟨by decide, by decide, by decide⟩
  · exact ⟨by decide, by decide, by decide⟩
  · intro field hfield
    rw [List.mem_singleton.mp hfield]
    decide
  · constructor
    · intro policy h
      cases h
    · exact .inr (by simp [helloContext, openProxy])
    · exact fun h => absurd h.2.2.2 (by decide)
  · intro h
    exact absurd h (by decide)

end GateSentry.Proxy
