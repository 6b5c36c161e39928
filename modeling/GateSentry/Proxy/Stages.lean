import GateSentry.Proxy.Admission
import GateSentry.Proxy.Serve

/-!
# What the stages do

One lemma for each function of the request handler: which actions it performs,
when it can panic, and what holds when it hands the request on.  The lemmas keep
the actions and the panics apart that a caller cares about: `good` holds of every
action that reaches no upstream server, and `crash` where a block page would panic.
-/

namespace GateSentry.Proxy

open Foundation ByteText Handler

def Event.isUpstream : Event → Bool
  | .upstream _ _ => true
  | _ => false

def Event.isRoutine : Event → Bool
  | .upstream _ _ => false
  | .relay _ => false
  | .intercept _ => false
  | .log entry => entry.action ≠ .blockedTime
  | _ => true

theorem Event.upstream_of_routine (event : Event) (h : event.isRoutine = true) :
    event.isUpstream = false := by
  cases event with
  | upstream link address => exact absurd h (by simp [Event.isRoutine])
  | _ => rfl

/-- A block page for this request takes the connection over, and the writer does
not let it. -/
def PagePanics (ctx : Context) (r : Request) : Prop :=
  contains r.url.string (utf8 ":443") = true ∧ ctx.writer = .unsupported

variable {good : Event → Prop} {crash : Prop}

theorem clientHelloServerName_ensures (hello : Bytes) :
    Ensures (clientHelloServerName hello) good True := by
  unfold clientHelloServerName
  split
  · exact ensures_pure trivial
  · exact ensures_pure trivial
  · exact ensures_crash trivial

section Local

variable (hlocal : ∀ event : Event, event.isRoutine = true → good event)
include hlocal

theorem ensures_local {event : Event} (h : event.isRoutine = true) :
    Ensures (emit event) good crash :=
  ensures_emit (hlocal event h) trivial

theorem httpError_ensures (message : String) (status : Nat) :
    Ensures (httpError message status) good crash :=
  ensures_local hlocal rfl

/-! ## Pages -/

theorem writePage_ensures (contentType content : Bytes) :
    Ensures (writePage contentType content) good crash := by
  apply (ensures_local hlocal rfl).seq
  apply (ensures_local hlocal rfl).seq
  apply (ensures_local hlocal rfl).seq
  exact ensures_local hlocal rfl

theorem sendInsecure_ensures (world : World) (content : Bytes)
    (contentType : Option Bytes) :
    Ensures (sendInsecureBlockBytes world content contentType) good crash := by
  apply (ensures_local hlocal rfl).seq
  split
  · exact writePage_ensures hlocal _ _
  · exact writePage_ensures hlocal _ _

theorem sendSecureBlockBytes_ensures (world : World) (content : Bytes) :
    Ensures (sendSecureBlockBytes world content) good crash := by
  apply (ensures_local hlocal rfl).seq
  apply (ensures_local hlocal rfl).seq
  refine ensures_optional (fun _ => ?_) ?_
  · apply (ensures_local hlocal rfl).seq
    apply (ensures_local hlocal rfl).seq
    exact ensures_local hlocal rfl
  · exact ensures_local hlocal rfl

variable {ctx : Context} {r : Request}

theorem sendBlockMessage_ensures
    (hpage : PagePanics ctx r → crash) (content : Bytes) (contentType : Option Bytes) :
    Ensures (sendBlockMessageBytes ctx r content contentType) good crash := by
  unfold sendBlockMessageBytes
  split
  · rename_i hport
    split
    · rename_i hwriter
      exact ensures_crash (hpage ⟨hport, hwriter⟩)
    · exact sendInsecure_ensures hlocal _ _ _
    · exact sendSecureBlockBytes_ensures hlocal _ _
  · exact sendInsecure_ensures hlocal _ _ _

theorem blocked_ensures (hpage : PagePanics ctx r → crash)
    {entry : GSLogData} (hentry : good (.log entry)) (content : Bytes)
    (contentType : Option Bytes) {done : Unit → Prop} :
    Ensures (do
      emit (.log entry)
      sendBlockMessageBytes ctx r content contentType
      stop) good crash done := by
  apply Ensures.seq (ensures_emit hentry trivial)
  exact (sendBlockMessage_ensures hlocal hpage _ _).seq ensures_stop

/-! ## The response -/

theorem copyHeader_ensures (header : Header) (status : Nat) :
    Ensures (copyResponseHeader header status) good crash := by
  refine ⟨?_, fun hcrash => ?_, fun _ _ => trivial⟩
  · intro event hevent
    simp only [copyResponseHeader, List.mem_append, List.mem_map, List.mem_singleton] at hevent
    rcases hevent with ⟨field, -, rfl⟩ | rfl
    · exact hlocal _ rfl
    · exact hlocal _ rfl
  · obtain ⟨_, hflow⟩ := hcrash
    exact nomatch hflow

theorem writeStream_ensures (resp : Response) (content : Bytes) (gzipOK : Bool) :
    Ensures (writeResponseStream resp content gzipOK) good crash := by
  unfold writeResponseStream
  dsimp only
  split
  · apply (copyHeader_ensures hlocal _ _).seq
    exact ensures_local hlocal rfl
  · refine ensures_optional (fun _ => ensures_local hlocal rfl) ?_
    apply (copyHeader_ensures hlocal _ _).seq
    exact ensures_local hlocal rfl

theorem scanMedia_ensures (ctx : Context) (data contentType : Bytes) (r : Request)
    (resp : Response) :
    Ensures (scanMedia ctx data contentType r resp) good crash
      fun result => result.2 ≠ .blockedTime := by
  unfold scanMedia
  split
  · exact ensures_pure (by decide)
  · dsimp only
    split
    · apply (ensures_local hlocal rfl).seq
      apply (copyHeader_ensures hlocal _ _).seq
      exact (ensures_local hlocal rfl).seq (ensures_pure (by decide))
    · apply (ensures_local hlocal rfl).seq
      apply (copyHeader_ensures hlocal _ _).seq
      exact (ensures_local hlocal rfl).seq (ensures_pure (by decide))

theorem respondWithoutBody_ensures (method : Bytes) (resp : Response) :
    Ensures (respondWithoutBody method resp) good crash := by
  unfold respondWithoutBody
  dsimp only
  split
  · exact (ensures_local hlocal rfl).seq (copyHeader_ensures hlocal _ _)
  · refine ensures_optional (fun _ => ensures_local hlocal rfl) ?_
    exact copyHeader_ensures hlocal _ _

theorem scanText_ensures (hpage : PagePanics ctx r → crash) (data contentType : Bytes) :
    Ensures (scanText ctx data contentType r) good crash
      fun result => result.2 ≠ .blockedTime := by
  unfold scanText
  dsimp only
  split
  · exact (sendBlockMessage_ensures hlocal hpage _ _).seq (ensures_pure (by decide))
  · exact ensures_pure (by decide)

variable {exchange : Exchange}

section

variable (hpage : PagePanics ctx exchange.request → crash)

include hpage

theorem checkContentType_ensures (contentType : Bytes) :
    Ensures (checkContentType ctx exchange contentType) good crash := by
  have hverdict : ∀ verdict : Verdict, Ensures
      (whenever (verdict.action = some .blockedFileType) do
        emit (.log ⟨exchange.request.url.string, exchange.user, .blockedFileType,
          exchange.client, exchange.layer, []⟩)
        sendBlockMessageBytes ctx exchange.request blockedContentType (some contentType)
        stop) good crash := by
    intro verdict
    exact ensures_whenever (fun _ => blocked_ensures hlocal hpage (hlocal _ rfl) _ _) fun _ => trivial
  unfold checkContentType
  dsimp only
  split
  · refine ensures_optional (fun _ => ?_) (hverdict _)
    exact blocked_ensures hlocal hpage (hlocal _ rfl) _ _
  · exact hverdict _

theorem scanBody_ensures (resp : Response) (declaredType body : Bytes) :
    Ensures (scanBody ctx exchange resp declaredType body) good crash := by
  refine (scanMedia_ensures hlocal _ _ _ _ _).bind fun media hmedia => ?_
  refine ensures_optional (fun _ => ?_) ?_
  · refine Ensures.seq (ensures_emit ?_ trivial) ensures_stop
    exact hlocal _ (decide_eq_true hmedia)
  · refine (scanText_ensures hlocal hpage _ _).bind fun text htext => ?_
    refine ensures_optional (fun _ => ?_) ?_
    · refine Ensures.seq (ensures_emit ?_ trivial) ensures_stop
      exact hlocal _ (decide_eq_true htext)
    · split
      · exact (copyHeader_ensures hlocal _ _).seq (ensures_local hlocal rfl)
      · apply (ensures_local hlocal rfl).seq
        exact (copyHeader_ensures hlocal _ _).seq (ensures_local hlocal rfl)

theorem respond_ensures (resp : Response) : Ensures (respond ctx exchange resp) good crash := by
  refine ensures_early (httpError_ensures hlocal _ _) ?_
  refine ensures_early (respondWithoutBody_ensures hlocal _ _) ?_
  apply (checkContentType_ensures hlocal hpage _).seq
  refine ensures_early (writeStream_ensures hlocal _ _ _) ?_
  refine ensures_early (writeStream_ensures hlocal _ _ _) ?_
  refine ensures_early (writeStream_ensures hlocal _ _ _) ?_
  refine ensures_early (httpError_ensures hlocal _ _) ?_
  refine ensures_early (writeStream_ensures hlocal _ _ _) ?_
  exact scanBody_ensures hlocal hpage _ _ _

end

/-! ## The stages before the upstream -/

theorem rewriteTransparent_ensures (proxy : GSProxy) (r : Request) :
    Ensures (rewriteTransparent proxy r) good crash := by
  unfold rewriteTransparent
  split
  · split
    · exact (httpError_ensures hlocal _ _).seq ensures_stop
    · exact ensures_pure trivial
  · exact ensures_pure trivial

theorem completeURL_ensures (handler : ProxyHandler) (r : Request) :
    Ensures (completeURL handler r) good crash := by
  refine ensures_early (httpError_ensures hlocal _ _) ?_
  · dsimp only
    split
    · exact ensures_pure trivial
    · split
      · exact ensures_pure trivial
      · exact (httpError_ensures hlocal _ _).seq ensures_stop

theorem authenticationRequired_ensures : Ensures authenticationRequired good crash := by
  apply (ensures_local hlocal rfl).seq
  exact httpError_ensures hlocal _ _

def LetsThrough (ctx : Context) (handler : ProxyHandler) (client : Bytes) (r : Request)
    (result : AuthResult) : Prop :=
  (∃ next, handleAuthAndAssignUser (Accounts.isUserValid ctx.proxy.users)
    ctx.proxy.usersCache (r.header.get (utf8 "Proxy-Authorization")) handler.user
    ctx.proxy.authEnabled client = .ok (result, next)) ∧
  (ctx.proxy.authEnabled = true → result.user ≠ [] ∧ result.user ≠ loopback)

theorem authenticate_ensures {handler : ProxyHandler} {client : Bytes}
    (hpanic : Outcome.Panics (handleAuthAndAssignUser
      (Accounts.isUserValid ctx.proxy.users) ctx.proxy.usersCache
      (r.header.get (utf8 "Proxy-Authorization")) handler.user ctx.proxy.authEnabled
      client) → crash)
    (hpage : ∀ result, LetsThrough ctx handler client r result → PagePanics ctx r → crash)
    (isHostLanAddress : Bool) :
    Ensures (authenticate ctx handler client isHostLanAddress r) good crash
      (LetsThrough ctx handler client r) := by
  refine Ensures.bind (ensures_ofOutcome hpanic fun _ h => h) ?_
  rintro ⟨result, next⟩ hresult
  have hrefused : ∀ {done : Unit → Prop},
      Ensures (do authenticationRequired; stop) good crash done := by
    intro done
    apply (authenticationRequired_ensures hlocal).seq
    exact ensures_stop
  refine Ensures.bind (ensures_whenever ?_ ?_)
    fun _ (hadmits : LetsThrough ctx handler client r result) => ensures_pure hadmits
  · intro hauth
    refine (ensures_guard fun _ => hrefused).bind fun _ huser => ?_
    have hadmits : LetsThrough ctx handler client r result := by
      refine ⟨⟨next, hresult⟩, fun _ => ?_⟩
      simpa using huser
    refine (ensures_guard fun _ => hrefused).bind fun _ _ => ?_
    refine ensures_whenever (fun _ => ?_) fun _ => hadmits
    exact (sendBlockMessage_ensures hlocal (hpage result hadmits) _ _).seq ensures_stop
  · intro hauth
    refine ⟨⟨next, hresult⟩, fun hon => ?_⟩
    rw [hauth] at hon
    exact nomatch hon

section

variable (hpage : PagePanics ctx r → crash)

include hpage

theorem checkTime_ensures (client : Bytes) {user : Bytes}
    (htime : (ctx.proxy.timeAccessHandler r.url.string user).action = some .blockedTime →
      ∀ entry, good (.log entry)) : Ensures (checkTime ctx client user r) good crash := by
  refine ensures_whenever (fun hblocked => ?_) fun _ => trivial
  exact blocked_ensures hlocal hpage (htime (of_decide_eq_true hblocked) _) _ _

theorem checkPolicy_ensures (layer : Layer) (client user : Bytes) :
    Ensures (checkPolicy ctx layer client user r) good crash fun policy =>
      policy = ctx.proxy.ruleMatchHandler (policyHost r) user client ∧
        ∀ decision, policy = some decision → decision.block = false := by
  unfold checkPolicy
  dsimp only
  split
  · rename_i hpolicy
    exact ensures_pure ⟨rfl, fun decision hdecision => by simp [hpolicy] at hdecision⟩
  · rename_i decision hpolicy
    refine (ensures_guard fun _ => blocked_ensures hlocal hpage (hlocal _ rfl) _ _).bind
      fun _ hallowed => ensures_pure ⟨rfl, ?_⟩
    intro other hother
    rw [hpolicy, Option.some.injEq] at hother
    rw [Bool.or_eq_false_iff] at hallowed
    exact hother ▸ hallowed.1

theorem checkURLFilter_ensures (layer : Layer) (client user : Bytes) (policyAllows : Bool) :
    Ensures (checkURLFilter ctx layer client user policyAllows r) good crash := by
  exact ensures_whenever (fun _ => blocked_ensures hlocal hpage (hlocal _ rfl) _ _) fun _ => trivial

end

theorem redirectFileType_ensures (ctx : Context) (client user : Bytes)
    (policyAllows : Bool) (r : Request) :
    Ensures (redirectFileType ctx client user policyAllows r) good crash fun r' =>
      r' = r ∨ r' = { r with url := redirectedURL r.url } := by
  apply ensures_ite
  · intro _
    apply (ensures_local hlocal rfl).seq
    apply (ensures_local hlocal rfl).seq
    apply (ensures_local hlocal rfl).seq
    exact ensures_pure (.inr rfl)
  · intro _
    exact ensures_pure (.inl rfl)

def IsPlain (r : Request) : Prop :=
  r.method ≠ utf8 "CONNECT" ∧ trimSpace (r.header.get (utf8 "Upgrade")) = [] ∧
    (r.header.values (utf8 "X-Forwarded-For")).length < 10

def IsWebsocket (r : Request) : Prop :=
  r.method ≠ utf8 "CONNECT" ∧
    equalFold (trimSpace (r.header.get (utf8 "Upgrade"))) (utf8 "websocket") = true

theorem divert_ensures (isHostLanAddress : Bool) (layer : Layer) (client : Bytes)
    (auth : AuthResult) (policy : Option PolicyDecision)
    (hbump : r.method = utf8 "CONNECT" →
      Ensures (handleSSLBump ctx r auth.user auth.authUser) good crash)
    (hdirect : r.method = utf8 "CONNECT" → Ensures (handleSSLConnectDirect ctx r) good crash)
    (hwebsocket : IsWebsocket r → Ensures (handleWebsocketConnection ctx r) good crash) :
    Ensures (divert ctx isHostLanAddress layer client auth policy r) good crash
      fun _ => IsPlain r := by
  refine (ensures_guard fun hconnect => ?_).bind fun _ hmethod => ?_
  · have hmethod : r.method = utf8 "CONNECT" := by simpa using hconnect
    split
    · exact (hbump hmethod).seq ensures_stop
    · apply (ensures_local hlocal rfl).seq
      exact (hdirect hmethod).seq ensures_stop
  have hmethod : r.method ≠ utf8 "CONNECT" := by simpa using hmethod
  refine (ensures_guard fun _ => ?_).bind fun _ hupgrade => ?_
  · split
    · rename_i hfold
      exact (hwebsocket ⟨hmethod, hfold⟩).seq ensures_stop
    · exact (httpError_ensures hlocal _ _).seq ensures_stop
  refine (ensures_guard fun _ => ?_).mono fun _ hloop => ?_
  · exact (httpError_ensures hlocal _ _).seq ensures_stop
  · exact ⟨hmethod, by simpa using hupgrade, by simpa using hloop⟩

theorem failedHijack_ensures (writer : Hijacker) :
    Ensures (failedHijack writer) good crash := by
  cases writer with
  | hijackable => exact (ensures_local hlocal rfl).seq (ensures_local hlocal rfl)
  | unsupported | failing => exact ensures_pure trivial

theorem divert_unsupported (hwriter : ctx.writer = .unsupported)
    (hpage : PagePanics ctx r → crash) (isHostLanAddress : Bool)
    (layer : Layer) (client : Bytes) (auth : AuthResult) (policy : Option PolicyDecision) :
    Ensures (divert ctx isHostLanAddress layer client auth policy r) good crash
      fun _ => IsPlain r := by
  apply divert_ensures hlocal
  · intro _
    have hctx : { ctx with writer := Hijacker.unsupported.taken } = ctx := by
      change { ctx with writer := Hijacker.unsupported } = ctx
      rw [← hwriter]
    unfold handleSSLBump
    rw [hwriter]
    apply (failedHijack_ensures hlocal _).seq
    rw [hctx]
    exact sendBlockMessage_ensures hlocal hpage _ _
  · intro _
    unfold handleSSLConnectDirect
    rw [hwriter]
    exact failedHijack_ensures hlocal _
  · intro _
    unfold handleWebsocketConnection
    rw [hwriter]
    exact httpError_ensures hlocal _ _

end Local

variable {r : Request}

theorem roundTrip_ensures (world : World) {rt : Transport}
    (hupstream : r.url.scheme = utf8 "https" → good (.upstream .tls r.url.host))
    (hplain : r.url.scheme = utf8 "http" → rt.http2 = false → good (.upstream .plain r.url.host))
    (hcrash : r.url.scheme = utf8 "http" → rt.http2 = false → rt.hardValidation = true → crash) :
    Ensures (roundTrip world rt r) good crash := by
  unfold roundTrip
  dsimp only
  split
  · split
    · exact ensures_pure trivial
    · exact ensures_pure trivial
  · rename_i hscheme
    have hlink : good (.upstream (if r.url.scheme = utf8 "https" then Link.tls else .plain)
        r.url.host) := by
      split
      · rename_i hsecure
        exact hupstream hsecure
      · rename_i hinsecure
        simp [hinsecure] at hscheme
        exact hplain hscheme.2 hscheme.1
    split
    · exact ensures_pure trivial
    · exact (ensures_emit hlink trivial).seq (ensures_pure trivial)
    · refine Ensures.seq (ensures_emit hlink trivial) ?_
      refine ensures_optional (fun hpanics => ?_) ?_
      · simp only [Bool.and_eq_true] at hpanics
        simp [hpanics.2] at hscheme
        exact ensures_crash (hcrash hscheme.2 hscheme.1 hpanics.1)
      · apply ensures_ite
        · intro _
          exact ensures_pure trivial
        · intro _
          exact ensures_pure trivial

variable {ctx : Context}

theorem divert_of_websocket (h : IsWebsocket r) (isHostLanAddress : Bool) (layer : Layer)
    (client : Bytes) (auth : AuthResult) (policy : Option PolicyDecision) :
    divert ctx isHostLanAddress layer client auth policy r =
      handleWebsocketConnection ctx r >>= fun _ => stop := by
  obtain ⟨hmethod, hfold⟩ := h
  have hupgrade : (trimSpace (r.header.get (utf8 "Upgrade"))).isEmpty = false := by
    rw [List.isEmpty_eq_false_iff]
    intro hempty
    rw [hempty] at hfold
    exact absurd hfold (by decide)
  unfold divert
  rw [decide_eq_false hmethod, whenever_false, Handler.pure_bind]
  simp only [hupgrade, hfold, Bool.not_false, whenever_true, if_true, Handler.bind_assoc]
  rfl

theorem PagePanics.of_url {r' : Request} (h : PagePanics ctx r)
    (hurl : r.url = r'.url) : PagePanics ctx r' := by
  unfold PagePanics at h ⊢
  rw [← hurl]
  exact h

variable {handler : ProxyHandler}

theorem forward_ensures (hlocal : ∀ event : Event, event.isRoutine = true → good event)
    {exchange : Exchange} (hpage : PagePanics ctx exchange.request → crash)
    (hsecure : exchange.request.url.scheme = utf8 "https" →
      good (.upstream .tls exchange.request.url.host))
    (hplain : exchange.request.url.scheme = utf8 "http" →
      (handler.rt.getD httpTransport).http2 = false →
      good (.upstream .plain exchange.request.url.host))
    (hcrash : exchange.request.url.scheme = utf8 "http" →
      (handler.rt.getD httpTransport).hardValidation = true → crash) :
    Ensures (forward ctx handler exchange) good crash := by
  refine Ensures.bind (roundTrip_ensures ctx.world ?_ ?_ ?_) fun result _ => ?_
  · exact hsecure
  · exact hplain
  · intro hscheme _ hhard
    exact hcrash hscheme hhard
  · cases result with
    | error error =>
      apply sendBlockMessage_ensures hlocal
      intro hpanics
      exact hpage (hpanics.of_url rfl)
    | ok response =>
      apply respond_ensures hlocal
      intro hpanics
      exact hpage (hpanics.of_url rfl)

def Reaches (r r' : Request) : Prop :=
  r' = fixConnectHost r ∨
    r' = { fixConnectHost r with url := redirectedURL (fixConnectHost r).url }

theorem fixConnectHost_eq (r : Request) :
    ∃ host, fixConnectHost r = { r with url := { r.url with host } } := by
  unfold fixConnectHost
  split
  · split
    · exact ⟨r.url.host, rfl⟩
    · rename_i host port _
      split
      · exact ⟨Net.joinHostPort host port, rfl⟩
      · exact ⟨r.url.host, rfl⟩
  · exact ⟨r.url.host, rfl⟩

theorem Reaches.exists_url {r' : Request} (h : Reaches r r') : ∃ url : URL, r' = { r with url } ∧
      (url.scheme = r.url.scheme ∨ url.scheme = utf8 "https") := by
  obtain ⟨host, hfixed⟩ := fixConnectHost_eq r
  rcases h with rfl | rfl
  · exact ⟨{ r.url with host }, hfixed, .inl rfl⟩
  · refine ⟨redirectedURL (fixConnectHost r).url, ?_, .inr rfl⟩
    rw [hfixed]

theorem process_ensures (hlocal : ∀ event : Event, event.isRoutine = true → good event)
    {client : Bytes} {isHostLanAddress : Bool}
    {auth : AuthResult} (hpage : PagePanics ctx r → crash)
    (htime : (ctx.proxy.timeAccessHandler r.url.string auth.user).action = some .blockedTime →
      ∀ entry, good (.log entry)) (hfixed : PagePanics ctx (fixConnectHost r) → crash)
    (hdivert : ∀ policy r', Reaches r r' →
      Ensures (divert ctx isHostLanAddress handler.layer client auth policy r') good crash
        fun _ => IsPlain r') (hforward : ∀ exchange : Exchange, Reaches r exchange.request →
      IsPlain exchange.request →
      Ensures (forward ctx handler exchange) good crash) :
    Ensures (process ctx handler client isHostLanAddress auth r) good crash := by
  apply (checkTime_ensures hlocal hpage _ htime).seq
  refine (checkPolicy_ensures hlocal hfixed _ _ _).bind fun policy _ => ?_
  apply (checkURLFilter_ensures hlocal hfixed _ _ _ _).seq
  refine (redirectFileType_ensures hlocal _ _ _ _ _).bind fun r' hr' => ?_
  refine (hdivert policy r' hr').bind fun _ hplain => ?_
  exact hforward _ hr' hplain

/-! ## Requests that are let through -/

def openProxy : GSProxy where
  users := []
  authEnabled := false
  usersCache := []
  transparentProxyEnabled := false
  accessDisabledPage := []
  contentHandler := fun _ _ _ => {}
  contentTypeHandler := fun _ _ => {}
  timeAccessHandler := fun _ _ => {}
  urlAccessHandler := fun _ _ => {}
  proxyErrorHandler := fun error => error
  doMitm := fun _ => false
  isExceptionUrl := fun _ => false
  ruleMatchHandler := fun _ _ _ => none
  policyBlockPage := fun reason => reason
  matchString := fun _ _ => false

def blockingProxy (users : List Accounts.GSUser) (authEnabled : Bool) : GSProxy :=
  { openProxy with
    users, authEnabled, ruleMatchHandler := fun _ _ _ => some { block := true } }

def openWorld (request : Request) : World where
  readRequest := fun _ => some request
  dial := fun _ => true
  lookupAddr := fun _ => []
  tlsDial := fun _ _ => .error []
  signCertificate := fun _ => some false
  selfSignedConfig := false
  clientHandshake := false
  fetch := fun _ _ => .failed []
  mimeByExtension := fun _ => []
  fileKind := fun _ => none
  isMedia := fun _ => false
  createEmptyImage := fun _ => []
  decodeReasons := fun _ => none
  parsesPositive := fun _ => false

theorem rewriteTransparent_of_url (proxy : GSProxy) (hhost : r.url.host ≠ [])
    (hscheme : r.url.scheme ≠ []) : rewriteTransparent proxy r = pure r := by
  simp [rewriteTransparent, isTransparentProxyRequest, hhost, hscheme]

theorem completeURL_of_url (handler : ProxyHandler) (hhost : r.url.host ≠ [])
    (hscheme : r.url.scheme ≠ []) :
    completeURL handler r = (do
      whenever (10000 < r.url.string.length) do
        httpError "URL too long" 414
        stop
      pure r) := by
  simp [completeURL, hhost, hscheme]

theorem serveHTTP_of_url (ctx : Context) (handler : ProxyHandler)
    (hhost : r.url.host ≠ []) (hscheme : r.url.scheme ≠ []) :
    serveHTTP ctx handler r = scope (do
      whenever (10000 < r.url.string.length) do
        httpError "URL too long" 414
        stop
      let auth ← authenticate ctx handler (hostOf r.remoteAddr)
        (isLanAddress (before Net.colon r.url.host)) r
      process ctx handler (hostOf r.remoteAddr)
        (isLanAddress (before Net.colon r.url.host)) auth r) := by
  unfold serveHTTP
  rw [rewriteTransparent_of_url ctx.proxy hhost hscheme, pure_bind,
    completeURL_of_url handler hhost hscheme, bind_assoc]
  rfl

theorem authenticate_next {client : Bytes} {result : AuthResult}
    {next : UsersCache} (h : handleAuthAndAssignUser (Accounts.isUserValid ctx.proxy.users)
      ctx.proxy.usersCache (r.header.get (utf8 "Proxy-Authorization")) handler.user
      ctx.proxy.authEnabled client = .ok (result, next))
    (hactive : ctx.proxy.authEnabled = true → ¬ Nobody result.user ∧
      Accounts.userExists ctx.proxy.users result.user = true ∧
      Accounts.isUserActive ctx.proxy.users result.user = true) (isHostLanAddress : Bool) :
    (authenticate ctx handler client isHostLanAddress r).flow = .next result := by
  unfold authenticate
  dsimp only
  rw [h]
  cases hauth : ctx.proxy.authEnabled with
  | false => rfl
  | true =>
    obtain ⟨hsomebody, hexists, hallowed⟩ := hactive hauth
    unfold Nobody at hsomebody
    have haccess : ctx.proxy.userAccessHandler result.user = { action := some .userActive } := by
      simp [GSProxy.userAccessHandler, hexists, hallowed]
    have huser : (result.user.isEmpty || decide (result.user = loopback)) = false := by
      simpa using hsomebody
    simp only [ofOutcome_ok, pure_bind, haccess, huser]
    rfl

end GateSentry.Proxy
