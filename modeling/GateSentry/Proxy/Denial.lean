import GateSentry.Proxy.HostPolicy

/-!
# Denied requests

What the client and the upstream see of a request that one of the checks of `ServeHTTP` denies.
-/

namespace GateSentry.Proxy

open Foundation ByteText Handler

def Event.startsResponse : Event → Bool
  | .writeHeader _ => true
  | .httpError _ _ => true
  | .connWrite content => (utf8 "HTTP/1.1 ").isPrefixOf content
  | .connWriteTLS content => (utf8 "HTTP/1.1 ").isPrefixOf content
  | _ => false

structure AnsweredOnce (m : Handler Event Unit) : Prop where
  completes : ¬ Crashes m
  once : m.trace.countP Event.startsResponse = 1
  ends : ¬ Does Event.isUpstream m

/-- How a request is denied: by a request to log in, by the page of the checks of the account and
the hour, by that of the checks after them, or by a redirection. -/
inductive Denial where
  | login
  | earlyPage
  | page
  | fileType

def laterDenial (ctx : Context) (client user : Bytes) (r : Request) : Option Denial :=
  let proxy := ctx.proxy
  let fixed := fixConnectHost r
  let url := fixed.url.string
  let policy := proxy.ruleMatchHandler (policyHost fixed) user client
  let filtered (verdict : Verdict) : Verdict :=
    if (policy.map (·.allow)).getD false then {} else verdict
  if (proxy.timeAccessHandler r.url.string user).action = some .blockedTime then some .earlyPage
  else if policy.any fun d => d.block || d.blocksURL proxy.matchString url then some .page
  else if (filtered (proxy.urlAccessHandler url user)).action = some .blockedUrl then some .page
  else if (filtered (proxy.contentTypeHandler url
      (getMimeByExtension ctx.world (getFileExtensionFromUrl url)))).action =
        some .blockedFileType then
    some .fileType
  else none

def firstDenial (ctx : Context) (client : Bytes) (isHostLanAddress : Bool) (user : Bytes)
    (r : Request) : Option Denial :=
  let access := ctx.proxy.userAccessHandler user
  if ctx.proxy.authEnabled && (user.isEmpty || user = loopback) then some .login
  else if ctx.proxy.authEnabled && access.action = some .userNotFound then some .login
  else if ctx.proxy.authEnabled && (access.action ≠ some .userActive && !isHostLanAddress) then
    some .earlyPage
  else laterDenial ctx client user r

/-- The block page is one response: it does not take the connection over, or no client gets
through the handshake on it. -/
def OnePage (ctx : Context) (r : Request) : Prop :=
  contains r.url.string (utf8 ":443") = true → ctx.writer ≠ .unsupported ∧
    ∀ flushError stream, ctx.writer = .hijackable flushError stream →
      (ctx.world.selfSignedConfig && ctx.world.clientHandshake) = false

def Stranded (ctx : Context) (r : Request) : Prop :=
  IsWebsocket r ∧ (∃ flushError stream, ctx.writer = .hijackable flushError stream) ∧
    ctx.world.dial (websocketAddr r) = false

def Denial.Settles (ctx : Context) (r : Request) : Denial → Prop
  | .login => True
  | .earlyPage | .page => OnePage ctx r
  | .fileType => Stranded ctx { r with url := redirectedURL r.url }

def deny (ctx : Context) (r : Request) (entries : List GSLogData) (content : Bytes) :
    Handler Event Unit := do
  ⟨entries.map .log, .next ()⟩
  sendBlockMessageBytes ctx r content none
  stop

def Event.isNoticed (event : Event) : Bool := event.startsResponse || event.isUpstream

def redirected (r : Request) : Request :=
  { fixConnectHost r with url := redirectedURL (fixConnectHost r).url }

/-- What happens after a file type is denied. -/
inductive Redirects (ctx : Context) (r : Request) : Handler Event Unit → Prop where
  | mk (entry : GSLogData) (key value : Bytes) (isHostLanAddress : Bool) (layer : Layer)
      (client : Bytes) (auth : AuthResult) (policy : Option PolicyDecision)
      (handler : ProxyHandler) (exchange : Exchange) : Redirects ctx r (do
        emit (.log entry)
        emit (.setHeader key value)
        emit (.writeHeader 301)
        divert ctx isHostLanAddress layer client auth policy (redirected r)
        forward ctx handler exchange)

/-- When a denied request is answered well, denial by denial. -/
structure Judged (ctx : Context) (r : Request) (good : Handler Event Unit → Prop)
    (settles : Denial → Prop) : Prop where
  login : good (authenticationRequired >>= fun _ => stop) ↔ settles .login
  earlyPage : ∀ entries content, good (deny ctx r entries content) ↔ settles .earlyPage
  page : ∀ entries content, good (deny ctx (fixConnectHost r) entries content) ↔ settles .page
  fileType : ∀ m, Redirects ctx r m → (good m ↔ settles .fileType)

/-- The request is passed on as `r`, and this is how the first check to deny it does so. -/
def DeniedAs (ctx : Context) (handler : ProxyHandler) (request r : Request) (denial : Denial) :
    Prop :=
  ∃ routed auth cache, rewriteTransparent ctx.proxy request = pure routed ∧
    completeURL handler routed = pure r ∧
    handleAuthAndAssignUser (Accounts.isUserValid ctx.proxy.users) ctx.proxy.usersCache
      (r.header.get (utf8 "Proxy-Authorization")) handler.user ctx.proxy.authEnabled
        (hostOf request.remoteAddr) = .ok (auth, cache) ∧
    firstDenial ctx (hostOf request.remoteAddr)
      (isLanAddress (before Net.colon routed.url.host)) auth.user r = some denial

def Answers (good : Handler Event Unit → Prop) (settles : Denial → Prop)
    (m : Handler Event Unit) (d : Option Denial) : Prop :=
  ∀ denial, d = some denial → (good m ↔ settles denial)

section Answers

variable {ctx : Context} {r : Request} {good : Handler Event Unit → Prop}
  {settles : Denial → Prop} {denial : Denial}

theorem answers_none (m : Handler Event Unit) : Answers good settles m none :=
  fun _ h => by cases h

theorem answers_some {m : Handler Event Unit} (h : good m ↔ settles denial) :
    Answers good settles m (some denial) := by
  rintro _ ⟨⟩
  exact h

variable {d : Option Denial} {condition : Prop}

theorem answers_ite [Decidable condition] {m k : Handler Event Unit} {e : Option Denial}
    (hm : condition → Answers good settles m d) (hk : ¬ condition → Answers good settles k e) :
    Answers good settles (if condition then m else k) (if condition then d else e) := by
  split
  · next h => exact hm h
  · next h => exact hk h

theorem answers_whenever [Decidable condition] {entry : GSLogData} {content : Bytes}
    {k : Handler Event Unit} (hdeny : good (deny ctx r [entry] content) ↔ settles denial)
    (hk : ¬ condition → Answers good settles k d) :
    Answers good settles (do
      whenever condition (do
        emit (.log entry)
        sendBlockMessageBytes ctx r content none
        stop)
      k) (if condition then some denial else d) := by
  by_cases h : condition
  · simp only [h, decide_true, whenever_true, bind_assoc]
    exact answers_some hdeny
  · simp only [h]
    exact hk h

theorem answers_checkPolicy {client : Bytes} {layer : Layer} {user : Bytes}
    {k : Option PolicyDecision → Handler Event Unit}
    (hdeny : ∀ entries content, good (deny ctx r entries content) ↔ settles denial)
    (hk : Answers good settles (k (ctx.proxy.ruleMatchHandler (policyHost r) user client)) d) :
    Answers good settles (checkPolicy ctx layer client user r >>= k)
      (if (ctx.proxy.ruleMatchHandler (policyHost r) user client).any fun d =>
        d.block || d.blocksURL ctx.proxy.matchString r.url.string then some denial else d) := by
  unfold checkPolicy
  cases hpolicy : ctx.proxy.ruleMatchHandler (policyHost r) user client with
  | none => rwa [hpolicy] at hk
  | some decision =>
    rw [hpolicy] at hk
    dsimp only [Option.any_some]
    by_cases hblock : decision.block || decision.blocksURL ctx.proxy.matchString r.url.string
    · simp only [hblock, whenever_true, bind_assoc]
      exact answers_some (hdeny [_] _)
    · rw [if_neg hblock, (Bool.not_eq_true _).mp hblock]
      exact hk

theorem answers_redirect [Decidable condition] {m : Handler Event Request}
    {k : Request → Handler Event Unit} (hm : Answers good settles (m >>= k) d) :
    Answers good settles ((if condition then m else pure r) >>= k)
      (if condition then d else none) := by
  split
  · exact hm
  · exact answers_none _

theorem whenever_stop_bind {ε β : Type} (condition : Bool) (m : Handler ε Unit)
    (k : Handler ε β) : (whenever condition (m >>= fun _ => stop) >>= fun _ => k) =
      if condition then m >>= fun _ => stop else k := by
  cases condition with
  | false => rfl
  | true =>
    rw [whenever_true, bind_assoc]
    rfl

theorem Judged.process (h : Judged ctx r good settles) (handler : ProxyHandler) (client : Bytes)
    (isHostLanAddress : Bool) (auth : AuthResult) :
    Answers good settles (process ctx handler client isHostLanAddress auth r)
      (laterDenial ctx client auth.user r) := by
  refine answers_whenever (h.earlyPage _ _) fun _ => ?_
  refine answers_checkPolicy h.page ?_
  refine answers_whenever (h.page _ _) fun _ => ?_
  refine answers_redirect (answers_some ?_)
  simp only [bind_assoc]
  exact h.fileType _ ⟨_, _, _, _, _, _, _, _, _, _⟩

theorem Judged.serveHTTP (h : Judged ctx r good settles)
    (hscope : ∀ m, good (scope m) ↔ good m) {handler : ProxyHandler} {request : Request}
    (hdenied : DeniedAs ctx handler request r denial) :
    good (Proxy.serveHTTP ctx handler request) ↔ settles denial := by
  obtain ⟨routed, auth, cache, hrouted, hcomplete, hauth, hdenied⟩ := hdenied
  unfold Proxy.serveHTTP authenticate
  dsimp only
  rw [hrouted, pure_bind, hcomplete, pure_bind, hscope, hauth, ofOutcome_ok, pure_bind]
  have hprocess := h.process handler (hostOf request.remoteAddr)
    (isLanAddress (before Net.colon routed.url.host)) auth
  refine (?_ : Answers good settles _ _) denial hdenied
  unfold firstDenial
  cases ctx.proxy.authEnabled with
  | false => exact hprocess
  | true =>
    simp only [whenever_true, bind_assoc]
    rw [whenever_stop_bind, whenever_stop_bind, whenever_stop_bind]
    refine answers_ite (fun _ => answers_some h.login) fun _ => ?_
    refine answers_ite (fun _ => answers_some h.login) fun _ => ?_
    exact answers_ite (fun _ => answers_some (h.earlyPage [] _)) fun _ => hprocess

/-! ## One answer -/

theorem answeredOnce_scope_iff (m : Handler Event Unit) :
    AnsweredOnce (scope m) ↔ AnsweredOnce m := by
  constructor
  · rintro ⟨hcompletes, honce, hends⟩
    exact ⟨by simpa using hcompletes, by simpa using honce, by simpa using hends⟩
  · rintro ⟨hcompletes, honce, hends⟩
    exact ⟨by simpa using hcompletes, by simpa using honce, by simpa using hends⟩

theorem trace_emit_bind {ε β : Type} (event : ε) (f : Unit → Handler ε β) :
    (emit event >>= f).trace = event :: (f ()).trace := rfl

theorem answeredOnce_returned_iff (entries : List GSLogData) (trace : List Event) :
    AnsweredOnce ⟨entries.map .log ++ trace, .returned⟩ ↔
      trace.countP Event.startsResponse = 1 ∧ trace.any Event.isUpstream = false := by
  have hlogs : (entries.map Event.log).countP Event.startsResponse = 0 := by
    simp [Event.startsResponse]
  have hany : (entries.map Event.log ++ trace).any Event.isUpstream =
      trace.any Event.isUpstream := by
    simp [Event.isUpstream]
  rw [← hany, ← Bool.not_eq_true, List.any_eq_true]
  constructor
  · rintro ⟨-, honce, hends⟩
    rw [List.countP_append, hlogs, Nat.zero_add] at honce
    exact ⟨honce, hends⟩
  · rintro ⟨honce, hends⟩
    refine ⟨?_, ?_, hends⟩
    · rintro ⟨reason, hflow⟩
      cases hflow
    · rw [List.countP_append, hlogs, honce]

theorem sendBlockMessage_cases (ctx : Context) (r : Request) (content : Bytes) :
    sendBlockMessageBytes ctx r content none = crash .typeAssertion ∧ ¬ OnePage ctx r ∨
      ∃ trace, sendBlockMessageBytes ctx r content none = ⟨trace, .next ()⟩ ∧
        trace.any Event.startsResponse = true ∧ trace.any Event.isUpstream = false ∧
        (trace.countP Event.startsResponse = 1 ↔ OnePage ctx r) := by
  have hok : (utf8 "HTTP/1.1 ").isPrefixOf (utf8 "HTTP/1.1 200 OK\r\n\r\n") = true := by decide
  have hforbidden : (utf8 "HTTP/1.1 ").isPrefixOf (utf8 "HTTP/1.1 403 Forbidden\r\n") = true := by
    decide
  unfold OnePage sendBlockMessageBytes
  cases hurl : contains r.url.string (utf8 ":443") with
  | false => exact .inr ⟨_, rfl, rfl, rfl, iff_of_true rfl (by simp)⟩
  | true =>
    cases hwriter : ctx.writer with
    | unsupported => exact .inl ⟨rfl, by simp⟩
    | failing error => exact .inr ⟨_, rfl, rfl, rfl, iff_of_true rfl (by simp)⟩
    | hijackable flushError stream =>
      unfold sendSecureBlockBytes
      cases ctx.world.selfSignedConfig && ctx.world.clientHandshake with
      | false =>
        refine .inr ⟨_, rfl, ?_⟩
        simp [trace_emit_bind, Event.startsResponse, Event.isUpstream, hok]
      | true =>
        refine .inr ⟨_, rfl, ?_⟩
        simp [trace_emit_bind, bind_assoc, Event.startsResponse, Event.isUpstream, hok, hforbidden]

theorem answeredOnce_deny_iff (entries : List GSLogData) (content : Bytes) :
    AnsweredOnce (deny ctx r entries content) ↔ OnePage ctx r := by
  unfold deny
  rcases sendBlockMessage_cases ctx r content with
    ⟨hcrash, hpage⟩ | ⟨trace, hsent, -, hends, hpage⟩
  · rw [hcrash]
    exact iff_of_false (fun h => h.completes ⟨_, rfl⟩) hpage
  · rw [hsent]
    change AnsweredOnce ⟨entries.map .log ++ (trace ++ []), .returned⟩ ↔ _
    rw [List.append_nil, answeredOnce_returned_iff, hpage]
    exact and_iff_left hends

/-! ## Requests that go on -/

/-- The handler crashes, or does something that is not an end of the request without an answer. -/
def Noticed (m : Handler Event Unit) : Prop := Crashes m ∨ Does Event.isNoticed m

theorem Noticed.bind {m : Handler Event Unit} (h : Noticed m) (f : Unit → Handler Event Unit) :
    Noticed (m >>= f) := by
  unfold Noticed at h ⊢
  rw [crashes_bind_iff, does_bind_iff]
  exact h.imp .inl .inl

theorem httpError_noticed (message : Bytes) (status : Nat) :
    Noticed (emit (.httpError message status)) :=
  .inr ((does_emit_iff _).mpr rfl)

theorem forward_noticed (handler : ProxyHandler) (exchange : Exchange) :
    Noticed (forward ctx handler exchange) := by
  have hpage (outgoing : Request) (content : Bytes) :
      Noticed (sendBlockMessageBytes ctx outgoing content none) := by
    rcases sendBlockMessage_cases ctx outgoing content with
      ⟨hcrash, -⟩ | ⟨trace, hsent, hresponds, -⟩
    · rw [hcrash]
      exact .inl (crashes_crash _)
    · obtain ⟨event, hevent, hstarts⟩ := List.any_eq_true.mp hresponds
      rw [hsent]
      exact .inr ⟨event, hevent, by simp [Event.isNoticed, hstarts]⟩
  unfold forward roundTrip
  dsimp only
  split
  · split
    · exact hpage _ _
    · exact hpage _ _
  · split
    · exact hpage _ _
    · exact .inr (by simp [Event.isNoticed, Event.isUpstream, bind_assoc])
    · exact .inr (by simp [Event.isNoticed, Event.isUpstream, bind_assoc])

theorem divert_noticed (hmethod : r.method ≠ utf8 "CONNECT")
    (hwriter : IsWebsocket r → ∀ flushError stream, ctx.writer ≠ .hijackable flushError stream)
    (isHostLanAddress : Bool) (layer : Layer) (client : Bytes) (auth : AuthResult)
    (policy : Option PolicyDecision) {k : Handler Event Unit} (hk : Noticed k) :
    Noticed (divert ctx isHostLanAddress layer client auth policy r >>= fun _ => k) := by
  have herror (message : Bytes) (status : Nat) (f g : Unit → Handler Event Unit) :
      Noticed ((emit (.httpError message status) >>= f) >>= g) :=
    ((httpError_noticed message status).bind f).bind g
  simp only [divert, hmethod, decide_false, whenever_false, pure_bind, bind_assoc]
  cases !(trimSpace (r.header.get (utf8 "Upgrade"))).isEmpty with
  | true =>
    rw [whenever_true]
    split
    · next hsocket =>
      unfold handleWebsocketConnection
      cases hhijack : ctx.writer with
      | unsupported | failing error => exact herror _ _ _ _
      | hijackable flushError stream => exact absurd hhijack (hwriter ⟨hmethod, hsocket⟩ _ _)
    · exact herror _ _ _ _
  | false =>
    rw [whenever_false, pure_bind]
    cases decide (10 ≤ (r.header.values (utf8 "X-Forwarded-For")).length) with
    | true => exact herror _ _ _ _
    | false => exact hk

theorem redirect_answeredOnce_iff {rest : Handler Event Unit} (entry : GSLogData)
    (key value : Bytes) :
    AnsweredOnce (do emit (.log entry); emit (.setHeader key value); emit (.writeHeader 301); rest) ↔
      ¬ Noticed rest := by
  have hnoticed : ¬ Does Event.isNoticed rest ↔
      rest.trace.countP Event.startsResponse = 0 ∧ ¬ Does Event.isUpstream rest := by
    simp only [Does, Event.isNoticed]
    grind
  rw [Noticed, not_or, hnoticed]
  constructor
  · rintro ⟨hcompletes, honce, hends⟩
    simp only [crashes_emit_bind] at hcompletes
    simp only [trace_emit_bind, List.countP_cons, Event.startsResponse] at honce
    simp only [does_emit_bind_iff] at hends
    grind
  · rintro ⟨hcompletes, honce, hends⟩
    refine ⟨?_, ?_, ?_⟩
    · simpa only [crashes_emit_bind] using hcompletes
    · simp [trace_emit_bind, List.countP_cons, Event.startsResponse, honce]
    · simp [Event.isUpstream, hends]

theorem passes_unnoticed_iff (hmethod : r.method ≠ utf8 "CONNECT") (isHostLanAddress : Bool)
    (layer : Layer) (client : Bytes) (auth : AuthResult) (policy : Option PolicyDecision)
    (handler : ProxyHandler) (exchange : Exchange) :
    ¬ Noticed (do
      divert ctx isHostLanAddress layer client auth policy r
      forward ctx handler exchange) ↔ Stranded ctx r := by
  unfold Stranded
  by_cases h : IsWebsocket r ∧ ∃ flushError stream, ctx.writer = .hijackable flushError stream
  · obtain ⟨hsocket, flushError, stream, hwriter⟩ := h
    rw [divert_of_websocket hsocket, handleWebsocketConnection, hwriter]
    cases hdial : ctx.world.dial (websocketAddr r) with
    | true => simp [Noticed, bind_assoc, Event.isNoticed, Event.isUpstream]
    | false =>
      simp [Noticed, bind_assoc, crashes_emit_bind, Event.isNoticed, Event.isUpstream,
        Event.startsResponse, hsocket]
  · refine iff_of_false (not_not.mpr ?_) fun hstranded => h ⟨hstranded.1, hstranded.2.1⟩
    exact divert_noticed hmethod (fun hsocket flushError stream hwriter =>
      h ⟨hsocket, flushError, stream, hwriter⟩) isHostLanAddress layer client auth policy
      (forward_noticed handler exchange)

theorem Redirects.answeredOnce_iff {m : Handler Event Unit} (h : Redirects ctx r m)
    (hmethod : r.method ≠ utf8 "CONNECT") :
    AnsweredOnce m ↔ Stranded ctx { r with url := redirectedURL r.url } := by
  obtain ⟨⟩ := h
  rw [redirect_answeredOnce_iff, redirected, fixConnectHost_of_method hmethod]
  exact passes_unnoticed_iff (r := { r with url := redirectedURL r.url }) hmethod _ _ _ _ _ _ _

end Answers

/-- A denied request is answered once and goes nowhere exactly if the answer is a request to log
in or a single block page. -/
theorem denied_answeredOnce_iff (ctx : Context) (handler : ProxyHandler) (request r : Request)
    (denial : Denial) (hdenied : DeniedAs ctx handler request r denial)
    (hmethod : r.method ≠ utf8 "CONNECT") :
    AnsweredOnce (serveHTTP ctx handler request) ↔ denial.Settles ctx r := by
  have hfixed : fixConnectHost r = r := fixConnectHost_of_method hmethod
  refine Judged.serveHTTP ?_ answeredOnce_scope_iff hdenied
  constructor
  · exact iff_of_true ((answeredOnce_returned_iff [] _).mpr ⟨rfl, rfl⟩) trivial
  · exact answeredOnce_deny_iff
  · rw [hfixed]
    exact answeredOnce_deny_iff
  · exact fun m hm => hm.answeredOnce_iff hmethod

def movieRequest : Request where
  method := utf8 "GET"
  url := { scheme := utf8 "http", host := utf8 "site", path := utf8 "/movie.mp4" }
  host := utf8 "site"
  remoteAddr := utf8 "10.0.0.9:5000"
  header := []

def movieContext (url file : Option ProxyAction) : Context where
  proxy := { openProxy with
    urlAccessHandler := fun _ _ => { action := url }
    contentTypeHandler := fun _ _ => { action := file } }
  world := openWorld movieRequest
  writer := .hijackable none ⟨[], .eof⟩

theorem blocked_movie_answeredOnce :
    AnsweredOnce (serveHTTP (movieContext (some .blockedUrl) none) {} movieRequest) := by
  refine (denied_answeredOnce_iff _ {} movieRequest movieRequest .page
    ⟨movieRequest, ⟨_, _, _⟩, [], rfl, rfl, rfl, rfl⟩ (by decide)).mpr ?_
  exact fun hsecure => absurd hsecure (by decide)

/-- A file type that is denied is redirected, and the request goes to an upstream server. -/
theorem denied_movie_goes_on :
    (serveHTTP (movieContext none (some .blockedFileType)) {} movieRequest).trace.any
        Event.isUpstream = true ∧
      ¬ AnsweredOnce (serveHTTP (movieContext none (some .blockedFileType)) {} movieRequest) := by
  have hupstream : (serveHTTP (movieContext none (some .blockedFileType)) {} movieRequest).trace.any
      Event.isUpstream = true := by decide +kernel
  exact ⟨hupstream, fun h => h.ends (List.any_eq_true.mp hupstream)⟩

/-! ## The protocol of the client -/

/-- The text of the whole URL decides how the page is sent. -/
def PageFits (ctx : Context) (r : Request) : Prop :=
  if r.method = utf8 "CONNECT" then contains r.url.string (utf8 ":443") = true ∧
    ∃ flushError stream, ctx.writer = .hijackable flushError stream
  else contains r.url.string (utf8 ":443") = true → ∃ error, ctx.writer = .failing error

def Denial.Fits (ctx : Context) (r : Request) : Denial → Prop
  | .login => r.method ≠ utf8 "CONNECT"
  | .earlyPage => PageFits ctx r
  | .page => PageFits ctx (fixConnectHost r)
  | .fileType => False

section Protocol

variable {ctx : Context} {r : Request}

end Protocol

end GateSentry.Proxy
