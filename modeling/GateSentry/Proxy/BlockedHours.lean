import GateSentry.Foundation.Calendar
import GateSentry.Foundation.Json
import GateSentry.Proxy.Stages

/-!
# Blocked hours

The time filter of `filter-time.go`, the handler that `main.go` builds on it, and what becomes
of its verdict in `ServeHTTP`.
-/

namespace GateSentry.Proxy

open Foundation ByteText Handler Calendar

/-! ## The filter -/

structure GSBlockTimes where
  fromhours : Int := 0
  tohours : Int := 0
  fromminutes : Int := 0
  tominutes : Int := 0
  deriving DecidableEq

def decodeBlockTimes : Json.Decoder GSBlockTimes :=
  Json.decodeStruct [
    Json.field "fromhours" Json.decodeInt (·.fromhours) fun v times => { times with fromhours := v },
    Json.field "tohours" Json.decodeInt (·.tohours) fun v times => { times with tohours := v },
    Json.field "fromminutes" Json.decodeInt (·.fromminutes)
      fun v times => { times with fromminutes := v },
    Json.field "tominutes" Json.decodeInt (·.tominutes)
      fun v times => { times with tominutes := v }]

/-- What the filter reads from the clock: at its start, and for each end of the period. -/
structure Readings where
  now : Time
  nowFrom : Time
  nowTo : Time

def getTime (location : Location) (now : Time) (hour minute : Int) : Time :=
  let clock := localSeconds location now
  fromClock location (clock / 86400 * 86400 + hour * 3600 + minute * 60 + clock % 60)
    (now % second)

/-- `RunTimeFilter`: whether it sets `Blocked`. -/
def runTimeFilter (loadLocation : Bytes → Option Location) (readings : Readings)
    (blockedtimes timezone : Bytes) : Bool :=
  match loadLocation timezone with
  | none => false
  | some location =>
    match Json.unmarshal decodeBlockTimes blockedtimes {} with
    | none => false
    | some times =>
      let fromTime := getTime location readings.nowFrom times.fromhours times.fromminutes
      let toTime := getTime location readings.nowTo times.tohours times.tominutes
      let toTime := if toTime < fromTime then addDays location toTime 1 else toTime
      fromTime < readings.now && readings.now < toTime

/-- The settings `blocktimes` and `timezone`, and the page for blocked hours. -/
structure TimeSettings where
  blocktimes : Bytes
  timezone : Bytes
  page : Bytes

section Handled

variable (loadLocation : Bytes → Option Location) (readings : Readings)
  (settings : TimeSettings)

/-- `TimeAccessHandler` as `main.go` installs it. -/
def timeAccessHandler : Verdict :=
  if runTimeFilter loadLocation readings settings.blocktimes settings.timezone then
    { response := settings.page }
  else {}

def Context.withTimes (ctx : Context) : Context :=
  { ctx with proxy := { ctx.proxy with
      timeAccessHandler := fun _ _ => timeAccessHandler loadLocation readings settings } }

/-! ## Reports of blocked hours -/

def Event.reportsTime : Event → Bool
  | .log entry => entry.action = .blockedTime
  | _ => false

structure TimeBlocked (page : Bytes) (trace : List Event) : Prop where
  answered : .write page ∈ trace ∨ .connWriteTLS page ∈ trace
  logged : ∃ event ∈ trace, event.reportsTime = true
  noUpstream : ∀ event ∈ trace, event.isUpstream = false

end Handled

def IsQuiet (event : Event) : Prop := event.reportsTime = false

theorem isQuiet_of_isRoutine (event : Event) (h : event.isRoutine = true) : IsQuiet event := by
  cases event with
  | log entry =>
    simp only [Event.isRoutine, decide_eq_true_eq] at h
    exact decide_eq_false h
  | _ => rfl

theorem emit_quiet {crash : Prop} {event : Event} (h : event.reportsTime = false) :
    Ensures (emit event) IsQuiet crash :=
  ensures_emit h trivial

variable (world : World)

theorem connectDirect_quiet {crash : Prop} (serverAddr : Bytes) :
    Ensures (connectDirect world serverAddr) IsQuiet crash := by
  unfold connectDirect
  split
  · exact (emit_quiet rfl).seq (emit_quiet rfl)
  · exact emit_quiet rfl

theorem bumpTransport_quiet (serverName serverAddr user : Bytes) :
    Ensures (bumpTransport world serverName serverAddr user) IsQuiet True := by
  unfold bumpTransport
  split
  · exact ensures_pure trivial
  · split
    · exact (connectDirect_quiet world serverAddr).seq ensures_stop
    · apply (emit_quiet rfl).seq
      split
      · exact ensures_crash trivial
      · exact (emit_quiet rfl).seq (ensures_pure trivial)
      · exact (connectDirect_quiet world serverAddr).seq ensures_stop

theorem sslBump_quiet (stream : Stream) (serverAddr user authUser : Bytes) :
    Ensures (sslBump world stream serverAddr user authUser none) IsQuiet True := by
  refine ensures_scope (ensures_recovering ?_ (emit_quiet rfl))
  have hparsed (clientHello : Bytes) :
      Ensures (bumpHello world serverAddr user authUser clientHello) IsQuiet True := by
    refine (clientHelloServerName_ensures clientHello).bind fun sni _ => ?_
    refine (bumpTransport_quiet world _ serverAddr user).bind fun rt _ => ?_
    split
    · exact emit_quiet rfl
    · exact emit_quiet rfl
  unfold bump
  dsimp only
  split
  · exact hparsed _
  · split
    · exact (emit_quiet rfl).seq ensures_stop
    · split
      · exact (emit_quiet rfl).seq ensures_stop
      · exact (connectDirect_quiet world serverAddr).seq ensures_stop

theorem divert_quiet (ctx : Context) (isHostLanAddress : Bool) (layer : Layer)
    (client : Bytes) (auth : AuthResult) (policy : Option PolicyDecision) (r : Request) :
    Ensures (divert ctx isHostLanAddress layer client auth policy r) IsQuiet True
      fun _ => IsPlain r := by
  apply divert_ensures isQuiet_of_isRoutine
  · intro _
    unfold handleSSLBump
    split
    · apply (failedHijack_ensures isQuiet_of_isRoutine _).seq
      exact sendBlockMessage_ensures isQuiet_of_isRoutine (fun _ => trivial) _ _
    · apply (emit_quiet rfl).seq
      apply (emit_quiet rfl).seq
      exact sslBump_quiet _ _ _ _ _
  · intro _
    unfold handleSSLConnectDirect
    split
    · exact failedHijack_ensures isQuiet_of_isRoutine _
    · apply (emit_quiet rfl).seq
      apply (emit_quiet rfl).seq
      exact connectDirect_quiet _ _
  · intro _
    unfold handleWebsocketConnection
    split
    · exact httpError_ensures isQuiet_of_isRoutine _ _
    · exact emit_quiet rfl
    · apply (emit_quiet rfl).seq
      refine ensures_optional (fun _ => ?_) ?_
      · exact (emit_quiet rfl).seq (emit_quiet rfl)
      · exact emit_quiet rfl

theorem serveHTTP_quiet {ctx : Context} (handler : ProxyHandler) (r : Request)
    (htime : ∀ url user, (ctx.proxy.timeAccessHandler url user).action ≠ some .blockedTime) :
    Ensures (serveHTTP ctx handler r) IsQuiet True := by
  apply ensures_scope
  refine (rewriteTransparent_ensures isQuiet_of_isRoutine ctx.proxy r).bind fun routed _ => ?_
  refine (completeURL_ensures isQuiet_of_isRoutine handler routed).bind fun completed _ => ?_
  refine (authenticate_ensures isQuiet_of_isRoutine (fun _ => trivial)
    (fun _ _ _ => trivial) _).bind fun auth _ => ?_
  apply process_ensures isQuiet_of_isRoutine (fun _ => trivial)
  · intro hblocked
    exact absurd hblocked (htime _ _)
  · exact fun _ => trivial
  · intro policy r' _
    exact divert_quiet _ _ _ _ _ _ _
  · intro exchange _ _
    exact forward_ensures isQuiet_of_isRoutine (fun _ => trivial) (fun _ => rfl)
      (fun _ _ => rfl) fun _ _ => trivial

theorem action_timeAccessHandler (loadLocation : Bytes → Option Location) (readings : Readings)
    (settings : TimeSettings) :
    (timeAccessHandler loadLocation readings settings).action = none := by
  unfold timeAccessHandler
  split
  · rfl
  · rfl

/-- The handler hands over the page and names no action, so `ServeHTTP` goes on: a request is
blocked as it should be only where there is nothing to block. -/
theorem blocked_hours_enforced_iff (loadLocation : Bytes → Option Location)
    (readings : Readings) (settings : TimeSettings) (ctx : Context) (handler : ProxyHandler)
    (r : Request) :
    (runTimeFilter loadLocation readings settings.blocktimes settings.timezone = true →
      TimeBlocked settings.page
        (serveHTTP (ctx.withTimes loadLocation readings settings) handler r).trace) ↔
      runTimeFilter loadLocation readings settings.blocktimes settings.timezone = false := by
  have hquiet : Ensures (serveHTTP (ctx.withTimes loadLocation readings settings) handler r)
      IsQuiet True := by
    apply serveHTTP_quiet
    intro url user hblocked
    cases (action_timeAccessHandler loadLocation readings settings).symm.trans hblocked
  constructor
  · intro henforced
    by_contra hblocked
    obtain ⟨event, hevent, hreports⟩ := (henforced (by simpa using hblocked)).logged
    cases hreports.symm.trans (hquiet.events event hevent)
  · intro hopen hblocked
    cases hopen.symm.trans hblocked

def blockedDay : TimeSettings where
  blocktimes := utf8 "\x7b\"fromhours\":8,\"tohours\":20\x7d"
  timezone := utf8 "UTC"
  page := utf8 "blocked"

def atNoon : Readings := ⟨12 * hour, 12 * hour, 12 * hour⟩

def noonRequest : Request where
  method := utf8 "GET"
  url := { scheme := utf8 "http", host := utf8 "example.org", path := utf8 "/" }
  host := utf8 "example.org"
  remoteAddr := utf8 "192.168.1.20:50000"
  header := []

/-- At noon, between eight and twenty, the request is sent to the server. -/
theorem blocked_hours_pass :
    runTimeFilter (fun _ => some utc) atNoon blockedDay.blocktimes blockedDay.timezone = true ∧
      .upstream .plain (utf8 "example.org") ∈ (serveHTTP
        (Context.withTimes (fun _ => some utc) atNoon blockedDay
          ⟨openProxy, openWorld noonRequest, .unsupported⟩) {} noonRequest).trace := by
  constructor
  · decide +kernel
  · decide +kernel

/-! ## Past midnight -/

abbrev IsClock (hours minutes : Int) : Prop :=
  0 ≤ hours ∧ hours < 24 ∧ 0 ≤ minutes ∧ minutes < 60

/-- `time.Date` finds every clock time of the day at the offset of the instant. -/
def Steady (location : Location) (now : Time) : Prop :=
  ∀ seconds, seconds / 86400 = localSeconds location now / 86400 →
    location.offset ((seconds - location.offset (seconds * second)) * second) =
      location.offset now

variable {location : Location}

theorem fromClock_of_steady {now : Time} (h : Steady location now) {seconds : Int}
    (hday : seconds / 86400 = localSeconds location now / 86400) (nanoseconds : Int) :
    fromClock location seconds nanoseconds =
      (seconds - location.offset now) * second + nanoseconds := by
  rw [fromClock, h seconds hday]

theorem getTime_of_steady {now reading : Time} (h : Steady location now)
    (hreading : localSeconds location reading / 60 = localSeconds location now / 60)
    {hours minutes : Int} (hclock : IsClock hours minutes) :
    ∃ x, 0 ≤ x ∧ x < minute ∧ getTime location reading hours minutes =
      (localSeconds location now / 86400 * 86400 - location.offset now) * second +
        (hours * 60 + minutes) * minute + x := by
  unfold IsClock at hclock
  refine ⟨localSeconds location reading % 60 * second + reading % second, ?_⟩
  rw [getTime, fromClock_of_steady h (by omega)]
  simp only [minute, second, Time]
  omega

/-- A setting whose period wraps is kept, outside the minutes of its ends, exactly while the
time of day lies after its end, and tomorrow's end, where it has begun, is ahead. -/
theorem runTimeFilter_circular_iff (loadLocation : Bytes → Option Location) (readings : Readings)
    (blockedtimes timezone : Bytes) {times : GSBlockTimes}
    (hzone : loadLocation timezone = some location)
    (htimes : Json.unmarshal decodeBlockTimes blockedtimes {} = some times)
    (hfrom : IsClock times.fromhours times.fromminutes)
    (hto : IsClock times.tohours times.tominutes) (hsteady : Steady location readings.now)
    (hreadings : ∀ reading ∈ [readings.nowFrom, readings.nowTo],
      localSeconds location reading / 60 = localSeconds location readings.now / 60)
    {start finish now : Int}
    (hstart : times.fromhours * 60 + times.fromminutes = start)
    (hfinish : times.tohours * 60 + times.tominutes = finish)
    (hnow : minuteOfDay location readings.now = now) (hdistinct : start ≠ finish)
    (houtside : now ≠ start ∧ now ≠ finish) :
    (runTimeFilter loadLocation readings blockedtimes timezone = true ↔
        (now - start) % 1440 < (finish - start) % 1440) ↔
      start < finish ∨ finish < now ∧ (start < now → readings.now <
        addDays location (getTime location readings.nowTo times.tohours times.tominutes) 1) := by
  simp only [List.mem_cons, List.not_mem_nil, or_false, forall_eq_or_imp, forall_eq] at hreadings
  obtain ⟨x, hx, hx', hfromTime⟩ := getTime_of_steady hsteady hreadings.1 hfrom
  obtain ⟨y, hy, hy', htoTime⟩ := getTime_of_steady hsteady hreadings.2 hto
  have hthis : readings.now = (localSeconds location readings.now / 86400 * 86400 -
      location.offset readings.now) * second + now * minute +
        (localSeconds location readings.now % 60 * second + readings.now % second) := by
    simp only [← hnow, minuteOfDay, minute, localSeconds, second, Time]
    omega
  rw [runTimeFilter, hzone]
  dsimp only
  rw [htimes, Bool.and_eq_true, decide_eq_true_eq, decide_eq_true_eq]
  generalize addDays location _ 1 = tomorrow
  unfold IsClock at hfrom hto
  unfold minuteOfDay at hnow
  split
  · simp only [minute, second, Time] at *
    omega
  · simp only [minute, second, Time] at *
    omega

def blockedNight : Bytes :=
  utf8 "\x7b\"fromhours\":21,\"tohours\":6,\"fromminutes\":30,\"tominutes\":45\x7d"

def readAt (t : Time) : Readings := ⟨t, t, t⟩

theorem runTimeFilter_late :
    runTimeFilter (fun _ => some utc) (readAt (22 * hour)) blockedNight [] = true := by
  have htimes : Json.unmarshal decodeBlockTimes blockedNight {} = some ⟨21, 6, 30, 45⟩ := by
    decide +kernel
  have hkept := runTimeFilter_circular_iff (fun _ => some utc) (readAt (22 * hour)) blockedNight []
    rfl htimes (by decide) (by decide) (fun _ _ => rfl) (by simp [readAt]) rfl rfl rfl
    (by decide) (by decide +kernel)
  exact (hkept.mpr (.inr (by decide +kernel))).mpr (by decide +kernel)

/-- Three hours after midnight the night is over, although it lasts until a quarter to
seven. -/
theorem runTimeFilter_small_hours :
    runTimeFilter (fun _ => some utc) (readAt (3 * hour)) blockedNight [] = false ∧
    (3 * 60 - (21 * 60 + 30) : Int) % 1440 < (6 * 60 + 45 - (21 * 60 + 30)) % 1440 := by
  decide +kernel

end GateSentry.Proxy
