import GateSentry.Dns.Lifecycle

/-!
# The controller of the DNS server

`DNSServerThread` of `dns.go`: one goroutine takes the messages, launches the server in a
goroutine of its own and stops it.  It remembers the goroutine by the channel `serverDone`.
-/

namespace GateSentry.Dns

open Foundation

inductive ControllerCaller where
  | server (n : Nat)
  | stop (n : Nat)
  deriving DecidableEq

def ControllerCaller.call : ControllerCaller → LifecycleCall
  | .server _ => .startDNSServerWithReady
  | .stop _ => .stopDNSServer

/-- Where the controller waits; `leave` after the context is done. -/
inductive ControllerAt where
  | selecting
  | starting (n : Nat)
  | stopping (n call : Nat) (leave : Bool)
  | joining (n : Nat) (leave : Bool)
  | returned
  deriving DecidableEq

structure Controller where
  place : ControllerAt := .selecting
  serverDone : Option Nat := none
  launched : Nat := 0
  stops : Nat := 0
  threads : Threads (DnsThread ControllerCaller) LifecycleAt (Lifecycle ControllerCaller) :=
    idleServer ControllerCaller.call

inductive ControllerEvent where
  | message (msg : Int)
  | contextDone
  | thread (thread : DnsThread ControllerCaller) (answer : LifecycleAnswer)
  | proceed

namespace Controller

def startServer (c : Controller) : Controller :=
  if c.serverDone.isSome then c
  else
    { c with
      place := .starting c.launched
      serverDone := some c.launched
      launched := c.launched + 1 }

def stopServer (c : Controller) (leave : Bool) : Controller :=
  match c.serverDone with
  | none => { c with place := if leave then .returned else .selecting }
  | some n => { c with place := .stopping n c.stops leave, stops := c.stops + 1 }

def active (c : Controller) : DnsThread ControllerCaller → Bool
  | .caller (.server n) => n < c.launched
  | .caller (.stop n) => n < c.stops
  | .tcp (.server n) => n < c.launched
  | .tcp (.stop _) => false

def proceed (c : Controller) : Option Controller :=
  match c.place with
  | .starting n =>
    if c.threads.state.ready (.server n) then some { c with place := .selecting } else none
  | .stopping n call leave =>
    if c.threads.place (.caller (.stop call)) = .stop .returned then
      some { c with place := .joining n leave }
    else none
  | .joining n leave =>
    if c.threads.place (.caller (.server n)) = .start .returned then
      some { c with place := if leave then .returned else .selecting, serverDone := none }
    else none
  | _ => none

def step (c : Controller) : ControllerEvent → Option Controller
  | .message msg =>
    if c.place = .selecting then
      some (if msg = 1 then c.startServer else if msg = 2 then c.stopServer false else c)
    else none
  | .contextDone => if c.place = .selecting then some (c.stopServer true) else none
  | .thread thread answer =>
    if c.active thread then some { c with threads := c.threads.step lifecycleMove thread answer }
    else none
  | .proceed => c.proceed

def run (events : List ControllerEvent) : Option Controller :=
  events.foldlM step {}

def noneRunning (c : Controller) : Bool :=
  (List.range c.launched).all fun n =>
    c.threads.place (.caller (.server n)) = .start .returned

end Controller

def ControllerEvent.request : ControllerEvent → Option Int
  | .message msg => if msg = 1 ∨ msg = 2 then some msg else none
  | _ => none

def lastRequest (events : List ControllerEvent) : Option Int :=
  events.foldl (fun last event => event.request.or last) none

/-- What `serverDone` says about the last message. -/
def Controller.Remembers (c : Controller) (last : Option Int) : Prop :=
  match c.place with
  | .selecting => c.serverDone.isSome = true ↔ last = some 1
  | .starting _ => c.serverDone.isSome = true ∧ last = some 1
  | .stopping _ _ leave => leave = true ∨ last = some 2
  | .joining _ leave => leave = true ∨ last = some 2
  | .returned => True

namespace Controller

variable {c c' : Controller} {last : Option Int}

section

variable (h : c.Remembers last)

include h

theorem Remembers.message (hplace : c.place = .selecting) (msg : Int) :
    (if msg = 1 then c.startServer else if msg = 2 then c.stopServer false else c).Remembers
      ((ControllerEvent.message msg).request.or last) := by
  by_cases hstart : msg = 1
  · subst hstart
    cases hserver : c.serverDone with
    | none => simp [startServer, hserver, Remembers, ControllerEvent.request]
    | some n => simp [startServer, hserver, Remembers, hplace, ControllerEvent.request]
  · by_cases hstop : msg = 2
    · subst hstop
      cases hserver : c.serverDone with
      | none | some => simp [stopServer, hserver, Remembers, ControllerEvent.request]
    · simpa [hstart, hstop, ControllerEvent.request] using h

theorem Remembers.proceed (hstep : c.proceed = some c') : c'.Remembers last := by
  unfold Controller.proceed at hstep
  unfold Remembers at h
  split at hstep
  · next n hplace =>
    simp only [hplace] at h
    obtain ⟨-, hnext⟩ := Option.ite_none_right_eq_some.mp hstep
    cases hnext
    simp [Remembers, h.1, h.2]
  · next n call leave hplace =>
    simp only [hplace] at h
    obtain ⟨-, hnext⟩ := Option.ite_none_right_eq_some.mp hstep
    cases hnext
    exact h
  · next n leave hplace =>
    simp only [hplace] at h
    obtain ⟨-, hnext⟩ := Option.ite_none_right_eq_some.mp hstep
    cases hnext
    cases leave with
    | true => trivial
    | false => simp [Remembers, h.resolve_left]
  · cases hstep

theorem Remembers.step {event : ControllerEvent} (hstep : c.step event = some c') :
    c'.Remembers (event.request.or last) := by
  cases event with
  | message msg =>
    obtain ⟨hplace, hnext⟩ := Option.ite_none_right_eq_some.mp hstep
    cases hnext
    exact h.message hplace msg
  | contextDone =>
    obtain ⟨hplace, hnext⟩ := Option.ite_none_right_eq_some.mp hstep
    cases hnext
    cases hserver : c.serverDone with
    | none | some => simp [stopServer, hserver, Remembers]
  | thread thread answer =>
    obtain ⟨-, hnext⟩ := Option.ite_none_right_eq_some.mp hstep
    cases hnext
    exact h
  | proceed => exact h.proceed hstep

theorem Remembers.run {events : List ControllerEvent}
    (hrun : events.foldlM Controller.step c = some c') :
    c'.Remembers (events.foldl (fun last event => event.request.or last) last) := by
  induction events generalizing c last with
  | nil =>
    cases hrun
    exact h
  | cons event rest ih =>
    obtain ⟨next, hstep, hrest⟩ := Option.bind_eq_some_iff.mp hrun
    exact ih (h.step hstep) hrest

end

end Controller

/-- Processing a start message launches a server exactly when the last message that the
controller acted on was not a start. -/
theorem start_launches_iff (events : List ControllerEvent) {c : Controller}
    (hrun : Controller.run events = some c) (hplace : c.place = .selecting) :
    (∃ c', c.step (.message 1) = some c' ∧ c'.launched = c.launched + 1) ↔
      lastRequest events ≠ some 1 := by
  have hstart : Controller.Remembers {} none := by simp [Controller.Remembers]
  have hdone := hstart.run hrun
  simp only [Controller.Remembers, hplace] at hdone
  unfold lastRequest
  rw [Ne, ← hdone]
  cases hserver : c.serverDone with
  | none | some => simp [Controller.step, Controller.startServer, hplace, hserver]

def startWithoutPort : List ControllerEvent :=
  .message 1 :: List.replicate 12 (.thread (.caller (.server 0)) { bound := false }) ++ [.proceed]

def failedStartThenStop : List ControllerEvent :=
  startWithoutPort ++ .message 2 ::
    List.replicate 8 (.thread (.caller (.stop 0)) { bound := false }) ++ [.proceed, .proceed]

/-- A stop after a failed start lets the next start launch a server. -/
theorem start_launches_iff_failedStartThenStop :
    let c := (Controller.run failedStartThenStop).get (by decide +kernel)
    c.launched = 1 ∧ c.noneRunning ∧
      ∃ c', c.step (.message 1) = some c' ∧ c'.launched = c.launched + 1 := by
  refine ⟨by decide +kernel, by decide +kernel, ?_⟩
  apply (start_launches_iff failedStartThenStop (Option.some_get _).symm (by decide +kernel)).mpr
  decide

/-- After a failed start no server is running, and a start message launches none. -/
theorem start_after_failed_start : (Controller.run startWithoutPort).map
        (fun c => (decide (c.place = .selecting), c.launched, c.noneRunning)) =
      some (true, 1, true) ∧
    (Controller.run (startWithoutPort ++ [.message 1])).map
        (fun c => (c.launched, c.noneRunning)) = some (1, true) := by
  decide +kernel

end GateSentry.Dns
