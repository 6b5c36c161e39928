import GateSentry.Foundation.ByteText
import GateSentry.Foundation.Calendar
import GateSentry.Foundation.Dict
import GateSentry.Foundation.Threads

/-!
# The Tailscale manager

`manager.go` of the Tailscale collection.  A place of a thread lies before each critical
section of the manager's mutex, each channel operation and each end of a call, so that a
schedule may put any step of another thread between two of them.  The device store is the
applier; the manager keeps a record of what is called on it, the newest first.
-/

namespace GateSentry.Tailscale

open Foundation ByteText Calendar

structure Peer where
  nodeID : Bytes := []
  name : Bytes := []
  dnsName : Bytes := []
  addresses : List Bytes := []
  online : Bool := false
  lastSeen : Time := zeroTime
  wolMACs : List Bytes := []
  deriving DecidableEq

structure LocalStatus where
  backendState : Bytes := []
  self : Option Peer := none
  peers : List Peer := []

inductive ManagerStatus where
  | disabled
  | unavailable
  | connecting
  | connected
  | degraded
  | stopped
  deriving DecidableEq

inductive ManagerError where
  | nilContext
  | context
  | stopped
  | unavailable
  | request
  | backendUnavailable
  | applier

/-! ## What is called on the applier -/

inductive Clearing where
  | disabling
  | stopping
  deriving DecidableEq

inductive ApplierCall where
  | applyTailscaleSnapshot (peers : List Peer)
  | clearTailscaleObservations (clearing : Clearing)
  deriving DecidableEq

inductive Event where
  | begins (call : ApplierCall)
  | ends (call : ApplierCall)
  | takesEffect (enabled : Bool)
  | stopReturns
  deriving DecidableEq

def openCall : List Event → Option ApplierCall
  | [] => none
  | .begins call :: _ => some call
  | .ends _ :: _ => none
  | _ :: before => openCall before

def lastEffect : List Event → Bool
  | [] => false
  | .takesEffect enabled :: _ => enabled
  | _ :: before => lastEffect before

def lastCall : List Event → Option ApplierCall
  | [] => none
  | .begins call :: _ => some call
  | _ :: before => lastCall before

/-! ## The manager -/

abbrev Thread (ι : Type) := Option ι

/-- A `sync.Once`, with the thread that is inside it. -/
inductive Once (ι : Type) where
  | fresh
  | inside (thread : Thread ι)
  | finished

structure Manager (ι : Type) where
  enabled : Bool := false
  detected : Bool
  status : ManagerStatus := .disabled
  lastRefresh : Time := zeroTime
  self : Option Peer := none
  peers : Dict Bytes Peer := ∅
  stopped : Bool := false
  activeCancel : Option UInt64 := none
  activeSequence : UInt64 := 0
  transitionSequence : UInt64 := 0
  transitionToken : Option (Thread ι) := none
  stop : Bool := false
  done : Bool := false
  stopOnce : Once ι := .fresh
  trace : List Event := []

/-- What the surroundings decide at a step: whether the context has ended, which ready case
a `select` takes, whether the socket is there, what the LocalAPI and the applier answer. -/
inductive Case where
  | ctxDone
  | stop
  | transitionToken
  | tick

structure Answer where
  ended : Bool := false
  ready : Case := .transitionToken
  detected : Bool := true
  reply : Option LocalStatus := none
  applied : Bool := true
  now : Time := zeroTime

variable {ι : Type}

namespace Manager

def failureStatusLocked (m : Manager ι) : ManagerStatus :=
  if m.lastRefresh ≠ zeroTime ∨ m.self.isSome ∨ m.peers.keys ≠ [] then .degraded
  else .unavailable

def fail (m : Manager ι) : Manager ι :=
  if m.stopped then m else { m with status := m.failureStatusLocked }

def detect (m : Manager ι) (detected : Bool) : Manager ι :=
  let m := { m with detected := detected }
  if m.enabled && !detected && m.status != .stopped then
    { m with status := m.failureStatusLocked }
  else m

def record (m : Manager ι) (event : Event) : Manager ι :=
  { m with trace := event :: m.trace }

def peerMap (peers : List Peer) : Dict Bytes Peer :=
  Dict.assign ((peers.filter fun peer => !peer.nodeID.isEmpty).map fun peer =>
    (peer.nodeID, peer)) ∅

def publish (m : Manager ι) (status : LocalStatus) (now : Time) : Manager ι :=
  { m with
    peers := peerMap status.peers
    self := status.self
    lastRefresh := now
    detected := true
    status := .connected }

end Manager

/-! ## Refreshing -/

inductive RefreshAt where
  | checking
  | detecting
  | beginning
  | requesting (sequence : UInt64)
  | settling (sequence : UInt64) (reply : Option LocalStatus)
  | failing (err : ManagerError)
  | admitting (status : LocalStatus)
  | applying (status : LocalStatus)
  | inApplier (status : LocalStatus)
  | applied (status : LocalStatus) (ok : Bool)
  | publishing (status : LocalStatus)

inductive Refreshed where
  | goesOn (place : RefreshAt)
  | returns (err : Option ManagerError)

/-- `refreshLocked`.  Cancelling a request only hastens the answer of the LocalAPI. -/
def refreshLocked (m : Manager ι) (answer : Answer) : RefreshAt → Refreshed × Manager ι
  | .checking =>
    if m.enabled && !m.stopped then (.goesOn .detecting, m) else (.returns none, m)
  | .detecting =>
    let m := { m with detected := answer.detected }
    if !answer.detected then (.returns (some .unavailable), m.fail)
    else if m.stopped || !m.enabled then (.returns none, m)
    else (.goesOn .beginning, { m with status := .connecting })
  | .beginning =>
    if !m.enabled || m.stopped then (.returns none, m)
    else
      let sequence := m.activeSequence + 1
      (.goesOn (.requesting sequence),
        { m with activeSequence := sequence, activeCancel := some sequence })
  | .requesting sequence => (.goesOn (.settling sequence answer.reply), m)
  | .settling sequence reply =>
    let m :=
      if m.activeSequence = sequence then { m with activeCancel := none } else m
    if m.stopped then (.returns none, m)
    else
      match reply with
      | none => (.goesOn (.failing .request), m)
      | some status =>
        if status.backendState ≠ utf8 "Running" then
          (.goesOn (.failing .backendUnavailable), m)
        else (.goesOn (.admitting status), m)
  | .failing err => (.returns (some err), m.fail)
  | .admitting status =>
    if !m.enabled || m.stopped then (.returns none, m) else (.goesOn (.applying status), m)
  | .applying status =>
    (.goesOn (.inApplier status), m.record (.begins (.applyTailscaleSnapshot status.peers)))
  | .inApplier status =>
    (.goesOn (.applied status answer.applied),
      m.record (.ends (.applyTailscaleSnapshot status.peers)))
  | .applied status ok =>
    let m' := if !ok && !m.stopped then { m with status := .degraded } else m
    if m.stopped then (.returns none, m')
    else if !ok then (.returns (some .applier), m')
    else (.goesOn (.publishing status), m')
  | .publishing status =>
    if !m.enabled || m.stopped then (.returns none, m)
    else (.returns none, m.publish status answer.now)

/-! ## The threads -/

inductive SetEnabledAt where
  | entering
  | requesting
  | locking (sequence : UInt64)
  | rechecking (sequence : UInt64)
  | deciding (sequence : UInt64)
  | clearing
  | inApplier
  | refreshing (place : RefreshAt)
  | unlocking (err : Option ManagerError)
  | returned (err : Option ManagerError)

inductive RunAt where
  | selecting
  | locking
  | polling
  | refreshing (place : RefreshAt)
  | detecting
  | unlocking
  | returned

inductive StopAt where
  | entering
  | closing
  | marking
  | locking
  | draining
  | clearing
  | inApplier
  | unlocking
  | leaving
  | returned

inductive Place where
  | setEnabled (hasContext enabled : Bool) (place : SetEnabledAt)
  | run (place : RunAt)
  | stop (place : StopAt)

def setEnabled (thread : Thread ι) (hasContext enabled : Bool) (answer : Answer)
    (m : Manager ι) : SetEnabledAt → SetEnabledAt × Manager ι
  | .entering =>
    if !hasContext then (.returned (some .nilContext), m)
    else if answer.ended then (.returned (some .context), m)
    else (.requesting, m)
  | .requesting =>
    if m.stopped then (.returned (some .stopped), m)
    else
      let sequence := m.transitionSequence + 1
      (.locking sequence, { m with transitionSequence := sequence })
  | .locking sequence =>
    match answer.ready with
    | .ctxDone =>
      if answer.ended then (.returned (some .context), m) else (.locking sequence, m)
    | .stop =>
      if m.stop then (.returned (some .stopped), m) else (.locking sequence, m)
    | _ =>
      if m.transitionToken.isNone then
        (.rechecking sequence, { m with transitionToken := some thread })
      else (.locking sequence, m)
  | .rechecking sequence =>
    if answer.ended then (.unlocking (some .context), m) else (.deciding sequence, m)
  | .deciding sequence =>
    if m.stopped then (.unlocking (some .stopped), m)
    else if sequence ≠ m.transitionSequence then (.unlocking none, m)
    else if !enabled then
      (.clearing, Manager.record
        { m with enabled := false, status := .disabled, self := none, peers := ∅ }
        (.takesEffect false))
    else
      (.refreshing .checking, Manager.record
        { m with enabled := true, status := .connecting } (.takesEffect true))
  | .clearing => (.inApplier, m.record (.begins (.clearTailscaleObservations .disabling)))
  | .inApplier => (.unlocking none, m.record (.ends (.clearTailscaleObservations .disabling)))
  | .refreshing place =>
    match refreshLocked m answer place with
    | (.goesOn place, m) => (.refreshing place, m)
    | (.returns err, m) => (.unlocking err, m)
  | .unlocking err => (.returned err, { m with transitionToken := none })
  | .returned err => (.returned err, m)

def run (thread : Thread ι) (answer : Answer) (m : Manager ι) : RunAt → RunAt × Manager ι
  | .selecting =>
    match answer.ready with
    | .tick => (.locking, m)
    | _ => if m.stop then (.returned, { m with done := true }) else (.selecting, m)
  | .locking =>
    match answer.ready with
    | .transitionToken =>
      if m.transitionToken.isNone then
        (.polling, { m with transitionToken := some thread })
      else (.locking, m)
    | _ => if m.stop then (.returned, { m with done := true }) else (.locking, m)
  | .polling => if m.enabled && !m.stopped then (.refreshing .checking, m) else (.detecting, m)
  | .refreshing place =>
    match refreshLocked m answer place with
    | (.goesOn place, m) => (.refreshing place, m)
    | (.returns _, m) => (.unlocking, m)
  | .detecting => (.unlocking, m.detect answer.detected)
  | .unlocking => (.selecting, { m with transitionToken := none })
  | .returned => (.returned, m)

/-- The first caller is inside the `Once`; the others wait for it to finish. -/
def stop (thread : Thread ι) (m : Manager ι) : StopAt → StopAt × Manager ι
  | .entering =>
    match m.stopOnce with
    | .fresh => (.closing, { m with stopOnce := .inside thread })
    | .inside _ => (.entering, m)
    | .finished => (.returned, m.record .stopReturns)
  | .closing => (.marking, { m with stop := true })
  | .marking =>
    (.locking, { m with
      stopped := true
      enabled := false
      status := .stopped
      self := none
      peers := ∅ })
  | .locking =>
    if m.transitionToken.isNone then (.draining, { m with transitionToken := some thread })
    else (.locking, m)
  | .draining => if m.done then (.clearing, m) else (.draining, m)
  | .clearing => (.inApplier, m.record (.begins (.clearTailscaleObservations .stopping)))
  | .inApplier => (.unlocking, m.record (.ends (.clearTailscaleObservations .stopping)))
  | .unlocking => (.leaving, { m with transitionToken := none })
  | .leaving => (.returned, Manager.record { m with stopOnce := .finished } .stopReturns)
  | .returned => (.returned, m)

def move (thread : Thread ι) (answer : Answer) : Place → Manager ι → Place × Manager ι
  | .setEnabled hasContext enabled place, m =>
    let next := setEnabled thread hasContext enabled answer m place
    (.setEnabled hasContext enabled next.1, next.2)
  | .run place, m =>
    let next := run thread answer m place
    (.run next.1, next.2)
  | .stop place, m =>
    let next := stop thread m place
    (.stop next.1, next.2)

inductive Call where
  | setEnabled (hasContext enabled : Bool)
  | stop

def Call.start : Call → Place
  | .setEnabled hasContext enabled => .setEnabled hasContext enabled .entering
  | .stop => .stop .entering

def newManager (detected : Bool) (calls : ι → Call) : Threads (Thread ι) Place (Manager ι) where
  state := { detected := detected }
  place := fun
    | none => .run .selecting
    | some i => (calls i).start

end GateSentry.Tailscale
