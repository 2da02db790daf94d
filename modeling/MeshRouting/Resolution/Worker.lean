import MeshRouting.Report.Metric
import MeshRouting.Report.Notice
import MeshRouting.Resolution.Mailbox
import MeshRouting.Routing.Pool
import MeshRouting.Routing.ServiceConfig

/-!
# Resolver workers

A worker is the one consumer of a mailbox. It turns envelopes into states for the sink: a service
config for the clusters in use, and the selector that routes calls. A new selector replaces the
old one only once it has been published, and the old one is stopped after that.
-/
namespace MeshRouting

inductive ResolverError where
  | clientCreation (reason : String)
  | missingCertificateProviders
  | serialization (reason : String)
  | invalidUpdate (e : SelectorError)
  | watch (e : WatchError)
  deriving DecidableEq, Repr

def ResolverError.message : ResolverError → String
  | clientCreation reason => s!"failed to create discovery client: {reason}"
  | missingCertificateProviders =>
    "xDS credentials specified but bootstrap has no certificate providers"
  | serialization reason => s!"failed to generate service config: {reason}"
  | invalidUpdate e => s!"invalid service update: {e.message}"
  | watch e => s!"watch error: {e.text}"

/-- What the sink is given; without a selector every pick fails. -/
structure ResolverState where
  config : String
  selector : Option Nat
  deriving DecidableEq, Repr

/-- What a worker does besides changing its own state, in order. -/
inductive WorkerEffect where
  | notice (n : Notice)
  | metric (m : Metric)
  | encoded (answer : Except String String)
  | stopped (selector : Nat)
  | state (s : ResolverState)
  | failure (e : ResolverError)
  deriving Repr

structure Worker where
  endpoint : String
  pool : Pool
  mailbox : Mailbox
  current : Option Nat
  exited : Bool
  deriving Repr

namespace Worker

open ServiceConfig

/-- The number of the worker among the consumers of its mailbox. -/
def consumer : Nat := 0

/-- A worker that is about to look into its mailbox for the first time. -/
def start (endpoint : String) : Worker :=
  ⟨endpoint, .empty, Mailbox.spawn {} consumer, none, false⟩

/-- A cluster that lost its last reference asks for the state to be published again. -/
def afterRelease (w : Worker) (outcomes : List Released) : Worker :=
  if Pool.drained outcomes then { w with mailbox := w.mailbox.nudge.1 } else w

/-- Stop a selector; a second stop of the same one is only logged. -/
def stop (w : Worker) (s : Nat) : Worker × List WorkerEffect :=
  match w.pool.stop s with
  | (pool, .first outcomes) => ({ w with pool }.afterRelease outcomes, [.stopped s])
  | (pool, .again) => ({ w with pool }, [.stopped s, .notice .stoppedAgain])

def stopCurrent (w : Worker) : Worker × List WorkerEffect :=
  match w.current with
  | none => (w, [])
  | some s => { w with current := none }.stop s

def retain (w : Worker) (s : Nat) : Option (Worker × Nat) :=
  (w.pool.retain s).map fun (pool, lease) => ({ w with pool }, lease)

def dropLease (w : Worker) (lease : Nat) : Option Worker :=
  (w.pool.dropLease lease).map fun (pool, outcomes) => { w with pool }.afterRelease outcomes

def prune (w : Worker) : Worker × List WorkerEffect :=
  ({ w with pool := w.pool.prune },
    match w.pool.table.unreferenced with
    | [] => []
    | names => [.notice (.clustersPruned names)])

/-- The service config for a selector: empty if there is neither a selector nor a cluster. -/
def configFor (encode : Encoder) (w : Worker) (selector : Option Nat) :
    Except String String × List WorkerEffect :=
  if selector.isNone && w.pool.table.isEmpty then (.ok emptyConfig, [])
  else match encode w.pool.table with
    | .ok config =>
      (.ok config, [.encoded (.ok config),
        .notice (.configPublished w.endpoint w.pool.table.size config)])
    | .error reason =>
      (.error reason, [.encoded (.error reason), .notice (.configFailed w.endpoint reason)])

/-- Hand a state to the sink, or the reason why there is none. -/
def deliver (w : Worker) (selector : Option Nat) : Except String String → List WorkerEffect
  | .ok config => [.metric (.activeClusters w.pool.table.size), .state ⟨config, selector⟩]
  | .error reason => [.metric .serializationFailure, .failure (.serialization reason)]

/-- Prune, encode and deliver; the flag says whether a state was delivered. -/
def publish (encode : Encoder) (w : Worker) (selector : Option Nat) :
    Worker × List WorkerEffect × Bool :=
  let (w, pruned) := w.prune
  let (config, encoded) := w.configFor encode selector
  (w, pruned ++ encoded ++ w.deliver selector config, config.toBool)

def handleNotFound (encode : Encoder) (w : Worker) (e : WatchError) :
    Worker × List WorkerEffect :=
  let (w, published, _) := w.publish encode none
  let (w, stopped) := w.stopCurrent
  (w, .notice (.serviceRemoved w.endpoint e.text) :: published ++ stopped)

def handleTrouble (w : Worker) (e : WatchError) : Worker × List WorkerEffect :=
  (w, [.notice (.serviceTrouble w.endpoint e.text), .failure (.watch e)])

def handleRepublish (encode : Encoder) (w : Worker) : Worker × List WorkerEffect :=
  let (w, published, _) := w.publish encode w.current
  (w, published)

def reject (w : Worker) (e : SelectorError) : Worker × List WorkerEffect :=
  (w, [.notice (.serviceRejected w.endpoint e.message), .failure (.invalidUpdate e)])

/-- Publish a new selector, then stop the old one; a selector that cannot be published is
stopped itself. -/
def install (encode : Encoder) (w : Worker) (s : Nat) : Worker × List WorkerEffect :=
  match w.publish encode (some s) with
  | (w, published, false) =>
    let (w, stopped) := w.stop s
    (w, published ++ stopped)
  | (w, published, true) =>
    let (w, stopped) := w.stopCurrent
    ({ w with current := some s }, published ++ stopped)

def handleService (encode : Encoder) (w : Worker) (update : ServiceUpdate) :
    Worker × List WorkerEffect :=
  match w.pool.build update with
  | .error e => w.reject e
  | .ok (pool, s) => { w with pool }.install encode s

def react (encode : Encoder) (w : Worker) : Envelope → Worker × List WorkerEffect
  | .service update => w.handleService encode update
  | .republish => w.handleRepublish encode
  | .error e => if e.isNotFound then w.handleNotFound encode e else w.handleTrouble e

def handle (encode : Encoder) (w : Worker) (e : Envelope) : Worker × List WorkerEffect :=
  let (w, effects) := w.react encode e
  (w, .metric (.resolverUpdate e.kind) :: effects)

def exit (w : Worker) : Worker × List WorkerEffect :=
  let (w, stopped) := w.stopCurrent
  ({ w with exited := true }, stopped ++ [.notice (.workerExited w.endpoint)])

def isBusy (w : Worker) : Bool := !w.mailbox.runnable.isEmpty

/-- One turn of a busy worker: it handles an envelope, starts to wait, or ends. -/
def turn (encode : Encoder) (w : Worker) : Worker × List WorkerEffect :=
  match w.mailbox.runNext with
  | (_, none) => (w, [])
  | (mailbox, some (_, .nothing)) => ({ w with mailbox }, [])
  | (mailbox, some (_, .over)) => { w with mailbox }.exit
  | (mailbox, some (worker, .taken e)) =>
    { w with mailbox := { mailbox with runnable := worker :: mailbox.runnable } }.handle encode e

/-- Turns that a worker needs at most before it waits: an envelope may leave a marker behind. -/
def turnsToIdle (w : Worker) : Nat :=
  match w.mailbox.slot with
  | none => 1
  | some .republish => 2
  | some _ => 3

end Worker
end MeshRouting
