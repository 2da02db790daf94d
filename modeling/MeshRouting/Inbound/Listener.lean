import MeshRouting.Discovery.Registry
import MeshRouting.Filter.ChainSet
import MeshRouting.Inbound.ReadinessGate
import MeshRouting.Inbound.ReadySignal
import MeshRouting.Report.Metric
import MeshRouting.Report.Notice

/-!
# Listeners

A listener watches its own resource on a discovery client, and the route configurations that its
filter chains name. What the watches deliver is queued and taken one event at a time. Each
accepted listener update starts a generation, which is ready when every dynamic route it needs
has been received. The listener serves while its newest configuration is complete.
-/
namespace MeshRouting

/-- Who a watch of a listener delivers to; route watches are numbered, so that a delivery of an
ended watch can be told from one of its successor. -/
inductive WatchOwner where
  | listener
  | route (name : String) (watch : Nat)
  deriving DecidableEq, Repr

inductive ControlEvent where
  | listener (result : Except WatchError ListenerUpdate)
  | route (name : String) (watch : Nat) (result : Except WatchError RouteConfig)
  deriving Repr

structure RouteWatch where
  number : Nat
  handle : WatchHandle
  deriving DecidableEq, Repr

/-- `reportsMode` says whether anyone is told about changes of the serving mode. -/
structure Listener where
  address : Endpoint
  resource : String
  reportsMode : Bool
  client : Registry WatchOwner
  listenerWatch : Option WatchHandle
  routeWatches : NameMap RouteWatch
  lastWatch : Nat
  generation : Nat
  gate : Option ReadinessGate
  chains : Option ChainSet
  routes : NameMap RouteConfig
  mode : ServingMode
  ready : ReadySignal
  events : List ControlEvent
  closed : Bool
  exited : Bool

/-- What a listener does besides changing its own state, in order. -/
inductive ListenerEffect where
  | notice (n : Notice)
  | metric (m : Metric)
  | modeReported (mode : ServingMode) (error : Option String)
  | fired (generation : Nat)
  deriving Repr

namespace Listener

abbrev Outcome := Listener × List ListenerEffect

def andThen (o : Outcome) (next : Listener → Outcome) : Outcome :=
  let (l, more) := next o.1
  (l, o.2 ++ more)

def say (l : Listener) (n : Notice) : Outcome := (l, [.notice n])

def forEach (step : Listener → String → Outcome) : List String → Listener → Outcome
  | [], l => (l, [])
  | name :: rest, l => andThen (step l name) (forEach step rest)

def start (client : Registry WatchOwner) (address : Endpoint) (resource : String)
    (reportsMode : Bool) : Outcome :=
  let (client, handle) := client.watch .listener resource .listener
  say
    { address, resource, reportsMode, client
      listenerWatch := some handle
      routeWatches := .empty
      lastWatch := 0
      generation := 0
      gate := none
      chains := none
      routes := .empty
      mode := .starting
      ready := {}
      events := []
      closed := false
      exited := false }
    (.listenerWatching address resource)

/-- Enter a mode; only staying in the serving mode is no change. -/
def switchMode (l : Listener) (mode : ServingMode) (error : Option String) : Outcome :=
  if l.mode = .serving ∧ mode = .serving then (l, [])
  else
    ({ l with mode },
      [.metric (.serving l.address (mode == .serving)),
        .notice (.modeChanged l.address l.mode mode error)] ++
        if l.reportsMode then [.modeReported mode error] else [])

/-- End the watch of a route and forget what it delivered. -/
def unwatchRoute (l : Listener) (name : String) : Outcome :=
  match l.routeWatches.find? name with
  | none => (l, [])
  | some watch =>
    say
      { l with
        client := l.client.cancel watch.handle
        routeWatches := l.routeWatches.erase name
        routes := l.routes.erase name }
      (.routeUnwatched name)

def watchRoute (l : Listener) (name : String) : Outcome :=
  if l.routeWatches.contains name then (l, [])
  else
    let number := l.lastWatch + 1
    let (client, handle) := l.client.watch .route name (.route name number)
    say
      { l with
        client
        lastWatch := number
        routeWatches := l.routeWatches.insert name ⟨number, handle⟩ }
      (.routeWatching name number)

/-- Watch exactly the required routes; a closed listener changes no watches. -/
def updateRouteWatches (l : Listener) (required : NameSet) : Outcome :=
  if l.closed then (l, [])
  else
    let stale := l.routeWatches.keys.filter fun name => name ∉ required
    andThen (forEach unwatchRoute stale l) (forEach watchRoute required.toList)

/-- Forget the current generation, so that no route can bring it back. -/
def dropConfiguration (l : Listener) : Outcome :=
  { l with chains := none, gate := none }.updateRouteWatches .empty

/-- Whether every dynamic route of the installed chains has been received. -/
def isComplete (l : Listener) : Bool :=
  l.chains.any fun chains => chains.routeNames.toList.all l.routes.contains

/-- Serve if the configuration is complete, once the gate has opened. -/
def serveIfComplete (l : Listener) : Outcome :=
  if l.isComplete then l.switchMode .serving none else (l, [])

def fire (l : Listener) (generation : Nat) : Outcome :=
  ({ l with ready := l.ready.fire generation },
    [.notice (.listenerReady l.address generation), .fired generation])

/-- Open the gate if nothing is outstanding; an open gate lets the listener serve. -/
def checkReady (l : Listener) : Outcome :=
  match l.gate with
  | none => (l, [])
  | some gate =>
    let (gate, opened) := gate.takeReady
    let l := { l with gate := some gate }
    if gate.fired then
      andThen l.serveIfComplete fun l => if opened then l.fire gate.generation else (l, [])
    else (l, [])

/-- Whether an update is meant for the address that the listener is bound to. -/
def isBoundTo (l : Listener) (update : ListenerUpdate) : Bool :=
  update.ip.canonical == l.address.ip.canonical && update.port == l.address.port

def mismatchMessage (l : Listener) (update : ListenerUpdate) : String :=
  s!"listener resource address {update.ip.text}:{update.port} does not match bound address " ++
    l.address.text

def withdraw (l : Listener) (error : String) : Outcome :=
  andThen l.dropConfiguration (·.switchMode .notServing (some error))

/-- The routes of the installed generation that have not been received. -/
def missingRoutes (l : Listener) (required : NameSet) : List String :=
  required.toList.filter fun name => !l.routes.contains name

/-- Install the chains of an accepted update as a new generation. -/
def install (l : Listener) (chains : ChainSet) : Outcome :=
  let required := chains.routeNames
  let counted := { l with generation := l.generation + 1 }
  andThen (counted.updateRouteWatches required) fun l =>
    let gate := ReadinessGate.make l.generation (l.missingRoutes required)
    andThen
      (say { l with chains := some chains, gate := some gate }
        (.listenerUpdated l.address l.generation required.size gate.outstanding.size))
      checkReady

def onUpdate (l : Listener) (update : ListenerUpdate) : Outcome :=
  if l.isBoundTo update then
    match ChainSet.make? update.chains update.fallback with
    | .error e => l.say (.listenerRejected l.resource e.message)
    | .ok chains => l.install chains
  else
    andThen (l.say (.listenerMismatch l.resource (l.mismatchMessage update)))
      (·.withdraw (l.mismatchMessage update))

def onListener (l : Listener) : Except WatchError ListenerUpdate → Outcome
  | .ok update => l.onUpdate update
  | .error e =>
    if e.isNotFound then andThen (l.say (.listenerRemoved l.resource e.text)) (·.withdraw e.text)
    else l.say (.listenerTrouble l.resource e.text)

/-- Keep a received route and see whether that was the last one missing. -/
def storeRoute (l : Listener) (name : String) (config : RouteConfig) : Outcome :=
  let stored := { l with
    routes := l.routes.insert name config
    gate := l.gate.map fun (gate : ReadinessGate) => (gate.resolve name).1 }
  andThen (stored.say (.routeReceived name l.generation)) checkReady

def loseRoute (l : Listener) (name : String) (e : WatchError) : Outcome :=
  andThen ({ l with routes := l.routes.erase name }.say (.routeRemoved name e.text))
    (·.switchMode .notServing (some e.text))

/-- A delivery counts only if it comes from the watch in force. -/
def onRoute (l : Listener) (name : String) (watch : Nat) (result : Except WatchError RouteConfig) :
    Outcome :=
  if (l.routeWatches.find? name).map (·.number) ≠ some watch then l.say (.routeStale name watch)
  else match result with
    | .ok config => l.storeRoute name config
    | .error e =>
      if e.isNotFound then l.loseRoute name e else l.say (.routeTrouble name e.text)

def onEvent (l : Listener) : ControlEvent → Outcome
  | .listener result => l.onListener result
  | .route name watch result => l.onRoute name watch result

def takeEvent (l : Listener) : Outcome :=
  match l.events with
  | [] => (l, [])
  | event :: rest => { l with events := rest }.onEvent event

def takeEvents : Nat → Listener → Outcome
  | 0, l => (l, [])
  | count + 1, l => andThen l.takeEvent (takeEvents count)

def exit (l : Listener) : Outcome :=
  if l.closed && !l.exited then
    { l with exited := true, ready := l.ready.finish }.say (.controlExited l.address)
  else (l, [])

/-- What one watch delivers waits for its turn, unless the control loop has ended. -/
def enqueue (l : Listener) (event : ControlEvent) : Listener :=
  if l.exited then l else { l with events := l.events ++ [event] }

/-- Deliver the listener resource of a name; the answer is the number of watches reached. -/
def pushListener (l : Listener) (name : String) (result : Except WatchError ListenerUpdate) :
    Listener × Nat :=
  let owners := l.client.receivers .listener name
  (owners.foldl (fun l _ => l.enqueue (.listener result)) l, owners.length)

def routeEvent? (result : Except WatchError RouteConfig) : WatchOwner → Option ControlEvent
  | .listener => none
  | .route name watch => some (.route name watch result)

/-- Deliver the route configuration of a name; the answer is the number of watches reached. -/
def pushRoute (l : Listener) (name : String) (result : Except WatchError RouteConfig) :
    Listener × Nat :=
  let owners := l.client.receivers .route name
  ((owners.filterMap (routeEvent? result)).foldl enqueue l, owners.length)

def settle (l : Listener) : Outcome :=
  if l.closed then l.exit else takeEvents l.events.length l

def cancelAll (l : Listener) : Listener :=
  { l with
    client := l.routeWatches.entries.foldl (fun client entry => client.cancel entry.2.handle) <|
      l.listenerWatch.elim l.client l.client.cancel
    listenerWatch := none
    routeWatches := .empty }

/-- End every watch at once; a second close does nothing. -/
def close (l : Listener) : Outcome :=
  if l.closed then (l, [])
  else
    { l with closed := true }.cancelAll.say
      (.listenerClosed l.address l.resource l.routeWatches.size)

/-- Close the discovery client under the listener; only the first close is logged. -/
def closeClient (l : Listener) : Outcome :=
  ({ l with client := l.client.close },
    if l.client.closed then [] else [.notice .clientClosed])

end Listener
end MeshRouting
