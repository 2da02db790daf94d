import MeshRouting.Inbound.Server
import MeshRouting.Session.Trace

/-!
# Listener sessions

A listener and its accept calls driven step by step, with connections and errors that arrive at
its socket and a clock that is moved by hand. Connections that were handed out are held until
they are dropped.
-/
namespace MeshRouting

inductive ListenerOp where
  | pushListener (name : Option String) (result : Except WatchError ListenerUpdate)
  | pushRoute (name : String) (result : Except WatchError RouteConfig)
  | settle
  | connect (localEnd remoteEnd : Except String Endpoint)
  | fail (e : IoError)
  | accept
  | advance (ms : Nat)
  | tryReady
  | ready
  | routeConfig (held : Nat)
  | intoInner (held : Nat)
  | dropConnection (held : Nat)
  | address
  | closeClient
  | close
  deriving Repr

inductive ListenerAnswer where
  | done
  | unknown
  | number (value : Option Nat)
  | waited (found : ReadySignal.Wait)
  | route (config : Option RouteConfig)
  | flag (value : Bool)
  | addressed (address : Endpoint) (resource : String)
  deriving Repr

/-- A finished accept call; a connection that was handed out is held under a number. -/
structure FinishedCall where
  call : Nat
  result : Except ListenerError (Nat × ServedConnection)
  route : Option RouteConfig
  deriving Repr

structure ListenerActivity where
  finished : List (Nat × Except ListenerError ServedConnection) := []
  looks : Nat := 0
  dropped : List Nat := []
  attempts : List Nat := []
  modes : List (ServingMode × Option String) := []

/-- Connections and accept calls are numbered in order of creation. -/
structure ListenerSession where
  server : InboundServer
  connections : Nat := 0
  calls : Nat := 0
  held : List (Option ServedConnection) := []
  activity : ListenerActivity := {}
  trace : Trace := {}

structure ListenerStep where
  answer : ListenerAnswer
  finished : List FinishedCall
  activity : ListenerActivity
  events : List WatchEvent
  mode : ServingMode
  watched : List String
  notices : List Notice

namespace ListenerSession

def listener (s : ListenerSession) : Listener := s.server.listener

def update (s : ListenerSession) (listener : Listener) : ListenerSession :=
  { s with server := { s.server with listener } }

def say (s : ListenerSession) (n : Notice) : ListenerSession :=
  { s with trace := s.trace.addNotices [n] }

def count (s : ListenerSession) (m : Metric) : ListenerSession :=
  { s with trace := s.trace.addMetrics [m] }

def note (s : ListenerSession) (change : ListenerActivity → ListenerActivity) : ListenerSession :=
  { s with activity := change s.activity }

def recordControl (s : ListenerSession) : ListenerEffect → ListenerSession
  | .notice n => s.say n
  | .metric m => s.count m
  | .modeReported mode error =>
    s.note fun a => { a with modes := a.modes ++ [(mode, error)] }
  | .fired _ => s

def recordQueue (s : ListenerSession) : QueueEffect → ListenerSession
  | .effect (.notice n) => s.say n
  | .effect (.metric m) => s.count m
  | .effect (.delayed attempt) => s.note fun a => { a with attempts := a.attempts ++ [attempt] }
  | .effect (.dropped c) => s.note fun a => { a with dropped := a.dropped ++ [c] }
  | .looked => s.note fun a => { a with looks := a.looks + 1 }
  | .finished call result =>
    s.note fun a => { a with finished := a.finished ++ [(call, result)] }
  | .woken _ | .stoodAside _ => s

def record (s : ListenerSession) : ServerEffect → ListenerSession
  | .control e => s.recordControl e
  | .queue e => s.recordQueue e

def goOn (s : ListenerSession) (o : InboundServer.Outcome) : ListenerSession :=
  o.2.foldl record { s with server := o.1 }

def control (s : ListenerSession) (o : Listener.Outcome) : ListenerSession :=
  s.goOn (s.server.withControl o)

def queued (s : ListenerSession) (o : AcceptQueue.Outcome) : ListenerSession :=
  s.goOn (s.server.withQueue o)

def start (address : Endpoint) (resource : String) (reportsMode : Bool) (delays : DelayRule) :
    ListenerSession :=
  let (server, effects) :=
    InboundServer.start (Registry.empty.subscribe).1 address resource reportsMode delays
  { server : ListenerSession }.goOn (server, effects)

/-- Let the accept calls and the control loop run until all of them wait. -/
def settle (s : ListenerSession) : ListenerSession := s.goOn s.server.settle

def held? (s : ListenerSession) (held : Nat) : Option ServedConnection := (s.held[held]?).join

def letGo (s : ListenerSession) (held : Nat) (c : ServedConnection) : ListenerSession :=
  { s with held := s.held.set held none }.recordQueue (.effect (.dropped c.connection.number))

def delivered (s : ListenerSession) (pushed : Listener × Nat) :
    ListenerSession × ListenerAnswer :=
  let (server, reached) := s.server.delivered pushed
  ({ s with server }, .number (some reached))

def perform (s : ListenerSession) : ListenerOp → ListenerSession × ListenerAnswer
  | .pushListener name result =>
    s.delivered (s.listener.pushListener (name.getD s.listener.resource) result)
  | .pushRoute name result => s.delivered (s.listener.pushRoute name result)
  | .settle => (s, .done)
  | .connect localEnd remoteEnd =>
    let c : Connection := ⟨s.connections, localEnd, remoteEnd⟩
    ({ s with connections := s.connections + 1 }.queued (s.server.queue.arrive (.connection c)),
      .number (some s.connections))
  | .fail e => (s.queued (s.server.queue.arrive (.failure e)), .done)
  | .accept =>
    ({ s with calls := s.calls + 1 }.queued (s.server.queue.start s.calls), .number (some s.calls))
  | .advance ms => (s.queued (s.server.queue.advance ms), .done)
  | .tryReady =>
    let (ready, generation) := s.listener.ready.tryReady
    (s.update { s.listener with ready }, .number generation)
  | .ready =>
    let (ready, found) := s.listener.ready.wait
    (s.update { s.listener with ready }, .waited found)
  | .routeConfig held =>
    (s, (s.held? held).elim .unknown fun c => .route (s.listener.routeConfig? c))
  | .intoInner held => match s.held? held with
    | none => (s, .unknown)
    | some c => (s.letGo held c, .number (some c.connection.number))
  | .dropConnection held => match s.held? held with
    | none => (s, .flag false)
    | some c => (s.letGo held c, .flag true)
  | .address => (s, .addressed s.listener.address s.listener.resource)
  | .closeClient => (s.control s.listener.closeClient, .done)
  | .close => (s.control s.listener.close, .done)

/-- Pushes may pile up; every other operation finds all work done. -/
def isPush : ListenerOp → Bool
  | .pushListener .. | .pushRoute .. => true
  | _ => false

/-- Hold the connections of finished calls, in order of call. -/
def holdFinished (s : ListenerSession) :
    List (Nat × Except ListenerError ServedConnection) → ListenerSession × List FinishedCall
  | [] => (s, [])
  | (call, .error e) :: rest =>
    let (s, others) := s.holdFinished rest
    (s, ⟨call, .error e, none⟩ :: others)
  | (call, .ok c) :: rest =>
    let first : FinishedCall := ⟨call, .ok (s.held.length, c), s.listener.routeConfig? c⟩
    let (s, others) := { s with held := s.held ++ [some c] }.holdFinished rest
    (s, first :: others)

def observe (s : ListenerSession) (answer : ListenerAnswer) : ListenerSession × ListenerStep :=
  let (s, finished) := s.holdFinished (s.activity.finished.mergeSort (·.1 ≤ ·.1))
  let shown : ListenerStep :=
    { answer, finished
      activity := s.activity
      events := (s.listener.client.shownEvents 0).getD []
      mode := s.listener.mode
      watched := s.listener.client.watched .route
      notices := s.trace.shown }
  ({ s.update { s.listener with client := s.listener.client.readAll } with
      activity := {}
      trace := s.trace.nextStep }, shown)

/-- One step; with `hold`, neither accept calls nor the control loop run after it. -/
def step (s : ListenerSession) (op : ListenerOp) (hold : Bool) : ListenerSession × ListenerStep :=
  let ready := if isPush op then s else s.settle
  let (s, answer) := ready.perform op
  (if hold then s else s.settle).observe answer

end ListenerSession
end MeshRouting
