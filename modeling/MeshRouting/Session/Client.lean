import MeshRouting.Filter.Chain
import MeshRouting.Session.Trace

/-!
# Client sessions

A discovery client driven step by step: watches that are started and cancelled, resources that
are pushed, and subscribers that follow.
-/
namespace MeshRouting

inductive Resource where
  | service (update : ServiceUpdate)
  | listener (update : ListenerUpdate)
  | route (config : RouteConfig)
  deriving Repr

inductive ClientOp where
  | watch (kind : ResourceKind) (name : String)
  | noopHandle
  | describe (handle : Nat)
  | cancel (handle : Nat)
  | push (kind : ResourceKind) (name : String) (update : Except WatchError Resource)
  | watched (kind : ResourceKind)
  | subscribe
  | unsubscribe (subscriber : Nat)
  | bootstrap
  | close
  deriving Repr

inductive ClientAnswer where
  | done
  | number (value : Nat)
  | flag (value : Bool)
  | names (names : List String)
  | text (value : Option String)
  deriving Repr

/-- A handle is held or gone; a held one may have nothing to cancel. -/
structure ClientSession where
  client : Registry Nat := .empty
  providers : List String
  handles : List (Option (Option WatchHandle)) := []
  trace : Trace := {}

/-- What a step shows; each delivery names the handle of its watch. -/
structure ClientStep where
  answer : ClientAnswer
  delivered : List (Nat × Except WatchError Resource)
  events : List (Option (List WatchEvent))
  closed : Bool
  notices : List Notice

namespace ClientSession

def addHandle (s : ClientSession) (handle : Option WatchHandle) : ClientSession × ClientAnswer :=
  ({ s with handles := s.handles ++ [some handle] }, .number s.handles.length)

def handleText (handle : Option WatchHandle) : String :=
  "WatchHandle \x7b active: " ++ toString handle.isSome ++ " \x7d"

def cancel (s : ClientSession) (handle : Nat) : ClientSession × ClientAnswer :=
  match (s.handles[handle]?).join with
  | none => (s, .flag false)
  | some held =>
    ({ s with
        handles := s.handles.set handle none
        client := held.elim s.client s.client.cancel }, .flag true)

def perform (s : ClientSession) : ClientOp → ClientSession × ClientAnswer
  | .watch kind name =>
    let (client, handle) := s.client.watch kind name s.handles.length
    { s with client }.addHandle (some handle)
  | .noopHandle => s.addHandle none
  | .describe handle => (s, .text ((s.handles[handle]?).join.map handleText))
  | .cancel handle => s.cancel handle
  | .push kind name _ => (s, .number (s.client.receivers kind name).length)
  | .watched kind => (s, .names (s.client.watched kind))
  | .subscribe =>
    let (client, subscriber) := s.client.subscribe
    ({ s with client }, .number subscriber)
  | .unsubscribe subscriber =>
    let (client, was) := s.client.unsubscribe subscriber
    ({ s with client }, .flag was)
  | .bootstrap => (s, .names s.providers)
  | .close =>
    ({ s with
        client := s.client.close
        trace := s.trace.addNotices (if s.client.closed then [] else [.clientClosed]) }, .done)

def deliveries (s : ClientSession) : ClientOp → List (Nat × Except WatchError Resource)
  | .push kind name update => (s.client.receivers kind name).map fun owner => (owner, update)
  | _ => []

def step (s : ClientSession) (op : ClientOp) : ClientSession × ClientStep :=
  let delivered := s.deliveries op
  let (s, answer) := { s with trace := s.trace.nextStep }.perform op
  let events := (List.range s.client.subscribers.length).map s.client.shownEvents
  ({ s with client := s.client.readAll },
    ⟨answer, delivered, events, s.client.closed, s.trace.shown⟩)

end ClientSession
end MeshRouting
