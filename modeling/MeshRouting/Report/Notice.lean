import MeshRouting.Inbound.ServingMode
import MeshRouting.Net.Endpoint
import MeshRouting.Resolution.Envelope
import MeshRouting.Text.Quoted

/-!
# Notices

The structured log of the library. Every notice has a level, a message and named fields.
-/
namespace MeshRouting

inductive Level where
  | trace
  | debug
  | info
  | warn
  | error
  deriving DecidableEq, Repr

def Level.text : Level → String
  | trace => "TRACE"
  | debug => "DEBUG"
  | info => "INFO"
  | warn => "WARN"
  | error => "ERROR"

inductive FieldValue where
  | count (value : Nat)
  | text (value : String)
  deriving DecidableEq, Repr

/-- Connections are logged by their number, counted from one. -/
def connectionText (id : Nat) : String := s!"conn-{id}"

inductive Notice where
  | unreadDropped (kind : EnvelopeKind)
  | clustersPruned (names : List String)
  | stoppedAgain
  | clientClosed
  | resolverCreated (endpoint : String)
  | resolverWatching (endpoint : String)
  | resolverUnwatched (endpoint : String)
  | resolverShutDown (endpoint : String)
  | workerExited (endpoint : String)
  | serviceRemoved (endpoint error : String)
  | serviceTrouble (endpoint error : String)
  | serviceRejected (endpoint error : String)
  | configPublished (endpoint : String) (clusters : Nat) (config : String)
  | configFailed (endpoint error : String)
  | listenerWatching (address : Endpoint) (resource : String)
  | listenerRemoved (resource error : String)
  | listenerTrouble (resource error : String)
  | listenerMismatch (resource message : String)
  | listenerRejected (resource error : String)
  | listenerUpdated (address : Endpoint) (generation routes outstanding : Nat)
  | listenerReady (address : Endpoint) (generation : Nat)
  | listenerClosed (address : Endpoint) (resource : String) (routeWatches : Nat)
  | controlExited (address : Endpoint)
  | modeChanged (address : Endpoint) (before after : ServingMode) (error : Option String)
  | routeWatching (route : String) (watch : Nat)
  | routeUnwatched (route : String)
  | routeReceived (route : String) (generation : Nat)
  | routeRemoved (route error : String)
  | routeTrouble (route error : String)
  | routeStale (route : String) (watch : Nat)
  | acceptDelayed (address : Endpoint) (error : String) (attempt : Nat)
  | acceptFailed (address : Endpoint) (error : String)
  | connectionUnserved (id : Nat)
  | connectionNameless (id : Nat) (error : String)
  | connectionUnmatched (id : Nat) (localEnd remoteEnd : Endpoint)
  | connectionAccepted (id : Nat) (remoteEnd : Endpoint) (chain : String)
  deriving DecidableEq, Repr

namespace Notice

def level : Notice → Level
  | unreadDropped _ => .trace
  | clustersPruned _ | clientClosed | workerExited _ | controlExited _ => .debug
  | routeReceived .. | routeStale .. | acceptDelayed .. => .debug
  | connectionUnserved _ | connectionNameless .. => .debug
  | connectionUnmatched .. | connectionAccepted .. => .debug
  | resolverCreated _ | resolverWatching _ | resolverUnwatched _ | resolverShutDown _ => .info
  | configPublished .. | listenerWatching .. | listenerUpdated .. | listenerReady .. => .info
  | listenerClosed .. | routeWatching .. | routeUnwatched _ | modeChanged _ _ _ none => .info
  | stoppedAgain | serviceRemoved .. | serviceTrouble .. | serviceRejected .. => .warn
  | listenerRemoved .. | listenerTrouble .. | listenerMismatch .. | listenerRejected .. => .warn
  | modeChanged _ _ _ (some _) | routeRemoved .. | routeTrouble .. => .warn
  | configFailed .. | acceptFailed .. => .error

def message : Notice → String
  | unreadDropped _ => "Dropped unread update"
  | clustersPruned _ => "Pruned unreferenced clusters"
  | stoppedAgain => "Config selector stopped more than once"
  | clientClosed => "In-memory discovery client closed"
  | resolverCreated _ => "Creating resolver"
  | resolverWatching _ => "Watch started"
  | resolverUnwatched _ => "Watch cancelled"
  | resolverShutDown _ => "Resolver shut down"
  | workerExited _ => "Resolver worker exited"
  | serviceRemoved .. => "Service resource removed"
  | serviceTrouble .. => "Watch error, keeping last good config"
  | serviceRejected .. => "Rejected service update"
  | configPublished .. => "Publishing service config"
  | configFailed .. => "Failed to generate service config"
  | listenerWatching .. => "Listener watch started"
  | listenerRemoved .. => "Listener resource removed"
  | listenerTrouble .. => "Listener watch error, keeping last good config"
  | listenerMismatch _ message => message
  | listenerRejected .. => "Rejected listener update"
  | listenerUpdated .. => "Listener configuration updated"
  | listenerReady .. => "Listener ready"
  | listenerClosed .. => "Listener wrapper closed"
  | controlExited _ => "Listener control task exited"
  | modeChanged .. => "Serving mode changed"
  | routeWatching .. => "Route watch started"
  | routeUnwatched _ => "Route watch cancelled"
  | routeReceived .. => "Route configuration received"
  | routeRemoved .. => "Route configuration removed"
  | routeTrouble .. => "Route watch error, keeping last good config"
  | routeStale .. => "Ignoring callback from cancelled route watch"
  | acceptDelayed .. => "Temporary accept error, backing off"
  | acceptFailed .. => "Accept failed"
  | connectionUnserved _ => "Closing connection, listener not serving"
  | connectionNameless .. => "Closing connection without addresses"
  | connectionUnmatched .. => "No matching filter chain, closing connection"
  | connectionAccepted .. => "Connection accepted"

def fields : Notice → List (String × FieldValue)
  | unreadDropped kind => [("kind", .text kind.text)]
  | clustersPruned names => [("clusters", .text (Text.quoteAll names))]
  | stoppedAgain | clientClosed => []
  | resolverCreated endpoint | resolverWatching endpoint | resolverUnwatched endpoint
  | resolverShutDown endpoint | workerExited endpoint => [("endpoint", .text endpoint)]
  | serviceRemoved endpoint error | serviceTrouble endpoint error
  | serviceRejected endpoint error | configFailed endpoint error =>
    [("endpoint", .text endpoint), ("error", .text error)]
  | configPublished endpoint clusters config =>
    [("endpoint", .text endpoint), ("clusters", .count clusters),
     ("service_config", .text config)]
  | listenerWatching address resource =>
    [("address", .text address.text), ("resource", .text resource)]
  | listenerRemoved resource error | listenerTrouble resource error
  | listenerRejected resource error => [("resource", .text resource), ("error", .text error)]
  | listenerMismatch resource _ => [("resource", .text resource)]
  | listenerUpdated address generation routes outstanding =>
    [("address", .text address.text), ("generation", .count generation),
     ("routes", .count routes), ("outstanding", .count outstanding)]
  | listenerReady address generation =>
    [("address", .text address.text), ("generation", .count generation)]
  | listenerClosed address resource routeWatches =>
    [("address", .text address.text), ("resource", .text resource),
     ("route_watches", .count routeWatches)]
  | controlExited address => [("address", .text address.text)]
  | modeChanged address before after error =>
    [("address", .text address.text), ("from", .text before.text), ("to", .text after.text)] ++
      (error.map fun text => ("error", .text text)).toList
  | routeWatching route watch | routeStale route watch =>
    [("route", .text route), ("watch_id", .count watch)]
  | routeUnwatched route => [("route", .text route)]
  | routeReceived route generation => [("route", .text route), ("generation", .count generation)]
  | routeRemoved route error | routeTrouble route error =>
    [("route", .text route), ("error", .text error)]
  | acceptDelayed address error attempt =>
    [("address", .text address.text), ("error", .text error), ("attempt", .count attempt)]
  | acceptFailed address error => [("address", .text address.text), ("error", .text error)]
  | connectionUnserved id => [("connection_id", .text (connectionText id))]
  | connectionNameless id error =>
    [("connection_id", .text (connectionText id)), ("error", .text error)]
  | connectionUnmatched id localEnd remoteEnd =>
    [("connection_id", .text (connectionText id)), ("local", .text localEnd.text),
     ("remote", .text remoteEnd.text)]
  | connectionAccepted id remoteEnd chain =>
    [("connection_id", .text (connectionText id)), ("remote", .text remoteEnd.text),
     ("filter_chain", .text chain)]

end Notice
end MeshRouting
