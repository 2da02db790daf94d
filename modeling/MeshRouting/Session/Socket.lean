import MeshRouting.Inbound.Accept

/-!
# Socket sessions

A listener on a socket of the machine is bound, receives its configuration, takes one connection
from each client and is closed again. What the network answers is given: whether the address could
be bound each time it was tried, and what came of each client's attempt to connect.
-/
namespace MeshRouting

/-- An address that is to be bound as often as there are answers. -/
def bindSocket (answers : List (Except IoError Unit)) : Except ListenerError Unit :=
  answers.forM (·.mapError .bind)

/-- What a bound socket is configured with, and what came of connecting each client. -/
structure SocketPlan where
  bound : Endpoint
  chains : List FilterChain
  fallback : Option FilterChain
  clients : List (Except IoError Connection)
  deriving Repr

/-- `served` has the connection that each client was given, if it was not turned away; `last` is
how an accept call after the closing ends. -/
structure SocketReport where
  ready : ReadySignal.Wait
  served : List (Option ServedConnection)
  mode : ServingMode
  last : ListenerError
  deriving Repr

namespace SocketPlan

/-- A listener that was sent an update for the address it is bound to. -/
def configured (plan : SocketPlan) : Listener :=
  let listener := (Listener.start .empty plan.bound "" false).1
  let update : ListenerUpdate := ⟨plan.bound.ip, plan.bound.port, plan.chains, plan.fallback⟩
  (listener.pushListener "" (.ok update)).1.settle.1

/-- A client that cannot connect ends the session. -/
def run (plan : SocketPlan) : Except IoError SocketReport := do
  let connections ← plan.clients.mapM id
  let listener := plan.configured
  return {
    ready := listener.ready.wait.2
    served := connections.mapIdx fun i c => (listener.handOut (i + 1) c).1
    mode := listener.close.1.mode
    last := .closed }

end SocketPlan
end MeshRouting
