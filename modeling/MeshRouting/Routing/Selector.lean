import MeshRouting.Routing.RouteTarget
import MeshRouting.Names.NameSet
import MeshRouting.Text.Quoted

/-!
# Config selectors

A selector is the routing of one service update. It lists the clusters it can pick, and counts
who still holds it: the resolver until it stops the selector, and the leases of running calls.
-/
namespace MeshRouting

/-- A cluster that a selector holds, with the number of its table entry. -/
structure ClusterHold where
  name : String
  entry : Nat
  deriving DecidableEq, Repr

structure RoutedTarget where
  route : Route
  target : RouteTarget
  deriving DecidableEq, Repr

structure Selector where
  routes : List RoutedTarget
  clusters : List ClusterHold
  refs : Nat
  stopped : Bool
  deriving DecidableEq, Repr

namespace Selector

/-- The target of every route from the given number on, or the first that has none. -/
def targetsFrom : Nat → List Route → Except SelectorError (List RoutedTarget)
  | _, [] => .ok []
  | index, route :: rest => do
    let target ← RouteTarget.ofAction index route.action
    let others ← targetsFrom (index + 1) rest
    return ⟨route, target⟩ :: others

def targetsOf (update : ServiceUpdate) : Except SelectorError (List RoutedTarget) :=
  targetsFrom 0 update.host.routes

def clustersOf (routes : List RoutedTarget) : NameSet :=
  NameSet.ofList (routes.flatMap (·.target.names))

def target? (s : Selector) (method : String) : Option RouteTarget :=
  (s.routes.find? (·.route.matches method)).map (·.target)

/-- The cluster of the first route that matches, for a drawn point. -/
def pick (s : Selector) (method : String) (point : Nat) : Option String :=
  (s.target? method).map (·.choose point)

def clusterNames (s : Selector) : List String := s.clusters.map (·.name)

def summary (s : Selector) : String :=
  "ConfigSelector \x7b routes: " ++ toString s.routes.length ++
    ", clusters: " ++ Text.quoteAll s.clusterNames ++ ", refs: " ++ toString s.refs ++
    ", stopped: " ++ toString s.stopped ++ " \x7d"

end Selector
end MeshRouting
