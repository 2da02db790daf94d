import MeshRouting.Text.Lowercase

/-!
# Routes

A route says which method names it takes and what becomes of them. A method name is a full path
such as `/package.Service/Method`.
-/
namespace MeshRouting

open MeshRouting.Text

inductive PathMatch where
  | startsWith (head : String)
  | equals (path : String)
  deriving DecidableEq, Repr

structure WeightedCluster where
  name : String
  weight : UInt32
  deriving DecidableEq, Repr

/-- A non-forwarding route is answered by the server that holds it. -/
inductive RouteAction where
  | cluster (name : String)
  | weighted (clusters : List WeightedCluster)
  | nonForwarding
  deriving DecidableEq, Repr

structure Route where
  path : PathMatch
  ignoreCase : Bool
  action : RouteAction
  deriving DecidableEq, Repr

def PathMatch.holds (path : PathMatch) (fold : String → String) (method : String) : Bool :=
  match path with
  | startsWith head => (fold head).toList.isPrefixOf (fold method).toList
  | equals whole => fold method == fold whole

/-- Without regard to case, both sides are lowered as a whole before they are compared. -/
def Route.matches (route : Route) (method : String) : Bool :=
  route.path.holds (if route.ignoreCase then lowercase else id) method

end MeshRouting
