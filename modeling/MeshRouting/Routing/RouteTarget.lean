import MeshRouting.Discovery.Resource

/-!
# Route targets

What a client does with a matched route: call one cluster, or draw one of several by weight.
A draw is a point below the total weight, and each cluster owns as many points as it weighs.
-/
namespace MeshRouting

/-- The first route of an update that a client cannot use, counted from zero. -/
inductive SelectorError where
  | nonForwarding (route : Nat)
  | zeroWeight (route : Nat)
  | emptyCluster (route : Nat)
  deriving DecidableEq, Repr

def SelectorError.message : SelectorError → String
  | nonForwarding route => s!"route {route}: non-forwarding action is not valid for clients"
  | zeroWeight route => s!"route {route}: weighted clusters have no positive weight"
  | emptyCluster route => s!"route {route}: empty cluster name"

/-- Weighted clusters all have positive weights, which add up to `total`. -/
inductive RouteTarget where
  | single (name : String)
  | weighted (clusters : List WeightedCluster) (total : Nat)
  deriving DecidableEq, Repr

namespace RouteTarget

def totalWeight (clusters : List WeightedCluster) : Nat :=
  clusters.foldr (fun c total => c.weight.toNat + total) 0

def ofWeighted (route : Nat) (clusters : List WeightedCluster) :
    Except SelectorError RouteTarget :=
  let positive := clusters.filter (0 < ·.weight)
  if clusters.any (·.name.isEmpty) then .error (.emptyCluster route)
  else if totalWeight positive = 0 then .error (.zeroWeight route)
  else .ok (.weighted positive (totalWeight positive))

def ofAction (route : Nat) : RouteAction → Except SelectorError RouteTarget
  | .cluster name => if name.isEmpty then .error (.emptyCluster route) else .ok (.single name)
  | .weighted clusters => ofWeighted route clusters
  | .nonForwarding => .error (.nonForwarding route)

def names : RouteTarget → List String
  | single name => [name]
  | weighted clusters _ => clusters.map (·.name)

/-- The owner of a point, each cluster taking as many points as it weighs. -/
def ownerOf : List WeightedCluster → Nat → Option String
  | [], _ => none
  | c :: rest, point =>
    if point < c.weight.toNat then some c.name else ownerOf rest (point - c.weight.toNat)

def points : RouteTarget → Nat
  | single _ => 1
  | weighted _ total => total

/-- The cluster that a draw falls on; past the end it is the last one. -/
def choose (target : RouteTarget) (point : Nat) : String :=
  match target with
  | single name => name
  | weighted clusters _ =>
    (ownerOf clusters point).getD ((clusters.getLast?.map (·.name)).getD "")

def share (target : RouteTarget) (name : String) : Nat :=
  match target with
  | single only => if only = name then 1 else 0
  | weighted clusters _ => totalWeight (clusters.filter (·.name == name))

end RouteTarget
end MeshRouting
