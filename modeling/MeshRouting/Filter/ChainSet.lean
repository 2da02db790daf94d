import MeshRouting.Filter.Chain
import MeshRouting.Names.NameSet

/-!
# Sets of filter chains

The chains of one listener update. A connection goes to the first chain that takes it, else to
the default chain if there is one.
-/
namespace MeshRouting

structure ChainSet where
  chains : List FilterChain
  fallback : Option FilterChain
  deriving DecidableEq, Repr

/-- A dynamic route of the named chain has no name. -/
inductive ChainError where
  | emptyRouteName (chain : String)
  deriving DecidableEq, Repr

def ChainError.message : ChainError → String
  | emptyRouteName chain =>
    s!"filter chain '{chain}' references a dynamic route with an empty name"

namespace ChainSet

/-- All chains, the default chain last. -/
def all (set : ChainSet) : List FilterChain := set.chains ++ set.fallback.toList

/-- Refuse the first chain whose dynamic route has no name. -/
def make? (chains : List FilterChain) (fallback : Option FilterChain) :
    Except ChainError ChainSet :=
  let set : ChainSet := ⟨chains, fallback⟩
  match set.all.find? (·.dynamicRoute? == some "") with
  | some chain => .error (.emptyRouteName chain.name)
  | none => .ok set

/-- The distinct dynamic routes that the chains depend on. -/
def routeNames (set : ChainSet) : NameSet :=
  NameSet.ofList (set.all.filterMap (·.dynamicRoute?))

def lookup (set : ChainSet) (localEnd remoteEnd : Endpoint) : Option FilterChain :=
  (set.chains.find? (·.accepts.holds localEnd remoteEnd)).or set.fallback

def size (set : ChainSet) : Nat := set.all.length

def isEmpty (set : ChainSet) : Bool := set.all.isEmpty

end ChainSet
end MeshRouting
