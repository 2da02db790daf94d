import MeshRouting.Names.NameSet

/-!
# Readiness gates

A gate knows which names one generation still waits for, and opens once, when there are none.
-/
namespace MeshRouting

structure ReadinessGate where
  generation : Nat
  outstanding : NameSet
  fired : Bool
  deriving DecidableEq, Repr

namespace ReadinessGate

/-- A gate that waits for the given names; a name given twice is waited for once. -/
def make (generation : Nat) (names : List String) : ReadinessGate :=
  ⟨generation, NameSet.ofList names, false⟩

/-- Stop waiting for a name; the answer says whether it was waited for. -/
def resolve (gate : ReadinessGate) (name : String) : ReadinessGate × Bool :=
  ({ gate with outstanding := gate.outstanding.erase name }, name ∈ gate.outstanding)

/-- Open the gate; this succeeds once, when nothing is outstanding. -/
def takeReady (gate : ReadinessGate) : ReadinessGate × Bool :=
  if gate.fired || !gate.outstanding.isEmpty then (gate, false)
  else ({ gate with fired := true }, true)

end ReadinessGate
end MeshRouting
