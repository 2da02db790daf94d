import MeshRouting.Inbound.ReadinessGate

/-!
# Gate sessions

A readiness gate driven step by step.
-/
namespace MeshRouting

inductive GateOp where
  | resolve (name : String)
  | takeReady
  deriving Repr

/-- What a step shows: the answer of its operation and the gate after it. -/
structure GateStep where
  answer : Option Bool
  gate : ReadinessGate
  deriving Repr

namespace GateSession

def perform (gate : ReadinessGate) : GateOp → ReadinessGate × Bool
  | .resolve name => gate.resolve name
  | .takeReady => gate.takeReady

def steps (gate : ReadinessGate) : List GateOp → List GateStep
  | [] => []
  | op :: rest =>
    let (gate, answer) := perform gate op
    ⟨some answer, gate⟩ :: steps gate rest

/-- The state after creation, then one step for each operation. -/
def run (gate : ReadinessGate) (ops : List GateOp) : List GateStep := ⟨none, gate⟩ :: steps gate ops

end GateSession
end MeshRouting
