/-!
# Ready signals

The newest generation that became ready, and whether the receiver has seen it. The signal ends
with its sender.
-/
namespace MeshRouting

structure ReadySignal where
  latest : Option Nat := none
  unseen : Bool := false
  ended : Bool := false
  deriving DecidableEq, Repr

namespace ReadySignal

def fire (s : ReadySignal) (generation : Nat) : ReadySignal :=
  { s with latest := some generation, unseen := true }

def finish (s : ReadySignal) : ReadySignal := { s with ended := true }

/-- The newest generation not seen yet, while the sender is there. -/
def tryReady (s : ReadySignal) : ReadySignal × Option Nat :=
  if s.ended || !s.unseen then (s, none) else ({ s with unseen := false }, s.latest)

inductive Wait where
  | pending
  | ready (generation : Option Nat)
  deriving DecidableEq, Repr

/-- A generation not seen yet comes before the end of the signal. -/
def wait (s : ReadySignal) : ReadySignal × Wait :=
  if s.unseen then ({ s with unseen := false }, .ready s.latest)
  else (s, if s.ended then .ready none else .pending)

end ReadySignal
end MeshRouting
