import MeshRouting.Inbound.AcceptQueue

/-!
# Inbound servers

A listener together with the accept calls at its socket. What comes from outside only changes their
state and puts them in the row; all work is done in fair turns when the server is settled.
-/
namespace MeshRouting

structure InboundServer where
  listener : Listener
  delays : DelayRule
  queue : AcceptQueue := {}
  schedule : Schedule := { ready := [.control] }

inductive ServerEffect where
  | control (e : ListenerEffect)
  | queue (e : QueueEffect)
  deriving Repr

namespace InboundServer

abbrev Outcome := InboundServer × List ServerEffect

def heed (s : Schedule) : QueueEffect → Schedule
  | .woken call => s.wake (.call call)
  | .stoodAside call => s.standAside (.call call)
  | .effect _ | .looked | .finished .. => s

def withControl (s : InboundServer) (o : Listener.Outcome) : Outcome :=
  ({ s with listener := o.1 }, o.2.map .control)

def withQueue (s : InboundServer) (o : AcceptQueue.Outcome) : Outcome :=
  ({ s with queue := o.1, schedule := o.2.foldl heed s.schedule }, o.2.map .queue)

def andThen (o : Outcome) (next : InboundServer → Outcome) : Outcome :=
  let (s, more) := next o.1
  (s, o.2 ++ more)

def start (client : Registry WatchOwner) (address : Endpoint) (resource : String)
    (reportsMode : Bool) (delays : DelayRule) : Outcome :=
  let (listener, effects) := Listener.start client address resource reportsMode
  ({ listener, delays }, effects.map .control)

/-- What was delivered puts the control loop in the row, if it reached anyone. -/
def delivered (s : InboundServer) (pushed : Listener × Nat) : InboundServer × Nat :=
  ({ s with
      listener := pushed.1
      schedule := if pushed.2 = 0 then s.schedule else s.schedule.wake .control }, pushed.2)

/-- The control loop takes events, as many as fit in a turn. -/
def controlTurn (s : InboundServer) : Outcome :=
  let count := s.listener.events.length
  let (s, effects) := s.withControl (Listener.takeEvents (min count Schedule.allowance) s.listener)
  (if count < Schedule.allowance then s
    else { s with schedule := s.schedule.standAside .control }, effects)

def turn (s : InboundServer) : Runner → Outcome
  | .control => s.controlTurn
  | .call number => s.withQueue (s.queue.turn s.listener s.delays number)

/-- Take turns until nobody is left, as many as given. -/
def takeTurns : Nat → InboundServer → Outcome
  | 0, s => (s, [])
  | count + 1, s => match s.schedule.next? with
    | none => (s, [])
    | some (runner, schedule) =>
      andThen ({ s with schedule }.turn runner) (takeTurns count)

/-- More turns than can be taken: after those in the row, each turn follows an arrival or event
that was taken. -/
def turnsLeft (s : InboundServer) : Nat :=
  s.schedule.ready.length + s.schedule.aside.length + 2 * s.queue.arrivals.length +
    s.listener.events.length + 1

/-- A closed listener ends its accept calls, and then its control loop. -/
def shutDown (s : InboundServer) : Outcome :=
  andThen ({ s with schedule := {} }.withQueue s.queue.finishAll) fun s =>
    s.withControl s.listener.exit

def settle (s : InboundServer) : Outcome :=
  if s.listener.closed then s.shutDown
  else takeTurns s.turnsLeft { s with schedule := { s.schedule with served := 0 } }

end InboundServer
end MeshRouting
