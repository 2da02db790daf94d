import MeshRouting.Inbound.Accept
import MeshRouting.Inbound.Schedule

/-!
# Accept calls at one socket

Accept calls that share a socket. One call at a time holds the socket and takes what arrives; after
each arrival it hands the socket to the call that has stood in line longest. A call that backs off
rests until its time has come. A call does work only in its turns, and only as much as a turn
allows: to take the socket, to take an arrival and to end a rest are one unit of work each.
-/
namespace MeshRouting

/-- Where an accept call has stopped; a call that was handed the socket has not noticed it yet. -/
inductive CallStage where
  | asking
  | inLine
  | handed
  | holding
  | resting (wakeAt : Nat)
  deriving DecidableEq, Repr

structure AcceptCall where
  number : Nat
  attempt : Nat
  stage : CallStage
  deriving DecidableEq, Repr

/-- The calls are in the order in which they stopped. `taken` counts the connections taken so far,
`clock` is in milliseconds. -/
structure AcceptQueue where
  arrivals : List Arrival := []
  calls : List AcceptCall := []
  taken : Nat := 0
  clock : Nat := 0
  deriving Repr

/-- What happens at the socket; each finished call has its result. -/
inductive QueueEffect where
  | effect (e : AcceptEffect)
  | looked
  | woken (call : Nat)
  | stoodAside (call : Nat)
  | finished (call : Nat) (result : Except ListenerError ServedConnection)
  deriving Repr

def AcceptCall.hasSocket (call : AcceptCall) : Bool :=
  call.stage == .handed || call.stage == .holding

def AcceptCall.isDue (call : AcceptCall) (clock : Nat) : Bool :=
  match call.stage with
  | .resting wakeAt => wakeAt ≤ clock
  | _ => false

def AcceptCall.wakeAt (call : AcceptCall) : Nat :=
  match call.stage with
  | .resting wakeAt => wakeAt
  | _ => 0

namespace AcceptQueue

abbrev Outcome := AcceptQueue × List QueueEffect

def keep (q : AcceptQueue) (call : AcceptCall) : AcceptQueue :=
  { q with calls := q.calls ++ [call] }

def holder? (q : AcceptQueue) : Option AcceptCall := q.calls.find? (·.hasSocket)

/-- Hand the socket to the call that has stood in line longest. -/
def handOver (q : AcceptQueue) : Outcome :=
  match q.calls.find? (·.stage == .inLine) with
  | none => (q, [])
  | some next =>
    ({ q with calls := q.calls.map fun c => if c = next then { c with stage := .handed } else c },
      [.woken next.number])

def start (q : AcceptQueue) (number : Nat) : Outcome :=
  (q.keep ⟨number, 0, .asking⟩, [.woken number])

def arrive (q : AcceptQueue) (arrival : Arrival) : Outcome :=
  ({ q with arrivals := q.arrivals ++ [arrival] },
    q.holder?.toList.map fun call => .woken call.number)

/-- The resting calls whose time has come, in order of that time. -/
def due (q : AcceptQueue) : List AcceptCall :=
  (q.calls.filter (·.isDue q.clock)).mergeSort (·.wakeAt ≤ ·.wakeAt)

def advance (q : AcceptQueue) (ms : Nat) : Outcome :=
  let q := { q with clock := q.clock + ms }
  (q, q.due.map fun call => .woken call.number)

def countTaken : Arrival → Nat
  | .connection _ => 1
  | .failure _ => 0

/-- No call rests longer than thirty years of 365 days. -/
def longestRest : Nat := 30 * 365 * 86400 * 1000

/-- The call after it took an arrival, unless that ended it. -/
def resume (q : AcceptQueue) (number : Nat) : AcceptStep → Except QueueEffect AcceptCall
  | .finished result => .error (.finished number result)
  | .again => .ok ⟨number, 0, .asking⟩
  | .backOff attempt delay => .ok ⟨number, attempt, .resting (q.clock + min delay longestRest)⟩

/-- A call that holds the socket takes the arrival in front, and passes the socket on. -/
def serve (l : Listener) (delays : DelayRule) (q : AcceptQueue) (call : AcceptCall)
    (arrival : Arrival) (arrivals : List Arrival) : Outcome × Except QueueEffect AcceptCall :=
  let (step, effects) := l.take delays (q.taken + 1) call.attempt arrival
  let (q, handed) := { q with arrivals, taken := q.taken + countTaken arrival }.handOver
  ((q, handed ++ effects.map .effect), q.resume call.number step)

/-- Let a call do some units of work, until it has to wait, stands aside or has ended. -/
def run (l : Listener) (delays : DelayRule) : Nat → AcceptQueue → AcceptCall → Outcome
  | 0, q, call => (q.keep call, [.stoodAside call.number])
  | units + 1, q, call => match call.stage with
    | .asking =>
      if l.closed then (q, [.finished call.number (.error .closed)])
      else if q.holder?.isSome then (q.keep { call with stage := .inLine }, [.looked])
      else
        let (q, effects) := run l delays units q { call with stage := .holding }
        (q, .looked :: effects)
    | .inLine => (q.keep call, [])
    | .handed => run l delays units q { call with stage := .holding }
    | .holding => match q.arrivals with
      | [] => (q.keep call, [])
      | arrival :: arrivals => match serve l delays q call arrival arrivals with
        | ((q, effects), .error ended) => (q, effects ++ [ended])
        | ((q, effects), .ok call) =>
          let (q, more) := run l delays units q call
          (q, effects ++ more)
    | .resting wakeAt =>
      if q.clock < wakeAt then (q.keep call, [])
      else run l delays units q { call with stage := .asking }

/-- The turn of a call; one that has ended needs none. -/
def turn (l : Listener) (delays : DelayRule) (q : AcceptQueue) (number : Nat) : Outcome :=
  match q.calls.find? (·.number == number) with
  | none => (q, [])
  | some call =>
    run l delays Schedule.allowance { q with calls := q.calls.filter (·.number != number) } call

def finishAll (q : AcceptQueue) : Outcome :=
  ({ q with calls := [] }, q.calls.map fun call => .finished call.number (.error .closed))

end AcceptQueue
end MeshRouting
