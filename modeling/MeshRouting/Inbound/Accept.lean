import MeshRouting.Backoff
import MeshRouting.Inbound.Listener
import MeshRouting.Net.IoError

/-!
# Accepting connections

An accept call takes what arrives at the underlying socket until it can hand out a connection: one
that finds the listener serving and matches a filter chain. Other connections are closed.
Temporary errors are waited out, any other error ends the call.
-/
namespace MeshRouting

/-- A connection at the socket; an address that cannot be read has the reason instead. -/
structure Connection where
  number : Nat
  localEnd : Except String Endpoint
  remoteEnd : Except String Endpoint
  deriving Repr

inductive Arrival where
  | connection (c : Connection)
  | failure (e : IoError)
  deriving Repr

/-- A connection that was handed out, with the chain it matched. -/
structure ServedConnection where
  connection : Connection
  id : Nat
  chain : FilterChain
  deriving Repr

inductive ListenerError where
  | bind (e : IoError)
  | localAddr (e : IoError)
  | accept (e : IoError)
  | closed
  deriving DecidableEq, Repr

def ListenerError.message : ListenerError → String
  | bind e => s!"Failed to bind: {e.message}"
  | localAddr e => s!"Failed to read local address: {e.message}"
  | accept e => s!"Failed to accept: {e.message}"
  | closed => "Listener closed"

/-- How long to wait before the given retry, in milliseconds. -/
abbrev DelayRule := Nat → Nat

/-- Delays by attempt; the last one repeats. -/
def DelayRule.scripted (delays : List Nat) : DelayRule := fun attempt =>
  (delays[attempt - 1]?.or delays.getLast?).getD 0

/-- The delays of a policy, as they are without jitter. -/
def DelayRule.ofPolicy (p : BackoffPolicy) : DelayRule := fun attempt =>
  (p.cappedDelay (UInt32.ofNat attempt)).toNat

inductive AcceptEffect where
  | notice (n : Notice)
  | metric (m : Metric)
  | delayed (attempt : Nat)
  | dropped (connection : Nat)
  deriving Repr

inductive AcceptStep where
  | finished (result : Except ListenerError ServedConnection)
  | again
  | backOff (attempt delay : Nat)
  deriving Repr

namespace Listener

/-- Both addresses of a connection; the local one is looked at first. -/
def addresses (c : Connection) : Except String (Endpoint × Endpoint) := do
  return (← c.localEnd, ← c.remoteEnd)

def turnAway (c : Connection) (outcome : ConnectionOutcome) (n : Notice) : List AcceptEffect :=
  [.metric (.connection outcome), .notice n, .dropped c.number]

/-- The chain that takes a connection, if any chains are installed. -/
def chainFor (l : Listener) (localEnd remoteEnd : Endpoint) : Option FilterChain :=
  l.chains.bind (·.lookup localEnd remoteEnd)

def handOut (l : Listener) (id : Nat) (c : Connection) :
    Option ServedConnection × List AcceptEffect :=
  if l.mode ≠ .serving then (none, turnAway c .notServing (.connectionUnserved id))
  else match addresses c with
    | .error reason => (none, turnAway c .noMatch (.connectionNameless id reason))
    | .ok (localEnd, remoteEnd) => match l.chainFor localEnd remoteEnd with
      | none => (none, turnAway c .noMatch (.connectionUnmatched id localEnd remoteEnd))
      | some chain =>
        (some ⟨c, id, chain⟩,
          [.metric (.connection .matched),
            .notice (.connectionAccepted id remoteEnd chain.name)])

/-- Attempts stop counting at the greatest 32-bit word. -/
def nextAttempt (attempt : Nat) : Nat := min (attempt + 1) (UInt32.size - 1)

/-- What a call does with an arrival; `attempt` counts the temporary errors since the call began
or last took a connection, `id` is for the next connection. -/
def take (l : Listener) (delays : DelayRule) (id attempt : Nat) :
    Arrival → AcceptStep × List AcceptEffect
  | .connection c =>
    let (served, effects) := l.handOut id c
    (served.elim .again fun served => .finished (.ok served), effects)
  | .failure e =>
    if e.isTemporary then
      let attempt := nextAttempt attempt
      (.backOff attempt (delays attempt),
        [.delayed attempt, .metric .acceptBackoff,
          .notice (.acceptDelayed l.address e.message attempt)])
    else
      (.finished (.error (.accept e)), [.notice (.acceptFailed l.address e.message)])

/-- The route configuration of a connection, looked up anew for a dynamic route. -/
def routeConfig? (l : Listener) (c : ServedConnection) : Option RouteConfig :=
  match c.chain.route with
  | .inline config => some config
  | .dynamic name => l.routes.find? name

end Listener
end MeshRouting
