import MeshRouting.Resolution.DialTarget
import MeshRouting.Resolution.Resolver
import MeshRouting.Session.Samples
import MeshRouting.Session.Trace

/-!
# Resolver sessions

Resolvers on one client driven step by step. The sinks are read after each step, one resolver
after the other; selectors are numbered as they are first read there, leases as they are taken.
-/
namespace MeshRouting

/-- When the encoder of a session fails: on some calls, on large tables, on some names. -/
structure EncoderFaults where
  calls : List Nat := []
  mostClusters : Option Nat := none
  names : List String := []
  deriving Repr

def EncoderFaults.schedule (faults : EncoderFaults) : EncoderSchedule := fun call table =>
  if faults.calls.contains call || faults.mostClusters.any (· < table.size)
      || table.names.any faults.names.contains then .error "unencodable cluster"
  else ServiceConfig.standard table

inductive ResolverOp where
  | scheme
  | build (target : String) (meshCredentials : Bool)
  | push (name : String) (update : Except WatchError ServiceUpdate)
  | settle
  | pick (selector : Nat) (method : String)
  | pickLeased (lease : Nat) (method : String)
  | inspect (selector : Nat)
  | retain (selector : Nat)
  | release (lease : Nat)
  | stop (selector : Nat)
  | resolveNow (resolver : Nat)
  | close (resolver : Nat)
  | isClosed (resolver : Nat)
  | waitClosed (resolver : Nat)
  | drop (resolver : Nat)
  deriving Repr

inductive ResolverAnswer where
  | done
  | unknown
  | text (value : String)
  | built (resolver : Nat) (endpoint : String)
  | refused (e : ResolverError)
  | number (value : Option Nat)
  | choices (names : Option NameSet)
  | inspected (selector : Selector)
  | flag (value : Bool)
  | finished (value : Bool)
  deriving Repr

/-- What a sink got: a config with the number of its selector, or an error. -/
inductive SinkCall where
  | state (resolver : Nat) (config : String) (selector : Option Nat)
  | failure (resolver : Nat) (e : ResolverError)
  deriving Repr

/-- `shown` and `leases` have the resolver and its own number of each selector and lease;
`joined` are the resolvers whose end was waited for, `gone` those that were dropped. The sinks
hold what has not been read yet. -/
structure ResolverSession where
  group : ResolverGroup
  encoders : EncoderSchedule
  scheme : String
  shown : List (Nat × Nat) := []
  leases : List (Nat × Nat) := []
  joined : List Nat := []
  gone : List Nat := []
  sinks : List ResolverEffect := []
  trace : Trace := {}

structure ResolverStep where
  answer : ResolverAnswer
  sinks : List SinkCall
  selectors : List (Nat × Bool)
  events : List WatchEvent
  watched : List String
  clientClosed : Bool
  notices : List Notice

namespace ResolverSession

def start (providers : List String) (refusal : Option String) (scheme : String)
    (faults : EncoderFaults) : ResolverSession :=
  let group := ResolverGroup.start providers refusal
  { group := { group with client := group.client.subscribe.1 }
    encoders := faults.schedule
    scheme }

/-- The number of a selector, new if it has not been seen before. -/
def numberOf (s : ResolverSession) (selector : Nat × Nat) : ResolverSession × Nat :=
  match s.shown.idxOf? selector with
  | some number => (s, number)
  | none => ({ s with shown := s.shown ++ [selector] }, s.shown.length)

def record (s : ResolverSession) (effect : ResolverEffect) : ResolverSession :=
  match effect with
  | .notice n => { s with trace := s.trace.addNotices [n] }
  | .metric m => { s with trace := s.trace.addMetrics [m] }
  | .state .. | .failure .. => { s with sinks := s.sinks ++ [effect] }

def apply (s : ResolverSession) (group : ResolverGroup) (effects : List ResolverEffect) :
    ResolverSession :=
  effects.foldl record { s with group }

def settle (s : ResolverSession) : ResolverSession :=
  let (group, effects) := s.group.settle s.encoders
  s.apply group effects

def selector? (s : ResolverSession) (number : Nat) : Option (Nat × Nat × Selector) := do
  let (r, selector) ← s.shown[number]?
  return (r, selector, ← (← s.group.worker? r).pool.selectors[selector]?)

def leased? (s : ResolverSession) (number : Nat) : Option Selector := do
  let (r, lease) ← s.leases[number]?
  let pool := (← s.group.worker? r).pool
  pool.selectors[← (pool.leases[lease]?).join]?

/-- A resolver that has not been dropped. -/
def resolver? (s : ResolverSession) (r : Nat) : Option Resolver :=
  if s.gone.contains r then none else s.group.resolvers[r]?

def retain (s : ResolverSession) (number : Nat) : ResolverSession × ResolverAnswer :=
  match s.selector? number with
  | none => (s, .unknown)
  | some (r, selector, _) => match s.group.retain r selector with
    | none => (s, .number none)
    | some (group, lease) =>
      ({ s with group, leases := s.leases ++ [(r, lease)] }, .number (some s.leases.length))

def release (s : ResolverSession) (number : Nat) : ResolverSession × ResolverAnswer :=
  match s.leases[number]? with
  | none => (s, .flag false)
  | some (r, lease) => match s.group.dropLease r lease with
    | none => (s, .flag false)
    | some group => ({ s with group }, .flag true)

def close (s : ResolverSession) (r : Nat) : ResolverSession :=
  let (group, effects) := s.group.close r
  s.apply group effects

/-- The first wait asks whether the worker has ended; after that there is nothing to wait for. -/
def waitClosed (s : ResolverSession) (r : Nat) (resolver : Resolver) :
    ResolverSession × ResolverAnswer :=
  ({ s with joined := r :: s.joined },
    .finished (s.joined.contains r || resolver.worker.exited))

def perform (s : ResolverSession) : ResolverOp → ResolverSession × ResolverAnswer
  | .scheme => (s, .text s.scheme)
  | .build target meshCredentials =>
    let endpoint := DialTarget.endpoint target
    let (group, effects, result) := s.group.build endpoint meshCredentials
    (s.apply group effects, match result with
      | .error e => .refused e
      | .ok r => .built r endpoint)
  | .push name update =>
    let (group, effects, count) := s.group.push name update
    (s.apply group effects, .number (some count))
  | .settle => (s, .done)
  | .pick number method =>
    (s, (s.selector? number).elim .unknown fun (_, _, found) => .choices (found.choices method))
  | .pickLeased number method =>
    (s, (s.leased? number).elim .unknown fun found => .choices (found.choices method))
  | .inspect number => (s, (s.selector? number).elim .unknown fun (_, _, found) => .inspected found)
  | .retain number => s.retain number
  | .release number => s.release number
  | .stop number => match s.selector? number with
    | none => (s, .unknown)
    | some (r, selector, _) =>
      let (group, effects) := s.group.stop r selector
      (s.apply group effects, .done)
  | .resolveNow r => (s, (s.resolver? r).elim .unknown fun _ => .done)
  | .close r => match s.resolver? r with
    | none => (s, .unknown)
    | some _ => (s.close r, .done)
  | .isClosed r => (s, (s.resolver? r).elim .unknown fun resolver => .flag resolver.closed)
  | .waitClosed r => match s.resolver? r with
    | none => (s, .unknown)
    | some resolver => s.waitClosed r resolver
  | .drop r => match s.resolver? r with
    | none => (s, .flag false)
    | some _ => ({ s.close r with gone := r :: s.gone }, .flag true)

def readSink (s : ResolverSession) (r : Nat) : ResolverEffect → ResolverSession × Option SinkCall
  | .failure owner e => (s, if owner = r then some (.failure r e) else none)
  | .state owner ⟨config, selector⟩ =>
    if owner ≠ r then (s, none)
    else match selector with
      | none => (s, some (.state r config none))
      | some selector =>
        let (s, number) := s.numberOf (r, selector)
        (s, some (.state r config (some number)))
  | .notice _ | .metric _ => (s, none)

def readSinks (s : ResolverSession) : List (Nat × ResolverEffect) → ResolverSession × List SinkCall
  | [] => (s, [])
  | (r, effect) :: rest =>
    let (s, call) := s.readSink r effect
    let (s, calls) := s.readSinks rest
    (s, call.toList ++ calls)

def drainSinks (s : ResolverSession) : ResolverSession × List SinkCall :=
  let resolvers := List.range s.group.resolvers.length
  { s with sinks := [] }.readSinks
    (resolvers.flatMap fun r => s.sinks.map fun effect => (r, effect))

def observe (s : ResolverSession) (answer : ResolverAnswer) (sinks : List SinkCall) :
    ResolverStep where
  answer := answer
  sinks := sinks
  selectors := (List.range s.shown.length).filterMap fun number =>
    (s.selector? number).map fun (_, _, selector) => (selector.refs, selector.stopped)
  events := (s.group.client.shownEvents 0).getD []
  watched := s.group.client.watched .service
  clientClosed := s.group.client.closed
  notices := s.trace.shown

/-- One step; with `hold`, no worker runs in it. -/
def step (s : ResolverSession) (op : ResolverOp) (hold : Bool) : ResolverSession × ResolverStep :=
  let (s, answer) := { s with trace := s.trace.nextStep }.perform op
  let (s, sinks) := (if hold then s else s.settle).drainSinks
  ({ s with group := { s.group with client := s.group.client.readAll } }, s.observe answer sinks)

end ResolverSession
end MeshRouting
