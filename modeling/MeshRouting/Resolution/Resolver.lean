import MeshRouting.Discovery.Registry
import MeshRouting.Resolution.Worker

/-!
# Resolvers

A resolver watches one service on a discovery client and feeds what it hears to its worker.
Several resolvers may share a client. Closing one of them ends its watch and its worker, and
closes the client for all.
-/
namespace MeshRouting

structure Resolver where
  worker : Worker
  watch : Option WatchHandle
  closed : Bool
  deriving Repr

/-- Chooses an encoder by the number of the call, counted from one. -/
abbrev EncoderSchedule := Nat → ServiceConfig.Encoder

/-- Resolvers are numbered in order of creation. Busy workers take turns in the order of `ready`,
each until it waits. Where there is a `refusal`, no client can be had for a new resolver. -/
structure ResolverGroup where
  client : Registry Nat
  providers : List String
  refusal : Option String
  encodings : Nat
  resolvers : List Resolver
  ready : List Nat

/-- What happens to the outside; sink calls name their resolver. -/
inductive ResolverEffect where
  | notice (n : Notice)
  | metric (m : Metric)
  | state (resolver : Nat) (s : ResolverState)
  | failure (resolver : Nat) (e : ResolverError)
  deriving Repr

namespace ResolverGroup

def start (providers : List String) (refusal : Option String) : ResolverGroup :=
  ⟨.empty, providers, refusal, 0, [], []⟩

def effectOf (r : Nat) : WorkerEffect → Option ResolverEffect
  | .notice n => some (.notice n)
  | .metric m => some (.metric m)
  | .encoded _ | .stopped _ => none
  | .state s => some (.state r s)
  | .failure e => some (.failure r e)

def countEncodings (effects : List WorkerEffect) : Nat :=
  effects.countP fun
    | .encoded _ => true
    | _ => false

/-- Put a worker in place; one that has just become busy queues up for its turn. -/
def setWorker (g : ResolverGroup) (r : Nat) (worker : Worker) : ResolverGroup :=
  match g.resolvers[r]? with
  | none => g
  | some resolver =>
    { g with
      resolvers := g.resolvers.set r { resolver with worker }
      ready := if worker.isBusy && !g.ready.contains r then g.ready ++ [r] else g.ready }

def worker? (g : ResolverGroup) (r : Nat) : Option Worker := (g.resolvers[r]?).map (·.worker)

/-- Close the client; only the first close is logged. -/
def closeClient (g : ResolverGroup) : ResolverGroup × List ResolverEffect :=
  ({ g with client := g.client.close }, if g.client.closed then [] else [.notice .clientClosed])

def attach (g : ResolverGroup) (endpoint : String) : ResolverGroup :=
  let r := g.resolvers.length
  let (client, handle) := g.client.watch .service endpoint r
  { g with
    client
    resolvers := g.resolvers ++ [⟨.start endpoint, some handle, false⟩]
    ready := g.ready ++ [r] }

/-- Build a resolver. Credentials from the control plane need a certificate provider. -/
def build (g : ResolverGroup) (endpoint : String) (meshCredentials : Bool) :
    ResolverGroup × List ResolverEffect × Except ResolverError Nat :=
  let created := .notice (.resolverCreated endpoint)
  match g.refusal with
  | some reason => (g, [created], .error (.clientCreation reason))
  | none =>
    if meshCredentials && g.providers.isEmpty then
      let (g, closing) := g.closeClient
      (g, created :: closing, .error .missingCertificateProviders)
    else
      (g.attach endpoint, [created, .notice (.resolverWatching endpoint)],
        .ok g.resolvers.length)

def post (g : ResolverGroup) (e : Envelope) (r : Nat) : ResolverGroup × List ResolverEffect :=
  match g.worker? r with
  | none => (g, [])
  | some worker =>
    (g.setWorker r { worker with mailbox := (worker.mailbox.publish e).1 },
      (worker.mailbox.stale?.map fun stale => .notice (.unreadDropped stale.kind)).toList)

def postAll (g : ResolverGroup) (e : Envelope) : List Nat → ResolverGroup × List ResolverEffect
  | [] => (g, [])
  | r :: rest =>
    let (g, first) := g.post e r
    let (g, others) := g.postAll e rest
    (g, first ++ others)

/-- Deliver a resource to everyone who watches it; the answer is how many those are. -/
def push (g : ResolverGroup) (name : String) (update : Except WatchError ServiceUpdate) :
    ResolverGroup × List ResolverEffect × Nat :=
  let receivers := g.client.receivers .service name
  let (g, effects) := g.postAll (.ofWatch update) receivers
  (g, effects, receivers.length)

def endWatch (g : ResolverGroup) (resolver : Resolver) : ResolverGroup :=
  match resolver.watch with
  | none => g
  | some handle => { g with client := g.client.cancel handle }

/-- End the watch, close the client and tell the worker to stop; a second close does nothing. -/
def close (g : ResolverGroup) (r : Nat) : ResolverGroup × List ResolverEffect :=
  match g.resolvers[r]? with
  | none => (g, [])
  | some resolver =>
    if resolver.closed then (g, [])
    else
      let g := g.endWatch resolver
      let (g, closing) := g.closeClient
      let resolvers := g.resolvers.set r { resolver with watch := none, closed := true }
      let worker := { resolver.worker with mailbox := resolver.worker.mailbox.close }
      ({ g with resolvers }.setWorker r worker,
        .notice (.resolverUnwatched resolver.worker.endpoint) :: closing ++
          [.notice (.resolverShutDown resolver.worker.endpoint)])

def retain (g : ResolverGroup) (r s : Nat) : Option (ResolverGroup × Nat) := do
  let worker ← g.worker? r
  let (worker, lease) ← worker.retain s
  return (g.setWorker r worker, lease)

def dropLease (g : ResolverGroup) (r lease : Nat) : Option ResolverGroup := do
  let worker ← g.worker? r
  return g.setWorker r (← worker.dropLease lease)

def stop (g : ResolverGroup) (r s : Nat) : ResolverGroup × List ResolverEffect :=
  match g.worker? r with
  | none => (g, [])
  | some worker =>
    let (worker, effects) := worker.stop s
    (g.setWorker r worker, effects.filterMap (effectOf r))

def turn (encoders : EncoderSchedule) (g : ResolverGroup) (r : Nat) :
    ResolverGroup × List ResolverEffect :=
  match g.worker? r with
  | none => (g, [])
  | some worker =>
    let (worker, effects) := worker.turn (encoders (g.encodings + 1))
    ({ g with encodings := g.encodings + countEncodings effects }.setWorker r worker,
      effects.filterMap (effectOf r))

/-- Turns of one worker until it waits, as long as `turns` last. -/
def run (encoders : EncoderSchedule) : Nat → ResolverGroup → Nat →
    ResolverGroup × List ResolverEffect
  | 0, g, _ => (g, [])
  | turns + 1, g, r =>
    let (g, first) := g.turn encoders r
    let (g, others) := run encoders turns g r
    (g, first ++ others)

def runEach (encoders : EncoderSchedule) (g : ResolverGroup) :
    List Nat → ResolverGroup × List ResolverEffect
  | [] => (g, [])
  | r :: rest =>
    let (g, first) := run encoders ((g.worker? r).elim 0 Worker.turnsToIdle) g r
    let (g, others) := runEach encoders g rest
    (g, first ++ others)

def settle (encoders : EncoderSchedule) (g : ResolverGroup) :
    ResolverGroup × List ResolverEffect :=
  let (settled, effects) := runEach encoders g g.ready
  ({ settled with ready := [] }, effects)

end ResolverGroup
end MeshRouting
