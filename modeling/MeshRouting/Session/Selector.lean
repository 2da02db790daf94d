import MeshRouting.Resolution.Mailbox
import MeshRouting.Routing.Pool
import MeshRouting.Session.Samples
import MeshRouting.Session.Trace

/-!
# Selector sessions

Selectors over one cluster table driven step by step, next to a mailbox that hears when a cluster
loses its last reference.
-/
namespace MeshRouting

inductive SelectorOp where
  | build (update : ServiceUpdate)
  | acquire (name : String)
  | refCount (name : String)
  | prune
  | pick (selector : Nat) (method : String)
  | pickLeased (lease : Nat) (method : String)
  | retain (selector : Nat)
  | release (lease : Nat)
  | stop (selector : Nat)
  | inspect (selector : Nat)
  | take
  | publish (e : Envelope)
  | closeMailbox
  | dropMailbox
  deriving Repr

inductive SelectorAnswer where
  | done
  | unknown
  | unknownLease
  | rejected (e : SelectorError)
  | number (value : Option Nat)
  | counted (name : String) (count : Nat)
  | names (names : List String)
  | choices (names : Option NameSet)
  | flag (value : Bool)
  | inspected (selector : Selector)
  | taken (e : Option Envelope)
  deriving Repr

structure SelectorSession where
  pool : Pool := .empty
  mailbox : Option Mailbox := some {}
  trace : Trace := {}

structure SelectorStep where
  answer : SelectorAnswer
  table : List (String × Nat)
  selectors : List (Nat × Bool)
  notices : List Notice

namespace SelectorSession

def say (s : SelectorSession) (notices : List Notice) : SelectorSession :=
  { s with trace := s.trace.addNotices notices }

/-- Post a marker if a release drained a cluster. -/
def afterRelease (s : SelectorSession) (pool : Pool) (outcomes : List Released) :
    SelectorSession :=
  { s with
    pool
    mailbox := if Pool.drained outcomes then s.mailbox.map (·.nudge.1) else s.mailbox }

def leased? (s : SelectorSession) (lease : Nat) : Option Selector := do
  s.pool.selectors[← (s.pool.leases[lease]?).join]?

def perform (s : SelectorSession) : SelectorOp → SelectorSession × SelectorAnswer
  | .build update => match s.pool.build update with
    | .error e => (s, .rejected e)
    | .ok (pool, index) => ({ s with pool }, .number (some index))
  | .acquire name =>
    let (pool, entry) := s.pool.acquire name
    ({ s with pool }, .counted name (pool.table.refsOf entry))
  | .refCount name => (s, .number (s.pool.table.refCount? name))
  | .prune =>
    let names := s.pool.table.unreferenced
    ({ s with pool := s.pool.prune }.say (if names.isEmpty then [] else [.clustersPruned names]),
      .names names)
  | .pick selector method =>
    (s, (s.pool.selectors[selector]?).elim .unknown fun found => .choices (found.choices method))
  | .pickLeased lease method =>
    (s, (s.leased? lease).elim .unknownLease fun found => .choices (found.choices method))
  | .retain selector => match s.pool.retain selector with
    | none => (s, .number none)
    | some (pool, lease) => ({ s with pool }, .number (some lease))
  | .release lease => match s.pool.dropLease lease with
    | none => (s, .flag false)
    | some (pool, outcomes) => (s.afterRelease pool outcomes, .flag true)
  | .stop selector => match s.pool.stop selector with
    | (pool, .first outcomes) => (s.afterRelease pool outcomes, .done)
    | (pool, .again) => ({ s with pool }.say [.stoppedAgain], .done)
  | .inspect selector => (s, (s.pool.selectors[selector]?).elim .unknown .inspected)
  | .take => match s.mailbox with
    | none => (s, .done)
    | some mailbox =>
      let (mailbox, e) := mailbox.tryTake
      ({ s with mailbox := some mailbox }, .taken e)
  | .publish e => match s.mailbox with
    | none => (s, .done)
    | some mailbox =>
      let stale := mailbox.stale?.map fun stale => .unreadDropped stale.kind
      let (mailbox, stored) := mailbox.publish e
      ({ s with mailbox := some mailbox }.say stale.toList, .flag stored)
  | .closeMailbox => ({ s with mailbox := s.mailbox.map (·.close) }, .done)
  | .dropMailbox => ({ s with mailbox := none }, .done)

def step (s : SelectorSession) (op : SelectorOp) : SelectorSession × SelectorStep :=
  let (s, answer) := { s with trace := s.trace.nextStep }.perform op
  (s, ⟨answer, s.pool.table.counts, s.pool.selectors.map fun selector =>
    (selector.refs, selector.stopped), s.trace.shown⟩)

end SelectorSession
end MeshRouting
