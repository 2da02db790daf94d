import MeshRouting.Names.NameMap
import MeshRouting.Net.Endpoint
import MeshRouting.Resolution.Envelope

/-!
# Metrics

What the library counts. A counter adds up its records, a gauge keeps the last one.
-/
namespace MeshRouting

/-- What became of a connection that was taken from the acceptor. -/
inductive ConnectionOutcome where
  | matched
  | noMatch
  | notServing
  deriving DecidableEq, Repr

def ConnectionOutcome.text : ConnectionOutcome → String
  | matched => "matched"
  | noMatch => "no_match"
  | notServing => "not_serving"

inductive Metric where
  | resolverUpdate (kind : EnvelopeKind)
  | serializationFailure
  | activeClusters (count : Nat)
  | connection (outcome : ConnectionOutcome)
  | acceptBackoff
  | serving (address : Endpoint) (on : Bool)
  deriving DecidableEq, Repr

/-- Add to the value so far, or take its place. -/
inductive MetricChange where
  | add (amount : Nat)
  | set (value : Nat)
  deriving DecidableEq, Repr

namespace Metric

/-- A metric name with the value of its one label. -/
def labelled (name label value : String) : String :=
  name ++ "\x7b" ++ label ++ "=" ++ value ++ "\x7d"

def key : Metric → String
  | resolverUpdate kind => labelled "xds_resolver_updates_total" "kind" kind.text
  | serializationFailure => "xds_resolver_serialization_failures_total"
  | activeClusters _ => "xds_resolver_active_clusters"
  | connection outcome => labelled "xds_listener_connections_total" "outcome" outcome.text
  | acceptBackoff => "xds_listener_accept_backoff_total"
  | serving address _ => labelled "xds_listener_serving" "address" address.text

def change : Metric → MetricChange
  | activeClusters count => .set count
  | serving _ on => .set (if on then 1 else 0)
  | _ => .add 1

def record (totals : NameMap Nat) (m : Metric) : NameMap Nat :=
  totals.insert m.key <| match m.change with
    | .add amount => (totals.find? m.key).getD 0 + amount
    | .set value => value

/-- The value of every metric after all records, in order of key. -/
def totals (records : List Metric) : NameMap Nat := records.foldl record .empty

end Metric
end MeshRouting
