import MeshRouting.Discovery.Resource

/-!
# Envelopes

What waits in a mailbox for the worker of a resolver: a service update, an error of the watch, or
a marker that asks for the current state to be published again.
-/
namespace MeshRouting

inductive Envelope where
  | service (update : ServiceUpdate)
  | republish
  | error (e : WatchError)
  deriving DecidableEq, Repr

inductive EnvelopeKind where
  | serviceUpdate
  | republish
  | notFound
  | error
  deriving DecidableEq, Repr

def EnvelopeKind.text : EnvelopeKind → String
  | serviceUpdate => "service_update"
  | republish => "republish"
  | notFound => "not_found"
  | error => "error"

namespace Envelope

def kind : Envelope → EnvelopeKind
  | service _ => .serviceUpdate
  | republish => .republish
  | error e => if e.isNotFound then .notFound else .error

def ofWatch : Except WatchError ServiceUpdate → Envelope
  | .ok update => service update
  | .error e => error e

end Envelope
end MeshRouting
