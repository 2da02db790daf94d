/-!
# Serving mode

Whether a listener takes connections. It starts out undecided, and serves once it has a complete
configuration.
-/
namespace MeshRouting

inductive ServingMode where
  | starting
  | serving
  | notServing
  deriving DecidableEq, Repr

def ServingMode.text : ServingMode → String
  | starting => "starting"
  | serving => "serving"
  | notServing => "not_serving"

end MeshRouting
