import MeshRouting.Discovery.Route
import MeshRouting.Discovery.WatchError

/-!
# Routing resources

The parsed resources that a control plane delivers about routes.
-/
namespace MeshRouting

structure VirtualHost where
  domains : List String
  routes : List Route
  deriving DecidableEq, Repr

/-- What a client needs to call a service: the virtual host chosen for its dial target. -/
structure ServiceUpdate where
  host : VirtualHost
  deriving DecidableEq, Repr

structure RouteConfig where
  name : String
  hosts : List VirtualHost
  deriving DecidableEq, Repr

end MeshRouting
