import MeshRouting.Routing.ClusterTable
import MeshRouting.Text.Json

/-!
# Service config

The load-balancing config for a set of clusters: one cluster manager with a child per cluster,
in order of name.
-/
namespace MeshRouting.ServiceConfig

open MeshRouting.Text

def emptyConfig : String := "\x7b\x7d"

def childName (cluster : String) : String := "cluster:" ++ cluster

def member (name : String) (value : Json) : Json := .object [(name, value)]

def child (cluster : String) : Json :=
  member "childPolicy" (.array [member "cds_experimental" (member "cluster" (.string cluster))])

def manager (clusters : List String) : Json :=
  member "children" (.object (clusters.map fun cluster => (childName cluster, child cluster)))

def config (clusters : List String) : Json :=
  member "loadBalancingConfig"
    (.array [member "xds_cluster_manager_experimental" (manager clusters)])

def text (clusters : List String) : String := (config clusters).text

/-- Turns the clusters in use into the text of a service config, or says why it cannot. -/
abbrev Encoder := ClusterTable → Except String String

def standard : Encoder := fun table => .ok (text table.names)

end MeshRouting.ServiceConfig
