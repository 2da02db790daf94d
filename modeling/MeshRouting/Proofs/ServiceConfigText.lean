import MeshRouting.Proofs.JsonReading
import MeshRouting.Routing.ServiceConfig

/-!
# Service configs tell their clusters

A config is JSON, so it can be read back: its clusters are those it was written from, and two lists
of clusters have the same config only if they are equal.
-/
namespace MeshRouting.ServiceConfig

open MeshRouting.Text

/-- The cluster of a child, if it is named for the cluster and has one policy, for that cluster. -/
def clusterOf? : String × Json → Option String
  | (name, .object [("childPolicy",
      .array [.object [("cds_experimental", .object [("cluster", .string cluster)])]])]) =>
    if name = childName cluster then some cluster else none
  | _ => none

/-- The clusters of a config, in the order of its children. -/
def clustersOf? : Json → Option (List String)
  | .object [("loadBalancingConfig", .array [.object [("xds_cluster_manager_experimental",
      .object [("children", .object children)])]])] => children.mapM clusterOf?
  | _ => none

/-- The clusters of a config given as a text. -/
def readClusters? (text : String) : Option (List String) := (Json.ofText? text).bind clustersOf?

lemma clusterOf?_child (cluster : String) :
    clusterOf? (childName cluster, child cluster) = some cluster := if_pos rfl

lemma clustersOf?_config (clusters : List String) :
    clustersOf? (config clusters) = some clusters := by
  show (clusters.map fun cluster => (childName cluster, child cluster)).mapM clusterOf? = _
  induction clusters with
  | nil => rfl
  | cons cluster rest ih => simp [clusterOf?_child, ih]

theorem readClusters?_text (clusters : List String) :
    readClusters? (text clusters) = some clusters := by
  rw [readClusters?, text, Json.ofText?_text, Option.bind_some, clustersOf?_config]

theorem text_injective {clusters others : List String} (h : text clusters = text others) :
    clusters = others := by
  have hread := congrArg readClusters? h
  rwa [readClusters?_text, readClusters?_text, Option.some.injEq] at hread

theorem text_ne_emptyConfig (clusters : List String) : text clusters ≠ emptyConfig := by
  intro h
  have hread := congrArg readClusters? h
  rw [readClusters?_text] at hread
  cases hread

/-- A config with a child for a cluster, whatever other children it has. -/
def HasChild (config cluster : String) : Prop :=
  ∃ clusters, config = text clusters ∧ cluster ∈ clusters

@[simp] theorem hasChild_text_iff {clusters : List String} {cluster : String} :
    HasChild (text clusters) cluster ↔ cluster ∈ clusters := by
  constructor
  · rintro ⟨others, he, hm⟩
    rwa [text_injective he]
  · intro hm
    exact ⟨clusters, rfl, hm⟩

theorem not_hasChild_emptyConfig (cluster : String) : ¬ HasChild emptyConfig cluster := by
  rintro ⟨clusters, he, -⟩
  exact text_ne_emptyConfig clusters he.symm

end MeshRouting.ServiceConfig
