import MeshRouting.Proofs.PoolReferences
import MeshRouting.Proofs.ServiceConfigText

/-!
# Configs of cluster tables

The config of a table depends on the listed names alone: not on how many references they have, nor
on the order in which the names came to be listed.
-/
namespace MeshRouting

namespace ClusterTable

variable {t other : ClusterTable}

lemma names_ascending (t : ClusterTable) : t.names.Pairwise (· < ·) := t.active.ascending

/-- A table lists its names in the one order there is. -/
lemma names_eq_iff : other.names = t.names ↔ ∀ name, name ∈ other.names ↔ name ∈ t.names := by
  constructor
  · intro he name
    rw [he]
  · intro hm
    have hset : other.active.keySet = t.active.keySet := NameSet.eq_of_mem_iff hm
    exact congrArg NameSet.toList hset

lemma mem_names_acquire {name acquired : String} :
    name ∈ (t.acquire acquired).1.names ↔ name = acquired ∨ name ∈ t.names := by
  simp only [names, NameMap.mem_keys_iff, find?_acquire]
  by_cases he : acquired = name
  · simp [he]
  · simp [he, Ne.symm he]

lemma mem_names_acquireAll {name : String} {acquired : List String} :
    name ∈ (Pool.acquireAll t acquired).1.names ↔ name ∈ acquired ∨ name ∈ t.names := by
  induction acquired generalizing t with
  | nil => simp [Pool.acquireAll]
  | cons first rest ih =>
    simp only [Pool.acquireAll, ih, mem_names_acquire, List.mem_cons]
    tauto

lemma names_release (entry : Nat) : (t.release entry).1.names = t.names :=
  congrArg NameMap.keys (release_active entry)

end ClusterTable

namespace ServiceConfig

open MeshRouting.Text

variable {t other : ClusterTable}

/-- Names of children are in order when those of their clusters are: all begin in the same way. -/
lemma childName_lt {name greater : String} (h : name < greater) :
    childName name < childName greater := by
  rw [String.lt_iff_toList_lt] at h ⊢
  simp only [childName, String.toList_append]
  exact List.append_left_lt h

lemma standard_eq_iff :
    standard other = standard t ↔ ∀ name, name ∈ other.names ↔ name ∈ t.names := by
  rw [← ClusterTable.names_eq_iff]
  constructor
  · intro h
    exact text_injective (Except.ok.inj h)
  · intro h
    simp only [standard, h]

/-- Two ways of using clusters come to the same config if the names they add are the same. -/
lemma standard_acquireAll_eq_iff {acquired others : List String} :
    standard (Pool.acquireAll t acquired).1 = standard (Pool.acquireAll t others).1 ↔
      ∀ name, name ∉ t.names → (name ∈ acquired ↔ name ∈ others) := by
  simp only [standard_eq_iff, ClusterTable.mem_names_acquireAll]
  constructor
  · intro h name hnew
    simpa [hnew] using h name
  · intro h name
    by_cases hlisted : name ∈ t.names
    · simp [hlisted]
    · simpa [hlisted] using h name hlisted

/-- Every table has a config: a cluster manager with one child for each listed name, in order. It
can be told from the text which names these are, and nothing else about the table can. -/
theorem standard_faithful (t : ClusterTable) :
    ∃ text children, standard t = .ok text ∧
      Json.ofText? text = some (.object [("loadBalancingConfig", .array [.object
        [("xds_cluster_manager_experimental", .object [("children", .object children)])]])]) ∧
      children = t.names.map (fun name => ("cluster:" ++ name,
        .object [("childPolicy", .array [.object
          [("cds_experimental", .object [("cluster", .string name)])]])])) ∧
      (children.map (·.1)).Pairwise (· < ·) ∧
      readClusters? text = some t.names ∧
      (∀ other, standard other = .ok text ↔ ∀ name, name ∈ other.names ↔ name ∈ t.names) ∧
      (∀ entry, standard (t.release entry).1 = .ok text) ∧
      ∀ acquired others,
        standard (Pool.acquireAll t acquired).1 = standard (Pool.acquireAll t others).1 ↔
          ∀ name, name ∉ t.names → (name ∈ acquired ↔ name ∈ others) := by
  refine ⟨text t.names, t.names.map fun name => (childName name, child name), rfl,
    Json.ofText?_text (config t.names), rfl, ?_, readClusters?_text t.names,
    fun other => standard_eq_iff, fun entry => ?_, fun _ _ => standard_acquireAll_eq_iff⟩
  · simp only [List.map_map, List.pairwise_map]
    exact t.names_ascending.imp childName_lt
  · rw [standard, ClusterTable.names_release]

end ServiceConfig
end MeshRouting
