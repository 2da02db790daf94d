import MeshRouting.Proofs.Names
import MeshRouting.Routing.Selector
import Mathlib.Tactic.Lemma

/-!
# What a selector picks

Whatever is drawn, a pick is one of the clusters that the update's usable targets name.
-/
namespace MeshRouting

namespace RouteTarget

lemma ownerOf_mem {clusters : List WeightedCluster} {point : Nat} {name : String}
    (h : ownerOf clusters point = some name) : name ∈ clusters.map (·.name) := by
  induction clusters generalizing point with
  | nil => simp [ownerOf] at h
  | cons first rest ih =>
    simp only [ownerOf] at h
    split at h
    · simp [← Option.some.inj h]
    · exact List.mem_cons_of_mem _ (ih h)

lemma getLast?_name_mem {clusters : List WeightedCluster} (hne : clusters ≠ []) :
    (clusters.getLast?.map (·.name)).getD "" ∈ clusters.map (·.name) := by
  rw [List.getLast?_eq_some_getLast hne]
  exact List.mem_map.mpr ⟨_, List.getLast_mem hne, rfl⟩

/-- A target that was accepted has a cluster for every draw. -/
theorem choose_mem_names {route : Nat} {action : RouteAction} {target : RouteTarget}
    (h : ofAction route action = .ok target) (point : Nat) :
    target.choose point ∈ target.names := by
  cases action with
  | cluster name =>
    simp only [ofAction] at h
    split at h
    · cases h
    · cases h
      simp [choose, names]
  | weighted clusters =>
    simp only [ofAction, ofWeighted] at h
    split at h
    · cases h
    split at h
    · cases h
    rename_i htotal
    cases h
    have hne : clusters.filter (0 < ·.weight) ≠ [] := by
      intro he
      simp [totalWeight, he] at htotal
    simp only [choose, names]
    cases ho : ownerOf (clusters.filter (0 < ·.weight)) point with
    | none => exact getLast?_name_mem hne
    | some name => exact ownerOf_mem ho
  | nonForwarding => cases h

end RouteTarget

namespace Selector

variable {routes : List RoutedTarget}

lemma targetsFrom_valid {index : Nat} {declared : List Route}
    (h : targetsFrom index declared = .ok routes) :
    ∀ r ∈ routes, ∃ place, RouteTarget.ofAction place r.route.action = .ok r.target := by
  induction declared generalizing index routes with
  | nil =>
    cases h
    simp
  | cons route rest ih =>
    simp only [targetsFrom, bind, Except.bind] at h
    cases ht : RouteTarget.ofAction index route.action with
    | error e => simp [ht] at h
    | ok target =>
      cases ho : targetsFrom (index + 1) rest with
      | error e => simp [ht, ho] at h
      | ok others =>
        simp only [ht, ho, pure, Except.pure, Except.ok.injEq] at h
        subst h
        intro r hm
        rcases List.mem_cons.mp hm with rfl | hm
        · exact ⟨index, ht⟩
        · exact ih ho r hm

def PicksListed (s : Selector) : Prop :=
  ∀ method point cluster, s.pick method point = some cluster → cluster ∈ s.clusterNames

theorem picksListed_of_targetsOf {update : ServiceUpdate} {s : Selector}
    (h : targetsOf update = .ok s.routes)
    (hc : s.clusterNames = (clustersOf s.routes).toList) : s.PicksListed := by
  intro method point cluster hp
  simp only [pick, target?, Option.map_map, Option.map_eq_some_iff] at hp
  obtain ⟨r, hfound, rfl⟩ := hp
  have hm := List.mem_of_find?_eq_some hfound
  obtain ⟨place, hvalid⟩ := targetsFrom_valid h r hm
  have hmem : r.target.choose point ∈ clustersOf s.routes :=
    NameSet.mem_ofList.mpr
      (List.mem_flatMap.mpr ⟨r, hm, RouteTarget.choose_mem_names hvalid point⟩)
  rw [hc]
  exact hmem

end Selector
end MeshRouting
