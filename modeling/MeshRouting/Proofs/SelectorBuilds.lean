import MeshRouting.Proofs.SelectorLifecycles
import MeshRouting.Proofs.WeightedDraws

/-!
# Building selectors

A selector is built if every route of the update can be used; otherwise the first route that cannot
is reported and nothing is taken. A selector that is built holds one reference on each cluster that
some route can send a call to, and a pick is one of those clusters of the first route that matches.
-/
namespace MeshRouting

namespace RouteAction

/-- A client can send calls somewhere. -/
def Usable : RouteAction → Prop
  | cluster name => name ≠ ""
  | weighted clusters => (∀ c ∈ clusters, c.name ≠ "") ∧ ∃ c ∈ clusters, 0 < c.weight
  | nonForwarding => False

/-- What is wrong with an action, the number of its route given. A missing name counts before
missing weight. -/
inductive Fault (route : Nat) : RouteAction → SelectorError → Prop
  | unforwarded : Fault route nonForwarding (.nonForwarding route)
  | nameless : Fault route (cluster "") (.emptyCluster route)
  | memberNameless {clusters : List WeightedCluster} (h : ∃ c ∈ clusters, c.name = "") :
      Fault route (weighted clusters) (.emptyCluster route)
  | weightless {clusters : List WeightedCluster} (hnamed : ∀ c ∈ clusters, c.name ≠ "")
      (hzero : ∀ c ∈ clusters, c.weight = 0) : Fault route (weighted clusters) (.zeroWeight route)

/-- Calls can go to the cluster. -/
def Targets : RouteAction → String → Prop
  | cluster only, name => only = name
  | weighted clusters, name => ∃ c ∈ clusters, 0 < c.weight ∧ c.name = name
  | nonForwarding, _ => False

end RouteAction

namespace RouteTarget

variable {route : Nat} {action : RouteAction} {target : RouteTarget} {e : SelectorError}
  {clusters : List WeightedCluster}

lemma totalWeight_eq_zero_iff : totalWeight clusters = 0 ↔ ∀ c ∈ clusters, c.weight = 0 := by
  induction clusters with
  | nil => simp [totalWeight]
  | cons c rest ih =>
    have hc : c.weight.toNat = 0 ↔ c.weight = 0 := by
      rw [← UInt32.toNat_zero, UInt32.toNat_inj]
    rw [totalWeight_cons, Nat.add_eq_zero_iff, ih, hc, List.forall_mem_cons]

lemma any_isEmpty_eq_true_iff :
    clusters.any (·.name.isEmpty) = true ↔ ∃ c ∈ clusters, c.name = "" := by
  simp

/-- An action is refused just for what is wrong with it. -/
theorem ofAction_eq_error_iff : ofAction route action = .error e ↔ action.Fault route e := by
  constructor
  · intro h
    cases action with
    | cluster name =>
      rw [ofAction] at h
      split at h
      · rename_i hname
        cases h
        rw [String.isEmpty_iff.mp hname]
        exact .nameless
      · cases h
    | weighted clusters =>
      rw [ofAction_weighted] at h
      split at h
      · rename_i hname
        cases h
        exact .memberNameless (any_isEmpty_eq_true_iff.mp hname)
      · rename_i hname
        split at h
        · rename_i hzero
          cases h
          refine .weightless (fun c hc he => ?_) (totalWeight_eq_zero_iff.mp hzero)
          exact hname (any_isEmpty_eq_true_iff.mpr ⟨c, hc, he⟩)
        · cases h
    | nonForwarding =>
      cases h
      exact .unforwarded
  · intro h
    cases h with
    | unforwarded => rfl
    | nameless => rfl
    | memberNameless hname => rw [ofAction_weighted, if_pos (any_isEmpty_eq_true_iff.mpr hname)]
    | weightless hnamed hzero =>
      have hall : ¬ _ := fun h => by
        obtain ⟨c, hc, he⟩ := any_isEmpty_eq_true_iff.mp h
        exact hnamed c hc he
      rw [ofAction_weighted, if_neg hall, if_pos (totalWeight_eq_zero_iff.mpr hzero)]

lemma usable_of_ofAction (h : ofAction route action = .ok target) : action.Usable := by
  cases action with
  | cluster name =>
    rintro rfl
    cases h
  | weighted clusters =>
    rw [ofAction_weighted] at h
    split at h
    · cases h
    · rename_i hname
      split at h
      · cases h
      · rename_i hzero
        refine ⟨fun c hc he => hname (any_isEmpty_eq_true_iff.mpr ⟨c, hc, he⟩), ?_⟩
        by_contra hnone
        refine hzero (totalWeight_eq_zero_iff.mpr fun c hc => ?_)
        by_contra hw
        exact hnone ⟨c, hc, UInt32.pos_iff_ne_zero.mpr hw⟩
  | nonForwarding => cases h

lemma not_usable_of_fault (h : action.Fault route e) : ¬ action.Usable := by
  cases h with
  | unforwarded => exact id
  | nameless => exact fun h => h rfl
  | memberNameless hname =>
    obtain ⟨c, hc, he⟩ := hname
    exact fun h => h.1 c hc he
  | weightless hnamed hzero =>
    rintro ⟨-, c, hc, hw⟩
    rw [hzero c hc] at hw
    exact absurd hw (by decide)

/-- A usable action has a target. -/
lemma exists_ofAction (h : action.Usable) (route : Nat) :
    ∃ target, ofAction route action = .ok target := by
  cases ht : ofAction route action with
  | ok target => exact ⟨target, rfl⟩
  | error e => exact absurd h (not_usable_of_fault (ofAction_eq_error_iff.mp ht))

/-- The names of a target are the clusters that the action targets. -/
lemma mem_names_iff_targets (h : ofAction route action = .ok target) (name : String) :
    name ∈ target.names ↔ action.Targets name := by
  cases action with
  | cluster only =>
    rw [ofAction] at h
    split at h
    · cases h
    · cases h
      simp [names, RouteAction.Targets, eq_comm]
  | weighted clusters =>
    obtain ⟨-, rfl⟩ := eq_of_ofAction_weighted h
    simp [names, RouteAction.Targets, and_assoc]
  | nonForwarding => cases h

end RouteTarget

namespace ServiceUpdate

/-- Some route can send calls to the cluster. -/
def Targets (update : ServiceUpdate) (name : String) : Prop :=
  ∃ route ∈ update.host.routes, route.action.Targets name

/-- The first route that cannot be used has this fault. -/
def FirstFault (update : ServiceUpdate) (e : SelectorError) : Prop :=
  ∃ before route after, update.host.routes = before ++ route :: after ∧
    (∀ earlier ∈ before, earlier.action.Usable) ∧ route.action.Fault before.length e

end ServiceUpdate

namespace Selector

variable {update : ServiceUpdate} {routes : List RoutedTarget} {s : Selector} {e : SelectorError}
  {declared : List Route} {index : Nat}

/-! ### Targets of the routes -/

lemma targetsFrom_cons_ok {route : Route} {target : RouteTarget}
    (h : RouteTarget.ofAction index route.action = .ok target) (rest : List Route) :
    targetsFrom index (route :: rest) =
      (targetsFrom (index + 1) rest).map (⟨route, target⟩ :: ·) := by
  rw [targetsFrom, h]
  cases targetsFrom (index + 1) rest <;> rfl

lemma targetsFrom_cons_error {route : Route}
    (h : RouteTarget.ofAction index route.action = .error e) (rest : List Route) :
    targetsFrom index (route :: rest) = .error e := by
  rw [targetsFrom, h]
  rfl

lemma exists_targetsFrom (h : ∀ route ∈ declared, route.action.Usable) (index : Nat) :
    ∃ routes, targetsFrom index declared = .ok routes := by
  induction declared generalizing index with
  | nil => exact ⟨[], rfl⟩
  | cons route rest ih =>
    obtain ⟨hroute, hrest⟩ := List.forall_mem_cons.mp h
    obtain ⟨target, ht⟩ := RouteTarget.exists_ofAction hroute index
    obtain ⟨routes, hr⟩ := ih hrest (index + 1)
    exact ⟨⟨route, target⟩ :: routes, by rw [targetsFrom_cons_ok ht, hr]; rfl⟩

lemma map_route_of_targetsFrom (h : targetsFrom index declared = .ok routes) :
    routes.map (·.route) = declared := by
  induction declared generalizing index routes with
  | nil =>
    cases h
    rfl
  | cons route rest ih =>
    cases ht : RouteTarget.ofAction index route.action with
    | error e =>
      rw [targetsFrom_cons_error ht] at h
      cases h
    | ok target =>
      rw [targetsFrom_cons_ok ht] at h
      cases ho : targetsFrom (index + 1) rest with
      | error e =>
        rw [ho] at h
        cases h
      | ok others =>
        rw [ho] at h
        cases h
        rw [List.map_cons, ih ho]

/-- The first fault ends the reading. -/
lemma targetsFrom_of_fault {before after : List Route} {route : Route}
    (hb : ∀ earlier ∈ before, earlier.action.Usable)
    (hf : route.action.Fault (index + before.length) e) :
    targetsFrom index (before ++ route :: after) = .error e := by
  induction before generalizing index with
  | nil => exact targetsFrom_cons_error (RouteTarget.ofAction_eq_error_iff.mpr hf) after
  | cons first rest ih =>
    obtain ⟨hfirst, hrest⟩ := List.forall_mem_cons.mp hb
    obtain ⟨target, ht⟩ := RouteTarget.exists_ofAction hfirst index
    have hrestFault : route.action.Fault (index + 1 + rest.length) e := by
      rwa [List.length_cons, Nat.add_comm rest.length 1, ← Nat.add_assoc] at hf
    rw [List.cons_append, targetsFrom_cons_ok ht, ih hrest hrestFault]
    rfl

lemma exists_fault_of_targetsFrom (h : targetsFrom index declared = .error e) :
    ∃ before route after, declared = before ++ route :: after ∧
      (∀ earlier ∈ before, earlier.action.Usable) ∧
      route.action.Fault (index + before.length) e := by
  induction declared generalizing index with
  | nil => cases h
  | cons route rest ih =>
    cases ht : RouteTarget.ofAction index route.action with
    | error found =>
      rw [targetsFrom_cons_error ht] at h
      cases h
      exact ⟨[], route, rest, rfl, by simp, RouteTarget.ofAction_eq_error_iff.mp ht⟩
    | ok target =>
      rw [targetsFrom_cons_ok ht] at h
      cases ho : targetsFrom (index + 1) rest with
      | ok others =>
        rw [ho] at h
        cases h
      | error found =>
        rw [ho] at h
        cases h
        obtain ⟨before, bad, after, rfl, hb, hf⟩ := ih ho
        refine ⟨route :: before, bad, after, rfl, ?_, ?_⟩
        · exact List.forall_mem_cons.mpr ⟨RouteTarget.usable_of_ofAction ht, hb⟩
        · rwa [List.length_cons, Nat.add_comm before.length 1, ← Nat.add_assoc]

theorem targetsOf_eq_error_iff : targetsOf update = .error e ↔ update.FirstFault e := by
  constructor
  · intro h
    obtain ⟨before, route, after, heq, hb, hf⟩ := exists_fault_of_targetsFrom h
    exact ⟨before, route, after, heq, hb, by rwa [Nat.zero_add] at hf⟩
  · rintro ⟨before, route, after, heq, hb, hf⟩
    rw [targetsOf, heq]
    exact targetsFrom_of_fault hb (by rwa [Nat.zero_add])

theorem exists_targetsOf_iff :
    (∃ routes, targetsOf update = .ok routes) ↔
      ∀ route ∈ update.host.routes, route.action.Usable := by
  constructor
  · rintro ⟨routes, h⟩ route hr
    rw [← map_route_of_targetsFrom h] at hr
    obtain ⟨routed, hm, rfl⟩ := List.mem_map.mp hr
    obtain ⟨place, hvalid⟩ := targetsFrom_valid h routed hm
    exact RouteTarget.usable_of_ofAction hvalid
  · exact fun h => exists_targetsFrom h 0

/-! ### Clusters and picks -/

lemma mem_clustersOf_iff (h : targetsOf update = .ok routes) (name : String) :
    name ∈ clustersOf routes ↔ update.Targets name := by
  rw [clustersOf, NameSet.mem_ofList, List.mem_flatMap, ServiceUpdate.Targets,
    ← map_route_of_targetsFrom h]
  constructor
  · rintro ⟨routed, hm, hn⟩
    obtain ⟨place, hvalid⟩ := targetsFrom_valid h routed hm
    exact ⟨_, List.mem_map_of_mem hm, (RouteTarget.mem_names_iff_targets hvalid name).mp hn⟩
  · rintro ⟨route, hr, hn⟩
    obtain ⟨routed, hm, rfl⟩ := List.mem_map.mp hr
    obtain ⟨place, hvalid⟩ := targetsFrom_valid h routed hm
    exact ⟨routed, hm, (RouteTarget.mem_names_iff_targets hvalid name).mpr hn⟩

/-- The selector lists the clusters that the update targets, each once and in order. It picks for a
method if some route matches, and then, whatever is drawn, a cluster that the first such route
targets. -/
structure Serves (s : Selector) (update : ServiceUpdate) : Prop where
  ascending : s.clusterNames.Pairwise (· < ·)
  listed : ∀ name, name ∈ s.clusterNames ↔ update.Targets name
  unmatched : ∀ method point, s.pick method point = none ↔
    ∀ route ∈ update.host.routes, route.matches method = false
  matched : ∀ method point cluster, s.pick method point = some cluster →
    cluster ∈ s.clusterNames ∧ ∃ route,
      update.host.routes.find? (·.matches method) = some route ∧ route.action.Targets cluster

/-- The route that a pick follows is the first one of the update that matches. -/
lemma find?_route (h : targetsOf update = .ok s.routes) (method : String) :
    (s.routes.find? (·.route.matches method)).map (·.route) =
      update.host.routes.find? (·.matches method) := by
  rw [← map_route_of_targetsFrom h, List.find?_map]
  rfl

lemma serves_of_targetsOf (h : targetsOf update = .ok s.routes)
    (hc : s.clusterNames = (clustersOf s.routes).toList) : s.Serves update where
  ascending := hc ▸ (clustersOf s.routes).ascending
  listed name := by
    rw [hc]
    exact mem_clustersOf_iff h name
  unmatched method point := by
    rw [pick, target?, Option.map_eq_none_iff, Option.map_eq_none_iff,
      ← Option.map_eq_none_iff (f := (·.route)), find?_route h, List.find?_eq_none]
    simp only [Bool.not_eq_true]
  matched method point cluster hp := by
    refine ⟨picksListed_of_targetsOf h hc method point cluster hp, ?_⟩
    simp only [pick, target?, Option.map_map, Option.map_eq_some_iff] at hp
    obtain ⟨routed, hfound, rfl⟩ := hp
    obtain ⟨place, hvalid⟩ := targetsFrom_valid h routed (List.mem_of_find?_eq_some hfound)
    refine ⟨routed.route, by rw [← find?_route h, hfound]; rfl, ?_⟩
    exact (RouteTarget.mem_names_iff_targets hvalid _).mp
      (RouteTarget.choose_mem_names hvalid point)

end Selector

namespace Pool

/-- One reference is taken on each cluster that the update targets and none on any other, and each
is on the entry that the table lists. -/
structure Takes (t later : ClusterTable) (update : ServiceUpdate) (holds : List ClusterHold) :
    Prop where
  targeted : ∀ name, update.Targets name →
    later.refCount? name = some ((t.refCount? name).getD 0 + 1)
  others : ∀ name, ¬ update.Targets name → later.refCount? name = t.refCount? name
  listed : Listed later holds

lemma takes_acquireAll {t : ClusterTable} (hc : t.Coherent) {update : ServiceUpdate}
    {routes : List RoutedTarget} (h : Selector.targetsOf update = .ok routes) :
    Takes t (acquireAll t (Selector.clustersOf routes).toList).1 update
      (acquireAll t (Selector.clustersOf routes).toList).2 := by
  have hmem (name : String) : name ∈ (Selector.clustersOf routes).toList ↔ update.Targets name :=
    Selector.mem_clustersOf_iff h name
  have hnodup := (Selector.clustersOf routes).ascending.imp ne_of_lt
  have hcount (name : String) := refCount?_acquireAll hc hnodup name
  refine ⟨fun name ht => ?_, fun name ht => ?_, fun hold => find?_of_mem_acquireAll⟩
  · rw [hcount, if_pos ((hmem name).mpr ht)]
  · rw [hcount, if_neg (mt (hmem name).mp ht)]

end Pool

namespace SelectorSession

variable {t : SelectorSession} {update : ServiceUpdate}

lemma perform_build_error {e : SelectorError} (h : Selector.targetsOf update = .error e) :
    t.perform (.build update) = (t, .rejected e) := by
  rw [perform, Pool.build_eq_error h]

lemma perform_build_ok {routes : List RoutedTarget} (h : Selector.targetsOf update = .ok routes) :
    t.perform (.build update) =
      ({ t with pool := { t.pool with
          table := (Pool.acquireAll t.pool.table (Selector.clustersOf routes).toList).1
          selectors := t.pool.selectors ++ [Pool.built t.pool.table routes] } },
        .number (some t.pool.selectors.length)) := by
  rw [perform, Pool.build_eq_ok h]

/-- Building, whatever has been done before. A selector comes of an update just if all its routes
can be used, and else the first one that cannot is reported and nothing has changed. The new
selector serves the update and has one reference on each of its clusters. -/
theorem build_exact (ops : List SelectorOp) (update : ServiceUpdate) :
    let t := after ops
    let (u, answer) := t.perform (.build update)
    ((∃ s, answer = .number (some s)) ↔ ∀ route ∈ update.host.routes, route.action.Usable) ∧
    (∀ e, answer = .rejected e ↔ update.FirstFault e) ∧
    (∀ e, answer = .rejected e → u = t) ∧
    (∀ s, answer = .number (some s) → ∃ selector,
      s = t.pool.selectors.length ∧ u.pool.selectors = t.pool.selectors ++ [selector] ∧
      selector.Serves update ∧
      Pool.Takes t.pool.table u.pool.table update selector.clusters) := by
  intro t
  obtain ⟨taken, hexact⟩ : ∃ taken, t.pool.Exact taken := exact_after ops
  cases ht : Selector.targetsOf update with
  | error e =>
    have hfirst := Selector.targetsOf_eq_error_iff.mp ht
    rw [perform_build_error ht]
    refine ⟨iff_of_false nofun fun hall => ?_, fun other => ?_, fun _ _ => rfl, nofun⟩
    · obtain ⟨routes, hr⟩ := Selector.exists_targetsOf_iff.mpr hall
      rw [ht] at hr
      cases hr
    · rw [SelectorAnswer.rejected.injEq, ← Selector.targetsOf_eq_error_iff, ht, Except.error.injEq]
  | ok routes =>
    rw [perform_build_ok ht]
    refine ⟨iff_of_true ⟨_, rfl⟩ (Selector.exists_targetsOf_iff.mp ⟨routes, ht⟩), fun e => ?_,
      nofun, fun s hs => ?_⟩
    · refine iff_of_false nofun fun hfirst => ?_
      rw [Selector.targetsOf_eq_error_iff.mpr hfirst] at ht
      cases ht
    · cases hs
      exact ⟨Pool.built t.pool.table routes, rfl, rfl,
        Selector.serves_of_targetsOf ht Pool.acquireAll_names,
        Pool.takes_acquireAll hexact.coherent ht⟩

end SelectorSession
end MeshRouting
