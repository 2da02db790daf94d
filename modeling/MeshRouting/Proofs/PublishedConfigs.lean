import MeshRouting.Proofs.PoolLosses
import MeshRouting.Proofs.WorkerRuns

/-!
# Published configs

With the standard encoder no delivery fails. Each config has one child for every cluster that is
held at that moment, so whatever a held selector picks can be found in it, and in every later
config for as long as somebody holds the selector.
-/
namespace MeshRouting

open ServiceConfig

/-- The standard config for a selector and the clusters in use. -/
def configOf (selector : Option Nat) (clusters : List String) : String :=
  if selector = none ∧ clusters = [] then emptyConfig else text clusters

variable {selector : Option Nat} {clusters : List String}

lemma configOf_eq_emptyConfig_iff :
    configOf selector clusters = emptyConfig ↔ selector = none ∧ clusters = [] := by
  by_cases h : selector = none ∧ clusters = []
  · simp [configOf, h]
  · simp only [configOf, h, if_false, iff_false]
    exact text_ne_emptyConfig clusters

lemma hasChild_configOf_iff {cluster : String} :
    HasChild (configOf selector clusters) cluster ↔ cluster ∈ clusters := by
  by_cases h : selector = none ∧ clusters = []
  · simp [configOf, h, not_hasChild_emptyConfig]
  · simp [configOf, h]

namespace Pool

variable {p q : Pool}

lemma release_active (p : Pool) (s : Nat) : (p.release s).1.table.active = p.table.active := by
  simp only [release]
  split
  · rfl
  · split
    · exact releaseAll_active
    · rfl

lemma stop_active (p : Pool) (s : Nat) : (p.stop s).1.table.active = p.table.active := by
  simp only [stop]
  split
  · rfl
  · split
    · rfl
    · exact release_active _ s

lemma retain_active {s lease : Nat} (h : p.retain s = some (q, lease)) :
    q.table.active = p.table.active := by
  obtain ⟨selector, -, -, rfl⟩ := eq_of_retain h
  rfl

lemma dropLease_active {lease : Nat} {outcomes : List Released}
    (h : p.dropLease lease = some (q, outcomes)) : q.table.active = p.table.active := by
  obtain ⟨s, rfl⟩ := eq_of_dropLease h
  exact release_active _ s

def Holds (p : Pool) (s : Nat) : Prop :=
  ∃ selector, p.selectors[s]? = some selector ∧ 0 < selector.refs

/-- For some method and some draw the selector picks the cluster. -/
def CanPick (p : Pool) (s : Nat) (cluster : String) : Prop :=
  ∃ selector, p.selectors[s]? = some selector ∧
    ∃ method point, selector.pick method point = some cluster

lemma Sound.mem_heldClusters_of_canPick (h : p.Sound) {s : Nat} {cluster : String}
    (hheld : p.Holds s) (hpick : p.CanPick s cluster) : cluster ∈ p.heldClusters := by
  obtain ⟨selector, hs, hr⟩ := hheld
  obtain ⟨same, hsame, method, point, hp⟩ := hpick
  rw [hs, Option.some.injEq] at hsame
  subst hsame
  have hm := List.mem_of_getElem? hs
  exact mem_heldClusters_iff.mpr ⟨selector, hm, hr, h.picks selector hm method point cluster hp⟩

lemma Sound.canPick_of_leads (h : p.Sound) (hl : p.Leads q) {s : Nat} {cluster : String}
    (hpick : p.CanPick s cluster) : q.CanPick s cluster := by
  obtain ⟨selector, hs, method, point, hp⟩ := hpick
  obtain ⟨later, hlater, hage⟩ := h.ages hl hs
  refine ⟨later, hlater, method, point, ?_⟩
  rw [← hp]
  simp only [Selector.pick, Selector.target?, hage.routes]

end Pool

namespace Worker

variable {w : Worker} {e : Envelope} {act : WorkerAct} {d : Delivery}

lemma offer_standard (w : Worker) (selector : Option Nat) :
    w.offer standard selector =
      some ⟨w.pool.prune, ⟨configOf selector w.pool.prune.table.names, selector⟩⟩ := by
  have hempty : w.pool.prune.table.isEmpty = true ↔ w.pool.prune.table.names = [] := by
    simp [ClusterTable.isEmpty, ClusterTable.names, NameMap.isEmpty, NameMap.keys]
  by_cases h : selector = none ∧ w.pool.prune.table.names = []
  · simp [offer, configFor, prune, configOf, h, hempty.mpr h.2]
  · have hn : (selector.isNone && w.pool.prune.table.isEmpty) = false := by
      rw [Bool.and_eq_false_iff, ← Bool.not_eq_true, ← Bool.not_eq_true, Option.isNone_iff_eq_none,
        hempty, ← not_and_or]
      exact h
    simp [offer, configFor, prune, configOf, h, hn, standard]

/-- The standard encoder delivers for every envelope that prunes. -/
lemma delivery?_standard_eq_none (h : w.delivery? standard e = none) : e.prunes = false := by
  obtain hnot | ⟨cause, hf, rfl⟩ | rfl | ⟨update, pool, s, hb, rfl, -⟩ := envelope_cases w e
  · exact hnot
  · simp [delivery?, hf, offer_standard] at h
  · simp [delivery?, offer_standard] at h
  · simp [delivery?, hb, offer_standard] at h

lemma config_delivery?_standard (h : w.delivery? standard e = some d) :
    d.state.config = configOf d.state.selector d.pool.table.names := by
  have hoffer : ∀ (v : Worker) (selector : Option Nat), v.offer standard selector = some d →
      d.state.config = configOf d.state.selector d.pool.table.names := by
    intro v selector hd
    rw [offer_standard, Option.some.injEq] at hd
    rw [← hd]
  obtain hnot | ⟨cause, hf, rfl⟩ | rfl | ⟨update, pool, s, hb, rfl, -⟩ := envelope_cases w e
  · simp [(handle_of_not_prunes standard w hnot).2.1] at h
  · exact hoffer w none (by simpa [delivery?, hf] using h)
  · exact hoffer w w.current h
  · exact hoffer { w with pool } (some s) (by simpa [delivery?, hb] using h)

lemma stopCurrent_active (w : Worker) :
    w.stopCurrent.1.pool.table.active = w.pool.table.active := by
  simp only [stopCurrent]
  split
  · rfl
  · rw [stop_pool, Pool.stop_active]

/-- What follows a delivery leaves the listed clusters alone. -/
lemma handle_active_of_delivery {encode : Encoder} (hd : w.delivery? encode e = some d) :
    (w.handle encode e).1.pool.table.active = d.pool.table.active := by
  obtain hnot | ⟨cause, hf, rfl⟩ | rfl | ⟨update, pool, s, hb, rfl, -⟩ := envelope_cases w e
  · simp [(handle_of_not_prunes encode w hnot).2.1] at hd
  · simp only [delivery?, hf, if_true] at hd
    rw [handle_notFound hf, stopCurrent_active, (offer_pool hd).1]
  · simp only [delivery?] at hd
    rw [handle_republish, (offer_pool hd).1]
  · simp only [delivery?, hb] at hd
    rw [handle_service hb, install_worker, if_pos (by simp [hd]), (offer_pool hd).1]
    exact stopCurrent_active _

lemma config_delivered?_standard (hd : w.delivered? standard act = some d) :
    d.state.config = configOf d.state.selector d.pool.table.names := by
  obtain ⟨e, rfl, hd⟩ := delivered?_eq_some hd
  exact config_delivery?_standard hd

lemma perform_names_of_delivery {encode : Encoder} (hd : w.delivered? encode act = some d) :
    (w.perform encode act).1.pool.table.names = d.pool.table.names := by
  obtain ⟨e, rfl, hd⟩ := delivered?_eq_some hd
  exact congrArg NameMap.keys (handle_active_of_delivery hd)

lemma perform_names_of_no_delivery (hd : w.delivered? standard act = none) :
    (w.perform standard act).1.pool.table.names = w.pool.table.names := by
  refine congrArg NameMap.keys ?_
  obtain ⟨e, rfl⟩ | ⟨-, hsame | ⟨s, pool, lease, hp, hnext⟩ |
    ⟨lease, pool, outcomes, hp, hnext⟩⟩ := perform_cases standard w act
  · have hnot := delivery?_standard_eq_none (e := e) hd
    rw [perform, (handle_of_not_prunes standard w hnot).1]
  · rw [hsame]
  · rw [hnext]
    exact Pool.retain_active hp
  · rw [hnext, afterRelease_pool]
    exact Pool.dropLease_active hp

end Worker

namespace WorkerRun

variable {run : WorkerRun} {act : WorkerAct}

/-- With the standard encoder every config has the held clusters, and the last one still has what
the table lists. -/
structure Announced (run : WorkerRun) : Prop where
  sound : run.Sound
  configs : ∀ d ∈ run.deliveries,
    d.state.config = configOf d.state.selector d.pool.heldClusters.toList
  latest : ∀ state, run.last? = some state → ∀ cluster,
    HasChild state.config cluster ↔ cluster ∈ run.worker.pool.table.names

lemma announced_start (endpoint : String) : (start endpoint).Announced where
  sound := sound_start endpoint
  configs := by simp [start, deliveries]
  latest := by simp [start, last?, statesOf]

lemma Announced.next (h : run.Announced) : (run.next standard act).Announced := by
  refine ⟨h.sound.next, ?_, ?_⟩
  · intro d hm
    rw [deliveries_next] at hm
    rcases List.mem_append.mp hm with hm | hm
    · exact h.configs d hm
    · have hd := Option.mem_toList.mp hm
      have hsound := Worker.sound_delivered h.sound.pool h.sound.attached hd
      rw [Worker.config_delivered?_standard hd, hsound.names]
  · intro state hlast cluster
    rw [last?_next] at hlast
    cases hd : run.worker.delivered? standard act with
    | none =>
      rw [hd] at hlast
      show _ ↔ cluster ∈ (run.worker.perform standard act).1.pool.table.names
      rw [Worker.perform_names_of_no_delivery hd]
      exact h.latest state hlast cluster
    | some d =>
      rw [hd] at hlast
      show _ ↔ cluster ∈ (run.worker.perform standard act).1.pool.table.names
      rw [Worker.perform_names_of_delivery hd, ← Option.some.inj hlast,
        Worker.config_delivered?_standard hd]
      exact hasChild_configOf_iff

lemma ofActs_append_singleton (endpoint : String) (acts : List WorkerAct) (act : WorkerAct) :
    ofActs endpoint (acts ++ [act]) = (ofActs endpoint acts).next standard act := by
  simp [ofActs, of_append_singleton]

theorem announced_ofActs (endpoint : String) (acts : List WorkerAct) :
    (ofActs endpoint acts).Announced := by
  induction acts using List.reverseRecOn with
  | nil => exact announced_start endpoint
  | append_singleton acts act ih =>
    rw [ofActs_append_singleton]
    exact ih.next

lemma Sound.holds_selector (h : run.Sound) {d : Delivery} (hm : d ∈ run.deliveries) {s : Nat}
    (hs : d.state.selector = some s) : d.pool.Holds s :=
  (h.sound d hm).pool.exact.held_of_stopped? ((h.sound d hm).selector s hs)

/-- What a selector of one delivery picks is a child of every later config, unless nobody holds
the selector any more. -/
lemma Announced.hasChild_later (h : run.Announced) {i j : Nat} {d later : Delivery} (hij : i ≤ j)
    (hd : run.deliveries[i]? = some d) (hl : run.deliveries[j]? = some later) {s : Nat}
    {cluster : String} (hpick : d.pool.CanPick s cluster) (hheld : later.pool.Holds s) :
    HasChild later.state.config cluster := by
  have hleads : d.pool.Leads later.pool := by
    rcases Nat.lt_or_eq_of_le hij with hlt | rfl
    · obtain ⟨hi, rfl⟩ := List.getElem?_eq_some_iff.mp hd
      obtain ⟨hj, rfl⟩ := List.getElem?_eq_some_iff.mp hl
      exact List.pairwise_iff_getElem.mp h.sound.ordered i j hi hj hlt
    · rw [hd, Option.some.injEq] at hl
      rw [hl]
      exact .refl _
  have hm := List.mem_of_getElem? hl
  have hsame := (h.sound.sound d (List.mem_of_getElem? hd)).pool.canPick_of_leads hleads hpick
  rw [h.configs later hm]
  exact hasChild_configOf_iff.mpr
    ((h.sound.sound later hm).pool.mem_heldClusters_of_canPick hheld hsame)

/-- No published selector can pick an unadvertised cluster. Each config has exactly one child for
every cluster that is held when it is published, and is empty just where there is neither a
selector nor a held cluster; the selector beside it is held. What a selector can pick then is a
child of that config and of every later one as long as somebody holds the selector. And what any
held selector can pick now is a child of the last config. -/
theorem picks_advertised (endpoint : String) (acts : List WorkerAct) :
    let run := ofActs endpoint acts
    statesOf run.effects = run.deliveries.map (·.state) ∧
    (∀ d ∈ run.deliveries,
      d.pool.heldClusters.toList.Nodup ∧
      d.state.config = configOf d.state.selector d.pool.heldClusters.toList ∧
      (d.state.config = emptyConfig ↔
        d.state.selector = none ∧ d.pool.heldClusters.toList = []) ∧
      (∀ cluster, HasChild d.state.config cluster ↔ cluster ∈ d.pool.heldClusters) ∧
      ∀ s, d.state.selector = some s → d.pool.Holds s) ∧
    (∀ (i j : Nat) (d later : Delivery), i ≤ j →
      run.deliveries[i]? = some d → run.deliveries[j]? = some later →
      ∀ s cluster, d.pool.CanPick s cluster → later.pool.Holds s →
        HasChild later.state.config cluster) ∧
    (∀ state, run.last? = some state → ∀ s cluster, run.worker.pool.CanPick s cluster →
      run.worker.pool.Holds s → HasChild state.config cluster) := by
  intro run
  have h : run.Announced := announced_ofActs endpoint acts
  refine ⟨h.sound.states, ?_, ?_, ?_⟩
  · intro d hm
    have hconfig := h.configs d hm
    refine ⟨d.pool.heldClusters.ascending.imp ne_of_lt, hconfig, ?_, ?_, ?_⟩
    · rw [hconfig]
      exact configOf_eq_emptyConfig_iff
    · intro cluster
      rw [hconfig]
      exact hasChild_configOf_iff
    · intro s hs
      exact h.sound.holds_selector hm hs
  · intro i j d later hij hd hl s cluster hpick hheld
    exact h.hasChild_later hij hd hl hpick hheld
  · intro state hlast s cluster hpick hheld
    have hmem := h.sound.pool.mem_heldClusters_of_canPick hheld hpick
    exact (h.latest state hlast cluster).mpr (h.sound.pool.mem_names_of_held hmem)

end WorkerRun
end MeshRouting
