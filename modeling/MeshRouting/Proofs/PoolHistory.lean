import MeshRouting.Proofs.PoolCounts
import MeshRouting.Proofs.SelectorPicks
import Mathlib.Logic.Relation

/-!
# How a pool goes on

Selectors are never changed but for who holds them: a later pool has every selector of an earlier
one in its place, with the same routes and clusters, and one that nobody holds stays so. Without
direct acquires the listed clusters are, after pruning, those that some held selector lists.
-/
namespace MeshRouting

/-- A later state of a selector. -/
structure Selector.Ages (s later : Selector) : Prop where
  routes : later.routes = s.routes
  clusters : later.clusters = s.clusters
  unheld : s.refs = 0 → later.refs = 0
  stopped : s.stopped = true → later.stopped = true

lemma Selector.Ages.refl (s : Selector) : s.Ages s := ⟨rfl, rfl, id, id⟩

lemma Selector.Ages.trans {a b c : Selector} (h : a.Ages b) (g : b.Ages c) : a.Ages c :=
  ⟨g.routes.trans h.routes, g.clusters.trans h.clusters, g.unheld ∘ h.unheld,
    g.stopped ∘ h.stopped⟩

lemma Selector.Ages.picksListed {a b : Selector} (h : a.Ages b) (ha : a.PicksListed) :
    b.PicksListed := by
  intro method point cluster hp
  simp only [Selector.pick, Selector.target?, Selector.clusterNames, h.routes, h.clusters] at hp ⊢
  exact ha method point cluster hp

namespace Pool

variable {p q r : Pool} {taken : String → Nat} {s t : Nat}

def Step (p q : Pool) : Prop := ∃ op, (∀ name, op ≠ .acquire name) ∧ q = (p.perform op).1

/-- `q` comes about from `p` without direct acquires. -/
def Leads : Pool → Pool → Prop := Relation.ReflTransGen Step

lemma Leads.refl (p : Pool) : p.Leads p := Relation.ReflTransGen.refl

lemma Leads.trans (h : p.Leads q) (g : q.Leads r) : p.Leads r := Relation.ReflTransGen.trans h g

lemma leads_perform (p : Pool) (op : PoolOp) (h : ∀ name, op ≠ .acquire name) :
    p.Leads (p.perform op).1 :=
  Relation.ReflTransGen.single ⟨op, h, rfl⟩

lemma leads_build {update : ServiceUpdate} {s : Nat} (h : p.build update = .ok (q, s)) :
    p.Leads q := by
  simpa [perform, h] using leads_perform p (.build update) (by simp)

lemma leads_prune (p : Pool) : p.Leads p.prune := leads_perform p (.prune) (by simp)

lemma leads_stop (p : Pool) (s : Nat) : p.Leads (p.stop s).1 := by
  have h := leads_perform p (.stop s) (by simp)
  simp only [perform] at h
  split at h <;> rename_i heq <;> rwa [heq]

lemma leads_retain {s lease : Nat} (h : p.retain s = some (q, lease)) : p.Leads q := by
  simpa [perform, h] using leads_perform p (.retain s) (by simp)

lemma leads_dropLease {lease : Nat} {outcomes : List Released}
    (h : p.dropLease lease = some (q, outcomes)) : p.Leads q := by
  simpa [perform, h] using leads_perform p (.dropLease lease) (by simp)

/-- No direct references, every count exact, and picks only of listed clusters. -/
structure Sound (p : Pool) : Prop where
  exact : p.Exact fun _ => 0
  picks : ∀ selector ∈ p.selectors, selector.PicksListed

lemma sound_empty : empty.Sound := ⟨exact_empty, by simp [empty]⟩

/-- What an operation can do to the selectors: nothing, change who holds one, or add one. -/
theorem Exact.perform_cases (h : p.Exact taken) (op : PoolOp) :
    (p.perform op).1.selectors = p.selectors ∨
    (∃ s old next, p.selectors[s]? = some old ∧ old.Ages next ∧
      (p.perform op).1.selectors = p.selectors.set s next) ∨
    (∃ update routes, Selector.targetsOf update = .ok routes ∧
      (p.perform op).1.selectors = p.selectors ++ [built p.table routes]) := by
  cases op with
  | build update =>
    cases ht : Selector.targetsOf update with
    | error e => exact .inl (by simp [Pool.perform, build_eq_error ht])
    | ok routes => exact .inr (.inr ⟨update, routes, ht, by simp [Pool.perform, build_eq_ok ht]⟩)
  | retain s =>
    cases hq : p.retain s with
    | none => exact .inl (by simp [Pool.perform, hq])
    | some leased =>
      obtain ⟨selector, hs, hr, he⟩ := eq_of_retain hq
      refine .inr (.inl ⟨s, selector, { selector with refs := selector.refs + 1 }, hs, ?_, ?_⟩)
      · exact ⟨rfl, rfl, fun hz => absurd hz hr.ne', id⟩
      · simp [Pool.perform, hq, he]
  | dropLease lease =>
    obtain hnone | ⟨s, selector, hl, hs, hr⟩ := h.dropLease_cases lease
    · exact .inl (by simp [Pool.perform, hnone])
    · refine .inr (.inl ⟨s, selector, { selector with refs := selector.refs - 1 }, hs, ?_, ?_⟩)
      · exact ⟨rfl, rfl, fun hz => absurd hz hr.ne', id⟩
      · simp [Pool.perform, dropLease_eq hl hs]
  | stop s =>
    obtain hagain | ⟨selector, hs, hn, hr⟩ := h.stop_cases s
    · exact .inl (by simp [Pool.perform, hagain])
    · refine .inr (.inl ⟨s, selector,
        { selector with refs := selector.refs - 1, stopped := true }, hs, ?_, ?_⟩)
      · exact ⟨rfl, rfl, fun hz => absurd hz hr.ne', fun _ => rfl⟩
      · simp [Pool.perform, stop_eq hs hn]
  | acquire name => exact .inl rfl
  | prune => exact .inl rfl

lemma Sound.step (h : p.Sound) (hstep : p.Step q) : q.Sound := by
  obtain ⟨op, hop, rfl⟩ := hstep
  refine ⟨by simpa [hop] using h.exact.perform op, ?_⟩
  obtain he | ⟨s, old, next, hs, hage, he⟩ | ⟨update, routes, ht, he⟩ := h.exact.perform_cases op
  · rw [he]
    exact h.picks
  · rw [he]
    exact forall_mem_set h.picks (hage.picksListed (h.picks old (List.mem_of_getElem? hs)))
  · rw [he]
    intro selector hm
    rcases List.mem_append.mp hm with hm | hm
    · exact h.picks selector hm
    · rw [List.mem_singleton.mp hm]
      exact Selector.picksListed_of_targetsOf ht acquireAll_names

lemma Sound.of_leads (h : p.Sound) (hl : p.Leads q) : q.Sound := by
  induction hl with
  | refl => exact h
  | tail _ hstep ih => exact ih.step hstep

lemma Exact.ages_step (h : p.Exact taken) (hstep : p.Step q) {s : Nat} {selector : Selector}
    (hs : p.selectors[s]? = some selector) :
    ∃ later, q.selectors[s]? = some later ∧ selector.Ages later := by
  obtain ⟨op, -, rfl⟩ := hstep
  have hlt := (List.getElem?_eq_some_iff.mp hs).1
  obtain he | ⟨other, old, next, ho, hage, he⟩ | ⟨update, routes, -, he⟩ := h.perform_cases op
  · exact ⟨selector, he ▸ hs, .refl selector⟩
  · rw [he]
    by_cases hso : other = s
    · subst hso
      rw [hs, Option.some.injEq] at ho
      exact ⟨next, List.getElem?_set_self hlt, ho ▸ hage⟩
    · exact ⟨selector, by rw [List.getElem?_set_ne hso, hs], .refl selector⟩
  · exact ⟨selector, by rw [he, List.getElem?_append_left hlt, hs], .refl selector⟩

/-- A selector stays in its place and only its holders change. -/
theorem Sound.ages (h : p.Sound) (hl : p.Leads q) {s : Nat} {selector : Selector}
    (hs : p.selectors[s]? = some selector) :
    ∃ later, q.selectors[s]? = some later ∧ selector.Ages later := by
  induction hl with
  | refl => exact ⟨selector, hs, .refl selector⟩
  | tail hl hstep ih =>
    obtain ⟨middle, hm, hage⟩ := ih
    obtain ⟨later, hlater, hnext⟩ := (h.of_leads hl).exact.ages_step hstep hm
    exact ⟨later, hlater, hage.trans hnext⟩

/-- The clusters that some held selector lists. -/
def heldClusters (p : Pool) : NameSet :=
  .ofList ((p.selectors.filter (0 < ·.refs)).flatMap (·.clusterNames))

lemma mem_heldClusters_iff {name : String} :
    name ∈ p.heldClusters ↔
      ∃ selector ∈ p.selectors, 0 < selector.refs ∧ name ∈ selector.clusterNames := by
  simp [heldClusters, and_assoc]

lemma mem_heldClusters_iff_holders {name : String} :
    name ∈ p.heldClusters ↔ 0 < p.holders name := by
  simp [mem_heldClusters_iff, holders, List.countP_pos_iff]

/-- After pruning exactly the held clusters are listed. -/
theorem Sound.names_prune (h : p.Sound) : p.prune.table.names = p.heldClusters.toList := by
  suffices he : p.prune.table.active.keySet = p.heldClusters from congrArg NameSet.toList he
  refine NameSet.eq_of_mem_iff fun name => ?_
  rw [mem_heldClusters_iff_holders]
  show name ∈ p.prune.table.names ↔ _
  have hcount := h.exact.refCount?_eq name
  rw [ClusterTable.mem_names_iff]
  show (p.table.prune.refCount? name).isSome ↔ _
  rw [ClusterTable.refCount?_prune]
  obtain hc | ⟨hc, hz⟩ := hcount
  · simp [hc, Option.filter_some, Nat.pos_iff_ne_zero]
  · simp only [Nat.add_eq_zero_iff, and_true] at hz
    simp [hc, hz]

/-! ### Stopped selectors -/

/-- Whether a selector has been stopped, if there is such a selector. -/
def stopped? (p : Pool) (s : Nat) : Option Bool := (p.selectors[s]?).map (·.stopped)

@[simp] lemma stopped?_prune (p : Pool) (s : Nat) : p.prune.stopped? s = p.stopped? s := rfl

lemma stopped?_setSelector {selector : Selector} (ht : p.selectors[t]? = some selector)
    (next : Selector) :
    (p.setSelector t next).stopped? s = if s = t then some next.stopped else p.stopped? s := by
  have hlt := (List.getElem?_eq_some_iff.mp ht).1
  by_cases he : s = t
  · subst he
    simp [stopped?, setSelector, hlt]
  · simp [stopped?, setSelector, List.getElem?_set_ne (Ne.symm he), he]

lemma stopped?_setRefs {selector : Selector} (ht : p.selectors[t]? = some selector) (refs : Nat) :
    (p.setSelector t { selector with refs }).stopped? s = p.stopped? s := by
  rw [stopped?_setSelector ht]
  split
  · rename_i he
    simp [he, stopped?, ht]
  · rfl

lemma stopped?_release (p : Pool) (s t : Nat) : (p.release t).1.stopped? s = p.stopped? s := by
  simp only [release]
  split
  · rfl
  · rename_i selector ht
    have hset := stopped?_setRefs (s := s) ht (selector.refs - 1)
    split <;> exact hset

lemma stopped?_retain {lease : Nat} (h : p.retain t = some (q, lease)) :
    q.stopped? s = p.stopped? s := by
  obtain ⟨selector, ht, -, rfl⟩ := eq_of_retain h
  exact stopped?_setRefs ht (selector.refs + 1)

lemma stopped?_dropLease {lease : Nat} {outcomes : List Released}
    (h : p.dropLease lease = some (q, outcomes)) : q.stopped? s = p.stopped? s := by
  obtain ⟨t, rfl⟩ := eq_of_dropLease h
  exact stopped?_release _ s t

lemma stopped?_eq_none_of_build {update : ServiceUpdate} (h : p.build update = .ok (q, s)) :
    p.stopped? s = none := by
  obtain ⟨routes, -, rfl, -⟩ := eq_of_build h
  simp [stopped?]

lemma stopped?_build {update : ServiceUpdate} (h : p.build update = .ok (q, t)) :
    q.stopped? s = if s = t then some false else p.stopped? s := by
  obtain ⟨routes, -, rfl, rfl⟩ := eq_of_build h
  by_cases he : s = p.selectors.length
  · subst he
    simp [stopped?, built]
  · simp only [he, if_false, stopped?, List.getElem?_append]
    split
    · rfl
    · rename_i hge
      have hlt : p.selectors.length < s := by omega
      simp [List.getElem?_eq_none (Nat.le_of_not_lt hge), Nat.sub_eq_zero_iff_le, hlt]

lemma stopped?_stop (p : Pool) (s t : Nat) :
    (p.stop t).1.stopped? s =
      if s = t then (p.stopped? s).map fun _ => true else p.stopped? s := by
  simp only [stop]
  split
  · rename_i ht
    split
    · rename_i he
      simp [he, stopped?, ht]
    · rfl
  · rename_i selector ht
    split
    · rename_i hstopped
      split
      · rename_i he
        simp [he, stopped?, ht, hstopped]
      · rfl
    · rw [stopped?_release, stopped?_setSelector ht]
      split
      · rename_i he
        simp [he, stopped?, ht]
      · rfl

lemma Exact.held_of_stopped? (h : p.Exact taken) (hs : p.stopped? s = some false) :
    ∃ selector, p.selectors[s]? = some selector ∧ 0 < selector.refs := by
  obtain ⟨selector, hsel, hn⟩ := Option.map_eq_some_iff.mp hs
  exact ⟨selector, hsel, h.refs_pos_of_not_stopped hsel hn⟩

lemma Sound.stopped?_of_leads (h : p.Sound) (hl : p.Leads q) (hs : p.stopped? s = some true) :
    q.stopped? s = some true := by
  obtain ⟨selector, hsel, hstopped⟩ := Option.map_eq_some_iff.mp hs
  obtain ⟨later, hlater, hage⟩ := h.ages hl hsel
  simp [stopped?, hlater, hage.stopped hstopped]

end Pool
end MeshRouting
