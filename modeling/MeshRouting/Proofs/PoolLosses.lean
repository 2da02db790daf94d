import MeshRouting.Proofs.PoolHistory

/-!
# Clusters that nobody holds any more

A cluster whose last holder lets go stays listed until the table is pruned. Letting go of it is
seen at once: the release that takes the last reference says so.
-/
namespace MeshRouting.Pool

variable {p q : Pool} {s : Nat} {selector : Selector}

/-- Some cluster is held in the first pool and not in the second. -/
def Loses (p q : Pool) : Prop := ∃ name ∈ p.heldClusters, name ∉ q.heldClusters

def HasDead (p : Pool) : Prop := ∃ name, p.table.refCount? name = some 0

lemma not_loses_self (p : Pool) : ¬ p.Loses p := fun ⟨_, hm, hn⟩ => hn hm

lemma Sound.mem_names_of_held (h : p.Sound) {name : String} (hm : name ∈ p.heldClusters) :
    name ∈ p.table.names := by
  have hpos := mem_heldClusters_iff_holders.mp hm
  rw [ClusterTable.mem_names_iff]
  obtain hc | ⟨-, hz⟩ := h.exact.refCount?_eq name
  · simp [hc]
  · omega

/-- A listed cluster has no references just where nobody holds it. -/
lemma Sound.hasDead_iff (h : p.Sound) :
    p.HasDead ↔ ∃ name ∈ p.table.names, name ∉ p.heldClusters := by
  refine exists_congr fun name => ?_
  rw [ClusterTable.mem_names_iff, mem_heldClusters_iff_holders, Nat.pos_iff_ne_zero, not_not]
  obtain hc | ⟨hc, -⟩ := h.exact.refCount?_eq name <;> simp [hc]

/-- Where the same clusters are listed and no others are held than before, the dead ones are those
from before and those that were lost. -/
lemma Sound.hasDead_iff_of_names (h : p.Sound) (hq : q.Sound)
    (hnames : q.table.names = p.table.names)
    (hheld : ∀ name ∈ q.heldClusters, name ∈ p.heldClusters) :
    q.HasDead ↔ p.Loses q ∨ p.HasDead := by
  rw [h.hasDead_iff, hq.hasDead_iff, hnames]
  constructor
  · rintro ⟨name, hm, hn⟩
    by_cases hp : name ∈ p.heldClusters
    · exact .inl ⟨name, hp, hn⟩
    · exact .inr ⟨name, hm, hp⟩
  · rintro (⟨name, hp, hn⟩ | ⟨name, hm, hn⟩)
    · exact ⟨name, h.mem_names_of_held hp, hn⟩
    · exact ⟨name, hm, fun hq => hn (hheld name hq)⟩

/-- Without new selectors nothing becomes held that was not. -/
lemma Sound.held_of_leads (h : p.Sound) (hl : p.Leads q)
    (hlen : q.selectors.length = p.selectors.length) :
    ∀ name ∈ q.heldClusters, name ∈ p.heldClusters := by
  intro name hm
  obtain ⟨later, hlater, hr, hn⟩ := mem_heldClusters_iff.mp hm
  obtain ⟨s, hs⟩ := List.mem_iff_getElem?.mp hlater
  have hlt : s < p.selectors.length := hlen ▸ (List.getElem?_eq_some_iff.mp hs).1
  obtain ⟨same, hsame, hage⟩ := h.ages hl (List.getElem?_eq_getElem hlt)
  rw [hs, Option.some.injEq] at hsame
  subst hsame
  refine mem_heldClusters_iff.mpr ⟨p.selectors[s], List.getElem_mem hlt, ?_, ?_⟩
  · by_contra hz
    exact hr.ne' (hage.unheld (Nat.eq_zero_of_not_pos hz))
  · simpa only [Selector.clusterNames, hage.clusters] using hn

lemma release_length (p : Pool) (s : Nat) :
    (p.release s).1.selectors.length = p.selectors.length := by
  simp only [release]
  split
  · rfl
  · split <;> simp [setSelector]

lemma dropLease_length {lease : Nat} {outcomes : List Released}
    (h : p.dropLease lease = some (q, outcomes)) : q.selectors.length = p.selectors.length := by
  obtain ⟨s, rfl⟩ := eq_of_dropLease h
  exact release_length _ s

lemma retain_length {lease : Nat} (h : p.retain s = some (q, lease)) :
    q.selectors.length = p.selectors.length := by
  obtain ⟨selector, -, -, rfl⟩ := eq_of_retain h
  exact List.length_set

lemma Sound.held_of_standing (h : p.Sound) (hl : p.Leads q) (hs : p.selectors[s]? = some selector)
    (hq : q.stopped? s = some false) {name : String} (hn : name ∈ selector.clusterNames) :
    name ∈ q.heldClusters := by
  obtain ⟨later, hlater, hage⟩ := h.ages hl hs
  obtain ⟨same, hsame, hr⟩ := (h.of_leads hl).exact.held_of_stopped? hq
  rw [hlater, Option.some.injEq] at hsame
  subst hsame
  refine mem_heldClusters_iff.mpr ⟨later, List.mem_of_getElem? hlater, hr, ?_⟩
  simpa only [Selector.clusterNames, hage.clusters] using hn

lemma not_loses_retain {lease : Nat} (h : p.retain s = some (q, lease)) : ¬ p.Loses q := by
  rintro ⟨name, hm, hn⟩
  obtain ⟨selector, hs, hr, rfl⟩ := eq_of_retain h
  have hset := holders_set hs { selector with refs := selector.refs + 1 } name
  rw [mem_heldClusters_iff_holders] at hm hn
  simp only [holders, Selector.clusterNames, hr, Nat.succ_pos, true_and] at hset hm hn
  omega

lemma mem_heldClusters_build {update : ServiceUpdate} (h : p.build update = .ok (q, s))
    {name : String} :
    name ∈ q.heldClusters ↔ name ∈ p.heldClusters ∨
      ∃ selector, q.selectors[s]? = some selector ∧ name ∈ selector.clusterNames := by
  obtain ⟨routes, -, rfl, rfl⟩ := eq_of_build h
  simp only [mem_heldClusters_iff, List.mem_append, List.mem_singleton, or_and_right, exists_or,
    exists_eq_left, List.getElem?_concat_length, Option.some.injEq, exists_eq_left']
  simp [built]

/-- A lost cluster had its last reference on the selector that was let go of. -/
lemma Exact.drained_of_loses (h : p.Exact fun _ => 0) (hs : p.selectors[s]? = some selector)
    (hr : 0 < selector.refs) (next : Selector) (hclusters : next.clusters = selector.clusters)
    (hrefs : next.refs = selector.refs - 1) (hq : q.selectors = p.selectors.set s next)
    (hloss : p.Loses q) : .drained ∈ (lowered p.table selector).2 := by
  obtain ⟨name, hp, hn⟩ := hloss
  have hm := List.mem_of_getElem? hs
  have hset := holders_set hs next name
  rw [mem_heldClusters_iff_holders] at hp hn
  have hsame : q.holders name = { p with selectors := p.selectors.set s next }.holders name := by
    simp only [holders, hq]
  simp only [← hsame, Selector.clusterNames, hclusters, hrefs, hr, true_and] at hset
  have hlisted : name ∈ selector.clusters.map (·.name) := by
    by_contra hout
    simp only [hout, and_false, if_false] at hset
    omega
  have hone : selector.refs = 1 := by
    by_contra hmore
    have hstill : 0 < selector.refs - 1 := by omega
    simp only [hlisted, hstill, and_self, if_true] at hset
    omega
  simp only [hlisted, hone, Nat.sub_self, lt_irrefl, false_and, if_true, if_false] at hset
  obtain ⟨hold, hh, rfl⟩ := List.mem_map.mp hlisted
  simp only [lowered, hone, if_true]
  rw [drained_mem_releaseAll_iff h.coherent (h.distinct selector hm) (h.listed selector hm hr)]
  refine ⟨hold, hh, ?_⟩
  obtain hc | ⟨-, hz⟩ := h.refCount?_eq hold.name
  · rw [hc, Option.some.injEq]
    omega
  · omega

end MeshRouting.Pool
