import MeshRouting.Proofs.PoolReferences
import Mathlib.Data.List.Induction

/-!
# Exact reference counts

In every pool that comes about by building, leasing, releasing and stopping selectors, by taking
references directly and by pruning, the count of a name is the number of its holders. So a table
entry outlives everyone who will release it, and no release finds the count at zero.
-/
namespace MeshRouting

inductive PoolOp where
  | build (update : ServiceUpdate)
  | retain (s : Nat)
  | dropLease (lease : Nat)
  | stop (s : Nat)
  | acquire (name : String)
  | prune
  deriving DecidableEq, Repr

namespace Pool

/-- One operation, with what became of the references that it gave back. -/
def perform (p : Pool) : PoolOp → Pool × List Released
  | .build update => match p.build update with
    | .ok (next, _) => (next, [])
    | .error _ => (p, [])
  | .retain s => match p.retain s with
    | some (next, _) => (next, [])
    | none => (p, [])
  | .dropLease lease => (p.dropLease lease).getD (p, [])
  | .stop s => match p.stop s with
    | (next, .first outcomes) => (next, outcomes)
    | (next, .again) => (next, [])
  | .acquire name => ((p.acquire name).1, [])
  | .prune => (p.prune, [])

/-- A new pool after some operations. -/
def after (ops : List PoolOp) : Pool := ops.foldl (fun p op => (p.perform op).1) empty

lemma after_append_singleton (ops : List PoolOp) (op : PoolOp) :
    after (ops ++ [op]) = ((after ops).perform op).1 := by
  simp [after, List.foldl_append]

/-- The number of selectors that list a cluster and are still held. -/
def holders (p : Pool) (name : String) : Nat :=
  p.selectors.countP fun selector => 0 < selector.refs ∧ name ∈ selector.clusterNames

def acquired (ops : List PoolOp) (name : String) : Nat := ops.count (.acquire name)

/-- Counts are the numbers of holders, where `taken` references were taken directly. -/
structure Exact (p : Pool) (taken : String → Nat) : Prop where
  coherent : p.table.Coherent
  counted : ∀ name, (p.table.refCount? name).getD 0 = p.holders name + taken name
  listed : ∀ selector ∈ p.selectors, 0 < selector.refs → Listed p.table selector.clusters
  distinct : ∀ selector ∈ p.selectors, selector.clusterNames.Nodup
  leased : ∀ s, some s ∈ p.leases → s < p.selectors.length
  held : ∀ s selector, p.selectors[s]? = some selector →
    selector.refs = p.leases.count (some s) + if selector.stopped then 0 else 1

variable {p : Pool} {taken : String → Nat} {s : Nat} {selector : Selector} {name : String}

lemma exact_empty : empty.Exact fun _ => 0 where
  coherent := ClusterTable.coherent_empty
  counted := by
    intro name
    simp [empty, ClusterTable.refCount?, ClusterTable.empty, NameMap.empty, NameMap.find?, holders]
  listed := by simp [empty]
  distinct := by simp [empty]
  leased := by simp [empty]
  held := by simp [empty]

lemma holders_pos (hm : selector ∈ p.selectors) (hr : 0 < selector.refs)
    (hn : name ∈ selector.clusterNames) : 0 < p.holders name :=
  List.countP_pos_iff.mpr ⟨selector, hm, by simp [hr, hn]⟩

/-- Replacing one selector changes the holders by what the two contribute. -/
lemma holders_set (hs : p.selectors[s]? = some selector) (next : Selector) (name : String) :
    ({ p with selectors := p.selectors.set s next }.holders name) +
        (if 0 < selector.refs ∧ name ∈ selector.clusterNames then 1 else 0) =
      p.holders name + (if 0 < next.refs ∧ name ∈ next.clusterNames then 1 else 0) := by
  obtain ⟨hlt, hget⟩ := List.getElem?_eq_some_iff.mp hs
  simp only [holders, List.countP_set hlt, hget, decide_eq_true_eq]
  by_cases h : 0 < selector.refs ∧ name ∈ selector.clusterNames
  · have hpos := holders_pos (List.mem_of_getElem? hs) h.1 h.2
    simp only [holders] at hpos
    simp only [h, and_self, if_true]
    omega
  · simp only [h, if_false]
    omega

lemma Exact.refCount?_pos (h : p.Exact taken) (hm : selector ∈ p.selectors)
    (hr : 0 < selector.refs) {hold : ClusterHold} (hh : hold ∈ selector.clusters) :
    0 < (p.table.refCount? hold.name).getD 0 := by
  have hpos := holders_pos hm hr (List.mem_map.mpr ⟨hold, hh, rfl⟩)
  have := h.counted hold.name
  omega

/-- What letting go of a held selector does to the counts. -/
lemma Exact.refCount?_lowered (h : p.Exact taken) (hm : selector ∈ p.selectors)
    (hr : 0 < selector.refs) (name : String) :
    (lowered p.table selector).1.refCount? name =
      if selector.refs = 1 ∧ name ∈ selector.clusterNames
      then some ((p.table.refCount? name).getD 0 - 1) else p.table.refCount? name := by
  by_cases hone : selector.refs = 1
  · simp [lowered, hone, Selector.clusterNames,
      refCount?_releaseAll h.coherent (h.distinct selector hm) (h.listed selector hm hr)]
  · simp [lowered, hone]

lemma Exact.unheld_not_mem_lowered (h : p.Exact taken) (hm : selector ∈ p.selectors)
    (hr : 0 < selector.refs) : .unheld ∉ (lowered p.table selector).2 := by
  by_cases hone : selector.refs = 1
  · simp only [lowered, hone, if_true]
    rw [unheld_mem_releaseAll_iff h.coherent (h.distinct selector hm) (h.listed selector hm hr)]
    rintro ⟨hold, hh, hz⟩
    have := h.refCount?_pos hm hr hh
    simp [hz] at this
  · simp [lowered, hone]

lemma lowered_active (t : ClusterTable) (selector : Selector) :
    (lowered t selector).1.active = t.active := by
  by_cases hone : selector.refs = 1 <;> simp [lowered, hone, releaseAll_active]

lemma coherent_lowered {t : ClusterTable} (hc : t.Coherent) : (lowered t selector).1.Coherent := by
  by_cases hone : selector.refs = 1 <;> simp [lowered, hone, hc, coherent_releaseAll]

lemma forall_mem_set {P : Selector → Prop} (h : ∀ other ∈ p.selectors, P other) {next : Selector}
    (hn : P next) : ∀ other ∈ p.selectors.set s next, P other := by
  intro other hm
  rcases List.mem_or_eq_of_mem_set hm with hm | rfl
  · exact h other hm
  · exact hn

lemma forall_getElem?_set {P : Nat → Selector → Prop} {next : Selector}
    (hs : p.selectors[s]? = some selector) (hself : P s next)
    (hothers : ∀ other found, s ≠ other → p.selectors[other]? = some found → P other found) :
    ∀ other found, (p.selectors.set s next)[other]? = some found → P other found := by
  intro other found hf
  by_cases he : s = other
  · subst he
    rw [List.getElem?_set_self (List.getElem?_eq_some_iff.mp hs).1, Option.some.injEq] at hf
    exact hf ▸ hself
  · rw [List.getElem?_set_ne he] at hf
    exact hothers other found he hf

/-- One holder fewer: `next` is the selector after that, and `leases` are those left. -/
lemma Exact.letGo (h : p.Exact taken) (hs : p.selectors[s]? = some selector)
    (hr : 0 < selector.refs) (next : Selector) (hclusters : next.clusters = selector.clusters)
    (hrefs : next.refs = selector.refs - 1) {leases : List (Option Nat)}
    (hleases : ∀ other, some other ∈ leases → some other ∈ p.leases)
    (hheld : ∀ other found, (p.selectors.set s next)[other]? = some found →
      found.refs = leases.count (some other) + if found.stopped then 0 else 1) :
    Exact ⟨(lowered p.table selector).1, p.selectors.set s next, leases⟩ taken := by
  have hm := List.mem_of_getElem? hs
  have hnames : next.clusterNames = selector.clusterNames := by
    simp only [Selector.clusterNames, hclusters]
  refine ⟨coherent_lowered h.coherent, ?_, ?_, ?_, ?_, hheld⟩
  · intro name
    have hset := holders_set hs next name
    have hcount := h.counted name
    simp only [holders, h.refCount?_lowered hm hr, hnames, hrefs] at hset hcount ⊢
    by_cases hn : name ∈ selector.clusterNames
    · have hpos := holders_pos hm hr hn
      simp only [holders] at hpos
      by_cases hone : selector.refs = 1
      · simp only [hone, hn, Nat.sub_self, lt_irrefl, false_and, and_self, one_pos, if_true,
          if_false, Option.getD_some] at hset ⊢
        omega
      · have hgt : 0 < selector.refs - 1 := by omega
        simp only [hr, hgt, hn, hone, and_self, if_true, false_and, if_false] at hset ⊢
        omega
    · simp only [hn, and_false, if_false] at hset ⊢
      omega
  · intro other hmem hpos
    have hact : ∀ holds, Listed (lowered p.table selector).1 holds ↔ Listed p.table holds := by
      intro holds
      simp [Listed, lowered_active]
    rw [hact]
    rcases List.mem_or_eq_of_mem_set hmem with hmem | rfl
    · exact h.listed other hmem hpos
    · rw [hclusters]
      exact h.listed selector hm hr
  · exact forall_mem_set h.distinct (hnames ▸ h.distinct selector hm)
  · intro other hmem
    simpa using h.leased other (hleases other hmem)

lemma Exact.lt_of_leased (h : p.Exact taken) {lease : Nat}
    (hl : p.leases[lease]? = some (some s)) : ∃ selector, p.selectors[s]? = some selector := by
  have hlt := h.leased s (List.mem_of_getElem? hl)
  exact ⟨p.selectors[s], List.getElem?_eq_getElem hlt⟩

lemma Exact.refs_pos_of_leased (h : p.Exact taken) {lease : Nat}
    (hl : p.leases[lease]? = some (some s)) (hs : p.selectors[s]? = some selector) :
    0 < selector.refs := by
  have hcount : 0 < p.leases.count (some s) := List.count_pos_iff.mpr (List.mem_of_getElem? hl)
  have := h.held s selector hs
  omega

lemma Exact.refs_pos_of_not_stopped (h : p.Exact taken) (hs : p.selectors[s]? = some selector)
    (hn : selector.stopped = false) : 0 < selector.refs := by
  have := h.held s selector hs
  simp [hn] at this
  omega

/-- The three cases of dropping a lease: there is none, or it is the lease of a held selector. -/
lemma Exact.dropLease_cases (h : p.Exact taken) (lease : Nat) :
    p.dropLease lease = none ∨ ∃ s selector, p.leases[lease]? = some (some s) ∧
      p.selectors[s]? = some selector ∧ 0 < selector.refs := by
  cases hl : p.leases[lease]? with
  | none => exact .inl (by simp [dropLease, hl])
  | some found =>
    cases found with
    | none => exact .inl (by simp [dropLease, hl])
    | some s =>
      obtain ⟨selector, hs⟩ := h.lt_of_leased hl
      exact .inr ⟨s, selector, rfl, hs, h.refs_pos_of_leased hl hs⟩

lemma Exact.stop_cases (h : p.Exact taken) (s : Nat) :
    p.stop s = (p, .again) ∨ ∃ selector, p.selectors[s]? = some selector ∧
      selector.stopped = false ∧ 0 < selector.refs := by
  cases hs : p.selectors[s]? with
  | none => exact .inl (by simp [stop, hs])
  | some selector =>
    cases hn : selector.stopped with
    | true => exact .inl (by simp [stop, hs, hn])
    | false => exact .inr ⟨selector, rfl, hn, h.refs_pos_of_not_stopped hs hn⟩

lemma Exact.dropLease (h : p.Exact taken) {lease : Nat} {q : Pool} {outcomes : List Released}
    (hd : p.dropLease lease = some (q, outcomes)) : q.Exact taken := by
  obtain hnone | ⟨s, selector, hl, hs, hr⟩ := h.dropLease_cases lease
  · simp [hnone] at hd
  rw [dropLease_eq hl hs, Option.some.injEq, Prod.mk.injEq] at hd
  rw [← hd.1]
  have hlt := (List.getElem?_eq_some_iff.mp hl).1
  have hget := (List.getElem?_eq_some_iff.mp hl).2
  refine h.letGo hs hr { selector with refs := selector.refs - 1 } rfl rfl ?_ ?_
  · intro other hm
    rcases List.mem_or_eq_of_mem_set hm with hm | he
    · exact hm
    · cases he
  · have hcount : ∀ other, (p.leases.set lease none).count (some other) =
        p.leases.count (some other) - if s = other then 1 else 0 := by
      intro other
      simp [List.count_set hlt, hget]
    have hpos : 0 < p.leases.count (some s) := List.count_pos_iff.mpr (List.mem_of_getElem? hl)
    have hheld := h.held s selector hs
    refine forall_getElem?_set hs ?_ fun other found he hf => ?_
    · rw [hcount, if_pos rfl]
      show selector.refs - 1 = p.leases.count (some s) - 1 + if selector.stopped then 0 else 1
      omega
    · rw [hcount, if_neg he]
      exact h.held other found hf

lemma Exact.stop (h : p.Exact taken) (s : Nat) : (p.stop s).1.Exact taken := by
  obtain hagain | ⟨selector, hs, hn, hr⟩ := h.stop_cases s
  · rw [hagain]
    exact h
  rw [stop_eq hs hn]
  have hheld := h.held s selector hs
  simp only [hn, Bool.false_eq_true, if_false] at hheld
  refine h.letGo hs hr { selector with refs := selector.refs - 1, stopped := true } rfl rfl
    (fun _ hm => hm) (forall_getElem?_set hs ?_ fun other found _ hf => h.held other found hf)
  show selector.refs - 1 = p.leases.count (some s) + 0
  omega

lemma Exact.retain (h : p.Exact taken) {q : Pool} {lease : Nat}
    (hq : p.retain s = some (q, lease)) : q.Exact taken := by
  obtain ⟨selector, hs, hr, rfl⟩ := eq_of_retain hq
  have hm := List.mem_of_getElem? hs
  refine ⟨h.coherent, ?_, ?_, ?_, ?_, ?_⟩
  · intro name
    have hset := holders_set hs { selector with refs := selector.refs + 1 } name
    change _ + (if 0 < selector.refs ∧ name ∈ selector.clusterNames then 1 else 0) =
      _ + (if 0 < selector.refs + 1 ∧ name ∈ selector.clusterNames then 1 else 0) at hset
    simp only [hr, Nat.succ_pos, true_and] at hset
    exact (h.counted name).trans (congrArg (· + taken name) (Nat.add_right_cancel hset).symm)
  · refine forall_mem_set h.listed ?_
    intro _
    exact h.listed selector hm hr
  · exact forall_mem_set h.distinct (h.distinct selector hm)
  · intro other hmem
    simp only [List.mem_append, List.mem_singleton, Option.some.injEq] at hmem
    rw [List.length_set]
    rcases hmem with hmem | rfl
    · exact h.leased other hmem
    · exact (List.getElem?_eq_some_iff.mp hs).1
  · have hheld := h.held s selector hs
    refine forall_getElem?_set hs ?_ fun other found he hf => ?_
    · simp only [List.count_append, List.count_singleton_self]
      omega
    · simpa [List.count_append, List.count_singleton, he] using h.held other found hf

lemma holders_append (p : Pool) (selector : Selector) (name : String) :
    { p with selectors := p.selectors ++ [selector] }.holders name =
      p.holders name + if 0 < selector.refs ∧ name ∈ selector.clusterNames then 1 else 0 := by
  simp only [holders, List.countP_append, List.countP_singleton, decide_eq_true_eq]

lemma Exact.count_leases_eq_zero (h : p.Exact taken) (hge : p.selectors.length ≤ s) :
    p.leases.count (some s) = 0 := by
  rw [List.count_eq_zero]
  intro hm
  have hlt := h.leased s hm
  omega

lemma Exact.build (h : p.Exact taken) {update : ServiceUpdate} {q : Pool}
    (hq : p.build update = .ok (q, s)) : q.Exact taken := by
  obtain ⟨routes, -, rfl, rfl⟩ := eq_of_build hq
  have hnodup : (Selector.clustersOf routes).toList.Nodup :=
    (Selector.clustersOf routes).ascending.imp fun hlt => ne_of_lt hlt
  have hnames : (built p.table routes).clusterNames = (Selector.clustersOf routes).toList :=
    acquireAll_names
  refine ⟨coherent_acquireAll h.coherent, ?_, ?_, ?_, ?_, ?_⟩
  · intro name
    have hcount := h.counted name
    have happend := holders_append p (built p.table routes) name
    simp only [holders, hnames, refCount?_acquireAll h.coherent hnodup] at hcount happend ⊢
    rw [happend]
    by_cases hn : name ∈ (Selector.clustersOf routes).toList
    · simp only [hn, built, if_true, Option.getD_some, and_self, one_pos]
      omega
    · simp only [hn, if_false, and_false]
      omega
  · intro selector hm hr hold hh
    rcases List.mem_append.mp hm with hm | hm
    · exact find?_acquireAll_of_some (h.listed selector hm hr hold hh)
    · rw [List.mem_singleton.mp hm] at hh
      exact find?_of_mem_acquireAll hh
  · intro selector hm
    rcases List.mem_append.mp hm with hm | hm
    · exact h.distinct selector hm
    · rw [List.mem_singleton.mp hm, hnames]
      exact hnodup
  · intro other hm
    have hlt := h.leased other hm
    simp only [List.length_append, List.length_singleton]
    omega
  · intro other found hf
    rcases Nat.lt_or_ge other p.selectors.length with hlt | hge
    · rw [List.getElem?_append_left hlt] at hf
      exact h.held other found hf
    · rw [List.getElem?_append_right hge, List.getElem?_singleton] at hf
      split at hf
      · rw [Option.some.injEq] at hf
        simp [← hf, built, h.count_leases_eq_zero hge]
      · cases hf

lemma Exact.acquire (h : p.Exact taken) (name : String) :
    (p.acquire name).1.Exact fun other => taken other + if other = name then 1 else 0 where
  coherent := ClusterTable.coherent_acquire h.coherent
  counted := by
    intro other
    have hcount := h.counted other
    show ((p.table.acquire name).1.refCount? other).getD 0 = p.holders other + _
    rw [ClusterTable.refCount?_acquire h.coherent]
    by_cases he : name = other
    · subst he
      simp only [if_true, Option.getD_some]
      omega
    · simpa [he, Ne.symm he] using hcount
  listed selector hm hr hold hh :=
    ClusterTable.find?_acquire_of_some (h.listed selector hm hr hold hh)
  distinct := h.distinct
  leased := h.leased
  held := h.held

lemma Exact.prune (h : p.Exact taken) : p.prune.Exact taken where
  coherent := ClusterTable.coherent_prune h.coherent
  counted := by
    intro name
    refine Eq.trans ?_ (h.counted name)
    show (p.table.prune.refCount? name).getD 0 = _
    rw [ClusterTable.refCount?_prune]
    cases hc : p.table.refCount? name with
    | none => rfl
    | some count => by_cases hz : count = 0 <;> simp [Option.filter_some, hz]
  listed := by
    intro selector hm hr hold hh
    have hfound := h.listed selector hm hr hold hh
    have hpos := h.refCount?_pos hm hr hh
    have hne : p.table.refsOf hold.entry ≠ 0 := by
      simp [ClusterTable.refCount?, hfound] at hpos
      omega
    show p.table.prune.active.find? hold.name = some hold.entry
    simp [ClusterTable.find?_prune, hfound, Option.filter_some, hne]
  distinct := h.distinct
  leased := h.leased
  held := h.held

/-- What one operation does to the counts: a direct acquire adds a holder that never lets go. -/
theorem Exact.perform (h : p.Exact taken) (op : PoolOp) :
    (p.perform op).1.Exact fun name => taken name + if op = .acquire name then 1 else 0 := by
  cases op with
  | build update =>
    simp only [Pool.perform, reduceCtorEq, if_false, Nat.add_zero]
    cases hb : p.build update with
    | error e => exact h
    | ok built => exact h.build hb
  | retain s =>
    simp only [Pool.perform, reduceCtorEq, if_false, Nat.add_zero]
    cases hq : p.retain s with
    | none => exact h
    | some leased => exact h.retain hq
  | dropLease lease =>
    simp only [Pool.perform, reduceCtorEq, if_false, Nat.add_zero]
    cases hd : p.dropLease lease with
    | none => exact h
    | some dropped => exact h.dropLease hd
  | stop s =>
    simp only [Pool.perform, reduceCtorEq, if_false, Nat.add_zero]
    have hstop := h.stop s
    split <;> rename_i heq <;> rwa [heq] at hstop
  | acquire name => simpa [Pool.perform, eq_comm] using h.acquire name
  | prune =>
    simp only [Pool.perform, reduceCtorEq, if_false, Nat.add_zero]
    exact h.prune

theorem Exact.unheld_not_mem_perform (h : p.Exact taken) (op : PoolOp) :
    .unheld ∉ (p.perform op).2 := by
  cases op with
  | build update => simp only [Pool.perform]; split <;> simp
  | retain s => simp only [Pool.perform]; split <;> simp
  | dropLease lease =>
    obtain hnone | ⟨s, selector, hl, hs, hr⟩ := h.dropLease_cases lease
    · simp [Pool.perform, hnone]
    · simpa [Pool.perform, dropLease_eq hl hs] using
        h.unheld_not_mem_lowered (List.mem_of_getElem? hs) hr
  | stop s =>
    obtain hagain | ⟨selector, hs, hn, hr⟩ := h.stop_cases s
    · simp [Pool.perform, hagain]
    · simpa [Pool.perform, stop_eq hs hn] using
        h.unheld_not_mem_lowered (List.mem_of_getElem? hs) hr
  | acquire name => simp [Pool.perform]
  | prune => simp [Pool.perform]

theorem exact_after (ops : List PoolOp) : (after ops).Exact (acquired ops) := by
  induction ops using List.reverseRecOn with
  | nil => exact exact_empty
  | append_singleton ops op ih =>
    rw [after_append_singleton]
    have hstep := ih.perform op
    have htaken : acquired (ops ++ [op]) =
        fun name => acquired ops name + if op = .acquire name then 1 else 0 := by
      funext name
      simp [acquired, List.count_append, List.count_singleton]
    rwa [htaken]

lemma Exact.refCount?_eq (h : p.Exact taken) (name : String) :
    p.table.refCount? name = some (p.holders name + taken name) ∨
      p.table.refCount? name = none ∧ p.holders name + taken name = 0 := by
  have hcount := h.counted name
  cases hc : p.table.refCount? name with
  | none => exact .inr ⟨rfl, by simpa [hc] using hcount.symm⟩
  | some count => exact .inl (congrArg some (by simpa [hc] using hcount))

lemma Exact.mem_unreferenced_iff (h : p.Exact taken) (name : String) :
    name ∈ p.table.unreferenced ↔ name ∈ p.table.names ∧ p.holders name + taken name = 0 := by
  rw [ClusterTable.mem_unreferenced_iff, ClusterTable.mem_names_iff]
  obtain hc | ⟨hc, -⟩ := h.refCount?_eq name <;> simp [hc]

lemma find?_prune (p : Pool) (name : String) :
    p.prune.table.active.find? name =
      if name ∈ p.table.unreferenced then none else p.table.active.find? name := by
  show p.table.prune.active.find? name = _
  simp only [ClusterTable.mem_unreferenced_iff, ClusterTable.find?_prune]
  cases hf : p.table.active.find? name with
  | none => simp
  | some entry =>
    by_cases hz : p.table.refsOf entry = 0 <;>
      simp [ClusterTable.refCount?, hf, Option.filter_some, hz]

/-- Reference counts are exact, whatever is done in whatever order. The count of a name is the
number of held selectors that list it and of direct acquires; a held selector finds each of its
clusters listed under the entry that it will release; pruning drops the names that nobody holds
and no others; and no operation releases an entry without references. -/
theorem references_exact (ops : List PoolOp) :
    (∀ name,
      (after ops).table.refCount? name = some ((after ops).holders name + acquired ops name) ∨
      (after ops).table.refCount? name = none ∧
        (after ops).holders name + acquired ops name = 0) ∧
    (∀ selector ∈ (after ops).selectors, 0 < selector.refs → ∀ hold ∈ selector.clusters,
      (after ops).table.active.find? hold.name = some hold.entry) ∧
    (∀ name, name ∈ (after ops).table.unreferenced ↔
      name ∈ (after ops).table.names ∧ (after ops).holders name + acquired ops name = 0) ∧
    (∀ name, (after ops).prune.table.active.find? name =
      if name ∈ (after ops).table.unreferenced then none
      else (after ops).table.active.find? name) ∧
    (∀ op, .unheld ∉ ((after ops).perform op).2) := by
  have h := exact_after ops
  exact ⟨h.refCount?_eq, h.listed, h.mem_unreferenced_iff, find?_prune _, h.unheld_not_mem_perform⟩

end Pool
end MeshRouting
