import MeshRouting.Proofs.PoolHistory

/-!
# Entries that are not listed any more

Pruning takes entries without references off the list, and an entry off the list is never used
again. So an entry with references can always be found under its name, and if no listed cluster
has references, no entry has.
-/
namespace MeshRouting

namespace ClusterTable

variable {t : ClusterTable} {name : String} {entry other refs : Nat}

/-- Every entry with references is listed. -/
def Tight (t : ClusterTable) : Prop :=
  ∀ entry, t.refsOf entry ≠ 0 → ∃ name, t.active.find? name = some entry

lemma refsOf_setRefs_of_ne (he : other ≠ entry) :
    (t.setRefs entry refs).refsOf other = t.refsOf other := by
  simp [refsOf, setRefs, Ne.symm he]

lemma Tight.setRefs (h : t.Tight) (he : t.active.find? name = some entry) (refs : Nat) :
    (t.setRefs entry refs).Tight := by
  intro other hr
  by_cases hs : other = entry
  · exact ⟨name, hs ▸ he⟩
  · rw [refsOf_setRefs_of_ne hs] at hr
    exact h other hr

lemma Tight.create (h : t.Tight) (hnone : t.active.find? name = none) : (t.create name).Tight := by
  intro entry hr
  have hold : (t.create name).refsOf entry = t.refsOf entry := by
    rcases Nat.lt_trichotomy entry t.entries.length with hlt | rfl | hgt
    · simp [refsOf, ClusterTable.create, List.getElem?_append_left hlt]
    · simp [refsOf, ClusterTable.create]
    · have hnew : (t.entries ++ [⟨name, 0⟩])[entry]? = none :=
        List.getElem?_eq_none (by rw [List.length_append]; exact hgt)
      have hgone : t.entries[entry]? = none := List.getElem?_eq_none hgt.le
      simp only [refsOf, ClusterTable.create, hnew, hgone]
  rw [hold] at hr
  obtain ⟨listed, hl⟩ := h entry hr
  have hne : name ≠ listed := by
    rintro rfl
    rw [hnone] at hl
    cases hl
  exact ⟨listed, by rw [find?_create, if_neg hne, hl]⟩

lemma Tight.acquire (h : t.Tight) (name : String) : (t.acquire name).1.Tight := by
  cases hf : t.active.find? name with
  | some entry =>
    rw [acquire_of_find? hf]
    exact h.setRefs hf _
  | none =>
    have hlisted : (t.create name).active.find? name = some t.entries.length :=
      find?_create.trans (if_pos rfl)
    rw [acquire_of_find?_eq_none hf, acquire_of_find? hlisted]
    exact (h.create hf).setRefs hlisted _

lemma Tight.release (h : t.Tight) (entry : Nat) : (t.release entry).1.Tight := by
  unfold ClusterTable.release
  split
  · exact h
  · rename_i refs hr
    obtain ⟨name, hn⟩ := h entry (by simp [hr])
    exact h.setRefs hn refs

lemma Tight.prune (h : t.Tight) : t.prune.Tight := by
  intro entry hr
  have hr : t.refsOf entry ≠ 0 := hr
  obtain ⟨name, hn⟩ := h entry hr
  exact ⟨name, by simp [find?_prune, hn, Option.filter_some, hr]⟩

end ClusterTable

namespace Pool

variable {p q : Pool}

lemma tight_acquireAll {t : ClusterTable} (h : t.Tight) (names : List String) :
    (acquireAll t names).1.Tight := by
  induction names generalizing t with
  | nil => exact h
  | cons name rest ih => exact ih (h.acquire name)

lemma tight_releaseAll {t : ClusterTable} (h : t.Tight) (holds : List ClusterHold) :
    (releaseAll t holds).1.Tight := by
  induction holds generalizing t with
  | nil => exact h
  | cons hold rest ih => exact ih (h.release hold.entry)

lemma tight_release (h : p.table.Tight) (s : Nat) : (p.release s).1.table.Tight := by
  simp only [release]
  split
  · exact h
  · split
    · exact tight_releaseAll h _
    · exact h

lemma tight_stop (h : p.table.Tight) (s : Nat) : (p.stop s).1.table.Tight := by
  simp only [stop]
  split
  · exact h
  · split
    · exact h
    · rename_i selector _ _
      exact tight_release (p := p.setSelector s { selector with stopped := true }) h s

theorem tight_perform (h : p.table.Tight) (op : PoolOp) : (p.perform op).1.table.Tight := by
  cases op with
  | build update =>
    cases ht : Selector.targetsOf update with
    | error e => simpa [perform, build_eq_error ht] using h
    | ok routes => simpa [perform, build_eq_ok ht] using tight_acquireAll h _
  | retain s =>
    cases hq : p.retain s with
    | none => simpa [perform, hq] using h
    | some leased =>
      obtain ⟨selector, -, -, he⟩ := eq_of_retain hq
      simpa [perform, hq, he] using h
  | dropLease lease =>
    cases hq : p.dropLease lease with
    | none => simpa [perform, hq] using h
    | some dropped =>
      obtain ⟨s, he⟩ := eq_of_dropLease hq
      simpa [perform, hq, he] using
        tight_release (p := { p with leases := p.leases.set lease none }) h s
  | stop s =>
    have hstop := tight_stop h s
    simp only [perform]
    split <;> rename_i heq <;> rwa [heq] at hstop
  | acquire name => exact h.acquire name
  | prune => exact h.prune

lemma tight_of_leads (h : p.table.Tight) (hl : p.Leads q) : q.table.Tight := by
  induction hl with
  | refl => exact h
  | tail _ hstep ih =>
    obtain ⟨op, -, rfl⟩ := hstep
    exact tight_perform ih op

/-- If nobody holds a cluster, no entry has a reference. -/
theorem Sound.refs_eq_zero (h : p.Sound) (ht : p.table.Tight)
    (hnone : ∀ name, name ∉ p.heldClusters) : ∀ entry ∈ p.table.entries, entry.refs = 0 := by
  intro entry hm
  obtain ⟨i, hi⟩ := List.mem_iff_getElem?.mp hm
  have hrefs : p.table.refsOf i = entry.refs := by simp [ClusterTable.refsOf, hi]
  by_contra hr
  obtain ⟨name, hn⟩ := ht i (hrefs ▸ hr)
  have hcount : p.table.refCount? name = some entry.refs := by
    simp [ClusterTable.refCount?, hn, hrefs]
  have hheld : ¬ 0 < p.holders name := fun hpos =>
    hnone name (mem_heldClusters_iff_holders.mpr hpos)
  obtain hc | ⟨hc, -⟩ := h.exact.refCount?_eq name
  · rw [hcount, Option.some.injEq] at hc
    omega
  · rw [hcount] at hc
    cases hc

end Pool
end MeshRouting
