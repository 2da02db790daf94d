import MeshRouting.Proofs.PoolCounts

/-!
# Clusters that reach zero

The release of a selector says whether some cluster has reached zero by it. A selector that is given
up right after it was built leaves every count as it was.
-/
namespace MeshRouting

/-- Some cluster has gone from references to none and is still listed. -/
def ClusterTable.Drains (t u : ClusterTable) : Prop :=
  ∃ name, 0 < (t.refCount? name).getD 0 ∧ u.refCount? name = some 0

namespace Pool

open ClusterTable

variable {p q : Pool} {taken : String → Nat} {s : Nat} {selector : Selector}
  {update : ServiceUpdate}

/-- A cluster reaches zero where the release takes the only reference that there is. -/
lemma Exact.drains_lowered_iff (h : p.Exact taken) (hm : selector ∈ p.selectors)
    (hr : 0 < selector.refs) :
    p.table.Drains (lowered p.table selector).1 ↔
      selector.refs = 1 ∧ ∃ name ∈ selector.clusterNames, p.table.refCount? name = some 1 := by
  constructor
  · rintro ⟨name, hpos, hzero⟩
    rw [h.refCount?_lowered hm hr] at hzero
    split at hzero
    · rename_i hlast
      refine ⟨hlast.1, name, hlast.2, ?_⟩
      cases hc : p.table.refCount? name with
      | none => simp [hc] at hpos
      | some count =>
        simp only [hc, Option.getD_some, Option.some.injEq] at hpos hzero
        exact congrArg some (by omega)
    · simp [hzero] at hpos
  · rintro ⟨hone, name, hn, hc⟩
    refine ⟨name, by simp [hc], ?_⟩
    rw [h.refCount?_lowered hm hr, if_pos ⟨hone, hn⟩, hc]
    rfl

/-- The release of a selector tells whether a cluster has reached zero. -/
theorem Exact.drained_mem_lowered_iff (h : p.Exact taken) (hm : selector ∈ p.selectors)
    (hr : 0 < selector.refs) :
    .drained ∈ (lowered p.table selector).2 ↔
      p.table.Drains (lowered p.table selector).1 := by
  rw [h.drains_lowered_iff hm hr]
  by_cases hone : selector.refs = 1
  · simp only [lowered, hone, if_true, true_and, Selector.clusterNames, List.mem_map,
      exists_exists_and_eq_and]
    exact drained_mem_releaseAll_iff h.coherent (h.distinct selector hm) (h.listed selector hm hr)
  · simp [lowered, hone]

/-! ### A selector that is given up at once -/

lemma selector_of_build (hb : p.build update = .ok (q, s)) :
    ∃ fresh, q.selectors = p.selectors ++ [fresh] ∧ q.leases = p.leases ∧
      s = p.selectors.length ∧ fresh.refs = 1 ∧ fresh.stopped = false := by
  obtain ⟨routes, -, rfl, rfl⟩ := eq_of_build hb
  exact ⟨built p.table routes, rfl, rfl, rfl, rfl, rfl⟩

/-- The selector stays behind without holders; the others and the leases are not touched. -/
lemma rest_of_discard (hb : p.build update = .ok (q, s)) :
    (∃ discarded, (q.prune.stop s).1.selectors = p.selectors ++ [discarded] ∧
      discarded.refs = 0) ∧ (q.prune.stop s).1.leases = p.leases := by
  obtain ⟨fresh, hsel, hleases, rfl, hone, hn⟩ := selector_of_build hb
  have hs : q.prune.selectors[p.selectors.length]? = some fresh := by simp [prune, hsel]
  rw [stop_eq hs hn]
  refine ⟨⟨{ fresh with refs := fresh.refs - 1, stopped := true }, ?_, by simp [hone]⟩, hleases⟩
  simp [prune, hsel]

/-- The counts are as they were before the selector was built. -/
theorem Exact.getD_refCount?_discard (h : p.Exact taken) (hb : p.build update = .ok (q, s))
    (name : String) :
    ((q.prune.stop s).1.table.refCount? name).getD 0 = (p.table.refCount? name).getD 0 := by
  have hafter : (q.prune.stop s).1.Exact taken := (h.build hb).prune.stop s
  obtain ⟨⟨discarded, hsel, hz⟩, -⟩ := rest_of_discard hb
  -- both pools are exact for the same references from outside, so only the holders can differ
  rw [hafter.counted, h.counted, holders, hsel, List.countP_append, List.countP_singleton]
  simp [hz, holders]

end Pool
end MeshRouting
