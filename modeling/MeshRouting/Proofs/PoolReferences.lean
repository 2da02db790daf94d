import MeshRouting.Proofs.TableCounts
import MeshRouting.Routing.Pool
import Mathlib.Data.List.Nodup

/-!
# References that selectors take and give back

Taking one reference on each of several distinct names raises just their counts by one, and giving
the references back lowers them by one. Each way of letting go of a selector is the same step: its
holders become one fewer, and the last one gives the clusters back.
-/
namespace MeshRouting.Pool

open ClusterTable

variable {t : ClusterTable} {names : List String} {holds : List ClusterHold}

lemma coherent_acquireAll (hc : t.Coherent) : (acquireAll t names).1.Coherent := by
  induction names generalizing t with
  | nil => exact hc
  | cons name rest ih => exact ih (coherent_acquire hc)

lemma find?_acquireAll_of_some {other : String} {entry : Nat}
    (h : t.active.find? other = some entry) :
    (acquireAll t names).1.active.find? other = some entry := by
  induction names generalizing t with
  | nil => exact h
  | cons name rest ih => exact ih (find?_acquire_of_some h)

lemma acquireAll_names : (acquireAll t names).2.map (·.name) = names := by
  induction names generalizing t with
  | nil => rfl
  | cons name rest ih => simp [acquireAll, ih]

lemma find?_of_mem_acquireAll {hold : ClusterHold} (hm : hold ∈ (acquireAll t names).2) :
    (acquireAll t names).1.active.find? hold.name = some hold.entry := by
  induction names generalizing t with
  | nil => simp [acquireAll] at hm
  | cons name rest ih =>
    simp only [acquireAll, List.mem_cons] at hm ⊢
    rcases hm with rfl | hm
    · have hf : (t.acquire name).1.active.find? name = some (t.acquire name).2 :=
        find?_acquire.trans (if_pos rfl)
      exact find?_acquireAll_of_some hf
    · exact ih hm

lemma refCount?_acquireAll (hc : t.Coherent) (hn : names.Nodup) (other : String) :
    (acquireAll t names).1.refCount? other =
      if other ∈ names then some ((t.refCount? other).getD 0 + 1) else t.refCount? other := by
  induction names generalizing t with
  | nil => simp [acquireAll]
  | cons name rest ih =>
    obtain ⟨hout, hrest⟩ := List.nodup_cons.mp hn
    simp only [acquireAll, ih (coherent_acquire hc) hrest, refCount?_acquire hc]
    by_cases he : name = other
    · subst he
      simp [hout]
    · simp [he, Ne.symm he]

/-- Every hold is on the entry that the table lists under its name. -/
def Listed (t : ClusterTable) (holds : List ClusterHold) : Prop :=
  ∀ hold ∈ holds, t.active.find? hold.name = some hold.entry

lemma releaseAll_active : (releaseAll t holds).1.active = t.active := by
  induction holds generalizing t with
  | nil => rfl
  | cons hold rest ih => exact ih.trans (release_active hold.entry)

lemma coherent_releaseAll (hc : t.Coherent) : (releaseAll t holds).1.Coherent := by
  induction holds generalizing t with
  | nil => exact hc
  | cons hold rest ih => exact ih (coherent_release hc)

lemma Listed.tail {hold : ClusterHold} (hl : Listed t (hold :: holds)) :
    Listed (t.release hold.entry).1 holds := by
  intro other hm
  rw [release_active]
  exact hl other (List.mem_cons_of_mem _ hm)

lemma refCount?_releaseAll (hc : t.Coherent) (hn : (holds.map (·.name)).Nodup)
    (hl : Listed t holds) (other : String) :
    (releaseAll t holds).1.refCount? other =
      if other ∈ holds.map (·.name) then some ((t.refCount? other).getD 0 - 1)
      else t.refCount? other := by
  induction holds generalizing t with
  | nil => simp [releaseAll]
  | cons hold rest ih =>
    obtain ⟨hout, hrest⟩ := List.nodup_cons.mp hn
    have hfirst := hl hold (by simp)
    simp only [releaseAll, ih (coherent_release hc) hrest hl.tail, refCount?_release hc hfirst,
      List.map_cons, List.mem_cons]
    by_cases he : hold.name = other
    · subst he
      simp [hout]
    · simp [he, Ne.symm he]

/-- The first release of a list leaves the counts that the later ones find. -/
lemma refCount?_release_of_mem (hc : t.Coherent) {hold other : ClusterHold}
    (hn : ((hold :: holds).map (·.name)).Nodup) (hl : Listed t (hold :: holds))
    (hm : other ∈ holds) :
    (t.release hold.entry).1.refCount? other.name = t.refCount? other.name := by
  have hne : hold.name ≠ other.name := by
    intro he
    exact (List.nodup_cons.mp hn).1 (List.mem_map.mpr ⟨other, hm, he.symm⟩)
  rw [refCount?_release hc (hl hold (by simp)), if_neg hne]

lemma mem_releaseAll_iff (hc : t.Coherent) (hn : (holds.map (·.name)).Nodup)
    (hl : Listed t holds) {outcome : Released} {count : Nat}
    (hone : ∀ (u : ClusterTable) (name : String) (entry : Nat), u.active.find? name = some entry →
      ((u.release entry).2 = outcome ↔ u.refCount? name = some count)) :
    outcome ∈ (releaseAll t holds).2 ↔ ∃ hold ∈ holds, t.refCount? hold.name = some count := by
  induction holds generalizing t with
  | nil => simp [releaseAll]
  | cons hold rest ih =>
    have hrest := ih (coherent_release hc) (List.nodup_cons.mp hn).2 hl.tail
    have hfirst := hone t hold.name hold.entry (hl hold (by simp))
    have hsame : (∃ other ∈ rest, (t.release hold.entry).1.refCount? other.name = some count) ↔
        ∃ other ∈ rest, t.refCount? other.name = some count := by
      constructor <;> rintro ⟨other, hm, hcount⟩ <;> refine ⟨other, hm, ?_⟩
      · rwa [refCount?_release_of_mem hc hn hl hm] at hcount
      · rwa [refCount?_release_of_mem hc hn hl hm]
    simp only [releaseAll, List.mem_cons, exists_eq_or_imp]
    rw [hrest, hsame, ← hfirst, eq_comm (a := outcome)]

lemma unheld_mem_releaseAll_iff (hc : t.Coherent) (hn : (holds.map (·.name)).Nodup)
    (hl : Listed t holds) :
    .unheld ∈ (releaseAll t holds).2 ↔ ∃ hold ∈ holds, t.refCount? hold.name = some 0 :=
  mem_releaseAll_iff hc hn hl fun _ _ _ => release_eq_unheld_iff

lemma drained_mem_releaseAll_iff (hc : t.Coherent) (hn : (holds.map (·.name)).Nodup)
    (hl : Listed t holds) :
    .drained ∈ (releaseAll t holds).2 ↔ ∃ hold ∈ holds, t.refCount? hold.name = some 1 :=
  mem_releaseAll_iff hc hn hl fun _ _ _ => release_eq_drained_iff

variable {p : Pool} {s : Nat} {selector : Selector}

/-- What the table comes to when a selector is let go of by one of its holders. -/
def lowered (t : ClusterTable) (selector : Selector) : ClusterTable × List Released :=
  if selector.refs = 1 then releaseAll t selector.clusters else (t, [])

lemma release_eq (hs : p.selectors[s]? = some selector) :
    p.release s =
      ({ p with
          table := (lowered p.table selector).1
          selectors := p.selectors.set s { selector with refs := selector.refs - 1 } },
        (lowered p.table selector).2) := by
  by_cases h : selector.refs = 1 <;> simp [release, hs, lowered, h, setSelector]

lemma dropLease_eq {lease : Nat} (hl : p.leases[lease]? = some (some s))
    (hs : p.selectors[s]? = some selector) :
    p.dropLease lease =
      some ({ p with
          table := (lowered p.table selector).1
          selectors := p.selectors.set s { selector with refs := selector.refs - 1 }
          leases := p.leases.set lease none },
        (lowered p.table selector).2) := by
  have hr := release_eq (p := { p with leases := p.leases.set lease none }) hs
  simp [dropLease, hl, hr]

lemma stop_eq (hs : p.selectors[s]? = some selector) (hn : selector.stopped = false) :
    p.stop s =
      ({ p with
          table := (lowered p.table selector).1
          selectors := p.selectors.set s
            { selector with refs := selector.refs - 1, stopped := true } },
        .first (lowered p.table selector).2) := by
  have hlt : s < p.selectors.length := (List.getElem?_eq_some_iff.mp hs).1
  have hset : (p.setSelector s { selector with stopped := true }).selectors[s]? =
      some { selector with stopped := true } := by
    simp [setSelector, hlt]
  have hr := release_eq hset
  simp only [setSelector, List.set_set] at hr
  simp [stop, hs, hn, setSelector, hr, lowered]

lemma retain_eq (hs : p.selectors[s]? = some selector) (hr : 0 < selector.refs) :
    p.retain s =
      some ({ p with
          selectors := p.selectors.set s { selector with refs := selector.refs + 1 }
          leases := p.leases ++ [some s] }, p.leases.length) := by
  simp [retain, hs, hr.ne', setSelector]

def built (t : ClusterTable) (routes : List RoutedTarget) : Selector :=
  ⟨routes, (acquireAll t (Selector.clustersOf routes).toList).2, 1, false⟩

lemma build_eq_ok {update : ServiceUpdate} {routes : List RoutedTarget}
    (h : Selector.targetsOf update = .ok routes) :
    p.build update =
      .ok ({ p with
          table := (acquireAll p.table (Selector.clustersOf routes).toList).1
          selectors := p.selectors ++ [built p.table routes] }, p.selectors.length) := by
  simp [build, h, built, bind, Except.bind, pure, Except.pure]

lemma build_eq_error {update : ServiceUpdate} {e : SelectorError}
    (h : Selector.targetsOf update = .error e) : p.build update = .error e := by
  simp [build, h, bind, Except.bind]

/-! What is known of a pool that comes of one operation. -/

lemma eq_of_build {q : Pool} {update : ServiceUpdate} (h : p.build update = .ok (q, s)) :
    ∃ routes, Selector.targetsOf update = .ok routes ∧ s = p.selectors.length ∧
      q = { p with
        table := (acquireAll p.table (Selector.clustersOf routes).toList).1
        selectors := p.selectors ++ [built p.table routes] } := by
  cases ht : Selector.targetsOf update with
  | error e => simp [build_eq_error ht] at h
  | ok routes =>
    rw [build_eq_ok ht, Except.ok.injEq, Prod.mk.injEq] at h
    exact ⟨routes, rfl, h.2.symm, h.1.symm⟩

lemma eq_of_retain {q : Pool} {lease : Nat} (h : p.retain s = some (q, lease)) :
    ∃ selector, p.selectors[s]? = some selector ∧ 0 < selector.refs ∧
      q = { p with
        selectors := p.selectors.set s { selector with refs := selector.refs + 1 }
        leases := p.leases ++ [some s] } := by
  cases hs : p.selectors[s]? with
  | none => simp [retain, hs] at h
  | some selector =>
    by_cases hr : selector.refs = 0
    · simp [retain, hs, hr] at h
    · have hpos := Nat.pos_of_ne_zero hr
      rw [retain_eq hs hpos, Option.some.injEq, Prod.mk.injEq] at h
      exact ⟨selector, rfl, hpos, h.1.symm⟩

lemma eq_of_dropLease {q : Pool} {lease : Nat} {outcomes : List Released}
    (h : p.dropLease lease = some (q, outcomes)) :
    ∃ s, q = ({ p with leases := p.leases.set lease none }.release s).1 := by
  simp only [dropLease] at h
  split at h
  · exact ⟨_, (congrArg Prod.fst (Option.some.inj h)).symm⟩
  · cases h

end MeshRouting.Pool
