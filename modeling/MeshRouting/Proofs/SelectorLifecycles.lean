import MeshRouting.Proofs.PoolHistory
import MeshRouting.Proofs.PoolReleases
import MeshRouting.Session.Selector

/-!
# Lifecycles of selectors

A selector is held by the resolver until it is stopped and by everyone who has a lease on it. When
the last of them lets go, it gives its clusters back, once, and where one of them reaches zero it
asks for the state to be published again, as far as there is a mailbox that takes the marker.
-/
namespace MeshRouting

/-- What an operation of a session does to the pool. -/
def SelectorOp.pooled : SelectorOp → Option PoolOp
  | .build update => some (.build update)
  | .acquire name => some (.acquire name)
  | .prune => some .prune
  | .retain s => some (.retain s)
  | .release lease => some (.dropLease lease)
  | .stop s => some (.stop s)
  | _ => none

/-- The operations that are done to the mailbox itself. -/
def SelectorOp.onMailbox : SelectorOp → Bool
  | .take | .publish _ | .closeMailbox | .dropMailbox => true
  | _ => false

namespace Pool

variable {p : Pool} {taken : String → Nat} {s : Nat}

lemma stopped?_perform_iff (p : Pool) (op : PoolOp) (s : Nat) :
    (p.perform op).1.stopped? s = some true ↔
      p.stopped? s = some true ∨ op = .stop s ∧ s < p.selectors.length := by
  cases op with
  | build update =>
    simp only [perform, reduceCtorEq, false_and, or_false]
    cases hb : p.build update with
    | error e => rfl
    | ok built =>
      simp only [stopped?_build hb]
      split
      · rename_i he
        rw [he, stopped?_eq_none_of_build hb]
        simp
      · rfl
  | retain t =>
    simp only [perform, reduceCtorEq, false_and, or_false]
    cases hq : p.retain t with
    | none => rfl
    | some leased => rw [← stopped?_retain hq]
  | dropLease lease =>
    simp only [perform, reduceCtorEq, false_and, or_false]
    cases hd : p.dropLease lease with
    | none => rfl
    | some dropped => rw [← stopped?_dropLease hd]; rfl
  | stop t =>
    have hperform : (p.perform (.stop t)).1 = (p.stop t).1 := by
      simp only [perform]
      split <;> rename_i heq <;> rw [heq]
    rw [hperform, stopped?_stop]
    by_cases he : s = t
    · subst he
      cases hs : p.selectors[s]? with
      | none => simp [stopped?, List.getElem?_eq_none_iff.mp hs]
      | some selector => simp [stopped?, (List.getElem?_eq_some_iff.mp hs).1]
    · simp [he, Ne.symm he]
  | acquire name => simp [perform, stopped?, Pool.acquire]
  | prune => simp [perform]

lemma Exact.ages_perform (h : p.Exact taken) (op : PoolOp) {selector : Selector}
    (hs : p.selectors[s]? = some selector) :
    ∃ later, (p.perform op).1.selectors[s]? = some later ∧ selector.Ages later := by
  by_cases hop : ∀ name, op ≠ .acquire name
  · exact h.ages_step ⟨op, hop, rfl⟩ hs
  · push Not at hop
    obtain ⟨name, rfl⟩ := hop
    exact ⟨selector, hs, .refl selector⟩

end Pool

namespace SelectorSession

def after (ops : List SelectorOp) : SelectorSession :=
  ops.foldl (fun t op => (t.perform op).1) {}

/-- Someone told the selector to stop, when it was there already. -/
def StopCalled (ops : List SelectorOp) (s : Nat) : Prop :=
  ∃ earlier later, ops = earlier ++ .stop s :: later ∧
    s < (after earlier).pool.selectors.length

/-- The marker has come into the mailbox, where nothing was pending. -/
def Posted (t u : SelectorSession) : Prop :=
  ∃ m n, t.mailbox = some m ∧ u.mailbox = some n ∧ m.slot = none ∧ n.slot = some .republish

/-- The last holder of the selector lets go. -/
def Empties (t u : SelectorSession) (s : Nat) : Prop :=
  ∃ selector later, t.pool.selectors[s]? = some selector ∧ u.pool.selectors[s]? = some later ∧
    0 < selector.refs ∧ later.refs = 0

variable {t u : SelectorSession} {taken : String → Nat} {s : Nat} {selector : Selector}
  {ops : List SelectorOp} {op : SelectorOp}

lemma after_append_singleton (ops : List SelectorOp) (op : SelectorOp) :
    after (ops ++ [op]) = ((after ops).perform op).1 := by
  simp [after, List.foldl_append]

lemma perform_pool (t : SelectorSession) (op : SelectorOp) :
    (t.perform op).1.pool = op.pooled.elim t.pool fun pooled => (t.pool.perform pooled).1 := by
  cases op with
  | build update =>
    simp only [perform, SelectorOp.pooled, Option.elim_some, Pool.perform]
    cases t.pool.build update <;> rfl
  | retain s =>
    simp only [perform, SelectorOp.pooled, Option.elim_some, Pool.perform]
    cases t.pool.retain s <;> rfl
  | release lease =>
    simp only [perform, SelectorOp.pooled, Option.elim_some, Pool.perform]
    cases t.pool.dropLease lease <;> rfl
  | stop s =>
    simp only [perform, SelectorOp.pooled, Option.elim_some, Pool.perform]
    rcases t.pool.stop s with ⟨pool, outcomes | _⟩ <;> rfl
  | take =>
    simp only [perform, SelectorOp.pooled, Option.elim_none]
    cases t.mailbox <;> rfl
  | publish e =>
    simp only [perform, SelectorOp.pooled, Option.elim_none]
    cases t.mailbox <;> rfl
  | _ => rfl

lemma exact_after (ops : List SelectorOp) : ∃ taken, (after ops).pool.Exact taken := by
  induction ops using List.reverseRecOn with
  | nil => exact ⟨_, Pool.exact_empty⟩
  | append_singleton ops op ih =>
    obtain ⟨taken, h⟩ := ih
    rw [after_append_singleton, perform_pool]
    cases op.pooled with
    | none => exact ⟨taken, h⟩
    | some pooled => exact ⟨_, h.perform pooled⟩

/-! ### Stopped selectors -/

lemma stopCalled_append_singleton :
    StopCalled (ops ++ [op]) s ↔
      StopCalled ops s ∨ op = .stop s ∧ s < (after ops).pool.selectors.length := by
  constructor
  · rintro ⟨earlier, later, heq, hlt⟩
    rcases List.eq_nil_or_concat later with rfl | ⟨rest, last, rfl⟩
    · obtain ⟨rfl, hop⟩ := List.append_inj' heq rfl
      exact .inr ⟨List.singleton_inj.mp hop, hlt⟩
    · rw [List.concat_eq_append, ← List.cons_append, ← List.append_assoc] at heq
      obtain ⟨rfl, -⟩ := List.append_inj' heq rfl
      exact .inl ⟨earlier, rest, rfl, hlt⟩
  · rintro (⟨earlier, later, rfl, hlt⟩ | ⟨rfl, hlt⟩)
    · exact ⟨earlier, later ++ [op], by simp, hlt⟩
    · exact ⟨ops, [], rfl, hlt⟩

theorem stopped?_after_iff (ops : List SelectorOp) (s : Nat) :
    (after ops).pool.stopped? s = some true ↔ StopCalled ops s := by
  induction ops using List.reverseRecOn with
  | nil =>
    refine iff_of_false (by simp [after, Pool.empty, Pool.stopped?]) ?_
    rintro ⟨earlier, later, heq, -⟩
    simp at heq
  | append_singleton ops op ih =>
    rw [stopCalled_append_singleton, ← ih, after_append_singleton, perform_pool]
    cases hop : op.pooled with
    | none =>
      have hne : op ≠ .stop s := by
        rintro rfl
        cases hop
      simp [hne]
    | some pooled =>
      have hiff : pooled = .stop s ↔ op = .stop s := by
        cases op <;> simp [SelectorOp.pooled] at hop <;> subst hop <;> simp
      rw [Option.elim_some, Pool.stopped?_perform_iff, hiff]

/-! ### One step -/

/-- A held selector is let go of by one of its holders. -/
structure LetsGo (t u : SelectorSession) (s : Nat) (selector : Selector) : Prop where
  found : t.pool.selectors[s]? = some selector
  held : 0 < selector.refs
  table : u.pool.table = (Pool.lowered t.pool.table selector).1
  selectors : ∃ next, next.refs = selector.refs - 1 ∧
    u.pool.selectors = t.pool.selectors.set s next
  mailbox : u.mailbox = if .drained ∈ (Pool.lowered t.pool.table selector).2
    then t.mailbox.map (·.nudge.1) else t.mailbox

/-- No selector loses a holder, and no cluster a reference. -/
structure Grows (p q : Pool) : Prop where
  refs : ∀ (s : Nat) (selector : Selector), p.selectors[s]? = some selector →
    ∃ next, q.selectors[s]? = some next ∧ selector.refs ≤ next.refs
  counts : ∀ name, (p.table.refCount? name).getD 0 ≤ (q.table.refCount? name).getD 0

lemma Grows.refl (p : Pool) : Grows p p :=
  ⟨fun _ selector hs => ⟨selector, hs, le_rfl⟩, fun _ => le_rfl⟩

lemma grows_build {p q : Pool} {update : ServiceUpdate} (h : p.Exact taken)
    (hb : p.build update = .ok (q, s)) : Grows p q := by
  obtain ⟨fresh, hsel, -⟩ := Pool.selector_of_build hb
  refine ⟨fun t selector hs => ⟨selector, ?_, le_rfl⟩, fun name => ?_⟩
  · rw [hsel, List.getElem?_append_left (List.getElem?_eq_some_iff.mp hs).1, hs]
  · rw [h.counted, (h.build hb).counted]
    simp only [Pool.holders, hsel, List.countP_append]
    omega

lemma grows_acquire {p : Pool} (h : p.Exact taken) (name : String) :
    Grows p (p.acquire name).1 := by
  refine ⟨fun t selector hs => ⟨selector, hs, le_rfl⟩, fun other => ?_⟩
  rw [h.counted, (h.acquire name).counted]
  show p.holders other + taken other ≤ p.holders other + _
  omega

lemma grows_prune {p : Pool} (h : p.Exact taken) : Grows p p.prune := by
  refine ⟨fun t selector hs => ⟨selector, hs, le_rfl⟩, fun name => ?_⟩
  rw [h.counted, h.prune.counted]
  exact le_rfl

lemma grows_retain {p q : Pool} {lease : Nat} (hq : p.retain s = some (q, lease)) :
    Grows p q := by
  obtain ⟨old, ho, -, rfl⟩ := Pool.eq_of_retain hq
  refine ⟨fun t selector hs => ?_, fun name => le_rfl⟩
  by_cases he : s = t
  · subst he
    rw [ho, Option.some.injEq] at hs
    subst hs
    exact ⟨_, List.getElem?_set_self (List.getElem?_eq_some_iff.mp ho).1, Nat.le_succ _⟩
  · exact ⟨selector, by rw [List.getElem?_set_ne he, hs], le_rfl⟩

lemma afterRelease_mailbox (t : SelectorSession) (pool : Pool) (outcomes : List Released) :
    (t.afterRelease pool outcomes).mailbox =
      if .drained ∈ outcomes then t.mailbox.map (·.nudge.1) else t.mailbox := by
  by_cases h : .drained ∈ outcomes <;> simp [afterRelease, Pool.drained, h]

/-- Whoever the holder was, the selector is let go of by its release. -/
lemma letsGo_afterRelease {pool : Pool} {next : Selector}
    (hs : t.pool.selectors[s]? = some selector) (hr : 0 < selector.refs)
    (hrefs : next.refs = selector.refs - 1)
    (htable : pool.table = (Pool.lowered t.pool.table selector).1)
    (hset : pool.selectors = t.pool.selectors.set s next) :
    LetsGo t (t.afterRelease pool (Pool.lowered t.pool.table selector).2) s selector where
  found := hs
  held := hr
  table := htable
  selectors := ⟨next, hrefs, hset⟩
  mailbox := afterRelease_mailbox t pool _

/-- What an operation can do: one selector is let go of, or nothing is taken from anyone and only
operations on the mailbox change that. -/
theorem perform_cases (h : t.pool.Exact taken) (op : SelectorOp) :
    (∃ s selector, LetsGo t (t.perform op).1 s selector) ∨
      Grows t.pool (t.perform op).1.pool ∧
        (op.onMailbox = false → (t.perform op).1.mailbox = t.mailbox) := by
  cases op with
  | build update =>
    cases hb : t.pool.build update with
    | error e => simpa [perform, hb] using .inr (.refl t.pool)
    | ok built => simpa [perform, hb] using .inr (grows_build h hb)
  | acquire name => exact .inr ⟨grows_acquire h name, fun _ => rfl⟩
  | prune => exact .inr ⟨grows_prune h, fun _ => rfl⟩
  | retain s =>
    cases hq : t.pool.retain s with
    | none => simpa [perform, hq] using .inr (.refl t.pool)
    | some leased => simpa [perform, hq] using .inr (grows_retain hq)
  | release lease =>
    obtain hnone | ⟨s, selector, hl, hs, hr⟩ := h.dropLease_cases lease
    · simpa [perform, hnone] using .inr (.refl t.pool)
    · simp only [perform, Pool.dropLease_eq hl hs]
      exact .inl ⟨s, selector, letsGo_afterRelease hs hr rfl rfl rfl⟩
  | stop s =>
    obtain hagain | ⟨selector, hs, hn, hr⟩ := h.stop_cases s
    · simpa [perform, hagain] using .inr ⟨.refl t.pool, fun _ => rfl⟩
    · simp only [perform, Pool.stop_eq hs hn]
      exact .inl ⟨s, selector, letsGo_afterRelease hs hr rfl rfl rfl⟩
  | take =>
    refine .inr ⟨?_, by simp [SelectorOp.onMailbox]⟩
    rw [perform_pool]
    exact .refl _
  | publish e =>
    refine .inr ⟨?_, by simp [SelectorOp.onMailbox]⟩
    rw [perform_pool]
    exact .refl _
  | closeMailbox => exact .inr ⟨.refl _, by simp [SelectorOp.onMailbox]⟩
  | dropMailbox => exact .inr ⟨.refl _, by simp [SelectorOp.onMailbox]⟩
  | _ => exact .inr ⟨.refl _, fun _ => rfl⟩

/-! ### The last holder -/

/-- Each cluster of the selector loses one reference, no other cluster changes, and the marker is
posted if it has to be and can be; otherwise the mailbox stays as it is. -/
structure GivesBack (t u : SelectorSession) (selector : Selector) : Prop where
  lowered : ∀ name ∈ selector.clusterNames, ∃ count,
    t.pool.table.refCount? name = some (count + 1) ∧ u.pool.table.refCount? name = some count
  others : ∀ name ∉ selector.clusterNames,
    u.pool.table.refCount? name = t.pool.table.refCount? name
  posted : Posted t u ↔
    (∃ name ∈ selector.clusterNames, u.pool.table.refCount? name = some 0) ∧
      ∃ m, t.mailbox = some m ∧ m.closed = false ∧ m.slot = none
  unposted : ¬ Posted t u → u.mailbox = t.mailbox

lemma posted_nudge_iff (hu : u.mailbox = t.mailbox.map (·.nudge.1)) :
    Posted t u ↔ ∃ m, t.mailbox = some m ∧ m.closed = false ∧ m.slot = none := by
  constructor
  · rintro ⟨m, n, hm, hn, hnone, hslot⟩
    refine ⟨m, hm, ?_, hnone⟩
    rw [hu, hm, Option.map_some, Option.some.injEq] at hn
    subst hn
    cases hclosed : m.closed with
    | false => rfl
    | true => simp [Mailbox.nudge, hclosed, hnone] at hslot
  · rintro ⟨m, hm, hopen, hnone⟩
    refine ⟨m, m.nudge.1, hm, by rw [hu, hm, Option.map_some], hnone, ?_⟩
    simp [Mailbox.nudge, hopen, hnone, Mailbox.wakeOne_slot]

lemma mailbox_of_not_posted (hu : u.mailbox = t.mailbox.map (·.nudge.1)) (h : ¬ Posted t u) :
    u.mailbox = t.mailbox := by
  rw [posted_nudge_iff hu] at h
  cases hm : t.mailbox with
  | none => rw [hu, hm, Option.map_none]
  | some m =>
    have hrefused : (m.closed || m.slot.isSome) = true := by
      by_contra hfree
      simp only [Bool.not_eq_true, Bool.or_eq_false_iff, Option.isSome_eq_false_iff,
        Option.isNone_iff_eq_none] at hfree
      exact h ⟨m, hm, hfree⟩
    rw [hu, hm, Option.map_some, Mailbox.nudge, if_pos hrefused]

lemma LetsGo.givesBack (h : t.pool.Exact taken) (hg : LetsGo t u s selector)
    (hone : selector.refs = 1) : GivesBack t u selector := by
  have hm := List.mem_of_getElem? hg.found
  have hcount (name : String) := h.refCount?_lowered hm hg.held name
  simp only [hone, true_and, ← hg.table] at hcount
  have hlowered : ∀ name ∈ selector.clusterNames, ∃ count,
      t.pool.table.refCount? name = some (count + 1) ∧
        u.pool.table.refCount? name = some count := by
    intro name hn
    obtain ⟨hold, hh, rfl⟩ := List.mem_map.mp hn
    have hpos := h.refCount?_pos hm hg.held hh
    cases hc : t.pool.table.refCount? hold.name with
    | none => simp [hc] at hpos
    | some found =>
      rw [hc, Option.getD_some] at hpos
      refine ⟨found - 1, congrArg some (Nat.sub_add_cancel hpos).symm, ?_⟩
      rw [hcount, if_pos hn, hc, Option.getD_some]
  have hdrained : .drained ∈ (Pool.lowered t.pool.table selector).2 ↔
      ∃ name ∈ selector.clusterNames, u.pool.table.refCount? name = some 0 := by
    rw [h.drained_mem_lowered_iff hm hg.held, h.drains_lowered_iff hm hg.held]
    simp only [hone, true_and]
    refine exists_congr fun name => and_congr_right fun hn => ?_
    obtain ⟨count, hbefore, hafter⟩ := hlowered name hn
    simp [hbefore, hafter]
  have hothers : ∀ name ∉ selector.clusterNames,
      u.pool.table.refCount? name = t.pool.table.refCount? name :=
    fun name hn => (hcount name).trans (if_neg hn)
  have hmailbox := hg.mailbox
  split at hmailbox
  · rename_i hd
    refine ⟨hlowered, hothers, ?_, mailbox_of_not_posted hmailbox⟩
    rw [posted_nudge_iff hmailbox]
    exact (and_iff_right (hdrained.mp hd)).symm
  · rename_i hd
    refine ⟨hlowered, hothers, ?_, fun _ => hmailbox⟩
    -- the mailbox was left alone, so its slot cannot have been filled
    refine iff_of_false ?_ fun hr => hd (hdrained.mpr hr.1)
    rintro ⟨m, n, hbefore, hafter, hnone, hslot⟩
    rw [hmailbox, hbefore, Option.some.injEq] at hafter
    rw [hafter, hslot] at hnone
    cases hnone

lemma LetsGo.empties_iff (hg : LetsGo t u s selector) (other : Nat) :
    Empties t u other ↔ other = s ∧ selector.refs = 1 := by
  obtain ⟨next, hrefs, hset⟩ := hg.selectors
  have hheld := hg.held
  have hlt := (List.getElem?_eq_some_iff.mp hg.found).1
  constructor
  · rintro ⟨found, later, hf, hl, hpos, hz⟩
    rw [hset] at hl
    by_cases he : s = other
    · subst he
      rw [List.getElem?_set_self hlt, Option.some.injEq] at hl
      rw [← hl, hrefs] at hz
      exact ⟨rfl, by omega⟩
    · rw [List.getElem?_set_ne he, hf, Option.some.injEq] at hl
      rw [hl, hz] at hpos
      exact absurd hpos (lt_irrefl 0)
  · rintro ⟨rfl, hone⟩
    refine ⟨selector, next, hg.found, ?_, hg.held, by rw [hrefs, hone]⟩
    rw [hset, List.getElem?_set_self hlt]

lemma LetsGo.unchanged (hg : LetsGo t u s selector) (hmore : selector.refs ≠ 1) :
    u.pool.table = t.pool.table ∧ u.mailbox = t.mailbox := by
  have hlowered : Pool.lowered t.pool.table selector = (t.pool.table, []) := if_neg hmore
  refine ⟨by rw [hg.table, hlowered], ?_⟩
  rw [hg.mailbox, hlowered]
  simp

lemma not_empties_of_grows (hg : Grows t.pool u.pool) (s : Nat) : ¬ Empties t u s := by
  rintro ⟨selector, later, hs, hl, hpos, hz⟩
  obtain ⟨next, hnext, hle⟩ := hg.refs s selector hs
  rw [hl, Option.some.injEq] at hnext
  subst hnext
  omega

/-! ### Whole runs -/

lemma released_forever (hs : (after ops).pool.selectors[s]? = some selector)
    (hz : selector.refs = 0) (more : List SelectorOp) :
    ∃ later, (after (ops ++ more)).pool.selectors[s]? = some later ∧ later.refs = 0 := by
  induction more using List.reverseRecOn with
  | nil => exact ⟨selector, by rwa [List.append_nil], hz⟩
  | append_singleton more op ih =>
    obtain ⟨later, hl, hzero⟩ := ih
    obtain ⟨taken, h⟩ := exact_after (ops ++ more)
    rw [← List.append_assoc, after_append_singleton, perform_pool]
    cases op.pooled with
    | none => exact ⟨later, hl, hzero⟩
    | some pooled =>
      obtain ⟨last, hlast, hage⟩ := h.ages_perform pooled hl
      exact ⟨last, hlast, hage.unheld hzero⟩

lemma retain_answer_iff (hs : t.pool.selectors[s]? = some selector) :
    (∃ lease, (t.perform (.retain s)).2 = .number (some lease)) ↔ 0 < selector.refs := by
  constructor
  · rintro ⟨lease, ha⟩
    cases hq : t.pool.retain s with
    | none => simp [perform, hq] at ha
    | some leased =>
      obtain ⟨same, hsame, hpos, -⟩ := Pool.eq_of_retain hq
      rw [hs, Option.some.injEq] at hsame
      rwa [hsame]
  · intro hpos
    exact ⟨t.pool.leases.length, by simp [perform, Pool.retain_eq hs hpos]⟩

lemma stop_again (h : t.pool.stopped? s = some true) :
    (t.perform (.stop s)).1.pool = t.pool ∧ (t.perform (.stop s)).1.mailbox = t.mailbox := by
  obtain ⟨selector, hs, hstopped⟩ := Option.map_eq_some_iff.mp h
  have hagain : t.pool.stop s = (t.pool, .again) := by simp [Pool.stop, hs, hstopped]
  simp only [perform, hagain]
  exact ⟨rfl, rfl⟩

/-- The lifecycle of selectors, whatever is done to them, to the table and to the mailbox. The
holders of a selector are its outstanding leases and, until it is stopped, the resolver. It can be
leased as long as there is a holder, and once there is none there will be none again. Stopping it
again changes nothing. When its last holder lets go, each of its clusters loses one reference, and
the marker is posted just where one of them reached zero and there is an open mailbox with nothing
pending; no two selectors lose their last holder at once. Where no selector does, no cluster loses a
reference, and the mailbox stays as it is unless the operation was done to that. -/
theorem selector_lifecycle (ops : List SelectorOp) :
    let t := after ops
    (∀ (s : Nat) (selector : Selector), t.pool.selectors[s]? = some selector →
      (StopCalled ops s → selector.refs = t.pool.leases.count (some s)) ∧
      (¬ StopCalled ops s → selector.refs = t.pool.leases.count (some s) + 1) ∧
      ((∃ lease, (t.perform (.retain s)).2 = .number (some lease)) ↔ 0 < selector.refs) ∧
      (selector.refs = 0 → ∀ more, ∃ later,
        (after (ops ++ more)).pool.selectors[s]? = some later ∧ later.refs = 0)) ∧
    (∀ s, StopCalled ops s →
      (t.perform (.stop s)).1.pool = t.pool ∧ (t.perform (.stop s)).1.mailbox = t.mailbox) ∧
    (∀ op, let u := (t.perform op).1
      (∀ (s : Nat) (selector : Selector), t.pool.selectors[s]? = some selector →
        Empties t u s → GivesBack t u selector ∧ ∀ other, Empties t u other → other = s) ∧
      ((∀ s, ¬ Empties t u s) →
        (∀ name, (t.pool.table.refCount? name).getD 0 ≤ (u.pool.table.refCount? name).getD 0) ∧
        (op.onMailbox = false → u.mailbox = t.mailbox))) := by
  intro t
  obtain ⟨taken, h⟩ : ∃ taken, t.pool.Exact taken := exact_after ops
  refine ⟨?_, ?_, ?_⟩
  · intro s selector hs
    have hheld := h.held s selector hs
    have hstopped : StopCalled ops s ↔ selector.stopped = true := by
      rw [← stopped?_after_iff]
      show (t.pool.selectors[s]?).map (·.stopped) = some true ↔ _
      simp [hs]
    rw [hstopped]
    refine ⟨fun hc => ?_, fun hc => ?_, retain_answer_iff hs, released_forever hs⟩
    · simpa [hc] using hheld
    · simpa [hc] using hheld
  · intro s hc
    exact stop_again ((stopped?_after_iff ops s).mpr hc)
  · intro op u
    obtain ⟨s, selector, hg⟩ | ⟨hgrows, hmailbox⟩ := perform_cases h op
    · refine ⟨fun other found hf he => ?_, fun hnone => ?_⟩
      · obtain ⟨rfl, hone⟩ := (hg.empties_iff other).mp he
        have hsame : found = selector := Option.some.inj (hf.symm.trans hg.found)
        rw [hsame]
        exact ⟨hg.givesBack h hone, fun another ha => ((hg.empties_iff another).mp ha).1⟩
      · have hmore : selector.refs ≠ 1 := fun hone => hnone s ((hg.empties_iff s).mpr ⟨rfl, hone⟩)
        obtain ⟨htable, hsame⟩ := hg.unchanged hmore
        exact ⟨fun name => by rw [htable], fun _ => hsame⟩
    · refine ⟨fun s selector _ he => absurd he (not_empties_of_grows hgrows s), fun _ => ?_⟩
      exact ⟨hgrows.counts, hmailbox⟩

/-- A selector that is stopped while a call still has a lease on it. -/
def stoppedUnderLease : List SelectorOp :=
  [.build ⟨⟨[], [⟨.startsWith "/", false, .cluster "a"⟩]⟩⟩, .retain 0, .stop 0]

/-- Dropping that lease posts the marker. -/
theorem last_lease_posts_marker :
    let t := after stoppedUnderLease
    let u := (t.perform (.release 0)).1
    Empties t u 0 ∧ Posted t u := by
  intro t u
  have hempties : Empties t u 0 := ⟨_, _, rfl, rfl, by decide, by decide⟩
  obtain ⟨-, -, hsteps⟩ := selector_lifecycle stoppedUnderLease
  obtain ⟨hgives, -⟩ := (hsteps (.release 0)).1 0 _ rfl hempties
  exact ⟨hempties, hgives.posted.mpr ⟨⟨"a", by decide, by decide⟩, {}, by decide, rfl, rfl⟩⟩

end SelectorSession
end MeshRouting
