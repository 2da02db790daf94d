import MeshRouting.Proofs.FailedUpdates

/-!
# Publishing again

The marker makes a worker prune and publish once more what it has. Pruning takes the clusters
without references off the list and leaves all else as it is, so a second marker finds nothing to
prune and publishes the same state, unless some cluster has lost its last holder in between.
-/
namespace MeshRouting

open ServiceConfig

namespace ClusterTable

variable {t : ClusterTable} {name : String} {count entry : Nat}

lemma refCount?_prune_eq_some_iff :
    t.prune.refCount? name = some count ↔ t.refCount? name = some count ∧ 0 < count := by
  rw [refCount?_prune, Option.filter_eq_some_iff, bne_iff_ne, Nat.pos_iff_ne_zero]

lemma find?_of_find?_prune (h : t.prune.active.find? name = some entry) :
    t.active.find? name = some entry := by
  rw [find?_prune, Option.filter_eq_some_iff] at h
  exact h.1

lemma mem_names_of_mem_prune (h : name ∈ t.prune.names) : name ∈ t.names := by
  rw [mem_names_iff, Option.isSome_iff_exists] at h ⊢
  obtain ⟨count, hc⟩ := h
  exact ⟨count, (refCount?_prune_eq_some_iff.mp hc).1⟩

/-- Pruning changes nothing just where every listed cluster has references. -/
lemma prune_eq_self_iff : t.prune = t ↔ ∀ name, t.refCount? name ≠ some 0 := by
  constructor
  · intro h name hz
    rw [← h, refCount?_prune_eq_some_iff] at hz
    exact hz.2.ne rfl
  · intro h
    have hactive : t.prune.active = t.active := by
      refine NameMap.eq_of_find?_eq fun name => ?_
      rw [find?_prune]
      cases hf : t.active.find? name with
      | none => rfl
      | some entry =>
        have hr : t.refsOf entry ≠ 0 := fun hz => h name (by simp [refCount?, hf, hz])
        simp [Option.filter_some, hr]
    show (⟨t.entries, t.prune.active⟩ : ClusterTable) = t
    rw [hactive]

end ClusterTable

namespace Pool

variable {p q : Pool}

lemma not_hasDead_prune (p : Pool) : ¬ p.prune.HasDead := by
  rintro ⟨name, hz⟩
  exact (ClusterTable.refCount?_prune_eq_some_iff.mp hz).2.ne rfl

lemma prune_eq_self_iff : p.prune = p ↔ ¬ p.HasDead := by
  rw [HasDead, not_exists]
  refine Iff.trans ⟨fun h => congrArg Pool.table h, fun h => ?_⟩ ClusterTable.prune_eq_self_iff
  exact congrArg (Pool.mk · p.selectors p.leases) h

lemma Sound.mem_heldClusters_of_not_hasDead (h : p.Sound) (hdead : ¬ p.HasDead) {name : String}
    (hm : name ∈ p.table.names) : name ∈ p.heldClusters := by
  by_contra hn
  exact hdead (h.hasDead_iff.mpr ⟨name, hm, hn⟩)

/-! If all clusters of the first pool have references and the second lists no others, those that are
held can only have become fewer. -/

lemma Sound.heldClusters_eq_iff (h : p.Sound) (hq : q.Sound) (hdead : ¬ p.HasDead)
    (hnames : ∀ name ∈ q.table.names, name ∈ p.table.names) :
    q.heldClusters = p.heldClusters ↔ ¬ p.Loses q := by
  constructor
  · rintro he ⟨name, hm, hlost⟩
    exact hlost (he ▸ hm)
  · intro hkept
    refine NameSet.eq_of_mem_iff fun name => ⟨fun hm => ?_, fun hm => ?_⟩
    · exact h.mem_heldClusters_of_not_hasDead hdead (hnames name (hq.mem_names_of_held hm))
    · by_contra hlost
      exact hkept ⟨name, hm, hlost⟩

lemma Sound.not_hasDead_of_not_loses (h : p.Sound) (hq : q.Sound) (hdead : ¬ p.HasDead)
    (hnames : ∀ name ∈ q.table.names, name ∈ p.table.names) (hkept : ¬ p.Loses q) :
    ¬ q.HasDead := by
  rw [hq.hasDead_iff]
  rintro ⟨name, hm, hlost⟩
  exact hkept ⟨name, h.mem_heldClusters_of_not_hasDead hdead (hnames name hm), hlost⟩

/-- Where every selector that is held stays held, no cluster loses its last holder. -/
lemma Sound.not_loses_of_holds (h : p.Sound) (hl : p.Leads q)
    (hheld : ∀ s, p.Holds s → q.Holds s) : ¬ p.Loses q := by
  rintro ⟨name, hm, hlost⟩
  obtain ⟨selector, hs, hr, hn⟩ := mem_heldClusters_iff.mp hm
  obtain ⟨s, hs⟩ := List.mem_iff_getElem?.mp hs
  obtain ⟨later, hlater, hage⟩ := h.ages hl hs
  obtain ⟨same, hsame, hpos⟩ := hheld s ⟨selector, hs, hr⟩
  rw [hlater, Option.some.injEq] at hsame
  subst hsame
  refine hlost (mem_heldClusters_iff.mpr ⟨later, List.mem_of_getElem? hlater, hpos, ?_⟩)
  simpa only [Selector.clusterNames, hage.clusters] using hn

/-- Another lease lets nobody's hold go. -/
lemma Holds.retain {s t lease : Nat} (hs : p.Holds s) (h : p.retain t = some (q, lease)) :
    q.Holds s := by
  obtain ⟨selector, ht, -, rfl⟩ := eq_of_retain h
  by_cases he : t = s
  · subst he
    exact ⟨_, List.getElem?_set_self (List.getElem?_eq_some_iff.mp ht).1, Nat.succ_pos _⟩
  · obtain ⟨same, hsame, hpos⟩ := hs
    exact ⟨same, by rw [List.getElem?_set_ne he, hsame], hpos⟩

end Pool

/-- The worker neither takes on another selector nor gives up its own. -/
def WorkerEvent.keepsCurrent : WorkerEvent → Bool
  | .act _ (.handle e) => !e.prunes || e == .republish
  | .exit => false
  | _ => true

namespace Worker

variable {encode : Encoder} {w later : Worker} {event : WorkerEvent} {events : List WorkerEvent}

/-- The later worker has the same selector and lists no cluster that was not listed. -/
structure Continues (w later : Worker) : Prop where
  current : later.current = w.current
  leads : w.pool.Leads later.pool
  names : ∀ name ∈ later.pool.table.names, name ∈ w.pool.table.names

lemma Continues.refl (w : Worker) : w.Continues w := ⟨rfl, .refl _, fun _ hm => hm⟩

lemma Continues.trans {last : Worker} (h : w.Continues later) (g : later.Continues last) :
    w.Continues last :=
  ⟨g.current.trans h.current, h.leads.trans g.leads,
    fun name hm => h.names name (g.names name hm)⟩

/-- It is enough that the list of clusters is left alone. -/
lemma Continues.of_active (hcurrent : later.current = w.current)
    (hleads : w.pool.Leads later.pool)
    (hactive : later.pool.table.active = w.pool.table.active) : w.Continues later := by
  refine ⟨hcurrent, hleads, fun name hm => ?_⟩
  rwa [ClusterTable.names, hactive] at hm

lemma continues_republish (encode : Encoder) (w : Worker) :
    w.Continues (w.handle encode .republish).1 := by
  rw [handle_republish]
  exact ⟨rfl, Pool.leads_prune _, fun name hm => ClusterTable.mem_names_of_mem_prune hm⟩

lemma continues_perform {act : WorkerAct}
    (h : (WorkerEvent.act encode act).keepsCurrent = true) :
    w.Continues (w.perform encode act).1 := by
  have hleads := leads_perform encode w act
  obtain ⟨e, rfl⟩ | ⟨-, hsame | ⟨s, pool, lease, hp, hnext⟩ |
    ⟨lease, pool, outcomes, hp, hnext⟩⟩ := perform_cases encode w act
  · simp only [WorkerEvent.keepsCurrent, Bool.or_eq_true, Bool.not_eq_true', beq_iff_eq] at h
    rcases h with hnot | rfl
    · rw [perform, (handle_of_not_prunes encode w hnot).1]
      exact .refl w
    · exact continues_republish encode w
  · rw [hsame]
    exact .refl w
  · rw [hnext] at hleads ⊢
    exact .of_active rfl hleads (Pool.retain_active hp)
  · rw [hnext] at hleads ⊢
    refine .of_active (afterRelease_current _ _) hleads ?_
    rw [afterRelease_pool]
    exact Pool.dropLease_active hp

lemma continues_undergo (h : event.keepsCurrent = true) : w.Continues (w.undergo event) := by
  cases event with
  | act encode act => exact continues_perform h
  | stop s =>
    refine .of_active (stop_current w s) (leads_stop w s) ?_
    rw [undergo, stop_pool, Pool.stop_active]
  | publish e => exact ⟨rfl, .refl _, fun _ hm => hm⟩
  | look =>
    obtain ⟨hpool, hcurrent⟩ := look_rest w
    exact .of_active hcurrent (hpool ▸ .refl _) (by rw [undergo, hpool])
  | close => exact ⟨rfl, .refl _, fun _ hm => hm⟩
  | exit => cases h

lemma continues_foldl (h : ∀ event ∈ events, event.keepsCurrent = true) :
    w.Continues (events.foldl undergo w) := by
  induction events generalizing w with
  | nil => exact .refl w
  | cons event rest ih =>
    obtain ⟨hfirst, hrest⟩ := List.forall_mem_cons.mp h
    exact (continues_undergo hfirst).trans (ih hrest)

lemma publication_standard (w : Worker) (selector : Option Nat) :
    w.publication standard selector =
      .published ⟨w.pool.prune, ⟨configOf selector w.pool.prune.table.names, selector⟩⟩ := by
  have hd := (delivery?_publication standard w selector).trans (w.offer_standard selector)
  cases hp : w.publication standard selector with
  | published d =>
    rw [hp] at hd
    exact congrArg Answer.published (Option.some.inj hd)
  | unencoded reason =>
    rw [hp] at hd
    cases hd
  | rejected cause =>
    rw [hp] at hd
    cases hd
  | trouble cause =>
    rw [hp] at hd
    cases hd

/-- The marker is answered by one state, with the held clusters and the current selector. -/
lemma callsOf_republish (h : w.pool.Sound) :
    callsOf (w.handle standard .republish).2 =
      [.state ⟨configOf w.current w.pool.heldClusters.toList, w.current⟩] := by
  rw [(answered_handle standard w .republish).1, answer, publication_standard, h.names_prune]
  rfl

lemma mem_iff_of_configOf_eq {selector : Option Nat} {clusters others : List String}
    (h : configOf selector others = configOf selector clusters) (name : String) :
    name ∈ others ↔ name ∈ clusters := by
  have hchild : HasChild (configOf selector others) name ↔ name ∈ others := hasChild_configOf_iff
  rw [← hchild, h, hasChild_configOf_iff]

/-- A worker that has just pruned comes to the same state again, and changes nothing, just if no
cluster has lost its last holder since. -/
lemma Continues.republish_iff (h : w.Continues later) (hw : w.pool.Sound)
    (hdead : ¬ w.pool.HasDead) :
    callsOf (later.handle standard .republish).2 =
        [.state ⟨configOf w.current w.pool.heldClusters.toList, w.current⟩] ∧
      (later.handle standard .republish).1 = later ↔ ¬ w.pool.Loses later.pool := by
  have hl : later.pool.Sound := hw.of_leads h.leads
  have hiff := hw.heldClusters_eq_iff hl hdead h.names
  rw [callsOf_republish hl, h.current]
  constructor
  · rintro ⟨hcalls, -⟩
    have hconfig : configOf w.current later.pool.heldClusters.toList =
        configOf w.current w.pool.heldClusters.toList := by simpa using hcalls
    exact hiff.mp (NameSet.eq_of_mem_iff (mem_iff_of_configOf_eq hconfig))
  · intro hkept
    have hlive := hw.not_hasDead_of_not_loses hl hdead h.names hkept
    refine ⟨by rw [hiff.mpr hkept], ?_⟩
    rw [handle_republish, Pool.prune_eq_self_iff.mpr hlive]

/-- Handling the marker twice, whatever the worker has come to. The first time the current selector,
all selectors with their holders and the mailbox stay as they are, and so do all clusters with
references, while those at zero are taken off the list; one state is published, with the held
clusters and the current selector. In between anybody may take and drop leases, stop selectors, post
envelopes and close the mailbox, and the worker may handle what does not concern its selector. Then
the second time the same state is published and nothing changes just if no cluster has lost its last
holder, and this is so if every selector that was held is still held. -/
theorem republish_idempotent (endpoint : String) (events : List WorkerEvent) :
    let w := after endpoint events
    let first := w.handle standard .republish
    let next := first.1
    next.current = w.current ∧ next.mailbox = w.mailbox ∧
    next.pool.selectors = w.pool.selectors ∧ next.pool.leases = w.pool.leases ∧
    (∀ name count, next.pool.table.refCount? name = some count ↔
      w.pool.table.refCount? name = some count ∧ 0 < count) ∧
    (∀ name entry, next.pool.table.active.find? name = some entry →
      w.pool.table.active.find? name = some entry) ∧
    callsOf first.2 = [.state ⟨configOf w.current w.pool.heldClusters.toList, w.current⟩] ∧
    ∀ between : List WorkerEvent, (∀ event ∈ between, event.keepsCurrent = true) →
      let later := between.foldl undergo next
      let again := later.handle standard .republish
      (callsOf again.2 = callsOf first.2 ∧ again.1 = later ↔ ¬ next.pool.Loses later.pool) ∧
      ((∀ s, next.pool.Holds s → later.pool.Holds s) →
        callsOf again.2 = callsOf first.2 ∧ again.1 = later) := by
  intro w first next
  have hw : w.pool.Sound := (grounded_after endpoint events).pool
  have hnext : next = { w with pool := w.pool.prune } := handle_republish
  have hpool : next.pool = w.pool.prune := by rw [hnext]
  have hcurrent : next.current = w.current := by rw [hnext]
  refine ⟨hcurrent, by rw [hnext], by rw [hpool]; rfl, by rw [hpool]; rfl, fun name count => ?_,
    fun name entry hf => ?_, callsOf_republish hw, fun between hbetween => ?_⟩
  · rw [hpool]
    exact ClusterTable.refCount?_prune_eq_some_iff
  · rw [hpool] at hf
    exact ClusterTable.find?_of_find?_prune hf
  · intro later again
    have hcontinues : next.Continues later := continues_foldl hbetween
    have hsound : next.pool.Sound := hpool ▸ hw.of_leads (Pool.leads_prune w.pool)
    have hiff := hcontinues.republish_iff hsound (hpool ▸ Pool.not_hasDead_prune w.pool)
    -- pruning touches no selector, so the held clusters are the ones from before
    have hheld : next.pool.heldClusters = w.pool.heldClusters := by
      rw [hpool]
      rfl
    rw [hcurrent, hheld, ← callsOf_republish hw] at hiff
    exact ⟨hiff, fun hkept => hiff.mpr (hsound.not_loses_of_holds hcontinues.leads hkept)⟩

/-- The replaced cluster has lost its last holder, and is still listed. -/
def drained : List WorkerEvent := draining ++ [.act standard (.dropLease 0)]

/-- Between two markers an error comes in and a call leases the current selector. -/
def betweenMarkers : List WorkerEvent :=
  [.publish (.error ⟨.other, "stream reset"⟩), .act standard (.retain 1)]

theorem republished_after_drain :
    let w := after "svc" drained
    let first := w.handle standard .republish
    let later := betweenMarkers.foldl undergo first.1
    let again := later.handle standard .republish
    w.pool.table.refCount? "a" = some 0 ∧ first.1.pool.table.refCount? "a" = none ∧
      first.1.pool.table.refCount? "b" = some 1 ∧ first.1.mailbox = w.mailbox ∧
      callsOf again.2 = callsOf first.2 ∧ again.1 = later := by
  intro w first later again
  have hzero : w.pool.table.refCount? "a" = some 0 := by decide
  have hone : w.pool.table.refCount? "b" = some 1 := by decide
  obtain ⟨-, hmailbox, -, -, hcounts, -, -, hagain⟩ := republish_idempotent "svc" drained
  have hgone : first.1.pool.table.refCount? "a" = none := by
    refine Option.eq_none_iff_forall_not_mem.mpr fun count hc => ?_
    obtain ⟨hsame, hpos⟩ := (hcounts "a" count).mp hc
    rw [hzero, Option.some.injEq] at hsame
    omega
  have hlease : first.1.pool.retain 1 = some (later.pool, 1) := rfl
  have hkept : ∀ s, first.1.pool.Holds s → later.pool.Holds s := fun s hs => hs.retain hlease
  have hsame := (hagain betweenMarkers (by decide)).2 hkept
  exact ⟨hzero, hgone, (hcounts "b" 1).mpr ⟨hone, by decide⟩, hmailbox, hsame⟩

end Worker
end MeshRouting
