import MeshRouting.Proofs.SinkSelector

/-!
# Selectors that a worker stops

A worker stops a selector when another one replaces it, when it could not be published, when the
service is gone, and when the worker ends. Between two envelopes the current selector is the only
one that has not been stopped, and no selector is stopped twice.
-/
namespace MeshRouting

open ServiceConfig

def WorkerEffect.stop? : WorkerEffect → Option Nat
  | .stopped s => some s
  | _ => none

/-- The selectors that were stopped, in order. -/
def stopsOf (effects : List WorkerEffect) : List Nat := effects.filterMap WorkerEffect.stop?

lemma stopsOf_append (first others : List WorkerEffect) :
    stopsOf (first ++ others) = stopsOf first ++ stopsOf others := List.filterMap_append

lemma stopsOf_eq_nil {effects : List WorkerEffect} (h : ∀ s, .stopped s ∉ effects) :
    stopsOf effects = [] := by
  refine List.filterMap_eq_nil_iff.mpr fun effect hm => ?_
  cases effect with
  | stopped s => exact absurd hm (h s)
  | _ => rfl

namespace Worker

variable {encode : Encoder} {w next last : Worker} {effects others : List WorkerEffect} {s : Nat}

/-- The current selector has not been stopped, and all others have been. -/
def Sole (w : Worker) : Prop := ∀ s, w.pool.stopped? s = some false ↔ w.current = some s

/-- The selectors that were stopped on the way are those that are stopped since, each once. -/
def Stops (w next : Worker) (effects : List WorkerEffect) : Prop :=
  ∀ s, (stopsOf effects).count s + (if w.pool.stopped? s = some true then 1 else 0) =
    if next.pool.stopped? s = some true then 1 else 0

lemma Sole.attached (h : w.Sole) : w.Attached := fun s hs => (h s).mpr hs

lemma Stops.trans (h : w.Stops next effects) (g : next.Stops last others) :
    w.Stops last (effects ++ others) := by
  intro s
  have hfirst := h s
  have hrest := g s
  rw [stopsOf_append, List.count_append]
  omega

lemma stops_of_quiet (h : stopsOf effects = [])
    (hsame : ∀ s, next.pool.stopped? s = some true ↔ w.pool.stopped? s = some true) :
    w.Stops next effects := by
  intro s
  simp [h, hsame]

/-! ### Stopping -/

lemma stopsOf_stop (w : Worker) (s : Nat) : stopsOf (w.stop s).2 = [s] := by
  simp only [stop]
  split <;> rfl

lemma stops_stop (h : w.pool.stopped? s = some false) : w.Stops (w.stop s).1 (w.stop s).2 := by
  intro t
  rw [stopsOf_stop, stopped?_stop]
  by_cases he : t = s
  · subst he
    simp [h]
  · simp [he, Ne.symm he]

lemma stops_stopCurrent (hw : w.Attached) : w.Stops w.stopCurrent.1 w.stopCurrent.2 := by
  simp only [stopCurrent]
  split
  · exact stops_of_quiet rfl fun s => Iff.rfl
  · rename_i s hs
    exact stops_stop (w := { w with current := none }) (hw s hs)

lemma Sole.stopCurrent (h : w.Sole) (s : Nat) : w.stopCurrent.1.pool.stopped? s ≠ some false := by
  rw [stopped?_stopCurrent]
  split
  · cases w.pool.stopped? s <;> simp
  · rename_i hs
    exact fun hstands => hs ((h s).mp hstands)

/-! ### Handling -/

lemma stops_publish (encode : Encoder) (w : Worker) (selector : Option Nat) :
    w.Stops (w.publish encode selector).1 (w.publish encode selector).2.1 :=
  stops_of_quiet (stopsOf_eq_nil (stopped_not_mem_publish encode w selector)) fun _ => Iff.rfl

lemma stops_build {update : ServiceUpdate} {pool : Pool}
    (hb : w.pool.build update = .ok (pool, s)) : w.Stops { w with pool } [] := by
  refine stops_of_quiet rfl fun t => ?_
  show pool.stopped? t = _ ↔ _
  rw [Pool.stopped?_build hb]
  split
  · rename_i he
    simp [he, Pool.stopped?_eq_none_of_build hb]
  · rfl

/-- A new selector stands besides the one that it is to replace. -/
lemma Sole.stopped?_build (h : w.Sole) {update : ServiceUpdate} {pool : Pool}
    (hb : w.pool.build update = .ok (pool, s)) (t : Nat) :
    pool.stopped? t = some false ↔ t = s ∨ w.current = some t := by
  rw [Pool.stopped?_build hb]
  split
  · rename_i he
    simp [he]
  · rename_i hne
    simp [hne, h t]

lemma Sole.current_ne_of_build (h : w.Sole) {update : ServiceUpdate} {pool : Pool}
    (hb : w.pool.build update = .ok (pool, s)) : w.current ≠ some s := by
  intro hc
  have hstands := (h s).mpr hc
  rw [Pool.stopped?_eq_none_of_build hb] at hstands
  cases hstands

lemma sole_install {pool : Pool} (encode : Encoder) (hc : w.current ≠ some s)
    (hstands : ∀ t, pool.stopped? t = some false ↔ t = s ∨ w.current = some t) :
    Sole (install encode { w with pool } s).1 := by
  intro t
  rw [install_worker]
  split
  · show (stopCurrent _).1.pool.stopped? t = some false ↔ some s = some t
    rw [stopped?_stopCurrent]
    show (if w.current = some t then (pool.stopped? t).map _ else pool.stopped? t) = _ ↔ _
    split
    · rename_i ht
      have hne : s ≠ t := fun he => hc (he ▸ ht)
      cases pool.stopped? t <;> simp [hne]
    · rename_i ht
      simp [hstands, ht, eq_comm]
  · rw [stop_current, stopped?_stop]
    show (if t = s then (pool.stopped? t).map _ else pool.stopped? t) = _ ↔ w.current = some t
    split
    · rename_i he
      subst he
      cases pool.stopped? t <;> simp [hc]
    · rename_i hne
      simp [hstands, hne]

theorem Sole.handle (h : w.Sole) (encode : Encoder) (e : Envelope) :
    (w.handle encode e).1.Sole := by
  obtain hnot | ⟨cause, hf, rfl⟩ | rfl | ⟨update, pool, s, hb, rfl, -⟩ := envelope_cases w e
  · rw [(handle_of_not_prunes encode w hnot).1]
    exact h
  · intro s
    rw [handle_notFound hf, stopCurrent_current]
    have hstopped := Sole.stopCurrent (w := { w with pool := w.pool.prune }) h s
    simp [hstopped]
  · rw [handle_republish]
    exact h
  · rw [handle_service hb]
    exact sole_install encode (h.current_ne_of_build hb) (h.stopped?_build hb)

/-- A selector is installed in place of the current one, or stopped itself. -/
lemma stops_install (encode : Encoder) (hw : w.Attached) (hs : w.pool.stopped? s = some false) :
    w.Stops (w.install encode s).1 (w.install encode s).2 := by
  have hpublish := stops_publish encode w (some s)
  have hworker := publish_worker encode w (some s)
  simp only [install]
  generalize w.publish encode (some s) = published at hpublish hworker ⊢
  obtain ⟨next, effects, flag⟩ := published
  dsimp only at hpublish hworker
  subst hworker
  cases flag with
  | false => exact hpublish.trans (stops_stop hs)
  | true => exact hpublish.trans (stops_stopCurrent hw)

theorem Sole.stops_handle (h : w.Sole) (encode : Encoder) (e : Envelope) :
    w.Stops (w.handle encode e).1 (w.handle encode e).2 := by
  obtain hnot | ⟨cause, hf, rfl⟩ | rfl | ⟨update, pool, s, hb, rfl, -⟩ := envelope_cases w e
  · refine stops_of_quiet (stopsOf_eq_nil (stopped_not_mem_handle encode w hnot)) fun s => ?_
    rw [(handle_of_not_prunes encode w hnot).1]
  · have hpublish := stops_publish encode w none
    have hstop := stops_stopCurrent (w := (w.publish encode none).1) h.attached
    have hboth := hpublish.trans hstop
    simp only [Worker.handle, react, hf, if_true, handleNotFound]
    exact hboth
  · exact stops_publish encode w w.current
  · have hattached : Attached { w with pool } := fun t ht => (h.stopped?_build hb t).mpr (.inr ht)
    have hnew : pool.stopped? s = some false := (h.stopped?_build hb s).mpr (.inl rfl)
    have hinstall := stops_install (w := { w with pool }) encode hattached hnew
    simp only [Worker.handle, react, handleService, hb]
    exact (stops_build hb).trans hinstall

/-- Leases have nothing to do with stopping. -/
lemma Sole.perform (h : w.Sole) (encode : Encoder) (act : WorkerAct) :
    (w.perform encode act).1.Sole := by
  obtain ⟨e, rfl⟩ | ⟨-, hsame | ⟨s, pool, lease, hp, hnext⟩ |
    ⟨lease, pool, outcomes, hp, hnext⟩⟩ := perform_cases encode w act
  · exact h.handle encode e
  · rwa [hsame]
  · intro t
    rw [hnext, ← h t]
    exact (Pool.stopped?_retain hp).congr_left
  · intro t
    rw [hnext, afterRelease_pool, afterRelease_current, ← h t]
    exact (Pool.stopped?_dropLease hp).congr_left

/-- A worker that ends leaves no selector that has not been stopped. -/
theorem Sole.stops_exit (h : w.Sole) : w.Stops w.exit.1 w.exit.2 := by
  have hstop := stops_stopCurrent h.attached
  intro s
  simp only [exit, stopsOf_append]
  have hs := hstop s
  rw [List.count_append]
  exact hs

/-! ### Without leases -/

/-- Where no lease is outstanding the held clusters are those of the current selector. -/
theorem Sole.mem_heldClusters_iff (h : w.Sole) (hp : w.pool.Sound)
    (hleases : ∀ lease ∈ w.pool.leases, lease = none) {name : String} :
    name ∈ w.pool.heldClusters ↔ ∃ s selector, w.current = some s ∧
      w.pool.selectors[s]? = some selector ∧ name ∈ selector.clusterNames := by
  have hcount : ∀ s, w.pool.leases.count (some s) = 0 := by
    intro s
    rw [List.count_eq_zero]
    intro hm
    cases hleases _ hm
  have hrefs : ∀ s selector, w.pool.selectors[s]? = some selector →
      (0 < selector.refs ↔ w.current = some s) := by
    intro s selector hs
    have hheld := hp.exact.held s selector hs
    have hstopped : w.pool.stopped? s = some selector.stopped := by simp [Pool.stopped?, hs]
    rw [← h s, hstopped, hheld, hcount]
    cases selector.stopped <;> simp
  rw [Pool.mem_heldClusters_iff]
  constructor
  · rintro ⟨selector, hm, hr, hn⟩
    obtain ⟨s, hs⟩ := List.mem_iff_getElem?.mp hm
    exact ⟨s, selector, (hrefs s selector hs).mp hr, hs, hn⟩
  · rintro ⟨s, selector, hc, hs, hn⟩
    exact ⟨selector, List.mem_of_getElem? hs, (hrefs s selector hs).mpr hc, hn⟩

end Worker
end MeshRouting
