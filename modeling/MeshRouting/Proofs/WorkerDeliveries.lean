import MeshRouting.Proofs.PoolHistory
import MeshRouting.Resolution.Worker

/-!
# What a worker delivers

Handling an envelope hands at most one state to the sink. A delivery is such a state together with
the pool as it is at that moment, after pruning and before anything is stopped. Both the pool of a
delivery and the pool of the worker afterwards come about from the pool before. The selector that
was delivered is the current one then.
-/
namespace MeshRouting

structure Delivery where
  pool : Pool
  state : ResolverState
  deriving Repr

/-- A state is handed over with a pruned pool and with a selector that has not been stopped. -/
structure Delivery.Sound (d : Delivery) : Prop where
  pool : d.pool.Sound
  names : d.pool.table.names = d.pool.heldClusters.toList
  selector : ∀ s, d.state.selector = some s → d.pool.stopped? s = some false

def WorkerEffect.state? : WorkerEffect → Option ResolverState
  | .state s => some s
  | _ => none

def statesOf (effects : List WorkerEffect) : List ResolverState :=
  effects.filterMap WorkerEffect.state?

/-- The envelopes that make a worker prune and publish, whatever its state. -/
def Envelope.prunes : Envelope → Bool
  | .service update => (Selector.targetsOf update).toBool
  | .republish => true
  | .error e => e.isNotFound

namespace Worker

open ServiceConfig

/-- What publishing hands to the sink, if the config can be encoded. -/
def offer (encode : Encoder) (w : Worker) (selector : Option Nat) : Option Delivery :=
  match (w.prune.1.configFor encode selector).1 with
  | .ok config => some ⟨w.pool.prune, ⟨config, selector⟩⟩
  | .error _ => none

/-- What handling an envelope hands to the sink. -/
def delivery? (encode : Encoder) (w : Worker) : Envelope → Option Delivery
  | .service update => match w.pool.build update with
    | .ok (pool, s) => { w with pool }.offer encode (some s)
    | .error _ => none
  | .republish => w.offer encode w.current
  | .error e => if e.isNotFound then w.offer encode none else none

variable {encode : Encoder} {w : Worker} {s : Nat} {selector : Option Nat} {e : Envelope}

/-! ### Publishing -/

lemma statesOf_append (first others : List WorkerEffect) :
    statesOf (first ++ others) = statesOf first ++ statesOf others := by
  simp [statesOf]

lemma statesOf_prune (w : Worker) : statesOf w.prune.2 = [] := by
  simp only [prune]
  split <;> rfl

lemma statesOf_configFor (w : Worker) :
    statesOf (w.configFor encode selector).2 = [] := by
  simp only [configFor]
  split
  · rfl
  · split <;> rfl

lemma publish_worker (encode : Encoder) (w : Worker) (selector : Option Nat) :
    (w.publish encode selector).1 = { w with pool := w.pool.prune } := rfl

lemma publish_flag (encode : Encoder) (w : Worker) (selector : Option Nat) :
    (w.publish encode selector).2.2 = (w.offer encode selector).isSome := by
  simp only [publish, offer]
  cases (w.prune.1.configFor encode selector).1 <;> rfl

lemma statesOf_publish (encode : Encoder) (w : Worker) (selector : Option Nat) :
    statesOf (w.publish encode selector).2.1 =
      ((w.offer encode selector).map (·.state)).toList := by
  simp only [publish, offer, statesOf_append, statesOf_prune, statesOf_configFor]
  cases (w.prune.1.configFor encode selector).1 <;> rfl

lemma offer_pool {d : Delivery} (h : w.offer encode selector = some d) :
    d.pool = w.pool.prune ∧ d.state.selector = selector := by
  simp only [offer] at h
  split at h
  · cases h
    exact ⟨rfl, rfl⟩
  · cases h

/-! ### Stopping -/

lemma statesOf_stop (w : Worker) (s : Nat) : statesOf (w.stop s).2 = [] := by
  simp only [stop]
  split <;> rfl

lemma statesOf_stopCurrent (w : Worker) : statesOf w.stopCurrent.2 = [] := by
  simp only [stopCurrent]
  split
  · rfl
  · exact statesOf_stop _ _

lemma afterRelease_pool (w : Worker) (outcomes : List Released) :
    (w.afterRelease outcomes).pool = w.pool := by
  unfold afterRelease
  split <;> rfl

lemma afterRelease_current (w : Worker) (outcomes : List Released) :
    (w.afterRelease outcomes).current = w.current := by
  unfold afterRelease
  split <;> rfl

lemma stop_pool (w : Worker) (s : Nat) : (w.stop s).1.pool = (w.pool.stop s).1 := by
  simp only [stop]
  split <;> rename_i heq <;> simp [heq, afterRelease_pool]

lemma stop_current (w : Worker) (s : Nat) : (w.stop s).1.current = w.current := by
  simp only [stop]
  split <;> simp [afterRelease_current]

lemma stopCurrent_current (w : Worker) : w.stopCurrent.1.current = none := by
  simp only [stopCurrent]
  split
  · assumption
  · exact stop_current _ _

lemma leads_stop (w : Worker) (s : Nat) : w.pool.Leads (w.stop s).1.pool := by
  rw [stop_pool]
  exact Pool.leads_stop w.pool s

lemma leads_stopCurrent (w : Worker) : w.pool.Leads w.stopCurrent.1.pool := by
  simp only [stopCurrent]
  split
  · exact .refl _
  · exact leads_stop { w with current := none } _

/-! ### Handling -/

lemma install_worker :
    (w.install encode s).1 =
      if (w.offer encode (some s)).isSome
      then { { w with pool := w.pool.prune }.stopCurrent.1 with current := some s }
      else ({ w with pool := w.pool.prune }.stop s).1 := by
  simp only [install, ← publish_flag]
  have hw := publish_worker encode w (some s)
  generalize w.publish encode (some s) = published at hw ⊢
  obtain ⟨next, effects, flag⟩ := published
  cases flag <;> simp [← hw]

lemma statesOf_install (encode : Encoder) (w : Worker) (s : Nat) :
    statesOf (w.install encode s).2 = ((w.offer encode (some s)).map (·.state)).toList := by
  have hstates := statesOf_publish encode w (some s)
  simp only [install]
  generalize w.publish encode (some s) = published at hstates ⊢
  obtain ⟨next, effects, flag⟩ := published
  cases flag <;> simp [statesOf_append, statesOf_stop, statesOf_stopCurrent, hstates]

/-- An envelope that does not prune is passed over: nothing changes and nothing is delivered. -/
lemma handle_of_not_prunes (encode : Encoder) (w : Worker) (h : e.prunes = false) :
    (w.handle encode e).1 = w ∧ w.delivery? encode e = none ∧
      statesOf (w.handle encode e).2 = [] := by
  cases e with
  | service update =>
    cases ht : Selector.targetsOf update with
    | ok routes => simp [Envelope.prunes, ht, Except.toBool] at h
    | error cause =>
      have hb := Pool.build_eq_error (p := w.pool) ht
      simp [handle, react, handleService, delivery?, hb, reject, statesOf, WorkerEffect.state?]
  | republish => simp [Envelope.prunes] at h
  | error cause =>
    simp only [Envelope.prunes] at h
    simp [handle, react, delivery?, h, handleTrouble, statesOf, WorkerEffect.state?]

lemma handle_notFound {cause : WatchError} (h : cause.isNotFound = true) :
    (w.handle encode (.error cause)).1 = { w with pool := w.pool.prune }.stopCurrent.1 := by
  simp [handle, react, h, handleNotFound, publish_worker]

lemma handle_republish :
    (w.handle encode .republish).1 = { w with pool := w.pool.prune } := by
  simp [handle, react, handleRepublish, publish_worker]

lemma handle_service {update : ServiceUpdate} {pool : Pool}
    (h : w.pool.build update = .ok (pool, s)) :
    (w.handle encode (.service update)).1 = ({ w with pool }.install encode s).1 := by
  simp [handle, react, handleService, h]

lemma envelope_cases (w : Worker) (e : Envelope) :
    e.prunes = false ∨ (∃ cause : WatchError, cause.isNotFound = true ∧ e = .error cause) ∨
      e = .republish ∨ ∃ update pool s, w.pool.build update = .ok (pool, s) ∧
        e = .service update ∧ e.prunes = true := by
  cases e with
  | service update =>
    cases ht : Selector.targetsOf update with
    | ok routes =>
      exact .inr (.inr (.inr ⟨update, _, _, Pool.build_eq_ok ht, rfl,
        by simp [Envelope.prunes, ht, Except.toBool]⟩))
    | error cause => exact .inl (by simp [Envelope.prunes, ht, Except.toBool])
  | republish => exact .inr (.inr (.inl rfl))
  | error cause =>
    cases hf : cause.isNotFound with
    | false => exact .inl (by simp [Envelope.prunes, hf])
    | true => exact .inr (.inl ⟨cause, hf, rfl⟩)

theorem statesOf_handle :
    statesOf (w.handle encode e).2 = ((w.delivery? encode e).map (·.state)).toList := by
  obtain hnot | ⟨cause, hf, rfl⟩ | rfl | ⟨update, pool, s, hb, rfl, -⟩ := envelope_cases w e
  · obtain ⟨-, hd, hs⟩ := handle_of_not_prunes encode w hnot
    simp [hd, hs]
  · have hs := statesOf_publish encode w none
    simp only [handle, react, hf, if_true, handleNotFound, delivery?]
    show statesOf (_ :: _ :: _ ++ _) = _
    simp only [List.cons_append]
    show statesOf (_ ++ _) = _
    rw [statesOf_append, statesOf_stopCurrent, List.append_nil]
    exact hs
  · exact statesOf_publish encode w w.current
  · have hs := statesOf_install encode { w with pool } s
    simp only [handle, react, handleService, hb, delivery?]
    exact hs

/-- A delivery stands between the pool before and the pool afterwards. -/
theorem leads_handle {d : Delivery} (hd : w.delivery? encode e = some d) :
    w.pool.Leads d.pool ∧ d.pool.Leads (w.handle encode e).1.pool := by
  obtain hnot | ⟨cause, hf, rfl⟩ | rfl | ⟨update, pool, s, hb, rfl, -⟩ := envelope_cases w e
  · simp [(handle_of_not_prunes encode w hnot).2.1] at hd
  · simp only [delivery?, hf, if_true] at hd
    rw [(offer_pool hd).1, handle_notFound hf]
    exact ⟨Pool.leads_prune _, leads_stopCurrent { w with pool := w.pool.prune }⟩
  · simp only [delivery?] at hd
    rw [(offer_pool hd).1, handle_republish]
    exact ⟨Pool.leads_prune _, .refl _⟩
  · simp only [delivery?, hb] at hd
    rw [(offer_pool hd).1, handle_service hb, install_worker, if_pos (by simp [hd])]
    exact ⟨(Pool.leads_build hb).trans (Pool.leads_prune _),
      leads_stopCurrent { w with pool := pool.prune }⟩

theorem leads_handle_pool (encode : Encoder) (w : Worker) (e : Envelope) :
    w.pool.Leads (w.handle encode e).1.pool := by
  obtain hnot | ⟨cause, hf, rfl⟩ | rfl | ⟨update, pool, s, hb, rfl, -⟩ := envelope_cases w e
  · rw [(handle_of_not_prunes encode w hnot).1]
    exact .refl _
  · rw [handle_notFound hf]
    exact (Pool.leads_prune _).trans (leads_stopCurrent { w with pool := w.pool.prune })
  · rw [handle_republish]
    exact Pool.leads_prune _
  · have hbase := (Pool.leads_build hb).trans (Pool.leads_prune pool)
    rw [handle_service hb, install_worker]
    split
    · exact hbase.trans (leads_stopCurrent { w with pool := pool.prune })
    · exact hbase.trans (leads_stop { w with pool := pool.prune } s)

/-! ### The current selector -/

/-- The current selector, if there is one, has not been stopped. -/
def Attached (w : Worker) : Prop := ∀ s, w.current = some s → w.pool.stopped? s = some false

lemma stopped?_stop (w : Worker) (s t : Nat) :
    (w.stop t).1.pool.stopped? s =
      if s = t then (w.pool.stopped? s).map fun _ => true else w.pool.stopped? s := by
  rw [stop_pool, Pool.stopped?_stop]

lemma stopped?_stopCurrent (w : Worker) (s : Nat) :
    w.stopCurrent.1.pool.stopped? s =
      if w.current = some s then (w.pool.stopped? s).map fun _ => true
      else w.pool.stopped? s := by
  simp only [stopCurrent]
  split
  · rename_i hc
    simp [hc]
  · rename_i c hc
    simp only [hc, Option.some.injEq, stopped?_stop, eq_comm (a := s)]

lemma handle_current_of_delivery {d : Delivery} (hd : w.delivery? encode e = some d) :
    (w.handle encode e).1.current = d.state.selector := by
  obtain hnot | ⟨cause, hf, rfl⟩ | rfl | ⟨update, pool, s, hb, rfl, -⟩ := envelope_cases w e
  · simp [(handle_of_not_prunes encode w hnot).2.1] at hd
  · simp only [delivery?, hf, if_true] at hd
    rw [handle_notFound hf, (offer_pool hd).2, stopCurrent_current]
  · simp only [delivery?] at hd
    rw [handle_republish, (offer_pool hd).2]
  · simp only [delivery?, hb] at hd
    rw [handle_service hb, install_worker, if_pos (by simp [hd]), (offer_pool hd).2]

lemma kind_ne_notFound (h : e.prunes = false) : e.kind ≠ .notFound := by
  cases e with
  | service update => simp [Envelope.kind]
  | republish => simp [Envelope.kind]
  | error cause =>
    have hn : cause.isNotFound = false := h
    simp [Envelope.kind, hn]

/-- An envelope without a delivery leaves the current selector alone, but for a not-found. -/
lemma handle_current_of_no_delivery (hd : w.delivery? encode e = none) :
    (w.handle encode e).1.current = if e.kind = .notFound then none else w.current := by
  obtain hnot | ⟨cause, hf, rfl⟩ | rfl | ⟨update, pool, s, hb, rfl, -⟩ := envelope_cases w e
  · rw [(handle_of_not_prunes encode w hnot).1, if_neg (kind_ne_notFound hnot)]
  · rw [handle_notFound hf, stopCurrent_current, if_pos (by simp [Envelope.kind, hf])]
  · rw [handle_republish]
    rfl
  · simp only [delivery?, hb] at hd
    rw [handle_service hb, install_worker, if_neg (by simp [hd]), stop_current]
    rfl

/-- A not-found stops the current selector, delivered or not. -/
lemma stopped?_handle_notFound (hw : w.Attached) (hc : w.current = some s)
    (hk : e.kind = .notFound) : (w.handle encode e).1.pool.stopped? s = some true := by
  cases e with
  | service update => simp [Envelope.kind] at hk
  | republish => simp [Envelope.kind] at hk
  | error cause =>
    have hf : cause.isNotFound = true := by
      by_contra hf
      simp [Envelope.kind, hf] at hk
    rw [handle_notFound hf, stopped?_stopCurrent, if_pos hc, Pool.stopped?_prune, hw s hc]
    rfl

lemma Attached.handle (hw : w.Attached) : (w.handle encode e).1.Attached := by
  intro c hcur
  obtain hnot | ⟨cause, hf, rfl⟩ | rfl | ⟨update, pool, s, hb, rfl, -⟩ := envelope_cases w e
  · rw [(handle_of_not_prunes encode w hnot).1] at hcur ⊢
    exact hw c hcur
  · rw [handle_notFound hf, stopCurrent_current] at hcur
    cases hcur
  · rw [handle_republish] at hcur ⊢
    exact hw c hcur
  · have hnew : pool.stopped? s = some false := by
      rw [Pool.stopped?_build hb, if_pos rfl]
    have hold : ∀ old, w.current = some old → old ≠ s ∧ pool.stopped? old = some false := by
      intro old ho
      have hstanding := hw old ho
      have hne : old ≠ s := by
        rintro rfl
        rw [Pool.stopped?_eq_none_of_build hb] at hstanding
        cases hstanding
      exact ⟨hne, by rw [Pool.stopped?_build hb, if_neg hne, hstanding]⟩
    rw [handle_service hb, install_worker] at hcur ⊢
    split at hcur
    · rename_i hsent
      simp only [hsent, if_true, Option.some.injEq] at hcur ⊢
      subst hcur
      have hne : w.current ≠ some s := fun ho => (hold s ho).1 rfl
      exact (stopped?_stopCurrent { w with pool := pool.prune } s).trans
        ((if_neg hne).trans hnew)
    · rename_i hkept
      rw [stop_current] at hcur
      obtain ⟨hne, hstanding⟩ := hold c hcur
      rw [if_neg hkept, stopped?_stop, if_neg hne]
      exact hstanding

/-! ### The pool of a delivery -/

lemma sound_offer {d : Delivery} (hp : w.pool.Sound)
    (hsel : ∀ s, selector = some s → w.pool.stopped? s = some false)
    (hd : w.offer encode selector = some d) : d.Sound := by
  obtain ⟨hpool, hselector⟩ := offer_pool hd
  refine ⟨?_, ?_, ?_⟩
  · rw [hpool]
    exact hp.of_leads (Pool.leads_prune _)
  · rw [hpool]
    exact hp.names_prune
  · rw [hpool, hselector]
    exact hsel

theorem sound_delivery {d : Delivery} (hp : w.pool.Sound) (hw : w.Attached)
    (hd : w.delivery? encode e = some d) : d.Sound := by
  cases e with
  | service update =>
    cases hb : w.pool.build update with
    | error cause => simp [delivery?, hb] at hd
    | ok found =>
      obtain ⟨pool, s⟩ := found
      simp only [delivery?, hb] at hd
      refine sound_offer (hp.of_leads (Pool.leads_build hb)) ?_ hd
      intro c hc
      rw [← Option.some.inj hc, Pool.stopped?_build hb, if_pos rfl]
  | republish => exact sound_offer hp hw hd
  | error cause =>
    simp only [delivery?] at hd
    split at hd
    · exact sound_offer hp (by simp) hd
    · cases hd

end Worker
end MeshRouting
