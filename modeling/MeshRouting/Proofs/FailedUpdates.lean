import MeshRouting.Proofs.OpenRuns
import MeshRouting.Proofs.PoolReleases
import MeshRouting.Proofs.SinkCalls

/-!
# Updates that fail

An update that is rejected or cannot be encoded leaves the last good state: the sink hears one
error, and the current selector stays as it is held. A rejected update changes nothing. Where the
config could not be encoded, the clusters had been acquired and the table pruned before; the
selector is then given up, and the counts are as they were.
-/
namespace MeshRouting

open ServiceConfig

namespace Mailbox

variable {m : Mailbox}

/-- In an open mailbox the marker is pending after a nudge, or what was pending before. -/
lemma nudge_slot (hopen : m.closed = false) :
    m.nudge.1.slot = some (m.slot.getD .republish) := by
  cases hslot : m.slot with
  | none => simp [nudge, hopen, hslot, wakeOne_slot]
  | some e => simp [nudge, hslot]

end Mailbox

/-- What befalls a worker: its own acts, and what others do with its mailbox and its selectors. -/
inductive WorkerEvent where
  | act (encode : Encoder) (act : WorkerAct)
  | stop (s : Nat)
  | publish (e : Envelope)
  | look
  | close
  | exit

namespace Worker

def undergo (w : Worker) : WorkerEvent → Worker
  | .act encode act => (w.perform encode act).1
  | .stop s => (w.stop s).1
  | .publish e => { w with mailbox := (w.mailbox.publish e).1 }
  | .look => w.look.1
  | .close => { w with mailbox := w.mailbox.close }
  | .exit => w.exit.1

/-- A worker after some events, in any order; the envelopes that it handles may be any. -/
def after (endpoint : String) (events : List WorkerEvent) : Worker :=
  events.foldl undergo (start endpoint)

/-- The pool is sound, and the current selector is in it. -/
structure Grounded (w : Worker) : Prop where
  pool : w.pool.Sound
  current : ∀ c, w.current = some c → c < w.pool.selectors.length

variable {encode : Encoder} {w next : Worker} {s : Nat} {update : ServiceUpdate} {pool : Pool}

/-! ### Reachable workers -/

lemma grounded_start (endpoint : String) : (start endpoint).Grounded :=
  ⟨Pool.sound_empty, fun c hc => by cases hc⟩

lemma lt_length_of_leads {p q : Pool} (hp : p.Sound) (hl : p.Leads q)
    (hs : s < p.selectors.length) : s < q.selectors.length := by
  obtain ⟨later, hlater, -⟩ := hp.ages hl (List.getElem?_eq_getElem hs)
  exact (List.getElem?_eq_some_iff.mp hlater).1

lemma Grounded.of_leads (h : w.Grounded) (hl : w.pool.Leads next.pool)
    (hc : ∀ c, next.current = some c →
      w.current = some c ∨ c < next.pool.selectors.length) : next.Grounded := by
  refine ⟨h.pool.of_leads hl, fun c hcur => ?_⟩
  rcases hc c hcur with hold | hnew
  · exact lt_length_of_leads h.pool hl (h.current c hold)
  · exact hnew

lemma Grounded.handle (h : w.Grounded) (encode : Encoder) (e : Envelope) :
    (w.handle encode e).1.Grounded := by
  refine h.of_leads (leads_handle_pool encode w e) fun c hc => ?_
  obtain hnot | ⟨cause, hf, rfl⟩ | rfl | ⟨update, pool, s, hb, rfl, -⟩ := envelope_cases w e
  · exact .inl (by rwa [(handle_of_not_prunes encode w hnot).1] at hc)
  · rw [handle_notFound hf, stopCurrent_current] at hc
    cases hc
  · exact .inl (by rwa [handle_republish] at hc)
  · rw [handle_service hb, install_worker] at hc ⊢
    split at hc
    · -- the new selector is the current one; stopping the old one afterwards leaves it in the pool
      rename_i hsent
      rw [if_pos hsent]
      have hlt : s < pool.selectors.length := by
        obtain ⟨fresh, hsel, -, rfl, -⟩ := Pool.selector_of_build hb
        simp [hsel]
      have hleads := (Pool.leads_prune pool).trans
        (leads_stopCurrent { w with pool := pool.prune })
      rw [← Option.some.inj hc]
      exact .inr (lt_length_of_leads (h.pool.of_leads (Pool.leads_build hb)) hleads hlt)
    · rw [stop_current] at hc
      exact .inl hc

lemma Grounded.perform (h : w.Grounded) (encode : Encoder) (act : WorkerAct) :
    (w.perform encode act).1.Grounded := by
  have hl := leads_perform encode w act
  obtain ⟨e, rfl⟩ | ⟨-, hsame | ⟨s, pool, lease, -, hnext⟩ |
    ⟨lease, pool, outcomes, -, hnext⟩⟩ := perform_cases encode w act
  · exact h.handle encode e
  · rwa [hsame]
  · rw [hnext] at hl ⊢
    exact h.of_leads hl fun c hc => .inl hc
  · rw [hnext] at hl ⊢
    exact h.of_leads hl fun c hc => .inl (by rwa [afterRelease_current] at hc)

lemma look_rest (w : Worker) : w.look.1.pool = w.pool ∧ w.look.1.current = w.current := by
  simp only [look]
  split <;> exact ⟨rfl, rfl⟩

/-- An envelope is only taken out of an open mailbox. -/
lemma open_of_taken {e : Envelope} (h : w.look.2 = some (.taken e)) :
    w.look.1.mailbox.closed = false := by
  cases hclosed : w.mailbox.closed with
  | false =>
    obtain hnone | ⟨-, mailbox, -, hnothing⟩ | ⟨mailbox, other, hopen, htaken⟩ := look_cases hclosed
    · simp [hnone] at h
    · simp [hnothing] at h
    · rw [htaken]
      exact hopen
  | true =>
    cases hrun : w.mailbox.runnable with
    | nil => simp [look, Mailbox.runNext, hrun] at h
    | cons worker rest =>
      simp [look, Mailbox.runNext, hrun, Mailbox.await, Mailbox.look, hclosed] at h

theorem Grounded.undergo (h : w.Grounded) (event : WorkerEvent) : (w.undergo event).Grounded := by
  cases event with
  | act encode act => exact h.perform encode act
  | stop s =>
    refine h.of_leads (leads_stop w s) fun c hc => .inl ?_
    rwa [Worker.undergo, stop_current] at hc
  | publish e => exact ⟨h.pool, h.current⟩
  | look =>
    obtain ⟨hpool, hcurrent⟩ := look_rest w
    refine ⟨?_, fun c hc => ?_⟩
    · rw [Worker.undergo, hpool]
      exact h.pool
    · rw [Worker.undergo, hpool]
      exact h.current c (hcurrent ▸ hc)
  | close => exact ⟨h.pool, h.current⟩
  | exit =>
    refine h.of_leads (leads_stopCurrent w) fun c hc => ?_
    have hnone : w.exit.1.current = none := stopCurrent_current w
    rw [Worker.undergo, hnone] at hc
    cases hc

theorem grounded_after (endpoint : String) (events : List WorkerEvent) :
    (after endpoint events).Grounded := by
  induction events using List.reverseRecOn with
  | nil => exact grounded_start endpoint
  | append_singleton events event ih =>
    rw [after, List.foldl_append]
    exact ih.undergo event

/-! ### Giving up what could not be encoded -/

lemma handle_unencodable {reason : String} (hb : w.pool.build update = .ok (pool, s))
    (he : encode pool.prune.table = .error reason) :
    (w.handle encode (.service update)).1 = ({ w with pool := pool.prune }.stop s).1 ∧
      w.answer encode (.service update) = .unencoded reason := by
  have hnone : ({ w with pool } : Worker).offer encode (some s) = none := by
    simp [offer, configFor, prune, he]
  refine ⟨?_, ?_⟩
  · rw [handle_service hb, install_worker, hnone]
    rfl
  · simp [answer, hb, publication, configFor, prune, he]

/-- Stopping a selector for the first time asks for the marker where a cluster reaches zero. -/
lemma stop_mailbox_of_standing (hp : w.pool.Sound) (hs : w.pool.stopped? s = some false) :
    (w.pool.table.Drains (w.stop s).1.pool.table ∧ (w.stop s).1.mailbox = w.mailbox.nudge.1) ∨
      ¬ w.pool.table.Drains (w.stop s).1.pool.table ∧ (w.stop s).1.mailbox = w.mailbox := by
  obtain ⟨selector, hsel, hn⟩ := Option.map_eq_some_iff.mp hs
  have hr := hp.exact.refs_pos_of_not_stopped hsel hn
  have hiff := hp.exact.drained_mem_lowered_iff (List.mem_of_getElem? hsel) hr
  simp only [stop, Pool.stop_eq hsel hn, afterRelease_pool, afterRelease_mailbox]
  rw [← hiff]
  by_cases hd : .drained ∈ (Pool.lowered w.pool.table selector).2
  · exact .inl ⟨hd, if_pos hd⟩
  · exact .inr ⟨hd, if_neg hd⟩

/-- What could not be encoded was given up without a trace in the counts. -/
structure Reverted (w next : Worker) : Prop where
  current : next.current = w.current
  selectors : ∃ discarded, next.pool.selectors = w.pool.selectors ++ [discarded] ∧
    discarded.refs = 0
  leases : next.pool.leases = w.pool.leases
  counts : ∀ name,
    (next.pool.table.refCount? name).getD 0 = (w.pool.table.refCount? name).getD 0

lemma reverted_stop (h : w.Grounded) (hb : w.pool.build update = .ok (pool, s)) :
    w.Reverted ({ w with pool := pool.prune }.stop s).1 where
  current := stop_current _ s
  selectors := by
    rw [stop_pool]
    exact (Pool.rest_of_discard hb).1
  leases := by
    rw [stop_pool]
    exact (Pool.rest_of_discard hb).2
  counts name := by
    rw [stop_pool]
    exact h.pool.exact.getD_refCount?_discard hb name

lemma Reverted.selector_eq (h : w.Reverted next) (hw : w.Grounded) {c : Nat}
    (hc : w.current = some c) : ∃ selector, w.pool.selectors[c]? = some selector ∧
      next.pool.selectors[c]? = some selector := by
  obtain ⟨discarded, hsel, -⟩ := h.selectors
  have hlt := hw.current c hc
  refine ⟨w.pool.selectors[c], List.getElem?_eq_getElem hlt, ?_⟩
  rw [hsel, List.getElem?_append_left hlt, List.getElem?_eq_getElem hlt]

lemma Reverted.refCount?_of_pos (h : w.Reverted next) {name : String} {count : Nat}
    (hpos : 0 < count) (hc : w.pool.table.refCount? name = some count) :
    next.pool.table.refCount? name = some count := by
  have hsame := h.counts name
  rw [hc, Option.getD_some] at hsame
  cases hn : next.pool.table.refCount? name with
  | none =>
    rw [hn, Option.getD_none] at hsame
    omega
  | some other =>
    rw [hn, Option.getD_some] at hsame
    rw [hsame]

lemma Reverted.refCount?_of_not_pos (h : w.Reverted next) {name : String} {count : Nat}
    (hnone : ∀ count, 0 < count → w.pool.table.refCount? name ≠ some count)
    (hc : next.pool.table.refCount? name = some count) : count = 0 := by
  have hsame := h.counts name
  rw [hc, Option.getD_some] at hsame
  cases hw : w.pool.table.refCount? name with
  | none => rwa [hw, Option.getD_none] at hsame
  | some other =>
    rw [hw, Option.getD_some] at hsame
    by_contra hz
    exact hnone other (by omega) hw

/-- A failed update leaves the last good state, whatever state the worker has come to and whichever
encoder it uses. For an error other than a not-found and for a rejected update it reports one error
and changes nothing. For an update whose config cannot be encoded it reports one error, too; the
current selector and its holders stay, every cluster with references keeps their number, all other
entries are at zero, and nobody holds the discarded selector. If a cluster reached zero when that
was given up, the marker is pending afterwards or what was pending before, as long as the mailbox is
open, as it is when an envelope is taken; otherwise the mailbox is as it was. -/
theorem failed_update_keeps_state (endpoint : String) (events : List WorkerEvent)
    (encode : Encoder) :
    let w := after endpoint events
    (∀ e, w.look.2 = some (.taken e) → w.look.1.mailbox.closed = false) ∧
    (∀ cause : WatchError, cause.isNotFound = false →
      (w.handle encode (.error cause)).1 = w ∧
      callsOf (w.handle encode (.error cause)).2 = [.failure (.watch cause)]) ∧
    (∀ update cause, w.pool.build update = .error cause →
      (w.handle encode (.service update)).1 = w ∧
      callsOf (w.handle encode (.service update)).2 = [.failure (.invalidUpdate cause)]) ∧
    (∀ update pool s reason, w.pool.build update = .ok (pool, s) →
      encode pool.prune.table = .error reason →
      let next := (w.handle encode (.service update)).1
      callsOf (w.handle encode (.service update)).2 = [.failure (.serialization reason)] ∧
      next.current = w.current ∧
      (∀ c, w.current = some c → ∃ selector, w.pool.selectors[c]? = some selector ∧
        next.pool.selectors[c]? = some selector) ∧
      (∀ name count, 0 < count → w.pool.table.refCount? name = some count →
        next.pool.table.refCount? name = some count) ∧
      (∀ name, (∀ count, 0 < count → w.pool.table.refCount? name ≠ some count) →
        ∀ count, next.pool.table.refCount? name = some count → count = 0) ∧
      (∃ discarded, next.pool.selectors = w.pool.selectors ++ [discarded] ∧
        discarded.refs = 0) ∧
      next.pool.leases = w.pool.leases ∧
      (pool.prune.table.Drains next.pool.table → w.mailbox.closed = false →
        next.mailbox.slot = some (w.mailbox.slot.getD .republish)) ∧
      (¬ pool.prune.table.Drains next.pool.table → next.mailbox = w.mailbox)) := by
  intro w
  have hw : w.Grounded := grounded_after endpoint events
  refine ⟨fun e => open_of_taken, ?_, ?_, ?_⟩
  · intro cause hf
    refine ⟨(handle_of_not_prunes encode w (e := .error cause) hf).1, ?_⟩
    rw [(answered_handle encode w _).1]
    simp [answer, hf, Answer.call]
  · intro update cause hb
    refine ⟨?_, ?_⟩
    · simp [handle, react, handleService, hb, reject]
    · rw [(answered_handle encode w _).1]
      simp [answer, hb, Answer.call]
  · intro update pool s reason hb he next
    obtain ⟨hnext, hanswer⟩ := handle_unencodable hb he
    have hreverted : w.Reverted next := by
      show w.Reverted (w.handle encode (.service update)).1
      rw [hnext]
      exact reverted_stop hw hb
    have hpruned : pool.prune.Sound :=
      hw.pool.of_leads ((Pool.leads_build hb).trans (Pool.leads_prune pool))
    have hstanding : pool.prune.stopped? s = some false := by
      rw [Pool.stopped?_prune, Pool.stopped?_build hb, if_pos rfl]
    -- the release starts from the pruned pool, where the new selector already holds its clusters
    have hmailbox := stop_mailbox_of_standing (w := { w with pool := pool.prune }) hpruned hstanding
    rw [← hnext] at hmailbox
    refine ⟨?_, hreverted.current, fun c hc => hreverted.selector_eq hw hc,
      fun name count hpos hc => hreverted.refCount?_of_pos hpos hc,
      fun name hnone count hc => hreverted.refCount?_of_not_pos hnone hc, hreverted.selectors,
      hreverted.leases, ?_, ?_⟩
    · rw [(answered_handle encode w _).1, hanswer]
      rfl
    · intro hdrains hopen
      obtain ⟨-, hnudged⟩ | ⟨hnot, -⟩ := hmailbox
      · exact (congrArg Mailbox.slot hnudged).trans (Mailbox.nudge_slot hopen)
      · exact absurd hdrains hnot
    · intro hnot
      obtain ⟨hdrains, -⟩ | ⟨-, hsame⟩ := hmailbox
      · exact absurd hdrains hnot
      · exact hsame

/-- A cluster has been replaced and a call still holds the old one. -/
def draining : List WorkerEvent :=
  [.act standard (.handle (.service (.serving "a"))), .act standard (.retain 0),
    .act standard (.handle (.service (.serving "b")))]

/-- The encoder fails on a third cluster then. -/
theorem unencodable_while_draining :
    let w := after "svc" draining
    let next := (w.handle (fun _ => .error "unencodable") (.service (.serving "c"))).1
    w.pool.table.refCount? "a" = some 1 ∧ w.current = some 1 ∧
      next.pool.table.refCount? "a" = some 1 ∧ next.current = some 1 ∧
      next.mailbox.slot = some .republish := by
  intro w next
  have hheld : w.pool.table.refCount? "a" = some 1 := by decide
  have hcurrent : w.current = some 1 := by decide
  have hb : w.pool.build (.serving "c") = .ok _ := Pool.build_eq_ok rfl
  obtain ⟨-, -, -, hunencodable⟩ := failed_update_keeps_state "svc" draining
    fun _ => .error "unencodable"
  obtain ⟨-, hsame, -, hkept, -, -, -, hmarker, -⟩ := hunencodable _ _ _ _ hb rfl
  have hpending : next.mailbox.slot = some .republish :=
    hmarker ⟨"c", by decide, by decide⟩ (by decide)
  exact ⟨hheld, hcurrent, hkept "a" 1 (by decide) hheld, hsame.trans hcurrent, hpending⟩

end Worker
end MeshRouting
