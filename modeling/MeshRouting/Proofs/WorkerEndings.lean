import MeshRouting.Proofs.ServedMailboxes
import MeshRouting.Proofs.StoppedSelectors
import MeshRouting.Proofs.TableEntries

/-!
# How a worker ends

A worker serves until its mailbox is closed. Then it ends in its next turn, whatever was unread,
and nothing wakes it any more. On the way it stops every selector that it has built, each once.
-/
namespace MeshRouting

open ServiceConfig

/-- What is handed to the sink: states and failures. -/
def WorkerEffect.IsSinkCall : WorkerEffect → Prop
  | .state _ | .failure _ => True
  | _ => False

namespace Worker

variable {encode : Encoder} {w : Worker} {s : Nat}

/-- A worker serves its mailbox, is to find out that it was closed, or has ended. -/
inductive Stage (w : Worker) : Bool → Prop
  | serving (hmailbox : w.mailbox.Serves) (hexited : w.exited = false) : Stage w false
  | ending (hclosed : w.mailbox.closed = true) (hrun : w.mailbox.runnable = [consumer])
      (hwait : w.mailbox.waiting = []) (hexited : w.exited = false) : Stage w true
  | ended (hclosed : w.mailbox.closed = true) (hrun : w.mailbox.runnable = [])
      (hwait : w.mailbox.waiting = []) (hexited : w.exited = true) (hcurrent : w.current = none) :
      Stage w true

/-- What a worker keeps, where `closed` tells whether its mailbox has been closed and `stops` are
the selectors that it has stopped. -/
structure Kept (w : Worker) (closed : Bool) (stops : List Nat) : Prop where
  grown : Pool.empty.Leads w.pool
  sole : w.Sole
  stage : w.Stage closed
  stopped : ∀ s, stops.count s = if w.pool.stopped? s = some true then 1 else 0

variable {closed : Bool} {stops : List Nat}

lemma kept_start (endpoint : String) : (start endpoint).Kept false [] where
  grown := .refl _
  sole := by
    intro s
    simp [start, Pool.stopped?, Pool.empty]
  stage := .serving ⟨rfl, .inl ⟨rfl, rfl⟩⟩ rfl
  stopped := by
    intro s
    simp [start, Pool.stopped?, Pool.empty]

lemma Stage.publish (h : w.Stage closed) (e : Envelope) :
    Stage { w with mailbox := (w.mailbox.publish e).1 } closed := by
  cases h with
  | serving hmailbox hexited => exact .serving (hmailbox.publish e) hexited
  | ending hclosed hrun hwait hexited =>
    rw [Mailbox.publish, if_pos hclosed]
    exact .ending hclosed hrun hwait hexited
  | ended hclosed hrun hwait hexited hcurrent =>
    rw [Mailbox.publish, if_pos hclosed]
    exact .ended hclosed hrun hwait hexited hcurrent

lemma Kept.publish (h : w.Kept closed stops) (e : Envelope) :
    Kept { w with mailbox := (w.mailbox.publish e).1 } closed stops :=
  ⟨h.grown, h.sole, h.stage.publish e, h.stopped⟩

lemma Stage.withPool (h : w.Stage closed) (pool : Pool) : Stage { w with pool } closed := by
  cases h with
  | serving hmailbox hexited => exact .serving hmailbox hexited
  | ending hclosed hrun hwait hexited => exact .ending hclosed hrun hwait hexited
  | ended hclosed hrun hwait hexited hcurrent => exact .ended hclosed hrun hwait hexited hcurrent

lemma Stage.afterRelease (h : w.Stage closed) (outcomes : List Released) :
    (w.afterRelease outcomes).Stage closed := by
  have hclosed (hm : w.mailbox.closed = true) : w.afterRelease outcomes = w := by
    simp [Worker.afterRelease, Mailbox.nudge, hm]
  cases h with
  | serving hmailbox hexited =>
    unfold Worker.afterRelease
    split
    · exact .serving hmailbox.nudge hexited
    · exact .serving hmailbox hexited
  | ending hm hrun hwait hexited =>
    rw [hclosed hm]
    exact .ending hm hrun hwait hexited
  | ended hm hrun hwait hexited hcurrent =>
    rw [hclosed hm]
    exact .ended hm hrun hwait hexited hcurrent

/-- Taking and dropping leases stops nothing, and wakes nobody once the mailbox is closed. -/
lemma Kept.perform (h : w.Kept closed stops) {act : WorkerAct} (hact : act.envelope? = none) :
    (w.perform encode act).1.Kept closed stops := by
  have hgrown := h.grown.trans (leads_perform encode w act)
  have hsole := h.sole.perform encode act
  obtain ⟨e, rfl⟩ | ⟨-, hsame | ⟨s, pool, lease, hp, hnext⟩ |
    ⟨lease, pool, outcomes, hp, hnext⟩⟩ := perform_cases encode w act
  · cases hact
  · rwa [hsame]
  · rw [hnext] at hgrown hsole ⊢
    refine ⟨hgrown, hsole, h.stage.withPool pool, fun s => ?_⟩
    rw [h.stopped s, ← Pool.stopped?_retain hp]
  · rw [hnext] at hgrown hsole ⊢
    refine ⟨hgrown, hsole, (h.stage.withPool pool).afterRelease outcomes, fun s => ?_⟩
    rw [h.stopped s, afterRelease_pool, ← Pool.stopped?_dropLease hp]

lemma Kept.close (h : w.Kept false stops) :
    Kept { w with mailbox := w.mailbox.close } true stops := by
  refine ⟨h.grown, h.sole, ?_, h.stopped⟩
  cases h.stage with
  | serving hmailbox hexited =>
    obtain ⟨hopen, ⟨hrun, hwait⟩ | ⟨hrun, hwait, -⟩⟩ := hmailbox
    · refine .ending ?_ ?_ ?_ hexited <;> simp [Mailbox.close, hopen, Mailbox.wakeOne, hrun, hwait]
    · refine .ending ?_ ?_ ?_ hexited <;> simp [Mailbox.close, hopen, Mailbox.wakeOne, hrun, hwait]

/-! ### Turns -/

lemma afterRelease_rest (w : Worker) (outcomes : List Released) :
    (w.afterRelease outcomes).endpoint = w.endpoint ∧
      (w.afterRelease outcomes).exited = w.exited := by
  unfold Worker.afterRelease
  split <;> exact ⟨rfl, rfl⟩

lemma stop_rest (w : Worker) (s : Nat) :
    (w.stop s).1.endpoint = w.endpoint ∧ (w.stop s).1.exited = w.exited := by
  simp only [stop]
  split
  · exact afterRelease_rest _ _
  · exact ⟨rfl, rfl⟩

lemma stopCurrent_rest (w : Worker) :
    w.stopCurrent.1.endpoint = w.endpoint ∧ w.stopCurrent.1.exited = w.exited := by
  simp only [stopCurrent]
  split
  · exact ⟨rfl, rfl⟩
  · exact stop_rest { w with current := none } _

lemma handle_rest (encode : Encoder) (w : Worker) (e : Envelope) :
    (w.handle encode e).1.endpoint = w.endpoint ∧ (w.handle encode e).1.exited = w.exited := by
  obtain hnot | ⟨cause, hf, rfl⟩ | rfl | ⟨update, pool, s, hb, rfl, -⟩ := envelope_cases w e
  · rw [(handle_of_not_prunes encode w hnot).1]
    exact ⟨rfl, rfl⟩
  · rw [handle_notFound hf]
    exact stopCurrent_rest { w with pool := w.pool.prune }
  · rw [handle_republish]
    exact ⟨rfl, rfl⟩
  · rw [handle_service hb, install_worker]
    split
    · exact stopCurrent_rest { w with pool := pool.prune }
    · exact stop_rest { w with pool := pool.prune } s

/-- What is kept when the worker goes on and stops some selectors. -/
lemma Kept.goesOn {next : Worker} {effects : List WorkerEffect} {later : Bool}
    (h : w.Kept closed stops) (hpool : w.pool.Leads next.pool) (hsole : next.Sole)
    (hstage : next.Stage later) (hstops : w.Stops next effects) :
    next.Kept later (stops ++ stopsOf effects) := by
  refine ⟨h.grown.trans hpool, hsole, hstage, fun s => ?_⟩
  rw [List.count_append, h.stopped s, ← hstops s, Nat.add_comm]

lemma turn_of_idle (h : w.mailbox.runnable = []) : w.turn encode = (w, []) := by
  simp [turn, Mailbox.runNext, h]

/-- A worker that finds its mailbox closed ends, whatever was unread. -/
lemma turn_of_closed (hclosed : w.mailbox.closed = true)
    (hrun : w.mailbox.runnable = [consumer]) :
    w.turn encode = exit { w with mailbox := { w.mailbox with runnable := [] } } := by
  simp [turn, Mailbox.runNext, hrun, Mailbox.await, Mailbox.look, hclosed]

lemma Kept.exit {mailbox : Mailbox} (h : w.Kept closed stops) (hclosed : mailbox.closed = true)
    (hrun : mailbox.runnable = []) (hwait : mailbox.waiting = []) :
    (exit { w with mailbox }).1.Kept true (stops ++ stopsOf (exit { w with mailbox }).2) := by
  have hsole : Sole { w with mailbox } := h.sole
  have hcurrent := stopCurrent_current { w with mailbox }
  have hmailbox : (stopCurrent { w with mailbox }).1.mailbox = mailbox := by
    obtain hm | hm := stopCurrent_mailbox { w with mailbox }
    · exact hm
    · rw [hm, Mailbox.nudge, if_pos (by simp [hclosed])]
  refine h.goesOn (leads_stopCurrent { w with mailbox }) (fun s => ?_) ?_ hsole.stops_exit
  · have hstopped := hsole.stopCurrent s
    show (stopCurrent { w with mailbox }).1.pool.stopped? s = _ ↔
      (stopCurrent { w with mailbox }).1.current = _
    simp [hstopped, hcurrent]
  · exact .ended ((congrArg Mailbox.closed hmailbox).trans hclosed)
      ((congrArg Mailbox.runnable hmailbox).trans hrun)
      ((congrArg Mailbox.waiting hmailbox).trans hwait) rfl hcurrent

/-- An open worker waits, or handles what it found; a closed one ends. -/
theorem Kept.turn (h : w.Kept closed stops) (encode : Encoder) :
    (w.turn encode).1.Kept closed (stops ++ stopsOf (w.turn encode).2) := by
  have hidle : w.Kept closed (stops ++ stopsOf []) := by
    rw [show stopsOf [] = [] from rfl, List.append_nil]
    exact h
  cases h.stage with
  | serving hmailbox hexited =>
    rw [turn_eq_look]
    obtain ⟨-, -, hlook⟩ | ⟨-, mailbox, hserves, -, -, hlook⟩ |
      ⟨e, -, -, mailbox, hserves, -, -, hlook⟩ := look_of_serves hmailbox
    · rw [hlook]
      exact hidle
    · rw [hlook]
      exact ⟨h.grown, h.sole, .serving hserves hexited, hidle.stopped⟩
    · rw [hlook]
      have hsole : Sole { w with mailbox } := h.sole
      -- handling may post the marker, which keeps the mailbox served
      refine h.goesOn (leads_handle_pool encode { w with mailbox } e) (hsole.handle encode e) ?_
        (hsole.stops_handle encode e)
      refine .serving ?_ ((handle_rest encode { w with mailbox } e).2.trans hexited)
      obtain hm | hm := handle_mailbox encode { w with mailbox } e
      · rw [hm]
        exact hserves
      · rw [hm]
        exact hserves.nudge
  | ending hclosed hrun hwait hexited =>
    rw [turn_of_closed hclosed hrun]
    exact h.exit hclosed rfl hwait
  | ended hclosed hrun hwait hexited hcurrent =>
    rw [turn_of_idle hrun]
    exact hidle

lemma perform_endpoint {act : WorkerAct} (hact : act.envelope? = none) :
    (w.perform encode act).1.endpoint = w.endpoint := by
  obtain ⟨e, rfl⟩ | ⟨-, hsame | ⟨s, pool, lease, -, hnext⟩ |
    ⟨lease, pool, outcomes, -, hnext⟩⟩ := perform_cases encode w act
  · cases hact
  · rw [hsame]
  · rw [hnext]
  · rw [hnext]
    exact (afterRelease_rest _ outcomes).1

lemma turn_endpoint (h : w.Stage closed) (encode : Encoder) :
    (w.turn encode).1.endpoint = w.endpoint := by
  cases h with
  | serving hmailbox hexited =>
    rw [turn_eq_look]
    obtain ⟨-, -, hlook⟩ | ⟨-, mailbox, -, -, -, hlook⟩ |
      ⟨e, -, -, mailbox, -, -, -, hlook⟩ := look_of_serves hmailbox
    · rw [hlook]
    · rw [hlook]
    · rw [hlook]
      exact (handle_rest encode { w with mailbox } e).1
  | ending hclosed hrun hwait hexited =>
    rw [turn_of_closed hclosed hrun]
    exact (stopCurrent_rest { w with mailbox := { w.mailbox with runnable := [] } }).1
  | ended hclosed hrun hwait hexited hcurrent => rw [turn_of_idle hrun]

lemma not_isSinkCall_stop (w : Worker) (s : Nat) :
    ∀ effect ∈ (w.stop s).2, ¬ effect.IsSinkCall := by
  simp only [stop]
  split <;> simp [WorkerEffect.IsSinkCall]

lemma not_isSinkCall_exit (w : Worker) : ∀ effect ∈ w.exit.2, ¬ effect.IsSinkCall := by
  intro effect hm
  simp only [exit, stopCurrent, List.mem_append, List.mem_singleton] at hm
  rcases hm with hm | rfl
  · split at hm
    · cases hm
    · exact not_isSinkCall_stop _ _ effect hm
  · exact id

/-- Once its mailbox is closed the worker hands nothing to the sink, and ends in its next turn. -/
theorem Stage.turn_of_closed (h : w.Stage true) (encode : Encoder) :
    (w.turn encode).1.exited = true ∧ ∀ effect ∈ (w.turn encode).2, ¬ effect.IsSinkCall := by
  cases h with
  | ending hclosed hrun hwait hexited =>
    rw [Worker.turn_of_closed hclosed hrun]
    exact ⟨rfl, not_isSinkCall_exit _⟩
  | ended hclosed hrun hwait hexited hcurrent =>
    rw [turn_of_idle hrun]
    exact ⟨hexited, fun effect hm => by cases hm⟩

/-! ### What is left -/

lemma Stage.current_of_exited (h : w.Stage closed) (hexited : w.exited = true) :
    w.current = none := by
  cases h with
  | serving hmailbox hrunning => simp [hexited] at hrunning
  | ending hclosed hrun hwait hrunning => simp [hexited] at hrunning
  | ended hclosed hrun hwait _ hcurrent => exact hcurrent

/-- A worker that has ended has stopped each of its selectors once. -/
theorem Kept.count_stops (h : w.Kept closed stops) (hexited : w.exited = true) {s : Nat}
    (hs : s < w.pool.selectors.length) : stops.count s = 1 := by
  have hcurrent := h.stage.current_of_exited hexited
  have hstopped : w.pool.stopped? s = some (w.pool.selectors[s]).stopped := by
    simp [Pool.stopped?, hs]
  have hnot : w.pool.stopped? s ≠ some false := by
    intro hstands
    have hc := (h.sole s).mp hstands
    rw [hcurrent] at hc
    cases hc
  rw [h.stopped s, if_pos]
  cases hb : (w.pool.selectors[s]).stopped with
  | true => rw [hstopped, hb]
  | false => exact absurd (hstopped.trans (congrArg some hb)) hnot

/-- Without leases no cluster has a reference after the end. -/
theorem Kept.refs_eq_zero (h : w.Kept closed stops) (hexited : w.exited = true)
    (hleases : ∀ lease ∈ w.pool.leases, lease = none) :
    ∀ entry ∈ w.pool.table.entries, entry.refs = 0 := by
  have hsound : w.pool.Sound := Pool.sound_empty.of_leads h.grown
  have htight : w.pool.table.Tight := by
    refine Pool.tight_of_leads (fun entry hr => absurd ?_ hr) h.grown
    simp [Pool.empty, ClusterTable.empty, ClusterTable.refsOf]
  refine hsound.refs_eq_zero htight fun name hm => ?_
  obtain ⟨s, selector, hc, -⟩ := (h.sole.mem_heldClusters_iff hsound hleases).mp hm
  rw [h.stage.current_of_exited hexited] at hc
  cases hc

end Worker
end MeshRouting
