import MeshRouting.Proofs.WorkerLosses

/-!
# Open resolvers at rest

The worker of an open resolver looks into its mailbox and handles what it took from there, while
updates are pushed and leases come and go at any point, also in between. At rest the config lists
just the held clusters if every loss of a cluster was followed by an envelope that prunes. The
mailbox sees to it that some envelope follows, but that may be one that does not prune.
-/
namespace MeshRouting

open ServiceConfig

namespace Worker

/-- The first half of a turn: the worker looks into its mailbox and waits if it finds nothing. -/
def look (w : Worker) : Worker × Option Mailbox.Look :=
  match w.mailbox.runNext with
  | (_, none) => (w, none)
  | (mailbox, some (worker, .taken e)) =>
    ({ w with mailbox := { mailbox with runnable := worker :: mailbox.runnable } },
      some (.taken e))
  | (mailbox, some (_, found)) => ({ w with mailbox }, some found)

/-- A turn is a look and what is done about it. -/
theorem turn_eq_look (encode : Encoder) (w : Worker) :
    w.turn encode = match w.look with
      | (next, some (.taken e)) => next.handle encode e
      | (next, some .over) => next.exit
      | (next, _) => (next, []) := by
  simp only [turn, look]
  rcases w.mailbox.runNext with ⟨mailbox, _ | ⟨worker, _ | e | _⟩⟩ <;> rfl

lemma look_cases {w : Worker} (hopen : w.mailbox.closed = false) :
    w.look = (w, none) ∨
    (w.mailbox.slot = none ∧ ∃ mailbox : Mailbox, mailbox.closed = false ∧
      w.look = ({ w with mailbox }, some .nothing)) ∨
    (∃ (mailbox : Mailbox) (e : Envelope), mailbox.closed = false ∧
      w.look = ({ w with mailbox }, some (.taken e))) := by
  cases hrun : w.mailbox.runnable with
  | nil => exact .inl (by simp [look, Mailbox.runNext, hrun])
  | cons worker rest =>
    cases hslot : w.mailbox.slot with
    | none =>
      refine .inr (.inl ⟨rfl, ?_⟩)
      simp [look, Mailbox.runNext, hrun, Mailbox.await, Mailbox.look, hopen, hslot]
    | some e =>
      refine .inr (.inr ?_)
      simp [look, Mailbox.runNext, hrun, Mailbox.await, Mailbox.look, hopen, hslot]

end Worker

namespace Moment

/-- The moment loses the last holder of some cluster. -/
def Loses (m : Moment) : Prop := m.before.pool.Loses m.after.pool

def Handles (m : Moment) : Prop := ∃ e, m.handled = some e

/-- An envelope is handled that prunes the table. -/
def Prunes (m : Moment) : Prop := ∃ e, m.handled = some e ∧ e.prunes = true

end Moment

inductive OpenEvent where
  | push (update : Except WatchError ServiceUpdate)
  | look
  | handle
  | retain (s : Nat)
  | dropLease (lease : Nat)

/-- A run with the envelope that the worker has taken and not handled yet. -/
structure OpenRun extends WorkerRun where
  hand : Option Envelope

namespace OpenRun

def start (endpoint : String) : OpenRun := ⟨.start endpoint, none⟩

/-- An act of the worker with the standard encoder, which leaves `hand` in its hand. -/
def act (run : OpenRun) (act : WorkerAct) (hand : Option Envelope) : OpenRun :=
  ⟨run.toWorkerRun.next standard act, hand⟩

def push (run : OpenRun) (e : Envelope) : OpenRun :=
  { run with worker := { run.worker with mailbox := (run.worker.mailbox.publish e).1 } }

/-- Only a worker with nothing in its hand looks for more. -/
def look (run : OpenRun) : OpenRun :=
  match run.hand, run.worker.look with
  | none, (worker, some (.taken e)) => { run with worker, hand := some e }
  | none, (worker, _) => { run with worker }
  | some _, _ => run

def next (run : OpenRun) : OpenEvent → OpenRun
  | .push update => run.push (.ofWatch update)
  | .look => run.look
  | .handle => match run.hand with
    | none => run
    | some e => run.act (.handle e) none
  | .retain s => run.act (.retain s) run.hand
  | .dropLease lease => run.act (.dropLease lease) run.hand

def of (endpoint : String) (events : List OpenEvent) : OpenRun :=
  events.foldl next (start endpoint)

/-- Nothing is unread, nothing is being handled and the worker waits. -/
def Quiescent (run : OpenRun) : Prop :=
  run.worker.mailbox.slot = none ∧ run.hand = none ∧ run.worker.isBusy = false

/-- What every run keeps. Dead clusters are those of a loss after which nothing was pruned; and
after a loss there is something to handle until something has been handled. -/
structure Kept (run : OpenRun) : Prop where
  announced : run.Announced
  isOpen : run.worker.mailbox.closed = false
  dead : run.worker.pool.HasDead ↔ ¬ Moment.Answered Moment.Loses Moment.Prunes run.moments
  unread : Moment.Answered Moment.Loses Moment.Handles run.moments ∨
    run.worker.mailbox.slot ≠ none ∨ run.hand ≠ none

variable {run : OpenRun}

lemma kept_start (endpoint : String) : (start endpoint).Kept where
  announced := WorkerRun.announced_start endpoint
  isOpen := rfl
  dead := by
    have hnone : ¬ (start endpoint).worker.pool.HasDead := by
      rintro ⟨name, hc⟩
      simp [start, WorkerRun.start, Worker.start, Pool.empty, ClusterTable.refCount?,
        ClusterTable.empty, NameMap.empty, NameMap.find?] at hc
    exact iff_of_false hnone (not_not_intro Moment.answered_nil)
  unread := .inl Moment.answered_nil

/-- Only the mailbox changes, and what is unread there stays or is taken in hand. -/
lemma Kept.mailbox (h : run.Kept) {mailbox : Mailbox} {hand : Option Envelope}
    (hopen : mailbox.closed = false)
    (hunread : run.worker.mailbox.slot ≠ none ∨ run.hand ≠ none →
      mailbox.slot ≠ none ∨ hand ≠ none) :
    Kept ⟨{ run.toWorkerRun with worker := { run.worker with mailbox } }, hand⟩ where
  announced := by
    have hs := h.announced.sound
    exact ⟨⟨hs.pool, hs.attached, hs.states, hs.sound, hs.leads, hs.ordered⟩,
      h.announced.configs, h.announced.latest⟩
  isOpen := hopen
  dead := h.dead
  unread := h.unread.imp_right hunread

lemma Kept.push (h : run.Kept) (e : Envelope) : (run.push e).Kept := by
  have hpublish : (run.worker.mailbox.publish e).1 =
      { run.worker.mailbox with slot := some e }.wakeOne := by
    simp [Mailbox.publish, h.isOpen]
  refine h.mailbox ?_ fun _ => .inl ?_
  · rw [hpublish, Mailbox.wakeOne_closed]
    exact h.isOpen
  · simp [hpublish, Mailbox.wakeOne_slot]

lemma Kept.look (h : run.Kept) : run.look.Kept := by
  simp only [OpenRun.look]
  cases hhand : run.hand with
  | some e => exact h
  | none =>
    obtain hnone | ⟨hslot, mailbox, hopen, hnothing⟩ | ⟨mailbox, e, hopen, htaken⟩ :=
      Worker.look_cases h.isOpen
    · simp only [hnone]
      exact h.mailbox h.isOpen (by simp [hhand])
    · simp only [hnothing]
      refine h.mailbox hopen ?_
      simp [hslot, hhand]
    · simp only [htaken]
      exact h.mailbox hopen fun _ => .inr (by simp)

/-- An act either handles what was in hand or leaves it there. -/
lemma Kept.act (h : run.Kept) {act : WorkerAct} {hand : Option Envelope}
    (hhand : (∃ e, act.envelope? = some e) ∨ hand = run.hand) : (run.act act hand).Kept := by
  have hs := h.announced.sound
  have hdead := Worker.hasDead_perform hs.pool hs.attached act
  refine ⟨h.announced.next, ?_, ?_, ?_⟩
  · exact Worker.perform_closed.trans h.isOpen
  · show (run.worker.perform standard act).1.pool.HasDead ↔
      ¬ Moment.Answered _ _ (run.moments ++ [_])
    rw [Moment.answered_append_singleton, hdead, h.dead]
    show _ ↔ ¬ (¬ run.worker.pool.Loses _ ∧ (_ ∨ act.prunes))
    tauto
  · show Moment.Answered _ _ (run.moments ++ [_]) ∨
      (run.worker.perform standard act).1.mailbox.slot ≠ none ∨ hand ≠ none
    rw [Moment.answered_append_singleton]
    show ¬ run.worker.pool.Loses _ ∧ (_ ∨ ∃ e, act.envelope? = some e) ∨ _
    by_cases hloss : run.worker.pool.Loses (run.worker.perform standard act).1.pool
    · exact .inr (.inl (Worker.slot_of_loses hs.pool h.isOpen hloss))
    · rcases hhand with hhandles | rfl
      · exact .inl ⟨hloss, .inr hhandles⟩
      · rcases h.unread with hanswered | hslot | hhand
        · exact .inl ⟨hloss, .inl hanswered⟩
        · exact .inr (.inl (Worker.perform_slot_ne_none hslot))
        · exact .inr (.inr hhand)

lemma Kept.next (h : run.Kept) (event : OpenEvent) : (run.next event).Kept := by
  cases event with
  | push update => exact h.push _
  | look => exact h.look
  | handle =>
    simp only [OpenRun.next]
    cases run.hand with
    | none => exact h
    | some e => exact h.act (.inl ⟨e, rfl⟩)
  | retain s => exact h.act (.inr rfl)
  | dropLease lease => exact h.act (.inr rfl)

theorem kept_of (endpoint : String) (events : List OpenEvent) : (of endpoint events).Kept := by
  induction events using List.reverseRecOn with
  | nil => exact kept_start endpoint
  | append_singleton events event ih =>
    have hof : of endpoint (events ++ [event]) = (of endpoint events).next event := by
      simp [of, List.foldl_append]
    rw [hof]
    exact ih.next event

/-- The config lists the held clusters and no others. -/
def Current (run : OpenRun) (config : String) : Prop :=
  ∀ cluster, HasChild config cluster ↔ cluster ∈ run.worker.pool.heldClusters

lemma Kept.current_iff (h : run.Kept) {state : ResolverState} (hlast : run.last? = some state) :
    run.Current state.config ↔ ¬ run.worker.pool.HasDead := by
  have hs := h.announced.sound.pool
  have hlatest := h.announced.latest state hlast
  rw [hs.hasDead_iff]
  constructor
  · rintro hcurrent ⟨name, hm, hn⟩
    exact hn ((hcurrent name).mp ((hlatest name).mpr hm))
  · intro hdead cluster
    rw [hlatest]
    constructor
    · intro hm
      by_contra hn
      exact hdead ⟨cluster, hm, hn⟩
    · exact hs.mem_names_of_held

/-- At rest, once something has been published, no cluster without references is listed and the
last config is that of the held clusters, if and only if every loss of a cluster was followed by
an envelope that prunes: an accepted update, a not-found or the marker. Some envelope was handled
after each loss in any case. So the exact failure is a loss after which only rejected updates and
other errors were handled, which displace the marker or keep it out. -/
theorem nothing_dead_at_rest_iff (endpoint : String) (events : List OpenEvent)
    (state : ResolverState) (hrest : (of endpoint events).Quiescent)
    (hlast : (of endpoint events).last? = some state) :
    let run := of endpoint events
    (¬ run.worker.pool.HasDead ∧ run.Current state.config ↔
      Moment.Answered Moment.Loses Moment.Prunes run.moments) ∧
    Moment.Answered Moment.Loses Moment.Handles run.moments := by
  intro run
  have h : run.Kept := kept_of endpoint events
  constructor
  · rw [h.current_iff hlast, and_self, h.dead, not_not]
  · obtain ⟨hslot, hhand, -⟩ := hrest
    rcases h.unread with hanswered | hslot' | hhand'
    · exact hanswered
    · exact absurd hslot hslot'
    · exact absurd hhand hhand'

/-- The last lease of an old selector is dropped while the mailbox is empty. -/
def droppedLate : List OpenEvent :=
  [.look, .push (.ok (.serving "a")), .look, .handle, .look, .retain 0,
    .push (.ok (.serving "b")), .look, .handle, .look, .dropLease 0, .look, .handle, .look]

theorem nothing_dead_after_marker :
    (of "svc" droppedLate).Quiescent ∧ ∃ state, (of "svc" droppedLate).last? = some state ∧
      (¬ (of "svc" droppedLate).worker.pool.HasDead ∧
          (of "svc" droppedLate).Current state.config ↔
        Moment.Answered Moment.Loses Moment.Prunes (of "svc" droppedLate).moments) := by
  have hrest : (of "svc" droppedLate).Quiescent := ⟨by decide, by decide, by decide⟩
  have hsome : (of "svc" droppedLate).last?.isSome := by decide
  obtain ⟨state, hlast⟩ := Option.isSome_iff_exists.mp hsome
  exact ⟨hrest, state, hlast, (nothing_dead_at_rest_iff "svc" droppedLate state hrest hlast).1⟩

/-- The same lease is dropped while an error of the watch is unread. -/
def droppedBehindError : List OpenEvent :=
  [.look, .push (.ok (.serving "a")), .look, .handle, .look, .retain 0,
    .push (.ok (.serving "b")), .look, .handle, .look,
    .push (.error ⟨.other, "stream reset"⟩), .dropLease 0, .look, .handle, .look]

/-- The marker is kept out by an error that does not prune, so a cluster that nobody holds stays
in the table and in the config. -/
theorem dead_at_rest_behind_error :
    (of "svc" droppedBehindError).Quiescent ∧
    ∃ state, (of "svc" droppedBehindError).last? = some state ∧
      (of "svc" droppedBehindError).worker.pool.table.refCount? "a" = some 0 ∧
      HasChild state.config "a" ∧
      "a" ∉ (of "svc" droppedBehindError).worker.pool.heldClusters.toList := by
  have hrest : (of "svc" droppedBehindError).Quiescent := ⟨by decide, by decide, by decide⟩
  have hsome : (of "svc" droppedBehindError).last?.isSome := by decide
  obtain ⟨state, hlast⟩ := Option.isSome_iff_exists.mp hsome
  have hlisted : "a" ∈ (of "svc" droppedBehindError).worker.pool.table.names := by decide
  have hlatest := (kept_of "svc" droppedBehindError).announced.latest state hlast "a"
  exact ⟨hrest, state, hlast, by decide, hlatest.mpr hlisted, by decide⟩

end OpenRun
end MeshRouting
