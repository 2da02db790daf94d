import MeshRouting.Proofs.OpenRuns

/-!
# Mailboxes with one consumer

The worker is the only consumer of its mailbox. As long as the mailbox is open the worker is about
to look, or it waits and nothing is unread; so what is published there is always taken.
-/
namespace MeshRouting

namespace Mailbox

variable {m : Mailbox}

/-- The worker is about to look, or it waits and nothing is unread. -/
def Serves (m : Mailbox) : Prop :=
  m.closed = false ∧ ((m.runnable = [Worker.consumer] ∧ m.waiting = []) ∨
    (m.runnable = [] ∧ m.waiting = [Worker.consumer] ∧ m.slot = none))

/-- What is unread apart from the marker. -/
def update? (m : Mailbox) : Option Envelope := m.slot.filter (· ≠ .republish)

lemma serves_wakeOne (h : m.Serves) (e : Envelope) :
    ({ m with slot := some e }.wakeOne).Serves := by
  obtain ⟨hopen, ⟨hrun, hwait⟩ | ⟨hrun, hwait, -⟩⟩ := h
  · simp [Serves, wakeOne, hopen, hrun, hwait]
  · simp [Serves, wakeOne, hopen, hrun, hwait]

lemma Serves.publish (h : m.Serves) (e : Envelope) : (m.publish e).1.Serves := by
  rw [Mailbox.publish, if_neg (by simp [h.1])]
  exact serves_wakeOne h e

lemma Serves.nudge (h : m.Serves) : m.nudge.1.Serves := by
  simp only [Mailbox.nudge]
  split
  · exact h
  · exact serves_wakeOne h .republish

lemma publish_of_serves (h : m.Serves) (e : Envelope) :
    (m.publish e).1.slot = some e ∧ (m.publish e).1.runnable = [Worker.consumer] := by
  obtain ⟨hopen, ⟨hrun, hwait⟩ | ⟨hrun, hwait, -⟩⟩ := h
  · simp [Mailbox.publish, hopen, wakeOne, hrun, hwait]
  · simp [Mailbox.publish, hopen, wakeOne, hrun, hwait]

lemma Serves.runnable_nudge (h : m.Serves) (hrun : m.runnable = [Worker.consumer]) :
    m.nudge.1.runnable = [Worker.consumer] := by
  obtain ⟨hopen, ⟨-, hwait⟩ | ⟨hnone, -⟩⟩ := h
  · simp only [Mailbox.nudge]
    split
    · exact hrun
    · simp [wakeOne, hrun, hwait]
  · rw [hrun] at hnone
    cases hnone

lemma slot_nudge {e : Envelope} (h : m.nudge.1.slot = some e) :
    e = .republish ∨ m.slot = some e := by
  simp only [Mailbox.nudge] at h
  split at h
  · exact .inr h
  · rw [wakeOne_slot] at h
    exact .inl (Option.some.inj h).symm

lemma update?_nudge (m : Mailbox) : m.nudge.1.update? = m.update? := by
  cases hslot : m.slot with
  | some e => simp [update?, nudge_slot_of_ne_none, hslot]
  | none =>
    simp only [Mailbox.nudge, hslot]
    split
    · rfl
    · simp [update?, wakeOne_slot, hslot]

end Mailbox

namespace Worker

variable {w : Worker}

/-- How a look of the serving worker goes. -/
lemma look_of_serves (h : w.mailbox.Serves) :
    (w.mailbox.runnable = [] ∧ w.mailbox.slot = none ∧ w.look = (w, none)) ∨
    (w.mailbox.slot = none ∧ ∃ mailbox : Mailbox, mailbox.Serves ∧ mailbox.runnable = [] ∧
      mailbox.slot = none ∧ w.look = ({ w with mailbox }, some .nothing)) ∨
    ∃ e, w.mailbox.slot = some e ∧ w.mailbox.runnable = [consumer] ∧
      ∃ mailbox : Mailbox, mailbox.Serves ∧ mailbox.runnable = [consumer] ∧ mailbox.slot = none ∧
      w.look = ({ w with mailbox }, some (.taken e)) := by
  obtain ⟨hopen, ⟨hrun, hwait⟩ | ⟨hrun, hwait, hslot⟩⟩ := h
  · cases hslot : w.mailbox.slot with
    | none =>
      refine .inr (.inl ⟨rfl, _, ?_, ?_, ?_, by
        simp only [look, Mailbox.runNext, hrun, Mailbox.await, Mailbox.look, hopen, hslot]
        rfl⟩)
      · simp [Mailbox.Serves, hwait]
      · rfl
      · rfl
    | some e =>
      refine .inr (.inr ⟨e, rfl, hrun, _, ?_, ?_, ?_, by
        simp only [look, Mailbox.runNext, hrun, Mailbox.await, Mailbox.look, hopen, hslot]
        rfl⟩)
      · simp [Mailbox.Serves, hwait]
      · rfl
      · rfl
  · exact .inl ⟨hrun, hslot, by simp [look, Mailbox.runNext, hrun]⟩

end Worker
end MeshRouting
