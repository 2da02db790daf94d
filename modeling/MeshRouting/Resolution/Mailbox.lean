import MeshRouting.Resolution.Envelope

/-!
# Mailbox

A mailbox keeps the newest unread envelope. Consumers wait until there is one. A wake-up goes to
the consumer that has waited longest, or is stored as a permit where none waits; the next
consumer that finds the mailbox empty uses the permit up and looks once more before it waits.
-/
namespace MeshRouting

/-- Consumers that wait and consumers that are about to look are in order of arrival. -/
structure Mailbox where
  slot : Option Envelope := none
  closed : Bool := false
  permit : Bool := false
  waiting : List Nat := []
  runnable : List Nat := []
  deriving DecidableEq, Repr

namespace Mailbox

/-- Wake the consumer that has waited longest, or store the wake-up. -/
def wakeOne (m : Mailbox) : Mailbox :=
  match m.waiting with
  | [] => { m with permit := true }
  | consumer :: rest => { m with waiting := rest, runnable := m.runnable ++ [consumer] }

theorem wakeOne_slot (m : Mailbox) : m.wakeOne.slot = m.slot := by
  simp only [wakeOne]
  split <;> rfl

theorem wakeOne_closed (m : Mailbox) : m.wakeOne.closed = m.closed := by
  simp only [wakeOne]
  split <;> rfl

/-- Put an envelope in place of an unread one; a closed mailbox takes none. -/
def publish (m : Mailbox) (e : Envelope) : Mailbox × Bool :=
  if m.closed then (m, false) else ({ m with slot := some e }.wakeOne, true)

/-- The unread envelope that a publication would replace. -/
def stale? (m : Mailbox) : Option Envelope := if m.closed then none else m.slot

/-- Ask for the current state to be published again, unless something is unread. -/
def nudge (m : Mailbox) : Mailbox × Bool :=
  if m.closed || m.slot.isSome then (m, false)
  else ({ m with slot := some .republish }.wakeOne, true)

def tryTake (m : Mailbox) : Mailbox × Option Envelope := ({ m with slot := none }, m.slot)

/-- Drop what is unread and wake one consumer; a second call changes nothing. -/
def close (m : Mailbox) : Mailbox :=
  if m.closed then m else { m with closed := true, slot := none }.wakeOne

inductive Look where
  | over
  | taken (e : Envelope)
  | nothing
  deriving DecidableEq, Repr

/-- One look of a consumer; finding nothing uses up the permit. -/
def look (m : Mailbox) : Mailbox × Look :=
  if m.closed then (m, .over)
  else match m.slot with
    | some e => ({ m with slot := none }, .taken e)
    | none => ({ m with permit := false }, .nothing)

/-- A consumer that looks now and waits if there is nothing. -/
def await (m : Mailbox) (consumer : Nat) : Mailbox × Look :=
  match m.look with
  | (m, .nothing) => ({ m with waiting := m.waiting ++ [consumer] }, .nothing)
  | answer => answer

/-- Start a consumer; it looks when its turn comes. -/
def spawn (m : Mailbox) (consumer : Nat) : Mailbox :=
  { m with runnable := m.runnable ++ [consumer] }

def runNext (m : Mailbox) : Mailbox × Option (Nat × Look) :=
  match m.runnable with
  | [] => (m, none)
  | consumer :: rest =>
    let (m, found) := { m with runnable := rest }.await consumer
    (m, some (consumer, found))

end Mailbox
end MeshRouting
