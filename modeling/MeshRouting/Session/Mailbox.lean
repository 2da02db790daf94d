import MeshRouting.Resolution.Mailbox
import MeshRouting.Session.Trace

/-!
# Mailbox sessions

A mailbox driven step by step, with consumers that are started along the way and run whenever a
step lets them.
-/
namespace MeshRouting

inductive MailboxOp where
  | publish (e : Envelope)
  | nudge
  | tryTake
  | consume
  | spawnConsume
  | close
  deriving Repr

inductive MailboxAnswer where
  | done
  | flag (value : Bool)
  | taken (e : Option Envelope)
  | looked (found : Mailbox.Look)
  | consumer (number : Nat)
  deriving Repr

structure MailboxSession where
  mailbox : Mailbox := {}
  consumers : Nat := 0
  trace : Trace := {}

/-- What a step shows: its answer, and the consumers that finished in it. -/
structure MailboxStep where
  answer : MailboxAnswer
  closed : Bool
  finished : List (Nat × Option Envelope)
  notices : List Notice

namespace MailboxSession

def perform (s : MailboxSession) : MailboxOp → MailboxSession × MailboxAnswer
  | .publish e =>
    let (mailbox, stored) := s.mailbox.publish e
    let stale := s.mailbox.stale?.map fun stale => .unreadDropped stale.kind
    ({ s with mailbox, trace := s.trace.addNotices stale.toList }, .flag stored)
  | .nudge =>
    let (mailbox, stored) := s.mailbox.nudge
    ({ s with mailbox }, .flag stored)
  | .tryTake =>
    let (mailbox, e) := s.mailbox.tryTake
    ({ s with mailbox }, .taken e)
  | .consume =>
    let (mailbox, found) := s.mailbox.look
    ({ s with mailbox }, .looked found)
  | .spawnConsume =>
    ({ s with mailbox := s.mailbox.spawn s.consumers, consumers := s.consumers + 1 },
      .consumer s.consumers)
  | .close => ({ s with mailbox := s.mailbox.close }, .done)

def finished? : Nat × Mailbox.Look → Option (Nat × Option Envelope)
  | (consumer, .over) => some (consumer, none)
  | (consumer, .taken e) => some (consumer, some e)
  | (_, .nothing) => none

def runConsumers : Nat → Mailbox → Mailbox × List (Nat × Option Envelope)
  | 0, m => (m, [])
  | turns + 1, m =>
    let (m, looked) := m.runNext
    let (m, others) := runConsumers turns m
    (m, (looked.bind finished?).toList ++ others)

/-- One step; with `hold`, no consumer runs in it. Finished consumers are shown by number. -/
def step (s : MailboxSession) (op : MailboxOp) (hold : Bool) : MailboxSession × MailboxStep :=
  let (s, answer) := { s with trace := s.trace.nextStep }.perform op
  let turns := if hold then 0 else s.mailbox.runnable.length
  let (mailbox, finished) := runConsumers turns s.mailbox
  ({ s with mailbox },
    ⟨answer, mailbox.closed, finished.mergeSort (·.1 ≤ ·.1), s.trace.shown⟩)

end MailboxSession
end MeshRouting
