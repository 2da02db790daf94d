import MeshRouting.Resolution.Mailbox
import Mathlib.Data.List.DropRight
import Mathlib.Data.List.Induction
import Mathlib.Tactic.Lemma

/-!
# Runs of a mailbox

A consumer that finds nothing waits in a step of its own, and anything may happen between the two.
A wake-up that comes then is stored for it. So nothing is unread while everyone waits, and what is
taken is the newest envelope that was published since something was taken before.
-/
namespace MeshRouting

namespace Mailbox

/-- One look of a consumer that has not decided to wait yet. -/
def check (m : Mailbox) : Mailbox × Look :=
  if m.closed then (m, .over)
  else match m.slot with
    | some e => ({ m with slot := none }, .taken e)
    | none => (m, .nothing)

/-- Wait, or look again if a wake-up has been stored. -/
def pause (m : Mailbox) (consumer : Nat) : Mailbox :=
  if m.permit then { m with permit := false, runnable := m.runnable ++ [consumer] }
  else { m with waiting := m.waiting ++ [consumer] }

end Mailbox

inductive MailboxEntry where
  | published (e : Envelope) (stored : Bool)
  | nudged (stored : Bool)
  | taken (e : Envelope) (consumer : Option Nat)
  | closed
  | started (consumer : Nat)
  | ended (consumer : Nat)
  deriving DecidableEq, Repr

namespace MailboxEntry

/-- Nothing is unread after such an entry. -/
def empties : MailboxEntry → Bool
  | taken .. | closed => true
  | _ => false

def published? : MailboxEntry → Option Envelope
  | published e true => some e
  | _ => none

/-- How a look is recorded; one that finds nothing is not. -/
def ofLook : Nat × Mailbox.Look → Option MailboxEntry
  | (consumer, .over) => some (ended consumer)
  | (consumer, .taken e) => some (taken e consumer)
  | (_, .nothing) => none

def FinishedBy (consumer : Nat) : MailboxEntry → Bool
  | taken _ (some other) | ended other => other == consumer
  | _ => false

/-- The entries since something was taken or the mailbox was closed. -/
def sinceEmptied (history : List MailboxEntry) : List MailboxEntry :=
  history.rtakeWhile (!·.empties)

/-- What is unread after a history: the last envelope that was published since something was taken,
or the marker if only a nudge was heard since. -/
def unread (history : List MailboxEntry) : Option Envelope :=
  ((sinceEmptied history).filterMap published?).getLast?.or
    (if nudged true ∈ sinceEmptied history then some .republish else none)

variable {history : List MailboxEntry} {entry : MailboxEntry}

lemma sinceEmptied_append_of_empties (h : entry.empties = true) :
    sinceEmptied (history ++ [entry]) = [] :=
  List.rtakeWhile_concat_neg _ _ _ (by simp [h])

lemma sinceEmptied_append (h : entry.empties = false) :
    sinceEmptied (history ++ [entry]) = sinceEmptied history ++ [entry] :=
  List.rtakeWhile_concat_pos _ _ _ (by simp [h])

def Stores (e : Envelope) (entry : MailboxEntry) : Prop :=
  entry = published e true ∨ entry = nudged true ∧ e = .republish

/-- What may come after a history. A closed mailbox takes nothing in and gives nothing out, and it
tells its consumers so; a nudge is let in only if nothing is unread. -/
def Follows (before : List MailboxEntry) : MailboxEntry → Prop
  | published _ stored => stored = true ↔ closed ∉ before
  | nudged stored => stored = true ↔ closed ∉ before ∧ unread before = none
  | taken e _ => closed ∉ before ∧ unread before = some e
  | ended _ => closed ∈ before
  | closed | started _ => True

def Consistent (history : List MailboxEntry) : Prop :=
  ∀ before entry after, history = before ++ entry :: after → entry.Follows before

lemma consistent_append_singleton :
    Consistent (history ++ [entry]) ↔ Consistent history ∧ entry.Follows history := by
  constructor
  · intro h
    refine ⟨fun before other after he => h before other (after ++ [entry]) (by simp [he]), ?_⟩
    exact h history entry [] rfl
  · rintro ⟨h, hlast⟩ before other after he
    rcases List.eq_nil_or_concat after with rfl | ⟨rest, final, rfl⟩
    · obtain ⟨rfl, hsame⟩ := List.append_inj' he rfl
      exact List.singleton_inj.mp hsame ▸ hlast
    · rw [List.concat_eq_append, ← List.cons_append, ← List.append_assoc] at he
      exact h before other rest (List.append_inj' he rfl).1

lemma unread_append_of_empties (h : entry.empties = true) : unread (history ++ [entry]) = none := by
  simp [unread, sinceEmptied_append_of_empties h]

lemma unread_append_published (e : Envelope) :
    unread (history ++ [published e true]) = some e := by
  rw [unread, sinceEmptied_append rfl]
  simp [published?]

lemma unread_append_nudged (h : unread history = none) :
    unread (history ++ [nudged true]) = some .republish := by
  have hnone := (Option.or_eq_none_iff.mp h).1
  rw [unread, sinceEmptied_append rfl, List.filterMap_append, List.getLast?_append, hnone]
  simp [published?]

lemma unread_append_of_quiet (h : entry.empties = false) (hp : entry.published? = none)
    (hn : entry ≠ nudged true) : unread (history ++ [entry]) = unread history := by
  rw [unread, sinceEmptied_append h, unread]
  simp [List.filterMap_append, hp, hn.symm]

lemma unread_append_of_stores {e : Envelope} (h : entry.Stores e)
    (hn : entry = nudged true → unread history = none) : unread (history ++ [entry]) = some e := by
  obtain rfl | ⟨rfl, rfl⟩ := h
  · exact unread_append_published e
  · exact unread_append_nudged (hn rfl)

lemma unread_append_of_not_stores (h : entry.empties = false) (hs : ∀ e, ¬ entry.Stores e) :
    unread (history ++ [entry]) = unread history := by
  refine unread_append_of_quiet h ?_ fun he => hs .republish (.inr ⟨he, rfl⟩)
  cases entry with
  | published e stored =>
    cases stored
    · rfl
    · exact absurd (.inl rfl) (hs e)
  | _ => rfl

/-- What is unread was stored after the last entry that left nothing unread. -/
lemma exists_stores_of_unread {before between : List MailboxEntry} {e : Envelope}
    (hempties : entry.empties = true) (hb : Consistent (before ++ entry :: between))
    (h : unread (before ++ entry :: between) = some e) : ∃ other ∈ between, other.Stores e := by
  induction between using List.reverseRecOn with
  | nil => simp [unread_append_of_empties hempties] at h
  | append_singleton between last ih =>
    rw [← List.cons_append, ← List.append_assoc] at h hb
    obtain ⟨hb, hlast⟩ := consistent_append_singleton.mp hb
    -- either the last entry stored what is unread, or what is unread was so before it
    by_cases hs : ∃ f, last.Stores f
    · obtain ⟨f, hf⟩ := hs
      have hfree : last = nudged true → unread (before ++ entry :: between) = none := by
        rintro rfl
        exact (hlast.mp rfl).2
      rw [unread_append_of_stores hf hfree, Option.some.injEq] at h
      exact ⟨last, by simp, h ▸ hf⟩
    · cases hlastEmpties : last.empties with
      | true =>
        rw [unread_append_of_empties hlastEmpties] at h
        cases h
      | false =>
        rw [unread_append_of_not_stores hlastEmpties (not_exists.mp hs)] at h
        obtain ⟨other, hm, hstores⟩ := ih hb h
        exact ⟨other, by simp [hm], hstores⟩

end MailboxEntry

inductive MailboxEvent where
  | publish (e : Envelope)
  | nudge
  | tryTake
  | close
  | spawn (consumer : Nat)
  | look (consumer : Nat)
  | wait (consumer : Nat)
  deriving DecidableEq, Repr

/-- A consumer does something. -/
def MailboxEvent.IsTurn : MailboxEvent → Prop
  | look _ | wait _ => True
  | _ => False

/-- A mailbox with the consumers that have found nothing and do not wait yet. -/
structure MailboxRun where
  mailbox : Mailbox
  undecided : List Nat
  history : List MailboxEntry
  deriving Repr

namespace MailboxRun

open MailboxEntry

def start : MailboxRun := ⟨{}, [], []⟩

/-- A consumer that is about to look does so. -/
def look (run : MailboxRun) (c : Nat) : MailboxRun :=
  match { run.mailbox with runnable := run.mailbox.runnable.erase c }.check with
  | (mailbox, .over) => { run with mailbox, history := run.history ++ [.ended c] }
  | (mailbox, .taken e) => { run with mailbox, history := run.history ++ [.taken e (some c)] }
  | (mailbox, .nothing) => { run with mailbox, undecided := run.undecided ++ [c] }

/-- A consumer that has found nothing waits, or is about to look again. -/
def wait (run : MailboxRun) (c : Nat) : MailboxRun :=
  { run with mailbox := run.mailbox.pause c, undecided := run.undecided.erase c }

def next (run : MailboxRun) : MailboxEvent → MailboxRun
  | .publish e =>
    let (mailbox, stored) := run.mailbox.publish e
    { run with mailbox, history := run.history ++ [.published e stored] }
  | .nudge =>
    let (mailbox, stored) := run.mailbox.nudge
    { run with mailbox, history := run.history ++ [.nudged stored] }
  | .tryTake =>
    let (mailbox, found) := run.mailbox.tryTake
    { run with mailbox, history := run.history ++ (found.map (.taken · none)).toList }
  | .close => { run with mailbox := run.mailbox.close, history := run.history ++ [.closed] }
  | .spawn c => { run with mailbox := run.mailbox.spawn c, history := run.history ++ [.started c] }
  | .look c => if c ∈ run.mailbox.runnable then run.look c else run
  | .wait c => if c ∈ run.undecided then run.wait c else run

def extend (run : MailboxRun) (events : List MailboxEvent) : MailboxRun := events.foldl next run

def of (events : List MailboxEvent) : MailboxRun := start.extend events

/-- Every consumer waits or is done. -/
def Settled (run : MailboxRun) : Prop := run.mailbox.runnable = [] ∧ run.undecided = []

variable {run : MailboxRun}

/-- The turn of a consumer is a look, a pause, and if a wake-up was stored the same once more. -/
theorem extend_turn {c : Nat} {rest : List Nat} (hu : run.undecided = [])
    (hr : run.mailbox.runnable = c :: rest) (hc : c ∉ rest) :
    run.extend [.look c, .wait c, .look c, .wait c] =
      ⟨run.mailbox.runNext.1, [],
        run.history ++ (run.mailbox.runNext.2.bind MailboxEntry.ofLook).toList⟩ := by
  obtain ⟨⟨slot, closed, permit, waiting, runnable⟩, undecided, history⟩ := run
  obtain rfl : undecided = [] := hu
  obtain rfl : runnable = c :: rest := hr
  cases closed <;> cases slot <;> cases permit <;>
    simp [extend, next, look, wait, Mailbox.check, Mailbox.pause, Mailbox.runNext, Mailbox.await,
      Mailbox.look, MailboxEntry.ofLook, hc, List.erase_append_right]

/-! ### What a run keeps -/

/-- What an event comes to. -/
inductive Moves (run : MailboxRun) : MailboxRun → Prop
  | rest : Moves run run
  | store {e : Envelope} {entry : MailboxEntry} (isOpen : run.mailbox.closed = false)
      (stores : entry.Stores e) (free : entry = .nudged true → run.mailbox.slot = none) :
      Moves run ⟨{ run.mailbox with slot := some e }.wakeOne, run.undecided,
        run.history ++ [entry]⟩
  | refuse {entry : MailboxEntry}
      (h : (∃ e, entry = .published e false ∧ run.mailbox.closed = true) ∨
        entry = .nudged false ∧ (run.mailbox.closed = true ∨ run.mailbox.slot ≠ none)) :
      Moves run ⟨run.mailbox, run.undecided, run.history ++ [entry]⟩
  | take {e : Envelope} (slot : run.mailbox.slot = some e) :
      Moves run ⟨{ run.mailbox with slot := none }, run.undecided,
        run.history ++ [.taken e none]⟩
  | shut (isOpen : run.mailbox.closed = false) :
      Moves run ⟨{ run.mailbox with closed := true, slot := none }.wakeOne, run.undecided,
        run.history ++ [.closed]⟩
  | shutAgain (closed : run.mailbox.closed = true) :
      Moves run ⟨run.mailbox, run.undecided, run.history ++ [.closed]⟩
  | begin (c : Nat) :
      Moves run ⟨run.mailbox.spawn c, run.undecided, run.history ++ [.started c]⟩
  | finish {c : Nat} (closed : run.mailbox.closed = true) (turn : c ∈ run.mailbox.runnable) :
      Moves run ⟨{ run.mailbox with runnable := run.mailbox.runnable.erase c }, run.undecided,
        run.history ++ [.ended c]⟩
  | find {c : Nat} {e : Envelope} (isOpen : run.mailbox.closed = false)
      (slot : run.mailbox.slot = some e) (turn : c ∈ run.mailbox.runnable) :
      Moves run ⟨{ run.mailbox with slot := none, runnable := run.mailbox.runnable.erase c },
        run.undecided, run.history ++ [.taken e (some c)]⟩
  | miss {c : Nat} (isOpen : run.mailbox.closed = false) (slot : run.mailbox.slot = none)
      (turn : c ∈ run.mailbox.runnable) :
      Moves run ⟨{ run.mailbox with runnable := run.mailbox.runnable.erase c },
        run.undecided ++ [c], run.history⟩
  | again {c : Nat} (turn : c ∈ run.undecided) (permit : run.mailbox.permit = true) :
      Moves run ⟨{ run.mailbox with
        permit := false, runnable := run.mailbox.runnable ++ [c] }, run.undecided.erase c,
        run.history⟩
  | wait {c : Nat} (turn : c ∈ run.undecided) (permit : run.mailbox.permit = false) :
      Moves run ⟨{ run.mailbox with waiting := run.mailbox.waiting ++ [c] },
        run.undecided.erase c, run.history⟩

theorem moves_next (run : MailboxRun) (event : MailboxEvent) : run.Moves (run.next event) := by
  obtain ⟨⟨slot, closed, permit, waiting, runnable⟩, undecided, history⟩ := run
  cases event with
  | publish e =>
    cases closed
    · exact .store rfl (.inl rfl) nofun
    · exact .refuse (.inl ⟨e, rfl, rfl⟩)
  | nudge =>
    cases closed
    · cases slot
      · exact .store rfl (.inr ⟨rfl, rfl⟩) fun _ => rfl
      · exact .refuse (.inr ⟨rfl, .inr nofun⟩)
    · exact .refuse (.inr ⟨rfl, .inl rfl⟩)
  | tryTake =>
    cases slot
    · simpa [MailboxRun.next, Mailbox.tryTake] using Moves.rest
    · exact .take rfl
  | close =>
    cases closed
    · exact .shut rfl
    · exact .shutAgain rfl
  | spawn c => exact .begin c
  | look c =>
    by_cases hc : c ∈ runnable
    · simp only [MailboxRun.next, hc, if_true]
      cases closed
      · cases slot
        · exact .miss rfl rfl hc
        · exact .find rfl rfl hc
      · exact .finish rfl hc
    · simpa only [MailboxRun.next, hc, if_false] using Moves.rest
  | wait c =>
    by_cases hc : c ∈ undecided
    · simp only [MailboxRun.next, hc, if_true]
      cases permit
      · exact .wait hc rfl
      · exact .again hc rfl
    · simpa only [MailboxRun.next, hc, if_false] using Moves.rest

/-- What is unread follows from the history, and whoever might wait for it is about to look or has a
wake-up stored. -/
structure Kept (run : MailboxRun) : Prop where
  slot : run.mailbox.slot = unread run.history
  closed : run.mailbox.closed = true ↔ .closed ∈ run.history
  shut : run.mailbox.closed = true → run.mailbox.slot = none
  consistent : Consistent run.history
  awaited : run.mailbox.slot ≠ none → run.mailbox.runnable ≠ [] ∨
    run.mailbox.waiting = [] ∧ (run.undecided ≠ [] → run.mailbox.permit = true)

lemma kept_start : start.Kept where
  slot := rfl
  closed := by simp [start]
  shut := fun _ => rfl
  consistent := by
    intro before entry after h
    simp [start] at h
  awaited := fun h => absurd rfl h

/-- A wake-up goes to somebody who waits, or it is stored. -/
lemma awaited_wakeOne (m : Mailbox) :
    m.wakeOne.runnable ≠ [] ∨ m.wakeOne.waiting = [] ∧ m.wakeOne.permit = true := by
  cases hw : m.waiting with
  | nil => exact .inr (by simp [Mailbox.wakeOne, hw])
  | cons c rest => exact .inl (by simp [Mailbox.wakeOne, hw])

/-- Who waits, and who is about to look, is not in the history. -/
lemma Kept.withConsumers (h : run.Kept) {mailbox : Mailbox} {undecided : List Nat}
    (hslot : mailbox.slot = run.mailbox.slot) (hclosed : mailbox.closed = run.mailbox.closed)
    (hawaited : mailbox.slot ≠ none → mailbox.runnable ≠ [] ∨
      mailbox.waiting = [] ∧ (undecided ≠ [] → mailbox.permit = true)) :
    Kept ⟨mailbox, undecided, run.history⟩ where
  slot := hslot.trans h.slot
  closed := by rw [← h.closed, hclosed]
  shut := by
    rw [hslot, hclosed]
    exact h.shut
  consistent := h.consistent
  awaited := hawaited

lemma Kept.record (h : run.Kept) {entry : MailboxEntry} (hempties : entry.empties = false)
    (hstores : ∀ e, ¬ entry.Stores e) (hf : entry.Follows run.history) :
    Kept ⟨run.mailbox, run.undecided, run.history ++ [entry]⟩ where
  slot := by rw [unread_append_of_not_stores hempties hstores, h.slot]
  closed := by
    have hne : MailboxEntry.closed ≠ entry := by
      rintro rfl
      cases hempties
    simpa [hne] using h.closed
  shut := h.shut
  consistent := consistent_append_singleton.mpr ⟨h.consistent, hf⟩
  awaited := h.awaited

lemma Kept.empty (h : run.Kept) {entry : MailboxEntry} {mailbox : Mailbox}
    {undecided : List Nat} (hempties : entry.empties = true) (hf : entry.Follows run.history)
    (hslot : mailbox.slot = none)
    (hclosed : mailbox.closed = true ↔ run.mailbox.closed = true ∨ entry = .closed) :
    Kept ⟨mailbox, undecided, run.history ++ [entry]⟩ where
  slot := by rw [unread_append_of_empties hempties, hslot]
  closed := by simp [hclosed, h.closed, eq_comm]
  shut := fun _ => hslot
  consistent := consistent_append_singleton.mpr ⟨h.consistent, hf⟩
  awaited := fun hs => absurd hslot hs

lemma Kept.store (h : run.Kept) {entry : MailboxEntry} {e : Envelope}
    (isOpen : run.mailbox.closed = false) (stores : entry.Stores e)
    (free : entry = .nudged true → run.mailbox.slot = none) :
    Kept ⟨{ run.mailbox with slot := some e }.wakeOne, run.undecided, run.history ++ [entry]⟩ := by
  have hopen : .closed ∉ run.history := by
    rw [← h.closed, isOpen]
    exact Bool.false_ne_true
  rw [h.slot] at free
  have hne : MailboxEntry.closed ≠ entry := by
    rintro rfl
    obtain hs | ⟨hs, -⟩ := stores <;> cases hs
  refine ⟨?_, ?_, ?_, ?_, ?_⟩
  · rw [unread_append_of_stores stores free, Mailbox.wakeOne_slot]
  · simpa [Mailbox.wakeOne_closed, hne] using h.closed
  · intro hc
    rw [Mailbox.wakeOne_closed, isOpen] at hc
    cases hc
  · refine consistent_append_singleton.mpr ⟨h.consistent, ?_⟩
    obtain rfl | ⟨rfl, rfl⟩ := stores
    · exact iff_of_true rfl hopen
    · exact iff_of_true rfl ⟨hopen, free rfl⟩
  · intro _
    exact (awaited_wakeOne _).imp_right fun hw => ⟨hw.1, fun _ => hw.2⟩

lemma Kept.moves {after : MailboxRun} (h : run.Kept) (hm : run.Moves after) : after.Kept := by
  have hopen : run.mailbox.closed = false ↔ .closed ∉ run.history := by
    rw [← h.closed, Bool.not_eq_true]
  have hstores : ∀ {entry : MailboxEntry} {e : Envelope}, entry.Stores e →
      (∃ f, entry = .published f true) ∨ entry = .nudged true := by
    rintro entry e (hs | ⟨hs, -⟩)
    · exact .inl ⟨e, hs⟩
    · exact .inr hs
  cases hm with
  | rest => exact h
  | store isOpen stores free => exact h.store isOpen stores free
  | refuse hr =>
    obtain ⟨e, rfl, hc⟩ | ⟨rfl, hn⟩ := hr
    · refine h.record rfl (fun f hs => by simpa using hstores hs) ?_
      exact iff_of_false Bool.false_ne_true (not_not_intro (h.closed.mp hc))
    · refine h.record rfl (fun f hs => by simpa using hstores hs) ?_
      refine iff_of_false Bool.false_ne_true ?_
      rintro ⟨hnot, hnone⟩
      rw [h.slot] at hn
      obtain hc | hsome := hn
      · exact hnot (h.closed.mp hc)
      · exact hsome hnone
  | take slot =>
    refine h.empty rfl ?_ rfl (by simp)
    refine ⟨hopen.mp ?_, h.slot.symm.trans slot⟩
    by_contra hc
    rw [h.shut (by simpa using hc)] at slot
    cases slot
  | shut isOpen =>
    refine h.empty rfl trivial ?_ ?_
    · rw [Mailbox.wakeOne_slot]
    · simp [Mailbox.wakeOne_closed]
  | shutAgain closed => exact h.empty rfl trivial (h.shut closed) (by simp [closed])
  | begin c =>
    have hf : (MailboxEntry.started c).Follows run.history := trivial
    have hrecord := h.record rfl (fun f hs => by simpa using hstores hs) hf
    exact hrecord.withConsumers rfl rfl fun _ => .inl (by simp [Mailbox.spawn])
  | @finish c closed turn =>
    have hf : (MailboxEntry.ended c).Follows run.history := h.closed.mp closed
    have hrecord := h.record rfl (fun f hs => by simpa using hstores hs) hf
    exact hrecord.withConsumers rfl rfl fun hs => absurd (h.shut closed) hs
  | find isOpen slot turn =>
    exact h.empty rfl ⟨hopen.mp isOpen, h.slot.symm.trans slot⟩ rfl (by simp)
  | miss isOpen slot turn => exact h.withConsumers rfl rfl fun hs => absurd slot hs
  | again turn permit => exact h.withConsumers rfl rfl fun _ => .inl (by simp)
  | wait turn permit =>
    refine h.withConsumers rfl rfl fun hs => ?_
    obtain hr | ⟨-, hp⟩ := h.awaited hs
    · exact .inl hr
    · rw [hp (List.ne_nil_of_mem turn)] at permit
      cases permit

theorem kept_extend (h : run.Kept) (events : List MailboxEvent) : (run.extend events).Kept := by
  induction events generalizing run with
  | nil => exact h
  | cons event rest ih => exact ih (h.moves (moves_next run event))

/-! ### Consumers -/

/-- Everyone who has started is about to look, has found nothing, waits, or has finished. -/
def Counted (run : MailboxRun) (c : Nat) : Prop :=
  run.history.count (.started c) = run.mailbox.runnable.count c + run.undecided.count c +
    run.mailbox.waiting.count c + run.history.countP (MailboxEntry.FinishedBy c)

lemma counted_start (c : Nat) : start.Counted c := by simp [Counted, start]

lemma count_wakeOne (m : Mailbox) (c : Nat) :
    m.wakeOne.runnable.count c + m.wakeOne.waiting.count c =
      m.runnable.count c + m.waiting.count c := by
  cases hw : m.waiting with
  | nil => simp [Mailbox.wakeOne, hw]
  | cons other rest =>
    simp only [Mailbox.wakeOne, hw, List.count_append, List.count_cons, List.count_nil]
    omega

lemma count_erase_add {consumers : List Nat} {other : Nat} (h : other ∈ consumers) (c : Nat) :
    (consumers.erase other).count c + [other].count c = consumers.count c := by
  rw [(List.perm_cons_erase h).count_eq c, List.count_cons, List.count_cons, List.count_nil,
    Nat.zero_add]

lemma count_started_append {history : List MailboxEntry} {entry : MailboxEntry} {c : Nat}
    (h : entry ≠ .started c) :
    (history ++ [entry]).count (.started c) = history.count (.started c) := by
  rw [List.count_append, List.count_singleton, if_neg (by simpa using h), Nat.add_zero]

/-- What is recorded concerns nobody, and those inside are moved about at most. -/
lemma Counted.record {c : Nat} {mailbox : Mailbox} {entry : MailboxEntry} (h : run.Counted c)
    (hstarted : entry ≠ .started c) (hfinished : entry.FinishedBy c = false)
    (hsame : mailbox.runnable.count c + mailbox.waiting.count c =
      run.mailbox.runnable.count c + run.mailbox.waiting.count c) :
    Counted ⟨mailbox, run.undecided, run.history ++ [entry]⟩ c := by
  have hfinish : (run.history ++ [entry]).countP (FinishedBy c) =
      run.history.countP (FinishedBy c) := by
    rw [List.countP_append, List.countP_singleton, if_neg (by simp [hfinished]), Nat.add_zero]
  unfold Counted at h ⊢
  dsimp only
  rw [count_started_append hstarted, hfinish]
  omega

/-- A consumer whose turn it is finishes. -/
lemma Counted.leave {c other : Nat} {slot : Option Envelope} {entry : MailboxEntry}
    (h : run.Counted c) (turn : other ∈ run.mailbox.runnable) (hstarted : entry ≠ .started c)
    (hfinished : entry.FinishedBy c = (other == c)) :
    Counted ⟨{ run.mailbox with slot, runnable := run.mailbox.runnable.erase other },
      run.undecided, run.history ++ [entry]⟩ c := by
  have hfinish : (run.history ++ [entry]).countP (FinishedBy c) =
      run.history.countP (FinishedBy c) + [other].count c := by
    rw [List.countP_append, List.countP_singleton, hfinished, List.count_singleton]
  have herase := count_erase_add turn c
  unfold Counted at h ⊢
  dsimp only
  rw [count_started_append hstarted, hfinish]
  omega

lemma Counted.moves {c : Nat} {after : MailboxRun} (h : run.Counted c) (hm : run.Moves after) :
    after.Counted c := by
  cases hm with
  | rest => exact h
  | @store e entry isOpen stores free =>
    have hwoken := count_wakeOne { run.mailbox with slot := some e } c
    obtain rfl | ⟨rfl, -⟩ := stores
    · exact h.record nofun rfl hwoken
    · exact h.record nofun rfl hwoken
  | refuse refused =>
    obtain ⟨e, rfl, -⟩ | ⟨rfl, -⟩ := refused
    · exact h.record nofun rfl rfl
    · exact h.record nofun rfl rfl
  | take slot => exact h.record nofun rfl rfl
  | shut isOpen =>
    exact h.record nofun rfl (count_wakeOne { run.mailbox with closed := true, slot := none } c)
  | shutAgain closed => exact h.record nofun rfl rfl
  | begin other =>
    unfold Counted at h ⊢
    simp only [Mailbox.spawn, List.count_append, List.countP_append, List.count_singleton,
      List.countP_singleton, FinishedBy, beq_iff_eq, started.injEq, Bool.false_eq_true, if_false]
    omega
  | finish closed turn => exact h.leave turn nofun rfl
  | find isOpen slot turn => exact h.leave turn nofun rfl
  | @miss other isOpen slot turn =>
    have herase := count_erase_add turn c
    unfold Counted at h ⊢
    simp only [List.count_append]
    omega
  | @again other turn permit =>
    have herase := count_erase_add turn c
    unfold Counted at h ⊢
    simp only [List.count_append]
    omega
  | @wait other turn permit =>
    have herase := count_erase_add turn c
    unfold Counted at h ⊢
    simp only [List.count_append]
    omega

theorem counted_extend {c : Nat} (h : run.Counted c) (events : List MailboxEvent) :
    (run.extend events).Counted c := by
  induction events generalizing run with
  | nil => exact h
  | cons event rest ih => exact ih (h.moves (moves_next run event))

/-! ### Settling -/

/-- What the consumers still have to do before everyone waits. -/
def work (run : MailboxRun) : Nat :=
  2 * run.mailbox.runnable.length + run.undecided.length + if run.mailbox.permit then 2 else 0

lemma work_look_lt {c : Nat} (hc : c ∈ run.mailbox.runnable) :
    (run.next (.look c)).work < run.work := by
  obtain ⟨⟨slot, closed, permit, waiting, runnable⟩, undecided, history⟩ := run
  have hlength := List.length_erase_of_mem hc
  have hpos := List.length_pos_of_mem hc
  simp only at hc hlength hpos
  simp only [next, hc, if_true, look, Mailbox.check]
  cases closed
  · cases slot <;>
      simp only [work, Bool.false_eq_true, if_false, List.length_append, List.length_singleton] <;>
      omega
  · simp only [work, if_true]
    omega

lemma work_wait_lt {c : Nat} (hc : c ∈ run.undecided) :
    (run.next (.wait c)).work < run.work := by
  obtain ⟨⟨slot, closed, permit, waiting, runnable⟩, undecided, history⟩ := run
  have hlength := List.length_erase_of_mem hc
  have hpos := List.length_pos_of_mem hc
  simp only at hc hlength hpos
  simp only [next, hc, if_true, wait, Mailbox.pause]
  cases permit <;>
    simp only [work, Bool.false_eq_true, if_false, if_true, List.length_append,
      List.length_singleton] <;>
    omega

/-- Whoever takes their turns first, in the end everyone waits or is done. -/
lemma exists_settled (run : MailboxRun) :
    ∃ turns : List MailboxEvent, (∀ turn ∈ turns, turn.IsTurn) ∧ (run.extend turns).Settled := by
  induction hw : run.work using Nat.strong_induction_on generalizing run with
  | h work ih =>
    subst hw
    have hturn : ∀ event : MailboxEvent, event.IsTurn → (run.next event).work < run.work →
        ∃ turns : List MailboxEvent, (∀ turn ∈ turns, turn.IsTurn) ∧
          (run.extend turns).Settled := by
      intro event hevent hlt
      obtain ⟨turns, hturns, hsettled⟩ := ih _ hlt (run.next event) rfl
      exact ⟨event :: turns, List.forall_mem_cons.mpr ⟨hevent, hturns⟩, hsettled⟩
    cases hr : run.mailbox.runnable with
    | cons c rest => exact hturn (.look c) trivial (work_look_lt (by simp [hr]))
    | nil =>
      cases hu : run.undecided with
      | cons c rest => exact hturn (.wait c) trivial (work_wait_lt (by simp [hu]))
      | nil => exact ⟨[], by simp, hr, hu⟩

/-! ### Closing -/

/-- The mailbox is closed, and the consumer will not wait any more. -/
structure Heeded (run : MailboxRun) (c : Nat) : Prop where
  closed : run.mailbox.closed = true
  waiting : c ∉ run.mailbox.waiting
  undecided : c ∈ run.undecided → run.undecided = [c] ∧ run.mailbox.permit = true

lemma Heeded.moves {c : Nat} {after : MailboxRun} (h : run.Heeded c) (hm : run.Moves after) :
    after.Heeded c := by
  have hopen : run.mailbox.closed ≠ false := by simp [h.closed]
  cases hm with
  | rest | refuse | take | shutAgain | begin | finish => exact ⟨h.closed, h.waiting, h.undecided⟩
  | store isOpen | shut isOpen | find isOpen | miss isOpen => exact absurd isOpen hopen
  | @again other turn permit =>
    -- the stored wake-up goes to the only one that is undecided
    refine ⟨h.closed, h.waiting, fun hc => ?_⟩
    obtain ⟨hu, -⟩ := h.undecided (List.mem_of_mem_erase hc)
    rw [hu, List.mem_singleton] at turn
    simp [hu, turn] at hc
  | @wait other turn permit =>
    have hnot : c ∉ run.undecided := fun hc => by simp [(h.undecided hc).2] at permit
    have hne : c ≠ other := fun he => hnot (he ▸ turn)
    exact ⟨h.closed, by simp [h.waiting, hne], fun hc => absurd (List.mem_of_mem_erase hc) hnot⟩

lemma heeded_extend {c : Nat} (h : run.Heeded c) (events : List MailboxEvent) :
    (run.extend events).Heeded c := by
  induction events generalizing run with
  | nil => exact h
  | cons event rest ih => exact ih (h.moves (moves_next run event))

/-- A consumer is the only one that waits, or is about to while nobody does. -/
def WaitsAlone (run : MailboxRun) (c : Nat) : Prop :=
  run.mailbox.waiting = [c] ∧ c ∉ run.undecided ∨
    run.mailbox.waiting = [] ∧ run.undecided = [c]

/-- A consumer that is about to look, or has not started. -/
def Away (run : MailboxRun) (c : Nat) : Prop := c ∉ run.mailbox.waiting ∧ c ∉ run.undecided

lemma WaitsAlone.count_pos {c : Nat} (h : run.WaitsAlone c) :
    0 < run.mailbox.waiting.count c + run.undecided.count c := by
  rcases h with ⟨hw, -⟩ | ⟨-, hu⟩
  · rw [hw, List.count_singleton_self]
    omega
  · rw [hu, List.count_singleton_self]
    omega

/-- Closing reaches a consumer that waits alone, and whoever does not wait sees it anyway. -/
lemma heeded_close {c : Nat} (hopen : run.mailbox.closed = false)
    (hc : run.WaitsAlone c ∨ run.Away c) : (run.next .close).Heeded c := by
  obtain ⟨⟨slot, closed, permit, waiting, runnable⟩, undecided, history⟩ := run
  obtain rfl : closed = false := hopen
  obtain (⟨hw, hnot⟩ | ⟨hw, hu⟩) | ⟨hw, hnot⟩ := hc
  · obtain rfl : waiting = [c] := hw
    exact ⟨rfl, List.not_mem_nil, fun hu => absurd hu hnot⟩
  · obtain rfl : waiting = [] := hw
    exact ⟨rfl, List.not_mem_nil, fun _ => ⟨hu, rfl⟩⟩
  · cases waiting with
    | nil => exact ⟨rfl, List.not_mem_nil, fun hu => absurd hu hnot⟩
    | cons first rest =>
      exact ⟨rfl, fun hrest => hw (List.mem_cons_of_mem _ hrest), fun hu => absurd hu hnot⟩

lemma history_next (run : MailboxRun) (event : MailboxEvent) :
    ∃ entries, (run.next event).history = run.history ++ entries ∧
      ∀ c, event = .spawn c → .started c ∈ entries := by
  cases event with
  | spawn c => exact ⟨[.started c], rfl, by simp⟩
  | publish e => exact ⟨_, rfl, nofun⟩
  | nudge => exact ⟨_, rfl, nofun⟩
  | tryTake => exact ⟨_, rfl, nofun⟩
  | close => exact ⟨_, rfl, nofun⟩
  | look c =>
    simp only [next]
    split
    · unfold look
      split
      · exact ⟨_, rfl, nofun⟩
      · exact ⟨_, rfl, nofun⟩
      · exact ⟨[], by simp, nofun⟩
    · exact ⟨[], by simp, nofun⟩
  | wait c =>
    simp only [next]
    split
    · exact ⟨[], by simp [wait], nofun⟩
    · exact ⟨[], by simp, nofun⟩

lemma history_extend (run : MailboxRun) (events : List MailboxEvent) :
    ∃ entries, (run.extend events).history = run.history ++ entries ∧
      ∀ c, .spawn c ∈ events → .started c ∈ entries := by
  induction events generalizing run with
  | nil => exact ⟨[], by simp [extend], by simp⟩
  | cons event rest ih =>
    obtain ⟨first, hfirst, hstarted⟩ := history_next run event
    obtain ⟨others, hothers, hlater⟩ := ih (run.next event)
    refine ⟨first ++ others, ?_, fun c hc => ?_⟩
    · rw [← List.append_assoc, ← hfirst]
      exact hothers
    · rcases List.mem_cons.mp hc with he | hc
      · exact List.mem_append_left _ (hstarted c he.symm)
      · exact List.mem_append_right _ (hlater c hc)

/-- A consumer that waits alone when the mailbox is closed, or that starts later, is told so. -/
lemma ended_after_close (hk : run.Kept) {c : Nat} (hcount : run.Counted c)
    (hopen : run.mailbox.closed = false) {more : List MailboxEvent}
    (hc : run.WaitsAlone c ∨ run.Away c ∧ .spawn c ∈ more)
    (hsettled : (run.extend (.close :: more)).Settled) :
    ∃ after, (run.extend (.close :: more)).history = run.history ++ .closed :: after ∧
      .ended c ∈ after := by
  obtain ⟨after, hafter, hstarted⟩ := history_extend (run.next .close) more
  have hhistory : (run.extend (.close :: more)).history = run.history ++ .closed :: after := by
    show ((run.next .close).extend more).history = _
    rw [hafter]
    simp [next]
  refine ⟨after, hhistory, ?_⟩
  have hheeded : (run.extend (.close :: more)).Heeded c :=
    heeded_extend (heeded_close hopen (hc.imp_right And.left)) more
  have hfinal : (run.extend (.close :: more)).Counted c := counted_extend hcount _
  have hfinished : 0 < after.countP (MailboxEntry.FinishedBy c) := by
    have hwaiting := List.count_eq_zero.mpr hheeded.waiting
    simp only [Counted, hhistory, hsettled.1, hsettled.2, hwaiting, List.count_append,
      List.count_cons, List.countP_append, List.countP_cons] at hfinal hcount
    simp only [FinishedBy, beq_iff_eq, reduceCtorEq, Bool.false_eq_true, if_false,
      List.count_nil, Nat.add_zero, Nat.zero_add] at hfinal hcount
    obtain halone | ⟨-, hspawn⟩ := hc
    · have hpos := halone.count_pos
      omega
    · have hpos := List.count_pos_iff.mpr (hstarted c hspawn)
      omega
  obtain ⟨entry, hm, hentry⟩ := List.countP_pos_iff.mp hfinished
  cases entry with
  | ended other =>
    obtain rfl : other = c := by simpa [FinishedBy] using hentry
    exact hm
  | taken e consumer =>
    obtain ⟨first, rest, rfl⟩ := List.append_of_mem hm
    have hfollows := (kept_extend hk (.close :: more)).consistent
      (run.history ++ .closed :: first) (.taken e consumer) rest (by simp [hhistory])
    exact absurd (by simp) hfollows.1
  | _ => cases hentry

/-- What consumers observe, whatever is done in whatever order. When everyone has had their turns,
nobody waits while something is unread. Each entry of the history is one that may come there: what
is taken is what was unread, which is the last envelope that was published since something was taken
before, or else the marker; a nudge is let in only if nothing is unread; and a closed mailbox gives
nothing out and lets nothing in. Between two takes the second envelope was stored, so nothing is
taken twice. Nobody is lost, and all turns come to an end. After closing, a consumer that waited
alone and every one that starts later is told that it is over. -/
theorem newest_unread_reaches_consumer (events : List MailboxEvent) :
    let run := of events
    (run.Settled → run.mailbox.slot ≠ none → run.mailbox.waiting = []) ∧
    run.mailbox.slot = unread run.history ∧
    (∀ before entry after, run.history = before ++ entry :: after → entry.Follows before) ∧
    (∀ before e consumer between other second after,
      run.history = before ++ .taken e consumer :: (between ++ .taken other second :: after) →
      ∃ entry ∈ between, entry.Stores other) ∧
    (∀ c, run.Counted c) ∧
    (∃ turns : List MailboxEvent, (∀ turn ∈ turns, turn.IsTurn) ∧
      (run.extend turns).Settled) ∧
    (∀ more c, run.mailbox.closed = false →
      run.WaitsAlone c ∨ run.Away c ∧ .spawn c ∈ more →
      (run.extend (.close :: more)).Settled →
      ∃ after, (run.extend (.close :: more)).history = run.history ++ .closed :: after ∧
        .ended c ∈ after) := by
  intro run
  have hk : run.Kept := kept_extend kept_start events
  have hcount : ∀ c, run.Counted c := fun c => counted_extend (counted_start c) events
  refine ⟨?_, hk.slot, hk.consistent, ?_, hcount, exists_settled run, ?_⟩
  · rintro ⟨hr, -⟩ hslot
    obtain hbusy | ⟨hw, -⟩ := hk.awaited hslot
    · exact absurd hr hbusy
    · exact hw
  · intro before e consumer between other second after hhistory
    have hsplit : run.history =
        (before ++ .taken e consumer :: between) ++ .taken other second :: after := by
      simp [hhistory]
    have hbefore : Consistent (before ++ .taken e consumer :: between) := by
      intro first entry rest he
      exact hk.consistent first entry (rest ++ .taken other second :: after) (by simp [hsplit, he])
    exact exists_stores_of_unread rfl hbefore (hk.consistent _ _ _ hsplit).2
  · intro more c hopen hc hsettled
    exact ended_after_close hk (hcount c) hopen hc hsettled

end MailboxRun
end MeshRouting
