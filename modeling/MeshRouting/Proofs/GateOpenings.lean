import MeshRouting.Proofs.Names
import MeshRouting.Session.Gate
import Mathlib.Data.List.Induction
import Mathlib.Tactic.Lemma

/-!
# When a gate opens

A gate waits for the names that it was made with and that have not been resolved since, whatever
else was asked of it. So it opens at the first request that comes after the last of them, and never
again, and the order in which the names are resolved makes no difference.
-/
namespace MeshRouting

def GateOp.resolved? : GateOp → Option String
  | .resolve name => some name
  | .takeReady => none

namespace GateSession

/-- The names that were resolved, in order; the gate need not have waited for them. -/
def resolved (ops : List GateOp) : List String := ops.filterMap (·.resolved?)

def after (gate : ReadinessGate) (ops : List GateOp) : ReadinessGate :=
  ops.foldl (fun gate op => (perform gate op).1) gate

/-- How many requests to open the gate succeed. -/
def openings (gate : ReadinessGate) (ops : List GateOp) : Nat :=
  (ops.zip (steps gate ops)).countP fun (op, step) =>
    op.resolved?.isNone && step.answer == some true

/-- A request to open the gate came when all names had been resolved. -/
def Opened (names : List String) (ops : List GateOp) : Prop :=
  ∃ earlier later, ops = earlier ++ .takeReady :: later ∧ names ⊆ resolved earlier

variable {generation : Nat} {names : List String} {gate : ReadinessGate} {name : String}
  {ops others : List GateOp} {op : GateOp}

/-! ### One operation more -/

lemma after_append_singleton :
    after gate (ops ++ [op]) = (perform (after gate ops) op).1 := by
  simp [after, List.foldl_append]

lemma steps_append_singleton :
    steps gate (ops ++ [op]) = steps gate ops ++
      [⟨some (perform (after gate ops) op).2, (perform (after gate ops) op).1⟩] := by
  induction ops generalizing gate with
  | nil => rfl
  | cons first rest ih => simp only [List.cons_append, steps, after, List.foldl_cons, ih]

lemma length_steps : (steps gate ops).length = ops.length := by
  induction ops generalizing gate with
  | nil => rfl
  | cons first rest ih => simp [steps, ih]

lemma openings_append_singleton :
    openings gate (ops ++ [op]) = openings gate ops +
      if op.resolved?.isNone && (perform (after gate ops) op).2 then 1 else 0 := by
  rw [openings, steps_append_singleton, List.zip_append length_steps.symm, List.countP_append,
    ← openings]
  simp [List.countP_singleton]

lemma resolved_append_resolve : resolved (ops ++ [.resolve name]) = resolved ops ++ [name] := by
  simp [resolved, GateOp.resolved?]

lemma resolved_append_takeReady : resolved (ops ++ [.takeReady]) = resolved ops := by
  simp [resolved, GateOp.resolved?]

lemma Opened.subset (h : Opened names ops) : names ⊆ resolved ops := by
  obtain ⟨earlier, later, rfl, hsub⟩ := h
  intro name hm
  rw [resolved, List.filterMap_append]
  exact List.mem_append_left _ (hsub hm)

lemma opened_append_resolve : Opened names (ops ++ [.resolve name]) ↔ Opened names ops := by
  constructor
  · rintro ⟨earlier, later, he, hsub⟩
    rcases List.eq_nil_or_concat later with rfl | ⟨rest, last, rfl⟩
    · simp at he
    · rw [List.concat_eq_append, ← List.cons_append, ← List.append_assoc] at he
      exact ⟨earlier, rest, (List.append_inj' he rfl).1, hsub⟩
  · rintro ⟨earlier, later, rfl, hsub⟩
    exact ⟨earlier, later ++ [.resolve name], by simp, hsub⟩

lemma opened_append_takeReady : Opened names (ops ++ [.takeReady]) ↔ names ⊆ resolved ops := by
  constructor
  · intro h
    have hsub := h.subset
    rwa [resolved_append_takeReady] at hsub
  · intro hsub
    exact ⟨ops, [], rfl, hsub⟩

/-! ### Every session -/

/-- The gate is as the operations so far make it. -/
structure Tells (gate : ReadinessGate) (names : List String) (ops : List GateOp) : Prop where
  outstanding : ∀ name, name ∈ gate.outstanding ↔ name ∈ names ∧ name ∉ resolved ops
  fired : gate.fired = true ↔ Opened names ops

lemma tells_make : Tells (ReadinessGate.make generation names) names [] where
  outstanding name := by simp [ReadinessGate.make, resolved]
  fired := by simp [ReadinessGate.make, Opened]

lemma Tells.isEmpty_iff (h : Tells gate names ops) :
    gate.outstanding.isEmpty = true ↔ names ⊆ resolved ops := by
  simp only [NameSet.isEmpty_eq_true_iff, h.outstanding, not_and, not_not]
  rfl

lemma takeReady_eq (gate : ReadinessGate) :
    gate.takeReady =
      ({ gate with fired := gate.fired || gate.outstanding.isEmpty },
        !gate.fired && gate.outstanding.isEmpty) := by
  obtain ⟨generation, outstanding, fired⟩ := gate
  cases fired <;> cases he : outstanding.isEmpty <;> simp [ReadinessGate.takeReady, he]

lemma Tells.perform (h : Tells gate names ops) (op : GateOp) :
    Tells (perform gate op).1 names (ops ++ [op]) := by
  cases op with
  | resolve name =>
    refine ⟨fun other => ?_, ?_⟩
    · show other ∈ gate.outstanding.erase name ↔ _
      rw [NameSet.mem_erase, h.outstanding, resolved_append_resolve, List.mem_append,
        List.mem_singleton, not_or, and_assoc]
    · rw [opened_append_resolve]
      exact h.fired
  | takeReady =>
    rw [GateSession.perform, takeReady_eq]
    refine ⟨fun other => ?_, ?_⟩
    · rw [resolved_append_takeReady]
      exact h.outstanding other
    · rw [opened_append_takeReady, Bool.or_eq_true, h.fired, h.isEmpty_iff]
      exact or_iff_right_of_imp Opened.subset

theorem tells_after (generation : Nat) (names : List String) (ops : List GateOp) :
    Tells (after (ReadinessGate.make generation names) ops) names ops := by
  induction ops using List.reverseRecOn with
  | nil => exact tells_make
  | append_singleton ops op ih =>
    rw [after_append_singleton]
    exact ih.perform op

lemma generation_after (gate : ReadinessGate) (ops : List GateOp) :
    (after gate ops).generation = gate.generation := by
  induction ops using List.reverseRecOn with
  | nil => rfl
  | append_singleton ops op ih =>
    rw [after_append_singleton, ← ih]
    cases op with
    | resolve name => rfl
    | takeReady => rw [perform, takeReady_eq]

/-- The flag of the gate keeps count: it is set by the one request that succeeds. -/
lemma openings_add_fired (gate : ReadinessGate) (ops : List GateOp) :
    openings gate ops + gate.fired.toNat = (after gate ops).fired.toNat := by
  induction ops using List.reverseRecOn with
  | nil => simp [openings, steps, after]
  | append_singleton ops op ih =>
    rw [openings_append_singleton, after_append_singleton]
    cases op with
    | resolve name =>
      rw [show (perform (after gate ops) (.resolve name)).1.fired = (after gate ops).fired from rfl,
        ← ih]
      rfl
    | takeReady =>
      have hset : ∀ fired empty : Bool,
          fired.toNat + (if !fired && empty then 1 else 0) = (fired || empty).toNat := by decide
      rw [perform, takeReady_eq, Nat.add_right_comm, ih]
      exact hset _ _

lemma Tells.size_outstanding (h : Tells gate names ops) :
    gate.outstanding.size = (names.toFinset \ (resolved ops).toFinset).card :=
  NameSet.size_eq_card fun name => by simp [h.outstanding name]

/-- What a gate waits for is made out by which names were resolved, in whatever order. -/
lemma Tells.outstanding_eq {other : ReadinessGate} (h : Tells gate names ops)
    (ho : Tells other names others) (hp : (resolved others).Perm (resolved ops)) :
    other.outstanding = gate.outstanding :=
  NameSet.eq_of_mem_iff fun name => by rw [ho.outstanding, h.outstanding, hp.mem_iff]

/-- Where the same names were resolved, in whatever order, two gates that have both been opened or
both not are the same. -/
lemma Tells.eq_of_perm {other : ReadinessGate} (h : Tells gate names ops)
    (ho : Tells other names others) (hgeneration : other.generation = gate.generation)
    (hp : (resolved others).Perm (resolved ops))
    (hopened : Opened names others ↔ Opened names ops) : other = gate := by
  have houtstanding := h.outstanding_eq ho hp
  have hfired : other.fired = gate.fired := by
    rw [Bool.eq_iff_iff, ho.fired, h.fired, hopened]
  obtain ⟨generation, outstanding, fired⟩ := gate
  obtain ⟨_, _, _⟩ := other
  cases hgeneration
  cases houtstanding
  cases hfired
  rfl

/-- Whatever a gate has been asked so far, resolving a name succeeds just if the name is waited for
and was not resolved before, so many names are outstanding as there are of those, and a request to
open succeeds just if all names were resolved and no request has come since they were. A gate that
was opened stays so, and is opened once at most. If the same names are resolved in another order,
the same names are outstanding, and with a request at the end the gate is the same and has been
opened as often, wherever the other requests came. -/
theorem opens_once (generation : Nat) (names : List String) (ops : List GateOp) :
    let start := ReadinessGate.make generation names
    let gate := after start ops
    gate.generation = generation ∧
    (∀ name, (gate.resolve name).2 = true ↔ name ∈ names ∧ name ∉ resolved ops) ∧
    gate.outstanding.size = (names.toFinset \ (resolved ops).toFinset).card ∧
    (gate.takeReady.2 = true ↔ names ⊆ resolved ops ∧ ¬ Opened names ops) ∧
    (gate.fired = true ↔ Opened names ops) ∧
    openings start ops = (if gate.fired then 1 else 0) ∧
    ∀ others, (resolved others).Perm (resolved ops) →
      (after start others).outstanding = gate.outstanding ∧
      after start (others ++ [.takeReady]) = after start (ops ++ [.takeReady]) ∧
      openings start (others ++ [.takeReady]) = openings start (ops ++ [.takeReady]) := by
  intro start gate
  have h : Tells gate names ops := tells_after generation names ops
  have hopenings : ∀ all, openings start all = (after start all).fired.toNat :=
    openings_add_fired start
  refine ⟨generation_after start ops, fun name => ?_, h.size_outstanding, ?_, h.fired, ?_,
    fun others hp => ?_⟩
  · rw [← h.outstanding]
    exact decide_eq_true_iff
  · rw [takeReady_eq, Bool.and_eq_true, h.isEmpty_iff, Bool.not_eq_true', ← Bool.not_eq_true,
      h.fired, and_comm]
  · rw [hopenings]
    show gate.fired.toNat = _
    cases gate.fired <;> rfl
  · have ho : Tells (after start others) names others := tells_after generation names others
    have hsame : after start (others ++ [.takeReady]) = after start (ops ++ [.takeReady]) := by
      have hlast := tells_after generation names (ops ++ [.takeReady])
      refine hlast.eq_of_perm (tells_after generation names (others ++ [.takeReady])) ?_ ?_ ?_
      · rw [generation_after, generation_after]
      · simpa only [resolved_append_takeReady] using hp
      · rw [opened_append_takeReady, opened_append_takeReady]
        exact ⟨fun hsub _ hm => hp.subset (hsub hm), fun hsub _ hm => hp.symm.subset (hsub hm)⟩
    refine ⟨h.outstanding_eq ho hp, hsame, ?_⟩
    rw [hopenings, hopenings, hsame]

/-- A request that comes too early, a name that is not waited for, one that is resolved again. -/
def interleaved : List GateOp :=
  [.takeReady, .resolve "b", .resolve "c", .takeReady, .resolve "a", .takeReady, .resolve "a"]

def reordered : List GateOp :=
  [.resolve "a", .resolve "c", .resolve "a", .takeReady, .resolve "b"]

theorem reordered_opens_once :
    let start := ReadinessGate.make 3 ["b", "a", "b"]
    (resolved reordered).Perm (resolved interleaved) ∧
    (after start interleaved).outstanding.size = 0 ∧ openings start interleaved = 1 ∧
    (after start reordered).outstanding = (after start interleaved).outstanding ∧
    after start (reordered ++ [.takeReady]) = after start (interleaved ++ [.takeReady]) := by
  intro start
  have hp : (resolved reordered).Perm (resolved interleaved) := by decide
  obtain ⟨-, -, hsize, -, -, hopenings, horder⟩ := opens_once 3 ["b", "a", "b"] interleaved
  obtain ⟨houtstanding, hsame, -⟩ := horder reordered hp
  exact ⟨hp, hsize.trans (by decide), hopenings.trans (by decide), houtstanding, hsame⟩

end GateSession
end MeshRouting
