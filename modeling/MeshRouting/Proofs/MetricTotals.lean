import MeshRouting.Report.Metric
import Mathlib.Data.List.Induction
import Mathlib.Tactic.Lemma

/-!
# What the totals come to

A key belongs to one counter or to one gauge. So a counter comes to the number of its records, and
a gauge shows its last one.
-/
namespace MeshRouting.Metric

/-- What a counter has come to; one without a record is at zero. -/
def total (records : List Metric) (key : String) : Nat := ((totals records).find? key).getD 0

def activeClusters? : Metric → Option Nat
  | activeClusters count => some count
  | _ => none

variable {records : List Metric} {m : Metric} {key : String}

/-! ### Keys -/

/-- The characters in which the metric names differ. -/
def initials (key : String) : Option Char × Option Char := (key.toList[4]?, key.toList[13]?)

lemma initials_key (m : Metric) :
    initials m.key = match m with
      | resolverUpdate _ => (some 'r', some 'u')
      | serializationFailure => (some 'r', some 's')
      | activeClusters _ => (some 'r', some 'a')
      | connection _ => (some 'l', some 'c')
      | acceptBackoff => (some 'l', some 'a')
      | serving _ _ => (some 'l', some 's') := by
  cases m <;> simp [initials, Metric.key, labelled]

lemma key_resolverUpdate_inj {kind other : EnvelopeKind}
    (h : (resolverUpdate kind).key = (resolverUpdate other).key) : kind = other := by
  cases kind <;> cases other <;>
    first | rfl | simp [Metric.key, labelled, EnvelopeKind.text] at h

lemma eq_resolverUpdate_of_key {kind : EnvelopeKind} (h : m.key = (resolverUpdate kind).key) :
    m = resolverUpdate kind := by
  have hi := congrArg initials h
  cases m with
  | resolverUpdate other => rw [key_resolverUpdate_inj h]
  | _ => simp [initials_key] at hi

lemma eq_serializationFailure_of_key (h : m.key = serializationFailure.key) :
    m = serializationFailure := by
  have hi := congrArg initials h
  cases m with
  | serializationFailure => rfl
  | _ => simp [initials_key] at hi

lemma key_connection_inj {outcome other : ConnectionOutcome}
    (h : (connection outcome).key = (connection other).key) : outcome = other := by
  cases outcome <;> cases other <;>
    first | rfl | simp [Metric.key, labelled, ConnectionOutcome.text] at h

lemma eq_connection_of_key {outcome : ConnectionOutcome} (h : m.key = (connection outcome).key) :
    m = connection outcome := by
  have hi := congrArg initials h
  cases m with
  | connection other => rw [key_connection_inj h]
  | _ => simp [initials_key] at hi

lemma eq_acceptBackoff_of_key (h : m.key = acceptBackoff.key) : m = acceptBackoff := by
  have hi := congrArg initials h
  cases m with
  | acceptBackoff => rfl
  | _ => simp [initials_key] at hi

lemma key_eq_activeClusters_iff {count : Nat} :
    m.key = (activeClusters count).key ↔ m.activeClusters?.isSome := by
  constructor
  · intro h
    have hi := congrArg initials h
    cases m with
    | activeClusters other => rfl
    | _ => simp [initials_key] at hi
  · intro h
    cases m with
    | activeClusters other => rfl
    | _ => simp [activeClusters?] at h

/-! ### Totals -/

lemma totals_append_singleton (records : List Metric) (m : Metric) :
    totals (records ++ [m]) = record (totals records) m := by
  simp [totals, List.foldl_append]

lemma find?_record (totals : NameMap Nat) (m : Metric) (key : String) :
    (record totals m).find? key =
      if m.key = key
      then some (match m.change with
        | .add amount => (totals.find? key).getD 0 + amount
        | .set value => value)
      else totals.find? key := by
  rw [record, NameMap.find?_insert]
  by_cases h : m.key = key
  · subst h
    cases m.change <;> simp
  · rw [if_neg h, if_neg h]

/-- A counter comes to the number of its records. -/
theorem total_counter (hadd : m.change = .add 1) (hkey : ∀ n : Metric, n.key = m.key → n = m)
    (records : List Metric) : total records m.key = records.count m := by
  induction records using List.reverseRecOn with
  | nil => rfl
  | append_singleton records n ih =>
    rw [total] at ih ⊢
    rw [totals_append_singleton, find?_record, List.count_append, List.count_singleton]
    by_cases h : n.key = m.key
    · obtain rfl := hkey n h
      simp [hadd, ih]
    · have hne : n ≠ m := fun he => h (congrArg Metric.key he)
      simp [h, hne, ih]

/-- The gauge shows the last count that was recorded. -/
theorem find?_activeClusters (records : List Metric) (count : Nat) :
    (totals records).find? (activeClusters count).key =
      (records.filterMap activeClusters?).getLast? := by
  induction records using List.reverseRecOn with
  | nil => rfl
  | append_singleton records n ih =>
    rw [totals_append_singleton, find?_record, ih, List.filterMap_append, List.getLast?_append]
    cases n with
    | activeClusters other => rfl
    | _ => simp [key_eq_activeClusters_iff, activeClusters?]

end MeshRouting.Metric
