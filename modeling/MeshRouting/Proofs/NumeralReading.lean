import MeshRouting.Text.Numeral
import Mathlib.Algebra.Order.Ring.Nat
import Mathlib.Data.List.Basic
import Mathlib.Data.List.Induction
import Mathlib.Data.List.TakeWhile
import Mathlib.Tactic.Lemma
import Mathlib.Tactic.Ring

/-!
# Reading numerals

A numeral is read back as the number that it was written from, whatever stands behind it, as long
as that is no digit. A number is made up of its low digits, as many as it needs.
-/
namespace MeshRouting.Text

variable {base n : Nat} {rest : List Char}

/-! ### Digits -/

lemma ofDigits_append_singleton (base : Nat) (ds : List Nat) (d : Nat) :
    ofDigits base (ds ++ [d]) = ofDigits base ds * base + d := by
  rw [ofDigits, List.foldl_append]
  rfl

lemma ofDigits_append (base : Nat) (ds es : List Nat) :
    ofDigits base (ds ++ es) = ofDigits base ds * base ^ es.length + ofDigits base es := by
  induction es using List.reverseRecOn with
  | nil => simp [ofDigits]
  | append_singleton es e ih =>
    rw [← List.append_assoc, ofDigits_append_singleton, ih, ofDigits_append_singleton,
      List.length_append, List.length_singleton, pow_succ]
    ring

lemma digits_of_lt (h : n < base) : digits base n = [n] := by
  rw [digits, if_pos (.inr h)]

lemma digits_of_le (hbase : 1 < base) (h : base ≤ n) :
    digits base n = digits base (n / base) ++ [n % base] := by
  rw [digits, if_neg (by omega)]

/-- Induction on the digits of a number: it has one, or one more than the number without it. -/
lemma digits_induction {P : Nat → Prop} (hbase : 1 < base) (single : ∀ n < base, P n)
    (more : ∀ n, base ≤ n → P (n / base) → P n) (n : Nat) : P n := by
  induction n using Nat.strong_induction_on with
  | _ n ih =>
    by_cases h : n < base
    · exact single n h
    · have hle := Nat.not_lt.mp h
      exact more n hle (ih _ (Nat.div_lt_self (by omega) hbase))

lemma ofDigits_digits (hbase : 1 < base) (n : Nat) : ofDigits base (digits base n) = n := by
  induction n using digits_induction hbase with
  | single n h => simp [digits_of_lt h, ofDigits]
  | more n h ih =>
    rw [digits_of_le hbase h, ofDigits_append_singleton, ih]
    exact Nat.div_add_mod' n base

lemma lt_of_mem_digits (hbase : 1 < base) (n : Nat) : ∀ d ∈ digits base n, d < base := by
  induction n using digits_induction hbase with
  | single n h => simpa [digits_of_lt h] using h
  | more n h ih =>
    rw [digits_of_le hbase h]
    intro d hd
    rcases List.mem_append.mp hd with hd | hd
    · exact ih d hd
    · rw [List.mem_singleton.mp hd]
      exact Nat.mod_lt _ (by omega)

lemma digits_ne_nil (base n : Nat) : digits base n ≠ [] := by
  rw [digits]
  split <;> simp

lemma length_digits_le (hbase : 1 < base) {count : Nat} (hcount : 0 < count)
    (h : n < base ^ count) : (digits base n).length ≤ count := by
  induction n using digits_induction hbase generalizing count with
  | single n hn =>
    rw [digits_of_lt hn]
    exact hcount
  | more n hn ih =>
    rw [digits_of_le hbase hn, List.length_append, List.length_singleton]
    obtain ⟨count, rfl⟩ : ∃ fewer, count = fewer + 1 := Nat.exists_eq_succ_of_ne_zero (by omega)
    have hfewer : 0 < count := by
      by_contra hz
      simp only [show count = 0 by omega, Nat.zero_add, pow_one] at h
      omega
    have hdiv : n / base < base ^ count := by
      rw [Nat.div_lt_iff_lt_mul (by omega), ← pow_succ]
      exact h
    exact Nat.succ_le_succ (ih hfewer hdiv)

/-- Only zero has a zero in front. -/
lemma head?_digits_ne_zero (hbase : 1 < base) (h : 0 < n) : (digits base n).head? ≠ some 0 := by
  induction n using digits_induction hbase with
  | single n hn => simpa [digits_of_lt hn] using h.ne'
  | more n hn ih =>
    rw [digits_of_le hbase hn, List.head?_append_of_ne_nil _ (digits_ne_nil _ _)]
    exact ih (Nat.div_pos hn (by omega))

/-! ### Low digits -/

@[simp] lemma length_lowDigits (base count n : Nat) : (lowDigits base count n).length = count := by
  induction count generalizing n with
  | zero => rfl
  | succ count ih => simp [lowDigits, ih]

lemma ofDigits_lowDigits (base count n : Nat) :
    ofDigits base (lowDigits base count n) = n % base ^ count := by
  induction count generalizing n with
  | zero => simp [lowDigits, ofDigits, Nat.mod_one]
  | succ count ih =>
    rw [lowDigits, ofDigits_append_singleton, ih, pow_succ', Nat.mod_mul]
    ring

lemma lt_of_mem_lowDigits (hbase : 0 < base) (count n : Nat) :
    ∀ d ∈ lowDigits base count n, d < base := by
  induction count generalizing n with
  | zero => simp [lowDigits]
  | succ count ih =>
    intro d hd
    rcases List.mem_append.mp hd with hd | hd
    · exact ih _ d hd
    · rw [List.mem_singleton.mp hd]
      exact Nat.mod_lt _ hbase

/-! ### Numerals -/

lemma digitValue_digitChar : ∀ d < 16, digitValue (digitChar d) = d := by decide

lemma digitChar_eq_zero : ∀ d < 16, digitChar d = '0' → d = 0 := by decide

/-- The letters and digits that numerals are made of are digits in each base that has them. -/
lemma isDigit_digitChar (base : Nat) : ∀ d < 16, isDigit base (digitChar d) = decide (d < base) := by
  have hletters : ∀ d < 16, ('0' ≤ digitChar d && digitChar d ≤ '9' ||
      'a' ≤ digitChar d && digitChar d ≤ 'z' || 'A' ≤ digitChar d && digitChar d ≤ 'Z') = true := by
    decide
  intro d hd
  rw [isDigit, hletters d hd, digitValue_digitChar d hd, Bool.true_and]

lemma numeral_ne_nil (base n : Nat) : numeral base n ≠ [] := by
  rw [numeral, ne_eq, List.map_eq_nil_iff]
  exact digits_ne_nil base n

lemma forall_mem_numeral (hbase : 1 < base) (n : Nat) {P : Char → Prop}
    (h : ∀ d < base, P (digitChar d)) : ∀ c ∈ numeral base n, P c := by
  intro c hc
  obtain ⟨d, hd, rfl⟩ := List.mem_map.mp hc
  exact h d (lt_of_mem_digits hbase n d hd)

/-- A numeral is made of digits only. -/
lemma isDigit_of_mem_numeral (hbase : 1 < base) (hle : base ≤ 16) (n : Nat) :
    ∀ c ∈ numeral base n, isDigit base c = true := by
  refine forall_mem_numeral hbase n fun d hd => ?_
  rw [isDigit_digitChar base d (by omega), decide_eq_true hd]

lemma map_digitValue_numeral (hbase : 1 < base) (hle : base ≤ 16) (n : Nat) :
    (numeral base n).map digitValue = digits base n := by
  rw [numeral, List.map_map]
  refine (List.map_congr_left fun d hd => ?_).trans (List.map_id _)
  exact digitValue_digitChar d (lt_of_lt_of_le (lt_of_mem_digits hbase n d hd) hle)

/-! ### Reading -/

/-- A text does not go on with a digit. -/
def EndsNumber (base : Nat) (rest : List Char) : Prop := ∀ c ∈ rest.head?, isDigit base c = false

lemma endsNumber_nil (base : Nat) : EndsNumber base [] := nofun

lemma endsNumber_cons {c : Char} (h : isDigit base c = false) (rest : List Char) :
    EndsNumber base (c :: rest) := by
  rintro d hd
  cases hd
  exact h

lemma takeWhile_of_ends (hrest : EndsNumber base rest) :
    rest.takeWhile (isDigit base) = [] ∧ rest.dropWhile (isDigit base) = rest := by
  cases rest with
  | nil => exact ⟨rfl, rfl⟩
  | cons c rest =>
    have hc : ¬ isDigit base c = true := Bool.eq_false_iff.mp (hrest c rfl)
    exact ⟨List.takeWhile_cons_of_neg hc, List.dropWhile_cons_of_neg hc⟩

lemma takeWhile_append_of_ends {ds : List Char} (hds : ∀ c ∈ ds, isDigit base c = true)
    (hrest : EndsNumber base rest) :
    (ds ++ rest).takeWhile (isDigit base) = ds ∧ (ds ++ rest).dropWhile (isDigit base) = rest := by
  obtain ⟨htake, hdrop⟩ := takeWhile_of_ends hrest
  rw [List.takeWhile_append_of_pos hds, List.dropWhile_append_of_pos hds, htake, hdrop,
    List.append_nil]
  exact ⟨rfl, rfl⟩

lemma takeWhile_numeral (hbase : 1 < base) (hle : base ≤ 16) (n : Nat)
    (hrest : EndsNumber base rest) :
    (numeral base n ++ rest).takeWhile (isDigit base) = numeral base n :=
  (takeWhile_append_of_ends (isDigit_of_mem_numeral hbase hle n) hrest).1

/-- A numeral is read back as its number. -/
theorem readNumber_numeral (hbase : 1 < base) (hle : base ≤ 16) (n : Nat)
    (hrest : EndsNumber base rest) : readNumber base (numeral base n ++ rest) = some (n, rest) := by
  obtain ⟨htake, hdrop⟩ := takeWhile_append_of_ends (isDigit_of_mem_numeral hbase hle n) hrest
  rw [readNumber, htake, hdrop]
  split
  · rename_i h
    exact absurd h (numeral_ne_nil base n)
  · rw [map_digitValue_numeral hbase hle, ofDigits_digits hbase]

theorem readShortNumber_numeral (hbase : 1 < base) (hle : base ≤ 16) {most : Nat} (hmost : 0 < most)
    (hn : n < base ^ most) (hrest : EndsNumber base rest) :
    readShortNumber base most (numeral base n ++ rest) = some (n, rest) := by
  have hlength : ¬ most < (numeral base n).length := by
    rw [numeral, List.length_map]
    exact Nat.not_lt.mpr (length_digits_le hbase hmost hn)
  rw [readShortNumber, takeWhile_numeral hbase hle n hrest, if_neg hlength,
    readNumber_numeral hbase hle n hrest]

/-- No numeral has a zero in front of other digits. -/
lemma isPadded_numeral (hbase : 1 < base) (hle : base ≤ 16) (n : Nat) :
    isPadded (numeral base n) = false := by
  rcases Nat.eq_zero_or_pos n with rfl | hn
  · rw [numeral, digits_of_lt (by omega)]
    rfl
  · have hhead := head?_digits_ne_zero hbase hn
    have hlt := lt_of_mem_digits hbase n
    rw [isPadded, numeral, List.head?_map]
    cases hd : digits base n with
    | nil => exact absurd hd (digits_ne_nil base n)
    | cons d ds =>
      rw [hd] at hhead hlt
      have hne : digitChar d ≠ '0' := by
        intro hz
        rw [digitChar_eq_zero d (by have := hlt d List.mem_cons_self; omega) hz] at hhead
        exact hhead rfl
      simp [hne]

/-- Only a digit can begin a number. -/
lemma readNumber_eq_none (hrest : EndsNumber base rest) : readNumber base rest = none := by
  rw [readNumber, (takeWhile_of_ends hrest).1]

lemma readShortNumber_eq_none (hrest : EndsNumber base rest) (most : Nat) :
    readShortNumber base most rest = none := by
  rw [readShortNumber, readNumber_eq_none hrest, ite_self]

/-- A number that takes the whole text is made of digits only. -/
lemma readNumber_eq_some_nil_iff {cs : List Char} :
    readNumber base cs = some (n, []) ↔
      cs ≠ [] ∧ (∀ c ∈ cs, isDigit base c = true) ∧ ofDigits base (cs.map digitValue) = n := by
  constructor
  · intro h
    rw [readNumber] at h
    split at h
    · cases h
    · rename_i hne
      obtain ⟨hvalue, hrest⟩ : ofDigits base ((cs.takeWhile (isDigit base)).map digitValue) = n ∧
          cs.dropWhile (isDigit base) = [] := by simpa using h
      have hall := List.dropWhile_eq_nil_iff.mp hrest
      rw [List.takeWhile_eq_self_iff.mpr hall] at hvalue hne
      exact ⟨hne, hall, hvalue⟩
  · rintro ⟨hne, hall, rfl⟩
    obtain ⟨htake, hdrop⟩ := takeWhile_append_of_ends hall (endsNumber_nil base)
    rw [List.append_nil] at htake hdrop
    rw [readNumber, htake, hdrop]
    cases cs with
    | nil => exact absurd rfl hne
    | cons c cs => rfl

lemma mem_of_readNumber {cs : List Char} {number : Nat × List Char} {c : Char}
    (h : readNumber base cs = some number) (hc : c ∈ number.2) : c ∈ cs := by
  rw [readNumber] at h
  split at h
  · cases h
  · cases h
    exact (List.dropWhile_suffix _).mem hc

end MeshRouting.Text
