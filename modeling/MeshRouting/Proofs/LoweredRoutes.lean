import MeshRouting.Discovery.Route
import Mathlib.Tactic.ByContra
import Mathlib.Tactic.Lemma

/-!
# Routes without regard to case

A route that takes a method name letter by letter also takes it without regard to case, with one
exception. A capital sigma is lowered to its final form where a word ends. If the head of a route
ends within a word, right behind a capital sigma, the sigma is final in the head and not in the
method name.
-/
namespace MeshRouting

open MeshRouting.Text

namespace Text

variable {before after head rest : List Char}

/-! ### Words that go on -/

lemma meetsCased_append (cs rest : List Char) :
    meetsCased (cs ++ rest) =
      if cs.all isCaseIgnorable then meetsCased rest else meetsCased cs := by
  induction cs with
  | nil => rfl
  | cons c cs ih =>
    by_cases hc : isCaseIgnorable c = true
    · have hskip : ∀ others, meetsCased (c :: others) = meetsCased others := by
        intro others
        rw [meetsCased, List.dropWhile_cons_of_pos hc, meetsCased]
      rw [List.cons_append, hskip, hskip, ih, List.all_cons, hc, Bool.true_and]
    · have hstop : ∀ others, meetsCased (c :: others) = isCased c := by
        intro others
        rw [meetsCased, List.dropWhile_cons_of_neg hc]
        rfl
      rw [List.cons_append, hstop, hstop, List.all_cons, Bool.eq_false_iff.mpr hc, Bool.false_and]
      rfl

lemma meetsCased_of_ignorable {cs : List Char} (h : cs.all isCaseIgnorable = true) :
    meetsCased cs = false := by
  have happend := meetsCased_append cs []
  rwa [List.append_nil, if_pos h] at happend

/-- A capital sigma changes its form when the text goes on just if it ended a word there, and only
ignorable characters stand before the next letter. -/
lemma lowerSigma_append_ne_iff :
    lowerSigma before after ≠ lowerSigma before (after ++ rest) ↔
      meetsCased before = true ∧ after.all isCaseIgnorable = true ∧ meetsCased rest = true := by
  rw [lowerSigma, lowerSigma, meetsCased_append]
  by_cases ha : after.all isCaseIgnorable = true
  · rw [if_pos ha, meetsCased_of_ignorable ha]
    cases meetsCased before <;> cases meetsCased rest <;> simp [ha]
  · simp [ha]

/-- The text ends in a capital sigma that ends a word, but for characters that are ignored. -/
def EndsInSigma (head : List Char) : Prop :=
  ∃ front back, head = front ++ 'Σ' :: back ∧ meetsCased front.reverse = true ∧
    back.all isCaseIgnorable = true

/-! ### Lowering the head of a text -/

lemma lowerFrom_cons_of_ne {c : Char} (h : c ≠ 'Σ') (before after : List Char) :
    lowerFrom before (c :: after) = lowerAlone c ++ lowerFrom (c :: before) after := by
  rw [lowerFrom, if_neg h]

lemma lowerFrom_sigma (before after : List Char) :
    lowerFrom before ('Σ' :: after) =
      lowerSigma before after :: lowerFrom ('Σ' :: before) after := by
  rw [lowerFrom, if_pos rfl]
  rfl

/-- A lowered head is the head of the lowered text just if no capital sigma in it changes its form
by what follows. -/
lemma lowerFrom_prefix_iff (before head rest : List Char) :
    lowerFrom before head <+: lowerFrom before (head ++ rest) ↔
      ∀ front back, head = front ++ 'Σ' :: back →
        lowerSigma (front.reverse ++ before) back =
          lowerSigma (front.reverse ++ before) (back ++ rest) := by
  induction head generalizing before with
  | nil => simp [lowerFrom]
  | cons c head ih =>
    by_cases hc : c = 'Σ'
    · subst hc
      rw [List.cons_append, lowerFrom_sigma, lowerFrom_sigma, List.cons_prefix_cons, ih]
      constructor
      · rintro ⟨hfirst, hothers⟩ front back he
        cases front with
        | nil =>
          cases he
          exact hfirst
        | cons first front =>
          cases he
          simpa using hothers front back rfl
      · intro h
        refine ⟨h [] head rfl, fun front back he => ?_⟩
        simpa using h ('Σ' :: front) back (by rw [he]; rfl)
    · rw [List.cons_append, lowerFrom_cons_of_ne hc, lowerFrom_cons_of_ne hc,
        List.prefix_append_right_inj, ih]
      constructor
      · intro h front back he
        cases front with
        | nil => exact absurd (List.cons.inj he).1 hc
        | cons first front =>
          cases he
          simpa using h front back rfl
      · intro h front back he
        simpa using h (c :: front) back (by rw [he]; rfl)

lemma lowerFrom_prefix_iff_not (head rest : List Char) :
    lowerFrom [] head <+: lowerFrom [] (head ++ rest) ↔
      ¬ (EndsInSigma head ∧ meetsCased rest = true) := by
  rw [lowerFrom_prefix_iff]
  constructor
  · rintro h ⟨⟨front, back, he, hfront, hback⟩, hrest⟩
    refine lowerSigma_append_ne_iff.mpr ⟨?_, hback, hrest⟩ (h front back he)
    rwa [List.append_nil]
  · intro h front back he
    by_contra hne
    obtain ⟨hfront, hback, hrest⟩ := lowerSigma_append_ne_iff.mp hne
    rw [List.append_nil] at hfront
    exact h ⟨⟨front, back, he, hfront, hback⟩, hrest⟩

end Text

namespace Route

/-! ### Routes -/

/-- The same route with or without regard to case. -/
def withIgnoreCase (route : Route) (ignoreCase : Bool) : Route :=
  { route with ignoreCase }

lemma matches_startsWith {route : Route} {head : String} (h : route.path = .startsWith head)
    (method : String) :
    ((route.withIgnoreCase false).matches method = true ↔ head.toList <+: method.toList) ∧
    ((route.withIgnoreCase true).matches method = true ↔
      lowerFrom [] head.toList <+: lowerFrom [] method.toList) := by
  simp [withIgnoreCase, Route.matches, PathMatch.holds, h, lowercase]

lemma matches_equals {route : Route} {whole method : String} (h : route.path = .equals whole)
    (hmatch : (route.withIgnoreCase false).matches method = true) :
    (route.withIgnoreCase true).matches method = true := by
  have he : method = whole := by
    simpa [withIgnoreCase, Route.matches, PathMatch.holds, h] using hmatch
  simp [withIgnoreCase, Route.matches, PathMatch.holds, h, he]

/-- Whether the head that a route asks for ends in a capital sigma that ends a word, and the word
goes on in the method name. -/
def SplitsWord (route : Route) (method : String) : Prop :=
  ∃ head rest, route.path = .startsWith head ∧ method.toList = head.toList ++ rest ∧
    EndsInSigma head.toList ∧ meetsCased rest = true

lemma ignoreCase_matches_iff {route : Route} {method : String}
    (h : (route.withIgnoreCase false).matches method = true) :
    (route.withIgnoreCase true).matches method = true ↔ ¬ route.SplitsWord method := by
  cases hp : route.path with
  | equals whole =>
    refine iff_of_true (matches_equals hp h) ?_
    rintro ⟨head, rest, hpath, -⟩
    rw [hp] at hpath
    cases hpath
  | startsWith head =>
    obtain ⟨hstrict, hloose⟩ := matches_startsWith hp method
    obtain ⟨rest, he⟩ := hstrict.mp h
    rw [hloose, ← he, lowerFrom_prefix_iff_not]
    refine not_congr ⟨fun ⟨hends, hrest⟩ => ⟨head, rest, hp, he.symm, hends, hrest⟩, ?_⟩
    rintro ⟨other, more, hpath, hm, hends, hrest⟩
    rw [hp] at hpath
    cases hpath
    rw [← he, List.append_cancel_left_eq] at hm
    exact ⟨hends, hm ▸ hrest⟩

/-- A head that ends in a final sigma is split from some method name. -/
lemma exists_splitsWord {route : Route} {head : String} (hp : route.path = .startsWith head)
    (h : EndsInSigma head.toList) :
    ∃ method, (route.withIgnoreCase false).matches method = true ∧ route.SplitsWord method := by
  have he : (head ++ "a").toList = head.toList ++ ['a'] := String.toList_append
  have hletter : meetsCased ['a'] = true := by decide +kernel
  exact ⟨head ++ "a", (matches_startsWith hp _).1.mpr ⟨['a'], he.symm⟩, head, ['a'], hp, he, h,
    hletter⟩

/-- A method name that a route takes letter by letter is taken without regard to case, unless the
head of the route ends in a capital sigma and splits the word that it stands in. All such names are
taken just if the route asks for the whole name or its head does not end in such a sigma. -/
theorem ignoreCase_keeps_iff (route : Route) :
    (∀ method, (route.withIgnoreCase false).matches method = true →
      ((route.withIgnoreCase true).matches method = true ↔ ¬ route.SplitsWord method)) ∧
    ((∀ method, (route.withIgnoreCase false).matches method = true →
        (route.withIgnoreCase true).matches method = true) ↔
      ∀ head, route.path = .startsWith head → ¬ EndsInSigma head.toList) := by
  refine ⟨fun method => ignoreCase_matches_iff, ?_, ?_⟩
  · intro hall head hp hends
    obtain ⟨method, hstrict, hsplit⟩ := exists_splitsWord hp hends
    exact (ignoreCase_matches_iff hstrict).mp (hall method hstrict) hsplit
  · intro hnone method hstrict
    refine (ignoreCase_matches_iff hstrict).mpr ?_
    rintro ⟨head, rest, hp, -, hends, -⟩
    exact hnone head hp hends

/-- A route for all names that start with `/ΟΔΟΣ`. -/
def odos : Route := ⟨.startsWith "/ΟΔΟΣ", false, .cluster "a"⟩

theorem odos_keeps_whole_word :
    (odos.withIgnoreCase false).matches "/ΟΔΟΣ/ΣΤΟΠ" = true ∧
    (odos.withIgnoreCase true).matches "/ΟΔΟΣ/ΣΤΟΠ" = true := by
  have hstrict : (odos.withIgnoreCase false).matches "/ΟΔΟΣ/ΣΤΟΠ" = true := by decide
  refine ⟨hstrict, ((ignoreCase_keeps_iff odos).1 _ hstrict).mpr ?_⟩
  rintro ⟨head, rest, hp, hm, -, hrest⟩
  cases hp
  have he : "/ΟΔΟΣ/ΣΤΟΠ".toList = "/ΟΔΟΣ".toList ++ "/ΣΤΟΠ".toList := by decide
  rw [he, List.append_cancel_left_eq] at hm
  have hslash : meetsCased "/ΣΤΟΠ".toList = false := by decide +kernel
  rw [← hm, hslash] at hrest
  cases hrest

/-- The sigma is final in `/οδος`, but not in `/οδοσημα`. -/
theorem odos_loses_longer_word :
    (odos.withIgnoreCase false).matches "/ΟΔΟΣΗΜΑ" = true ∧
    (odos.withIgnoreCase true).matches "/ΟΔΟΣΗΜΑ" = false := by
  decide +kernel

end Route
end MeshRouting
