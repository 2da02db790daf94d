import MeshRouting.Proofs.SelectorPicks
import Mathlib.Data.Nat.Count
import Mathlib.Probability.Distributions.Uniform

/-!
# Draws by weight

Each cluster of a weighted list owns as many points below the total as it weighs, so a uniform draw
falls on a name with the share of its weights. In 64-bit words the draw is the same, as long as the
total fits in one.
-/
namespace MeshRouting.RouteTarget

variable {clusters : List WeightedCluster} {name : String} {point : Nat}

/-! ### Total weights -/

/-- What the entries of a name weigh together. -/
def weightOf (clusters : List WeightedCluster) (name : String) : Nat :=
  totalWeight (clusters.filter (·.name == name))

@[simp] lemma totalWeight_cons (c : WeightedCluster) (rest : List WeightedCluster) :
    totalWeight (c :: rest) = c.weight.toNat + totalWeight rest := rfl

lemma weightOf_cons (c : WeightedCluster) (rest : List WeightedCluster) (name : String) :
    weightOf (c :: rest) name =
      (if c.name = name then c.weight.toNat else 0) + weightOf rest name := by
  by_cases h : c.name = name
  · simp [weightOf, h]
  · simp [weightOf, h]

/-- Entries without weight add nothing. -/
lemma totalWeight_positive (clusters : List WeightedCluster) :
    totalWeight (clusters.filter (0 < ·.weight)) = totalWeight clusters := by
  induction clusters with
  | nil => rfl
  | cons c rest ih =>
    by_cases h : 0 < c.weight
    · simp [h, ih]
    · have hz : c.weight.toNat = 0 := by simpa [UInt32.lt_iff_toNat_lt] using h
      simp [h, ih, hz]

lemma weightOf_positive (clusters : List WeightedCluster) (name : String) :
    weightOf (clusters.filter (0 < ·.weight)) name = weightOf clusters name := by
  rw [weightOf, List.filter_comm, totalWeight_positive]
  rfl

lemma totalWeight_le (clusters : List WeightedCluster) :
    totalWeight clusters ≤ clusters.length * (2 ^ 32 - 1) := by
  induction clusters with
  | nil => exact Nat.zero_le _
  | cons c rest ih =>
    have hc := c.weight.toNat_lt_size
    rw [totalWeight_cons, List.length_cons]
    norm_num [UInt32.size] at hc ih ⊢
    omega

lemma totalWeight_lt_of_length (h : clusters.length ≤ 2 ^ 32) : totalWeight clusters < 2 ^ 64 := by
  have hle := totalWeight_le clusters
  norm_num at h hle ⊢
  omega

/-! ### Owners -/

lemma ownerOf_cons_of_lt {c : WeightedCluster} (h : point < c.weight.toNat)
    (rest : List WeightedCluster) : ownerOf (c :: rest) point = some c.name := by
  simp [ownerOf, h]

/-- Past the points of the first entry, the draw starts again with the next one. -/
lemma ownerOf_cons_add (c : WeightedCluster) (rest : List WeightedCluster) (point : Nat) :
    ownerOf (c :: rest) (c.weight.toNat + point) = ownerOf rest point := by
  simp [ownerOf]

/-- Every point below the total has an owner. -/
lemma ownerOf_ne_none (h : point < totalWeight clusters) : ownerOf clusters point ≠ none := by
  induction clusters generalizing point with
  | nil => exact absurd h (Nat.not_lt_zero _)
  | cons c rest ih =>
    by_cases hc : point < c.weight.toNat
    · simp [ownerOf_cons_of_lt hc]
    · obtain ⟨past, rfl⟩ := Nat.exists_eq_add_of_le (not_lt.mp hc)
      rw [ownerOf_cons_add]
      exact ih (by rw [totalWeight_cons] at h; omega)

/-- A name owns as many points as its entries weigh. -/
theorem count_ownerOf (clusters : List WeightedCluster) (name : String) :
    Nat.count (ownerOf clusters · = some name) (totalWeight clusters) = weightOf clusters name := by
  induction clusters with
  | nil => rfl
  | cons c rest ih =>
    rw [totalWeight_cons, Nat.count_add, weightOf_cons]
    simp only [ownerOf_cons_add]
    rw [ih]
    congr 1
    split
    · rename_i hname
      exact Nat.count_of_forall fun point hp => by rw [ownerOf_cons_of_lt hp, hname]
    · rename_i hname
      refine Nat.count_of_forall_not fun point hp => ?_
      rw [ownerOf_cons_of_lt hp, Option.some.injEq]
      exact hname

lemma choose_weighted (clusters : List WeightedCluster) (h : point < totalWeight clusters) :
    ownerOf clusters point = some ((weighted clusters (totalWeight clusters)).choose point) := by
  obtain ⟨owner, ho⟩ := Option.ne_none_iff_exists'.mp (ownerOf_ne_none h)
  rw [choose, ho, Option.getD_some]

lemma count_choose (clusters : List WeightedCluster) (name : String) :
    Nat.count ((weighted clusters (totalWeight clusters)).choose · = name) (totalWeight clusters) =
      weightOf clusters name := by
  rw [← count_ownerOf, Nat.count_eq_card_filter_range, Nat.count_eq_card_filter_range]
  congr 1
  refine Finset.filter_congr fun point hp => ?_
  rw [choose_weighted clusters (Finset.mem_range.mp hp), Option.some.injEq]

/-! ### Uniform draws -/

open scoped ENNReal in
/-- If below `total` a function has a value at `count` points, that value has the share `count` of
a uniform draw. -/
lemma uniform_map_apply {α : Type} [DecidableEq α] (f : Nat → α) (a : α) {total : Nat}
    (h : (Finset.range total).Nonempty) :
    ((PMF.uniformOfFinset (Finset.range total) h).map f) a =
      (Nat.count (f · = a) total : ℝ≥0∞) / total := by
  rw [← PMF.toOuterMeasure_apply_singleton, PMF.toOuterMeasure_map_apply,
    PMF.toOuterMeasure_uniformOfFinset_apply, Nat.count_eq_card_filter_range, Finset.card_range]
  simp

/-! ### Draws in words -/

/-- The sum of two words, where it fits in a word. -/
def wordSum (a b : UInt64) : Option UInt64 :=
  if a.toNat + b.toNat < UInt64.size then some (a + b) else none

/-- The difference of two words, where it is not below zero. -/
def wordDifference (a b : UInt64) : Option UInt64 := if b ≤ a then some (a - b) else none

/-- The total weight in words, added up from the front. -/
def wordTotal (clusters : List WeightedCluster) : Option UInt64 :=
  clusters.foldlM (fun total c => wordSum total c.weight.toUInt64) 0

/-- The owner of a point in words; there is none where a difference is below zero, and none past
the last cluster. -/
def wordOwner : List WeightedCluster → UInt64 → Option String
  | [], _ => none
  | c :: rest, point =>
    if point < c.weight.toUInt64 then some c.name
    else (wordDifference point c.weight.toUInt64).bind (wordOwner rest)

lemma wordSum_eq_some {a b : UInt64} (h : a.toNat + b.toNat < 2 ^ 64) :
    ∃ sum, wordSum a b = some sum ∧ sum.toNat = a.toNat + b.toNat := by
  refine ⟨a + b, if_pos h, ?_⟩
  rw [UInt64.toNat_add, Nat.mod_eq_of_lt h]

lemma foldlM_wordSum (a : UInt64) (h : a.toNat + totalWeight clusters < 2 ^ 64) :
    ∃ word, clusters.foldlM (fun total c => wordSum total c.weight.toUInt64) a = some word ∧
      word.toNat = a.toNat + totalWeight clusters := by
  induction clusters generalizing a with
  | nil => exact ⟨a, rfl, rfl⟩
  | cons c rest ih =>
    rw [totalWeight_cons] at h ⊢
    obtain ⟨sum, hsum, hnat⟩ :=
      wordSum_eq_some (a := a) (b := c.weight.toUInt64) (by rw [UInt32.toNat_toUInt64]; omega)
    rw [UInt32.toNat_toUInt64] at hnat
    obtain ⟨word, hword, hrest⟩ := ih sum (by omega)
    refine ⟨word, ?_, by omega⟩
    rw [List.foldlM_cons, hsum]
    exact hword

/-- In words the points have the same owners. -/
lemma wordOwner_eq (clusters : List WeightedCluster) (point : UInt64) :
    wordOwner clusters point = ownerOf clusters point.toNat := by
  induction clusters generalizing point with
  | nil => rfl
  | cons c rest ih =>
    rw [wordOwner, ownerOf]
    have hlt : point < c.weight.toUInt64 ↔ point.toNat < c.weight.toNat := by
      rw [UInt64.lt_iff_toNat_lt, UInt32.toNat_toUInt64]
    by_cases h : point < c.weight.toUInt64
    · rw [if_pos h, if_pos (hlt.mp h)]
    · have hle := UInt64.not_lt.mp h
      rw [if_neg h, if_neg (mt hlt.mpr h), wordDifference, if_pos hle, Option.bind_some, ih,
        UInt64.toNat_sub_of_le _ _ hle, UInt32.toNat_toUInt64]

/-! ### Accepted lists -/

lemma ofAction_weighted (route : Nat) (clusters : List WeightedCluster) :
    ofAction route (.weighted clusters) =
      if clusters.any (·.name.isEmpty) then .error (.emptyCluster route)
      else if totalWeight clusters = 0 then .error (.zeroWeight route)
      else .ok (weighted (clusters.filter (0 < ·.weight)) (totalWeight clusters)) := by
  rw [ofAction, ofWeighted, totalWeight_positive]

lemma eq_of_ofAction_weighted {route : Nat} {target : RouteTarget}
    (h : ofAction route (.weighted clusters) = .ok target) :
    0 < totalWeight clusters ∧
      target = weighted (clusters.filter (0 < ·.weight)) (totalWeight clusters) := by
  rw [ofAction_weighted] at h
  split at h
  · cases h
  · split at h
    · cases h
    · rename_i hz
      cases h
      exact ⟨Nat.pos_of_ne_zero hz, rfl⟩

open scoped ENNReal in
/-- A draw from an accepted list is exactly proportional to the weights. Of the points below the
total, each name has as many as its entries weigh, those without weight and repeated ones
included, so a uniform draw gives it just that share. In 64-bit words the total does not overflow
where it is below 2^64, as with up to 2^32 entries; then no difference is below zero and each point
has its owner before the clusters run out. -/
theorem weighted_choice_proportional {route : Nat} {target : RouteTarget}
    (h : ofAction route (.weighted clusters) = .ok target) :
    let total := totalWeight clusters
    0 < total ∧ target.points = total ∧
    (∀ name, Nat.count (target.choose · = name) total = weightOf clusters name) ∧
    (∀ (hdraw : (Finset.range total).Nonempty) (name : String),
      ((PMF.uniformOfFinset (Finset.range total) hdraw).map target.choose) name =
        (weightOf clusters name : ℝ≥0∞) / total) ∧
    (clusters.length ≤ 2 ^ 32 → total < 2 ^ 64) ∧
    (total < 2 ^ 64 → ∃ word, wordTotal (clusters.filter (0 < ·.weight)) = some word ∧
      word.toNat = total ∧ ∀ point < word,
        wordOwner (clusters.filter (0 < ·.weight)) point = some (target.choose point.toNat)) := by
  intro total
  obtain ⟨hpos, rfl⟩ := eq_of_ofAction_weighted h
  have hsame : totalWeight (clusters.filter (0 < ·.weight)) = total := totalWeight_positive clusters
  have hcount := count_choose (clusters.filter (0 < ·.weight))
  have howner := fun point (hp : point < totalWeight (clusters.filter (0 < ·.weight))) =>
    choose_weighted (clusters.filter (0 < ·.weight)) hp
  rw [hsame] at hcount howner
  simp only [weightOf_positive] at hcount
  refine ⟨hpos, rfl, hcount, fun hdraw name => ?_, totalWeight_lt_of_length, fun hfits => ?_⟩
  · rw [uniform_map_apply, hcount]
  · have hsmall : (0 : UInt64).toNat + totalWeight (clusters.filter (0 < ·.weight)) < 2 ^ 64 := by
      rw [hsame]
      simpa using hfits
    obtain ⟨word, hword, hnat⟩ := foldlM_wordSum 0 hsmall
    rw [hsame, UInt64.toNat_zero, Nat.zero_add] at hnat
    refine ⟨word, hword, hnat, fun point hp => ?_⟩
    rw [wordOwner_eq]
    exact howner _ (hnat ▸ UInt64.lt_iff_toNat_lt.mp hp)

/-- A list with a repeated name, an entry without weight and the greatest weight. -/
def repeatedClusters : List WeightedCluster :=
  [⟨"a", 2⟩, ⟨"idle", 0⟩, ⟨"b", 4294967295⟩, ⟨"a", 1⟩]

theorem repeated_cluster_share :
    ∃ target, ofAction 0 (.weighted repeatedClusters) = .ok target ∧
      Nat.count (target.choose · = "a") 4294967298 = 3 ∧
      Nat.count (target.choose · = "idle") 4294967298 = 0 ∧
      ∃ word, wordTotal (repeatedClusters.filter (0 < ·.weight)) = some word ∧
        word.toNat = 4294967298 := by
  have haccepted : ofAction 0 (.weighted repeatedClusters) =
      .ok (weighted [⟨"a", 2⟩, ⟨"b", 4294967295⟩, ⟨"a", 1⟩] 4294967298) := by decide
  obtain ⟨-, -, hcount, -, hfits, hwords⟩ := weighted_choice_proportional haccepted
  obtain ⟨word, hword, hnat, -⟩ := hwords (hfits (by decide))
  exact ⟨_, haccepted, hcount "a", hcount "idle", word, hword, hnat⟩

end MeshRouting.RouteTarget
