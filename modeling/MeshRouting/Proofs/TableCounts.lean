import MeshRouting.Proofs.Names
import MeshRouting.Routing.ClusterTable
import Mathlib.Tactic.Lemma

/-!
# Counts of a cluster table

What each operation on a table does to the references on a name. Two names never share an entry,
so an operation on one name leaves the others as they are.
-/
namespace MeshRouting.ClusterTable

/-- Every listed name is the name of its entry. -/
def Coherent (t : ClusterTable) : Prop :=
  ∀ name entry, t.active.find? name = some entry → (t.entries[entry]?).map (·.name) = some name

variable {t : ClusterTable} {name other : String} {entry refs : Nat}

lemma Coherent.name_eq (hc : t.Coherent) (h : t.active.find? name = some entry)
    (ho : t.active.find? other = some entry) : name = other :=
  Option.some.inj ((hc name entry h).symm.trans (hc other entry ho))

lemma Coherent.lt_length (hc : t.Coherent) (h : t.active.find? name = some entry) :
    entry < t.entries.length := by
  have hn := hc name entry h
  by_contra hge
  simp [List.getElem?_eq_none (not_lt.mp hge)] at hn

lemma coherent_empty : empty.Coherent := by
  intro name entry h
  simp [empty, NameMap.empty, NameMap.find?] at h

lemma coherent_setRefs (hc : t.Coherent) : (t.setRefs entry refs).Coherent := by
  intro name other h
  have hn := hc name other h
  rw [← hn]
  cases he : t.entries[other]? with
  | none => simp [setRefs, List.getElem?_modify, he]
  | some found =>
    by_cases hs : entry = other <;> simp [setRefs, he, hs]

lemma refsOf_setRefs (h : entry < t.entries.length) (other : Nat) :
    (t.setRefs entry refs).refsOf other = if entry = other then refs else t.refsOf other := by
  by_cases he : entry = other
  · subst he
    simp [refsOf, setRefs, List.getElem?_eq_getElem h]
  · simp [refsOf, setRefs, he]

lemma refCount?_setRefs (hc : t.Coherent) (h : t.active.find? name = some entry)
    (other : String) :
    (t.setRefs entry refs).refCount? other =
      if name = other then some refs else t.refCount? other := by
  have hl := hc.lt_length h
  have ha : (t.setRefs entry refs).active = t.active := rfl
  by_cases hn : name = other
  · subst hn
    simp [refCount?, ha, h, refsOf_setRefs hl]
  · simp only [refCount?, ha, hn, if_false]
    cases ho : t.active.find? other with
    | none => rfl
    | some found =>
      have hne : entry ≠ found := fun he => hn (hc.name_eq h (he ▸ ho))
      simp [refsOf_setRefs hl, hne]

lemma find?_create : (t.create name).active.find? other =
    if name = other then some t.entries.length else t.active.find? other := by
  simp [create, NameMap.find?_insert]

lemma coherent_create (hc : t.Coherent) : (t.create name).Coherent := by
  intro other entry h
  rw [find?_create] at h
  by_cases hn : name = other
  · simp only [hn, if_true, Option.some.injEq] at h
    simp [create, ← h, hn]
  · simp only [hn, if_false] at h
    have hl := hc.lt_length h
    simpa [create, List.getElem?_append_left hl] using hc other entry h

lemma refCount?_create (hc : t.Coherent) (other : String) :
    (t.create name).refCount? other = if name = other then some 0 else t.refCount? other := by
  simp only [refCount?, find?_create]
  by_cases hn : name = other
  · simp [hn, refsOf, create]
  · simp only [hn, if_false]
    cases ho : t.active.find? other with
    | none => rfl
    | some found =>
      simp [refsOf, create, List.getElem?_append_left (hc.lt_length ho)]

lemma acquire_of_find? (h : t.active.find? name = some entry) :
    t.acquire name = (t.setRefs entry (t.refsOf entry + 1), entry) := by
  simp [acquire, h]

/-- The first use of a name lists it; what follows is the same as for a listed name. -/
lemma acquire_of_find?_eq_none (h : t.active.find? name = none) :
    t.acquire name = (t.create name).acquire name := by
  have hf : (t.create name).active.find? name = some t.entries.length := by simp [find?_create]
  have hz : (t.create name).refsOf t.entries.length = 0 := by simp [refsOf, create]
  rw [acquire_of_find? hf, hz]
  simp [acquire, h]

lemma coherent_acquire (hc : t.Coherent) : (t.acquire name).1.Coherent := by
  cases h : t.active.find? name with
  | some entry =>
    rw [acquire_of_find? h]
    exact coherent_setRefs hc
  | none =>
    rw [acquire_of_find?_eq_none h, acquire_of_find? (find?_create.trans (if_pos rfl))]
    exact coherent_setRefs (coherent_create hc)

lemma find?_acquire : (t.acquire name).1.active.find? other =
    if name = other then some (t.acquire name).2 else t.active.find? other := by
  cases h : t.active.find? name with
  | some entry =>
    rw [acquire_of_find? h]
    by_cases hn : name = other
    · subst hn
      simpa [setRefs] using h
    · simp [hn, setRefs]
  | none =>
    rw [acquire_of_find?_eq_none h, acquire_of_find? (find?_create.trans (if_pos rfl))]
    exact find?_create

lemma find?_acquire_of_some (h : t.active.find? other = some entry) :
    (t.acquire name).1.active.find? other = some entry := by
  rw [find?_acquire]
  by_cases hn : name = other
  · subst hn
    simp [acquire_of_find? h]
  · simp [hn, h]

lemma refCount?_acquire (hc : t.Coherent) (other : String) :
    (t.acquire name).1.refCount? other =
      if name = other then some ((t.refCount? name).getD 0 + 1) else t.refCount? other := by
  cases h : t.active.find? name with
  | some entry =>
    rw [acquire_of_find? h, refCount?_setRefs hc h]
    simp [refCount?, h]
  | none =>
    have hf : (t.create name).active.find? name = some t.entries.length :=
      find?_create.trans (if_pos rfl)
    rw [acquire_of_find?_eq_none h, acquire_of_find? hf, refCount?_setRefs (coherent_create hc) hf]
    by_cases hn : name = other
    · simp [hn, refsOf, create, refCount?, hn ▸ h]
    · simp [hn, refCount?_create hc]

lemma release_active (entry : Nat) : (t.release entry).1.active = t.active := by
  unfold release
  split <;> rfl

lemma coherent_release (hc : t.Coherent) : (t.release entry).1.Coherent := by
  unfold release
  split
  · exact hc
  · exact coherent_setRefs hc

lemma refCount?_release (hc : t.Coherent) (h : t.active.find? name = some entry) (other : String) :
    (t.release entry).1.refCount? other =
      if name = other then some ((t.refCount? name).getD 0 - 1) else t.refCount? other := by
  have hcount : t.refCount? name = some (t.refsOf entry) := by simp [refCount?, h]
  rw [hcount]
  cases hr : t.refsOf entry with
  | zero =>
    by_cases hn : name = other
    · subst hn
      simp [release, hr, hcount]
    · simp [release, hr, hn]
  | succ refs => simp [release, hr, refCount?_setRefs hc h]

lemma release_eq_unheld_iff (h : t.active.find? name = some entry) :
    (t.release entry).2 = .unheld ↔ t.refCount? name = some 0 := by
  have hcount : t.refCount? name = some (t.refsOf entry) := by simp [refCount?, h]
  cases hr : t.refsOf entry with
  | zero => simp [release, hr, hcount]
  | succ refs => by_cases hz : refs = 0 <;> simp [release, hr, hcount, hz]

lemma release_eq_drained_iff (h : t.active.find? name = some entry) :
    (t.release entry).2 = .drained ↔ t.refCount? name = some 1 := by
  have hcount : t.refCount? name = some (t.refsOf entry) := by simp [refCount?, h]
  cases hr : t.refsOf entry with
  | zero => simp [release, hr, hcount]
  | succ refs => by_cases hz : refs = 0 <;> simp [release, hr, hcount, hz]

lemma find?_prune (name : String) :
    t.prune.active.find? name = (t.active.find? name).filter (t.refsOf · != 0) := by
  simp [prune, NameMap.find?_filter]

lemma coherent_prune (hc : t.Coherent) : t.prune.Coherent := by
  intro name entry h
  rw [find?_prune, Option.filter_eq_some_iff] at h
  exact hc name entry h.1

lemma refCount?_prune (name : String) :
    t.prune.refCount? name = (t.refCount? name).filter (· != 0) := by
  have hr : t.prune.refsOf = t.refsOf := rfl
  simp only [refCount?, find?_prune, hr]
  cases t.active.find? name with
  | none => rfl
  | some entry => by_cases hz : t.refsOf entry = 0 <;> simp [Option.filter_some, hz]

lemma mem_unreferenced_iff : name ∈ t.unreferenced ↔ t.refCount? name = some 0 := by
  rw [unreferenced, NameMap.mem_keys_iff, NameMap.find?_filter, Option.isSome_iff_exists]
  simp [refCount?, Option.filter_eq_some_iff]

lemma mem_names_iff : name ∈ t.names ↔ (t.refCount? name).isSome := by
  simp [names, NameMap.mem_keys_iff, refCount?]

end MeshRouting.ClusterTable
