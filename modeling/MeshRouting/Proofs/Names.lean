import MeshRouting.Names.NameMap
import Mathlib.Data.Finset.Card
import Mathlib.Data.List.Sort
import Mathlib.Data.String.Basic

/-!
# Looking names up

A map from names is determined by what its names are looked up to, and a set of names by its
members.
-/
namespace MeshRouting

namespace NameMap

variable {α : Type}

theorem find?_eq_some_iff {m : NameMap α} {name : String} {value : α} :
    m.find? name = some value ↔ (name, value) ∈ m.entries := by
  obtain ⟨entries, ascending⟩ := m
  simp only [find?]
  induction entries with
  | nil => simp
  | cons entry rest ih =>
    have hrest := ih (List.pairwise_cons.mp ascending).2
    have hfirst := (List.pairwise_cons.mp ascending).1
    by_cases h : entry.1 = name
    · have hout : (name, value) ∉ rest := by
        intro hm
        have := hfirst name (List.mem_map.mpr ⟨_, hm, rfl⟩)
        exact absurd (h ▸ this) (String.lt_irrefl _)
      obtain ⟨key, other⟩ := entry
      subst h
      simp [hout, eq_comm]
    · have hne : (name, value) ≠ entry := fun he => h (he ▸ rfl)
      simp [h, hne, hrest]

theorem find?_filter (m : NameMap α) (keep : String → α → Bool) (name : String) :
    (m.filter keep).find? name = (m.find? name).filter (keep name) := by
  ext value
  simp [find?_eq_some_iff, filter, Option.filter_eq_some_iff]

theorem mem_keys_iff {m : NameMap α} {name : String} :
    name ∈ m.keys ↔ (m.find? name).isSome := by
  simp [keys, Option.isSome_iff_exists, find?_eq_some_iff]

theorem eq_of_find?_eq {m n : NameMap α} (h : ∀ name, m.find? name = n.find? name) : m = n := by
  have hmem : ∀ entry, entry ∈ m.entries ↔ entry ∈ n.entries := by
    rintro ⟨name, value⟩
    rw [← find?_eq_some_iff, ← find?_eq_some_iff, h]
  obtain ⟨entries, hm⟩ := m
  obtain ⟨others, hn⟩ := n
  have hirrefl : Std.Irrefl fun a b : String × α => a.1 < b.1 := ⟨fun a => String.lt_irrefl a.1⟩
  have hasymm : Std.Antisymm fun a b : String × α => a.1 < b.1 :=
    ⟨fun a b hab hba => absurd hab (lt_asymm hba)⟩
  have he : entries = others :=
    (List.pairwise_map.mp hm).eq_of_mem_iff (List.pairwise_map.mp hn) hmem
  subst he
  rfl

end NameMap

namespace NameSet

theorem mem_foldl_insert {names : List String} {s : NameSet} {name : String} :
    name ∈ names.foldl insert s ↔ name ∈ names ∨ name ∈ s := by
  induction names generalizing s with
  | nil => simp
  | cons first rest ih => simp [ih, or_assoc, or_left_comm]

@[simp] theorem mem_ofList {names : List String} {name : String} :
    name ∈ ofList names ↔ name ∈ names := by
  simp [ofList, mem_foldl_insert]

theorem isEmpty_eq_true_iff {s : NameSet} : s.isEmpty = true ↔ ∀ name, name ∉ s := by
  rw [isEmpty, List.isEmpty_iff, List.eq_nil_iff_forall_not_mem]
  rfl

theorem size_eq_card {s : NameSet} {members : Finset String}
    (h : ∀ name, name ∈ s ↔ name ∈ members) : s.size = members.card := by
  have hset : s.toList.toFinset = members := by
    ext name
    rw [List.mem_toFinset]
    exact h name
  rw [size, ← hset, List.toFinset_card_of_nodup (s.ascending.imp ne_of_lt)]

theorem eq_of_mem_iff {s t : NameSet} (h : ∀ name, name ∈ s ↔ name ∈ t) : s = t := by
  obtain ⟨names, hn⟩ := s
  obtain ⟨others, ho⟩ := t
  have he : names = others := hn.eq_of_mem_iff ho h
  subst he
  rfl

end NameSet
end MeshRouting
