/-!
# Sets of names

A finite set of names, kept as the ascending list of its members, so that two sets with the same
members are equal. Names are ordered by their code points.
-/
namespace MeshRouting

structure NameSet where
  toList : List String
  ascending : toList.Pairwise (· < ·)
  deriving DecidableEq, Repr

namespace NameSet

def empty : NameSet := ⟨[], .nil⟩

instance : Inhabited NameSet := ⟨empty⟩

instance : Membership String NameSet := ⟨fun s name => name ∈ s.toList⟩

instance (name : String) (s : NameSet) : Decidable (name ∈ s) :=
  inferInstanceAs (Decidable (name ∈ s.toList))

/-- Put a name before the first greater one, unless it is there. -/
def place (name : String) : List String → List String
  | [] => [name]
  | other :: rest =>
    if name < other then name :: other :: rest
    else if name = other then other :: rest
    else other :: place name rest

theorem mem_place {name other : String} {names : List String} :
    other ∈ place name names ↔ other = name ∨ other ∈ names := by
  induction names with
  | nil => simp [place]
  | cons first rest ih => grind [place]

theorem place_ascending {name : String} {names : List String}
    (h : names.Pairwise (· < ·)) : (place name names).Pairwise (· < ·) := by
  induction names with
  | nil => simp [place]
  | cons first rest ih => grind [place, mem_place, List.pairwise_cons]

def insert (s : NameSet) (name : String) : NameSet :=
  ⟨place name s.toList, place_ascending s.ascending⟩

def erase (s : NameSet) (name : String) : NameSet :=
  ⟨s.toList.filter (· != name), s.ascending.filter _⟩

def ofList (names : List String) : NameSet := names.foldl insert empty

def size (s : NameSet) : Nat := s.toList.length

def isEmpty (s : NameSet) : Bool := s.toList.isEmpty

@[simp] theorem mem_insert {s : NameSet} {name other : String} :
    other ∈ s.insert name ↔ other = name ∨ other ∈ s := mem_place

@[simp] theorem mem_erase {s : NameSet} {name other : String} :
    other ∈ s.erase name ↔ other ∈ s ∧ other ≠ name := by
  show other ∈ s.toList.filter _ ↔ other ∈ s.toList ∧ _
  simp

@[simp] theorem not_mem_empty {name : String} : ¬ name ∈ empty := List.not_mem_nil

end NameSet
end MeshRouting
