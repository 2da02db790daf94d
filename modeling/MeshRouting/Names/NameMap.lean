import MeshRouting.Names.NameSet

/-!
# Maps from names

A finite map from names, kept as its entries in ascending order of name. Looking a name up after
an insertion or a removal is given by `find?_insert` and `find?_erase`.
-/
namespace MeshRouting

structure NameMap (α : Type) where
  entries : List (String × α)
  ascending : (entries.map (·.1)).Pairwise (· < ·)
  deriving Repr

namespace NameMap

variable {α : Type}

def empty : NameMap α := ⟨[], by simp⟩

instance : Inhabited (NameMap α) := ⟨empty⟩

def keys (m : NameMap α) : List String := m.entries.map (·.1)

def keySet (m : NameMap α) : NameSet := ⟨m.keys, m.ascending⟩

def find? (m : NameMap α) (name : String) : Option α :=
  (m.entries.find? (·.1 == name)).map (·.2)

def contains (m : NameMap α) (name : String) : Bool := (m.find? name).isSome

def size (m : NameMap α) : Nat := m.entries.length

def isEmpty (m : NameMap α) : Bool := m.entries.isEmpty

/-- Put an entry before the first with a greater name, in place of one with the same name. -/
def place (name : String) (value : α) : List (String × α) → List (String × α)
  | [] => [(name, value)]
  | entry :: rest =>
    if name < entry.1 then (name, value) :: entry :: rest
    else if name = entry.1 then (name, value) :: rest
    else entry :: place name value rest

theorem map_fst_place (name : String) (value : α) (entries : List (String × α)) :
    (place name value entries).map (·.1) = NameSet.place name (entries.map (·.1)) := by
  induction entries with
  | nil => rfl
  | cons entry rest ih => grind [place, NameSet.place]

def insert (m : NameMap α) (name : String) (value : α) : NameMap α :=
  ⟨place name value m.entries, by
    rw [map_fst_place]; exact NameSet.place_ascending m.ascending⟩

def filter (m : NameMap α) (keep : String → α → Bool) : NameMap α :=
  ⟨m.entries.filter fun entry => keep entry.1 entry.2,
    m.ascending.sublist (List.filter_sublist.map _)⟩

def erase (m : NameMap α) (name : String) : NameMap α := m.filter fun key _ => key != name

theorem find?_insert (m : NameMap α) (name other : String) (value : α) :
    (m.insert name value).find? other = if name = other then some value else m.find? other := by
  obtain ⟨entries, ascending⟩ := m
  simp only [insert, find?]
  clear ascending
  induction entries with
  | nil => grind [place]
  | cons entry rest ih => grind [place]

theorem find?_erase (m : NameMap α) (name other : String) :
    (m.erase name).find? other = if name = other then none else m.find? other := by
  obtain ⟨entries, ascending⟩ := m
  simp only [erase, filter, find?]
  clear ascending
  induction entries with
  | nil => simp
  | cons entry rest ih => grind

end NameMap
end MeshRouting
