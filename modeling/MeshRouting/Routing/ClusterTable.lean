import MeshRouting.Names.NameMap

/-!
# Cluster table

The clusters that a resolver has in use, with the number of references on each. A cluster is
created at its first use and stays, also without references, until the table is pruned. A name
that comes back later gets a new entry, while holders of the old entry keep releasing that one.
-/
namespace MeshRouting

structure ClusterEntry where
  name : String
  refs : Nat
  deriving DecidableEq, Repr

/-- Entries are numbered in order of creation; `active` has the number of each listed name. -/
structure ClusterTable where
  entries : List ClusterEntry
  active : NameMap Nat
  deriving Repr

/-- What became of a reference that was given back. -/
inductive Released where
  | kept
  | drained
  | unheld
  deriving DecidableEq, Repr

namespace ClusterTable

def empty : ClusterTable := ⟨[], .empty⟩

def refsOf (t : ClusterTable) (entry : Nat) : Nat := ((t.entries[entry]?).map (·.refs)).getD 0

def setRefs (t : ClusterTable) (entry refs : Nat) : ClusterTable :=
  { t with entries := t.entries.modify entry fun e => { e with refs } }

def refCount? (t : ClusterTable) (name : String) : Option Nat :=
  (t.active.find? name).map t.refsOf

/-- List a new entry without references. -/
def create (t : ClusterTable) (name : String) : ClusterTable :=
  ⟨t.entries ++ [⟨name, 0⟩], t.active.insert name t.entries.length⟩

/-- Take one reference on a name; the answer has the number of its entry. -/
def acquire (t : ClusterTable) (name : String) : ClusterTable × Nat :=
  match t.active.find? name with
  | some entry => (t.setRefs entry (t.refsOf entry + 1), entry)
  | none => ((t.create name).setRefs t.entries.length 1, t.entries.length)

def release (t : ClusterTable) (entry : Nat) : ClusterTable × Released :=
  match t.refsOf entry with
  | 0 => (t, .unheld)
  | refs + 1 => (t.setRefs entry refs, if refs = 0 then .drained else .kept)

def unreferenced (t : ClusterTable) : List String :=
  (t.active.filter fun _ entry => t.refsOf entry == 0).keys

def prune (t : ClusterTable) : ClusterTable :=
  { t with active := t.active.filter fun _ entry => t.refsOf entry != 0 }

def names (t : ClusterTable) : List String := t.active.keys

def size (t : ClusterTable) : Nat := t.active.size

def isEmpty (t : ClusterTable) : Bool := t.active.isEmpty

/-- The listed names with their references, in order of name. -/
def counts (t : ClusterTable) : List (String × Nat) :=
  t.active.entries.map fun (name, entry) => (name, t.refsOf entry)

end ClusterTable
end MeshRouting
