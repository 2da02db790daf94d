import MeshRouting.Toml.Value

/-!
# Tables

Tables grow while a document is read. A key is set once. A table with a header of its own has one
header, and dotted keys do not reach into it from outside; a table written out as a value is
complete.
-/
namespace MeshRouting.Toml

def find? (members : Members) (key : String) : Option Node :=
  (members.find? (·.1 == key)).map (·.2)

def replace (members : Members) (key : String) (node : Node) : Members :=
  members.map fun member => if member.1 = key then (key, node) else member

def changeLast (change : Members → Option Members) : List Members → Option (List Members)
  | [] => none
  | [last] => (change last).map ([·])
  | first :: rest => (changeLast change rest).map (first :: ·)

abbrev Edit := TableOrigin → Members → Option Members

/-- Whether keys may lead through a table; dotted keys stop at headers. -/
def canEnter (dotted : Bool) : TableOrigin → Bool
  | .header => !dotted
  | .implied | .dotted => true
  | .inline => false

/-- The origin of a table that is created on the way. -/
def newOrigin (dotted : Bool) : TableOrigin := if dotted then .dotted else .implied

/-- Edit the table at the end of a path, creating tables that are missing on the way. Of tables in
a row, the path leads through the last. -/
def editAt (dotted : Bool) (edit : Edit) : List String → Edit
  | [], origin, members => edit origin members
  | key :: rest, _, members =>
    match find? members key with
    | none => do
      let inner ← editAt dotted edit rest (newOrigin dotted) []
      return members ++ [(key, .table (newOrigin dotted) inner)]
    | some (.table origin inner) =>
      if canEnter dotted origin then do
        return replace members key (.table origin (← editAt dotted edit rest origin inner))
      else none
    | some (.tables items) => do
      let items ← changeLast (editAt dotted edit rest .header) items
      return replace members key (.tables items)
    | some _ => none

/-- Set a key. A dotted key ends in a table that dotted keys have made. -/
def setKey (isDotted : Bool) (key : String) (node : Node) : Edit := fun origin members =>
  if (origin == .dotted) != isDotted || (find? members key).isSome then none
  else some (members ++ [(key, node)])

def setPath (path : List String) (node : Node) : Edit := fun origin members =>
  match path.getLast? with
  | none => none
  | some key =>
    editAt true (setKey (1 < path.length) key node) path.dropLast origin members

/-- Begin a table by a header; a table made on the way to others may get one. -/
def openTable (key : String) : Edit := fun _ members =>
  match find? members key with
  | none => some (members ++ [(key, .table .header [])])
  | some (.table .implied inner) => some (replace members key (.table .header inner))
  | some _ => none

/-- Begin the next of several tables in a row. -/
def openNextTable (key : String) : Edit := fun _ members =>
  match find? members key with
  | none => some (members ++ [(key, .tables [[]])])
  | some (.tables items) => some (replace members key (.tables (items ++ [[]])))
  | some _ => none

end MeshRouting.Toml
