import MeshRouting.Toml.Number
import MeshRouting.Toml.Strings
import MeshRouting.Toml.Table

/-!
# Documents

A document is a sequence of lines: headers, entries, comments and blank lines. It is read line by
line into statements, and the statements build up the root table.
-/
namespace MeshRouting.Toml

open MeshRouting.Text

def readBoolean : Reader Bool
  | 't' :: 'r' :: 'u' :: 'e' :: rest => some (true, rest)
  | 'f' :: 'a' :: 'l' :: 's' :: 'e' :: rest => some (false, rest)
  | _ => none

def readScalar (cs : List Char) : Option (Node × List Char) :=
  (readString cs).map (fun (s, rest) => (.scalar (.string s), rest))
    <|> (readBoolean cs).map (fun (b, rest) => (.scalar (.boolean b), rest))
    <|> (readNumber cs).map fun (n, rest) => (.scalar n, rest)

def readItem (value : Reader Node) (cs : List Char) : Option (Node × List Char) :=
  (value (skipFiller cs)).map fun (node, rest) => (node, skipFiller rest)

/-- A comma may follow the last item. -/
def skipComma (cs : List Char) : List Char := (readChar ',' cs).getD cs

def readArray (value : Reader Node) (cs : List Char) : Option (Node × List Char) := do
  let (items, rest) := match readItem value cs with
    | none => ([], cs)
    | some (first, rest) =>
      let (others, rest) := readMany (fun cs => readChar ',' cs >>= readItem value) rest
      (first :: others, skipComma rest)
  let rest ← readChar ']' (skipFiller rest)
  return (.array items, rest)

def readEntry (value : Reader Node) (cs : List Char) :
    Option ((List String × Node) × List Char) := do
  let (key, cs) ← readKey cs
  let (node, cs) ← readChar '=' cs >>= fun cs => value (skipSpaces cs)
  return ((key, node), skipSpaces cs)

def setAll (entries : List (List String × Node)) : Option Members :=
  entries.foldlM (fun members (path, node) => setPath path node .header members) []

/-- A table as a value, after its opening brace; it stays on one line. -/
def readInlineTable (value : Reader Node) (cs : List Char) : Option (Node × List Char) := do
  let (entries, rest) := match readEntry value cs with
    | none => ([], cs)
    | some (first, rest) =>
      let (others, rest) := readMany (fun cs => readChar ',' cs >>= readEntry value) rest
      (first :: others, rest)
  let rest ← readChar '\x7d' (skipSpaces rest)
  return (.table .inline (← setAll entries), rest)

/-- A value whose arrays and tables nest at most as deep as told. -/
def readValue : Nat → Reader Node
  | 0, cs => readScalar cs
  | depth + 1, cs => match cs with
    | '[' :: rest => readArray (readValue depth) rest
    | '\x7b' :: rest => readInlineTable (readValue depth) rest
    | _ => readScalar cs

inductive Statement where
  | blank
  | header (path : List String)
  | nextHeader (path : List String)
  | entry (path : List String) (node : Node)
  deriving Repr

def readHeader (cs : List Char) : Option (Statement × List Char) := do
  let (path, cs) ← readKey cs
  let cs ← readChar ']' cs >>= readTrailing
  return (.header path, cs)

def readNextHeader (cs : List Char) : Option (Statement × List Char) := do
  let (path, cs) ← readKey cs
  let cs ← readChar ']' cs >>= readChar ']' >>= readTrailing
  return (.nextHeader path, cs)

def readSetting (cs : List Char) : Option (Statement × List Char) := do
  let ((path, node), cs) ← readEntry (readValue (depthLimit - 1)) cs
  return (.entry path node, ← readTrailing cs)

/-- One line, which may go on over several for an array or a string. -/
def readStatement (cs : List Char) : Option (Statement × List Char) :=
  match cs with
  | [] => none
  | '[' :: '[' :: rest => readNextHeader rest
  | '[' :: rest => readHeader rest
  | '#' :: _ | '\r' :: _ | '\n' :: _ => (readTrailing cs).map (.blank, ·)
  | _ => readSetting cs

def readLine (cs : List Char) : Option (Statement × List Char) := readStatement (skipSpaces cs)

def readStatements (cs : List Char) : Option (List Statement) :=
  let (statements, rest) := readMany readLine cs
  if (skipSpaces rest).isEmpty then some statements else none

/-- What has been built so far, and the path of the table that entries go to. -/
structure Builder where
  root : Members
  current : List String

namespace Builder

def openAt (b : Builder) (opening : String → Edit) (path : List String) : Option Builder := do
  let key ← path.getLast?
  return ⟨← editAt false (opening key) path.dropLast .header b.root, path⟩

def add (b : Builder) : Statement → Option Builder
  | .blank => some b
  | .header path => b.openAt openTable path
  | .nextHeader path => b.openAt openNextTable path
  | .entry path node => do
    return { b with root := ← editAt false (setPath path node) b.current .header b.root }

end Builder

/-- The root table of a document; a byte order mark in front is skipped. -/
def parse (s : String) : Option Members := do
  let statements ← readStatements ((readChar '\ufeff' s.toList).getD s.toList)
  return (← statements.foldlM Builder.add ⟨[], []⟩).root

end MeshRouting.Toml
