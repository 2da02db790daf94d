import MeshRouting.Text.Numeral

/-!
# Readers

A reader takes a value off the front of a text. The readers here are the small pieces of a TOML
document that carry no value: blanks, line ends and comments.
-/
namespace MeshRouting.Toml

open MeshRouting.Text

abbrev Reader (α : Type) := List Char → Option (α × List Char)

/-- Read as often as possible, at most as often as told. -/
def readUpTo {α : Type} (read : Reader α) : Nat → List Char → List α × List Char
  | 0, cs => ([], cs)
  | count + 1, cs => match read cs with
    | none => ([], cs)
    | some (a, rest) =>
      let (others, rest) := readUpTo read count rest
      (a :: others, rest)

/-- Read as often as possible; a reader that takes at least one character needs no more turns
than there are characters. -/
def readMany {α : Type} (read : Reader α) (cs : List Char) : List α × List Char :=
  readUpTo read cs.length cs

def isSpace (c : Char) : Bool := c == ' ' || c == '\t'

def skipSpaces (cs : List Char) : List Char := cs.dropWhile isSpace

/-- Tabs, the printable ASCII characters, and everything beyond ASCII. -/
def isPrintable (c : Char) : Bool :=
  c == '\t' || ' ' ≤ c && c ≤ '~' || 128 ≤ c.toNat

/-- A line ends with a line feed, before which a carriage return may stand. -/
def readNewline : List Char → Option (List Char)
  | '\n' :: rest => some rest
  | '\r' :: '\n' :: rest => some rest
  | _ => none

/-- A line also ends where the text does. -/
def readLineEnd (cs : List Char) : Option (List Char) :=
  if cs.isEmpty then some [] else readNewline cs

def skipComment (cs : List Char) : List Char :=
  match cs with
  | '#' :: rest => rest.dropWhile isPrintable
  | _ => cs

/-- What may follow on the line of an entry. -/
def readTrailing (cs : List Char) : Option (List Char) :=
  readLineEnd (skipComment (skipSpaces cs))

def readFiller (cs : List Char) : Option (Unit × List Char) :=
  match cs with
  | ' ' :: rest | '\t' :: rest => some ((), rest)
  | _ => (readNewline (skipComment cs)).map ((), ·)

/-- Skip blanks, lines and comments between the items of an array. -/
def skipFiller (cs : List Char) : List Char := (readMany readFiller cs).2

end MeshRouting.Toml
