import MeshRouting.Toml.Reader

/-!
# Strings

The four kinds of TOML strings. Basic strings have escapes, literal strings have none; both may
run over several lines between threefold quotes. Line ends inside a string become line feeds.
-/
namespace MeshRouting.Toml

open MeshRouting.Text

/-- The character of a code point, surrogates and larger numbers refused. -/
def charOf? (code : Nat) : Option Char := if code.isValidChar then some (Char.ofNat code) else none

def readCode (count : Nat) (cs : List Char) : Option (Char × List Char) :=
  let ds := cs.take count
  if ds.length = count && ds.all (isDigit 16) then
    (charOf? (ofDigits 16 (ds.map digitValue))).map (·, cs.drop count)
  else none

def readEscape : Reader Char
  | 'b' :: rest => some ('\x08', rest)
  | 't' :: rest => some ('\t', rest)
  | 'n' :: rest => some ('\n', rest)
  | 'f' :: rest => some ('\x0c', rest)
  | 'r' :: rest => some ('\r', rest)
  | '"' :: rest => some ('"', rest)
  | '\\' :: rest => some ('\\', rest)
  | 'u' :: rest => readCode 4 rest
  | 'U' :: rest => readCode 8 rest
  | _ => none

/-- A character of a basic string that stands for itself. -/
def isPlain (c : Char) : Bool := isPrintable c && c != '"' && c != '\\'

def readBasicChar : Reader Char
  | '\\' :: rest => readEscape rest
  | c :: rest => if isPlain c then some (c, rest) else none
  | [] => none

def readBasic (cs : List Char) : Option (String × List Char) :=
  let (body, rest) := readMany readBasicChar cs
  (readChar '"' rest).map (String.ofList body, ·)

def isLiteral (c : Char) : Bool := isPrintable c && c != '\''

def readLiteral (cs : List Char) : Option (String × List Char) :=
  (readChar '\'' (cs.dropWhile isLiteral)).map (String.ofList (cs.takeWhile isLiteral), ·)

def skipGap : List Char → List Char
  | '\r' :: '\n' :: rest => skipGap rest
  | c :: rest => if isSpace c || c == '\n' then skipGap rest else c :: rest
  | [] => []

/-- A backslash at the end of a line takes all blanks and line ends after it away. -/
def readLineSplice (cs : List Char) : Option (List Char) :=
  (readNewline (skipSpaces cs)).map skipGap

/-- One or two quotes that do not end the string, because something else follows them. -/
def readInnerQuotes (quote : Char) : Reader (List Char)
  | a :: b :: c :: rest =>
    if a ≠ quote then none
    else if b ≠ quote then some ([a], b :: c :: rest)
    else if c ≠ quote then some ([a, b], c :: rest)
    else none
  | [a, b] => if a = quote ∧ b ≠ quote then some ([a], [b]) else none
  | _ => none

/-- The three quotes that end a string; one or two more before them belong to it. -/
def readClosing (quote : Char) (cs : List Char) : Option (List Char × List Char) :=
  let count := (cs.takeWhile (· == quote)).length
  if count < 3 then none
  else
    let inner := min (count - 3) 2
    some (List.replicate inner quote, cs.drop (inner + 3))

def readBasicPiece : Reader (List Char)
  | '\\' :: rest => match readLineSplice rest with
    | some rest => some ([], rest)
    | none => (readEscape rest).map fun (c, rest) => ([c], rest)
  | c :: rest =>
    if isPlain c then some ([c], rest)
    else match readNewline (c :: rest) with
      | some rest => some (['\n'], rest)
      | none => readInnerQuotes '"' (c :: rest)
  | [] => none

def readLiteralPiece : Reader (List Char)
  | c :: rest =>
    if isLiteral c then some ([c], rest)
    else match readNewline (c :: rest) with
      | some rest => some (['\n'], rest)
      | none => readInnerQuotes '\'' (c :: rest)
  | [] => none

/-- A string over several lines after its opening quotes; a line end right there is dropped. -/
def readLines (quote : Char) (piece : Reader (List Char)) (cs : List Char) :
    Option (String × List Char) := do
  let (pieces, rest) := readMany piece ((readNewline cs).getD cs)
  let (last, rest) ← readClosing quote rest
  return (String.ofList (pieces.flatten ++ last), rest)

def readString : Reader String
  | '"' :: '"' :: '"' :: rest => readLines '"' readBasicPiece rest
  | '"' :: rest => readBasic rest
  | '\'' :: '\'' :: '\'' :: rest => readLines '\'' readLiteralPiece rest
  | '\'' :: rest => readLiteral rest
  | _ => none

def isBare (c : Char) : Bool :=
  'a' ≤ c && c ≤ 'z' || 'A' ≤ c && c ≤ 'Z' || '0' ≤ c && c ≤ '9' || c == '-' || c == '_'

def readKeyPart : Reader String
  | '"' :: rest => readBasic rest
  | '\'' :: rest => readLiteral rest
  | cs =>
    if (cs.takeWhile isBare).isEmpty then none
    else some (String.ofList (cs.takeWhile isBare), cs.dropWhile isBare)

def readSpacedPart (cs : List Char) : Option (String × List Char) :=
  (readKeyPart (skipSpaces cs)).map fun (part, rest) => (part, skipSpaces rest)

/-- The depth of nesting that is refused, in keys and in values. -/
def depthLimit : Nat := 80

def readKey (cs : List Char) : Option (List String × List Char) := do
  let (first, rest) ← readSpacedPart cs
  let (others, rest) := readMany (fun cs => readChar '.' cs >>= readSpacedPart) rest
  if depthLimit ≤ others.length + 1 then none else some (first :: others, rest)

end MeshRouting.Toml
