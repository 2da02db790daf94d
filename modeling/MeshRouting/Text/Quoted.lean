import MeshRouting.Text.Numeral
import MeshRouting.Text.QuoteData

/-!
# Quoted text

Text inside double quotes as log lines show it: a character that could not be read back from the
screen is written as an escape.
-/
namespace MeshRouting.Text

/-- Whether a character is written by its code point inside quotes. -/
def hidesInQuotes (c : Char) : Bool :=
  127 ≤ c.toNat && inSpans extendingSpans c.toNat || inSpans invisibleSpans c.toNat

def quoteChar (c : Char) : List Char :=
  match c with
  | '"' => ['\\', '"']
  | '\\' => ['\\', '\\']
  | '\x00' => ['\\', '0']
  | '\t' => ['\\', 't']
  | '\n' => ['\\', 'n']
  | '\r' => ['\\', 'r']
  | c =>
    if hidesInQuotes c then ['\\', 'u', '\x7b'] ++ numeral 16 c.toNat ++ ['\x7d'] else [c]

def quote (s : String) : String :=
  String.ofList ('"' :: s.toList.flatMap quoteChar ++ ['"'])

def quoteAll (names : List String) : String :=
  "[" ++ ", ".intercalate (names.map quote) ++ "]"

end MeshRouting.Text
