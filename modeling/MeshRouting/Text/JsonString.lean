import MeshRouting.Text.Numeral

/-!
# JSON strings

Text as a JSON string literal: quotes, backslashes and control characters are escaped, and all
else stands for itself.
-/
namespace MeshRouting.Text

/-- A control character by its code point, in four hexadecimal digits. -/
def jsonCodeEscape (c : Char) : List Char :=
  ['\\', 'u'] ++ (lowDigits 16 4 c.toNat).map digitChar

def jsonChar (c : Char) : List Char :=
  match c with
  | '"' => ['\\', '"']
  | '\\' => ['\\', '\\']
  | '\x08' => ['\\', 'b']
  | '\x0c' => ['\\', 'f']
  | '\n' => ['\\', 'n']
  | '\r' => ['\\', 'r']
  | '\t' => ['\\', 't']
  | c => if c.toNat < 0x20 then jsonCodeEscape c else [c]

def jsonString (s : String) : List Char := '"' :: s.toList.flatMap jsonChar ++ ['"']

end MeshRouting.Text
