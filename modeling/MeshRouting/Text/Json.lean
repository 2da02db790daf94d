import MeshRouting.Text.JsonString

/-!
# JSON text

JSON values made of strings, arrays and objects, written without blanks. Members keep the order
in which they are given.
-/
namespace MeshRouting.Text

inductive Json where
  | string (value : String)
  | array (items : List Json)
  | object (members : List (String × Json))

namespace Json

mutual

def write : Json → List Char
  | string value => jsonString value
  | array items => '[' :: writeItems items ++ [']']
  | object members => '\x7b' :: writeMembers members ++ ['\x7d']

def writeItems : List Json → List Char
  | [] => []
  | [item] => write item
  | item :: rest => write item ++ ',' :: writeItems rest

def writeMembers : List (String × Json) → List Char
  | [] => []
  | [(name, value)] => jsonString name ++ ':' :: write value
  | (name, value) :: rest => jsonString name ++ ':' :: write value ++ ',' :: writeMembers rest

end

def text (value : Json) : String := String.ofList value.write

end Json
end MeshRouting.Text
