import MeshRouting.Net.IpText

/-!
# Socket addresses

An IP address and a port. An IPv6 address is written in brackets and may carry a scope.
-/
namespace MeshRouting

open MeshRouting.Text

/-- The scope is zero where none is given, and always for IPv4. -/
structure Endpoint where
  ip : Ip
  port : UInt16
  scope : UInt32 := 0
  deriving DecidableEq, Repr

namespace Endpoint

def scopeText (scope : UInt32) : List Char :=
  if scope = 0 then [] else '%' :: numeral 10 scope.toNat

def text (e : Endpoint) : String :=
  match e.ip with
  | .v4 _ => String.ofList (e.ip.toChars ++ ':' :: numeral 10 e.port.toNat)
  | .v6 _ => String.ofList
      ('[' :: e.ip.toChars ++ scopeText e.scope ++ [']', ':'] ++ numeral 10 e.port.toNat)

/-- A port that ends the text; zeros in front are allowed. -/
def readPort (cs : List Char) : Option UInt16 := do
  let (port, rest) ← readChar ':' cs >>= readNumber 10
  if rest.isEmpty && port < 65536 then some (UInt16.ofNat port) else none

/-- A scope, if a well-formed one is there. -/
def readScope (cs : List Char) : UInt32 × List Char :=
  match readChar '%' cs >>= readNumber 10 with
  | some (scope, rest) => if scope < UInt32.size then (UInt32.ofNat scope, rest) else (0, cs)
  | none => (0, cs)

def readBracketed (cs : List Char) : Option Endpoint := do
  let (bits, cs) ← readChar '[' cs >>= Ip.readV6
  let (scope, cs) := readScope cs
  let port ← readChar ']' cs >>= readPort
  return ⟨.v6 bits, port, scope⟩

def ofText? (s : String) : Option Endpoint :=
  match Ip.readQuad s.toList with
  | some (os, rest) => (readPort rest).map fun port => ⟨.v4 (Ip.ofOctets os), port, 0⟩
  | none => readBracketed s.toList

end Endpoint
end MeshRouting
