import MeshRouting.Net.Ip
import MeshRouting.Text.Numeral

/-!
# Text of IP addresses

IPv4 addresses are four decimal octets. IPv6 addresses are eight hexadecimal groups; the first
longest run of two or more zero groups is left out, and a mapped address ends in its octets.
-/
namespace MeshRouting.Ip

open MeshRouting.Text

def octets (bits : BitVec 32) : List Nat := lowDigits 256 4 bits.toNat

def ofOctets (os : List Nat) : BitVec 32 := BitVec.ofNat 32 (ofDigits 256 os)

def groups (bits : BitVec 128) : List Nat := lowDigits 65536 8 bits.toNat

def ofGroups (gs : List Nat) : BitVec 128 := BitVec.ofNat 128 (ofDigits 65536 gs)

def dotted (os : List Nat) : List Char := ['.'].intercalate (os.map (numeral 10))

def coloned (gs : List Nat) : List Char := [':'].intercalate (gs.map (numeral 16))

/-- Where the first longest run of zeros starts, and its length. -/
def longestZeroRun : List Nat → Nat × Nat
  | [] => (0, 0)
  | g :: gs =>
    let here := ((g :: gs).takeWhile (· == 0)).length
    let (start, length) := longestZeroRun gs
    if length ≤ here then (0, here) else (start + 1, length)

/-- Eight groups, a long enough run of zeros left out. -/
def groupText (gs : List Nat) : List Char :=
  let (start, length) := longestZeroRun gs
  if length ≤ 1 then coloned gs
  else coloned (gs.take start) ++ [':', ':'] ++ coloned (gs.drop (start + length))

def toChars : Ip → List Char
  | v4 bits => dotted (octets bits)
  | v6 bits => match mapped? bits with
    | some inner => "::ffff:".toList ++ dotted (octets inner)
    | none => groupText (groups bits)

def text (ip : Ip) : String := String.ofList ip.toChars

/-- An octet has one to three digits and no zero in front of others. -/
def readOctet (cs : List Char) : Option (Nat × List Char) := do
  let (n, rest) ← readShortNumber 10 3 cs
  if isPadded (cs.takeWhile (isDigit 10)) || 255 < n then none else some (n, rest)

def readQuad (cs : List Char) : Option (List Nat × List Char) := do
  let (a, cs) ← readOctet cs
  let (b, cs) ← readChar '.' cs >>= readOctet
  let (c, cs) ← readChar '.' cs >>= readOctet
  let (d, cs) ← readChar '.' cs >>= readOctet
  return ([a, b, c, d], cs)

/-- What is read after a colon, except at the beginning of a run of groups. -/
def afterColon (first : Bool) (cs : List Char) : Option (List Char) :=
  if first then some cs else readChar ':' cs

/-- Groups read in a row, and whether the last two came from a dotted quad. -/
structure GroupRun where
  groups : List Nat
  dotted : Bool
  rest : List Char

/-- At most `limit` groups; a dotted quad counts for two and ends the run. -/
def readGroups : (first : Bool) → (limit : Nat) → List Char → GroupRun
  | _, 0, cs => ⟨[], false, cs⟩
  | first, limit + 1, cs =>
    match if limit = 0 then none else afterColon first cs >>= readQuad with
    | some (os, rest) => ⟨lowDigits 65536 2 (ofDigits 256 os), true, rest⟩
    | none => match afterColon first cs >>= readShortNumber 16 4 with
      | none => ⟨[], false, cs⟩
      | some (g, rest) =>
        let run := readGroups false limit rest
        { run with groups := g :: run.groups }

/-- Eight groups, or fewer around a double colon that stands for at least one zero group. -/
def readV6 (cs : List Char) : Option (BitVec 128 × List Char) :=
  let head := readGroups true 8 cs
  if head.groups.length = 8 then some (ofGroups head.groups, head.rest)
  else if head.dotted then none
  else do
    let cs ← readChar ':' head.rest >>= readChar ':'
    let tail := readGroups true (7 - head.groups.length) cs
    let zeros := List.replicate (8 - head.groups.length - tail.groups.length) 0
    return (ofGroups (head.groups ++ zeros ++ tail.groups), tail.rest)

def ofChars? (cs : List Char) : Option Ip :=
  match readQuad cs with
  | some (os, rest) => if rest.isEmpty then some (v4 (ofOctets os)) else none
  | none => match readV6 cs with
    | some (bits, []) => some (v6 bits)
    | _ => none

def ofText? (s : String) : Option Ip := ofChars? s.toList

end MeshRouting.Ip
