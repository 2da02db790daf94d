import MeshRouting.Net.IpText
import MeshRouting.Text.Blank

/-!
# Address ranges

A range holds the addresses that agree with its own address in the first `length` bits. Ranges
and addresses are compared in canonical form, so an IPv4-mapped range is an IPv4 range.
-/
namespace MeshRouting

open MeshRouting.Text

inductive CidrError where
  | missingLength (source : String)
  | invalidAddress (source : String)
  | invalidLength (source : String)
  | lengthTooLong (ip : Ip) (length : Nat)
  deriving DecidableEq, Repr

/-- A range such as `10.0.0.0/8`. -/
structure Cidr where
  ip : Ip
  length : Nat
  length_le : length ≤ ip.width
  deriving DecidableEq, Repr

namespace Cidr

def textOf (ip : Ip) (length : Nat) : String :=
  String.ofList (ip.toChars ++ '/' :: numeral 10 length)

def text (r : Cidr) : String := Cidr.textOf r.ip r.length

end Cidr

namespace CidrError

def message : CidrError → String
  | missingLength source => s!"missing '/' in CIDR range '{source}'"
  | invalidAddress source => s!"invalid address in CIDR range '{source}'"
  | invalidLength source => s!"invalid prefix length in CIDR range '{source}'"
  | lengthTooLong ip length =>
    s!"prefix length {length} exceeds {ip.width} in CIDR range '" ++ Cidr.textOf ip length ++ "'"

end CidrError

namespace Cidr

def make? (ip : Ip) (length : Nat) : Except CidrError Cidr :=
  if h : length ≤ ip.width then .ok ⟨ip, length, h⟩ else .error (.lengthTooLong ip length)

/-- The bits to drop before words of `width` bits are compared, if any are left. -/
def droppedBits (width length : Nat) : Option Nat :=
  if length = 0 then none else some (width - min length width)

/-- Whether two words agree in their first `length` bits. -/
def agree {width : Nat} (length : Nat) (a b : BitVec width) : Bool :=
  match droppedBits width length with
  | none => true
  | some dropped => a >>> dropped == b >>> dropped

/-- The 96 bits that map an IPv4 address do not count towards the length. -/
def canonical (r : Cidr) : Ip × Nat :=
  match r.ip with
  | .v4 bits => (.v4 bits, r.length)
  | .v6 bits => match Ip.mapped? bits with
    | some inner => (.v4 inner, r.length - 96)
    | none => (.v6 bits, r.length)

def contains (r : Cidr) (ip : Ip) : Bool :=
  match r.canonical, ip.canonical with
  | (.v4 net, length), .v4 bits => agree length net bits
  | (.v6 net, length), .v6 bits => agree length net bits
  | _, _ => false

/-- A decimal number below 256, with an optional plus sign. -/
def readLength (cs : List Char) : Option Nat :=
  match readNumber 10 ((readChar '+' cs).getD cs) with
  | some (n, []) => if n < 256 then some n else none
  | _ => none

/-- What stands before and after the first slash. -/
def splitSlash (cs : List Char) : Option (List Char × List Char) :=
  match cs.dropWhile (· != '/') with
  | [] => none
  | _ :: rest => some (cs.takeWhile (· != '/'), rest)

/-- The address is looked at before the length; blanks around either are dropped. -/
def ofText (s : String) : Except CidrError Cidr :=
  match splitSlash s.toList with
  | none => .error (.missingLength s)
  | some (address, length) =>
    match Ip.ofChars? (trim address) with
    | none => .error (.invalidAddress s)
    | some ip => match readLength (trim length) with
      | none => .error (.invalidLength s)
      | some n => make? ip n

end Cidr
end MeshRouting
