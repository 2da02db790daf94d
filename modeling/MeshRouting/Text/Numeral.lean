/-!
# Numerals

The digits of a natural number in a base, written and read with the highest digit first.
-/
namespace MeshRouting.Text

/-- All digits of a number; zero has one. -/
def digits (base n : Nat) : List Nat :=
  if base ≤ 1 ∨ n < base then [n] else digits base (n / base) ++ [n % base]
termination_by n
decreasing_by exact Nat.div_lt_self (by omega) (by omega)

def lowDigits (base : Nat) : Nat → Nat → List Nat
  | 0, _ => []
  | count + 1, n => lowDigits base count (n / base) ++ [n % base]

def ofDigits (base : Nat) (ds : List Nat) : Nat := ds.foldl (fun n d => n * base + d) 0

/-- Letters stand for the digits from ten on. -/
def digitChar (d : Nat) : Char := Char.ofNat (if d < 10 then 48 + d else 87 + d)

def numeral (base n : Nat) : List Char := (digits base n).map digitChar

/-- The digit that a character stands for; letters may be of either case. -/
def digitValue (c : Char) : Nat :=
  if 'a' ≤ c then c.toNat - 87 else if 'A' ≤ c then c.toNat - 55 else c.toNat - 48

def isDigit (base : Nat) (c : Char) : Bool :=
  ('0' ≤ c && c ≤ '9' || 'a' ≤ c && c ≤ 'z' || 'A' ≤ c && c ≤ 'Z') && digitValue c < base

/-- Whether a numeral has a zero before its first other digit. -/
def isPadded (ds : List Char) : Bool := ds.head? == some '0' && 1 < ds.length

/-- The number that the digits at the front of a text form, and what follows them. -/
def readNumber (base : Nat) (cs : List Char) : Option (Nat × List Char) :=
  match cs.takeWhile (isDigit base) with
  | [] => none
  | ds => some (ofDigits base (ds.map digitValue), cs.dropWhile (isDigit base))

/-- A number of at most `most` digits; one with more is refused, not cut. -/
def readShortNumber (base most : Nat) (cs : List Char) : Option (Nat × List Char) :=
  if most < (cs.takeWhile (isDigit base)).length then none else readNumber base cs

def readChar (c : Char) : List Char → Option (List Char)
  | [] => none
  | d :: rest => if d = c then some rest else none

end MeshRouting.Text
