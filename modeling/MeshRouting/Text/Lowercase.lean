import MeshRouting.Text.CaseData

/-!
# Lower-casing

Full lower-casing of text, independent of language. Each character is lowered by itself, except
that a capital sigma becomes the final form `ς` where a word ends, which depends on its
neighbours. The dotted capital `İ` becomes two characters.
-/
namespace MeshRouting.Text

/-- The code point that a character lowers to, `İ` and the capital sigma apart. -/
def lowerCode (code : Nat) : Nat :=
  match lowerRuns.find? (·.holds code) with
  | some run => (code + run.shift).toNat
  | none => code

/-- A character lowered without regard to its neighbours. -/
def lowerAlone (c : Char) : List Char :=
  if c.toNat < 128 then [if 'A' ≤ c ∧ c ≤ 'Z' then Char.ofNat (c.toNat + 32) else c]
  else if c = 'İ' then ['i', '\u0307']
  else [Char.ofNat (lowerCode c.toNat)]

def isCased (c : Char) : Bool := inSpans casedSpans c.toNat

def isCaseIgnorable (c : Char) : Bool := inSpans caseIgnorableSpans c.toNat

/-- Whether the first character that is not Case_Ignorable is Cased. -/
def meetsCased (cs : List Char) : Bool :=
  ((cs.dropWhile isCaseIgnorable).head?.map isCased).getD false

/-- A capital sigma is final when a cased letter stands before it and none after it. -/
def lowerSigma (before after : List Char) : Char :=
  if meetsCased before && !meetsCased after then 'ς' else 'σ'

/-- Lower the rest of a text; `before` holds what precedes it, the nearest character first. -/
def lowerFrom (before : List Char) : List Char → List Char
  | [] => []
  | c :: after =>
    (if c = 'Σ' then [lowerSigma before after] else lowerAlone c) ++ lowerFrom (c :: before) after

def lowercase (s : String) : String := String.ofList (lowerFrom [] s.toList)

end MeshRouting.Text
