import MeshRouting.Toml.Reader
import MeshRouting.Toml.Value

/-!
# Numbers, dates and times

Integers are 64-bit and may be written to four bases. Floating-point numbers and dates are only
checked: a number must not be rounded to positive infinity, a date must be in the calendar.
-/
namespace MeshRouting.Toml

open MeshRouting.Text

/-- The digits at the front of a text, single underscores between them left out. -/
def takeDigits (base : Nat) : List Char → List Char × List Char
  | '_' :: c :: rest =>
    if isDigit base c then
      let (ds, rest) := takeDigits base rest
      (c :: ds, rest)
    else ([], '_' :: c :: rest)
  | c :: rest =>
    if isDigit base c then
      let (ds, rest) := takeDigits base rest
      (c :: ds, rest)
    else ([], c :: rest)
  | [] => ([], [])

def readDigits (base : Nat) : Reader (List Char)
  | c :: rest => if isDigit base c then some (takeDigits base (c :: rest)) else none
  | [] => none

/-- A sign; whether it is a minus. -/
def readSign : List Char → Bool × List Char
  | '-' :: rest => (true, rest)
  | '+' :: rest => (false, rest)
  | cs => (false, cs)

/-- Decimal digits without a zero in front of others. -/
def readWhole : Reader (List Char)
  | '0' :: rest => some (['0'], rest)
  | cs => readDigits 10 cs

def valueOf (base : Nat) (ds : List Char) : Nat := ofDigits base (ds.map digitValue)

def integerOf? (n : Int) : Option Int64 :=
  if Int64.minValue.toInt ≤ n ∧ n ≤ Int64.maxValue.toInt then some (Int64.ofInt n) else none

def readBased (base : Nat) (cs : List Char) : Option (Int64 × List Char) := do
  let (ds, rest) ← readDigits base cs
  return (← integerOf? (valueOf base ds), rest)

def readDecimal (cs : List Char) : Option (Int64 × List Char) := do
  let (negative, cs) := readSign cs
  let (ds, rest) ← readWhole cs
  let n : Int := valueOf 10 ds
  return (← integerOf? (if negative then -n else n), rest)

/-- Only decimal integers may have a sign. -/
def readInteger : Reader Int64
  | '0' :: 'x' :: rest => readBased 16 rest
  | '0' :: 'o' :: rest => readBased 8 rest
  | '0' :: 'b' :: rest => readBased 2 rest
  | cs => readDecimal cs

def readFraction (cs : List Char) : Option (List Char × List Char) :=
  readChar '.' cs >>= readDigits 10

def readExponent : Reader Int
  | 'e' :: rest | 'E' :: rest => do
    let (negative, rest) := readSign rest
    let (ds, rest) ← readDigits 10 rest
    return (if negative then -(valueOf 10 ds : Int) else valueOf 10 ds, rest)
  | _ => none

/-- Whether the given digits times a power of ten are nearer to `2 ^ 1024` than to any smaller
floating-point number. -/
def roundsToInfinity (ds : List Char) (exponent : Int) : Bool :=
  let ds := ds.dropWhile (· == '0')
  let size := ds.length + exponent
  let limit := Nat.pow 2 1024 - Nat.pow 2 970
  if ds.isEmpty || size < 300 then false
  else if 320 < size then true
  else limit * Nat.pow 10 (-exponent).toNat ≤ valueOf 10 ds * Nat.pow 10 exponent.toNat

def readFloat (cs : List Char) : Option (Unit × List Char) := do
  let (negative, cs) := readSign cs
  let (whole, cs) ← readWhole cs
  let (fraction, cs) ← match readFraction cs with
    | some (fraction, rest) => some (some fraction, rest)
    | none => some (none, cs)
  let (exponent, cs) ← match readExponent cs, fraction with
    | some (exponent, rest), _ => some (exponent, rest)
    | none, some _ => some (0, cs)
    | none, none => none
  let ds := fraction.getD []
  if !negative && roundsToInfinity (whole ++ ds) (exponent - ds.length) then none
  else some ((), cs)

/-- Infinity and what is not a number have names. -/
def readNamedFloat (cs : List Char) : Option (Unit × List Char) :=
  match (readSign cs).2 with
  | 'i' :: 'n' :: 'f' :: rest | 'n' :: 'a' :: 'n' :: rest => some ((), rest)
  | _ => none

def readField (count : Nat) (cs : List Char) : Option (Nat × List Char) :=
  let ds := cs.take count
  if ds.length = count && ds.all (isDigit 10) then some (valueOf 10 ds, cs.drop count) else none

def isLeapYear (year : Nat) : Bool := year % 4 == 0 && (year % 100 != 0 || year % 400 == 0)

def daysOf (year month : Nat) : Nat :=
  if month = 2 then (if isLeapYear year then 29 else 28)
  else if [4, 6, 9, 11].contains month then 30 else 31

def readDate (cs : List Char) : Option (Unit × List Char) := do
  let (year, cs) ← readField 4 cs
  let (month, cs) ← readChar '-' cs >>= readField 2
  let (day, cs) ← readChar '-' cs >>= readField 2
  if 1 ≤ month && month ≤ 12 && 1 ≤ day && day ≤ daysOf year month then some ((), cs) else none

def readClock (cs : List Char) : Option (Unit × List Char) := do
  let (hour, cs) ← readField 2 cs
  let (minute, cs) ← readChar ':' cs >>= readField 2
  if hour ≤ 23 && minute ≤ 59 then some ((), cs) else none

def skipSecondFraction (cs : List Char) : List Char :=
  match readChar '.' cs with
  | some (c :: rest) => if isDigit 10 c then rest.dropWhile (isDigit 10) else cs
  | _ => cs

/-- A time to the second; a leap second may be the sixtieth. -/
def readTime (cs : List Char) : Option (Unit × List Char) := do
  let (_, cs) ← readClock cs
  let (second, cs) ← readChar ':' cs >>= readField 2
  if second ≤ 60 then some ((), skipSecondFraction cs) else none

/-- Skip the offset from universal time, if there is one. -/
def skipOffset : List Char → List Char
  | 'Z' :: rest | 'z' :: rest => rest
  | '+' :: rest => ((readClock rest).map (·.2)).getD ('+' :: rest)
  | '-' :: rest => ((readClock rest).map (·.2)).getD ('-' :: rest)
  | cs => cs

def skipTimeOfDay (cs : List Char) : List Char :=
  match cs with
  | 'T' :: rest | 't' :: rest | ' ' :: rest => match readTime rest with
    | some (_, rest) => skipOffset rest
    | none => cs
  | _ => cs

def readDatetime (cs : List Char) : Option (Unit × List Char) :=
  match readDate cs with
  | some (_, rest) => some ((), skipTimeOfDay rest)
  | none => readTime cs

def readNumber (cs : List Char) : Option (Scalar × List Char) :=
  (readDatetime cs).map (fun (_, rest) => (Scalar.datetime, rest))
    <|> (readFloat cs).map (fun (_, rest) => (Scalar.float, rest))
    <|> (readNamedFloat cs).map (fun (_, rest) => (Scalar.float, rest))
    <|> (readInteger cs).map fun (n, rest) => (Scalar.integer n, rest)

end MeshRouting.Toml
