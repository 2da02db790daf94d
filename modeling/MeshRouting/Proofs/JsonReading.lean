import MeshRouting.Text.Json
import Mathlib.Tactic.Lemma

/-!
# Reading JSON

A reader for JSON values made of strings, arrays and objects: blanks may stand around every token,
and a string may hold any character that is not a quote, a backslash or a control character, and
all escapes. What is written from a value is read back as that value.
-/
namespace MeshRouting.Text

/-! ### Strings -/

/-- The character that a short escape stands for. -/
def shortEscaped? : Char → Option Char
  | '"' => some '"'
  | '\\' => some '\\'
  | '/' => some '/'
  | 'b' => some '\x08'
  | 'f' => some '\x0c'
  | 'n' => some '\n'
  | 'r' => some '\r'
  | 't' => some '\t'
  | _ => none

/-- A code unit of four hexadecimal digits. -/
def readCodeUnit : List Char → Option (Nat × List Char)
  | a :: b :: c :: d :: rest =>
    if [a, b, c, d].all (isDigit 16) then
      some (ofDigits 16 ([a, b, c, d].map digitValue), rest)
    else none
  | _ => none

def isLeading (unit : Nat) : Bool := 0xD800 ≤ unit && unit < 0xDC00

def isTrailing (unit : Nat) : Bool := 0xDC00 ≤ unit && unit < 0xE000

/-- The second half of a character that takes two code units. -/
def readTrailing (leading : Nat) : List Char → Option (Char × List Char)
  | '\\' :: 'u' :: rest => do
    let (unit, rest) ← readCodeUnit rest
    if isTrailing unit then
      return (Char.ofNat (0x10000 + (leading - 0xD800) * 0x400 + (unit - 0xDC00)), rest)
    else none
  | _ => none

def readCode (cs : List Char) : Option (Char × List Char) := do
  let (unit, rest) ← readCodeUnit cs
  if isLeading unit then readTrailing unit rest
  else if isTrailing unit then none
  else return (Char.ofNat unit, rest)

/-- What an escape stands for, its backslash taken. -/
def readEscape : List Char → Option (Char × List Char)
  | 'u' :: rest => readCode rest
  | c :: rest => (shortEscaped? c).map (·, rest)
  | [] => none

/-- The first character of a literal's text, and what follows it. -/
def readCharacter : List Char → Option (Char × List Char)
  | '\\' :: rest => readEscape rest
  | c :: rest => if c = '"' ∨ c.toNat < 0x20 then none else some (c, rest)
  | [] => none

/-- The text of a literal up to the closing quote, of fewer characters than told. -/
def readCharacters : Nat → List Char → Option (List Char × List Char)
  | _ + 1, '"' :: rest => some ([], rest)
  | most + 1, cs => do
    let (c, rest) ← readCharacter cs
    let (others, rest) ← readCharacters most rest
    return (c :: others, rest)
  | 0, _ => none

def readString : List Char → Option (String × List Char)
  | '"' :: rest => (readCharacters rest.length rest).map fun (cs, rest) => (String.ofList cs, rest)
  | _ => none

lemma lowDigits_four (n : Nat) :
    lowDigits 16 4 n = [n / 16 / 16 / 16 % 16, n / 16 / 16 % 16, n / 16 % 16, n % 16] := rfl

lemma readCodeUnit_control : ∀ n < 0x20, ∀ rest,
    readCodeUnit ((lowDigits 16 4 n).map digitChar ++ rest) = some (n, rest) := by
  have hdigits : ∀ n < 0x20, ((lowDigits 16 4 n).map digitChar).all (isDigit 16) = true ∧
      ofDigits 16 (((lowDigits 16 4 n).map digitChar).map digitValue) = n := by decide
  intro n hn rest
  obtain ⟨hall, hvalue⟩ := hdigits n hn
  simp only [lowDigits_four, List.map_cons, List.map_nil, List.cons_append, List.nil_append]
    at hall hvalue ⊢
  rw [readCodeUnit, if_pos hall]
  simp only [List.map_cons, List.map_nil, hvalue]

/-- A control character by its code point is no half of another character. -/
lemma readCode_control {c : Char} (h : c.toNat < 0x20) (rest : List Char) :
    readCode ((lowDigits 16 4 c.toNat).map digitChar ++ rest) = some (c, rest) := by
  have hleading : isLeading c.toNat = false := by simp [isLeading]; omega
  have htrailing : isTrailing c.toNat = false := by simp [isTrailing]; omega
  simp [readCode, readCodeUnit_control _ h, hleading, htrailing]

/-- A character is read back as it was written. -/
theorem readCharacter_jsonChar (c : Char) (rest : List Char) :
    readCharacter (jsonChar c ++ rest) = some (c, rest) := by
  unfold jsonChar
  split
  case h_8 hquote hslash _ _ _ _ _ =>
    split
    · rename_i hlow
      exact readCode_control hlow rest
    · rename_i hhigh
      rw [List.singleton_append, readCharacter, if_neg (not_or.mpr ⟨hquote, hhigh⟩)]
      exact hslash
  all_goals rfl

lemma jsonChar_ne_quote (c : Char) (rest other : List Char) :
    jsonChar c ++ rest ≠ '"' :: other := by
  intro he
  have hread := readCharacter_jsonChar c rest
  rw [he] at hread
  cases hread

lemma readCharacters_flatMap (cs : List Char) {most : Nat} (h : cs.length < most)
    (rest : List Char) :
    readCharacters most (cs.flatMap jsonChar ++ '"' :: rest) = some (cs, rest) := by
  induction cs generalizing most with
  | nil =>
    obtain ⟨fewer, rfl⟩ := Nat.exists_eq_add_of_lt h
    simp [readCharacters]
  | cons c cs ih =>
    obtain ⟨fewer, rfl⟩ : ∃ fewer, most = fewer + 1 := ⟨most - 1, by omega⟩
    have hfewer : cs.length < fewer := by simpa using h
    have hrest := ih hfewer
    rw [List.flatMap_cons, List.append_assoc, readCharacters]
    · simp [readCharacter_jsonChar, hrest]
    · exact fun other => jsonChar_ne_quote c _ other

lemma jsonChar_ne_nil (c : Char) : jsonChar c ≠ [] := by
  intro he
  have hread := readCharacter_jsonChar c []
  rw [he] at hread
  cases hread

lemma length_le_flatMap_jsonChar (cs : List Char) : cs.length ≤ (cs.flatMap jsonChar).length := by
  induction cs with
  | nil => exact Nat.le_refl _
  | cons c cs ih =>
    have hpos := List.length_pos_iff.mpr (jsonChar_ne_nil c)
    rw [List.flatMap_cons, List.length_append, List.length_cons]
    omega

/-- A string is read back as it was written. -/
theorem readString_jsonString (s : String) (rest : List Char) :
    readString (jsonString s ++ rest) = some (s, rest) := by
  have hlength := length_le_flatMap_jsonChar s.toList
  rw [jsonString, List.cons_append, List.cons_append, List.append_assoc, List.singleton_append,
    readString, readCharacters_flatMap _ (by rw [List.length_append, List.length_cons]; omega)]
  simp

namespace Json

/-! ### Lists -/

def isBlank (c : Char) : Bool := c == ' ' || c == '\t' || c == '\n' || c == '\r'

def skipBlanks (cs : List Char) : List Char := cs.dropWhile isBlank

section

variable {α : Type}

/-- Items with commas between them up to the closing character, at most as many as told. -/
def readListed (read : List Char → Option (α × List Char)) (close : Char) :
    Nat → List Char → Option (List α × List Char)
  | 0, _ => none
  | most + 1, cs => do
    let (item, rest) ← read cs
    match skipBlanks rest with
    | [] => none
    | c :: rest =>
      if c = close then return ([item], rest)
      else if c = ',' then do
        let (others, rest) ← readListed read close most rest
        return (item :: others, rest)
      else none

/-- The items of a list whose opening character has been taken. -/
def readList (read : List Char → Option (α × List Char)) (close : Char) (cs : List Char) :
    Option (List α × List Char) :=
  match skipBlanks cs with
  | [] => none
  | c :: rest => if c = close then some ([], rest) else readListed read close cs.length cs

lemma skipBlanks_cons {c : Char} (h : isBlank c = false) (rest : List Char) :
    skipBlanks (c :: rest) = c :: rest := List.dropWhile_cons_of_neg (by simp [h])

variable {read : List Char → Option (α × List Char)} {write : α → List Char} {close : Char}

/-- If each item is read back as it was written, then so are items with commas between them. -/
lemma readListed_intercalate (hclose : isBlank close = false) (hcomma : close ≠ ',')
    (first : α) (others : List α)
    (hread : ∀ item ∈ first :: others, ∀ rest, read (write item ++ rest) = some (item, rest))
    {most : Nat} (hmost : others.length < most) (rest : List Char) :
    readListed read close most
      ([','].intercalate ((first :: others).map write) ++ close :: rest) =
        some (first :: others, rest) := by
  induction others generalizing first most with
  | nil =>
    obtain ⟨fewer, rfl⟩ : ∃ fewer, most = fewer + 1 := ⟨most - 1, by omega⟩
    have hfirst := hread first List.mem_cons_self (close :: rest)
    rw [List.map_singleton, List.intercalate_singleton, readListed, hfirst]
    simp [skipBlanks_cons hclose]
  | cons next others ih =>
    obtain ⟨fewer, rfl⟩ : ∃ fewer, most = fewer + 1 := ⟨most - 1, by omega⟩
    obtain ⟨hfirst, hothers⟩ := List.forall_mem_cons.mp hread
    have hfewer : others.length < fewer := by simpa using hmost
    have hrest := ih next hothers hfewer
    rw [List.map_cons, List.map_cons, List.intercalate_cons_cons, List.append_assoc,
      List.append_assoc, List.singleton_append, readListed, hfirst]
    rw [List.map_cons] at hrest
    have hblank : isBlank ',' = false := by decide
    simp [skipBlanks_cons hblank, hcomma.symm, hrest]

variable (write) in
lemma length_le_intercalate_of_mem {item : α} {items : List α} (hm : item ∈ items) :
    (write item).length ≤ ([','].intercalate (items.map write)).length := by
  induction items with
  | nil => exact absurd hm List.not_mem_nil
  | cons first others ih =>
    cases others with
    | nil => simp [List.mem_singleton.mp hm]
    | cons next others =>
      rw [List.map_cons, List.map_cons, List.intercalate_cons_cons, ← List.map_cons]
      simp only [List.length_append]
      rcases List.mem_cons.mp hm with rfl | hm
      · omega
      · have := ih hm
        omega

variable (write) in
lemma length_le_intercalate (items : List α) (hne : ∀ item ∈ items, write item ≠ []) :
    items.length ≤ ([','].intercalate (items.map write)).length := by
  induction items with
  | nil => exact Nat.zero_le _
  | cons first others ih =>
    obtain ⟨hfirst, hothers⟩ := List.forall_mem_cons.mp hne
    have hpos := List.length_pos_iff.mpr hfirst
    cases others with
    | nil => simpa using Nat.succ_le_of_lt hpos
    | cons next others =>
      have hrest := ih hothers
      rw [List.map_cons, List.map_cons, List.intercalate_cons_cons, ← List.map_cons]
      simp only [List.length_append, List.length_cons] at hrest ⊢
      omega

variable (read write close) in
/-- A list is read back as it was written, if no item starts like its end or with a blank. -/
theorem readList_intercalate (hclose : isBlank close = false) (hcomma : close ≠ ',')
    (items : List α)
    (hstart : ∀ item ∈ items, ∃ c rest, write item = c :: rest ∧ isBlank c = false ∧ c ≠ close)
    (hread : ∀ item ∈ items, ∀ rest, read (write item ++ rest) = some (item, rest))
    (rest : List Char) :
    readList read close ([','].intercalate (items.map write) ++ close :: rest) =
      some (items, rest) := by
  cases items with
  | nil => simp [readList, skipBlanks_cons hclose]
  | cons first others =>
    obtain ⟨c, tail, hw, hblank, hc⟩ := hstart first List.mem_cons_self
    have hlength := length_le_intercalate write (first :: others) fun item hm => by
      obtain ⟨c, tail, hw, -⟩ := hstart item hm
      rw [hw]
      exact List.cons_ne_nil c tail
    have hmost : others.length <
        ([','].intercalate ((first :: others).map write) ++ close :: rest).length := by
      rw [List.length_append]
      rw [List.length_cons] at hlength
      omega
    have hlisted := readListed_intercalate hclose hcomma first others hread hmost rest
    obtain ⟨more, hmore⟩ : ∃ more,
        [','].intercalate ((first :: others).map write) ++ close :: rest = c :: more := by
      cases others with
      | nil => simp [hw]
      | cons next others => simp [hw, List.intercalate_cons_cons]
    rw [hmore] at hlisted ⊢
    rw [readList, skipBlanks_cons hblank]
    simp only
    rw [if_neg hc, hlisted]

end

/-! ### Values -/

/-- A member of an object, its value read as told. -/
def readMember (read : List Char → Option (Json × List Char)) (cs : List Char) :
    Option ((String × Json) × List Char) := do
  let (name, rest) ← readString (skipBlanks cs)
  match skipBlanks rest with
  | ':' :: rest => do
    let (value, rest) ← read rest
    return ((name, value), rest)
  | _ => none

/-- The value at the front of a text, in which values are nested less deep than told. -/
def readValue : Nat → List Char → Option (Json × List Char)
  | 0, _ => none
  | depth + 1, cs => match skipBlanks cs with
    | '[' :: rest =>
      (readList (readValue depth) ']' rest).map fun (items, rest) => (array items, rest)
    | '\x7b' :: rest =>
      (readList (readMember (readValue depth)) '\x7d' rest).map fun (members, rest) =>
        (object members, rest)
    | rest => (readString rest).map fun (value, rest) => (string value, rest)

/-- The value of a text that holds nothing else. -/
def ofText? (text : String) : Option Json := do
  let (value, rest) ← readValue text.length text.toList
  if (skipBlanks rest).isEmpty then return value else none

def writeMember (member : String × Json) : List Char := jsonString member.1 ++ ':' :: member.2.write

lemma writeItems_eq (items : List Json) :
    writeItems items = [','].intercalate (items.map write) := by
  induction items with
  | nil => rfl
  | cons item others ih =>
    cases others with
    | nil => simp [writeItems]
    | cons next others => simp [writeItems, ih, List.intercalate_cons_cons]

lemma writeMembers_eq (members : List (String × Json)) :
    writeMembers members = [','].intercalate (members.map writeMember) := by
  induction members with
  | nil => rfl
  | cons member others ih =>
    cases others with
    | nil => simp [writeMembers, writeMember]
    | cons next others => simp [writeMembers, writeMember, ih, List.intercalate_cons_cons]

/-- A value starts with a quote or an opening bracket. -/
lemma exists_write_eq_cons (value : Json) :
    ∃ c rest, value.write = c :: rest ∧ isBlank c = false ∧ c ≠ ']' := by
  cases value with
  | string s => exact ⟨'"', _, by rw [write, jsonString, List.cons_append], by decide, by decide⟩
  | array items => exact ⟨'[', _, by rw [write, List.cons_append], by decide, by decide⟩
  | object members => exact ⟨'\x7b', _, by rw [write, List.cons_append], by decide, by decide⟩

lemma exists_writeMember_eq_cons (member : String × Json) :
    ∃ c rest, writeMember member = c :: rest ∧ isBlank c = false ∧ c ≠ '\x7d' :=
  ⟨'"', _, by rw [writeMember, jsonString, List.cons_append, List.cons_append], by decide,
    by decide⟩

lemma skipBlanks_jsonString (s : String) (rest : List Char) :
    skipBlanks (jsonString s ++ rest) = jsonString s ++ rest := skipBlanks_cons (by decide) _

lemma readMember_writeMember {read : List Char → Option (Json × List Char)}
    (member : String × Json)
    (hread : ∀ rest, read (member.2.write ++ rest) = some (member.2, rest)) (rest : List Char) :
    readMember read (writeMember member ++ rest) = some (member, rest) := by
  have hcolon : isBlank ':' = false := by decide
  rw [writeMember, List.append_assoc, List.cons_append, readMember, skipBlanks_jsonString,
    readString_jsonString]
  simp [skipBlanks_cons hcolon, hread]

/-- A value is read back as it was written, whatever stands behind it. -/
theorem readValue_write (value : Json) (depth : Nat) (rest : List Char)
    (h : value.write.length ≤ depth) :
    readValue depth (value.write ++ rest) = some (value, rest) := by
  induction depth generalizing value rest with
  | zero =>
    obtain ⟨c, tail, hw, -⟩ := exists_write_eq_cons value
    rw [hw] at h
    exact absurd h (Nat.not_succ_le_zero _)
  | succ depth ih =>
    cases value with
    | string s =>
      have hread := readString_jsonString s rest
      rw [write, readValue, skipBlanks_jsonString]
      rw [jsonString, List.cons_append, List.cons_append] at hread ⊢
      show (readString _).map _ = _
      rw [hread]
      rfl
    | array items =>
      have hbracket : isBlank '[' = false := by decide
      rw [write, writeItems_eq] at h ⊢
      have hshort : ∀ item ∈ items, item.write.length ≤ depth := by
        intro item hm
        have hitem := length_le_intercalate_of_mem write hm
        simp only [List.cons_append, List.length_cons, List.length_append] at h
        omega
      have hlist := readList_intercalate (readValue depth) write ']' (by decide) (by decide) items
        (fun item _ => exists_write_eq_cons item)
        (fun item hm rest => ih item rest (hshort item hm)) rest
      simp [readValue, skipBlanks_cons hbracket, hlist]
    | object members =>
      have hbrace : isBlank '\x7b' = false := by decide
      rw [write, writeMembers_eq] at h ⊢
      have hshort : ∀ member ∈ members, member.2.write.length ≤ depth := by
        intro member hm
        have hmember := length_le_intercalate_of_mem writeMember hm
        simp only [List.cons_append, List.length_cons, List.length_append] at h
        rw [writeMember, List.length_append, List.length_cons] at hmember
        omega
      have hlist := readList_intercalate (readMember (readValue depth)) writeMember '\x7d'
        (by decide) (by decide) members
        (fun member _ => exists_writeMember_eq_cons member)
        (fun member hm => readMember_writeMember member fun rest =>
          ih member.2 rest (hshort member hm)) rest
      simp [readValue, skipBlanks_cons hbrace, hlist]

/-- A text that was written from a value is read as that value. -/
theorem ofText?_text (value : Json) : ofText? value.text = some value := by
  have hread := readValue_write value value.write.length [] (Nat.le_refl _)
  rw [List.append_nil] at hread
  rw [ofText?, text, String.toList_ofList, String.length_ofList, hread]
  rfl

/-- Blanks and escapes that are never written are read too. -/
example : ofText? " \x7b \"a\" : [ \"\\u00E9\\/\\ud83d\\ude00\" ] \x7d " =
    some (object [("a", array [string "é/😀"])]) := by rfl

end Json
end MeshRouting.Text
