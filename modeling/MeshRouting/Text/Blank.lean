import MeshRouting.Text.CaseData

/-!
# Blank characters

The characters with the Unicode property White_Space, and text without those at its ends.
-/
namespace MeshRouting.Text

def blankSpans : List Span :=
  [⟨0x9, 0xd⟩, ⟨0x20, 0x20⟩, ⟨0x85, 0x85⟩, ⟨0xa0, 0xa0⟩, ⟨0x1680, 0x1680⟩, ⟨0x2000, 0x200a⟩,
   ⟨0x2028, 0x2029⟩, ⟨0x202f, 0x202f⟩, ⟨0x205f, 0x205f⟩, ⟨0x3000, 0x3000⟩]

def isBlank (c : Char) : Bool := inSpans blankSpans c.toNat

/-- The characters between the first and the last one that is not blank. -/
def trim (cs : List Char) : List Char :=
  ((cs.dropWhile isBlank).reverse.dropWhile isBlank).reverse

end MeshRouting.Text
