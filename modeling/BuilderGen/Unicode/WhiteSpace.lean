import BuilderGen.Unicode.Ranges

/-!
# White space

The Unicode property `White_Space`, and trimming by it.
-/

namespace BuilderGen.Unicode

/-- The ranges of `White_Space`, in increasing order. -/
def whiteSpaceRanges : List CodeRange := [
  (0x9, 0xD), (0x20, 0x20), (0x85, 0x85), (0xA0, 0xA0), (0x1680, 0x1680), (0x2000, 0x200A),
  (0x2028, 0x2029), (0x202F, 0x202F), (0x205F, 0x205F), (0x3000, 0x3000)]

/-- Whether a character is white space. -/
def isWhiteSpace (c : Char) : Bool := inRanges c.toNat whiteSpaceRanges

/-- A text without the white space at its two ends. -/
def trim (s : String) : String :=
  String.ofList ((s.toList.dropWhile isWhiteSpace).reverse.dropWhile isWhiteSpace).reverse

/-- A text with its ASCII capitals lowered; every other character is kept. -/
def asciiLower (s : String) : String :=
  s.map fun c => if 'A' ≤ c ∧ c ≤ 'Z' then Char.ofNat (c.toNat + 32) else c

end BuilderGen.Unicode
