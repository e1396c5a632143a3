/-!
# Sets of code points as ranges

The character classes of this library are finite unions of code point ranges. A table lists
disjoint ranges in increasing order, so a search may stop at the first range that starts too late.
-/

namespace BuilderGen.Unicode

/-- A closed range of code points, first and last. -/
abbrev CodeRange := Nat × Nat

/-- Whether a code point lies in one of the ranges of an increasing table. -/
def inRanges (code : Nat) : List CodeRange → Bool
  | [] => false
  | (first, last) :: rest =>
    if code < first then false else code ≤ last || inRanges code rest

end BuilderGen.Unicode
