import BuilderGen.Unicode.IdentifierStart
import BuilderGen.Unicode.IdentifierContinue
import BuilderGen.Unicode.WhiteSpace

/-!
# Words, blanks and comments

Each function here looks at the front of a character list and answers how many characters of it
belong to the thing it is named for.
-/

namespace BuilderGen.Code

open BuilderGen.Unicode

/-- The length of the identifier at the front, raw mark not included. -/
def identLength? : List Char → Option Nat
  | c :: rest =>
    if isIdentifierStart c then some ((rest.takeWhile isIdentifierContinue).length + 1) else none
  | [] => none

/-- The length of the suffix that may follow a literal. -/
def suffixLength (cs : List Char) : Nat := (identLength? cs).getD 0

/-- The characters that separate tokens: white space and the two direction marks. -/
def isBlank (c : Char) : Bool := isWhiteSpace c || c == '\u200e' || c == '\u200f'

/-- The length of the line at the front, its line end not included. -/
def lineLength : List Char → Nat
  | [] => 0
  | '\n' :: _ => 0
  | '\r' :: '\n' :: _ => 0
  | _ :: rest => lineLength rest + 1

/-- The length of the nested comment at the front, when it is closed. -/
def commentLength? (depth : Nat) : List Char → Option Nat
  | '/' :: '*' :: rest => (commentLength? (depth + 1) rest).map (· + 2)
  | '*' :: '/' :: rest =>
    if depth ≤ 1 then some 2 else (commentLength? (depth - 1) rest).map (· + 2)
  | _ :: rest => (commentLength? depth rest).map (· + 1)
  | [] => none

/-- Whether the characters at the front are those of `word`. -/
def startsWith (word : String) (cs : List Char) : Bool := word.toList.isPrefixOf cs

/-- The length of one blank or ordinary comment at the front. A comment that documents what
follows it is not blank. -/
def blankLength? (cs : List Char) : Option Nat :=
  if startsWith "//" cs && (!startsWith "///" cs || startsWith "////" cs)
      && !startsWith "//!" cs then
    some (lineLength cs)
  else if startsWith "/**/" cs then some 4
  else if startsWith "/*" cs && (!startsWith "/**" cs || startsWith "/***" cs)
      && !startsWith "/*!" cs then
    commentLength? 0 cs
  else if cs.head?.any isBlank then some 1
  else none

/-- What follows the blanks and ordinary comments at the front. -/
def skipBlanks (cs : List Char) : List Char :=
  match cs with
  | [] => []
  | c :: rest =>
    match blankLength? (c :: rest) with
    | some n => skipBlanks (rest.drop (n - 1))
    | none => c :: rest
termination_by cs.length
decreasing_by simp only [List.length_drop, List.length_cons]; omega

/-- A documenting comment at the front: whether it documents what encloses it, its text and its
length. -/
def docComment? (cs : List Char) : Option (Bool × List Char × Nat) :=
  let line (inner : Bool) : Bool × List Char × Nat :=
    (inner, (cs.take (lineLength cs)).drop 3, lineLength cs)
  let block (inner : Bool) : Option (Bool × List Char × Nat) :=
    (commentLength? 0 cs).map fun n => (inner, (cs.take (n - 2)).drop 3, n)
  if startsWith "//!" cs then some (line true)
  else if startsWith "/*!" cs then block true
  else if startsWith "///" cs then if startsWith "////" cs then none else some (line false)
  else if startsWith "/**" cs && !startsWith "/***" cs then block false
  else none

/-- Whether every carriage return is followed by a line feed. -/
def hasWholeLineEnds : List Char → Bool
  | '\r' :: '\n' :: rest => hasWholeLineEnds rest
  | '\r' :: _ => false
  | _ :: rest => hasWholeLineEnds rest
  | [] => true

end BuilderGen.Code
