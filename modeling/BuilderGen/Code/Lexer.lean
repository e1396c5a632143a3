import BuilderGen.Code.Token
import BuilderGen.Code.Lexer.Literal

/-!
# From characters to token trees

Lexing cuts off one lexeme at a time and keeps the open brackets on a stack. It either reads the
whole text or refuses it: an unbalanced bracket, an unfinished literal or a stray character
anywhere makes the text unreadable.
-/

namespace BuilderGen.Code

open BuilderGen.Unicode

/-- One step through a text. -/
inductive Lexeme where
  /-- White space or an ordinary comment. -/
  | blank
  /-- A documenting comment and its text; `inner` when it documents what encloses it. -/
  | doc (inner : Bool) (text : List Char)
  /-- An opening bracket. -/
  | opening (delimiter : Delimiter)
  /-- A closing bracket. -/
  | closing (delimiter : Delimiter)
  /-- A literal. -/
  | literal
  /-- A punctuation character; `joint` when another one follows. -/
  | punct (char : Char) (joint : Bool)
  /-- An identifier. -/
  | ident (id : Ident)

/-- The punctuation characters. -/
def isPunct (c : Char) : Bool := "~!@#$%^&*-=+|;:,<.>/?'".toList.contains c

/-- The punctuation character at the front. A slash that begins a comment is none. -/
def punctAt? : List Char → Option Char
  | '/' :: '/' :: _ => none
  | '/' :: '*' :: _ => none
  | c :: _ => if isPunct c then some c else none
  | [] => none

/-- The identifier at the front and its length, raw mark included. The path keywords cannot be
written raw. -/
def identAt? (cs : List Char) : Option (Ident × Nat) :=
  let read (raw : Bool) (cs : List Char) : Option (Ident × Nat) := do
    let n ← identLength? cs
    return (← Ident.ofName? (String.ofList (cs.take n)) raw, n)
  if startsWith "r#" cs then (read true (cs.drop 2)).map fun (id, n) => (id, n + 2)
  else read false cs

/-- The beginnings of literals that an identifier must not be taken for. -/
def literalOpenings : List String :=
  ["r\"", "r#\"", "r##", "b\"", "b'", "br\"", "br#", "c\"", "cr\"", "cr#"]

/-- A group that is taken for a literal: it stands where a literal could not be written. -/
def errorLiteral : String := "(/*ERROR*/)"

/-- The quote of a lifetime at the front: a name follows it that is no quoted character. -/
def lifetimeQuote? (rest : List Char) : Option Lexeme :=
  match identAt? rest with
  | some (id, n) =>
    let next := (rest.drop n).head?
    if next == some '\x27' || (next == some '#' && !id.raw) then none
    else some (.punct '\x27' true)
  | none => none

/-- The lexeme at the front and its length. -/
def nextLexeme? (cs : List Char) : Option (Lexeme × Nat) :=
  match blankLength? cs, docComment? cs, cs with
  | some n, _, _ => some (.blank, n)
  | none, some (inner, text, n), _ =>
    if hasWholeLineEnds text then some (.doc inner text, n) else none
  | none, none, [] => none
  | none, none, c :: rest =>
    let isError := startsWith errorLiteral (c :: rest)
    match isError, Delimiter.ofOpening? c, Delimiter.ofClosing? c with
    | true, _, _ => some (.literal, errorLiteral.length)
    | false, some d, _ => some (.opening d, 1)
    | false, none, some d => some (.closing d, 1)
    | false, none, none =>
      match literalLength? (c :: rest), punctAt? (c :: rest) with
      | some n, _ => some (.literal, n)
      | none, some '\x27' => (lifetimeQuote? rest).map fun l => (l, 1)
      | none, some p => some (.punct p (punctAt? rest).isSome, 1)
      | none, none =>
        if literalOpenings.any (startsWith · (c :: rest)) then none
        else (identAt? (c :: rest)).map fun (id, n) => (.ident id, n)

/-- An open bracket: its kind and place, and the trees before it, last one first. -/
structure OpenGroup where
  /-- The kind of bracket. -/
  delimiter : Delimiter
  /-- The place of the bracket. -/
  opened : Position
  /-- The trees before the bracket, last one first. -/
  before : List TokenTree

/-- The attribute that a documenting comment stands for, last tree first. -/
def docTrees (inner : Bool) (text : List Char) (pos : Position) : List TokenTree :=
  let content := [.ident { name := "doc" } pos, .punct '=' false pos,
    .literal (quoteString (String.ofList text)) pos]
  [.group .bracket content pos pos] ++ (if inner then [.punct '!' false pos] else [])
    ++ [.punct '#' false pos]

/-- Read the trees of a text from a place in it. -/
def lexFrom (cs : List Char) (pos : Position) (outer : List OpenGroup) (before : List TokenTree) :
    Option (List TokenTree) :=
  match cs with
  | [] => if outer.isEmpty then some before.reverse else none
  | c :: rest =>
    match nextLexeme? (c :: rest) with
    | none => none
    | some (lexeme, n) =>
      let lexed := (c :: rest).take n
      let next := pos.advance lexed
      let after := rest.drop (n - 1)
      match lexeme with
      | .blank => lexFrom after next outer before
      | .doc inner text => lexFrom after next outer (docTrees inner text pos ++ before)
      | .opening d => lexFrom after next (⟨d, pos, before⟩ :: outer) []
      | .closing d =>
        match outer with
        | [] => none
        | frame :: outer =>
          if frame.delimiter = d then
            lexFrom after next outer (.group d before.reverse frame.opened pos :: frame.before)
          else none
      | .literal => lexFrom after next outer (.literal (String.ofList lexed) pos :: before)
      | .punct p joint => lexFrom after next outer (.punct p joint pos :: before)
      | .ident id => lexFrom after next outer (.ident id pos :: before)
termination_by cs.length
decreasing_by
  all_goals simp only [List.length_drop, List.length_cons]; omega

/-- The characters of a text without a byte order mark at its front. -/
def withoutMark : List Char → List Char
  | '\ufeff' :: rest => rest
  | cs => cs

/-- The token trees of a text, if it can be read. -/
def tokenize? (s : String) : Option (List TokenTree) :=
  lexFrom (withoutMark s.toList) ⟨1, 0⟩ [] []

end BuilderGen.Code
