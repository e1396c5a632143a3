import BuilderGen.Code.Parser.Expr
import BuilderGen.Code.Parser.Item

/-!
# Reading source texts

The parsers for types, expressions, patterns and items call one another through a record. Here the
record is closed up: level `n + 1` calls level `n`, and the bottom level fails. Every few levels a
token is read, so a level proportional to the size of the text never reaches the bottom.
-/

namespace BuilderGen.Code

/-- The parsers that may call one another `depth` times. -/
def Grammar.toDepth : (depth : Nat) → Grammar
  | 0 =>
    { type := fun _ => Parser.missing []
      bound := fun _ _ => Parser.missing []
      expr := fun _ => Parser.missing []
      unary := fun _ => Parser.missing []
      operators := fun _ _ _ => Parser.missing []
      early := Parser.missing []
      pattern := Parser.missing []
      block := fun _ => Parser.missing []
      item := Parser.missing []
      useTree := fun _ => Parser.missing [] }
  | depth + 1 =>
    let g := toDepth depth
    { type := Parser.type g
      bound := Parser.bound g
      expr := Parser.expr g
      unary := Parser.unary g
      operators := Parser.operators g
      early := Parser.early g
      pattern := Parser.pattern g
      block := Parser.block g
      item := Parser.item g
      useTree := Parser.useTree g }

/-- A depth that no text with these trees exceeds. -/
def depthFor (trees : List TokenTree) : Nat := 4 * streamSize trees + 16

namespace Parser

variable {α : Type}

/-- Run a parser that sees the trees ahead and nothing of the group they stand in. Only the place of
a fault at their end comes from the group. -/
def secluded (p : Parser α) : Parser α := fun s =>
  let outer (inner : Cursor) : Cursor :=
    { s with trees := inner.trees, leftover := s.leftover.or inner.leftover }
  match p { trees := s.trees, inside := none, finish := .none } with
  | .ok a inner => .ok a (outer inner)
  | .error e inner =>
    .error (if e.pos = some .none then { e with pos := some s.finish } else e) (outer inner)

/-- Run a parser with a grammar that is deep enough for the trees ahead. -/
def withGrammar (p : Grammar → Parser α) : Parser α :=
  secluded do p (.toDepth (depthFor (← rest)))

/-- The text after an interpreter line: a first line that starts with `#!` and is no attribute. -/
def withoutShebang (cs : List Char) : List Char :=
  if startsWith "#!" cs && (skipBlanks (cs.drop 2)).head? != some '[' then
    cs.dropWhile (· != '\n')
  else cs

end Parser

/-- The type that a text is. -/
def parseType (text : String) : Except SyntaxError Ty :=
  Parser.runText (Parser.withGrammar fun g => Parser.type g true) text

/-- The path that a text is. -/
def parsePath (text : String) : Except SyntaxError Path :=
  Parser.runText (Parser.withGrammar fun g => Parser.path g false) text

/-- The identifier that a text is, if it is one that can name something. -/
def parseName? (text : String) : Option Ident := (Parser.runText Parser.name text).toOption

/-- The struct that a text is. -/
def parseStruct (text : String) : Except SyntaxError Struct :=
  Parser.runText (Parser.withGrammar Parser.struct) text

/-- The struct, enum or union that a text is. -/
def parseDeriveInput (text : String) : Except SyntaxError DeriveInput :=
  Parser.runText (Parser.withGrammar Parser.deriveInput) text

/-- The items that some trees are. -/
def parseTrees (trees : List TokenTree) : Except SyntaxError (List Item) := do
  let (_, items) ← Parser.runOn (Parser.withGrammar Parser.file) trees none ⟨1, 0⟩
  return items

/-- The items of a source file. A byte order mark and an interpreter line at its front are
dropped. Items are the same wherever they stand in a file, so the places of its tokens are dropped
as well. -/
def parseFile (text : String) : Except SyntaxError (List Item) :=
  match tokenize? (String.ofList (Parser.withoutShebang (withoutMark text.toList))) with
  | none => .error { fault := .unreadable, pos := none }
  | some trees => parseTrees (unplacedTrees trees)

end BuilderGen.Code
