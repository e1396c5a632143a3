import BuilderGen.Unicode.IdentifierContinue
import BuilderGen.Unicode.IdentifierStart

/-!
# Tokens of source text

A source text is read as a list of token trees: identifiers, punctuation characters, literals and
delimited groups. Every tree remembers where it starts, so that a complaint can point at it; what
is kept of a source for later use forgets the positions again.
-/

namespace BuilderGen.Code

open BuilderGen.Unicode

/-- A place in a text: the line, counted from one, and the characters before it on that line. -/
structure Position where
  /-- The line, counted from one. -/
  line : Nat
  /-- The number of characters before the place on its line. -/
  column : Nat
  deriving DecidableEq, Repr, Inhabited

/-- The place of a token that was made rather than read. -/
def Position.none : Position := ⟨0, 0⟩

/-- The place after one character. -/
def Position.step (p : Position) (c : Char) : Position :=
  if c = '\n' then ⟨p.line + 1, 0⟩ else ⟨p.line, p.column + 1⟩

/-- The place after some characters. -/
def Position.advance (p : Position) (cs : List Char) : Position := cs.foldl step p

/-- The three pairs of brackets. -/
inductive Delimiter where
  /-- `(` and `)`. -/
  | parenthesis
  /-- `[` and `]`. -/
  | bracket
  /-- `{` and `}`. -/
  | brace
  deriving DecidableEq, Repr

/-- The opening character of a pair. -/
def Delimiter.opening : Delimiter → Char
  | .parenthesis => '('
  | .bracket => '['
  | .brace => '{'

/-- The closing character of a pair. -/
def Delimiter.closing : Delimiter → Char
  | .parenthesis => ')'
  | .bracket => ']'
  | .brace => '}'

/-- The pair that a character opens. -/
def Delimiter.ofOpening? (c : Char) : Option Delimiter :=
  [parenthesis, bracket, brace].find? (·.opening == c)

/-- The pair that a character closes. -/
def Delimiter.ofClosing? (c : Char) : Option Delimiter :=
  [parenthesis, bracket, brace].find? (·.closing == c)

/-- Whether characters are an identifier, raw mark not included. -/
def isIdentifier : List Char → Bool
  | [] => false
  | c :: rest => isIdentifierStart c && rest.all isIdentifierContinue

/-- The names that cannot be written with the raw mark: the underscore and the path keywords. -/
def neverRaw : List String := ["_", "super", "self", "Self", "crate"]

/-- Whether a name can be written as an identifier, with or without the raw mark. -/
def canWrite (name : String) (raw : Bool) : Bool :=
  isIdentifier name.toList && !(raw && neverRaw.contains name)

/-- An identifier. A raw one is written `r#name` and is never a keyword. -/
structure Ident where
  /-- The identifier without a raw mark. -/
  name : String
  /-- Whether it is written with the raw mark. -/
  raw : Bool := false
  /-- It can be written. -/
  written : canWrite name raw = true := by decide
  deriving DecidableEq, Repr

instance : Inhabited Ident := ⟨{ name := "_" }⟩

/-- The identifier with a given name, if it can be written. -/
def Ident.ofName? (name : String) (raw : Bool) : Option Ident :=
  if h : canWrite name raw = true then some { name, raw, written := h } else none

/-- The identifier as it is written. -/
def Ident.text (id : Ident) : String := if id.raw then "r#" ++ id.name else id.name

/-- Whether an identifier is written exactly as `word`. -/
def Ident.is (id : Ident) (word : String) : Bool := id.text == word

/-- The words that cannot name anything unless they are written raw. -/
def keywords : List String :=
  ["_", "abstract", "as", "async", "await", "become", "box", "break", "const", "continue",
    "crate", "do", "dyn", "else", "enum", "extern", "false", "final", "fn", "for", "if", "impl",
    "in", "let", "loop", "macro", "match", "mod", "move", "mut", "override", "priv", "pub", "ref",
    "return", "Self", "self", "static", "struct", "super", "trait", "true", "try", "type",
    "typeof", "unsafe", "unsized", "use", "virtual", "where", "while", "yield"]

/-- Whether an identifier is one of the keywords, and so no name. -/
def Ident.isKeyword (id : Ident) : Bool := keywords.contains id.text

/-- A token or a delimited group of tokens, with the place where it starts. -/
inductive TokenTree where
  /-- An identifier, keyword or underscore. -/
  | ident (id : Ident) (pos : Position)
  /-- A punctuation character; `joint` when the next character is punctuation too. -/
  | punct (char : Char) (joint : Bool) (pos : Position)
  /-- A literal as it is written, with its suffix. -/
  | literal (text : String) (pos : Position)
  /-- A bracketed list of trees, with the places of its two brackets. -/
  | group (delimiter : Delimiter) (content : List TokenTree) (opened closed : Position)
  deriving Repr, Inhabited

namespace TokenTree

/-- Where a tree starts. -/
def position : TokenTree → Position
  | .ident _ pos | .punct _ _ pos | .literal _ pos | .group _ _ pos _ => pos

/-- Whether no space may follow the tree: it belongs together with the next character. -/
def isJoint : TokenTree → Bool
  | .punct _ joint _ => joint
  | _ => false

/-- An identifier that was made rather than read. -/
def word (s : String) (written : canWrite s false = true := by decide) : TokenTree :=
  .ident { name := s, written } .none

/-- An identifier that was made rather than read. -/
def name (id : Ident) : TokenTree := .ident id .none

/-- A group that was made rather than read. -/
def enclosed (d : Delimiter) (content : List TokenTree) : TokenTree :=
  .group d content .none .none

end TokenTree

/-- The punctuation characters of one operator, all but the last joint to the next. -/
def operatorTokens (s : String) : List TokenTree := go s.toList
where
  /-- The characters one by one. -/
  go : List Char → List TokenTree
    | [] => []
    | [c] => [.punct c false .none]
    | c :: rest => .punct c true .none :: go rest

/-- A lifetime `'name`: a quote joint to an identifier. -/
def lifetimeTokens (id : Ident) : List TokenTree := [.punct '\x27' true .none, .name id]

mutual

/-- A tree without its positions. -/
def TokenTree.unplaced : TokenTree → TokenTree
  | .ident id _ => .ident id .none
  | .punct c joint _ => .punct c joint .none
  | .literal text _ => .literal text .none
  | .group d content _ _ => .group d (unplacedTrees content) .none .none

/-- Trees without their positions. -/
def unplacedTrees : List TokenTree → List TokenTree
  | [] => []
  | t :: rest => t.unplaced :: unplacedTrees rest

end

mutual

/-- The text of a tree. Braces are padded inside, the other brackets are not. -/
def TokenTree.text : TokenTree → String
  | .ident id _ => id.text
  | .punct c _ _ => c.toString
  | .literal text _ => text
  | .group .brace [] _ _ => "\x7b \x7d"
  | .group .brace content _ _ => "\x7b " ++ streamText content ++ " \x7d"
  | .group d content _ _ => d.opening.toString ++ streamText content ++ d.closing.toString

/-- The text of a list of trees: one space between two of them, none after a joint one. -/
def streamText : List TokenTree → String
  | [] => ""
  | [t] => t.text
  | t :: rest => t.text ++ (if t.isJoint then "" else " ") ++ streamText rest

end

mutual

/-- The number of tokens of a tree, brackets counted as one. -/
def TokenTree.size : TokenTree → Nat
  | .group _ content _ _ => streamSize content + 1
  | _ => 1

/-- The number of tokens of a list of trees. -/
def streamSize : List TokenTree → Nat
  | [] => 0
  | t :: rest => t.size + streamSize rest

end

end BuilderGen.Code
