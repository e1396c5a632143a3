/-!
# TOML values

The values that a TOML document can give to a key. Numbers, truth values and dates are told apart by
their kind only, since no setting is one of them.
-/

namespace BuilderGen.Toml

/-- A value. -/
inductive Value where
  /-- A text. -/
  | text (s : String)
  /-- A whole number. -/
  | integer
  /-- Any other number. -/
  | float
  /-- A truth value. -/
  | boolean
  /-- A date, a time, or both. -/
  | dateTime
  /-- Values in order. -/
  | array (elements : List Value)
  /-- Values by key. -/
  | table (entries : List (String × Value))
  deriving Inhabited

/-- Reads something at the front of a text, and leaves the rest. -/
abbrev Reader (α : Type) := List Char → Option (α × List Char)

/-- Whether a character is a space or a tab. -/
def isBlank (c : Char) : Bool := c == ' ' || c == '\t'

/-- The text without the blanks at its front. -/
def skipBlanks (cs : List Char) : List Char := cs.dropWhile isBlank

/-- The text after a line break. -/
def lineBreak? : List Char → Option (List Char)
  | '\n' :: rest => some rest
  | '\r' :: '\n' :: rest => some rest
  | _ => none

/-- Whether a comment may hold a character. -/
def isCommentChar (c : Char) : Bool := c == '\t' || 0x20 ≤ c.toNat

/-- The text after a comment, if one is there. The line break does not belong to the comment. -/
def skipComment : List Char → List Char
  | '#' :: rest => rest.dropWhile isCommentChar
  | cs => cs

/-- The text after what may stand behind a value in its line, and after the end of the line. -/
def endOfLine? (cs : List Char) : Option (List Char) :=
  match skipComment (skipBlanks cs) with
  | [] => some []
  | rest => lineBreak? rest

end BuilderGen.Toml
