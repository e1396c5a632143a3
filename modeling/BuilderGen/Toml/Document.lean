import BuilderGen.Toml.Number
import BuilderGen.Toml.Table
import BuilderGen.Toml.Text

/-!
# TOML documents

A document is read line by line: a key with its value, the header of a table, or nothing. Arrays and
tables may stand inside values up to a certain depth. A text is a document or it is not; what is
wrong with it is not said.
-/

namespace BuilderGen.Toml

/-- How deep values may be nested, and how many parts a dotted key may have. -/
def depthLimit : Nat := 79

/-- Whether a key may hold a character without quotes. -/
def isKeyChar (c : Char) : Bool := c.isAlphanum || c == '_' || c == '-'

/-- One part of a key. -/
def keyPart : Reader String
  | '"' :: rest => textInLine? ('"' :: rest)
  | '\x27' :: rest => textInLine? ('\x27' :: rest)
  | cs =>
    let word := cs.takeWhile isKeyChar
    if word.isEmpty then none else some (String.ofList word, cs.drop word.length)

/-- The parts of a dotted key with the blanks around them; there are no more than the fuel. -/
def keyParts : Nat → Reader (List String)
  | 0, _ => none
  | fuel + 1, cs => do
    let (part, rest) ← keyPart (skipBlanks cs)
    match skipBlanks rest with
    | '.' :: rest =>
      let (parts, rest) ← keyParts fuel rest
      some (part :: parts, rest)
    | rest => some ([part], rest)

/-- A dotted key. -/
def key : Reader (List String) := keyParts depthLimit

/-- The text after blanks, line breaks and comments. Every comment ends with its line. -/
def skipLines : Nat → List Char → Option (List Char)
  | 0, cs => some cs
  | fuel + 1, cs =>
    match skipBlanks cs with
    | '#' :: rest => (lineBreak? (skipComment ('#' :: rest))).bind (skipLines fuel)
    | '\n' :: rest => skipLines fuel rest
    | '\r' :: rest => (lineBreak? ('\r' :: rest)).bind (skipLines fuel)
    | rest => some rest

/-- The text after what may stand between the elements of an array. -/
def skipGap (cs : List Char) : Option (List Char) := skipLines (cs.length + 1) cs

/-- The elements of an array and its closing bracket. A comma may follow the last element. -/
def elements (value : Reader Value) : Nat → Reader (List Value)
  | 0, _ => none
  | fuel + 1, cs => do
    match ← skipGap cs with
    | ']' :: rest => some ([], rest)
    | cs =>
      let (v, rest) ← value cs
      match ← skipGap rest with
      | ']' :: rest => some ([v], rest)
      | ',' :: rest =>
        let (vs, rest) ← elements value fuel rest
        some (v :: vs, rest)
      | _ => none

/-- A key and its value. -/
def assignment (value : Reader Value) : Reader (List String × Value) := fun cs => do
  let (keys, rest) ← key cs
  match rest with
  | '=' :: rest =>
    let (v, rest) ← value (skipBlanks rest)
    some ((keys, v), rest)
  | _ => none

/-- The assignments of a table in braces after the first one, and the closing brace. -/
def moreAssignments (value : Reader Value) : Nat → Items → Reader Items
  | 0, _, _ => none
  | fuel + 1, items, cs =>
    match skipBlanks cs with
    | '\x7d' :: rest => some (items, rest)
    | ',' :: rest => do
      let ((keys, v), rest) ← assignment value rest
      moreAssignments value fuel (← assign keys (.value v) items) rest
    | _ => none

/-- The assignments of a table in braces, and the closing brace. -/
def assignments (value : Reader Value) : Reader Items := fun cs =>
  match skipBlanks cs with
  | '\x7d' :: rest => some ([], rest)
  | cs => do
    let ((keys, v), rest) ← assignment value cs
    moreAssignments value (rest.length + 1) (← assign keys (.value v) []) rest

/-- A value of at most the given depth. -/
def value (depth : Nat) : Reader Value
  | '"' :: rest => (text? ('"' :: rest)).map fun (s, rest) => (.text s, rest)
  | '\x27' :: rest => (text? ('\x27' :: rest)).map fun (s, rest) => (.text s, rest)
  | '[' :: rest =>
    match depth with
    | 0 => none
    | depth + 1 =>
      (elements (value depth) (rest.length + 1) rest).map fun (vs, rest) => (.array vs, rest)
  | '\x7b' :: rest =>
    match depth with
    | 0 => none
    | depth + 1 =>
      (assignments (value depth) rest).map fun (items, rest) => (.table (finishEntries items), rest)
  | 't' :: 'r' :: 'u' :: 'e' :: rest => some (.boolean, rest)
  | 'f' :: 'a' :: 'l' :: 's' :: 'e' :: rest => some (.boolean, rest)
  | cs => (dateTime? cs).or (number cs)

/-- Where the reading of a document is: the items so far and the keys of the latest header. -/
structure Progress where
  /-- The items so far. -/
  items : Items := []
  /-- The keys of the latest header. -/
  header : List String := []

/-- A header, from the first character after its brackets on. -/
def header (define : List String → Items → Option Items) (closing : List Char) (p : Progress)
    (cs : List Char) : Option (Progress × List Char) := do
  let (keys, rest) ← key cs
  if closing.isPrefixOf rest then
    let rest ← endOfLine? (rest.drop closing.length)
    some ({ items := ← define keys p.items, header := keys }, rest)
  else none

/-- A line of a document that is not empty. -/
def line (p : Progress) : List Char → Option (Progress × List Char)
  | '[' :: '[' :: rest => header openElement [']', ']'] p rest
  | '[' :: rest => header openTable [']'] p rest
  | cs => do
    let ((keys, v), rest) ← assignment (value depthLimit) cs
    some ({ p with items := ← assignIn p.header keys (.value v) p.items }, ← endOfLine? rest)

/-- The lines of a document. Every line takes at least one character. -/
def lines : Nat → Progress → List Char → Option Progress
  | 0, _, _ => none
  | fuel + 1, p, cs =>
    match skipBlanks cs with
    | [] => some p
    | '#' :: rest => (endOfLine? ('#' :: rest)).bind (lines fuel p)
    | '\n' :: rest => lines fuel p rest
    | '\r' :: rest => (lineBreak? ('\r' :: rest)).bind (lines fuel p)
    | cs => (line p cs).bind fun (p, rest) => lines fuel p rest

/-- The table that a document describes. A byte order mark at the front is left out. -/
def parse (s : String) : Option (List (String × Value)) :=
  let cs := match s.toList with
    | '\uFEFF' :: rest => rest
    | cs => cs
  (lines (cs.length + 1) {} cs).map fun p => finishEntries p.items

end BuilderGen.Toml
