import BuilderGen.Code.Lexer

/-!
# Reading token trees

A parser works on the trees of one bracketed group, or of the whole text, from left to right. It
stops at the first fault. The cursor stays where the fault was met, and a group that is left with
unread trees is remembered: even if everything after it can be read, the whole text is refused in
the end.
-/

namespace BuilderGen.Code

/-- What a parser would have accepted at some place. -/
inductive Expected where
  /-- A keyword or punctuation, as written. -/
  | spelling (text : String)
  /-- A class of tokens, by its name. -/
  | named (what : String)
  deriving DecidableEq, Repr

/-- The text of an expectation. -/
def Expected.text : Expected → String
  | .spelling s => "`" ++ s ++ "`"
  | .named s => s

/-- What is wrong with a text. -/
inductive Fault where
  /-- It cannot be cut into tokens. -/
  | unreadable
  /-- None of the expected things is there. -/
  | missing (choices : List Expected)
  /-- A keyword stands where a name is expected. -/
  | keyword (word : String)
  /-- Trees are left over in a group, or at the end of the text. -/
  | unread (inside : Option Delimiter)
  /-- Something else, said in words. -/
  | remark (text : String)
  deriving DecidableEq, Repr

/-- The text of a fault. -/
def Fault.text : Fault → String
  | .unreadable => "cannot parse string into token stream"
  | .missing [] => "unexpected token"
  | .missing [a] => "expected " ++ a.text
  | .missing [a, b] => "expected " ++ a.text ++ " or " ++ b.text
  | .missing choices => "expected one of: " ++ ", ".intercalate (choices.map Expected.text)
  | .keyword word => "expected identifier, found keyword `" ++ word ++ "`"
  | .unread none => "unexpected token"
  | .unread (some d) => "unexpected token, expected `" ++ d.closing.toString ++ "`"
  | .remark text => text

/-- A fault and where it is. -/
structure SyntaxError where
  /-- What is wrong. -/
  fault : Fault
  /-- Whether the fault is that the group or the text ends. -/
  atEnd : Bool := false
  /-- The place of the fault; a text that cannot be cut into tokens has none. -/
  pos : Option Position
  deriving DecidableEq, Repr

/-- The message of a syntax error. -/
def SyntaxError.message (e : SyntaxError) : String :=
  (if e.atEnd then
    if e.fault = .missing [] then "unexpected end of input" else "unexpected end of input, "
  else "") ++ (if e.atEnd && e.fault = .missing [] then "" else e.fault.text)

/-- A group that was left with unread trees. -/
structure Leftover where
  /-- The kind of the group. -/
  inside : Option Delimiter
  /-- The place of the first unread tree. -/
  pos : Position
  deriving DecidableEq, Repr

/-- The error that a leftover makes in the end. -/
def Leftover.error (l : Leftover) : SyntaxError := { fault := .unread l.inside, pos := some l.pos }

/-- The state of a parser. -/
structure Cursor where
  /-- The trees not read yet. -/
  trees : List TokenTree
  /-- The kind of the enclosing group; none at the top. -/
  inside : Option Delimiter
  /-- The place to report when the trees end too early. -/
  finish : Position
  /-- The first group that was left with unread trees. -/
  leftover : Option Leftover := none

/-- A parser: it answers a value or stops at a fault, and moves the cursor. -/
abbrev Parser := EStateM SyntaxError Cursor

namespace Parser

variable {α : Type}

/-! ### Looking ahead -/

/-- The trees after the next one. A lifetime counts as one tree. -/
def skipTree : List TokenTree → Option (List TokenTree)
  | [] => none
  | .punct '\x27' true _ :: .ident .. :: rest => some rest
  | _ :: rest => some rest

/-- Whether a test holds of the trees after the next one. -/
def second (test : List TokenTree → Bool) (ts : List TokenTree) : Bool := (skipTree ts).any test

/-- Whether a test holds of the trees after the next two. -/
def third (test : List TokenTree → Bool) (ts : List TokenTree) : Bool :=
  ((skipTree ts).bind skipTree).any test

/-- The trees after an operator at the front: its characters, all but the last joint to the next
one. -/
def afterOperator? : List Char → List TokenTree → Option (List TokenTree)
  | [], _ => none
  | [c], .punct p _ _ :: rest => if p == c && p != '\x27' then some rest else none
  | c :: cs, .punct p joint _ :: rest =>
    if p == c && p != '\x27' && joint then afterOperator? cs rest else none
  | _, _ => none

/-- Whether an operator stands at the front. -/
def isOperator (s : String) (ts : List TokenTree) : Bool := (afterOperator? s.toList ts).isSome

/-- Whether the keyword or name `s` stands at the front. -/
def isWord (s : String) : List TokenTree → Bool
  | .ident id _ :: _ => id.is s
  | _ => false

/-- Whether an identifier that is no keyword stands at the front. -/
def isName : List TokenTree → Bool
  | .ident id _ :: _ => !id.isKeyword
  | _ => false

/-- Whether an identifier or keyword stands at the front. -/
def isAnyWord : List TokenTree → Bool
  | .ident .. :: _ => true
  | _ => false

/-- Whether a lifetime stands at the front. -/
def isLifetime : List TokenTree → Bool
  | .punct '\x27' true _ :: .ident .. :: _ => true
  | _ => false

/-- Whether a group of the given kind stands at the front. -/
def isGroup (d : Delimiter) : List TokenTree → Bool
  | .group d' .. :: _ => d == d'
  | _ => false

/-- The literal at the front and the trees after it. `true` and `false` are literals, and so is a
number after a minus sign. -/
def literalAt? : List TokenTree → Option (String × List TokenTree)
  | .literal text _ :: rest => some (text, rest)
  | .ident id _ :: rest => if id.is "true" || id.is "false" then some (id.text, rest) else none
  | .punct '-' _ _ :: .literal text _ :: rest =>
    if isNumberLiteral text then some ("-" ++ text, rest) else none
  | _ => none

/-- Whether a literal stands at the front. -/
def isLiteral (ts : List TokenTree) : Bool := (literalAt? ts).isSome

/-- Whether a string literal stands at the front. -/
def isStringLiteral (ts : List TokenTree) : Bool :=
  (literalAt? ts).any fun l => (stringValue? l.1).isSome

/-! ### Elementary parsers -/

/-- The trees not read yet. -/
def rest : Parser (List TokenTree) := do return (← get).trees

/-- Whether a test holds of the trees not read yet. -/
def looking (test : List TokenTree → Bool) : Parser Bool := do return test (← get).trees

/-- Whether no tree is left. -/
def atEnd : Parser Bool := looking List.isEmpty

/-- The place of the next tree, or of the end. -/
def here : Parser Position := do
  let s ← get
  match s.trees with
  | t :: _ => return t.position
  | [] => return s.finish

/-- Move on to some trees. -/
def moveTo (trees : List TokenTree) : Parser Unit := modify fun s => { s with trees }

/-- Stop with a fault at the next tree, or at the end. -/
def fail (fault : Fault) : Parser α := do
  throw { fault, atEnd := ← atEnd, pos := some (← here) }

/-- Whether a keyword or punctuation stands at the front. -/
def standsAt (ts : List TokenTree) : Expected → Bool
  | .spelling s => isOperator s ts || isWord s ts
  | .named _ => false

/-- Stop because none of the choices can be read. A spelling that stands at the front is not
missing, though what follows it forbids the choice that it begins, and so it is not named. -/
def missing (choices : List Expected) : Parser α := do
  let ts ← rest
  fail (.missing (choices.filter fun choice => !standsAt ts choice))

/-- Stop with a remark. -/
def remark (text : String) : Parser α := fail (.remark text)

/-- Read an operator. That it is missing is said the same way at the end of the input. -/
def operator (s : String) : Parser Unit := do
  match afterOperator? s.toList (← rest) with
  | some trees => moveTo trees
  | none => throw { fault := .missing [.spelling s], pos := some (← here) }

/-- Read an operator if it is there. -/
def operator? (s : String) : Parser Bool := do
  if ← looking (isOperator s) then
    operator s
    return true
  else return false

/-- Read a keyword. -/
def word (s : String) : Parser Unit := do
  match ← rest with
  | .ident id _ :: trees =>
    if id.is s then moveTo trees else missing [.spelling s]
  | _ => missing [.spelling s]

/-- Read a keyword if it is there. -/
def word? (s : String) : Parser Bool := do
  if ← looking (isWord s) then
    word s
    return true
  else return false

/-- Read an identifier that is no keyword. -/
def name : Parser Ident := do
  match ← rest with
  | .ident id _ :: trees =>
    if id.isKeyword then fail (.keyword id.text)
    else
      moveTo trees
      return id
  | _ => missing [.named "identifier"]

/-- Read an identifier or keyword. -/
def anyWord : Parser Ident := do
  match ← rest with
  | .ident id _ :: trees =>
    moveTo trees
    return id
  | _ => missing [.named "identifier"]

/-- Read a lifetime. -/
def lifetime : Parser Ident := do
  match ← rest with
  | .punct '\x27' true _ :: .ident id _ :: trees =>
    moveTo trees
    return id
  | _ => missing [.named "lifetime"]

/-- Read a literal. -/
def literal : Parser String := do
  match literalAt? (← rest) with
  | some (text, trees) =>
    moveTo trees
    return text
  | none => missing [.named "literal"]

/-- Read a string literal: its text as written and its value. A literal of another kind is read
before it is refused. -/
def stringLiteral : Parser (String × String) := do
  let before ← get
  let pos ← here
  let refused : SyntaxError :=
    { fault := .missing [.named "string literal"], atEnd := before.trees.isEmpty, pos := some pos }
  match literalAt? before.trees with
  | some (text, trees) =>
    moveTo trees
    match stringValue? text with
    | some value => return (text, value)
    | none => throw refused
  | none => throw refused

/-! ### Groups -/

/-- Remember a group that is left with unread trees, unless one is remembered already. -/
def noteUnread (s : Cursor) : Option Leftover :=
  match s.leftover, s.trees with
  | some l, _ => some l
  | none, t :: _ => some ⟨s.inside, t.position⟩
  | none, [] => none

/-- Run a parser on the content of a group, then go on after the group. -/
def within (d : Delimiter) (content : List TokenTree) (closed : Position)
    (after : List TokenTree) (p : Parser α) : Parser α := fun s =>
  let outer (inner : Cursor) : Cursor :=
    { s with trees := after, leftover := noteUnread inner }
  match p { trees := content, inside := some d, finish := closed, leftover := s.leftover } with
  | .ok a inner => .ok a (outer inner)
  | .error e inner => .error e (outer inner)

/-- What a missing group of some kind is called. -/
def groupName : Delimiter → String
  | .parenthesis => "parentheses"
  | .bracket => "square brackets"
  | .brace => "curly braces"

/-- Read a group of the given kind with a parser for its content. -/
def enclosed (d : Delimiter) (p : Parser α) : Parser α := do
  match ← rest with
  | .group d' content _ closed :: after =>
    if d = d' then within d content closed after p else missing [.named (groupName d)]
  | _ => missing [.named (groupName d)]

/-- Read a group of any kind and keep its trees without their places. -/
def anyGroup : Parser (Delimiter × List TokenTree) := do
  match ← rest with
  | .group d content _ _ :: after =>
    moveTo after
    return (d, unplacedTrees content)
  | _ => missing [.named "delimiter"]

/-! ### Trying and repeating -/

/-- The value of a parser on the trees ahead, without moving. -/
def ahead (p : Parser α) : Parser (Option α) := fun s =>
  match p { s with leftover := none } with
  | .ok a _ => .ok (some a) s
  | .error _ _ => .ok none s

/-- The trees read since `before` was ahead, without their places. -/
def readSince (before : List TokenTree) : Parser (List TokenTree) := do
  return unplacedTrees (before.take (before.length - (← rest).length))

/-- Run a parser and keep the trees it has read, without their places. -/
def consumed (p : Parser α) : Parser (α × List TokenTree) := do
  let before ← rest
  let a ← p
  return (a, ← readSince before)

/-- What to do after one round of a loop. -/
inductive Round (α : Type) where
  /-- Stop with these values added. -/
  | stop (values : List α)
  /-- Add a value and go on. -/
  | next (value : α)

/-- Run rounds until one stops. Every round that goes on has read a tree, so the number of trees
bounds the rounds. -/
def rounds (round : List α → Parser (Round α)) : Parser (List α) := do
  go ((← rest).length + 1) []
where
  /-- At most `n` rounds; the values so far, last one first. -/
  go : Nat → List α → Parser (List α)
    | 0, done => return done.reverse
    | n + 1, done => do
      match ← round done with
      | .stop values => return done.reverse ++ values
      | .next value => go n (value :: done)

/-- Repeat a step from a value until the step answers none. Every other step reads a tree, so the
number of trees bounds the steps. -/
def iterate (step : α → Parser (Option α)) (first : α) : Parser α := do
  go ((← rest).length + 1) first
where
  /-- At most `n` steps. -/
  go : Nat → α → Parser α
    | 0, a => return a
    | n + 1, a => do
      match ← step a with
      | some a => go n a
      | none => return a

/-- Read values with a separator between them until `stop` holds, and say whether a separator
follows the last one. `stop` is asked before every value and before every separator. -/
def separated (separator : String) (stop : List TokenTree → Bool) (p : Parser α) :
    Parser (List α × Bool) := do
  let values ← rounds fun _ => do
    if ← looking stop then return .stop []
    let a ← p
    if ← looking stop then return .stop [(a, false)]
    operator separator
    return .next (a, true)
  return (values.map (·.1), values.getLast?.any (·.2))

/-- Read values with commas between them until the group ends. -/
def commaList (p : Parser α) : Parser (List α × Bool) := separated "," List.isEmpty p

/-- Read values with plus signs between them; a value that no plus sign follows is the last. -/
def sum (stop : List TokenTree → Bool) (p : Parser α) : Parser (List α × Bool) := do
  let values ← rounds fun _ => do
    if ← looking stop then return .stop []
    let a ← p
    if ← operator? "+" then return .next (a, true) else return .stop [(a, false)]
  return (values.map (·.1), values.getLast?.any (·.2))

/-- Read values until the group ends. -/
def all (p : Parser α) : Parser (List α) :=
  rounds fun _ => do
    if ← atEnd then return .stop [] else return .next (← p)

/-! ### Whole texts -/

/-- Run a parser on trees and refuse what it leaves unread. -/
def runOn (p : Parser α) (trees : List TokenTree) (inside : Option Delimiter)
    (finish : Position) : Except SyntaxError α :=
  match p { trees, inside, finish } with
  | .error e _ => .error e
  | .ok a s =>
    match noteUnread s with
    | some l => .error l.error
    | none => .ok a

/-- Run a parser on a whole text. -/
def runText (p : Parser α) (text : String) : Except SyntaxError α :=
  match tokenize? text with
  | none => .error { fault := .unreadable, pos := none }
  | some trees => runOn p trees none ⟨1, 0⟩

end Parser

end BuilderGen.Code
