import BuilderGen.Code.Parser
import BuilderGen.Code.Tree.Attribute

/-!
# Reading attribute arguments

The arguments of an attribute are entries with commas between them: a path first, and after it
whatever the reader of the attribute makes of it. A reader collects values on its way. What it has
collected before a fault is kept, so that a list with one bad entry still yields the others.
-/

namespace BuilderGen.Code

/-- The path at the start of an entry. -/
structure Meta where
  /-- Whether it starts with `::`. -/
  rooted : Bool
  /-- Its names, keywords included. -/
  path : List Ident
  /-- The place of its first name. -/
  pos : Position

/-- Whether the path of an entry is one name, written as `word`. -/
def Meta.named (m : Meta) (word : String) : Bool :=
  !m.rooted && match m.path with
    | [id] => id.is word
    | _ => false

/-- A parser that collects a `σ` on its way and keeps it at a fault. -/
abbrev Collector (σ : Type) := EStateM SyntaxError (σ × Cursor)

namespace Collector

variable {σ τ α : Type}

/-- A parser as a step of a collector. -/
def read (p : Parser α) : Collector σ α := fun s =>
  match p s.2 with
  | .ok a c => .ok a (s.1, c)
  | .error e c => .error e (s.1, c)

/-- Change what has been collected. -/
def collect (f : σ → σ) : Collector σ Unit := modify fun s => (f s.1, s.2)

/-- The parser that runs a collector of its own. It answers with what has been collected and the
fault that has been met, if any. -/
def answering (start : τ) (c : Collector τ Unit) : Parser (τ × Option SyntaxError) := fun cursor =>
  match c (start, cursor) with
  | .ok _ t => .ok (t.1, none) t.2
  | .error e t => .ok (t.1, some e) t.2

/-- Run a collector of its own on a parenthesized group. The answer is what it has collected and the
fault it has met, if any; that there is no such group is such a fault too. -/
def grouped (start : τ) (c : Collector τ Unit) : Collector σ (τ × Option SyntaxError) := fun s =>
  match Parser.enclosed .parenthesis (answering start c) s.2 with
  | .ok a cursor => .ok a (s.1, cursor)
  | .error e cursor => .ok (start, some e) (s.1, cursor)

/-- Stop at an entry with a remark about it. -/
def refuse (m : Meta) (text : String) : Collector σ α :=
  throw { fault := .remark text, pos := some m.pos }

end Collector

namespace Parser

/-- The path of an entry. -/
def entryPath : Parser Meta := do
  let rooted ← operator? "::"
  let pos ← here
  if !(← looking isAnyWord) then
    if ← atEnd then remark "expected nested attribute"
    if ← looking isLiteral then
      remark "unexpected literal in nested attribute, expected ident"
    remark "unexpected token in nested attribute, expected ident"
  let path ← rounds fun _ => do
    let id ← anyWord
    if ← operator? "::" then return .next id else return .stop [id]
  return { rooted, path, pos }

end Parser

namespace Collector

variable {σ : Type}

/-- Read entries until the group ends, at least one. A comma may follow the last one. Every entry
reads a tree, so the number of trees bounds the entries. -/
def entries (entry : Meta → Collector σ Unit) : Collector σ Unit := do
  go ((← read Parser.rest).length + 1)
where
  /-- At most `n` entries. -/
  go : Nat → Collector σ Unit
    | 0 => return
    | n + 1 => do
      entry (← read Parser.entryPath)
      if ← read Parser.atEnd then return
      read (Parser.operator ",")
      if ← read Parser.atEnd then return
      go n

end Collector

/-- The arguments of an attribute and the place where they end, or why there are none. -/
def Attribute.arguments (a : Attribute) : Except SyntaxError (List TokenTree × Position) :=
  match a with
  | .list _ _ content closed => .ok (content, closed)
  | .bare head =>
    .error
      { fault := .remark
          s!"expected attribute arguments in parentheses: #[{a.pathText}(...)]"
        pos := some head.pathPos }
  | .value _ equals _ =>
    .error
      { fault := .remark s!"expected parentheses: #[{a.pathText}(...)]"
        pos := some equals }

/-- Read the arguments of an attribute from a start value. The answer is what has been collected,
and the first fault if there is one. No arguments at all are fine. -/
def Attribute.collect {σ : Type} (a : Attribute) (start : σ) (entry : Meta → Collector σ Unit) :
    σ × Option SyntaxError :=
  match a.arguments with
  | .error e => (start, some e)
  | .ok ([], _) => (start, none)
  | .ok (content, closed) =>
    let cursor : Cursor := { trees := content, inside := none, finish := closed }
    match Collector.entries entry (start, cursor) with
    | .error e s => (s.1, some e)
    | .ok _ s => (s.1, (Parser.noteUnread s.2).map Leftover.error)

/-- A string literal in a text. -/
structure Quoted where
  /-- The literal as it is written. -/
  text : String
  /-- The string that it stands for. -/
  value : String
  /-- Its place. -/
  pos : Position

/-- Read a string literal after an equals sign. -/
def Parser.quotedValue : Parser Quoted := do
  operator "="
  let pos ← here
  let (text, value) ← stringLiteral
  return { text, value, pos }

/-- The characters after the closing quote of a string literal. -/
def Quoted.suffix (q : Quoted) : String :=
  String.ofList (q.text.toList.reverse.takeWhile fun c => c != '"' && c != '#').reverse

/-- The type that a string literal holds. A fault in it is placed at the literal. -/
def Quoted.type (q : Quoted) : Except SyntaxError Ty :=
  match parseType q.value with
  | .error e => .error { e with pos := e.pos.map fun _ => q.pos }
  | .ok t =>
    if q.suffix.isEmpty then .ok t
    else
      .error
        { fault := .remark s!"unexpected suffix `{q.suffix}` on string literal", pos := some q.pos }

/-- A type as the value of an entry: written as such, or in a string literal. -/
inductive TypeValue where
  /-- A type and its place. -/
  | plain (type : Ty) (pos : Position)
  /-- A string literal. -/
  | quoted (literal : Quoted)

/-- Read a type after an equals sign. -/
def Parser.typeValue : Parser TypeValue := do
  if ← looking fun ts => isOperator "=" ts && second isStringLiteral ts then
    return .quoted (← quotedValue)
  operator "="
  let pos ← here
  return .plain (← withGrammar fun g => Parser.type g true) pos

end BuilderGen.Code
