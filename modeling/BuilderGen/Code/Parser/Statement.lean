import BuilderGen.Code.Parser.Pattern
import BuilderGen.Code.Tree.Tokens

/-!
# Parsers for statements

A block holds statements. Some are known by their first tokens; all others are expressions, which
end with a semicolon unless they end the block or stand alone.
-/

namespace BuilderGen.Code.Parser

/-- Whether an item stands at the front of a block, after its attributes. -/
def startsItem (ts : List TokenTree) : Bool :=
  isWord "pub" ts || (isWord "crate" ts && !second (isOperator "::") ts) || isWord "extern" ts
    || isWord "use" ts
    || (isWord "static" ts && (second (isWord "mut") ts
      || (second isName ts && !(second (isWord "async") ts
        && (third (isWord "move") ts || third (isOperator "|") ts)))))
    || (isWord "const" ts && !(second (isGroup .brace) ts || second (isWord "static") ts
      || (second (isWord "async") ts && !(third (isWord "unsafe") ts || third (isWord "extern") ts
        || third (isWord "fn") ts))
      || second (isWord "move") ts || second (isOperator "|") ts))
    || (isWord "unsafe" ts && !second (isGroup .brace) ts)
    || (isWord "async" ts && (second (isWord "unsafe") ts || second (isWord "extern") ts
      || second (isWord "fn") ts))
    || ["fn", "mod", "type", "struct", "enum", "trait", "impl", "macro"].any (isWord · ts)
    || (isWord "union" ts && second isName ts)
    || (isWord "auto" ts && second (isWord "trait") ts)
    || (isWord "default" ts && (second (isWord "unsafe") ts || second (isWord "impl") ts))

/-- What a macro call at the front of a statement is. -/
inductive CallForm where
  /-- A macro that defines something. -/
  | item
  /-- A call in braces, which is a statement. -/
  | statement
  /-- Part of an expression, or no macro call. -/
  | expr

/-- What a macro call at the front of a statement is. -/
def callForm : Parser CallForm := do
  let after? ← ahead do
    discard plainPath
    rest
  match after? with
  | none => return .expr
  | some ts =>
    if !isOperator "!" ts then return .expr
    if second isName ts || second (isWord "try") ts then return .item
    let isAfterBody (ts : List TokenTree) : Bool :=
      (isOperator "." ts && !isOperator ".." ts) || isOperator "?" ts
    if second (isGroup .brace) ts && !third isAfterBody ts then return .statement
    return .expr

/-- A macro call that is a statement by itself. -/
def callStatement (attributes : List Attribute) : Parser Entry := do
  let (rooted, path) ← plainPath
  operator "!"
  let call ← invocationAfter rooted path
  return .invocation attributes call (← operator? ";")

/-- A pattern with its type, if a colon follows it. -/
def typedPattern (g : Grammar) : Parser Pattern := do
  let p ← g.pattern
  if ← operator? ":" then return .typed p (← g.type true) else return p

/-- The value of a `let` statement, and the block after `else`. A value that ends with a brace has
none. -/
def localValue (g : Grammar) : Parser (Option Expr × Option Expr) := do
  if !(← operator? "=") then return (none, none)
  let (value, tokens) ← consumed (g.expr true)
  let endsInBrace := tokens.getLast?.any fun t => isGroup .brace [t]
  let isRefutable ← if endsInBrace then pure false else word? "else"
  if isRefutable then return (some value, some (← g.block false))
  return (some value, none)

/-- A `let` statement. -/
def localStatement (g : Grammar) (attributes : List Attribute) : Parser Entry := do
  word "let"
  let p ← typedPattern g
  let (value, otherwise) ← localValue g
  operator ";"
  return .declare attributes p value otherwise

/-- Attributes before an expression: they belong to its first operand. An expression that is kept as
tokens keeps none. -/
def attach (attributes : List Attribute) : Expr → Expr
  | .binary left operator right => .binary (attach attributes left) operator right
  | .cast operand type => .cast (attach attributes operand) type
  | .raw tokens => .raw tokens
  | .attributed more e => .attributed (attributes ++ more) e
  | e => if attributes.isEmpty then e else .attributed attributes e

/-- The statement that an expression is; a macro call that needs no semicolon, or has one, is a
statement of its own. -/
def exprStatement (e : Expr) (semicolon : Bool) : Entry :=
  match e with
  | .invocation call =>
    if semicolon || call.isBraced then .invocation [] call semicolon else .expr e semicolon
  | .attributed attributes (.invocation call) =>
    if semicolon || call.isBraced then .invocation attributes call semicolon
    else .expr e semicolon
  | e => .expr e semicolon

/-- Whether a statement is complete without a semicolon. -/
def endsItself : Entry → Bool
  | .expr e semicolon => semicolon || e.standsAlone
  | .invocation _ call semicolon => semicolon || call.isBraced
  | _ => true

/-- A statement that is no lone semicolon. -/
def statement (g : Grammar) : Parser Entry := do
  let start ← get
  let attributes ← attributes g
  match ← callForm with
  | .statement => callStatement attributes
  | form =>
    if ← looking (isWord "let") then localStatement g attributes
    else if (form matches .item) || (← looking startsItem) then
      set start
      return .item (← g.item)
    else
      let e ← attach attributes <$> g.early
      return exprStatement e (← operator? ";")

/-- The statements of a block. -/
def statements (g : Grammar) : Parser (List Entry) :=
  rounds fun _ => do
    if ← operator? ";" then return .next .empty
    if ← atEnd then return .stop []
    let s ← statement g
    if ← atEnd then return .stop [s]
    if !endsItself s then remark "unexpected token, expected `;`"
    return .next s

/-- A block in braces, with or without attributes at its start. -/
def block (g : Grammar) (allowInner : Bool) : Parser Expr :=
  enclosed .brace do
    let inner ← if allowInner then innerAttributes g else pure []
    return .block (.plain none) inner (← statements g)

/-- Make another kind of block of one without a keyword. -/
def withHead (head : BlockHead) : Expr → Expr
  | .block _ inner body => .block head inner body
  | e => e

/-- An arm of a match. -/
def arm (g : Grammar) : Parser Entry := do
  let attributes ← attributes g
  let p ← alternatives g
  let guard ← if ← word? "if" then some <$> g.expr true else pure none
  operator "=>"
  let body ← g.early
  if !body.standsAlone && !(← atEnd) then
    operator ","
    return .arm attributes p guard body true
  return .arm attributes p guard body (← operator? ",")

end BuilderGen.Code.Parser
