import BuilderGen.Code.Parser.Generics
import BuilderGen.Code.Parser.Statement

/-!
# Parsers for expressions

An expression is operands with operators between them. Operators that bind more tightly are read
first. Where a block follows, as after a condition, a struct literal would be taken for the block
and is not admitted.
-/

namespace BuilderGen.Code.Parser

/-! ### Operators -/

/-- The binary operators with their precedences; an operator comes before its own beginnings. -/
def binaryOperators : List (String × Precedence) :=
  [("+=", .assign), ("-=", .assign), ("*=", .assign), ("/=", .assign), ("%=", .assign),
    ("^=", .assign), ("&=", .assign), ("|=", .assign), ("<<=", .assign), (">>=", .assign),
    ("&&", .and), ("||", .or), ("<<", .shift), (">>", .shift), ("==", .compare), ("<=", .compare),
    ("!=", .compare), (">=", .compare), ("+", .sum), ("-", .sum), ("*", .product),
    ("/", .product), ("%", .product), ("^", .bitXor), ("&", .bitAnd), ("|", .bitOr),
    ("<", .compare), (">", .compare)]

/-- The binary operator at the front. -/
def binaryAt? (ts : List TokenTree) : Option (String × Precedence) :=
  binaryOperators.find? fun o => isOperator o.1 ts

/-- Whether an equals sign that is no arrow stands at the front. -/
def isAssignment (ts : List TokenTree) : Bool := isOperator "=" ts && !isOperator "=>" ts

/-- The precedence of what extends an expression at the front. -/
def precedenceAt (ts : List TokenTree) : Precedence :=
  match binaryAt? ts with
  | some (_, p) => p
  | none =>
    if isAssignment ts then .assign
    else if isOperator ".." ts then .range
    else if isWord "as" ts then .cast
    else .lowest

/-- Whether an expression is a comparison. -/
def isComparison : Expr → Bool
  | .binary _ o _ => (binaryOperators.find? (·.1 == o)).any (·.2 == .compare)
  | _ => false

/-- The right operand of an operator: as long as tighter operators follow, they belong to it. -/
def rightOperand (g : Grammar) (allowStruct : Bool) (p : Precedence) : Parser Expr := do
  iterate (fun operand => do
    let trees ← rest
    let next := precedenceAt trees
    if p.rank < next.rank || (next = p && p = .assign) then
      let operand ← g.operators allowStruct next operand
      if (← rest).length < trees.length then return some operand else return none
    else return none) (← g.unary allowStruct)

/-- The dots of a range; the answer is whether the range includes its end. -/
def rangeDots : Parser Bool := do
  if ← looking (isOperator "..=") then
    operator "..="
    return true
  else if ← looking fun ts => isOperator ".." ts && !isOperator "..." ts then
    operator ".."
    return false
  else missing (spellings ["..", "..="])

/-- The operators before which the end of a half-open range is left out. -/
def rangeEnders : List String :=
  [",", ";", "?", "=>", "=", "+", "/", "%", "^", ">", "<=", "!=", "-=", "*=", "&=", "|=", "<<="]

/-- Where the end of a half-open range is left out. -/
def lacksRangeEnd (allowStruct : Bool) (ts : List TokenTree) : Bool :=
  ts.isEmpty || rangeEnders.any (isOperator · ts) || (isOperator "." ts && !isOperator ".." ts)
    || (!allowStruct && isGroup .brace ts) || isWord "as" ts

/-- A range after its start. -/
def rangeFrom (g : Grammar) (allowStruct : Bool) (start : Option Expr) : Parser Expr := do
  let closed ← rangeDots
  if !closed && (← looking (lacksRangeEnd allowStruct)) then return .range start closed none
  return .range start closed (some (← rightOperand g allowStruct .range))

/-- What must not follow a conversion, at the front. -/
def afterCast? (ts : List TokenTree) : Option String :=
  if isOperator "." ts && !isOperator ".." ts then
    if second (isWord "await") ts then some "`.await`"
    else if second isName ts
        && third (fun ts => isGroup .parenthesis ts || isOperator "::" ts) ts then
      some "a method call"
    else some "a field access"
  else if isOperator "?" ts then some "`?`"
  else if isGroup .bracket ts then some "indexing"
  else if isGroup .parenthesis ts then some "a function call"
  else none

/-- The operators after a first operand that bind at least as tightly as `base`. -/
def operators (g : Grammar) (allowStruct : Bool) (base : Precedence) : Expr → Parser Expr :=
  iterate fun left => do
    if left.isRange then return none
    let trees ← rest
    match binaryAt? trees with
    | some (o, p) =>
      if p.rank < base.rank then return none
      if p = .compare && isComparison left then remark "comparison operators cannot be chained"
      operator o
      return some (.binary left o (← rightOperand g allowStruct p))
    | none =>
      if base.rank ≤ Precedence.assign.rank && isAssignment trees then
        operator "="
        return some (.binary left "=" (← rightOperand g allowStruct .assign))
      else if base.rank ≤ Precedence.range.rank && isOperator ".." trees then
        return some (← rangeFrom g allowStruct (some left))
      else if isWord "as" trees then
        word "as"
        let t ← g.type false
        match afterCast? (← rest) with
        | some what => remark ("casts cannot be followed by " ++ what)
        | none => return some (.cast left t)
      else return none

/-- An expression. -/
def expr (g : Grammar) (allowStruct : Bool) : Parser Expr := do
  operators g allowStruct .lowest (← g.unary allowStruct)

/-! ### Calls, fields and elements -/

/-- Expressions with commas between them. -/
def exprList (g : Grammar) : Parser (List Expr × Bool) := commaList (g.expr true)

/-- Expressions in parentheses, with commas between them. -/
def callArguments (g : Grammar) : Parser (List Expr × Bool) :=
  enclosed .parenthesis (exprList g)

/-- The number with points at the front, and the trees after it. -/
def pointedAt? (ts : List TokenTree) : Option (String × List TokenTree) :=
  (literalAt? ts).filter fun l =>
    isFloatLiteral (if l.1.startsWith "-" then String.ofList (l.1.toList.drop 1) else l.1)

/-- The tuple fields that a number with points at a given place stands for, below an expression. -/
def pointedFields (pos : Position) (e : Expr) : List String → Parser Expr
  | [] => return e
  | part :: rest => do
    if !isSignedInt part then remarkAt pos "expected integer literal"
    pointedFields pos (.field e (← indexOf pos part)) rest

/-- What follows the dot after an expression: `await`, a field, or a method call. -/
def memberAfter (g : Grammar) (e : Expr) : Parser Expr := do
  if ← word? "await" then return .await e
  match ← member with
  | .index n => return .field e (.index n)
  | .named id =>
    let turbofish ← operator? "::"
    let generics ←
      if turbofish then do
        match ← angled g with
        | .angled _ args trailing => pure (Arguments.angled true args trailing)
        | other => pure other
      else pure .none
    if turbofish || (← looking (isGroup .parenthesis)) then
      let (args, trailing) ← callArguments g
      return .method e id generics args trailing
    else return .field e (.named id)

/-- A dot and what follows it. Tuple fields that follow each other can look like a number with
points. -/
def dotted (g : Grammar) (e : Expr) : Parser Expr := do
  operator "."
  match pointedAt? (← rest) with
  | none => memberAfter g e
  | some (text, after) =>
    let pos ← here
    moveTo after
    let parts := text.splitOn "."
    if parts.getLast? == some "" then memberAfter g (← pointedFields pos e parts.dropLast)
    else pointedFields pos e parts

/-- The calls, fields and elements after an operand. -/
def trailers (g : Grammar) : Expr → Parser Expr :=
  iterate fun e => do
    let trees ← rest
    if isGroup .parenthesis trees then
      let (args, trailing) ← callArguments g
      return some (.call e args trailing)
    else if isOperator "." trees && !isOperator ".." trees && !e.isRange then
      return some (← dotted g e)
    else if isGroup .bracket trees then
      return some (.index e (← enclosed .bracket (g.expr true)))
    else if isOperator "?" trees && !e.isRange then
      operator "?"
      return some (.propagate e)
    else return none

/-! ### Operands with words -/

/-- A condition, its block, and the block after a last `else`. -/
structure Clause where
  /-- The condition. -/
  condition : Expr
  /-- The block to run when it holds. -/
  body : Expr
  /-- The block to run otherwise. -/
  otherwise : Option Expr

/-- The chain of `if` and `else` that clauses make. -/
def chainOf : List Clause → Option Expr
  | [] => none
  | c :: rest => some (.conditional c.condition c.body (c.otherwise.or (chainOf rest)))

/-- A chain of `if` and `else`. -/
def ifChain (g : Grammar) : Parser Expr := do
  let clauses ← rounds fun _ => do
    word "if"
    let condition ← g.expr false
    let body ← g.block false
    if !(← word? "else") then return .stop [⟨condition, body, none⟩]
    if ← looking (isWord "if") then return .next ⟨condition, body, none⟩
    if ← looking (isGroup .brace) then
      return .stop [⟨condition, body, some (← g.block false)⟩]
    missing [.spelling "if", .named "curly braces"]
  match chainOf clauses with
  | some e => return e
  | none => missing [.spelling "if"]

/-- The parameters of a closure, between its bars. -/
def closureParams (g : Grammar) : Parser (List Pattern × Bool) := do
  operator "|"
  let params ← separated "," (isOperator "|") do
    let attributes ← attributes g
    marked attributes <$> typedPattern g
  operator "|"
  return params

/-- A closure. -/
def closure (g : Grammar) (allowStruct : Bool) : Parser Expr := do
  let lifetimes ← binder? g
  let isConst ← word? "const"
  let isStatic ← word? "static"
  let isAsync ← word? "async"
  let isMove ← word? "move"
  let head : ClosureHead := { isConst, isStatic, isAsync, isMove }
  let (params, trailing) ← closureParams g
  if ← operator? "->" then
    let result ← g.type true
    return .closure lifetimes head params trailing (some result) (← g.block false)
  return .closure lifetimes head params trailing none (← g.expr allowStruct)

/-- Whether an expression may start here, after `return` or `break`. -/
def startsExpr (ts : List TokenTree) : Bool :=
  (isAnyWord ts && !isWord "as" ts) || isGroup .parenthesis ts || isGroup .bracket ts
    || isGroup .brace ts || isLiteral ts || isBang ts
    || (isOperator "-" ts && !isOperator "-=" ts && !isOperator "->" ts)
    || (isOperator "*" ts && !isOperator "*=" ts) || (isOperator "|" ts && !isOperator "|=" ts)
    || (isOperator "&" ts && !isOperator "&=" ts) || isOperator ".." ts
    || (isOperator "<" ts && !isOperator "<=" ts && !isOperator "<<=" ts) || isOperator "::" ts
    || isLifetime ts || isOperator "#" ts

/-- A lifetime, if one is there. -/
def lifetime? : Parser (Option Ident) := do
  if ← looking isLifetime then some <$> lifetime else return none

/-- A `break` with its label and value. -/
def breakOperand (g : Grammar) (allowStruct : Bool) : Parser Expr := do
  word "break"
  if ← looking fun ts => isLifetime ts && second (isOperator ":") ts then
    let pos ← here
    discard (g.expr true)
    remarkAt pos "parentheses required"
  let label ← lifetime?
  if ← looking fun ts => startsExpr ts && (allowStruct || !isGroup .brace ts) then
    return .jump .leave label (some (← g.expr true))
  return .jump .leave label none

/-- A jump that hands over a value, if there is one. -/
def jumpOperand (g : Grammar) (kind : Jump) : Parser Expr := do
  word kind.keyword
  if ← looking startsExpr then return .jump kind none (some (← g.expr true))
  return .jump kind none none

/-- A loop or block after its label. -/
def labelled (g : Grammar) (label : Option Ident) : Parser Expr := do
  let trees ← rest
  if isWord "while" trees then
    word "while"
    let condition ← g.expr false
    return .whileLoop label condition (← g.block true)
  else if isWord "for" trees then
    word "for"
    let p ← alternatives g
    word "in"
    let source ← g.expr false
    return .forLoop label p source (← g.block true)
  else if isWord "loop" trees then
    word "loop"
    return withHead (.loop label) (← g.block true)
  else if isGroup .brace trees then return withHead (.plain label) (← g.block true)
  else remark "expected loop or block expression"

/-- A choice by patterns. -/
def matchOperand (g : Grammar) : Parser Expr := do
  word "match"
  let subject ← g.expr false
  enclosed .brace do
    let inner ← innerAttributes g
    return .matching subject inner (← all (arm g))

/-- A block after its keyword. -/
def wordBlock (g : Grammar) (keyword : String) (head : BlockHead) (allowInner : Bool) :
    Parser Expr := do
  word keyword
  withHead head <$> g.block allowInner

/-- An expression that stands alone as a statement, if one is at the front. -/
def standing? (g : Grammar) : Parser (Option Expr) := do
  let trees ← rest
  if isWord "if" trees then some <$> ifChain g
  else if isWord "while" trees || isWord "loop" trees
      || (isWord "for" trees && !second startsGenerics trees) then
    some <$> labelled g none
  else if isWord "match" trees then some <$> matchOperand g
  else if isWord "try" trees && second (isGroup .brace) trees then
    some <$> wordBlock g "try" .tryBlock false
  else if isWord "unsafe" trees then some <$> wordBlock g "unsafe" .unsafeBlock true
  else if isWord "const" trees && second (isGroup .brace) trees then
    some <$> wordBlock g "const" .constBlock true
  else if isGroup .brace trees then some <$> g.block true
  else if isLifetime trees then
    let label ← lifetime
    operator ":"
    some <$> labelled g (some label)
  else return none

/-! ### Operands -/

/-- One of the fields of a struct literal. -/
def structField (g : Grammar) : Parser Entry := do
  let attributes ← attributes g
  let m ← member
  match m with
  | .index _ =>
    operator ":"
    return .field attributes m true (← g.expr true)
  | .named id =>
    if ← operator? ":" then return .field attributes m true (← g.expr true)
    return .field attributes m false (.path ⟨false, [⟨id, .none⟩]⟩)

/-- The fields of a struct literal, each with whether a comma follows it. -/
def structFields (g : Grammar) : Parser (List (Entry × Bool)) :=
  rounds fun _ => do
    if ← atEnd then return .stop []
    if ← operator? ".." then
      let value ← if ← atEnd then pure none else some <$> g.expr true
      return .stop [(.rest value, false)]
    let f ← structField g
    if ← atEnd then return .stop [(f, false)]
    operator ","
    return .next (f, true)

/-- An operand that starts with a path: a macro call, a struct literal, or the path. -/
def pathOperand (g : Grammar) (allowStruct : Bool) : Parser Expr := do
  let e ← pathValue g
  if let .path p := e then
    if let some call ← invocation? p then return .invocation call
  if allowStruct && (← looking (isGroup .brace)) then
    let fields ← enclosed .brace (structFields g)
    return .struct e (fields.map (·.1)) (fields.getLast?.any (·.2))
  return e

/-- A unit, an expression in parentheses, or a tuple. -/
def parenOperand (g : Grammar) : Parser Expr :=
  enclosed .parenthesis do
    if ← atEnd then return .tuple [] false
    let first ← g.expr true
    if ← atEnd then return .paren first
    operator ","
    let (more, trailing) ← exprList g
    return .tuple (first :: more) (more.isEmpty || trailing)

/-- An array, element by element or by repetition. -/
def arrayOperand (g : Grammar) : Parser Expr :=
  enclosed .bracket do
    if ← atEnd then return .array [] false
    let first ← g.expr true
    if ← atEnd then return .array [first] false
    if ← operator? "," then
      let (more, trailing) ← exprList g
      return .array (first :: more) (more.isEmpty || trailing)
    else if ← operator? ";" then return .repeated first (← g.expr true)
    else remark "expected `,` or `;`"

/-- Whether a closure stands at the front. -/
def startsClosure (ts : List TokenTree) : Bool :=
  isOperator "|" ts || isWord "move" ts || (isWord "for" ts && second startsGenerics ts)
    || (isWord "const" ts && !second (isGroup .brace) ts) || isWord "static" ts
    || (isWord "async" ts && (second (isOperator "|") ts || second (isWord "move") ts))

/-- An asynchronous block. -/
def asyncBlock (g : Grammar) : Parser Expr := do
  word "async"
  let isMove ← word? "move"
  withHead (.async isMove) <$> g.block false

/-- A pattern as a condition. Of the operators after its value only comparisons and tighter ones
belong to it. -/
def bindingOperand (g : Grammar) (allowStruct : Bool) : Parser Expr := do
  word "let"
  let p ← alternatives g
  operator "="
  return .binding p (← g.operators allowStruct .compare (← g.unary allowStruct))

/-- A tail call, kept as its tokens. -/
def becomeOperand (g : Grammar) : Parser Expr := do
  let (_, tokens) ← consumed do
    word "become"
    g.expr true
  return .raw tokens

/-- An operand without prefix operators and without calls, fields and elements after it. -/
def atom (g : Grammar) (allowStruct : Bool) : Parser Expr := do
  let trees ← rest
  if isLiteral trees then return .literal (← literal)
  else if isWord "async" trees && (second (isGroup .brace) trees
      || (second (isWord "move") trees && third (isGroup .brace) trees)) then asyncBlock g
  else if startsClosure trees then closure g allowStruct
  else if isBuiltin trees then return .raw (← builtin)
  else if isPathWord trees || isOperator "::" trees || isOperator "<" trees
      || (isWord "try" trees && (second (isOperator "!") trees || second (isOperator "::") trees))
      then
    pathOperand g allowStruct
  else if isGroup .parenthesis trees then parenOperand g
  else if isWord "break" trees then breakOperand g allowStruct
  else if isWord "continue" trees then
    word "continue"
    return .jump .next (← lifetime?) none
  else if isWord "return" trees then jumpOperand g .answer
  else if isWord "yield" trees then jumpOperand g .emit
  else if isWord "become" trees then becomeOperand g
  else if isGroup .bracket trees then arrayOperand g
  else if isWord "let" trees then bindingOperand g allowStruct
  else if isOperator ".." trees then rangeFrom g allowStruct none
  else if isWord "_" trees then
    word "_"
    return .infer
  else
    match ← standing? g with
    | some e => return e
    | none => remark "expected an expression"

/-- The expression at the front of a statement: one that stands alone ends there, unless a dot or
a question mark follows it. Its attributes belong to its first operand. -/
def early (g : Grammar) : Parser Expr := do
  let attributes ← attributes g
  match ← standing? g with
  | some e =>
    if ← looking fun ts => (isOperator "." ts && !isOperator ".." ts) || isOperator "?" ts then
      operators g true .lowest (attach attributes (← trailers g e))
    else return attach attributes e
  | none => operators g true .lowest (attach attributes (← g.unary true))

/-- An operand with the calls, fields and elements after it. What is kept as tokens keeps those of
its attributes too, and a range without a start must have none. -/
def trailerOperand (g : Grammar) (allowStruct : Bool) (attributes : List Attribute) :
    Parser Expr := do
  let pos ← here
  let e ← trailers g (← atom g allowStruct)
  match e with
  | .raw tokens => return .raw (attributesTokens attributes ++ tokens)
  | .range .. =>
    if attributes.isEmpty then return e
    remarkAt pos "attributes are not allowed on range expressions starting with `..`"
  | e => return attach attributes e

/-- An operand with its attributes and prefix operators. -/
def unary (g : Grammar) (allowStruct : Bool) : Parser Expr := do
  let attributes ← attributes g
  let trees ← rest
  if isOperator "&" trees then
    operator "&"
    if ← looking fun ts =>
        isWord "raw" ts && (second (isWord "mut") ts || second (isWord "const") ts) then
      word "raw"
      let isMut := (← anyWord).is "mut"
      return attach attributes (.address isMut (← g.unary allowStruct))
    let isMut ← word? "mut"
    return attach attributes (.reference isMut (← g.unary allowStruct))
  match ["*", "!", "-"].find? (isOperator · trees) with
  | some o =>
    operator o
    return attach attributes (.unary o (← g.unary allowStruct))
  | none => trailerOperand g allowStruct attributes

end BuilderGen.Code.Parser
