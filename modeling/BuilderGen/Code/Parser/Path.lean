import BuilderGen.Code.Parser.Grammar

/-!
# Parsers for attributes and paths

Attributes stand before nearly everything, and paths inside of it. Where a path stands decides
which arguments it can have.
-/

namespace BuilderGen.Code.Parser

/-- Expectations of keywords or operators. -/
def spellings (words : List String) : List Expected := words.map .spelling

/-- Whether a colon that is no double colon stands at the front. -/
def isColon (ts : List TokenTree) : Bool := isOperator ":" ts && !isOperator "::" ts

/-- Whether an exclamation mark that is no inequality stands at the front. -/
def isBang (ts : List TokenTree) : Bool := isOperator "!" ts && !isOperator "!=" ts

/-- Whether the special form `builtin #` stands at the front. -/
def isBuiltin (ts : List TokenTree) : Bool := isWord "builtin" ts && second (isOperator "#") ts

/-- The special form `builtin # name (...)`, as its tokens. -/
def builtin : Parser (List TokenTree) := do
  let (_, tokens) ← consumed do
    word "builtin"
    operator "#"
    discard name
    match ← rest with
    | .group .parenthesis .. :: after => moveTo after
    | _ => missing [.named "parentheses"]
  return tokens

/-! ### Plain paths and attributes -/

/-- Whether a name or a path keyword stands at the front. -/
def isPathWord (ts : List TokenTree) : Bool :=
  isName ts || ["super", "self", "Self", "crate"].any (isWord · ts)

/-- A path of names and path keywords without arguments. -/
def plainPath : Parser (Bool × List Ident) := do
  let rooted ← operator? "::"
  let segments ← rounds fun done => do
    if !(← looking isPathWord) then
      if done.isEmpty then discard name else remark "expected path segment after `::`"
    let id ← anyWord
    if ← operator? "::" then return .next id else return .stop [id]
  return (rooted, segments)

/-- The value of an attribute: a literal that stands alone, or any other expression. -/
def attributeValue (g : Grammar) : Parser Expr := do
  let trees ← rest
  match literalAt? trees with
  | some (text, []) =>
    moveTo []
    return .literal text
  | _ =>
    if isOperator "#" trees && second (isGroup .bracket) trees then
      remark "unexpected attribute inside of attribute"
    else g.expr true

/-- What follows the path of an attribute. -/
def attributeAfter (g : Grammar) (head : AttributeHead) : Parser Attribute := do
  match ← rest with
  | .group d content _ closed :: after =>
    moveTo after
    return .list head d content closed
  | trees =>
    if isOperator "=" trees && !isOperator "==" trees && !isOperator "=>" trees then
      let equals ← here
      operator "="
      return .value head equals (← attributeValue g)
    else return .bare head

/-- The bracketed part of an attribute whose number sign is at `pos`. -/
def attributeBody (g : Grammar) (pos : Position) (isInner : Bool) : Parser Attribute :=
  enclosed .bracket do
    let pathPos ← here
    let (rooted, path) ←
      if ← looking (isWord "unsafe") then do
        let id ← anyWord
        pure (false, [id])
      else plainPath
    attributeAfter g { pos, isInner, rooted, path, pathPos }

/-- The attributes before a thing. -/
def attributes (g : Grammar) : Parser (List Attribute) :=
  rounds fun _ => do
    if !(← looking (isOperator "#")) then return .stop []
    let pos ← here
    operator "#"
    return .next (← attributeBody g pos false)

/-- The attributes at the start of a thing, `#![...]`. -/
def innerAttributes (g : Grammar) : Parser (List Attribute) :=
  rounds fun _ => do
    if !(← looking fun ts => isOperator "#" ts && second (isOperator "!") ts) then return .stop []
    let pos ← here
    operator "#"
    operator "!"
    return .next (← attributeBody g pos true)

/-! ### Macro calls -/

/-- The body of a macro call after its exclamation mark. -/
def invocationAfter (rooted : Bool) (path : List Ident) : Parser Invocation := do
  let (delimiter, body) ← anyGroup
  return { rooted, path, delimiter, body }

/-- A macro call after its path, if the path can name a macro and an exclamation mark follows. -/
def invocation? (p : Path) : Parser (Option Invocation) := do
  if p.segments.all (·.args matches .none) && (← looking isBang) then
    operator "!"
    return some (← invocationAfter p.rooted (p.segments.map (·.name)))
  else return none

/-! ### Paths with arguments -/

/-- A literal, a name or a block as a constant argument. -/
def constArgument (g : Grammar) : Parser Expr := do
  if ← looking isLiteral then return .literal (← literal)
  if ← looking isName then return .path ⟨false, [⟨← name, .none⟩]⟩
  if ← looking (isGroup .brace) then return ← g.block true
  fail (.missing [])

/-- A generic argument. -/
def argument (g : Grammar) : Parser Argument := do
  if ← looking fun ts => isLifetime ts && !second (isOperator "+") ts then
    return .lifetime (← lifetime)
  if ← looking fun ts => isLiteral ts || isGroup .brace ts then
    return .const (← constArgument g)
  let t ← g.type true
  match t with
  | .path ⟨false, [⟨name, args⟩]⟩ =>
    if ← operator? "=" then
      if ← looking fun ts => isLiteral ts || isGroup .brace ts then
        return .assocConst name args (← constArgument g)
      else return .assocType name args (← g.type true)
    if ← operator? ":" then
      let (bounds, trailing) ← sum (fun ts => isOperator "," ts || isOperator ">" ts)
        (g.bound false true)
      return .constraint name args bounds trailing
    return .type t
  | _ => return .type t

/-- The arguments in angle brackets after a segment. -/
def angled (g : Grammar) : Parser Arguments := do
  let turbofish ← operator? "::"
  operator "<"
  let (args, trailing) ← separated "," (isOperator ">") (argument g)
  operator ">"
  return .angled turbofish args trailing

/-- A segment of a path. In an expression a plain `<` is a comparison. -/
def segment (g : Grammar) (inExpr : Bool) : Parser Segment := do
  if ← looking fun ts => ["super", "self", "crate", "try"].any (isWord · ts) then
    return ⟨← anyWord, .none⟩
  let id ← if ← looking (isWord "Self") then anyWord else name
  let hasArguments ← looking fun ts =>
    (!inExpr && isOperator "<" ts && !isOperator "<=" ts && !isOperator "<<=" ts)
      || (isOperator "::" ts && third (isOperator "<") ts)
  if hasArguments then return ⟨id, ← angled g⟩ else return ⟨id, .none⟩

/-- A path with arguments. -/
def path (g : Grammar) (inExpr : Bool) : Parser Path := do
  let rooted ← operator? "::"
  let segments ← rounds fun _ => do
    let s ← segment g inExpr
    if ← looking fun ts => isOperator "::" ts && !third (isGroup .parenthesis) ts then
      operator "::"
      return .next s
    else return .stop [s]
  return ⟨rooted, segments⟩

/-- A path, or a path below a type: the type, its role and the segments below. -/
def qualifiedPath (g : Grammar) (inExpr : Bool) :
    Parser (Path ⊕ Ty × Option Path × List Segment) := do
  if !(← looking (isOperator "<")) then return .inl (← path g inExpr)
  operator "<"
  let self ← g.type true
  let role ← if ← word? "as" then some <$> path g false else pure none
  operator ">"
  operator "::"
  let segments ← rounds fun _ => do
    let s ← segment g inExpr
    if ← operator? "::" then return .next s else return .stop [s]
  return .inr (self, role, segments)

/-- A path, perhaps below a type, as the value that it names. -/
def pathValue (g : Grammar) : Parser Expr := do
  match ← qualifiedPath g true with
  | .inl p => return .path p
  | .inr (self, role, segments) => return .qualified self role segments

end BuilderGen.Code.Parser
