import BuilderGen.Code.Parser.Function

/-!
# Parsers for what stands inside declarations

Traits, implementations and foreign declarations hold functions, constants, types and macro calls.
What may be written is more than has a meaning: an item that has none is kept as its tokens.
-/

namespace BuilderGen.Code.Parser

/-- An item by its parser, which answers nothing for one that is kept as its tokens. -/
def orRaw (p : Parser (Option Item)) : Parser Item := do
  let before ← rest
  match ← p with
  | some item => return item
  | none => return .raw (← readSince before)

/-! ### Constants, types and macro calls -/

/-- A name, or an underscore. -/
def nameOrGap : Parser Ident := do
  if ← looking fun ts => isName ts || isWord "_" ts then anyWord
  else missing [.named "identifier", .spelling "_"]

/-- An expression after an equals sign, if there is one. -/
def value? (g : Grammar) : Parser (Option Expr) := do
  if ← operator? "=" then some <$> g.expr true else return none

/-- The words before the name of a declaration. -/
structure Lead where
  /-- The attributes. -/
  attributes : List Attribute
  /-- How far it can be seen. -/
  visibility : Visibility
  /-- Whether another implementation may replace it. -/
  isDefault : Bool := false

/-- Whether nothing but attributes stands before the name of a declaration. -/
def Lead.isPlain (lead : Lead) : Bool := lead.visibility.isInherited && !lead.isDefault

/-- A constant after its keyword; nothing when it has generic parameters or a where clause, or has
no value and needs one. -/
def constAfter (g : Grammar) (lead : Lead) (place : Container) (needsValue : Bool) :
    Parser (Option Item) := do
  let id ← nameOrGap
  let isGeneric ← looking (isOperator "<")
  let params ← generics g
  operator ":"
  let type ← g.type true
  let value ← value? g
  let hasWhere ← looking (isWord "where")
  discard (whereClause g params)
  operator ";"
  if isGeneric || hasWhere || (needsValue && value.isNone) then return none
  return some (.const lead.attributes lead.visibility place lead.isDefault id type value)

/-- A type alias after its keyword. In a module its where clause stands before the equals sign,
elsewhere after the type, and among foreign declarations at either place. The answer is nothing
when `admits` refuses the alias for having bounds, or for having a type. -/
def aliasAfter (g : Grammar) (lead : Lead) (place : Container)
    (admits : (bounded defined : Bool) → Bool) : Parser (Option Item) := do
  let id ← name
  let params ← generics g
  let bounded ← operator? ":"
  let (bounds, trailing) ←
    if bounded then
      separated "+" (fun ts => isWord "where" ts || isOperator "=" ts || isOperator ";" ts)
        (g.bound false true)
    else pure ([], false)
  let hasWhere ← looking fun ts => place != .body && isWord "where" ts
  let params ← if hasWhere then whereClause g params else pure params
  let type ← if ← operator? "=" then some <$> g.type true else pure none
  let params ← if !hasWhere && place != .module then whereClause g params else pure params
  operator ";"
  if !admits bounded type.isSome then return none
  return some (.typeAlias lead.attributes lead.visibility place lead.isDefault id params bounds
    trailing type)

/-- An alias that has a type and no bounds. -/
def isAliasOf (bounded defined : Bool) : Bool := defined && !bounded

/-- A macro call as an item; a macro that is defined has a name after the exclamation mark. -/
def callItem (attributes : List Attribute) (allowName : Bool) : Parser Item := do
  let (rooted, path) ← plainPath
  operator "!"
  let id ←
    if ← looking fun ts => allowName && (isName ts || isWord "try" ts) then some <$> anyWord
    else pure none
  let call ← invocationAfter rooted path
  if !call.isBraced then operator ";"
  return .invocation attributes call id

/-- Whether a macro call may start here. -/
def startsCall (ts : List TokenTree) : Bool :=
  isName ts || isWord "self" ts || isWord "super" ts || isWord "crate" ts || isOperator "::" ts

/-- What a macro call may start with. -/
def callStarts : List Expected :=
  .named "identifier" :: spellings ["self", "super", "crate", "::"]

/-! ### Members -/

/-- A function of a trait; its body may be missing. -/
def traitFunction (g : Grammar) (lead : Lead) : Parser (Option Item) := do
  let s ← signature g false
  if ← looking (isGroup .brace) then
    return some (s.item lead.attributes lead.visibility false (some (← g.block true)))
  if ← operator? ";" then return some (s.item lead.attributes lead.visibility false none)
  missing [.named "curly braces", .spelling ";"]

/-- An item of a trait after its attributes and visibility. -/
def traitItemAfter (g : Grammar) (lead : Lead) : Parser (Option Item) := do
  if ← isSignature false then traitFunction g lead
  else if ← looking (isWord "const") then
    if ← looking (second fun ts => isName ts || isWord "_" ts) then
      word "const"
      constAfter g lead .body false
    else if ← looking (second fun ts => ["async", "unsafe", "extern", "fn"].any (isWord · ts)) then
      traitFunction g lead
    else
      word "const"
      missing (.named "identifier" :: spellings ["_", "async", "unsafe", "extern", "fn"])
  else if ← word? "type" then aliasAfter g lead .body fun _ _ => true
  else if lead.isPlain && (← looking startsCall) then some <$> callItem lead.attributes false
  else missing (spellings ["fn", "const", "type"] ++ if lead.isPlain then callStarts else [])

/-- An item of a trait. With a visibility or the word `default` it is kept as its tokens. -/
def traitItem (g : Grammar) : Parser Item :=
  orRaw do
    let attributes ← attributes g
    let visibility ← visibility
    let lead : Lead := { attributes, visibility, isDefault := ← word? "default" }
    let item ← traitItemAfter g lead
    return if lead.isPlain then item else none

/-- An item of an implementation. -/
def implItem (g : Grammar) : Parser Item :=
  orRaw do
    let attributes ← attributes g
    let visibility ← visibility
    let isDefault ← looking fun ts => isWord "default" ts && !second (isOperator "!") ts
    if isDefault then word "default"
    let lead : Lead := { attributes, visibility, isDefault }
    if ← isSignature false then
      let s ← signature g false
      if ← operator? ";" then return none
      return some (s.item attributes visibility isDefault (some (← g.block true)))
    else if ← word? "const" then constAfter g lead .body true
    else if ← word? "type" then aliasAfter g lead .body isAliasOf
    else if lead.isPlain && (← looking startsCall) then some <$> callItem attributes false
    else
      missing (spellings ((if isDefault then [] else ["default"]) ++ ["fn", "const", "type"])
        ++ if lead.isPlain then callStarts else [])

/-- A foreign function. With a body or the word `safe` it is kept as its tokens. -/
def foreignFunction (g : Grammar) (lead : Lead) : Parser (Option Item) := do
  let s ← signature g true
  let hasBody ← looking (isGroup .brace)
  if hasBody then discard (g.block true) else operator ";"
  if hasBody || s.isSafe then return none
  return some (s.item lead.attributes lead.visibility false none)

/-- A foreign static variable. With a value or a mark it is kept as its tokens. -/
def foreignStatic (g : Grammar) (lead : Lead) : Parser (Option Item) := do
  let isMarked ← looking fun ts => !isWord "static" ts
  if isMarked then discard anyWord
  word "static"
  let isMut ← word? "mut"
  let id ← name
  operator ":"
  let type ← g.type true
  let value ← value? g
  operator ";"
  if isMarked || value.isSome then return none
  return some (.static lead.attributes lead.visibility isMut id type none)

/-- An item among foreign declarations. -/
def foreignItem (g : Grammar) : Parser Item :=
  orRaw do
    let attributes ← attributes g
    let visibility ← visibility
    let lead : Lead := { attributes, visibility }
    let isStatic (ts : List TokenTree) : Bool :=
      isWord "static" ts
        || ((isWord "unsafe" ts || isWord "safe" ts) && second (isWord "static") ts)
    if ← isSignature true then foreignFunction g lead
    else if ← looking isStatic then foreignStatic g lead
    else if ← word? "type" then
      aliasAfter g lead .foreign fun bounded defined => !bounded && !defined
    else if lead.isPlain && (← looking startsCall) then some <$> callItem attributes false
    else missing (spellings ["fn", "static", "type"] ++ if lead.isPlain then callStarts else [])

/-- The attributes and the members in the braces of a declaration. -/
def members (g : Grammar) (one : Parser Item) : Parser (List Attribute × List Item) :=
  enclosed .brace do
    let inner ← innerAttributes g
    return (inner, ← all one)

end BuilderGen.Code.Parser
