import BuilderGen.Code.Item
import BuilderGen.Code.Parser.Data
import BuilderGen.Code.Parser.Member

/-!
# Parsers for items

Items are told apart by their first tokens. An item that is read but has no meaning, such as a
function without a body, is kept as its tokens.
-/

namespace BuilderGen.Code.Parser

/-! ### Traits and implementations -/

/-- The head of a trait, up to its generic parameters. -/
def traitHead (g : Grammar) : Parser (Ident × Generics) := do
  word "trait"
  let id ← name
  return (id, ← generics g)

/-- A trait after its generic parameters. -/
def traitAfter (g : Grammar) (lead : Lead) (isUnsafe isAuto : Bool) (id : Ident)
    (params : Generics) : Parser Item := do
  let (bounds, trailing) ←
    if ← operator? ":" then
      separated "+" (fun ts => isWord "where" ts || isGroup .brace ts) (g.bound false true)
    else pure ([], false)
  let params ← whereClause g params
  let (inner, items) ← members g (traitItem g)
  return .trait lead.attributes lead.visibility isUnsafe isAuto id params bounds trailing inner
    items

/-- A trait that cannot be an alias, from its keyword on. -/
def properTrait (g : Grammar) (lead : Lead) (isUnsafe : Bool) : Parser Item := do
  let isAuto ← word? "auto"
  let (id, params) ← traitHead g
  traitAfter g lead isUnsafe isAuto id params

/-- A trait or an alias of bounds, from its keyword on. -/
def traitOrAlias (g : Grammar) (lead : Lead) : Parser Item := do
  let (id, params) ← traitHead g
  if ← looking fun ts => isGroup .brace ts || isOperator ":" ts || isWord "where" ts then
    traitAfter g lead false false id params
  else if ← operator? "=" then
    let (bounds, trailing) ← separated "+" (fun ts => isWord "where" ts || isOperator ";" ts)
      (g.bound false false)
    let params ← whereClause g params
    operator ";"
    return .traitAlias lead.attributes lead.visibility id params bounds trailing
  else missing [.named "curly braces", .spelling ":", .spelling "where", .spelling "="]

/-- The trait path of an implementation, when its first type is one. -/
def asRole? : Ty → Option Path
  | .path p => some p
  | _ => none

/-- An implementation after its visibility. One that can be seen from outside, is constant, or is of
something else than a trait is kept as its tokens. -/
def implAfter (g : Grammar) (lead : Lead) : Parser (Option Item) := do
  let isDefault ← word? "default"
  let isUnsafe ← word? "unsafe"
  word "impl"
  let params ← if ← looking startsGenerics then generics g else pure .empty
  let isConst ← looking fun ts =>
    isWord "const" ts || (isOperator "?" ts && second (isWord "const") ts)
  if isConst then
    discard (operator? "?")
    word "const"
  let mark ← here
  let negative ← looking fun ts => isOperator "!" ts && !second (isGroup .brace) ts
  if negative then operator "!"
  let first ← g.type true
  let self? ← if ← word? "for" then some <$> g.type true else pure none
  if negative && self?.isNone then remarkAt mark "inherent impls cannot be negative"
  let params ← whereClause g params
  let (inner, items) ← members g (implItem g)
  if !lead.visibility.isInherited || isConst then return none
  match self? with
  | none =>
    return some (.implementation lead.attributes isDefault isUnsafe params false none first inner
      items)
  | some self =>
    return (asRole? first).map fun role =>
      .implementation lead.attributes isDefault isUnsafe params negative (some role) self inner
        items

/-! ### Imports -/

/-- The name that an imported thing gets. -/
def newName : Parser Ident := do
  if ← looking fun ts => isName ts || isWord "_" ts then anyWord
  else remark "expected identifier or underscore"

/-- What an import names. The answer is false when a path starts with `::` inside braces. -/
def useTree (g : Grammar) (allowRoot : Bool) : Parser (UseTree × Bool) := do
  let isStart (ts : List TokenTree) : Bool :=
    isName ts || ["self", "super", "crate", "try"].any (isWord · ts)
  if ← looking isStart then
    let id ← anyWord
    if ← operator? "::" then
      let (tree, kept) ← g.useTree false
      return (.path id tree, kept)
    else if ← word? "as" then return (.renamed id (← newName), true)
    else return (.name id, true)
  else if ← operator? "*" then return (.all, true)
  else if ← looking (isGroup .brace) then
    let (trees, trailing) ← enclosed .brace <| commaList do
      let rooted ← if allowRoot then operator? "::" else pure false
      let (tree, kept) ← g.useTree (allowRoot && !rooted)
      return (tree, kept && !rooted)
    return (.group (trees.map (·.1)) trailing, trees.all (·.2))
  else
    missing ([.named "identifier"] ++ spellings ["self", "super", "crate", "try", "*"]
      ++ [.named "curly braces"])

/-- An import after its visibility. -/
def useAfter (g : Grammar) (lead : Lead) : Parser (Option Item) := do
  word "use"
  let rooted ← operator? "::"
  let (tree, kept) ← useTree g (!rooted)
  operator ";"
  return if kept then some (.use lead.attributes lead.visibility rooted tree) else none

/-- An imported library after its visibility. -/
def externCrateAfter (lead : Lead) : Parser Item := do
  word "extern"
  word "crate"
  let id ← if ← looking (isWord "self") then anyWord else name
  let other ←
    if ← word? "as" then
      some <$> (do if ← looking (isWord "_") then anyWord else name)
    else pure none
  operator ";"
  return .externCrate lead.attributes lead.visibility id other

/-! ### Modules -/

/-- A module after its visibility. -/
def moduleAfter (g : Grammar) (lead : Lead) : Parser Item := do
  let isUnsafe ← word? "unsafe"
  word "mod"
  let id ← if ← looking (isWord "try") then anyWord else name
  if ← operator? ";" then return .outlineModule lead.attributes lead.visibility isUnsafe id
  else if ← looking (isGroup .brace) then
    let (inner, items) ← members g g.item
    return .module lead.attributes lead.visibility isUnsafe id inner items
  else missing [.spelling ";", .named "curly braces"]

/-- Foreign declarations after their visibility, which must not be written. -/
def foreignModule (g : Grammar) (lead : Lead) : Parser Item := do
  if !lead.visibility.isInherited then fail (.missing [.spelling "extern"])
  let isUnsafe ← word? "unsafe"
  match ← convention? with
  | none => missing [.spelling "extern"]
  | some convention =>
    let (inner, items) ← members g (foreignItem g)
    return .foreign lead.attributes isUnsafe convention inner items

/-- An item that starts with `extern`. -/
def externItem (g : Grammar) (lead : Lead) : Parser Item := do
  let trees := (← rest).drop 1
  if isWord "crate" trees then externCrateAfter lead
  else if isGroup .brace trees then foreignModule g lead
  else if isStringLiteral trees then
    if isGroup .brace (trees.drop 1) then foreignModule g lead
    else
      word "extern"
      discard stringLiteral
      missing [.named "curly braces"]
  else
    word "extern"
    missing [.spelling "crate", .named "curly braces", .named "string literal"]

/-! ### Items -/

/-- A static variable after its visibility; without a type or a value it is kept as its tokens. -/
def staticAfter (g : Grammar) (lead : Lead) : Parser (Option Item) := do
  word "static"
  let isMut ← word? "mut"
  let id ← name
  if ← operator? "=" then
    discard (g.expr true)
    operator ";"
    return none
  operator ":"
  let type ← g.type true
  if ← operator? ";" then return none
  operator "="
  let value ← g.expr true
  operator ";"
  return some (.static lead.attributes lead.visibility isMut id type (some value))

/-- An item that starts with `unsafe` and is no function. -/
def unsafeItem (g : Grammar) (lead : Lead) : Parser (Option Item) := do
  let trees := (← rest).drop 1
  if isWord "trait" trees || (isWord "auto" trees && second (isWord "trait") trees) then
    word "unsafe"
    some <$> properTrait g lead true
  else if isWord "impl" trees then implAfter g lead
  else if isWord "extern" trees then some <$> foreignModule g lead
  else if isWord "mod" trees then some <$> moduleAfter g lead
  else
    word "unsafe"
    missing (spellings ["trait", "auto", "impl", "extern", "mod"])

/-- A macro defined by name and body, which is kept as its tokens. -/
def definedMacro : Parser (Option Item) := do
  word "macro"
  discard name
  let hasParams ← looking (isGroup .parenthesis)
  if hasParams then discard anyGroup
  if ← looking (isGroup .brace) then discard anyGroup
  else missing ((if hasParams then [] else [.named "parentheses"]) ++ [.named "curly braces"])
  return none

/-- A function after its visibility; without a body it is kept as its tokens. -/
def functionAfter (g : Grammar) (lead : Lead) : Parser (Option Item) := do
  let s ← signature g false
  if ← operator? ";" then return none
  return some (s.item lead.attributes lead.visibility false (some (← g.block true)))

/-- The words that an item may start with. -/
def itemWords : List Expected :=
  spellings ["fn", "extern", "use", "static", "const", "unsafe", "mod", "type", "struct", "enum",
    "union", "trait", "auto", "impl", "default", "macro"]

/-- An item after its attributes and visibility; nothing when it is kept as its tokens. -/
def itemAfter (g : Grammar) (lead : Lead) : Parser (Option Item) := do
  let trees ← rest
  if ← isSignature false then functionAfter g lead
  else if isWord "extern" trees then some <$> externItem g lead
  else if isWord "use" trees then useAfter g lead
  else if isWord "static" trees then staticAfter g lead
  else if isWord "const" trees then
    word "const"
    constAfter g lead .module true
  else if isWord "unsafe" trees then unsafeItem g lead
  else if isWord "mod" trees then some <$> moduleAfter g lead
  else if isWord "type" trees then
    word "type"
    aliasAfter g lead .module isAliasOf
  else if isWord "struct" trees then
    return some (.struct (← structAfter g lead.attributes lead.visibility))
  else if isWord "enum" trees then some <$> enumAfter g lead.attributes lead.visibility
  else if isWord "union" trees && second isName trees then
    some <$> unionAfter g lead.attributes lead.visibility
  else if isWord "trait" trees then some <$> traitOrAlias g lead
  else if isWord "auto" trees && second (isWord "trait") trees then
    some <$> properTrait g lead false
  else if isWord "impl" trees || (isWord "default" trees && !second (isOperator "!") trees) then
    implAfter g lead
  else if isWord "macro" trees then definedMacro
  else if lead.isPlain && startsCall trees then some <$> callItem lead.attributes true
  else missing (itemWords ++ if lead.isPlain then callStarts else [])

/-- An item. -/
def item (g : Grammar) : Parser Item :=
  orRaw do
    let attributes ← attributes g
    itemAfter g { attributes, visibility := ← visibility }

/-- An item whose attributes a derive reads. -/
def deriveInput (g : Grammar) : Parser DeriveInput := do
  let attributes ← attributes g
  let visibility ← visibility
  let trees ← rest
  if isWord "struct" trees then return .struct (← structAfter g attributes visibility)
  else if isWord "enum" trees then
    discard (enumAfter g attributes visibility)
    return .other
  else if isWord "union" trees then
    discard (unionAfter g attributes visibility)
    return .other
  else missing (spellings ["struct", "enum", "union"])

/-- The items of a file and the attributes at its start. -/
def file (g : Grammar) : Parser (List Attribute × List Item) := do
  let inner ← innerAttributes g
  return (inner, ← all g.item)

end BuilderGen.Code.Parser
