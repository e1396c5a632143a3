import BuilderGen.Code.Parser.Generics
import BuilderGen.Code.Parser.Pattern

/-!
# Parsers for structs, enums and unions

The declarations that have fields or variants.
-/

namespace BuilderGen.Code.Parser

/-! ### Fields -/

/-- A field with a name. A field called `_` may hold a struct or a union of its own, which is kept
as its tokens; `contents` reads the fields of that. -/
def namedField (g : Grammar) (contents : Parser Unit) : Parser Field := do
  let attributes ← attributes g
  let visibility ← visibility
  let namePos ← here
  let unnamed ← looking (isWord "_")
  let id ← if unnamed then anyWord else name
  operator ":"
  let nested ← looking fun ts =>
    unnamed && (isWord "struct" ts || (isWord "union" ts && second (isGroup .brace) ts))
  let type ←
    if nested then do
      let (_, tokens) ← consumed do
        discard anyWord
        contents
      pure (.raw tokens)
    else g.type true
  return { attributes, visibility, name := some id, namePos, type }

/-- Fields with names, in braces. A field can hold fields, but not deeper than there are tokens. -/
def namedFields (g : Grammar) : Parser (List Field × Bool) := do
  go (streamSize (← rest) + 1)
where
  /-- Fields inside of fields at most `n` deep. -/
  go : Nat → Parser (List Field × Bool)
    | 0 => missing []
    | n + 1 => enclosed .brace (commaList (namedField g (discard (go n))))

/-- Fields without names, in parentheses. -/
def positionalFields (g : Grammar) : Parser (List Field × Bool) :=
  enclosed .parenthesis <| commaList do
    let attributes ← attributes g
    let visibility ← visibility
    let namePos ← here
    return { attributes, visibility, name := none, namePos, type := ← g.type true }

/-! ### Structs -/

/-- What follows the generic parameters of a struct. -/
structure StructBody where
  /-- The generic parameters with the where clause. -/
  generics : Generics
  /-- The form of the fields. -/
  shape : Shape
  /-- The fields. -/
  fields : List Field
  /-- Whether a comma follows the last field. -/
  trailing : Bool

/-- The where clause and the fields of a struct. -/
def structBody (g : Grammar) (params : Generics) : Parser StructBody := do
  let hasWhere ← looking (isWord "where")
  let params ← whereClause g params
  if !hasWhere && (← looking (isGroup .parenthesis)) then
    let (fields, trailing) ← positionalFields g
    let hasWhere ← looking (isWord "where")
    let params ← whereClause g params
    if ← operator? ";" then return ⟨params, .positional, fields, trailing⟩
    missing ((if hasWhere then [] else [.spelling "where"]) ++ [.spelling ";"])
  else if ← looking (isGroup .brace) then
    let (fields, trailing) ← namedFields g
    return ⟨params, .named, fields, trailing⟩
  else if ← operator? ";" then return ⟨params, .unit, [], false⟩
  else
    missing ((if hasWhere then [] else [.spelling "where", .named "parentheses"])
      ++ [.named "curly braces", .spelling ";"])

/-- A struct after its attributes and visibility. -/
def structAfter (g : Grammar) (attributes : List Attribute) (visibility : Visibility) :
    Parser Struct := do
  word "struct"
  let namePos ← here
  let id ← name
  let body ← structBody g (← generics g)
  return {
    attributes, visibility, name := id, namePos, generics := body.generics, shape := body.shape,
    fields := body.fields, trailing := body.trailing }

/-- A struct with its attributes. -/
def struct (g : Grammar) : Parser Struct := do
  let attributes ← attributes g
  structAfter g attributes (← visibility)

/-! ### Enums and unions -/

/-- The fields of a variant with their form, and whether a comma follows the last one. -/
def variantFields (g : Grammar) : Parser (Shape × List Field × Bool) := do
  if ← looking (isGroup .brace) then return (.named, ← namedFields g)
  else if ← looking (isGroup .parenthesis) then return (.positional, ← positionalFields g)
  else return (.unit, [], false)

/-- A variant of an enum. A visibility may be written and says nothing. -/
def variant (g : Grammar) : Parser Variant := do
  let attributes ← attributes g
  discard visibility
  let id ← name
  let (shape, fields, trailing) ← variantFields g
  let value ← if ← operator? "=" then some <$> g.expr true else pure none
  return { attributes, name := id, shape, fields, trailing, value }

/-- An enum after its attributes and visibility. -/
def enumAfter (g : Grammar) (attributes : List Attribute) (visibility : Visibility) :
    Parser Item := do
  word "enum"
  let id ← name
  let params ← whereClause g (← generics g)
  let (variants, trailing) ← enclosed .brace (commaList (variant g))
  return .enum attributes visibility id params variants trailing

/-- A union after its attributes and visibility. -/
def unionAfter (g : Grammar) (attributes : List Attribute) (visibility : Visibility) :
    Parser Item := do
  word "union"
  let id ← name
  let params ← whereClause g (← generics g)
  let (fields, trailing) ← namedFields g
  return .union attributes visibility id params fields trailing

end BuilderGen.Code.Parser
