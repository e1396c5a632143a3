import BuilderGen.Code.Parser.Type
import BuilderGen.Code.Tree.Generics

/-!
# Parsers for the heads of declarations

Visibilities, generic parameters and where clauses.
-/

namespace BuilderGen.Code.Parser

/-- A generic parameter of a declaration. -/
def declaredParam (g : Grammar) : Parser GenericParam := do
  let attributes ← attributes g
  if ← looking isLifetime then lifetimeParam attributes
  else if ← looking isName then typeParam g attributes
  else if ← looking (isWord "const") then constParam g attributes
  else if ← looking (isWord "_") then
    return .type attributes (← anyWord) [] false none
  else missing [.named "lifetime", .named "identifier", .spelling "const"]

/-- The generic parameters of a declaration, if it has any. -/
def generics (g : Grammar) : Parser Generics := do
  if !(← operator? "<") then return .empty
  let (params, trailing) ← separated "," (isOperator ">") (declaredParam g)
  operator ">"
  return { Generics.empty with params, trailing }

/-- A where clause stops here. -/
def endsWhere (ts : List TokenTree) : Bool :=
  ts.isEmpty || isGroup .brace ts || isOperator "," ts || isOperator ";" ts || isColon ts
    || isOperator "=" ts

/-- The bounds of a lifetime in a where clause stop here. -/
def endsLifetimeBounds (ts : List TokenTree) : Bool := endsWhere ts || isOperator ":" ts

/-- A predicate of a where clause. -/
def predicate (g : Grammar) : Parser Predicate := do
  if ← looking fun ts => isLifetime ts && second (isOperator ":") ts then
    let id ← lifetime
    operator ":"
    let (bounds, trailing) ← sum endsLifetimeBounds lifetime
    return .lifetime id bounds trailing
  let lifetimes ← binder? g
  let subject ← g.type true
  operator ":"
  let (bounds, trailing) ← sum endsWhere (g.bound false true)
  return .type lifetimes subject bounds trailing

/-- Whether generic parameters rather than a qualified path stand at the front. -/
def startsGenerics (ts : List TokenTree) : Bool :=
  isOperator "<" ts &&
    (second (isOperator ">") ts || second (isOperator "#") ts
      || ((second isLifetime ts || second isName ts)
        && third (fun ts => isOperator ">" ts || isOperator "," ts || isColon ts
          || isOperator "=" ts) ts)
      || second (isWord "const") ts)

/-- The where clause of a declaration, if it has one, added to its generic parameters. -/
def whereClause (g : Grammar) (params : Generics) : Parser Generics := do
  if !(← word? "where") then return params
  if ← looking startsGenerics then
    remark "generic parameters on `where` clauses are reserved for future use"
  let predicates ← rounds fun _ => do
    if ← looking endsWhere then return .stop []
    let p ← predicate g
    if ← operator? "," then return .next (p, true) else return .stop [(p, false)]
  return { params with
    predicates := predicates.map (·.1), predicatesTrailing := predicates.getLast?.any (·.2) }

/-- The visibility of a declaration. Parentheses after `pub` may also belong to what follows. -/
def visibility : Parser Visibility := do
  if !(← word? "pub") then return .inherited
  match ← rest with
  | .group .parenthesis content _ closed :: after =>
    match content with
    | [.ident id _] =>
      if id.is "crate" || id.is "self" || id.is "super" then
        moveTo after
        return .within false false [id]
      else if id.is "in" then within .parenthesis content closed after restricted
      else return .everywhere
    | _ =>
      if isWord "in" content then within .parenthesis content closed after restricted
      else return .everywhere
  | _ => return .everywhere
where
  /-- The restriction `in path`. -/
  restricted : Parser Visibility := do
    word "in"
    let (rooted, segments) ← plainPath
    return .within true rooted segments

end BuilderGen.Code.Parser
