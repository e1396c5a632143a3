import BuilderGen.Code.Parser.Bound

/-!
# Parsers for types

A type is known by its first tokens. A plus sign after a type makes it the first of the bounds of a
trait object, where that is admitted.
-/

namespace BuilderGen.Code.Parser

/-- Whether a bound is a trait and not only a lifetime or captured parameters. -/
def isTraitBound : Bound → Bool
  | .trait .. | .raw _ => true
  | .lifetime _ | .capture .. => false

/-- The bounds of a trait object that starts at `pos`: at least one is a trait. -/
def objectBounds (g : Grammar) (pos : Position) (allowPlus : Bool) :
    Parser (List Bound × Bool) := do
  let (bounds, trailing) ← boundSum g allowPlus false false
  if !bounds.any isTraitBound then
    remarkAt pos "at least one trait is required for an object type"
  return (bounds, trailing)

/-- A trait object without its keyword that starts with a lifetime. -/
def lifetimeObject (g : Grammar) : Parser Ty := do
  let (bounds, trailing) ← objectBounds g (← here) true
  return .object false bounds trailing

/-- Further bounds after a first one, each after a plus sign. -/
def moreBounds (g : Grammar) (first : Bound) : Parser Ty := do
  let more ← rounds fun _ => do
    if ← operator? "+" then return .next (← g.bound false false) else return .stop []
  return .object false (first :: more) false

/-- What stands in a parenthesised type. -/
inductive InParens where
  /-- A type that is complete with its parentheses. -/
  | done (type : Ty)
  /-- A first relaxed bound, after which more bounds may follow. -/
  | relaxed (binder : Option Generics) (path : Path)
  /-- A single type. -/
  | single (type : Ty)

/-- The content of the parentheses of a type. -/
def inParens (g : Grammar) : Parser InParens := do
  if ← atEnd then return .done (.tuple [] false)
  if ← looking isLifetime then return .done (.paren (← lifetimeObject g))
  if ← looking (isOperator "?") then
    match ← traitBound g false with
    | some (lifetimes, _, p) => return .relaxed lifetimes p
    | none => fail (.missing [])
  let first ← g.type true
  if ← operator? "," then
    let (more, trailing) ← commaList (g.type true)
    return .done (.tuple (first :: more) (more.isEmpty || trailing))
  return .single first

/-- The bound that a single type in parentheses is, when a plus sign follows it. -/
def asBound? : Ty → Option Bound
  | .path p => some (.trait true none false p)
  | .object false [.trait _ lifetimes relaxed p] false => some (.trait true lifetimes relaxed p)
  | .object false [b] false => some b
  | _ => none

/-- A type that starts with a parenthesis. -/
def parenthesised (g : Grammar) (allowPlus : Bool) : Parser Ty := do
  match ← enclosed .parenthesis (inParens g) with
  | .done t => return t
  | .relaxed lifetimes p => moreBounds g (.trait true lifetimes true p)
  | .single t =>
    match asBound? t, allowPlus && (← looking (isOperator "+")) with
    | some b, true => moreBounds g b
    | _, _ => return .paren t

/-! ### Function pointers -/

/-- The calling convention of a function, if it is said. -/
def convention? : Parser Convention := do
  if !(← word? "extern") then return none
  if ← looking isStringLiteral then return some (some (← stringLiteral).1) else return some none

/-- A variable number of arguments, with or without a name, at the end of a parameter list. -/
def isVariadic (ts : List TokenTree) : Bool :=
  isOperator "..." ts
    || ((isName ts || isWord "_" ts) && second (isOperator ":") ts && third (isOperator "...") ts)

/-- A parameter of a function pointer. -/
def parameter (attributes : List Attribute) (name : Option Ident) (type : Ty) : Field :=
  { attributes, visibility := .inherited, name, namePos := .none, type }

/-- One parameter of a function pointer type. Only the first one may be called `self`. -/
def param (g : Grammar) (isFirst : Bool) (attributes : List Attribute) : Parser Field := do
  let isNamed (ts : List TokenTree) : Bool :=
    second (isOperator ":") ts && !second (isOperator "::") ts
  if ← looking fun ts => isFirst && isWord "mut" ts && second (isWord "self") ts then
    let (_, tokens) ← consumed do
      word "mut"
      word "self"
      if ← looking isColon then
        operator ":"
        discard (g.type true)
    return parameter attributes none (.raw tokens)
  if ← looking fun ts =>
      (isName ts || isWord "_" ts || (isFirst && isWord "self" ts)) && isNamed ts then
    let id ← anyWord
    operator ":"
    return parameter attributes (some id) (← g.type true)
  return parameter attributes none (← g.type true)

/-- A variable number of arguments as the last parameter of a function pointer. -/
def variadicParam (attributes : List Attribute) : Parser Field := do
  let id ← if ← looking (isOperator "...") then pure none else some <$> anyWord
  if id.isSome then operator ":"
  operator "..."
  return parameter attributes id .variadic

/-- The parameters of a function pointer type, each with whether a comma follows it. Nothing but a
comma can follow a variable number of arguments. -/
def params (g : Grammar) : Parser (List (Field × Bool)) :=
  rounds fun done => do
    if ← atEnd then return .stop []
    let attributes ← attributes g
    if ← looking isVariadic then
      let p ← variadicParam attributes
      return .stop [(p, ← operator? ",")]
    let p ← param g done.isEmpty attributes
    if ← atEnd then return .stop [(p, false)]
    operator ","
    return .next (p, true)

/-- A function pointer type after its binder. -/
def functionType (g : Grammar) (lifetimes : Option Generics) : Parser Ty := do
  let isUnsafe ← word? "unsafe"
  let convention ← convention?
  word "fn"
  let read ← enclosed .parenthesis (params g)
  let result ← result? g false
  return .function lifetimes { isUnsafe, convention } (read.map (·.1))
    (read.getLast?.any (·.2)) result

/-! ### Other types -/

/-- A type that starts with a path: the path itself, a macro call, or a trait object without its
keyword. -/
def pathType (g : Grammar) (allowPlus : Bool) (lifetimes : Option Generics) : Parser Ty := do
  match ← qualifiedPath g false with
  | .inr (self, role, segments) => return .qualified self role segments
  | .inl p =>
    if let some call ← invocation? p then return .invocation call
    let plus ← looking (isOperator "+")
    if lifetimes.isSome || (allowPlus && plus) then
      let first := Bound.trait false lifetimes false p
      if !allowPlus then return .object false [first] false
      let more ← rounds fun _ => do
        if !(← operator? "+") then return .stop []
        if ← looking (startsBound false) then
          return .next (some (← g.bound false false))
        else return .stop [none]
      let trailing := more.getLast? matches some none
      return .object false (first :: more.filterMap id) trailing
    return .path p

/-- A type that starts with `dyn`. -/
def objectType (g : Grammar) (allowPlus : Bool) : Parser Ty := do
  let pos ← here
  let ((starred, bounds, trailing), tokens) ← consumed do
    word "dyn"
    let starred ← operator? "*"
    let (bounds, trailing) ← objectBounds g pos allowPlus
    pure (starred, bounds, trailing)
  if starred then return .raw tokens else return .object true bounds trailing

/-- A type that starts with `impl`. -/
def boundedType (g : Grammar) (allowPlus : Bool) : Parser Ty := do
  let pos ← here
  word "impl"
  let (bounds, trailing) ← boundSum g allowPlus true true
  if !bounds.any isTraitBound then remarkAt pos "at least one trait must be specified"
  return .bounded bounds trailing

/-- A slice or an array. -/
def bracketed (g : Grammar) : Parser Ty :=
  enclosed .bracket do
    let element ← g.type true
    if ← operator? ";" then return .array element (← g.expr true) else return .slice element

/-- A raw pointer. -/
def pointer (g : Grammar) : Parser Ty := do
  operator "*"
  if ← word? "const" then return .pointer false (← g.type false)
  if ← word? "mut" then return .pointer true (← g.type false)
  missing (spellings ["const", "mut"])

/-- A reference. -/
def reference (g : Grammar) : Parser Ty := do
  operator "&"
  let lifetime ← if ← looking isLifetime then some <$> lifetime else pure none
  let isMut ← word? "mut"
  return .reference lifetime isMut (← g.type false)

/-- What can start a type. -/
def typeStarts : List Expected :=
  [.spelling "for", .named "parentheses", .spelling "fn", .spelling "unsafe", .spelling "extern",
    .named "identifier", .spelling "::", .spelling "<", .spelling "dyn", .named "square brackets",
    .spelling "*", .spelling "&", .spelling "!", .spelling "impl", .spelling "_",
    .named "lifetime"]

/-- What can follow the binder of a type. -/
def boundTypeStarts : List Expected :=
  .named "identifier" :: spellings ["fn", "unsafe", "extern", "super", "self", "Self", "crate"]

/-- A type. -/
def type (g : Grammar) (allowPlus : Bool) : Parser Ty := do
  let lifetimes ← binder? g
  let isFunction (ts : List TokenTree) : Bool := ["fn", "unsafe", "extern"].any (isWord · ts)
  if lifetimes.isSome && !(← looking fun ts => isPathWord ts || isFunction ts) then
    missing boundTypeStarts
  let trees ← rest
  if isGroup .parenthesis trees then parenthesised g allowPlus
  else if isFunction trees then functionType g lifetimes
  else if isBuiltin trees then return .raw (← builtin)
  else if isPathWord trees || isOperator "::" trees || isOperator "<" trees then
    pathType g allowPlus lifetimes
  else if isWord "dyn" trees then objectType g allowPlus
  else if isGroup .bracket trees then bracketed g
  else if isOperator "*" trees then pointer g
  else if isOperator "&" trees then reference g
  else if isOperator "!" trees && !isOperator "=" trees then
    operator "!"
    return .never
  else if isWord "impl" trees then boundedType g allowPlus
  else if isWord "_" trees then
    word "_"
    return .infer
  else if isLifetime trees then lifetimeObject g
  else missing typeStarts

end BuilderGen.Code.Parser
