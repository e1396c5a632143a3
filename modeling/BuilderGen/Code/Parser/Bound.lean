import BuilderGen.Code.Parser.Path
import BuilderGen.Code.Tree.Path

/-!
# Parsers for bounds and generic parameters

Bounds say what a type can do. They stand after generic parameters, in where clauses, and in the
types that are known by them.
-/

namespace BuilderGen.Code.Parser

/-- Stop with a remark about a given place. -/
def remarkAt {α : Type} (pos : Position) (text : String) : Parser α :=
  throw { fault := .remark text, pos := some pos }

/-- Whether a bound may start here after a plus sign. -/
def startsBound (allowConst : Bool) (ts : List TokenTree) : Bool :=
  isAnyWord ts || isOperator "::" ts || isOperator "?" ts || isLifetime ts
    || isGroup .parenthesis ts || (allowConst && (isGroup .bracket ts || isWord "const" ts))

/-- The bounds of a generic parameter or of an associated type stop here. -/
def endsParamBounds (ts : List TokenTree) : Bool :=
  ts.isEmpty || isOperator "," ts || isOperator ">" ts

/-! ### Generic parameters -/

/-- A lifetime parameter with its bounds. -/
def lifetimeParam (attributes : List Attribute) : Parser GenericParam := do
  let id ← lifetime
  if ← operator? ":" then
    let (bounds, trailing) ← sum endsParamBounds lifetime
    return .lifetime attributes id bounds trailing
  else return .lifetime attributes id [] false

/-- A type parameter with its bounds and default. -/
def typeParam (g : Grammar) (attributes : List Attribute) : Parser GenericParam := do
  let id ← name
  let (bounds, trailing) ←
    if ← operator? ":" then
      sum (fun ts => endsParamBounds ts || isOperator "=" ts) (g.bound false true)
    else pure ([], false)
  let default ← if ← operator? "=" then some <$> g.type true else pure none
  return .type attributes id bounds trailing default

/-- A constant parameter with its default. -/
def constParam (g : Grammar) (attributes : List Attribute) : Parser GenericParam := do
  word "const"
  let id ← name
  operator ":"
  let t ← g.type true
  let default ← if ← operator? "=" then some <$> constArgument g else pure none
  return .const attributes id t default

/-- A parameter bound by `for<...>`. -/
def boundParam (g : Grammar) : Parser GenericParam := do
  let attributes ← attributes g
  if ← looking isName then typeParam g attributes
  else if ← looking isLifetime then lifetimeParam attributes
  else if ← looking (isWord "const") then constParam g attributes
  else missing [.named "identifier", .named "lifetime", .spelling "const"]

/-- The binder `for<...>`. -/
def binder (g : Grammar) : Parser Generics := do
  word "for"
  operator "<"
  let (params, trailing) ← separated "," (isOperator ">") (boundParam g)
  operator ">"
  return { params, trailing, predicates := [], predicatesTrailing := false }

/-- The binder, if there is one. -/
def binder? (g : Grammar) : Parser (Option Generics) := do
  if ← looking (isWord "for") then some <$> binder g else return none

/-- A result type after an arrow, if there is one. -/
def result? (g : Grammar) (allowPlus : Bool) : Parser (Option Ty) := do
  if ← operator? "->" then some <$> g.type allowPlus else return none

/-! ### Bounds -/

/-- A parameter that `use<...>` captures. -/
def capturedParam : Parser CapturedParam := do
  if ← looking isLifetime then return .lifetime (← lifetime)
  else if ← looking fun ts => isName ts || isWord "Self" ts then return .name (← anyWord)
  else missing [.named "lifetime", .named "identifier", .spelling ">"]

/-- The parameters that `use<...>` captures. -/
def capturedParams : Parser Bound := do
  word "use"
  operator "<"
  let params ← rounds fun _ => do
    if ← looking (isOperator ">") then return .stop []
    let p ← capturedParam
    if ← operator? "," then return .next (p, true)
    if ← looking (isOperator ">") then return .stop [(p, false)]
    missing (spellings [",", ">"])
  operator ">"
  return .capture (params.map (·.1)) (params.getLast?.any (·.2))

/-- Whether a segment has no arguments, or an empty list of them. -/
def isOpenSegment (s : Segment) : Bool :=
  match s.args with
  | .none => true
  | .angled _ args _ => args.isEmpty
  | .called .. => false

/-- The arguments and result of a function trait, if they follow its path; the last segment must
not have arguments yet. -/
def calledPath (g : Grammar) (p : Path) : Parser Path := do
  let follows ← looking fun ts =>
    isGroup .parenthesis ts || (isOperator "::" ts && third (isGroup .parenthesis) ts)
  match p.segments.getLast? with
  | some last =>
    if follows && isOpenSegment last then
      discard <| operator? "::"
      let (inputs, trailing) ← enclosed .parenthesis (commaList (g.type true))
      let result ← result? g false
      return { p with
        segments := p.segments.dropLast ++ [⟨last.name, .called inputs trailing result⟩] }
    else return p
  | none => return p

/-- The mark of a constant trait; the answer is whether it is there. -/
def constMark (allowConst : Bool) : Parser Bool := do
  let pos ← here
  if ← looking (isGroup .bracket) then
    enclosed .bracket (word "const")
    if !allowConst then remarkAt pos "`[const]` is not allowed here"
    return true
  else if ← word? "const" then
    if !allowConst then remarkAt pos "`const` is not allowed here"
    return true
  else return false

/-- A trait as a bound: its binder, whether it is relaxed, and its path; nothing when it is a
constant trait, which is only kept as tokens. -/
def traitBound (g : Grammar) (allowConst : Bool) :
    Parser (Option (Option Generics × Bool × Path)) := do
  let lifetimes ← binder? g
  let constant ← constMark allowConst
  let mark ← here
  let relaxed ← operator? "?"
  let lifetimes ← if lifetimes.isNone && relaxed then binder? g else pure lifetimes
  let p ← calledPath g (← path g false)
  if lifetimes.isSome && relaxed then
    remarkAt mark "`for<...>` binder not allowed with `?` trait polarity modifier"
  if constant then return none else return some (lifetimes, relaxed, p)

/-- A bound. -/
def bound (g : Grammar) (allowCapture allowConst : Bool) : Parser Bound := do
  if ← looking isLifetime then return .lifetime (← lifetime)
  if ← looking (isWord "use") then
    let pos ← here
    let captured ← capturedParams
    if allowCapture then return captured
    remarkAt pos "`use<...>` precise capturing syntax is not allowed here"
  let inParens ← looking (isGroup .parenthesis)
  let one := traitBound g allowConst
  let (read, tokens) ← consumed (if inParens then enclosed .parenthesis one else one)
  match read with
  | some (lifetimes, relaxed, p) => return .trait inParens lifetimes relaxed p
  | none => return .raw tokens

/-- Bounds with plus signs between them, at least one. -/
def boundSum (g : Grammar) (allowPlus allowCapture allowConst : Bool) :
    Parser (List Bound × Bool) := do
  let bounds ← rounds fun _ => do
    let b ← g.bound allowCapture allowConst
    let goesOn ← if allowPlus then operator? "+" else pure false
    if !goesOn then return .stop [(b, false)]
    if ← looking (startsBound allowConst) then return .next (b, true) else return .stop [(b, true)]
  return (bounds.map (·.1), bounds.getLast?.any (·.2))

end BuilderGen.Code.Parser
