import BuilderGen.Code.Parser.Generics
import BuilderGen.Code.Parser.Pattern

/-!
# Parsers for the heads of functions

A function starts with some words and `fn`. Its parameters are patterns with types; the first one
may be a receiver, and the last one may stand for any number of arguments.
-/

namespace BuilderGen.Code.Parser

/-! ### Parameters -/

/-- The type of a receiver without a written one. -/
def receiverType (byRef : Bool) (lifetime : Option Ident) (isMut : Bool) : Ty :=
  let self : Ty := .path ⟨false, [⟨{ name := "Self" }, .none⟩]⟩
  if byRef then .reference lifetime isMut self else self

/-- The receiver of a method up to its type. -/
structure ReceiverHead where
  /-- Its place. -/
  pos : Position
  /-- Whether it is taken by reference. -/
  byRef : Bool
  /-- The lifetime of the reference. -/
  lifetime : Option Ident
  /-- Whether it is marked as mutable. -/
  isMut : Bool
  /-- Whether a type follows. -/
  isTyped : Bool

/-- Read a receiver up to its type. A path that starts with `self` is none. -/
def receiverHead : Parser ReceiverHead := do
  let byRef ← operator? "&"
  let lifetime ← if ← looking fun ts => byRef && isLifetime ts then some <$> lifetime else pure none
  let isMut ← word? "mut"
  let pos ← here
  word "self"
  if ← looking (isOperator "::") then missing []
  let isTyped ← if byRef then pure false else operator? ":"
  return { pos, byRef, lifetime, isMut, isTyped }

/-- Whether a receiver is ahead. One that stands for any number of arguments is none. -/
def isReceiver : Parser Bool := do
  let found ← ahead do
    let head ← receiverHead
    looking fun ts => !(head.isTyped && isOperator "..." ts)
  return found == some true

/-- The receiver of a method and its place. -/
def receiver (g : Grammar) : Parser (Position × Pattern) := do
  let { pos, byRef, lifetime, isMut, isTyped } ← receiverHead
  let t ← if isTyped then g.type true else pure (receiverType byRef lifetime isMut)
  return (pos, .receiver byRef lifetime isMut isTyped t)

/-- A parameter of a function. -/
inductive Taken where
  /-- A pattern with its type. -/
  | typed (pattern : Pattern)
  /-- A receiver and its place. -/
  | receiver (pos : Position) (pattern : Pattern)
  /-- A variable number of arguments. -/
  | variadic (pattern : Pattern)

/-- Whether a parameter is a receiver. -/
def Taken.isReceiver : Taken → Bool
  | receiver .. => true
  | _ => false

/-- The pattern of a parameter. -/
def Taken.pattern : Taken → Pattern
  | typed p | receiver _ p | variadic p => p

/-- A parameter of a function. A type with arguments can stand without a pattern. -/
def functionParam (g : Grammar) (attributes : List Attribute) : Parser Taken := do
  if ← operator? "..." then return .variadic (marked attributes .variadic)
  if ← isReceiver then
    let (pos, p) ← receiver g
    return .receiver pos (marked attributes p)
  if ← looking fun ts => isName ts && second (isOperator "<") ts then
    return .typed (marked attributes (.typed .wild (← g.type true)))
  let p ← g.pattern
  operator ":"
  if ← operator? "..." then return .variadic (marked attributes (.typed p .variadic))
  return .typed (marked attributes (.typed p (← g.type true)))

/-- The parameters of a function, each with whether a comma follows it: at most one receiver, in
the first place, and a variable number of arguments only in the last one. -/
def functionParams (g : Grammar) : Parser (List (Taken × Bool)) :=
  rounds fun done => do
    if ← atEnd then return .stop []
    let p ← functionParam g (← attributes g)
    match p with
    | .variadic _ =>
      if ← atEnd then return .stop [(p, false)]
      operator ","
      return .stop [(p, true)]
    | .receiver pos _ =>
      if done.any (·.1.isReceiver) then remarkAt pos "unexpected second method receiver"
      if !done.isEmpty then remarkAt pos "unexpected method receiver"
    | .typed _ => pure ()
    if ← atEnd then return .stop [(p, false)]
    operator ","
    return .next (p, true)

/-! ### Heads -/

/-- The words before `fn`, and whether `safe` is among them, as is admitted among the declarations
of another language. -/
def functionWords (allowSafe : Bool) : Parser (FunctionHead × Bool) := do
  let isConst ← word? "const"
  let isAsync ← word? "async"
  let isSafe ← if allowSafe then word? "safe" else pure false
  let isUnsafe ← if isSafe then pure false else word? "unsafe"
  return ({ isConst, isAsync, isUnsafe, convention := ← convention? }, isSafe)

/-- The head of a function. -/
structure Signature where
  /-- The words before `fn`. -/
  head : FunctionHead
  /-- Whether it is marked safe to call. -/
  isSafe : Bool
  /-- The name. -/
  name : Ident
  /-- The generic parameters and the where clause. -/
  generics : Generics
  /-- The parameters. -/
  params : List Pattern
  /-- Whether a comma follows the last parameter. -/
  trailing : Bool
  /-- The type of the result. -/
  result : Option Ty

/-- The head of a function. -/
def signature (g : Grammar) (allowSafe : Bool) : Parser Signature := do
  let (head, isSafe) ← functionWords allowSafe
  word "fn"
  let id ← name
  let generics ← generics g
  let params ← enclosed .parenthesis (functionParams g)
  let result ← result? g true
  return {
    head, isSafe, name := id, params := params.map (·.1.pattern)
    trailing := params.getLast?.any (·.2), result, generics := ← whereClause g generics }

/-- Whether the head of a function is ahead. -/
def isSignature (allowSafe : Bool) : Parser Bool := do
  let found ← ahead do
    discard (functionWords allowSafe)
    looking (isWord "fn")
  return found == some true

/-- The function with a given head; without a body it is only declared. -/
def Signature.item (s : Signature) (attributes : List Attribute) (visibility : Visibility)
    (isDefault : Bool) (body : Option Expr) : Item :=
  .function attributes visibility { s.head with isDefault } s.name s.generics s.params s.trailing
    s.result body

end BuilderGen.Code.Parser
