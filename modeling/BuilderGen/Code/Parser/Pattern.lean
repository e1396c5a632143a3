import BuilderGen.Code.Parser.Type

/-!
# Parsers for patterns

Patterns stand in `let`, in the arms of a match, and in the parameters of functions and closures.
-/

namespace BuilderGen.Code.Parser

/-! ### Members -/

/-- The tuple field that a whole number stands for, at a given place; a number without a sign and
without a suffix will do. -/
def indexOf (pos : Position) (text : String) : Parser Member := do
  let negative := text.startsWith "-"
  let (value, suffix) := intValue (if negative then String.ofList (text.toList.drop 1) else text)
  if !suffix.isEmpty then remarkAt pos "expected unsuffixed integer"
  if negative then remarkAt pos "invalid digit found in string"
  if 0xFFFFFFFF < value then remarkAt pos "number too large to fit in target type"
  return .index value

/-- Whether a literal is a whole number, perhaps after a minus sign. -/
def isSignedInt (text : String) : Bool :=
  isIntLiteral (if text.startsWith "-" then String.ofList (text.toList.drop 1) else text)

/-- The name or the number of a field. -/
def member : Parser Member := do
  let trees ← rest
  if isName trees then return .named (← name)
  match literalAt? trees with
  | some (text, after) =>
    if isSignedInt text then
      let pos ← here
      moveTo after
      indexOf pos text
    else remark "expected identifier or integer"
  | none => remark "expected identifier or integer"

/-! ### Alternatives -/

/-- Whether a bar between alternatives stands at the front. -/
def isBar (ts : List TokenTree) : Bool :=
  isOperator "|" ts && !isOperator "||" ts && !isOperator "|=" ts

/-- Alternatives with vertical bars between them, perhaps with a leading bar. -/
def alternatives (g : Grammar) : Parser Pattern := do
  let leading ← operator? "|"
  let first ← g.pattern
  let more ← rounds fun _ => do
    if !(← looking isBar) then return .stop []
    operator "|"
    return .next (← g.pattern)
  if leading || !more.isEmpty then return .alternatives leading (first :: more) else return first

/-! ### Ranges -/

/-- Where the bound of a range pattern is left out. -/
def lacksRangeBound (ts : List TokenTree) : Bool :=
  ts.isEmpty || isOperator "|" ts || isOperator "=" ts || isColon ts || isOperator "," ts
    || isOperator ";" ts || isWord "if" ts

/-- A block that is computed while compiling. -/
def constBlock (g : Grammar) : Parser Expr := do
  word "const"
  match ← g.block true with
  | .block _ inner body => return .block .constBlock inner body
  | e => return e

/-- The bound of a range pattern, if there is one. -/
def rangeBound? (g : Grammar) : Parser (Option Expr) := do
  if ← looking lacksRangeBound then return none
  if ← looking isLiteral then return some (.literal (← literal))
  if ← looking fun ts => isPathWord ts || isOperator "::" ts || isOperator "<" ts then
    return some (← pathValue g)
  if ← looking (isWord "const") then return some (← constBlock g)
  missing ([.named "literal", .named "identifier"]
    ++ spellings ["::", "<", "self", "Self", "super", "crate", "const"])

/-- The dots of a range pattern and the bound after them. -/
def rangeAfter (g : Grammar) (start : Expr) : Parser Pattern := do
  let closed ← do
    if ← operator? "..=" then pure true
    else if ← operator? "..." then pure true
    else
      operator ".."
      pure false
  let finish ← rangeBound? g
  if closed && finish.isNone then remark "expected range upper bound"
  return .range (some start) closed finish

/-- A range pattern without a start, or what stands for all that is left. -/
def openRange (g : Grammar) : Parser Pattern := do
  if ← operator? "..=" then
    match ← rangeBound? g with
    | some e => return .range none true (some e)
    | none => remark "expected range upper bound"
  else
    operator ".."
    match ← rangeBound? g with
    | some e => return .range none false (some e)
    | none => return .rest

/-- The value at the start of a pattern, or the range that it starts. -/
def valueOrRange (g : Grammar) (start : Expr) : Parser Pattern := do
  if ← looking (isOperator "..") then rangeAfter g start else return .value start

/-! ### Structs -/

/-- Attributes before a pattern. What is kept as tokens keeps none. -/
def marked (attributes : List Attribute) (p : Pattern) : Pattern :=
  match attributes, p with
  | [], p => p
  | _, .raw tokens => .raw tokens
  | attributes, p => .attributed attributes p

/-- A field in a struct pattern. -/
def fieldPattern (g : Grammar) : Parser Pattern := do
  let before ← rest
  let boxed ← word? "box"
  let byRef ← word? "ref"
  let isMut ← word? "mut"
  let isMarked := boxed || byRef || isMut
  let m ← if isMarked then .named <$> name else member
  match m with
  | .index n =>
    operator ":"
    return .field (.index n) (← alternatives g)
  | .named id =>
    let hasPattern ← if isMarked then pure false else operator? ":"
    if hasPattern then return .field m (← alternatives g)
    if boxed then return .raw (← readSince before)
    return .ident byRef isMut id

/-- The fields of a struct pattern, each with whether a comma follows it. -/
def fieldPatterns (g : Grammar) : Parser (List (Pattern × Bool)) :=
  rounds fun _ => do
    if ← atEnd then return .stop []
    let attributes ← attributes g
    if ← operator? ".." then return .stop [(marked attributes .rest, false)]
    let p ← marked attributes <$> fieldPattern g
    if ← atEnd then return .stop [(p, false)]
    operator ","
    return .next (p, true)

/-- A pattern that starts with a path. -/
def pathPattern (g : Grammar) : Parser Pattern := do
  let e ← pathValue g
  if let .path p := e then
    if let some call ← invocation? p then return .invocation call
  if ← looking (isGroup .brace) then
    let fields ← enclosed .brace (fieldPatterns g)
    return .struct e (fields.map (·.1)) (fields.getLast?.any (·.2))
  if ← looking (isGroup .parenthesis) then
    let (elements, trailing) ← enclosed .parenthesis (commaList (alternatives g))
    return .called e elements trailing
  valueOrRange g e

/-! ### Other patterns -/

/-- A pattern in parentheses, or a tuple. -/
def parenPattern (g : Grammar) : Parser Pattern := do
  let (elements, trailing) ← enclosed .parenthesis (commaList (alternatives g))
  match elements, trailing with
  | [.rest], false => return .tuple [.rest] false
  | [p], false => return .paren p
  | _, _ => return .tuple elements trailing

/-- The place of the dots of a range that is open at one end, among the trees it was read from. -/
def dotsPlace (p : Pattern) (read : List TokenTree) : Option Position :=
  match p with
  | .range none _ _ => read.head?.map (·.position)
  | .range _ _ none => read[read.length - 2]?.map (·.position)
  | _ => none

/-- An element of a slice: a range that is open at one end must stand in parentheses. -/
def slicePattern (g : Grammar) : Parser Pattern := do
  let before ← rest
  let p ← alternatives g
  let after ← rest
  match dotsPlace p (before.take (before.length - after.length)) with
  | some pos => remarkAt pos "range pattern is not allowed unparenthesized inside slice pattern"
  | none => return p

/-- A name that is bound, perhaps to what matches a pattern. -/
def namePattern (g : Grammar) : Parser Pattern := do
  let byRef ← word? "ref"
  let isMut ← word? "mut"
  let id ← if ← looking (isWord "self") then anyWord else name
  if ← operator? "@" then return .bound byRef isMut id (← g.pattern)
  return .ident byRef isMut id

/-- What can start a pattern. -/
def patternStarts : List Expected :=
  [.named "identifier", .spelling "::", .spelling "<", .spelling "_", .named "literal",
    .spelling "const", .spelling "ref", .spelling "mut", .spelling "&", .named "parentheses",
    .named "square brackets", .spelling "..", .spelling "const"]

/-- Whether a pattern at the front starts with a path rather than with a name that is bound. -/
def startsPathPattern (ts : List TokenTree) : Bool :=
  (isName ts && (second (isOperator "::") ts || second (isOperator "!") ts
      || second (isGroup .brace) ts || second (isGroup .parenthesis) ts
      || second (isOperator "..") ts))
    || (isWord "self" ts && second (isOperator "::") ts)
    || isOperator "::" ts || isOperator "<" ts
    || isWord "Self" ts || isWord "super" ts || isWord "crate" ts

/-- A pattern without alternatives. -/
def pattern (g : Grammar) : Parser Pattern := do
  let trees ← rest
  if startsPathPattern trees then pathPattern g
  else if isWord "_" trees then
    word "_"
    return .wild
  else if isWord "box" trees then
    let (_, tokens) ← consumed do
      word "box"
      g.pattern
    return .raw tokens
  else if isOperator "-" trees || isLiteral trees || isWord "const" trees then
    match ← rangeBound? g with
    | some e => valueOrRange g e
    | none => missing patternStarts
  else if isWord "ref" trees || isWord "mut" trees || isWord "self" trees || isName trees then
    namePattern g
  else if isOperator "&" trees then
    operator "&"
    let isMut ← word? "mut"
    return .reference isMut (← g.pattern)
  else if isGroup .parenthesis trees then parenPattern g
  else if isGroup .bracket trees then
    let (elements, trailing) ← enclosed .bracket (commaList (slicePattern g))
    return .slice elements trailing
  else if isOperator ".." trees && !isOperator "..." trees then openRange g
  else missing patternStarts

end BuilderGen.Code.Parser
