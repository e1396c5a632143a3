import BuilderGen.Code.Lexer.Literal
import BuilderGen.Code.Tree.Tokens
import BuilderGen.Layout.Invocation

/-!
# Laying out parts of trees

The parts that hold no trees, the clauses that are put together from pieces, and the questions about
expressions that their layout depends on.
-/

namespace BuilderGen.Code

open Layout

/-! ### Words -/

/-- A lifetime. -/
def lifetimeText (name : Ident) : String := "'" ++ name.text

/-- A lifetime and the space after it. -/
def lifetimeBefore : Option Ident → List Piece
  | none => []
  | some name => word (lifetimeText name ++ " ")

/-- A label and its colon. -/
def labelPieces : Option Ident → List Piece
  | none => []
  | some name => word (lifetimeText name ++ ": ")

/-- A calling convention and the space after it. -/
def Convention.text : Convention → String
  | none => ""
  | some none => "extern "
  | some (some text) => "extern " ++ text ++ " "

/-- The words before the `fn` of a function, each with a space after it. -/
def FunctionHead.text (head : FunctionHead) : String :=
  (if head.isDefault then "default " else "") ++ (if head.isConst then "const " else "")
    ++ (if head.isAsync then "async " else "") ++ (if head.isUnsafe then "unsafe " else "")
    ++ head.convention.text

/-- The words before the parameters of a closure, each with a space after it. -/
def ClosureHead.text (head : ClosureHead) : String :=
  (if head.isConst then "const " else "") ++ (if head.isStatic then "static " else "")
    ++ (if head.isAsync then "async " else "") ++ (if head.isMove then "move " else "")

/-- The words before a block. -/
def BlockHead.pieces : BlockHead → List Piece
  | plain label => labelPieces label
  | unsafeBlock => word "unsafe "
  | constBlock => word "const "
  | tryBlock => word "try "
  | async isMove => word (if isMove then "async move " else "async ")
  | loop label => labelPieces label ++ word "loop "

/-- A member. -/
def Member.text : Member → String
  | named name => name.text
  | index n => toString n

/-- A captured parameter. -/
def CapturedParam.text : CapturedParam → String
  | lifetime id => lifetimeText id
  | name id => id.text

/-- A visibility and the space after it. -/
def Visibility.text : Visibility → String
  | inherited => ""
  | everywhere => "pub "
  | within _ rooted path =>
    let bare := !rooted && match path with
      | [name] => ["self", "super", "crate"].any name.is
      | _ => false
    (if bare then "pub(" else "pub(in ") ++ namesText rooted path ++ ") "

/-- Whether something that is imported ends with a list in braces. -/
def UseTree.endsInGroup : UseTree → Bool
  | path _ tree => tree.endsInGroup
  | group .. => true
  | _ => false

mutual

/-- What an import names. -/
def UseTree.pieces : UseTree → List Piece
  | .path name tree => word (name.text ++ "::") ++ tree.pieces
  | .name name => word name.text
  | .renamed name other => word (name.text ++ " as " ++ other.text)
  | .all => word "*"
  | .group trees _ =>
    word "\x7b"
      ++ cbox indentation (outdented (seam ++ ibox 0 (useTreesPieces trees) ++ lastComma))
      ++ word "\x7d"

/-- A list of imports. A list in braces ends the line. -/
def useTreesPieces : List UseTree → List Piece
  | [] => []
  | t :: rest =>
    t.pieces
      ++ (if rest.isEmpty then []
        else word "," ++ if t.endsInGroup then newline else space)
      ++ useTreesPieces rest

end

/-- The start of an attribute. -/
def attributeStart (head : AttributeHead) : List Piece :=
  word ((if head.isInner then "#![" else "#[") ++ namesText head.rooted head.path)

/-! ### Clauses -/

/-- Things on lines of their own, each with a comma after it. -/
def commaLines (things : List (List Piece)) : List Piece :=
  things.flatMap (· ++ word "," ++ newline)

/-- The parameters of a function in parentheses; no comma follows a variable number of
arguments. -/
def parameterPieces (isVariadic : Bool) (params : List (List Piece)) : List Piece :=
  outdented (seam ++ listed (if isVariadic then seam else lastComma) params)

/-- Predicates on lines of their own, after the word `where`; `last` follows the last one. -/
def predicateLines (last : List Piece) : List (List Piece) → List Piece
  | [] => []
  | [p] => p ++ last
  | p :: rest => p ++ word "," ++ newline ++ predicateLines last rest

/-- A where clause before a body in braces: a space if there are no predicates, and otherwise a line
for every predicate. -/
def whereBody (predicates : List (List Piece)) : List Piece :=
  if predicates.isEmpty then word " "
  else
    outdented newline ++ word "where"
      ++ outdented (newline ++ predicateLines (word "," ++ newline) predicates)

/-- A where clause before a semicolon, with the semicolon. -/
def whereEnd (predicates : List (List Piece)) : List Piece :=
  if predicates.isEmpty then word ";"
  else outdented newline ++ word "where" ++ newline ++ predicateLines (word ";") predicates

/-- A where clause that may stand on one line, before an equals sign. -/
def whereInline (predicates : List (List Piece)) : List Piece :=
  if predicates.isEmpty then word " "
  else outdented space ++ word "where" ++ outdented (space ++ listed lastCommaOrSpace predicates)

/-- A where clause that may stand on one line, with the semicolon after it. -/
def whereInlineEnd (predicates : List (List Piece)) : List Piece :=
  if predicates.isEmpty then word ";"
  else outdented space ++ word "where" ++ space ++ listed (word ";") predicates

/-- A type after an equals sign. -/
def definedAs (type : List Piece) : List Piece :=
  word "= " ++ stop ++ ibox (-indentation) type

/-! ### Questions about expressions -/

namespace Expr

/-- Whether an expression is a literal without a point and without quotes of more than one
character, so that many of them fit on a line. -/
def isSmallLiteral (e : Expr) : Bool :=
  match e.unmarked with
  | .literal text =>
    isIntLiteral text || text.startsWith "\x27" || text.startsWith "b\x27" || text == "true"
      || text == "false"
  | _ => false

/-- Whether a block has no statements. -/
def hasNoEntries : Expr → Bool
  | .block _ _ body => body.isEmpty
  | _ => true

/-- Whether an expression is a name that is no longer than the indentation. -/
def isShortName : Expr → Bool
  | .path p => p.single?.any fun name => (name.text.utf8ByteSize : Int) ≤ indentation
  | _ => false

/-- Whether the text of an expression ends with a dot. -/
def endsInDot : Expr → Bool
  | .literal text => text.endsWith "."
  | _ => false

/-- Whether the text of an expression starts with two dots. -/
def startsInDots : Expr → Bool
  | .range none .. => true
  | _ => false

/-- Whether an expression has brackets of its own that can stand right inside of others. -/
def isBlocklike : Expr → Bool
  | .block (.loop _) .. => false
  | .array .. | .block .. | .closure .. | .struct .. | .tuple .. => true
  | _ => false

/-- Whether the body of a closure is put in braces when it does not fit on the line. -/
def needsBraces : Expr → Bool
  | .matching .. | .call .. => false
  | e => !e.isBlocklike

/-- Whether an expression can be broken in such a way that what follows it must not stand on its
last line. -/
def endsIndented : Expr → Bool
  | .await _ | .binary .. | .cast .. | .field .. | .index .. | .method .. => true
  | .attributed _ e | .call e .. | .binding _ e | .paren e | .range _ _ (some e) | .address _ e
  | .reference _ e | .propagate e | .unary _ e | .jump _ _ (some e) => e.endsIndented
  | _ => false

/-- Whether an expression means the same when it is a statement: its first operand does not stand
alone. -/
def isStatement : Expr → Bool
  | .attributed _ e | .await e | .field e _ | .method e .. | .propagate e => e.isStatement
  | .binary e .. | .call e .. | .cast e _ | .index e _ | .range (some e) .. =>
    !e.standsAlone && e.isStatement
  | _ => true

/-- Whether an operator is an assignment. -/
def isAssigning (operator : String) : Bool :=
  ["=", "+=", "-=", "*=", "/=", "%=", "^=", "&=", "|=", "<<=", ">>="].contains operator

/-- Whether a semicolon is put after an expression that is a statement without one. -/
def wantsSemicolon (e : Expr) : Bool :=
  match e.unmarked with
  | .binary _ operator _ => isAssigning operator
  | .jump .. => true
  | _ => false

/-- Whether the semicolon after an expression is left out. -/
def dropsSemicolon : Expr → Bool
  | .attributed _ e => e.dropsSemicolon
  | .forLoop .. | .whileLoop .. => true
  | .conditional _ _ none => true
  | .conditional _ _ (some e) => e.dropsSemicolon
  | _ => false

/-- Whether an expression is laid out as a block when it is the body of an arm. -/
def isArmBlock : Expr → Bool
  | .block (.plain _) .. | .attributed _ (.block (.plain _) ..) => true
  | .tuple elements _ => elements.isEmpty
  | _ => false

end Expr

namespace Pattern

/-- A pattern without its attributes. -/
def unmarked : Pattern → Pattern
  | .attributed _ p => p
  | p => p

/-- Whether a pattern stands for all that is left. -/
def isRest (p : Pattern) : Bool := p.unmarked matches .rest

/-- Whether a parameter stands for a variable number of arguments. -/
def isVariadic (p : Pattern) : Bool := p.unmarked matches .variadic | .typed _ .variadic

/-- Whether a pattern is a literal or an underscore, so that many of them fit on a line. -/
def isSmall : Pattern → Bool
  | .value (.literal _) | .wild => true
  | _ => false

end Pattern

/-! ### Places of expressions -/

/-- Where an expression stands. -/
inductive ExprPlace where
  /-- Inside of another thing. -/
  | inside
  /-- At the start of a line. -/
  | lineStart
  /-- Before a dot, in a chain that may stand at the start of a line. -/
  | link (startsLine : Bool)
  /-- After the arrow of an arm. -/
  | arm

namespace ExprPlace

/-- Whether an expression at a place is at the start of a line. -/
def startsLine : ExprPlace → Bool
  | inside => false
  | lineStart | arm => true
  | link startsLine => startsLine

/-- The place of what an expression starts with. -/
def first : ExprPlace → ExprPlace
  | arm => lineStart
  | place => place

/-- The place of the function of a call. -/
def callee : ExprPlace → ExprPlace
  | link _ => link false
  | place => place.first

/-- Whether a chain goes on at a place. -/
def isLink : ExprPlace → Bool
  | link _ => true
  | _ => false

/-- What is written around an operand that is no chain. -/
def operand (place : ExprPlace) (pieces : List Piece) : List Piece :=
  if place.isLink then cbox (-indentation) pieces else pieces

/-- What is written around a chain. -/
def chain (place : ExprPlace) (pieces : List Piece) : List Piece :=
  if place.isLink then pieces else cbox indentation pieces

/-- The gap before the dot after `base` in a chain. A short name at the start of the line stays
together with what follows it. -/
def linkGap (place : ExprPlace) (base : Expr) : List Piece :=
  if place.startsLine && base.isShortName then []
  else [.gap { flat := if base.endsInDot then " " else "" }]

/-- The body of an arm; one that is no block is put in braces when it does not fit. -/
def settle (place : ExprPlace) (e : Expr) (pieces : List Piece) : List Piece :=
  match place with
  | arm =>
    if e.isArmBlock then pieces
    else
      let (opening, closing) := if e.isStatement then ("\x7b", "\x7d") else ("(", "),")
      stop ++ cbox indentation ([.gap { before := opening }] ++ pieces ++ [.gap {
        offset := -indentation
        before := if e.isStatement && e.wantsSemicolon then ";" else ""
        after := closing
        flat := if e.standsAlone then "" else "," }])
  | _ => pieces

end ExprPlace

/-- The body of a closure, which is put in braces when it does not fit. -/
def closureBody (body : Expr) (pieces : List Piece) : List Piece :=
  if body.needsBraces then
    let (opening, closing) := if body.isStatement then ("\x7b", "\x7d") else ("(", ")")
    cbox indentation ([.gap { before := opening }] ++ pieces ++ [.gap {
      offset := -indentation
      before := if body.isStatement && body.wantsSemicolon then ";" else ""
      after := closing }])
  else pieces

/-- A condition before a block, and the gap after it. -/
def conditionPieces (e : Expr) (pieces : List Piece) : List Piece :=
  cbox 0 (pieces ++ if e.endsIndented then space else word " ")

/-- A block on one line, or with its lines in braces. -/
def smallBlock (lines : List Piece) (isEmpty : Bool) : List Piece :=
  word "\x7b" ++ (if isEmpty then [] else outdented (space ++ lines)) ++ word "\x7d"

/-- A block that is never on one line unless it is empty. -/
def openBlock (lines : List Piece) : List Piece :=
  word "\x7b" ++ stop ++ cbox indentation (outdented (newlineBefore ++ lines)) ++ word "\x7d"

/-- The arguments of a call: a single one with brackets of its own stands right inside of the
parentheses. -/
def callPieces (isSingle : Bool) (args : List (List Piece)) : List Piece :=
  word "(" ++ (if isSingle then args.flatten else cbox indentation (enclosed args)) ++ word ")"

/-- Whether the arguments of a call are a single one with brackets of its own. -/
def isSingleBlock : List Expr → Bool
  | [e] => e.isBlocklike
  | _ => false

end BuilderGen.Code
