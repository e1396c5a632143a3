import BuilderGen.Code.Parser.Basic
import BuilderGen.Code.Tree

/-!
# Grammars

Types, expressions, patterns and items contain one another. Their parsers are written over a record
of the parsers one level further down; the record is closed up where all of them are known.
-/

namespace BuilderGen.Code

/-- How tightly an operator binds, from the loosest to the tightest. -/
inductive Precedence where
  /-- Below every operator. -/
  | lowest
  /-- Assignments. -/
  | assign
  /-- Ranges. -/
  | range
  /-- `||`. -/
  | or
  /-- `&&`. -/
  | and
  /-- Comparisons. -/
  | compare
  /-- `|`. -/
  | bitOr
  /-- `^`. -/
  | bitXor
  /-- `&`. -/
  | bitAnd
  /-- Shifts. -/
  | shift
  /-- Sums. -/
  | sum
  /-- Products. -/
  | product
  /-- Conversions. -/
  | cast
  deriving DecidableEq, Repr

/-- The rank of a precedence; a tighter one is larger. -/
def Precedence.rank : Precedence → Nat
  | lowest => 0
  | assign => 1
  | range => 2
  | or => 3
  | and => 4
  | compare => 5
  | bitOr => 6
  | bitXor => 7
  | bitAnd => 8
  | shift => 9
  | sum => 10
  | product => 11
  | cast => 12

/-- The parsers that call one another. -/
structure Grammar where
  /-- A type, with or without a sum of bounds. -/
  type : (allowPlus : Bool) → Parser Ty
  /-- A bound; parameters captured by `use<...>` and constant traits are not admitted
  everywhere. -/
  bound : (allowCapture allowConst : Bool) → Parser Bound
  /-- An expression, with or without struct literals. -/
  expr : (allowStruct : Bool) → Parser Expr
  /-- An operand with its prefix operators. -/
  unary : (allowStruct : Bool) → Parser Expr
  /-- The operators after a first operand that bind at least as tightly as a given one. -/
  operators : (allowStruct : Bool) → Precedence → Expr → Parser Expr
  /-- The expression at the front of a statement or of the body of a match arm. -/
  early : Parser Expr
  /-- A pattern without alternatives. -/
  pattern : Parser Pattern
  /-- A block in braces, with or without attributes at its start. -/
  block : (allowInner : Bool) → Parser Expr
  /-- An item. -/
  item : Parser Item
  /-- What an import names; the answer is false when only its tokens can be kept. -/
  useTree : (allowRoot : Bool) → Parser (UseTree × Bool)

end BuilderGen.Code
