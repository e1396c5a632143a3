import BuilderGen.Code.Part

/-!
# Syntax trees

The trees that source text is read as: types, expressions, patterns, attributes and items. They
contain one another, so they are defined together. What has no form of its own is kept as its
tokens.

Lists that end with an optional separator remember it as `trailing`, so that the tokens of a tree
are those it was read from.
-/

namespace BuilderGen.Code

mutual

/-- A type. -/
inductive Ty where
  /-- A path such as `Vec<String>`. -/
  | path (path : Path)
  /-- A path below a type: `<self as role>::rest`, or `<self>::rest` without a role. -/
  | qualified (self : Ty) (role : Option Path) (rest : List Segment)
  /-- A reference. -/
  | reference (lifetime : Option Ident) (isMut : Bool) (target : Ty)
  /-- A raw pointer. -/
  | pointer (isMut : Bool) (target : Ty)
  /-- A slice. -/
  | slice (element : Ty)
  /-- An array. -/
  | array (element : Ty) (length : Expr)
  /-- A tuple. -/
  | tuple (elements : List Ty) (trailing : Bool)
  /-- A type in parentheses. -/
  | paren (inner : Ty)
  /-- The type `!`. -/
  | never
  /-- The type `_`. -/
  | infer
  /-- A function pointer. -/
  | function (binder : Option Generics) (head : FunctionHead) (params : List Field)
      (trailing : Bool) (result : Option Ty)
  /-- A trait object, with or without the keyword `dyn`. -/
  | object (keyword : Bool) (bounds : List Bound) (trailing : Bool)
  /-- A type known by its bounds: `impl A + B`. -/
  | bounded (bounds : List Bound) (trailing : Bool)
  /-- A macro call in type position. -/
  | invocation (call : Invocation)
  /-- A variable number of further arguments, `...`, at the end of a parameter list. -/
  | variadic
  /-- A type kept as its tokens. -/
  | raw (tokens : List TokenTree)

/-- A path. -/
structure Path where
  /-- Whether it starts with `::`. -/
  rooted : Bool
  /-- Its segments. -/
  segments : List Segment

/-- One segment of a path. -/
structure Segment where
  /-- Its name. -/
  name : Ident
  /-- The arguments after the name. -/
  args : Arguments

/-- The arguments of a path segment. -/
inductive Arguments where
  /-- No arguments. -/
  | none
  /-- Arguments in angle brackets; `turbofish` when `::` stands before them. -/
  | angled (turbofish : Bool) (args : List Argument) (trailing : Bool)
  /-- Arguments and result of a function trait. -/
  | called (inputs : List Ty) (trailing : Bool) (result : Option Ty)

/-- An argument in angle brackets. -/
inductive Argument where
  /-- A lifetime. -/
  | lifetime (name : Ident)
  /-- A type. -/
  | type (type : Ty)
  /-- A constant. -/
  | const (value : Expr)
  /-- An associated type, `name = type`. -/
  | assocType (name : Ident) (args : Arguments) (type : Ty)
  /-- An associated constant, `name = value`. -/
  | assocConst (name : Ident) (args : Arguments) (value : Expr)
  /-- Bounds of an associated type, `name: bounds`. -/
  | constraint (name : Ident) (args : Arguments) (bounds : List Bound) (trailing : Bool)

/-- A bound on a type. -/
inductive Bound where
  /-- A lifetime. -/
  | lifetime (name : Ident)
  /-- A trait, perhaps in parentheses, with bound lifetimes or relaxed by a question mark. -/
  | trait (inParens : Bool) (binder : Option Generics) (relaxed : Bool) (path : Path)
  /-- The captured parameters `use<...>`. -/
  | capture (params : List CapturedParam) (trailing : Bool)
  /-- A bound kept as its tokens. -/
  | raw (tokens : List TokenTree)

/-- A generic parameter. -/
inductive GenericParam where
  /-- A lifetime. -/
  | lifetime (attributes : List Attribute) (name : Ident) (bounds : List Ident) (trailing : Bool)
  /-- A type. -/
  | type (attributes : List Attribute) (name : Ident) (bounds : List Bound) (trailing : Bool)
      (default : Option Ty)
  /-- A constant. -/
  | const (attributes : List Attribute) (name : Ident) (type : Ty) (default : Option Expr)

/-- A bound in a where clause. -/
inductive Predicate where
  /-- What a lifetime outlives. -/
  | lifetime (name : Ident) (bounds : List Ident) (trailing : Bool)
  /-- The bounds of a type. -/
  | type (binder : Option Generics) (type : Ty) (bounds : List Bound) (trailing : Bool)

/-- The generic parameters of a declaration and its where clause, or the parameters that
`for<...>` binds. -/
structure Generics where
  /-- The parameters, in the order written. -/
  params : List GenericParam
  /-- Whether a comma follows the last parameter. -/
  trailing : Bool
  /-- The predicates of the where clause; none when it is absent or empty. -/
  predicates : List Predicate
  /-- Whether a comma follows the last predicate. -/
  predicatesTrailing : Bool

/-- An attribute `#[path ...]`. -/
inductive Attribute where
  /-- One without arguments. -/
  | bare (head : AttributeHead)
  /-- One with arguments in brackets, and the place of the closing one. -/
  | list (head : AttributeHead) (delimiter : Delimiter) (content : List TokenTree)
      (closed : Position)
  /-- One with a value after an equals sign, and the place of the sign. -/
  | value (head : AttributeHead) (equals : Position) (value : Expr)

/-- An expression. -/
inductive Expr where
  /-- An expression with attributes before it. -/
  | attributed (attributes : List Attribute) (inner : Expr)
  /-- A literal, `true`, `false`, or a number after a minus sign. -/
  | literal (text : String)
  /-- A path. -/
  | path (path : Path)
  /-- A path below a type. -/
  | qualified (self : Ty) (role : Option Path) (rest : List Segment)
  /-- A macro call. -/
  | invocation (call : Invocation)
  /-- A prefix operator. -/
  | unary (operator : String) (operand : Expr)
  /-- A binary operator, which may be an assignment. -/
  | binary (left : Expr) (operator : String) (right : Expr)
  /-- A conversion, `operand as type`. -/
  | cast (operand : Expr) (type : Ty)
  /-- A reference. -/
  | reference (isMut : Bool) (operand : Expr)
  /-- An address, `&raw const operand` or `&raw mut operand`. -/
  | address (isMut : Bool) (operand : Expr)
  /-- An expression in parentheses. -/
  | paren (inner : Expr)
  /-- A tuple. -/
  | tuple (elements : List Expr) (trailing : Bool)
  /-- An array, element by element. -/
  | array (elements : List Expr) (trailing : Bool)
  /-- An array of equal elements, `[element; length]`. -/
  | repeated (element length : Expr)
  /-- A call. -/
  | call (function : Expr) (args : List Expr) (trailing : Bool)
  /-- A method call. -/
  | method (receiver : Expr) (name : Ident) (generics : Arguments) (args : List Expr)
      (trailing : Bool)
  /-- A field. -/
  | field (base : Expr) (member : Member)
  /-- An element. -/
  | index (base : Expr) (position : Expr)
  /-- Waiting for a value, `base.await`. -/
  | await (base : Expr)
  /-- Handing on a failure, `base?`. -/
  | propagate (base : Expr)
  /-- A range; `closed` when it includes its end. -/
  | range (start : Option Expr) (closed : Bool) (finish : Option Expr)
  /-- A struct literal. -/
  | struct (path : Expr) (fields : List Entry) (trailing : Bool)
  /-- A block or a loop without an end, with the attributes at its start. -/
  | block (head : BlockHead) (inner : List Attribute) (body : List Entry)
  /-- A loop with a condition. -/
  | whileLoop (label : Option Ident) (condition : Expr) (body : Expr)
  /-- A loop over some values. -/
  | forLoop (label : Option Ident) (pattern : Pattern) (source : Expr) (body : Expr)
  /-- A choice by a condition. -/
  | conditional (condition : Expr) (body : Expr) (otherwise : Option Expr)
  /-- A choice by patterns. -/
  | matching (subject : Expr) (inner : List Attribute) (arms : List Entry)
  /-- A closure. -/
  | closure (binder : Option Generics) (head : ClosureHead) (params : List Pattern)
      (trailing : Bool) (result : Option Ty) (body : Expr)
  /-- A pattern as a condition, `let pattern = value`. -/
  | binding (pattern : Pattern) (value : Expr)
  /-- A jump. -/
  | jump (kind : Jump) (label : Option Ident) (value : Option Expr)
  /-- The expression `_`. -/
  | infer
  /-- An expression kept as its tokens. -/
  | raw (tokens : List TokenTree)

/-- What stands in the braces of an expression: a field of a struct literal, an arm of a match, or
a statement. -/
inductive Entry where
  /-- A field of a struct literal; without a colon its name is its value. -/
  | field (attributes : List Attribute) (member : Member) (colon : Bool) (value : Expr)
  /-- The value that all other fields are taken from, after two dots; it may be left out. -/
  | rest (value : Option Expr)
  /-- An arm of a match. -/
  | arm (attributes : List Attribute) (pattern : Pattern) (guard : Option Expr) (body : Expr)
      (comma : Bool)
  /-- A lone semicolon. -/
  | empty
  /-- A `let` statement, with the block to run when its pattern does not match. -/
  | declare (attributes : List Attribute) (pattern : Pattern) (value : Option Expr)
      (otherwise : Option Expr)
  /-- An item. -/
  | item (item : Item)
  /-- An expression. -/
  | expr (value : Expr) (semicolon : Bool)
  /-- A macro call that is a statement by itself. -/
  | invocation (attributes : List Attribute) (call : Invocation) (semicolon : Bool)

/-- A pattern. -/
inductive Pattern where
  /-- A pattern with attributes before it. -/
  | attributed (attributes : List Attribute) (inner : Pattern)
  /-- A value: a literal, a path or a constant block. -/
  | value (value : Expr)
  /-- A name that is bound. -/
  | ident (byRef isMut : Bool) (name : Ident)
  /-- A name that is bound to what also matches a pattern. -/
  | bound (byRef isMut : Bool) (name : Ident) (inner : Pattern)
  /-- A macro call. -/
  | invocation (call : Invocation)
  /-- Alternatives with vertical bars between them; `leading` when a bar comes first. -/
  | alternatives (leading : Bool) (cases : List Pattern)
  /-- A pattern in parentheses. -/
  | paren (inner : Pattern)
  /-- A reference. -/
  | reference (isMut : Bool) (target : Pattern)
  /-- All that is left, `..`. -/
  | rest
  /-- Anything, `_`. -/
  | wild
  /-- A range; `closed` when it includes its end. -/
  | range (start : Option Expr) (closed : Bool) (finish : Option Expr)
  /-- A slice. -/
  | slice (elements : List Pattern) (trailing : Bool)
  /-- A tuple. -/
  | tuple (elements : List Pattern) (trailing : Bool)
  /-- A struct with fields in braces. -/
  | struct (path : Expr) (fields : List Pattern) (trailing : Bool)
  /-- A field of a struct and the pattern it matches. -/
  | field (member : Member) (pattern : Pattern)
  /-- A struct with fields in parentheses. -/
  | called (path : Expr) (elements : List Pattern) (trailing : Bool)
  /-- A pattern with its type. -/
  | typed (pattern : Pattern) (type : Ty)
  /-- The receiver of a method; without a colon its type follows from the rest. -/
  | receiver (byRef : Bool) (lifetime : Option Ident) (isMut colon : Bool) (type : Ty)
  /-- A variable number of further arguments, without a name. -/
  | variadic
  /-- A pattern kept as its tokens. -/
  | raw (tokens : List TokenTree)

/-- A field of a struct, or a parameter of a function pointer. -/
structure Field where
  /-- Its attributes. -/
  attributes : List Attribute
  /-- How far it can be seen. -/
  visibility : Visibility
  /-- Its name, if it has one; an underscore is admitted. -/
  name : Option Ident
  /-- The place of its name. -/
  namePos : Position
  /-- Its type. -/
  type : Ty

/-- A struct. -/
structure Struct where
  /-- Its attributes. -/
  attributes : List Attribute
  /-- How far it can be seen. -/
  visibility : Visibility
  /-- Its name. -/
  name : Ident
  /-- The place of its name. -/
  namePos : Position
  /-- Its generic parameters. -/
  generics : Generics
  /-- The form of its fields. -/
  shape : Shape
  /-- Its fields. -/
  fields : List Field
  /-- Whether a comma follows the last field. -/
  trailing : Bool

/-- A variant of an enum. -/
structure Variant where
  /-- Its attributes. -/
  attributes : List Attribute
  /-- Its name. -/
  name : Ident
  /-- The form of its fields. -/
  shape : Shape
  /-- Its fields. -/
  fields : List Field
  /-- Whether a comma follows the last field. -/
  trailing : Bool
  /-- The number that stands for it. -/
  value : Option Expr

/-- An item. -/
inductive Item where
  /-- A constant. -/
  | const (attributes : List Attribute) (visibility : Visibility) (place : Container)
      (isDefault : Bool) (name : Ident) (type : Ty) (value : Option Expr)
  /-- A static variable. -/
  | static (attributes : List Attribute) (visibility : Visibility) (isMut : Bool) (name : Ident)
      (type : Ty) (value : Option Expr)
  /-- A type alias, or an associated type. -/
  | typeAlias (attributes : List Attribute) (visibility : Visibility) (place : Container)
      (isDefault : Bool) (name : Ident) (generics : Generics) (bounds : List Bound)
      (trailing : Bool) (type : Option Ty)
  /-- A function; without a body it is only declared. -/
  | function (attributes : List Attribute) (visibility : Visibility) (head : FunctionHead)
      (name : Ident) (generics : Generics) (params : List Pattern) (trailing : Bool)
      (result : Option Ty) (body : Option Expr)
  /-- A macro call, with the name that the macro defines. -/
  | invocation (attributes : List Attribute) (call : Invocation) (name : Option Ident)
  /-- A struct. -/
  | struct (value : Struct)
  /-- An enum. -/
  | enum (attributes : List Attribute) (visibility : Visibility) (name : Ident)
      (generics : Generics) (variants : List Variant) (trailing : Bool)
  /-- A union. -/
  | union (attributes : List Attribute) (visibility : Visibility) (name : Ident)
      (generics : Generics) (fields : List Field) (trailing : Bool)
  /-- A trait. -/
  | trait (attributes : List Attribute) (visibility : Visibility) (isUnsafe isAuto : Bool)
      (name : Ident) (generics : Generics) (bounds : List Bound) (trailing : Bool)
      (inner : List Attribute) (items : List Item)
  /-- An alias of bounds. -/
  | traitAlias (attributes : List Attribute) (visibility : Visibility) (name : Ident)
      (generics : Generics) (bounds : List Bound) (trailing : Bool)
  /-- An implementation, of a trait or of none. -/
  | implementation (attributes : List Attribute) (isDefault isUnsafe : Bool)
      (generics : Generics) (negative : Bool) (role : Option Path) (self : Ty)
      (inner : List Attribute) (items : List Item)
  /-- A module with its items. -/
  | module (attributes : List Attribute) (visibility : Visibility) (isUnsafe : Bool)
      (name : Ident) (inner : List Attribute) (items : List Item)
  /-- A module that lives in another file. -/
  | outlineModule (attributes : List Attribute) (visibility : Visibility) (isUnsafe : Bool)
      (name : Ident)
  /-- Declarations of another language. -/
  | foreign (attributes : List Attribute) (isUnsafe : Bool) (convention : Option String)
      (inner : List Attribute) (items : List Item)
  /-- An imported library, perhaps under another name. -/
  | externCrate (attributes : List Attribute) (visibility : Visibility) (name : Ident)
      (other : Option Ident)
  /-- An import. -/
  | use (attributes : List Attribute) (visibility : Visibility) (rooted : Bool) (tree : UseTree)
  /-- An item kept as its tokens. -/
  | raw (tokens : List TokenTree)

end

end BuilderGen.Code
