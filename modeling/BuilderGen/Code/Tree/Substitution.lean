import BuilderGen.Code.Tree

/-!
# Substitution in trees

A substitution says what the path types of a tree become. It is applied from the inside out, in
every place that holds types: arguments, bounds, parameters, and the types inside expressions,
patterns, attributes and items. What is kept as tokens is left alone.
-/

namespace BuilderGen.Code

mutual

/-- Substitute in a type from the inside out. -/
def Ty.subst (f : Path → Ty) : Ty → Ty
  | .path path => f (path.subst f)
  | .qualified self role rest =>
    .qualified (self.subst f) (substRole f role) (substSegments f rest)
  | .reference lifetime isMut target => .reference lifetime isMut (target.subst f)
  | .pointer isMut target => .pointer isMut (target.subst f)
  | .slice element => .slice (element.subst f)
  | .array element length => .array (element.subst f) (length.subst f)
  | .tuple elements trailing => .tuple (substTypes f elements) trailing
  | .paren inner => .paren (inner.subst f)
  | .never => .never
  | .infer => .infer
  | .function binder head params trailing result =>
    .function (substBinder f binder) head (substFields f params) trailing (substType? f result)
  | .object keyword bounds trailing => .object keyword (substBounds f bounds) trailing
  | .bounded bounds trailing => .bounded (substBounds f bounds) trailing
  | .invocation call => .invocation call
  | .variadic => .variadic
  | .raw tokens => .raw tokens

/-- Substitute in types. -/
def substTypes (f : Path → Ty) : List Ty → List Ty
  | [] => []
  | s :: rest => s.subst f :: substTypes f rest

/-- Substitute in a type that may be absent. -/
def substType? (f : Path → Ty) : Option Ty → Option Ty
  | none => none
  | some s => some (s.subst f)

/-- Substitute in the arguments of a path. -/
def Path.subst (f : Path → Ty) : Path → Path
  | ⟨rooted, segments⟩ => ⟨rooted, substSegments f segments⟩

/-- Substitute in the arguments of the trait that a path is below. -/
def substRole (f : Path → Ty) : Option Path → Option Path
  | none => none
  | some path => some (path.subst f)

/-- Substitute in the arguments of segments. -/
def substSegments (f : Path → Ty) : List Segment → List Segment
  | [] => []
  | s :: rest => s.subst f :: substSegments f rest

/-- Substitute in the arguments of a segment. -/
def Segment.subst (f : Path → Ty) : Segment → Segment
  | ⟨name, args⟩ => ⟨name, args.subst f⟩

/-- Substitute in arguments. -/
def Arguments.subst (f : Path → Ty) : Arguments → Arguments
  | .none => .none
  | .angled turbofish args trailing => .angled turbofish (substArguments f args) trailing
  | .called inputs trailing result =>
    .called (substTypes f inputs) trailing (substType? f result)

/-- Substitute in arguments in angle brackets. -/
def substArguments (f : Path → Ty) : List Argument → List Argument
  | [] => []
  | a :: rest => a.subst f :: substArguments f rest

/-- Substitute in an argument in angle brackets. -/
def Argument.subst (f : Path → Ty) : Argument → Argument
  | .lifetime name => .lifetime name
  | .type type => .type (type.subst f)
  | .const value => .const (value.subst f)
  | .assocType name args type => .assocType name (args.subst f) (type.subst f)
  | .assocConst name args value => .assocConst name (args.subst f) (value.subst f)
  | .constraint name args bounds trailing =>
    .constraint name (args.subst f) (substBounds f bounds) trailing

/-- Substitute in bounds. -/
def substBounds (f : Path → Ty) : List Bound → List Bound
  | [] => []
  | b :: rest => b.subst f :: substBounds f rest

/-- Substitute in a bound. -/
def Bound.subst (f : Path → Ty) : Bound → Bound
  | .lifetime name => .lifetime name
  | .trait inParens binder relaxed path =>
    .trait inParens (substBinder f binder) relaxed (path.subst f)
  | .capture params trailing => .capture params trailing
  | .raw tokens => .raw tokens

/-- Substitute in bound parameters. -/
def substBinder (f : Path → Ty) : Option Generics → Option Generics
  | none => none
  | some binder => some (binder.subst f)

/-- Substitute in generic parameters. -/
def substParams (f : Path → Ty) : List GenericParam → List GenericParam
  | [] => []
  | p :: rest => p.subst f :: substParams f rest

/-- Substitute in a generic parameter. -/
def GenericParam.subst (f : Path → Ty) : GenericParam → GenericParam
  | .lifetime attributes name bounds trailing =>
    .lifetime (substAttributes f attributes) name bounds trailing
  | .type attributes name bounds trailing default =>
    .type (substAttributes f attributes) name (substBounds f bounds) trailing
      (substType? f default)
  | .const attributes name type default =>
    .const (substAttributes f attributes) name (type.subst f) (substExpr? f default)

/-- Substitute in the predicates of a where clause. -/
def substPredicates (f : Path → Ty) : List Predicate → List Predicate
  | [] => []
  | p :: rest => p.subst f :: substPredicates f rest

/-- Substitute in a predicate of a where clause. -/
def Predicate.subst (f : Path → Ty) : Predicate → Predicate
  | .lifetime name bounds trailing => .lifetime name bounds trailing
  | .type binder type bounds trailing =>
    .type (substBinder f binder) (type.subst f) (substBounds f bounds) trailing

/-- Substitute in generic parameters and the where clause. -/
def Generics.subst (f : Path → Ty) : Generics → Generics
  | ⟨params, trailing, predicates, predicatesTrailing⟩ =>
    ⟨substParams f params, trailing, substPredicates f predicates, predicatesTrailing⟩

/-- Substitute in attributes. -/
def substAttributes (f : Path → Ty) : List Attribute → List Attribute
  | [] => []
  | a :: rest => a.subst f :: substAttributes f rest

/-- Substitute in the value of an attribute. -/
def Attribute.subst (f : Path → Ty) : Attribute → Attribute
  | .bare head => .bare head
  | .list head delimiter content closed => .list head delimiter content closed
  | .value head equals value => .value head equals (value.subst f)

/-- Substitute in the types inside an expression. -/
def Expr.subst (f : Path → Ty) : Expr → Expr
  | .attributed attributes inner => .attributed (substAttributes f attributes) (inner.subst f)
  | .literal text => .literal text
  | .path path => .path (path.subst f)
  | .qualified self role rest =>
    .qualified (self.subst f) (substRole f role) (substSegments f rest)
  | .invocation call => .invocation call
  | .unary operator operand => .unary operator (operand.subst f)
  | .binary left operator right => .binary (left.subst f) operator (right.subst f)
  | .cast operand type => .cast (operand.subst f) (type.subst f)
  | .reference isMut operand => .reference isMut (operand.subst f)
  | .address isMut operand => .address isMut (operand.subst f)
  | .paren inner => .paren (inner.subst f)
  | .tuple elements trailing => .tuple (substExprs f elements) trailing
  | .array elements trailing => .array (substExprs f elements) trailing
  | .repeated element length => .repeated (element.subst f) (length.subst f)
  | .call function args trailing => .call (function.subst f) (substExprs f args) trailing
  | .method receiver name generics args trailing =>
    .method (receiver.subst f) name (generics.subst f) (substExprs f args) trailing
  | .field base member => .field (base.subst f) member
  | .index base position => .index (base.subst f) (position.subst f)
  | .await base => .await (base.subst f)
  | .propagate base => .propagate (base.subst f)
  | .range start closed finish => .range (substExpr? f start) closed (substExpr? f finish)
  | .struct path fields trailing => .struct (path.subst f) (substEntries f fields) trailing
  | .block head inner body => .block head (substAttributes f inner) (substEntries f body)
  | .whileLoop label condition body => .whileLoop label (condition.subst f) (body.subst f)
  | .forLoop label pattern source body =>
    .forLoop label (pattern.subst f) (source.subst f) (body.subst f)
  | .conditional condition body otherwise =>
    .conditional (condition.subst f) (body.subst f) (substExpr? f otherwise)
  | .matching subject inner arms =>
    .matching (subject.subst f) (substAttributes f inner) (substEntries f arms)
  | .closure binder head params trailing result body =>
    .closure (substBinder f binder) head (substPatterns f params) trailing (substType? f result)
      (body.subst f)
  | .binding pattern value => .binding (pattern.subst f) (value.subst f)
  | .jump kind label value => .jump kind label (substExpr? f value)
  | .infer => .infer
  | .raw tokens => .raw tokens

/-- Substitute in the types inside expressions. -/
def substExprs (f : Path → Ty) : List Expr → List Expr
  | [] => []
  | e :: rest => e.subst f :: substExprs f rest

/-- Substitute in the types inside an expression that may be absent. -/
def substExpr? (f : Path → Ty) : Option Expr → Option Expr
  | none => none
  | some e => some (e.subst f)

/-- Substitute in what stands in braces. -/
def substEntries (f : Path → Ty) : List Entry → List Entry
  | [] => []
  | e :: rest => e.subst f :: substEntries f rest

/-- Substitute in one of the things in braces. -/
def Entry.subst (f : Path → Ty) : Entry → Entry
  | .field attributes member colon value =>
    .field (substAttributes f attributes) member colon (value.subst f)
  | .rest value => .rest (substExpr? f value)
  | .arm attributes pattern guard body comma =>
    .arm (substAttributes f attributes) (pattern.subst f) (substExpr? f guard) (body.subst f) comma
  | .empty => .empty
  | .declare attributes pattern value otherwise =>
    .declare (substAttributes f attributes) (pattern.subst f) (substExpr? f value)
      (substExpr? f otherwise)
  | .item item => .item (item.subst f)
  | .expr value semicolon => .expr (value.subst f) semicolon
  | .invocation attributes call semicolon =>
    .invocation (substAttributes f attributes) call semicolon

/-- Substitute in the types inside a pattern. -/
def Pattern.subst (f : Path → Ty) : Pattern → Pattern
  | .attributed attributes inner => .attributed (substAttributes f attributes) (inner.subst f)
  | .value value => .value (value.subst f)
  | .ident byRef isMut name => .ident byRef isMut name
  | .bound byRef isMut name inner => .bound byRef isMut name (inner.subst f)
  | .invocation call => .invocation call
  | .alternatives leading cases => .alternatives leading (substPatterns f cases)
  | .paren inner => .paren (inner.subst f)
  | .reference isMut target => .reference isMut (target.subst f)
  | .rest => .rest
  | .wild => .wild
  | .range start closed finish => .range (substExpr? f start) closed (substExpr? f finish)
  | .slice elements trailing => .slice (substPatterns f elements) trailing
  | .tuple elements trailing => .tuple (substPatterns f elements) trailing
  | .struct path fields trailing => .struct (path.subst f) (substPatterns f fields) trailing
  | .field member pattern => .field member (pattern.subst f)
  | .called path elements trailing => .called (path.subst f) (substPatterns f elements) trailing
  | .typed pattern type => .typed (pattern.subst f) (type.subst f)
  | .receiver byRef lifetime isMut colon type =>
    .receiver byRef lifetime isMut colon (type.subst f)
  | .variadic => .variadic
  | .raw tokens => .raw tokens

/-- Substitute in the types inside patterns. -/
def substPatterns (f : Path → Ty) : List Pattern → List Pattern
  | [] => []
  | p :: rest => p.subst f :: substPatterns f rest

/-- Substitute in fields. -/
def substFields (f : Path → Ty) : List Field → List Field
  | [] => []
  | g :: rest => g.subst f :: substFields f rest

/-- Substitute in a field. -/
def Field.subst (f : Path → Ty) : Field → Field
  | ⟨attributes, visibility, name, namePos, type⟩ =>
    ⟨substAttributes f attributes, visibility, name, namePos, type.subst f⟩

/-- Substitute in a struct. -/
def Struct.subst (f : Path → Ty) : Struct → Struct
  | ⟨attributes, visibility, name, namePos, generics, shape, fields, trailing⟩ =>
    ⟨substAttributes f attributes, visibility, name, namePos, generics.subst f, shape,
      substFields f fields, trailing⟩

/-- Substitute in variants. -/
def substVariants (f : Path → Ty) : List Variant → List Variant
  | [] => []
  | v :: rest => v.subst f :: substVariants f rest

/-- Substitute in a variant. -/
def Variant.subst (f : Path → Ty) : Variant → Variant
  | ⟨attributes, name, shape, fields, trailing, value⟩ =>
    ⟨substAttributes f attributes, name, shape, substFields f fields, trailing,
      substExpr? f value⟩

/-- Substitute in an item. -/
def Item.subst (f : Path → Ty) : Item → Item
  | .const attributes visibility place isDefault name type value =>
    .const (substAttributes f attributes) visibility place isDefault name (type.subst f)
      (substExpr? f value)
  | .static attributes visibility isMut name type value =>
    .static (substAttributes f attributes) visibility isMut name (type.subst f)
      (substExpr? f value)
  | .typeAlias attributes visibility place isDefault name generics bounds trailing type =>
    .typeAlias (substAttributes f attributes) visibility place isDefault name (generics.subst f)
      (substBounds f bounds) trailing (substType? f type)
  | .function attributes visibility head name generics params trailing result body =>
    .function (substAttributes f attributes) visibility head name (generics.subst f)
      (substPatterns f params) trailing (substType? f result) (substExpr? f body)
  | .invocation attributes call name => .invocation (substAttributes f attributes) call name
  | .struct value => .struct (value.subst f)
  | .enum attributes visibility name generics variants trailing =>
    .enum (substAttributes f attributes) visibility name (generics.subst f)
      (substVariants f variants) trailing
  | .union attributes visibility name generics fields trailing =>
    .union (substAttributes f attributes) visibility name (generics.subst f)
      (substFields f fields) trailing
  | .trait attributes visibility isUnsafe isAuto name generics bounds trailing inner items =>
    .trait (substAttributes f attributes) visibility isUnsafe isAuto name (generics.subst f)
      (substBounds f bounds) trailing (substAttributes f inner) (substItems f items)
  | .traitAlias attributes visibility name generics bounds trailing =>
    .traitAlias (substAttributes f attributes) visibility name (generics.subst f)
      (substBounds f bounds) trailing
  | .implementation attributes isDefault isUnsafe generics negative role self inner items =>
    .implementation (substAttributes f attributes) isDefault isUnsafe (generics.subst f) negative
      (substRole f role) (self.subst f) (substAttributes f inner) (substItems f items)
  | .module attributes visibility isUnsafe name inner items =>
    .module (substAttributes f attributes) visibility isUnsafe name (substAttributes f inner)
      (substItems f items)
  | .outlineModule attributes visibility isUnsafe name =>
    .outlineModule (substAttributes f attributes) visibility isUnsafe name
  | .foreign attributes isUnsafe convention inner items =>
    .foreign (substAttributes f attributes) isUnsafe convention (substAttributes f inner)
      (substItems f items)
  | .externCrate attributes visibility name other =>
    .externCrate (substAttributes f attributes) visibility name other
  | .use attributes visibility rooted tree =>
    .use (substAttributes f attributes) visibility rooted tree
  | .raw tokens => .raw tokens

/-- Substitute in items. -/
def substItems (f : Path → Ty) : List Item → List Item
  | [] => []
  | item :: rest => item.subst f :: substItems f rest

end

end BuilderGen.Code
