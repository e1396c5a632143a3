import BuilderGen.Code.Tree.Substitution
import Mathlib.Logic.Basic

/-!
# Names in trees

A test of the names in a tree: of the paths that are types, of the paths that are anything else, and
of what is kept as tokens. What a substitution does to the paths that are types decides how the
tree that it makes does in such a test, since it changes nothing else.
-/

namespace BuilderGen.Code

/-- A test of the names of a path, each with whether its arguments pass. -/
abbrev PathTest := List (Ident × Bool) → Bool

/-- A test of the names of a path that is a type; whether it starts with `::` is given as well. -/
abbrev TypeTest := Bool → PathTest

/-- What is asked of the names in a tree wherever they are no types. -/
structure NameTest where
  /-- What is asked of a path. -/
  other : PathTest
  /-- What is asked of what is kept as tokens. -/
  tokens : List TokenTree → Bool

/-- Names without arguments. -/
def bareParts (names : List Ident) : List (Ident × Bool) := names.map (·, true)

/-- Whether a macro call passes. -/
def Invocation.passes (c : NameTest) (call : Invocation) : Bool :=
  c.other (bareParts call.path) && c.tokens call.body

/-- Whether the module that a visibility names passes. -/
def Visibility.passes (c : NameTest) : Visibility → Bool
  | .within _ _ path => c.other (bareParts path)
  | _ => true

/-- Whether the path of an attribute passes. -/
def AttributeHead.passes (c : NameTest) (head : AttributeHead) : Bool :=
  c.other (bareParts head.path)

/-- The name that is captured, unless it is that of a lifetime. -/
def CapturedParam.name? : CapturedParam → Option Ident
  | .lifetime _ => none
  | .name id => some id

mutual

/-- The names in what an import names. -/
def UseTree.names : UseTree → List Ident
  | .path name tree => name :: tree.names
  | .name name => [name]
  | .renamed name _ => [name]
  | .all => []
  | .group trees _ => useTreesNames trees

/-- The names in what a list of imports names. -/
def useTreesNames : List UseTree → List Ident
  | [] => []
  | t :: rest => t.names ++ useTreesNames rest

end

mutual

/-- Whether a type passes. -/
def Ty.passes (c : NameTest) (q : TypeTest) : Ty → Bool
  | .path path => q path.rooted (path.parts c q)
  | .qualified self role rest =>
    self.passes c q && rolePasses c q role && c.other (segmentsParts c q rest)
  | .reference _ _ target => target.passes c q
  | .pointer _ target => target.passes c q
  | .slice element => element.passes c q
  | .array element length => element.passes c q && length.passes c q
  | .tuple elements _ => typesPass c q elements
  | .paren inner => inner.passes c q
  | .never => true
  | .infer => true
  | .function binder _ params _ result =>
    binderPasses c q binder && fieldsPass c q params && typePasses? c q result
  | .object _ bounds _ => boundsPass c q bounds
  | .bounded bounds _ => boundsPass c q bounds
  | .invocation call => call.passes c
  | .variadic => true
  | .raw tokens => c.tokens tokens

/-- Whether types pass. -/
def typesPass (c : NameTest) (q : TypeTest) : List Ty → Bool
  | [] => true
  | s :: rest => s.passes c q && typesPass c q rest

/-- Whether a type that may be absent passes. -/
def typePasses? (c : NameTest) (q : TypeTest) : Option Ty → Bool
  | none => true
  | some s => s.passes c q

/-- The names of a path, each with whether its arguments pass. -/
def Path.parts (c : NameTest) (q : TypeTest) : Path → List (Ident × Bool)
  | ⟨_, segments⟩ => segmentsParts c q segments

/-- Whether the trait that a path is below passes. -/
def rolePasses (c : NameTest) (q : TypeTest) : Option Path → Bool
  | none => true
  | some path => c.other (path.parts c q)

/-- The names of segments, each with whether its arguments pass. -/
def segmentsParts (c : NameTest) (q : TypeTest) : List Segment → List (Ident × Bool)
  | [] => []
  | s :: rest => s.part c q :: segmentsParts c q rest

/-- The name of a segment, with whether its arguments pass. -/
def Segment.part (c : NameTest) (q : TypeTest) : Segment → Ident × Bool
  | ⟨name, args⟩ => (name, args.passes c q)

/-- Whether the arguments of a segment pass. -/
def Arguments.passes (c : NameTest) (q : TypeTest) : Arguments → Bool
  | .none => true
  | .angled _ args _ => argumentsPass c q args
  | .called inputs _ result => typesPass c q inputs && typePasses? c q result

/-- Whether arguments in angle brackets pass. -/
def argumentsPass (c : NameTest) (q : TypeTest) : List Argument → Bool
  | [] => true
  | a :: rest => a.passes c q && argumentsPass c q rest

/-- Whether an argument in angle brackets passes. -/
def Argument.passes (c : NameTest) (q : TypeTest) : Argument → Bool
  | .lifetime _ => true
  | .type type => type.passes c q
  | .const value => value.passes c q
  | .assocType _ args type => args.passes c q && type.passes c q
  | .assocConst _ args value => args.passes c q && value.passes c q
  | .constraint _ args bounds _ => args.passes c q && boundsPass c q bounds

/-- Whether bounds pass. -/
def boundsPass (c : NameTest) (q : TypeTest) : List Bound → Bool
  | [] => true
  | b :: rest => b.passes c q && boundsPass c q rest

/-- Whether a bound passes. -/
def Bound.passes (c : NameTest) (q : TypeTest) : Bound → Bool
  | .lifetime _ => true
  | .trait _ binder _ path => binderPasses c q binder && c.other (path.parts c q)
  | .capture params _ => c.other (bareParts (params.filterMap CapturedParam.name?))
  | .raw tokens => c.tokens tokens

/-- Whether bound parameters pass. -/
def binderPasses (c : NameTest) (q : TypeTest) : Option Generics → Bool
  | none => true
  | some binder => binder.passes c q

/-- Whether generic parameters pass. -/
def paramsPass (c : NameTest) (q : TypeTest) : List GenericParam → Bool
  | [] => true
  | p :: rest => p.passes c q && paramsPass c q rest

/-- Whether a generic parameter passes. -/
def GenericParam.passes (c : NameTest) (q : TypeTest) : GenericParam → Bool
  | .lifetime attributes _ _ _ => attributesPass c q attributes
  | .type attributes _ bounds _ default =>
    attributesPass c q attributes && boundsPass c q bounds && typePasses? c q default
  | .const attributes _ type default =>
    attributesPass c q attributes && type.passes c q && exprPasses? c q default

/-- Whether the predicates of a where clause pass. -/
def predicatesPass (c : NameTest) (q : TypeTest) : List Predicate → Bool
  | [] => true
  | p :: rest => p.passes c q && predicatesPass c q rest

/-- Whether a predicate of a where clause passes. -/
def Predicate.passes (c : NameTest) (q : TypeTest) : Predicate → Bool
  | .lifetime .. => true
  | .type binder type bounds _ =>
    binderPasses c q binder && type.passes c q && boundsPass c q bounds

/-- Whether generic parameters and their where clause pass. -/
def Generics.passes (c : NameTest) (q : TypeTest) : Generics → Bool
  | ⟨params, _, predicates, _⟩ => paramsPass c q params && predicatesPass c q predicates

/-- Whether attributes pass. -/
def attributesPass (c : NameTest) (q : TypeTest) : List Attribute → Bool
  | [] => true
  | a :: rest => a.passes c q && attributesPass c q rest

/-- Whether an attribute passes. -/
def Attribute.passes (c : NameTest) (q : TypeTest) : Attribute → Bool
  | .bare head => head.passes c
  | .list head _ content _ => head.passes c && c.tokens content
  | .value head _ value => head.passes c && value.passes c q

/-- Whether an expression passes. -/
def Expr.passes (c : NameTest) (q : TypeTest) : Expr → Bool
  | .attributed attributes inner => attributesPass c q attributes && inner.passes c q
  | .literal _ => true
  | .path path => c.other (path.parts c q)
  | .qualified self role rest =>
    self.passes c q && rolePasses c q role && c.other (segmentsParts c q rest)
  | .invocation call => call.passes c
  | .unary _ operand => operand.passes c q
  | .binary left _ right => left.passes c q && right.passes c q
  | .cast operand type => operand.passes c q && type.passes c q
  | .reference _ operand => operand.passes c q
  | .address _ operand => operand.passes c q
  | .paren inner => inner.passes c q
  | .tuple elements _ => exprsPass c q elements
  | .array elements _ => exprsPass c q elements
  | .repeated element length => element.passes c q && length.passes c q
  | .call function args _ => function.passes c q && exprsPass c q args
  | .method receiver _ generics args _ =>
    receiver.passes c q && generics.passes c q && exprsPass c q args
  | .field base _ => base.passes c q
  | .index base position => base.passes c q && position.passes c q
  | .await base => base.passes c q
  | .propagate base => base.passes c q
  | .range start _ finish => exprPasses? c q start && exprPasses? c q finish
  | .struct path fields _ => path.passes c q && entriesPass c q fields
  | .block _ inner body => attributesPass c q inner && entriesPass c q body
  | .whileLoop _ condition body => condition.passes c q && body.passes c q
  | .forLoop _ pattern source body => pattern.passes c q && source.passes c q && body.passes c q
  | .conditional condition body otherwise =>
    condition.passes c q && body.passes c q && exprPasses? c q otherwise
  | .matching subject inner arms =>
    subject.passes c q && attributesPass c q inner && entriesPass c q arms
  | .closure binder _ params _ result body =>
    binderPasses c q binder && patternsPass c q params && typePasses? c q result && body.passes c q
  | .binding pattern value => pattern.passes c q && value.passes c q
  | .jump _ _ value => exprPasses? c q value
  | .infer => true
  | .raw tokens => c.tokens tokens

/-- Whether expressions pass. -/
def exprsPass (c : NameTest) (q : TypeTest) : List Expr → Bool
  | [] => true
  | e :: rest => e.passes c q && exprsPass c q rest

/-- Whether an expression that may be absent passes. -/
def exprPasses? (c : NameTest) (q : TypeTest) : Option Expr → Bool
  | none => true
  | some e => e.passes c q

/-- Whether what stands in braces passes. -/
def entriesPass (c : NameTest) (q : TypeTest) : List Entry → Bool
  | [] => true
  | e :: rest => e.passes c q && entriesPass c q rest

/-- Whether one of the things in braces passes. -/
def Entry.passes (c : NameTest) (q : TypeTest) : Entry → Bool
  | .field attributes _ _ value => attributesPass c q attributes && value.passes c q
  | .rest value => exprPasses? c q value
  | .arm attributes pattern guard body _ =>
    attributesPass c q attributes && pattern.passes c q && exprPasses? c q guard && body.passes c q
  | .empty => true
  | .declare attributes pattern value otherwise =>
    attributesPass c q attributes && pattern.passes c q && exprPasses? c q value
      && exprPasses? c q otherwise
  | .item item => item.passes c q
  | .expr value _ => value.passes c q
  | .invocation attributes call _ => attributesPass c q attributes && call.passes c

/-- Whether a pattern passes. -/
def Pattern.passes (c : NameTest) (q : TypeTest) : Pattern → Bool
  | .attributed attributes inner => attributesPass c q attributes && inner.passes c q
  | .value value => value.passes c q
  | .ident .. => true
  | .bound _ _ _ inner => inner.passes c q
  | .invocation call => call.passes c
  | .alternatives _ cases => patternsPass c q cases
  | .paren inner => inner.passes c q
  | .reference _ target => target.passes c q
  | .rest => true
  | .wild => true
  | .range start _ finish => exprPasses? c q start && exprPasses? c q finish
  | .slice elements _ => patternsPass c q elements
  | .tuple elements _ => patternsPass c q elements
  | .struct path fields _ => path.passes c q && patternsPass c q fields
  | .field _ pattern => pattern.passes c q
  | .called path elements _ => path.passes c q && patternsPass c q elements
  | .typed pattern type => pattern.passes c q && type.passes c q
  | .receiver _ _ _ _ type => type.passes c q
  | .variadic => true
  | .raw tokens => c.tokens tokens

/-- Whether patterns pass. -/
def patternsPass (c : NameTest) (q : TypeTest) : List Pattern → Bool
  | [] => true
  | p :: rest => p.passes c q && patternsPass c q rest

/-- Whether fields pass. -/
def fieldsPass (c : NameTest) (q : TypeTest) : List Field → Bool
  | [] => true
  | g :: rest => g.passes c q && fieldsPass c q rest

/-- Whether a field passes. -/
def Field.passes (c : NameTest) (q : TypeTest) : Field → Bool
  | ⟨attributes, visibility, _, _, type⟩ =>
    attributesPass c q attributes && visibility.passes c && type.passes c q

/-- Whether a struct passes. -/
def Struct.passes (c : NameTest) (q : TypeTest) : Struct → Bool
  | ⟨attributes, visibility, _, _, generics, _, fields, _⟩ =>
    attributesPass c q attributes && visibility.passes c && generics.passes c q
      && fieldsPass c q fields

/-- Whether variants pass. -/
def variantsPass (c : NameTest) (q : TypeTest) : List Variant → Bool
  | [] => true
  | v :: rest => v.passes c q && variantsPass c q rest

/-- Whether a variant passes. -/
def Variant.passes (c : NameTest) (q : TypeTest) : Variant → Bool
  | ⟨attributes, _, _, fields, _, value⟩ =>
    attributesPass c q attributes && fieldsPass c q fields && exprPasses? c q value

/-- Whether an item passes. -/
def Item.passes (c : NameTest) (q : TypeTest) : Item → Bool
  | .const attributes visibility _ _ _ type value =>
    attributesPass c q attributes && visibility.passes c && type.passes c q && exprPasses? c q value
  | .static attributes visibility _ _ type value =>
    attributesPass c q attributes && visibility.passes c && type.passes c q && exprPasses? c q value
  | .typeAlias attributes visibility _ _ _ generics bounds _ type =>
    attributesPass c q attributes && visibility.passes c && generics.passes c q
      && boundsPass c q bounds && typePasses? c q type
  | .function attributes visibility _ _ generics params _ result body =>
    attributesPass c q attributes && visibility.passes c && generics.passes c q
      && patternsPass c q params && typePasses? c q result && exprPasses? c q body
  | .invocation attributes call _ => attributesPass c q attributes && call.passes c
  | .struct value => value.passes c q
  | .enum attributes visibility _ generics variants _ =>
    attributesPass c q attributes && visibility.passes c && generics.passes c q
      && variantsPass c q variants
  | .union attributes visibility _ generics fields _ =>
    attributesPass c q attributes && visibility.passes c && generics.passes c q
      && fieldsPass c q fields
  | .trait attributes visibility _ _ _ generics bounds _ inner items =>
    attributesPass c q attributes && visibility.passes c && generics.passes c q
      && boundsPass c q bounds && attributesPass c q inner && itemsPass c q items
  | .traitAlias attributes visibility _ generics bounds _ =>
    attributesPass c q attributes && visibility.passes c && generics.passes c q
      && boundsPass c q bounds
  | .implementation attributes _ _ generics _ role self inner items =>
    attributesPass c q attributes && generics.passes c q && rolePasses c q role && self.passes c q
      && attributesPass c q inner && itemsPass c q items
  | .module attributes visibility _ _ inner items =>
    attributesPass c q attributes && visibility.passes c && attributesPass c q inner
      && itemsPass c q items
  | .outlineModule attributes visibility _ _ => attributesPass c q attributes && visibility.passes c
  | .foreign attributes _ _ inner items =>
    attributesPass c q attributes && attributesPass c q inner && itemsPass c q items
  | .externCrate attributes visibility _ _ => attributesPass c q attributes && visibility.passes c
  | .use attributes visibility _ tree =>
    attributesPass c q attributes && visibility.passes c && c.other (bareParts tree.names)
  | .raw tokens => c.tokens tokens

/-- Whether items pass. -/
def itemsPass (c : NameTest) (q : TypeTest) : List Item → Bool
  | [] => true
  | item :: rest => item.passes c q && itemsPass c q rest

end

/-! ### Substitution -/

/-- What a substitution makes of a path that is a type does in one test as the path itself does in
another. -/
def Answers (f : Path → Ty) (c : NameTest) (q q' : TypeTest) : Prop :=
  ∀ path, (f path).passes c q = q' path.rooted (path.parts c q)

theorem Path.rooted_subst (f : Path → Ty) (path : Path) :
    (path.subst f).rooted = path.rooted := by
  cases path with
  | mk rooted segments => rfl

section

variable {f : Path → Ty} {c : NameTest} {q q' : TypeTest}

mutual

/-- A tree that a substitution makes does in one test as the tree itself does in the other. -/
theorem Ty.passes_subst (h : Answers f c q q') : ∀ t : Ty, (t.subst f).passes c q = t.passes c q'
  | .path path => by
    have hparts := Path.parts_subst h path
    change (f (path.subst f)).passes c q = q' path.rooted (path.parts c q')
    rw [h, hparts, Path.rooted_subst]
  | .qualified self role rest =>
    congrArg₂ and (congrArg₂ and (Ty.passes_subst h self) (rolePasses_subst h role)) (congrArg
      c.other (segmentsParts_subst h rest))
  | .reference _ _ target => Ty.passes_subst h target
  | .pointer _ target => Ty.passes_subst h target
  | .slice element => Ty.passes_subst h element
  | .array element length => congrArg₂ and (Ty.passes_subst h element) (Expr.passes_subst h length)
  | .tuple elements _ => typesPass_subst h elements
  | .paren inner => Ty.passes_subst h inner
  | .never => rfl
  | .infer => rfl
  | .function binder _ params _ result =>
    congrArg₂ and (congrArg₂ and (binderPasses_subst h binder) (fieldsPass_subst h params))
      (typePasses?_subst h result)
  | .object _ bounds _ => boundsPass_subst h bounds
  | .bounded bounds _ => boundsPass_subst h bounds
  | .invocation .. => rfl
  | .variadic => rfl
  | .raw .. => rfl

theorem typesPass_subst (h : Answers f c q q') :
    ∀ ts : List Ty, typesPass c q (substTypes f ts) = typesPass c q' ts
  | [] => rfl
  | s :: rest => congrArg₂ and (Ty.passes_subst h s) (typesPass_subst h rest)

theorem typePasses?_subst (h : Answers f c q q') :
    ∀ ts : Option Ty, typePasses? c q (substType? f ts) = typePasses? c q' ts
  | none => rfl
  | some s => Ty.passes_subst h s

theorem Path.parts_subst (h : Answers f c q q') :
    ∀ path : Path, (path.subst f).parts c q = path.parts c q'
  | ⟨_, segments⟩ => segmentsParts_subst h segments

theorem rolePasses_subst (h : Answers f c q q') :
    ∀ ts : Option Path, rolePasses c q (substRole f ts) = rolePasses c q' ts
  | none => rfl
  | some path => congrArg c.other (Path.parts_subst h path)

theorem segmentsParts_subst (h : Answers f c q q') :
    ∀ segments : List Segment, segmentsParts c q (substSegments f segments) =
      segmentsParts c q' segments
  | [] => rfl
  | s :: rest => congrArg₂ List.cons (Segment.part_subst h s) (segmentsParts_subst h rest)

theorem Segment.part_subst (h : Answers f c q q') :
    ∀ s : Segment, (s.subst f).part c q = s.part c q'
  | ⟨_, args⟩ => congrArg (Prod.mk _) (Arguments.passes_subst h args)

theorem Arguments.passes_subst (h : Answers f c q q') :
    ∀ t : Arguments, (t.subst f).passes c q = t.passes c q'
  | .none => rfl
  | .angled _ args _ => argumentsPass_subst h args
  | .called inputs _ result => congrArg₂ and (typesPass_subst h inputs) (typePasses?_subst h result)

theorem argumentsPass_subst (h : Answers f c q q') :
    ∀ ts : List Argument, argumentsPass c q (substArguments f ts) = argumentsPass c q' ts
  | [] => rfl
  | a :: rest => congrArg₂ and (Argument.passes_subst h a) (argumentsPass_subst h rest)

theorem Argument.passes_subst (h : Answers f c q q') :
    ∀ t : Argument, (t.subst f).passes c q = t.passes c q'
  | .lifetime .. => rfl
  | .type type => Ty.passes_subst h type
  | .const value => Expr.passes_subst h value
  | .assocType _ args type => congrArg₂ and (Arguments.passes_subst h args) (Ty.passes_subst h type)
  | .assocConst _ args value =>
    congrArg₂ and (Arguments.passes_subst h args) (Expr.passes_subst h value)
  | .constraint _ args bounds _ =>
    congrArg₂ and (Arguments.passes_subst h args) (boundsPass_subst h bounds)

theorem boundsPass_subst (h : Answers f c q q') :
    ∀ ts : List Bound, boundsPass c q (substBounds f ts) = boundsPass c q' ts
  | [] => rfl
  | b :: rest => congrArg₂ and (Bound.passes_subst h b) (boundsPass_subst h rest)

theorem Bound.passes_subst (h : Answers f c q q') :
    ∀ t : Bound, (t.subst f).passes c q = t.passes c q'
  | .lifetime .. => rfl
  | .trait _ binder _ path =>
    congrArg₂ and (binderPasses_subst h binder) (congrArg c.other (Path.parts_subst h path))
  | .capture .. => rfl
  | .raw .. => rfl

theorem binderPasses_subst (h : Answers f c q q') :
    ∀ ts : Option Generics, binderPasses c q (substBinder f ts) = binderPasses c q' ts
  | none => rfl
  | some binder => Generics.passes_subst h binder

theorem paramsPass_subst (h : Answers f c q q') :
    ∀ ts : List GenericParam, paramsPass c q (substParams f ts) = paramsPass c q' ts
  | [] => rfl
  | p :: rest => congrArg₂ and (GenericParam.passes_subst h p) (paramsPass_subst h rest)

theorem GenericParam.passes_subst (h : Answers f c q q') :
    ∀ t : GenericParam, (t.subst f).passes c q = t.passes c q'
  | .lifetime attributes _ _ _ => attributesPass_subst h attributes
  | .type attributes _ bounds _ default =>
    congrArg₂ and (congrArg₂ and (attributesPass_subst h attributes) (boundsPass_subst h bounds))
      (typePasses?_subst h default)
  | .const attributes _ type default =>
    congrArg₂ and (congrArg₂ and (attributesPass_subst h attributes) (Ty.passes_subst h type))
      (exprPasses?_subst h default)

theorem predicatesPass_subst (h : Answers f c q q') :
    ∀ ts : List Predicate, predicatesPass c q (substPredicates f ts) = predicatesPass c q' ts
  | [] => rfl
  | p :: rest => congrArg₂ and (Predicate.passes_subst h p) (predicatesPass_subst h rest)

theorem Predicate.passes_subst (h : Answers f c q q') :
    ∀ t : Predicate, (t.subst f).passes c q = t.passes c q'
  | .lifetime .. => rfl
  | .type binder type bounds _ =>
    congrArg₂ and (congrArg₂ and (binderPasses_subst h binder) (Ty.passes_subst h type))
      (boundsPass_subst h bounds)

theorem Generics.passes_subst (h : Answers f c q q') :
    ∀ t : Generics, (t.subst f).passes c q = t.passes c q'
  | ⟨params, _, predicates, _⟩ =>
    congrArg₂ and (paramsPass_subst h params) (predicatesPass_subst h predicates)

theorem attributesPass_subst (h : Answers f c q q') :
    ∀ ts : List Attribute, attributesPass c q (substAttributes f ts) = attributesPass c q' ts
  | [] => rfl
  | a :: rest => congrArg₂ and (Attribute.passes_subst h a) (attributesPass_subst h rest)

theorem Attribute.passes_subst (h : Answers f c q q') :
    ∀ t : Attribute, (t.subst f).passes c q = t.passes c q'
  | .bare .. => rfl
  | .list .. => rfl
  | .value _ _ value => congrArg₂ and rfl (Expr.passes_subst h value)

theorem Expr.passes_subst (h : Answers f c q q') :
    ∀ t : Expr, (t.subst f).passes c q = t.passes c q'
  | .attributed attributes inner =>
    congrArg₂ and (attributesPass_subst h attributes) (Expr.passes_subst h inner)
  | .literal .. => rfl
  | .path path => congrArg c.other (Path.parts_subst h path)
  | .qualified self role rest =>
    congrArg₂ and (congrArg₂ and (Ty.passes_subst h self) (rolePasses_subst h role)) (congrArg
      c.other (segmentsParts_subst h rest))
  | .invocation .. => rfl
  | .unary _ operand => Expr.passes_subst h operand
  | .binary left _ right => congrArg₂ and (Expr.passes_subst h left) (Expr.passes_subst h right)
  | .cast operand type => congrArg₂ and (Expr.passes_subst h operand) (Ty.passes_subst h type)
  | .reference _ operand => Expr.passes_subst h operand
  | .address _ operand => Expr.passes_subst h operand
  | .paren inner => Expr.passes_subst h inner
  | .tuple elements _ => exprsPass_subst h elements
  | .array elements _ => exprsPass_subst h elements
  | .repeated element length =>
    congrArg₂ and (Expr.passes_subst h element) (Expr.passes_subst h length)
  | .call function args _ => congrArg₂ and (Expr.passes_subst h function) (exprsPass_subst h args)
  | .method receiver _ generics args _ =>
    congrArg₂ and (congrArg₂ and (Expr.passes_subst h receiver) (Arguments.passes_subst h
      generics)) (exprsPass_subst h args)
  | .field base _ => Expr.passes_subst h base
  | .index base position => congrArg₂ and (Expr.passes_subst h base) (Expr.passes_subst h position)
  | .await base => Expr.passes_subst h base
  | .propagate base => Expr.passes_subst h base
  | .range start _ finish => congrArg₂ and (exprPasses?_subst h start) (exprPasses?_subst h finish)
  | .struct path fields _ => congrArg₂ and (Expr.passes_subst h path) (entriesPass_subst h fields)
  | .block _ inner body => congrArg₂ and (attributesPass_subst h inner) (entriesPass_subst h body)
  | .whileLoop _ condition body =>
    congrArg₂ and (Expr.passes_subst h condition) (Expr.passes_subst h body)
  | .forLoop _ pattern source body =>
    congrArg₂ and (congrArg₂ and (Pattern.passes_subst h pattern) (Expr.passes_subst h source))
      (Expr.passes_subst h body)
  | .conditional condition body otherwise =>
    congrArg₂ and (congrArg₂ and (Expr.passes_subst h condition) (Expr.passes_subst h body))
      (exprPasses?_subst h otherwise)
  | .matching subject inner arms =>
    congrArg₂ and (congrArg₂ and (Expr.passes_subst h subject) (attributesPass_subst h inner))
      (entriesPass_subst h arms)
  | .closure binder _ params _ result body =>
    congrArg₂ and (congrArg₂ and (congrArg₂ and (binderPasses_subst h binder) (patternsPass_subst
      h params)) (typePasses?_subst h result)) (Expr.passes_subst h body)
  | .binding pattern value =>
    congrArg₂ and (Pattern.passes_subst h pattern) (Expr.passes_subst h value)
  | .jump _ _ value => exprPasses?_subst h value
  | .infer => rfl
  | .raw .. => rfl

theorem exprsPass_subst (h : Answers f c q q') :
    ∀ ts : List Expr, exprsPass c q (substExprs f ts) = exprsPass c q' ts
  | [] => rfl
  | e :: rest => congrArg₂ and (Expr.passes_subst h e) (exprsPass_subst h rest)

theorem exprPasses?_subst (h : Answers f c q q') :
    ∀ ts : Option Expr, exprPasses? c q (substExpr? f ts) = exprPasses? c q' ts
  | none => rfl
  | some e => Expr.passes_subst h e

theorem entriesPass_subst (h : Answers f c q q') :
    ∀ ts : List Entry, entriesPass c q (substEntries f ts) = entriesPass c q' ts
  | [] => rfl
  | e :: rest => congrArg₂ and (Entry.passes_subst h e) (entriesPass_subst h rest)

theorem Entry.passes_subst (h : Answers f c q q') :
    ∀ t : Entry, (t.subst f).passes c q = t.passes c q'
  | .field attributes _ _ value =>
    congrArg₂ and (attributesPass_subst h attributes) (Expr.passes_subst h value)
  | .rest value => exprPasses?_subst h value
  | .arm attributes pattern guard body _ =>
    congrArg₂ and (congrArg₂ and (congrArg₂ and (attributesPass_subst h attributes)
      (Pattern.passes_subst h pattern)) (exprPasses?_subst h guard)) (Expr.passes_subst h body)
  | .empty => rfl
  | .declare attributes pattern value otherwise =>
    congrArg₂ and (congrArg₂ and (congrArg₂ and (attributesPass_subst h attributes)
      (Pattern.passes_subst h pattern)) (exprPasses?_subst h value)) (exprPasses?_subst h
      otherwise)
  | .item item => Item.passes_subst h item
  | .expr value _ => Expr.passes_subst h value
  | .invocation attributes _ _ => congrArg₂ and (attributesPass_subst h attributes) rfl

theorem Pattern.passes_subst (h : Answers f c q q') :
    ∀ t : Pattern, (t.subst f).passes c q = t.passes c q'
  | .attributed attributes inner =>
    congrArg₂ and (attributesPass_subst h attributes) (Pattern.passes_subst h inner)
  | .value value => Expr.passes_subst h value
  | .ident .. => rfl
  | .bound _ _ _ inner => Pattern.passes_subst h inner
  | .invocation .. => rfl
  | .alternatives _ cases => patternsPass_subst h cases
  | .paren inner => Pattern.passes_subst h inner
  | .reference _ target => Pattern.passes_subst h target
  | .rest => rfl
  | .wild => rfl
  | .range start _ finish => congrArg₂ and (exprPasses?_subst h start) (exprPasses?_subst h finish)
  | .slice elements _ => patternsPass_subst h elements
  | .tuple elements _ => patternsPass_subst h elements
  | .struct path fields _ => congrArg₂ and (Expr.passes_subst h path) (patternsPass_subst h fields)
  | .field _ pattern => Pattern.passes_subst h pattern
  | .called path elements _ =>
    congrArg₂ and (Expr.passes_subst h path) (patternsPass_subst h elements)
  | .typed pattern type => congrArg₂ and (Pattern.passes_subst h pattern) (Ty.passes_subst h type)
  | .receiver _ _ _ _ type => Ty.passes_subst h type
  | .variadic => rfl
  | .raw .. => rfl

theorem patternsPass_subst (h : Answers f c q q') :
    ∀ ts : List Pattern, patternsPass c q (substPatterns f ts) = patternsPass c q' ts
  | [] => rfl
  | p :: rest => congrArg₂ and (Pattern.passes_subst h p) (patternsPass_subst h rest)

theorem fieldsPass_subst (h : Answers f c q q') :
    ∀ ts : List Field, fieldsPass c q (substFields f ts) = fieldsPass c q' ts
  | [] => rfl
  | g :: rest => congrArg₂ and (Field.passes_subst h g) (fieldsPass_subst h rest)

theorem Field.passes_subst (h : Answers f c q q') :
    ∀ t : Field, (t.subst f).passes c q = t.passes c q'
  | ⟨attributes, _, _, _, type⟩ =>
    congrArg₂ and (congrArg₂ and (attributesPass_subst h attributes) rfl) (Ty.passes_subst h type)

theorem Struct.passes_subst (h : Answers f c q q') :
    ∀ t : Struct, (t.subst f).passes c q = t.passes c q'
  | ⟨attributes, _, _, _, generics, _, fields, _⟩ =>
    congrArg₂ and (congrArg₂ and (congrArg₂ and (attributesPass_subst h attributes) rfl)
      (Generics.passes_subst h generics)) (fieldsPass_subst h fields)

theorem variantsPass_subst (h : Answers f c q q') :
    ∀ ts : List Variant, variantsPass c q (substVariants f ts) = variantsPass c q' ts
  | [] => rfl
  | v :: rest => congrArg₂ and (Variant.passes_subst h v) (variantsPass_subst h rest)

theorem Variant.passes_subst (h : Answers f c q q') :
    ∀ t : Variant, (t.subst f).passes c q = t.passes c q'
  | ⟨attributes, _, _, fields, _, value⟩ =>
    congrArg₂ and (congrArg₂ and (attributesPass_subst h attributes) (fieldsPass_subst h fields))
      (exprPasses?_subst h value)

theorem Item.passes_subst (h : Answers f c q q') :
    ∀ t : Item, (t.subst f).passes c q = t.passes c q'
  | .const attributes _ _ _ _ type value =>
    congrArg₂ and (congrArg₂ and (congrArg₂ and (attributesPass_subst h attributes) rfl)
      (Ty.passes_subst h type)) (exprPasses?_subst h value)
  | .static attributes _ _ _ type value =>
    congrArg₂ and (congrArg₂ and (congrArg₂ and (attributesPass_subst h attributes) rfl)
      (Ty.passes_subst h type)) (exprPasses?_subst h value)
  | .typeAlias attributes _ _ _ _ generics bounds _ type =>
    congrArg₂ and (congrArg₂ and (congrArg₂ and (congrArg₂ and (attributesPass_subst h attributes)
      rfl) (Generics.passes_subst h generics)) (boundsPass_subst h bounds)) (typePasses?_subst h
      type)
  | .function attributes _ _ _ generics params _ result body =>
    congrArg₂ and (congrArg₂ and (congrArg₂ and (congrArg₂ and (congrArg₂ and
      (attributesPass_subst h attributes) rfl) (Generics.passes_subst h generics))
      (patternsPass_subst h params)) (typePasses?_subst h result)) (exprPasses?_subst h body)
  | .invocation attributes _ _ => congrArg₂ and (attributesPass_subst h attributes) rfl
  | .struct value => Struct.passes_subst h value
  | .enum attributes _ _ generics variants _ =>
    congrArg₂ and (congrArg₂ and (congrArg₂ and (attributesPass_subst h attributes) rfl)
      (Generics.passes_subst h generics)) (variantsPass_subst h variants)
  | .union attributes _ _ generics fields _ =>
    congrArg₂ and (congrArg₂ and (congrArg₂ and (attributesPass_subst h attributes) rfl)
      (Generics.passes_subst h generics)) (fieldsPass_subst h fields)
  | .trait attributes _ _ _ _ generics bounds _ inner items =>
    congrArg₂ and (congrArg₂ and (congrArg₂ and (congrArg₂ and (congrArg₂ and
      (attributesPass_subst h attributes) rfl) (Generics.passes_subst h generics))
      (boundsPass_subst h bounds)) (attributesPass_subst h inner)) (itemsPass_subst h items)
  | .traitAlias attributes _ _ generics bounds _ =>
    congrArg₂ and (congrArg₂ and (congrArg₂ and (attributesPass_subst h attributes) rfl)
      (Generics.passes_subst h generics)) (boundsPass_subst h bounds)
  | .implementation attributes _ _ generics _ role self inner items =>
    congrArg₂ and (congrArg₂ and (congrArg₂ and (congrArg₂ and (congrArg₂ and
      (attributesPass_subst h attributes) (Generics.passes_subst h generics)) (rolePasses_subst h
      role)) (Ty.passes_subst h self)) (attributesPass_subst h inner)) (itemsPass_subst h items)
  | .module attributes _ _ _ inner items =>
    congrArg₂ and (congrArg₂ and (congrArg₂ and (attributesPass_subst h attributes) rfl)
      (attributesPass_subst h inner)) (itemsPass_subst h items)
  | .outlineModule attributes _ _ _ => congrArg₂ and (attributesPass_subst h attributes) rfl
  | .foreign attributes _ _ inner items =>
    congrArg₂ and (congrArg₂ and (attributesPass_subst h attributes) (attributesPass_subst h
      inner)) (itemsPass_subst h items)
  | .externCrate attributes _ _ _ => congrArg₂ and (attributesPass_subst h attributes) rfl
  | .use attributes _ _ _ =>
    congrArg₂ and (congrArg₂ and (attributesPass_subst h attributes) rfl) rfl
  | .raw .. => rfl

theorem itemsPass_subst (h : Answers f c q q') :
    ∀ ts : List Item, itemsPass c q (substItems f ts) = itemsPass c q' ts
  | [] => rfl
  | item :: rest => congrArg₂ and (Item.passes_subst h item) (itemsPass_subst h rest)

end

end

end BuilderGen.Code
