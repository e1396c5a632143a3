import BuilderGen.Code.Tree.SelfType
import BuilderGen.Proofs.TreeNames

/-!
# Trees that a substitution leaves alone

A substitution that makes of each path that is a type in a tree the type that it is, leaves the whole
tree as it is. In particular, to replace `Self` changes nothing where no type starts with it.
-/

namespace BuilderGen.Code

/-- Whether all arguments in a path pass. -/
def partsPass (parts : List (Ident × Bool)) : Bool := parts.all (·.2)

/-- A substitution keeps the paths that pass a test for types, and the tests for the names of a path
ask all of its arguments to pass. -/
structure Keeps (f : Path → Ty) (c : NameTest) (q : TypeTest) : Prop where
  /-- A path that passes stays the type that it is. -/
  type : ∀ path, q path.rooted (path.parts c q) = true → f path = .path path
  /-- The arguments of a type pass with it. -/
  arguments : ∀ rooted parts, q rooted parts = true → partsPass parts = true
  /-- The arguments of any other path pass with it. -/
  other : ∀ parts, c.other parts = true → partsPass parts = true

/-! ### Parts that are the same -/

/-- Two things are the same if a test passes. -/
def SameIf {α : Type} (b : Bool) (x y : α) : Prop := b = true → x = y

namespace SameIf

variable {α β : Type} {b b' : Bool} {x y : α}

/-- What is made of the same is the same. -/
theorem map (h : SameIf b x y) (g : α → β) : SameIf b (g x) (g y) := fun hb =>
  congrArg g (h hb)

/-- What is made of several parts is the same if the tests of all parts pass. -/
theorem app {g g' : α → β} (hg : SameIf b g g') (hx : SameIf b' x y) :
    SameIf (b && b') (g x) (g' y) := fun hb => by
  obtain ⟨hb, hb'⟩ := Bool.and_eq_true_iff.mp hb
  rw [hg hb, hx hb']

/-- A test may ask for more. -/
theorem of (h : SameIf b x y) (hb : b' = true → b = true) : SameIf b' x y := fun hb' => h (hb hb')

theorem right (h : SameIf b x y) : SameIf (b && b') x y :=
  h.of fun hb => (Bool.and_eq_true_iff.mp hb).1

theorem left (h : SameIf b x y) : SameIf (b' && b) x y :=
  h.of fun hb => (Bool.and_eq_true_iff.mp hb).2

end SameIf

/-! ### Trees -/

section

variable {f : Path → Ty} {c : NameTest} {q : TypeTest}

mutual

/-- A tree is left alone if it passes. -/
theorem Ty.subst_eq (h : Keeps f c q) : ∀ t : Ty, SameIf (t.passes c q) (t.subst f) t
  | .path path => fun hpath => by
    change f (path.subst f) = _
    rw [Path.subst_eq h path (h.arguments _ _ hpath), h.type path hpath]
  | .qualified self role rest =>
    (Ty.subst_eq h self |>.map Ty.qualified |>.app (substRole_eq h role)
      |>.app (substSegments_eq h rest |>.of (h.other _)) :)
  | .reference lifetime isMut target =>
    (Ty.subst_eq h target |>.map (Ty.reference lifetime isMut) :)
  | .pointer isMut target => (Ty.subst_eq h target |>.map (Ty.pointer isMut) :)
  | .slice element => (Ty.subst_eq h element |>.map Ty.slice :)
  | .array element length =>
    (Ty.subst_eq h element |>.map Ty.array |>.app (Expr.subst_eq h length) :)
  | .tuple elements trailing => (substTypes_eq h elements |>.map (Ty.tuple · trailing) :)
  | .paren inner => (Ty.subst_eq h inner |>.map Ty.paren :)
  | .never => fun _ => rfl
  | .infer => fun _ => rfl
  | .function binder head params trailing result =>
    (substBinder_eq h binder |>.map (Ty.function · head · trailing ·)
      |>.app (substFields_eq h params) |>.app (substType?_eq h result) :)
  | .object keyword bounds trailing =>
    (substBounds_eq h bounds |>.map (Ty.object keyword · trailing) :)
  | .bounded bounds trailing => (substBounds_eq h bounds |>.map (Ty.bounded · trailing) :)
  | .invocation .. => fun _ => rfl
  | .variadic => fun _ => rfl
  | .raw .. => fun _ => rfl

theorem substTypes_eq (h : Keeps f c q) :
    ∀ ts : List Ty, SameIf (typesPass c q ts) (substTypes f ts) ts
  | [] => fun _ => rfl
  | s :: rest => (Ty.subst_eq h s |>.map List.cons |>.app (substTypes_eq h rest) :)

theorem substType?_eq (h : Keeps f c q) :
    ∀ ts : Option Ty, SameIf (typePasses? c q ts) (substType? f ts) ts
  | none => fun _ => rfl
  | some s => (Ty.subst_eq h s |>.map some :)

theorem Path.subst_eq (h : Keeps f c q) :
    ∀ path : Path, SameIf (partsPass (path.parts c q)) (path.subst f) path
  | ⟨rooted, segments⟩ => (substSegments_eq h segments |>.map (Path.mk rooted) :)

theorem substRole_eq (h : Keeps f c q) :
    ∀ ts : Option Path, SameIf (rolePasses c q ts) (substRole f ts) ts
  | none => fun _ => rfl
  | some path => (Path.subst_eq h path |>.of (h.other _) |>.map some :)

theorem substSegments_eq (h : Keeps f c q) :
    ∀ ts : List Segment, SameIf (partsPass (segmentsParts c q ts)) (substSegments f ts) ts
  | [] => fun _ => rfl
  | s :: rest => (Segment.subst_eq h s |>.map List.cons |>.app (substSegments_eq h rest) :)

theorem Segment.subst_eq (h : Keeps f c q) : ∀ s : Segment, SameIf (s.part c q).2 (s.subst f) s
  | ⟨name, args⟩ => (Arguments.subst_eq h args |>.map (Segment.mk name) :)

theorem Arguments.subst_eq (h : Keeps f c q) :
    ∀ t : Arguments, SameIf (t.passes c q) (t.subst f) t
  | .none => fun _ => rfl
  | .angled turbofish args trailing =>
    (substArguments_eq h args |>.map (Arguments.angled turbofish · trailing) :)
  | .called inputs trailing result =>
    (substTypes_eq h inputs |>.map (Arguments.called · trailing ·)
      |>.app (substType?_eq h result) :)

theorem substArguments_eq (h : Keeps f c q) :
    ∀ ts : List Argument, SameIf (argumentsPass c q ts) (substArguments f ts) ts
  | [] => fun _ => rfl
  | a :: rest => (Argument.subst_eq h a |>.map List.cons |>.app (substArguments_eq h rest) :)

theorem Argument.subst_eq (h : Keeps f c q) : ∀ t : Argument, SameIf (t.passes c q) (t.subst f) t
  | .lifetime .. => fun _ => rfl
  | .type type => (Ty.subst_eq h type |>.map Argument.type :)
  | .const value => (Expr.subst_eq h value |>.map Argument.const :)
  | .assocType name args type =>
    (Arguments.subst_eq h args |>.map (Argument.assocType name) |>.app (Ty.subst_eq h type) :)
  | .assocConst name args value =>
    (Arguments.subst_eq h args |>.map (Argument.assocConst name) |>.app (Expr.subst_eq h value) :)
  | .constraint name args bounds trailing =>
    (Arguments.subst_eq h args |>.map (Argument.constraint name · · trailing)
      |>.app (substBounds_eq h bounds) :)

theorem substBounds_eq (h : Keeps f c q) :
    ∀ ts : List Bound, SameIf (boundsPass c q ts) (substBounds f ts) ts
  | [] => fun _ => rfl
  | b :: rest => (Bound.subst_eq h b |>.map List.cons |>.app (substBounds_eq h rest) :)

theorem Bound.subst_eq (h : Keeps f c q) : ∀ t : Bound, SameIf (t.passes c q) (t.subst f) t
  | .lifetime .. => fun _ => rfl
  | .trait inParens binder relaxed path =>
    (substBinder_eq h binder |>.map (Bound.trait inParens · relaxed ·)
      |>.app (Path.subst_eq h path |>.of (h.other _)) :)
  | .capture .. => fun _ => rfl
  | .raw .. => fun _ => rfl

theorem substBinder_eq (h : Keeps f c q) :
    ∀ ts : Option Generics, SameIf (binderPasses c q ts) (substBinder f ts) ts
  | none => fun _ => rfl
  | some binder => (Generics.subst_eq h binder |>.map some :)

theorem substParams_eq (h : Keeps f c q) :
    ∀ ts : List GenericParam, SameIf (paramsPass c q ts) (substParams f ts) ts
  | [] => fun _ => rfl
  | p :: rest => (GenericParam.subst_eq h p |>.map List.cons |>.app (substParams_eq h rest) :)

theorem GenericParam.subst_eq (h : Keeps f c q) :
    ∀ t : GenericParam, SameIf (t.passes c q) (t.subst f) t
  | .lifetime attributes name bounds trailing =>
    (substAttributes_eq h attributes |>.map (GenericParam.lifetime · name bounds trailing) :)
  | .type attributes name bounds trailing default =>
    (substAttributes_eq h attributes |>.map (GenericParam.type · name · trailing ·)
      |>.app (substBounds_eq h bounds) |>.app (substType?_eq h default) :)
  | .const attributes name type default =>
    (substAttributes_eq h attributes |>.map (GenericParam.const · name · ·)
      |>.app (Ty.subst_eq h type) |>.app (substExpr?_eq h default) :)

theorem substPredicates_eq (h : Keeps f c q) :
    ∀ ts : List Predicate, SameIf (predicatesPass c q ts) (substPredicates f ts) ts
  | [] => fun _ => rfl
  | p :: rest => (Predicate.subst_eq h p |>.map List.cons |>.app (substPredicates_eq h rest) :)

theorem Predicate.subst_eq (h : Keeps f c q) :
    ∀ t : Predicate, SameIf (t.passes c q) (t.subst f) t
  | .lifetime .. => fun _ => rfl
  | .type binder type bounds trailing =>
    (substBinder_eq h binder |>.map (Predicate.type · · · trailing) |>.app (Ty.subst_eq h type)
      |>.app (substBounds_eq h bounds) :)

theorem Generics.subst_eq (h : Keeps f c q) : ∀ t : Generics, SameIf (t.passes c q) (t.subst f) t
  | ⟨params, trailing, predicates, predicatesTrailing⟩ =>
    (substParams_eq h params |>.map (Generics.mk · trailing · predicatesTrailing)
      |>.app (substPredicates_eq h predicates) :)

theorem substAttributes_eq (h : Keeps f c q) :
    ∀ ts : List Attribute, SameIf (attributesPass c q ts) (substAttributes f ts) ts
  | [] => fun _ => rfl
  | a :: rest => (Attribute.subst_eq h a |>.map List.cons |>.app (substAttributes_eq h rest) :)

theorem Attribute.subst_eq (h : Keeps f c q) :
    ∀ t : Attribute, SameIf (t.passes c q) (t.subst f) t
  | .bare .. => fun _ => rfl
  | .list .. => fun _ => rfl
  | .value head equals value =>
    (Expr.subst_eq h value |>.map (Attribute.value head equals) |>.left :)

theorem Expr.subst_eq (h : Keeps f c q) : ∀ t : Expr, SameIf (t.passes c q) (t.subst f) t
  | .attributed attributes inner =>
    (substAttributes_eq h attributes |>.map Expr.attributed |>.app (Expr.subst_eq h inner) :)
  | .literal .. => fun _ => rfl
  | .path path => (Path.subst_eq h path |>.of (h.other _) |>.map Expr.path :)
  | .qualified self role rest =>
    (Ty.subst_eq h self |>.map Expr.qualified |>.app (substRole_eq h role)
      |>.app (substSegments_eq h rest |>.of (h.other _)) :)
  | .invocation .. => fun _ => rfl
  | .unary operator operand => (Expr.subst_eq h operand |>.map (Expr.unary operator) :)
  | .binary left operator right =>
    (Expr.subst_eq h left |>.map (Expr.binary · operator ·) |>.app (Expr.subst_eq h right) :)
  | .cast operand type => (Expr.subst_eq h operand |>.map Expr.cast |>.app (Ty.subst_eq h type) :)
  | .reference isMut operand => (Expr.subst_eq h operand |>.map (Expr.reference isMut) :)
  | .address isMut operand => (Expr.subst_eq h operand |>.map (Expr.address isMut) :)
  | .paren inner => (Expr.subst_eq h inner |>.map Expr.paren :)
  | .tuple elements trailing => (substExprs_eq h elements |>.map (Expr.tuple · trailing) :)
  | .array elements trailing => (substExprs_eq h elements |>.map (Expr.array · trailing) :)
  | .repeated element length =>
    (Expr.subst_eq h element |>.map Expr.repeated |>.app (Expr.subst_eq h length) :)
  | .call function args trailing =>
    (Expr.subst_eq h function |>.map (Expr.call · · trailing) |>.app (substExprs_eq h args) :)
  | .method receiver name generics args trailing =>
    (Expr.subst_eq h receiver |>.map (Expr.method · name · · trailing)
      |>.app (Arguments.subst_eq h generics) |>.app (substExprs_eq h args) :)
  | .field base member => (Expr.subst_eq h base |>.map (Expr.field · member) :)
  | .index base position =>
    (Expr.subst_eq h base |>.map Expr.index |>.app (Expr.subst_eq h position) :)
  | .await base => (Expr.subst_eq h base |>.map Expr.await :)
  | .propagate base => (Expr.subst_eq h base |>.map Expr.propagate :)
  | .range start closed finish =>
    (substExpr?_eq h start |>.map (Expr.range · closed ·) |>.app (substExpr?_eq h finish) :)
  | .struct path fields trailing =>
    (Expr.subst_eq h path |>.map (Expr.struct · · trailing) |>.app (substEntries_eq h fields) :)
  | .block head inner body =>
    (substAttributes_eq h inner |>.map (Expr.block head) |>.app (substEntries_eq h body) :)
  | .whileLoop label condition body =>
    (Expr.subst_eq h condition |>.map (Expr.whileLoop label) |>.app (Expr.subst_eq h body) :)
  | .forLoop label pattern source body =>
    (Pattern.subst_eq h pattern |>.map (Expr.forLoop label) |>.app (Expr.subst_eq h source)
      |>.app (Expr.subst_eq h body) :)
  | .conditional condition body otherwise =>
    (Expr.subst_eq h condition |>.map Expr.conditional |>.app (Expr.subst_eq h body)
      |>.app (substExpr?_eq h otherwise) :)
  | .matching subject inner arms =>
    (Expr.subst_eq h subject |>.map Expr.matching |>.app (substAttributes_eq h inner)
      |>.app (substEntries_eq h arms) :)
  | .closure binder head params trailing result body =>
    (substBinder_eq h binder |>.map (Expr.closure · head · trailing · ·)
      |>.app (substPatterns_eq h params) |>.app (substType?_eq h result)
      |>.app (Expr.subst_eq h body) :)
  | .binding pattern value =>
    (Pattern.subst_eq h pattern |>.map Expr.binding |>.app (Expr.subst_eq h value) :)
  | .jump kind label value => (substExpr?_eq h value |>.map (Expr.jump kind label) :)
  | .infer => fun _ => rfl
  | .raw .. => fun _ => rfl

theorem substExprs_eq (h : Keeps f c q) :
    ∀ ts : List Expr, SameIf (exprsPass c q ts) (substExprs f ts) ts
  | [] => fun _ => rfl
  | e :: rest => (Expr.subst_eq h e |>.map List.cons |>.app (substExprs_eq h rest) :)

theorem substExpr?_eq (h : Keeps f c q) :
    ∀ ts : Option Expr, SameIf (exprPasses? c q ts) (substExpr? f ts) ts
  | none => fun _ => rfl
  | some e => (Expr.subst_eq h e |>.map some :)

theorem substEntries_eq (h : Keeps f c q) :
    ∀ ts : List Entry, SameIf (entriesPass c q ts) (substEntries f ts) ts
  | [] => fun _ => rfl
  | e :: rest => (Entry.subst_eq h e |>.map List.cons |>.app (substEntries_eq h rest) :)

theorem Entry.subst_eq (h : Keeps f c q) : ∀ t : Entry, SameIf (t.passes c q) (t.subst f) t
  | .field attributes member colon value =>
    (substAttributes_eq h attributes |>.map (Entry.field · member colon ·)
      |>.app (Expr.subst_eq h value) :)
  | .rest value => (substExpr?_eq h value |>.map Entry.rest :)
  | .arm attributes pattern guard body comma =>
    (substAttributes_eq h attributes |>.map (Entry.arm · · · · comma)
      |>.app (Pattern.subst_eq h pattern) |>.app (substExpr?_eq h guard)
      |>.app (Expr.subst_eq h body) :)
  | .empty => fun _ => rfl
  | .declare attributes pattern value otherwise =>
    (substAttributes_eq h attributes |>.map Entry.declare |>.app (Pattern.subst_eq h pattern)
      |>.app (substExpr?_eq h value) |>.app (substExpr?_eq h otherwise) :)
  | .item item => (Item.subst_eq h item |>.map Entry.item :)
  | .expr value semicolon => (Expr.subst_eq h value |>.map (Entry.expr · semicolon) :)
  | .invocation attributes call semicolon =>
    (substAttributes_eq h attributes |>.map (Entry.invocation · call semicolon) |>.right :)

theorem Pattern.subst_eq (h : Keeps f c q) : ∀ t : Pattern, SameIf (t.passes c q) (t.subst f) t
  | .attributed attributes inner =>
    (substAttributes_eq h attributes |>.map Pattern.attributed |>.app (Pattern.subst_eq h inner) :)
  | .value value => (Expr.subst_eq h value |>.map Pattern.value :)
  | .ident .. => fun _ => rfl
  | .bound byRef isMut name inner =>
    (Pattern.subst_eq h inner |>.map (Pattern.bound byRef isMut name) :)
  | .invocation .. => fun _ => rfl
  | .alternatives leading cases =>
    (substPatterns_eq h cases |>.map (Pattern.alternatives leading) :)
  | .paren inner => (Pattern.subst_eq h inner |>.map Pattern.paren :)
  | .reference isMut target => (Pattern.subst_eq h target |>.map (Pattern.reference isMut) :)
  | .rest => fun _ => rfl
  | .wild => fun _ => rfl
  | .range start closed finish =>
    (substExpr?_eq h start |>.map (Pattern.range · closed ·) |>.app (substExpr?_eq h finish) :)
  | .slice elements trailing => (substPatterns_eq h elements |>.map (Pattern.slice · trailing) :)
  | .tuple elements trailing => (substPatterns_eq h elements |>.map (Pattern.tuple · trailing) :)
  | .struct path fields trailing =>
    (Expr.subst_eq h path |>.map (Pattern.struct · · trailing) |>.app (substPatterns_eq h fields) :)
  | .field member pattern => (Pattern.subst_eq h pattern |>.map (Pattern.field member) :)
  | .called path elements trailing =>
    (Expr.subst_eq h path |>.map (Pattern.called · · trailing)
      |>.app (substPatterns_eq h elements) :)
  | .typed pattern type =>
    (Pattern.subst_eq h pattern |>.map Pattern.typed |>.app (Ty.subst_eq h type) :)
  | .receiver byRef lifetime isMut colon type =>
    (Ty.subst_eq h type |>.map (Pattern.receiver byRef lifetime isMut colon) :)
  | .variadic => fun _ => rfl
  | .raw .. => fun _ => rfl

theorem substPatterns_eq (h : Keeps f c q) :
    ∀ ts : List Pattern, SameIf (patternsPass c q ts) (substPatterns f ts) ts
  | [] => fun _ => rfl
  | p :: rest => (Pattern.subst_eq h p |>.map List.cons |>.app (substPatterns_eq h rest) :)

theorem substFields_eq (h : Keeps f c q) :
    ∀ ts : List Field, SameIf (fieldsPass c q ts) (substFields f ts) ts
  | [] => fun _ => rfl
  | g :: rest => (Field.subst_eq h g |>.map List.cons |>.app (substFields_eq h rest) :)

theorem Field.subst_eq (h : Keeps f c q) : ∀ t : Field, SameIf (t.passes c q) (t.subst f) t
  | ⟨attributes, visibility, name, namePos, type⟩ =>
    (substAttributes_eq h attributes |>.map (Field.mk · visibility name namePos ·) |>.right
      |>.app (Ty.subst_eq h type) :)

theorem Struct.subst_eq (h : Keeps f c q) : ∀ t : Struct, SameIf (t.passes c q) (t.subst f) t
  | ⟨attributes, visibility, name, namePos, generics, shape, fields, trailing⟩ =>
    (substAttributes_eq h attributes |>.map (Struct.mk · visibility name namePos · shape · trailing)
      |>.right |>.app (Generics.subst_eq h generics) |>.app (substFields_eq h fields) :)

theorem substVariants_eq (h : Keeps f c q) :
    ∀ ts : List Variant, SameIf (variantsPass c q ts) (substVariants f ts) ts
  | [] => fun _ => rfl
  | v :: rest => (Variant.subst_eq h v |>.map List.cons |>.app (substVariants_eq h rest) :)

theorem Variant.subst_eq (h : Keeps f c q) : ∀ t : Variant, SameIf (t.passes c q) (t.subst f) t
  | ⟨attributes, name, shape, fields, trailing, value⟩ =>
    (substAttributes_eq h attributes |>.map (Variant.mk · name shape · trailing ·)
      |>.app (substFields_eq h fields) |>.app (substExpr?_eq h value) :)

theorem Item.subst_eq (h : Keeps f c q) : ∀ t : Item, SameIf (t.passes c q) (t.subst f) t
  | .const attributes visibility place isDefault name type value =>
    (substAttributes_eq h attributes |>.map (Item.const · visibility place isDefault name · ·)
      |>.right |>.app (Ty.subst_eq h type) |>.app (substExpr?_eq h value) :)
  | .static attributes visibility isMut name type value =>
    (substAttributes_eq h attributes |>.map (Item.static · visibility isMut name · ·) |>.right
      |>.app (Ty.subst_eq h type) |>.app (substExpr?_eq h value) :)
  | .typeAlias attributes visibility place isDefault name generics bounds trailing type =>
    (substAttributes_eq h attributes
      |>.map (Item.typeAlias · visibility place isDefault name · · trailing ·) |>.right
      |>.app (Generics.subst_eq h generics) |>.app (substBounds_eq h bounds)
      |>.app (substType?_eq h type) :)
  | .function attributes visibility head name generics params trailing result body =>
    (substAttributes_eq h attributes |>.map (Item.function · visibility head name · · trailing · ·)
      |>.right |>.app (Generics.subst_eq h generics) |>.app (substPatterns_eq h params)
      |>.app (substType?_eq h result) |>.app (substExpr?_eq h body) :)
  | .invocation attributes call name =>
    (substAttributes_eq h attributes |>.map (Item.invocation · call name) |>.right :)
  | .struct value => (Struct.subst_eq h value |>.map Item.struct :)
  | .enum attributes visibility name generics variants trailing =>
    (substAttributes_eq h attributes |>.map (Item.enum · visibility name · · trailing) |>.right
      |>.app (Generics.subst_eq h generics) |>.app (substVariants_eq h variants) :)
  | .union attributes visibility name generics fields trailing =>
    (substAttributes_eq h attributes |>.map (Item.union · visibility name · · trailing) |>.right
      |>.app (Generics.subst_eq h generics) |>.app (substFields_eq h fields) :)
  | .trait attributes visibility isUnsafe isAuto name generics bounds trailing inner items =>
    (substAttributes_eq h attributes
      |>.map (Item.trait · visibility isUnsafe isAuto name · · trailing · ·) |>.right
      |>.app (Generics.subst_eq h generics) |>.app (substBounds_eq h bounds)
      |>.app (substAttributes_eq h inner) |>.app (substItems_eq h items) :)
  | .traitAlias attributes visibility name generics bounds trailing =>
    (substAttributes_eq h attributes |>.map (Item.traitAlias · visibility name · · trailing)
      |>.right |>.app (Generics.subst_eq h generics) |>.app (substBounds_eq h bounds) :)
  | .implementation attributes isDefault isUnsafe generics negative role self inner items =>
    (substAttributes_eq h attributes
      |>.map (Item.implementation · isDefault isUnsafe · negative · · · ·)
      |>.app (Generics.subst_eq h generics) |>.app (substRole_eq h role) |>.app (Ty.subst_eq h self)
      |>.app (substAttributes_eq h inner) |>.app (substItems_eq h items) :)
  | .module attributes visibility isUnsafe name inner items =>
    (substAttributes_eq h attributes |>.map (Item.module · visibility isUnsafe name · ·) |>.right
      |>.app (substAttributes_eq h inner) |>.app (substItems_eq h items) :)
  | .outlineModule attributes visibility isUnsafe name =>
    (substAttributes_eq h attributes |>.map (Item.outlineModule · visibility isUnsafe name)
      |>.right :)
  | .foreign attributes isUnsafe convention inner items =>
    (substAttributes_eq h attributes |>.map (Item.foreign · isUnsafe convention · ·)
      |>.app (substAttributes_eq h inner) |>.app (substItems_eq h items) :)
  | .externCrate attributes visibility name other =>
    (substAttributes_eq h attributes |>.map (Item.externCrate · visibility name other) |>.right :)
  | .use attributes visibility rooted tree =>
    (substAttributes_eq h attributes |>.map (Item.use · visibility rooted tree) |>.right |>.right :)
  | .raw .. => fun _ => rfl

theorem substItems_eq (h : Keeps f c q) :
    ∀ ts : List Item, SameIf (itemsPass c q ts) (substItems f ts) ts
  | [] => fun _ => rfl
  | item :: rest => (Item.subst_eq h item |>.map List.cons |>.app (substItems_eq h rest) :)

end

end

/-! ### `Self` -/

/-- The test that asks nothing of names that are no types. -/
def anyNames : NameTest := ⟨partsPass, fun _ => true⟩

/-- The test for types that do not start with `Self`. -/
def startsElsewhere : TypeTest := fun rooted parts =>
  partsPass parts && (rooted || !parts.head?.any (·.1.is "Self"))

/-- Whether nothing in a type is the type `Self` or one below it. The type of a receiver such as
`&self` is one of those inside. -/
def Ty.hasNoSelfType (t : Ty) : Bool := t.passes anyNames startsElsewhere

theorem keeps_withSelf (s : Ty) : Keeps (Path.withSelf s) anyNames startsElsewhere where
  type := by
    rintro ⟨rooted, segments⟩ h
    cases rooted with
    | true => rfl
    | false =>
      cases segments with
      | nil => rfl
      | cons segment rest =>
        obtain ⟨name, args⟩ := segment
        have hname : (!name.is "Self") = true := (Bool.and_eq_true_iff.mp h).2
        rw [Bool.not_eq_true'] at hname
        rw [Path.withSelf, hname]
        rfl
  arguments _ _ h := (Bool.and_eq_true_iff.mp h).1
  other _ h := h

/-- To replace `Self` changes nothing in a type without it. -/
theorem Ty.replaceSelf_eq_self {t : Ty} (h : t.hasNoSelfType = true) (s : Ty) :
    t.replaceSelf s = t :=
  Ty.subst_eq (keeps_withSelf s) t h

end BuilderGen.Code
