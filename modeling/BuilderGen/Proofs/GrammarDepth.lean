import BuilderGen.Code.Parser
import BuilderGen.Proofs.EntryRounds
import Mathlib.Tactic.GCongr

/-!
# Grammars of different depths

The grammar is closed up at a depth that grows with the trees to be read. What a parser reads it
reads with every deeper grammar, with the same value and the same trees left: every parser is
covered by itself over a grammar that covers its own, and so the depths cover one another in turn.
Faults are another matter: where a grammar that is not deep enough stops, a deeper one goes on.
-/

namespace BuilderGen.Code

/-! ### Parsers that read at least as much -/

/-- Whatever the parser `p` reads, `p'` reads too: it answers the same and leaves the same. -/
def CoveredBy {α : Type} (p p' : Parser α) : Prop :=
  ∀ ⦃c a c'⦄, p c = .ok a c' → p' c = .ok a c'

/-- Whatever the parsers of the grammar `g` read, those of `g'` read too. -/
structure Grammar.CoveredBy (g g' : Grammar) : Prop where
  /-- Types. -/
  type (allowPlus : Bool) : Code.CoveredBy (g.type allowPlus) (g'.type allowPlus)
  /-- Bounds. -/
  bound (allowCapture allowConst : Bool) :
    Code.CoveredBy (g.bound allowCapture allowConst) (g'.bound allowCapture allowConst)
  /-- Expressions. -/
  expr (allowStruct : Bool) : Code.CoveredBy (g.expr allowStruct) (g'.expr allowStruct)
  /-- Operands. -/
  unary (allowStruct : Bool) : Code.CoveredBy (g.unary allowStruct) (g'.unary allowStruct)
  /-- Operators after an operand. -/
  operators (allowStruct : Bool) (base : Precedence) (e : Expr) :
    Code.CoveredBy (g.operators allowStruct base e) (g'.operators allowStruct base e)
  /-- Expressions at the front of statements. -/
  early : Code.CoveredBy g.early g'.early
  /-- Patterns. -/
  pattern : Code.CoveredBy g.pattern g'.pattern
  /-- Blocks. -/
  block (allowInner : Bool) : Code.CoveredBy (g.block allowInner) (g'.block allowInner)
  /-- Items. -/
  item : Code.CoveredBy g.item g'.item
  /-- Imports. -/
  useTree (allowRoot : Bool) : Code.CoveredBy (g.useTree allowRoot) (g'.useTree allowRoot)

attribute [gcongr] Grammar.CoveredBy.type Grammar.CoveredBy.bound Grammar.CoveredBy.expr
  Grammar.CoveredBy.unary Grammar.CoveredBy.operators Grammar.CoveredBy.early
  Grammar.CoveredBy.pattern Grammar.CoveredBy.block Grammar.CoveredBy.item
  Grammar.CoveredBy.useTree

namespace CoveredBy

variable {α β : Type}

@[refl]
theorem refl (p : Parser α) : CoveredBy p p := fun _ _ _ h => h

@[gcongr]
theorem bind {p p' : Parser α} {f f' : α → Parser β} (hp : CoveredBy p p')
    (hf : ∀ a, CoveredBy (f a) (f' a)) : CoveredBy (p >>= f) (p' >>= f') := by
  intro c b c' h
  obtain ⟨a, c₁, hfirst, hrest⟩ := bind_eq_ok.mp h
  exact bind_eq_ok.mpr ⟨a, c₁, hp hfirst, hf a hrest⟩

@[gcongr]
theorem map {p p' : Parser α} (f : α → β) (hp : CoveredBy p p') :
    CoveredBy (f <$> p) (f <$> p') :=
  bind hp fun a => refl (pure (f a))

@[gcongr]
theorem discard {p p' : Parser α} (hp : CoveredBy p p') :
    CoveredBy (Functor.discard p) (Functor.discard p') :=
  map _ hp

@[gcongr]
theorem ite {b : Prop} [Decidable b] {p p' q q' : Parser α} (hp : CoveredBy p p')
    (hq : CoveredBy q q') : CoveredBy (if b then p else q) (if b then p' else q') := by
  split
  · exact hp
  · exact hq

@[gcongr]
theorem orRaw {p p' : Parser (Option Item)} (h : CoveredBy p p') :
    CoveredBy (Parser.orRaw p) (Parser.orRaw p') := by
  unfold Parser.orRaw
  gcongr

/-! ### Loops and groups -/

@[gcongr]
theorem rounds {round round' : List α → Parser (Parser.Round α)}
    (h : ∀ done, CoveredBy (round done) (round' done)) :
    CoveredBy (Parser.rounds round) (Parser.rounds round') := by
  have hgo (n : Nat) : ∀ done,
      CoveredBy (Parser.rounds.go round n done) (Parser.rounds.go round' n done) := by
    induction n with
    | zero => exact fun done => refl _
    | succ n ih =>
      refine fun done => bind (h done) fun step => ?_
      cases step with
      | stop values => exact refl _
      | next value => exact ih _
  exact bind (refl _) fun trees => hgo _ _

@[gcongr]
theorem iterate {step step' : α → Parser (Option α)} (h : ∀ a, CoveredBy (step a) (step' a))
    (first : α) : CoveredBy (Parser.iterate step first) (Parser.iterate step' first) := by
  have hgo (n : Nat) : ∀ a,
      CoveredBy (Parser.iterate.go step n a) (Parser.iterate.go step' n a) := by
    induction n with
    | zero => exact fun a => refl _
    | succ n ih =>
      refine fun a => bind (h a) fun next => ?_
      cases next with
      | some a => exact ih a
      | none => exact refl _
  exact bind (refl _) fun trees => hgo _ _

variable {p p' : Parser α} (h : CoveredBy p p')

include h

@[gcongr]
theorem separated (separator : String) (stop : List TokenTree → Bool) :
    CoveredBy (Parser.separated separator stop p) (Parser.separated separator stop p') := by
  unfold Parser.separated
  gcongr

@[gcongr]
theorem commaList : CoveredBy (Parser.commaList p) (Parser.commaList p') := by
  unfold Parser.commaList
  gcongr

@[gcongr]
theorem sum (stop : List TokenTree → Bool) :
    CoveredBy (Parser.sum stop p) (Parser.sum stop p') := by
  unfold Parser.sum
  gcongr

@[gcongr]
theorem all : CoveredBy (Parser.all p) (Parser.all p') := by
  unfold Parser.all
  gcongr

@[gcongr]
theorem consumed : CoveredBy (Parser.consumed p) (Parser.consumed p') := by
  unfold Parser.consumed
  gcongr

@[gcongr]
theorem enclosed (d : Delimiter) : CoveredBy (Parser.enclosed d p) (Parser.enclosed d p') := by
  intro c a c' hread
  obtain ⟨content, opened, closed, after, inner, htrees, hp, hc'⟩ :=
    Parser.enclosed_eq_ok.mp hread
  exact Parser.enclosed_eq_ok.mpr ⟨content, opened, closed, after, inner, htrees, h hp, hc'⟩

end CoveredBy

namespace Parser

variable {g g' : Grammar} (h : g.CoveredBy g')

include h

/-! ### Attributes and paths -/

@[gcongr]
theorem attributeValue_covered : CoveredBy (attributeValue g) (attributeValue g') := by
  unfold attributeValue
  gcongr
  split <;> gcongr

@[gcongr]
theorem attributeAfter_covered (head : AttributeHead) :
    CoveredBy (attributeAfter g head) (attributeAfter g' head) := by
  unfold attributeAfter
  gcongr
  split <;> gcongr

@[gcongr]
theorem attributeBody_covered (pos : Position) (isInner : Bool) :
    CoveredBy (attributeBody g pos isInner) (attributeBody g' pos isInner) := by
  unfold attributeBody
  dsimp only
  gcongr

@[gcongr]
theorem attributes_covered : CoveredBy (attributes g) (attributes g') := by
  unfold attributes
  gcongr

@[gcongr]
theorem innerAttributes_covered : CoveredBy (innerAttributes g) (innerAttributes g') := by
  unfold innerAttributes
  gcongr

@[gcongr]
theorem constArgument_covered : CoveredBy (constArgument g) (constArgument g') := by
  unfold constArgument
  gcongr

@[gcongr]
theorem argument_covered : CoveredBy (argument g) (argument g') := by
  unfold argument
  gcongr
  split <;> gcongr

@[gcongr]
theorem angled_covered : CoveredBy (angled g) (angled g') := by
  unfold angled
  gcongr

@[gcongr]
theorem segment_covered (inExpr : Bool) : CoveredBy (segment g inExpr) (segment g' inExpr) := by
  unfold segment
  dsimp only
  gcongr

@[gcongr]
theorem path_covered (inExpr : Bool) : CoveredBy (path g inExpr) (path g' inExpr) := by
  unfold path
  gcongr

@[gcongr]
theorem qualifiedPath_covered (inExpr : Bool) :
    CoveredBy (qualifiedPath g inExpr) (qualifiedPath g' inExpr) := by
  unfold qualifiedPath
  dsimp only
  gcongr

@[gcongr]
theorem pathValue_covered : CoveredBy (pathValue g) (pathValue g') := by
  unfold pathValue
  gcongr

/-! ### Bounds -/

@[gcongr]
theorem typeParam_covered (attributes : List Attribute) :
    CoveredBy (typeParam g attributes) (typeParam g' attributes) := by
  unfold typeParam
  dsimp only
  gcongr

@[gcongr]
theorem constParam_covered (attributes : List Attribute) :
    CoveredBy (constParam g attributes) (constParam g' attributes) := by
  unfold constParam
  dsimp only
  gcongr

@[gcongr]
theorem boundParam_covered : CoveredBy (boundParam g) (boundParam g') := by
  unfold boundParam
  gcongr

@[gcongr]
theorem binder_covered : CoveredBy (binder g) (binder g') := by
  unfold binder
  gcongr

@[gcongr]
theorem binder?_covered : CoveredBy (binder? g) (binder? g') := by
  unfold binder?
  gcongr

@[gcongr]
theorem result?_covered (allowPlus : Bool) :
    CoveredBy (result? g allowPlus) (result? g' allowPlus) := by
  unfold result?
  gcongr

@[gcongr]
theorem calledPath_covered (p : Path) : CoveredBy (calledPath g p) (calledPath g' p) := by
  unfold calledPath
  dsimp only
  gcongr
  split <;> gcongr

@[gcongr]
theorem traitBound_covered (allowConst : Bool) :
    CoveredBy (traitBound g allowConst) (traitBound g' allowConst) := by
  unfold traitBound
  dsimp only
  gcongr

@[gcongr]
theorem bound_covered (allowCapture allowConst : Bool) :
    CoveredBy (bound g allowCapture allowConst) (bound g' allowCapture allowConst) := by
  unfold bound
  dsimp only
  gcongr

@[gcongr]
theorem boundSum_covered (allowPlus allowCapture allowConst : Bool) :
    CoveredBy (boundSum g allowPlus allowCapture allowConst)
      (boundSum g' allowPlus allowCapture allowConst) := by
  unfold boundSum
  gcongr

/-! ### Types -/

@[gcongr]
theorem objectBounds_covered (pos : Position) (allowPlus : Bool) :
    CoveredBy (objectBounds g pos allowPlus) (objectBounds g' pos allowPlus) := by
  unfold objectBounds
  gcongr

@[gcongr]
theorem lifetimeObject_covered : CoveredBy (lifetimeObject g) (lifetimeObject g') := by
  unfold lifetimeObject
  gcongr

@[gcongr]
theorem moreBounds_covered (first : Bound) :
    CoveredBy (moreBounds g first) (moreBounds g' first) := by
  unfold moreBounds
  gcongr

@[gcongr]
theorem inParens_covered : CoveredBy (inParens g) (inParens g') := by
  unfold inParens
  dsimp only
  gcongr
  split <;> gcongr

@[gcongr]
theorem parenthesised_covered (allowPlus : Bool) :
    CoveredBy (parenthesised g allowPlus) (parenthesised g' allowPlus) := by
  unfold parenthesised
  gcongr
  split <;> gcongr
  split <;> gcongr

@[gcongr]
theorem param_covered (isFirst : Bool) (attributes : List Attribute) :
    CoveredBy (param g isFirst attributes) (param g' isFirst attributes) := by
  unfold param
  dsimp only
  gcongr

@[gcongr]
theorem params_covered : CoveredBy (params g) (params g') := by
  unfold params
  gcongr

@[gcongr]
theorem functionType_covered (lifetimes : Option Generics) :
    CoveredBy (functionType g lifetimes) (functionType g' lifetimes) := by
  unfold functionType
  gcongr

@[gcongr]
theorem pathType_covered (allowPlus : Bool) (lifetimes : Option Generics) :
    CoveredBy (pathType g allowPlus lifetimes) (pathType g' allowPlus lifetimes) := by
  unfold pathType
  dsimp only
  gcongr
  split <;> gcongr
  split <;> gcongr

@[gcongr]
theorem objectType_covered (allowPlus : Bool) :
    CoveredBy (objectType g allowPlus) (objectType g' allowPlus) := by
  unfold objectType
  gcongr

@[gcongr]
theorem boundedType_covered (allowPlus : Bool) :
    CoveredBy (boundedType g allowPlus) (boundedType g' allowPlus) := by
  unfold boundedType
  gcongr

@[gcongr]
theorem bracketed_covered : CoveredBy (bracketed g) (bracketed g') := by
  unfold bracketed
  gcongr

@[gcongr]
theorem pointer_covered : CoveredBy (pointer g) (pointer g') := by
  unfold pointer
  gcongr

@[gcongr]
theorem reference_covered : CoveredBy (reference g) (reference g') := by
  unfold reference
  dsimp only
  gcongr

@[gcongr]
theorem type_covered (allowPlus : Bool) : CoveredBy (type g allowPlus) (type g' allowPlus) := by
  unfold type
  dsimp only
  gcongr

/-! ### Patterns -/

@[gcongr]
theorem alternatives_covered : CoveredBy (alternatives g) (alternatives g') := by
  unfold alternatives
  gcongr

@[gcongr]
theorem constBlock_covered : CoveredBy (constBlock g) (constBlock g') := by
  unfold constBlock
  gcongr

@[gcongr]
theorem rangeBound?_covered : CoveredBy (rangeBound? g) (rangeBound? g') := by
  unfold rangeBound?
  gcongr

@[gcongr]
theorem rangeAfter_covered (start : Expr) :
    CoveredBy (rangeAfter g start) (rangeAfter g' start) := by
  unfold rangeAfter
  dsimp only
  gcongr

@[gcongr]
theorem openRange_covered : CoveredBy (openRange g) (openRange g') := by
  unfold openRange
  gcongr

@[gcongr]
theorem valueOrRange_covered (start : Expr) :
    CoveredBy (valueOrRange g start) (valueOrRange g' start) := by
  unfold valueOrRange
  gcongr

@[gcongr]
theorem fieldPattern_covered : CoveredBy (fieldPattern g) (fieldPattern g') := by
  unfold fieldPattern
  dsimp only
  gcongr
  split <;> gcongr
  split <;> gcongr

@[gcongr]
theorem fieldPatterns_covered : CoveredBy (fieldPatterns g) (fieldPatterns g') := by
  unfold fieldPatterns
  gcongr

@[gcongr]
theorem pathPattern_covered : CoveredBy (pathPattern g) (pathPattern g') := by
  unfold pathPattern
  dsimp only
  gcongr
  split <;> gcongr
  split <;> gcongr

@[gcongr]
theorem parenPattern_covered : CoveredBy (parenPattern g) (parenPattern g') := by
  unfold parenPattern
  gcongr

@[gcongr]
theorem slicePattern_covered : CoveredBy (slicePattern g) (slicePattern g') := by
  unfold slicePattern
  gcongr

@[gcongr]
theorem namePattern_covered : CoveredBy (namePattern g) (namePattern g') := by
  unfold namePattern
  dsimp only
  gcongr

@[gcongr]
theorem pattern_covered : CoveredBy (pattern g) (pattern g') := by
  unfold pattern
  gcongr
  split <;> gcongr

/-! ### Heads of declarations -/

@[gcongr]
theorem declaredParam_covered : CoveredBy (declaredParam g) (declaredParam g') := by
  unfold declaredParam
  gcongr

@[gcongr]
theorem generics_covered : CoveredBy (generics g) (generics g') := by
  unfold generics
  gcongr

@[gcongr]
theorem predicate_covered : CoveredBy (predicate g) (predicate g') := by
  unfold predicate
  gcongr

@[gcongr]
theorem whereClause_covered (params : Generics) :
    CoveredBy (whereClause g params) (whereClause g' params) := by
  unfold whereClause
  dsimp only
  gcongr

/-! ### Functions -/

@[gcongr]
theorem receiver_covered : CoveredBy (receiver g) (receiver g') := by
  unfold receiver
  dsimp only
  gcongr

@[gcongr]
theorem functionParam_covered (attributes : List Attribute) :
    CoveredBy (functionParam g attributes) (functionParam g' attributes) := by
  unfold functionParam
  gcongr

@[gcongr]
theorem functionParams_covered : CoveredBy (functionParams g) (functionParams g') := by
  unfold functionParams
  gcongr

@[gcongr]
theorem signature_covered (allowSafe : Bool) :
    CoveredBy (signature g allowSafe) (signature g' allowSafe) := by
  unfold signature
  dsimp only
  gcongr

/-! ### Statements -/

@[gcongr]
theorem typedPattern_covered : CoveredBy (typedPattern g) (typedPattern g') := by
  unfold typedPattern
  gcongr

@[gcongr]
theorem localValue_covered : CoveredBy (localValue g) (localValue g') := by
  unfold localValue
  dsimp only
  gcongr

@[gcongr]
theorem localStatement_covered (attributes : List Attribute) :
    CoveredBy (localStatement g attributes) (localStatement g' attributes) := by
  unfold localStatement
  gcongr

@[gcongr]
theorem statement_covered : CoveredBy (statement g) (statement g') := by
  unfold statement
  gcongr
  split <;> gcongr

@[gcongr]
theorem statements_covered : CoveredBy (statements g) (statements g') := by
  unfold statements
  gcongr

@[gcongr]
theorem block_covered (allowInner : Bool) :
    CoveredBy (block g allowInner) (block g' allowInner) := by
  unfold block
  dsimp only
  gcongr

@[gcongr]
theorem arm_covered : CoveredBy (arm g) (arm g') := by
  unfold arm
  dsimp only
  gcongr

/-! ### Expressions -/

@[gcongr]
theorem rightOperand_covered (allowStruct : Bool) (p : Precedence) :
    CoveredBy (rightOperand g allowStruct p) (rightOperand g' allowStruct p) := by
  unfold rightOperand
  dsimp only
  gcongr

@[gcongr]
theorem rangeFrom_covered (allowStruct : Bool) (start : Option Expr) :
    CoveredBy (rangeFrom g allowStruct start) (rangeFrom g' allowStruct start) := by
  unfold rangeFrom
  gcongr

@[gcongr]
theorem operators_covered (allowStruct : Bool) (base : Precedence) (e : Expr) :
    CoveredBy (operators g allowStruct base e) (operators g' allowStruct base e) := by
  unfold operators
  dsimp only
  gcongr
  split <;> gcongr

@[gcongr]
theorem expr_covered (allowStruct : Bool) :
    CoveredBy (expr g allowStruct) (expr g' allowStruct) := by
  unfold expr
  gcongr

@[gcongr]
theorem exprList_covered : CoveredBy (exprList g) (exprList g') := by
  unfold exprList
  gcongr

@[gcongr]
theorem callArguments_covered : CoveredBy (callArguments g) (callArguments g') := by
  unfold callArguments
  gcongr

@[gcongr]
theorem memberAfter_covered (e : Expr) : CoveredBy (memberAfter g e) (memberAfter g' e) := by
  unfold memberAfter
  dsimp only
  gcongr
  split <;> gcongr
  split <;> gcongr

@[gcongr]
theorem dotted_covered (e : Expr) : CoveredBy (dotted g e) (dotted g' e) := by
  unfold dotted
  dsimp only
  gcongr
  split <;> gcongr

@[gcongr]
theorem trailers_covered (e : Expr) : CoveredBy (trailers g e) (trailers g' e) := by
  unfold trailers
  gcongr

@[gcongr]
theorem ifChain_covered : CoveredBy (ifChain g) (ifChain g') := by
  unfold ifChain
  gcongr

@[gcongr]
theorem closureParams_covered : CoveredBy (closureParams g) (closureParams g') := by
  unfold closureParams
  gcongr

@[gcongr]
theorem closure_covered (allowStruct : Bool) :
    CoveredBy (closure g allowStruct) (closure g' allowStruct) := by
  unfold closure
  dsimp only
  gcongr

@[gcongr]
theorem breakOperand_covered (allowStruct : Bool) :
    CoveredBy (breakOperand g allowStruct) (breakOperand g' allowStruct) := by
  unfold breakOperand
  dsimp only
  gcongr

@[gcongr]
theorem jumpOperand_covered (kind : Jump) :
    CoveredBy (jumpOperand g kind) (jumpOperand g' kind) := by
  unfold jumpOperand
  gcongr

@[gcongr]
theorem labelled_covered (label : Option Ident) :
    CoveredBy (labelled g label) (labelled g' label) := by
  unfold labelled
  gcongr

@[gcongr]
theorem matchOperand_covered : CoveredBy (matchOperand g) (matchOperand g') := by
  unfold matchOperand
  gcongr

@[gcongr]
theorem wordBlock_covered (keyword : String) (head : BlockHead) (allowInner : Bool) :
    CoveredBy (wordBlock g keyword head allowInner) (wordBlock g' keyword head allowInner) := by
  unfold wordBlock
  gcongr

@[gcongr]
theorem standing?_covered : CoveredBy (standing? g) (standing? g') := by
  unfold standing?
  gcongr

@[gcongr]
theorem structField_covered : CoveredBy (structField g) (structField g') := by
  unfold structField
  gcongr
  split <;> gcongr

@[gcongr]
theorem structFields_covered : CoveredBy (structFields g) (structFields g') := by
  unfold structFields
  dsimp only
  gcongr

@[gcongr]
theorem pathOperand_covered (allowStruct : Bool) :
    CoveredBy (pathOperand g allowStruct) (pathOperand g' allowStruct) := by
  unfold pathOperand
  dsimp only
  gcongr
  split <;> gcongr
  split <;> gcongr

@[gcongr]
theorem parenOperand_covered : CoveredBy (parenOperand g) (parenOperand g') := by
  unfold parenOperand
  gcongr

@[gcongr]
theorem arrayOperand_covered : CoveredBy (arrayOperand g) (arrayOperand g') := by
  unfold arrayOperand
  gcongr

@[gcongr]
theorem asyncBlock_covered : CoveredBy (asyncBlock g) (asyncBlock g') := by
  unfold asyncBlock
  gcongr

@[gcongr]
theorem bindingOperand_covered (allowStruct : Bool) :
    CoveredBy (bindingOperand g allowStruct) (bindingOperand g' allowStruct) := by
  unfold bindingOperand
  gcongr

@[gcongr]
theorem becomeOperand_covered : CoveredBy (becomeOperand g) (becomeOperand g') := by
  unfold becomeOperand
  gcongr

@[gcongr]
theorem atom_covered (allowStruct : Bool) :
    CoveredBy (atom g allowStruct) (atom g' allowStruct) := by
  unfold atom
  gcongr

@[gcongr]
theorem early_covered : CoveredBy (early g) (early g') := by
  unfold early
  gcongr
  split <;> gcongr

@[gcongr]
theorem trailerOperand_covered (allowStruct : Bool) (attributes : List Attribute) :
    CoveredBy (trailerOperand g allowStruct attributes)
      (trailerOperand g' allowStruct attributes) := by
  unfold trailerOperand
  gcongr

@[gcongr]
theorem unary_covered (allowStruct : Bool) :
    CoveredBy (unary g allowStruct) (unary g' allowStruct) := by
  unfold unary
  dsimp only
  gcongr
  split <;> gcongr

/-! ### Members of declarations -/

@[gcongr]
theorem value?_covered : CoveredBy (value? g) (value? g') := by
  unfold value?
  gcongr

@[gcongr]
theorem constAfter_covered (lead : Lead) (place : Container) (needsValue : Bool) :
    CoveredBy (constAfter g lead place needsValue) (constAfter g' lead place needsValue) := by
  unfold constAfter
  gcongr

@[gcongr]
theorem aliasAfter_covered (lead : Lead) (place : Container) (admits :
    (bounded defined : Bool) → Bool) :
    CoveredBy (aliasAfter g lead place admits) (aliasAfter g' lead place admits) := by
  unfold aliasAfter
  dsimp only
  gcongr

@[gcongr]
theorem traitFunction_covered (lead : Lead) :
    CoveredBy (traitFunction g lead) (traitFunction g' lead) := by
  unfold traitFunction
  gcongr

@[gcongr]
theorem traitItemAfter_covered (lead : Lead) :
    CoveredBy (traitItemAfter g lead) (traitItemAfter g' lead) := by
  unfold traitItemAfter
  gcongr

@[gcongr]
theorem traitItem_covered : CoveredBy (traitItem g) (traitItem g') := by
  unfold traitItem
  dsimp only
  gcongr

@[gcongr]
theorem implItem_covered : CoveredBy (implItem g) (implItem g') := by
  unfold implItem
  dsimp only
  gcongr

@[gcongr]
theorem foreignFunction_covered (lead : Lead) :
    CoveredBy (foreignFunction g lead) (foreignFunction g' lead) := by
  unfold foreignFunction
  dsimp only
  gcongr

@[gcongr]
theorem foreignStatic_covered (lead : Lead) :
    CoveredBy (foreignStatic g lead) (foreignStatic g' lead) := by
  unfold foreignStatic
  dsimp only
  gcongr

@[gcongr]
theorem foreignItem_covered : CoveredBy (foreignItem g) (foreignItem g') := by
  unfold foreignItem
  dsimp only
  gcongr

@[gcongr]
theorem members_covered {one one' : Parser Item} (hone : CoveredBy one one') :
    CoveredBy (members g one) (members g' one') := by
  unfold members
  gcongr

/-! ### Structs, enums and unions -/

@[gcongr]
theorem namedField_covered {contents contents' : Parser Unit}
    (hcontents : CoveredBy contents contents') :
    CoveredBy (namedField g contents) (namedField g' contents') := by
  unfold namedField
  dsimp only
  gcongr

@[gcongr]
theorem namedFields_covered : CoveredBy (namedFields g) (namedFields g') := by
  have hgo (n : Nat) : CoveredBy (namedFields.go g n) (namedFields.go g' n) := by
    induction n with
    | zero => exact .refl _
    | succ n ih =>
      unfold namedFields.go
      gcongr
  exact .bind (.refl _) fun trees => hgo _

@[gcongr]
theorem positionalFields_covered : CoveredBy (positionalFields g) (positionalFields g') := by
  unfold positionalFields
  gcongr

@[gcongr]
theorem structBody_covered (params : Generics) :
    CoveredBy (structBody g params) (structBody g' params) := by
  unfold structBody
  dsimp only
  gcongr

@[gcongr]
theorem structAfter_covered (attributes : List Attribute) (visibility : Visibility) :
    CoveredBy (structAfter g attributes visibility) (structAfter g' attributes visibility) := by
  unfold structAfter
  gcongr

@[gcongr]
theorem variantFields_covered : CoveredBy (variantFields g) (variantFields g') := by
  unfold variantFields
  gcongr

@[gcongr]
theorem variant_covered : CoveredBy (variant g) (variant g') := by
  unfold variant
  dsimp only
  gcongr

@[gcongr]
theorem enumAfter_covered (attributes : List Attribute) (visibility : Visibility) :
    CoveredBy (enumAfter g attributes visibility) (enumAfter g' attributes visibility) := by
  unfold enumAfter
  gcongr

@[gcongr]
theorem unionAfter_covered (attributes : List Attribute) (visibility : Visibility) :
    CoveredBy (unionAfter g attributes visibility) (unionAfter g' attributes visibility) := by
  unfold unionAfter
  gcongr

/-! ### Items -/

@[gcongr]
theorem traitHead_covered : CoveredBy (traitHead g) (traitHead g') := by
  unfold traitHead
  gcongr

@[gcongr]
theorem traitAfter_covered (lead : Lead) (isUnsafe isAuto : Bool) (id : Ident) (params : Generics) :
    CoveredBy (traitAfter g lead isUnsafe isAuto id params)
      (traitAfter g' lead isUnsafe isAuto id params) := by
  unfold traitAfter
  dsimp only
  gcongr

@[gcongr]
theorem properTrait_covered (lead : Lead) (isUnsafe : Bool) :
    CoveredBy (properTrait g lead isUnsafe) (properTrait g' lead isUnsafe) := by
  unfold properTrait
  dsimp only
  gcongr

@[gcongr]
theorem traitOrAlias_covered (lead : Lead) :
    CoveredBy (traitOrAlias g lead) (traitOrAlias g' lead) := by
  unfold traitOrAlias
  dsimp only
  gcongr

@[gcongr]
theorem implAfter_covered (lead : Lead) : CoveredBy (implAfter g lead) (implAfter g' lead) := by
  unfold implAfter
  dsimp only
  gcongr

@[gcongr]
theorem useTree_covered (allowRoot : Bool) :
    CoveredBy (useTree g allowRoot) (useTree g' allowRoot) := by
  unfold useTree
  dsimp only
  gcongr

@[gcongr]
theorem useAfter_covered (lead : Lead) : CoveredBy (useAfter g lead) (useAfter g' lead) := by
  unfold useAfter
  gcongr

@[gcongr]
theorem moduleAfter_covered (lead : Lead) :
    CoveredBy (moduleAfter g lead) (moduleAfter g' lead) := by
  unfold moduleAfter
  dsimp only
  gcongr

@[gcongr]
theorem foreignModule_covered (lead : Lead) :
    CoveredBy (foreignModule g lead) (foreignModule g' lead) := by
  unfold foreignModule
  dsimp only
  gcongr
  split <;> gcongr
  split <;> gcongr

@[gcongr]
theorem externItem_covered (lead : Lead) : CoveredBy (externItem g lead) (externItem g' lead) := by
  unfold externItem
  dsimp only
  gcongr

@[gcongr]
theorem staticAfter_covered (lead : Lead) :
    CoveredBy (staticAfter g lead) (staticAfter g' lead) := by
  unfold staticAfter
  gcongr

@[gcongr]
theorem unsafeItem_covered (lead : Lead) : CoveredBy (unsafeItem g lead) (unsafeItem g' lead) := by
  unfold unsafeItem
  dsimp only
  gcongr

@[gcongr]
theorem functionAfter_covered (lead : Lead) :
    CoveredBy (functionAfter g lead) (functionAfter g' lead) := by
  unfold functionAfter
  gcongr

@[gcongr]
theorem itemAfter_covered (lead : Lead) : CoveredBy (itemAfter g lead) (itemAfter g' lead) := by
  unfold itemAfter
  gcongr

@[gcongr]
theorem item_covered : CoveredBy (item g) (item g') := by
  unfold item
  gcongr

end Parser

/-! ### The closed grammars -/

/-- A parser that always stops at a fault reads nothing. -/
theorem CoveredBy.of_missing {α : Type} (choices : List Expected) (p : Parser α) :
    CoveredBy (Parser.missing choices) p :=
  fun _ _ _ h => absurd h (Parser.missing_ne_ok choices)

namespace Grammar

/-- A deeper grammar reads whatever a less deep one reads. -/
theorem toDepth_covered {depth depth' : Nat} (h : depth ≤ depth') :
    (toDepth depth).CoveredBy (toDepth depth') := by
  induction depth generalizing depth' with
  | zero =>
    exact {
      type := fun _ => .of_missing _ _
      bound := fun _ _ => .of_missing _ _
      expr := fun _ => .of_missing _ _
      unary := fun _ => .of_missing _ _
      operators := fun _ _ _ => .of_missing _ _
      early := .of_missing _ _
      pattern := .of_missing _ _
      block := fun _ => .of_missing _ _
      item := .of_missing _ _
      useTree := fun _ => .of_missing _ _ }
  | succ depth ih =>
    obtain ⟨depth', rfl⟩ := Nat.exists_eq_add_one_of_ne_zero (Nat.ne_of_gt (Nat.zero_lt_of_lt h))
    have below := ih (Nat.le_of_succ_le_succ h)
    exact {
      type := Parser.type_covered below
      bound := Parser.bound_covered below
      expr := Parser.expr_covered below
      unary := Parser.unary_covered below
      operators := Parser.operators_covered below
      early := Parser.early_covered below
      pattern := Parser.pattern_covered below
      block := Parser.block_covered below
      item := Parser.item_covered below
      useTree := Parser.useTree_covered below }

end Grammar

end BuilderGen.Code
