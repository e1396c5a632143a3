import BuilderGen.Code.Parser
import BuilderGen.Proofs.QuietTypes

/-!
# Parsers go forward

Whatever a parser reads, it leaves the last of the open words and square brackets that were ahead of
it: it does not stop inside of a lifetime, and what it reads in brackets is none of them. The
parsers of types are known to do so, for they read quiet trees; an expression or an item may read
any words.
What stands in brackets does not matter, and so nothing has to be known of the parsers that are only
called there.
-/

namespace BuilderGen.Code

/-- The marks that the parser leaves ahead are the last of those that were ahead. -/
class Forward {α : Type} (p : Parser α) : Prop where
  /-- What is left ahead. -/
  suffix : ∀ ⦃c a c'⦄, p c = .ok a c' → outline c'.trees <:+ outline c.trees

theorem ReadsQuietly.forward {α : Type} {p : Parser α} {Q : α → Prop} (h : ReadsQuietly p Q) :
    Forward p where
  suffix c a c' hp := by
    obtain ⟨⟨front, htrees, hfront⟩, -⟩ := h c.trees ⟨[], rfl, isQuiet_nil⟩ hp
    exact ⟨outline front, by rw [htrees, hfront.whole]⟩

/-- The parsers that an expression or an item calls go forward. -/
class Grammar.Forward (g : Grammar) : Prop where
  /-- Types and bounds read quiet trees. -/
  quiet : g.ReadsQuietly
  /-- Expressions. -/
  [expr (allowStruct : Bool) : Code.Forward (g.expr allowStruct)]
  /-- Operands. -/
  [unary (allowStruct : Bool) : Code.Forward (g.unary allowStruct)]
  /-- Operators after an operand. -/
  [operators (allowStruct : Bool) (base : Precedence) (e : Expr) :
    Code.Forward (g.operators allowStruct base e)]
  /-- Patterns. -/
  [pattern : Code.Forward g.pattern]
  /-- Imports. -/
  [useTree (allowRoot : Bool) : Code.Forward (g.useTree allowRoot)]

namespace Grammar.Forward

attribute [instance] expr unary operators pattern useTree

variable {g : Grammar} [h : g.Forward]

instance type (allowPlus : Bool) : Code.Forward (g.type allowPlus) :=
  (h.quiet.type allowPlus).forward

instance bound (allowCapture allowConst : Bool) :
    Code.Forward (g.bound allowCapture allowConst) :=
  (h.quiet.bound allowCapture allowConst).forward

instance block (allowInner : Bool) : Code.Forward (g.block allowInner) :=
  (h.quiet.block allowInner).forward

end Grammar.Forward

namespace Forward

/-! ### Ways to put parsers together -/

section Rules

variable {α β : Type}

theorem of_maintains {p : Parser α}
    (h : ∀ o, Maintains (fun c => outline c.trees <:+ o) p fun _ => True) :
    Forward p where
  suffix c _ _ hp := (h (outline c.trees) (List.suffix_refl _) hp).1

theorem maintains (p : Parser α) [h : Forward p] (o : List Mark) :
    Maintains (fun c => outline c.trees <:+ o) p fun _ => True :=
  fun _ _ _ hI hp => ⟨(h.suffix hp).trans hI, trivial⟩

instance pure (a : α) : Forward (Pure.pure a : Parser α) := of_maintains fun _ => .pure trivial

instance bind {p : Parser α} {f : α → Parser β} [Forward p] [∀ a, Forward (f a)] :
    Forward (p >>= f) :=
  of_maintains fun o => (maintains p o).bind fun a _ => maintains (f a) o

theorem bindOf {p : Parser α} {f : α → Parser β} [Forward p] (hf : ∀ a, Forward (f a)) :
    Forward (p >>= f) :=
  bind

instance map {p : Parser α} {f : α → β} [Forward p] : Forward (f <$> p) :=
  inferInstanceAs (Forward (p >>= fun a => Pure.pure (f a)))

instance discard {p : Parser α} [Forward p] : Forward (Functor.discard p) :=
  inferInstanceAs (Forward (_ <$> p))

instance ite {b : Prop} [Decidable b] {p q : Parser α} [Forward p] [Forward q] :
    Forward (if b then p else q) := by
  split <;> infer_instance

theorem elseOf {b : Prop} [Decidable b] {p q : Parser α} [Forward p] (hq : Forward q) :
    Forward (if b then p else q) :=
  ite

/-- One of two parsers, and what follows both. -/
theorem choice {b : Prop} [Decidable b] {p q : Parser β} {f : β → Parser α} [Forward p]
    [Forward q] (hf : ∀ r, Forward (f r)) : Forward (if b then p >>= f else q >>= f) :=
  ite

/-- A parser that may be left out, and what follows it. -/
theorem when {b : Prop} [Decidable b] {p : Parser Unit} {f : Unit → Parser α} [Forward p]
    (hf : ∀ r, Forward (f r)) : Forward (if b then p >>= f else f ()) :=
  ite

/-- Two parsers that may be left out, and what follows them. -/
theorem whenBoth {b : Prop} [Decidable b] {p : Parser β} {q : Parser Unit} {f : Unit → Parser α}
    [Forward p] [Forward q] (hf : ∀ r, Forward (f r)) :
    Forward (if b then p >>= fun _ => q >>= f else f ()) :=
  ite

instance looking (test : List TokenTree → Bool) : Forward (Parser.looking test) :=
  of_maintains fun _ => .looking test

instance rest : Forward Parser.rest := of_maintains fun _ => .rest

instance here : Forward Parser.here := of_maintains fun _ => .here

instance ahead (p : Parser α) : Forward (Parser.ahead p) := of_maintains fun _ => .ahead p

instance fail (fault : Fault) :
    Forward (Parser.fail fault : Parser α) := of_maintains fun _ => .fail fault

instance missing (choices : List Expected) : Forward (Parser.missing choices : Parser α) :=
  of_maintains fun _ => .missing choices

instance remark (text : String) : Forward (Parser.remark text : Parser α) :=
  of_maintains fun _ => .remark text

instance remarkAt (pos : Position) (text : String) :
    Forward (Parser.remarkAt pos text : Parser α) :=
  of_maintains fun _ => .remarkAt pos text

instance rounds {round : List α → Parser (Parser.Round α)} [h : ∀ done, Forward (round done)] :
    Forward (Parser.rounds round) :=
  of_maintains fun o => (Maintains.rounds (Q := fun _ => True) fun done =>
    (maintains (round done) o).imp fun r _ => by cases r <;> simp [Parser.Round.All]).trivial

instance iterate {step : α → Parser (Option α)} [h : ∀ a, Forward (step a)] (first : α) :
    Forward (Parser.iterate step first) :=
  of_maintains fun o => (Maintains.iterate (Q := fun _ => True) (fun a _ =>
    (maintains (step a) o).imp fun _ _ _ _ => trivial) trivial)

instance separated {separator : String} {stop : List TokenTree → Bool} {p : Parser α}
    [Forward p] : Forward (Parser.separated separator stop p) := by
  have := (ReadsQuietly.operator separator).forward
  unfold Parser.separated
  infer_instance

/-- What a parser reads in a bracket does not matter. -/
instance enclosed (d : Delimiter) (p : Parser α) : Forward (Parser.enclosed d p) :=
  (ReadsQuietly.enclosed d (.anything)).forward

instance consumed {p : Parser α} [Forward p] : Forward (Parser.consumed p) := by
  unfold Parser.consumed Parser.readSince
  infer_instance

end Rules

/-! ### Single trees -/

section Single

variable (s : String)

instance operator : Forward (Parser.operator s) := (ReadsQuietly.operator s).forward

instance operator? : Forward (Parser.operator? s) := (ReadsQuietly.operator? s).forward

theorem suffix_tail (id : Ident) (pos : Position) (ts : List TokenTree) :
    outline ts <:+ outline (.ident id pos :: ts) := by
  rw [outline_ident]
  exact List.suffix_cons _ _

instance word : Forward (Parser.word s) where
  suffix c u c' h := by
    obtain ⟨id, pos, rest, -, htrees, rfl⟩ := Parser.word_eq_ok.mp h
    rw [htrees]
    exact suffix_tail id pos rest

instance word? : Forward (Parser.word? s) :=
  of_maintains fun o => .word? (maintains (Parser.word s) o)

instance anyWord : Forward Parser.anyWord where
  suffix c u c' h := by
    obtain ⟨pos, rest, htrees, rfl⟩ := Parser.anyWord_eq_ok.mp h
    rw [htrees]
    exact suffix_tail u pos rest

instance name : Forward Parser.name := ReadsQuietly.name.forward

instance lifetime : Forward Parser.lifetime := ReadsQuietly.lifetime.forward

instance literal : Forward Parser.literal := ReadsQuietly.literal.forward

instance stringLiteral : Forward Parser.stringLiteral where
  suffix c t c' h := by
    obtain ⟨-, pos, rest, htrees, rfl⟩ := Parser.stringLiteral_eq_ok.mp h
    simp only [htrees, outline_literal, List.suffix_refl]

instance anyGroup : Forward Parser.anyGroup := ReadsQuietly.anyGroup.forward

end Single

/-! ### Choices by the trees ahead -/

/-- The parser goes forward where the trees ahead are `ts`. -/
def From {α : Type} (ts : List TokenTree) (p : Parser α) : Prop :=
  ∀ ⦃c a c'⦄, c.trees = ts → p c = .ok a c' → outline c'.trees <:+ outline ts

theorem bindRest {α : Type} {f : List TokenTree → Parser α} (h : ∀ ts, From ts (f ts)) :
    Forward (Parser.rest >>= f) where
  suffix c _ _ hp := h c.trees rfl hp

namespace From

variable {α : Type} {ts : List TokenTree}

theorem of_forward (p : Parser α) [hp : Forward p] : From ts p := by
  rintro c a c' rfl h
  exact hp.suffix h

theorem here {f : Position → Parser α} (hf : ∀ pos, From ts (f pos)) :
    From ts (Parser.here >>= f) := by
  intro c a c' hts h
  obtain ⟨pos, c₁, hhere, hrest⟩ := bind_eq_ok.mp h
  obtain ⟨-, rfl⟩ := Parser.here_eq_ok.mp hhere
  exact hf pos hts hrest

/-- Trees that are moved to have the last marks of those ahead. -/
theorem moveTo {after : List TokenTree} (h : outline after <:+ outline ts) (p : Parser α)
    [hp : Forward p] : From ts (Parser.moveTo after >>= fun _ => p) :=
  fun c _ _ _ hread => (hp.suffix (c := { c with trees := after }) hread).trans h

theorem within {after : List TokenTree} (h : outline after <:+ outline ts) (d : Delimiter)
    (content : List TokenTree) (closed : Position) (p : Parser α) :
    From ts (Parser.within d content closed after p) := by
  intro c a c' _ hread
  unfold Parser.within at hread
  split at hread <;> cases hread
  exact h

end From

theorem suffix_of_literalAt? {ts after : List TokenTree} {text : String}
    (h : Parser.literalAt? ts = some (text, after)) : outline after <:+ outline ts := by
  obtain ⟨front, rfl, hfront⟩ := isQuiet_front_of_literalAt? h
  exact ⟨outline front, (hfront.whole after).symm⟩

end Forward

namespace Parser

set_option synthInstance.maxSize 2000

/-! ### Attributes, paths and types -/

instance attributes_forward (g : Grammar) : Forward (attributes g) :=
  (attributes_quiet g).forward

instance innerAttributes_forward (g : Grammar) : Forward (innerAttributes g) := by
  unfold innerAttributes attributeBody
  infer_instance

instance builtin_forward : Forward builtin := builtin_quiet.forward

instance invocationAfter_forward (rooted : Bool) (path : List Ident) :
    Forward (invocationAfter rooted path) := by
  unfold invocationAfter
  infer_instance

instance invocation?_forward (p : Path) : Forward (invocation? p) := by
  unfold invocation?
  infer_instance

instance plainPath_forward : Forward plainPath := by
  unfold plainPath
  dsimp only
  infer_instance

section Grammars

variable (g : Grammar) [h : g.Forward]

instance angled_forward : Forward (angled g) := (angled_quiet h.quiet).forward

instance qualifiedPath_forward (inExpr : Bool) : Forward (qualifiedPath g inExpr) :=
  (qualifiedPath_quiet h.quiet inExpr).forward

instance pathValue_forward : Forward (pathValue g) := by
  unfold pathValue
  refine .bindOf fun q => ?_
  split <;> infer_instance

instance binder?_forward : Forward (binder? g) := (binder?_quiet h.quiet).forward

instance result?_forward (allowPlus : Bool) : Forward (result? g allowPlus) :=
  (result?_quiet h.quiet allowPlus).forward

instance generics_forward : Forward (generics g) := (generics_quiet h.quiet).forward

instance whereClause_forward (params : Generics) : Forward (whereClause g params) := by
  unfold whereClause
  dsimp only
  have := (predicate_quiet h.quiet).forward
  infer_instance

instance convention?_forward : Forward convention? := by
  unfold convention?
  infer_instance

/-! ### Patterns -/

instance alternatives_forward : Forward (alternatives g) := by
  unfold alternatives
  infer_instance

instance constBlock_forward : Forward (constBlock g) := by
  unfold constBlock
  refine .bindOf fun _ => .bindOf fun e => ?_
  split <;> infer_instance

instance rangeBound?_forward : Forward (rangeBound? g) := by
  unfold rangeBound?
  infer_instance

instance rangeAfter_forward (start : Expr) : Forward (rangeAfter g start) := by
  unfold rangeAfter
  dsimp only
  infer_instance

instance openRange_forward : Forward (openRange g) := by
  unfold openRange
  refine .bindOf fun _ => ?_
  split
  · refine .bindOf fun e => ?_
    split <;> infer_instance
  · refine .bindOf fun _ => .bindOf fun e => ?_
    split <;> infer_instance

instance valueOrRange_forward (start : Expr) : Forward (valueOrRange g start) := by
  unfold valueOrRange
  infer_instance

instance pathPattern_forward : Forward (pathPattern g) := by
  unfold pathPattern
  dsimp only
  refine .bindOf fun e => ?_
  split
  · refine .bindOf fun call => ?_
    split <;> infer_instance
  · infer_instance

instance parenPattern_forward : Forward (parenPattern g) := by
  unfold parenPattern
  refine .bindOf fun l => ?_
  dsimp only
  split <;> infer_instance

instance namePattern_forward : Forward (namePattern g) := by
  unfold namePattern
  infer_instance

instance pattern_forward : Forward (pattern g) := by
  unfold pattern
  dsimp only
  refine .bindOf fun trees => ?_
  repeat refine .elseOf ?_
  split
  · refine .bindOf fun e => ?_
    split <;> infer_instance
  · infer_instance

instance typedPattern_forward : Forward (typedPattern g) := by
  unfold typedPattern
  infer_instance

/-! ### Expressions -/

instance rightOperand_forward (allowStruct : Bool) (p : Precedence) :
    Forward (rightOperand g allowStruct p) := by
  unfold rightOperand
  infer_instance

instance rangeDots_forward : Forward rangeDots := by
  unfold rangeDots
  infer_instance

instance rangeFrom_forward (allowStruct : Bool) (start : Option Expr) :
    Forward (rangeFrom g allowStruct start) := by
  unfold rangeFrom
  infer_instance

instance operators_forward (allowStruct : Bool) (base : Precedence) (e : Expr) :
    Forward (operators g allowStruct base e) := by
  unfold operators
  refine .iterate (h := fun left => ?_) e
  dsimp only
  split
  · infer_instance
  refine .bindOf fun trees => ?_
  split
  · infer_instance
  repeat refine .elseOf ?_
  split
  · refine .bindOf fun _ => .bindOf fun t => .bindOf fun after => ?_
    split <;> infer_instance
  · infer_instance

instance expr_forward (allowStruct : Bool) : Forward (expr g allowStruct) := by
  unfold expr
  infer_instance

instance callArguments_forward : Forward (callArguments g) := by
  unfold callArguments
  infer_instance

instance indexOf_forward (pos : Position) (text : String) : Forward (indexOf pos text) := by
  unfold indexOf
  infer_instance

instance member_forward : Forward member := by
  unfold member
  refine .bindRest fun trees => ?_
  split
  · exact .of_forward _
  split
  · rename_i text after hliteral
    split
    · exact .here fun pos => .moveTo (Forward.suffix_of_literalAt? hliteral) _
    · exact .of_forward _
  · exact .of_forward _

instance memberAfter_forward (e : Expr) : Forward (memberAfter g e) := by
  unfold memberAfter
  dsimp only
  refine .bindOf fun _ => ?_
  split
  · infer_instance
  refine .bindOf fun m => ?_
  split
  · infer_instance
  refine .bindOf fun turbofish => ?_
  split
  · refine .bindOf fun args => ?_
    split <;> infer_instance
  · infer_instance

instance pointedFields_forward (pos : Position) (e : Expr) (parts : List String) :
    Forward (pointedFields pos e parts) := by
  unfold pointedFields
  induction parts generalizing e with
  | nil => exact Forward.pure e
  | cons part rest ih =>
    unfold pointedFields
    infer_instance

instance dotted_forward (e : Expr) : Forward (dotted g e) := by
  unfold dotted
  dsimp only
  refine .bindOf fun _ => .bindRest fun trees => ?_
  split
  · exact .of_forward _
  · rename_i text after hpointed
    obtain ⟨hliteral, -⟩ := Option.filter_eq_some_iff.mp hpointed
    exact .here fun pos => .moveTo (Forward.suffix_of_literalAt? hliteral) _

instance trailers_forward (e : Expr) : Forward (trailers g e) := by
  unfold trailers
  infer_instance

instance ifChain_forward : Forward (ifChain g) := by
  unfold ifChain
  refine .bindOf fun clauses => ?_
  split <;> infer_instance

instance closureParams_forward : Forward (closureParams g) := by
  unfold closureParams
  infer_instance

instance closure_forward (allowStruct : Bool) : Forward (closure g allowStruct) := by
  unfold closure
  dsimp only
  infer_instance

instance lifetime?_forward : Forward lifetime? := by
  unfold lifetime?
  infer_instance

instance breakOperand_forward (allowStruct : Bool) : Forward (breakOperand g allowStruct) := by
  unfold breakOperand
  dsimp only
  infer_instance

instance jumpOperand_forward (kind : Jump) : Forward (jumpOperand g kind) := by
  unfold jumpOperand
  infer_instance

instance labelled_forward (label : Option Ident) : Forward (labelled g label) := by
  unfold labelled
  infer_instance

instance matchOperand_forward : Forward (matchOperand g) := by
  unfold matchOperand
  infer_instance

instance wordBlock_forward (keyword : String) (head : BlockHead) (allowInner : Bool) :
    Forward (wordBlock g keyword head allowInner) := by
  unfold wordBlock
  infer_instance

instance standing?_forward : Forward (standing? g) := by
  unfold standing?
  infer_instance

instance pathOperand_forward (allowStruct : Bool) : Forward (pathOperand g allowStruct) := by
  unfold pathOperand
  dsimp only
  refine .bindOf fun e => ?_
  split
  · refine .bindOf fun call => ?_
    split <;> infer_instance
  · infer_instance

instance parenOperand_forward : Forward (parenOperand g) := by
  unfold parenOperand
  infer_instance

instance arrayOperand_forward : Forward (arrayOperand g) := by
  unfold arrayOperand
  infer_instance

instance asyncBlock_forward : Forward (asyncBlock g) := by
  unfold asyncBlock
  infer_instance

instance bindingOperand_forward (allowStruct : Bool) : Forward (bindingOperand g allowStruct) := by
  unfold bindingOperand
  infer_instance

instance becomeOperand_forward : Forward (becomeOperand g) := by
  unfold becomeOperand
  infer_instance

instance atom_forward (allowStruct : Bool) : Forward (atom g allowStruct) := by
  unfold atom
  refine .bindOf fun trees => ?_
  repeat refine .elseOf ?_
  refine .bindOf fun e => ?_
  split <;> infer_instance

instance trailerOperand_forward (allowStruct : Bool) (attributes : List Attribute) :
    Forward (trailerOperand g allowStruct attributes) := by
  unfold trailerOperand
  refine .bindOf fun pos => .bindOf fun operand => .bindOf fun e => ?_
  split <;> infer_instance

instance unary_forward (allowStruct : Bool) : Forward (unary g allowStruct) := by
  unfold unary
  dsimp only
  refine .bindOf fun attributes => .bindOf fun trees => ?_
  split
  · infer_instance
  · split <;> infer_instance

/-! ### Heads of declarations -/

instance visibility_forward : Forward visibility := by
  unfold visibility
  refine .bindOf fun _ => .elseOf (.bindRest fun trees => ?_)
  split
  · rename_i content _ closed after
    have hafter (pos : Position) : outline after <:+
        outline (.group .parenthesis content pos closed :: after) := by
      simp only [outline_group _ _ _ (by decide : Delimiter.parenthesis ≠ .bracket),
        List.suffix_refl]
    split
    · split
      · exact .moveTo (hafter _) _
      · split
        · exact .within (hafter _) _ _ _ _
        · exact .of_forward _
    · split
      · exact .within (hafter _) _ _ _ _
      · exact .of_forward _
  · exact .of_forward _

instance functionWords_forward (allowSafe : Bool) : Forward (functionWords allowSafe) := by
  unfold functionWords
  infer_instance

instance signature_forward (allowSafe : Bool) : Forward (signature g allowSafe) := by
  unfold signature
  infer_instance

instance isSignature_forward (allowSafe : Bool) : Forward (isSignature allowSafe) := by
  unfold isSignature
  infer_instance

/-! ### Items -/

instance nameOrGap_forward : Forward nameOrGap := by
  unfold nameOrGap
  infer_instance

instance value?_forward : Forward (value? g) := by
  unfold value?
  infer_instance

instance constAfter_forward (lead : Lead) (place : Container) (needsValue : Bool) :
    Forward (constAfter g lead place needsValue) := by
  unfold constAfter
  infer_instance

instance aliasAfter_forward (lead : Lead) (place : Container) (admits : Bool → Bool → Bool) :
    Forward (aliasAfter g lead place admits) := by
  unfold aliasAfter
  refine .bindOf fun id => .bindOf fun params => .bindOf fun bounded => .choice fun bounds =>
    .bindOf fun hasWhere => .choice fun params => .bindOf fun _ => .choice fun type => .choice
    fun params => ?_
  infer_instance

instance callItem_forward (attributes : List Attribute) (allowName : Bool) :
    Forward (callItem attributes allowName) := by
  unfold callItem
  dsimp only
  infer_instance

instance members_forward (one : Parser Item) : Forward (members g one) := by
  unfold members
  infer_instance

instance namedFields_forward : Forward (namedFields g) := by
  unfold namedFields
  refine .bindOf fun trees => ?_
  rw [namedFields.go]
  infer_instance

instance positionalFields_forward : Forward (positionalFields g) := by
  unfold positionalFields
  infer_instance

instance structBody_forward (params : Generics) : Forward (structBody g params) := by
  unfold structBody
  infer_instance

instance structAfter_forward (attributes : List Attribute) (visibility : Visibility) :
    Forward (structAfter g attributes visibility) := by
  unfold structAfter
  infer_instance

instance enumAfter_forward (attributes : List Attribute) (visibility : Visibility) :
    Forward (enumAfter g attributes visibility) := by
  unfold enumAfter
  infer_instance

instance unionAfter_forward (attributes : List Attribute) (visibility : Visibility) :
    Forward (unionAfter g attributes visibility) := by
  unfold unionAfter
  infer_instance

instance traitHead_forward : Forward (traitHead g) := by
  unfold traitHead
  infer_instance

instance traitAfter_forward (lead : Lead) (isUnsafe isAuto : Bool) (id : Ident)
    (params : Generics) :
    Forward (traitAfter g lead isUnsafe isAuto id params) := by
  unfold traitAfter
  infer_instance

instance properTrait_forward (lead : Lead) (isUnsafe : Bool) :
    Forward (properTrait g lead isUnsafe) := by
  unfold properTrait
  infer_instance

instance traitOrAlias_forward (lead : Lead) : Forward (traitOrAlias g lead) := by
  unfold traitOrAlias
  infer_instance

instance implAfter_forward (lead : Lead) : Forward (implAfter g lead) := by
  unfold implAfter
  refine .bindOf fun isDefault => .bindOf fun isUnsafe => .bindOf fun _ => .bindOf fun _ =>
    .choice fun params => .bindOf fun isConst => .whenBoth fun _ => .bindOf fun mark =>
    .bindOf fun negative => .when fun _ => .bindOf fun first => .bindOf fun _ =>
    .choice fun self? => .when fun _ => .bindOf fun params => .bindOf fun l => ?_
  dsimp only
  split
  · infer_instance
  · split <;> infer_instance

instance newName_forward : Forward newName := by
  unfold newName
  infer_instance

instance useTree_forward (allowRoot : Bool) : Forward (useTree g allowRoot) := by
  unfold useTree
  dsimp only
  infer_instance

instance useAfter_forward (lead : Lead) : Forward (useAfter g lead) := by
  unfold useAfter
  infer_instance

instance externCrateAfter_forward (lead : Lead) : Forward (externCrateAfter lead) := by
  unfold externCrateAfter
  dsimp only
  infer_instance

instance moduleAfter_forward (lead : Lead) : Forward (moduleAfter g lead) := by
  unfold moduleAfter
  dsimp only
  infer_instance

instance foreignModule_forward (lead : Lead) : Forward (foreignModule g lead) := by
  unfold foreignModule
  dsimp only
  have hrest : Forward (do
      let isUnsafe ← word? "unsafe"
      match ← convention? with
      | none => missing [.spelling "extern"]
      | some convention =>
        let (inner, items) ← members g (foreignItem g)
        return Item.foreign lead.attributes isUnsafe convention inner items) := by
    refine .bindOf fun isUnsafe => .bindOf fun convention => ?_
    split <;> infer_instance
  split
  · exact .bindOf fun _ => hrest
  · exact hrest

instance externItem_forward (lead : Lead) : Forward (externItem g lead) := by
  unfold externItem
  infer_instance

instance staticAfter_forward (lead : Lead) : Forward (staticAfter g lead) := by
  unfold staticAfter
  infer_instance

instance unsafeItem_forward (lead : Lead) : Forward (unsafeItem g lead) := by
  unfold unsafeItem
  infer_instance

instance definedMacro_forward : Forward definedMacro := by
  unfold definedMacro
  infer_instance

instance functionAfter_forward (lead : Lead) : Forward (functionAfter g lead) := by
  unfold functionAfter
  infer_instance

instance itemAfter_forward (lead : Lead) : Forward (itemAfter g lead) := by
  unfold itemAfter
  infer_instance

instance orRaw_forward (p : Parser (Option Item)) [Forward p] : Forward (orRaw p) := by
  unfold orRaw readSince
  refine .bindOf fun _ => .bindOf fun item => ?_
  split <;> infer_instance

instance item_forward : Forward (item g) := by
  unfold item
  infer_instance

end Grammars

end Parser

/-! ### The closed grammars -/

namespace Grammar

instance toDepth_forward (depth : Nat) : (toDepth depth).Forward := by
  induction depth with
  | zero =>
    exact {
      quiet := toDepth_readsQuietly 0
      expr := fun _ => Forward.missing _
      unary := fun _ => Forward.missing _
      operators := fun _ _ _ => Forward.missing _
      pattern := Forward.missing _
      useTree := fun _ => Forward.missing _ }
  | succ depth ih =>
    exact {
      quiet := toDepth_readsQuietly (depth + 1)
      expr := Parser.expr_forward (toDepth depth)
      unary := Parser.unary_forward (toDepth depth)
      operators := Parser.operators_forward (toDepth depth)
      pattern := Parser.pattern_forward (toDepth depth)
      useTree := Parser.useTree_forward (toDepth depth) }

instance toDepth_item_forward (depth : Nat) : Code.Forward (toDepth depth).item := by
  cases depth with
  | zero => exact Forward.missing _
  | succ depth => exact Parser.item_forward (toDepth depth)

end Grammar

end BuilderGen.Code
