import BuilderGen.Proofs.CommaStops

/-!
# Types before a comma

A type is read in the same way whether it stands alone or a comma follows it, although there may be
commas inside of it: those stand in groups or in angle brackets, and are read together with them.
-/

namespace BuilderGen.Code

/-- The parsers that a type calls stop at a comma. -/
structure Grammar.StopsAtComma (g : Grammar) : Prop where
  /-- Types. -/
  type (allowPlus : Bool) : Code.StopsAtComma (g.type allowPlus)
  /-- Bounds. -/
  bound (allowCapture allowConst : Bool) : Code.StopsAtComma (g.bound allowCapture allowConst)
  /-- Bounds are not empty. -/
  bound_ne_ok (allowCapture allowConst : Bool) ⦃c b c'⦄ (hc : c.trees = []) :
    g.bound allowCapture allowConst c ≠ .ok b c'
  /-- Blocks. -/
  block (allowInner : Bool) : Code.StopsAtComma (g.block allowInner)

namespace Parser

/-- A remark is no answer, wherever it is placed. -/
theorem remarkAt_covered {α : Type} (pos pos' : Position) (text : String) :
    CoveredBy (remarkAt pos text : Parser α) (remarkAt pos' text) :=
  fun _ _ _ h => by cases h

/-! ### Attributes -/

theorem attributes_stops (g : Grammar) : StopsAtComma (attributes g) := by
  have hhash : StopsAtComma (looking (isOperator "#")) :=
    looking_stops (isOperator_blind (by decide))
  have hbody (pos : Position) : StopsAtComma (attributeBody g pos false) :=
    (enclosed_readsFront _ _).stopsAtComma
  unfold attributes
  refine .rounds (fun _ => hhash.bind fun there => .ite (.pure _) ?_) fun _ =>
    .looking fun there => .ite (.pure id) ?_
  · refine here_stops_of_advances (fun pos => ?_) fun pos => ?_
    · exact (operator_readsFront _).bind fun _ => (hbody pos).bind fun _ => .pure _
    · exact .first (operator_readsFront _) fun _ => (hbody pos).bind fun _ => .pure _
  · intro c step c' hread _
    obtain ⟨pos, c₁, hhere, hrest⟩ := bind_eq_ok.mp hread
    obtain ⟨-, rfl⟩ := here_eq_ok.mp hhere
    have hadvances : Advances (fun _ => True) (do
        operator "#"
        return Round.next (← attributeBody g pos false)) :=
      .first (operator_readsFront _) fun _ => (hbody pos).bind fun _ => .pure _
    exact hadvances hrest trivial

theorem builtin_stops : StopsAtComma builtin := by
  unfold builtin
  refine (StopsAtComma.consumed ?_).bind fun _ => .pure _
  refine (word_readsFront _).bind fun _ => (operator_readsFront _).bind fun _ =>
    (name_readsFront.stopsAtComma.map _).bind fun _ => ReadsFront.stopsAtComma ?_
  intro c group c' h
  obtain ⟨trees, c₁, hrest, hgroup⟩ := bind_eq_ok.mp h
  cases hrest
  revert hgroup
  generalize c.trees = trees
  intro hgroup
  split at hgroup
  · cases hgroup
    exact ⟨[_], List.cons_ne_nil _ _, rfl, fun rest => rfl⟩
  · exact absurd hgroup (missing_ne_ok _)

variable {g : Grammar} (h : g.StopsAtComma)

include h

/-! ### Paths -/

theorem constArgument_stops : StopsAtComma (constArgument g) := by
  unfold constArgument
  refine (looking_stops isLiteral_blind).bind fun _ =>
    .ite (literal_readsFront.bind fun _ => .pure _) ?_
  refine (looking_stops isName_blind).bind fun _ =>
    .ite (name_readsFront.bind fun _ => .pure _) ?_
  exact (looking_stops (isGroup_blind _)).bind fun _ => .ite (h.block true) (.missing [])

/-- The bounds in an argument end at a comma or an angle bracket. At the end of the trees there is
neither, and no bound. -/
theorem argumentBounds_stops :
    StopsAtComma (sum (fun ts => isOperator "," ts || isOperator ">" ts) (g.bound false true)) := by
  have hbound := h.bound false true
  unfold sum
  refine (StopsAtComma.rounds (fun _ => ?_) fun _ => ?_).bind fun _ => .pure _
  · refine looking_stops_of_fails ?_ (fun _ => .ite (.pure _) (hbound.bind fun b => ?_)) ?_
    · intro tail htail ts hts
      rw [isComma_append hts, isOperator_blind (by decide) htail]
    · exact (operator?_stops (by decide)).bind fun _ => .ite (.pure _) (.pure _)
    · intro c step c' hc hread
      obtain ⟨b, c₁, hb, -⟩ := bind_eq_ok.mp hread
      exact h.bound_ne_ok false true hc hb
  · exact .looking fun _ => .ite (.pure id) <| .bind hbound fun b =>
      .operator? (.ite (.pure _) (.pure _)) (.pure id)

theorem argument_stops : StopsAtComma (argument g) := by
  have hlifetime : BlindToComma fun ts => isLifetime ts && !second (isOperator "+") ts := by
    intro tail htail ts
    dsimp only
    rw [isLifetime_blind htail]
    fun_cases isLifetime ts with
    | case1 pos id place rest =>
      exact congrArg _ (congrArg _ (isOperator_blind (s := "+") (by decide) htail rest))
    | case2 => rfl
  have hconst : StopsAtComma (looking fun ts => isLiteral ts || isGroup .brace ts) :=
    looking_stops (isLiteral_blind.or (isGroup_blind _))
  have hargument := constArgument_stops h
  unfold argument
  refine (looking_stops hlifetime).bind fun _ => .ite (lifetime_readsFront.bind fun _ => .pure _) ?_
  refine hconst.bind fun _ => .ite (hargument.bind fun _ => .pure _) ?_
  refine (h.type true).bind fun t => ?_
  split
  · refine (operator?_stops (by decide)).bind fun _ => .ite ?_ ?_
    · exact hconst.bind fun _ =>
        .ite (hargument.bind fun _ => .pure _) ((h.type true).bind fun _ => .pure _)
    · refine (operator?_stops (by decide)).bind fun _ => .ite ?_ (.pure _)
      exact (argumentBounds_stops h).bind fun _ => .pure _
  · exact .pure _

theorem angled_stops : StopsAtComma (angled g) := by
  unfold angled
  refine (operator?_stops (by decide)).bind fun _ => (operator_readsFront "<").bind fun _ => ?_
  refine (StopsAtComma.separated (isOperator_blind (by decide)) (argument_stops h)).bind
    fun _ => ?_
  exact (operator_readsFront ">").bind fun _ => .pure _

theorem segment_stops (inExpr : Bool) : StopsAtComma (segment g inExpr) := by
  have harguments : BlindToComma fun ts =>
      (!inExpr && isOperator "<" ts && !isOperator "<=" ts && !isOperator "<<=" ts)
        || (isOperator "::" ts && third (isOperator "<") ts) := by
    refine .or ?_ (separator_blind (isOperator_blind (by decide)) id)
    intro tail htail ts
    simp only [isOperator_blind (s := "<") (by decide) htail,
      isOperator_blind (s := "<=") (by decide) htail,
      isOperator_blind (s := "<<=") (by decide) htail]
  unfold segment
  dsimp only
  refine (looking_stops (anyWordOf_blind _)).bind fun _ =>
    .ite (anyWord_readsFront.bind fun _ => .pure _) ?_
  refine (looking_stops (isWord_blind _)).bind fun _ =>
    .ite (anyWord_readsFront.bind fun _ => ?_) (name_readsFront.bind fun _ => ?_)
  all_goals
    exact (looking_stops harguments).bind fun _ =>
      .ite ((angled_stops h).bind fun _ => .pure _) (.pure _)

theorem path_stops (inExpr : Bool) : StopsAtComma (path g inExpr) := by
  have hsegment := segment_stops h inExpr
  have hmore : BlindToComma fun ts => isOperator "::" ts && !third (isGroup .parenthesis) ts :=
    separator_blind (isGroup_blind _) not
  unfold path
  refine (operator?_stops (by decide)).bind fun _ => (StopsAtComma.rounds (fun _ => ?_)
    fun _ => ?_).bind fun _ => .pure _
  · exact hsegment.bind fun _ => (looking_stops hmore).bind fun _ =>
      .ite ((operator_readsFront _).bind fun _ => .pure _) (.pure _)
  · exact .bind hsegment fun _ => .looking fun _ =>
      .ite (.first (operator_readsFront _) fun _ => .pure _) (.pure id)

theorem qualifiedPath_stops (inExpr : Bool) : StopsAtComma (qualifiedPath g inExpr) := by
  have hsegment := segment_stops h inExpr
  have hsegments : StopsAtComma (rounds fun _ => do
      let s ← segment g inExpr
      if ← operator? "::" then return .next s else return .stop [s]) := by
    refine .rounds (fun _ => ?_) fun _ => ?_
    · exact hsegment.bind fun _ => (operator?_stops (by decide)).bind fun _ =>
        .ite (.pure _) (.pure _)
    · exact .bind hsegment fun _ => .operator? (.ite (.pure _) (.pure _)) (.pure id)
  unfold qualifiedPath
  dsimp only
  refine (looking_stops (isOperator_blind (by decide))).bind fun _ =>
    .ite ((path_stops h inExpr).bind fun _ => .pure _) ?_
  refine (operator_readsFront _).bind fun _ => (h.type true).bind fun _ =>
    (word?_stops _).bind fun _ => .ite (((path_stops h false).map _).bind fun _ => ?_)
      ((StopsAtComma.pure none).bind fun _ => ?_)
  all_goals
    exact (operator_readsFront _).bind fun _ => (operator_readsFront _).bind fun _ =>
      hsegments.bind fun _ => .pure _

omit h in
theorem invocation?_stops (p : Path) : StopsAtComma (invocation? p) := by
  unfold invocation?
  refine (looking_stops isBang_blind).bind fun _ => .ite ?_ (.pure _)
  refine (operator_readsFront _).bind fun _ => StopsAtComma.bind ?_ fun _ => .pure _
  exact anyGroup_readsFront.bind fun _ => .pure _

/-! ### Generic parameters -/

theorem typeParam_stops (attributes : List Attribute) : StopsAtComma (typeParam g attributes) := by
  have hends : BlindToComma fun ts => endsParamBounds ts || isOperator "=" ts :=
    endsParamBounds_blind.or (isOperator_blind (by decide))
  unfold typeParam
  dsimp only
  refine name_readsFront.bind fun _ => (operator?_stops (by decide)).bind fun _ =>
    .ite ((StopsAtComma.sum hends (h.bound false true)).bind fun _ => ?_)
      ((StopsAtComma.pure _).bind fun _ => ?_)
  all_goals
    exact (operator?_stops (by decide)).bind fun _ =>
      .ite (((h.type true).map _).bind fun _ => .pure _)
        ((StopsAtComma.pure _).bind fun _ => .pure _)

omit h in
theorem lifetimeParam_stops (attributes : List Attribute) :
    StopsAtComma (lifetimeParam attributes) := by
  unfold lifetimeParam
  refine lifetime_readsFront.bind fun _ => (operator?_stops (by decide)).bind fun _ =>
    .ite ?_ (.pure _)
  exact (StopsAtComma.sum endsParamBounds_blind lifetime_readsFront.stopsAtComma).bind
    fun _ => .pure _

theorem constParam_stops (attributes : List Attribute) :
    StopsAtComma (constParam g attributes) := by
  unfold constParam
  dsimp only
  refine (word_readsFront _).bind fun _ => name_readsFront.bind fun _ =>
    (operator_readsFront _).bind fun _ => (h.type true).bind fun _ =>
    (operator?_stops (by decide)).bind fun _ => .ite ?_ ?_
  · exact ((constArgument_stops h).map _).bind fun _ => .pure _
  · exact (StopsAtComma.pure _).bind fun _ => .pure _

theorem boundParam_stops : StopsAtComma (boundParam g) := by
  unfold boundParam
  refine (attributes_stops g).bind fun attributes => (looking_stops isName_blind).bind fun _ =>
    .ite (typeParam_stops h attributes) ?_
  refine (looking_stops isLifetime_blind).bind fun _ => .ite (lifetimeParam_stops attributes) ?_
  exact (looking_stops (isWord_blind _)).bind fun _ =>
    .ite (constParam_stops h attributes) (.missing _)

theorem binder?_stops : StopsAtComma (binder? g) := by
  unfold binder?
  refine (looking_stops (isWord_blind _)).bind fun _ => .ite (.map _ ?_) (.pure _)
  unfold binder
  refine (word_readsFront _).bind fun _ => (operator_readsFront _).bind fun _ => ?_
  refine (StopsAtComma.separated (isOperator_blind (by decide)) (boundParam_stops h)).bind
    fun _ => ?_
  exact (operator_readsFront _).bind fun _ => .pure _

theorem result?_stops (allowPlus : Bool) : StopsAtComma (result? g allowPlus) := by
  unfold result?
  exact (operator?_stops (by decide)).bind fun _ => .ite ((h.type allowPlus).map _) (.pure _)

/-! ### Bounds -/

omit h in
theorem capturedParam_stops : StopsAtComma capturedParam := by
  unfold capturedParam
  refine (looking_stops isLifetime_blind).bind fun _ =>
    .ite (lifetime_readsFront.bind fun _ => .pure _) ?_
  exact (looking_stops (isName_blind.or (isWord_blind _))).bind fun _ =>
    .ite (anyWord_readsFront.bind fun _ => .pure _) (.missing _)

omit h in
/-- A comma is taken for one between two values only where it is, or an end of the values, is
needed. -/
theorem operator?_comma_stops {α : Type} {f : Bool → Parser α} (hf : ∀ b, StopsAtComma (f b))
    (hend : ∀ c a c', c.trees = [] → f false c ≠ .ok a c') :
    StopsAtComma (operator? "," >>= f) := by
  have hassoc : operator? "," >>= f = looking (isOperator ",") >>= fun b =>
      (if b = true then do operator ","; return true else return false) >>= f :=
    bind_assoc _ _ _
  rw [hassoc]
  refine looking_stops_of_fails (fun tail _ ts hts => isComma_append hts tail) (fun b => ?_) hend
  exact .bind (.ite ((operator_readsFront _).bind fun _ => .pure _) (.pure _)) hf

omit h in
theorem capturedParams_stops : StopsAtComma capturedParams := by
  have hend : StopsAtComma (looking (isOperator ">")) :=
    looking_stops (isOperator_blind (by decide))
  unfold capturedParams
  refine (word_readsFront _).bind fun _ => (operator_readsFront _).bind fun _ =>
    (StopsAtComma.rounds (fun _ => ?_) fun _ => ?_).bind fun _ =>
    (operator_readsFront _).bind fun _ => .pure _
  · refine hend.bind fun _ => .ite (.pure _) (capturedParam_stops.bind fun p => ?_)
    refine operator?_comma_stops (fun _ => .ite (.pure _) ?_) ?_
    · exact hend.bind fun _ => .ite (.pure _) (.missing _)
    · rintro ⟨_, inside, finish, leftover⟩ step c' ⟨⟩ hread
      obtain ⟨ended, c₁, hlook, hmissing⟩ := bind_eq_ok.mp hread
      obtain ⟨rfl, rfl⟩ := looking_eq_ok.mp hlook
      exact missing_ne_ok _ hmissing
  · refine .looking fun _ => .ite (.pure id) (.bind capturedParam_stops fun p => ?_)
    exact .operator? (.pure _) (.looking fun _ => .ite (.pure id) (.missing _))

theorem calledPath_stops (p : Path) : StopsAtComma (calledPath g p) := by
  have hfollows : BlindToComma fun ts =>
      isGroup .parenthesis ts || (isOperator "::" ts && third (isGroup .parenthesis) ts) :=
    (isGroup_blind _).or (separator_blind (isGroup_blind _) id)
  unfold calledPath
  refine (looking_stops hfollows).bind fun _ => ?_
  split
  · refine .ite ?_ (.pure _)
    refine ((operator?_stops (by decide)).map _).bind fun _ =>
      (enclosed_readsFront _ _).bind fun _ => ?_
    exact (result?_stops h false).bind fun _ => .pure _
  · exact .pure _

omit h in
theorem constMark_stops (allowConst : Bool) : StopsAtComma (constMark allowConst) := by
  unfold constMark
  dsimp only
  refine here_stops (fun pos => ?_) fun pos pos' => ?_
  · refine (looking_stops (isGroup_blind _)).bind fun _ => .ite ?_ ?_
    · exact (enclosed_readsFront _ _).bind fun _ =>
        .ite ((StopsAtComma.remarkAt _ _).bind fun _ => .pure _) (.pure _)
    · exact (word?_stops _).bind fun _ =>
        .ite (.ite ((StopsAtComma.remarkAt _ _).bind fun _ => .pure _) (.pure _)) (.pure _)
  · gcongr <;> exact remarkAt_covered _ _ _

theorem traitBound_stops (allowConst : Bool) : StopsAtComma (traitBound g allowConst) := by
  unfold traitBound
  dsimp only
  refine (binder?_stops h).bind fun _ => (constMark_stops _).bind fun _ =>
    here_stops (fun pos => ?_) fun pos pos' => by
      gcongr <;> exact remarkAt_covered _ _ _
  refine (operator?_stops (by decide)).bind fun _ =>
    .ite ((binder?_stops h).bind fun _ => ?_) ((StopsAtComma.pure _).bind fun _ => ?_)
  all_goals
    refine (path_stops h false).bind fun p => (calledPath_stops h p).bind fun _ => ?_
    exact .ite ((StopsAtComma.remarkAt _ _).bind fun _ => .ite (.pure _) (.pure _))
      (.ite (.pure _) (.pure _))

theorem bound_stops (allowCapture allowConst : Bool) :
    StopsAtComma (bound g allowCapture allowConst) := by
  have hone := traitBound_stops h allowConst
  have htrait (made : Bool → Option (Option Generics × Bool × Path) × List TokenTree → Parser Bound)
      (hmade : ∀ inParens read tokens, StopsAtComma (made inParens (read, tokens))) :
      StopsAtComma (looking (isGroup .parenthesis) >>= fun inParens =>
        consumed (if inParens then enclosed .parenthesis (traitBound g allowConst)
          else traitBound g allowConst) >>= made inParens) :=
    (looking_stops (isGroup_blind _)).bind fun inParens =>
      (StopsAtComma.consumed (.ite (enclosed_readsFront _ _).stopsAtComma hone)).bind
        fun r => hmade inParens r.1 r.2
  unfold bound
  dsimp only
  refine (looking_stops isLifetime_blind).bind fun _ =>
    .ite (lifetime_readsFront.bind fun _ => .pure _) ?_
  refine (looking_stops (isWord_blind _)).bind fun _ => .ite ?_ ?_
  · refine here_stops (fun pos => ?_) fun pos pos' => by
      gcongr
      exact remarkAt_covered _ _ _
    refine capturedParams_stops.bind fun _ =>
      .ite (.pure _) ((StopsAtComma.remarkAt _ _).bind fun _ => htrait _ ?_)
    rintro inParens (_ | _) tokens <;> exact .pure _
  · refine htrait _ ?_
    rintro inParens (_ | _) tokens <;> exact .pure _

theorem boundSum_stops (allowPlus allowCapture allowConst : Bool) :
    StopsAtComma (boundSum g allowPlus allowCapture allowConst) := by
  have hbound := h.bound allowCapture allowConst
  have hstarts : StopsAtComma (looking (startsBound allowConst)) :=
    looking_stops (startsBound_blind _)
  unfold boundSum
  refine (StopsAtComma.rounds (fun _ => hbound.bind fun b => ?_) fun _ =>
    .bind hbound fun b => ?_).bind fun _ => .pure _
  · refine .ite ((operator?_stops (by decide)).bind fun _ => ?_)
      ((StopsAtComma.pure _).bind fun _ => ?_)
    all_goals exact .ite (.pure _) (hstarts.bind fun _ => .ite (.pure _) (.pure _))
  · refine .ite (.operator? ?_ (.pure id)) ?_
    · exact .ite (.pure _) (hstarts.bind fun _ => .ite (.pure _) (.pure _))
    · exact (Advances.pure id :
        Advances Round.GoesOn (Pure.pure (Round.stop [(b, false)])))

/-! ### Types -/

theorem objectBounds_stops (pos : Position) (allowPlus : Bool) :
    StopsAtComma (objectBounds g pos allowPlus) := by
  unfold objectBounds
  refine (boundSum_stops h _ _ _).bind fun _ => ?_
  exact .ite ((StopsAtComma.remarkAt _ _).bind fun _ => .pure _) (.pure _)

omit h in
/-- The place of a trait object is only spoken of in a remark. -/
theorem objectBounds_covered_of_place (g : Grammar) (pos pos' : Position) (allowPlus : Bool) :
    CoveredBy (objectBounds g pos allowPlus) (objectBounds g pos' allowPlus) := by
  unfold objectBounds
  dsimp only
  gcongr
  exact remarkAt_covered _ _ _

theorem lifetimeObject_stops : StopsAtComma (lifetimeObject g) := by
  unfold lifetimeObject
  refine here_stops (fun pos => ?_) fun pos pos' => ?_
  · exact (objectBounds_stops h pos true).bind fun _ => .pure _
  · gcongr
    exact objectBounds_covered_of_place _ _ _ _

theorem moreBounds_stops (first : Bound) : StopsAtComma (moreBounds g first) := by
  have hbound := h.bound false false
  unfold moreBounds
  refine (StopsAtComma.rounds (fun _ => ?_) fun _ => ?_).bind fun _ => .pure _
  · exact (operator?_stops (by decide)).bind fun _ => .ite (hbound.bind fun _ => .pure _) (.pure _)
  · exact .operator? (.ite (hbound.bind fun _ => .pure _) (.pure _)) (.pure id)

theorem parenthesised_stops (allowPlus : Bool) : StopsAtComma (parenthesised g allowPlus) := by
  unfold parenthesised
  refine (enclosed_readsFront _ _).bind fun content => ?_
  split
  · exact .pure _
  · exact moreBounds_stops h _
  · refine (looking_stops (isOperator_blind (by decide))).bind fun _ => ?_
    split
    · exact moreBounds_stops h _
    · exact .pure _

omit h in
theorem convention?_stops : StopsAtComma convention? := by
  unfold convention?
  refine (word?_stops _).bind fun _ => .ite (.pure _) ?_
  exact (looking_stops isStringLiteral_blind).bind fun _ =>
    .ite (stringLiteral_readsFront.bind fun _ => .pure _) (.pure _)

theorem functionType_stops (lifetimes : Option Generics) :
    StopsAtComma (functionType g lifetimes) := by
  unfold functionType
  refine (word?_stops _).bind fun _ => convention?_stops.bind fun _ =>
    (word_readsFront _).bind fun _ => (enclosed_readsFront _ _).bind fun _ => ?_
  exact (result?_stops h false).bind fun _ => .pure _

theorem pathType_stops (allowPlus : Bool) (lifetimes : Option Generics) :
    StopsAtComma (pathType g allowPlus lifetimes) := by
  have hbound := h.bound false false
  have hstarts : StopsAtComma (looking (startsBound false)) := looking_stops (startsBound_blind _)
  unfold pathType
  dsimp only
  refine (qualifiedPath_stops h false).bind fun p => ?_
  split
  · exact .pure _
  · refine (invocation?_stops _).bind fun call => ?_
    split
    · exact .pure _
    · refine (looking_stops (isOperator_blind (by decide))).bind fun _ =>
        .ite (.ite (.pure _) ?_) (.pure _)
      refine (StopsAtComma.rounds (fun _ => ?_) fun _ => ?_).bind fun _ => .pure _
      · refine (operator?_stops (by decide)).bind fun _ => .ite (.pure _) ?_
        exact hstarts.bind fun _ => .ite (hbound.bind fun _ => .pure _) (.pure _)
      · exact .operator? (.ite (.pure _) <| hstarts.bind fun _ =>
          .ite (hbound.bind fun _ => .pure _) (.pure _)) (.pure id)

theorem objectType_stops (allowPlus : Bool) : StopsAtComma (objectType g allowPlus) := by
  unfold objectType
  refine here_stops (fun pos => ?_) fun pos pos' => ?_
  · refine StopsAtComma.bind (.consumed ?_) fun _ => .ite (.pure _) (.pure _)
    exact (word_readsFront _).bind fun _ => (operator?_stops (by decide)).bind fun _ =>
      (objectBounds_stops h pos allowPlus).bind fun _ => .pure _
  · gcongr
    exact objectBounds_covered_of_place _ _ _ _

theorem boundedType_stops (allowPlus : Bool) : StopsAtComma (boundedType g allowPlus) := by
  unfold boundedType
  refine here_stops (fun pos => ?_) fun pos pos' => ?_
  · exact (word_readsFront _).bind fun _ => (boundSum_stops h _ _ _).bind fun _ =>
      .ite ((StopsAtComma.remarkAt _ _).bind fun _ => .pure _) (.pure _)
  · dsimp only
    gcongr
    exact remarkAt_covered _ _ _

theorem pointer_stops : StopsAtComma (pointer g) := by
  unfold pointer
  refine (operator_readsFront _).bind fun _ => (word?_stops _).bind fun _ =>
    .ite ((h.type false).bind fun _ => .pure _) ?_
  exact (word?_stops _).bind fun _ => .ite ((h.type false).bind fun _ => .pure _) (.missing _)

theorem reference_stops : StopsAtComma (reference g) := by
  unfold reference
  dsimp only
  refine (operator_readsFront _).bind fun _ => (looking_stops isLifetime_blind).bind fun _ =>
    .ite ((lifetime_readsFront.stopsAtComma.map _).bind fun _ => ?_)
      ((StopsAtComma.pure _).bind fun _ => ?_)
  all_goals exact (word?_stops _).bind fun _ => (h.type false).bind fun _ => .pure _

theorem type_stops (allowPlus : Bool) : StopsAtComma (type g allowPlus) := by
  have hfunction : BlindToComma fun ts => ["fn", "unsafe", "extern"].any (isWord · ts) :=
    anyWordOf_blind _
  have hpath : BlindToComma fun ts => isPathWord ts || isOperator "::" ts || isOperator "<" ts :=
    (isPathWord_blind.or (isOperator_blind (by decide))).or (isOperator_blind (by decide))
  have hnever : BlindToComma fun ts => isOperator "!" ts && !isOperator "=" ts :=
    (isOperator_blind (by decide)).and (isOperator_blind (by decide)).not
  unfold type
  dsimp only
  refine (binder?_stops h).bind fun lifetimes =>
    (looking_stops (isPathWord_blind.or hfunction)).bind fun _ =>
    .ite ((StopsAtComma.missing _).bind fun _ => ?_) ?_
  all_goals
    refine rest_ite_stops (isGroup_blind _) (parenthesised_stops h _) ?_
    refine rest_ite_stops hfunction (functionType_stops h _) ?_
    refine rest_ite_stops isBuiltin_blind (builtin_stops.bind fun _ => .pure _) ?_
    refine rest_ite_stops hpath (pathType_stops h _ _) ?_
    refine rest_ite_stops (isWord_blind _) (objectType_stops h _) ?_
    refine rest_ite_stops (isGroup_blind _) (enclosed_readsFront _ _).stopsAtComma ?_
    refine rest_ite_stops (isOperator_blind (by decide)) (pointer_stops h) ?_
    refine rest_ite_stops (isOperator_blind (by decide)) (reference_stops h) ?_
    refine rest_ite_stops hnever ((operator_readsFront _).bind fun _ => .pure _) ?_
    refine rest_ite_stops (isWord_blind _) (boundedType_stops h _) ?_
    refine rest_ite_stops (isWord_blind _) ((word_readsFront _).bind fun _ => .pure _) ?_
    exact rest_ite_stops isLifetime_blind (lifetimeObject_stops h) (rest_missing_stops _)

end Parser

/-- At every depth the parsers that a type calls stop at a comma. -/
theorem Grammar.toDepth_stopsAtComma (depth : Nat) : (toDepth depth).StopsAtComma := by
  induction depth with
  | zero =>
    exact {
      type := fun _ => .missing []
      bound := fun _ _ => .missing []
      bound_ne_ok := fun _ _ _ _ _ _ => Parser.missing_ne_ok []
      block := fun _ => .missing [] }
  | succ depth ih =>
    exact {
      type := Parser.type_stops ih
      bound := Parser.bound_stops ih
      bound_ne_ok := by
        rintro allowCapture allowConst ⟨_, inside, finish, leftover⟩ b c' ⟨⟩ hread
        cases hread
      block := fun allowInner => (Parser.enclosed_readsFront _ _).stopsAtComma }

end BuilderGen.Code
