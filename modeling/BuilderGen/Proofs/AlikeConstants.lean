import BuilderGen.Code.Parser
import BuilderGen.Proofs.AlikeTypes

/-!
# Constants in trees that look alike

Of the expressions only paths and numbers are simple. An expression that starts in another way, or
goes on behind a path or a number, is read as something that is not simple.
-/

namespace BuilderGen.Code

namespace Parser

theorem isSimple_of_withHead {head : BlockHead} {e : Expr} (h : (withHead head e).isSimple = true) :
    e.isSimple = true := by
  unfold withHead at h
  split at h
  · simp [Expr.isSimple] at h
  · exact h

theorem isSimple_of_attach {attributes : List Attribute} {e : Expr}
    (h : (attach attributes e).isSimple = true) : attributes = [] ∧ e.isSimple = true := by
  unfold attach at h
  split at h
  case h_5 =>
    split at h
    · exact ⟨List.isEmpty_iff.mp ‹_›, h⟩
    · simp [Expr.isSimple] at h
  all_goals simp [Expr.isSimple] at h

/-! ### What is not simple -/

section

variable {g : Grammar}

theorem closure_never (allowStruct : Bool) :
    Never (closure g allowStruct) (·.isSimple = true) := by
  unfold closure
  refine .bind fun _ => .bind fun _ => .bind fun _ => .bind fun _ => .bind fun _ => ?_
  refine .bind fun _ => .bind fun _ => .ite (.bind fun _ => .bind fun _ => .pure ?_) (.bind fun _ => .pure ?_)
  all_goals simp [Expr.isSimple]

theorem parenOperand_never : Never (parenOperand g) (·.isSimple = true) := by
  unfold parenOperand
  refine .enclosed _ <| .bind fun _ => .ite (.pure ?_) <| .bind fun _ => .bind fun _ =>
    .ite (.pure ?_) <| .bind fun _ => .bind fun _ => .pure ?_
  all_goals simp [Expr.isSimple]

theorem arrayOperand_never : Never (arrayOperand g) (·.isSimple = true) := by
  unfold arrayOperand
  refine .enclosed _ <| .bind fun _ => .ite (.pure ?_) <| .bind fun _ => .bind fun _ =>
    .ite (.pure ?_) <| .bind fun _ => .ite (.bind fun _ => .pure ?_) <| .bind fun _ =>
      .ite (.bind fun _ => .pure ?_) (.remark _)
  all_goals simp [Expr.isSimple]

theorem breakOperand_never (allowStruct : Bool) :
    Never (breakOperand g allowStruct) (·.isSimple = true) := by
  unfold breakOperand
  refine .bind fun _ => .bind fun _ => .ite ?_ ?_
  · exact .bind fun _ => .bind fun _ => .stop (.remarkAt _ _)
  · refine .bind fun _ => .bind fun _ => .ite (.bind fun _ => .pure ?_) (.pure ?_)
    all_goals simp [Expr.isSimple]

theorem jumpOperand_never (kind : Jump) : Never (jumpOperand g kind) (·.isSimple = true) := by
  unfold jumpOperand
  refine .bind fun _ => .bind fun _ => .ite (.bind fun _ => .pure ?_) (.pure ?_)
  all_goals simp [Expr.isSimple]

theorem rangeFrom_never (allowStruct : Bool) (start : Option Expr) :
    Never (rangeFrom g allowStruct start) (·.isSimple = true) := by
  unfold rangeFrom
  refine .bind fun _ => .bind fun _ => .ite (.pure ?_) (.bind fun _ => .pure ?_)
  all_goals simp [Expr.isSimple]

theorem bindingOperand_never (allowStruct : Bool) :
    Never (bindingOperand g allowStruct) (·.isSimple = true) := by
  unfold bindingOperand
  exact .bind fun _ => .bind fun _ => .bind fun _ => .bind fun _ => .bind fun _ =>
    .pure (by simp [Expr.isSimple])

theorem becomeOperand_never : Never (becomeOperand g) (·.isSimple = true) := by
  unfold becomeOperand
  exact .bind fun _ => .pure (by simp [Expr.isSimple])

theorem block_never (allowInner : Bool) : Never (block g allowInner) (·.isSimple = true) := by
  unfold block
  refine .enclosed _ <| .ite (.bind fun _ => .bind fun _ => .pure ?_)
    (.bind fun _ => .bind fun _ => .pure ?_)
  all_goals simp [Expr.isSimple]

end

section

variable {g : Grammar} (h : ∀ allowInner, Never (g.block allowInner) (·.isSimple = true))

include h

/-- Blocks with a keyword or a label. -/
theorem withHead_never (head : BlockHead) (allowInner : Bool) :
    Never (withHead head <$> g.block allowInner) (·.isSimple = true) :=
  (h allowInner).bindOf fun _ he => .pure fun hhead => he (isSimple_of_withHead hhead)

theorem labelled_never (label : Option Ident) : Never (labelled g label) (·.isSimple = true) := by
  have hhead (head : BlockHead) : Never (do return withHead head (← g.block true))
      (·.isSimple = true) := withHead_never h head true
  unfold labelled
  refine .bind fun _ => .ite (.bind fun _ => .bind fun _ => .bind fun _ => .pure ?_) <| .ite ?_ <|
    .ite (.bind fun _ => hhead _) <| .ite (hhead _) (.remark _)
  · simp [Expr.isSimple]
  · exact .bind fun _ => .bind fun _ => .bind fun _ => .bind fun _ => .bind fun _ =>
      .pure (by simp [Expr.isSimple])

theorem asyncBlock_never : Never (asyncBlock g) (·.isSimple = true) := by
  unfold asyncBlock
  exact .bind fun _ => .bind fun _ => withHead_never h _ _

theorem standing?_never :
    Never (standing? g) fun found => ∃ e ∈ found, e.isSimple = true := by
  have hsome {p : Parser Expr} (hp : Never p (·.isSimple = true)) :
      Never (some <$> p) fun found => ∃ e ∈ found, e.isSimple = true :=
    hp.bindOf fun e he => .pure (by simpa using he)
  have hif : Never (ifChain g) (·.isSimple = true) := by
    unfold ifChain
    refine .bind fun clauses => ?_
    split
    · rename_i e he
      refine .pure ?_
      cases clauses with
      | nil => cases he
      | cons =>
        cases he
        simp [Expr.isSimple]
    · exact .missing _
  have hmatch : Never (matchOperand g) (·.isSimple = true) := by
    unfold matchOperand
    exact .bind fun _ => .bind fun _ => .enclosed _ <| .bind fun _ => .bind fun _ =>
      .pure (by simp [Expr.isSimple])
  have hword (keyword : String) (head : BlockHead) (allowInner : Bool) :
      Never (wordBlock g keyword head allowInner) (·.isSimple = true) := by
    unfold wordBlock
    exact .bind fun _ => withHead_never h _ _
  unfold standing?
  refine .bind fun _ => .ite (hsome hif) <| .ite (hsome (labelled_never h none)) <|
    .ite (hsome hmatch) <| .ite (hsome (hword _ _ _)) <| .ite (hsome (hword _ _ _)) <|
    .ite (hsome (hword _ _ _)) <| .ite (hsome (h true)) <| .ite ?_ (.pure (by simp))
  exact .bind fun _ => .bind fun _ => hsome (labelled_never h _)

end

/-! ### What follows an operand -/

/-- An operator begins with a character that is found as well. -/
theorem isSome_of_afterOperator?_cons {c : Char} {cs : List Char} {ts : List TokenTree}
    (h : (afterOperator? (c :: cs) ts).isSome = true) : (afterOperator? [c] ts).isSome = true := by
  cases cs with
  | nil => exact h
  | cons d cs =>
    rcases ts with _ | ⟨t, ts⟩
    · cases h
    · cases t with
      | punct p joint pos =>
        simp only [afterOperator?] at h ⊢
        split at h
        · rename_i hfront
          rw [if_pos ((Bool.and_eq_true _ _).mp hfront).1]
          rfl
        · cases h
      | _ => cases h

/-- Where there is no binary operator there is none in trees that look alike. -/
theorem binaryAt?_eq_none {ts us : List TokenTree} (h : LookAlike ts us)
    (hts : binaryAt? ts = none) : binaryAt? us = none := by
  have hnone : ∀ o ∈ binaryOperators, (afterOperator? o.1.toList ts).isSome ≠ true := by
    simpa [binaryAt?, isOperator] using hts
  have hcases : ∀ o ∈ binaryOperators, isKnownOperator o.1.toList = true ∨
      ∃ p ∈ binaryOperators, p.1.toList.length = 1 ∧ p.1.toList = o.1.toList.take 1 := by
    decide
  rw [binaryAt?, List.find?_eq_none]
  intro o ho hus
  obtain hknown | ⟨p, hp, hlength, hfront⟩ := hcases o ho
  · exact hnone o ho ((h.isSome_afterOperator? hknown).trans hus)
  · have hknown : isKnownOperator p.1.toList = true := by simp [isKnownOperator, hlength]
    refine hnone p hp ((h.isSome_afterOperator? hknown).trans ?_)
    unfold isOperator at hus
    rw [hfront]
    cases hchars : o.1.toList with
    | nil =>
      rw [hfront, hchars] at hlength
      cases hlength
    | cons c cs =>
      rw [hchars] at hus
      exact isSome_of_afterOperator?_cons hus

theorem operators_readsAlike (g : Grammar) (allowStruct : Bool) (e : Expr) :
    ReadsAlike (e.isSimple = true) (operators g allowStruct .lowest e)
      (operators g allowStruct .lowest e) (·.isSimple = true) := by
  have hmore {p : Parser Expr} {left : Expr} {f : Expr → Expr}
      (hf : ∀ right, (f right).isSimple ≠ true) :
      Never (p >>= fun right => pure (some (f right)))
        fun next => (next.getD left).isSimple = true :=
    .bind fun right => .pure (hf right)
  unfold operators
  refine .iterate (fun left => .ite (.pure id) (.rest fun ts us halike => ?_)) e
  cases hts : binaryAt? ts with
  | some o =>
    obtain ⟨o, p⟩ := o
    refine .never ?_
    dsimp only
    rw [if_neg (show ¬ p.rank < Precedence.lowest.rank from Nat.not_lt_zero _)]
    refine .ite (.stop (.remark _)) (.bind fun _ => hmore (by simp [Expr.isSimple]))
  | none =>
    have hdots : isOperator ".." ts = isOperator ".." us := Agrees.operator (by decide) halike
    rw [binaryAt?_eq_none halike hts, Agrees.assignment halike, hdots, Agrees.word _ halike]
    refine .ite (.never ?_) (.ite (.never ?_) (.ite (.never ?_) (.pure id)))
    · exact .bind fun _ => hmore (by simp [Expr.isSimple])
    · exact (rangeFrom_never _ _).bindOf fun range hrange => .pure hrange
    · refine .bind fun _ => .bind fun _ => .bind fun _ => ?_
      split
      · exact .remark _
      · exact .pure (by simp [Expr.isSimple])

theorem memberAfter_never (g : Grammar) (e : Expr) :
    Never (memberAfter g e) (·.isSimple = true) := by
  have hmember {turbofish : Bool} {id : Ident} (generics : Arguments) :
      Never (do
        if turbofish || (← looking (isGroup .parenthesis)) then
          let args ← callArguments g
          return Expr.method e id generics args.1 args.2
        else return .field e (.named id)) (·.isSimple = true) := by
    refine .bind fun _ => .ite (.bind fun _ => .pure ?_) (.pure ?_)
    all_goals simp [Expr.isSimple]
  unfold memberAfter
  refine .bind fun _ => .ite (.pure (by simp [Expr.isSimple])) <| .bind fun m => ?_
  cases m with
  | index n => exact .pure (by simp [Expr.isSimple])
  | named id =>
    refine .bind fun _ => .ite (.bind fun args => ?_) (.bind hmember)
    split
    · exact .bind hmember
    · exact .bind hmember

theorem pointedFields_never (pos : Position) (parts : List String) {e : Expr}
    (he : ¬ e.isSimple = true) : Never (pointedFields pos e parts) (·.isSimple = true) := by
  induction parts generalizing e with
  | nil => exact .pure he
  | cons part parts ih =>
    unfold pointedFields
    refine .ite (.stop (.remarkAt _ _)) (.bind fun n => ih ?_)
    simp [Expr.isSimple]

theorem pointedFields_readsAlike (pos pos' : Position) (e : Expr) (parts : List String) :
    ReadsAlike (e.isSimple = true) (pointedFields pos e parts) (pointedFields pos' e parts)
      (·.isSimple = true) := by
  cases parts with
  | nil => exact .pure id
  | cons part parts =>
    unfold pointedFields
    refine .never (.ite (.stop (.remarkAt _ _)) (.bind fun n => pointedFields_never pos parts ?_))
    simp [Expr.isSimple]

theorem dotted_readsAlike (g : Grammar) (e : Expr) :
    ReadsAlike (e.isSimple = true) (dotted g e) (dotted g e) (·.isSimple = true) := by
  unfold dotted
  refine (ReadsAlike.operator (by decide)).next fun _ => .rest fun ts us halike => ?_
  unfold pointedAt?
  obtain ⟨hts, hus⟩ | ⟨⟨text, after⟩, ⟨_, after'⟩, hts, hus, rfl, hafter⟩ :=
    rel_cases halike.literalAt?
  · rw [hts, hus]
    exact .never (memberAfter_never g e)
  · rw [hts, hus, Option.filter_some, Option.filter_some]
    by_cases hpoint : isFloatLiteral
        (if text.startsWith "-" then String.ofList (text.toList.drop 1) else text) = true
    · rw [if_pos hpoint, if_pos hpoint]
      refine .here fun pos pos' => (ReadsAlike.moveTo hafter).next fun _ => .ite ?_ ?_
      · exact .never (.bind fun _ => memberAfter_never g _)
      · exact pointedFields_readsAlike pos pos' e _
    · rw [if_neg hpoint, if_neg hpoint]
      exact .never (memberAfter_never g e)

theorem trailers_readsAlike (g : Grammar) (e : Expr) :
    ReadsAlike (e.isSimple = true) (trailers g e) (trailers g e) (·.isSimple = true) := by
  have hdot (e : Expr) : Agrees fun ts => isOperator "." ts && !isOperator ".." ts && !e.isRange :=
    .and (.and (.operator (by decide)) (Agrees.operator (by decide)).not) (.const _)
  have hquestion (e : Expr) : Agrees fun ts => isOperator "?" ts && !e.isRange :=
    .and (.operator (by decide)) (.const _)
  unfold trailers
  refine .iterate (fun e => ?_) e
  refine .restIte (.group _) (.never (.bind fun _ => .pure (by simp [Expr.isSimple]))) ?_
  refine .restIte (hdot e) ((dotted_readsAlike g e).bind fun _ => .pure fun he => ⟨id, he⟩) ?_
  refine .restIte (.group _) (.never (.bind fun _ => .pure (by simp [Expr.isSimple]))) ?_
  refine .restIte (hquestion e) (.never (.bind fun _ => .pure (by simp [Expr.isSimple]))) ?_
  exact .rest fun _ _ _ => .pure id

variable {g : Grammar} (h : g.ReadsAlike)

include h

theorem pathOperand_readsAlike (allowStruct : Bool) :
    ReadsAlike True (pathOperand g allowStruct) (pathOperand g allowStruct)
      (·.isSimple = true) := by
  have hplain (e : Expr) : ReadsAlike (e.isSimple = true)
      (do
        if allowStruct && (← looking (isGroup .brace)) then
          let fields ← enclosed .brace (structFields g)
          return .struct e (fields.map (·.1)) (fields.getLast?.any (·.2))
        return e)
      (do
        if allowStruct && (← looking (isGroup .brace)) then
          let fields ← enclosed .brace (structFields g)
          return .struct e (fields.map (·.1)) (fields.getLast?.any (·.2))
        return e) (·.isSimple = true) := by
    refine (ReadsAlike.looking (.group _)).next fun _ => .ite (.never ?_) (.pure id)
    exact .bind fun _ => .pure (by simp [Expr.isSimple])
  unfold pathOperand
  dsimp only
  refine (pathValue_readsAlike h).bind fun e => ?_
  split
  · refine (invocation?_readsAlike _).bind fun call => ?_
    rcases call with _ | call
    · exact (hplain (.path _)).imp (fun he => ⟨fun _ => ⟨id, he⟩, rfl⟩) fun _ => id
    · exact .never (.pure (by simp [Expr.isSimple]))
  · exact (hplain e).imp (fun he => ⟨id, he⟩) fun _ => id

theorem atom_readsAlike (allowStruct : Bool) :
    ReadsAlike True (atom g allowStruct) (atom g allowStruct) (·.isSimple = true) := by
  have hpath : Agrees fun ts => isPathWord ts || isOperator "::" ts || isOperator "<" ts
      || (isWord "try" ts && (second (isOperator "!") ts || second (isOperator "::") ts)) :=
    Agrees.pathWord.or (.operator (by decide)) |>.or (.operator (by decide)) |>.or <|
      (Agrees.word _).and
        ((Agrees.operator (by decide)).second.or (.second (.operator (by decide))))
  have hasync : Agrees fun ts => isWord "async" ts && (second (isGroup .brace) ts
      || (second (isWord "move") ts && third (isGroup .brace) ts)) :=
    (Agrees.word _).and ((Agrees.group _).second.or ((Agrees.word _).second.and (.third (.group _))))
  unfold atom
  refine .restIte .literal (ReadsAlike.literal.next fun _ => .pure fun _ => trivial) ?_
  refine .restIte hasync (.never (asyncBlock_never h.block)) ?_
  refine .restIte .startsClosure (.never (closure_never _)) ?_
  refine .restIte .builtin (.never (.bind fun _ => .pure (by simp [Expr.isSimple]))) ?_
  refine .restIte hpath (pathOperand_readsAlike h allowStruct) ?_
  refine .restIte (.group _) (.never parenOperand_never) ?_
  refine .restIte (.word _) (.never (breakOperand_never _)) ?_
  refine .restIte (.word _) (.never ?_) ?_
  · exact .bind fun _ => .bind fun _ => .pure (by simp [Expr.isSimple])
  refine .restIte (.word _) (.never (jumpOperand_never _)) ?_
  refine .restIte (.word _) (.never (jumpOperand_never _)) ?_
  refine .restIte (.word _) (.never becomeOperand_never) ?_
  refine .restIte (.group _) (.never arrayOperand_never) ?_
  refine .restIte (.word _) (.never (bindingOperand_never _)) ?_
  refine .restIte (.operator (by decide)) (.never (rangeFrom_never _ _)) ?_
  refine .restIte (.word _) (.never (.bind fun _ => .pure (by simp [Expr.isSimple]))) ?_
  refine .rest fun _ _ _ => .never ((standing?_never h.block).bindOf fun found hfound => ?_)
  cases found with
  | none => exact .remark _
  | some e => exact .pure fun he => hfound ⟨e, rfl, he⟩

theorem trailerOperand_readsAlike (allowStruct : Bool) (attributes : List Attribute) :
    ReadsAlike (attributes = []) (trailerOperand g allowStruct attributes)
      (trailerOperand g allowStruct attributes) (·.isSimple = true) := by
  unfold trailerOperand
  refine .here fun pos pos' => (atom_readsAlike h allowStruct).bind fun e =>
    (trailers_readsAlike g e).bind fun e' => ?_
  split
  · exact .never (.pure (by simp [Expr.isSimple]))
  · refine .never (.ite (.pure (by simp [Expr.isSimple])) (.remarkAt _ _))
  · refine .pure fun ha => ?_
    obtain ⟨hnone, he⟩ := isSimple_of_attach ha
    exact ⟨fun he => ⟨fun _ => hnone, he⟩, he⟩

theorem unary_readsAlike (allowStruct : Bool) :
    ReadsAlike True (unary g allowStruct) (unary g allowStruct) (·.isSimple = true) := by
  have hattached {attributes : List Attribute} {p : Parser Expr} {f : Expr → Expr}
      (hf : ∀ e, (f e).isSimple ≠ true) :
      Never (p >>= fun e => pure (attach attributes (f e))) (·.isSimple = true) :=
    .bind fun e => .pure fun he => hf e (isSimple_of_attach he).2
  unfold unary
  refine (attributes_readsAlike g).bind fun attributes => .restIte (.operator (by decide)) ?_ ?_
  · refine .never <| .bind fun _ => .bind fun _ => .ite ?_ ?_
    · exact .bind fun _ => .bind fun _ => hattached (by simp [Expr.isSimple])
    · exact .bind fun _ => hattached (by simp [Expr.isSimple])
  · refine .rest fun ts us halike => ?_
    have hsame {o : String} (ho : isKnownOperator o.toList = true) :
        isOperator o ts = isOperator o us := Agrees.operator ho halike
    have hfind : ["*", "!", "-"].find? (isOperator · ts) =
        ["*", "!", "-"].find? (isOperator · us) := by
      simp only [List.find?, @hsame "*" (by decide), @hsame "!" (by decide), @hsame "-" (by decide)]
    rw [hfind]
    split
    · exact .never <| .bind fun _ => hattached (by simp [Expr.isSimple])
    · exact (trailerOperand_readsAlike h allowStruct attributes).imp
        (fun hnone => ⟨id, hnone⟩) fun _ => id

theorem expr_readsAlike (allowStruct : Bool) :
    ReadsAlike True (expr g allowStruct) (expr g allowStruct) (·.isSimple = true) := by
  unfold expr
  exact (h.unary allowStruct).bind fun e => (operators_readsAlike g allowStruct e).imp
    (fun he => ⟨id, he⟩) fun _ => id

end Parser

/-- At every depth the parsers that a type calls read what is simple from trees that look alike. -/
theorem Grammar.toDepth_readsAlike (depth : ℕ) : (toDepth depth).ReadsAlike := by
  induction depth with
  | zero =>
    exact {
      type := fun _ => .never (.missing [])
      bound := fun _ _ => .never (.missing [])
      expr := fun _ => .never (.missing [])
      unary := fun _ => .never (.missing [])
      block := fun _ => .missing [] }
  | succ depth ih =>
    exact {
      type := Parser.type_readsAlike ih
      bound := Parser.bound_readsAlike ih
      expr := Parser.expr_readsAlike ih
      unary := Parser.unary_readsAlike ih
      block := Parser.block_never }

end BuilderGen.Code
