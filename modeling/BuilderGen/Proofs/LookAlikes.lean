import BuilderGen.Code.Parser.Expr
import BuilderGen.Proofs.SimpleTypes

/-!
# Trees that look alike

The parsers see of a punctuation character whether it is joint to the next one only when they look
for an operator of several characters. Trees look alike to them that differ in places, and in joints
that make no difference to such operators. Ordinary trees look alike when they are respaced, unless
a blank between two of them has kept two characters from being an operator.
-/

namespace BuilderGen.Code

open BuilderGen.Code.Parser

/-- The operators of several characters that the parsers of types look for, and their ends. -/
def longOperators : List (List Char) :=
  [[':', ':'], ['-', '>'], ['.', '.'], ['.', '.', '.'], ['.', '.', '='], ['.', '='], ['<', '='],
    ['<', '<', '='], ['=', '='], ['=', '>'], ['!', '=']]

/-- Trees that differ in places, and in joints within no long operator. -/
inductive LookAlike : List TokenTree → List TokenTree → Prop
  /-- No trees. -/
  | nil : LookAlike [] []
  /-- The same identifier. -/
  | ident {ts us : List TokenTree} (id : Ident) (pos pos' : Position) (h : LookAlike ts us) :
    LookAlike (.ident id pos :: ts) (.ident id pos' :: us)
  /-- The same literal. -/
  | literal {ts us : List TokenTree} (text : String) (pos pos' : Position) (h : LookAlike ts us) :
    LookAlike (.literal text pos :: ts) (.literal text pos' :: us)
  /-- The same punctuation character. -/
  | punct {ts us : List TokenTree} {c : Char} {joint joint' : Bool} {pos pos' : Position}
    (hquote : c = '\x27' → joint = joint')
    (hlong : ∀ o ∈ longOperators, (afterOperator? o (.punct c joint pos :: ts)).isSome =
      (afterOperator? o (.punct c joint' pos' :: us)).isSome)
    (h : LookAlike ts us) : LookAlike (.punct c joint pos :: ts) (.punct c joint' pos' :: us)
  /-- The same bracket around such trees. -/
  | group {ts us content content' : List TokenTree} (d : Delimiter)
    (opened closed opened' closed' : Position) (hcontent : LookAlike content content')
    (h : LookAlike ts us) :
    LookAlike (.group d content opened closed :: ts) (.group d content' opened' closed' :: us)

namespace LookAlike

theorem refl : ∀ ts : List TokenTree, LookAlike ts ts
  | [] => .nil
  | .ident id pos :: rest => .ident id pos pos (refl rest)
  | .literal text pos :: rest => .literal text pos pos (refl rest)
  | .punct _ _ _ :: rest => .punct (fun _ => rfl) (fun _ _ => rfl) (refl rest)
  | .group d content opened closed :: rest =>
    .group d opened closed opened closed (refl content) (refl rest)

variable {ts us : List TokenTree}

theorem length_eq (h : LookAlike ts us) : ts.length = us.length := by
  induction h with
  | nil => rfl
  | ident _ _ _ _ ih => simp [ih]
  | literal _ _ _ _ ih => simp [ih]
  | punct _ _ _ ih => simp [ih]
  | group _ _ _ _ _ _ _ _ ih => simp [ih]

theorem streamSize_eq (h : LookAlike ts us) : streamSize ts = streamSize us := by
  induction h with
  | nil => rfl
  | ident _ _ _ _ ih => simp [streamSize, TokenTree.size, ih]
  | literal _ _ _ _ ih => simp [streamSize, TokenTree.size, ih]
  | punct _ _ _ ih => simp [streamSize, TokenTree.size, ih]
  | group _ _ _ _ _ _ _ ihcontent ih => simp [streamSize, TokenTree.size, ihcontent, ih]

/-- What is behind an operator looks alike. -/
theorem behind {cs : List Char} (h : LookAlike ts us) {ts' us' : List TokenTree}
    (hts : afterOperator? cs ts = some ts') (hus : afterOperator? cs us = some us') :
    LookAlike ts' us' := by
  induction cs generalizing ts us with
  | nil => cases hts
  | cons c cs ih =>
    cases h with
    | punct _ _ h =>
      cases cs with
      | nil =>
        simp only [afterOperator?, Option.ite_none_right_eq_some, Option.some.injEq] at hts hus
        obtain ⟨-, rfl⟩ := hts
        obtain ⟨-, rfl⟩ := hus
        exact h
      | cons d cs =>
        simp only [afterOperator?, Option.ite_none_right_eq_some] at hts hus
        exact ih h hts.2 hus.2
    | _ => cases cs <;> cases hts

end LookAlike

/-- Whether the parsers of types find an operator in trees that look alike. -/
def isKnownOperator (cs : List Char) : Bool := cs.length == 1 || longOperators.contains cs

/-- The parsers of types find the same operators in trees that look alike. -/
theorem LookAlike.isSome_afterOperator? {ts us : List TokenTree} (h : LookAlike ts us)
    {cs : List Char} (hcs : isKnownOperator cs = true) :
    (afterOperator? cs ts).isSome = (afterOperator? cs us).isSome := by
  simp only [isKnownOperator, Bool.or_eq_true, beq_iff_eq, List.contains_iff_mem] at hcs
  cases h with
  | punct _ hlong _ =>
    obtain hsingle | hmem := hcs
    · obtain ⟨c, rfl⟩ := List.length_eq_one_iff.mp hsingle
      rw [afterOperator?, afterOperator?]
      split <;> rfl
    · exact hlong cs hmem
  | _ => rcases cs with _ | ⟨c, _ | ⟨d, cs⟩⟩ <;> rfl

/-! ### Tests -/

/-- A test has the same outcome on trees that look alike. -/
def Agrees (test : List TokenTree → Bool) : Prop :=
  ∀ ⦃ts us⦄, LookAlike ts us → test ts = test us

namespace Agrees

variable {test test' : List TokenTree → Bool}

theorem and (h : Agrees test) (h' : Agrees test') : Agrees fun ts => test ts && test' ts :=
  fun _ _ halike => congrArg₂ _ (h halike) (h' halike)

theorem or (h : Agrees test) (h' : Agrees test') : Agrees fun ts => test ts || test' ts :=
  fun _ _ halike => congrArg₂ _ (h halike) (h' halike)

theorem not (h : Agrees test) : Agrees fun ts => !test ts := fun _ _ halike => congrArg _ (h halike)

theorem const (b : Bool) : Agrees fun _ => b := fun _ _ _ => rfl

theorem word (s : String) : Agrees (isWord s) := by
  intro ts us h
  cases h <;> rfl

theorem anyWordOf (words : List String) : Agrees fun ts => words.any (isWord · ts) := by
  intro ts us h
  simp only [Agrees.word _ h]

theorem name : Agrees isName := by
  intro ts us h
  cases h <;> rfl

theorem anyWord : Agrees isAnyWord := by
  intro ts us h
  cases h <;> rfl

theorem group (d : Delimiter) : Agrees (isGroup d) := by
  intro ts us h
  cases h <;> rfl

theorem isEmpty : Agrees List.isEmpty := by
  intro ts us h
  cases h <;> rfl

theorem operator {s : String} (hs : isKnownOperator s.toList = true) : Agrees (isOperator s) := by
  intro ts us h
  exact h.isSome_afterOperator? hs

end Agrees

theorem rel_cases {α : Type} {r : α → α → Prop} {found found' : Option α}
    (h : Option.Rel r found found') :
    (found = none ∧ found' = none) ∨ ∃ a a', found = some a ∧ found' = some a' ∧ r a a' := by
  cases h with
  | none => exact .inl ⟨rfl, rfl⟩
  | some h => exact .inr ⟨_, _, rfl, rfl, h⟩

/-- A punctuation character that is no mark of a lifetime is one tree. -/
theorem skipTree_punct {c : Char} {joint : Bool} (h : c = '\x27' → joint = false) (pos : Position)
    (ts : List TokenTree) : Parser.skipTree (.punct c joint pos :: ts) = some ts := by
  unfold Parser.skipTree
  split
  · rename_i heq
    cases heq
  · rename_i heq
    cases heq
    cases h rfl
  · rename_i heq
    cases heq
    rfl

theorem isLifetime_punct {c : Char} {joint : Bool} (h : c = '\x27' → joint = false) (pos : Position)
    (ts : List TokenTree) : isLifetime (.punct c joint pos :: ts) = false := by
  unfold isLifetime
  split
  · rename_i heq
    cases heq
    cases h rfl
  · rfl

theorem LookAlike.skipTree {ts us : List TokenTree} (h : LookAlike ts us) :
    Option.Rel LookAlike (Parser.skipTree ts) (Parser.skipTree us) := by
  cases h with
  | nil => exact .none
  | @punct ts us c joint joint' pos pos' hquote hlong h =>
    by_cases hc : c = '\x27' ∧ joint = true
    · obtain ⟨rfl, rfl⟩ := hc
      obtain rfl := hquote rfl
      cases h with
      | ident _ _ _ h => exact .some h
      | nil => exact .some .nil
      | literal _ _ _ h => exact .some (.literal _ _ _ h)
      | punct hquote' hlong' h => exact .some (.punct hquote' hlong' h)
      | group _ _ _ _ _ hcontent h => exact .some (.group _ _ _ _ _ hcontent h)
    · have hjoint : c = '\x27' → joint = false := fun hquoted => by simpa [hquoted] using hc
      rw [skipTree_punct hjoint, skipTree_punct fun hquoted => hquote hquoted ▸ hjoint hquoted]
      exact .some h
  | ident _ _ _ h => exact .some h
  | literal _ _ _ h => exact .some h
  | group _ _ _ _ _ _ h => exact .some h

theorem LookAlike.literalAt? {ts us : List TokenTree} (h : LookAlike ts us) :
    Option.Rel (fun l l' => l.1 = l'.1 ∧ LookAlike l.2 l'.2) (Parser.literalAt? ts)
      (Parser.literalAt? us) := by
  cases h with
  | nil => exact .none
  | literal _ _ _ h => exact .some ⟨rfl, h⟩
  | ident id _ _ h =>
    unfold Parser.literalAt?
    dsimp only
    split
    · exact .some ⟨rfl, h⟩
    · exact .none
  | group => exact .none
  | @punct ts us c joint joint' pos pos' hquote hlong h =>
    by_cases hc : c = '-'
    · subst hc
      cases h with
      | literal text _ _ h =>
        rw [Parser.literalAt?, Parser.literalAt?]
        split
        · exact .some ⟨rfl, h⟩
        · exact .none
      | _ => exact .none
    · have hnone (joint : Bool) (pos : Position) (ts : List TokenTree) :
          Parser.literalAt? (.punct c joint pos :: ts) = none := by
        simp [Parser.literalAt?, hc]
      rw [hnone, hnone]
      exact .none

namespace Agrees

theorem second {test : List TokenTree → Bool} (htest : Agrees test) : Agrees (second test) := by
  intro ts us h
  unfold Parser.second
  obtain ⟨hts, hus⟩ | ⟨after, after', hts, hus, h⟩ := rel_cases h.skipTree
  · rw [hts, hus]
  · rw [hts, hus]
    exact htest h

theorem third {test : List TokenTree → Bool} (htest : Agrees test) : Agrees (third test) := by
  intro ts us h
  unfold Parser.third
  obtain ⟨hts, hus⟩ | ⟨after, after', hts, hus, h⟩ := rel_cases h.skipTree
  · rw [hts, hus]
  · rw [hts, hus]
    exact htest.second h

theorem lifetime : Agrees isLifetime := by
  intro ts us h
  cases h with
  | @punct ts us c joint joint' pos pos' hquote hlong h =>
    by_cases hc : c = '\x27' ∧ joint = true
    · obtain ⟨rfl, rfl⟩ := hc
      obtain rfl := hquote rfl
      cases h <;> rfl
    · have hjoint : c = '\x27' → joint = false := fun hquoted => by simpa [hquoted] using hc
      rw [isLifetime_punct hjoint, isLifetime_punct fun hquoted => hquote hquoted ▸ hjoint hquoted]
  | _ => rfl

theorem literal : Agrees isLiteral := by
  intro ts us h
  unfold isLiteral
  obtain ⟨hts, hus⟩ | ⟨l, l', hts, hus, -⟩ := rel_cases h.literalAt?
  · rw [hts, hus]
  · rw [hts, hus]
    rfl

theorem stringLiteral : Agrees isStringLiteral := by
  intro ts us h
  unfold isStringLiteral
  obtain ⟨hts, hus⟩ | ⟨l, l', hts, hus, htext, -⟩ := rel_cases h.literalAt?
  · rw [hts, hus]
  · rw [hts, hus, Option.any_some, Option.any_some, htext]

theorem pathWord : Agrees isPathWord := name.or (anyWordOf _)

theorem colon : Agrees isColon := (operator (by decide)).and (operator (by decide)).not

theorem bang : Agrees isBang := (operator (by decide)).and (operator (by decide)).not

theorem builtin : Agrees isBuiltin := (word _).and (operator (by decide)).second

theorem startsBound (allowConst : Bool) : Agrees (startsBound allowConst) :=
  anyWord.or (operator (by decide)) |>.or (operator (by decide)) |>.or lifetime |>.or (group _)
    |>.or ((const allowConst).and ((group _).or (word _)))

theorem endsParamBounds : Agrees endsParamBounds :=
  isEmpty.or (operator (by decide)) |>.or (operator (by decide))

theorem variadic : Agrees isVariadic :=
  (operator (by decide)).or <|
    (name.or (word _)).and (operator (by decide)).second |>.and (operator (by decide)).third

theorem startsGenerics : Agrees startsGenerics := by
  have hends : Agrees fun ts =>
      isOperator ">" ts || isOperator "," ts || isColon ts || isOperator "=" ts :=
    (operator (by decide)).or (operator (by decide)) |>.or colon |>.or (operator (by decide))
  exact (operator (by decide)).and <|
    (operator (by decide)).second.or (operator (by decide)).second
      |>.or ((lifetime.second.or name.second).and hends.third) |>.or (word _).second

theorem startsClosure : Agrees startsClosure :=
  (operator (by decide)).or (word _) |>.or ((word _).and startsGenerics.second)
    |>.or ((word _).and (group _).second.not) |>.or (word _)
    |>.or ((word _).and ((operator (by decide)).second.or (word _).second))

theorem assignment : Agrees isAssignment := (operator (by decide)).and (operator (by decide)).not

end Agrees

/-! ### Respaced trees -/

/-- The neighbouring characters that make, or begin, another operator when the blank between them is
taken away. -/
def mergingPairs : List (Char × Char) := [(':', ':'), ('-', '>'), ('=', '>'), ('<', '=')]

/-- Whether a tree is a character at the end of an operator that merges with the tree behind it. -/
def TokenTree.mergesWith : TokenTree → List TokenTree → Bool
  | .punct c false _, .punct q _ _ :: _ => mergingPairs.contains (c, q)
  | _, _ => false

mutual

/-- Whether the operators in a tree stand apart. -/
def TokenTree.standsApart : TokenTree → Bool
  | .group _ content _ _ => operatorsStandApart content
  | _ => true

/-- Whether operators stand apart: no two of them are neighbours that merge. -/
def operatorsStandApart : List TokenTree → Bool
  | [] => true
  | t :: rest => t.standsApart && !t.mergesWith rest && operatorsStandApart rest

end

theorem operatorsStandApart_cons {t : TokenTree} {rest : List TokenTree} :
    operatorsStandApart (t :: rest) = true ↔
      t.standsApart = true ∧ t.mergesWith rest = false ∧ operatorsStandApart rest = true := by
  rw [operatorsStandApart, Bool.and_eq_true, Bool.and_eq_true, Bool.not_eq_true', and_assoc]

theorem exists_of_mem_longOperators {o : List Char} (ho : o ∈ longOperators) :
    ∃ c d rest, o = c :: d :: rest ∧ isKnownOperator (d :: rest) = true := by
  have hlong : ∀ o ∈ longOperators, 2 ≤ o.length ∧ isKnownOperator o.tail = true := by decide
  obtain ⟨hlength, hknown⟩ := hlong o ho
  rcases o with _ | ⟨c, _ | ⟨d, rest⟩⟩
  · simp at hlength
  · simp at hlength
  · exact ⟨c, d, rest, rfl, hknown⟩

/-- A punctuation character that is as joint as before. -/
theorem LookAlike.sameJoint {ts us : List TokenTree} (h : LookAlike ts us) (c : Char) (joint : Bool)
    (pos pos' : Position) : LookAlike (.punct c joint pos :: ts) (.punct c joint pos' :: us) := by
  refine .punct (fun _ => rfl) (fun o ho => ?_) h
  obtain ⟨d, e, rest, rfl, hknown⟩ := exists_of_mem_longOperators ho
  simp only [afterOperator?]
  split
  · exact h.isSome_afterOperator? hknown
  · rfl

/-- Two characters between which a blank is closed up are the start of no long operator, unless they
merge or are the start of `<<=`. -/
theorem eq_of_mem_closers {c q : Char} (hclose : c ∈ closers ∨ q ∈ closers)
    (hmerge : (c, q) ∉ mergingPairs) {rest : List Char} (ho : c :: q :: rest ∈ longOperators) :
    q = '<' ∧ rest = ['='] := by
  simp only [longOperators, List.mem_cons, List.cons.injEq, List.not_mem_nil, or_false] at ho
  rcases ho with ho | ho | ho | ho | ho | ho | ho | ho | ho | ho | ho
  all_goals
    obtain ⟨rfl, rfl, rfl⟩ := ho
    first
      | exact ⟨rfl, rfl⟩
      | exact absurd (by decide) hmerge
      | exact absurd hclose (by decide)

/-- A punctuation character that has become joint begins no long operator, unless it merges. -/
theorem LookAlike.joined {ts us : List TokenTree} {c q : Char} {k : Bool} {place : Position}
    (h : LookAlike (.punct q k place :: ts) us) (hquote : c ≠ '\x27')
    (hordinary : AreOrdinary (.punct q k place :: ts)) (hclose : c ∈ closers ∨ q ∈ closers)
    (hmerge : (c, q) ∉ mergingPairs) (pos pos' : Position) :
    LookAlike (.punct c false pos :: .punct q k place :: ts) (.punct c true pos' :: us) := by
  refine .punct (fun heq => absurd heq hquote) (fun o ho => ?_) h
  obtain ⟨d, e, rest, rfl, hknown⟩ := exists_of_mem_longOperators ho
  have hnone : (afterOperator? (e :: rest) us).isSome = true → c ≠ d := by
    rintro hsome rfl
    rw [← h.isSome_afterOperator? hknown] at hsome
    obtain ⟨after, hafter⟩ := Option.isSome_iff_exists.mp hsome
    have hq : q = e := by
      cases rest <;> simp_all [afterOperator?]
    subst hq
    obtain ⟨rfl, rfl⟩ := eq_of_mem_closers hclose hmerge ho
    -- An angle bracket is not joint to what follows it.
    cases hordinary with
    | punct _ _ _ => simp [afterOperator?] at hafter
    | joint _ hpair _ => exact absurd hpair (by simp [operatorPairs])
  simp only [afterOperator?]
  cases hsome : (afterOperator? (e :: rest) us).isSome with
  | false => simp_all
  | true => simp [hnone hsome]

/-- Ordinary trees look alike when they are respaced, if their operators stand apart. -/
theorem AreOrdinary.lookAlike {ts us : List TokenTree} (h : AreOrdinary ts)
    (hapart : operatorsStandApart ts = true) (hrespaced : AreRespaced ts us) : LookAlike ts us := by
  induction h generalizing us with
  | nil =>
    cases hrespaced
    exact .nil
  | ident id pos h ih =>
    cases hrespaced with
    | ident _ _ pos' hrespaced => exact .ident id pos pos' (ih hapart hrespaced)
  | number pos hnumber h ih =>
    cases hrespaced with
    | literal _ _ pos' hrespaced => exact .literal _ pos pos' (ih hapart hrespaced)
  | @punct ts c pos hc h ih =>
    obtain ⟨-, hmerge, htail⟩ := operatorsStandApart_cons.mp hapart
    have hquote : c ≠ '\x27' := by
      rintro rfl
      exact absurd hc (by decide)
    cases hrespaced with
    | punct _ _ _ pos' hrespaced => exact (ih htail hrespaced).sameJoint c false pos pos'
    | joint hclose k _ pos' place hrespaced =>
      simp only [TokenTree.mergesWith, List.contains_eq_mem, decide_eq_false_iff_not] at hmerge
      exact (ih htail hrespaced).joined hquote h hclose hmerge pos pos'
  | joint pos hpair h ih =>
    obtain ⟨-, -, htail⟩ := operatorsStandApart_cons.mp hapart
    cases hrespaced with
    | punct _ _ _ pos' hrespaced => exact (ih htail hrespaced).sameJoint _ true pos pos'
  | lifetime id pos pos' h ih =>
    obtain ⟨-, -, hname⟩ := operatorsStandApart_cons.mp hapart
    obtain ⟨-, -, htail⟩ := operatorsStandApart_cons.mp hname
    cases hrespaced with
    | punct _ _ _ place hrespaced =>
      cases hrespaced with
      | ident _ _ place' hrespaced =>
        exact LookAlike.sameJoint (.ident id pos' place' (ih htail hrespaced)) _ true pos place
  | group hd opened closed hcontent h ihcontent ih =>
    obtain ⟨hinside, -, htail⟩ := operatorsStandApart_cons.mp hapart
    cases hrespaced with
    | group _ _ _ opened' closed' hinner hrespaced =>
      exact .group _ opened closed opened' closed' (ihcontent hinside hinner) (ih htail hrespaced)

end BuilderGen.Code
