import BuilderGen.Proofs.SelfTypes
import BuilderGen.Proofs.TreeConstancy

/-!
# What is written in place of `Self`

A field type is handed to a builder with the source in place of `Self`. Here this is said of the
tokens, for types with anything inside them: each part of a type is written as before, except that
the source is written for `Self` where a type starts. One part more is written: a receiver inside of
a type that does not say what it is, such as `&self`, says it afterwards.
-/

namespace BuilderGen

open Code

namespace Code

/-! ### Trees before and after -/

/-- What some trees become when `Self` is replaced by the type `s` in them. `Self` may also stay, as
the name of something that is no type. -/
inductive SelfReplaced (s : Ty) : List TokenTree → List TokenTree → Prop where
  /-- Trees stay as they are. -/
  | same (trees : List TokenTree) : SelfReplaced s trees trees
  /-- Each part is replaced in its place. -/
  | append {a a' b b' : List TokenTree} :
      SelfReplaced s a a' → SelfReplaced s b b' → SelfReplaced s (a ++ b) (a' ++ b')
  /-- Brackets stay around what is replaced inside. -/
  | enclosed (d : Delimiter) {a a' : List TokenTree} :
      SelfReplaced s a a' → SelfReplaced s [.enclosed d a] [.enclosed d a']
  /-- `Self`, with arguments of its own if it has any, becomes the type. -/
  | alone {name : Ident} (h : name.is "Self" = true) (args : Arguments) :
      SelfReplaced s (Segment.tokens ⟨name, args⟩) s.tokens
  /-- `Self` before other segments becomes the type in angle brackets. -/
  | start {name : Ident} (h : name.is "Self" = true) (args : Arguments) {a a' : List TokenTree} :
      SelfReplaced s a a' →
        SelfReplaced s (Segment.tokens ⟨name, args⟩ ++ operatorTokens "::" ++ a)
          (operatorTokens "<" ++ s.tokens ++ operatorTokens ">" ++ operatorTokens "::" ++ a')
  /-- A receiver is said to be of the type. -/
  | receiver : SelfReplaced s [.word "self"] ([.word "self"] ++ (operatorTokens ":" ++ s.tokens))
  /-- A receiver is said to be a reference to the type. -/
  | borrowed (lifetime : Option Ident) (isMut : Bool) :
      SelfReplaced s [.word "self"]
        ([.word "self"] ++ (operatorTokens ":" ++ (Ty.reference lifetime isMut s).tokens))

namespace SelfReplaced

variable {s : Ty} {a a' b b' : List TokenTree}

theorem cons (t : TokenTree) (h : SelfReplaced s a a') : SelfReplaced s (t :: a) (t :: a') :=
  (SelfReplaced.same [t]).append h

theorem after (trees : List TokenTree) (h : SelfReplaced s a a') :
    SelfReplaced s (trees ++ a) (trees ++ a') :=
  (SelfReplaced.same trees).append h

theorem keep (h : SelfReplaced s a a') (trees : List TokenTree) :
    SelfReplaced s (a ++ trees) (a' ++ trees) :=
  h.append (.same trees)

/-- A separator stays as long as there is something to separate. -/
theorem separator {present present' : Bool} (h : SelfReplaced s a a') (text : String)
    (hpresent : present' = present) :
    SelfReplaced s (a ++ separatorTokens present text) (a' ++ separatorTokens present' text) :=
  hpresent ▸ h.keep _

theorem unlessEmpty {empty empty' : Bool} (hempty : empty' = empty) (h : SelfReplaced s a a') :
    SelfReplaced s (if empty then [] else a) (if empty' then [] else a') := by
  subst hempty
  cases empty'
  · exact h
  · exact .same _

theorem inParens {parens parens' : Bool} (hparens : parens' = parens) (h : SelfReplaced s a a') :
    SelfReplaced s (if parens then [.enclosed .parenthesis a] else a)
      (if parens' then [.enclosed .parenthesis a'] else a') := by
  subst hparens
  cases parens'
  · exact h
  · exact h.enclosed _

theorem byCases {p : Prop} [Decidable p] (ha : SelfReplaced s a a') (hb : SelfReplaced s b b') :
    SelfReplaced s (if p then a else b) (if p then a' else b') := by
  split
  · exact ha
  · exact hb

end SelfReplaced

/-! ### Lists with lifetimes first -/

/-- What the parts of a list in which lifetimes come first become. -/
def PartsReplaced (s : Ty) : List ListPart → List ListPart → Prop :=
  List.Forall₂ fun p p' => p'.isLifetime = p.isLifetime ∧ SelfReplaced s p.tokens p'.tokens

section

variable {s : Ty} {ps ps' : List ListPart}

theorem PartsReplaced.isEmpty (h : PartsReplaced s ps ps') : ps'.isEmpty = ps.isEmpty := by
  cases h <;> rfl

theorem leadingTokens_replaced (trailing ended : Bool) (h : PartsReplaced s ps ps') :
    SelfReplaced s (leadingTokens trailing ended ps).1 (leadingTokens trailing ended ps').1 ∧
      (leadingTokens trailing ended ps').2 = (leadingTokens trailing ended ps).2 := by
  induction h generalizing ended with
  | nil => exact ⟨.same _, rfl⟩
  | @cons p p' rest rest' hp hrest ih =>
    obtain ⟨hlifetime, htokens⟩ := hp
    rw [leadingTokens, leadingTokens, hlifetime, PartsReplaced.isEmpty hrest]
    split
    · exact ⟨(htokens.keep _).append (ih _).1, (ih _).2⟩
    · exact ih _

theorem laterTokens_replaced (trailing ended : Bool) (h : PartsReplaced s ps ps') :
    SelfReplaced s (laterTokens trailing ended ps) (laterTokens trailing ended ps') := by
  induction h generalizing ended with
  | nil => exact .same _
  | @cons p p' rest rest' hp hrest ih =>
    obtain ⟨hlifetime, htokens⟩ := hp
    rw [laterTokens, laterTokens, hlifetime, PartsReplaced.isEmpty hrest]
    split
    · exact ih _
    · exact ((htokens.after _).keep _).append (ih _)

theorem lifetimesFirst_replaced (trailing : Bool) (h : PartsReplaced s ps ps') :
    SelfReplaced s (lifetimesFirst trailing ps) (lifetimesFirst trailing ps') := by
  obtain ⟨htokens, hended⟩ := leadingTokens_replaced trailing true h
  change SelfReplaced s (_ ++ laterTokens trailing _ ps) (_ ++ laterTokens trailing _ ps')
  rw [hended]
  exact htokens.append (laterTokens_replaced trailing _ h)

end

/-! ### Parts that may be absent -/

/-- What something that may be absent becomes. -/
def MaybeReplaced (s : Ty) {α : Type} (tokens : α → List TokenTree) :
    Option α → Option α → Prop :=
  Option.Rel fun t t' => SelfReplaced s (tokens t) (tokens t')

/-- Generic parameters stay lifetimes or not. -/
def ParamsReplaced (s : Ty) : List GenericParam → List GenericParam → Prop :=
  List.Forall₂ fun p p' => p'.isLifetime = p.isLifetime ∧ SelfReplaced s p.tokens p'.tokens

/-- Generic parameters and their where clause are written in different places. -/
structure GenericsReplaced (s : Ty) (g g' : Generics) : Prop where
  /-- What the parameters become. -/
  params : SelfReplaced s g.tokens g'.tokens
  /-- What the where clause becomes. -/
  clause : SelfReplaced s g.whereTokens g'.whereTokens

section

variable {s : Ty}

/-- What is written when something is there keeps its front. -/
theorem MaybeReplaced.written {α : Type} {tokens : α → List TokenTree} {t t' : Option α}
    (h : MaybeReplaced s tokens t t') (write : Option α → List TokenTree) (front : List TokenTree)
    (hsome : ∀ x, write (some x) = front ++ tokens x) :
    SelfReplaced s (write t) (write t') := by
  cases h with
  | none => exact .same _
  | some h =>
    rw [hsome, hsome]
    exact h.after front

theorem roleTokens_replaced {t t' : Option Path} (h : MaybeReplaced s Path.tokens t t') :
    SelfReplaced s (roleTokens t) (roleTokens t') :=
  h.written roleTokens [.word "as"] fun _ => rfl

theorem resultTokens_replaced {t t' : Option Ty} (h : MaybeReplaced s Ty.tokens t t') :
    SelfReplaced s (resultTokens t) (resultTokens t') :=
  h.written resultTokens (operatorTokens "->") fun _ => rfl

theorem typeValueTokens_replaced {t t' : Option Ty} (h : MaybeReplaced s Ty.tokens t t') :
    SelfReplaced s (typeValueTokens t) (typeValueTokens t') :=
  h.written typeValueTokens (operatorTokens "=") fun _ => rfl

theorem exprTokens?_replaced {t t' : Option Expr} (h : MaybeReplaced s Expr.tokens t t') :
    SelfReplaced s (exprTokens? t) (exprTokens? t') :=
  h.written exprTokens? [] fun _ => rfl

theorem valueTokens_replaced (operator : String) {t t' : Option Expr}
    (h : MaybeReplaced s Expr.tokens t t') :
    SelfReplaced s (valueTokens operator t) (valueTokens operator t') :=
  h.written (valueTokens operator) (operatorTokens operator) fun _ => rfl

theorem otherwiseTokens_replaced {t t' : Option Expr} (h : MaybeReplaced s Expr.tokens t t') :
    SelfReplaced s (otherwiseTokens t) (otherwiseTokens t') :=
  h.written otherwiseTokens [.word "else"] fun _ => rfl

theorem guardTokens_replaced {t t' : Option Expr} (h : MaybeReplaced s Expr.tokens t t') :
    SelfReplaced s (guardTokens t) (guardTokens t') :=
  h.written guardTokens [.word "if"] fun _ => rfl

theorem paramListTokens_replaced (trailing : Bool) {ts ts' : List GenericParam}
    (h : ParamsReplaced s ts ts') :
    SelfReplaced s (paramListTokens trailing ts) (paramListTokens trailing ts') := by
  induction h with
  | nil => exact .same _
  | cons hp hrest ih => exact (hp.2.separator "," (by cases hrest <;> rfl)).append ih

theorem paramParts_replaced {ts ts' : List GenericParam} (h : ParamsReplaced s ts ts') :
    PartsReplaced s (paramParts ts) (paramParts ts') := by
  induction h with
  | nil => exact .nil
  | cons hp _ ih => exact .cons hp ih

theorem whereTokens_replaced (ps ps' : List GenericParam) (trailing predicatesTrailing : Bool)
    {f : Path → Ty} {ts : List Predicate}
    (h : SelfReplaced s (predicatesTokens predicatesTrailing ts)
      (predicatesTokens predicatesTrailing (substPredicates f ts))) :
    SelfReplaced s (Generics.whereTokens ⟨ps, trailing, ts, predicatesTrailing⟩)
      (Generics.whereTokens ⟨ps', trailing, substPredicates f ts, predicatesTrailing⟩) := by
  cases ts with
  | nil => exact .same _
  | cons first rest => exact h.after _

end

/-! ### What a substitution does not change -/

theorem Argument.isLifetime_subst (f : Path → Ty) (a : Argument) :
    (a.subst f).isLifetime = a.isLifetime := by
  cases a <;> rfl

theorem GenericParam.isLifetime_subst (f : Path → Ty) (p : GenericParam) :
    (p.subst f).isLifetime = p.isLifetime := by
  cases p <;> rfl

theorem Expr.isRange_subst (f : Path → Ty) (e : Expr) : (e.subst f).isRange = e.isRange := by
  cases e <;> rfl

theorem Pattern.isRange_subst (f : Path → Ty) (p : Pattern) : (p.subst f).isRange = p.isRange := by
  cases p <;> rfl

theorem Expr.standsAlone_subst (f : Path → Ty) (e : Expr) :
    (e.subst f).standsAlone = e.standsAlone := by
  have hunmarked : (e.subst f).unmarked = e.unmarked.subst f := by
    cases e <;> rfl
  rw [Expr.standsAlone, Expr.standsAlone, hunmarked]
  cases e.unmarked with
  | block head inner body => cases head <;> rfl
  | _ => rfl

/-! ### Paths and receivers -/

/-- Whether a type is `Self`. -/
def Ty.isSelf : Ty → Bool
  | .path p => p.single?.any (·.is "Self")
  | _ => false

/-- A receiver that is of the type, has it written. -/
def Ty.IsAlwaysWritten (s : Ty) : Prop := ∀ byRef isMut, isImpliedReceiver byRef isMut s = false

theorem Path.isSelf_of_not_start {name : Ident} (h : ¬name.is "Self" = true) (args : Arguments)
    (rest : List Segment) : (Ty.path ⟨false, ⟨name, args⟩ :: rest⟩).isSelf = false := by
  cases rest with
  | nil =>
    cases args with
    | none => exact eq_false_of_ne_true h
    | angled => rfl
    | called => rfl
  | cons next rest => cases args <;> rfl

/-- The type that a path is when `Self` means `s`: `s` itself, a path below it, or the path. -/
theorem Path.withSelf_cases (s : Ty) (path : Path) :
    Path.withSelf s path = s ∨ (∃ rest, Path.withSelf s path = .qualified s none rest) ∨
      (Path.withSelf s path = .path path ∧ (Ty.path path).isSelf = false) := by
  obtain ⟨rooted, segments⟩ := path
  cases rooted with
  | true => exact .inr (.inr ⟨rfl, rfl⟩)
  | false =>
    cases segments with
    | nil => exact .inr (.inr ⟨rfl, rfl⟩)
    | cons first rest =>
      obtain ⟨name, args⟩ := first
      rw [Path.withSelf]
      by_cases hname : name.is "Self" = true
      · rw [if_pos hname]
        cases rest with
        | nil => exact .inl rfl
        | cons next rest => exact .inr (.inl ⟨_, rfl⟩)
      · rw [if_neg hname]
        exact .inr (.inr ⟨rfl, Path.isSelf_of_not_start hname args rest⟩)

theorem Ty.isSelf_subst {s : Ty} (hs : s.isSelf = false) (t : Ty) :
    (t.subst (Path.withSelf s)).isSelf = false := by
  cases t with
  | path path =>
    change (Path.withSelf s (path.subst _)).isSelf = false
    obtain h | ⟨rest, h⟩ | ⟨h, hpath⟩ := Path.withSelf_cases s (path.subst (Path.withSelf s))
    · rw [h, hs]
    · rw [h]
      rfl
    · rw [h, hpath]
  | _ => rfl

/-- A receiver without a type that is replaced in it, has one afterwards. -/
theorem isImpliedReceiver_subst {s : Ty} (hs : s.IsAlwaysWritten) (byRef isMut : Bool) (t : Ty) :
    isImpliedReceiver byRef isMut (t.subst (Path.withSelf s)) = false := by
  have hself : s.isSelf = false := by
    have h := hs false false
    cases s <;> first | exact h | rfl
  cases t with
  | path path =>
    change isImpliedReceiver byRef isMut (Path.withSelf s (path.subst _)) = false
    obtain h | ⟨rest, h⟩ | ⟨h, hpath⟩ := Path.withSelf_cases s (path.subst (Path.withSelf s))
    · rw [h, hs]
    · rw [h]
      rfl
    · rw [h, isImpliedReceiver, show Option.any _ _ = false from hpath, Bool.and_false]
  | reference lifetime isMut' target =>
    have htarget := Ty.isSelf_subst hself target
    change isImpliedReceiver byRef isMut (.reference lifetime isMut' (target.subst _)) = false
    cases hsubst : target.subst (Path.withSelf s) with
    | path p =>
      rw [hsubst] at htarget
      rw [isImpliedReceiver, show Option.any _ _ = false from htarget, Bool.and_false]
    | _ => rfl
  | _ => rfl

theorem Path.subst_eq_of_isSelf {p : Path} (h : (Ty.path p).isSelf = true) (s : Ty) :
    (Ty.path p).subst (Path.withSelf s) = s := by
  obtain ⟨rooted, segments⟩ := p
  cases rooted with
  | true => cases h
  | false =>
    cases segments with
    | nil => cases h
    | cons first rest =>
      obtain ⟨name, args⟩ := first
      by_cases hname : name.is "Self" = true
      · cases rest with
        | nil =>
          change Path.withSelf s ⟨false, [⟨name, _⟩]⟩ = s
          rw [Path.withSelf, if_pos hname]
          rfl
        | cons next rest => cases args <;> cases h
      · rw [Path.isSelf_of_not_start hname args rest] at h
        cases h

/-- A receiver that has its type from its mark alone, gets `s` for it or a reference to `s`. -/
theorem subst_of_isImpliedReceiver {byRef isMut : Bool} {t : Ty}
    (h : isImpliedReceiver byRef isMut t = true) (s : Ty) :
    t.subst (Path.withSelf s) = s ∨
      ∃ lifetime isMut', t.subst (Path.withSelf s) = .reference lifetime isMut' s := by
  unfold isImpliedReceiver at h
  split at h
  · rename_i lifetime isMut' p
    have hp : (Ty.path p).isSelf = true := (Bool.and_eq_true_iff.mp h).2
    exact .inr ⟨lifetime, isMut', congrArg (Ty.reference lifetime isMut')
      (Path.subst_eq_of_isSelf hp s)⟩
  · exact .inl (Path.subst_eq_of_isSelf (Bool.and_eq_true_iff.mp h).2 s)
  · cases h

/-- A type that starts with `Self` is put in for it, alone or in front of the rest. -/
theorem Ty.subst_self {name : Ident} (h : name.is "Self" = true) (args : Arguments)
    (rest : List Segment) (s : Ty) :
    (Ty.path ⟨false, ⟨name, args⟩ :: rest⟩).subst (Path.withSelf s) =
      if rest.isEmpty then s else .qualified s none (substSegments (Path.withSelf s) rest) := by
  change Path.withSelf s ⟨false, ⟨name, _⟩ :: substSegments _ rest⟩ = _
  rw [Path.withSelf, if_pos h]
  cases rest <;> rfl

theorem SelfReplaced.type {s : Ty} (rooted : Bool) {first : Segment} {rest : List Segment}
    (hfirst : SelfReplaced s first.tokens (first.subst (Path.withSelf s)).tokens)
    (hrest : SelfReplaced s (segmentsTokens rest)
      (segmentsTokens (substSegments (Path.withSelf s) rest))) :
    SelfReplaced s (Ty.path ⟨rooted, first :: rest⟩).tokens
      ((Ty.path ⟨rooted, first :: rest⟩).subst (Path.withSelf s)).tokens := by
  have hpath : SelfReplaced s (Ty.path ⟨rooted, first :: rest⟩).tokens
      (Ty.path (Path.subst (Path.withSelf s) ⟨rooted, first :: rest⟩)).tokens :=
    hfirst |>.separator "::" (by cases rest <;> rfl) |>.append hrest |>.after _
  cases rooted with
  | true => exact hpath
  | false =>
    obtain ⟨name, args⟩ := first
    by_cases hname : name.is "Self" = true
    · rw [Ty.subst_self hname]
      cases rest with
      | nil =>
        have hwhole : (Ty.path ⟨false, [⟨name, args⟩]⟩).tokens = Segment.tokens ⟨name, args⟩ :=
          (List.append_nil _).trans (List.append_nil _)
        rw [hwhole]
        exact .alone hname args
      | cons next rest =>
        have hrole (rest : List Segment) : (Ty.qualified s none rest).tokens =
            operatorTokens "<" ++ s.tokens ++ operatorTokens ">" ++ operatorTokens "::"
              ++ segmentsTokens rest :=
          congrArg (· ++ _ ++ _ ++ _) (List.append_nil _)
        rw [if_neg (by simp), hrole]
        exact .start hname args hrest
    · have hsame : (Ty.path ⟨false, ⟨name, args⟩ :: rest⟩).subst (Path.withSelf s) =
          .path (Path.subst (Path.withSelf s) ⟨false, ⟨name, args⟩ :: rest⟩) := by
        change Path.withSelf s ⟨false, ⟨name, _⟩ :: substSegments _ rest⟩ = _
        rw [Path.withSelf, if_neg hname]
        rfl
      rw [hsame]
      exact hpath

theorem SelfReplaced.ofReceiver {s : Ty} (hs : s.IsAlwaysWritten) (byRef : Bool)
    (lifetime : Option Ident) (isMut colon : Bool) {type : Ty}
    (h : SelfReplaced s type.tokens (type.subst (Path.withSelf s)).tokens) :
    SelfReplaced s (Pattern.receiver byRef lifetime isMut colon type).tokens
      ((Pattern.receiver byRef lifetime isMut colon type).subst (Path.withSelf s)).tokens := by
  let front := separatorTokens byRef "&" ++ lifetimeTokens? lifetime ++ wordTokens isMut "mut"
  have htokens (type : Ty) : (Pattern.receiver byRef lifetime isMut colon type).tokens =
      front ++ ([.word "self"] ++ if colon || !isImpliedReceiver byRef isMut type then
        operatorTokens ":" ++ type.tokens else []) :=
    List.append_assoc ..
  change SelfReplaced s _ (Pattern.receiver byRef lifetime isMut colon (type.subst _)).tokens
  rw [htokens, htokens, isImpliedReceiver_subst hs]
  refine .after front ?_
  by_cases hwritten : (colon || !isImpliedReceiver byRef isMut type) = true
  · rw [if_pos hwritten, if_pos (by simp)]
    exact (h.after _).after _
  · rw [if_neg hwritten, if_pos (by simp), List.append_nil]
    have himplied : isImpliedReceiver byRef isMut type = true := by
      simp only [Bool.or_eq_true, Bool.not_eq_true', not_or, Bool.not_eq_false] at hwritten
      exact hwritten.2
    obtain hsubst | ⟨lifetime, isMut', hsubst⟩ := subst_of_isImpliedReceiver himplied s
    · rw [hsubst]
      exact .receiver
    · rw [hsubst]
      exact .borrowed lifetime isMut'

/-! ### Trees -/

section

variable {s : Ty}

mutual

/-- The tokens of a tree are replaced where it has types, and nowhere else. -/
theorem Ty.tokens_replaced (h : s.IsAlwaysWritten) :
    ∀ t : Ty, SelfReplaced s t.tokens (t.subst (Path.withSelf s)).tokens
  | .path ⟨rooted, []⟩ => by cases rooted <;> exact .same _
  | .path ⟨rooted, first :: rest⟩ =>
    .type rooted (Segment.tokens_replaced h first) (segmentsTokens_replaced h rest)
  | .qualified self role rest =>
    Ty.tokens_replaced h self |>.after _ |>.append (roleTokens_replaced (role_replaced h role))
      |>.keep _ |>.keep _ |>.append (segmentsTokens_replaced h rest)
  | .reference _ _ target => (Ty.tokens_replaced h target).after _
  | .pointer _ target => (Ty.tokens_replaced h target).after _
  | .slice element => (Ty.tokens_replaced h element).enclosed _
  | .array element length =>
    Ty.tokens_replaced h element |>.keep _ |>.append (Expr.tokens_replaced h length) |>.enclosed _
  | .tuple elements trailing => (typesTokens_replaced h trailing elements).enclosed _
  | .paren inner => (Ty.tokens_replaced h inner).enclosed _
  | .never => .same _
  | .infer => .same _
  | .function binder _ params trailing result =>
    binderTokens_replaced h binder |>.keep _ |>.keep _
      |>.append ((fieldsTokens_replaced h trailing params).enclosed _)
      |>.append (resultTokens_replaced (type?_replaced h result))
  | .object _ bounds trailing => (boundsTokens_replaced h trailing bounds).after _
  | .bounded bounds trailing => (boundsTokens_replaced h trailing bounds).cons _
  | .invocation _ => .same _
  | .variadic => .same _
  | .raw _ => .same _

theorem typesTokens_replaced (h : s.IsAlwaysWritten) :
    ∀ (trailing : Bool) (ts : List Ty), SelfReplaced s (typesTokens trailing ts)
      (typesTokens trailing (substTypes (Path.withSelf s) ts))
  | _, [] => .same _
  | trailing, t :: rest =>
    Ty.tokens_replaced h t |>.separator "," (by cases rest <;> rfl)
      |>.append (typesTokens_replaced h trailing rest)

theorem type?_replaced (h : s.IsAlwaysWritten) :
    ∀ t : Option Ty, MaybeReplaced s Ty.tokens t (substType? (Path.withSelf s) t)
  | none => .none
  | some t => .some (Ty.tokens_replaced h t)

theorem role_replaced (h : s.IsAlwaysWritten) :
    ∀ t : Option Path, MaybeReplaced s Path.tokens t (substRole (Path.withSelf s) t)
  | none => .none
  | some t => .some (Path.tokens_replaced h t)

theorem Path.tokens_replaced (h : s.IsAlwaysWritten) :
    ∀ path : Path, SelfReplaced s path.tokens (path.subst (Path.withSelf s)).tokens
  | ⟨_, segments⟩ => (segmentsTokens_replaced h segments).after _

theorem segmentsTokens_replaced (h : s.IsAlwaysWritten) :
    ∀ ts, SelfReplaced s (segmentsTokens ts) (segmentsTokens (substSegments (Path.withSelf s) ts))
  | [] => .same _
  | t :: rest =>
    Segment.tokens_replaced h t |>.separator "::" (by cases rest <;> rfl)
      |>.append (segmentsTokens_replaced h rest)

theorem Segment.tokens_replaced (h : s.IsAlwaysWritten) :
    ∀ t : Segment, SelfReplaced s t.tokens (t.subst (Path.withSelf s)).tokens
  | ⟨_, args⟩ => (Arguments.tokens_replaced h args).cons _

theorem Arguments.tokens_replaced (h : s.IsAlwaysWritten) :
    ∀ t : Arguments, SelfReplaced s t.tokens (t.subst (Path.withSelf s)).tokens
  | .none => .same _
  | .angled _ args trailing =>
    lifetimesFirst_replaced trailing (argumentParts_replaced h args) |>.after _ |>.keep _
  | .called inputs trailing result =>
    typesTokens_replaced h trailing inputs |>.enclosed _
      |>.append (resultTokens_replaced (type?_replaced h result))

theorem argumentParts_replaced (h : s.IsAlwaysWritten) :
    ∀ ts, PartsReplaced s (argumentParts ts) (argumentParts (substArguments (Path.withSelf s) ts))
  | [] => .nil
  | t :: rest =>
    .cons ⟨Argument.isLifetime_subst _ t, Argument.tokens_replaced h t⟩
      (argumentParts_replaced h rest)

theorem Argument.tokens_replaced (h : s.IsAlwaysWritten) :
    ∀ t : Argument, SelfReplaced s t.tokens (t.subst (Path.withSelf s)).tokens
  | .lifetime _ => .same _
  | .type t => Ty.tokens_replaced h t
  | .const value => Expr.tokens_replaced h value
  | .assocType _ args type =>
    Arguments.tokens_replaced h args |>.cons _ |>.keep _ |>.append (Ty.tokens_replaced h type)
  | .assocConst _ args value =>
    Arguments.tokens_replaced h args |>.cons _ |>.keep _ |>.append (Expr.tokens_replaced h value)
  | .constraint _ args bounds trailing =>
    Arguments.tokens_replaced h args |>.cons _ |>.keep _
      |>.append (boundsTokens_replaced h trailing bounds)

theorem boundsTokens_replaced (h : s.IsAlwaysWritten) :
    ∀ (trailing : Bool) ts, SelfReplaced s (boundsTokens trailing ts)
      (boundsTokens trailing (substBounds (Path.withSelf s) ts))
  | _, [] => .same _
  | trailing, t :: rest =>
    Bound.tokens_replaced h t |>.separator "+" (by cases rest <;> rfl)
      |>.append (boundsTokens_replaced h trailing rest)

theorem Bound.tokens_replaced (h : s.IsAlwaysWritten) :
    ∀ t : Bound, SelfReplaced s t.tokens (t.subst (Path.withSelf s)).tokens
  | .lifetime _ => .same _
  | .trait _ binder _ path =>
    binderTokens_replaced h binder |>.after _ |>.append (Path.tokens_replaced h path)
      |>.inParens rfl
  | .capture _ _ => .same _
  | .raw _ => .same _

theorem binderTokens_replaced (h : s.IsAlwaysWritten) :
    ∀ t, SelfReplaced s (binderTokens t) (binderTokens (substBinder (Path.withSelf s) t))
  | none => .same _
  | some ⟨params, trailing, _, _⟩ =>
    (paramListTokens_replaced trailing (params_replaced h params)).after (_ :: _) |>.keep _

theorem params_replaced (h : s.IsAlwaysWritten) :
    ∀ ts : List GenericParam, ParamsReplaced s ts (substParams (Path.withSelf s) ts)
  | [] => .nil
  | t :: rest =>
    .cons ⟨GenericParam.isLifetime_subst _ t, GenericParam.tokens_replaced h t⟩
      (params_replaced h rest)

theorem GenericParam.tokens_replaced (h : s.IsAlwaysWritten) :
    ∀ t : GenericParam, SelfReplaced s t.tokens (t.subst (Path.withSelf s)).tokens
  | .lifetime attributes _ _ _ =>
    attributesTokens_replaced h attributes |>.keep _ |>.keep _ |>.keep _
  | .type attributes _ bounds trailing default =>
    attributesTokens_replaced h attributes |>.keep _ |>.separator ":" (by cases bounds <;> rfl)
      |>.append (boundsTokens_replaced h trailing bounds)
      |>.append (typeValueTokens_replaced (type?_replaced h default))
  | .const attributes _ type default =>
    attributesTokens_replaced h attributes |>.keep _ |>.keep _
      |>.append (Ty.tokens_replaced h type)
      |>.append (valueTokens_replaced "=" (expr?_replaced h default))

theorem Predicate.tokens_replaced (h : s.IsAlwaysWritten) :
    ∀ t : Predicate, SelfReplaced s t.tokens (t.subst (Path.withSelf s)).tokens
  | .lifetime .. => .same _
  | .type binder subject bounds trailing =>
    binderTokens_replaced h binder |>.append (Ty.tokens_replaced h subject) |>.keep _
      |>.append (boundsTokens_replaced h trailing bounds)

theorem predicatesTokens_replaced (h : s.IsAlwaysWritten) :
    ∀ (trailing : Bool) ts, SelfReplaced s (predicatesTokens trailing ts)
      (predicatesTokens trailing (substPredicates (Path.withSelf s) ts))
  | _, [] => .same _
  | trailing, t :: rest =>
    Predicate.tokens_replaced h t |>.separator "," (by cases rest <;> rfl)
      |>.append (predicatesTokens_replaced h trailing rest)

theorem Generics.replaced (h : s.IsAlwaysWritten) :
    ∀ t : Generics, GenericsReplaced s t (t.subst (Path.withSelf s))
  | ⟨params, trailing, predicates, predicatesTrailing⟩ =>
    have hparams := params_replaced h params
    ⟨lifetimesFirst_replaced trailing (paramParts_replaced hparams) |>.after _ |>.keep _
      |>.unlessEmpty (by cases params <;> rfl),
      whereTokens_replaced _ _ _ _ (predicatesTokens_replaced h predicatesTrailing predicates)⟩

theorem attributesTokens_replaced (h : s.IsAlwaysWritten) :
    ∀ ts, SelfReplaced s (attributesTokens ts)
      (attributesTokens (substAttributes (Path.withSelf s) ts))
  | [] => .same _
  | t :: rest => (Attribute.tokens_replaced h t).append (attributesTokens_replaced h rest)

theorem Attribute.tokens_replaced (h : s.IsAlwaysWritten) :
    ∀ t : Attribute, SelfReplaced s t.tokens (t.subst (Path.withSelf s)).tokens
  | .bare .. => .same _
  | .list .. => .same _
  | .value _ _ value =>
    Expr.tokens_replaced h value |>.after _ |>.after _ |>.enclosed _ |>.after _

theorem Expr.tokens_replaced (h : s.IsAlwaysWritten) :
    ∀ t : Expr, SelfReplaced s t.tokens (t.subst (Path.withSelf s)).tokens
  | .attributed attributes inner =>
    attributesTokens_replaced h attributes
      |>.append ((Expr.tokens_replaced h inner).inParens (Expr.isRange_subst _ inner))
  | .literal _ => .same _
  | .path path => Path.tokens_replaced h path
  | .qualified self role rest =>
    Ty.tokens_replaced h self |>.after _ |>.append (roleTokens_replaced (role_replaced h role))
      |>.keep _ |>.keep _ |>.append (segmentsTokens_replaced h rest)
  | .invocation _ => .same _
  | .unary _ operand => (Expr.tokens_replaced h operand).after _
  | .binary left _ right =>
    Expr.tokens_replaced h left |>.keep _ |>.append (Expr.tokens_replaced h right)
  | .cast operand type =>
    Expr.tokens_replaced h operand |>.keep _ |>.append (Ty.tokens_replaced h type)
  | .reference _ operand => (Expr.tokens_replaced h operand).after _
  | .address _ operand => (Expr.tokens_replaced h operand).after _
  | .paren inner => (Expr.tokens_replaced h inner).enclosed _
  | .tuple elements trailing => (exprsTokens_replaced h trailing elements).enclosed _
  | .array elements trailing => (exprsTokens_replaced h trailing elements).enclosed _
  | .repeated element length =>
    Expr.tokens_replaced h element |>.keep _ |>.append (Expr.tokens_replaced h length)
      |>.enclosed _
  | .call function args trailing =>
    Expr.tokens_replaced h function |>.append ((exprsTokens_replaced h trailing args).enclosed _)
  | .method receiver _ generics args trailing =>
    Expr.tokens_replaced h receiver |>.keep _ |>.keep _
      |>.append (Arguments.tokens_replaced h generics)
      |>.append ((exprsTokens_replaced h trailing args).enclosed _)
  | .field base _ => Expr.tokens_replaced h base |>.keep _ |>.keep _
  | .index base position =>
    Expr.tokens_replaced h base |>.append ((Expr.tokens_replaced h position).enclosed _)
  | .await base => Expr.tokens_replaced h base |>.keep _ |>.keep _
  | .propagate base => (Expr.tokens_replaced h base).keep _
  | .range start _ finish =>
    exprTokens?_replaced (expr?_replaced h start) |>.keep _
      |>.append (exprTokens?_replaced (expr?_replaced h finish))
  | .struct path fields trailing =>
    Expr.tokens_replaced h path |>.append ((entriesTokens_replaced h trailing fields).enclosed _)
  | .block _ inner body =>
    attributesTokens_replaced h inner |>.append (entriesTokens_replaced h false body)
      |>.enclosed _ |>.after _
  | .whileLoop _ condition body =>
    Expr.tokens_replaced h condition |>.after _ |>.append (Expr.tokens_replaced h body)
  | .forLoop _ pattern source body =>
    Pattern.tokens_replaced h pattern |>.after _ |>.keep _
      |>.append (Expr.tokens_replaced h source) |>.append (Expr.tokens_replaced h body)
  | .conditional condition body otherwise =>
    Expr.tokens_replaced h condition |>.cons _ |>.append (Expr.tokens_replaced h body)
      |>.append (otherwiseTokens_replaced (expr?_replaced h otherwise))
  | .matching subject inner arms =>
    Expr.tokens_replaced h subject |>.cons _
      |>.append ((attributesTokens_replaced h inner
        |>.append (entriesTokens_replaced h false arms)).enclosed _)
  | .closure binder _ params trailing result body =>
    binderTokens_replaced h binder |>.keep _ |>.keep _
      |>.append (patternsTokens_replaced h "," trailing params) |>.keep _
      |>.append (resultTokens_replaced (type?_replaced h result))
      |>.append (Expr.tokens_replaced h body)
  | .binding pattern value =>
    Pattern.tokens_replaced h pattern |>.cons _ |>.keep _ |>.append (Expr.tokens_replaced h value)
  | .jump _ _ value => (exprTokens?_replaced (expr?_replaced h value)).after (_ :: _)
  | .infer => .same _
  | .raw _ => .same _

theorem exprsTokens_replaced (h : s.IsAlwaysWritten) :
    ∀ (trailing : Bool) ts, SelfReplaced s (exprsTokens trailing ts)
      (exprsTokens trailing (substExprs (Path.withSelf s) ts))
  | _, [] => .same _
  | trailing, t :: rest =>
    Expr.tokens_replaced h t |>.separator "," (by cases rest <;> rfl)
      |>.append (exprsTokens_replaced h trailing rest)

theorem expr?_replaced (h : s.IsAlwaysWritten) :
    ∀ t : Option Expr, MaybeReplaced s Expr.tokens t (substExpr? (Path.withSelf s) t)
  | none => .none
  | some t => .some (Expr.tokens_replaced h t)

theorem entriesTokens_replaced (h : s.IsAlwaysWritten) :
    ∀ (trailing : Bool) ts, SelfReplaced s (entriesTokens trailing ts)
      (entriesTokens trailing (substEntries (Path.withSelf s) ts))
  | _, [] => .same _
  | trailing, t :: rest => by
    have hmore : (!(substEntries (Path.withSelf s) rest).isEmpty) = !rest.isEmpty := by
      cases rest <;> rfl
    have ht := Entry.tokens_replaced h (!rest.isEmpty) trailing t
    rw [entriesTokens, substEntries, entriesTokens, hmore]
    exact ht.append (entriesTokens_replaced h trailing rest)

theorem Entry.tokens_replaced (h : s.IsAlwaysWritten) :
    ∀ (more trailing : Bool) (t : Entry), SelfReplaced s (t.tokens more trailing)
      ((t.subst (Path.withSelf s)).tokens more trailing)
  | _, _, .field attributes _ _ value =>
    attributesTokens_replaced h attributes
      |>.append (((Expr.tokens_replaced h value).after _).byCases (.same _)) |>.keep _
  | _, _, .rest value => (exprTokens?_replaced (expr?_replaced h value)).after _
  | _, _, .arm attributes pattern guard body _ =>
    attributesTokens_replaced h attributes |>.append (Pattern.tokens_replaced h pattern)
      |>.append (guardTokens_replaced (expr?_replaced h guard)) |>.keep _
      |>.append (Expr.tokens_replaced h body)
      |>.separator "," (by rw [Expr.standsAlone_subst])
  | _, _, .empty => .same _
  | _, _, .declare attributes pattern value otherwise =>
    attributesTokens_replaced h attributes |>.keep _ |>.append (Pattern.tokens_replaced h pattern)
      |>.append (valueTokens_replaced "=" (expr?_replaced h value))
      |>.append (otherwiseTokens_replaced (expr?_replaced h otherwise)) |>.keep _
  | _, _, .item item => Item.tokens_replaced h item
  | _, _, .expr value _ => (Expr.tokens_replaced h value).keep _
  | _, _, .invocation attributes _ _ => attributesTokens_replaced h attributes |>.keep _ |>.keep _

theorem Pattern.tokens_replaced (h : s.IsAlwaysWritten) :
    ∀ t : Pattern, SelfReplaced s t.tokens (t.subst (Path.withSelf s)).tokens
  | .attributed attributes inner =>
    attributesTokens_replaced h attributes
      |>.append ((Pattern.tokens_replaced h inner).inParens (Pattern.isRange_subst _ inner))
  | .value value => Expr.tokens_replaced h value
  | .ident .. => .same _
  | .bound _ _ _ inner => (Pattern.tokens_replaced h inner).after _
  | .invocation _ => .same _
  | .alternatives _ cases => (patternsTokens_replaced h "|" false cases).after _
  | .paren inner => (Pattern.tokens_replaced h inner).enclosed _
  | .reference _ target => (Pattern.tokens_replaced h target).after _
  | .rest => .same _
  | .wild => .same _
  | .range start _ finish =>
    exprTokens?_replaced (expr?_replaced h start) |>.keep _
      |>.append (exprTokens?_replaced (expr?_replaced h finish))
  | .slice elements trailing => (patternsTokens_replaced h "," trailing elements).enclosed _
  | .tuple elements trailing => (patternsTokens_replaced h "," trailing elements).enclosed _
  | .struct path fields trailing =>
    Expr.tokens_replaced h path
      |>.append ((patternsTokens_replaced h "," trailing fields).enclosed _)
  | .field _ pattern => (Pattern.tokens_replaced h pattern).after _
  | .called path elements trailing =>
    Expr.tokens_replaced h path
      |>.append ((patternsTokens_replaced h "," trailing elements).enclosed _)
  | .typed pattern type =>
    Pattern.tokens_replaced h pattern |>.keep _ |>.append (Ty.tokens_replaced h type)
  | .receiver byRef lifetime isMut colon type =>
    .ofReceiver h byRef lifetime isMut colon (Ty.tokens_replaced h type)
  | .variadic => .same _
  | .raw _ => .same _

theorem patternsTokens_replaced (h : s.IsAlwaysWritten) :
    ∀ (separator : String) (trailing : Bool) ts,
      SelfReplaced s (patternsTokens separator trailing ts)
        (patternsTokens separator trailing (substPatterns (Path.withSelf s) ts))
  | _, _, [] => .same _
  | separator, trailing, t :: rest =>
    Pattern.tokens_replaced h t |>.separator separator (by cases rest <;> rfl)
      |>.append (patternsTokens_replaced h separator trailing rest)

theorem fieldsTokens_replaced (h : s.IsAlwaysWritten) :
    ∀ (trailing : Bool) ts, SelfReplaced s (fieldsTokens trailing ts)
      (fieldsTokens trailing (substFields (Path.withSelf s) ts))
  | _, [] => .same _
  | trailing, t :: rest =>
    Field.tokens_replaced h t |>.separator "," (by cases rest <;> rfl)
      |>.append (fieldsTokens_replaced h trailing rest)

theorem Field.tokens_replaced (h : s.IsAlwaysWritten) :
    ∀ t : Field, SelfReplaced s t.tokens (t.subst (Path.withSelf s)).tokens
  | ⟨attributes, _, _, _, type⟩ =>
    attributesTokens_replaced h attributes |>.keep _ |>.keep _
      |>.append (Ty.tokens_replaced h type)

theorem Struct.tokens_replaced (h : s.IsAlwaysWritten) :
    ∀ t : Struct, SelfReplaced s t.tokens (t.subst (Path.withSelf s)).tokens
  | ⟨attributes, _, _, _, generics, shape, fields, trailing⟩ => by
    have hfront := attributesTokens_replaced h attributes
    have hgenerics := (Generics.replaced h generics).params
    have hwhere := (Generics.replaced h generics).clause
    have hfields := fieldsTokens_replaced h trailing fields
    refine hfront |>.keep _ |>.keep _ |>.append hgenerics |>.append ?_
    cases shape with
    | named => exact hwhere.append (hfields.enclosed _)
    | positional => exact hfields.enclosed _ |>.append hwhere |>.keep _
    | unit => exact hwhere.keep _

theorem Variant.tokens_replaced (h : s.IsAlwaysWritten) :
    ∀ t : Variant, SelfReplaced s t.tokens (t.subst (Path.withSelf s)).tokens
  | ⟨attributes, _, shape, fields, trailing, value⟩ => by
    have hfront := attributesTokens_replaced h attributes
    have hfields := fieldsTokens_replaced h trailing fields
    have hvalue := valueTokens_replaced "=" (expr?_replaced h value)
    refine hfront |>.keep _ |>.append ?_ |>.append hvalue
    cases shape with
    | named => exact hfields.enclosed _
    | positional => exact hfields.enclosed _
    | unit => exact .same _

theorem variantsTokens_replaced (h : s.IsAlwaysWritten) :
    ∀ (trailing : Bool) ts, SelfReplaced s (variantsTokens trailing ts)
      (variantsTokens trailing (substVariants (Path.withSelf s) ts))
  | _, [] => .same _
  | trailing, t :: rest =>
    Variant.tokens_replaced h t |>.separator "," (by cases rest <;> rfl)
      |>.append (variantsTokens_replaced h trailing rest)

theorem Item.tokens_replaced (h : s.IsAlwaysWritten) :
    ∀ t : Item, SelfReplaced s t.tokens (t.subst (Path.withSelf s)).tokens
  | .const attributes _ _ _ _ type value =>
    attributesTokens_replaced h attributes |>.keep _ |>.keep _ |>.keep _ |>.keep _
      |>.append (Ty.tokens_replaced h type)
      |>.append (valueTokens_replaced "=" (expr?_replaced h value)) |>.keep _
  | .static attributes _ _ _ type value =>
    attributesTokens_replaced h attributes |>.keep _ |>.keep _ |>.keep _ |>.keep _ |>.keep _
      |>.append (Ty.tokens_replaced h type)
      |>.append (valueTokens_replaced "=" (expr?_replaced h value)) |>.keep _
  | .typeAlias attributes _ _ _ _ generics bounds trailing type =>
    attributesTokens_replaced h attributes |>.keep _ |>.keep _ |>.keep _
      |>.append (Generics.replaced h generics).params |>.separator ":" (by cases bounds <;> rfl)
      |>.append (boundsTokens_replaced h trailing bounds)
      |>.append (SelfReplaced.byCases
        ((Generics.replaced h generics).clause
          |>.append (typeValueTokens_replaced (type?_replaced h type)))
        (typeValueTokens_replaced (type?_replaced h type)
          |>.append (Generics.replaced h generics).clause))
      |>.keep _
  | .function attributes _ _ _ generics params trailing result body => by
    have hbody := expr?_replaced h body
    cases body <;>
      refine attributesTokens_replaced h attributes |>.keep _ |>.keep _ |>.keep _
        |>.append (Generics.replaced h generics).params
        |>.append ((patternsTokens_replaced h "," trailing params).enclosed _)
        |>.append (resultTokens_replaced (type?_replaced h result))
        |>.append (Generics.replaced h generics).clause |>.append ?_
    · exact .same _
    · cases hbody with
      | some hblock => exact hblock
  | .invocation attributes _ _ => attributesTokens_replaced h attributes |>.keep _ |>.keep _
  | .struct value => Struct.tokens_replaced h value
  | .enum attributes _ _ generics variants trailing =>
    attributesTokens_replaced h attributes |>.keep _ |>.keep _
      |>.append (Generics.replaced h generics).params
      |>.append (Generics.replaced h generics).clause
      |>.append ((variantsTokens_replaced h trailing variants).enclosed _)
  | .union attributes _ _ generics fields trailing =>
    attributesTokens_replaced h attributes |>.keep _ |>.keep _
      |>.append (Generics.replaced h generics).params
      |>.append (Generics.replaced h generics).clause
      |>.append ((fieldsTokens_replaced h trailing fields).enclosed _)
  | .trait attributes _ _ _ _ generics bounds trailing inner items =>
    attributesTokens_replaced h attributes |>.keep _ |>.keep _ |>.keep _ |>.keep _
      |>.append (Generics.replaced h generics).params |>.separator ":" (by cases bounds <;> rfl)
      |>.append (boundsTokens_replaced h trailing bounds)
      |>.append (Generics.replaced h generics).clause
      |>.append ((attributesTokens_replaced h inner
        |>.append (itemsTokens_replaced h items)).enclosed _)
  | .traitAlias attributes _ _ generics bounds trailing =>
    attributesTokens_replaced h attributes |>.keep _ |>.keep _
      |>.append (Generics.replaced h generics).params |>.keep _
      |>.append (boundsTokens_replaced h trailing bounds)
      |>.append (Generics.replaced h generics).clause |>.keep _
  | .implementation attributes _ _ generics negative role self inner items => by
    have hrole := role_replaced h role
    cases role <;>
      refine attributesTokens_replaced h attributes |>.keep _ |>.keep _ |>.keep _
        |>.append (Generics.replaced h generics).params |>.append ?_
        |>.append (Ty.tokens_replaced h self) |>.append (Generics.replaced h generics).clause
        |>.append ((attributesTokens_replaced h inner
          |>.append (itemsTokens_replaced h items)).enclosed _)
    · exact .same _
    · cases hrole with
      | some hpath => exact hpath |>.after _ |>.keep _
  | .module attributes _ _ _ inner items =>
    attributesTokens_replaced h attributes |>.keep _ |>.keep _
      |>.append ((attributesTokens_replaced h inner |>.append (itemsTokens_replaced h items)
        |>.enclosed _).after [_, _])
  | .outlineModule attributes _ _ _ =>
    attributesTokens_replaced h attributes |>.keep _ |>.keep _ |>.keep _ |>.keep _
  | .foreign attributes _ _ inner items =>
    attributesTokens_replaced h attributes |>.keep _ |>.keep _
      |>.append ((attributesTokens_replaced h inner
        |>.append (itemsTokens_replaced h items)).enclosed _)
  | .externCrate attributes _ _ _ =>
    attributesTokens_replaced h attributes |>.keep _ |>.keep _ |>.keep _ |>.keep _
  | .use attributes _ _ _ =>
    attributesTokens_replaced h attributes |>.keep _ |>.keep _ |>.keep _ |>.keep _ |>.keep _
  | .raw _ => .same _

theorem itemsTokens_replaced (h : s.IsAlwaysWritten) :
    ∀ ts, SelfReplaced s (itemsTokens ts) (itemsTokens (substItems (Path.withSelf s) ts))
  | [] => .same _
  | t :: rest => (Item.tokens_replaced h t).append (itemsTokens_replaced h rest)

end

end
end Code

end BuilderGen
