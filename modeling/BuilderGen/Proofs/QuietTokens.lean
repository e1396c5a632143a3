import BuilderGen.Proofs.Outlines
import Mathlib.Tactic.SplitIfs

/-!
# Quiet tokens

The tokens of a type, a bound or a generic parameter are quiet if those of its parts are. A keyword
that declares something stands in them only between brackets, as in the length of an array.
-/

namespace BuilderGen.Code

theorem isQuiet_lifetimeSumTokens (bounds : List Ident) (trailing : Bool) :
    IsQuiet (lifetimeSumTokens bounds trailing) := by
  induction bounds with
  | nil => exact isQuiet_nil
  | cons l rest ih => simpa [lifetimeSumTokens] using ih

theorem isQuiet_namesTokens {names : List Ident} (h : ∀ id ∈ names, declares id = false)
    (rooted : Bool) : IsQuiet (namesTokens rooted names) := by
  induction names generalizing rooted with
  | nil => simp [namesTokens]
  | cons id rest ih =>
    have hrest := ih (fun id hid => h id (List.mem_cons_of_mem _ hid)) true
    have hid := h id List.mem_cons_self
    rw [namesTokens]
    split <;> simp [hid, hrest]

theorem Convention.isQuiet_tokens (c : Convention) : IsQuiet c.tokens := by
  rcases c with _ | _ | text <;> simp [Convention.tokens]

theorem FunctionHead.isQuiet_tokens (head : FunctionHead) : IsQuiet head.tokens := by
  simp [FunctionHead.tokens, Convention.isQuiet_tokens]

theorem isQuiet_literalTokens (text : String) : IsQuiet (literalTokens text) := by
  unfold literalTokens
  split_ifs <;> simp

/-- The tokens of attributes are quiet, whatever is in their brackets. -/
theorem isQuiet_attributesTokens (attributes : List Attribute) :
    IsQuiet (attributesTokens attributes) := by
  induction attributes with
  | nil => exact isQuiet_nil
  | cons a rest ih =>
    have ha : IsQuiet a.tokens := by cases a <;> simp [Attribute.tokens, AttributeHead.tokens]
    simp [attributesTokens, ha, ih]

theorem Visibility.isQuiet_tokens (v : Visibility) : IsQuiet v.tokens := by
  cases v <;> simp [Visibility.tokens]

section Parts

variable {parts : List ListPart} (h : ∀ p ∈ parts, IsQuiet p.tokens)

include h

theorem isQuiet_leadingTokens (trailing ended : Bool) :
    IsQuiet (leadingTokens trailing ended parts).1 := by
  induction parts generalizing ended with
  | nil => exact isQuiet_nil
  | cons p rest ih =>
    have hp := h p List.mem_cons_self
    have hrest := ih fun q hq => h q (List.mem_cons_of_mem _ hq)
    rw [leadingTokens]
    split
    · simp [hp, hrest]
    · exact hrest ended

theorem isQuiet_laterTokens (trailing ended : Bool) :
    IsQuiet (laterTokens trailing ended parts) := by
  induction parts generalizing ended with
  | nil => exact isQuiet_nil
  | cons p rest ih =>
    have hp := h p List.mem_cons_self
    have hrest := ih fun q hq => h q (List.mem_cons_of_mem _ hq)
    rw [laterTokens]
    split
    · exact hrest ended
    · simp [hp, hrest]

/-- Parts that are put together with the lifetimes first stay quiet. -/
theorem isQuiet_lifetimesFirst (trailing : Bool) : IsQuiet (lifetimesFirst trailing parts) :=
  (isQuiet_leadingTokens h trailing true).append (isQuiet_laterTokens h trailing _)

end Parts

theorem isQuiet_boundsTokens {bounds : List Bound} (h : ∀ b ∈ bounds, IsQuiet b.tokens)
    (trailing : Bool) : IsQuiet (boundsTokens trailing bounds) := by
  induction bounds with
  | nil => exact isQuiet_nil
  | cons b rest ih =>
    have hb := h b List.mem_cons_self
    have hrest := ih fun b hb => h b (List.mem_cons_of_mem _ hb)
    simp [boundsTokens, hb, hrest]

theorem isQuiet_segmentsTokens {segments : List Segment} (h : ∀ s ∈ segments, IsQuiet s.tokens) :
    IsQuiet (segmentsTokens segments) := by
  induction segments with
  | nil => exact isQuiet_nil
  | cons s rest ih =>
    have hs := h s List.mem_cons_self
    have hrest := ih fun s hs => h s (List.mem_cons_of_mem _ hs)
    simp [segmentsTokens, hs, hrest]

theorem Segment.isQuiet_tokens {s : Segment} :
    IsQuiet s.tokens ↔ declares s.name = false ∧ IsQuiet s.args.tokens := by
  obtain ⟨name, args⟩ := s
  exact isQuiet_name name

/-- A path is quiet if its segments are. -/
def Path.IsQuiet (p : Path) : Prop := ∀ s ∈ p.segments, Code.IsQuiet s.tokens

theorem Path.IsQuiet.tokens {p : Path} (h : p.IsQuiet) : Code.IsQuiet p.tokens := by
  obtain ⟨rooted, segments⟩ := p
  have hsegments : Code.IsQuiet (segmentsTokens segments) := isQuiet_segmentsTokens h
  simp [Path.tokens, hsegments]

theorem argumentParts_eq_map (args : List Argument) :
    argumentParts args = args.map fun a => ⟨a.isLifetime, a.tokens⟩ := by
  induction args with
  | nil => rfl
  | cons a rest ih => rw [argumentParts, ih, List.map_cons]

theorem paramParts_eq_map (params : List GenericParam) :
    paramParts params = params.map fun p => ⟨p.isLifetime, p.tokens⟩ := by
  induction params with
  | nil => rfl
  | cons p rest ih => rw [paramParts, ih, List.map_cons]

theorem isQuiet_angled {args : List Argument} (h : ∀ a ∈ args, IsQuiet a.tokens)
    (turbofish trailing : Bool) :
    IsQuiet (Arguments.angled turbofish args trailing).tokens := by
  have hparts : IsQuiet (lifetimesFirst trailing (argumentParts args)) := by
    refine isQuiet_lifetimesFirst (fun p hp => ?_) trailing
    rw [argumentParts_eq_map] at hp
    obtain ⟨a, ha, rfl⟩ := List.mem_map.mp hp
    exact h a ha
  simp [Arguments.tokens, hparts]

theorem isQuiet_resultTokens {result : Option Ty} (h : ∀ t ∈ result, IsQuiet t.tokens) :
    IsQuiet (resultTokens result) := by
  cases result with
  | none => exact isQuiet_nil
  | some t => simpa [resultTokens] using h t rfl

theorem isQuiet_roleTokens {role : Option Path} (h : ∀ p ∈ role, p.IsQuiet) :
    IsQuiet (roleTokens role) := by
  cases role with
  | none => exact isQuiet_nil
  | some p => simpa [roleTokens] using (h p rfl).tokens

/-- A generic parameter is quiet if its name and the types and bounds in it are. -/
def GenericParam.IsQuiet : GenericParam → Prop
  | .lifetime .. => True
  | .type _ name bounds _ default =>
    declares name = false ∧ (∀ b ∈ bounds, Code.IsQuiet b.tokens) ∧
      ∀ t ∈ default, Code.IsQuiet t.tokens
  | .const _ name t default =>
    declares name = false ∧ Code.IsQuiet t.tokens ∧ ∀ e ∈ default, Code.IsQuiet e.tokens

theorem GenericParam.IsQuiet.tokens {p : GenericParam} (h : p.IsQuiet) :
    Code.IsQuiet p.tokens := by
  cases p with
  | lifetime attributes name bounds trailing =>
    simp [GenericParam.tokens, isQuiet_attributesTokens, isQuiet_lifetimeSumTokens]
  | type attributes name bounds trailing default =>
    obtain ⟨hname, hbounds, hdefault⟩ := h
    have hvalue : Code.IsQuiet (typeValueTokens default) := by
      cases default with
      | none => exact isQuiet_nil
      | some t => simpa [typeValueTokens] using hdefault t rfl
    have hall := isQuiet_boundsTokens hbounds trailing
    simp [GenericParam.tokens, isQuiet_attributesTokens, hname, hall, hvalue]
  | const attributes name type default =>
    obtain ⟨hname, htype, hdefault⟩ := h
    have hvalue : Code.IsQuiet (valueTokens "=" default) := by
      cases default with
      | none => exact isQuiet_nil
      | some e => simpa [valueTokens] using hdefault e rfl
    simp [GenericParam.tokens, isQuiet_attributesTokens, hname, htype, hvalue]

/-- A binder is quiet if its parameters are. -/
def BinderIsQuiet (binder : Option Generics) : Prop := ∀ g ∈ binder, ∀ p ∈ g.params, p.IsQuiet

theorem isQuiet_binderTokens {binder : Option Generics} (h : BinderIsQuiet binder) :
    IsQuiet (binderTokens binder) := by
  cases binder with
  | none => exact isQuiet_nil
  | some g =>
    obtain ⟨params, trailing, predicates, predicatesTrailing⟩ := g
    have hparams (params : List GenericParam) (hparams : ∀ p ∈ params, p.IsQuiet) :
        IsQuiet (paramListTokens trailing params) := by
      induction params with
      | nil => exact isQuiet_nil
      | cons p rest ih =>
        have hp := (hparams p List.mem_cons_self).tokens
        have hrest := ih fun p hp => hparams p (List.mem_cons_of_mem _ hp)
        simp [paramListTokens, hp, hrest]
    simp [binderTokens, hparams params (h _ rfl)]

/-- A trait as a bound is quiet if its binder and its path are. -/
theorem isQuiet_traitTokens {binder : Option Generics} (hbinder : BinderIsQuiet binder) {p : Path}
    (hp : p.IsQuiet) (inParens relaxed : Bool) :
    IsQuiet (Bound.trait inParens binder relaxed p).tokens := by
  have hbare := isQuiet_binderTokens hbinder
  cases inParens <;> simp [Bound.tokens, hbare, hp.tokens]

/-! ### Types -/

@[simp] theorem isQuiet_path (p : Path) : IsQuiet (Ty.path p).tokens ↔ IsQuiet p.tokens := .rfl

theorem isQuiet_qualified {self : Ty} (hself : IsQuiet self.tokens) {role : Option Path}
    (hrole : ∀ p ∈ role, p.IsQuiet) {rest : List Segment} (hrest : ∀ s ∈ rest, IsQuiet s.tokens) :
    IsQuiet (Ty.qualified self role rest).tokens := by
  change IsQuiet (operatorTokens "<" ++ self.tokens ++ roleTokens role ++ operatorTokens ">" ++
    operatorTokens "::" ++ segmentsTokens rest)
  simp [hself, isQuiet_roleTokens hrole, isQuiet_segmentsTokens hrest]

@[simp] theorem isQuiet_reference (lifetime : Option Ident) (isMut : Bool) (target : Ty) :
    IsQuiet (Ty.reference lifetime isMut target).tokens ↔ IsQuiet target.tokens := by
  change IsQuiet (operatorTokens "&" ++ lifetimeTokens? lifetime ++ wordTokens isMut "mut" ++
    target.tokens) ↔ _
  cases lifetime <;> simp [lifetimeTokens?]

@[simp] theorem isQuiet_pointer (isMut : Bool) (target : Ty) :
    IsQuiet (Ty.pointer isMut target).tokens ↔ IsQuiet target.tokens := by
  change IsQuiet (operatorTokens "*" ++ [if isMut then .word "mut" else .word "const"] ++
    target.tokens) ↔ _
  cases isMut <;> simp

@[simp] theorem isQuiet_slice (element : Ty) : IsQuiet (Ty.slice element).tokens :=
  (isQuiet_enclosed _ _).mpr isQuiet_nil

@[simp] theorem isQuiet_array (element : Ty) (length : Expr) :
    IsQuiet (Ty.array element length).tokens :=
  (isQuiet_enclosed _ _).mpr isQuiet_nil

@[simp] theorem isQuiet_tuple (elements : List Ty) (trailing : Bool) :
    IsQuiet (Ty.tuple elements trailing).tokens :=
  (isQuiet_enclosed _ _).mpr isQuiet_nil

@[simp] theorem isQuiet_paren (inner : Ty) : IsQuiet (Ty.paren inner).tokens :=
  (isQuiet_enclosed _ _).mpr isQuiet_nil

@[simp] theorem isQuiet_never : IsQuiet Ty.never.tokens := isQuiet_operatorTokens (by decide)

@[simp] theorem isQuiet_infer : IsQuiet Ty.infer.tokens :=
  (isQuiet_word (by decide) (by decide)).mpr isQuiet_nil

theorem isQuiet_function {binder : Option Generics} (hbinder : BinderIsQuiet binder)
    (head : FunctionHead) (params : List Field) (trailing : Bool) {result : Option Ty}
    (hresult : ∀ t ∈ result, IsQuiet t.tokens) :
    IsQuiet (Ty.function binder head params trailing result).tokens := by
  change IsQuiet (binderTokens binder ++ head.tokens ++ [.word "fn"] ++
    [.enclosed .parenthesis (fieldsTokens trailing params)] ++ resultTokens result)
  simp [isQuiet_binderTokens hbinder, head.isQuiet_tokens, isQuiet_resultTokens hresult]

@[simp] theorem isQuiet_object (keyword : Bool) (bounds : List Bound) (trailing : Bool) :
    IsQuiet (Ty.object keyword bounds trailing).tokens ↔
      IsQuiet (boundsTokens trailing bounds) :=
  isQuiet_append (isQuiet_wordTokens keyword (by decide) (by decide))

@[simp] theorem isQuiet_bounded (bounds : List Bound) (trailing : Bool) :
    IsQuiet (Ty.bounded bounds trailing).tokens ↔ IsQuiet (boundsTokens trailing bounds) :=
  isQuiet_word (by decide) (by decide)

/-! ### Generic parameters of a declaration -/

theorem isQuiet_predicatesTokens {predicates : List Predicate}
    (h : ∀ p ∈ predicates, IsQuiet p.tokens) (trailing : Bool) :
    IsQuiet (predicatesTokens trailing predicates) := by
  induction predicates with
  | nil => exact isQuiet_nil
  | cons p rest ih =>
    have hp := h p List.mem_cons_self
    have hrest := ih fun p hp => h p (List.mem_cons_of_mem _ hp)
    simp [predicatesTokens, hp, hrest]

/-- Generic parameters are quiet if each of them is, and each predicate. -/
structure Generics.IsQuiet (g : Generics) : Prop where
  /-- The parameters. -/
  params : ∀ p ∈ g.params, p.IsQuiet
  /-- The predicates of the where clause. -/
  predicates : ∀ p ∈ g.predicates, Code.IsQuiet p.tokens

theorem Generics.isQuiet_empty : Generics.empty.IsQuiet := ⟨by simp [empty], by simp [empty]⟩

namespace Generics.IsQuiet

variable {g : Generics} (h : g.IsQuiet)

include h

theorem tokens : Code.IsQuiet g.tokens := by
  obtain ⟨params, trailing, predicates, predicatesTrailing⟩ := g
  have hparts : Code.IsQuiet (lifetimesFirst trailing (paramParts params)) := by
    refine isQuiet_lifetimesFirst (fun part hpart => ?_) trailing
    rw [paramParts_eq_map] at hpart
    obtain ⟨p, hp, rfl⟩ := List.mem_map.mp hpart
    exact (h.params p hp).tokens
  rw [Generics.tokens]
  split <;> simp [hparts]

theorem whereTokens : Code.IsQuiet g.whereTokens := by
  obtain ⟨params, trailing, predicates, predicatesTrailing⟩ := g
  have hpredicates := isQuiet_predicatesTokens h.predicates predicatesTrailing
  simpa [Generics.whereTokens] using hpredicates

theorem withoutDefaults : g.withoutDefaults.IsQuiet := by
  refine ⟨fun p hp => ?_, h.predicates⟩
  obtain ⟨q, hq, rfl⟩ := List.mem_map.mp hp
  have hquiet := h.params q hq
  cases q with
  | lifetime => trivial
  | type => exact ⟨hquiet.1, hquiet.2.1, by simp⟩
  | const => exact ⟨hquiet.1, hquiet.2.1, by simp⟩

/-- The declared type, with its parameters as arguments, is quiet if its name is. -/
theorem apply {name : Ident} (hname : declares name = false) :
    Code.IsQuiet (g.apply name).tokens := by
  have hargument : ∀ a ∈ g.ordered.params.map GenericParam.argument, Code.IsQuiet a.tokens := by
    intro a ha
    obtain ⟨p, hp, rfl⟩ := List.mem_map.mp ha
    have hp : p ∈ g.params := by
      simp only [ordered, List.mem_append, List.mem_filter] at hp
      exact hp.elim (·.1) (·.1)
    have hquiet := h.params p hp
    cases p with
    | lifetime => simp [GenericParam.argument, Argument.tokens]
    | type =>
      simp [GenericParam.argument, Argument.tokens, Path.single, Path.tokens, segmentsTokens,
        Segment.bare, Segment.tokens, Arguments.tokens, hquiet.1]
    | const =>
      simp [GenericParam.argument, Argument.tokens, Path.single, Path.tokens, segmentsTokens,
        Segment.bare, Segment.tokens, Arguments.tokens, hquiet.1]
  have hangled := isQuiet_angled hargument false g.ordered.trailing
  unfold Generics.apply
  dsimp only
  split
  · simp [Path.single, Path.tokens, segmentsTokens, Segment.bare, Segment.tokens,
      Arguments.tokens, hname]
  · simp [Path.tokens, segmentsTokens, Segment.tokens, hname, hangled]

end Generics.IsQuiet

end BuilderGen.Code
