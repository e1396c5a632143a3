import BuilderGen.Proofs.Synthesis
import BuilderGen.Proofs.TreeNames

/-!
# `Self` in the fields of builders

A builder has the fields of its source, and `Self` would mean the builder there. In a field type it
is replaced by the source wherever it is a type or the start of one, however deep inside. Nowhere
else: a constant such as the length `Self::LEN` of an array is a value, and its `Self` stays. So the
type of a builder field is free of `Self` exactly if that of the source field has it in types only.
-/

namespace BuilderGen

open Code

namespace Code

/-! ### Where `Self` may stand -/

mutual

/-- Whether a tree is free of `Self`. -/
def TokenTree.avoidsSelf : TokenTree → Bool
  | .ident id _ => !id.is "Self"
  | .group _ content _ _ => treesAvoidSelf content
  | _ => true

/-- Whether trees are free of `Self`. -/
def treesAvoidSelf : List TokenTree → Bool
  | [] => true
  | t :: rest => t.avoidsSelf && treesAvoidSelf rest

end

/-- The test for names of which none is `Self`. -/
def partsAvoidSelf : PathTest := fun parts => parts.all fun part => !part.1.is "Self" && part.2

/-- The test for trees that are free of `Self` where they are no types. -/
def valuesAvoidSelf : NameTest := ⟨partsAvoidSelf, treesAvoidSelf⟩

/-- What is left of the names of a path that is a type when `Self` in front is left out. -/
def afterSelf (rooted : Bool) (parts : List (Ident × Bool)) : List (Ident × Bool) :=
  match rooted, parts with
  | false, (name, passes) :: rest => if name.is "Self" then rest else (name, passes) :: rest
  | _, parts => parts

/-- Whether a type is free of `Self`, in the types and in everything else inside it. -/
def Ty.hasNoSelf (t : Ty) : Bool := t.passes valuesAvoidSelf fun _ => partsAvoidSelf

/-- Whether a type has `Self` only where it is a type, or the start of the path of a type. -/
def Ty.hasSelfInTypesOnly (t : Ty) : Bool :=
  t.passes valuesAvoidSelf fun rooted parts => partsAvoidSelf (afterSelf rooted parts)

/-! ### Replacing it -/

/-- What is put in for a path that starts with `Self` is free of `Self` if the rest of the path is,
and a path that does not start with it stays. -/
theorem answers_withSelf {s : Ty} (hs : s.hasNoSelf = true) :
    Answers (Path.withSelf s) valuesAvoidSelf (fun _ => partsAvoidSelf)
      fun rooted parts => partsAvoidSelf (afterSelf rooted parts) := by
  rintro ⟨rooted, segments⟩
  cases rooted with
  | true => rfl
  | false =>
    cases segments with
    | nil => rfl
    | cons segment rest =>
      obtain ⟨name, args⟩ := segment
      change _ = partsAvoidSelf (if name.is "Self" then _ else _)
      rw [Path.withSelf]
      by_cases hself : name.is "Self" = true
      · rw [if_pos hself, if_pos hself]
        cases rest with
        | nil => exact hs
        | cons next rest =>
          rw [if_neg (by simp)]
          change (s.hasNoSelf && true && partsAvoidSelf _) = _
          rw [hs]
          rfl
      · rw [if_neg hself, if_neg hself]
        rfl

/-- What is left of `Self` when it is replaced, stands where there are no types. -/
theorem Ty.hasNoSelf_replaceSelf {s : Ty} (hs : s.hasNoSelf = true) (t : Ty) :
    (t.replaceSelf s).hasNoSelf = t.hasSelfInTypesOnly :=
  Ty.passes_subst (answers_withSelf hs) t

/-- The name of a generic parameter. -/
def GenericParam.name : GenericParam → Ident
  | .lifetime _ name _ _ | .type _ name _ _ _ | .const _ name _ _ => name

theorem partsAvoidSelf_single {name : Ident} (h : name.is "Self" = false) :
    partsAvoidSelf [(name, true)] = true := by
  rw [partsAvoidSelf, List.all_cons, h]
  rfl

/-- A declared type is free of `Self` if its own name and those of its parameters are. -/
theorem Generics.hasNoSelf_apply {g : Generics} {name : Ident} (hname : name.is "Self" = false)
    (hparams : ∀ p ∈ g.params, p.name.is "Self" = false) :
    (g.apply name).hasNoSelf = true := by
  have hargs (ps : List GenericParam) (h : ∀ p ∈ ps, p ∈ g.params) :
      argumentsPass valuesAvoidSelf (fun _ => partsAvoidSelf) (ps.map GenericParam.argument) =
        true := by
    induction ps with
    | nil => rfl
    | cons p ps ih =>
      have hrest := ih fun q hq => h q (List.mem_cons_of_mem p hq)
      have hp := hparams p (h p List.mem_cons_self)
      rw [List.map_cons, argumentsPass, hrest, Bool.and_true]
      cases p with
      | lifetime attributes name bounds trailing => rfl
      | type attributes name bounds trailing default => exact partsAvoidSelf_single hp
      | const attributes name type default => exact partsAvoidSelf_single hp
  rw [Generics.apply]
  split
  · exact partsAvoidSelf_single hname
  · have hordered := hargs g.ordered.params fun p hp => by
      simp only [Generics.ordered, List.mem_append, List.mem_filter] at hp
      exact hp.elim And.left And.left
    change partsAvoidSelf [(name, argumentsPass _ _ _)] = true
    rw [hordered]
    exact partsAvoidSelf_single hname

end Code

/-! ### The fields of a builder -/

/-- `Self` leaks into a builder from values only. The fields of a builder are those of its source in
their order, and the type of each is free of `Self` exactly if that of the source field has `Self`
only where it is a type or the start of one. The source and its parameters have names, and `Self` is
no name. -/
theorem builder_is_free_of_self_in_types {source : Source} {request : Request}
    {style : SetterStyle} {b : Builder} (hname : source.name.is "Self" = false)
    (hparams : ∀ p ∈ source.generics.params, p.name.is "Self" = false)
    (h : Builder.synthesize source request style = .ok b) :
    List.Forall₂
      (fun (f : SourceField) (g : BuilderField) =>
        g.name = f.name ∧ g.type.hasNoSelf = f.type.hasSelfInTypesOnly)
      source.fields b.fields := by
  have hsource := Generics.hasNoSelf_apply hname hparams
  refine (isFor_of_synthesize h).fields.imp fun f g hfield => ?_
  obtain ⟨hfname, htype, -, -⟩ := ofField_eq_ok hfield
  rw [htype]
  exact ⟨hfname, Ty.hasNoSelf_replaceSelf hsource f.type⟩

/-- A struct with `Self` in many places, all of them types. -/
def selfInTypes : String :=
  "#[swagger_builder(target = A)] struct Node<T> \x7b
    a: Vec<Self>, b: fn(&Self) -> Box<dyn Fn(Self::Item) -> [T; size::<Self>()]> \x7d"

/-- `Self` is the source in all of them. -/
theorem self_in_types_is_the_source :
    ∃ f b, buildersIn selfInTypes = [(f, b)] ∧ b.fields.length = 2 ∧
      ∀ g ∈ b.fields, g.type.hasNoSelf = true := by
  have hfacts : (buildersIn selfInTypes).map (fun p =>
      (p.1.source.name.is "Self", p.1.source.generics.params.any (·.name.is "Self"),
        p.1.source.fields.length, p.1.source.fields.all (·.type.hasSelfInTypesOnly))) =
      [(false, false, 2, true)] := by decide +kernel
  obtain ⟨⟨f, b⟩, rest, hall, hfirst, hrest⟩ := List.map_eq_cons_iff.mp hfacts
  rw [List.map_eq_nil_iff.mp hrest] at hall
  obtain ⟨hname, hparams, hlength, hfields⟩ : _ ∧ _ ∧ _ ∧ _ := by
    simpa only [Prod.mk.injEq] using hfirst
  have hb : Builder.synthesize f.source f.request .prefixed = .ok b :=
    synthesize_of_mem_buildersIn (hall ▸ List.mem_cons_self)
  have hfree := builder_is_free_of_self_in_types hname
    (fun p hp => Bool.eq_false_iff.mpr (List.any_eq_false.mp hparams p hp)) hb
  refine ⟨f, b, hall, hfree.length_eq.symm.trans hlength, fun g hg => ?_⟩
  obtain ⟨i, hi, rfl⟩ := List.getElem_of_mem hg
  have hi' : i < f.source.fields.length := hfree.length_eq ▸ hi
  have hself := List.all_eq_true.mp hfields _ (List.getElem_mem hi')
  exact (hfree.get hi' hi).2.trans hself

/-- `Self` stays in the length of an array. -/
theorem self_in_array_length_stays :
    (buildersIn "#[swagger_builder(target = A)] struct S \x7b x: [u8; Self::LEN] \x7d").map
      (fun p => p.2.fields.map fun g => (streamText g.type.tokens, g.type.hasNoSelf)) =
        [[("[u8 ; Self :: LEN]", false)]] := by
  decide +kernel

end BuilderGen
