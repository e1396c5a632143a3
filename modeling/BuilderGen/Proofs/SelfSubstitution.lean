import BuilderGen.Proofs.SelfTokens
import BuilderGen.Proofs.SynthesisOutcomes

/-!
# Replacing `Self` is a substitution

To put a type in for `Self` is a substitution. It is made in all types inside of a type at once, it
leaves alone what has no `Self`, and it leaves nothing to be done by a second one. The type that is
put in is the declared one, with its own parameters in their order.
-/

namespace BuilderGen

open Code

namespace Code

/-! ### Trees without some words -/

mutual

/-- Whether none of some words is in a tree. -/
def TokenTree.avoids (words : List String) : TokenTree → Bool
  | .ident id _ => !words.any id.is
  | .group _ content _ _ => treesAvoid words content
  | _ => true

/-- Whether none of some words is in trees. -/
def treesAvoid (words : List String) : List TokenTree → Bool
  | [] => true
  | t :: rest => t.avoids words && treesAvoid words rest

end

theorem treesAvoid_append (words : List String) (a b : List TokenTree) :
    treesAvoid words (a ++ b) = (treesAvoid words a && treesAvoid words b) := by
  induction a with
  | nil => rfl
  | cons t rest ih => rw [List.cons_append, treesAvoid, ih, treesAvoid, Bool.and_assoc]

theorem Segment.not_treesAvoid {words : List String} {word : String} (hword : word ∈ words)
    {name : Ident} (h : name.is word = true) (args : Arguments) :
    treesAvoid words (Segment.tokens ⟨name, args⟩) = false := by
  have hany : words.any name.is = true := List.any_eq_true.mpr ⟨word, hword, h⟩
  change (!words.any name.is && _) = false
  rw [hany]
  rfl

/-- Trees in which neither `Self` nor a receiver is stay the same. -/
theorem SelfReplaced.eq_of_treesAvoid {s : Ty} {a a' : List TokenTree} (h : SelfReplaced s a a')
    (havoid : treesAvoid ["Self", "self"] a = true) : a' = a := by
  induction h with
  | same => rfl
  | append _ _ iha ihb =>
    rw [treesAvoid_append, Bool.and_eq_true] at havoid
    rw [iha havoid.1, ihb havoid.2]
  | enclosed d _ ih =>
    have hcontent := (Bool.and_eq_true_iff.mp havoid).1
    rw [ih hcontent]
  | alone hname args =>
    rw [Segment.not_treesAvoid (by simp) hname] at havoid
    cases havoid
  | start hname args =>
    rw [treesAvoid_append, treesAvoid_append, Segment.not_treesAvoid (by simp) hname] at havoid
    cases havoid
  | receiver => cases havoid
  | borrowed => cases havoid

/-! ### The type that is put in -/

/-- A declared type whose name is not `Self` is no type of a receiver without one. -/
theorem Generics.isAlwaysWritten_apply {name : Ident} (hname : name.is "Self" = false)
    (g : Generics) : (g.apply name).IsAlwaysWritten := by
  intro byRef isMut
  rw [Generics.apply]
  split
  · change (!byRef && name.is "Self") = false
    rw [hname, Bool.and_false]
  · exact Bool.and_false _

/-- Whether the lifetimes are the first ones of some parameters. -/
def LifetimesFirst (params : List GenericParam) : Prop :=
  params.Pairwise fun p q => q.isLifetime = true → p.isLifetime = true

/-- Parameters that have their lifetimes first are in order. -/
theorem LifetimesFirst.ordered {params : List GenericParam} (h : LifetimesFirst params) :
    params.filter (·.isLifetime) ++ params.filter (!·.isLifetime) = params := by
  induction h with
  | nil => rfl
  | @cons p rest hbefore _ ih =>
    cases hlifetime : p.isLifetime with
    | true => simp [hlifetime, ih]
    | false =>
      have hnone : rest.filter (·.isLifetime) = [] :=
        List.filter_eq_nil_iff.mpr fun q hq hq' => by simp [hbefore q hq hq'] at hlifetime
      have hlater : rest.filter (!·.isLifetime) = rest := by rwa [hnone] at ih
      simp only [List.filter_cons, hlifetime, hnone, hlater, Bool.not_false, Bool.false_eq_true,
        if_true, if_false, List.nil_append]

/-- The arguments of a declared type are its parameters in their order, lifetimes first. -/
theorem Generics.apply_of_lifetimesFirst {g : Generics} (h : LifetimesFirst g.params)
    (hany : g.params ≠ []) (name : Ident) :
    ∃ trailing, g.apply name =
      .path ⟨false, [⟨name, .angled false (g.params.map GenericParam.argument) trailing⟩]⟩ := by
  have hparams : g.ordered.params = g.params := h.ordered
  rw [Generics.apply, hparams, if_neg (by simpa using hany)]
  exact ⟨_, rfl⟩

/-! ### Types without `Self` -/

theorem substSegments_eq_map (f : Path → Ty) (segments : List Segment) :
    substSegments f segments = segments.map (Segment.subst f) := by
  induction segments with
  | nil => rfl
  | cons s rest ih => rw [substSegments, ih, List.map_cons]

/-- A path that is free of `Self` does not start with it. -/
theorem keeps_hasNoSelf (s : Ty) :
    Keeps (Path.withSelf s) valuesAvoidSelf fun _ => partsAvoidSelf where
  type := by
    rintro ⟨rooted, segments⟩ h
    cases rooted with
    | true => rfl
    | false =>
      cases segments with
      | nil => rfl
      | cons segment rest =>
        obtain ⟨name, args⟩ := segment
        have hfirst := (Bool.and_eq_true_iff.mp h).1
        have hname : (!name.is "Self") = true := (Bool.and_eq_true_iff.mp hfirst).1
        rw [Bool.not_eq_true'] at hname
        rw [Path.withSelf, hname]
        rfl
  arguments _ _ h := List.all_eq_true.mpr fun part hpart =>
    (Bool.and_eq_true_iff.mp (List.all_eq_true.mp h part hpart)).2
  other _ h := List.all_eq_true.mpr fun part hpart =>
    (Bool.and_eq_true_iff.mp (List.all_eq_true.mp h part hpart)).2

/-- To replace `Self` where it is a type leaves nothing to replace. -/
theorem Ty.replaceSelf_replaceSelf {s t : Ty} (hs : s.hasNoSelf = true)
    (ht : t.hasSelfInTypesOnly = true) :
    (t.replaceSelf s).replaceSelf s = t.replaceSelf s := by
  have hfree : (t.replaceSelf s).hasNoSelf = true := (Ty.hasNoSelf_replaceSelf hs t).trans ht
  exact Ty.subst_eq (keeps_hasNoSelf s) _ hfree

/-! ### The substitution -/

/-- What is made of a segment behind `Self`: it keeps its name, and `Self` is replaced in its
arguments. -/
structure SegmentReplaced (s : Ty) (x x' : Segment) : Prop where
  /-- It keeps its name. -/
  name : x'.name = x.name
  /-- What its arguments become. -/
  args : SelfReplaced s x.args.tokens x'.args.tokens

/-- The type `t'` is `t` with `s` put in for `Self`, and nothing more. -/
structure IsSelfSubstitution (s t t' : Ty) : Prop where
  /-- In the tokens, `Self` is replaced in its places and the rest stays. -/
  tokens : SelfReplaced s t.tokens t'.tokens
  /-- `Self` becomes the type. -/
  alone : ∀ {name : Ident} (args : Arguments), name.is "Self" = true →
    t = .path ⟨false, [⟨name, args⟩]⟩ → t' = s
  /-- `Self` in front of other segments becomes the type in angle brackets, and these segments are
  the ones behind it, in their order. -/
  start : ∀ {name : Ident} (args : Arguments) {rest : List Segment}, name.is "Self" = true →
    rest ≠ [] → t = .path ⟨false, ⟨name, args⟩ :: rest⟩ →
      ∃ rest', t' = .qualified s none rest' ∧ List.Forall₂ (SegmentReplaced s) rest rest'
  /-- `Self` is left where it is no type, and only there. -/
  complete : t'.hasNoSelf = t.hasSelfInTypesOnly
  /-- A type in whose tokens neither `Self` nor a receiver is, has the same ones afterwards. -/
  unmentioned : treesAvoid ["Self", "self"] t.tokens = true → t'.tokens = t.tokens
  /-- A type without a type that is `Self`, those of receivers among them, stays. -/
  unchanged : t.hasNoSelfType = true → t' = t
  /-- Once is enough. -/
  again : t.hasSelfInTypesOnly = true → t'.replaceSelf s = t'

theorem isSelfSubstitution_replaceSelf {s : Ty} (hs : s.hasNoSelf = true)
    (hwritten : s.IsAlwaysWritten) (t : Ty) : IsSelfSubstitution s t (t.replaceSelf s) where
  tokens := Ty.tokens_replaced hwritten t
  alone := by
    rintro name args hname rfl
    exact Ty.subst_self hname args [] s
  start := by
    rintro name args rest hname hrest rfl
    refine ⟨rest.map (Segment.subst (Path.withSelf s)), ?_, ?_⟩
    · rw [Ty.replaceSelf, Ty.subst_self hname, if_neg (by simpa using hrest), substSegments_eq_map]
    · refine List.forall₂_map_right_iff.mpr (List.forall₂_same.mpr fun x _ => ?_)
      obtain ⟨name, args⟩ := x
      exact ⟨rfl, Arguments.tokens_replaced hwritten args⟩
  complete := Ty.hasNoSelf_replaceSelf hs t
  unmentioned := (Ty.tokens_replaced hwritten t).eq_of_treesAvoid
  unchanged h := Ty.replaceSelf_eq_self h s
  again := Ty.replaceSelf_replaceSelf hs

end Code

/-! ### Types of fields -/

/-- A struct with `Self` alone and at the start of a path. -/
def selfInPaths : String :=
  "#[swagger_builder(target = A)] struct Node<'a, T> \x7b
    a: Self::Item<Box<Self>>, b: &'a [Self] \x7d"

end BuilderGen
