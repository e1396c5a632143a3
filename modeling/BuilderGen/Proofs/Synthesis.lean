import BuilderGen.Builder
import Mathlib.Data.List.Forall2

/-!
# Putting builders together

A builder that could be put together has the name that was asked for, the target, and the fields of
the source one by one, in their order.
-/

namespace BuilderGen

open Code

/-! ### Results one after the other -/

section

variable {ε α β : Type}

/-- A step that succeeds after another one: both succeed. -/
theorem except_bind_eq_ok {x : Except ε α} {f : α → Except ε β} {b : β} :
    x >>= f = .ok b ↔ ∃ a, x = .ok a ∧ f a = .ok b := by
  cases x with
  | error e => simp [bind, Except.bind]
  | ok a => simp [bind, Except.bind]

/-- A step that fails after another one: the first that fails decides. -/
theorem except_bind_eq_error {x : Except ε α} {f : α → Except ε β} {e : ε} :
    x >>= f = .error e ↔ x = .error e ∨ ∃ a, x = .ok a ∧ f a = .error e := by
  cases x with
  | error e' => simp [bind, Except.bind]
  | ok a => simp [bind, Except.bind]

variable {f : α → Except ε β} {l : List α}

/-- Results that are got one by one stand in the order of what they are got from. -/
theorem mapM_eq_ok_iff {bs : List β} :
    l.mapM f = .ok bs ↔ List.Forall₂ (fun a b => f a = .ok b) l bs := by
  induction l generalizing bs with
  | nil => simp [pure, Except.pure, eq_comm]
  | cons a rest ih =>
    simp only [List.mapM_cons, except_bind_eq_ok, ih, List.forall₂_cons_left_iff]
    constructor
    · rintro ⟨b, hb, others, hothers, h⟩
      cases h
      exact ⟨b, others, hb, hothers, rfl⟩
    · rintro ⟨b, others, hb, hothers, rfl⟩
      exact ⟨b, hb, others, hothers, rfl⟩

/-- Results that are got one by one fail with the first that fails. -/
theorem mapM_eq_error_iff {e : ε} :
    l.mapM f = .error e ↔ ∃ before a after, l = before ++ a :: after ∧
      (∀ x ∈ before, ∃ b, f x = .ok b) ∧ f a = .error e := by
  induction l with
  | nil => simp [pure, Except.pure]
  | cons first rest ih =>
    rw [List.mapM_cons, except_bind_eq_error]
    constructor
    · rintro (hfirst | ⟨b, hb, h⟩)
      · exact ⟨[], first, rest, rfl, by simp, hfirst⟩
      · rcases except_bind_eq_error.mp h with hrest | ⟨bs, -, h⟩
        · obtain ⟨before, a, after, rfl, hbefore, ha⟩ := ih.mp hrest
          exact ⟨first :: before, a, after, rfl, List.forall_mem_cons.mpr ⟨⟨b, hb⟩, hbefore⟩, ha⟩
        · cases h
    · rintro ⟨before, a, after, hl, hbefore, ha⟩
      cases before with
      | nil =>
        obtain ⟨rfl, rfl⟩ := List.cons_eq_cons.mp hl
        exact .inl ha
      | cons x before =>
        obtain ⟨rfl, rfl⟩ := List.cons_eq_cons.mp hl
        obtain ⟨⟨b, hb⟩, hbefore⟩ := List.forall_mem_cons.mp hbefore
        have hrest := ih.mpr ⟨before, a, after, rfl, hbefore, ha⟩
        exact .inr ⟨b, hb, except_bind_eq_error.mpr (.inl hrest)⟩

end

/-! ### What is put together -/

/-- What is true of a builder that was put together. -/
structure Builder.IsFor (b : Builder) (source : Source) (request : Request)
    (style : SetterStyle) : Prop where
  /-- It has the name that was asked for. -/
  name : parseName? (builderName source request) = some b.name
  /-- It has the target that was asked for. -/
  target : request.target.resolve source.name.text = .ok b.target
  /-- It has a field for each field of the source. -/
  fields : List.Forall₂
    (fun f g => BuilderField.ofField source (builderName source request) style f = .ok g)
    source.fields b.fields
  /-- It lives in the module of its source. -/
  module : b.module = source.module
  /-- It can be seen as far as its source. -/
  visibility : b.visibility = source.visibility
  /-- It has the generic parameters of its source. -/
  generics : b.generics = source.generics
  /-- It knows the name of its source. -/
  source : b.source = source.name

/-- A builder is what is put together if and only if it is for what was asked. -/
theorem synthesize_eq_ok_iff {source : Source} {request : Request} {style : SetterStyle}
    {b : Builder} : Builder.synthesize source request style = .ok b ↔
      b.IsFor source request style := by
  rw [Builder.synthesize]
  constructor
  · intro h
    cases hname : parseName? (builderName source request) with
    | none =>
      rw [hname] at h
      cases h
    | some id =>
      rw [hname] at h
      obtain ⟨target, htarget, h⟩ := except_bind_eq_ok.mp h
      obtain ⟨fields, hfields, h⟩ := except_bind_eq_ok.mp h
      cases h
      exact ⟨hname, htarget, mapM_eq_ok_iff.mp hfields, rfl, rfl, rfl, rfl⟩
  · rintro ⟨hname, htarget, hfields, hmodule, hvisibility, hgenerics, hsource⟩
    rw [hname]
    refine except_bind_eq_ok.mpr ⟨b.target, htarget, except_bind_eq_ok.mpr
      ⟨b.fields, mapM_eq_ok_iff.mpr hfields, ?_⟩⟩
    rw [← hmodule, ← hvisibility, ← hgenerics, ← hsource]
    rfl

theorem isFor_of_synthesize {source : Source} {request : Request} {style : SetterStyle}
    {b : Builder} (h : Builder.synthesize source request style = .ok b) :
    b.IsFor source request style :=
  synthesize_eq_ok_iff.mp h

/-- A field that could be put together has the name of its own and a type in which `Self` is the
source. -/
theorem ofField_eq_ok {source : Source} {builder : String} {style : SetterStyle} {f : SourceField}
    {g : BuilderField} (h : BuilderField.ofField source builder style f = .ok g) :
    g.name = f.name ∧ g.type = f.type.replaceSelf (source.generics.apply source.name) ∧
      g.targetField = f.targetField ∧ parseName? (setterName f.targetField style) = some g.setter := by
  rw [BuilderField.ofField] at h
  split at h
  · cases h
  · dsimp only at h
    cases hsetter : parseName? (setterName f.targetField style) with
    | none =>
      rw [hsetter] at h
      cases h
    | some id =>
      rw [hsetter] at h
      cases h
      exact ⟨rfl, rfl, rfl, rfl⟩

/-! ### The builders in a text -/

/-- The builders for the requests in a text, each with its source and request. -/
def buildersIn (text : String) : List (Found × Builder) :=
  match parseDeclarations text "crate" with
  | .error _ => []
  | .ok ds => (discover ds).filterMap fun entry => do
    let f ← entry.toOption
    let b ← (Builder.synthesize f.source f.request .prefixed).toOption
    return (f, b)

theorem synthesize_of_mem_buildersIn {text : String} {f : Found} {b : Builder}
    (h : (f, b) ∈ buildersIn text) : Builder.synthesize f.source f.request .prefixed = .ok b := by
  rw [buildersIn] at h
  cases hparse : parseDeclarations text "crate" with
  | error e =>
    rw [hparse] at h
    cases h
  | ok ds =>
    rw [hparse] at h
    obtain ⟨entry, -, hentry⟩ := List.mem_filterMap.mp h
    obtain ⟨f', -, hentry⟩ := Option.bind_eq_some_iff.mp hentry
    obtain ⟨b', hb, hpair⟩ := Option.bind_eq_some_iff.mp hentry
    cases Option.some.inj hpair
    cases hsynthesize : Builder.synthesize f.source f.request .prefixed with
    | error e =>
      rw [hsynthesize] at hb
      cases hb
    | ok made =>
      rw [hsynthesize] at hb
      exact congrArg Except.ok (Option.some.inj hb)

end BuilderGen
