import BuilderGen.Proofs.Names
import BuilderGen.Proofs.SelfTypes
import BuilderGen.Proofs.TreeConstancy

/-!
# When a builder can be put together

A request has at most one fault that it fails for. The name of the builder comes first, then the
target, then the fields in their order, and a field behind a faulty one is never looked at. A request
without a fault makes a builder with a field for each field of the source.
-/

namespace BuilderGen

open Code

/-! ### Faults -/

/-- What a field of a source is at fault for: that it is called like a method of every builder, or
else that its setter would have no name. -/
inductive FieldFault (source : Source) (builder : String) (style : SetterStyle) (f : SourceField) :
    Failure → Prop
  /-- It is called `new` or `build`, raw or not. -/
  | reserved (h : f.name.name = "new" ∨ f.name.name = "build") :
    FieldFault source builder style f (.reservedField source.name.text builder f.name.name)
  /-- Its setter has no name. -/
  | setter (hfree : ¬ (f.name.name = "new" ∨ f.name.name = "build"))
      (h : ¬ ∃ id, Names (setterName f.targetField style) id) :
    FieldFault source builder style f
      (.invalidSetter source.name.text f.name.text (setterName f.targetField style))

/-- What a request is at fault for: its name, else its target, else the first of the fields that has
a fault. -/
inductive RequestFault (source : Source) (request : Request) (style : SetterStyle) : Failure → Prop
  /-- The builder has no name. -/
  | name (h : ¬ ∃ id, Names (builderName source request) id) :
    RequestFault source request style
      (.invalidBuilderName source.name.text (builderName source request))
  /-- The target is no type that can be named. -/
  | target {id : Ident} {reason : String} (hname : Names (builderName source request) id)
      (h : request.target = .unresolved reason) :
    RequestFault source request style (.unresolvedTarget source.name.text reason)
  /-- A field is at fault, and none before it. -/
  | field {id : Ident} {path : Path} {before after : List SourceField} {f : SourceField}
      {e : Failure} (hname : Names (builderName source request) id)
      (htarget : request.target = .path path) (hfields : source.fields = before ++ f :: after)
      (hbefore : ∀ x ∈ before, ∀ e, ¬ FieldFault source (builderName source request) style x e)
      (h : FieldFault source (builderName source request) style f e) :
    RequestFault source request style e

/-! ### Builders -/

/-- What is made of a field of a source. -/
structure FieldMade (source : Source) (style : SetterStyle) (f : SourceField) (g : BuilderField) :
    Prop where
  /-- It is called like no method of every builder. -/
  free : ¬ (f.name.name = "new" ∨ f.name.name = "build")
  /-- It keeps its name. -/
  name : g.name = f.name
  /-- It stands for the field of the target that it is renamed to, or for the one of its name. -/
  targetField : g.targetField = (f.rename.filter (!·.isEmpty)).getD f.name.name
  /-- Its setter has a name. -/
  setter : Names (setterName g.targetField style) g.setter
  /-- In its type, `Self` is the source. -/
  type : g.type = f.type.replaceSelf (source.generics.apply source.name)
  /-- It keeps a type that has no `Self` inside. -/
  kept : f.type.hasNoSelfType = true → g.type = f.type

/-- What is made of a request. -/
structure RequestMade (source : Source) (request : Request) (style : SetterStyle) (b : Builder) :
    Prop where
  /-- The builder has the name that was asked for, or the default. -/
  name : Names ((request.builderName.filter (!·.isEmpty)).getD (source.name.text ++ "Builder"))
    b.name
  /-- It builds the target. -/
  target : request.target = .path b.target
  /-- It has a field for each field of the source, in their order. -/
  fields : List.Forall₂ (FieldMade source style) source.fields b.fields
  /-- It lives in the module of the source. -/
  module : b.module = source.module
  /-- It can be seen as far as the source. -/
  visibility : b.visibility = source.visibility
  /-- It has the generic parameters of the source. -/
  generics : b.generics = source.generics
  /-- It knows the name of the source. -/
  source : b.source = source.name

/-! ### One field -/

theorem builderName_eq (source : Source) (request : Request) :
    builderName source request =
      (request.builderName.filter (!·.isEmpty)).getD (source.name.text ++ "Builder") := by
  unfold builderName
  cases request.builderName with
  | none => rfl
  | some name => cases hempty : name.isEmpty <;> simp [Option.filter, hempty]

theorem targetField_eq (f : SourceField) :
    f.targetField = (f.rename.filter (!·.isEmpty)).getD f.name.name := by
  unfold SourceField.targetField
  cases f.rename with
  | none => rfl
  | some name => cases hempty : name.isEmpty <;> simp [Option.filter, hempty]

section

variable {source : Source} {request : Request} {style : SetterStyle} {builder : String}
variable {f : SourceField}

theorem contains_builderMethods_iff (name : String) :
    builderMethods.contains name = true ↔ name = "new" ∨ name = "build" := by
  simp [builderMethods]

/-- A field fails for its fault, and for nothing else. -/
theorem ofField_eq_error_iff {e : Failure} :
    BuilderField.ofField source builder style f = .error e ↔
      FieldFault source builder style f e := by
  rw [BuilderField.ofField]
  by_cases hfree : f.name.name = "new" ∨ f.name.name = "build"
  · rw [if_pos ((contains_builderMethods_iff _).mpr hfree)]
    constructor
    · intro h
      cases h
      exact .reserved hfree
    · rintro (_ | ⟨hnot, -⟩)
      · rfl
      · exact absurd hfree hnot
  · rw [if_neg (mt (contains_builderMethods_iff _).mp hfree)]
    dsimp only
    cases hsetter : parseName? (setterName f.targetField style) with
    | none =>
      constructor
      · intro h
        cases h
        exact .setter hfree (parseName?_eq_none_iff.mp hsetter)
      · rintro (hnew | _)
        · exact absurd hnew hfree
        · rfl
    | some id =>
      refine ⟨fun h => (by cases h), ?_⟩
      rintro (hnew | ⟨-, hnone⟩)
      · exact absurd hnew hfree
      · exact absurd ⟨id, parseName?_eq_some_iff.mp hsetter⟩ hnone

/-- A field without a fault is made what it should be. -/
theorem ofField_eq_ok_iff {g : BuilderField} :
    BuilderField.ofField source builder style f = .ok g ↔ FieldMade source style f g := by
  constructor
  · intro h
    obtain ⟨hname, htype, htarget, hsetter⟩ := ofField_eq_ok h
    refine ⟨fun hnew => ?_, hname, htarget.trans (targetField_eq f),
      htarget ▸ parseName?_eq_some_iff.mp hsetter, htype,
      fun hkept => htype.trans (Ty.replaceSelf_eq_self hkept _)⟩
    rw [BuilderField.ofField, if_pos ((contains_builderMethods_iff _).mpr hnew)] at h
    cases h
  · intro h
    have htarget : g.targetField = f.targetField := h.targetField.trans (targetField_eq f).symm
    have hsetter := parseName?_eq_some_iff.mpr (htarget ▸ h.setter)
    rw [BuilderField.ofField, if_neg (mt (contains_builderMethods_iff _).mp h.free)]
    simp only [hsetter]
    rw [← h.name, ← h.type, ← htarget]

/-! ### Whole requests -/

/-- A field that is made has no fault, and one without a fault is made. -/
theorem exists_made_iff :
    (∃ g, BuilderField.ofField source builder style f = .ok g) ↔
      ∀ e, ¬ FieldFault source builder style f e := by
  simp only [← ofField_eq_error_iff]
  cases BuilderField.ofField source builder style f <;> simp

/-- A request fails for its fault, and for nothing else. -/
theorem synthesize_eq_error_iff {e : Failure} :
    Builder.synthesize source request style = .error e ↔ RequestFault source request style e := by
  rw [Builder.synthesize]
  cases hread : parseName? (builderName source request) with
  | none =>
    have hnone := parseName?_eq_none_iff.mp hread
    constructor
    · intro h
      cases h
      exact .name hnone
    · rintro (_ | ⟨hname, -⟩ | ⟨hname, -, -, -, -⟩)
      · rfl
      · exact absurd ⟨_, hname⟩ hnone
      · exact absurd ⟨_, hname⟩ hnone
  | some id =>
    have hid := parseName?_eq_some_iff.mp hread
    cases htarget : request.target with
    | unresolved reason =>
      constructor
      · intro h
        cases h
        exact .target hid htarget
      · rintro (hnone | ⟨-, hreason⟩ | ⟨-, hpath, -, -, -⟩)
        · exact absurd ⟨id, hid⟩ hnone
        · cases htarget.symm.trans hreason
          rfl
        · cases htarget.symm.trans hpath
    | path path =>
      -- Only the fields are left that can fail.
      simp only [Target.resolve, except_bind_eq_error, pure, Except.pure, reduceCtorEq,
        Except.ok.injEq, exists_eq_left', false_or, and_false, exists_false, or_false]
      simp only [mapM_eq_error_iff, exists_made_iff, ofField_eq_error_iff]
      constructor
      · rintro ⟨before, f, after, hfields, hbefore, hf⟩
        exact .field hid htarget hfields hbefore hf
      · rintro (hnone | ⟨-, hreason⟩ | ⟨-, -, hfields, hbefore, hf⟩)
        · exact absurd ⟨id, hid⟩ hnone
        · cases htarget.symm.trans hreason
        · exact ⟨_, _, _, hfields, hbefore, hf⟩

theorem resolve_eq_ok_iff {name : String} {target : Target} {path : Path} :
    target.resolve name = .ok path ↔ target = .path path := by
  cases target <;> simp [Target.resolve]

/-- A builder is for a request if and only if it is what should be made of it. -/
theorem isFor_iff_made {b : Builder} :
    b.IsFor source request style ↔ RequestMade source request style b := by
  constructor
  · intro h
    refine ⟨?_, resolve_eq_ok_iff.mp h.target, h.fields.imp fun _ _ => ofField_eq_ok_iff.mp,
      h.module, h.visibility, h.generics, h.source⟩
    rw [← builderName_eq]
    exact parseName?_eq_some_iff.mp h.name
  · intro h
    refine ⟨?_, resolve_eq_ok_iff.mpr h.target, h.fields.imp fun _ _ => ofField_eq_ok_iff.mpr,
      h.module, h.visibility, h.generics, h.source⟩
    rw [builderName_eq]
    exact parseName?_eq_some_iff.mpr h.name

end

/-- A request fails exactly for its first fault: a builder without a name, else a target that cannot
be named, else the first field, in their order, that is called like a method of builders or whose
setter has no name. A request without a fault makes a builder with all that was asked for. -/
theorem request_fails_for_first_fault (source : Source) (request : Request) (style : SetterStyle) :
    (∀ e, Builder.synthesize source request style = .error e ↔
      RequestFault source request style e) ∧
    ∀ b, Builder.synthesize source request style = .ok b ↔ RequestMade source request style b :=
  ⟨fun _ => synthesize_eq_error_iff, fun _ => synthesize_eq_ok_iff.trans isFor_iff_made⟩

/-- A struct with a method inside the type of its field. -/
def methodInType : String :=
  "#[swagger_builder(target = A)] struct S \x7b
    x: [u8; \x7b struct X; impl X \x7b fn f(&self) \x7b\x7d \x7d 0 \x7d] \x7d"

/-- There is no `Self` in the type, but the receiver of the method has the type of `self`, which is
replaced like any other. -/
theorem receiver_is_retyped :
    (buildersIn methodInType).map (fun p =>
      (p.1.source.fields.map fun f => (treesAvoidSelf f.type.tokens, streamText f.type.tokens),
        p.2.fields.map fun g => streamText g.type.tokens)) =
      [([(true, "[u8 ; \x7b struct X ; impl X \x7b fn f (& self) \x7b \x7d \x7d 0 \x7d]")],
        ["[u8 ; \x7b struct X ; impl X \x7b fn f (& self : & S) \x7b \x7d \x7d 0 \x7d]"])] := by
  decide +kernel

end BuilderGen
