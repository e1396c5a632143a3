import BuilderGen.Builder
import BuilderGen.Proofs.Names
import BuilderGen.Proofs.RequestReading
import BuilderGen.Proofs.SynthesisOutcomes

/-!
# What the check promises

A struct that passes the check where it is written gets its builders: every request that was
counted is found, and each of them makes a builder, unless a directive renames a field to something
that no setter can be called after. Items that never have builders pass the check and ask for none.
-/

namespace BuilderGen

open Code

/-! ### Lists of results -/

/-- A list can be mapped when each of its elements can. -/
theorem exists_mapM_eq_ok {ε α β : Type} {f : α → Except ε β} {l : List α}
    (h : ∀ a ∈ l, ∃ b, f a = .ok b) :
    ∃ bs, l.mapM f = .ok bs ∧ ∀ b ∈ bs, ∃ a ∈ l, f a = .ok b := by
  induction l with
  | nil => exact ⟨[], rfl, fun b hb => by cases hb⟩
  | cons a rest ih =>
    obtain ⟨b, hb⟩ := h a List.mem_cons_self
    obtain ⟨bs, hbs, hfrom⟩ := ih fun x hx => h x (List.mem_cons_of_mem _ hx)
    refine ⟨b :: bs, ?_, fun y hy => ?_⟩
    · rw [List.mapM_cons, hb, hbs]
      rfl
    · rcases List.mem_cons.mp hy with rfl | hy
      · exact ⟨a, List.mem_cons_self, hb⟩
      · obtain ⟨x, hx, hfx⟩ := hfrom y hy
        exact ⟨x, List.mem_cons_of_mem _ hx, hfx⟩

/-! ### What the check says about a struct -/

/-- The number of requests that the check counts in some attributes. -/
def countedRequests (attributes : List Attribute) : Nat :=
  (attributes.map (countOf <| checkAttribute ·)).sum

/-- A struct without complaints has sound attributes, at least one request, and sound fields. -/
theorem checkStruct_eq_nil {s : Struct} {fields : List (Ident × Field)}
    (h : checkStruct s fields = []) :
    (∀ a ∈ s.attributes, faultOf (checkAttribute a) = none) ∧ 0 < countedRequests s.attributes ∧
      ∀ name f, (name, f) ∈ fields → checkField name f = none := by
  unfold checkStruct at h
  dsimp only at h
  split at h
  · cases h
  · rename_i hcounted
    obtain ⟨hfaults, hfields⟩ := List.append_eq_nil_iff.mp h
    have hattributes : ∀ a ∈ s.attributes, faultOf (checkAttribute a) = none := by
      intro a ha
      exact List.filterMap_eq_nil_iff.mp hfaults _ (List.mem_map_of_mem ha)
    refine ⟨hattributes, Nat.pos_of_ne_zero fun hzero => hcounted ?_, fun name f hf => ?_⟩
    · have hnone : (s.attributes.map checkAttribute).all (countOf · == 0) = true := by
        rw [List.all_map, List.all_eq_true]
        intro a ha
        have hcount := List.sum_eq_zero_iff_forall_eq_nat.mp hzero _ (List.mem_map_of_mem ha)
        exact beq_iff_eq.mpr hcount
      rw [hnone, hfaults]
      rfl
    · exact List.filterMap_eq_nil_iff.mp hfields (name, f) hf

/-- A field without complaints is called like no method of a builder, and its directives can be
read. -/
theorem checkField_eq_none {name : Ident} {f : Field} (h : checkField name f = none) :
    builderMethods.contains name.name = false ∧
      ∃ rename, renameDirective f.attributes = .ok rename := by
  unfold checkField at h
  split at h
  · cases h
  · rename_i hmethod
    refine ⟨by simpa using hmethod, ?_⟩
    cases hrename : renameDirective f.attributes with
    | ok rename => exact ⟨rename, rfl⟩
    | error reason =>
      rw [hrename] at h
      cases h

/-! ### What is made of it -/

/-- The name of the builder for a request in order can be read. -/
theorem Request.InOrder.builderName_isSome {request : Request} (h : request.InOrder)
    (source : Source) : (parseName? (BuilderGen.builderName source request)).isSome = true := by
  unfold BuilderGen.builderName
  cases hname : request.builderName with
  | none => exact parseName?_append_builder source.name
  | some name =>
    dsimp only
    split
    · exact parseName?_append_builder source.name
    · exact h.builderName name hname

/-- A field that is called like no method of a builder can only fail to have a setter, and only if
it is renamed. -/
theorem FieldFault.eq_invalidSetter {source : Source} {builder : String} {style : SetterStyle}
    {f : SourceField} {failure : Failure} (hmethod : builderMethods.contains f.name.name = false)
    (h : FieldFault source builder style f failure) :
    ∃ value, f.rename = some value ∧ value ≠ "" ∧
      failure = .invalidSetter source.name.text f.name.text (setterName value style) := by
  rcases h with hnew | ⟨-, hnone⟩
  · rw [(contains_builderMethods_iff _).mpr hnew] at hmethod
    cases hmethod
  · -- A field of its own name has a setter, so it must be renamed.
    rw [← parseName?_eq_none_iff] at hnone
    cases hrename : f.rename.filter (!·.isEmpty) with
    | none =>
      have hsetter := parseName?_setterName f.name style
      rw [targetField_eq, hrename, Option.getD_none] at hnone
      rw [hnone] at hsetter
      cases hsetter
    | some value =>
      obtain ⟨hvalue, hempty⟩ := Option.filter_eq_some_iff.mp hrename
      refine ⟨value, hvalue, ?_, by rw [targetField_eq, hrename, Option.getD_some]⟩
      rintro rfl
      cases hempty

/-- The fields of the source that a struct without complaints is. -/
theorem exists_ofStruct_eq_ok {s : Struct} {fields : List (Ident × Field)} (module : String)
    (h : ∀ name f, (name, f) ∈ fields → checkField name f = none) :
    ∃ source, Source.ofStruct module s fields = .ok source ∧ source.name = s.name ∧
      ∀ f ∈ source.fields, builderMethods.contains f.name.name = false ∧
        ∃ field, (f.name, field) ∈ fields ∧ renameDirective field.attributes = .ok f.rename := by
  have hread : ∀ p ∈ fields, ∃ f, SourceField.ofField s.name p.1 p.2 = .ok f := by
    intro p hp
    obtain ⟨-, rename, hrename⟩ := checkField_eq_none (h p.1 p.2 hp)
    exact ⟨⟨p.1, p.2.type, rename⟩, by rw [SourceField.ofField, hrename]⟩
  obtain ⟨read, hmap, hfrom⟩ := exists_mapM_eq_ok hread
  refine ⟨⟨s.name, module, s.visibility, s.generics, read⟩, ?_, rfl, fun f hf => ?_⟩
  · rw [Source.ofStruct, hmap]
    rfl
  · obtain ⟨⟨name, field⟩, hfield, hf⟩ := hfrom f hf
    obtain ⟨hmethod, rename, hrename⟩ := checkField_eq_none (h name field hfield)
    rw [SourceField.ofField, hrename] at hf
    cases hf
    exact ⟨hmethod, field, hfield, hrename⟩

/-- A request in order makes a builder of a source whose fields are called like no method, unless
a field is renamed to something that no setter can be called after. -/
theorem synthesize_eq_error {source : Source} {request : Request} {style : SetterStyle}
    {failure : Failure} (hrequest : request.InOrder)
    (hfields : ∀ f ∈ source.fields, builderMethods.contains f.name.name = false)
    (h : Builder.synthesize source request style = .error failure) :
    ∃ f ∈ source.fields, ∃ value, f.rename = some value ∧ value ≠ "" ∧
      failure = .invalidSetter source.name.text f.name.text (setterName value style) := by
  rcases synthesize_eq_error_iff.mp h with hnone | ⟨-, hreason⟩ | ⟨-, -, hsplit, -, hfault⟩
  · have hname := hrequest.builderName_isSome source
    rw [parseName?_eq_none_iff.mpr hnone] at hname
    cases hname
  · obtain ⟨path, hpath⟩ := hrequest.target
    cases hpath.symm.trans hreason
  · have hf := hsplit ▸ List.mem_append_right _ List.mem_cons_self
    exact ⟨_, hf, hfault.eq_invalidSetter (hfields _ hf)⟩

/-! ### Agreement -/

/-- What the check is asked about an item: structs, enums and unions have their attributes read. -/
def Declaration.deriveInput? (d : Declaration) : Option DeriveInput :=
  match d.item with
  | .struct s => some (.struct s)
  | .enum .. | .union .. => some .other
  | _ => none

/-- What is found for a struct without complaints: as many entries as the check has counted, at
least one, and each of them is a request. -/
structure Discovered (d : Declaration) (s : Struct) (fields : List (Ident × Field)) : Prop where
  /-- There is a request. -/
  nonempty : 0 < (requests s.attributes).length
  /-- There are as many requests as were counted. -/
  counted : (requests s.attributes).length = countedRequests s.attributes
  /-- Each request is found, and nothing else. -/
  found : ∃ source, discover [d] =
    (requests s.attributes).map fun request => .ok { source, request }
  /-- A request only fails to make a builder because of a field that a directive renames. -/
  failure : ∀ found style failure, .ok found ∈ discover [d] →
    Builder.synthesize found.source found.request style = .error failure →
    ∃ name f value, (name, f) ∈ fields ∧ renameDirective f.attributes = .ok (some value) ∧
      value ≠ "" ∧ failure = .invalidSetter s.name.text name.text (setterName value style)

/-- What is found in a struct that the check has no complaints about. -/
theorem discovered_of_check {d : Declaration} {s : Struct} {fields : List (Ident × Field)}
    (hitem : d.item = .struct s) (hnamed : s.namedFields? = some fields)
    (hcheck : check (.struct s) = []) : Discovered d s fields := by
  have hstruct : checkStruct s fields = [] := by
    rw [check, hnamed] at hcheck
    exact hcheck
  obtain ⟨hattributes, hpositive, hfields⟩ := checkStruct_eq_nil hstruct
  have hcounted := counted_of_checkAttributes hattributes
  obtain ⟨source, hsource, hname, hread⟩ := exists_ofStruct_eq_ok d.module hfields
  have hfound : discover [d] = (requests s.attributes).map fun request =>
      .ok { source, request } := by
    rw [discover, List.flatMap_cons, List.flatMap_nil, List.append_nil, foundIn, hitem]
    dsimp only
    rw [hnamed]
    dsimp only
    rw [hsource]
    rfl
  refine ⟨hcounted.length ▸ hpositive, hcounted.length, ⟨source, hfound⟩, ?_⟩
  intro found style failure hmem herror
  rw [hfound] at hmem
  obtain ⟨request, hrequest, heq⟩ := List.mem_map.mp hmem
  cases heq
  obtain ⟨f, hf, value, hrename, hvalue, hfailure⟩ :=
    synthesize_eq_error (hcounted.inOrder request hrequest) (fun f hf => (hread f hf).1) herror
  obtain ⟨-, field, hfield, hdirective⟩ := hread f hf
  exact ⟨f.name, field, value, hfield, hrename ▸ hdirective, hvalue, hname ▸ hfailure⟩

/-- The check and the search for requests agree on every item: a struct with named fields that has
no complaints is found as often as it was counted, and only a renamed field can keep a request from
making a builder; every other item passes the check, and nothing is found for it. -/
theorem derive_agrees_with_generator (d : Declaration) :
    (∀ s fields, d.item = .struct s → s.namedFields? = some fields → check (.struct s) = [] →
      Discovered d s fields) ∧
    (∀ input, d.deriveInput? = some input → (∀ s, d.item = .struct s → s.namedFields? = none) →
      check input = [] ∧ discover [d] = []) := by
  refine ⟨fun s fields => discovered_of_check, fun input hinput hunnamed => ?_⟩
  obtain ⟨module, item⟩ := d
  unfold Declaration.deriveInput? at hinput
  rw [discover, List.flatMap_cons, List.flatMap_nil, List.append_nil, foundIn]
  split at hinput
  · rename_i s hitem
    cases hinput
    dsimp only at hitem
    have hnone := hunnamed s hitem
    rw [check, hitem]
    dsimp only
    rw [hnone]
    exact ⟨rfl, rfl⟩
  · rename_i hitem
    cases hinput
    dsimp only at hitem
    rw [hitem]
    exact ⟨rfl, rfl⟩
  · rename_i hitem
    cases hinput
    dsimp only at hitem
    rw [hitem]
    exact ⟨rfl, rfl⟩
  · cases hinput

end BuilderGen
