import BuilderGen.Proofs.DeriveAgreement

/-!
# What is complained about

A struct that asks for builders is checked as a whole: nothing that is wrong with one attribute or
field keeps the others from being checked, and nothing is said twice. That a struct asks for nothing
is never said of one that has an attribute about builders.
-/

namespace BuilderGen

open Code

/-! ### Faults of attributes and fields -/

/-- What is wrong with an attribute. Attributes about other things are not looked at. -/
def attributeFault (a : Attribute) : Option SyntaxError :=
  if a.named requestAttribute then checkRequest a
  else if a.named requestListAttribute then faultOf (checkRequestList a)
  else none

/-- What is wrong with a field that has a name. -/
def fieldFault (f : Field) : Option SyntaxError := f.name.bind (checkField · f)

theorem faultOf_checkAttribute (a : Attribute) : faultOf (checkAttribute a) = attributeFault a := by
  unfold checkAttribute attributeFault
  split
  · cases checkRequest a <;> rfl
  · split <;> rfl

theorem faultOf_isSome {α : Type} {r : Except SyntaxError α} :
    (faultOf r).isSome = true ↔ ∃ e, r = .error e := by
  cases r <;> simp [faultOf]

/-- An attribute has a fault exactly if the check for its kind rejects it. -/
theorem attributeFault_isSome {a : Attribute} :
    (attributeFault a).isSome = true ↔
      a.named requestAttribute = true ∧ (∃ e, checkRequest a = some e) ∨
        a.named requestListAttribute = true ∧ ∃ e, checkRequestList a = .error e := by
  unfold attributeFault
  split
  · rename_i hrequest
    have hlist : a.named requestListAttribute = false :=
      named_eq_false_of_named hrequest (by decide)
    simp [hrequest, hlist, Option.isSome_iff_exists]
  · rename_i hrequest
    split
    · rename_i hlist
      simp [hrequest, hlist, faultOf_isSome]
    · rename_i hlist
      simp [hrequest, hlist]

/-- A field with a name has a fault exactly if it is called like a method of every builder, or its
directives cannot be read. -/
theorem fieldFault_isSome {f : Field} :
    (fieldFault f).isSome = true ↔
      ∃ name, f.name = some name ∧
        (name.name ∈ builderMethods ∨ ∃ reason, renameDirective f.attributes = .error reason) := by
  unfold fieldFault
  cases f.name with
  | none => simp
  | some name =>
    simp only [Option.bind_some, Option.some.injEq, exists_eq_left']
    unfold checkField
    split
    · rename_i hmethod
      have hname : name.name ∈ builderMethods := by simpa using hmethod
      simp [hname]
    · rename_i hmethod
      have hname : name.name ∉ builderMethods := by simpa using hmethod
      cases renameDirective f.attributes <;> simp [hname]

/-! ### The whole struct -/

/-- An attribute about builders that has no fault holds at least one request. -/
theorem countOf_pos {a : Attribute} (habout : isRequestAttribute a = true)
    (hfault : attributeFault a = none) : 0 < countOf (checkAttribute a) := by
  rw [← faultOf_checkAttribute] at hfault
  cases hcheck : checkAttribute a with
  | error e =>
    rw [hcheck] at hfault
    cases hfault
  | ok count =>
    unfold checkAttribute at hcheck
    split at hcheck
    · split at hcheck
      · cases hcheck
      · cases hcheck
        exact Nat.one_pos
    · rename_i hrequest
      have hlist : a.named requestListAttribute = true := by
        simpa [isRequestAttribute, hrequest] using habout
      rw [if_pos hlist] at hcheck
      exact (ofListAttribute_counted hcheck).1

/-- Attributes of which one is about builders hold a request if none of them has a fault. -/
theorem countedRequests_pos {attributes : List Attribute} (hasks : hasRequests attributes = true)
    (hfaults : attributes.filterMap attributeFault = []) : 0 < countedRequests attributes := by
  obtain ⟨a, ha, habout⟩ := List.any_eq_true.mp hasks
  have hfault : attributeFault a = none := List.filterMap_eq_nil_iff.mp hfaults a ha
  refine Nat.pos_of_ne_zero fun hzero => (countOf_pos habout hfault).ne' ?_
  exact List.sum_eq_zero_iff_forall_eq_nat.mp hzero _ (List.mem_map_of_mem ha)

/-- The complaints about a struct that asks for builders: those about its attributes and then those
about its fields. -/
theorem check_struct_eq {s : Struct} (hnamed : s.shape = .named)
    (hasks : hasRequests s.attributes = true) :
    check (.struct s) =
      s.attributes.filterMap attributeFault ++ s.fields.filterMap fieldFault := by
  have hfaults : (s.attributes.map checkAttribute).filterMap faultOf =
      s.attributes.filterMap attributeFault := by
    rw [List.filterMap_map]
    exact List.filterMap_congr fun a _ => faultOf_checkAttribute a
  have hfields : (s.fields.filterMap fun f => f.name.map (·, f)).filterMap
      (fun named => checkField named.1 named.2) = s.fields.filterMap fieldFault := by
    rw [List.filterMap_filterMap]
    refine List.filterMap_congr fun f _ => ?_
    unfold fieldFault
    cases f.name <;> rfl
  -- Without faults something is counted, so that the check does not stop before the fields.
  have hgoes : ((s.attributes.map checkAttribute).all (countOf · == 0) &&
      (s.attributes.filterMap attributeFault).isEmpty) = false := by
    by_contra hstops
    obtain ⟨hall, hempty⟩ := (Bool.and_eq_true _ _).mp (Bool.not_eq_false _ ▸ hstops)
    obtain ⟨a, ha, habout⟩ := List.any_eq_true.mp hasks
    have hfault : attributeFault a = none :=
      List.filterMap_eq_nil_iff.mp (List.isEmpty_iff.mp hempty) a ha
    have hzero := List.all_eq_true.mp hall _ (List.mem_map_of_mem ha)
    exact (countOf_pos habout hfault).ne' (beq_iff_eq.mp hzero)
  simp only [check, Struct.namedFields?, if_pos hnamed, checkStruct, hfaults, hgoes]
  exact congrArg (s.attributes.filterMap attributeFault ++ ·) hfields

/-- A struct that asks for builders is accepted exactly if none of its attributes and fields has a
fault, and then it holds the requests that are counted, at least one. -/
theorem check_struct_eq_nil {s : Struct} (hnamed : s.shape = .named)
    (hasks : hasRequests s.attributes = true) :
    (check (.struct s) = [] ↔
      (∀ a ∈ s.attributes, attributeFault a = none) ∧ ∀ f ∈ s.fields, fieldFault f = none) ∧
    (check (.struct s) = [] →
      0 < (requests s.attributes).length ∧
        (requests s.attributes).length = countedRequests s.attributes) := by
  rw [check_struct_eq hnamed hasks, List.append_eq_nil_iff, List.filterMap_eq_nil_iff,
    List.filterMap_eq_nil_iff]
  refine ⟨Iff.rfl, fun hnone => ?_⟩
  have hattributes := hnone.1
  have hcounted : (requests s.attributes).length = countedRequests s.attributes :=
    (counted_of_checkAttributes fun a ha =>
      (faultOf_checkAttribute a).trans (hattributes a ha)).length
  rw [hcounted]
  exact ⟨countedRequests_pos hasks (List.filterMap_eq_nil_iff.mpr hattributes), rfl⟩

/-- What an element contributes stands between what the elements before and after it do. -/
theorem filterMap_around {α β : Type} (f : α → Option β) (before after : List α) (a : α) :
    (before ++ a :: after).filterMap f =
      before.filterMap f ++ ((f a).toList ++ after.filterMap f) := by
  rw [List.filterMap_append, List.filterMap_cons]
  cases f a <;> rfl

/-- The check of a struct that asks for builders reports every problem once. Its complaints are one
for each attribute about builders that its check rejects, and then one for each field that is called
like a method of a builder or has unreadable directives, in order. It accepts the struct exactly if
there are none, and then there is a request. An attribute or field that is put in the place of
another one only changes what is said about it. -/
theorem check_reports_every_problem_once {s : Struct} (hnamed : s.shape = .named)
    (hasks : hasRequests s.attributes = true) :
    check (.struct s) =
        s.attributes.filterMap attributeFault ++ s.fields.filterMap fieldFault ∧
      (∀ a, (attributeFault a).isSome = true ↔
        a.named requestAttribute = true ∧ (∃ e, checkRequest a = some e) ∨
          a.named requestListAttribute = true ∧ ∃ e, checkRequestList a = .error e) ∧
      (∀ f, (fieldFault f).isSome = true ↔
        ∃ name, f.name = some name ∧
          (name.name ∈ builderMethods ∨ ∃ reason, renameDirective f.attributes = .error reason)) ∧
      (check (.struct s) = [] ↔
        (∀ a ∈ s.attributes, attributeFault a = none) ∧ ∀ f ∈ s.fields, fieldFault f = none) ∧
      (check (.struct s) = [] → 0 < (requests s.attributes).length ∧
        (requests s.attributes).length = countedRequests s.attributes) ∧
      (∀ before a a' after, s.attributes = before ++ a :: after →
        hasRequests (before ++ a' :: after) = true →
        ∃ left right, check (.struct s) = left ++ (attributeFault a).toList ++ right ∧
          check (.struct { s with attributes := before ++ a' :: after }) =
            left ++ (attributeFault a').toList ++ right) ∧
      ∀ before f f' after, s.fields = before ++ f :: after →
        ∃ left right, check (.struct s) = left ++ (fieldFault f).toList ++ right ∧
          check (.struct { s with fields := before ++ f' :: after }) =
            left ++ (fieldFault f').toList ++ right := by
  refine ⟨check_struct_eq hnamed hasks, fun a => attributeFault_isSome, fun f => fieldFault_isSome,
    (check_struct_eq_nil hnamed hasks).1, (check_struct_eq_nil hnamed hasks).2, ?_, ?_⟩
  · intro before a a' after hattributes hasks'
    refine ⟨before.filterMap attributeFault,
      after.filterMap attributeFault ++ s.fields.filterMap fieldFault, ?_, ?_⟩
    · rw [check_struct_eq hnamed hasks, hattributes, filterMap_around]
      simp only [List.append_assoc]
    · rw [check_struct_eq (s := { s with attributes := before ++ a' :: after }) hnamed hasks',
        filterMap_around]
      simp only [List.append_assoc]
  · intro before f f' after hfields
    refine ⟨s.attributes.filterMap attributeFault ++ before.filterMap fieldFault,
      after.filterMap fieldFault, ?_, ?_⟩
    · rw [check_struct_eq hnamed hasks, hfields, filterMap_around]
      simp only [List.append_assoc]
    · rw [check_struct_eq (s := { s with fields := before ++ f' :: after }) hnamed hasks,
        filterMap_around]
      simp only [List.append_assoc]

/-- A struct with a bad request, a field with a bad directive, and a field with a bad name. -/
def brokenStruct : String :=
  "#[swagger_builder(builder_name = \"X\")] struct Broken \x7b #[map_to(1)] a: u8, build: u8 \x7d"

/-- All three problems are reported. -/
theorem broken_struct_has_three_complaints :
    ∃ s, (parseStruct brokenStruct).toOption = some s ∧
      (check (.struct s)).map SyntaxError.message =
        ["missing `target = <type>` in builder request",
          "unexpected literal in nested attribute, expected ident",
          "field `build` would collide with the builder's `build()` method"] := by
  have hfacts : (parseStruct brokenStruct).toOption.map (fun s =>
      (decide (s.shape = .named), hasRequests s.attributes,
        (s.attributes.filterMap attributeFault ++ s.fields.filterMap fieldFault).map
          SyntaxError.message)) =
      some (true, true,
        ["missing `target = <type>` in builder request",
          "unexpected literal in nested attribute, expected ident",
          "field `build` would collide with the builder's `build()` method"]) := by
    decide +kernel
  obtain ⟨s, hs, hfacts⟩ := Option.map_eq_some_iff.mp hfacts
  obtain ⟨hnamed, hrest⟩ := Prod.mk.inj hfacts
  obtain ⟨hasks, hmessages⟩ := Prod.mk.inj hrest
  refine ⟨s, hs, ?_⟩
  rw [(check_reports_every_problem_once (of_decide_eq_true hnamed) hasks).1]
  exact hmessages

end BuilderGen
