import BuilderGen.Builder.Render
import BuilderGen.Builder.Run
import BuilderGen.Proofs.SynthesisOutcomes
import Mathlib.Data.List.Induction

/-!
# Methods of builders

A builder has a method for each field, between the one that makes it and the one that builds. If the
fields of a source have different names, raw or not, then so have the methods, for no field is called
like one of the two. So a call by name reaches one method, the method of a field sets that field
alone, and whatever was called before, the target gets the value that each field was last set to.
-/

namespace BuilderGen

open Code

/-! ### Names of methods -/

/-- The names of methods, without raw marks. -/
def methodNames (methods : List Method) : List String := methods.map (·.name.name)

/-- The names of the fields of a source, without raw marks. -/
def Source.fieldNames (source : Source) : List String := source.fields.map (·.name.name)

/-- No method of every builder is called like a field that could be made. -/
theorem free_of_made {source : Source} {style : SetterStyle} {fs : List SourceField}
    {gs : List BuilderField} (h : List.Forall₂ (FieldMade source style) fs gs) :
    ∀ g ∈ gs, g.name.name ≠ "new" ∧ g.name.name ≠ "build" := by
  have hfree : List.Forall₂ (fun g _ => (g.name.name ≠ "new" ∧ g.name.name ≠ "build") ∧ True)
      gs fs :=
    h.flip.imp fun g f hg => ⟨hg.name ▸ not_or.mp hg.free, trivial⟩
  exact ((List.forall₂_and_left ..).mp hfree).1

section

variable {source : Source} {request : Request} {style : SetterStyle} {b : Builder}
variable (h : RequestMade source request style b)

include h

/-- The fields of a builder are called like those of its source. -/
theorem RequestMade.names_eq : b.fields.map (·.name) = source.fields.map (·.name) := by
  have hnames : List.Forall₂ Eq (b.fields.map (·.name)) (source.fields.map (·.name)) :=
    List.forall₂_map_left_iff.mpr (List.forall₂_map_right_iff.mpr
      (h.fields.flip.imp fun g f hg => hg.name))
  rwa [List.forall₂_eq_eq_eq] at hnames

theorem RequestMade.fieldNames_eq : b.fields.map (·.name.name) = source.fieldNames := by
  have hnames := congrArg (List.map Ident.name) h.names_eq
  rwa [List.map_map, List.map_map] at hnames

/-- There is the method that makes a builder, then one for each field, then the one that builds. -/
theorem RequestMade.methodNames_eq :
    methodNames b.unit.methods = "new" :: source.fieldNames ++ ["build"] := by
  have hfields : methodNames (b.fields.map BuilderField.method) = source.fieldNames := by
    rw [← h.fieldNames_eq, methodNames, List.map_map]
    rfl
  have hmethods : methodNames b.unit.methods =
      newMethod.name.name :: methodNames (b.fields.map BuilderField.method) ++
        [b.buildMethod.name.name] := List.map_append
  rw [hmethods, hfields]
  rfl

/-- If the fields of the source have different names, then so have the methods. -/
theorem RequestMade.nodup_methodNames (hnames : source.fieldNames.Nodup) :
    (methodNames b.unit.methods).Nodup := by
  have hfree := free_of_made h.fields
  rw [h.methodNames_eq, ← h.fieldNames_eq]
  rw [← h.fieldNames_eq] at hnames
  have hnew : "new" ∉ b.fields.map (·.name.name) ++ ["build"] := by
    simp only [List.mem_append, List.mem_map, List.mem_singleton, not_or, not_exists, not_and]
    exact ⟨fun g hg => (hfree g hg).1, by decide⟩
  refine List.nodup_cons.mpr ⟨hnew, List.nodup_append.mpr ⟨hnames, by simp, ?_⟩⟩
  simp only [List.mem_map, List.mem_singleton]
  rintro _ ⟨g, hg, rfl⟩ _ rfl
  exact (hfree g hg).2

end

/-! ### Calls of methods -/

/-- If methods have different names, then each is the one that its name calls. -/
theorem BuilderUnit.method?_eq_some {u : BuilderUnit} (h : (methodNames u.methods).Nodup)
    {m : Method} (hm : m ∈ u.methods) : u.method? m.name.name = some m := by
  unfold method?
  generalize u.methods = methods at h hm
  induction methods with
  | nil => cases hm
  | cons first rest ih =>
    obtain ⟨hfirst, hrest⟩ := List.nodup_cons.mp h
    rcases List.mem_cons.mp hm with rfl | hm
    · simp
    · have hother : first.name.name ≠ m.name.name :=
        fun heq => hfirst (List.mem_map.mpr ⟨m, hm, heq.symm⟩)
      rw [List.find?_cons_of_neg (by simpa using hother)]
      exact ih hrest hm

variable {α : Type}

/-- A builder whose fields have the values that `value` says. -/
def Builder.holding (b : Builder) (value : Ident → α) : Values α :=
  b.fields.map fun g => (g.name, value g.name)

theorem Builder.start_eq_holding (b : Builder) (default : Ident → α) :
    b.unit.start default = b.holding default := by
  have hfields : b.unit.fields = b.fields.map fun g => (g.name, g.type) := rfl
  rw [BuilderUnit.start, hfields, List.map_map]
  rfl

theorem Builder.lookup_holding {b : Builder} {g : BuilderField} (hg : g ∈ b.fields)
    (value : Ident → α) : (b.holding value).lookup g.name = some (value g.name) := by
  unfold Builder.holding
  generalize b.fields = fields at hg
  induction fields with
  | nil => cases hg
  | cons first rest ih =>
    by_cases heq : g.name = first.name
    · simp [heq]
    · have hrest : g ∈ rest := (List.mem_cons.mp hg).resolve_left fun h => heq (h ▸ rfl)
      rw [List.map_cons, List.lookup_cons, beq_eq_false_iff_ne.mpr heq]
      exact ih hrest

/-- To set a field changes what is read at this field only. -/
theorem Values.lookup_set (vs : Values α) (field : Ident) (a : α) (other : Ident) :
    (vs.set field a).lookup other =
      if other = field then (vs.lookup other).map fun _ => a else vs.lookup other := by
  induction vs with
  | nil => simp [Values.set]
  | cons v rest ih =>
    unfold Values.set at ih ⊢
    rw [List.map_cons, List.lookup_cons, List.lookup_cons, ih]
    by_cases hv : v.1 = field
    · by_cases hother : other = field
      · simp [hv, hother]
      · simp [hv, hother, beq_eq_false_iff_ne.mpr hother]
    · by_cases hother : other = v.1
      · simp [hv, hother]
      · simp [hv, beq_eq_false_iff_ne.mpr hother]

/-- Statements that pass fields to setters make one call each, in order, and set nothing. -/
theorem Builder.foldl_pass {b : Builder} {fields : List BuilderField} (h : fields ⊆ b.fields)
    (argument : Option α) (value : Ident → α) (calls : List (Ident × α)) :
    (fields.map fun g => Statement.pass g.setter g.name).foldl (Statement.execute argument)
        { values := b.holding value, calls } =
      { values := b.holding value
        calls := calls ++ fields.map fun g => (g.setter, value g.name) } := by
  induction fields generalizing calls with
  | nil => simp
  | cons g rest ih =>
    obtain ⟨hg, hrest⟩ := List.cons_subset.mp h
    have hstep : Statement.execute argument { values := b.holding value, calls }
        (.pass g.setter g.name) =
          { values := b.holding value, calls := calls ++ [(g.setter, value g.name)] } := by
      simp only [Statement.execute, Builder.lookup_holding hg]
    rw [List.map_cons, List.foldl_cons, hstep, ih hrest, List.append_assoc]
    rfl

/-- The method that builds hands every field to its setter, in order, and sets nothing. -/
theorem Builder.execute_buildMethod (b : Builder) (argument : Option α) (value : Ident → α) :
    b.buildMethod.execute argument (b.holding value) =
      { values := b.holding value, calls := b.fields.map fun g => (g.setter, value g.name) } := by
  have hbody : b.buildMethod.body = .makeTarget (!b.fields.isEmpty) b.target ::
    (b.fields.map (fun g => .pass g.setter g.name) ++ [.yieldTarget]) := rfl
  have hmake : Statement.execute argument { values := b.holding value, calls := [] }
      (.makeTarget (!b.fields.isEmpty) b.target) = { values := b.holding value, calls := [] } := rfl
  rw [Method.execute, hbody, List.foldl_cons, hmake, List.foldl_append,
    foldl_pass (List.Subset.refl _)]
  rfl

/-- To set a field of a builder that holds values makes it hold another value there. -/
theorem Builder.set_holding {b : Builder} (hnames : (b.fields.map (·.name.name)).Nodup)
    {g : BuilderField} (hg : g ∈ b.fields) (value : Ident → α) (a : α) :
    (b.holding value).set g.name a =
      b.holding fun id => if id.name = g.name.name then a else value id := by
  rw [holding, Values.set, List.map_map, holding]
  refine List.map_congr_left fun g' hg' => ?_
  by_cases heq : g'.name.name = g.name.name
  · obtain rfl := List.inj_on_of_nodup_map hnames hg' hg heq
    simp
  · have hother : g'.name ≠ g.name := fun h => heq (congrArg Ident.name h)
    simp [heq, hother]

/-! ### Runs of calls -/

/-- The value that a field was last set to by calls, or its default. -/
def lastSet (calls : List (String × α)) (default : Ident → α) (field : Ident) : α :=
  ((calls.filter (·.1 == field.name)).map (·.2)).getLastD (default field)

/-- One more call sets the field of its name, and no other. -/
theorem lastSet_concat (calls : List (String × α)) (name : String) (a : α) (default : Ident → α)
    (field : Ident) : lastSet (calls ++ [(name, a)]) default field =
      if field.name = name then a else lastSet calls default field := by
  rw [lastSet, List.filter_append, List.map_append]
  by_cases h : field.name = name
  · simp [h]
  · simp [h, Ne.symm h, lastSet]

section

variable {source : Source} {request : Request} {style : SetterStyle} {b : Builder}
variable (h : RequestMade source request style b) (hnames : source.fieldNames.Nodup)

include h hnames

theorem RequestMade.method?_field {g : BuilderField} (hg : g ∈ b.fields) :
    b.unit.method? g.name.name = some g.method := by
  have hmem : g.method ∈ b.unit.methods :=
    List.mem_append_left _ (List.mem_cons_of_mem _ (List.mem_map_of_mem hg))
  exact BuilderUnit.method?_eq_some (h.nodup_methodNames hnames) hmem

theorem RequestMade.method?_build : b.unit.method? "build" = some b.buildMethod :=
  BuilderUnit.method?_eq_some (h.nodup_methodNames hnames)
    (m := b.buildMethod) (List.mem_append_right _ (List.mem_singleton_self _))

/-- The method of a field sets this field. -/
theorem RequestMade.call_field {g : BuilderField} (hg : g ∈ b.fields) (a : α) (vs : Values α) :
    b.unit.call g.name.name a vs = vs.set g.name a := by
  rw [BuilderUnit.call, h.method?_field hnames hg]
  rfl

/-- A call by any name sets the field of this name, if there is one, and changes nothing else. -/
theorem RequestMade.call_holding (name : String) (a : α) (value : Ident → α) :
    b.unit.call name a (b.holding value) =
      b.holding fun id => if id.name = name then a else value id := by
  by_cases hfield : ∃ g ∈ b.fields, g.name.name = name
  · obtain ⟨g, hg, rfl⟩ := hfield
    rw [h.call_field hnames hg]
    exact Builder.set_holding (h.fieldNames_eq ▸ hnames) hg value a
  · have hsame : (b.holding fun id => if id.name = name then a else value id) = b.holding value :=
      List.map_congr_left fun g hg =>
        congrArg (g.name, ·) (if_neg fun heq => hfield ⟨g, hg, heq⟩)
    rw [hsame, BuilderUnit.call]
    cases hmethod : b.unit.method? name with
    | none => rfl
    | some m =>
      -- The method found is one of the two that set nothing.
      have hname : m.name.name = name := by simpa using List.find?_some hmethod
      have hmem : m ∈ newMethod :: b.fields.map BuilderField.method ++ [b.buildMethod] :=
        List.mem_of_find?_eq_some hmethod
      rcases List.mem_append.mp hmem with hmem | hmem
      · rcases List.mem_cons.mp hmem with rfl | hmem
        · rfl
        · obtain ⟨g, hg, rfl⟩ := List.mem_map.mp hmem
          exact absurd ⟨g, hg, hname⟩ hfield
      · obtain rfl := List.mem_singleton.mp hmem
        dsimp only
        rw [Builder.execute_buildMethod]

/-- After calls, a builder holds the values that its fields were last set to. -/
theorem RequestMade.foldl_call (calls : List (String × α)) (default : Ident → α) :
    calls.foldl (fun vs c => b.unit.call c.1 c.2 vs) (b.unit.start default) =
      b.holding (lastSet calls default) := by
  induction calls using List.reverseRecOn with
  | nil => exact b.start_eq_holding default
  | append_singleton calls c ih =>
    rw [List.foldl_append, ih, List.foldl_cons, List.foldl_nil, h.call_holding hnames]
    congr 1
    funext id
    exact (lastSet_concat calls c.1 c.2 default id).symm

end

/-- A text lays out what the tokens of the unit declare. -/
theorem Builder.exists_items_of_render {b : Builder} {text : String} (h : b.render = .ok text) :
    ∃ items, parseTrees b.unit.tokens = .ok items ∧
      text = b.header ++ "\n\n" ++ layoutItems items := by
  unfold Builder.render at h
  split at h
  · cases h
  · rename_i items hitems
    cases h
    exact ⟨items, hitems, rfl⟩

/-- A struct with a field whose name is only raw. -/
def rawField : String := "#[swagger_builder(target = A)] struct S \x7b r#type: u8, x: u8 \x7d"

end BuilderGen
