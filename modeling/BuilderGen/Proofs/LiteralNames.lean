import BuilderGen.Proofs.Names
import BuilderGen.Proofs.Synthesis

/-!
# Names as they were asked for

The name of a builder and the names of its setters are read off texts, as code is. So a name that was
asked for with blanks, comments or a byte order mark around it is not refused; it loses what is around
it. Any other name is taken as it stands.
-/

namespace BuilderGen

open Code

/-- What a name comes to that was asked for as a text: the identifier that the text names, which is
the text itself if and only if this has nothing in it that may stand around a name. -/
def ReadAs (text : String) (id : Ident) : Prop :=
  Names text id ∧ (id.text = text ↔ isBare text = true)

theorem readAs_of_parseName? {text : String} {id : Ident} (h : parseName? text = some id) :
    ReadAs text id :=
  have hnames := parseName?_eq_some_iff.mp h
  ⟨hnames, hnames.1.text_eq_iff⟩

/-- The name of a builder is what was asked for, or the default, and its setters are called as their
target fields and the style say, all without what may stand around a name; nothing else is lost. -/
theorem names_lose_padding_only {source : Source} {request : Request} {style : SetterStyle}
    {b : Builder} (h : Builder.synthesize source request style = .ok b) :
    ReadAs (builderName source request) b.name ∧
      List.Forall₂
        (fun (f : SourceField) (g : BuilderField) =>
          g.targetField = f.targetField ∧ ReadAs (setterName f.targetField style) g.setter)
        source.fields b.fields := by
  have hfor := isFor_of_synthesize h
  refine ⟨readAs_of_parseName? hfor.name, hfor.fields.imp fun f g hfield => ?_⟩
  obtain ⟨-, -, htarget, hsetter⟩ := ofField_eq_ok hfield
  exact ⟨htarget, readAs_of_parseName? hsetter⟩

/-- A struct that asks for names with something around them. -/
def paddedNames : String :=
  "#[swagger_builder(target = A, name = \" Padded \")] struct S \x7b #[map_to(\"y // c\")] x: u8 \x7d"

/-- The identifiers in the names are what the names come to. -/
theorem padded_names_are_read :
    ∃ f b, buildersIn paddedNames = [(f, b)] ∧ ReadAs " Padded " b.name ∧
      ∃ g, b.fields = [g] ∧ ReadAs "setY // c" g.setter := by
  have hfacts : (buildersIn paddedNames).map (fun p => (builderName p.1.source p.1.request,
      p.1.source.fields.map fun f => setterName f.targetField .prefixed)) =
      [(" Padded ", ["setY // c"])] := by decide +kernel
  obtain ⟨⟨f, b⟩, rest, hall, hfirst, hrest⟩ := List.map_eq_cons_iff.mp hfacts
  rw [List.map_eq_nil_iff.mp hrest] at hall
  obtain ⟨hname, hsetters⟩ := Prod.mk.inj hfirst
  have hb : Builder.synthesize f.source f.request .prefixed = .ok b :=
    synthesize_of_mem_buildersIn (hall ▸ List.mem_cons_self)
  obtain ⟨hread, hfields⟩ := names_lose_padding_only hb
  obtain ⟨x, xs, hxs, hx, hnil⟩ := List.map_eq_cons_iff.mp hsetters
  rw [hxs, List.map_eq_nil_iff.mp hnil] at hfields
  obtain ⟨g, gs, ⟨-, hg⟩, hgs, hbfields⟩ := List.forall₂_cons_left_iff.mp hfields
  rw [List.forall₂_nil_left_iff.mp hgs] at hbfields
  exact ⟨f, b, hall, hname ▸ hread, g, hbfields, hx ▸ hg⟩

/-- A name with blanks around it is neither refused nor taken as it stands. -/
theorem padded_name_is_changed :
    (buildersIn paddedNames).map (fun p => (builderName p.1.source p.1.request, p.2.name.text)) =
      [(" Padded ", "Padded")] := by
  decide +kernel

end BuilderGen
