import BuilderGen.Code.Tree.SelfType
import BuilderGen.Derive
import BuilderGen.Setter
import BuilderGen.Slot
import BuilderGen.Source

/-!
# Builders

A builder collects values for the fields of a source and hands them to a new value of its target,
field by field. It is put together from a source and one of its requests.
-/

namespace BuilderGen

open Code

/-- A field of a builder. -/
structure BuilderField where
  /-- Its name, which is also the name of the method that sets it. -/
  name : Ident
  /-- Its type. -/
  type : Ty
  /-- The field of the target that it stands for. -/
  targetField : String
  /-- The method of the target that takes its value. -/
  setter : Ident

/-- A builder. -/
structure Builder where
  /-- Its name. -/
  name : Ident
  /-- The path of its module, which is that of its source. -/
  module : String
  /-- How far it can be seen. -/
  visibility : Visibility
  /-- Its generic parameters. -/
  generics : Generics
  /-- The name of its source. -/
  source : Ident
  /-- The type that it builds. -/
  target : Path
  /-- Its fields, in the order of the source. -/
  fields : List BuilderField

namespace Builder

/-- The full name of a builder. -/
def fullName (b : Builder) : String := b.module ++ "::" ++ b.name.text

/-- The slot of a builder. -/
def slot (b : Builder) : Slot := ⟨b.fullName⟩

/-- The calls that hand the fields to the target, as text. -/
def setterCalls (b : Builder) : List String :=
  b.fields.map fun f => s!"target.{f.setter.text}(self.{f.name.text})"

end Builder

/-- The name of the builder for a request; a source gives its own name to the builder that has
none. -/
def builderName (source : Source) (request : Request) : String :=
  match request.builderName with
  | some name => if name.isEmpty then source.name.text ++ "Builder" else name
  | none => source.name.text ++ "Builder"

/-- The field of the target that a field stands for: the one its directive names, or the one of the
same name. -/
def SourceField.targetField (f : SourceField) : String :=
  match f.rename with
  | some name => if name.isEmpty then f.name.name else name
  | none => f.name.name

/-- The field of the builder `builder` for a field of a source. -/
def BuilderField.ofField (source : Source) (builder : String) (style : SetterStyle)
    (f : SourceField) : Except Failure BuilderField :=
  if builderMethods.contains f.name.name then
    .error (.reservedField source.name.text builder f.name.name)
  else
    let setter := setterName f.targetField style
    match parseName? setter with
    | none => .error (.invalidSetter source.name.text f.name.text setter)
    | some id =>
      .ok {
        name := f.name
        type := f.type.replaceSelf (source.generics.apply source.name)
        targetField := f.targetField
        setter := id }

/-- The builder for a request of a source. The name of the builder is looked at first, then the
target, then the fields in order. -/
def Builder.synthesize (source : Source) (request : Request) (style : SetterStyle) :
    Except Failure Builder :=
  let name := builderName source request
  match parseName? name with
  | none => .error (.invalidBuilderName source.name.text name)
  | some id => do
    let target ← request.target.resolve source.name.text
    let fields ← source.fields.mapM (BuilderField.ofField source name style)
    return {
      name := id
      module := source.module
      visibility := source.visibility
      generics := source.generics
      source := source.name
      target
      fields }

end BuilderGen
