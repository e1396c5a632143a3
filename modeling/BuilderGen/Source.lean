import BuilderGen.Rename
import BuilderGen.Request

/-!
# Sources of builders

A source text declares items in modules. A struct with named fields that asks for builders is a
source; it yields one entry for each of its requests. Other items yield none.
-/

namespace BuilderGen

open Code

/-- An item and the module it is declared in. -/
structure Declaration where
  /-- The path of the module. -/
  module : String
  /-- The item; it is no inline module. -/
  item : Item

mutual

/-- The declarations of an item in a module. An inline module stands for what it holds. -/
def declarationsOf (module : String) : Item → List Declaration
  | .module _ _ _ name _ items => declarationsOfAll (module ++ "::" ++ name.name) items
  | item => [{ module, item }]

/-- The declarations of items in a module, in order. -/
def declarationsOfAll (module : String) : List Item → List Declaration
  | [] => []
  | item :: rest => declarationsOf module item ++ declarationsOfAll module rest

end

/-- The declarations of a source text in a module. -/
def parseDeclarations (text module : String) : Except SyntaxError (List Declaration) :=
  (parseFile text).map (declarationsOfAll module)

/-- A field of a source. -/
structure SourceField where
  /-- Its name. -/
  name : Ident
  /-- Its type. -/
  type : Ty
  /-- The field of the target that a directive names. -/
  rename : Option String

/-- A struct that asks for builders. -/
structure Source where
  /-- Its name. -/
  name : Ident
  /-- The path of its module. -/
  module : String
  /-- How far it can be seen. -/
  visibility : Visibility
  /-- Its generic parameters. -/
  generics : Generics
  /-- Its fields, in the order declared. -/
  fields : List SourceField

/-- The full name of a source. -/
def Source.fullName (s : Source) : String := s.module ++ "::" ++ s.name.text

/-- A field of a source, or why its directives cannot be read. -/
def SourceField.ofField (source name : Ident) (f : Field) : Except Failure SourceField :=
  match renameDirective f.attributes with
  | .ok rename => .ok { name, type := f.type, rename }
  | .error reason => .error (.invalidRename source.text name.text reason)

/-- The source that a struct with named fields is. -/
def Source.ofStruct (module : String) (s : Struct) (fields : List (Ident × Field)) :
    Except Failure Source := do
  return {
    name := s.name
    module
    visibility := s.visibility
    generics := s.generics
    fields := ← fields.mapM fun (name, f) => SourceField.ofField s.name name f }

/-- A request and the source that makes it. -/
structure Found where
  /-- The source. -/
  source : Source
  /-- The request. -/
  request : Request

/-- The entries for the requests of a declaration. When a field cannot be read, every request fails
with the first such field. -/
def foundIn (d : Declaration) : List (Except Failure Found) :=
  match d.item with
  | .struct s =>
    match s.namedFields? with
    | some fields =>
      let source := Source.ofStruct d.module s fields
      (requests s.attributes).map fun request => source.map ({ source := ·, request })
    | none => []
  | _ => []

/-- The entries for the requests of all declarations, in order. -/
def discover (ds : List Declaration) : List (Except Failure Found) := ds.flatMap foundIn

/-- What is said about a declaration that asks for builders and cannot have any. -/
def skipped? (d : Declaration) : Option String :=
  match d.item with
  | .enum attributes _ name _ _ _ =>
    if hasRequests attributes then
      some s!"skipping enum `{name.text}`: builders are only generated for structs"
    else none
  | .union attributes _ name _ _ _ =>
    if hasRequests attributes then
      some s!"skipping union `{name.text}`: builders are only generated for structs"
    else none
  | .struct s =>
    match s.namedFields? with
    | some _ => none
    | none =>
      if (requests s.attributes).isEmpty then none
      else some s!"skipping `{s.name.text}`: builders need named fields"
  | _ => none

end BuilderGen
