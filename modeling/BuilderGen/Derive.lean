import BuilderGen.Rename
import BuilderGen.Request

/-!
# Checking requests where they are written

The same attributes are checked when the struct itself is compiled. The check is stricter than the
reading of requests: a fault in an entry of a list is a fault of the list, a target must not be
given twice, and every problem is reported at its place. It says nothing about items that never
have builders.
-/

namespace BuilderGen

open Code

/-- A complaint at a place. -/
def complaint (pos : Position) (text : String) : SyntaxError :=
  { fault := .remark text, pos := some pos }

/-- The names of the methods that every builder has. -/
def builderMethods : List String := ["new", "build"]

/-- Check an entry of a request. What is collected is whether there was a target. -/
def checkEntry (m : Meta) : Collector Bool Unit := do
  if m.named "target" then
    if (← get).1 then .refuse m "duplicate `target`"
    let (type, pos) ← match ← .read Parser.typeValue with
      | .plain t pos => pure (t, pos)
      | .quoted q => do pure (← liftExcept q.type, q.pos)
    match type with
    | .path _ => .collect fun _ => true
    | _ => throw (complaint pos "`target` must be a type path")
  else if m.named "builder_name" || m.named "name" then
    let name ← .read Parser.quotedValue
    if !name.value.isEmpty && (parseName? name.value).isNone then
      throw (complaint name.pos s!"`{name.value}` is not a valid builder name")
  else .refuse m "unsupported key, expected `target` or `builder_name`"
where
  /-- A result as a step. -/
  liftExcept {α : Type} : Except SyntaxError α → Collector Bool α
    | .ok a => pure a
    | .error e => throw e

/-- What is wrong with the entries of a request that starts at `pos`. -/
def entriesFault (pos : Position) : Bool × Option SyntaxError → Option SyntaxError
  | (_, some e) => some e
  | (true, none) => none
  | (false, none) => some (complaint pos "missing `target = <type>` in builder request")

/-- Check an attribute with one request. -/
def checkRequest (a : Attribute) : Option SyntaxError :=
  entriesFault a.pos (a.collect false checkEntry)

/-- Check an entry of a list. What is collected is the number of requests. -/
def checkListEntry (m : Meta) : Collector Nat Unit := do
  if isRequestEntry m then
    match entriesFault m.pos (← .grouped false (.entries checkEntry)) with
    | some e => throw e
    | none => .collect (· + 1)
  else .refuse m "expected `builder(target = ..., builder_name = \"...\")`"

/-- Check an attribute with a list of requests and count them. -/
def checkRequestList (a : Attribute) : Except SyntaxError Nat :=
  match a.collect 0 checkListEntry with
  | (_, some e) => .error e
  | (0, none) =>
    .error (complaint a.pos
      s!"#[{requestListAttribute}] needs at least one `builder(...)` entry")
  | (count, none) => .ok count

/-- Check an attribute and count its requests; attributes about other things have none. -/
def checkAttribute (a : Attribute) : Except SyntaxError Nat :=
  if a.named requestAttribute then
    match checkRequest a with
    | some e => .error e
    | none => .ok 1
  else if a.named requestListAttribute then checkRequestList a
  else .ok 0

/-- Check a field: it must not be called like a method of the builder, and its directives must be
readable. -/
def checkField (name : Ident) (f : Field) : Option SyntaxError :=
  if builderMethods.contains name.name then
    some (complaint f.namePos
      s!"field `{name.name}` would collide with the builder's `{name.name}()` method")
  else
    match renameDirective f.attributes with
    | .ok _ => none
    | .error reason =>
      let pos := match f.attributes.find? (·.named renameAttribute) with
        | some a => a.pos
        | none => f.namePos
      some (complaint pos reason)

/-- The fault of a result, if it has one. -/
def faultOf {α : Type} : Except SyntaxError α → Option SyntaxError
  | .ok _ => none
  | .error e => some e

/-- The number of requests of a result; a fault counts as none. -/
def countOf : Except SyntaxError Nat → Nat
  | .ok n => n
  | .error _ => 0

/-- Check a struct with named fields: the complaints about its attributes, then about its fields. A
struct that asks for nothing and has no faulty attribute has this as its only complaint. -/
def checkStruct (s : Struct) (fields : List (Ident × Field)) : List SyntaxError :=
  let checked := s.attributes.map checkAttribute
  let faults := checked.filterMap faultOf
  if checked.all (countOf · == 0) && faults.isEmpty then
    [complaint s.namePos
      s!"SwaggerBuilder requires at least one #[{requestAttribute}(target = ...)]"]
  else faults ++ fields.filterMap fun (name, f) => checkField name f

/-- Check an item. The answer is everything that is wrong with it. -/
def check : DeriveInput → List SyntaxError
  | .struct s =>
    match s.namedFields? with
    | some fields => checkStruct s fields
    | none => []
  | .other => []

end BuilderGen
