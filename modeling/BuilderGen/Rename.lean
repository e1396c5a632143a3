import BuilderGen.Code.Parser.Meta

/-!
# Renamed fields

A field can carry a directive that names the field of the target it stands for. The name is a string
literal, which can be given in three ways: `("x")`, `(target_field_name = "x")` and `= "x"`.
-/

namespace BuilderGen

open Code

/-- The attribute that renames a field. -/
def renameAttribute : String := "map_to"

/-- Read an entry of the long form. The last one counts. -/
def renameEntry (m : Meta) : Collector (Option String) Unit := do
  if m.named "target_field_name" || m.named "value" then
    let name ← .read Parser.quotedValue
    .collect fun _ => some name.value
  else .refuse m "expected a string literal or `target_field_name = \"...\"`"

/-- The name in one directive, or what is wrong with it. -/
def renameOf (a : Attribute) : Except String String :=
  match a with
  | .value _ _ (.literal text) =>
    match stringValue? text with
    | some value => .ok value
    | none => .error "expected a string literal"
  | .value .. => .error "expected a string literal"
  | .bare _ => .error "missing target field name"
  | .list _ _ content closed =>
    match Parser.runOn Parser.stringLiteral content none closed with
    | .ok (_, value) => .ok value
    | .error _ =>
      match a.collect none renameEntry with
      | (_, some e) => .error e.message
      | (some name, none) => .ok name
      | (none, none) => .error "missing target field name"

/-- The name in the directives of a field. There may be none, and no more than one. -/
def renameDirective (attributes : List Attribute) : Except String (Option String) :=
  match attributes.filter (·.named renameAttribute) with
  | [] => .ok none
  | [a] => do return some (← renameOf a)
  | a :: _ => do
    discard <| renameOf a
    throw s!"only one #[{renameAttribute}] is allowed per field"

end BuilderGen
