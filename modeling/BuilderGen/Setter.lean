import BuilderGen.Unicode.Uppercase
import BuilderGen.Unicode.WhiteSpace

/-!
# Setter names

A builder hands a value to its target through a setter, whose name is made from the name of the
target field. There are two ways to make it.
-/

namespace BuilderGen

/-- How the setters of a target are named. -/
inductive SetterStyle where
  /-- `set` and the capitalized field, as in `setUserAge`. -/
  | prefixed
  /-- `set_` and the field, as in `set_user_age`. -/
  | snake
  deriving DecidableEq, Repr, Inhabited

/-- The name of a style. -/
def SetterStyle.text : SetterStyle → String
  | prefixed => "prefixed"
  | snake => "snake"

/-- The style with a given name. Blanks around the name and the case of its letters do not
matter; a name of no style is answered with a complaint. -/
def SetterStyle.parse (s : String) : Except String SetterStyle :=
  match Unicode.asciiLower (Unicode.trim s) with
  | "prefixed" | "camel" => .ok prefixed
  | "snake" => .ok snake
  | other => .error s!"unknown setter style `{other}` (expected `prefixed` or `snake`)"

/-- A text with its first character in capital form, which may be several characters. -/
def capitalize (s : String) : String :=
  match s.toList with
  | [] => ""
  | c :: rest => String.ofList (Unicode.uppercase c ++ rest)

/-- The name of the setter of a target field. -/
def setterName (field : String) : SetterStyle → String
  | .prefixed => "set" ++ capitalize field
  | .snake => "set_" ++ field

end BuilderGen
