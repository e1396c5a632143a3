import BuilderGen.Builder.Run

/-!
# An example

A hand-written source that asks for two builders, and the two targets that they build. The builders
are the ones that the library makes of the source.
-/

namespace BuilderGen.Example

open Code

/-- The source text. -/
def sourceText : String :=
  "\n".intercalate [
    "#[swagger_builder(target = MockUser)]",
    "#[swagger_builder(target = MockAdmin, builder_name = \"AdminUserBuilder\")]",
    "pub struct MyUser \x7b",
    "    pub name: String,",
    "    #[map_to(\"userAge\")]",
    "    pub user_age: i32,",
    "    #[map_to(\"interests\")]",
    "    pub hobbies: Vec<String>,",
    "\x7d"]

/-- The builders of the source. -/
def builders : List Builder :=
  match parseDeclarations sourceText "crate::examples::custom" with
  | .error _ => []
  | .ok ds => (discover ds).filterMap fun e =>
    (e.bind fun f => Builder.synthesize f.source f.request .prefixed).toOption

/-- The builder with a given name. -/
def builder? (name : String) : Option Builder := builders.find? (·.name.is name)

/-- A value of a field. -/
inductive Value where
  /-- A text. -/
  | text (s : String)
  /-- A number. -/
  | number (n : Int32)
  /-- A list of texts. -/
  | texts (ss : List String)
  deriving DecidableEq, Repr

/-- The default value of a field. -/
def defaultValue (field : Ident) : Value :=
  match field.name with
  | "user_age" => .number 0
  | "hobbies" => .texts []
  | _ => .text ""

/-- The target of the first builder. -/
structure User where
  /-- The name. -/
  name : String := ""
  /-- The age. -/
  userAge : Int32 := 0
  /-- The interests. -/
  interests : List String := []
  deriving DecidableEq, Repr

/-- Call a setter. -/
def User.receive (u : User) (setter : Ident) (value : Value) : User :=
  match setter.name, value with
  | "setName", .text s => { u with name := s }
  | "setUserAge", .number n => { u with userAge := n }
  | "setInterests", .texts ss => { u with interests := ss }
  | _, _ => u

/-- The target of the second builder. It knows whether its age was ever set. -/
structure Admin where
  /-- The name. -/
  displayName : String := ""
  /-- The age. -/
  age : Option Int32 := none
  /-- The interests. -/
  interests : List String := []
  deriving DecidableEq, Repr

/-- Call a setter. -/
def Admin.receive (a : Admin) (setter : Ident) (value : Value) : Admin :=
  match setter.name, value with
  | "setName", .text s => { a with displayName := s }
  | "setUserAge", .number n => { a with age := some n }
  | "setInterests", .texts ss => { a with interests := ss }
  | _, _ => a

/-- What is built after each of some calls, and before the first: the calls are made one after the
other on a builder with default values. -/
def builds {τ : Type} (b : Builder) (target : τ) (receive : τ → Ident → Value → τ)
    (calls : List (String × Value)) : List τ :=
  let built (vs : Values Value) := (b.unit.build vs).foldl (fun t c => receive t c.1 c.2) target
  go built (b.unit.start defaultValue) calls
where
  /-- The targets from given values on. -/
  go (built : Values Value → τ) (vs : Values Value) : List (String × Value) → List τ
    | [] => [built vs]
    | (name, a) :: rest => built vs :: go built (b.unit.call name a vs) rest

end BuilderGen.Example
