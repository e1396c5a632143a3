import BuilderGen.Builder
import BuilderGen.Code.Lexer.Literal

/-!
# The unit of a builder

What is written for a builder: a struct with its fields, and its methods. There is `new`, then a
method for each field that sets it and hands the builder on, and `build`, which makes a target and
passes every field to its setter.
-/

namespace BuilderGen

open Code

/-- How a method takes its builder. -/
inductive Receiver where
  /-- It takes none. -/
  | none
  /-- It takes the builder as it is. -/
  | byValue
  /-- It takes the builder and changes it. -/
  | mutable
  deriving DecidableEq, Repr

/-- A statement in a method. -/
inductive Statement where
  /-- Answer a builder with default values. -/
  | yieldDefault
  /-- Set a field of the builder to the parameter of the same name. -/
  | assign (field : Ident)
  /-- Answer the builder. -/
  | yieldSelf
  /-- Make a target with default values. -/
  | makeTarget (mutable : Bool) (type : Path)
  /-- Pass a field of the builder to a setter of the target. -/
  | pass (setter field : Ident)
  /-- Answer the target. -/
  | yieldTarget

/-- A method of a builder. -/
structure Method where
  /-- Its name. -/
  name : Ident
  /-- How it takes the builder. -/
  receiver : Receiver
  /-- Its parameter, if it has one. -/
  parameter : Option (Ident × Ty)
  /-- Its result. -/
  result : Path
  /-- Its statements. -/
  body : List Statement

/-- What is written for a builder. -/
structure BuilderUnit where
  /-- The comment on the struct. -/
  comment : String
  /-- How far the struct can be seen. -/
  visibility : Visibility
  /-- The name of the struct. -/
  name : Ident
  /-- The generic parameters of the struct. -/
  generics : Generics
  /-- The fields of the struct. -/
  fields : List (Ident × Ty)
  /-- The methods, in order. -/
  methods : List Method

/-! ### Words -/

/-- A word that is the same in every unit. -/
inductive UnitWord where
  | build | core | default | defaultTrait | derive | doc | function | implementation | letBinding
  | mutable | new | self | selfType | struct | target | visible

namespace UnitWord

/-- The text of a word. -/
def text : UnitWord → String
  | .build => "build"
  | .core => "core"
  | .default => "default"
  | .defaultTrait => "Default"
  | .derive => "derive"
  | .doc => "doc"
  | .function => "fn"
  | .implementation => "impl"
  | .letBinding => "let"
  | .mutable => "mut"
  | .new => "new"
  | .self => "self"
  | .selfType => "Self"
  | .struct => "struct"
  | .target => "target"
  | .visible => "pub"

/-- Every word can be written. -/
theorem canWrite_text (w : UnitWord) : canWrite w.text false = true := by
  cases w <;> decide

/-- A word as an identifier. -/
def ident (w : UnitWord) : Ident := { name := w.text, written := w.canWrite_text }

/-- A word as a token. -/
def token (w : UnitWord) : TokenTree := .name w.ident

end UnitWord

/-! ### The parts of a unit -/

/-- The method that makes a builder with default values. -/
def newMethod : Method where
  name := UnitWord.new.ident
  receiver := .none
  parameter := none
  result := .single UnitWord.selfType.ident
  body := [.yieldDefault]

/-- The method that sets a field. -/
def BuilderField.method (f : BuilderField) : Method where
  name := f.name
  receiver := .mutable
  parameter := some (f.name, f.type)
  result := .single UnitWord.selfType.ident
  body := [.assign f.name, .yieldSelf]

/-- The method that builds the target. The target is only changed if there are fields. -/
def Builder.buildMethod (b : Builder) : Method where
  name := UnitWord.build.ident
  receiver := .byValue
  parameter := none
  result := b.target
  body := .makeTarget (!b.fields.isEmpty) b.target ::
    b.fields.map (fun f => .pass f.setter f.name) ++ [.yieldTarget]

/-- The unit of a builder. -/
def Builder.unit (b : Builder) : BuilderUnit where
  comment := s!" Fluent builder for [`{b.target.text}`], generated from [`{b.source.text}`]."
  visibility := b.visibility
  name := b.name
  generics := b.generics
  fields := b.fields.map fun f => (f.name, f.type)
  methods := newMethod :: b.fields.map BuilderField.method ++ [b.buildMethod]

/-- The generic parameters of the implementation: the same ones without their defaults. -/
def BuilderUnit.implGenerics (u : BuilderUnit) : Generics := u.generics.withoutDefaults

/-- The type of the builder, with its own parameters as arguments. -/
def BuilderUnit.type (u : BuilderUnit) : Ty := u.generics.apply u.name

/-! ### Tokens -/

/-- The path of the trait of types with default values. -/
def defaultPath : Path :=
  ⟨true, [.bare UnitWord.core.ident, .bare UnitWord.default.ident,
    .bare UnitWord.defaultTrait.ident]⟩

/-- A call that makes the default value of a type. -/
def defaultCall (p : Path) : Expr :=
  .call (.qualified (.path p) (some defaultPath) [.bare UnitWord.default.ident]) [] false

/-- The tokens of a statement. -/
def Statement.tokens : Statement → List TokenTree
  | .yieldDefault => (defaultCall (.single UnitWord.selfType.ident)).tokens
  | .assign field =>
    [UnitWord.self.token] ++ operatorTokens "." ++ [.name field] ++ operatorTokens "="
      ++ [.name field] ++ operatorTokens ";"
  | .yieldSelf => [UnitWord.self.token]
  | .makeTarget mutable type =>
    [UnitWord.letBinding.token] ++ (if mutable then [UnitWord.mutable.token] else [])
      ++ [UnitWord.target.token] ++ operatorTokens "=" ++ (defaultCall type).tokens
      ++ operatorTokens ";"
  | .pass setter field =>
    [UnitWord.target.token] ++ operatorTokens "." ++ [.name setter]
      ++ [.enclosed .parenthesis ([UnitWord.self.token] ++ operatorTokens "." ++ [.name field])]
      ++ operatorTokens ";"
  | .yieldTarget => [UnitWord.target.token]

/-- The tokens of how a method takes its builder. -/
def Receiver.tokens : Receiver → List TokenTree
  | .none => []
  | .byValue => [UnitWord.self.token]
  | .mutable => [UnitWord.mutable.token, UnitWord.self.token]

/-- The tokens of a name and its type. -/
def typedTokens (name : Ident) (type : Ty) : List TokenTree :=
  [.name name] ++ operatorTokens ":" ++ type.tokens

/-- The tokens of a method. -/
def Method.tokens (m : Method) : List TokenTree :=
  let parameter := match m.parameter with
    | none => []
    | some (name, type) => operatorTokens "," ++ typedTokens name type
  [UnitWord.visible.token, UnitWord.function.token, .name m.name,
    .enclosed .parenthesis (m.receiver.tokens ++ parameter)]
    ++ operatorTokens "->" ++ m.result.tokens
    ++ [.enclosed .brace (m.body.flatMap Statement.tokens)]

/-- The tokens of an attribute. -/
def attributeOf (content : List TokenTree) : List TokenTree :=
  operatorTokens "#" ++ [.enclosed .bracket content]

/-- The tokens of the struct of a unit. -/
def BuilderUnit.structTokens (u : BuilderUnit) : List TokenTree :=
  attributeOf ([UnitWord.doc.token] ++ operatorTokens "="
      ++ [.literal (quoteString u.comment) .none])
    ++ attributeOf [UnitWord.derive.token, .enclosed .parenthesis [UnitWord.defaultTrait.token]]
    ++ u.visibility.tokens ++ [UnitWord.struct.token, .name u.name] ++ u.generics.tokens
    ++ u.generics.whereTokens
    ++ [.enclosed .brace (u.fields.flatMap fun (name, type) =>
      typedTokens name type ++ operatorTokens ",")]

/-- The tokens of the implementation of a unit. -/
def BuilderUnit.implTokens (u : BuilderUnit) : List TokenTree :=
  [UnitWord.implementation.token] ++ u.implGenerics.tokens ++ u.type.tokens
    ++ u.generics.whereTokens ++ [.enclosed .brace (u.methods.flatMap Method.tokens)]

/-- The tokens of a unit. -/
def BuilderUnit.tokens (u : BuilderUnit) : List TokenTree := u.structTokens ++ u.implTokens

end BuilderGen
