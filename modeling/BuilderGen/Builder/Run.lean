import BuilderGen.Builder.Unit

/-!
# Running a builder

What the methods of a unit do, for fields that hold values of any kind `α`. A builder is a value for
each field. Setting a field changes that value, and building passes the values to the setters of a
target. The target is known by the calls it receives.
-/

namespace BuilderGen

open Code

/-- The values of the fields of a builder. -/
abbrev Values (α : Type) := List (Ident × α)

variable {α : Type}

/-- The values with another value for one field. -/
def Values.set (vs : Values α) (field : Ident) (a : α) : Values α :=
  vs.map fun v => if v.1 = field then (field, a) else v

/-- The state of a method while it runs. -/
structure Execution (α : Type) where
  /-- The values of the builder. -/
  values : Values α
  /-- The setters of the target called so far, with their arguments. -/
  calls : List (Ident × α)

/-- Run a statement of a method that was called with an argument or without. -/
def Statement.execute (argument : Option α) (x : Execution α) : Statement → Execution α
  | .assign field =>
    match argument with
    | some a => { x with values := x.values.set field a }
    | none => x
  | .pass setter field =>
    match x.values.lookup field with
    | some a => { x with calls := x.calls ++ [(setter, a)] }
    | none => x
  | .yieldDefault | .yieldSelf | .makeTarget .. | .yieldTarget => x

/-- Run a method on a builder. -/
def Method.execute (m : Method) (argument : Option α) (vs : Values α) : Execution α :=
  m.body.foldl (Statement.execute argument) { values := vs, calls := [] }

namespace BuilderUnit

/-- The method with a given name. -/
def method? (u : BuilderUnit) (name : String) : Option Method :=
  u.methods.find? (·.name.name == name)

/-- A builder with default values. -/
def start (u : BuilderUnit) (default : Ident → α) : Values α :=
  u.fields.map fun f => (f.1, default f.1)

/-- The builder after the method `name` is called with an argument. Without such a method nothing
changes. -/
def call (u : BuilderUnit) (name : String) (a : α) (vs : Values α) : Values α :=
  match u.method? name with
  | some m => (m.execute (some a) vs).values
  | none => vs

/-- The calls that the target receives when it is built. -/
def build (u : BuilderUnit) (vs : Values α) : List (Ident × α) :=
  match u.method? "build" with
  | some m => (m.execute none vs).calls
  | none => []

end BuilderUnit

end BuilderGen
