import BuilderGen.Code.Tree

/-!
# Declarations

What the items of a source file declare: their kinds, and the names they are declared under.
-/

namespace BuilderGen.Code

/-- The kinds of declarations. -/
inductive ItemKind where
  /-- A constant. -/
  | const
  /-- An enum. -/
  | enum
  /-- An imported library. -/
  | externCrate
  /-- A function. -/
  | function
  /-- Declarations of another language. -/
  | foreign
  /-- An implementation. -/
  | implementation
  /-- A macro call. -/
  | invocation
  /-- A module. -/
  | module
  /-- A static variable. -/
  | static
  /-- A struct. -/
  | struct
  /-- A trait. -/
  | trait
  /-- An alias of bounds. -/
  | traitAlias
  /-- A type alias. -/
  | typeAlias
  /-- A union. -/
  | union
  /-- An import. -/
  | use
  /-- Anything else. -/
  | other
  deriving DecidableEq, Repr

namespace Item

/-- The kind of an item. -/
def kind : Item → ItemKind
  | const .. => .const
  | enum .. => .enum
  | externCrate .. => .externCrate
  | function .. => .function
  | foreign .. => .foreign
  | implementation .. => .implementation
  | invocation .. => .invocation
  | module .. | outlineModule .. => .module
  | static .. => .static
  | struct .. => .struct
  | trait .. => .trait
  | traitAlias .. => .traitAlias
  | typeAlias .. => .typeAlias
  | union .. => .union
  | use .. => .use
  | raw .. => .other

/-- The name that an item is declared under, if it has one. -/
def name? : Item → Option Ident
  | const _ _ _ _ name .. | enum _ _ name .. | externCrate _ _ name .. | function _ _ _ name ..
  | module _ _ _ name .. | outlineModule _ _ _ name | static _ _ _ name .. | trait _ _ _ _ name ..
  | traitAlias _ _ name .. | typeAlias _ _ _ _ name .. | union _ _ name .. => some name
  | struct s => some s.name
  | invocation _ _ name => name
  | foreign .. | implementation .. | use .. | raw .. => none

end Item

/-- The fields of a struct with their names, if it has fields with names. -/
def Struct.namedFields? (s : Struct) : Option (List (Ident × Field)) :=
  if s.shape = .named then some (s.fields.filterMap fun f => f.name.map (·, f)) else none

/-- An item whose attributes are read by a derive: only structs matter to it. -/
inductive DeriveInput where
  /-- A struct. -/
  | struct (value : Struct)
  /-- An enum or a union. -/
  | other

end BuilderGen.Code
