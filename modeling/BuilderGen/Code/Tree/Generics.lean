import BuilderGen.Code.Tree.Path

/-!
# Generic parameters

A declaration with generic parameters stands for a type that is given arguments. The declared type
itself has its own parameters as arguments.
-/

namespace BuilderGen.Code

/-- No generic parameters and no where clause. -/
def Generics.empty : Generics :=
  { params := [], trailing := false, predicates := [], predicatesTrailing := false }

/-- Whether a parameter is a lifetime. -/
def GenericParam.isLifetime : GenericParam → Bool
  | .lifetime .. => true
  | _ => false

/-- The parameters with the lifetimes first; otherwise they keep their order. The last one has a
comma after it if it had one before. -/
def Generics.ordered (g : Generics) : Generics :=
  let later := g.params.filter (!·.isLifetime)
  { g with
    params := g.params.filter (·.isLifetime) ++ later
    trailing := g.trailing || (!later.isEmpty && g.params.getLast?.any (·.isLifetime)) }

/-- A parameter without its default. -/
def GenericParam.withoutDefault : GenericParam → GenericParam
  | .lifetime attributes name bounds trailing => .lifetime attributes name bounds trailing
  | .type attributes name bounds trailing _ => .type attributes name bounds trailing none
  | .const attributes name t _ => .const attributes name t none

/-- The same parameters without their defaults. -/
def Generics.withoutDefaults (g : Generics) : Generics :=
  { g with params := g.params.map GenericParam.withoutDefault }

/-- A parameter as an argument for itself. -/
def GenericParam.argument : GenericParam → Argument
  | .lifetime _ name _ _ => .lifetime name
  | .type _ name _ _ _ | .const _ name _ _ => .type (.path (.single name))

/-- The declared type: its name with its own parameters as arguments. -/
def Generics.apply (g : Generics) (name : Ident) : Ty :=
  let ordered := g.ordered
  if ordered.params.isEmpty then .path (.single name)
  else
    .path ⟨false,
      [⟨name, .angled false (ordered.params.map GenericParam.argument) ordered.trailing⟩]⟩

end BuilderGen.Code
