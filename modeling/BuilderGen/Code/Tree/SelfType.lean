import BuilderGen.Code.Tree.Substitution

/-!
# Replacing `Self`

Inside a declaration, `Self` is the declared type. A type that is moved out of its declaration keeps
its meaning when `Self` is replaced in it: by the declared type where it stands alone, and by a path
below that type where it is the start of a path. The paths of values are left alone.
-/

namespace BuilderGen.Code

/-- The type that a path is when `Self` means `t`. -/
def Path.withSelf (t : Ty) : Path → Ty
  | ⟨false, ⟨name, args⟩ :: rest⟩ =>
    if name.is "Self" then
      if rest.isEmpty then t else .qualified t none rest
    else .path ⟨false, ⟨name, args⟩ :: rest⟩
  | p => .path p

/-- Replace `Self` by `t` in the type `s`. -/
def Ty.replaceSelf (s t : Ty) : Ty := s.subst (Path.withSelf t)

end BuilderGen.Code
