import BuilderGen.Code.Tree

/-!
# Attributes

What an attribute is called. Attributes keep the places of their tokens, because complaints about
them point there.
-/

namespace BuilderGen.Code.Attribute

/-- The start of an attribute. -/
def head : Attribute → AttributeHead
  | bare head | list head .. | value head .. => head

/-- The place of the number sign of an attribute. -/
def pos (a : Attribute) : Position := a.head.pos

/-- The one name that the path of an attribute consists of. -/
def name? (a : Attribute) : Option Ident :=
  if a.head.rooted then none
  else
    match a.head.path with
    | [id] => some id
    | _ => none

/-- Whether the path of an attribute is one name, written as `word`. -/
def named (a : Attribute) (word : String) : Bool := a.name?.any (·.is word)

/-- The path of an attribute as text. -/
def pathText (a : Attribute) : String :=
  (if a.head.rooted then "::" else "") ++ "::".intercalate (a.head.path.map Ident.text)

end BuilderGen.Code.Attribute
