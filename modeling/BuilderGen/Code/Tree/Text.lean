import BuilderGen.Code.Tree.Tokens

/-!
# Types for people

The text of a type for people is made from its tokens by closing up the spaces around angle
brackets, paths, commas and references.
-/

namespace BuilderGen.Code

/-- The spaces that are closed up in the text of a type, in this order. -/
def typeSpacing : List (String × String) :=
  [(" :: ", "::"), (":: ", "::"), (" < ", "<"), ("< ", "<"), (" <", "<"), (" >", ">"), (" ,", ","),
    ("& ", "&")]

/-- Replace every occurrence of a nonempty text, from left to right. -/
def replaceChars (old new : List Char) (cs : List Char) : List Char :=
  match cs with
  | [] => []
  | c :: rest =>
    if old.isPrefixOf (c :: rest) then new ++ replaceChars old new (rest.drop (old.length - 1))
    else c :: replaceChars old new rest
termination_by cs.length
decreasing_by
  all_goals simp only [List.length_drop, List.length_cons]; omega

/-- The text of a type for people, such as `Vec<String>`. -/
def Ty.text (t : Ty) : String :=
  String.ofList <| typeSpacing.foldl
    (fun cs (old, new) => replaceChars old.toList new.toList cs) (streamText t.tokens).toList

end BuilderGen.Code
