import BuilderGen.Builder.Unit
import BuilderGen.Layout.Tree

/-!
# The text of a builder

A unit is laid out as source text, under a line that says where it comes from. A unit whose tokens
are no valid source text has no text.
-/

namespace BuilderGen

open Code

/-- The first line of the text of a builder. -/
def Builder.header (b : Builder) : String :=
  s!"// @generated by swagger-builder-build from `{b.module}::{b.source.text}`. Do not edit."

/-- The text of a builder. -/
def Builder.render (b : Builder) : Except Failure String :=
  match parseTrees b.unit.tokens with
  | .error e => .error (.render b.fullName e)
  | .ok items => .ok (b.header ++ "\n\n" ++ layoutItems items)

end BuilderGen
