import BuilderGen.Code.Parser.Basic

/-!
# Failures of requests

What can go wrong with one request for a builder. A failure concerns its own request only; the
other requests are served all the same.
-/

namespace BuilderGen

/-- Why a request was not served. Sources, builders and fields are given by name. -/
inductive Failure where
  /-- The target is no type that can be named. -/
  | unresolvedTarget (source reason : String)
  /-- The builder name is no identifier. -/
  | invalidBuilderName (source name : String)
  /-- The setter for a field is no identifier. -/
  | invalidSetter (source field setter : String)
  /-- A field is called like a method of every builder. -/
  | reservedField (source builder field : String)
  /-- The renaming of a field cannot be read. -/
  | invalidRename (source field reason : String)
  /-- The text of the builder would not be valid source text. -/
  | render (builder : String) (cause : Code.SyntaxError)
  /-- The text of the builder could not be stored. -/
  | write (builder reason : String)
  deriving DecidableEq, Repr

/-- The failure in words. -/
def Failure.message : Failure → String
  | unresolvedTarget source reason => s!"cannot resolve target type for `{source}`: {reason}"
  | invalidBuilderName source name => s!"`{name}` is not a valid builder name for `{source}`"
  | invalidSetter source field setter =>
    s!"field `{field}` of `{source}` maps to setter `{setter}`, which is not a valid method name"
  | reservedField source builder field =>
    s!"field `{field}` of `{source}` cannot be a setter on `{builder}`: "
      ++ s!"`{field}` is reserved for the builder"
  | invalidRename source field reason =>
    s!"invalid #[map_to] on field `{field}` of `{source}`: {reason}"
  | render builder cause => s!"failed to render builder `{builder}`: {cause.message}"
  | write builder reason => s!"failed to write builder `{builder}`: {reason}"

end BuilderGen
