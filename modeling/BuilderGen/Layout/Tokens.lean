import BuilderGen.Code.Token
import BuilderGen.Layout.Shape

/-!
# Laying out the arguments of attributes

The arguments of an attribute are laid out token by token. Where a space goes depends on the token
and on what stands before it.
-/

namespace BuilderGen.Layout

open Code

/-- What stands before a token of an attribute. -/
inductive AttributeState where
  /-- A word or nothing. -/
  | word
  /-- Punctuation. -/
  | punct
  /-- A comma at the end of a list. -/
  | comma
  deriving DecidableEq

mutual

/-- The pieces of a token of an attribute and the state after it. -/
def attributeToken (isLast : Bool) (state : AttributeState) :
    TokenTree → List Piece × AttributeState
  | .ident id _ => ((if state = .word then space else []) ++ word id.text, .word)
  | .literal text _ => ((if state = .word then space else []) ++ word text, .word)
  | .punct c _ _ =>
    let before := wordIf (state = .word && c == '=') " "
    if c == ',' && isLast then (before ++ lastComma, .comma)
    else
      let after := if c == '=' then word " " else if c == ',' then space else []
      (before ++ word c.toString ++ after, .punct)
  | .group d content _ _ =>
    let (inner, last) := attributeTokens .punct content
    let inner :=
      if d = .parenthesis then
        cbox indentation (outdented (seam ++ if last = .comma then inner else inner ++ seam))
      else inner
    (word d.opening.toString ++ inner ++ word d.closing.toString, .punct)

/-- The pieces of the tokens in a group of an attribute and the state after them. -/
def attributeTokens (state : AttributeState) : List TokenTree → List Piece × AttributeState
  | [] => ([], state)
  | t :: rest =>
    let (pieces, state) := attributeToken rest.isEmpty state t
    let (more, state) := attributeTokens state rest
    (pieces ++ more, state)

end

/-- The arguments of an attribute in their brackets. -/
def attributeList (d : Delimiter) (content : List TokenTree) : List Piece :=
  (attributeToken true .word (.enclosed d content)).1

end BuilderGen.Layout
