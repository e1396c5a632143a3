import BuilderGen.Code.Lexer.Literal
import BuilderGen.Code.Tree

/-!
# Comments

An attribute that holds nothing but documentation is written as a comment: a line comment when its
text is one line, and otherwise a block comment, if its text can stand in one.
-/

namespace BuilderGen.Layout

open Code

/-- Whether block comments that start in some characters end there too, and no other ones; `depth`
are open already. -/
def isBalanced (depth : Nat) : List Char → Bool
  | '/' :: '*' :: rest => isBalanced (depth + 1) rest
  | '*' :: '/' :: rest =>
    match depth with
    | 0 => false
    | depth + 1 => isBalanced depth rest
  | _ :: rest => isBalanced depth rest
  | [] => depth == 0

/-- Whether a text can stand in a block comment. -/
def fitsBlockComment (s : String) : Bool := isBalanced 0 s.toList && !s.endsWith "/"

/-- Characters without the spaces at their end. -/
def trimmedSpaces (cs : List Char) : List Char := (cs.reverse.dropWhile (· == ' ')).reverse

/-- A text without the spaces at the ends of its lines, but with those at its own end. -/
def trimmedLines (s : String) : String :=
  "\n".intercalate (go (s.splitOn "\n"))
where
  /-- All lines but the last one trimmed. -/
  go : List String → List String
    | [] => []
    | [last] => [last]
    | line :: rest => String.ofList (trimmedSpaces line.toList) :: go rest

/-- Whether a text starts with one of some characters. -/
def startsWithAny (chars : List Char) (s : String) : Bool := s.toList.head?.any chars.contains

/-- A comment: after `line` when it is one line, and otherwise between `block` and the end of a
block comment. Its text must not start with a character of `notLine`, or of `notBlock`. -/
def commentText? (line block : String) (notLine notBlock : List Char) (s : String) :
    Option String :=
  if !s.toList.contains '\n' && !startsWithAny notLine s then
    some (line ++ String.ofList (trimmedSpaces s.toList))
  else if fitsBlockComment s && !startsWithAny notBlock s then
    some (block ++ trimmedLines s ++ "*/")
  else none

/-- The comment that an attribute with a value stands for. -/
def comment? (head : AttributeHead) (value : Expr) : Option String :=
  match head.rooted, head.path, value with
  | false, [name], .literal text =>
    if name.is "doc" then
      (stringValue? text).bind <|
        if head.isInner then commentText? "//!" "/*!" [] []
        else commentText? "///" "/**" ['/'] ['*', '/']
    else if name.is "comment" then
      (stringValue? text).bind (commentText? "//" "/*" [] ['*', '!'])
    else none
  | _, _, _ => none

end BuilderGen.Layout
