import BuilderGen.Code.Part
import BuilderGen.Layout.Shape

/-!
# Laying out macro calls

The body of a macro call is laid out token by token, as it may mean anything: a space goes where it
would go in the most common reading. Macros that are defined by rules have a layout of their own.
-/

namespace BuilderGen.Layout

open Code

/-! ### Bodies -/

/-- What stands before a token of a body. -/
inductive BodyState where
  /-- Nothing. -/
  | start
  /-- A dollar sign. -/
  | dollar
  /-- A dollar sign and a name, in a rule. -/
  | variable
  /-- A dollar sign, a name and a colon, in a rule. -/
  | variableColon
  /-- A repetition in parentheses. -/
  | repetition
  /-- The separator of a repetition. -/
  | separator
  /-- A number sign. -/
  | pound
  /-- A number sign and an exclamation mark. -/
  | poundBang
  /-- A dot. -/
  | dot
  /-- The first colon of two. -/
  | colon
  /-- Two colons. -/
  | doubleColon
  /-- A name or a literal. -/
  | name
  /-- A name and an exclamation mark. -/
  | nameBang
  /-- A group in parentheses or brackets. -/
  | group
  /-- Anything else. -/
  | other
  deriving DecidableEq

/-- The words that are set off from a group after them. -/
def spacedWords : List String :=
  ["as", "async", "await", "box", "break", "const", "continue", "crate", "dyn", "else", "enum",
    "extern", "fn", "for", "if", "impl", "in", "let", "loop", "macro", "match", "mod", "move",
    "mut", "pub", "ref", "return", "static", "struct", "trait", "type", "unsafe", "use", "where",
    "while", "yield"]

/-- Whether a token is a group in parentheses or brackets. -/
def isOpenGroup : TokenTree → Bool
  | .group .parenthesis .. | .group .bracket .. => true
  | _ => false

/-- Whether a space is due before a token, and the state after it; `rule` says that the token is
part of what a rule matches. -/
def bodyStep (rule : Bool) (state : BodyState) (t : TokenTree) : Bool × BodyState :=
  match state, t with
  | .dollar, .ident .. => (false, if rule then .variable else .other)
  | .variable, .punct ':' false _ => (false, .variableColon)
  | .variableColon, .ident .. => (false, .other)
  | .repetition, .punct '+' false _ | .repetition, .punct '*' false _
  | .repetition, .punct '?' false _ => (false, .other)
  | .repetition, .ident .. | .repetition, .literal .. => (false, .separator)
  | .repetition, .punct _ true _ => (false, .repetition)
  | .repetition, .punct _ false _ => (false, .separator)
  | .separator, .punct '+' _ _ | .separator, .punct '*' _ _ => (false, .other)
  | .pound, .punct '!' _ _ => (false, .poundBang)
  | .dollar, .group .parenthesis .. => (false, .repetition)
  | .pound, .group .bracket .. | .poundBang, .group .bracket .. => (false, .other)
  | .nameBang, t =>
    if isOpenGroup t then (false, .other) else general .nameBang t
  | .name, .punct '!' false _ => (false, .nameBang)
  | .name, t => if isOpenGroup t then (false, .group) else general .name t
  | .colon, .punct ':' _ _ => (false, .doubleColon)
  | state, t => general state t
where
  /-- The rule for a token that does not belong to what stands before it. -/
  general (state : BodyState) : TokenTree → Bool × BodyState
    | .group .brace .. => (true, .other)
    | .group .. => (true, .group)
    | .ident id _ =>
      if spacedWords.contains id.text then (true, .other)
      else (state != .dot && state != .doubleColon, .name)
    | .literal text _ => (state != .dot, if text.endsWith "." then .other else .name)
    | .punct ',' _ _ | .punct ';' _ _ => (false, .other)
    | .punct '.' _ _ =>
      if rule then (true, .other) else (state != .name && state != .group, .dot)
    | .punct ':' true _ => (state != .name, .colon)
    | .punct '$' _ _ => (true, .dollar)
    | .punct '#' _ _ => (true, .pound)
    | .punct .. => (true, .other)

/-- Whether a token belongs together with the next one. -/
def bindsNext : TokenTree → Bool
  | .punct '$' _ _ => true
  | t => t.isJoint

/-- Whether a token is a dot. -/
def isDot : TokenTree → Bool
  | .punct '.' _ _ => true
  | _ => false

mutual

/-- The pieces of a token of a body. -/
def bodyToken (rule : Bool) : TokenTree → List Piece
  | .ident id _ => word id.text
  | .punct c _ _ => word c.toString
  | .literal text _ => word text
  | .group .brace content _ _ =>
    let padding := if content.isEmpty then [] else space
    word "\x7b" ++ padding ++ bodyTokens rule .start true content ++ padding ++ word "\x7d"
  | .group d content _ _ =>
    word d.opening.toString ++ bodyTokens rule .start true content ++ word d.closing.toString

/-- The pieces of the tokens of a body after a state; `bound` when no gap may come first. -/
def bodyTokens (rule : Bool) (state : BodyState) (bound : Bool) : List TokenTree → List Piece
  | [] => []
  | t :: rest =>
    let (spaced, next) := bodyStep rule state t
    let before := if bound then [] else if spaced then space else if isDot t then seam else []
    before ++ bodyToken rule t ++ bodyTokens rule next (bindsNext t) rest

end

/-- A body between two gaps; nothing when it is empty. -/
def bodyBetween (rule : Bool) (gap : List Piece) (body : List TokenTree) : List Piece :=
  if body.isEmpty then []
  else
    cbox indentation
      (outdented (gap ++ ibox 0 (bodyTokens rule .start true body) ++ gap))

/-! ### Macros defined by rules -/

/-- What a rule matches. -/
def matcherPieces (d : Delimiter) (content : List TokenTree) : List Piece :=
  word d.opening.toString ++ bodyBetween true seam content ++ word d.closing.toString

/-- Rules, each on lines of its own. A last rule may be incomplete. -/
def rulesPieces : List TokenTree → List Piece
  | .group d content _ _ :: .punct '=' _ _ :: .punct '>' _ _ :: .group _ body _ _
      :: .punct ';' _ _ :: rest =>
    rule d content body ++ rulesPieces rest
  | [.group d content _ _, .punct '=' _ _, .punct '>' _ _, .group _ body _ _] =>
    rule d content body
  | .group d content _ _ :: rest =>
    matcherPieces d content ++ wordIf (!rest.isEmpty) (" " ++ streamText rest) ++ newline
  | _ => []
where
  /-- A rule: what it matches and what it stands for. -/
  rule (d : Delimiter) (content body : List TokenTree) : List Piece :=
    matcherPieces d content ++ word " =" ++ word ">" ++ word " \x7b" ++ stop
      ++ bodyBetween false newline body ++ word "\x7d" ++ word ";" ++ newline

/-! ### Calls -/

/-- Names with `::` between them, and before them if `rooted`. -/
def namesText (rooted : Bool) (names : List Ident) : String :=
  (if rooted then "::" else "") ++ "::".intercalate (names.map Ident.text)

/-- A macro call, with the name that it defines, and with a semicolon if it needs one. -/
def invocationPieces (call : Invocation) (name : Option Ident) (semicolon : Bool) : List Piece :=
  let path := namesText call.rooted call.path
  match name, path with
  | some name, "macro_rules" =>
    word ("macro_rules! " ++ name.text ++ " \x7b")
      ++ cbox indentation (outdented (newlineBefore ++ rulesPieces call.body)) ++ word "\x7d"
  | _, _ =>
    let name := match name with
      | some name => " " ++ name.text
      | none => ""
    word (path ++ "!" ++ name ++ (if call.isBraced then " " else "")
        ++ call.delimiter.opening.toString)
      ++ bodyBetween false (if call.isBraced then newline else seam) call.body
      ++ word call.delimiter.closing.toString ++ wordIf (semicolon && !call.isBraced) ";"

end BuilderGen.Layout
