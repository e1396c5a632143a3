import BuilderGen.Code.Token

/-!
# Plain parts of trees

The parts of syntax trees that hold words only, and no trees: marks and names before the things
they belong to, calls of macros, and what an import names.
-/

namespace BuilderGen.Code

/-- The calling convention of a function: absent, named by its keyword alone, or with a string
literal. -/
abbrev Convention := Option (Option String)

/-- The words before the `fn` of a function. -/
structure FunctionHead where
  /-- Whether another implementation may replace it. -/
  isDefault : Bool := false
  /-- Whether it can be called while compiling. -/
  isConst : Bool := false
  /-- Whether it is asynchronous. -/
  isAsync : Bool := false
  /-- Whether it is marked unsafe to call. -/
  isUnsafe : Bool := false
  /-- Its calling convention. -/
  convention : Convention := none
  deriving DecidableEq, Repr, Inhabited

/-- A call of a macro. -/
structure Invocation where
  /-- Whether its path starts with `::`. -/
  rooted : Bool
  /-- The names of its path. -/
  path : List Ident
  /-- The brackets around its body. -/
  delimiter : Delimiter
  /-- Its body. -/
  body : List TokenTree
  deriving Repr

/-- Whether a call has its body in braces, so that it needs no semicolon. -/
def Invocation.isBraced (call : Invocation) : Bool := call.delimiter == .brace

/-- What a field is called. -/
inductive Member where
  /-- A name. -/
  | named (name : Ident)
  /-- A number, in a tuple. -/
  | index (n : Nat)
  deriving DecidableEq, Repr

/-- How far a declaration can be seen. -/
inductive Visibility where
  /-- Within its module. -/
  | inherited
  /-- Everywhere. -/
  | everywhere
  /-- Within a module, written with or without the keyword `in`. -/
  | within (keyword rooted : Bool) (path : List Ident)
  deriving DecidableEq, Repr

/-- Whether no visibility is written. -/
def Visibility.isInherited : Visibility → Bool
  | inherited => true
  | _ => false

/-- What an import names. -/
inductive UseTree where
  /-- Something below a name. -/
  | path (name : Ident) (tree : UseTree)
  /-- A name. -/
  | name (name : Ident)
  /-- A name that is imported under another one. -/
  | renamed (name other : Ident)
  /-- Everything. -/
  | all
  /-- A list in braces. -/
  | group (trees : List UseTree) (trailing : Bool)

/-- The start of an attribute. -/
structure AttributeHead where
  /-- The place of its number sign. -/
  pos : Position
  /-- Whether it stands inside of what it belongs to, `#![...]`. -/
  isInner : Bool
  /-- Whether its path starts with `::`. -/
  rooted : Bool
  /-- The names of its path. -/
  path : List Ident
  /-- The place of its path. -/
  pathPos : Position
  deriving DecidableEq, Repr

/-- The words before the parameters of a closure. -/
structure ClosureHead where
  /-- Whether it can be called while compiling. -/
  isConst : Bool
  /-- Whether it stays where it is. -/
  isStatic : Bool
  /-- Whether it is asynchronous. -/
  isAsync : Bool
  /-- Whether it takes over what it uses. -/
  isMove : Bool
  deriving DecidableEq, Repr

/-- What a block in braces is. -/
inductive BlockHead where
  /-- A block without a keyword, perhaps with a label. -/
  | plain (label : Option Ident)
  /-- A block that may do unsafe things. -/
  | unsafeBlock
  /-- A block that is computed while compiling. -/
  | constBlock
  /-- A block that catches failures. -/
  | tryBlock
  /-- An asynchronous block. -/
  | async (isMove : Bool)
  /-- A loop without an end, perhaps with a label. -/
  | loop (label : Option Ident)
  deriving DecidableEq, Repr

/-- The keywords that leave a place. -/
inductive Jump where
  /-- Leave a loop or block. -/
  | leave
  /-- Go on with the next round of a loop. -/
  | next
  /-- Leave a function. -/
  | answer
  /-- Hand out a value. -/
  | emit
  deriving DecidableEq, Repr

/-- The keyword of a jump. -/
def Jump.keyword : Jump → String
  | leave => "break"
  | next => "continue"
  | answer => "return"
  | emit => "yield"

/-- The keywords of jumps can be written. -/
theorem Jump.keyword_written (j : Jump) : canWrite j.keyword false = true := by
  cases j <;> decide

/-- The three forms that the fields of a struct can have. -/
inductive Shape where
  /-- Fields with names, in braces. -/
  | named
  /-- Fields without names, in parentheses. -/
  | positional
  /-- No fields at all. -/
  | unit
  deriving DecidableEq, Repr

/-- What a declaration stands in. -/
inductive Container where
  /-- A module or a block. -/
  | module
  /-- A trait or an implementation. -/
  | body
  /-- The declarations of another language. -/
  | foreign
  deriving DecidableEq, Repr

/-- A parameter that `use<...>` captures. -/
inductive CapturedParam where
  /-- A lifetime. -/
  | lifetime (name : Ident)
  /-- Any other parameter. -/
  | name (name : Ident)
  deriving DecidableEq, Repr

end BuilderGen.Code
