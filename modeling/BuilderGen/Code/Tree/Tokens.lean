import BuilderGen.Code.Tree.Path
import BuilderGen.Code.Tree.Generics

/-!
# The tokens of a tree

Every tree has its tokens back. Lifetimes come first among generic arguments and parameters,
whatever the order they were read in; a separator is put in where the new order or a missing comma
needs one. Parts that say nothing, such as an empty list of generic parameters, have no tokens.
-/

namespace BuilderGen.Code

/-! ### Words and separators -/

/-- A separator token when there is something to separate. -/
def separatorTokens (present : Bool) (separator : String) : List TokenTree :=
  if present then operatorTokens separator else []

/-- A keyword when it is there. -/
def wordTokens (present : Bool) (word : String)
    (written : canWrite word false = true := by decide) : List TokenTree :=
  if present then [.word word written] else []

/-- The tokens of a literal. A number after a minus sign is two tokens. -/
def literalTokens (text : String) : List TokenTree :=
  if text.startsWith "-" then
    operatorTokens "-" ++ [.literal (String.ofList (text.toList.drop 1)) .none]
  else if text == "true" then [.word "true"]
  else if text == "false" then [.word "false"]
  else [.literal text .none]

/-- The tokens of a lifetime that may be absent. -/
def lifetimeTokens? : Option Ident → List TokenTree
  | none => []
  | some name => lifetimeTokens name

/-- The tokens of a label and its colon. -/
def labelTokens : Option Ident → List TokenTree
  | none => []
  | some name => lifetimeTokens name ++ operatorTokens ":"

/-- Lifetimes with the plus signs between them. -/
def lifetimeSumTokens : List Ident → Bool → List TokenTree
  | [], _ => []
  | l :: rest, trailing =>
    lifetimeTokens l ++ separatorTokens (!rest.isEmpty || trailing) "+"
      ++ lifetimeSumTokens rest trailing

/-- Names with `::` between them, and before them if `rooted`. -/
def namesTokens (rooted : Bool) : List Ident → List TokenTree
  | [] => separatorTokens rooted "::"
  | name :: rest =>
    separatorTokens rooted "::" ++ .name name ::
      if rest.isEmpty then [] else namesTokens true rest

/-- The tokens of a calling convention. -/
def Convention.tokens : Convention → List TokenTree
  | none => []
  | some none => [.word "extern"]
  | some (some text) => [.word "extern", .literal text .none]

/-- The tokens before the `fn` of a function. -/
def FunctionHead.tokens (head : FunctionHead) : List TokenTree :=
  wordTokens head.isDefault "default" ++ wordTokens head.isConst "const"
    ++ wordTokens head.isAsync "async" ++ wordTokens head.isUnsafe "unsafe"
    ++ head.convention.tokens

/-- The tokens of a macro call; the name of a macro that is defined stands before its body. -/
def Invocation.tokens (call : Invocation) (name : Option Ident) : List TokenTree :=
  namesTokens call.rooted call.path ++ operatorTokens "!" ++ (name.map TokenTree.name).toList
    ++ [.enclosed call.delimiter call.body]

/-- The tokens of a member. -/
def Member.tokens : Member → List TokenTree
  | named name => [.name name]
  | index n => [.literal (toString n) .none]

/-- The tokens of a visibility. -/
def Visibility.tokens : Visibility → List TokenTree
  | inherited => []
  | everywhere => [.word "pub"]
  | within keyword rooted path =>
    [.word "pub", .enclosed .parenthesis (wordTokens keyword "in" ++ namesTokens rooted path)]

mutual

/-- The tokens of what an import names. -/
def UseTree.tokens : UseTree → List TokenTree
  | .path name tree => .name name :: operatorTokens "::" ++ tree.tokens
  | .name name => [.name name]
  | .renamed name other => [.name name, .word "as", .name other]
  | .all => operatorTokens "*"
  | .group trees trailing => [.enclosed .brace (useTreesTokens trailing trees)]

/-- The tokens of what a list of imports names. -/
def useTreesTokens (trailing : Bool) : List UseTree → List TokenTree
  | [] => []
  | t :: rest =>
    t.tokens ++ separatorTokens (!rest.isEmpty || trailing) "," ++ useTreesTokens trailing rest

end

/-- The words before the parameters of a closure. -/
def ClosureHead.tokens (head : ClosureHead) : List TokenTree :=
  wordTokens head.isConst "const" ++ wordTokens head.isStatic "static"
    ++ wordTokens head.isAsync "async" ++ wordTokens head.isMove "move"

/-- The words before a block. -/
def BlockHead.tokens : BlockHead → List TokenTree
  | plain label => labelTokens label
  | unsafeBlock => [.word "unsafe"]
  | constBlock => [.word "const"]
  | tryBlock => [.word "try"]
  | async isMove => .word "async" :: wordTokens isMove "move"
  | loop label => labelTokens label ++ [.word "loop"]

/-- The tokens of an attribute around those of its content. -/
def AttributeHead.tokens (head : AttributeHead) (content : List TokenTree) : List TokenTree :=
  operatorTokens "#" ++ separatorTokens head.isInner "!"
    ++ [.enclosed .bracket (namesTokens head.rooted head.path ++ content)]

/-! ### Lifetimes first

A list of things in which lifetimes come first is given by its parts: for each thing, whether it is
a lifetime, and its tokens. -/

/-- A part of a list in which lifetimes come first. -/
structure ListPart where
  /-- Whether it is a lifetime. -/
  isLifetime : Bool
  /-- Its tokens. -/
  tokens : List TokenTree

/-- The lifetimes among the parts with the commas after them, and whether the last of them has one;
`ended` when nothing comes before them that needs a comma. -/
def leadingTokens (trailing ended : Bool) : List ListPart → List TokenTree × Bool
  | [] => ([], ended)
  | p :: rest =>
    if p.isLifetime then
      let comma := !rest.isEmpty || trailing
      let (tokens, ended) := leadingTokens trailing comma rest
      (p.tokens ++ separatorTokens comma "," ++ tokens, ended)
    else leadingTokens trailing ended rest

/-- The parts that are no lifetimes with the commas between them; `ended` when what comes before
them needs no comma. -/
def laterTokens (trailing ended : Bool) : List ListPart → List TokenTree
  | [] => []
  | p :: rest =>
    if p.isLifetime then laterTokens trailing ended rest
    else
      let comma := !rest.isEmpty || trailing
      separatorTokens (!ended) "," ++ p.tokens ++ separatorTokens comma ","
        ++ laterTokens trailing comma rest

/-- The parts with commas between them, lifetimes first. -/
def lifetimesFirst (trailing : Bool) (parts : List ListPart) : List TokenTree :=
  let (lifetimes, ended) := leadingTokens trailing true parts
  lifetimes ++ laterTokens trailing ended parts

/-- A captured parameter as a part of its list. -/
def CapturedParam.part : CapturedParam → ListPart
  | .lifetime id => ⟨true, lifetimeTokens id⟩
  | .name id => ⟨false, [.name id]⟩

/-- Whether an argument is a lifetime. -/
def Argument.isLifetime : Argument → Bool
  | .lifetime _ => true
  | _ => false

/-! ### Trees -/

/-- Whether an expression is a range. -/
def Expr.isRange : Expr → Bool
  | .range .. => true
  | _ => false

/-- Whether a pattern is a range. -/
def Pattern.isRange : Pattern → Bool
  | .range .. => true
  | _ => false

/-- An expression without its attributes. -/
def Expr.unmarked : Expr → Expr
  | .attributed _ e => e
  | e => e

/-- Whether an expression is complete as a statement, and as an arm of a match, without anything
after it. -/
def Expr.standsAlone (e : Expr) : Bool :=
  match e.unmarked with
  | .block (.async _) .. => false
  | .block .. | .conditional .. | .whileLoop .. | .forLoop .. | .matching .. => true
  | _ => false

/-- Whether a receiver has the type that its mark alone stands for. -/
def isImpliedReceiver (byRef isMut : Bool) : Ty → Bool
  | .reference _ isMut' (.path p) => byRef && isMut == isMut' && p.single?.any (·.is "Self")
  | .path p => !byRef && p.single?.any (·.is "Self")
  | _ => false

mutual

/-- The tokens of a type. -/
def Ty.tokens : Ty → List TokenTree
  | .path path => path.tokens
  | .qualified self role rest =>
    operatorTokens "<" ++ self.tokens ++ roleTokens role ++ operatorTokens ">"
      ++ operatorTokens "::" ++ segmentsTokens rest
  | .reference lifetime isMut target =>
    operatorTokens "&" ++ lifetimeTokens? lifetime ++ wordTokens isMut "mut" ++ target.tokens
  | .pointer isMut target =>
    operatorTokens "*" ++ [if isMut then .word "mut" else .word "const"] ++ target.tokens
  | .slice element => [.enclosed .bracket element.tokens]
  | .array element length =>
    [.enclosed .bracket (element.tokens ++ operatorTokens ";" ++ length.tokens)]
  | .tuple elements trailing => [.enclosed .parenthesis (typesTokens trailing elements)]
  | .paren inner => [.enclosed .parenthesis inner.tokens]
  | .never => operatorTokens "!"
  | .infer => [.word "_"]
  | .function binder head params trailing result =>
    binderTokens binder ++ head.tokens ++ [.word "fn"]
      ++ [.enclosed .parenthesis (fieldsTokens trailing params)] ++ resultTokens result
  | .object keyword bounds trailing =>
    wordTokens keyword "dyn" ++ boundsTokens trailing bounds
  | .bounded bounds trailing => .word "impl" :: boundsTokens trailing bounds
  | .invocation call => call.tokens none
  | .variadic => operatorTokens "..."
  | .raw tokens => tokens

/-- The tokens of types with commas between them. -/
def typesTokens (trailing : Bool) : List Ty → List TokenTree
  | [] => []
  | t :: rest =>
    t.tokens ++ separatorTokens (!rest.isEmpty || trailing) "," ++ typesTokens trailing rest

/-- The tokens of the trait that a path is below. -/
def roleTokens : Option Path → List TokenTree
  | none => []
  | some path => .word "as" :: path.tokens

/-- The tokens of an optional result type. -/
def resultTokens : Option Ty → List TokenTree
  | none => []
  | some t => operatorTokens "->" ++ t.tokens

/-- The tokens of an optional type after an equals sign. -/
def typeValueTokens : Option Ty → List TokenTree
  | none => []
  | some t => operatorTokens "=" ++ t.tokens

/-- The tokens of a path. -/
def Path.tokens : Path → List TokenTree
  | ⟨rooted, segments⟩ => separatorTokens rooted "::" ++ segmentsTokens segments

/-- The tokens of segments with `::` between them. -/
def segmentsTokens : List Segment → List TokenTree
  | [] => []
  | s :: rest => s.tokens ++ separatorTokens (!rest.isEmpty) "::" ++ segmentsTokens rest

/-- The tokens of a segment. -/
def Segment.tokens : Segment → List TokenTree
  | ⟨name, args⟩ => .name name :: args.tokens

/-- The tokens of the arguments of a segment. -/
def Arguments.tokens : Arguments → List TokenTree
  | .none => []
  | .angled turbofish args trailing =>
    separatorTokens turbofish "::" ++ operatorTokens "<"
      ++ lifetimesFirst trailing (argumentParts args) ++ operatorTokens ">"
  | .called inputs trailing result =>
    [.enclosed .parenthesis (typesTokens trailing inputs)] ++ resultTokens result

/-- The arguments as parts of their list. -/
def argumentParts : List Argument → List ListPart
  | [] => []
  | a :: rest => ⟨a.isLifetime, a.tokens⟩ :: argumentParts rest

/-- The tokens of a generic argument. -/
def Argument.tokens : Argument → List TokenTree
  | .lifetime name => lifetimeTokens name
  | .type t => t.tokens
  | .const value => value.tokens
  | .assocType name args type => .name name :: args.tokens ++ operatorTokens "=" ++ type.tokens
  | .assocConst name args value => .name name :: args.tokens ++ operatorTokens "=" ++ value.tokens
  | .constraint name args bounds trailing =>
    .name name :: args.tokens ++ operatorTokens ":" ++ boundsTokens trailing bounds

/-- The tokens of bounds with plus signs between them. -/
def boundsTokens (trailing : Bool) : List Bound → List TokenTree
  | [] => []
  | b :: rest =>
    b.tokens ++ separatorTokens (!rest.isEmpty || trailing) "+" ++ boundsTokens trailing rest

/-- The tokens of a bound. -/
def Bound.tokens : Bound → List TokenTree
  | .lifetime name => lifetimeTokens name
  | .trait inParens binder relaxed path =>
    let bare := separatorTokens relaxed "?" ++ binderTokens binder ++ path.tokens
    if inParens then [.enclosed .parenthesis bare] else bare
  | .capture params trailing =>
    .word "use" :: operatorTokens "<" ++ lifetimesFirst trailing (params.map CapturedParam.part)
      ++ operatorTokens ">"
  | .raw tokens => tokens

/-- The tokens of an optional binder. -/
def binderTokens : Option Generics → List TokenTree
  | none => []
  | some ⟨params, trailing, _, _⟩ =>
    .word "for" :: operatorTokens "<" ++ paramListTokens trailing params ++ operatorTokens ">"

/-- The tokens of generic parameters in the order given, with commas between them. -/
def paramListTokens (trailing : Bool) : List GenericParam → List TokenTree
  | [] => []
  | p :: rest =>
    p.tokens ++ separatorTokens (!rest.isEmpty || trailing) "," ++ paramListTokens trailing rest

/-- The generic parameters as parts of their list. -/
def paramParts : List GenericParam → List ListPart
  | [] => []
  | p :: rest => ⟨p.isLifetime, p.tokens⟩ :: paramParts rest

/-- The tokens of a generic parameter. -/
def GenericParam.tokens : GenericParam → List TokenTree
  | .lifetime attributes name bounds trailing =>
    attributesTokens attributes ++ lifetimeTokens name ++ separatorTokens (!bounds.isEmpty) ":"
      ++ lifetimeSumTokens bounds trailing
  | .type attributes name bounds trailing default =>
    attributesTokens attributes ++ [.name name] ++ separatorTokens (!bounds.isEmpty) ":"
      ++ boundsTokens trailing bounds ++ typeValueTokens default
  | .const attributes name t default =>
    attributesTokens attributes ++ [.word "const", .name name] ++ operatorTokens ":" ++ t.tokens
      ++ valueTokens "=" default

/-- The tokens of a predicate. -/
def Predicate.tokens : Predicate → List TokenTree
  | .lifetime name bounds trailing =>
    lifetimeTokens name ++ operatorTokens ":" ++ lifetimeSumTokens bounds trailing
  | .type binder subject bounds trailing =>
    binderTokens binder ++ subject.tokens ++ operatorTokens ":" ++ boundsTokens trailing bounds

/-- The tokens of predicates with commas between them. -/
def predicatesTokens (trailing : Bool) : List Predicate → List TokenTree
  | [] => []
  | p :: rest =>
    p.tokens ++ separatorTokens (!rest.isEmpty || trailing) "," ++ predicatesTokens trailing rest

/-- The tokens of a list of generic parameters in angle brackets; an empty list has none. -/
def Generics.tokens : Generics → List TokenTree
  | ⟨params, trailing, _, _⟩ =>
    if params.isEmpty then []
    else operatorTokens "<" ++ lifetimesFirst trailing (paramParts params) ++ operatorTokens ">"

/-- The tokens of a where clause; one without predicates has none. -/
def Generics.whereTokens : Generics → List TokenTree
  | ⟨_, _, predicates, trailing⟩ =>
    wordTokens (!predicates.isEmpty) "where" ++ predicatesTokens trailing predicates

/-- The tokens of attributes. -/
def attributesTokens : List Attribute → List TokenTree
  | [] => []
  | a :: rest => a.tokens ++ attributesTokens rest

/-- The tokens of an attribute. -/
def Attribute.tokens : Attribute → List TokenTree
  | .bare head => head.tokens []
  | .list head delimiter content _ => head.tokens [.enclosed delimiter content]
  | .value head _ value => head.tokens (operatorTokens "=" ++ value.tokens)

/-- The tokens of an expression. -/
def Expr.tokens : Expr → List TokenTree
  | .attributed attributes inner =>
    attributesTokens attributes
      ++ if inner.isRange then [.enclosed .parenthesis inner.tokens] else inner.tokens
  | .literal text => literalTokens text
  | .path path => path.tokens
  | .qualified self role rest =>
    operatorTokens "<" ++ self.tokens ++ roleTokens role ++ operatorTokens ">"
      ++ operatorTokens "::" ++ segmentsTokens rest
  | .invocation call => call.tokens none
  | .unary operator operand => operatorTokens operator ++ operand.tokens
  | .binary left operator right => left.tokens ++ operatorTokens operator ++ right.tokens
  | .cast operand type => operand.tokens ++ [.word "as"] ++ type.tokens
  | .reference isMut operand => operatorTokens "&" ++ wordTokens isMut "mut" ++ operand.tokens
  | .address isMut operand =>
    operatorTokens "&" ++ [.word "raw", if isMut then .word "mut" else .word "const"]
      ++ operand.tokens
  | .paren inner => [.enclosed .parenthesis inner.tokens]
  | .tuple elements trailing => [.enclosed .parenthesis (exprsTokens trailing elements)]
  | .array elements trailing => [.enclosed .bracket (exprsTokens trailing elements)]
  | .repeated element length =>
    [.enclosed .bracket (element.tokens ++ operatorTokens ";" ++ length.tokens)]
  | .call function args trailing =>
    function.tokens ++ [.enclosed .parenthesis (exprsTokens trailing args)]
  | .method receiver name generics args trailing =>
    receiver.tokens ++ operatorTokens "." ++ [.name name] ++ generics.tokens
      ++ [.enclosed .parenthesis (exprsTokens trailing args)]
  | .field base member => base.tokens ++ operatorTokens "." ++ member.tokens
  | .index base position => base.tokens ++ [.enclosed .bracket position.tokens]
  | .await base => base.tokens ++ operatorTokens "." ++ [.word "await"]
  | .propagate base => base.tokens ++ operatorTokens "?"
  | .range start closed finish =>
    exprTokens? start ++ operatorTokens (if closed then "..=" else "..") ++ exprTokens? finish
  | .struct path fields trailing =>
    path.tokens ++ [.enclosed .brace (entriesTokens trailing fields)]
  | .block head inner body =>
    head.tokens ++ [.enclosed .brace (attributesTokens inner ++ entriesTokens false body)]
  | .whileLoop label condition body =>
    labelTokens label ++ [.word "while"] ++ condition.tokens ++ body.tokens
  | .forLoop label pattern source body =>
    labelTokens label ++ [.word "for"] ++ pattern.tokens ++ [.word "in"] ++ source.tokens
      ++ body.tokens
  | .conditional condition body otherwise =>
    .word "if" :: condition.tokens ++ body.tokens ++ otherwiseTokens otherwise
  | .matching subject inner arms =>
    .word "match" :: subject.tokens
      ++ [.enclosed .brace (attributesTokens inner ++ entriesTokens false arms)]
  | .closure binder head params trailing result body =>
    binderTokens binder ++ head.tokens ++ operatorTokens "|" ++ patternsTokens "," trailing params
      ++ operatorTokens "|" ++ resultTokens result ++ body.tokens
  | .binding pattern value =>
    .word "let" :: pattern.tokens ++ operatorTokens "=" ++ value.tokens
  | .jump kind label value =>
    .word kind.keyword kind.keyword_written :: lifetimeTokens? label ++ exprTokens? value
  | .infer => [.word "_"]
  | .raw tokens => tokens

/-- The tokens of expressions with commas between them. -/
def exprsTokens (trailing : Bool) : List Expr → List TokenTree
  | [] => []
  | e :: rest =>
    e.tokens ++ separatorTokens (!rest.isEmpty || trailing) "," ++ exprsTokens trailing rest

/-- The tokens of an expression that may be absent. -/
def exprTokens? : Option Expr → List TokenTree
  | none => []
  | some e => e.tokens

/-- The tokens of an operator and an expression after it that may be absent. -/
def valueTokens (operator : String) : Option Expr → List TokenTree
  | none => []
  | some e => operatorTokens operator ++ e.tokens

/-- The tokens of what is done otherwise. -/
def otherwiseTokens : Option Expr → List TokenTree
  | none => []
  | some e => .word "else" :: e.tokens

/-- The tokens of the guard of an arm. -/
def guardTokens : Option Expr → List TokenTree
  | none => []
  | some e => .word "if" :: e.tokens

/-- The tokens of what stands in braces; fields have commas between them. -/
def entriesTokens (trailing : Bool) : List Entry → List TokenTree
  | [] => []
  | e :: rest => e.tokens (!rest.isEmpty) trailing ++ entriesTokens trailing rest

/-- The tokens of one of the things in braces: `more` when others follow it, `trailing` when a
comma follows the last field. -/
def Entry.tokens (more trailing : Bool) : Entry → List TokenTree
  | .field attributes member colon value =>
    attributesTokens attributes
      ++ (if colon then member.tokens ++ operatorTokens ":" ++ value.tokens else member.tokens)
      ++ separatorTokens (more || trailing) ","
  | .rest value => operatorTokens ".." ++ exprTokens? value
  | .arm attributes pattern guard body comma =>
    attributesTokens attributes ++ pattern.tokens ++ guardTokens guard ++ operatorTokens "=>"
      ++ body.tokens ++ separatorTokens (comma || (more && !body.standsAlone)) ","
  | .empty => operatorTokens ";"
  | .declare attributes pattern value otherwise =>
    attributesTokens attributes ++ [.word "let"] ++ pattern.tokens ++ valueTokens "=" value
      ++ otherwiseTokens otherwise ++ operatorTokens ";"
  | .item item => item.tokens
  | .expr value semicolon => value.tokens ++ separatorTokens semicolon ";"
  | .invocation attributes call semicolon =>
    attributesTokens attributes ++ call.tokens none ++ separatorTokens semicolon ";"

/-- The tokens of a pattern. -/
def Pattern.tokens : Pattern → List TokenTree
  | .attributed attributes inner =>
    attributesTokens attributes
      ++ if inner.isRange then [.enclosed .parenthesis inner.tokens] else inner.tokens
  | .value value => value.tokens
  | .ident byRef isMut name => wordTokens byRef "ref" ++ wordTokens isMut "mut" ++ [.name name]
  | .bound byRef isMut name inner =>
    wordTokens byRef "ref" ++ wordTokens isMut "mut" ++ [.name name] ++ operatorTokens "@"
      ++ inner.tokens
  | .invocation call => call.tokens none
  | .alternatives leading cases =>
    separatorTokens leading "|" ++ patternsTokens "|" false cases
  | .paren inner => [.enclosed .parenthesis inner.tokens]
  | .reference isMut target => operatorTokens "&" ++ wordTokens isMut "mut" ++ target.tokens
  | .rest => operatorTokens ".."
  | .wild => [.word "_"]
  | .range start closed finish =>
    exprTokens? start ++ operatorTokens (if closed then "..=" else "..") ++ exprTokens? finish
  | .slice elements trailing => [.enclosed .bracket (patternsTokens "," trailing elements)]
  | .tuple elements trailing => [.enclosed .parenthesis (patternsTokens "," trailing elements)]
  | .struct path fields trailing =>
    path.tokens ++ [.enclosed .brace (patternsTokens "," trailing fields)]
  | .field member pattern => member.tokens ++ operatorTokens ":" ++ pattern.tokens
  | .called path elements trailing =>
    path.tokens ++ [.enclosed .parenthesis (patternsTokens "," trailing elements)]
  | .typed pattern type => pattern.tokens ++ operatorTokens ":" ++ type.tokens
  | .receiver byRef lifetime isMut colon type =>
    separatorTokens byRef "&" ++ lifetimeTokens? lifetime ++ wordTokens isMut "mut"
      ++ [.word "self"]
      ++ if colon || !isImpliedReceiver byRef isMut type then operatorTokens ":" ++ type.tokens
        else []
  | .variadic => operatorTokens "..."
  | .raw tokens => tokens

/-- The tokens of patterns with a separator between them. -/
def patternsTokens (separator : String) (trailing : Bool) : List Pattern → List TokenTree
  | [] => []
  | p :: rest =>
    p.tokens ++ separatorTokens (!rest.isEmpty || trailing) separator
      ++ patternsTokens separator trailing rest

/-- The tokens of fields with commas between them. -/
def fieldsTokens (trailing : Bool) : List Field → List TokenTree
  | [] => []
  | f :: rest =>
    f.tokens ++ separatorTokens (!rest.isEmpty || trailing) "," ++ fieldsTokens trailing rest

/-- The tokens of a field. -/
def Field.tokens : Field → List TokenTree
  | ⟨attributes, visibility, name, _, type⟩ =>
    attributesTokens attributes ++ visibility.tokens
      ++ (match name with
        | some name => .name name :: operatorTokens ":"
        | none => [])
      ++ type.tokens

/-- The tokens of a struct. Where its fields have no names, the where clause comes after them. -/
def Struct.tokens : Struct → List TokenTree
  | ⟨attributes, visibility, name, _, generics, shape, fields, trailing⟩ =>
    attributesTokens attributes ++ visibility.tokens ++ [.word "struct", .name name]
      ++ generics.tokens
      ++ match shape with
        | .named =>
          generics.whereTokens ++ [.enclosed .brace (fieldsTokens trailing fields)]
        | .positional =>
          [.enclosed .parenthesis (fieldsTokens trailing fields)] ++ generics.whereTokens
            ++ operatorTokens ";"
        | .unit => generics.whereTokens ++ operatorTokens ";"

/-- The tokens of a variant. -/
def Variant.tokens : Variant → List TokenTree
  | ⟨attributes, name, shape, fields, trailing, value⟩ =>
    attributesTokens attributes ++ [.name name]
      ++ (match shape with
        | .named => [.enclosed .brace (fieldsTokens trailing fields)]
        | .positional => [.enclosed .parenthesis (fieldsTokens trailing fields)]
        | .unit => [])
      ++ valueTokens "=" value

/-- The tokens of variants with commas between them. -/
def variantsTokens (trailing : Bool) : List Variant → List TokenTree
  | [] => []
  | v :: rest =>
    v.tokens ++ separatorTokens (!rest.isEmpty || trailing) "," ++ variantsTokens trailing rest

/-- The tokens of an item. -/
def Item.tokens : Item → List TokenTree
  | .const attributes visibility _ isDefault name type value =>
    attributesTokens attributes ++ visibility.tokens ++ wordTokens isDefault "default"
      ++ [.word "const", .name name] ++ operatorTokens ":" ++ type.tokens ++ valueTokens "=" value
      ++ operatorTokens ";"
  | .static attributes visibility isMut name type value =>
    attributesTokens attributes ++ visibility.tokens ++ [.word "static"] ++ wordTokens isMut "mut"
      ++ [.name name] ++ operatorTokens ":" ++ type.tokens ++ valueTokens "=" value
      ++ operatorTokens ";"
  | .typeAlias attributes visibility place isDefault name generics bounds trailing type =>
    attributesTokens attributes ++ visibility.tokens ++ wordTokens isDefault "default"
      ++ [.word "type", .name name] ++ generics.tokens ++ separatorTokens (!bounds.isEmpty) ":"
      ++ boundsTokens trailing bounds
      ++ (if place = .module then generics.whereTokens ++ typeValueTokens type
        else typeValueTokens type ++ generics.whereTokens)
      ++ operatorTokens ";"
  | .function attributes visibility head name generics params trailing result body =>
    attributesTokens attributes ++ visibility.tokens ++ head.tokens ++ [.word "fn", .name name]
      ++ generics.tokens ++ [.enclosed .parenthesis (patternsTokens "," trailing params)]
      ++ resultTokens result ++ generics.whereTokens
      ++ match body with
        | some block => block.tokens
        | none => operatorTokens ";"
  | .invocation attributes call name =>
    attributesTokens attributes ++ call.tokens name ++ separatorTokens (!call.isBraced) ";"
  | .struct value => value.tokens
  | .enum attributes visibility name generics variants trailing =>
    attributesTokens attributes ++ visibility.tokens ++ [.word "enum", .name name]
      ++ generics.tokens ++ generics.whereTokens
      ++ [.enclosed .brace (variantsTokens trailing variants)]
  | .union attributes visibility name generics fields trailing =>
    attributesTokens attributes ++ visibility.tokens ++ [.word "union", .name name]
      ++ generics.tokens ++ generics.whereTokens
      ++ [.enclosed .brace (fieldsTokens trailing fields)]
  | .trait attributes visibility isUnsafe isAuto name generics bounds trailing inner items =>
    attributesTokens attributes ++ visibility.tokens ++ wordTokens isUnsafe "unsafe"
      ++ wordTokens isAuto "auto" ++ [.word "trait", .name name] ++ generics.tokens
      ++ separatorTokens (!bounds.isEmpty) ":" ++ boundsTokens trailing bounds
      ++ generics.whereTokens ++ [.enclosed .brace (attributesTokens inner ++ itemsTokens items)]
  | .traitAlias attributes visibility name generics bounds trailing =>
    attributesTokens attributes ++ visibility.tokens ++ [.word "trait", .name name]
      ++ generics.tokens ++ operatorTokens "=" ++ boundsTokens trailing bounds
      ++ generics.whereTokens ++ operatorTokens ";"
  | .implementation attributes isDefault isUnsafe generics negative role self inner items =>
    attributesTokens attributes ++ wordTokens isDefault "default" ++ wordTokens isUnsafe "unsafe"
      ++ [.word "impl"] ++ generics.tokens
      ++ (match role with
        | some path => separatorTokens negative "!" ++ path.tokens ++ [.word "for"]
        | none => [])
      ++ self.tokens ++ generics.whereTokens
      ++ [.enclosed .brace (attributesTokens inner ++ itemsTokens items)]
  | .module attributes visibility isUnsafe name inner items =>
    attributesTokens attributes ++ visibility.tokens ++ wordTokens isUnsafe "unsafe"
      ++ [.word "mod", .name name, .enclosed .brace (attributesTokens inner ++ itemsTokens items)]
  | .outlineModule attributes visibility isUnsafe name =>
    attributesTokens attributes ++ visibility.tokens ++ wordTokens isUnsafe "unsafe"
      ++ [.word "mod", .name name] ++ operatorTokens ";"
  | .foreign attributes isUnsafe convention inner items =>
    attributesTokens attributes ++ wordTokens isUnsafe "unsafe"
      ++ Convention.tokens (some convention)
      ++ [.enclosed .brace (attributesTokens inner ++ itemsTokens items)]
  | .externCrate attributes visibility name other =>
    attributesTokens attributes ++ visibility.tokens
      ++ [.word "extern", .word "crate", .name name]
      ++ (match other with
        | some other => [.word "as", .name other]
        | none => [])
      ++ operatorTokens ";"
  | .use attributes visibility rooted tree =>
    attributesTokens attributes ++ visibility.tokens ++ [.word "use"]
      ++ separatorTokens rooted "::" ++ tree.tokens ++ operatorTokens ";"
  | .raw tokens => tokens

/-- The tokens of items. -/
def itemsTokens : List Item → List TokenTree
  | [] => []
  | item :: rest => item.tokens ++ itemsTokens rest

end

end BuilderGen.Code
