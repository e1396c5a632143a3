import BuilderGen.Layout.Comment
import BuilderGen.Layout.Part
import BuilderGen.Layout.Tokens

/-!
# Laying out trees

How trees are cut into pieces. A thing that does not fit on a line is broken from the outside in:
lists put every element on a line of its own, chains of calls every call, and operators go to the
start of the next line.
-/

namespace BuilderGen.Code

open Layout

/-- Where a path stands; this decides how its arguments are written. -/
inductive PathPlace where
  /-- In a type. -/
  | type
  /-- In an expression: with `::` before the arguments. -/
  | value
  deriving DecidableEq

mutual

/-- A type. -/
def Ty.pieces : Ty → List Piece
  | .path path => path.pieces .type
  | .qualified self role rest =>
    word "<" ++ self.pieces ++ rolePieces role ++ word ">" ++ segmentsPieces .type true rest
  | .reference lifetime isMut target =>
    word "&" ++ lifetimeBefore lifetime ++ wordIf isMut "mut " ++ target.pieces
  | .pointer isMut target => word (if isMut then "*mut " else "*const ") ++ target.pieces
  | .slice element => word "[" ++ element.pieces ++ word "]"
  | .array element length =>
    word "[" ++ element.pieces ++ word "; " ++ length.pieces .inside ++ word "]"
  | .tuple elements _ => tupled (typesPieces elements)
  | .paren inner => word "(" ++ inner.pieces ++ word ")"
  | .never => word "!"
  | .infer => word "_"
  | .function binder head params _ result =>
    binderPieces binder ++ word (head.text ++ "fn(")
      ++ cbox indentation
        (parameterPieces (params.getLast?.any (·.type matches .variadic)) (fieldsPieces params))
      ++ word ")" ++ resultPieces result
  | .object _ bounds _ => word "dyn " ++ joined " + " (boundsPieces bounds)
  | .bounded bounds _ => word "impl " ++ joined " + " (boundsPieces bounds)
  | .invocation call => invocationPieces call none false
  | .variadic => word "..."
  | .raw tokens => word (streamText tokens)

/-- Types. -/
def typesPieces : List Ty → List (List Piece)
  | [] => []
  | t :: rest => t.pieces :: typesPieces rest

/-- The trait that a path is below. -/
def rolePieces : Option Path → List Piece
  | none => []
  | some path => word " as " ++ path.pieces .type

/-- The result of a function. -/
def resultPieces : Option Ty → List Piece
  | none => []
  | some t => word " -> " ++ t.pieces

/-- A path. -/
def Path.pieces (place : PathPlace) : Path → List Piece
  | ⟨rooted, segments⟩ => segmentsPieces place rooted segments

/-- Segments with `::` between them, and before them if `rooted`. -/
def segmentsPieces (place : PathPlace) (rooted : Bool) : List Segment → List Piece
  | [] => []
  | s :: rest => wordIf rooted "::" ++ s.pieces place ++ segmentsPieces place true rest

/-- A segment of a path. -/
def Segment.pieces (place : PathPlace) : Segment → List Piece
  | ⟨name, args⟩ => word name.text ++ args.pieces place

/-- The arguments of a segment. An empty list in angle brackets is left out. -/
def Arguments.pieces (place : PathPlace) : Arguments → List Piece
  | .none => []
  | .angled _ args _ =>
    if args.isEmpty then []
    else
      enlisted (if place = .value then "::<" else "<") ">" indentation (argumentsPieces args)
  | .called inputs _ result =>
    cbox indentation
      (word "(" ++ enclosed (typesPieces inputs) ++ word ")" ++ resultPieces result)

/-- Arguments in angle brackets. -/
def argumentsPieces : List Argument → List (List Piece)
  | [] => []
  | a :: rest => a.pieces :: argumentsPieces rest

/-- An argument in angle brackets. -/
def Argument.pieces : Argument → List Piece
  | .lifetime name => word (lifetimeText name)
  | .type t => t.pieces
  | .const value => value.pieces .inside
  | .assocType name args t =>
    word name.text ++ args.pieces .type ++ word " = " ++ t.pieces
  | .assocConst name args value =>
    word name.text ++ args.pieces .type ++ word " = " ++ value.pieces .inside
  | .constraint name args bounds _ =>
    word name.text ++ args.pieces .type
      ++ ibox indentation (summed ": " "+ " (boundsPieces bounds))

/-- Bounds. -/
def boundsPieces : List Bound → List (List Piece)
  | [] => []
  | b :: rest => b.pieces :: boundsPieces rest

/-- A bound. -/
def Bound.pieces : Bound → List Piece
  | .lifetime name => word (lifetimeText name)
  | .trait inParens binder relaxed path =>
    wordIf inParens "(" ++ binderPieces binder ++ wordIf relaxed "?" ++ path.pieces .type
      ++ wordIf inParens ")"
  | .capture params _ =>
    word ("use<" ++ ", ".intercalate (params.map CapturedParam.text) ++ ">")
  | .raw tokens => word (streamText tokens)

/-- Bound parameters. -/
def binderPieces : Option Generics → List Piece
  | none => []
  | some ⟨params, _, _, _⟩ => word "for<" ++ joined ", " (paramsPieces params) ++ word "> "

/-- Generic parameters. -/
def paramsPieces : List GenericParam → List (List Piece)
  | [] => []
  | p :: rest => p.pieces :: paramsPieces rest

/-- A generic parameter. -/
def GenericParam.pieces : GenericParam → List Piece
  | .lifetime attributes name bounds _ =>
    attributesPieces attributes ++ word (lifetimeText name) ++ wordIf (!bounds.isEmpty) ": "
      ++ word (" + ".intercalate (bounds.map lifetimeText))
  | .type attributes name bounds _ default =>
    attributesPieces attributes ++ word name.text
      ++ ibox indentation (summed ": " "+ " (boundsPieces bounds)
        ++ match default with
          | some t => space ++ word "= " ++ t.pieces
          | none => [])
  | .const attributes name t default =>
    attributesPieces attributes ++ word ("const " ++ name.text ++ ": ") ++ t.pieces
      ++ match default with
        | some e => word " = " ++ e.pieces .inside
        | none => []

/-- Predicates of a where clause. -/
def predicatesPieces : List Predicate → List (List Piece)
  | [] => []
  | p :: rest => p.pieces :: predicatesPieces rest

/-- A predicate of a where clause. -/
def Predicate.pieces : Predicate → List Piece
  | .lifetime name bounds _ =>
    word (lifetimeText name ++ ":")
      ++ ibox indentation (summed " " "+ " (bounds.map (word <| lifetimeText ·)))
  | .type binder t bounds _ =>
    binderPieces binder ++ t.pieces ++ word ":"
      ++ ibox (if bounds.length = 1 then 0 else indentation)
        (summed " " "+ " (boundsPieces bounds))

/-- Generic parameters in angle brackets; nothing when there are none. -/
def Generics.pieces : Generics → List Piece
  | ⟨params, _, _, _⟩ => if params.isEmpty then [] else enlisted "<" ">" 0 (paramsPieces params)

/-- The predicates of a where clause. -/
def Generics.predicatePieces : Generics → List (List Piece)
  | ⟨_, _, predicates, _⟩ => predicatesPieces predicates

/-- Attributes. -/
def attributesPieces : List Attribute → List Piece
  | [] => []
  | a :: rest => a.pieces ++ attributesPieces rest

/-- An attribute, or the comment that it stands for. -/
def Attribute.pieces : Attribute → List Piece
  | .bare head => attributeStart head ++ word "]" ++ space
  | .list head d content _ => attributeStart head ++ attributeList d content ++ word "]" ++ space
  | .value head _ value =>
    match comment? head value with
    | some text => word text ++ newline
    | none => attributeStart head ++ word " = " ++ value.pieces .inside ++ word "]" ++ space

/-- An expression at a place. -/
def Expr.pieces (place : ExprPlace) (e : Expr) : List Piece :=
  place.settle e <|
    match e with
    | .attributed attributes inner =>
      match place, inner with
      | .arm, .block (.plain label) marks body =>
        labelPieces label ++ openBlock (attributesPieces marks ++ entriesPieces false body)
      | _, inner => attributesPieces attributes ++ inner.pieces place.first
    | .literal text => place.operand (word text)
    | .path path => place.operand (path.pieces .value)
    | .qualified self role rest =>
      place.operand (word "<" ++ self.pieces ++ rolePieces role ++ word ">"
        ++ segmentsPieces .value true rest)
    | .invocation call => place.operand (invocationPieces call none false)
    | .unary operator operand => place.operand (word operator ++ operand.pieces .inside)
    | .binary left operator right =>
      place.operand <|
        if operator == "=" then
          ibox 0 (left.pieces .inside ++ word " = " ++ stop ++ right.pieces .inside)
        else
          ibox indentation (ibox (-indentation) (left.pieces .inside) ++ space
            ++ word (operator ++ " ") ++ right.pieces .inside)
    | .cast operand t =>
      place.operand (ibox indentation (ibox (-indentation) (operand.pieces .inside) ++ space
        ++ word "as " ++ t.pieces))
    | .reference isMut operand =>
      place.operand (word (if isMut then "&mut " else "&") ++ operand.pieces .inside)
    | .address isMut operand =>
      place.operand
        (word (if isMut then "&raw mut " else "&raw const ") ++ operand.pieces .inside)
    | .paren inner => place.operand (word "(" ++ inner.pieces .inside ++ word ")")
    | .tuple elements _ =>
      match place with
      | .arm => if elements.isEmpty then openBlock [] else tupled (exprsPieces elements)
      | _ => place.operand (tupled (exprsPieces elements))
    | .array elements _ =>
      place.operand <|
        if !elements.isEmpty && elements.all Expr.isSmallLiteral then
          cbox indentation (word "[" ++ seam ++ ibox 0 (listed [] (exprsPieces elements))
            ++ outdented lastComma ++ word "]")
        else enlisted "[" "]" indentation (exprsPieces elements)
    | .repeated element length =>
      place.operand (word "[" ++ element.pieces .inside ++ word "; " ++ length.pieces .inside
        ++ word "]")
    | .call function args _ =>
      function.pieces place.callee ++ callPieces (isSingleBlock args) (exprsPieces args)
    | .method receiver name generics args _ =>
      let undented := !place.isLink && place.startsLine && receiver.isShortName
      place.chain (receiver.pieces (.link place.startsLine) ++ place.linkGap receiver
        ++ word ("." ++ name.text) ++ generics.pieces .value
        ++ cbox (if undented then -indentation else 0)
          (callPieces (isSingleBlock args) (exprsPieces args)))
    | .field base member =>
      place.chain (base.pieces (.link place.startsLine) ++ place.linkGap base
        ++ word ("." ++ member.text))
    | .index base position =>
      base.pieces place.first ++ word "[" ++ position.pieces .inside ++ word "]"
    | .await base =>
      place.chain (base.pieces (.link place.startsLine) ++ place.linkGap base ++ word ".await")
    | .propagate base => base.pieces place.first ++ word "?"
    | .range start closed finish =>
      place.operand (exprPieces? "" start ++ word (if closed then "..=" else "..")
        ++ match finish with
          | some e => wordIf e.startsInDots " " ++ e.pieces .inside
          | none => [])
    | .struct path fields _ =>
      place.operand (cbox indentation (limited 34
          (ibox (-indentation) (path.pieces .inside) ++ word " \x7b"
            ++ outdented (spaceBefore ++ literalFields fields)))
        ++ word "\x7d")
    | .block head marks body =>
      match place, head, marks, body with
      | .arm, .plain none, [], [.expr inner false] => inner.pieces .arm
      | .arm, .plain label, marks, body =>
        labelPieces label ++ openBlock (attributesPieces marks ++ entriesPieces false body)
      | _, .loop _, marks, body =>
        place.operand (head.pieces ++ word "\x7b" ++ cbox indentation
          (outdented (newlineBefore ++ attributesPieces marks ++ entriesPieces false body))
          ++ word "\x7d")
      | _, _, marks, body =>
        place.operand (head.pieces ++ cbox indentation
          (smallBlock (attributesPieces marks ++ entriesPieces true body)
            (marks.isEmpty && body.isEmpty)))
    | .whileLoop label condition body =>
      place.operand (labelPieces label ++ word "while "
        ++ conditionPieces condition (condition.pieces .inside) ++ openBlock body.lines)
    | .forLoop label pattern source body =>
      place.operand (ibox 0 (labelPieces label ++ word "for " ++ pattern.pieces ++ word " in "
        ++ stop ++ conditionPieces source (source.pieces .inside) ++ openBlock body.lines))
    | .conditional condition body otherwise =>
      place.operand (cbox indentation (word "if "
        ++ cbox (-indentation) (conditionPieces condition (condition.pieces .inside))
        ++ match otherwise with
          | some other => body.small ++ other.otherwise
          | none =>
            if body.hasNoEntries then word "\x7b\x7d"
            else word "\x7b" ++ outdented (newline ++ body.lines) ++ word "\x7d"))
    | .matching subject marks arms =>
      place.operand (ibox 0 (word "match "
        ++ conditionPieces subject (subject.pieces .inside)
        ++ openBlock (attributesPieces marks ++ entriesPieces false arms)))
    | .closure binder head params _ result body =>
      place.operand (ibox 0 (binderPieces binder ++ word head.text
        ++ match result with
          | none =>
            cbox indentation (word "|"
                ++ (if params.isEmpty then [] else seam ++ listed [] (patternsPieces params))
                ++ word "|" ++ outdented space)
              ++ stop ++ closureBody body (body.pieces .inside)
          | some t =>
            cbox indentation (word "|"
                ++ (if params.isEmpty then []
                  else outdented (seam ++ listed lastComma (patternsPieces params)))
                ++ word "|")
              ++ word " -> " ++ t.pieces ++ word " " ++ stop ++ body.pieces .inside))
    | .binding pattern value =>
      place.operand (ibox 0 (word "let " ++ ibox 0 pattern.pieces ++ word " = " ++ stop
        ++ ibox 0 (value.pieces .inside)))
    | .jump kind label value =>
      place.operand (word kind.keyword
        ++ (match label with
          | some name => word (" " ++ lifetimeText name)
          | none => [])
        ++ exprPieces? " " value)
    | .infer => place.operand (word "_")
    | .raw tokens => place.operand (word (streamText tokens))

/-- Expressions. -/
def exprsPieces : List Expr → List (List Piece)
  | [] => []
  | e :: rest => e.pieces .inside :: exprsPieces rest

/-- An expression that may be absent, after a word. -/
def exprPieces? (opening : String) : Option Expr → List Piece
  | none => []
  | some e => word opening ++ e.pieces .inside

/-- The lines of a block. -/
def Expr.lines : Expr → List Piece
  | .block _ marks body => attributesPieces marks ++ entriesPieces false body
  | _ => []

/-- A block on one line, or with its lines in braces. -/
def Expr.small : Expr → List Piece
  | .block _ marks body =>
    smallBlock (attributesPieces marks ++ entriesPieces true body)
      (marks.isEmpty && body.isEmpty)
  | _ => []

/-- What follows the block after a condition. -/
def Expr.otherwise : Expr → List Piece
  | .conditional condition body other =>
    word " else " ++ word "if "
      ++ cbox (-indentation) (conditionPieces condition (condition.pieces .inside)) ++ body.small
      ++ match other with
        | some e => e.otherwise
        | none => []
  | .block _ marks body =>
    word " else " ++ smallBlock (attributesPieces marks ++ entriesPieces true body)
      (marks.isEmpty && body.isEmpty)
  | _ => []

/-- The things in braces; `alone` when an expression that is the only one of them can share its line
with the braces. -/
def entriesPieces (alone : Bool) : List Entry → List Piece
  | [] => []
  | e :: rest => e.pieces (alone && rest.isEmpty) rest.isEmpty ++ entriesPieces false rest

/-- One of the things in braces: `alone` when it can share its line with the braces, `isLast` when
no other one follows it. -/
def Entry.pieces (alone isLast : Bool) : Entry → List Piece
  | .field attributes member colon value =>
    attributesPieces attributes ++ word member.text
      ++ if colon then word ": " ++ ibox 0 (value.pieces .inside) else []
  | .rest value =>
    match value with
    | some e => word ".." ++ wordIf e.startsInDots " " ++ e.pieces .inside ++ space
    | none => []
  | .arm attributes pattern guard body _ =>
    attributesPieces attributes
      ++ ibox 0 (pattern.pieces ++ exprPieces? " if " guard ++ word " => " ++ body.pieces .arm)
      ++ newline
  | .empty => []
  | .declare attributes pattern value otherwise =>
    attributesPieces attributes
      ++ (match value with
        | none => ibox 0 (word "let " ++ pattern.pieces)
        | some e =>
          let start := word "let " ++ pattern.pieces ++ word " = " ++ stop ++ e.pieces .inside
          match otherwise with
          | none => ibox 0 start
          | some block =>
            ibox 0 (start ++ space ++ word "else ") ++ stop ++ cbox indentation block.small)
      ++ word ";" ++ newline
  | .item item => item.pieces
  | .expr value semicolon =>
    if alone && !semicolon then ibox 0 (value.pieces .lineStart) ++ space
    else
      let closed := if semicolon then !value.dropsSemicolon else value.wantsSemicolon
      ibox 0 (value.pieces .lineStart ++ wordIf closed ";") ++ newline
  | .invocation attributes call semicolon =>
    attributesPieces attributes ++ invocationPieces call none (semicolon || !isLast) ++ newline

/-- The fields of a struct literal. -/
def literalFields : List Entry → List Piece
  | [] => []
  | e :: rest =>
    e.pieces false false
      ++ (match e, rest with
        | .rest _, _ => []
        | _, [] | _, [.rest none] => lastCommaOrSpace
        | _, _ => word "," ++ space)
      ++ literalFields rest

/-- A pattern. -/
def Pattern.pieces : Pattern → List Piece
  | .attributed attributes inner => attributesPieces attributes ++ inner.pieces
  | .value value => value.pieces .inside
  | .ident byRef isMut name =>
    wordIf byRef "ref " ++ wordIf isMut "mut " ++ word name.text
  | .bound byRef isMut name inner =>
    wordIf byRef "ref " ++ wordIf isMut "mut " ++ word (name.text ++ " @ ") ++ inner.pieces
  | .invocation call => invocationPieces call none false
  | .alternatives _ cases =>
    box 0 (if cases.all Pattern.isSmall then .inconsistent else .consistent)
      (summed "" "| " (patternsPieces cases))
  | .paren inner => word "(" ++ inner.pieces ++ word ")"
  | .reference isMut target => word (if isMut then "&mut " else "&") ++ target.pieces
  | .rest => word ".."
  | .wild => word "_"
  | .range start closed finish =>
    exprPieces? "" start ++ word (if closed then "..=" else "..") ++ exprPieces? "" finish
  | .slice elements _ => word "[" ++ listed lastComma (patternsPieces elements) ++ word "]"
  | .tuple elements trailing =>
    match patternsPieces elements with
    | [p] => enclosedAlone (p ++ wordIf trailing ",")
    | ps => enlisted "(" ")" indentation ps
  | .struct path fields _ =>
    cbox indentation (path.pieces .inside ++ word " \x7b"
        ++ outdented (spaceBefore ++ fieldPatternsPieces fields))
      ++ word "\x7d"
  | .field member pattern => word (member.text ++ ": ") ++ pattern.pieces
  | .called path elements _ =>
    path.pieces .inside ++ enlisted "(" ")" indentation (patternsPieces elements)
  | .typed pattern t => pattern.pieces ++ word ": " ++ t.pieces
  | .receiver byRef lifetime isMut colon t =>
    wordIf byRef "&" ++ lifetimeBefore lifetime ++ wordIf isMut "mut " ++ word "self"
      ++ if colon || !isImpliedReceiver byRef isMut t then word ": " ++ t.pieces else []
  | .variadic => word "..."
  | .raw tokens => word (streamText tokens)

/-- Patterns. -/
def patternsPieces : List Pattern → List (List Piece)
  | [] => []
  | p :: rest => p.pieces :: patternsPieces rest

/-- The fields of a struct pattern. -/
def fieldPatternsPieces : List Pattern → List Piece
  | [] => []
  | p :: rest =>
    p.pieces
      ++ (if p.isRest then space else if rest.isEmpty then lastCommaOrSpace
        else word "," ++ space)
      ++ fieldPatternsPieces rest

/-- Fields. -/
def fieldsPieces : List Field → List (List Piece)
  | [] => []
  | f :: rest => f.pieces :: fieldsPieces rest

/-- A field. -/
def Field.pieces : Field → List Piece
  | ⟨attributes, visibility, name, _, type⟩ =>
    attributesPieces attributes ++ word visibility.text
      ++ (match name with
        | some name => word (name.text ++ ": ")
        | none => [])
      ++ type.pieces

/-- A struct. -/
def Struct.pieces : Struct → List Piece
  | ⟨attributes, visibility, name, _, generics, shape, fields, _⟩ =>
    let start := word (visibility.text ++ "struct " ++ name.text) ++ generics.pieces
    attributesPieces attributes
      ++ (match shape with
        | .named =>
          braced (start ++ whereBody generics.predicatePieces) (commaLines (fieldsPieces fields))
        | .positional =>
          cbox indentation (start ++ enlisted "(" ")" indentation (fieldsPieces fields)
            ++ whereEnd generics.predicatePieces)
        | .unit => cbox indentation (start ++ whereEnd generics.predicatePieces))
      ++ newline

/-- Variants. -/
def variantsPieces : List Variant → List (List Piece)
  | [] => []
  | v :: rest => v.pieces :: variantsPieces rest

/-- A variant. -/
def Variant.pieces : Variant → List Piece
  | ⟨attributes, name, shape, fields, _, value⟩ =>
    attributesPieces attributes ++ word name.text
      ++ (match shape with
        | .named =>
          word " \x7b"
            ++ cbox indentation
              (outdented (space ++ listed lastCommaOrSpace (fieldsPieces fields)))
            ++ word "\x7d"
        | .positional => enlisted "(" ")" indentation (fieldsPieces fields)
        | .unit => [])
      ++ exprPieces? " = " value

/-- An item. -/
def Item.pieces : Item → List Piece
  | .const attributes visibility place isDefault name type value =>
    attributesPieces attributes
      ++ cbox (if place = .module then indentation else 0)
        (word (visibility.text ++ (if isDefault then "default " else "") ++ "const " ++ name.text
            ++ ": ") ++ type.pieces
          ++ (match value with
            | some e => word " = " ++ stop ++ e.pieces .inside
            | none => [])
          ++ word ";")
      ++ newline
  | .static attributes visibility isMut name type value =>
    attributesPieces attributes
      ++ cbox 0
        (word (visibility.text ++ "static " ++ (if isMut then "mut " else "") ++ name.text ++ ": ")
          ++ type.pieces
          ++ (match value with
            | some e => word " = " ++ stop ++ e.pieces .inside
            | none => [])
          ++ word ";")
      ++ newline
  | .typeAlias attributes visibility place isDefault name generics bounds _ type =>
    let start :=
      word (visibility.text ++ (if isDefault then "default " else "") ++ "type " ++ name.text)
        ++ generics.pieces
    let type? := match type with
      | some t => definedAs t.pieces
      | none => []
    attributesPieces attributes
      ++ (match place with
        | .module =>
          cbox indentation
            (start ++ whereInline generics.predicatePieces ++ type? ++ word ";")
        | .body =>
          cbox indentation (start ++ summed ": " "+ " (boundsPieces bounds)
            ++ wordIf (!type?.isEmpty) " " ++ type? ++ whereInlineEnd generics.predicatePieces)
        | .foreign => cbox 0 (start ++ word ";"))
      ++ newline
  | .function attributes visibility head name generics params _ result body =>
    let start :=
      word (visibility.text ++ head.text ++ "fn " ++ name.text) ++ generics.pieces ++ word "("
        ++ stop
        ++ cbox 0
          (parameterPieces (params.getLast?.any Pattern.isVariadic) (patternsPieces params))
        ++ word ")" ++ cbox (-indentation) (resultPieces result)
    attributesPieces attributes
      ++ (match body with
        | some block => braced (start ++ whereBody generics.predicatePieces) block.lines
        | none => cbox indentation (start ++ whereEnd generics.predicatePieces))
      ++ newline
  | .invocation attributes call name =>
    attributesPieces attributes ++ invocationPieces call name true ++ newline
  | .struct value => value.pieces
  | .enum attributes visibility name generics variants _ =>
    attributesPieces attributes
      ++ braced
        (word (visibility.text ++ "enum " ++ name.text) ++ generics.pieces
          ++ whereBody generics.predicatePieces)
        (commaLines (variantsPieces variants))
      ++ newline
  | .union attributes visibility name generics fields _ =>
    attributesPieces attributes
      ++ braced
        (word (visibility.text ++ "union " ++ name.text) ++ generics.pieces
          ++ whereBody generics.predicatePieces)
        (commaLines (fieldsPieces fields))
      ++ newline
  | .trait attributes visibility isUnsafe isAuto name generics bounds _ marks items =>
    attributesPieces attributes
      ++ braced
        (word (visibility.text ++ (if isUnsafe then "unsafe " else "")
            ++ (if isAuto then "auto " else "") ++ "trait " ++ name.text)
          ++ generics.pieces ++ wordIf (!bounds.isEmpty) ": "
          ++ joined " + " (boundsPieces bounds) ++ whereBody generics.predicatePieces)
        (attributesPieces marks ++ itemsPieces items)
      ++ newline
  | .traitAlias attributes visibility name generics bounds _ =>
    attributesPieces attributes
      ++ cbox indentation
        (word (visibility.text ++ "trait " ++ name.text) ++ generics.pieces ++ word " = " ++ stop
          ++ summed "" "+ " (boundsPieces bounds) ++ whereEnd generics.predicatePieces)
      ++ newline
  | .implementation attributes isDefault isUnsafe generics negative role self marks items =>
    attributesPieces attributes
      ++ braced
        (ibox (-indentation)
            (cbox indentation
                (wordIf isDefault "default " ++ wordIf isUnsafe "unsafe " ++ word "impl"
                  ++ generics.pieces)
              ++ word " "
              ++ (match role with
                | some path =>
                  wordIf negative "!" ++ path.pieces .type ++ space ++ word "for "
                | none => [])
              ++ self.pieces)
          ++ whereBody generics.predicatePieces)
        (attributesPieces marks ++ itemsPieces items)
      ++ newline
  | .module attributes visibility isUnsafe name marks items =>
    attributesPieces attributes
      ++ braced
        (word (visibility.text ++ (if isUnsafe then "unsafe " else "") ++ "mod " ++ name.text
          ++ " "))
        (attributesPieces marks ++ itemsPieces items)
      ++ newline
  | .outlineModule attributes visibility isUnsafe name =>
    attributesPieces attributes
      ++ cbox indentation
        (word (visibility.text ++ (if isUnsafe then "unsafe " else "") ++ "mod " ++ name.text
          ++ ";"))
      ++ newline
  | .foreign attributes isUnsafe convention marks items =>
    attributesPieces attributes
      ++ braced (wordIf isUnsafe "unsafe " ++ word (Convention.text (some convention)))
        (attributesPieces marks ++ itemsPieces items)
      ++ newline
  | .externCrate attributes visibility name other =>
    attributesPieces attributes ++ word (visibility.text ++ "extern crate " ++ name.text)
      ++ (match other with
        | some other => word (" as " ++ other.text)
        | none => [])
      ++ word ";" ++ newline
  | .use attributes visibility rooted tree =>
    attributesPieces attributes
      ++ word (visibility.text ++ "use " ++ if rooted then "::" else "") ++ tree.pieces
      ++ word ";" ++ newline
  | .raw tokens => word (streamText tokens) ++ newline

/-- Items. -/
def itemsPieces : List Item → List Piece
  | [] => []
  | item :: rest => item.pieces ++ itemsPieces rest

end

/-- Items as source text. -/
def layoutItems (items : List Item) : String := layout (cbox 0 (itemsPieces items))

end BuilderGen.Code
