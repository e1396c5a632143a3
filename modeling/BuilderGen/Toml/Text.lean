import BuilderGen.Toml.Value
import BuilderGen.Code.Lexer.Literal

/-!
# TOML texts

Texts are written in four ways: between double quotes, with escapes, or between single quotes, as
they are; and each way for one line or, with the quotes three times, for several.
-/

namespace BuilderGen.Toml

open Code (hexDigit? isScalar)

/-- Whether a text in one line may hold a character as it is, quotes and escapes apart. -/
def isTextChar (c : Char) : Bool := c == '\t' || (0x20 ≤ c.toNat && c.toNat != 0x7F)

/-- The character that a letter after a backslash stands for. -/
def escaped? : Char → Option Char
  | 'b' => some '\x08'
  | 't' => some '\t'
  | 'n' => some '\n'
  | 'f' => some '\x0c'
  | 'r' => some '\r'
  | '"' => some '"'
  | '\\' => some '\\'
  | _ => none

/-- The character whose code point is given by hexadecimal digits. -/
def codePoint? (digits : List Char) : Option Char := do
  let n ← digits.foldlM (fun n c => (hexDigit? c).map (n * 16 + ·)) 0
  if isScalar n then some (Char.ofNat n) else none

/-- A character in front of something that is read. -/
def andThen (c : Char) (r : Option (List Char × List Char)) : Option (List Char × List Char) :=
  r.map fun (text, rest) => (c :: text, rest)

/-- The rest of a text between double quotes, from the first character on. -/
def quotedText : Reader (List Char)
  | [] => none
  | c :: rest =>
    if c = '"' then some ([], rest)
    else if c = '\\' then
      match rest with
      | 'u' :: a :: b :: d :: e :: rest =>
        (codePoint? [a, b, d, e]).bind fun x => andThen x (quotedText rest)
      | 'U' :: a :: b :: d :: e :: f :: g :: h :: i :: rest =>
        (codePoint? [a, b, d, e, f, g, h, i]).bind fun x => andThen x (quotedText rest)
      | a :: rest => (escaped? a).bind fun x => andThen x (quotedText rest)
      | [] => none
    else if isTextChar c then andThen c (quotedText rest)
    else none

/-- The rest of a text between single quotes, from the first character on. -/
def plainText : Reader (List Char)
  | [] => none
  | c :: rest =>
    if c = '\x27' then some ([], rest)
    else if isTextChar c then andThen c (plainText rest)
    else none

/-- What stands before the closing quotes of a text in several lines, when three quotes are read
and more follow: up to two of them belong to the text. -/
def closingQuotes (quote : Char) (cs : List Char) : List Char × List Char :=
  let own := min 2 (cs.takeWhile (· == quote)).length
  (List.replicate own quote, cs.drop own)

/-- What a backslash at the end of a line does. -/
inductive Joining where
  /-- Nothing, there is none. -/
  | none
  /-- The line has to end. -/
  | ending
  /-- Blanks and line breaks are left out. -/
  | trimming
  deriving DecidableEq

/-- The rest of a text of several lines between double quotes. Line breaks count as line feeds. -/
def quotedLines : Joining → Reader (List Char)
  | _, [] => Option.none
  | joining, c :: rest =>
    if c = '\r' then if rest.head? = some '\n' then quotedLines joining rest else Option.none
    else if joining = .ending then
      if isBlank c then quotedLines .ending rest
      else if c = '\n' then quotedLines .trimming rest
      else Option.none
    else if joining = .trimming && (isBlank c || c = '\n') then quotedLines .trimming rest
    else if c = '"' then
      match rest with
      | '"' :: '"' :: rest => some (closingQuotes '"' rest)
      | _ => andThen c (quotedLines .none rest)
    else if c = '\\' then
      match rest with
      | 'u' :: a :: b :: d :: e :: rest =>
        (codePoint? [a, b, d, e]).bind fun x => andThen x (quotedLines .none rest)
      | 'U' :: a :: b :: d :: e :: f :: g :: h :: i :: rest =>
        (codePoint? [a, b, d, e, f, g, h, i]).bind fun x => andThen x (quotedLines .none rest)
      | a :: more =>
        match escaped? a with
        | some x => andThen x (quotedLines .none more)
        | Option.none => quotedLines .ending (a :: more)
      | [] => Option.none
    else if c = '\n' || isTextChar c then andThen c (quotedLines .none rest)
    else Option.none

/-- The rest of a text of several lines between single quotes. Line breaks count as line feeds. -/
def plainLines : Reader (List Char)
  | [] => none
  | c :: rest =>
    if c = '\r' then if rest.head? = some '\n' then plainLines rest else none
    else if c = '\x27' then
      match rest with
      | '\x27' :: '\x27' :: rest => some (closingQuotes '\x27' rest)
      | _ => andThen c (plainLines rest)
    else if c = '\n' || isTextChar c then andThen c (plainLines rest)
    else none

/-- The text without a line break at its front. -/
def skipLineBreak (cs : List Char) : List Char := (lineBreak? cs).getD cs

/-- A text in one line, quotes included. -/
def textInLine? : Reader String
  | '"' :: rest => (quotedText rest).map fun (s, rest) => (String.ofList s, rest)
  | '\x27' :: rest => (plainText rest).map fun (s, rest) => (String.ofList s, rest)
  | _ => none

/-- A text, quotes included. A line break right after three opening quotes is left out. -/
def text? : Reader String
  | '"' :: '"' :: '"' :: rest =>
    (quotedLines .none (skipLineBreak rest)).map fun (s, rest) => (String.ofList s, rest)
  | '\x27' :: '\x27' :: '\x27' :: rest =>
    (plainLines (skipLineBreak rest)).map fun (s, rest) => (String.ofList s, rest)
  | cs => textInLine? cs

end BuilderGen.Toml
