import BuilderGen.Code.Lexer.Word
import BuilderGen.Unicode.Printable

/-!
# Literals

How long the literal at the front of a character list is, and what value a string literal has.
Strings come in three kinds that differ in the characters and escapes they admit.
-/

namespace BuilderGen.Code

open BuilderGen.Unicode

/-- The value of a hexadecimal digit. -/
def hexDigit? (c : Char) : Option Nat :=
  if '0' ≤ c ∧ c ≤ '9' then some (c.toNat - '0'.toNat)
  else if 'a' ≤ c ∧ c ≤ 'f' then some (c.toNat - 'a'.toNat + 10)
  else if 'A' ≤ c ∧ c ≤ 'F' then some (c.toNat - 'A'.toNat + 10)
  else none

/-- Whether a number is a code point that is no surrogate. -/
def isScalar (n : Nat) : Bool := n < 0xD800 || (0xDFFF < n && n ≤ 0x10FFFF)

/-- The digits of an escape after its opening brace: the value and the characters read, closing
brace included. At most six digits are read and underscores may follow the first. -/
def bracedDigits? (count value : Nat) : List Char → Option (Nat × Nat)
  | [] => none
  | c :: rest =>
    if c == '_' && 0 < count then (bracedDigits? count value rest).map fun (v, n) => (v, n + 1)
    else if c == '\x7d' && 0 < count then if isScalar value then some (value, 1) else none
    else
      match hexDigit? c with
      | some d =>
        if count == 6 then none
        else (bracedDigits? (count + 1) (value * 16 + d) rest).map fun (v, n) => (v, n + 1)
      | none => none

/-- The value and the length of the code point escape after `\u`. -/
def codePointEscape? : List Char → Option (Nat × Nat)
  | '\x7b' :: rest => (bracedDigits? 0 0 rest).map fun (v, n) => (v, n + 1)
  | _ => none

/-- The three kinds of string literal. -/
inductive StringKind where
  /-- Text. -/
  | text
  /-- Bytes, written in ASCII. -/
  | bytes
  /-- Text without a null character. -/
  | terminated
  deriving DecidableEq

/-- Whether a string of this kind may hold a character as it is. -/
def StringKind.admits : StringKind → Char → Bool
  | .text, _ => true
  | .bytes, c => c.toNat < 128
  | .terminated, c => c != '\x00'

/-- Whether a string of this kind may hold the two-digit escape `\xHL`. -/
def StringKind.admitsByte (kind : StringKind) (high low : Char) : Bool :=
  match hexDigit? high, hexDigit? low with
  | some h, some l =>
    match kind with
    | .text => h < 8
    | .bytes => true
    | .terminated => h + l != 0
  | _, _ => false

/-- The blanks that a line continuation skips. -/
def isContinuationBlank (c : Char) : Bool := c == ' ' || c == '\t' || c == '\n' || c == '\r'

/-- The length of the blanks after a line continuation whose last character was `last`. A carriage
return must be followed by a line feed, and the string must go on. -/
def continuationLength? (last : Char) : List Char → Option Nat
  | [] => none
  | c :: rest =>
    if last == '\r' then
      if c == '\n' then (continuationLength? '\n' rest).map (· + 1) else none
    else if isContinuationBlank c then (continuationLength? c rest).map (· + 1)
    else some 0

/-- The length of the escape after a backslash. -/
def escapeLength? (kind : StringKind) : List Char → Option Nat
  | 'x' :: high :: low :: _ => if kind.admitsByte high low then some 3 else none
  | 'u' :: rest =>
    if kind = .bytes then none
    else
      match codePointEscape? rest with
      | some (v, n) => if kind = .terminated && v == 0 then none else some (n + 1)
      | none => none
  | c :: rest =>
    if c == '\n' || c == '\r' then (continuationLength? c rest).map (· + 1)
    else if c == '0' then if kind = .terminated then none else some 1
    else if c == 'n' || c == 'r' || c == 't' || c == '\\' || c == '\x27' || c == '"' then some 1
    else none
  | [] => none

/-- The length of a quoted string after its opening quote, closing quote included. -/
def quotedLength? (kind : StringKind) (cs : List Char) : Option Nat :=
  match cs with
  | [] => none
  | '"' :: _ => some 1
  | '\r' :: '\n' :: rest => (quotedLength? kind rest).map (· + 2)
  | '\r' :: _ => none
  | '\\' :: rest =>
    match escapeLength? kind rest with
    | some n => (quotedLength? kind (rest.drop n)).map (· + 1 + n)
    | none => none
  | c :: rest => if kind.admits c then (quotedLength? kind rest).map (· + 1) else none
termination_by cs.length
decreasing_by
  all_goals simp only [List.length_drop, List.length_cons]; omega

/-- The length of a raw string after its opening quote, closing quote and hashes included. -/
def rawLength? (kind : StringKind) (hashes : Nat) : List Char → Option Nat
  | [] => none
  | '\r' :: '\n' :: rest => (rawLength? kind hashes rest).map (· + 2)
  | '\r' :: _ => none
  | c :: rest =>
    if c == '"' && (List.replicate hashes '#').isPrefixOf rest then some (hashes + 1)
    else if kind.admits c then (rawLength? kind hashes rest).map (· + 1)
    else none

/-- The length of a raw string after its `r`: hashes, quote, text, quote, hashes. -/
def hashedLength? (kind : StringKind) (cs : List Char) : Option Nat :=
  let hashes := (cs.takeWhile (· == '#')).length
  match cs.drop hashes with
  | '"' :: rest =>
    if 255 < hashes then none else (rawLength? kind hashes rest).map (· + hashes + 1)
  | _ => none

/-- The length of the string literal at the front, suffix not included. -/
def stringLength? : List Char → Option Nat
  | '"' :: rest => (quotedLength? .text rest).map (· + 1)
  | 'b' :: '"' :: rest => (quotedLength? .bytes rest).map (· + 2)
  | 'c' :: '"' :: rest => (quotedLength? .terminated rest).map (· + 2)
  | 'r' :: rest => (hashedLength? .text rest).map (· + 1)
  | 'b' :: 'r' :: rest => (hashedLength? .bytes rest).map (· + 2)
  | 'c' :: 'r' :: rest => (hashedLength? .terminated rest).map (· + 2)
  | _ => none

/-- The length of a character literal after its opening quote, closing quote included. -/
def characterLength? (kind : StringKind) : List Char → Option Nat
  | '\\' :: rest =>
    if rest.head?.any fun c => c == '\n' || c == '\r' then none
    else
      match escapeLength? kind rest with
      | some n => if (rest.drop n).head? == some '\x27' then some (n + 2) else none
      | none => none
  | c :: '\x27' :: _ => if kind.admits c then some 2 else none
  | _ => none

/-- The length of the character or byte literal at the front, suffix not included. -/
def quoteLength? : List Char → Option Nat
  | 'b' :: '\x27' :: rest => (characterLength? .bytes rest).map (· + 2)
  | '\x27' :: rest => (characterLength? .text rest).map (· + 1)
  | _ => none

/-- Whether a character is a decimal digit or an underscore. -/
def isDigitOrGap (c : Char) : Bool := c.isDigit || c == '_'

/-- The length of an exponent after its `e`: a sign, digits and underscores, with at least one
digit. A second sign before the digits refuses the exponent. -/
def exponentLength? (signed valued : Bool) : List Char → Option Nat
  | c :: rest =>
    if c == '+' || c == '-' then
      if valued then some 0
      else if signed then none
      else (exponentLength? true valued rest).map (· + 1)
    else if c.isDigit then (exponentLength? signed true rest).map (· + 1)
    else if c == '_' then (exponentLength? signed valued rest).map (· + 1)
    else if valued then some 0 else none
  | [] => if valued then some 0 else none

/-- The length of the digits of a number with a point or an exponent. A point is not part of the
number before another point or a name. -/
def floatDigits? (cs : List Char) : Option Nat :=
  if cs.head?.any Char.isDigit then
    let whole := (cs.takeWhile isDigitOrGap).length
    let pointed? : Option (Bool × Nat) :=
      match cs.drop whole with
      | '.' :: rest =>
        if rest.head?.any fun c => c == '.' || isIdentifierStart c then none
        else some (true, whole + 1 + (rest.takeWhile isDigitOrGap).length)
      | _ => some (false, whole)
    match pointed? with
    | none => none
    | some (pointed, n) =>
      let plain := if pointed then some n else none
      match cs.drop n with
      | c :: rest =>
        if c == 'e' || c == 'E' then
          match exponentLength? false false rest with
          | some k => some (n + 1 + k)
          | none => plain
        else plain
      | [] => plain
  else none

/-- The length of the digits of a whole number after its base mark. A digit too large for the base
refuses the number, a letter too large ends it. -/
def wholeDigits? (base : Nat) (empty : Bool) : List Char → Option Nat
  | c :: rest =>
    if c == '_' then
      if empty && base == 10 then none else (wholeDigits? base empty rest).map (· + 1)
    else
      match hexDigit? c with
      | some d =>
        if d < base then (wholeDigits? base false rest).map (· + 1)
        else if c.isDigit then none
        else if empty then none else some 0
      | none => if empty then none else some 0
  | [] => if empty then none else some 0

/-- The length of the digits of the whole number at the front, base mark included. -/
def intDigits? (cs : List Char) : Option Nat :=
  if startsWith "0x" cs then (wholeDigits? 16 true (cs.drop 2)).map (· + 2)
  else if startsWith "0o" cs then (wholeDigits? 8 true (cs.drop 2)).map (· + 2)
  else if startsWith "0b" cs then (wholeDigits? 2 true (cs.drop 2)).map (· + 2)
  else wholeDigits? 10 true cs

/-- The length of a number with its suffix, given the length of its digits. No identifier character
may follow it. -/
def withSuffix? (cs : List Char) (digits : Nat) : Option Nat :=
  let n := digits + suffixLength (cs.drop digits)
  if (cs.drop n).head?.any isIdentifierContinue then none else some n

/-- The length of the literal at the front, suffix included. -/
def literalLength? (cs : List Char) : Option Nat :=
  match (stringLength? cs).or (quoteLength? cs) with
  | some n => some (n + suffixLength (cs.drop n))
  | none => ((floatDigits? cs).bind (withSuffix? cs)).or ((intDigits? cs).bind (withSuffix? cs))

/-- The character that a one-letter escape stands for. -/
def letterEscape (c : Char) : Char :=
  if c == 'n' then '\n' else if c == 'r' then '\r' else if c == 't' then '\t'
  else if c == '0' then '\x00' else c

/-- The characters that a quoted string stands for, read after its opening quote. -/
def quotedValue (cs : List Char) : List Char :=
  match cs with
  | [] => []
  | '"' :: _ => []
  | '\r' :: '\n' :: rest => '\n' :: quotedValue rest
  | '\\' :: c :: rest =>
    if c == 'x' then
      match rest with
      | high :: low :: rest =>
        let value := (hexDigit? high).getD 0 * 16 + (hexDigit? low).getD 0
        Char.ofNat value :: quotedValue rest
      | _ => []
    else if c == 'u' then
      match codePointEscape? rest with
      | some (v, n) => Char.ofNat v :: quotedValue (rest.drop n)
      | none => []
    else if c == '\n' || c == '\r' then
      quotedValue (rest.drop (rest.takeWhile isContinuationBlank).length)
    else letterEscape c :: quotedValue rest
  | c :: rest => c :: quotedValue rest
termination_by cs.length
decreasing_by
  all_goals simp only [List.length_drop, List.length_cons]; omega

/-- The text of a string literal of the text kind, `none` for every other literal. -/
def stringValue? (literal : String) : Option String :=
  match literal.toList with
  | '"' :: rest => some (String.ofList (quotedValue rest))
  | 'r' :: rest =>
    let hashes := (rest.takeWhile (· == '#')).length
    let body := rest.drop (hashes + 1)
    let length := ((rawLength? .text hashes body).getD 0) - (hashes + 1)
    some (String.ofList (body.take length))
  | _ => none

/-- Whether a literal is a number with a point or an exponent. -/
def isFloatLiteral (literal : String) : Bool :=
  let cs := literal.toList
  (floatDigits? cs).bind (withSuffix? cs) == some cs.length

/-- Whether a literal is a number. -/
def isNumberLiteral (literal : String) : Bool := literal.toList.head?.any Char.isDigit

/-- Whether a literal is a whole number. -/
def isIntLiteral (literal : String) : Bool := isNumberLiteral literal && !isFloatLiteral literal

/-- The digits of a whole number in a base, read from a value on, and what follows them; underscores
between them say nothing. -/
def wholeValue (base value : Nat) : List Char → Nat × List Char
  | [] => (value, [])
  | c :: rest =>
    if c == '_' then wholeValue base value rest
    else
      match hexDigit? c with
      | some d => if d < base then wholeValue base (value * base + d) rest else (value, c :: rest)
      | none => (value, c :: rest)

/-- The value of a whole number, and its suffix. -/
def intValue (literal : String) : Nat × String :=
  let cs := literal.toList
  let (value, suffix) :=
    if startsWith "0x" cs then wholeValue 16 0 (cs.drop 2)
    else if startsWith "0o" cs then wholeValue 8 0 (cs.drop 2)
    else if startsWith "0b" cs then wholeValue 2 0 (cs.drop 2)
    else wholeValue 10 0 cs
  (value, String.ofList suffix)

/-- An escape by the number of a character, in hexadecimal digits. -/
def codePointEscape (c : Char) : List Char :=
  ['\\', 'u', '\x7b'] ++ Nat.toDigits 16 c.toNat ++ ['\x7d']

/-- A character as it is written inside a quoted string before `rest`. Digits must not seem to
belong to the escape of a null character, and what cannot be seen is given by its number. -/
def escapeChar (c : Char) (rest : List Char) : List Char :=
  if c == '\x00' then
    if rest.head?.any fun d => '0' ≤ d && d ≤ '7' then ['\\', 'x', '0', '0'] else ['\\', '0']
  else if c == '"' || c == '\\' then ['\\', c]
  else if c == '\n' then ['\\', 'n']
  else if c == '\r' then ['\\', 'r']
  else if c == '\t' then ['\\', 't']
  else if !isPrintable c then codePointEscape c
  else [c]

/-- Characters as they are written inside a quoted string. -/
def escapeChars : List Char → List Char
  | [] => []
  | c :: rest => escapeChar c rest ++ escapeChars rest

/-- The literal that stands for a text. -/
def quoteString (s : String) : String :=
  String.ofList ('"' :: escapeChars s.toList ++ ['"'])

end BuilderGen.Code
