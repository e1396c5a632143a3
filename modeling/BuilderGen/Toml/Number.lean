import BuilderGen.Toml.Value
import BuilderGen.Code.Lexer.Literal

/-!
# TOML numbers, dates and times

Whole numbers have 64 bits and four bases, other numbers are written in decimal, and dates and times
are those of the calendar. Only the form and the range are checked.
-/

namespace BuilderGen.Toml

open Code (hexDigit?)

/-- Digits, of which an underscore may stand between any two, after a first digit. -/
def moreDigits (isDigit : Char → Bool) : Reader (List Char)
  | [] => some ([], [])
  | '_' :: rest =>
    match rest with
    | c :: rest =>
      if isDigit c then (moreDigits isDigit rest).map fun (ds, rest) => (c :: ds, rest) else none
    | [] => none
  | c :: rest =>
    if isDigit c then (moreDigits isDigit rest).map fun (ds, rest) => (c :: ds, rest)
    else some ([], c :: rest)

/-- Digits, at least one. -/
def digits (isDigit : Char → Bool) : Reader (List Char)
  | c :: rest =>
    if isDigit c then (moreDigits isDigit rest).map fun (ds, rest) => (c :: ds, rest) else none
  | [] => none

/-- The value of digits. -/
def digitsValue (base : Nat) (ds : List Char) : Nat :=
  ds.foldl (fun n c => n * base + (hexDigit? c).getD 0) 0

/-- Digits without a leading zero, unless it is the only one. -/
def wholeDigits : Reader (List Char)
  | '0' :: rest => some (['0'], rest)
  | cs => digits Char.isDigit cs

/-- The least number that a whole number of 64 bits cannot be. -/
def integerBound : Nat := 0x8000000000000000

/-- A whole number in a base other than ten, after its sign for the base. -/
def basedInteger (base : Nat) : Reader Value := fun cs => do
  let (ds, rest) ← digits (fun c => (hexDigit? c).any (· < base)) cs
  if digitsValue base ds < integerBound then some (.integer, rest) else none

/-- The least number that counts as infinite: from here on, the nearest number of 64 bits with a
point is out of range. -/
def infiniteFrom : Nat := Nat.pow 2 1024 - Nat.pow 2 970

/-- Whether digits, taken times a power of ten, make a number that counts as infinite. -/
def isInfinite (ds : List Char) (exponent : Int) : Bool :=
  let n := digitsValue 10 ds
  if n = 0 || exponent + ds.length < 300 then false
  else if 400 < exponent then true
  else if 0 ≤ exponent then infiniteFrom ≤ n * Nat.pow 10 exponent.toNat
  else infiniteFrom * Nat.pow 10 (-exponent).toNat ≤ n

/-- The digits after a point, none if there is no point. -/
def fraction : Reader (List Char)
  | '.' :: rest => digits Char.isDigit rest
  | cs => some ([], cs)

/-- The sign at the front of a number, and whether it is a minus. -/
def signOf : List Char → Option Bool × List Char
  | '+' :: rest => (some false, rest)
  | '-' :: rest => (some true, rest)
  | cs => (none, cs)

/-- The exponent after the letter `e`, if there is one. -/
def exponent : Reader (Option Int)
  | c :: rest =>
    if c = 'e' || c = 'E' then do
      let (sign, rest) := signOf rest
      let (ds, rest) ← digits Char.isDigit rest
      let n : Int := digitsValue 10 ds
      some (some (if sign = some true then -n else n), rest)
    else some (none, c :: rest)
  | [] => some (none, [])

/-- A number in decimal, after its sign. Only numbers without a minus can be too large. -/
def decimal (negative : Bool) : Reader Value := fun cs => do
  let (whole, rest) ← wholeDigits cs
  let (part, rest) ← fraction rest
  let (power, rest) ← exponent rest
  if part.isEmpty && power.isNone then
    let n := digitsValue 10 whole
    if n < integerBound || negative && n = integerBound then some (.integer, rest) else none
  else if !negative && isInfinite (whole ++ part) (power.getD 0 - part.length) then none
  else some (.float, rest)

/-- A number. -/
def number : Reader Value := fun cs =>
  match signOf cs with
  | (_, 'i' :: 'n' :: 'f' :: rest) | (_, 'n' :: 'a' :: 'n' :: rest) => some (.float, rest)
  | (none, '0' :: 'x' :: rest) => basedInteger 16 rest
  | (none, '0' :: 'o' :: rest) => basedInteger 8 rest
  | (none, '0' :: 'b' :: rest) => basedInteger 2 rest
  | (sign, rest) => decimal (sign = some true) rest

/-- A number of two digits up to some bound. -/
def twoDigits (last : Nat) : Reader Nat
  | a :: b :: rest =>
    if a.isDigit && b.isDigit && digitsValue 10 [a, b] ≤ last then
      some (digitsValue 10 [a, b], rest)
    else none
  | _ => none

/-- The rest after a certain character. -/
def after (c : Char) : List Char → Option (List Char)
  | d :: rest => if d = c then some rest else none
  | [] => none

/-- The fraction of a second, if there is one. -/
def skipFraction : List Char → List Char
  | '.' :: c :: rest => if c.isDigit then rest.dropWhile Char.isDigit else '.' :: c :: rest
  | cs => cs

/-- The text after a time of day. -/
def time? (cs : List Char) : Option (List Char) := do
  let (_, rest) ← twoDigits 23 cs
  let (_, rest) ← twoDigits 59 (← after ':' rest)
  let (_, rest) ← twoDigits 60 (← after ':' rest)
  some (skipFraction rest)

/-- The text after the distance from universal time. -/
def offset? : List Char → Option (List Char)
  | [] => none
  | c :: rest =>
    if c = 'Z' || c = 'z' then some rest
    else if c = '+' || c = '-' then do
      let (_, rest) ← twoDigits 23 rest
      let (_, rest) ← twoDigits 59 (← after ':' rest)
      some rest
    else none

/-- The number of days of a month. -/
def daysIn (year month : Nat) : Nat :=
  if month = 2 then
    if year % 4 = 0 && (year % 100 != 0 || year % 400 = 0) then 29 else 28
  else if [4, 6, 9, 11].contains month then 30
  else 31

/-- The text after a day of the calendar. -/
def date? (cs : List Char) : Option (List Char) := do
  let (century, rest) ← twoDigits 99 cs
  let (year, rest) ← twoDigits 99 rest
  let (month, rest) ← twoDigits 12 (← after '-' rest)
  let (day, rest) ← twoDigits 31 (← after '-' rest)
  if 1 ≤ month && 1 ≤ day && day ≤ daysIn (century * 100 + year) month then some rest else none

/-- The text after a time that follows a date, or the text itself when no time follows. -/
def skipTime : List Char → List Char
  | c :: rest =>
    if c = 'T' || c = 't' || c = ' ' then
      match time? rest with
      | some rest => (offset? rest).getD rest
      | none => c :: rest
    else c :: rest
  | [] => []

/-- A date, a time, or a date with a time. -/
def dateTime? (cs : List Char) : Option (Value × List Char) :=
  match date? cs with
  | some rest => some (.dateTime, skipTime rest)
  | none => (time? cs).map fun rest => (.dateTime, rest)

end BuilderGen.Toml
