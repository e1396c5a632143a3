/-!
# JSON

Results for programs are printed as JSON: entries in order, one in a line, each level two blanks
further in.
-/

namespace BuilderGen.Console

/-- A JSON value. -/
inductive JsonValue where
  /-- A text. -/
  | text (s : String)
  /-- A truth value. -/
  | flag (b : Bool)
  /-- Values in order. -/
  | list (values : List JsonValue)
  /-- Values with names, in order. -/
  | record (fields : List (String × JsonValue))
  deriving Inhabited

namespace JsonValue

/-- A hexadecimal digit, in small letters. -/
def hexDigit (n : Nat) : Char := Nat.digitChar n

/-- The way a character is written between quotes. -/
def escape (c : Char) : List Char :=
  match c with
  | '"' => ['\\', '"']
  | '\\' => ['\\', '\\']
  | '\x08' => ['\\', 'b']
  | '\x0c' => ['\\', 'f']
  | '\n' => ['\\', 'n']
  | '\r' => ['\\', 'r']
  | '\t' => ['\\', 't']
  | _ =>
    if c.toNat < 0x20 then
      ['\\', 'u', '0', '0', hexDigit (c.toNat / 16), hexDigit (c.toNat % 16)]
    else [c]

/-- Characters between quotes. -/
def quote (cs : List Char) : List Char := '"' :: (cs.flatMap escape ++ ['"'])

/-- A line break and the blanks of a level. -/
def newLine (level : Nat) : List Char := '\n' :: List.replicate (2 * level) ' '

/-- Written entries between brackets, one in a line. -/
def enclose (opening closing : Char) (level : Nat) : List (List Char) → List Char
  | [] => [opening, closing]
  | first :: rest =>
    opening :: (newLine (level + 1) ++ first
      ++ rest.flatMap (fun entry => ',' :: (newLine (level + 1) ++ entry))
      ++ newLine level ++ [closing])

mutual

/-- The characters of a value at a level. -/
def chars (level : Nat) : JsonValue → List Char
  | .text s => quote s.toList
  | .flag true => ['t', 'r', 'u', 'e']
  | .flag false => ['f', 'a', 'l', 's', 'e']
  | .list values => enclose '[' ']' level (charsOfAll (level + 1) values)
  | .record fields => enclose '\x7b' '\x7d' level (charsOfFields (level + 1) fields)

/-- The characters of each of some values. -/
def charsOfAll (level : Nat) : List JsonValue → List (List Char)
  | [] => []
  | v :: rest => chars level v :: charsOfAll level rest

/-- The characters of each of some values with their names. -/
def charsOfFields (level : Nat) : List (String × JsonValue) → List (List Char)
  | [] => []
  | (name, v) :: rest =>
    (quote name.toList ++ [':', ' '] ++ chars level v) :: charsOfFields level rest

end

/-- The text of a value. -/
def pretty (v : JsonValue) : String := String.ofList (v.chars 0)

end JsonValue

end BuilderGen.Console
