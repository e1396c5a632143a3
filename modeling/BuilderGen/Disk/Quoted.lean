import BuilderGen.Disk.Path
import BuilderGen.Unicode.Printable

/-!
# Quoted paths

A path between double quotes, written so that it can be told from every other path.
-/

namespace BuilderGen

/-- The way a character is written between quotes. -/
def quotedChar (c : Char) : List Char :=
  match c with
  | '\x00' => ['\\', '0']
  | '\t' => ['\\', 't']
  | '\n' => ['\\', 'n']
  | '\r' => ['\\', 'r']
  | '"' | '\x27' | '\\' => ['\\', c]
  | _ =>
    if Unicode.isPrintable c then [c]
    else ['\\', 'u', '\x7b'] ++ Nat.toDigits 16 c.toNat ++ ['\x7d']

/-- The path between quotes. -/
def FilePath.quoted (p : FilePath) : String :=
  String.ofList (['"'] ++ p.text.toList.flatMap quotedChar ++ ['"'])

end BuilderGen
