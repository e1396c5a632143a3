import BuilderGen.Layout.Page

/-!
# Shapes of pieces

Words, gaps and boxes, and the ways they are put together: lists with separators, things in
brackets, and limits on how wide a box may be.
-/

namespace BuilderGen.Layout

/-- The number of columns one level of indentation is wide. -/
def indentation : Int := 4

/-! ### Words, gaps and boxes -/

/-- A word. -/
def word (s : String) : List Piece := [.word s]

/-- A word when it is there. -/
def wordIf (present : Bool) (s : String) : List Piece := if present then word s else []

/-- A gap that is a space when the line goes on. -/
def space : List Piece := [.gap { width := 1 }]

/-- A gap that is nothing when the line goes on. -/
def seam : List Piece := [.gap {}]

/-- A gap that ends the line. -/
def newline : List Piece := [.gap { forced := true }]

/-- A gap that ends the line, unless the box ends here. -/
def newlineBefore : List Piece := [.gap { forced := true, optional := true }]

/-- A space, unless the box ends here. -/
def spaceBefore : List Piece := [.gap { width := 1, optional := true }]

/-- The end of what has to fit on one line; nothing is written and the line goes on. -/
def stop : List Piece := [.gap { fixed := true }]

/-- A comma at the end of a list, which is only written when the line ends. -/
def lastComma : List Piece := [.gap { before := "," }]

/-- A comma at the end of a list which is only written when the line ends, and a space otherwise. -/
def lastCommaOrSpace : List Piece := [.gap { before := ",", width := 1 }]

/-- A box. -/
def box (indent : Int) (breaks : Breaks) (inner : List Piece) : List Piece :=
  .opened indent breaks :: inner ++ [.closed]

/-- A box whose gaps break all or none. -/
def cbox (indent : Int) (inner : List Piece) : List Piece := box indent .consistent inner

/-- A box whose gaps break where they have to. -/
def ibox (indent : Int) (inner : List Piece) : List Piece := box indent .inconsistent inner

/-- Pieces that end with a gap, so that the line after it is indented less. -/
def outdented (pieces : List Piece) : List Piece :=
  match pieces.getLast? with
  | some (.gap g) => pieces.dropLast ++ [.gap { g with offset := g.offset - indentation }]
  | _ => pieces

/-! ### Lists -/

/-- Things with commas between them, and a gap after the last one. -/
def listed (last : List Piece) : List (List Piece) → List Piece
  | [] => []
  | [a] => a ++ last
  | a :: rest => a ++ word "," ++ space ++ listed last rest

/-- What stands in brackets: a seam, and things with commas between them, each on a line of its own
if they do not fit on one. Then a comma follows the last one too, and the next line goes back. -/
def enclosed (things : List (List Piece)) : List Piece :=
  outdented (seam ++ listed lastComma things)

/-- Brackets around things with commas between them; nothing stands between the brackets when there
are none. -/
def enlisted (opening closing : String) (indent : Int) (things : List (List Piece)) : List Piece :=
  word opening ++ cbox indent (enclosed things) ++ word closing

/-- Brackets around one thing after which no comma is put. -/
def enclosedAlone (thing : List Piece) : List Piece :=
  word "(" ++ cbox indentation (outdented (seam ++ thing ++ seam)) ++ word ")"

/-- The elements of a tuple in parentheses; a comma follows a single one. -/
def tupled (elements : List (List Piece)) : List Piece :=
  match elements with
  | [a] => enclosedAlone (a ++ word ",")
  | _ => enlisted "(" ")" indentation elements

/-- Things with a separator between them that keeps them on one line. -/
def joined (separator : String) : List (List Piece) → List Piece
  | [] => []
  | [last] => last
  | a :: rest => a ++ word separator ++ joined separator rest

/-- Things with an operator before every one but the first, and what is written before that. -/
def summed (opening operator : String) : List (List Piece) → List Piece
  | [] => []
  | a :: rest => word opening ++ a ++ rest.flatMap (space ++ word operator ++ ·)

/-- Things on lines of their own in braces, in a box that is indented from `head` on. -/
def braced (head : List Piece) (lines : List Piece) : List Piece :=
  cbox indentation (head ++ word "\x7b" ++ outdented (newlineBefore ++ lines)) ++ word "\x7d"

/-! ### Wide boxes -/

/-- The width of pieces on one line; nothing when they do not fit on any line. -/
def flatWidth? : List Piece → Option Nat
  | [] => some 0
  | .word s :: rest => (flatWidth? rest).map (s.utf8ByteSize + ·)
  | .gap g :: rest => if g.forced then none else (flatWidth? rest).map (g.width + ·)
  | .opened .. :: rest | .closed :: rest => flatWidth? rest
  | .overfull :: _ => none

/-- The content of a box that is broken when it is wider than some limit. -/
def limited (limit : Nat) (inner : List Piece) : List Piece :=
  if (flatWidth? (tidy inner)).any (· ≤ limit) then inner else inner ++ [.overfull]

end BuilderGen.Layout
