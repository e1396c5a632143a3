/-!
# Breaking lines

A text to be laid out is a list of pieces: words, gaps where a line may end, and boxes around them.
What stands between two gaps stays on one line. A box that fits on the rest of the line is laid out
flat; in any other box, either all gaps of its own end the line, or only those after which the next
word would not fit.

Widths are counted in bytes.
-/

namespace BuilderGen.Layout

/-- What the gaps of a box do when it does not fit on the line. -/
inductive Breaks where
  /-- All of them end the line. -/
  | consistent
  /-- Each ends the line only if what follows it does not fit. -/
  | inconsistent
  deriving DecidableEq, Repr

/-- A place where a line may end. -/
structure Gap where
  /-- The number of spaces it stands for when the line goes on. -/
  width : Nat := 0
  /-- How much further than the box the next line starts. -/
  offset : Int := 0
  /-- What is written before the line ends. -/
  before : String := ""
  /-- What the next line starts with. -/
  after : String := ""
  /-- What is written when the line goes on. -/
  flat : String := ""
  /-- Whether the line always ends here. -/
  forced : Bool := false
  /-- Whether the line never ends here; such a gap only marks how far a word reaches. -/
  fixed : Bool := false
  /-- Whether the gap disappears at the end of a box. -/
  optional : Bool := false
  deriving DecidableEq, Repr

/-- A piece of a text to be laid out. -/
inductive Piece where
  /-- A word, which is never broken. -/
  | word (text : String)
  /-- A gap. -/
  | gap (gap : Gap)
  /-- The start of a box; the lines in it are indented further by `indent`. -/
  | opened (indent : Int) (breaks : Breaks)
  /-- The end of a box. -/
  | closed
  /-- Nothing, but too wide for any line: the boxes around it are broken. -/
  | overfull
  deriving DecidableEq, Repr

/-! ### Loose ends

A gap just before the end of a box can be of no use: nothing follows it. -/

/-- Put a piece behind others, given last one first. A box that holds nothing but a gap is dropped
with its gap, and so is an optional gap at the end of a box. -/
def tidyStep : List Piece → Piece → List Piece
  | .gap _ :: .opened .. :: done, .closed => done
  | .gap g :: done, .closed => if g.optional then .closed :: done else .closed :: .gap g :: done
  | done, piece => piece :: done

/-- Pieces without the boxes that hold only a gap and without optional gaps at the end of boxes. -/
def tidy (pieces : List Piece) : List Piece := (pieces.foldl tidyStep []).reverse

/-! ### Lines -/

/-- The last column of a line. -/
def margin : Int := 89

/-- The least room that a line has, however far it is indented. -/
def leastRoom : Int := 60

/-- Whether the pieces up to the next gap fit into some room. Gaps inside `depth` open boxes do not
count as the next one. -/
def fits (room : Int) (depth : Nat) : List Piece → Bool
  | [] => 0 ≤ room
  | .word s :: rest => 0 ≤ room && fits (room - s.utf8ByteSize) depth rest
  | .gap g :: rest =>
    if depth = 0 then 0 ≤ room
    else !g.forced && 0 ≤ room && fits (room - g.width) depth rest
  | .overfull :: _ => false
  | .opened .. :: rest => fits room (depth + 1) rest
  | .closed :: rest => fits room (depth - 1) rest

/-- An open box. -/
inductive Frame where
  /-- It is laid out flat. -/
  | flat
  /-- It is broken, and outside of it lines are indented by `outer`. -/
  | broken (outer : Int) (breaks : Breaks)
  deriving DecidableEq, Repr

/-- What has been laid out so far. -/
structure Page where
  /-- The text without the spaces at its end. -/
  text : String := ""
  /-- The spaces to write before the next word. -/
  pending : Nat := 0
  /-- The room left on the line. -/
  room : Int := margin
  /-- The indentation of the next line. -/
  indent : Int := 0
  /-- The open boxes, innermost first. -/
  frames : List Frame := []
  deriving Repr

namespace Page

/-- Write a word. -/
def write (p : Page) (s : String) : Page :=
  { p with text := p.text ++ String.ofList (List.replicate p.pending ' ') ++ s, pending := 0 }

/-- Whether a gap goes on with the line; `rest` is what follows it. -/
def goesOn (p : Page) (g : Gap) (rest : List Piece) : Bool :=
  g.fixed || match p.frames with
    | .flat :: _ => true
    | .broken _ .consistent :: _ => false
    | .broken _ .inconsistent :: _ | [] => !g.forced && fits (p.room - g.width) 0 rest

/-- Go on with the line at a gap. -/
def goOn (p : Page) (g : Gap) : Page :=
  { p with
    text := p.text ++ g.flat
    pending := p.pending + g.width
    room := p.room - g.width - g.flat.length }

/-- End the line at a gap. -/
def breakLine (p : Page) (g : Gap) : Page :=
  let p := if g.before.isEmpty then p else p.write g.before
  let indent := p.indent + g.offset
  let next : Page :=
    { p with
      text := p.text.push '\n'
      pending := indent.toNat
      room := max (margin - indent) leastRoom - g.after.length }
  if g.after.isEmpty then next else next.write g.after

/-- Lay out one piece; `rest` is what follows it. -/
def put (p : Page) (piece : Piece) (rest : List Piece) : Page :=
  match piece with
  | .word s =>
    let p := p.write s
    { p with room := p.room - s.utf8ByteSize }
  | .gap g => if p.goesOn g rest then p.goOn g else p.breakLine g
  | .opened indent breaks =>
    if fits p.room 1 rest then { p with frames := .flat :: p.frames }
    else { p with frames := .broken p.indent breaks :: p.frames, indent := p.indent + indent }
  | .closed =>
    match p.frames with
    | .broken outer _ :: frames => { p with frames, indent := outer }
    | .flat :: frames => { p with frames }
    | [] => p
  | .overfull => p

/-- Lay out pieces. -/
def putAll (p : Page) : List Piece → Page
  | [] => p
  | piece :: rest => (p.put piece rest).putAll rest

end Page

/-- The text that pieces are laid out as. -/
def layout (pieces : List Piece) : String := (Page.putAll {} (tidy pieces)).text

end BuilderGen.Layout
